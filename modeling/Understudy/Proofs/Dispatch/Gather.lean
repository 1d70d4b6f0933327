import Understudy.Dispatch
import Understudy.Proofs.ImportMap.Insertion

/-!
# Gathering results in some order

`Collection.gather` is a collection after the results of a list of files were added one after
another. The entities are then those of the files in that order. The imports do not depend on the
order, as long as no two files bring different imports for one path. That is so where each file
brings imports for itself alone and no two files are the same.
-/

namespace Understudy

open scoped List

namespace Work

/-- What a file contributes to the entities of a collection. -/
def entitiesOf (work : Work) (path : Path) : List Entity :=
  match work path with
  | .ok result => result.entities
  | .error _ => []

def succeeds (work : Work) (path : Path) : Bool :=
  (work path).isOk

theorem succeeds_iff {work : Work} {path : Path} :
    work.succeeds path ↔ ∃ result, work path = .ok result := by
  cases hwork : work path <;> simp [succeeds, hwork, Except.isOk, Except.toBool]

/-- Where two of the files bring imports for one path, they bring the same. -/
def AgreesOnImports (work : Work) (paths : List Path) : Prop :=
  ∀ first ∈ paths, ∀ second ∈ paths, first ≠ second → ∀ ours theirs,
    work first = .ok ours → work second = .ok theirs → ours.imports.Agrees theirs.imports

/-- The imports of each file stand under its own path. -/
def OwnsImports (work : Work) : Prop :=
  ∀ path result, work path = .ok result →
    ∃ statements, result.imports = .ofList [(path, statements)]

theorem OwnsImports.agrees {work : Work} (howns : work.OwnsImports) {paths : List Path}
    (hdistinct : Path.Distinct paths) : work.AgreesOnImports paths := by
  intro first hfirst second hsecond hne ours theirs hours htheirs
  obtain ⟨ourStatements, hours⟩ := howns first ours hours
  obtain ⟨theirStatements, htheirs⟩ := howns second theirs htheirs
  have hdiffer := hdistinct.not_same hfirst hsecond hne
  intro entry hentry other hother hsame
  simp only [hours, htheirs, ImportMap.entries_ofList_singleton, List.mem_singleton]
    at hentry hother
  rw [hentry, hother] at hsame
  exact absurd hsame hdiffer

end Work

namespace Collection

variable {work : Work} {collection : Collection} {order : List Path}

def addFrom (work : Work) (collection : Collection) (path : Path) : Collection :=
  match work path with
  | .ok result => collection.add result
  | .error _ => collection

def gather (work : Work) (collection : Collection) (order : List Path) : Collection :=
  order.foldl (addFrom work) collection

theorem gather_append (order later : List Path) :
    collection.gather work (order ++ later) = (collection.gather work order).gather work later :=
  List.foldl_append

theorem gather_cons (path : Path) (rest : List Path) :
    collection.gather work (path :: rest) = (collection.addFrom work path).gather work rest :=
  rfl

theorem entities_gather :
    (collection.gather work order).entities =
      collection.entities ++ order.flatMap work.entitiesOf := by
  induction order generalizing collection with
  | nil => simp [gather]
  | cons path rest ih =>
      have hadd : (collection.addFrom work path).entities =
          collection.entities ++ work.entitiesOf path := by
        cases hwork : work path <;> simp [addFrom, Work.entitiesOf, hwork, add]
      rw [gather_cons, ih, hadd, List.flatMap_cons, List.append_assoc]

theorem files_gather (hok : ∀ path ∈ order, ∃ result, work path = .ok result) :
    (collection.gather work order).files = collection.files + order.length := by
  induction order generalizing collection with
  | nil => simp [gather]
  | cons path rest ih =>
      obtain ⟨result, hwork⟩ := hok path (by simp)
      have hadd : (collection.addFrom work path).files = collection.files + 1 := by
        simp [addFrom, hwork, add]
      rw [gather_cons, ih fun other hother => hok other (List.mem_cons_of_mem _ hother), hadd,
        List.length_cons]
      omega

def addImports (work : Work) (imports : ImportMap) (path : Path) : ImportMap :=
  match work path with
  | .ok result => imports.extend result.imports
  | .error _ => imports

theorem imports_gather :
    (collection.gather work order).imports = order.foldl (addImports work) collection.imports := by
  induction order generalizing collection with
  | nil => rfl
  | cons path rest ih =>
      have hadd : (collection.addFrom work path).imports =
          addImports work collection.imports path := by
        cases hwork : work path <;> simp [addFrom, addImports, hwork, add]
      rw [gather_cons, ih, hadd, List.foldl_cons]

theorem addImports_comm (hagrees : work.AgreesOnImports order) {first second : Path}
    (hfirst : first ∈ order) (hsecond : second ∈ order) (imports : ImportMap) :
    addImports work (addImports work imports first) second =
      addImports work (addImports work imports second) first := by
  by_cases heq : first = second
  · rw [heq]
  · cases hours : work first with
    | error failure => simp [addImports, hours]
    | ok ours =>
        cases htheirs : work second with
        | error failure => simp [addImports, htheirs]
        | ok theirs =>
            have hagree := hagrees first hfirst second hsecond heq ours theirs hours htheirs
            simpa only [addImports, hours, htheirs] using hagree.extend_comm imports

/-- The imports do not depend on the order of the files. -/
theorem imports_gather_perm (hagrees : work.AgreesOnImports order) {later : List Path}
    (hperm : order ~ later) :
    (collection.gather work order).imports = (collection.gather work later).imports := by
  rw [imports_gather, imports_gather]
  exact hperm.foldl_eq' (fun first hfirst second hsecond imports =>
    addImports_comm hagrees hfirst hsecond imports) _

end Collection

namespace Dispatch

/-- A run over files that all succeed gathers their results in the order of the files. -/
theorem sequential_of_ok {work : Work} {paths : List Path}
    (hok : ∀ path ∈ paths, ∃ result, work path = .ok result) (collection : Collection) :
    sequential work paths collection = ⟨none, collection.gather work paths⟩ := by
  induction paths generalizing collection with
  | nil => rfl
  | cons path rest ih =>
      obtain ⟨result, hwork⟩ := hok path (by simp)
      have hrest := ih (fun other hother => hok other (List.mem_cons_of_mem _ hother))
        (collection.add result)
      simp only [sequential, processOne, hwork, Sink.append, hrest, Collection.gather_cons,
        Collection.addFrom]

end Dispatch

end Understudy
