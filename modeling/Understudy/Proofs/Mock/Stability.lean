import Understudy.Proofs.Mock.LeastLevel

/-!
# Identifiers that stay when members come and go

Only stored properties reserve names for all members, and only methods with a recorder take names
from those that come later. So members without stored properties can be appended, and initializers
and processed methods can be left out, and every other member keeps its identifier
(`Identifier.resolve_stable`).
-/

namespace Understudy.Identifier

/-- The items at the places that are marked, in their order. -/
def keepMarked {α : Type} : List Bool → List α → List α
  | true :: marks, item :: items => item :: keepMarked marks items
  | false :: marks, _ :: items => keepMarked marks items
  | _, _ => []

/-- The member is declared under its own name and no recorder comes with it. -/
def IsNamed (member : Member) : Prop :=
  ∃ method, member = .callable method ∧ keepsName method = true

/-- There is one mark for each member, and all members with a recorder are marked. -/
inductive Spares : List Bool → List Member → Prop
  | nil : Spares [] []
  | keep {marks : List Bool} {member : Member} {members : List Member} :
      Spares marks members → Spares (true :: marks) (member :: members)
  | leave {marks : List Bool} {member : Member} {members : List Member} :
      IsNamed member → Spares marks members → Spares (false :: marks) (member :: members)

variable {member : Member} {members : List Member} {marks : List Bool}

theorem takenBy_of_isNamed (h : IsNamed member) (identifier : String) :
    takenBy (member, identifier) = [] := by
  obtain ⟨method, rfl, hkeeps⟩ := h
  rw [takenBy, if_pos hkeeps]

theorem reservedBy_of_isNamed (h : IsNamed member) : reservedBy member = [] := by
  obtain ⟨method, rfl, _⟩ := h
  rfl

theorem flatMap_reservedBy_of_no_stored (h : ∀ property, .stored property ∉ members) :
    members.flatMap reservedBy = [] := by
  apply List.flatMap_eq_nil_iff.mpr
  intro member hmem
  cases member with
  | stored property => exact absurd hmem (h property)
  | callable method => rfl

/-- The turns of earlier members are over before any later one. -/
theorem resolveFrom_prefix_append (used : List String) (earlier later : List Member) :
    resolveFrom used earlier <+: resolveFrom used (earlier ++ later) := by
  induction earlier generalizing used with
  | nil => exact List.nil_prefix
  | cons member rest ih =>
      rw [List.cons_append, resolveFrom_cons, resolveFrom_cons]
      exact (List.prefix_cons_inj _).mpr (ih _)

theorem spares_of_forall_mem_zip (hlength : marks.length = members.length)
    (h : ∀ pair ∈ members.zip marks, pair.2 = false → IsNamed pair.1) : Spares marks members := by
  induction members generalizing marks with
  | nil =>
      obtain rfl := List.eq_nil_of_length_eq_zero hlength
      exact .nil
  | cons member rest ih =>
      cases marks with
      | nil => cases hlength
      | cons mark others =>
          obtain ⟨hfirst, hothers⟩ := List.forall_mem_cons.mp h
          have hrest := ih (Nat.succ.inj hlength) hothers
          cases mark with
          | true => exact .keep hrest
          | false => exact .leave (hfirst rfl) hrest

theorem flatMap_reservedBy_keepMarked (h : Spares marks members) :
    (keepMarked marks members).flatMap reservedBy = members.flatMap reservedBy := by
  induction h with
  | nil => rfl
  | keep _ ih => rw [keepMarked, List.flatMap_cons, List.flatMap_cons, ih]
  | leave hnamed _ ih =>
      rw [keepMarked, List.flatMap_cons, reservedBy_of_isNamed hnamed, ih, List.nil_append]

theorem resolveFrom_keepMarked (h : Spares marks members) (used : List String) :
    resolveFrom used (keepMarked marks members) = keepMarked marks (resolveFrom used members) := by
  induction h generalizing used with
  | nil => rfl
  | keep _ ih => rw [keepMarked, resolveFrom_cons, resolveFrom_cons, keepMarked, ih]
  | leave hnamed _ ih =>
      -- a member that takes no name leaves the names that are used as they are
      rw [keepMarked, resolveFrom_cons, keepMarked, takenBy_of_isNamed hnamed, List.nil_append, ih]

/-- **Identifiers are stable.** Members that are appended without a stored property leave the
identifiers before them as they are, and so do initializers and processed methods that are left out,
wherever they stand, for all other members. -/
theorem resolve_stable :
    (∀ earlier later : List Member, (∀ property, .stored property ∉ later) →
      resolve earlier <+: resolve (earlier ++ later)) ∧
    ∀ (members : List Member) (marks : List Bool), marks.length = members.length →
      (∀ pair ∈ members.zip marks, pair.2 = false → ∃ method, pair.1 = .callable method ∧
        (method.isInitializer = true ∨ method.isProcessed = true)) →
      resolve (keepMarked marks members) = keepMarked marks (resolve members) := by
  constructor
  · intro earlier later hlater
    rw [resolve, resolve, List.flatMap_append, flatMap_reservedBy_of_no_stored hlater,
      List.append_nil]
    exact resolveFrom_prefix_append _ earlier later
  · intro members marks hlength hleft
    have hnamed : ∀ pair ∈ members.zip marks, pair.2 = false → IsNamed pair.1 := by
      intro pair hpair hmark
      obtain ⟨method, hmethod, hkeeps⟩ := hleft pair hpair hmark
      exact ⟨method, hmethod, by simpa [keepsName] using hkeeps⟩
    have hspares := spares_of_forall_mem_zip hlength hnamed
    rw [resolve, resolve, flatMap_reservedBy_keepMarked hspares, resolveFrom_keepMarked hspares]

section Crowded

open Mock

/-- A stored property that comes later can still claim the name of a method. -/
example : ¬resolve [plainCallable "load" "load()" .function] <+:
    resolve [plainCallable "load" "load()" .function, Catalog.plainProperty "load" "Int"] := by
  decide

/-- The member as it is read from a generated file. -/
def readBack : Member → Member
  | .callable method => .callable { method with origin := { method.origin with processed := true } }
  | .stored property => .stored property

/-- Overloads beside a processed one, an initializer and a property that has the name of a slot. -/
def mixedMembers : List Member :=
  [readBack (plainCallable "load" "load()" .function), plainCallable "load" "load(_:)" .function,
    plainCallable "init" "init()" .initializer, Catalog.plainProperty "loadHandler" "Int",
    plainCallable "load" "load(by:)" .function]

theorem resolve_stable_of_mixedMembers :
    resolve mixedMembers = ["load", "loadInt", "init", "loadHandler", "loadInt1"] ∧
    resolve (keepMarked [false, true, false, true, true] mixedMembers) =
      ["loadInt", "loadHandler", "loadInt1"] ∧
    resolve mixedMembers <+:
      resolve (mixedMembers ++ [plainCallable "load" "load(at:)" .function]) := by
  have hall : resolve mixedMembers = ["load", "loadInt", "init", "loadHandler", "loadInt1"] := by
    decide
  have hleft : ∀ pair ∈ mixedMembers.zip [false, true, false, true, true], pair.2 = false →
      ∃ method, pair.1 = .callable method ∧
        (method.isInitializer = true ∨ method.isProcessed = true) := by
    simp only [mixedMembers, List.zip_cons_cons, List.zip_nil_right, List.forall_mem_cons]
    exact ⟨fun _ => ⟨_, rfl, .inr rfl⟩, by simp, fun _ => ⟨_, rfl, .inl rfl⟩, by simp⟩
  refine ⟨hall, ?_, resolve_stable.1 _ _ (by simp [plainCallable])⟩
  rw [resolve_stable.2 mixedMembers _ rfl hleft, hall]
  rfl

end Crowded

end Understudy.Identifier
