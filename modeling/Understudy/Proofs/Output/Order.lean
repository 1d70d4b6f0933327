import Understudy.Output
import Understudy.Proofs.Catalog.Agreement
import Understudy.Proofs.Catalog.Flatten
import Understudy.Proofs.Dispatch.Gather
import Understudy.Proofs.Mock.Known

/-!
# What the output takes from the order of the entities

The output takes from the collected entities what a look-up finds, which is the first entity of a
name. Where one entity alone has that name, every order finds it, and so does every order of the
files where one file alone contributes entities of that name; where several do, the order decides.
-/

namespace Understudy

open scoped List

namespace Output

variable {left right : List Entity}

theorem targetTexts_eq_of_agrees (h : Catalog.Agrees ⟨left⟩ ⟨right⟩) (disk : Disk)
    (options : OutputOptions) (targets : List Entity) (cache : SourceCache) :
    targetTexts disk ⟨left⟩ options targets cache =
      targetTexts disk ⟨right⟩ options targets cache := by
  induction targets generalizing cache with
  | nil => rfl
  | cons target rest ih =>
      simp only [targetTexts, targetText, h.flatten_eq,
        Mock.classText_congr h.lookup_knownLiterals, ih]

/-- The output depends on what the catalog looks up and on the imports alone. -/
theorem render_eq_of_agrees (h : Catalog.Agrees ⟨left⟩ ⟨right⟩) (disk : Disk)
    (imports : ImportMap) (options : OutputOptions) (cache : SourceCache) :
    render disk left imports options cache = render disk right imports options cache := by
  have hfiles : Catalog.contributingFiles ⟨left⟩ = Catalog.contributingFiles ⟨right⟩ :=
    funext h.contributingFiles_eq
  simp only [render, importSection, h.targets_eq, hfiles, targetTexts_eq_of_agrees h]

end Output

namespace Work

variable {work : Work} {matching : Entity → Bool} {paths order : List Path}

/-- A file contributes an entity that is looked for. -/
def Declares (work : Work) (matching : Entity → Bool) (path : Path) : Prop :=
  ∃ entity ∈ work.entitiesOf path, matching entity = true

/-- No two of the files contribute entities that are looked for. -/
def Uncontested (work : Work) (paths : List Path) (matching : Entity → Bool) : Prop :=
  ∀ first ∈ paths, ∀ second ∈ paths,
    work.Declares matching first → work.Declares matching second → first = second

theorem find?_flatMap_of_declares {path : Path} (hmem : path ∈ order)
    (hdeclares : work.Declares matching path)
    (honly : ∀ other ∈ order, work.Declares matching other → other = path) :
    (order.flatMap work.entitiesOf).find? matching = (work.entitiesOf path).find? matching := by
  induction order with
  | nil => simp at hmem
  | cons head rest ih =>
      rw [List.flatMap_cons, List.find?_append]
      by_cases hhead : work.Declares matching head
      · rw [honly head List.mem_cons_self hhead]
        exact Option.or_of_isSome (List.find?_isSome.mpr hdeclares)
      · have hnone : (work.entitiesOf head).find? matching = none :=
          List.find?_eq_none.mpr fun entity hentity hmatching => hhead ⟨entity, hentity, hmatching⟩
        have hne : path ≠ head := fun heq => hhead (heq ▸ hdeclares)
        rw [hnone, Option.none_or]
        exact ih ((List.mem_cons.mp hmem).resolve_left hne) fun other hother =>
          honly other (List.mem_cons_of_mem _ hother)

theorem Uncontested.find?_flatMap_eq (h : work.Uncontested paths matching)
    (hperm : order ~ paths) :
    (order.flatMap work.entitiesOf).find? matching =
      (paths.flatMap work.entitiesOf).find? matching := by
  by_cases hany : ∃ path ∈ paths, work.Declares matching path
  · obtain ⟨path, hmem, hdeclares⟩ := hany
    have honly : ∀ other ∈ paths, work.Declares matching other → other = path :=
      fun other hother hdeclared => h other hother path hmem hdeclared hdeclares
    rw [find?_flatMap_of_declares (hperm.mem_iff.mpr hmem) hdeclares fun other hother =>
      honly other (hperm.subset hother), find?_flatMap_of_declares hmem hdeclares honly]
  · have hnone : ∀ files, files ⊆ paths →
        (files.flatMap work.entitiesOf).find? matching = none := by
      intro files hsubset
      refine List.find?_eq_none.mpr fun entity hentity hmatching => hany ?_
      obtain ⟨path, hpath, hmem⟩ := List.mem_flatMap.mp hentity
      exact ⟨path, hsubset hpath, entity, hmem, hmatching⟩
    rw [hnone order hperm.subset, hnone paths (List.Subset.refl _)]

/-- If every order of the files finds the same entity, one file alone contributes it. -/
theorem uncontested_of_find?_flatMap_eq
    (horigin : ∀ path, ∀ entity ∈ work.entitiesOf path, entity.path = path)
    (hsame : ∀ order, order ~ paths → (order.flatMap work.entitiesOf).find? matching =
      (paths.flatMap work.entitiesOf).find? matching) : work.Uncontested paths matching := by
  have hfound : ∀ path ∈ paths, work.Declares matching path → ∃ entity,
      (paths.flatMap work.entitiesOf).find? matching = some entity ∧ entity.path = path := by
    intro path hmem hdeclares
    -- the order with this file first finds an entity of it, and so does every other order
    obtain ⟨entity, hentity⟩ := Option.isSome_iff_exists.mp (List.find?_isSome.mpr hdeclares)
    refine ⟨entity, ?_, horigin path entity (List.mem_of_find?_eq_some hentity)⟩
    rw [← hsame _ (List.perm_cons_erase hmem).symm, List.flatMap_cons, List.find?_append, hentity,
      Option.some_or]
  intro first hfirst second hsecond hdeclares hdeclared
  obtain ⟨ours, hours, rfl⟩ := hfound first hfirst hdeclares
  obtain ⟨theirs, htheirs, rfl⟩ := hfound second hsecond hdeclared
  rw [Option.some.inj (hours.symm.trans htheirs)]

end Work

section Distinct

variable {left right : List Entity} {matching : Entity → Bool}

theorem find?_eq_of_perm (hperm : left ~ right)
    (honly : ∀ first ∈ left, ∀ second ∈ left,
      matching first = true → matching second = true → first = second) :
    left.find? matching = right.find? matching := by
  cases hleft : left.find? matching with
  | none =>
      refine (List.find?_eq_none.mpr ?_).symm
      intro entity hentity
      exact List.find?_eq_none.mp hleft entity (hperm.mem_iff.mpr hentity)
  | some entity =>
      have hmem := List.mem_of_find?_eq_some hleft
      have hmatching := List.find?_some hleft
      obtain ⟨other, hright⟩ := Option.isSome_iff_exists.mp
        (List.find?_isSome.mpr ⟨entity, hperm.subset hmem, hmatching⟩)
      have hother := hperm.mem_iff.mpr (List.mem_of_find?_eq_some hright)
      rw [hright, honly entity hmem other hother hmatching (List.find?_some hright)]

theorem eq_of_nodup_names (hnodup : ((left.filter matching).map Entity.name).Nodup)
    {first second : Entity} (hfirst : first ∈ left) (hsecond : second ∈ left)
    (hmatches : matching first = true) (hmatched : matching second = true)
    (hname : first.name = second.name) : first = second :=
  List.inj_on_of_nodup_map hnodup (List.mem_filter.mpr ⟨hfirst, hmatches⟩)
    (List.mem_filter.mpr ⟨hsecond, hmatched⟩) hname

theorem Catalog.agrees_of_perm (hperm : left ~ right)
    (hprotocols : ((left.filter Catalog.isProtocol).map Entity.name).Nodup)
    (hclasses : ((left.filter Catalog.isProcessedClass).map Entity.name).Nodup) :
    Catalog.Agrees ⟨left⟩ ⟨right⟩ := by
  constructor
  · intro name
    refine find?_eq_of_perm hperm ?_
    intro first hfirst second hsecond hmatches hmatched
    simp only [Bool.and_eq_true, beq_iff_eq] at hmatches hmatched
    exact eq_of_nodup_names hprotocols hfirst hsecond hmatches.1 hmatched.1
      (hmatches.2.trans hmatched.2.symm)
  · intro name
    refine find?_eq_of_perm hperm ?_
    intro first hfirst second hsecond hmatches hmatched
    obtain ⟨hours, hname, _⟩ := Catalog.mockOf?_eq_some_iff.mp (beq_iff_eq.mp hmatches)
    obtain ⟨htheirs, hother, _⟩ := Catalog.mockOf?_eq_some_iff.mp (beq_iff_eq.mp hmatched)
    exact eq_of_nodup_names hclasses hfirst hsecond hours htheirs (hname.trans hother.symm)

namespace Output

/-- **The order of the entities does not show.** Where protocols have different names, and existing
classes too, the entities in any order render to the same text, or fail with the same error, and
leave the same cache. -/
theorem render_eq_of_perm (hperm : left ~ right)
    (hprotocols : ((left.filter Catalog.isProtocol).map Entity.name).Nodup)
    (hclasses : ((left.filter Catalog.isProcessedClass).map Entity.name).Nodup) (disk : Disk)
    (imports : ImportMap) (options : OutputOptions) (cache : SourceCache) :
    render disk left imports options cache = render disk right imports options cache :=
  render_eq_of_agrees (Catalog.agrees_of_perm hperm hprotocols hclasses) disk imports options cache

theorem render_eq_of_perm_of_cyclicCatalog :
    ((Catalog.cyclicCatalog.entities.filter Catalog.isProtocol).map Entity.name).Nodup ∧
    ((Catalog.cyclicCatalog.entities.filter Catalog.isProcessedClass).map Entity.name).Nodup ∧
    ∀ (disk : Disk) (imports : ImportMap) (options : OutputOptions) (cache : SourceCache),
      render disk Catalog.cyclicCatalog.entities imports options cache =
        render disk Catalog.cyclicCatalog.entities.reverse imports options cache := by
  have hprotocols :
      ((Catalog.cyclicCatalog.entities.filter Catalog.isProtocol).map Entity.name).Nodup := by
    decide +kernel
  have hclasses :
      ((Catalog.cyclicCatalog.entities.filter Catalog.isProcessedClass).map Entity.name).Nodup := by
    decide +kernel
  exact ⟨hprotocols, hclasses, fun disk imports options cache =>
    render_eq_of_perm (List.reverse_perm _).symm hprotocols hclasses disk imports options cache⟩

end Output

end Distinct

end Understudy
