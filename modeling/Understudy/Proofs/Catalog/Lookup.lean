import Mathlib.Data.List.Sort
import Understudy.Catalog

/-!
# Looking entities up by name

The protocols of a catalog are what its look-up by name finds, and its targets are the annotated
ones among them that have no existing mock, in the order of their names. So two catalogs that agree
on every look-up have the same targets.
-/

namespace Understudy.Catalog

variable {catalog : Catalog}

def isProcessedClass (entity : Entity) : Bool :=
  entity.kind == .classType && entity.isProcessed

theorem isProtocol_eq_false {entity : Entity} (h : isProcessedClass entity = true) :
    isProtocol entity = false := by
  simp_all [isProcessedClass, isProtocol]

theorem mockedName?_eq_some_iff {entity : Entity} {name : String} :
    entity.mockedName? = some name ↔ entity.name = name ++ "Mock" ∧ name ≠ "" := by
  have hended : Text.stripEnd? "Mock".toList entity.name.toList = some name.toList ↔
      entity.name = name ++ "Mock" := by
    rw [Text.stripEnd?_eq_some_iff, ← String.toList_append, String.toList_inj]
  have hempty : name = "" ↔ name.toList = [] := by
    rw [← String.toList_inj, String.toList_empty]
  rw [← hended, ne_eq, hempty, Entity.mockedName?]
  cases hstrip : Text.stripEnd? "Mock".toList entity.name.toList with
  | none => simp only [reduceCtorEq, false_and]
  | some before =>
      cases before with
      | nil => simp only [reduceCtorEq, Option.some.injEq, eq_comm, and_not_self]
      | cons head rest =>
          rw [Option.some.injEq, Option.some.injEq, ← String.toList_inj, String.toList_ofList]
          refine (and_iff_left_of_imp ?_).symm
          intro hname hnil
          rw [hnil] at hname
          cases hname

/-- The mock of a name is a processed class that is named after it. -/
theorem mockOf?_eq_some_iff {entity : Entity} {name : String} :
    mockOf? entity = some name ↔
      isProcessedClass entity = true ∧ entity.name = name ++ "Mock" ∧ name ≠ "" := by
  rw [mockOf?, ← isProcessedClass, Option.ite_none_right_eq_some, mockedName?_eq_some_iff]

theorem of_protocol?_eq_some {name : String} {entity : Entity}
    (h : catalog.protocol? name = some entity) : isProtocol entity = true ∧ entity.name = name := by
  simpa using List.find?_some h

/-- An entity stands for one name alone. -/
theorem resolve?_injective {first second : String} {entity : Entity}
    (hfirst : catalog.resolve? first = some entity)
    (hsecond : catalog.resolve? second = some entity) : first = second := by
  have hstands : ∀ name, catalog.resolve? name = some entity →
      mockOf? entity = some name ∨ isProtocol entity = true ∧ entity.name = name := by
    intro name h
    simp only [resolve?, Option.or_eq_some_iff] at h
    rcases h with hmock | ⟨_, hprotocol⟩
    · exact .inl (by simpa using List.find?_some hmock)
    · exact .inr (of_protocol?_eq_some hprotocol)
  have hkinds : ∀ name, mockOf? entity = some name → isProtocol entity = false :=
    fun name hmock => isProtocol_eq_false (mockOf?_eq_some_iff.mp hmock).1
  rcases hstands first hfirst with hmock | ⟨hprotocol, rfl⟩ <;>
    rcases hstands second hsecond with hother | ⟨hother, rfl⟩
  · simpa [hmock] using hother
  · simp [hkinds _ hmock] at hother
  · simp [hkinds _ hother] at hprotocol
  · rfl

theorem find?_firstOfName (entities : List Entity) (name : String) :
    (firstOfName entities).find? (fun entity => entity.name == name) =
      entities.find? fun entity => entity.name == name := by
  induction entities with
  | nil => rfl
  | cons entity rest ih =>
      rw [firstOfName, List.find?_cons, List.find?_cons]
      by_cases heq : entity.name = name
      · simp [heq]
      · have hkept : ∀ later : Entity,
            decide ((later.name != entity.name) = true ∧ (later.name == name) = true) =
              (later.name == name) := by
          intro later
          by_cases hname : later.name = name
          · simp [hname, Ne.symm heq]
          · simp [hname]
        simp only [List.find?_filter, hkept, ih, beq_eq_false_iff_ne.mpr heq]

theorem nodup_names_firstOfName (entities : List Entity) :
    ((firstOfName entities).map Entity.name).Nodup := by
  induction entities with
  | nil => exact List.nodup_nil
  | cons entity rest ih =>
      refine List.nodup_cons.mpr ⟨?_, ih.sublist (List.filter_sublist.map _)⟩
      intro hmem
      obtain ⟨later, hlater, hname⟩ := List.mem_map.mp hmem
      have hdiffer := (List.mem_filter.mp hlater).2
      simp [hname] at hdiffer

theorem mem_iff_find?_name {entities : List Entity} (hnodup : (entities.map Entity.name).Nodup)
    {entity : Entity} :
    entity ∈ entities ↔ (entities.find? fun other => other.name == entity.name) = some entity := by
  refine ⟨?_, List.mem_of_find?_eq_some⟩
  intro hmem
  induction entities with
  | nil => simp at hmem
  | cons head rest ih =>
      obtain ⟨hhead, hrest⟩ := List.nodup_cons.mp hnodup
      rcases List.mem_cons.mp hmem with rfl | hmem
      · simp
      · have hdiffer : head.name ≠ entity.name := fun heq =>
          hhead (heq ▸ List.mem_map_of_mem hmem)
        simp [hdiffer, ih hrest hmem]

theorem mem_protocols_iff {entity : Entity} :
    entity ∈ catalog.protocols ↔ catalog.protocol? entity.name = some entity := by
  rw [protocols, mem_iff_find?_name (nodup_names_firstOfName _), find?_firstOfName,
    List.find?_filter, protocol?]
  simp only [Bool.decide_and, Bool.decide_eq_true]

theorem mem_targets_iff {entity : Entity} :
    entity ∈ catalog.targets ↔
      catalog.protocol? entity.name = some entity ∧ catalog.isTarget entity = true := by
  rw [targets, List.mem_mergeSort, List.mem_filter, mem_protocols_iff]

theorem resolve?_of_mem_targets {target : Entity} (htarget : target ∈ catalog.targets) :
    catalog.resolve? target.name = some target := by
  obtain ⟨hprotocol, hisTarget⟩ := mem_targets_iff.mp htarget
  simp only [isTarget, Bool.and_eq_true, Option.isNone_iff_eq_none] at hisTarget
  rw [resolve?, hisTarget.2, hprotocol, Option.none_or]

/-- No two targets have one name, and they come in the order of their names. -/
theorem pairwise_targets (catalog : Catalog) :
    catalog.targets.Pairwise fun left right => left.name < right.name := by
  have hsorted : catalog.targets.Pairwise fun left right => left.name ≤ right.name := by
    have hpairwise : catalog.targets.Pairwise fun left right =>
        decide (left.name ≤ right.name) = true := by
      apply List.pairwise_mergeSort
      · intro first second third hfirst hsecond
        simp only [decide_eq_true_eq] at hfirst hsecond ⊢
        exact String.le_trans hfirst hsecond
      · intro first second
        simpa using String.le_total first.name second.name
    simpa only [decide_eq_true_eq] using hpairwise
  have hnodup : (catalog.targets.map Entity.name).Nodup := by
    refine ((List.mergeSort_perm _ _).map Entity.name).nodup_iff.mpr ?_
    exact (nodup_names_firstOfName _).sublist (List.filter_sublist.map _)
  refine hsorted.imp₂ ?_ (List.pairwise_map.mp hnodup)
  intro left right hle hne
  apply String.not_le.mp
  intro hge
  exact hne (String.le_antisymm hle hge)

theorem nodup_targets (catalog : Catalog) : catalog.targets.Nodup := by
  refine (pairwise_targets catalog).imp ?_
  rintro left _ hless rfl
  exact String.lt_irrefl left.name hless

/-- Entities in the order of their names are known by their members. -/
theorem targets_eq_of_mem_iff {catalog : Catalog} {others : List Entity}
    (hordered : others.Pairwise fun left right => left.name < right.name)
    (hmem : ∀ entity, entity ∈ catalog.targets ↔ entity ∈ others) : catalog.targets = others := by
  have hirrefl : Std.Irrefl fun left right : Entity => left.name < right.name :=
    ⟨fun entity => String.lt_irrefl entity.name⟩
  have hantisymm : Std.Antisymm fun left right : Entity => left.name < right.name :=
    ⟨fun _ _ hless hgreater => absurd hgreater (String.lt_asymm hless)⟩
  exact (pairwise_targets catalog).eq_of_mem_iff hordered hmem

end Understudy.Catalog
