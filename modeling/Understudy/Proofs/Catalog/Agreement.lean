import Understudy.Proofs.Catalog.Walk

/-!
# Catalogs that agree on every look-up

All that the output of a run takes from a catalog goes through the look-ups of protocols and of
existing mocks: the targets, the lineage of each, its members and files, and the literals that are
known. So two catalogs that agree on these look-ups, whatever the order of their entities, are the
same for the output.
-/

namespace Understudy.Catalog

/-- Two catalogs find the same protocol and the same existing mock under every name. -/
structure Agrees (left right : Catalog) : Prop where
  protocol : ∀ name, left.protocol? name = right.protocol? name
  existingMock : ∀ name, left.existingMock? name = right.existingMock? name

namespace Agrees

variable {left right : Catalog}

theorem resolve?_eq (h : Agrees left right) (name : String) :
    left.resolve? name = right.resolve? name := by
  rw [resolve?, resolve?, h.protocol, h.existingMock]

theorem mem_targets_iff_mem_targets (h : Agrees left right) (entity : Entity) :
    entity ∈ left.targets ↔ entity ∈ right.targets := by
  simp only [mem_targets_iff, isTarget, h.protocol, h.existingMock]

theorem targets_eq (h : Agrees left right) : left.targets = right.targets :=
  targets_eq_of_mem_iff (pairwise_targets right) h.mem_targets_iff_mem_targets

theorem lineage_eq (h : Agrees left right) (entity : Entity) :
    left.lineage entity = right.lineage entity := by
  obtain ⟨found, after, hwalk⟩ := exists_depthFirst left [entity.name] entity.inheritedTypes
  rw [lineage, lineage, walk_eq_of_depthFirst hwalk, walk_eq_of_depthFirst
    (hwalk.congr fun name _ _ => h.resolve?_eq name)]

theorem flatten_eq (h : Agrees left right) (entity : Entity) :
    left.flatten entity = right.flatten entity := by
  rw [flatten, flatten, h.lineage_eq]

theorem contributingFiles_eq (h : Agrees left right) (entity : Entity) :
    left.contributingFiles entity = right.contributingFiles entity := by
  rw [contributingFiles, contributingFiles, h.lineage_eq]

end Agrees

theorem lookup_map_literal (names : List String) (name : String) :
    (names.map fun known => (known, known ++ "Mock()")).lookup name =
      if name ∈ names then some (name ++ "Mock()") else none := by
  induction names with
  | nil => rfl
  | cons known rest ih =>
      rw [List.map_cons, List.lookup_cons, ih]
      by_cases heq : name = known
      · simp [heq]
      · simp only [beq_eq_false_iff_ne.mpr heq, List.mem_cons, heq, false_or]

theorem mem_annotated_iff {catalog : Catalog} {name : String} :
    name ∈ (catalog.protocols.filter Entity.isAnnotated).map Entity.name ↔
      ∃ entity, catalog.protocol? name = some entity ∧ entity.isAnnotated = true := by
  constructor
  · intro hmem
    obtain ⟨entity, hentity, rfl⟩ := List.mem_map.mp hmem
    obtain ⟨hprotocol, hannotated⟩ := List.mem_filter.mp hentity
    exact ⟨entity, mem_protocols_iff.mp hprotocol, hannotated⟩
  · rintro ⟨entity, hprotocol, hannotated⟩
    obtain ⟨_, rfl⟩ := of_protocol?_eq_some hprotocol
    exact List.mem_map_of_mem (List.mem_filter.mpr ⟨mem_protocols_iff.mpr hprotocol, hannotated⟩)

theorem mem_mocked_iff {catalog : Catalog} {name : String} :
    name ∈ catalog.entities.filterMap mockOf? ↔ (catalog.existingMock? name).isSome = true := by
  rw [existingMock?, List.find?_isSome, List.mem_filterMap]
  simp only [beq_iff_eq]

theorem Agrees.lookup_knownLiterals {left right : Catalog} (h : Agrees left right)
    (name : String) : left.knownLiterals.lookup name = right.knownLiterals.lookup name := by
  simp only [knownLiterals, lookup_map_literal, List.mem_append, mem_annotated_iff, mem_mocked_iff,
    h.protocol, h.existingMock]

end Understudy.Catalog
