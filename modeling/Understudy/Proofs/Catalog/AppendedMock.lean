import Understudy.Proofs.Catalog.Agreement
import Understudy.Proofs.Catalog.Flatten

/-!
# A catalog with one mock more

A mock of a target, put behind the entities of a catalog, changes what one name resolves to, that
of the target. So this target alone is gone, and the lineage of every other one that does not
inherit from it stays as it was: its walk never meets the name.
-/

namespace Understudy.Catalog

/-- The class is a mock of a target that has none among the entities. -/
structure MocksTarget (entities : List Entity) (protocol mock : Entity) : Prop where
  target : protocol ∈ targets ⟨entities⟩
  named : protocol.name ≠ ""
  processed : isProcessedClass mock = true
  name : mock.name = protocol.name ++ "Mock"

namespace MocksTarget

variable {entities : List Entity} {protocol mock entity target : Entity} {name : String}

theorem mockOf?_eq (h : MocksTarget entities protocol mock) : mockOf? mock = some protocol.name :=
  mockOf?_eq_some_iff.mpr ⟨h.processed, h.name, h.named⟩

theorem protocol?_append (h : MocksTarget entities protocol mock) (name : String) :
    protocol? ⟨entities ++ [mock]⟩ name = protocol? ⟨entities⟩ name := by
  rw [protocol?, List.find?_append, List.find?_singleton, isProtocol_eq_false h.processed]
  exact Option.or_none

theorem existingMock?_append_of_ne (h : MocksTarget entities protocol mock)
    (hname : name ≠ protocol.name) :
    existingMock? ⟨entities ++ [mock]⟩ name = existingMock? ⟨entities⟩ name := by
  have hother : ¬(mockOf? mock == some name) = true := by
    rw [h.mockOf?_eq, beq_iff_eq, Option.some.injEq]
    exact Ne.symm hname
  rw [existingMock?, List.find?_append, List.find?_singleton, if_neg hother]
  exact Option.or_none

theorem existingMock?_append_self (h : MocksTarget entities protocol mock) :
    existingMock? ⟨entities ++ [mock]⟩ protocol.name = some mock := by
  obtain ⟨_, hisTarget⟩ := mem_targets_iff.mp h.target
  obtain ⟨_, hnone⟩ := Bool.and_eq_true_iff.mp hisTarget
  have hself : (mockOf? mock == some protocol.name) = true := by
    rw [h.mockOf?_eq, beq_self_eq_true]
  rw [existingMock?, List.find?_append, List.find?_singleton, if_pos hself]
  rw [existingMock?, Option.isNone_iff_eq_none] at hnone
  rw [hnone, Option.none_or]

theorem resolve?_append_of_ne (h : MocksTarget entities protocol mock)
    (hname : name ≠ protocol.name) :
    resolve? ⟨entities ++ [mock]⟩ name = resolve? ⟨entities⟩ name := by
  rw [resolve?, resolve?, h.protocol?_append, h.existingMock?_append_of_ne hname]

theorem name_ne (h : MocksTarget entities protocol mock) (htarget : target ∈ targets ⟨entities⟩)
    (hne : target ≠ protocol) : target.name ≠ protocol.name := by
  intro hname
  have hresolve := resolve?_of_mem_targets htarget
  rw [hname, resolve?_of_mem_targets h.target] at hresolve
  exact hne (Option.some.inj hresolve).symm

theorem mem_targets_append_iff (h : MocksTarget entities protocol mock) :
    entity ∈ targets ⟨entities ++ [mock]⟩ ↔ entity ∈ targets ⟨entities⟩ ∧ entity ≠ protocol := by
  by_cases hname : entity.name = protocol.name
  · refine iff_of_false (fun hmem => ?_) fun ⟨hmem, hne⟩ => h.name_ne hmem hne hname
    obtain ⟨_, hisTarget⟩ := mem_targets_iff.mp hmem
    rw [isTarget, hname, h.existingMock?_append_self, Option.isNone_some,
      Bool.and_false] at hisTarget
    exact absurd hisTarget Bool.false_ne_true
  · have hne : entity ≠ protocol := fun heq => hname (congrArg Entity.name heq)
    rw [and_iff_left hne, mem_targets_iff, mem_targets_iff, isTarget, isTarget, h.protocol?_append,
      h.existingMock?_append_of_ne hname]

theorem targets_append (h : MocksTarget entities protocol mock) :
    targets ⟨entities ++ [mock]⟩ = (targets ⟨entities⟩).erase protocol := by
  refine targets_eq_of_mem_iff ((pairwise_targets _).sublist List.erase_sublist) ?_
  intro entity
  rw [h.mem_targets_append_iff, (nodup_targets _).mem_erase_iff, and_comm]

theorem lineage_append (h : MocksTarget entities protocol mock)
    (htarget : target ∈ targets ⟨entities⟩) (hfree : ¬Inherits ⟨entities⟩ target protocol) :
    lineage ⟨entities ++ [mock]⟩ target = lineage ⟨entities⟩ target := by
  obtain ⟨found, after, hwalk⟩ :=
    exists_depthFirst ⟨entities⟩ [target.name] target.inheritedTypes
  -- a name that the walk meets and that resolves is inherited, so the walk never meets this one
  have hunmet : ∀ name ∈ after, name ∉ [target.name] → name ≠ protocol.name := by
    rintro name hafter hnew rfl
    have hmem := hwalk.mem_of_mem_after hafter hnew (resolve?_of_mem_targets h.target)
    exact hfree ((mem_lineage_iff_inherits (resolve?_of_mem_targets htarget) hwalk).mp
      (List.mem_cons_of_mem _ hmem))
  have hsame : DepthFirst ⟨entities ++ [mock]⟩ [target.name] target.inheritedTypes found after :=
    hwalk.congr fun name hafter hnew => (h.resolve?_append_of_ne (hunmet name hafter hnew)).symm
  rw [lineage, lineage, walk_eq_of_depthFirst hwalk, walk_eq_of_depthFirst hsame]

theorem flatten_append (h : MocksTarget entities protocol mock)
    (htarget : target ∈ targets ⟨entities⟩) (hfree : ¬Inherits ⟨entities⟩ target protocol) :
    flatten ⟨entities ++ [mock]⟩ target = flatten ⟨entities⟩ target := by
  rw [flatten, flatten, h.lineage_append htarget hfree]

/-- The name of the target was known as that of a protocol to mock. -/
theorem lookup_knownLiterals_append (h : MocksTarget entities protocol mock) (name : String) :
    (knownLiterals ⟨entities ++ [mock]⟩).lookup name = (knownLiterals ⟨entities⟩).lookup name := by
  simp only [knownLiterals, lookup_map_literal, List.mem_append, mem_annotated_iff,
    h.protocol?_append]
  by_cases hname : name = protocol.name
  · obtain ⟨hprotocol, hisTarget⟩ := mem_targets_iff.mp h.target
    obtain ⟨hannotated, _⟩ := Bool.and_eq_true_iff.mp hisTarget
    have hknown : ∃ entity, protocol? ⟨entities⟩ name = some entity ∧ entity.isAnnotated = true :=
      ⟨protocol, hname ▸ hprotocol, hannotated⟩
    rw [if_pos (.inl hknown), if_pos (.inl hknown)]
  · have hmocked : name ∈ (entities ++ [mock]).filterMap mockOf? ↔
        name ∈ entities.filterMap mockOf? := by
      rw [List.filterMap_append, List.mem_append, List.filterMap_cons_some h.mockOf?_eq,
        List.filterMap_nil, List.mem_singleton, or_iff_left hname]
    simp only [hmocked]

end MocksTarget

end Understudy.Catalog
