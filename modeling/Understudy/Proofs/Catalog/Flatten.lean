import Mathlib.Data.List.Nodup
import Understudy.Proofs.Catalog.Walk

/-!
# Members along a lineage

The members that a mock answers for are those of its lineage, less the init marker, where of the
members that share a signature key the first stays. `Catalog.flatten_lineage` puts this together
with the walk: whatever the graph, the lineage of a target is what it inherits from, each entity
once, and no requirement of the lineage is lost or stated twice.
-/

namespace Understudy.Catalog

open scoped List

section Merge

variable {seen : List String} {members : List Member}

theorem mergeMembers_cons_of_skip {member : Member}
    (hskip : member.name = initMarker ∨ member.signatureKey ∈ seen) :
    mergeMembers seen (member :: members) = mergeMembers seen members := by
  rw [mergeMembers, if_pos (by simpa using hskip)]

theorem mergeMembers_cons_of_keep {member : Member} (hname : member.name ≠ initMarker)
    (hnew : member.signatureKey ∉ seen) :
    mergeMembers seen (member :: members) =
      member :: mergeMembers (member.signatureKey :: seen) members := by
  rw [mergeMembers, if_neg (by simpa using ⟨hname, hnew⟩)]

theorem mergeMembers_sublist (seen : List String) (members : List Member) :
    mergeMembers seen members <+ members := by
  induction members generalizing seen with
  | nil => exact .slnil
  | cons member rest ih =>
      by_cases hskip : member.name = initMarker ∨ member.signatureKey ∈ seen
      · rw [mergeMembers_cons_of_skip hskip]
        exact (ih seen).cons member
      · obtain ⟨hname, hnew⟩ := not_or.mp hskip
        rw [mergeMembers_cons_of_keep hname hnew]
        exact (ih _).cons_cons member

theorem of_mem_mergeMembers {member : Member} (hmem : member ∈ mergeMembers seen members) :
    member.name ≠ initMarker ∧ member.signatureKey ∉ seen := by
  induction members generalizing seen with
  | nil => simp [mergeMembers] at hmem
  | cons head rest ih =>
      by_cases hskip : head.name = initMarker ∨ head.signatureKey ∈ seen
      · exact ih (mergeMembers_cons_of_skip hskip ▸ hmem)
      · obtain ⟨hname, hnew⟩ := not_or.mp hskip
        rw [mergeMembers_cons_of_keep hname hnew] at hmem
        rcases List.mem_cons.mp hmem with rfl | hmem
        · exact ⟨hname, hnew⟩
        · exact (ih hmem).imp_right fun hnew hseen => hnew (List.mem_cons_of_mem _ hseen)

theorem nodup_keys_mergeMembers (seen : List String) (members : List Member) :
    ((mergeMembers seen members).map Member.signatureKey).Nodup := by
  induction members generalizing seen with
  | nil => exact List.nodup_nil
  | cons member rest ih =>
      by_cases hskip : member.name = initMarker ∨ member.signatureKey ∈ seen
      · rw [mergeMembers_cons_of_skip hskip]
        exact ih seen
      · obtain ⟨hname, hnew⟩ := not_or.mp hskip
        rw [mergeMembers_cons_of_keep hname hnew]
        refine List.nodup_cons.mpr ⟨?_, ih _⟩
        intro hmem
        obtain ⟨later, hlater, hkey⟩ := List.mem_map.mp hmem
        exact (of_mem_mergeMembers hlater).2 (hkey ▸ List.mem_cons_self)

theorem find?_mergeMembers {key : String} (hnew : key ∉ seen) :
    (mergeMembers seen members).find? (fun member => member.signatureKey == key) =
      members.find? fun member => member.name != initMarker && member.signatureKey == key := by
  induction members generalizing seen with
  | nil => rfl
  | cons member rest ih =>
      rw [List.find?_cons]
      by_cases hskip : member.name = initMarker ∨ member.signatureKey ∈ seen
      · -- a key that was seen is not the one looked for
        have hother : (member.name != initMarker && member.signatureKey == key) = false := by
          rcases hskip with hmarker | hold
          · simp [hmarker]
          · have hdiffer : member.signatureKey ≠ key := fun heq => hnew (heq ▸ hold)
            simp [hdiffer]
        rw [mergeMembers_cons_of_skip hskip, ih hnew, hother]
      · obtain ⟨hname, hfresh⟩ := not_or.mp hskip
        rw [mergeMembers_cons_of_keep hname hfresh, List.find?_cons]
        by_cases heq : member.signatureKey = key
        · have hkept : (member.name != initMarker) = true := by simpa using hname
          simp [heq, hkept]
        · simp only [beq_eq_false_iff_ne.mpr heq, Bool.and_false]
          exact ih (List.not_mem_cons_of_ne_of_not_mem (Ne.symm heq) hnew)

theorem exists_mem_mergeMembers {member : Member} (hmem : member ∈ members)
    (hname : member.name ≠ initMarker) (hnew : member.signatureKey ∉ seen) :
    ∃ kept ∈ mergeMembers seen members, kept.signatureKey = member.signatureKey := by
  have hfirst : (members.find? fun other =>
      other.name != initMarker && other.signatureKey == member.signatureKey).isSome = true :=
    List.find?_isSome.mpr ⟨member, hmem, by simpa using hname⟩
  rw [← find?_mergeMembers hnew] at hfirst
  obtain ⟨kept, hkept, hkey⟩ := List.find?_isSome.mp hfirst
  exact ⟨kept, hkept, by simpa using hkey⟩

/-- Members that come first are merged as if none came after them. -/
theorem mergeMembers_prefix (seen : List String) (members later : List Member) :
    mergeMembers seen members <+: mergeMembers seen (members ++ later) := by
  induction members generalizing seen with
  | nil => exact List.nil_prefix
  | cons member rest ih =>
      rw [List.cons_append]
      by_cases hskip : member.name = initMarker ∨ member.signatureKey ∈ seen
      · rw [mergeMembers_cons_of_skip hskip, mergeMembers_cons_of_skip hskip]
        exact ih seen
      · obtain ⟨hname, hnew⟩ := not_or.mp hskip
        rw [mergeMembers_cons_of_keep hname hnew, mergeMembers_cons_of_keep hname hnew]
        exact (List.prefix_cons_inj member).mpr (ih _)

end Merge

variable {catalog : Catalog} {target : Entity} {visited : List Entity} {after : List String}

theorem mem_lineage_iff_inherits (htarget : catalog.resolve? target.name = some target)
    (hwalk : DepthFirst catalog [target.name] target.inheritedTypes visited after)
    {entity : Entity} : entity ∈ target :: visited ↔ catalog.Inherits target entity := by
  constructor
  · intro hmem
    rcases List.mem_cons.mp hmem with rfl | hmem
    · exact .refl
    · obtain ⟨name, hname, parent, hparent, hinherits⟩ := hwalk.exists_inherits_of_mem hmem
      exact .head ⟨name, hname, hparent⟩ hinherits
  · intro hinherits
    induction hinherits with
    | refl => exact List.mem_cons_self
    | @tail child parent _ hparent ih =>
        obtain ⟨name, hname, hresolve⟩ := hparent
        have hafter : name ∈ after := by
          rcases List.mem_cons.mp ih with rfl | hmem
          · exact hwalk.names_subset hname
          · exact hwalk.inheritedTypes_subset hmem hname
        by_cases hown : name = target.name
        · rw [hown, htarget, Option.some.injEq] at hresolve
          exact hresolve ▸ List.mem_cons_self
        · exact List.mem_cons_of_mem _
            (hwalk.mem_of_mem_after hafter (by simpa using hown) hresolve)

theorem mem_lineage_iff (htarget : catalog.resolve? target.name = some target) {entity : Entity} :
    entity ∈ catalog.lineage target ↔ catalog.Inherits target entity := by
  obtain ⟨visited, after, hwalk⟩ := exists_depthFirst catalog [target.name] target.inheritedTypes
  rw [lineage, walk_eq_of_depthFirst hwalk]
  exact mem_lineage_iff_inherits htarget hwalk

theorem mem_entities_of_inherits (htarget : target ∈ catalog.targets) {entity : Entity}
    (h : catalog.Inherits target entity) : entity ∈ catalog.entities := by
  induction h with
  | refl => exact List.mem_of_find?_eq_some (mem_targets_iff.mp htarget).1
  | tail _ hparent =>
      obtain ⟨_, _, hresolve⟩ := hparent
      obtain hmock | ⟨_, hprotocol⟩ := Option.or_eq_some_iff.mp hresolve
      · exact List.mem_of_find?_eq_some hmock
      · exact List.mem_of_find?_eq_some hprotocol

theorem nodup_lineage (htarget : catalog.resolve? target.name = some target)
    (hwalk : DepthFirst catalog [target.name] target.inheritedTypes visited after) :
    (target :: visited).Nodup := by
  refine List.nodup_cons.mpr ⟨?_, hwalk.nodup⟩
  intro hmem
  obtain ⟨name, hnew, _, hname⟩ := hwalk.exists_name_of_mem hmem
  exact hnew (resolve?_injective hname htarget ▸ List.mem_cons_self)

/-! ### Members of a lineage -/

theorem nodup_keys_flatten (catalog : Catalog) (target : Entity) :
    ((catalog.flatten target).map Member.signatureKey).Nodup :=
  nodup_keys_mergeMembers _ _

/-- The member that stands first under a key along the lineage. -/
def firstOfKey (catalog : Catalog) (target : Entity) (key : String) : Option Member :=
  ((catalog.lineage target).flatMap Entity.members).find? fun member =>
    member.name != initMarker && member.signatureKey == key

theorem find?_flatten (catalog : Catalog) (target : Entity) (key : String) :
    (catalog.flatten target).find? (fun member => member.signatureKey == key) =
      catalog.firstOfKey target key :=
  find?_mergeMembers List.not_mem_nil

theorem exists_inherits_of_mem_flatten (htarget : target ∈ catalog.targets) {member : Member}
    (hmem : member ∈ catalog.flatten target) :
    ∃ entity, catalog.Inherits target entity ∧ member ∈ entity.members := by
  obtain ⟨entity, hentity, hmember⟩ :=
    List.mem_flatMap.mp ((mergeMembers_sublist _ _).subset hmem)
  exact ⟨entity, (mem_lineage_iff (resolve?_of_mem_targets htarget)).mp hentity, hmember⟩

theorem firstOfKey_eq_some_iff {key : String} {kept : Member} :
    catalog.firstOfKey target key = some kept ↔
      kept ∈ catalog.flatten target ∧ kept.signatureKey = key := by
  rw [← find?_flatten]
  constructor
  · intro h
    exact ⟨List.mem_of_find?_eq_some h, by simpa using List.find?_some h⟩
  · rintro ⟨hmem, rfl⟩
    have hsome : ((catalog.flatten target).find? fun member =>
        member.signatureKey == kept.signatureKey).isSome = true :=
      List.find?_isSome.mpr ⟨kept, hmem, by simp⟩
    obtain ⟨other, hother⟩ := Option.isSome_iff_exists.mp hsome
    have hkey : other.signatureKey = kept.signatureKey := by simpa using List.find?_some hother
    rw [hother, List.inj_on_of_nodup_map (nodup_keys_flatten catalog target)
      (List.mem_of_find?_eq_some hother) hmem hkey]

theorem exists_firstOfKey (htarget : target ∈ catalog.targets) {entity : Entity}
    (hentity : catalog.Inherits target entity) {member : Member} (hmember : member ∈ entity.members)
    (hname : member.name ≠ initMarker) :
    ∃ kept, catalog.firstOfKey target member.signatureKey = some kept ∧
      (kept ∈ catalog.flatten target ∧ kept.signatureKey = member.signatureKey) ∧
      ∃ origin, catalog.Inherits target origin ∧ kept ∈ origin.members := by
  have hlineage := (mem_lineage_iff (resolve?_of_mem_targets htarget)).mpr hentity
  have hsome : (catalog.firstOfKey target member.signatureKey).isSome = true :=
    List.find?_isSome.mpr
      ⟨member, List.mem_flatMap.mpr ⟨entity, hlineage, hmember⟩, by simpa using hname⟩
  obtain ⟨kept, hfirst⟩ := Option.isSome_iff_exists.mp hsome
  have hkept := firstOfKey_eq_some_iff.mp hfirst
  exact ⟨kept, hfirst, hkept, exists_inherits_of_mem_flatten htarget hkept.1⟩

/-- **A target's members are those of its lineage, each requirement once.** The depth-first walk
from the target ends for every graph. It visits just what the target inherits from, each entity
once, and the files follow it. The members have different signature keys, none is the init marker,
each belongs to an entity of the lineage, and every signature key of the lineage is kept. Of the
members that share a key the first along the walk stays, and the target's own members come before
all others. -/
theorem flatten_lineage (htarget : target ∈ catalog.targets) :
    ∃ visited after,
      DepthFirst catalog [target.name] target.inheritedTypes visited after ∧
      (target :: visited).Nodup ∧
      (∀ entity, entity ∈ target :: visited ↔ catalog.Inherits target entity) ∧
      catalog.contributingFiles target = target.path :: visited.map Entity.path ∧
      ((catalog.flatten target).map Member.signatureKey).Nodup ∧
      (∀ member ∈ catalog.flatten target, member.name ≠ initMarker ∧
        ∃ entity, catalog.Inherits target entity ∧ member ∈ entity.members) ∧
      (∀ entity, catalog.Inherits target entity → ∀ member ∈ entity.members,
        member.name ≠ initMarker →
          ∃ kept ∈ catalog.flatten target, kept.signatureKey = member.signatureKey) ∧
      catalog.flatten target <+ (target :: visited).flatMap Entity.members ∧
      (∀ key, (catalog.flatten target).find? (fun member => member.signatureKey == key) =
        ((target :: visited).flatMap Entity.members).find? fun member =>
          member.name != initMarker && member.signatureKey == key) ∧
      ∃ own, own <+: catalog.flatten target ∧ own <+ target.members ∧
        ∀ member ∈ target.members, member.name ≠ initMarker →
          ∃ kept ∈ own, kept.signatureKey = member.signatureKey := by
  have hown := resolve?_of_mem_targets htarget
  obtain ⟨visited, after, hwalk⟩ :=
    exists_depthFirst catalog [target.name] target.inheritedTypes
  have hlineage : catalog.lineage target = target :: visited := by
    rw [lineage, walk_eq_of_depthFirst hwalk]
  have hinherits {entity : Entity} :
      entity ∈ target :: visited ↔ catalog.Inherits target entity :=
    mem_lineage_iff_inherits hown hwalk
  refine ⟨visited, after, hwalk, nodup_lineage hown hwalk, fun _ => hinherits, ?_, ?_, ?_, ?_, ?_,
    ?_, ?_⟩
  · rw [contributingFiles, hlineage, List.map_cons]
  · exact nodup_keys_mergeMembers _ _
  · intro member hmem
    rw [flatten, hlineage] at hmem
    obtain ⟨entity, hentity, hmember⟩ :=
      List.mem_flatMap.mp ((mergeMembers_sublist _ _).subset hmem)
    exact ⟨(of_mem_mergeMembers hmem).1, entity, hinherits.mp hentity, hmember⟩
  · intro entity hentity member hmember hname
    rw [flatten, hlineage]
    exact exists_mem_mergeMembers
      (List.mem_flatMap.mpr ⟨entity, hinherits.mpr hentity, hmember⟩) hname List.not_mem_nil
  · rw [flatten, hlineage]
    exact mergeMembers_sublist _ _
  · intro key
    rw [flatten, hlineage]
    exact find?_mergeMembers List.not_mem_nil
  · refine ⟨mergeMembers [] target.members, ?_, mergeMembers_sublist _ _,
      fun member hmember hname => exists_mem_mergeMembers hmember hname List.not_mem_nil⟩
    rw [flatten, hlineage, List.flatMap_cons]
    exact mergeMembers_prefix _ _ _

/-- An annotated protocol in a file of its own. -/
def plainProtocol (name : String) (inheritedTypes : List String) (members : List Member) : Entity :=
  { name
    kind := .protocolType
    path := ⟨name ++ ".swift"⟩
    accessLevel := ""
    attributes := []
    inheritedTypes
    isAnnotated := true
    isProcessed := false
    offset := 0
    length := 0
    members }

def plainProperty (name typeText : String) : Member :=
  .stored
    { name
      type := .ofText typeText
      origin := { path := ⟨"Api.swift"⟩, offset := 0, length := 0, processed := false }
      accessLevel := ""
      isStatic := false
      settable := false }

/-- A protocol whose two parents lead back to it and share a parent with an existing mock. -/
def cyclicTarget : Entity :=
  plainProtocol "Api" ["Left", "Right", "Unknown"] [plainProperty "id" "Int"]

def cyclicLeft : Entity :=
  plainProtocol "Left" ["Base", "Api"] [plainProperty "id" "String", plainProperty "left" "Int"]

def cyclicRight : Entity :=
  plainProtocol "Right" ["Left", "Base"] [plainProperty "left" "Bool", plainProperty "right" "Int"]

def baseMock : Entity :=
  { plainProtocol "BaseMock" ["Base"] [plainProperty initMarker "Bool", plainProperty "base" "Int"]
    with kind := .classType, isProcessed := true }

def cyclicCatalog : Catalog :=
  ⟨[cyclicTarget, cyclicLeft, cyclicRight, plainProtocol "Base" [] [plainProperty "base" "Int"],
    baseMock]⟩

theorem lineage_cyclicTarget :
    cyclicCatalog.lineage cyclicTarget = [cyclicTarget, cyclicLeft, baseMock, cyclicRight] := by
  have hleft : cyclicCatalog.resolve? "Left" = some cyclicLeft := rfl
  have hright : cyclicCatalog.resolve? "Right" = some cyclicRight := rfl
  have hbase : cyclicCatalog.resolve? "Base" = some baseMock := rfl
  have hunknown : cyclicCatalog.resolve? "Unknown" = none := rfl
  simp [lineage, walk, walk_cons, hleft, hright, hbase, hunknown, cyclicTarget, cyclicLeft,
    cyclicRight, baseMock, plainProtocol]

/-- The walk ends on a cycle, the shared parent counts once, and its mock stands in for it. -/
theorem flatten_lineage_of_cyclicTarget :
    cyclicTarget ∈ cyclicCatalog.targets ∧
    cyclicCatalog.lineage cyclicTarget = [cyclicTarget, cyclicLeft, baseMock, cyclicRight] ∧
    (cyclicCatalog.flatten cyclicTarget).map Member.signatureKey = ["id", "left", "base", "right"] ∧
    ∃ visited, (∀ entity, entity ∈ cyclicTarget :: visited ↔
        cyclicCatalog.Inherits cyclicTarget entity) ∧
      cyclicCatalog.contributingFiles cyclicTarget =
        cyclicTarget.path :: visited.map Entity.path := by
  have htarget : cyclicTarget ∈ cyclicCatalog.targets :=
    mem_targets_iff.mpr ⟨rfl, by decide +kernel⟩
  obtain ⟨visited, after, _, _, hinherits, hfiles, _⟩ := flatten_lineage htarget
  refine ⟨htarget, lineage_cyclicTarget, ?_, visited, hinherits, hfiles⟩
  rw [flatten, lineage_cyclicTarget]
  decide

end Understudy.Catalog
