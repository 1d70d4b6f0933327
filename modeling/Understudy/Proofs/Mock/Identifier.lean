import Mathlib.Data.List.Nodup
import Understudy.Mock.Identifier
import Understudy.Proofs.Method.Levels

/-!
# A free level always exists

Beyond the components of a method its names grow from level to level, so they are all different. A
name that is taken can keep at most three of them from being free: the name itself, and the names
with it as their counter or their handler slot. So among the levels that are tried one is free, and
what `Identifier.choose` takes is not taken yet. Hence the recorders of one class, each with its
counter and its slot, never meet each other or a name that was reserved before.
-/

namespace Understudy

namespace Method

variable (method : Method)

theorem nodup_map_nameAt (count : Nat) :
    ((List.range count).map fun offset =>
      method.nameAt (method.components.length + offset)).Nodup := by
  refine List.nodup_range.map_on ?_
  intro first _ second _ hsame
  -- beyond the components no component is left that could be empty
  have hnone : ∀ component ∈ method.components.drop method.components.length, component ≠ "" := by
    simp
  have heq := eq_of_nameAt_eq hnone (Nat.le_add_right _ first) (Nat.le_add_right _ second) hsame
  exact Nat.add_left_cancel heq

end Method

namespace Identifier

variable {member : Member} {method : Method} {used : List String} {identifier : String}

theorem isFree_iff :
    isFree used identifier = true ↔ ∀ name ∈ recordingNames identifier, name ∉ used := by
  simp [isFree]

def dropEnd (count : Nat) (name : String) : String :=
  String.ofList (name.toList.take (name.length - count))

theorem dropEnd_append (identifier ending : String) :
    dropEnd ending.length (identifier ++ ending) = identifier := by
  rw [dropEnd, String.length_append, Nat.add_sub_cancel, String.toList_append,
    ← String.length_toList, List.take_left, String.ofList_toList]

/-- The identifiers that taken names keep from being free. -/
def blocked (used : List String) : List String :=
  used ++ used.map (dropEnd "CallCount".length) ++ used.map (dropEnd "Handler".length)

theorem mem_blocked_of_not_isFree (h : isFree used identifier = false) :
    identifier ∈ blocked used := by
  have htaken : ¬∀ name ∈ recordingNames identifier, name ∉ used := by
    rw [← isFree_iff, h]
    exact Bool.false_ne_true
  simp only [recordingNames, List.forall_mem_cons, List.not_mem_nil, false_implies,
    implies_true, and_true, not_and_or, not_not] at htaken
  simp only [blocked, List.mem_append]
  rcases htaken with hname | hcounter | hslot
  · exact .inl (.inl hname)
  · refine .inl (.inr (List.mem_map.mpr ⟨_, hcounter, dropEnd_append identifier "CallCount"⟩))
  · exact .inr (List.mem_map.mpr ⟨_, hslot, dropEnd_append identifier "Handler"⟩)

/-- Of more levels than three for each taken name one is free. -/
theorem exists_isFree_nameAt (method : Method) (used : List String) :
    ∃ offset < 3 * used.length + 1,
      isFree used (method.nameAt (method.components.length + offset)) = true := by
  -- else all these levels were blocked, which are more than can be
  by_contra hnone
  have hsubset : ((List.range (3 * used.length + 1)).map fun offset =>
      method.nameAt (method.components.length + offset)) ⊆ blocked used := by
    intro name hmem
    obtain ⟨offset, hoffset, rfl⟩ := List.mem_map.mp hmem
    refine mem_blocked_of_not_isFree (Bool.eq_false_iff.mpr fun hfree => hnone ?_)
    exact ⟨offset, List.mem_range.mp hoffset, hfree⟩
  have hlength := (method.nodup_map_nameAt _).length_le_of_subset hsubset
  simp only [blocked, List.length_map, List.length_range, List.length_append] at hlength
  omega

/-- Of the levels that are tried the first free one is taken. -/
theorem exists_level_firstFree {level tries : Nat}
    (h : ∃ free, level ≤ free ∧ free < level + tries ∧
      isFree used (method.nameAt free) = true) :
    ∃ found, firstFree method used level tries = method.nameAt found ∧
      isFree used (method.nameAt found) = true ∧
      ∀ lower, level ≤ lower → lower < found → isFree used (method.nameAt lower) = false := by
  induction tries generalizing level with
  | zero =>
      obtain ⟨free, hle, hlt, _⟩ := h
      omega
  | succ tries ih =>
      rw [firstFree]
      split
      · next hfree =>
          exact ⟨level, rfl, hfree, fun lower hle hlt => absurd hlt (Nat.not_lt.mpr hle)⟩
      · next htaken =>
        obtain ⟨free, hle, hlt, hfree⟩ := h
        have hbeyond : free ≠ level := fun heq => htaken (heq ▸ hfree)
        obtain ⟨found, hfound, hfoundFree, hleast⟩ :=
          @ih (level + 1) ⟨free, by omega, by omega, hfree⟩
        refine ⟨found, hfound, hfoundFree, ?_⟩
        intro lower hlower hlt
        rcases Nat.eq_or_lt_of_le hlower with rfl | habove
        · exact Bool.eq_false_iff.mpr htaken
        · exact hleast lower habove hlt

theorem exists_level_choose (method : Method) (used : List String) :
    ∃ found, choose method used = method.nameAt found ∧
      isFree used (method.nameAt found) = true ∧
      ∀ lower < found, isFree used (method.nameAt lower) = false := by
  obtain ⟨offset, hoffset, hfree⟩ := exists_isFree_nameAt method used
  have htried : method.components.length + offset <
      0 + (method.components.length + 3 * used.length + 1) := by
    omega
  obtain ⟨found, hfound, hfoundFree, hleast⟩ :=
    exists_level_firstFree ⟨_, Nat.zero_le _, htried, hfree⟩
  exact ⟨found, hfound, hfoundFree, fun lower hlt => hleast lower (Nat.zero_le _) hlt⟩

theorem isFree_choose (method : Method) (used : List String) :
    isFree used (choose method used) = true := by
  obtain ⟨found, hfound, hfree, _⟩ := exists_level_choose method used
  rwa [hfound]

/-- The same name is chosen exactly if each of the two choices is free for the other. -/
theorem choose_eq_choose_iff {first second : List String} :
    choose method first = choose method second ↔
      isFree second (choose method first) = true ∧ isFree first (choose method second) = true := by
  constructor
  · intro heq
    have hfirst := isFree_choose method first
    have hsecond := isFree_choose method second
    rw [heq] at hfirst ⊢
    exact ⟨hsecond, hfirst⟩
  · rintro ⟨hsecond, hfirst⟩
    obtain ⟨left, hleft, _, hleftLeast⟩ := exists_level_choose method first
    obtain ⟨right, hright, _, hrightLeast⟩ := exists_level_choose method second
    rw [hleft] at hsecond
    rw [hright] at hfirst
    -- a free level is not below the least one
    have hrightLe : right ≤ left := by
      by_contra hlt
      rw [hrightLeast left (Nat.lt_of_not_le hlt)] at hsecond
      exact Bool.false_ne_true hsecond
    have hleftLe : left ≤ right := by
      by_contra hlt
      rw [hleftLeast right (Nat.lt_of_not_le hlt)] at hfirst
      exact Bool.false_ne_true hfirst
    rw [hleft, hright, Nat.le_antisymm hleftLe hrightLe]

theorem choose_congr {first second : List String}
    (h : ∀ name, name ∈ first ↔ name ∈ second) : choose method first = choose method second := by
  have hfree (identifier : String) : isFree first identifier = isFree second identifier := by
    rw [Bool.eq_iff_iff, isFree_iff, isFree_iff]
    simp only [h]
  exact choose_eq_choose_iff.mpr
    ⟨hfree _ ▸ isFree_choose method first, hfree _ ▸ isFree_choose method second⟩

theorem length_resolveFrom (used : List String) (members : List Member) :
    (resolveFrom used members).length = members.length := by
  induction members generalizing used with
  | nil => rfl
  | cons member rest ih =>
      cases member with
      | stored property => simp [resolveFrom, ih]
      | callable method =>
          rw [resolveFrom]
          split <;> simp [ih]

theorem map_fst_zip_resolve (members : List Member) :
    (members.zip (resolve members)).map Prod.fst = members :=
  List.map_fst_zip (Nat.le_of_eq (length_resolveFrom _ members).symm)

theorem exists_mem_zip_resolve {members : List Member} {member : Member}
    (hmem : member ∈ members) :
    ∃ identifier, (member, identifier) ∈ members.zip (resolve members) := by
  rw [← map_fst_zip_resolve members] at hmem
  obtain ⟨⟨_, identifier⟩, hpair, rfl⟩ := List.mem_map.mp hmem
  exact ⟨identifier, hpair⟩

theorem keepsName_eq_isInitializer (hfresh : method.isProcessed = false) :
    keepsName method = method.isInitializer := by
  simp [keepsName, hfresh]

/-- The names that a member takes under its identifier. -/
def takenBy : Member × String → List String
  | (.stored _, _) => []
  | (.callable method, identifier) =>
      if keepsName method then [] else recordingNames identifier

theorem exists_zip_resolveFrom_cons (used : List String) (member : Member) (rest : List Member) :
    ∃ identifier, (member :: rest).zip (resolveFrom used (member :: rest)) =
        (member, identifier) :: rest.zip (resolveFrom (takenBy (member, identifier) ++ used) rest) ∧
      ∀ method, member = .callable method → keepsName method = false →
        identifier = choose method used := by
  cases member with
  | stored property => exact ⟨property.name, rfl, by simp⟩
  | callable method =>
      by_cases hkeeps : keepsName method = true
      · refine ⟨method.name, by simp [resolveFrom, takenBy, hkeeps], ?_⟩
        rintro _ ⟨rfl⟩ hrecorded
        simp [hkeeps] at hrecorded
      · refine ⟨choose method used, by simp [resolveFrom, takenBy, hkeeps], ?_⟩
        rintro _ ⟨rfl⟩ _
        rfl

theorem exists_method_of_mem_takenBy {identifier name : String}
    (h : name ∈ takenBy (member, identifier)) :
    ∃ method, member = .callable method ∧ keepsName method = false ∧
      name ∈ recordingNames identifier := by
  cases member with
  | stored property => simp [takenBy] at h
  | callable method =>
      rw [takenBy] at h
      split at h
      · simp at h
      · next hrecorded => exact ⟨method, rfl, Bool.eq_false_iff.mpr hrecorded, h⟩

theorem counterName_ne_slotName (first second : String) :
    Callable.counterName first ≠ Callable.slotName second := by
  intro heq
  have hlast := congrArg (fun name => name.toList.getLast?) heq
  simp [Callable.counterName, Callable.slotName, String.toList_append] at hlast

/-- The counter and the slot that a member declares under its identifier. -/
def recordersOf : Member × String → List String
  | (.stored _, _) => []
  | (.callable method, identifier) =>
      if keepsName method then []
      else [Callable.counterName identifier, Callable.slotName identifier]

def recorders (members : List (Member × String)) : List String :=
  members.flatMap recordersOf

theorem recordersOf_subset_takenBy (pair : Member × String) : recordersOf pair ⊆ takenBy pair := by
  obtain ⟨member, identifier⟩ := pair
  cases member with
  | stored property => exact List.nil_subset _
  | callable method =>
      rw [recordersOf, takenBy]
      split
      · exact List.nil_subset _
      · exact List.subset_cons_self _ _

theorem nodup_recordersOf (pair : Member × String) : (recordersOf pair).Nodup := by
  obtain ⟨member, identifier⟩ := pair
  cases member with
  | stored property => exact List.nodup_nil
  | callable method =>
      rw [recordersOf]
      split
      · exact List.nodup_nil
      · simp [counterName_ne_slotName]

/-- What a member takes is used from then on, so the members take different names, and none takes
a name that was used before. -/
theorem takenBy_resolveFrom (used : List String) (members : List Member) :
    ((members.zip (resolveFrom used members)).Pairwise fun left right =>
      (takenBy left).Disjoint (takenBy right)) ∧
      ∀ pair ∈ members.zip (resolveFrom used members), ∀ name ∈ takenBy pair, name ∉ used := by
  induction members generalizing used with
  | nil => simp
  | cons member rest ih =>
      obtain ⟨identifier, hzip, hchosen⟩ := exists_zip_resolveFrom_cons used member rest
      have hfirst : ∀ name ∈ takenBy (member, identifier), name ∉ used := by
        intro name hmem
        obtain ⟨method, rfl, hrecorded, hname⟩ := exists_method_of_mem_takenBy hmem
        have hfree := isFree_choose method used
        rw [← hchosen method rfl hrecorded] at hfree
        exact isFree_iff.mp hfree name hname
      obtain ⟨hdisjoint, hunused⟩ := ih (takenBy (member, identifier) ++ used)
      rw [hzip, List.pairwise_cons, List.forall_mem_cons]
      refine ⟨⟨?_, hdisjoint⟩, hfirst, ?_⟩
      · intro pair hpair name hmem hlater
        exact hunused pair hpair name hlater (List.mem_append_left _ hmem)
      · intro pair hpair name hlater hmem
        exact hunused pair hpair name hlater (List.mem_append_right _ hmem)

/-- All recorders are different, and none is a name that was taken before. -/
theorem recorders_resolveFrom (used : List String) (members : List Member) :
    (recorders (members.zip (resolveFrom used members))).Nodup ∧
      ∀ name ∈ recorders (members.zip (resolveFrom used members)), name ∉ used := by
  obtain ⟨hdisjoint, hunused⟩ := takenBy_resolveFrom used members
  constructor
  · refine List.nodup_flatMap.mpr ⟨fun pair _ => nodup_recordersOf pair, hdisjoint.imp ?_⟩
    intro left right htaken name hleft hright
    exact htaken (recordersOf_subset_takenBy left hleft) (recordersOf_subset_takenBy right hright)
  · intro name hname
    obtain ⟨pair, hpair, hrecorder⟩ := List.mem_flatMap.mp hname
    exact hunused pair hpair name (recordersOf_subset_takenBy pair hrecorder)

end Identifier

end Understudy
