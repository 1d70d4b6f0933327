import Mathlib.Data.Set.Card
import Understudy.Proofs.Mock.DeclaredNames

/-!
# Each recorder takes the least free level

Among the members of one class every fresh method but an initializer is recorded under its name at
the least level at which no name of its recorders is reserved: stored properties reserve theirs
wherever they stand, methods reserve them for those that come later. The level exceeds the number of
components by at most three for each reserved name (`Identifier.resolve_least_free`).
-/

namespace Understudy.Identifier

variable {members : List Member} {method : Method} {used : List String} {name : String}
  {earlier later : List (Member × String)} {pair : Member × String} {level : Nat}

/-- The identifier of a member when some names are taken. -/
def identifierOf (used : List String) : Member → String
  | .stored property => property.name
  | .callable method => if keepsName method then method.name else choose method used

theorem resolveFrom_cons (used : List String) (member : Member) (rest : List Member) :
    resolveFrom used (member :: rest) = identifierOf used member ::
      resolveFrom (takenBy (member, identifierOf used member) ++ used) rest := by
  cases member with
  | stored property => rfl
  | callable method =>
      rw [resolveFrom, identifierOf, takenBy]
      split <;> rfl

theorem identifierOf_congr {first second : List String} (h : ∀ name, name ∈ first ↔ name ∈ second)
    (member : Member) : identifierOf first member = identifierOf second member := by
  cases member with
  | stored property => rfl
  | callable method => rw [identifierOf, identifierOf, choose_congr h]

/-- A member's identifier depends on what was taken at first and on the turns before it. -/
theorem identifier_of_zip_eq_append
    (h : members.zip (resolveFrom used members) = earlier ++ pair :: later) :
    pair.2 = identifierOf (used ++ earlier.flatMap takenBy) pair.1 := by
  induction members generalizing used earlier with
  | nil => simp at h
  | cons member rest ih =>
      rw [resolveFrom_cons, List.zip_cons_cons] at h
      cases earlier with
      | nil =>
          obtain ⟨rfl, _⟩ := List.cons.inj h
          simp
      | cons first turns =>
          obtain ⟨rfl, hrest⟩ := List.cons.inj h
          rw [ih hrest]
          -- the order in which names were taken does not matter
          refine identifierOf_congr (fun name => ?_) pair.1
          simp only [List.mem_append, List.flatMap_cons]
          tauto

/-- A name that is not free for the recorders of a method whose turn comes after some others. -/
inductive IsReserved (members : List Member) (earlier : List (Member × String)) : String → Prop
  | stored {property : Property} (hmem : .stored property ∈ members) :
      IsReserved members earlier property.name
  | setter {property : Property} (hmem : .stored property ∈ members)
      (hfresh : property.isProcessed = false) :
      IsReserved members earlier (Property.counterName property.name)
  | recorded {method : Method} {identifier name : String}
      (hpair : (.callable method, identifier) ∈ earlier) (hrecorded : keepsName method = false)
      (hname : name ∈ recordingNames identifier) : IsReserved members earlier name

theorem mem_reservedBy_iff {member : Member} :
    name ∈ reservedBy member ↔ ∃ property, member = .stored property ∧
      (name = property.name ∨
        property.isProcessed = false ∧ name = Property.counterName property.name) := by
  cases member with
  | callable method => simp [reservedBy]
  | stored property =>
      cases hprocessed : property.isProcessed <;> simp [reservedBy, hprocessed]

theorem mem_takenBy_iff {identifier : String} {member : Member} :
    name ∈ takenBy (member, identifier) ↔ ∃ method, member = .callable method ∧
      keepsName method = false ∧ name ∈ recordingNames identifier := by
  refine ⟨exists_method_of_mem_takenBy, ?_⟩
  rintro ⟨method, rfl, hrecorded, hname⟩
  simpa [takenBy, hrecorded] using hname

theorem isReserved_iff :
    IsReserved members earlier name ↔
      name ∈ members.flatMap reservedBy ++ earlier.flatMap takenBy := by
  simp only [List.mem_append, List.mem_flatMap]
  constructor
  · rintro (⟨hmem⟩ | ⟨hmem, hfresh⟩ | ⟨hpair, hrecorded, hname⟩)
    · exact .inl ⟨_, hmem, mem_reservedBy_iff.mpr ⟨_, rfl, .inl rfl⟩⟩
    · exact .inl ⟨_, hmem, mem_reservedBy_iff.mpr ⟨_, rfl, .inr ⟨hfresh, rfl⟩⟩⟩
    · exact .inr ⟨_, hpair, mem_takenBy_iff.mpr ⟨_, rfl, hrecorded, hname⟩⟩
  · rintro (⟨member, hmem, hname⟩ | ⟨⟨member, identifier⟩, hpair, hname⟩)
    · obtain ⟨property, rfl, rfl | ⟨hfresh, rfl⟩⟩ := mem_reservedBy_iff.mp hname
      · exact .stored hmem
      · exact .setter hmem hfresh
    · obtain ⟨method, rfl, hrecorded, hrecording⟩ := mem_takenBy_iff.mp hname
      exact .recorded hpair hrecorded hrecording

theorem ncard_isReserved (members : List Member) (earlier : List (Member × String)) :
    {name | IsReserved members earlier name}.ncard =
      (members.flatMap reservedBy ++ earlier.flatMap takenBy).toFinset.card := by
  rw [← Set.ncard_coe_finset]
  congr 1
  ext name
  rw [Set.mem_ofPred_eq, isReserved_iff, Finset.mem_coe, List.mem_toFinset]

/-- The level is the least at which no name of the recorders is reserved. -/
structure IsLeastFree (members : List Member) (earlier : List (Member × String)) (method : Method)
    (level : Nat) : Prop where
  free : ∀ name ∈ recordingNames (method.nameAt level), ¬IsReserved members earlier name
  least : ∀ lower < level,
    ∃ name ∈ recordingNames (method.nameAt lower), IsReserved members earlier name

/-- Levels below the first free one go beyond the components by at most three for each taken
name, which counts once however often it was taken. -/
theorem level_le_of_least
    (hleast : ∀ lower < level, isFree used (method.nameAt lower) = false) :
    level ≤ method.components.length + 3 * used.toFinset.card := by
  obtain ⟨offset, hoffset, hfree⟩ := exists_isFree_nameAt method used.dedup
  have hunused : isFree used (method.nameAt (method.components.length + offset)) = true := by
    rw [isFree_iff] at hfree ⊢
    exact fun name hname hmem => hfree name hname (List.mem_dedup.mpr hmem)
  have hle : level ≤ method.components.length + offset := by
    by_contra hlt
    rw [hleast _ (Nat.lt_of_not_le hlt)] at hunused
    exact Bool.false_ne_true hunused
  have hcard : used.toFinset.card = used.dedup.length := List.card_toFinset used
  omega

theorem exists_isLeastFree (members : List Member) (earlier : List (Member × String))
    (method : Method) :
    ∃ level, choose method (members.flatMap reservedBy ++ earlier.flatMap takenBy) =
        method.nameAt level ∧
      IsLeastFree members earlier method level ∧
      level ≤ method.components.length + 3 * {name | IsReserved members earlier name}.ncard := by
  obtain ⟨level, hlevel, hfree, hleast⟩ :=
    exists_level_choose method (members.flatMap reservedBy ++ earlier.flatMap takenBy)
  refine ⟨level, hlevel, ⟨?_, ?_⟩, ?_⟩
  · intro name hname hreserved
    exact isFree_iff.mp hfree name hname (isReserved_iff.mp hreserved)
  · intro lower hlower
    have htaken := hleast lower hlower
    rw [Bool.eq_false_iff, ne_eq, isFree_iff] at htaken
    push Not at htaken
    obtain ⟨name, hname, hmem⟩ := htaken
    exact ⟨name, hname, isReserved_iff.mpr hmem⟩
  · rw [ncard_isReserved]
    exact level_le_of_least hleast

/-- What a member is recorded as after the turns of others. -/
inductive IsRecordedAs (members : List Member) (earlier : List (Member × String)) :
    Member × String → Prop
  | stored (property : Property) : IsRecordedAs members earlier (.stored property, property.name)
  | kept {method : Method} (hkeeps : method.isInitializer = true ∨ method.isProcessed = true) :
      IsRecordedAs members earlier (.callable method, method.name)
  | fresh {method : Method} {level : Nat} (hfresh : method.isProcessed = false)
      (hinitializer : method.isInitializer = false)
      (hleast : IsLeastFree members earlier method level)
      (hle : level ≤
        method.components.length + 3 * {name | IsReserved members earlier name}.ncard) :
      IsRecordedAs members earlier (.callable method, method.nameAt level)

theorem isRecordedAs_identifierOf (members : List Member) (earlier : List (Member × String))
    (member : Member) :
    IsRecordedAs members earlier
      (member, identifierOf (members.flatMap reservedBy ++ earlier.flatMap takenBy) member) := by
  cases member with
  | stored property => exact .stored property
  | callable method =>
      rw [identifierOf]
      split
      · next hkeeps => exact .kept (by simpa [keepsName] using hkeeps)
      · next hrecorded =>
        obtain ⟨level, hlevel, hleast, hle⟩ := exists_isLeastFree members earlier method
        obtain ⟨hinitializer, hfresh⟩ :
            method.isInitializer = false ∧ method.isProcessed = false := by
          simpa [keepsName] using hrecorded
        rw [hlevel]
        exact .fresh hfresh hinitializer hleast hle

/-- **Each recorder takes the least free level.** Every member has one identifier, in order: stored
properties, initializers and processed methods keep their names, and every other method takes the
least free level, which is bounded. So the recorders of different methods never share a name, and
none has the name or the setter counter of a stored property. -/
theorem resolve_least_free (members : List Member) :
    (resolve members).length = members.length ∧
    (∀ earlier pair later, members.zip (resolve members) = earlier ++ pair :: later →
      IsRecordedAs members earlier pair) ∧
    ((members.zip (resolve members)).Pairwise fun left right =>
      (takenBy left).Disjoint (takenBy right)) ∧
    ∀ pair ∈ members.zip (resolve members), ∀ name ∈ takenBy pair,
      ∀ property : Property, .stored property ∈ members → name ≠ property.name ∧
        (property.isProcessed = false → name ≠ Property.counterName property.name) := by
  obtain ⟨hdisjoint, hunused⟩ := takenBy_resolveFrom (members.flatMap reservedBy) members
  refine ⟨length_resolveFrom _ members, ?_, hdisjoint, ?_⟩
  · intro earlier ⟨member, identifier⟩ later hsplit
    have hidentifier : identifier =
        identifierOf (members.flatMap reservedBy ++ earlier.flatMap takenBy) member :=
      identifier_of_zip_eq_append hsplit
    rw [hidentifier]
    exact isRecordedAs_identifierOf members earlier member
  · intro pair hpair name hname property hproperty
    have hnot := hunused pair hpair name hname
    simp only [List.mem_flatMap, mem_reservedBy_iff, not_exists, not_and] at hnot
    have hboth := hnot _ hproperty property rfl
    rw [not_or] at hboth
    exact ⟨hboth.1, fun hfresh heq => hboth.2 ⟨hfresh, heq⟩⟩

section Crowded

open Mock

/-- Two functions of one name beside a stored property that has the name of a slot. -/
def crowdedMembers : List Member :=
  [plainCallable "load" "load()" .function, plainCallable "load" "load(_:)" .function,
    Catalog.plainProperty "loadHandler" "Int", plainCallable "init" "init()" .initializer]

theorem resolve_least_free_of_crowdedMembers :
    resolve crowdedMembers = ["loadInt", "loadInt1", "loadHandler", "init"] ∧
    IsRecordedAs crowdedMembers [(plainCallable "load" "load()" .function, "loadInt")]
      (plainCallable "load" "load(_:)" .function, "loadInt1") ∧
    ∀ name ∈ takenBy (plainCallable "load" "load(_:)" .function, "loadInt1"),
      name ≠ "loadHandler" := by
  obtain ⟨_, hrecorded, _, havoids⟩ := resolve_least_free crowdedMembers
  refine ⟨by decide, hrecorded _ _ _ rfl, fun name hname => ?_⟩
  have hstored : Catalog.plainProperty "loadHandler" "Int" ∈ crowdedMembers := by decide
  exact (havoids _ (by decide) name hname _ hstored).1

end Crowded

end Understudy.Identifier
