import Mathlib.Data.List.Perm.Basic
import Understudy.Proofs.Catalog.Flatten
import Understudy.Proofs.Mock.Declarations

/-!
# The variables that a mock class declares

`Mock.nodup_declaredNames_iff` says when the names that a class declares are all different: the
counters and slots of callables never meet each other, a stored property or a setter counter, so
only the pairs of `Mock.Separate` are left, which nothing reserves.
-/

namespace Understudy.Mock

open Layout
open scoped List

variable {known : KnownLiterals}

def stored? : Member → Option Property
  | .stored property => some property
  | .callable _ => none

def computed? : Member → Option Method
  | .stored _ => none
  | .callable method => if method.kind = .computedProperty then some method else none

@[simp]
theorem stored?_eq_some_iff {member : Member} {property : Property} :
    stored? member = some property ↔ member = .stored property := by
  cases member <;> simp [stored?]

@[simp]
theorem computed?_eq_some_iff {member : Member} {method : Method} :
    computed? member = some method ↔
      member = .callable method ∧ method.kind = .computedProperty := by
  cases member with
  | stored property => simp [computed?]
  | callable other =>
      simp only [computed?, Option.ite_none_right_eq_some, Option.some.injEq, Member.callable.injEq]
      constructor
      · rintro ⟨hkind, rfl⟩
        exact ⟨rfl, hkind⟩
      · rintro ⟨rfl, hkind⟩
        exact ⟨hkind, rfl⟩

def storedNames (members : List Member) : List String :=
  (members.filterMap stored?).map Property.name

def setterCounters (members : List Member) : List String :=
  (storedNames members).map Property.counterName

def backingSlots (known : KnownLiterals) (members : List Member) : List String :=
  ((members.filterMap stored?).filter (Property.isBacked · known)).map fun property =>
    Property.backingName property.name

def computedNames (members : List Member) : List String :=
  (members.filterMap computed?).map fun method => method.name

def recorderNames (members : List Member) : List String :=
  Identifier.recorders (members.zip (Identifier.resolve members))

/-- The pairs of names that no identifier is chosen to avoid: a stored property and the setter
counter of another, a computed property and what others declare, and a backing slot and anything. -/
structure Separate (known : KnownLiterals) (members : List Member) : Prop where
  stored_counters : (storedNames members).Disjoint (setterCounters members)
  computed : (computedNames members).Disjoint
    (storedNames members ++ setterCounters members ++ recorderNames members)
  computed_nodup : (computedNames members).Nodup
  backing : (backingSlots known members).Disjoint
    (Catalog.initMarker :: (storedNames members ++ setterCounters members ++
      recorderNames members ++ computedNames members))

theorem flatMap_declaredBy_perm (known : KnownLiterals) (pairs : List (Member × String)) :
    pairs.flatMap (declaredBy known) ~
      storedNames (pairs.map Prod.fst) ++ setterCounters (pairs.map Prod.fst) ++
        Identifier.recorders pairs ++ computedNames (pairs.map Prod.fst) ++
          backingSlots known (pairs.map Prod.fst) := by
  -- each kind of name is counted by itself, as the lists interleave differently
  apply List.perm_iff_count.mpr
  intro name
  induction pairs with
  | nil => rfl
  | cons pair rest ih =>
      obtain ⟨member, identifier⟩ := pair
      simp only [storedNames, setterCounters, Identifier.recorders, computedNames, backingSlots,
        List.flatMap_cons, List.map_cons, List.filterMap_cons, List.count_append] at ih ⊢
      cases member with
      | stored property =>
          simp only [stored?, computed?, declaredBy, Identifier.recordersOf, List.filter_cons]
          cases property.isBacked known <;>
            simp only [if_true, if_false, Bool.false_eq_true, List.map_cons, List.count_cons,
              List.count_nil, List.nil_append, List.cons_append] <;> omega
      | callable method =>
          simp only [stored?, computed?, declaredBy]
          split <;> simp only [List.map_cons, List.count_append, List.count_cons, List.count_nil]
          all_goals omega

/-- The declared names, sorted by what they are for. -/
theorem declaredNames_perm (known : KnownLiterals) (members : List Member) :
    declaredNames known members ~
      (Catalog.initMarker :: (storedNames members ++ setterCounters members ++
        recorderNames members ++ computedNames members)) ++ backingSlots known members := by
  have hperm := flatMap_declaredBy_perm known (members.zip (Identifier.resolve members))
  rw [Identifier.map_fst_zip_resolve] at hperm
  exact hperm.cons Catalog.initMarker

section Fresh

variable {members : List Member}

theorem mem_storedNames_iff {name : String} :
    name ∈ storedNames members ↔ ∃ property, .stored property ∈ members ∧ property.name = name := by
  simp [storedNames]

theorem mem_setterCounters_iff {name : String} :
    name ∈ setterCounters members ↔
      ∃ property, .stored property ∈ members ∧ Property.counterName property.name = name := by
  simp [setterCounters, storedNames]

theorem mem_computedNames_iff {name : String} :
    name ∈ computedNames members ↔
      ∃ method : Method, .callable method ∈ members ∧ method.kind = .computedProperty ∧
        method.name = name := by
  simp [computedNames, and_assoc]

theorem storedNames_sublist (members : List Member) :
    storedNames members <+ members.map Member.signatureKey := by
  induction members with
  | nil => exact .slnil
  | cons member rest ih =>
      cases member with
      | stored property => exact ih.cons_cons property.name
      | callable method => exact ih.cons _

theorem nodup_storedNames (hkeys : (members.map Member.signatureKey).Nodup) :
    (storedNames members).Nodup :=
  hkeys.sublist (storedNames_sublist members)

theorem counterName_injective : Function.Injective Property.counterName :=
  fun _ _ heq => (String.append_left_inj _).mp heq

theorem backingName_injective : Function.Injective Property.backingName :=
  fun _ _ heq => (String.append_right_inj _).mp heq

theorem nodup_setterCounters (hkeys : (members.map Member.signatureKey).Nodup) :
    (setterCounters members).Nodup :=
  (nodup_storedNames hkeys).map counterName_injective

theorem nodup_backingSlots (hkeys : (members.map Member.signatureKey).Nodup) :
    (backingSlots known members).Nodup := by
  have hsublist : ((members.filterMap stored?).filter (Property.isBacked · known)).map
      Property.name <+ storedNames members := List.filter_sublist.map _
  have hnodup := ((nodup_storedNames hkeys).sublist hsublist).map backingName_injective
  rwa [List.map_map] at hnodup

theorem mem_reserved {name : String} (hfresh : ∀ member ∈ members, member.isProcessed = false)
    (hmem : name ∈ storedNames members ++ setterCounters members) :
    name ∈ members.flatMap Identifier.reservedBy := by
  have hreserved : ∀ property, .stored property ∈ members →
      property.name ∈ members.flatMap Identifier.reservedBy ∧
        Property.counterName property.name ∈ members.flatMap Identifier.reservedBy := by
    intro property hmember
    have hproperty : property.isProcessed = false := hfresh _ hmember
    constructor <;>
      exact List.mem_flatMap.mpr ⟨_, hmember, by simp [Identifier.reservedBy, hproperty]⟩
  rcases List.mem_append.mp hmem with hname | hcounter
  · obtain ⟨property, hproperty, rfl⟩ := mem_storedNames_iff.mp hname
    exact (hreserved property hproperty).1
  · obtain ⟨property, hproperty, rfl⟩ := mem_setterCounters_iff.mp hcounter
    exact (hreserved property hproperty).2

/-- Counters and slots of callables meet neither a stored property nor a setter counter. -/
theorem disjoint_recorderNames (hfresh : ∀ member ∈ members, member.isProcessed = false) :
    (storedNames members ++ setterCounters members).Disjoint (recorderNames members) :=
  fun _ hname hrecorder => (Identifier.recorders_resolveFrom _ members).2 _ hrecorder
    (mem_reserved hfresh hname)

theorem append_ne_initMarker {ending : String}
    (hending : ¬ending.toList <:+ Catalog.initMarker.toList) (name : String) :
    name ++ ending ≠ Catalog.initMarker := by
  intro heq
  refine hending ⟨name.toList, ?_⟩
  rw [← String.toList_append, heq]

theorem initMarker_not_mem_setterCounters (members : List Member) :
    Catalog.initMarker ∉ setterCounters members := by
  intro hmem
  obtain ⟨property, _, heq⟩ := mem_setterCounters_iff.mp hmem
  exact append_ne_initMarker (by decide) property.name heq

theorem initMarker_not_mem_recorderNames (members : List Member) :
    Catalog.initMarker ∉ recorderNames members := by
  intro hmem
  obtain ⟨⟨member, identifier⟩, _, hrecorder⟩ := List.mem_flatMap.mp hmem
  cases member with
  | stored property => simp [Identifier.recordersOf] at hrecorder
  | callable method =>
      simp only [Identifier.recordersOf] at hrecorder
      split at hrecorder
      · simp at hrecorder
      · rcases List.mem_pair.mp hrecorder with hcounter | hslot
        · exact append_ne_initMarker (by decide) identifier hcounter.symm
        · exact append_ne_initMarker (by decide) identifier hslot.symm

theorem initMarker_not_mem_names
    (hmarker : ∀ member ∈ members, member.name ≠ Catalog.initMarker) :
    Catalog.initMarker ∉ storedNames members ++ setterCounters members ++
      recorderNames members ++ computedNames members := by
  simp only [List.mem_append, not_or]
  refine ⟨⟨⟨?_, initMarker_not_mem_setterCounters members⟩,
    initMarker_not_mem_recorderNames members⟩, ?_⟩
  · intro hmem
    obtain ⟨property, hproperty, hname⟩ := mem_storedNames_iff.mp hmem
    exact hmarker _ hproperty hname
  · intro hmem
    obtain ⟨method, hmethod, _, hname⟩ := mem_computedNames_iff.mp hmem
    exact hmarker _ hmethod hname

theorem nodup_storedNames_append (hfresh : ∀ member ∈ members, member.isProcessed = false)
    (hkeys : (members.map Member.signatureKey).Nodup)
    (hcounters : (storedNames members).Disjoint (setterCounters members)) :
    (storedNames members ++ setterCounters members ++ recorderNames members).Nodup :=
  ((nodup_storedNames hkeys).append (nodup_setterCounters hkeys) hcounters).append
    (Identifier.recorders_resolveFrom _ members).1 (disjoint_recorderNames hfresh)

/-- **When the variables of a mock class have different names.** The class text has a line for each
declared name. For fresh members with different signature keys, none of them named like the init
marker, the names are all different exactly when the pairs that nothing reserves are. -/
theorem nodup_declaredNames_iff (known : KnownLiterals) (disk : Disk) (entity : Entity)
    (isFinal : Bool) (cache : SourceCache)
    (hfresh : ∀ member ∈ members, member.isProcessed = false)
    (hkeys : (members.map Member.signatureKey).Nodup)
    (hmarker : ∀ member ∈ members, member.name ≠ Catalog.initMarker) :
    (∃ lines declarations,
      (classText disk known entity members isFinal cache).1 = .ok (joinLines lines) ∧
      declarations <+ lines ∧ List.Forall₂ Declares declarations (declaredNames known members)) ∧
    ((declaredNames known members).Nodup ↔ Separate known members) := by
  obtain ⟨declarations, hsublist, hdeclares⟩ :=
    exists_declarations known entity isFinal hfresh
  refine ⟨⟨_, declarations, congrArg Prod.fst (classText_of_fresh disk entity isFinal cache hfresh),
    hsublist, hdeclares⟩, ?_⟩
  rw [(declaredNames_perm known members).nodup_iff, List.nodup_append', List.nodup_cons,
    List.nodup_append']
  constructor
  · rintro ⟨⟨_, hreserved, hcomputed, hothers⟩, _, hbacking⟩
    have hstored := (List.nodup_append'.mp (List.nodup_append'.mp hreserved).1).2.2
    exact ⟨hstored, List.disjoint_symm hothers, hcomputed, List.disjoint_symm hbacking⟩
  · intro h
    exact ⟨⟨initMarker_not_mem_names hmarker,
      nodup_storedNames_append hfresh hkeys h.stored_counters, h.computed_nodup,
      List.disjoint_symm h.computed⟩, nodup_backingSlots hkeys, List.disjoint_symm h.backing⟩

end Fresh

def plainCallable (name declaredName : String) (kind : MethodKind) : Member :=
  .callable
    { name
      kind
      generics := []
      params := []
      returnType := .ofText "Int"
      isStatic := false
      accessLevel := ""
      effects := ""
      attributes := []
      handler := some (Handler.ofParams [] [] (.ofText "Int") "" false)
      declaredName
      origin := { path := ⟨"Api.swift"⟩, offset := 0, length := 0, processed := false }
      components := ["Int"] }

def separateMembers : List Member :=
  [Catalog.plainProperty "id" "Int", Catalog.plainProperty "delegate" "Delegate",
    plainCallable "load" "load()" .function, plainCallable "isReady" "isReady" .computedProperty]

theorem nodup_declaredNames_of_separateMembers :
    (∀ member ∈ separateMembers, member.isProcessed = false) ∧
    (separateMembers.map Member.signatureKey).Nodup ∧
    (∀ member ∈ separateMembers, member.name ≠ Catalog.initMarker) ∧
    (declaredNames [] separateMembers).Nodup ∧ Separate [] separateMembers := by
  have hfresh : ∀ member ∈ separateMembers, member.isProcessed = false := by decide
  have hkeys : (separateMembers.map Member.signatureKey).Nodup := by decide +kernel
  have hmarker : ∀ member ∈ separateMembers, member.name ≠ Catalog.initMarker := by decide
  have hnodup : (declaredNames [] separateMembers).Nodup := by decide +kernel
  have hiff := (nodup_declaredNames_iff [] (fun _ => .error .notFound)
    (Catalog.plainProtocol "Api" [] separateMembers) false .empty hfresh hkeys hmarker).2
  exact ⟨hfresh, hkeys, hmarker, hnodup, hiff.mp hnodup⟩

/-- A function whose counter has the name of a computed property. -/
def clashingMembers : List Member :=
  [plainCallable "foo" "foo()" .function,
    plainCallable "fooCallCount" "fooCallCount" .computedProperty]

/-- Nothing keeps a counter from the name of a computed property that comes later. -/
theorem not_nodup_declaredNames :
    ¬∀ (known : KnownLiterals) (members : List Member),
      (∀ member ∈ members, member.isProcessed = false) →
      (members.map Member.signatureKey).Nodup →
      (∀ member ∈ members, member.name ≠ Catalog.initMarker) →
      (declaredNames known members).Nodup := by
  intro hall
  have hnodup := hall [] clashingMembers (by decide) (by decide +kernel) (by decide)
  revert hnodup
  decide +kernel

end Understudy.Mock
