import Understudy.Analysis
import Understudy.Output
import Understudy.Proofs.Catalog.Flatten
import Understudy.Proofs.Mock.Texts

/-!
# Reported and rendered identifiers

An analysis resolves the identifiers of an entity among its own members. The class resolves them
among the members of the whole lineage, where inherited stored properties reserve their names before
any method chooses, and without the own members that are left out. So an analysis can report an
identifier that the class does not use: `Output.reports_iff` says exactly when.
-/

namespace Understudy

open scoped List

namespace Identifier

variable {members : List Member} {member : Member} {method : Method} {used : List String}

/-- The turns before the first one of a member. -/
def turnsBefore (pairs : List (Member × String)) (member : Member) : List (Member × String) :=
  pairs.takeWhile fun pair => pair.1 != member

/-- The identifier that a member has among others. -/
def among? (members : List Member) (member : Member) : Option String :=
  (members.zip (resolve members)).lookup member

/-- The names that are reserved or taken when a member's turn comes. -/
def takenBefore (members : List Member) (member : Member) : List String :=
  members.flatMap reservedBy ++
    (turnsBefore (members.zip (resolve members)) member).flatMap takenBy

theorem lookup_zip_resolveFrom (used : List String) (hmem : .callable method ∈ members)
    (hrecorded : keepsName method = false) :
    (members.zip (resolveFrom used members)).lookup (.callable method) =
      some (choose method (used ++
        (turnsBefore (members.zip (resolveFrom used members)) (.callable method)).flatMap
          takenBy)) := by
  induction members generalizing used with
  | nil => simp at hmem
  | cons member rest ih =>
      obtain ⟨identifier, hzip, hchosen⟩ := exists_zip_resolveFrom_cons used member rest
      rw [hzip, List.lookup_cons, turnsBefore, List.takeWhile_cons]
      by_cases hfirst : member = .callable method
      · obtain rfl := hchosen method hfirst hrecorded
        simp [hfirst]
      · have hrest := (List.mem_cons.mp hmem).resolve_left (Ne.symm hfirst)
        have hother : (member != .callable method) = true := bne_iff_ne.mpr hfirst
        have hsame : (Member.callable method == member) = false :=
          beq_eq_false_iff_ne.mpr (Ne.symm hfirst)
        simp only [hother, hsame, if_true]
        rw [ih _ hrest]
        -- the order in which names were taken does not matter
        refine congrArg some (choose_congr fun name => ?_)
        simp only [List.mem_append, List.flatMap_cons, turnsBefore]
        tauto

theorem among?_callable (hmem : .callable method ∈ members) (hrecorded : keepsName method = false) :
    among? members (.callable method) =
      some (choose method (takenBefore members (.callable method))) :=
  lookup_zip_resolveFrom _ hmem hrecorded

theorem mem_zip_of_among? {identifier : String} (h : among? members member = some identifier) :
    (member, identifier) ∈ members.zip (resolve members) := by
  obtain ⟨before, after, hsplit, _⟩ := List.lookup_eq_some_iff.mp h
  rw [hsplit]
  exact List.mem_append_right _ List.mem_cons_self

theorem among?_of_mem_zip (hnodup : members.Nodup) {identifier : String}
    (h : (member, identifier) ∈ members.zip (resolve members)) :
    among? members member = some identifier := by
  obtain ⟨before, after, hsplit⟩ := List.append_of_mem h
  refine List.lookup_eq_some_iff.mpr ⟨before, after, hsplit, ?_⟩
  intro pair hpair
  rw [← map_fst_zip_resolve members, hsplit, List.map_append, List.map_cons] at hnodup
  have hdisjoint := (List.nodup_append'.mp hnodup).2.2
  refine bne_iff_ne.mpr fun heq => ?_
  exact hdisjoint (List.mem_map_of_mem hpair) (heq ▸ List.mem_cons_self)

theorem map_fst_turnsBefore (members : List Member) (member : Member) :
    (turnsBefore (members.zip (resolve members)) member).map Prod.fst =
      members.takeWhile (· != member) := by
  conv_rhs => rw [← map_fst_zip_resolve members]
  rw [turnsBefore, List.takeWhile_map]
  rfl

/-- A turn that comes before another is the one with the identifier of the earlier member. -/
theorem mem_turnsBefore_of_among? {other : Member} {identifier : String}
    (hturn : other ∈ members.takeWhile (· != member))
    (h : among? members other = some identifier) :
    (other, identifier) ∈ turnsBefore (members.zip (resolve members)) member := by
  rw [← map_fst_turnsBefore] at hturn
  rw [among?] at h
  rw [turnsBefore] at hturn ⊢
  generalize members.zip (resolve members) = pairs at h hturn
  induction pairs with
  | nil => simp at h
  | cons pair rest ih =>
      rw [List.takeWhile_cons] at hturn ⊢
      split at hturn
      · next hbefore =>
        rw [if_pos hbefore]
        rw [List.lookup_cons] at h
        split at h
        · next heq =>
          obtain rfl := Option.some.inj h
          rw [eq_of_beq heq]
          exact List.mem_cons_self
        · next hne =>
          refine List.mem_cons_of_mem _ (ih h ?_)
          rw [List.map_cons] at hturn
          exact (List.mem_cons.mp hturn).resolve_left (beq_eq_false_iff_ne.mp hne)
      · simp at hturn

/-- What is free when a member's turn comes among some members is free among others too, if those
reserve none of its names beyond the first ones, and if earlier turns among them are earlier turns
among the first ones with the same identifiers. -/
theorem isFree_takenBefore {first second : List Member} {identifier : String}
    (hfree : isFree (takenBefore first member) identifier = true) (hnodup : second.Nodup)
    (hreserved : ∀ name ∈ recordingNames identifier, ∀ other ∈ second,
      name ∈ reservedBy other → other ∈ first)
    (hturns : ∀ other : Method, keepsName other = false →
      .callable other ∈ second.takeWhile (· != member) →
        .callable other ∈ first.takeWhile (· != member) ∧
          among? first (.callable other) = among? second (.callable other)) :
    isFree (takenBefore second member) identifier = true := by
  have hfirst := isFree_iff.mp hfree
  refine isFree_iff.mpr fun name hname hmem => hfirst name hname ?_
  rcases List.mem_append.mp hmem with hmem | hmem
  · obtain ⟨other, hother, hreserves⟩ := List.mem_flatMap.mp hmem
    exact List.mem_append_left _
      (List.mem_flatMap.mpr ⟨other, hreserved name hname other hother hreserves, hreserves⟩)
  · obtain ⟨⟨taker, taken⟩, hturn, htakes⟩ := List.mem_flatMap.mp hmem
    obtain ⟨other, rfl, hrecorded, _⟩ := exists_method_of_mem_takenBy htakes
    obtain ⟨hbefore, hsame⟩ := hturns other hrecorded
      (map_fst_turnsBefore second member ▸ List.mem_map_of_mem hturn)
    have htaken : among? second (.callable other) = some taken :=
      among?_of_mem_zip hnodup ((List.takeWhile_sublist _).subset hturn)
    exact List.mem_append_right _ (List.mem_flatMap.mpr
      ⟨_, mem_turnsBefore_of_among? hbefore (hsame.trans htaken), htakes⟩)

end Identifier

namespace Catalog

variable {catalog : Catalog} {target : Entity} {member : Member}

theorem takeWhile_mergeMembers_sublist {seen : List String} {members : List Member}
    (hmem : member ∈ mergeMembers seen members) :
    (mergeMembers seen members).takeWhile (· != member) <+
      members.takeWhile (· != member) := by
  induction members generalizing seen with
  | nil => simp [mergeMembers]
  | cons head rest ih =>
      rw [List.takeWhile_cons]
      by_cases hskip : head.name = initMarker ∨ head.signatureKey ∈ seen
      · rw [mergeMembers_cons_of_skip hskip] at hmem ⊢
        obtain ⟨hname, hnew⟩ := of_mem_mergeMembers hmem
        have hother : (head != member) = true := by
          refine bne_iff_ne.mpr ?_
          rintro rfl
          exact hskip.elim hname hnew
        rw [if_pos hother]
        exact (ih hmem).cons head
      · obtain ⟨hname, hnew⟩ := not_or.mp hskip
        rw [mergeMembers_cons_of_keep hname hnew] at hmem ⊢
        rw [List.takeWhile_cons]
        split
        · next hother =>
          refine (ih ?_).cons_cons head
          exact (List.mem_cons.mp hmem).resolve_left (bne_iff_ne.mp hother).symm
        · exact .slnil

theorem mergeMembers_prefix_flatten (catalog : Catalog) (target : Entity) :
    mergeMembers [] target.members <+: catalog.flatten target := by
  rw [flatten, lineage, List.flatMap_cons]
  exact mergeMembers_prefix _ _ _

theorem nodup_flatten (catalog : Catalog) (target : Entity) : (catalog.flatten target).Nodup :=
  (nodup_keys_flatten catalog target).of_map _

/-- An own member that the class keeps is kept among the own members. -/
theorem mem_mergeMembers_of_mem_flatten (hown : member ∈ target.members)
    (hkept : member ∈ catalog.flatten target) : member ∈ mergeMembers [] target.members := by
  have hname := (of_mem_mergeMembers hkept).1
  obtain ⟨first, hfirst, hkey⟩ := exists_mem_mergeMembers hown hname List.not_mem_nil
  have hmem := (mergeMembers_prefix_flatten catalog target).subset hfirst
  rwa [List.inj_on_of_nodup_map (nodup_keys_flatten catalog target) hmem hkept hkey] at hfirst

/-- The own members before an own member are those that come before it in the class. -/
theorem takeWhile_flatten (hown : member ∈ target.members)
    (hkept : member ∈ catalog.flatten target) :
    (catalog.flatten target).takeWhile (· != member) =
      (mergeMembers [] target.members).takeWhile (· != member) := by
  have hmem := mem_mergeMembers_of_mem_flatten hown hkept
  obtain ⟨later, hlater⟩ := mergeMembers_prefix_flatten catalog target
  obtain ⟨before, after, hsplit⟩ := List.append_of_mem hmem
  have hnodup := (nodup_flatten catalog target).sublist
    (mergeMembers_prefix_flatten catalog target).sublist
  rw [hsplit] at hnodup
  have hbefore : ∀ other ∈ before, (other != member) = true := by
    intro other hother
    refine bne_iff_ne.mpr ?_
    rintro rfl
    exact (List.nodup_append'.mp hnodup).2.2 hother List.mem_cons_self
  have hstop (rest : List Member) :
      (before ++ member :: rest).takeWhile (· != member) = before := by
    rw [List.takeWhile_append_of_pos hbefore]
    simp
  rw [← hlater, hsplit, List.append_assoc, List.cons_append, hstop, hstop]

/-- No own member is left out of the class. -/
structure KeepsOwn (target : Entity) : Prop where
  keys : (target.members.map Member.signatureKey).Nodup
  names : ∀ member ∈ target.members, member.name ≠ initMarker

theorem mergeMembers_eq_self {seen : List String} {members : List Member}
    (hkeys : (members.map Member.signatureKey).Nodup)
    (hnames : ∀ member ∈ members, member.name ≠ initMarker ∧ member.signatureKey ∉ seen) :
    mergeMembers seen members = members := by
  induction members generalizing seen with
  | nil => rfl
  | cons head rest ih =>
      obtain ⟨hhead, hrest⟩ := List.forall_mem_cons.mp hnames
      obtain ⟨hnew, hkeys⟩ := List.nodup_cons.mp hkeys
      rw [mergeMembers_cons_of_keep hhead.1 hhead.2, ih hkeys]
      intro member hmem
      refine ⟨(hrest member hmem).1, List.not_mem_cons_of_ne_of_not_mem ?_ (hrest member hmem).2⟩
      intro hkey
      exact hnew (hkey ▸ List.mem_map_of_mem hmem)

theorem KeepsOwn.mergeMembers_eq (h : KeepsOwn target) :
    mergeMembers [] target.members = target.members :=
  mergeMembers_eq_self h.keys fun member hmem => ⟨h.names member hmem, List.not_mem_nil⟩

end Catalog

/-! ### What an analysis reports -/

namespace Output

open Identifier

variable {catalog : Catalog} {target : Entity} {member : Member} {method : Method}
  {identifier : String}

/-- The identifier that an analysis of an entity reports for one of its members. -/
def reported? (entity : Entity) (member : Member) : Option String :=
  ((entity.members.zip (AnalyzedEntity.ofEntity entity).members).lookup member).map
    AnalyzedMember.identifier

/-- The identifier that a member has in the class of a target. -/
def rendered? (catalog : Catalog) (target : Entity) (member : Member) : Option String :=
  among? (catalog.flatten target) member

theorem reported?_eq_among? (entity : Entity) (member : Member) :
    reported? entity member = among? entity.members member := by
  rw [reported?, AnalyzedEntity.ofEntity, among?]
  generalize resolve entity.members = identifiers
  induction entity.members generalizing identifiers with
  | nil => rfl
  | cons head rest ih =>
      cases identifiers with
      | nil => rfl
      | cons identifier later =>
          simp only [List.zip_cons_cons, List.map_cons, List.lookup_cons]
          split
          · rfl
          · exact ih later

/-- A fresh method of a target that its class keeps, and no initializer. -/
structure IsOwn (catalog : Catalog) (target : Entity) (method : Method) : Prop where
  own : .callable method ∈ target.members
  kept : .callable method ∈ catalog.flatten target
  fresh : method.isProcessed = false
  called : method.isInitializer = false

theorem IsOwn.recorded (h : IsOwn catalog target method) : keepsName method = false := by
  rw [keepsName, h.called, h.fresh, Bool.or_false]

theorem IsOwn.of_recorded (hrecorded : keepsName method = false)
    (hown : .callable method ∈ target.members) (hkept : .callable method ∈ catalog.flatten target) :
    IsOwn catalog target method := by
  obtain ⟨hcalled, hfresh⟩ := Bool.or_eq_false_iff.mp hrecorded
  exact ⟨hown, hkept, hfresh, hcalled⟩

theorem IsOwn.reported?_eq (h : IsOwn catalog target method) :
    reported? target (.callable method) =
      some (choose method (takenBefore target.members (.callable method))) :=
  (reported?_eq_among? _ _).trans (among?_callable h.own h.recorded)

theorem IsOwn.rendered?_eq (h : IsOwn catalog target method) :
    rendered? catalog target (.callable method) =
      some (choose method (takenBefore (catalog.flatten target) (.callable method))) :=
  among?_callable h.kept h.recorded

def Agrees (catalog : Catalog) (target : Entity) (method : Method) : Prop :=
  reported? target (.callable method) = rendered? catalog target (.callable method)

/-- The analysis of a target reports the identifiers that its class has. -/
def Reports (catalog : Catalog) (target : Entity) : Prop :=
  ∀ method, IsOwn catalog target method → Agrees catalog target method

/-- No inherited property that the class keeps reserves a name of a recorder. -/
def AvoidsInherited (catalog : Catalog) (target : Entity) (identifier : String) : Prop :=
  ∀ name ∈ recordingNames identifier, ∀ member ∈ catalog.flatten target,
    member ∉ target.members → name ∉ reservedBy member

/-- The methods that have their turn before agree. -/
def EarlierAgree (catalog : Catalog) (target : Entity) (method : Method) : Prop :=
  ∀ other, IsOwn catalog target other →
    .callable other ∈ (catalog.flatten target).takeWhile (· != .callable method) →
      Agrees catalog target other

theorem agrees_iff_isFree (h : IsOwn catalog target method)
    (hreported : reported? target (.callable method) = some identifier) {rendered : String}
    (hrendered : rendered? catalog target (.callable method) = some rendered) :
    Agrees catalog target method ↔
      isFree (takenBefore (catalog.flatten target) (.callable method)) identifier = true ∧
        isFree (takenBefore target.members (.callable method)) rendered = true := by
  rw [Agrees, hreported, hrendered, Option.some_inj]
  obtain rfl := Option.some.inj (h.reported?_eq.symm.trans hreported)
  obtain rfl := Option.some.inj (h.rendered?_eq.symm.trans hrendered)
  exact choose_eq_choose_iff

theorem isFree_class (h : IsOwn catalog target method)
    (hearlier : EarlierAgree catalog target method)
    (hreported : reported? target (.callable method) = some identifier)
    (havoids : AvoidsInherited catalog target identifier) :
    isFree (takenBefore (catalog.flatten target) (.callable method)) identifier = true := by
  obtain rfl := Option.some.inj (h.reported?_eq.symm.trans hreported)
  refine isFree_takenBefore (isFree_choose method _) (Catalog.nodup_flatten catalog target) ?_ ?_
  · intro name hname member hmember hreserves
    by_contra hinherited
    exact havoids name hname member hmember hinherited hreserves
  · intro other hrecorded hbefore
    have hown := (Catalog.takeWhile_mergeMembers_sublist
      (Catalog.mem_mergeMembers_of_mem_flatten h.own h.kept)).subset
      (Catalog.takeWhile_flatten h.own h.kept ▸ hbefore)
    have hother : IsOwn catalog target other :=
      .of_recorded hrecorded ((List.takeWhile_sublist _).subset hown)
        ((List.takeWhile_sublist _).subset hbefore)
    exact ⟨hown, (reported?_eq_among? _ _).symm.trans (hearlier other hother hbefore)⟩

theorem isFree_own (hkeeps : Catalog.KeepsOwn target) (h : IsOwn catalog target method)
    (hearlier : EarlierAgree catalog target method)
    (hrendered : rendered? catalog target (.callable method) = some identifier) :
    isFree (takenBefore target.members (.callable method)) identifier = true := by
  obtain rfl := Option.some.inj (h.rendered?_eq.symm.trans hrendered)
  have hclass : target.members ⊆ catalog.flatten target :=
    hkeeps.mergeMembers_eq ▸ (Catalog.mergeMembers_prefix_flatten catalog target).subset
  refine isFree_takenBefore (isFree_choose method _) (hkeeps.keys.of_map _) ?_ ?_
  · exact fun _ _ member hmember _ => hclass hmember
  · intro other hrecorded hown
    have hbefore :
        .callable other ∈ (catalog.flatten target).takeWhile (· != .callable method) := by
      rwa [Catalog.takeWhile_flatten h.own h.kept, hkeeps.mergeMembers_eq]
    have hother : IsOwn catalog target other :=
      .of_recorded hrecorded ((List.takeWhile_sublist _).subset hown)
        ((List.takeWhile_sublist _).subset hbefore)
    exact ⟨hbefore, (hearlier other hother hbefore).symm.trans (reported?_eq_among? _ _)⟩

theorem idxOf_lt_idxOf_of_mem_takeWhile {members : List Member} {other : Member}
    (h : other ∈ members.takeWhile (· != member)) : members.idxOf other < members.idxOf member := by
  induction members with
  | nil => simp at h
  | cons head rest ih =>
      rw [List.takeWhile_cons] at h
      split at h
      · next hother =>
        rw [List.idxOf_cons_ne rest (bne_iff_ne.mp hother)]
        rcases List.mem_cons.mp h with rfl | hrest
        · rw [List.idxOf_cons_self]
          exact Nat.succ_pos _
        · by_cases hhead : head = other
          · rw [hhead, List.idxOf_cons_self]
            exact Nat.succ_pos _
          · rw [List.idxOf_cons_ne rest hhead]
            exact Nat.succ_lt_succ (ih hrest)
      · simp at h

/-- If each method agrees once those before it do, then all agree. -/
theorem reports_of_turns
    (hturn : ∀ method, IsOwn catalog target method → EarlierAgree catalog target method →
      Agrees catalog target method) : Reports catalog target := by
  intro method
  induction hindex : (catalog.flatten target).idxOf (.callable method) using
    Nat.strongRecOn generalizing method with
  | ind index ih =>
      intro h
      refine hturn method h fun other hother hbefore => ?_
      exact ih _ (hindex ▸ idxOf_lt_idxOf_of_mem_takeWhile hbefore) other rfl hother

/-- What the class declares for a method stands together in its text. -/
theorem exists_mockLines_of_targetText {disk : Disk} {options : OutputOptions}
    {cache : SourceCache} {text : String}
    (htext : (targetText disk catalog options target cache).1 = .ok text)
    (h : IsOwn catalog target method)
    (hrendered : rendered? catalog target (.callable method) = some identifier) :
    ∃ before after, text =
      Layout.joinLines (before ++ method.mockLines identifier catalog.knownLiterals ++ after) := by
  obtain ⟨before, after, hlines⟩ :=
    Mock.exists_lines_of_pair htext (mem_zip_of_among? hrendered) h.fresh
  refine ⟨before, after, ?_⟩
  rw [hlines, Mock.memberLines, Callable.lines]
  split
  · next hkind =>
    have hcalled := h.called
    simp [Method.isInitializer, hkind] at hcalled
  · rfl

/-- **When an analysis reports the identifiers of the class.** A fresh method of the target that its
class keeps has an identifier in the analysis and one in the class, whose text has the counter, the
slot and the body under the latter. The two agree for all such methods exactly if no inherited
property reserves a name of a reported identifier and no rendered one was taken in the analysis, as
it can be by members that the class leaves out. If the class leaves out no own member then inherited
properties alone decide. -/
theorem reports_iff (catalog : Catalog) (target : Entity) :
    (∀ method, IsOwn catalog target method → ∃ reported rendered,
      reported? target (.callable method) = some reported ∧
      rendered? catalog target (.callable method) = some rendered ∧
      ∀ disk options cache text, (targetText disk catalog options target cache).1 = .ok text →
        ∃ before after, text = Layout.joinLines
          (before ++ method.mockLines rendered catalog.knownLiterals ++ after)) ∧
    (Reports catalog target ↔ ∀ method, IsOwn catalog target method → ∀ reported rendered,
      reported? target (.callable method) = some reported →
      rendered? catalog target (.callable method) = some rendered →
        AvoidsInherited catalog target reported ∧
          isFree (takenBefore target.members (.callable method)) rendered = true) ∧
    (Catalog.KeepsOwn target →
      (Reports catalog target ↔ ∀ method, IsOwn catalog target method → ∀ reported,
        reported? target (.callable method) = some reported →
          AvoidsInherited catalog target reported)) := by
  have havoids : Reports catalog target → ∀ method, IsOwn catalog target method → ∀ reported,
      reported? target (.callable method) = some reported →
        AvoidsInherited catalog target reported := by
    intro hall method h reported hreported name hname member hmember _ hreserves
    have hfree := ((agrees_iff_isFree h hreported h.rendered?_eq).mp (hall method h)).1
    exact isFree_iff.mp hfree name hname
      (List.mem_append_left _ (List.mem_flatMap.mpr ⟨member, hmember, hreserves⟩))
  refine ⟨?_, ⟨?_, ?_⟩, ?_⟩
  · intro method h
    exact ⟨_, _, h.reported?_eq, h.rendered?_eq, fun disk options cache text htext =>
      exists_mockLines_of_targetText htext h h.rendered?_eq⟩
  · intro hall method h reported rendered hreported hrendered
    exact ⟨havoids hall method h reported hreported,
      ((agrees_iff_isFree h hreported hrendered).mp (hall method h)).2⟩
  · intro hall
    refine reports_of_turns fun method h hearlier => ?_
    obtain ⟨hinherited, hown⟩ := hall method h _ _ h.reported?_eq h.rendered?_eq
    exact (agrees_iff_isFree h h.reported?_eq h.rendered?_eq).mpr
      ⟨isFree_class h hearlier h.reported?_eq hinherited, hown⟩
  · intro hkeeps
    refine ⟨havoids, fun hall => reports_of_turns fun method h hearlier => ?_⟩
    exact (agrees_iff_isFree h h.reported?_eq h.rendered?_eq).mpr
      ⟨isFree_class h hearlier h.reported?_eq (hall method h _ h.reported?_eq),
        isFree_own hkeeps h hearlier h.rendered?_eq⟩

def fetchMethod : Method :=
  { name := "fetch"
    kind := .function
    generics := []
    params := []
    returnType := .ofText "Int"
    isStatic := false
    accessLevel := ""
    effects := ""
    attributes := []
    handler := some (Handler.ofParams [] [] (.ofText "Int") "" false)
    declaredName := "fetch()"
    origin := { path := ⟨"Api.swift"⟩, offset := 0, length := 0, processed := false }
    components := ["Int"] }

def fetchingTarget : Entity :=
  Catalog.plainProtocol "Api" ["Base"] [.callable fetchMethod]

def fetchingCatalog (propertyName : String) : Catalog :=
  ⟨[fetchingTarget,
    Catalog.plainProtocol "Base" [] [Catalog.plainProperty propertyName "Int"]]⟩

theorem fetchingTarget_mem_targets (propertyName : String) :
    fetchingTarget ∈ (fetchingCatalog propertyName).targets :=
  Catalog.mem_targets_iff.mpr ⟨rfl, rfl⟩

theorem lineage_fetchingTarget (propertyName : String) :
    (fetchingCatalog propertyName).lineage fetchingTarget =
      [fetchingTarget,
        Catalog.plainProtocol "Base" [] [Catalog.plainProperty propertyName "Int"]] := by
  have hbase : (fetchingCatalog propertyName).resolve? "Base" =
      some (Catalog.plainProtocol "Base" [] [Catalog.plainProperty propertyName "Int"]) := rfl
  simp [Catalog.lineage, Catalog.walk, Catalog.walk_cons, hbase, fetchingTarget,
    Catalog.plainProtocol]

/-- A property that leaves the recorders of `fetch` alone changes nothing. -/
theorem reports_iff_of_otherProperty :
    fetchingTarget ∈ (fetchingCatalog "id").targets ∧ Catalog.KeepsOwn fetchingTarget ∧
    IsOwn (fetchingCatalog "id") fetchingTarget fetchMethod ∧
    reported? fetchingTarget (.callable fetchMethod) = some "fetch" ∧
    Reports (fetchingCatalog "id") fetchingTarget := by
  have hclass : (fetchingCatalog "id").flatten fetchingTarget =
      [.callable fetchMethod, Catalog.plainProperty "id" "Int"] := by
    rw [Catalog.flatten, lineage_fetchingTarget]
    decide
  have hkeeps : Catalog.KeepsOwn fetchingTarget := ⟨by decide, by decide⟩
  have hown : IsOwn (fetchingCatalog "id") fetchingTarget fetchMethod :=
    ⟨List.mem_cons_self, hclass ▸ List.mem_cons_self, rfl, rfl⟩
  have hreported : reported? fetchingTarget (.callable fetchMethod) = some "fetch" := by
    decide +kernel
  refine ⟨fetchingTarget_mem_targets "id", hkeeps, hown, hreported, ?_⟩
  refine ((reports_iff (fetchingCatalog "id") fetchingTarget).2.2 hkeeps).mpr ?_
  intro method h identifier hidentifier
  obtain rfl := Member.callable.inj (List.mem_singleton.mp h.own)
  obtain rfl := Option.some.inj (hreported.symm.trans hidentifier)
  rw [AvoidsInherited, hclass]
  decide

theorem targetText_fetchingTarget :
    (targetText (fun _ => .error .notFound) (fetchingCatalog "fetchCallCount") {} fetchingTarget
        .empty).1 =
      .ok (Layout.joinLines ["class ApiMock: Api \x7b", "    private var _doneInit = false",
        "    init() \x7b _doneInit = true \x7d",
        "    var fetchIntCallCount = 0",
        "    var fetchIntHandler: (() -> (Int))?",
        "    func fetch() -> Int \x7b",
        "        fetchIntCallCount += 1",
        "        if let fetchIntHandler = fetchIntHandler \x7b",
        "            return fetchIntHandler()",
        "        \x7d",
        "        return 0",
        "    \x7d",
        "    var fetchCallCountSetCallCount = 0",
        "    var fetchCallCount: Int = 0 \x7b didSet \x7b if _doneInit \x7b " ++
          "fetchCallCountSetCallCount += 1 \x7d \x7d \x7d",
        "\x7d"]) := by
  rw [targetText, Catalog.flatten, lineage_fetchingTarget]
  decide +kernel

/-- With a stored property `fetchCallCount` in the parent the class counts the calls under another
name than the analysis reports. -/
theorem not_reported_counter_in_text :
    ¬∀ (catalog : Catalog) (target : Entity) (method : Method) (identifier : String) (disk : Disk)
      (options : OutputOptions) (cache : SourceCache) (text : String),
      target ∈ catalog.targets → IsOwn catalog target method →
      reported? target (.callable method) = some identifier →
      (targetText disk catalog options target cache).1 = .ok text →
      ("var " ++ Callable.counterName identifier ++ " = 0").toList <:+: text.toList := by
  intro hall
  have hown : IsOwn (fetchingCatalog "fetchCallCount") fetchingTarget fetchMethod := by
    refine ⟨List.mem_cons_self, ?_, rfl, rfl⟩
    rw [Catalog.flatten, lineage_fetchingTarget]
    decide
  have hinfix := hall _ _ fetchMethod "fetch" _ _ _ _
    (fetchingTarget_mem_targets "fetchCallCount") hown (by decide +kernel) targetText_fetchingTarget
  rw [Layout.joinLines, String.toList_intercalate] at hinfix
  revert hinfix
  decide +kernel

end Output

end Understudy
