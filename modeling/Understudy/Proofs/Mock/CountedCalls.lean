import Understudy.Proofs.Mock.Increments
import Understudy.Proofs.Mock.LegalNames
import Understudy.Proofs.Mock.OneLine

/-!
# Each call is counted once

The recorders of a class differ from each other and from the counters of setters, so one line of the
whole class adds to the counter of a method. It is a line of its body, and stands directly before
the one that looks for its handler.
-/

namespace Understudy

open Text Layout

namespace Mock

variable {known : KnownLiterals} {members : List Member} {entity : Entity} {method : Method}
  {identifier other : String} {isFinal : Bool}

theorem isRecordable_nameAt (hspelled : method.IsPlainlySpelled) (hbuilt : method.IsBuilt)
    (level : Nat) : IsRecordable (method.nameAt level) := by
  refine ⟨?_, hspelled.isSolid_of_mem_nameAt hbuilt⟩
  obtain ⟨c, rest, hletters, hc⟩ := exists_cons_of_isIdentifier hspelled.name
  obtain ⟨more, hmore⟩ := method.exists_nameAt_eq_append level
  exact ⟨c, rest ++ more.toList, by simp [hmore, hletters], hc⟩

/-- The members of a class are fresh and spelled plainly, and its methods are as they are built. -/
structure IsPlainClass (members : List Member) : Prop where
  fresh : ∀ member ∈ members, member.isProcessed = false
  spelled : ∀ member ∈ members, member.IsPlainlySpelled
  built : ∀ method, .callable method ∈ members → method.IsBuilt

theorem forall_mem_headLines {P : String → Prop}
    (hopening : P (keyword entity.accessLevel ++ keyword (if isFinal then "final" else "") ++
      "class " ++ entity.mockName ++ ": " ++ entity.name ++ " \x7b"))
    (hmarker : P (tab 1 ++ "private var _doneInit = false"))
    (hdefault : P (tab 1 ++ keyword entity.accessLevel ++ "init() \x7b _doneInit = true \x7d")) :
    ∀ line ∈ headLines entity members isFinal, P line := by
  cases hfresh : hasFreshInitializer members <;>
    simp only [headLines, hfresh, Bool.false_eq_true, if_false, if_true, List.append_nil,
      List.forall_mem_append, List.forall_mem_cons, hopening, hmarker, hdefault] <;> simp

namespace IsPlainClass

theorem isRecordable (h : IsPlainClass members)
    (hpair : (.callable method, identifier) ∈ members.zip (Identifier.resolve members))
    (hinitializer : method.isInitializer = false) : IsRecordable identifier := by
  have hmember := (List.of_mem_zip hpair).1
  have hrecorded := (Identifier.keepsName_eq_isInitializer (h.fresh _ hmember)).trans hinitializer
  obtain ⟨level, rfl⟩ := Identifier.exists_level_of_mem_zip hpair hrecorded
  exact isRecordable_nameAt (h.spelled _ hmember) (h.built _ hmember) level

theorem mem_recorders (h : IsPlainClass members)
    (hpair : (.callable method, identifier) ∈ members.zip (Identifier.resolve members))
    (hinitializer : method.isInitializer = false) :
    Callable.counterName identifier ∈
      Identifier.recorders (members.zip (Identifier.resolve members)) := by
  have hmember := (List.of_mem_zip hpair).1
  have hrecorded := (Identifier.keepsName_eq_isInitializer (h.fresh _ hmember)).trans hinitializer
  exact List.mem_flatMap.mpr ⟨_, hpair, by simp [Identifier.recordersOf, hrecorded]⟩

theorem countAdds_memberLines (h : IsPlainClass members) {pair : Member × String}
    (hpair : pair ∈ members.zip (Identifier.resolve members))
    (hother : Callable.counterName other ∈
      Identifier.recorders (members.zip (Identifier.resolve members)))
    (hrecordable : IsRecordable other) :
    countAdds (Callable.counterName other) (memberLines known pair) =
      (Identifier.recordersOf pair).count (Callable.counterName other) := by
  obtain ⟨member, identifier⟩ := pair
  have hmember := (List.of_mem_zip hpair).1
  cases member with
  | stored property =>
      -- the counter of a setter is reserved, and no recorder has a reserved name
      have hreserved : Property.counterName property.name ∈ setterCounters members :=
        mem_setterCounters_iff.mpr ⟨property, hmember, rfl⟩
      have hne : Property.counterName property.name ≠ Callable.counterName other := fun heq =>
        disjoint_recorderNames h.fresh (List.mem_append_right _ hreserved) (heq ▸ hother)
      have hspelled : property.IsPlainlySpelled := h.spelled _ hmember
      rw [memberLines, Property.countAdds_lines hspelled.name hrecordable]
      split <;> simp [Identifier.recordersOf, hne]
  | callable method =>
      have hspelled : method.IsPlainlySpelled := h.spelled _ hmember
      have hfresh : method.isProcessed = false := h.fresh _ hmember
      have hkeeps := Identifier.keepsName_eq_isInitializer hfresh
      cases hinitializer : method.isInitializer with
      | true =>
          have hkind : method.kind = .initializer := by
            simpa [Method.isInitializer] using hinitializer
          have hsilent := Callable.isSilent_of_mem_initializerLines
            fun param hparam => (hspelled.params param hparam).2
          simp only [memberLines, Callable.lines, hkind, Identifier.recordersOf, hkeeps,
            hinitializer, if_true, List.count_nil]
          exact countAdds_of_isSilent hsilent hrecordable
      | false =>
          have hown := h.isRecordable hpair hinitializer
          rw [memberLines_of_not_isInitializer hinitializer, Callable.countAdds_mockLines
            (fun text htext => (hspelled.attributes text htext).1) hown hrecordable]
          simp [Identifier.recordersOf, hkeeps, hinitializer, List.count_cons,
            (Identifier.counterName_ne_slotName other identifier).symm]

/-- One line of the class adds to the counter of a recording member. -/
theorem countAdds_classLines (h : IsPlainClass members)
    (hpair : (.callable method, identifier) ∈ members.zip (Identifier.resolve members))
    (hinitializer : method.isInitializer = false) :
    countAdds (Callable.counterName identifier) (classLines known entity members isFinal) = 1 := by
  have hrecordable := h.isRecordable hpair hinitializer
  have hrecorder := h.mem_recorders hpair hinitializer
  have hhead : ∀ line ∈ headLines entity members isFinal, endsAside line = true :=
    forall_mem_headLines (endsAside_append _ (by decide)) (endsAside_append _ (by decide))
      (endsAside_append _ (by decide))
  have hheadCount := countAdds_of_endsAside hhead hrecordable
  have hclose : countAdds (Callable.counterName identifier) ["\x7d"] = 0 :=
    countAdds_singleton_of_endsAside (by decide) hrecordable
  have hmembers : countAdds (Callable.counterName identifier)
      ((members.zip (Identifier.resolve members)).flatMap (memberLines known)) =
        (Identifier.recorders (members.zip (Identifier.resolve members))).count
          (Callable.counterName identifier) := by
    rw [countAdds, List.countP_flatMap, Identifier.recorders, List.count_flatMap]
    refine congrArg List.sum (List.map_congr_left fun pair hmem => ?_)
    exact h.countAdds_memberLines hmem hrecorder hrecordable
  have hnodup :=
    (Identifier.recorders_resolveFrom (members.flatMap Identifier.reservedBy) members).1
  let name := Callable.counterName identifier
  let pairs := members.zip (Identifier.resolve members)
  calc countAdds name (classLines known entity members isFinal)
      = countAdds name (headLines entity members isFinal) +
          countAdds name (pairs.flatMap (memberLines known)) + countAdds name ["\x7d"] := by
        rw [classLines, countAdds_append, countAdds_append]
    _ = (Identifier.recorders pairs).count name := by
        rw [hheadCount, hclose, hmembers, Nat.zero_add, Nat.add_zero]
    _ = 1 := List.count_eq_one_of_mem hnodup hrecorder

theorem oneLine_memberLines (h : IsPlainClass members) (hknown : ∀ entry ∈ known, OneLine entry.2)
    {pair : Member × String} (hpair : pair ∈ members.zip (Identifier.resolve members)) :
    ∀ line ∈ memberLines known pair, OneLine line := by
  obtain ⟨member, identifier⟩ := pair
  have hmember := (List.of_mem_zip hpair).1
  cases member with
  | stored property =>
      have hspelled : property.IsPlainlySpelled := h.spelled _ hmember
      exact hspelled.lines hknown
  | callable method =>
      have hspelled : method.IsPlainlySpelled := h.spelled _ hmember
      have honeLine := hspelled.isOneLine (h.built _ hmember)
      cases hinitializer : method.isInitializer with
      | true =>
          have hkind : method.kind = .initializer := by
            simpa [Method.isInitializer] using hinitializer
          simpa only [memberLines, Callable.lines, hkind] using honeLine.initializerLines
      | false =>
          have hsolid := (h.isRecordable hpair hinitializer).solid
          have hidentifier : OneLine identifier := fun hmem => absurd (hsolid _ hmem) (by decide)
          exact honeLine.lines hidentifier hknown

theorem oneLine_classLines (h : IsPlainClass members) (hknown : ∀ entry ∈ known, OneLine entry.2)
    (hname : OneLine entity.name) (haccess : OneLine entity.accessLevel) (isFinal : Bool) :
    ∀ line ∈ classLines known entity members isFinal, OneLine line := by
  have hfinal : OneLine (if isFinal then "final" else "") := by split <;> decide
  have hhead : ∀ line ∈ headLines entity members isFinal, OneLine line := by
    refine forall_mem_headLines ?_ (by decide) ?_ <;>
      simp only [Entity.mockName, oneLine_append, oneLine_tab, oneLine_keyword, hname, haccess,
        hfinal] <;> decide
  simp only [classLines, List.forall_mem_append, List.mem_flatMap, forall_exists_index, and_imp]
  exact ⟨⟨hhead, fun line pair hpair hline => h.oneLine_memberLines hknown hpair line hline⟩,
    by decide⟩

end IsPlainClass

/-- **Each call is counted once.** In the class of fresh members with plain names and with fragments
of one line each, the text of a recording method is a run of lines. After the line that declares the
method comes the one that adds to its counter, and directly after it the one that looks for its
handler. No other line of the whole class, up to blanks around it, adds to this counter. -/
theorem counted_once (h : IsPlainClass members) (hknown : ∀ entry ∈ known, OneLine entry.2)
    (hname : OneLine entity.name) (haccess : OneLine entity.accessLevel)
    (hpair : (.callable method, identifier) ∈ members.zip (Identifier.resolve members))
    (hinitializer : method.isInitializer = false) (disk : Disk) (isFinal : Bool)
    (cache : SourceCache) : ∃ text before own after,
      (classText disk known entity members isFinal cache).1 = .ok text ∧
      text.toList.splitOn '\n' = before ++ own ++ after ∧
      own = (method.mockText identifier known).toList.splitOn '\n' ∧
      (∃ intro between counting asking rest,
        own = intro ++ method.openingLine.toList :: (between ++ counting :: asking :: rest) ∧
        trim counting = (Callable.counterName identifier ++ " += 1").toList ∧
        trim asking = ("if let " ++ Callable.slotName identifier ++ " = " ++
          Callable.slotName identifier ++ " \x7b").toList) ∧
      (text.toList.splitOn '\n').countP
        (fun line => trim line == (Callable.counterName identifier ++ " += 1").toList) = 1 := by
  have hmember := (List.of_mem_zip hpair).1
  have hkind : method.kind ≠ .initializer := by simpa [Method.isInitializer] using hinitializer
  have hlines := memberLines_of_not_isInitializer hinitializer known identifier
  have hclass := splitOn_joinLines (by simp [classLines])
    (h.oneLine_classLines hknown hname haccess isFinal)
  have hown : (method.mockText identifier known).toList.splitOn '\n' =
      (method.mockLines identifier known).map String.toList := by
    have hsplit := splitOn_joinLines (memberLines_ne_nil known _)
      (h.oneLine_memberLines hknown hpair)
    have htext : method.mockText identifier known = joinLines (method.mockLines identifier known) :=
      congrArg joinLines hlines
    rwa [hlines, ← htext] at hsplit
  -- the lines of the method stand between those of the members before and after it
  obtain ⟨earlier, later, hzip⟩ := List.append_of_mem hpair
  refine ⟨_, (headLines entity members isFinal ++ earlier.flatMap (memberLines known)).map
      String.toList, (method.mockLines identifier known).map String.toList,
    (later.flatMap (memberLines known) ++ ["\x7d"]).map String.toList,
    congrArg Prod.fst (classText_of_fresh disk entity isFinal cache h.fresh), ?_, hown.symm,
    ?_, ?_⟩
  · rw [hclass, classLines, hzip]
    simp [hlines]
  · have hhandler := (h.built _ hmember).handler
    rw [if_neg hkind] at hhandler
    exact Callable.exists_trimmed_lines hhandler (h.isRecordable hpair hinitializer) known
  · rw [hclass, List.countP_map]
    exact h.countAdds_classLines hpair hinitializer

/-- A static property without a default of its type, whose setter counts in a line of its own. -/
def sharedProperty : Property :=
  { name := "load"
    type := .ofText "Loader"
    origin := { path := ⟨"Api.swift"⟩, offset := 0, length := 0, processed := false }
    accessLevel := ""
    isStatic := true
    settable := true }

def countedMembers : List Member :=
  .stored sharedProperty :: overloadedMembers

theorem isPlainClass_countedMembers : IsPlainClass countedMembers where
  fresh := by decide
  spelled := by
    intro member hmember
    simp only [countedMembers, overloadedMembers, List.mem_cons, List.not_mem_nil,
      or_false] at hmember
    rcases hmember with rfl | rfl | rfl
    · exact ⟨by decide, by decide, by decide⟩
    · exact ⟨by decide, by simp, by simp, by decide, by simp, by decide⟩
    · exact ⟨by decide, by simp, by simp, by decide, by simp, by decide⟩
  built := by
    intro method hmethod
    simp only [countedMembers, overloadedMembers, List.mem_cons, List.not_mem_nil, or_false,
      reduceCtorEq, false_or] at hmethod
    rcases hmethod with heq | heq
    · exact isBuilt_of_plainCallable (by decide) heq.symm
    · exact isBuilt_of_plainCallable (by decide) heq.symm

theorem counted_once_of_countedMembers :
    IsPlainClass countedMembers ∧
    ∃ method text, (.callable method, "loadInt1") ∈
        countedMembers.zip (Identifier.resolve countedMembers) ∧
      method.isInitializer = false ∧
      (classText (fun _ => .error .notFound) [] (Catalog.plainProtocol "Api" [] countedMembers)
        countedMembers false .empty).1 = .ok text ∧
      (text.toList.splitOn '\n').countP
        (fun line => trim line == "loadInt1CallCount += 1".toList) = 1 := by
  obtain ⟨method, hmethod⟩ : ∃ method, plainCallable "load" "load(_:)" .function =
    .callable method := ⟨_, rfl⟩
  have hpair : (plainCallable "load" "load(_:)" .function, "loadInt1") ∈
      countedMembers.zip (Identifier.resolve countedMembers) := by decide
  rw [hmethod] at hpair
  obtain rfl := Member.callable.inj hmethod
  have hknown : ∀ entry ∈ ([] : KnownLiterals), OneLine entry.2 := by simp
  have hname : OneLine (Catalog.plainProtocol "Api" [] countedMembers).name := by decide
  obtain ⟨text, _, _, _, htext, _, _, _, hcount⟩ :=
    counted_once isPlainClass_countedMembers hknown hname (by decide) hpair rfl
      (fun _ => .error .notFound) false .empty
  exact ⟨isPlainClass_countedMembers, _, text, hpair, rfl, htext, hcount⟩

end Mock

end Understudy
