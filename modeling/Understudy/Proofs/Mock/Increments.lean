import Understudy.Proofs.Member.SignatureKey
import Understudy.Proofs.Mock.ClassLines
import Understudy.Proofs.Text.Capital
import Understudy.Proofs.Text.Words

/-!
# Lines that add to a counter

A recording member adds to its counter in one line, directly before it looks for its handler, and a
static property with a backing slot adds to the counter of its setter. All other lines of members
end or begin in another way, or hold no plus sign.
-/

namespace Understudy

open Text Layout

namespace Mock

/-- A line, without the blanks around it, adds one to the variable of a name. -/
def adds (name : String) (line : List Char) : Bool :=
  trim line == (name ++ " += 1").toList

/-- What an identifier of a recorded member looks like: it begins as names do and is not broken by
spaces or line feeds. -/
structure IsRecordable (identifier : String) : Prop where
  head : ∃ c rest, identifier.toList = c :: rest ∧ isIdentifierChar c = true
  solid : ∀ c ∈ identifier.toList, isSolid c = true

/-- A line that adds to no counter of a recorded member. -/
def IsSilent (line : String) : Prop :=
  ∀ identifier, IsRecordable identifier →
    adds (Callable.counterName identifier) line.toList = false

variable {line : String} {identifier name : String} {level : Nat}

theorem adds_eq_true_iff {text : List Char} :
    adds name text = true ↔ trim text = (name ++ " += 1").toList :=
  beq_iff_eq

/-- A text ends in a character that is neither blank nor the numeral that is added. -/
def endsAside (text : String) : Bool :=
  text.toList.getLast?.any fun c => !isBlank c && c != '1'

theorem endsAside_append (text : String) {ending : String} (h : endsAside ending = true) :
    endsAside (text ++ ending) = true := by
  rw [endsAside, Option.any_eq_true] at h ⊢
  obtain ⟨c, hlast, hc⟩ := h
  refine ⟨c, ?_, hc⟩
  rw [String.toList_append, List.getLast?_append, hlast, Option.some_or]

theorem isSilent_of_endsAside (h : endsAside line = true) : IsSilent line := by
  intro identifier _
  rw [← Bool.not_eq_true, adds_eq_true_iff]
  intro heq
  obtain ⟨c, hlast, hc⟩ := (Option.any_eq_true _ _).mp h
  obtain ⟨front, hfront⟩ := List.getLast?_eq_some_iff.mp hlast
  obtain ⟨hblank, hone⟩ := Bool.and_eq_true_iff.mp hc
  obtain ⟨kept, hkept⟩ := exists_trim_append_eq (by simpa using hblank) front
  have hends := congrArg List.getLast? ((hfront ▸ hkept).symm.trans heq)
  simp only [String.toList_append, List.getLast?_append, List.getLast?_singleton] at hends
  simp at hends
  simp [hends] at hone

theorem isSilent_of_not_mem (h : '+' ∉ line.toList) : IsSilent line := by
  intro identifier _
  rw [← Bool.not_eq_true, adds_eq_true_iff]
  intro heq
  have hplus : '+' ∈ trim line.toList := by simp [heq]
  exact h (trim_subset _ hplus)

theorem trim_tab (level : Nat) (text : List Char) :
    trim ((tab level).toList ++ text) = trim text := by
  refine trim_append_of_forall_isBlank (fun c hc => ?_) text
  rw [tab, String.toList_ofList] at hc
  rw [List.eq_of_mem_replicate hc]
  decide

/-- What an attribute begins with begins no name. -/
theorem isSilent_of_head? {text : String} (h : text.toList.head? = some '@') :
    IsSilent (tab level ++ text) := by
  intro identifier hidentifier
  rw [← Bool.not_eq_true, adds_eq_true_iff, String.toList_append, trim_tab]
  intro heq
  obtain ⟨rest, hrest⟩ := List.head?_eq_some_iff.mp h
  obtain ⟨c, more, hmore, hc⟩ := hidentifier.head
  have hprefix := trim_prefix_of_isBlank_eq_false (c := '@') (by decide) rest
  rw [← hrest, heq, Callable.counterName, String.toList_append, String.toList_append, hmore, hrest]
    at hprefix
  obtain rfl := (List.cons_prefix_cons.mp hprefix).1
  exact absurd hc (by decide)

theorem isSilent_return (level : Nat) (text : String) :
    IsSilent (tab level ++ ("return " ++ text)) := by
  intro identifier hidentifier
  rw [← Bool.not_eq_true, adds_eq_true_iff, String.toList_append, trim_tab]
  intro heq
  have hprefix : trim ("return " ++ text).toList <+: ("return " ++ text).toList := by
    rw [String.toList_append]
    exact trim_prefix_of_isBlank_eq_false (by decide) _
  rw [heq] at hprefix
  obtain ⟨rest, hrest⟩ := hprefix
  have hspace : ' ' ∉ (Callable.counterName identifier).toList := by
    rw [Callable.counterName, String.toList_append, List.mem_append, not_or]
    exact ⟨fun hmem => absurd (hidentifier.solid ' ' hmem) (by decide), by decide⟩
  -- both sides are cut at their first space
  have hcut : (Callable.counterName identifier).toList ++ ' ' :: ("+= 1".toList ++ rest) =
      "return".toList ++ ' ' :: text.toList := by
    simpa [String.toList_append] using hrest
  obtain ⟨hword, _⟩ := eq_of_append_cons hspace (by decide) hcut
  have hlast := congrArg List.getLast? hword
  simp [Callable.counterName, String.toList_append] at hlast

/-- A text begins with a character that is not blank. -/
def BeginsFilled (text : String) : Prop :=
  ∃ c rest, text.toList = c :: rest ∧ isBlank c = false

theorem BeginsFilled.append (h : BeginsFilled name) (ending : String) :
    BeginsFilled (name ++ ending) := by
  obtain ⟨c, rest, hletters, hc⟩ := h
  exact ⟨c, rest ++ ending.toList, by rw [String.toList_append, hletters, List.cons_append], hc⟩

theorem beginsFilled_of_isIdentifier (h : isIdentifier name.toList = true) : BeginsFilled name := by
  obtain ⟨c, rest, hletters, hc⟩ := exists_cons_of_isIdentifier h
  exact ⟨c, rest, hletters, isBlank_eq_false_of_isIdentifierChar hc⟩

theorem IsRecordable.beginsFilled (h : IsRecordable identifier) : BeginsFilled identifier := by
  obtain ⟨c, rest, hletters, hc⟩ := h.head
  exact ⟨c, rest, hletters, isBlank_eq_false_of_isIdentifierChar hc⟩

/-- The level is trimmed away from a line that is filled at both ends. -/
theorem trim_tab_append {front : String} (last : Char) (hfront : BeginsFilled front)
    (hlast : isBlank last = false) {text : String} (htext : ∃ kept, text.toList = kept ++ [last]) :
    trim (tab level ++ (front ++ text)).toList = (front ++ text).toList := by
  obtain ⟨c, rest, hletters, hc⟩ := hfront
  obtain ⟨kept, hkept⟩ := htext
  rw [String.toList_append, trim_tab, String.toList_append, hletters, hkept]
  simpa using trim_eq_self hc hlast (rest ++ kept)

theorem trim_increment (hname : BeginsFilled name) :
    trim (tab level ++ name ++ " += 1").toList = (name ++ " += 1").toList := by
  rw [String.append_assoc]
  exact trim_tab_append '1' hname (by decide) ⟨" += ".toList, rfl⟩

theorem adds_increment_iff (hname : BeginsFilled name) (other : String) (level : Nat) :
    adds other (tab level ++ name ++ " += 1").toList = true ↔ name = other := by
  rw [adds_eq_true_iff, trim_increment hname, String.toList_inj, String.append_left_inj]

/-! ### Counting in the lines of a member -/

/-- How many lines add to a counter. -/
def countAdds (name : String) (lines : List String) : Nat :=
  lines.countP fun line => adds name line.toList

@[simp]
theorem countAdds_append (name : String) (left right : List String) :
    countAdds name (left ++ right) = countAdds name left + countAdds name right :=
  List.countP_append

theorem countAdds_of_isSilent {lines : List String} (h : ∀ line ∈ lines, IsSilent line)
    (hidentifier : IsRecordable identifier) :
    countAdds (Callable.counterName identifier) lines = 0 := by
  refine List.countP_eq_zero.mpr fun line hline => ?_
  simp [h line hline identifier hidentifier]

theorem countAdds_of_endsAside {lines : List String} (h : ∀ line ∈ lines, endsAside line = true)
    (hidentifier : IsRecordable identifier) :
    countAdds (Callable.counterName identifier) lines = 0 :=
  countAdds_of_isSilent (fun line hline => isSilent_of_endsAside (h line hline)) hidentifier

theorem countAdds_singleton_of_endsAside (h : endsAside line = true)
    (hidentifier : IsRecordable identifier) :
    countAdds (Callable.counterName identifier) [line] = 0 :=
  countAdds_of_endsAside (List.forall_mem_singleton.mpr h) hidentifier

end Mock

namespace Handler

open Mock

variable {handler : Handler} {slot line : String} {level : Nat} {known : KnownLiterals}

theorem isSilent_call (handler : Handler) (slot : String) (level : Nat) :
    IsSilent (tab level ++ handler.call slot) := by
  by_cases hreturns : handler.returns = true
  · have hcall : ∃ rest, handler.call slot = "return " ++ rest := by
      simp only [call, hreturns, if_true, String.append_assoc]
      exact ⟨_, rfl⟩
    obtain ⟨rest, hrest⟩ := hcall
    rw [hrest]
    exact isSilent_return level rest
  · refine isSilent_of_endsAside (endsAside_append _ ?_)
    rw [Bool.not_eq_true] at hreturns
    simp only [call, hreturns, Bool.false_and, Bool.false_eq_true, if_false, String.append_empty]
    exact endsAside_append _ (by decide)

theorem isSilent_of_mem_fallback (hline : line ∈ handler.fallback slot known level) :
    IsSilent line := by
  unfold fallback at hline
  split at hline
  · simp at hline
  · obtain rfl := List.mem_singleton.mp hline
    rw [String.append_assoc]
    exact isSilent_return _ _
  · obtain rfl := List.mem_singleton.mp hline
    exact isSilent_of_endsAside (endsAside_append _ (by decide))

theorem isSilent_of_mem_invocation (handler : Handler) (slot : String) (known : KnownLiterals)
    (level : Nat) : ∀ line ∈ handler.invocation slot known level, IsSilent line := by
  intro line hline
  simp only [invocation, List.mem_append, List.mem_cons, List.not_mem_nil, or_false] at hline
  rcases hline with (rfl | rfl | rfl) | hline
  · exact isSilent_of_endsAside (endsAside_append _ (by decide))
  · exact isSilent_call handler slot _
  · exact isSilent_of_endsAside (endsAside_append _ (by decide))
  · exact isSilent_of_mem_fallback hline

end Handler

namespace Callable

open Mock

variable {member : Callable} {name other line : String} {level : Nat} {known : KnownLiterals}

theorem isSilent_of_mem_initializerLines
    (hparams : ∀ param ∈ member.params, isIdentifier param.name.toList = true) :
    ∀ line ∈ member.initializerLines, IsSilent line := by
  intro line hline
  simp only [initializerLines, List.mem_append, List.mem_map, List.mem_cons, List.not_mem_nil,
    or_false] at hline
  rcases hline with (rfl | ⟨param, hparam, rfl⟩) | rfl | rfl
  · exact isSilent_of_endsAside (endsAside_append _ (by decide))
  · -- names hold no plus sign
    have hname : '+' ∉ param.name.toList := fun hmem => by
      have hplain := isPlain_iff.mp (isPlain_of_isIdentifier (hparams param hparam)) _ hmem
      exact absurd hplain (by decide)
    refine isSilent_of_not_mem ?_
    simp [tab, hname]
  · exact isSilent_of_endsAside (endsAside_append _ (by decide))
  · exact isSilent_of_endsAside (endsAside_append _ (by decide))

theorem exists_recordingLines_eq (member : Callable) (name : String) (known : KnownLiterals)
    (level : Nat) : ∃ later, member.recordingLines name known level =
      (tab level ++ counterName name ++ " += 1") :: later ∧ ∀ line ∈ later, IsSilent line := by
  cases hhandler : member.handler with
  | none => exact ⟨[], by simp [recordingLines, hhandler], by simp⟩
  | some handler =>
      exact ⟨handler.invocation (slotName name) known level, by simp [recordingLines, hhandler],
        handler.isSilent_of_mem_invocation _ _ _⟩

theorem countAdds_recordingLines (hname : IsRecordable name) (hother : IsRecordable other)
    (member : Callable) (known : KnownLiterals) (level : Nat) :
    countAdds (counterName other) (member.recordingLines name known level) =
      [counterName name].count (counterName other) := by
  obtain ⟨later, hlines, hlater⟩ := exists_recordingLines_eq member name known level
  have hcounter : BeginsFilled (counterName name) := hname.beginsFilled.append _
  have hadds := adds_increment_iff hcounter (counterName other) level
  have hnone := countAdds_of_isSilent hlater hother
  rw [countAdds] at hnone ⊢
  rw [hlines, List.countP_cons, hnone, Nat.zero_add, List.count_singleton]
  simp only [hadds, beq_iff_eq]

theorem countAdds_bodyLines (hname : IsRecordable name) (hother : IsRecordable other) :
    countAdds (counterName other) (member.bodyLines name known) =
      [counterName name].count (counterName other) := by
  have hrecording := countAdds_recordingLines hname hother member known
  have hget :
      countAdds (counterName other) [tab 2 ++ "get" ++ spaced member.effects ++ " \x7b"] = 0 :=
    countAdds_singleton_of_endsAside (endsAside_append _ (by decide)) hother
  have hclose : countAdds (counterName other) [tab 2 ++ "\x7d"] = 0 :=
    countAdds_singleton_of_endsAside (endsAside_append _ (by decide)) hother
  have hset : countAdds (counterName other) [tab 2 ++ "set \x7b \x7d"] = 0 :=
    countAdds_singleton_of_endsAside (endsAside_append _ (by decide)) hother
  unfold bodyLines
  split <;> simp only [countAdds_append, hrecording, hget, hclose, hset, Nat.zero_add, Nat.add_zero]

theorem isSilent_of_mem_recorderLines (member : Callable) (name : String) :
    ∀ line ∈ member.recorderLines name, IsSilent line := by
  intro line hline
  have hslotType : endsAside member.slotType = true := by
    unfold slotType
    split
    · exact endsAside_append _ (by decide)
    · decide
  simp only [recorderLines, List.mem_cons, List.not_mem_nil, or_false] at hline
  rcases hline with rfl | rfl
  · exact isSilent_of_endsAside (endsAside_append _ (by decide))
  · exact isSilent_of_endsAside (endsAside_append _ hslotType)

theorem countAdds_mockLines (hattributes : ∀ text ∈ member.attributes, text.toList.head? = some '@')
    (hname : IsRecordable name) (hother : IsRecordable other) :
    countAdds (counterName other) (member.mockLines name known) =
      [counterName name].count (counterName other) := by
  have hrecorders : countAdds (counterName other) (member.recorderLines name) = 0 :=
    countAdds_of_isSilent (isSilent_of_mem_recorderLines member name) hother
  have hmarks : countAdds (counterName other) (member.attributes.map (tab 1 ++ ·)) = 0 :=
    countAdds_of_isSilent (List.forall_mem_map.mpr fun text htext =>
      isSilent_of_head? (hattributes text htext)) hother
  have hopening : countAdds (counterName other) [member.openingLine] = 0 :=
    countAdds_singleton_of_endsAside (endsAside_append _ (by decide)) hother
  have hclose : countAdds (counterName other) [tab 1 ++ "\x7d"] = 0 :=
    countAdds_singleton_of_endsAside (endsAside_append _ (by decide)) hother
  simp only [mockLines, countAdds_append, hrecorders, hmarks, hopening, hclose,
    countAdds_bodyLines hname hother, Nat.zero_add, Nat.add_zero]

/-- A member is declared, counts the call, and then looks for its handler. -/
theorem exists_mockLines_eq {handler : Handler} (hhandler : member.handler = some handler)
    (name : String) (known : KnownLiterals) : ∃ before between level rest,
    member.mockLines name known = before ++ member.openingLine ::
      (between ++ (tab level ++ counterName name ++ " += 1") ::
        (tab level ++ "if let " ++ slotName name ++ " = " ++ slotName name ++ " \x7b") ::
          rest) := by
  have hrecording : ∀ level, ∃ rest, member.recordingLines name known level =
      (tab level ++ counterName name ++ " += 1") ::
        (tab level ++ "if let " ++ slotName name ++ " = " ++ slotName name ++ " \x7b") :: rest :=
    fun level => ⟨_, by simp only [recordingLines, hhandler, Handler.invocation]; rfl⟩
  obtain ⟨rest, hrest⟩ := hrecording 2
  obtain ⟨inner, hinner⟩ := hrecording 3
  let before := member.recorderLines name ++ member.attributes.map (tab 1 ++ ·)
  let getter := [tab 2 ++ "get" ++ spaced member.effects ++ " \x7b"]
  cases hkind : member.kind with
  | subscript =>
      exact ⟨before, getter, 3,
        inner ++ [tab 2 ++ "\x7d", tab 2 ++ "set \x7b \x7d", tab 1 ++ "\x7d"],
        by simp [mockLines, bodyLines, hkind, hinner, before, getter]⟩
  | computedProperty =>
      exact ⟨before, getter, 3, inner ++ [tab 2 ++ "\x7d", tab 1 ++ "\x7d"],
        by simp [mockLines, bodyLines, hkind, hinner, before, getter]⟩
  | _ =>
      exact ⟨before, [], 2, rest ++ [tab 1 ++ "\x7d"],
        by simp [mockLines, bodyLines, hkind, hrest, before]⟩

/-- The same without the blanks around the lines. -/
theorem exists_trimmed_lines {handler : Handler} (hhandler : member.handler = some handler)
    (hname : IsRecordable name) (known : KnownLiterals) : ∃ before between counting asking rest,
    (member.mockLines name known).map String.toList =
      before ++ member.openingLine.toList :: (between ++ counting :: asking :: rest) ∧
    trim counting = (counterName name ++ " += 1").toList ∧
    trim asking = ("if let " ++ slotName name ++ " = " ++ slotName name ++ " \x7b").toList := by
  obtain ⟨before, between, level, rest, hlines⟩ := exists_mockLines_eq hhandler name known
  have hcounter : BeginsFilled (counterName name) := hname.beginsFilled.append _
  have hasking : BeginsFilled "if let " := ⟨'i', "f let ".toList, rfl, by decide⟩
  refine ⟨before.map String.toList, between.map String.toList,
    (tab level ++ counterName name ++ " += 1").toList,
    (tab level ++ "if let " ++ slotName name ++ " = " ++ slotName name ++ " \x7b").toList,
    rest.map String.toList, ?_, trim_increment hcounter, ?_⟩
  · rw [hlines]
    simp only [List.map_append, List.map_cons]
  · simp only [String.append_assoc]
    refine trim_tab_append '\x7b' hasking (by decide) ?_
    exact ⟨(slotName name ++ " = " ++ slotName name ++ " ").toList,
      by simp [String.toList_append]⟩

end Callable

namespace Property

open Mock

variable {property : Property} {other : String} {known : KnownLiterals}

/-- Only a static property counts in a line of its own how often it was set. -/
def addsInLine (property : Property) (known : KnownLiterals) : Bool :=
  property.isStatic && property.isBacked known

theorem countAdds_increment (hname : isIdentifier property.name.toList = true)
    (hother : IsRecordable other) :
    countAdds (Callable.counterName other)
        [tab 3 ++ increment property.name property.isStatic] =
      (if property.isStatic then [counterName property.name] else []).count
        (Callable.counterName other) := by
  cases hstatic : property.isStatic with
  | false =>
      refine countAdds_singleton_of_endsAside (endsAside_append _ ?_) hother
      simp only [increment, Bool.false_eq_true, if_false]
      exact endsAside_append _ (by decide)
  | true =>
      have hcounter : BeginsFilled (counterName property.name) :=
        (beginsFilled_of_isIdentifier hname).append _
      have hadds := adds_increment_iff hcounter (Callable.counterName other) 3
      simp only [countAdds, increment, if_true, List.countP_singleton, List.count_singleton,
        ← String.append_assoc, hadds, beq_iff_eq]

theorem exists_backedLines_eq (property : Property) : ∃ before after,
    backedLines property.name property.type property.isStatic property.modifiers =
      before ++ [tab 3 ++ increment property.name property.isStatic] ++ after ∧
    (∀ line ∈ before, endsAside line = true) ∧ ∀ line ∈ after, endsAside line = true := by
  have hbacking : endsAside (backingType property.type) = true := by
    unfold backingType
    split <;> exact endsAside_append _ (by decide)
  refine ⟨[_, _, _, _, _], [_, _], rfl, ?_, ?_⟩
  · simp only [List.forall_mem_cons]
    exact ⟨endsAside_append _ hbacking, endsAside_append _ (by decide),
      endsAside_append _ (by decide), endsAside_append _ (by decide),
      endsAside_append _ (by decide), by simp⟩
  · simp only [List.forall_mem_cons]
    exact ⟨endsAside_append _ (by decide), endsAside_append _ (by decide), by simp⟩

theorem countAdds_lines (hname : isIdentifier property.name.toList = true)
    (hother : IsRecordable other) :
    countAdds (Callable.counterName other) (property.lines known) =
      (if property.addsInLine known then [counterName property.name] else []).count
        (Callable.counterName other) := by
  have hcounter : countAdds (Callable.counterName other) [property.counterLine] = 0 :=
    countAdds_singleton_of_endsAside (endsAside_append _ (by decide)) hother
  cases hbacked : property.isBacked known with
  | true =>
      obtain ⟨before, after, hlines, hbefore, hafter⟩ := exists_backedLines_eq property
      have hstart := countAdds_of_endsAside hbefore hother
      have hend := countAdds_of_endsAside hafter hother
      rw [lines_of_isBacked _ _ hbacked, ← List.singleton_append, hlines]
      simp only [countAdds_append, hcounter, hstart, hend, countAdds_increment hname hother,
        addsInLine, hbacked, Bool.and_true, Nat.zero_add, Nat.add_zero]
  | false =>
      obtain ⟨literal, hlines⟩ := lines_of_not_isBacked _ _ hbacked
      have hinitialized : countAdds (Callable.counterName other) [initializedLine property.name
          property.type property.isStatic property.modifiers literal] = 0 :=
        countAdds_singleton_of_endsAside (endsAside_append _ (by decide)) hother
      rw [hlines, ← List.singleton_append, countAdds_append, hcounter, hinitialized]
      simp [addsInLine, hbacked]

end Property

end Understudy
