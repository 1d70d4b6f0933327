import Mathlib.Data.List.Infix
import Understudy.Proofs.Text.Capital
import Understudy.Proofs.Text.Pieces
import Understudy.Proofs.Text.Runs
import Understudy.SyntaxTree.Header

/-!
# The types in a header

The header of a type lists the types that it inherits from behind its generic clause and in front of
its where clause, and the header of a callable ends with its return type and a where clause. The
types are read as they are written exactly if the angle brackets of the generic clause close, where
the angle of an arrow counts as one, and the word of the where clause has a space next to it on both
sides (`reads_types_iff`). A line break there is enough for the clause to be taken for a part of the
last type.
-/

namespace Understudy.Header

open Text

open scoped List

/-- A type as it is written: as many brackets are closed in it as are opened, no comma stands
outside of brackets, and no where clause begins in it. -/
structure IsTypeText (text : List Char) : Prop where
  ne_nil : text ≠ []
  trimmed : trim text = text
  closed : (withoutArrows text).countP isOpening = (withoutArrows text).countP isClosing
  comma_inside : ∀ before, before ++ [','] <+: withoutArrows text →
    before.countP isOpening ≠ before.countP isClosing
  no_where : "where".toList ∉ words text

instance : DecidablePred IsTypeText := fun text =>
  decidable_of_iff
    (text ≠ [] ∧ trim text = text ∧
      (withoutArrows text).countP isOpening = (withoutArrows text).countP isClosing ∧
      (∀ before ∈ (withoutArrows text).inits, before ++ [','] <+: withoutArrows text →
        before.countP isOpening ≠ before.countP isClosing) ∧
      "where".toList ∉ words text)
    ⟨fun ⟨hne, htrimmed, hclosed, hcomma, hwhere⟩ =>
        ⟨hne, htrimmed, hclosed, fun before hbefore => hcomma before
          ((List.mem_inits before _).mpr ((List.prefix_append ..).trans hbefore)) hbefore, hwhere⟩,
      fun h => ⟨h.ne_nil, h.trimmed, h.closed, fun before _ => h.comma_inside before, h.no_where⟩⟩

/-- A type with the blanks around it. -/
structure Entry where
  before : List Char
  type : String
  after : List Char

structure WhereClause where
  /-- What stands between a type and the word. -/
  gap : List Char
  conditions : List Char

/-- The header of a type, from its name to its body. -/
structure TypeHeader where
  lead : List Char
  /-- What stands between the outer angle brackets of the generic clause. -/
  generics : Option (List Char)
  between : List Char
  entries : List Entry
  whereClause : Option WhereClause

def Entry.text (entry : Entry) : List Char :=
  entry.before ++ entry.type.toList ++ entry.after

def WhereClause.text (clause : WhereClause) : List Char :=
  clause.gap ++ "where".toList ++ clause.conditions

def entriesText (entries : List Entry) : List Char :=
  [','].intercalate (entries.map Entry.text)

def genericsText (generics : Option (List Char)) : List Char :=
  generics.elim [] fun inner => '<' :: inner ++ ['>']

def whereText (clause : Option WhereClause) : List Char :=
  clause.elim [] WhereClause.text

def TypeHeader.text (header : TypeHeader) : List Char :=
  header.lead ++ genericsText header.generics ++ header.between ++
    ':' :: (entriesText header.entries ++ whereText header.whereClause)

structure Entry.IsWritten (entry : Entry) : Prop where
  type : IsTypeText entry.type.toList
  before_blank : entry.before.all isBlank = true
  after_blank : entry.after.all isBlank = true

instance : DecidablePred Entry.IsWritten := fun entry =>
  decidable_of_iff
    (IsTypeText entry.type.toList ∧ entry.before.all isBlank = true ∧
      entry.after.all isBlank = true)
    ⟨fun ⟨htype, hbefore, hafter⟩ => ⟨htype, hbefore, hafter⟩,
      fun h => ⟨h.type, h.before_blank, h.after_blank⟩⟩

structure WhereClause.IsWritten (clause : WhereClause) : Prop where
  gap_ne_nil : clause.gap ≠ []
  gap_blank : clause.gap.all isBlank = true

instance : DecidablePred WhereClause.IsWritten := fun clause =>
  decidable_of_iff (clause.gap ≠ [] ∧ clause.gap.all isBlank = true)
    ⟨fun ⟨hne, hblank⟩ => ⟨hne, hblank⟩, fun h => ⟨h.gap_ne_nil, h.gap_blank⟩⟩

/-- Opening angle brackets less closing ones. -/
def angleDepth (text : List Char) : Int :=
  text.count '<' - text.count '>'

/-- Each angle bracket is closed, and each closing one was opened. -/
structure AnglesClose (text : List Char) : Prop where
  closed : angleDepth text = 0
  opened : ∀ front, front <+: text → 0 ≤ angleDepth front

instance : DecidablePred AnglesClose := fun text =>
  decidable_of_iff (angleDepth text = 0 ∧ ∀ front ∈ text.inits, 0 ≤ angleDepth front)
    ⟨fun ⟨hclosed, hopened⟩ => ⟨hclosed, fun front hfront =>
        hopened front ((List.mem_inits front text).mpr hfront)⟩,
      fun h => ⟨h.closed, fun front hfront =>
        h.opened front ((List.mem_inits front text).mp hfront)⟩⟩

/-- Each angle bracket is closed, be it that the angles of arrows are counted or not. -/
def IsGenericClause (inner : List Char) : Prop :=
  AnglesClose inner ∨ (AnglesClose (withoutArrows inner) ∧ "where".toList ∉ words inner)

instance : DecidablePred IsGenericClause := fun inner =>
  inferInstanceAs (Decidable (AnglesClose inner ∨
    (AnglesClose (withoutArrows inner) ∧ "where".toList ∉ words inner)))

structure TypeHeader.IsWritten (header : TypeHeader) : Prop where
  lead_blank : header.lead.all isBlank = true
  generics : ∀ inner ∈ header.generics, IsGenericClause inner
  between_blank : header.between.all isBlank = true
  entries_ne_nil : header.entries ≠ []
  entries : ∀ entry ∈ header.entries, entry.IsWritten
  whereClause : ∀ clause ∈ header.whereClause, clause.IsWritten

instance : DecidablePred TypeHeader.IsWritten := fun header =>
  decidable_of_iff
    (header.lead.all isBlank = true ∧ (∀ inner ∈ header.generics, IsGenericClause inner) ∧
      header.between.all isBlank = true ∧ header.entries ≠ [] ∧
      (∀ entry ∈ header.entries, entry.IsWritten) ∧
      ∀ clause ∈ header.whereClause, clause.IsWritten)
    ⟨fun ⟨hlead, hgenerics, hbetween, hne, hentries, hclause⟩ =>
        ⟨hlead, hgenerics, hbetween, hne, hentries, hclause⟩,
      fun h => ⟨h.lead_blank, h.generics, h.between_blank, h.entries_ne_nil, h.entries,
        h.whereClause⟩⟩

/-- A space stands next to the word of the clause on both sides. -/
def WhereClause.IsSpaced (clause : WhereClause) : Prop :=
  clause.gap.getLast? = some ' ' ∧ clause.conditions.head? = some ' '

variable {blanks text : List Char} {entry : Entry} {entries : List Entry}

def names (list : List Char) : List (List Char) :=
  ((splitTopLevel ',' list).map trim).filter fun name => !name.isEmpty

theorem IsTypeText.isFlat (h : IsTypeText text) : IsFlat ',' text where
  netDepth_eq := netDepth_eq_zero_iff.mpr h.closed
  splitTopLevel_eq := by
    refine splitTopLevelFrom_eq_singleton (by decide) (by simp) fun before after hafter => ?_
    have hinside := h.comma_inside before ⟨after, by simp [hafter]⟩
    omega

namespace Entry.IsWritten

theorem forall_before (h : entry.IsWritten) : ∀ c ∈ entry.before, isBlank c = true :=
  List.all_eq_true.mp h.before_blank

theorem forall_after_append (h : entry.IsWritten) (hblanks : ∀ c ∈ blanks, isBlank c = true) :
    ∀ c ∈ entry.after ++ blanks, isBlank c = true := by
  simpa [or_imp, forall_and] using ⟨List.all_eq_true.mp h.after_blank, hblanks⟩

theorem isFlat_append (h : entry.IsWritten) (hblanks : ∀ c ∈ blanks, isBlank c = true) :
    IsFlat ',' (entry.text ++ blanks) := by
  rw [Entry.text, List.append_assoc]
  exact h.type.isFlat.between_blanks (by decide) h.forall_before (h.forall_after_append hblanks)

theorem trim_append (h : entry.IsWritten) (hblanks : ∀ c ∈ blanks, isBlank c = true) :
    trim (entry.text ++ blanks) = entry.type.toList := by
  rw [Entry.text, trim_append_blanks hblanks, List.append_assoc,
    trim_append_of_forall_isBlank h.forall_before,
    trim_append_blanks (List.all_eq_true.mp h.after_blank), h.type.trimmed]

theorem names_append (h : entry.IsWritten) (hblanks : ∀ c ∈ blanks, isBlank c = true) :
    names (entry.text ++ blanks) = [entry.type.toList] := by
  have hkept : (!entry.type.toList.isEmpty) = true := by simpa using h.type.ne_nil
  rw [names, (h.isFlat_append hblanks).splitTopLevel_eq, List.map_singleton, h.trim_append hblanks,
    List.filter_singleton, hkept]
  rfl

end Entry.IsWritten

theorem names_blanks (h : ∀ c ∈ blanks, isBlank c = true) : names blanks = [] := by
  have hnone : trim blanks = [] := by
    rw [← List.nil_append blanks, trim_append_blanks h]
    rfl
  rw [names, (isFlat_of_blanks (by decide) h).splitTopLevel_eq, List.map_singleton, hnone]
  rfl

theorem entriesText_cons_append (next : Entry) (others : List Entry) :
    entriesText (entry :: next :: others) ++ blanks =
      entry.text ++ ',' :: (entriesText (next :: others) ++ blanks) := by
  simp [entriesText, List.intercalate_cons_cons]

theorem names_entriesText_append (h : ∀ entry ∈ entries, entry.IsWritten)
    (hblanks : ∀ c ∈ blanks, isBlank c = true) :
    names (entriesText entries ++ blanks) = entries.map fun entry => entry.type.toList := by
  induction entries with
  | nil => exact names_blanks hblanks
  | cons entry others ih =>
      obtain ⟨hentry, hothers⟩ := List.forall_mem_cons.mp h
      cases others with
      | nil => simpa [entriesText] using hentry.names_append hblanks
      | cons next rest =>
          have hnone : ∀ c ∈ ([] : List Char), isBlank c = true := by simp
          have hflat := hentry.isFlat_append hnone
          have hfirst := hentry.names_append hnone
          rw [List.append_nil] at hflat hfirst
          rw [entriesText_cons_append, names,
            splitTopLevel_append_of_netDepth hflat.netDepth_eq (by decide), List.map_append,
            List.filter_append, ← names, ← names, hfirst, ih hothers]
          rfl

/-- Neither a blank nor a comma. -/
def isNameChar (c : Char) : Bool :=
  !isBlank c && c != ','

theorem isNameChar_of_isBlank {c : Char} (h : isBlank c = true) : isNameChar c = false := by
  simp [isNameChar, h]

theorem filter_isNameChar_trim (text : List Char) :
    (trim text).filter isNameChar = text.filter isNameChar :=
  filter_trim (fun _ => isNameChar_of_isBlank) text

theorem filter_intercalate (pieces : List (List Char)) :
    ([','].intercalate pieces).filter isNameChar = pieces.flatten.filter isNameChar := by
  induction pieces with
  | nil => rfl
  | cons piece others ih =>
      cases others with
      | nil => simp
      | cons next rest =>
          have hcomma : [','].filter isNameChar = [] := by decide
          rw [List.intercalate_cons_cons, List.filter_append, List.filter_append, ih, hcomma]
          simp

/-- Splitting and trimming leave out nothing but blanks and commas. -/
theorem filter_flatten_names (list : List Char) :
    (names list).flatten.filter isNameChar = list.filter isNameChar := by
  have htrim : ((splitTopLevel ',' list).map trim).map (List.filter isNameChar) =
      (splitTopLevel ',' list).map (List.filter isNameChar) := by
    rw [List.map_map]
    exact List.map_congr_left fun piece _ => filter_isNameChar_trim piece
  rw [names, List.flatten_filter_not_isEmpty, List.filter_flatten, htrim, ← List.filter_flatten,
    ← filter_intercalate, splitTopLevel, intercalate_splitTopLevelFrom]

theorem filter_of_names_eq (h : ∀ entry ∈ entries, entry.IsWritten)
    (hnames : names text = entries.map fun entry => entry.type.toList) :
    text.filter isNameChar = (entriesText entries).filter isNameChar := by
  have hself : names (entriesText entries ++ []) = entries.map fun entry => entry.type.toList :=
    names_entriesText_append h (by simp)
  rw [← filter_flatten_names text, hnames, ← hself, filter_flatten_names, List.append_nil]

theorem map_ofList_eq_iff {read : List (List Char)} :
    read.map String.ofList = entries.map Entry.type ↔
      read = entries.map fun entry => entry.type.toList := by
  have htypes : entries.map Entry.type =
      (entries.map fun entry => entry.type.toList).map String.ofList := by
    rw [List.map_map]
    exact List.map_congr_left fun entry _ => String.ofList_toList.symm
  rw [htypes, List.map_inj_right fun _ _ => String.ofList_injective]

/-- If only the characters of a part of the text are kept, the others are blanks and commas. -/
theorem isNameChar_of_filter_eq {front list back : List Char}
    (h : (front ++ list ++ back).filter isNameChar = list.filter isNameChar) :
    ∀ c ∈ front ++ back, isNameChar c = false := by
  have hlength := congrArg List.length h
  simp only [List.filter_append, List.length_append] at hlength
  have hfront : front.filter isNameChar = [] := List.length_eq_zero_iff.mp (by omega)
  have hback : back.filter isNameChar = [] := List.length_eq_zero_iff.mp (by omega)
  have hnone : (front ++ back).filter isNameChar = [] := by
    rw [List.filter_append, hfront, hback, List.append_nil]
  exact fun c hc => Bool.eq_false_iff.mpr (List.filter_eq_nil_iff.mp hnone c hc)

/-! ### The where clause -/

/-- The word of a where clause as it is looked for. -/
def whereMark : List Char :=
  ' ' :: "where".toList ++ [' ']

theorem isUnbroken_where : isUnbroken "where".toList = true := by
  decide

theorem no_where_blanks (h : ∀ c ∈ blanks, isBlank c = true) : ¬whereMark <:+: blanks := by
  intro hmark
  have hword := mem_words_of_spaced isUnbroken_where hmark
  rw [words, fields_eq_nil h] at hword
  exact List.not_mem_nil hword

/-- No where clause begins in the text, nor in the blanks after it. -/
def HasNoWhere (text : List Char) : Prop :=
  ∀ blanks, (∀ c ∈ blanks, isBlank c = true) → ¬whereMark <:+: text ++ blanks

theorem Entry.IsWritten.hasNoWhere (h : entry.IsWritten) : HasNoWhere entry.text := by
  intro blanks hblanks hmark
  have hword := mem_words_of_spaced isUnbroken_where hmark
  rw [Entry.text, List.append_assoc, words,
    fields_enclosed h.forall_before (h.forall_after_append hblanks)] at hword
  exact h.type.no_where hword

theorem hasNoWhere_entriesText (h : ∀ entry ∈ entries, entry.IsWritten) :
    HasNoWhere (entriesText entries) := by
  induction entries with
  | nil => exact fun blanks => no_where_blanks
  | cons entry others ih =>
      obtain ⟨hentry, hothers⟩ := List.forall_mem_cons.mp h
      cases others with
      | nil => simpa [entriesText] using hentry.hasNoWhere
      | cons next rest =>
          intro blanks hblanks hmark
          rw [entriesText_cons_append] at hmark
          rcases infix_of_infix_append_cons (by decide) hmark with hfirst | hlater
          · exact hentry.hasNoWhere [] (by simp) (by rwa [List.append_nil])
          · exact ih hothers blanks hblanks hlater

section BeforeWhere

variable {list : List Char} {clause : WhereClause} {whereClause : Option WhereClause}

/-- A clause whose word has spaces around it is cut off with the last blank before it. -/
theorem beforeWhere_of_isSpaced (hwritten : clause.IsWritten) (hspaced : clause.IsSpaced)
    (hnone : HasNoWhere list) :
    ∃ blanks, (∀ c ∈ blanks, isBlank c = true) ∧
      beforeWhere (list ++ clause.text) = list ++ blanks := by
  obtain ⟨blanks, hgap⟩ := List.getLast?_eq_some_iff.mp hspaced.1
  obtain ⟨conditions, hconditions⟩ := List.head?_eq_some_iff.mp hspaced.2
  have hblank := List.all_eq_true.mp hwritten.gap_blank
  rw [hgap] at hblank
  refine ⟨blanks, fun c hc => hblank c (List.mem_append_left _ hc), ?_⟩
  have htext : list ++ clause.text =
      (list ++ blanks) ++ ' ' :: ("where".toList ++ ' ' :: conditions) := by
    simp [WhereClause.text, hgap, hconditions]
  have hmark : ¬whereMark <:+: (list ++ blanks) ++ [' '] := by
    rw [List.append_assoc]
    exact hnone _ hblank
  rw [htext]
  exact upTo_spaced_word isUnbroken_where (by decide) hmark rfl conditions

/-- Any other clause stays, at least its word. -/
theorem beforeWhere_of_not_isSpaced (hwritten : clause.IsWritten) (hspaced : ¬clause.IsSpaced)
    (hnone : HasNoWhere list) :
    ∃ conditions, beforeWhere (list ++ clause.text) =
      list ++ (clause.gap ++ "where".toList ++ conditions) := by
  obtain hnil | ⟨blanks, last, hgap⟩ := List.eq_nil_or_concat clause.gap
  · exact absurd hnil hwritten.gap_ne_nil
  · rw [List.concat_eq_append] at hgap
    have hblank := List.all_eq_true.mp hwritten.gap_blank
    rw [hgap] at hblank
    have hmark : ¬whereMark <:+: (list ++ blanks) ++ [last] := by
      rw [List.append_assoc]
      exact hnone _ hblank
    have hother : ¬(last = ' ' ∧ clause.conditions.head? = some ' ') := by
      rintro ⟨rfl, hspace⟩
      exact hspaced ⟨by rw [hgap, List.getLast?_concat], hspace⟩
    have htext : list ++ clause.text =
        (list ++ blanks) ++ last :: ("where".toList ++ clause.conditions) := by
      simp [WhereClause.text, hgap]
    have hcut := upTo_other_word isUnbroken_where (hblank last (by simp)) hmark hother
    refine ⟨upTo whereMark clause.conditions, ?_⟩
    rw [htext, hgap]
    exact hcut.trans (by simp [whereMark])

/-- What is read from a list up to its where clause is right exactly if the word of the clause has
spaces around it, where blanks after the list make no difference and nothing but blanks and commas
may be left out. -/
theorem read_beforeWhere_iff {α : Type} {read : List Char → α} {result : α}
    (hwritten : ∀ clause ∈ whereClause, clause.IsWritten) (hnone : HasNoWhere list)
    (hread : ∀ blanks, (∀ c ∈ blanks, isBlank c = true) → read (list ++ blanks) = result)
    (hfilter : ∀ text, read text = result → text.filter isNameChar = list.filter isNameChar) :
    read (beforeWhere (list ++ whereText whereClause)) = result ↔
      ∀ clause ∈ whereClause, clause.IsSpaced := by
  cases whereClause with
  | none =>
      have hself : beforeWhere (list ++ whereText none) = list ++ [] :=
        upTo_eq_self_of_not_infix (hnone [] (by simp))
      rw [hself]
      exact iff_of_true (hread [] (by simp)) (by simp)
  | some clause =>
      have hclause := hwritten clause rfl
      have hall : (∀ other ∈ some clause, other.IsSpaced) ↔ clause.IsSpaced := by simp
      rw [hall]
      constructor
      · intro hresult
        by_contra hspaced
        obtain ⟨conditions, hkept⟩ := beforeWhere_of_not_isSpaced hclause hspaced hnone
        have hchars := hfilter _ hresult
        rw [whereText, Option.elim_some, hkept] at hchars
        have hextra := @isNameChar_of_filter_eq [] _ _ hchars 'w' (by simp)
        exact absurd hextra (by decide)
      · intro hspaced
        obtain ⟨blanks, hblanks, hcut⟩ := beforeWhere_of_isSpaced hclause hspaced hnone
        rw [whereText, Option.elim_some, hcut]
        exact hread blanks hblanks

theorem exists_beforeWhere_eq (hwritten : ∀ clause ∈ whereClause, clause.IsWritten)
    (hnone : HasNoWhere list) :
    ∃ back, beforeWhere (list ++ whereText whereClause) = list ++ back := by
  cases whereClause with
  | none => exact ⟨[], upTo_eq_self_of_not_infix (hnone [] (by simp))⟩
  | some clause =>
      by_cases hspaced : clause.IsSpaced
      · obtain ⟨blanks, _, hcut⟩ := beforeWhere_of_isSpaced (hwritten clause rfl) hspaced hnone
        exact ⟨blanks, hcut⟩
      · obtain ⟨conditions, hkept⟩ :=
          beforeWhere_of_not_isSpaced (hwritten clause rfl) hspaced hnone
        exact ⟨_, hkept⟩

end BeforeWhere

theorem returnType_eq_iff {effects : List Char} (heffects : '-' ∉ effects) (h : entry.IsWritten)
    {whereClause : Option WhereClause} (hwritten : ∀ clause ∈ whereClause, clause.IsWritten) :
    returnType (effects ++ "->".toList ++ (entry.text ++ whereText whereClause)) = entry.type ↔
      ∀ clause ∈ whereClause, clause.IsSpaced := by
  have hcut : cutAt? "->".toList (effects ++ "->".toList ++ (entry.text ++ whereText whereClause)) =
      some (effects, entry.text ++ whereText whereClause) := cutAt?_append heffects
  have htype : trim entry.text = entry.type.toList := by
    have htrim : trim (entry.text ++ []) = entry.type.toList := h.trim_append (by simp)
    rwa [List.append_nil] at htrim
  have hiff := @read_beforeWhere_iff entry.text whereClause String
    (fun text => String.ofList (trim text)) entry.type hwritten h.hasNoWhere
  rw [returnType, hcut]
  refine hiff (fun blanks hblanks => ?_) fun text htext => ?_
  · rw [h.trim_append hblanks, String.ofList_toList]
  · rw [← filter_isNameChar_trim text, ← filter_isNameChar_trim entry.text, htype, ← htext,
      String.toList_ofList]

/-! ### Generic clauses -/

theorem angleDepth_append (left right : List Char) :
    angleDepth (left ++ right) = angleDepth left + angleDepth right := by
  simp only [angleDepth, List.count_append]
  omega

theorem angleDepth_cons (c : Char) (rest : List Char) :
    angleDepth (c :: rest) = angleDepth [c] + angleDepth rest :=
  angleDepth_append [c] rest

section Generics

variable {inner : List Char} {depth : Int}

theorem afterAngles?_cons (depth : Int) (c : Char) (rest : List Char) :
    afterAngles? depth (c :: rest) =
      if c = '>' ∧ depth = 1 then some rest else afterAngles? (depth + angleDepth [c]) rest := by
  rw [afterAngles?]
  by_cases hopening : c = '<'
  · simp [hopening, angleDepth]
  · by_cases hclosing : c = '>'
    · have hlast : depth - 1 = 0 ↔ depth = 1 := by omega
      have hless : depth + angleDepth ['>'] = depth - 1 := by simp [angleDepth]; omega
      simp [hclosing, hless, hlast]
    · simp [hopening, hclosing, angleDepth]

/-- The scan goes on as long as a bracket is open. -/
theorem afterAngles?_append (h : ∀ front, front <+: inner → 0 < depth + angleDepth front)
    (rest : List Char) :
    afterAngles? depth (inner ++ rest) = afterAngles? (depth + angleDepth inner) rest := by
  induction inner generalizing depth with
  | nil => simp [angleDepth]
  | cons c others ih =>
      have hopen : ¬(c = '>' ∧ depth = 1) := by
        rintro ⟨rfl, rfl⟩
        have hhere := h ['>'] (List.prefix_append ['>'] others)
        simp [angleDepth] at hhere
      rw [List.cons_append, afterAngles?_cons, if_neg hopen, angleDepth_cons c others,
        ← Int.add_assoc]
      refine ih fun front hfront => ?_
      have hhere := h (c :: front) (List.cons_prefix_cons.mpr ⟨rfl, hfront⟩)
      rw [angleDepth_cons c front] at hhere
      omega

/-- It stops at the bracket that closes the last open one. -/
theorem exists_afterAngles?_eq (hopen : 0 < depth) (hclosed : depth + angleDepth inner ≤ 0) :
    ∃ front later, inner = front ++ '>' :: later ∧
      ∀ rest, afterAngles? depth (inner ++ rest) = some (later ++ rest) := by
  induction inner generalizing depth with
  | nil =>
      simp only [angleDepth, List.count_nil] at hclosed
      omega
  | cons c others ih =>
      by_cases hlast : c = '>' ∧ depth = 1
      · obtain ⟨rfl, rfl⟩ := hlast
        refine ⟨[], others, rfl, fun rest => ?_⟩
        rw [List.cons_append, afterAngles?_cons, if_pos ⟨rfl, rfl⟩]
      · have hcons := angleDepth_cons c others
        have hstill : 0 < depth + angleDepth [c] := by
          by_cases hclosing : c = '>'
          · have hdeep : depth ≠ 1 := fun hone => hlast ⟨hclosing, hone⟩
            have hless : angleDepth [c] = -1 := by rw [hclosing]; rfl
            omega
          · have hmore : 0 ≤ angleDepth [c] := by simp [angleDepth, hclosing]
            omega
        obtain ⟨front, later, rfl, hlater⟩ := @ih (depth + angleDepth [c]) hstill (by omega)
        refine ⟨c :: front, later, rfl, fun rest => ?_⟩
        rw [List.cons_append, afterAngles?_cons, if_neg hlast, hlater]

/-- The angle of an arrow closes a bracket in a text that has one. -/
theorem angleDepth_withoutArrows (text : List Char) :
    withoutArrows text = text ∨ angleDepth text < angleDepth (withoutArrows text) := by
  have hne : "->".toList ≠ [] := by decide
  have harrow : angleDepth "->".toList = -1 := by decide
  induction text using erase_induction hne with
  | nil => exact .inl rfl
  | erased rest ih =>
      rw [withoutArrows, erase_append hne, ← withoutArrows, angleDepth_append, harrow]
      right
      rcases ih with hnone | hless
      · rw [hnone]
        omega
      · omega
  | kept c rest hnot ih =>
      rw [withoutArrows, erase_cons hnot, ← withoutArrows]
      refine ih.imp (fun hnone => by rw [hnone]) fun hless => ?_
      rw [angleDepth_cons c rest, angleDepth_cons c (withoutArrows rest)]
      omega

section Lead

variable {lead : List Char} (hlead : ∀ c ∈ lead, isBlank c = true)

include hlead

theorem withoutGenerics_eq (inner rest : List Char) :
    withoutGenerics (lead ++ genericsText (some inner) ++ rest) =
      (afterAngles? 1 (inner ++ '>' :: rest)).getD ('<' :: (inner ++ '>' :: rest)) := by
  have htext : lead ++ genericsText (some inner) ++ rest =
      lead ++ '<' :: (inner ++ '>' :: rest) := by
    simp [genericsText]
  have hstart : trimStart (lead ++ '<' :: (inner ++ '>' :: rest)) = '<' :: (inner ++ '>' :: rest) :=
    trimStart_blanks_append hlead (by decide) _
  rw [withoutGenerics, htext, hstart]
  rfl

theorem withoutGenerics_of_anglesClose (h : AnglesClose inner) (rest : List Char) :
    withoutGenerics (lead ++ genericsText (some inner) ++ rest) = rest := by
  have hopen : ∀ front, front <+: inner → 0 < 1 + angleDepth front := fun front hfront => by
    have hopened := h.opened front hfront
    omega
  rw [withoutGenerics_eq hlead, afterAngles?_append hopen, h.closed, afterAngles?_cons]
  rfl

/-- With an arrow in it a generic clause ends too early. -/
theorem exists_withoutGenerics_eq (h : ¬AnglesClose inner)
    (harrows : AnglesClose (withoutArrows inner)) :
    ∃ front later, inner = front ++ '>' :: later ∧
      ∀ rest, withoutGenerics (lead ++ genericsText (some inner) ++ rest) =
        later ++ '>' :: rest := by
  have hless : angleDepth inner < 0 := by
    rw [← harrows.closed]
    exact (angleDepth_withoutArrows inner).resolve_left fun hnone => h (hnone ▸ harrows)
  obtain ⟨front, later, hinner, hlater⟩ :=
    exists_afterAngles?_eq (show (0 : Int) < 1 by decide) (show 1 + angleDepth inner ≤ 0 by omega)
  refine ⟨front, later, hinner, fun rest => ?_⟩
  rw [withoutGenerics_eq hlead, hlater]
  rfl

end Lead

end Generics

/-! ### Inherited types -/

theorem inheritedTypes_of_colon {header list : List Char}
    (h : trimStart (withoutGenerics header) = ':' :: list) :
    inheritedTypes header = (names (beforeWhere list)).map String.ofList := by
  rw [inheritedTypes, h]
  rfl

theorem exists_colon_of_ne_nil {header : List Char} (h : inheritedTypes header ≠ []) :
    ∃ list, trimStart (withoutGenerics header) = ':' :: list := by
  rw [inheritedTypes] at h
  split at h
  · next list hlist => exact ⟨list, hlist⟩
  · exact absurd rfl h

theorem exists_of_trimStart_eq_colon {text rest list : List Char}
    (h : trimStart (text ++ '>' :: rest) = ':' :: list) :
    ∃ blanks tail, text = blanks ++ ':' :: tail ∧ list = tail ++ '>' :: rest := by
  obtain ⟨blanks, hblanks⟩ : trimStart text <:+ text := List.dropWhile_suffix isBlank
  rw [trimStart_append_cons (by decide)] at h
  cases hkept : trimStart text with
  | nil => simp [hkept] at h
  | cons c tail =>
      rw [hkept] at h hblanks
      obtain ⟨rfl, htail⟩ := List.cons.inj h
      exact ⟨blanks, tail, hblanks.symm, htail.symm⟩

namespace TypeHeader

variable {header : TypeHeader}

/-- The list of types with the where clause behind it. -/
def list (header : TypeHeader) : List Char :=
  entriesText header.entries ++ whereText header.whereClause

namespace IsWritten

theorem names_list_iff (h : header.IsWritten) :
    names (beforeWhere header.list) = header.entries.map (fun entry => entry.type.toList) ↔
      ∀ clause ∈ header.whereClause, clause.IsSpaced :=
  read_beforeWhere_iff h.whereClause (hasNoWhere_entriesText h.entries)
    (fun _ => names_entriesText_append h.entries) fun _ => filter_of_names_eq h.entries

theorem trimStart_withoutGenerics (h : header.IsWritten)
    (hangles : ∀ inner ∈ header.generics, AnglesClose inner) :
    trimStart (withoutGenerics header.text) = ':' :: header.list := by
  have hcolon : isBlank ':' = false := by decide
  have hlead := List.all_eq_true.mp h.lead_blank
  have hbetween := List.all_eq_true.mp h.between_blank
  rw [TypeHeader.text, ← list, List.append_assoc]
  cases hgenerics : header.generics with
  | none =>
      have hblank : ∀ c ∈ header.lead ++ header.between, isBlank c = true := by
        simpa [or_imp, forall_and] using ⟨hlead, hbetween⟩
      have hstart := trimStart_blanks_append hblank hcolon header.list
      rw [List.append_assoc] at hstart
      rw [genericsText, Option.elim_none, List.append_nil, withoutGenerics, hstart]
      exact List.dropWhile_cons_of_neg (by decide)
  | some inner =>
      rw [withoutGenerics_of_anglesClose hlead (hangles inner hgenerics)]
      exact trimStart_blanks_append hbetween hcolon header.list

/-- The where clause is looked for behind the list, whatever else is taken for a part of it. -/
theorem exists_beforeWhere_append_eq (h : header.IsWritten) {front : List Char}
    (hnone : ¬whereMark <:+: front) :
    ∃ back, beforeWhere (front ++ '>' :: (header.between ++ ':' :: header.list)) =
      (front ++ '>' :: (header.between ++ [':'])) ++ entriesText header.entries ++ back := by
  obtain ⟨back, hback⟩ :=
    exists_beforeWhere_eq h.whereClause (hasNoWhere_entriesText h.entries)
  have hbetween := no_where_blanks (List.all_eq_true.mp h.between_blank)
  refine ⟨back, ?_⟩
  calc beforeWhere (front ++ '>' :: (header.between ++ ':' :: header.list))
      = front ++ '>' :: upTo whereMark (header.between ++ ':' :: header.list) :=
        upTo_append_cons hnone (by decide) _
    _ = front ++ '>' :: (header.between ++ ':' :: beforeWhere header.list) := by
        rw [upTo_append_cons hbetween (by decide)]
        rfl
    _ = (front ++ '>' :: (header.between ++ [':'])) ++ entriesText header.entries ++ back := by
        rw [TypeHeader.list, hback]
        simp

/-- What is left of a generic clause with an arrow in it becomes a part of the list. -/
theorem inheritedTypes_ne (h : header.IsWritten) {inner : List Char}
    (hgenerics : header.generics = some inner) (hangles : ¬AnglesClose inner) :
    inheritedTypes header.text ≠ header.entries.map Entry.type := by
  obtain ⟨harrows, hwhere⟩ := (h.generics inner hgenerics).resolve_left hangles
  obtain ⟨front, later, rfl, hlater⟩ :=
    exists_withoutGenerics_eq (List.all_eq_true.mp h.lead_blank) hangles harrows
  intro hread
  obtain ⟨list, hlist⟩ : ∃ list, trimStart (withoutGenerics header.text) = ':' :: list := by
    refine exists_colon_of_ne_nil ?_
    rw [hread]
    simpa using h.entries_ne_nil
  rw [inheritedTypes_of_colon hlist, map_ofList_eq_iff] at hread
  rw [TypeHeader.text, ← TypeHeader.list, hgenerics, List.append_assoc, hlater] at hlist
  obtain ⟨blanks, tail, rfl, rfl⟩ := exists_of_trimStart_eq_colon hlist
  have hnone : ¬whereMark <:+: tail := fun hmark =>
    hwhere (mem_words_of_spaced isUnbroken_where
      (hmark.trans ⟨front ++ '>' :: blanks ++ [':'], [], by simp⟩))
  -- so the angle that closes the clause is read as a part of a name
  obtain ⟨back, hback⟩ := h.exists_beforeWhere_append_eq hnone
  have hchars := filter_of_names_eq h.entries hread
  rw [hback] at hchars
  exact absurd (isNameChar_of_filter_eq hchars '>' (by simp)) (by decide)

theorem inheritedTypes_eq_iff (h : header.IsWritten) :
    inheritedTypes header.text = header.entries.map Entry.type ↔
      (∀ inner ∈ header.generics, AnglesClose inner) ∧
        ∀ clause ∈ header.whereClause, clause.IsSpaced := by
  by_cases hangles : ∀ inner ∈ header.generics, AnglesClose inner
  · rw [inheritedTypes_of_colon (h.trimStart_withoutGenerics hangles), map_ofList_eq_iff,
      h.names_list_iff, and_iff_right hangles]
  · refine iff_of_false ?_ fun hboth => hangles hboth.1
    obtain ⟨inner, hinner⟩ := not_forall.mp hangles
    obtain ⟨hgenerics, hopen⟩ := Classical.not_imp.mp hinner
    exact h.inheritedTypes_ne hgenerics hopen

end IsWritten

end TypeHeader

/-- **Types in headers.** The inherited types are read as they are listed exactly if the angle
brackets of the generic clause close with those of arrows counted, and a space stands next to the
word of the where clause on both sides, not a tab or the end of a line. The return type before such
a where clause is read exactly if the latter holds. -/
theorem reads_types_iff {header : TypeHeader} (h : header.IsWritten) {effects : List Char}
    (heffects : '-' ∉ effects) {result : Entry} (hresult : result.IsWritten) :
    (inheritedTypes header.text = header.entries.map Entry.type ↔
      (∀ inner ∈ header.generics, AnglesClose inner) ∧
        ∀ clause ∈ header.whereClause, clause.IsSpaced) ∧
    (returnType (effects ++ "->".toList ++ (result.text ++ whereText header.whereClause)) =
        result.type ↔
      ∀ clause ∈ header.whereClause, clause.IsSpaced) :=
  ⟨h.inheritedTypes_eq_iff, returnType_eq_iff heffects hresult h.whereClause⟩

/-- A header with a generic clause and a where clause on a line of its own. -/
def storing : TypeHeader where
  lead := []
  generics := some "Key: Hashable, Value: Box<Key>".toList
  between := []
  entries := [⟨[' '], "Base<Key, (Int, Int) -> Value>", []⟩, ⟨[' '], "Sendable", [' ']⟩]
  whereClause := some ⟨['\n', ' '], " Key: Codable ".toList⟩

theorem reads_types_of_storing :
    storing.IsWritten ∧ '-' ∉ " throws ".toList ∧ Entry.IsWritten ⟨[' '], "[Key: Value]", []⟩ ∧
    inheritedTypes ("<Key: Hashable, Value: Box<Key>>: Base<Key, (Int, Int) -> Value>, Sendable " ++
      "\n where Key: Codable ").toList = ["Base<Key, (Int, Int) -> Value>", "Sendable"] ∧
    returnType " throws -> [Key: Value]\n where Key: Codable ".toList = "[Key: Value]" := by
  have hwritten : storing.IsWritten := by decide
  have heffects : '-' ∉ " throws ".toList := by decide
  have hresult : Entry.IsWritten ⟨[' '], "[Key: Value]", []⟩ := by decide
  have hangles : ∀ inner ∈ storing.generics, AnglesClose inner := by decide
  have hspaced : ∀ clause ∈ storing.whereClause, clause.IsSpaced := by
    rintro _ ⟨⟩
    exact ⟨by decide, by decide⟩
  obtain ⟨hinherited, hreturn⟩ := reads_types_iff hwritten heffects hresult
  exact ⟨hwritten, heffects, hresult, hinherited.mpr ⟨hangles, hspaced⟩, hreturn.mpr hspaced⟩

/-- After a tab a where clause is a part of the last type. -/
theorem not_reads_types_of_tab :
    ∃ header : TypeHeader, header.IsWritten ∧ (∀ inner ∈ header.generics, AnglesClose inner) ∧
      header.text = "<K, V>: A, B\twhere K: X ".toList ∧
      header.entries.map Entry.type = ["A", "B"] ∧
      inheritedTypes header.text = ["A", "B\twhere K: X"] ∧
      inheritedTypes header.text ≠ header.entries.map Entry.type := by
  refine ⟨⟨[], some "K, V".toList, [], [⟨[' '], "A", []⟩, ⟨[' '], "B", []⟩],
    some ⟨['\t'], " K: X ".toList⟩⟩, ?_⟩
  decide

/-- The angle of an arrow closes the generic clause, and no colon follows it. -/
example : inheritedTypes "<Key: (Int) -> Int>: Base".toList = [] := by
  decide

end Understudy.Header
