import Mathlib.Data.Bool.AllAny
import Mathlib.Data.List.DropRight
import Mathlib.Data.List.Infix
import Understudy.Entity
import Understudy.Proofs.Failure.Results
import Understudy.Proofs.Text.Lines

/-!
# The marker in the comment above a declaration

The comment is looked for from the bottom, line by line, and a line counts when it begins with
`//`, `/*` or `*`, or ends with `*/`. So the lines of a block are seen as far up as the last bare
one among them, and a marker above that line is missed; a run of lines that begin with two slashes
is seen as a whole. What stands above a blank line is never seen.
-/

namespace Understudy.Comment

open Text
open scoped List

/-- A text whose lines all begin with two slashes, with or without blanks before them. -/
def IsRun (text : List Char) : Prop :=
  ∀ line ∈ splitWhere (· == '\n') text, "//".toList <+: trim line

instance : DecidablePred IsRun := fun text =>
  inferInstanceAs (Decidable (∀ line ∈ splitWhere (· == '\n') text, "//".toList <+: trim line))

/-- A block from its opening mark at the beginning of a line, which may be indented, to its closing
mark at the end of one. Between the marks the text is arbitrary. -/
structure IsBlock (text : List Char) : Prop where
  exists_parts : ∃ indent inner blanks,
    text = indent ++ "/*".toList ++ inner ++ "*/".toList ++ blanks ∧
      ∀ c ∈ indent ++ blanks, isBlank c = true ∧ c ≠ '\n'

/-- A text is empty or its last line is blank. -/
def EndsBlank (text : List Char) : Prop :=
  text = [] ∨ text.getLast? = some '\n' ∧ ∀ line ∈ (lines text).getLast?, trim line = []

/-- A source with one comment on the lines directly above a declaration, and a blank line or nothing
above the comment. -/
structure Commented where
  above : List Char
  comment : List Char
  /-- What stands before the declaration on its own line. -/
  lead : List Char
  rest : List Char
  endsBlank : EndsBlank above
  isComment : IsRun comment ∨ IsBlock comment
  lead_oneLine : '\n' ∉ lead

namespace Commented

def beforeDeclaration (source : Commented) : List Char :=
  source.above ++ source.comment ++ '\n' :: source.lead

def text (source : Commented) : String :=
  String.ofList (source.beforeDeclaration ++ source.rest)

/-- The position of the declaration. -/
def offset (source : Commented) : Nat :=
  byteLength source.beforeDeclaration

end Commented

/-- Some line of a comment contains the marker. -/
def Carries (comment marker : List Char) : Prop :=
  ∃ line ∈ lines comment, marker <:+: line

instance (comment marker : List Char) : Decidable (Carries comment marker) :=
  inferInstanceAs (Decidable (∃ line ∈ lines comment, marker <:+: line))

/-- Some line of a comment contains the marker between its blanks, and neither this line nor one
below it is bare. -/
def Shows (comment marker : List Char) : Prop :=
  ∃ front line below, lines comment = front ++ line :: below ∧ marker <:+: trim line ∧
    ∀ other ∈ line :: below, isCommentLine (trim other) = true

variable {marker : List Char}

theorem beforeLastLine?_append {lead : List Char} (h : '\n' ∉ lead) (front : List Char) :
    beforeLastLine? (front ++ '\n' :: lead) = some front := by
  have hlead : ∀ c ∈ lead.reverse, (c != '\n') = true := by
    intro c hc
    rw [bne_iff_ne]
    rintro rfl
    exact h (List.mem_reverse.mp hc)
  have hcut : (front ++ '\n' :: lead).reverse.dropWhile (· != '\n') = '\n' :: front.reverse := by
    rw [List.reverse_append, List.reverse_cons, List.append_assoc, List.singleton_append,
      List.dropWhile_append_of_pos hlead, List.dropWhile_cons_of_neg (by simp)]
  rw [beforeLastLine?, hcut, Option.some.injEq]
  exact List.reverse_reverse front

theorem slice?_beforeDeclaration (source : Commented) :
    slice? source.text.toList 0 source.offset = some source.beforeDeclaration := by
  have hslice := slice?_append [] source.beforeDeclaration source.rest
  rwa [List.nil_append, ← String.toList_ofList (l := source.beforeDeclaration ++ source.rest)]
    at hslice

theorem mem_rtakeWhile_iff {α : Type} {p : α → Bool} {items : List α} {item : α} :
    item ∈ items.rtakeWhile p ↔
      ∃ front below, items = front ++ item :: below ∧ ∀ other ∈ item :: below, p other = true := by
  constructor
  · intro hmem
    obtain ⟨before, hbefore⟩ := List.rtakeWhile_suffix p items
    obtain ⟨front, below, htaken⟩ := List.append_of_mem hmem
    refine ⟨before ++ front, below, ?_, fun other hother => ?_⟩
    · rw [List.append_assoc, ← htaken, hbefore]
    · apply List.mem_rtakeWhile_imp (l := items)
      rw [htaken]
      exact List.mem_append_right front hother
  · rintro ⟨front, below, rfl, hall⟩
    have htaken : ∀ other ∈ (item :: below).reverse, p other = true :=
      fun other hother => hall other (List.mem_reverse.mp hother)
    rw [List.rtakeWhile, List.reverse_append, List.takeWhile_append_of_pos htaken]
    simp

/-- What stands above an item that does not count is not taken. -/
theorem rtakeWhile_append {α : Type} {p : α → Bool} {above : List α}
    (h : ∀ item ∈ above.getLast?, p item = false) (items : List α) :
    (above ++ items).rtakeWhile p = items.rtakeWhile p := by
  rcases List.eq_nil_or_concat' above with rfl | ⟨front, last, rfl⟩
  · rfl
  · have hlast : p last = false := h last (by simp)
    rw [List.rtakeWhile, List.rtakeWhile, List.reverse_append, List.takeWhile_append]
    split
    · next hlength =>
      have hall := (List.takeWhile_prefix p).eq_of_length hlength
      simp [hall, hlast]
    · rfl

theorem lines_append_of_endsBlank {above : List Char} (h : EndsBlank above) (text : List Char) :
    lines (above ++ text) = lines above ++ lines text := by
  rcases h with rfl | ⟨hfeed, _⟩
  · rfl
  · exact lines_append hfeed text

theorem not_isCommentLine_of_endsBlank {above : List Char} (h : EndsBlank above) :
    ∀ line ∈ ((lines above).map trim).getLast?, isCommentLine line = false := by
  intro line hline
  rw [List.getLast?_map, Option.mem_def, Option.map_eq_some_iff] at hline
  obtain ⟨last, hlast, rfl⟩ := hline
  rcases h with rfl | ⟨_, hblank⟩
  · simp [lines] at hlast
  · rw [hblank last hlast]
    decide

/-- The lines that are seen are the last ones of the comment, up to a bare one. -/
theorem above_eq (source : Commented) :
    above source.text source.offset =
      (((lines source.comment).map trim).rtakeWhile isCommentLine).map String.ofList := by
  have hbefore : beforeLastLine? source.beforeDeclaration = some (source.above ++ source.comment) :=
    beforeLastLine?_append source.lead_oneLine _
  have hlines : (lines (source.above ++ source.comment)).map trim =
      (lines source.above).map trim ++ (lines source.comment).map trim := by
    rw [lines_append_of_endsBlank source.endsBlank, List.map_append]
  have hseen := rtakeWhile_append (not_isCommentLine_of_endsBlank source.endsBlank)
    ((lines source.comment).map trim)
  rw [above, slice?_beforeDeclaration, Option.getD_some, hbefore, ← hseen, ← hlines]
  rfl

theorem shows_iff {comment : List Char} :
    Shows comment marker ↔
      ∃ line ∈ ((lines comment).map trim).rtakeWhile isCommentLine, marker <:+: line := by
  simp only [mem_rtakeWhile_iff, List.map_eq_append_iff, List.map_eq_cons_iff]
  constructor
  · rintro ⟨front, line, below, hlines, hmarker, hseen⟩
    exact ⟨trim line, ⟨front.map trim, below.map trim,
      ⟨front, line :: below, hlines, rfl, line, below, rfl, rfl, rfl⟩, by simpa using hseen⟩,
      hmarker⟩
  · rintro ⟨_, ⟨_, _, ⟨front, _, hlines, rfl, line, below, rfl, rfl, rfl⟩, hseen⟩, hmarker⟩
    exact ⟨front, line, below, hlines, hmarker, by simpa using hseen⟩

instance (comment marker : List Char) : Decidable (Shows comment marker) :=
  decidable_of_iff _ shows_iff.symm

theorem Shows.carries {comment : List Char} (h : Shows comment marker) :
    Carries comment marker := by
  obtain ⟨front, line, below, hlines, hmarker, _⟩ := h
  obtain ⟨before, after, htext, _, _⟩ := exists_blanks_trim line
  refine ⟨line, by simp [hlines], hmarker.trans ?_⟩
  exact ⟨before, after, htext.symm⟩

theorem isMarked_iff_shows {context : SourceContext} (source : Commented)
    (htext : context.source = source.text) (hmarker : context.marker ≠ "") :
    Entity.isMarked context source.offset = true ↔ Shows source.comment context.marker.toList := by
  rw [Entity.isMarked, Bool.and_eq_true, bne_iff_ne, and_iff_right hmarker, htext, above_eq,
    shows_iff, List.any_map, List.any_eq_true]
  simp only [Function.comp_apply, String.toList_ofList, contains_eq_true_iff]

theorem isAnnotated_of_ofDeclaration {context : SourceContext} {declaration : Declaration}
    {entity : Entity} (h : Entity.ofDeclaration context declaration = .ok entity) :
    entity.isAnnotated = Entity.isMarked context declaration.offset := by
  obtain ⟨members, _, rfl⟩ := exists_of_map_eq_ok h
  rfl

/-! ### Comments that are seen as a whole -/

theorem IsRun.isCommentLine {comment line : List Char} (h : IsRun comment)
    (hline : line ∈ lines comment) : isCommentLine (trim line) = true := by
  have hpiece : trim line ∈ (splitWhere (· == '\n') comment).map trim := by
    have hmem : trim line ∈ (lines comment).map trim := List.mem_map_of_mem hline
    rcases map_trim_lines comment with hlines | hlines
    · rwa [← hlines]
    · rw [← hlines]
      exact List.mem_append_left _ hmem
  obtain ⟨piece, hmem, htrim⟩ := List.mem_map.mp hpiece
  have hslashes : "//".toList.isPrefixOf (trim line) = true := by
    rw [← htrim, List.isPrefixOf_iff_prefix]
    exact h piece hmem
  rw [Comment.isCommentLine, hslashes, Bool.true_or, Bool.true_or, Bool.true_or]

/-- A comment without bare lines shows every marker that has no blank at its ends. -/
theorem Carries.shows {comment : List Char} (h : Carries comment marker)
    (htrimmed : trim marker = marker)
    (hseen : ∀ line ∈ lines comment, isCommentLine (trim line) = true) :
    Shows comment marker := by
  obtain ⟨line, hline, hmarker⟩ := h
  obtain ⟨front, below, hlines⟩ := List.append_of_mem hline
  refine ⟨front, line, below, hlines, infix_trim htrimmed hmarker, fun other hother => ?_⟩
  apply hseen
  rw [hlines]
  exact List.mem_append_right front hother

section Entity

variable {context : SourceContext} {declaration : Declaration} {entity : Entity}

theorem isAnnotated_iff_shows (source : Commented) (htext : context.source = source.text)
    (hmarker : context.marker ≠ "") (hoffset : declaration.offset = source.offset)
    (h : Entity.ofDeclaration context declaration = .ok entity) :
    entity.isAnnotated = true ↔ Shows source.comment context.marker.toList := by
  rw [isAnnotated_of_ofDeclaration h, hoffset, isMarked_iff_shows source htext hmarker]

/-- **Markers above a declaration.** An entity is annotated just in case some line of the comment
above it contains the marker, exactly if such a line, when there is one, may be found with neither a
blank of the marker trimmed away nor a bare line at it or below. That is so in every run of lines
that begin with two slashes, for a marker without blanks at its ends. -/
theorem isAnnotated_iff_carries_iff (source : Commented) (htext : context.source = source.text)
    (hmarker : context.marker ≠ "") (hoffset : declaration.offset = source.offset)
    (h : Entity.ofDeclaration context declaration = .ok entity) :
    ((entity.isAnnotated = true ↔ Carries source.comment context.marker.toList) ↔
      (Carries source.comment context.marker.toList →
        Shows source.comment context.marker.toList)) ∧
    (IsRun source.comment → trim context.marker.toList = context.marker.toList →
      (entity.isAnnotated = true ↔ Carries source.comment context.marker.toList)) := by
  have hshows := isAnnotated_iff_shows source htext hmarker hoffset h
  constructor
  · constructor
    · intro hclaim hcarries
      exact hshows.mp (hclaim.mpr hcarries)
    · intro hcondition
      exact ⟨fun hannotated => (hshows.mp hannotated).carries,
        fun hcarries => hshows.mpr (hcondition hcarries)⟩
  · intro hrun htrimmed
    constructor
    · intro hannotated
      exact (hshows.mp hannotated).carries
    · intro hcarries
      exact hshows.mpr (hcarries.shows htrimmed fun line hline => hrun.isCommentLine hline)

end Entity

def typeAt (offset : Nat) : Declaration :=
  { kind := .protocolType, name := "Api", offset, length := 15 }

def contextOf (source : Commented) : SourceContext :=
  ⟨⟨"Api.swift"⟩, source.text, false, "@mockable", {}⟩

/-- A block with a star at the beginning of each line, in a file with carriage returns. -/
def starredBlock : Commented where
  above := "import Core\r\n\t\r\n".toList
  comment := "  /**\r\n   * The server.\r\n   * @mockable\r\n   */\r".toList
  lead := "  public ".toList
  rest := "protocol Api {}".toList
  endsBlank := .inr ⟨by decide, by decide⟩
  isComment := .inr ⟨⟨"  ".toList, "*\r\n   * The server.\r\n   * @mockable\r\n   ".toList,
    ['\r'], by decide, List.all_iff_forall_prop.mp (by decide)⟩⟩
  lead_oneLine := by decide

theorem isRun_slashedLines : IsRun "// The server.\n\t//@mockable".toList := by decide

/-- A run of lines with two slashes, at the beginning of a file. -/
def slashedRun : Commented where
  above := []
  comment := "// The server.\n\t//@mockable".toList
  lead := []
  rest := "protocol Api {}".toList
  endsBlank := .inl rfl
  isComment := .inl isRun_slashedLines
  lead_oneLine := by decide

/-- The marker is found on an inner line of the block and on the last line of the run. -/
theorem isAnnotated_of_seenComments :
    ((contextOf starredBlock).source = starredBlock.text ∧ (contextOf starredBlock).marker ≠ "" ∧
      (typeAt starredBlock.offset).offset = starredBlock.offset ∧
      ∃ entity,
        Entity.ofDeclaration (contextOf starredBlock) (typeAt starredBlock.offset) = .ok entity ∧
        Carries starredBlock.comment "@mockable".toList ∧ entity.isAnnotated = true) ∧
    IsRun slashedRun.comment ∧ trim "@mockable".toList = "@mockable".toList ∧
      ∃ entity,
        Entity.ofDeclaration (contextOf slashedRun) (typeAt slashedRun.offset) = .ok entity ∧
        Carries slashedRun.comment "@mockable".toList ∧ entity.isAnnotated = true := by
  have hmarker (source : Commented) : (contextOf source).marker ≠ "" := by simp [contextOf]
  have hsource (source : Commented) : (contextOf source).source = source.text := rfl
  have hoffset (source : Commented) : (typeAt source.offset).offset = source.offset := rfl
  refine ⟨⟨rfl, hmarker _, rfl, ?_⟩, ?_⟩
  · have hcarries : Carries starredBlock.comment "@mockable".toList := by decide +kernel
    have hshows : Shows starredBlock.comment "@mockable".toList := by decide +kernel
    obtain ⟨hclaim, _⟩ := isAnnotated_iff_carries_iff starredBlock (hsource _) (hmarker _)
      (hoffset _) rfl
    exact ⟨_, rfl, hcarries, (hclaim.mpr fun _ => hshows).mpr hcarries⟩
  · have htrimmed : trim "@mockable".toList = "@mockable".toList := by decide
    have hcarries : Carries slashedRun.comment "@mockable".toList := by decide +kernel
    obtain ⟨_, hseen⟩ := isAnnotated_iff_carries_iff slashedRun (hsource _) (hmarker _)
      (hoffset _) rfl
    exact ⟨isRun_slashedLines, htrimmed, _, rfl, hcarries,
      (hseen isRun_slashedLines htrimmed).mpr hcarries⟩

/-- A block whose inner line has no mark of its own. -/
def bareBlock : Commented where
  above := []
  comment := "/*\n  @mockable\n */".toList
  lead := []
  rest := "protocol Api {}".toList
  endsBlank := .inl rfl
  isComment := .inr ⟨⟨[], "\n  @mockable\n ".toList, [], by decide, by rintro c ⟨⟩⟩⟩
  lead_oneLine := by decide

/-- The marker on a bare line of a block is missed. -/
theorem not_isAnnotated_of_bareBlock :
    bareBlock.text = "/*\n  @mockable\n */\nprotocol Api {}" ∧ bareBlock.offset = 19 ∧
    (contextOf bareBlock).source = bareBlock.text ∧
    (contextOf bareBlock).marker = "@mockable" ∧
    ∃ entity, Entity.ofDeclaration (contextOf bareBlock) (typeAt bareBlock.offset) = .ok entity ∧
      entity.isAnnotated = false ∧ Carries bareBlock.comment "@mockable".toList ∧
      ¬(entity.isAnnotated = true ↔ Carries bareBlock.comment "@mockable".toList) := by
  have hcarries : Carries bareBlock.comment "@mockable".toList := by decide +kernel
  have hhidden : ¬Shows bareBlock.comment "@mockable".toList := by decide +kernel
  have hmissed : Entity.isMarked (contextOf bareBlock) bareBlock.offset = false := by
    rw [Bool.eq_false_iff, ne_eq, isMarked_iff_shows bareBlock rfl (by simp [contextOf])]
    exact hhidden
  refine ⟨by decide +kernel, by decide +kernel, rfl, rfl, _, rfl, hmissed, hcarries, ?_⟩
  intro hclaim
  have hfound : Entity.isMarked (contextOf bareBlock) bareBlock.offset = true := hclaim.mpr hcarries
  simp [hmissed] at hfound

end Understudy.Comment
