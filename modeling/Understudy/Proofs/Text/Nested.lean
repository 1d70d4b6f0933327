import Mathlib.Data.List.Basic
import Understudy.Text.TopLevel

/-!
# Texts whose brackets are closed

A nested text closes every bracket that it opens, has no comma outside brackets and no dash at its
end. So a comma or a closing bracket that follows it is the first one outside its brackets, which is
how the end of such a text is found again: two lists of nested texts that are written alike, with
commas between them and a closing bracket at the end, are the same list.
-/

namespace Understudy.Text

/-- A comma or a closing bracket at depth zero; the angle of an arrow is no bracket. -/
def endsHere (depth : Int) (previous : Option Char) (c : Char) : Bool :=
  depth == 0 && (c == ',' || (isClosing c && !(c == '>' && previous == some '-')))

/-- Nothing ends the text from a depth on before its last character. It ends at depth zero, without
a dash that could make an arrow of what follows. -/
def isNestedFrom (depth : Int) (previous : Option Char) : List Char → Bool
  | [] => depth == 0 && previous != some '-'
  | c :: rest =>
      !endsHere depth previous c && isNestedFrom (depthAfter depth previous c) (some c) rest

def isNested (text : List Char) : Bool :=
  isNestedFrom 0 none text

section Nested

variable {depth : Int} {previous : Option Char} {c : Char} {text rest : List Char}

theorem isNestedFrom_cons :
    isNestedFrom depth previous (c :: rest) = true ↔
      endsHere depth previous c = false ∧
        isNestedFrom (depthAfter depth previous c) (some c) rest = true := by
  simp [isNestedFrom]

/-- A comma, or a closing bracket that no dash can stand before, ends a text at depth zero. -/
def isEnd (c : Char) : Bool :=
  c == ',' || isClosing c

theorem endsHere_of_isEnd (hend : isEnd c = true) (hprevious : previous ≠ some '-') :
    endsHere 0 previous c = true := by
  simp only [isEnd, Bool.or_eq_true] at hend
  simpa [endsHere, hprevious] using hend

theorem isNestedFrom_eq_false_of_isEnd (h : isNestedFrom depth previous [] = true)
    (hend : isEnd c = true) : isNestedFrom depth previous (c :: rest) = false := by
  obtain ⟨rfl, hprevious⟩ : depth = 0 ∧ previous ≠ some '-' := by
    simpa [isNestedFrom] using h
  simp [isNestedFrom, endsHere_of_isEnd hend hprevious]

theorem isNestedFrom_eq_of_ne_dash {other : Option Char} (hprevious : previous ≠ some '-')
    (hother : other ≠ some '-') (depth : Int) (text : List Char) :
    isNestedFrom depth previous text = isNestedFrom depth other text := by
  have hdash : (previous == some '-') = (other == some '-') := by
    rw [beq_eq_false_iff_ne.mpr hprevious, beq_eq_false_iff_ne.mpr hother]
  cases text with
  | nil => simp [isNestedFrom, bne, hdash]
  | cons c rest => simp only [isNestedFrom, endsHere, depthAfter, hdash]

/-- The end of a nested text is found again by the character that follows it. -/
theorem eq_of_isNestedFrom_append {left right : List Char} {stop other : Char}
    {after later : List Char} (hleft : isNestedFrom depth previous left = true)
    (hright : isNestedFrom depth previous right = true) (hstop : isEnd stop = true)
    (hother : isEnd other = true) (heq : left ++ stop :: after = right ++ other :: later) :
    left = right ∧ stop = other ∧ after = later := by
  -- both texts are read from one depth; where one is at its end the other cannot go on
  induction left generalizing depth previous right with
  | nil =>
      cases right with
      | nil => simpa using heq
      | cons c rest =>
          obtain ⟨rfl, _⟩ := List.cons.inj heq
          simp [isNestedFrom_eq_false_of_isEnd hleft hstop] at hright
  | cons c rest ih =>
      cases right with
      | nil =>
          obtain ⟨rfl, _⟩ := List.cons.inj heq
          simp [isNestedFrom_eq_false_of_isEnd hright hother] at hleft
      | cons head tail =>
          obtain ⟨rfl, htail⟩ := List.cons.inj heq
          obtain ⟨rfl, hrest⟩ := ih (isNestedFrom_cons.mp hleft).2 (isNestedFrom_cons.mp hright).2
            htail
          exact ⟨rfl, hrest⟩

theorem isEnd_eq_false_of_isNested (h : isNested (c :: rest) = true) : isEnd c = false := by
  by_contra hend
  have hends := endsHere_of_isEnd (Bool.not_eq_false _ ▸ hend) (Option.some_ne_none '-').symm
  simp [(isNestedFrom_cons.mp h).1] at hends

/-- Up to a separator that no arrow begins with, characters that are no brackets and no commas do
not count. -/
theorem isNestedFrom_append_of_plain {separator : Char}
    (hplain : ∀ c ∈ text ++ [separator], isOpening c = false ∧ isEnd c = false)
    (hdash : separator ≠ '-') :
    isNestedFrom depth previous (text ++ separator :: rest) = isNestedFrom depth none rest := by
  have hstep {c : Char} (hc : isOpening c = false ∧ isEnd c = false) (depth : Int)
      (previous : Option Char) (rest : List Char) :
      isNestedFrom depth previous (c :: rest) = isNestedFrom depth (some c) rest := by
    simp only [isEnd, Bool.or_eq_false_iff] at hc
    simp [isNestedFrom, endsHere, depthAfter, hc]
  induction text generalizing previous with
  | nil =>
      rw [List.nil_append, hstep (hplain separator (by simp))]
      exact isNestedFrom_eq_of_ne_dash (by simpa using hdash) (Option.some_ne_none '-').symm _ _
  | cons c tail ih =>
      rw [List.cons_append, hstep (hplain c (by simp))]
      exact ih fun other hmem => hplain other (List.mem_cons_of_mem c hmem)

def commaJoined (items : List (List Char)) : List Char :=
  [','].intercalate items

theorem commaJoined_cons_append (item : List Char) (items : List (List Char)) (stop : Char)
    (after : List Char) :
    commaJoined (item :: items) ++ stop :: after =
      item ++ (if items = [] then stop else ',') ::
        (if items = [] then after else commaJoined items ++ stop :: after) := by
  cases items with
  | nil => simp [commaJoined]
  | cons next rest => simp [commaJoined, List.intercalate_cons_cons]

/-- Lists of nested texts are told apart by how they are written, apart from the list that holds
the empty text alone. -/
theorem eq_of_commaJoined_append {left right : List (List Char)} {stop : Char}
    {after later : List Char} (hleft : ∀ item ∈ left, isNested item = true)
    (hright : ∀ item ∈ right, isNested item = true) (hstop : isClosing stop = true)
    (hempty : left = [] ↔ right = [])
    (heq : commaJoined left ++ stop :: after = commaJoined right ++ stop :: later) :
    left = right ∧ after = later := by
  have hcomma : stop ≠ ',' := by
    rintro rfl
    simp [isClosing] at hstop
  have hend (items : List (List Char)) : isEnd (if items = [] then stop else ',') = true := by
    split <;> simp [isEnd, hstop]
  -- what follows an item says whether it is the last one, since the stop is no comma
  induction left generalizing right with
  | nil =>
      obtain rfl := hempty.mp rfl
      simpa using heq
  | cons item items ih =>
      cases right with
      | nil => simp at hempty
      | cons other others =>
          rw [commaJoined_cons_append, commaJoined_cons_append] at heq
          obtain ⟨hitem, hitems⟩ := List.forall_mem_cons.mp hleft
          obtain ⟨hother, hothers⟩ := List.forall_mem_cons.mp hright
          obtain ⟨rfl, hsame, hrest⟩ :=
            eq_of_isNestedFrom_append hitem hother (hend items) (hend others) heq
          by_cases hlast : items = []
          · subst hlast
            have hothersNil : others = [] := by
              by_contra hne
              simp [hne, hcomma] at hsame
            subst hothersNil
            simpa using hrest
          · have hmore : others ≠ [] := by
              rintro rfl
              simp [hlast, Ne.symm hcomma] at hsame
            simp only [hlast, hmore, if_false] at hrest
            obtain ⟨rfl, hafter⟩ := ih hitems hothers (by simp [hlast, hmore]) hrest
            exact ⟨rfl, hafter⟩

theorem eq_nil_of_cons_eq_commaJoined_append {items : List (List Char)} {stop : Char}
    {after later : List Char} (hnested : ∀ item ∈ items, isNested item = true)
    (hnonempty : [] ∉ items) (hstop : isClosing stop = true)
    (heq : stop :: after = commaJoined items ++ stop :: later) : items = [] := by
  cases items with
  | nil => rfl
  | cons item rest =>
      obtain ⟨hitem, _⟩ := List.forall_mem_cons.mp hnested
      rw [commaJoined_cons_append] at heq
      cases item with
      | nil => exact absurd List.mem_cons_self hnonempty
      | cons c tail =>
          obtain ⟨rfl, _⟩ := List.cons.inj heq
          have hend := isEnd_eq_false_of_isNested hitem
          simp [isEnd, hstop] at hend

theorem eq_of_commaJoined_append_of_nonempty {left right : List (List Char)} {stop : Char}
    {after later : List Char} (hleft : ∀ item ∈ left, isNested item = true)
    (hright : ∀ item ∈ right, isNested item = true) (hleftNonempty : [] ∉ left)
    (hrightNonempty : [] ∉ right) (hstop : isClosing stop = true)
    (heq : commaJoined left ++ stop :: after = commaJoined right ++ stop :: later) :
    left = right ∧ after = later := by
  refine eq_of_commaJoined_append hleft hright hstop ⟨?_, ?_⟩ heq
  · rintro rfl
    exact eq_nil_of_cons_eq_commaJoined_append hright hrightNonempty hstop heq
  · rintro rfl
    exact eq_nil_of_cons_eq_commaJoined_append hleft hleftNonempty hstop heq.symm

end Nested

end Understudy.Text
