import Understudy.Proofs.Text.Erase
import Understudy.Proofs.Text.Lines

/-!
# Balanced brackets

Round, square and curly brackets are read with those that are open on a stack. A text is balanced if
each bracket in it is closed by one of its kind and in its place. The reader passes over balanced
texts, whatever is open around them, so texts are balanced that are put together from balanced ones,
side by side or between brackets, on one line or on several.
-/

namespace Understudy

open scoped List

namespace Text

variable {c : Char} {stack base later : List Char} {left right text fragment : List Char}

def isBracket (c : Char) : Bool :=
  "()[]\x7b\x7d".toList.contains c

/-- The bracket that a closing one closes. -/
def partner? : Char → Option Char
  | ')' => some '('
  | ']' => some '['
  | '\x7d' => some '\x7b'
  | _ => none

/-- The brackets that are open after one more character, the last one first. There are none if the
character closes another bracket than the last one. -/
def track (stack : List Char) (c : Char) : Option (List Char) :=
  match partner? c with
  | some opening => if stack.head? = some opening then some stack.tail else none
  | none => some (if isBracket c then c :: stack else stack)

def readBrackets (stack text : List Char) : Option (List Char) :=
  text.foldlM track stack

theorem readBrackets_cons (stack : List Char) (c : Char) (rest : List Char) :
    readBrackets stack (c :: rest) =
      (track stack c).bind fun later => readBrackets later rest :=
  List.foldlM_cons

theorem partner?_eq_none_of_not_isBracket (h : isBracket c = false) : partner? c = none := by
  unfold partner?
  split
  · cases h
  · cases h
  · cases h
  · rfl

/-- What is open below the brackets that are read does not matter. -/
theorem track_append (h : track stack c = some later) (base : List Char) :
    track (stack ++ base) c = some (later ++ base) := by
  unfold track at h ⊢
  split at h
  · next opening hpartner =>
    rw [Option.ite_none_right_eq_some, Option.some.injEq] at h
    obtain ⟨hhead, rfl⟩ := h
    obtain ⟨rest, rfl⟩ := List.head?_eq_some_iff.mp hhead
    simp
  · rw [Option.some.injEq] at h
    rw [← h]
    split <;> rfl

theorem readBrackets_append_base (h : readBrackets stack text = some later) (base : List Char) :
    readBrackets (stack ++ base) text = some (later ++ base) := by
  induction text generalizing stack with
  | nil =>
      cases h
      rfl
  | cons c rest ih =>
      rw [readBrackets_cons] at h ⊢
      obtain ⟨middle, hmiddle, hrest⟩ := Option.bind_eq_some_iff.mp h
      rw [track_append hmiddle base]
      exact ih hrest

/-- The brackets alone decide what is open. -/
theorem readBrackets_filter (stack text : List Char) :
    readBrackets stack (text.filter isBracket) = readBrackets stack text := by
  induction text generalizing stack with
  | nil => rfl
  | cons c rest ih =>
      rw [readBrackets_cons]
      cases hbracket : isBracket c with
      | true =>
          rw [List.filter_cons_of_pos hbracket, readBrackets_cons]
          exact congrArg _ (funext ih)
      | false =>
          have hpasses : track stack c = some stack := by
            rw [track, partner?_eq_none_of_not_isBracket hbracket, hbracket]
            rfl
          rw [List.filter_cons_of_neg (by simp [hbracket]), hpasses]
          exact ih stack

theorem isBracket_iff :
    isBracket c = true ↔ c = '(' ∨ c = ')' ∨ c = '[' ∨ c = ']' ∨ c = '\x7b' ∨ c = '\x7d' := by
  rw [isBracket, List.contains_iff_mem]
  simp

theorem isBracket_of_isBlank (h : isBlank c = true) : isBracket c = false := by
  apply Bool.eq_false_iff.mpr
  intro hbracket
  rcases isBracket_iff.mp hbracket with rfl | rfl | rfl | rfl | rfl | rfl <;>
    exact absurd h (by decide)

theorem isBracket_of_isDigit (h : c.isDigit = true) : isBracket c = false := by
  apply Bool.eq_false_iff.mpr
  intro hbracket
  rcases isBracket_iff.mp hbracket with rfl | rfl | rfl | rfl | rfl | rfl <;>
    exact absurd h (by decide)

theorem filter_isBracket_trimStart (text : List Char) :
    (trimStart text).filter isBracket = text.filter isBracket := by
  induction text with
  | nil => rfl
  | cons c rest ih =>
      rw [trimStart, List.dropWhile_cons]
      split
      · next hblank =>
        rw [List.filter_cons_of_neg (by simp [isBracket_of_isBlank hblank])]
        exact ih
      · rfl

theorem filter_isBracket_trim (text : List Char) :
    (trim text).filter isBracket = text.filter isBracket :=
  filter_trim (fun _ => isBracket_of_isBlank) text

/-- Where a fragment without brackets is erased no bracket is. -/
theorem filter_isBracket_erase (hne : fragment ≠ []) (h : fragment.filter isBracket = [])
    (text : List Char) : (erase fragment text).filter isBracket = text.filter isBracket := by
  induction text using erase_induction hne with
  | nil => rfl
  | erased rest ih => rw [erase_append hne, List.filter_append, h, List.nil_append, ih]
  | kept c rest hnot ih => rw [erase_cons hnot, List.filter_cons, List.filter_cons, ih]

end Text

open Text

/-- The brackets that are open after a text that is read with others open. -/
def openAfter (stack : List Char) (text : String) : Option (List Char) :=
  readBrackets stack text.toList

def Balanced (text : String) : Prop :=
  openAfter [] text = some []

instance (text : String) : Decidable (Balanced text) :=
  inferInstanceAs (Decidable (_ = _))

variable {text left right : String} {items : List String}

theorem openAfter_append (stack : List Char) (left right : String) :
    openAfter stack (left ++ right) =
      (openAfter stack left).bind fun later => openAfter later right := by
  rw [openAfter, String.toList_append, readBrackets, List.foldlM_append]
  rfl

/-- A balanced text is passed over. -/
theorem openAfter_of_balanced (h : Balanced text) (stack : List Char) :
    openAfter stack text = some stack :=
  readBrackets_append_base h stack

theorem balanced_of_filter_eq {kept : List Char} (h : Balanced text)
    (hkept : kept.filter isBracket = text.toList.filter isBracket) :
    Balanced (String.ofList kept) := by
  rw [Balanced, openAfter, String.toList_ofList, ← readBrackets_filter, hkept, readBrackets_filter]
  exact h

theorem balanced_of_filter_eq_nil (h : text.toList.filter isBracket = []) : Balanced text := by
  rw [Balanced, openAfter, ← readBrackets_filter, h]
  rfl

theorem Balanced.append (hleft : Balanced left) (hright : Balanced right) :
    Balanced (left ++ right) := by
  rw [Balanced, openAfter_append, openAfter_of_balanced hleft]
  exact hright

/-- Inside a balanced text no bracket is closed that is open around it. -/
theorem exists_openAfter_of_prefix {front : String} (h : Balanced text)
    (hfront : front.toList <+: text.toList) (base : List Char) :
    ∃ above, openAfter base front = some (above ++ base) := by
  obtain ⟨rest, hrest⟩ := hfront
  rw [Balanced, openAfter, ← hrest, readBrackets, List.foldlM_append] at h
  obtain ⟨above, habove, _⟩ := Option.bind_eq_some_iff.mp h
  exact ⟨above, readBrackets_append_base habove base⟩

namespace Layout

theorem balanced_tab (level : Nat) : Balanced (tab level) := by
  apply balanced_of_filter_eq_nil
  rw [tab, String.toList_ofList, List.filter_replicate_of_neg (by decide)]

theorem balanced_keyword (h : Balanced text) : Balanced (keyword text) := by
  have hblank : Balanced " " := by decide
  unfold keyword
  split
  · decide
  · exact h.append hblank

theorem balanced_spaced (h : Balanced text) : Balanced (spaced text) := by
  have hblank : Balanced " " := by decide
  unfold spaced
  split
  · decide
  · exact hblank.append h

theorem balanced_staticWord (isStatic : Bool) : Balanced (staticWord isStatic) := by
  cases isStatic <;> decide

theorem balanced_commaList (h : ∀ item ∈ items, Balanced item) : Balanced (commaList items) := by
  have hcomma : Balanced ", " := by decide
  unfold commaList
  induction items with
  | nil => decide
  | cons item rest ih =>
      obtain ⟨hitem, hrest⟩ := List.forall_mem_cons.mp h
      by_cases hlast : rest = []
      · simpa [hlast] using hitem
      · rw [String.intercalate_cons_of_ne_nil hlast]
        exact (hitem.append hcomma).append (ih hrest)

end Layout

/-- The line opens a curly bracket and closes all others. -/
def Opens (line : String) : Prop :=
  openAfter [] line = some ['\x7b']

def Closes (line : String) : Prop :=
  openAfter ['\x7b'] line = some []

instance (line : String) : Decidable (Opens line) :=
  inferInstanceAs (Decidable (_ = _))

theorem openAfter_of_opens (h : Opens text) (stack : List Char) :
    openAfter stack text = some ('\x7b' :: stack) :=
  readBrackets_append_base h stack

theorem openAfter_of_closes (h : Closes text) (stack : List Char) :
    openAfter ('\x7b' :: stack) text = some stack :=
  readBrackets_append_base h stack

theorem Balanced.opens (h : Balanced text) : Opens (text ++ " \x7b") := by
  rw [Opens, openAfter_append, openAfter_of_balanced h]
  decide

theorem closes_tab (level : Nat) : Closes (Layout.tab level ++ "\x7d") := by
  rw [Closes, openAfter_append, openAfter_of_balanced (Layout.balanced_tab level)]
  decide

/-- The brackets that are open after some lines. -/
def openAfterLines (stack : List Char) (lines : List String) : Option (List Char) :=
  lines.foldlM openAfter stack

def BalancedLines (lines : List String) : Prop :=
  openAfterLines [] lines = some []

instance (lines : List String) : Decidable (BalancedLines lines) :=
  inferInstanceAs (Decidable (_ = _))

variable {lines before after : List String}

theorem openAfterLines_nil (stack : List Char) : openAfterLines stack [] = some stack :=
  rfl

theorem openAfterLines_cons (stack : List Char) (line : String) (rest : List String) :
    openAfterLines stack (line :: rest) =
      (openAfter stack line).bind fun later => openAfterLines later rest :=
  List.foldlM_cons

theorem openAfterLines_append (stack : List Char) (before after : List String) :
    openAfterLines stack (before ++ after) =
      (openAfterLines stack before).bind fun later => openAfterLines later after :=
  List.foldlM_append

/-- A line feed between two lines is no bracket. -/
theorem openAfter_joinLines (stack : List Char) (lines : List String) :
    openAfter stack (Layout.joinLines lines) = openAfterLines stack lines := by
  have hfeed : Balanced "\n" := by decide
  induction lines generalizing stack with
  | nil => rfl
  | cons line rest ih =>
      rw [openAfterLines_cons]
      by_cases hlast : rest = []
      · subst hlast
        simp [Layout.joinLines, openAfterLines_nil]
      · rw [Layout.joinLines, String.intercalate_cons_of_ne_nil hlast, openAfter_append,
          openAfter_append]
        simp only [openAfter_of_balanced hfeed, Option.bind_fun_some]
        exact congrArg _ (funext ih)

theorem BalancedLines.balanced_joinLines (h : BalancedLines lines) :
    Balanced (Layout.joinLines lines) := by
  rw [Balanced, openAfter_joinLines]
  exact h

theorem openAfterLines_of_balanced (h : BalancedLines lines) (stack : List Char) :
    openAfterLines stack lines = some stack := by
  rw [← openAfter_joinLines]
  exact openAfter_of_balanced h.balanced_joinLines stack

theorem balancedLines_of_forall (h : ∀ line ∈ lines, Balanced line) : BalancedLines lines := by
  induction lines with
  | nil => rfl
  | cons line rest ih =>
      obtain ⟨hline, hrest⟩ := List.forall_mem_cons.mp h
      rw [BalancedLines, openAfterLines_cons, openAfter_of_balanced hline]
      exact ih hrest

theorem Balanced.line (h : Balanced text) : BalancedLines [text] :=
  balancedLines_of_forall (List.forall_mem_singleton.mpr h)

theorem BalancedLines.append (hbefore : BalancedLines before) (hafter : BalancedLines after) :
    BalancedLines (before ++ after) := by
  rw [BalancedLines, openAfterLines_append, openAfterLines_of_balanced hbefore]
  exact hafter

/-- Lines between one that opens a bracket and one that closes it. -/
theorem BalancedLines.block {first last : String} (hfirst : Opens first)
    (hbetween : BalancedLines lines) (hlast : Closes last) :
    BalancedLines ([first] ++ lines ++ [last]) := by
  rw [BalancedLines, openAfterLines_append, openAfterLines_append, openAfterLines_cons,
    openAfter_of_opens hfirst]
  simp only [openAfterLines_nil, Option.bind_some, openAfterLines_of_balanced hbetween,
    openAfterLines_cons, openAfter_of_closes hlast]

/-- The text from the end of the first line to the beginning of the last one. -/
theorem exists_joinLines_eq_append (first last : String) (h : BalancedLines lines) :
    ∃ inner, Layout.joinLines ([first] ++ lines ++ [last]) = first ++ inner ++ last ∧
      Balanced inner := by
  have hfeed : Balanced "\n" := by decide
  by_cases hempty : lines = []
  · subst hempty
    exact ⟨"\n", by simp [Layout.joinLines, String.intercalate_cons_of_ne_nil], hfeed⟩
  · refine ⟨"\n" ++ Layout.joinLines lines ++ "\n", ?_,
      (hfeed.append h.balanced_joinLines).append hfeed⟩
    rw [Layout.joinLines, String.intercalate_append_of_ne_nil (by simp) (by simp),
      String.intercalate_append_of_ne_nil (by simp) hempty]
    simp [Layout.joinLines, String.append_assoc]

end Understudy
