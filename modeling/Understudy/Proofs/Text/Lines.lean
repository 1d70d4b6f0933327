import Understudy.Layout
import Understudy.Proofs.Text.Words

/-!
# Lines

The lines of a text are the pieces between its line feeds, up to the carriage return at the end of
each and an empty piece at the end of the text, which trimming takes away. Lines that are joined are
read back when none of them holds a line feed. A line that is put together from parts holds none if
no part does.
-/

namespace Understudy

open Text
open scoped List

namespace Text

theorem lines_eq_linesOf (text : List Char) :
    lines text = lines.linesOf (splitWhere (· == '\n') text) := by
  cases text <;> rfl

theorem linesOf_append {pieces later : List (List Char)} (hlater : later ≠ []) :
    lines.linesOf (pieces ++ later) = pieces.map dropCarriage ++ lines.linesOf later := by
  induction pieces with
  | nil => rfl
  | cons piece rest ih =>
      rw [List.cons_append, lines.linesOf, ih]
      · rfl
      · exact List.append_ne_nil_of_right_ne_nil rest hlater

/-- The lines of a text that goes on after a line feed. -/
theorem lines_append {left : List Char} (h : left.getLast? = some '\n') (right : List Char) :
    lines (left ++ right) = lines left ++ lines right := by
  obtain ⟨front, rfl⟩ := List.getLast?_eq_some_iff.mp h
  have hsplit (text : List Char) : lines (front ++ '\n' :: text) =
      (splitWhere (· == '\n') front).map dropCarriage ++ lines text := by
    rw [lines_eq_linesOf, @splitWhere_append '\n' (· == '\n') rfl,
      linesOf_append (splitWhere_ne_nil _ _), ← lines_eq_linesOf]
  have hnil : lines [] = [] := rfl
  rw [List.append_assoc, List.singleton_append, hsplit right, hsplit [], hnil, List.append_nil]

theorem trim_dropCarriage (line : List Char) : trim (dropCarriage line) = trim line := by
  cases hcut : stripEnd? ['\r'] line with
  | none => rw [dropCarriage, hcut, Option.getD_none]
  | some before =>
      have hline := stripEnd?_eq_some_iff.mp hcut
      rw [dropCarriage, hcut, Option.getD_some, hline, trim_append_of_isBlank (by decide)]

/-- The trimmed lines of a text are its trimmed pieces, but for an empty one at the end. -/
theorem map_trim_lines (text : List Char) :
    (lines text).map trim = (splitWhere (· == '\n') text).map trim ∨
      (lines text).map trim ++ [[]] = (splitWhere (· == '\n') text).map trim := by
  rw [lines_eq_linesOf]
  obtain ⟨front, last, hpieces⟩ :=
    (List.eq_nil_or_concat' (splitWhere (· == '\n') text)).resolve_left (splitWhere_ne_nil _ _)
  have htrim : (front.map dropCarriage).map trim = front.map trim := by
    simp [trim_dropCarriage]
  rw [hpieces, linesOf_append (List.cons_ne_nil _ _), List.map_append, htrim, List.map_append]
  by_cases hlast : last = []
  · right
    simp [hlast, lines.linesOf, trim, trimStart, trimEnd]
  · left
    simp [hlast, lines.linesOf]

end Text

def OneLine (text : String) : Prop :=
  '\n' ∉ text.toList

instance (text : String) : Decidable (OneLine text) :=
  inferInstanceAs (Decidable ('\n' ∉ text.toList))

variable {text left right : String} {items : List String}

@[simp]
theorem oneLine_append : OneLine (left ++ right) ↔ OneLine left ∧ OneLine right := by
  simp [OneLine, String.toList_append, not_or]

theorem oneLine_ofList_of_subset {part : List Char} (h : OneLine text)
    (hpart : part ⊆ text.toList) :
    OneLine (String.ofList part) := by
  rw [OneLine, String.toList_ofList]
  exact fun hmem => h (hpart hmem)

namespace Layout

@[simp]
theorem oneLine_tab (level : Nat) : OneLine (tab level) := by
  simp [OneLine, tab]

@[simp]
theorem oneLine_keyword : OneLine (keyword text) ↔ OneLine text := by
  unfold keyword
  split
  · next hempty => simp [beq_iff_eq.mp hempty, OneLine]
  · simp [OneLine]

@[simp]
theorem oneLine_spaced : OneLine (spaced text) ↔ OneLine text := by
  unfold spaced
  split
  · next hempty => simp [beq_iff_eq.mp hempty, OneLine]
  · simp [OneLine]

@[simp]
theorem oneLine_staticWord (isStatic : Bool) : OneLine (staticWord isStatic) := by
  cases isStatic <;> decide

theorem oneLine_intercalate {separator : String} (hseparator : OneLine separator)
    (hitems : ∀ item ∈ items, OneLine item) : OneLine (separator.intercalate items) := by
  induction items with
  | nil => simp [OneLine]
  | cons item rest ih =>
      obtain ⟨hitem, hrest⟩ := List.forall_mem_cons.mp hitems
      cases rest with
      | nil => simpa using hitem
      | cons next others =>
          rw [String.intercalate_cons_of_ne_nil (List.cons_ne_nil _ _)]
          simp only [oneLine_append]
          exact ⟨⟨hitem, hseparator⟩, ih hrest⟩

theorem oneLine_commaList (hitems : ∀ item ∈ items, OneLine item) : OneLine (commaList items) :=
  oneLine_intercalate (by decide) hitems

/-- Lines that are joined are read back. -/
theorem splitOn_joinLines {lines : List String} (hne : lines ≠ [])
    (hlines : ∀ line ∈ lines, OneLine line) :
    (joinLines lines).toList.splitOn '\n' = lines.map String.toList := by
  have hjoined : (joinLines lines).toList = ['\n'].intercalate (lines.map String.toList) := by
    rw [joinLines, String.toList_intercalate]
    rfl
  rw [hjoined]
  refine List.splitOn_intercalate '\n' ?_ (by simpa using hne)
  simpa [OneLine] using hlines

end Layout

end Understudy
