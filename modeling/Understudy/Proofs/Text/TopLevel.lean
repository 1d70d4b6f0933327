import Mathlib.Data.List.Basic
import Understudy.Text.TopLevel

/-!
# Texts that are not split

A text passes from a depth on if no separator in it counts there and the depth after it is the one
before it. Such texts can be put together and into brackets, inside which even the separator passes,
so a text is split at the separators that stand between texts that pass at depth zero.
-/

namespace Understudy.Text

variable {separator c : Char} {low depth : Int} {previous : Option Char}
  {text left right : List Char}

/-- The pieces of a text with more characters in front of the first one. -/
def prepend (text : List Char) : List (List Char) → List (List Char)
  | [] => [text]
  | piece :: others => (text ++ piece) :: others

theorem prepend_append (left right : List Char) (pieces : List (List Char)) :
    prepend (left ++ right) pieces = prepend left (prepend right pieces) := by
  cases pieces with
  | nil => rfl
  | cons piece others => simp [prepend]

theorem splitTopLevelFrom_ne_nil (separator : Char) (depth : Int) (previous : Option Char)
    (text : List Char) : splitTopLevelFrom separator depth previous text ≠ [] := by
  cases text with
  | nil => simp [splitTopLevelFrom]
  | cons c rest =>
      rw [splitTopLevelFrom]
      split
      · simp
      · split <;> simp

/-- The character before a text matters only if it is a dash. -/
theorem splitTopLevelFrom_of_ne_dash (h : previous ≠ some '-') (separator : Char) (depth : Int)
    (text : List Char) :
    splitTopLevelFrom separator depth previous text =
      splitTopLevelFrom separator depth none text := by
  have hdash : (previous == some '-') = false := beq_eq_false_iff_ne.mpr h
  have hnone : ((none : Option Char) == some '-') = false := rfl
  cases text with
  | nil => rfl
  | cons c rest => simp only [splitTopLevelFrom, splitsHere, depthAfter, hdash, hnone]

theorem splitTopLevelFrom_cons_of_not_splitsHere
    (h : splitsHere separator depth previous c = false) (rest : List Char) :
    splitTopLevelFrom separator depth previous (c :: rest) =
      prepend [c] (splitTopLevelFrom separator (depthAfter depth previous c) (some c) rest) := by
  rw [splitTopLevelFrom, h]
  cases splitTopLevelFrom separator (depthAfter depth previous c) (some c) rest <;> rfl

theorem mem_of_mem_splitTopLevelFrom {piece : List Char}
    (hpiece : piece ∈ splitTopLevelFrom separator depth previous text) (hc : c ∈ piece) :
    c ∈ text := by
  induction text generalizing depth previous piece with
  | nil =>
      rw [splitTopLevelFrom, List.mem_singleton] at hpiece
      exact hpiece ▸ hc
  | cons head tail ih =>
      rw [splitTopLevelFrom] at hpiece
      split at hpiece
      · rcases List.mem_cons.mp hpiece with rfl | htail
        · simp at hc
        · exact List.mem_cons_of_mem _ (ih htail hc)
      · obtain ⟨first, others, hpieces⟩ := List.exists_cons_of_ne_nil
          (splitTopLevelFrom_ne_nil separator (depthAfter depth previous head) (some head) tail)
        rw [hpieces] at hpiece
        rcases List.mem_cons.mp hpiece with rfl | hother
        · rcases List.mem_cons.mp hc with rfl | hfirst
          · exact List.mem_cons_self
          · exact List.mem_cons_of_mem _ (ih (hpieces ▸ List.mem_cons_self) hfirst)
        · exact List.mem_cons_of_mem _ (ih (hpieces ▸ List.mem_cons_of_mem _ hother) hc)

/-- The last piece ends as the text does, unless with a separator. -/
theorem exists_splitTopLevelFrom_concat (hc : c ≠ separator) (depth : Int)
    (previous : Option Char) (text : List Char) :
    ∃ front last, splitTopLevelFrom separator depth previous (text ++ [c]) =
      front ++ [last ++ [c]] := by
  induction text generalizing depth previous with
  | nil =>
      refine ⟨[], [], ?_⟩
      rw [List.nil_append, splitTopLevelFrom_cons_of_not_splitsHere (by simp [splitsHere, hc])]
      rfl
  | cons head tail ih =>
      obtain ⟨front, last, hpieces⟩ := ih (depthAfter depth previous head) (some head)
      rw [List.cons_append, splitTopLevelFrom, hpieces]
      split
      · exact ⟨[] :: front, last, rfl⟩
      · cases front with
        | nil => exact ⟨[], head :: last, rfl⟩
        | cons first others => exact ⟨(head :: first) :: others, last, rfl⟩

/-- Neither a bracket nor a dash, which could make an arrow. -/
def isUnmarked (c : Char) : Bool :=
  !isOpening c && !isClosing c && c != '-'

theorem isUnmarked_iff :
    isUnmarked c = true ↔ isOpening c = false ∧ isClosing c = false ∧ c ≠ '-' := by
  simp [isUnmarked, and_assoc]

/-- From a depth on, no separator in the text counts, and the depth after it is the one before. -/
def Passes (separator : Char) (low : Int) (text : List Char) : Prop :=
  ∀ depth rest, low ≤ depth →
    splitTopLevelFrom separator depth none (text ++ rest) =
      prepend text (splitTopLevelFrom separator depth none rest)

namespace Passes

theorem nil (separator : Char) (low : Int) : Passes separator low [] := by
  intro depth rest _
  obtain ⟨piece, others, hpieces⟩ :=
    List.exists_cons_of_ne_nil (splitTopLevelFrom_ne_nil separator depth none rest)
  rw [List.nil_append, hpieces]
  rfl

theorem append (hleft : Passes separator low left) (hright : Passes separator low right) :
    Passes separator low (left ++ right) := by
  intro depth rest hdepth
  rw [List.append_assoc, hleft depth _ hdepth, hright depth rest hdepth, prepend_append]

theorem mono {high : Int} (h : Passes separator low text) (hle : low ≤ high) :
    Passes separator high text :=
  fun depth rest hdepth => h depth rest (Int.le_trans hle hdepth)

/-- Unmarked characters pass; the separator does so only inside brackets. -/
theorem of_unmarked (h : text.all isUnmarked = true) (hseparator : 0 < low ∨ separator ∉ text) :
    Passes separator low text := by
  induction text with
  | nil => exact nil separator low
  | cons c tail ih =>
      rw [List.all_cons, Bool.and_eq_true] at h
      obtain ⟨hopening, hclosing, hdash⟩ := isUnmarked_iff.mp h.1
      have hlater : 0 < low ∨ separator ∉ tail :=
        hseparator.imp_right List.not_mem_of_not_mem_cons
      intro depth rest hdepth
      have hdepthAfter : depthAfter depth none c = depth := by
        simp [depthAfter, hopening, hclosing]
      have hsplits : splitsHere separator depth none c = false := by
        rcases hseparator with hlow | hnot
        · have hpositive : (depth == 0) = false := by
            rw [beq_eq_false_iff_ne]
            omega
          simp [splitsHere, hpositive]
        · have hother : (c == separator) = false :=
            beq_eq_false_iff_ne.mpr (List.ne_of_not_mem_cons hnot).symm
          simp [splitsHere, hother]
      rw [List.cons_append, splitTopLevelFrom_cons_of_not_splitsHere hsplits, hdepthAfter,
        splitTopLevelFrom_of_ne_dash (by simpa using hdash), ih h.2 hlater depth rest hdepth,
        ← prepend_append]
      rfl

theorem blank (low : Int) (hseparator : separator ≠ ' ') : Passes separator low [' '] :=
  .of_unmarked (by decide) (.inr (by simpa using hseparator))

/-- A text in brackets passes where it passes one level below. -/
theorem brackets {opening closing : Char} (hopening : isOpening opening = true)
    (hclosing : isOpening closing = false ∧ isClosing closing = true)
    (h : Passes separator (low + 1) text) :
    Passes separator low (opening :: text ++ [closing]) := by
  intro depth rest hdepth
  have hdashOpening : some opening ≠ some '-' := by
    rintro hdash
    cases hdash
    exact absurd hopening (by decide)
  have hdashClosing : some closing ≠ some '-' := by
    rintro hdash
    cases hdash
    exact absurd hclosing.2 (by decide)
  have hopens : depthAfter depth none opening = depth + 1 := by simp [depthAfter, hopening]
  have hcloses : depthAfter (depth + 1) none closing = depth := by
    simp [depthAfter, hclosing.1, hclosing.2]
  rw [List.cons_append, List.cons_append, List.append_assoc, List.singleton_append,
    splitTopLevelFrom_cons_of_not_splitsHere (by simp [splitsHere, hopening]), hopens,
    splitTopLevelFrom_of_ne_dash hdashOpening, h (depth + 1) _ (by omega),
    splitTopLevelFrom_cons_of_not_splitsHere (by simp [splitsHere, hclosing.2]), hcloses,
    splitTopLevelFrom_of_ne_dash hdashClosing, ← prepend_append, ← prepend_append]
  simp

/-- The angle of an arrow is no bracket. -/
theorem arrow (hseparator : separator ∉ " -> ".toList) : Passes separator low " -> ".toList := by
  obtain ⟨hblank, hdash, hangle, _⟩ :
      separator ≠ ' ' ∧ separator ≠ '-' ∧ separator ≠ '>' ∧ separator ≠ ' ' := by
    simpa using hseparator
  intro depth rest _
  have hsplits (previous : Option Char) {c : Char} (hc : separator ≠ c) :
      splitsHere separator depth previous c = false := by
    simp [splitsHere, hc.symm]
  obtain ⟨hfirst, hsecond, hthird, hfourth⟩ : depthAfter depth none ' ' = depth ∧
      depthAfter depth (some ' ') '-' = depth ∧ depthAfter depth (some '-') '>' = depth ∧
      depthAfter depth (some '>') ' ' = depth := by
    simp [depthAfter, isOpening, isClosing]
  have htext : " -> ".toList ++ rest = ' ' :: '-' :: '>' :: ' ' :: rest := rfl
  rw [htext, splitTopLevelFrom_cons_of_not_splitsHere (hsplits none hblank), hfirst,
    splitTopLevelFrom_cons_of_not_splitsHere (hsplits _ hdash), hsecond,
    splitTopLevelFrom_cons_of_not_splitsHere (hsplits _ hangle), hthird,
    splitTopLevelFrom_cons_of_not_splitsHere (hsplits _ hblank), hfourth,
    splitTopLevelFrom_of_ne_dash (by decide), ← prepend_append, ← prepend_append, ← prepend_append]
  rfl

/-- A text that passes is one piece. -/
theorem splitTopLevel_eq_singleton (h : Passes separator 0 text) :
    splitTopLevel separator text = [text] := by
  have hpieces := h 0 [] (Int.le_refl 0)
  rw [List.append_nil] at hpieces
  rw [splitTopLevel, hpieces]
  simp [splitTopLevelFrom, prepend]

/-- The text is split at the separator after a text that passes. -/
theorem splitTopLevel_append (h : Passes separator 0 text)
    (hplain : isUnmarked separator = true) (rest : List Char) :
    splitTopLevel separator (text ++ separator :: rest) = text :: splitTopLevel separator rest := by
  obtain ⟨hopening, hclosing, hdash⟩ := isUnmarked_iff.mp hplain
  have hsplits : splitsHere separator 0 none separator = true := by
    simp [splitsHere, hopening, hclosing]
  have hdepth : depthAfter 0 none separator = 0 := by
    simp [depthAfter, hopening, hclosing]
  rw [splitTopLevel, h 0 _ (Int.le_refl 0), splitTopLevelFrom, if_pos hsplits, hdepth,
    splitTopLevelFrom_of_ne_dash (by simpa using hdash)]
  simp [prepend, splitTopLevel]

end Passes

/-- The items as the language writes them, each but the first after a comma and a blank. -/
def spacedItems (items : List (List Char)) : List Char :=
  ", ".toList.intercalate items

theorem spacedItems_cons_cons (item next : List Char) (others : List (List Char)) :
    spacedItems (item :: next :: others) = item ++ ',' :: ' ' :: spacedItems (next :: others) := by
  simp [spacedItems, List.intercalate_cons_cons]

/-- Inside brackets items pass with what stands between them. -/
theorem Passes.spacedItems {items : List (List Char)} (hlow : 0 < low)
    (h : ∀ item ∈ items, Passes separator low item) :
    Passes separator low (spacedItems items) := by
  have hbetween : Passes separator low [',', ' '] := .of_unmarked (by decide) (.inl hlow)
  induction items with
  | nil => exact .nil separator low
  | cons item others ih =>
      obtain ⟨hitem, hothers⟩ := List.forall_mem_cons.mp h
      cases others with
      | nil => simpa [Text.spacedItems] using hitem
      | cons next rest =>
          rw [spacedItems_cons_cons]
          exact hitem.append (hbetween.append (ih hothers))

theorem mem_spacedItems {items : List (List Char)} (h : c ∈ spacedItems items) :
    c ∈ ", ".toList ∨ ∃ item ∈ items, c ∈ item := by
  induction items with
  | nil => simp [spacedItems] at h
  | cons item others ih =>
      cases others with
      | nil => exact .inr ⟨item, List.mem_cons_self, by simpa [spacedItems] using h⟩
      | cons next rest =>
          have htext : spacedItems (item :: next :: rest) =
              item ++ (", ".toList ++ spacedItems (next :: rest)) := spacedItems_cons_cons ..
          rw [htext, List.mem_append, List.mem_append] at h
          rcases h with hitem | hmark | hothers
          · exact .inr ⟨item, List.mem_cons_self, hitem⟩
          · exact .inl hmark
          · refine (ih hothers).imp_right fun ⟨other, hother, hmem⟩ => ?_
            exact ⟨other, List.mem_cons_of_mem item hother, hmem⟩

theorem splitTopLevel_spacedItems {item : List Char} {others : List (List Char)}
    (h : ∀ piece ∈ item :: others, Passes ',' 0 piece) :
    splitTopLevel ',' (spacedItems (item :: others)) = item :: others.map (' ' :: ·) := by
  have hblank : Passes ',' 0 [' '] := .blank 0 (by decide)
  -- a piece after a comma keeps its blank
  have hlater {front item : List Char} {others : List (List Char)} (hfront : Passes ',' 0 front)
      (h : ∀ piece ∈ item :: others, Passes ',' 0 piece) :
      splitTopLevel ',' (front ++ spacedItems (item :: others)) =
        (front ++ item) :: others.map (' ' :: ·) := by
    induction others generalizing front item with
    | nil =>
        have hitem := hfront.append (h item List.mem_cons_self)
        simpa [spacedItems] using hitem.splitTopLevel_eq_singleton
    | cons next rest ih =>
        obtain ⟨hitem, hothers⟩ := List.forall_mem_cons.mp h
        have htail := ih hblank hothers
        rw [spacedItems_cons_cons, ← List.append_assoc,
          (hfront.append hitem).splitTopLevel_append (by decide)]
        exact congrArg ((front ++ item) :: ·) htail
  exact hlater (.nil ',' 0) h

end Understudy.Text
