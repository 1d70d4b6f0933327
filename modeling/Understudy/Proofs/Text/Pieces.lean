import Understudy.Proofs.Text.Depth
import Understudy.Proofs.Text.Erase

/-!
# The pieces of a text

The net depth of a text is the number of its opening brackets less that of its closing ones, once
the arrows are erased. The pieces of a text with the separators between them are the text again, no
piece is split any further, and a separator between a text of net depth zero and another one splits
them apart (`splitTopLevel_recomposes`).
-/

namespace Understudy.Text

open scoped List

variable {separator c : Char} {depth : Int} {previous : Option Char} {text : List Char}

/-- The text without the angles of its arrows, which are no brackets. -/
def withoutArrows (text : List Char) : List Char :=
  erase "->".toList text

theorem head?_ne_of_no_arrow {rest : List Char} (h : ¬"->".toList <+: c :: rest) :
    some c = some '-' → rest.head? ≠ some '>' := by
  rintro hdash hangle
  obtain ⟨later, rfl⟩ := List.head?_eq_some_iff.mp hangle
  cases hdash
  exact h ⟨later, rfl⟩

theorem depthAfter_of_no_arrow (h : previous = some '-' → c ≠ '>') (depth : Int) :
    depthAfter depth previous c =
      depth + (if isOpening c then 1 else 0) - if isClosing c then 1 else 0 := by
  have harrow : (c == '>' && previous == some '-') = false := by
    by_cases hdash : previous = some '-'
    · simp [h hdash]
    · simp [hdash]
  have hnot : isOpening c = true → isClosing c = false := by
    intro hopening
    simp only [isOpening, Bool.or_eq_true, beq_iff_eq] at hopening
    rcases hopening with ((rfl | rfl) | rfl) | rfl <;> rfl
  rw [depthAfter, harrow]
  cases hopening : isOpening c with
  | true => simp [hnot hopening]
  | false => cases isClosing c <;> simp

theorem depthFrom_eq_countP (h : previous = some '-' → text.head? ≠ some '>') :
    depthFrom depth previous text = depth + (withoutArrows text).countP isOpening -
      (withoutArrows text).countP isClosing := by
  have hne : "->".toList ≠ [] := by decide
  induction text using erase_induction hne generalizing depth previous with
  | nil => simp [withoutArrows, erase_nil, depthFrom]
  | erased rest ih =>
      have hpasses : depthFrom depth previous ("->".toList ++ rest) =
          depthFrom depth (some '>') rest := by
        simp [depthFrom, depthAfter, isOpening, isClosing]
      rw [withoutArrows, erase_append hne, hpasses, ih (by simp)]
      rfl
  | kept c rest hnot ih =>
      rw [withoutArrows, erase_cons hnot, depthFrom, ih (head?_ne_of_no_arrow hnot),
        depthAfter_of_no_arrow (by simpa using h), List.countP_cons, List.countP_cons,
        withoutArrows]
      split <;> split <;> omega

/-- As many brackets are opened in the text as are closed. -/
theorem netDepth_eq_zero_iff :
    netDepth text = 0 ↔
      (withoutArrows text).countP isOpening = (withoutArrows text).countP isClosing := by
  rw [netDepth, depthFrom_eq_countP (by simp)]
  omega

/-- A text is one piece if every separator in it stands inside brackets. -/
theorem splitTopLevelFrom_eq_singleton (hplain : isUnmarked separator = true)
    (h : previous = some '-' → text.head? ≠ some '>')
    (hinside : ∀ before after, withoutArrows text = before ++ separator :: after →
      depth + before.countP isOpening - before.countP isClosing ≠ 0) :
    splitTopLevelFrom separator depth previous text = [text] := by
  obtain ⟨_, _, hdash⟩ := isUnmarked_iff.mp hplain
  have hne : "->".toList ≠ [] := by decide
  induction text using erase_induction hne generalizing depth previous with
  | nil => rfl
  | erased rest ih =>
      have hrest : splitTopLevelFrom separator depth (some '>') rest = [rest] :=
        ih (by simp) (by rwa [withoutArrows, erase_append hne] at hinside)
      have hdepth : depthAfter depth previous '-' = depth ∧
          depthAfter depth (some '-') '>' = depth := by
        simp [depthAfter, isOpening, isClosing]
      have harrow : "->".toList ++ rest = '-' :: '>' :: rest := rfl
      rw [harrow, splitTopLevelFrom_cons_of_not_splitsHere (by simp [splitsHere, hdash.symm]),
        hdepth.1, splitTopLevelFrom_cons_of_not_splitsHere (by simp [splitsHere]),
        hdepth.2, hrest]
      rfl
  | kept c rest hnot ih =>
      have hcons : withoutArrows (c :: rest) = c :: withoutArrows rest := erase_cons hnot
      have hsplits : splitsHere separator depth previous c = false := by
        by_cases hc : c = separator
        · have hdepth := hinside [] (withoutArrows rest) (by rw [hcons, hc]; rfl)
          have hdeep : depth ≠ 0 := by simpa using hdepth
          simp [splitsHere, hdeep]
        · simp [splitsHere, hc]
      have hrest : splitTopLevelFrom separator (depthAfter depth previous c) (some c) rest =
          [rest] := by
        refine ih (head?_ne_of_no_arrow hnot) fun before after hafter => ?_
        have hhere := hinside (c :: before) after (by rw [hcons, hafter, List.cons_append])
        rw [List.countP_cons, List.countP_cons] at hhere
        rw [depthAfter_of_no_arrow (by simpa using h)]
        split_ifs at hhere ⊢ <;> omega
      rw [splitTopLevelFrom_cons_of_not_splitsHere hsplits, hrest]
      rfl

/-- A separator that counts is no bracket, so depth zero is kept. -/
theorem depthAfter_of_splitsHere (h : splitsHere separator depth previous c = true) :
    depthAfter depth previous c = 0 ∧ c = separator := by
  simp only [splitsHere, Bool.and_eq_true, beq_iff_eq, Bool.not_eq_true'] at h
  obtain ⟨⟨⟨⟨hc, hdepth⟩, hopening⟩, _⟩, hclosing⟩ := h
  exact ⟨by simp [depthAfter, hopening, hclosing, hdepth], hc⟩

theorem intercalate_prepend (separator text : List Char) {pieces : List (List Char)}
    (h : pieces ≠ []) :
    separator.intercalate (prepend text pieces) = text ++ separator.intercalate pieces := by
  obtain ⟨piece, others, rfl⟩ := List.exists_cons_of_ne_nil h
  cases others with
  | nil => simp [prepend]
  | cons next rest => simp [prepend, List.intercalate_cons_cons]

theorem intercalate_splitTopLevelFrom (separator : Char) (depth : Int) (previous : Option Char)
    (text : List Char) :
    [separator].intercalate (splitTopLevelFrom separator depth previous text) = text := by
  induction text generalizing depth previous with
  | nil => simp [splitTopLevelFrom]
  | cons c rest ih =>
      have hne := splitTopLevelFrom_ne_nil separator (depthAfter depth previous c) (some c) rest
      cases hsplits : splitsHere separator depth previous c with
      | true =>
          obtain ⟨_, hc⟩ := depthAfter_of_splitsHere hsplits
          obtain ⟨piece, others, hpieces⟩ := List.exists_cons_of_ne_nil hne
          have hlater := ih (depthAfter depth previous c) (some c)
          rw [splitTopLevelFrom, if_pos hsplits]
          rw [hpieces] at hlater ⊢
          rw [List.intercalate_cons_cons, hlater, hc]
          rfl
      | false =>
          rw [splitTopLevelFrom_cons_of_not_splitsHere hsplits, intercalate_prepend _ _ hne, ih]
          rfl

/-- The first piece is read from where the text is, and all others from depth zero. -/
theorem splitTopLevelFrom_pieces (hdash : separator ≠ '-') :
    ∃ first others, splitTopLevelFrom separator depth previous text = first :: others ∧
      splitTopLevelFrom separator depth previous first = [first] ∧
        ∀ piece ∈ others, splitTopLevel separator piece = [piece] := by
  induction text generalizing depth previous with
  | nil => exact ⟨[], [], rfl, rfl, by simp⟩
  | cons c rest ih =>
      obtain ⟨first, others, hpieces, hfirst, hothers⟩ :=
        @ih (depthAfter depth previous c) (some c)
      cases hsplits : splitsHere separator depth previous c with
      | true =>
          obtain ⟨hzero, rfl⟩ := depthAfter_of_splitsHere hsplits
          have hpiece : splitTopLevel c first = [first] := by
            rwa [hzero, splitTopLevelFrom_of_ne_dash (by simpa using hdash)] at hfirst
          refine ⟨[], first :: others, ?_, rfl, List.forall_mem_cons.mpr ⟨hpiece, hothers⟩⟩
          rw [splitTopLevelFrom, if_pos hsplits, hpieces]
      | false =>
          refine ⟨c :: first, others, ?_, ?_, hothers⟩
          · rw [splitTopLevelFrom_cons_of_not_splitsHere hsplits, hpieces]
            rfl
          · rw [splitTopLevelFrom_cons_of_not_splitsHere hsplits, hfirst]
            rfl

theorem splitTopLevel_of_mem {piece : List Char} (hdash : separator ≠ '-')
    (h : piece ∈ splitTopLevel separator text) : splitTopLevel separator piece = [piece] := by
  obtain ⟨first, others, hpieces, hfirst, hothers⟩ := splitTopLevelFrom_pieces hdash
  rw [splitTopLevel, hpieces] at h
  rcases List.mem_cons.mp h with rfl | hother
  · exact hfirst
  · exact hothers piece hother

/-- **Splitting loses nothing and goes part by part.** The pieces with the separators between them
are the text. A piece is not split again, unless the separator is a dash, which makes an arrow with
an angle after it. A separator that is no bracket either splits two texts apart if in the first one
as many brackets are opened as are closed. -/
theorem splitTopLevel_recomposes (separator : Char) :
    (∀ text, [separator].intercalate (splitTopLevel separator text) = text) ∧
    (separator ≠ '-' → ∀ text, ∀ piece ∈ splitTopLevel separator text,
      splitTopLevel separator piece = [piece]) ∧
    (separator ≠ '-' → isOpening separator = false → isClosing separator = false →
      ∀ left right,
        (withoutArrows left).countP isOpening = (withoutArrows left).countP isClosing →
        splitTopLevel separator (left ++ separator :: right) =
          splitTopLevel separator left ++ splitTopLevel separator right) := by
  refine ⟨intercalate_splitTopLevelFrom separator 0 none, ?_, ?_⟩
  · intro hdash text piece hpiece
    exact splitTopLevel_of_mem hdash hpiece
  · intro hdash hopening hclosing left right hcounts
    exact splitTopLevel_append_of_netDepth (netDepth_eq_zero_iff.mpr hcounts)
      (isUnmarked_iff.mpr ⟨hopening, hclosing, hdash⟩) right

/-- Between closing brackets that are never opened and a later opening one no comma counts, but one
after them does. -/
theorem splitTopLevel_recomposes_of_unevenText :
    ',' ≠ '-' ∧ isOpening ',' = false ∧ isClosing ',' = false ∧
    (withoutArrows "a, (b) -> c>, d, <e".toList).countP isOpening =
      (withoutArrows "a, (b) -> c>, d, <e".toList).countP isClosing ∧
    "a".toList ∈ splitTopLevel ',' "a, (b) -> c>, d, <e".toList ∧
    splitTopLevel ',' "a".toList = ["a".toList] ∧
    splitTopLevel ',' ("a, (b) -> c>, d, <e".toList ++ ',' :: "[f, g], h".toList) =
      ["a".toList, " (b) -> c>, d, <e".toList] ++ ["[f, g]".toList, " h".toList] := by
  obtain ⟨_, hpieces, happend⟩ := splitTopLevel_recomposes ','
  have hdash : ',' ≠ '-' := by decide
  have hcounts : (withoutArrows "a, (b) -> c>, d, <e".toList).countP isOpening =
      (withoutArrows "a, (b) -> c>, d, <e".toList).countP isClosing := by decide
  have hmem : "a".toList ∈ splitTopLevel ',' "a, (b) -> c>, d, <e".toList := by decide
  refine ⟨hdash, rfl, rfl, hcounts, hmem, hpieces hdash _ _ hmem, ?_⟩
  exact (happend hdash rfl rfl _ _ hcounts).trans (by decide)

end Understudy.Text
