import Understudy.Proofs.Text.Erase
import Understudy.Proofs.Text.Words

/-!
# Maximal runs

The fields of a text are its maximal runs of characters that separate nothing (`mem_fields_iff`).
They are found side by side in texts with a separator between them, and blanks at the ends make no
difference. A fragment that begins and ends with separators can be erased without giving rise to a
new run, unless a run goes on into the fragment.
-/

namespace Understudy.Text

open scoped List

variable {belongs separates : Char → Bool} {c : Char} {run fragment text left right : List Char}

theorem fields_append_of_head? (h : ∀ c ∈ right.head?, separates c = true) (left : List Char) :
    fields separates (left ++ right) = fields separates left ++ fields separates right := by
  cases right with
  | nil => simp [fields, splitWhere]
  | cons c rest =>
      have hc : separates c = true := h c rfl
      have hnone : fields separates (c :: rest) = fields separates rest :=
        fields_append_cons hc [] rest
      rw [fields_append_cons hc, hnone]

theorem fields_append_of_getLast? (h : ∀ c ∈ left.getLast?, separates c = true)
    (right : List Char) :
    fields separates (left ++ right) = fields separates left ++ fields separates right := by
  rcases List.eq_nil_or_concat left with rfl | ⟨front, c, rfl⟩
  · rfl
  · rw [List.concat_eq_append] at h ⊢
    have hc : separates c = true := h c (by simp)
    have hnone : fields separates (front ++ [c]) = fields separates front := by
      rw [fields_append_cons hc]
      simp [fields, splitWhere]
    rw [List.append_assoc, List.singleton_append, fields_append_cons hc, hnone]

/-- The last word of a text is that of the part behind a blank, if there is a word in it. -/
theorem getLast?_words_append (hleft : ∀ c ∈ left.getLast?, isBlank c = true)
    (hright : words right ≠ []) :
    (words (left ++ right)).getLast? = (words right).getLast? := by
  have hwords : words (left ++ right) = words left ++ words right :=
    fields_append_of_getLast? hleft right
  rw [hwords, List.getLast?_append_of_ne_nil _ hright]

theorem fields_eq_nil (h : ∀ c ∈ text, separates c = true) : fields separates text = [] := by
  induction text with
  | nil => rfl
  | cons c rest ih =>
      obtain ⟨hc, hrest⟩ := List.forall_mem_cons.mp h
      have hnone : fields separates (c :: rest) = fields separates rest :=
        fields_append_cons hc [] rest
      rw [hnone, ih hrest]

/-- What stands around a text and separates is no part of its fields. -/
theorem fields_enclosed (hleft : ∀ c ∈ left, separates c = true)
    (hright : ∀ c ∈ right, separates c = true) (text : List Char) :
    fields separates (left ++ text ++ right) = fields separates text := by
  rw [fields_append_of_head? fun c hc => hright c (List.mem_of_mem_head? hc),
    fields_append_of_getLast? fun c hc => hleft c (List.mem_of_mem_getLast? hc),
    fields_eq_nil hleft, fields_eq_nil hright]
  simp

theorem fields_trim (h : ∀ c, isBlank c = true → separates c = true) (text : List Char) :
    fields separates (trim text) = fields separates text := by
  obtain ⟨before, after, htext, hbefore, hafter⟩ := exists_blanks_trim text
  have henclosed := fields_enclosed (fun c hc => h c (hbefore c hc))
    (fun c hc => h c (hafter c hc)) (trim text)
  rwa [← htext, eq_comm] at henclosed

/-- Characters that belong together, at least one of them, where none stands before and after them
that belongs to them too. -/
structure IsRun (belongs : Char → Bool) (run text : List Char) : Prop where
  ne_nil : run ≠ []
  all_belong : ∀ c ∈ run, belongs c = true
  bounded : ∃ before after, text = before ++ run ++ after ∧
    (∀ c ∈ before.getLast?, belongs c = false) ∧ ∀ c ∈ after.head?, belongs c = false

/-- The first piece begins the text, and any other one follows a separator. -/
theorem exists_splitWhere_eq_cons (separates : Char → Bool) (text : List Char) :
    ∃ first others, splitWhere separates text = first :: others ∧
      (∃ after, text = first ++ after ∧ ∀ c ∈ after.head?, separates c = true) ∧
      ∀ piece ∈ others, ∃ before c after, text = before ++ [c] ++ piece ++ after ∧
        separates c = true ∧ ∀ c ∈ after.head?, separates c = true := by
  induction text with
  | nil => exact ⟨[], [], rfl, ⟨[], rfl, by simp⟩, by simp⟩
  | cons head tail ih =>
      obtain ⟨first, others, hpieces, ⟨rest, htail, hrest⟩, hothers⟩ := ih
      have hlater : ∀ piece ∈ others, ∃ before c after,
          head :: tail = before ++ [c] ++ piece ++ after ∧ separates c = true ∧
            ∀ c ∈ after.head?, separates c = true := by
        intro piece hpiece
        obtain ⟨before, c, after, htext, hc, hafter⟩ := hothers piece hpiece
        exact ⟨head :: before, c, after, by rw [htext]; simp, hc, hafter⟩
      cases hhead : separates head with
      | true =>
          refine ⟨[], first :: others, ?_, ⟨head :: tail, rfl, by simpa using hhead⟩, ?_⟩
          · rw [splitWhere, if_pos hhead, hpieces]
          · refine List.forall_mem_cons.mpr ⟨⟨[], head, rest, ?_, hhead, hrest⟩, hlater⟩
            rw [htail]
            rfl
      | false =>
          refine ⟨head :: first, others, ?_, ⟨rest, by rw [htail]; rfl, hrest⟩, hlater⟩
          rw [splitWhere, hhead, hpieces]
          rfl

theorem mem_fields_iff :
    run ∈ fields (fun c => !belongs c) text ↔ IsRun belongs run text := by
  constructor
  · intro h
    obtain ⟨hpiece, hne⟩ := List.mem_filter.mp h
    obtain ⟨first, others, hpieces, ⟨after, htext, hafter⟩, hothers⟩ :=
      exists_splitWhere_eq_cons (fun c => !belongs c) text
    have hbelongs : ∀ c ∈ run, belongs c = true := fun c hc => by
      simpa using separates_of_mem_splitWhere hpiece hc
    refine ⟨by simpa using hne, hbelongs, ?_⟩
    rw [hpieces] at hpiece
    rcases List.mem_cons.mp hpiece with rfl | hother
    · exact ⟨[], after, htext, by simp, by simpa using hafter⟩
    · obtain ⟨before, c, after, htext, hc, hafter⟩ := hothers run hother
      exact ⟨before ++ [c], after, htext, by simpa using hc, by simpa using hafter⟩
  · rintro ⟨hne, hbelongs, before, after, rfl, hbefore, hafter⟩
    have hself : fields (fun c => !belongs c) run = [run] := by
      rw [fields, splitWhere_eq_singleton (by simpa using hbelongs)]
      simp [hne]
    rw [fields_append_of_head? (by simpa using hafter),
      fields_append_of_getLast? (by simpa using hbefore), hself]
    simp

/-- No run goes on into the fragment. -/
def IsDetached (belongs : Char → Bool) (fragment text : List Char) : Prop :=
  ∀ before c after, text = before ++ c :: (fragment ++ after) → belongs c = false

theorem IsDetached.of_append (h : IsDetached belongs fragment (left ++ right)) :
    IsDetached belongs fragment right := by
  intro before c after hright
  exact h (left ++ before) c after (by rw [hright, List.append_assoc])

theorem isDetached_nil : IsDetached belongs fragment [] := by
  intro before c after htext
  simp at htext

theorem isDetached_cons :
    IsDetached belongs fragment (c :: text) ↔
      (fragment <+: text → belongs c = false) ∧ IsDetached belongs fragment text := by
  constructor
  · intro h
    refine ⟨?_, @IsDetached.of_append belongs fragment [c] text h⟩
    rintro ⟨after, rfl⟩
    exact h [] c after rfl
  · rintro ⟨hhere, hlater⟩ before d after htext
    cases before with
    | nil =>
        obtain ⟨rfl, htail⟩ := List.cons.injEq _ _ _ _ ▸ htext
        exact hhere ⟨after, htail.symm⟩
    | cons first others =>
        obtain ⟨_, htail⟩ := List.cons.injEq _ _ _ _ ▸ htext
        exact hlater others d after htail

instance decidableIsDetached (belongs : Char → Bool) (fragment : List Char) :
    (text : List Char) → Decidable (IsDetached belongs fragment text)
  | [] => isTrue isDetached_nil
  | _ :: rest =>
      have := decidableIsDetached belongs fragment rest
      decidable_of_iff' _ isDetached_cons

/-- A fragment that ends with a separator is erased without a new run. -/
theorem fields_erase_subset (hne : fragment ≠ [])
    (hlast : fragment.getLast?.all (fun c => !belongs c) = true)
    (h : IsDetached belongs fragment text) :
    fields (fun c => !belongs c) (erase fragment text) ⊆ fields (fun c => !belongs c) text := by
  have hseparates : ∀ c ∈ fragment.getLast?, (!belongs c) = true := fun c hc => by
    simpa [Option.mem_def.mp hc] using hlast
  -- what comes before may go on into a character that is kept, but not into the fragment
  have hfrom (front text : List Char) (h : IsDetached belongs fragment (front ++ text)) :
      fields (fun c => !belongs c) (front ++ erase fragment text) ⊆
        fields (fun c => !belongs c) (front ++ text) := by
    induction text using erase_induction hne generalizing front with
    | nil => exact List.Subset.refl _
    | erased rest ih =>
        have hfront : ∀ c ∈ front.getLast?, (!belongs c) = true := by
          intro c hc
          obtain ⟨before, rfl⟩ := List.getLast?_eq_some_iff.mp hc
          simpa using h before c rest (by simp)
        have hrest := ih [] (h.of_append.of_append)
        rw [erase_append hne, fields_append_of_getLast? hfront, fields_append_of_getLast? hfront,
          fields_append_of_getLast? hseparates]
        exact List.append_subset.mpr ⟨List.subset_append_left _ _, fun run hrun =>
          List.mem_append_right _ (List.mem_append_right _ (hrest hrun))⟩
    | kept c rest hnot ih =>
        rw [erase_cons hnot, List.append_cons, List.append_cons front c rest]
        exact ih (front ++ [c]) (by rwa [List.append_assoc])
  exact hfrom [] text h

end Understudy.Text
