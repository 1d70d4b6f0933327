import Mathlib.Data.List.Basic
import Understudy.Text.Split

/-!
# A text with a fragment erased

Where the fragment begins, the whole of it goes, and any other character stays. So what holds of a
text with a fragment erased is shown in three cases, which are those of `erase_induction`.
-/

namespace Understudy.Text

open scoped List

variable {c : Char} {fragment text rest : List Char}

theorem eraseFrom_eq_erase_drop (fragment : List Char) (skip : Nat) (text : List Char) :
    eraseFrom fragment skip text = erase fragment (text.drop skip) := by
  induction text generalizing skip with
  | nil => cases skip <;> rfl
  | cons c rest ih =>
      cases skip with
      | zero => rfl
      | succ skip => rw [eraseFrom, ih, List.drop_succ_cons]

theorem erase_nil (fragment : List Char) : erase fragment [] = [] :=
  rfl

theorem erase_append (hne : fragment ≠ []) (rest : List Char) :
    erase fragment (fragment ++ rest) = erase fragment rest := by
  obtain ⟨first, others, rfl⟩ := List.exists_cons_of_ne_nil hne
  have hhere : (first :: others).isPrefixOf (first :: (others ++ rest)) = true :=
    List.isPrefixOf_iff_prefix.mpr (List.prefix_append (first :: others) rest)
  rw [List.cons_append, erase, eraseFrom, if_pos hhere, eraseFrom_eq_erase_drop]
  simp

theorem erase_cons (h : ¬fragment <+: c :: rest) :
    erase fragment (c :: rest) = c :: erase fragment rest := by
  rw [erase, eraseFrom, if_neg (by rwa [List.isPrefixOf_iff_prefix])]
  rfl

@[elab_as_elim]
theorem erase_induction {motive : List Char → Prop} (hne : fragment ≠ []) (nil : motive [])
    (erased : ∀ rest, motive rest → motive (fragment ++ rest))
    (kept : ∀ c rest, ¬fragment <+: c :: rest → motive rest → motive (c :: rest))
    (text : List Char) : motive text := by
  induction hlength : text.length using Nat.strongRecOn generalizing text with
  | ind length ih =>
      cases text with
      | nil => exact nil
      | cons c rest =>
          by_cases hhere : fragment <+: c :: rest
          · obtain ⟨after, hafter⟩ := hhere
            have hshorter : after.length < length := by
              rw [← hlength, ← hafter, List.length_append]
              exact Nat.lt_add_of_pos_left (List.length_pos_of_ne_nil hne)
            rw [← hafter]
            exact erased after (ih after.length hshorter after rfl)
          · have hshorter : rest.length < length := by
              rw [← hlength, List.length_cons]
              exact Nat.lt_succ_self rest.length
            exact kept c rest hhere (ih rest.length hshorter rest rfl)

/-- Text without the first character of a fragment stays in front of what is erased. -/
theorem erase_append_left (h : c ∉ text) (others rest : List Char) :
    erase (c :: others) (text ++ rest) = text ++ erase (c :: others) rest := by
  induction text with
  | nil => rfl
  | cons d later ih =>
      have hnot : ¬c :: others <+: d :: (later ++ rest) := fun hhere =>
        List.ne_of_not_mem_cons h (List.cons_prefix_cons.mp hhere).1
      rw [List.cons_append, erase_cons hnot, ih (List.not_mem_of_not_mem_cons h), List.cons_append]

/-- A last character that does not end the fragment stays the last one. -/
theorem erase_concat (hne : fragment ≠ []) (h : c ∉ fragment.getLast?) (text : List Char) :
    erase fragment (text ++ [c]) = erase fragment text ++ [c] := by
  have hshorter {front : List Char} (hhere : fragment <+: front ++ [c]) : fragment <+: front := by
    refine (List.prefix_concat_iff.mp hhere).resolve_left fun hwhole => h ?_
    simp [hwhole]
  induction text using erase_induction hne with
  | nil => exact erase_cons fun hhere => hne (List.prefix_nil.mp (hshorter hhere))
  | erased rest ih => rw [List.append_assoc, erase_append hne, erase_append hne, ih]
  | kept d rest hnot ih =>
      have hlonger : ¬fragment <+: d :: (rest ++ [c]) := fun hhere => hnot (hshorter hhere)
      rw [List.cons_append, erase_cons hlonger, erase_cons hnot, ih, List.cons_append]

theorem erase_sublist (hne : fragment ≠ []) (text : List Char) : erase fragment text <+ text := by
  induction text using erase_induction hne with
  | nil => exact List.nil_sublist []
  | erased rest ih =>
      rw [erase_append hne]
      exact ih.trans (List.sublist_append_right fragment rest)
  | kept c rest hnot ih =>
      rw [erase_cons hnot]
      exact ih.cons_cons c

end Understudy.Text
