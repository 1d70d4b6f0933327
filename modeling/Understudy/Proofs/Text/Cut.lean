import Understudy.Text.Bytes
import Understudy.Text.Split

/-!
# Parts of a text and where they lie

Cutting a text loses nothing, and a fragment is found where it stands if its first character does
not stand before it. No occurrence goes across a character that is not in the fragment. A part of a
slice is a slice itself, whose position is that of the slice and the bytes before the part.
-/

namespace Understudy.Text

open scoped List

variable {fragment text before middle after : List Char} {start stop : Nat}

theorem stop_of_slice? (h : slice? text start stop = some middle) :
    stop = start + byteLength middle := by
  obtain ⟨before, after, _, rfl, rfl⟩ := slice?_eq_some_iff.mp h
  exact byteLength_append before middle

theorem slice?_append (before middle after : List Char) :
    slice? (before ++ middle ++ after) (byteLength before) (byteLength (before ++ middle)) =
      some middle :=
  slice?_eq_some_iff.mpr ⟨before, after, rfl, rfl, rfl⟩

theorem byteLength_le_append (before middle : List Char) :
    byteLength before ≤ byteLength (before ++ middle) := by
  rw [byteLength_append]
  exact Nat.le_add_right _ _

theorem slice?_part (h : slice? text start stop = some (before ++ middle ++ after)) :
    slice? text (start + byteLength before) (start + byteLength before + byteLength middle) =
      some middle := by
  obtain ⟨front, back, rfl, rfl, _⟩ := slice?_eq_some_iff.mp h
  apply slice?_eq_some_iff.mpr
  refine ⟨front ++ before, after ++ back, by simp, byteLength_append front before, ?_⟩
  rw [byteLength_append, byteLength_append]

theorem takeBytes_append (before after : List Char) :
    takeBytes (byteLength before) (before ++ after) = before := by
  induction before with
  | nil =>
      cases after with
      | nil => rfl
      | cons c rest =>
          have hpos : 0 < c.utf8Size := Char.utf8Size_pos c
          rw [List.nil_append, takeBytes, byteLength, if_neg (by omega)]
  | cons c rest ih =>
      rw [List.cons_append, takeBytes, byteLength, if_pos (by omega), Nat.add_sub_cancel_left, ih]

section OtherCharacter

variable {c : Char} {left right : List Char}

/-- A character that is not in a fragment stands outside of every occurrence. -/
theorem prefix_of_prefix_append_cons (hc : c ∉ fragment) (h : fragment <+: left ++ c :: right) :
    fragment <+: left := by
  rcases List.prefix_or_prefix_of_prefix h (List.prefix_append left (c :: right)) with
    hshort | ⟨later, rfl⟩
  · exact hshort
  · rcases List.prefix_cons_iff.mp ((List.prefix_append_right_inj left).mp h) with
      rfl | ⟨others, rfl, _⟩
    · simp
    · simp at hc

theorem infix_of_infix_append_cons (hc : c ∉ fragment) (h : fragment <:+: left ++ c :: right) :
    fragment <:+: left ∨ fragment <:+: right := by
  obtain ⟨before, after, htext⟩ := h
  rw [List.append_assoc] at htext
  rcases List.append_eq_append_iff.mp htext with ⟨later, rfl, hlater⟩ | ⟨later, rfl, hlater⟩
  · have hhere : fragment <+: later ++ c :: right := ⟨after, hlater⟩
    exact .inl ((prefix_of_prefix_append_cons hc hhere).isInfix.trans
      (List.suffix_append before later).isInfix)
  · cases later with
    | nil =>
        have hhere : fragment <+: [] ++ c :: right := ⟨after, hlater.symm⟩
        rw [List.prefix_nil.mp (prefix_of_prefix_append_cons hc hhere)]
        exact .inl List.nil_infix
    | cons first others =>
        obtain ⟨_, rfl⟩ := List.cons.inj hlater
        exact .inr ⟨others, after, List.append_assoc others fragment after⟩

end OtherCharacter

theorem eq_append_of_cutAt? (h : cutAt? fragment text = some (before, after)) :
    text = before ++ fragment ++ after := by
  induction text generalizing before with
  | nil =>
      rw [cutAt?, Option.ite_none_right_eq_some, List.isEmpty_iff] at h
      obtain ⟨rfl, hnil⟩ := h
      cases hnil
      rfl
  | cons c rest ih =>
      rw [cutAt?] at h
      by_cases hhere : fragment.isPrefixOf (c :: rest) = true
      · rw [if_pos hhere] at h
        cases h
        exact (List.prefix_iff_eq_append.mp (List.isPrefixOf_iff_prefix.mp hhere)).symm
      · rw [if_neg hhere] at h
        obtain ⟨⟨front, back⟩, hlater, heq⟩ := Option.map_eq_some_iff.mp h
        cases heq
        rw [ih hlater, List.cons_append, List.cons_append]

theorem contains_eq_true_iff : contains fragment text = true ↔ fragment <:+: text := by
  induction text with
  | nil =>
      rw [contains, cutAt?, List.infix_nil]
      cases fragment <;> simp
  | cons c rest ih =>
      rw [contains, cutAt?, List.infix_cons_iff, ← List.isPrefixOf_iff_prefix]
      by_cases hhere : fragment.isPrefixOf (c :: rest) = true
      · simp [hhere]
      · rw [if_neg hhere, Option.isSome_map, ← contains, ih]
        simp [hhere]

/-- What no occurrence of the fragment begins in stays in front of what is cut. -/
theorem upTo_append_of_no_occurrence
    (h : ∀ later, later ≠ [] → later <:+ before → ¬fragment <+: later ++ text) :
    upTo fragment (before ++ text) = before ++ upTo fragment text := by
  induction before with
  | nil => rfl
  | cons head tail ih =>
      have hnot : ¬fragment.isPrefixOf (head :: (tail ++ text)) = true := by
        rw [List.isPrefixOf_iff_prefix]
        exact h (head :: tail) (List.cons_ne_nil head tail) List.suffix_rfl
      have htail := ih fun later hne hlater =>
        h later hne (hlater.trans (List.suffix_cons head tail))
      rw [upTo] at htail
      rw [List.cons_append, upTo, cutAt?, if_neg hnot, List.cons_append, ← htail]
      cases cutAt? fragment (tail ++ text) <;> rfl

theorem upTo_fragment_append (hne : fragment ≠ []) (text : List Char) :
    upTo fragment (fragment ++ text) = [] := by
  obtain ⟨first, others, rfl⟩ := List.exists_cons_of_ne_nil hne
  have hhere : (first :: others).isPrefixOf (first :: (others ++ text)) = true :=
    List.isPrefixOf_iff_prefix.mpr (List.prefix_append (first :: others) text)
  rw [List.cons_append, upTo, cutAt?, if_pos hhere]

theorem upTo_eq_self_of_not_infix (h : ¬fragment <:+: text) : upTo fragment text = text := by
  have hne : fragment ≠ [] := by
    rintro rfl
    exact h List.nil_infix
  have hkept := @upTo_append_of_no_occurrence fragment [] text fun later _ hlater hhere =>
    h ((List.append_nil later ▸ hhere.isInfix).trans hlater.isInfix)
  have hnil : upTo fragment [] = [] := by
    rw [upTo, cutAt?, if_neg (by simpa using hne)]
  rwa [List.append_nil, hnil, List.append_nil] at hkept

/-- Text without the fragment stays up to a character that is not in the fragment. -/
theorem upTo_append_cons {c : Char} {left : List Char} (h : ¬fragment <:+: left) (hc : c ∉ fragment)
    (right : List Char) :
    upTo fragment (left ++ c :: right) = left ++ c :: upTo fragment right := by
  have hsplit : left ++ c :: right = (left ++ [c]) ++ right := List.append_cons left c right
  rw [hsplit, upTo_append_of_no_occurrence]
  · simp
  · intro later hne hlater hhere
    obtain ⟨rest, rfl, hrest⟩ := (List.suffix_concat_iff.mp hlater).resolve_left hne
    rw [List.append_assoc, List.singleton_append] at hhere
    exact h ((prefix_of_prefix_append_cons hc hhere).isInfix.trans hrest.isInfix)

section FirstCharacter

variable {c : Char} {rest : List Char}

/-- A fragment is found where it stands if its first character does not stand before it. -/
theorem cutAt?_append (hbefore : c ∉ before) :
    cutAt? (c :: rest) (before ++ (c :: rest) ++ after) = some (before, after) := by
  induction before with
  | nil =>
      have hhere : (c :: rest).isPrefixOf (c :: (rest ++ after)) = true :=
        List.isPrefixOf_iff_prefix.mpr (List.prefix_append (c :: rest) after)
      rw [List.nil_append, List.cons_append, cutAt?, if_pos hhere]
      simp
  | cons head tail ih =>
      have hhead : c ≠ head := List.ne_of_not_mem_cons hbefore
      have htail : c ∉ tail := List.not_mem_of_not_mem_cons hbefore
      have hnot : ¬(c :: rest).isPrefixOf (head :: (tail ++ (c :: rest) ++ after)) = true := by
        simp [List.isPrefixOf, hhead]
      rw [List.cons_append, List.cons_append, cutAt?, if_neg hnot, ih htail]
      rfl

theorem cutAt?_eq_none (htext : c ∉ text) : cutAt? (c :: rest) text = none := by
  induction text with
  | nil => rfl
  | cons head tail ih =>
      have hhead : c ≠ head := List.ne_of_not_mem_cons htext
      have htail : c ∉ tail := List.not_mem_of_not_mem_cons htext
      have hnot : ¬(c :: rest).isPrefixOf (head :: tail) = true := by
        simp [List.isPrefixOf, hhead]
      rw [cutAt?, if_neg hnot, ih htail]
      rfl

/-- Text without the first character of a fragment stays in front of what is cut. -/
theorem upTo_append_left (hbefore : c ∉ before) (text : List Char) :
    upTo (c :: rest) (before ++ text) = before ++ upTo (c :: rest) text := by
  refine upTo_append_of_no_occurrence fun later hne hlater hhere => hbefore ?_
  obtain ⟨first, others, rfl⟩ := List.exists_cons_of_ne_nil hne
  obtain rfl : c = first := (List.cons_prefix_cons.mp hhere).1
  exact hlater.subset List.mem_cons_self

theorem upTo_append (hbefore : c ∉ before) :
    upTo (c :: rest) (before ++ (c :: rest) ++ after) = before := by
  rw [upTo, cutAt?_append hbefore]

theorem upTo_eq_self (htext : c ∉ text) : upTo (c :: rest) text = text := by
  rw [upTo, cutAt?_eq_none htext]

end FirstCharacter

end Understudy.Text
