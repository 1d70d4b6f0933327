import Mathlib.Data.List.TakeWhile
import Understudy.Json.Field
import Understudy.Proofs.Json.Tokens

/-!
# What a field holds

Texts, lists of texts, counts and records are read back from the values that write them, and these
values are well-formed.
-/

namespace Understudy

namespace Text

variable {count : Nat}

theorem isDigit_of_mem_toDigits {c : Char} (h : c ∈ Nat.toDigits 10 count) : c.isDigit = true :=
  Nat.isDigit_of_mem_toDigits (by decide) (by decide) h

theorem decimalValue_toDigits (count : Nat) : decimalValue (Nat.toDigits 10 count) = count := by
  have hfold : Nat.ofDigitChars 10 (Nat.toDigits 10 count) 0 = _ := Nat.ofDigitChars_eq_foldl
  rw [Nat.ofDigitChars_ten_toDigits] at hfold
  conv_rhs => rw [hfold]
  rw [decimalValue]
  refine congrArg (fun step => List.foldl step 0 (Nat.toDigits 10 count)) ?_
  funext value c
  rw [Nat.mul_comm]
  rfl

theorem count?_toDigits (h : count < countLimit) : count? (Nat.toDigits 10 count) = some count := by
  have hdigits : (Nat.toDigits 10 count).all Char.isDigit = true :=
    List.all_eq_true.mpr fun _ hc => isDigit_of_mem_toDigits hc
  simp [count?, Nat.toDigits_ne_nil, hdigits, decimalValue_toDigits, h]

/-- Only zero itself is written with a zero in front. -/
theorem head?_toDigits_ne_zero (h : count ≠ 0) : (Nat.toDigits 10 count).head? ≠ some '0' := by
  induction count using Nat.strongRecOn with
  | ind count ih =>
      rcases Nat.lt_or_ge count 10 with hsmall | hlarge
      · rw [Nat.toDigits_of_lt_base hsmall]
        have hdigit : ∀ digit < 10, digit ≠ 0 → [digit.digitChar].head? ≠ some '0' := by decide
        exact hdigit count hsmall h
      · rw [Nat.toDigits_of_base_le (by decide) hlarge,
          List.head?_append_of_ne_nil _ Nat.toDigits_ne_nil]
        exact ih (count / 10) (by omega) (by omega)

end Text

namespace Json

open Text

variable {count : Nat}

theorem isUnsignedNumber_toDigits (count : Nat) :
    isUnsignedNumber (Nat.toDigits 10 count) = true := by
  have hdigits : ∀ c ∈ Nat.toDigits 10 count, c.isDigit = true := fun _ => isDigit_of_mem_toDigits
  have hhead : (Nat.toDigits 10 count).length = 1 ∨ (Nat.toDigits 10 count).head? ≠ some '0' := by
    rcases eq_or_ne count 0 with rfl | hcount
    · exact .inl rfl
    · exact .inr (head?_toDigits_ne_zero hcount)
  simp only [isUnsignedNumber, List.takeWhile_eq_self_iff.mpr hdigits,
    List.dropWhile_eq_nil_iff.mpr hdigits]
  simpa [isFraction, Nat.toDigits_ne_nil] using hhead

theorem isNumber_toDigits (count : Nat) : isNumber (Nat.toDigits 10 count) = true := by
  unfold isNumber
  split
  · next rest heq =>
    have hsign : '-' ∈ Nat.toDigits 10 count := heq ▸ List.mem_cons_self
    exact absurd (isDigit_of_mem_toDigits hsign) (by decide)
  · exact isUnsignedNumber_toDigits count

theorem asCount?_natural (h : count < countLimit) : asCount? (natural count) = some count := by
  change count? (toString count).toList = some count
  rw [Nat.toString_eq_ofList_toDigits, String.toList_ofList, count?_toDigits h]

theorem asText?_text (value : String) : asText? (text value) = some value :=
  textOf?_codesOf value

theorem asTexts?_texts (values : List String) : asTexts? (texts values) = some values := by
  have hmap : (values.map text).mapM asText? = some values := by
    induction values with
    | nil => rfl
    | cons value rest ih => simp [List.mapM_cons, asText?_text, ih]
  exact hmap

theorem noRepeats_iff {names : List String} : noRepeats names = true ↔ names.Nodup := by
  induction names with
  | nil => simp [noRepeats]
  | cons name rest ih => simp [noRepeats, ih]

/-- A record with known fields, none of them twice, is read back field by field. -/
theorem fieldsOf?_record {known : List String} (fields : List (String × Json))
    (hknown : ∀ entry ∈ fields, entry.1 ∈ known) (hnodup : (fields.map Prod.fst).Nodup) :
    fieldsOf? known (record fields) = some fields := by
  have hnamed : (fields.map fun entry => (codesOf entry.1, entry.2)).mapM (fun entry =>
      (textOf? entry.1).map fun name => (name, entry.2)) = some fields := by
    clear hknown hnodup
    induction fields with
    | nil => rfl
    | cons entry rest ih => simp [List.mapM_cons, textOf?_codesOf, ih]
  have hfound : fields.filter (fun entry => known.contains entry.1) = fields :=
    List.filter_eq_self.mpr fun entry hentry => by simpa using hknown entry hentry
  have hfields : fieldsOf? known (record fields) =
      ((fields.map fun entry => (codesOf entry.1, entry.2)).mapM (fun entry =>
        (textOf? entry.1).map fun name => (name, entry.2))).bind fun named =>
          if noRepeats ((named.filter fun entry => known.contains entry.1).map Prod.fst) then
            some (named.filter fun entry => known.contains entry.1)
          else none := rfl
  rw [hfields, hnamed, Option.bind_some, hfound, if_pos (noRepeats_iff.mpr hnodup)]

section Field

variable {α : Type} {fields : List (String × Json)} {name other : String} {value : Json}
  {read : Json → Option α} {default : α}

theorem field_nil : field [] name read default = some default := rfl

theorem field_cons_self : field ((name, value) :: fields) name read default = read value := by
  rw [field, List.lookup_cons_self]

theorem field_cons_of_ne (h : name ≠ other) :
    field ((other, value) :: fields) name read default = field fields name read default := by
  rw [field, field, List.lookup_cons, beq_eq_false_iff_ne.mpr h]

end Field

theorem isValidChar_of_mem_codesOf {value : String} {code : Nat} (h : code ∈ codesOf value) :
    code.isValidChar := by
  obtain ⟨c, _, rfl⟩ := List.mem_map.mp h
  exact c.valid

theorem wellFormed_text (value : String) : (text value).WellFormed :=
  fun _ => isValidChar_of_mem_codesOf

theorem wellFormed_natural (count : Nat) : (natural count).WellFormed := by
  rw [natural, WellFormed, Nat.toString_eq_ofList_toDigits, String.toList_ofList]
  refine ⟨isNumber_toDigits count, fun c hc => endsWord_of_isAlphanum ?_⟩
  simp [Char.isAlphanum, isDigit_of_mem_toDigits hc]

theorem wellFormed_texts (values : List String) : (texts values).WellFormed := by
  rw [texts, WellFormed]
  induction values with
  | nil => trivial
  | cons value rest ih => exact ⟨wellFormed_text value, ih⟩

theorem wellFormed_record {fields : List (String × Json)}
    (h : ∀ entry ∈ fields, entry.2.WellFormed) : (record fields).WellFormed := by
  rw [record, WellFormed]
  induction fields with
  | nil => trivial
  | cons entry rest ih =>
      obtain ⟨hentry, hrest⟩ := List.forall_mem_cons.mp h
      exact ⟨fun _ => isValidChar_of_mem_codesOf, hentry, ih hrest⟩

end Json

end Understudy
