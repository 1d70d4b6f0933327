import Mathlib.Data.List.Basic
import Understudy.Text.LetterCase
import Understudy.Text.Split

/-!
# Identifiers and capital forms

An identifier is made of letters, numerals and underscores and begins with no numeral. The capital
form of a letter may hold other characters, namely combining marks, but no space and no line feed.
-/

namespace Understudy.Text

variable {c d : Char} {text word piece : List Char}

def isNumeral (c : Char) : Bool :=
  if isAscii c then c.isDigit else inRanges numeralRanges c

/-- Letters, numerals and underscores alone. -/
def isPlain (text : List Char) : Bool :=
  text.all isIdentifierChar

def isIdentifier (text : List Char) : Bool :=
  !text.isEmpty && isPlain text && !text.head?.any isNumeral

theorem isPlain_iff : isPlain text = true ↔ ∀ c ∈ text, isIdentifierChar c = true :=
  List.all_eq_true

theorem isIdentifier_append {left : List Char} (hleft : left ≠ []) (right : List Char) :
    isIdentifier (left ++ right) = true ↔ isIdentifier left = true ∧ isPlain right = true := by
  obtain ⟨first, rest, rfl⟩ := List.exists_cons_of_ne_nil hleft
  simp only [isIdentifier, isPlain, List.cons_append, List.all_cons, List.all_append,
    List.isEmpty_cons, List.head?_cons, Option.any_some, Bool.and_eq_true]
  tauto

theorem isPlain_of_isIdentifier (h : isIdentifier text = true) : isPlain text = true := by
  simp only [isIdentifier, Bool.and_eq_true] at h
  exact h.1.2

theorem ne_nil_of_isIdentifier (h : isIdentifier text = true) : text ≠ [] := by
  rintro rfl
  exact Bool.false_ne_true h

theorem exists_cons_of_isIdentifier (h : isIdentifier text = true) :
    ∃ c rest, text = c :: rest ∧ isIdentifierChar c = true := by
  obtain ⟨c, rest, rfl⟩ := List.exists_cons_of_ne_nil (ne_nil_of_isIdentifier h)
  exact ⟨c, rest, rfl, isPlain_iff.mp (isPlain_of_isIdentifier h) c List.mem_cons_self⟩

theorem of_isAscii {P : Char → Prop} (h : ∀ code < 128, P (Char.ofNat code))
    (hc : isAscii c = true) : P c := by
  have hcode := h c.toNat (by simpa [isAscii] using hc)
  rwa [Char.ofNat_toNat] at hcode

theorem isIdentifierChar_of_isDigit (h : c.isDigit = true) : isIdentifierChar c = true := by
  have hcode : 48 ≤ c.toNat ∧ c.toNat ≤ 57 := by
    simpa [Char.isDigit, UInt32.le_iff_toNat_le] using h
  have hascii : isAscii c = true := decide_eq_true (by omega)
  revert h
  exact of_isAscii (P := fun c => c.isDigit = true → isIdentifierChar c = true) (by decide) hascii

def blankCodes : List Nat :=
  [0x9, 0xA, 0xB, 0xC, 0xD, 0x20, 0x85, 0xA0, 0x1680, 0x2000, 0x2001, 0x2002, 0x2003, 0x2004,
    0x2005, 0x2006, 0x2007, 0x2008, 0x2009, 0x200A, 0x2028, 0x2029, 0x202F, 0x205F, 0x3000]

theorem toNat_mem_blankCodes (h : isBlank c = true) : c.toNat ∈ blankCodes := by
  simp only [isBlank, Bool.or_eq_true, Bool.and_eq_true, decide_eq_true_eq, beq_iff_eq] at h
  simp only [blankCodes, List.mem_cons, List.not_mem_nil, or_false]
  omega

theorem of_isBlank {P : Char → Prop} (h : ∀ code ∈ blankCodes, P (Char.ofNat code))
    (hc : isBlank c = true) : P c := by
  have hcode := h c.toNat (toNat_mem_blankCodes hc)
  rwa [Char.ofNat_toNat] at hcode

theorem isBlank_eq_false_of {P : Char → Bool} (hP : isBlank c = true → P c = false)
    (h : P c = true) : isBlank c = false := by
  by_contra hblank
  rw [hP (Bool.of_not_eq_false hblank)] at h
  cases h

theorem isIdentifierChar_eq_false_of_isBlank (hc : isBlank c = true) : isIdentifierChar c = false :=
  of_isBlank (P := fun c => isIdentifierChar c = false) (by decide +kernel) hc

theorem isBlank_eq_false_of_isIdentifierChar (h : isIdentifierChar c = true) :
    isBlank c = false :=
  isBlank_eq_false_of isIdentifierChar_eq_false_of_isBlank h

theorem isWordChar_eq_false_of_isBlank (hc : isBlank c = true) : isWordChar c = false :=
  of_isBlank (P := fun c => isWordChar c = false) (by decide +kernel) hc

/-- Neither the space between words nor the end of a line. -/
def isSolid (c : Char) : Bool :=
  c != ' ' && c != '\n'

theorem isSolid_of_lt_toNat (h : 0x20 < c.toNat) : isSolid c = true := by
  have hspace : c ≠ ' ' := by
    rintro rfl
    exact absurd h (by decide)
  have hfeed : c ≠ '\n' := by
    rintro rfl
    exact absurd h (by decide)
  simp [isSolid, hspace, hfeed]

theorem isSolid_ofNat {code : Nat} (h : 0x20 < code) : isSolid (Char.ofNat code) = true := by
  by_cases hvalid : code.isValidChar
  · refine isSolid_of_lt_toNat ?_
    have hform : Char.ofNat code = Char.ofNatAux code hvalid := dif_pos hvalid
    rw [hform]
    exact h
  · have hform : Char.ofNat code = '\x00' := dif_neg hvalid
    rw [hform]
    rfl

theorem isSolid_of_isIdentifierChar (h : isIdentifierChar c = true) : isSolid c = true := by
  by_cases hascii : isAscii c = true
  · revert h
    exact of_isAscii (P := fun c => isIdentifierChar c = true → isSolid c = true)
      (by decide) hascii
  · refine isSolid_of_lt_toNat ?_
    simp only [isAscii, decide_eq_true_eq] at hascii
    omega

theorem isIdentifierChar_of_mem_upperForm (h : isIdentifierChar c = true)
    (hascii : isAscii c = true) (hd : d ∈ upperForm c) : isIdentifierChar d = true := by
  rw [upperForm, if_pos hascii, List.mem_singleton] at hd
  subst hd
  revert h
  exact of_isAscii
    (P := fun c => isIdentifierChar c = true → isIdentifierChar c.toUpper = true) (by decide) hascii

theorem isSolid_of_mem_upperForm (h : isIdentifierChar c = true) (hd : d ∈ upperForm c) :
    isSolid d = true := by
  by_cases hascii : isAscii c = true
  · exact isSolid_of_isIdentifierChar (isIdentifierChar_of_mem_upperForm h hascii hd)
  · rw [upperForm, if_neg hascii, caseForm] at hd
    split at hd
    · next entry hentry =>
      have hcodes : ∀ entry ∈ upperExpansions, ∀ code ∈ entry.2, 0x20 < code := by
        decide +kernel
      obtain ⟨code, hcode, rfl⟩ := List.mem_map.mp hd
      exact isSolid_ofNat (hcodes entry (List.mem_of_find?_eq_some hentry) code hcode)
    · split at hd
      · next run hrun =>
        have htargets : ∀ run ∈ upperRuns, 0x20 < run.target := by decide +kernel
        rw [List.mem_singleton] at hd
        subst hd
        exact isSolid_ofNat (Nat.lt_of_lt_of_le
          (htargets run (List.mem_of_find?_eq_some hrun)) (Nat.le_add_right _ _))
      · rw [List.mem_singleton] at hd
        exact hd ▸ isSolid_of_isIdentifierChar h

theorem forall_mem_capitalize {P : Char → Prop}
    (hhead : ∀ c ∈ word.head?, ∀ d ∈ upperForm c, P d) (htail : ∀ c ∈ word.tail, P c) :
    ∀ d ∈ capitalize word, P d := by
  cases word with
  | nil => simp [capitalize]
  | cons first rest => exact List.forall_mem_append.mpr ⟨hhead first rfl, htail⟩

/-- The capital form of the first character has no other characters than an identifier. -/
def capitalizesPlainly (word : List Char) : Bool :=
  word.head?.all fun c => (upperForm c).all isIdentifierChar

theorem isPlain_capitalize (hplain : isPlain word = true)
    (hcapital : capitalizesPlainly word = true) : isPlain (capitalize word) = true := by
  refine isPlain_iff.mpr (forall_mem_capitalize ?_ ?_)
  · rintro c hc d hd
    simp only [capitalizesPlainly, Option.mem_def.mp hc, Option.all_some] at hcapital
    exact List.all_eq_true.mp hcapital d hd
  · exact fun c hc => isPlain_iff.mp hplain c (List.mem_of_mem_tail hc)

theorem isSolid_of_mem_capitalize (hplain : isPlain word = true) (hd : d ∈ capitalize word) :
    isSolid d = true := by
  refine forall_mem_capitalize (P := fun d => isSolid d = true) ?_ ?_ d hd
  · intro c hc d hd
    exact isSolid_of_mem_upperForm (isPlain_iff.mp hplain c (List.mem_of_mem_head? hc)) hd
  · intro c hc
    exact isSolid_of_isIdentifierChar (isPlain_iff.mp hplain c (List.mem_of_mem_tail hc))

end Understudy.Text
