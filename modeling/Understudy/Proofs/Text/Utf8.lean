import Mathlib.Data.Char
import Mathlib.Tactic.SplitIfs
import Understudy.Proofs.Failure.Results
import Understudy.Text.Bytes
import Understudy.Text.Utf8

/-!
# Bytes read as text

Reading accepts exactly the bytes that a text is written as, and then gives that text
(`Utf8.decode_eq_ok_iff`). A first byte announces how many follow and within which bounds the next
one lies; these bounds leave just the values whose written form has that length, less the
surrogates.
-/

namespace Understudy.Text.Utf8

variable {text : List Char} {bytes : List UInt8} {start : Nat}

section Lead

variable {b : Nat}

theorem lead_one (h : b < 0x80) : lead b = .ascii := by
  rw [lead, if_pos h]

theorem lead_two (hlow : 0xC2 ≤ b) (hhigh : b < 0xE0) :
    lead b = .begins ⟨b - 0xC0, 1, 1, 0x80, 0xBF⟩ := by
  rw [lead, if_neg (by omega), if_neg (by omega), if_pos hhigh]

theorem lead_three (hlow : 0xE0 ≤ b) (hhigh : b < 0xF0) :
    lead b = .begins ⟨b - 0xE0, 1, 2, if b = 0xE0 then 0xA0 else 0x80,
      if b = 0xED then 0x9F else 0xBF⟩ := by
  by_cases hfirst : b = 0xE0
  · subst hfirst
    rfl
  by_cases hsurrogate : b = 0xED
  · subst hsurrogate
    rfl
  rw [lead, if_neg (by omega), if_neg (by omega), if_neg (by omega), if_neg (by simpa using hfirst),
    if_neg (by simpa using hsurrogate), if_pos hhigh, if_neg hfirst, if_neg hsurrogate]

theorem lead_four (hlow : 0xF0 ≤ b) (hhigh : b < 0xF5) :
    lead b = .begins ⟨b - 0xF0, 1, 3, if b = 0xF0 then 0x90 else 0x80,
      if b = 0xF4 then 0x8F else 0xBF⟩ := by
  obtain rfl | rfl | rfl | rfl | rfl :
    b = 0xF0 ∨ b = 0xF1 ∨ b = 0xF2 ∨ b = 0xF3 ∨ b = 0xF4 := by omega
  all_goals rfl

/-- No character begins with a byte that follows others, nor with one beyond the last code point. -/
theorem lead_bad (h : 0x80 ≤ b ∧ b < 0xC2 ∨ 0xF5 ≤ b) : lead b = .bad := by
  rw [lead, if_neg (by omega)]
  rcases h with h | h
  · rw [if_pos h.2]
  · have hne : ∀ value, value < 0xF5 → ¬(b == value) = true := by
      intro value hvalue
      simp only [beq_iff_eq]
      omega
    rw [if_neg (by omega), if_neg (by omega), if_neg (hne _ (by omega)), if_neg (hne _ (by omega)),
      if_neg (by omega), if_neg (hne _ (by omega)), if_neg (by omega), if_neg (hne _ (by omega))]

end Lead

section Begun

variable {begun : Begun}

/-- The value of a character that has begun after one more byte. -/
def Begun.next (begun : Begun) (b : UInt8) : Nat :=
  begun.value * 0x40 + (b.toNat - 0x80)

theorem Begun.next_mk {value seen owed low high : Nat} {b : UInt8} :
    (⟨value, seen, owed, low, high⟩ : Begun).next b = value * 0x40 + (b.toNat - 0x80) :=
  rfl

/-- The next byte lies within its bounds. -/
def Begun.Admits (begun : Begun) (b : UInt8) : Prop :=
  begun.low ≤ b.toNat ∧ b.toNat ≤ begun.high

theorem decodeFrom_begun_cons {b : UInt8} {rest : List UInt8} (hadmits : begun.Admits b) :
    decodeFrom start (some begun) (b :: rest) =
      if begun.owed ≤ 1 then
        (decodeFrom (start + begun.seen + 1) none rest).map (Char.ofNat (begun.next b) :: ·)
      else
        decodeFrom start (some ⟨begun.next b, begun.seen + 1, begun.owed - 1, 0x80, 0xBF⟩)
          rest := by
  have hbounds : (begun.low ≤ b.toNat && b.toNat ≤ begun.high) = true := by
    simpa [Begun.Admits] using hadmits
  rw [decodeFrom, if_pos hbounds]
  rfl

/-- A character that has begun needs a byte within its bounds. -/
theorem exists_admits_of_decodeFrom (h : decodeFrom start (some begun) bytes = .ok text) :
    ∃ b rest, bytes = b :: rest ∧ begun.Admits b := by
  cases bytes with
  | nil => simp [decodeFrom] at h
  | cons b rest =>
      refine ⟨b, rest, rfl, ?_⟩
      by_contra hadmits
      have hbounds : ¬(begun.low ≤ b.toNat && b.toNat ≤ begun.high) = true := by
        simpa [Begun.Admits] using hadmits
      rw [decodeFrom, if_neg hbounds] at h
      cases h

theorem decodeFrom_last_iff (howed : begun.owed = 1) :
    decodeFrom start (some begun) bytes = .ok text ↔
      ∃ b rest later, bytes = b :: rest ∧ begun.Admits b ∧
        decodeFrom (start + begun.seen + 1) none rest = .ok later ∧
        text = Char.ofNat (begun.next b) :: later := by
  constructor
  · intro h
    obtain ⟨b, rest, rfl, hadmits⟩ := exists_admits_of_decodeFrom h
    rw [decodeFrom_begun_cons hadmits, if_pos (Nat.le_of_eq howed)] at h
    obtain ⟨later, hlater, rfl⟩ := exists_of_map_eq_ok h
    exact ⟨b, rest, later, rfl, hadmits, hlater, rfl⟩
  · rintro ⟨b, rest, later, rfl, hadmits, hlater, rfl⟩
    rw [decodeFrom_begun_cons hadmits, if_pos (Nat.le_of_eq howed), hlater]
    rfl

theorem decodeFrom_more_iff {owed : Nat} (howed : begun.owed = owed + 2) :
    decodeFrom start (some begun) bytes = .ok text ↔
      ∃ b rest, bytes = b :: rest ∧ begun.Admits b ∧
        decodeFrom start (some ⟨begun.next b, begun.seen + 1, owed + 1, 0x80, 0xBF⟩) rest =
          .ok text := by
  have hmore : ¬begun.owed ≤ 1 := by omega
  have hleft : begun.owed - 1 = owed + 1 := by omega
  constructor
  · intro h
    obtain ⟨b, rest, rfl, hadmits⟩ := exists_admits_of_decodeFrom h
    rw [decodeFrom_begun_cons hadmits, if_neg hmore, hleft] at h
    exact ⟨b, rest, rfl, hadmits, h⟩
  · rintro ⟨b, rest, rfl, hadmits, h⟩
    rw [decodeFrom_begun_cons hadmits, if_neg hmore, hleft]
    exact h

end Begun

section Written

variable {c : Char} {b b₁ b₂ b₃ : UInt8}

theorem ofNat_eq_iff {n : Nat} : UInt8.ofNat n = b ↔ n % 256 = b.toNat := by
  rw [← UInt8.toNat_inj, UInt8.toNat_ofNat']

theorem toNat_ofNat_of_valid {value : Nat} (h : value.isValidChar) :
    (Char.ofNat value).toNat = value :=
  have hvalue : Char.ofNat value = Char.ofNatAux value h := dif_pos h
  congrArg Char.toNat hvalue

theorem utf8EncodeChar_eq_one_iff :
    String.utf8EncodeChar c = [b] ↔ b.toNat < 0x80 ∧ c.toNat = b.toNat := by
  have hvalue : c.val.toNat = c.toNat := rfl
  have hbyte : b.toNat < 256 := b.toNat_lt
  simp only [String.utf8EncodeChar, hvalue]
  split_ifs <;>
    simp only [List.cons.injEq, ofNat_eq_iff, and_true, reduceCtorEq, and_false, false_iff] <;>
    omega

theorem utf8EncodeChar_eq_two_iff :
    String.utf8EncodeChar c = [b, b₁] ↔
      (0xC2 ≤ b.toNat ∧ b.toNat < 0xE0) ∧ (0x80 ≤ b₁.toNat ∧ b₁.toNat ≤ 0xBF) ∧
        c.toNat = (b.toNat - 0xC0) * 0x40 + (b₁.toNat - 0x80) := by
  have hvalue : c.val.toNat = c.toNat := rfl
  have hbyte : b.toNat < 256 := b.toNat_lt
  simp only [String.utf8EncodeChar, hvalue]
  split_ifs <;>
    simp only [List.cons.injEq, ofNat_eq_iff, and_true, reduceCtorEq, and_false, false_iff] <;>
    omega

/-- The bounds of the second byte leave out the values that two bytes write, and the surrogates. -/
theorem utf8EncodeChar_eq_three_iff :
    String.utf8EncodeChar c = [b, b₁, b₂] ↔
      (0xE0 ≤ b.toNat ∧ b.toNat < 0xF0) ∧
        ((if b.toNat = 0xE0 then 0xA0 else 0x80) ≤ b₁.toNat ∧
          b₁.toNat ≤ if b.toNat = 0xED then 0x9F else 0xBF) ∧
        (0x80 ≤ b₂.toNat ∧ b₂.toNat ≤ 0xBF) ∧
        c.toNat = ((b.toNat - 0xE0) * 0x40 + (b₁.toNat - 0x80)) * 0x40 + (b₂.toNat - 0x80) := by
  have hvalue : c.val.toNat = c.toNat := rfl
  have hvalid : c.toNat < 0xD800 ∨ 0xDFFF < c.toNat ∧ c.toNat < 0x110000 := c.valid
  have hbyte : b.toNat < 256 := b.toNat_lt
  simp only [String.utf8EncodeChar, hvalue]
  split_ifs <;>
    simp only [List.cons.injEq, ofNat_eq_iff, and_true, reduceCtorEq, and_false, false_iff] <;>
    omega

/-- The bounds of the second byte leave out the values that three bytes write, and those beyond the
last code point. -/
theorem utf8EncodeChar_eq_four_iff :
    String.utf8EncodeChar c = [b, b₁, b₂, b₃] ↔
      (0xF0 ≤ b.toNat ∧ b.toNat < 0xF5) ∧
        ((if b.toNat = 0xF0 then 0x90 else 0x80) ≤ b₁.toNat ∧
          b₁.toNat ≤ if b.toNat = 0xF4 then 0x8F else 0xBF) ∧
        (0x80 ≤ b₂.toNat ∧ b₂.toNat ≤ 0xBF) ∧ (0x80 ≤ b₃.toNat ∧ b₃.toNat ≤ 0xBF) ∧
        c.toNat =
          (((b.toNat - 0xF0) * 0x40 + (b₁.toNat - 0x80)) * 0x40 + (b₂.toNat - 0x80)) * 0x40 +
            (b₃.toNat - 0x80) := by
  have hvalue : c.val.toNat = c.toNat := rfl
  have hvalid : c.toNat < 0xD800 ∨ 0xDFFF < c.toNat ∧ c.toNat < 0x110000 := c.valid
  have hbyte : b.toNat < 256 := b.toNat_lt
  simp only [String.utf8EncodeChar, hvalue]
  split_ifs <;>
    simp only [List.cons.injEq, ofNat_eq_iff, and_true, reduceCtorEq, and_false, false_iff] <;>
    omega

theorem exists_utf8EncodeChar_eq (c : Char) :
    (∃ b, String.utf8EncodeChar c = [b]) ∨ (∃ b b₁, String.utf8EncodeChar c = [b, b₁]) ∨
      (∃ b b₁ b₂, String.utf8EncodeChar c = [b, b₁, b₂]) ∨
      ∃ b b₁ b₂ b₃, String.utf8EncodeChar c = [b, b₁, b₂, b₃] := by
  simp only [String.utf8EncodeChar]
  split_ifs
  · exact .inl ⟨_, rfl⟩
  · exact .inr (.inl ⟨_, _, rfl⟩)
  · exact .inr (.inr (.inl ⟨_, _, _, rfl⟩))
  · exact .inr (.inr (.inr ⟨_, _, _, _, rfl⟩))

end Written

section Character

variable {c : Char} {b : UInt8} {rest : List UInt8} {later : List Char}

theorem decodeFrom_ascii (h : b.toNat < 0x80) :
    decodeFrom start none (b :: rest) =
      (decodeFrom (start + 1) none rest).map (Char.ofNat b.toNat :: ·) := by
  rw [decodeFrom, lead_one h]

theorem decodeFrom_begins {begun : Begun} (h : lead b.toNat = .begins begun) :
    decodeFrom start none (b :: rest) = decodeFrom start (some begun) rest := by
  rw [decodeFrom, h]

theorem decodeFrom_bad (h : lead b.toNat = .bad) :
    decodeFrom start none (b :: rest) = .error (.invalid start 1) := by
  rw [decodeFrom, h]

/-- The bytes are a written character followed by others that are a text. -/
def ReadsChar (start : Nat) (bytes : List UInt8) (text : List Char) : Prop :=
  ∃ c rest later, bytes = String.utf8EncodeChar c ++ rest ∧
    decodeFrom (start + c.utf8Size) none rest = .ok later ∧ text = c :: later

theorem readsChar_of_eq {value : Nat} (written : List UInt8)
    (hwritten : String.utf8EncodeChar (Char.ofNat value) = written)
    (hlater : decodeFrom (start + written.length) none rest = .ok later) :
    ReadsChar start (written ++ rest) (Char.ofNat value :: later) := by
  subst hwritten
  rw [String.length_utf8EncodeChar] at hlater
  exact ⟨_, rest, later, rfl, hlater, rfl⟩

theorem readsChar_of_one (hlead : b.toNat < 0x80)
    (h : decodeFrom start none (b :: rest) = .ok text) : ReadsChar start (b :: rest) text := by
  rw [decodeFrom_ascii hlead] at h
  obtain ⟨later, hlater, rfl⟩ := exists_of_map_eq_ok h
  have hvalid : b.toNat.isValidChar := .inl (by omega)
  refine readsChar_of_eq [b] (utf8EncodeChar_eq_one_iff.mpr ⟨hlead, ?_⟩) hlater
  exact toNat_ofNat_of_valid hvalid

theorem readsChar_of_two (hlow : 0xC2 ≤ b.toNat) (hhigh : b.toNat < 0xE0)
    (h : decodeFrom start none (b :: rest) = .ok text) : ReadsChar start (b :: rest) text := by
  rw [decodeFrom_begins (lead_two hlow hhigh), decodeFrom_last_iff rfl] at h
  obtain ⟨b₁, rest, later, rfl, hadmits, hlater, rfl⟩ := h
  refine readsChar_of_eq [b, b₁]
    (utf8EncodeChar_eq_two_iff.mpr ⟨⟨hlow, hhigh⟩, hadmits, ?_⟩) hlater
  simp only [Begun.Admits] at hadmits
  rw [Begun.next_mk]
  exact toNat_ofNat_of_valid (.inl (by omega))

theorem readsChar_of_three (hlow : 0xE0 ≤ b.toNat) (hhigh : b.toNat < 0xF0)
    (h : decodeFrom start none (b :: rest) = .ok text) : ReadsChar start (b :: rest) text := by
  rw [decodeFrom_begins (lead_three hlow hhigh), decodeFrom_more_iff rfl] at h
  obtain ⟨b₁, _, rfl, hadmits₁, h⟩ := h
  rw [decodeFrom_last_iff rfl] at h
  obtain ⟨b₂, rest, later, rfl, hadmits₂, hlater, rfl⟩ := h
  refine readsChar_of_eq [b, b₁, b₂]
    (utf8EncodeChar_eq_three_iff.mpr ⟨⟨hlow, hhigh⟩, hadmits₁, hadmits₂, ?_⟩) hlater
  simp only [Begun.Admits] at hadmits₁ hadmits₂
  rw [Begun.next_mk, Begun.next_mk]
  refine toNat_ofNat_of_valid ?_
  rw [Nat.isValidChar]
  split_ifs at hadmits₁ <;> omega

theorem readsChar_of_four (hlow : 0xF0 ≤ b.toNat) (hhigh : b.toNat < 0xF5)
    (h : decodeFrom start none (b :: rest) = .ok text) : ReadsChar start (b :: rest) text := by
  rw [decodeFrom_begins (lead_four hlow hhigh), decodeFrom_more_iff rfl] at h
  obtain ⟨b₁, _, rfl, hadmits₁, h⟩ := h
  rw [decodeFrom_more_iff rfl] at h
  obtain ⟨b₂, _, rfl, hadmits₂, h⟩ := h
  rw [decodeFrom_last_iff rfl] at h
  obtain ⟨b₃, rest, later, rfl, hadmits₃, hlater, rfl⟩ := h
  refine readsChar_of_eq [b, b₁, b₂, b₃]
    (utf8EncodeChar_eq_four_iff.mpr ⟨⟨hlow, hhigh⟩, hadmits₁, hadmits₂, hadmits₃, ?_⟩) hlater
  simp only [Begun.Admits] at hadmits₁ hadmits₂ hadmits₃
  rw [Begun.next_mk, Begun.next_mk, Begun.next_mk]
  refine toNat_ofNat_of_valid ?_
  rw [Nat.isValidChar]
  split_ifs at hadmits₁ <;> omega

/-- Bytes that are a text begin with a written character. -/
theorem readsChar_of_decodeFrom (h : decodeFrom start none (b :: rest) = .ok text) :
    ReadsChar start (b :: rest) text := by
  by_cases hone : b.toNat < 0x80
  · exact readsChar_of_one hone h
  by_cases hbad : b.toNat < 0xC2 ∨ 0xF5 ≤ b.toNat
  · rw [decodeFrom_bad (lead_bad (by omega))] at h
    cases h
  by_cases htwo : b.toNat < 0xE0
  · exact readsChar_of_two (by omega) htwo h
  by_cases hthree : b.toNat < 0xF0
  · exact readsChar_of_three (by omega) hthree h
  · exact readsChar_of_four (by omega) (by omega) h

/-- A written character is read back, whatever follows it. -/
theorem decodeFrom_utf8EncodeChar_append (c : Char)
    (h : decodeFrom (start + c.utf8Size) none rest = .ok later) :
    decodeFrom start none (String.utf8EncodeChar c ++ rest) = .ok (c :: later) := by
  rw [← String.length_utf8EncodeChar] at h
  obtain ⟨b, hc⟩ | ⟨b, b₁, hc⟩ | ⟨b, b₁, b₂, hc⟩ | ⟨b, b₁, b₂, b₃, hc⟩ := exists_utf8EncodeChar_eq c
  all_goals rw [hc] at h ⊢; rw [← Char.ofNat_toNat c]
  · obtain ⟨hlead, hvalue⟩ := utf8EncodeChar_eq_one_iff.mp hc
    rw [List.singleton_append, decodeFrom_ascii hlead, hvalue]
    exact congrArg (Except.map _) h
  · obtain ⟨⟨hlow, hhigh⟩, hadmits, hvalue⟩ := utf8EncodeChar_eq_two_iff.mp hc
    rw [hvalue]
    exact (decodeFrom_begins (lead_two hlow hhigh)).trans
      ((decodeFrom_last_iff rfl).mpr ⟨b₁, rest, later, rfl, hadmits, h, rfl⟩)
  · obtain ⟨⟨hlow, hhigh⟩, hadmits₁, hadmits₂, hvalue⟩ := utf8EncodeChar_eq_three_iff.mp hc
    rw [hvalue]
    exact (decodeFrom_begins (lead_three hlow hhigh)).trans
      ((decodeFrom_more_iff rfl).mpr ⟨b₁, b₂ :: rest, rfl, hadmits₁,
        (decodeFrom_last_iff rfl).mpr ⟨b₂, rest, later, rfl, hadmits₂, h, rfl⟩⟩)
  · obtain ⟨⟨hlow, hhigh⟩, hadmits₁, hadmits₂, hadmits₃, hvalue⟩ :=
      utf8EncodeChar_eq_four_iff.mp hc
    rw [hvalue]
    exact (decodeFrom_begins (lead_four hlow hhigh)).trans
      ((decodeFrom_more_iff rfl).mpr ⟨b₁, b₂ :: b₃ :: rest, rfl, hadmits₁,
        (decodeFrom_more_iff rfl).mpr ⟨b₂, b₃ :: rest, rfl, hadmits₂,
          (decodeFrom_last_iff rfl).mpr ⟨b₃, rest, later, rfl, hadmits₃, h, rfl⟩⟩⟩)

end Character

/-! ### Whole texts -/

theorem decodeFrom_encode (text : List Char) (start : Nat) :
    decodeFrom start none (encode text) = .ok text := by
  induction text generalizing start with
  | nil => rfl
  | cons c rest ih => exact decodeFrom_utf8EncodeChar_append c (ih _)

theorem encode_of_decodeFrom (h : decodeFrom start none bytes = .ok text) :
    encode text = bytes := by
  -- on the number of bytes, as a character may take several of them
  induction hlength : bytes.length using Nat.strong_induction_on generalizing start bytes text with
  | _ length ih =>
    cases bytes with
    | nil =>
        cases h
        rfl
    | cons b rest =>
        obtain ⟨c, rest, later, hbytes, hlater, rfl⟩ := readsChar_of_decodeFrom h
        have hshorter : rest.length < length := by
          have hpos := c.utf8Size_pos
          rw [← hlength, hbytes, List.length_append, String.length_utf8EncodeChar]
          omega
        rw [hbytes, ← ih _ hshorter hlater rfl]
        rfl

/-- **Bytes are read as a text exactly when they are that text as it is written.** -/
theorem decode_eq_ok_iff : decode bytes = .ok text ↔ encode text = bytes := by
  constructor
  · exact encode_of_decodeFrom
  · rintro rfl
    exact decodeFrom_encode text 0

theorem encode_append (left right : List Char) :
    encode (left ++ right) = encode left ++ encode right :=
  List.flatMap_append

@[simp]
theorem length_encode (text : List Char) : (encode text).length = byteLength text := by
  induction text with
  | nil => rfl
  | cons c rest ih =>
      rw [encode, List.flatMap_cons, List.length_append, String.length_utf8EncodeChar, byteLength,
        ← ih, encode]

section Slice

variable {middle : List Char} {stop : Nat}

/-- A slice of a text is written as the bytes between its two positions. -/
theorem encode_slice (h : slice? text start stop = some middle) :
    encode middle = ((encode text).drop start).take (stop - start) := by
  obtain ⟨before, after, rfl, rfl, rfl⟩ := slice?_eq_some_iff.mp h
  rw [encode_append, encode_append, List.append_assoc, List.drop_left' (length_encode before),
    byteLength_append, Nat.add_sub_cancel_left, List.take_left' (length_encode middle)]

theorem le_length_of_slice (h : slice? text start stop = some middle) :
    start ≤ stop ∧ stop ≤ (encode text).length := by
  obtain ⟨before, after, rfl, rfl, rfl⟩ := slice?_eq_some_iff.mp h
  simp only [length_encode, byteLength_append]
  omega

end Slice

end Understudy.Text.Utf8
