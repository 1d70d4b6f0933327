/-!
Byte positions in a text: a position counts the bytes of the UTF-8 form before it, and lies
either between two characters or inside one.
-/

namespace Understudy.Text

/-- Number of bytes of the UTF-8 form. -/
def byteLength : List Char → Nat
  | [] => 0
  | c :: rest => c.utf8Size + byteLength rest

/-- The text before and after a byte position; none when the position lies inside a character
or beyond the end. -/
def splitBytes? : Nat → List Char → Option (List Char × List Char)
  | 0, text => some ([], text)
  | _ + 1, [] => none
  | n + 1, c :: rest =>
      if c.utf8Size ≤ n + 1 then
        (splitBytes? (n + 1 - c.utf8Size) rest).map fun (before, after) => (c :: before, after)
      else
        none

/-- The characters that lie wholly before a byte position. -/
def takeBytes : Nat → List Char → List Char
  | _, [] => []
  | n, c :: rest => if c.utf8Size ≤ n then c :: takeBytes (n - c.utf8Size) rest else []

/-- The text between two byte positions; none when they are out of order, or one of them lies
inside a character or beyond the end. -/
def slice? (text : List Char) (start stop : Nat) : Option (List Char) :=
  if start ≤ stop then
    match splitBytes? start text with
    | some (_, after) => (splitBytes? (stop - start) after).map Prod.fst
    | none => none
  else
    none

theorem byteLength_append (left right : List Char) :
    byteLength (left ++ right) = byteLength left + byteLength right := by
  induction left with
  | nil => simp [byteLength]
  | cons c rest ih => simp [byteLength, ih, Nat.add_assoc]

theorem splitBytes?_append (left right : List Char) :
    splitBytes? (byteLength left) (left ++ right) = some (left, right) := by
  induction left with
  | nil => simp [byteLength, splitBytes?]
  | cons c rest ih =>
      have hpos : 0 < c.utf8Size := Char.utf8Size_pos c
      obtain ⟨n, hn⟩ : ∃ n, c.utf8Size + byteLength rest = n + 1 :=
        ⟨c.utf8Size + byteLength rest - 1, by omega⟩
      have hrest : n + 1 - c.utf8Size = byteLength rest := by omega
      have hle : c.utf8Size ≤ n + 1 := by omega
      rw [byteLength, hn, List.cons_append, splitBytes?, if_pos hle, hrest, ih]
      rfl

theorem eq_append_of_splitBytes? {n : Nat} {text before after : List Char}
    (h : splitBytes? n text = some (before, after)) :
    text = before ++ after ∧ byteLength before = n := by
  induction text generalizing n before after with
  | nil =>
      cases n with
      | zero => simp_all [splitBytes?, byteLength]
      | succ n => simp [splitBytes?] at h
  | cons c rest ih =>
      cases n with
      | zero =>
          simp only [splitBytes?, Option.some.injEq, Prod.mk.injEq] at h
          simp [← h.1, ← h.2, byteLength]
      | succ n =>
          simp only [splitBytes?] at h
          split at h
          · next hle =>
            obtain ⟨⟨front, back⟩, hsplit, heq⟩ := Option.map_eq_some_iff.mp h
            simp only [Prod.mk.injEq] at heq
            obtain ⟨htext, hlength⟩ := ih hsplit
            rw [← heq.1, ← heq.2]
            constructor
            · simp [htext]
            · simp only [byteLength]
              omega
          · simp at h

/-- A slice is exactly a stretch of the text whose ends have the two positions. -/
theorem slice?_eq_some_iff {text middle : List Char} {start stop : Nat} :
    slice? text start stop = some middle ↔
      ∃ before after, text = before ++ middle ++ after ∧ byteLength before = start ∧
        byteLength (before ++ middle) = stop := by
  constructor
  · intro h
    unfold slice? at h
    split at h
    · next hle =>
      split at h
      · next before rest hbefore =>
        obtain ⟨⟨front, after⟩, hsplit, rfl⟩ := Option.map_eq_some_iff.mp h
        obtain ⟨htext, hstart⟩ := eq_append_of_splitBytes? hbefore
        obtain ⟨hrest, hlength⟩ := eq_append_of_splitBytes? hsplit
        refine ⟨before, after, ?_, hstart, ?_⟩
        · simp [htext, hrest]
        · rw [byteLength_append, hstart, hlength]
          omega
      · simp at h
    · simp at h
  · rintro ⟨before, after, rfl, rfl, rfl⟩
    have hlength : byteLength (before ++ middle) - byteLength before = byteLength middle := by
      rw [byteLength_append]
      omega
    have hle : byteLength before ≤ byteLength (before ++ middle) := by
      rw [byteLength_append]
      omega
    rw [slice?, if_pos hle, List.append_assoc, splitBytes?_append]
    simp only [hlength, splitBytes?_append, Option.map_some]

end Understudy.Text
