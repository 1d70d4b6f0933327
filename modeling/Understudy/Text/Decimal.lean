/-!
Counts written in decimal digits. A count is below two to the power of sixty-four.
-/

namespace Understudy.Text

def decimalValue (digits : List Char) : Nat :=
  digits.foldl (fun value c => value * 10 + (c.toNat - 0x30)) 0

def countLimit : Nat :=
  Nat.pow 2 64

/-- The count that digits write; none for any other text and for a number beyond the limit. -/
def count? (digits : List Char) : Option Nat :=
  if !digits.isEmpty && digits.all Char.isDigit && decimalValue digits < countLimit then
    some (decimalValue digits)
  else
    none

theorem lt_countLimit_of_count? {digits : List Char} {value : Nat}
    (h : count? digits = some value) : value < countLimit := by
  unfold count? at h
  split at h
  · simp_all
  · simp at h

end Understudy.Text
