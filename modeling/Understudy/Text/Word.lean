import Understudy.Text.Alphabetic
import Understudy.Text.Numeral
import Understudy.Text.WordChar

/-!
Which characters are letters or numerals, and which ones continue a word.
-/

namespace Understudy.Text

/-- A character lies in a table when one of the table's ranges holds its code point. -/
def inRanges (table : List (Nat × Nat)) (c : Char) : Bool :=
  table.any fun range => range.1 ≤ c.toNat && c.toNat ≤ range.2

def isAscii (c : Char) : Bool :=
  c.toNat < 128

/-- A letter (Alphabetic) or a numeral (decimal digit, letter number or other number). -/
def isAlphanumeric (c : Char) : Bool :=
  if isAscii c then c.isAlphanum else inRanges alphabeticRanges c || inRanges numeralRanges c

/-- A letter, combining mark, decimal digit, connector or join control: what a word boundary
is measured by. -/
def isWordChar (c : Char) : Bool :=
  if isAscii c then c.isAlphanum || c == '_' else inRanges wordRanges c

/-- A letter, numeral or underscore: what an identifier is made of. -/
def isIdentifierChar (c : Char) : Bool :=
  isAlphanumeric c || c == '_'

end Understudy.Text
