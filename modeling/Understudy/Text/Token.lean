import Understudy.Text.Blank
import Understudy.Text.Word

/-!
A text as words, blanks and single other characters, for looking up keywords by word boundary.
-/

namespace Understudy.Text

inductive Token where
  | word (text : List Char)
  | blank
  | mark (c : Char)
deriving DecidableEq, Repr

/-- Puts a word character in front of the tokens that follow it. -/
def Token.joinWord (c : Char) : List Token → List Token
  | .word text :: rest => .word (c :: text) :: rest
  | rest => .word [c] :: rest

/-- Each maximal run of word characters is one token; every other character is one of its own. -/
def tokens : List Char → List Token
  | [] => []
  | c :: rest =>
      if isWordChar c then Token.joinWord c (tokens rest)
      else if isBlank c then .blank :: tokens rest
      else .mark c :: tokens rest

def Token.word? : Token → Option (List Char)
  | .word text => some text
  | _ => none

end Understudy.Text
