import Understudy.Text.Bytes
import Understudy.Text.Split

/-!
The comment directly above a declaration.
-/

namespace Understudy.Comment

open Text

/-- A line belongs to a comment when it starts as one or ends one. -/
def isCommentLine (line : List Char) : Bool :=
  "//".toList.isPrefixOf line || "/*".toList.isPrefixOf line || "*".toList.isPrefixOf line ||
    "*/".toList.isSuffixOf line

/-- The text before its last line feed. -/
def beforeLastLine? (text : List Char) : Option (List Char) :=
  match text.reverse.dropWhile (· != '\n') with
  | [] => none
  | _ :: before => some before.reverse

/-- The trimmed comment lines directly above a byte position, from top to bottom. The line that
holds the position does not count, and a position that cuts no text counts as the end. -/
def above (source : String) (offset : Nat) : List String :=
  let text := source.toList
  match beforeLastLine? ((slice? text 0 offset).getD text) with
  | some before =>
      (((lines before).map trim).reverse.takeWhile isCommentLine).reverse.map String.ofList
  | none => []

end Understudy.Comment
