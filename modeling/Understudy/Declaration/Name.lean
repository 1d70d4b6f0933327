import Understudy.Text.Split

/-!
The declared name of a callable, such as `foo(bar:_:)`, as a bare name and argument labels.
-/

namespace Understudy

structure DeclaredName where
  name : String
  labels : List String
deriving DecidableEq, Repr

namespace DeclaredName

open Text

def isDelimiter (c : Char) : Bool :=
  c == ':' || c == '(' || c == ')'

/-- The trimmed pieces between colons and parentheses that are not empty: the first one is the
name, the others are the labels. -/
def read (declared : String) : DeclaredName :=
  let pieces := (splitWhere isDelimiter declared.toList).map trim
  match (pieces.filter fun piece => !piece.isEmpty).map String.ofList with
  | [] => ⟨"", []⟩
  | name :: labels => ⟨name, labels⟩

/-- The written form `name(label:label:)`. -/
def written (declared : DeclaredName) : String :=
  declared.name ++ "(" ++ String.join (declared.labels.map (· ++ ":")) ++ ")"

end DeclaredName

end Understudy
