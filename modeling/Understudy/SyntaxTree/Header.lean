import Understudy.Text.Split
import Understudy.Text.TopLevel

/-!
What stands between the name of a declaration and its body: the types that a type inherits from,
and the return type of a callable.
-/

namespace Understudy.Header

open Text

/-- What follows the angle bracket that closes the first one, at nesting depth `depth`. -/
def afterAngles? (depth : Int) : List Char → Option (List Char)
  | [] => none
  | c :: rest =>
      if c == '<' then afterAngles? (depth + 1) rest
      else if c == '>' then
        if depth - 1 == 0 then some rest else afterAngles? (depth - 1) rest
      else afterAngles? depth rest

/-- A header without the generic clause at its beginning; a clause that is not closed stays. -/
def withoutGenerics (header : List Char) : List Char :=
  let text := trimStart header
  match text with
  | '<' :: _ => (afterAngles? 0 text).getD text
  | _ => text

def beforeWhere (text : List Char) : List Char :=
  upTo " where ".toList text

/-- The inherited types of a header such as `<T>: Base, Other where T: Any`. -/
def inheritedTypes (header : List Char) : List String :=
  match trimStart (withoutGenerics header) with
  | ':' :: list =>
      let names := (splitTopLevel ',' (beforeWhere list)).map trim
      (names.filter fun name => !name.isEmpty).map String.ofList
  | _ => []

/-- The return type of a header such as ` throws -> T where T: Any`; empty without an arrow. -/
def returnType (header : List Char) : String :=
  match cutAt? "->".toList header with
  | some (_, result) => String.ofList (trim (beforeWhere result))
  | none => ""

end Understudy.Header
