import Understudy.Text.LetterCase
import Understudy.Text.Split

/-!
The name of a type as a declaration writes it, without blanks at its ends. The empty name stands
for a type that is not written at all, as in a function without a return clause.
-/

namespace Understudy

structure TypeName where
  text : String
deriving DecidableEq, Repr, Inhabited

namespace TypeName

open Text

def ofText (text : String) : TypeName :=
  ⟨String.ofList (trim text.toList)⟩

def unwritten : TypeName :=
  ⟨""⟩

def isUnwritten (type : TypeName) : Bool :=
  type.text == ""

/-- Nothing is returned: the type is not written, `Void` or `()`. -/
def isVoid (type : TypeName) : Bool :=
  type.text == "" || type.text == "Void" || type.text == "()"

def isOptional (type : TypeName) : Bool :=
  "?".toList.isSuffixOf type.text.toList || "!".toList.isSuffixOf type.text.toList ||
    "Optional<".toList.isPrefixOf type.text.toList

def isInout (type : TypeName) : Bool :=
  "inout ".toList.isPrefixOf type.text.toList

def isAutoclosure (type : TypeName) : Bool :=
  contains "@autoclosure".toList type.text.toList

def isVariadic (type : TypeName) : Bool :=
  "...".toList.isSuffixOf type.text.toList

def hasArrow (type : TypeName) : Bool :=
  contains "->".toList type.text.toList

/-- The letters and numerals of the name with each run capitalized: `[String: Int]` displays
as `StringInt`. -/
def displayName (type : TypeName) : List Char :=
  (fields (fun c => !isAlphanumeric c) type.text.toList).flatMap capitalize

/-- Whether an identifier occurs in the name as a whole token. -/
def mentions (type : TypeName) (identifier : String) : Bool :=
  identifier != "" &&
    (splitWhere (fun c => !isIdentifierChar c) type.text.toList).contains identifier.toList

/-- The name as a parameter of a closure type has it: without `@autoclosure`, and with a variadic
`T...` as the array `[T]` that arrives. -/
def closureParameter (type : TypeName) : String :=
  let stripped := trim (erase "@autoclosure ".toList type.text.toList)
  match stripEnd? "...".toList stripped with
  | some element => "[" ++ String.ofList (trim element) ++ "]"
  | none => String.ofList stripped

end TypeName

end Understudy
