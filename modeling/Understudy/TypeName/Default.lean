import Understudy.Text.TopLevel
import Understudy.TypeName

/-!
The literal that a mocked member returns when no handler is set.

A type has the literal that is known for its name, else the literal of its form: nothing for void,
`nil` for an optional, zero, `false`, an empty text or collection, and a tuple of the literals of
its elements. Any other type has none. The elements of a tuple type are shorter than the type, so
the search ends.
-/

namespace Understudy

/-- Literals for the types of given names. -/
abbrev KnownLiterals := List (String × String)

namespace TypeName

open Text

def integerNames : List String :=
  ["Int", "Int8", "Int16", "Int32", "Int64", "UInt", "UInt8", "UInt16", "UInt32", "UInt64"]

def floatNames : List String :=
  ["Double", "Float", "Float32", "Float64", "CGFloat", "TimeInterval"]

/-- What stands between two brackets that begin and end a text. -/
def enclosed? (opening closing : Char) (text : List Char) : Option (List Char) :=
  match text with
  | [] => none
  | c :: rest =>
      if c == opening && rest.getLast? == some closing then some rest.dropLast else none

theorem enclosed?_length_lt {opening closing : Char} {text inner : List Char}
    (h : enclosed? opening closing text = some inner) : inner.length < text.length := by
  cases text with
  | nil => simp [enclosed?] at h
  | cons c rest =>
      simp only [enclosed?] at h
      split at h
      · simp only [Option.some.injEq] at h
        subst h
        simp only [List.length_dropLast, List.length_cons]
        omega
      · simp at h

/-- The type of a tuple element, which may carry a label as in `count: Int`. -/
def elementType (element : List Char) : List Char :=
  match splitTopLevel ':' element with
  | [_, type] => trim type
  | _ => trim element

theorem elementType_length_le (element : List Char) :
    (elementType element).length ≤ element.length := by
  unfold elementType
  split
  · next label type heq =>
    have hmem : type ∈ splitTopLevel ':' element := by simp [heq]
    exact Nat.le_trans (trim_length_le type) (length_le_of_mem_splitTopLevel hmem)
  · exact trim_length_le element

/-- The literal of an array, dictionary, set or scalar type, told by its name alone. -/
def scalarDefault? (text : List Char) : Option String :=
  let type : TypeName := ⟨String.ofList text⟩
  if type.isVoid then some ""
  else if type.isOptional then some "nil"
  else if type.text == "Bool" then some "false"
  else if integerNames.contains type.text then some "0"
  else if floatNames.contains type.text then some "0.0"
  else if type.text == "String" || type.text == "Substring" then some "\"\""
  else
    match enclosed? '[' ']' text with
    | some inner => some (if 1 < (splitTopLevel ':' inner).length then "[:]" else "[]")
    | none =>
        if "Array<".toList.isPrefixOf text then some "[]"
        else if "Dictionary<".toList.isPrefixOf text then some "[:]"
        else if "Set<".toList.isPrefixOf text then some "Set()"
        else none

/-- A single element stands for itself, several make a tuple. -/
def tupleLiteral : List String → String
  | [value] => value
  | values => "(" ++ ", ".intercalate values ++ ")"

/-- The literal for the trimmed name of a type. -/
def defaultOf (known : KnownLiterals) (text : List Char) : Option String :=
  match known.lookup (String.ofList text) with
  | some literal => some literal
  | none =>
      match scalarDefault? text with
      | some literal => some literal
      | none =>
          match _hinner : enclosed? '(' ')' text with
          | some inner =>
              ((splitTopLevel ',' inner).attach.mapM fun element =>
                defaultOf known (elementType element.val)).map tupleLiteral
          | none => none
termination_by text.length
decreasing_by
  exact Nat.lt_of_le_of_lt (elementType_length_le element.val)
    (Nat.lt_of_le_of_lt (length_le_of_mem_splitTopLevel element.property)
      (enclosed?_length_lt _hinner))

/-- The search in order: the known literal, the literal of the name, the elements of a tuple. -/
theorem defaultOf_eq (known : KnownLiterals) (text : List Char) :
    defaultOf known text =
      ((known.lookup (String.ofList text)).or (scalarDefault? text)).or
        ((enclosed? '(' ')' text).bind fun inner =>
          ((splitTopLevel ',' inner).mapM fun element =>
            defaultOf known (elementType element)).map tupleLiteral) := by
  rw [defaultOf]
  cases known.lookup (String.ofList text) with
  | some literal => simp
  | none =>
      cases scalarDefault? text with
      | some literal => simp
      | none =>
          cases enclosed? '(' ')' text with
          | none => simp
          | some inner => simp

/-- The literal to return for a type: the empty text when nothing is returned, none when no
literal is known. -/
def default? (type : TypeName) (known : KnownLiterals) : Option String :=
  defaultOf known type.text.toList

end TypeName

end Understudy
