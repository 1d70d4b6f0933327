import Understudy.Declaration
import Understudy.SyntaxTree.Modifiers
import Understudy.Text.Word

/-!
Properties read from a syntax tree.

A property is computed when it has a block of accessors and no setter in it. An initial value may
hold braces of its own, so a brace after an equals sign opens no block.
-/

namespace Understudy.SyntaxTree

open Text

inductive PropertyKeyword where
  | variable
  | constant
deriving DecidableEq, Repr

/-- What stands before and after the first `var ` or `let `, whichever comes first; the blank
belongs to what stands after. -/
def cutAtKeyword? : List Char → Option (List Char × PropertyKeyword × List Char)
  | [] => none
  | c :: rest =>
      if "var ".toList.isPrefixOf (c :: rest) then some ([], .variable, (c :: rest).drop 3)
      else if "let ".toList.isPrefixOf (c :: rest) then some ([], .constant, (c :: rest).drop 3)
      else (cutAtKeyword? rest).map fun (before, keyword, after) => (c :: before, keyword, after)

def isPropertyNameChar (c : Char) : Bool :=
  isAlphanumeric c || c == '_' || c == '\x60'

/-- The block that begins with the first brace, unless an equals sign comes before it. -/
def accessorBlock? (text : List Char) : Option (List Char) :=
  match text.dropWhile fun c => c != '\x7b' && c != '=' with
  | '\x7b' :: rest => some ('\x7b' :: rest)
  | _ => none

/-- The written type of a property, up to its value or block. -/
def propertyType (text : List Char) : List Char :=
  match trimStart text with
  | ':' :: rest => trim (rest.takeWhile fun c => c != '\x7b' && c != '=')
  | _ => []

def hasSetter (block : List Char) : Bool :=
  contains "set".toList block || contains "didSet".toList block ||
    contains "willSet".toList block

def property? (source : List Char) (tree : SyntaxTree) : Option Declaration := do
  let modifiers := Modifiers.ofTree source true tree
  let textStart := modifiers.stop.getD tree.start
  let text ← slice? source textStart tree.stop
  let (before, keyword, after) ← cutAtKeyword? text
  let blanks := after.takeWhile isBlank
  let declared := after.dropWhile isBlank
  let name := declared.takeWhile isPropertyNameChar
  let remainder := declared.dropWhile isPropertyNameChar
  if name.isEmpty then none
  let block? := accessorBlock? remainder
  let settable :=
    keyword == .variable &&
      match block? with
      | some block => hasSetter block
      | none => true
  return {
    kind := .property
    name := String.ofList name
    offset := tree.start
    length := tree.length
    signatureEnd := textStart + byteLength before + 3 + byteLength blanks + byteLength name
    bodyOffset := block?.map fun block => tree.stop - byteLength block
    typeText := String.ofList (propertyType remainder)
    isStatic := modifiers.isStatic
    accessLevel := modifiers.accessLevel
    attributes := modifiers.attributes
    settable
    computed := block?.isSome && !settable }

end Understudy.SyntaxTree
