import Understudy.SyntaxTree.Callable
import Understudy.SyntaxTree.Property

/-!
Declarations read from a syntax tree: types with their members, callables, properties and imports.

Other syntax yields no declaration. Types nested in a type, and imports in it, are not among its
members, while grouping nodes, whose kind ends with `_declarations`, are looked through.
-/

namespace Understudy.SyntaxTree

open Text

def callableKind? (tree : SyntaxTree) : Option DeclarationKind :=
  if tree.kind == "function_declaration" || tree.kind == "protocol_function_declaration" then
    some .function
  else if tree.kind == "init_declaration" then some .initializer
  else if tree.kind == "subscript_declaration" then some .subscript
  else none

def isProperty (tree : SyntaxTree) : Bool :=
  tree.kind == "property_declaration" || tree.kind == "protocol_property_declaration"

/-- The callable or property that a node declares. -/
def member? (source : List Char) (tree : SyntaxTree) : Option Declaration :=
  match tree.callableKind? with
  | some kind => some (callable source kind tree)
  | none => if tree.isProperty then property? source tree else none

def isGroup (tree : SyntaxTree) : Bool :=
  "_declarations".toList.isSuffixOf tree.kind.toList

mutual

/-- The members that a node in the body of a type contributes. -/
def membersAt (source : List Char) : SyntaxTree → List Declaration
  | .node kind named start stop field children =>
      let tree := SyntaxTree.node kind named start stop field children
      match tree.member? source with
      | some declaration => [declaration]
      | none => if tree.isGroup then membersAmong source children else []

/-- The members that the named nodes of a list contribute, in order. -/
def membersAmong (source : List Char) : List SyntaxTree → List Declaration
  | [] => []
  | tree :: rest =>
      (if tree.isNamed then membersAt source tree else []) ++ membersAmong source rest

end

/-- The text of the keyword that introduces a class-like declaration. -/
def keywordText? (source : List Char) (tree : SyntaxTree) : Option String :=
  match tree.child? "declaration_kind" with
  | some child => some (String.ofList (child.text source))
  | none =>
      ((tree.children.filter fun child => !child.isNamed).map fun child =>
        String.ofList (child.text source)).find? fun text =>
          ["class", "struct", "enum", "extension", "actor"].contains text

/-- The kind of type that a node declares; structures and enumerations are none. -/
def typeKind? (source : List Char) (tree : SyntaxTree) : Option DeclarationKind :=
  if tree.kind == "protocol_declaration" then some .protocolType
  else if tree.kind == "class_declaration" then
    match tree.keywordText? source with
    | some "class" | some "actor" => some .classType
    | some "extension" => some .extensionType
    | _ => none
  else none

def typeName? (tree : SyntaxTree) : Option SyntaxTree :=
  (tree.child? "name").or
    (tree.namedChildren.find? fun child =>
      child.kind == "type_identifier" || child.kind == "user_type")

def typeBody? (tree : SyntaxTree) : Option SyntaxTree :=
  (tree.child? "body").or
    (tree.namedChildren.find? fun child => "_body".toList.isSuffixOf child.kind.toList)

def typeDeclaration (source : List Char) (kind : DeclarationKind) (tree : SyntaxTree) :
    Declaration :=
  let modifiers := Modifiers.ofTree source false tree
  let name? := tree.typeName?
  let body? := tree.typeBody?
  let signatureEnd := (name?.map stop).getD tree.start
  let bodyOffset := body?.map start
  { kind
    name := String.ofList ((name?.map fun name => trim (name.text source)).getD [])
    offset := tree.start
    length := tree.length
    signatureEnd
    bodyOffset
    accessLevel := modifiers.accessLevel
    attributes := modifiers.attributes
    inheritedTypes :=
      ((slice? source signatureEnd (bodyOffset.getD tree.stop)).map Header.inheritedTypes).getD []
    children := (body?.map fun body => membersAmong source body.children).getD [] }

def isImport (tree : SyntaxTree) : Bool :=
  tree.kind == "import_declaration"

def importDeclaration (source : List Char) (tree : SyntaxTree) : Declaration :=
  { kind := .importStatement
    name := String.ofList (trim (tree.text source))
    offset := tree.start
    length := tree.length }

def isTypeSyntax (tree : SyntaxTree) : Bool :=
  tree.kind == "protocol_declaration" || tree.kind == "class_declaration"

/-- The declaration that a node stands for, if any. -/
def declaration? (source : List Char) (tree : SyntaxTree) : Option Declaration :=
  if tree.isTypeSyntax then
    (tree.typeKind? source).map fun kind => typeDeclaration source kind tree
  else if tree.isImport then
    some (importDeclaration source tree)
  else
    tree.member? source

def topLevel (source : List Char) (tree : SyntaxTree) : List Declaration :=
  tree.namedChildren.filterMap (declaration? source)

end Understudy.SyntaxTree
