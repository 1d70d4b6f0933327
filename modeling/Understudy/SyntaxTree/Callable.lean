import Understudy.Declaration
import Understudy.Declaration.Name
import Understudy.SyntaxTree.Header
import Understudy.SyntaxTree.Modifiers

/-!
Functions, initializers and subscripts read from a syntax tree.
-/

namespace Understudy.SyntaxTree

open Text

/-- What stands before and after the first colon; all of a text without one stands before. -/
def aroundColon (text : List Char) : List Char × List Char :=
  (cutAt? [':'] text).getD (text, [])

/-- The label and the internal name that a parameter begins with. A single name is both, and a
parameter without a name has no label. -/
def labelAndName (names : List Char) : String × String :=
  match (words names).map String.ofList with
  | [] => ("_", "")
  | [name] => (name, name)
  | label :: name :: _ => (label, name)

/-- The argument label of a parameter and its declaration under the internal name. -/
def parameter (source : List Char) (tree : SyntaxTree) : String × Declaration :=
  let (names, type) := aroundColon (tree.text source)
  let (label, name) := labelAndName names
  (label,
    { kind := .parameter
      name
      offset := tree.start
      length := tree.length
      typeText := String.ofList (trim type) })

def genericParameter (source : List Char) (tree : SyntaxTree) : Declaration :=
  let (name, constraint) := aroundColon (tree.text source)
  { kind := .genericParameter
    name := String.ofList (trim name)
    offset := tree.start
    length := tree.length
    typeText := String.ofList (trim constraint) }

/-- The name after the first `func ` of a text, up to a parenthesis, an angle bracket or a
blank. -/
def functionName (text : List Char) : List Char :=
  match cutAt? "func ".toList text with
  | some (_, rest) =>
      (upTo "func ".toList rest).takeWhile fun c => c != '(' && c != '<' && !isBlank c
  | none => []

def callableName (source : List Char) (kind : DeclarationKind) (tree : SyntaxTree) : String :=
  match kind with
  | .initializer => "init"
  | .subscript => "subscript"
  | _ =>
      match tree.child? "name" with
      | some name => String.ofList (trim (name.text source))
      | none => String.ofList (functionName (tree.text source))

/-- The end of the first closing parenthesis among the children, or the start of the tree. -/
def parameterListEnd (tree : SyntaxTree) : Nat :=
  match tree.children.find? fun child => child.kind == ")" && !child.isNamed with
  | some child => child.stop
  | none => tree.start

/-- The position of the first opening brace between two positions. -/
def bracePosition? (source : List Char) (start stop : Nat) : Option Nat := do
  let rest ← slice? source start stop
  let (before, _) ← cutAt? ['\x7b'] rest
  return start + byteLength before

def parameters (source : List Char) (tree : SyntaxTree) : List (String × Declaration) :=
  (tree.children.filter fun child => child.kind == "parameter").map (parameter source)

def genericParameters (source : List Char) (tree : SyntaxTree) : List Declaration :=
  (tree.children.filter fun child => child.kind == "type_parameters").flatMap fun list =>
    (list.namedChildren.filter fun child => child.kind == "type_parameter").map
      (genericParameter source)

def callable (source : List Char) (kind : DeclarationKind) (tree : SyntaxTree) : Declaration :=
  let modifiers := Modifiers.ofTree source true tree
  let params := parameters source tree
  let signatureEnd := tree.parameterListEnd
  let bodyOffset := bracePosition? source signatureEnd tree.stop
  let header := (slice? source signatureEnd (bodyOffset.getD tree.stop)).getD []
  let declared : DeclaredName := ⟨callableName source kind tree, params.map Prod.fst⟩
  { kind
    name := declared.written
    offset := tree.start
    length := tree.length
    signatureEnd
    bodyOffset
    typeText := Header.returnType header
    isStatic := modifiers.isStatic
    accessLevel := modifiers.accessLevel
    attributes := modifiers.attributes
    children := genericParameters source tree ++ params.map Prod.snd }

end Understudy.SyntaxTree
