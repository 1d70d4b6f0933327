import Understudy.FileTree
import Understudy.Generation
import Understudy.Json.Field
import Understudy.Json.Reader

/-!
Syntax trees that a parser stored beside the source files.

The tree of `A.swift` lies in `A.swift.tree`: a JSON array with one array for each node in
preorder, `[depth, kind, named, start, stop]`, followed by the field name if the node has one.
`named` is 1 or 0.
-/

namespace Understudy.StoredTree

open Json

def ending : String :=
  ".tree"

def row? : Json → Option PreorderRow
  | .array (depth :: kind :: named :: start :: stop :: rest) => do
      return {
        depth := ← asCount? depth
        kind := ← asText? kind
        named := (← asCount? named) == 1
        start := ← asCount? start
        stop := ← asCount? stop
        field := ← match rest with
          | [] => some none
          | [field] => (asText? field).map some
          | _ => none }
  | _ => none

/-- The tree that a stored text writes. -/
def read? (text : String) : Option SyntaxTree :=
  match parse? text with
  | some (.array rows) => (rows.mapM row?).bind SyntaxTree.ofPreorder?
  | _ => none

def textOf? (bytes : List UInt8) : Option String :=
  (Text.Utf8.decode bytes).toOption.map String.ofList

/-- The place of a tree's file, beside that of its source file. -/
def placeFor (names : List String) : List String :=
  names.dropLast ++ names.getLast?.toList.map (· ++ ending)

/-- The source text and the tree of a file whose tree is stored. -/
def stored? (root : FileTree) (names : List String) (bytes : List UInt8) :
    Option (String × SyntaxTree) := do
  let source ← textOf? bytes
  match root.at? (placeFor names) with
  | some (.file treeBytes) => do
      let tree ← (textOf? treeBytes).bind read?
      return (source, tree)
  | _ => none

def blank : SyntaxTree :=
  .node "source_file" true 0 0 none []

/-- The trees stored in a file tree. A text without a stored tree declares nothing. -/
def grammar (root : FileTree) : Grammar :=
  let trees := (root.files []).filterMap fun (names, bytes) => stored? root names bytes
  fun source => (trees.lookup source).getD blank

end Understudy.StoredTree
