import Understudy.Entity
import Understudy.SyntaxTree.Declaration

/-!
The entities and imports of one file, collected from its whole syntax tree.

The walk goes through named nodes in document order. It does not go below imports and type
declarations, whose members were read with the type.
-/

namespace Understudy

structure FileDeclarations where
  entities : List Entity := []
  imports : List String := []
deriving Repr

namespace FileDeclarations

def append (left right : FileDeclarations) : FileDeclarations :=
  ⟨left.entities ++ right.entities, left.imports ++ right.imports⟩

end FileDeclarations

namespace SyntaxTree

open Text

/-- What a type declaration contributes; structures and enumerations contribute nothing. -/
def collectType (context : SourceContext) (tree : SyntaxTree) :
    Except Failure FileDeclarations :=
  let source := context.source.toList
  match tree.typeKind? source with
  | some kind =>
      (Entity.ofDeclaration context (typeDeclaration source kind tree)).map fun entity =>
        { entities := [entity] }
  | none => .ok {}

mutual

def collect (context : SourceContext) : SyntaxTree → Except Failure FileDeclarations
  | .node kind named start stop field children =>
      let tree := SyntaxTree.node kind named start stop field children
      if tree.isImport then
        .ok { imports := [String.ofList (trim (tree.text context.source.toList))] }
      else if tree.isTypeSyntax then
        collectType context tree
      else
        collectAmong context children

/-- What the named nodes of a list contribute, up to the first failure. -/
def collectAmong (context : SourceContext) : List SyntaxTree → Except Failure FileDeclarations
  | [] => .ok {}
  | tree :: rest =>
      if tree.isNamed then
        match collect context tree with
        | .error failure => .error failure
        | .ok first => (collectAmong context rest).map first.append
      else
        collectAmong context rest

end

end SyntaxTree

end Understudy
