import Understudy.Text.Bytes

/-!
Concrete syntax trees of source files, as a parser of the language yields them.

A node covers the bytes from `start` up to `stop` of the text. A tree is written as the list of
its nodes in preorder, each with its depth.
-/

namespace Understudy

inductive SyntaxTree where
  | node (kind : String) (named : Bool) (start stop : Nat) (field : Option String)
      (children : List SyntaxTree)
deriving Repr, Inhabited

/-- One node of a tree in preorder. -/
structure PreorderRow where
  depth : Nat
  kind : String
  named : Bool
  start : Nat
  stop : Nat
  /-- The name by which the parent knows the node. -/
  field : Option String
deriving Repr

namespace SyntaxTree

open Text

def kind : SyntaxTree → String
  | .node kind _ _ _ _ _ => kind

def isNamed : SyntaxTree → Bool
  | .node _ named _ _ _ _ => named

def start : SyntaxTree → Nat
  | .node _ _ start _ _ _ => start

def stop : SyntaxTree → Nat
  | .node _ _ _ stop _ _ => stop

def field? : SyntaxTree → Option String
  | .node _ _ _ _ field _ => field

def children : SyntaxTree → List SyntaxTree
  | .node _ _ _ _ _ children => children

def length (tree : SyntaxTree) : Nat :=
  tree.stop - tree.start

def namedChildren (tree : SyntaxTree) : List SyntaxTree :=
  tree.children.filter isNamed

/-- The child that carries a field name. -/
def child? (tree : SyntaxTree) (field : String) : Option SyntaxTree :=
  tree.children.find? fun child => child.field? == some field

/-- The text that a node covers; empty when its range cuts no text. -/
def text (tree : SyntaxTree) (source : List Char) : List Char :=
  (slice? source tree.start tree.stop).getD []

/-- Puts a node in front of the nodes that follow it in preorder: the deeper ones are its
children. -/
def gather (row : PreorderRow) (following : List (Nat × SyntaxTree)) :
    List (Nat × SyntaxTree) :=
  let isBelow := fun (entry : Nat × SyntaxTree) => row.depth < entry.1
  (row.depth,
      .node row.kind row.named row.start row.stop row.field
        ((following.takeWhile isBelow).map Prod.snd)) ::
    following.dropWhile isBelow

/-- The first tree that a list of nodes in preorder writes. -/
def ofPreorder? (rows : List PreorderRow) : Option SyntaxTree :=
  ((rows.foldr gather []).head?).map Prod.snd

end SyntaxTree

end Understudy
