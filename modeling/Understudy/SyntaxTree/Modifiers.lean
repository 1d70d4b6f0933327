import Understudy.SyntaxTree
import Understudy.Text.Split

/-!
Modifiers and attributes of a declaration.
-/

namespace Understudy

structure Modifiers where
  accessLevel : String := ""
  isStatic : Bool := false
  attributes : List String := []
  /-- End of the last modifier or attribute. -/
  stop : Option Nat := none
deriving DecidableEq, Repr

namespace Modifiers

open Text

def accessLevels : List String :=
  ["open", "public", "package", "internal", "fileprivate", "private"]

/-- The first access level counts; `static` and `class` make a member static. -/
def addWord (modifiers : Modifiers) (word : String) : Modifiers :=
  if accessLevels.contains word then
    if modifiers.accessLevel == "" then { modifiers with accessLevel := word } else modifiers
  else if word == "static" || word == "class" then
    { modifiers with isStatic := true }
  else
    modifiers

def addAttribute (modifiers : Modifiers) (source : List Char) (tree : SyntaxTree) : Modifiers :=
  { modifiers with
    attributes := modifiers.attributes ++ [String.ofList (trim (tree.text source))] }

/-- One child of a modifier list. -/
def addListed (source : List Char) (modifiers : Modifiers) (tree : SyntaxTree) : Modifiers :=
  if tree.kind == "attribute" then modifiers.addAttribute source tree
  else ((words (tree.text source)).map String.ofList).foldl addWord modifiers

/-- One child of a declaration. A keyword directly on the declaration counts for members only,
where `class` means that the member belongs to the type. -/
def addChild (source : List Char) (isMember : Bool) (modifiers : Modifiers) (tree : SyntaxTree) :
    Modifiers :=
  if tree.kind == "modifiers" then
    { tree.children.foldl (addListed source) modifiers with stop := some tree.stop }
  else if tree.kind == "attribute" then
    { modifiers.addAttribute source tree with stop := some tree.stop }
  else if (tree.kind == "static" || tree.kind == "class") && isMember && !tree.isNamed then
    { modifiers with isStatic := true }
  else
    modifiers

def ofTree (source : List Char) (isMember : Bool) (tree : SyntaxTree) : Modifiers :=
  tree.children.foldl (addChild source isMember) {}

end Modifiers

end Understudy
