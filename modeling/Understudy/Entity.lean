import Understudy.Declaration.Comment
import Understudy.Member

/-!
Declared types with their members.

An entity fails to be built exactly with the first of its members that fails. It is annotated
when the comment above its declaration contains the marker.
-/

namespace Understudy

inductive EntityKind where
  | protocolType
  | classType
  | extensionType
deriving DecidableEq, Repr, Inhabited

structure Entity where
  name : String
  kind : EntityKind
  path : Path
  accessLevel : String
  attributes : List String
  inheritedTypes : List String
  isAnnotated : Bool
  isProcessed : Bool
  offset : Nat
  length : Nat
  members : List Member
deriving DecidableEq, Repr

def EntityKind.ofDeclaration : DeclarationKind → EntityKind
  | .protocolType => .protocolType
  | .extensionType => .extensionType
  | _ => .classType

namespace Entity

/-- The members among the declarations in a type, in order. -/
def membersOf (context : SourceContext) : List Declaration → Except Failure (List Member)
  | [] => .ok []
  | declaration :: rest =>
      match Member.ofDeclaration? context declaration with
      | .error failure => .error failure
      | .ok member? => (membersOf context rest).map (member?.toList ++ ·)

def isMarked (context : SourceContext) (offset : Nat) : Bool :=
  context.marker != "" &&
    (Comment.above context.source offset).any fun line =>
      Text.contains context.marker.toList line.toList

def ofDeclaration (context : SourceContext) (declaration : Declaration) :
    Except Failure Entity :=
  (membersOf context declaration.children).map fun members =>
    { name := declaration.name
      kind := EntityKind.ofDeclaration declaration.kind
      path := context.path
      accessLevel := declaration.accessLevel
      attributes := declaration.attributes
      inheritedTypes := declaration.inheritedTypes
      isAnnotated := isMarked context declaration.offset
      isProcessed := context.processed
      offset := declaration.offset
      length := declaration.length
      members }

/-- The entities of a list of declarations, up to the first that fails. -/
def allOf (context : SourceContext) (declarations : List Declaration) :
    Except Failure (List Entity) :=
  declarations.mapM (ofDeclaration context)

def mockName (entity : Entity) : String :=
  entity.name ++ "Mock"

/-- The protocol that a generated class mocks: its name without the ending `Mock`. -/
def mockedName? (entity : Entity) : Option String :=
  match Text.stripEnd? "Mock".toList entity.name.toList with
  | some [] => none
  | some name => some (String.ofList name)
  | none => none

def hasInitializer (entity : Entity) : Bool :=
  entity.members.any Member.isInitializer

end Entity

end Understudy
