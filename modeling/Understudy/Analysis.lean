import Understudy.Entity
import Understudy.Json
import Understudy.Mock.Identifier

/-!
What an analysis reports of an entity: its members and the identifiers that a mock of it would
give them.
-/

namespace Understudy

structure AnalyzedMember where
  name : String
  kind : String
  fullName : String
  identifier : String
deriving DecidableEq, Repr

structure AnalyzedEntity where
  name : String
  kind : String
  isAnnotated : Bool
  inheritedTypes : List String
  members : List AnalyzedMember
deriving DecidableEq, Repr

namespace AnalyzedEntity

def kindWord : EntityKind → String
  | .protocolType => "protocol"
  | .classType => "class"
  | .extensionType => "extension"

def memberKindWord : Member → String
  | .stored _ => "property"
  | .callable method =>
      match method.kind with
      | .initializer => "initializer"
      | .subscript => "subscript"
      | .computedProperty => "computed property"
      | .function => "method"

def ofEntity (entity : Entity) : AnalyzedEntity :=
  { name := entity.name
    kind := kindWord entity.kind
    isAnnotated := entity.isAnnotated
    inheritedTypes := entity.inheritedTypes
    members :=
      (entity.members.zip (Identifier.resolve entity.members)).map fun (member, identifier) =>
        { name := member.name
          kind := memberKindWord member
          fullName := member.fullName
          identifier } }

def memberJson (member : AnalyzedMember) : Json :=
  .record
    [("name", .text member.name),
      ("kind", .text member.kind),
      ("full_name", .text member.fullName),
      ("identifier", .text member.identifier)]

def toJson (entity : AnalyzedEntity) : Json :=
  .record
    [("name", .text entity.name),
      ("kind", .text entity.kind),
      ("annotated", .bool entity.isAnnotated),
      ("inherited_types", .texts entity.inheritedTypes),
      ("members", .array (entity.members.map memberJson))]

/-- A text filled up with spaces to a width in characters. -/
def padded (width : Nat) (text : String) : String :=
  text ++ String.ofList (List.replicate (width - text.length) ' ')

def memberLine (member : AnalyzedMember) : String :=
  "   • " ++ padded 18 member.kind ++ " " ++ padded 24 member.name ++ " full name: " ++
    member.fullName ++ ", mock id: " ++ member.identifier

def lines (entity : AnalyzedEntity) : List String :=
  ["", "📦 " ++ entity.kind ++ " " ++ entity.name ++ (if entity.isAnnotated then " 🎯" else "")] ++
    (if entity.inheritedTypes.isEmpty then []
    else ["   inherits: " ++ ", ".intercalate entity.inheritedTypes]) ++
    entity.members.map memberLine

def report (path : Path) (entities : List AnalyzedEntity) : List String :=
  ["🔍 Analyzing: " ++ path.text, String.ofList (List.replicate 80 '=')] ++
    (if entities.isEmpty then ["", "No protocols or classes found"] else []) ++
    entities.flatMap lines

end AnalyzedEntity

end Understudy
