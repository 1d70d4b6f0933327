import Understudy.Entity
import Understudy.Mock.Identifier
import Understudy.SourceCache

/-!
The text of a mock class.

Fresh members are rendered; processed ones are taken from their file byte for byte, apart from
blanks before them, and processed initializers are left out.
-/

namespace Understudy.Mock

open Layout

/-- The text of a method under its identifier; none for a processed initializer. -/
def methodText (disk : Disk) (known : KnownLiterals) (identifier : String) (method : Method)
    (cache : SourceCache) : Except Failure (Option String) × SourceCache :=
  if method.isProcessed then
    if method.isInitializer then
      (.ok none, cache)
    else
      let (text, cache) := cache.extract disk method.cacheKey
      (text.map some, cache)
  else
    (.ok (some (method.toCallable.mockText identifier known)), cache)

def propertyText (disk : Disk) (known : KnownLiterals) (property : Property)
    (cache : SourceCache) : Except Failure String × SourceCache :=
  if property.isProcessed then cache.extract disk property.cacheKey
  else (.ok (property.mockText known), cache)

def memberText (disk : Disk) (known : KnownLiterals) (identifier : String) (member : Member)
    (cache : SourceCache) : Except Failure (Option String) × SourceCache :=
  match member with
  | .callable method => methodText disk known identifier method cache
  | .stored property =>
      let (text, cache) := propertyText disk known property cache
      (text.map some, cache)

def placed (member : Member) (text : String) : String :=
  if member.isProcessed then tab 1 ++ String.ofList (Text.trimStart text.toList) else text

def memberTexts (disk : Disk) (known : KnownLiterals) :
    List (Member × String) → SourceCache → Except Failure (List String) × SourceCache
  | [], cache => (.ok [], cache)
  | (member, identifier) :: rest, cache =>
      match memberText disk known identifier member cache with
      | (.error failure, cache) => (.error failure, cache)
      | (.ok text?, cache) =>
          let (texts, cache) := memberTexts disk known rest cache
          (texts.map ((text?.map (placed member)).toList ++ ·), cache)

/-- Fresh initializers take the place of the default one. -/
def hasFreshInitializer (members : List Member) : Bool :=
  members.any fun member => member.isInitializer && !member.isProcessed

def headLines (entity : Entity) (members : List Member) (isFinal : Bool) : List String :=
  [keyword entity.accessLevel ++ keyword (if isFinal then "final" else "") ++ "class " ++
      entity.mockName ++ ": " ++ entity.name ++ " \x7b",
    tab 1 ++ "private var _doneInit = false"] ++
    if hasFreshInitializer members then []
    else [tab 1 ++ keyword entity.accessLevel ++ "init() \x7b _doneInit = true \x7d"]

/-- The class that mocks an entity with its own and inherited members. -/
def classText (disk : Disk) (known : KnownLiterals) (entity : Entity) (members : List Member)
    (isFinal : Bool) (cache : SourceCache) : Except Failure String × SourceCache :=
  let (texts, cache) :=
    memberTexts disk known (members.zip (Identifier.resolve members)) cache
  (texts.map fun texts => joinLines (headLines entity members isFinal ++ texts ++ ["\x7d"]),
    cache)

end Understudy.Mock
