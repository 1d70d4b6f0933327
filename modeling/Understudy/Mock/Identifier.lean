import Understudy.Member
import Understudy.Mock.Method
import Understudy.Mock.Property

/-!
The identifiers under which the members of one mock class are recorded.

Stored properties reserve their names first, and with them the setter counter that a fresh one
declares. Then each fresh method in turn takes the least level at which its name, counter and
handler slot are all free. Processed members and initializers keep their names and claim none.

Names grow from level to level, and each reserved name can be one of the three names of a level at
most once; so among the levels up to the number of components plus three for each reserved name
one is free.
-/

namespace Understudy.Identifier

/-- The names that a recorded member declares. -/
def recordingNames (identifier : String) : List String :=
  [identifier, Callable.counterName identifier, Callable.slotName identifier]

/-- The names that a member reserves before any method chooses. -/
def reservedBy : Member → List String
  | .stored property =>
      if property.isProcessed then [property.name]
      else [property.name, Property.counterName property.name]
  | .callable _ => []

def isFree (used : List String) (identifier : String) : Bool :=
  (recordingNames identifier).all fun name => !used.contains name

/-- The first free name of a method, tried from level `level` on for `tries` levels. -/
def firstFree (method : Method) (used : List String) (level : Nat) : Nat → String
  | 0 => method.fullName
  | tries + 1 =>
      let candidate := method.nameAt level
      if isFree used candidate then candidate else firstFree method used (level + 1) tries

def choose (method : Method) (used : List String) : String :=
  firstFree method used 0 (method.components.length + 3 * used.length + 1)

def keepsName (method : Method) : Bool :=
  method.isInitializer || method.isProcessed

def resolveFrom (used : List String) : List Member → List String
  | [] => []
  | .stored property :: rest => property.name :: resolveFrom used rest
  | .callable method :: rest =>
      if keepsName method then
        method.name :: resolveFrom used rest
      else
        let identifier := choose method used
        identifier :: resolveFrom (recordingNames identifier ++ used) rest

def resolve (members : List Member) : List String :=
  resolveFrom (members.flatMap reservedBy) members

end Understudy.Identifier
