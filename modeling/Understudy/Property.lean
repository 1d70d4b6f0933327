import Understudy.Declaration
import Understudy.SourceCache
import Understudy.SourceContext

/-!
Stored properties of mocked types.
-/

namespace Understudy

structure Property where
  name : String
  type : TypeName
  origin : Origin
  accessLevel : String
  isStatic : Bool
  settable : Bool
deriving DecidableEq, Repr

namespace Property

def ofDeclaration (context : SourceContext) (declaration : Declaration) : Property :=
  { name := declaration.name
    type := TypeName.ofText declaration.typeText
    origin := context.originOf declaration.offset declaration.length
    accessLevel := declaration.accessLevel
    isStatic := declaration.isStatic
    settable := declaration.settable }

def isProcessed (property : Property) : Bool :=
  property.origin.processed

def cacheKey (property : Property) : CacheKey :=
  { path := property.origin.path
    name := property.name
    typeText := property.type.text
    offset := property.origin.offset
    length := property.origin.length }

end Property

end Understudy
