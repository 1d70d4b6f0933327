import Understudy.Declaration.Effects
import Understudy.Declaration.Name
import Understudy.Failure
import Understudy.Handler
import Understudy.SourceCache
import Understudy.SourceContext

/-!
Callable members: functions, initializers, subscripts and computed properties.

A declaration becomes a method when its name has as many labels as the declaration has
parameters. The names of a method by level, `name`, `name` with one component, and so on, are what
overloads choose their identifiers from.
-/

namespace Understudy

inductive MethodKind where
  | function
  | initializer
  | subscript
  | computedProperty
deriving DecidableEq, Repr, Inhabited

/-- What a callable member declares: all that its mock is rendered from. -/
structure Callable where
  name : String
  kind : MethodKind
  generics : List Param
  params : List Param
  returnType : TypeName
  isStatic : Bool
  accessLevel : String
  /-- The effects as they are written, separated by blanks. -/
  effects : String
  attributes : List String
  handler : Option Handler
deriving DecidableEq, Repr

structure Method extends Callable where
  /-- The declared name with its labels, as in `foo(bar:_:)`. -/
  declaredName : String
  origin : Origin
  components : List String
deriving DecidableEq, Repr

/-- Every declaration that is no initializer, subscript or property counts as a function. -/
def MethodKind.ofDeclaration : DeclarationKind → MethodKind
  | .initializer => .initializer
  | .subscript => .subscript
  | .property => .computedProperty
  | _ => .function

def MethodKind.hasAccessors : MethodKind → Bool
  | .subscript | .computedProperty => true
  | _ => false

namespace Method

def effectsOf (source : String) (kind : MethodKind) (declaration : Declaration) : String :=
  let bodyStart := declaration.bodyOffset.getD declaration.stop
  let effects := Effects.afterSignature source declaration.signatureEnd bodyStart
  if effects == "" && kind.hasAccessors then
    Effects.onAccessor source bodyStart declaration.stop
  else
    effects

/-- The method that a declaration describes, once its labels and parameters are known to agree. -/
def build (context : SourceContext) (declaration : Declaration) (declared : DeclaredName) :
    Method :=
  let kind := MethodKind.ofDeclaration declaration.kind
  let params :=
    (declared.labels.zip declaration.params).map fun (label, param) =>
      Param.ofDeclaration label param
  let generics := declaration.genericParams.map (Param.ofDeclaration "")
  let returnType := TypeName.ofText declaration.typeText
  let effects := effectsOf context.source kind declaration
  { name := declared.name
    kind
    generics
    params
    returnType
    isStatic := declaration.isStatic
    accessLevel := declaration.accessLevel
    effects
    attributes := if declaration.hasAvailability then declaration.attributes else []
    handler :=
      if kind = .initializer then none
      else some (Handler.ofParams generics params returnType effects declaration.isStatic)
    declaredName := declaration.name
    origin := context.originOf declaration.offset declaration.length
    components := context.policy.components declared.name params generics returnType }

def ofDeclaration (context : SourceContext) (declaration : Declaration) :
    Except Failure Method :=
  let declared := DeclaredName.read declaration.name
  if declared.labels.length = declaration.params.length then
    .ok (build context declaration declared)
  else
    .error (.inconsistent context.path declaration.name declared.labels.length
      declaration.params.length)

def isInitializer (method : Method) : Bool :=
  method.kind == .initializer

def isSubscript (method : Method) : Bool :=
  method.kind == .subscript

def isProcessed (method : Method) : Bool :=
  method.origin.processed

/-- The method after text of another length was put in front of it. -/
def moveTo (method : Method) (offset : Nat) : Method :=
  { method with origin := { method.origin with offset } }

def fullName (method : Method) : String :=
  method.name ++ String.join method.components

/-- What distinguishes requirements: whether the member is static, its declared name, generic
constraints, parameter types and return type. A computed property has its name alone. -/
def signatureKey (method : Method) : String :=
  if method.kind == .computedProperty then
    method.declaredName
  else
    Layout.keyword (Layout.staticWord method.isStatic) ++ method.declaredName ++ "<" ++
      ",".intercalate
        (method.generics.map fun generic => generic.name ++ ":" ++ generic.type.text) ++
      ">(" ++ ",".intercalate (method.params.map fun param => param.type.text) ++ ")->" ++
      method.returnType.text

/-- What is added to the name from level `level` to the next: a component while there are any,
then the number of steps beyond them. -/
def levelSuffix (method : Method) (level : Nat) : String :=
  match method.components[level]? with
  | some component => component
  | none => toString (level + 1 - method.components.length)

/-- The name extended by `level` steps. -/
def nameAt (method : Method) : Nat → String
  | 0 => method.name
  | level + 1 => method.nameAt level ++ method.levelSuffix level

def cacheKey (method : Method) : CacheKey :=
  { path := method.origin.path
    name := method.declaredName
    typeText := method.returnType.text
    offset := method.origin.offset
    length := method.origin.length }

end Method

end Understudy
