import Understudy.Method
import Understudy.Property

/-!
Members of an entity, callable or stored.
-/

namespace Understudy

inductive Member where
  | callable (method : Method)
  | stored (property : Property)
deriving DecidableEq, Repr

namespace Member

def name : Member → String
  | .callable method => method.name
  | .stored property => property.name

def fullName : Member → String
  | .callable method => method.fullName
  | .stored property => property.name

/-- What members are merged by when they are inherited. -/
def signatureKey : Member → String
  | .callable method => method.signatureKey
  | .stored property => property.name

def isInitializer : Member → Bool
  | .callable method => method.isInitializer
  | .stored _ => false

def isProcessed : Member → Bool
  | .callable method => method.isProcessed
  | .stored property => property.isProcessed

/-- The member that a declaration describes; none when the declaration is no member. -/
def ofDeclaration? (context : SourceContext) (declaration : Declaration) :
    Except Failure (Option Member) :=
  match declaration.kind with
  | .function | .initializer | .subscript =>
      (Method.ofDeclaration context declaration).map fun method => some (.callable method)
  | .property =>
      if declaration.computed then
        (Method.ofDeclaration context declaration).map fun method => some (.callable method)
      else
        .ok (some (.stored (Property.ofDeclaration context declaration)))
  | _ => .ok none

end Member

end Understudy
