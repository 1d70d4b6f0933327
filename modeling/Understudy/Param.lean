import Understudy.Declaration
import Understudy.TypeName

/-!
Parameters of callables, and generic parameters with their constraints.
-/

namespace Understudy

structure Param where
  name : String
  /-- The argument label: `_` for an argument without one, the name when none is written. -/
  label : String
  type : TypeName
  isGeneric : Bool
deriving DecidableEq, Repr

namespace Param

def value (label name : String) (type : TypeName) : Param :=
  { name, label, type, isGeneric := false }

def generic (name : String) (constraint : TypeName) : Param :=
  { name, label := name, type := constraint, isGeneric := true }

/-- The parameter that a declaration describes, under the label that its owner's name gives it. -/
def ofDeclaration (label : String) (declaration : Declaration) : Param :=
  let type := TypeName.ofText declaration.typeText
  if declaration.isGenericParameter then generic declaration.name type
  else value label declaration.name type

/-- The fragment that declares the parameter: `label name: Type`, `name: Type`, or
`T: Constraint`. -/
def written (param : Param) : String :=
  if param.isGeneric then
    if param.type.isUnwritten then param.name else param.name ++ ": " ++ param.type.text
  else if param.label == "" || param.label == param.name then
    param.name ++ ": " ++ param.type.text
  else
    param.label ++ " " ++ param.name ++ ": " ++ param.type.text

def forwarded (param : Param) : String :=
  if param.type.isInout then "&" ++ param.name
  else if param.type.isAutoclosure then param.name ++ "()"
  else param.name

end Param

end Understudy
