import Understudy.Param
import Understudy.Text.LetterCase

/-!
Signature components: the fragments of names and types that tell overloads apart.
-/

namespace Understudy

structure SignaturePolicy where
  /-- A label with fewer characters is no component. -/
  minLabelLength : Nat := 2
  /-- Display names of types are cut to this many characters. -/
  maxTypeLength : Nat := 32
deriving DecidableEq, Repr, Inhabited

namespace SignaturePolicy

open Text

/-- The label of a parameter, or its name when the label is empty or `_`. -/
def labelText (param : Param) : List Char :=
  if param.label == "" || param.label == "_" then param.name.toList else param.label.toList

/-- The capitalized label. A label that is too short, or that the name of the member ends with
up to case, is left out: `getName(name:)` does not become `getNameName`. -/
def labelComponent? (policy : SignaturePolicy) (name : String) (param : Param) :
    Option (List Char) :=
  let label := labelText param
  if label.length < policy.minLabelLength then none
  else if (lower label).isSuffixOf (lower name.toList) then none
  else some (capitalize label)

def genericComponent (generic : Param) : List Char :=
  capitalize generic.name.toList ++ generic.type.displayName

def typeComponent (policy : SignaturePolicy) (type : TypeName) : List Char :=
  type.displayName.take policy.maxTypeLength

/-- The components that are not empty: labels, generic parameters, parameter types, and the
return type. -/
def components (policy : SignaturePolicy) (name : String) (params generics : List Param)
    (returnType : TypeName) : List String :=
  let all :=
    params.filterMap (policy.labelComponent? name) ++ generics.map genericComponent ++
      params.map (fun param => policy.typeComponent param.type) ++
      [policy.typeComponent returnType]
  (all.filter fun component => !component.isEmpty).map String.ofList

end SignaturePolicy

end Understudy
