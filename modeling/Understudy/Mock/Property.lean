import Understudy.Layout
import Understudy.Property
import Understudy.TypeName.Default

/-!
The text of a mocked stored property, with a counter of the times it was set.

A type with a default makes an initialized variable with an observer. Any other type is backed by
an implicitly unwrapped private slot behind a getter and a setter.
-/

namespace Understudy.Property

open Layout

def counterName (name : String) : String :=
  name ++ "SetCallCount"

def backingName (name : String) : String :=
  "_" ++ name

/-- Setting an instance property while it is initialized does not count. -/
def increment (name : String) (isStatic : Bool) : String :=
  if isStatic then counterName name ++ " += 1"
  else "if _doneInit \x7b " ++ counterName name ++ " += 1 \x7d"

def initializedLine (name : String) (type : TypeName) (isStatic : Bool) (modifiers : String)
    (literal : String) : String :=
  tab 1 ++ modifiers ++ "var " ++ name ++ ": " ++ type.text ++ " = " ++ literal ++
    " \x7b didSet \x7b " ++ increment name isStatic ++ " \x7d \x7d"

/-- The type of the backing slot; a function type needs parentheses before the mark. -/
def backingType (type : TypeName) : String :=
  if type.hasArrow then "(" ++ type.text ++ ")!" else type.text ++ "!"

def backedLines (name : String) (type : TypeName) (isStatic : Bool) (modifiers : String) :
    List String :=
  [tab 1 ++ "private " ++ keyword (staticWord isStatic) ++ "var " ++ backingName name ++ ": " ++
      backingType type,
    tab 1 ++ modifiers ++ "var " ++ name ++ ": " ++ type.text ++ " \x7b",
    tab 2 ++ "get \x7b return " ++ backingName name ++ " \x7d",
    tab 2 ++ "set \x7b",
    tab 3 ++ backingName name ++ " = newValue",
    tab 3 ++ increment name isStatic,
    tab 2 ++ "\x7d",
    tab 1 ++ "\x7d"]

/-- The text of a mocked property. A void type counts as one without a default. -/
def mockTextOf (name : String) (type : TypeName) (isStatic : Bool) (accessLevel : String)
    (known : KnownLiterals) : String :=
  let modifiers := keyword accessLevel ++ keyword (staticWord isStatic)
  let counterLine := tab 1 ++ modifiers ++ "var " ++ counterName name ++ " = 0"
  joinLines
    (counterLine ::
      match type.default? known with
      | none | some "" => backedLines name type isStatic modifiers
      | some literal => [initializedLine name type isStatic modifiers literal])

def mockText (property : Property) (known : KnownLiterals) : String :=
  mockTextOf property.name property.type property.isStatic property.accessLevel known

end Understudy.Property
