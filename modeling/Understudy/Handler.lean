import Understudy.Layout
import Understudy.Param
import Understudy.TypeName.Default

/-!
The handler of a mocked member: an optional closure that a test sets and the member calls.

Where a type mentions a generic parameter the closure has `Any` in its place, and a generic
result is cast back. Without a handler the member returns the default of its return type, or
stops when there is none.
-/

namespace Understudy

structure Handler where
  genericNames : List String
  /-- One forwarding expression for each parameter. -/
  arguments : List String
  paramTypes : List TypeName
  returnType : TypeName
  /-- The effects as they are written, separated by blanks. -/
  effects : String
  isStatic : Bool
deriving DecidableEq, Repr

namespace Handler

open Text Layout

def ofParams (generics params : List Param) (returnType : TypeName) (effects : String)
    (isStatic : Bool) : Handler :=
  { genericNames := generics.map Param.name
    arguments := params.map Param.forwarded
    paramTypes := params.map Param.type
    returnType
    effects
    isStatic }

def isGeneric (handler : Handler) (type : TypeName) : Bool :=
  handler.genericNames.any type.mentions

def hasEffect (handler : Handler) (effect : String) : Bool :=
  (words handler.effects.toList).contains effect.toList

def isAsync (handler : Handler) : Bool :=
  handler.hasEffect "async"

def isThrowing (handler : Handler) : Bool :=
  handler.hasEffect "throws" || handler.hasEffect "rethrows"

def parameterText (handler : Handler) (type : TypeName) : String :=
  if handler.isGeneric type then "Any" else type.closureParameter

def effectText (handler : Handler) : String :=
  (if handler.isAsync then " async" else "") ++ (if handler.isThrowing then " throws" else "")

def resultText (handler : Handler) : String :=
  if handler.returnType.isVoid then ""
  else if handler.isGeneric handler.returnType then "Any"
  else handler.returnType.text

/-- The type of the variable that holds the handler, such as `((Int) -> (String))?`. -/
def slotType (handler : Handler) : String :=
  "((" ++ commaList (handler.paramTypes.map handler.parameterText) ++ ")" ++ handler.effectText ++
    " -> (" ++ handler.resultText ++ "))?"

def returns (handler : Handler) : Bool :=
  !handler.returnType.isVoid

def call (handler : Handler) (slot : String) : String :=
  (if handler.returns then "return " else "") ++ (if handler.isThrowing then "try " else "") ++
    (if handler.isAsync then "await " else "") ++ slot ++ "(" ++ commaList handler.arguments ++
    ")" ++
    (if handler.returns && handler.isGeneric handler.returnType then
      " as! " ++ handler.returnType.text
    else "")

/-- What is done when the handler is not set. -/
def fallback (handler : Handler) (slot : String) (known : KnownLiterals) (level : Nat) :
    List String :=
  match handler.returnType.default? known with
  | some "" => []
  | some literal => [tab level ++ "return " ++ literal]
  | none =>
      [tab level ++ "fatalError(\"" ++ slot ++
        " returns can't have a default value thus its handler must be set\")"]

def invocation (handler : Handler) (slot : String) (known : KnownLiterals) (level : Nat) :
    List String :=
  [tab level ++ "if let " ++ slot ++ " = " ++ slot ++ " \x7b",
    tab (level + 1) ++ handler.call slot,
    tab level ++ "\x7d"] ++ handler.fallback slot known level

end Handler

end Understudy
