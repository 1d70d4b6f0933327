import Understudy.Method

/-!
The text of a mocked callable member.

An initializer becomes a `required init` that assigns every parameter. Every other member becomes
three: a call counter, a handler slot, and the member itself, which counts the call and passes it
on to the handler.
-/

namespace Understudy.Callable

open Layout

def genericClause (member : Callable) : String :=
  if member.generics.isEmpty then ""
  else "<" ++ commaList (member.generics.map Param.written) ++ ">"

def paramClause (member : Callable) : String :=
  "(" ++ commaList (member.params.map Param.written) ++ ")"

def returnClause (member : Callable) : String :=
  if member.returnType.isVoid then "" else " -> " ++ member.returnType.text

def modifiers (member : Callable) : String :=
  keyword member.accessLevel ++ keyword (staticWord member.isStatic)

def counterName (identifier : String) : String :=
  identifier ++ "CallCount"

def slotName (identifier : String) : String :=
  identifier ++ "Handler"

def initializerLines (member : Callable) : List String :=
  [tab 1 ++ keyword member.accessLevel ++ "required init" ++ member.genericClause ++
      member.paramClause ++ spaced member.effects ++ " \x7b"] ++
    member.params.map (fun param => tab 2 ++ "self." ++ param.name ++ " = " ++ param.name) ++
    [tab 2 ++ "_doneInit = true", tab 1 ++ "\x7d"]

/-- The lines that count a call and hand it to the handler. -/
def recordingLines (member : Callable) (identifier : String) (known : KnownLiterals)
    (level : Nat) : List String :=
  (tab level ++ counterName identifier ++ " += 1") ::
    match member.handler with
    | some handler => handler.invocation (slotName identifier) known level
    | none => []

def slotType (member : Callable) : String :=
  match member.handler with
  | some handler => handler.slotType
  | none => "Any?"

def recorderLines (member : Callable) (identifier : String) : List String :=
  [tab 1 ++ member.modifiers ++ "var " ++ counterName identifier ++ " = 0",
    tab 1 ++ member.modifiers ++ "var " ++ slotName identifier ++ ": " ++ member.slotType]

def openingLine (member : Callable) : String :=
  tab 1 ++ member.modifiers ++
    (match member.kind with
    | .subscript =>
        "subscript" ++ member.genericClause ++ member.paramClause ++ member.returnClause
    | .computedProperty => "var " ++ member.name ++ ": " ++ member.returnType.text
    | _ =>
        "func " ++ member.name ++ member.genericClause ++ member.paramClause ++
          spaced member.effects ++ member.returnClause) ++ " \x7b"

def bodyLines (member : Callable) (identifier : String) (known : KnownLiterals) : List String :=
  let getter :=
    [tab 2 ++ "get" ++ spaced member.effects ++ " \x7b"] ++
      member.recordingLines identifier known 3 ++ [tab 2 ++ "\x7d"]
  match member.kind with
  | .subscript => getter ++ [tab 2 ++ "set \x7b \x7d"]
  | .computedProperty => getter
  | _ => member.recordingLines identifier known 2

def mockLines (member : Callable) (identifier : String) (known : KnownLiterals) : List String :=
  member.recorderLines identifier ++ member.attributes.map (tab 1 ++ ·) ++
    [member.openingLine] ++ member.bodyLines identifier known ++ [tab 1 ++ "\x7d"]

def mockText (member : Callable) (identifier : String) (known : KnownLiterals) : String :=
  joinLines
    (match member.kind with
    | .initializer => member.initializerLines
    | _ => member.mockLines identifier known)

end Understudy.Callable
