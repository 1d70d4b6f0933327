import Understudy.Text.Bytes
import Understudy.Text.Split
import Understudy.Text.Token

/-!
The effects of a callable: `async`, `throws` and `rethrows`, written after its parameter list or
on its `get` accessor.
-/

namespace Understudy.Effects

open Text

def keywords : List (List Char) :=
  ["async".toList, "rethrows".toList, "throws".toList]

def accessorKeywords : List (List Char) :=
  ["async".toList, "throws".toList]

def spaced (found : List (List Char)) : String :=
  " ".intercalate (found.map String.ofList)

/-- The effect keywords between two byte positions, up to the first arrow, since a return type may
hold such words too. -/
def afterSignature (source : String) (start stop : Nat) : String :=
  match slice? source.toList start (max stop start) with
  | some between =>
      spaced (((tokens (upTo "->".toList between)).filterMap Token.word?).filter keywords.contains)
  | none => ""

/-- The effect keywords that follow at once, each after one or more blanks. -/
def leading : List Token → List (List Char)
  | .blank :: .blank :: rest => leading (.blank :: rest)
  | .blank :: .word text :: rest =>
      if accessorKeywords.contains text then text :: leading rest else []
  | _ => []

/-- The effects of the first `get` that has any. -/
def ofGetter : List Token → List (List Char)
  | [] => []
  | .word text :: rest =>
      if text == "get".toList && !(leading rest).isEmpty then leading rest else ofGetter rest
  | _ :: rest => ofGetter rest

/-- The effect keywords on the `get` accessor of the block between two byte positions. -/
def onAccessor (source : String) (start stop : Nat) : String :=
  match slice? source.toList start (max stop start) with
  | some block => spaced (ofGetter (tokens block))
  | none => ""

end Understudy.Effects
