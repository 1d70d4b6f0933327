import Understudy.Text.CaseForms
import Understudy.Text.Cased
import Understudy.Text.Word

/-!
Upper and lower case with the full mappings, in which one character may become several, and the
rule for a sigma at the end of a word.
-/

namespace Understudy.Text

/-- The form of a character beyond ASCII: its expansion if it has one, else its image under the
first run that covers it, else itself. -/
def caseForm (expansions : List (Nat × List Nat)) (runs : List CaseRun) (c : Char) : List Char :=
  match expansions.find? fun entry => entry.1 == c.toNat with
  | some entry => entry.2.map Char.ofNat
  | none =>
      match runs.find? fun run => run.covers c.toNat with
      | some run => [Char.ofNat (run.image c.toNat)]
      | none => [c]

def upperForm (c : Char) : List Char :=
  if isAscii c then [c.toUpper] else caseForm upperExpansions upperRuns c

def lowerForm (c : Char) : List Char :=
  if isAscii c then [c.toLower] else caseForm lowerExpansions lowerRuns c

/-- Puts the first character into upper case and keeps the rest. -/
def capitalize : List Char → List Char
  | [] => []
  | c :: rest => upperForm c ++ rest

def meetsCased (text : List Char) : Bool :=
  match text.dropWhile (inRanges caseIgnorableRanges) with
  | [] => false
  | c :: _ => inRanges casedRanges c

/-- A capital sigma ends a word when a cased character comes before it and none after it, both
looked for through case-ignorable characters. -/
def sigmaForm (before after : List Char) : Char :=
  if meetsCased before && !meetsCased after then 'ς' else 'σ'

/-- Lower case of `text`, where `before` holds what precedes it in reverse order. -/
def lowerAfter (before : List Char) : List Char → List Char
  | [] => []
  | c :: rest =>
      (if c == 'Σ' then [sigmaForm before rest] else lowerForm c) ++ lowerAfter (c :: before) rest

def lower (text : List Char) : List Char :=
  lowerAfter [] text

end Understudy.Text
