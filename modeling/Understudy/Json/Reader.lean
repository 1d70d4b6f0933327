import Understudy.Json.Token

/-!
JSON values read from tokens, one token at a time. The reader keeps the arrays and objects that
are open, innermost first, with what they hold so far.
-/

namespace Understudy.Json

inductive Frame where
  | array (items : List Json)
  | object (entries : List (List Nat × Json)) (key : List Nat)

/-- What may come next. -/
inductive Stage where
  /-- A value. -/
  | value
  /-- A value, or the end of an empty array. -/
  | firstItem
  /-- A comma or the end of the innermost array or object. -/
  | afterItem
  /-- A key, or the end of an empty object. -/
  | firstKey
  /-- A key of the object that already holds these entries. -/
  | key (entries : List (List Nat × Json))
  /-- The colon after a key. -/
  | colon
  /-- Nothing, since the value is complete. -/
  | complete (value : Json)

structure Reader where
  stage : Stage
  frames : List Frame

namespace Reader

def start : Reader :=
  ⟨.value, []⟩

/-- Puts a finished value into the innermost array or object. -/
def deliver (value : Json) : List Frame → Reader
  | [] => ⟨.complete value, []⟩
  | .array items :: outer => ⟨.afterItem, .array (items ++ [value]) :: outer⟩
  | .object entries key :: outer => ⟨.afterItem, .object (entries ++ [(key, value)]) key :: outer⟩

/-- What a token does where a value may begin. -/
def beginValue (frames : List Frame) : Token → Option Reader
  | .atom value => some (deliver value frames)
  | .openArray => some ⟨.firstItem, .array [] :: frames⟩
  | .openObject => some ⟨.firstKey, frames⟩
  | _ => none

def step (reader : Reader) (token : Token) : Option Reader :=
  match reader.stage, token, reader.frames with
  | .value, token, frames => beginValue frames token
  | .firstItem, .closeArray, .array _ :: outer => some (deliver (.array []) outer)
  | .firstItem, token, frames => beginValue frames token
  | .afterItem, .comma, .array items :: outer => some ⟨.value, .array items :: outer⟩
  | .afterItem, .closeArray, .array items :: outer => some (deliver (.array items) outer)
  | .afterItem, .comma, .object entries _ :: outer => some ⟨.key entries, outer⟩
  | .afterItem, .closeObject, .object entries _ :: outer =>
      some (deliver (.object entries) outer)
  | .firstKey, .closeObject, frames => some (deliver (.object []) frames)
  | .firstKey, .atom (.string key), frames => some ⟨.colon, .object [] key :: frames⟩
  | .key entries, .atom (.string key), frames => some ⟨.colon, .object entries key :: frames⟩
  | .colon, .colon, frames => some ⟨.value, frames⟩
  | _, _, _ => none

end Reader

def parse? (text : String) : Option Json := do
  let tokens ← tokens? text.toList
  let reader ← tokens.foldlM Reader.step Reader.start
  match reader.stage with
  | .complete value => some value
  | _ => none

end Understudy.Json
