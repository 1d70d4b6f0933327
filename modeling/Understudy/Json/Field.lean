import Understudy.Json
import Understudy.Text.Decimal

/-!
JSON values read as what a field is expected to hold, and the fields of a record.
-/

namespace Understudy.Json

def asText? : Json → Option String
  | .string codes => textOf? codes
  | _ => none

def asBool? : Json → Option Bool
  | .bool value => some value
  | _ => none

def asTexts? : Json → Option (List String)
  | .array items => items.mapM asText?
  | _ => none

/-- A count is written in digits alone. -/
def asCount? : Json → Option Nat
  | .number literal => Text.count? literal.toList
  | _ => none

/-- A field that may be left empty by writing null. -/
def orNull {α : Type} (read : Json → Option α) : Json → Option (Option α)
  | .null => some none
  | value => (read value).map some

def noRepeats : List String → Bool
  | [] => true
  | name :: rest => !rest.contains name && noRepeats rest

/-- The known fields of a record with their values, none of them twice. A record may also be
written as an array of its fields in order, where the last ones may be left out. -/
def fieldsOf? (known : List String) : Json → Option (List (String × Json))
  | .object entries => do
      let named ← entries.mapM fun (key, value) =>
        (textOf? key).map fun name => (name, value)
      let found := named.filter fun (name, _) => known.contains name
      if noRepeats (found.map Prod.fst) then some found else none
  | .array items => if items.length ≤ known.length then some (known.zip items) else none
  | _ => none

def field {α : Type} (fields : List (String × Json)) (name : String) (read : Json → Option α)
    (default : α) : Option α :=
  match fields.lookup name with
  | some value => read value
  | none => some default

end Understudy.Json
