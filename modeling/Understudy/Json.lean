import Understudy.Layout

/-!
JSON values and their indented text.

A string is a list of code points, since an escape may name half of a surrogate pair and leave
it alone; such a string is no text. A number is the literal that writes it.
-/

namespace Understudy

inductive Json where
  | null
  | bool (value : Bool)
  | number (literal : String)
  | string (codes : List Nat)
  | array (items : List Json)
  | object (entries : List (List Nat × Json))
deriving Repr, Inhabited

namespace Json

def codesOf (text : String) : List Nat :=
  text.toList.map Char.toNat

/-- The character of a code point; surrogates and numbers beyond the last code point have none. -/
def charOf? (code : Nat) : Option Char :=
  if code.isValidChar then some (Char.ofNat code) else none

theorem charOf?_toNat (c : Char) : charOf? c.toNat = some c := by
  have hvalid : c.toNat.isValidChar := c.valid
  rw [charOf?, if_pos hvalid, Char.ofNat_toNat]

/-- The text that code points spell, unless one of them is no character. -/
def textOf? (codes : List Nat) : Option String :=
  (codes.mapM charOf?).map String.ofList

theorem textOf?_codesOf (text : String) : textOf? (codesOf text) = some text := by
  have hmap (cs : List Char) : (cs.map Char.toNat).mapM charOf? = some cs := by
    induction cs with
    | nil => rfl
    | cons c rest ih => simp [List.mapM_cons, ih, charOf?_toNat]
  rw [textOf?, codesOf, hmap, Option.map_some, String.ofList_toList]

def text (value : String) : Json :=
  .string (codesOf value)

def natural (value : Nat) : Json :=
  .number (toString value)

def texts (values : List String) : Json :=
  .array (values.map text)

def record (fields : List (String × Json)) : Json :=
  .object (fields.map fun (name, value) => (codesOf name, value))

def hexDigit (value : Nat) : Char :=
  Nat.digitChar value

/-- A code point as an escape with four hexadecimal digits. -/
def unicodeEscape (code : Nat) : List Char :=
  ['\\', 'u', hexDigit (code / 0x1000 % 16), hexDigit (code / 0x100 % 16),
    hexDigit (code / 0x10 % 16), hexDigit (code % 16)]

/-- A code point as it stands between quotes: control characters, quotes, backslashes and lone
surrogates are escaped, by a letter where there is one. -/
def written (code : Nat) : List Char :=
  if code == 0x22 then ['\\', '"']
  else if code == 0x5C then ['\\', '\\']
  else if code == 0x8 then ['\\', 'b']
  else if code == 0x9 then ['\\', 't']
  else if code == 0xA then ['\\', 'n']
  else if code == 0xC then ['\\', 'f']
  else if code == 0xD then ['\\', 'r']
  else if code < 0x20 || !code.isValidChar then unicodeEscape code
  else [Char.ofNat code]

def quoted (codes : List Nat) : String :=
  "\"" ++ String.ofList (codes.flatMap written) ++ "\""

def indent (level : Nat) : String :=
  String.ofList (List.replicate (2 * level) ' ')

/-- Items between brackets, each on a line of its own; nothing between them when there is none. -/
def enclose (opening closing : String) (level : Nat) (items : List String) : String :=
  match items with
  | [] => opening ++ closing
  | items =>
      opening ++ "\n" ++ ",\n".intercalate (items.map (indent (level + 1) ++ ·)) ++ "\n" ++
        indent level ++ closing

mutual

/-- The indented text of a value that stands `level` deep. -/
def prettyAt (level : Nat) : Json → String
  | .null => "null"
  | .bool value => if value then "true" else "false"
  | .number literal => literal
  | .string codes => quoted codes
  | .array items => enclose "[" "]" level (prettyItems (level + 1) items)
  | .object entries => enclose "\x7b" "\x7d" level (prettyEntries (level + 1) entries)

def prettyItems (level : Nat) : List Json → List String
  | [] => []
  | item :: rest => prettyAt level item :: prettyItems level rest

def prettyEntries (level : Nat) : List (List Nat × Json) → List String
  | [] => []
  | (key, value) :: rest =>
      (quoted key ++ ": " ++ prettyAt level value) :: prettyEntries level rest

end

def pretty (value : Json) : String :=
  prettyAt 0 value

end Json

end Understudy
