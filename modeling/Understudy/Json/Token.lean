import Understudy.Json

/-!
The tokens of a JSON text, read character by character.

A word or number ends where a blank, a bracket, a comma, a colon or a quote begins. Two escapes
that follow each other and name the halves of a surrogate pair make one code point.
-/

namespace Understudy.Json

inductive Token where
  | openArray
  | closeArray
  | openObject
  | closeObject
  | comma
  | colon
  | atom (value : Json)

def isJsonBlank (c : Char) : Bool :=
  c == ' ' || c == '\n' || c == '\t' || c == '\r'

def punctuation? (c : Char) : Option Token :=
  if c == '[' then some .openArray
  else if c == ']' then some .closeArray
  else if c == '\x7b' then some .openObject
  else if c == '\x7d' then some .closeObject
  else if c == ',' then some .comma
  else if c == ':' then some .colon
  else none

def isHighSurrogate (code : Nat) : Bool :=
  0xD800 ≤ code && code < 0xDC00

def isLowSurrogate (code : Nat) : Bool :=
  0xDC00 ≤ code && code < 0xE000

/-- One more code point of a string, joined with the one before it if the two are a pair. -/
def pushCode (codes : List Nat) (code : Nat) : List Nat :=
  match codes.getLast? with
  | some high =>
      if isHighSurrogate high && isLowSurrogate code then
        codes.dropLast ++ [0x10000 + (high - 0xD800) * 0x400 + (code - 0xDC00)]
      else
        codes ++ [code]
  | none => [code]

/-- The code point of an escape by one letter. -/
def letterEscape? (c : Char) : Option Nat :=
  if c == '"' then some 0x22
  else if c == '\\' then some 0x5C
  else if c == '/' then some 0x2F
  else if c == 'b' then some 0x8
  else if c == 'f' then some 0xC
  else if c == 'n' then some 0xA
  else if c == 'r' then some 0xD
  else if c == 't' then some 0x9
  else none

def hexValue? (c : Char) : Option Nat :=
  if '0' ≤ c && c ≤ '9' then some (c.toNat - 0x30)
  else if 'a' ≤ c && c ≤ 'f' then some (c.toNat - 0x61 + 10)
  else if 'A' ≤ c && c ≤ 'F' then some (c.toNat - 0x41 + 10)
  else none

/-- The digits of a number from its first dot or exponent letter on. -/
def isFraction (text : List Char) : Bool :=
  let exponentOk := fun (rest : List Char) =>
    match rest with
    | [] => true
    | e :: digits =>
        let unsigned :=
          match digits with
          | '+' :: others | '-' :: others => others
          | _ => digits
        (e == 'e' || e == 'E') && !unsigned.isEmpty && unsigned.all Char.isDigit
  match text with
  | '.' :: rest =>
      let digits := rest.takeWhile Char.isDigit
      !digits.isEmpty && exponentOk (rest.dropWhile Char.isDigit)
  | _ => exponentOk text

/-- A number without a sign: no zero before other digits, then fraction and exponent. -/
def isUnsignedNumber (text : List Char) : Bool :=
  let digits := text.takeWhile Char.isDigit
  !digits.isEmpty && (digits.length == 1 || digits.head? != some '0') &&
    isFraction (text.dropWhile Char.isDigit)

def isNumber (text : List Char) : Bool :=
  match text with
  | '-' :: rest => isUnsignedNumber rest
  | _ => isUnsignedNumber text

/-- What a run of characters outside strings stands for. -/
def word? (text : List Char) : Option Token :=
  if text == "null".toList then some (.atom .null)
  else if text == "true".toList then some (.atom (.bool true))
  else if text == "false".toList then some (.atom (.bool false))
  else if isNumber text then some (.atom (.number (String.ofList text)))
  else none

/-- Where the reader stands: between tokens, in a word or number, in a string, after a backslash
in a string, or in the digits of an escape. -/
inductive Mode where
  | between
  | word (text : List Char)
  | string (codes : List Nat)
  | escape (codes : List Nat)
  | hex (codes : List Nat) (value : Nat) (owed : Nat)

/-- What a character that ends no word does between tokens. -/
def enter (c : Char) : List Token × Mode :=
  if isJsonBlank c then ([], .between)
  else if c == '"' then ([], .string [])
  else
    match punctuation? c with
    | some token => ([token], .between)
    | none => ([], .word [c])

def endsWord (c : Char) : Bool :=
  isJsonBlank c || c == '"' || (punctuation? c).isSome

/-- The tokens that one character completes, and where the reader stands after it. -/
def Mode.advance (mode : Mode) (c : Char) : Option (List Token × Mode) :=
  match mode with
  | .between => some (enter c)
  | .word text =>
      if endsWord c then do
        let token ← word? text
        let (tokens, next) := enter c
        return (token :: tokens, next)
      else
        some ([], .word (text ++ [c]))
  | .string codes =>
      if c == '"' then some ([.atom (.string codes)], .between)
      else if c == '\\' then some ([], .escape codes)
      else if c.toNat < 0x20 then none
      else some ([], .string (pushCode codes c.toNat))
  | .escape codes =>
      if c == 'u' then some ([], .hex codes 0 4)
      else (letterEscape? c).map fun code => ([], .string (pushCode codes code))
  | .hex codes value owed => do
      let digit ← hexValue? c
      let value := value * 16 + digit
      if owed ≤ 1 then return ([], .string (pushCode codes value))
      else return ([], .hex codes value (owed - 1))

/-- The tokens of a text; none when a string is not closed or a word has no meaning. -/
def Mode.read (mode : Mode) : List Char → Option (List Token)
  | [] =>
      match mode with
      | .between => some []
      | .word text => (word? text).map fun token => [token]
      | _ => none
  | c :: rest => do
      let (done, next) ← mode.advance c
      let tokens ← next.read rest
      return done ++ tokens

def tokens? (text : List Char) : Option (List Token) :=
  Mode.between.read text

end Understudy.Json
