/-!
Reading text from bytes. A byte sequence that is not UTF-8 is refused with the place of the first
bad sequence and with how many of its bytes are bad, or with the fact that the text ends inside
a sequence.
-/

namespace Understudy.Text.Utf8

/-- Why bytes are no text. `start` is the index of the first byte that belongs to no character. -/
inductive Fault where
  | invalid (start length : Nat)
  | incomplete (start : Nat)
deriving DecidableEq, Repr

def Fault.message : Fault → String
  | .invalid start length =>
      "invalid utf-8 sequence of " ++ toString length ++ " bytes from index " ++ toString start
  | .incomplete start => "incomplete utf-8 byte sequence from index " ++ toString start

/-- A character that has begun: the value of its bytes so far, their number, how many bytes are
still to come, and the least and greatest value of the next one. -/
structure Begun where
  value : Nat
  seen : Nat
  owed : Nat
  low : Nat
  high : Nat

inductive Lead where
  | ascii
  | begins (begun : Begun)
  | bad

/-- What a first byte announces. The narrower bounds after `E0`, `ED`, `F0` and `F4` exclude
overlong forms, surrogates and values beyond the last code point. -/
def lead (b : Nat) : Lead :=
  if b < 0x80 then .ascii
  else if b < 0xC2 then .bad
  else if b < 0xE0 then .begins ⟨b - 0xC0, 1, 1, 0x80, 0xBF⟩
  else if b == 0xE0 then .begins ⟨0, 1, 2, 0xA0, 0xBF⟩
  else if b == 0xED then .begins ⟨0xD, 1, 2, 0x80, 0x9F⟩
  else if b < 0xF0 then .begins ⟨b - 0xE0, 1, 2, 0x80, 0xBF⟩
  else if b == 0xF0 then .begins ⟨0, 1, 3, 0x90, 0xBF⟩
  else if b < 0xF4 then .begins ⟨b - 0xF0, 1, 3, 0x80, 0xBF⟩
  else if b == 0xF4 then .begins ⟨4, 1, 3, 0x80, 0x8F⟩
  else .bad

/-- Decodes from index `start`, where the next character begins, with the part of it that has
been read. -/
def decodeFrom (start : Nat) : Option Begun → List UInt8 → Except Fault (List Char)
  | none, [] => .ok []
  | some _, [] => .error (.incomplete start)
  | none, b :: rest =>
      match lead b.toNat with
      | .ascii => (decodeFrom (start + 1) none rest).map (Char.ofNat b.toNat :: ·)
      | .begins begun => decodeFrom start (some begun) rest
      | .bad => .error (.invalid start 1)
  | some begun, b :: rest =>
      if begun.low ≤ b.toNat && b.toNat ≤ begun.high then
        let value := begun.value * 0x40 + (b.toNat - 0x80)
        if begun.owed ≤ 1 then
          (decodeFrom (start + begun.seen + 1) none rest).map (Char.ofNat value :: ·)
        else
          decodeFrom start (some ⟨value, begun.seen + 1, begun.owed - 1, 0x80, 0xBF⟩) rest
      else
        .error (.invalid start begun.seen)

def decode (bytes : List UInt8) : Except Fault (List Char) :=
  decodeFrom 0 none bytes

def encode (text : List Char) : List UInt8 :=
  text.flatMap String.utf8EncodeChar

end Understudy.Text.Utf8
