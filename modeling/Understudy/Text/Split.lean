import Understudy.Text.Blank

/-!
Cutting a text at single characters and at fragments.

Cutting at a character keeps every piece, empty ones too, so that a text with `n` separators has
`n + 1` pieces. Cutting at a fragment finds its first occurrence.
-/

namespace Understudy.Text

/-- The pieces between the characters that satisfy `separates`. -/
def splitWhere (separates : Char → Bool) : List Char → List (List Char)
  | [] => [[]]
  | c :: rest =>
      if separates c then
        [] :: splitWhere separates rest
      else
        match splitWhere separates rest with
        | [] => [[c]]
        | piece :: others => (c :: piece) :: others

/-- The pieces between separators that are not empty. -/
def fields (separates : Char → Bool) (text : List Char) : List (List Char) :=
  (splitWhere separates text).filter fun piece => !piece.isEmpty

/-- The maximal runs of characters that are not blank. -/
def words (text : List Char) : List (List Char) :=
  fields isBlank text

/-- What comes before and after the first occurrence of a fragment. -/
def cutAt? (fragment : List Char) : List Char → Option (List Char × List Char)
  | [] => if fragment.isEmpty then some ([], []) else none
  | c :: rest =>
      if fragment.isPrefixOf (c :: rest) then
        some ([], (c :: rest).drop fragment.length)
      else
        (cutAt? fragment rest).map fun (before, after) => (c :: before, after)

def contains (fragment text : List Char) : Bool :=
  (cutAt? fragment text).isSome

/-- The text up to the first occurrence of a fragment, or all of it. -/
def upTo (fragment text : List Char) : List Char :=
  match cutAt? fragment text with
  | some (before, _) => before
  | none => text

/-- The text with every occurrence of a fragment taken out, found from left to right;
`skip` counts the characters of an occurrence still to be dropped. -/
def eraseFrom (fragment : List Char) : Nat → List Char → List Char
  | _, [] => []
  | skip + 1, _ :: rest => eraseFrom fragment skip rest
  | 0, c :: rest =>
      if fragment.isPrefixOf (c :: rest) then
        eraseFrom fragment (fragment.length - 1) rest
      else
        c :: eraseFrom fragment 0 rest

def erase (fragment text : List Char) : List Char :=
  eraseFrom fragment 0 text

def stripEnd? (ending text : List Char) : Option (List Char) :=
  if ending.isSuffixOf text then some (text.take (text.length - ending.length)) else none

theorem stripEnd?_eq_some_iff {ending text before : List Char} :
    stripEnd? ending text = some before ↔ text = before ++ ending := by
  rw [stripEnd?, Option.ite_none_right_eq_some, List.isSuffixOf_iff_suffix, Option.some.injEq]
  constructor
  · rintro ⟨⟨start, rfl⟩, rfl⟩
    simp
  · rintro rfl
    exact ⟨List.suffix_append before ending, by simp⟩

def dropCarriage (line : List Char) : List Char :=
  (stripEnd? ['\r'] line).getD line

/-- The lines of a text. A line ends at a line feed, with a carriage return before it if there
is one, and text after the last line feed is a line of its own when it is not empty. -/
def lines : List Char → List (List Char)
  | [] => []
  | text => linesOf (splitWhere (· == '\n') text)
where
  linesOf : List (List Char) → List (List Char)
    | [] => []
    | [last] => if last.isEmpty then [] else [last]
    | piece :: others => dropCarriage piece :: linesOf others

end Understudy.Text
