/-!
How lines of output are laid out: four spaces a level, and a space after each keyword.
-/

namespace Understudy.Layout

def tab (level : Nat) : String :=
  String.ofList (List.replicate (4 * level) ' ')

/-- A keyword with the space that follows it; nothing for the empty keyword. -/
def keyword (word : String) : String :=
  if word == "" then "" else word ++ " "

/-- A text with the space that precedes it; nothing for the empty text. -/
def spaced (text : String) : String :=
  if text == "" then "" else " " ++ text

def commaList (items : List String) : String :=
  ", ".intercalate items

def joinLines (lines : List String) : String :=
  "\n".intercalate lines

def staticWord (isStatic : Bool) : String :=
  if isStatic then "static" else ""

end Understudy.Layout
