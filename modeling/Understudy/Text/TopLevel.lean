/-!
Splitting at separators that stand outside brackets.

An opening bracket, round, square, angled or curly, goes one level down and a closing one goes
one level up; the angle of an arrow `->` is no bracket. A text with more closing than opening
brackets has negative depth, where no separator counts. Each piece is no longer than the text.
-/

namespace Understudy.Text

def isOpening (c : Char) : Bool :=
  c == '(' || c == '[' || c == '<' || c == '\x7b'

def isClosing (c : Char) : Bool :=
  c == ')' || c == ']' || c == '>' || c == '\x7d'

/-- Nesting depth after one more character, where `previous` stands before it. -/
def depthAfter (depth : Int) (previous : Option Char) (c : Char) : Int :=
  if isOpening c then depth + 1
  else if c == '>' && previous == some '-' then depth
  else if isClosing c then depth - 1
  else depth

/-- A separator counts at depth zero, unless it acts as a bracket there. -/
def splitsHere (separator : Char) (depth : Int) (previous : Option Char) (c : Char) : Bool :=
  c == separator && depth == 0 && !isOpening c && !(c == '>' && previous == some '-') &&
    !isClosing c

def splitTopLevelFrom (separator : Char) (depth : Int) (previous : Option Char) :
    List Char → List (List Char)
  | [] => [[]]
  | c :: rest =>
      let pieces := splitTopLevelFrom separator (depthAfter depth previous c) (some c) rest
      if splitsHere separator depth previous c then
        [] :: pieces
      else
        match pieces with
        | [] => [[c]]
        | piece :: others => (c :: piece) :: others

/-- The pieces of a text between the separators outside all brackets. -/
def splitTopLevel (separator : Char) (text : List Char) : List (List Char) :=
  splitTopLevelFrom separator 0 none text

theorem length_le_of_mem_splitTopLevelFrom (separator : Char) (depth : Int)
    (previous : Option Char) (text : List Char) :
    ∀ piece ∈ splitTopLevelFrom separator depth previous text, piece.length ≤ text.length := by
  induction text generalizing depth previous with
  | nil => simp [splitTopLevelFrom]
  | cons c rest ih =>
      intro piece hpiece
      have hrest := ih (depthAfter depth previous c) (some c)
      simp only [splitTopLevelFrom] at hpiece
      split at hpiece
      · rcases List.mem_cons.mp hpiece with rfl | hmem
        · simp
        · exact Nat.le_succ_of_le (hrest piece hmem)
      · split at hpiece
        · simp_all
        · next first others heq =>
          rw [heq] at hrest
          rcases List.mem_cons.mp hpiece with rfl | hmem
          · simpa using hrest first List.mem_cons_self
          · exact Nat.le_succ_of_le (hrest piece (List.mem_cons_of_mem _ hmem))

theorem length_le_of_mem_splitTopLevel {separator : Char} {text piece : List Char}
    (h : piece ∈ splitTopLevel separator text) : piece.length ≤ text.length :=
  length_le_of_mem_splitTopLevelFrom separator 0 none text piece h

end Understudy.Text
