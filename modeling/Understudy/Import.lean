import Understudy.Text.Bytes
import Understudy.Text.Split

/-!
Import statements: those written at the beginning of a file, and the module that one names.
-/

namespace Understudy.Import

open Text

/-- A line is an import when it begins with the keyword, or with an attribute before it. -/
def isImportLine (line : List Char) : Bool :=
  "import ".toList.isPrefixOf line ||
    ("@".toList.isPrefixOf line && contains " import ".toList line)

/-- The import lines among the characters before a byte position, in order. -/
def before (source : String) (offset : Nat) : List String :=
  (((lines (takeBytes offset source.toList)).map trim).filter isImportLine).map String.ofList

/-- The module that a statement names: the last word after the keyword. -/
def module? (statement : String) : Option String := do
  let (_, rest) ← cutAt? "import ".toList statement.toList
  let module ← (words rest).getLast?
  return String.ofList module

end Understudy.Import
