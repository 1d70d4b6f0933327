import Understudy.Import
import Understudy.ImportMap

/-!
The settings that shape an output file, and its import lines.

A module is imported when a contributing file imports it or the settings ask for it, unless it is
excluded. Each module has one line, and the lines are sorted.
-/

namespace Understudy

structure OutputOptions where
  header : Option String := none
  customImports : List String := []
  excludedImports : List String := []
  testableImports : List String := []
  isFinal : Bool := false
deriving DecidableEq, Repr, Inhabited

namespace OutputOptions

/-- The elements of a list in strictly increasing order. -/
def sortedSet (texts : List String) : List String :=
  dropRepeats (texts.mergeSort fun left right => left ≤ right)
where
  dropRepeats : List String → List String
    | [] => []
    | [text] => [text]
    | text :: next :: rest =>
        if text == next then dropRepeats (next :: rest) else text :: dropRepeats (next :: rest)

/-- The modules that the contributing files import, with those that the settings add. -/
def requestedModules (options : OutputOptions) (files : List Path) (imports : ImportMap) :
    List String :=
  (files.flatMap imports.statements).filterMap Import.module? ++ options.customImports ++
    options.testableImports

def importLine (options : OutputOptions) (module : String) : String :=
  if options.testableImports.contains module then "@testable import " ++ module
  else "import " ++ module

def importLines (options : OutputOptions) (files : List Path) (imports : ImportMap) :
    List String :=
  let modules :=
    (sortedSet (options.requestedModules files imports)).filter fun module =>
      !options.excludedImports.contains module
  sortedSet (modules.map options.importLine)

/-- The header without blanks at its end, unless it is empty. -/
def headerSection (options : OutputOptions) : List String :=
  match options.header with
  | none | some "" => []
  | some header => [String.ofList (Text.trimEnd header.toList)]

end OutputOptions

end Understudy
