import Understudy.Command.Arguments
import Understudy.Path

/-!
The commands of the program and the arguments that ask for them.
-/

namespace Understudy

structure GenerateArguments where
  sources : List Path
  mockfiles : List Path := []
  output : Option Path := none
  concurrency : Option Nat := none
  config : Option Path := none
  header : Option String := none
  annotation : Option String := none
  customImports : List String := []
  excludeImports : List String := []
  testableImports : List String := []
  mockFinal : Bool := false
deriving DecidableEq, Repr

inductive Command where
  /-- Writes mock classes for the annotated protocols. -/
  | generate (arguments : GenerateArguments)
  /-- Lists the entities and members of a file. -/
  | analyze (path : Path) (json : Bool)
deriving DecidableEq, Repr

namespace Command

def generateGrammar : ArgumentGrammar :=
  { flags :=
      [{ name := "sources", letter := some 's', arity := .list, form := .path },
        { name := "mockfiles", letter := some 'm', arity := .list, form := .path },
        { name := "output", letter := some 'o', arity := .single, form := .path },
        { name := "concurrency", letter := some 'j', arity := .single, form := .count },
        { name := "config", letter := some 'c', arity := .single, form := .path },
        { name := "header", arity := .single },
        { name := "annotation", arity := .single },
        { name := "custom-imports", arity := .list },
        { name := "exclude-imports", arity := .list },
        { name := "testable-imports", arity := .list },
        { name := "mock-final", arity := .switch }]
    required := ["sources"] }

def analyzeGrammar : ArgumentGrammar :=
  { flags := [{ name := "json", letter := some 'j', arity := .switch }]
    positional := some { name := "filepath", arity := .single, form := .path }
    required := ["filepath"] }

def readGenerate (arguments : List String) : Except UsageError Command := do
  let scan ← ArgumentScan.read generateGrammar arguments
  return .generate
    { sources := (scan.values "sources").map Path.mk
      mockfiles := (scan.values "mockfiles").map Path.mk
      output := (scan.value? "output").map Path.mk
      concurrency := (scan.value? "concurrency").bind readCount?
      config := (scan.value? "config").map Path.mk
      header := scan.value? "header"
      annotation := scan.value? "annotation"
      customImports := scan.values "custom-imports"
      excludeImports := scan.values "exclude-imports"
      testableImports := scan.values "testable-imports"
      mockFinal := scan.taken.any fun entry => entry.1.name == "mock-final" }

def readAnalyze (arguments : List String) : Except UsageError Command := do
  let scan ← ArgumentScan.read analyzeGrammar arguments
  return .analyze ⟨(scan.value? "filepath").getD ""⟩
    (scan.taken.any fun entry => entry.1.name == "json")

inductive Subcommand where
  | generate
  | analyze
  | help
deriving DecidableEq, Repr

def Subcommand.ofName? (name : String) : Option Subcommand :=
  if name == "generate" || name == "g" then some .generate
  else if name == "analyze" || name == "a" then some .analyze
  else if name == "help" then some .help
  else none

/-- What is asked for by the names of commands to be helped with: none of them has commands of
its own. -/
def helpOn : List String → UsageError
  | [] => .help
  | [name] => if (Subcommand.ofName? name).isSome then .help else .invalidSubcommand
  | _ => .invalidSubcommand

/-- What a flag before the command asks for. -/
def topLevelFlag (text : List Char) : UsageError :=
  match text with
  | '-' :: '-' :: rest =>
      let (name, attached) := ArgumentScan.nameAndValue rest
      if name == "help" || name == "version" then
        if attached.isSome then .tooManyValues
        else if name == "help" then .help
        else .version
      else .unknownArgument
  | '-' :: 'h' :: _ => .help
  | '-' :: 'V' :: _ => .version
  | '-' :: _ :: _ => .unknownArgument
  | _ => .invalidSubcommand

/-- The command that the arguments ask for. -/
def read (arguments : List String) : Except UsageError Command :=
  match arguments with
  | [] => .error .helpForNothing
  | name :: rest =>
      match Subcommand.ofName? name with
      | some .generate => readGenerate rest
      | some .analyze => readAnalyze rest
      | some .help => .error (helpOn rest)
      | none =>
          if name == "--" then
            match rest with
            | [] => .error .helpForNothing
            | next :: _ =>
                if (Subcommand.ofName? next).isSome then .error .unknownArgument
                else .error .invalidSubcommand
          else
            .error (topLevelFlag name.toList)

end Command

end Understudy
