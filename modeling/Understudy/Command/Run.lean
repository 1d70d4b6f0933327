import Understudy.Analysis
import Understudy.Command
import Understudy.Config
import Understudy.Output
import Understudy.SourceFiles

/-!
Running the commands on a workspace: what is printed, what is written, and how a failure is
reported, from the outermost context to the innermost cause.
-/

namespace Understudy

inductive CommandCause where
  | failure (failure : Failure)
  | file (fault : FileFault)
  | plain (text : String)
deriving DecidableEq, Repr

/-- A failed command: what it was doing, outermost first, and the cause. -/
structure CommandFailure where
  contexts : List String
  cause : CommandCause
deriving DecidableEq, Repr

def Failure.chain : Failure → List String
  | .file fault => [(Failure.file fault).message, fault.message]
  | .within path cause => (Failure.within path cause).message :: cause.chain
  | failure => [failure.message]

namespace CommandFailure

def messages (failure : CommandFailure) : List String :=
  failure.contexts ++
    match failure.cause with
    | .failure failure => failure.chain
    | .file fault => [fault.message]
    | .plain text => [text]

def ofFailure (failure : Failure) : CommandFailure :=
  ⟨[], .failure failure⟩

def during (context : String) (failure : CommandFailure) : CommandFailure :=
  { failure with contexts := context :: failure.contexts }

end CommandFailure

structure CommandEnd where
  printed : String
  workspace : Workspace
  failure : Option CommandFailure := none
deriving Repr

namespace CommandEnd

def failed (workspace : Workspace) (failure : CommandFailure) : CommandEnd :=
  { printed := "", workspace, failure := some failure }

end CommandEnd

namespace GenerateArguments

/-- The settings of a file with those of the arguments on top: single settings replace, lists
are added at the end. -/
def applyTo (arguments : GenerateArguments) (config : Config) : Config :=
  { config with
    header := arguments.header.or config.header
    annotation := arguments.annotation.getD config.annotation
    maxConcurrency := arguments.concurrency.or config.maxConcurrency
    customImports := config.customImports ++ arguments.customImports
    excludedImports := config.excludedImports ++ arguments.excludeImports
    testableImports := config.testableImports ++ arguments.testableImports
    mockFinal := config.mockFinal || arguments.mockFinal }

/-- The configuration file that is given, else the nearest one. -/
def configPath? (arguments : GenerateArguments) (workspace : Workspace) : Option Path :=
  arguments.config.or (Config.findFile? workspace workspace.directoryPath)

def baseConfig (arguments : GenerateArguments) (workspace : Workspace) :
    Except CommandFailure Config :=
  match arguments.configPath? workspace with
  | none => .ok {}
  | some path =>
      (Config.load workspace.disk path).mapError fun failure =>
        (CommandFailure.ofFailure failure).during ("Failed to load config from " ++ path.text)

def resolveConfig (arguments : GenerateArguments) (workspace : Workspace) :
    Except CommandFailure Config := do
  let base ← arguments.baseConfig workspace
  let config := arguments.applyTo base
  config.validate.mapError CommandFailure.ofFailure
  return config

end GenerateArguments

namespace Command

/-- The end of a run as a result, with what was being done in front of its failure. -/
def outcome {σ : Type} (context : String) (runEnd : RunEnd σ) : Except CommandFailure σ :=
  match runEnd.failure with
  | none => .ok runEnd.sink
  | some failure => .error ((CommandFailure.ofFailure failure).during context)

def generatedText (grammar : Grammar) (workspace : Workspace) (arguments : GenerateArguments) :
    Except CommandFailure String := do
  let config ← arguments.resolveConfig workspace
  let disk := workspace.disk
  let sources := SourceFiles.collect workspace arguments.sources
  let mockfiles := SourceFiles.collect workspace arguments.mockfiles
  let empty : Collection := {}
  let fromSources ← outcome "Failed to parse source files"
    (config.generation.readTrees disk grammar false sources empty)
  let collected ← outcome "Failed to scan mock files"
    (config.generation.readIndexed disk grammar.index mockfiles fromSources)
  (Output.render disk collected.entities collected.imports config.outputOptions
      SourceCache.empty).1.mapError fun failure =>
    (CommandFailure.ofFailure failure).during "Failed to render mocks"

/-- Makes the directory of an output file, if the path names one. -/
def makeOutputDirectory (workspace : Workspace) (path : Path) :
    Except CommandFailure Workspace :=
  match path.parent? with
  | none | some ⟨""⟩ => .ok workspace
  | some parent =>
      (workspace.makeAllDirectories parent).mapError fun fault =>
        ⟨["Failed to create " ++ parent.text], .file fault⟩

def writeOutput (workspace : Workspace) (path : Path) (text : String) : CommandEnd :=
  match makeOutputDirectory workspace path with
  | .error failure => .failed workspace failure
  | .ok made =>
      match made.write path (Text.Utf8.encode text.toList) with
      | .error fault => .failed made ⟨["Failed to write mocks to " ++ path.text], .file fault⟩
      | .ok written =>
          { printed := "✅ Wrote mocks to " ++ path.text ++ "\n", workspace := written }

def runGenerate (grammar : Grammar) (workspace : Workspace) (arguments : GenerateArguments) :
    CommandEnd :=
  match generatedText grammar workspace arguments with
  | .error failure => .failed workspace failure
  | .ok text =>
      match arguments.output with
      | none => { printed := text, workspace }
      | some path => writeOutput workspace path text

def printLines (lines : List String) : String :=
  String.join (lines.map (· ++ "\n"))

def analysisText (path : Path) (json : Bool) (entities : List AnalyzedEntity) : String :=
  if json then printLines [(Json.array (entities.map AnalyzedEntity.toJson)).pretty]
  else printLines (AnalyzedEntity.report path entities)

def runAnalyze (grammar : Grammar) (workspace : Workspace) (path : Path) (json : Bool) :
    CommandEnd :=
  if workspace.pathExists path then
    let settings : GenerationSettings := {}
    let empty : Collection := {}
    match outcome ("Failed to analyze " ++ path.text)
        (settings.readTrees workspace.disk grammar false [path] empty) with
    | .error failure => .failed workspace failure
    | .ok collected =>
        { printed := analysisText path json (collected.entities.map AnalyzedEntity.ofEntity)
          workspace }
  else
    .failed workspace ⟨[], .plain ("File not found: " ++ path.text)⟩

def run (grammar : Grammar) (workspace : Workspace) : Command → CommandEnd
  | .generate arguments => runGenerate grammar workspace arguments
  | .analyze path json => runAnalyze grammar workspace path json

end Command

end Understudy
