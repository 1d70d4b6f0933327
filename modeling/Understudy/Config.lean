import Understudy.Failure
import Understudy.Generation
import Understudy.Json.Field
import Understudy.Json.Reader
import Understudy.OutputOptions

/-!
The configuration of a run, and its JSON form.

Fields that are not given have their defaults, and fields that are not known are passed over.
-/

namespace Understudy

structure Config where
  header : Option String := none
  annotation : String := "@mockable"
  maxConcurrency : Option Nat := none
  customImports : List String := []
  excludedImports : List String := []
  testableImports : List String := []
  mockFinal : Bool := false
  signature : SignaturePolicy := {}
deriving DecidableEq, Repr, Inhabited

namespace Config

open Json

def fileName : Path :=
  ⟨".mocksmith.json"⟩

def outputOptions (config : Config) : OutputOptions :=
  { header := config.header
    customImports := config.customImports
    excludedImports := config.excludedImports
    testableImports := config.testableImports
    isFinal := config.mockFinal }

def generation (config : Config) : GenerationSettings :=
  { limit := config.maxConcurrency, marker := config.annotation, policy := config.signature }

/-- Some work must be allowed, and a type name must have some length. -/
def validate (config : Config) : Except Failure Unit :=
  if config.maxConcurrency == some 0 then .error (.config .noConcurrency)
  else if config.signature.maxTypeLength == 0 then .error (.config .noTypeLength)
  else .ok ()

def policyFields : List String :=
  ["min_label_len", "max_type_len"]

def policyOf? (value : Json) : Option SignaturePolicy := do
  let fields ← fieldsOf? policyFields value
  let standard : SignaturePolicy := {}
  return {
    minLabelLength := ← field fields "min_label_len" asCount? standard.minLabelLength
    maxTypeLength := ← field fields "max_type_len" asCount? standard.maxTypeLength }

def fieldNames : List String :=
  ["header", "annotation", "max_concurrency", "custom_imports", "excluded_imports",
    "testable_imports", "mock_final", "signature"]

def ofJson? (value : Json) : Option Config := do
  let fields ← fieldsOf? fieldNames value
  let standard : Config := {}
  return {
    header := ← field fields "header" (orNull asText?) standard.header
    annotation := ← field fields "annotation" asText? standard.annotation
    maxConcurrency := ← field fields "max_concurrency" (orNull asCount?) standard.maxConcurrency
    customImports := ← field fields "custom_imports" asTexts? standard.customImports
    excludedImports := ← field fields "excluded_imports" asTexts? standard.excludedImports
    testableImports := ← field fields "testable_imports" asTexts? standard.testableImports
    mockFinal := ← field fields "mock_final" asBool? standard.mockFinal
    signature := ← field fields "signature" policyOf? standard.signature }

def policyJson (policy : SignaturePolicy) : Json :=
  .record
    [("min_label_len", .natural policy.minLabelLength),
      ("max_type_len", .natural policy.maxTypeLength)]

/-- Every field in order; the header and the limit are left out when they are not set. -/
def toJson (config : Config) : Json :=
  .record
    ((config.header.map fun header => ("header", Json.text header)).toList ++
      [("annotation", .text config.annotation)] ++
      (config.maxConcurrency.map fun limit => ("max_concurrency", Json.natural limit)).toList ++
      [("custom_imports", .texts config.customImports),
        ("excluded_imports", .texts config.excludedImports),
        ("testable_imports", .texts config.testableImports),
        ("mock_final", .bool config.mockFinal),
        ("signature", policyJson config.signature)])

def read (text : String) : Except Failure Config :=
  match (Json.parse? text).bind ofJson? with
  | none => .error (.config .malformed)
  | some config => config.validate.map fun _ => config

def saved (config : Config) : String :=
  config.toJson.pretty

def load (disk : Disk) (path : Path) : Except Failure Config :=
  match Workspace.readText disk path with
  | .error fault => .error (.file fault)
  | .ok text => read text

/-- Where the configuration of a directory is looked for: in it and in those around it. -/
def candidates (directory : Path) : List Path :=
  (directory :: directory.parents).map fun place => place.join fileName

/-- The nearest configuration file of a directory. -/
def findFile? (workspace : Workspace) (directory : Path) : Option Path :=
  (candidates directory).find? workspace.pathExists

end Config

end Understudy
