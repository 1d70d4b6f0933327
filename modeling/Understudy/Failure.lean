import Understudy.Path
import Understudy.Text.Utf8

/-!
What can go wrong, by cause, and the sentence that reports it.
-/

namespace Understudy

/-- Why a file could not be read or written. -/
inductive FileFault where
  | notFound
  | exists
  | notDirectory
  | isDirectory
  | notUtf8
  | described (text : String)
deriving DecidableEq, Repr

def FileFault.message : FileFault → String
  | .notFound => "No such file or directory (os error 2)"
  | .exists => "File exists (os error 17)"
  | .notDirectory => "Not a directory (os error 20)"
  | .isDirectory => "Is a directory (os error 21)"
  | .notUtf8 => "stream did not contain valid UTF-8"
  | .described text => text

/-- Why a stretch of a file could not be taken out. -/
inductive ExtractionFault where
  | outside (name : String) (path : Path) (start stop size : Nat)
  | notUtf8 (name : String) (path : Path) (fault : Text.Utf8.Fault)
  | described (text : String)
deriving DecidableEq, Repr

def ExtractionFault.message : ExtractionFault → String
  | .outside name path start stop size =>
      "range " ++ toString start ++ ".." ++ toString stop ++ " of '" ++ name ++ "' is outside " ++
        path.text ++ " (" ++ toString size ++ " bytes)"
  | .notUtf8 name path fault =>
      "range of '" ++ name ++ "' in " ++ path.text ++ " is not valid UTF-8: " ++ fault.message
  | .described text => text

/-- Why a configuration was refused. -/
inductive ConfigFault where
  | malformed
  | noConcurrency
  | noTypeLength
  | described (text : String)
deriving DecidableEq, Repr

def ConfigFault.message : ConfigFault → String
  | .malformed => "Failed to parse config"
  | .noConcurrency => "max_concurrency must be at least 1"
  | .noTypeLength => "signature.max_type_len must be at least 1"
  | .described text => text

inductive Failure where
  | unparsed (text : String)
  | file (fault : FileFault)
  | grammar (text : String)
  | inconsistent (path : Path) (name : String) (labels params : Nat)
  | within (path : Path) (cause : Failure)
  | extraction (fault : ExtractionFault)
  | config (fault : ConfigFault)
  | pipeline (text : String)
  | serialization (text : String)
  | other (text : String)
deriving DecidableEq, Repr

namespace Failure

def message : Failure → String
  | .unparsed text => "Parse error: " ++ text
  | .file fault => "IO error: " ++ fault.message
  | .grammar text => "Tree-sitter error: " ++ text
  | .inconsistent path name labels params =>
      "Inconsistent declaration '" ++ name ++ "' in " ++ path.text ++ ": " ++ toString labels ++
        " label(s) but " ++ toString params ++ " parameter node(s)"
  | .within path cause => "Failed to process " ++ path.text ++ ": " ++ cause.message
  | .extraction fault => "Extraction error: " ++ fault.message
  | .config fault => "Configuration error: " ++ fault.message
  | .pipeline text => "Pipeline error: " ++ text
  | .serialization text => "Serialization error: " ++ text
  | .other text => text

/-- Names the file that was being processed. A failure that names one already keeps it. -/
def inFile (path : Path) : Failure → Failure
  | .within inner cause => .within inner cause
  | cause => .within path cause

/-- The failure names the file that was being processed. -/
def namesFile : Failure → Bool
  | .within .. => true
  | _ => false

theorem inFile_eq (path : Path) (failure : Failure) :
    failure.inFile path = if failure.namesFile then failure else .within path failure := by
  cases failure <;> rfl

theorem inFile_inFile (outer inner : Path) (failure : Failure) :
    (failure.inFile inner).inFile outer = failure.inFile inner := by
  cases failure <;> rfl

end Failure

end Understudy
