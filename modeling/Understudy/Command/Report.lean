import Understudy.Command.Run

/-!
What is told about arguments that are no command and about commands that failed.
-/

namespace Understudy

namespace UsageError

/-- What was asked for is no mistake. -/
def isRequest : UsageError → Bool
  | .help | .version => true
  | _ => false

def message : UsageError → String
  | .helpForNothing | .help =>
      "Usage: generate --sources <path>... [options]\n" ++
        "       analyze <path> [--json]\n\n" ++
        "Options of generate:\n" ++
        "  -s, --sources <path>...          files and directories with the protocols\n" ++
        "  -m, --mockfiles <path>...        files of generated mocks\n" ++
        "  -o, --output <path>              where the mocks are written\n" ++
        "  -j, --concurrency <count>        how many files are processed at once\n" ++
        "  -c, --config <path>              the configuration\n" ++
        "      --header <text>              the text at the top of the mocks\n" ++
        "      --annotation <text>          the comment that selects a protocol\n" ++
        "      --custom-imports <name>...   modules to import\n" ++
        "      --exclude-imports <name>...  modules not to import\n" ++
        "      --testable-imports <name>... modules to import for testing\n" ++
        "      --mock-final                 makes the classes final"
  | .version => "understudy 1"
  | .invalidSubcommand => "error: unrecognized command"
  | .unknownArgument => "error: unexpected argument"
  | .missingArgument => "error: a required argument is missing"
  | .invalidValue => "error: an argument needs a value"
  | .tooManyValues => "error: a value for an argument that takes none"
  | .conflict => "error: an argument cannot be used twice"
  | .invalidCount => "error: a count cannot be read"

def exitCode (fault : UsageError) : UInt32 :=
  if fault.isRequest then 0 else 2

end UsageError

namespace CommandFailure

def numbered (causes : List String) : List String :=
  causes.zipIdx.map fun (cause, index) => "    " ++ toString index ++ ": " ++ cause

/-- The outermost message, and below it the causes, numbered when there are several. -/
def report (failure : CommandFailure) : List String :=
  match failure.messages with
  | [] => []
  | [message] => ["Error: " ++ message]
  | [message, cause] => ["Error: " ++ message, "", "Caused by:", "    " ++ cause]
  | message :: causes => ["Error: " ++ message, "", "Caused by:"] ++ numbered causes

end CommandFailure

end Understudy
