import Understudy.Text.Decimal

/-!
The grammar of command-line arguments.

An option is written `--name value`, `--name=value`, `-x value` or `-xvalue`; switches of one
letter may be joined behind one dash. A list option takes values up to the next flag and may be
repeated. After `--` everything is positional. Reading stops at the first mistake.
-/

namespace Understudy

/-- Why arguments were not accepted, or what was asked for in place of a command. -/
inductive UsageError where
  | helpForNothing
  | help
  | version
  | invalidSubcommand
  | unknownArgument
  | missingArgument
  | invalidValue
  | tooManyValues
  | conflict
  | invalidCount
deriving DecidableEq, Repr

inductive Arity where
  | switch
  | single
  | list
deriving DecidableEq, Repr

/-- What the values of an option are read as. -/
inductive ValueForm where
  | path
  | text
  | count
deriving DecidableEq, Repr

structure Flag where
  name : String
  letter : Option Char := none
  arity : Arity
  form : ValueForm := .text
deriving DecidableEq, Repr

/-- The flags and the positional argument of a command. -/
structure ArgumentGrammar where
  flags : List Flag
  positional : Option Flag := none
  required : List String

/-- A count may have a plus sign in front. -/
def readCount? (text : String) : Option Nat :=
  match text.toList with
  | '+' :: digits => Text.count? digits
  | digits => Text.count? digits

/-- A path is not empty, and a count can be read. -/
def ValueForm.check (form : ValueForm) (value : String) : Except UsageError Unit :=
  match form with
  | .path => if value == "" then .error .invalidValue else .ok ()
  | .text => .ok ()
  | .count => if (readCount? value).isSome then .ok () else .error .invalidCount

structure ArgumentScan where
  /-- The values of each flag, in the order in which they were given. -/
  taken : List (Flag × List String) := []
  /-- The flag whose values are being read. -/
  pending : Option (Flag × List String) := none
  /-- Whether the next value goes to the pending flag. -/
  collecting : Bool := false
  /-- Whether the flags have ended. -/
  literal : Bool := false
  /-- Whether the positional argument was given. -/
  placed : Bool := false
deriving Repr

namespace ArgumentScan

def has (scan : ArgumentScan) (flag : Flag) : Bool :=
  scan.taken.any fun entry => entry.1.name == flag.name

/-- Accepts a flag with its values. Options need a value, and only list options may be given
twice. -/
def accept (scan : ArgumentScan) (flag : Flag) (values : List String) :
    Except UsageError ArgumentScan :=
  if flag.arity != .switch && values.isEmpty then .error .invalidValue
  else if flag.arity != .list && scan.has flag then .error .conflict
  else do
    values.forM flag.form.check
    return { scan with taken := scan.taken ++ [(flag, values)] }

def settle (scan : ArgumentScan) : Except UsageError ArgumentScan :=
  match scan.pending with
  | none => .ok scan
  | some (flag, values) => { scan with pending := none }.accept flag values

/-- A flag that was met, with the value that is attached to it. -/
def meet (scan : ArgumentScan) (flag : Flag) (attached : Option String) :
    Except UsageError ArgumentScan := do
  let settled ← scan.settle
  match flag.arity, attached with
  | .switch, _ =>
      if flag.name == "help" then .error .help
      else
        let scan ← settled.accept flag []
        return { scan with collecting := false }
  | _, some value =>
      let scan ← settled.accept flag [value]
      return { scan with collecting := false }
  | _, none => return { settled with pending := some (flag, []), collecting := true }

/-- The switches, and at last the option, that are joined behind one dash. -/
def meetLetters (flags : List Flag) (scan : ArgumentScan) :
    List Char → Except UsageError ArgumentScan
  | [] => .ok scan
  | c :: rest =>
      match flags.find? fun flag => flag.letter == some c with
      | none => .error .unknownArgument
      | some flag =>
          if flag.arity == .switch then do
            meetLetters flags (← scan.meet flag none) rest
          else
            match rest with
            | [] => scan.meet flag none
            | '=' :: value => scan.meet flag (some (String.ofList value))
            | value => scan.meet flag (some (String.ofList value))

/-- The name of a long flag and the value after its equals sign. -/
def nameAndValue (text : List Char) : String × Option String :=
  match text.dropWhile (· != '=') with
  | [] => (String.ofList text, none)
  | _ :: value => (String.ofList (text.takeWhile (· != '=')), some (String.ofList value))

def meetName (flags : List Flag) (scan : ArgumentScan) (text : List Char) :
    Except UsageError ArgumentScan :=
  let (name, attached) := nameAndValue text
  match flags.find? fun flag => flag.name == name with
  | none => .error .unknownArgument
  | some flag =>
      if flag.arity == .switch && attached.isSome then .error .tooManyValues
      else scan.meet flag attached

def place (grammar : ArgumentGrammar) (scan : ArgumentScan) (value : String) :
    Except UsageError ArgumentScan :=
  match grammar.positional with
  | some flag =>
      if scan.placed then .error .unknownArgument
      else do
        let settled ← scan.settle
        return { settled with pending := some (flag, [value]), collecting := false, placed := true }
  | none => .error .unknownArgument

/-- A value for the pending flag if it takes one more, else a positional argument. -/
def value (grammar : ArgumentGrammar) (scan : ArgumentScan) (text : String) :
    Except UsageError ArgumentScan :=
  match scan.pending with
  | some (flag, values) =>
      if scan.collecting then
        .ok
          { scan with
            pending := some (flag, values ++ [text])
            collecting := flag.arity == .list }
      else
        scan.place grammar text
  | none => scan.place grammar text

def helpFlag : Flag :=
  { name := "help", letter := some 'h', arity := .switch }

def next (grammar : ArgumentGrammar) (scan : ArgumentScan) (text : String) :
    Except UsageError ArgumentScan :=
  let flags := helpFlag :: grammar.flags
  if scan.literal then scan.place grammar text
  else
    match text.toList with
    | ['-', '-'] => .ok { scan with literal := true }
    | '-' :: '-' :: name => meetName flags scan name
    | '-' :: c :: letters => meetLetters flags scan (c :: letters)
    | _ => scan.value grammar text

def isComplete (grammar : ArgumentGrammar) (scan : ArgumentScan) : Bool :=
  grammar.required.all fun name => scan.taken.any fun entry => entry.1.name == name

def read (grammar : ArgumentGrammar) (arguments : List String) :
    Except UsageError ArgumentScan := do
  let scan ← arguments.foldlM (ArgumentScan.next grammar) {}
  let settled ← scan.settle
  if settled.isComplete grammar then return settled else .error .missingArgument

def values (scan : ArgumentScan) (name : String) : List String :=
  (scan.taken.filter fun entry => entry.1.name == name).flatMap Prod.snd

def value? (scan : ArgumentScan) (name : String) : Option String :=
  (scan.values name).head?

end ArgumentScan

end Understudy
