import RubricScore.CommandLine.Help
import RubricScore.OutputFormat
import RubricScore.Path

/-!
# Parameters of the command line

The commands, the values that can be given to them, and how each value is read.
-/

namespace RubricScore

/-- Which log events are wanted. -/
inductive Verbosity where
  /-- Errors only. -/
  | error
  /-- Warnings, too. -/
  | warn
  /-- Finished steps, too. -/
  | info
  /-- Details, too. -/
  | debug
  /-- Everything. -/
  | trace
deriving DecidableEq

namespace Verbosity

/-- Name of a verbosity. -/
def name : Verbosity → String
  | .error => "error"
  | .warn => "warn"
  | .info => "info"
  | .debug => "debug"
  | .trace => "trace"

/-- All verbosities. -/
def all : List Verbosity :=
  [.error, .warn, .info, .debug, .trace]

/-- The verbosity of a name. -/
def ofName? (text : String) : Option Verbosity :=
  all.find? (·.name = text)

/-- Place of a verbosity in the order from few events to all. -/
def rank : Verbosity → Nat
  | .error => 0
  | .warn => 1
  | .info => 2
  | .debug => 3
  | .trace => 4

/-- Events of a level are wanted. -/
def admits (verbosity : Verbosity) : Level → Bool
  | .error => true
  | .warn => 1 ≤ verbosity.rank
  | .info => 2 ≤ verbosity.rank
  | .debug => 3 ≤ verbosity.rank

end Verbosity

namespace CommandLine

/-- The commands. -/
inductive CommandName where
  /-- Scores a source tree. -/
  | evaluate
  /-- Makes a backlog of a report. -/
  | tasks
  /-- Writes a settings file. -/
  | init
deriving DecidableEq

/-- The command of a name. -/
def CommandName.ofName? : String → Option CommandName
  | "evaluate" => some .evaluate
  | "tasks" => some .tasks
  | "init" => some .init
  | _ => none

/-- What can be given a value. -/
inductive Parameter where
  /-- Which log events are wanted. -/
  | logLevel
  /-- Number of workers. -/
  | workers
  /-- The directory to score. -/
  | source
  /-- The file of a report. -/
  | results
  /-- The file of the rubric. -/
  | rubric
  /-- Components scoring below it get tasks. -/
  | threshold
  /-- The format of the output. -/
  | format
  /-- The file to write. -/
  | output
  /-- An ending of file names. -/
  | extension
  /-- Greatest number of files. -/
  | maxFiles
deriving DecidableEq

namespace Parameter

/-- How messages name a parameter. -/
def label : Parameter → String
  | .logLevel => "--log-level <LOG_LEVEL>"
  | .workers => "--workers <WORKERS>"
  | .source => "<SOURCE>"
  | .results => "<RESULTS>"
  | .rubric => "[RUBRIC]"
  | .threshold => "[THRESHOLD]"
  | .format => "--format <FORMAT>"
  | .output => "--output <OUTPUT>"
  | .extension => "--ext <EXTENSIONS>"
  | .maxFiles => "--max-files <MAX_FILES>"

/-- A value may be a negative number. -/
def takesNegatives (parameter : Parameter) : Bool :=
  parameter = .threshold

end Parameter

/-- Why an argument list is not followed. -/
inductive UsageError where
  /-- Help is asked for. -/
  | help
  /-- There are no arguments. -/
  | nothingGiven
  /-- The version is asked for. -/
  | version
  /-- No command is given. -/
  | missingCommand
  /-- The command does not exist. -/
  | unknownCommand (name : String)
  /-- A position that must be filled is not. -/
  | missingPosition
  /-- An argument fits nowhere. -/
  | unexpected (argument : String)
  /-- A switch is given a value. -/
  | surplusValue (switch value : String)
  /-- A parameter is given twice. -/
  | repeated (parameter : Parameter)
  /-- A parameter is given no value, or an empty one that it does not take. -/
  | emptyValue (parameter : Parameter)
  /-- The value is none of those that the parameter takes. -/
  | notAChoice (parameter : Parameter) (value : String)
  /-- The value cannot be read. -/
  | badValue (parameter : Parameter) (value reason : String)
deriving DecidableEq

/-- A text in single quotes. -/
def inQuotes (text : String) : String :=
  "'" ++ text ++ "'"

/-- Message of an error. -/
def UsageError.message : UsageError → String
  | .help => helpText
  | .nothingGiven => helpText
  | .version => versionText
  | .missingCommand => "error: 'kernel-eval' requires a subcommand but one was not provided"
  | .unknownCommand name => "error: unrecognized subcommand " ++ inQuotes name
  | .missingPosition => "error: the following required arguments were not provided:"
  | .unexpected argument => "error: unexpected argument " ++ inQuotes argument ++ " found"
  | .surplusValue switch value =>
    "error: unexpected value " ++ inQuotes value ++ " for " ++ inQuotes switch
      ++ " found; no more were expected"
  | .repeated parameter =>
    "error: the argument " ++ inQuotes parameter.label ++ " cannot be used multiple times"
  | .emptyValue parameter =>
    "error: a value is required for " ++ inQuotes parameter.label ++ " but none was supplied"
  | .notAChoice parameter value =>
    "error: invalid value " ++ inQuotes value ++ " for " ++ inQuotes parameter.label
  | .badValue parameter value reason =>
    "error: invalid value " ++ inQuotes value ++ " for " ++ inQuotes parameter.label ++ ": "
      ++ reason

/-- Why a text is not a word. -/
inductive WordFault where
  /-- It is empty. -/
  | empty
  /-- It has a character that is no digit. -/
  | notADigit
  /-- It exceeds every word. -/
  | tooLarge
deriving DecidableEq

/-- Message of a fault. -/
def WordFault.message : WordFault → String
  | .empty => "cannot parse integer from empty string"
  | .notADigit => "invalid digit found in string"
  | .tooLarge => "number too large to fit in target type"

/-- Reads digits from left to right; the first character that is no digit or makes the number too
large is the fault. -/
def wordFrom (n : Nat) : List Char → Except WordFault UInt64
  | [] => .ok (.ofNat n)
  | c :: rest =>
    match Binary64.digit? c with
    | none => .error .notADigit
    | some d => if n * 10 + d < UInt64.size then wordFrom (n * 10 + d) rest else .error .tooLarge

/-- Reads a word, with a plus sign or without. -/
def parseWord (text : List Char) : Except WordFault UInt64 :=
  match text with
  | [] => .error .empty
  | ['+'] => .error .notADigit
  | '+' :: digits => wordFrom 0 digits
  | digits => wordFrom 0 digits

/-- A text that is not a number. -/
def notANumber (parameter : Parameter) (text : String) : UsageError :=
  .badValue parameter text (inQuotes text ++ " is not a valid number")

/-- Greatest number of workers. -/
def maxWorkers : Nat :=
  64

/-- Reads a number of workers. -/
def readWorkers (text : String) : Except UsageError Nat :=
  match parseWord text.toList with
  | .error _ => .error (notANumber .workers text)
  | .ok n =>
    if n = 0 then .error (.badValue .workers text "workers must be at least 1")
    else if maxWorkers < n.toNat then .error (.badValue .workers text "workers cannot exceed 64")
    else .ok n.toNat

/-- Reads a threshold, which is finite. -/
def readThreshold (text : String) : Except UsageError Binary64 :=
  match Binary64.parse? text.toList with
  | none => .error (notANumber .threshold text)
  | some x =>
    if x.isFinite then .ok x
    else .error (.badValue .threshold text "threshold must be a finite number")

/-- Reads a path, which is not empty. -/
def readPath (parameter : Parameter) (text : String) : Except UsageError Path :=
  if text.isEmpty then .error (.emptyValue parameter) else .ok ⟨text⟩

/-- Reads one of several names. -/
def readChoice {α : Type} (parameter : Parameter) (choice? : String → Option α) (text : String) :
    Except UsageError α :=
  match choice? text with
  | some choice => .ok choice
  | none =>
    if text.isEmpty then .error (.emptyValue parameter) else .error (.notAChoice parameter text)

/-- The names of formats that an argument may give, exactly as written. -/
def formatNames : List String :=
  ["text", "json"]

/-- The format of a name that an argument may give. -/
def exactFormat? (name : String) : Option OutputFormat :=
  if name ∈ formatNames then (OutputFormat.ofName name).toOption else none

/-- Reads a limit on the number of files. -/
def readMaxFiles (text : String) : Except UsageError UInt64 :=
  match parseWord text.toList with
  | .ok n => .ok n
  | .error fault => .error (.badValue .maxFiles text fault.message)

/-- The values that were given. -/
structure Given where
  /-- Which log events are wanted. -/
  logLevel : Option Verbosity
  /-- Number of workers. -/
  workers : Option Nat
  /-- The directory to score. -/
  source : Option Path
  /-- The file of a report. -/
  results : Option Path
  /-- The file of the rubric. -/
  rubric : Option Path
  /-- The threshold. -/
  threshold : Option Binary64
  /-- The format of the output. -/
  format : Option OutputFormat
  /-- The file to write. -/
  output : Option Path
  /-- Endings of file names, in order. -/
  extensions : List String
  /-- Greatest number of files. -/
  maxFiles : Option UInt64
deriving DecidableEq

namespace Given

/-- No values. -/
def nothing : Given :=
  ⟨none, none, none, none, none, none, none, none, [], none⟩

/-- Takes the value of a parameter that may be given once. -/
def once {α : Type} (parameter : Parameter) (held : Option α) (value : Except UsageError α) :
    Except UsageError (Option α) :=
  match held with
  | some _ => .error (.repeated parameter)
  | none => value.map some

/-- Takes the value of a parameter. -/
def take (given : Given) (parameter : Parameter) (text : String) : Except UsageError Given := do
  match parameter with
  | .logLevel =>
    let value := readChoice parameter Verbosity.ofName? text
    return { given with logLevel := ← once parameter given.logLevel value }
  | .workers => return { given with workers := ← once parameter given.workers (readWorkers text) }
  | .source =>
    return { given with source := ← once parameter given.source (readPath parameter text) }
  | .results =>
    return { given with results := ← once parameter given.results (readPath parameter text) }
  | .rubric =>
    return { given with rubric := ← once parameter given.rubric (readPath parameter text) }
  | .threshold =>
    return { given with threshold := ← once parameter given.threshold (readThreshold text) }
  | .format =>
    let value := readChoice parameter exactFormat? text
    return { given with format := ← once parameter given.format value }
  | .output =>
    return { given with output := ← once parameter given.output (readPath parameter text) }
  | .extension => return { given with extensions := given.extensions ++ [text] }
  | .maxFiles =>
    return { given with maxFiles := ← once parameter given.maxFiles (readMaxFiles text) }

end Given

end CommandLine

end RubricScore
