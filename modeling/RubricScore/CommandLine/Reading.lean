import RubricScore.CommandLine.Parameter

/-!
# Reading of argument lists

Arguments are read from left to right, first those before the name of the command, then those of
the command. A value is taken only when the next argument shows that it is complete, so of two
faults the one met later can be reported first.
-/

namespace RubricScore.CommandLine

/-- What an option asks for. -/
inductive Switch where
  /-- Help. -/
  | help
  /-- The version. -/
  | version
  /-- A value for a parameter. -/
  | value (parameter : Parameter)
deriving DecidableEq

/-- Which arguments are read: those before the name of the command, or those of a command. -/
inductive Stage where
  /-- Before the name. -/
  | before
  /-- After the name. -/
  | inside (command : CommandName)
deriving DecidableEq

namespace Stage

/-- The long options of every stage. -/
def commonOption? : String → Option Switch
  | "help" => some .help
  | "log-level" => some (.value .logLevel)
  | "workers" => some (.value .workers)
  | _ => none

/-- The option of a long name. -/
def longOption? (stage : Stage) (name : String) : Option Switch :=
  (commonOption? name).or <|
    match stage, name with
    | .before, "version" => some .version
    | .inside .evaluate, "format" => some (.value .format)
    | .inside .evaluate, "output" => some (.value .output)
    | .inside .evaluate, "ext" => some (.value .extension)
    | .inside .evaluate, "max-files" => some (.value .maxFiles)
    | .inside .tasks, "format" => some (.value .format)
    | .inside .tasks, "output" => some (.value .output)
    | _, _ => none

/-- The option of a letter. -/
def shortOption? (stage : Stage) (letter : Char) : Option Switch :=
  match stage, letter with
  | _, 'h' => some .help
  | .before, 'V' => some .version
  | .inside .evaluate, 'f' => some (.value .format)
  | .inside .evaluate, 'o' => some (.value .output)
  | .inside .tasks, 'f' => some (.value .format)
  | .inside .tasks, 'o' => some (.value .output)
  | _, _ => none

/-- The parameters that are given by position. -/
def positions : Stage → List Parameter
  | .before => []
  | .inside .evaluate => [.source, .rubric]
  | .inside .tasks => [.results, .rubric, .threshold]
  | .inside .init => []

end Stage

/-- A list of arguments that is being read. -/
structure Progress where
  /-- The values taken. -/
  given : Given
  /-- The parameter that was met last and its value, if it has one yet. -/
  pending : Option (Parameter × Option String)
  /-- The parameter to which the next argument belongs unless it is an option. -/
  awaiting : Option Parameter
  /-- Number of positions filled. -/
  filled : Nat
  /-- Two dashes were met; everything after them fills positions. -/
  positionsOnly : Bool
deriving DecidableEq

namespace Progress

/-- Before the first argument. -/
def start : Progress :=
  ⟨.nothing, none, none, 0, false⟩

/-- Takes the value of the parameter that was met last. -/
def settle (progress : Progress) : Except UsageError Progress :=
  match progress.pending with
  | none => .ok progress
  | some (parameter, none) => .error (.emptyValue parameter)
  | some (parameter, some text) =>
    (progress.given.take parameter text).map fun given =>
      { progress with given := given, pending := none }

/-- Meets an option, whose value is given with it or is to follow. `shown` is how messages name it
if it takes no value. -/
def meet (progress : Progress) (switch : Switch) (shown : String) (attached : Option String) :
    Except UsageError Progress :=
  match switch, attached with
  | .value parameter, some text => do
    let settled ← progress.settle
    let given ← settled.given.take parameter text
    return { settled with given := given, awaiting := none }
  | .value parameter, none => do
    let settled ← progress.settle
    return { settled with pending := some (parameter, none), awaiting := some parameter }
  | _, some text => .error (.surplusValue shown text)
  | .help, none => do
    -- A fault of the value met before is reported instead.
    let _ ← progress.settle
    throw .help
  | .version, none => do
    let _ ← progress.settle
    throw .version

/-- Fills the next position. -/
def fill (progress : Progress) (parameter : Parameter) (argument : String) :
    Except UsageError Progress := do
  let settled ← progress.settle
  return { settled with
    pending := some (parameter, some argument), awaiting := none, filled := settled.filled + 1 }

/-- An argument that fits no position. -/
def refuse (stage : Stage) (progress : Progress) (argument : String) : UsageError :=
  match stage with
  | .inside _ => .unexpected argument
  | .before =>
    let isCommand := argument = "help" ∨ (CommandName.ofName? argument).isSome
    if progress.positionsOnly ∧ isCommand then .unexpected argument else .unknownCommand argument

/-- An argument that fills the next position. -/
def position (stage : Stage) (progress : Progress) (argument : String) :
    Except UsageError Progress :=
  match stage.positions[progress.filled]? with
  | some parameter => progress.fill parameter argument
  | none => .error (refuse stage progress argument)

/-- An argument that is no option. -/
def plain (stage : Stage) (progress : Progress) (argument : String) : Except UsageError Progress :=
  match progress.awaiting with
  | some parameter =>
    .ok { progress with pending := some (parameter, some argument), awaiting := none }
  | none => position stage progress argument

end Progress

/-- The text looks like a number without a sign: digits, with a point after the first one or an
exponent or both. -/
def looksNumeric (text : List Char) : Bool :=
  let significand := text.takeWhile (· ≠ 'e')
  let exponent := (text.dropWhile (· ≠ 'e')).drop 1
  let hasExponent := text.contains 'e'
  significand.all (fun c => Binary64.isDigit c || c = '.')
    && significand.head? ≠ some '.'
    && 2 > significand.count '.'
    && (!hasExponent || (significand ≠ [] && exponent ≠ [] && exponent.all Binary64.isDigit))

/-- A negative number may stand here. -/
def Progress.takesNegatives (stage : Stage) (progress : Progress) : Bool :=
  progress.awaiting.any Parameter.takesNegatives
    || (stage.positions[progress.filled]?).any Parameter.takesNegatives

/-- The two sides of the first equals sign; the second side is absent without one. -/
def cutAtEquals (text : List Char) : String × Option String :=
  let name := text.takeWhile (· ≠ '=')
  match text.dropWhile (· ≠ '=') with
  | [] => (String.ofList name, none)
  | _ :: value => (String.ofList name, some (String.ofList value))

/-- A value given with a letter, perhaps after an equals sign. -/
def attachedTo : List Char → Option String
  | [] => none
  | '=' :: value => some (String.ofList value)
  | value => some (String.ofList value)

/-- A long option. -/
def stepLong (stage : Stage) (progress : Progress) (body : List Char) :
    Except UsageError Progress :=
  let (name, attached) := cutAtEquals body
  match stage.longOption? name with
  | some switch => progress.meet switch ("--" ++ name) attached
  | none => .error (.unexpected ("--" ++ name))

/-- A letter, perhaps with a value. A switch that takes no value is followed at once. -/
def stepShort (stage : Stage) (progress : Progress) (letter : Char) (tail : List Char) :
    Except UsageError Progress :=
  match stage.shortOption? letter with
  | some (.value parameter) => progress.meet (.value parameter) "" (attachedTo tail)
  | some switch => progress.meet switch "" none
  | none => .error (.unexpected (String.ofList ['-', letter]))

/-- One argument. -/
def step (stage : Stage) (progress : Progress) (argument : String) : Except UsageError Progress :=
  if progress.positionsOnly then progress.position stage argument
  else
    match argument.toList with
    | ['-', '-'] => .ok { progress with positionsOnly := true }
    | '-' :: '-' :: body => stepLong stage progress body
    | '-' :: letter :: tail =>
      -- A negative number is no letter where one may stand.
      if looksNumeric (letter :: tail) ∧ progress.takesNegatives stage then
        progress.plain stage argument
      else stepShort stage progress letter tail
    | _ => progress.plain stage argument

/-- A position that must be filled is not. -/
def Given.lacks (given : Given) : CommandName → Bool
  | .evaluate => given.source.isNone
  | .tasks => given.results.isNone
  | .init => false

/-- The values of the arguments of a command. -/
def readInside (command : CommandName) (arguments : List String) : Except UsageError Given := do
  let last ← arguments.foldlM (step (.inside command)) .start
  let settled ← last.settle
  if settled.given.lacks command then throw .missingPosition
  return settled.given

/-- What follows a request for help: the name of a command, or nothing. -/
def helpError : List String → UsageError
  | [] => .help
  | first :: rest =>
    if first = "help" ∨ (CommandName.ofName? first).isSome then
      match rest with
      | [] => .help
      | next :: _ => .unknownCommand next
    else .unknownCommand first

/-- Reads on before the name of the command. -/
def readFrom (progress : Progress) : List String → Except UsageError (Given × CommandName × Given)
  | [] => do
    let settled ← progress.settle
    if settled.given = .nothing then throw .nothingGiven else throw .missingCommand
  | argument :: rest =>
    -- The value of an option is not taken for the name of a command.
    if progress.positionsOnly ∨ progress.awaiting.isSome then do
      readFrom (← step .before progress argument) rest
    else if argument = "help" then .error (helpError rest)
    else
      match CommandName.ofName? argument with
      | some command => do
        -- The last value in front of the name is taken only after those behind it.
        let inside ← readInside command rest
        let settled ← progress.settle
        return (settled.given, command, inside)
      | none => do readFrom (← step .before progress argument) rest

/-- The values given before the name of the command, the command, and the values given after. -/
def read (arguments : List String) : Except UsageError (Given × CommandName × Given) :=
  readFrom .start arguments

end RubricScore.CommandLine
