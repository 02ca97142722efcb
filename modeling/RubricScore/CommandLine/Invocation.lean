import RubricScore.CommandLine.Reading

/-!
# Invocations

What an argument list asks for, with the defaults of everything it does not say.
-/

namespace RubricScore

/-- What to score and how to show it. -/
structure EvaluationRequest where
  /-- The directory to score. -/
  source : Path
  /-- The file of the rubric. -/
  rubric : Path
  /-- The format of the output. -/
  format : OutputFormat
  /-- The file to write, if one is named. -/
  output : Option Path
  /-- Endings of file names, in place of those of the settings unless there are none. -/
  extensions : List String
  /-- Greatest number of files, in place of that of the settings. -/
  maxFiles : Option UInt64
deriving DecidableEq

/-- What to make a backlog of and how to show it. -/
structure BacklogRequest where
  /-- The file of the report. -/
  results : Path
  /-- The file of the rubric. -/
  rubric : Path
  /-- The threshold, in place of that of the settings. -/
  threshold : Option Binary64
  /-- The format of the output. -/
  format : OutputFormat
  /-- The file to write, if one is named. -/
  output : Option Path
deriving DecidableEq

/-- A command and what it needs. -/
inductive Command where
  /-- Scores a source tree. -/
  | evaluate (request : EvaluationRequest)
  /-- Makes a backlog. -/
  | tasks (request : BacklogRequest)
  /-- Writes a settings file. -/
  | init
deriving DecidableEq

/-- A command and the options that every command has. -/
structure Invocation where
  /-- Which log events are wanted. -/
  logLevel : Verbosity
  /-- Number of workers. -/
  workers : Option Nat
  /-- The command. -/
  command : Command
deriving DecidableEq

namespace Invocation

open CommandLine (CommandName Given UsageError)

/-- The file of the rubric if none is named. -/
def defaultRubric : Path :=
  ⟨"rubric.json"⟩

/-- The command that values make up. -/
def commandOf (given : Given) : CommandName → Except UsageError Command
  | .init => .ok .init
  | .evaluate =>
    match given.source with
    | none => .error .missingPosition
    | some source => .ok <| .evaluate
      { source := source
        rubric := given.rubric.getD defaultRubric
        format := given.format.getD .text
        output := given.output
        extensions := given.extensions
        maxFiles := given.maxFiles }
  | .tasks =>
    match given.results with
    | none => .error .missingPosition
    | some results => .ok <| .tasks
      { results := results
        rubric := given.rubric.getD defaultRubric
        threshold := given.threshold
        format := given.format.getD .text
        output := given.output }

/-- The invocation of an argument list. What every command has may stand before the command or
after it; the latter wins. -/
def ofArguments (arguments : List String) : Except UsageError Invocation := do
  let (before, name, inside) ← CommandLine.read arguments
  return {
    logLevel := (inside.logLevel.or before.logLevel).getD .warn
    workers := inside.workers.or before.workers
    command := ← commandOf inside name }

end Invocation

end RubricScore
