/-!
# Log events

What an operation reports about its course, beside its result.
-/

namespace RubricScore

/-- How urgent an event is. -/
inductive Level where
  /-- Something failed. -/
  | error
  /-- Something may be wrong. -/
  | warn
  /-- A step was finished. -/
  | info
  /-- A detail of a step. -/
  | debug
deriving DecidableEq

/-- Name of a level. -/
def Level.name : Level → String
  | .error => "ERROR"
  | .warn => "WARN"
  | .info => "INFO"
  | .debug => "DEBUG"

/-- One event of a log. -/
structure Event where
  /-- Its urgency. -/
  level : Level
  /-- Its message. -/
  message : String
deriving DecidableEq

/-- Text of an event: the name of the level and the message. -/
def Event.text (event : Event) : String :=
  event.level.name ++ " " ++ event.message

end RubricScore
