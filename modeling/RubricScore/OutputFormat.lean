import RubricScore.Backlog.Document
import RubricScore.Backlog.Text
import RubricScore.Report.Document

/-!
# Output formats

Reports and backlogs are shown as text or as JSON.
-/

namespace RubricScore

/-- A format of the output. -/
inductive OutputFormat where
  /-- Text for a reader. -/
  | text
  /-- JSON, as it is written to files. -/
  | json
deriving DecidableEq

namespace OutputFormat

/-- Name of a format. -/
def name : OutputFormat → String
  | .text => "text"
  | .json => "json"

/-- The format of a name in any letter case, or a message about a name that no format has. -/
def ofName (name : String) : Except String OutputFormat :=
  let lowered := String.ofList (Text.lowercase name.toList)
  if lowered = "text" ∨ lowered = "txt" ∨ lowered = "terminal" then .ok .text
  else if lowered = "json" then .ok .json
  else .error ("Unknown format '" ++ name ++ "'. Valid formats: text, json")

end OutputFormat

/-- A report in a format. -/
def Report.render (report : Report) (colors : Bool) : OutputFormat → String
  | .text => report.text colors
  | .json => report.toJson.render

/-- A backlog in a format. -/
def Backlog.render (backlog : Backlog) (colors : Bool) : OutputFormat → String
  | .text => backlog.text colors
  | .json => backlog.toJson.render

end RubricScore
