import RubricScore.Report.Basic
import RubricScore.Rubric.Document

/-!
# Report documents

How reports are written as JSON and read back. A component without a name takes the name under which
it stands.
-/

namespace RubricScore

open Json (Shape Reader field)

namespace Evidence

/-- Evidence before any of its fields is read. -/
def blank : Evidence :=
  ⟨0, 0, .empty⟩

/-- The record of the evidence. -/
def shape : Shape Evidence where
  name := "EvidenceReport"
  blank := blank
  fields :=
    [field "total_matches" true (Json.readWord "u64") fun x e => { e with totalMatches := x },
     field "matched_files" true (Json.readWord "usize") fun x e => { e with matchedFiles := x },
     field "cue_matches" true (Json.readMap (Json.readWord "u64"))
       fun x e => { e with cueMatches := x }]

/-- Reads evidence. -/
def read : Reader Evidence :=
  Json.readRecord shape

/-- The value of evidence. -/
def toJson (evidence : Evidence) : Json.Value :=
  .object
    [("total_matches", .word evidence.totalMatches),
     ("matched_files", .word evidence.matchedFiles),
     ("cue_matches", evidence.cueMatches.toJson .word)]

end Evidence

namespace Measure

/-- A measure before any of its fields is read. -/
def blank : Measure :=
  ⟨0, 0, Binary64.zero⟩

/-- The record of a measure. -/
def shape : Shape Measure where
  name := "Measure"
  blank := blank
  fields :=
    [field "found" true (Json.readWord "u64") fun x m => { m with found := x },
     field "target" true (Json.readWord "u64") fun x m => { m with target := x },
     field "score" true Json.readReal fun x m => { m with score := x }]

/-- Reads a measure. -/
def read : Reader Measure :=
  Json.readRecord shape

/-- The value of a measure. -/
def toJson (measure : Measure) : Json.Value :=
  .object
    [("found", .word measure.found),
     ("target", .word measure.target),
     ("score", .real measure.score)]

end Measure

namespace Scores

/-- Scores before any of them is read. -/
def blank : Scores :=
  ⟨Binary64.zero, Binary64.zero, Binary64.zero, Binary64.zero⟩

/-- The record of the scores. -/
def shape : Shape Scores where
  name := "ComponentScore"
  blank := blank
  fields :=
    [field "evidence" true Json.readReal fun x s => { s with evidence := x },
     field "functions" true Json.readReal fun x s => { s with functions := x },
     field "sloc" true Json.readReal fun x s => { s with sloc := x },
     field "overall" true Json.readReal fun x s => { s with overall := x }]

/-- Reads scores. -/
def read : Reader Scores :=
  Json.readRecord shape

/-- The value of scores. -/
def toJson (scores : Scores) : Json.Value :=
  .object
    [("evidence", .real scores.evidence),
     ("functions", .real scores.functions),
     ("sloc", .real scores.sloc),
     ("overall", .real scores.overall)]

end Scores

namespace ComponentResult

/-- A result before any of its fields is read. -/
def blank : ComponentResult :=
  ⟨"", Binary64.zero, .medium, .blank, .blank, .blank, .blank⟩

/-- The record of a result. -/
def shape : Shape ComponentResult where
  name := "ComponentResult"
  blank := blank
  fields :=
    [field "name" false Json.readString fun x r => { r with name := x },
     field "weight" true Json.readReal fun x r => { r with weight := x },
     field "criticality" true Criticality.read fun x r => { r with criticality := x },
     field "evidence" true Evidence.read fun x r => { r with evidence := x },
     field "functions" true Measure.read fun x r => { r with functions := x },
     field "sloc" true Measure.read fun x r => { r with sloc := x },
     field "scores" true Scores.read fun x r => { r with scores := x }]

/-- Reads a result. -/
def read : Reader ComponentResult :=
  Json.readRecord shape

/-- The value of a result. -/
def toJson (result : ComponentResult) : Json.Value :=
  .object
    [("name", .string result.name),
     ("weight", .real result.weight),
     ("criticality", result.criticality.toJson),
     ("evidence", result.evidence.toJson),
     ("functions", result.functions.toJson),
     ("sloc", result.sloc.toJson),
     ("scores", result.scores.toJson)]

/-- The result with a name in place of an empty one. -/
def named (name : String) (result : ComponentResult) : ComponentResult :=
  if result.name.isEmpty then { result with name := name } else result

end ComponentResult

namespace Summary

/-- A summary before any of its fields is read. -/
def blank : Summary :=
  ⟨Binary64.zero, Binary64.zero, Binary64.zero, 0⟩

/-- The record of a summary. -/
def shape : Shape Summary where
  name := "EvaluationSummary"
  blank := blank
  fields :=
    [field "kernel_primitives_score" true Json.readReal fun x s => { s with kernelScore := x },
     field "os_services_score" true Json.readReal fun x s => { s with platformScore := x },
     field "overall_score" true Json.readReal fun x s => { s with overallScore := x },
     field "total_files_scanned" true (Json.readWord "usize")
       fun x s => { s with filesScanned := x }]

/-- Reads a summary. -/
def read : Reader Summary :=
  Json.readRecord shape

/-- The value of a summary. -/
def toJson (summary : Summary) : Json.Value :=
  .object
    [("kernel_primitives_score", .real summary.kernelScore),
     ("os_services_score", .real summary.platformScore),
     ("overall_score", .real summary.overallScore),
     ("total_files_scanned", .word summary.filesScanned)]

end Summary

namespace Report

/-- A report before any of its fields is read. -/
def blank : Report :=
  ⟨.empty, .empty, .blank⟩

/-- The record of a report. -/
def shape : Shape Report where
  name := "EvaluationReport"
  blank := blank
  fields :=
    [field "kernel_primitives" true (Json.readMap ComponentResult.read)
       fun x r => { r with kernelPrimitives := x },
     field "os_services" true (Json.readMap ComponentResult.read)
       fun x r => { r with platformServices := x },
     field "summary" true Summary.read fun x r => { r with summary := x }]

/-- Reads a report. -/
def read : Reader Report :=
  Json.readRecord shape

/-- The value of a report. -/
def toJson (report : Report) : Json.Value :=
  .object
    [("kernel_primitives", report.kernelPrimitives.toJson ComponentResult.toJson),
     ("os_services", report.platformServices.toJson ComponentResult.toJson),
     ("summary", report.summary.toJson)]

/-- The report in which every result has a name. -/
def named (report : Report) : Report :=
  { report with
    kernelPrimitives := report.kernelPrimitives.mapValues ComponentResult.named
    platformServices := report.platformServices.mapValues ComponentResult.named }

/-- Reads the text of a report. -/
def ofText (text : List Char) : Except Json.Fault Report :=
  (Json.decode read text).map named

end Report

end RubricScore
