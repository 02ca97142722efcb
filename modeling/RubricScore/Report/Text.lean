import RubricScore.Report.Basic
import RubricScore.Style
import RubricScore.Text.Case

/-!
# Report texts

How a report is shown to a reader: a summary, then the components of each category in order.
-/

namespace RubricScore

/-- A component name as a title. -/
def titleOf (name : String) : String :=
  String.ofList (Text.titleCase name.toList)

/-- Style of a score: green from 70, yellow from 40, red below. -/
def scoreStyle (score : Binary64) : Style :=
  if Binary64.le 70 score then .green else if Binary64.le 40 score then .yellow else .red

/-- A score with one decimal place, in its style. -/
def scoreText (colors : Bool) (score : Binary64) : String :=
  (scoreStyle score).apply colors (score.toTenths ++ "%")

/-- One line about a measure. -/
def Measure.line (label : String) (measure : Measure) : String :=
  RubricScore.line
    ("  " ++ label ++ ": " ++ measure.progress ++ " (" ++ measure.score.toTenths ++ "%)")

/-- The lines about one component. -/
def ComponentResult.text (colors : Bool) (name : String) (result : ComponentResult) : String :=
  line "" ++ line (Style.bold.apply colors (titleOf name))
    ++ line ("  Weight: " ++ result.weight.toPlain ++ ", Criticality: " ++ result.criticality.label)
    ++ line ("  Overall Score: " ++ scoreText colors result.scores.overall)
    ++ line ("  Evidence matches: " ++ toString result.evidence.totalMatches.toNat ++ " in "
      ++ toString result.evidence.matchedFiles.toNat ++ " files")
    ++ result.functions.line "Functions"
    ++ result.sloc.line "SLOC"

namespace Report

/-- Heading of a category, in capital letters. -/
def categoryTitle : Category → String
  | .kernelPrimitive => "KERNEL PRIMITIVES DETAILS"
  | .platformService => "OS PLATFORM SERVICES DETAILS"

/-- The lines about one category. -/
def categoryText (report : Report) (colors : Bool) (category : Category) : String :=
  let results := report.results category
  heading colors (categoryTitle category)
    ++ line ("Category score: " ++ scoreText colors (report.categoryScore category) ++ " over "
      ++ toString results.size ++ " components")
    ++ String.join (results.entries.map fun entry => entry.2.text colors entry.1)

/-- The text of a report. -/
def text (colors : Bool) (report : Report) : String :=
  let summary := report.summary
  heading colors "EVALUATION SUMMARY"
    ++ line ""
    ++ line ("Kernel Primitives Score: " ++ scoreText colors summary.kernelScore)
    ++ line ("OS Services Score:       " ++ scoreText colors summary.platformScore)
    ++ line ("Overall Score:           "
      ++ Style.bold.apply colors (scoreText colors summary.overallScore))
    ++ line ""
    ++ line ("Total Files Scanned:     " ++ toString summary.filesScanned.toNat)
    ++ String.join (Category.all.map (report.categoryText colors))

end Report

end RubricScore
