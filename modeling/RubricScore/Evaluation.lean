import RubricScore.Evidence
import RubricScore.Rubric.Load
import RubricScore.Scoring

/-!
# Evaluation

Scores a corpus against a rubric. Functions and source lines of a component are counted only in the
files in which one of its cues occurs. The cues of all components are prepared once, for any number
of corpora; they are kept apart from the components and belong to them by their place.
-/

namespace RubricScore

namespace Component

/-- The cues of a component. -/
def cueSet (component : Component) : CueSet :=
  CueSet.ofPhrases component.cues

/-- Scores one component by the occurrences of some cues. -/
def evaluateWith (name : String) (component : Component) (cues : CueSet) (digests : List Digest) :
    ComponentResult :=
  let scan := cues.scan digests
  let counts := Metrics.sum (scan.matched.map Digest.metrics)
  let functions := UInt64.ofNat counts.functions
  let sloc := UInt64.ofNat counts.sloc
  let scores := Scoring.componentScores scan.evidence.totalMatches functions sloc
    component.targetFunctions component.targetSloc
  { name := name
    weight := component.weight
    criticality := component.criticality
    evidence := scan.evidence
    functions := ⟨functions, component.targetFunctions, scores.functions⟩
    sloc := ⟨sloc, component.targetSloc, scores.sloc⟩
    scores := scores }

/-- Scores one component by its own cues. -/
def evaluate (name : String) (component : Component) (digests : List Digest) : ComponentResult :=
  component.evaluateWith name component.cueSet digests

end Component

/-- Score of the results of a category. -/
def categoryScore (results : List ComponentResult) : Binary64 :=
  Scoring.weightedMean (results.map fun result => (result.weight, result.scores.overall))

/-- Results under their names. -/
def resultsByName (results : List ComponentResult) : OrderedMap String ComponentResult :=
  .ofList (results.map fun result => (result.name, result))

/-- A rubric and the prepared cues of its components. -/
structure Evaluator where
  /-- The rubric. -/
  rubric : Rubric
  /-- The cues of each kernel primitive, in document order. -/
  kernelCues : List CueSet
  /-- The cues of each platform service, in document order. -/
  platformCues : List CueSet

/-- What the engine that searches for patterns says against a text of which it makes none. -/
abbrev Refusal : Type :=
  List Char → Option String

namespace Evaluator

/-- A cue of a component, unless no pattern can be made of it. -/
def compileCue (refusal : Refusal) (component phrase : String) : Except RubricError Cue :=
  let cue := Cue.ofPhrase phrase
  match refusal cue.needle with
  | some reason => .error (.unusableCue component phrase reason)
  | none => .ok cue

/-- The cues of each component of a category, unless no pattern can be made of one of them. -/
def compileCategory (refusal : Refusal) (rubric : Rubric) (category : Category) :
    Except RubricError (List CueSet) :=
  (rubric.components category).entries.mapM fun entry =>
    (entry.2.cues.mapM (compileCue refusal entry.1)).map CueSet.mk

/-- The evaluator of a rubric, unless no pattern can be made of one of its cues. -/
def compile (refusal : Refusal) (rubric : Rubric) : Except RubricError Evaluator := do
  let kernelCues ← compileCategory refusal rubric .kernelPrimitive
  let platformCues ← compileCategory refusal rubric .platformService
  return ⟨rubric, kernelCues, platformCues⟩

/-- Prepares the cues of each component of a category. -/
def prepare (rubric : Rubric) (category : Category) : List CueSet :=
  (rubric.components category).values.map Component.cueSet

/-- The evaluator of a rubric with a pattern for each of its cues. -/
def ofRubric (rubric : Rubric) : Evaluator :=
  ⟨rubric, prepare rubric .kernelPrimitive, prepare rubric .platformService⟩

/-- The cues of a category. -/
def cues (evaluator : Evaluator) : Category → List CueSet
  | .kernelPrimitive => evaluator.kernelCues
  | .platformService => evaluator.platformCues

/-- Scores every component of a category by the cues that stand in its place. -/
def evaluateCategory (evaluator : Evaluator) (digests : List Digest) (category : Category) :
    List ComponentResult :=
  List.zipWith (fun entry cues => entry.2.evaluateWith entry.1 cues digests)
    (evaluator.rubric.components category).entries (evaluator.cues category)

/-- Scores a corpus. -/
def evaluate (evaluator : Evaluator) (corpus : Corpus) : Report :=
  let digests := corpus.digests
  let primitives := evaluator.evaluateCategory digests .kernelPrimitive
  let services := evaluator.evaluateCategory digests .platformService
  let kernelScore := categoryScore primitives
  let platformScore := categoryScore services
  { kernelPrimitives := resultsByName primitives
    platformServices := resultsByName services
    summary :=
      { kernelScore := kernelScore
        platformScore := platformScore
        overallScore := (kernelScore + platformScore) / 2
        filesScanned := .ofNat corpus.size } }

/-- In the place of a component stand its own cues. -/
theorem evaluateCategory_ofRubric (rubric : Rubric) (digests : List Digest) (category : Category) :
    (ofRubric rubric).evaluateCategory digests category
      = (rubric.components category).entries.map fun entry =>
        entry.2.evaluate entry.1 digests := by
  have hcues : (ofRubric rubric).cues category
      = (rubric.components category).entries.map fun entry => entry.2.cueSet := by
    cases category <;> exact List.map_map
  rw [evaluateCategory, hcues, List.zipWith_map_right]
  exact List.zipWith_self

end Evaluator

namespace Rubric

/-- Scores a corpus against the rubric. -/
def evaluate (rubric : Rubric) (corpus : Corpus) : Report :=
  (Evaluator.ofRubric rubric).evaluate corpus

/-- The results of a category are those of its components. -/
theorem results_evaluate (rubric : Rubric) (corpus : Corpus) (category : Category) :
    (rubric.evaluate corpus).results category
      = (rubric.components category).mapValues fun name component =>
        component.evaluate name corpus.digests := by
  have hresults : (rubric.evaluate corpus).results category
      = resultsByName ((Evaluator.ofRubric rubric).evaluateCategory corpus.digests category) := by
    cases category <;> rfl
  -- A result is named after its component, so the names are still distinct.
  rw [hresults, Evaluator.evaluateCategory_ofRubric, resultsByName, List.map_map]
  exact OrderedMap.ofList_entries
    ((rubric.components category).mapValues fun name component =>
      component.evaluate name corpus.digests)

/-- The result under a name is that of the component of this name. -/
theorem get?_results_evaluate (rubric : Rubric) (corpus : Corpus) (category : Category)
    (name : String) :
    ((rubric.evaluate corpus).results category).get? name
      = (rubric.component? category name).map fun component =>
        component.evaluate name corpus.digests := by
  rw [results_evaluate, OrderedMap.get?_mapValues]
  rfl

/-- The score of a category is that of the results in the report. -/
theorem categoryScore_evaluate (rubric : Rubric) (corpus : Corpus) (category : Category) :
    (rubric.evaluate corpus).categoryScore category
      = categoryScore ((rubric.evaluate corpus).results category).values := by
  have hscore : (rubric.evaluate corpus).categoryScore category
      = categoryScore
        ((Evaluator.ofRubric rubric).evaluateCategory corpus.digests category) := by
    cases category <;> rfl
  rw [hscore, Evaluator.evaluateCategory_ofRubric, results_evaluate, OrderedMap.values_mapValues]

end Rubric

namespace ComponentResult

/-- The note on the counts of a component. -/
def countEvent (result : ComponentResult) : Event :=
  ⟨.debug, result.name ++ ": " ++ toString result.evidence.totalMatches.toNat ++ " matches in "
    ++ toString result.evidence.matchedFiles.toNat ++ " files, "
    ++ toString result.functions.found.toNat ++ " functions, "
    ++ toString result.sloc.found.toNat ++ " SLOC -> " ++ result.scores.overall.toTenths⟩

/-- The note on the score of a component. -/
def scoreEvent (result : ComponentResult) : Event :=
  ⟨.info, "  " ++ result.name ++ ": " ++ result.scores.overall.toTenths ++ "%"⟩

end ComponentResult

namespace Report

/-- The events of the evaluation of a category. -/
def categoryEvents (report : Report) (category : Category) : List Event :=
  let results := (report.results category).values
  results.map ComponentResult.countEvent ++ results.map ComponentResult.scoreEvent
    ++ [⟨.info, category.label ++ " score: " ++ (report.categoryScore category).toTenths⟩]

/-- The events of the evaluation that gave a report. -/
def evaluationEvents (report : Report) : List Event :=
  let summary := report.summary
  let files := summary.filesScanned.toNat
  (if files = 0 then
    [⟨.warn, "No source files found; every component will score zero evidence"⟩]
  else [])
    ++ Category.all.flatMap report.categoryEvents
    ++ [⟨.info, "Overall score " ++ summary.overallScore.toTenths ++ " (kernel "
        ++ summary.kernelScore.toTenths ++ ", OS services " ++ summary.platformScore.toTenths
        ++ ") over " ++ toString files ++ " files"⟩]

end Report

end RubricScore
