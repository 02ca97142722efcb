import RubricScore.Evaluation

/-!
# Components do not interfere

The cues of all components are prepared before any corpus is seen and belong to the components by
their place only; the results stand in a list before they are put under names. Still nothing gets
mixed up: what is found out about a component depends on its own cues and targets, whatever else the
rubric says about it or about other components.

## Main definitions

* `Component.MeasuresLike`: two components have the same cues and targets;
* `ComponentResult.FindsLike`: two results agree in evidence, counts and scores;
* `ComponentResult.Carries`: a result has the name, weight and label of a component.

## Main results

* `Component.findsLike_evaluate`: components that measure alike are scored alike;
* `Rubric.components_independent`: so they are in the reports on two rubrics, and every report has
  the results of its own rubric under their names.
-/

namespace RubricScore

/-- The components have the same cues and targets. All else may differ. -/
structure Component.MeasuresLike (a b : Component) : Prop where
  /-- The phrases that count as evidence. -/
  cues : a.cues = b.cues
  /-- The functions that earn full credit. -/
  targetFunctions : a.targetFunctions = b.targetFunctions
  /-- The source lines that earn full credit. -/
  targetSloc : a.targetSloc = b.targetSloc

/-- The results agree in everything that was found out. -/
structure ComponentResult.FindsLike (x y : ComponentResult) : Prop where
  /-- The evidence, cue by cue. -/
  evidence : x.evidence = y.evidence
  /-- The functions, their target and their score. -/
  functions : x.functions = y.functions
  /-- The source lines, their target and their score. -/
  sloc : x.sloc = y.sloc
  /-- All four scores. -/
  scores : x.scores = y.scores

/-- The result is filed as that of a component. -/
structure ComponentResult.Carries (result : ComponentResult) (name : String)
    (component : Component) : Prop where
  /-- The name under which it stands. -/
  name : result.name = name
  /-- The weight in the rubric. -/
  weight : result.weight = component.weight
  /-- The label in the rubric. -/
  criticality : result.criticality = component.criticality

namespace Component

variable {a b : Component}

/-- The findings about a component depend only on the cues that are looked for and on its targets. -/
theorem findsLike_evaluateWith (m n : String) (cues : CueSet) (digests : List Digest)
    (hfunctions : a.targetFunctions = b.targetFunctions) (hsloc : a.targetSloc = b.targetSloc) :
    (a.evaluateWith m cues digests).FindsLike (b.evaluateWith n cues digests) := by
  constructor
  case evidence => rfl
  all_goals
    simp only [evaluateWith, hfunctions, hsloc]

/-- Components that measure alike are scored alike. -/
theorem findsLike_evaluate (h : a.MeasuresLike b) (m n : String) (digests : List Digest) :
    (a.evaluate m digests).FindsLike (b.evaluate n digests) := by
  have hcues : a.cueSet = b.cueSet := congrArg CueSet.ofPhrases h.cues
  rw [evaluate, evaluate, hcues]
  exact findsLike_evaluateWith m n b.cueSet digests h.targetFunctions h.targetSloc

theorem carries_evaluate (name : String) (component : Component) (digests : List Digest) :
    (component.evaluate name digests).Carries name component :=
  ⟨rfl, rfl, rfl⟩

end Component

/-- Whatever two rubrics say otherwise, a component that has the same cues and targets in both gets
the same evidence, counts and scores in both reports. The results of each category stand under the
names of its components, in the order of the rubric, and each of them carries the name, weight and
label of its own component. -/
theorem Rubric.components_independent :
    (∀ (r s : Rubric) (corpus : Corpus) (c d : Category) (m n : String) (a b : Component),
      r.component? c m = some a → s.component? d n = some b → a.MeasuresLike b →
      ∃ x y, ((r.evaluate corpus).results c).get? m = some x
        ∧ ((s.evaluate corpus).results d).get? n = some y ∧ x.FindsLike y)
    ∧ ∀ (rubric : Rubric) (corpus : Corpus) (category : Category),
      ((rubric.evaluate corpus).results category).names = (rubric.components category).names
      ∧ ∀ name component, rubric.component? category name = some component →
        ∃ result, ((rubric.evaluate corpus).results category).get? name = some result
          ∧ result.Carries name component := by
  constructor
  · intro r s corpus c d m n a b ha hb hlike
    refine ⟨a.evaluate m corpus.digests, b.evaluate n corpus.digests, ?_, ?_,
      Component.findsLike_evaluate hlike m n corpus.digests⟩
    · rw [get?_results_evaluate, ha]
      rfl
    · rw [get?_results_evaluate, hb]
      rfl
  · intro rubric corpus category
    constructor
    · rw [results_evaluate, OrderedMap.names_mapValues]
    · intro name component hcomponent
      refine ⟨_, ?_, component.carries_evaluate name corpus.digests⟩
      rw [get?_results_evaluate, hcomponent]
      rfl

/-- A component for clocks. -/
def clockComponent : Component :=
  ⟨3, Criticality.high, "Time", ["tick"], 2, 9, some ["now", "wait"]⟩

/-- The same cues and targets with another weight, label and description, and without a manifest. -/
def otherClockComponent : Component :=
  ⟨0, .low, "", ["tick"], 2, 9, none⟩

/-- A rubric with the clocks behind another component. -/
def clockRubric : Rubric where
  metadata := .null
  kernelPrimitives := (OrderedMap.empty.insert "boot" (⟨1, .low, "", ["init"], 1, 1, none⟩)).insert
    "clock" clockComponent
  platformServices := .empty

/-- A rubric with the clocks in the other category, in front of another component. -/
def otherClockRubric : Rubric where
  metadata := .null
  kernelPrimitives := .empty
  platformServices := (OrderedMap.empty.insert "clock" otherClockComponent).insert "shell"
    ⟨5, .high, "", ["tick", "prompt"], 7, 7, none⟩

/-- The clocks in both rubrics, scored on a file with two ticks. -/
theorem Rubric.components_independent_clock :
    (clockRubric.component? .kernelPrimitive "clock" = some clockComponent
      ∧ otherClockRubric.component? .platformService "clock" = some otherClockComponent
      ∧ clockComponent.MeasuresLike otherClockComponent)
    ∧ (∃ x y,
      ((clockRubric.evaluate (Corpus.ofList [⟨⟨"t.c"⟩, "tick(); Tick();".toList⟩])).results
          .kernelPrimitive).get? "clock" = some x
      ∧ ((otherClockRubric.evaluate (Corpus.ofList [⟨⟨"t.c"⟩, "tick(); Tick();".toList⟩])).results
          .platformService).get? "clock" = some y
      ∧ x.FindsLike y)
    ∧ ((clockRubric.evaluate (Corpus.ofList [⟨⟨"t.c"⟩, "tick(); Tick();".toList⟩])).results
          .kernelPrimitive).names = ["boot", "clock"] := by
  have hlike : clockComponent.MeasuresLike otherClockComponent := ⟨rfl, rfl, rfl⟩
  refine ⟨⟨rfl, rfl, hlike⟩, ?_, ?_⟩
  · exact Rubric.components_independent.1 clockRubric otherClockRubric _ .kernelPrimitive
      .platformService "clock" "clock" _ _ rfl rfl hlike
  · exact (Rubric.components_independent.2 clockRubric _ .kernelPrimitive).1

end RubricScore
