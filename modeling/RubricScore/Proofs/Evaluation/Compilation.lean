import RubricScore.Evaluation
import RubricScore.Proofs.Except

/-!
# Which rubrics can be evaluated

Before a rubric is evaluated, a pattern is made of every cue of it. The engine that searches for
patterns may refuse some texts; of a rubric with such a cue no evaluator is made, and the error is
about the first such cue in document order, the kernel primitives going first. Otherwise the
evaluator is that of the rubric, whatever the engine refuses apart from that.

## Main definitions

* `Rubric.refusedCue?`: the error about the first cue of which no pattern can be made.

## Main results

* `Evaluator.compile_eq`: the evaluator of a rubric, or the error about its first refused cue;
* `Evaluator.compile_eq_ok_iff`: there is one just when no cue is refused.
-/

namespace RubricScore

/-- The error about the first cue of which no pattern can be made, if there is one. -/
def Rubric.refusedCue? (rubric : Rubric) (refusal : Refusal) : Option RubricError :=
  Category.all.findSome? fun category =>
    (rubric.components category).entries.findSome? fun entry =>
      entry.2.cues.findSome? fun phrase =>
        (refusal (Text.lowercase phrase.toList)).map (.unusableCue entry.1 phrase)

namespace Evaluator

variable (refusal : Refusal) (rubric : Rubric)

theorem compileCue_eq (component phrase : String) :
    compileCue refusal component phrase
      = ((refusal (Text.lowercase phrase.toList)).map (.unusableCue component phrase)).elim
        (.ok (Cue.ofPhrase phrase)) .error := by
  have hneedle : (Cue.ofPhrase phrase).needle = Text.lowercase phrase.toList := rfl
  rw [compileCue, hneedle]
  cases refusal (Text.lowercase phrase.toList) with
  | some reason => rfl
  | none => rfl

theorem compileCategory_eq (category : Category) :
    compileCategory refusal rubric category
      = ((rubric.components category).entries.findSome? fun entry =>
          entry.2.cues.findSome? fun phrase =>
            (refusal (Text.lowercase phrase.toList)).map (.unusableCue entry.1 phrase)).elim
        (.ok (prepare rubric category)) .error := by
  have hvalues : prepare rubric category
      = (rubric.components category).entries.map fun entry => CueSet.ofPhrases entry.2.cues :=
    List.map_map
  rw [hvalues, compileCategory]
  refine mapM_eq_elim (fun entry => ?_) _
  -- The cues of a component are prepared one by one.
  rw [mapM_eq_elim (compileCue_eq refusal entry.1)]
  generalize entry.2.cues.findSome? _ = found
  cases found with
  | some error => rfl
  | none => rfl

/-- The evaluator of a rubric is made, unless a cue is refused: then the error is about the first
such cue. -/
theorem compile_eq :
    compile refusal rubric = (rubric.refusedCue? refusal).elim (.ok (ofRubric rubric)) .error := by
  rw [compile, compileCategory_eq, compileCategory_eq, Rubric.refusedCue?, Category.all,
    List.findSome?_cons, List.findSome?_cons, List.findSome?_nil]
  generalize (rubric.components .kernelPrimitive).entries.findSome? _ = first
  generalize (rubric.components .platformService).entries.findSome? _ = second
  cases first with
  | some error => rfl
  | none =>
    cases second with
    | some error => rfl
    | none => rfl

variable {refusal rubric}

/-- There is an evaluator just when no cue is refused, and then it is that of the rubric. -/
theorem compile_eq_ok_iff {evaluator : Evaluator} :
    compile refusal rubric = .ok evaluator
      ↔ (∀ category, ∀ entry ∈ (rubric.components category).entries, ∀ phrase ∈ entry.2.cues,
          refusal (Text.lowercase phrase.toList) = none)
        ∧ evaluator = ofRubric rubric := by
  have hall : rubric.refusedCue? refusal = none
      ↔ ∀ category, ∀ entry ∈ (rubric.components category).entries, ∀ phrase ∈ entry.2.cues,
        refusal (Text.lowercase phrase.toList) = none := by
    simp only [Rubric.refusedCue?, List.findSome?_eq_none_iff, Option.map_eq_none_iff]
    exact ⟨fun h category => h category (by cases category <;> decide),
      fun h category _ => h category⟩
  rw [compile_eq, ← hall]
  cases rubric.refusedCue? refusal with
  | some error => exact ⟨nofun, fun h => absurd h.1 nofun⟩
  | none => exact ⟨fun h => ⟨rfl, (Except.ok.inj h).symm⟩, fun h => congrArg Except.ok h.2.symm⟩

end Evaluator

end RubricScore
