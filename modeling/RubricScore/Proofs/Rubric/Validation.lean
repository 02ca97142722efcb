import RubricScore.Proofs.Except
import RubricScore.Rubric.Load

/-!
# Facts about validated rubrics

A text is accepted as a rubric just when it is read as a valid one, and what the check of a rubric
says about each of its components.

* `Rubric.ofText_eq_ok_iff`: what an accepted text is;
* `Rubric.check_of_validate`: every component of a valid rubric passes its own check;
* `Component.hasValidWeight_of_check`: its weight is finite and not negative;
* `Component.length_manifest_of_check`: it names as many functions as its target says, if any;
* `Component.nodup_cues_of_check`: its cues differ from each other.
-/

namespace RubricScore

/-- A text is accepted as a rubric just when it is read as a valid one. -/
theorem Rubric.ofText_eq_ok_iff {path : Path} {text : List Char} {rubric : Rubric} :
    ofText path text = .ok rubric
      ↔ Json.decode read text = .ok rubric ∧ rubric.validate = .ok () := by
  unfold ofText
  split
  · next hdecode => simp [hdecode]
  · next other hdecode =>
    rw [hdecode, Except.ok.injEq]
    split
    · next hvalid =>
      refine iff_of_false nofun ?_
      rintro ⟨rfl, hrubric⟩
      exact absurd (hrubric.symm.trans hvalid) nofun
    · next hvalid =>
      rw [Except.ok.injEq]
      exact (and_iff_left_of_imp fun h => h ▸ hvalid).symm

/-- A rubric whose text is accepted is valid. -/
theorem Rubric.validate_of_ofText {path : Path} {text : List Char} {rubric : Rubric}
    (h : ofText path text = .ok rubric) : rubric.validate = .ok () :=
  (ofText_eq_ok_iff.1 h).2

/-- Every component of a valid rubric passes its own check. -/
theorem Rubric.check_of_validate {rubric : Rubric} (h : rubric.validate = .ok ())
    (category : Category) {entry : String × Component}
    (hentry : entry ∈ (rubric.components category).entries) : entry.2.check entry.1 = .ok () := by
  have hcategory : rubric.checkCategory category = .ok () := by
    refine forM_eq_ok_iff.1 h category ?_
    cases category <;> decide
  exact forM_eq_ok_iff.1 hcategory entry hentry

/-- A component passes its check just when nothing that is checked is wrong with it. -/
theorem Component.check_eq_ok_iff {name : String} {component : Component} :
    component.check name = .ok () ↔
      component.cues ≠ [] ∧ checkCues name [] component.cues = .ok ()
        ∧ component.hasValidWeight ∧ component.hasMatchingManifest := by
  simp [check, check_bind_eq_ok_iff]

/-- A component that passes its check has a valid weight. -/
theorem Component.hasValidWeight_of_check {name : String} {component : Component}
    (h : component.check name = .ok ()) : component.hasValidWeight :=
  (check_eq_ok_iff.1 h).2.2.1

/-- A component that passes its check and names its functions names as many as its target says. -/
theorem Component.length_manifest_of_check {name : String} {component : Component}
    (h : component.check name = .ok ()) {manifest : List String}
    (hmanifest : component.manifest = some manifest) :
    manifest.length = component.targetFunctions.toNat := by
  obtain ⟨-, -, -, hmatching⟩ := check_eq_ok_iff.1 h
  simpa [hasMatchingManifest, hmanifest] using hmatching

/-- The cues pass just when none is blank and no form of one is that of an earlier one. -/
theorem checkCues_eq_ok_iff {component : String} {seen : List (List Char)} {cues : List String} :
    checkCues component seen cues = .ok () ↔
      (∀ cue ∈ cues, Text.isBlank cue.toList = false) ∧ (cues.map foldCue).Nodup
        ∧ ∀ cue ∈ cues, foldCue cue ∉ seen := by
  induction cues generalizing seen with
  | nil => simp [checkCues]
  | cons cue rest ih =>
    rw [checkCues, ite_error_eq_ok_iff, ite_error_eq_ok_iff, ih]
    simp only [Bool.not_eq_true, List.contains_eq_mem, decide_eq_true_eq, List.map_cons,
      List.nodup_cons, List.mem_cons, List.mem_map, not_or]
    -- The form of this cue is one of those that the later cues must differ from.
    grind

/-- The cues of a component that passes its check differ from each other. -/
theorem Component.nodup_cues_of_check {name : String} {component : Component}
    (h : component.check name = .ok ()) : component.cues.Nodup := by
  obtain ⟨-, hcues, -⟩ := check_eq_ok_iff.1 h
  -- Equal cues would have equal forms.
  exact List.Pairwise.of_map foldCue (fun _ _ hne heq => hne (congrArg foldCue heq))
    (checkCues_eq_ok_iff.1 hcues).2.1

end RubricScore
