import RubricScore.Proofs.Scoring.Summary
import RubricScore.Proofs.Text.Class

/-!
# The first fault of a rubric

Validation accepts the well-formed rubrics and no others, and of all that is wrong with a rubric it
reports what comes first: the first component with a fault, kernel primitives before platform
services, and of this component a lack of cues before a cue that is blank or repeated, the earlier of
two such cues, any cue before the weight, and the weight before the manifest.

## Main definitions

* `AreDistinctCues`: cues that are visible and differ from each other up to letter case;
* `Component.WellFormed`: a component without a fault;
* `Component.Reports`: the fault that is reported of a component;
* `Rubric.listed`: the components in the order in which they are checked.

## Main results

* `checkCues_eq_error_iff`: the first cue with a fault is the one that is reported;
* `Component.check_eq_ok_iff_wellFormed` and `Component.check_eq_error_iff`: what a component passes
  with, and what it fails with;
* `Rubric.validate_reports_first`: the same of a rubric.
-/

namespace RubricScore

/-! ## Well-formed components -/

/-- Cues that each have a character other than white space and of which no two are equal in lower
case. -/
structure AreDistinctCues (cues : List String) : Prop where
  /-- No cue is blank. -/
  visible : ∀ cue ∈ cues, ∃ c ∈ cue.toList, ¬ Text.isSpace c
  /-- No cue repeats another one, letter case aside. -/
  distinct : cues.Pairwise fun a b => Text.lowercase a.toList ≠ Text.lowercase b.toList

namespace Component

/-- The component names as many functions as its target says, if it names any. -/
def ManifestFits (component : Component) : Prop :=
  ∀ names, component.manifest = some names → names.length = component.targetFunctions.toNat

/-- A component without a fault. -/
structure WellFormed (component : Component) : Prop where
  /-- It has a cue. -/
  hasCue : component.cues ≠ []
  /-- Its cues are visible and differ from each other. -/
  cues : AreDistinctCues component.cues
  /-- Its weight is finite and not negative. -/
  weight : Scoring.IsWeight component.weight
  /-- Its manifest is as long as it has to be. -/
  manifest : component.ManifestFits

/-- The fault that is reported of a component under a name. -/
inductive Reports (name : String) (component : Component) : RubricFault → Prop where
  /-- There is no cue. -/
  | emptyCues : component.cues = [] → Reports name component (.emptyCues name)
  /-- A cue behind distinct ones is blank. -/
  | blankCue {earlier : List String} {cue : String} {later : List String} :
    component.cues = earlier ++ cue :: later → AreDistinctCues earlier →
      (∀ c ∈ cue.toList, Text.isSpace c) → Reports name component (.blankCue name)
  /-- A cue behind distinct ones is one of them, letter case aside. -/
  | duplicateCue {earlier : List String} {cue : String} {later : List String} :
    component.cues = earlier ++ cue :: later → AreDistinctCues earlier →
      (∃ c ∈ cue.toList, ¬ Text.isSpace c) →
      (∃ other ∈ earlier, Text.lowercase other.toList = Text.lowercase cue.toList) →
      Reports name component (.duplicateCue name cue)
  /-- The cues are as they should be, and the weight is not. -/
  | invalidWeight : component.cues ≠ [] → AreDistinctCues component.cues →
      ¬ Scoring.IsWeight component.weight →
      Reports name component (.invalidWeight name component.weight)
  /-- The cues and the weight are as they should be, and the manifest is too short or too long. -/
  | manifestMismatch {names : List String} : component.cues ≠ [] →
      AreDistinctCues component.cues → Scoring.IsWeight component.weight →
      component.manifest = some names → names.length ≠ component.targetFunctions.toNat →
      Reports name component (.manifestMismatch name names.length component.targetFunctions)

end Component

/-! ## Cues -/

theorem isBlank_eq_false_iff {text : List Char} :
    Text.isBlank text = false ↔ ∃ c ∈ text, ¬ Text.isSpace c := by
  rw [← Bool.not_eq_true, Text.isBlank_iff]
  simp

theorem checkCues_eq_ok_iff_distinct {component : String} {cues : List String} :
    checkCues component [] cues = .ok () ↔ AreDistinctCues cues := by
  rw [checkCues_eq_ok_iff]
  constructor
  · rintro ⟨hvisible, hdistinct, -⟩
    exact ⟨fun cue hcue => isBlank_eq_false_iff.1 (hvisible cue hcue), List.pairwise_map.1 hdistinct⟩
  · rintro ⟨hvisible, hdistinct⟩
    exact ⟨fun cue hcue => isBlank_eq_false_iff.2 (hvisible cue hcue), List.pairwise_map.2 hdistinct,
      fun _ _ => List.not_mem_nil⟩

/-- The fault that is reported is that of the first cue that is blank or has the form of an earlier
one; the cues before it pass. -/
theorem checkCues_eq_error_iff {component : String} {seen : List (List Char)} {cues : List String}
    {fault : RubricFault} :
    checkCues component seen cues = .error fault ↔
      ∃ earlier cue later, cues = earlier ++ cue :: later
        ∧ (checkCues component seen earlier = .ok ()
          ∧ (Text.isBlank cue.toList ∧ fault = .blankCue component
            ∨ Text.isBlank cue.toList = false ∧ fault = .duplicateCue component cue
              ∧ (foldCue cue ∈ seen ∨ foldCue cue ∈ earlier.map foldCue))) := by
  induction cues generalizing seen with
  | nil => simp [checkCues]
  | cons head rest ih =>
    -- The fault is that of the first cue, or it is met behind it with one more form seen.
    rw [checkCues, ite_error_eq_error_iff, ite_error_eq_error_iff, ih, exists_split_cons_iff,
      Bool.not_eq_true, List.contains_iff_mem]
    constructor
    · rintro (⟨hblank, rfl⟩ | ⟨hvisible, ⟨hseen, rfl⟩ | ⟨hnew, earlier, cue, later, hsplit, hok, hcue⟩⟩)
      · exact .inl ⟨rfl, .inl ⟨hblank, rfl⟩⟩
      · exact .inl ⟨rfl, .inr ⟨hvisible, rfl, .inl hseen⟩⟩
      · refine .inr ⟨earlier, cue, later, hsplit, ?_, ?_⟩
        · rw [checkCues, ite_error_eq_ok_iff, ite_error_eq_ok_iff, List.contains_iff_mem,
            Bool.not_eq_true]
          exact ⟨hvisible, hnew, hok⟩
        · rwa [List.map_cons, List.mem_cons, or_left_comm, ← or_assoc, ← List.mem_cons]
    · rintro (⟨-, hhead⟩ | ⟨earlier, cue, later, hsplit, hok, hcue⟩)
      · rcases hhead with ⟨hblank, rfl⟩ | ⟨hvisible, rfl, hseen | hnone⟩
        · exact .inl ⟨hblank, rfl⟩
        · exact .inr ⟨hvisible, .inl ⟨hseen, rfl⟩⟩
        · exact absurd hnone List.not_mem_nil
      · rw [checkCues, ite_error_eq_ok_iff, ite_error_eq_ok_iff, List.contains_iff_mem,
          Bool.not_eq_true] at hok
        obtain ⟨hvisible, hnew, hok⟩ := hok
        refine .inr ⟨hvisible, .inr ⟨hnew, earlier, cue, later, hsplit, hok, ?_⟩⟩
        rwa [List.map_cons, List.mem_cons, or_left_comm, ← or_assoc, ← List.mem_cons] at hcue

namespace Component

variable {component : Component}

/-! ## Components -/

theorem hasValidWeight_iff : component.hasValidWeight ↔ Scoring.IsWeight component.weight := by
  refine ⟨isWeight_of_hasValidWeight, fun h => ?_⟩
  obtain ⟨w, hw⟩ := Scoring.isWeight_iff.1 h
  have hlt : component.weight.lt Binary64.zero = false := by
    rw [← Bool.not_eq_true, hw.lt_iff Binary64.hasQuanta_zero]
    exact Nat.not_lt_zero w
  rw [hasValidWeight, hlt, hw.isFinite]
  rfl

theorem hasMatchingManifest_iff : component.hasMatchingManifest ↔ component.ManifestFits := by
  rw [hasMatchingManifest, Option.all_eq_true]
  simp only [beq_iff_eq]
  rfl

/-- A component passes its check when it is well-formed. -/
theorem check_eq_ok_iff_wellFormed {name : String} :
    component.check name = .ok () ↔ component.WellFormed := by
  rw [check_eq_ok_iff, checkCues_eq_ok_iff_distinct, hasValidWeight_iff, hasMatchingManifest_iff]
  exact ⟨fun ⟨hcue, hcues, hweight, hmanifest⟩ => ⟨hcue, hcues, hweight, hmanifest⟩,
    fun h => ⟨h.hasCue, h.cues, h.weight, h.manifest⟩⟩

/-- Of the cues, the one that is reported is the first that is blank or repeats an earlier one. -/
theorem reports_of_checkCues {name : String} {fault : RubricFault}
    (h : checkCues name [] component.cues = .error fault) : component.Reports name fault := by
  obtain ⟨earlier, cue, later, hsplit, hok, hcue⟩ := checkCues_eq_error_iff.1 h
  rw [checkCues_eq_ok_iff_distinct] at hok
  rcases hcue with ⟨hblank, rfl⟩ | ⟨hvisible, rfl, hseen | hrepeats⟩
  · exact .blankCue hsplit hok (Text.isBlank_iff.1 hblank)
  · exact absurd hseen List.not_mem_nil
  · exact .duplicateCue hsplit hok (isBlank_eq_false_iff.1 hvisible) (List.mem_map.1 hrepeats)

/-- A component fails its check with the fault that comes first. -/
theorem check_eq_error_iff {name : String} {fault : RubricFault} :
    component.check name = .error fault ↔ component.Reports name fault := by
  unfold check
  simp only [throw_eq_error, pure_eq_ok, error_bind, ite_error_eq_error_iff, check_bind_eq_error_iff,
    List.isEmpty_iff, Bool.not_eq_true', ← Bool.not_eq_true, hasValidWeight_iff,
    hasMatchingManifest_iff, not_not, reduceCtorEq, and_false, or_false]
  -- Each fault goes with the checks before it that were passed.
  constructor
  · rintro (⟨hnone, rfl⟩ | ⟨hcue, hcues | ⟨hcues, ⟨hweight, rfl⟩ | ⟨hweight, hmanifest, rfl⟩⟩⟩)
    · exact .emptyCues hnone
    · exact reports_of_checkCues hcues
    · exact .invalidWeight hcue (checkCues_eq_ok_iff_distinct.1 hcues) hweight
    · cases hnames : component.manifest with
      | none => exact absurd (fun names h => nomatch hnames.symm.trans h) hmanifest
      | some names =>
        refine .manifestMismatch hcue (checkCues_eq_ok_iff_distinct.1 hcues) hweight hnames ?_
        exact fun hlength => hmanifest fun other h => by
          obtain rfl := Option.some.inj (hnames.symm.trans h)
          exact hlength
  · intro h
    cases h with
    | emptyCues hnone => exact .inl ⟨hnone, rfl⟩
    | @blankCue earlier cue later hsplit hearlier hblank =>
      refine .inr ⟨by simp [hsplit], .inl (checkCues_eq_error_iff.2 ⟨earlier, cue, later, hsplit, ?_⟩)⟩
      exact ⟨checkCues_eq_ok_iff_distinct.2 hearlier, .inl ⟨Text.isBlank_iff.2 hblank, rfl⟩⟩
    | @duplicateCue earlier cue later hsplit hearlier hvisible hrepeats =>
      refine .inr ⟨by simp [hsplit], .inl (checkCues_eq_error_iff.2 ⟨earlier, cue, later, hsplit, ?_⟩)⟩
      exact ⟨checkCues_eq_ok_iff_distinct.2 hearlier,
        .inr ⟨isBlank_eq_false_iff.2 hvisible, rfl, .inr (List.mem_map.2 hrepeats)⟩⟩
    | invalidWeight hcue hcues hweight =>
      exact .inr ⟨hcue, .inr ⟨checkCues_eq_ok_iff_distinct.2 hcues, .inl ⟨hweight, rfl⟩⟩⟩
    | manifestMismatch hcue hcues hweight hnames hlength =>
      refine .inr ⟨hcue, .inr ⟨checkCues_eq_ok_iff_distinct.2 hcues, .inr ⟨hweight, ?_, ?_⟩⟩⟩
      · exact fun hmanifest => hlength (hmanifest _ hnames)
      · rw [hnames, Option.getD_some]

end Component

/-! ## Rubrics -/

namespace Rubric

/-- The components in the order in which they are checked: the kernel primitives, then the platform
services, both in document order. -/
def listed (rubric : Rubric) : List (String × Component) :=
  rubric.kernelPrimitives.entries ++ rubric.platformServices.entries

/-- Validation goes through the components of both categories as one list. -/
theorem validate_eq_forM (rubric : Rubric) :
    rubric.validate = rubric.listed.forM fun entry => entry.2.check entry.1 := by
  have hcategories : rubric.validate
      = rubric.checkCategory .kernelPrimitive >>= fun _ => rubric.checkCategory .platformService := by
    show rubric.checkCategory .kernelPrimitive >>=
      (fun _ => rubric.checkCategory .platformService >>= fun _ => pure ()) = _
    simp only [bind_pure_unit]
  rw [hcategories, listed, List.forM_eq_forM, List.forM_append]
  rfl

/-- A rubric is accepted just when all components of both categories are well-formed. Otherwise it is
refused for the first component that is not, with what is reported of this one. -/
theorem validate_reports_first (rubric : Rubric) :
    (rubric.validate = .ok () ↔
      ∀ category, ∀ entry ∈ (rubric.components category).entries, entry.2.WellFormed)
    ∧ ∀ fault, rubric.validate = .error fault ↔
      ∃ earlier name component later, rubric.listed = earlier ++ (name, component) :: later
        ∧ (∀ entry ∈ earlier, entry.2.WellFormed) ∧ component.Reports name fault := by
  rw [validate_eq_forM]
  constructor
  · rw [forM_eq_ok_iff]
    simp only [Component.check_eq_ok_iff_wellFormed, listed, List.forall_mem_append]
    refine ⟨fun ⟨hprimitives, hservices⟩ category => ?_, fun h => ?_⟩
    · cases category with
      | kernelPrimitive => exact hprimitives
      | platformService => exact hservices
    · exact ⟨h .kernelPrimitive, h .platformService⟩
  · intro fault
    rw [forM_eq_error_iff]
    simp only [Component.check_eq_ok_iff_wellFormed, Component.check_eq_error_iff, Prod.exists]

-- A negative zero is a weight, too.
example : Scoring.IsWeight (.finite true Binary64.zeroMagnitude) := by decide +kernel

end Rubric

end RubricScore
