import Mathlib.Data.List.Forall2
import RubricScore.Evaluation
import RubricScore.Proofs.Backlog.Selection
import RubricScore.Proofs.Rubric.Validation

/-!
# A backlog of a fresh report

A report that was just made and the rubric that it was made with belong together. Of such a pair the
backlog is that of the components of the rubric that score below the threshold: every group finds
its entry, and what it says is missing, and whom it names for that, follows from the targets and the
manifest of this entry.

## Main definitions

* `Rubric.lagging`: the components that score below a threshold on a corpus;
* `TaskGroup.Follows`: the group says what the entry of the rubric and the findings about it say.

## Main results

* `Measure.toNat_gap`: the gap is the truncated difference of target and finding;
* `ComponentResult.follows_taskGroup`: the group of a checked component follows its entry;
* `Rubric.backlog_agrees`: so do all groups of the backlog of a fresh report.
-/

namespace RubricScore

/-- What is missing is the target less what was found, and nothing if more was found. -/
theorem Measure.toNat_gap (measure : Measure) :
    measure.gap.toNat = measure.target.toNat - measure.found.toNat := by
  unfold gap
  split
  · next h => exact UInt64.toNat_sub_of_le _ _ (UInt64.le_of_lt h)
  · next h =>
    have hle : measure.target.toNat ≤ measure.found.toNat :=
      UInt64.le_iff_toNat_le.1 (UInt64.not_lt.1 h)
    exact (Nat.sub_eq_zero_of_le hle).symm

/-- Something is missing just when less was found than is wanted. -/
theorem Measure.gap_pos_iff (measure : Measure) :
    0 < measure.gap ↔ measure.found < measure.target := by
  rw [UInt64.lt_iff_toNat_lt, UInt64.lt_iff_toNat_lt, toNat_gap, UInt64.toNat_zero]
  omega

/-- Nothing is missing just when the target is reached. -/
theorem Measure.gap_eq_zero_iff (measure : Measure) :
    measure.gap = 0 ↔ measure.target ≤ measure.found := by
  rw [← UInt64.toNat_inj, UInt64.le_iff_toNat_le, toNat_gap, UInt64.toNat_zero]
  omega

/-- The components of a category that score below a threshold, in the order of the rubric. -/
def Rubric.lagging (rubric : Rubric) (corpus : Corpus) (threshold : Binary64)
    (category : Category) : List (String × Component) :=
  (rubric.components category).entries.filter fun entry =>
    (entry.2.evaluate entry.1 corpus.digests).scores.overall.lt threshold

/-- The group says what the entry of the rubric and the findings about it say. -/
structure TaskGroup.Follows (group : TaskGroup) (category : Category)
    (entry : String × Component) (result : ComponentResult) : Prop where
  /-- The name of the entry. -/
  component : group.component = entry.1
  /-- The category in which it stands. -/
  category : group.category = category
  /-- The score that it got. -/
  currentScore : group.currentScore = result.scores.overall
  /-- Its weight. -/
  weight : group.weight = entry.2.weight
  /-- Its importance label. -/
  criticality : group.criticality = entry.2.criticality
  /-- Its description. -/
  description : group.description = entry.2.description
  /-- The functions that it lacks to its target; none if it has more. -/
  functionsGap :
    group.gap.functions.toNat = entry.2.targetFunctions.toNat - result.functions.found.toNat
  /-- The source lines that it lacks to its target; none if it has more. -/
  slocGap : group.gap.sloc.toNat = entry.2.targetSloc.toNat - result.sloc.found.toNat
  /-- The batches of an entry with a manifest name its functions, in order. They are as many as the
  target says, so enough of them are named. -/
  manifest : ∀ manifest, entry.2.manifest = some manifest →
    group.namedBatches.flatten = manifest ∧ manifest.length = entry.2.targetFunctions.toNat
      ∧ group.gap.functions.toNat ≤ group.namedBatches.flatten.length

/-- The group of a component that passes its check follows its entry. -/
theorem ComponentResult.follows_taskGroup (category : Category) {entry : String × Component}
    {result : ComponentResult} (hcheck : entry.2.check entry.1 = .ok ())
    (hfunctions : result.functions.target = entry.2.targetFunctions)
    (hsloc : result.sloc.target = entry.2.targetSloc) :
    (result.taskGroup entry.1 category (some entry.2)).Follows category entry result := by
  obtain ⟨hweight, hcriticality, hdescription, hbatches⟩ :=
    (result.describes_taskGroup entry.1 category (some entry.2)).known entry.2 rfl
  have hgap : (result.taskGroup entry.1 category (some entry.2)).gap.functions.toNat
      = entry.2.targetFunctions.toNat - result.functions.found.toNat := by
    rw [← hfunctions]
    exact result.functions.toNat_gap
  constructor
  case component => rfl
  case category => rfl
  case currentScore => rfl
  case weight => exact hweight
  case criticality => exact hcriticality
  case description => exact hdescription
  case functionsGap => exact hgap
  case slocGap =>
    rw [← hsloc]
    exact result.sloc.toNat_gap
  case manifest =>
    intro manifest hmanifest
    have hnamed : (result.taskGroup entry.1 category (some entry.2)).namedBatches.flatten
        = manifest := by
      rw [hbatches, hmanifest, Option.getD_some, flatten_batches]
    have hlength := Component.length_manifest_of_check hcheck hmanifest
    refine ⟨hnamed, hlength, ?_⟩
    -- The target bounds the gap, and as many functions are named.
    rw [hnamed, hlength, hgap]
    exact Nat.sub_le _ _

namespace Rubric

variable (rubric : Rubric) (corpus : Corpus) (threshold : Binary64) (category : Category)

/-- The components below a threshold are found in the rubric. -/
theorem component?_of_mem_lagging {entry : String × Component}
    (h : entry ∈ rubric.lagging corpus threshold category) :
    rubric.component? category entry.1 = some entry.2 :=
  OrderedMap.get?_eq_some_iff.2 (List.mem_filter.1 h).1

/-- A fresh report has the lagging components of the rubric below the threshold. -/
theorem below_evaluate :
    (rubric.evaluate corpus).below threshold category
      = (rubric.lagging corpus threshold category).map fun entry =>
        (entry.1, entry.2.evaluate entry.1 corpus.digests) := by
  rw [Report.below, lagging, results_evaluate, OrderedMap.mapValues, List.filter_map]
  simp only [Function.comp_def]

/-- The groups of a fresh report are those of the lagging components, each with its own entry. -/
theorem taskGroups_evaluate :
    (rubric.evaluate corpus).taskGroups rubric threshold category
      = (rubric.lagging corpus threshold category).map fun entry =>
        (entry.2.evaluate entry.1 corpus.digests).taskGroup entry.1 category (some entry.2) := by
  rw [Report.taskGroups, below_evaluate, List.map_map]
  apply List.map_congr_left
  intro entry hentry
  show ComponentResult.taskGroup entry.1 category _ (rubric.component? category entry.1) = _
  rw [component?_of_mem_lagging rubric corpus threshold category hentry]

/-- No component of a fresh report is missing in the rubric. -/
theorem strayEvents_evaluate :
    Backlog.strayEvents (rubric.evaluate corpus) rubric threshold category = [] := by
  rw [Backlog.strayEvents, below_evaluate, List.map_eq_nil_iff, List.filter_eq_nil_iff]
  intro pair hpair
  obtain ⟨entry, hentry, rfl⟩ := List.mem_map.1 hpair
  simp [component?_of_mem_lagging rubric corpus threshold category hentry]

variable {rubric} in
/-- The backlog of the fresh report on a valid rubric has one group for each component that scores
below the threshold, in the order of the rubric, and this group follows the entry of the component
and the result in the report. No group has to fall back to what the report says. -/
theorem backlog_agrees (hvalid : rubric.validate = .ok ()) :
    List.Forall₂
      (fun entry group => ∃ result,
        ((rubric.evaluate corpus).results category).get? entry.1 = some result
          ∧ group.Follows category entry result)
      (rubric.lagging corpus threshold category)
      (((rubric.evaluate corpus).backlog rubric threshold).groups category)
    ∧ Backlog.strayEvents (rubric.evaluate corpus) rubric threshold category = [] := by
  refine ⟨?_, strayEvents_evaluate rubric corpus threshold category⟩
  rw [Report.groups_backlog, taskGroups_evaluate, List.forall₂_map_right_iff, List.forall₂_same]
  intro entry hentry
  refine ⟨entry.2.evaluate entry.1 corpus.digests, ?_, ?_⟩
  · rw [get?_results_evaluate, component?_of_mem_lagging rubric corpus threshold category hentry]
    rfl
  · have hcheck := check_of_validate hvalid category (List.mem_filter.1 hentry).1
    exact ComponentResult.follows_taskGroup category hcheck rfl rfl

/-- A rubric with one component that names its functions. -/
def harborRubric : Rubric where
  metadata := .null
  kernelPrimitives := (OrderedMap.empty.insert "vfs" (⟨1, .low, "", ["vfs"], 1, 1, none⟩)).insert
    "boot" ⟨2, Criticality.high, "Start", ["init"], 4, 2, some ["map", "jump", "probe", "halt"]⟩
  platformServices := .empty

/-- A file for each of the components. -/
def harborCorpus : Corpus :=
  Corpus.ofList
    [⟨⟨"init.c"⟩, "int init(void)\n\x7b\n\x7d\n".toList⟩,
     ⟨⟨"v.c"⟩, "void vfs(x)\x7b\x7d vfs vfs vfs".toList⟩]

/-- The start lacks three functions and no source lines, and its group names the whole manifest. -/
theorem backlog_agrees_harbor :
    harborRubric.validate = .ok ()
    ∧ ∃ group,
      ((harborRubric.evaluate harborCorpus).backlog harborRubric 70).groups .kernelPrimitive
        = [group]
      ∧ group.component = "boot"
      ∧ group.namedBatches.flatten = ["map", "jump", "probe", "halt"]
      ∧ group.gap.functions.toNat ≤ 4 := by
  have hvalid : harborRubric.validate = .ok () := by decide +kernel
  have hlagging : (harborRubric.lagging harborCorpus 70 .kernelPrimitive).map
      (fun entry => (entry.1, entry.2.manifest))
        = [("boot", some ["map", "jump", "probe", "halt"])] := by decide +kernel
  obtain ⟨entry, hentry, heq⟩ := List.map_eq_singleton_iff.1 hlagging
  obtain ⟨hgroups, -⟩ := backlog_agrees harborCorpus 70 .kernelPrimitive hvalid
  rw [hentry] at hgroups
  obtain ⟨group, rest, ⟨_, -, hfollows⟩, hrest, hsplit⟩ := List.forall₂_cons_left_iff.1 hgroups
  obtain rfl := List.forall₂_nil_left_iff.1 hrest
  obtain ⟨hname, hmanifest⟩ := Prod.ext_iff.1 heq
  obtain ⟨hnamed, -, hle⟩ := hfollows.manifest _ hmanifest
  refine ⟨hvalid, group, hsplit, hfollows.component.trans hname, hnamed, ?_⟩
  rw [hnamed] at hle
  exact hle

end Rubric

end RubricScore
