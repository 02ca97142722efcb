import RubricScore.Backlog.Basic
import RubricScore.Proofs.Json.ShortNumeral
import RubricScore.Proofs.Report.RoundTrip
import RubricScore.Proofs.Scoring.Summary

/-!
# Backlogs of reports that were read back

The report of an evaluation is always read back from its text, and its backlog can change on the way:
reading rounds more than once, so a score can come back as a neighbour of itself. The backlog is
still the same just when the scores that stand in it, or would stand in it after reading, come back
as themselves.

## Main definitions

* `Survives`: the text of a number is read as the number itself;
* `HasShortText`: the text of a number has at most fifteen digits and no exponent.

## Main results

* `Rubric.isFinite_of_mem_floats`: the numbers of an evaluation are finite;
* `Report.taskGroups_named`: the task groups after reading;
* `Rubric.backlog_survives_iff`: just when the backlog is the same after reading;
* `Rubric.backlog_of_hasShortText`: it is the same if the scores have short texts.
-/

namespace RubricScore

open Binary64 Scoring
open Json (reread reread_eq isSome_reread)

attribute [local irreducible] twoPow one limit

/-- The text of the number is read as the number itself. -/
def Survives (x : Binary64) : Prop :=
  reread x = some x

instance (x : Binary64) : Decidable (Survives x) :=
  inferInstanceAs (Decidable (_ = _))

/-- A finite number survives just when it stands for itself after reading. -/
theorem survives_iff {x : Binary64} (h : x.isFinite) : Survives x ↔ afterReading x = x := by
  obtain ⟨y, hy⟩ := Option.isSome_iff_exists.1 (isSome_reread h)
  rw [Survives, afterReading, hy, Option.getD_some, Option.some.injEq]

/-- The number is finite, and its text has at most fifteen digits and no exponent. -/
def HasShortText : Binary64 → Prop
  | .finite negative m => (Json.Numeral.ofFinite negative m).IsShort
  | .infinite _ => False
  | .nan _ _ => False

theorem afterReading_of_hasShortText {x : Binary64} (h : HasShortText x) : afterReading x = x := by
  cases x with
  | nan => exact h.elim
  | infinite => exact h.elim
  | finite negative m => rw [afterReading, Json.reread_of_isShort h, Option.getD_some]

/-! ## Selections -/

/-- Two selections from a list of named entries give equal lists just when they select the same
entries and change them alike. The name of an entry can be told from what it is changed to. -/
theorem map_filter_eq_iff {α β κ : Type} (name : α → κ) (key : β → κ) {f g : α → β}
    (hf : ∀ x, key (f x) = name x) (hg : ∀ x, key (g x) = name x) {p q : α → Bool} {xs : List α}
    (hnodup : (xs.map name).Nodup) :
    (xs.filter p).map f = (xs.filter q).map g ↔ ∀ x ∈ xs, p x = q x ∧ (p x → f x = g x) := by
  -- An entry that is selected on one side only would have to come from a later entry of its name.
  have hhead : ∀ {f g : α → β}, (∀ x, key (f x) = name x) → (∀ x, key (g x) = name x) →
      ∀ {x : α} {rest kept : List α} {q : α → Bool}, name x ∉ rest.map name →
        f x :: kept.map f ≠ (rest.filter q).map g := by
    intro f g hf hg x rest kept q hx heq
    have hin : f x ∈ (rest.filter q).map g := heq ▸ List.mem_cons_self
    obtain ⟨y, hy, hfg⟩ := List.mem_map.1 hin
    refine hx (List.mem_map.2 ⟨y, (List.mem_filter.1 hy).1, ?_⟩)
    rw [← hg y, hfg, hf]
  induction xs with
  | nil => simp
  | cons x rest ih =>
    rw [List.map_cons, List.nodup_cons] at hnodup
    have hrest : (rest.filter p).map f = (rest.filter q).map g
        ↔ ∀ y ∈ rest, p y = q y ∧ (p y → f y = g y) := ih hnodup.2
    rw [List.forall_mem_cons]
    cases hp : p x with
    | false =>
      cases hq : q x with
      | false =>
        rw [List.filter_cons_of_neg (by simp [hp]), List.filter_cons_of_neg (by simp [hq]), hrest]
        simp
      | true =>
        rw [List.filter_cons_of_neg (by simp [hp]), List.filter_cons_of_pos hq, List.map_cons]
        simpa using fun heq => absurd heq.symm (hhead hg hf hnodup.1)
    | true =>
      cases hq : q x with
      | false =>
        rw [List.filter_cons_of_pos hp, List.filter_cons_of_neg (by simp [hq]), List.map_cons]
        simpa using fun heq => absurd heq (hhead hf hg hnodup.1)
      | true =>
        rw [List.filter_cons_of_pos hp, List.filter_cons_of_pos hq, List.map_cons, List.map_cons,
          List.cons.injEq, hrest]
        simp

/-! ## Task groups -/

/-- The group with another score. -/
def TaskGroup.withScore (group : TaskGroup) (score : Binary64) : TaskGroup :=
  { group with currentScore := score }

theorem TaskGroup.withScore_eq_iff {group : TaskGroup} {score : Binary64} :
    group.withScore score = group ↔ score = group.currentScore := by
  constructor
  · exact fun heq => congrArg TaskGroup.currentScore heq
  · rintro rfl
    rfl

/-- The task group of a component that the rubric has takes from the floats of the report its score
and nothing else. -/
theorem ComponentResult.taskGroup_named (f : Binary64 → Binary64) (name : String)
    (category : Category) (result : ComponentResult) (component : Component) :
    ((result.mapFloats f).named name).taskGroup name category (some component)
      = (result.taskGroup name category (some component)).withScore (f result.scores.overall) := by
  -- Weight, label and description come from the rubric, and the counts are no floats.
  unfold ComponentResult.named
  split <;> rfl

theorem ComponentResult.overall_named (f : Binary64 → Binary64) (name : String)
    (result : ComponentResult) :
    ((result.mapFloats f).named name).scores.overall = f result.scores.overall := by
  unfold ComponentResult.named
  split <;> rfl

section TaskGroups

variable {report : Report} {rubric : Rubric} {category : Category}
  (hknown : ∀ entry ∈ (report.results category).entries,
    (rubric.component? category entry.1).isSome)

include hknown

/-- The task groups of a report with its floats changed: a component is selected by its changed
score, which is the only thing that changes in its group. -/
theorem Report.taskGroups_named (f : Binary64 → Binary64) (threshold : Binary64) :
    (report.mapFloats f).named.taskGroups rubric threshold category
      = ((report.results category).entries.filter fun entry =>
          (f entry.2.scores.overall).lt threshold).map fun entry =>
        (entry.2.taskGroup entry.1 category (rubric.component? category entry.1)).withScore
          (f entry.2.scores.overall) := by
  rw [Report.taskGroups, Report.below, Report.entries_results_named, List.filter_map, List.map_map]
  simp only [Function.comp_def, ComponentResult.overall_named]
  refine List.map_congr_left fun entry hentry => ?_
  obtain ⟨component, hcomponent⟩ :=
    Option.isSome_iff_exists.1 (hknown entry (List.mem_filter.1 hentry).1)
  rw [hcomponent, ComponentResult.taskGroup_named]

/-- Changing the floats of a report keeps its task groups just when it keeps every score that is below
the threshold before or after. -/
theorem Report.taskGroups_named_eq_iff (f : Binary64 → Binary64) (threshold : Binary64) :
    (report.mapFloats f).named.taskGroups rubric threshold category
        = report.taskGroups rubric threshold category
      ↔ ∀ entry ∈ (report.results category).entries,
        entry.2.scores.overall.lt threshold ∨ (f entry.2.scores.overall).lt threshold →
          f entry.2.scores.overall = entry.2.scores.overall := by
  rw [Report.taskGroups_named hknown, Report.taskGroups, Report.below,
    map_filter_eq_iff Prod.fst TaskGroup.component (fun _ => rfl) (fun _ => rfl)
      (report.results category).distinct]
  refine forall₂_congr fun entry _ => ?_
  rw [TaskGroup.withScore_eq_iff]
  show _ ∧ (_ → f entry.2.scores.overall = entry.2.scores.overall) ↔ _
  -- An entry that is selected on either side keeps its score, so it is selected on both.
  constructor
  · rintro ⟨hselect, hkeep⟩ (hbefore | hafter)
    · exact hkeep (hselect.trans hbefore)
    · exact hkeep hafter
  · intro hkeep
    refine ⟨?_, fun hafter => hkeep (.inr hafter)⟩
    rw [Bool.eq_iff_iff]
    constructor
    · intro hafter
      rwa [hkeep (.inr hafter)] at hafter
    · intro hbefore
      rwa [hkeep (.inl hbefore)]

end TaskGroups

/-! ## Reports of evaluations -/

theorem isFinite_of_isScore {x : Binary64} (h : IsScore x) : x.isFinite := by
  obtain ⟨q, hq, -⟩ := isScore_iff.1 h
  exact hq.isFinite

/-- The rubric has every component that an evaluation reports on. -/
theorem Rubric.isSome_component? (rubric : Rubric) (corpus : Corpus) (category : Category) :
    ∀ entry ∈ ((rubric.evaluate corpus).results category).entries,
      (rubric.component? category entry.1).isSome := by
  rw [Rubric.results_evaluate]
  intro entry hentry
  obtain ⟨held, hheld, rfl⟩ := List.mem_map.1 hentry
  exact List.lookup_isSome_iff.2 ⟨held, hheld, beq_self_eq_true held.1⟩

/-- The weight and the scores of a component of valid weight are finite. -/
theorem Component.isFinite_of_mem_floats {component : Component} (h : component.hasValidWeight)
    (name : String) (digests : List Digest) :
    ∀ x ∈ (component.evaluate name digests).floats, x.isFinite := by
  have hweight : (component.evaluate name digests).weight.isFinite :=
    (isWeight_of_hasValidWeight h).1
  obtain ⟨hevidence, hfunctions, hsloc, hoverall⟩ :
      IsScore (component.evaluate name digests).scores.evidence
        ∧ IsScore (component.evaluate name digests).scores.functions
        ∧ IsScore (component.evaluate name digests).scores.sloc
        ∧ IsScore (component.evaluate name digests).scores.overall := isScore_componentScores ..
  have hmeasures : (component.evaluate name digests).functions.score.isFinite
      ∧ (component.evaluate name digests).sloc.score.isFinite :=
    ⟨isFinite_of_isScore hfunctions, isFinite_of_isScore hsloc⟩
  intro x hx
  simp only [ComponentResult.floats, Scores.floats, List.cons_append, List.nil_append,
    List.mem_cons, List.not_mem_nil, or_false] at hx
  rcases hx with rfl | rfl | rfl | rfl | rfl | rfl | rfl
  · exact hweight
  · exact hmeasures.1
  · exact hmeasures.2
  · exact isFinite_of_isScore hevidence
  · exact isFinite_of_isScore hfunctions
  · exact isFinite_of_isScore hsloc
  · exact isFinite_of_isScore hoverall

section Evaluation

variable {rubric : Rubric} (h : rubric.validate = .ok ()) (corpus : Corpus)

include h

/-- The weight and the scores of every result are finite. -/
theorem Rubric.isFinite_of_mem_results (category : Category) :
    ∀ x ∈ ((rubric.evaluate corpus).results category).values.flatMap ComponentResult.floats,
      x.isFinite := by
  rw [Rubric.results_evaluate]
  intro x hx
  obtain ⟨result, hresult, hfloat⟩ := List.mem_flatMap.1 hx
  obtain ⟨entry, hentry, rfl⟩ := List.mem_map.1 hresult
  obtain ⟨held, hheld, rfl⟩ := List.mem_map.1 hentry
  have hvalid := Component.hasValidWeight_of_check (Rubric.check_of_validate h category hheld)
  exact Component.isFinite_of_mem_floats hvalid held.1 corpus.digests x hfloat

/-- The scores of a summary are finite. -/
theorem Rubric.isFinite_of_mem_summary :
    ∀ x ∈ (rubric.evaluate corpus).summary.floats, x.isFinite := by
  obtain ⟨m, hkernel, -⟩ := Rubric.exists_hasQuanta_categoryScore h corpus .kernelPrimitive
  obtain ⟨n, hplatform, -⟩ := Rubric.exists_hasQuanta_categoryScore h corpus .platformService
  obtain ⟨q, hoverall, -⟩ := Rubric.exists_hasQuanta_overallScore h corpus
  intro x hx
  simp only [Summary.floats, List.mem_cons, List.not_mem_nil, or_false] at hx
  rcases hx with rfl | rfl | rfl
  · exact hkernel.isFinite
  · exact hplatform.isFinite
  · exact hoverall.isFinite

/-- The floating-point numbers of an evaluation are finite. -/
theorem Rubric.isFinite_of_mem_floats :
    ∀ x ∈ (rubric.evaluate corpus).floats, x.isFinite := by
  intro x hx
  rw [Report.floats, List.mem_append, List.mem_append] at hx
  rcases hx with (hkernel | hplatform) | hsummary
  · exact Rubric.isFinite_of_mem_results h corpus .kernelPrimitive x hkernel
  · exact Rubric.isFinite_of_mem_results h corpus .platformService x hplatform
  · exact Rubric.isFinite_of_mem_summary h corpus x hsummary

/-- The report of an evaluation is read back, each number as its text is read. -/
theorem Rubric.ofText_toJson_evaluate :
    Report.ofText (rubric.evaluate corpus).toJson.text
      = .ok ((rubric.evaluate corpus).mapFloats afterReading).named :=
  (Report.gives_ofText (rubric.evaluate corpus) _).2
    ⟨fun x hx => isSome_reread (Rubric.isFinite_of_mem_floats h corpus x hx), rfl⟩

/-- The overall scores of a category are finite. -/
theorem Rubric.isFinite_overall {category : Category} {entry : String × ComponentResult}
    (hentry : entry ∈ ((rubric.evaluate corpus).results category).entries) :
    entry.2.scores.overall.isFinite := by
  refine Rubric.isFinite_of_mem_results h corpus category _ ?_
  refine List.mem_flatMap.2 ⟨entry.2, List.mem_map_of_mem hentry, ?_⟩
  simp [ComponentResult.floats, Scores.floats]

end Evaluation

/-! ## The backlog after reading -/

/-- Changing the floats of a summary keeps it just when it keeps each of them. -/
theorem Summary.mapFloats_eq_iff {f : Binary64 → Binary64} {summary : Summary} :
    summary.mapFloats f = summary ↔ ∀ x ∈ summary.floats, f x = x := by
  cases summary
  simp [Summary.mapFloats, Summary.floats]

/-- Two reports have the same backlog just when they have the same summary and the same groups. -/
theorem Report.backlog_eq_iff {report other : Report} {rubric : Rubric} {threshold : Binary64} :
    report.backlog rubric threshold = other.backlog rubric threshold
      ↔ report.summary = other.summary ∧ ∀ category,
        report.taskGroups rubric threshold category = other.taskGroups rubric threshold category := by
  constructor
  · intro h
    refine ⟨congrArg Backlog.summary h, fun category => ?_⟩
    rw [← Report.groups_backlog, ← Report.groups_backlog, h]
  · rintro ⟨hsummary, hgroups⟩
    rw [Report.backlog, Report.backlog, hsummary, hgroups .kernelPrimitive,
      hgroups .platformService]

/-- Changing the floats of a report keeps its backlog just when it keeps the scores of the summary and
every score of a component that is below the threshold before or after. -/
theorem Report.backlog_named_eq_iff {report : Report} {rubric : Rubric}
    (hknown : ∀ category, ∀ entry ∈ (report.results category).entries,
      (rubric.component? category entry.1).isSome)
    (f : Binary64 → Binary64) (threshold : Binary64) :
    (report.mapFloats f).named.backlog rubric threshold = report.backlog rubric threshold
      ↔ (∀ x ∈ report.summary.floats, f x = x)
        ∧ ∀ category, ∀ entry ∈ (report.results category).entries,
          entry.2.scores.overall.lt threshold ∨ (f entry.2.scores.overall).lt threshold →
            f entry.2.scores.overall = entry.2.scores.overall := by
  have hsummary : (report.mapFloats f).named.summary = report.summary.mapFloats f := rfl
  rw [Report.backlog_eq_iff, hsummary, Summary.mapFloats_eq_iff]
  exact and_congr_right fun _ => forall_congr' fun category =>
    Report.taskGroups_named_eq_iff (hknown category) f threshold

/-- The report of an evaluation is read back from its text for every valid rubric and every corpus.
Whatever the threshold, the backlog of what is read is that of the report just when the scores of the
summary survive and so does the overall score of every component that is below the threshold before
or after reading. -/
theorem Rubric.backlog_survives_iff {rubric : Rubric} (h : rubric.validate = .ok ())
    (corpus : Corpus) :
    ∃ result, Report.ofText (rubric.evaluate corpus).toJson.text = .ok result
      ∧ ∀ threshold,
        result.backlog rubric threshold = (rubric.evaluate corpus).backlog rubric threshold
        ↔ (∀ x ∈ (rubric.evaluate corpus).summary.floats, Survives x)
          ∧ ∀ category, ∀ entry ∈ ((rubric.evaluate corpus).results category).entries,
            entry.2.scores.overall.lt threshold
                ∨ (afterReading entry.2.scores.overall).lt threshold →
              Survives entry.2.scores.overall := by
  refine ⟨_, Rubric.ofText_toJson_evaluate h corpus, fun threshold => ?_⟩
  rw [Report.backlog_named_eq_iff (Rubric.isSome_component? rubric corpus)]
  refine and_congr ?_ (forall_congr' fun category => ?_)
  · exact forall₂_congr fun x hx =>
      (survives_iff (Rubric.isFinite_of_mem_summary h corpus x hx)).symm
  · exact forall₂_congr fun entry hentry => imp_congr_right fun _ =>
      (survives_iff (Rubric.isFinite_overall h corpus hentry)).symm

/-- A component that wants nine functions and eighteen source lines. -/
def nearlyDoneRubric : Rubric where
  metadata := .null
  kernelPrimitives :=
    OrderedMap.empty.insert "boot" ⟨1, Criticality.high, "", ["a"], 9, 18, none⟩
  platformServices := OrderedMap.empty

/-- A file with eight functions on seventeen source lines and ten occurrences of the cue. -/
def nearlyDoneCorpus : Corpus :=
  Corpus.ofList [⟨⟨"f.c"⟩, (List.replicate 8 "int f() \x7b\n\x7d\n".toList).flatten
    ++ "a a a a a a a a a a\n".toList⟩]

set_option maxRecDepth 10000 in
/-- The hand-off of the nearly done component at the threshold 95. -/
theorem Rubric.backlog_survives_iff_nearly_done :
    nearlyDoneRubric.validate = .ok ()
    ∧ ∃ result, Report.ofText (nearlyDoneRubric.evaluate nearlyDoneCorpus).toJson.text = .ok result
      ∧ ∀ threshold,
        result.backlog nearlyDoneRubric threshold
            = (nearlyDoneRubric.evaluate nearlyDoneCorpus).backlog nearlyDoneRubric threshold
        ↔ (∀ x ∈ (nearlyDoneRubric.evaluate nearlyDoneCorpus).summary.floats, Survives x)
          ∧ ∀ category,
            ∀ entry ∈ ((nearlyDoneRubric.evaluate nearlyDoneCorpus).results category).entries,
              entry.2.scores.overall.lt threshold
                  ∨ (afterReading entry.2.scores.overall).lt threshold →
                Survives entry.2.scores.overall :=
  ⟨by decide +kernel, Rubric.backlog_survives_iff (by decide +kernel) nearlyDoneCorpus⟩

/-- Number of groups in both categories. -/
def Backlog.size (backlog : Backlog) : Nat :=
  backlog.kernelPrimitives.length + backlog.platformServices.length

set_option maxRecDepth 10000 in
/-- The score of the nearly done component is below the threshold 95, and it is read back as 95, so
that the backlog loses the component. -/
theorem Report.backlog_loses_component :
    nearlyDoneRubric.validate = .ok () ∧ (95 : Binary64).isFinite
    ∧ ∃ result, Report.ofText (nearlyDoneRubric.evaluate nearlyDoneCorpus).toJson.text = .ok result
      ∧ result.backlog nearlyDoneRubric 95
        ≠ (nearlyDoneRubric.evaluate nearlyDoneCorpus).backlog nearlyDoneRubric 95
      ∧ ((nearlyDoneRubric.evaluate nearlyDoneCorpus).backlog nearlyDoneRubric 95).size = 1
      ∧ (result.backlog nearlyDoneRubric 95).size = 0 :=
  ⟨by decide +kernel, by decide +kernel, _,
    (Report.gives_ofText (nearlyDoneRubric.evaluate nearlyDoneCorpus) _).2
      ⟨by decide +kernel, rfl⟩,
    by decide +kernel, by decide +kernel, by decide +kernel⟩

/-- If all scores that backlogs show have short texts, the backlog is the same after reading for every
threshold. -/
theorem Rubric.backlog_of_hasShortText {rubric : Rubric} (h : rubric.validate = .ok ())
    (corpus : Corpus)
    (hsummary : ∀ x ∈ (rubric.evaluate corpus).summary.floats, HasShortText x)
    (hoverall : ∀ category, ∀ entry ∈ ((rubric.evaluate corpus).results category).entries,
      HasShortText entry.2.scores.overall) :
    ∃ result, Report.ofText (rubric.evaluate corpus).toJson.text = .ok result
      ∧ ∀ threshold,
        result.backlog rubric threshold = (rubric.evaluate corpus).backlog rubric threshold := by
  refine ⟨_, Rubric.ofText_toJson_evaluate h corpus, fun threshold => ?_⟩
  rw [Report.backlog_named_eq_iff (Rubric.isSome_component? rubric corpus)]
  refine ⟨fun x hx => afterReading_of_hasShortText (hsummary x hx), fun category entry hentry _ => ?_⟩
  exact afterReading_of_hasShortText (hoverall category entry hentry)

end RubricScore
