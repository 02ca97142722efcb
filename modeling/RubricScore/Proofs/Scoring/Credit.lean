import RubricScore.Evaluation
import RubricScore.Proofs.Backlog.Agreement
import RubricScore.Proofs.Scoring.Monotonicity

/-!
# Credit and gaps

The score of a count is a rounded quotient, and its gap an exact difference. They agree all the
same: full credit is earned just when nothing is missing to a target, and no credit just when
nothing was found or there is no target. The quotient of a count below `2 ^ 53` and a greater target
is at most the number just below one, and a hundred times that is rounded below a hundred.

## Main definitions

* `belowOne`: the magnitude just below one unit;
* `Measure.Agrees`: the score and the gap of a measure do not contradict each other.

## Main results

* `percentageQuanta_lt_full`: a quotient below one makes less than a hundred;
* `percentageQuanta_pos`: a positive part makes more than nothing;
* `ratioScore_eq_maxScore_iff` and `ratioScore_eq_zero_iff`: when a count earns full credit or none;
* `Scoring.credit_agrees_with_gap`: the scores of a component agree with its gaps.
-/

namespace RubricScore

open Binary64

attribute [local irreducible] twoPow one limit

namespace Scoring

/-! ## Quotients below one -/

/-- The magnitude just below one unit. -/
def belowOne : Nat :=
  (twoPow precision - 1) * twoPow 1021

theorem isMagnitude_belowOne : IsMagnitude belowOne :=
  isMagnitude_mul_twoPow (Nat.sub_le _ _) 1021

theorem one_eq_mul : one = twoPow precision * twoPow 1021 := by
  decide +kernel

/-- A part that is smaller than its total by a factor of `1 - 2 ^ (-53)` makes less than a
hundred. -/
theorem percentageQuanta_lt_full {p t : Nat} (ht : 0 < t)
    (h : p * twoPow precision ≤ (twoPow precision - 1) * t) :
    percentageQuanta p t < 100 * one := by
  have hquotient : nearest (p * one) t ≤ belowOne := by
    refine nearest_le ht isMagnitude_belowOne ?_
    calc p * one = p * twoPow precision * twoPow 1021 := by rw [one_eq_mul, Nat.mul_assoc]
      _ ≤ (twoPow precision - 1) * t * twoPow 1021 := Nat.mul_le_mul_right _ h
      _ = belowOne * t := by
          unfold belowOne
          ring
  have hproduct : nearest (nearest (p * one) t * (100 * one)) one
      ≤ nearest (belowOne * (100 * one)) one :=
    nearest_mono unit_pos unit_pos
      (Nat.mul_le_mul_right one (Nat.mul_le_mul_right (100 * one) hquotient))
  -- The exact product lies more than half a spacing below a hundred.
  have hbelow : nearest (belowOne * (100 * one)) one < 100 * one := by decide +kernel
  exact Nat.lt_of_le_of_lt (Nat.min_le_left _ _) (Nat.lt_of_le_of_lt hproduct hbelow)

/-- A part of at least one unit makes more than nothing of a total of at most `2 ^ 64` units. -/
theorem percentageQuanta_pos {p t : Nat} (ht : 0 < t) (hp : one ≤ p) (hle : t ≤ twoPow 64 * one) :
    0 < percentageQuanta p t := by
  have hleast : IsMagnitude (twoPow 1010) := by decide +kernel
  have hquotient : twoPow 1010 ≤ nearest (p * one) t := by
    refine le_nearest ht hleast ?_
    have hunit : twoPow 1010 * twoPow 64 = one := by decide +kernel
    calc twoPow 1010 * t ≤ twoPow 1010 * (twoPow 64 * one) := Nat.mul_le_mul_left _ hle
      _ = one * one := by rw [← Nat.mul_assoc, hunit]
      _ ≤ p * one := Nat.mul_le_mul_right one hp
  have hproduct : twoPow 1010 ≤ nearest (nearest (p * one) t * (100 * one)) one := by
    refine le_nearest unit_pos hleast (Nat.mul_le_mul hquotient ?_)
    exact Nat.le_mul_of_pos_left one (by decide)
  exact Nat.lt_min.2 ⟨Nat.lt_of_lt_of_le (twoPow_pos 1010) hproduct,
    Nat.mul_pos (by decide) unit_pos⟩

theorem percentageQuanta_zero (t : Nat) : percentageQuanta 0 t = 0 := by
  simp [percentageQuanta, nearest, roundHalfEven]

/-! ## Scores of counts -/

/-- A count below `2 ^ 53` and a greater target make less than a hundred, however the target is
rounded. -/
theorem percentageQuanta_word_lt_full {found target : UInt64}
    (hexact : found.toNat < twoPow precision) (h : found < target) :
    percentageQuanta (nearest (found.toNat * one) 1) (nearest (target.toNat * one) 1)
      < 100 * one := by
  -- Of a target beyond `2 ^ 53` only this bound is used, so that both counts are exact.
  obtain ⟨least, hfound, hleast, htarget⟩ :
      ∃ least, found.toNat < least ∧ least ≤ twoPow precision ∧ least ≤ target.toNat :=
    ⟨Min.min target.toNat (twoPow precision), Nat.lt_min.2 ⟨UInt64.lt_iff_toNat_lt.1 h, hexact⟩,
      Nat.min_le_right _ _, Nat.min_le_left _ _⟩
  have hrounded : least * one ≤ nearest (target.toNat * one) 1 := by
    refine le_nearest Nat.one_pos (isMagnitude_mul_one hleast) ?_
    rw [Nat.mul_one]
    exact Nat.mul_le_mul_right one htarget
  have hratio : found.toNat * twoPow precision ≤ (twoPow precision - 1) * least := by
    calc found.toNat * twoPow precision ≤ (least - 1) * twoPow precision :=
          Nat.mul_le_mul_right _ (by omega)
      _ = least * twoPow precision - twoPow precision := Nat.sub_one_mul _ _
      _ ≤ least * twoPow precision - least := Nat.sub_le_sub_left hleast _
      _ = (twoPow precision - 1) * least := by rw [Nat.sub_one_mul, Nat.mul_comm]
  have hpos : 0 < nearest (target.toNat * one) 1 :=
    Nat.lt_of_lt_of_le (Nat.mul_pos (by omega) unit_pos) hrounded
  refine percentageQuanta_lt_full hpos ?_
  rw [nearest_mul_one_of_le (Nat.le_of_lt hexact)]
  calc found.toNat * one * twoPow precision = found.toNat * twoPow precision * one := by ring
    _ ≤ (twoPow precision - 1) * least * one := Nat.mul_le_mul_right one hratio
    _ = (twoPow precision - 1) * (least * one) := Nat.mul_assoc _ _ _
    _ ≤ (twoPow precision - 1) * nearest (target.toNat * one) 1 := Nat.mul_le_mul_left _ hrounded

/-- Full credit is earned just when a target is reached. -/
theorem ratioScore_eq_maxScore_iff {found : UInt64} (hexact : found.toNat < twoPow precision)
    (target : UInt64) : ratioScore found target = maxScore ↔ 0 < target ∧ target ≤ found := by
  refine ⟨fun h => ?_, fun ⟨hpos, hreached⟩ => ratioScore_full hpos hreached⟩
  have hquanta : (ratioScore found target).HasQuanta (100 * one) := h ▸ hasQuanta_maxScore
  by_cases hzero : target = 0
  · rw [ratioScore, if_pos hzero] at hquanta
    exact absurd (hasQuanta_zero.unique hquanta) (Nat.ne_of_lt (Nat.mul_pos (by decide) unit_pos))
  · refine ⟨UInt64.pos_iff_ne_zero.2 hzero, UInt64.not_lt.1 fun hmissing => ?_⟩
    have hlt := percentageQuanta_word_lt_full hexact hmissing
    rw [(hasQuanta_ratioScore found hzero).unique hquanta] at hlt
    exact Nat.lt_irrefl _ hlt

/-- No credit is earned just when nothing was found or there is no target. -/
theorem ratioScore_eq_zero_iff (found target : UInt64) :
    ratioScore found target = Binary64.zero ↔ found = 0 ∨ target = 0 := by
  by_cases hzero : target = 0
  · rw [ratioScore, if_pos hzero]
    exact iff_of_true rfl (.inr hzero)
  · have hsign : (ratioScore found target).isNegative = Binary64.zero.isNegative :=
      isNegative_ratioScore found target
    rw [(hasQuanta_ratioScore found hzero).eq_iff hasQuanta_zero hsign, or_iff_left hzero]
    constructor
    · intro hnone
      by_contra hfound
      have hpos := percentageQuanta_pos (nearest_word_pos hzero) (one_le_nearest_word hfound)
        (nearest_word_le target)
      exact absurd hnone (Nat.ne_of_gt hpos)
    · rintro rfl
      rw [UInt64.toNat_zero, nearest_mul_one_of_le (Nat.zero_le _), Nat.zero_mul]
      exact percentageQuanta_zero _

end Scoring

open Scoring

/-- The score and the gap of a measure do not contradict each other. -/
structure Measure.Agrees (measure : Measure) : Prop where
  /-- Full credit means that there is a target and nothing is missing to it. -/
  full_iff : measure.score = maxScore ↔ 0 < measure.target ∧ measure.gap = 0
  /-- No credit means that nothing was found or that there is no target. -/
  none_iff : measure.score = Binary64.zero ↔ measure.found = 0 ∨ measure.target = 0
  /-- There is no negative zero. -/
  unsigned : measure.score.isNegative = false

/-- A count below `2 ^ 53` that was scored against its target agrees with it. -/
theorem Measure.agrees_ratioScore {found : UInt64} (hexact : found.toNat < twoPow precision)
    (target : UInt64) : Measure.Agrees ⟨found, target, ratioScore found target⟩ := by
  constructor
  case full_iff =>
    rw [Measure.gap_eq_zero_iff]
    exact ratioScore_eq_maxScore_iff hexact target
  case none_iff => exact ratioScore_eq_zero_iff found target
  case unsigned => exact isNegative_ratioScore found target

/-- A group of the backlog of a fresh report has the gaps of the component that was evaluated under
its name, whichever rubric the backlog is made with. -/
theorem Rubric.exists_component_of_mem_groups {rubric other : Rubric} {corpus : Corpus}
    {threshold : Binary64} {category : Category} {group : TaskGroup}
    (h : group ∈ ((rubric.evaluate corpus).backlog other threshold).groups category) :
    ∃ component : Component,
      ((rubric.evaluate corpus).results category).get? group.component
          = some (component.evaluate group.component corpus.digests)
        ∧ group.gap = (component.evaluate group.component corpus.digests).gap := by
  rw [Report.groups_backlog] at h
  obtain ⟨⟨name, result⟩, hbelow, rfl⟩ := List.mem_map.1 h
  have hresult := (Report.mem_below_iff.1 hbelow).1
  have hcomponent := (get?_results_evaluate rubric corpus category name).symm.trans hresult
  obtain ⟨component, -, rfl⟩ := Option.map_eq_some_iff.1 hcomponent
  exact ⟨component, hresult, rfl⟩

/-- The scores for functions and source lines agree with their gaps, for all counts below `2 ^ 53`
and all targets. So no group of the backlog of a fresh report lacks functions or source lines for
which the report gives full credit. -/
theorem Scoring.credit_agrees_with_gap :
    (∀ occurrences functions sloc targetFunctions targetSloc : UInt64,
      let scores := componentScores occurrences functions sloc targetFunctions targetSloc
      (functions.toNat < twoPow 53 → Measure.Agrees ⟨functions, targetFunctions, scores.functions⟩)
      ∧ (sloc.toNat < twoPow 53 → Measure.Agrees ⟨sloc, targetSloc, scores.sloc⟩))
    ∧ (∀ (rubric other : Rubric) (corpus : Corpus) (threshold : Binary64) (category : Category),
      ∀ group ∈ ((rubric.evaluate corpus).backlog other threshold).groups category,
        ∃ result, ((rubric.evaluate corpus).results category).get? group.component = some result
          ∧ (result.functions.found.toNat < twoPow 53 →
            result.functions.score = maxScore → group.gap.functions = 0)
          ∧ (result.sloc.found.toNat < twoPow 53 →
            result.sloc.score = maxScore → group.gap.sloc = 0)) := by
  refine ⟨?_, ?_⟩
  · intro occurrences functions sloc targetFunctions targetSloc
    exact ⟨fun hexact => Measure.agrees_ratioScore hexact targetFunctions,
      fun hexact => Measure.agrees_ratioScore hexact targetSloc⟩
  · intro rubric other corpus threshold category group hgroup
    obtain ⟨component, hresult, hgap⟩ := Rubric.exists_component_of_mem_groups hgroup
    rw [hgap]
    exact ⟨_, hresult,
      fun hexact hfull => ((Measure.agrees_ratioScore hexact _).full_iff.1 hfull).2,
      fun hexact hfull => ((Measure.agrees_ratioScore hexact _).full_iff.1 hfull).2⟩

/-- A component that wants one function and two source lines. -/
def loader : Component :=
  ⟨1, Criticality.high, "", ["load"], 1, 2, none⟩

/-- A rubric with this component only. -/
def loaderRubric : Rubric where
  metadata := .null
  kernelPrimitives := OrderedMap.empty.insert "loader" loader
  platformServices := .empty

/-- A file with the function, on two source lines. -/
def loaderCorpus : Corpus :=
  Corpus.ofList [⟨⟨"load.c"⟩, "int load(void)\n\x7b\n".toList⟩]

/-- One function less than a target of `2 ^ 53`, five of five source lines, and a group of a
backlog, selected for its cues only, that lacks no functions and no source lines. -/
theorem Scoring.credit_agrees_with_gap_loader :
    ((9007199254740991 : UInt64).toNat < twoPow 53
      ∧ Measure.Agrees ⟨9007199254740991, 9007199254740992,
        (componentScores 0 9007199254740991 5 9007199254740992 5).functions⟩)
    ∧ ((5 : UInt64).toNat < twoPow 53
      ∧ Measure.Agrees ⟨5, 5, (componentScores 0 9007199254740991 5 9007199254740992 5).sloc⟩)
    ∧ ∃ (group : TaskGroup) (result : ComponentResult),
      group ∈ ((loaderRubric.evaluate loaderCorpus).backlog loaderRubric 70).groups .kernelPrimitive
      ∧ ((loaderRubric.evaluate loaderCorpus).results .kernelPrimitive).get? group.component
        = some result
      ∧ result.functions.found.toNat < twoPow 53 ∧ result.functions.score = maxScore
      ∧ result.sloc.found.toNat < twoPow 53 ∧ result.sloc.score = maxScore
      ∧ group.gap.functions = 0 ∧ group.gap.sloc = 0 := by
  obtain ⟨hscores, hbacklog⟩ := Scoring.credit_agrees_with_gap
  obtain ⟨hfunctions, hsloc⟩ := hscores 0 9007199254740991 5 9007199254740992 5
  have hnearly : (9007199254740991 : UInt64).toNat < twoPow 53 := by decide +kernel
  have hfive : (5 : UInt64).toNat < twoPow 53 := by decide +kernel
  refine ⟨⟨hnearly, hfunctions hnearly⟩, ⟨hfive, hsloc hfive⟩, ?_⟩
  have hloader : ((loaderRubric.evaluate loaderCorpus).results .kernelPrimitive).get? "loader"
      = some (loader.evaluate "loader" loaderCorpus.digests) := by
    rw [Rubric.get?_results_evaluate]
    rfl
  have hlow : (loader.evaluate "loader" loaderCorpus.digests).scores.overall.lt 70 := by
    decide +kernel
  have hgroup : (loader.evaluate "loader" loaderCorpus.digests).taskGroup "loader" .kernelPrimitive
        (some loader)
      ∈ ((loaderRubric.evaluate loaderCorpus).backlog loaderRubric 70).groups
        .kernelPrimitive := by
    rw [Report.groups_backlog]
    exact List.mem_map.2 ⟨("loader", _), Report.mem_below_iff.2 ⟨hloader, hlow⟩, rfl⟩
  obtain ⟨result, hresult, hfunctionsGap, hslocGap⟩ :=
    hbacklog loaderRubric loaderRubric loaderCorpus 70 .kernelPrimitive _ hgroup
  obtain rfl := Option.some.inj (hloader.symm.trans hresult)
  have hfound : (loader.evaluate "loader" loaderCorpus.digests).functions.found.toNat < twoPow 53
      ∧ (loader.evaluate "loader" loaderCorpus.digests).functions.score = maxScore := by
    decide +kernel
  have hcounted : (loader.evaluate "loader" loaderCorpus.digests).sloc.found.toNat < twoPow 53
      ∧ (loader.evaluate "loader" loaderCorpus.digests).sloc.score = maxScore := by
    decide +kernel
  exact ⟨_, _, hgroup, hresult, hfound.1, hfound.2, hcounted.1, hcounted.2,
    hfunctionsGap hfound.1 hfound.2, hslocGap hcounted.1 hcounted.2⟩

end RubricScore
