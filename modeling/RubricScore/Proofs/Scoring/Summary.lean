import RubricScore.Evaluation
import RubricScore.Proofs.Rubric.Validation
import RubricScore.Proofs.Scoring.WeightedMean

/-!
# Bounds of the summary

The category scores and the overall score of an evaluation are finite, not negative and at most 128.
They are scores, that is at most 100, except just when rounding pushes the sums of a category, or the
two category scores, too far apart.

## Main results

* `Rubric.isWeight_and_isScore`: a valid rubric weighs scores with weights;
* `Rubric.summary_isScore_iff`: the bounds of the three scores, and just when they are scores.
-/

namespace RubricScore

open Binary64 Scoring

attribute [local irreducible] twoPow one limit

/-- The weights and overall scores of results, as they enter the category score. -/
def weightedScores (results : OrderedMap String ComponentResult) : List (Binary64 × Binary64) :=
  results.values.map fun result => (result.weight, result.scores.overall)

/-- A valid weight is finite and not negative. -/
theorem isWeight_of_hasValidWeight {component : Component} (h : component.hasValidWeight) :
    IsWeight component.weight := by
  rw [Component.hasValidWeight, Bool.and_eq_true, Bool.not_eq_true'] at h
  obtain ⟨hfinite, hlt⟩ := h
  refine ⟨hfinite, ?_⟩
  have hnumber : component.weight.isNumber := by
    cases hweight : component.weight with
    | nan =>
      rw [hweight] at hfinite
      exact absurd hfinite Bool.false_ne_true
    | infinite => rfl
    | finite => rfl
  simp only [Binary64.lt, Binary64.le, hnumber, hasQuanta_zero.isNumber, Bool.true_and,
    decide_eq_false_iff_not, decide_eq_true_eq, Int.not_lt] at hlt ⊢
  exact hlt

/-- The category scores of a valid rubric are means of scores. -/
theorem Rubric.isWeight_and_isScore {rubric : Rubric} (h : rubric.validate = .ok ())
    (corpus : Corpus) (category : Category) :
    ∀ pair ∈ weightedScores ((rubric.evaluate corpus).results category),
      IsWeight pair.1 ∧ IsScore pair.2 := by
  rw [Rubric.results_evaluate]
  intro pair hpair
  obtain ⟨result, hresult, rfl⟩ := List.mem_map.1 hpair
  obtain ⟨entry, hentry, rfl⟩ := List.mem_map.1 hresult
  obtain ⟨held, hheld, rfl⟩ := List.mem_map.1 hentry
  have hvalid := Component.hasValidWeight_of_check (Rubric.check_of_validate h category hheld)
  exact ⟨isWeight_of_hasValidWeight hvalid, (isScore_componentScores ..).2.2.2⟩

/-! ## The mean of two category scores -/

/-- The two category scores exceed two hundred units by more than half of the distance between
neighbouring numbers there. -/
def Summary.Overshoots (summary : Summary) : Prop :=
  ((200 * one + twoPow 1028 : Nat) : Int)
    < summary.kernelScore.position + summary.platformScore.position

/-- A rounded sum of quanta is above two hundred units just when the sum is more than half a spacing
above them, and then it is a whole spacing above. -/
theorem lt_nearest_two_hundred_iff (sum : Nat) :
    200 * one + twoPow 1028 < nearest sum 1 ↔ 200 * one + twoPow 1028 < sum := by
  have heven : 2 * twoPow (spacing (200 * one)) ∣ 200 * one := by decide +kernel
  have hspacing : spacing (200 * one) = 1029 := by decide +kernel
  have hdouble : twoPow 1029 = 2 * twoPow 1028 := by decide +kernel
  have hpos := twoPow_pos 1028
  have hiff : 200 * one < nearest sum 1 ↔ _ := lt_nearest_iff Nat.one_pos heven
  rw [hspacing, hdouble, Nat.mul_one] at hiff
  -- The magnitude after two hundred units is `2 ^ 1029` quanta further, so the tie lies half way.
  constructor
  · intro hlt
    have := hiff.1 (by omega)
    omega
  · intro hlt
    have hmag : IsMagnitude (200 * one) := Nat.dvd_trans (Nat.dvd_mul_left _ 2) heven
    have hhalf : (2 * (200 * one) + twoPow (spacing (200 * one))) * 1 < 2 * sum := by
      rw [hspacing, hdouble]
      omega
    have hnext := lt_nearest_of_half Nat.one_pos hmag hhalf
    rw [hspacing, hdouble] at hnext
    omega

/-- Halving a number gives more than a hundred units just when it is more than half a spacing above
two hundred. -/
theorem lt_nearest_half_iff (sum : Nat) :
    100 * one < nearest (sum * one) (2 * one) ↔ 200 * one + twoPow 1028 < sum := by
  have heven : 2 * twoPow (spacing (100 * one)) ∣ 100 * one := by decide +kernel
  have hspacing : spacing (100 * one) = 1028 := by decide +kernel
  have hunit := unit_pos
  have hleft : (2 * (100 * one) + twoPow 1028) * (2 * one)
      = (200 * one + twoPow 1028) * (2 * one) := by ring
  have hright : 2 * (sum * one) = sum * (2 * one) := by ring
  rw [lt_nearest_iff (by omega) heven, hspacing, hleft, hright]
  exact Nat.mul_lt_mul_right (by omega)

/-- The mean of two numbers of at most 128 units. -/
theorem exists_hasQuanta_mean {x y : Binary64} {m n : Nat} (hx : x.HasQuanta m)
    (hy : y.HasQuanta n) (hm : m ≤ 128 * one) (hn : n ≤ 128 * one) :
    ∃ q, ((x + y) / 2).HasQuanta q ∧ q ≤ 128 * one
      ∧ (100 * one < q ↔ 200 * one + twoPow 1028 < m + n) := by
  obtain ⟨sum, hsum, hle⟩ := exists_hasQuanta_add ⟨m, hx, hm⟩ ⟨n, hy, hn⟩ (by decide +kernel)
    (by decide +kernel)
  -- The sum is known by its bound so far; it is also the rounded sum of the quanta.
  have hexact : sum = nearest (m + n) 1 := by
    refine hsum.unique (hx.add hy ?_)
    refine Nat.lt_of_le_of_lt (nearest_le Nat.one_pos
      (isMagnitude_mul_one (n := 128 + 128) (by decide +kernel)) ?_) (by decide +kernel)
    omega
  have htwo : (2 : Binary64).HasQuanta (2 * one) := hasQuanta_ofNat (by decide +kernel)
  have hunit := unit_pos
  have hhalf : nearest (sum * one) (2 * one) ≤ 128 * one := by
    refine nearest_le (by omega) (isMagnitude_mul_one (by decide +kernel)) ?_
    calc sum * one ≤ (128 + 128) * one * one := Nat.mul_le_mul_right one hle
      _ = 128 * one * (2 * one) := by ring
  refine ⟨_, hsum.div htwo (by omega) (Nat.lt_of_le_of_lt hhalf (by decide +kernel)), hhalf, ?_⟩
  rw [lt_nearest_half_iff, hexact, lt_nearest_two_hundred_iff]

/-! ## The scores of a summary -/

/-- A number with quanta is a score just when it has at most a hundred units. -/
theorem isScore_iff_not_lt {x : Binary64} {q : Nat} (hx : x.HasQuanta q) :
    IsScore x ↔ ¬ 100 * one < q := by
  rw [isScore_iff, Nat.not_lt]
  constructor
  · rintro ⟨p, hp, hle⟩
    rwa [hx.unique hp]
  · exact fun hle => ⟨q, hx, hle⟩

/-- A number with at most 128 units lies between zero and 128. -/
theorem le_and_le_of_hasQuanta {x : Binary64} {q : Nat} (hx : x.HasQuanta q)
    (hle : q ≤ 128 * one) : Binary64.zero.le x ∧ x.le 128 := by
  have hbound : (128 : Binary64).HasQuanta (128 * one) := hasQuanta_ofNat (by decide +kernel)
  exact ⟨(hasQuanta_zero.le_iff hx).2 (Nat.zero_le q), (hx.le_iff hbound).2 hle⟩

section Evaluation

variable {rubric : Rubric} (h : rubric.validate = .ok ()) (corpus : Corpus)

include h

/-- The quanta of a category score. -/
theorem Rubric.exists_hasQuanta_categoryScore (category : Category) :
    ∃ q, ((rubric.evaluate corpus).categoryScore category).HasQuanta q ∧ q ≤ 128 * one
      ∧ (100 * one < q
        ↔ Overshoots (weightedScores ((rubric.evaluate corpus).results category))) := by
  have hpairs := Rubric.isWeight_and_isScore h corpus category
  rw [Rubric.categoryScore_evaluate]
  exact exists_hasQuanta_weightedMean (fun pair hin => (hpairs pair hin).1)
    fun pair hin => (hpairs pair hin).2

/-- The quanta of the overall score. -/
theorem Rubric.exists_hasQuanta_overallScore :
    ∃ q, (rubric.evaluate corpus).summary.overallScore.HasQuanta q ∧ q ≤ 128 * one
      ∧ (100 * one < q ↔ (rubric.evaluate corpus).summary.Overshoots) := by
  obtain ⟨m, hm, hmle, -⟩ := Rubric.exists_hasQuanta_categoryScore h corpus .kernelPrimitive
  obtain ⟨n, hn, hnle, -⟩ := Rubric.exists_hasQuanta_categoryScore h corpus .platformService
  obtain ⟨q, hq, hle, hiff⟩ := exists_hasQuanta_mean hm hn hmle hnle
  have hkernel : (rubric.evaluate corpus).summary.kernelScore.position = (m : Int) :=
    hm.position
  have hplatform : (rubric.evaluate corpus).summary.platformScore.position = (n : Int) :=
    hn.position
  refine ⟨q, hq, hle, ?_⟩
  rw [hiff, Summary.Overshoots, hkernel, hplatform, ← Int.natCast_add, Int.ofNat_lt]

end Evaluation

/-- The mean of weighted scores lies in `[0, 128]`, and it is a score unless its sums overshoot. For a
valid rubric and any corpus the same holds of the category scores, and the overall score is a score
unless the category scores overshoot together. -/
theorem Rubric.summary_isScore_iff (pairs : List (Binary64 × Binary64)) (rubric : Rubric)
    (corpus : Corpus) :
    ((∀ pair ∈ pairs, IsWeight pair.1 ∧ IsScore pair.2) →
      (Binary64.zero.le (weightedMean pairs) ∧ (weightedMean pairs).le 128)
        ∧ (IsScore (weightedMean pairs) ↔ ¬ Overshoots pairs))
    ∧ (rubric.validate = .ok () →
      (∀ category,
        (Binary64.zero.le ((rubric.evaluate corpus).categoryScore category)
            ∧ ((rubric.evaluate corpus).categoryScore category).le 128)
          ∧ (IsScore ((rubric.evaluate corpus).categoryScore category)
            ↔ ¬ Overshoots (weightedScores ((rubric.evaluate corpus).results category))))
      ∧ (Binary64.zero.le (rubric.evaluate corpus).summary.overallScore
          ∧ (rubric.evaluate corpus).summary.overallScore.le 128)
      ∧ (IsScore (rubric.evaluate corpus).summary.overallScore
          ↔ ¬ (rubric.evaluate corpus).summary.Overshoots)) := by
  constructor
  · intro h
    obtain ⟨q, hq, hle, hiff⟩ :=
      exists_hasQuanta_weightedMean (fun pair hin => (h pair hin).1) fun pair hin => (h pair hin).2
    exact ⟨le_and_le_of_hasQuanta hq hle, by rw [isScore_iff_not_lt hq, hiff]⟩
  · intro hvalid
    refine ⟨fun category => ?_, ?_⟩
    · obtain ⟨q, hq, hle, hiff⟩ := Rubric.exists_hasQuanta_categoryScore hvalid corpus category
      exact ⟨le_and_le_of_hasQuanta hq hle, by rw [isScore_iff_not_lt hq, hiff]⟩
    · obtain ⟨q, hq, hle, hiff⟩ := Rubric.exists_hasQuanta_overallScore hvalid corpus
      exact ⟨le_and_le_of_hasQuanta hq hle, by rw [isScore_iff_not_lt hq, hiff]⟩

/-- Two components that weigh one and eleven, with one cue each and targets of one. -/
def unevenRubric : Rubric where
  metadata := .null
  kernelPrimitives :=
    (OrderedMap.empty.insert "x" ⟨1, Criticality.high, "", ["a"], 1, 1, none⟩).insert "y"
      ⟨11, Criticality.high, "", ["a"], 1, 1, none⟩
  platformServices := OrderedMap.empty

/-- A file with ten occurrences of the cue and one function, which earns full credit. -/
def fullCreditCorpus : Corpus :=
  Corpus.ofList [⟨⟨"f.c"⟩, "a a a a a a a a a a\nint f() \x7b\n".toList⟩]

/-- The bounds at two unequal weights, alone and in a rubric. -/
theorem Rubric.summary_isScore_iff_uneven :
    ((Binary64.zero.le (weightedMean [(1, 50), (11, 100)])
        ∧ (weightedMean [(1, 50), (11, 100)]).le 128)
      ∧ (IsScore (weightedMean [(1, 50), (11, 100)]) ↔ ¬ Overshoots [(1, 50), (11, 100)]))
    ∧ (IsScore (unevenRubric.evaluate fullCreditCorpus).summary.overallScore
        ↔ ¬ (unevenRubric.evaluate fullCreditCorpus).summary.Overshoots) :=
  have h := Rubric.summary_isScore_iff [(1, 50), (11, 100)] unevenRubric fullCreditCorpus
  ⟨h.1 (by decide +kernel), (h.2 (by decide +kernel)).2.2⟩

set_option maxRecDepth 10000 in
/-- Full credit at the weights one and eleven gives a mean, and a category score, above a hundred. -/
theorem weightedMean_exceeds_maxScore :
    ((∀ pair ∈ [((1 : Binary64), (100 : Binary64)), (11, 100)], IsWeight pair.1 ∧ IsScore pair.2)
      ∧ ¬ IsScore (weightedMean [(1, 100), (11, 100)]))
    ∧ (unevenRubric.validate = .ok ()
      ∧ ¬ IsScore (unevenRubric.evaluate fullCreditCorpus).summary.kernelScore) :=
  ⟨by decide +kernel, by decide +kernel, by decide +kernel⟩

end RubricScore
