import RubricScore.Proofs.Scoring.Component

/-!
# Order of component scores

More occurrences of cues, more functions or more source lines never lower a score of a component,
for every rounded operation keeps the order of its operands. Once the targets are reached there is
nothing more to earn: the overall score is the greatest one.

## Main definitions

* `Scores.AtMost`: each of four scores is at most its counterpart.

## Main results

* `percentageQuanta_mono`: a greater part is not a smaller percentage;
* `percentageQuanta_full`: a part that reaches the total makes a hundred;
* `componentScores_ordered`: bounds, order and full credit of the scores of a component.
-/

namespace RubricScore

open Binary64

attribute [local irreducible] twoPow one limit

/-- Each of four scores is at most its counterpart. -/
structure Scores.AtMost (scores others : Scores) : Prop where
  /-- For the evidence. -/
  evidence : scores.evidence.le others.evidence
  /-- For the functions. -/
  functions : scores.functions.le others.functions
  /-- For the source lines. -/
  sloc : scores.sloc.le others.sloc
  /-- Overall. -/
  overall : scores.overall.le others.overall

namespace Scoring

/-! ## Percentages -/

/-- A greater part is not a smaller percentage. -/
theorem percentageQuanta_mono {p q t : Nat} (ht : 0 < t) (h : p ≤ q) :
    percentageQuanta p t ≤ percentageQuanta q t := by
  have hquotients : nearest (p * one) t ≤ nearest (q * one) t :=
    nearest_mono ht ht (Nat.mul_le_mul_right t (Nat.mul_le_mul_right one h))
  have hproducts : nearest (nearest (p * one) t * (100 * one)) one
      ≤ nearest (nearest (q * one) t * (100 * one)) one :=
    nearest_mono unit_pos unit_pos
      (Nat.mul_le_mul_right one (Nat.mul_le_mul_right (100 * one) hquotients))
  unfold percentageQuanta
  omega

/-- A part that reaches the total makes a hundred. -/
theorem percentageQuanta_full {p t : Nat} (ht : 0 < t) (h : t ≤ p) :
    percentageQuanta p t = 100 * one := by
  have hquotient : one ≤ nearest (p * one) t := by
    refine le_nearest ht isMagnitude_one ?_
    rw [Nat.mul_comm p]
    exact Nat.mul_le_mul_left one h
  have hproduct : 100 * one ≤ nearest (nearest (p * one) t * (100 * one)) one := by
    refine le_nearest unit_pos (isMagnitude_mul_one (by decide +kernel)) ?_
    rw [Nat.mul_comm (nearest (p * one) t)]
    exact Nat.mul_le_mul_left _ hquotient
  exact Nat.min_eq_right hproduct

/-! ## Scores of counts -/

/-- Greater words are not rounded to smaller numbers. -/
theorem nearest_word_mono {m n : UInt64} (h : m ≤ n) :
    nearest (m.toNat * one) 1 ≤ nearest (n.toNat * one) 1 :=
  nearest_mono Nat.one_pos Nat.one_pos
    (Nat.mul_le_mul_right 1 (Nat.mul_le_mul_right one (UInt64.le_iff_toNat_le.1 h)))

theorem nearest_word_pos {n : UInt64} (h : n ≠ 0) : 0 < nearest (n.toNat * one) 1 :=
  Nat.lt_of_lt_of_le unit_pos (one_le_nearest_word h)

theorem ascends_evidenceScore {m n : UInt64} (h : m ≤ n) :
    Ascends 100 (evidenceScore m) (evidenceScore n) :=
  ⟨_, _, hasQuanta_evidenceScore m, hasQuanta_evidenceScore n,
    percentageQuanta_mono (Nat.mul_pos (by decide) unit_pos) (nearest_word_mono h),
    Nat.min_le_right _ _⟩

theorem ascends_ratioScore {m n : UInt64} (h : m ≤ n) (target : UInt64) :
    Ascends 100 (ratioScore m target) (ratioScore n target) := by
  by_cases hzero : target = 0
  · simp only [ratioScore, if_pos hzero]
    exact isScore_iff_ascends.1 isScore_zero
  · exact ⟨_, _, hasQuanta_ratioScore m hzero, hasQuanta_ratioScore n hzero,
      percentageQuanta_mono (nearest_word_pos hzero) (nearest_word_mono h), Nat.min_le_right _ _⟩

/-- Ten occurrences earn full credit. -/
theorem evidenceScore_full {occurrences : UInt64} (h : 10 ≤ occurrences) :
    evidenceScore occurrences = maxScore := by
  have hten : 10 * one ≤ nearest (occurrences.toNat * one) 1 := by
    refine le_nearest Nat.one_pos (isMagnitude_mul_one (by decide +kernel)) ?_
    rw [Nat.mul_one]
    exact Nat.mul_le_mul_right one (UInt64.le_iff_toNat_le.1 h)
  have hsign := (isNegative_evidenceScore occurrences).trans isNegative_maxScore.symm
  exact ((hasQuanta_evidenceScore occurrences).eq_iff hasQuanta_maxScore hsign).2
    (percentageQuanta_full (Nat.mul_pos (by decide) unit_pos) hten)

/-- A count that reaches its target earns full credit, however both are rounded. -/
theorem ratioScore_full {found target : UInt64} (hpos : 0 < target) (h : target ≤ found) :
    ratioScore found target = maxScore := by
  have hne : target ≠ 0 := by
    rintro rfl
    exact absurd hpos (by decide)
  have hsign := (isNegative_ratioScore found target).trans isNegative_maxScore.symm
  exact ((hasQuanta_ratioScore found hne).eq_iff hasQuanta_maxScore hsign).2
    (percentageQuanta_full (nearest_word_pos hne) (nearest_word_mono h))

/-! ## Scores of a component -/

/-- The shares of full credit add up to full credit, without a rounding error. -/
theorem overall_full : maxScore * evidenceShare + maxScore * functionShare + maxScore * slocShare
    = maxScore := by
  decide +kernel

/-- The four scores of a component are scores, whatever its counts and targets are. None of them is
lower for greater counts, and the overall score is the greatest one from ten occurrences and the two
targets on. -/
theorem componentScores_ordered
    (occurrences functions sloc targetFunctions targetSloc : UInt64) :
    let scores := componentScores occurrences functions sloc targetFunctions targetSloc
    (IsScore scores.evidence ∧ IsScore scores.functions ∧ IsScore scores.sloc
      ∧ IsScore scores.overall)
    ∧ (∀ occurrences' functions' sloc' : UInt64,
      occurrences ≤ occurrences' → functions ≤ functions' → sloc ≤ sloc' →
        scores.AtMost
          (componentScores occurrences' functions' sloc' targetFunctions targetSloc))
    ∧ (10 ≤ occurrences → 0 < targetFunctions → targetFunctions ≤ functions →
      0 < targetSloc → targetSloc ≤ sloc → scores.overall = maxScore) := by
  refine ⟨isScore_componentScores .., ?_, ?_⟩
  · intro occurrences' functions' sloc' hoccurrences hfunctions hsloc
    have hevidence := ascends_evidenceScore hoccurrences
    have hfunctions := ascends_ratioScore hfunctions targetFunctions
    have hsloc := ascends_ratioScore hsloc targetSloc
    exact ⟨hevidence.le, hfunctions.le, hsloc.le, (ascends_overall hevidence hfunctions hsloc).le⟩
  · intro hoccurrences hpos hfunctions hpos' hsloc
    show evidenceScore occurrences * evidenceShare + ratioScore functions targetFunctions
      * functionShare + ratioScore sloc targetSloc * slocShare = maxScore
    rw [evidenceScore_full hoccurrences, ratioScore_full hpos hfunctions,
      ratioScore_full hpos' hsloc]
    exact overall_full

/-- Nine occurrences, three functions and seven lines score at most what twelve, five and twenty do,
and these reach the targets of five and twenty. -/
theorem componentScores_ordered_reached :
    ((9 : UInt64) ≤ 12 ∧ (3 : UInt64) ≤ 5 ∧ (7 : UInt64) ≤ 20
      ∧ (componentScores 9 3 7 5 20).AtMost (componentScores 12 5 20 5 20))
    ∧ ((10 : UInt64) ≤ 12 ∧ (0 : UInt64) < 5 ∧ (5 : UInt64) ≤ 5 ∧ (0 : UInt64) < 20
      ∧ (20 : UInt64) ≤ 20 ∧ (componentScores 12 5 20 5 20).overall = maxScore) := by
  obtain ⟨-, hordered, -⟩ := componentScores_ordered 9 3 7 5 20
  obtain ⟨-, -, hfull⟩ := componentScores_ordered 12 5 20 5 20
  exact ⟨⟨by decide, by decide, by decide,
      hordered 12 5 20 (by decide) (by decide) (by decide)⟩,
    by decide, by decide, by decide, by decide, by decide,
    hfull (by decide) (by decide) (by decide) (by decide) (by decide)⟩

end Scoring

end RubricScore
