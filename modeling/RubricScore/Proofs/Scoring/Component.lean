import RubricScore.Proofs.Binary64.Arithmetic
import RubricScore.Scoring

/-!
# Bounds of component scores

The four scores of a component lie between zero and the greatest score, whatever its counts and
targets are: a percentage is cut off there, and the three shares of the greatest score add up to it
without a rounding error.

## Main definitions

* `IsScore`: the number lies between zero and the greatest score;
* `percentageQuanta`: a percentage in quanta;
* `Ascends`: two numbers stand in order, between zero and some units.

## Main results

* `hasQuanta_percentage`: the quanta of a percentage, from those of its part and its total;
* `isScore_ratioScore`, `isScore_evidenceScore`: the score of a count is a score;
* `Ascends.mul_share`, `Ascends.add`, `ascends_overall`: rounding keeps the order and the bounds;
* `isScore_componentScores`: the four scores of a component are scores.
-/

namespace RubricScore.Scoring

open Binary64

attribute [local irreducible] twoPow one limit

/-- The number lies between zero and the greatest score. -/
def IsScore (x : Binary64) : Prop :=
  Binary64.zero.le x ∧ x.le maxScore

instance (x : Binary64) : Decidable (IsScore x) :=
  inferInstanceAs (Decidable (_ ∧ _))

theorem hasQuanta_maxScore : maxScore.HasQuanta (100 * one) :=
  hasQuanta_ofNat (by decide +kernel)

theorem isNegative_maxScore : maxScore.isNegative = false :=
  isNegative_ofNat 100

theorem isScore_iff {x : Binary64} : IsScore x ↔ ∃ q, x.HasQuanta q ∧ q ≤ 100 * one := by
  constructor
  · rintro ⟨hzero, hle⟩
    exact exists_hasQuanta_of_le hasQuanta_maxScore hzero hle
  · rintro ⟨q, hq, hle⟩
    exact ⟨(hasQuanta_zero.le_iff hq).2 (Nat.zero_le q), (hq.le_iff hasQuanta_maxScore).2 hle⟩

/-! ## Percentages -/

/-- The quanta of a percentage: the rounded quotient times a hundred, rounded again and cut off. -/
def percentageQuanta (part total : Nat) : Nat :=
  Min.min (nearest (nearest (part * one) total * (100 * one)) one) (100 * one)

theorem hasQuanta_percentage {part total : Binary64} {p t : Nat} (hpart : part.HasQuanta p)
    (htotal : total.HasQuanta t) (hp : p ≤ twoPow 64 * one) (ht : one ≤ t) :
    (percentage part total).HasQuanta (percentageQuanta p t) := by
  have htpos : 0 < t := Nat.lt_of_lt_of_le unit_pos ht
  -- Neither the quotient nor the product overflows, so both are finite before the cut.
  have hquotient : nearest (p * one) t ≤ twoPow 64 * one :=
    nearest_le htpos (isMagnitude_twoPow_mul_one 64) (Nat.mul_le_mul hp ht)
  have hdiv := hpart.div htotal (Nat.ne_of_gt htpos)
    (Nat.lt_of_le_of_lt hquotient (by decide +kernel))
  have hhundred : IsMagnitude (100 * one * twoPow 64) :=
    (isMagnitude_mul_one (by decide +kernel)).mul_twoPow 64
  have hproduct : nearest (nearest (p * one) t * (100 * one)) one ≤ 100 * one * twoPow 64 := by
    refine nearest_le unit_pos hhundred ?_
    calc nearest (p * one) t * (100 * one) ≤ twoPow 64 * one * (100 * one) :=
          Nat.mul_le_mul_right _ hquotient
      _ = 100 * one * twoPow 64 * one := by ring
  have hmul := hdiv.mul hasQuanta_maxScore (Nat.lt_of_le_of_lt hproduct (by decide +kernel))
  exact hmul.min hasQuanta_maxScore

/-- The percentage of two numbers without a minus sign has none. -/
theorem isNegative_percentage {part total : Binary64} (hpart : part.isNegative = false)
    (htotal : total.isNegative = false) : (percentage part total).isNegative = false :=
  isNegative_min (isNegative_mul (isNegative_div hpart htotal) isNegative_maxScore)
    isNegative_maxScore

theorem isScore_zero : IsScore Binary64.zero :=
  isScore_iff.2 ⟨0, hasQuanta_zero, Nat.zero_le _⟩

theorem hasQuanta_ratioScore (found : UInt64) {target : UInt64} (h : target ≠ 0) :
    (ratioScore found target).HasQuanta
      (percentageQuanta (nearest (found.toNat * one) 1) (nearest (target.toNat * one) 1)) := by
  rw [ratioScore, if_neg h]
  exact hasQuanta_percentage (hasQuanta_ofWord found) (hasQuanta_ofWord target)
    (nearest_word_le found) (one_le_nearest_word h)

theorem isNegative_ratioScore (found target : UInt64) :
    (ratioScore found target).isNegative = false := by
  unfold ratioScore
  split
  · rfl
  · exact isNegative_percentage (isNegative_ofNat found.toNat) (isNegative_ofNat target.toNat)

theorem isScore_ratioScore (found target : UInt64) : IsScore (ratioScore found target) := by
  by_cases h : target = 0
  · rw [ratioScore, if_pos h]
    exact isScore_zero
  · exact isScore_iff.2 ⟨_, hasQuanta_ratioScore found h, Nat.min_le_right _ _⟩

theorem hasQuanta_evidenceScore (occurrences : UInt64) :
    (evidenceScore occurrences).HasQuanta
      (percentageQuanta (nearest (occurrences.toNat * one) 1) (10 * one)) := by
  have hten : fullCreditMatches.HasQuanta (10 * one) := hasQuanta_ofNat (by decide +kernel)
  exact hasQuanta_percentage (hasQuanta_ofWord occurrences) hten (nearest_word_le occurrences)
    (Nat.le_mul_of_pos_left one (by decide))

theorem isNegative_evidenceScore (occurrences : UInt64) :
    (evidenceScore occurrences).isNegative = false :=
  isNegative_percentage (isNegative_ofNat occurrences.toNat) (isNegative_ofNat 10)

theorem isScore_evidenceScore (occurrences : UInt64) : IsScore (evidenceScore occurrences) :=
  isScore_iff.2 ⟨_, hasQuanta_evidenceScore occurrences, Nat.min_le_right _ _⟩

/-! ## Shares and sums -/

/-- Two numbers stand in order, between zero and some units. -/
def Ascends (bound : Nat) (x y : Binary64) : Prop :=
  ∃ m n, x.HasQuanta m ∧ y.HasQuanta n ∧ m ≤ n ∧ n ≤ bound * one

theorem Ascends.le {bound : Nat} {x y : Binary64} (h : Ascends bound x y) : x.le y := by
  obtain ⟨m, n, hx, hy, hle, -⟩ := h
  exact (hx.le_iff hy).2 hle

theorem ascends_self_iff {bound : Nat} {x : Binary64} :
    Ascends bound x x ↔ ∃ q, x.HasQuanta q ∧ q ≤ bound * one := by
  constructor
  · rintro ⟨-, q, -, hq, -, hle⟩
    exact ⟨q, hq, hle⟩
  · rintro ⟨q, hq, hle⟩
    exact ⟨q, q, hq, hq, Nat.le_refl q, hle⟩

theorem isScore_iff_ascends {x : Binary64} : IsScore x ↔ Ascends 100 x x :=
  isScore_iff.trans ascends_self_iff.symm

/-- Shares stand in the order of the scores, and below that share of the greatest score. -/
theorem Ascends.mul_share (bound : Nat) {x y share : Binary64} {c : Nat} (h : Ascends 100 x y)
    (hshare : share.HasQuanta c) (hbound : nearest (100 * one * c) one = bound * one)
    (hlimit : bound * one < limit) : Ascends bound (x * share) (y * share) := by
  obtain ⟨m, n, hx, hy, hle, htop⟩ := h
  have hproducts : nearest (m * c) one ≤ nearest (n * c) one :=
    nearest_mono unit_pos unit_pos (Nat.mul_le_mul_right one (Nat.mul_le_mul_right c hle))
  have hgreatest : nearest (n * c) one ≤ bound * one := by
    rw [← hbound]
    exact nearest_mono unit_pos unit_pos (Nat.mul_le_mul_right one (Nat.mul_le_mul_right c htop))
  have hfinite : nearest (n * c) one < limit := Nat.lt_of_le_of_lt hgreatest hlimit
  exact ⟨_, _, hx.mul hshare (Nat.lt_of_le_of_lt hproducts hfinite), hy.mul hshare hfinite,
    hproducts, hgreatest⟩

/-- Sums of numbers in order stand in order, and below the sum of the bounds if this is a
magnitude. -/
theorem Ascends.add {a b : Nat} {x x' y y' : Binary64} (h : Ascends a x x') (h' : Ascends b y y')
    (hmag : a + b ≤ twoPow precision) (hlimit : (a + b) * one < limit) :
    Ascends (a + b) (x + y) (x' + y') := by
  obtain ⟨m, m', hx, hx', hm, ha⟩ := h
  obtain ⟨n, n', hy, hy', hn, hb⟩ := h'
  have hsums : nearest (m + n) 1 ≤ nearest (m' + n') 1 :=
    nearest_mono Nat.one_pos Nat.one_pos (Nat.mul_le_mul_right 1 (Nat.add_le_add hm hn))
  have hgreatest : nearest (m' + n') 1 ≤ (a + b) * one := by
    refine nearest_le Nat.one_pos (isMagnitude_mul_one hmag) ?_
    rw [Nat.mul_one, Nat.add_mul]
    exact Nat.add_le_add ha hb
  have hfinite : nearest (m' + n') 1 < limit := Nat.lt_of_le_of_lt hgreatest hlimit
  exact ⟨_, _, hx.add hy (Nat.lt_of_le_of_lt hsums hfinite), hx'.add hy' hfinite, hsums, hgreatest⟩

/-- The sum of two numbers is at most the sum of their bounds, if this is a magnitude. -/
theorem exists_hasQuanta_add {x y : Binary64} {m n : Nat}
    (hx : ∃ q, x.HasQuanta q ∧ q ≤ m * one) (hy : ∃ q, y.HasQuanta q ∧ q ≤ n * one)
    (hmag : m + n ≤ twoPow precision) (hlimit : (m + n) * one < limit) :
    ∃ q, (x + y).HasQuanta q ∧ q ≤ (m + n) * one :=
  ascends_self_iff.1 ((ascends_self_iff.2 hx).add (ascends_self_iff.2 hy) hmag hlimit)

theorem hasQuanta_evidenceShare : evidenceShare.HasQuanta (nearest (4 * one) 10) := by
  have heq : evidenceShare = ofRatio false (4 * one) 10 := by decide +kernel
  rw [heq]
  exact HasQuanta.ofRatio (by decide +kernel) fun hfalse => absurd hfalse Bool.false_ne_true

theorem hasQuanta_functionShare : functionShare.HasQuanta (nearest (3 * one) 10) := by
  have heq : functionShare = ofRatio false (3 * one) 10 := by decide +kernel
  rw [heq]
  exact HasQuanta.ofRatio (by decide +kernel) fun hfalse => absurd hfalse Bool.false_ne_true

/-- Overall scores stand in the order of the scores that they are made of. -/
theorem ascends_overall {x x' y y' z z' : Binary64} (hx : Ascends 100 x x')
    (hy : Ascends 100 y y') (hz : Ascends 100 z z') :
    Ascends 100 (x * evidenceShare + y * functionShare + z * slocShare)
      (x' * evidenceShare + y' * functionShare + z' * slocShare) := by
  -- Each share of the greatest score is rounded to 40, 30 and 30 exactly.
  have hfirst := hx.mul_share 40 hasQuanta_evidenceShare (by decide +kernel) (by decide +kernel)
  have hsecond := hy.mul_share 30 hasQuanta_functionShare (by decide +kernel) (by decide +kernel)
  have hthird := hz.mul_share 30 hasQuanta_functionShare (by decide +kernel) (by decide +kernel)
  have htwo := hfirst.add hsecond (by decide +kernel) (by decide +kernel)
  exact htwo.add hthird (by decide +kernel) (by decide +kernel)

/-- All four scores of a component lie between zero and the greatest score. -/
theorem isScore_componentScores (occurrences functions sloc targetFunctions targetSloc : UInt64) :
    IsScore (componentScores occurrences functions sloc targetFunctions targetSloc).evidence
    ∧ IsScore (componentScores occurrences functions sloc targetFunctions targetSloc).functions
    ∧ IsScore (componentScores occurrences functions sloc targetFunctions targetSloc).sloc
    ∧ IsScore (componentScores occurrences functions sloc targetFunctions targetSloc).overall := by
  have hevidence := isScore_evidenceScore occurrences
  have hfunctions := isScore_ratioScore functions targetFunctions
  have hsloc := isScore_ratioScore sloc targetSloc
  exact ⟨hevidence, hfunctions, hsloc, isScore_iff_ascends.2 (ascends_overall
    (isScore_iff_ascends.1 hevidence) (isScore_iff_ascends.1 hfunctions)
    (isScore_iff_ascends.1 hsloc))⟩

end RubricScore.Scoring
