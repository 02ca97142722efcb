import RubricScore.Proofs.Scoring.Component

/-!
# The weighted mean

The two sums of the weighted mean are rounded at every step, each on its own, so their quotient can
leave the range of the scores. It never leaves `[0, 128]`, however many pairs there are and whatever
their weights, and it exceeds the greatest score just when the sum of the weighted scores exceeds the
sum of the weights by more than a factor of `100 + 2 ^ (-47)`.

## Main definitions

* `IsWeight`: the number is finite and not negative;
* `SumsBounded`: what holds of the two sums however many pairs were added;
* `Overshoots`: the sums stand so far apart that the mean exceeds the greatest score.

## Main results

* `SumsBounded.addWeighted` and `sumsBounded_foldl`: one pair, and a list of pairs, keep the bounds;
* `exists_hasQuanta_weightedMean`: the bounds of the mean, and just when it exceeds a hundred.
-/

namespace RubricScore.Scoring

open Binary64

attribute [local irreducible] twoPow one limit

/-- The number is finite and not negative; both zeros are allowed. -/
def IsWeight (x : Binary64) : Prop :=
  x.isFinite ∧ Binary64.zero.le x

instance (x : Binary64) : Decidable (IsWeight x) :=
  inferInstanceAs (Decidable (_ ∧ _))

theorem isWeight_iff {x : Binary64} : IsWeight x ↔ ∃ w, x.HasQuanta w := by
  constructor
  · rintro ⟨hfinite, hzero⟩
    exact exists_hasQuanta_of_isFinite hfinite hzero
  · rintro ⟨w, hw⟩
    exact ⟨hw.isFinite, (hasQuanta_zero.le_iff hw).2 (Nat.zero_le w)⟩

/-! ## The greatest weight -/

/-- The greatest of some weights and a start is one of the numbers and at least each of them. -/
theorem exists_hasQuanta_foldl_max {weights : List Binary64} (h : ∀ x ∈ weights, IsWeight x)
    {start : Binary64} {m : Nat} (hstart : start.HasQuanta m) :
    ∃ g, (weights.foldl Binary64.max start).HasQuanta g ∧ m ≤ g
      ∧ ∀ x ∈ weights, ∀ w, x.HasQuanta w → w ≤ g := by
  induction weights generalizing start m with
  | nil => exact ⟨m, hstart, Nat.le_refl m, fun _ hin => absurd hin List.not_mem_nil⟩
  | cons x rest ih =>
    obtain ⟨w, hw⟩ := isWeight_iff.1 (h x List.mem_cons_self)
    obtain ⟨g, hg, hle, hrest⟩ :=
      ih (fun y hy => h y (List.mem_cons_of_mem _ hy)) (hstart.max hw)
    refine ⟨g, hg, Nat.le_trans (Nat.le_max_left m w) hle, fun y hy v hv => ?_⟩
    rcases List.mem_cons.1 hy with rfl | hin
    · rw [hv.unique hw]
      exact Nat.le_trans (Nat.le_max_right m w) hle
    · exact hrest y hin v hv

/-- The greatest weight has quanta, and no weight has more. -/
theorem exists_hasQuanta_maxWeight {pairs : List (Binary64 × Binary64)}
    (h : ∀ pair ∈ pairs, IsWeight pair.1) :
    ∃ g, (maxWeight pairs).HasQuanta g ∧ ∀ pair ∈ pairs, ∀ w, pair.1.HasQuanta w → w ≤ g := by
  have hweights : ∀ x ∈ pairs.map Prod.fst, IsWeight x := by
    intro x hx
    obtain ⟨pair, hpair, rfl⟩ := List.mem_map.1 hx
    exact h pair hpair
  obtain ⟨g, hg, -, hle⟩ := exists_hasQuanta_foldl_max hweights hasQuanta_zero
  exact ⟨g, hg, fun pair hpair => hle _ (List.mem_map_of_mem hpair)⟩

/-- A weight divided by the greatest one is at most one unit. -/
theorem exists_hasQuanta_scaled {x greatest : Binary64} {w g : Nat} (hx : x.HasQuanta w)
    (hgreatest : greatest.HasQuanta g) (hg : 0 < g) (hle : w ≤ g) :
    ∃ s, (x / greatest).HasQuanta s ∧ s ≤ one := by
  have hquotient : nearest (w * one) g ≤ one := by
    refine nearest_le hg isMagnitude_one ?_
    rw [Nat.mul_comm one g]
    exact Nat.mul_le_mul_right one hle
  exact ⟨_, hx.div hgreatest (Nat.ne_of_gt hg)
    (Nat.lt_of_le_of_lt hquotient (by decide +kernel)), hquotient⟩

/-! ## The two sums -/

/-- The sums of the weighted scores and of the weights are `scores` and `weights` quanta. The sum of
the weights stops growing at `2 ^ 53` units, and that of the scores stays within 128 times it: unlike
100, the factor 128 commutes with rounding. -/
structure SumsBounded (sums : Binary64 × Binary64) (scores weights : Nat) : Prop where
  /-- The quanta of the sum of the weighted scores. -/
  scoreSum : sums.1.HasQuanta scores
  /-- The quanta of the sum of the weights. -/
  weightSum : sums.2.HasQuanta weights
  /-- From here on a scaled weight is rounded away. -/
  saturated : weights ≤ twoPow precision * one
  /-- A weighted score is at most 128 times its weight. -/
  scores_le : scores ≤ weights * twoPow 7

theorem sumsBounded_zero : SumsBounded (Binary64.zero, Binary64.zero) 0 0 :=
  ⟨hasQuanta_zero, hasQuanta_zero, Nat.zero_le _, Nat.zero_le _⟩

/-- A sum of weights that has reached `2 ^ 53` units is not changed by another unit. -/
theorem nearest_add_le_saturated {weights s : Nat} (hweights : weights ≤ twoPow precision * one)
    (hs : s ≤ one) : nearest (weights + s) 1 ≤ twoPow precision * one := by
  -- The exact sum would be a tie, which goes to the even neighbour below.
  have htie : nearest (twoPow precision * one + one) 1 = twoPow precision * one := by
    decide +kernel
  rw [← htie]
  refine nearest_mono Nat.one_pos Nat.one_pos ?_
  rw [Nat.mul_one, Nat.mul_one]
  exact Nat.add_le_add hweights hs

/-- The product of a score and a weight is at most 128 times the weight. -/
theorem exists_hasQuanta_weighted {x scaled : Binary64} {s : Nat} (hx : IsScore x)
    (hscaled : scaled.HasQuanta s) (hs : s ≤ one) :
    ∃ p, (x * scaled).HasQuanta p ∧ p ≤ s * twoPow 7 := by
  obtain ⟨q, hq, hle⟩ := isScore_iff.1 hx
  have hproduct : nearest (q * s) one ≤ s * twoPow 7 := by
    refine nearest_le unit_pos (hscaled.isMagnitude.mul_twoPow 7) ?_
    have hhundred : 100 * one ≤ twoPow 7 * one := Nat.mul_le_mul_right one (by decide +kernel)
    calc q * s ≤ twoPow 7 * one * s := Nat.mul_le_mul_right s (Nat.le_trans hle hhundred)
      _ = s * twoPow 7 * one := by ring
  refine ⟨_, hq.mul hscaled (Nat.lt_of_le_of_lt hproduct ?_), hproduct⟩
  exact Nat.lt_of_le_of_lt (Nat.mul_le_mul_right _ hs) (by decide +kernel)

/-- Adding a pair keeps the bounds. -/
theorem SumsBounded.addWeighted {greatest : Binary64} {g : Nat}
    (hgreatest : greatest.HasQuanta g) (hg : 0 < g) {sums : Binary64 × Binary64}
    {scores weights : Nat} (h : SumsBounded sums scores weights) {pair : Binary64 × Binary64}
    {w : Nat} (hweight : pair.1.HasQuanta w) (hle : w ≤ g) (hscore : IsScore pair.2) :
    ∃ scores' weights', SumsBounded (addWeighted greatest sums pair) scores' weights' := by
  obtain ⟨s, hscaled, hs⟩ := exists_hasQuanta_scaled hweight hgreatest hg hle
  obtain ⟨p, hproduct, hp⟩ := exists_hasQuanta_weighted hscore hscaled hs
  have hsaturated := nearest_add_le_saturated h.saturated hs
  -- The scaled sum of the weights is rounded like the sum itself, so it keeps its lead.
  have hscores : nearest (scores + p) 1 ≤ nearest (weights + s) 1 * twoPow 7 := by
    rw [← nearest_twoPow_mul, Nat.add_mul]
    refine nearest_mono Nat.one_pos Nat.one_pos ?_
    rw [Nat.mul_one, Nat.mul_one]
    exact Nat.add_le_add h.scores_le hp
  have hweightsLimit : nearest (weights + s) 1 < limit :=
    Nat.lt_of_le_of_lt hsaturated (by decide +kernel)
  have hscoresLimit : nearest (scores + p) 1 < limit := by
    refine Nat.lt_of_le_of_lt (Nat.le_trans hscores (Nat.mul_le_mul_right _ hsaturated)) ?_
    decide +kernel
  exact ⟨_, _, h.scoreSum.add hproduct hscoresLimit, h.weightSum.add hscaled hweightsLimit,
    hsaturated, hscores⟩

/-- Adding any number of pairs keeps the bounds. -/
theorem sumsBounded_foldl {greatest : Binary64} {g : Nat} (hgreatest : greatest.HasQuanta g)
    (hg : 0 < g) {pairs : List (Binary64 × Binary64)}
    (hweights : ∀ pair ∈ pairs, IsWeight pair.1)
    (hle : ∀ pair ∈ pairs, ∀ w, pair.1.HasQuanta w → w ≤ g)
    (hscores : ∀ pair ∈ pairs, IsScore pair.2) {sums : Binary64 × Binary64}
    {scores weights : Nat} (h : SumsBounded sums scores weights) :
    ∃ scores' weights',
      SumsBounded (pairs.foldl (addWeighted greatest) sums) scores' weights' := by
  induction pairs generalizing sums scores weights with
  | nil => exact ⟨scores, weights, h⟩
  | cons pair rest ih =>
    obtain ⟨w, hw⟩ := isWeight_iff.1 (hweights pair List.mem_cons_self)
    obtain ⟨scores', weights', h'⟩ := h.addWeighted hgreatest hg hw
      (hle pair List.mem_cons_self w hw) (hscores pair List.mem_cons_self)
    exact ih (fun other hin => hweights other (List.mem_cons_of_mem _ hin))
      (fun other hin => hle other (List.mem_cons_of_mem _ hin))
      (fun other hin => hscores other (List.mem_cons_of_mem _ hin)) h'

/-! ## The mean -/

/-- Some weight is positive, and the sum of the weighted scores exceeds the sum of the weights by more
than a factor of `100 + 2 ^ (-47)`. Half of the distance between neighbouring numbers above a hundred
is `2 ^ (-47)`. -/
def Overshoots (pairs : List (Binary64 × Binary64)) : Prop :=
  let sums := pairs.foldl (addWeighted (maxWeight pairs)) (Binary64.zero, Binary64.zero)
  Binary64.zero.lt (maxWeight pairs)
    ∧ ((100 * twoPow 47 + 1 : Nat) : Int) * sums.2.position
      < ((twoPow 47 : Nat) : Int) * sums.1.position

instance (pairs : List (Binary64 × Binary64)) : Decidable (Overshoots pairs) :=
  inferInstanceAs (Decidable (_ ∧ _))

/-- A quotient of quanta is rounded above a hundred units just when it is more than half a spacing
above them. -/
theorem lt_nearest_hundred_iff {scores weights : Nat} (h : 0 < weights) :
    100 * one < nearest (scores * one) weights
      ↔ (100 * twoPow 47 + 1) * weights < twoPow 47 * scores := by
  have heven : 2 * twoPow (spacing (100 * one)) ∣ 100 * one := by decide +kernel
  have hspacing : spacing (100 * one) = 1028 := by decide +kernel
  have hone : one = twoPow 46 * twoPow 1028 := by decide +kernel
  have htwice : twoPow 47 = 2 * twoPow 46 := by decide +kernel
  have hleft : (2 * (100 * one) + twoPow 1028) * weights
      = (100 * twoPow 47 + 1) * weights * twoPow 1028 := by
    rw [hone, htwice]
    ring
  have hright : 2 * (scores * one) = twoPow 47 * scores * twoPow 1028 := by
    rw [hone, htwice]
    ring
  rw [lt_nearest_iff h heven, hspacing, hleft, hright]
  exact Nat.mul_lt_mul_right (twoPow_pos 1028)

/-- The quotient of the two sums, or zero without a positive weight. -/
theorem SumsBounded.exists_hasQuanta_quotient {sums : Binary64 × Binary64} {scores weights : Nat}
    (h : SumsBounded sums scores weights) :
    ∃ q, (if Binary64.zero.lt sums.2 then sums.1 / sums.2 else Binary64.zero).HasQuanta q
      ∧ q ≤ 128 * one
      ∧ (100 * one < q ↔ (100 * twoPow 47 + 1) * weights < twoPow 47 * scores) := by
  by_cases hsum : 0 < weights
  · rw [if_pos ((hasQuanta_zero.lt_iff h.weightSum).2 hsum)]
    have hbound : nearest (scores * one) weights ≤ 128 * one := by
      refine nearest_le hsum (isMagnitude_mul_one (by decide +kernel)) ?_
      have hfactor : twoPow 7 = 128 := by decide +kernel
      calc scores * one ≤ weights * twoPow 7 * one := Nat.mul_le_mul_right one h.scores_le
        _ = 128 * one * weights := by
            rw [hfactor]
            ring
    exact ⟨_, h.scoreSum.div h.weightSum (Nat.ne_of_gt hsum)
      (Nat.lt_of_le_of_lt hbound (by decide +kernel)), hbound, lt_nearest_hundred_iff hsum⟩
  · -- Without weights there are no scores either, and both sides of the equivalence fail.
    rw [if_neg fun hlt => hsum ((hasQuanta_zero.lt_iff h.weightSum).1 hlt)]
    refine ⟨0, hasQuanta_zero, Nat.zero_le _, ?_⟩
    have hzero : scores = 0 := by
      have := h.scores_le
      rw [Nat.eq_zero_of_not_pos hsum, Nat.zero_mul] at this
      omega
    rw [hzero, Nat.mul_zero]
    exact ⟨fun hlt => absurd hlt (Nat.not_lt_zero _), fun hlt => absurd hlt (Nat.not_lt_zero _)⟩

/-- The mean is finite, not negative and at most 128 units, and it exceeds a hundred units just when
the sums overshoot. -/
theorem exists_hasQuanta_weightedMean {pairs : List (Binary64 × Binary64)}
    (hweights : ∀ pair ∈ pairs, IsWeight pair.1) (hscores : ∀ pair ∈ pairs, IsScore pair.2) :
    ∃ q, (weightedMean pairs).HasQuanta q ∧ q ≤ 128 * one
      ∧ (100 * one < q ↔ Overshoots pairs) := by
  obtain ⟨g, hgreatest, hle⟩ := exists_hasQuanta_maxWeight hweights
  have hpositive : Binary64.zero.lt (maxWeight pairs) = true ↔ 0 < g :=
    hasQuanta_zero.lt_iff hgreatest
  unfold weightedMean Overshoots
  dsimp only
  rw [hgreatest.isFinite, hpositive]
  by_cases hg : 0 < g
  · have hguard : ((maxWeight pairs).le Binary64.zero || !true) = false := by
      rw [Bool.not_true, Bool.or_false, ← Bool.not_eq_true, hgreatest.le_iff hasQuanta_zero]
      omega
    rw [hguard, if_neg Bool.false_ne_true]
    obtain ⟨scores, weights, hsums⟩ :=
      sumsBounded_foldl hgreatest hg hweights hle hscores sumsBounded_zero
    obtain ⟨q, hq, hbound, hiff⟩ := hsums.exists_hasQuanta_quotient
    refine ⟨q, hq, hbound, hiff.trans ?_⟩
    rw [and_iff_right hg, hsums.scoreSum.position, hsums.weightSum.position, ← Int.natCast_mul,
      ← Int.natCast_mul, Int.ofNat_lt]
  · -- The guard gives zero when no weight is positive.
    have hguard : ((maxWeight pairs).le Binary64.zero || !true) = true := by
      rw [Bool.not_true, Bool.or_false, hgreatest.le_iff hasQuanta_zero]
      omega
    rw [hguard, if_pos rfl]
    exact ⟨0, hasQuanta_zero, Nat.zero_le _, fun hlt => absurd hlt (Nat.not_lt_zero _),
      fun hlt => absurd hlt.1 hg⟩

end RubricScore.Scoring
