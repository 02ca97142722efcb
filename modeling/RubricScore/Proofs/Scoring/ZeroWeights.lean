import RubricScore.Proofs.Binary64.Zero
import RubricScore.Proofs.Scoring.WeightedMean

/-!
# Weights of zero

A pair whose weight is a zero of either sign changes nothing of the weighted mean, wherever it stands:
it does not raise the greatest weight, and what it adds to the two sums are zeros, which neither of
them shows, since no sum is ever the negative zero. So the pairs of positive weight alone make the
mean, and a single one of them makes it its own score.

## Main definitions

* `Interspersed`: pairs of weight zero were put in at any places.

## Main results

* `maxWeight_of_interspersed`: the greatest weight stays the same;
* `addWeighted_of_isZero` and `foldl_addWeighted`: one pair of weight zero, and any number of them
  among the others, leave the two sums as they are;
* `weightedMean_of_interspersed`, `weightedMean_singleton`: the mean with pairs of weight zero, and
  that of one pair.
-/

namespace RubricScore.Scoring

open Binary64

attribute [local irreducible] twoPow one limit

/-- The second list is the first one with pairs of weight zero put in. -/
inductive Interspersed : List (Binary64 × Binary64) → List (Binary64 × Binary64) → Prop
  /-- There are no pairs. -/
  | nil : Interspersed [] []
  /-- A pair of both lists. -/
  | keep (pair : Binary64 × Binary64) {pairs more : List (Binary64 × Binary64)} :
    Interspersed pairs more → Interspersed (pair :: pairs) (pair :: more)
  /-- A pair of weight zero that is put in, with any score. -/
  | insert {pair : Binary64 × Binary64} {pairs more : List (Binary64 × Binary64)} :
    pair.1.isZero → IsScore pair.2 → Interspersed pairs more → Interspersed pairs (pair :: more)

/-! ## The greatest weight -/

/-- A zero is not taken for the greater number. -/
theorem max_eq_left_of_isZero {x y : Binary64} {m : Nat} (hx : x.HasQuanta m) (hy : y.isZero) :
    x.max y = x := by
  have hy := isZero_iff.1 hy
  have hlt : ¬x.lt y := fun hlt => Nat.not_lt_zero m ((hx.lt_iff hy).1 hlt)
  simp [Binary64.max, hx.isNumber, hy.isNumber, hlt]

theorem maxWeight_of_interspersed {pairs more : List (Binary64 × Binary64)}
    (h : Interspersed pairs more) (hweights : ∀ pair ∈ pairs, IsWeight pair.1) :
    maxWeight more = maxWeight pairs := by
  -- The greatest weight so far is a weight, whatever it is.
  suffices hall : ∀ (start : Binary64) (m : Nat), start.HasQuanta m →
      (more.map Prod.fst).foldl Binary64.max start
        = (pairs.map Prod.fst).foldl Binary64.max start from
    hall zero 0 hasQuanta_zero
  induction h with
  | nil => exact fun _ _ _ => rfl
  | keep pair _ ih =>
    intro start m hstart
    obtain ⟨hpair, hrest⟩ := List.forall_mem_cons.1 hweights
    obtain ⟨w, hw⟩ := isWeight_iff.1 hpair
    exact ih hrest _ _ (hstart.max hw)
  | insert hzero _ _ ih =>
    intro start m hstart
    rw [List.map_cons, List.foldl_cons, max_eq_left_of_isZero hstart hzero]
    exact ih hweights start m hstart

/-! ## The two sums -/

/-- A pair of weight zero adds zeros, which leave the sums as they are. -/
theorem addWeighted_of_isZero {greatest : Binary64} {g : Nat} (hgreatest : greatest.HasQuanta g)
    (hg : 0 < g) {sums : Binary64 × Binary64} (hscores : sums.1 ≠ negativeZero)
    (hweights : sums.2 ≠ negativeZero) {pair : Binary64 × Binary64} (hzero : pair.1.isZero)
    (hscore : IsScore pair.2) : addWeighted greatest sums pair = sums := by
  obtain ⟨q, hq, -⟩ := isScore_iff.1 hscore
  have hscaled := isZero_div hzero hgreatest hg
  exact Prod.ext (add_eq_left hscores (isZero_mul hq.isFinite hscaled))
    (add_eq_left hweights hscaled)

theorem foldl_addWeighted {greatest : Binary64} {g : Nat} (hgreatest : greatest.HasQuanta g)
    (hg : 0 < g) {pairs more : List (Binary64 × Binary64)} (h : Interspersed pairs more)
    {sums : Binary64 × Binary64} (hscores : sums.1 ≠ negativeZero)
    (hweights : sums.2 ≠ negativeZero) :
    more.foldl (addWeighted greatest) sums = pairs.foldl (addWeighted greatest) sums := by
  induction h generalizing sums with
  | nil => rfl
  | keep pair _ ih =>
    exact ih (add_ne_negativeZero hscores _) (add_ne_negativeZero hweights _)
  | insert hzero hscore _ ih =>
    rw [List.foldl_cons, addWeighted_of_isZero hgreatest hg hscores hweights hzero hscore]
    exact ih hscores hweights

/-! ## The mean -/

theorem zero_ne_negativeZero : zero ≠ negativeZero :=
  nofun

theorem weightedMean_of_interspersed {pairs more : List (Binary64 × Binary64)}
    (h : Interspersed pairs more) (hweights : ∀ pair ∈ pairs, IsWeight pair.1) :
    weightedMean more = weightedMean pairs := by
  obtain ⟨g, hgreatest, -⟩ := exists_hasQuanta_maxWeight hweights
  unfold weightedMean
  dsimp only
  rw [maxWeight_of_interspersed h hweights]
  split
  · rfl
  · next hguard =>
    -- Past the guard the greatest weight is positive, so nothing is divided by zero.
    have hg : 0 < g := by
      refine Nat.pos_of_ne_zero fun hzero => hguard ?_
      rw [(hgreatest.le_iff hasQuanta_zero).2 (Nat.le_of_eq hzero), Bool.true_or]
    rw [foldl_addWeighted hgreatest hg h zero_ne_negativeZero zero_ne_negativeZero]

theorem one_ne_negativeZero : (1 : Binary64) ≠ negativeZero :=
  fun h => Bool.false_ne_true ((isNegative_ofNat 1).symm.trans (congrArg isNegative h))

theorem hasQuanta_unit : (1 : Binary64).HasQuanta (1 * one) :=
  hasQuanta_ofNat (by decide +kernel)

/-- The sums of one pair of positive weight: the weight is scaled to one unit. -/
theorem addWeighted_self {weight score : Binary64} {w : Nat} (hweight : weight.HasQuanta w)
    (hw : 0 < w) (hscore : score.isFinite) :
    addWeighted weight (zero, zero) (weight, score) = (zero + score, 1) := by
  show (zero + score * (weight / weight), zero + weight / weight) = (zero + score, 1)
  rw [div_self_eq hweight hw, mul_one_eq hscore,
    zero_add_eq hasQuanta_unit.isFinite one_ne_negativeZero]

/-- The mean of one pair of positive weight is its score; a negative zero becomes positive. -/
theorem weightedMean_singleton {weight score : Binary64} {w : Nat} (hweight : weight.HasQuanta w)
    (hw : 0 < w) (hscore : score.isFinite) :
    weightedMean [(weight, score)] = if score.isZero then zero else score := by
  have hmax : maxWeight [(weight, score)] = weight := by
    have hlt : zero.lt weight := (hasQuanta_zero.lt_iff hweight).2 hw
    simp [maxWeight, Binary64.max, hasQuanta_zero.isNumber, hweight.isNumber, hlt]
  have hguard : (weight.le zero || !weight.isFinite) = false := by
    rw [hweight.isFinite, Bool.not_true, Bool.or_false, Bool.eq_false_iff]
    exact fun hle => Nat.not_le.2 hw ((hweight.le_iff hasQuanta_zero).1 hle)
  have hpositive : zero.lt (1 : Binary64) :=
    (hasQuanta_zero.lt_iff hasQuanta_unit).2 (Nat.mul_pos Nat.one_pos unit_pos)
  unfold weightedMean
  dsimp only
  rw [hmax, hguard, if_neg Bool.false_ne_true, List.foldl_cons, List.foldl_nil,
    addWeighted_self hweight hw hscore, if_pos hpositive]
  split
  · next hzero => rw [add_eq_left zero_ne_negativeZero hzero, div_one_eq rfl]
  · next hnonzero =>
    have hne : score ≠ negativeZero := fun h => hnonzero (h ▸ rfl)
    rw [zero_add_eq hscore hne, div_one_eq hscore]

theorem isZero_of_not_lt {x : Binary64} (hx : IsWeight x) (h : ¬zero.lt x) : x.isZero := by
  obtain ⟨w, hw⟩ := isWeight_iff.1 hx
  obtain rfl := Nat.eq_zero_of_not_pos fun hpos => h ((hasQuanta_zero.lt_iff hw).2 hpos)
  exact isZero_iff.2 hw

/-- All pairs are those of positive weight with the others put in. -/
theorem interspersed_filter {pairs : List (Binary64 × Binary64)}
    (h : ∀ pair ∈ pairs, IsWeight pair.1 ∧ IsScore pair.2) :
    Interspersed (pairs.filter fun pair => zero.lt pair.1) pairs := by
  induction pairs with
  | nil => exact .nil
  | cons pair rest ih =>
    obtain ⟨⟨hweight, hscore⟩, hrest⟩ := List.forall_mem_cons.1 h
    rw [List.filter_cons]
    split
    · exact .keep pair (ih hrest)
    · next hlt => exact .insert (isZero_of_not_lt hweight hlt) hscore (ih hrest)

/-- The pairs of positive weight make the mean. -/
theorem weightedMean_filter {pairs : List (Binary64 × Binary64)}
    (h : ∀ pair ∈ pairs, IsWeight pair.1 ∧ IsScore pair.2) :
    weightedMean pairs = weightedMean (pairs.filter fun pair => zero.lt pair.1) :=
  weightedMean_of_interspersed (interspersed_filter h) fun _ hin =>
    (h _ (List.mem_filter.1 hin).1).1

/-- Pairs of weight zero are inert. Put in anywhere they leave the weighted mean as it is, down to the
sign of a zero. Among pairs one of which has a positive weight the mean is the score of that one,
with a negative zero, which is equal to zero, made positive; and without such a pair it is zero. -/
theorem zero_weights_inert :
    (∀ pairs more : List (Binary64 × Binary64), Interspersed pairs more →
      (∀ pair ∈ pairs, IsWeight pair.1 ∧ IsScore pair.2) →
        weightedMean more = weightedMean pairs)
    ∧ (∀ (pairs : List (Binary64 × Binary64)) (weight score : Binary64),
      (∀ pair ∈ pairs, IsWeight pair.1 ∧ IsScore pair.2) →
        (pairs.filter fun pair => zero.lt pair.1) = [(weight, score)] →
          weightedMean pairs = if score.isZero then zero else score)
    ∧ (∀ pairs : List (Binary64 × Binary64),
      (∀ pair ∈ pairs, IsWeight pair.1 ∧ IsScore pair.2) →
        (∀ pair ∈ pairs, ¬zero.lt pair.1) → weightedMean pairs = zero) := by
  refine ⟨?_, ?_, ?_⟩
  · intro pairs more hinterspersed hvalid
    exact weightedMean_of_interspersed hinterspersed fun pair hin => (hvalid pair hin).1
  · -- Without the pairs of weight zero only one pair is left.
    intro pairs weight score hvalid honly
    have hin : (weight, score) ∈ pairs.filter fun pair => zero.lt pair.1 :=
      honly ▸ List.mem_singleton_self _
    obtain ⟨hmem, hpositive⟩ := List.mem_filter.1 hin
    obtain ⟨hweight, hscore⟩ := hvalid _ hmem
    obtain ⟨w, hw⟩ := isWeight_iff.1 hweight
    obtain ⟨q, hq, -⟩ := isScore_iff.1 hscore
    rw [weightedMean_filter hvalid, honly]
    exact weightedMean_singleton hw ((hasQuanta_zero.lt_iff hw).1 hpositive) hq.isFinite
  · intro pairs hvalid hnone
    have hempty : (pairs.filter fun pair => zero.lt pair.1) = [] :=
      List.filter_eq_nil_iff.2 hnone
    rw [weightedMean_filter hvalid, hempty]
    decide +kernel

/-- The least positive number. -/
def leastWeight : Binary64 :=
  ofDecimal false 5 (-324)

/-- The greatest finite number. -/
def greatestWeight : Binary64 :=
  ofDecimal false 17976931348623157 292

/-- Two pairs of positive weight. -/
def extremePairs : List (Binary64 × Binary64) :=
  [(greatestWeight, 90), (leastWeight, 30)]

/-- The two pairs among others of weight zero. -/
def interspersedPairs : List (Binary64 × Binary64) :=
  [(negativeZero, 10), (greatestWeight, 90), (zero, 100), (leastWeight, 30), (negativeZero, 0)]

/-- Pairs of weight zero only. -/
def idlePairs : List (Binary64 × Binary64) :=
  [(negativeZero, 10), (zero, 20)]

/-- Zeros of both signs before, between and behind the greatest and the least positive weight, the
least one alone among zeros, and zeros only. -/
theorem zero_weights_inert_extreme :
    (Interspersed extremePairs interspersedPairs
      ∧ (∀ pair ∈ extremePairs, IsWeight pair.1 ∧ IsScore pair.2)
      ∧ weightedMean interspersedPairs = weightedMean extremePairs)
    ∧ ((∀ pair ∈ (leastWeight, 70) :: idlePairs, IsWeight pair.1 ∧ IsScore pair.2)
      ∧ (((leastWeight, 70) :: idlePairs).filter fun pair => zero.lt pair.1) = [(leastWeight, 70)]
      ∧ weightedMean ((leastWeight, 70) :: idlePairs) = 70)
    ∧ (∀ pair ∈ idlePairs, IsWeight pair.1 ∧ IsScore pair.2)
    ∧ (∀ pair ∈ idlePairs, ¬zero.lt pair.1)
    ∧ weightedMean idlePairs = zero := by
  obtain ⟨hput, honly, hnone⟩ := zero_weights_inert
  have hmore : Interspersed extremePairs interspersedPairs :=
    .insert (by decide +kernel) (by decide +kernel) <| .keep _ <|
      .insert (by decide +kernel) (by decide +kernel) <| .keep _ <|
        .insert (by decide +kernel) (by decide +kernel) .nil
  have hpairs : ∀ pair ∈ extremePairs, IsWeight pair.1 ∧ IsScore pair.2 := by decide +kernel
  have hsingle : ∀ pair ∈ (leastWeight, 70) :: idlePairs, IsWeight pair.1 ∧ IsScore pair.2 := by
    decide +kernel
  have hfilter : (((leastWeight, 70) :: idlePairs).filter fun pair => zero.lt pair.1)
      = [(leastWeight, 70)] := by
    decide +kernel
  have hidle : ∀ pair ∈ idlePairs, IsWeight pair.1 ∧ IsScore pair.2 := by decide +kernel
  have hzeros : ∀ pair ∈ idlePairs, ¬zero.lt pair.1 := by decide +kernel
  have hnonzero : ¬(70 : Binary64).isZero := by decide +kernel
  exact ⟨⟨hmore, hpairs, hput _ _ hmore hpairs⟩,
    ⟨hsingle, hfilter, (honly _ _ _ hsingle hfilter).trans (if_neg hnonzero)⟩,
    hidle, hzeros, hnone _ hidle hzeros⟩

end RubricScore.Scoring
