import RubricScore.Proofs.Binary64.Arithmetic

/-!
# Zeros and units in arithmetic

A zero of either sign that is added to a number leaves it as it is, to the sign, unless the number is
the negative zero; and no sum that begins with another number is the negative zero. Products and
quotients of zeros are zeros, and one unit is neutral.

## Main results

* `isZero_iff`: the zeros are the numbers of no quanta;
* `add_eq_left`, `zero_add_eq`, `add_ne_negativeZero`: sums with zeros;
* `isZero_mul`, `isZero_div`: products and quotients with zeros;
* `div_self_eq`, `mul_one_eq`, `div_one_eq`: products and quotients with units.
-/

namespace RubricScore.Binary64

attribute [local irreducible] twoPow one limit

/-- Zero with a minus sign. -/
def negativeZero : Binary64 :=
  .finite true zeroMagnitude

theorem exists_finite_of_isFinite {x : Binary64} (h : x.isFinite) :
    ∃ negative magnitude, x = finite negative magnitude := by
  cases x with
  | nan => exact absurd h Bool.false_ne_true
  | infinite => exact absurd h Bool.false_ne_true
  | finite negative magnitude => exact ⟨negative, magnitude, rfl⟩

/-- The zeros of both signs are the numbers of no quanta. -/
theorem isZero_iff {x : Binary64} : x.isZero ↔ x.HasQuanta 0 := by
  constructor
  · intro h
    cases x with
    | nan => exact absurd h Bool.false_ne_true
    | infinite => exact absurd h Bool.false_ne_true
    | finite negative magnitude =>
      have hquanta : magnitude.quanta = 0 := beq_iff_eq.1 h
      exact hquanta ▸ HasQuanta.finite fun _ => hquanta
  · intro h
    obtain ⟨-, magnitude, rfl, hquanta, -⟩ := h.exists_finite
    exact beq_iff_eq.2 hquanta

theorem eq_zeroMagnitude {magnitude : Magnitude} (h : magnitude.quanta = 0) :
    magnitude = zeroMagnitude := by
  cases magnitude
  cases h
  rfl

theorem eq_negativeZero {negative : Bool} {magnitude : Magnitude} (hquanta : magnitude.quanta = 0)
    (hnegative : negative = true) : finite negative magnitude = negativeZero := by
  rw [eq_zeroMagnitude hquanta, hnegative]
  rfl

/-! ## Sums -/

/-- The number of a quotient that is exactly a magnitude. -/
theorem ofRatio_of_eq {negative : Bool} {magnitude : Magnitude} {num den : Nat} (hden : 0 < den)
    (h : num = magnitude.quanta * den) : ofRatio negative num den = finite negative magnitude := by
  have hexact : nearest num den = magnitude.quanta := h ▸ nearest_mul_self magnitude.fits hden
  unfold ofRatio
  simp only [hexact, magnitude.bounded, dite_true]

/-- The number of the quanta of a magnitude; the sign given for a zero has to be that of the number. -/
theorem ofQuanta_signed {negative negativeZero : Bool} {magnitude : Magnitude}
    (h : magnitude.quanta = 0 → negativeZero = negative) :
    ofQuanta (signed negative magnitude.quanta) negativeZero = finite negative magnitude := by
  have hquanta : (signed negative magnitude.quanta).natAbs = magnitude.quanta * 1 := by
    cases negative <;> simp [signed]
  have hsign : (if signed negative magnitude.quanta = 0 then negativeZero
      else decide (signed negative magnitude.quanta < 0)) = negative := by
    split
    · next hzero => exact h (by cases negative <;> simpa [signed] using hzero)
    · next hne =>
      cases negative with
      | false => exact decide_eq_false fun hlt => absurd hlt (Int.not_lt.2 (Int.natCast_nonneg _))
      | true =>
        simp only [signed, if_true] at hne ⊢
        exact decide_eq_true (by omega)
  rw [ofQuanta, hsign]
  exact ofRatio_of_eq Nat.one_pos hquanta

/-- A number other than the negative zero is that of its quanta, without the sign of a zero. -/
theorem ofQuanta_of_ne {negative negativeZero : Bool} {magnitude : Magnitude}
    (h : finite negative magnitude ≠ Binary64.negativeZero)
    (hsign : negative = false → negativeZero = false) :
    ofQuanta (signed negative magnitude.quanta) negativeZero = finite negative magnitude := by
  refine ofQuanta_signed fun hquanta => ?_
  cases negative with
  | false => exact hsign rfl
  | true => exact absurd (eq_negativeZero hquanta rfl) h

/-- A zero that is added to a number other than the negative zero leaves it as it is. -/
theorem add_eq_left {x y : Binary64} (hx : x ≠ negativeZero) (hy : y.isZero) : x + y = x := by
  obtain ⟨t, b, rfl, hb, -⟩ := (isZero_iff.1 hy).exists_finite
  cases x with
  | nan => rfl
  | infinite => rfl
  | finite s a =>
    have hzero : signed t b.quanta = 0 := by
      rw [hb]
      cases t <;> rfl
    rw [finite_add_finite, hzero, Int.add_zero]
    exact ofQuanta_of_ne hx fun hs => by rw [hs, Bool.false_and]

/-- A finite number other than the negative zero that is added to zero stays as it is. -/
theorem zero_add_eq {x : Binary64} (hfinite : x.isFinite) (hx : x ≠ negativeZero) :
    zero + x = x := by
  obtain ⟨s, a, rfl⟩ := exists_finite_of_isFinite hfinite
  show finite false zeroMagnitude + finite s a = finite s a
  have hzero : signed false zeroMagnitude.quanta = 0 := rfl
  rw [finite_add_finite, hzero, Int.zero_add]
  exact ofQuanta_of_ne hx fun _ => Bool.false_and s

/-- A sum is the negative zero only if both of its sides are. -/
theorem add_ne_negativeZero {x : Binary64} (hx : x ≠ negativeZero) (y : Binary64) :
    x + y ≠ negativeZero := by
  intro h
  cases x <;> cases y
  case finite.finite s a t b =>
    rw [finite_add_finite, ofQuanta, ofRatio] at h
    split at h
    · obtain ⟨hsign, hmagnitude⟩ := finite.inj h
      -- Nothing but zero is rounded to zero, so the exact sum is zero.
      have hsum : signed s a.quanta + signed t b.quanta = 0 := by
        by_contra hne
        have hpos : 1 ≤ nearest (signed s a.quanta + signed t b.quanta).natAbs 1 :=
          le_nearest Nat.one_pos (isMagnitude_of_lt (by decide +kernel)) (by omega)
        have hnearest : nearest (signed s a.quanta + signed t b.quanta).natAbs 1 = 0 :=
          congrArg Magnitude.quanta hmagnitude
        omega
      rw [if_pos hsum, Bool.and_eq_true] at hsign
      obtain ⟨rfl, rfl⟩ := hsign
      simp only [signed, if_true] at hsum
      exact hx (eq_negativeZero (by omega) rfl)
    · cases h
  case infinite.infinite s t =>
    cases s <;> cases t <;> cases h
  all_goals cases h

/-! ## Products and quotients -/

theorem isZero_ofRatio (negative : Bool) {den : Nat} (hden : 0 < den) :
    (ofRatio negative 0 den).isZero := by
  have hzero : ofRatio negative 0 den = finite negative zeroMagnitude :=
    ofRatio_of_eq hden (Nat.zero_mul den).symm
  rw [hzero]
  rfl

/-- The product of a finite number and a zero is a zero. -/
theorem isZero_mul {x y : Binary64} (hx : x.isFinite) (hy : y.isZero) : (x * y).isZero := by
  obtain ⟨s, a, rfl⟩ := exists_finite_of_isFinite hx
  obtain ⟨t, b, rfl, hb, -⟩ := (isZero_iff.1 hy).exists_finite
  rw [finite_mul_finite, hb, Nat.mul_zero]
  exact isZero_ofRatio _ unit_pos

/-- A zero divided by a positive number is a zero. -/
theorem isZero_div {x y : Binary64} {n : Nat} (hx : x.isZero) (hy : y.HasQuanta n) (hn : 0 < n) :
    (x / y).isZero := by
  obtain ⟨s, a, rfl, ha, -⟩ := (isZero_iff.1 hx).exists_finite
  obtain ⟨t, b, rfl, rfl, -⟩ := hy.exists_finite
  rw [finite_div_finite, if_neg (Nat.ne_of_gt hn), ha, Nat.zero_mul]
  exact isZero_ofRatio _ hn

/-- One unit as a magnitude. -/
def oneMagnitude : Magnitude :=
  ⟨one, isMagnitude_one, by decide +kernel⟩

theorem one_eq_finite : (1 : Binary64) = finite false oneMagnitude :=
  ofRatio_of_eq Nat.one_pos (by rw [Nat.one_mul, Nat.mul_one]; rfl)

theorem div_self_eq {x : Binary64} {n : Nat} (hx : x.HasQuanta n) (hn : 0 < n) : x / x = 1 := by
  obtain ⟨s, a, rfl, rfl, -⟩ := hx.exists_finite
  rw [finite_div_finite, if_neg (Nat.ne_of_gt hn), bne_self_eq_false, one_eq_finite]
  exact ofRatio_of_eq hn (Nat.mul_comm a.quanta one)

theorem mul_one_eq {x : Binary64} (hx : x.isFinite) : x * 1 = x := by
  obtain ⟨s, a, rfl⟩ := exists_finite_of_isFinite hx
  rw [one_eq_finite, finite_mul_finite, Bool.bne_false]
  exact ofRatio_of_eq unit_pos rfl

theorem div_one_eq {x : Binary64} (hx : x.isFinite) : x / 1 = x := by
  obtain ⟨s, a, rfl⟩ := exists_finite_of_isFinite hx
  have hunit : oneMagnitude.quanta ≠ 0 := Nat.ne_of_gt unit_pos
  rw [one_eq_finite, finite_div_finite, if_neg hunit, Bool.bne_false]
  exact ofRatio_of_eq unit_pos rfl

end RubricScore.Binary64
