import RubricScore.Binary64.Arithmetic
import RubricScore.Proofs.Binary64.Rounding

/-!
# Arithmetic of numbers that are not negative

Finite numbers from zero up are handled through their quanta: sums, products and quotients of such
numbers are the rounded sums, products and quotients of quanta, as long as these stay below the
limit. Zeros of both signs have no quanta, so their sign plays no part.

## Main definitions

* `HasQuanta`: the number is finite and the given number of quanta above zero.

## Main results

* `HasQuanta.add`, `HasQuanta.mul`, `HasQuanta.div`: the quanta of a result;
* `HasQuanta.min`, `HasQuanta.max`, `HasQuanta.lt_iff`, `HasQuanta.le_iff`: comparisons;
* `HasQuanta.eq_iff`: quanta and sign determine the number;
* `exists_hasQuanta_of_le`: a number between zero and a finite number has quanta.
-/

namespace RubricScore.Binary64

-- These numbers are far too large to be evaluated when two terms are compared.
attribute [local irreducible] twoPow one limit

/-- The number is finite and the given number of quanta above zero. -/
structure HasQuanta (x : Binary64) (quanta : Nat) : Prop where
  /-- Neither infinite nor a NaN. -/
  isFinite : x.isFinite
  /-- Where it stands on the number line. -/
  position : x.position = quanta

theorem finite_add_finite (s t : Bool) (a b : Magnitude) :
    finite s a + finite t b
      = ofQuanta (signed s a.quanta + signed t b.quanta) (s && t) :=
  rfl

theorem finite_mul_finite (s t : Bool) (a b : Magnitude) :
    finite s a * finite t b = ofRatio (s != t) (a.quanta * b.quanta) one :=
  rfl

theorem finite_div_finite (s t : Bool) (a b : Magnitude) :
    finite s a / finite t b
      = if b.quanta = 0 then if a.quanta = 0 then notANumber else .infinite (s != t)
        else ofRatio (s != t) (a.quanta * one) b.quanta :=
  rfl

namespace HasQuanta

variable {x y : Binary64} {m n : Nat}

/-- Such a number is a sign and a magnitude, and a minus sign stands before zero only. -/
theorem exists_finite (h : x.HasQuanta m) :
    ∃ negative magnitude, x = .finite negative magnitude ∧ magnitude.quanta = m
      ∧ (negative = true → m = 0) := by
  obtain ⟨hfinite, hposition⟩ := h
  cases x with
  | nan => exact absurd hfinite Bool.false_ne_true
  | infinite => exact absurd hfinite Bool.false_ne_true
  | finite negative magnitude =>
    refine ⟨negative, magnitude, rfl, ?_⟩
    cases negative <;> simp [Binary64.position, signed] at hposition ⊢ <;> omega

theorem finite {negative : Bool} {magnitude : Magnitude}
    (h : negative = true → magnitude.quanta = 0) :
    (Binary64.finite negative magnitude).HasQuanta magnitude.quanta := by
  refine ⟨rfl, ?_⟩
  cases negative with
  | false => rfl
  | true => simp [Binary64.position, signed, h rfl]

theorem isMagnitude (h : x.HasQuanta m) : IsMagnitude m := by
  obtain ⟨-, magnitude, -, rfl, -⟩ := h.exists_finite
  exact magnitude.fits

theorem lt_limit (h : x.HasQuanta m) : m < limit := by
  obtain ⟨-, magnitude, -, rfl, -⟩ := h.exists_finite
  exact magnitude.bounded

theorem unique (hm : x.HasQuanta m) (hn : x.HasQuanta n) : m = n :=
  Int.ofNat.inj (hm.position.symm.trans hn.position)

theorem isNumber (h : x.HasQuanta m) : x.isNumber := by
  obtain ⟨-, -, rfl, -⟩ := h.exists_finite
  rfl

/-! ## Comparisons -/

theorem lt_iff (hx : x.HasQuanta m) (hy : y.HasQuanta n) : x.lt y = true ↔ m < n := by
  simp only [Binary64.lt, hx.isNumber, hy.isNumber, hx.position, hy.position, Bool.true_and,
    decide_eq_true_eq, Int.ofNat_lt]

theorem le_iff (hx : x.HasQuanta m) (hy : y.HasQuanta n) : x.le y = true ↔ m ≤ n := by
  simp only [Binary64.le, hx.isNumber, hy.isNumber, hx.position, hy.position, Bool.true_and,
    decide_eq_true_eq, Int.ofNat_le]

theorem min (hx : x.HasQuanta m) (hy : y.HasQuanta n) : (x.min y).HasQuanta (Min.min m n) := by
  have hlt := hy.lt_iff hx
  simp only [Binary64.min, hx.isNumber, hy.isNumber, Bool.not_true, Bool.false_eq_true, if_false]
  split
  · next h => rwa [Nat.min_eq_right (Nat.le_of_lt (hlt.1 h))]
  · next h => rwa [Nat.min_eq_left (Nat.le_of_not_lt fun hn => h (hlt.2 hn))]

theorem max (hx : x.HasQuanta m) (hy : y.HasQuanta n) : (x.max y).HasQuanta (Max.max m n) := by
  have hlt := hx.lt_iff hy
  simp only [Binary64.max, hx.isNumber, hy.isNumber, Bool.not_true, Bool.false_eq_true, if_false]
  split
  · next h => rwa [Nat.max_eq_right (Nat.le_of_lt (hlt.1 h))]
  · next h => rwa [Nat.max_eq_left (Nat.le_of_not_lt fun hn => h (hlt.2 hn))]

/-! ## Operations -/

/-- A rounded quotient with a sign, the minus sign before zero only. -/
theorem ofRatio {negative : Bool} {num den : Nat} (h : nearest num den < limit)
    (hsign : negative = true → num = 0) :
    (Binary64.ofRatio negative num den).HasQuanta (nearest num den) := by
  rw [Binary64.ofRatio, dif_pos h]
  have hzero : negative = true → nearest num den = 0 := fun hnegative => by
    rw [hsign hnegative]
    simp [nearest, roundHalfEven]
  exact finite hzero

/-- The sum is the rounded sum of the quanta. -/
theorem add (hx : x.HasQuanta m) (hy : y.HasQuanta n) (h : nearest (m + n) 1 < limit) :
    (x + y).HasQuanta (nearest (m + n) 1) := by
  obtain ⟨s, a, rfl, rfl, hs⟩ := hx.exists_finite
  obtain ⟨t, b, rfl, rfl, ht⟩ := hy.exists_finite
  have ha : signed s a.quanta = a.quanta := hx.position
  have hb : signed t b.quanta = b.quanta := hy.position
  rw [finite_add_finite]
  have hsum : signed s a.quanta + signed t b.quanta = ((a.quanta + b.quanta : Nat) : Int) := by
    rw [ha, hb]
    exact (Int.natCast_add _ _).symm
  rw [hsum, ofQuanta, Int.natAbs_natCast]
  -- The sum is negative for a negative zero only.
  refine ofRatio h fun hnegative => ?_
  by_contra hne
  rw [if_neg (by omega)] at hnegative
  simp only [decide_eq_true_eq] at hnegative
  omega

/-- Of two such numbers with different signs one is a zero. -/
theorem signs_ne (hx : x.HasQuanta m) (hy : y.HasQuanta n)
    (h : (x.isNegative != y.isNegative) = true) : m = 0 ∨ n = 0 := by
  obtain ⟨s, a, rfl, rfl, hs⟩ := hx.exists_finite
  obtain ⟨t, b, rfl, rfl, ht⟩ := hy.exists_finite
  cases s with
  | true => exact .inl (hs rfl)
  | false =>
    cases t with
    | true => exact .inr (ht rfl)
    | false => exact absurd h Bool.false_ne_true

/-- The product is the rounded product of the quanta, in units. -/
theorem mul (hx : x.HasQuanta m) (hy : y.HasQuanta n) (h : nearest (m * n) one < limit) :
    (x * y).HasQuanta (nearest (m * n) one) := by
  have hsigns := signs_ne hx hy
  obtain ⟨s, a, rfl, rfl, -⟩ := hx.exists_finite
  obtain ⟨t, b, rfl, rfl, -⟩ := hy.exists_finite
  rw [finite_mul_finite]
  refine ofRatio h fun hnegative => ?_
  rcases hsigns hnegative with hzero | hzero
  · rw [hzero, Nat.zero_mul]
  · rw [hzero, Nat.mul_zero]

/-- The quotient is the rounded quotient of the quanta. -/
theorem div (hx : x.HasQuanta m) (hy : y.HasQuanta n) (hn : n ≠ 0)
    (h : nearest (m * one) n < limit) : (x / y).HasQuanta (nearest (m * one) n) := by
  have hsigns := signs_ne hx hy
  obtain ⟨s, a, rfl, rfl, -⟩ := hx.exists_finite
  obtain ⟨t, b, rfl, rfl, -⟩ := hy.exists_finite
  rw [finite_div_finite, if_neg hn]
  refine ofRatio h fun hnegative => ?_
  rcases hsigns hnegative with hzero | hzero
  · rw [hzero, Nat.zero_mul]
  · exact absurd hzero hn

end HasQuanta

/-! ## Numbers in units -/

theorem one_eq_twoPow : one = twoPow quantumPlaces := by
  unfold one
  rfl

theorem unit_pos : 0 < one := by
  rw [one_eq_twoPow]
  exact twoPow_pos _

/-- Up to `2 ^ precision` units make a magnitude. -/
theorem isMagnitude_mul_one {n : Nat} (h : n ≤ twoPow precision) : IsMagnitude (n * one) := by
  rw [one_eq_twoPow]
  exact isMagnitude_mul_twoPow h _

/-- A power of two of units is a magnitude, however great. -/
theorem isMagnitude_twoPow_mul_one (exponent : Nat) : IsMagnitude (twoPow exponent * one) := by
  rw [one_eq_twoPow, ← twoPow_add, ← Nat.one_mul (twoPow _)]
  exact isMagnitude_mul_twoPow (twoPow_pos precision) _

theorem isMagnitude_one : IsMagnitude one := by
  rw [← Nat.one_mul one]
  exact isMagnitude_mul_one (twoPow_pos precision)

theorem hasQuanta_zero : zero.HasQuanta 0 :=
  ⟨rfl, rfl⟩

/-- A natural number that does not overflow is rounded. -/
theorem hasQuanta_ofNat_nearest {n : Nat} (h : nearest (n * one) 1 < limit) :
    (ofNat n).HasQuanta (nearest (n * one) 1) :=
  HasQuanta.ofRatio h fun hfalse => absurd hfalse Bool.false_ne_true

/-- Up to `2 ^ precision` units are their own rounding. -/
theorem nearest_mul_one_of_le {n : Nat} (h : n ≤ twoPow precision) :
    nearest (n * one) 1 = n * one := by
  have hexact := nearest_mul_self (isMagnitude_mul_one h) Nat.one_pos
  rwa [Nat.mul_one] at hexact

/-- A natural number of at most 53 bits is exact. -/
theorem hasQuanta_ofNat {n : Nat} (h : n ≤ twoPow precision) : (ofNat n).HasQuanta (n * one) := by
  have hexact := nearest_mul_one_of_le h
  have hlt : n * one < limit := by
    refine Nat.lt_of_le_of_lt (Nat.mul_le_mul_right one h) ?_
    decide +kernel
  rw [← hexact]
  exact hasQuanta_ofNat_nearest (hexact.symm ▸ hlt)

/-- A word is rounded to at most `2 ^ 64`. -/
theorem nearest_word_le (n : UInt64) : nearest (n.toNat * one) 1 ≤ twoPow 64 * one := by
  have hlt : n.toNat < twoPow 64 := by
    unfold twoPow
    exact n.toNat_lt
  refine nearest_le Nat.one_pos (isMagnitude_twoPow_mul_one 64) ?_
  rw [Nat.mul_one]
  exact Nat.mul_le_mul_right one (Nat.le_of_lt hlt)

theorem hasQuanta_ofWord (n : UInt64) : (ofWord n).HasQuanta (nearest (n.toNat * one) 1) := by
  refine hasQuanta_ofNat_nearest (Nat.lt_of_le_of_lt (nearest_word_le n) ?_)
  decide +kernel

/-- A word that is not zero is rounded to at least one unit. -/
theorem one_le_nearest_word {n : UInt64} (hn : n ≠ 0) : one ≤ nearest (n.toNat * one) 1 := by
  have hpos : 0 < n.toNat := by
    rw [Nat.pos_iff_ne_zero]
    exact fun hzero => hn (UInt64.toNat_inj.1 hzero)
  refine le_nearest Nat.one_pos isMagnitude_one ?_
  rw [Nat.mul_one]
  exact Nat.le_mul_of_pos_left one hpos

/-! ## Signs -/

/-- Two numbers with the same sign are equal just when their quanta are. -/
theorem HasQuanta.eq_iff {x y : Binary64} {m n : Nat} (hx : x.HasQuanta m) (hy : y.HasQuanta n)
    (hsign : x.isNegative = y.isNegative) : x = y ↔ m = n := by
  constructor
  · rintro rfl
    exact hx.unique hy
  · rintro rfl
    obtain ⟨s, a, rfl, ha, -⟩ := hx.exists_finite
    obtain ⟨t, b, rfl, hb, -⟩ := hy.exists_finite
    have hmagnitude : a = b := by
      cases a
      cases b
      cases ha.trans hb.symm
      rfl
    rw [show s = t from hsign, hmagnitude]

theorem isNegative_ofRatio (negative : Bool) (num den : Nat) :
    (ofRatio negative num den).isNegative = negative := by
  unfold ofRatio
  split <;> rfl

theorem isNegative_ofNat (n : Nat) : (ofNat n).isNegative = false :=
  isNegative_ofRatio false (n * one) 1

section NotNegative

variable {x y : Binary64} (hx : x.isNegative = false) (hy : y.isNegative = false)

include hx hy

theorem isNegative_mul : (x * y).isNegative = false := by
  show (mul x y).isNegative = false
  cases x <;> cases y <;> simp only [isNegative] at hx hy <;> subst hx hy <;> simp only [mul]
  case finite.finite => exact isNegative_ofRatio _ _ _
  case infinite.finite => split <;> rfl
  case finite.infinite => split <;> rfl
  all_goals rfl

theorem isNegative_div : (x / y).isNegative = false := by
  show (div x y).isNegative = false
  cases x <;> cases y <;> simp only [isNegative] at hx hy <;> subst hx hy <;> simp only [div]
  case finite.finite =>
    split
    · split <;> rfl
    · exact isNegative_ofRatio _ _ _
  all_goals rfl

theorem isNegative_min : (x.min y).isNegative = false := by
  unfold Binary64.min
  split
  · exact hy
  · split
    · exact hx
    · split
      · exact hy
      · exact hx

end NotNegative

/-- A number between zero and a finite number has quanta, not more than that number. -/
theorem exists_hasQuanta_of_le {x y : Binary64} {n : Nat} (hy : y.HasQuanta n)
    (hzero : zero.le x) (hle : x.le y) : ∃ m, x.HasQuanta m ∧ m ≤ n := by
  simp only [le, Bool.and_eq_true, decide_eq_true_eq, hy.position] at hzero hle
  have hpos : 0 ≤ x.position := hzero.2
  have hlt := hy.lt_limit
  cases x with
  | nan => exact absurd hle.1.1 Bool.false_ne_true
  | infinite negative =>
    -- An infinity stands at the limit, which no finite number reaches.
    have hposition := hle.2
    have hlimit := limit_pos
    cases negative <;> simp [position, signed] at hposition hpos <;> omega
  | finite negative magnitude =>
    refine ⟨_, HasQuanta.finite fun hnegative => ?_, ?_⟩
    · subst hnegative
      simp only [position, signed, if_true] at hpos
      omega
    · have hposition := hle.2
      cases negative <;> simp [position, signed] at hposition hpos <;> omega

/-- A finite number that is not below zero has quanta. -/
theorem exists_hasQuanta_of_isFinite {x : Binary64} (hfinite : x.isFinite) (hzero : zero.le x) :
    ∃ m, x.HasQuanta m := by
  cases x with
  | nan => exact absurd hfinite Bool.false_ne_true
  | infinite => exact absurd hfinite Bool.false_ne_true
  | finite negative magnitude =>
    refine ⟨_, HasQuanta.finite fun hnegative => ?_⟩
    subst hnegative
    simp only [le, position, signed, Bool.and_eq_true, decide_eq_true_eq, if_true] at hzero
    have hpos : (0 : Int) ≤ -(magnitude.quanta : Int) := hzero.2
    omega

end RubricScore.Binary64
