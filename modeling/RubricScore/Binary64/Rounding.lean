/-!
# Rounding to 53 significant bits

Magnitudes of binary64 numbers are whole numbers of quanta, a quantum being `2 ^ (-1074)`. Which
whole numbers are magnitudes is said by `IsMagnitude`; `nearest` rounds an exact quotient to one.
Below `2 ^ precision` quanta every whole number is a magnitude, so numbers too small for full
precision need no rule of their own.
-/

namespace RubricScore.Binary64

/-- Number of significant bits. -/
def precision : Nat :=
  53

/-- A power of two. -/
def twoPow (exponent : Nat) : Nat :=
  Nat.pow 2 exponent

theorem twoPow_pos (exponent : Nat) : 0 < twoPow exponent :=
  Nat.two_pow_pos exponent

theorem twoPow_add (m n : Nat) : twoPow (m + n) = twoPow m * twoPow n :=
  Nat.pow_add 2 m n

theorem twoPow_dvd {m n : Nat} (h : m ≤ n) : twoPow m ∣ twoPow n :=
  Nat.pow_dvd_pow 2 h

theorem log2_twoPow (exponent : Nat) : (twoPow exponent).log2 = exponent :=
  Nat.log2_two_pow

theorem log2_lt_iff {n : Nat} (h : n ≠ 0) (exponent : Nat) :
    n.log2 < exponent ↔ n < twoPow exponent :=
  Nat.log2_lt h

/-- The whole number nearest to `num / den`, a tie going to the even one. -/
def roundHalfEven (num den : Nat) : Nat :=
  let quotient := num / den
  let twice := 2 * (num % den)
  if twice < den then quotient
  else if den < twice then quotient + 1
  -- A tie: the parity of the quotient takes it to the even neighbour.
  else quotient + quotient % 2

/-- Exponent of the distance between neighbouring magnitudes around `quanta`. -/
def spacing (quanta : Nat) : Nat :=
  quanta.log2 + 1 - precision

/-- A whole number of quanta that the significant bits can hold. -/
def IsMagnitude (quanta : Nat) : Prop :=
  twoPow (spacing quanta) ∣ quanta

instance (quanta : Nat) : Decidable (IsMagnitude quanta) :=
  inferInstanceAs (Decidable (_ ∣ _))

/-- Every finite magnitude is below this power of two. -/
def limitExponent : Nat :=
  2098

/-- First number of quanta above all finite magnitudes. -/
def limit : Nat :=
  twoPow limitExponent

theorem limit_pos : 0 < limit :=
  twoPow_pos limitExponent

/-- The magnitude nearest to `num / den`, a tie going to the one with an even significand. -/
def nearest (num den : Nat) : Nat :=
  let unit := twoPow (spacing (num / den))
  roundHalfEven num (den * unit) * unit

theorem roundHalfEven_le_succ (num den : Nat) : roundHalfEven num den ≤ num / den + 1 := by
  unfold roundHalfEven
  dsimp only
  have := Nat.mod_lt (num / den) (y := 2) (by decide)
  split
  · omega
  · split <;> omega

theorem spacing_eq_zero {quanta : Nat} (h : quanta < twoPow precision) : spacing quanta = 0 := by
  unfold spacing
  by_cases h0 : quanta = 0
  · subst h0
    rfl
  · have := (log2_lt_iff h0 precision).2 h
    omega

theorem lt_twoPow_spacing (quanta : Nat) : quanta < twoPow (precision + spacing quanta) := by
  by_cases h0 : quanta = 0
  · subst h0
    exact twoPow_pos _
  · refine (log2_lt_iff h0 _).1 ?_
    unfold spacing
    omega

theorem isMagnitude_of_lt {quanta : Nat} (h : quanta < twoPow precision) : IsMagnitude quanta := by
  unfold IsMagnitude
  rw [spacing_eq_zero h]
  exact Nat.one_dvd _

/-- Up to `2 ^ precision` units of a power of two make a magnitude. -/
theorem isMagnitude_mul_twoPow {significand : Nat} (h : significand ≤ twoPow precision) (k : Nat) :
    IsMagnitude (significand * twoPow k) := by
  unfold IsMagnitude
  by_cases h0 : significand = 0
  · subst h0
    rw [Nat.zero_mul]
    exact Nat.dvd_zero _
  by_cases htop : significand = twoPow precision
  · subst htop
    -- The full power of two has a bit more than fits, but it is the only one that is set.
    rw [← twoPow_add]
    refine twoPow_dvd ?_
    unfold spacing
    rw [log2_twoPow]
    unfold precision
    omega
  -- Any other significand fits, so the spacing of the product is at most `k`.
  · have hne : significand * twoPow k ≠ 0 :=
      Nat.mul_ne_zero h0 (Nat.pos_iff_ne_zero.1 (twoPow_pos k))
    have hlt : significand * twoPow k < twoPow (precision + k) := by
      rw [twoPow_add]
      exact Nat.mul_lt_mul_of_pos_right (Nat.lt_of_le_of_ne h htop) (twoPow_pos k)
    have := (log2_lt_iff hne _).2 hlt
    refine Nat.dvd_trans (twoPow_dvd ?_) (Nat.dvd_mul_left _ _)
    unfold spacing
    omega

theorem isMagnitude_nearest (num den : Nat) : IsMagnitude (nearest num den) := by
  unfold nearest
  dsimp only
  apply isMagnitude_mul_twoPow
  refine Nat.le_trans (roundHalfEven_le_succ _ _) ?_
  rw [← Nat.div_div_eq_div_mul]
  -- In units of the spacing the quotient is below the full power of two, which it may reach.
  have hq := lt_twoPow_spacing (num / den)
  rw [twoPow_add, Nat.mul_comm] at hq
  have := Nat.div_lt_of_lt_mul hq
  omega

end RubricScore.Binary64
