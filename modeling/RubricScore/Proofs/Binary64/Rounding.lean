import Mathlib.Tactic.Linarith
import Mathlib.Tactic.Ring
import RubricScore.Binary64.Rounding

/-!
# Laws of rounding

`nearest` is determined by the quotient alone, keeps the order of quotients, and leaves magnitudes
as they are. Together these bound every rounded result from a bound on the exact one.

## Main results

* `nearest_mono`: a greater quotient is not rounded to a smaller magnitude;
* `nearest_mul_self`: a magnitude is its own rounding;
* `nearest_le` and `le_nearest`: a bound that is a magnitude survives rounding;
* `nearest_twoPow_mul`: rounding a whole number commutes with a power of two;
* `lt_nearest_iff`: a quotient is rounded above a magnitude with an even significand just when it is
  more than half a spacing above it.
-/

namespace RubricScore.Binary64

/-! ## Nearest whole number -/

/-- The rounded quotient is at most half a unit below the exact one, and a tie is even. -/
theorem two_mul_le_roundHalfEven (num : Nat) {den : Nat} (hden : 0 < den) :
    2 * num < (2 * roundHalfEven num den + 1) * den ∨
      2 * num = (2 * roundHalfEven num den + 1) * den ∧ roundHalfEven num den % 2 = 0 := by
  have hsum := Nat.div_add_mod num den
  have hmod := Nat.mod_lt num hden
  unfold roundHalfEven
  dsimp only
  by_cases hlow : 2 * (num % den) < den
  · rw [if_pos hlow]
    left
    linarith
  · rw [if_neg hlow]
    by_cases hhigh : den < 2 * (num % den)
    · rw [if_pos hhigh]
      left
      linarith
    · -- A tie goes down when the quotient is even, and up by a whole unit when it is odd.
      rw [if_neg hhigh]
      rcases Nat.mod_two_eq_zero_or_one (num / den) with hpar | hpar
      · right
        rw [hpar]
        exact ⟨by linarith, hpar⟩
      · left
        rw [hpar]
        linarith

/-- The rounded quotient is at most half a unit above the exact one, and a tie is even. -/
theorem roundHalfEven_le_two_mul (num : Nat) {den : Nat} (hden : 0 < den) :
    2 * roundHalfEven num den * den < 2 * num + den ∨
      2 * roundHalfEven num den * den = 2 * num + den ∧ roundHalfEven num den % 2 = 0 := by
  have hsum := Nat.div_add_mod num den
  have hmod := Nat.mod_lt num hden
  unfold roundHalfEven
  dsimp only
  by_cases hlow : 2 * (num % den) < den
  · rw [if_pos hlow]
    left
    have : 2 * (num / den) * den = 2 * (den * (num / den)) := by ring
    omega
  · rw [if_neg hlow]
    by_cases hhigh : den < 2 * (num % den)
    · rw [if_pos hhigh]
      left
      linarith
    · -- At a tie only an odd quotient is rounded up.
      rw [if_neg hhigh]
      rcases Nat.mod_two_eq_zero_or_one (num / den) with hpar | hpar
      · left
        rw [hpar]
        linarith
      · right
        rw [hpar]
        exact ⟨by linarith, by omega⟩

/-- A greater quotient is not rounded to a smaller whole number. -/
theorem roundHalfEven_mono {a b c d : Nat} (hb : 0 < b) (hd : 0 < d) (h : a * d ≤ c * b) :
    roundHalfEven a b ≤ roundHalfEven c d := by
  by_contra hlt
  -- All comparisons are made after multiplication by both denominators.
  have hscaled : (roundHalfEven c d + 1) * (b * d) ≤ roundHalfEven a b * (b * d) :=
    Nat.mul_le_mul_right _ (by omega)
  have hsucc : (roundHalfEven c d + 1) * (b * d) = roundHalfEven c d * (b * d) + b * d := by ring
  have hup : 2 * roundHalfEven a b * b * d = 2 * (roundHalfEven a b * (b * d)) := by ring
  have hupper : (2 * a + b) * d = 2 * (a * d) + b * d := by ring
  have hdown : 2 * c * b = 2 * (c * b) := by ring
  have hlower : (2 * roundHalfEven c d + 1) * d * b
      = 2 * (roundHalfEven c d * (b * d)) + b * d := by ring
  -- Both quotients would have to be the tie between the two results, and ties are even.
  rcases roundHalfEven_le_two_mul a hb with hstrict | ⟨htie, heven⟩
  · have hstrict := Nat.mul_lt_mul_of_pos_right hstrict hd
    have hbound : 2 * c * b ≤ (2 * roundHalfEven c d + 1) * d * b := by
      refine Nat.mul_le_mul_right b ?_
      rcases two_mul_le_roundHalfEven c hd with hbound | hbound <;> omega
    omega
  · have htie : 2 * roundHalfEven a b * b * d = (2 * a + b) * d := by rw [htie]
    rcases two_mul_le_roundHalfEven c hd with hstrict | ⟨hbound, heven'⟩
    · have hstrict := Nat.mul_lt_mul_of_pos_right hstrict hb
      omega
    · have hbound : 2 * c * b = (2 * roundHalfEven c d + 1) * d * b := by rw [hbound]
      have heq : roundHalfEven a b * (b * d) = (roundHalfEven c d + 1) * (b * d) := by omega
      have := Nat.eq_of_mul_eq_mul_right (Nat.mul_pos hb hd) heq
      omega

/-- A whole number is its own rounding. -/
theorem roundHalfEven_mul_self (n : Nat) {den : Nat} (hden : 0 < den) :
    roundHalfEven (n * den) den = n := by
  unfold roundHalfEven
  dsimp only
  rw [Nat.mul_mod_left, Nat.mul_div_cancel _ hden, if_pos (by omega)]

/-! ## Spacing -/

theorem spacing_mono {m n : Nat} (h : m ≤ n) : spacing m ≤ spacing n := by
  by_cases hm : m = 0
  · subst hm
    exact Nat.zero_le _
  · have hlog : m.log2 ≤ n.log2 := by
      refine (Nat.le_log2 (by omega)).2 (Nat.le_trans ?_ h)
      exact Nat.log2_self_le hm
    unfold spacing
    omega

/-- A number with a coarser spacing than one fills all significant bits. -/
theorem twoPow_le_of_spacing_pos {quanta : Nat} (h : 0 < spacing quanta) :
    twoPow (precision - 1 + spacing quanta) ≤ quanta := by
  have h0 : quanta ≠ 0 := by
    rintro rfl
    exact absurd h (by decide)
  refine Nat.le_of_not_lt fun hlt => ?_
  have := (log2_lt_iff h0 _).2 hlt
  unfold spacing precision at *
  omega

theorem spacing_eq_of_le_of_lt {quanta other : Nat} (hle : quanta ≤ other)
    (hlt : other < twoPow (precision + spacing quanta)) : spacing other = spacing quanta := by
  refine Nat.le_antisymm ?_ (spacing_mono hle)
  by_cases h0 : other = 0
  · subst h0
    exact Nat.zero_le _
  · have hlog := (log2_lt_iff h0 _).2 hlt
    unfold spacing precision at *
    omega

/-! ## Nearest magnitude -/

theorem den_mul_twoPow_pos {den : Nat} (hden : 0 < den) (exponent : Nat) :
    0 < den * twoPow exponent :=
  Nat.mul_pos hden (twoPow_pos exponent)

/-- A greater quotient is not rounded to a smaller magnitude. -/
theorem nearest_mono {a b c d : Nat} (hb : 0 < b) (hd : 0 < d) (h : a * d ≤ c * b) :
    nearest a b ≤ nearest c d := by
  have hdiv : a / b ≤ c / d := by
    rw [Nat.le_div_iff_mul_le hd]
    have := Nat.div_mul_le_self a b
    refine Nat.le_of_mul_le_mul_right ?_ hb
    calc a / b * d * b = a / b * b * d := by ring
      _ ≤ a * d := Nat.mul_le_mul_right d this
      _ ≤ c * b := h
  unfold nearest
  dsimp only
  rcases Nat.eq_or_lt_of_le (spacing_mono hdiv) with heq | hlt
  · -- With one spacing for both, the whole numbers are compared.
    rw [heq]
    refine Nat.mul_le_mul_right _ (roundHalfEven_mono (den_mul_twoPow_pos hb _)
      (den_mul_twoPow_pos hd _) ?_)
    calc a * (d * twoPow (spacing (c / d))) = a * d * twoPow (spacing (c / d)) := by ring
      _ ≤ c * b * twoPow (spacing (c / d)) := Nat.mul_le_mul_right _ h
      _ = c * (b * twoPow (spacing (c / d))) := by ring
  · -- A power of two lies between the two results when the spacing changes.
    have hlow : roundHalfEven a (b * twoPow (spacing (a / b))) ≤ twoPow precision := by
      refine Nat.le_trans (roundHalfEven_le_succ _ _) ?_
      rw [← Nat.div_div_eq_div_mul]
      have hq := lt_twoPow_spacing (a / b)
      rw [twoPow_add, Nat.mul_comm] at hq
      have := Nat.div_lt_of_lt_mul hq
      omega
    have hhigh : twoPow (precision - 1)
        ≤ roundHalfEven c (d * twoPow (spacing (c / d))) := by
      rw [← roundHalfEven_mul_self (twoPow (precision - 1))
        (den_mul_twoPow_pos hd (spacing (c / d)))]
      refine roundHalfEven_mono (den_mul_twoPow_pos hd _) (den_mul_twoPow_pos hd _)
        (Nat.mul_le_mul_right _ ?_)
      have hfull : twoPow (precision - 1 + spacing (c / d)) ≤ c / d :=
        twoPow_le_of_spacing_pos (by omega)
      rw [Nat.le_div_iff_mul_le hd, twoPow_add] at hfull
      calc twoPow (precision - 1) * (d * twoPow (spacing (c / d)))
          = twoPow (precision - 1) * twoPow (spacing (c / d)) * d := by ring
        _ ≤ c := hfull
    calc roundHalfEven a (b * twoPow (spacing (a / b))) * twoPow (spacing (a / b))
        ≤ twoPow precision * twoPow (spacing (a / b)) := Nat.mul_le_mul_right _ hlow
      _ = twoPow (precision + spacing (a / b)) := (twoPow_add _ _).symm
      _ ≤ twoPow (precision - 1 + spacing (c / d)) :=
          Nat.le_of_dvd (twoPow_pos _) (twoPow_dvd (by unfold precision; omega))
      _ = twoPow (precision - 1) * twoPow (spacing (c / d)) := twoPow_add _ _
      _ ≤ _ := Nat.mul_le_mul_right _ hhigh

/-- Rounding depends on the quotient only. -/
theorem nearest_congr {a b c d : Nat} (hb : 0 < b) (hd : 0 < d) (h : a * d = c * b) :
    nearest a b = nearest c d :=
  Nat.le_antisymm (nearest_mono hb hd (Nat.le_of_eq h)) (nearest_mono hd hb (Nat.le_of_eq h.symm))

/-- A magnitude is its own rounding. -/
theorem nearest_mul_self {quanta den : Nat} (h : IsMagnitude quanta) (hden : 0 < den) :
    nearest (quanta * den) den = quanta := by
  obtain ⟨significand, hsig⟩ := h
  unfold nearest
  dsimp only
  rw [Nat.mul_div_cancel _ hden]
  have hprod : quanta * den = significand * (den * twoPow (spacing quanta)) := by
    calc quanta * den = twoPow (spacing quanta) * significand * den := by rw [← hsig]
      _ = significand * (den * twoPow (spacing quanta)) := by ring
  rw [hprod, roundHalfEven_mul_self _ (den_mul_twoPow_pos hden _), Nat.mul_comm, ← hsig]

/-- A quotient that is at most a magnitude is rounded to at most that magnitude. -/
theorem nearest_le {num den quanta : Nat} (hden : 0 < den) (hmag : IsMagnitude quanta)
    (h : num ≤ quanta * den) : nearest num den ≤ quanta := by
  rw [← nearest_mul_self hmag hden]
  exact nearest_mono hden hden (Nat.mul_le_mul_right den h)

/-- A quotient that is at least a magnitude is rounded to at least that magnitude. -/
theorem le_nearest {num den quanta : Nat} (hden : 0 < den) (hmag : IsMagnitude quanta)
    (h : quanta * den ≤ num) : quanta ≤ nearest num den := by
  rw [← nearest_mul_self hmag hden]
  exact nearest_mono hden hden (Nat.mul_le_mul_right den h)

/-! ## Powers of two and half spacings -/

/-- The significand of a number fits the precision. -/
theorem significand_lt {quanta significand : Nat}
    (h : quanta = twoPow (spacing quanta) * significand) : significand < twoPow precision := by
  have hlt := lt_twoPow_spacing quanta
  rw [twoPow_add, Nat.mul_comm] at hlt
  refine Nat.lt_of_mul_lt_mul_left (a := twoPow (spacing quanta)) ?_
  rw [← h]
  exact hlt

/-- One spacing further the significand grows by one. -/
theorem add_twoPow_spacing {quanta significand : Nat}
    (h : quanta = twoPow (spacing quanta) * significand) :
    quanta + twoPow (spacing quanta) = (significand + 1) * twoPow (spacing quanta) := by
  calc quanta + twoPow (spacing quanta)
      = twoPow (spacing quanta) * significand + twoPow (spacing quanta) := by rw [← h]
    _ = (significand + 1) * twoPow (spacing quanta) := by ring

/-- A magnitude times a power of two is a magnitude. -/
theorem IsMagnitude.mul_twoPow {quanta : Nat} (h : IsMagnitude quanta) (exponent : Nat) :
    IsMagnitude (quanta * twoPow exponent) := by
  obtain ⟨significand, hsig⟩ := h
  have heq : quanta * twoPow exponent = significand * twoPow (spacing quanta + exponent) := by
    calc quanta * twoPow exponent
        = twoPow (spacing quanta) * significand * twoPow exponent := by rw [← hsig]
      _ = significand * twoPow (spacing quanta + exponent) := by
          rw [twoPow_add]
          ring
  rw [heq]
  exact isMagnitude_mul_twoPow (Nat.le_of_lt (significand_lt hsig)) _

/-- The magnitude after a magnitude, unless the spacing grows there; then it is a magnitude all
the same. -/
theorem IsMagnitude.next {quanta : Nat} (h : IsMagnitude quanta) :
    IsMagnitude (quanta + twoPow (spacing quanta)) := by
  obtain ⟨significand, hsig⟩ := h
  rw [add_twoPow_spacing hsig]
  exact isMagnitude_mul_twoPow (significand_lt hsig) _

theorem log2_mul_twoPow {n : Nat} (hn : n ≠ 0) (exponent : Nat) :
    (n * twoPow exponent).log2 = n.log2 + exponent := by
  have hne : n * twoPow exponent ≠ 0 := Nat.mul_ne_zero hn (Nat.ne_of_gt (twoPow_pos _))
  refine Nat.le_antisymm (Nat.le_of_lt_succ ((log2_lt_iff hne _).2 ?_)) ((Nat.le_log2 hne).2 ?_)
  · have hlt := (log2_lt_iff hn (n.log2 + 1)).1 (Nat.lt_succ_self _)
    calc n * twoPow exponent < twoPow (n.log2 + 1) * twoPow exponent :=
          Nat.mul_lt_mul_of_pos_right hlt (twoPow_pos _)
      _ = twoPow (n.log2 + exponent + 1) := by
          rw [← twoPow_add]
          congr 1
          omega
  · refine Nat.le_trans (Nat.le_of_eq (twoPow_add n.log2 exponent)) ?_
    exact Nat.mul_le_mul_right _ (Nat.log2_self_le hn)

/-- Rounding a whole number of quanta commutes with a power of two. -/
theorem nearest_twoPow_mul (n exponent : Nat) :
    nearest (n * twoPow exponent) 1 = nearest n 1 * twoPow exponent := by
  by_cases hsmall : n < twoPow precision
  · -- A small number and its multiple are both exact.
    have hmag := isMagnitude_of_lt hsmall
    have h1 := nearest_mul_self hmag Nat.one_pos
    have h2 := nearest_mul_self (hmag.mul_twoPow exponent) Nat.one_pos
    rw [Nat.mul_one] at h1 h2
    rw [h1, h2]
  · -- For a large one the spacing grows by the exponent, and the quotient stays the same.
    have hn : n ≠ 0 := by
      rintro rfl
      exact hsmall (twoPow_pos _)
    have hlog := log2_mul_twoPow hn exponent
    have hbig : precision ≤ n.log2 := by
      by_contra hlt
      exact hsmall ((log2_lt_iff hn _).1 (by omega))
    have hspacing : spacing (n * twoPow exponent) = spacing n + exponent := by
      unfold spacing
      rw [hlog]
      omega
    unfold nearest
    dsimp only
    rw [Nat.div_one, Nat.div_one, hspacing, twoPow_add, Nat.one_mul, Nat.one_mul, ← Nat.mul_assoc]
    congr 2
    have hpos := Nat.mul_pos (twoPow_pos (spacing n)) (twoPow_pos exponent)
    refine Nat.le_antisymm (roundHalfEven_mono hpos (twoPow_pos _) ?_)
      (roundHalfEven_mono (twoPow_pos _) hpos ?_)
    · exact Nat.le_of_eq (by ring)
    · exact Nat.le_of_eq (by ring)

/-- A quotient more than half a spacing above a magnitude is rounded above it. -/
theorem lt_nearest_of_half {num den quanta : Nat} (hden : 0 < den) (hmag : IsMagnitude quanta)
    (h : (2 * quanta + twoPow (spacing quanta)) * den < 2 * num) :
    quanta + twoPow (spacing quanta) ≤ nearest num den := by
  obtain ⟨significand, hsig⟩ := hmag
  by_cases hfar : (quanta + twoPow (spacing quanta)) * den ≤ num
  · exact le_nearest hden (IsMagnitude.next ⟨significand, hsig⟩) hfar
  · -- Up to the next magnitude the spacing is that of the quanta, so significands can be compared.
    have hnear : num < (quanta + twoPow (spacing quanta)) * den := by omega
    have hspacing : spacing (num / den) = spacing quanta := by
      refine spacing_eq_of_le_of_lt ?_ ?_
      · rw [Nat.le_div_iff_mul_le hden]
        have hexpand : (2 * quanta + twoPow (spacing quanta)) * den
            = 2 * (quanta * den) + twoPow (spacing quanta) * den := by ring
        omega
      · refine Nat.lt_of_lt_of_le (Nat.div_lt_of_lt_mul (Nat.mul_comm _ den ▸ hnear)) ?_
        rw [add_twoPow_spacing hsig, twoPow_add]
        exact Nat.mul_le_mul_right _ (significand_lt hsig)
    unfold nearest
    dsimp only
    rw [hspacing]
    have hgt : significand < roundHalfEven num (den * twoPow (spacing quanta)) := by
      have hbound : 2 * num
          ≤ (2 * roundHalfEven num (den * twoPow (spacing quanta)) + 1)
            * (den * twoPow (spacing quanta)) := by
        rcases two_mul_le_roundHalfEven num (den_mul_twoPow_pos hden (spacing quanta)) with
          hbound | ⟨hbound, -⟩ <;> omega
      have hscaled : (2 * quanta + twoPow (spacing quanta)) * den
          = (2 * significand + 1) * (den * twoPow (spacing quanta)) := by
        calc (2 * quanta + twoPow (spacing quanta)) * den
            = (2 * (twoPow (spacing quanta) * significand) + twoPow (spacing quanta)) * den := by
              rw [← hsig]
          _ = (2 * significand + 1) * (den * twoPow (spacing quanta)) := by ring
      rw [hscaled] at h
      have := Nat.lt_of_mul_lt_mul_right (Nat.lt_of_lt_of_le h hbound)
      omega
    rw [add_twoPow_spacing hsig]
    exact Nat.mul_le_mul_right _ hgt

/-- Half a spacing above a magnitude with an even significand, rounding falls back to it. -/
theorem nearest_half {quanta : Nat} (h : 2 * twoPow (spacing quanta) ∣ quanta) :
    nearest (2 * quanta + twoPow (spacing quanta)) 2 = quanta := by
  obtain ⟨half, heven⟩ := h
  have hunit := twoPow_pos (spacing quanta)
  have hsig : quanta = twoPow (spacing quanta) * (2 * half) := by
    rw [← Nat.mul_assoc, Nat.mul_comm _ 2]
    exact heven
  have hspacing : spacing ((2 * quanta + twoPow (spacing quanta)) / 2) = spacing quanta := by
    refine spacing_eq_of_le_of_lt (by omega) ?_
    calc (2 * quanta + twoPow (spacing quanta)) / 2
        < quanta + twoPow (spacing quanta) := by omega
      _ = (2 * half + 1) * twoPow (spacing quanta) := add_twoPow_spacing hsig
      _ ≤ twoPow precision * twoPow (spacing quanta) :=
          Nat.mul_le_mul_right _ (significand_lt hsig)
      _ = twoPow (precision + spacing quanta) := (twoPow_add _ _).symm
  -- The remainder is just half of the divisor, and the quotient is even.
  have hround : roundHalfEven (2 * quanta + twoPow (spacing quanta)) (2 * twoPow (spacing quanta))
      = 2 * half := by
    have hnum : 2 * quanta + twoPow (spacing quanta)
        = twoPow (spacing quanta) + 2 * twoPow (spacing quanta) * (2 * half) := by
      have : 2 * twoPow (spacing quanta) * (2 * half)
          = 2 * (2 * twoPow (spacing quanta) * half) := by ring
      rw [this, ← heven]
      omega
    unfold roundHalfEven
    dsimp only
    rw [hnum, Nat.add_mul_mod_self_left, Nat.add_mul_div_left _ _ (by omega),
      Nat.mod_eq_of_lt (by omega), Nat.div_eq_of_lt (by omega), if_neg (by omega),
      if_neg (by omega)]
    omega
  unfold nearest
  dsimp only
  rw [hspacing, hround, Nat.mul_comm]
  exact hsig.symm

/-- A quotient is rounded above a magnitude with an even significand just when it is more than half a
spacing above it. -/
theorem lt_nearest_iff {num den quanta : Nat} (hden : 0 < den)
    (h : 2 * twoPow (spacing quanta) ∣ quanta) :
    quanta < nearest num den ↔ (2 * quanta + twoPow (spacing quanta)) * den < 2 * num := by
  constructor
  · intro hlt
    by_contra hle
    -- Rounding is monotone, and half a spacing above it still falls back.
    have hbound : nearest num den ≤ nearest (2 * quanta + twoPow (spacing quanta)) 2 :=
      nearest_mono hden (by decide) (by omega)
    rw [nearest_half h] at hbound
    omega
  · intro hlt
    have hmag : IsMagnitude quanta := Nat.dvd_trans (Nat.dvd_mul_left _ 2) h
    have hnext := lt_nearest_of_half hden hmag hlt
    have := twoPow_pos (spacing quanta)
    omega

end RubricScore.Binary64
