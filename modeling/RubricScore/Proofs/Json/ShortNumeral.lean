import RubricScore.Proofs.Json.Reread

/-!
# Short numerals are read exactly

The digits of a short numeral make a word that is a floating-point number, and so is the power of
ten that divides it. Only the quotient is rounded then, so the numeral is read as the number nearest
to its value, and a number whose own numeral is short is read as itself.

## Main definitions

* `Numeral.IsShort`: at most fifteen digits and no exponent.

## Main results

* `exists_magnitude_of_isShort`: a short numeral with a point is read as the nearest number;
* `reread_of_isShort`: a number whose numeral is short is read as itself.
-/

namespace RubricScore.Json

open Binary64

attribute [local irreducible] twoPow one limit

namespace Numeral

/-- At most fifteen digits, and no exponent. -/
def IsShort (n : Numeral) : Prop :=
  n.exponent = none ∧ n.whole.length + n.fraction.length ≤ 15

instance (n : Numeral) : Decidable n.IsShort :=
  inferInstanceAs (Decidable (_ ∧ _))

/-- The value of all digits of a numeral, the point left out. -/
def digitsValue (n : Numeral) : Nat :=
  Nat.ofDigitChars 10 (n.whole ++ n.fraction) 0

end Numeral

/-- The digits of a short numeral are gathered into one word. -/
theorem gather_of_isShort {n : Numeral} (h : n.WellFormed) (hshort : n.IsShort) :
    gather 0 n.whole = (Nat.ofDigitChars 10 n.whole 0, [])
      ∧ gather (Nat.ofDigitChars 10 n.whole 0) n.fraction = (n.digitsValue, [])
      ∧ n.digitsValue < 10 ^ 15 := by
  have hlength := hshort.2
  have hwhole := gather_of_length_le h.wholeDigits (by omega)
  have hall : ∀ c ∈ n.whole ++ n.fraction, isDigit c := fun c hc =>
    (List.mem_append.1 hc).elim (h.wholeDigits c) (h.fractionDigits c)
  have hvalue : n.digitsValue < 10 ^ 15 := by
    have hlt := ofDigitChars_lt hall 0
    rw [Nat.zero_add, Nat.one_mul, List.length_append] at hlt
    exact Nat.lt_of_lt_of_le hlt (Nat.pow_le_pow_right (by decide) hlength)
  have hfront : (gather 0 n.whole).1 < UInt64.size := (gather_spec h.wholeDigits (by decide)).1
  rw [hwhole] at hfront
  -- The digits after the point go on from the word before it.
  have happend : n.digitsValue
      = Nat.ofDigitChars 10 n.fraction (Nat.ofDigitChars 10 n.whole 0) :=
    Nat.ofDigitChars_append 0
  refine ⟨hwhole, ?_, hvalue⟩
  rw [happend]
  refine (gather_spec h.fractionDigits hfront).2.2 ?_
  rw [← happend]
  exact Nat.lt_trans hvalue (by decide)

/-- A short numeral with a point is read as the number nearest to its value. -/
theorem exists_magnitude_of_isShort {n : Numeral} (h : n.WellFormed) (hshort : n.IsShort)
    (hpoint : n.fraction ≠ []) :
    ∃ x, n.magnitude? = some x
      ∧ x.HasQuanta (nearest (n.digitsValue * one) (Nat.pow 10 n.fraction.length)) := by
  obtain ⟨hwhole, hfraction, hlt⟩ := gather_of_isShort h hshort
  obtain ⟨places, hplaces⟩ : ∃ places, n.fraction.length = places + 1 :=
    ⟨n.fraction.length - 1, by have := List.length_pos_iff.2 hpoint; omega⟩
  have hfew : places + 1 ≤ 15 := by
    have := hshort.2
    omega
  have hmagnitude : n.magnitude?
      = some (Binary64.ofNat n.digitsValue / powerOfTen (places + 1)) := by
    unfold Numeral.magnitude?
    simp only [hwhole, hfraction, hshort.1, hplaces]
    show some (scaleDown (Binary64.ofNat n.digitsValue) (places + 1)) = _
    rw [scaleDown, if_pos (by omega)]
  have hexact : ∀ k ≤ 15, Nat.pow 10 k ≤ twoPow precision := fun k hk =>
    Nat.le_trans (pow_ten_mono hk) (by decide +kernel)
  have hdigits : n.digitsValue ≤ twoPow precision :=
    Nat.le_trans (Nat.le_of_lt hlt) (hexact 15 (Nat.le_refl 15))
  have hword := hasQuanta_ofNat hdigits
  have hpower := hasQuanta_ofNat (hexact (places + 1) hfew)
  rw [← powerOfTen_eq (by omega)] at hpower
  have hpos := pow_ten_pos (places + 1)
  have hunit := unit_pos
  -- Both operands are exact, so the unit cancels from the quotient.
  have hcancel : nearest (n.digitsValue * one * one) (Nat.pow 10 (places + 1) * one)
      = nearest (n.digitsValue * one) (Nat.pow 10 (places + 1)) := by
    refine nearest_congr (Nat.mul_pos hpos hunit) hpos ?_
    ring
  have hbound : nearest (n.digitsValue * one) (Nat.pow 10 (places + 1)) < limit := by
    have hle : n.digitsValue * one ≤ twoPow precision * one * Nat.pow 10 (places + 1) :=
      Nat.le_trans (Nat.mul_le_mul_right one hdigits) (Nat.le_mul_of_pos_right _ hpos)
    have hlimit : twoPow precision * one < limit := by decide +kernel
    exact Nat.lt_of_le_of_lt (nearest_le hpos (isMagnitude_mul_one (Nat.le_refl _)) hle) hlimit
  refine ⟨_, hmagnitude, ?_⟩
  rw [hplaces, ← hcancel]
  exact hword.div hpower (Nat.ne_of_gt (Nat.mul_pos hpos hunit)) (hcancel ▸ hbound)

/-! ## Numbers of short numerals -/

/-- Zeros up to the point and one after it are part of the value. -/
theorem digitsValue_positional_ofNat (negative : Bool) (digits : List Char) (exponent : Nat) :
    (Numeral.positional negative digits (.ofNat exponent)).digitsValue
      = Nat.ofDigitChars 10 digits 0 * Nat.pow 10 exponent * 10 := by
  have hzero : ['0'] = List.replicate 1 '0' := rfl
  rw [Numeral.positional, Numeral.digitsValue, hzero, Nat.ofDigitChars_append,
    Nat.ofDigitChars_replicate_zero, Nat.ofDigitChars_append, Nat.ofDigitChars_replicate_zero]
  show 10 ^ 1 * (10 ^ exponent * _) = _ * 10 ^ exponent * 10
  ring

/-- Zeros before the digits add nothing to the value. -/
theorem digitsValue_positional_negSucc (negative : Bool) (digits : List Char) (exponent : Nat) :
    (Numeral.positional negative digits (.negSucc exponent)).digitsValue
        = Nat.ofDigitChars 10 digits 0
      ∧ (Numeral.positional negative digits (.negSucc exponent)).fraction.length
        = exponent + 1 := by
  rw [Numeral.positional]
  split
  · next hplaces =>
    refine ⟨?_, ?_⟩
    · rw [Numeral.digitsValue, List.take_append_drop]
    · rw [List.length_drop]
      omega
  · next hplaces =>
    refine ⟨?_, ?_⟩
    · have hzero : ['0'] = List.replicate 1 '0' := rfl
      rw [Numeral.digitsValue, hzero, ← List.append_assoc, List.replicate_append_replicate,
        Nat.ofDigitChars_append, Nat.ofDigitChars_replicate_zero, Nat.mul_zero]
    · rw [List.length_append, List.length_replicate]
      omega

/-- Digits laid out without an exponent stand for the value of the decimal. -/
theorem nearest_positional (d : Decimal) (negative : Bool) {n : Numeral}
    (hn : n = Numeral.positional negative (Nat.toDigits 10 d.digits) d.exponent) :
    nearest (n.digitsValue * one) (Nat.pow 10 n.fraction.length)
      = nearest d.inQuanta.1 d.inQuanta.2 := by
  have hvalue : Nat.ofDigitChars 10 (Nat.toDigits 10 d.digits) 0 = d.digits :=
    Nat.ofDigitChars_ten_toDigits
  obtain ⟨digits, exponent⟩ := d
  dsimp only at hvalue hn
  subst hn
  refine nearest_congr (pow_ten_pos _) (Decimal.inQuanta_den_pos _) ?_
  cases exponent with
  | ofNat exponent =>
    rw [digitsValue_positional_ofNat, hvalue]
    show digits * Nat.pow 10 exponent * 10 * one * 1 = digits * Nat.pow 10 exponent * one * 10
    ring
  | negSucc exponent =>
    obtain ⟨hall, hlength⟩ :=
      digitsValue_positional_negSucc negative (Nat.toDigits 10 digits) exponent
    rw [hall, hlength, hvalue]
    rfl

theorem fraction_positional_ne_nil (negative : Bool) (digits : List Char) (exponent : Int) :
    (Numeral.positional negative digits exponent).fraction ≠ [] := by
  cases exponent with
  | ofNat exponent => exact List.cons_ne_nil _ _
  | negSucc exponent =>
    obtain ⟨-, hlength⟩ := digitsValue_positional_negSucc negative digits exponent
    exact List.ne_nil_of_length_eq_add_one hlength

/-- The short numeral of a positive magnitude has the layout without an exponent. -/
theorem ofFinite_of_isShort {negative : Bool} {m : Magnitude} (hpos : m.quanta ≠ 0)
    (hshort : (Numeral.ofFinite negative m).IsShort) :
    Numeral.ofFinite negative m
      = Numeral.positional negative (Nat.toDigits 10 (shortest .toEven m).digits)
        (shortest .toEven m).exponent := by
  have hexponent := hshort.1
  rw [Numeral.ofFinite, if_neg hpos] at hexponent ⊢
  dsimp only at hexponent ⊢
  split at hexponent
  · next hpositional => rw [if_pos hpositional]
  · exact absurd hexponent (by simp [Numeral.scientific])

/-- A number whose numeral is short is read as itself. -/
theorem reread_of_isShort {negative : Bool} {m : Magnitude}
    (hshort : (Numeral.ofFinite negative m).IsShort) :
    reread (.finite negative m) = some (.finite negative m) := by
  by_cases hzero : m.quanta = 0
  · have heq : m = ⟨0, by decide +kernel, by decide +kernel⟩ := by
      cases m
      subst hzero
      rfl
    rw [heq]
    cases negative <;> decide +kernel
  · have hlayout := ofFinite_of_isShort hzero hshort
    have hpoint : (Numeral.ofFinite negative m).fraction ≠ [] :=
      hlayout ▸ fraction_positional_ne_nil _ _ _
    obtain ⟨x, hx, hquanta⟩ :=
      exists_magnitude_of_isShort (Numeral.wellFormed_ofFinite negative m) hshort hpoint
    rw [nearest_positional _ negative hlayout, roundsTo_shortest .toEven hzero] at hquanta
    -- The magnitude is the right one, and the sign was put aside by the numeral.
    have hexact : x = .finite false m := by
      obtain ⟨minus, held, rfl, hheld, hminus⟩ := hquanta.exists_finite
      cases minus with
      | true => exact absurd (hminus rfl) hzero
      | false =>
        cases held
        cases m
        subst hheld
        rfl
    have hnumber : (Numeral.ofFinite negative m).number? = some (.real (.finite negative m)) := by
      have hsign : (Numeral.ofFinite negative m).negative = negative := by
        rw [hlayout]
        cases (shortest .toEven m).exponent with
        | ofNat => rfl
        | negSucc =>
          rw [Numeral.positional]
          split <;> rfl
      unfold Numeral.number?
      dsimp only
      rw [if_neg fun hwhole => hpoint hwhole.2.1, hx, hsign, hexact]
      cases negative <;> rfl
    rw [reread_eq _ 0]
    show (readReal 0 (.number (Numeral.ofFinite negative m))).toOption = _
    rw [readReal, Numeral.read, hnumber]
    rfl

end RubricScore.Json
