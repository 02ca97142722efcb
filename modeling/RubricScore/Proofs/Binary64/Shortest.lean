import RubricScore.Binary64.Decimal
import RubricScore.Proofs.Binary64.Arithmetic

/-!
# Shortest numerals

The numeral that is written for a positive magnitude stands for a quotient that is rounded to this
magnitude, whichever step of the search it comes from.

## Main definitions

* `Decimal.inQuanta`: the value of a numeral in quanta, as a quotient;
* `Decimal.RoundsTo`: the value is rounded to a magnitude.

## Main results

* `roundsTo_shortest`: the shortest numeral of a magnitude is rounded to it;
* `Decimal.RoundsTo.digits_ne_zero`: so its digits are not zero.
-/

namespace RubricScore.Binary64

attribute [local irreducible] twoPow one limit

/-- The value of a numeral in quanta, as a quotient. -/
def Decimal.inQuanta (d : Decimal) : Nat × Nat :=
  match d.exponent with
  | .ofNat exponent => (d.digits * Nat.pow 10 exponent * one, 1)
  | .negSucc exponent => (d.digits * one, Nat.pow 10 (exponent + 1))

/-- The value of a numeral is rounded to a magnitude. -/
def Decimal.RoundsTo (d : Decimal) (magnitude : Magnitude) : Prop :=
  nearest d.inQuanta.1 d.inQuanta.2 = magnitude.quanta

theorem Decimal.inQuanta_den_pos (d : Decimal) : 0 < d.inQuanta.2 := by
  unfold inQuanta
  cases d.exponent with
  | ofNat => exact Nat.one_pos
  | negSucc exponent => exact Nat.pow_pos (by decide)

/-- A ratio that gives a finite number is rounded to its magnitude. -/
theorem nearest_eq_of_ofRatio {negative : Bool} {num den : Nat} {magnitude : Magnitude}
    (h : ofRatio negative num den = .finite negative magnitude) :
    nearest num den = magnitude.quanta := by
  unfold ofRatio at h
  split at h
  · exact congrArg Magnitude.quanta (Binary64.finite.inj h).2
  · exact absurd h (by simp)

/-- A numeral that reads back as a positive magnitude is rounded to it. -/
theorem Decimal.roundsTo_of_ofDecimal {d : Decimal} {magnitude : Magnitude}
    (hpos : magnitude.quanta ≠ 0)
    (h : ofDecimal false d.digits d.exponent = .finite false magnitude) :
    d.RoundsTo magnitude := by
  have hzero : (finite false zeroMagnitude) ≠ .finite false magnitude := fun heq =>
    hpos (congrArg Magnitude.quanta (Binary64.finite.inj heq).2).symm
  obtain ⟨digits, exponent⟩ := d
  unfold RoundsTo inQuanta
  cases exponent with
  | ofNat exponent =>
    rw [ofDecimal] at h
    split at h
    · exact absurd h hzero
    · split at h
      · exact absurd h (by simp)
      · exact nearest_eq_of_ofRatio h
  | negSucc exponent =>
    rw [ofDecimal] at h
    split at h
    · exact absurd h hzero
    · exact nearest_eq_of_ofRatio h

/-- What the search finds on one grid is rounded to the magnitude. -/
theorem roundsTo_of_onGrid {tie : Tie} {magnitude : Magnitude} (hpos : magnitude.quanta ≠ 0)
    {exponent : Int} {d : Decimal} (h : onGrid tie magnitude exponent = some d) :
    d.RoundsTo magnitude := by
  unfold onGrid at h
  dsimp only at h
  -- Whichever neighbour is taken, it was taken because it reads back as the magnitude.
  split at h
  · next hlow =>
    split at h
    · next hhigh =>
      split at h
      · exact Option.some.inj h ▸ Decimal.roundsTo_of_ofDecimal hpos hlow
      · split at h
        · exact Option.some.inj h ▸ Decimal.roundsTo_of_ofDecimal hpos hhigh
        · split at h
          · exact Option.some.inj h ▸ Decimal.roundsTo_of_ofDecimal hpos hlow
          · exact Option.some.inj h ▸ Decimal.roundsTo_of_ofDecimal hpos hhigh
    · exact Option.some.inj h ▸ Decimal.roundsTo_of_ofDecimal hpos hlow
  · split at h
    · next hhigh => exact Option.some.inj h ▸ Decimal.roundsTo_of_ofDecimal hpos hhigh
    · exact absurd h (by simp)

theorem Decimal.roundsTo_negSucc {digits exponent : Nat} {magnitude : Magnitude} :
    (⟨digits, .negSucc exponent⟩ : Decimal).RoundsTo magnitude
      ↔ nearest (digits * one) (Nat.pow 10 (exponent + 1)) = magnitude.quanta :=
  Iff.rfl

/-- The exact value of a magnitude, written out in full. -/
theorem roundsTo_exact (magnitude : Magnitude) :
    (⟨magnitude.quanta * Nat.pow 5 quantumPlaces, -quantumPlaces⟩ : Decimal).RoundsTo
      magnitude := by
  -- A quantum is a power of five over a power of ten.
  have hplaces : -(quantumPlaces : Int) = .negSucc 1073 := by decide +kernel
  have hsucc : 1073 + 1 = quantumPlaces := rfl
  have hpow : Nat.pow 5 quantumPlaces * one = Nat.pow 10 quantumPlaces := by decide +kernel
  have hpos : 0 < Nat.pow 10 quantumPlaces := by decide +kernel
  rw [hplaces, Decimal.roundsTo_negSucc, hsucc, Nat.mul_assoc, hpow]
  exact nearest_mul_self magnitude.fits hpos

/-- Dropping a zero at the end does not change the value. -/
theorem Decimal.RoundsTo.dropZero {d : Decimal} {magnitude : Magnitude} (h : d.RoundsTo magnitude)
    (hzero : d.digits % 10 = 0) :
    (⟨d.digits / 10, d.exponent + 1⟩ : Decimal).RoundsTo magnitude := by
  have hdigits : d.digits = d.digits / 10 * 10 := by omega
  have hcross : d.inQuanta.1 * (⟨d.digits / 10, d.exponent + 1⟩ : Decimal).inQuanta.2
      = (⟨d.digits / 10, d.exponent + 1⟩ : Decimal).inQuanta.1 * d.inQuanta.2 := by
    obtain ⟨digits, exponent⟩ := d
    dsimp only at hdigits
    generalize digits / 10 = front at hdigits ⊢
    subst hdigits
    unfold inQuanta
    -- The exponent grows by one, from -1 to zero it changes its sign.
    match exponent with
    | .ofNat exponent =>
      show front * 10 * Nat.pow 10 exponent * one * 1 = front * Nat.pow 10 (exponent + 1) * one * 1
      rw [show Nat.pow 10 (exponent + 1) = Nat.pow 10 exponent * 10 from rfl]
      ring
    | .negSucc 0 =>
      show front * 10 * one * 1 = front * Nat.pow 10 0 * one * Nat.pow 10 1
      rw [show Nat.pow 10 0 = 1 from rfl, show Nat.pow 10 1 = 10 from rfl]
      ring
    | .negSucc (exponent + 1) =>
      show front * 10 * one * Nat.pow 10 (exponent + 1)
        = front * one * Nat.pow 10 (exponent + 1 + 1)
      rw [show Nat.pow 10 (exponent + 1 + 1) = Nat.pow 10 (exponent + 1) * 10 from rfl]
      ring
  exact (nearest_congr (Decimal.inQuanta_den_pos _) (Decimal.inQuanta_den_pos _) hcross).symm.trans h

theorem Decimal.RoundsTo.stripped {d : Decimal} {magnitude : Magnitude}
    (h : d.RoundsTo magnitude) : d.stripped.RoundsTo magnitude := by
  induction hn : d.digits using Nat.strongRecOn generalizing d with
  | ind n ih =>
    rw [Decimal.stripped]
    split
    · next hzero =>
      refine ih (d.digits / 10) (by omega) (h.dropZero hzero.2) rfl
    · exact h

/-- The shortest numeral of a positive magnitude is rounded to it. -/
theorem roundsTo_shortest (tie : Tie) {magnitude : Magnitude} (hpos : magnitude.quanta ≠ 0) :
    (shortest tie magnitude).RoundsTo magnitude := by
  unfold shortest
  refine Decimal.RoundsTo.stripped ?_
  cases hfound : (List.range 17).findSome? fun (more : Nat) =>
      onGrid tie magnitude (leadingExponent magnitude.quanta one - more) with
  | none => exact roundsTo_exact magnitude
  | some d =>
    obtain ⟨more, -, hgrid⟩ := List.exists_of_findSome?_eq_some hfound
    exact roundsTo_of_onGrid hpos hgrid

/-- A numeral that is rounded to a positive magnitude is not zero. -/
theorem Decimal.RoundsTo.digits_ne_zero {d : Decimal} {magnitude : Magnitude}
    (h : d.RoundsTo magnitude) (hpos : magnitude.quanta ≠ 0) : d.digits ≠ 0 := by
  intro hzero
  refine hpos (h.symm.trans ?_)
  have hnum : d.inQuanta.1 = 0 := by
    unfold inQuanta
    cases d.exponent <;> simp [hzero]
  rw [hnum]
  simp [nearest, roundHalfEven]

end RubricScore.Binary64
