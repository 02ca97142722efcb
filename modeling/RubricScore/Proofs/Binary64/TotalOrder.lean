import RubricScore.Proofs.Binary64.Zero

/-!
# The total order of numbers

In the total order every two different numbers stand one after the other: values first go by their
positions on the number line, the negative zero stands before the positive one, and a NaN stands
outside all values, on the side of its sign and the farther out the greater its payload.

## Main definitions

* `Before`: the rules of the total order.

## Main results

* `before_iff`: the order is that of the keys;
* `totalKey_injective`: different numbers have different keys;
* `totalLe_iff`: the comparison of two numbers follows the rules.
-/

namespace RubricScore.Binary64

attribute [local irreducible] limit

/-- The first number stands before the second one in the total order. -/
inductive Before : Binary64 → Binary64 → Prop
  /-- Values stand in the order of their positions. -/
  | value {x y : Binary64} (hx : x.isNumber) (hy : y.isNumber) (h : x.position < y.position) :
    Before x y
  /-- The negative zero stands before the positive one. -/
  | zeros : Before negativeZero zero
  /-- A negative NaN stands before all values. -/
  | negativeNan {payload : Nat} {y : Binary64} (hy : y.isNumber) : Before (.nan true payload) y
  /-- A positive NaN stands after all values. -/
  | positiveNan {payload : Nat} {x : Binary64} (hx : x.isNumber) : Before x (.nan false payload)
  /-- A negative NaN stands before a positive one. -/
  | nans {payload payload' : Nat} : Before (.nan true payload) (.nan false payload')
  /-- Of negative NaNs the one with the greater payload stands first. -/
  | negativeNans {payload payload' : Nat} (h : payload' < payload) :
    Before (.nan true payload) (.nan true payload')
  /-- Of positive NaNs the one with the smaller payload stands first. -/
  | positiveNans {payload payload' : Nat} (h : payload < payload') :
    Before (.nan false payload) (.nan false payload')

/-- The key of a value: its position, and one less with a minus sign. -/
theorem totalKey_of_isNumber {x : Binary64} (h : x.isNumber) :
    x.isNegative = true ∧ x.totalKey = x.position - 1 ∧ x.position ≤ 0
      ∨ x.isNegative = false ∧ x.totalKey = x.position ∧ 0 ≤ x.position := by
  cases x with
  | nan => exact absurd h Bool.false_ne_true
  | infinite negative =>
    cases negative with
    | true => exact .inl ⟨rfl, rfl, Int.neg_nonpos_of_nonneg (Int.natCast_nonneg _)⟩
    | false => exact .inr ⟨rfl, rfl, Int.natCast_nonneg _⟩
  | finite negative magnitude =>
    cases negative with
    | true => exact .inl ⟨rfl, rfl, Int.neg_nonpos_of_nonneg (Int.natCast_nonneg _)⟩
    | false => exact .inr ⟨rfl, rfl, Int.natCast_nonneg _⟩

/-- No value has its position outside the infinities. -/
theorem natAbs_position_le (x : Binary64) : x.position.natAbs ≤ limit := by
  cases x with
  | nan => exact Nat.zero_le _
  | infinite negative => cases negative <;> simp [position, signed]
  | finite negative magnitude =>
    have hbounded := magnitude.bounded
    cases negative <;> simp [position, signed] <;> omega

/-- A value is known by its sign and its position. -/
theorem eq_of_position {x y : Binary64} (hx : x.isNumber) (hy : y.isNumber)
    (hsign : x.isNegative = y.isNegative) (hposition : x.position = y.position) : x = y := by
  have hquanta : ∀ {negative : Bool} {m n : Nat}, signed negative m = signed negative n → m = n := by
    intro negative m n h
    cases negative <;> simpa [signed] using h
  cases x with
  | nan => exact absurd hx Bool.false_ne_true
  | infinite negative =>
    cases y with
    | nan => exact absurd hy Bool.false_ne_true
    | infinite => exact congrArg infinite hsign
    | finite negative' magnitude =>
      -- An infinity stands beyond all finite numbers of its sign.
      obtain rfl : negative = negative' := hsign
      exact absurd (hquanta hposition) (Nat.ne_of_gt magnitude.bounded)
  | finite negative magnitude =>
    cases y with
    | nan => exact absurd hy Bool.false_ne_true
    | infinite negative' =>
      obtain rfl : negative = negative' := hsign
      exact absurd (hquanta hposition) (Nat.ne_of_lt magnitude.bounded)
    | finite negative' magnitude' =>
      obtain rfl : negative = negative' := hsign
      obtain ⟨quanta, _, _⟩ := magnitude
      obtain ⟨quanta', _, _⟩ := magnitude'
      obtain rfl : quanta = quanta' := hquanta hposition
      rfl

/-- The values at position zero are the two zeros. -/
theorem eq_zero_of_position {x : Binary64} (hx : x.isNumber) (h : x.position = 0) :
    x = if x.isNegative then negativeZero else zero := by
  split
  · next hneg => exact eq_of_position hx rfl hneg h
  · next hpos => exact eq_of_position hx rfl (Bool.eq_false_iff.2 hpos) h

theorem exists_nan_of_not_isNumber {x : Binary64} (h : ¬ x.isNumber) :
    ∃ negative payload, x = nan negative payload := by
  cases x with
  | nan negative payload => exact ⟨negative, payload, rfl⟩
  | infinite => exact absurd rfl h
  | finite => exact absurd rfl h

/-- The order is that of the keys, one way. -/
theorem totalKey_lt_of_before {x y : Binary64} (h : Before x y) : x.totalKey < y.totalKey := by
  cases h with
  | value hx hy h =>
    rcases totalKey_of_isNumber hx with ⟨-, hkey, _⟩ | ⟨-, hkey, _⟩ <;>
      rcases totalKey_of_isNumber hy with ⟨-, hkey', _⟩ | ⟨-, hkey', _⟩ <;> omega
  | zeros => decide
  | @negativeNan payload y hy =>
    have hkey : (nan true payload).totalKey = -((limit + 1 + payload : Nat) : Int) - 1 := rfl
    have hbound := natAbs_position_le y
    rcases totalKey_of_isNumber hy with ⟨-, hkey', _⟩ | ⟨-, hkey', _⟩ <;> omega
  | @positiveNan payload x hx =>
    have hkey : (nan false payload).totalKey = ((limit + 1 + payload : Nat) : Int) := rfl
    have hbound := natAbs_position_le x
    rcases totalKey_of_isNumber hx with ⟨-, hkey', _⟩ | ⟨-, hkey', _⟩ <;> omega
  | nans =>
    show -((limit + 1 + _ : Nat) : Int) - 1 < ((limit + 1 + _ : Nat) : Int)
    omega
  | negativeNans h =>
    show -((limit + 1 + _ : Nat) : Int) - 1 < -((limit + 1 + _ : Nat) : Int) - 1
    omega
  | positiveNans h =>
    show ((limit + 1 + _ : Nat) : Int) < ((limit + 1 + _ : Nat) : Int)
    omega

/-- Of two different values one stands before the other. -/
theorem before_or_eq_or_before_of_isNumber {x y : Binary64} (hx : x.isNumber) (hy : y.isNumber) :
    Before x y ∨ x = y ∨ Before y x := by
  rcases Int.lt_trichotomy x.position y.position with hlt | heq | hgt
  · exact .inl (.value hx hy hlt)
  · by_cases hsign : x.isNegative = y.isNegative
    · exact .inr (.inl (eq_of_position hx hy hsign heq))
    · -- Values of both signs share a position at zero only.
      rcases totalKey_of_isNumber hx with ⟨hneg, -, hle⟩ | ⟨hpos, -, hge⟩ <;>
        rcases totalKey_of_isNumber hy with ⟨hneg', -, hle'⟩ | ⟨hpos', -, hge'⟩
      · exact absurd (hneg.trans hneg'.symm) hsign
      · rw [eq_zero_of_position hx (by omega), eq_zero_of_position hy (by omega), hneg, hpos']
        exact .inl .zeros
      · rw [eq_zero_of_position hx (by omega), eq_zero_of_position hy (by omega), hpos, hneg']
        exact .inr (.inr .zeros)
      · exact absurd (hpos.trans hpos'.symm) hsign
  · exact .inr (.inr (.value hy hx hgt))

/-- Of two different NaNs one stands before the other. -/
theorem before_or_eq_or_before_nan (negative negative' : Bool) (payload payload' : Nat) :
    Before (nan negative payload) (nan negative' payload')
      ∨ nan negative payload = nan negative' payload'
      ∨ Before (nan negative' payload') (nan negative payload) := by
  cases negative <;> cases negative'
  · rcases Nat.lt_trichotomy payload payload' with hlt | rfl | hgt
    · exact .inl (.positiveNans hlt)
    · exact .inr (.inl rfl)
    · exact .inr (.inr (.positiveNans hgt))
  · exact .inr (.inr .nans)
  · exact .inl .nans
  · rcases Nat.lt_trichotomy payload payload' with hlt | rfl | hgt
    · exact .inr (.inr (.negativeNans hlt))
    · exact .inr (.inl rfl)
    · exact .inl (.negativeNans hgt)

/-- Of two different numbers one stands before the other. -/
theorem before_or_eq_or_before (x y : Binary64) : Before x y ∨ x = y ∨ Before y x := by
  by_cases hx : x.isNumber <;> by_cases hy : y.isNumber
  · exact before_or_eq_or_before_of_isNumber hx hy
  · obtain ⟨negative, payload, rfl⟩ := exists_nan_of_not_isNumber hy
    cases negative with
    | true => exact .inr (.inr (.negativeNan hx))
    | false => exact .inl (.positiveNan hx)
  · obtain ⟨negative, payload, rfl⟩ := exists_nan_of_not_isNumber hx
    cases negative with
    | true => exact .inl (.negativeNan hy)
    | false => exact .inr (.inr (.positiveNan hy))
  · obtain ⟨negative, payload, rfl⟩ := exists_nan_of_not_isNumber hx
    obtain ⟨negative', payload', rfl⟩ := exists_nan_of_not_isNumber hy
    exact before_or_eq_or_before_nan negative negative' payload payload'

/-- The total order is that of the keys. -/
theorem before_iff {x y : Binary64} : Before x y ↔ x.totalKey < y.totalKey := by
  refine ⟨totalKey_lt_of_before, fun h => ?_⟩
  rcases before_or_eq_or_before x y with hbefore | rfl | hafter
  · exact hbefore
  · exact absurd h (Int.lt_irrefl _)
  · exact absurd (totalKey_lt_of_before hafter) (Int.not_lt.2 (Int.le_of_lt h))

/-- Different numbers have different keys. -/
theorem totalKey_injective : Function.Injective totalKey := by
  intro x y h
  rcases before_or_eq_or_before x y with hbefore | heq | hafter
  · exact absurd (h ▸ totalKey_lt_of_before hbefore) (Int.lt_irrefl _)
  · exact heq
  · exact absurd (h ▸ totalKey_lt_of_before hafter) (Int.lt_irrefl _)

/-- A number is at most another one if it is that one or stands before it. -/
theorem totalLe_iff {x y : Binary64} : x.totalLe y ↔ x = y ∨ Before x y := by
  rw [totalLe, decide_eq_true_eq, before_iff, Int.le_iff_eq_or_lt, totalKey_injective.eq_iff]

end RubricScore.Binary64
