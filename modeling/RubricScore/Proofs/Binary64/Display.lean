import RubricScore.Binary64.Spelling
import RubricScore.Proofs.Binary64.Shortest
import RubricScore.Proofs.Binary64.Zero
import RubricScore.Proofs.CommandLine.Numerals

/-!
# Numbers as they are shown

A reader is shown a number in full or with one decimal place. In full it is a numeral without an
exponent that is read back as the number. With one decimal place it is the number of tenths nearest
to the exact value.

## Main definitions

* `IsPlain`: the text of a number in full;
* `IsRounded`: the whole number nearest to a quotient;
* `IsTenths`: the text of a number with one decimal place.

## Main results

* `Decimal.RoundsTo.ofDecimal_eq`: a numeral that is rounded to a magnitude is read as it;
* `isPlain_toPlain` and `isTenths_toTenths`: every number is shown so.
-/

namespace RubricScore.Binary64

open CommandLine (IsDecimal IsFraction IsExponent IsSign IsUnsigned)

attribute [local irreducible] twoPow one limit

/-- The text of a number in full. -/
inductive IsPlain : Binary64 → List Char → Prop
  /-- A NaN has no sign. -/
  | nan {negative : Bool} {payload : Nat} : IsPlain (.nan negative payload) "NaN".toList
  /-- Above all numbers. -/
  | positiveInfinity : IsPlain (.infinite false) "inf".toList
  /-- Below all numbers. -/
  | negativeInfinity : IsPlain (.infinite true) "-inf".toList
  /-- A numeral that is read back as the number, with neither a plus nor an exponent. -/
  | finite {negative : Bool} {m : Magnitude} {text : List Char}
    (hdecimal : IsDecimal text (.finite negative m))
    (hplain : ∀ c ∈ text, isDigit c ∨ c = '.' ∨ c = '-') : IsPlain (.finite negative m) text

/-- The whole number nearest to a quotient; of two equally near ones it is the even one. -/
structure IsRounded (num den n : Nat) : Prop where
  /-- The quotient is at most half a unit above it. -/
  low : 2 * num ≤ (2 * n + 1) * den
  /-- The quotient is at most half a unit below it. -/
  high : 2 * n * den ≤ 2 * num + den
  /-- It is even if the quotient is just that far away. -/
  even : 2 * num = (2 * n + 1) * den ∨ 2 * n * den = 2 * num + den → n % 2 = 0

/-- The text of a number with one decimal place. -/
inductive IsTenths : Binary64 → List Char → Prop
  /-- A NaN has no sign. -/
  | nan {negative : Bool} {payload : Nat} : IsTenths (.nan negative payload) "NaN".toList
  /-- Above all numbers. -/
  | positiveInfinity : IsTenths (.infinite false) "inf".toList
  /-- Below all numbers. -/
  | negativeInfinity : IsTenths (.infinite true) "-inf".toList
  /-- Zero or more, as the nearest number of tenths. -/
  | positive {m : Magnitude} {tenths : Nat} (hnear : IsRounded (m.quanta * 10) one tenths) :
    IsTenths (.finite false m)
      (Nat.toDigits 10 (tenths / 10) ++ ['.', Nat.digitChar (tenths % 10)])
  /-- The same behind a minus. -/
  | negative {m : Magnitude} {tenths : Nat} (hnear : IsRounded (m.quanta * 10) one tenths) :
    IsTenths (.finite true m)
      ('-' :: Nat.toDigits 10 (tenths / 10) ++ ['.', Nat.digitChar (tenths % 10)])

/-! ## One decimal place -/

theorem isRounded_roundHalfEven (num : Nat) {den : Nat} (hden : 0 < den) :
    IsRounded num den (roundHalfEven num den) where
  low := by
    rcases two_mul_le_roundHalfEven num hden with hlt | ⟨heq, -⟩
    · exact Nat.le_of_lt hlt
    · exact Nat.le_of_eq heq
  high := by
    rcases roundHalfEven_le_two_mul num hden with hlt | ⟨heq, -⟩
    · exact Nat.le_of_lt hlt
    · exact Nat.le_of_eq heq
  even := by
    -- Half way, either neighbour was rounded to because it is even.
    rintro (htie | htie)
    · rcases two_mul_le_roundHalfEven num hden with hlt | ⟨-, heven⟩
      · exact absurd htie (Nat.ne_of_lt hlt)
      · exact heven
    · rcases roundHalfEven_le_two_mul num hden with hlt | ⟨-, heven⟩
      · exact absurd htie (Nat.ne_of_lt hlt)
      · exact heven

theorem isTenths_toTenths (x : Binary64) : IsTenths x x.toTenths.toList := by
  have hdigit (n : Nat) : Nat.toDigits 10 (n % 10) = [Nat.digitChar (n % 10)] :=
    Nat.toDigits_of_lt_base (Nat.mod_lt n (by decide))
  cases x with
  | nan => exact .nan
  | infinite negative =>
    cases negative with
    | false => exact .positiveInfinity
    | true => exact .negativeInfinity
  | finite negative m =>
    have hnear := isRounded_roundHalfEven (m.quanta * 10) unit_pos
    rw [toTenths, String.toList_ofList, hdigit]
    cases negative with
    | false => exact .positive hnear
    | true => exact .negative hnear

/-! ## Reading back -/

/-- Three bits hold less than a decimal digit does. -/
theorem twoPow_le_pow_ten (places : Nat) : twoPow (3 * places) ≤ Nat.pow 10 places := by
  have height : twoPow (3 * places) = 8 ^ places := by
    unfold twoPow
    exact Nat.pow_mul 2 3 places
  rw [height]
  exact Nat.pow_le_pow_left (by decide) places

/-- A numeral with so many zeros at its end is too large. -/
theorem limit_le_of_lt {exponent : Nat} (h : 400 < exponent) :
    limit ≤ Nat.pow 10 exponent * one := by
  calc limit ≤ twoPow (3 * exponent + quantumPlaces) := by
        unfold limit limitExponent quantumPlaces
        exact Nat.le_of_dvd (twoPow_pos _) (twoPow_dvd (by omega))
    _ = twoPow (3 * exponent) * one := by rw [twoPow_add, one_eq_twoPow]
    _ ≤ Nat.pow 10 exponent * one := Nat.mul_le_mul_right one (twoPow_le_pow_ten exponent)

theorem isMagnitude_limit : IsMagnitude limit := by
  have hmagnitude := isMagnitude_mul_twoPow (Nat.one_le_iff_ne_zero.2 (twoPow_pos precision).ne')
    limitExponent
  rw [Nat.one_mul] at hmagnitude
  unfold limit
  exact hmagnitude

/-- A quotient of less than half a quantum is rounded to zero. -/
theorem nearest_eq_zero {num den : Nat} (h : 2 * num < den) : nearest num den = 0 := by
  have hlt : num < den := by omega
  unfold nearest
  rw [Nat.div_eq_of_lt hlt]
  have hunit : twoPow (spacing 0) = 1 := by decide +kernel
  simp only [hunit, Nat.mul_one, roundHalfEven, Nat.mod_eq_of_lt hlt, Nat.div_eq_of_lt hlt,
    if_pos h]

/-- So far below the first digit the value of a numeral is less than half a quantum. -/
theorem two_mul_lt_pow_of_log2 {digits exponent : Nat} (hne : digits ≠ 0)
    (h : digits.log2 + 1200 < 3 * exponent) :
    2 * (digits * one) < Nat.pow 10 (exponent + 1) := by
  have hdigits : digits < twoPow (digits.log2 + 1) := (log2_lt_iff hne _).1 (Nat.lt_succ_self _)
  have hone : 2 * one = twoPow (1 + quantumPlaces) := by
    rw [one_eq_twoPow, twoPow_add, show twoPow 1 = 2 by decide +kernel]
  calc 2 * (digits * one) = digits * twoPow (1 + quantumPlaces) := by
        rw [← hone]
        ring
    _ < twoPow (digits.log2 + 1) * twoPow (1 + quantumPlaces) :=
        Nat.mul_lt_mul_of_pos_right hdigits (twoPow_pos _)
    _ = twoPow (digits.log2 + 1 + (1 + quantumPlaces)) := (twoPow_add _ _).symm
    _ ≤ twoPow (3 * (exponent + 1)) :=
        Nat.le_of_dvd (twoPow_pos _) (twoPow_dvd (by unfold quantumPlaces; omega))
    _ ≤ Nat.pow 10 (exponent + 1) := twoPow_le_pow_ten _

/-- A numeral that is rounded to a positive magnitude is read as it. -/
theorem Decimal.RoundsTo.ofDecimal_eq {d : Decimal} {m : Magnitude} (h : d.RoundsTo m)
    (hpos : m.quanta ≠ 0) (negative : Bool) :
    ofDecimal negative d.digits d.exponent = .finite negative m := by
  have hne := h.digits_ne_zero hpos
  have hratio {num den : Nat} (hnum : nearest num den = m.quanta) :
      ofRatio negative num den = .finite negative m := by
    unfold ofRatio
    simp only [hnum, m.bounded, dite_true]
  obtain ⟨digits, exponent⟩ := d
  -- Neither of the two bounds on the exponent is passed.
  cases exponent with
  | ofNat exponent =>
    have hround : nearest (digits * Nat.pow 10 exponent * one) 1 = m.quanta := h
    have hbound : ¬400 < exponent := fun hlarge => by
      have hlimit : limit * 1 ≤ digits * Nat.pow 10 exponent * one := by
        rw [Nat.mul_one, Nat.mul_assoc]
        exact Nat.le_trans (limit_le_of_lt hlarge)
          (Nat.le_mul_of_pos_left _ (Nat.pos_of_ne_zero hne))
      have hle := le_nearest Nat.one_pos isMagnitude_limit hlimit
      exact absurd m.bounded (Nat.not_lt.2 (hround ▸ hle))
    rw [ofDecimal, if_neg hne, if_neg hbound]
    exact hratio hround
  | negSucc exponent =>
    have hround : nearest (digits * one) (Nat.pow 10 (exponent + 1)) = m.quanta := h
    have hbound : ¬(digits = 0 ∨ digits.log2 + 1200 < 3 * exponent) := by
      rintro (hzero | hsmall)
      · exact hne hzero
      · exact hpos (hround.symm.trans (nearest_eq_zero (two_mul_lt_pow_of_log2 hne hsmall)))
    rw [ofDecimal, if_neg hbound]
    exact hratio hround

/-! ## In full -/

/-- Zeros behind the digits of a numeral raise its value as an exponent does. -/
theorem Decimal.RoundsTo.appendZeros {digits exponent : Nat} {m : Magnitude}
    (h : (⟨digits, .ofNat exponent⟩ : Decimal).RoundsTo m) :
    (⟨Nat.ofDigitChars 10 (Nat.toDigits 10 digits ++ List.replicate exponent '0') 0, 0⟩
      : Decimal).RoundsTo m := by
  have hvalue : Nat.ofDigitChars 10 (Nat.toDigits 10 digits ++ List.replicate exponent '0') 0
      = digits * Nat.pow 10 exponent := by
    rw [Nat.ofDigitChars_append, Nat.ofDigitChars_ten_toDigits,
      Nat.ofDigitChars_replicate_zero, Nat.mul_comm]
    rfl
  rw [hvalue]
  show nearest (digits * Nat.pow 10 exponent * Nat.pow 10 0 * one) 1 = m.quanta
  rw [show Nat.pow 10 0 = 1 from rfl, Nat.mul_one]
  exact h

/-- Digits with a fraction are a numeral of the number that they are read as. -/
theorem isUnsigned_of_fraction {negative : Bool} {whole point fraction : List Char} {x : Binary64}
    (hne : whole ≠ []) (hwhole : ∀ c ∈ whole, isDigit c) (hpoint : IsFraction point fraction)
    (hread : ofDecimal negative (Nat.ofDigitChars 10 (whole ++ fraction) 0)
      (-(fraction.length : Int)) = x) :
    IsUnsigned negative (whole ++ point) x := by
  have hparts := @IsUnsigned.parts negative _ _ _ _ _ hwhole hpoint (.inl hne) .none
  rwa [List.append_nil, Int.zero_sub, hread] at hparts

/-- Digits laid out without an exponent are a numeral of the value of the decimal. -/
theorem isUnsigned_positional {d : Decimal} {m : Magnitude} (h : d.RoundsTo m)
    (hpos : m.quanta ≠ 0) (negative : Bool) :
    IsUnsigned negative (positional false (Nat.toDigits 10 d.digits) d.exponent)
      (.finite negative m) := by
  have hdigits : ∀ c ∈ Nat.toDigits 10 d.digits, isDigit c := fun _ => isDigit_of_mem_toDigits
  have hzeros (k : Nat) : ∀ c ∈ List.replicate k '0', isDigit c := fun c hc =>
    List.eq_of_mem_replicate hc ▸ by decide
  have hvalue : Nat.ofDigitChars 10 (Nat.toDigits 10 d.digits) 0 = d.digits :=
    Nat.ofDigitChars_ten_toDigits
  have hread := h.ofDecimal_eq hpos negative
  obtain ⟨digits, exponent⟩ := d
  dsimp only at hdigits hvalue hread ⊢
  cases exponent with
  | ofNat exponent =>
    have hraised := h.appendZeros.ofDecimal_eq hpos negative
    rw [positional]
    refine isUnsigned_of_fraction (List.append_ne_nil_of_left_ne_nil Nat.toDigits_ne_nil _)
      (List.forall_mem_append.2 ⟨hdigits, hzeros exponent⟩) .none ?_
    rw [List.append_nil]
    exact hraised
  | negSucc exponent =>
    generalize Nat.toDigits 10 digits = run at hdigits hvalue ⊢
    rw [positional]
    split
    · next hplaces =>
      -- The point stands among the digits.
      have hlength : (run.drop (run.length - (exponent + 1))).length = exponent + 1 := by
        rw [List.length_drop]
        omega
      refine isUnsigned_of_fraction ?_ (fun c hc => hdigits c (List.mem_of_mem_take hc))
        (.point fun c hc => hdigits c (List.mem_of_mem_drop hc)) ?_
      · refine List.ne_nil_of_length_pos ?_
        rw [List.length_take]
        omega
      · rw [List.take_append_drop, hvalue, hlength]
        exact hread
    · next hplaces =>
      -- Zeros stand between the point and the digits.
      have hlength : (List.replicate (exponent + 1 - run.length) '0' ++ run).length
          = exponent + 1 := by
        rw [List.length_append, List.length_replicate]
        omega
      show IsUnsigned negative
        (['0'] ++ '.' :: (List.replicate (exponent + 1 - run.length) '0' ++ run)) _
      refine isUnsigned_of_fraction (List.cons_ne_nil '0' []) (hzeros 1)
        (.point (List.forall_mem_append.2 ⟨hzeros _, hdigits⟩)) ?_
      have hfront : Nat.ofDigitChars 10
          (['0'] ++ (List.replicate (exponent + 1 - run.length) '0' ++ run)) 0 = digits := by
        rw [← List.append_assoc, show ['0'] = List.replicate 1 '0' from rfl,
          List.replicate_append_replicate, Nat.ofDigitChars_append,
          Nat.ofDigitChars_replicate_zero, Nat.mul_zero, hvalue]
      rw [hfront, hlength]
      exact hread

/-- Digits laid out without an exponent have no other characters but a point. -/
theorem mem_positional {digits : List Char} (h : ∀ c ∈ digits, isDigit c) (exponent : Int) :
    ∀ c ∈ positional false digits exponent, isDigit c ∨ c = '.' := by
  intro c hc
  have hzero {k : Nat} (hmem : c ∈ List.replicate k '0') : isDigit c :=
    List.eq_of_mem_replicate hmem ▸ by decide
  cases exponent with
  | ofNat exponent =>
    simp only [positional, Bool.false_eq_true, if_false, List.append_nil, List.mem_append] at hc
    exact .inl (hc.elim (h c) hzero)
  | negSucc exponent =>
    rw [positional] at hc
    split at hc
    · rcases List.mem_append.1 hc with hfront | hback
      · exact .inl (h c (List.mem_of_mem_take hfront))
      · rcases List.mem_cons.1 hback with rfl | hback
        · exact .inr rfl
        · exact .inl (h c (List.mem_of_mem_drop hback))
    · rcases List.mem_cons.1 hc with rfl | hc
      · exact .inl (by decide)
      · rcases List.mem_append.1 hc with hfront | hback
        · rcases List.mem_cons.1 hfront with rfl | hfront
          · exact .inr rfl
          · exact .inl (hzero hfront)
        · exact .inl (h c hback)

/-- A numeral stays one behind the sign of its number. -/
theorem isDecimal_withSign {negative : Bool} {text : List Char} {x : Binary64}
    (h : IsUnsigned negative text x) : IsDecimal (withSign negative text) x := by
  cases negative with
  | false => exact ⟨[], false, text, rfl, .none, h⟩
  | true => exact ⟨['-'], true, text, rfl, .minus, h⟩

theorem isPlain_toPlain (x : Binary64) : IsPlain x x.toPlain.toList := by
  rw [toPlain, String.toList_ofList]
  cases x with
  | nan => exact .nan
  | infinite negative =>
    cases negative with
    | false => exact .positiveInfinity
    | true => exact .negativeInfinity
  | finite negative m =>
    -- Zero has no shortest numeral, but the digit zero in the same layout.
    have hmagnitude : ∃ digits exponent, plain.magnitude m = positional false digits exponent
        ∧ (∀ c ∈ digits, isDigit c)
        ∧ IsUnsigned negative (positional false digits exponent) (.finite negative m) := by
      unfold Spelling.magnitude
      split
      · next hquanta =>
        have hzero : ∀ c ∈ ['0'], isDigit c := List.forall_mem_singleton.2 (by decide)
        refine ⟨['0'], 0, rfl, hzero, ?_⟩
        refine @isUnsigned_of_fraction _ ['0'] _ _ _ (by decide) hzero .none ?_
        rw [eq_zeroMagnitude hquanta]
        rfl
      · next hpos =>
        exact ⟨_, _, rfl, fun _ => isDigit_of_mem_toDigits,
          isUnsigned_positional (roundsTo_shortest .upward hpos) hpos negative⟩
    obtain ⟨digits, exponent, heq, hdigits, hunsigned⟩ := hmagnitude
    show IsPlain _ (withSign negative (plain.magnitude m))
    rw [heq]
    refine .finite (isDecimal_withSign hunsigned) fun c hc => ?_
    have hbody := mem_positional hdigits exponent c
    unfold withSign at hc
    split at hc
    · rcases List.mem_cons.1 hc with rfl | hc
      · exact .inr (.inr rfl)
      · exact (hbody hc).imp_right .inl
    · exact (hbody hc).imp_right .inl

end RubricScore.Binary64
