import RubricScore.Proofs.Json.Codec

/-!
# Every finite number is read back as a number

The text of a finite number never overflows when it is read, although reading rounds three times: the
digits, the power of ten and their product. The greatest finite number is read by evaluation. The
text of any other number stands for a value at least half a spacing below the greatest one, and then
the product stays below the limit for every power of ten.

## Main definitions

* `largeBound`: no numeral of a number below the greatest one stands for more quanta.

## Main results

* `isSome_scale`: a word times a power of ten is read if it stands for no more than the bound;
* `inQuanta_le`: the numeral of a number below the greatest one stands for no more than the bound;
* `isSome_reread`: the text of a finite number is read as a number.
-/

namespace RubricScore.Json

open Binary64

attribute [local irreducible] twoPow one limit

/-! ## Scaling -/

/-- The midpoint between the greatest finite number and the one before it. -/
def largeBound : Nat :=
  limit - twoPow 2045 - twoPow 2044

/-- The greatest word that stands for no more than the bound when so many zeros follow it. -/
def greatestWord (exponent : Nat) : Nat :=
  Nat.min (UInt64.size - 1) (largeBound / (Nat.pow 10 exponent * one))

/-- The greatest product of a rounded word and a rounded power of ten. -/
def greatestProduct (exponent : Nat) : Nat :=
  nearest (nearest (greatestWord exponent * one) 1 * nearest (Nat.pow 10 exponent * one) 1) one

/-- Up to the exponent 288 the bound allows every word, and above 308 none but zero. In between the
greatest factors and even the greatest product stay below the limit. -/
theorem greatestProduct_lt : ∀ k < 21,
    nearest (greatestWord (288 + k) * one) 1 < limit
      ∧ nearest (Nat.pow 10 (288 + k) * one) 1 < limit
      ∧ greatestProduct (288 + k) < limit := by
  decide +kernel

/-- What the bound allows: every word before 288 zeros or none, and only zero before 309. -/
theorem largeBound_allows :
    greatestWord 288 = UInt64.size - 1
      ∧ UInt64.size * one ≤ largeBound
      ∧ largeBound < Nat.pow 10 309 * one := by
  decide +kernel

/-- A word within the bound is at most the greatest one, and below the exponent 288 every word is
within it. -/
theorem le_greatestWord {word exponent : Nat} (hword : word < UInt64.size)
    (h : word * Nat.pow 10 exponent * one ≤ largeBound) :
    word ≤ greatestWord (max exponent 288) := by
  by_cases hsmall : exponent ≤ 288
  · rw [Nat.max_eq_right hsmall, largeBound_allows.1]
    omega
  · rw [Nat.max_eq_left (by omega)]
    refine Nat.le_min.2 ⟨by omega, ?_⟩
    rw [Nat.le_div_iff_mul_le (Nat.mul_pos (pow_ten_pos exponent) unit_pos), ← Nat.mul_assoc]
    exact h

/-- An exponent beyond the bound stands for more than the bound. -/
theorem exponent_lt {word exponent beyond : Nat} (hbeyond : largeBound < Nat.pow 10 beyond * one)
    (hword : 0 < word) (h : word * Nat.pow 10 exponent * one ≤ largeBound) : exponent < beyond := by
  by_contra hlarge
  have hpow := pow_ten_mono (Nat.not_lt.1 hlarge)
  have hle : Nat.pow 10 beyond * one ≤ word * Nat.pow 10 exponent * one :=
    Nat.mul_le_mul_right one (Nat.le_trans hpow (Nat.le_mul_of_pos_left _ hword))
  omega

/-- Rounding keeps the order of the powers of ten. -/
theorem nearest_pow_ten_mono {m n : Nat} (h : m ≤ n) :
    nearest (Nat.pow 10 m * one) 1 ≤ nearest (Nat.pow 10 n * one) 1 :=
  nearest_mono Nat.one_pos Nat.one_pos
    (Nat.mul_le_mul_right 1 (Nat.mul_le_mul_right one (pow_ten_mono h)))

/-- A power of ten that does not overflow is the rounded number. -/
theorem powerOfTen_eq {exponent : Nat} (h : exponent < 309) :
    powerOfTen exponent = Binary64.ofNat (Nat.pow 10 exponent) := by
  show ofDecimal false 1 (.ofNat exponent) = _
  rw [ofDecimal, if_neg (by decide), if_neg (by omega), Nat.one_mul]
  rfl

/-- The product that a word is read as, when it stands for no more than the bound. -/
theorem hasQuanta_product {word exponent : Nat} (hword : word < UInt64.size)
    (h : word * Nat.pow 10 exponent * one ≤ largeBound) (hexponent : exponent < 309) :
    ∃ q, (Binary64.ofNat word * powerOfTen exponent).HasQuanta q := by
  obtain ⟨k, hk, heq⟩ : ∃ k < 21, max exponent 288 = 288 + k :=
    ⟨max exponent 288 - 288, by omega, by omega⟩
  -- A small exponent is replaced by 288, which makes the product greater.
  have hwordLe := le_greatestWord hword h
  have hpowQuanta := nearest_pow_ten_mono (Nat.le_max_left exponent 288)
  rw [heq] at hwordLe hpowQuanta
  have hwordQuanta : nearest (word * one) 1 ≤ nearest (greatestWord (288 + k) * one) 1 :=
    nearest_mono Nat.one_pos Nat.one_pos
      (Nat.mul_le_mul_right 1 (Nat.mul_le_mul_right one hwordLe))
  have hproduct : nearest (nearest (word * one) 1 * nearest (Nat.pow 10 exponent * one) 1) one
      ≤ greatestProduct (288 + k) :=
    nearest_mono unit_pos unit_pos
      (Nat.mul_le_mul_right one (Nat.mul_le_mul hwordQuanta hpowQuanta))
  obtain ⟨hwordLt, hpowLt, hproductLt⟩ := greatestProduct_lt k hk
  have hx := hasQuanta_ofNat_nearest (Nat.lt_of_le_of_lt hwordQuanta hwordLt)
  have hy := hasQuanta_ofNat_nearest (Nat.lt_of_le_of_lt hpowQuanta hpowLt)
  rw [← powerOfTen_eq hexponent] at hy
  exact ⟨_, hx.mul hy (Nat.lt_of_le_of_lt hproduct hproductLt)⟩

/-- A word times a power of ten is read as a number if it stands for no more than the bound. -/
theorem isSome_scale {word exponent : Nat} (hword : word < UInt64.size)
    (h : word * Nat.pow 10 exponent * one ≤ largeBound) : (scale word (.ofNat exponent)).isSome := by
  rw [scale]
  dsimp only
  by_cases hexponent : 308 < exponent
  · -- Only a zero is within the bound, and it is read as it is.
    have hzero : word = 0 := by
      by_contra hne
      have := exponent_lt largeBound_allows.2.2 (Nat.pos_of_ne_zero hne) h
      omega
    have hisZero : (Binary64.ofNat 0).isZero = true := by decide +kernel
    rw [if_pos hexponent, hzero, if_pos hisZero]
    rfl
  · obtain ⟨q, hq⟩ := hasQuanta_product hword h (by omega)
    rw [if_neg hexponent, if_pos hq.isFinite]
    rfl

/-- A word is read as a number at every power of ten at which it stands for no more than the bound; at
a negative power it always is. -/
theorem isSome_scale_of {word : Nat} {places : Int} (hword : word < UInt64.size)
    (h : ∀ exponent : Nat, places = exponent → word * Nat.pow 10 exponent * one ≤ largeBound) :
    (scale word places).isSome := by
  cases places with
  | ofNat exponent => exact isSome_scale hword (h exponent rfl)
  | negSucc exponent => rfl

/-! ## Values of written numerals -/

/-- The quanta of the greatest finite number. -/
def greatestQuanta : Nat :=
  limit - twoPow 2045

/-- In units of the greatest spacing, the greatest magnitude is the greatest significand. -/
theorem greatestQuanta_eq :
    limit = twoPow 2045 * twoPow precision
      ∧ greatestQuanta = twoPow 2045 * (twoPow precision - 1)
      ∧ greatestQuanta - twoPow 2045 = twoPow 2045 * (twoPow precision - 2)
      ∧ twoPow 2097 ≤ greatestQuanta - twoPow 2045
      ∧ 2 * (greatestQuanta - twoPow 2045) + twoPow 2045 = 2 * largeBound := by
  decide +kernel

/-- The spacing is the greatest one from `2 ^ 2097` quanta on. -/
theorem spacing_eq_greatest {quanta : Nat} (hlow : twoPow 2097 ≤ quanta) (hhigh : quanta < limit) :
    spacing quanta = 2045 := by
  have hleast : spacing (twoPow 2097) = 2045 := by
    rw [spacing, log2_twoPow]
    rfl
  rw [← hleast]
  refine spacing_eq_of_le_of_lt hlow ?_
  rw [hleast]
  rw [limit] at hhigh
  exact hhigh

/-- A magnitude below the greatest one lies at least a spacing below it. -/
theorem le_of_ne_greatest {m : Magnitude} (h : m.quanta ≠ greatestQuanta) :
    m.quanta ≤ greatestQuanta - twoPow 2045 := by
  by_contra hlt
  obtain ⟨htop, hgreatest, hnext, hgap, -⟩ := greatestQuanta_eq
  have hspacing : spacing m.quanta = 2045 := spacing_eq_greatest (by omega) m.bounded
  have hbounded := m.bounded
  -- Between the two, significands can be compared.
  obtain ⟨significand, hsig⟩ := m.fits
  rw [hspacing] at hsig
  rw [hsig, htop] at hbounded
  rw [hsig, hnext, Nat.not_le] at hlt
  have hless := Nat.lt_of_mul_lt_mul_left hbounded
  have hmore := Nat.lt_of_mul_lt_mul_left hlt
  refine h ?_
  rw [hsig, hgreatest]
  congr 1
  omega

/-- A numeral that is rounded to a magnitude below the greatest one stands for no more than the bound. -/
theorem inQuanta_le {d : Decimal} {m : Magnitude} (hrounds : d.RoundsTo m)
    (hgreatest : m.quanta ≠ greatestQuanta) : d.inQuanta.1 ≤ largeBound * d.inQuanta.2 := by
  by_contra hlt
  obtain ⟨-, -, hnext, hgap, hbound⟩ := greatestQuanta_eq
  have hmag : IsMagnitude (greatestQuanta - twoPow 2045) := by
    rw [hnext, Nat.mul_comm]
    exact isMagnitude_mul_twoPow (Nat.sub_le _ _) 2045
  have hspacing : spacing (greatestQuanta - twoPow 2045) = 2045 := by
    have hpos := twoPow_pos 2045
    have hlimit := limit_pos
    exact spacing_eq_greatest hgap (by unfold greatestQuanta; omega)
  have habove : (2 * (greatestQuanta - twoPow 2045)
      + twoPow (spacing (greatestQuanta - twoPow 2045))) * d.inQuanta.2 < 2 * d.inQuanta.1 := by
    rw [hspacing, hbound, Nat.mul_assoc]
    omega
  -- Above the midpoint the numeral would be rounded to the greatest magnitude or beyond.
  have hnearest := lt_nearest_of_half d.inQuanta_den_pos hmag habove
  have hpos := twoPow_pos (spacing (greatestQuanta - twoPow 2045))
  have hle := le_of_ne_greatest hgreatest
  rw [hrounds] at hnearest
  omega

/-- A part of the digits stands for no more than the whole numeral. -/
theorem mul_pow_le_largeBound {d : Decimal} (h : d.inQuanta.1 ≤ largeBound * d.inQuanta.2)
    {word shift exponent : Nat} (hword : word * Nat.pow 10 shift ≤ d.digits)
    (hexponent : d.exponent + shift = exponent) :
    word * Nat.pow 10 exponent * one ≤ largeBound := by
  obtain ⟨digits, places⟩ := d
  -- The exponent is a factor of the digits or of the bound, by its sign.
  cases places with
  | ofNat places =>
    have hsum : exponent = shift + places := by
      have : (places : Int) + shift = exponent := hexponent
      omega
    have hvalue : digits * Nat.pow 10 places * one * 1 ≤ largeBound * 1 := by
      rw [Nat.mul_one]
      exact h
    have hpow : Nat.pow 10 (shift + places) = Nat.pow 10 shift * Nat.pow 10 places :=
      Nat.pow_add 10 shift places
    rw [Nat.mul_one, Nat.mul_one] at hvalue
    refine Nat.le_trans (Nat.mul_le_mul_right one ?_) hvalue
    rw [hsum, hpow, ← Nat.mul_assoc]
    exact Nat.mul_le_mul_right _ hword
  | negSucc places =>
    have hsum : shift = exponent + (places + 1) := by
      have : Int.negSucc places + (shift : Int) = exponent := hexponent
      omega
    have hvalue : digits * one ≤ largeBound * Nat.pow 10 (places + 1) := h
    have hpow : Nat.pow 10 (exponent + (places + 1))
        = Nat.pow 10 exponent * Nat.pow 10 (places + 1) := Nat.pow_add 10 exponent (places + 1)
    rw [hsum, hpow] at hword
    refine Nat.le_of_mul_le_mul_right ?_ (pow_ten_pos (places + 1))
    calc word * Nat.pow 10 exponent * one * Nat.pow 10 (places + 1)
        = word * (Nat.pow 10 exponent * Nat.pow 10 (places + 1)) * one := by ring
      _ ≤ digits * one := Nat.mul_le_mul_right one hword
      _ ≤ largeBound * Nat.pow 10 (places + 1) := hvalue

/-! ## Reading numerals -/

/-- A numeral with few digits before its point and without an exponent is read. -/
theorem isSome_magnitude_of_short {n : Numeral} (h : n.WellFormed) (hexponent : n.exponent = none)
    (hlength : n.whole.length ≤ 19) : n.magnitude?.isSome := by
  have hwhole := gather_of_length_le h.wholeDigits hlength
  have hfront : Nat.ofDigitChars 10 n.whole 0 < UInt64.size := by
    have hgather : (gather 0 n.whole).1 < UInt64.size :=
      (gather_spec h.wholeDigits (by decide)).1
    rwa [hwhole] at hgather
  obtain ⟨hword, -, -⟩ := gather_spec h.fractionDigits hfront
  unfold Numeral.magnitude?
  rw [hwhole, hexponent]
  refine isSome_scale_of hword fun exponent hplaces => ?_
  have hzero : exponent = 0 := by
    rw [List.length_nil] at hplaces
    omega
  rw [hzero]
  refine Nat.le_trans (Nat.mul_le_mul_right one ?_) largeBound_allows.2.1
  exact Nat.le_trans (Nat.le_of_eq (Nat.mul_one _)) (Nat.le_of_lt hword)

/-- A number laid out with an exponent is read if it stands for no more than the bound. -/
theorem isSome_magnitude_scientific {d : Decimal} (h : d.inQuanta.1 ≤ largeBound * d.inQuanta.2)
    (hdigits : d.digits ≠ 0) (negative : Bool) :
    (Numeral.scientific negative (Nat.toDigits 10 d.digits)
      (d.exponent + ((Nat.toDigits 10 d.digits).length - 1 : Nat))).magnitude?.isSome := by
  have hpower := pow_length_le hdigits
  have hvalue : Nat.ofDigitChars 10 (Nat.toDigits 10 d.digits) 0 = d.digits :=
    Nat.ofDigitChars_ten_toDigits
  have hall : ∀ c ∈ Nat.toDigits 10 d.digits, isDigit c := fun _ => isDigit_of_mem_toDigits
  obtain ⟨c, rest, heq, -⟩ := toDigits_eq_cons (Nat.pos_of_ne_zero hdigits)
  rw [heq] at hpower hvalue hall ⊢
  rw [List.length_cons, Nat.add_sub_cancel] at hpower ⊢
  generalize hleading : d.exponent + (rest.length : Int) = leading
  have hfirst : ∀ b ∈ [c], isDigit b := fun b hb =>
    hall b (List.mem_singleton.1 hb ▸ List.mem_cons_self)
  have hgather := gather_of_length_le hfirst (by simp)
  have hfront : Nat.ofDigitChars 10 [c] 0 < UInt64.size := by
    have hword : (gather 0 [c]).1 < UInt64.size := (gather_spec hfirst (by decide)).1
    rwa [hgather] at hword
  obtain ⟨hword, hpart, -⟩ :=
    gather_spec (fun b hb => hall b (List.mem_cons_of_mem c hb)) hfront
  have hleft := length_gather_le (Nat.ofDigitChars 10 [c] 0) rest
  rw [← Nat.ofDigitChars_append, List.singleton_append, hvalue] at hpart
  unfold Numeral.magnitude? Numeral.scientific
  simp only [List.take_succ_cons, List.take_zero, List.drop_succ_cons, List.drop_zero, hgather,
    digitsValue_toDigits]
  split
  · next hlarge =>
    -- An exponent that is not negative is below 309, so this one is and the numeral is zero.
    have hnegative : leading < 0 := by
      by_contra hnonneg
      obtain ⟨exponent, rfl⟩ := Int.eq_ofNat_of_zero_le (Int.not_lt.1 hnonneg)
      have hle := mul_pow_le_largeBound h (Nat.le_trans (Nat.le_of_eq (Nat.one_mul _)) hpower)
        hleading
      have := exponent_lt largeBound_allows.2.2 Nat.one_pos hle
      rw [exponentLimit, Int.natAbs_natCast] at hlarge
      omega
    rw [if_neg (by simp [hnegative])]
    rfl
  · -- The digits that are left over shift the word to where it stands in the numeral.
    refine isSome_scale_of hword fun exponent hplaces => ?_
    refine mul_pow_le_largeBound h hpart ?_
    have hsigned : signed (decide (leading < 0)) leading.natAbs = leading := by
      unfold signed
      split
      · next hnegative =>
        have := of_decide_eq_true hnegative
        omega
      · next hnonneg =>
        have : ¬ leading < 0 := fun hlt => hnonneg (decide_eq_true hlt)
        omega
    rw [hsigned, ← hleading, List.length_nil] at hplaces
    omega

/-- A number laid out without an exponent is read if its first digit stands low enough. -/
theorem isSome_magnitude_positional {digits : List Char} (h : IsSignificand digits)
    {exponent : Int} (hleading : exponent + (digits.length - 1 : Nat) < 16) (negative : Bool) :
    (Numeral.positional negative digits exponent).magnitude?.isSome := by
  have hlength := List.length_pos_iff.2 h.ne_nil
  refine isSome_magnitude_of_short (Numeral.wellFormed_positional h negative exponent) ?_ ?_
  · cases exponent with
    | ofNat => rfl
    | negSucc exponent =>
      rw [Numeral.positional]
      split <;> rfl
  · cases exponent with
    | ofNat exponent =>
      rw [Numeral.positional, List.length_append, List.length_replicate]
      have : (exponent : Int) + (digits.length - 1 : Nat) < 16 := hleading
      omega
    | negSucc exponent =>
      rw [Numeral.positional]
      split
      · rw [List.length_take]
        omega
      · exact (by decide : ['0'].length ≤ 19)

/-! ## Reading finite numbers -/

/-- The numeral of a magnitude below the greatest one is read. -/
theorem isSome_magnitude_ofFinite (negative : Bool) {m : Magnitude}
    (hgreatest : m.quanta ≠ greatestQuanta) :
    (Numeral.ofFinite negative m).magnitude?.isSome := by
  rw [Numeral.ofFinite]
  by_cases hzero : m.quanta = 0
  · rw [if_pos hzero]
    cases negative <;> decide +kernel
  · have hrounds := roundsTo_shortest .toEven hzero
    have hdigits := hrounds.digits_ne_zero hzero
    rw [if_neg hzero]
    dsimp only
    split
    · next hpositional =>
      have hleading := of_decide_eq_true (Bool.and_eq_true _ _ ▸ hpositional).2
      exact isSome_magnitude_positional (isSignificand_toDigits hdigits) hleading negative
    · exact isSome_magnitude_scientific (inQuanta_le hrounds hgreatest) hdigits negative

/-- A numeral that has a magnitude is read as a number. -/
theorem isSome_number {n : Numeral} (h : n.magnitude?.isSome) : n.number?.isSome := by
  unfold Numeral.number?
  dsimp only
  split
  · rfl
  · rwa [Option.isSome_map]

/-- The text of a finite number is read as a number. -/
theorem isSome_reread {x : Binary64} (h : x.isFinite) : (reread x).isSome := by
  cases x with
  | nan => exact absurd h Bool.false_ne_true
  | infinite => exact absurd h Bool.false_ne_true
  | finite negative m =>
    -- The greatest magnitude is above the bound, and its text is short enough to be evaluated.
    have hnumber : (Numeral.ofFinite negative m).number?.isSome := by
      by_cases hgreatest : m.quanta = greatestQuanta
      · have heq : m = ⟨greatestQuanta, by decide +kernel, by decide +kernel⟩ := by
          cases m
          subst hgreatest
          rfl
        rw [heq]
        cases negative <;> decide +kernel
      · exact isSome_number (isSome_magnitude_ofFinite negative hgreatest)
    obtain ⟨n, hn⟩ := Option.isSome_iff_exists.1 hnumber
    have hread : (Numeral.ofFinite negative m).read = .ok n := by
      rw [Numeral.read, hn]
    rw [reread_eq _ 0]
    show (readReal 0 (.number (Numeral.ofFinite negative m))).toOption.isSome
    rw [readReal, hread]
    cases n <;> rfl

end RubricScore.Json
