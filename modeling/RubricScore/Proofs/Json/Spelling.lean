import RubricScore.Json.Value
import RubricScore.Proofs.Binary64.Shortest
import RubricScore.Proofs.Json.Numeral

/-!
# Numbers as they are written

Every number of a document that is finite is written as a well-formed numeral: words and negative
integers by their digits, floating-point numbers by their shortest digits, with a point or an
exponent.

## Main definitions

* `Numeral.positional`, `Numeral.scientific`: digits laid out without and with an exponent;
* `Numeral.ofFinite`: the numeral that is written for a finite floating-point number;
* `Numeral.ofNat`: the numeral of an integer.

## Main results

* `Numeral.text_ofFinite`, `Numeral.text_ofNat`: their texts are those that are written;
* `Numeral.wellFormed_ofFinite`, `Numeral.wellFormed_ofNat`: they are well-formed.
-/

namespace RubricScore.Json

open Binary64 (isDigit isDigit_of_mem_toDigits toDigits_eq_cons)

/-- Digits without a leading zero. -/
structure IsSignificand (digits : List Char) : Prop where
  /-- The first digit is not zero. -/
  first : ∃ c rest, digits = c :: rest ∧ c ≠ '0'
  /-- They are digits. -/
  all : ∀ c ∈ digits, isDigit c

theorem isSignificand_toDigits {n : Nat} (h : n ≠ 0) : IsSignificand (Nat.toDigits 10 n) :=
  ⟨toDigits_eq_cons (Nat.pos_of_ne_zero h), fun _ => isDigit_of_mem_toDigits⟩

theorem IsSignificand.ne_nil {digits : List Char} (h : IsSignificand digits) : digits ≠ [] := by
  obtain ⟨c, rest, rfl, -⟩ := h.first
  exact List.cons_ne_nil c rest

theorem isDigit_of_mem_replicate {n : Nat} {c : Char} (h : c ∈ List.replicate n '0') :
    isDigit c := by
  rw [(List.mem_replicate.1 h).2]
  decide

namespace Numeral

/-! ## Layouts -/

/-- Digits without an exponent, the last one having the given power of ten. At least one digit
stands on each side of the point. -/
def positional (negative : Bool) (digits : List Char) : Int → Numeral
  | .ofNat exponent => ⟨negative, digits ++ List.replicate exponent '0', ['0'], none⟩
  | .negSucc exponent =>
    let places := exponent + 1
    if places < digits.length then
      ⟨negative, digits.take (digits.length - places), digits.drop (digits.length - places), none⟩
    else ⟨negative, ['0'], List.replicate (places - digits.length) '0' ++ digits, none⟩

/-- Digits with an exponent, one of them before the point. -/
def scientific (negative : Bool) (digits : List Char) (exponent : Int) : Numeral :=
  ⟨negative, digits.take 1, digits.drop 1,
    some (decide (exponent < 0), Nat.toDigits 10 exponent.natAbs)⟩

theorem fractionText_of_ne_nil {digits : List Char} (h : digits ≠ []) :
    fractionText digits = '.' :: digits := by
  obtain ⟨c, rest, rfl⟩ := List.exists_cons_of_ne_nil h
  rfl

theorem text_positional {digits : List Char} (h : digits ≠ []) (negative : Bool)
    (exponent : Int) :
    (positional negative digits exponent).text
      = Binary64.withSign negative (Binary64.positional true digits exponent) := by
  cases exponent with
  | ofNat exponent => rw [positional, text, Binary64.positional, exponentText, List.append_nil]; rfl
  | negSucc exponent =>
    rw [positional, Binary64.positional]
    by_cases hplaces : exponent + 1 < digits.length
    · -- Some digits stand on each side of the point.
      have hdrop : digits.drop (digits.length - (exponent + 1)) ≠ [] := by
        rw [Ne, List.drop_eq_nil_iff]
        omega
      rw [if_pos hplaces, if_pos hplaces, text, fractionText_of_ne_nil hdrop, exponentText,
        List.append_nil]
    · rw [if_neg hplaces, if_neg hplaces, text, fractionText_of_ne_nil (by simp [h]), exponentText,
        List.append_nil]
      rfl

theorem text_scientific {digits : List Char} (h : digits ≠ []) (negative : Bool) (exponent : Int) :
    (scientific negative digits exponent).text
      = Binary64.withSign negative (Binary64.scientific digits exponent) := by
  obtain ⟨c, rest, rfl⟩ := List.exists_cons_of_ne_nil h
  rw [scientific, text, exponentText]
  simp only [decide_eq_true_eq]
  cases rest <;> rfl

theorem wellFormed_positional {digits : List Char} (h : IsSignificand digits) (negative : Bool)
    (exponent : Int) : (positional negative digits exponent).WellFormed := by
  obtain ⟨⟨c, rest, rfl, hne⟩, hdigits⟩ := h
  cases exponent with
  | ofNat exponent =>
    refine ⟨.inr ⟨c, rest ++ List.replicate exponent '0', rfl, hne⟩, fun d hd => ?_, fun d hd => ?_,
      fun _ _ he => ?_⟩
    · rcases List.mem_append.1 hd with hin | hin
      · exact hdigits d hin
      · exact isDigit_of_mem_replicate hin
    · rw [List.mem_singleton.1 hd]
      decide
    · exact absurd he (by simp [positional])
  | negSucc exponent =>
    rw [positional]
    by_cases hplaces : exponent + 1 < (c :: rest).length
    · rw [if_pos hplaces]
      obtain ⟨front, hfront⟩ : ∃ front, (c :: rest).length - (exponent + 1) = front + 1 :=
        ⟨(c :: rest).length - (exponent + 1) - 1, by omega⟩
      rw [hfront]
      -- The first digit is kept before the point, and it is not zero.
      exact ⟨.inr ⟨c, rest.take front, rfl, hne⟩, fun d hd => hdigits d (List.mem_of_mem_take hd),
        fun d hd => hdigits d (List.mem_of_mem_drop hd), fun _ _ he => absurd he (by simp)⟩
    · rw [if_neg hplaces]
      refine ⟨.inl rfl, fun d hd => ?_, fun d hd => ?_, fun _ _ he => absurd he (by simp)⟩
      · rw [List.mem_singleton.1 hd]
        decide
      · rcases List.mem_append.1 hd with hin | hin
        · exact isDigit_of_mem_replicate hin
        · exact hdigits d hin

theorem wellFormed_scientific {digits : List Char} (h : IsSignificand digits) (negative : Bool)
    (exponent : Int) : (scientific negative digits exponent).WellFormed := by
  obtain ⟨⟨c, rest, rfl, hne⟩, hdigits⟩ := h
  refine ⟨.inr ⟨c, [], rfl, hne⟩, fun d hd => hdigits d (List.mem_of_mem_take hd),
    fun d hd => hdigits d (List.mem_of_mem_drop hd), fun minus ds he => ?_⟩
  have hds : Nat.toDigits 10 exponent.natAbs = ds := congrArg Prod.snd (Option.some.inj he)
  rw [← hds]
  exact ⟨Nat.toDigits_ne_nil, fun _ => isDigit_of_mem_toDigits⟩

/-! ## Floating-point numbers -/

/-- The numeral that is written for a finite number: its shortest digits, with an exponent when the
number is very large or very small. -/
def ofFinite (negative : Bool) (m : Magnitude) : Numeral :=
  if m.quanta = 0 then positional negative ['0'] 0
  else
    let d := Binary64.shortest .toEven m
    let digits := Nat.toDigits 10 d.digits
    let leading := d.exponent + (digits.length - 1 : Nat)
    if Binary64.data.isPositional leading then positional negative digits d.exponent
    else scientific negative digits leading

/-- The numeral of a finite number has the text that is written for it. -/
theorem text_ofFinite (negative : Bool) (m : Magnitude) :
    (ofFinite negative m).text = Binary64.data.text (.finite negative m) := by
  rw [ofFinite, Binary64.Spelling.text, Binary64.Spelling.magnitude]
  by_cases hzero : m.quanta = 0
  · rw [if_pos hzero, if_pos hzero]
    exact text_positional (List.cons_ne_nil _ _) negative 0
  · rw [if_neg hzero, if_neg hzero, Binary64.Spelling.numeral]
    have htie : Binary64.data.tie = .toEven := rfl
    rw [htie]
    dsimp only
    split
    · exact text_positional Nat.toDigits_ne_nil negative _
    · exact text_scientific Nat.toDigits_ne_nil negative _

theorem wellFormed_ofFinite (negative : Bool) (m : Magnitude) :
    (ofFinite negative m).WellFormed := by
  rw [ofFinite]
  by_cases hzero : m.quanta = 0
  · rw [if_pos hzero]
    refine ⟨.inl rfl, fun c hc => ?_, fun c hc => ?_, fun _ _ he => absurd he (by simp [positional])⟩
    · rw [List.mem_singleton.1 hc]
      decide
    · rw [List.mem_singleton.1 hc]
      decide
  · have hsignificand : IsSignificand (Nat.toDigits 10 (Binary64.shortest .toEven m).digits) :=
      isSignificand_toDigits ((Binary64.roundsTo_shortest .toEven hzero).digits_ne_zero hzero)
    rw [if_neg hzero]
    dsimp only
    split
    · exact wellFormed_positional hsignificand negative _
    · exact wellFormed_scientific hsignificand negative _

/-! ## Integers -/

/-- The numeral of an integer. -/
def ofNat (negative : Bool) (n : Nat) : Numeral :=
  ⟨negative, Nat.toDigits 10 n, [], none⟩

theorem text_ofNat (negative : Bool) (n : Nat) :
    (ofNat negative n).text = Binary64.withSign negative (Nat.toDigits 10 n) := by
  rw [ofNat, text, fractionText, exponentText, List.append_nil, List.append_nil]

theorem wellFormed_ofNat (negative : Bool) (n : Nat) : (ofNat negative n).WellFormed := by
  refine ⟨?_, fun _ => isDigit_of_mem_toDigits, fun _ hc => absurd hc List.not_mem_nil,
    fun _ _ he => absurd he (by simp [ofNat])⟩
  by_cases hzero : n = 0
  · subst hzero
    exact .inl rfl
  · exact .inr (toDigits_eq_cons (Nat.pos_of_ne_zero hzero))

end Numeral

end RubricScore.Json
