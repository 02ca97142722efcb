import Mathlib.Tactic.Ring
import RubricScore.Binary64.Decimal
import RubricScore.Json.Number

/-!
# Decimal digits

Facts about runs of decimal digits: those that `Nat.toDigits` writes, the value that a reader finds
in a run, and the word that `Json.gather` makes of it.

* `digitsValue_toDigits`: reading the digits of a natural number gives the number;
* `toDigits_eq_cons`: a positive number is written without a leading zero;
* `pow_length_le`: it is at least the power of ten that its first digit stands for;
* `gather_spec`: the gathered word, with a zero for each digit left over, is at most the value of the
  whole run, and it is that value when it is a word.
-/

namespace RubricScore.Binary64

/-- The two notions of a decimal digit agree. -/
theorem isDigit_eq (c : Char) : isDigit c = c.isDigit := by
  unfold isDigit digit? Char.isDigit
  simp only [Char.le_def]
  by_cases h : '0'.val ≤ c.val ∧ c.val ≤ '9'.val
  · rw [if_pos h]
    simpa using h
  · rw [if_neg h]
    simpa using h

/-- The value of a digit is its distance from the digit zero. -/
theorem digit?_of_isDigit {c : Char} (h : isDigit c) : digit? c = some (c.toNat - '0'.toNat) := by
  unfold isDigit digit? at h
  unfold digit?
  split at h
  · rw [if_pos ‹_›]
  · simp at h

/-- The value of a run of digits, continued from a number that was read before it. -/
theorem foldl_digits_eq {digits : List Char} (h : ∀ c ∈ digits, isDigit c) (start : Nat) :
    digits.foldl (fun n c => n * 10 + (digit? c).getD 0) start
      = Nat.ofDigitChars 10 digits start := by
  induction digits generalizing start with
  | nil => rfl
  | cons c rest ih =>
    rw [List.foldl_cons, Nat.ofDigitChars_cons, ih fun d hd => h d (List.mem_cons_of_mem _ hd),
      digit?_of_isDigit (h c List.mem_cons_self), Option.getD_some, Nat.mul_comm]

theorem digitsValue_eq {digits : List Char} (h : ∀ c ∈ digits, isDigit c) :
    digitsValue digits = Nat.ofDigitChars 10 digits 0 :=
  foldl_digits_eq h 0

theorem isDigit_of_mem_toDigits {n : Nat} {c : Char} (h : c ∈ Nat.toDigits 10 n) : isDigit c := by
  rw [isDigit_eq]
  exact Nat.isDigit_of_mem_toDigits (by decide) (by decide) h

/-- The digits of a natural number read back as the number. -/
theorem digitsValue_toDigits (n : Nat) : digitsValue (Nat.toDigits 10 n) = n := by
  rw [digitsValue_eq fun _ => isDigit_of_mem_toDigits]
  exact Nat.ofDigitChars_toDigits (by decide) (by decide)

/-- A positive number is written without a leading zero. -/
theorem toDigits_eq_cons {n : Nat} (h : 0 < n) :
    ∃ c rest, Nat.toDigits 10 n = c :: rest ∧ c ≠ '0' := by
  induction n using Nat.base_induction 10 (by decide) with
  | single m hm =>
    rw [Nat.toDigits_of_lt_base hm]
    refine ⟨_, _, rfl, ?_⟩
    rw [Ne, Nat.digitChar_eq_zero]
    omega
  | digit m k hk hm ih =>
    obtain ⟨c, rest, heq, hne⟩ := ih hm
    rw [← Nat.toDigits_append_toDigits (by decide) hm hk, heq]
    exact ⟨c, _, rfl, hne⟩

theorem pow_ten_pos (exponent : Nat) : 0 < Nat.pow 10 exponent :=
  Nat.pow_pos (by decide)

theorem pow_ten_mono {m n : Nat} (h : m ≤ n) : Nat.pow 10 m ≤ Nat.pow 10 n :=
  Nat.pow_le_pow_right (by decide) h

/-- A positive number is at least the power of ten of its first digit. -/
theorem pow_length_le {n : Nat} (h : n ≠ 0) : 10 ^ ((Nat.toDigits 10 n).length - 1) ≤ n := by
  by_cases hshort : (Nat.toDigits 10 n).length - 1 = 0
  · rw [hshort]
    exact Nat.pos_of_ne_zero h
  · refine Nat.not_lt.1 fun hlt => ?_
    have := (Nat.length_toDigits_le_iff (by decide) (Nat.pos_of_ne_zero hshort)).2 hlt
    omega

/-- Reading more digits makes a number greater, by a factor of ten each. -/
theorem mul_pow_le_ofDigitChars (digits : List Char) (start : Nat) :
    start * 10 ^ digits.length ≤ Nat.ofDigitChars 10 digits start := by
  rw [Nat.ofDigitChars_eq_ofDigitChars_zero, Nat.mul_comm]
  exact Nat.le_add_right _ _

/-- The digits that are gathered make a word, and with a zero for each digit left over they are at
most the value of the whole run; nothing is left over when this value is a word. -/
theorem gather_spec {digits : List Char} (h : ∀ c ∈ digits, isDigit c) {start : Nat}
    (hstart : start < UInt64.size) :
    (Json.gather start digits).1 < UInt64.size
      ∧ (Json.gather start digits).1 * 10 ^ (Json.gather start digits).2.length
        ≤ Nat.ofDigitChars 10 digits start
      ∧ (Nat.ofDigitChars 10 digits start < UInt64.size →
        Json.gather start digits = (Nat.ofDigitChars 10 digits start, [])) := by
  induction digits generalizing start with
  | nil => exact ⟨hstart, Nat.le_of_eq (Nat.mul_one _), fun _ => rfl⟩
  | cons c rest ih =>
    have hnext : start * 10 + (digit? c).getD 0 = 10 * start + (c.toNat - '0'.toNat) := by
      rw [digit?_of_isDigit (h c List.mem_cons_self), Option.getD_some, Nat.mul_comm]
    rw [Json.gather, Nat.ofDigitChars_cons, ← hnext]
    by_cases hfits : start * 10 + (digit? c).getD 0 < UInt64.size
    · rw [if_pos hfits]
      exact ih (fun d hd => h d (List.mem_cons_of_mem _ hd)) hfits
    · -- The digit and all after it are left over; each stands for a zero at least.
      rw [if_neg hfits]
      have hgrow := mul_pow_le_ofDigitChars rest (start * 10 + (digit? c).getD 0)
      refine ⟨hstart, Nat.le_trans ?_ hgrow, fun hlt => absurd hlt (Nat.not_lt.2 ?_)⟩
      · rw [List.length_cons, Nat.pow_succ, Nat.mul_comm _ 10, ← Nat.mul_assoc]
        exact Nat.mul_le_mul_right _ (Nat.le_add_right _ _)
      · refine Nat.le_trans (Nat.not_lt.1 hfits) (Nat.le_trans ?_ hgrow)
        exact Nat.le_mul_of_pos_right _ (Nat.pow_pos (by decide))

theorem length_gather_le (start : Nat) (digits : List Char) :
    (Json.gather start digits).2.length ≤ digits.length := by
  induction digits generalizing start with
  | nil => exact Nat.le_refl 0
  | cons c rest ih =>
    rw [Json.gather]
    split
    · exact Nat.le_trans (ih _) (Nat.le_succ _)
    · exact Nat.le_refl _

/-- Reading digits makes a number less than the next one would be with zeros for the digits. -/
theorem ofDigitChars_lt {digits : List Char} (h : ∀ c ∈ digits, isDigit c) (start : Nat) :
    Nat.ofDigitChars 10 digits start < (start + 1) * 10 ^ digits.length := by
  induction digits generalizing start with
  | nil => simp
  | cons c rest ih =>
    have hdigit : c.toNat - '0'.toNat < 10 := by
      have hc := h c List.mem_cons_self
      rw [isDigit_eq, Char.isDigit, Bool.and_eq_true, decide_eq_true_eq, decide_eq_true_eq] at hc
      have hle : c.toNat ≤ 57 := hc.2
      have hzero : '0'.toNat = 48 := rfl
      omega
    have hrest := ih (fun d hd => h d (List.mem_cons_of_mem _ hd)) (10 * start + (c.toNat - '0'.toNat))
    rw [Nat.ofDigitChars_cons, List.length_cons, Nat.pow_succ, Nat.mul_comm _ 10, ← Nat.mul_assoc]
    exact Nat.lt_of_lt_of_le hrest (Nat.mul_le_mul_right _ (by omega))

/-- A short run of digits is a word. -/
theorem gather_of_length_le {digits : List Char} (h : ∀ c ∈ digits, isDigit c)
    (hlength : digits.length ≤ 19) :
    Json.gather 0 digits = (Nat.ofDigitChars 10 digits 0, []) := by
  -- Nineteen digits always fit a word, twenty need not.
  have hlt := ofDigitChars_lt h 0
  have hpow : 10 ^ digits.length ≤ 10 ^ 19 := Nat.pow_le_pow_right (by decide) hlength
  have hsize : 10 ^ 19 < UInt64.size := by decide
  exact (gather_spec h (by decide)).2.2 (by omega)

end RubricScore.Binary64
