import RubricScore.Json.Scan
import RubricScore.Proofs.Binary64.Digits

/-!
# Numerals as they are written

The texts of a numeral, the form that the format demands of it, and the scanner's way through it.

## Main definitions

* `Numeral.text`: sign, digits, point, digits, exponent;
* `Numeral.WellFormed`: no leading zero, and digits wherever digits must stand;
* `Numeral.SpelledBy`: the texts that the format allows for a numeral;
* `Numeral.phase`: the scanner's phase after the last character of a numeral.

## Main results

* `foldl_step_spelled`: the scanner goes through every text of a numeral;
* `numeral?_phase`: the phase it ends in holds the numeral;
* `next?_phase`: no separator belongs to the numeral.
-/

namespace RubricScore.Json

open Binary64 (isDigit)

/-- What may follow a value: white space, a comma, or a closing bracket. -/
def IsSeparator (c : Char) : Prop :=
  isBlank c ∨ c = ',' ∨ c = ']' ∨ c = '\x7d'

/-- No separator is part of a number. -/
theorem IsSeparator.not_part {c : Char} (h : IsSeparator c) :
    isDigit c = false ∧ c ≠ '.' ∧ c ≠ 'e' ∧ c ≠ 'E' := by
  simp only [IsSeparator, isBlank, Bool.or_eq_true, beq_iff_eq] at h
  rcases h with (((rfl | rfl) | rfl) | rfl) | rfl | rfl | rfl <;> decide

namespace Numeral

/-- Text of the digits after the point, with the point. -/
def fractionText : List Char → List Char
  | [] => []
  | c :: rest => '.' :: c :: rest

/-- Text of an exponent, always with its sign. -/
def exponentText : Option (Bool × List Char) → List Char
  | none => []
  | some (negative, digits) => 'e' :: (if negative then '-' else '+') :: digits

/-- Text of a numeral. -/
def text (n : Numeral) : List Char :=
  Binary64.withSign n.negative (n.whole ++ fractionText n.fraction ++ exponentText n.exponent)

/-- The form of a numeral: a lone zero or no leading zero before the point, and digits only. -/
structure WellFormed (n : Numeral) : Prop where
  /-- Something stands before the point, and it starts with a zero only if it is one. -/
  whole : n.whole = ['0'] ∨ ∃ c rest, n.whole = c :: rest ∧ c ≠ '0'
  /-- Digits before the point. -/
  wholeDigits : ∀ c ∈ n.whole, isDigit c
  /-- Digits after the point. -/
  fractionDigits : ∀ c ∈ n.fraction, isDigit c
  /-- An exponent has digits, and nothing else. -/
  exponentDigits : ∀ negative digits, n.exponent = some (negative, digits) →
    digits ≠ [] ∧ ∀ c ∈ digits, isDigit c

/-- The texts of an exponent: its mark is a letter of either case, and a plus sign may be left out. -/
inductive IsExponent : Option (Bool × List Char) → List Char → Prop
  /-- No exponent. -/
  | none : IsExponent none []
  /-- A mark, a sign and digits. -/
  | signed {negative : Bool} {digits : List Char} {mark : Char} (hmark : mark = 'e' ∨ mark = 'E') :
    IsExponent (some (negative, digits)) (mark :: (if negative then '-' else '+') :: digits)
  /-- A mark and digits. -/
  | unsigned {digits : List Char} {mark : Char} (hmark : mark = 'e' ∨ mark = 'E') :
    IsExponent (some (false, digits)) (mark :: digits)

/-- The texts of a numeral. -/
structure SpelledBy (n : Numeral) (text : List Char) : Prop where
  /-- The numeral has a text at all. -/
  wellFormed : n.WellFormed
  /-- Only the exponent can be written in several ways. -/
  spelled : ∃ exponent, IsExponent n.exponent exponent
    ∧ text = Binary64.withSign n.negative (n.whole ++ fractionText n.fraction ++ exponent)

/-- The text of a numeral is one of its texts. -/
theorem WellFormed.spelledBy_text {n : Numeral} (h : n.WellFormed) : n.SpelledBy n.text := by
  refine ⟨h, exponentText n.exponent, ?_, rfl⟩
  cases n.exponent with
  | none => exact .none
  | some exponent => exact .signed (.inl rfl)

/-- The phase after the digits before the point. -/
def wholePhase (whole : List Char) : NumberPhase :=
  if whole = ['0'] then .zero else .whole whole.reverse

theorem wholePhase_cases (whole : List Char) :
    whole = ['0'] ∧ wholePhase whole = .zero ∨ wholePhase whole = .whole whole.reverse := by
  unfold wholePhase
  by_cases h : whole = ['0']
  · exact .inl ⟨h, if_pos h⟩
  · exact .inr (if_neg h)

/-- The phase after the digits before the point and those after it. -/
def decimalPhase (whole : List Char) : List Char → NumberPhase
  | [] => wholePhase whole
  | c :: rest => .fraction whole.reverse (c :: rest).reverse

/-- The phase after the last character of a numeral. -/
def phase (n : Numeral) : NumberPhase :=
  match n.exponent with
  | none => decimalPhase n.whole n.fraction
  | some (negative, digits) =>
    .exponent n.whole.reverse n.fraction.reverse negative digits.reverse

end Numeral

/-! ## Runs of digits -/

section Digits

variable (stack : List Frame) (negative : Bool)

theorem step_number {part next : NumberPhase} {c : Char} (h : part.next? c = some (some next)) :
    step ⟨stack, .number negative part⟩ c = ⟨stack, .number negative next⟩ := by
  simp only [step, h]

/-- A run of digits goes into a phase that takes digits one at a time. -/
theorem foldl_step_digits {part : List Char → NumberPhase}
    (hpart : ∀ c digits, isDigit c → (part digits).next? c = some (some (part (c :: digits))))
    {digits : List Char} (hdigits : ∀ c ∈ digits, isDigit c) (before : List Char) :
    digits.foldl step ⟨stack, .number negative (part before)⟩
      = ⟨stack, .number negative (part (digits.reverse ++ before))⟩ := by
  -- The digits so far are kept in reverse, so each step puts one in front.
  induction digits generalizing before with
  | nil => rfl
  | cons c rest ih =>
    rw [List.foldl_cons, step_number stack negative (hpart c before (hdigits c List.mem_cons_self)),
      ih fun d hd => hdigits d (List.mem_cons_of_mem _ hd)]
    simp

theorem next?_whole {c : Char} (digits : List Char) (h : isDigit c) :
    (NumberPhase.whole digits).next? c = some (some (.whole (c :: digits))) := by
  simp [NumberPhase.next?, h]

theorem next?_fraction {c : Char} (front digits : List Char) (h : isDigit c) :
    (NumberPhase.fraction front digits).next? c = some (some (.fraction front (c :: digits))) := by
  simp [NumberPhase.next?, h]

theorem next?_exponent {c : Char} (front back digits : List Char) (minus : Bool) (h : isDigit c) :
    (NumberPhase.exponent front back minus digits).next? c
      = some (some (.exponent front back minus (c :: digits))) := by
  simp [NumberPhase.next?, h]

end Digits

/-! ## The parts of a numeral -/

section Parts

variable (stack : List Frame) (negative : Bool)

/-- A digit that starts a value starts a number. -/
theorem stepValue_digit {c : Char} (h : isDigit c) (hne : c ≠ '0') :
    stepValue stack c = ⟨stack, .number false (.whole [c])⟩ := by
  unfold stepValue
  -- The other characters that start a value are no digits.
  split <;> first | exact absurd h (by decide) | exact absurd rfl hne | exact if_pos h

theorem isBlank_of_isDigit {c : Char} (h : isDigit c) : isBlank c = false := by
  rw [← Bool.not_eq_true]
  intro hblank
  simp only [isBlank, Bool.or_eq_true, beq_iff_eq] at hblank
  rcases hblank with ((rfl | rfl) | rfl) | rfl <;> exact absurd h (by decide)

/-- The first digit of a number is taken alike with and without a sign before it. -/
theorem step_first {c : Char} (h : isDigit c) (rest : List Char) :
    (Binary64.withSign negative (c :: rest)).foldl step ⟨stack, .value⟩
      = rest.foldl step ⟨stack, .number negative (if c = '0' then .zero else .whole [c])⟩ := by
  cases negative with
  | false =>
    rw [Binary64.withSign, if_neg (by decide), List.foldl_cons]
    congr 1
    by_cases hc : c = '0'
    · subst hc
      rfl
    · simp only [step, isBlank_of_isDigit h, Bool.false_eq_true, if_false,
        stepValue_digit stack h hc, hc]
  | true =>
    rw [Binary64.withSign, if_pos rfl, List.foldl_cons, List.foldl_cons]
    congr 1
    by_cases hc : c = '0'
    · subst hc
      rfl
    · simp [step, isBlank, stepValue, NumberPhase.next?, h, hc]

theorem foldl_step_whole {n : Numeral} (h : n.WellFormed) (rest : List Char) :
    (Binary64.withSign n.negative (n.whole ++ rest)).foldl step ⟨stack, .value⟩
      = rest.foldl step ⟨stack, .number n.negative (Numeral.wholePhase n.whole)⟩ := by
  rcases h.whole with hzero | ⟨c, digits, heq, hne⟩
  · rw [hzero, List.cons_append, step_first stack n.negative (by decide)]
    rfl
  · -- The first digit opens the phase, the others are a run.
    have hdigits : ∀ d ∈ c :: digits, isDigit d := heq ▸ h.wholeDigits
    rw [heq, List.cons_append, step_first stack n.negative (hdigits c List.mem_cons_self),
      if_neg hne, List.foldl_append,
      foldl_step_digits stack n.negative (fun c ds => next?_whole ds)
        fun d hd => hdigits d (List.mem_cons_of_mem _ hd)]
    have hphase : Numeral.wholePhase (c :: digits) = .whole (digits.reverse ++ [c]) := by
      rw [Numeral.wholePhase, if_neg (by simp [hne]), List.reverse_cons]
    rw [hphase]

theorem foldl_step_fraction {n : Numeral} (h : n.WellFormed) :
    (Numeral.fractionText n.fraction).foldl step
        ⟨stack, .number negative (Numeral.wholePhase n.whole)⟩
      = ⟨stack, .number negative (Numeral.decimalPhase n.whole n.fraction)⟩ := by
  have hdigits := h.fractionDigits
  cases hf : n.fraction with
  | nil => rfl
  | cons c rest =>
    rw [hf] at hdigits
    -- The point may follow a lone zero as well as a run of digits.
    have hpoint : (Numeral.wholePhase n.whole).next? '.'
        = some (some (.point n.whole.reverse)) := by
      rcases Numeral.wholePhase_cases n.whole with ⟨heq, hphase⟩ | hphase
      · rw [hphase, heq]
        rfl
      · rw [hphase]
        rfl
    have hfirst : (NumberPhase.point n.whole.reverse).next? c
        = some (some (.fraction n.whole.reverse [c])) := by
      simp [NumberPhase.next?, hdigits c List.mem_cons_self]
    rw [Numeral.fractionText, List.foldl_cons, List.foldl_cons, step_number stack negative hpoint,
      step_number stack negative hfirst,
      foldl_step_digits stack negative (fun c ds => next?_fraction n.whole.reverse ds)
        fun d hd => hdigits d (List.mem_cons_of_mem _ hd)]
    simp [Numeral.decimalPhase]

theorem foldl_step_exponent {n : Numeral} (h : n.WellFormed) {exponent : List Char}
    (hexponent : Numeral.IsExponent n.exponent exponent) :
    exponent.foldl step ⟨stack, .number negative (Numeral.decimalPhase n.whole n.fraction)⟩
      = ⟨stack, .number negative n.phase⟩ := by
  -- The mark of the exponent may follow a lone zero and digits on either side of the point.
  have hmark : ∀ mark, mark = 'e' ∨ mark = 'E' →
      (Numeral.decimalPhase n.whole n.fraction).next? mark
        = some (some (.mark n.whole.reverse n.fraction.reverse)) := by
    intro mark hmark
    cases n.fraction with
    | nil =>
      rcases Numeral.wholePhase_cases n.whole with ⟨heq, hphase⟩ | hphase
      · rw [Numeral.decimalPhase, hphase, heq]
        rcases hmark with rfl | rfl <;> rfl
      · rw [Numeral.decimalPhase, hphase]
        rcases hmark with rfl | rfl <;> rfl
    | cons => rcases hmark with rfl | rfl <;> rfl
  have hrun := fun minus (digits : List Char) (hdigits : ∀ c ∈ digits, isDigit c) =>
    foldl_step_digits stack negative
      (fun c ds => next?_exponent n.whole.reverse n.fraction.reverse ds minus) hdigits
  unfold Numeral.phase
  generalize he : n.exponent = e at hexponent
  cases hexponent with
  | none => rfl
  | @signed minus digits mark hletter =>
    obtain ⟨hne, hdigits⟩ := h.exponentDigits minus digits he
    obtain ⟨c, rest, rfl⟩ := List.exists_cons_of_ne_nil hne
    have hsign : (NumberPhase.mark n.whole.reverse n.fraction.reverse).next?
          (if minus then '-' else '+')
        = some (some (.exponentSign n.whole.reverse n.fraction.reverse minus)) := by
      cases minus <;> rfl
    have hfirst : (NumberPhase.exponentSign n.whole.reverse n.fraction.reverse minus).next? c
        = some (some (.exponent n.whole.reverse n.fraction.reverse minus [c])) := by
      simp [NumberPhase.next?, hdigits c List.mem_cons_self]
    rw [List.foldl_cons, List.foldl_cons, List.foldl_cons,
      step_number stack negative (hmark mark hletter), step_number stack negative hsign,
      step_number stack negative hfirst,
      hrun minus rest fun d hd => hdigits d (List.mem_cons_of_mem _ hd)]
    simp
  | @unsigned digits mark hletter =>
    obtain ⟨hne, hdigits⟩ := h.exponentDigits false digits he
    obtain ⟨c, rest, rfl⟩ := List.exists_cons_of_ne_nil hne
    have hfirst : (NumberPhase.mark n.whole.reverse n.fraction.reverse).next? c
        = some (some (.exponent n.whole.reverse n.fraction.reverse false [c])) := by
      have hdigit := hdigits c List.mem_cons_self
      have hplus : c ≠ '+' := by
        rintro rfl
        exact absurd hdigit (by decide)
      have hminus : c ≠ '-' := by
        rintro rfl
        exact absurd hdigit (by decide)
      simp [NumberPhase.next?, hdigit, hplus, hminus]
    rw [List.foldl_cons, List.foldl_cons, step_number stack negative (hmark mark hletter),
      step_number stack negative hfirst,
      hrun false rest fun d hd => hdigits d (List.mem_cons_of_mem _ hd)]
    simp

end Parts

namespace Numeral

/-- The scanner goes through every text of a numeral. -/
theorem foldl_step_spelled {n : Numeral} {text : List Char} (h : n.SpelledBy text)
    (stack : List Frame) :
    text.foldl step ⟨stack, .value⟩ = ⟨stack, .number n.negative n.phase⟩ := by
  obtain ⟨hform, exponent, hexponent, rfl⟩ := h
  rw [List.append_assoc, foldl_step_whole stack hform, List.foldl_append,
    foldl_step_fraction stack n.negative hform, foldl_step_exponent stack n.negative hform hexponent]

/-- The phase after a numeral holds the numeral. -/
theorem numeral?_phase (n : Numeral) : n.phase.numeral? n.negative = some n := by
  obtain ⟨negative, whole, fraction, exponent⟩ := n
  cases exponent with
  | some e => simp [phase, NumberPhase.numeral?]
  | none =>
    cases fraction with
    | cons c rest => simp [phase, decimalPhase, NumberPhase.numeral?]
    | nil =>
      -- The phase of a lone zero holds no digits, so the numeral is known from the phase itself.
      rcases wholePhase_cases whole with ⟨heq, hphase⟩ | hphase
      · subst heq
        rfl
      · simp [phase, decimalPhase, hphase, NumberPhase.numeral?]

/-- No separator belongs to a numeral. -/
theorem next?_phase (n : Numeral) {c : Char} (hc : IsSeparator c) : n.phase.next? c = none := by
  obtain ⟨hdigit, hpoint, hlower, hupper⟩ := hc.not_part
  have hdecimal : ∀ whole fraction, (decimalPhase whole fraction).next? c = none := by
    intro whole fraction
    cases fraction with
    | nil =>
      rw [decimalPhase]
      rcases wholePhase_cases whole with ⟨-, hphase⟩ | hphase <;> rw [hphase]
      · simp [NumberPhase.next?, hdigit, hpoint, hlower, hupper]
      · simp [NumberPhase.next?, hdigit, hpoint, hlower, hupper]
    | cons => simp [decimalPhase, NumberPhase.next?, hdigit, hlower, hupper]
  unfold phase
  split
  · exact hdecimal _ _
  · simp [NumberPhase.next?, hdigit]

end Numeral

end RubricScore.Json
