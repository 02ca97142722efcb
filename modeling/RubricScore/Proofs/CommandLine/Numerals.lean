import Mathlib.Data.List.TakeWhile
import RubricScore.CommandLine.Parameter
import RubricScore.Proofs.Binary64.Digits
import RubricScore.Proofs.Except
import RubricScore.Proofs.Text.Parts

/-!
# Numbers on the command line

Which texts are numbers, and what numbers they are: natural numbers, of which words and numbers of
workers are those up to a bound, and decimal numerals, of which thresholds are those that are not
too large.

## Main definitions

* `IsNumeral`: a text is a natural number in decimal digits;
* `IsDecimal`: a text is a decimal numeral, and a number is the nearest one to its value.

## Main results

* `readMaxFiles_eq_ok_iff`, `readWorkers_eq_ok_iff`, `readThreshold_eq_ok_iff`: the texts that are
  read as a limit, as a number of workers and as a threshold.
-/

namespace RubricScore.CommandLine

open Binary64 (isDigit digit? signed ofDecimal)

/-! ## Natural numbers -/

/-- The text is a number in decimal digits, with a plus sign or without. -/
def IsNumeral (text : List Char) (n : Nat) : Prop :=
  ∃ digits, (text = digits ∨ text = '+' :: digits) ∧ digits ≠ [] ∧ (∀ c ∈ digits, isDigit c)
    ∧ Nat.ofDigitChars 10 digits 0 = n

/-- A word is read from digits that go on with a word to a word. -/
theorem wordFrom_eq_ok_iff {start : Nat} {digits : List Char} {w : UInt64}
    (hstart : start < UInt64.size) :
    wordFrom start digits = .ok w
      ↔ (∀ c ∈ digits, isDigit c) ∧ Nat.ofDigitChars 10 digits start = w.toNat := by
  induction digits generalizing start with
  | nil =>
    rw [wordFrom, Except.ok.injEq, Nat.ofDigitChars_nil]
    refine ⟨?_, ?_⟩
    · rintro rfl
      exact ⟨nofun, (UInt64.toNat_ofNat_of_lt' hstart).symm⟩
    · rintro ⟨-, rfl⟩
      exact UInt64.ofNat_toNat
  | cons c rest ih =>
    rw [wordFrom, List.forall_mem_cons, Nat.ofDigitChars_cons]
    cases hdigit : digit? c with
    | none => simp [isDigit, hdigit]
    | some d =>
      have hc : isDigit c := by rw [isDigit, hdigit]; rfl
      have hd : c.toNat - '0'.toNat = d :=
        Option.some.inj ((Binary64.digit?_of_isDigit hc).symm.trans hdigit)
      rw [hd, Nat.mul_comm 10 start]
      dsimp only
      split
      · next hword => rw [ih hword, and_assoc, and_iff_right hc]
      · next hlarge =>
        -- More digits only make the number larger.
        have hgrows : start * 10 + d ≤ Nat.ofDigitChars 10 rest (start * 10 + d) :=
          (Nat.le_mul_of_pos_right _ (Nat.pow_pos (by decide))).trans
            (Binary64.mul_pow_le_ofDigitChars rest _)
        refine ⟨nofun, fun ⟨_, heq⟩ => absurd w.toNat_lt ?_⟩
        rw [← heq]
        exact fun hlt => hlarge (hgrows.trans_lt hlt)

/-- A word is the text of a number that is a word. -/
theorem parseWord_eq_ok_iff {text : List Char} {w : UInt64} :
    parseWord text = .ok w ↔ IsNumeral text w.toNat := by
  have hzero : 0 < UInt64.size := by decide
  have hplus : isDigit '+' = false := by decide
  unfold parseWord
  split
  · simp [IsNumeral]
  · refine ⟨nofun, ?_⟩
    rintro ⟨digits, heq | heq, hne, hdigits, -⟩
    · exact absurd (hdigits '+' (heq ▸ List.mem_cons_self)) (by simp [hplus])
    · exact absurd (List.cons.inj heq).2.symm hne
  · next digits hne =>
    rw [wordFrom_eq_ok_iff hzero]
    refine ⟨fun ⟨hdigits, hvalue⟩ => ⟨digits, .inr rfl, fun h => hne (h ▸ rfl), hdigits, hvalue⟩, ?_⟩
    rintro ⟨others, heq | heq, -, hothers, hvalue⟩
    · exact absurd (hothers '+' (heq ▸ List.mem_cons_self)) (by simp [hplus])
    · obtain ⟨-, rfl⟩ := List.cons.inj heq
      exact ⟨hothers, hvalue⟩
  · next hne _ hsign =>
    rw [wordFrom_eq_ok_iff hzero]
    refine ⟨fun ⟨hdigits, hvalue⟩ => ⟨text, .inl rfl, hne, hdigits, hvalue⟩, ?_⟩
    rintro ⟨digits, rfl | rfl, -, hdigits, hvalue⟩
    · exact ⟨hdigits, hvalue⟩
    · exact absurd rfl (hsign digits)

/-- Limits on the number of files are words. -/
theorem readMaxFiles_eq_ok_iff {text : String} {w : UInt64} :
    readMaxFiles text = .ok w ↔ IsNumeral text.toList w.toNat := by
  rw [← parseWord_eq_ok_iff, readMaxFiles]
  split <;> simp [*]

/-- The numbers of workers are those from one to the greatest one. -/
theorem readWorkers_eq_ok_iff {text : String} {n : Nat} :
    readWorkers text = .ok n ↔ IsNumeral text.toList n ∧ 1 ≤ n ∧ n ≤ maxWorkers := by
  have hword : IsNumeral text.toList n ∧ n ≤ maxWorkers
      ↔ ∃ w, parseWord text.toList = .ok w ∧ w.toNat = n ∧ n ≤ maxWorkers := by
    constructor
    · rintro ⟨hnumeral, hle⟩
      have hn : (UInt64.ofNat n).toNat = n :=
        UInt64.toNat_ofNat_of_lt' (hle.trans_lt (by decide))
      exact ⟨.ofNat n, parseWord_eq_ok_iff.2 (hn.symm ▸ hnumeral), hn, hle⟩
    · rintro ⟨w, hparse, rfl, hle⟩
      exact ⟨parseWord_eq_ok_iff.1 hparse, hle⟩
  rw [and_comm (a := 1 ≤ n), ← and_assoc, hword, readWorkers]
  split
  · next hfault => simp [hfault]
  · next w hparse =>
    simp only [hparse, ite_error_eq_ok_iff, Except.ok.injEq, Nat.not_lt, exists_eq_left']
    constructor
    · rintro ⟨hpos, hle, rfl⟩
      exact ⟨⟨rfl, hle⟩, Nat.pos_of_ne_zero fun h => hpos (UInt64.toNat_inj.1 h)⟩
    · rintro ⟨⟨rfl, hle⟩, hpos⟩
      exact ⟨fun h => absurd hpos (by simp [h]), hle, rfl⟩

/-! ## Decimal numerals -/

/-- The sign of a numeral, which is negative or not. -/
inductive IsSign : List Char → Bool → Prop
  /-- No sign. -/
  | none : IsSign [] false
  /-- A plus. -/
  | plus : IsSign ['+'] false
  /-- A minus. -/
  | minus : IsSign ['-'] true

/-- The fraction of a numeral and its digits. -/
inductive IsFraction : List Char → List Char → Prop
  /-- No fraction. -/
  | none : IsFraction [] []
  /-- A point and digits, if any. -/
  | point {digits : List Char} (hdigits : ∀ c ∈ digits, isDigit c) :
    IsFraction ('.' :: digits) digits

/-- The exponent part of a numeral and the exponent. -/
inductive IsExponent : List Char → Int → Prop
  /-- No exponent part. -/
  | none : IsExponent [] 0
  /-- A letter, a sign and digits. -/
  | mark {c : Char} {sign digits : List Char} {negative : Bool} (hmark : c = 'e' ∨ c = 'E')
    (hsign : IsSign sign negative) (hne : digits ≠ []) (hdigits : ∀ c ∈ digits, isDigit c) :
    IsExponent (c :: (sign ++ digits)) (signed negative (Nat.ofDigitChars 10 digits 0))

/-- The text is a decimal numeral without a sign. The number is the one nearest to its value, with
the given sign. -/
inductive IsUnsigned (negative : Bool) : List Char → Binary64 → Prop
  /-- Digits, a fraction and an exponent part, with a digit somewhere before the latter. -/
  | parts {whole point fraction tail : List Char} {exponent : Int}
    (hwhole : ∀ c ∈ whole, isDigit c) (hpoint : IsFraction point fraction)
    (hne : whole ≠ [] ∨ fraction ≠ []) (htail : IsExponent tail exponent) :
    IsUnsigned negative (whole ++ (point ++ tail))
      (ofDecimal negative (Nat.ofDigitChars 10 (whole ++ fraction) 0) (exponent - fraction.length))

/-- The text is a decimal numeral, and the number is the one nearest to its value. -/
def IsDecimal (text : List Char) (x : Binary64) : Prop :=
  ∃ sign negative body, text = sign ++ body ∧ IsSign sign negative ∧ IsUnsigned negative body x

theorem isSign_takeSign (text : List Char) :
    ∃ sign, text = sign ++ (Binary64.takeSign text).2
      ∧ IsSign sign (Binary64.takeSign text).1 := by
  unfold Binary64.takeSign
  split
  · exact ⟨_, rfl, .minus⟩
  · exact ⟨_, rfl, .plus⟩
  · exact ⟨[], rfl, .none⟩

/-- A sign is taken off what begins with no other sign. -/
theorem takeSign_append {sign body : List Char} {negative : Bool} (hsign : IsSign sign negative)
    (hbody : body.head? ≠ some '-' ∧ body.head? ≠ some '+') :
    Binary64.takeSign (sign ++ body) = (negative, body) := by
  cases hsign with
  | plus => rfl
  | minus => rfl
  | none =>
    rw [List.nil_append]
    unfold Binary64.takeSign
    split
    · exact absurd rfl hbody.1
    · exact absurd rfl hbody.2
    · rfl

/-- A digit is no sign. -/
theorem head?_ne_sign {digits : List Char} (hne : digits ≠ []) (h : ∀ c ∈ digits, isDigit c)
    (rest : List Char) :
    (digits ++ rest).head? ≠ some '-' ∧ (digits ++ rest).head? ≠ some '+' := by
  obtain ⟨c, others, rfl⟩ := List.exists_cons_of_ne_nil hne
  have hc := h c List.mem_cons_self
  constructor
  all_goals
    intro heq
    rw [Option.some.inj heq] at hc
    exact absurd hc (by decide)

theorem exponent?_eq_some_iff {text : List Char} {exponent : Int} :
    Binary64.exponent? text = some exponent ↔ IsExponent text exponent := by
  constructor
  · intro h
    unfold Binary64.exponent? at h
    split at h
    · exact Option.some.inj h ▸ .none
    · next c rest =>
      obtain ⟨sign, hrest, hsign⟩ := isSign_takeSign rest
      dsimp only at h
      split at h
      · next hparts =>
        obtain ⟨hmark, hne, hall⟩ := hparts
        have hdigits : ∀ c ∈ (Binary64.takeSign rest).2, isDigit c := List.all_eq_true.1 hall
        rw [Binary64.digitsValue_eq hdigits] at h
        rw [← Option.some.inj h]
        have hexponent := IsExponent.mark hmark hsign hne hdigits
        rwa [← hrest] at hexponent
      · exact absurd h nofun
  · intro h
    cases h with
    | none => rfl
    | @mark c sign digits negative hmark hsign hne hdigits =>
      have hhead := head?_ne_sign hne hdigits []
      rw [List.append_nil] at hhead
      rw [Binary64.exponent?, takeSign_append hsign hhead]
      dsimp only
      rw [if_pos ⟨hmark, hne, List.all_eq_true.2 hdigits⟩, Binary64.digitsValue_eq hdigits]

/-- No digit stands behind the digits of a numeral. -/
theorem IsExponent.head? {tail : List Char} {exponent : Int} (h : IsExponent tail exponent)
    {c : Char} (hc : tail.head? = some c) : isDigit c = false := by
  cases h with
  | none => exact absurd hc nofun
  | mark hmark =>
    obtain rfl := Option.some.inj hc
    rcases hmark with rfl | rfl <;> decide

/-- The digits of a numeral end where its fraction or its exponent part begins. -/
theorem IsFraction.head? {point fraction tail : List Char} {exponent : Int}
    (h : IsFraction point fraction) (htail : IsExponent tail exponent) {c : Char}
    (hc : (point ++ tail).head? = some c) : isDigit c = false := by
  cases h with
  | none => exact htail.head? hc
  | point =>
    obtain rfl := Option.some.inj hc
    decide

/-- The digits of the fraction go on after the others. -/
theorem digitsValue_append {whole fraction : List Char} (hwhole : ∀ c ∈ whole, isDigit c)
    (hfraction : ∀ c ∈ fraction, isDigit c) :
    Binary64.digitsValue (whole ++ fraction) = Nat.ofDigitChars 10 (whole ++ fraction) 0 :=
  Binary64.digitsValue_eq (List.forall_mem_append.2 ⟨hwhole, hfraction⟩)

theorem numeral?_eq_some_iff {negative : Bool} {text : List Char} {x : Binary64} :
    Binary64.numeral? negative text = some x ↔ IsUnsigned negative text x := by
  constructor
  · intro h
    have hwhole : ∀ c ∈ text.takeWhile isDigit, isDigit c := fun _ => List.mem_takeWhile_imp
    have htext : text.takeWhile isDigit ++ text.dropWhile isDigit = text :=
      List.takeWhile_append_dropWhile
    unfold Binary64.numeral? at h
    generalize text.takeWhile isDigit = whole at h hwhole htext
    generalize text.dropWhile isDigit = rest at h htext
    obtain rfl := htext
    dsimp only at h
    -- The fraction begins with a point.
    split at h <;> split at h
    · exact absurd h nofun
    · next tail hne =>
      have hfraction : ∀ c ∈ tail.takeWhile isDigit, isDigit c := fun _ => List.mem_takeWhile_imp
      obtain ⟨exponent, hexponent, rfl⟩ := Option.map_eq_some_iff.1 h
      have hparts := @IsUnsigned.parts negative _ _ _ _ _ hwhole (.point hfraction)
        (not_and_or.1 hne) (exponent?_eq_some_iff.1 hexponent)
      rwa [List.cons_append, List.takeWhile_append_dropWhile,
        ← digitsValue_append hwhole hfraction] at hparts
    · exact absurd h nofun
    · next hne =>
      obtain ⟨exponent, hexponent, rfl⟩ := Option.map_eq_some_iff.1 h
      have hparts := @IsUnsigned.parts negative _ _ _ _ _ hwhole .none (not_and_or.1 hne)
        (exponent?_eq_some_iff.1 hexponent)
      rwa [List.nil_append, ← digitsValue_append hwhole (List.forall_mem_nil _)] at hparts
  · rintro @⟨whole, point, fraction, tail, exponent, hwhole, hpoint, hne, htail⟩
    have hexponent := exponent?_eq_some_iff.2 htail
    unfold Binary64.numeral?
    rw [takeWhile_append_eq hwhole fun _ => hpoint.head? htail,
      dropWhile_append_eq hwhole fun _ => hpoint.head? htail]
    dsimp only
    cases hpoint with
    | point hfraction =>
      rw [List.cons_append]
      split
      · next rest heq =>
        obtain ⟨-, rfl⟩ := List.cons.inj heq
        rw [takeWhile_append_eq hfraction fun _ => htail.head?,
          dropWhile_append_eq hfraction fun _ => htail.head?, if_neg (not_and_or.2 hne), hexponent,
          digitsValue_append hwhole hfraction]
        rfl
      · next hnext => exact absurd rfl (hnext _)
    | none =>
      rw [List.nil_append]
      split
      · next rest =>
        -- An exponent part does not begin with a point.
        obtain - | ⟨hmark | hmark⟩ := htail <;> exact absurd hmark (by decide)
      · rw [if_neg (not_and_or.2 hne), hexponent,
          digitsValue_append hwhole (List.forall_mem_nil _)]
        rfl

/-! ## Thresholds -/

/-- The unsigned part of a decimal numeral does not begin with a sign. -/
theorem IsUnsigned.head?_ne {negative : Bool} {body : List Char} {x : Binary64}
    (h : IsUnsigned negative body x) : body.head? ≠ some '-' ∧ body.head? ≠ some '+' := by
  obtain @⟨whole, point, fraction, tail, exponent, hwhole, hpoint, hne, -⟩ := h
  rcases hne with hne | hne
  · exact head?_ne_sign hne hwhole _
  · cases hpoint with
    | none => exact absurd rfl hne
    | point =>
      cases whole with
      | nil => exact ⟨fun h => absurd (Option.some.inj h) (by decide),
          fun h => absurd (Option.some.inj h) (by decide)⟩
      | cons c rest => exact head?_ne_sign (List.cons_ne_nil c rest) hwhole _

/-- A text is read as a finite number just when it is a decimal numeral that is not too large. -/
theorem parse?_eq_some_iff {text : List Char} {x : Binary64} (hfinite : x.isFinite) :
    Binary64.parse? text = some x ↔ IsDecimal text x := by
  constructor
  · intro h
    obtain ⟨sign, htext, hsign⟩ := isSign_takeSign text
    unfold Binary64.parse? at h
    dsimp only at h
    split at h
    · next y hnumeral =>
      obtain rfl := Option.some.inj h
      exact ⟨sign, _, _, htext, hsign, numeral?_eq_some_iff.1 hnumeral⟩
    · -- The names are those of numbers that are not finite.
      split at h
      · exact absurd (Option.some.inj h ▸ hfinite) nofun
      · split at h
        · exact absurd (Option.some.inj h ▸ hfinite) nofun
        · exact absurd h nofun
  · rintro ⟨sign, negative, body, rfl, hsign, hbody⟩
    rw [Binary64.parse?, takeSign_append hsign hbody.head?_ne]
    dsimp only
    rw [numeral?_eq_some_iff.2 hbody]

/-- The thresholds are the decimal numerals of finite numbers. -/
theorem readThreshold_eq_ok_iff {text : String} {x : Binary64} :
    readThreshold text = .ok x ↔ IsDecimal text.toList x ∧ x.isFinite := by
  rw [and_congr_left fun hfinite => (parse?_eq_some_iff hfinite).symm, readThreshold]
  split
  · next hnone => simp [hnone]
  · next y hsome =>
    rw [hsome]
    split
    · next hfinite =>
      rw [Except.ok.injEq, Option.some.injEq]
      exact ⟨fun h => ⟨h, h ▸ hfinite⟩, fun h => h.1⟩
    · next hinfinite =>
      refine ⟨nofun, fun ⟨heq, hfinite⟩ => absurd ?_ hinfinite⟩
      rwa [Option.some.inj heq]

end RubricScore.CommandLine
