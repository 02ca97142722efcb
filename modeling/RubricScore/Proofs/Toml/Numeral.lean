import RubricScore.Proofs.CommandLine.Numerals
import RubricScore.Toml.Statement

/-!
# TOML numbers

Which runs of characters are integers, floating-point numbers and truth values, and that they are
read as such. Every reading of a run is tried in turn, so a number must not be taken for a date or a
time of day: in those, a dash or a colon stands behind the digits at their front.

## Main definitions

* `IsGrouped`: digits with single underscores between them;
* `IsInteger`, `IsReal`: a run of characters is a number;
* `IsScalar`: a run of characters is a number or a truth value.

## Main results

* `scalar_of_isScalar`: such a run is read as its value;
* `IsScalar.isDate_eq_false`: it is not taken for a date.
-/

namespace RubricScore.Toml

open Binary64 (isDigit digitsValue ofDecimal signed takeSign)
open CommandLine (IsSign takeSign_append)

/-! ## Digits -/

/-- The text has the given digits, with single underscores between some of them. -/
inductive IsGrouped : List Char → List Char → Prop
  /-- Digits. -/
  | run {run : List Char} (hne : run ≠ []) (hrun : ∀ c ∈ run, isDigit c) : IsGrouped run run
  /-- Digits, an underscore and what goes on with digits. -/
  | underscore {run digits text : List Char} (hne : run ≠ []) (hrun : ∀ c ∈ run, isDigit c)
    (hrest : IsGrouped digits text) : IsGrouped (run ++ digits) (run ++ '_' :: text)

/-- The text has the digits of a whole number: no zero stands in front of other digits. -/
def IsWhole (digits text : List Char) : Prop :=
  IsGrouped digits text ∧ (text = ['0'] ∨ text.head? ≠ some '0')

/-- An integer of 64 bits. -/
inductive IsInteger : Int → List Char → Prop
  /-- A sign and digits. -/
  | parts {sign digits text : List Char} {negative : Bool} (hsign : IsSign sign negative)
    (hwhole : IsWhole digits text)
    (hleast : Int64.minValue.toInt ≤ signed negative (Nat.ofDigitChars 10 digits 0))
    (hgreatest : signed negative (Nat.ofDigitChars 10 digits 0) ≤ Int64.maxValue.toInt) :
    IsInteger (signed negative (Nat.ofDigitChars 10 digits 0)) (sign ++ text)

/-- The fraction of a number and its digits. -/
inductive IsFraction : List Char → List Char → Prop
  /-- No fraction. -/
  | absent : IsFraction [] []
  /-- A point and digits. -/
  | point {digits text : List Char} (hdigits : IsGrouped digits text) :
    IsFraction digits ('.' :: text)

/-- The exponent part of a number and the exponent. -/
inductive IsExponent : Int → List Char → Prop
  /-- No exponent part. -/
  | absent : IsExponent 0 []
  /-- A letter, a sign and digits. -/
  | mark {c : Char} {sign digits text : List Char} {negative : Bool} (hmark : c = 'e' ∨ c = 'E')
    (hsign : IsSign sign negative) (hdigits : IsGrouped digits text) :
    IsExponent (signed negative (Nat.ofDigitChars 10 digits 0)) (c :: (sign ++ text))

/-- A floating-point number. -/
inductive IsReal : Binary64 → List Char → Prop
  /-- A sign, a whole number, and a fraction or an exponent part; the number is the one nearest to
  the value of this. One that overflows must be negative. -/
  | decimal {sign digits whole fraction point tail : List Char} {negative : Bool} {exponent : Int}
    (hsign : IsSign sign negative) (hwhole : IsWhole digits whole)
    (hpoint : IsFraction fraction point) (htail : IsExponent exponent tail)
    (hne : point ++ tail ≠ [])
    (hfits : ofDecimal negative (Nat.ofDigitChars 10 (digits ++ fraction) 0)
      (exponent - fraction.length) ≠ .infinite false) :
    IsReal (ofDecimal negative (Nat.ofDigitChars 10 (digits ++ fraction) 0)
      (exponent - fraction.length)) (sign ++ (whole ++ (point ++ tail)))
  /-- A sign and a name. -/
  | infinite {sign : List Char} {negative : Bool} (hsign : IsSign sign negative) :
    IsReal (.infinite negative) (sign ++ "inf".toList)
  /-- A sign and a name. -/
  | nan {sign : List Char} {negative : Bool} (hsign : IsSign sign negative) :
    IsReal (.nan negative 0) (sign ++ "nan".toList)

/-- A number or a truth value. -/
inductive IsScalar : Value → List Char → Prop
  /-- An integer. -/
  | integer {n : Int} {text : List Char} (h : IsInteger n text) : IsScalar (.integer n) text
  /-- A floating-point number. -/
  | real {x : Binary64} {text : List Char} (h : IsReal x text) : IsScalar (.real x) text
  /-- A truth value. -/
  | boolean (b : Bool) : IsScalar (.boolean b) (if b then "true" else "false").toList

/-! ## Groups of digits -/

namespace IsGrouped

variable {digits text : List Char}

theorem isDigit_of_mem (h : IsGrouped digits text) : ∀ c ∈ digits, isDigit c := by
  induction h with
  | run _ hrun => exact hrun
  | underscore _ hrun _ ih => exact List.forall_mem_append.2 ⟨hrun, ih⟩

/-- A digit stands in front. -/
theorem exists_cons (h : IsGrouped digits text) : ∃ c rest, text = c :: rest ∧ isDigit c := by
  cases h with
  | run hne hrun =>
    obtain ⟨c, rest, rfl⟩ := List.exists_cons_of_ne_nil hne
    exact ⟨c, rest, rfl, hrun c List.mem_cons_self⟩
  | underscore hne hrun =>
    obtain ⟨c, rest, rfl⟩ := List.exists_cons_of_ne_nil hne
    exact ⟨c, _, rfl, hrun c List.mem_cons_self⟩

/-- There is nothing but digits and underscores. -/
theorem isDigit_or_eq (h : IsGrouped digits text) : ∀ c ∈ text, isDigit c ∨ c = '_' := by
  induction h with
  | run _ hrun => exact fun c hc => .inl (hrun c hc)
  | underscore _ hrun _ ih =>
    exact List.forall_mem_append.2 ⟨fun c hc => .inl (hrun c hc),
      List.forall_mem_cons.2 ⟨.inr rfl, ih⟩⟩

/-- The groups of digits are the parts between the underscores. -/
theorem splitOn (h : IsGrouped digits text) :
    (∀ run ∈ text.splitOn '_', run ≠ [] ∧ ∀ c ∈ run, isDigit c)
      ∧ (text.splitOn '_').flatten = digits := by
  have hfree : ∀ {run : List Char}, (∀ c ∈ run, isDigit c) → '_' ∉ run := fun hrun hin =>
    absurd (hrun _ hin) (by decide)
  induction h with
  | @run run hne hrun =>
    have hsplit := splitOn_append_of_not_mem (hfree hrun) []
    rw [List.append_nil, List.splitOn_nil, List.modifyHead_cons, List.append_nil] at hsplit
    rw [hsplit]
    exact ⟨List.forall_mem_singleton.2 ⟨hne, hrun⟩, List.append_nil run⟩
  | @underscore run digits text hne hrun _ ih =>
    have hsplit := splitOn_append_of_not_mem (hfree hrun) ('_' :: text)
    rw [List.splitOn_cons_eq_if_modifyHead, if_pos (beq_self_eq_true _), List.modifyHead_cons,
      List.append_nil] at hsplit
    rw [hsplit]
    exact ⟨List.forall_mem_cons.2 ⟨⟨hne, hrun⟩, ih.1⟩, congrArg (run ++ ·) ih.2⟩

theorem digits?_eq (h : IsGrouped digits text) : digits? isDigit text = some digits := by
  obtain ⟨hruns, hflatten⟩ := h.splitOn
  rw [digits?, hflatten]
  refine if_pos (List.all_eq_true.2 fun run hrun => ?_)
  obtain ⟨hne, hdigits⟩ := hruns run hrun
  rw [Bool.and_eq_true, decide_eq_true_eq, List.all_eq_true]
  exact ⟨hne, hdigits⟩

theorem digitsValue_eq (h : IsGrouped digits text) :
    digitsValue digits = Nat.ofDigitChars 10 digits 0 :=
  Binary64.digitsValue_eq h.isDigit_of_mem

/-- A sign is taken off digits. -/
theorem takeSign_append {sign : List Char} {negative : Bool} (h : IsGrouped digits text)
    (hsign : IsSign sign negative) (rest : List Char) :
    takeSign (sign ++ (text ++ rest)) = (negative, text ++ rest) := by
  obtain ⟨c, others, rfl, hc⟩ := h.exists_cons
  refine CommandLine.takeSign_append hsign ⟨?_, ?_⟩
  all_goals
    intro heq
    rw [Option.some.inj heq] at hc
    exact absurd hc (by decide)

end IsGrouped

theorem IsWhole.wholeDigits?_eq {digits text : List Char} (h : IsWhole digits text) :
    wholeDigits? text = some digits := by
  obtain ⟨hgrouped, hzero⟩ := h
  unfold wholeDigits?
  split
  · rcases hzero with heq | hne
    · exact absurd (List.cons.inj heq).2 (List.cons_ne_nil _ _)
    · exact absurd rfl hne
  · exact hgrouped.digits?_eq

/-! ## Dates and times of day -/

theorem after?_eq_some_iff {c : Char} {text rest : List Char} :
    after? c text = some rest ↔ text = c :: rest := by
  cases text with
  | nil => exact iff_of_false nofun nofun
  | cons d tail =>
    rw [after?, List.cons.injEq]
    split
    · next h => rw [Option.some.injEq, and_iff_right h]
    · next h => exact iff_of_false nofun fun heq => h heq.1

/-- A number of two digits begins with two digits. -/
theorem digits_of_pair? {least greatest n : Nat} {text rest : List Char}
    (h : pair? least greatest text = some (n, rest)) :
    ∃ a b, text = a :: b :: rest ∧ isDigit a ∧ isDigit b := by
  unfold pair? at h
  split at h
  · next a b tail =>
    simp only [Option.bind_eq_bind, Option.bind_eq_some_iff] at h
    obtain ⟨m, hm, k, hk, h⟩ := h
    split at h
    · obtain ⟨-, rfl⟩ := Prod.mk.inj (Option.some.inj h)
      exact ⟨a, b, rfl, Option.isSome_of_eq_some hm, Option.isSome_of_eq_some hk⟩
    · exact absurd h nofun
  · exact absurd h nofun

/-- Behind digits at the front stands neither a dash nor a colon. -/
def IsTimeless (text : List Char) : Prop :=
  ∀ front c rest, text = front ++ c :: rest → front ≠ [] → (∀ d ∈ front, isDigit d) →
    c ≠ '-' ∧ c ≠ ':'

namespace IsTimeless

variable {text : List Char}

/-- A dash stands behind the year of a date. -/
theorem afterDate?_eq_none (h : IsTimeless text) : afterDate? text = none := by
  refine Option.eq_none_iff_forall_ne_some.2 fun rest hrest => ?_
  unfold afterDate? at hrest
  dsimp only at hrest
  split at hrest
  · exact absurd hrest nofun
  · next hyear =>
    obtain ⟨hlength, hdigits⟩ := not_or.1 hyear
    obtain ⟨day, hday, -⟩ := Option.bind_eq_some_iff.1 hrest
    have htext : text = text.take 4 ++ '-' :: day := by
      rw [← after?_eq_some_iff.1 hday, List.take_append_drop]
    refine (h _ _ _ htext ?_ ?_).1 rfl
    · exact List.ne_nil_of_length_pos (by omega)
    · exact List.all_eq_true.1 (by simpa using hdigits)

/-- A colon stands behind the hour of a time of day. -/
theorem afterTime?_eq_none (h : IsTimeless text) : afterTime? text = none := by
  refine Option.eq_none_iff_forall_ne_some.2 fun rest hrest => ?_
  unfold afterTime? at hrest
  obtain ⟨⟨hour, behind⟩, hhour, hrest⟩ := Option.bind_eq_some_iff.1 hrest
  obtain ⟨minutes, hminutes, -⟩ := Option.bind_eq_some_iff.1 hrest
  obtain ⟨a, b, rfl, ha, hb⟩ := digits_of_pair? hhour
  refine (h [a, b] ':' minutes ?_ (List.cons_ne_nil _ _) ?_).2 rfl
  · rw [after?_eq_some_iff.1 hminutes]
    rfl
  · exact List.forall_mem_cons.2 ⟨ha, List.forall_mem_singleton.2 hb⟩

theorem isDate_eq_false (h : IsTimeless text) : isDate text = false := by
  rw [isDate, h.afterDate?_eq_none]
  rfl

theorem isMoment_eq_false (h : IsTimeless text) : isMoment text = false := by
  rw [isMoment, h.afterDate?_eq_none, h.afterTime?_eq_none]
  rfl

/-- A text that does not begin with a digit. -/
theorem of_head? (h : ∀ c, text.head? = some c → isDigit c = false) : IsTimeless text := by
  rintro front c rest rfl hne hdigits
  obtain ⟨d, others, rfl⟩ := List.exists_cons_of_ne_nil hne
  have hd := hdigits d List.mem_cons_self
  rw [h d rfl] at hd
  cases hd

/-- Digits and underscores, and what begins with no digit, dash or colon. -/
theorem of_grouped {digits front tail : List Char} (h : IsGrouped digits front)
    (htail : ∀ c, tail.head? = some c → isDigit c = false ∧ c ≠ '-' ∧ c ≠ ':') :
    IsTimeless (front ++ tail) := by
  intro before c rest htext _ hdigits
  rcases List.append_eq_append_iff.1 htext with ⟨gap, rfl, rfl⟩ | ⟨gap, rfl, hgap⟩
  · -- The digits reach up to the tail, and not into it.
    cases gap with
    | nil => exact (htail c rfl).2
    | cons d gap =>
      have hd := hdigits d (List.mem_append_right _ List.mem_cons_self)
      rw [(htail d rfl).1] at hd
      cases hd
  · cases gap with
    | nil => exact (htail c (congrArg List.head? hgap.symm)).2
    | cons d gap =>
      obtain ⟨rfl, -⟩ := List.cons.inj hgap
      rcases h.isDigit_or_eq c (List.mem_append_right _ List.mem_cons_self) with hc | rfl
      · constructor
        all_goals
          rintro rfl
          exact absurd hc (by decide)
      · decide

end IsTimeless

/-! ## Numbers -/

/-- A sign is a character that is not a digit, or nothing. -/
theorem not_isDigit_of_isSign {sign : List Char} {negative : Bool} (h : IsSign sign negative) :
    sign = [] ∨ ∃ c, sign = [c] ∧ isDigit c = false := by
  cases h with
  | none => exact .inl rfl
  | plus => exact .inr ⟨_, rfl, by decide⟩
  | minus => exact .inr ⟨_, rfl, by decide⟩

/-- A signed number has nothing of a date. -/
theorem IsTimeless.of_sign {sign text : List Char} {negative : Bool} (hsign : IsSign sign negative)
    (h : IsTimeless text) : IsTimeless (sign ++ text) := by
  rcases not_isDigit_of_isSign hsign with rfl | ⟨c, rfl, hc⟩
  · exact h
  · refine .of_head? fun d hd => ?_
    obtain rfl := Option.some.inj hd
    exact hc

/-- What may follow the digits of a whole number. -/
theorem IsFraction.head? {fraction point tail : List Char} {exponent : Int}
    (h : IsFraction fraction point) (htail : IsExponent exponent tail) {c : Char}
    (hc : (point ++ tail).head? = some c) : c = '.' ∨ c = 'e' ∨ c = 'E' := by
  cases h with
  | absent =>
    cases htail with
    | absent => exact absurd hc nofun
    | mark hmark =>
      obtain rfl := Option.some.inj hc
      exact .inr hmark
  | point =>
    obtain rfl := Option.some.inj hc
    exact .inl rfl

theorem IsReal.isTimeless {x : Binary64} {text : List Char} (h : IsReal x text) :
    IsTimeless text := by
  cases h with
  | decimal hsign hwhole hpoint htail =>
    refine .of_sign hsign (.of_grouped hwhole.1 fun c hc => ?_)
    rcases hpoint.head? htail hc with rfl | rfl | rfl <;> decide
  | infinite hsign => exact .of_sign hsign (.of_head? fun c hc => Option.some.inj hc ▸ by decide)
  | nan hsign => exact .of_sign hsign (.of_head? fun c hc => Option.some.inj hc ▸ by decide)

theorem IsInteger.isTimeless {n : Int} {text : List Char} (h : IsInteger n text) :
    IsTimeless text := by
  obtain ⟨hsign, hwhole⟩ := h
  rw [← List.append_nil (_ ++ _), List.append_assoc]
  exact .of_sign hsign (.of_grouped hwhole.1 nofun)

section Cut

variable {isMark : Char → Bool} {front rest : List Char} {c : Char}

theorem cutAt_of_not_mem (h : ∀ d ∈ front, isMark d = false) :
    cutAt isMark front = (front, none) := by
  have hdrop : front.dropWhile (fun d => !isMark d) = [] :=
    List.dropWhile_eq_nil_iff.2 fun d hd => by rw [h d hd]; rfl
  rw [cutAt, hdrop]

theorem cutAt_append_cons (h : ∀ d ∈ front, isMark d = false) (hc : isMark c) :
    cutAt isMark (front ++ c :: rest) = (front, some rest) := by
  have hfront : ∀ d ∈ front, (!isMark d) = true := fun d hd => by rw [h d hd]; rfl
  have hrest : ∀ d, (c :: rest).head? = some d → (!isMark d) = false := by
    intro d hd
    rw [← Option.some.inj hd, hc]
    rfl
  rw [cutAt, dropWhile_append_eq hfront hrest, takeWhile_append_eq hfront hrest]

end Cut

/-- The mark of an exponent. -/
theorem IsGrouped.not_exponentMark {digits text : List Char} (h : IsGrouped digits text) :
    ∀ c ∈ text, (c = 'e' || c = 'E') = false := by
  intro c hc
  rcases h.isDigit_or_eq c hc with hdigit | rfl
  · simp only [Bool.or_eq_false_iff, decide_eq_false_iff_not]
    constructor
    all_goals
      rintro rfl
      exact absurd hdigit (by decide)
  · rfl

theorem IsGrouped.not_point {digits text : List Char} (h : IsGrouped digits text) :
    ∀ c ∈ text, decide (c = '.') = false := by
  intro c hc
  rw [decide_eq_false_iff_not]
  rintro rfl
  exact absurd (h.isDigit_or_eq _ hc) (by decide)

/-- An exponent part without its letter. -/
theorem exponentPart?_eq {sign digits text : List Char} {negative : Bool}
    (hsign : IsSign sign negative) (h : IsGrouped digits text) :
    exponentPart? (sign ++ text) = some (signed negative (Nat.ofDigitChars 10 digits 0)) := by
  have htake := h.takeSign_append hsign []
  rw [List.append_nil] at htake
  rw [exponentPart?, htake]
  dsimp only
  rw [h.digits?_eq, ← h.digitsValue_eq]
  rfl

/-- The exponent part is cut off and read. -/
theorem IsExponent.cut {exponent : Int} {front tail : List Char} (h : IsExponent exponent tail)
    (hfront : ∀ c ∈ front, (c = 'e' || c = 'E') = false) :
    ∃ part, cutAt (fun c => c = 'e' || c = 'E') (front ++ tail) = (front, part)
      ∧ (part = none → tail = []) ∧ part.elim (some 0) exponentPart? = some exponent := by
  cases h with
  | absent =>
    rw [List.append_nil]
    exact ⟨none, cutAt_of_not_mem hfront, fun _ => rfl, rfl⟩
  | mark hmark hsign hdigits =>
    refine ⟨some _, cutAt_append_cons hfront ?_, (absurd · (Option.some_ne_none _)),
      exponentPart?_eq hsign hdigits⟩
    rcases hmark with rfl | rfl <;> rfl

/-- The fraction is cut off and read. -/
theorem IsFraction.cut {fraction whole point : List Char} (h : IsFraction fraction point)
    (hwhole : ∀ c ∈ whole, decide (c = '.') = false) :
    ∃ part, cutAt (· = '.') (whole ++ point) = (whole, part)
      ∧ (part = none → point = []) ∧ part.elim (some []) (digits? isDigit) = some fraction := by
  cases h with
  | absent =>
    rw [List.append_nil]
    exact ⟨none, cutAt_of_not_mem hwhole, fun _ => rfl, rfl⟩
  | point hdigits =>
    exact ⟨some _, cutAt_append_cons hwhole rfl, (absurd · (Option.some_ne_none _)),
      hdigits.digits?_eq⟩

theorem IsFraction.not_exponentMark {fraction point : List Char} (h : IsFraction fraction point) :
    ∀ c ∈ point, (c = 'e' || c = 'E') = false := by
  cases h with
  | absent => exact nofun
  | point hdigits => exact List.forall_mem_cons.2 ⟨rfl, hdigits.not_exponentMark⟩

theorem IsFraction.isDigit_of_mem {fraction point : List Char} (h : IsFraction fraction point) :
    ∀ c ∈ fraction, isDigit c := by
  cases h with
  | absent => exact nofun
  | point hdigits => exact hdigits.isDigit_of_mem

/-- A number is read part by part. -/
theorem decimal?_eq {sign digits whole fraction point tail : List Char} {negative : Bool}
    {exponent : Int} (hsign : IsSign sign negative) (hwhole : IsWhole digits whole)
    (hpoint : IsFraction fraction point) (htail : IsExponent exponent tail)
    (hne : point ++ tail ≠ []) :
    decimal? (sign ++ (whole ++ (point ++ tail))) =
      some (ofDecimal negative (Nat.ofDigitChars 10 (digits ++ fraction) 0)
        (exponent - fraction.length)) := by
  -- The exponent is cut off first, and the fraction from what is left.
  obtain ⟨exponentText, hexponent, htailNil, hreadTail⟩ := htail.cut
    (List.forall_mem_append.2 ⟨hwhole.1.not_exponentMark, hpoint.not_exponentMark⟩)
  obtain ⟨fractionText, hfraction, hpointNil, hreadPoint⟩ := hpoint.cut hwhole.1.not_point
  have hparts : ¬(exponentText = none ∧ fractionText = none) := fun ⟨h, h'⟩ =>
    hne (List.append_eq_nil_iff.2 ⟨hpointNil h', htailNil h⟩)
  have hvalue : digitsValue (digits ++ fraction) = Nat.ofDigitChars 10 (digits ++ fraction) 0 :=
    Binary64.digitsValue_eq
      (List.forall_mem_append.2 ⟨hwhole.1.isDigit_of_mem, hpoint.isDigit_of_mem⟩)
  rw [decimal?, hwhole.1.takeSign_append hsign, ← List.append_assoc whole]
  dsimp only
  rw [hexponent]
  dsimp only
  rw [hfraction]
  dsimp only
  rw [if_neg hparts, hwhole.wholeDigits?_eq, ← hvalue]
  cases exponentText <;> cases fractionText <;>
    simp only [Option.elim] at hreadTail hreadPoint <;>
    simp [hreadTail, hreadPoint]

theorem real?_of_isReal {x : Binary64} {text : List Char} (h : IsReal x text) :
    real? text = some x := by
  cases h with
  | @decimal sign digits whole fraction point tail negative exponent hsign hwhole hpoint htail hne
      hfits =>
    have hvalue := decimal?_eq hsign hwhole hpoint htail hne
    -- With a digit behind the sign the text is none of the two names.
    obtain ⟨c, rest, hc, hdigit⟩ := hwhole.1.exists_cons
    have hname : ∀ d name, isDigit d = false → whole ++ (point ++ tail) ≠ d :: name := by
      intro d name hd heq
      rw [hc] at heq
      rw [(List.cons.inj heq).1, hd] at hdigit
      cases hdigit
    rw [real?, hwhole.1.takeSign_append hsign]
    dsimp only
    rw [if_neg (hname 'i' _ (by decide)), if_neg (hname 'n' _ (by decide)), hvalue,
      Option.filter_some, if_pos (decide_eq_true hfits)]
  | infinite hsign =>
    rw [real?, takeSign_append hsign (by decide)]
    rfl
  | nan hsign =>
    rw [real?, takeSign_append hsign (by decide)]
    rfl

/-- A whole number is not taken for a number with a point or an exponent. -/
theorem real?_of_isInteger {n : Int} {text : List Char} (h : IsInteger n text) :
    real? text = none := by
  obtain @⟨sign, digits, whole, negative, hsign, hwhole⟩ := h
  have htake := hwhole.1.takeSign_append hsign []
  rw [List.append_nil] at htake
  obtain ⟨c, rest, hc, hdigit⟩ := hwhole.1.exists_cons
  have hname : ∀ d name, isDigit d = false → whole ≠ d :: name := by
    intro d name hd heq
    rw [hc] at heq
    rw [(List.cons.inj heq).1, hd] at hdigit
    cases hdigit
  have hdecimal : decimal? (sign ++ whole) = none := by
    rw [decimal?, htake]
    dsimp only
    rw [cutAt_of_not_mem hwhole.1.not_exponentMark]
    dsimp only
    rw [cutAt_of_not_mem hwhole.1.not_point]
    rfl
  rw [real?, htake]
  dsimp only
  rw [if_neg (hname 'i' _ (by decide)), if_neg (hname 'n' _ (by decide)), hdecimal]
  rfl

theorem integer?_of_isInteger {n : Int} {text : List Char} (h : IsInteger n text) :
    integer? text = some n := by
  obtain @⟨sign, digits, whole, negative, hsign, hwhole, hleast, hgreatest⟩ := h
  have htake := hwhole.1.takeSign_append hsign []
  rw [List.append_nil] at htake
  -- There is no mark of a base.
  have hmark : ∀ c ∈ sign ++ whole, c ≠ 'x' ∧ c ≠ 'o' ∧ c ≠ 'b' := by
    refine List.forall_mem_append.2 ⟨?_, fun c hc => ?_⟩
    · cases hsign <;> simp
    · rcases hwhole.1.isDigit_or_eq c hc with hdigit | rfl
      · refine ⟨?_, ?_, ?_⟩
        all_goals
          rintro rfl
          exact absurd hdigit (by decide)
      · decide
  unfold integer?
  split
  · next heq =>
    exact absurd rfl (hmark 'x' (heq ▸ List.mem_cons_of_mem _ List.mem_cons_self)).1
  · next heq =>
    exact absurd rfl (hmark 'o' (heq ▸ List.mem_cons_of_mem _ List.mem_cons_self)).2.1
  · next heq =>
    exact absurd rfl (hmark 'b' (heq ▸ List.mem_cons_of_mem _ List.mem_cons_self)).2.2
  · rw [htake]
    dsimp only
    rw [hwhole.wholeDigits?_eq, ← hwhole.1.digitsValue_eq] at *
    exact if_pos ⟨hleast, hgreatest⟩

/-- The first character of a number is none of a truth value. -/
theorem IsInteger.ne_word {n : Int} {text : List Char} (h : IsInteger n text) :
    text ≠ "true".toList ∧ text ≠ "false".toList := by
  constructor
  all_goals
    rintro rfl
    exact absurd (integer?_of_isInteger h) nofun

theorem IsReal.ne_word {x : Binary64} {text : List Char} (h : IsReal x text) :
    text ≠ "true".toList ∧ text ≠ "false".toList := by
  constructor
  all_goals
    rintro rfl
    exact absurd (real?_of_isReal h) nofun

/-! ## Runs of characters -/

theorem IsScalar.isTimeless {value : Value} {text : List Char} (h : IsScalar value text) :
    IsTimeless text := by
  cases h with
  | integer h => exact h.isTimeless
  | real h => exact h.isTimeless
  | boolean b =>
    refine .of_head? fun c hc => ?_
    cases b <;> exact Option.some.inj hc ▸ by decide

/-- A number or a truth value is read as such. -/
theorem scalar_of_isScalar {value : Value} {text : List Char} (h : IsScalar value text) :
    scalar text = some value := by
  have hmoment : isMoment text = false := h.isTimeless.isMoment_eq_false
  cases h with
  | boolean b => cases b <;> rfl
  | @integer n text h =>
    obtain ⟨htrue, hfalse⟩ := h.ne_word
    rw [scalar, if_neg htrue, if_neg hfalse, hmoment, if_neg Bool.false_ne_true,
      real?_of_isInteger h, integer?_of_isInteger h]
    rfl
  | @real x text h =>
    obtain ⟨htrue, hfalse⟩ := h.ne_word
    rw [scalar, if_neg htrue, if_neg hfalse, hmoment, if_neg Bool.false_ne_true,
      real?_of_isReal h]

theorem isScalarChar_of_isDigit {c : Char} (h : isDigit c) : isScalarChar c := by
  rw [Binary64.isDigit_eq] at h
  simp [isScalarChar, isKeyChar, Char.isAlphanum, h]

theorem IsGrouped.isScalarChar {digits text : List Char} (h : IsGrouped digits text) :
    ∀ c ∈ text, isScalarChar c := by
  intro c hc
  rcases h.isDigit_or_eq c hc with hdigit | rfl
  · exact isScalarChar_of_isDigit hdigit
  · decide

theorem isScalarChar_of_isSign {sign : List Char} {negative : Bool} (h : IsSign sign negative) :
    ∀ c ∈ sign, isScalarChar c := by
  cases h <;> exact List.all_eq_true.1 rfl

theorem IsFraction.isScalarChar {fraction point : List Char} (h : IsFraction fraction point) :
    ∀ c ∈ point, isScalarChar c := by
  cases h with
  | absent => exact nofun
  | point hdigits => exact List.forall_mem_cons.2 ⟨by decide, hdigits.isScalarChar⟩

theorem IsExponent.isScalarChar {exponent : Int} {tail : List Char} (h : IsExponent exponent tail) :
    ∀ c ∈ tail, isScalarChar c := by
  cases h with
  | absent => exact nofun
  | mark hmark hsign hdigits =>
    refine List.forall_mem_cons.2 ⟨?_, List.forall_mem_append.2
      ⟨isScalarChar_of_isSign hsign, hdigits.isScalarChar⟩⟩
    rcases hmark with rfl | rfl <;> decide

/-- It is a run of characters of its own. -/
theorem IsScalar.isScalarChar {value : Value} {text : List Char} (h : IsScalar value text) :
    text ≠ [] ∧ ∀ c ∈ text, isScalarChar c := by
  cases h with
  | boolean b => cases b <;> exact ⟨by decide, List.all_eq_true.1 (by decide)⟩
  | integer h =>
    obtain ⟨hsign, hwhole⟩ := h
    obtain ⟨c, rest, rfl, -⟩ := hwhole.1.exists_cons
    exact ⟨by simp, List.forall_mem_append.2 ⟨isScalarChar_of_isSign hsign, hwhole.1.isScalarChar⟩⟩
  | real h =>
    cases h with
    | infinite hsign =>
      exact ⟨by simp, List.forall_mem_append.2
        ⟨isScalarChar_of_isSign hsign, List.all_eq_true.1 (by decide)⟩⟩
    | nan hsign =>
      exact ⟨by simp, List.forall_mem_append.2
        ⟨isScalarChar_of_isSign hsign, List.all_eq_true.1 (by decide)⟩⟩
    | decimal hsign hwhole hpoint htail =>
      obtain ⟨c, rest, rfl, -⟩ := hwhole.1.exists_cons
      refine ⟨by simp, ?_⟩
      simp only [List.forall_mem_append]
      exact ⟨isScalarChar_of_isSign hsign, hwhole.1.isScalarChar, hpoint.isScalarChar,
        htail.isScalarChar⟩

end RubricScore.Toml
