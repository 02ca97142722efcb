import RubricScore.Binary64.Arithmetic

/-!
# Decimal numerals

`ofDecimal` rounds a decimal numeral to the nearest number. `shortest` goes back: of the numerals
that read back as the number it takes one with the fewest digits, and of those the nearest.
`parse?` reads the text of a number.
-/

namespace RubricScore.Binary64

/-- The number nearest to `digits * 10 ^ exponent`. The two bounds on the exponent lie beyond the
format's range, where the result does not depend on it. -/
def ofDecimal (negative : Bool) (digits : Nat) : Int → Binary64
  | .ofNat exponent =>
    if digits = 0 then .finite negative zeroMagnitude
    else if 400 < exponent then .infinite negative
    else ofRatio negative (digits * Nat.pow 10 exponent * one) 1
  | .negSucc exponent =>
    if digits = 0 ∨ digits.log2 + 1200 < 3 * exponent then .finite negative zeroMagnitude
    else ofRatio negative (digits * one) (Nat.pow 10 (exponent + 1))

/-- A positive decimal numeral, `digits * 10 ^ exponent`. -/
structure Decimal where
  /-- Its significant digits as one number. -/
  digits : Nat
  /-- Power of ten of the last digit. -/
  exponent : Int
deriving DecidableEq

/-- Which of two numerals that are equally near is taken. -/
inductive Tie where
  /-- The one whose last digit is even. -/
  | toEven
  /-- The greater one. -/
  | upward
deriving DecidableEq

/-- Decimal exponent of a positive quotient: the power of ten of its first digit. -/
def leadingExponent (num den : Nat) : Int :=
  if den ≤ num then ((Nat.toDigits 10 (num / den)).length : Int) - 1
  else -((Nat.toDigits 10 ((den + num - 1) / num - 1)).length : Int)

/-- The quotient `num / den` in units of `10 ^ exponent`, as a quotient. -/
def inUnits (num den : Nat) : Int → Nat × Nat
  | .ofNat exponent => (num, den * Nat.pow 10 exponent)
  | .negSucc exponent => (num * Nat.pow 10 (exponent + 1), den)

/-- The nearest multiple of `10 ^ exponent` that reads back as the magnitude, if one does. Only the
two neighbours of the magnitude need to be tried. -/
def onGrid (tie : Tie) (magnitude : Magnitude) (exponent : Int) : Option Decimal :=
  let (num, den) := inUnits magnitude.quanta one exponent
  let low := num / den
  let twice := 2 * (num % den)
  let readsBack (digits : Nat) := ofDecimal false digits exponent = .finite false magnitude
  let lower : Decimal := ⟨low, exponent⟩
  let upper : Decimal := ⟨low + 1, exponent⟩
  if readsBack low then
    if readsBack (low + 1) then
      -- Both neighbours read back: the nearer one is written.
      if twice < den then some lower
      else if den < twice then some upper
      else if tie = .toEven ∧ low % 2 = 0 then some lower
      else some upper
    else some lower
  else if readsBack (low + 1) then some upper
  else none

/-- The numeral without zeros at its end. -/
def Decimal.stripped (d : Decimal) : Decimal :=
  if d.digits ≠ 0 ∧ d.digits % 10 = 0 then
    Decimal.stripped ⟨d.digits / 10, d.exponent + 1⟩
  else d
termination_by d.digits
decreasing_by omega

/-- The numeral with the fewest digits that reads back as a positive magnitude, and of those the
nearest. Seventeen digits always suffice; the exact value stands at the end of the search. -/
def shortest (tie : Tie) (magnitude : Magnitude) : Decimal :=
  let first := leadingExponent magnitude.quanta one
  -- Every round allows one digit more than the one before it.
  let found := (List.range 17).findSome? fun (more : Nat) => onGrid tie magnitude (first - more)
  (found.getD ⟨magnitude.quanta * Nat.pow 5 quantumPlaces, -quantumPlaces⟩).stripped

/-- Value of a decimal digit, if the character is one. -/
def digit? (c : Char) : Option Nat :=
  if '0' ≤ c ∧ c ≤ '9' then some (c.toNat - '0'.toNat) else none

/-- The character is a decimal digit. -/
def isDigit (c : Char) : Bool :=
  (digit? c).isSome

/-- Value of a run of decimal digits. -/
def digitsValue (digits : List Char) : Nat :=
  digits.foldl (fun n c => n * 10 + (digit? c).getD 0) 0

/-- A sign at the front of a text, true for a minus, and what follows it. -/
def takeSign : List Char → Bool × List Char
  | '-' :: rest => (true, rest)
  | '+' :: rest => (false, rest)
  | rest => (false, rest)

/-- Exponent part of a numeral; the whole text has to be one. An absent part is zero. -/
def exponent? : List Char → Option Int
  | [] => some 0
  | mark :: rest =>
    let (negative, digits) := takeSign rest
    if (mark = 'e' ∨ mark = 'E') ∧ digits ≠ [] ∧ digits.all isDigit then
      some (signed negative (digitsValue digits))
    else none

/-- Reads an unsigned numeral: digits, an optional point with digits, an optional exponent, and at
least one digit before the exponent. -/
def numeral? (negative : Bool) (text : List Char) : Option Binary64 :=
  let whole := text.takeWhile isDigit
  let rest := text.dropWhile isDigit
  let (fraction, rest) :=
    match rest with
    | '.' :: tail => (tail.takeWhile isDigit, tail.dropWhile isDigit)
    | _ => ([], rest)
  if whole = [] ∧ fraction = [] then none
  else
    (exponent? rest).map fun exponent =>
      ofDecimal negative (digitsValue (whole ++ fraction)) (exponent - fraction.length)

/-- Reads the text of a number: an optional sign, then a numeral, `inf`, `infinity` or `nan` in any
letter case. -/
def parse? (text : List Char) : Option Binary64 :=
  let (negative, body) := takeSign text
  match numeral? negative body with
  | some x => some x
  | none =>
    let name := String.ofList (body.map Char.toLower)
    if name = "inf" ∨ name = "infinity" then some (.infinite negative)
    else if name = "nan" then some (.nan negative 0)
    else none

end RubricScore.Binary64
