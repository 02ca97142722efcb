import RubricScore.Json.Node

/-!
# Numbers of a document

How a numeral becomes a number. The digits are gathered into a word as far as it can hold them; the
word is then rounded to a floating-point number and multiplied or divided once by a power of ten,
itself rounded. The result can differ from the nearest number in its last bit. A numeral without
point and exponent that a word or a negative integer of 64 bits can hold stays exact.
-/

namespace RubricScore.Json

/-- Gathers digits into a word: the word so far grows as long as it fits 64 bits, and the
digits from the first one that does not fit are left. -/
def gather : Nat → List Char → Nat × List Char
  | word, [] => (word, [])
  | word, c :: rest =>
    let next := word * 10 + (Binary64.digit? c).getD 0
    if next < UInt64.size then gather next rest else (word, c :: rest)

/-- A power of ten, rounded. -/
def powerOfTen (exponent : Nat) : Binary64 :=
  Binary64.ofDecimal false 1 exponent

/-- Divides by a power of ten, in steps of `10 ^ 308` as long as the exponent exceeds 308. -/
def scaleDown (x : Binary64) (exponent : Nat) : Binary64 :=
  if exponent ≤ 308 then x / powerOfTen exponent
  else if x.isZero then x
  else scaleDown (x / powerOfTen 308) (exponent - 308)
termination_by exponent
decreasing_by omega

/-- A word times a power of ten; nothing when the result overflows. -/
def scale (word : Nat) : Int → Option Binary64
  | .ofNat exponent =>
    let x := Binary64.ofNat word
    if 308 < exponent then if x.isZero then some x else none
    else
      let y := x * powerOfTen exponent
      if y.isFinite then some y else none
  | .negSucc exponent => some (scaleDown (Binary64.ofNat word) (exponent + 1))

/-- Greatest exponent that is read as a number: the greatest integer of 32 bits. -/
def exponentLimit : Nat :=
  2147483647

/-- The magnitude of a numeral with a point or an exponent, or with more digits than a word holds;
nothing when it overflows. -/
def Numeral.magnitude? (numeral : Numeral) : Option Binary64 :=
  let (front, frontLeft) := gather 0 numeral.whole
  let (word, backLeft) := gather front numeral.fraction
  -- Digits that are left count as zeros before the point and not at all after it.
  let places := (frontLeft.length : Int) - (numeral.fraction.length - backLeft.length : Nat)
  match numeral.exponent with
  | none => scale word places
  | some (negative, digits) =>
    let exponent := Binary64.digitsValue digits
    if exponentLimit < exponent then
      -- An exponent that is too large is not added up: the number is zero or overflows.
      if word ≠ 0 ∧ !negative then none else some Binary64.zero
    else scale word (places + Binary64.signed negative exponent)

/-- The number that a numeral stands for; nothing when it overflows. -/
def Numeral.number? (numeral : Numeral) : Option Number :=
  let (word, left) := gather 0 numeral.whole
  if left = [] ∧ numeral.fraction = [] ∧ numeral.exponent = none
      ∧ (numeral.negative → word ≠ 0 ∧ Int64.minValue.toInt ≤ -(word : Int)) then
    some (if numeral.negative then .negative word else .natural (.ofNat word))
  else
    numeral.magnitude?.map fun x => .real (if numeral.negative then -x else x)

end RubricScore.Json
