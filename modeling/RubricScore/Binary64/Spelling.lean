import RubricScore.Binary64.Decimal

/-!
# Spelling of numbers

A number is written with the digits of its shortest numeral, laid out by a `Spelling`, or with one
decimal place, rounded from its exact value.
-/

namespace RubricScore.Binary64

/-- How the digits of a shortest numeral are laid out. -/
structure Spelling where
  /-- Whether a number whose first digit has this power of ten is written without an exponent. -/
  isPositional : Int → Bool
  /-- Whether a whole number keeps a point and a zero. -/
  keepsPoint : Bool
  /-- Which of two equally near shortest numerals is written. -/
  tie : Tie

/-- Digits written without an exponent, the last one having the given power of ten. -/
def positional (keepsPoint : Bool) (digits : List Char) : Int → List Char
  | .ofNat exponent =>
    digits ++ List.replicate exponent '0' ++ (if keepsPoint then ['.', '0'] else [])
  | .negSucc exponent =>
    -- The point stands among the digits, or zeros fill up the places in front of them.
    let places := exponent + 1
    if places < digits.length then
      digits.take (digits.length - places) ++ '.' :: digits.drop (digits.length - places)
    else '0' :: '.' :: List.replicate (places - digits.length) '0' ++ digits

/-- Digits written with an exponent: one digit, a point if more follow, and the signed exponent. -/
def scientific (digits : List Char) (exponent : Int) : List Char :=
  let significand :=
    match digits with
    | first :: second :: more => first :: '.' :: second :: more
    | short => short
  let sign := if exponent < 0 then '-' else '+'
  significand ++ 'e' :: sign :: Nat.toDigits 10 exponent.natAbs

/-- Text of a positive numeral. -/
def Spelling.numeral (spelling : Spelling) (d : Decimal) : List Char :=
  let digits := Nat.toDigits 10 d.digits
  let leading := d.exponent + (digits.length - 1 : Nat)
  if spelling.isPositional leading then positional spelling.keepsPoint digits d.exponent
  else scientific digits leading

/-- Text of a magnitude. -/
def Spelling.magnitude (spelling : Spelling) (m : Magnitude) : List Char :=
  if m.quanta = 0 then positional spelling.keepsPoint ['0'] 0
  else spelling.numeral (shortest spelling.tie m)

/-- A text with a minus sign in front of it. -/
def withSign (negative : Bool) (text : List Char) : List Char :=
  if negative then '-' :: text else text

/-- Text of a number; the sign of a zero is kept and that of a NaN is not. -/
def Spelling.text (spelling : Spelling) : Binary64 → List Char
  | .nan _ _ => "NaN".toList
  | .infinite negative => withSign negative "inf".toList
  | .finite negative m => withSign negative (spelling.magnitude m)

/-- Plain text: never an exponent, whole numbers without a point. -/
def plain : Spelling :=
  ⟨fun _ => true, false, .upward⟩

/-- Data text: an exponent from `1e+16` on and below `1e-5`, whole numbers with a point. -/
def data : Spelling :=
  ⟨fun exponent => -5 ≤ exponent && exponent < 16, true, .toEven⟩

/-- Plain text of a number. -/
def toPlain (x : Binary64) : String :=
  String.ofList (plain.text x)

/-- Data text of a number. -/
def toData (x : Binary64) : String :=
  String.ofList (data.text x)

/-- Text of a number with one decimal place: the exact value rounded, a tie to the even digit. -/
def toTenths : Binary64 → String
  | .nan _ _ => "NaN"
  | .infinite negative => String.ofList (withSign negative "inf".toList)
  | .finite negative m =>
    let tenths := roundHalfEven (m.quanta * 10) one
    String.ofList
      (withSign negative (Nat.toDigits 10 (tenths / 10) ++ '.' :: Nat.toDigits 10 (tenths % 10)))

end RubricScore.Binary64
