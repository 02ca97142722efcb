import RubricScore.Binary64.Decimal
import RubricScore.Toml.Quoted
import RubricScore.Toml.Value

/-!
# TOML numbers, dates and times

A value that is neither a string nor a container is one run of characters. Each kind is recognised
by its whole text.
-/

namespace RubricScore.Toml

open Binary64 (digit? isDigit digitsValue takeSign signed)

/-- Digits of a base with single underscores between them; gives the digits alone. -/
def digits? (isBaseDigit : Char → Bool) (text : List Char) : Option (List Char) :=
  let runs := text.splitOn '_'
  if runs.all fun run => run ≠ [] && run.all isBaseDigit then some runs.flatten else none

/-- Decimal digits of a whole number: no zero stands in front of other digits. -/
def wholeDigits? (text : List Char) : Option (List Char) :=
  match text with
  | '0' :: _ :: _ => none
  | text => digits? isDigit text

/-- An integer that fits into 64 bits. -/
def bounded? (n : Int) : Option Int :=
  if Int64.minValue.toInt ≤ n ∧ n ≤ Int64.maxValue.toInt then some n else none

/-- Value of a run of digits in a base. -/
def valueIn (base : Nat) (digits : List Char) : Nat :=
  digits.foldl (fun n c => n * base + (hexDigit? c).getD 0) 0

/-- The digit is smaller than the base. -/
def isDigitOf (base : Nat) (c : Char) : Bool :=
  (hexDigit? c).any (· < base)

/-- An integer with a mark of its base. -/
def basedInteger? (base : Nat) (text : List Char) : Option Int := do
  let digits ← digits? (isDigitOf base) text
  bounded? (valueIn base digits)

/-- An integer. -/
def integer? (text : List Char) : Option Int :=
  match text with
  | '0' :: 'x' :: rest => basedInteger? 16 rest
  | '0' :: 'o' :: rest => basedInteger? 8 rest
  | '0' :: 'b' :: rest => basedInteger? 2 rest
  | text => do
    let (negative, rest) := takeSign text
    let digits ← wholeDigits? rest
    bounded? (signed negative (digitsValue digits))

/-- The exponent part of a number without its mark. -/
def exponentPart? (text : List Char) : Option Int := do
  let (negative, rest) := takeSign text
  let digits ← digits? isDigit rest
  return signed negative (digitsValue digits)

/-- The two sides of the first character of a kind; the second side is absent without one. -/
def cutAt (isMark : Char → Bool) (text : List Char) : List Char × Option (List Char) :=
  match text.dropWhile fun c => !isMark c with
  | [] => (text, none)
  | _ :: rest => (text.takeWhile fun c => !isMark c, some rest)

/-- A number with a fraction, an exponent or both. -/
def decimal? (text : List Char) : Option Binary64 := do
  let (negative, unsigned) := takeSign text
  let (significand, exponentText) := cutAt (fun c => c = 'e' || c = 'E') unsigned
  let (wholeText, fractionText) := cutAt (· = '.') significand
  if exponentText = none ∧ fractionText = none then none
  let whole ← wholeDigits? wholeText
  let fraction ← match fractionText with
    | none => some []
    | some text => digits? isDigit text
  let exponent ← match exponentText with
    | none => some 0
    | some text => exponentPart? text
  return Binary64.ofDecimal negative (digitsValue (whole ++ fraction)) (exponent - fraction.length)

/-- A floating-point number. One that overflows is refused if it is positive. -/
def real? (text : List Char) : Option Binary64 :=
  let (negative, name) := takeSign text
  if name = ['i', 'n', 'f'] then some (.infinite negative)
  else if name = ['n', 'a', 'n'] then some (.nan negative 0)
  else (decimal? text).filter (· ≠ .infinite false)

/-- A number of two digits that is at most a limit, and what follows. -/
def pair? (least greatest : Nat) : List Char → Option (Nat × List Char)
  | a :: b :: rest => do
    let n := (← digit? a) * 10 + (← digit? b)
    if least ≤ n ∧ n ≤ greatest then some (n, rest) else none
  | _ => none

/-- Drops a character that must stand there. -/
def after? (c : Char) : List Char → Option (List Char)
  | first :: rest => if first = c then some rest else none
  | [] => none

/-- Days of a month. -/
def daysIn (year month : Nat) : Nat :=
  if month = 2 then
    if year % 4 = 0 ∧ (year % 100 ≠ 0 ∨ year % 400 = 0) then 29 else 28
  else if month = 4 ∨ month = 6 ∨ month = 9 ∨ month = 11 then 30
  else 31

/-- Passes over a date. -/
def afterDate? (text : List Char) : Option (List Char) := do
  let year := text.take 4
  if year.length ≠ 4 ∨ !year.all isDigit then none
  let rest ← after? '-' (text.drop 4)
  let (month, rest) ← pair? 1 12 rest
  let rest ← after? '-' rest
  let (_, rest) ← pair? 1 (daysIn (digitsValue year) month) rest
  return rest

/-- Passes over a time of day, with a fraction of the second if there is one. -/
def afterTime? (text : List Char) : Option (List Char) := do
  let (_, rest) ← pair? 0 23 text
  let rest ← after? ':' rest
  let (_, rest) ← pair? 0 59 rest
  let rest ← after? ':' rest
  -- The sixtieth second is a leap second.
  let (_, rest) ← pair? 0 60 rest
  match rest with
  | '.' :: c :: tail => return if isDigit c then tail.dropWhile isDigit else rest
  | rest => return rest

/-- The text is an offset from universal time, or empty. -/
def isOffset (text : List Char) : Bool :=
  match text with
  | [] => true
  | ['Z'] => true
  | ['z'] => true
  | c :: rest =>
    (c = '+' || c = '-') && Option.isSome do
      let (_, rest) ← pair? 0 23 rest
      let rest ← after? ':' rest
      let (_, rest) ← pair? 0 59 rest
      if rest = [] then some () else none

/-- The text is a time of day, perhaps with an offset. -/
def isTimeWithOffset (text : List Char) : Bool :=
  (afterTime? text).any isOffset

/-- The text is a date without a time. -/
def isDate (text : List Char) : Bool :=
  afterDate? text = some []

/-- The text is a date, a time of day, or both with a letter between them. -/
def isMoment (text : List Char) : Bool :=
  match afterDate? text with
  | some [] => true
  | some (c :: rest) => (c = 'T' || c = 't') && isTimeWithOffset rest
  | none => afterTime? text = some []

/-- The value of a run of characters. -/
def scalar (text : List Char) : Option Value :=
  if text = "true".toList then some (.boolean true)
  else if text = "false".toList then some (.boolean false)
  else if isMoment text then some .moment
  else
    match real? text with
    | some x => some (.real x)
    | none => (integer? text).map .integer

end RubricScore.Toml
