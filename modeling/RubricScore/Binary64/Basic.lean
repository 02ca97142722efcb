import RubricScore.Binary64.Rounding

/-!
# Binary64 numbers

Floating-point numbers of 64 bits as exact values: a finite number is a sign and a whole number of
quanta `2 ^ (-1074)`. Every operation computes its exact result and rounds it once, to the nearest
number with ties to even.
-/

namespace RubricScore

/-- A finite magnitude: a whole number of quanta that the format can hold. -/
structure Magnitude where
  /-- The magnitude in quanta. -/
  quanta : Nat
  /-- At most 53 significant bits. -/
  fits : Binary64.IsMagnitude quanta
  /-- Below the overflow limit. -/
  bounded : quanta < Binary64.limit
deriving DecidableEq

/-- A floating-point number. The sign and payload of a NaN show in the total order only. -/
inductive Binary64 where
  /-- Not a number. -/
  | nan (negative : Bool) (payload : Nat)
  /-- An infinity. -/
  | infinite (negative : Bool)
  /-- A finite number; zero has a sign, too. -/
  | finite (negative : Bool) (magnitude : Magnitude)
deriving DecidableEq

namespace Binary64

/-- The magnitude of zero. -/
def zeroMagnitude : Magnitude :=
  ⟨0, isMagnitude_of_lt (by decide), limit_pos⟩

/-- Positive zero. -/
def zero : Binary64 :=
  .finite false zeroMagnitude

/-- The NaN that operations give. -/
def notANumber : Binary64 :=
  .nan false 0

/-- The number nearest to `num / den` quanta, with the given sign; infinite above the limit. -/
def ofRatio (negative : Bool) (num den : Nat) : Binary64 :=
  if h : nearest num den < limit then
    .finite negative ⟨nearest num den, isMagnitude_nearest num den, h⟩
  else .infinite negative

/-- Exponent of the quantum, with the opposite sign. -/
def quantumPlaces : Nat :=
  1074

/-- Quanta in one unit. -/
def one : Nat :=
  twoPow quantumPlaces

/-- The number nearest to a natural number. -/
def ofNat (n : Nat) : Binary64 :=
  ofRatio false (n * one) 1

/-- The number nearest to a word. -/
def ofWord (n : UInt64) : Binary64 :=
  ofNat n.toNat

instance (n : Nat) : OfNat Binary64 n :=
  ⟨ofNat n⟩

instance : Inhabited Binary64 :=
  ⟨zero⟩

/-- The number is neither infinite nor a NaN. -/
def isFinite : Binary64 → Bool
  | .finite _ _ => true
  | _ => false

/-- The number is not a NaN. -/
def isNumber : Binary64 → Bool
  | .nan _ _ => false
  | _ => true

/-- The sign bit. -/
def isNegative : Binary64 → Bool
  | .nan negative _ => negative
  | .infinite negative => negative
  | .finite negative _ => negative

/-- A signed number of quanta. -/
def signed (negative : Bool) (quanta : Nat) : Int :=
  if negative then -(quanta : Int) else quanta

/-- Position of a number on the number line in quanta; the infinities stand at the limit. Zeros of
both signs share a position. A NaN has none and is put at zero. -/
def position : Binary64 → Int
  | .nan _ _ => 0
  | .infinite negative => signed negative limit
  | .finite negative magnitude => signed negative magnitude.quanta

/-- Smaller than, false when either side is a NaN. -/
def lt (x y : Binary64) : Bool :=
  x.isNumber && y.isNumber && decide (x.position < y.position)

/-- At most, false when either side is a NaN. -/
def le (x y : Binary64) : Bool :=
  x.isNumber && y.isNumber && decide (x.position ≤ y.position)

/-- The greater number; a NaN gives way to the other side. -/
def max (x y : Binary64) : Binary64 :=
  if !x.isNumber then y else if !y.isNumber then x else if x.lt y then y else x

/-- The smaller number; a NaN gives way to the other side. -/
def min (x y : Binary64) : Binary64 :=
  if !x.isNumber then y else if !y.isNumber then x else if y.lt x then y else x

/-- Place of a magnitude, an infinity or a NaN away from zero in the total order. -/
def rank : Binary64 → Nat
  | .nan _ payload => limit + 1 + payload
  | .infinite _ => limit
  | .finite _ magnitude => magnitude.quanta

/-- Key of the total order: negative NaN, negative infinity, negative numbers, negative zero,
positive zero, positive numbers, positive infinity, positive NaN. -/
def totalKey (x : Binary64) : Int :=
  if x.isNegative then -(x.rank : Int) - 1 else x.rank

/-- At most in the total order. -/
def totalLe (x y : Binary64) : Bool :=
  decide (x.totalKey ≤ y.totalKey)

end Binary64

end RubricScore
