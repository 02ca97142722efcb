import RubricScore.Binary64.Basic

/-!
# Arithmetic

Sum, product and quotient: the exact result of two finite numbers, rounded once.
-/

namespace RubricScore.Binary64

/-- The opposite number. -/
def neg : Binary64 → Binary64
  | .nan negative payload => .nan (!negative) payload
  | .infinite negative => .infinite (!negative)
  | .finite negative magnitude => .finite (!negative) magnitude

/-- The number nearest to a whole number of quanta; a zero gets the given sign. -/
def ofQuanta (quanta : Int) (negativeZero : Bool) : Binary64 :=
  ofRatio (if quanta = 0 then negativeZero else decide (quanta < 0)) quanta.natAbs 1

/-- Rounded sum. An exact sum of zero is negative only when both sides are negative zeros. -/
def add : Binary64 → Binary64 → Binary64
  | .nan s p, _ => .nan s p
  | _, .nan s p => .nan s p
  | .infinite s, .infinite t => if s = t then .infinite s else notANumber
  | .infinite s, .finite _ _ => .infinite s
  | .finite _ _, .infinite t => .infinite t
  | .finite s x, .finite t y => ofQuanta (signed s x.quanta + signed t y.quanta) (s && t)

/-- Rounded product. -/
def mul : Binary64 → Binary64 → Binary64
  | .nan s p, _ => .nan s p
  | _, .nan s p => .nan s p
  | .infinite s, .infinite t => .infinite (s != t)
  | .infinite s, .finite t y => if y.quanta = 0 then notANumber else .infinite (s != t)
  | .finite s x, .infinite t => if x.quanta = 0 then notANumber else .infinite (s != t)
  | .finite s x, .finite t y => ofRatio (s != t) (x.quanta * y.quanta) one

/-- Rounded quotient. -/
def div : Binary64 → Binary64 → Binary64
  | .nan s p, _ => .nan s p
  | _, .nan s p => .nan s p
  | .infinite _, .infinite _ => notANumber
  | .infinite s, .finite t _ => .infinite (s != t)
  | .finite s _, .infinite t => .finite (s != t) zeroMagnitude
  | .finite s x, .finite t y =>
    if y.quanta = 0 then
      if x.quanta = 0 then notANumber else .infinite (s != t)
    else ofRatio (s != t) (x.quanta * one) y.quanta

instance : Neg Binary64 := ⟨neg⟩
instance : Add Binary64 := ⟨add⟩
instance : Mul Binary64 := ⟨mul⟩
instance : Div Binary64 := ⟨div⟩

/-- The number is one of the two zeros. -/
def isZero : Binary64 → Bool
  | .finite _ magnitude => magnitude.quanta == 0
  | _ => false

end RubricScore.Binary64
