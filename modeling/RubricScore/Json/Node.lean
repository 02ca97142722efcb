import RubricScore.Json.Value

/-!
# Documents as far as they can be read

A document may end too early or hold something that is not JSON. A `Node` is what stands before that
point: every container that was still open says why it was not closed. Only the last part of a
document can be broken, so a node that is closed is whole.
-/

namespace RubricScore.Json

/-- Why a document cannot be read on. -/
inductive Break where
  /-- The document ends too early. -/
  | ended
  /-- Something stands there that the format does not allow. -/
  | malformed
deriving DecidableEq

/-- One element of a string: a character, plain or escaped, or a code unit in hexadecimal. -/
inductive Glyph where
  /-- A character. -/
  | char (c : Char)
  /-- A code unit of 16 bits. -/
  | unit (n : Nat)
deriving DecidableEq

/-- A string as written. -/
structure Quoted where
  /-- The elements between the quotes. -/
  glyphs : List Glyph
  /-- Why the closing quote is missing, if it is. -/
  cut : Option Break
deriving DecidableEq

/-- A number as written: its digits before the point, after it, and the exponent. -/
structure Numeral where
  /-- A minus sign stands in front. -/
  negative : Bool
  /-- Digits before the point. -/
  whole : List Char
  /-- Digits after the point, empty without one. -/
  fraction : List Char
  /-- The sign of the exponent, true for a minus, and its digits. -/
  exponent : Option (Bool × List Char)
deriving DecidableEq

/-- A value as far as it can be read. -/
inductive Node where
  /-- No value stands where one must. -/
  | missing (cut : Break)
  /-- The literal `null`. -/
  | null
  /-- The literals `true` and `false`. -/
  | bool (b : Bool)
  /-- A number. -/
  | number (numeral : Numeral)
  /-- A number that lacks a digit it needs. -/
  | numberCut (cut : Break)
  /-- A string. -/
  | string (quoted : Quoted)
  /-- A list and why it is not closed, if it is not. -/
  | array (items : List Node) (cut : Option Break)
  /-- An object and why it is not closed, if it is not. -/
  | object (members : List (Quoted × Node)) (cut : Option Break)

instance : Inhabited Node :=
  ⟨.missing .ended⟩

/-- Why the node is not whole, as seen by a reader that passes over it: such a reader takes a number
that lacks a digit for malformed even at the end of the document. -/
def Node.cut? : Node → Option Break
  | .missing cut => some cut
  | .numberCut _ => some .malformed
  | .string quoted => quoted.cut
  | .array _ cut => cut
  | .object _ cut => cut
  | .null => none
  | .bool _ => none
  | .number _ => none

/-- A document: one value, and whether something stands after it. -/
structure Document where
  /-- The value. -/
  value : Node
  /-- Something other than white space follows the value. -/
  hasMore : Bool

end RubricScore.Json
