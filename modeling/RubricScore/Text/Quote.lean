import RubricScore.Text.Class
import RubricScore.Text.VisibleTable

/-!
# Quoted strings in messages

A string shown in a message stands between double quotes, with the characters that would not be seen
written as escapes.
-/

namespace RubricScore.Text

/-- Characters that a quoted string shows as they are. -/
def isVisible (c : Char) : Bool :=
  !inRanges graphemeExtendRanges c.toNat && !inRanges invisibleRanges c.toNat

/-- One character of a quoted string. -/
def quoteChar (c : Char) : List Char :=
  match c with
  | '\x00' => ['\\', '0']
  | '\t' => ['\\', 't']
  | '\n' => ['\\', 'n']
  | '\r' => ['\\', 'r']
  | '"' => ['\\', '"']
  | '\\' => ['\\', '\\']
  | c =>
    if isVisible c then [c]
    else ['\\', 'u', '\x7b'] ++ Nat.toDigits 16 c.toNat ++ ['\x7d']

/-- A string between double quotes, its invisible characters escaped. -/
def quote (text : String) : String :=
  String.ofList ('"' :: text.toList.flatMap quoteChar ++ ['"'])

end RubricScore.Text
