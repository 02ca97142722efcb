import RubricScore.Binary64.Spelling

/-!
# JSON values and their text

The values that documents hold, and the one way this library writes them: two spaces per level, one
member or element a line, empty containers without a line, numbers with the shortest digits that
read back, and strings with the escapes the format demands.
-/

namespace RubricScore.Json

/-- A number of a document: a word, a negative integer of 64 bits, or a floating-point number. -/
inductive Number where
  /-- A natural number below `2 ^ 64`. -/
  | natural (n : UInt64)
  /-- The opposite of a positive number up to `2 ^ 63`. -/
  | negative (n : Nat)
  /-- Any other number. -/
  | real (x : Binary64)
deriving DecidableEq

/-- A JSON value; the members of an object stand in document order. -/
inductive Value where
  /-- The value `null`. -/
  | null
  /-- A truth value. -/
  | bool (b : Bool)
  /-- A number. -/
  | number (n : Number)
  /-- A string. -/
  | string (s : String)
  /-- A list of values. -/
  | array (items : List Value)
  /-- Named values. -/
  | object (members : List (String × Value))

instance : Inhabited Value :=
  ⟨.null⟩

/-- The value of a word. -/
def Value.word (n : UInt64) : Value :=
  .number (.natural n)

/-- The value of a floating-point number. -/
def Value.real (x : Binary64) : Value :=
  .number (.real x)

/-- The value of a list of strings. -/
def Value.strings (items : List String) : Value :=
  .array (items.map .string)

/-- Text of a number. One that is not finite has none and is written as `null`. -/
def Number.text : Number → List Char
  | .natural n => Nat.toDigits 10 n.toNat
  | .negative n => '-' :: Nat.toDigits 10 n
  | .real x => if x.isFinite then Binary64.data.text x else "null".toList

/-- Two hexadecimal digits. -/
def hexPair (n : Nat) : List Char :=
  [Nat.digitChar (n / 16), Nat.digitChar (n % 16)]

/-- One character inside a string: quotes, backslashes and control characters are escaped. -/
def escapeChar (c : Char) : List Char :=
  match c with
  | '"' => ['\\', '"']
  | '\\' => ['\\', '\\']
  | '\x08' => ['\\', 'b']
  | '\x0c' => ['\\', 'f']
  | '\n' => ['\\', 'n']
  | '\r' => ['\\', 'r']
  | '\t' => ['\\', 't']
  | c => if c.toNat < 0x20 then ['\\', 'u', '0', '0'] ++ hexPair c.toNat else [c]

/-- Text of a string, with its quotes. -/
def stringText (s : String) : List Char :=
  '"' :: s.toList.flatMap escapeChar ++ ['"']

/-- A line end and the indentation of the next line. -/
def newLine (level : Nat) : List Char :=
  '\n' :: List.replicate (2 * level) ' '

mutual

/-- Text of a value whose first line is already indented. -/
def Value.textAt (level : Nat) : Value → List Char
  | .null => "null".toList
  | .bool true => "true".toList
  | .bool false => "false".toList
  | .number n => n.text
  | .string s => stringText s
  | .array [] => ['[', ']']
  | .array (item :: items) =>
    '[' :: newLine (level + 1) ++ item.textAt (level + 1) ++ itemsText level items
  | .object [] => ['\x7b', '\x7d']
  | .object (member :: members) =>
    '\x7b' :: newLine (level + 1) ++ memberText level member ++ membersText level members

/-- The elements after the first and the closing bracket. -/
def itemsText (level : Nat) : List Value → List Char
  | [] => newLine level ++ [']']
  | item :: items =>
    ',' :: newLine (level + 1) ++ item.textAt (level + 1) ++ itemsText level items

/-- One member of an object. -/
def memberText (level : Nat) : String × Value → List Char
  | (name, value) => stringText name ++ ':' :: ' ' :: value.textAt (level + 1)

/-- The members after the first and the closing brace. -/
def membersText (level : Nat) : List (String × Value) → List Char
  | [] => newLine level ++ ['\x7d']
  | member :: members =>
    ',' :: newLine (level + 1) ++ memberText level member ++ membersText level members

end

/-- Text of a value. -/
def Value.text (value : Value) : List Char :=
  value.textAt 0

/-- Text of a value as a string. -/
def Value.render (value : Value) : String :=
  String.ofList value.text

/-- Inserts a member before the first one with a greater name; of two members of one name the new
one stays. -/
def putSorted (name : String) (value : Value) : List (String × Value) → List (String × Value)
  | [] => [(name, value)]
  | (other, held) :: rest =>
    if name = other then (name, value) :: rest
    else if name < other then (name, value) :: (other, held) :: rest
    else (other, held) :: putSorted name value rest

mutual

/-- The value with the members of every object sorted by name, the last of one name kept. -/
def Value.sorted : Value → Value
  | .array items => .array (sortedItems items)
  | .object members => .object (sortedMembers members [])
  | .null => .null
  | .bool b => .bool b
  | .number n => .number n
  | .string s => .string s

/-- Sorts every element of a list. -/
def sortedItems : List Value → List Value
  | [] => []
  | item :: items => item.sorted :: sortedItems items

/-- Puts the members one after the other among those already sorted. -/
def sortedMembers : List (String × Value) → List (String × Value) → List (String × Value)
  | [], done => done
  | member :: members, done => sortedMembers members (putMember member done)

/-- Puts one member among those already sorted. -/
def putMember : String × Value → List (String × Value) → List (String × Value)
  | (name, value), done => putSorted name value.sorted done

end

end RubricScore.Json
