import RubricScore.Json.Number
import RubricScore.Json.Scan
import RubricScore.OrderedMap
import RubricScore.Text.Quote

/-!
# Reading values of given shapes

A `Reader` takes a node for a value of one type. The first fault in document order wins, whether it
is a value of the wrong type or the point where the document breaks off. Records are written as
objects, or as lists of their fields in order; members with unknown names are passed over.
-/

namespace RubricScore.Json

/-- What stood in the place of the value that was expected. -/
inductive Found where
  /-- The literal `null`. -/
  | null
  /-- A truth value. -/
  | bool (b : Bool)
  /-- A number. -/
  | number (n : Number)
  /-- A string. -/
  | string (s : String)
  /-- A list. -/
  | sequence
  /-- An object. -/
  | map
deriving DecidableEq

/-- How a value differs from what was expected. -/
inductive Mismatch where
  /-- A required member is absent. -/
  | missingField (name : String)
  /-- A member of a record stands twice. -/
  | duplicateField (name : String)
  /-- A value of another type. -/
  | wrongType (found : Found) (expected : String)
  /-- A value of the right type that is out of range. -/
  | wrongValue (found : Found) (expected : String)
  /-- A list that is too short for a record. -/
  | wrongLength (length : Nat) (record : String) (fields : Nat)
  /-- A value that none of the forms of the type fits. -/
  | noForm (type : String)
deriving DecidableEq

/-- Why a document does not give a value. -/
inductive Fault where
  /-- The document cannot be read so far. -/
  | broken (cut : Break)
  /-- A value does not fit. -/
  | mismatch (mismatch : Mismatch)
deriving DecidableEq

/-- Name of what was found, as messages have it. -/
def Found.text : Found → String
  | .null => "null"
  | .bool b => "boolean `" ++ (if b then "true" else "false") ++ "`"
  | .number (.natural n) => "integer `" ++ String.ofList (Number.natural n).text ++ "`"
  | .number (.negative n) => "integer `" ++ String.ofList (Number.negative n).text ++ "`"
  | .number (.real x) => "floating point `" ++ x.toData ++ "`"
  | .string s => "string " ++ Text.quote s
  | .sequence => "sequence"
  | .map => "map"

/-- Message of a mismatch. -/
def Mismatch.message : Mismatch → String
  | .missingField name => "missing field `" ++ name ++ "`"
  | .duplicateField name => "duplicate field `" ++ name ++ "`"
  | .wrongType found expected => "invalid type: " ++ found.text ++ ", expected " ++ expected
  | .wrongValue found expected => "invalid value: " ++ found.text ++ ", expected " ++ expected
  | .wrongLength length record fields =>
    "invalid length " ++ toString length ++ ", expected struct " ++ record ++ " with "
      ++ toString fields ++ (if fields = 1 then " element" else " elements")
  | .noForm type => "data did not match any variant of untagged enum " ++ type

/-- Message of a fault. -/
def Fault.message : Fault → String
  | .broken .ended => "the document ends too early"
  | .broken .malformed => "the document is not JSON"
  | .mismatch difference => difference.message

/-- A way to take a node for a value. The number says how many containers may still be opened. -/
abbrev Reader (α : Type) : Type :=
  Nat → Node → Except Fault α

/-- Number of containers that may stand inside each other. -/
def depthLimit : Nat :=
  127

/-- A value that does not fit. -/
def reject {α : Type} (mismatch : Mismatch) : Except Fault α :=
  .error (.mismatch mismatch)

/-- A place where the document is broken. -/
def breakAt {α : Type} (cut : Break) : Except Fault α :=
  .error (.broken cut)

/-- Goes on only if nothing is cut off here. -/
def whole (cut : Option Break) : Except Fault Unit :=
  match cut with
  | none => .ok ()
  | some cut => breakAt cut

/-- The character of a code unit that is no surrogate, or of a pair of surrogates. -/
def pairChar (high low : Nat) : Char :=
  Char.ofNat (0x10000 + (high - 0xD800) * 0x400 + (low - 0xDC00))

/-- Continues the text of a string; `done` is the text so far, last character first. A surrogate
must stand in a pair, high one first. -/
def glyphsText (cut : Option Break) (done : List Char) : List Glyph → Except Fault (List Char)
  | [] => do
    whole cut
    return done.reverse
  | .char c :: rest => glyphsText cut (c :: done) rest
  | .unit n :: rest =>
    if n < 0xD800 ∨ 0xE000 ≤ n then glyphsText cut (Char.ofNat n :: done) rest
    -- A low surrogate without a high one in front of it.
    else if 0xDC00 ≤ n then breakAt .malformed
    else
      match rest with
      | .unit m :: rest =>
        if 0xDC00 ≤ m ∧ m < 0xE000 then glyphsText cut (pairChar n m :: done) rest
        else breakAt .malformed
      | .char _ :: _ => breakAt .malformed
      -- The string may have broken off between the two surrogates.
      | [] => breakAt (cut.getD .malformed)

/-- The text of a string. -/
def Quoted.text (quoted : Quoted) : Except Fault String :=
  (glyphsText quoted.cut [] quoted.glyphs).map String.ofList

/-- The number of a numeral; one that overflows is malformed. -/
def Numeral.read (numeral : Numeral) : Except Fault Number :=
  match numeral.number? with
  | some n => .ok n
  | none => breakAt .malformed

/-- Refuses a node in a place where something else is expected. Literals, numbers and strings are
read to their end first, containers are not. -/
def refuse {α : Type} (expected : String) : Node → Except Fault α
  | .missing cut => breakAt cut
  | .numberCut cut => breakAt cut
  | .null => reject (.wrongType .null expected)
  | .bool b => reject (.wrongType (.bool b) expected)
  | .number numeral => do reject (.wrongType (.number (← numeral.read)) expected)
  | .string quoted => do reject (.wrongType (.string (← quoted.text)) expected)
  | .array _ _ => reject (.wrongType .sequence expected)
  | .object _ _ => reject (.wrongType .map expected)

/-- Enters a container if one more may be opened. -/
def enter {α : Type} (room : Nat) (inside : Nat → Except Fault α) : Except Fault α :=
  match room with
  | 0 => breakAt .malformed
  | room + 1 => inside room

/-- Reads a floating-point number; whole numbers are rounded. -/
def readReal : Reader Binary64
  | _, .number numeral => do
    match ← numeral.read with
    | .natural n => return Binary64.ofWord n
    | .negative n => return -Binary64.ofNat n
    | .real x => return x
  | _, node => refuse "f64" node

/-- Reads a word; messages call it by the given name. -/
def readWord (name : String) : Reader UInt64
  | _, .number numeral => do
    match ← numeral.read with
    | .natural n => return n
    | .negative n => reject (.wrongValue (.number (.negative n)) name)
    | .real x => reject (.wrongType (.number (.real x)) name)
  | _, node => refuse name node

/-- Reads a string; messages call it by the given name. -/
def readText (name : String) : Reader String
  | _, .string quoted => quoted.text
  | _, node => refuse name node

/-- Reads a string. -/
def readString : Reader String :=
  readText "a string"

/-- Reads a list. -/
def readList {α : Type} (item : Reader α) : Reader (List α)
  | room, .array items cut => enter room fun room => do
    let values ← items.mapM (item room)
    whole cut
    return values
  | _, node => refuse "a sequence" node

/-- Reads a value or `null`. -/
def readOption {α : Type} (value : Reader α) : Reader (Option α)
  | _, .null => .ok none
  | room, node => (value room node).map some

/-- Reads the members of an object one after the other, the last value of a name replacing the
earlier ones. -/
def readEntries {α : Type} (value : Reader α) (room : Nat) (map : OrderedMap String α) :
    List (Quoted × Node) → Except Fault (OrderedMap String α)
  | [] => .ok map
  | (name, node) :: rest => do
    let name ← name.text
    let held ← value room node
    readEntries value room (map.insert name held) rest

/-- Reads an object whose members all have values of one type. -/
def readMap {α : Type} (value : Reader α) : Reader (OrderedMap String α)
  | room, .object members cut => enter room fun room => do
    let map ← readEntries value room OrderedMap.empty members
    whole cut
    return map
  | _, node => refuse "a map" node

/-- One field of a record. -/
structure Field (α : Type) where
  /-- Name of the field. -/
  name : String
  /-- The field has no default. -/
  required : Bool
  /-- How a node changes the record. -/
  read : Reader (α → α)

/-- A record: its name in messages, its value before any field is read, and its fields in order. -/
structure Shape (α : Type) where
  /-- Name of the record. -/
  name : String
  /-- The record with every field at its default. -/
  blank : α
  /-- The fields, in the order of a list that stands for the record. -/
  fields : List (Field α)

/-- A field with a way to read its value and to put it into the record. -/
def field {α β : Type} (name : String) (required : Bool) (value : Reader β) (put : β → α → α) :
    Field α :=
  ⟨name, required, fun room node => (value room node).map put⟩

/-- Reads the members of a record; `seen` holds the names of the fields that were read. -/
def readMembers {α : Type} (fields : List (Field α)) (room : Nat) (seen : List String)
    (record : α) : List (Quoted × Node) → Except Fault (List String × α)
  | [] => .ok (seen, record)
  | (name, node) :: rest => do
    let name ← name.text
    match fields.find? (·.name == name) with
    | none =>
      -- Nothing is read of a member that the record does not have, but it must not break off.
      whole node.cut?
      readMembers fields room seen record rest
    | some known =>
      if name ∈ seen then reject (.duplicateField name)
      else
        let change ← known.read room node
        readMembers fields room (name :: seen) (change record) rest

/-- Reads the elements of a list as the fields of a record, from the one at `index` on. Fields with
a default may be left out at the end; no element may be left over. -/
def readPositions {α : Type} (shape : Shape α) (room : Nat) (cut : Option Break) (index : Nat)
    (record : α) : List (Field α) → List Node → Except Fault α
  | [], [] => do
    whole cut
    return record
  | [], _ :: _ => breakAt .malformed
  | next :: fields, [] => do
    whole cut
    if next.required then reject (.wrongLength index shape.name shape.fields.length)
    else readPositions shape room cut (index + 1) record fields []
  | next :: fields, node :: rest => do
    let change ← next.read room node
    readPositions shape room cut (index + 1) (change record) fields rest

/-- Reads a record from an object or a list. -/
def readRecord {α : Type} (shape : Shape α) : Reader α
  | room, .object members cut => enter room fun room => do
    let (seen, record) ← readMembers shape.fields room [] shape.blank members
    whole cut
    -- Of several missing fields the first one in the order of the record is named.
    match shape.fields.find? fun f => f.required && !seen.contains f.name with
    | some absent => reject (.missingField absent.name)
    | none => return record
  | room, .array items cut => enter room fun room =>
    readPositions shape room cut 0 shape.blank shape.fields items
  | _, node => refuse ("struct " ++ shape.name) node

mutual

/-- Reads any value, the members of its objects in document order. -/
def readValue (room : Nat) : Node → Except Fault Value
  | .missing cut => breakAt cut
  | .numberCut cut => breakAt cut
  | .null => .ok .null
  | .bool b => .ok (.bool b)
  | .number numeral => numeral.read.map .number
  | .string quoted => quoted.text.map .string
  | .array items cut => enter room fun room => do
    let values ← readValues room items
    whole cut
    return .array values
  | .object members cut => enter room fun room => do
    let members ← readNamed room members
    whole cut
    return .object members

/-- Reads every value of a list. -/
def readValues (room : Nat) : List Node → Except Fault (List Value)
  | [] => .ok []
  | node :: rest => do
    let value ← readValue room node
    let values ← readValues room rest
    return value :: values

/-- Reads every member of an object. -/
def readNamed (room : Nat) : List (Quoted × Node) → Except Fault (List (String × Value))
  | [] => .ok []
  | member :: rest => do
    let value ← readMember room member
    let values ← readNamed room rest
    return value :: values

/-- Reads one member of an object. -/
def readMember (room : Nat) : Quoted × Node → Except Fault (String × Value)
  | (name, node) => do
    let name ← name.text
    let value ← readValue room node
    return (name, value)

end

/-- Reads a document with a reader; nothing may stand after its value. -/
def decode {α : Type} (reader : Reader α) (text : List Char) : Except Fault α := do
  let document := Document.ofText text
  let value ← reader depthLimit document.value
  if document.hasMore then breakAt .malformed else return value

end RubricScore.Json
