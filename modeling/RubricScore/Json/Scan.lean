import RubricScore.Json.Node

/-!
# Scanning a document

The scanner reads a document one character at a time. Its state is a stack of containers that are
open and a phase that says what may come next; at the end, or at a character that cannot stand where
it is, the open containers are closed as broken.
-/

namespace RubricScore.Json

/-- A container that is open, with what it already holds, last element first. -/
inductive Frame where
  /-- A list. -/
  | array (before : List Node)
  /-- An object between two members. -/
  | object (before : List (Quoted × Node))
  /-- An object whose member of the given name has no value yet. -/
  | member (before : List (Quoted × Node)) (name : Quoted)

/-- Part of a number that is being read. Digits stand last one first. -/
inductive NumberPhase where
  /-- After the minus sign. -/
  | sign
  /-- After a leading zero. -/
  | zero
  /-- Among the digits before the point. -/
  | whole (digits : List Char)
  /-- After the point. -/
  | point (whole : List Char)
  /-- Among the digits after the point. -/
  | fraction (whole digits : List Char)
  /-- After the exponent mark. -/
  | mark (whole fraction : List Char)
  /-- After the sign of the exponent. -/
  | exponentSign (whole fraction : List Char) (negative : Bool)
  /-- Among the digits of the exponent. -/
  | exponent (whole fraction : List Char) (negative : Bool) (digits : List Char)

/-- Part of a string that is being read. -/
inductive EscapePhase where
  /-- Outside an escape. -/
  | none
  /-- After a backslash. -/
  | backslash
  /-- Inside the four bytes after `\u`: how many were read, and the code unit they make so far, if
  all of them are hexadecimal digits. -/
  | hex (bytes : Nat) (value : Option Nat)

/-- What may come next. -/
inductive Phase where
  /-- A value. -/
  | value
  /-- The first element of a list, or its end. -/
  | firstItem
  /-- The first name of an object, or its end. -/
  | firstName
  /-- A further name of an object. -/
  | name
  /-- The colon after a name. -/
  | colon
  /-- What follows a value: a separator or the end of a container. -/
  | afterValue (value : Node)
  /-- The rest of a literal. -/
  | literal (left : List Char) (value : Node)
  /-- The rest of a number. -/
  | number (negative : Bool) (part : NumberPhase)
  /-- The rest of a string, which is the name of a member or a value. -/
  | string (isName : Bool) (glyphs : List Glyph) (escape : EscapePhase)
  /-- Nothing more is read. -/
  | stopped (document : Document)

/-- State of the scanner. -/
structure State where
  /-- The open containers, innermost first. -/
  stack : List Frame
  /-- What may come next. -/
  phase : Phase

/-- White space between the parts of a document. -/
def isBlank (c : Char) : Bool :=
  c == ' ' || c == '\n' || c == '\t' || c == '\x0d'

/-- The containers closed as broken around a value. -/
def closeAround (cut : Break) (value : Node) (stack : List Frame) : Node :=
  stack.foldl
    (fun inner frame =>
      match frame with
      | .array before => .array (inner :: before).reverse (some cut)
      | .object before => .object before.reverse (some cut)
      | .member before name => .object ((name, inner) :: before).reverse (some cut))
    value

/-- Stops at a value that is broken or missing. -/
def stopAt (cut : Break) (value : Node) (stack : List Frame) : State :=
  ⟨[], .stopped ⟨closeAround cut value stack, false⟩⟩

/-- Stops between the elements of the innermost container, or after the whole value. -/
def stopBetween (cut : Break) (last : Option Node) (stack : List Frame) : State :=
  match stack, last with
  | .array before :: outer, some value =>
    stopAt cut (.array (value :: before).reverse (some cut)) outer
  | .array before :: outer, none => stopAt cut (.array before.reverse (some cut)) outer
  | .object before :: outer, _ => stopAt cut (.object before.reverse (some cut)) outer
  | .member before name :: outer, some value =>
    stopAt cut (.object ((name, value) :: before).reverse (some cut)) outer
  | .member before name :: outer, none =>
    -- The name is kept: its member is read up to the missing value.
    stopAt cut (.object ((name, .missing cut) :: before).reverse (some cut)) outer
  | [], some value => ⟨[], .stopped ⟨value, cut = .malformed⟩⟩
  | [], none => stopAt cut (.missing cut) []

/-- The value of a hexadecimal digit. -/
def hexDigit? (c : Char) : Option Nat :=
  if '0' ≤ c ∧ c ≤ '9' then some (c.toNat - '0'.toNat)
  else if 'a' ≤ c ∧ c ≤ 'f' then some (c.toNat - 'a'.toNat + 10)
  else if 'A' ≤ c ∧ c ≤ 'F' then some (c.toNat - 'A'.toNat + 10)
  else none

/-- The character that a one-letter escape stands for. -/
def escaped? (c : Char) : Option Char :=
  match c with
  | '"' => some '"'
  | '\\' => some '\\'
  | '/' => some '/'
  | 'b' => some '\x08'
  | 'f' => some '\x0c'
  | 'n' => some '\n'
  | 'r' => some '\x0d'
  | 't' => some '\t'
  | _ => none

/-- The numeral that has been read, if it is whole. -/
def NumberPhase.numeral? (negative : Bool) : NumberPhase → Option Numeral
  | .zero => some ⟨negative, ['0'], [], none⟩
  | .whole digits => some ⟨negative, digits.reverse, [], none⟩
  | .fraction front digits => some ⟨negative, front.reverse, digits.reverse, none⟩
  | .exponent front back minus digits =>
    some ⟨negative, front.reverse, back.reverse, some (minus, digits.reverse)⟩
  | .sign | .point _ | .mark _ _ | .exponentSign _ _ _ => none

/-- The part of a number after one more character, if the character belongs to it. A digit after a
leading zero belongs to it and has no place. -/
def NumberPhase.next? (c : Char) : NumberPhase → Option (Option NumberPhase)
  | .sign =>
    if c = '0' then some (some .zero)
    else if Binary64.isDigit c then some (some (.whole [c]))
    else some none
  | .zero =>
    if Binary64.isDigit c then some none
    else if c = '.' then some (some (.point ['0']))
    else if c = 'e' ∨ c = 'E' then some (some (.mark ['0'] []))
    else none
  | .whole digits =>
    if Binary64.isDigit c then some (some (.whole (c :: digits)))
    else if c = '.' then some (some (.point digits))
    else if c = 'e' ∨ c = 'E' then some (some (.mark digits []))
    else none
  | .point front =>
    if Binary64.isDigit c then some (some (.fraction front [c])) else some none
  | .fraction front digits =>
    if Binary64.isDigit c then some (some (.fraction front (c :: digits)))
    else if c = 'e' ∨ c = 'E' then some (some (.mark front digits))
    else none
  | .mark front back =>
    if c = '+' then some (some (.exponentSign front back false))
    else if c = '-' then some (some (.exponentSign front back true))
    else if Binary64.isDigit c then some (some (.exponent front back false [c]))
    else some none
  | .exponentSign front back minus =>
    if Binary64.isDigit c then some (some (.exponent front back minus [c])) else some none
  | .exponent front back minus digits =>
    if Binary64.isDigit c then some (some (.exponent front back minus (c :: digits)))
    else none

/-- The first character of a value. -/
def stepValue (stack : List Frame) (c : Char) : State :=
  match c with
  | 'n' => ⟨stack, .literal ['u', 'l', 'l'] .null⟩
  | 't' => ⟨stack, .literal ['r', 'u', 'e'] (.bool true)⟩
  | 'f' => ⟨stack, .literal ['a', 'l', 's', 'e'] (.bool false)⟩
  | '"' => ⟨stack, .string false [] .none⟩
  | '[' => ⟨.array [] :: stack, .firstItem⟩
  | '\x7b' => ⟨.object [] :: stack, .firstName⟩
  | '-' => ⟨stack, .number true .sign⟩
  | '0' => ⟨stack, .number false .zero⟩
  | c =>
    if Binary64.isDigit c then ⟨stack, .number false (.whole [c])⟩
    else stopAt .malformed (.missing .malformed) stack

/-- The first character after a value. -/
def stepAfter (stack : List Frame) (value : Node) (c : Char) : State :=
  if isBlank c then ⟨stack, .afterValue value⟩
  else
    match stack with
    | .array before :: outer =>
      if c = ',' then ⟨.array (value :: before) :: outer, .value⟩
      else if c = ']' then ⟨outer, .afterValue (.array (value :: before).reverse none)⟩
      else stopBetween .malformed (some value) stack
    | .member before name :: outer =>
      if c = ',' then ⟨.object ((name, value) :: before) :: outer, .name⟩
      else if c = '\x7d' then
        ⟨outer, .afterValue (.object ((name, value) :: before).reverse none)⟩
      else stopBetween .malformed (some value) stack
    -- At the top the value is the document, and something follows it.
    | _ => stopBetween .malformed (some value) stack

/-- A string that has ended. -/
def stringEnded (stack : List Frame) (isName : Bool) (quoted : Quoted) : State :=
  if isName then
    match stack with
    | .object before :: outer => ⟨.member before quoted :: outer, .colon⟩
    | _ => stopAt .malformed (.string quoted) stack
  else ⟨stack, .afterValue (.string quoted)⟩

/-- A string that breaks off. -/
def stringCut (cut : Break) (stack : List Frame) (isName : Bool) (glyphs : List Glyph) : State :=
  let quoted : Quoted := ⟨glyphs.reverse, some cut⟩
  if isName then
    match stack with
    | .object before :: outer => stopAt cut (.missing cut) (.member before quoted :: outer)
    | _ => stopAt cut (.string quoted) stack
  else stopAt cut (.string quoted) stack

/-- A character inside a string. -/
def stepString (stack : List Frame) (isName : Bool) (glyphs : List Glyph) (escape : EscapePhase)
    (c : Char) : State :=
  match escape with
  | .none =>
    if c = '"' then stringEnded stack isName ⟨glyphs.reverse, none⟩
    else if c = '\\' then ⟨stack, .string isName glyphs .backslash⟩
    else if c.toNat < 0x20 then stringCut .malformed stack isName glyphs
    else ⟨stack, .string isName (.char c :: glyphs) .none⟩
  | .backslash =>
    if c = 'u' then ⟨stack, .string isName glyphs (.hex 0 (some 0))⟩
    else
      match escaped? c with
      | some d => ⟨stack, .string isName (.char d :: glyphs) .none⟩
      | none => stringCut .malformed stack isName glyphs
  | .hex bytes value =>
    -- An escape takes four bytes, so a character of several bytes shortens it.
    let bytes := bytes + c.utf8Size
    let value := value.bind fun n => (hexDigit? c).map (n * 16 + ·)
    if bytes < 4 then ⟨stack, .string isName glyphs (.hex bytes value)⟩
    else
      match value with
      | some n => ⟨stack, .string isName (.unit n :: glyphs) .none⟩
      | none => stringCut .malformed stack isName glyphs

/-- One character. -/
def step (state : State) (c : Char) : State :=
  let stack := state.stack
  match state.phase with
  | .value => if isBlank c then state else stepValue stack c
  | .firstItem =>
    if isBlank c then state
    else if c = ']' then
      match stack with
      | .array before :: outer => ⟨outer, .afterValue (.array before.reverse none)⟩
      | _ => stopBetween .malformed none stack
    else stepValue stack c
  | .firstName =>
    if isBlank c then state
    else if c = '"' then ⟨stack, .string true [] .none⟩
    else if c = '\x7d' then
      match stack with
      | .object before :: outer => ⟨outer, .afterValue (.object before.reverse none)⟩
      | _ => stopBetween .malformed none stack
    else stopBetween .malformed none stack
  | .name =>
    if isBlank c then state
    else if c = '"' then ⟨stack, .string true [] .none⟩
    else stopBetween .malformed none stack
  | .colon =>
    if isBlank c then state
    else if c = ':' then ⟨stack, .value⟩
    else stopAt .malformed (.missing .malformed) stack
  | .afterValue value => stepAfter stack value c
  | .literal left value =>
    match left with
    -- The last character of a literal ends it, so a literal has always something left.
    | [] => stepAfter stack value c
    | d :: rest =>
      if c ≠ d then stopAt .malformed (.missing .malformed) stack
      else if rest = [] then ⟨stack, .afterValue value⟩
      else ⟨stack, .literal rest value⟩
  | .number negative part =>
    match part.next? c with
    | some (some part) => ⟨stack, .number negative part⟩
    | some none => stopAt .malformed (.numberCut .malformed) stack
    | none =>
      -- The character is the first one after the number.
      match part.numeral? negative with
      | some numeral => stepAfter stack (.number numeral) c
      | none => stopAt .malformed (.numberCut .malformed) stack
  | .string isName glyphs escape => stepString stack isName glyphs escape c
  | .stopped _ => state

/-- The state at the end of the text. -/
def atEnd (state : State) : State :=
  let stack := state.stack
  match state.phase with
  | .value | .colon | .literal (_ :: _) _ => stopAt .ended (.missing .ended) stack
  | .firstItem | .firstName | .name => stopBetween .ended none stack
  | .afterValue value | .literal [] value => stopBetween .ended (some value) stack
  | .number negative part =>
    match part.numeral? negative with
    | some numeral => stopBetween .ended (some (.number numeral)) stack
    | none => stopAt .ended (.numberCut .ended) stack
  | .string isName glyphs _ => stringCut .ended stack isName glyphs
  | .stopped _ => state

/-- The document that a stopped state holds. -/
def State.document (state : State) : Document :=
  match state.phase with
  | .stopped document => document
  | _ => ⟨.missing .ended, false⟩

/-- The state before the first character. -/
def State.initial : State :=
  ⟨[], .value⟩

/-- Reads a text as a document. -/
def Document.ofText (text : List Char) : Document :=
  (atEnd (text.foldl step State.initial)).document

end RubricScore.Json
