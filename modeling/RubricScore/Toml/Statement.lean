import RubricScore.Toml.Scalar

/-!
# TOML statements

A file is a list of statements: values bound to paths of keys, and headers of tables and of elements
of arrays of tables. A `Scan` reads from the front of a text and leaves the rest.
-/

namespace RubricScore.Toml

/-- One statement. -/
inductive Statement where
  /-- Binds a path of keys. -/
  | binding (path : List String) (value : Value)
  /-- Begins a table. -/
  | table (path : List String)
  /-- Begins the next element of an array of tables. -/
  | element (path : List String)

/-- Reads from the front of a text. -/
abbrev Scan (α : Type) : Type :=
  StateT (List Char) Option α

namespace Scan

/-- The next character, which stays. -/
def next? : Scan (Option Char) := do
  return (← get).head?

/-- Reads the characters of a kind. -/
def takeWhile (kind : Char → Bool) : Scan (List Char) := do
  let text ← get
  set (text.dropWhile kind)
  return text.takeWhile kind

/-- Reads a character that must stand there. -/
def expect (c : Char) : Scan Unit := do
  match after? c (← get) with
  | some rest => set rest
  | none => failure

/-- Reads a character if it stands there. -/
def accept (c : Char) : Scan Bool := do
  match after? c (← get) with
  | some rest =>
    set rest
    return true
  | none => return false

/-- Passes over blanks within a line. -/
def blanks : Scan Unit := do
  let _ ← takeWhile isBlankChar

/-- Passes over a comment if one stands there. -/
def comment : Scan Unit := do
  if ← accept '#' then
    let _ ← takeWhile isTextChar

/-- Passes over a line end. -/
def newline : Scan Unit := do
  let _ ← accept '\r'
  expect '\n'

/-- Passes over a line end or stops at the end of the text. -/
def lineEnd : Scan Unit := do
  if (← next?).isSome then newline

/-- Passes over what may follow a statement on its line. -/
def lineRest : Scan Unit := do
  blanks
  comment
  lineEnd

/-- Passes over blanks, comments and line ends between the parts of an array. -/
def gaps : Nat → Scan Unit
  | 0 => pure ()
  | fuel + 1 => do
    blanks
    match ← next? with
    | some '#' =>
      comment
      newline
      gaps fuel
    | some '\n' =>
      newline
      gaps fuel
    | some '\r' =>
      newline
      gaps fuel
    | _ => pure ()

/-- Reads a string after its first quote. -/
def string (style : QuoteStyle) : Scan String := do
  let (text, rest) ← readString style (← get)
  set rest
  return String.ofList text

end Scan

/-- Characters of a key without quotes. -/
def isKeyChar (c : Char) : Bool :=
  c.isAlphanum || c = '_' || c = '-'

/-- Characters of numbers, dates and words. -/
def isScalarChar (c : Char) : Bool :=
  isKeyChar c || c = '+' || c = '.' || c = ':'

/-- Number of keys that a path may not reach, and of containers that may not stand inside each
other. -/
def depthLimit : Nat :=
  80

/-- Reads one key. -/
def key : Scan String := do
  if ← Scan.accept '"' then
    let (text, rest) ← readLine basicStyle (← get)
    set rest
    return String.ofList text
  else if ← Scan.accept '\'' then
    let (text, rest) ← readLine literalStyle (← get)
    set rest
    return String.ofList text
  else
    let name ← Scan.takeWhile isKeyChar
    if name.isEmpty then failure
    return String.ofList name

/-- Reads keys separated by dots; there may be blanks around each of them. The path may have so many
keys at most. -/
def keys : Nat → Scan (List String)
  | 0 => failure
  | room + 1 => do
    Scan.blanks
    let first ← key
    Scan.blanks
    if ← Scan.accept '.' then return first :: (← keys room) else return [first]

/-- Reads a path of keys. -/
def keyPath : Scan (List String) :=
  keys (depthLimit - 1)

/-- A run of characters as a value; a date and a time of day may have a space between them. -/
def scalarValue : Scan Value := do
  let text ← Scan.takeWhile isScalarChar
  if isDate text then
    match ← get with
    | ' ' :: rest =>
      -- The space is part of the value only in front of a time.
      let time := rest.takeWhile isScalarChar
      if isTimeWithOffset time then set (rest.dropWhile isScalarChar)
    | _ => pure ()
  match scalar text with
  | some value => return value
  | none => failure

mutual

/-- Reads a value; `room` more containers may be opened. -/
def value (fuel room : Nat) : Scan Value :=
  match fuel with
  | 0 => failure
  | fuel + 1 => do
    match ← Scan.next? with
    | some '"' =>
      Scan.expect '"'
      return .string (← Scan.string basicStyle)
    | some '\'' =>
      Scan.expect '\''
      return .string (← Scan.string literalStyle)
    | some '[' =>
      if room = 0 then failure
      Scan.expect '['
      return .array (← elements fuel (room - 1))
    | some '\x7b' =>
      if room = 0 then failure
      Scan.expect '\x7b'
      Scan.blanks
      if ← Scan.accept '\x7d' then return .table .braces []
      return .table .braces (← members fuel (room - 1) [])
    | _ => scalarValue

/-- Reads the elements of an array after its opening bracket or a comma, up to the closing one. -/
def elements (fuel room : Nat) : Scan (List Value) :=
  match fuel with
  | 0 => failure
  | fuel + 1 => do
    Scan.gaps fuel
    -- A comma may stand behind the last element.
    if ← Scan.accept ']' then return []
    let first ← value fuel room
    Scan.gaps fuel
    if ← Scan.accept ',' then return first :: (← elements fuel room)
    Scan.expect ']'
    return [first]

/-- Reads the members of a table between braces, at least one more, up to the closing brace. -/
def members (fuel room : Nat) (done : Members) : Scan Members :=
  match fuel with
  | 0 => failure
  | fuel + 1 => do
    let path ← keyPath
    Scan.expect '='
    Scan.blanks
    let held ← value fuel room
    Scan.blanks
    match Members.assign held true done path with
    | none => failure
    | some done =>
      -- No comma may stand behind the last member.
      if ← Scan.accept ',' then members fuel room done
      else
        Scan.expect '\x7d'
        return done

end

/-- Reads a header after its first bracket. -/
def header : Scan Statement := do
  if ← Scan.accept '[' then
    let path ← keyPath
    Scan.expect ']'
    Scan.expect ']'
    return .element path
  else
    let path ← keyPath
    Scan.expect ']'
    return .table path

/-- Reads a binding. -/
def binding (fuel : Nat) : Scan Statement := do
  let path ← keyPath
  Scan.expect '='
  Scan.blanks
  return .binding path (← value fuel (depthLimit - 1))

/-- Reads statements up to the end of the text. -/
def statements : Nat → Scan (List Statement)
  | 0 => failure
  | fuel + 1 => do
    Scan.blanks
    match ← Scan.next? with
    | none => return []
    | some '#' =>
      Scan.lineRest
      statements fuel
    | some '\n' =>
      Scan.newline
      statements fuel
    | some '\r' =>
      Scan.newline
      statements fuel
    | some '[' =>
      Scan.expect '['
      let first ← header
      Scan.lineRest
      return first :: (← statements fuel)
    | some _ =>
      let first ← binding fuel
      Scan.lineRest
      return first :: (← statements fuel)

/-- The statements of a text; a mark of the byte order in front of them does not count. Every step
of the reading that is not bounded otherwise passes over a character or opens a container. -/
def statements? (text : List Char) : Option (List Statement) :=
  let body := if text.head? = some '\uFEFF' then text.drop 1 else text
  ((statements (2 * body.length + 2)).run body).map Prod.fst

end RubricScore.Toml
