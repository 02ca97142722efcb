/-!
# TOML strings

The four forms of strings: on one line or on several, with escapes or without. Each form is read
character by character; what was read so far is kept in a list, last character first.
-/

namespace RubricScore.Toml

/-- The quote of a form of strings and whether a backslash begins an escape in it. -/
structure QuoteStyle where
  /-- The quote. -/
  mark : Char
  /-- Backslashes escape. -/
  escapes : Bool

/-- Strings with escapes. -/
def basicStyle : QuoteStyle :=
  ⟨'"', true⟩

/-- Strings without escapes. -/
def literalStyle : QuoteStyle :=
  ⟨'\'', false⟩

/-- What a string is in the middle of. -/
inductive Pending where
  /-- Nothing. -/
  | nothing
  /-- A run of quotes. -/
  | quotes (count : Nat)
  /-- A carriage return, which a newline must follow. -/
  | carriage
  /-- A backslash. -/
  | backslash
  /-- A character given by so many more hexadecimal digits. -/
  | digits (left value : Nat)
  /-- A backslash and blanks, which a line end must follow. -/
  | folding
  /-- A carriage return in the blanks after a backslash. -/
  | foldingCarriage
  /-- Blanks and line ends that a backslash took away. -/
  | folded

/-- Characters that may stand in a text: no control characters, the tab apart. -/
def isTextChar (c : Char) : Bool :=
  c = '\t' || (0x20 ≤ c.toNat && c.toNat ≠ 0x7F)

/-- A blank within a line. -/
def isBlankChar (c : Char) : Bool :=
  c = ' ' || c = '\t'

/-- Value of a hexadecimal digit, if the character is one. -/
def hexDigit? (c : Char) : Option Nat :=
  if '0' ≤ c ∧ c ≤ '9' then some (c.toNat - '0'.toNat)
  else if 'a' ≤ c ∧ c ≤ 'f' then some (c.toNat - 'a'.toNat + 10)
  else if 'A' ≤ c ∧ c ≤ 'F' then some (c.toNat - 'A'.toNat + 10)
  else none

/-- The character of a code point, if it is one. -/
def scalar? (n : Nat) : Option Char :=
  if n.isValidChar then some (Char.ofNat n) else none

/-- The character after a backslash. -/
def escaped (done : List Char) : Char → Option (Pending × List Char)
  | 'b' => some (.nothing, '\x08' :: done)
  | 't' => some (.nothing, '\t' :: done)
  | 'n' => some (.nothing, '\n' :: done)
  | 'f' => some (.nothing, '\x0c' :: done)
  | 'r' => some (.nothing, '\r' :: done)
  | '"' => some (.nothing, '"' :: done)
  | '\\' => some (.nothing, '\\' :: done)
  | 'u' => some (.digits 4 0, done)
  | 'U' => some (.digits 8 0, done)
  | _ => none

/-- One hexadecimal digit of a character. -/
def hexStep (left value : Nat) (done : List Char) (c : Char) : Option (Pending × List Char) := do
  let value := value * 16 + (← hexDigit? c)
  if left = 1 then return (.nothing, (← scalar? value) :: done)
  else return (.digits (left - 1) value, done)

/-- Reads on in a string on one line. Gives its text and what follows the closing quote. -/
def lineFrom (style : QuoteStyle) (pending : Pending) (done : List Char) :
    List Char → Option (List Char × List Char)
  | [] => none
  | c :: rest =>
    match pending with
    | .nothing =>
      if c = style.mark then some (done.reverse, rest)
      else if style.escapes ∧ c = '\\' then lineFrom style .backslash done rest
      else if isTextChar c then lineFrom style .nothing (c :: done) rest
      else none
    | .backslash =>
      match escaped done c with
      | some (pending, done) => lineFrom style pending done rest
      | none => none
    | .digits left value =>
      match hexStep left value done c with
      | some (pending, done) => lineFrom style pending done rest
      | none => none
    | _ => none

/-- One character of a string on several lines that is in the middle of nothing. -/
def ordinary (style : QuoteStyle) (done : List Char) (c : Char) : Option (Pending × List Char) :=
  if c = style.mark then some (.quotes 1, done)
  else if style.escapes ∧ c = '\\' then some (.backslash, done)
  else if c = '\n' then some (.nothing, '\n' :: done)
  else if c = '\r' then some (.carriage, done)
  else if isTextChar c then some (.nothing, c :: done)
  else none

/-- One character inside a string on several lines. -/
def blockStep (style : QuoteStyle) (pending : Pending) (done : List Char) (c : Char) :
    Option (Pending × List Char) :=
  match pending with
  | .nothing => ordinary style done c
  | .quotes count => ordinary style (List.replicate count style.mark ++ done) c
  | .carriage => if c = '\n' then some (.nothing, '\n' :: done) else none
  | .backslash =>
    if isBlankChar c then some (.folding, done)
    else if c = '\n' then some (.folded, done)
    else if c = '\r' then some (.foldingCarriage, done)
    else escaped done c
  | .digits left value => hexStep left value done c
  | .folding =>
    if isBlankChar c then some (.folding, done)
    else if c = '\n' then some (.folded, done)
    else if c = '\r' then some (.foldingCarriage, done)
    else none
  | .foldingCarriage => if c = '\n' then some (.folded, done) else none
  | .folded =>
    if isBlankChar c ∨ c = '\n' then some (.folded, done)
    else if c = '\r' then some (.foldingCarriage, done)
    else ordinary style done c

/-- The text of a string that ends with a run of three to five quotes; the first ones of more than
three belong to the text. -/
def closeBlock (style : QuoteStyle) (count : Nat) (done : List Char) : List Char :=
  (List.replicate (count - 3) style.mark ++ done).reverse

/-- Reads on in a string on several lines. Gives its text and what follows the closing quotes. -/
def blockFrom (style : QuoteStyle) (pending : Pending) (done : List Char) :
    List Char → Option (List Char × List Char)
  | [] =>
    match pending with
    | .quotes count => if 3 ≤ count then some (closeBlock style count done, []) else none
    | _ => none
  | c :: rest =>
    match pending with
    | .quotes count =>
      if c = style.mark then
        -- Five quotes are two of the text and three that close it.
        if count = 4 then some (closeBlock style 5 done, rest)
        else blockFrom style (.quotes (count + 1)) done rest
      else if 3 ≤ count then some (closeBlock style count done, c :: rest)
      else
        -- Fewer than three quotes belong to the text.
        match blockStep style (.quotes count) done c with
        | some (pending, done) => blockFrom style pending done rest
        | none => none
    | pending =>
      match blockStep style pending done c with
      | some (pending, done) => blockFrom style pending done rest
      | none => none

/-- Reads a string on one line after its opening quote. -/
def readLine (style : QuoteStyle) (text : List Char) : Option (List Char × List Char) :=
  lineFrom style .nothing [] text

/-- Reads a string on several lines after its opening quotes. A line end right there does not
belong to it. -/
def readBlock (style : QuoteStyle) (text : List Char) : Option (List Char × List Char) :=
  match text with
  | '\n' :: rest => blockFrom style .nothing [] rest
  | '\r' :: '\n' :: rest => blockFrom style .nothing [] rest
  | text => blockFrom style .nothing [] text

/-- Reads a string of any form after its first quote. -/
def readString (style : QuoteStyle) (text : List Char) : Option (List Char × List Char) :=
  match text with
  | second :: third :: rest =>
    if second = style.mark ∧ third = style.mark then readBlock style rest else readLine style text
  | text => readLine style text

end RubricScore.Toml
