/-!
# UTF-8

Reading bytes as text. `decode` leaves out every byte that is not part of a character: a sequence
that breaks off is dropped up to the byte that breaks it, and reading goes on at that byte.
`decode?` accepts only bytes that are the encoding of a text. `universalNewlines` makes one kind of
line end of the three.
-/

namespace RubricScore.Text.Utf8

/-- A character that has begun: how many bytes it still needs beyond the next, what the bytes so far
say, and between which bounds the next byte must be. -/
structure Begun where
  /-- Bytes needed after the next one. -/
  later : Nat
  /-- Payload bits of the bytes read. -/
  bits : Nat
  /-- Least next byte. -/
  low : UInt8
  /-- Greatest next byte. -/
  high : UInt8

/-- What a byte does when no character has begun: it is a character, begins one, or is dropped. -/
def first (b : UInt8) : Option (Char ⊕ Begun) :=
  if b < 0x80 then some (.inl (Char.ofNat b.toNat))
  -- Continuation bytes, and two bytes that would only begin overlong forms.
  else if b < 0xC2 then none
  else if b < 0xE0 then some (.inr ⟨0, b.toNat % 0x20, 0x80, 0xBF⟩)
  else if b < 0xF0 then
    some (.inr
      -- The bounds keep out overlong forms and surrogates.
      ⟨1, b.toNat % 0x10, if b = 0xE0 then 0xA0 else 0x80, if b = 0xED then 0x9F else 0xBF⟩)
  else if b < 0xF5 then
    some (.inr
      -- The bounds keep out overlong forms and what is greater than every code point.
      ⟨2, b.toNat % 0x08, if b = 0xF0 then 0x90 else 0x80, if b = 0xF4 then 0x8F else 0xBF⟩)
  else none

/-- A byte between characters: the text so far, last character first, and the character begun. -/
def start (done : List Char) (b : UInt8) : List Char × Option Begun :=
  match first b with
  | some (.inl c) => (c :: done, none)
  | some (.inr begun) => (done, some begun)
  | none => (done, none)

/-- One byte. A byte that cannot continue the character begun drops it and starts afresh. -/
def step (state : List Char × Option Begun) (b : UInt8) : List Char × Option Begun :=
  match state with
  | (done, none) => start done b
  | (done, some begun) =>
    if begun.low ≤ b ∧ b ≤ begun.high then
      let bits := begun.bits * 0x40 + b.toNat % 0x40
      match begun.later with
      | 0 => (Char.ofNat bits :: done, none)
      | later + 1 => (done, some ⟨later, bits, 0x80, 0xBF⟩)
    else start done b

/-- The text of the bytes, without those that are part of no character. -/
def decode (bytes : List UInt8) : List Char :=
  (bytes.foldl step ([], none)).1.reverse

/-- The bytes of a text. -/
def encode (text : List Char) : List UInt8 :=
  text.flatMap String.utf8EncodeChar

/-- The text whose encoding the bytes are, if there is one. -/
def decode? (bytes : List UInt8) : Option (List Char) :=
  let text := decode bytes
  if encode text = bytes then some text else none

end RubricScore.Text.Utf8

namespace RubricScore.Text

/-- Continues `universalNewlines`: `done` is the result so far, last character first, and
`afterReturn` says that the character before was a carriage return. -/
def newlinesFrom (done : List Char) (afterReturn : Bool) : List Char → List Char
  | [] => done.reverse
  | c :: rest =>
    if c = '\r' then newlinesFrom ('\n' :: done) true rest
    else if c = '\n' && afterReturn then newlinesFrom done false rest
    else newlinesFrom (c :: done) false rest

/-- The text with each carriage return, and each pair of carriage return and newline, replaced by
one newline. -/
def universalNewlines (text : List Char) : List Char :=
  newlinesFrom [] false text

/-- Source text of a file: what can be decoded of its bytes, with newlines as the only line ends. -/
def ofSource (bytes : List UInt8) : List Char :=
  universalNewlines (Utf8.decode bytes)

end RubricScore.Text
