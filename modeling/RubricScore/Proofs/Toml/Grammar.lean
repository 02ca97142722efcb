import RubricScore.Proofs.Toml.Numeral

/-!
# Texts of TOML statements

Which texts stand for which statements: a grammar of the common part of the format. Strings are on
one line, values in containers stand in arrays, and there are no dates. Everything else is as free
as the format has it: blanks, comments, either line end, quoted keys and keys with dots, both kinds
of quotes, escapes, underscores in numbers, and arrays that reach over several lines, inside each
other, with a comma behind the last element or without.

## Main definitions

* `IsQuoted`: the texts of a string;
* `IsKeyPath`: the texts of a path of keys;
* `IsValue`: the texts of a value;
* `IsStatements`: the texts of a list of statements.
-/

namespace RubricScore.Toml

/-! ## What stands between values -/

/-- Blanks within a line, or nothing. -/
def IsPad (text : List Char) : Prop :=
  ∀ c ∈ text, isBlankChar c

/-- A comment, or nothing. -/
inductive IsComment : List Char → Prop
  /-- Nothing. -/
  | absent : IsComment []
  /-- A hash and a text. -/
  | hash {body : List Char} (hbody : ∀ c ∈ body, isTextChar c) : IsComment ('#' :: body)

/-- The end of a line. -/
inductive IsLineEnd : List Char → Prop
  /-- A newline. -/
  | newline : IsLineEnd ['\n']
  /-- A carriage return and a newline. -/
  | carriage : IsLineEnd ['\r', '\n']

/-- What may stand behind a statement on its line, or on a line alone: blanks and a comment. -/
inductive IsTrail : List Char → Prop
  /-- Blanks and a comment. -/
  | parts {pad comment : List Char} (hpad : IsPad pad) (hcomment : IsComment comment) :
    IsTrail (pad ++ comment)

/-- What may stand between the parts of an array: blanks, comments and line ends. -/
inductive IsGap : List Char → Prop
  /-- Blanks. -/
  | pad {pad : List Char} (hpad : IsPad pad) : IsGap pad
  /-- The rest of a line, and what goes on with a gap. -/
  | line {trail ending rest : List Char} (htrail : IsTrail trail) (hend : IsLineEnd ending)
    (hrest : IsGap rest) : IsGap (trail ++ (ending ++ rest))

/-! ## Strings and keys -/

/-- The letters that stand for a character behind a backslash. -/
def escapes : List (Char × Char) :=
  [('b', '\x08'), ('t', '\t'), ('n', '\n'), ('f', '\x0c'), ('r', '\r'), ('"', '"'), ('\\', '\\')]

/-- The number that hexadecimal digits stand for. -/
def hexValue? (start : Nat) (digits : List Char) : Option Nat :=
  digits.foldlM (fun n c => (hexDigit? c).map (n * 16 + ·)) start

/-- The texts of a character in a string with escapes. -/
inductive SpellsChar : Char → List Char → Prop
  /-- A character that stands for itself. -/
  | plain {c : Char} (htext : isTextChar c) (hquote : c ≠ '"') (hbackslash : c ≠ '\\') :
    SpellsChar c [c]
  /-- An escape of one letter. -/
  | letter {mark c : Char} (h : (mark, c) ∈ escapes) : SpellsChar c ['\\', mark]
  /-- A code point in four hexadecimal digits. -/
  | short {digits : List Char} {n : Nat} {c : Char} (hlength : digits.length = 4)
    (hvalue : hexValue? 0 digits = some n) (hchar : scalar? n = some c) :
    SpellsChar c ('\\' :: 'u' :: digits)
  /-- A code point in eight hexadecimal digits. -/
  | long {digits : List Char} {n : Nat} {c : Char} (hlength : digits.length = 8)
    (hvalue : hexValue? 0 digits = some n) (hchar : scalar? n = some c) :
    SpellsChar c ('\\' :: 'U' :: digits)

/-- The texts of the characters of a string with escapes. -/
inductive SpellsChars : List Char → List Char → Prop
  /-- No characters. -/
  | nil : SpellsChars [] []
  /-- A character and the others. -/
  | cons {c : Char} {content own rest : List Char} (hown : SpellsChar c own)
    (hrest : SpellsChars content rest) : SpellsChars (c :: content) (own ++ rest)

/-- The texts of a string on one line. -/
inductive IsQuoted : List Char → List Char → Prop
  /-- Between double quotes, with escapes. -/
  | basic {content body : List Char} (hbody : SpellsChars content body) :
    IsQuoted content ('"' :: (body ++ ['"']))
  /-- Between single quotes, without escapes. -/
  | literal {content : List Char} (hcontent : ∀ c ∈ content, isTextChar c ∧ c ≠ '\'') :
    IsQuoted content ('\'' :: (content ++ ['\'']))

/-- The texts of a key. -/
inductive IsKey : String → List Char → Prop
  /-- Letters, digits, underscores and dashes. -/
  | bare {name : List Char} (hne : name ≠ []) (hname : ∀ c ∈ name, isKeyChar c) :
    IsKey (String.ofList name) name
  /-- A string. -/
  | quoted {name text : List Char} (hquoted : IsQuoted name text) : IsKey (String.ofList name) text

/-- The texts of a path of keys: the keys with blanks around them and dots between them. -/
inductive IsKeyPath : List String → List Char → Prop
  /-- One key. -/
  | last {name : String} {front own back : List Char} (hfront : IsPad front) (hown : IsKey name own)
    (hback : IsPad back) : IsKeyPath [name] (front ++ (own ++ back))
  /-- A key, a dot and further keys. -/
  | dot {name : String} {path : List String} {front own back rest : List Char}
    (hfront : IsPad front) (hown : IsKey name own) (hback : IsPad back)
    (hrest : IsKeyPath path rest) :
    IsKeyPath (name :: path) (front ++ (own ++ (back ++ '.' :: rest)))

/-! ## Values -/

/-- The texts of the elements of an array from behind its opening bracket or a comma up to the
closing bracket, when those of an element are known. -/
inductive IsElements (spelled : Value → List Char → Prop) : List Value → List Char → Prop
  /-- No further element. -/
  | close {gap : List Char} (hgap : IsGap gap) : IsElements spelled [] (gap ++ [']'])
  /-- One more element. -/
  | last {item : Value} {gap own back : List Char} (hgap : IsGap gap) (hown : spelled item own)
    (hback : IsGap back) : IsElements spelled [item] (gap ++ (own ++ (back ++ [']'])))
  /-- An element and a comma. -/
  | comma {item : Value} {items : List Value} {gap own back rest : List Char} (hgap : IsGap gap)
    (hown : spelled item own) (hback : IsGap back) (hrest : IsElements spelled items rest) :
    IsElements spelled (item :: items) (gap ++ (own ++ (back ++ ',' :: rest)))

/-- The texts of a value that is no container. -/
inductive IsAtom : Value → List Char → Prop
  /-- A string. -/
  | string {content text : List Char} (h : IsQuoted content text) :
    IsAtom (.string (String.ofList content)) text
  /-- A number or a truth value. -/
  | scalar {value : Value} {text : List Char} (h : IsScalar value text) : IsAtom value text

/-- The texts of a value with so many arrays inside each other at most. -/
def IsValue : Nat → Value → List Char → Prop
  | 0, value, text => IsAtom value text
  | room + 1, value, text => IsAtom value text ∨ ∃ items body, value = .array items
    ∧ IsElements (IsValue room) items body ∧ text = '[' :: body

/-- A value that is no container may stand anywhere. -/
theorem IsAtom.isValue {value : Value} {text : List Char} (h : IsAtom value text) (room : Nat) :
    IsValue room value text := by
  cases room with
  | zero => exact h
  | succ room => exact .inl h

/-- A value with a text is an array or no container. -/
theorem IsValue.isAtom_or {room : Nat} {value : Value} {text : List Char}
    (h : IsValue room value text) : IsAtom value text ∨ ∃ items, value = .array items := by
  cases room with
  | zero => exact .inl h
  | succ room =>
    rcases h with h | ⟨items, -, h, -⟩
    · exact .inl h
    · exact .inr ⟨items, h⟩

/-! ## Statements -/

/-- The texts of a path of keys that is not too long. -/
def IsShortPath (path : List String) (text : List Char) : Prop :=
  IsKeyPath path text ∧ path.length < depthLimit

/-- The texts of a statement, without the blanks around it. -/
inductive IsStatement : Statement → List Char → Prop
  /-- A path, an equals sign and a value. -/
  | binding {path : List String} {value : Value} {front pad own : List Char}
    (hpath : IsShortPath path front) (hpad : IsPad pad)
    (hown : IsValue (depthLimit - 1) value own) :
    IsStatement (.binding path value) (front ++ '=' :: (pad ++ own))
  /-- A path in brackets. -/
  | table {path : List String} {own : List Char} (hpath : IsShortPath path own) :
    IsStatement (.table path) ('[' :: (own ++ [']']))
  /-- A path in double brackets. -/
  | element {path : List String} {own : List Char} (hpath : IsShortPath path own) :
    IsStatement (.element path) ('[' :: '[' :: (own ++ [']', ']']))

/-- The texts of a list of statements. The last line need not have an end. -/
inductive IsStatements : List Statement → List Char → Prop
  /-- A last line without a statement. -/
  | done {trail : List Char} (htrail : IsTrail trail) : IsStatements [] trail
  /-- A last line with a statement. -/
  | last {statement : Statement} {pad own trail : List Char} (hpad : IsPad pad)
    (hown : IsStatement statement own) (htrail : IsTrail trail) :
    IsStatements [statement] (pad ++ (own ++ trail))
  /-- A line without a statement. -/
  | skip {statements : List Statement} {trail ending rest : List Char} (htrail : IsTrail trail)
    (hend : IsLineEnd ending) (hrest : IsStatements statements rest) :
    IsStatements statements (trail ++ (ending ++ rest))
  /-- A line with a statement. -/
  | line {statement : Statement} {statements : List Statement}
    {pad own trail ending rest : List Char}
    (hpad : IsPad pad) (hown : IsStatement statement own) (htrail : IsTrail trail)
    (hend : IsLineEnd ending) (hrest : IsStatements statements rest) :
    IsStatements (statement :: statements) (pad ++ (own ++ (trail ++ (ending ++ rest))))

end RubricScore.Toml
