import RubricScore.Text.WordTable
import RubricScore.Text.CaseTable

/-!
# Character classes

Word characters and white space, and what is made of them: trimming, word boundaries and the search
for a run of characters in a text.

A text is a list of characters throughout the library.
-/

namespace RubricScore.Text

/-- Whether a code point lies in one of the ranges, which are listed in increasing order. -/
def inRanges : List (Nat × Nat) → Nat → Bool
  | [], _ => false
  | (low, high) :: rest, n => if n < low then false else if n ≤ high then true else inRanges rest n

/-- Word characters: letters, marks, decimal digits, connectors and join controls. -/
def isWord (c : Char) : Bool :=
  inRanges wordRanges c.toNat

/-- Code points of white space, as increasing closed ranges. -/
def spaceRanges : List (Nat × Nat) :=
  [(0x09, 0x0D), (0x20, 0x20), (0x85, 0x85), (0xA0, 0xA0), (0x1680, 0x1680), (0x2000, 0x200A),
   (0x2028, 0x2029), (0x202F, 0x202F), (0x205F, 0x205F), (0x3000, 0x3000)]

/-- White space: tab to carriage return, the space, and the wider blanks and line separators. -/
def isSpace (c : Char) : Bool :=
  inRanges spaceRanges c.toNat

/-- Letters that have a case. -/
def isCased (c : Char) : Bool :=
  inRanges casedRanges c.toNat

/-- Characters that do not separate a letter from its context. -/
def isCaseIgnorable (c : Char) : Bool :=
  inRanges caseIgnorableRanges c.toNat

/-- The text without the white space before its first and after its last other character. -/
def trim (text : List Char) : List Char :=
  ((text.dropWhile isSpace).reverse.dropWhile isSpace).reverse

/-- A text that is empty or holds white space only. -/
def isBlank (text : List Char) : Bool :=
  (trim text).isEmpty

/-- Whether a place next to which there may be a character is next to a word character. -/
def isWordAt (c : Option Char) : Bool :=
  c.any isWord

/-- A word boundary lies between two places of which exactly one holds a word character. -/
def isBoundary (before after : Option Char) : Bool :=
  isWordAt before != isWordAt after

/-- Whether the run `needle` occurs somewhere in the text. -/
def occursIn (needle : List Char) : List Char → Bool
  | [] => needle.isEmpty
  | c :: rest => needle.isPrefixOf (c :: rest) || occursIn needle rest

/-- The text ends with the run `ending`. -/
def endsWith (text ending : List Char) : Bool :=
  ending.reverse.isPrefixOf text.reverse

/-- Number of bytes of the text in UTF-8. -/
def utf8Length (text : List Char) : Nat :=
  text.foldl (fun total c => total + c.utf8Size) 0

end RubricScore.Text
