import RubricScore.Text.Class

/-!
# Lower case and titles

`lowercase` maps every character on its own, except that a capital sigma becomes a final sigma at
the end of a word. `titleCase` turns an identifier such as `memory_management` into a title.
-/

namespace RubricScore.Text

/-- The other form of a code point, from the first run that holds it. -/
def shiftedBy : List CaseRun → Nat → Option Nat
  | [], _ => none
  | run :: rest, n =>
    -- The runs are in increasing order, so no later one holds the code point.
    if n < run.first then none
    else if n ≤ run.last ∧ (n - run.first) % run.step = 0 then some (n + run.shift).toNat
    else shiftedBy rest n

/-- Lower-case form of a character, whatever stands beside it. Only the dotted capital I has a form
of two characters. -/
def lowerChar (c : Char) : List Char :=
  if c = 'İ' then ['i', '\u0307']
  else
    match shiftedBy lowerRuns c.toNat with
    | some n => [Char.ofNat n]
    | none => [c]

/-- Upper-case form of a character. -/
def upperChar (c : Char) : List Char :=
  match upperExpansions.lookup c.toNat with
  | some codes => codes.map Char.ofNat
  | none =>
    match shiftedBy upperRuns c.toNat with
    | some n => [Char.ofNat n]
    | none => [c]

/-- The nearest character that is not case-ignorable exists and has a case. -/
def touchesCased (nearest : List Char) : Bool :=
  ((nearest.dropWhile isCaseIgnorable).head?).any isCased

/-- Lower-case form of a capital sigma: final when a cased letter comes before it and none comes
after it. The text before is given nearest first. -/
def lowerSigma (before after : List Char) : Char :=
  if touchesCased before && !touchesCased after then 'ς' else 'σ'

/-- Lower-case form of a character in its context. -/
def lowerIn (before : List Char) (c : Char) (after : List Char) : List Char :=
  if c = 'Σ' then [lowerSigma before after] else lowerChar c

/-- Continues the lower-case form of a text: `before` is what was read and `done` is its lower-case
form, both nearest first. -/
def lowercaseFrom (before done : List Char) : List Char → List Char
  | [] => done.reverse
  | c :: rest => lowercaseFrom (c :: before) ((lowerIn before c rest).reverse ++ done) rest

/-- Lower-case form of a text. -/
def lowercase (text : List Char) : List Char :=
  lowercaseFrom [] [] text

/-- A word with its first character in upper case and the others in lower case, each on its own. -/
def capitalize : List Char → List Char
  | [] => []
  | c :: rest => upperChar c ++ rest.flatMap lowerChar

/-- Title of an identifier: its parts between underscores, capitalized and separated by spaces. -/
def titleCase (name : List Char) : List Char :=
  [' '].intercalate (((name.splitOn '_').filter (!·.isEmpty)).map capitalize)

end RubricScore.Text
