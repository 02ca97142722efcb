import RubricScore.Text.Case

/-!
# Cues

A cue is a phrase whose whole-word occurrences count as evidence. An occurrence is whole-word when a
word boundary lies at each of its ends. Occurrences are counted from left to right without overlaps
in text that is already in lower case; every cue is counted on its own.
-/

namespace RubricScore

/-- A phrase and the form of it that is looked for. -/
structure Cue where
  /-- The phrase as written. -/
  phrase : String
  /-- The phrase in lower case. -/
  needle : List Char

namespace Cue

/-- The cue of a phrase. -/
def ofPhrase (phrase : String) : Cue :=
  ⟨phrase, Text.lowercase phrase.toList⟩

/-- A whole-word occurrence stands at the front of a text, given the character before it. -/
def standsAt (needle : List Char) (before : Option Char) (text : List Char) : Bool :=
  needle.isPrefixOf text
    && Text.isBoundary before text.head?
    && Text.isBoundary (needle.getLast?.or before) (text.drop needle.length).head?

/-- Continues the count of occurrences: `skip` characters belong to the occurrence found last,
`before` is the character before the text, and `count` occurrences were found so far. -/
def countFrom (needle : List Char) (skip : Nat) (before : Option Char) (count : Nat) :
    List Char → Nat
  -- Only an empty needle can stand at the end.
  | [] => if skip = 0 ∧ standsAt needle before [] then count + 1 else count
  | c :: rest =>
    match skip with
    | skip + 1 => countFrom needle skip (some c) count rest
    | 0 =>
      if standsAt needle before (c :: rest) then
        -- The next occurrence is looked for behind this one.
        countFrom needle (needle.length - 1) (some c) (count + 1) rest
      else countFrom needle 0 (some c) count rest

/-- Number of whole-word occurrences in a text in lower case. A text in which the needle does not
occur at all is not looked at further. -/
def count (cue : Cue) (text : List Char) : Nat :=
  if Text.occursIn cue.needle text then countFrom cue.needle 0 none 0 text else 0

end Cue

/-- The cues of a component, in order. -/
structure CueSet where
  /-- The cues. -/
  cues : List Cue

namespace CueSet

/-- The cues of the phrases. -/
def ofPhrases (phrases : List String) : CueSet :=
  ⟨phrases.map Cue.ofPhrase⟩

/-- The phrases as written. -/
def phrases (set : CueSet) : List String :=
  set.cues.map Cue.phrase

/-- Number of cues. -/
def size (set : CueSet) : Nat :=
  set.cues.length

/-- The count of each cue in a text in lower case. -/
def countIn (set : CueSet) (text : List Char) : List Nat :=
  set.cues.map (·.count text)

end CueSet

end RubricScore
