import RubricScore.Text.Class

/-!
# Function headers

A header is an approximation of a function definition: two words, a parameter list without a closing
parenthesis inside, and an opening brace. Headers are counted from left to right without overlaps.
-/

namespace RubricScore.Metrics

/-- Length of the header at the front of a text, if one stands there. A header takes all of each run
of word characters and of white space that it meets, so it can stand there in one way only. -/
def headerLength? (text : List Char) : Option Nat :=
  let first := text.takeWhile Text.isWord
  let text := text.dropWhile Text.isWord
  let gap := text.takeWhile Text.isSpace
  let text := text.dropWhile Text.isSpace
  let second := text.takeWhile Text.isWord
  let text := text.dropWhile Text.isWord
  let beforeList := text.takeWhile Text.isSpace
  if first = [] ∨ gap = [] ∨ second = [] then none
  else
    match text.dropWhile Text.isSpace with
    | '(' :: text =>
      let parameters := text.takeWhile (· ≠ ')')
      match text.dropWhile (· ≠ ')') with
      | ')' :: text =>
        let afterList := text.takeWhile Text.isSpace
        match text.dropWhile Text.isSpace with
        | '\x7b' :: _ =>
          some (first.length + gap.length + second.length + beforeList.length + 1
            + parameters.length + 1 + afterList.length + 1)
        | _ => none
      | _ => none
    | _ => none

/-- Continues the count of headers: `skip` characters belong to the header found last, `before` is
the character before the text, and `count` headers were found so far. -/
def countHeadersFrom (skip : Nat) (before : Option Char) (count : Nat) : List Char → Nat
  | [] => count
  | c :: rest =>
    match skip with
    | skip + 1 => countHeadersFrom skip (some c) count rest
    | 0 =>
      -- A header begins with a word and not in the middle of one.
      if Text.isWord c ∧ ¬ Text.isWordAt before then
        match headerLength? (c :: rest) with
        | some length => countHeadersFrom (length - 1) (some c) (count + 1) rest
        | none => countHeadersFrom 0 (some c) count rest
      else countHeadersFrom 0 (some c) count rest

/-- Number of function headers in a text. -/
def countHeaders (text : List Char) : Nat :=
  countHeadersFrom 0 none 0 text

end RubricScore.Metrics
