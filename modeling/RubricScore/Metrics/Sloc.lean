import RubricScore.Text.Class

/-!
# Source lines of code

Lines are counted one by one. A line with a comment opener begins a block comment and a line with a
closer ends it; lines of a block comment, blank lines, line comments and directives do not count,
and neither does a line with an opener or a closer.
-/

namespace RubricScore.Metrics

/-- The line holds a comment opener. -/
def opensComment (line : List Char) : Bool :=
  Text.occursIn ['/', '*'] line

/-- The line holds a comment closer. -/
def closesComment (line : List Char) : Bool :=
  Text.occursIn ['*', '/'] line

/-- A line that counts outside block comments, given without white space around it. -/
def isCode (line : List Char) : Bool :=
  !line.isEmpty && !(['/', '/'].isPrefixOf line || ['#'].isPrefixOf line)

/-- One line: whether the next one is inside a block comment, and the count so far. -/
def countLine (state : Bool × Nat) (line : List Char) : Bool × Nat :=
  let line := Text.trim line
  -- A closer goes before an opener, whatever their order on the line.
  if closesComment line then (false, state.2)
  else if opensComment line || state.1 then (true, state.2)
  else (false, if isCode line then state.2 + 1 else state.2)

/-- Number of source lines in a text. -/
def countSloc (text : List Char) : Nat :=
  ((text.splitOn '\n').foldl countLine (false, 0)).2

end RubricScore.Metrics
