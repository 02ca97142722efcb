import RubricScore.Metrics.Header
import RubricScore.Metrics.Sloc

/-!
# Metrics of source texts

The two counts that are taken from each file, and their sums.
-/

namespace RubricScore

/-- Counts of a source text. -/
structure Metrics where
  /-- Function headers. -/
  functions : Nat
  /-- Source lines. -/
  sloc : Nat
deriving DecidableEq

namespace Metrics

/-- The counts of a text. -/
def measure (text : List Char) : Metrics :=
  ⟨countHeaders text, countSloc text⟩

/-- No counts. -/
def zero : Metrics :=
  ⟨0, 0⟩

instance : Add Metrics :=
  ⟨fun a b => ⟨a.functions + b.functions, a.sloc + b.sloc⟩⟩

/-- The sum of the counts of several texts. -/
def sum (counts : List Metrics) : Metrics :=
  counts.foldl (· + ·) zero

end Metrics

end RubricScore
