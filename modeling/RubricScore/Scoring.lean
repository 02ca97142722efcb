import RubricScore.Report.Basic

/-!
# Scores

The scores of a component and of a category. Every score lies between 0 and 100. Ten occurrences of
cues earn full credit for evidence, and reaching a target earns full credit for it; without a target
there is no credit. The overall score is four tenths evidence, three tenths functions and three
tenths source lines.
-/

namespace RubricScore.Scoring

/-- The greatest score. -/
def maxScore : Binary64 :=
  100

/-- Occurrences of cues that earn full credit. -/
def fullCreditMatches : Binary64 :=
  10

/-- Share of the evidence in the overall score. -/
def evidenceShare : Binary64 :=
  Binary64.ofDecimal false 4 (-1)

/-- Share of the functions in the overall score. -/
def functionShare : Binary64 :=
  Binary64.ofDecimal false 3 (-1)

/-- Share of the source lines in the overall score. -/
def slocShare : Binary64 :=
  Binary64.ofDecimal false 3 (-1)

/-- A quotient as a percentage, at most the greatest score. -/
def percentage (part total : Binary64) : Binary64 :=
  (part / total * maxScore).min maxScore

/-- Score of a count against its target. -/
def ratioScore (found target : UInt64) : Binary64 :=
  if target = 0 then Binary64.zero
  else percentage (Binary64.ofWord found) (Binary64.ofWord target)

/-- Score of the occurrences of cues. -/
def evidenceScore (occurrences : UInt64) : Binary64 :=
  percentage (Binary64.ofWord occurrences) fullCreditMatches

/-- The scores of a component from its counts and targets. -/
def componentScores (occurrences functions sloc targetFunctions targetSloc : UInt64) : Scores :=
  let evidence := evidenceScore occurrences
  let functionScore := ratioScore functions targetFunctions
  let slocScore := ratioScore sloc targetSloc
  { evidence := evidence
    functions := functionScore
    sloc := slocScore
    overall := evidence * evidenceShare + functionScore * functionShare + slocScore * slocShare }

/-- The greatest weight, at least zero. -/
def maxWeight (pairs : List (Binary64 × Binary64)) : Binary64 :=
  (pairs.map Prod.fst).foldl Binary64.max Binary64.zero

/-- Adds one weighted score to the sum of the weighted scores and to the sum of the weights. The
weight is first divided by the greatest one, so that the sums cannot overflow. -/
def addWeighted (greatest : Binary64) (sums : Binary64 × Binary64) (pair : Binary64 × Binary64) :
    Binary64 × Binary64 :=
  let scaled := pair.1 / greatest
  (sums.1 + pair.2 * scaled, sums.2 + scaled)

/-- Weighted mean of pairs of a weight and a score; zero when no weight is positive. -/
def weightedMean (pairs : List (Binary64 × Binary64)) : Binary64 :=
  let greatest := maxWeight pairs
  if greatest.le Binary64.zero || !greatest.isFinite then Binary64.zero
  else
    -- The two sums are rounded on their own, and nothing limits their quotient.
    let sums := pairs.foldl (addWeighted greatest) (Binary64.zero, Binary64.zero)
    if Binary64.zero.lt sums.2 then sums.1 / sums.2 else Binary64.zero

end RubricScore.Scoring
