import RubricScore.Category
import RubricScore.Criticality

/-!
# Evaluation reports

What an evaluation finds out about each component of a rubric, and the scores it gives.
-/

namespace RubricScore

/-- Cue evidence for one component. -/
structure Evidence where
  /-- Occurrences of all cues over the corpus. -/
  totalMatches : UInt64
  /-- Files with at least one occurrence. -/
  matchedFiles : UInt64
  /-- Occurrences of each cue, in the order of the cues. -/
  cueMatches : OrderedMap String UInt64

/-- A count, its target and the score it earns. -/
structure Measure where
  /-- What was found. -/
  found : UInt64
  /-- What earns full credit. -/
  target : UInt64
  /-- The score. -/
  score : Binary64
deriving DecidableEq

/-- The scores of a component. -/
structure Scores where
  /-- For its evidence. -/
  evidence : Binary64
  /-- For its functions. -/
  functions : Binary64
  /-- For its source lines. -/
  sloc : Binary64
  /-- The weighted sum of the three. -/
  overall : Binary64
deriving DecidableEq

/-- What an evaluation says about one component. -/
structure ComponentResult where
  /-- Name of the component. -/
  name : String
  /-- Its weight in the rubric. -/
  weight : Binary64
  /-- Its importance label. -/
  criticality : Criticality
  /-- Its evidence. -/
  evidence : Evidence
  /-- Its functions. -/
  functions : Measure
  /-- Its source lines. -/
  sloc : Measure
  /-- Its scores. -/
  scores : Scores

/-- The scores of the categories and of the whole. -/
structure Summary where
  /-- Score of the kernel primitives. -/
  kernelScore : Binary64
  /-- Score of the platform services. -/
  platformScore : Binary64
  /-- Mean of the two. -/
  overallScore : Binary64
  /-- Files in the corpus. -/
  filesScanned : UInt64
deriving DecidableEq

/-- The result of an evaluation. -/
structure Report where
  /-- Results of the kernel primitives, in rubric order. -/
  kernelPrimitives : OrderedMap String ComponentResult
  /-- Results of the platform services, in rubric order. -/
  platformServices : OrderedMap String ComponentResult
  /-- The summary. -/
  summary : Summary

namespace Measure

/-- What is missing to the target. -/
def gap (measure : Measure) : UInt64 :=
  if measure.found < measure.target then measure.target - measure.found else 0

/-- What was found and the target, separated by a slash. -/
def progress (measure : Measure) : String :=
  toString measure.found.toNat ++ "/" ++ toString measure.target.toNat

end Measure

namespace Report

/-- The results of a category. -/
def results (report : Report) : Category → OrderedMap String ComponentResult
  | .kernelPrimitive => report.kernelPrimitives
  | .platformService => report.platformServices

/-- The score of a category. -/
def categoryScore (report : Report) : Category → Binary64
  | .kernelPrimitive => report.summary.kernelScore
  | .platformService => report.summary.platformScore

end Report

end RubricScore
