import RubricScore.Category
import RubricScore.Criticality

/-!
# Rubrics

A rubric lists the components that a source tree is expected to implement. Each component names the
cue phrases that count as evidence for it and the numbers of functions and source lines that earn
full credit.
-/

namespace RubricScore

/-- One expected primitive or service. -/
structure Component where
  /-- Importance within the category. -/
  weight : Binary64
  /-- Importance label. -/
  criticality : Criticality
  /-- What the component is. -/
  description : String
  /-- Phrases that count as evidence. -/
  cues : List String
  /-- Functions that earn full credit. -/
  targetFunctions : UInt64
  /-- Source lines that earn full credit. -/
  targetSloc : UInt64
  /-- Names of the expected functions. -/
  manifest : Option (List String)

/-- A rubric. -/
structure Rubric where
  /-- Free data about the rubric. -/
  metadata : Json.Value
  /-- The kernel primitives, in document order. -/
  kernelPrimitives : OrderedMap String Component
  /-- The platform services, in document order. -/
  platformServices : OrderedMap String Component

namespace Rubric

/-- The components of a category. -/
def components (rubric : Rubric) : Category → OrderedMap String Component
  | .kernelPrimitive => rubric.kernelPrimitives
  | .platformService => rubric.platformServices

/-- The component of a name in a category. -/
def component? (rubric : Rubric) (category : Category) (name : String) : Option Component :=
  (rubric.components category).get? name

end Rubric

end RubricScore
