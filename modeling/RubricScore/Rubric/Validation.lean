import RubricScore.Log
import RubricScore.Rubric.Document
import RubricScore.Text.Case

/-!
# Validation of rubrics

A rubric is used only if every component has cues, none of them blank and no two of them equal up to
letter case, a finite weight that is not negative, and, if it names its functions, as many of them
as its target says. The first fault wins: kernel primitives come before platform services, and
components stand in document order.
-/

namespace RubricScore

/-- What can be wrong with a component. -/
inductive RubricFault where
  /-- The component has no cues. -/
  | emptyCues (component : String)
  /-- A cue equals an earlier one up to letter case. -/
  | duplicateCue (component cue : String)
  /-- A cue has no character other than white space. -/
  | blankCue (component : String)
  /-- The weight is negative or not finite. -/
  | invalidWeight (component : String) (weight : Binary64)
  /-- The manifest does not have as many names as the target says. -/
  | manifestMismatch (component : String) (names : Nat) (target : UInt64)
deriving DecidableEq

/-- Message of a fault. -/
def RubricFault.message : RubricFault → String
  | .emptyCues component => "Component '" ++ component ++ "' has no evidence cues"
  | .duplicateCue component cue =>
    "Component '" ++ component ++ "' lists evidence cue '" ++ cue ++ "' more than once"
  | .blankCue component => "Component '" ++ component ++ "' has a blank evidence cue"
  | .invalidWeight component weight =>
    "Component '" ++ component ++ "' has invalid weight " ++ weight.toPlain
      ++ " (must be finite and >= 0)"
  | .manifestMismatch component names target =>
    "Component '" ++ component ++ "' declares " ++ toString names
      ++ " manifest functions but target_functions is " ++ toString target.toNat

/-- The form of a cue in which letter case does not show. -/
def foldCue (cue : String) : List Char :=
  Text.lowercase cue.toList

/-- Checks the cues one after the other; `seen` holds the forms of the earlier ones. -/
def checkCues (component : String) (seen : List (List Char)) : List String → Except RubricFault Unit
  | [] => .ok ()
  | cue :: rest =>
    if Text.isBlank cue.toList then .error (.blankCue component)
    else if seen.contains (foldCue cue) then .error (.duplicateCue component cue)
    else checkCues component (foldCue cue :: seen) rest

namespace Component

/-- The weight is finite and not negative; negative zero is allowed. -/
def hasValidWeight (component : Component) : Bool :=
  component.weight.isFinite && !component.weight.lt Binary64.zero

/-- A component that names its functions names as many as its target says. -/
def hasMatchingManifest (component : Component) : Bool :=
  component.manifest.all fun names => names.length == component.targetFunctions.toNat

/-- Checks a component: its cues, then its weight, then its manifest. -/
def check (name : String) (component : Component) : Except RubricFault Unit := do
  if component.cues.isEmpty then throw (.emptyCues name)
  checkCues name [] component.cues
  if !component.hasValidWeight then throw (.invalidWeight name component.weight)
  if !component.hasMatchingManifest then
    throw (.manifestMismatch name (component.manifest.getD []).length component.targetFunctions)

end Component

namespace Rubric

/-- Checks the components of a category in document order. -/
def checkCategory (rubric : Rubric) (category : Category) : Except RubricFault Unit :=
  (rubric.components category).entries.forM fun entry => entry.2.check entry.1

/-- Checks a rubric. -/
def validate (rubric : Rubric) : Except RubricFault Unit :=
  Category.all.forM rubric.checkCategory

/-- Number of kernel primitives in the reference rubric. -/
def referencePrimitives : Nat :=
  10

/-- Number of platform services in the reference rubric. -/
def referenceServices : Nat :=
  8

/-- The sum of the weights in a category, added in document order. -/
def totalWeight (rubric : Rubric) (category : Category) : Binary64 :=
  ((rubric.components category).values.map Component.weight).foldl (· + ·) Binary64.zero

/-- A warning if all weights of a category are zero. -/
def weightEvents (rubric : Rubric) (category : Category) : List Event :=
  if (rubric.totalWeight category).isZero then
    [⟨.warn, category.label ++ " has zero total weight; its category score will be 0"⟩]
  else []

/-- A note if the rubric is not of the size of the reference rubric. -/
def sizeEvents (rubric : Rubric) : List Event :=
  let primitives := rubric.kernelPrimitives.size
  let services := rubric.platformServices.size
  if primitives = referencePrimitives ∧ services = referenceServices then []
  else
    [⟨.debug, "Rubric has " ++ toString primitives ++ " kernel primitives and " ++ toString services
      ++ " OS services (reference rubric: " ++ toString referencePrimitives ++ " and "
      ++ toString referenceServices ++ ")"⟩]

/-- Events of a validation: those of the categories up to the one that has a fault, and the note on
the size if there is none. -/
def validationEvents (rubric : Rubric) : List Event :=
  match rubric.checkCategory .kernelPrimitive with
  | .error _ => []
  | .ok _ =>
    rubric.weightEvents .kernelPrimitive
      ++ (match rubric.checkCategory .platformService with
        | .error _ => []
        | .ok _ => rubric.weightEvents .platformService ++ rubric.sizeEvents)

end Rubric

end RubricScore
