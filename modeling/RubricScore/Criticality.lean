import RubricScore.Json.Decode

/-!
# Criticality labels

How important a component is. A label is free text; four labels are standard. Criticality never
enters a score, but the priorities of tasks are copied from it.
-/

namespace RubricScore

/-- The standard labels. -/
def Criticality.standardLabels : List String :=
  ["low", "medium", "high", "critical"]

/-- An importance label. There is one for every string: a standard label is never held as another
one. -/
inductive Criticality where
  | low
  | medium
  | high
  | critical
  /-- Any other label, kept as written. -/
  | other (label : String) (hother : label ∉ Criticality.standardLabels)
deriving DecidableEq

namespace Criticality

/-- The label as it is shown. -/
def label : Criticality → String
  | low => "low"
  | medium => "medium"
  | high => "high"
  | critical => "critical"
  | other label _ => label

/-- The value that stands for a label in documents. -/
def toJson : Criticality → Json.Value
  | low => .string "low"
  | medium => .string "medium"
  | high => .string "high"
  | critical => .string "critical"
  | other label _ => .string label

/-- The standard label with the given name. -/
def ofName? : String → Option Criticality
  | "low" => some low
  | "medium" => some medium
  | "high" => some high
  | "critical" => some critical
  | _ => none

/-- The label a value stands for: a string is its own label, and an object whose only member is a
standard label bound to `null` stands for that label. -/
def ofValue? : Json.Value → Option Criticality
  | .string label =>
    if hother : label ∉ standardLabels then some (other label hother) else ofName? label
  | .object [(name, .null)] => ofName? name
  | _ => none

/-- Reads a label. -/
def read : Json.Reader Criticality := fun room node => do
  match ofValue? (← Json.readValue room node) with
  | some criticality => return criticality
  | none => Json.reject (.noForm "Criticality")

end Criticality

end RubricScore
