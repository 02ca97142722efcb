import RubricScore.Criticality
import RubricScore.Proofs.Except

/-!
# Labels and strings

Importance labels are the strings that they are shown as: every string is the label of one value, and
this is the value that it is read as and the string that it is written as, whether the label is a
standard one or not.

## Main results

* `exists_label`: every string is a label;
* `label_inj`: different strings are different labels;
* `toJson_eq`: a label is written as the string that it is shown as;
* `read_string`: a string is read as the value with this label.
-/

namespace RubricScore.Criticality

/-- A label is written as it is shown. -/
theorem toJson_eq (criticality : Criticality) : criticality.toJson = .string criticality.label := by
  cases criticality <;> rfl

/-- Every string is a label. -/
theorem exists_label (label : String) : ∃ criticality : Criticality, criticality.label = label := by
  by_cases hother : label ∈ standardLabels
  · simp only [standardLabels, List.mem_cons, List.not_mem_nil, or_false] at hother
    rcases hother with rfl | rfl | rfl | rfl
    · exact ⟨low, rfl⟩
    · exact ⟨medium, rfl⟩
    · exact ⟨high, rfl⟩
    · exact ⟨critical, rfl⟩
  · exact ⟨other label hother, rfl⟩

/-- The value of a label is found again from its string. -/
theorem ofValue?_label (criticality : Criticality) :
    ofValue? (.string criticality.label) = some criticality := by
  cases criticality with
  | other label hother => exact dif_pos hother
  | low => rfl
  | medium => rfl
  | high => rfl
  | critical => rfl

/-- Different labels are shown differently. -/
theorem label_inj {criticality criticality' : Criticality} :
    criticality.label = criticality'.label ↔ criticality = criticality' := by
  refine ⟨fun h => ?_, congrArg label⟩
  have hvalue := ofValue?_label criticality
  rw [h, ofValue?_label] at hvalue
  exact (Option.some.inj hvalue).symm

/-- A string is read as the value with this label. -/
theorem read_string {room : Nat} {quoted : Json.Quoted} {criticality : Criticality}
    (h : quoted.text = .ok criticality.label) : read room (.string quoted) = .ok criticality := by
  have hvalue : Json.readValue room (.string quoted) = .ok (.string criticality.label) := by
    rw [Json.readValue, h]
    rfl
  refine bind_eq_ok_iff.2 ⟨_, hvalue, ?_⟩
  rw [ofValue?_label]
  rfl

end RubricScore.Criticality
