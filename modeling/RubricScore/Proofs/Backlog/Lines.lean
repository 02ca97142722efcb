import RubricScore.Backlog.Document
import RubricScore.Backlog.Text
import RubricScore.Proofs.Binary64.Display
import RubricScore.Proofs.Criticality
import RubricScore.Proofs.Text.Titles

/-!
# What is shown of a group

A reader sees four lines about a group of tasks: the title of its component, its score, weight and
importance, what it lacks, and the number of its tasks. The document of a backlog has an object for
it with all that the group holds.

## Main definitions

* `IsStyled`: a text in the style of a code, if colours are on;
* `TaskGroup.IsShown`: the lines about a group;
* `Json.Value.at?`: what stands at a path inside a value;
* `TaskGroup.IsWritten`: the object of a group.

## Main results

* `TaskGroup.isShown_text` and `TaskGroup.isWritten_toJson`: every group is shown and written so.
-/

namespace RubricScore

/-! ## Lines -/

/-- A text as it goes to a terminal, in the style of a code if colours are on. -/
inductive IsStyled (code text : String) : Bool → String → Prop
  /-- Without colours the text is bare. -/
  | bare : IsStyled code text false text
  /-- The style ends with the text. -/
  | styled : IsStyled code text true ("\x1b[" ++ code ++ "m" ++ text ++ "\x1b[0m")

theorem isStyled_apply (style : Style) (colors : Bool) (text : String) :
    IsStyled style.code text colors (style.apply colors text) := by
  cases colors with
  | false => exact .bare
  | true => exact .styled

/-- The code of the colour of a score. A NaN is shown as the lowest scores are. -/
inductive IsScoreCode (score : Binary64) : String → Prop
  /-- Green from 70 on. -/
  | green (hhigh : Binary64.le 70 score) : IsScoreCode score "32"
  /-- Yellow from 40 on. -/
  | yellow (hhigh : ¬Binary64.le 70 score) (hlow : Binary64.le 40 score) : IsScoreCode score "33"
  /-- Red below. -/
  | red (hhigh : ¬Binary64.le 70 score) (hlow : ¬Binary64.le 40 score) : IsScoreCode score "31"

theorem isScoreCode_scoreStyle (score : Binary64) : IsScoreCode score (scoreStyle score).code := by
  unfold scoreStyle
  split
  · next hhigh => exact .green hhigh
  · next hhigh =>
    split
    · next hlow => exact .yellow hhigh hlow
    · next hlow => exact .red hhigh hlow

/-- A score with one decimal place, in its colour. -/
def IsScoreText (colors : Bool) (score : Binary64) (text : String) : Prop :=
  ∃ tenths code : String, Binary64.IsTenths score tenths.toList ∧ IsScoreCode score code
    ∧ IsStyled code (tenths ++ "%") colors text

theorem isScoreText_scoreText (colors : Bool) (score : Binary64) :
    IsScoreText colors score (scoreText colors score) :=
  ⟨score.toTenths, (scoreStyle score).code, Binary64.isTenths_toTenths score,
    isScoreCode_scoreStyle score, isStyled_apply _ colors _⟩

namespace TaskGroup

/-- The lines about a group. -/
inductive IsShown (colors : Bool) (group : TaskGroup) : String → Prop
  /-- The name of the component is shown as a title. -/
  | lines {title name score weight label : String}
    (htitle : Text.IsTitle group.component.toList title.toList)
    (hname : IsStyled "1" title colors name)
    (hscore : IsScoreText colors group.currentScore score)
    (hweight : Binary64.IsPlain group.weight weight.toList)
    (hlabel : Criticality.ofValue? (.string label) = some group.criticality) :
    IsShown colors group <|
      "  - " ++ name ++ "\n"
        ++ "    Score: " ++ score ++ " | Weight: " ++ weight ++ " | Criticality: " ++ label ++ "\n"
        ++ "    Gap: " ++ toString group.gap.functions.toNat ++ " functions, "
        ++ toString group.gap.sloc.toNat ++ " SLOC" ++ "\n"
        ++ "    Tasks: " ++ toString group.tasks.length ++ "\n"

theorem isShown_text (colors : Bool) (group : TaskGroup) :
    group.IsShown colors (group.text colors) := by
  have htitle : Text.IsTitle group.component.toList (titleOf group.component).toList := by
    rw [titleOf, String.toList_ofList]
    exact Text.isTitle_titleCase _
  have hlines := IsShown.lines htitle (isStyled_apply .bold colors _)
    (isScoreText_scoreText colors group.currentScore)
    (Binary64.isPlain_toPlain group.weight) (Criticality.ofValue?_label group.criticality)
  unfold text line
  simpa only [String.append_assoc] using hlines

example :
    text true
        ⟨"VFS_layer", .kernelPrimitive, 42, .finite true Binary64.zeroMagnitude, .high, "",
          ⟨2, 7, "", ""⟩, []⟩
      = "  - \x1b[1mVfs Layer\x1b[0m\n"
        ++ "    Score: \x1b[33m42.0%\x1b[0m | Weight: -0 | Criticality: high\n"
        ++ "    Gap: 2 functions, 7 SLOC\n    Tasks: 0\n" := by
  decide +kernel

end TaskGroup

/-! ## Objects -/

/-- What stands at a path of names inside a value. -/
def Json.Value.at? (value : Json.Value) : List String → Option Json.Value
  | [] => some value
  | name :: path =>
    match value with
    | .object members => (members.lookup name).bind (·.at? path)
    | _ => none

/-- The value of a list that is left out when it is empty. -/
def listed? (items : List String) : Option Json.Value :=
  if items = [] then none else some (.array (items.map .string))

/-- The string of an importance label. -/
def Criticality.IsWritten (criticality : Criticality) (value : Option Json.Value) : Prop :=
  ∃ label, value = some (.string label)
    ∧ Criticality.ofValue? (.string label) = some criticality

/-- The object of a task. -/
structure Task.IsWritten (task : Task) (value : Json.Value) : Prop where
  /-- What it is called. -/
  title : value.at? ["task"] = some (.string task.title)
  /-- What is to be done. -/
  description : value.at? ["description"] = some (.string task.description)
  /-- Its notes. -/
  details : value.at? ["details"] = listed? task.details
  /-- The functions to implement. -/
  functions : value.at? ["functions"] = listed? task.functions
  /-- How urgent it is. -/
  priority : task.priority.IsWritten (value.at? ["priority"])

/-- The object of a group. -/
structure TaskGroup.IsWritten (group : TaskGroup) (value : Json.Value) : Prop where
  /-- The name of its component. -/
  component : value.at? ["component"] = some (.string group.component)
  /-- The category of the component. -/
  category : value.at? ["type"]
    = some (.string (match group.category with
      | .kernelPrimitive => "kernel"
      | .platformService => "os_service"))
  /-- Its score. -/
  currentScore : value.at? ["current_score"] = some (.real group.currentScore)
  /-- Its weight. -/
  weight : value.at? ["weight"] = some (.real group.weight)
  /-- Its importance. -/
  criticality : group.criticality.IsWritten (value.at? ["criticality"])
  /-- What it is. -/
  description : value.at? ["description"] = some (.string group.description)
  /-- The functions it lacks. -/
  functions : value.at? ["gap_analysis", "functions_gap"] = some (.word group.gap.functions)
  /-- The source lines it lacks. -/
  sloc : value.at? ["gap_analysis", "sloc_gap"] = some (.word group.gap.sloc)
  /-- The functions it has of those it is to have. -/
  functionsProgress : value.at? ["gap_analysis", "functions_progress"]
    = some (.string group.gap.functionsProgress)
  /-- The same of the source lines. -/
  slocProgress : value.at? ["gap_analysis", "sloc_progress"]
    = some (.string group.gap.slocProgress)
  /-- Its tasks, in order. -/
  tasks : ∃ values, value.at? ["tasks"] = some (.array values)
    ∧ List.Forall₂ Task.IsWritten group.tasks values

theorem Criticality.isWritten_toJson (criticality : Criticality) :
    criticality.IsWritten (some criticality.toJson) :=
  ⟨criticality.label, congrArg some criticality.toJson_eq, ofValue?_label criticality⟩

theorem Task.isWritten_toJson (task : Task) : task.IsWritten task.toJson := by
  obtain ⟨title, description, details, functions, priority⟩ := task
  have hpriority := priority.isWritten_toJson
  constructor <;> cases details <;> cases functions
  all_goals first
    | rfl
    | exact hpriority

theorem TaskGroup.isWritten_toJson (group : TaskGroup) : group.IsWritten group.toJson where
  component := rfl
  category := by
    show some (Json.Value.string group.category.key) = _
    cases group.category <;> rfl
  currentScore := rfl
  weight := rfl
  criticality := group.criticality.isWritten_toJson
  description := rfl
  functions := rfl
  sloc := rfl
  functionsProgress := rfl
  slocProgress := rfl
  tasks := by
    refine ⟨_, rfl, ?_⟩
    rw [List.forall₂_map_right_iff, List.forall₂_same]
    exact fun task _ => task.isWritten_toJson

end RubricScore
