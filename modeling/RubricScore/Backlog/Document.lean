import RubricScore.Backlog.Basic
import RubricScore.Rubric.Document

/-!
# Backlog documents

How backlogs are written as JSON. Lists that a task does not have are left out.
-/

namespace RubricScore

/-- A member with a list of strings, absent when the list is empty. -/
def stringsMember (name : String) (items : List String) : List (String × Json.Value) :=
  if items.isEmpty then [] else [(name, .strings items)]

/-- The value of a task. -/
def Task.toJson (task : Task) : Json.Value :=
  .object <|
    [("task", .string task.title), ("description", .string task.description)]
      ++ stringsMember "details" task.details
      ++ stringsMember "functions" task.functions
      ++ [("priority", task.priority.toJson)]

/-- The value of a gap. -/
def Gap.toJson (gap : Gap) : Json.Value :=
  .object
    [("functions_gap", .word gap.functions),
     ("sloc_gap", .word gap.sloc),
     ("functions_progress", .string gap.functionsProgress),
     ("sloc_progress", .string gap.slocProgress)]

/-- The value of a task group. -/
def TaskGroup.toJson (group : TaskGroup) : Json.Value :=
  .object
    [("component", .string group.component),
     ("type", .string group.category.key),
     ("current_score", .real group.currentScore),
     ("weight", .real group.weight),
     ("criticality", group.criticality.toJson),
     ("description", .string group.description),
     ("gap_analysis", group.gap.toJson),
     ("tasks", .array (group.tasks.map Task.toJson))]

/-- The value of a backlog. -/
def Backlog.toJson (backlog : Backlog) : Json.Value :=
  .object
    [("metadata", .object
      [("threshold", .real backlog.threshold),
       ("kernel_score", .real backlog.summary.kernelScore),
       ("os_score", .real backlog.summary.platformScore),
       ("overall_score", .real backlog.summary.overallScore),
       ("total_files_scanned", .word backlog.summary.filesScanned)]),
     ("tasks", .object
      [("kernel_primitives", .array (backlog.kernelPrimitives.map TaskGroup.toJson)),
       ("os_services", .array (backlog.platformServices.map TaskGroup.toJson))]),
     ("summary", .object
      [("kernel_components_needing_work", .word backlog.counts.kernelPrimitives),
       ("os_components_needing_work", .word backlog.counts.platformServices),
       ("total_components", .word backlog.counts.total)])]

end RubricScore
