import RubricScore.Backlog.Task
import RubricScore.Log
import RubricScore.Rubric.Basic

/-!
# Backlogs

The work that is left: a group of tasks for every component whose overall score lies below a
threshold. What the rubric says about a component goes before what the report says about it.
-/

namespace RubricScore

/-- What a component lacks to its targets. -/
structure Gap where
  /-- Missing functions. -/
  functions : UInt64
  /-- Missing source lines. -/
  sloc : UInt64
  /-- Functions found and wanted. -/
  functionsProgress : String
  /-- Source lines found and wanted. -/
  slocProgress : String
deriving DecidableEq

/-- The tasks for one component. -/
structure TaskGroup where
  /-- Name of the component. -/
  component : String
  /-- Its category. -/
  category : Category
  /-- Its overall score. -/
  currentScore : Binary64
  /-- Its weight. -/
  weight : Binary64
  /-- Its importance label. -/
  criticality : Criticality
  /-- What it is. -/
  description : String
  /-- What it lacks. -/
  gap : Gap
  /-- The tasks. -/
  tasks : List Task
deriving DecidableEq

/-- How many components have task groups. -/
structure BacklogCounts where
  /-- Kernel primitives. -/
  kernelPrimitives : UInt64
  /-- Platform services. -/
  platformServices : UInt64
  /-- Components of both categories. -/
  total : UInt64
deriving DecidableEq

/-- A backlog: the threshold, the scores of the report, the groups of each category, and the counts
that it states. -/
structure Backlog where
  /-- Components scoring below it get tasks. -/
  threshold : Binary64
  /-- The summary of the report. -/
  summary : Summary
  /-- Groups of the kernel primitives, in report order. -/
  kernelPrimitives : List TaskGroup
  /-- Groups of the platform services, in report order. -/
  platformServices : List TaskGroup
  /-- The stated counts. -/
  counts : BacklogCounts
deriving DecidableEq

/-- The threshold that is used when none is given. -/
def defaultThreshold : Binary64 :=
  70

namespace ComponentResult

/-- The gap of a component. -/
def gap (result : ComponentResult) : Gap where
  functions := result.functions.gap
  sloc := result.sloc.gap
  functionsProgress := result.functions.progress
  slocProgress := result.sloc.progress

/-- The tasks for the batches of a manifest, numbered from one. -/
def batchTasks (display : String) (priority : Criticality) (manifest : List String) : List Task :=
  let all := batches manifest
  all.mapIdx fun index functions => Task.batch display (index + 1) all.length functions priority

/-- The task group of a component, with its rubric entry if there is one. -/
def taskGroup (name : String) (category : Category) (result : ComponentResult)
    (entry : Option Component) : TaskGroup :=
  let display := displayName name
  let criticality := (entry.map Component.criticality).getD result.criticality
  let description := (entry.map Component.description).getD ""
  let missing := result.functions.gap
  let subject := if description.isEmpty then name else description
  let core :=
    if 0 < missing then [Task.core display subject result missing criticality] else []
  let manifest := (entry.bind Component.manifest).getD []
  { component := name
    category := category
    currentScore := result.scores.overall
    weight := (entry.map Component.weight).getD result.weight
    criticality := criticality
    description := description
    gap := result.gap
    tasks :=
      core ++ batchTasks display criticality manifest
        ++ [Task.testing display, Task.documentation display criticality] }

end ComponentResult

namespace Report

/-- The entries of a category that score below a threshold. -/
def below (report : Report) (threshold : Binary64) (category : Category) :
    List (String × ComponentResult) :=
  (report.results category).entries.filter fun entry => entry.2.scores.overall.lt threshold

/-- The task groups of a category. -/
def taskGroups (report : Report) (rubric : Rubric) (threshold : Binary64) (category : Category) :
    List TaskGroup :=
  (report.below threshold category).map fun entry =>
    entry.2.taskGroup entry.1 category (rubric.component? category entry.1)

/-- The backlog for every component below a threshold. -/
def backlog (report : Report) (rubric : Rubric) (threshold : Binary64) : Backlog :=
  let primitives := report.taskGroups rubric threshold .kernelPrimitive
  let services := report.taskGroups rubric threshold .platformService
  { threshold := threshold
    summary := report.summary
    kernelPrimitives := primitives
    platformServices := services
    counts :=
      { kernelPrimitives := .ofNat primitives.length
        platformServices := .ofNat services.length
        total := .ofNat primitives.length + .ofNat services.length } }

end Report

namespace Backlog

/-- The groups of a category. -/
def groups (backlog : Backlog) : Category → List TaskGroup
  | .kernelPrimitive => backlog.kernelPrimitives
  | .platformService => backlog.platformServices

/-- Warnings about components that the rubric does not have. -/
def strayEvents (report : Report) (rubric : Rubric) (threshold : Binary64) (category : Category) :
    List Event :=
  ((report.below threshold category).filter fun entry =>
      (rubric.component? category entry.1).isNone).map fun entry =>
    ⟨.warn, "Component '" ++ entry.1 ++ "' is not in the rubric's " ++ category.label
      ++ "; using report values"⟩

/-- The events of the making of a backlog. -/
def events (report : Report) (rubric : Rubric) (threshold : Binary64) : List Event :=
  let counts := (report.backlog rubric threshold).counts
  Category.all.flatMap (strayEvents report rubric threshold)
    ++ [⟨.debug, toString counts.total.toNat ++ " components below " ++ threshold.toTenths ++ " ("
        ++ toString counts.kernelPrimitives.toNat ++ " kernel, "
        ++ toString counts.platformServices.toNat ++ " OS)"⟩]

end Backlog

/-- The groups of a category are made from the report's entries of this category. -/
theorem Report.groups_backlog (report : Report) (rubric : Rubric) (threshold : Binary64)
    (category : Category) :
    (report.backlog rubric threshold).groups category
      = report.taskGroups rubric threshold category := by
  cases category <;> rfl

end RubricScore
