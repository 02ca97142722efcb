import RubricScore.Backlog.Basic
import RubricScore.Report.Text

/-!
# Backlog texts

How a backlog is shown to a reader: the groups of each category, heaviest first.
-/

namespace RubricScore

/-- The lines about one group. -/
def TaskGroup.text (colors : Bool) (group : TaskGroup) : String :=
  line ("  - " ++ Style.bold.apply colors (titleOf group.component))
    ++ line ("    Score: " ++ scoreText colors group.currentScore ++ " | Weight: "
      ++ group.weight.toPlain ++ " | Criticality: " ++ group.criticality.label)
    ++ line ("    Gap: " ++ toString group.gap.functions.toNat ++ " functions, "
      ++ toString group.gap.sloc.toNat ++ " SLOC")
    ++ line ("    Tasks: " ++ toString group.tasks.length)

/-- The groups by falling weight; groups of equal weight keep their order. -/
def heaviestFirst (groups : List TaskGroup) : List TaskGroup :=
  groups.mergeSort fun a b => b.weight.totalLe a.weight

namespace Backlog

/-- The lines about one category. -/
def categoryText (backlog : Backlog) (colors : Bool) (category : Category) : String :=
  let groups := backlog.groups category
  line ""
    ++ line (category.shortLabel ++ " needing work: "
      ++ Style.cyan.apply colors (toString groups.length))
    ++ String.join ((heaviestFirst groups).map (TaskGroup.text colors))

/-- The text of a backlog. -/
def text (colors : Bool) (backlog : Backlog) : String :=
  heading colors "IMPLEMENTATION TASKS SUMMARY"
    ++ String.join (Category.all.map (backlog.categoryText colors))
    ++ line "" ++ line (rule colors)
    ++ line ("Total components needing work: " ++ toString backlog.counts.total.toNat)

end Backlog

end RubricScore
