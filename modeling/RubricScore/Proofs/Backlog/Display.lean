import Mathlib.Data.List.Pairwise
import RubricScore.OutputFormat
import RubricScore.Proofs.Backlog.Lines
import RubricScore.Proofs.Binary64.TotalOrder
import RubricScore.Proofs.Json.Layout

/-!
# How a backlog is shown

The text of a backlog shows the groups of a category by falling weight, whatever the weights are,
and the document of a backlog has them in report order. Every group is there once in both of them, with
what there is to show of it.

## Main definitions

* `Backlog.Arranges`: groups by falling weight, those of equal weight in their order;
* `Backlog.IsSection`: the section of a category in which given groups are shown;
* `Backlog.IsShown`: the text of a backlog in which given groups are shown.

## Main results

* `Backlog.arranges_heaviestFirst`: sorting by weight arranges the groups;
* `Backlog.isSection_categoryText`: the section of a category shows all its groups;
* `Backlog.groups_shown`: the groups of a backlog in both formats.
-/

namespace RubricScore

/-- Sorting keeps the order of elements none of which has to go before another. -/
theorem filter_mergeSort {α : Type} {le : α → α → Bool} (htrans : ∀ a b c, le a b → le b c → le a c)
    (htotal : ∀ a b, le a b || le b a) {keep : α → Bool}
    (htied : ∀ a b, keep a → keep b → le a b) (xs : List α) :
    (xs.mergeSort le).filter keep = xs.filter keep := by
  have hkept : ∀ a ∈ xs.filter keep, keep a := fun a ha => (List.mem_filter.1 ha).2
  have hsorted : (xs.filter keep).Pairwise fun a b => le a b :=
    List.pairwise_of_forall_mem_list fun a ha b hb => htied a b (hkept a ha) (hkept b hb)
  -- The tied elements are a part of the sorted list in their order, and it has no others.
  have hsub : (xs.filter keep).Sublist (xs.mergeSort le) :=
    List.sublist_mergeSort htrans htotal hsorted List.filter_sublist
  have hpart : (xs.filter keep).Sublist ((xs.mergeSort le).filter keep) := by
    have hfilter := hsub.filter keep
    rwa [List.filter_eq_self.2 hkept] at hfilter
  exact (hpart.eq_of_length ((List.mergeSort_perm xs le).filter keep).length_eq.symm).symm

namespace Backlog

/-- The groups by falling weight in the total order of numbers. -/
structure Arranges (groups shown : List TaskGroup) : Prop where
  /-- Every group is shown once, and nothing else. -/
  once : shown.Perm groups
  /-- No group stands behind a lighter one. -/
  falling : shown.Pairwise fun a b => ¬ a.weight.Before b.weight
  /-- Groups of one weight keep their order. -/
  stable : ∀ weight, shown.filter (·.weight = weight) = groups.filter (·.weight = weight)

/-- Name of a category in the text of a backlog. -/
def sectionName : Category → String
  | .kernelPrimitive => "Kernel Primitives"
  | .platformService => "OS Services"

/-- The section of a category in which the given groups are shown. -/
inductive IsSection (colors : Bool) (category : Category) (shown : List TaskGroup) : String → Prop
  /-- The number of the groups is followed by the lines about each of them. -/
  | groups {count : String} {lines : List String}
    (hcount : IsStyled "36" (toString shown.length) colors count)
    (hlines : List.Forall₂ (TaskGroup.IsShown colors) shown lines) :
    IsSection colors category shown
      ("\n" ++ sectionName category ++ " needing work: " ++ count ++ "\n" ++ String.join lines)

/-- The text of a backlog in which the given groups of each category are shown. -/
inductive IsShown (backlog : Backlog) (colors : Bool) (shown : Category → List TaskGroup) :
    String → Prop
  /-- The sections stand between a heading and the stated total. -/
  | sections {rule title primitives services : String}
    (hrule : IsStyled "2" (String.ofList (List.replicate 70 '=')) colors rule)
    (htitle : IsStyled "1" "IMPLEMENTATION TASKS SUMMARY" colors title)
    (hprimitives : IsSection colors .kernelPrimitive (shown .kernelPrimitive) primitives)
    (hservices : IsSection colors .platformService (shown .platformService) services) :
    IsShown backlog colors shown <|
      "\n" ++ rule ++ "\n" ++ title ++ "\n" ++ rule ++ "\n" ++ primitives ++ services
        ++ "\n" ++ rule ++ "\n"
        ++ "Total components needing work: " ++ toString backlog.counts.total.toNat ++ "\n"

/-- Name of the list of groups of a category in a document. -/
def listKey : Category → String
  | .kernelPrimitive => "kernel_primitives"
  | .platformService => "os_services"

theorem heavier_trans (a b c : TaskGroup) (hab : b.weight.totalLe a.weight)
    (hbc : c.weight.totalLe b.weight) : c.weight.totalLe a.weight := by
  simp only [Binary64.totalLe, decide_eq_true_eq] at hab hbc ⊢
  exact Int.le_trans hbc hab

theorem heavier_total (a b : TaskGroup) :
    b.weight.totalLe a.weight || a.weight.totalLe b.weight := by
  simp only [Binary64.totalLe, Bool.or_eq_true, decide_eq_true_eq]
  exact Int.le_total _ _

/-- Sorting by weight arranges the groups. -/
theorem arranges_heaviestFirst (groups : List TaskGroup) :
    Arranges groups (heaviestFirst groups) where
  once := List.mergeSort_perm groups _
  falling := by
    refine (List.pairwise_mergeSort heavier_trans heavier_total groups).imp fun {a b} hle => ?_
    rw [Binary64.before_iff, Int.not_lt]
    exact of_decide_eq_true hle
  stable weight := by
    refine filter_mergeSort heavier_trans heavier_total (fun a b ha hb => ?_) groups
    rw [of_decide_eq_true ha, of_decide_eq_true hb]
    exact Binary64.totalLe_iff.2 (.inl rfl)

example (group : String → Binary64 → TaskGroup) (h : ∀ name x, (group name x).weight = x) :
    heaviestFirst
      [group "one" 1, group "minus zero" (.finite true Binary64.zeroMagnitude),
        group "not a number" (.nan false 0), group "zero" 0, group "unit" 1]
      = [group "not a number" (.nan false 0), group "one" 1, group "unit" 1, group "zero" 0,
        group "minus zero" (.finite true Binary64.zeroMagnitude)] := by
  have hle : Binary64.totalLe (.finite true Binary64.zeroMagnitude) 1 ∧ Binary64.totalLe 1 1
      ∧ Binary64.totalLe 1 (.nan false 0) := by decide +kernel
  have hlt : Binary64.totalLe (.nan false 0) 1 = false ∧ Binary64.totalLe 1 0 = false
      ∧ Binary64.totalLe 1 (.finite true Binary64.zeroMagnitude) = false
      ∧ Binary64.totalLe 0 (.finite true Binary64.zeroMagnitude) = false := by decide +kernel
  simp [heaviestFirst, List.mergeSort, List.MergeSort.Internal.splitInTwo, h, hle, hlt]

/-- The section of a category shows all its groups, the heaviest first. -/
theorem isSection_categoryText (backlog : Backlog) (colors : Bool) (category : Category) :
    IsSection colors category (heaviestFirst (backlog.groups category))
      (backlog.categoryText colors category) := by
  have hlength : (heaviestFirst (backlog.groups category)).length
      = (backlog.groups category).length := List.length_mergeSort _
  have hname : category.shortLabel = sectionName category := by
    cases category <;> rfl
  have hlines : List.Forall₂ (TaskGroup.IsShown colors) (heaviestFirst (backlog.groups category))
      ((heaviestFirst (backlog.groups category)).map (TaskGroup.text colors)) := by
    rw [List.forall₂_map_right_iff, List.forall₂_same]
    exact fun group _ => group.isShown_text colors
  have hsection := @IsSection.groups colors category _ _ _ (isStyled_apply .cyan colors _) hlines
  unfold categoryText line
  rw [hlength, ← hname] at hsection
  simpa only [String.append_assoc, String.empty_append] using hsection

theorem isShown_text (backlog : Backlog) (colors : Bool) :
    backlog.IsShown colors (fun category => heaviestFirst (backlog.groups category))
      (backlog.text colors) := by
  have hshown := @IsShown.sections backlog colors
    (fun category => heaviestFirst (backlog.groups category)) _ _ _ _
    (isStyled_apply .dim colors _) (isStyled_apply .bold colors _)
    (backlog.isSection_categoryText colors .kernelPrimitive)
    (backlog.isSection_categoryText colors .platformService)
  have hsections : String.join (Category.all.map (backlog.categoryText colors))
      = backlog.categoryText colors .kernelPrimitive
        ++ backlog.categoryText colors .platformService := by
    simp [Category.all, String.join]
  unfold text heading rule line
  rw [hsections]
  simpa only [String.append_assoc, String.empty_append] using hshown

/-- How a backlog is shown. In the text every category has a section with all of its groups, each of
them once, by falling weight and, for equal weights, in report order. The section begins with the
number of the groups in it and has the lines about each of them. In the document, laid out line by
line, the groups of a category stand in report order, each as an object with all that it holds. -/
theorem groups_shown (backlog : Backlog) (colors : Bool) :
    (∃ shown : Category → List TaskGroup,
      (∀ category, Arranges (backlog.groups category) (shown category))
        ∧ backlog.IsShown colors shown (backlog.render colors .text))
      ∧ ∃ document : Json.Value, Json.IsPretty document (backlog.render colors .json).toList
        ∧ ∀ category, ∃ values,
          document.at? ["tasks", listKey category] = some (.array values)
            ∧ List.Forall₂ TaskGroup.IsWritten (backlog.groups category) values := by
  refine ⟨⟨fun category => heaviestFirst (backlog.groups category),
    fun category => arranges_heaviestFirst (backlog.groups category),
    backlog.isShown_text colors⟩, backlog.toJson, Json.isPretty_render _, fun category => ?_⟩
  refine ⟨(backlog.groups category).map TaskGroup.toJson, ?_, ?_⟩
  · cases category <;> rfl
  · rw [List.forall₂_map_right_iff, List.forall₂_same]
    exact fun group _ => group.isWritten_toJson

end Backlog

end RubricScore
