import RubricScore.Backlog.Document
import RubricScore.Proofs.Backlog.Batches

/-!
# What a backlog selects

A report and a rubric need not belong together. The backlog selects components of the report by
their scores alone, and joins each with the rubric entry of its name and category. What is missing
in the rubric is taken from the report; entries of the other category are never looked at.

## Main definitions

* `TaskGroup.namedBatches`: the functions that the tasks of a group name, task by task;
* `TaskGroup.Describes`: the group belongs to a component and to its rubric entry, if there is one;
* `Report.Selects`: the groups are those of the components below the threshold.

## Main results

* `Report.selects_taskGroups`: the task groups of a category are a selection;
* `Report.taskGroups_congr`: the rest of the rubric does not matter;
* `Report.backlog_exact`: the selection, the join and the counts of a backlog.
-/

namespace RubricScore

namespace TaskGroup

/-- The functions that the tasks of a group name, task by task; tasks without any are left out. -/
def namedBatches (group : TaskGroup) : List (List String) :=
  (group.tasks.map Task.functions).filter (· ≠ [])

/-- The group belongs to a component of a report and to its rubric entry, if there is one. -/
structure Describes (group : TaskGroup) (category : Category) (result : ComponentResult)
    (entry : Option Component) : Prop where
  /-- The category is that of the component. -/
  category : group.category = category
  /-- The score is that of the component. -/
  currentScore : group.currentScore = result.scores.overall
  /-- What the rubric says about the component goes first. -/
  known : ∀ component, entry = some component →
    group.weight = component.weight ∧ group.criticality = component.criticality
      ∧ group.description = component.description
      ∧ group.namedBatches = batches (component.manifest.getD [])
  /-- A component that the rubric does not have keeps what the report says. -/
  stray : entry = none →
    group.weight = result.weight ∧ group.criticality = result.criticality
      ∧ group.description = "" ∧ group.namedBatches = []

end TaskGroup

namespace ComponentResult

theorem map_functions_batchTasks (display : String) (priority : Criticality)
    (manifest : List String) :
    (batchTasks display priority manifest).map Task.functions = batches manifest := by
  apply List.ext_getElem
  · simp [batchTasks]
  · intro i _ _
    simp only [batchTasks, List.getElem_map, List.getElem_mapIdx]
    rfl

/-- The batches that a group names are those of the manifest of its rubric entry. -/
theorem namedBatches_taskGroup (name : String) (category : Category) (result : ComponentResult)
    (entry : Option Component) :
    (result.taskGroup name category entry).namedBatches
      = batches ((entry.bind Component.manifest).getD []) := by
  have hbatches : (batches ((entry.bind Component.manifest).getD [])).filter (· ≠ [])
      = batches ((entry.bind Component.manifest).getD []) :=
    List.filter_eq_self.2 fun functions hin => by simpa using ne_nil_of_mem_batches hin
  unfold TaskGroup.namedBatches taskGroup
  simp only [List.map_append, List.filter_append, map_functions_batchTasks, hbatches]
  -- The core task and the last two name no functions, so nothing is left of them.
  split <;> exact List.append_nil _

theorem describes_taskGroup (name : String) (category : Category) (result : ComponentResult)
    (entry : Option Component) :
    (result.taskGroup name category entry).Describes category result entry := by
  constructor
  case category => rfl
  case currentScore => rfl
  case known =>
    rintro component rfl
    exact ⟨rfl, rfl, rfl, namedBatches_taskGroup name category result (some component)⟩
  case stray =>
    rintro rfl
    refine ⟨rfl, rfl, rfl, ?_⟩
    rw [namedBatches_taskGroup]
    exact batches_nil

end ComponentResult

/-! ## Selection -/

namespace Report

theorem mem_below_iff {report : Report} {threshold : Binary64} {category : Category} {name : String}
    {result : ComponentResult} :
    (name, result) ∈ report.below threshold category ↔
      (report.results category).get? name = some result
        ∧ result.scores.overall.lt threshold := by
  rw [below, List.mem_filter, OrderedMap.get?_eq_some_iff]

variable (report : Report) (rubric : Rubric) (threshold : Binary64) (category : Category)

/-- The names of the groups are those of the selected entries. -/
theorem map_component_taskGroups :
    (report.taskGroups rubric threshold category).map TaskGroup.component
      = (report.below threshold category).map Prod.fst := by
  rw [taskGroups, List.map_map]
  rfl

/-- The groups are those of the components below the threshold. -/
structure Selects (groups : List TaskGroup) : Prop where
  /-- They stand in report order. -/
  inOrder : (groups.map TaskGroup.component).Sublist (report.results category).names
  /-- No component has two groups. -/
  once : (groups.map TaskGroup.component).Nodup
  /-- There is a group for every component below the threshold, and for no other. -/
  mem_iff : ∀ name, name ∈ groups.map TaskGroup.component ↔
    ∃ result, (report.results category).get? name = some result
      ∧ result.scores.overall.lt threshold
  /-- Every group belongs to the component of its name. -/
  describes : ∀ group ∈ groups,
    ∃ result, (report.results category).get? group.component = some result
      ∧ group.Describes category result (rubric.component? category group.component)

theorem selects_taskGroups :
    report.Selects rubric threshold category (report.taskGroups rubric threshold category) := by
  have hinOrder : ((report.taskGroups rubric threshold category).map
      TaskGroup.component).Sublist (report.results category).names := by
    rw [map_component_taskGroups]
    exact List.filter_sublist.map Prod.fst
  constructor
  case inOrder => exact hinOrder
  case once => exact hinOrder.nodup (report.results category).distinct
  case mem_iff =>
    intro name
    rw [map_component_taskGroups, List.mem_map]
    constructor
    · rintro ⟨⟨name, result⟩, hin, rfl⟩
      exact ⟨result, mem_below_iff.1 hin⟩
    · rintro ⟨result, hselected⟩
      exact ⟨(name, result), mem_below_iff.2 hselected, rfl⟩
  case describes =>
    intro group hgroup
    obtain ⟨⟨name, result⟩, hin, rfl⟩ := List.mem_map.1 hgroup
    exact ⟨result, (mem_below_iff.1 hin).1, result.describes_taskGroup name category _⟩

variable {rubric} in
/-- Rubrics that say the same about the selected components give the same groups. -/
theorem taskGroups_congr {other : Rubric}
    (h : ∀ entry ∈ report.below threshold category,
      other.component? category entry.1 = rubric.component? category entry.1) :
    report.taskGroups other threshold category = report.taskGroups rubric threshold category :=
  List.map_congr_left fun entry hin => by rw [h entry hin]

variable {threshold} in
/-- Nothing is below a threshold that is not a number. -/
theorem taskGroups_of_not_isNumber (h : threshold.isNumber = false) :
    report.taskGroups rubric threshold category = [] := by
  have hbelow : report.below threshold category = [] := by
    refine List.filter_eq_nil_iff.2 fun entry _ => ?_
    simp [Binary64.lt, h]
  rw [taskGroups, hbelow, List.map_nil]

/-- A backlog states how many groups it has. -/
theorem counts_backlog :
    (report.backlog rubric threshold).counts =
      let backlog := report.backlog rubric threshold
      ⟨.ofNat (backlog.groups .kernelPrimitive).length,
        .ofNat (backlog.groups .platformService).length,
        .ofNat ((backlog.groups .kernelPrimitive).length
          + (backlog.groups .platformService).length)⟩ := by
  dsimp only
  rw [UInt64.ofNat_add]
  rfl

/-- Whatever report and rubric are brought together, each category of the backlog has one group for
every component of the report below the threshold, in report order, and none if the threshold is not
a number. Every group belongs to the component of its name and to the rubric entry of this name and
category, if there is one; no other entry of the rubric matters. The backlog states how many groups
it has, and its document lists them with these counts and gives the scores and the file count of the
report. -/
theorem backlog_exact :
    report.Selects rubric threshold category ((report.backlog rubric threshold).groups category)
    ∧ (threshold.isNumber = false → (report.backlog rubric threshold).groups category = [])
    ∧ (∀ other : Rubric,
      (∀ name, other.component? category name = rubric.component? category name) →
      (report.backlog other threshold).groups category
        = (report.backlog rubric threshold).groups category)
    ∧ (report.backlog rubric threshold).counts =
      ⟨.ofNat ((report.backlog rubric threshold).groups .kernelPrimitive).length,
        .ofNat ((report.backlog rubric threshold).groups .platformService).length,
        .ofNat (((report.backlog rubric threshold).groups .kernelPrimitive).length
          + ((report.backlog rubric threshold).groups .platformService).length)⟩
    ∧ (report.backlog rubric threshold).toJson = .object
      [("metadata", .object
        [("threshold", .real threshold),
         ("kernel_score", .real report.summary.kernelScore),
         ("os_score", .real report.summary.platformScore),
         ("overall_score", .real report.summary.overallScore),
         ("total_files_scanned", .word report.summary.filesScanned)]),
       ("tasks", .object
        [("kernel_primitives", .array
          (((report.backlog rubric threshold).groups .kernelPrimitive).map TaskGroup.toJson)),
         ("os_services", .array
          (((report.backlog rubric threshold).groups .platformService).map TaskGroup.toJson))]),
       ("summary", .object
        [("kernel_components_needing_work",
          .word (.ofNat ((report.backlog rubric threshold).groups .kernelPrimitive).length)),
         ("os_components_needing_work",
          .word (.ofNat ((report.backlog rubric threshold).groups .platformService).length)),
         ("total_components",
          .word (.ofNat (((report.backlog rubric threshold).groups .kernelPrimitive).length
            + ((report.backlog rubric threshold).groups .platformService).length)))])] := by
  have hcounts := counts_backlog report rubric threshold
  refine ⟨?_, fun hthreshold => ?_, fun other hagree => ?_, hcounts, ?_⟩
  · rw [groups_backlog]
    exact report.selects_taskGroups rubric threshold category
  · rw [groups_backlog]
    exact report.taskGroups_of_not_isNumber rubric category hthreshold
  · rw [groups_backlog, groups_backlog]
    exact report.taskGroups_congr threshold category fun entry _ => hagree entry.1
  · rw [Backlog.toJson, hcounts]
    rfl

/-- A report on a component in which nothing was found. -/
def idle : Report where
  kernelPrimitives := OrderedMap.empty.insert "boot"
    ⟨"boot", 2, Criticality.high, ⟨0, 0, .empty⟩, ⟨0, 4, 0⟩, ⟨0, 9, 0⟩, ⟨0, 0, 0, 0⟩⟩
  platformServices := .empty
  summary := ⟨0, 0, 0, 1⟩

/-- A rubric that has a component of this name in the other category. -/
def crossed : Rubric where
  metadata := .null
  kernelPrimitives := .empty
  platformServices := OrderedMap.empty.insert "boot"
    ⟨5, .low, "Start of the system", ["boot"], 4, 9, some ["a", "b", "c", "d"]⟩

/-- The backlog of a component that the rubric has in the other category only. -/
theorem backlog_exact_crossed :
    (Binary64.notANumber.isNumber = false
      ∧ (idle.backlog crossed .notANumber).groups .kernelPrimitive = [])
    ∧ "boot" ∈ ((idle.backlog crossed 70).groups .kernelPrimitive).map TaskGroup.component
    ∧ (∀ group ∈ (idle.backlog crossed 70).groups .kernelPrimitive,
      ∃ result, (idle.results .kernelPrimitive).get? group.component = some result
        ∧ group.weight = result.weight ∧ group.namedBatches = [])
    ∧ (idle.backlog ⟨.null, .empty, .empty⟩ 70).groups .kernelPrimitive
      = (idle.backlog crossed 70).groups .kernelPrimitive := by
  obtain ⟨hselects, -, hcongr, -⟩ := idle.backlog_exact crossed 70 .kernelPrimitive
  refine ⟨⟨rfl, ?_⟩, ?_, fun group hgroup => ?_, ?_⟩
  · exact (idle.backlog_exact crossed .notANumber .kernelPrimitive).2.1 rfl
  · exact (hselects.mem_iff "boot").2 ⟨_, rfl, by decide +kernel⟩
  · obtain ⟨result, hresult, hdescribes⟩ := hselects.describes group hgroup
    obtain ⟨hweight, -, -, hbatches⟩ := hdescribes.stray rfl
    exact ⟨result, hresult, hweight, hbatches⟩
  · exact hcongr _ fun _ => rfl

end Report

end RubricScore
