import Mathlib.Data.List.Nodup
import RubricScore.Proofs.Backlog.Agreement

/-!
# Roles of tasks

Every task of a group has a role, which its title tells: to implement what is missing, to implement
one batch of the manifest, to test, or to document. The titles of a group say which roles there are
and in which order, and no two of its tasks have the same one.

## Main definitions

* `TaskRole`, `TaskRole.title`: the roles, and the titles that stand for them;
* `TaskRole.inGroup`: the roles in a group, in order;
* `Task.NamesFirst`: the description of a task names the first of its functions;
* `TaskGroup.Covers`: the tasks and the gaps of a group are those of a component.

## Main results

* `TaskRole.title_inj`: a title tells the role;
* `ComponentResult.taskGroup_covers`: the group of a component covers it.
-/

namespace RubricScore

/-- What a task of a group is there for. -/
inductive TaskRole where
  /-- To implement the functions that are missing to the target. -/
  | core
  /-- To implement one batch of functions; the batches are numbered from one. -/
  | batch (index count : Nat)
  /-- To test the component. -/
  | testing
  /-- To document it. -/
  | documentation

namespace TaskRole

/-- The title of the task with a role, for a component with this name in running text. -/
def title (display : String) : TaskRole → String
  | .core => "Implement core " ++ display ++ " functionality"
  | .batch index count =>
    "Implement " ++ display ++ " functions (batch " ++ toString index ++ "/" ++ toString count
      ++ ")"
  | .testing => "Add tests for " ++ display
  | .documentation => "Document " ++ display ++ " implementation"

@[simp]
theorem title_core (display : String) :
    core.title display = "Implement core " ++ display ++ " functionality" :=
  rfl

@[simp]
theorem title_batch (display : String) (index count : Nat) :
    (batch index count).title display
      = "Implement " ++ display ++ " functions (batch " ++ toString index ++ "/" ++ toString count
        ++ ")" :=
  rfl

@[simp]
theorem title_testing (display : String) : testing.title display = "Add tests for " ++ display :=
  rfl

@[simp]
theorem title_documentation (display : String) :
    documentation.title display = "Document " ++ display ++ " implementation" :=
  rfl

/-- The roles in the group of a component with so many batches, in order. -/
def inGroup (result : ComponentResult) (batchCount : Nat) : List TaskRole :=
  (if result.functions.found < result.functions.target then [.core] else [])
    ++ (List.range' 1 batchCount).map (fun index => .batch index batchCount)
    ++ [.testing, .documentation]

/-! ## Titles -/

/-- Different numbers are written differently. -/
theorem eq_of_toDigits_eq {m n : Nat} (h : Nat.toDigits 10 m = Nat.toDigits 10 n) : m = n := by
  rw [← Nat.ofDigitChars_ten_toDigits (n := m), h, Nat.ofDigitChars_ten_toDigits]

/-- The two numbers of a batch can be told apart. -/
theorem numbers_inj {i j m n : Nat}
    (h : toString i ++ "/" ++ toString m = toString j ++ "/" ++ toString n) : i = j ∧ m = n := by
  have hslash (k : Nat) : '/' ∉ Nat.toDigits 10 k := fun hin =>
    absurd (Nat.isDigit_of_mem_toDigits (by decide) (by decide) hin) (by decide)
  have hlist : Nat.toDigits 10 i ++ '/' :: Nat.toDigits 10 m
      = Nat.toDigits 10 j ++ '/' :: Nat.toDigits 10 n := by
    simpa [Nat.toString_eq_repr] using congrArg String.toList h
  obtain ⟨hi, -, hm⟩ := (List.append_cons_inj_of_notMem (hslash i) (hslash m)).1 hlist
  exact ⟨eq_of_toDigits_eq hi, eq_of_toDigits_eq hm⟩

theorem title_batch_inj {display : String} {i j m n : Nat}
    (h : (batch i m).title display = (batch j n).title display) : i = j ∧ m = n := by
  simp only [title_batch, String.append_left_inj] at h
  simp only [String.append_assoc, String.append_right_inj] at h
  exact numbers_inj (by simpa only [String.append_assoc] using h)

/-- The titles of the core task and of a batch end differently. -/
theorem title_core_ne_title_batch (display : String) (index count : Nat) :
    core.title display ≠ (batch index count).title display := by
  intro h
  have hlast := congrArg (fun text => text.toList.getLast?) h
  simp [List.getLast?_cons, List.getLast?_append] at hlast

/-- A title tells the role. -/
theorem title_inj {display : String} {role other : TaskRole} :
    role.title display = other.title display ↔ role = other := by
  refine ⟨fun h => ?_, fun h => h ▸ rfl⟩
  -- All other pairs of roles differ in their first character.
  have hfirst := congrArg (fun text => text.toList.head?) h
  cases role <;> cases other
  case core.core => rfl
  case testing.testing => rfl
  case documentation.documentation => rfl
  case core.batch index count => exact absurd h (title_core_ne_title_batch display index count)
  case batch.core index count => exact absurd h.symm (title_core_ne_title_batch display index count)
  case batch.batch =>
    obtain ⟨rfl, rfl⟩ := title_batch_inj h
    rfl
  all_goals simp at hfirst

/-! ## Roles in a group -/

theorem core_mem_inGroup_iff {result : ComponentResult} {batchCount : Nat} :
    core ∈ inGroup result batchCount ↔ result.functions.found < result.functions.target := by
  unfold inGroup
  split <;> simp_all

theorem batch_mem_inGroup_iff {result : ComponentResult} {batchCount index count : Nat} :
    batch index count ∈ inGroup result batchCount
      ↔ 1 ≤ index ∧ index ≤ batchCount ∧ count = batchCount := by
  unfold inGroup
  split <;> simp [List.mem_range'_1] <;> omega

/-- No role stands twice in a group. -/
theorem nodup_inGroup (result : ComponentResult) (batchCount : Nat) :
    (inGroup result batchCount).Nodup := by
  have hbatches : ((List.range' 1 batchCount).map fun index => batch index batchCount).Nodup :=
    List.Nodup.map (fun i j h => (batch.inj h).1) List.nodup_range'
  unfold inGroup
  split <;> simp [List.nodup_append, hbatches] <;> grind

end TaskRole

/-! ## Groups -/

/-- The description of a task names the first of its functions, at most five of them, and dots stand
for the others. -/
def Task.NamesFirst (task : Task) : Prop :=
  ∃ named, named <+: task.functions ∧ named.length = min 5 task.functions.length
    ∧ task.description = "Implement the following functions: " ++ ", ".intercalate named
      ++ (if 5 < task.functions.length then "..." else "")

/-- The tasks and the gaps of a group are those of a component, of which a name, a result and a
manifest are known. -/
structure TaskGroup.Covers (group : TaskGroup) (name : String) (result : ComponentResult)
    (manifest : List String) : Prop where
  /-- The titles tell the roles, in order. -/
  titles : group.tasks.map Task.title
    = (TaskRole.inGroup result (batches manifest).length).map (TaskRole.title (displayName name))
  /-- No two tasks have the same role. -/
  distinct : (group.tasks.map Task.title).Nodup
  /-- There is a core task just when functions are missing. -/
  core_iff : (∃ task ∈ group.tasks, task.title = TaskRole.core.title (displayName name))
    ↔ result.functions.found < result.functions.target
  /-- There is a task for every batch, and for no other number. -/
  batch_iff : ∀ index count,
    (∃ task ∈ group.tasks, task.title = (TaskRole.batch index count).title (displayName name))
      ↔ 1 ≤ index ∧ index ≤ count ∧ count = (batches manifest).length
  /-- Without any functions in the manifest there is no task for a batch. -/
  idle : manifest = [] → ∀ task ∈ group.tasks, ∀ index count,
    task.title ≠ (TaskRole.batch index count).title (displayName name)
  /-- The task of a batch has its functions, and the description names the first of them. -/
  batch : ∀ task ∈ group.tasks, ∀ index count,
    task.title = (TaskRole.batch index count).title (displayName name) →
      (batches manifest)[index - 1]? = some task.functions ∧ task.NamesFirst
  /-- No other task has functions. -/
  other : ∀ task ∈ group.tasks,
    (∀ index count, task.title ≠ (TaskRole.batch index count).title (displayName name)) →
      task.functions = []
  /-- The functions of all tasks together are the manifest. -/
  functions : group.tasks.flatMap Task.functions = manifest
  /-- What the functions found lack to their target; nothing if there are more. -/
  functionsGap : group.gap.functions.toNat
    = result.functions.target.toNat - result.functions.found.toNat
  /-- What the source lines found lack to their target; nothing if there are more. -/
  slocGap : group.gap.sloc.toNat = result.sloc.target.toNat - result.sloc.found.toNat

/-- The description of the task for a batch names the first of its functions. -/
theorem Task.namesFirst_batch (display : String) (index count : Nat) (functions : List String)
    (priority : Criticality) : (Task.batch display index count functions priority).NamesFirst :=
  ⟨functions.take 5, List.take_prefix 5 functions, List.length_take, rfl⟩

namespace ComponentResult

/-- The titles of the tasks for the batches tell their numbers. -/
theorem map_title_batchTasks (display : String) (priority : Criticality) (manifest : List String) :
    (batchTasks display priority manifest).map Task.title
      = ((List.range' 1 (batches manifest).length).map fun index =>
          TaskRole.batch index (batches manifest).length).map (TaskRole.title display) := by
  apply List.ext_getElem
  · simp [batchTasks]
  · intro i _ _
    simp only [batchTasks, List.getElem_map, List.getElem_mapIdx, List.getElem_range', Nat.one_mul,
      Nat.add_comm 1 i]
    rfl

variable (name : String) (category : Category) (result : ComponentResult) (entry : Option Component)

/-- The titles in a group tell the roles. -/
theorem map_title_taskGroup :
    (result.taskGroup name category entry).tasks.map Task.title
      = (TaskRole.inGroup result (batches ((entry.bind Component.manifest).getD [])).length).map
        (TaskRole.title (displayName name)) := by
  unfold taskGroup TaskRole.inGroup
  simp only [List.map_append, map_title_batchTasks, Measure.gap_pos_iff]
  split <;> rfl

/-- The functions of all tasks together are the manifest of the rubric entry. -/
theorem flatMap_functions_taskGroup :
    (result.taskGroup name category entry).tasks.flatMap Task.functions
      = (entry.bind Component.manifest).getD [] := by
  have hnamed := result.namedBatches_taskGroup name category entry
  rw [TaskGroup.namedBatches] at hnamed
  rw [List.flatMap_def, ← List.flatten_filter_ne_nil, hnamed, flatten_batches]

/-- A task of a group either has a role without functions, or is made for a batch. -/
theorem cases_of_mem_tasks {task : Task}
    (htask : task ∈ (result.taskGroup name category entry).tasks) :
    (∃ role, task.title = TaskRole.title (displayName name) role
      ∧ (∀ index count, role ≠ .batch index count) ∧ task.functions = [])
    ∨ ∃ index count functions priority,
      (batches ((entry.bind Component.manifest).getD []))[index - 1]? = some functions
        ∧ task = Task.batch (displayName name) index count functions priority := by
  unfold taskGroup at htask
  rcases List.mem_append.1 htask with hfront | hback
  · rcases List.mem_append.1 hfront with hcore | hbatch
    · split at hcore
      · obtain rfl := List.mem_singleton.1 hcore
        exact .inl ⟨.core, rfl, by simp, rfl⟩
      · exact absurd hcore List.not_mem_nil
    · obtain ⟨i, hi, rfl⟩ := List.mem_mapIdx.1 hbatch
      exact .inr ⟨i + 1, _, _, _, List.getElem?_eq_getElem hi, rfl⟩
  · rcases List.mem_pair.1 hback with rfl | rfl
    · exact .inl ⟨.testing, rfl, by simp, rfl⟩
    · exact .inl ⟨.documentation, rfl, by simp, rfl⟩

/-- There is a task for every role in a group, and for no other. -/
theorem exists_title_iff (role : TaskRole) :
    (∃ task ∈ (result.taskGroup name category entry).tasks,
        task.title = role.title (displayName name))
      ↔ role ∈ TaskRole.inGroup result
          (batches ((entry.bind Component.manifest).getD [])).length := by
  rw [← List.mem_map, map_title_taskGroup, List.mem_map]
  simp only [TaskRole.title_inj, exists_eq_right]

theorem exists_title_batch_iff (index count : Nat) :
    (∃ task ∈ (result.taskGroup name category entry).tasks,
        task.title = (TaskRole.batch index count).title (displayName name))
      ↔ 1 ≤ index ∧ index ≤ count
        ∧ count = (batches ((entry.bind Component.manifest).getD [])).length := by
  rw [exists_title_iff, TaskRole.batch_mem_inGroup_iff]
  constructor <;> rintro ⟨hpos, hle, rfl⟩ <;> exact ⟨hpos, hle, rfl⟩

/-- The group of a component covers it, whatever its name, its category and its counts are, with a
rubric entry or without one. -/
theorem taskGroup_covers :
    (result.taskGroup name category entry).Covers name result
      ((entry.bind Component.manifest).getD []) := by
  have htitles := result.map_title_taskGroup name category entry
  constructor
  case titles => exact htitles
  case distinct =>
    rw [htitles]
    exact (TaskRole.nodup_inGroup result _).map fun _ _ => TaskRole.title_inj.1
  case core_iff =>
    exact (result.exists_title_iff name category entry .core).trans TaskRole.core_mem_inGroup_iff
  case batch_iff => exact result.exists_title_batch_iff name category entry
  case idle =>
    -- Without a name in the manifest there is no batch that a title could speak of.
    intro hnil task htask index count htitle
    obtain ⟨hpos, hle, hcount⟩ :=
      (result.exists_title_batch_iff name category entry index count).1 ⟨task, htask, htitle⟩
    rw [hnil, batches_nil, List.length_nil] at hcount
    omega
  case batch =>
    intro task htask index count htitle
    rcases result.cases_of_mem_tasks name category entry htask with
      ⟨role, hrole, hother, -⟩ | ⟨i, n, functions, priority, hbatch, rfl⟩
    · -- No other role has the title of a batch.
      exact absurd (TaskRole.title_inj.1 (hrole.symm.trans htitle)) (hother index count)
    · obtain ⟨rfl, rfl⟩ := TaskRole.title_batch_inj htitle
      exact ⟨hbatch, Task.namesFirst_batch _ i n functions priority⟩
  case other =>
    intro task htask hother
    rcases result.cases_of_mem_tasks name category entry htask with
      ⟨-, -, -, hnone⟩ | ⟨i, n, functions, priority, -, rfl⟩
    · exact hnone
    · exact absurd rfl (hother i n)
  case functions => exact result.flatMap_functions_taskGroup name category entry
  case functionsGap => exact result.functions.toNat_gap
  case slocGap => exact result.sloc.toNat_gap

end ComponentResult

end RubricScore
