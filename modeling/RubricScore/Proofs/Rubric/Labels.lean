import RubricScore.Proofs.Backlog.Agreement
import RubricScore.Proofs.Criticality
import RubricScore.Proofs.Report.HandOff
import RubricScore.Proofs.Rubric.Rearrangement

/-!
# Labels travel verbatim

What the document of a rubric has as the label of a component, a standard one or not, is the label in
the report, before and after the report is written and read, and the priority of every task for the
component but the one to test it.

## Main definitions

* `Component.WritesLabel`, `Rubric.WritesLabel`: the document of a component, or of a rubric for a
  component, has a string as its label;
* `TaskGroup.Labelled`: what the label of a task group is copied to.

## Main results

* `Criticality.decode_read`: the document of a string is read as the label that the string is;
* `Rubric.exists_component_of_writesLabel`: a written label is that of the component;
* `ComponentResult.labelled_taskGroup`: a task group is labelled like its rubric entry;
* `Rubric.labels_verbatim`: a written label is found in the report and in every task group.
-/

namespace RubricScore

open Json (Node Quoted)

/-! ## Reading -/

/-- The document of a string is read as the label that the string is, however it is written. -/
theorem Criticality.decode_read {text : List Char} {quoted : Quoted} {criticality : Criticality}
    (h : quoted.text = .ok criticality.label) (hdocument : Json.IsDocument (.string quoted) text) :
    Json.decode Criticality.read text = .ok criticality := by
  rw [Json.decode, Json.ofText_of_isDocument hdocument, read_string h]
  rfl

namespace Component

/-- The document of a component has a label. -/
inductive WritesLabel : Node → String → Prop
  /-- In a component that is an object. -/
  | member {members : List (Quoted × Node)} {cut : Option Json.Break} {key quoted : Quoted}
    {label : String} (hmember : (key, Node.string quoted) ∈ members)
    (hkey : key.text = .ok "criticality") (hlabel : quoted.text = .ok label) :
    WritesLabel (.object members cut) label
  /-- In a component that is the list of its fields. -/
  | position {weight : Node} {fields : List Node} {cut : Option Json.Break} {quoted : Quoted}
    {label : String} (hlabel : quoted.text = .ok label) :
    WritesLabel (.array (weight :: .string quoted :: fields) cut) label

/-- The label of a component is the one that its document has. -/
theorem criticality_of_writesLabel {room : Nat} {node : Node} {component : Component}
    (h : read room node = .ok component) {label : String} (hlabel : WritesLabel node label) :
    component.criticality.label = label := by
  cases hlabel with
  | member hmember hkey hlabel =>
    obtain ⟨written, rfl⟩ := Criticality.exists_label label
    obtain ⟨inner, change, start, -, hread, rfl⟩ :=
      Json.exists_read_of_mem independent_fields h hmember (f := shape.fields[1]) hkey rfl
    obtain ⟨criticality, hcriticality, rfl⟩ := map_eq_ok_iff.1 hread
    rw [Criticality.read_string hlabel] at hcriticality
    exact congrArg Criticality.label (Except.ok.inj hcriticality).symm
  | position hlabel =>
    obtain ⟨written, rfl⟩ := Criticality.exists_label label
    obtain ⟨inner, -, h⟩ := Json.enter_eq_ok_iff.1 h
    obtain ⟨weigh, -, h⟩ := bind_eq_ok_iff.1 h
    obtain ⟨change, hread, h⟩ := bind_eq_ok_iff.1 h
    obtain ⟨criticality, hcriticality, rfl⟩ := map_eq_ok_iff.1 hread
    rw [Criticality.read_string hlabel] at hcriticality
    -- None of the fields after it changes the label.
    have hfields : ∀ f ∈ shape.fields.drop 2,
        f.Keeps fun component : Component => component.criticality = written := by
      simp only [shape, List.drop, List.forall_mem_cons, List.not_mem_nil, false_imp_iff,
        implies_true, and_true]
      repeat' apply And.intro
      all_goals
        apply Json.Field.Keeps.of_forall
        exact fun _ _ h => h
    have hkept := Json.keeps_readPositions hfields h (Except.ok.inj hcriticality).symm
    exact congrArg Criticality.label hkept

end Component

/-- The document of a rubric has a label for the component of a name: the last one that is written
under this name in the section of the category. -/
inductive Rubric.WritesLabel (node : Node) (category : Category) (name label : String) : Prop
  /-- No later member of the section has the name. -/
  | last {before after : List (Quoted × Node)} {member : Quoted × Node}
    (hsection : HasSection node category (before ++ member :: after))
    (hname : member.1.text = .ok name) (hlast : ∀ other ∈ after, other.1.text ≠ .ok name)
    (hlabel : Component.WritesLabel member.2 label)

/-- The component of a name has the label that is written for it. -/
theorem Rubric.exists_component_of_writesLabel {room : Nat} {node : Node} {rubric : Rubric}
    (h : read room node = .ok rubric) {category : Category} {name label : String}
    (hlabel : WritesLabel node category name label) :
    ∃ component, rubric.component? category name = some component
      ∧ component.criticality.label = label := by
  obtain ⟨hsection, hname, hlast, hlabel⟩ := hlabel
  obtain ⟨inner, pairs, -, hpairs, hcomponents⟩ := components_of_hasSection h hsection
  obtain ⟨first, ⟨name', component⟩, last, rfl, hname', hread, hafter⟩ := hpairs.split
  obtain rfl := Except.ok.inj (hname'.symm.trans hname)
  have hnot : name' ∉ last.map Prod.fst := by
    intro hin
    obtain ⟨other, hother, htext⟩ := hafter.exists_mem hin
    exact hlast other hother htext
  refine ⟨component, ?_, Component.criticality_of_writesLabel hread hlabel⟩
  rw [component?, hcomponents, OrderedMap.get?_ofList_append hnot]

/-! ## Reports -/

/-- The result of a component has its label. -/
theorem Rubric.exists_result {rubric : Rubric} {category : Category} {name : String}
    {component : Component} (h : rubric.component? category name = some component)
    (corpus : Corpus) :
    ∃ result, ((rubric.evaluate corpus).results category).get? name = some result
      ∧ result.criticality = component.criticality := by
  rw [get?_results_evaluate, h]
  exact ⟨_, rfl, rfl⟩

/-- Changing the floats of a report and naming its results keeps the labels. -/
theorem Report.exists_result_named {report : Report} {category : Category} {name : String}
    {result : ComponentResult} (h : (report.results category).get? name = some result)
    (f : Binary64 → Binary64) :
    ∃ changed, ((report.mapFloats f).named.results category).get? name = some changed
      ∧ changed.criticality = result.criticality := by
  refine ⟨(result.mapFloats f).named name, ?_, ?_⟩
  · rw [OrderedMap.get?_eq_some_iff] at h ⊢
    rw [Report.entries_results_named]
    exact List.mem_map_of_mem (f := fun entry => (entry.1, (entry.2.mapFloats f).named entry.1)) h
  · unfold ComponentResult.named
    split <;> rfl

/-! ## Task groups -/

/-- The label of a group and the priorities of its tasks. -/
structure TaskGroup.Labelled (group : TaskGroup) (label : String) : Prop where
  /-- The group has the label. -/
  criticality : group.criticality.label = label
  /-- So has every task but the one to test the component, which is urgent. -/
  tasks : ∃ core batches testing documentation,
    group.tasks = core ++ batches ++ [testing, documentation]
      ∧ (core = [] ∨ ∃ subject result missing,
        core = [Task.core (displayName group.component) subject result missing group.criticality])
      ∧ (∃ manifest,
        batches
          = ComponentResult.batchTasks (displayName group.component) group.criticality manifest)
      ∧ testing = Task.testing (displayName group.component)
      ∧ documentation = Task.documentation (displayName group.component) group.criticality
      ∧ (∀ task ∈ core ++ batches, task.priority.label = label)
      ∧ testing.priority.label = "high" ∧ documentation.priority.label = label

theorem ComponentResult.priority_of_mem_batchTasks {display : String} {priority : Criticality}
    {manifest : List String} {task : Task} (h : task ∈ batchTasks display priority manifest) :
    task.priority = priority := by
  obtain ⟨i, hi, rfl⟩ := List.mem_iff_getElem.1 h
  simp only [batchTasks, List.getElem_mapIdx]
  rfl

/-- The group of a component with a rubric entry is labelled like the entry. -/
theorem ComponentResult.labelled_taskGroup (name : String) (category : Category)
    (result : ComponentResult) (component : Component) :
    (result.taskGroup name category (some component)).Labelled component.criticality.label := by
  refine ⟨rfl, _, _, _, _, rfl, ?_, ⟨_, rfl⟩, rfl, rfl, ?_, rfl, rfl⟩
  · split
    · exact .inr ⟨_, _, _, rfl⟩
    · exact .inl rfl
  · intro task htask
    rcases List.mem_append.1 htask with hcore | hbatch
    · split at hcore
      · rw [List.mem_singleton.1 hcore]
        rfl
      · exact absurd hcore List.not_mem_nil
    · exact congrArg Criticality.label (priority_of_mem_batchTasks hbatch)

/-- Every group under the name of a component is labelled like the component. -/
theorem Report.labelled_of_mem_groups {report : Report} {rubric : Rubric} {threshold : Binary64}
    {category : Category} {group : TaskGroup}
    (h : group ∈ (report.backlog rubric threshold).groups category) {component : Component}
    (hcomponent : rubric.component? category group.component = some component) :
    group.Labelled component.criticality.label := by
  rw [groups_backlog, taskGroups] at h
  obtain ⟨entry, -, rfl⟩ := List.mem_map.1 h
  have hname : rubric.component? category entry.1 = some component := hcomponent
  rw [hname]
  exact ComponentResult.labelled_taskGroup entry.1 category entry.2 component

/-! ## From the rubric to the tasks -/

/-- The document of a string is read as the label that the string is, and is written as the string
again, so that different strings are different labels. The label that an accepted rubric has for a
component is the label of this component in every report that is made with the rubric, also after
the report was written and read, and the group of the component in every backlog is labelled with
it. -/
theorem Rubric.labels_verbatim :
    (∀ label quoted text, Quoted.text quoted = .ok label → Json.IsDocument (.string quoted) text →
      ∃ criticality, Json.decode Criticality.read text = .ok criticality
        ∧ criticality.label = label ∧ criticality.toJson = .string label
        ∧ Json.decode Criticality.read criticality.toJson.text = .ok criticality)
    ∧ (∀ label label' quoted quoted' text text', Quoted.text quoted = .ok label →
      Quoted.text quoted' = .ok label' → Json.IsDocument (.string quoted) text →
      Json.IsDocument (.string quoted') text' → label ≠ label' →
      Json.decode Criticality.read text ≠ Json.decode Criticality.read text')
    ∧ ∀ path text rubric node category name label, ofText path text = .ok rubric →
      Json.IsDocument node text → WritesLabel node category name label → ∀ corpus,
        (∃ result, ((rubric.evaluate corpus).results category).get? name = some result
          ∧ result.criticality.label = label)
        ∧ ∃ reread, Report.ofText (rubric.evaluate corpus).toJson.text = .ok reread
          ∧ (∃ result, (reread.results category).get? name = some result
            ∧ result.criticality.label = label)
          ∧ ∀ report ∈ [rubric.evaluate corpus, reread], ∀ threshold,
            ∀ group ∈ (report.backlog rubric threshold).groups category,
              group.component = name → group.Labelled label := by
  refine ⟨fun label quoted text hquoted hdocument => ?_,
    fun label label' quoted quoted' text text' hquoted hquoted' hdocument hdocument' hne heq => ?_,
    fun path text rubric node category name label htext hnode hlabel corpus => ?_⟩
  · obtain ⟨criticality, rfl⟩ := Criticality.exists_label label
    refine ⟨criticality, Criticality.decode_read hquoted hdocument, rfl, criticality.toJson_eq, ?_⟩
    rw [criticality.toJson_eq]
    exact Criticality.decode_read (Json.text_quoted _) (Json.isDocument_text (.string _))
  · obtain ⟨criticality, rfl⟩ := Criticality.exists_label label
    obtain ⟨criticality', rfl⟩ := Criticality.exists_label label'
    rw [Criticality.decode_read hquoted hdocument, Criticality.decode_read hquoted' hdocument'] at heq
    exact hne (Criticality.label_inj.2 (Except.ok.inj heq))
  · have hread := read_of_ofText htext hnode
    obtain ⟨component, hcomponent, hcriticality⟩ := exists_component_of_writesLabel hread hlabel
    obtain ⟨result, hresult, hlabelled⟩ := exists_result hcomponent corpus
    -- Reading a report again changes floats only.
    obtain ⟨changed, hchanged, hkept⟩ := Report.exists_result_named hresult afterReading
    refine ⟨⟨result, hresult, ?_⟩, _, ofText_toJson_evaluate (validate_of_ofText htext) corpus,
      ⟨changed, hchanged, ?_⟩, fun report _ threshold group hgroup hname => ?_⟩
    · rw [hlabelled, hcriticality]
    · rw [hkept, hlabelled, hcriticality]
    · subst hname
      have hgroup := Report.labelled_of_mem_groups hgroup hcomponent
      rwa [hcriticality] at hgroup

/-- A component with a label that is nearly a standard one and needs escapes. -/
def nearlyHighBoot : Json.Value :=
  .object
    [("weight", .word 1), ("criticality", .string "High\t\"A\""),
     ("evidence_cues", .strings ["boot"]), ("target_functions", .word 2), ("target_sloc", .word 10),
     ("manifest_functions", .strings ["map", "jump"])]

/-- A rubric with this component. -/
def nearlyHigh : Json.Value :=
  .object [("kernel_primitives", .object [("boot", nearlyHighBoot)]),
    ("os_platform_services", .object [])]

/-- The components that get tasks when the rubric and a report on nothing have been written and
read. -/
def bootTasks : Option (List String) := do
  let rubric ← (Rubric.ofText ⟨"rubric.json"⟩ nearlyHigh.text).toOption
  let report ← (Report.ofText (rubric.evaluate .empty).toJson.text).toOption
  return ((report.backlog rubric 70).groups .kernelPrimitive).map TaskGroup.component

/-- The label is found in the tasks that are made from the report that was read. -/
theorem Rubric.labels_verbatim_boot :
    ∃ rubric report, ofText ⟨"rubric.json"⟩ nearlyHigh.text = .ok rubric
      ∧ Report.ofText (rubric.evaluate .empty).toJson.text = .ok report
      ∧ ∃ group ∈ (report.backlog rubric 70).groups .kernelPrimitive,
        group.component = "boot" ∧ group.Labelled "High\t\"A\"" := by
  have hreads : (ofText ⟨"rubric.json"⟩ nearlyHigh.text).isOk ∧ bootTasks = some ["boot"] := by
    decide +kernel
  obtain ⟨rubric, hrubric⟩ := isOk_iff.1 hreads.1
  have hlabel : WritesLabel nearlyHigh.node .kernelPrimitive "boot" "High\t\"A\"" := by
    have hsection : HasSection nearlyHigh.node .kernelPrimitive
        ([] ++ [Json.memberNode ("boot", nearlyHighBoot)]) :=
      .member List.mem_cons_self (Json.text_quoted "kernel_primitives")
    refine .last hsection (Json.text_quoted "boot") nofun ?_
    exact .member (List.mem_cons_of_mem _ List.mem_cons_self) (Json.text_quoted "criticality")
      (Json.text_quoted _)
  -- Only that the component gets tasks at all is computed.
  obtain ⟨-, report, hreport, -, hgroups⟩ := labels_verbatim.2.2 _ _ _ _ _ _ _ hrubric
    (Json.isDocument_text nearlyHigh) hlabel .empty
  have htasks : ((report.backlog rubric 70).groups .kernelPrimitive).map TaskGroup.component
      = ["boot"] := by
    have hboot := hreads.2
    rw [bootTasks, hrubric] at hboot
    simp only [Except.toOption, Option.bind_eq_bind, Option.bind_some, hreport] at hboot
    exact Option.some.inj hboot
  have hmem : "boot" ∈ ((report.backlog rubric 70).groups .kernelPrimitive).map TaskGroup.component :=
    htasks ▸ List.mem_cons_self
  obtain ⟨group, hgroup, hname⟩ := List.mem_map.1 hmem
  exact ⟨rubric, report, hrubric, hreport, group, hgroup, hname,
    hgroups report (by simp) 70 group hgroup hname⟩

end RubricScore
