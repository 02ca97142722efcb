import RubricScore.Backlog.Document
import RubricScore.Proofs.Backlog.Selection
import RubricScore.Proofs.CommandLine.Effects
import RubricScore.Proofs.Json.Finiteness
import RubricScore.Proofs.Report.HandOff

/-!
# Written documents hold finite numbers only

A number that is not finite would be written as `null` and could not be read back. Reports and
backlogs hold no such number: a rubric with one is not accepted, scores are bounded, no numeral of a
report stands for one, and a threshold that is infinite or not a number is refused, wherever it comes
from.

## Main definitions

* `AllFinite`: the numbers of a list are finite;
* `Json.Value.reals`: the floating-point numbers of a document.

## Main results

* `Report.reals_toJson`, `Backlog.reals_toJson`: the numbers of the two documents;
* `Report.allFinite_of_ofText`: the numbers of a report that was read are finite;
* `Report.allFinite_backlog`: so are those of its backlogs;
* `Workspace.documents_allFinite`: the numbers of all documents that are written.
-/

namespace RubricScore

/-- The numbers are finite. -/
def AllFinite (xs : List Binary64) : Prop :=
  ∀ x ∈ xs, x.isFinite

theorem allFinite_append {xs ys : List Binary64} :
    AllFinite (xs ++ ys) ↔ AllFinite xs ∧ AllFinite ys :=
  List.forall_mem_append

theorem allFinite_flatMap {α : Type} {f : α → List Binary64} {items : List α} :
    AllFinite (items.flatMap f) ↔ ∀ item ∈ items, AllFinite (f item) := by
  constructor
  · intro h item hitem x hx
    exact h x (List.mem_flatMap.2 ⟨item, hitem, hx⟩)
  · intro h x hx
    obtain ⟨item, hitem, hx⟩ := List.mem_flatMap.1 hx
    exact h item hitem x hx

/-! ## The numbers of a document -/

namespace Json

mutual

/-- The floating-point numbers of a value, in document order. -/
def Value.reals : Value → List Binary64
  | .null => []
  | .bool _ => []
  | .number (.natural _) => []
  | .number (.negative _) => []
  | .number (.real x) => [x]
  | .string _ => []
  | .array items => itemsReals items
  | .object members => membersReals members

/-- The floating-point numbers of the elements of a list. -/
def itemsReals : List Value → List Binary64
  | [] => []
  | item :: items => item.reals ++ itemsReals items

/-- The floating-point numbers of a member. -/
def memberReals : String × Value → List Binary64
  | (_, value) => value.reals

/-- The floating-point numbers of the members of an object. -/
def membersReals : List (String × Value) → List Binary64
  | [] => []
  | member :: members => memberReals member ++ membersReals members

end

@[simp]
theorem reals_word (n : UInt64) : (Value.word n).reals = [] := by
  simp [Value.word, Value.reals]

@[simp]
theorem reals_real (x : Binary64) : (Value.real x).reals = [x] := by
  simp [Value.real, Value.reals]

@[simp]
theorem reals_string (s : String) : (Value.string s).reals = [] := by
  simp [Value.reals]

@[simp]
theorem reals_array (items : List Value) : (Value.array items).reals = items.flatMap Value.reals := by
  rw [Value.reals]
  induction items with
  | nil => simp [itemsReals]
  | cons item rest ih => rw [itemsReals, ih, List.flatMap_cons]

@[simp]
theorem reals_object (members : List (String × Value)) :
    (Value.object members).reals = members.flatMap fun member => member.2.reals := by
  rw [Value.reals]
  induction members with
  | nil => simp [membersReals]
  | cons member rest ih => rw [membersReals, memberReals, ih, List.flatMap_cons]

@[simp]
theorem reals_strings (items : List String) : (Value.strings items).reals = [] := by
  simp [Value.strings, List.flatMap_map]

end Json

theorem OrderedMap.reals_toJson {α : Type} {value : α → Json.Value} {f : α → List Binary64}
    (h : ∀ a, (value a).reals = f a) (map : OrderedMap String α) :
    (map.toJson value).reals = map.values.flatMap f := by
  simp [OrderedMap.toJson, OrderedMap.values, List.flatMap_map, h]

namespace Report

theorem reals_toJson_result (result : ComponentResult) : result.toJson.reals = result.floats := by
  have hcues : (result.evidence.cueMatches.toJson .word).reals = [] := by
    rw [OrderedMap.reals_toJson (f := fun _ => []) Json.reals_word]
    simp
  simp [ComponentResult.toJson, Criticality.toJson_eq, Evidence.toJson, Measure.toJson, Scores.toJson,
    ComponentResult.floats, Scores.floats, hcues]

/-- The numbers in the document of a report are the floats of the report. -/
theorem reals_toJson (report : Report) : report.toJson.reals = report.floats := by
  simp [toJson, floats, OrderedMap.reals_toJson reals_toJson_result, Summary.toJson, Summary.floats]

end Report

/-- The score and the weight of a group. -/
def TaskGroup.floats (group : TaskGroup) : List Binary64 :=
  [group.currentScore, group.weight]

/-- The floating-point numbers of a backlog. -/
def Backlog.floats (backlog : Backlog) : List Binary64 :=
  backlog.threshold :: backlog.summary.floats
    ++ Category.all.flatMap fun category => (backlog.groups category).flatMap TaskGroup.floats

theorem TaskGroup.reals_toJson (group : TaskGroup) : group.toJson.reals = group.floats := by
  have htask : ∀ task : Task, task.toJson.reals = [] := by
    intro task
    simp only [Task.toJson, stringsMember, Criticality.toJson_eq]
    split <;> split <;> simp
  simp [toJson, floats, Criticality.toJson_eq, Gap.toJson, List.flatMap_map, htask]

/-- The numbers in the document of a backlog are the floats of the backlog. -/
theorem Backlog.reals_toJson (backlog : Backlog) : backlog.toJson.reals = backlog.floats := by
  simp [toJson, floats, Summary.floats, Category.all, groups, List.flatMap_map,
    TaskGroup.reals_toJson]

/-! ## Reports that were read -/

section Reading

open Json (Yields yields_readReal yields_readRecord)

theorem ComponentResult.allFinite_floats {result : ComponentResult} :
    AllFinite result.floats ↔
      result.weight.isFinite ∧ result.functions.score.isFinite ∧ result.sloc.score.isFinite
        ∧ AllFinite result.scores.floats := by
  simp [AllFinite, floats]

theorem Scores.allFinite_floats {scores : Scores} :
    AllFinite scores.floats ↔
      scores.evidence.isFinite ∧ scores.functions.isFinite ∧ scores.sloc.isFinite
        ∧ scores.overall.isFinite := by
  simp [AllFinite, floats]

theorem Summary.allFinite_floats {summary : Summary} :
    AllFinite summary.floats ↔
      summary.kernelScore.isFinite ∧ summary.platformScore.isFinite
        ∧ summary.overallScore.isFinite := by
  simp [AllFinite, floats]

theorem Measure.yields_read : Yields (fun measure => measure.score.isFinite) Measure.read := by
  refine yields_readRecord rfl ?_
  simp only [shape, List.forall_mem_cons]
  refine ⟨.of_forall ?_, .of_forall ?_, yields_readReal.keeps ?_, nofun⟩
  · exact fun _ _ h => h
  · exact fun _ _ h => h
  · exact fun _ _ hx _ => hx

theorem Scores.yields_read : Yields (fun scores => AllFinite scores.floats) Scores.read := by
  simp only [allFinite_floats]
  -- Each field sets one of the four numbers and leaves the others.
  refine yields_readRecord ⟨rfl, rfl, rfl, rfl⟩ ?_
  simp only [shape, List.forall_mem_cons]
  refine ⟨yields_readReal.keeps ?_, yields_readReal.keeps ?_, yields_readReal.keeps ?_,
    yields_readReal.keeps ?_, nofun⟩
  · exact fun _ _ hx h => ⟨hx, h.2⟩
  · exact fun _ _ hx h => ⟨h.1, hx, h.2.2⟩
  · exact fun _ _ hx h => ⟨h.1, h.2.1, hx, h.2.2.2⟩
  · exact fun _ _ hx h => ⟨h.1, h.2.1, h.2.2.1, hx⟩

theorem ComponentResult.yields_read :
    Yields (fun result => AllFinite result.floats) ComponentResult.read := by
  simp only [allFinite_floats]
  refine yields_readRecord ⟨rfl, rfl, rfl, Scores.allFinite_floats.2 ⟨rfl, rfl, rfl, rfl⟩⟩ ?_
  simp only [shape, List.forall_mem_cons]
  refine ⟨.of_forall ?_, yields_readReal.keeps ?_, .of_forall ?_, .of_forall ?_,
    Measure.yields_read.keeps ?_, Measure.yields_read.keeps ?_, Scores.yields_read.keeps ?_, nofun⟩
  · exact fun _ _ h => h
  · exact fun _ _ hx h => ⟨hx, h.2⟩
  · exact fun _ _ h => h
  · exact fun _ _ h => h
  · exact fun _ _ hx h => ⟨h.1, hx, h.2.2⟩
  · exact fun _ _ hx h => ⟨h.1, h.2.1, hx, h.2.2.2⟩
  · exact fun _ _ hx h => ⟨h.1, h.2.1, h.2.2.1, hx⟩

theorem Summary.yields_read : Yields (fun summary => AllFinite summary.floats) Summary.read := by
  simp only [allFinite_floats]
  refine yields_readRecord ⟨rfl, rfl, rfl⟩ ?_
  simp only [shape, List.forall_mem_cons]
  refine ⟨yields_readReal.keeps ?_, yields_readReal.keeps ?_, yields_readReal.keeps ?_,
    .of_forall ?_, nofun⟩
  · exact fun _ _ hx h => ⟨hx, h.2⟩
  · exact fun _ _ hx h => ⟨h.1, hx, h.2.2⟩
  · exact fun _ _ hx h => ⟨h.1, h.2.1, hx⟩
  · exact fun _ _ h => h

namespace Report

/-- The numbers of a report, result by result. -/
theorem allFinite_floats {report : Report} :
    AllFinite report.floats ↔
      (∀ entry ∈ report.kernelPrimitives.entries, AllFinite entry.2.floats)
        ∧ (∀ entry ∈ report.platformServices.entries, AllFinite entry.2.floats)
        ∧ AllFinite report.summary.floats := by
  simp only [floats, allFinite_append, allFinite_flatMap, OrderedMap.values, List.forall_mem_map,
    and_assoc]

theorem yields_read : Yields (fun report => AllFinite report.floats) Report.read := by
  simp only [allFinite_floats]
  refine yields_readRecord
    ⟨fun _ h => absurd h List.not_mem_nil, fun _ h => absurd h List.not_mem_nil,
      Summary.allFinite_floats.2 ⟨rfl, rfl, rfl⟩⟩ ?_
  simp only [shape, List.forall_mem_cons]
  refine ⟨ComponentResult.yields_read.readMap.keeps ?_,
    ComponentResult.yields_read.readMap.keeps ?_, Summary.yields_read.keeps ?_, nofun⟩
  · exact fun _ _ hx h => ⟨hx, h.2⟩
  · exact fun _ _ hx h => ⟨h.1, hx, h.2.2⟩
  · exact fun _ _ hx h => ⟨h.1, h.2.1, hx⟩

/-- A result that is given its name keeps its numbers. -/
theorem floats_named (report : Report) : report.named.floats = report.floats := by
  have hresult : ∀ (name : String) (result : ComponentResult),
      (result.named name).floats = result.floats := by
    intro name result
    unfold ComponentResult.named
    split <;> rfl
  simp only [floats, named, OrderedMap.values_mapValues, List.flatMap_map, hresult]
  simp only [OrderedMap.values, List.flatMap_map]

/-- The numbers of a report that was read are finite. -/
theorem allFinite_of_ofText {text : List Char} {report : Report}
    (h : Report.ofText text = .ok report) : AllFinite report.floats := by
  obtain ⟨read, hread, rfl⟩ := map_eq_ok_iff.1 h
  rw [floats_named]
  exact yields_read.decode hread

end Report

end Reading

/-! ## Backlogs -/

theorem Rubric.validate_of_load {tree : FileTree} {base : Location} {path : Path} {rubric : Rubric}
    (h : Rubric.load tree base path = .ok rubric) : rubric.validate = .ok () := by
  unfold load at h
  split at h
  · cases h
  · exact validate_of_ofText h

/-- A group takes its weight from a valid rubric or from the report. -/
theorem ComponentResult.allFinite_taskGroup {name : String} {category : Category}
    {result : ComponentResult} {entry : Option Component} (hresult : AllFinite result.floats)
    (hentry : ∀ component, entry = some component → component.weight.isFinite) :
    AllFinite (result.taskGroup name category entry).floats := by
  obtain ⟨hweight, -, -, hscores⟩ := ComponentResult.allFinite_floats.1 hresult
  have hoverall := (Scores.allFinite_floats.1 hscores).2.2.2
  have hgroup : (result.taskGroup name category entry).weight.isFinite := by
    cases entry with
    | none => exact hweight
    | some component => exact hentry component rfl
  simp only [AllFinite, TaskGroup.floats, List.forall_mem_cons]
  exact ⟨hoverall, hgroup, fun _ h => absurd h List.not_mem_nil⟩

/-- The numbers of a backlog are finite if those of its report and its threshold are. -/
theorem Report.allFinite_backlog {report : Report} {rubric : Rubric} {threshold : Binary64}
    (hreport : AllFinite report.floats) (hrubric : rubric.validate = .ok ())
    (hthreshold : threshold.isFinite) : AllFinite (report.backlog rubric threshold).floats := by
  obtain ⟨hkernel, hplatform, hsummary⟩ := allFinite_floats.1 hreport
  rw [Backlog.floats, allFinite_append, allFinite_flatMap]
  refine ⟨List.forall_mem_cons.2 ⟨hthreshold, hsummary⟩, fun category _ => ?_⟩
  rw [allFinite_flatMap, groups_backlog]
  intro group hgroup
  obtain ⟨entry, hentry, rfl⟩ := List.mem_map.1 hgroup
  -- The score is in the report; the weight is there, too, or in an entry that was checked.
  have hresults : ∀ entry ∈ (report.results category).entries, AllFinite entry.2.floats := by
    cases category with
    | kernelPrimitive => exact hkernel
    | platformService => exact hplatform
  refine ComponentResult.allFinite_taskGroup (hresults entry (List.mem_filter.1 hentry).1) ?_
  intro component hcomponent
  have hcheck := Rubric.check_of_validate hrubric category (OrderedMap.get?_eq_some_iff.1 hcomponent)
  exact (isWeight_of_hasValidWeight (Component.hasValidWeight_of_check hcheck)).1

/-! ## Documents of the commands -/

namespace Workspace

/-- No document that is written holds a number that is not finite. This is so for the report on any
corpus that an accepted rubric gives, whatever its weights and targets are, for the backlog of any
report that was read at any finite threshold, and so for every backlog that a request leads to,
whether its threshold comes from the arguments or from the settings. -/
theorem documents_allFinite :
    (∀ (path : Path) (text : List Char) (rubric : Rubric),
      Rubric.ofText path text = .ok rubric →
      ∀ corpus, AllFinite (rubric.evaluate corpus).toJson.reals)
    ∧ (∀ (path : Path) (text reportText : List Char) (rubric : Rubric) (report : Report)
        (threshold : Binary64),
      Rubric.ofText path text = .ok rubric → Report.ofText reportText = .ok report →
      threshold.isFinite → AllFinite (report.backlog rubric threshold).toJson.reals)
    ∧ ∀ (workspace : Workspace) (settings : Settings) (request : BacklogRequest)
        (threshold : Binary64) (report : Report) (rubric : Rubric),
      workspace.backlogSources settings request = .ok (threshold, report, rubric) →
      threshold = request.threshold.getD settings.threshold
        ∧ AllFinite (report.backlog rubric threshold).toJson.reals := by
  refine ⟨?_, ?_, ?_⟩
  · intro path text rubric htext corpus
    rw [Report.reals_toJson]
    exact Rubric.isFinite_of_mem_floats (Rubric.validate_of_ofText htext) corpus
  · intro path text reportText rubric report threshold htext hreport hthreshold
    rw [Backlog.reals_toJson]
    exact Report.allFinite_backlog (Report.allFinite_of_ofText hreport)
      (Rubric.validate_of_ofText htext) hthreshold
  · intro workspace settings request threshold report rubric hsources
    obtain ⟨hrequest, hthreshold, ⟨text, -, hreport⟩, hload⟩ := backlogSources_eq_ok_iff.1 hsources
    rw [Backlog.reals_toJson]
    exact ⟨hrequest.symm, Report.allFinite_backlog (Report.allFinite_of_ofText hreport)
      (Rubric.validate_of_load hload) hthreshold⟩

/-- Weights at both ends of the range, and targets of zero. -/
def extremeRubric : Rubric where
  metadata := .null
  kernelPrimitives :=
    (OrderedMap.empty.insert "huge"
      ⟨.ofDecimal false 1 308, .high, "", ["a"], 0, 0, none⟩).insert "tiny"
      ⟨.ofDecimal false 5 (-324), .low, "", ["a"], 0, 0, none⟩
  platformServices := .empty

/-- A workspace with the rubric and with its report on nothing. -/
def extreme : Workspace where
  tree := FileTree.empty
    |>.put .root "rubric.json" (.file (Text.Utf8.encode extremeRubric.toJson.text))
    |>.put .root "report.json"
      (.file (Text.Utf8.encode (extremeRubric.evaluate .empty).toJson.text))
  directory := .root
  refusal := fun _ => none

/-- A request that leaves the threshold to the settings. -/
def extremeRequest : BacklogRequest :=
  ⟨⟨"report.json"⟩, ⟨"rubric.json"⟩, none, .text, none⟩

/-- The documents of a rubric with these weights and of its report. -/
theorem documents_allFinite_extreme :
    ∃ rubric report,
      Rubric.ofText ⟨"rubric.json"⟩ extremeRubric.toJson.text = .ok rubric
      ∧ AllFinite (rubric.evaluate .empty).toJson.reals
      ∧ Report.ofText (extremeRubric.evaluate .empty).toJson.text = .ok report
      ∧ AllFinite (report.backlog rubric 100).toJson.reals
      ∧ extreme.backlogSources .default extremeRequest
        = .ok (Settings.default.threshold, report, rubric)
      ∧ AllFinite (report.backlog rubric Settings.default.threshold).toJson.reals := by
  have hreads : (Rubric.ofText ⟨"rubric.json"⟩ extremeRubric.toJson.text).isOk := by
    decide +kernel
  have hvalid : extremeRubric.validate = .ok () := by decide +kernel
  obtain ⟨rubric, hrubric⟩ := isOk_iff.1 hreads
  obtain ⟨report, hreport⟩ :
      ∃ report, Report.ofText (extremeRubric.evaluate .empty).toJson.text = .ok report :=
    ⟨_, Rubric.ofText_toJson_evaluate hvalid .empty⟩
  have hsources : extreme.backlogSources .default extremeRequest
      = .ok (Settings.default.threshold, report, rubric) := by
    have hthreshold : Settings.default.threshold.isFinite := by decide +kernel
    have hrubricText : extreme.tree.readText extreme.directory extremeRequest.rubric
        = .ok extremeRubric.toJson.render :=
      FileTree.readText_name (by decide) rfl (by rw [Json.Value.render, String.toList_ofList]; rfl)
    have hreportText : extreme.tree.readText extreme.directory extremeRequest.results
        = .ok (extremeRubric.evaluate .empty).toJson.render :=
      FileTree.readText_name (by decide) rfl (by rw [Json.Value.render, String.toList_ofList]; rfl)
    refine backlogSources_eq_ok_iff.2 ⟨rfl, hthreshold, ⟨_, hreportText, ?_⟩, ?_⟩
    · rw [Json.Value.render, String.toList_ofList]
      exact hreport
    · rw [Rubric.load, hrubricText]
      dsimp only
      rw [Json.Value.render, String.toList_ofList]
      exact hrubric
  have hhundred : (100 : Binary64).isFinite := by decide +kernel
  exact ⟨rubric, report, hrubric, documents_allFinite.1 _ _ _ hrubric .empty, hreport,
    documents_allFinite.2.1 _ _ _ _ _ _ hrubric hreport hhundred, hsources,
    (documents_allFinite.2.2 _ _ _ _ _ _ hsources).2⟩

end Workspace

end RubricScore
