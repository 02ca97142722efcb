import RubricScore.CommandLine.Run
import RubricScore.Proofs.Evaluation.Compilation
import RubricScore.Proofs.FileTree.Access
import RubricScore.Proofs.Json.Layout

/-!
# What runs change

A run reads what it needs before it changes anything, and writes one file at its end. So a run that
fails has changed nothing, whatever it failed at, and a run that succeeds has changed the one file
that its output goes to. Whether it succeeds is known beforehand: what the command reads has to be
there, and its output has to have a place.

## Main definitions

* `Outcome.Delivers`: a run wrote a document to a file, and printed it if a program was to read it;
* `Workspace.Allows`: what a command needs is there;
* `Workspace.Effect`: what a successful run of a command did;
* `Workspace.Settles`: a run failed and changed nothing, or did what its command is for;
* `Workspace.after`: a workspace after some runs.

## Main results

* `Workspace.settles_perform`: every run of a command settles;
* `Workspace.extends_after`: no run takes anything away;
* `Workspace.run_effects`: what a run changes, for every argument list.
-/

namespace RubricScore

/-- The run wrote a text to the file that a path stands for and changed nothing else. Output for a
program is the text and a line end. -/
structure Outcome.Writes (outcome : Outcome) (workspace : Workspace) (format : OutputFormat)
    (path : Path) (text : String) : Prop where
  /-- The text is the new content of the file. -/
  rewrites : ∃ place, workspace.tree.Rewrites outcome.tree workspace.directory path
    (Text.Utf8.encode text.toList) place
  /-- So is what was printed, up to the line end. -/
  printed : format = .json → outcome.printed = text ++ "\n"

/-- The run wrote the document of a value, laid out line by line. -/
def Outcome.Delivers (outcome : Outcome) (workspace : Workspace) (format : OutputFormat)
    (path : Path) (document : Json.Value) : Prop :=
  ∃ text : String, Json.IsPretty document text.toList ∧ outcome.Writes workspace format path text

namespace Outcome.Delivers

variable {outcome : Outcome} {workspace : Workspace} {format : OutputFormat} {path : Path}
  {document : Json.Value}

/-- The writing of a document takes nothing away. -/
theorem keeps (h : outcome.Delivers workspace format path document) :
    workspace.tree.Extends outcome.tree := by
  obtain ⟨text, -, hwrites⟩ := h
  obtain ⟨place, hrewrites⟩ := hwrites.rewrites
  exact hrewrites.keeps

theorem withEvents (h : outcome.Delivers workspace format path document) (events : List Event) :
    { outcome with events := events }.Delivers workspace format path document := by
  obtain ⟨text, hpretty, hwrites⟩ := h
  exact ⟨text, hpretty, hwrites.rewrites, hwrites.printed⟩

end Outcome.Delivers

namespace Workspace

/-- The rubric under a path can be used: it is loaded, and a pattern can be made of each of its
cues. -/
def HasUsableRubric (workspace : Workspace) (path : Path) : Prop :=
  ∃ rubric, Rubric.load workspace.tree workspace.directory path = .ok rubric
    ∧ ∀ category, ∀ entry ∈ (rubric.components category).entries, ∀ phrase ∈ entry.2.cues,
      workspace.refusal (Text.lowercase phrase.toList) = none

/-- What a command needs is there: what it reads, and a place for its output. -/
def Allows (workspace : Workspace) (settings : Settings) : Command → Prop
  | .evaluate request =>
    workspace.HasUsableRubric request.rubric
      ∧ workspace.tree.Denotes workspace.directory request.source .directory
      ∧ workspace.tree.Writable workspace.directory
        (request.output.getD settings.evaluationFile)
  | .tasks request =>
    (request.threshold.getD settings.threshold).isFinite
      ∧ (∃ text report, workspace.tree.readText workspace.directory request.results = .ok text
        ∧ Report.ofText text.toList = .ok report)
      ∧ (∃ rubric, Rubric.load workspace.tree workspace.directory request.rubric = .ok rubric)
      ∧ workspace.tree.Writable workspace.directory (request.output.getD settings.tasksFile)
  | .init =>
    workspace.tree.Denotes workspace.directory workspace.directory.path .directory
      ∧ ((∃ entry, workspace.tree.Denotes workspace.directory workspace.settingsPath entry)
        ∨ workspace.tree.Writable workspace.directory workspace.settingsPath)

/-- What a successful run of a command did. The output goes to the file that the request names, or
else to that of the settings. A settings file is written only if there is none. -/
def Effect (workspace : Workspace) (outcome : Outcome) : Command → Prop
  | .evaluate request =>
    let settings := Settings.load workspace.tree workspace.directory
    let collection :=
      workspace.tree.collect workspace.directory request.source (scanOptions settings request)
    ∃ rubric, Rubric.load workspace.tree workspace.directory request.rubric = .ok rubric
      ∧ outcome.Delivers workspace request.format
        (request.output.getD settings.evaluationFile) (rubric.evaluate collection.corpus).toJson
  | .tasks request =>
    let settings := Settings.load workspace.tree workspace.directory
    let threshold := request.threshold.getD settings.threshold
    threshold.isFinite ∧ ∃ text report rubric,
      workspace.tree.readText workspace.directory request.results = .ok text
        ∧ Report.ofText text.toList = .ok report
        ∧ Rubric.load workspace.tree workspace.directory request.rubric = .ok rubric
        ∧ outcome.Delivers workspace request.format
          (request.output.getD settings.tasksFile) (report.backlog rubric threshold).toJson
  | .init =>
    if workspace.tree.hasPath workspace.directory workspace.settingsPath then
      outcome.tree = workspace.tree
    else
      ∃ place, workspace.tree.Rewrites outcome.tree workspace.directory workspace.settingsPath
        (Text.Utf8.encode Settings.starterText.toList) place

/-- The run failed and changed nothing, and the command lacked something, or it had all it needs and
did what it is for. -/
def Settles (workspace : Workspace) (outcome : Outcome) (command : Command) : Prop :=
  let settings := Settings.load workspace.tree workspace.directory
  outcome.exitCode ≠ 0 ∧ outcome.tree = workspace.tree ∧ ¬workspace.Allows settings command
    ∨ outcome.exitCode = 0 ∧ workspace.Allows settings command ∧ workspace.Effect outcome command

section Sources

variable {workspace : Workspace}

/-- The rubric of an evaluation is loaded from its file once the source is a directory. -/
theorem evaluationRubric_eq_ok_iff {request : EvaluationRequest} {rubric : Rubric} :
    workspace.evaluationRubric request = .ok rubric
      ↔ workspace.tree.Denotes workspace.directory request.source .directory
        ∧ Rubric.load workspace.tree workspace.directory request.rubric = .ok rubric := by
  simp only [evaluationRubric, throw_eq_error, error_bind, ite_error_eq_ok_iff, mapError_eq_ok_iff,
    Bool.not_eq_true', Bool.not_eq_false]
  rw [← FileTree.isDirectory_iff]
  refine ⟨fun h => h.2.2, fun h => ⟨?_, ?_, h⟩⟩
  · -- A rubric that is loaded stands in a file.
    have hload := h.2
    cases hread : workspace.tree.readText workspace.directory request.rubric with
    | error error =>
      rw [Rubric.load, hread] at hload
      cases hload
    | ok text => exact FileTree.isFile_iff.2 (FileTree.denotes_of_readText hread)
  · exact FileTree.hasPath_iff.2 ⟨.directory, FileTree.isDirectory_iff.1 h.1⟩

/-- What a backlog is made from: the threshold of the request or else of the settings, if it is
finite, and the report and the rubric that the two files hold. -/
theorem backlogSources_eq_ok_iff {settings : Settings} {request : BacklogRequest}
    {threshold : Binary64} {report : Report} {rubric : Rubric} :
    workspace.backlogSources settings request = .ok (threshold, report, rubric) ↔
      request.threshold.getD settings.threshold = threshold ∧ threshold.isFinite
        ∧ (∃ text, workspace.tree.readText workspace.directory request.results = .ok text
          ∧ Report.ofText text.toList = .ok report)
        ∧ Rubric.load workspace.tree workspace.directory request.rubric = .ok rubric := by
  simp only [backlogSources, throw_eq_error, error_bind, Bool.not_eq_true', ite_error_eq_ok_iff,
    bind_eq_ok_iff, mapError_eq_ok_iff, pure_eq_ok, Except.ok.injEq, Prod.mk.injEq,
    Bool.not_eq_false]
  constructor
  · rintro ⟨hfinite, text, htext, read, hread, loaded, hloaded, rfl, rfl, rfl⟩
    exact ⟨rfl, hfinite, ⟨text, htext, hread⟩, hloaded⟩
  · rintro ⟨rfl, hfinite, ⟨text, htext, hread⟩, hloaded⟩
    exact ⟨hfinite, text, htext, report, hread, rubric, hloaded, rfl, rfl, rfl⟩

end Sources

section Commands

variable (workspace : Workspace) (colors : Bool)

theorem exitCode_fails (output : String) (failure : Failure) (events : List Event) :
    (workspace.fails output failure events).exitCode ≠ 0 :=
  Nat.one_ne_zero

/-- A run that ends with the writing of a file fails and changes nothing if the file cannot be
written, or writes it. -/
theorem concludes_cases (output note : String) (path : Path) (content : String)
    (events : List Event) :
    (∃ failure, workspace.concludes output note path content events
        = workspace.fails output failure events
        ∧ ¬workspace.tree.Writable workspace.directory path)
      ∨ ∃ tree place, workspace.concludes output note path content events
          = ⟨.success, output, some (path, content), note, tree, events⟩
        ∧ workspace.tree.Rewrites tree workspace.directory path
          (Text.Utf8.encode content.toList) place := by
  unfold concludes
  cases hwrite : workspace.tree.write workspace.directory path
    (Text.Utf8.encode content.toList) with
  | error error =>
    refine .inl ⟨_, rfl, fun hwritable => ?_⟩
    obtain ⟨tree, htree⟩ := isOk_iff.1 (FileTree.isOk_write_iff.2 hwritable)
    cases hwrite.symm.trans htree
  | ok tree =>
    obtain ⟨place, hrewrites⟩ := FileTree.rewrites_of_write hwrite
    exact .inr ⟨tree, place, rfl, hrewrites⟩

/-- A run that ends with the writing of a document settles a command that needs no more than a place
for the document and is done when it is delivered. Only a note for a reader may follow what was
printed. -/
theorem settles_concludes {command : Command} {output note : String} (format : OutputFormat)
    {path : Path} {document : Json.Value} {events : List Event}
    (hprinted : format = .json → output ++ note = document.render ++ "\n")
    (hallows : workspace.Allows (Settings.load workspace.tree workspace.directory) command
      ↔ workspace.tree.Writable workspace.directory path)
    (heffect : ∀ outcome : Outcome, outcome.Delivers workspace format path document →
      workspace.Effect outcome command) :
    workspace.Settles (workspace.concludes output note path document.render events) command := by
  rcases workspace.concludes_cases output note path document.render events with
    ⟨failure, hfails, hwritable⟩ | ⟨tree, place, hsuccess, hrewrites⟩
  · rw [hfails]
    exact .inl ⟨workspace.exitCode_fails _ _ _, rfl, fun h => hwritable (hallows.1 h)⟩
  · rw [hsuccess]
    refine .inr ⟨rfl, hallows.2 ⟨tree, _, place, hrewrites⟩, heffect _ ⟨document.render, ?_⟩⟩
    exact ⟨Json.isPretty_render document, ⟨place, hrewrites⟩, hprinted⟩

theorem settles_evaluate (request : EvaluationRequest) :
    workspace.Settles
      (workspace.evaluate colors (Settings.load workspace.tree workspace.directory) request)
      (.evaluate request) := by
  unfold evaluate
  -- The rubric can be loaded or not, and its cues can be made patterns of or not.
  cases hrubric : workspace.evaluationRubric request with
  | error failure =>
    refine .inl ⟨workspace.exitCode_fails _ _ _, rfl, ?_⟩
    rintro ⟨⟨rubric, hload, -⟩, hsource, -⟩
    cases hrubric.symm.trans (evaluationRubric_eq_ok_iff.2 ⟨hsource, hload⟩)
  | ok rubric =>
    obtain ⟨hsource, hload⟩ := evaluationRubric_eq_ok_iff.1 hrubric
    dsimp only
    cases hcompile : Evaluator.compile workspace.refusal rubric with
    | error error =>
      refine .inl ⟨workspace.exitCode_fails _ _ _, rfl, ?_⟩
      rintro ⟨⟨loaded, hloaded, hcues⟩, -⟩
      obtain rfl := Except.ok.inj (hload.symm.trans hloaded)
      cases hcompile.symm.trans (Evaluator.compile_eq_ok_iff.2 ⟨hcues, rfl⟩)
    | ok evaluator =>
      obtain ⟨hcues, rfl⟩ := Evaluator.compile_eq_ok_iff.1 hcompile
      dsimp only
      refine workspace.settles_concludes request.format ?_ ?_
        fun outcome hdelivers => ⟨rubric, hload, hdelivers⟩
      · -- Output for a program is the document, and no note follows it.
        intro hformat
        rw [hformat]
        exact String.append_empty
      · exact ⟨fun h => h.2.2, fun hwritable => ⟨⟨rubric, hload, hcues⟩, hsource, hwritable⟩⟩

theorem settles_tasks (request : BacklogRequest) :
    workspace.Settles
      (workspace.tasks colors (Settings.load workspace.tree workspace.directory) request)
      (.tasks request) := by
  unfold tasks
  cases hsources : workspace.backlogSources
    (Settings.load workspace.tree workspace.directory) request with
  | error failure =>
    -- With all that the command needs there would be sources.
    refine .inl ⟨workspace.exitCode_fails _ _ _, rfl, ?_⟩
    rintro ⟨hfinite, ⟨text, report, htext, hreport⟩, ⟨rubric, hload⟩, -⟩
    cases hsources.symm.trans
      (backlogSources_eq_ok_iff.2 ⟨rfl, hfinite, ⟨text, htext, hreport⟩, hload⟩)
  | ok sources =>
    obtain ⟨threshold, report, rubric⟩ := sources
    obtain ⟨rfl, hfinite, ⟨text, htext, hreport⟩, hload⟩ := backlogSources_eq_ok_iff.1 hsources
    dsimp only
    refine workspace.settles_concludes request.format ?_ ?_
      fun outcome hdelivers => ⟨hfinite, text, report, rubric, htext, hreport, hload, hdelivers⟩
    · intro hformat
      rw [hformat]
      exact String.append_empty
    · exact ⟨fun h => h.2.2.2,
        fun hwritable => ⟨hfinite, ⟨text, report, htext, hreport⟩, ⟨rubric, hload⟩, hwritable⟩⟩

theorem settles_init : workspace.Settles (workspace.init colors) .init := by
  unfold init
  dsimp only
  -- There is no directory, or a settings file is there, or one is written.
  split
  · next hdirectory =>
    refine .inl ⟨workspace.exitCode_fails _ _ _, rfl, fun h => ?_⟩
    rw [FileTree.isDirectory_iff.2 h.1] at hdirectory
    cases hdirectory
  · next hdirectory =>
    have hdirectory := FileTree.isDirectory_iff.1 (by simpa using hdirectory)
    split
    · next hexists =>
      refine .inr ⟨rfl, ⟨hdirectory, .inl (FileTree.hasPath_iff.1 hexists)⟩, ?_⟩
      rw [Effect, if_pos hexists]
    · next hmissing =>
      rcases workspace.concludes_cases "" _ workspace.settingsPath Settings.starterText [] with
        ⟨failure, hfails, hwritable⟩ | ⟨tree, place, hsuccess, hrewrites⟩
      · rw [hfails]
        refine .inl ⟨workspace.exitCode_fails _ _ _, rfl, fun h => ?_⟩
        exact h.2.elim (fun hexists => hmissing (FileTree.hasPath_iff.2 hexists)) hwritable
      · rw [hsuccess]
        refine .inr ⟨rfl, ⟨hdirectory, .inr ⟨tree, _, place, hrewrites⟩⟩, ?_⟩
        rw [Effect, if_neg hmissing]
        exact ⟨place, hrewrites⟩

variable {workspace} in
/-- What a run did shows in the tree after it and in what it printed, not in its events. -/
theorem Effect.withEvents {outcome : Outcome} {command : Command}
    (h : workspace.Effect outcome command) (events : List Event) :
    workspace.Effect { outcome with events := events } command := by
  cases command with
  | evaluate request =>
    obtain ⟨rubric, hrubric, hdelivers⟩ := h
    exact ⟨rubric, hrubric, hdelivers.withEvents events⟩
  | tasks request =>
    obtain ⟨hfinite, text, report, rubric, htext, hreport, hload, hdelivers⟩ := h
    exact ⟨hfinite, text, report, rubric, htext, hreport, hload, hdelivers.withEvents events⟩
  | init => exact h

variable {workspace} in
theorem Settles.withEvents {outcome : Outcome} {command : Command}
    (h : workspace.Settles outcome command) (events : List Event) :
    workspace.Settles { outcome with events := events } command := by
  rcases h with hfails | ⟨hcode, hallows, heffect⟩
  · exact .inl hfails
  · exact .inr ⟨hcode, hallows, heffect.withEvents events⟩

/-- Every run of a command fails and changes nothing, or does what the command is for. -/
theorem settles_perform (command : Command) :
    workspace.Settles (workspace.perform colors command) command := by
  cases command with
  | evaluate request => exact (workspace.settles_evaluate colors request).withEvents _
  | tasks request => exact (workspace.settles_tasks colors request).withEvents _
  | init => exact (workspace.settles_init colors).withEvents _

/-- Once there is a settings file, `init` changes nothing. -/
theorem init_tree_of_hasPath
    (h : workspace.tree.hasPath workspace.directory workspace.settingsPath) :
    (workspace.init colors).tree = workspace.tree := by
  unfold init
  dsimp only
  split <;> rfl

end Commands

/-! ## Runs one after the other -/

/-- The workspace after a run. -/
def next (workspace : Workspace) (colors : Bool) (arguments : List String) : Workspace :=
  { workspace with tree := (workspace.run colors arguments).tree }

/-- The workspace after some runs, each with what is known of colors and its arguments. -/
def after (workspace : Workspace) : List (Bool × List String) → Workspace
  | [] => workspace
  | (colors, arguments) :: rest => (workspace.next colors arguments).after rest

/-- `init` changes nothing here, with whatever options it is run. -/
def Initialized (workspace : Workspace) : Prop :=
  ∀ (colors : Bool) (arguments : List String) (invocation : Invocation),
    Invocation.ofArguments arguments = .ok invocation → invocation.command = .init →
      workspace.next colors arguments = workspace

section Runs

variable {workspace : Workspace} {colors : Bool} {arguments : List String}

theorem run_of_ok {invocation : Invocation}
    (h : Invocation.ofArguments arguments = .ok invocation) :
    workspace.run colors arguments = workspace.perform colors invocation.command := by
  rw [run, h]

/-- A run whose arguments are not followed changes nothing. -/
theorem tree_of_error {error : CommandLine.UsageError}
    (h : Invocation.ofArguments arguments = .error error) :
    (workspace.run colors arguments).tree = workspace.tree := by
  rw [run, h]

theorem settles_run {invocation : Invocation}
    (h : Invocation.ofArguments arguments = .ok invocation) :
    workspace.Settles (workspace.run colors arguments) invocation.command := by
  rw [run_of_ok h]
  exact workspace.settles_perform colors invocation.command

/-- What a command does takes nothing away. -/
theorem Effect.keeps {outcome : Outcome} {command : Command}
    (h : workspace.Effect outcome command) : workspace.tree.Extends outcome.tree := by
  cases command with
  | evaluate request =>
    obtain ⟨_, -, hdelivers⟩ := h
    exact hdelivers.keeps
  | tasks request =>
    obtain ⟨-, _, _, _, -, -, -, hdelivers⟩ := h
    exact hdelivers.keeps
  | init =>
    rw [Effect] at h
    split at h
    · rw [h]
      exact .refl workspace.tree
    · obtain ⟨place, hrewrites⟩ := h
      exact hrewrites.keeps

/-- A run takes nothing away, however it ends. -/
theorem extends_next : workspace.tree.Extends (workspace.next colors arguments).tree := by
  rw [next]
  cases h : Invocation.ofArguments arguments with
  | error error =>
    rw [tree_of_error h]
    exact .refl workspace.tree
  | ok invocation =>
    have hsettles : workspace.Settles (workspace.run colors arguments) invocation.command :=
      settles_run h
    rcases hsettles with ⟨-, htree, -⟩ | ⟨-, -, heffect⟩
    · rw [htree]
      exact .refl workspace.tree
    · exact heffect.keeps

variable (workspace) in
/-- However many runs there are, what stood in the tree stands there still. -/
theorem extends_after (runs : List (Bool × List String)) :
    workspace.tree.Extends (workspace.after runs).tree := by
  -- By induction on the runs: each of them keeps what its predecessors kept.
  induction runs generalizing workspace with
  | nil => exact .refl workspace.tree
  | cons first rest ih => exact extends_next.trans (ih (workspace.next first.1 first.2))

/-- Commands run in one directory. -/
theorem directory_after (runs : List (Bool × List String)) :
    (workspace.after runs).directory = workspace.directory := by
  induction runs generalizing workspace with
  | nil => rfl
  | cons first rest ih => exact ih

/-- With a settings file in its place, `init` changes nothing, whatever runs come before it. -/
theorem initialized_after (runs : List (Bool × List String))
    (h : workspace.tree.hasPath workspace.directory workspace.settingsPath) :
    (workspace.after runs).Initialized := by
  intro colors arguments invocation hinvocation hinit
  -- The settings file is not taken away, and the path still leads to it.
  have hpath : (workspace.after runs).tree.hasPath (workspace.after runs).directory
      (workspace.after runs).settingsPath := by
    rw [settingsPath, directory_after]
    exact (extends_after workspace runs).hasPath h
  rw [next, run_of_ok hinvocation, hinit]
  exact congrArg (Workspace.mk · _ _) (init_tree_of_hasPath _ colors hpath)

/-- After `init` there is a settings file. -/
theorem Effect.hasPath {outcome : Outcome} (h : workspace.Effect outcome .init) :
    outcome.tree.hasPath workspace.directory workspace.settingsPath := by
  rw [Effect] at h
  split at h
  · next hexists => rwa [h]
  · obtain ⟨place, hrewrites⟩ := h
    exact hrewrites.hasPath

end Runs

/-- What runs change. A run whose arguments are not followed changes nothing. Any other run succeeds
just when what its command needs is there. If it fails it changes nothing, and if it succeeds it
does what its command is for. After `init` has succeeded, it changes nothing again, whatever is run
in between. -/
theorem run_effects (workspace : Workspace) (colors : Bool) (arguments : List String) :
    let settings := Settings.load workspace.tree workspace.directory
    let outcome := workspace.run colors arguments
    (outcome.exitCode ≠ 0 → outcome.tree = workspace.tree)
      ∧ (∀ error, Invocation.ofArguments arguments = .error error → outcome.tree = workspace.tree)
      ∧ ∀ invocation, Invocation.ofArguments arguments = .ok invocation →
        (outcome.exitCode = 0 ↔ workspace.Allows settings invocation.command)
          ∧ (outcome.exitCode = 0 → workspace.Effect outcome invocation.command
            ∧ (invocation.command = .init →
              ∀ runs, ((workspace.next colors arguments).after runs).Initialized)) := by
  intro settings outcome
  refine ⟨fun hcode => ?_, fun error => tree_of_error, fun invocation hinvocation => ?_⟩
  · cases h : Invocation.ofArguments arguments with
    | error error => exact tree_of_error h
    | ok invocation =>
      rcases settles_run h with ⟨-, htree, -⟩ | ⟨hsuccess, -⟩
      · exact htree
      · exact absurd hsuccess hcode
  · have hsettles : workspace.Settles outcome invocation.command := settles_run hinvocation
    rcases hsettles with ⟨hfails, -, hlacks⟩ | ⟨hsuccess, hallows, heffect⟩
    · exact ⟨iff_of_false hfails hlacks, fun hcode => absurd hcode hfails⟩
    · refine ⟨iff_of_true hsuccess hallows, fun _ => ⟨heffect, fun hinit runs => ?_⟩⟩
      -- Either the settings file was there before or it has just been written.
      rw [hinit] at heffect
      exact initialized_after runs heffect.hasPath

/-- A workspace with nothing in it. -/
def bare : Workspace :=
  ⟨.empty, .root, fun _ => none⟩

/-- There is no settings file in it yet, and there is a place for one. -/
theorem allows_bare_init {settings : Settings} : bare.Allows settings .init := by
  have hresolves : bare.tree.Resolves bare.directory bare.directory.path .root :=
    ⟨by decide, by decide, by decide, 0, Nat.zero_le _, .stay rfl (.inl rfl) (.done _)⟩
  have hnames : FileTree.Names bare.directory bare.settingsPath .root Settings.tomlFile := by
    decide +kernel
  exact ⟨⟨.root, hresolves, rfl⟩, .inr (FileTree.writable_name hnames rfl rfl)⟩

/-- The text of a settings file in TOML, broken off in its first line. -/
def brokenText : String :=
  "[scan"

/-- The text of a settings file in JSON with a few entries. -/
def partialText : String :=
  "\x7b\"scan\":\x7b\"max_files\":7\x7d,\"output\":\x7b\"evaluation_file\":\"scores.json\"\x7d\x7d"

/-- The text of a rubric without components. -/
def emptyRubricText : String :=
  "\x7b\"kernel_primitives\":\x7b\x7d,\"os_platform_services\":\x7b\x7d\x7d"

/-- The text of a report on no components. -/
def emptyReportText : String :=
  "\n".intercalate
    ["\x7b\"kernel_primitives\": \x7b\x7d, \"os_services\": \x7b\x7d, \"summary\":",
     "\x7b\"kernel_primitives_score\": 0, \"os_services_score\": 0, \"overall_score\": 0,",
     "\"total_files_scanned\": 0\x7d\x7d"]

/-- A directory with a settings file in TOML that has a given text, another one in JSON, a rubric, a
report and an empty source tree. -/
def dockyard (tomlText : String) : Workspace where
  tree :=
    FileTree.empty
      |>.put .root Settings.tomlFile (.file (Text.Utf8.encode tomlText.toList))
      |>.put .root Settings.jsonFile (.file (Text.Utf8.encode partialText.toList))
      |>.put .root "rubric.json" (.file (Text.Utf8.encode emptyRubricText.toList))
      |>.put .root "report.json" (.file (Text.Utf8.encode emptyReportText.toList))
      |>.put .root "src" .directory
  directory := .root
  refusal := fun _ => none

section Dockyard

variable {tomlText : String}

theorem readText_dockyard_rubric :
    (dockyard tomlText).tree.readText (dockyard tomlText).directory ⟨"rubric.json"⟩
      = .ok emptyRubricText :=
  FileTree.readText_name (by decide : FileTree.Names .root _ .root _) rfl rfl

theorem readText_dockyard_report :
    (dockyard tomlText).tree.readText (dockyard tomlText).directory ⟨"report.json"⟩
      = .ok emptyReportText :=
  FileTree.readText_name (by decide : FileTree.Names .root _ .root _) rfl rfl

/-- The source tree is there. -/
theorem denotes_dockyard_source :
    (dockyard tomlText).tree.Denotes (dockyard tomlText).directory ⟨"src"⟩ .directory :=
  FileTree.denotes_directory (by decide : FileTree.Names .root _ .root _) rfl rfl

/-- There is a place for a file under a name that is free. -/
theorem writable_dockyard (name : String) (hname : FileTree.Names .root ⟨name⟩ .root name)
    (hfree : (dockyard tomlText).tree.entry? (.child name .root) = none) :
    (dockyard tomlText).tree.Writable (dockyard tomlText).directory ⟨name⟩ :=
  FileTree.writable_name hname rfl hfree

/-- The rubric is loaded. -/
theorem exists_load_dockyard :
    ∃ rubric, Rubric.load (dockyard tomlText).tree (dockyard tomlText).directory ⟨"rubric.json"⟩
      = .ok rubric := by
  rw [Rubric.load, readText_dockyard_rubric]
  exact isOk_iff.1 (by decide +kernel)

/-- An evaluation can be made wherever its report can be written. -/
theorem allows_dockyard_evaluate {settings : Settings} {request : EvaluationRequest}
    (hsource : request.source = ⟨"src"⟩) (hrubric : request.rubric = ⟨"rubric.json"⟩)
    (houtput : (dockyard tomlText).tree.Writable (dockyard tomlText).directory
      (request.output.getD settings.evaluationFile)) :
    (dockyard tomlText).Allows settings (.evaluate request) := by
  obtain ⟨rubric, hload⟩ := exists_load_dockyard
  refine ⟨⟨rubric, hrubric ▸ hload, fun _ _ _ _ _ => rfl⟩, ?_, houtput⟩
  rw [hsource]
  exact denotes_dockyard_source

/-- So can a backlog, if the threshold is finite. -/
theorem allows_dockyard_tasks {settings : Settings} {request : BacklogRequest}
    (hresults : request.results = ⟨"report.json"⟩) (hrubric : request.rubric = ⟨"rubric.json"⟩)
    (hthreshold : (request.threshold.getD settings.threshold).isFinite)
    (houtput : (dockyard tomlText).tree.Writable (dockyard tomlText).directory
      (request.output.getD settings.tasksFile)) :
    (dockyard tomlText).Allows settings (.tasks request) := by
  have hread : (Report.ofText emptyReportText.toList).isOk := by
    rw [emptyReportText, String.toList_intercalate]
    decide +kernel
  obtain ⟨report, hreport⟩ := isOk_iff.1 hread
  refine ⟨hthreshold, ⟨emptyReportText, report, ?_, hreport⟩, hrubric ▸ exists_load_dockyard,
    houtput⟩
  rw [hresults]
  exact readText_dockyard_report

/-- The document of a backlog without tasks, at the threshold 60. -/
def emptyBacklogText : String :=
  "\n".intercalate
    ["\x7b",
     "  \"metadata\": \x7b",
     "    \"threshold\": 60.0,",
     "    \"kernel_score\": 0.0,",
     "    \"os_score\": 0.0,",
     "    \"overall_score\": 0.0,",
     "    \"total_files_scanned\": 0",
     "  \x7d,",
     "  \"tasks\": \x7b",
     "    \"kernel_primitives\": [],",
     "    \"os_services\": []",
     "  \x7d,",
     "  \"summary\": \x7b",
     "    \"kernel_components_needing_work\": 0,",
     "    \"os_components_needing_work\": 0,",
     "    \"total_components\": 0",
     "  \x7d",
     "\x7d"]

/-- This is what the report and the rubric come to. -/
theorem render_dockyard_backlog {report : Report} {rubric : Rubric}
    (hreport : Report.ofText emptyReportText.toList = .ok report)
    (hrubric : Rubric.load (dockyard tomlText).tree (dockyard tomlText).directory ⟨"rubric.json"⟩
      = .ok rubric) :
    (report.backlog rubric 60).toJson.text = emptyBacklogText.toList := by
  rw [Rubric.load, readText_dockyard_rubric] at hrubric
  have hmade : ((Report.ofText emptyReportText.toList).toOption.bind fun report =>
      (Rubric.ofText ⟨"rubric.json"⟩ emptyRubricText.toList).toOption.map fun rubric =>
        (report.backlog rubric 60).toJson.text) = some emptyBacklogText.toList := by
    rw [emptyReportText, emptyBacklogText, String.toList_intercalate, String.toList_intercalate]
    decide +kernel
  rw [hreport] at hmade
  dsimp only at hrubric
  rw [hrubric] at hmade
  exact Option.some.inj hmade

end Dockyard

/-- An evaluation whose report goes to a new file. -/
def dockyardEvaluation : EvaluationRequest :=
  ⟨⟨"src"⟩, ⟨"rubric.json"⟩, .json, some ⟨"scores.json"⟩, [], none⟩

/-- A backlog at the threshold 60 that goes to a new file. -/
def dockyardBacklog : BacklogRequest :=
  ⟨⟨"report.json"⟩, ⟨"rubric.json"⟩, some 60, .json, some ⟨"todo.json"⟩⟩

/-- In an empty workspace, a run with a wrong name for a command changes nothing, `--help` neither,
and `init` writes a settings file once. In the other one, an evaluation and a backlog are written to
their files, and an evaluation whose report is to go where the source tree is fails. -/
theorem run_effects_dockyard :
    let workspace := dockyard brokenText
    ((bare.run false ["frobnicate"]).exitCode ≠ 0
        ∧ (bare.run false ["frobnicate"]).tree = bare.tree
        ∧ Invocation.ofArguments ["--help"] = .error .help
        ∧ (bare.run false ["--help"]).tree = bare.tree)
      ∧ (Invocation.ofArguments ["init"] = .ok ⟨.warn, none, .init⟩
        ∧ (bare.run false ["init"]).exitCode = 0
        ∧ bare.Effect (bare.run false ["init"]) .init
        ∧ ∀ runs, ((bare.next false ["init"]).after runs).Initialized)
      ∧ (let arguments := ["evaluate", "src", "--format", "json", "--output", "scores.json"]
        Invocation.ofArguments arguments = .ok ⟨.warn, none, .evaluate dockyardEvaluation⟩
          ∧ (workspace.run false arguments).exitCode = 0
          ∧ workspace.Effect (workspace.run false arguments) (.evaluate dockyardEvaluation))
      ∧ (let arguments :=
          ["tasks", "report.json", "rubric.json", "60", "-f", "json", "-o", "todo.json"]
        Invocation.ofArguments arguments = .ok ⟨.warn, none, .tasks dockyardBacklog⟩
          ∧ (workspace.run false arguments).exitCode = 0
          ∧ (workspace.run false arguments).Writes workspace .json ⟨"todo.json"⟩ emptyBacklogText)
      ∧ (workspace.run false ["evaluate", "src", "--output", "src"]).exitCode ≠ 0
      ∧ (workspace.run false ["evaluate", "src", "--output", "src"]).tree = workspace.tree := by
  intro workspace
  refine ⟨?usage, ?init, ?evaluate, ?tasks, ?unwritable⟩
  case usage =>
    have hwrong : (bare.run false ["frobnicate"]).exitCode ≠ 0 := by decide +kernel
    have hhelp : Invocation.ofArguments ["--help"] = .error .help := by decide +kernel
    exact ⟨hwrong, (run_effects bare false ["frobnicate"]).1 hwrong, hhelp,
      (run_effects bare false ["--help"]).2.1 _ hhelp⟩
  case init =>
    have hinit : Invocation.ofArguments ["init"] = .ok ⟨.warn, none, .init⟩ := by decide +kernel
    obtain ⟨hsuccess, heffect⟩ := (run_effects bare false ["init"]).2.2 _ hinit
    have hcode := hsuccess.2 allows_bare_init
    obtain ⟨heffect, hagain⟩ := heffect hcode
    exact ⟨hinit, hcode, heffect, hagain rfl⟩
  case evaluate =>
    intro arguments
    have harguments : Invocation.ofArguments arguments
        = .ok ⟨.warn, none, .evaluate dockyardEvaluation⟩ := by decide +kernel
    obtain ⟨hsuccess, heffect⟩ := (run_effects workspace false arguments).2.2 _ harguments
    have hcode := hsuccess.2
      (allows_dockyard_evaluate rfl rfl (writable_dockyard "scores.json" (by decide) rfl))
    exact ⟨harguments, hcode, (heffect hcode).1⟩
  case tasks =>
    intro arguments
    have harguments : Invocation.ofArguments arguments
        = .ok ⟨.warn, none, .tasks dockyardBacklog⟩ := by decide +kernel
    obtain ⟨hsuccess, heffect⟩ := (run_effects workspace false arguments).2.2 _ harguments
    have hcode := hsuccess.2 (allows_dockyard_tasks rfl rfl (by decide +kernel)
      (writable_dockyard "todo.json" (by decide) rfl))
    refine ⟨harguments, hcode, ?_⟩
    obtain ⟨-, text, report, rubric, htext, hreport, hrubric, written, hpretty, hwrites⟩ :=
      (heffect hcode).1
    obtain rfl := Except.ok.inj (readText_dockyard_report.symm.trans htext)
    have hwritten : written = emptyBacklogText :=
      String.toList_inj.1 (hpretty.eq_text.trans (render_dockyard_backlog hreport hrubric))
    rwa [hwritten] at hwrites
  case unwritable =>
    have harguments : Invocation.ofArguments ["evaluate", "src", "--output", "src"]
        = .ok ⟨.warn, none,
          .evaluate ⟨⟨"src"⟩, ⟨"rubric.json"⟩, .text, some ⟨"src"⟩, [], none⟩⟩ := by decide +kernel
    obtain ⟨hsuccess, -⟩ :=
      (run_effects workspace false ["evaluate", "src", "--output", "src"]).2.2 _ harguments
    have hcode : (workspace.run false ["evaluate", "src", "--output", "src"]).exitCode ≠ 0 :=
      fun hcode =>
        FileTree.not_writable_of_directory denotes_dockyard_source (hsuccess.1 hcode).2.2
    exact ⟨hcode, (run_effects workspace false ["evaluate", "src", "--output", "src"]).1 hcode⟩

end Workspace

end RubricScore
