import RubricScore.Proofs.CommandLine.Effects
import RubricScore.Proofs.Settings.Objects
import RubricScore.Proofs.Settings.Sheets

/-!
# Which settings are in force

The settings of a project are those of the first of its files from which settings are read, and the
defaults if there is no such file. A command goes by them, setting by setting, except where its
request says something else.

## Main definitions

* `Settings.Provides`: a file in a directory has a text from which settings are read;
* `Settings.Prevails`: the settings of a project in a directory;
* `Command.flag?`: what a command says about a setting;
* `Settings.inForce`: the value of a setting for a command;
* `Workspace.Uses`: what a successful run of a command makes of the settings.

## Main results

* `Settings.prevails_load`: the settings that are loaded are those of the project;
* `Workspace.performWith_inForce`: what a command says about the settings might as well stand in the
  settings;
* `Workspace.run_settings`: the settings that a run goes by, for every argument list.
-/

namespace RubricScore

namespace Settings

section Files

variable (tree : FileTree) (directory : Location)

/-- A file in the directory has a text from which the settings are read. -/
structure Provides (source : Source) (text : String) (settings : Settings) : Prop where
  /-- The text is that of the file. -/
  readable : tree.readText directory ⟨source.fileName⟩ = .ok text
  /-- The settings are read from it. -/
  decodes : source.decode text.toList = .ok settings

/-- The settings of a project in the directory: those of the file in TOML if it provides any, else
those of the file in JSON if that does, else the defaults. -/
inductive Prevails : Settings → Prop
  /-- The file in TOML provides them. -/
  | toml {text : String} {settings : Settings} (h : Provides tree directory .toml text settings) :
    Prevails settings
  /-- The file in TOML provides none, the one in JSON provides them. -/
  | json {text : String} {settings : Settings}
    (hnone : ∀ text other, ¬Provides tree directory .toml text other)
    (h : Provides tree directory .json text settings) : Prevails settings
  /-- No file provides any. -/
  | default (hnone : ∀ source text other, ¬Provides tree directory source text other) :
    Prevails default

variable {tree directory}

/-- A file is found to have settings just when it provides them. -/
theorem attempt_eq_some_ok_iff {source : Source} {settings : Settings} :
    attempt tree directory source = some (.ok settings)
      ↔ ∃ text, Provides tree directory source text settings := by
  rw [attempt]
  constructor
  · intro h
    split at h
    · split at h
      · exact absurd (Option.some.inj h) nofun
      · next text htext => exact ⟨text, htext, Option.some.inj h⟩
    · exact absurd h nofun
  · rintro ⟨text, htext, hdecode⟩
    -- A file that is read is there.
    obtain ⟨bytes, hdenotes⟩ := FileTree.denotes_of_readText htext
    rw [if_pos (FileTree.hasPath_iff.2 ⟨_, hdenotes⟩)]
    simp only [htext, hdecode]

/-- The settings that are loaded are those of the project. -/
theorem prevails_load (tree : FileTree) (directory : Location) :
    Prevails tree directory (load tree directory) := by
  -- The files are tried one after the other, and the first that provides settings is taken.
  rw [load, Source.all, loadFrom]
  split
  · next settings htoml =>
    obtain ⟨text, hprovides⟩ := attempt_eq_some_ok_iff.1 htoml
    exact .toml hprovides
  · next htoml =>
    have hnone : ∀ text other, ¬Provides tree directory .toml text other := fun text other h =>
      htoml other (attempt_eq_some_ok_iff.2 ⟨text, h⟩)
    rw [loadFrom]
    split
    · next settings hjson =>
      obtain ⟨text, hprovides⟩ := attempt_eq_some_ok_iff.1 hjson
      exact .json hnone hprovides
    · next hjson =>
      refine .default fun source => ?_
      cases source with
      | toml => exact hnone
      | json => exact fun text other h => hjson other (attempt_eq_some_ok_iff.2 ⟨text, h⟩)

end Files

end Settings

/-! ## What commands say about settings -/

/-- What a command says about a setting. An empty list of extensions says nothing. -/
def Command.flag? : Command → (key : Settings.Key) → Option key.Value
  | .evaluate request, .extensions =>
    if request.extensions.isEmpty then none else some request.extensions
  | .evaluate request, .maxFiles => request.maxFiles
  | .evaluate request, .evaluationFile => request.output
  | .tasks request, .threshold => request.threshold
  | .tasks request, .tasksFile => request.output
  | _, _ => none

/-- The command that says nothing about settings and is the same apart from that. -/
def Command.withoutFlags : Command → Command
  | .evaluate request =>
    .evaluate { request with extensions := [], maxFiles := none, output := none }
  | .tasks request => .tasks { request with threshold := none, output := none }
  | .init => .init

/-- The value of a setting for a command: what the command says, else that of the settings. -/
def Settings.inForce (settings : Settings) (command : Command) (key : Settings.Key) : key.Value :=
  (command.flag? key).getD (settings.get key)

namespace Workspace

/-- What a successful run of a command makes of the settings. -/
def Uses (workspace : Workspace) (outcome : Outcome) (values : (key : Settings.Key) → key.Value) :
    Command → Prop
  | .evaluate request =>
    let options : ScanOptions :=
      ⟨ScanOptions.normalizeExtensions (values .extensions), values .maxFiles, values .maxFileBytes⟩
    let collection := workspace.tree.collect workspace.directory request.source options
    ∃ rubric, Rubric.load workspace.tree workspace.directory request.rubric = .ok rubric
      ∧ outcome.Delivers workspace request.format (values .evaluationFile)
        (rubric.evaluate collection.corpus).toJson
  | .tasks request =>
    (values .threshold).isFinite ∧ ∃ text report rubric,
      workspace.tree.readText workspace.directory request.results = .ok text
        ∧ Report.ofText text.toList = .ok report
        ∧ Rubric.load workspace.tree workspace.directory request.rubric = .ok rubric
        ∧ outcome.Delivers workspace request.format (values .tasksFile)
          (report.backlog rubric (values .threshold)).toJson
  | .init => workspace.Effect outcome .init

/-- The run of a command with given settings. -/
def performWith (workspace : Workspace) (colors : Bool) (settings : Settings) : Command → Outcome
  | .evaluate request => workspace.evaluate colors settings request
  | .tasks request => workspace.tasks colors settings request
  | .init => workspace.init colors

variable {workspace : Workspace} {colors : Bool}

theorem perform_eq (command : Command) :
    workspace.perform colors command =
      let settings := Settings.load workspace.tree workspace.directory
      let outcome := workspace.performWith colors settings command
      { outcome with
        events := Settings.loadEvents workspace.tree workspace.directory ++ outcome.events } := by
  cases command <;> rfl

/-- A scan goes by the settings in force. -/
theorem scanOptions_eq (settings : Settings) (request : EvaluationRequest) :
    let values := settings.inForce (.evaluate request)
    scanOptions settings request = ⟨ScanOptions.normalizeExtensions (values .extensions),
      values .maxFiles, values .maxFileBytes⟩ := by
  dsimp only [Settings.inForce, Command.flag?, scanOptions]
  split <;> rfl

/-- What a command says about the settings might as well stand in the settings. -/
theorem performWith_inForce (settings : Settings) (command : Command) :
    workspace.performWith colors settings command =
      workspace.performWith colors (.ofKeys (settings.inForce command)) command.withoutFlags := by
  cases command with
  | evaluate request =>
    have hscan : scanOptions (.ofKeys (settings.inForce (.evaluate request)))
        { request with extensions := [], maxFiles := none, output := none }
        = scanOptions settings request := (scanOptions_eq settings request).symm
    rw [performWith, Command.withoutFlags, performWith, evaluate, evaluate, hscan]
    rfl
  | tasks request => rfl
  | init => rfl

/-- What a run did it did with the settings in force. -/
theorem Effect.uses {outcome : Outcome} {command : Command} (h : workspace.Effect outcome command) :
    let settings := Settings.load workspace.tree workspace.directory
    workspace.Uses outcome (settings.inForce command) command := by
  cases command with
  | evaluate request =>
    obtain ⟨rubric, hrubric, hdelivers⟩ := h
    rw [scanOptions_eq] at hdelivers
    exact ⟨rubric, hrubric, hdelivers⟩
  | tasks request => exact h
  | init => exact h

/-- What a command needs depends on the settings in force. -/
theorem allows_inForce_iff {settings : Settings} {command : Command} :
    workspace.Allows settings command
      ↔ workspace.Allows (.ofKeys (settings.inForce command)) command.withoutFlags := by
  cases command <;> exact Iff.rfl

/-- A file in TOML that is laid out as a sheet provides what the sheet says. -/
theorem provides_sheet_iff {tree : FileTree} {directory : Location} {text : String}
    {sheet : Toml.Sheet} {settings : Settings}
    (htext : tree.readText directory ⟨Settings.tomlFile⟩ = .ok text)
    (hsheet : sheet.SpelledBy text.toList)
    (htop : ∀ name ∈ Settings.Key.tables, name ∉ sheet.top.map Prod.fst) :
    Settings.Provides tree directory .toml text settings
      ↔ sheet.IsDistinct ∧ settings.SaidBy sheet := by
  rw [← Settings.ofToml_sheet_iff hsheet htop, ← Settings.decode_toml_eq_ok_iff]
  exact ⟨fun h => h.decodes, fun h => ⟨htext, h⟩⟩

/-- A file in JSON that is laid out in objects provides what the objects say. -/
theorem provides_objects_iff {tree : FileTree} {directory : Location} {text : String}
    {members : List (Json.Quoted × Json.Node)} {settings : Settings}
    (htext : tree.readText directory ⟨Settings.jsonFile⟩ = .ok text)
    (hlayout : Settings.IsLaidOutIn members text.toList) :
    Settings.Provides tree directory .json text settings
      ↔ Settings.IsDistinctIn members ∧ settings.SetBy members := by
  rw [← Settings.ofJson_eq_ok_iff hlayout]
  exact ⟨fun h => mapError_eq_ok_iff.1 h.decodes, fun h => ⟨htext, mapError_eq_ok_iff.2 h⟩⟩

/-- The settings that a run goes by. They are those of the first file that provides any, with the
default for every setting that the file has no entry for. A file in TOML that is laid out as a sheet
and a file in JSON that is laid out in objects provide what stands there, unless a name stands twice
or an entry has a value of the wrong kind. A command does with the settings what it does with those
in force, each of which is what the arguments say or else what the settings say, and it succeeds if
it has all it needs for that. -/
theorem run_settings (workspace : Workspace) (colors : Bool) {arguments : List String}
    {invocation : Invocation} (h : Invocation.ofArguments arguments = .ok invocation) :
    let settings := Settings.load workspace.tree workspace.directory
    let values := settings.inForce invocation.command
    let outcome := workspace.run colors arguments
    let configured := workspace.performWith colors (.ofKeys values) invocation.command.withoutFlags
    Settings.Prevails workspace.tree workspace.directory settings
      ∧ (∀ source text, Settings.Provides workspace.tree workspace.directory source text settings →
        settings.Follows source text.toList)
      ∧ (∀ text sheet, workspace.tree.readText workspace.directory ⟨Settings.tomlFile⟩ = .ok text →
        sheet.SpelledBy text.toList →
        (∀ name ∈ Settings.Key.tables, name ∉ sheet.top.map Prod.fst) →
        ∀ provided, Settings.Provides workspace.tree workspace.directory .toml text provided
          ↔ sheet.IsDistinct ∧ provided.SaidBy sheet)
      ∧ (∀ text members,
        workspace.tree.readText workspace.directory ⟨Settings.jsonFile⟩ = .ok text →
        Settings.IsLaidOutIn members text.toList →
        ∀ provided, Settings.Provides workspace.tree workspace.directory .json text provided
          ↔ Settings.IsDistinctIn members ∧ provided.SetBy members)
      ∧ outcome = { configured with
        events := Settings.loadEvents workspace.tree workspace.directory ++ configured.events }
      ∧ (outcome.exitCode = 0
        ↔ workspace.Allows (.ofKeys values) invocation.command.withoutFlags)
      ∧ (outcome.exitCode = 0 → workspace.Uses outcome values invocation.command) := by
  intro settings values outcome configured
  refine ⟨Settings.prevails_load _ _, fun source text hprovides =>
    Settings.follows_of_decode hprovides.decodes, fun text sheet htext hsheet htop provided =>
      provides_sheet_iff htext hsheet htop, fun text members htext hlayout provided =>
        provides_objects_iff htext hlayout, ?_, ?_⟩
  · have hrun : outcome = workspace.perform colors invocation.command := run_of_ok h
    have hconfigured : workspace.performWith colors settings invocation.command = configured :=
      performWith_inForce settings invocation.command
    rw [hrun, perform_eq, ← hconfigured]
  · have hallows : workspace.Allows settings invocation.command
        ↔ workspace.Allows (.ofKeys values) invocation.command.withoutFlags := allows_inForce_iff
    have hsettles : workspace.Settles outcome invocation.command := settles_run h
    rw [← hallows]
    rcases hsettles with ⟨hfails, -, hlacks⟩ | ⟨hsuccess, hgranted, heffect⟩
    · exact ⟨iff_of_false hfails hlacks, fun hcode => absurd hcode hfails⟩
    · exact ⟨iff_of_true hsuccess hgranted, fun _ => heffect.uses⟩

/-! ## Projects with two settings files -/

section Dockyard

variable {tomlText : String}

theorem readText_dockyard_toml :
    (dockyard tomlText).tree.readText (dockyard tomlText).directory ⟨Settings.tomlFile⟩
      = .ok tomlText :=
  FileTree.readText_name (by decide : FileTree.Names .root _ .root _) rfl rfl

theorem readText_dockyard_json :
    (dockyard tomlText).tree.readText (dockyard tomlText).directory ⟨Settings.jsonFile⟩
      = .ok partialText :=
  FileTree.readText_name (by decide : FileTree.Names .root _ .root _) rfl rfl

/-- What the file in TOML provides is what is loaded. -/
theorem load_dockyard_of_toml {settings : Settings}
    (hprovides : Settings.Provides (dockyard tomlText).tree (dockyard tomlText).directory .toml
      tomlText settings) :
    Settings.load (dockyard tomlText).tree (dockyard tomlText).directory = settings := by
  have hprevails := Settings.prevails_load (dockyard tomlText).tree (dockyard tomlText).directory
  generalize Settings.load (dockyard tomlText).tree (dockyard tomlText).directory = loaded
    at hprevails
  cases hprevails with
  | toml h =>
    obtain rfl := Except.ok.inj (hprovides.readable.symm.trans h.readable)
    exact Except.ok.inj (h.decodes.symm.trans hprovides.decodes)
  | json hnone => exact absurd hprovides (hnone _ _)
  | default hnone => exact absurd hprovides (hnone _ _ _)

end Dockyard

/-- The settings of the file in JSON. -/
def partialSettings : Settings :=
  { Settings.default with scan.maxFiles := 7, evaluationFile := ⟨"scores.json"⟩ }

/-- What stands in the file. -/
def partialMembers : List (Json.Quoted × Json.Node) :=
  [(.ofString "scan", .object [(.ofString "max_files", .number ⟨false, ['7'], [], none⟩)] none),
   (.ofString "output",
     .object [(.ofString "evaluation_file", .string (.ofString "scores.json"))] none)]

/-- It stands there in two objects. -/
theorem isLaidOutIn_partialMembers : Settings.IsLaidOutIn partialMembers partialText.toList where
  document := Json.isDocument_iff.2 ⟨by rfl, rfl⟩
  tables table _ node hnode := by
    cases hnode with
    | member hmember _ =>
      simp only [partialMembers, List.mem_cons, Prod.mk.injEq, List.not_mem_nil, or_false]
        at hmember
      rcases hmember with ⟨-, rfl⟩ | ⟨-, rfl⟩
      · exact ⟨_, rfl⟩
      · exact ⟨_, rfl⟩

/-- The settings are provided by it. -/
theorem provides_dockyard_json :
    Settings.Provides (dockyard tomlText).tree (dockyard tomlText).directory .json partialText
      partialSettings :=
  ⟨readText_dockyard_json, by decide +kernel⟩

/-- They are loaded if the file in TOML is broken, and nothing is taken from that one. -/
theorem load_dockyard_of_broken :
    Settings.load (dockyard brokenText).tree (dockyard brokenText).directory = partialSettings := by
  have hprevails :=
    Settings.prevails_load (dockyard brokenText).tree (dockyard brokenText).directory
  generalize Settings.load (dockyard brokenText).tree (dockyard brokenText).directory = settings
    at hprevails
  cases hprevails with
  | toml h =>
    obtain ⟨htext, hdecode⟩ := h
    obtain rfl := Except.ok.inj (readText_dockyard_toml.symm.trans htext)
    have hbroken : (Settings.Source.toml.decode brokenText.toList).isOk = false := by
      decide +kernel
    exact absurd (isOk_iff.2 ⟨_, hdecode⟩) (Bool.eq_false_iff.1 hbroken)
  | json _ h =>
    obtain ⟨htext, hdecode⟩ := h
    obtain rfl := Except.ok.inj (readText_dockyard_json.symm.trans htext)
    exact Except.ok.inj (hdecode.symm.trans (@provides_dockyard_json brokenText).decodes)
  | default hnone => exact absurd provides_dockyard_json (hnone .json partialText partialSettings)

/-- The text of a settings file in TOML. -/
def weeklyText : String :=
  "[tasks]\nthreshold = 60\n\n[output]\ntasks_file = 'todo.json' # once a week\n"

/-- What stands in it. -/
def weeklySheet : Toml.Sheet where
  top := []
  tables :=
    [("tasks", [("threshold", .integer 60)]), ("output", [("tasks_file", .string "todo.json")])]

/-- What it says. -/
def weeklySettings : Settings :=
  { Settings.default with threshold := 60, tasksFile := ⟨"todo.json"⟩ }

open Toml in
/-- It stands there line by line. -/
theorem spelledBy_weeklySheet : weeklySheet.SpelledBy weeklyText.toList := by
  have hnone : IsPad [] := nofun
  have hblank : IsPad [' '] := List.forall_mem_singleton.2 rfl
  have hempty : IsTrail [] := .parts hnone .absent
  have hpath : ∀ (name : List Char) {back : List Char}, name ≠ [] → name.all isKeyChar →
      IsPad back → IsShortPath [String.ofList name] (name ++ back) := fun _ _ hne hname hback =>
    ⟨.last hnone (.bare hne (List.all_eq_true.1 hname)) hback, (by decide : 1 < depthLimit)⟩
  have hheader : ∀ (name : List Char) {rest : List Char} {statements : List Statement}, name ≠ [] →
      name.all isKeyChar → IsStatements statements rest →
      IsStatements (.table [String.ofList name] :: statements)
        ('[' :: (name ++ [] ++ [']']) ++ ('\n' :: rest)) := fun name _ _ hne hname hrest =>
    .line hnone (.table (hpath name hne hname hnone)) hempty .newline hrest
  have hinteger : IsValue (depthLimit - 1) (.integer 60) "60".toList := by
    refine IsAtom.isValue (.scalar (.integer ?_)) _
    have hdigits : ['6', '0'].all Binary64.isDigit := rfl
    have hwhole : IsWhole ['6', '0'] ['6', '0'] :=
      ⟨.run (by decide) (List.all_eq_true.1 hdigits), .inr (by decide)⟩
    exact .parts .none hwhole (by decide) (by decide)
  have hstring : IsValue (depthLimit - 1) (.string "todo.json") "'todo.json'".toList := by
    refine IsAtom.isValue (.string ?_) _
    have hcontent : "todo.json".toList.all fun c => isTextChar c && c != '\'' := by decide
    refine @IsQuoted.literal "todo.json".toList fun c hc => ?_
    simpa using List.all_eq_true.1 hcontent c hc
  have hcomment : IsTrail " # once a week".toList :=
    .parts hblank (.hash (List.all_eq_true.1 (by decide)))
  -- The lines are put together from the last one on.
  have hlast := IsStatements.line hnone
    (.binding (hpath "tasks_file".toList (by decide) (by decide) hblank) hblank hstring)
    hcomment .newline (.done hempty)
  have houtput := hheader "output".toList (by decide) (by decide) hlast
  have hthreshold := IsStatements.line hnone
    (.binding (hpath "threshold".toList (by decide) (by decide) hblank) hblank hinteger)
    hempty .newline (.skip hempty .newline houtput)
  exact hheader "tasks".toList (by decide) (by decide) hthreshold

/-- An evaluation that says something about one setting. -/
def cappedRequest : EvaluationRequest :=
  ⟨⟨"src"⟩, ⟨"rubric.json"⟩, .text, none, [], some 3⟩

/-- A backlog that says nothing about settings. -/
def plainBacklog : BacklogRequest :=
  ⟨⟨"report.json"⟩, ⟨"rubric.json"⟩, none, .text, none⟩

/-- A backlog that says something about both of its settings. -/
def strictBacklog : BacklogRequest :=
  ⟨⟨"report.json"⟩, ⟨"rubric.json"⟩, some 75, .text, some ⟨"strict.json"⟩⟩

/-- With a broken file in TOML, an evaluation reads three files at most, as the arguments say, and
writes to the file that the settings in JSON name. With a whole one, nothing comes from the file in
JSON, and a backlog has its threshold and its file from the settings or from the arguments. -/
theorem run_settings_dockyard :
    (let workspace := dockyard brokenText
      let command : Command := .evaluate cappedRequest
      let values := partialSettings.inForce command
      let outcome := workspace.run false ["evaluate", "src", "--max-files", "3"]
      partialSettings.SetBy partialMembers
        ∧ values .maxFiles = 3 ∧ values .evaluationFile = ⟨"scores.json"⟩
        ∧ values .extensions = ScanOptions.defaultExtensions
        ∧ Settings.Prevails workspace.tree workspace.directory partialSettings
        ∧ outcome.exitCode = 0 ∧ workspace.Uses outcome values command)
      ∧ (let workspace := dockyard weeklyText
        let command : Command := .tasks plainBacklog
        let values := weeklySettings.inForce command
        let outcome := workspace.run false ["tasks", "report.json"]
        weeklySettings.SaidBy weeklySheet
          ∧ weeklySettings.evaluationFile = ⟨"evaluation_results.json"⟩
          ∧ Settings.Prevails workspace.tree workspace.directory weeklySettings
          ∧ values .threshold = 60 ∧ values .tasksFile = ⟨"todo.json"⟩
          ∧ outcome.exitCode = 0 ∧ workspace.Uses outcome values command)
      ∧ (let workspace := dockyard weeklyText
        let command : Command := .tasks strictBacklog
        let values := weeklySettings.inForce command
        let outcome := workspace.run false
          ["tasks", "report.json", "rubric.json", "75", "-o", "strict.json"]
        values .threshold = 75 ∧ values .tasksFile = ⟨"strict.json"⟩
          ∧ outcome.exitCode = 0 ∧ workspace.Uses outcome values command) := by
  have hweekly : Settings.Provides (dockyard weeklyText).tree (dockyard weeklyText).directory .toml
      weeklyText weeklySettings := by
    refine ⟨readText_dockyard_toml, Settings.decode_toml_eq_ok_iff.2 ?_⟩
    decide +kernel
  refine ⟨?broken, ?settings, ?arguments⟩
  case broken =>
    intro workspace command values outcome
    have harguments : Invocation.ofArguments ["evaluate", "src", "--max-files", "3"]
        = .ok ⟨.warn, none, command⟩ := by decide +kernel
    obtain ⟨hprevails, -, -, hobjects, -, hsuccess, huses⟩ :=
      run_settings workspace false harguments
    rw [load_dockyard_of_broken] at hprevails hsuccess huses
    obtain ⟨-, hset⟩ := (hobjects partialText partialMembers readText_dockyard_json
      isLaidOutIn_partialMembers partialSettings).1 provides_dockyard_json
    have hcode : outcome.exitCode = 0 := hsuccess.2
      (allows_dockyard_evaluate rfl rfl (writable_dockyard "scores.json" (by decide) rfl))
    exact ⟨hset, rfl, rfl, rfl, hprevails, hcode, huses hcode⟩
  case settings =>
    intro workspace command values outcome
    have harguments : Invocation.ofArguments ["tasks", "report.json"]
        = .ok ⟨.warn, none, command⟩ := by decide +kernel
    obtain ⟨hprevails, -, hsheet, -, -, hsuccess, huses⟩ := run_settings workspace false harguments
    rw [load_dockyard_of_toml hweekly] at hprevails hsuccess huses
    obtain ⟨-, hsaid⟩ := (hsheet weeklyText weeklySheet readText_dockyard_toml
      spelledBy_weeklySheet (by decide) weeklySettings).1 hweekly
    have hcode : outcome.exitCode = 0 := hsuccess.2 (allows_dockyard_tasks rfl rfl
      (by decide +kernel) (writable_dockyard "todo.json" (by decide) rfl))
    exact ⟨hsaid, rfl, hprevails, rfl, rfl, hcode, huses hcode⟩
  case arguments =>
    intro workspace command values outcome
    have harguments : Invocation.ofArguments
        ["tasks", "report.json", "rubric.json", "75", "-o", "strict.json"]
        = .ok ⟨.warn, none, command⟩ := by decide +kernel
    obtain ⟨-, -, -, -, -, hsuccess, huses⟩ := run_settings workspace false harguments
    rw [load_dockyard_of_toml hweekly] at hsuccess huses
    have hcode : outcome.exitCode = 0 := hsuccess.2 (allows_dockyard_tasks rfl rfl
      (by decide +kernel) (writable_dockyard "strict.json" (by decide) rfl))
    exact ⟨rfl, rfl, hcode, huses hcode⟩

end Workspace

end RubricScore
