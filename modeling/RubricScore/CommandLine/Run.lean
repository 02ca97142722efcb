import RubricScore.Collection
import RubricScore.CommandLine.Invocation
import RubricScore.Evaluation
import RubricScore.Settings

/-!
# Runs

What a command does in a directory: what it prints, which file it writes, and how it ends. A run
that fails writes nothing.
-/

namespace RubricScore

/-- What commands run on: a file tree, the directory in it where they run, and an engine that makes
patterns of cues. -/
structure Workspace where
  /-- The tree. -/
  tree : FileTree
  /-- The directory. -/
  directory : Location
  /-- What the engine that searches for patterns says against a text of which it makes none. -/
  refusal : Refusal

/-- The paths that a command uses, apart from those of the settings. -/
def Command.paths (settings : Settings) : Command → List Path
  | .evaluate request =>
    [request.source, request.rubric, request.output.getD settings.evaluationFile]
  | .tasks request => [request.results, request.rubric, request.output.getD settings.tasksFile]
  | .init => []

/-- The directories into which a command looks. -/
def Command.directories : Command → List Path
  | .evaluate request => [request.source]
  | .tasks _ => []
  | .init => []

/-- Why a command fails. -/
inductive Failure where
  /-- The rubric is not a file. -/
  | rubricNotFound (path : Path)
  /-- The source does not exist. -/
  | sourceNotFound (path : Path)
  /-- The source is not a directory. -/
  | sourceNotDirectory (path : Path)
  /-- The place for a settings file is not a directory. -/
  | notDirectory (path : Path)
  /-- The threshold is infinite or not a number. -/
  | thresholdNotFinite (threshold : Binary64)
  /-- A file cannot be read. -/
  | unreadable (path : Path) (error : FileError)
  /-- A file does not hold a report. -/
  | malformedReport (path : Path) (fault : Json.Fault)
  /-- The rubric cannot be used. -/
  | rubricUnusable (path : Path) (error : RubricError)
  /-- No pattern can be made of a cue of the rubric. -/
  | cuesUnusable (error : RubricError)
  /-- A file cannot be written. -/
  | unwritable (path : Path) (error : FileError)

namespace Failure

/-- The messages of a failure: its own, that of its cause, and so on. -/
def messages : Failure → List String
  | .rubricNotFound path => ["Rubric file not found: " ++ path.text]
  | .sourceNotFound path => ["Source directory not found: " ++ path.text]
  | .sourceNotDirectory path => ["Source path is not a directory: " ++ path.text]
  | .notDirectory path => ["Path is not a directory: " ++ path.text]
  | .thresholdNotFinite threshold =>
    ["Threshold must be a finite number, got " ++ threshold.toPlain]
  | .unreadable path error => ["Failed to read " ++ path.text, error.message]
  | .malformedReport path fault => ["Malformed evaluation report " ++ path.text, fault.message]
  | .rubricUnusable path error => ("Failed to load rubric " ++ path.text) :: error.messages
  | .cuesUnusable error => "Rubric cues could not be compiled" :: error.messages
  | .unwritable path error => ["Failed to write " ++ path.text, error.message]

/-- A text with every line after the first one indented. -/
def hanging (indentation text : String) : String :=
  ("\n" ++ indentation).intercalate (text.splitOn "\n")

/-- The lines about the causes of a failure; they are numbered if there are several. -/
def causesText : List String → String
  | [] => ""
  | [cause] => "\n\nCaused by:\n    " ++ hanging "    " cause
  | causes =>
    "\n\nCaused by:" ++ String.join (causes.mapIdx fun index cause =>
      "\n    " ++ toString index ++ ": " ++ hanging "       " cause)

/-- Text of a failure. -/
def text (failure : Failure) : String :=
  match failure.messages with
  | [] => "Error: "
  | message :: causes => "Error: " ++ message ++ causesText causes

end Failure

/-- How a run ended. -/
inductive Ending where
  /-- It did what was asked for. -/
  | success
  /-- It failed. -/
  | failure (failure : Failure)
  /-- The arguments were not followed. -/
  | usage (error : CommandLine.UsageError)

/-- What a run did. -/
structure Outcome where
  /-- How it ended. -/
  ending : Ending
  /-- What it printed. -/
  output : String
  /-- The file it wrote and the new content. -/
  written : Option (Path × String)
  /-- What it printed after that. -/
  note : String
  /-- The tree after it. -/
  tree : FileTree
  /-- The events of it. -/
  events : List Event

namespace Outcome

/-- The code that tells how a run ended: zero for success and for the help and version that were
asked for, two for wrong usage, one for every other failure. -/
def exitCode (outcome : Outcome) : Nat :=
  match outcome.ending with
  | .success => 0
  | .failure _ => 1
  | .usage .help => 0
  | .usage .version => 0
  | .usage _ => 2

/-- What a run has to say about its failure. -/
def complaint (outcome : Outcome) : String :=
  match outcome.ending with
  | .success => ""
  | .failure failure => line failure.text
  | .usage .help => ""
  | .usage .version => ""
  | .usage .nothingGiven => line CommandLine.UsageError.nothingGiven.message
  | .usage error => line error.message ++ "\nFor more information, try '--help'.\n"

/-- All that a run printed. -/
def printed (outcome : Outcome) : String :=
  outcome.output ++ outcome.note

end Outcome

namespace Workspace

/-- A run that failed after it printed something. -/
def fails (workspace : Workspace) (output : String) (failure : Failure) (events : List Event) :
    Outcome :=
  ⟨.failure failure, output, none, "", workspace.tree, events⟩

/-- A run that ends with the writing of a file. What comes before it is printed even if the file
cannot be written. -/
def concludes (workspace : Workspace) (output note : String) (path : Path) (content : String)
    (events : List Event) : Outcome :=
  match workspace.tree.write workspace.directory path (Text.Utf8.encode content.toList) with
  | .error error => workspace.fails output (.unwritable path error) events
  | .ok tree => ⟨.success, output, some (path, content), note, tree, events⟩

/-- The events of a run that failed before it printed anything: those of the reading of a rubric
that turned out to be unusable. -/
def failureEvents (workspace : Workspace) : Failure → List Event
  | .rubricUnusable path _ => Rubric.loadEvents workspace.tree workspace.directory path
  | _ => []

/-- The mark of success. -/
def tick (colors : Bool) : String :=
  Style.green.apply colors "✓"

/-- A path in a note. -/
def shownPath (colors : Bool) (path : Path) : String :=
  Style.cyan.apply colors path.text

/-- The note on where the output was saved; none when the output is for a program. -/
def savedNote (colors : Bool) (format : OutputFormat) (what : String) (path : Path) : String :=
  match format with
  | .json => ""
  | .text => line "" ++ line (tick colors ++ " " ++ what ++ " saved to " ++ shownPath colors path)

/-- The options of a scan: those of the settings, with what the request says in place of theirs. -/
def scanOptions (settings : Settings) (request : EvaluationRequest) : ScanOptions :=
  let configured := settings.scan.normalized
  let options :=
    if request.extensions.isEmpty then configured else configured.withExtensions request.extensions
  { options with maxFiles := request.maxFiles.getD options.maxFiles }

/-- Loads the rubric for an evaluation, after looking at both paths that the request names. -/
def evaluationRubric (workspace : Workspace) (request : EvaluationRequest) :
    Except Failure Rubric := do
  let tree := workspace.tree
  let directory := workspace.directory
  -- The rubric is looked at first, so of two missing paths it is the one that is reported.
  if !tree.isFile directory request.rubric then throw (.rubricNotFound request.rubric)
  if !tree.hasPath directory request.source then throw (.sourceNotFound request.source)
  if !tree.isDirectory directory request.source then throw (.sourceNotDirectory request.source)
  (Rubric.load tree directory request.rubric).mapError (.rubricUnusable request.rubric)

/-- Scores a source tree. -/
def evaluate (workspace : Workspace) (colors : Bool) (settings : Settings)
    (request : EvaluationRequest) : Outcome :=
  match workspace.evaluationRubric request with
  | .error failure => workspace.fails "" failure (workspace.failureEvents failure)
  | .ok rubric =>
    let loadEvents := Rubric.loadEvents workspace.tree workspace.directory request.rubric
    match Evaluator.compile workspace.refusal rubric with
    | .error error => workspace.fails "" (.cuesUnusable error) loadEvents
    | .ok evaluator =>
      let collection :=
        workspace.tree.collect workspace.directory request.source (scanOptions settings request)
      let report := evaluator.evaluate collection.corpus
      let path := request.output.getD settings.evaluationFile
      workspace.concludes (line (report.render colors request.format))
        (savedNote colors request.format "Results" path) path report.toJson.render
        (loadEvents ++ collection.events ++ report.evaluationEvents)

/-- The threshold, report and rubric for a backlog. -/
def backlogSources (workspace : Workspace) (settings : Settings) (request : BacklogRequest) :
    Except Failure (Binary64 × Report × Rubric) := do
  let threshold := request.threshold.getD settings.threshold
  -- The settings may hold any number, unlike the arguments.
  if !threshold.isFinite then throw (.thresholdNotFinite threshold)
  let text ← (workspace.tree.readText workspace.directory request.results).mapError
    (.unreadable request.results)
  let report ← (Report.ofText text.toList).mapError (.malformedReport request.results)
  let rubric ← (Rubric.load workspace.tree workspace.directory request.rubric).mapError
    (.rubricUnusable request.rubric)
  return (threshold, report, rubric)

/-- Makes a backlog. -/
def tasks (workspace : Workspace) (colors : Bool) (settings : Settings)
    (request : BacklogRequest) : Outcome :=
  match workspace.backlogSources settings request with
  | .error failure => workspace.fails "" failure (workspace.failureEvents failure)
  | .ok (threshold, report, rubric) =>
    let backlog := report.backlog rubric threshold
    let path := request.output.getD settings.tasksFile
    workspace.concludes (line (backlog.render colors request.format))
      (savedNote colors request.format "Tasks" path) path backlog.toJson.render
      (Rubric.loadEvents workspace.tree workspace.directory request.rubric
        ++ Backlog.events report rubric threshold)

/-- The path of the settings file that a directory starts with. -/
def settingsPath (workspace : Workspace) : Path :=
  (workspace.directory.child Settings.tomlFile).path

/-- Writes a settings file unless there is one. -/
def init (workspace : Workspace) (colors : Bool) : Outcome :=
  let directory := workspace.directory.path
  let path := workspace.settingsPath
  if !workspace.tree.isDirectory workspace.directory directory then
    workspace.fails "" (.notDirectory directory) []
  else if workspace.tree.hasPath workspace.directory path then
    let notice := tick colors ++ " Config already exists at " ++ shownPath colors path
    ⟨.success, line notice, none, "", workspace.tree, []⟩
  else
    workspace.concludes ""
      (line (tick colors ++ " Created " ++ shownPath colors path) ++ line ""
        ++ line (Style.dim.apply colors "→"
          ++ " Edit [scan] extensions to match your tree, then run "
          ++ Style.bold.apply colors "kernel-eval evaluate <SOURCE_DIR>"))
      path Settings.starterText []

/-- Runs a command. -/
def perform (workspace : Workspace) (colors : Bool) (command : Command) : Outcome :=
  let settings := Settings.load workspace.tree workspace.directory
  let outcome :=
    match command with
    | .evaluate request => workspace.evaluate colors settings request
    | .tasks request => workspace.tasks colors settings request
    | .init => workspace.init colors
  { outcome with
    events := Settings.loadEvents workspace.tree workspace.directory ++ outcome.events }

/-- Runs what an argument list asks for. -/
def run (workspace : Workspace) (colors : Bool) (arguments : List String) : Outcome :=
  match Invocation.ofArguments arguments with
  | .error error =>
    let output :=
      -- Help and version are output; other errors are left to the complaint.
      match error with
      | .help => line error.message
      | .version => line error.message
      | _ => ""
    ⟨.usage error, output, none, "", workspace.tree, []⟩
  | .ok invocation => workspace.perform colors invocation.command

end Workspace

end RubricScore
