import RubricScore.Backlog.Basic
import RubricScore.FileTree.Access
import RubricScore.Json.Decode
import RubricScore.Rubric.Load
import RubricScore.ScanOptions
import RubricScore.Toml.Document

/-!
# Settings

The settings of a project, read from one of two files in its directory. Each field that the file
does not have keeps its default, and nothing is taken from a file that cannot be read.
-/

namespace RubricScore

/-- The settings of a project. -/
structure Settings where
  /-- Which files are scanned, as written. -/
  scan : ScanOptions
  /-- Components scoring below it get tasks. -/
  threshold : Binary64
  /-- File for reports. -/
  evaluationFile : Path
  /-- File for backlogs. -/
  tasksFile : Path
deriving DecidableEq

namespace Settings

/-- The settings that are used when there are none. -/
def default : Settings where
  scan := .default
  threshold := defaultThreshold
  evaluationFile := ⟨"evaluation_results.json"⟩
  tasksFile := ⟨"implementation_tasks.json"⟩

/-- Name of the file with settings as TOML. -/
def tomlFile : String :=
  "kernel-eval.toml"

/-- Name of the file with settings as JSON. -/
def jsonFile : String :=
  ".kernel-evalrc.json"

section Document

open Json (Shape Reader field)

/-- Reads a path. -/
def readPath : Reader Path := fun room node =>
  (Json.readText "path string" room node).map Path.mk

/-- The record of the scan options. -/
def scanShape : Shape ScanOptions where
  name := "ScanConfig"
  blank := .default
  fields :=
    [field "extensions" false (Json.readList Json.readString) fun x o => { o with extensions := x },
     field "max_files" false (Json.readWord "usize") fun x o => { o with maxFiles := x },
     field "max_file_bytes" false (Json.readWord "u64") fun x o => { o with maxFileBytes := x }]

/-- The record of the threshold. -/
def tasksShape : Shape Binary64 where
  name := "TasksConfig"
  blank := defaultThreshold
  fields := [field "threshold" false Json.readReal fun x _ => x]

/-- The record of the files: that for reports and that for backlogs. -/
def outputShape : Shape (Path × Path) where
  name := "OutputConfig"
  blank := (Settings.default.evaluationFile, Settings.default.tasksFile)
  fields :=
    [field "evaluation_file" false readPath fun x files => (x, files.2),
     field "tasks_file" false readPath fun x files => (files.1, x)]

/-- The record of the settings. -/
def shape : Shape Settings where
  name := "EvalConfig"
  blank := Settings.default
  fields :=
    [field "scan" false (Json.readRecord scanShape) fun x s => { s with scan := x },
     field "tasks" false (Json.readRecord tasksShape) fun x s => { s with threshold := x },
     field "output" false (Json.readRecord outputShape)
       fun x s => { s with evaluationFile := x.1, tasksFile := x.2 }]

/-- Settings from a text in JSON. -/
def ofJson (text : List Char) : Except Json.Fault Settings :=
  Json.decode (Json.readRecord shape) text

end Document

section Table

open Toml (Value fieldOr)

/-- Scan options from a table. -/
def scanOfToml (value : Value) : Option ScanOptions := do
  let field ← value.fields? ["extensions", "max_files", "max_file_bytes"]
  let extensions ← fieldOr ScanOptions.defaultExtensions Value.strings? (field "extensions")
  let maxFiles ← fieldOr 0 Value.word? (field "max_files")
  let maxFileBytes ← fieldOr 0 Value.word? (field "max_file_bytes")
  return ⟨extensions, maxFiles, maxFileBytes⟩

/-- The threshold from a table. -/
def thresholdOfToml (value : Value) : Option Binary64 := do
  let field ← value.fields? ["threshold"]
  fieldOr defaultThreshold Value.real? (field "threshold")

/-- The file for reports and the one for backlogs from a table. -/
def filesOfToml (value : Value) : Option (Path × Path) := do
  let field ← value.fields? ["evaluation_file", "tasks_file"]
  let evaluationFile ←
    fieldOr default.evaluationFile.text Value.string? (field "evaluation_file")
  let tasksFile ← fieldOr default.tasksFile.text Value.string? (field "tasks_file")
  return (⟨evaluationFile⟩, ⟨tasksFile⟩)

/-- Settings from a text in TOML. -/
def ofToml (text : List Char) : Option Settings := do
  let members ← Toml.document? text
  let scan ← fieldOr default.scan scanOfToml (members.lookup "scan")
  let threshold ← fieldOr default.threshold thresholdOfToml (members.lookup "tasks")
  let (evaluationFile, tasksFile) ←
    fieldOr (default.evaluationFile, default.tasksFile) filesOfToml (members.lookup "output")
  return { scan, threshold, evaluationFile, tasksFile }

end Table

/-- A file with settings that can be looked for in a directory. -/
inductive Source where
  /-- The file in TOML. -/
  | toml
  /-- The file in JSON. -/
  | json
deriving DecidableEq

namespace Source

/-- Name of the file. -/
def fileName : Source → String
  | .toml => tomlFile
  | .json => jsonFile

/-- The files in the order in which they are tried. -/
def all : List Source :=
  [.toml, .json]

/-- The path of the file in a directory. -/
def path (source : Source) (directory : Location) : Path :=
  (directory.child source.fileName).path

/-- Settings from the text of the file, or why there are none. -/
def decode (source : Source) (text : List Char) : Except String Settings :=
  match source with
  | .toml => (ofToml text).elim (.error "the document is not TOML with settings") .ok
  | .json => (ofJson text).mapError Json.Fault.message

end Source

/-- What a directory has of a settings file: nothing when there is no such file, otherwise the
settings or why they cannot be read. -/
def attempt (tree : FileTree) (directory : Location) (source : Source) :
    Option (Except String Settings) :=
  let path : Path := ⟨source.fileName⟩
  if tree.hasPath directory path then
    match tree.readText directory path with
    | .error error => some (.error error.message)
    | .ok text => some (source.decode text.toList)
  else none

/-- The settings of the first of the files that can be read, else the defaults. -/
def loadFrom (tree : FileTree) (directory : Location) : List Source → Settings
  | [] => default
  | source :: rest =>
    match attempt tree directory source with
    | some (.ok settings) => settings
    -- A file that cannot be read gives way to the next one, like a missing one.
    | _ => loadFrom tree directory rest

/-- The settings of the project in a directory. -/
def load (tree : FileTree) (directory : Location) : Settings :=
  loadFrom tree directory Source.all

/-- The events of the search for settings in files. -/
def eventsFrom (tree : FileTree) (directory : Location) : List Source → List Event
  | [] => [⟨.debug, "No project config found, using defaults"⟩]
  | source :: rest =>
    match attempt tree directory source with
    | some (.ok _) =>
      [⟨.debug, "Loaded project config from " ++ (source.path directory).text⟩]
    | some (.error message) =>
      ⟨.warn, "Failed to load " ++ (source.path directory).text ++ ": " ++ message⟩
        :: eventsFrom tree directory rest
    | none => eventsFrom tree directory rest

/-- The events of the loading of the settings in a directory. -/
def loadEvents (tree : FileTree) (directory : Location) : List Event :=
  eventsFrom tree directory Source.all

/-- A list of strings as it is written in a settings file. -/
def listText (items : List String) : String :=
  "[" ++ ", ".intercalate (items.map fun item => "\"" ++ item ++ "\"") ++ "]"

/-- The settings file that a project starts with; it says what the defaults are. -/
def starterText : String :=
  "\n".intercalate
    ["# kernel-eval configuration",
     "",
     "[scan]",
     "# Filename suffixes to load (leading dot optional)",
     "extensions = " ++ listText ScanOptions.defaultExtensions,
     "",
     "# Stop after this many files, in path order (0 = unlimited)",
     "max_files = 0",
     "",
     "# Skip files larger than this many bytes (0 = unlimited)",
     "max_file_bytes = 0",
     "",
     "[tasks]",
     "# Components scoring below this get a task group",
     "threshold = " ++ defaultThreshold.toTenths,
     "",
     "[output]",
     "evaluation_file = \"" ++ default.evaluationFile.text ++ "\"",
     "tasks_file = \"" ++ default.tasksFile.text ++ "\"",
     ""]

end Settings

end RubricScore
