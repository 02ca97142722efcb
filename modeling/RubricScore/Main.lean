import RubricScore.CommandLine.Run

/-!
# The program

Looks at the files that a command uses, runs the command on what was seen, and then does what the
run did: it writes the file, prints the output and gives the exit code.
-/

namespace RubricScore.Program

/-- What stands at a path, links not being followed. -/
def kindAt (path : String) : IO (Option IO.FS.FileType) := do
  try
    let data ← ((← IO.currentDir) / path).symlinkMetadata
    return some data.type
  catch _ => return none

/-- The names in a directory; none if it cannot be read. -/
def namesIn (path : String) : IO (List String) := do
  try
    let entries ← ((← IO.currentDir) / path).readDir
    return entries.toList.map fun entry => entry.fileName
  catch _ => return []

/-- Where a link leads in the end; nothing if it leads nowhere. -/
def targetOf (path : String) : IO (Option String) := do
  if ← ((← IO.currentDir) / path).pathExists then
    return some (← IO.FS.realPath path).toString
  else return none

/-- Content of a file, empty if it cannot be read. -/
def contentOf (path : String) : IO (List UInt8) := do
  try return (← IO.FS.readBinFile path).toList
  catch _ => return []

/-- Enters into a tree what stands on the way along names from a place. A link that leads nowhere is
not entered: a file can be created through it as if nothing stood there. -/
partial def enterPath (tree : FileTree) (here : Location) : List String → IO FileTree
  | [] => return tree
  | name :: rest => do
    if name.isEmpty || name == "." then enterPath tree here rest
    else if name == ".." then enterPath tree here.parent rest
    else
      let place := Location.child name here
      let path := place.path.text
      match ← kindAt path with
      | none => return tree
      | some .dir => enterPath (tree.put here name .directory) place rest
      | some .symlink =>
        match ← targetOf path with
        | none => return tree
        | some target =>
          enterPath (tree.put here name (.link ⟨target⟩)) .root (target.splitOn "/" ++ rest)
      | some .file => return tree.put here name (.file (← contentOf path))
      | some .other => return tree

/-- Enters everything below a directory. The content of a file whose name is not accepted is left
out. -/
partial def enterBelow (accepts : String → Bool) (tree : FileTree) (top : Location) :
    IO FileTree := do
  let mut tree := tree
  for name in ← namesIn top.path.text do
    let place := Location.child name top
    match ← kindAt place.path.text with
    | some .dir => tree ← enterBelow accepts (tree.put top name .directory) place
    | some .file =>
      if accepts name then tree ← enterPath tree top [name]
      else tree := tree.put top name (.file [])
    | _ => tree ← enterPath tree top [name]
  return tree

/-- Enters what stands on the way along a path. -/
def enter (tree : FileTree) (directory : Location) (path : Path) : IO FileTree :=
  enterPath tree (path.startFrom directory) (path.text.splitOn "/")

/-- Cues are searched for directly, so there is none of which no pattern can be made. -/
def refusal : Refusal :=
  fun _ => none

/-- The files that a command uses. -/
def observe (command : Command) : IO Workspace := do
  let names := ((← IO.currentDir).toString.splitOn "/").filter fun name => !name.isEmpty
  let directory := Location.ofNames names
  let mut tree ← enterPath .empty .root names
  for source in Settings.Source.all do
    tree ← enter tree directory ⟨source.fileName⟩
  let settings := Settings.load tree directory
  for path in command.paths settings do
    tree ← enter tree directory path
  for path in command.directories do
    match tree.resolve directory path with
    | .ok top =>
      let accepts := match command with
        | .evaluate request => (Workspace.scanOptions settings request).accepts
        | _ => fun _ => false
      if tree.hasDirectory top then tree ← enterBelow accepts tree top
    | .error _ => pure ()
  return ⟨tree, directory, refusal⟩

/-- Writes the file that a run wrote; says why if that is not possible. -/
def save (outcome : Outcome) : IO (Option String) := do
  match outcome.written with
  | none => return none
  | some (path, content) =>
    try
      IO.FS.writeFile path.text content
      return none
    catch error =>
      return some ("Error: Failed to write " ++ path.text ++ "\n\nCaused by:\n    "
        ++ toString error)

/-- Does what a run did. -/
def finish (verbosity : Verbosity) (outcome : Outcome) : IO UInt32 := do
  for event in outcome.events do
    if verbosity.admits event.level then IO.eprintln event.text
  IO.print outcome.output
  match ← save outcome with
  | some message =>
    IO.eprintln message
    return 1
  | none =>
    IO.print outcome.note
    IO.eprint outcome.complaint
    return UInt32.ofNat outcome.exitCode

/-- Runs what an argument list asks for. -/
def start (arguments : List String) : IO UInt32 := do
  let colors ← (← IO.getStdout).isTty
  match Invocation.ofArguments arguments with
  | .error _ => finish .warn (Workspace.run ⟨.empty, .root, refusal⟩ colors arguments)
  | .ok invocation =>
    let workspace ← observe invocation.command
    finish invocation.logLevel (workspace.run colors arguments)

end RubricScore.Program

/-- Runs the program. -/
def main (arguments : List String) : IO UInt32 :=
  RubricScore.Program.start arguments
