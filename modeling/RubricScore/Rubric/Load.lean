import RubricScore.FileTree.Access
import RubricScore.Rubric.Validation

/-!
# Loading of rubrics

A rubric is read from its text and then validated; nothing invalid is ever returned.
-/

namespace RubricScore

/-- Why a rubric cannot be used. -/
inductive RubricError where
  /-- Its file cannot be read. -/
  | unreadable (path : Path) (error : FileError)
  /-- Its text is not that of a rubric. -/
  | malformed (path : Path) (fault : Json.Fault)
  /-- It is not valid. -/
  | invalid (fault : RubricFault)
  /-- No pattern can be made of a cue. -/
  | unusableCue (component cue reason : String)

namespace RubricError

/-- The messages of an error: its own, and that of its cause if it has one. -/
def messages : RubricError → List String
  | .unreadable path error =>
    ["Failed to read rubric " ++ path.text ++ ": " ++ error.message, error.message]
  | .malformed path fault =>
    ["Malformed rubric " ++ path.text ++ ": " ++ fault.message, fault.message]
  | .invalid fault => [fault.message]
  | .unusableCue component cue reason =>
    ["Component '" ++ component ++ "' cue '" ++ cue ++ "' cannot be compiled: " ++ reason, reason]

end RubricError

namespace Rubric

/-- Reads and validates the text of a rubric. The path is for messages. -/
def ofText (path : Path) (text : List Char) : Except RubricError Rubric :=
  match Json.decode Rubric.read text with
  | .error fault => .error (.malformed path fault)
  | .ok rubric =>
    match rubric.validate with
    | .error fault => .error (.invalid fault)
    | .ok _ => .ok rubric

/-- Loads the rubric that a path stands for. -/
def load (tree : FileTree) (base : Location) (path : Path) : Except RubricError Rubric :=
  match tree.readText base path with
  | .error error => .error (.unreadable path error)
  | .ok text => ofText path text.toList

/-- The note that a rubric was loaded. -/
def loadedEvent (rubric : Rubric) (path : Path) : Event :=
  ⟨.debug, "Loaded rubric " ++ path.text ++ " (" ++ toString rubric.kernelPrimitives.size
    ++ " kernel primitives, " ++ toString rubric.platformServices.size ++ " OS services)"⟩

/-- The events of the reading and validation of a text. -/
def textEvents (text : List Char) : List Event :=
  match Json.decode Rubric.read text with
  | .error _ => []
  | .ok rubric => rubric.validationEvents

/-- The events of the loading of a rubric. -/
def loadEvents (tree : FileTree) (base : Location) (path : Path) : List Event :=
  match tree.readText base path with
  | .error _ => []
  | .ok text =>
    textEvents text.toList
      ++ (match ofText path text.toList with
        | .error _ => []
        | .ok rubric => [rubric.loadedEvent path])

end Rubric

end RubricScore
