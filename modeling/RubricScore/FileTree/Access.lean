import RubricScore.FileTree.Resolution
import RubricScore.Text.Utf8

/-!
# Reading and writing files of a tree

Files are read and written by their paths. Writing creates a file in a directory that exists.
-/

namespace RubricScore.FileTree

/-- Content of the file that a path stands for. -/
def read (tree : FileTree) (base : Location) (path : Path) : Except FileError (List UInt8) := do
  match ← tree.find base path with
  | .file bytes => return bytes
  | _ => throw .isADirectory

/-- Text of the file that a path stands for. -/
def readText (tree : FileTree) (base : Location) (path : Path) : Except FileError String := do
  match Text.Utf8.decode? (← tree.read base path) with
  | some text => return .ofList text
  | none => throw .notText

/-- The tree with the content of a file replaced; a file that is missing is created. -/
def write (tree : FileTree) (base : Location) (path : Path) (bytes : List UInt8) :
    Except FileError FileTree := do
  match ← tree.locate .create base path with
  | .vacant parent name => return tree.put parent name (.file bytes)
  | .taken .root => throw .isADirectory
  | .taken (.child name parent) =>
    if tree.hasDirectory (.child name parent) then throw .isADirectory
    return tree.put parent name (.file bytes)

end RubricScore.FileTree
