import RubricScore.FileTree.Basic
import RubricScore.Text.Class

/-!
# Resolution of paths

A path is followed name by name from a directory. A link that stands on the way is replaced by its
target, at most forty times for one path.
-/

namespace RubricScore

/-- Why a file cannot be used. -/
inductive FileError where
  /-- Nothing stands there. -/
  | missing
  /-- Something other than a directory has names below it. -/
  | notADirectory
  /-- A directory stands where a file is wanted. -/
  | isADirectory
  /-- Links lead to links too often. -/
  | tooManyLinks
  /-- A name or the whole path is too long. -/
  | nameTooLong
  /-- The path holds a character that no name has. -/
  | nulInName
  /-- The content is not text. -/
  | notText
deriving DecidableEq

/-- Message of an error. -/
def FileError.message : FileError → String
  | .missing => "No such file or directory (os error 2)"
  | .notADirectory => "Not a directory (os error 20)"
  | .isADirectory => "Is a directory (os error 21)"
  | .tooManyLinks => "Too many levels of symbolic links (os error 40)"
  | .nameTooLong => "File name too long (os error 36)"
  | .nulInName => "file name contained an unexpected NUL byte"
  | .notText => "stream did not contain valid UTF-8"

/-- Where a path leads. -/
inductive Place where
  /-- To something that is there. -/
  | taken (location : Location)
  /-- To a name that a directory does not have. -/
  | vacant (parent : Location) (name : String)
deriving DecidableEq

/-- What a path is followed for. -/
inductive Purpose where
  /-- To use what it stands for. -/
  | reach
  /-- To use or create a file there. -/
  | create
deriving DecidableEq

namespace Path

/-- The parts of a path that are not empty, with an empty one at the end if the path ends with a
slash. -/
def steps (path : Path) : List (List Char) :=
  path.parts.filter (· ≠ []) ++ (if path.parts.getLast? = some [] then [[]] else [])

/-- Where a path starts, given the directory that a relative path starts from. -/
def startFrom (path : Path) (base : Location) : Location :=
  if path.isAbsolute then .root else base

end Path

namespace FileTree

/-- Greatest number of bytes in a name. -/
def nameLimit : Nat :=
  255

/-- Number of bytes that a path may not reach. -/
def pathLimit : Nat :=
  4096

/-- Number of links that may be followed for one path. -/
def linkLimit : Nat :=
  40

/-- Follows the steps of a path from a place, through so many links at most. A step leads on only
from a directory. A file is not created where a slash follows its name. -/
def walk (tree : FileTree) (purpose : Purpose) (links : Nat) (here : Location) :
    List (List Char) → Except FileError Place
  | [] => .ok (.taken here)
  | step :: rest =>
    if !tree.hasDirectory here then .error .notADirectory
    else if step = [] ∨ step = ['.'] then tree.walk purpose links here rest
    else if step = ['.', '.'] then tree.walk purpose links here.parent rest
    else if purpose = .create ∧ rest = [[]] then .error .isADirectory
    else if nameLimit < Text.utf8Length step then .error .nameTooLong
    else
      let name := String.ofList step
      let next := Location.child name here
      match tree.entry? next with
      -- Only the last name may be free.
      | none => if rest = [] then .ok (.vacant here name) else .error .missing
      | some (.link target) =>
        match links with
        | 0 => .error .tooManyLinks
        | links + 1 =>
          -- A relative target starts from the directory that holds the link.
          tree.walk purpose links (target.startFrom here) (target.steps ++ rest)
      | some _ => tree.walk purpose links next rest
termination_by steps => (links, steps.length)

/-- Where a path leads from a directory. -/
def locate (tree : FileTree) (purpose : Purpose) (base : Location) (path : Path) :
    Except FileError Place :=
  if '\x00' ∈ path.text.toList then .error .nulInName
  else if path.text.isEmpty then .error .missing
  else if pathLimit ≤ path.text.utf8ByteSize then .error .nameTooLong
  else tree.walk purpose linkLimit (path.startFrom base) path.steps

/-- The place of what a path stands for. -/
def resolve (tree : FileTree) (base : Location) (path : Path) : Except FileError Location := do
  match ← tree.locate .reach base path with
  | .taken location => return location
  | .vacant _ _ => throw .missing

/-- What a path stands for. -/
def find (tree : FileTree) (base : Location) (path : Path) : Except FileError Entry := do
  match tree.entry? (← tree.resolve base path) with
  | some entry => return entry
  | none => throw .missing

/-- The path stands for something. -/
def hasPath (tree : FileTree) (base : Location) (path : Path) : Bool :=
  (tree.find base path).isOk

/-- The path stands for a directory. -/
def isDirectory (tree : FileTree) (base : Location) (path : Path) : Bool :=
  match tree.find base path with
  | .ok .directory => true
  | _ => false

/-- The path stands for a file. -/
def isFile (tree : FileTree) (base : Location) (path : Path) : Bool :=
  match tree.find base path with
  | .ok (.file _) => true
  | _ => false

/-- Content of the file that an entry at a place is or, as a link, stands for. -/
def content? (tree : FileTree) (location : Location) : Entry → Option (List UInt8)
  | .file bytes => some bytes
  | .directory => none
  | .link target =>
    -- The entry itself is the first of the links that may be followed.
    match tree.walk .reach (linkLimit - 1) (target.startFrom location.parent) target.steps with
    | .ok (.taken reached) =>
      match tree.entry? reached with
      | some (.file bytes) => some bytes
      | _ => none
    | _ => none

end FileTree

end RubricScore
