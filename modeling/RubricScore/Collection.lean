import RubricScore.Corpus
import RubricScore.FileTree.Resolution
import RubricScore.Log
import RubricScore.ScanOptions
import RubricScore.Text.Utf8

/-!
# Collection of source files

Loads the files below a directory into a corpus. Directories are entered only as themselves, never
through links; a link to a file counts as a file. Without a directory to look into, the corpus is
empty.
-/

namespace RubricScore

/-- A file that may be loaded. -/
structure Candidate where
  /-- Where it stands. -/
  location : Location
  /-- Its content. -/
  bytes : List UInt8

namespace Candidate

/-- A candidate does not stand after another one. -/
def precedes (a b : Candidate) : Bool :=
  a.location.path.precedes b.location.path

/-- The candidate as a source file. -/
def sourceFile (candidate : Candidate) : SourceFile :=
  ⟨candidate.location.path, Text.ofSource candidate.bytes⟩

end Candidate

/-- A corpus and the events of its collection. -/
structure Collection where
  /-- The corpus. -/
  corpus : Corpus
  /-- The events. -/
  events : List Event

namespace FileTree

/-- The candidate that an entry is, if it is a file with an accepted name. -/
def candidate? (tree : FileTree) (options : ScanOptions) (item : Location × Entry) :
    Option Candidate :=
  if item.1.name?.any options.accepts then
    (tree.content? item.1 item.2).map fun bytes => ⟨item.1, bytes⟩
  else none

/-- The candidates below a directory, in path order. -/
def candidates (tree : FileTree) (options : ScanOptions) (top : Location) : List Candidate :=
  ((tree.below top).filterMap (tree.candidate? options)).mergeSort Candidate.precedes

/-- The candidates that the limit on their number leaves. -/
def capped (options : ScanOptions) (candidates : List Candidate) : List Candidate :=
  if options.maxFiles = 0 then candidates else candidates.take options.maxFiles.toNat

/-- Loads the files below a directory. -/
def load (tree : FileTree) (options : ScanOptions) (top : Location) : Corpus :=
  Corpus.ofList <|
    ((capped options (tree.candidates options top)).filter
      fun candidate => !options.isOversized candidate.bytes.length).map Candidate.sourceFile

/-- The warning that there are more candidates than the limit allows. -/
def capEvents (options : ScanOptions) (found : Nat) : List Event :=
  if options.maxFiles ≠ 0 ∧ options.maxFiles.toNat < found then
    [⟨.warn, "Found " ++ toString found ++ " matching files, loading only the first "
      ++ toString options.maxFiles.toNat⟩]
  else []

/-- The warnings about files that are too large. -/
def sizeEvents (options : ScanOptions) (candidates : List Candidate) : List Event :=
  (candidates.filter fun candidate => options.isOversized candidate.bytes.length).map
    fun candidate =>
      ⟨.warn, "Skipping " ++ candidate.location.path.text ++ ": larger than "
        ++ toString options.maxFileBytes.toNat ++ " bytes"⟩

/-- The events of the loading of the files below a directory. -/
def loadEvents (tree : FileTree) (options : ScanOptions) (top : Location) : List Event :=
  let found := tree.candidates options top
  [⟨.debug, "Discovered " ++ toString found.length ++ " candidate files under "
      ++ top.path.text⟩]
    ++ capEvents options found.length
    ++ sizeEvents options (capped options found)
    ++ [⟨.info, "Loaded " ++ toString (tree.load options top).size ++ " source files from "
        ++ top.path.text⟩]

/-- Loads the files below the directory that a path stands for. -/
def collect (tree : FileTree) (base : Location) (path : Path) (options : ScanOptions) :
    Collection :=
  match tree.resolve base path with
  | .error error =>
    ⟨.empty, [⟨.warn, "Source path " ++ path.text ++ " does not exist: " ++ error.message⟩]⟩
  | .ok top =>
    if tree.hasDirectory top then ⟨tree.load options top, tree.loadEvents options top⟩
    else ⟨.empty, [⟨.warn, "Source path " ++ top.path.text ++ " is not a directory"⟩]⟩

end FileTree

end RubricScore
