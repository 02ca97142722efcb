import RubricScore.Corpus
import RubricScore.Cue
import RubricScore.Report.Basic

/-!
# Evidence

How often the cues of a component occur in a corpus and in which files. Files are tallied one by
one; tallies of parts of a corpus can be merged, so files may be looked at in any order and in any
groups. A tally keeps the paths of its files only: they are sorted, and each file is looked up again
by its path.
-/

namespace RubricScore

/-- What is derived from a file once for all components. -/
structure Digest where
  /-- The file. -/
  file : SourceFile
  /-- Its text in lower case. -/
  lowered : List Char
  /-- Its counts. -/
  metrics : Metrics

/-- The digest of a file. -/
def Digest.ofFile (file : SourceFile) : Digest :=
  ⟨file, file.lowercase, file.metrics⟩

/-- The digests of a corpus, in path order. -/
def Corpus.digests (corpus : Corpus) : List Digest :=
  corpus.files.map Digest.ofFile

/-- The digest of the file whose path is equal to the given one. -/
def digestAt? (digests : List Digest) (path : Path) : Option Digest :=
  digests.find? fun digest => digest.file.path.key == path.key

/-- Running totals of the cues and the paths of the files that added to them. -/
structure Tally where
  /-- Total of each cue. -/
  perCue : List Nat
  /-- Paths of the files with at least one occurrence, in the order in which they came. -/
  matched : List Path

namespace Tally

/-- The tally of no files. -/
def empty (cues : Nat) : Tally :=
  ⟨List.replicate cues 0, []⟩

/-- Adds the counts of one file. -/
def add (tally : Tally) (path : Path) (counts : List Nat) : Tally :=
  ⟨List.zipWith (· + ·) tally.perCue counts, tally.matched ++ [path]⟩

/-- The tally of the files of two tallies. -/
def merge (a b : Tally) : Tally :=
  ⟨List.zipWith (· + ·) a.perCue b.perCue, a.matched ++ b.matched⟩

/-- The tally of counted files, added one after the other. -/
def ofCounted (cues : Nat) (counted : List (Path × List Nat)) : Tally :=
  counted.foldl (fun tally item => tally.add item.1 item.2) (empty cues)

/-- The paths of a tally in order. -/
def inPathOrder (tally : Tally) : List Path :=
  tally.matched.mergeSort Path.precedes

end Tally

/-- Evidence and the files it was found in. -/
structure EvidenceScan where
  /-- The evidence. -/
  evidence : Evidence
  /-- Files with at least one occurrence, in path order. -/
  matched : List Digest

namespace CueSet

/-- The paths of the files in which a cue occurs, each with the count of every cue. -/
def hits (cues : CueSet) (digests : List Digest) : List (Path × List Nat) :=
  (digests.map fun digest => (digest.file.path, cues.countIn digest.lowered)).filter
    fun item => item.2.any (0 < ·)

/-- The evidence that a tally of the cues gives, and the files of the tally. -/
def scanOf (cues : CueSet) (digests : List Digest) (tally : Tally) : EvidenceScan where
  evidence :=
    { totalMatches := .ofNat (tally.perCue.foldr (· + ·) 0)
      matchedFiles := .ofNat tally.matched.length
      cueMatches := .ofList (cues.phrases.zip (tally.perCue.map UInt64.ofNat)) }
  -- Of the files the tally has only the paths left.
  matched := tally.inPathOrder.filterMap (digestAt? digests)

/-- Looks for the cues in all files. -/
def scan (cues : CueSet) (digests : List Digest) : EvidenceScan :=
  cues.scanOf digests (Tally.ofCounted cues.size (cues.hits digests))

end CueSet

end RubricScore
