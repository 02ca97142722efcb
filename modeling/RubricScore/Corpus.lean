import RubricScore.Path
import RubricScore.Metrics.Basic
import RubricScore.Text.Case

/-!
# Corpora

A corpus holds the source files that are scored, in increasing order of their paths. Of several
files with equal paths it keeps the one added last.
-/

namespace RubricScore

/-- One source file. -/
structure SourceFile where
  /-- Its path as written. -/
  path : Path
  /-- Its text. -/
  text : List Char

namespace SourceFile

/-- The text in lower case, in which cues are counted. -/
def lowercase (file : SourceFile) : List Char :=
  Text.lowercase file.text

/-- The counts of the text. -/
def metrics (file : SourceFile) : Metrics :=
  Metrics.measure file.text

/-- A file stands before another one. -/
def Before (a b : SourceFile) : Prop :=
  a.path.key < b.path.key

end SourceFile

/-- Puts a file in its place among files in increasing order, unless one with an equal path is
there. -/
def putFile (file : SourceFile) : List SourceFile → List SourceFile
  | [] => [file]
  | other :: rest =>
    if file.path.key = other.path.key then other :: rest
    else if file.path.key < other.path.key then file :: other :: rest
    else other :: putFile file rest

theorem mem_of_mem_putFile {file other : SourceFile} {files : List SourceFile}
    (h : other ∈ putFile file files) : other = file ∨ other ∈ files := by
  induction files with
  | nil => simpa [putFile] using h
  | cons head rest ih =>
    unfold putFile at h
    split at h
    · exact .inr h
    · split at h
      · simpa using h
      · simp only [List.mem_cons] at h ⊢
        rcases h with h | h
        · exact .inr (.inl h)
        · rcases ih h with h | h
          · exact .inl h
          · exact .inr (.inr h)

theorem pairwise_putFile {file : SourceFile} {files : List SourceFile}
    (h : files.Pairwise SourceFile.Before) : (putFile file files).Pairwise SourceFile.Before := by
  induction files with
  | nil => exact List.pairwise_singleton _ _
  | cons head rest ih =>
    obtain ⟨hhead, hrest⟩ := List.pairwise_cons.1 h
    unfold putFile
    split
    · exact h
    · next hne =>
      split
      · next hlt =>
        refine List.pairwise_cons.2 ⟨fun other hin => ?_, h⟩
        rcases List.mem_cons.1 hin with hin | hin
        · exact hin ▸ hlt
        · exact List.lt_trans hlt (hhead other hin)
      · next hnlt =>
        refine List.pairwise_cons.2 ⟨fun other hin => ?_, ih hrest⟩
        rcases mem_of_mem_putFile hin with hin | hin
        · rw [hin]
          show head.path.key < file.path.key
          -- Neither path is before the other one, so they would be equal.
          refine Decidable.byContradiction fun hn => hne ?_
          exact List.le_antisymm (List.not_lt.1 hn) (List.not_lt.1 hnlt)
        · exact hhead other hin

/-- A file with a new path is put between the others. -/
theorem putFile_perm {file : SourceFile} {files : List SourceFile}
    (h : ∀ other ∈ files, file.path.key ≠ other.path.key) :
    (putFile file files).Perm (file :: files) := by
  induction files with
  | nil => exact List.Perm.refl _
  | cons head rest ih =>
    rw [putFile, if_neg (h head List.mem_cons_self)]
    split
    · exact List.Perm.refl _
    · exact ((ih fun other hin => h other (List.mem_cons_of_mem _ hin)).cons head).trans
        (List.Perm.swap file head rest)

/-- Source files in strictly increasing order of their paths. -/
structure Corpus where
  /-- The files. -/
  files : List SourceFile
  /-- Every file stands before those after it. -/
  ordered : files.Pairwise SourceFile.Before

namespace Corpus

/-- The corpus without files. -/
def empty : Corpus :=
  ⟨[], List.Pairwise.nil⟩

/-- Adds a file unless one with an equal path is there. -/
def add (file : SourceFile) (corpus : Corpus) : Corpus :=
  ⟨putFile file corpus.files, pairwise_putFile corpus.ordered⟩

/-- The corpus of the files. They are added from the last one to the first one, so of several files
with equal paths the last one is kept. -/
def ofList (files : List SourceFile) : Corpus :=
  files.foldr add empty

/-- Files with distinct paths are all kept. -/
theorem files_ofList_perm {files : List SourceFile}
    (h : (files.map fun file => file.path.key).Nodup) : (ofList files).files.Perm files := by
  induction files with
  | nil => exact List.Perm.refl []
  | cons file rest ih =>
    obtain ⟨hfile, hrest⟩ := List.nodup_cons.1 h
    refine (putFile_perm fun other hin heq => hfile ?_).trans ((ih hrest).cons file)
    exact List.mem_map.2 ⟨other, (ih hrest).mem_iff.1 hin, heq.symm⟩

/-- Number of files. -/
def size (corpus : Corpus) : Nat :=
  corpus.files.length

/-- The file whose path is equal to the given one. -/
def get? (corpus : Corpus) (path : Path) : Option SourceFile :=
  corpus.files.find? fun file => file.path.key == path.key

end Corpus

end RubricScore
