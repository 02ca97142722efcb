import RubricScore.Proofs.Collection.Exactness
import RubricScore.Proofs.Corpus

/-!
# Limits of a collection

A collection may be limited in the number of its files and in their size, zero being no limit. The
files that match are counted in the order of their paths, so a limit on their number cuts the corpus
from the end. Those that are too large are left out after they were counted. Thus greater limits
never take a file out of the corpus, and no limit changes a file that stays.

## Main definitions

* `Limit.Allows`, `Limit.AtMost`: what a limit allows, and the order of limits;
* `Limit.leading`: the first elements of a list, up to a limit;
* `FileTree.Lists`: the files that match below the directory that a path stands for;
* `FileTree.Cuts`: how the corpora under all limits are related.

## Main results

* `FileTree.files_load_eq`: the files that are loaded;
* `FileTree.Cuts.of_files_eq`: the relations between corpora follow from what each of them has;
* `FileTree.collect_limited`: the corpora of a collection under all limits.
-/

namespace RubricScore

namespace Limit

/-- A limit allows so many; zero is no limit. -/
def Allows (limit : UInt64) (count : Nat) : Prop :=
  limit = 0 ∨ count ≤ limit.toNat

instance (limit : UInt64) (count : Nat) : Decidable (Allows limit count) :=
  inferInstanceAs (Decidable (_ ∨ _))

/-- A limit is no greater than another one, zero being the greatest. -/
def AtMost (a b : UInt64) : Prop :=
  b = 0 ∨ a ≠ 0 ∧ a ≤ b

instance (a b : UInt64) : Decidable (AtMost a b) :=
  inferInstanceAs (Decidable (_ ∨ _))

/-- The first elements of a list, as many as a limit allows. -/
def leading {α : Type} (limit : UInt64) (list : List α) : List α :=
  if limit = 0 then list else list.take limit.toNat

variable {α : Type} {a b limit : UInt64}

theorem AtMost.allows {count : Nat} (h : AtMost a b) (hallows : Allows a count) :
    Allows b count := by
  rcases h with hb | ⟨ha, hle⟩
  · exact .inl hb
  · exact .inr ((hallows.resolve_left ha).trans (UInt64.le_iff_toNat_le.1 hle))

theorem leading_sublist (limit : UInt64) (list : List α) : (leading limit list).Sublist list := by
  rw [leading]
  split
  · exact List.Sublist.refl _
  · exact List.take_sublist _ _

/-- A greater limit leaves the elements that a smaller one does, and others behind them. -/
theorem AtMost.leading_isPrefix (h : AtMost a b) (list : List α) :
    leading a list <+: leading b list := by
  rw [leading, leading]
  rcases h with rfl | ⟨ha, hle⟩
  · rw [if_pos rfl]
    split
    · exact List.prefix_refl _
    · exact List.take_prefix _ _
  · have hb : b ≠ 0 := fun hb => ha (UInt64.le_zero_iff.1 (hb ▸ hle))
    rw [if_neg ha, if_neg hb]
    exact List.take_prefix_take_left (UInt64.le_iff_toNat_le.1 hle)

/-- An element is among the first ones just when the limit allows its place. -/
theorem mem_leading_iff {list : List α} {element : α} :
    element ∈ leading limit list ↔ ∃ i, list[i]? = some element ∧ Allows limit (i + 1) := by
  rw [leading]
  split
  · next hzero =>
    rw [List.mem_iff_getElem?]
    exact exists_congr fun i => (and_iff_left (.inl hzero)).symm
  · next hne =>
    rw [List.mem_iff_getElem?]
    refine exists_congr fun i => ?_
    have hallows : Allows limit (i + 1) ↔ i < limit.toNat :=
      ⟨fun h => h.resolve_left hne, .inr⟩
    rw [List.getElem?_take, Option.ite_none_right_eq_some, hallows, and_comm]

end Limit

theorem ScanOptions.isOversized_iff {options : ScanOptions} {bytes : Nat} :
    options.isOversized bytes ↔ ¬Limit.Allows options.maxFileBytes bytes := by
  have hpos : 0 < options.maxFileBytes ↔ options.maxFileBytes ≠ 0 := UInt64.pos_iff_ne_zero
  rw [isOversized, Bool.and_eq_true, decide_eq_true_eq, decide_eq_true_eq, hpos, Limit.Allows,
    not_or, not_le]

/-- A candidate stands before another one. -/
def Candidate.Before (a b : Candidate) : Prop :=
  a.location.path.Before b.location.path

namespace FileTree

/-- The candidates that the limits leave. -/
def remaining (maxFiles maxFileBytes : UInt64) (matching : List Candidate) : List Candidate :=
  (Limit.leading maxFiles matching).filter
    fun candidate => decide (Limit.Allows maxFileBytes candidate.bytes.length)

/-- The list has the files that match below the directory that a path stands for, in the order of
their paths. It is empty if the path does not stand for a directory. -/
structure Lists (tree : FileTree) (base : Location) (path : Path) (extensions : List String)
    (matching : List Candidate) : Prop where
  /-- Every file stands before those after it. -/
  inOrder : matching.Pairwise Candidate.Before
  /-- A file is there just when it is offered below the directory. -/
  mem_iff : ∀ candidate, candidate ∈ matching ↔
    ∃ top, tree.Resolves base path top ∧ tree.entry? top = some .directory
      ∧ tree.Offers extensions top candidate.location candidate.bytes

/-- The files of the corpora under all limits on their number and on their size, given the files
that match. -/
structure Cuts (matching : List Candidate) (files : UInt64 → UInt64 → List SourceFile) :
    Prop where
  /-- Every file stands before those after it. -/
  inOrder : ∀ n m, (files n m).Pairwise fun a b => a.path.Before b.path
  /-- The corpus has the files whose place and whose size is allowed. -/
  mem_iff : ∀ n m file, file ∈ files n m ↔
    ∃ i candidate, matching[i]? = some candidate ∧ Limit.Allows n (i + 1)
      ∧ Limit.Allows m candidate.bytes.length ∧ candidate.sourceFile = file
  /-- A greater number of files only adds to the end. -/
  more_files : ∀ n n' m, Limit.AtMost n n' → files n m <+: files n' m
  /-- A greater size only adds. -/
  more_bytes : ∀ n m m', Limit.AtMost m m' → (files n m).Sublist (files n m')
  /-- A path has the same file under all limits. -/
  same_file : ∀ n m n' m', ∀ a ∈ files n m, ∀ b ∈ files n' m',
    a.path.components = b.path.components → a = b
  /-- A file that is too large takes up a place among the first ones. -/
  length_add : ∀ n m, (files n m).length + (Limit.leading n matching).countP
      (fun candidate => decide ¬Limit.Allows m candidate.bytes.length)
    = (Limit.leading n matching).length

variable {tree : FileTree} {base : Location} {path : Path} {extensions : List String}
  {matching : List Candidate}

/-! ## What the limits leave -/

theorem remaining_sublist (n m : UInt64) (matching : List Candidate) :
    (remaining n m matching).Sublist matching :=
  List.filter_sublist.trans (Limit.leading_sublist n matching)

theorem remaining_nil (n m : UInt64) : remaining n m [] = [] :=
  List.sublist_nil.1 (remaining_sublist n m [])

theorem mem_remaining_iff {n m : UInt64} {candidate : Candidate} :
    candidate ∈ remaining n m matching ↔
      ∃ i, matching[i]? = some candidate ∧ Limit.Allows n (i + 1)
        ∧ Limit.Allows m candidate.bytes.length := by
  rw [remaining, List.mem_filter, Limit.mem_leading_iff, decide_eq_true_eq]
  constructor
  · rintro ⟨⟨i, hplace, hcount⟩, hsize⟩
    exact ⟨i, hplace, hcount, hsize⟩
  · rintro ⟨i, hplace, hcount, hsize⟩
    exact ⟨⟨i, hplace, hcount⟩, hsize⟩

theorem remaining_more_bytes (n : UInt64) {m m' : UInt64} (h : Limit.AtMost m m')
    (matching : List Candidate) : (remaining n m matching).Sublist (remaining n m' matching) :=
  List.monotone_filter_right _ fun _ hallows =>
    decide_eq_true (h.allows (of_decide_eq_true hallows))

theorem length_remaining_add (n m : UInt64) (matching : List Candidate) :
    (remaining n m matching).length + (Limit.leading n matching).countP
        (fun candidate => decide ¬Limit.Allows m candidate.bytes.length)
      = (Limit.leading n matching).length := by
  rw [remaining, ← List.countP_eq_length_filter,
    List.length_eq_countP_add_countP
      (fun candidate => decide (Limit.Allows m candidate.bytes.length))]
  simp

/-- Corpora that have what the limits leave are related as wanted. -/
theorem Cuts.of_files_eq {files : UInt64 → UInt64 → List SourceFile}
    (hordered : matching.Pairwise Candidate.Before)
    (h : ∀ n m, files n m = (remaining n m matching).map Candidate.sourceFile) :
    Cuts matching files where
  inOrder n m := by
    rw [h, List.pairwise_map]
    exact hordered.sublist (remaining_sublist n m matching)
  mem_iff n m file := by
    rw [h, List.mem_map]
    simp only [mem_remaining_iff]
    constructor
    · rintro ⟨candidate, ⟨i, hplace, hcount, hsize⟩, heq⟩
      exact ⟨i, candidate, hplace, hcount, hsize, heq⟩
    · rintro ⟨i, candidate, hplace, hcount, hsize, heq⟩
      exact ⟨candidate, ⟨i, hplace, hcount, hsize⟩, heq⟩
  more_files n n' m hle := by
    rw [h, h]
    exact ((hle.leading_isPrefix matching).filter _).map _
  more_bytes n m m' hle := by
    rw [h, h]
    exact (remaining_more_bytes n hle matching).map _
  same_file n m n' m' a ha b hb heq := by
    rw [h, List.mem_map] at ha hb
    obtain ⟨x, hx, rfl⟩ := ha
    obtain ⟨y, hy, rfl⟩ := hb
    -- Both are among the files that match, which have different paths.
    have hdistinct : (matching.map fun candidate => candidate.location.path.components).Nodup :=
      List.pairwise_map.2 (hordered.imp Path.Before.ne)
    rw [List.inj_on_of_nodup_map hdistinct ((remaining_sublist n m matching).subset hx)
      ((remaining_sublist n' m' matching).subset hy) heq]
  length_add n m := by
    rw [h, List.length_map]
    exact length_remaining_add n m matching

/-! ## What is loaded -/

/-- Candidates stand in the strict order of their paths. -/
theorem pairwise_candidates (options : ScanOptions) (top : Location) :
    (tree.candidates options top).Pairwise Candidate.Before := by
  have htotal : ∀ a b : Candidate, a.precedes b || b.precedes a :=
    fun a b => Path.precedes_total a.location.path b.location.path
  have htrans : ∀ a b c : Candidate, a.precedes b → b.precedes c → a.precedes c :=
    fun _ _ _ hab hbc => Path.precedes_trans hab hbc
  have hsorted : (tree.candidates options top).Pairwise fun a b => a.precedes b :=
    List.pairwise_mergeSort htrans htotal _
  have hdistinct : (tree.candidates options top).Pairwise
      fun a b => a.location.path.key ≠ b.location.path.key :=
    List.pairwise_map.1 nodup_keys_candidates
  -- What does not stand behind, and is not equal, stands before.
  refine hsorted.imp₂ (fun a b hle hne => ?_) hdistinct
  rcases Path.before_trichotomy a.location.path b.location.path with hlt | heq | hgt
  · exact hlt
  · exact absurd (Path.key_eq_iff.2 heq) hne
  · exact absurd hgt (Path.precedes_iff.1 hle)

/-- The corpus of a directory has what the limits leave of the candidates. -/
theorem files_load_eq (options : ScanOptions) (top : Location) :
    (tree.load options top).files
      = (remaining options.maxFiles options.maxFileBytes (tree.candidates options top)).map
          Candidate.sourceFile := by
  have hsizes : (fun candidate : Candidate => !options.isOversized candidate.bytes.length)
      = fun candidate => decide (Limit.Allows options.maxFileBytes candidate.bytes.length) := by
    funext candidate
    rw [Bool.eq_iff_iff, Bool.not_eq_true', Bool.eq_false_iff, ne_eq,
      ScanOptions.isOversized_iff, not_not, decide_eq_true_eq]
  rw [load, hsizes]
  refine Corpus.files_ofList_eq (List.pairwise_map.2 ?_)
  refine ((pairwise_candidates options top).sublist (remaining_sublist _ _ _)).imp fun hbefore => ?_
  exact Path.key_lt_iff.2 hbefore

/-! ## What is collected -/

theorem Lists.unique {other : List Candidate} (h : tree.Lists base path extensions matching)
    (hother : tree.Lists base path extensions other) : other = matching := by
  have hdistinct : ∀ {list : List Candidate}, list.Pairwise Candidate.Before → list.Nodup := by
    intro list hordered
    refine hordered.imp ?_
    rintro candidate _ hbefore rfl
    exact Path.Before.ne hbefore rfl
  have hperm : other.Perm matching :=
    (List.perm_ext_iff_of_nodup (hdistinct hother.inOrder) (hdistinct h.inOrder)).2
      fun candidate => (hother.mem_iff candidate).trans (h.mem_iff candidate).symm
  exact hperm.eq_of_pairwise (fun a b _ _ hab hba => absurd rfl (Path.Before.trans hab hba).ne)
    hother.inOrder h.inOrder

theorem lists_candidates (options : ScanOptions) {top : Location}
    (hresolves : tree.Resolves base path top) (hdirectory : tree.entry? top = some .directory) :
    tree.Lists base path options.extensions (tree.candidates options top) where
  inOrder := pairwise_candidates options top
  mem_iff candidate := by
    rw [mem_candidates_iff]
    constructor
    · exact fun hoffers => ⟨top, hresolves, hdirectory, hoffers⟩
    · rintro ⟨other, hother, -, hoffers⟩
      rwa [hresolves.unique hother]

theorem corpus_collect {options : ScanOptions} {top : Location}
    (hresolves : tree.Resolves base path top) (hdirectory : tree.entry? top = some .directory) :
    (tree.collect base path options).corpus = tree.load options top := by
  rw [collect, resolve_eq_ok_iff.2 hresolves]
  simp only [hasDirectory_iff.2 hdirectory, if_true]

theorem files_collect_nil {options : ScanOptions}
    (hnowhere : ∀ top, tree.Resolves base path top → tree.entry? top ≠ some .directory) :
    (tree.collect base path options).corpus.files = [] := by
  rw [collect]
  split
  · rfl
  · next top hresolve =>
    rw [if_neg fun h => hnowhere top (resolve_eq_ok_iff.1 hresolve) (hasDirectory_iff.1 h)]
    rfl

theorem lists_nil (extensions : List String)
    (hnowhere : ∀ top, tree.Resolves base path top → tree.entry? top ≠ some .directory) :
    tree.Lists base path extensions [] where
  inOrder := List.Pairwise.nil
  mem_iff _ := ⟨nofun, fun ⟨top, hresolves, hdirectory, _⟩ =>
    absurd hdirectory (hnowhere top hresolves)⟩

/-- Whatever the tree is, there is one list of the files that match below a directory, and under any
limits the corpus of a collection has what these leave of it: those among the first files, in the
order of their paths, that are not too large. So limits cut only from the end or by size, and a file
is the same under all of them. -/
theorem collect_limited (tree : FileTree) (base : Location) (path : Path)
    (extensions : List String) :
    ∃ matching, tree.Lists base path extensions matching
      ∧ (∀ other, tree.Lists base path extensions other → other = matching)
      ∧ Cuts matching fun n m => (tree.collect base path ⟨extensions, n, m⟩).corpus.files := by
  by_cases hfound : ∃ top, tree.Resolves base path top ∧ tree.entry? top = some .directory
  · obtain ⟨top, hresolves, hdirectory⟩ := hfound
    have hlists := lists_candidates ⟨extensions, 0, 0⟩ hresolves hdirectory
    refine ⟨_, hlists, fun _ => hlists.unique, .of_files_eq hlists.inOrder fun n m => ?_⟩
    rw [corpus_collect hresolves hdirectory]
    exact files_load_eq ⟨extensions, n, m⟩ top
  · have hnowhere : ∀ top, tree.Resolves base path top → tree.entry? top ≠ some .directory :=
      fun top hresolves hdirectory => hfound ⟨top, hresolves, hdirectory⟩
    have hlists := lists_nil extensions hnowhere
    refine ⟨_, hlists, fun _ => hlists.unique, .of_files_eq hlists.inOrder fun n m => ?_⟩
    rw [files_collect_nil hnowhere, remaining_nil, List.map_nil]

/-- A directory with a file of two bytes between smaller ones. -/
def crowded : FileTree :=
  let src := Location.child "src" .root
  empty
    |>.put .root "src" .directory
    |>.put src "a.c" (.file [97])
    |>.put src "b.c" (.file [98, 98])
    |>.put src "c.c" (.file [99])

/-- The candidates in that directory. -/
def crowd : List Candidate :=
  let src := Location.child "src" .root
  [⟨.child "a.c" src, [97]⟩, ⟨.child "b.c" src, [98, 98]⟩, ⟨.child "c.c" src, [99]⟩]

theorem resolves_crowded : crowded.Resolves .root ⟨"src"⟩ (.child "src" .root) where
  nul_not_mem := by decide
  ne_empty := by decide
  size_lt := by decide
  leads := by
    refine ⟨0, by decide, ?_⟩
    show crowded.Leads 0 .root ["src".toList] _
    exact .enter rfl (by decide) rfl nofun (.done _)

theorem candidates_crowded :
    crowded.candidates ⟨[".c"], 0, 0⟩ (.child "src" .root) = crowd := by
  rw [candidates]
  have hfound : (crowded.below (.child "src" .root)).filterMap
      (crowded.candidate? ⟨[".c"], 0, 0⟩) = crowd := rfl
  rw [hfound]
  exact List.mergeSort_of_pairwise (by decide)

theorem lists_crowded : crowded.Lists .root ⟨"src"⟩ [".c"] crowd :=
  candidates_crowded ▸ lists_candidates ⟨[".c"], 0, 0⟩ resolves_crowded rfl

/-- Two files of one byte at most: the second place is lost to the file of two bytes. -/
theorem collect_limited_crowded :
    (crowded.collect .root ⟨"src"⟩ ⟨[".c"], 2, 1⟩).corpus.files
      <+: (crowded.collect .root ⟨"src"⟩ ⟨[".c"], 3, 1⟩).corpus.files
    ∧ (crowded.collect .root ⟨"src"⟩ ⟨[".c"], 2, 1⟩).corpus.files.Sublist
      (crowded.collect .root ⟨"src"⟩ ⟨[".c"], 2, 0⟩).corpus.files
    ∧ (crowded.collect .root ⟨"src"⟩ ⟨[".c"], 2, 1⟩).corpus.files.length = 1
    ∧ ∀ file ∈ (crowded.collect .root ⟨"src"⟩ ⟨[".c"], 0, 0⟩).corpus.files,
        file.path.components = Path.components ⟨"/src/a.c"⟩ → file.text = ['a'] := by
  obtain ⟨matching, -, hunique, hcuts⟩ := collect_limited crowded .root ⟨"src"⟩ [".c"]
  obtain rfl : crowd = matching := hunique crowd lists_crowded
  refine ⟨hcuts.more_files 2 3 1 (by decide), hcuts.more_bytes 2 1 0 (by decide), ?_, ?_⟩
  · have hlength := hcuts.length_add 2 1
    exact Nat.add_right_cancel hlength
  · intro file hin heq
    have hsmall : Candidate.sourceFile ⟨.child "a.c" (.child "src" .root), [97]⟩
        ∈ (crowded.collect .root ⟨"src"⟩ ⟨[".c"], 2, 1⟩).corpus.files :=
      (hcuts.mem_iff 2 1 _).2 ⟨0, _, rfl, by decide, by decide, rfl⟩
    rw [hcuts.same_file 0 0 2 1 file hin _ hsmall heq]
    rfl

end FileTree

end RubricScore
