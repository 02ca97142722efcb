import RubricScore.Collection
import RubricScore.Proofs.FileTree.Resolution

/-!
# What a collection finds

The files below a directory are those in the directories that it reaches. Links are not entered, so
a tree with circles of links has no more of them than it has entries. Without limits a corpus has
every one of these files whose name ends as wanted, and no other file.

## Main definitions

* `FileTree.Offers`: a place below a directory holds a file with a wanted name;
* `FileTree.Gathers`: the files are those that are offered below a directory.

## Main results

* `FileTree.mem_candidates_iff`: the candidates are what is offered;
* `FileTree.collect_exact`: the corpus of a collection.
-/

namespace RubricScore

theorem Text.endsWith_iff {text ending : List Char} : endsWith text ending ↔ ending <:+ text := by
  rw [endsWith, List.isPrefixOf_iff_prefix, List.reverse_prefix]

theorem ScanOptions.accepts_iff {options : ScanOptions} {name : String} :
    options.accepts name ↔ ∃ extension ∈ options.extensions, extension.toList <:+ name.toList := by
  simp only [accepts, List.any_eq_true, Text.endsWith_iff]

namespace FileTree

variable (tree : FileTree)

/-- A place below a directory holds the content of a file, under a name that ends with one of the
extensions and in a directory that is reached through directories only. -/
inductive Offers (extensions : List String) (top : Location) : Location → List UInt8 → Prop
  | intro {here : Location} {name extension : String} {bytes : List UInt8}
      (hreaches : tree.Reaches top here)
      (hextension : extension ∈ extensions) (hname : extension.toList <:+ name.toList)
      (hholds : tree.Holds (.child name here) bytes) :
      Offers extensions top (.child name here) bytes

/-- The files are those that are offered below a directory, each one once and in the order of their
paths. -/
structure Gathers (extensions : List String) (top : Location) (files : List SourceFile) :
    Prop where
  /-- Every file stands before those after it. -/
  inOrder : files.Pairwise SourceFile.Before
  /-- Different places do not share a path. -/
  apart : ∀ {a b x y}, tree.Offers extensions top a x → tree.Offers extensions top b y →
    a.path.key = b.path.key → a = b
  /-- A file has the path of a place and the text of what the place holds. -/
  mem_iff : ∀ file, file ∈ files ↔
    ∃ location bytes, tree.Offers extensions top location bytes
      ∧ file = ⟨location.path, Text.ofSource bytes⟩

variable {tree} {options : ScanOptions} {top : Location}

theorem Holds.exists_entry {location : Location} {bytes : List UInt8}
    (h : tree.Holds location bytes) : ∃ entry, tree.entry? location = some entry := by
  cases h with
  | file h => exact ⟨_, h⟩
  | link h => exact ⟨_, h⟩

theorem Offers.exists_entry {extensions : List String} {location : Location} {bytes : List UInt8}
    (h : tree.Offers extensions top location bytes) :
    ∃ entry, tree.entry? location = some entry := by
  cases h with
  | intro _ _ _ hholds => exact hholds.exists_entry

/-! ## Candidates -/

theorem candidate?_eq_some_iff {item : Location × Entry} {candidate : Candidate} :
    tree.candidate? options item = some candidate ↔
      item.1 = candidate.location ∧ (∃ name ∈ item.1.name?, options.accepts name)
        ∧ tree.content? item.1 item.2 = some candidate.bytes := by
  obtain ⟨location, bytes⟩ := candidate
  rw [candidate?, Option.ite_none_right_eq_some, Option.map_eq_some_iff, Option.any_eq_true]
  simp only [Candidate.mk.injEq]
  constructor
  · rintro ⟨haccepts, content, hcontent, rfl, rfl⟩
    exact ⟨rfl, haccepts, hcontent⟩
  · rintro ⟨rfl, haccepts, hcontent⟩
    exact ⟨haccepts, bytes, hcontent, rfl, rfl⟩

/-- The candidates below a directory are what is offered there. -/
theorem mem_candidates_iff {location : Location} {bytes : List UInt8} :
    ⟨location, bytes⟩ ∈ tree.candidates options top ↔
      tree.Offers options.extensions top location bytes := by
  rw [candidates, List.mem_mergeSort, List.mem_filterMap]
  constructor
  · rintro ⟨⟨place, entry⟩, hin, hcandidate⟩
    obtain ⟨rfl, ⟨name, hname, haccepts⟩, hcontent⟩ := candidate?_eq_some_iff.1 hcandidate
    obtain ⟨here, _, rfl, hreaches, hentry⟩ := mem_below_iff.1 hin
    -- The name that is accepted is the one under which the entry stands.
    obtain ⟨⟩ := hname
    obtain ⟨extension, hextension, hends⟩ := ScanOptions.accepts_iff.1 haccepts
    exact .intro hreaches hextension hends ((content?_eq_some_iff hentry).1 hcontent)
  · rintro ⟨hreaches, hextension, hname, hholds⟩
    obtain ⟨entry, hentry⟩ := hholds.exists_entry
    refine ⟨_, mem_below_iff.2 ⟨_, _, rfl, hreaches, hentry⟩, candidate?_eq_some_iff.2 ?_⟩
    exact ⟨rfl, ⟨_, rfl, ScanOptions.accepts_iff.2 ⟨_, hextension, hname⟩⟩,
      (content?_eq_some_iff hentry).2 hholds⟩

/-- Candidates are told apart by their paths. -/
theorem nodup_keys_candidates :
    ((tree.candidates options top).map fun candidate => candidate.location.path.key).Nodup := by
  -- Selection and sorting keep the places apart, and different places have different paths.
  have hplaces : (tree.below top).Pairwise fun a b => a.1 ≠ b.1 :=
    (List.pairwise_map.1 tree.entries.distinct).filter _
  have hfound : ((tree.below top).filterMap (tree.candidate? options)).Pairwise
      fun a b => a.location ≠ b.location := by
    refine List.pairwise_filterMap.2 (hplaces.imp fun hne a ha b hb => ?_)
    rw [← (candidate?_eq_some_iff.1 ha).1, ← (candidate?_eq_some_iff.1 hb).1]
    exact hne
  have hsorted : (tree.candidates options top).Pairwise fun a b => a.location ≠ b.location :=
    (List.mergeSort_perm _ _).symm.pairwise hfound fun hne => hne.symm
  refine List.pairwise_map.2 (hsorted.imp_of_mem fun ha hb hne heq => hne ?_)
  obtain ⟨x, hx⟩ := (mem_candidates_iff.1 ha).exists_entry
  obtain ⟨y, hy⟩ := (mem_candidates_iff.1 hb).exists_entry
  exact (key_path_inj hx hy).1 heq

/-! ## Corpora -/

/-- Without limits every candidate is loaded. -/
theorem files_load_perm {extensions : List String} :
    (tree.load ⟨extensions, 0, 0⟩ top).files.Perm
      ((tree.candidates ⟨extensions, 0, 0⟩ top).map Candidate.sourceFile) := by
  have hall : ∀ candidates : List Candidate,
      (capped ⟨extensions, 0, 0⟩ candidates).filter
        (fun candidate => !ScanOptions.isOversized ⟨extensions, 0, 0⟩ candidate.bytes.length)
        = candidates := by
    intro candidates
    simp [capped, ScanOptions.isOversized]
  rw [load, hall]
  refine Corpus.files_ofList_perm ?_
  rw [List.map_map]
  exact nodup_keys_candidates

theorem gathers_load {extensions : List String} :
    tree.Gathers extensions top (tree.load ⟨extensions, 0, 0⟩ top).files := by
  constructor
  case inOrder => exact Corpus.ordered _
  case apart =>
    intro a b x y ha hb
    obtain ⟨_, ha⟩ := ha.exists_entry
    obtain ⟨_, hb⟩ := hb.exists_entry
    exact (key_path_inj ha hb).1
  case mem_iff =>
    intro file
    rw [files_load_perm.mem_iff, List.mem_map]
    constructor
    · rintro ⟨⟨location, bytes⟩, hin, rfl⟩
      exact ⟨location, bytes, mem_candidates_iff.1 hin, rfl⟩
    · rintro ⟨location, bytes, hoffers, rfl⟩
      exact ⟨⟨location, bytes⟩, mem_candidates_iff.2 hoffers, rfl⟩

/-- Whatever the tree is, links that lead nowhere, to directories or in a circle included, the
corpus of a collection without limits has the files that are offered below the directory that the
path stands for, each once and in the order of their paths. It is empty if the path stands for
nothing or for something other than a directory. -/
theorem collect_exact (tree : FileTree) (base : Location) (path : Path) (extensions : List String) :
    (∀ top, tree.Resolves base path top → tree.entry? top = some .directory →
      tree.Gathers extensions top (tree.collect base path ⟨extensions, 0, 0⟩).corpus.files)
    ∧ ((∀ top, tree.Resolves base path top → tree.entry? top ≠ some .directory) →
      (tree.collect base path ⟨extensions, 0, 0⟩).corpus.files = []) := by
  constructor
  · intro top hresolves hdirectory
    rw [collect, resolve_eq_ok_iff.2 hresolves]
    simp only [hasDirectory_iff.2 hdirectory, if_true]
    exact gathers_load
  · intro hnowhere
    rw [collect]
    split
    · rfl
    · next top hresolve =>
      rw [if_neg fun h => hnowhere top (resolve_eq_ok_iff.1 hresolve) (hasDirectory_iff.1 h)]
      rfl

/-- A directory with a file and with links to it, to themselves, to nothing and to directories. -/
def looped : FileTree :=
  let src := Location.child "src" .root
  let hidden := Location.child ".hidden" src
  empty
    |>.put .root "in" (.link ⟨"src"⟩)
    |>.put .root "src" .directory
    |>.put src "boot.c" (.file [98])
    |>.put src "loop.c" (.link ⟨"loop.c"⟩)
    |>.put src "gone.c" (.link ⟨"/gone"⟩)
    |>.put src ".hidden" .directory
    |>.put hidden "same.c" (.link ⟨"../boot.c"⟩)
    |>.put hidden "up.c" (.link ⟨".."⟩)

theorem resolves_looped_in : looped.Resolves .root ⟨"in"⟩ (.child "src" .root) where
  nul_not_mem := by decide
  ne_empty := by decide
  size_lt := by decide
  leads := by
    refine ⟨1, by decide, ?_⟩
    show looped.Leads 1 .root ["in".toList] _
    refine .follow rfl (by decide) rfl ?_
    show looped.Leads 0 .root ["src".toList] _
    exact .enter rfl (by decide) rfl nofun (.done _)

theorem resolves_looped_file :
    looped.Resolves .root ⟨"/src/boot.c"⟩ (.child "boot.c" (.child "src" .root)) where
  nul_not_mem := by decide
  ne_empty := by decide
  size_lt := by decide
  leads := by
    refine ⟨0, by decide, ?_⟩
    show looped.Leads 0 .root ["src".toList, "boot.c".toList] _
    refine .enter rfl (by decide) rfl nofun ?_
    exact .enter rfl (by decide) rfl nofun (.done _)

theorem collect_exact_looped :
    looped.Gathers [".c"] (.child "src" .root)
      (looped.collect .root ⟨"in"⟩ ⟨[".c"], 0, 0⟩).corpus.files
    ∧ (looped.collect .root ⟨"/src/boot.c"⟩ ⟨[".c"], 0, 0⟩).corpus.files = [] := by
  constructor
  · exact (collect_exact looped .root ⟨"in"⟩ [".c"]).1 _ resolves_looped_in rfl
  · refine (collect_exact looped .root ⟨"/src/boot.c"⟩ [".c"]).2 fun top htop => ?_
    rw [← resolves_looped_file.unique htop]
    decide

end FileTree

end RubricScore
