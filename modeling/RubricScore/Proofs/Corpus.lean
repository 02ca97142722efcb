import Mathlib.Data.Finset.Card
import RubricScore.Corpus
import RubricScore.Proofs.Path.Spelling

/-!
# Corpora as maps

A corpus maps paths to texts, whichever way the paths are spelled. Its files stand in strictly
increasing order of their paths, so no path has two of them, and the files that it is made of decide
it up to their order as long as they have different paths.

## Main definitions

* `Corpus.Maps`: the corpus is the map that the files make, the last one of a path counting.

## Main results

* `find?_putFile`, `Corpus.get?_add`: a file is added unless one with an equal path is there;
* `Corpus.get?_ofList`: a path has the last file with an equal path;
* `Corpus.eq_of_perm`: files in increasing order stand in one order only;
* `Corpus.ofList_ordered_map`: the corpus of some files.
-/

namespace RubricScore

/-! ## Adding a file -/

section Find

variable {file : SourceFile} {path : Path}

theorem find?_cons_of_key_eq (h : file.path.key = path.key) (files : List SourceFile) :
    (file :: files).find? (fun other => other.path.key == path.key) = some file :=
  List.find?_cons_of_pos (beq_iff_eq.2 h)

theorem find?_cons_of_key_ne (h : file.path.key ≠ path.key) (files : List SourceFile) :
    (file :: files).find? (fun other => other.path.key == path.key)
      = files.find? fun other => other.path.key == path.key :=
  List.find?_cons_of_neg fun hequal => h (beq_iff_eq.1 hequal)

/-- A file that is put among others in increasing order is found only if none with an equal path was
there. -/
theorem find?_putFile {files : List SourceFile} (hordered : files.Pairwise SourceFile.Before) :
    (putFile file files).find? (fun other => other.path.key == path.key)
      = (files.find? fun other => other.path.key == path.key).or
          (if file.path.key = path.key then some file else none) := by
  induction files with
  | nil => by_cases hpath : file.path.key = path.key <;> simp [putFile, hpath]
  | cons head rest ih =>
    obtain ⟨hhead, hrest⟩ := List.pairwise_cons.1 hordered
    rw [putFile]
    split
    · next heq =>
      -- A file with an equal path is there and stays.
      by_cases hpath : file.path.key = path.key
      · rw [find?_cons_of_key_eq (heq ▸ hpath), Option.some_or]
      · rw [if_neg hpath, Option.or_none]
    split
    · next hlt =>
      by_cases hpath : file.path.key = path.key
      · -- All other files stand behind the one that is added.
        have hnone : (head :: rest).find? (fun other => other.path.key == path.key) = none := by
          rw [List.find?_eq_none]
          intro other hin hequal
          have hbehind : file.path.key < other.path.key := by
            rcases List.mem_cons.1 hin with rfl | hin
            · exact hlt
            · exact List.lt_trans hlt (hhead other hin)
          rw [hpath, beq_iff_eq.1 hequal] at hbehind
          exact List.lt_irrefl _ hbehind
        rw [hnone, find?_cons_of_key_eq hpath, if_pos hpath, Option.none_or]
      · rw [find?_cons_of_key_ne hpath, if_neg hpath, Option.or_none]
    · by_cases hequal : head.path.key = path.key
      · rw [find?_cons_of_key_eq hequal, find?_cons_of_key_eq hequal, Option.some_or]
      · rw [find?_cons_of_key_ne hequal, find?_cons_of_key_ne hequal, ih hrest]

end Find

namespace Corpus

theorem get?_add (file : SourceFile) (corpus : Corpus) (path : Path) :
    (corpus.add file).get? path
      = (corpus.get? path).or (if file.path.key = path.key then some file else none) :=
  find?_putFile corpus.ordered

/-- A path has the last file with an equal path. -/
theorem get?_ofList (files : List SourceFile) (path : Path) :
    (ofList files).get? path = files.reverse.find? fun file => file.path.key == path.key := by
  induction files with
  | nil => rfl
  | cons file rest ih =>
    rw [ofList, List.foldr_cons, ← ofList, get?_add, ih, List.reverse_cons, List.find?_append,
      List.find?_singleton]
    simp

/-- A path has a file just when that is the last one whose path has the same components. -/
theorem get?_ofList_eq_some_iff {files : List SourceFile} {path : Path} {file : SourceFile} :
    (ofList files).get? path = some file ↔
      ∃ before after, files = before ++ file :: after
        ∧ file.path.components = path.components
        ∧ ∀ other ∈ after, other.path.components ≠ path.components := by
  simp only [get?_ofList, List.find?_eq_some_iff_append, beq_iff_eq, Path.key_eq_iff,
    Bool.not_eq_true', beq_eq_false_iff_ne, ne_eq]
  constructor
  · rintro ⟨hpath, after, before, hfiles, hafter⟩
    refine ⟨before.reverse, after.reverse, ?_, hpath, fun other hin => ?_⟩
    · rw [← List.reverse_reverse files, hfiles]
      simp
    · exact hafter other (List.mem_reverse.1 hin)
  · rintro ⟨before, after, rfl, hpath, hafter⟩
    refine ⟨hpath, after.reverse, before.reverse, by simp, fun other hin => ?_⟩
    exact hafter other (List.mem_reverse.1 hin)

theorem get?_ofList_eq_none_iff {files : List SourceFile} {path : Path} :
    (ofList files).get? path = none ↔ ∀ file ∈ files, file.path.components ≠ path.components := by
  simp only [get?_ofList, List.find?_eq_none, List.mem_reverse, beq_iff_eq, Path.key_eq_iff, ne_eq]

/-! ## Files in increasing order -/

/-- No two files of a corpus have equal paths. -/
theorem nodup_components (corpus : Corpus) :
    (corpus.files.map fun file => file.path.components).Nodup :=
  List.pairwise_map.2 (corpus.ordered.imp fun hbefore => (Path.key_lt_iff.1 hbefore).ne)

/-- The file that a path has was stored under an equal path. -/
theorem components_eq_of_get? {corpus : Corpus} {path : Path} {file : SourceFile}
    (h : corpus.get? path = some file) : file.path.components = path.components := by
  have hkey : (file.path.key == path.key) = true := by
    rw [get?] at h
    simpa only using List.find?_some h
  exact Path.key_eq_iff.1 (beq_iff_eq.1 hkey)

/-- A file of a corpus is what its path has. -/
theorem mem_files_iff {corpus : Corpus} {file : SourceFile} :
    file ∈ corpus.files ↔ corpus.get? file.path = some file := by
  constructor
  · intro hin
    have hsome : (corpus.get? file.path).isSome :=
      List.find?_isSome.2 ⟨file, hin, beq_iff_eq.2 rfl⟩
    obtain ⟨found, hfound⟩ := Option.isSome_iff_exists.1 hsome
    rw [hfound, List.inj_on_of_nodup_map corpus.nodup_components
      (List.mem_of_find?_eq_some hfound) hin (components_eq_of_get? hfound)]
  · exact List.mem_of_find?_eq_some

/-- Files in increasing order stand in one order only. -/
theorem eq_of_perm {a b : Corpus} (h : a.files.Perm b.files) : a = b := by
  have hfiles : a.files = b.files :=
    List.Perm.eq_of_pairwise
      (fun _ _ _ _ hab hba => absurd (List.lt_trans hab hba) (List.lt_irrefl _))
      a.ordered b.ordered h
  cases a
  cases b
  cases hfiles
  rfl

/-- Files that are in increasing order are a corpus as they are. -/
theorem files_ofList_eq {files : List SourceFile} (h : files.Pairwise SourceFile.Before) :
    (ofList files).files = files := by
  have hdistinct : (files.map fun file => file.path.key).Nodup :=
    List.pairwise_map.2 (h.imp fun hbefore heq =>
      (Path.key_lt_iff.1 hbefore).ne (Path.key_eq_iff.1 heq))
  exact congrArg Corpus.files (eq_of_perm (b := ⟨files, h⟩) (files_ofList_perm hdistinct))

/-- Files with different paths make the same corpus in any order. -/
theorem ofList_eq_of_perm {files other : List SourceFile} (h : files.Perm other)
    (hdistinct : (files.map fun file => file.path.components).Nodup) :
    ofList files = ofList other := by
  have hkeys : (files.map fun file => file.path.key).Nodup :=
    List.pairwise_map.2 ((List.pairwise_map.1 hdistinct).imp fun hne heq =>
      hne (Path.key_eq_iff.1 heq))
  have hkeys' : (other.map fun file => file.path.key).Nodup := (h.map _).nodup_iff.1 hkeys
  exact eq_of_perm ((files_ofList_perm hkeys).trans (h.trans (files_ofList_perm hkeys').symm))

/-! ## Maps -/

theorem get?_congr {p q : Path} (h : p.components = q.components) (corpus : Corpus) :
    corpus.get? p = corpus.get? q := by
  rw [get?, get?, Path.key_eq_iff.2 h]

/-- A corpus has the paths of the files that it is made of. -/
theorem mem_components_ofList {files : List SourceFile} {components : List PathComponent} :
    components ∈ (ofList files).files.map (fun file => file.path.components)
      ↔ components ∈ files.map fun file => file.path.components := by
  simp only [List.mem_map]
  constructor
  · rintro ⟨file, hin, rfl⟩
    obtain ⟨before, after, rfl, -⟩ := get?_ofList_eq_some_iff.1 (mem_files_iff.1 hin)
    exact ⟨file, List.mem_append_right _ List.mem_cons_self, rfl⟩
  · rintro ⟨file, hin, rfl⟩
    -- Some file has this path, though it need not be the one at hand.
    have hsome : (ofList files).get? file.path ≠ none := fun hnone =>
      get?_ofList_eq_none_iff.1 hnone file hin rfl
    obtain ⟨found, hfound⟩ := Option.ne_none_iff_exists'.1 hsome
    exact ⟨found, List.mem_of_find?_eq_some hfound, components_eq_of_get? hfound⟩

theorem size_ofList (files : List SourceFile) :
    (ofList files).size = (files.map fun file => file.path.components).toFinset.card := by
  rw [size, ← List.length_map (fun file => file.path.components),
    ← List.toFinset_card_of_nodup (ofList files).nodup_components]
  congr 1
  ext components
  rw [List.mem_toFinset, List.mem_toFinset, mem_components_ofList]

/-- The corpus is the map that the files make: a path has the last of the files with an equal path,
and no other files are there. -/
structure Maps (files : List SourceFile) (corpus : Corpus) : Prop where
  /-- Every file stands before those after it. -/
  inOrder : corpus.files.Pairwise fun a b => a.path.Before b.path
  /-- Paths with the same components have one file. -/
  eq_of_components : ∀ a ∈ corpus.files, ∀ b ∈ corpus.files,
    a.path.components = b.path.components → a = b
  /-- A file is there just when its path has it. -/
  mem_iff : ∀ file, file ∈ corpus.files ↔ corpus.get? file.path = some file
  /-- There are as many files as there are classes of equal paths. -/
  size_eq : corpus.size = (files.map fun file => file.path.components).toFinset.card
  /-- In any spelling a path has the last one of the files with an equal path. -/
  get?_eq_some_iff : ∀ path file, corpus.get? path = some file ↔
    ∃ before after, files = before ++ file :: after
      ∧ file.path.components = path.components
      ∧ ∀ other ∈ after, other.path.components ≠ path.components
  /-- A path has no file if there is none with an equal path. -/
  get?_eq_none_iff : ∀ path, corpus.get? path = none ↔
    ∀ file ∈ files, file.path.components ≠ path.components

theorem maps_ofList (files : List SourceFile) : Maps files (ofList files) where
  inOrder := (ofList files).ordered.imp Path.key_lt_iff.1
  eq_of_components _ ha _ hb := List.inj_on_of_nodup_map (ofList files).nodup_components ha hb
  mem_iff _ := mem_files_iff
  size_eq := size_ofList files
  get?_eq_some_iff _ _ := get?_ofList_eq_some_iff
  get?_eq_none_iff _ := get?_ofList_eq_none_iff

/-- The corpus of any files is their map, and files with different paths make the same corpus in any
order. A path is known by its components, so it may be spelled with slashes doubled, with dots
between slashes or with a slash at the end. The order of paths is a strict total order of their
components. -/
theorem ofList_ordered_map :
    (∀ files, Maps files (ofList files))
    ∧ (∀ files other : List SourceFile, files.Perm other →
        (files.map fun file => file.path.components).Nodup → ofList files = ofList other)
    ∧ (∀ (files : List SourceFile) (p q : Path), p.components = q.components →
        (ofList files).get? p = (ofList files).get? q)
    ∧ (∀ front rest : String,
        Path.components ⟨front ++ "//" ++ rest⟩ = Path.components ⟨front ++ "/" ++ rest⟩
        ∧ Path.components ⟨front ++ "/./" ++ rest⟩ = Path.components ⟨front ++ "/" ++ rest⟩
        ∧ (front ≠ "" → Path.components ⟨front ++ "/"⟩ = Path.components ⟨front⟩))
    ∧ (∀ a b : Path, a.Before b ∨ a.components = b.components ∨ b.Before a)
    ∧ (∀ a b c : Path, a.Before b → b.Before c → a.Before c)
    ∧ (∀ a b : Path, a.Before b → a.components ≠ b.components) := by
  refine ⟨maps_ofList, fun _ _ => ofList_eq_of_perm, fun files _ _ h => get?_congr h (ofList files),
    fun front rest => ⟨?doubled, ?dotted, ?trailing⟩, Path.before_trichotomy,
    fun _ _ _ => Path.Before.trans, fun _ _ => Path.Before.ne⟩
  case doubled => exact Path.components_doubled front rest
  case dotted => exact Path.components_dotted front rest
  case trailing => exact Path.components_trailing

/-- A name stands behind a dot at the front and this behind the root, and files with such paths make
one corpus in any order. -/
theorem ofList_ordered_map_fronts :
    ofList [⟨⟨"a"⟩, ['x']⟩, ⟨⟨"./a"⟩, ['y']⟩, ⟨⟨"/a"⟩, ['z']⟩]
      = ofList [⟨⟨"/a"⟩, ['z']⟩, ⟨⟨"a"⟩, ['x']⟩, ⟨⟨"./a"⟩, ['y']⟩]
    ∧ (ofList [⟨⟨"a//b"⟩, ['x']⟩, ⟨⟨"a/b/"⟩, ['y']⟩]).get? ⟨"a/./b"⟩
      = (ofList [⟨⟨"a//b"⟩, ['x']⟩, ⟨⟨"a/b/"⟩, ['y']⟩]).get? ⟨"a/b"⟩
    ∧ Path.components ⟨"a/b" ++ "/"⟩ = Path.components ⟨"a/b"⟩
    ∧ Path.Before ⟨"/a"⟩ ⟨"a"⟩
    ∧ Path.components ⟨"./a"⟩ ≠ Path.components ⟨"a"⟩ := by
  obtain ⟨-, hperm, hspelled, hspellings, -, htrans, hne⟩ := ofList_ordered_map
  have hroot : Path.Before ⟨"/a"⟩ ⟨"./a"⟩ := Path.key_lt_iff.1 (by decide)
  have hdot : Path.Before ⟨"./a"⟩ ⟨"a"⟩ := Path.key_lt_iff.1 (by decide)
  refine ⟨hperm _ _ ?_ (by decide), hspelled _ _ _ (by decide), (hspellings "a/b" "").2.2 (by decide),
    htrans _ _ _ hroot hdot, hne _ _ hdot⟩
  exact @List.perm_append_comm _ [_, _] [_]

end Corpus

end RubricScore
