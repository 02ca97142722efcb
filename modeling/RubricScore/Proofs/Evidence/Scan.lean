import Mathlib.Algebra.GroupWithZero.Nat
import RubricScore.Evaluation

/-!
# Evidence as sums over texts

A scan tallies paths, sorts them and looks the files up again. What it finds can be said without
paths: the occurrences of a cue are a sum over the texts of the corpus, and the files that count are
those whose text holds some cue.

## Main definitions

* `CueSet.evidenceIn`: the evidence in a list of texts;
* `CueSet.metricsIn`: the functions and source lines of the texts in which a cue occurs.

## Main results

* `CueSet.scan_evidence` and `CueSet.sum_scan_matched`: a scan of a corpus finds just these;
* `CueSet.evidenceIn_perm` and `CueSet.metricsIn_perm`: the order of the texts does not matter.
-/

namespace RubricScore

/-! ## Counts of texts -/

/-- Number of occurrences of a cue in texts, counted in lower case. -/
def Cue.total (cue : Cue) (texts : List (List Char)) : Nat :=
  (texts.map fun text => cue.count (Text.lowercase text)).sum

/-- The texts of a corpus, in path order. -/
def Corpus.texts (corpus : Corpus) : List (List Char) :=
  corpus.files.map SourceFile.text

namespace CueSet

/-- Some cue of the set occurs in a text. -/
def occursIn (cues : CueSet) (text : List Char) : Bool :=
  (cues.countIn (Text.lowercase text)).any (0 < ·)

/-- The texts in which some cue occurs. -/
def matching (cues : CueSet) (texts : List (List Char)) : List (List Char) :=
  texts.filter cues.occursIn

/-- The evidence in texts. -/
def evidenceIn (cues : CueSet) (texts : List (List Char)) : Evidence where
  totalMatches := .ofNat (cues.cues.map fun cue => cue.total texts).sum
  matchedFiles := .ofNat (cues.matching texts).length
  cueMatches := .ofList (cues.cues.map fun cue => (cue.phrase, .ofNat (cue.total texts)))

/-- The counts of the texts in which some cue occurs. -/
def metricsIn (cues : CueSet) (texts : List (List Char)) : Metrics :=
  Metrics.sum ((cues.matching texts).map Metrics.measure)

end CueSet

/-! ## The order of the texts -/

theorem Cue.total_append (cue : Cue) (a b : List (List Char)) :
    cue.total (a ++ b) = cue.total a + cue.total b := by
  unfold Cue.total
  rw [List.map_append, List.sum_append]

theorem Cue.total_perm (cue : Cue) {a b : List (List Char)} (h : a.Perm b) :
    cue.total a = cue.total b :=
  (h.map _).sum_nat

/-- The sum of counts, count by count. -/
theorem Metrics.sum_eq (counts : List Metrics) :
    Metrics.sum counts = ⟨(counts.map Metrics.functions).sum, (counts.map Metrics.sloc).sum⟩ := by
  -- The fold starts from zero; the induction needs any start.
  suffices h : ∀ start : Metrics, counts.foldl (· + ·) start
      = ⟨start.functions + (counts.map Metrics.functions).sum,
          start.sloc + (counts.map Metrics.sloc).sum⟩ by
    rw [Metrics.sum, h, Metrics.zero, Nat.zero_add, Nat.zero_add]
  induction counts with
  | nil => exact fun _ => rfl
  | cons head rest ih =>
    intro start
    have hadd : start + head
        = ⟨start.functions + head.functions, start.sloc + head.sloc⟩ := rfl
    rw [List.foldl_cons, ih, hadd]
    simp only [List.map_cons, List.sum_cons, Nat.add_assoc]

theorem Metrics.sum_perm {a b : List Metrics} (h : a.Perm b) : Metrics.sum a = Metrics.sum b := by
  rw [Metrics.sum_eq, Metrics.sum_eq, (h.map _).sum_nat, (h.map _).sum_nat]

theorem Metrics.sum_append (a b : List Metrics) :
    Metrics.sum (a ++ b) = Metrics.sum a + Metrics.sum b := by
  rw [Metrics.sum_eq, Metrics.sum_eq a, Metrics.sum_eq b, List.map_append, List.map_append,
    List.sum_append, List.sum_append]
  rfl

namespace CueSet

/-- The evidence in texts does not depend on their order. -/
theorem evidenceIn_perm (cues : CueSet) {a b : List (List Char)} (h : a.Perm b) :
    cues.evidenceIn a = cues.evidenceIn b := by
  have htotal : (fun cue : Cue => cue.total a) = fun cue => cue.total b :=
    funext fun cue => cue.total_perm h
  have hlength : (cues.matching a).length = (cues.matching b).length := (h.filter _).length_eq
  unfold evidenceIn
  simp only [congrFun htotal, hlength]

/-- The counts of the texts that hold a cue do not depend on the order of the texts. -/
theorem metricsIn_perm (cues : CueSet) {a b : List (List Char)} (h : a.Perm b) :
    cues.metricsIn a = cues.metricsIn b :=
  Metrics.sum_perm ((h.filter _).map _)

/-! ## Tallies -/

/-- The hits of a scan are the files whose text holds a cue. -/
theorem hits_digests (cues : CueSet) (files : List SourceFile) :
    cues.hits (files.map Digest.ofFile)
      = (files.filter fun file => cues.occursIn file.text).map
          fun file => (file.path, cues.countIn file.lowercase) := by
  unfold hits
  rw [List.map_map, List.filter_map]
  rfl

/-- A text in which no cue occurs adds nothing to any cue. -/
theorem count_eq_zero {cues : CueSet} {text : List Char} (h : cues.occursIn text = false)
    {cue : Cue} (hcue : cue ∈ cues.cues) : cue.count (Text.lowercase text) = 0 := by
  unfold occursIn countIn at h
  rw [List.any_eq_false] at h
  have := h _ (List.mem_map_of_mem hcue)
  simpa using this

/-- The occurrences of a cue are all found in the texts in which some cue occurs. -/
theorem total_matching {cues : CueSet} {cue : Cue} (hcue : cue ∈ cues.cues)
    (texts : List (List Char)) : cue.total (cues.matching texts) = cue.total texts := by
  unfold Cue.total matching
  induction texts with
  | nil => rfl
  | cons text rest ih =>
    cases hoccurs : cues.occursIn text with
    | true => simp only [List.filter_cons_of_pos, hoccurs, List.map_cons, List.sum_cons, ih]
    | false =>
      rw [List.filter_cons_of_neg (by simp [hoccurs]), ih, List.map_cons, List.sum_cons,
        count_eq_zero hoccurs hcue, Nat.zero_add]

/-- What a tally becomes when files are added to it one after the other. -/
theorem foldl_add (cues : CueSet) (files : List SourceFile) (start : Cue → Nat)
    (before : List Path) :
    (files.map fun file => (file.path, cues.countIn file.lowercase)).foldl
        (fun tally item => tally.add item.1 item.2) ⟨cues.cues.map start, before⟩
      = (⟨cues.cues.map fun cue => start cue + cue.total (files.map SourceFile.text),
          before ++ files.map SourceFile.path⟩ : Tally) := by
  -- Totals per cue are a function of the cue, so adding a file changes the start.
  induction files generalizing start before with
  | nil => simp [Cue.total]
  | cons file rest ih =>
    have hadd : (⟨cues.cues.map start, before⟩ : Tally).add file.path (cues.countIn file.lowercase)
        = ⟨cues.cues.map fun cue => start cue + cue.count file.lowercase,
            before ++ [file.path]⟩ := by
      rw [Tally.add, countIn, List.zipWith_map, List.zipWith_self]
    rw [List.map_cons, List.foldl_cons, hadd, ih]
    simp [Cue.total, SourceFile.lowercase, Nat.add_assoc]

/-- The tally of a scan: the totals of the cues and the paths of the files that hold one. -/
theorem ofCounted_hits (cues : CueSet) (files : List SourceFile) :
    Tally.ofCounted cues.size (cues.hits (files.map Digest.ofFile))
      = ⟨cues.cues.map fun cue => cue.total (files.map SourceFile.text),
          (files.filter fun file => cues.occursIn file.text).map SourceFile.path⟩ := by
  have hempty : Tally.empty cues.size = ⟨cues.cues.map fun _ => 0, []⟩ := by
    rw [Tally.empty, size, List.map_const']
  have htexts : (files.filter fun file => cues.occursIn file.text).map SourceFile.text
      = cues.matching (files.map SourceFile.text) := by
    rw [matching, List.filter_map]
    rfl
  rw [Tally.ofCounted, hempty, hits_digests, foldl_add, List.nil_append, htexts]
  -- Only files with a hit were added; the others hold no occurrence of any cue.
  congr 1
  refine List.map_congr_left fun cue hcue => ?_
  rw [Nat.zero_add, total_matching hcue]

end CueSet

/-! ## Files looked up by their paths -/

/-- A file of a corpus is found again by its path. -/
theorem digestAt?_path {files : List SourceFile} (h : files.Pairwise SourceFile.Before)
    {file : SourceFile} (hfile : file ∈ files) :
    digestAt? (files.map Digest.ofFile) file.path = some (Digest.ofFile file) := by
  unfold digestAt?
  rw [List.find?_map]
  suffices hfind : files.find? (fun other => other.path.key == file.path.key) = some file by
    show (files.find? fun other => other.path.key == file.path.key).map Digest.ofFile = _
    rw [hfind]
    rfl
  induction files with
  | nil => exact absurd hfile List.not_mem_nil
  | cons head rest ih =>
    obtain ⟨hhead, hrest⟩ := List.pairwise_cons.1 h
    rcases List.mem_cons.1 hfile with rfl | hin
    · exact List.find?_cons_of_pos (by simp)
    · -- Earlier files have smaller paths, so the search passes them by.
      have hne : head.path.key ≠ file.path.key := by
        intro heq
        have hlt : head.path.key < file.path.key := hhead file hin
        rw [heq] at hlt
        exact List.lt_irrefl _ hlt
      rw [List.find?_cons_of_neg (by simpa using hne)]
      exact ih hrest hin

/-- The files of a tally are those that were tallied, whatever order their paths were sorted in. -/
theorem filterMap_digestAt?_perm {files chosen : List SourceFile} {paths : List Path}
    (h : files.Pairwise SourceFile.Before) (hchosen : chosen ⊆ files)
    (hpaths : paths.Perm (chosen.map SourceFile.path)) :
    (paths.filterMap (digestAt? (files.map Digest.ofFile))).Perm (chosen.map Digest.ofFile) := by
  -- The paths are looked up in the order of the files first, then the sorting is a permutation.
  have hfound : (chosen.map SourceFile.path).filterMap (digestAt? (files.map Digest.ofFile))
      = chosen.map Digest.ofFile := by
    clear hpaths
    induction chosen with
    | nil => rfl
    | cons file rest ih =>
      rw [List.map_cons, List.map_cons,
        List.filterMap_cons_some (digestAt?_path h (hchosen List.mem_cons_self)),
        ih fun other hin => hchosen (List.mem_cons_of_mem _ hin)]
  exact hfound ▸ hpaths.filterMap _

/-! ## Scans -/

namespace CueSet

/-- The evidence of a scan is the evidence in the texts of the corpus. -/
theorem scan_evidence (cues : CueSet) (corpus : Corpus) :
    (cues.scan corpus.digests).evidence = cues.evidenceIn corpus.texts := by
  have hlength : (cues.matching (corpus.files.map SourceFile.text)).length
      = (corpus.files.filter fun file => cues.occursIn file.text).length := by
    rw [matching, List.filter_map, List.length_map]
    rfl
  unfold scan scanOf evidenceIn Corpus.digests Corpus.texts
  rw [ofCounted_hits, hlength]
  simp only [phrases, List.length_map, List.map_map, List.zip_map', List.sum_eq_foldr,
    Function.comp_def]

/-- The counts of the files that a scan matches are those of the texts that hold a cue. -/
theorem sum_scan_matched (cues : CueSet) (corpus : Corpus) :
    Metrics.sum ((cues.scan corpus.digests).matched.map Digest.metrics)
      = cues.metricsIn corpus.texts := by
  have hperm : (cues.scan corpus.digests).matched.Perm
      ((corpus.files.filter fun file => cues.occursIn file.text).map Digest.ofFile) := by
    unfold scan scanOf Corpus.digests
    rw [ofCounted_hits]
    exact filterMap_digestAt?_perm corpus.ordered List.filter_sublist.subset
      (List.mergeSort_perm _ _)
  have hmetrics : ((corpus.files.filter fun file => cues.occursIn file.text).map
        Digest.ofFile).map Digest.metrics
      = (cues.matching corpus.texts).map Metrics.measure := by
    rw [matching, Corpus.texts, List.filter_map, List.map_map, List.map_map]
    rfl
  rw [metricsIn, ← hmetrics]
  exact Metrics.sum_perm (hperm.map _)

end CueSet

end RubricScore
