import RubricScore.Proofs.Evidence.Scan

/-!
# Counts add up over files

The counts of a component are sums of what each text contributes. They add up over corpora that
share no path, a text without a cue contributes nothing, and corpora with the same texts get the
same report, whatever the files are called.

## Main definitions

* `Corpus.union`: the files of two corpora in one;
* `ComponentResult.IsSum`: every count of a result is the sum of the counts of two others;
* `ComponentResult.HasNoCounts`: every count of a result is zero.

## Main results

* `Component.counts_add_up`: the counts of a union, of a file without a cue, and of corpora that
  differ in paths only.
-/

namespace RubricScore

/-! ## Unions of corpora -/

namespace Corpus

/-- No file of one corpus has a path equal to that of a file of the other. -/
def Disjoint (c d : Corpus) : Prop :=
  ∀ a ∈ c.files, ∀ b ∈ d.files, a.path.key ≠ b.path.key

instance (c d : Corpus) : Decidable (c.Disjoint d) :=
  inferInstanceAs (Decidable (∀ a ∈ c.files, ∀ b ∈ d.files, a.path.key ≠ b.path.key))

/-- The files of two corpora in one; of two files with equal paths the second one is kept. -/
def union (c d : Corpus) : Corpus :=
  c.files.foldr add d

end Corpus

/-- Of disjoint corpora, the union has just the files of both. -/
theorem Corpus.files_union_perm {c d : Corpus} (h : c.Disjoint d) :
    (c.union d).files.Perm (c.files ++ d.files) := by
  have hordered := c.ordered
  unfold Corpus.Disjoint at h
  unfold Corpus.union
  generalize c.files = files at h hordered
  -- A file is new to the later files of its own corpus as well as to the other corpus.
  induction files with
  | nil => exact List.Perm.refl _
  | cons file rest ih =>
    obtain ⟨hfile, hrest⟩ := List.pairwise_cons.1 hordered
    have hperm := ih (fun a ha => h a (List.mem_cons_of_mem _ ha)) hrest
    rw [List.foldr_cons, List.cons_append]
    refine (putFile_perm fun other hin => ?_).trans (hperm.cons file)
    rcases List.mem_append.1 (hperm.mem_iff.1 hin) with hin | hin
    · intro heq
      have hlt : file.path.key < other.path.key := hfile other hin
      rw [heq] at hlt
      exact List.lt_irrefl _ hlt
    · exact h file List.mem_cons_self other hin

theorem Corpus.texts_union_perm {c d : Corpus} (h : c.Disjoint d) :
    (c.union d).texts.Perm (c.texts ++ d.texts) := by
  unfold Corpus.texts
  rw [← List.map_append]
  exact (Corpus.files_union_perm h).map _

/-! ## Sums of counts -/

namespace ComponentResult

/-- Every count of a result is the sum of the counts of two others. -/
structure IsSum (total a b : ComponentResult) : Prop where
  /-- The occurrences of all cues. -/
  totalMatches :
    total.evidence.totalMatches = a.evidence.totalMatches + b.evidence.totalMatches
  /-- The files with an occurrence. -/
  matchedFiles :
    total.evidence.matchedFiles = a.evidence.matchedFiles + b.evidence.matchedFiles
  /-- The cues stand in the same order in all three. -/
  cueNames : total.evidence.cueMatches.names = a.evidence.cueMatches.names
    ∧ total.evidence.cueMatches.names = b.evidence.cueMatches.names
  /-- The occurrences of each cue. -/
  cueMatches : ∀ cue, total.evidence.cueMatches.get? cue
    = (a.evidence.cueMatches.get? cue).bind fun m =>
        (b.evidence.cueMatches.get? cue).map fun n => m + n
  /-- The functions. -/
  functions : total.functions.found = a.functions.found + b.functions.found
  /-- The source lines. -/
  sloc : total.sloc.found = a.sloc.found + b.sloc.found

/-- Every count of a result is zero. -/
structure HasNoCounts (result : ComponentResult) : Prop where
  /-- No cue occurs. -/
  totalMatches : result.evidence.totalMatches = 0
  /-- No file has an occurrence. -/
  matchedFiles : result.evidence.matchedFiles = 0
  /-- No single cue occurs. -/
  cueMatches : ∀ entry ∈ result.evidence.cueMatches.entries, entry.2 = 0
  /-- No function counts. -/
  functions : result.functions.found = 0
  /-- No source line counts. -/
  sloc : result.sloc.found = 0

end ComponentResult

namespace CueSet

/-- The totals of two lists of texts side by side, under each cue. -/
def totalsIn (cues : CueSet) (a b : List (List Char)) : OrderedMap String (UInt64 × UInt64) :=
  .ofList (cues.cues.map fun cue => (cue.phrase, .ofNat (cue.total a), .ofNat (cue.total b)))

theorem mapValues_fst_totalsIn (cues : CueSet) (a b : List (List Char)) :
    (cues.totalsIn a b).mapValues (fun _ => Prod.fst) = (cues.evidenceIn a).cueMatches := by
  rw [totalsIn, OrderedMap.mapValues_ofList, List.map_map]
  rfl

theorem mapValues_snd_totalsIn (cues : CueSet) (a b : List (List Char)) :
    (cues.totalsIn a b).mapValues (fun _ => Prod.snd) = (cues.evidenceIn b).cueMatches := by
  rw [totalsIn, OrderedMap.mapValues_ofList, List.map_map]
  rfl

theorem mapValues_add_totalsIn (cues : CueSet) (a b : List (List Char)) :
    (cues.totalsIn a b).mapValues (fun _ counts => counts.1 + counts.2)
      = (cues.evidenceIn (a ++ b)).cueMatches := by
  rw [totalsIn, OrderedMap.mapValues_ofList, List.map_map]
  unfold evidenceIn
  simp only [Cue.total_append, UInt64.ofNat_add]
  rfl

theorem matching_append (cues : CueSet) (a b : List (List Char)) :
    cues.matching (a ++ b) = cues.matching a ++ cues.matching b :=
  List.filter_append ..

theorem totalMatches_evidenceIn_append (cues : CueSet) (a b : List (List Char)) :
    (cues.evidenceIn (a ++ b)).totalMatches
      = (cues.evidenceIn a).totalMatches + (cues.evidenceIn b).totalMatches := by
  unfold evidenceIn
  simp only [Cue.total_append]
  rw [← UInt64.ofNat_add]
  congr 1
  -- The sum over the cues of sums is the sum of both sums.
  induction cues.cues with
  | nil => rfl
  | cons cue rest ih =>
    rw [List.map_cons, List.sum_cons, ih, List.map_cons, List.sum_cons, List.map_cons,
      List.sum_cons]
    omega

theorem matchedFiles_evidenceIn_append (cues : CueSet) (a b : List (List Char)) :
    (cues.evidenceIn (a ++ b)).matchedFiles
      = (cues.evidenceIn a).matchedFiles + (cues.evidenceIn b).matchedFiles := by
  unfold evidenceIn
  rw [matching_append, List.length_append, UInt64.ofNat_add]

theorem metricsIn_append (cues : CueSet) (a b : List (List Char)) :
    cues.metricsIn (a ++ b) = cues.metricsIn a + cues.metricsIn b := by
  rw [metricsIn, matching_append, List.map_append, Metrics.sum_append]
  rfl

end CueSet

/-! ## Results of components -/

namespace Component

/-- The evidence in a result is that in the texts of the corpus. -/
theorem evaluate_evidence (name : String) (component : Component) (corpus : Corpus) :
    (component.evaluate name corpus.digests).evidence
      = component.cueSet.evidenceIn corpus.texts :=
  component.cueSet.scan_evidence corpus

theorem evaluate_functions_found (name : String) (component : Component) (corpus : Corpus) :
    (component.evaluate name corpus.digests).functions.found
      = .ofNat (component.cueSet.metricsIn corpus.texts).functions := by
  rw [← component.cueSet.sum_scan_matched corpus]
  rfl

theorem evaluate_sloc_found (name : String) (component : Component) (corpus : Corpus) :
    (component.evaluate name corpus.digests).sloc.found
      = .ofNat (component.cueSet.metricsIn corpus.texts).sloc := by
  rw [← component.cueSet.sum_scan_matched corpus]
  rfl

/-- A result depends on a corpus through the texts only, whatever cues are looked for. -/
theorem evaluateWith_congr (name : String) (component : Component) (cues : CueSet) {c d : Corpus}
    (h : c.texts.Perm d.texts) :
    component.evaluateWith name cues c.digests = component.evaluateWith name cues d.digests := by
  have hevidence : (cues.scan c.digests).evidence = (cues.scan d.digests).evidence := by
    rw [CueSet.scan_evidence, CueSet.scan_evidence, CueSet.evidenceIn_perm _ h]
  have hmetrics : Metrics.sum ((cues.scan c.digests).matched.map Digest.metrics)
      = Metrics.sum ((cues.scan d.digests).matched.map Digest.metrics) := by
    rw [CueSet.sum_scan_matched, CueSet.sum_scan_matched, CueSet.metricsIn_perm _ h]
  unfold evaluateWith
  dsimp only
  rw [hevidence, hmetrics]

/-- The counts of a union of disjoint corpora are the sums of their counts. -/
theorem isSum_evaluate_union (name : String) (component : Component) {c d : Corpus}
    (h : c.Disjoint d) :
    (component.evaluate name (c.union d).digests).IsSum (component.evaluate name c.digests)
      (component.evaluate name d.digests) := by
  have hperm := Corpus.texts_union_perm h
  have hevidence : (component.evaluate name (c.union d).digests).evidence
      = component.cueSet.evidenceIn (c.texts ++ d.texts) := by
    rw [evaluate_evidence, CueSet.evidenceIn_perm _ hperm]
  have hmetrics : component.cueSet.metricsIn (c.union d).texts
      = component.cueSet.metricsIn c.texts + component.cueSet.metricsIn d.texts := by
    rw [CueSet.metricsIn_perm _ hperm, CueSet.metricsIn_append]
  constructor
  case totalMatches =>
    rw [hevidence, evaluate_evidence, evaluate_evidence, CueSet.totalMatches_evidenceIn_append]
  case matchedFiles =>
    rw [hevidence, evaluate_evidence, evaluate_evidence, CueSet.matchedFiles_evidenceIn_append]
  case cueNames =>
    rw [hevidence, evaluate_evidence, evaluate_evidence,
      ← CueSet.mapValues_add_totalsIn, ← CueSet.mapValues_fst_totalsIn _ c.texts d.texts,
      ← CueSet.mapValues_snd_totalsIn _ c.texts d.texts]
    simp only [OrderedMap.names_mapValues, and_self]
  case cueMatches =>
    -- The totals of both corpora stand side by side in one map, from which all three maps come.
    intro cue
    rw [hevidence, evaluate_evidence, evaluate_evidence,
      ← CueSet.mapValues_add_totalsIn, ← CueSet.mapValues_fst_totalsIn _ c.texts d.texts,
      ← CueSet.mapValues_snd_totalsIn _ c.texts d.texts]
    simp only [OrderedMap.get?_mapValues]
    cases (component.cueSet.totalsIn c.texts d.texts).get? cue <;> rfl
  case functions =>
    rw [evaluate_functions_found, evaluate_functions_found, evaluate_functions_found, hmetrics]
    exact UInt64.ofNat_add ..
  case sloc =>
    rw [evaluate_sloc_found, evaluate_sloc_found, evaluate_sloc_found, hmetrics]
    exact UInt64.ofNat_add ..

/-- A file in which no cue occurs has no counts. -/
theorem hasNoCounts_evaluate (name : String) (component : Component) {file : SourceFile}
    (h : ∀ count ∈ component.cueSet.countIn file.lowercase, count = 0) :
    (component.evaluate name (Corpus.ofList [file]).digests).HasNoCounts := by
  have htexts : (Corpus.ofList [file]).texts = [file.text] := rfl
  have hmatching : component.cueSet.matching [file.text] = [] := by
    refine List.filter_eq_nil_iff.2 fun text htext => ?_
    rw [List.mem_singleton.1 htext, CueSet.occursIn, List.any_eq_true]
    rintro ⟨count, hcount, hpos⟩
    rw [h count hcount] at hpos
    exact absurd hpos (by decide)
  have htotal : ∀ cue ∈ component.cueSet.cues, cue.total [file.text] = 0 := by
    intro cue hcue
    rw [← CueSet.total_matching hcue, hmatching]
    rfl
  have hmetrics : component.cueSet.metricsIn [file.text] = Metrics.zero := by
    rw [CueSet.metricsIn, hmatching]
    rfl
  constructor
  case totalMatches =>
    rw [evaluate_evidence, htexts, CueSet.evidenceIn, List.map_congr_left htotal, List.map_const',
      List.sum_replicate_nat]
    rfl
  case matchedFiles =>
    rw [evaluate_evidence, htexts, CueSet.evidenceIn, hmatching]
    rfl
  case cueMatches =>
    -- Whatever the order and the repetitions of the cues, every value that was inserted is zero.
    have hzero : (component.cueSet.evidenceIn [file.text]).cueMatches
        = (OrderedMap.ofList (component.cueSet.cues.map fun cue => (cue.phrase, ()))).mapValues
            fun _ _ => 0 := by
      rw [OrderedMap.mapValues_ofList, List.map_map]
      unfold CueSet.evidenceIn
      dsimp only
      congr 1
      refine List.map_congr_left fun cue hcue => ?_
      rw [htotal cue hcue]
      rfl
    rw [evaluate_evidence, htexts, hzero]
    intro entry hentry
    obtain ⟨other, -, rfl⟩ := List.mem_map.1 hentry
    rfl
  case functions =>
    rw [evaluate_functions_found, htexts, hmetrics]
    rfl
  case sloc =>
    rw [evaluate_sloc_found, htexts, hmetrics]
    rfl

end Component

/-- A report depends on a corpus through the texts only. -/
theorem Rubric.evaluate_congr (rubric : Rubric) {c d : Corpus} (h : c.texts.Perm d.texts) :
    rubric.evaluate c = rubric.evaluate d := by
  have hcategory : (Evaluator.ofRubric rubric).evaluateCategory c.digests
      = (Evaluator.ofRubric rubric).evaluateCategory d.digests := by
    funext category
    unfold Evaluator.evaluateCategory
    congr 1
    funext entry cues
    exact entry.2.evaluateWith_congr entry.1 cues h
  have hsize : c.size = d.size := by
    have := h.length_eq
    rwa [Corpus.texts, Corpus.texts, List.length_map, List.length_map] at this
  unfold evaluate Evaluator.evaluate
  dsimp only
  rw [hcategory, hsize]

/-- The counts of a component add up over corpora that share no path; a file in which no cue occurs
contributes nothing, its functions and lines included; and corpora whose texts are the same up to
the paths they stand under get the same report. -/
theorem Component.counts_add_up :
    (∀ (name : String) (component : Component) (c d : Corpus), c.Disjoint d →
      (component.evaluate name (c.union d).digests).IsSum (component.evaluate name c.digests)
        (component.evaluate name d.digests))
    ∧ (∀ (name : String) (component : Component) (file : SourceFile),
      (∀ count ∈ component.cueSet.countIn file.lowercase, count = 0) →
      (component.evaluate name (Corpus.ofList [file]).digests).HasNoCounts)
    ∧ (∀ (rubric : Rubric) (c d : Corpus),
      (c.files.map SourceFile.text).Perm (d.files.map SourceFile.text) →
      rubric.evaluate c = rubric.evaluate d) :=
  ⟨fun name component _ _ h => component.isSum_evaluate_union name h,
    fun name component _ h => component.hasNoCounts_evaluate name h,
    fun rubric _ _ h => rubric.evaluate_congr h⟩

/-- A component with one cue and no targets. -/
def Component.ofCue (cue : String) : Component :=
  ⟨1, Criticality.high, "", [cue], 0, 0, none⟩

/-- The counts of two files of which one holds the cue, and a report under exchanged paths. -/
theorem Component.counts_add_up_two_files :
    ((Component.ofCue "lock").evaluate "Locks"
        ((Corpus.ofList [⟨⟨"a.c"⟩, "lock(x);".toList⟩]).union
          (Corpus.ofList [⟨⟨"b.c"⟩, "x = 1;".toList⟩])).digests).IsSum
      ((Component.ofCue "lock").evaluate "Locks"
        (Corpus.ofList [⟨⟨"a.c"⟩, "lock(x);".toList⟩]).digests)
      ((Component.ofCue "lock").evaluate "Locks"
        (Corpus.ofList [⟨⟨"b.c"⟩, "x = 1;".toList⟩]).digests)
    ∧ ((Component.ofCue "lock").evaluate "Locks"
        (Corpus.ofList [⟨⟨"b.c"⟩, "x = 1;".toList⟩]).digests).HasNoCounts
    ∧ (Rubric.mk .null (OrderedMap.empty.insert "Locks" (Component.ofCue "lock"))
          OrderedMap.empty).evaluate
        (Corpus.ofList [⟨⟨"a.c"⟩, "lock(x);".toList⟩, ⟨⟨"b.c"⟩, "x = 1;".toList⟩])
      = (Rubric.mk .null (OrderedMap.empty.insert "Locks" (Component.ofCue "lock"))
          OrderedMap.empty).evaluate
        (Corpus.ofList [⟨⟨"a.c"⟩, "x = 1;".toList⟩, ⟨⟨"b.c"⟩, "lock(x);".toList⟩]) :=
  ⟨Component.counts_add_up.1 _ _ _ _ (by decide +kernel),
    Component.counts_add_up.2.1 _ _ _ (by decide +kernel),
    Component.counts_add_up.2.2 _ _ _ (by decide +kernel)⟩

end RubricScore
