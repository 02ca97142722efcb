import Mathlib.Algebra.BigOperators.Group.List.Basic
import Mathlib.Data.UInt
import RubricScore.Proofs.Evidence.Additivity
import RubricScore.Proofs.Rubric.Validation

/-!
# What evidence accounts for

The total of the evidence is summed over a list of totals, while the counts of the single cues stand
in a map, where equal cues would fall together. Since the cues of a valid rubric differ from each
other, the map has one entry for each cue, in the order of the rubric, and its values add up to the
total.

A report holds its numbers as words. The numbers themselves are compared first; the words compare
alike as long as the numbers fit.

## Main definitions

* `CueSet.occurrences`, `Component.occurrences`: occurrences of all cues in texts and in a corpus;
* `Component.Accounts`: what the evidence of a component has to say about a corpus.

## Main results

* `Component.accounts_evaluate`: the evidence of an evaluation says it, if the cues are distinct;
* `Rubric.evidence_accounts`: so does the evidence in the report on a valid rubric.
-/

namespace RubricScore

/-! ## Counts of files and of occurrences -/

namespace CueSet

/-- Occurrences of all cues in some texts, text by text. -/
def occurrences (cues : CueSet) (texts : List (List Char)) : Nat :=
  (texts.map fun text => (cues.countIn (Text.lowercase text)).sum).sum

variable (cues : CueSet)

/-- The occurrences may as well be added up cue by cue. -/
theorem sum_total (texts : List (List Char)) :
    (cues.cues.map fun cue => cue.total texts).sum = cues.occurrences texts := by
  induction texts with
  | nil => simp [Cue.total, occurrences]
  | cons text rest ih =>
    have hcons : ∀ cue : Cue, cue.total (text :: rest)
        = cue.count (Text.lowercase text) + cue.total rest := by
      intro cue
      simp [Cue.total]
    simp only [hcons, List.sum_map_add, ih]
    simp [occurrences, countIn]

variable {cues}

theorem occursIn_iff {text : List Char} :
    cues.occursIn text ↔ 0 < (cues.countIn (Text.lowercase text)).sum := by
  rw [occursIn, List.any_eq_true, List.sum_pos_iff_exists_pos_nat]
  simp

/-- A text that counts holds at least one occurrence, and every occurrence is in a text that
counts. -/
theorem length_matching_le (texts : List (List Char)) :
    (cues.matching texts).length ≤ cues.occurrences texts := by
  induction texts with
  | nil => exact Nat.le_refl 0
  | cons text rest ih =>
    simp only [matching, occurrences, List.filter_cons, List.map_cons, List.sum_cons] at ih ⊢
    split
    · next hoccurs =>
      have := occursIn_iff.1 hoccurs
      rw [List.length_cons]
      omega
    · omega

theorem matching_eq_nil_iff {texts : List (List Char)} :
    cues.matching texts = [] ↔ cues.occurrences texts = 0 := by
  rw [matching, List.filter_eq_nil_iff, occurrences, List.sum_eq_zero_iff_forall_eq_nat,
    List.forall_mem_map]
  refine forall₂_congr fun text _ => ?_
  rw [occursIn_iff, Nat.not_lt, Nat.le_zero]

end CueSet

/-- The sum of words is the word of the sum. -/
theorem sum_map_ofNat (counts : List Nat) :
    (counts.map UInt64.ofNat).sum = UInt64.ofNat counts.sum := by
  induction counts with
  | nil => rfl
  | cons count rest ih => rw [List.map_cons, List.sum_cons, List.sum_cons, ih, UInt64.ofNat_add]

/-- Words compare as the numbers do that they stand for. -/
theorem ofNat_le_ofNat {m n : Nat} (h : m ≤ n) (hn : n < UInt64.size) :
    UInt64.ofNat m ≤ UInt64.ofNat n := by
  rw [UInt64.le_iff_toNat_le, UInt64.toNat_ofNat_of_lt' hn,
    UInt64.toNat_ofNat_of_lt' (Nat.lt_of_le_of_lt h hn)]
  exact h

theorem ofNat_eq_zero_iff {n : Nat} (hn : n < UInt64.size) : UInt64.ofNat n = 0 ↔ n = 0 := by
  rw [← UInt64.toNat_inj, UInt64.toNat_ofNat_of_lt' hn]
  rfl

/-! ## The evidence of a component -/

namespace Component

/-- Occurrences of all cues of a component in the files of a corpus. -/
def occurrences (component : Component) (corpus : Corpus) : Nat :=
  (component.cues.map fun cue => (Cue.ofPhrase cue).total corpus.texts).sum

/-- Number of files of a corpus in which some cue of a component occurs. -/
def filesWithCue (component : Component) (corpus : Corpus) : Nat :=
  corpus.files.countP fun file =>
    component.cues.any fun cue => 0 < (Cue.ofPhrase cue).count file.lowercase

/-- What the evidence of a component says about a corpus. -/
structure Accounts (component : Component) (corpus : Corpus) (evidence : Evidence) : Prop where
  /-- The cues as written and in their order, each with its occurrences in all files. -/
  cueMatches : evidence.cueMatches.entries
    = component.cues.map fun cue => (cue, .ofNat ((Cue.ofPhrase cue).total corpus.texts))
  /-- The total is the sum of the counts of the cues. -/
  totalMatches : evidence.totalMatches = evidence.cueMatches.values.sum
  /-- The files are those with at least one occurrence. -/
  matchedFiles : evidence.matchedFiles = .ofNat (component.filesWithCue corpus)

theorem length_matching (component : Component) (corpus : Corpus) :
    (component.cueSet.matching corpus.texts).length = component.filesWithCue corpus := by
  rw [CueSet.matching, Corpus.texts, ← List.countP_eq_length_filter, List.countP_map]
  refine List.countP_congr fun file _ => ?_
  simp only [Function.comp, CueSet.occursIn, CueSet.countIn, cueSet, CueSet.ofPhrases,
    List.any_map, SourceFile.lowercase]
  rfl

theorem occurrences_eq (component : Component) (corpus : Corpus) :
    component.occurrences corpus
      = (component.cueSet.cues.map fun cue => cue.total corpus.texts).sum := by
  rw [occurrences, cueSet, CueSet.ofPhrases, List.map_map]
  rfl

theorem filesWithCue_le_occurrences (component : Component) (corpus : Corpus) :
    component.filesWithCue corpus ≤ component.occurrences corpus := by
  rw [occurrences_eq, CueSet.sum_total, ← length_matching]
  exact CueSet.length_matching_le corpus.texts

theorem filesWithCue_le_size (component : Component) (corpus : Corpus) :
    component.filesWithCue corpus ≤ corpus.size :=
  List.countP_le_length

theorem filesWithCue_eq_zero_iff (component : Component) (corpus : Corpus) :
    component.filesWithCue corpus = 0 ↔ component.occurrences corpus = 0 := by
  rw [occurrences_eq, CueSet.sum_total, ← length_matching, List.length_eq_zero_iff]
  exact CueSet.matching_eq_nil_iff

/-- The evidence of an evaluation accounts for every cue, if the cues are distinct. -/
theorem accounts_evaluate (name : String) {component : Component} (h : component.cues.Nodup)
    (corpus : Corpus) :
    component.Accounts corpus (component.evaluate name corpus.digests).evidence := by
  rw [evaluate_evidence]
  have hentries : (component.cueSet.evidenceIn corpus.texts).cueMatches.entries
      = component.cues.map fun cue => (cue, .ofNat ((Cue.ofPhrase cue).total corpus.texts)) := by
    -- Only with distinct cues does the map keep all pairs.
    rw [CueSet.evidenceIn, OrderedMap.entries_ofList] <;>
      rw [cueSet, CueSet.ofPhrases, List.map_map]
    · rfl
    · rw [List.map_map]
      simpa [Function.comp_def, Cue.ofPhrase] using h
  constructor
  case cueMatches => exact hentries
  case totalMatches =>
    rw [OrderedMap.values, hentries, List.map_map, CueSet.evidenceIn, ← occurrences_eq, occurrences,
      ← sum_map_ofNat, List.map_map]
    rfl
  case matchedFiles => rw [CueSet.evidenceIn, length_matching]

end Component

/-! ## The evidence in a report -/

/-- The report on a valid rubric has evidence for every component that accounts for each of its
cues. The files with an occurrence are no more than the occurrences and no more than all files, and
there are none just when there is no occurrence. The words of the report compare alike if the
numbers fit into words. -/
theorem Rubric.evidence_accounts {rubric : Rubric} (h : rubric.validate = .ok ()) (corpus : Corpus)
    (category : Category) {name : String} {component : Component}
    (hentry : (name, component) ∈ (rubric.components category).entries) :
    (component.filesWithCue corpus ≤ component.occurrences corpus
        ∧ component.filesWithCue corpus ≤ corpus.size
        ∧ (component.filesWithCue corpus = 0 ↔ component.occurrences corpus = 0))
    ∧ ∃ result, ((rubric.evaluate corpus).results category).get? name = some result
      ∧ component.Accounts corpus result.evidence
      ∧ (component.occurrences corpus < UInt64.size →
        result.evidence.matchedFiles ≤ result.evidence.totalMatches
          ∧ (result.evidence.matchedFiles = 0 ↔ result.evidence.totalMatches = 0))
      ∧ (corpus.size < UInt64.size →
        result.evidence.matchedFiles ≤ (rubric.evaluate corpus).summary.filesScanned) := by
  have hle := component.filesWithCue_le_occurrences corpus
  have hsize := component.filesWithCue_le_size corpus
  have hzero := component.filesWithCue_eq_zero_iff corpus
  refine ⟨⟨hle, hsize, hzero⟩, component.evaluate name corpus.digests, ?_, ?_⟩
  · rw [results_evaluate, OrderedMap.get?_mapValues, OrderedMap.get?_eq_some_iff.2 hentry]
    rfl
  -- Validation is what keeps the cues apart.
  have hcues := Component.nodup_cues_of_check (check_of_validate h category hentry)
  have haccounts := Component.accounts_evaluate name hcues corpus
  have htotal : (component.evaluate name corpus.digests).evidence.totalMatches
      = .ofNat (component.occurrences corpus) := by
    rw [Component.evaluate_evidence, Component.occurrences_eq]
    rfl
  refine ⟨haccounts, fun hfits => ?_, fun hfits => ?_⟩
  · rw [haccounts.matchedFiles, htotal]
    refine ⟨ofNat_le_ofNat hle hfits, ?_⟩
    rw [ofNat_eq_zero_iff (Nat.lt_of_le_of_lt hle hfits), ofNat_eq_zero_iff hfits]
    exact hzero
  · rw [haccounts.matchedFiles]
    exact ofNat_le_ofNat hsize hfits

/-- A component with two cues, one of them in capitals and within the other. -/
def lockComponent : Component :=
  ⟨1, Criticality.high, "", ["spin lock", "LOCK"], 0, 0, none⟩

/-- A rubric with this component only. -/
def lockRubric : Rubric :=
  ⟨.null, OrderedMap.empty.insert "Locks" lockComponent, OrderedMap.empty⟩

/-- A file with three occurrences of the cues and a file with none. -/
def lockCorpus : Corpus :=
  Corpus.ofList [⟨⟨"a.c"⟩, "spin lock; Lock(x);".toList⟩, ⟨⟨"b.c"⟩, "unlock(x);".toList⟩]

/-- The evidence for two cues of which one occurs within the other. -/
theorem Rubric.evidence_accounts_locks :
    (lockRubric.validate = .ok () ∧ lockComponent.occurrences lockCorpus < UInt64.size)
    ∧ ∃ result,
      ((lockRubric.evaluate lockCorpus).results .kernelPrimitive).get? "Locks" = some result
      ∧ lockComponent.Accounts lockCorpus result.evidence
      ∧ result.evidence.matchedFiles ≤ result.evidence.totalMatches
      ∧ result.evidence.matchedFiles ≤ (lockRubric.evaluate lockCorpus).summary.filesScanned := by
  have hvalid : lockRubric.validate = .ok () := by decide +kernel
  have hfits : lockComponent.occurrences lockCorpus < UInt64.size := by decide +kernel
  have hentry : ("Locks", lockComponent) ∈ (lockRubric.components .kernelPrimitive).entries :=
    List.mem_cons_self
  obtain ⟨-, result, hresult, haccounts, hfiles, hscanned⟩ :=
    Rubric.evidence_accounts hvalid lockCorpus .kernelPrimitive hentry
  exact ⟨⟨hvalid, hfits⟩, result, hresult, haccounts, (hfiles hfits).1,
    hscanned (by decide +kernel)⟩

end RubricScore
