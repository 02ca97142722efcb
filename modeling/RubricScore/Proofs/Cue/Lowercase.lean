import RubricScore.Proofs.Cue.Separators
import RubricScore.Proofs.Evidence.Scan
import RubricScore.Proofs.Rubric.Faults
import RubricScore.Proofs.Text.Lowercase

/-!
# Cues in lower-case texts

A cue is put into lower case on its own and a file as a whole, and the two forms of a phrase can differ
in a capital sigma only: it is final where a word ends, and which characters tell that is not what
makes a word boundary. A phrase that stands in a file is therefore counted unless the file changes one
of its sigmas.

Newlines separate lower-case forms as well as words, so the counts of a cue in the lines of a file add
up to its count in the file.

## Main results

* `Component.mention_counts_iff`: just when a phrase that stands in a file is found there;
* `Component.mention_missed`: a word that stands in a file as it is written and does not count;
* `Component.count_lines_add_up`: the counts of texts that newlines join add up.
-/

namespace RubricScore

/-! ## Valid cues -/

section Valid

variable {name : String} {component : Component} (hcheck : component.check name = .ok ())
  {index : Nat} {phrase : String} (hcue : component.cues[index]? = some phrase)

include hcue

theorem Component.getElem?_countIn (text : List Char) :
    (component.cueSet.countIn text)[index]? = some ((Cue.ofPhrase phrase).count text) := by
  rw [CueSet.countIn, cueSet, CueSet.ofPhrases, List.map_map, List.getElem?_map, hcue]
  rfl

include hcheck

/-- A cue that is not blank is looked for in a form that is not empty. -/
theorem Component.needle_ne_nil : (Cue.ofPhrase phrase).needle ≠ [] := by
  obtain ⟨c, hc, -⟩ := (check_eq_ok_iff_wellFormed.1 hcheck).cues.visible phrase
    (List.mem_of_getElem? hcue)
  exact Text.lowercase_ne_nil (List.ne_nil_of_mem hc)

end Valid

/-! ## Mentions -/

/-- Where a cue occurs it is counted at least once. -/
theorem Cue.OccursAt.one_le_count {cue : Cue} {text : List Char} {i : Nat}
    (h : OccursAt cue.needle text i) (hneedle : cue.needle ≠ []) : 1 ≤ cue.count text := by
  refine (cue.isGreatest_count hneedle text).2 ⟨{i}, ⟨?_, ?_⟩, by simp, Finset.card_singleton i⟩
  · exact fun j hj => Finset.mem_singleton.1 hj ▸ h
  · intro j hj k hk hlt
    rw [Finset.mem_singleton.1 hj, Finset.mem_singleton.1 hk] at hlt
    exact absurd hlt (Nat.lt_irrefl i)

/-- A phrase that stands in a file, with word boundaries at its ends in the lower-case form of the file,
is an occurrence of the cue there just when every capital sigma of the phrase is final in the file
exactly if it is final in the phrase; and then the cue is counted. So a phrase without a capital sigma
always is. -/
theorem Component.mention_counts_iff {name : String} {component : Component}
    (hcheck : component.check name = .ok ()) {index : Nat} {phrase : String}
    (hcue : component.cues[index]? = some phrase) {file : SourceFile} {before after : List Char}
    (htext : file.text = before ++ phrase.toList ++ after)
    (hstarts : Text.BoundaryAt file.lowercase (Text.lowercase before).length)
    (hends : Text.BoundaryAt file.lowercase (Text.lowercase (before ++ phrase.toList)).length) :
    (Cue.OccursAt (Cue.ofPhrase phrase).needle file.lowercase (Text.lowercase before).length
      ↔ Text.KeepsSigmas before phrase.toList after)
    ∧ (Text.KeepsSigmas before phrase.toList after →
      ∃ count, (component.cueSet.countIn file.lowercase)[index]? = some count ∧ 1 ≤ count)
    ∧ ('Σ' ∉ phrase.toList → Text.KeepsSigmas before phrase.toList after) := by
  have hspelled : (Cue.ofPhrase phrase).needle
      <+: file.lowercase.drop (Text.lowercase before).length
        ↔ Text.KeepsSigmas before phrase.toList after := by
    rw [SourceFile.lowercase, htext]
    exact Text.lowercase_prefix_drop_iff
  -- The boundaries are given, so an occurrence is a matter of spelling.
  have hoccurs : Cue.OccursAt (Cue.ofPhrase phrase).needle file.lowercase
      (Text.lowercase before).length ↔ Text.KeepsSigmas before phrase.toList after := by
    rw [← hspelled]
    rw [Text.length_lowercase_append] at hends
    exact ⟨Cue.OccursAt.spelled, fun h => ⟨h, hstarts, hends⟩⟩
  refine ⟨hoccurs, fun hkeeps => ⟨_, getElem?_countIn hcue file.lowercase, ?_⟩,
    Text.keepsSigmas_of_not_mem⟩
  exact (hoccurs.2 hkeeps).one_le_count (needle_ne_nil hcheck hcue)

/-- A component with a cue whose last letter is a capital sigma. -/
def sigmaComponent : Component :=
  ⟨1, Criticality.low, "", ["ΑΣ"], 0, 0, none⟩

/-- A file in which the cue stands between spaces. -/
def spacedFile : SourceFile :=
  ⟨⟨"port.c"⟩, " ΑΣ Α".toList⟩

/-- Between spaces the sigma of the word is final, as it is in the cue. -/
theorem Component.mention_counts_iff_spaces :
    (sigmaComponent.check "Port" = .ok () ∧ sigmaComponent.cues[0]? = some "ΑΣ"
      ∧ spacedFile.text = [' '] ++ "ΑΣ".toList ++ " Α".toList
      ∧ Text.BoundaryAt spacedFile.lowercase (Text.lowercase [' ']).length
      ∧ Text.BoundaryAt spacedFile.lowercase (Text.lowercase ([' '] ++ "ΑΣ".toList)).length
      ∧ Text.KeepsSigmas [' '] "ΑΣ".toList " Α".toList)
    ∧ Cue.OccursAt (Cue.ofPhrase "ΑΣ").needle spacedFile.lowercase (Text.lowercase [' ']).length
    ∧ ∃ count, (sigmaComponent.cueSet.countIn spacedFile.lowercase)[0]? = some count ∧ 1 ≤ count := by
  have hcheck : sigmaComponent.check "Port" = .ok () := by decide +kernel
  have hcue : sigmaComponent.cues[0]? = some "ΑΣ" := rfl
  have htext : spacedFile.text = [' '] ++ "ΑΣ".toList ++ " Α".toList := by decide +kernel
  have hstarts : Text.BoundaryAt spacedFile.lowercase (Text.lowercase [' ']).length := by
    decide +kernel
  have hends : Text.BoundaryAt spacedFile.lowercase
      (Text.lowercase ([' '] ++ "ΑΣ".toList)).length := by
    decide +kernel
  have hkeeps : Text.KeepsSigmas [' '] "ΑΣ".toList " Α".toList := by decide +kernel
  have hmention := Component.mention_counts_iff hcheck hcue htext hstarts hends
  exact ⟨⟨hcheck, hcue, htext, hstarts, hends, hkeeps⟩, hmention.1.2 hkeeps, hmention.2.1 hkeeps⟩

/-- A full stop ends the word, yet the letter behind it keeps the sigma from being final: the word
stands in the file as the cue has it, and is not counted. -/
theorem Component.mention_missed :
    sigmaComponent.check "Port" = .ok () ∧ sigmaComponent.cues[0]? = some "ΑΣ"
    ∧ "ΑΣ.Α".toList = "ΑΣ".toList ++ ".Α".toList
    ∧ Text.BoundaryAt "ΑΣ.Α".toList 0 ∧ Text.BoundaryAt "ΑΣ.Α".toList 2
    ∧ Text.BoundaryAt (Text.lowercase "ΑΣ.Α".toList) 0
    ∧ Text.BoundaryAt (Text.lowercase "ΑΣ.Α".toList) (Text.lowercase "ΑΣ".toList).length
    ∧ sigmaComponent.cueSet.countIn (SourceFile.lowercase ⟨⟨"port.c"⟩, "ΑΣ.Α".toList⟩) = [0] := by
  decide +kernel

/-! ## Lines -/

/-- Texts that a newline joins are counted one by one. -/
theorem Cue.count_lowercase_newline {phrase : String} (hneedle : (ofPhrase phrase).needle ≠ [])
    (hline : '\n' ∉ phrase.toList) (a b : List Char) :
    (ofPhrase phrase).count (Text.lowercase (a ++ '\n' :: b))
      = (ofPhrase phrase).count (Text.lowercase a) + (ofPhrase phrase).count (Text.lowercase b) := by
  have hsep : '\n' ∉ (ofPhrase phrase).needle := Text.not_mem_lowercase (by decide) hline
  rw [Text.lowercase_append_cons (by decide +kernel) (by decide +kernel) (by decide +kernel)
    (by decide), count_append_cons (by decide +kernel) hneedle hsep]

/-- A cue without a newline is counted in texts that newlines join as often as in all of them. -/
theorem Cue.count_lowercase_lines {phrase : String} (hneedle : (ofPhrase phrase).needle ≠ [])
    (hline : '\n' ∉ phrase.toList) (texts : List (List Char)) :
    (ofPhrase phrase).count (Text.lowercase (['\n'].intercalate texts))
      = (ofPhrase phrase).total texts := by
  induction texts with
  | nil =>
    have hnone : (ofPhrase phrase).needle.isEmpty = false := List.isEmpty_eq_false_iff.2 hneedle
    show (ofPhrase phrase).count [] = 0
    rw [count, Text.occursIn, hnone, if_neg Bool.false_ne_true]
  | cons text rest ih =>
    cases rest with
    | nil => simp [total]
    | cons next rest =>
      rw [List.intercalate_cons_cons, List.append_assoc, List.singleton_append,
        count_lowercase_newline hneedle hline, ih]
      simp [total]

/-- A cue of a valid component that holds no newline is counted in two texts with a newline between
them as often as in the first and in the second one together. So it is with any number of texts, such
as the lines of a file. -/
theorem Component.count_lines_add_up {name : String} {component : Component}
    (hcheck : component.check name = .ok ()) {index : Nat} {phrase : String}
    (hcue : component.cues[index]? = some phrase) (hline : '\n' ∉ phrase.toList) :
    (∀ a b : List Char, ∃ m n,
      (component.cueSet.countIn (Text.lowercase a))[index]? = some m
        ∧ (component.cueSet.countIn (Text.lowercase b))[index]? = some n
        ∧ (component.cueSet.countIn (Text.lowercase (a ++ '\n' :: b)))[index]? = some (m + n))
    ∧ ∀ texts : List (List Char),
      (component.cueSet.countIn (Text.lowercase (['\n'].intercalate texts)))[index]?
        = some ((Cue.ofPhrase phrase).total texts) := by
  have hneedle := needle_ne_nil hcheck hcue
  refine ⟨fun a b => ⟨_, _, getElem?_countIn hcue _, getElem?_countIn hcue _, ?_⟩, fun texts => ?_⟩
  · rw [getElem?_countIn hcue, Cue.count_lowercase_newline hneedle hline]
  · rw [getElem?_countIn hcue, Cue.count_lowercase_lines hneedle hline]

/-- Each of two lines holds the word once, with a sigma that is final there. -/
theorem Component.count_lines_add_up_words :
    (sigmaComponent.check "Port" = .ok () ∧ sigmaComponent.cues[0]? = some "ΑΣ"
      ∧ '\n' ∉ "ΑΣ".toList)
    ∧ (sigmaComponent.cueSet.countIn
        (Text.lowercase (['\n'].intercalate ["Α ΑΣ".toList, "ΑΣ Α".toList])))[0]? = some 2 := by
  have hcheck : sigmaComponent.check "Port" = .ok () := by decide +kernel
  have hcue : sigmaComponent.cues[0]? = some "ΑΣ" := rfl
  have hline : '\n' ∉ "ΑΣ".toList := by decide +kernel
  have htotal : (Cue.ofPhrase "ΑΣ").total ["Α ΑΣ".toList, "ΑΣ Α".toList] = 2 := by decide +kernel
  refine ⟨⟨hcheck, hcue, hline⟩, ?_⟩
  rw [← htotal]
  exact (Component.count_lines_add_up hcheck hcue hline).2 _

end RubricScore
