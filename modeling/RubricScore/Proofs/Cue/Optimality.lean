import Mathlib.Data.Finset.Max
import Mathlib.Order.Bounds.Basic
import RubricScore.Cue
import RubricScore.Proofs.Text.Class

/-!
# Cue counts are optimal

The occurrences of a cue are counted from left to right, and after each one the search goes on behind
it. All occurrences are equally long, so the first one never blocks more of the others than any other
choice would: the count is the greatest number of whole-word occurrences that do not overlap. What
counts as one is said by the characters of the text around it and by nothing else.

## Main definitions

* `Text.BoundaryAt`: a word boundary at a position of a text;
* `Cue.OccursAt`: a whole-word occurrence of a needle at a position;
* `Cue.IsSelection`: positions of occurrences that do not overlap.

## Main results

* `Cue.occursAt_append_iff`: what the scanner looks for is a whole-word occurrence;
* `Cue.isGreatest_countFrom`: the scanner finds as many as can be selected from where it stands;
* `CueSet.countIn_isGreatest`: so does every cue of a set, whatever the other cues are.
-/

namespace RubricScore

namespace Text

/-! ## Word boundaries -/

/-- A word character stands at the position; outside the text there is none. -/
def WordAt (text : List Char) (i : Nat) : Prop :=
  ∃ c, text[i]? = some c ∧ isWord c

/-- Exactly one of the characters before and after the position is a word character. -/
def BoundaryAt (text : List Char) (i : Nat) : Prop :=
  Xor (0 < i ∧ WordAt text (i - 1)) (WordAt text i)

theorem isWordAt_getElem?_iff {text : List Char} {i : Nat} :
    isWordAt text[i]? ↔ WordAt text i := by
  simp [isWordAt, WordAt, Option.any_eq_true]

instance (text : List Char) (i : Nat) : Decidable (WordAt text i) :=
  decidable_of_iff _ isWordAt_getElem?_iff

instance (text : List Char) (i : Nat) : Decidable (BoundaryAt text i) :=
  inferInstanceAs (Decidable (Xor _ _))

theorem isWordAt_getLast?_iff {text : List Char} :
    isWordAt text.getLast? ↔ 0 < text.length ∧ WordAt text (text.length - 1) := by
  rw [List.getLast?_eq_getElem?, isWordAt_getElem?_iff]
  refine ⟨fun h => ⟨?_, h⟩, And.right⟩
  obtain ⟨c, hc, -⟩ := h
  have := (List.getElem?_eq_some_iff.1 hc).1
  omega

/-- Between two parts of a text the boundary shows in the characters that meet there. -/
theorem boundaryAt_append_iff {done rest : List Char} :
    BoundaryAt (done ++ rest) done.length ↔ isBoundary done.getLast? rest.head? := by
  have hbefore : (0 < done.length ∧ WordAt (done ++ rest) (done.length - 1))
      ↔ isWordAt done.getLast? := by
    rw [isWordAt_getLast?_iff]
    refine and_congr_right fun hpos => ?_
    rw [WordAt, WordAt, List.getElem?_append_left (Nat.sub_lt hpos Nat.one_pos)]
  have hafter : WordAt (done ++ rest) done.length ↔ isWordAt rest.head? := by
    rw [← isWordAt_getElem?_iff, List.getElem?_append_right (Nat.le_refl _), Nat.sub_self,
      List.head?_eq_getElem?]
  rw [BoundaryAt, hbefore, hafter, isBoundary, xor_iff_not_iff]
  cases isWordAt done.getLast? <;> cases isWordAt rest.head? <;> decide

end Text

namespace Cue

/-! ## Whole-word occurrences -/

/-- A whole-word occurrence of the needle begins at the position. -/
structure OccursAt (needle text : List Char) (i : Nat) : Prop where
  /-- The text goes on with the needle. -/
  spelled : needle <+: text.drop i
  /-- A word boundary lies where the occurrence begins. -/
  starts : Text.BoundaryAt text i
  /-- Another one lies where it ends. -/
  ends : Text.BoundaryAt text (i + needle.length)

/-- What the scanner looks for is a whole-word occurrence. -/
theorem occursAt_append_iff {needle done rest : List Char} :
    OccursAt needle (done ++ rest) done.length ↔ standsAt needle done.getLast? rest := by
  rw [standsAt, Bool.and_eq_true, Bool.and_eq_true, List.isPrefixOf_iff_prefix]
  by_cases hspelled : needle <+: rest
  · obtain ⟨tail, rfl⟩ := hspelled
    have hends : Text.BoundaryAt (done ++ (needle ++ tail)) (done.length + needle.length)
        ↔ Text.isBoundary (needle.getLast?.or done.getLast?) tail.head? := by
      rw [← List.append_assoc, ← List.length_append, Text.boundaryAt_append_iff,
        List.getLast?_append]
    rw [List.drop_left, ← hends, ← Text.boundaryAt_append_iff]
    constructor
    · exact fun h => ⟨⟨List.prefix_append needle tail, h.starts⟩, h.ends⟩
    · rintro ⟨⟨-, hstarts⟩, hends⟩
      exact ⟨by rw [List.drop_left]; exact List.prefix_append needle tail, hstarts, hends⟩
  · refine iff_of_false (fun h => hspelled ?_) fun h => hspelled h.1.1
    have hspelled := h.spelled
    rwa [List.drop_left] at hspelled

theorem OccursAt.lt_length {needle text : List Char} {i : Nat} (h : OccursAt needle text i)
    (hneedle : needle ≠ []) : i < text.length := by
  have hle := h.spelled.length_le
  have hpos := List.length_pos_iff.2 hneedle
  rw [List.length_drop] at hle
  omega

/-! ## Selections -/

/-- Positions of whole-word occurrences of which no two overlap. -/
structure IsSelection (needle text : List Char) (places : Finset Nat) : Prop where
  /-- An occurrence begins at each of them. -/
  occurs : ∀ i ∈ places, OccursAt needle text i
  /-- An earlier one ends before a later one begins. -/
  apart : ∀ i ∈ places, ∀ j ∈ places, i < j → i + needle.length ≤ j

theorem IsSelection.subset {needle text : List Char} {places fewer : Finset Nat}
    (h : IsSelection needle text places) (hsubset : fewer ⊆ places) :
    IsSelection needle text fewer :=
  ⟨fun i hi => h.occurs i (hsubset hi), fun i hi j hj => h.apart i (hsubset hi) j (hsubset hj)⟩

/-- An occurrence can be put before a selection that begins behind its end. -/
theorem IsSelection.insert {needle text : List Char} {places : Finset Nat} {start : Nat}
    (h : IsSelection needle text places) (hoccurs : OccursAt needle text start)
    (hbehind : ∀ i ∈ places, start + needle.length ≤ i) :
    IsSelection needle text (insert start places) := by
  constructor
  · intro i hi
    rcases Finset.mem_insert.1 hi with rfl | hin
    · exact hoccurs
    · exact h.occurs i hin
  · intro i hi j hj hlt
    rcases Finset.mem_insert.1 hi with rfl | hearly
    · rcases Finset.mem_insert.1 hj with rfl | hlate
      · exact absurd hlt (Nat.lt_irrefl _)
      · exact hbehind j hlate
    · rcases Finset.mem_insert.1 hj with rfl | hlate
      · have := hbehind i hearly
        omega
      · exact h.apart i hearly j hlate hlt

/-- Wherever the first position of a selection is, the others begin behind the end of an occurrence
at the first position that can be selected. -/
theorem IsSelection.behind_of_mem_erase_min {needle text : List Char} {places : Finset Nat}
    {start : Nat} (h : IsSelection needle text places) (hfrom : ∀ i ∈ places, start ≤ i)
    (hne : places.Nonempty) {i : Nat} (hi : i ∈ places.erase (places.min' hne)) :
    start + needle.length ≤ i := by
  have hfirst := Finset.min'_mem places hne
  have hlt := Finset.min'_lt_of_mem_erase_min' places hne hi
  have hapart := h.apart _ hfirst i (Finset.mem_of_mem_erase hi) hlt
  have hle := hfrom _ hfirst
  omega

/-- How many positions can be selected from `start` on. -/
def sizesFrom (needle text : List Char) (start : Nat) : Set Nat :=
  {n | ∃ places, IsSelection needle text places ∧ (∀ i ∈ places, start ≤ i) ∧ places.card = n}

section Selections

variable {needle text : List Char} {start m : Nat}

/-- Where no occurrence begins there is nothing to select. -/
theorem isGreatest_sizesFrom_zero (hnone : ∀ i, start ≤ i → ¬ OccursAt needle text i) :
    IsGreatest (sizesFrom needle text start) 0 := by
  constructor
  · exact ⟨∅, ⟨by simp, by simp⟩, by simp, Finset.card_empty⟩
  · rintro n ⟨places, hselection, hfrom, rfl⟩
    rw [Nat.le_zero, Finset.card_eq_zero, Finset.eq_empty_iff_forall_notMem]
    exact fun i hi => hnone i (hfrom i hi) (hselection.occurs i hi)

/-- A position without an occurrence can be passed over. -/
theorem isGreatest_sizesFrom_skip (hnone : ¬ OccursAt needle text start)
    (h : IsGreatest (sizesFrom needle text (start + 1)) m) :
    IsGreatest (sizesFrom needle text start) m := by
  suffices hsizes : sizesFrom needle text start = sizesFrom needle text (start + 1) by
    rwa [hsizes]
  ext n
  refine exists_congr fun places => and_congr_right fun hselection => and_congr_left' ?_
  refine forall₂_congr fun i hi => ⟨fun hle => ?_, Nat.le_of_succ_le⟩
  refine Nat.lt_of_le_of_ne hle fun heq => hnone ?_
  exact heq ▸ hselection.occurs i hi

/-- An occurrence at the first position can be selected without loss: whatever the first position of
a selection is, all others begin behind the end of this occurrence. -/
theorem isGreatest_sizesFrom_take (hneedle : needle ≠ []) (hoccurs : OccursAt needle text start)
    (h : IsGreatest (sizesFrom needle text (start + needle.length)) m) :
    IsGreatest (sizesFrom needle text start) (m + 1) := by
  have hpos := List.length_pos_iff.2 hneedle
  obtain ⟨⟨places, hselection, hbehind, hcard⟩, hupper⟩ := h
  constructor
  · have hnew : start ∉ places := fun hin => by
      have := hbehind start hin
      omega
    refine ⟨insert start places, hselection.insert hoccurs hbehind, ?_, ?_⟩
    · refine Finset.forall_mem_insert _ _ _ |>.2 ⟨Nat.le_refl _, fun i hi => ?_⟩
      exact Nat.le_of_add_right_le (hbehind i hi)
    · rw [Finset.card_insert_of_notMem hnew, hcard]
  · rintro n ⟨others, hothers, hfrom, rfl⟩
    rcases others.eq_empty_or_nonempty with rfl | hne
    · exact Nat.zero_le _
    · -- The first position of the selection gives way to the occurrence at the start.
      have hrest : (others.erase (others.min' hne)).card ≤ m := by
        refine hupper ⟨_, hothers.subset (Finset.erase_subset _ _), fun i hi => ?_, rfl⟩
        exact hothers.behind_of_mem_erase_min hfrom hne hi
      rw [Finset.card_erase_of_mem (Finset.min'_mem others hne)] at hrest
      omega

/-- From where the scanner stands it finds as many occurrences as can be selected there. -/
theorem isGreatest_countFrom (hneedle : needle ≠ []) (done rest : List Char) (skip count : Nat) :
    ∃ m, countFrom needle skip done.getLast? count rest = count + m
      ∧ IsGreatest (sizesFrom needle (done ++ rest) (done.length + skip)) m := by
  -- With every character `done` becomes longer, and the text that is searched stays the same.
  induction rest generalizing done skip count with
  | nil =>
    have hnone : standsAt needle done.getLast? [] = false := by
      simp [standsAt, hneedle]
    refine ⟨0, ?_, isGreatest_sizesFrom_zero fun i hle h => ?_⟩
    · rw [countFrom, hnone, if_neg fun h => Bool.false_ne_true h.2, Nat.add_zero]
    · have := h.lt_length hneedle
      simp only [List.append_nil] at this
      omega
  | cons c rest ih =>
    have hmove : (done ++ [c]) ++ rest = done ++ c :: rest := by simp
    have hlast : (done ++ [c]).getLast? = some c := List.getLast?_concat
    have hlength : (done ++ [c]).length = done.length + 1 := by simp
    cases skip with
    | succ skip =>
      obtain ⟨m, hcount, hgreatest⟩ := ih (done ++ [c]) skip count
      rw [hmove, hlength, Nat.add_assoc, Nat.add_comm 1] at hgreatest
      rw [hlast] at hcount
      exact ⟨m, hcount, hgreatest⟩
    | zero =>
      rw [countFrom]
      by_cases hstands : standsAt needle done.getLast? (c :: rest)
      · have hpos := List.length_pos_iff.2 hneedle
        obtain ⟨m, hcount, hgreatest⟩ := ih (done ++ [c]) (needle.length - 1) (count + 1)
        have hend : done.length + 1 + (needle.length - 1) = done.length + needle.length := by omega
        rw [hmove, hlength, hend] at hgreatest
        rw [hlast] at hcount
        refine ⟨m + 1, ?_, ?_⟩
        · rw [if_pos hstands, hcount, Nat.add_assoc, Nat.add_comm 1]
        · exact isGreatest_sizesFrom_take hneedle (occursAt_append_iff.2 hstands) hgreatest
      · obtain ⟨m, hcount, hgreatest⟩ := ih (done ++ [c]) 0 count
        rw [hmove, hlength] at hgreatest
        rw [hlast] at hcount
        refine ⟨m, ?_, ?_⟩
        · rw [if_neg hstands, hcount]
        · exact isGreatest_sizesFrom_skip (fun h => hstands (occursAt_append_iff.1 h)) hgreatest

end Selections

/-- A text that does not hold the needle at all has no occurrence, so nothing is lost by not looking
at it further. -/
theorem isGreatest_count (cue : Cue) (hneedle : cue.needle ≠ []) (text : List Char) :
    IsGreatest (sizesFrom cue.needle text 0) (cue.count text) := by
  rw [count]
  split
  · obtain ⟨m, hcount, hgreatest⟩ := isGreatest_countFrom hneedle [] text 0 0
    rw [Nat.zero_add] at hcount
    exact hcount ▸ hgreatest
  · next hoccurs =>
    rw [Text.occursIn_iff] at hoccurs
    refine isGreatest_sizesFrom_zero fun i _ h => hoccurs ?_
    exact h.spelled.isInfix.trans (List.drop_suffix i text).isInfix

end Cue

namespace CueSet

/-- The count of a cue that is not empty is the greatest number of its whole-word occurrences that can
be selected in the text without an overlap. The needle is taken literally, and neither the other cues
of the set nor the search that goes before the count have an influence. -/
theorem countIn_isGreatest (set : CueSet) (text : List Char) (index : Nat) (cue : Cue)
    (hcue : set.cues[index]? = some cue) (hneedle : cue.needle ≠ []) :
    ∃ count, (set.countIn text)[index]? = some count
      ∧ IsGreatest {n | ∃ places, Cue.IsSelection cue.needle text places ∧ places.card = n} count := by
  refine ⟨cue.count text, ?_, ?_⟩
  · rw [countIn, List.getElem?_map, hcue, Option.map_some]
  · simpa [Cue.sizesFrom] using cue.isGreatest_count hneedle text

/-- In a text of overlapping phrases two of the three occurrences are counted, next to a cue of
punctuation that occurs nowhere. -/
theorem countIn_isGreatest_overlapping :
    (ofPhrases ["C++", "A b A"]).cues[1]? = some (Cue.ofPhrase "A b A")
    ∧ (Cue.ofPhrase "A b A").needle ≠ []
    ∧ IsGreatest {n | ∃ places,
        Cue.IsSelection ['a', ' ', 'b', ' ', 'a'] "a b a b a b a c".toList places
          ∧ places.card = n} 2 := by
  have hcue : (ofPhrases ["C++", "A b A"]).cues[1]? = some (Cue.ofPhrase "A b A") := rfl
  have hneedle : (Cue.ofPhrase "A b A").needle = ['a', ' ', 'b', ' ', 'a'] := by decide +kernel
  obtain ⟨count, hcount, hgreatest⟩ :=
    (ofPhrases ["C++", "A b A"]).countIn_isGreatest "a b a b a b a c".toList 1 _ hcue
      (hneedle ▸ by decide)
  have hvalue : ((ofPhrases ["C++", "A b A"]).countIn "a b a b a b a c".toList)[1]? = some 2 := by
    decide +kernel
  rw [hvalue, Option.some.injEq] at hcount
  rw [hneedle, ← hcount] at hgreatest
  exact ⟨hcue, hneedle ▸ by decide, hgreatest⟩

end CueSet

end RubricScore
