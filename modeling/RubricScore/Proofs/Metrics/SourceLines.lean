import Mathlib.Algebra.BigOperators.Group.Finset.Piecewise
import Mathlib.Data.List.Induction
import RubricScore.Metrics.Sloc
import RubricScore.Proofs.Text.Class

/-!
# Source line counts in closed form

Lines are counted in one pass that carries whether a block comment is open. Of all earlier lines only
the last one with a comment marker decides that, so whether a line counts can be told without the
pass: from the line itself and from that one line before it.

## Main definitions

* `IsMarked`: the line holds a comment opener or a comment closer;
* `EndsOutside`: no block comment is open behind some lines;
* `IsSourceLine`: a line that counts, given the lines before it;
* `sourceLines`: the places of the lines that count.

## Main results

* `countLine_of_closer`, `countLine_of_opener`, `countLine_of_unmarked`: what one line does to the
  state of the pass;
* `foldl_countLine`: what the state says behind any lines;
* `countSloc_eq_card`: the count is the number of source lines.
-/

namespace RubricScore.Metrics

/-! ## Source lines -/

/-- The line holds a comment opener or a comment closer. -/
def IsMarked (line : List Char) : Prop :=
  ['/', '*'] <:+: line ∨ ['*', '/'] <:+: line

instance (line : List Char) : Decidable (IsMarked line) :=
  inferInstanceAs (Decidable (_ ∨ _))

/-- No block comment is open behind the lines: the last one with a marker, if there is one, holds a
closer. -/
def EndsOutside (lines : List (List Char)) : Prop :=
  ∀ line ∈ (lines.filter (IsMarked ·)).getLast?, ['*', '/'] <:+: line

instance (lines : List (List Char)) : Decidable (EndsOutside lines) :=
  inferInstanceAs (Decidable (∀ line ∈ (lines.filter (IsMarked ·)).getLast?, ['*', '/'] <:+: line))

/-- The line counts behind the given ones. -/
structure IsSourceLine (earlier : List (List Char)) (line : List Char) : Prop where
  /-- It holds no comment marker. -/
  unmarked : ¬ IsMarked line
  /-- Something other than white space stands on it. -/
  nonblank : Text.trim line ≠ []
  /-- It is no line comment. -/
  noComment : ¬ ['/', '/'] <+: Text.trim line
  /-- It is no directive. -/
  noDirective : ¬ ['#'] <+: Text.trim line
  /-- It does not stand in a block comment. -/
  outside : EndsOutside earlier

instance (earlier : List (List Char)) (line : List Char) : Decidable (IsSourceLine earlier line) :=
  decidable_of_iff (¬ IsMarked line ∧ Text.trim line ≠ [] ∧ ¬ ['/', '/'] <+: Text.trim line
      ∧ ¬ ['#'] <+: Text.trim line ∧ EndsOutside earlier)
    ⟨fun ⟨h₁, h₂, h₃, h₄, h₅⟩ => ⟨h₁, h₂, h₃, h₄, h₅⟩,
      fun ⟨h₁, h₂, h₃, h₄, h₅⟩ => ⟨h₁, h₂, h₃, h₄, h₅⟩⟩

/-- The places of the lines that count. -/
def sourceLines (lines : List (List Char)) : Finset Nat :=
  {i ∈ Finset.range lines.length | ∃ line ∈ lines[i]?, IsSourceLine (lines.take i) line}

/-! ## One line -/

section Line

variable {line : List Char}

theorem closesComment_trim_iff : closesComment (Text.trim line) ↔ ['*', '/'] <:+: line := by
  rw [closesComment, Text.occursIn_iff, Text.infix_trim_iff (List.cons_ne_nil _ _) rfl]

theorem opensComment_trim_iff : opensComment (Text.trim line) ↔ ['/', '*'] <:+: line := by
  rw [opensComment, Text.occursIn_iff, Text.infix_trim_iff (List.cons_ne_nil _ _) rfl]

/-- A line with a closer leaves no block comment open, whatever else it holds. -/
theorem countLine_of_closer (state : Bool × Nat) (h : ['*', '/'] <:+: line) :
    countLine state line = (false, state.2) := by
  simp only [countLine, if_pos (closesComment_trim_iff.2 h)]

/-- A line with an opener and no closer leaves one open. -/
theorem countLine_of_opener (state : Bool × Nat) (hcloser : ¬ ['*', '/'] <:+: line)
    (hopener : ['/', '*'] <:+: line) : countLine state line = (true, state.2) := by
  simp only [countLine, if_neg (mt closesComment_trim_iff.1 hcloser),
    opensComment_trim_iff.2 hopener, Bool.true_or, if_true]

/-- A line without a marker opens and closes nothing; outside block comments it counts if it is
code. -/
theorem countLine_of_unmarked (state : Bool × Nat) (h : ¬ IsMarked line) :
    countLine state line
      = (state.1, state.2 + if isCode (Text.trim line) ∧ state.1 = false then 1 else 0) := by
  have hopener : opensComment (Text.trim line) = false :=
    Bool.eq_false_iff.2 fun hin => h (.inl (opensComment_trim_iff.1 hin))
  have hcloser : ¬ closesComment (Text.trim line) := fun hin =>
    h (.inr (closesComment_trim_iff.1 hin))
  obtain ⟨inside, count⟩ := state
  simp only [countLine, if_neg hcloser, hopener, Bool.false_or]
  cases inside <;> cases isCode (Text.trim line) <;> rfl

end Line

/-! ## All lines -/

theorem endsOutside_nil : EndsOutside [] := by
  simp [EndsOutside]

/-- The last line settles it unless it has no marker. -/
theorem endsOutside_snoc_iff {lines : List (List Char)} {line : List Char} :
    EndsOutside (lines ++ [line]) ↔
      ['*', '/'] <:+: line ∨ ¬ IsMarked line ∧ EndsOutside lines := by
  unfold EndsOutside
  by_cases h : IsMarked line
  · simp [List.filter_append, h]
  · have hcloser : ¬ ['*', '/'] <:+: line := fun hin => h (.inr hin)
    simp [List.filter_append, h, hcloser]

/-- An unmarked line counts if it is code and no block comment is open. -/
theorem isSourceLine_iff {earlier : List (List Char)} {line : List Char} (h : ¬ IsMarked line) :
    IsSourceLine earlier line ↔ isCode (Text.trim line) ∧ EndsOutside earlier := by
  have hcode : isCode (Text.trim line) ↔
      Text.trim line ≠ [] ∧ ¬ ['/', '/'] <+: Text.trim line ∧ ¬ ['#'] <+: Text.trim line := by
    rw [isCode, Bool.and_eq_true, Bool.not_eq_true', Bool.not_eq_true', List.isEmpty_eq_false_iff,
      Bool.or_eq_false_iff, ← List.isPrefixOf_iff_prefix, ← List.isPrefixOf_iff_prefix,
      Bool.not_eq_true, Bool.not_eq_true]
  rw [hcode]
  exact ⟨fun hline => ⟨⟨hline.nonblank, hline.noComment, hline.noDirective⟩, hline.outside⟩,
    fun ⟨⟨hnonblank, hcomment, hdirective⟩, houtside⟩ =>
      ⟨h, hnonblank, hcomment, hdirective, houtside⟩⟩

/-- A line added at the end does not change which of the others count. -/
theorem card_sourceLines_snoc (lines : List (List Char)) (line : List Char) :
    (sourceLines (lines ++ [line])).card
      = (sourceLines lines).card + if IsSourceLine lines line then 1 else 0 := by
  rw [sourceLines, sourceLines, Finset.card_filter, Finset.card_filter, List.length_append,
    List.length_singleton, Finset.sum_range_succ]
  congr 1
  · refine Finset.sum_congr rfl fun i hi => ?_
    have hlt := Finset.mem_range.1 hi
    rw [List.getElem?_append_left hlt, List.take_append_of_le_length (Nat.le_of_lt hlt)]
  · simp

/-- Behind any lines the state says whether a block comment is open and how many of them count. -/
theorem foldl_countLine (lines : List (List Char)) :
    ((lines.foldl countLine (false, 0)).1 = false ↔ EndsOutside lines)
      ∧ (lines.foldl countLine (false, 0)).2 = (sourceLines lines).card := by
  induction lines using List.reverseRecOn with
  | nil => exact ⟨iff_of_true rfl endsOutside_nil, rfl⟩
  | append_singleton lines line ih =>
    obtain ⟨houtside, hcount⟩ := ih
    -- The last line is marked and does not count, or it leaves the state of the comment alone.
    rw [List.foldl_append, List.foldl_cons, List.foldl_nil, endsOutside_snoc_iff,
      card_sourceLines_snoc]
    by_cases hmarked : IsMarked line
    · have hnone : ¬ IsSourceLine lines line := fun h => h.unmarked hmarked
      rw [if_neg hnone, Nat.add_zero, ← hcount]
      by_cases hcloser : ['*', '/'] <:+: line
      · rw [countLine_of_closer _ hcloser]
        exact ⟨iff_of_true rfl (.inl hcloser), rfl⟩
      · rw [countLine_of_opener _ hcloser (hmarked.resolve_right hcloser)]
        exact ⟨iff_of_false nofun fun h => h.elim hcloser fun h => h.1 hmarked, rfl⟩
    · rw [countLine_of_unmarked _ hmarked]
      constructor
      · rw [houtside, and_iff_right hmarked, or_iff_right fun h => hmarked (.inr h)]
      · simp only [isSourceLine_iff hmarked, houtside, hcount]

/-- The number of source lines of a text is the number of its lines, divided at newlines only, that
hold no comment marker, are neither blank nor a line comment nor a directive, and before which no
line has a marker or the last one that has one holds a closer. -/
theorem countSloc_eq_card (text : List Char) :
    countSloc text = (sourceLines (text.splitOn '\n')).card :=
  (foldl_countLine (text.splitOn '\n')).2

-- A marker in a line comment counts as one, and the closer ends what two openers began.
example : sourceLines ["a;".toList, "// /*".toList, "b;".toList, "/* c */".toList, " d;".toList]
    = {0, 4} := by decide +kernel

end RubricScore.Metrics
