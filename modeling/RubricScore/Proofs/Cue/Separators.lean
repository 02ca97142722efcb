import RubricScore.Proofs.Cue.Optimality

/-!
# Cue counts across separators

A needle without some character has no occurrence that reaches across it. If that character does not
belong to words, words end next to it as they do at the ends of a text. So the scan of a text begins
anew behind each such separator, and the texts between them are counted one by one.

## Main results

* `standsAt_append_cons`: at one place, what stands behind a separator has no influence;
* `countFrom_append_cons`: along the text, the scan begins anew behind it;
* `count_append_cons`: the counts of both sides add up.
-/

namespace RubricScore

namespace Cue

/-! ## Separators -/

theorem countFrom_add (needle : List Char) (skip : Nat) (before : Option Char) (m n : Nat)
    (text : List Char) :
    countFrom needle skip before (m + n) text = m + countFrom needle skip before n text := by
  induction text generalizing skip before n with
  | nil =>
    unfold countFrom
    split <;> rfl
  | cons c rest ih =>
    cases skip with
    | succ skip => exact ih skip (some c) n
    | zero =>
      rw [countFrom, countFrom]
      split
      · exact ih (needle.length - 1) (some c) (n + 1)
      · exact ih 0 (some c) n

theorem standsAt_nil {needle : List Char} (hneedle : needle ≠ []) (before : Option Char) :
    standsAt needle before [] = false := by
  simp [standsAt, hneedle]

/-- A run of characters without the separator does not reach across it. -/
theorem prefix_append_cons_iff {needle : List Char} {sep : Char} (hsep : sep ∉ needle)
    (text rest : List Char) : needle <+: text ++ sep :: rest ↔ needle <+: text := by
  refine ⟨fun h => ?_, fun h => h.trans (List.prefix_append ..)⟩
  rcases List.prefix_or_prefix_of_prefix h (List.prefix_append text (sep :: rest)) with hin | ⟨tail, rfl⟩
  · exact hin
  · rw [List.prefix_append_right_inj] at h
    cases tail with
    | nil => rw [List.append_nil]
    | cons c tail =>
      obtain ⟨rfl, -⟩ := List.cons_prefix_cons.1 h
      exact absurd (List.mem_append_right text List.mem_cons_self) hsep

section Separator

variable {needle : List Char} {sep : Char} (hword : Text.isWord sep = false)

include hword

/-- A word ends before the separator as it does at the end of a text. -/
theorem isBoundary_head?_append_cons (before : Option Char) (text rest : List Char) :
    Text.isBoundary before (text ++ sep :: rest).head? = Text.isBoundary before text.head? := by
  cases text with
  | nil => simp [Text.isBoundary, Text.isWordAt, hword]
  | cons => rfl

/-- A word begins behind the separator as it does at the front of a text. -/
theorem standsAt_some (hneedle : needle ≠ []) (text : List Char) :
    standsAt needle (some sep) text = standsAt needle none text := by
  obtain ⟨c, hlast⟩ := Option.isSome_iff_exists.1 (List.getLast?_isSome.2 hneedle)
  simp [standsAt, hlast, Text.isBoundary, Text.isWordAt, hword]

theorem countFrom_some (hneedle : needle ≠ []) (count : Nat) (text : List Char) :
    countFrom needle 0 (some sep) count text = countFrom needle 0 none count text := by
  cases text with
  | nil => rw [countFrom, countFrom, standsAt_some hword hneedle]
  | cons c rest => rw [countFrom, countFrom, standsAt_some hword hneedle]

variable (hsep : sep ∉ needle)

include hsep

/-- Whether an occurrence stands at a place does not depend on what is behind the separator. -/
theorem standsAt_append_cons (before : Option Char) (text rest : List Char) :
    standsAt needle before (text ++ sep :: rest) = standsAt needle before text := by
  by_cases h : needle <+: text
  · obtain ⟨tail, rfl⟩ := h
    have hprefix : ∀ other, needle.isPrefixOf (needle ++ other) = true := fun other =>
      List.isPrefixOf_iff_prefix.2 (List.prefix_append needle other)
    unfold standsAt
    rw [isBoundary_head?_append_cons hword, List.append_assoc, List.drop_left, List.drop_left,
      isBoundary_head?_append_cons hword, hprefix, hprefix]
  · have hnone : ∀ {other : List Char}, ¬ needle <+: other →
        standsAt needle before other = false := by
      intro other hother
      rw [standsAt, Bool.eq_false_iff.2 (mt List.isPrefixOf_iff_prefix.1 hother)]
      rfl
    rw [hnone h, hnone (mt (prefix_append_cons_iff hsep text rest).1 h)]

/-- Behind the separator the scan begins anew. -/
theorem countFrom_append_cons (hneedle : needle ≠ []) {skip : Nat} {text : List Char}
    (hskip : skip ≤ text.length) (before : Option Char) (count : Nat) (rest : List Char) :
    countFrom needle skip before count (text ++ sep :: rest)
      = countFrom needle 0 none (countFrom needle skip before count text) rest := by
  induction text generalizing skip before count with
  | nil =>
    obtain rfl := Nat.le_zero.1 hskip
    have hstands := standsAt_append_cons hword hsep before [] rest
    rw [standsAt_nil hneedle, List.nil_append] at hstands
    have hend : countFrom needle 0 before count [] = count := by
      rw [countFrom, standsAt_nil hneedle, if_neg fun h => Bool.false_ne_true h.2]
    rw [hend, List.nil_append, countFrom, hstands, if_neg Bool.false_ne_true,
      countFrom_some hword hneedle]
  | cons c text ih =>
    rw [List.length_cons] at hskip
    cases skip with
    | succ skip => exact ih (Nat.le_of_succ_le_succ hskip) (some c) count
    | zero =>
      have hstands := standsAt_append_cons hword hsep before (c :: text) rest
      rw [List.cons_append] at hstands ⊢
      rw [countFrom, countFrom, hstands]
      split
      · next h =>
        -- An occurrence is no longer than the text before the separator.
        rw [standsAt, Bool.and_eq_true, Bool.and_eq_true, List.isPrefixOf_iff_prefix] at h
        have hlength := h.1.1.length_le
        rw [List.length_cons] at hlength
        exact ih (by omega) (some c) (count + 1)
      · exact ih (Nat.zero_le _) (some c) count

end Separator

/-- For the count it makes no difference that a text without the needle is not scanned. -/
theorem count_eq_countFrom {cue : Cue} (hneedle : cue.needle ≠ []) (text : List Char) :
    cue.count text = countFrom cue.needle 0 none 0 text := by
  obtain ⟨m, hcount, hgreatest⟩ := isGreatest_countFrom hneedle [] text 0 0
  rw [Nat.zero_add] at hcount
  exact (cue.isGreatest_count hneedle text).unique (hcount ▸ hgreatest)

/-- The counts on both sides of a separator add up. -/
theorem count_append_cons {cue : Cue} {sep : Char} (hword : Text.isWord sep = false)
    (hneedle : cue.needle ≠ []) (hsep : sep ∉ cue.needle) (a b : List Char) :
    cue.count (a ++ sep :: b) = cue.count a + cue.count b := by
  rw [count_eq_countFrom hneedle, count_eq_countFrom hneedle, count_eq_countFrom hneedle,
    countFrom_append_cons hword hsep hneedle (Nat.zero_le _), ← countFrom_add, Nat.add_zero]

end Cue

end RubricScore
