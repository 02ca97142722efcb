import Mathlib.Data.List.TakeWhile
import RubricScore.Text.Class

/-!
# Trimming and searching texts

* `occursIn_iff`: the search for a run of characters finds it wherever it stands;
* `exists_trim`: trimming takes white space away at both ends and nothing else;
* `isTrimmed_trim`, `trim_eq_self`: it leaves none there, and a text that has none stays as it is;
* `trim_padded`: how much of it there was does not matter;
* `infix_trim_iff`: a run without white space is not lost by it;
* `isBlank_iff`: a text is blank when it has no character other than white space.
-/

namespace RubricScore.Text

/-- The search for a run of characters finds it wherever it stands. -/
theorem occursIn_iff {needle text : List Char} : occursIn needle text ↔ needle <:+: text := by
  induction text with
  | nil => simp [occursIn]
  | cons c rest ih => rw [occursIn, Bool.or_eq_true, List.isPrefixOf_iff_prefix, ih, List.infix_cons_iff]

/-- What follows the white space at the front is the trimmed text and the white space at the back. -/
theorem dropWhile_eq_trim_append (text : List Char) :
    text.dropWhile isSpace
      = trim text ++ ((text.dropWhile isSpace).reverse.takeWhile isSpace).reverse := by
  rw [trim, ← List.reverse_append, List.takeWhile_append_dropWhile, List.reverse_reverse]

/-- Trimming takes white space away at both ends and nothing else. -/
theorem exists_trim (text : List Char) :
    ∃ front back, text = front ++ trim text ++ back
      ∧ (∀ c ∈ front, isSpace c) ∧ ∀ c ∈ back, isSpace c := by
  refine ⟨text.takeWhile isSpace, ((text.dropWhile isSpace).reverse.takeWhile isSpace).reverse,
    ?_, fun c hc => ?_, fun c hc => ?_⟩
  · rw [List.append_assoc, ← dropWhile_eq_trim_append, List.takeWhile_append_dropWhile]
  · exact List.mem_takeWhile_imp hc
  · exact List.mem_takeWhile_imp (List.mem_reverse.1 hc)

/-- No white space stands at either end. -/
structure IsTrimmed (text : List Char) : Prop where
  /-- The first character is something else. -/
  front : ∀ c ∈ text.head?, ¬ isSpace c
  /-- So is the last one. -/
  back : ∀ c ∈ text.getLast?, ¬ isSpace c

/-- A text without white space at its ends stays as it is. -/
theorem trim_eq_self {text : List Char} (h : IsTrimmed text) : trim text = text := by
  have hfront : text.dropWhile isSpace = text := by
    cases text with
    | nil => rfl
    | cons c rest => exact List.dropWhile_cons_of_neg (h.front c rfl)
  have hback : text.reverse.dropWhile isSpace = text.reverse := by
    cases hreverse : text.reverse with
    | nil => rfl
    | cons c rest =>
      refine List.dropWhile_cons_of_neg (h.back c ?_)
      rw [← List.head?_reverse, hreverse]
      rfl
  rw [trim, hfront, hback, List.reverse_reverse]

/-- How much white space stands around a text does not matter. -/
theorem trim_padded {front text back : List Char} (hfront : ∀ c ∈ front, isSpace c)
    (hback : ∀ c ∈ back, isSpace c) : trim (front ++ text ++ back) = trim text := by
  have hdrop : ∀ own, (front ++ own).dropWhile isSpace = own.dropWhile isSpace := fun own =>
    List.dropWhile_append_of_pos hfront
  rw [trim, trim, List.append_assoc, hdrop]
  cases hkept : text.dropWhile isSpace with
  | nil =>
    -- Nothing but white space is left.
    have hblank : ∀ c ∈ text, isSpace c := List.dropWhile_eq_nil_iff.1 hkept
    have hall : (text ++ back).dropWhile isSpace = [] := by
      rw [List.dropWhile_eq_nil_iff]
      exact List.forall_mem_append.2 ⟨hblank, hback⟩
    rw [hall]
  | cons c rest =>
    have happend : (text ++ back).dropWhile isSpace = (c :: rest) ++ back := by
      rw [List.dropWhile_append, hkept]
      rfl
    rw [happend, List.reverse_append,
      List.dropWhile_append_of_pos fun d hd => hback d (List.mem_reverse.1 hd)]

/-- Trimming leaves no white space at the ends. -/
theorem isTrimmed_trim (text : List Char) : IsTrimmed (trim text) where
  front c hc := by
    have hhead : (text.dropWhile isSpace).head? = some c := by
      rw [dropWhile_eq_trim_append, List.head?_append, hc, Option.some_or]
    have hstop := List.head?_dropWhile_not isSpace text
    simpa [hhead] using hstop
  back c hc := by
    rw [trim, List.getLast?_reverse] at hc
    have hstop := List.head?_dropWhile_not isSpace (text.dropWhile isSpace).reverse
    rw [Option.mem_def.1 hc] at hstop
    simpa using hstop

/-- A run of characters that stands behind others, none of which it holds, stands behind them. -/
theorem infix_append_iff_of_disjoint {needle front rest : List Char} (hne : needle ≠ [])
    (h : ∀ c ∈ front, c ∉ needle) : needle <:+: front ++ rest ↔ needle <:+: rest := by
  induction front with
  | nil => rw [List.nil_append]
  | cons c front ih =>
    have hprefix : ¬ needle <+: c :: (front ++ rest) := by
      intro hprefix
      obtain ⟨first, others, rfl⟩ := List.exists_cons_of_ne_nil hne
      obtain ⟨rfl, -⟩ := List.cons_prefix_cons.1 hprefix
      exact h first List.mem_cons_self List.mem_cons_self
    rw [List.cons_append, List.infix_cons_iff, or_iff_right hprefix]
    exact ih fun d hd => h d (List.mem_cons_of_mem c hd)

/-- A run of characters without white space is not lost by trimming. -/
theorem infix_trim_iff {needle text : List Char} (hne : needle ≠ [])
    (h : needle.any isSpace = false) : needle <:+: trim text ↔ needle <:+: text := by
  obtain ⟨front, back, htext, hfront, hback⟩ := exists_trim text
  generalize trim text = middle at htext ⊢
  subst htext
  have hspace : ∀ c, isSpace c → c ∉ needle := fun c hc hin => List.any_eq_false.1 h c hin hc
  -- The back is the front of the text read from its end.
  have hends : needle <:+: middle ++ back ↔ needle <:+: middle := by
    rw [← List.reverse_infix, List.reverse_append, infix_append_iff_of_disjoint (by simpa using hne),
      List.reverse_infix]
    intro c hc
    rw [List.mem_reverse] at hc ⊢
    exact hspace c (hback c hc)
  rw [List.append_assoc, infix_append_iff_of_disjoint hne fun c hc => hspace c (hfront c hc), hends]

/-- A text is blank when it has no character other than white space. -/
theorem isBlank_iff {text : List Char} : isBlank text ↔ ∀ c ∈ text, isSpace c := by
  rw [isBlank, List.isEmpty_iff, trim, List.reverse_eq_nil_iff, List.dropWhile_eq_nil_iff]
  simp only [List.mem_reverse]
  refine ⟨fun h c hc => ?_, fun h c hc => h c ((List.dropWhile_suffix _).subset hc)⟩
  rw [← List.takeWhile_append_dropWhile (p := isSpace) (l := text), List.mem_append] at hc
  rcases hc with hc | hc
  · exact List.mem_takeWhile_imp hc
  · exact h c hc

end RubricScore.Text
