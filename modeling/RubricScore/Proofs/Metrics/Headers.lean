import Mathlib.Algebra.BigOperators.Group.Finset.Piecewise
import Mathlib.Data.List.Induction
import Mathlib.Data.List.TakeWhile
import RubricScore.Metrics.Header
import RubricScore.Proofs.Text.Parts

/-!
# Header counts in closed form

The headers of a text are the leftmost matches of a pattern that do not overlap. Since parameters go
on to the next closing parenthesis whatever they hold, every match lies between two such parentheses
up to the brace behind the second one, and whether there is one can be told from these two stretches
alone: no match hides another one, and none is lost behind a candidate that fails.

## Main definitions

* `IsHeader`: the texts that the pattern matches;
* `LeftmostHeaders`: the number of leftmost matches that do not overlap;
* `openedBodies`: the segments between closing parentheses that hold an opening and are followed by a
  brace.

## Main results

* `headerLength?_eq_some_iff`: the length of a header is that of the match at the front of a text;
* `exists_leftmostHeaders`: the scan counts the leftmost matches;
* `LeftmostHeaders.eq_openedAfter`: their number is read off the segments;
* `countHeaders_eq_card`: the count is the number of leftmost matches and of opened bodies.
-/

namespace RubricScore

namespace Text

/-! ## Word characters and white space -/

theorem exists_range_of_inRanges {ranges : List (Nat × Nat)} {n : Nat} (h : inRanges ranges n) :
    ∃ range ∈ ranges, range.1 ≤ n ∧ n ≤ range.2 := by
  induction ranges with
  | nil => exact absurd h Bool.false_ne_true
  | cons range rest ih =>
    obtain ⟨low, high⟩ := range
    rw [inRanges] at h
    split at h
    · exact absurd h Bool.false_ne_true
    · next hlow =>
      split at h
      · next hhigh => exact ⟨_, List.mem_cons_self, Nat.le_of_not_lt hlow, hhigh⟩
      · obtain ⟨range, hin, hbounds⟩ := ih h
        exact ⟨range, List.mem_cons_of_mem _ hin, hbounds⟩

/-- White space separates words. -/
theorem isWord_of_isSpace {c : Char} (h : isSpace c) : isWord c = false := by
  have hranges : ∀ range ∈ spaceRanges, ∀ k < range.2 - range.1 + 1,
      inRanges wordRanges (range.1 + k) = false := by decide +kernel
  obtain ⟨range, hin, hlow, hhigh⟩ := exists_range_of_inRanges h
  have hvalue := hranges range hin (c.toNat - range.1) (by omega)
  rwa [Nat.add_sub_cancel' hlow] at hvalue

end Text

namespace Metrics

open Text (isWord isSpace isWordAt isWord_of_isSpace)

/-! ## The pattern -/

/-- One character or more, all of them in a class. -/
structure IsRun (p : Char → Bool) (text : List Char) : Prop where
  /-- There is a character. -/
  nonempty : text ≠ []
  /-- All characters are in the class. -/
  all : ∀ c ∈ text, p c

/-- Two words and the opening parenthesis of a parameter list. -/
def IsOpening (text : List Char) : Prop :=
  ∃ first gap second pad, IsRun isWord first ∧ IsRun isSpace gap ∧ IsRun isWord second
    ∧ (∀ c ∈ pad, isSpace c) ∧ text = first ++ (gap ++ (second ++ (pad ++ ['('])))

/-- An opening, parameters up to the next closing parenthesis, and the brace of a body. -/
def IsHeader (text : List Char) : Prop :=
  ∃ opening parameters pad, IsOpening opening ∧ ')' ∉ parameters ∧ (∀ c ∈ pad, isSpace c)
    ∧ text = opening ++ (parameters ++ ')' :: (pad ++ ['\x7b']))

/-- A match of the pattern stands at the front of a text, given the character before it. -/
def StartsHeader (before : Option Char) (text : List Char) : Prop :=
  Text.isBoundary before text.head? ∧ ∃ header, IsHeader header ∧ header <+: text

/-- The text has the given number of leftmost matches that do not overlap, given the character before
it. -/
inductive LeftmostHeaders : Option Char → List Char → Nat → Prop where
  /-- Nothing is left. -/
  | nil {before : Option Char} : LeftmostHeaders before [] 0
  /-- No match begins at the first character. -/
  | skip {before : Option Char} {c : Char} {rest : List Char} {count : Nat} :
    ¬ StartsHeader before (c :: rest) → LeftmostHeaders (some c) rest count →
      LeftmostHeaders before (c :: rest) count
  /-- A match begins here, and the search goes on behind it. -/
  | take {before : Option Char} {header rest : List Char} {count : Nat} :
    Text.isBoundary before header.head? → IsHeader header →
      LeftmostHeaders header.getLast? rest count →
      LeftmostHeaders before (header ++ rest) (count + 1)

/-! ## Segments -/

/-- The segment holds an opening. -/
def HasOpening (segment : List Char) : Prop :=
  ∃ opening, IsOpening opening ∧ opening <:+: segment

/-- The segment starts with a brace, white space aside. -/
def OpensBody (segment : List Char) : Prop :=
  (segment.dropWhile isSpace).head? = some '\x7b'

open scoped Classical in
/-- The places of the segments that hold an opening and are followed by one that opens a body. -/
noncomputable def openedBodies (segments : List (List Char)) : Finset Nat :=
  {i ∈ Finset.range (segments.length - 1) |
    ∃ segment next, segments[i]? = some segment ∧ segments[i + 1]? = some next
      ∧ HasOpening segment ∧ OpensBody next}

/-! ## Runs -/

section Runs

variable {p : Char → Bool} {run rest : List Char}

theorem isRun_takeWhile {text : List Char} (h : text.takeWhile p ≠ []) :
    IsRun p (text.takeWhile p) :=
  ⟨h, fun _ => List.mem_takeWhile_imp⟩

/-- What begins with a run begins with a character of its class. -/
theorem IsRun.class_head? (h : IsRun p run) {c : Char} (hc : (run ++ rest).head? = some c) :
    p c := by
  obtain ⟨d, others, rfl⟩ := List.exists_cons_of_ne_nil h.nonempty
  rw [List.cons_append, List.head?_cons, Option.some.injEq] at hc
  exact hc ▸ h.all d List.mem_cons_self

end Runs

theorem isSpace_of_isWord {c : Char} (h : isWord c) : isSpace c = false := by
  rw [← Bool.not_eq_true]
  intro hspace
  rw [isWord_of_isSpace hspace] at h
  exact Bool.false_ne_true h

/-! ## The front of a text -/

/-- A match at the front of a text has the length of the header there. -/
theorem headerLength?_append {header : List Char} (h : IsHeader header) (rest : List Char) :
    headerLength? (header ++ rest) = some header.length := by
  obtain ⟨opening, parameters, after, ⟨first, gap, second, pad, hfirst, hgap, hsecond, hpad, rfl⟩,
    hparameters, hafter, rfl⟩ := h
  -- Each stretch ends where a character of another kind follows.
  have hparen : ∀ text c, (pad ++ '(' :: text).head? = some c → isWord c = false := by
    intro text c hc
    cases pad with
    | nil => exact Option.some.inj hc ▸ by decide +kernel
    | cons d pad => exact Option.some.inj hc ▸ isWord_of_isSpace (hpad d List.mem_cons_self)
  have hlist : ∀ text c, ('(' :: text).head? = some c → isSpace c = false :=
    fun text c hc => Option.some.inj hc ▸ by decide
  have hclose : ∀ text c, (')' :: text).head? = some c → decide (c ≠ ')') = false :=
    fun text c hc => Option.some.inj hc ▸ by decide
  have hbrace : ∀ text c, ('\x7b' :: text).head? = some c → isSpace c = false :=
    fun text c hc => Option.some.inj hc ▸ by decide
  have hinside : ∀ c ∈ parameters, decide (c ≠ ')') := by
    intro c hc
    rw [decide_eq_true_eq]
    rintro rfl
    exact hparameters hc
  simp only [headerLength?, List.append_assoc, List.cons_append, List.nil_append,
    takeWhile_append_eq hfirst.all fun c hc => isWord_of_isSpace (hgap.class_head? hc),
    dropWhile_append_eq hfirst.all fun c hc => isWord_of_isSpace (hgap.class_head? hc),
    takeWhile_append_eq hgap.all fun c hc => isSpace_of_isWord (hsecond.class_head? hc),
    dropWhile_append_eq hgap.all fun c hc => isSpace_of_isWord (hsecond.class_head? hc),
    takeWhile_append_eq hsecond.all (hparen _), dropWhile_append_eq hsecond.all (hparen _),
    takeWhile_append_eq hpad (hlist _), dropWhile_append_eq hpad (hlist _),
    takeWhile_append_eq hinside (hclose _), dropWhile_append_eq hinside (hclose _),
    takeWhile_append_eq hafter (hbrace _), dropWhile_append_eq hafter (hbrace _),
    hfirst.nonempty, hgap.nonempty, hsecond.nonempty, or_self, if_false, List.length_append,
    List.length_cons, List.length_nil]
  congr 1
  omega

/-- A header at the front of a text is a match of the pattern. -/
theorem exists_isHeader_of_headerLength? {text : List Char} {n : Nat}
    (h : headerLength? text = some n) :
    ∃ header rest, text = header ++ rest ∧ IsHeader header ∧ header.length = n := by
  simp only [headerLength?] at h
  split at h
  · exact absurd h (by simp)
  · next hruns =>
    split at h
    · next inside hinside =>
      split at h
      · next behind hbehind =>
        split at h
        · next rest hrest =>
          rw [not_or, not_or] at hruns
          obtain ⟨hfirst, hgap, hsecond⟩ := hruns
          refine ⟨(text.takeWhile isWord ++ ((text.dropWhile isWord).takeWhile isSpace
            ++ (((text.dropWhile isWord).dropWhile isSpace).takeWhile isWord
            ++ ((((text.dropWhile isWord).dropWhile isSpace).dropWhile isWord).takeWhile isSpace
            ++ ['('])))) ++ (inside.takeWhile (· ≠ ')')
            ++ ')' :: (behind.takeWhile isSpace ++ ['\x7b'])), rest, ?_,
            ⟨_, _, _, ⟨_, _, _, _, isRun_takeWhile hfirst, isRun_takeWhile hgap,
              isRun_takeWhile hsecond, fun _ => List.mem_takeWhile_imp, rfl⟩, fun hmem => ?_,
              fun _ => List.mem_takeWhile_imp, rfl⟩, ?_⟩
          · -- Put together again from the back, each stretch with what follows it.
            simp only [List.append_assoc, List.cons_append, List.nil_append]
            rw [← hrest, List.takeWhile_append_dropWhile, ← hbehind,
              List.takeWhile_append_dropWhile, ← hinside, List.takeWhile_append_dropWhile,
              List.takeWhile_append_dropWhile, List.takeWhile_append_dropWhile,
              List.takeWhile_append_dropWhile]
          · simpa using List.mem_takeWhile_imp hmem
          · rw [← Option.some.inj h]
            simp only [List.length_append, List.length_cons, List.length_nil]
            omega
        · exact absurd h (by simp)
      · exact absurd h (by simp)
    · exact absurd h (by simp)

/-- The length of a header at the front of a text is that of the match that stands there. -/
theorem headerLength?_eq_some_iff {text : List Char} {n : Nat} :
    headerLength? text = some n ↔ ∃ header rest, text = header ++ rest ∧ IsHeader header
      ∧ header.length = n := by
  refine ⟨exists_isHeader_of_headerLength?, ?_⟩
  rintro ⟨header, rest, rfl, hheader, rfl⟩
  exact headerLength?_append hheader rest

/-! ## Leftmost matches -/

/-- A match begins with a word. -/
theorem IsOpening.exists_cons {opening : List Char} (h : IsOpening opening) :
    ∃ c rest, opening = c :: rest ∧ isWord c := by
  obtain ⟨first, gap, second, pad, hfirst, -, -, -, rfl⟩ := h
  obtain ⟨c, rest, rfl⟩ := List.exists_cons_of_ne_nil hfirst.nonempty
  exact ⟨c, _, rfl, hfirst.all c List.mem_cons_self⟩

theorem IsHeader.exists_cons {header : List Char} (h : IsHeader header) :
    ∃ c rest, header = c :: rest ∧ isWord c := by
  obtain ⟨opening, parameters, pad, hopening, -, -, rfl⟩ := h
  obtain ⟨c, rest, rfl, hc⟩ := hopening.exists_cons
  exact ⟨c, _, rfl, hc⟩

/-- A match ends with a brace. -/
theorem IsHeader.getLast? {header : List Char} (h : IsHeader header) :
    header.getLast? = some '\x7b' := by
  obtain ⟨opening, parameters, pad, -, -, -, rfl⟩ := h
  simp [List.getLast?_append, List.getLast?_cons]

theorem isBoundary_some_iff {before : Option Char} {c : Char} (hc : isWord c) :
    Text.isBoundary before (some c) ↔ ¬ isWordAt before := by
  simp [Text.isBoundary, isWordAt, hc]

/-- The scanner takes a header just where a match begins. -/
theorem startsHeader_cons_iff {before : Option Char} {c : Char} {rest : List Char} :
    StartsHeader before (c :: rest) ↔
      (isWord c ∧ ¬ isWordAt before) ∧ ∃ n, headerLength? (c :: rest) = some n := by
  have hmatch : (∃ header, IsHeader header ∧ header <+: c :: rest)
      ↔ ∃ n, headerLength? (c :: rest) = some n := by
    constructor
    · rintro ⟨header, hheader, tail, htail⟩
      exact ⟨_, headerLength?_eq_some_iff.2 ⟨header, tail, htail.symm, hheader, rfl⟩⟩
    · rintro ⟨n, hn⟩
      obtain ⟨header, tail, htail, hheader, -⟩ := headerLength?_eq_some_iff.1 hn
      exact ⟨header, hheader, tail, htail.symm⟩
  rw [StartsHeader, hmatch]
  refine and_congr_left fun hheader => ?_
  obtain ⟨header, hform, tail, htail⟩ := hmatch.2 hheader
  obtain ⟨d, others, rfl, hd⟩ := hform.exists_cons
  obtain ⟨rfl, -⟩ := List.cons.inj htail
  rw [List.head?_cons, isBoundary_some_iff hd, and_iff_right hd]

/-- The last character of a text, or else the one before it. -/
theorem getLast?_cons_or (c : Char) (text : List Char) (before : Option Char) :
    (c :: text).getLast?.or before = text.getLast?.or (some c) := by
  rw [List.getLast?_cons]
  cases text.getLast? <;> rfl

/-- Characters that belong to the header found last are passed over. -/
theorem countHeadersFrom_skip (front rest : List Char) (before : Option Char) (count : Nat) :
    countHeadersFrom front.length before count (front ++ rest)
      = countHeadersFrom 0 (front.getLast?.or before) count rest := by
  induction front generalizing before with
  | nil => rfl
  | cons c front ih =>
    rw [List.length_cons, List.cons_append, countHeadersFrom, ih, getLast?_cons_or]

/-- Where a match begins it is counted, and the search goes on behind it. -/
theorem countHeadersFrom_header {before : Option Char} {header : List Char}
    (hboundary : Text.isBoundary before header.head?) (h : IsHeader header) (rest : List Char)
    (count : Nat) :
    countHeadersFrom 0 before count (header ++ rest)
      = countHeadersFrom 0 header.getLast? (count + 1) rest := by
  have hlength := headerLength?_append h rest
  have hskip := countHeadersFrom_skip header.tail rest header.head? (count + 1)
  obtain ⟨c, others, rfl, hc⟩ := h.exists_cons
  rw [List.head?_cons, isBoundary_some_iff hc] at hboundary
  rw [List.cons_append] at hlength ⊢
  rw [countHeadersFrom, if_pos ⟨hc, hboundary⟩, hlength]
  dsimp only [List.head?_cons, List.tail_cons] at hskip ⊢
  rw [List.length_cons, Nat.add_sub_cancel, hskip, List.getLast?_cons]
  cases others.getLast? <;> rfl

/-- Where no match begins the search goes on at the next character. -/
theorem countHeadersFrom_cons {before : Option Char} {c : Char} {rest : List Char}
    (h : ¬ StartsHeader before (c :: rest)) (count : Nat) :
    countHeadersFrom 0 before count (c :: rest) = countHeadersFrom 0 (some c) count rest := by
  rw [startsHeader_cons_iff, not_and, not_exists] at h
  rw [countHeadersFrom]
  split
  · next hword =>
    split
    · next n hn => exact absurd hn (h hword n)
    · rfl
  · rfl

/-- From any place on, the leftmost matches that do not overlap are counted. -/
theorem exists_leftmostHeaders (before : Option Char) (text : List Char) (count : Nat) :
    ∃ n, countHeadersFrom 0 before count text = count + n ∧ LeftmostHeaders before text n := by
  -- By the length of the text, since a match is passed over as a whole.
  induction hlength : text.length using Nat.strong_induction_on generalizing before text count with
  | _ length ih =>
    subst hlength
    cases text with
    | nil => exact ⟨0, rfl, .nil⟩
    | cons c rest =>
      by_cases hstarts : StartsHeader before (c :: rest)
      · obtain ⟨hboundary, header, hheader, tail, htail⟩ := hstarts
        obtain ⟨d, others, rfl, -⟩ := hheader.exists_cons
        have hshorter : tail.length < (c :: rest).length := by
          rw [← htail, List.cons_append, List.length_cons, List.length_append]
          omega
        rw [← htail] at hboundary ⊢
        have hboundary : Text.isBoundary before (d :: others).head? := hboundary
        obtain ⟨n, hcount, hleftmost⟩ := ih tail.length hshorter (d :: others).getLast? tail
          (count + 1) rfl
        refine ⟨n + 1, ?_, .take hboundary hheader hleftmost⟩
        rw [countHeadersFrom_header hboundary hheader, hcount]
        omega
      · obtain ⟨n, hcount, hleftmost⟩ := ih rest.length (by simp) (some c) rest count rfl
        exact ⟨n, by rw [countHeadersFrom_cons hstarts, hcount], .skip hstarts hleftmost⟩

/-! ## Openings in segments -/

/-- An opening stands in the segment, and no word character goes before it. -/
def OpensAfter (before : Option Char) (segment : List Char) : Prop :=
  ∃ front opening back, segment = front ++ (opening ++ back) ∧ IsOpening opening
    ∧ ¬ isWordAt (front.getLast?.or before)

/-- An opening that begins within a word can be taken from the start of the word. -/
theorem opensAfter_iff_hasOpening {before : Option Char} (h : ¬ isWordAt before)
    {segment : List Char} : OpensAfter before segment ↔ HasOpening segment := by
  constructor
  · rintro ⟨front, opening, back, rfl, hopening, -⟩
    exact ⟨opening, hopening, front, back, by simp⟩
  · rintro ⟨opening, hopening, front, back, rfl⟩
    -- Word characters before the opening are taken into its first word one by one.
    induction front using List.reverseRecOn generalizing opening with
    | nil => exact ⟨[], opening, back, rfl, hopening, h⟩
    | append_singleton front c ih =>
      by_cases hc : isWord c
      · obtain ⟨first, gap, second, pad, hfirst, hrest⟩ := hopening
        have hlonger : IsOpening (c :: opening) := by
          refine ⟨c :: first, gap, second, pad, ⟨List.cons_ne_nil _ _, ?_⟩, hrest.1, hrest.2.1,
            hrest.2.2.1, by rw [hrest.2.2.2, List.cons_append]⟩
          exact List.forall_mem_cons.2 ⟨hc, hfirst.all⟩
        have hsplit := ih (c :: opening) hlonger
        simpa using hsplit
      · exact ⟨front ++ [c], opening, back, by simp, hopening, by simpa [isWordAt] using hc⟩

/-- An opening stands at the front of the segment or behind its first character. -/
theorem opensAfter_cons_iff {before : Option Char} {c : Char} {segment : List Char} :
    OpensAfter before (c :: segment) ↔
      (¬ isWordAt before ∧ ∃ opening, IsOpening opening ∧ opening <+: c :: segment)
        ∨ OpensAfter (some c) segment := by
  constructor
  · rintro ⟨front, opening, back, hsplit, hopening, hbefore⟩
    cases front with
    | nil => exact .inl ⟨hbefore, opening, hopening, back, hsplit.symm⟩
    | cons d front =>
      obtain ⟨rfl, rfl⟩ := List.cons.inj hsplit
      rw [getLast?_cons_or] at hbefore
      exact .inr ⟨front, opening, back, rfl, hopening, hbefore⟩
  · rintro (⟨hbefore, opening, hopening, back, hback⟩ | ⟨front, opening, back, rfl, hopening, hbefore⟩)
    · exact ⟨[], opening, back, hback.symm, hopening, hbefore⟩
    · rw [← getLast?_cons_or c front before] at hbefore
      exact ⟨c :: front, opening, back, rfl, hopening, hbefore⟩

theorem not_opensAfter_nil (before : Option Char) : ¬ OpensAfter before [] := by
  rintro ⟨front, opening, back, hsplit, hopening, -⟩
  obtain ⟨c, rest, rfl, -⟩ := hopening.exists_cons
  simp at hsplit

/-- No opening begins among characters that are in no word. -/
theorem opensAfter_append_iff {before : Option Char} {front segment : List Char} {c : Char}
    (hfront : ∀ d ∈ front, isWord d = false) (hc : isWord c = false) :
    OpensAfter before (front ++ c :: segment) ↔ OpensAfter (some c) segment := by
  have hskip : ∀ {before : Option Char} {d : Char} {rest : List Char}, isWord d = false →
      (OpensAfter before (d :: rest) ↔ OpensAfter (some d) rest) := by
    intro before d rest hd
    refine opensAfter_cons_iff.trans (or_iff_right ?_)
    rintro ⟨-, opening, hopening, back, hback⟩
    obtain ⟨e, others, rfl, he⟩ := hopening.exists_cons
    rw [(List.cons.inj hback).1, hd] at he
    exact Bool.false_ne_true he
  induction front generalizing before with
  | nil => exact hskip hc
  | cons d front ih =>
    rw [List.forall_mem_cons] at hfront
    exact (hskip hfront.1).trans (ih hfront.2)

/-! ## What segments say -/

open scoped Classical in
/-- Number of bodies that are opened in segments, the first one of which goes on after the given
character. -/
noncomputable def openedAfter (before : Option Char) : List (List Char) → Nat
  | segment :: next :: rest =>
    (if OpensAfter before segment ∧ OpensBody next then 1 else 0) + openedAfter none (next :: rest)
  | [_] => 0
  | [] => 0

/-- Only what the first segment is matters of the character before it. -/
theorem openedAfter_congr {before before' : Option Char} {segment segment' : List Char}
    (h : ∀ next, OpensBody next → (OpensAfter before segment ↔ OpensAfter before' segment'))
    (rest : List (List Char)) :
    openedAfter before (segment :: rest) = openedAfter before' (segment' :: rest) := by
  cases rest with
  | nil => rfl
  | cons next rest =>
    rw [openedAfter, openedAfter]
    congr 2
    exact propext (and_congr_left (h next))

/-- A text begins with its first two segments and what is between them. -/
theorem exists_tail_of_splitOn {text segment next : List Char} {rest : List (List Char)}
    (h : text.splitOn ')' = segment :: next :: rest) :
    ∃ tail, text = segment ++ ')' :: (next ++ tail) := by
  have hjoin : [')'].intercalate (text.splitOn ')') = text := List.intercalate_splitOn ')'
  rw [h] at hjoin
  cases rest with
  | nil => exact ⟨[], by simpa [List.intercalate, List.intersperse] using hjoin.symm⟩
  | cons other rest =>
    exact ⟨')' :: [')'].intercalate (other :: rest),
      by simpa [List.intercalate, List.intersperse] using hjoin.symm⟩

/-- An opening at the front of a segment and a brace after it make a header. -/
theorem exists_isHeader_of_segments {segment next opening : List Char} (hopening : IsOpening opening)
    (hfront : opening <+: segment) (hsegment : ')' ∉ segment) (hnext : OpensBody next)
    (tail : List Char) :
    ∃ header, IsHeader header ∧ header <+: segment ++ ')' :: (next ++ tail) := by
  obtain ⟨parameters, rfl⟩ := hfront
  obtain ⟨body, hbody⟩ := List.head?_eq_some_iff.1 hnext
  refine ⟨_, ⟨opening, parameters, next.takeWhile isSpace, hopening, fun hmem => ?_,
    fun _ => List.mem_takeWhile_imp, rfl⟩, body ++ tail, ?_⟩
  · exact hsegment (List.mem_append_right _ hmem)
  · have hnext : next = next.takeWhile isSpace ++ '\x7b' :: body := by
      rw [← hbody, List.takeWhile_append_dropWhile]
    conv_rhs => rw [hnext]
    simp

/-- No closing parenthesis stands in an opening. -/
theorem IsOpening.not_mem {opening : List Char} (h : IsOpening opening) : ')' ∉ opening := by
  obtain ⟨first, gap, second, pad, hfirst, hgap, hsecond, hpad, rfl⟩ := h
  have hword : ∀ run : List Char, (∀ c ∈ run, isWord c) → ')' ∉ run :=
    fun run hrun hmem => absurd (hrun _ hmem) (by decide +kernel)
  have hspace : ∀ run : List Char, (∀ c ∈ run, isSpace c) → ')' ∉ run :=
    fun run hrun hmem => absurd (hrun _ hmem) (by decide)
  simp only [List.mem_append, not_or]
  exact ⟨hword _ hfirst.all, hspace _ hgap.all, hword _ hsecond.all, hspace _ hpad, by decide⟩

/-- A character at which no match begins opens no body. -/
theorem openedAfter_splitOn_cons {before : Option Char} {c : Char} {rest : List Char}
    (h : ¬ StartsHeader before (c :: rest)) :
    openedAfter before ((c :: rest).splitOn ')') = openedAfter (some c) (rest.splitOn ')') := by
  obtain ⟨segment, others, hsplit⟩ := List.exists_cons_of_ne_nil (List.splitOn_ne_nil ')' rest)
  by_cases hc : c = ')'
  · -- A segment ends without an opening, and a fresh one begins.
    subst hc
    have hparts : (')' :: rest).splitOn ')' = [] :: segment :: others := by
      rw [List.splitOn_cons_eq_if_modifyHead, if_pos (beq_self_eq_true _), hsplit]
    rw [hparts, hsplit, openedAfter, if_neg fun h => not_opensAfter_nil _ h.1, Nat.zero_add]
    refine openedAfter_congr (fun next _ => ?_) others
    rw [opensAfter_iff_hasOpening (by decide), opensAfter_iff_hasOpening (by decide +kernel)]
  · have hparts : (c :: rest).splitOn ')' = (c :: segment) :: others := by
      rw [List.splitOn_cons_eq_if_modifyHead, if_neg (by simpa using hc), hsplit]
      rfl
    rw [hparts, hsplit]
    cases others with
    | nil => rfl
    | cons next others =>
      -- A candidate at this place is followed by a brace only if a match begins here.
      refine congrArg₂ (· + ·) ?_ rfl
      congr 1
      refine propext (and_congr_left fun hnext => ?_)
      rw [opensAfter_cons_iff]
      refine or_iff_right ?_
      rintro ⟨hbefore, opening, hopening, hfront⟩
      obtain ⟨tail, htail⟩ := exists_tail_of_splitOn hparts
      have hsegment : ')' ∉ c :: segment :=
        not_mem_of_mem_splitOn (hparts ▸ List.mem_cons_self)
      refine h ⟨?_, htail ▸ exists_isHeader_of_segments hopening hfront hsegment hnext tail⟩
      obtain ⟨d, back, rfl, hd⟩ := hopening.exists_cons
      obtain ⟨parameters, hparameters⟩ := hfront
      obtain ⟨rfl, -⟩ := List.cons.inj hparameters
      exact (isBoundary_some_iff hd).2 hbefore

/-- A header ends in the segment after the one in which it begins. -/
theorem splitOn_header {opening parameters pad rest segment : List Char} {more : List (List Char)}
    (hopening : IsOpening opening) (hparameters : ')' ∉ parameters) (hpad : ∀ c ∈ pad, isSpace c)
    (hsplit : rest.splitOn ')' = segment :: more) :
    (opening ++ (parameters ++ ')' :: (pad ++ ['\x7b'])) ++ rest).splitOn ')'
      = (opening ++ parameters) :: (pad ++ '\x7b' :: segment) :: more := by
  have hfirst : ')' ∉ opening ++ parameters := by
    rw [List.mem_append, not_or]
    exact ⟨hopening.not_mem, hparameters⟩
  have hsecond : ')' ∉ pad ++ ['\x7b'] := by
    rw [List.mem_append, not_or]
    exact ⟨fun hmem => absurd (hpad _ hmem) (by decide), by decide⟩
  have htext : opening ++ (parameters ++ ')' :: (pad ++ ['\x7b'])) ++ rest
      = (opening ++ parameters) ++ ')' :: ((pad ++ ['\x7b']) ++ rest) := by simp
  rw [htext, List.splitOn_append_cons_self_of_not_mem hfirst, splitOn_append_of_not_mem hsecond,
    hsplit, List.modifyHead_cons]
  simp

/-- A match opens one body, and nothing else begins up to its brace. -/
theorem openedAfter_splitOn_append {before : Option Char} {header : List Char}
    (hboundary : Text.isBoundary before header.head?) (h : IsHeader header) (rest : List Char) :
    openedAfter before ((header ++ rest).splitOn ')')
      = openedAfter header.getLast? (rest.splitOn ')') + 1 := by
  have hlast := h.getLast?
  obtain ⟨c, others, hcons, hc⟩ := h.exists_cons
  rw [hcons, List.head?_cons, isBoundary_some_iff hc] at hboundary
  obtain ⟨opening, parameters, pad, hopening, hparameters, hpad, rfl⟩ := h
  obtain ⟨segment, more, hsplit⟩ := List.exists_cons_of_ne_nil (List.splitOn_ne_nil ')' rest)
  have hopens : OpensAfter before (opening ++ parameters) :=
    ⟨[], opening, parameters, rfl, hopening, hboundary⟩
  have hbrace : ∀ d, ('\x7b' :: segment).head? = some d → isSpace d = false := by
    rintro d ⟨⟩
    decide
  have hbody : OpensBody (pad ++ '\x7b' :: segment) := by
    rw [OpensBody, dropWhile_append_eq hpad hbrace]
    rfl
  rw [hlast, splitOn_header hopening hparameters hpad hsplit, hsplit, openedAfter,
    if_pos ⟨hopens, hbody⟩, Nat.add_comm]
  -- Between the parenthesis and the brace no opening can begin.
  refine congrArg (· + 1) (openedAfter_congr (fun next _ => ?_) more)
  exact opensAfter_append_iff (fun d hd => isWord_of_isSpace (hpad d hd)) (by decide +kernel)

/-- The leftmost matches are as many as the bodies that the segments open. -/
theorem LeftmostHeaders.eq_openedAfter {before : Option Char} {text : List Char} {n : Nat}
    (h : LeftmostHeaders before text n) : n = openedAfter before (text.splitOn ')') := by
  induction h with
  | nil => rfl
  | skip hstarts _ ih => rw [openedAfter_splitOn_cons hstarts, ih]
  | take hboundary hheader _ ih => rw [openedAfter_splitOn_append hboundary hheader, ih]

/-- The places of the opened bodies are counted segment by segment. -/
theorem card_openedBodies (segments : List (List Char)) :
    (openedBodies segments).card = openedAfter none segments := by
  induction segments with
  | nil => rfl
  | cons segment rest ih =>
    cases rest with
    | nil => rfl
    | cons next rest =>
      have hhas : OpensAfter none segment ↔ HasOpening segment :=
        opensAfter_iff_hasOpening (by decide)
      rw [openedAfter, ← ih, openedBodies, openedBodies, Finset.card_filter, Finset.card_filter]
      simp only [List.length_cons, Nat.add_sub_cancel]
      -- The first place is counted apart, and the others are those of the rest, moved by one.
      rw [Finset.sum_range_succ', Nat.add_comm]
      refine congrArg₂ (· + ·) ?_ (by simp)
      congr 1
      simp [hhas]

/-- The number of headers in a text is the number of leftmost matches of the pattern that do not
overlap, and this is the number of segments between closing parentheses that hold an opening and are
followed, white space aside, by a brace. -/
theorem countHeaders_eq_card (text : List Char) :
    LeftmostHeaders none text (countHeaders text)
      ∧ countHeaders text = (openedBodies (text.splitOn ')')).card := by
  obtain ⟨n, hcount, hleftmost⟩ := exists_leftmostHeaders none text 0
  rw [Nat.zero_add] at hcount
  have hscan : LeftmostHeaders none text (countHeaders text) := by
    rw [countHeaders, hcount]
    exact hleftmost
  exact ⟨hscan, by rw [card_openedBodies, hscan.eq_openedAfter]⟩

-- The parameters of a header may hold what else would begin one.
example : countHeaders "int f(int g(x) \x7b h i(y)\n \x7b".toList = 2 := by decide +kernel

end Metrics

end RubricScore
