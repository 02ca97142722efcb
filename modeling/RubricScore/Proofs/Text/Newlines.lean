import RubricScore.Text.Utf8

/-!
# Universal newlines

The scan that leaves newlines as the only line ends does two things: it joins each carriage return
with the newline behind it, and it makes a newline of every carriage return that is left.

## Main definitions

* `joinPairs`: each pair of carriage return and newline becomes a newline;
* `newlineFor`: a carriage return becomes a newline.

## Main results

* `universalNewlines_eq`: the scan is one after the other;
* `return_not_mem_universalNewlines`, `universalNewlines_eq_self`: no carriage return is left, and a
  text without one stays as it is;
* `filter_universalNewlines`: characters that end no lines stay in their order.
-/

namespace RubricScore.Text

/-- The text with each pair of carriage return and newline replaced by a newline. -/
def joinPairs : List Char → List Char
  | '\r' :: '\n' :: rest => '\n' :: joinPairs rest
  | c :: rest => c :: joinPairs rest
  | [] => []

/-- A newline for a carriage return, any other character as it is. -/
def newlineFor (c : Char) : Char :=
  if c = '\r' then '\n' else c

/-- What stands behind a carriage return, without the newline that belongs to it. -/
def afterReturn : List Char → List Char
  | '\n' :: rest => rest
  | rest => rest

theorem joinPairs_cons {c : Char} (h : c ≠ '\r') (rest : List Char) :
    joinPairs (c :: rest) = c :: joinPairs rest := by
  rw [joinPairs]
  exact fun _ hc _ => h hc

theorem afterReturn_cons {c : Char} (h : c ≠ '\n') (rest : List Char) :
    afterReturn (c :: rest) = c :: rest := by
  rw [afterReturn]
  exact fun _ heq => h (List.cons.inj heq).1

/-- A carriage return becomes a newline, and a newline behind it goes. -/
theorem map_joinPairs_return (rest : List Char) :
    (joinPairs ('\r' :: rest)).map newlineFor
      = '\n' :: (joinPairs (afterReturn rest)).map newlineFor := by
  cases rest with
  | nil => rfl
  | cons c rest =>
    by_cases hc : c = '\n'
    · subst hc
      rfl
    · rw [afterReturn_cons hc, joinPairs]
      · rfl
      · exact fun _ _ htail => hc (List.cons.inj htail).1

/-- What the scan makes of a text, between characters and behind a carriage return. -/
theorem newlinesFrom_eq (text done : List Char) :
    newlinesFrom done false text = done.reverse ++ (joinPairs text).map newlineFor
      ∧ newlinesFrom done true text
        = done.reverse ++ (joinPairs (afterReturn text)).map newlineFor := by
  induction text generalizing done with
  | nil => exact ⟨(List.append_nil _).symm, (List.append_nil _).symm⟩
  | cons c rest ih =>
    by_cases hreturn : c = '\r'
    · subst hreturn
      rw [afterReturn_cons (by decide), newlinesFrom, newlinesFrom, if_pos rfl, (ih _).2,
        map_joinPairs_return, List.reverse_cons, List.append_assoc, List.singleton_append]
      exact ⟨rfl, rfl⟩
    have hkept : newlinesFrom (c :: done) false rest
        = done.reverse ++ (joinPairs (c :: rest)).map newlineFor := by
      rw [(ih _).1, joinPairs_cons hreturn, List.map_cons, newlineFor, if_neg hreturn,
        List.reverse_cons, List.append_assoc, List.singleton_append]
    by_cases hnewline : c = '\n'
    · subst hnewline
      exact ⟨hkept, (ih done).1⟩
    · rw [afterReturn_cons hnewline]
      simp only [newlinesFrom, hreturn, hnewline, decide_false, Bool.false_and,
        Bool.false_eq_true, if_false]
      exact ⟨hkept, hkept⟩

/-- Every pair of carriage return and newline and every other carriage return becomes one newline. -/
theorem universalNewlines_eq (text : List Char) :
    universalNewlines text = (joinPairs text).map newlineFor :=
  (newlinesFrom_eq text []).1

theorem newlineFor_ne_return (c : Char) : newlineFor c ≠ '\r' := by
  unfold newlineFor
  split
  · decide
  · next hne => exact hne

theorem return_not_mem_universalNewlines (text : List Char) : '\r' ∉ universalNewlines text := by
  rw [universalNewlines_eq, List.mem_map]
  rintro ⟨c, -, hc⟩
  exact newlineFor_ne_return c hc

theorem joinPairs_eq_self {text : List Char} (h : '\r' ∉ text) : joinPairs text = text := by
  induction text with
  | nil => rfl
  | cons c rest ih =>
    rw [List.mem_cons, not_or] at h
    rw [joinPairs_cons (Ne.symm h.1), ih h.2]

theorem universalNewlines_eq_self {text : List Char} (h : '\r' ∉ text) :
    universalNewlines text = text := by
  have hkeep : ∀ c ∈ text, newlineFor c = c := fun c hc =>
    if_neg fun (heq : c = '\r') => h (heq ▸ hc)
  rw [universalNewlines_eq, joinPairs_eq_self h, List.map_congr_left hkeep]
  exact List.map_id' text

/-- Characters other than the two that end lines stay in their order. -/
theorem filter_universalNewlines {keep : Char → Bool} (hreturn : keep '\r' = false)
    (hnewline : keep '\n' = false) (text : List Char) :
    (universalNewlines text).filter keep = text.filter keep := by
  rw [universalNewlines_eq]
  induction text using joinPairs.induct with
  | case1 rest ih =>
    have hpair : newlineFor '\n' = '\n' := rfl
    rw [joinPairs, List.map_cons, hpair, List.filter_cons, List.filter_cons, List.filter_cons,
      hreturn, hnewline]
    exact ih
  | case2 c rest hpair ih =>
    rw [joinPairs.eq_2 c rest hpair, List.map_cons, List.filter_cons, List.filter_cons, ih]
    by_cases hc : c = '\r'
    · rw [newlineFor, if_pos hc, hc, hreturn, hnewline]
      rfl
    · rw [newlineFor, if_neg hc]
  | case3 => rfl

end RubricScore.Text
