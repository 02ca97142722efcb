/-!
# Texts in parts

What is known of the parts of a text between the occurrences of a character, and of the run of
characters of one class at its front.

* `not_mem_of_mem_splitOn`: no part holds the character;
* `splitOn_append_of_not_mem`: what stands in front without it belongs to the first part;
* `takeWhile_append_eq`, `dropWhile_append_eq`: a run ends where its class does.
-/

namespace RubricScore

theorem not_mem_of_mem_splitOn {c : Char} {text part : List Char} (h : part ∈ text.splitOn c) :
    c ∉ part := by
  induction text generalizing part with
  | nil =>
    rw [List.splitOn_nil, List.mem_singleton] at h
    exact h ▸ List.not_mem_nil
  | cons a rest ih =>
    rw [List.splitOn_cons_eq_if_modifyHead] at h
    split at h
    · rcases List.mem_cons.1 h with rfl | hrest
      · exact List.not_mem_nil
      · exact ih hrest
    · next hne =>
      obtain ⟨first, others, hsplit⟩ := List.exists_cons_of_ne_nil (List.splitOn_ne_nil c rest)
      rw [hsplit] at h ih
      -- The character goes in front of the first part.
      rcases List.mem_cons.1 h with rfl | hothers
      · rw [List.mem_cons, not_or]
        exact ⟨fun heq => hne (beq_iff_eq.2 heq.symm), ih List.mem_cons_self⟩
      · exact ih (List.mem_cons_of_mem _ hothers)

theorem splitOn_append_of_not_mem {c : Char} {front : List Char} (h : c ∉ front)
    (rest : List Char) :
    (front ++ rest).splitOn c = (rest.splitOn c).modifyHead (front ++ ·) := by
  induction front with
  | nil =>
    rw [List.nil_append]
    cases rest.splitOn c <;> rfl
  | cons a front ih =>
    rw [List.mem_cons, not_or] at h
    rw [List.cons_append, List.splitOn_cons_eq_if_modifyHead, if_neg (by simpa using Ne.symm h.1),
      ih h.2, List.modifyHead_modifyHead]
    rfl

section Runs

variable {p : Char → Bool} {run rest : List Char}

/-- A run that the rest does not go on with is taken as a whole. -/
theorem takeWhile_append_eq (hrun : ∀ c ∈ run, p c)
    (hrest : ∀ c, rest.head? = some c → p c = false) : (run ++ rest).takeWhile p = run := by
  rw [List.takeWhile_append_of_pos hrun]
  cases rest with
  | nil => simp
  | cons c rest => rw [List.takeWhile_cons_of_neg (by simp [hrest c rfl]), List.append_nil]

theorem dropWhile_append_eq (hrun : ∀ c ∈ run, p c)
    (hrest : ∀ c, rest.head? = some c → p c = false) : (run ++ rest).dropWhile p = rest := by
  rw [List.dropWhile_append_of_pos hrun]
  cases rest with
  | nil => simp
  | cons c rest => rw [List.dropWhile_cons_of_neg (by simp [hrest c rfl])]

end Runs

end RubricScore
