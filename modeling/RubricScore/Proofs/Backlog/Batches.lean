import RubricScore.Backlog.Task

/-!
# Batches of a manifest

A manifest is cut into batches of one size, of which the last one may be shorter. Their number
follows from that alone, for the sizes of the batches add up to the length of the manifest. Since
the size grows with the manifest, the number of batches stays small.

## Main definitions

* `CutsEvenly`: all parts of a list but the last one have the same length.

## Main results

* `cutsEvenly_pieces`: cutting a list into pieces cuts it evenly;
* `CutsEvenly.length_le_iff`: how many parts an even cut has;
* `batches_balanced`: the sizes of the batches of a manifest, and how many there are.
-/

namespace RubricScore

/-! ## Even cuts -/

/-- A list is cut into parts of one length, in order. The last part may be shorter, but it is not
empty. -/
structure CutsEvenly {α : Type} (length : Nat) (items : List α) (parts : List (List α)) : Prop where
  /-- The parts put together are the list. -/
  flatten : parts.flatten = items
  /-- Every part but the last has the length. -/
  full : ∀ part ∈ parts.dropLast, part.length = length
  /-- The last part has at least one item, and at most as many as the others. -/
  last : ∀ part, parts.getLast? = some part → 1 ≤ part.length ∧ part.length ≤ length

namespace CutsEvenly

variable {α : Type} {length : Nat} {items : List α} {parts : List (List α)}

theorem nil : CutsEvenly length ([] : List α) [] :=
  ⟨rfl, fun _ hin => absurd hin List.not_mem_nil, fun _ hlast => absurd hlast (by simp)⟩

/-- A list that is not too long is the only part. -/
theorem singleton (hpos : 1 ≤ items.length) (hle : items.length ≤ length) :
    CutsEvenly length items [items] := by
  refine ⟨List.flatten_singleton, fun _ hin => absurd hin List.not_mem_nil, fun part hlast => ?_⟩
  obtain rfl : items = part := by simpa using hlast
  exact ⟨hpos, hle⟩

/-- A part of the length goes in front of an even cut. -/
theorem cons (h : CutsEvenly length items parts) {part : List α} (hpart : part.length = length)
    (hpos : 0 < length) : CutsEvenly length (part ++ items) (part :: parts) := by
  cases parts with
  | nil =>
    obtain rfl : items = [] := h.flatten.symm
    rw [List.append_nil]
    exact singleton (by omega) (Nat.le_of_eq hpart)
  | cons next rest =>
    refine ⟨by rw [List.flatten_cons, h.flatten], ?_, ?_⟩
    · intro other hother
      rcases List.mem_cons.1 hother with rfl | hin
      · exact hpart
      · exact h.full other hin
    · intro other hlast
      exact h.last other (by rwa [List.getLast?_cons_cons] at hlast)

/-- No part is empty. -/
theorem ne_nil_of_mem (h : CutsEvenly length items parts) (hpos : 0 < length) {part : List α}
    (hpart : part ∈ parts) : part ≠ [] := by
  have hne := List.ne_nil_of_mem hpart
  rw [← List.dropLast_concat_getLast hne, List.mem_append, List.mem_singleton] at hpart
  rw [← List.length_pos_iff]
  rcases hpart with hfull | rfl
  · rwa [h.full part hfull]
  · exact (h.last _ (List.getLast?_eq_some_getLast hne)).1

/-- The length of the list is made up of the full parts and the last one. -/
theorem exists_length_eq (h : CutsEvenly length items parts) (hne : parts ≠ []) :
    ∃ rest, 1 ≤ rest ∧ rest ≤ length ∧ items.length = (parts.length - 1) * length + rest := by
  obtain ⟨hpos, hle⟩ := h.last _ (List.getLast?_eq_some_getLast hne)
  refine ⟨(parts.getLast hne).length, hpos, hle, ?_⟩
  have hfull : parts.dropLast.map List.length = List.replicate (parts.length - 1) length := by
    rw [List.map_eq_replicate_iff.2 h.full, List.length_dropLast]
  calc items.length
      = ((parts.dropLast ++ [parts.getLast hne]).map List.length).sum := by
        rw [List.dropLast_concat_getLast, ← List.length_flatten, h.flatten]
    _ = (parts.length - 1) * length + (parts.getLast hne).length := by
        rw [List.map_append, hfull, List.sum_append, List.sum_replicate_nat, List.map_singleton,
          List.sum_singleton]

/-- There are at most as many parts as are needed to hold the list. -/
theorem length_le_iff (h : CutsEvenly length items parts) (count : Nat) :
    parts.length ≤ count ↔ items.length ≤ count * length := by
  by_cases hne : parts = []
  · obtain rfl : items = [] := by rw [← h.flatten, hne, List.flatten_nil]
    simp [hne]
  · obtain ⟨rest, hpos, hle, heq⟩ := h.exists_length_eq hne
    have hparts : 0 < parts.length := List.length_pos_iff.2 hne
    rw [heq]
    constructor
    · intro hcount
      calc (parts.length - 1) * length + rest
          ≤ (parts.length - 1) * length + length := Nat.add_le_add_left hle _
        _ = (parts.length - 1 + 1) * length := (Nat.succ_mul _ _).symm
        _ ≤ count * length := Nat.mul_le_mul_right length (by omega)
    · intro hcount
      refine Nat.le_of_not_lt fun hlt => ?_
      have := Nat.mul_le_mul_right length (show count ≤ parts.length - 1 by omega)
      omega

/-- A list that fits into one part is not cut. -/
theorem eq_singleton (h : CutsEvenly length items parts) (hne : items ≠ [])
    (hle : items.length ≤ length) : parts = [items] := by
  have hcount : parts.length ≤ 1 := (h.length_le_iff 1).2 (by rwa [Nat.one_mul])
  have hflatten := h.flatten
  match parts with
  | [] => exact absurd hflatten.symm hne
  | [part] => rw [← hflatten, List.flatten_singleton]
  | _ :: _ :: _ => exact absurd hcount (by simp)

end CutsEvenly

theorem cutsEvenly_pieces {α : Type} {length : Nat} (h : 0 < length) (items : List α) :
    CutsEvenly length items (pieces length items) := by
  fun_induction pieces length items with
  | case1 items hnone =>
    obtain rfl : items = [] := hnone.resolve_right (Nat.ne_of_gt h)
    exact .nil
  | case2 items hsome ih =>
    have hpos : 1 ≤ items.length := List.length_pos_iff.2 (not_or.1 hsome).1
    by_cases hshort : items.length ≤ length
    · -- What is left fits into one piece, and nothing follows it.
      rw [List.take_of_length_le hshort, List.drop_of_length_le hshort, pieces, if_pos (.inl rfl)]
      exact .singleton hpos hshort
    · have hcut := ih.cons (List.length_take_of_le (Nat.le_of_not_le hshort)) h
      rwa [List.take_append_drop] at hcut

/-! ## Batches -/

theorem three_le_batchSize (names : Nat) : 3 ≤ batchSize names :=
  Nat.le_max_left 3 (names / 5)

theorem batchSize_pos (names : Nat) : 0 < batchSize names :=
  Nat.lt_of_lt_of_le (by decide) (three_le_batchSize names)

theorem cutsEvenly_batches (manifest : List String) :
    CutsEvenly (batchSize manifest.length) manifest (batches manifest) :=
  cutsEvenly_pieces (batchSize_pos manifest.length) manifest

theorem batches_nil : batches [] = [] := by
  rw [batches, pieces, if_pos (.inl rfl)]

/-- The batches put together are the manifest. -/
theorem flatten_batches (manifest : List String) : (batches manifest).flatten = manifest :=
  (cutsEvenly_batches manifest).flatten

theorem ne_nil_of_mem_batches {manifest functions : List String}
    (h : functions ∈ batches manifest) : functions ≠ [] :=
  (cutsEvenly_batches manifest).ne_nil_of_mem (batchSize_pos manifest.length) h

/-- Seven batches hold every manifest. -/
theorem length_batches_le (manifest : List String) : (batches manifest).length ≤ 7 := by
  rw [(cutsEvenly_batches manifest).length_le_iff 7]
  -- The least size does for 21 functions. Beyond, five sizes and a remainder make up their number.
  unfold batchSize
  omega

/-- Four batches hold at most twelve functions, or four fifths of them. -/
theorem five_le_length_batches {manifest : List String} (h : 13 ≤ manifest.length) :
    5 ≤ (batches manifest).length := by
  refine Nat.le_of_not_lt fun hfew => ?_
  have hbound := ((cutsEvenly_batches manifest).length_le_iff 4).1 (Nat.le_of_lt_succ hfew)
  unfold batchSize at hbound
  omega

/-- A manifest is cut evenly into batches of a size that is at least three. One or two functions
make one batch. There are never more than seven batches, and from thirteen functions on there are at
least five. -/
theorem batches_balanced (manifest : List String) :
    CutsEvenly (batchSize manifest.length) manifest (batches manifest)
    ∧ 3 ≤ batchSize manifest.length
    ∧ (manifest ≠ [] → manifest.length < 3 → batches manifest = [manifest])
    ∧ (batches manifest).length ≤ 7
    ∧ (13 ≤ manifest.length → 5 ≤ (batches manifest).length) := by
  have hcut := cutsEvenly_batches manifest
  have hsize := three_le_batchSize manifest.length
  refine ⟨hcut, hsize, fun hne hshort => ?_, length_batches_le manifest, five_le_length_batches⟩
  exact hcut.eq_singleton hne (Nat.le_trans (Nat.le_of_lt hshort) hsize)

/-- Two functions make one batch, and thirteen make at least five. -/
theorem batches_balanced_two_and_thirteen :
    (["read", "write"] ≠ [] ∧ ["read", "write"].length < 3
      ∧ batches ["read", "write"] = [["read", "write"]])
    ∧ 13 ≤ (List.replicate 13 "probe").length
    ∧ 5 ≤ (batches (List.replicate 13 "probe")).length :=
  have hfew := (batches_balanced ["read", "write"]).2.2.1
  have hmany := (batches_balanced (List.replicate 13 "probe")).2.2.2.2
  ⟨⟨by decide, by decide, hfew (by decide) (by decide)⟩, by decide, hmany (by decide)⟩

end RubricScore
