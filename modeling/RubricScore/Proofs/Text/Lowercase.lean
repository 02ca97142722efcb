import RubricScore.Text.Case

/-!
# Lower case in context

Every character is mapped on its own to lower case, except the capital sigma, which looks at the
characters around it. A part of a text therefore has the form that it would have alone, but for
sigmas near its ends, and its length never depends on what stands around it. A character that neither
has a case nor is passed over hides what stands behind it, so texts that it separates do not see each
other.

## Main definitions

* `lowercaseWithin`: the lower-case form of a part of a text;
* `IsFinalSigma`: whether a sigma at a place is a final one;
* `KeepsSigmas`: no sigma of a part is final in the text and not in the part, or the other way round.

## Main results

* `lowercase_append`: the form of a text is put together from those of its parts;
* `lowercaseWithin_eq_iff` and `lowercase_prefix_drop_iff`: a part has the form that it has alone just
  when its sigmas are kept;
* `lowercase_append_cons`: texts that are separated do not see each other;
* `not_mem_lowercase`: control characters do not come up in lower-case forms.
-/

namespace RubricScore.Text

/-! ## Parts of a text -/

/-- Lower-case form of a part of a text: `before` is what stands before it, nearest first, and `after`
is what stands after it. -/
def lowercaseWithin (before : List Char) : (part after : List Char) → List Char
  | [], _ => []
  | c :: rest, after => lowerIn before c (rest ++ after) ++ lowercaseWithin (c :: before) rest after

theorem lowercaseFrom_eq (before done text : List Char) :
    lowercaseFrom before done text = done.reverse ++ lowercaseWithin before text [] := by
  induction text generalizing before done with
  | nil => rw [lowercaseFrom, lowercaseWithin, List.append_nil]
  | cons c rest ih =>
    rw [lowercaseFrom, lowercaseWithin, ih, List.append_nil, List.reverse_append, List.reverse_reverse,
      List.append_assoc]

theorem lowercase_eq (text : List Char) : lowercase text = lowercaseWithin [] text [] :=
  lowercaseFrom_eq [] [] text

theorem lowercaseWithin_append (before a b after : List Char) :
    lowercaseWithin before (a ++ b) after
      = lowercaseWithin before a (b ++ after) ++ lowercaseWithin (a.reverse ++ before) b after := by
  induction a generalizing before with
  | nil => rfl
  | cons c rest ih =>
    rw [List.cons_append, lowercaseWithin, lowercaseWithin, ih, List.append_assoc, List.append_assoc,
      List.reverse_cons, List.append_assoc, List.singleton_append]

/-- The form of a text is put together from those of its parts. -/
theorem lowercase_append (a b : List Char) :
    lowercase (a ++ b) = lowercaseWithin [] a b ++ lowercaseWithin a.reverse b [] := by
  rw [lowercase_eq, lowercaseWithin_append, List.append_nil, List.append_nil]

theorem length_lowerIn (before after before' after' : List Char) (c : Char) :
    (lowerIn before c after).length = (lowerIn before' c after').length := by
  unfold lowerIn
  split <;> rfl

/-- What stands around a part does not change the length of its form. -/
theorem length_lowercaseWithin (before after before' after' : List Char) (part : List Char) :
    (lowercaseWithin before part after).length = (lowercaseWithin before' part after').length := by
  induction part generalizing before before' with
  | nil => rfl
  | cons c rest ih =>
    rw [lowercaseWithin, lowercaseWithin, List.length_append, List.length_append,
      length_lowerIn before (rest ++ after) before' (rest ++ after'), ih (c :: before) (c :: before')]

theorem lowerIn_ne_nil (before : List Char) (c : Char) (after : List Char) :
    lowerIn before c after ≠ [] := by
  unfold lowerIn lowerChar
  repeat' split
  all_goals exact List.cons_ne_nil _ _

theorem lowercase_ne_nil {text : List Char} (h : text ≠ []) : lowercase text ≠ [] := by
  obtain ⟨c, rest, rfl⟩ := List.exists_cons_of_ne_nil h
  rw [lowercase_eq, lowercaseWithin]
  exact List.append_ne_nil_of_left_ne_nil (lowerIn_ne_nil _ c _) _

/-! ## Sigmas -/

/-- A capital sigma at the place would be final: the nearest character before it that is not passed
over has a case, and the nearest one after it has none. -/
def IsFinalSigma (text : List Char) (i : Nat) : Prop :=
  touchesCased (text.take i).reverse ∧ ¬ touchesCased (text.drop (i + 1))

instance (text : List Char) (i : Nat) : Decidable (IsFinalSigma text i) :=
  inferInstanceAs (Decidable (_ ∧ _))

/-- The capital sigmas of the part in the middle are final in the whole text just when they are final
in the part alone. -/
def KeepsSigmas (before part after : List Char) : Prop :=
  ∀ i < part.length, part[i]? = some 'Σ' →
    (IsFinalSigma (before ++ part ++ after) (before.length + i) ↔ IsFinalSigma part i)

instance (before part after : List Char) : Decidable (KeepsSigmas before part after) :=
  inferInstanceAs (Decidable (∀ i < part.length, _))

theorem keepsSigmas_of_not_mem {before part after : List Char} (h : 'Σ' ∉ part) :
    KeepsSigmas before part after :=
  fun _ _ hc => absurd (List.mem_of_getElem? hc) h

theorem lowerSigma_eq_iff {before after before' after' : List Char} :
    lowerSigma before after = lowerSigma before' after' ↔
      (touchesCased before ∧ ¬ touchesCased after ↔ touchesCased before' ∧ ¬ touchesCased after') := by
  unfold lowerSigma
  cases touchesCased before <;> cases touchesCased after <;> cases touchesCased before' <;>
    cases touchesCased after' <;> decide

theorem lowerIn_eq_iff {before after before' after' : List Char} {c : Char} :
    lowerIn before c after = lowerIn before' c after' ↔
      (c = 'Σ' → lowerSigma before after = lowerSigma before' after') := by
  unfold lowerIn
  split
  · next hc => rw [List.cons_eq_cons, and_iff_left rfl, forall_prop_of_true hc]
  · next hc => exact iff_of_true rfl fun h => absurd h hc

/-- In two contexts a part has the same form just when each of its sigmas has. -/
theorem lowercaseWithin_eq_lowercaseWithin_iff {before after before' after' part : List Char} :
    lowercaseWithin before part after = lowercaseWithin before' part after' ↔
      ∀ i, part[i]? = some 'Σ' →
        lowerSigma ((part.take i).reverse ++ before) (part.drop (i + 1) ++ after)
          = lowerSigma ((part.take i).reverse ++ before') (part.drop (i + 1) ++ after') := by
  induction part generalizing before before' with
  | nil => simp [lowercaseWithin]
  | cons c rest ih =>
    have hlength := length_lowerIn before (rest ++ after) before' (rest ++ after') c
    have hparts : lowercaseWithin before (c :: rest) after = lowercaseWithin before' (c :: rest) after'
        ↔ lowerIn before c (rest ++ after) = lowerIn before' c (rest ++ after')
          ∧ lowercaseWithin (c :: before) rest after = lowercaseWithin (c :: before') rest after' := by
      refine ⟨fun h => List.append_inj h hlength, fun ⟨hfirst, hrest⟩ => ?_⟩
      rw [lowercaseWithin, lowercaseWithin, hfirst, hrest]
    rw [hparts, lowerIn_eq_iff, ih]
    -- The first place is that of `c`, and the others are those of the rest, moved by one.
    refine Iff.trans (and_congr ?_ (forall_congr' fun i => ?_)) Nat.and_forall_add_one
    · simp
    · simp

/-- A part has the form that it has alone just when its sigmas are kept. -/
theorem lowercaseWithin_eq_iff {before part after : List Char} :
    lowercaseWithin before.reverse part after = lowercase part ↔ KeepsSigmas before part after := by
  have hsigma : ∀ i < part.length,
      (lowerSigma ((part.take i).reverse ++ before.reverse) (part.drop (i + 1) ++ after)
          = lowerSigma ((part.take i).reverse ++ []) (part.drop (i + 1) ++ [])
        ↔ (IsFinalSigma (before ++ part ++ after) (before.length + i) ↔ IsFinalSigma part i)) := by
    intro i hi
    have htake : (before ++ part ++ after).take (before.length + i) = before ++ part.take i := by
      rw [List.append_assoc, List.take_length_add_append, List.take_append_of_le_length (by omega)]
    have hdrop : (before ++ part ++ after).drop (before.length + i + 1)
        = part.drop (i + 1) ++ after := by
      rw [List.append_assoc, Nat.add_assoc, List.drop_length_add_append,
        List.drop_append_of_le_length (by omega)]
    rw [lowerSigma_eq_iff, IsFinalSigma, IsFinalSigma, htake, hdrop, List.reverse_append,
      List.append_nil, List.append_nil]
  rw [lowercase_eq, lowercaseWithin_eq_lowercaseWithin_iff]
  constructor
  · exact fun h i hi hc => (hsigma i hi).1 (h i hc)
  · intro h i hc
    have hi := (List.getElem?_eq_some_iff.1 hc).1
    exact (hsigma i hi).2 (h i hi hc)

theorem length_lowercase_append (a b : List Char) :
    (lowercase (a ++ b)).length = (lowercase a).length + (lowercase b).length := by
  rw [lowercase_append, List.length_append, length_lowercaseWithin [] b [] [],
    length_lowercaseWithin a.reverse [] [] [], ← lowercase_eq, ← lowercase_eq]

/-- At the place of a part its own form is found just when its sigmas are kept. -/
theorem lowercase_prefix_drop_iff {before part after : List Char} :
    lowercase part <+: (lowercase (before ++ part ++ after)).drop (lowercase before).length ↔
      KeepsSigmas before part after := by
  -- The form of the whole text has three parts, and the one in the middle stands at the place.
  have hsplit : lowercase (before ++ part ++ after)
      = lowercaseWithin [] before (part ++ after)
        ++ (lowercaseWithin before.reverse part after
          ++ lowercaseWithin (part.reverse ++ before.reverse) after []) := by
    rw [List.append_assoc, lowercase_append, lowercaseWithin_append, List.append_nil]
  have hfront : (lowercase before).length = (lowercaseWithin [] before (part ++ after)).length := by
    rw [lowercase_eq, length_lowercaseWithin]
  have hlength : (lowercase part).length = (lowercaseWithin before.reverse part after).length := by
    rw [lowercase_eq, length_lowercaseWithin]
  rw [← lowercaseWithin_eq_iff, hsplit, hfront, List.drop_left]
  constructor
  · intro h
    have hfound := List.prefix_of_prefix_length_le h (List.prefix_append ..) (Nat.le_of_eq hlength)
    exact (hfound.eq_of_length hlength).symm
  · intro h
    rw [h]
    exact List.prefix_append ..

/-! ## Separated texts -/

/-- A character that is not passed over and has no case hides what stands behind it. -/
theorem touchesCased_append_cons {c : Char} (hignorable : isCaseIgnorable c = false)
    (hcased : isCased c = false) (near far : List Char) :
    touchesCased (near ++ c :: far) = touchesCased near := by
  induction near with
  | nil => simp [touchesCased, hignorable, hcased]
  | cons d near ih =>
    unfold touchesCased at ih ⊢
    rw [List.cons_append, List.dropWhile_cons, List.dropWhile_cons]
    split
    · exact ih
    · rfl

section Separator

variable {c : Char} (hignorable : isCaseIgnorable c = false) (hcased : isCased c = false)

include hignorable hcased

theorem lowercaseWithin_before_cons (before far part after : List Char) :
    lowercaseWithin (before ++ c :: far) part after = lowercaseWithin before part after := by
  rw [lowercaseWithin_eq_lowercaseWithin_iff]
  intro i _
  rw [lowerSigma_eq_iff, ← List.append_assoc, touchesCased_append_cons hignorable hcased]

theorem lowercaseWithin_after_cons (before part after far : List Char) :
    lowercaseWithin before part (after ++ c :: far) = lowercaseWithin before part after := by
  rw [lowercaseWithin_eq_lowercaseWithin_iff]
  intro i _
  rw [lowerSigma_eq_iff, ← List.append_assoc, touchesCased_append_cons hignorable hcased]

/-- Texts between which such a character stands do not see each other. -/
theorem lowercase_append_cons (hlower : lowerChar c = [c]) (hsigma : c ≠ 'Σ') (a b : List Char) :
    lowercase (a ++ c :: b) = lowercase a ++ c :: lowercase b := by
  have hbefore := lowercaseWithin_before_cons hignorable hcased [] a.reverse b []
  have hafter := lowercaseWithin_after_cons hignorable hcased [] a [] b
  rw [List.nil_append] at hbefore hafter
  rw [lowercase_append, lowercaseWithin, hafter, hbefore, lowerIn, if_neg hsigma, hlower,
    ← lowercase_eq, ← lowercase_eq, List.singleton_append]

end Separator

/-! ## Forms of single characters -/

/-- A code point that has another form lies in a run, from which its form is taken. -/
theorem exists_run_of_shiftedBy {runs : List CaseRun} {n m : Nat} (h : shiftedBy runs n = some m) :
    ∃ run ∈ runs, run.first ≤ n ∧ n ≤ run.last ∧ m = (n + run.shift).toNat := by
  induction runs with
  | nil => exact absurd h nofun
  | cons run rest ih =>
    rw [shiftedBy] at h
    split at h
    · exact absurd h nofun
    · next hfirst =>
      split at h
      · next hlast =>
        exact ⟨run, List.mem_cons_self, Nat.le_of_not_lt hfirst, hlast.1, (Option.some.inj h).symm⟩
      · obtain ⟨other, hin, hother⟩ := ih h
        exact ⟨other, List.mem_cons_of_mem run hin, hother⟩

/-- Every lower-case form in the table is a character, and none stands before the letters. -/
theorem lowerRuns_forms : ∀ run ∈ lowerRuns, 0x61 ≤ run.first + run.shift
    ∧ (run.last + run.shift < 0xD800
      ∨ 0xDFFF < run.first + run.shift ∧ run.last + run.shift < 0x110000) := by
  decide +kernel

/-- A character is its own lower-case form, or its form does not stand before the letters. -/
theorem eq_or_le_of_mem_lowerChar {c d : Char} (h : d ∈ lowerChar c) : d = c ∨ 'a' ≤ d := by
  unfold lowerChar at h
  split at h
  · right
    rcases List.mem_cons.1 h with rfl | hdot
    · decide
    · exact List.mem_singleton.1 hdot ▸ by decide
  · split at h
    · next m hm =>
      obtain ⟨run, hin, hfirst, hlast, rfl⟩ := exists_run_of_shiftedBy hm
      obtain ⟨hletter, hvalid⟩ := lowerRuns_forms run hin
      have hchar : ((c.toNat : Int) + run.shift).toNat.isValidChar := by
        unfold Nat.isValidChar
        omega
      have hform : d.toNat = ((c.toNat : Int) + run.shift).toNat := by
        rw [List.mem_singleton.1 h, Char.ofNat, dif_pos hchar]
        rfl
      right
      show 0x61 ≤ d.toNat
      omega
    · exact .inl (List.mem_singleton.1 h)

theorem mem_or_le_of_mem_lowercaseWithin {before part after : List Char} {d : Char}
    (h : d ∈ lowercaseWithin before part after) : d ∈ part ∨ 'a' ≤ d := by
  induction part generalizing before with
  | nil => exact .inl h
  | cons c rest ih =>
    rw [lowercaseWithin, List.mem_append] at h
    rcases h with hfirst | hrest
    · unfold lowerIn at hfirst
      split at hfirst
      · rw [List.mem_singleton.1 hfirst, lowerSigma]
        split <;> exact .inr (by decide)
      · rcases eq_or_le_of_mem_lowerChar hfirst with rfl | hle
        · exact .inl List.mem_cons_self
        · exact .inr hle
    · exact (ih hrest).imp_left (List.mem_cons_of_mem c)

/-- A character before the letters does not come up in the lower-case form of a text without it. -/
theorem not_mem_lowercase {c : Char} (hc : c < 'a') {text : List Char} (h : c ∉ text) :
    c ∉ lowercase text := by
  rw [lowercase_eq]
  intro hin
  rcases mem_or_le_of_mem_lowercaseWithin hin with hmem | hle
  · exact h hmem
  · exact absurd hc (Nat.not_lt_of_le hle)

end RubricScore.Text
