import Mathlib.Data.List.Forall2
import RubricScore.Proofs.Text.Parts
import RubricScore.Text.Case

/-!
# Titles

The title of an identifier has a word for each part between its underscores that is not empty. A
word begins in upper case and goes on in lower case.

## Main definitions

* `IsCapitalized`: a part of an identifier as a word of a title;
* `IsTitle`: the title of an identifier.

## Main results

* `upperChar_ascii` and `lowerChar_ascii`: the letters of ASCII have their usual forms;
* `isTitle_titleCase`: every identifier has a title.
-/

namespace RubricScore.Text

/-- A word of a title: a first character in upper case, and the others in lower case. -/
inductive IsCapitalized : List Char → List Char → Prop
  /-- Every character has a form of its own, in ASCII the usual one. -/
  | word {c : Char} {rest word : List Char} (hforms : word = upperChar c ++ rest.flatMap lowerChar)
    (hascii : (∀ d ∈ c :: rest, d.toNat < 128) → word = c.toUpper :: rest.map Char.toLower) :
    IsCapitalized (c :: rest) word

/-- The title of an identifier: its parts that are not empty as words, with spaces between them. -/
def IsTitle (name title : List Char) : Prop :=
  ∃ parts words : List (List Char), name = ['_'].intercalate parts
    ∧ (∀ part ∈ parts, '_' ∉ part)
    ∧ List.Forall₂ IsCapitalized (parts.filter (· ≠ [])) words
    ∧ title = [' '].intercalate words

/-- What holds of the code points of ASCII holds of their characters. -/
theorem forall_ascii {p : Char → Prop} (h : ∀ n < 128, p (Char.ofNat n)) {c : Char}
    (hc : c.toNat < 128) : p c := by
  have hchar := h c.toNat hc
  rwa [Char.ofNat_toNat] at hchar

theorem upperChar_ascii {c : Char} (h : c.toNat < 128) : upperChar c = [c.toUpper] :=
  @forall_ascii (fun c => upperChar c = [c.toUpper]) (by decide +kernel) c h

theorem lowerChar_ascii {c : Char} (h : c.toNat < 128) : lowerChar c = [c.toLower] :=
  @forall_ascii (fun c => lowerChar c = [c.toLower]) (by decide +kernel) c h

theorem flatMap_lowerChar_ascii {text : List Char} (h : ∀ c ∈ text, c.toNat < 128) :
    text.flatMap lowerChar = text.map Char.toLower := by
  induction text with
  | nil => rfl
  | cons c rest ih =>
    obtain ⟨hc, hrest⟩ := List.forall_mem_cons.1 h
    rw [List.flatMap_cons, lowerChar_ascii hc, ih hrest]
    rfl

theorem isCapitalized_capitalize {part : List Char} (hne : part ≠ []) :
    IsCapitalized part (capitalize part) := by
  obtain ⟨c, rest, rfl⟩ := List.exists_cons_of_ne_nil hne
  refine .word rfl fun hascii => ?_
  obtain ⟨hc, hrest⟩ := List.forall_mem_cons.1 hascii
  rw [capitalize, upperChar_ascii hc, flatMap_lowerChar_ascii hrest]
  rfl

theorem isTitle_titleCase (name : List Char) : IsTitle name (titleCase name) := by
  have hparts : (name.splitOn '_').filter (!·.isEmpty) = (name.splitOn '_').filter (· ≠ []) := by
    refine List.filter_congr fun part _ => ?_
    cases part <;> rfl
  refine ⟨name.splitOn '_', _, (List.intercalate_splitOn '_').symm,
    fun part => not_mem_of_mem_splitOn, ?_, rfl⟩
  rw [hparts, List.forall₂_map_right_iff, List.forall₂_same]
  intro part hpart
  exact isCapitalized_capitalize (of_decide_eq_true (List.mem_filter.1 hpart).2)

example : titleCase "VFS__layer".toList = "Vfs Layer".toList := by
  decide +kernel

end RubricScore.Text
