import Mathlib.Data.List.Forall2
import Mathlib.Logic.Relation
import RubricScore.Proofs.Collection.Exactness
import RubricScore.Proofs.Text.Class

/-!
# Extensions in normal form

An extension may be written with or without its dot and with any white space around it. All of these
spellings have one normal form, and so the same file names are accepted, whichever of them the
settings or the arguments have.

## Main definitions

* `ScanOptions.IsExtension`: an extension in normal form;
* `ScanOptions.IsNamed`: an entry of a list that is not left out;
* `ScanOptions.Respells`, `ScanOptions.SameExtension`: spellings of one extension.

## Main results

* `ScanOptions.normalizeExtension_eq_self`: what is in normal form stays as it is;
* `ScanOptions.SameExtension.normalizeExtension_eq`: spellings of one extension have one normal form;
* `ScanOptions.extensions_normal_form`: all of this for lists of extensions.
-/

namespace RubricScore.ScanOptions

/-- An extension in normal form: a dot, then something, without white space at the ends. -/
structure IsExtension (extension : String) : Prop where
  /-- A dot stands first. -/
  dotted : extension.toList.head? = some '.'
  /-- Something follows it. -/
  longer : 1 < extension.toList.length
  /-- No white space stands at either end. -/
  trimmed : Text.IsTrimmed extension.toList

/-- An entry that is something besides white space and a lone dot. -/
def IsNamed (entry : String) : Prop :=
  Text.trim entry.toList ≠ [] ∧ Text.trim entry.toList ≠ ['.']

instance : DecidablePred IsNamed :=
  fun _ => inferInstanceAs (Decidable (_ ∧ _))

/-- The second entry is the first one written in another way. -/
inductive Respells : String → String → Prop
  /-- The dot that is missing in front of the trimmed entry is written. -/
  | dotted {entry : String} (hsome : Text.trim entry.toList ≠ [])
    (hmissing : (Text.trim entry.toList).head? ≠ some '.') :
    Respells entry ("." ++ String.ofList (Text.trim entry.toList))
  /-- White space stands around the entry. -/
  | padded {entry front back : String} (hfront : ∀ c ∈ front.toList, Text.isSpace c)
    (hback : ∀ c ∈ back.toList, Text.isSpace c) : Respells entry (front ++ entry ++ back)

/-- Two entries can be respelled to each other, in any number of steps. -/
abbrev SameExtension : String → String → Prop :=
  Relation.EqvGen Respells

section Normalization

variable {entry : String}

theorem isTrimmed_cons_dot {text : List Char} (h : Text.IsTrimmed text) :
    Text.IsTrimmed ('.' :: text) where
  front c hc := by
    obtain rfl := Option.some.inj hc
    decide
  back c hc := by
    cases hlast : text.getLast? with
    | none =>
      rw [List.getLast?_cons, hlast] at hc
      obtain rfl := Option.some.inj hc
      decide
    | some last =>
      rw [List.getLast?_cons, hlast] at hc
      obtain rfl := Option.some.inj hc
      exact h.back last hlast

/-- A normal form begins with a dot. -/
theorem head?_normalizeExtension : (normalizeExtension entry).toList.head? = some '.' := by
  rw [normalizeExtension, String.toList_ofList]
  split
  · assumption
  · rfl

theorem isTrimmed_normalizeExtension : Text.IsTrimmed (normalizeExtension entry).toList := by
  rw [normalizeExtension, String.toList_ofList]
  split
  · exact Text.isTrimmed_trim entry.toList
  · exact isTrimmed_cons_dot (Text.isTrimmed_trim entry.toList)

/-- Nothing is left but a dot of an entry that is white space or a dot among white space. -/
theorem normalizeExtension_eq_dot_iff : normalizeExtension entry = "." ↔ ¬ IsNamed entry := by
  rw [← String.toList_inj, normalizeExtension, String.toList_ofList, IsNamed]
  have hdot : ".".toList = ['.'] := rfl
  rw [hdot]
  split
  · next h =>
    have hsome : Text.trim entry.toList ≠ [] := fun hnil => by simp [hnil] at h
    tauto
  · next h =>
    have hother : Text.trim entry.toList ≠ ['.'] := fun heq => h (by rw [heq]; rfl)
    rw [List.cons.injEq]
    tauto

/-- The normal form of an entry that is not left out. -/
theorem isExtension_normalizeExtension (h : normalizeExtension entry ≠ ".") :
    IsExtension (normalizeExtension entry) where
  dotted := head?_normalizeExtension
  longer := by
    have hhead : (normalizeExtension entry).toList.head? = some '.' := head?_normalizeExtension
    obtain ⟨rest, hrest⟩ := List.head?_eq_some_iff.1 hhead
    have hsome : rest ≠ [] := by
      rintro rfl
      exact h (String.toList_inj.1 hrest)
    rw [hrest, List.length_cons]
    exact Nat.succ_lt_succ (List.length_pos_iff.2 hsome)
  trimmed := isTrimmed_normalizeExtension

/-- What is in normal form stays as it is. -/
theorem normalizeExtension_eq_self (h : IsExtension entry) : normalizeExtension entry = entry := by
  rw [normalizeExtension, Text.trim_eq_self h.trimmed, if_pos h.dotted, String.ofList_toList]

/-- Another spelling has the same normal form. -/
theorem Respells.normalizeExtension_eq {entry' : String} (h : Respells entry entry') :
    normalizeExtension entry' = normalizeExtension entry := by
  cases h with
  | dotted hsome hmissing =>
    have htext : ("." ++ String.ofList (Text.trim entry.toList)).toList
        = '.' :: Text.trim entry.toList := by
      rw [String.toList_append, String.toList_ofList, String.toList_ofList, List.singleton_append]
    have htrim : Text.trim ('.' :: Text.trim entry.toList) = '.' :: Text.trim entry.toList :=
      Text.trim_eq_self (isTrimmed_cons_dot (Text.isTrimmed_trim entry.toList))
    rw [normalizeExtension, htext, htrim, if_pos List.head?_cons, normalizeExtension,
      if_neg hmissing]
  | padded hfront hback =>
    rw [normalizeExtension, String.toList_append, String.toList_append,
      Text.trim_padded hfront hback, normalizeExtension]

/-- Spellings of one extension have one normal form. -/
theorem SameExtension.normalizeExtension_eq {entry' : String} (h : SameExtension entry entry') :
    normalizeExtension entry' = normalizeExtension entry := by
  induction h with
  | rel _ _ h => exact h.normalizeExtension_eq
  | refl => rfl
  | symm _ _ _ ih => exact ih.symm
  | trans _ _ _ _ _ ih ih' => exact ih'.trans ih

/-- The normal form is a spelling of the entry, unless there is nothing but white space. -/
theorem sameExtension_normalizeExtension (h : IsNamed entry) :
    SameExtension entry (normalizeExtension entry) := by
  rw [normalizeExtension]
  split
  · -- The dot is there, so only white space is taken away.
    obtain ⟨front, back, htext, hfront, hback⟩ := Text.exists_trim entry.toList
    have hentry : entry = String.ofList front ++ String.ofList (Text.trim entry.toList)
        ++ String.ofList back := by
      rw [← String.toList_inj, String.toList_append, String.toList_append, String.toList_ofList,
        String.toList_ofList, String.toList_ofList, ← htext]
    refine .symm _ _ (.rel _ _ ?_)
    conv_rhs => rw [hentry]
    refine .padded ?_ ?_
    · rwa [String.toList_ofList]
    · rwa [String.toList_ofList]
  · next hmissing =>
    have hdotted : String.ofList ('.' :: Text.trim entry.toList)
        = "." ++ String.ofList (Text.trim entry.toList) := by
      rw [← String.toList_inj, String.toList_append, String.toList_ofList, String.toList_ofList,
        String.toList_ofList, List.singleton_append]
    rw [hdotted]
    exact .rel _ _ (.dotted h.1 hmissing)

end Normalization

section Lists

variable {entries entries' : List String}

theorem isExtension_of_mem {extension : String} (h : extension ∈ normalizeExtensions entries) :
    IsExtension extension := by
  obtain ⟨hin, hdot⟩ := List.mem_filter.1 h
  obtain ⟨entry, -, rfl⟩ := List.mem_map.1 hin
  exact isExtension_normalizeExtension (by simpa using hdot)

/-- A list of extensions in normal form stays as it is. -/
theorem normalizeExtensions_eq_self (h : ∀ extension ∈ entries, IsExtension extension) :
    normalizeExtensions entries = entries := by
  have hmap : entries.map normalizeExtension = entries :=
    List.map_congr_left (fun entry hin => normalizeExtension_eq_self (h entry hin))
      |>.trans (List.map_id entries)
  rw [normalizeExtensions, hmap, List.filter_eq_self]
  intro extension hin
  have hlonger := (h extension hin).longer
  refine decide_eq_true fun hdot => ?_
  rw [hdot] at hlonger
  exact absurd hlonger (by decide)

/-- Lists with the same extensions in other spellings have one normal form. -/
theorem normalizeExtensions_congr (h : List.Forall₂ SameExtension entries entries') :
    normalizeExtensions entries' = normalizeExtensions entries := by
  have hmap : entries'.map normalizeExtension = entries.map normalizeExtension := by
    induction h with
    | nil => rfl
    | cons hentry _ ih => rw [List.map_cons, List.map_cons, hentry.normalizeExtension_eq, ih]
  rw [normalizeExtensions, hmap, normalizeExtensions]

/-- The normal forms stand in the places of the entries that are kept. -/
theorem forall₂_normalizeExtensions (entries : List String) :
    List.Forall₂ SameExtension (entries.filter (IsNamed ·)) (normalizeExtensions entries) := by
  have hkept : normalizeExtensions entries
      = (entries.filter (IsNamed ·)).map normalizeExtension := by
    rw [normalizeExtensions, List.filter_map]
    congr 1
    refine List.filter_congr fun entry _ => decide_eq_decide.2 ?_
    rw [ne_eq, normalizeExtension_eq_dot_iff, not_not]
  rw [hkept, List.forall₂_map_right_iff, List.forall₂_same]
  exact fun entry hin => sameExtension_normalizeExtension (by simpa using (List.mem_filter.1 hin).2)

end Lists

/-- Extensions have a normal form. It begins with a dot, goes on and has no white space at its ends;
normalizing again changes nothing; the list has one for every entry that is not left out, in the
order of the entries; and other spellings of the entries give the same list, so that the same file
names are accepted. -/
theorem extensions_normal_form (options : ScanOptions) (entries : List String) :
    let normal := options.withExtensions entries
    (∀ extension ∈ normal.extensions, IsExtension extension)
      ∧ options.withExtensions normal.extensions = normal
      ∧ normal.normalized = normal
      ∧ List.Forall₂ SameExtension (entries.filter (IsNamed ·)) normal.extensions
      ∧ ∀ entries', List.Forall₂ SameExtension entries entries' →
        options.withExtensions entries' = normal
          ∧ ∀ name, (options.withExtensions entries').accepts name = normal.accepts name := by
  intro normal
  have hextensions : ∀ extension ∈ normal.extensions, IsExtension extension :=
    fun _ hin => isExtension_of_mem hin
  have hagain : normalizeExtensions normal.extensions = normal.extensions :=
    normalizeExtensions_eq_self hextensions
  refine ⟨hextensions, congrArg (ScanOptions.mk · _ _) hagain, congrArg (ScanOptions.mk · _ _) hagain,
    forall₂_normalizeExtensions entries, fun entries' hsame => ?_⟩
  have hlist : options.withExtensions entries' = normal :=
    congrArg (ScanOptions.mk · _ _) (normalizeExtensions_congr hsame)
  exact ⟨hlist, fun name => by rw [hlist]⟩

/-- A tab behind an extension, a dot that is missing and a wider blank make no difference. -/
theorem extensions_normal_form_spellings :
    let normal := ScanOptions.default.withExtensions [".c", "S", " "]
    ".c" ∈ normal.extensions ∧ IsExtension ".c"
      ∧ List.Forall₂ SameExtension [".c", "S", " "] [".c\t", ".S", " \u3000"]
      ∧ ScanOptions.default.withExtensions [".c\t", ".S", " \u3000"] = normal
      ∧ (ScanOptions.default.withExtensions [".c\t", ".S", " \u3000"]).accepts "boot.S"
        = normal.accepts "boot.S" := by
  intro normal
  have hmem : ".c" ∈ normal.extensions := by decide
  have htab : Respells ".c" ("" ++ ".c" ++ "\t") :=
    .padded (List.forall_mem_nil _) (List.forall_mem_singleton.2 (by decide))
  have hdot : Respells "S" ("." ++ String.ofList (Text.trim "S".toList)) :=
    .dotted (by decide) (by decide)
  have hblank : Respells " " ("" ++ " " ++ "\u3000") :=
    .padded (List.forall_mem_nil _) (List.forall_mem_singleton.2 (by decide))
  have hsame : List.Forall₂ SameExtension [".c", "S", " "] [".c\t", ".S", " \u3000"] :=
    .cons (.rel _ _ htab) (.cons (.rel _ _ hdot) (.cons (.rel _ _ hblank) .nil))
  obtain ⟨hextensions, -, -, -, hspellings⟩ :=
    extensions_normal_form ScanOptions.default [".c", "S", " "]
  obtain ⟨hlist, haccepts⟩ := hspellings _ hsame
  exact ⟨hmem, hextensions ".c" hmem, hsame, hlist, haccepts "boot.S"⟩

end RubricScore.ScanOptions
