import RubricScore.Proofs.Settings.Keys
import RubricScore.Proofs.Toml.Sheet

/-!
# Settings on sheets

A settings file in TOML that is laid out as a sheet provides settings just when no name is used
twice in it and every entry for a setting has a value of the right kind. A setting is then what its
entry says, or the default if there is no entry; whatever else stands on the sheet does not count.

## Main definitions

* `Settings.Key.Says`: an entry says that a setting has a value;
* `Settings.SaidBy`: settings are what a sheet says.

## Main results

* `Settings.ofToml_sheet_iff`: the settings that are read from a sheet;
* `Settings.ofToml_starterText`: the file that a project starts with says what the defaults are.
-/

namespace RubricScore

open Toml (IsAtom IsInteger IsScalar IsValue Sheet Value fieldOr)

/-- The entry of a table on a sheet that has a name. -/
def Toml.Sheet.entry? (sheet : Sheet) (table name : String) : Option Value :=
  (sheet.tables.lookup table).bind fun entries => entries.lookup name

namespace Settings

/-- An entry says that a setting has a value. A threshold may be an integer, which stands for the
nearest number. -/
def Key.Says : (key : Key) → Toml.Value → key.Value → Prop
  | .extensions, entry, endings => entry = .array (endings.map .string)
  | .maxFiles, entry, limit => entry = .integer limit.toNat
  | .maxFileBytes, entry, limit => entry = .integer limit.toNat
  | .threshold, entry, x =>
    entry = .real x ∨ ∃ n : Int, entry = .integer n ∧ x = .ofDecimal (n < 0) n.natAbs 0
  | .evaluationFile, entry, path => entry = .string path.text
  | .tasksFile, entry, path => entry = .string path.text

/-- Each setting is what its entry on a sheet says, or the default if it has no entry. -/
def SaidBy (settings : Settings) (sheet : Sheet) : Prop :=
  ∀ key : Key,
    (∀ entry, sheet.entry? key.table key.name = some entry → key.Says entry (settings.get key))
      ∧ (sheet.entry? key.table key.name = none → settings.get key = default.get key)

/-! ## Entries -/

theorem mapM_string?_eq_some_iff {items : List Value} {texts : List String} :
    items.mapM Value.string? = some texts ↔ items = texts.map .string := by
  induction items generalizing texts with
  | nil => simp [eq_comm]
  | cons item items ih =>
    rw [List.mapM_cons]
    simp only [Option.bind_eq_bind, Option.bind_eq_some_iff, Option.pure_def, Option.some.injEq]
    constructor
    · rintro ⟨text, htext, rest, hrest, rfl⟩
      rw [ih.1 hrest]
      cases item with
      | string =>
        obtain rfl := Option.some.inj htext
        rfl
      | _ => cases htext
    · intro h
      cases texts with
      | nil => cases h
      | cons text texts =>
        obtain ⟨rfl, hrest⟩ := List.cons.inj h
        exact ⟨text, rfl, texts, ih.2 hrest, rfl⟩

theorem strings?_eq_some_iff {entry : Value} {texts : List String}
    (h : ∀ items, entry ≠ .tables items) :
    entry.strings? = some texts ↔ entry = .array (texts.map .string) := by
  cases entry with
  | array items => rw [Value.strings?, mapM_string?_eq_some_iff, Value.array.injEq]
  | tables items => exact absurd rfl (h items)
  | _ => exact iff_of_false nofun nofun

/-- The integers of entries are not too large for words. -/
theorem word?_eq_some_iff {entry : Value} {w : UInt64}
    (h : ∀ n, entry = .integer n → n ≤ Int64.maxValue.toInt) :
    entry.word? = some w ↔ entry = .integer w.toNat := by
  cases entry with
  | integer n =>
    have hmax : n < UInt64.size := (h n rfl).trans_lt (by decide)
    rw [Value.word?, Value.integer.injEq]
    constructor
    · intro hword
      split at hword
      · next hpos =>
        rw [← Option.some.inj hword, UInt64.toNat_ofNat_of_lt' (by omega), Int.toNat_of_nonneg hpos]
      · cases hword
    · rintro rfl
      rw [if_pos (Int.natCast_nonneg _), Int.toNat_natCast, UInt64.ofNat_toNat]
  | _ => exact iff_of_false nofun nofun

/-- Rounding an integer is reading its digits. -/
theorem ofRatio_natAbs (n : Int) :
    Binary64.ofRatio (decide (n < 0)) (n.natAbs * Binary64.one) 1
      = .ofDecimal (n < 0) n.natAbs 0 := by
  show _ = if n.natAbs = 0 then _ else if 400 < 0 then _ else _
  split
  · next hzero =>
    obtain rfl := Int.natAbs_eq_zero.1 hzero
    decide +kernel
  · rw [if_neg (by decide), Nat.pow_eq, Nat.pow_zero, Nat.mul_one]

theorem real?_eq_some_iff {entry : Value} {x : Binary64} :
    entry.real? = some x
      ↔ entry = .real x ∨ ∃ n : Int, entry = .integer n ∧ x = .ofDecimal (n < 0) n.natAbs 0 := by
  cases entry with
  | real y => simp [Value.real?]
  | integer n =>
    have hvalue : Binary64.ofRatio (decide (n < 0)) (n.natAbs * Binary64.one) 1
        = .ofDecimal (n < 0) n.natAbs 0 :=
      ofRatio_natAbs n
    simp [Value.real?, hvalue, eq_comm]
  | _ => simp [Value.real?]

theorem string?_eq_some_iff {entry : Value} {path : Path} :
    entry.string?.map Path.mk = some path ↔ entry = .string path.text := by
  cases entry with
  | string text => simp [Value.string?, ← Path.mk.injEq]
  | _ => exact iff_of_false nofun nofun

/-- What an entry with a text is read as is what it says. -/
theorem Key.ofToml_eq_some_iff {key : Key} {entry : Toml.Value} {value : key.Value} {room : Nat}
    {own : List Char} (h : IsValue room entry own) :
    key.ofToml entry = some value ↔ key.Says entry value := by
  have htables : ∀ items, entry ≠ .tables items := by
    rintro items rfl
    rcases h.isAtom_or with (- | ⟨⟨⟩⟩) | ⟨_, heq⟩
    cases heq
  have hwords : ∀ n, entry = .integer n → n ≤ Int64.maxValue.toInt := by
    rintro n rfl
    rcases h.isAtom_or with (- | ⟨hinteger⟩) | ⟨_, heq⟩
    · obtain ⟨-, -, -, hgreatest⟩ := hinteger
      exact hgreatest
    · cases heq
  cases key with
  | extensions => exact strings?_eq_some_iff htables
  | maxFiles => exact word?_eq_some_iff hwords
  | maxFileBytes => exact word?_eq_some_iff hwords
  | threshold => exact real?_eq_some_iff
  | evaluationFile => exact string?_eq_some_iff
  | tasksFile => exact string?_eq_some_iff

/-! ## Sheets -/

section Sheets

variable {sheet : Sheet} {text : List Char}

/-- What stands under the name of a table, if no other entry does. -/
theorem lookup_members {name : String} (hname : name ∉ sheet.top.map Prod.fst) :
    sheet.members.lookup name = (sheet.tables.lookup name).map (.table .header) := by
  rw [Sheet.members, List.lookup_append, OrderedMap.lookup_eq_none_iff_not_mem.2 hname,
    Option.none_or]
  induction sheet.tables with
  | nil => rfl
  | cons table rest ih =>
    rw [List.map_cons, List.lookup_cons, List.lookup_cons, ih]
    cases name == table.1 <;> rfl

/-- A table of a sheet is read from its entries, and one that is not there as one without any. -/
theorem fieldOr_table_iff {α : Type} {d a : α} {read : Toml.Value → Option α} {name : String}
    {names : List String} {reads : (String → Option Toml.Value) → Prop}
    (hname : name ∉ sheet.top.map Prod.fst)
    (hread : ∀ table, read table = some a
      ↔ ∃ fields, table.fields? names = some fields ∧ reads fields)
    (hdefault : reads (fun _ => none) ↔ d = a) :
    fieldOr d read (sheet.members.lookup name) = some a ↔ reads (sheet.entry? name) := by
  rw [lookup_members hname]
  unfold Sheet.entry?
  cases sheet.tables.lookup name with
  | none => exact Option.some_inj.trans hdefault.symm
  | some entries =>
    refine (hread _).trans ⟨?_, fun h => ⟨_, rfl, h⟩⟩
    rintro ⟨fields, hfields, hreads⟩
    obtain rfl := Option.some.inj hfields
    exact hreads

/-- Settings are read from a sheet entry by entry. -/
theorem ofToml_eq_some_iff_of_sheet {settings : Settings} (h : sheet.SpelledBy text)
    (htop : ∀ name ∈ Key.tables, name ∉ sheet.top.map Prod.fst) :
    ofToml text = some settings ↔ sheet.IsDistinct ∧ ∀ key : Key,
      fieldOr (default.get key) key.ofToml (sheet.entry? key.table key.name)
        = some (settings.get key) := by
  let Reads (key : Key) : Prop :=
    fieldOr (default.get key) key.ofToml (sheet.entry? key.table key.name) = some (settings.get key)
  -- A table is read just when each of its settings is.
  have hscan : fieldOr default.scan scanOfToml (sheet.members.lookup "scan") = some settings.scan
      ↔ Reads .extensions ∧ Reads .maxFiles ∧ Reads .maxFileBytes := by
    refine fieldOr_table_iff (htop "scan" (by decide)) (fun _ => scanOfToml_eq_some_iff) ?_
    simp only [fieldOr, Option.some.injEq]
    exact ScanOptions.mk.injEq _ _ _ _ _ _ ▸ Iff.rfl
  have hthreshold : fieldOr default.threshold thresholdOfToml (sheet.members.lookup "tasks")
      = some settings.threshold ↔ Reads .threshold :=
    fieldOr_table_iff (htop "tasks" (by decide)) (fun _ => thresholdOfToml_eq_some_iff)
      Option.some_inj
  have hfiles : fieldOr default.files filesOfToml (sheet.members.lookup "output")
      = some settings.files ↔ Reads .evaluationFile ∧ Reads .tasksFile := by
    refine fieldOr_table_iff (htop "output" (by decide)) (fun _ => filesOfToml_eq_some_iff) ?_
    simp only [fieldOr, Option.some.injEq]
    exact Prod.mk.injEq _ _ _ _ ▸ Iff.rfl
  rw [ofToml_eq_some_iff]
  constructor
  · rintro ⟨members, hdocument, hreads⟩
    obtain ⟨hdistinct, rfl⟩ := (Sheet.document?_eq_some_iff h).1 hdocument
    rw [hscan, hthreshold, hfiles] at hreads
    obtain ⟨⟨hextensions, hmax, hbytes⟩, htasks, hevaluation, hbacklog⟩ := hreads
    refine ⟨hdistinct, fun key => ?_⟩
    cases key with
    | extensions => exact hextensions
    | maxFiles => exact hmax
    | maxFileBytes => exact hbytes
    | threshold => exact htasks
    | evaluationFile => exact hevaluation
    | tasksFile => exact hbacklog
  · rintro ⟨hdistinct, hreads⟩
    refine ⟨sheet.members, (Sheet.document?_eq_some_iff h).2 ⟨hdistinct, rfl⟩, ?_⟩
    rw [hscan, hthreshold, hfiles]
    exact ⟨⟨hreads .extensions, hreads .maxFiles, hreads .maxFileBytes⟩, hreads .threshold,
      hreads .evaluationFile, hreads .tasksFile⟩

/-- An entry of a sheet has a text. -/
theorem exists_own_of_entry? (h : sheet.SpelledBy text) {table name : String} {entry : Toml.Value}
    (hentry : sheet.entry? table name = some entry) :
    ∃ own, IsValue (Toml.depthLimit - 1) entry own := by
  obtain ⟨entries, htable, hname⟩ := Option.bind_eq_some_iff.1 hentry
  obtain ⟨front, back, htables, -⟩ := List.lookup_eq_some_iff.1 htable
  obtain ⟨front', back', rfl, -⟩ := List.lookup_eq_some_iff.1 hname
  exact h.exists_own.2 _ (htables ▸ List.mem_append_right _ List.mem_cons_self) _
    (List.mem_append_right _ List.mem_cons_self)

/-- The settings that are read from a sheet on which the names of their tables stand for tables are
what the sheet says, and nothing is read from a sheet on which a name stands twice in one place. -/
theorem ofToml_sheet_iff {settings : Settings} (h : sheet.SpelledBy text)
    (htop : ∀ name ∈ Key.tables, name ∉ sheet.top.map Prod.fst) :
    ofToml text = some settings ↔ sheet.IsDistinct ∧ settings.SaidBy sheet := by
  rw [ofToml_eq_some_iff_of_sheet h htop]
  refine and_congr_right fun _ => forall_congr' fun key => ?_
  rw [fieldOr_eq_some_iff]
  refine and_congr_left fun _ => forall_congr' fun entry => imp_congr_right fun hentry => ?_
  obtain ⟨own, hown⟩ := exists_own_of_entry? h hentry
  exact key.ofToml_eq_some_iff hown

end Sheets

/-- The file that a project starts with says what the defaults are. -/
theorem ofToml_starterText : ofToml starterText.toList = some default := by
  rw [starterText, String.toList_intercalate]
  decide +kernel

end Settings

end RubricScore
