import RubricScore.Proofs.Json.Parts
import RubricScore.Settings

/-!
# Settings and what files say about them

A settings file has an entry for each setting that it sets. Settings that are read from a file are
what its entries are read as, each on its own, and those without an entry are the defaults.

## Main definitions

* `Settings.Key`: the settings, each with its type, its table and its name there;
* `Settings.Source.Has`: the entry that the text of a file has for a setting;
* `Settings.Source.Reads`: what an entry is read as;
* `Settings.Follows`: settings are what the text of a file says and the defaults apart from that.

## Main results

* `Settings.follows_of_decode`: settings follow the text that they are read from.
-/

namespace RubricScore.Settings

open Json (HasField Node Owns Reader)

/-- A setting. -/
inductive Key where
  /-- Endings of the names of files to scan. -/
  | extensions
  /-- Greatest number of files. -/
  | maxFiles
  /-- Greatest number of bytes in a file. -/
  | maxFileBytes
  /-- Components scoring below it get tasks. -/
  | threshold
  /-- File for reports. -/
  | evaluationFile
  /-- File for backlogs. -/
  | tasksFile

namespace Key

/-- The values of a setting. -/
abbrev Value : Key → Type
  | extensions => List String
  | maxFiles => UInt64
  | maxFileBytes => UInt64
  | threshold => Binary64
  | evaluationFile => Path
  | tasksFile => Path

/-- Name of the table that a setting is in. -/
def table : Key → String
  | extensions => "scan"
  | maxFiles => "scan"
  | maxFileBytes => "scan"
  | threshold => "tasks"
  | evaluationFile => "output"
  | tasksFile => "output"

/-- Name of a setting in its table. -/
def name : Key → String
  | extensions => "extensions"
  | maxFiles => "max_files"
  | maxFileBytes => "max_file_bytes"
  | threshold => "threshold"
  | evaluationFile => "evaluation_file"
  | tasksFile => "tasks_file"

/-- Names of the settings in a table, in the order of a list that stands for the table. -/
def namesIn : String → List String
  | "scan" => ["extensions", "max_files", "max_file_bytes"]
  | "tasks" => ["threshold"]
  | "output" => ["evaluation_file", "tasks_file"]
  | _ => []

/-- Names of the tables, in the order of a list that stands for all of them. -/
def tables : List String :=
  ["scan", "tasks", "output"]

/-- The value that an entry in TOML is read as. -/
def ofToml : (key : Key) → Toml.Value → Option key.Value
  | extensions => Toml.Value.strings?
  | maxFiles => Toml.Value.word?
  | maxFileBytes => Toml.Value.word?
  | threshold => Toml.Value.real?
  | evaluationFile => fun entry => entry.string?.map Path.mk
  | tasksFile => fun entry => entry.string?.map Path.mk

/-- The value that an entry in JSON is read as. -/
def ofJson : (key : Key) → Reader key.Value
  | extensions => Json.readList Json.readString
  | maxFiles => Json.readWord "usize"
  | maxFileBytes => Json.readWord "u64"
  | threshold => Json.readReal
  | evaluationFile => readPath
  | tasksFile => readPath

end Key

/-- One of the settings. -/
def get (settings : Settings) : (key : Key) → key.Value
  | .extensions => settings.scan.extensions
  | .maxFiles => settings.scan.maxFiles
  | .maxFileBytes => settings.scan.maxFileBytes
  | .threshold => settings.threshold
  | .evaluationFile => settings.evaluationFile
  | .tasksFile => settings.tasksFile

/-- The settings with given values. -/
def ofKeys (values : (key : Key) → key.Value) : Settings where
  scan := ⟨values .extensions, values .maxFiles, values .maxFileBytes⟩
  threshold := values .threshold
  evaluationFile := values .evaluationFile
  tasksFile := values .tasksFile

namespace Source

/-- What the files consist of. -/
abbrev Entry : Source → Type
  | toml => Toml.Value
  | json => Node

/-- The text of a file has an entry for a setting. -/
def Has : (source : Source) → List Char → Key → source.Entry → Prop
  | toml, text, key, entry =>
    ∃ members table fields, Toml.document? text = some members
      ∧ members.lookup key.table = some table
      ∧ table.fields? (Key.namesIn key.table) = some fields ∧ fields key.name = some entry
  | json, text, key, entry =>
    ∃ document table, Json.IsDocument document text ∧ HasField Key.tables document key.table table
      ∧ HasField (Key.namesIn key.table) table key.name entry

/-- An entry for a setting is read as a value. -/
def Reads : (source : Source) → (key : Key) → source.Entry → key.Value → Prop
  | toml, key, entry, value => key.ofToml entry = some value
  | json, key, entry, value => ∃ room, key.ofJson room entry = .ok value

end Source

/-- The settings are what the entries of a text are read as, each of them on its own, and those
without an entry are the defaults. -/
def Follows (settings : Settings) (source : Source) (text : List Char) : Prop :=
  ∀ key, (∀ entry, source.Has text key entry → source.Reads key entry (settings.get key))
    ∧ ((∀ entry, ¬source.Has text key entry) → settings.get key = default.get key)

/-! ## TOML -/

section Table

open Toml (Value fieldOr)

variable {α : Type}

/-- A path is read as its text. -/
theorem fieldOr_path_eq_some_iff {d path : Path} {entry : Option Value} :
    fieldOr d (fun value => value.string?.map Path.mk) entry = some path
      ↔ fieldOr d.text Value.string? entry = some path.text := by
  cases entry with
  | none => rw [fieldOr, fieldOr, Option.some.injEq, Option.some.injEq, Path.mk.injEq]
  | some value =>
    rw [fieldOr, fieldOr, Option.map_eq_some_iff]
    exact ⟨fun ⟨text, htext, hpath⟩ => hpath ▸ htext, fun h => ⟨path.text, h, rfl⟩⟩

theorem fieldOr_eq_some_iff {d a : α} {read : Value → Option α} {entry : Option Value} :
    fieldOr d read entry = some a
      ↔ (∀ value, entry = some value → read value = some a) ∧ (entry = none → a = d) := by
  cases entry with
  | none => simp [fieldOr, eq_comm]
  | some value => simp [fieldOr]

/-- A setting is read from its table if there is one, and its table from the document if there is
one. -/
theorem follows_of_table (key : Key) (part : α → key.Value) {text : List Char}
    {members : Toml.Members} {read : Value → Option α} {d a : α}
    (hdocument : Toml.document? text = some members)
    (htable : fieldOr d read (members.lookup key.table) = some a)
    (hread : ∀ table, read table = some a → ∃ fields,
      table.fields? (Key.namesIn key.table) = some fields
        ∧ fieldOr (part d) key.ofToml (fields key.name) = some (part a)) :
    (∀ entry, Source.toml.Has text key entry → Source.toml.Reads key entry (part a))
      ∧ ((∀ entry, ¬Source.toml.Has text key entry) → part a = part d) := by
  obtain ⟨hsome, hnone⟩ := fieldOr_eq_some_iff.1 htable
  refine ⟨?_, fun hall => ?_⟩
  · rintro entry ⟨members', table, fields, hmembers, hlookup, hfields, hentry⟩
    obtain rfl := Option.some.inj (hdocument.symm.trans hmembers)
    obtain ⟨fields', hfields', hvalue⟩ := hread table (hsome table hlookup)
    obtain rfl := Option.some.inj (hfields'.symm.trans hfields)
    exact (fieldOr_eq_some_iff.1 hvalue).1 entry hentry
  · cases hlookup : members.lookup key.table with
    | none =>
      -- Without the table all of its settings are the defaults.
      rw [hnone hlookup]
    | some table =>
      obtain ⟨fields, hfields, hvalue⟩ := hread table (hsome table hlookup)
      have hempty : fields key.name = none := Option.eq_none_iff_forall_ne_some.2
        fun entry hentry => hall entry ⟨members, table, fields, hdocument, hlookup, hfields, hentry⟩
      exact (fieldOr_eq_some_iff.1 hvalue).2 hempty

theorem scanOfToml_eq_some_iff {table : Value} {options : ScanOptions} :
    scanOfToml table = some options ↔
      ∃ fields, table.fields? (Key.namesIn "scan") = some fields
        ∧ fieldOr ScanOptions.defaultExtensions Value.strings? (fields "extensions")
          = some options.extensions
        ∧ fieldOr 0 Value.word? (fields "max_files") = some options.maxFiles
        ∧ fieldOr 0 Value.word? (fields "max_file_bytes") = some options.maxFileBytes := by
  simp only [scanOfToml, Option.bind_eq_bind, Option.bind_eq_some_iff, Option.pure_def,
    Option.some.injEq]
  constructor
  · rintro ⟨fields, hfields, extensions, hextensions, files, hfiles, bytes, hbytes, rfl⟩
    exact ⟨fields, hfields, hextensions, hfiles, hbytes⟩
  · rintro ⟨fields, hfields, hextensions, hfiles, hbytes⟩
    exact ⟨fields, hfields, _, hextensions, _, hfiles, _, hbytes, rfl⟩

theorem thresholdOfToml_eq_some_iff {table : Value} {threshold : Binary64} :
    thresholdOfToml table = some threshold ↔
      ∃ fields, table.fields? (Key.namesIn "tasks") = some fields
        ∧ fieldOr defaultThreshold Value.real? (fields "threshold") = some threshold :=
  Option.bind_eq_some_iff

theorem filesOfToml_eq_some_iff {table : Value} {files : Path × Path} :
    filesOfToml table = some files ↔
      ∃ fields, table.fields? (Key.namesIn "output") = some fields
        ∧ fieldOr default.evaluationFile (Key.ofToml .evaluationFile) (fields "evaluation_file")
          = some files.1
        ∧ fieldOr default.tasksFile (Key.ofToml .tasksFile) (fields "tasks_file")
          = some files.2 := by
  have hevaluation : ∀ {entry path},
      fieldOr default.evaluationFile (Key.ofToml .evaluationFile) entry = some path
        ↔ fieldOr default.evaluationFile.text Value.string? entry = some path.text :=
    fieldOr_path_eq_some_iff
  have htasks : ∀ {entry path},
      fieldOr default.tasksFile (Key.ofToml .tasksFile) entry = some path
        ↔ fieldOr default.tasksFile.text Value.string? entry = some path.text :=
    fieldOr_path_eq_some_iff
  simp only [filesOfToml, Option.bind_eq_bind, Option.bind_eq_some_iff, Option.pure_def,
    Option.some.injEq, hevaluation, htasks]
  constructor
  · rintro ⟨fields, hfields, evaluation, hread, tasks, hread', rfl⟩
    exact ⟨fields, hfields, hread, hread'⟩
  · rintro ⟨fields, hfields, hread, hread'⟩
    exact ⟨fields, hfields, _, hread, _, hread', rfl⟩

/-- The files of the settings: that for reports and that for backlogs. -/
def files (settings : Settings) : Path × Path :=
  (settings.evaluationFile, settings.tasksFile)

/-- Settings are read table by table. -/
theorem ofToml_eq_some_iff {text : List Char} {settings : Settings} :
    ofToml text = some settings ↔ ∃ members, Toml.document? text = some members
      ∧ fieldOr default.scan scanOfToml (members.lookup "scan") = some settings.scan
      ∧ fieldOr default.threshold thresholdOfToml (members.lookup "tasks")
        = some settings.threshold
      ∧ fieldOr default.files filesOfToml (members.lookup "output") = some settings.files := by
  simp only [ofToml, Option.bind_eq_bind, Option.bind_eq_some_iff, Option.pure_def,
    Option.some.injEq]
  constructor
  · rintro ⟨members, hdocument, scan, hscan, threshold, hthreshold, files, hfiles, rfl⟩
    exact ⟨members, hdocument, hscan, hthreshold, hfiles⟩
  · rintro ⟨members, hdocument, hscan, hthreshold, hfiles⟩
    exact ⟨members, hdocument, _, hscan, _, hthreshold, _, hfiles, rfl⟩

theorem follows_of_ofToml {text : List Char} {settings : Settings}
    (h : ofToml text = some settings) : settings.Follows .toml text := by
  obtain ⟨members, hdocument, hscan, hthreshold, hfiles⟩ := ofToml_eq_some_iff.1 h
  intro key
  cases key with
  | extensions =>
    refine follows_of_table .extensions ScanOptions.extensions hdocument hscan
      fun table htable => ?_
    obtain ⟨fields, hfields, hvalue, -, -⟩ := scanOfToml_eq_some_iff.1 htable
    exact ⟨fields, hfields, hvalue⟩
  | maxFiles =>
    refine follows_of_table .maxFiles ScanOptions.maxFiles hdocument hscan fun table htable => ?_
    obtain ⟨fields, hfields, -, hvalue, -⟩ := scanOfToml_eq_some_iff.1 htable
    exact ⟨fields, hfields, hvalue⟩
  | maxFileBytes =>
    refine follows_of_table .maxFileBytes ScanOptions.maxFileBytes hdocument hscan
      fun table htable => ?_
    obtain ⟨fields, hfields, -, -, hvalue⟩ := scanOfToml_eq_some_iff.1 htable
    exact ⟨fields, hfields, hvalue⟩
  | threshold =>
    exact follows_of_table .threshold id hdocument hthreshold
      fun table => thresholdOfToml_eq_some_iff.1
  | evaluationFile =>
    refine follows_of_table .evaluationFile Prod.fst hdocument hfiles fun table htable => ?_
    obtain ⟨fields, hfields, hvalue, -⟩ := filesOfToml_eq_some_iff.1 htable
    exact ⟨fields, hfields, hvalue⟩
  | tasksFile =>
    refine follows_of_table .tasksFile Prod.snd hdocument hfiles fun table htable => ?_
    obtain ⟨fields, hfields, -, hvalue⟩ := filesOfToml_eq_some_iff.1 htable
    exact ⟨fields, hfields, hvalue⟩

end Table

/-! ## JSON -/

section Document

theorem owns_scanShape :
    Owns scanShape.fields "extensions" (Key.ofJson .extensions) ScanOptions.extensions
      ∧ Owns scanShape.fields "max_files" (Key.ofJson .maxFiles) ScanOptions.maxFiles
      ∧ Owns scanShape.fields "max_file_bytes" (Key.ofJson .maxFileBytes)
        ScanOptions.maxFileBytes := by
  refine ⟨Json.owns_field [] [_, _] rfl (by decide) (fun _ _ => rfl) ?_,
    Json.owns_field [_] [_] rfl (by decide) (fun _ _ => rfl) ?_,
    Json.owns_field [_, _] [] rfl (by decide) (fun _ _ => rfl) ?_⟩
  -- Each of the fields spares the parts of the other two.
  all_goals
    simp only [List.nil_append, List.append_nil, List.cons_append, List.forall_mem_cons]
    refine ⟨Json.spares_field ?_, Json.spares_field ?_, nofun⟩ <;> exact fun _ _ => rfl

theorem owns_tasksShape : Owns tasksShape.fields "threshold" (Key.ofJson .threshold) id :=
  Json.owns_field [] [] rfl (by decide) (fun _ _ => rfl) nofun

theorem owns_outputShape :
    Owns outputShape.fields "evaluation_file" (Key.ofJson .evaluationFile) Prod.fst
      ∧ Owns outputShape.fields "tasks_file" (Key.ofJson .tasksFile) Prod.snd := by
  refine ⟨Json.owns_field [] [_] rfl (by decide) (fun _ _ => rfl) ?_,
    Json.owns_field [_] [] rfl (by decide) (fun _ _ => rfl) ?_⟩
  all_goals
    simp only [List.nil_append, List.append_nil, List.forall_mem_cons]
    refine ⟨Json.spares_field ?_, nofun⟩
    exact fun _ _ => rfl

theorem owns_shape :
    Owns shape.fields "scan" (Json.readRecord scanShape) scan
      ∧ Owns shape.fields "tasks" (Json.readRecord tasksShape) threshold
      ∧ Owns shape.fields "output" (Json.readRecord outputShape) files := by
  refine ⟨Json.owns_field [] [_, _] rfl (by decide) (fun _ _ => rfl) ?_,
    Json.owns_field [_] [_] rfl (by decide) (fun _ _ => rfl) ?_,
    Json.owns_field [_, _] [] rfl (by decide) (fun _ _ => rfl) ?_⟩
  all_goals
    simp only [List.nil_append, List.append_nil, List.cons_append, List.forall_mem_cons]
    refine ⟨Json.spares_field ?_, Json.spares_field ?_, nofun⟩ <;> exact fun _ _ => rfl

/-- A setting is read from its table if there is one, and its table from the document if there is
one. -/
theorem follows_of_record {α : Type} (key : Key) (part : α → key.Value) {text : List Char}
    {document : Node} {settings : Settings} {record : Json.Shape α} {whole : Settings → α}
    (hdocument : Json.IsDocument document text)
    (hread : Json.readRecord shape Json.depthLimit document = .ok settings)
    (htable : Owns shape.fields key.table (Json.readRecord record) whole)
    (hfield : Owns record.fields key.name key.ofJson part)
    (hnames : record.fields.map Json.Field.name = Key.namesIn key.table)
    (hblank : record.blank = whole default) :
    (∀ entry, Source.json.Has text key entry → Source.json.Reads key entry (part (whole settings)))
      ∧ ((∀ entry, ¬Source.json.Has text key entry) →
        part (whole settings) = part (whole default)) := by
  obtain ⟨hsome, hnone⟩ := htable.readRecord hread
  refine ⟨?_, fun hall => ?_⟩
  · rintro entry ⟨document', table, hdocument', hin, hentry⟩
    obtain rfl := hdocument.eq hdocument'
    obtain ⟨room, hrecord⟩ := hsome table hin
    rw [← hnames] at hentry
    exact (hfield.readRecord hrecord).1 entry hentry
  · by_cases hin : ∃ table, HasField Key.tables document key.table table
    · obtain ⟨table, hin⟩ := hin
      obtain ⟨room, hrecord⟩ := hsome table hin
      rw [← hblank]
      refine (hfield.readRecord hrecord).2 fun entry hentry => ?_
      rw [hnames] at hentry
      exact hall entry ⟨document, table, hdocument, hin, hentry⟩
    · -- Without the table all of its settings are the defaults.
      exact congrArg part (hnone fun table htable => hin ⟨table, htable⟩)

theorem follows_of_ofJson {text : List Char} {settings : Settings}
    (h : ofJson text = .ok settings) : settings.Follows .json text := by
  obtain ⟨document, hdocument, hread⟩ := Json.decode_readRecord_eq_ok_iff.1 h
  obtain ⟨hscan, htasks, houtput⟩ := owns_shape
  obtain ⟨hextensions, hfiles, hbytes⟩ := owns_scanShape
  obtain ⟨hevaluation, hbacklog⟩ := owns_outputShape
  intro key
  cases key with
  | extensions => exact follows_of_record .extensions _ hdocument hread hscan hextensions rfl rfl
  | maxFiles => exact follows_of_record .maxFiles _ hdocument hread hscan hfiles rfl rfl
  | maxFileBytes => exact follows_of_record .maxFileBytes _ hdocument hread hscan hbytes rfl rfl
  | threshold => exact follows_of_record .threshold _ hdocument hread htasks owns_tasksShape rfl rfl
  | evaluationFile =>
    exact follows_of_record .evaluationFile _ hdocument hread houtput hevaluation rfl rfl
  | tasksFile => exact follows_of_record .tasksFile _ hdocument hread houtput hbacklog rfl rfl

end Document

theorem decode_toml_eq_ok_iff {text : List Char} {settings : Settings} :
    Source.toml.decode text = .ok settings ↔ ofToml text = some settings := by
  rw [Source.decode]
  cases ofToml text <;> simp

/-- Settings follow the text that they are read from. -/
theorem follows_of_decode {source : Source} {text : List Char} {settings : Settings}
    (h : source.decode text = .ok settings) : settings.Follows source text := by
  cases source with
  | toml => exact follows_of_ofToml (decode_toml_eq_ok_iff.1 h)
  | json => exact follows_of_ofJson (mapError_eq_ok_iff.1 h)

end RubricScore.Settings
