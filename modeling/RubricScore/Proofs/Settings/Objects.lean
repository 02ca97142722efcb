import RubricScore.Proofs.Json.Acceptance
import RubricScore.Proofs.Settings.Keys

/-!
# Settings in objects

A settings file in JSON with an object for each of its tables provides settings just when no table
and no setting stands twice in it and every entry for a setting has a value of the right kind. A
setting is then what its entry says, or the default if there is no entry; whatever else stands in
the objects does not count.

## Main definitions

* `Settings.Key.IsSetBy`: an entry sets a setting to a value;
* `Settings.IsLaidOutIn`: a text is laid out in objects;
* `Settings.IsDistinctIn`, `Settings.SetBy`: what has to hold of the objects, and what they say.

## Main results

* `Settings.ofJson_eq_ok_iff`: the settings that are read from objects.
-/

namespace RubricScore.Settings

open Json (Distinguishes HasField IsDocument Node Quoted Shape)

/-- An entry sets a setting to a value. A threshold may be any number. -/
def Key.IsSetBy : (key : Key) → Node → key.Value → Prop
  | .extensions, entry, endings =>
    ∃ items, entry = .array items none ∧ List.Forall₂ Node.IsText items endings
  | .maxFiles, entry, limit => entry.IsWord limit
  | .maxFileBytes, entry, limit => entry.IsWord limit
  | .threshold, entry, x => entry.IsReal x
  | .evaluationFile, entry, path => entry.IsText path.text
  | .tasksFile, entry, path => entry.IsText path.text

/-- A text is that of an object with the given members, in which the tables are objects. -/
structure IsLaidOutIn (members : List (Quoted × Node)) (text : List Char) : Prop where
  /-- The text is a document of the object. -/
  document : IsDocument (.object members none) text
  /-- Under the name of a table stands an object. -/
  tables : ∀ table ∈ Key.tables, ∀ node, HasField Key.tables (.object members none) table node →
    ∃ entries, node = .object entries none

/-- No table stands twice among the members, and no setting twice in its table. -/
structure IsDistinctIn (members : List (Quoted × Node)) : Prop where
  /-- The tables are told apart. -/
  tables : Distinguishes Key.tables members
  /-- In each of them, so are the settings. -/
  settings : ∀ table ∈ Key.tables, ∀ entries,
    HasField Key.tables (.object members none) table (.object entries none) →
      Distinguishes (Key.namesIn table) entries

/-- Among the members, an entry stands for a setting. -/
def Key.StandsIn (key : Key) (members : List (Quoted × Node)) (entry : Node) : Prop :=
  ∃ table, HasField Key.tables (.object members none) key.table table
    ∧ HasField (Key.namesIn key.table) table key.name entry

/-- Each setting is what its entry sets it to, or the default if it has no entry. -/
def SetBy (settings : Settings) (members : List (Quoted × Node)) : Prop :=
  ∀ key : Key,
    (∀ entry, key.StandsIn members entry → key.IsSetBy entry (settings.get key))
      ∧ ((∀ entry, ¬key.StandsIn members entry) → settings.get key = default.get key)

/-! ## Entries -/

theorem readPath_eq_ok_iff {room : Nat} {entry : Node} {path : Path} :
    readPath room entry = .ok path ↔ entry.IsText path.text := by
  rw [readPath, map_eq_ok_iff]
  simp only [Json.readText_eq_ok_iff]
  exact ⟨fun ⟨text, htext, hpath⟩ => hpath ▸ htext, fun h => ⟨path.text, h, rfl⟩⟩

/-- What an entry with a text is read as it sets its setting to. -/
theorem Key.isSetBy_of_ofJson {key : Key} {entry : Node} {value : key.Value} {room : Nat}
    (htext : entry.HasText) (h : key.ofJson room entry = .ok value) : key.IsSetBy entry value := by
  cases key with
  | extensions =>
    obtain ⟨inner, items, -, rfl, hitems⟩ := Json.readList_eq_ok_iff.1 h
    exact ⟨items, rfl, hitems.imp fun _ _ => Json.readText_eq_ok_iff.1⟩
  | maxFiles => exact (Json.readWord_eq_ok_iff htext).1 h
  | maxFileBytes => exact (Json.readWord_eq_ok_iff htext).1 h
  | threshold => exact Json.readReal_eq_ok_iff.1 h
  | evaluationFile => exact readPath_eq_ok_iff.1 h
  | tasksFile => exact readPath_eq_ok_iff.1 h

/-- It is read as this where a list may still be opened. -/
theorem Key.ofJson_of_isSetBy {key : Key} {entry : Node} {value : key.Value} {room : Nat}
    (htext : entry.HasText) (h : key.IsSetBy entry value) :
    key.ofJson (room + 1) entry = .ok value := by
  cases key with
  | extensions =>
    obtain ⟨items, rfl, hitems⟩ := h
    exact Json.readList_eq_ok_iff.2
      ⟨room, items, rfl, rfl, hitems.imp fun _ _ => Json.readText_eq_ok_iff.2⟩
  | maxFiles => exact (Json.readWord_eq_ok_iff htext).2 h
  | maxFileBytes => exact (Json.readWord_eq_ok_iff htext).2 h
  | threshold => exact Json.readReal_eq_ok_iff.2 h
  | evaluationFile => exact readPath_eq_ok_iff.2 h
  | tasksFile => exact readPath_eq_ok_iff.2 h

/-- An entry sets its setting to one value. -/
theorem Key.IsSetBy.eq {key : Key} {entry : Node} {value value' : key.Value}
    (htext : entry.HasText) (h : key.IsSetBy entry value) (h' : key.IsSetBy entry value') :
    value = value' :=
  Except.ok.inj ((@Key.ofJson_of_isSetBy key entry value 0 htext h).symm.trans
    (key.ofJson_of_isSetBy htext h'))

/-- What stands for a field of a node with a text has a text. -/
theorem hasText_of_hasField {names : List String} {node entry : Node} {name : String}
    (hnode : node.HasText) (h : HasField names node name entry) : entry.HasText := by
  cases h with
  | member hmember _ => exact hnode.member hmember
  | element hitem => exact hnode.item (List.of_mem_zip hitem).2

theorem Key.StandsIn.hasText {key : Key} {members : List (Quoted × Node)} {entry : Node}
    (hmembers : (Node.object members none).HasText) (h : key.StandsIn members entry) :
    entry.HasText := by
  obtain ⟨table, htable, hentry⟩ := h
  exact hasText_of_hasField (hasText_of_hasField hmembers htable) hentry

/-- Settings with the same values are the same. -/
theorem ext_get {settings settings' : Settings}
    (h : ∀ key : Key, settings.get key = settings'.get key) : settings = settings' := by
  obtain ⟨⟨extensions, files, bytes⟩, threshold, evaluation, tasks⟩ := settings
  obtain rfl := h .extensions
  obtain rfl := h .maxFiles
  obtain rfl := h .maxFileBytes
  obtain rfl := h .threshold
  obtain rfl := h .evaluationFile
  obtain rfl := h .tasksFile
  rfl

/-- The objects say one thing about all settings. -/
theorem SetBy.eq {settings settings' : Settings} {members : List (Quoted × Node)}
    (hmembers : (Node.object members none).HasText) (h : settings.SetBy members)
    (h' : settings'.SetBy members) : settings = settings' := by
  refine ext_get fun key => ?_
  by_cases hentry : ∃ entry, key.StandsIn members entry
  · obtain ⟨entry, hentry⟩ := hentry
    exact ((h key).1 entry hentry).eq (hentry.hasText hmembers) ((h' key).1 entry hentry)
  · have hnone : ∀ entry, ¬key.StandsIn members entry := fun entry hin => hentry ⟨entry, hin⟩
    rw [(h key).2 hnone, (h' key).2 hnone]

/-! ## Objects -/

section Objects

variable {members : List (Quoted × Node)} {text : List Char} {settings : Settings}

/-- In a text, what stands among the members of its object is its entry for a setting. -/
theorem IsLaidOutIn.has_iff (h : IsLaidOutIn members text) {key : Key} {entry : Node} :
    Source.json.Has text key entry ↔ key.StandsIn members entry := by
  constructor
  · rintro ⟨document, table, hdocument, hentry⟩
    obtain rfl := h.document.eq hdocument
    exact ⟨table, hentry⟩
  · exact fun ⟨table, hentry⟩ => ⟨_, table, h.document, hentry⟩

/-- Settings that follow the text are set by the members. -/
theorem IsLaidOutIn.setBy_of_follows (h : IsLaidOutIn members text)
    (hfollows : settings.Follows .json text) : settings.SetBy members := by
  intro key
  obtain ⟨hreads, hdefault⟩ := hfollows key
  refine ⟨fun entry hentry => ?_, fun hnone => ?_⟩
  · obtain ⟨room, hread⟩ := hreads entry (h.has_iff.2 hentry)
    exact key.isSetBy_of_ofJson (hentry.hasText h.document.hasText) hread
  · exact hdefault fun entry hentry => hnone entry (h.has_iff.1 hentry)

/-- The record is that of a table: its fields are settings, all of them with a default. -/
structure IsTable {α : Type} (record : Shape α) (table : String) : Prop where
  /-- The fields are the settings of the table. -/
  names : record.fields.map Json.Field.name = Key.namesIn table
  /-- Their names are different. -/
  distinct : (Key.namesIn table).Nodup
  /-- They have defaults. -/
  defaults : ∀ f ∈ record.fields, f.required = false
  /-- A field is read where its setting is. -/
  reads : ∀ f ∈ record.fields, ∃ key : Key, key.table = table ∧ key.name = f.name
    ∧ ∀ room node value, key.ofJson room node = .ok value → ∃ change, f.read room node = .ok change

theorem isTable_scanShape : IsTable scanShape "scan" where
  names := rfl
  distinct := by decide
  defaults := by simp [scanShape, Json.field]
  reads := by
    simp only [scanShape, List.forall_mem_cons, Json.exists_read_field_iff]
    exact ⟨⟨.extensions, rfl, rfl, fun _ _ value h => ⟨value, h⟩⟩,
      ⟨.maxFiles, rfl, rfl, fun _ _ value h => ⟨value, h⟩⟩,
      ⟨.maxFileBytes, rfl, rfl, fun _ _ value h => ⟨value, h⟩⟩, by simp⟩

theorem isTable_tasksShape : IsTable tasksShape "tasks" where
  names := rfl
  distinct := by decide
  defaults := by simp [tasksShape, Json.field]
  reads := by
    simp only [tasksShape, List.forall_mem_cons, Json.exists_read_field_iff]
    exact ⟨⟨.threshold, rfl, rfl, fun _ _ value h => ⟨value, h⟩⟩, by simp⟩

theorem isTable_outputShape : IsTable outputShape "output" where
  names := rfl
  distinct := by decide
  defaults := by simp [outputShape, Json.field]
  reads := by
    simp only [outputShape, List.forall_mem_cons, Json.exists_read_field_iff]
    exact ⟨⟨.evaluationFile, rfl, rfl, fun _ _ value h => ⟨value, h⟩⟩,
      ⟨.tasksFile, rfl, rfl, fun _ _ value h => ⟨value, h⟩⟩, by simp⟩

/-- The fields of the record of all settings are tables. -/
theorem exists_isTable {f : Json.Field Settings} (hf : f ∈ shape.fields) :
    f.required = false ∧ ∃ (α : Type) (record : Shape α), IsTable record f.name
      ∧ ∀ room node, (∃ change, f.read room node = .ok change)
        ↔ ∃ a, Json.readRecord record room node = .ok a := by
  simp only [shape, List.mem_cons, List.not_mem_nil, or_false] at hf
  rcases hf with rfl | rfl | rfl
  · exact ⟨rfl, _, _, isTable_scanShape, fun _ _ => Json.exists_read_field_iff⟩
  · exact ⟨rfl, _, _, isTable_tasksShape, fun _ _ => Json.exists_read_field_iff⟩
  · exact ⟨rfl, _, _, isTable_outputShape, fun _ _ => Json.exists_read_field_iff⟩

/-- The record of a table is read from an object in which its settings are told apart and set. -/
theorem IsTable.exists_readRecord {α : Type} {record : Shape α} {table : String}
    (h : IsTable record table) {room : Nat} {entries : List (Quoted × Node)}
    (htext : (Node.object entries none).HasText)
    (hdistinct : Distinguishes (Key.namesIn table) entries)
    (hset : ∀ key : Key, key.table = table → ∀ entry,
      HasField (Key.namesIn table) (.object entries none) key.name entry →
        ∃ value, key.IsSetBy entry value) :
    ∃ a, Json.readRecord record (room + 2) (.object entries none) = .ok a := by
  refine (Json.exists_readRecord_iff (h.names ▸ h.distinct) h.defaults htext).2 ?_
  rw [h.names]
  refine ⟨hdistinct, fun f hf entry hentry => ?_⟩
  obtain ⟨key, hkey, hname, hread⟩ := h.reads f hf
  obtain ⟨value, hvalue⟩ := hset key hkey entry (hname ▸ hentry)
  exact hread _ _ value (key.ofJson_of_isSetBy (hasText_of_hasField htext hentry) hvalue)

/-- From objects that tell their settings apart and set them, settings are read. -/
theorem IsLaidOutIn.exists_ofJson (h : IsLaidOutIn members text) (hdistinct : IsDistinctIn members)
    (hset : settings.SetBy members) : ∃ read, ofJson text = .ok read := by
  have hmembers := h.document.hasText
  have hread : ∃ read, Json.readRecord shape Json.depthLimit (.object members none) = .ok read := by
    refine (Json.exists_readRecord_iff (by decide) (fun f hf => (exists_isTable hf).1) hmembers).2
      ⟨hdistinct.tables, fun f hf node hnode => ?_⟩
    obtain ⟨-, α, record, htable, hread⟩ := exists_isTable hf
    have hname : f.name ∈ Key.tables := List.mem_map_of_mem hf
    obtain ⟨entries, rfl⟩ := h.tables f.name hname node hnode
    obtain ⟨a, ha⟩ := @IsTable.exists_readRecord _ _ _ htable 124 _
      (hasText_of_hasField hmembers hnode) (hdistinct.settings f.name hname entries hnode)
      fun key hkey entry hentry =>
        ⟨_, (hset key).1 entry ⟨_, hkey ▸ hnode, hkey ▸ hentry⟩⟩
    exact (hread _ _).2 ⟨a, ha⟩
  obtain ⟨read, hread⟩ := hread
  exact ⟨read, Json.decode_readRecord_eq_ok_iff.2 ⟨_, h.document, hread⟩⟩

/-- Objects from which settings are read tell them apart. -/
theorem IsLaidOutIn.isDistinctIn_of_ofJson (h : IsLaidOutIn members text)
    (hread : ofJson text = .ok settings) : IsDistinctIn members := by
  obtain ⟨node, hdocument, hread⟩ := Json.decode_readRecord_eq_ok_iff.1 hread
  obtain rfl := h.document.eq hdocument
  have hmembers := h.document.hasText
  obtain ⟨htables, hfields⟩ := (Json.exists_readRecord_iff (by decide)
    (fun f hf => (exists_isTable hf).1) hmembers).1 ⟨settings, hread⟩
  refine ⟨htables, fun table hname entries hentries => ?_⟩
  obtain ⟨f, hf, rfl⟩ := List.mem_map.1 (show table ∈ shape.fields.map Json.Field.name from hname)
  obtain ⟨-, α, record, htable, hrecord⟩ := exists_isTable hf
  have hread := (hrecord _ _).1 (hfields f hf _ hentries)
  rw [← htable.names]
  exact ((Json.exists_readRecord_iff (htable.names ▸ htable.distinct) htable.defaults
    (hasText_of_hasField hmembers hentries)).1 hread).1

/-- The settings that are read from objects are what the objects say, and none are read from objects
in which a table or a setting stands twice. -/
theorem ofJson_eq_ok_iff (h : IsLaidOutIn members text) :
    ofJson text = .ok settings ↔ IsDistinctIn members ∧ settings.SetBy members := by
  constructor
  · intro hread
    exact ⟨h.isDistinctIn_of_ofJson hread, h.setBy_of_follows (follows_of_ofJson hread)⟩
  · rintro ⟨hdistinct, hset⟩
    obtain ⟨read, hread⟩ := h.exists_ofJson hdistinct hset
    rw [hread, hset.eq h.document.hasText (h.setBy_of_follows (follows_of_ofJson hread))]

end Objects

end RubricScore.Settings
