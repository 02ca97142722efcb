import Mathlib.Data.List.Nodup
import RubricScore.Proofs.Json.Codec
import RubricScore.Proofs.Json.Recognition
import RubricScore.Proofs.Json.Records

/-!
# Parts of a record and what they are read from

A part of a record that one field sets is read from what the document has for this field, and keeps
its default where the document has nothing for it. Nothing else in the document has a say in it.

## Main definitions

* `HasField`: what a node has for a field of a record;
* `Owns`: the field with a name sets a part of a record, the other fields spare it.

## Main results

* `Owns.readRecord`: a part is what the node has for its field, or else the default;
* `decode_readRecord_eq_ok_iff`: a text is read as a record just when it is a document that is.
-/

namespace RubricScore.Json

variable {α β : Type}

/-- What a node has for a field of a record with the given field names: the member with its name, or
the element in its place. -/
inductive HasField (names : List String) : Node → String → Node → Prop
  /-- A member of an object. -/
  | member {members : List (Quoted × Node)} {cut : Option Break} {quoted : Quoted} {node : Node}
    {name : String} (hmember : (quoted, node) ∈ members) (hname : quoted.text = .ok name) :
    HasField names (.object members cut) name node
  /-- An element of a list. -/
  | element {items : List Node} {cut : Option Break} {node : Node} {name : String}
    (hitem : (name, node) ∈ names.zip items) : HasField names (.array items cut) name node

/-- Reading the field sets a part of the record to the value that is read. -/
def Field.Sets (f : Field α) (value : Reader β) (part : α → β) : Prop :=
  ∀ room node change, f.read room node = .ok change →
    ∃ b, value room node = .ok b ∧ ∀ a, part (change a) = b

/-- Reading the field leaves a part of the record as it is. -/
def Field.Spares (f : Field α) (part : α → β) : Prop :=
  ∀ room node change, f.read room node = .ok change → ∀ a, part (change a) = part a

/-- Of the fields with different names, the one with the given name sets a part of the record, and
the other ones spare it. -/
structure Owns (fields : List (Field α)) (name : String) (value : Reader β) (part : α → β) :
    Prop where
  /-- The names are different. -/
  distinct : (fields.map Field.name).Nodup
  /-- One of them is the given one. -/
  listed : name ∈ fields.map Field.name
  /-- Its field sets the part. -/
  own : ∀ f ∈ fields, f.name = name → f.Sets value part
  /-- Every other field spares it. -/
  others : ∀ f ∈ fields, f.name ≠ name → f.Spares part

/-- A field that puts its value into a part which the other fields spare. -/
theorem owns_field (before after : List (Field α)) {fields : List (Field α)} {name : String}
    {required : Bool} {value : Reader β} {put : β → α → α} {part : α → β}
    (hfields : fields = before ++ field name required value put :: after)
    (hdistinct : (fields.map Field.name).Nodup) (hput : ∀ b a, part (put b a) = b)
    (hothers : ∀ f ∈ before ++ after, f.Spares part) : Owns fields name value part where
  distinct := hdistinct
  listed := by simp [hfields, field]
  own f hf hname := by
    have hfield : field name required value put ∈ fields := by simp [hfields]
    obtain rfl := List.inj_on_of_nodup_map hdistinct hf hfield hname
    intro room node change hchange
    obtain ⟨b, hb, rfl⟩ := map_eq_ok_iff.1 hchange
    exact ⟨b, hb, hput b⟩
  others f hf hne := by
    rw [hfields, List.mem_append, List.mem_cons] at hf
    rcases hf with hf | rfl | hf
    · exact hothers f (List.mem_append_left _ hf)
    · exact absurd rfl hne
    · exact hothers f (List.mem_append_right _ hf)

theorem spares_field {γ : Type} {value : Reader γ} {put : γ → α → α} {part : α → β}
    (h : ∀ c a, part (put c a) = part a) {name : String} {required : Bool} :
    (field name required value put).Spares part := by
  intro room node change hchange
  obtain ⟨c, -, rfl⟩ := map_eq_ok_iff.1 hchange
  exact h c

section Records

variable {fields : List (Field α)} {name : String} {value : Reader β} {part : α → β}

/-- The part of a field is what the member with its name is read as, and is kept if there is none.
Only one member has the name, and only if it was not seen before. -/
theorem Owns.readMembers (h : Owns fields name value part) {room : Nat} {seen : List String}
    {record : α} {members : List (Quoted × Node)} {result : List String × α}
    (hread : readMembers fields room seen record members = .ok result) :
    (∀ member ∈ members, member.1.text = .ok name →
        name ∉ seen ∧ value room member.2 = .ok (part result.2))
      ∧ ((∀ member ∈ members, member.1.text ≠ .ok name) → part result.2 = part record) := by
  induction members generalizing seen record with
  | nil =>
    obtain rfl := Except.ok.inj hread
    exact ⟨nofun, fun _ => rfl⟩
  | cons member rest ih =>
    obtain ⟨names, change, htakes, hnew, hrest⟩ := readMembers_cons_iff.1 hread
    obtain ⟨hhas, hnone⟩ := ih hrest
    -- A member without the name spares the part.
    have hother : member.1.text ≠ .ok name → part (change record) = part record →
        (∀ other ∈ member :: rest, other.1.text = .ok name →
            name ∉ seen ∧ value room other.2 = .ok (part result.2))
          ∧ ((∀ other ∈ member :: rest, other.1.text ≠ .ok name) →
            part result.2 = part record) := by
      intro hne hspared
      refine ⟨List.forall_mem_cons.2 ⟨fun heq => absurd heq hne, fun other hin hname => ?_⟩,
        fun hall => (hnone (List.forall_mem_cons.1 hall).2).trans hspared⟩
      obtain ⟨hseen, hvalue⟩ := hhas other hin hname
      exact ⟨fun hin => hseen (List.mem_append_right _ hin), hvalue⟩
    cases htakes with
    | @passed quoted node other hother' hfind =>
      refine hother (fun heq => ?_) rfl
      obtain rfl := Except.ok.inj (hother'.symm.trans heq)
      obtain ⟨f, hf, hname⟩ := List.mem_map.1 h.listed
      exact List.find?_eq_none.1 hfind f hf (beq_iff_eq.2 hname)
    | @known quoted node other f _ hother' hfind hchange =>
      have hf := List.mem_of_find?_eq_some hfind
      have hfname : f.name = other := by simpa using List.find?_some hfind
      by_cases hname : other = name
      · subst hname
        obtain ⟨b, hb, hset⟩ := h.own f hf hfname room node change hchange
        -- The name is seen from here on, so that no later member has it.
        have hlast : ∀ later ∈ rest, later.1.text ≠ .ok other := fun later hin heq =>
          (hhas later hin heq).1 List.mem_cons_self
        rw [← hset record, ← hnone hlast] at hb
        refine ⟨List.forall_mem_cons.2 ⟨fun _ => ⟨hnew other List.mem_cons_self, hb⟩,
          fun later hin heq => absurd heq (hlast later hin)⟩, fun hall => ?_⟩
        exact absurd hother' (hall _ List.mem_cons_self)
      · refine hother (fun heq => hname (Except.ok.inj (hother'.symm.trans heq))) ?_
        exact h.others f hf (hfname ▸ hname) room node change hchange record

/-- Fields with defaults that have no elements keep them. -/
theorem readPositions_nil {shape : Shape α} {room : Nat} {cut : Option Break} {index : Nat}
    {record a : α} (hread : readPositions shape room cut index record fields [] = .ok a) :
    a = record := by
  induction fields generalizing index with
  | nil =>
    obtain ⟨-, ha⟩ := check_bind_eq_ok_iff.1 hread
    exact (Except.ok.inj ha).symm
  | cons next fields ih =>
    obtain ⟨-, hrest⟩ := check_bind_eq_ok_iff.1 hread
    split at hrest
    · exact absurd hrest nofun
    · exact ih hrest

/-- The part of a field is what the element in its place is read as, and is kept if there is none. -/
theorem part_of_readPositions (hdistinct : (fields.map Field.name).Nodup)
    (hown : ∀ f ∈ fields, f.name = name → f.Sets value part)
    (hothers : ∀ f ∈ fields, f.name ≠ name → f.Spares part)
    {shape : Shape α} {room : Nat} {cut : Option Break} {index : Nat} {record a : α}
    {nodes : List Node}
    (hread : readPositions shape room cut index record fields nodes = .ok a) :
    (∀ node, (name, node) ∈ (fields.map Field.name).zip nodes → value room node = .ok (part a))
      ∧ ((∀ node, (name, node) ∉ (fields.map Field.name).zip nodes) → part a = part record) := by
  induction fields generalizing index record nodes with
  | nil =>
    cases nodes with
    | nil => exact ⟨by simp, fun _ => congrArg part (readPositions_nil hread)⟩
    | cons node rest => exact absurd hread nofun
  | cons next fields ih =>
    obtain ⟨hnew, hdistinct⟩ := List.nodup_cons.1 hdistinct
    obtain ⟨hown, howns⟩ := List.forall_mem_cons.1 hown
    obtain ⟨hother, hothers⟩ := List.forall_mem_cons.1 hothers
    cases nodes with
    | nil => exact ⟨by simp, fun _ => congrArg part (readPositions_nil hread)⟩
    | cons node rest =>
      obtain ⟨change, hchange, hrest⟩ := bind_eq_ok_iff.1 hread
      obtain ⟨hhas, hnone⟩ := ih hdistinct howns hothers hrest
      rw [List.map_cons, List.zip_cons_cons]
      by_cases hname : next.name = name
      · obtain ⟨b, hb, hset⟩ := hown hname room node change hchange
        -- No later field has the name.
        have hlast : ∀ other, (name, other) ∉ (fields.map Field.name).zip rest :=
          fun other hin => hnew (hname ▸ (List.of_mem_zip hin).1)
        rw [← hset record, ← hnone hlast] at hb
        refine ⟨fun other hin => ?_, fun hall => ?_⟩
        · rcases List.mem_cons.1 hin with heq | hin
          · exact (Prod.mk.inj heq).2 ▸ hb
          · exact absurd hin (hlast other)
        · exact absurd (hname ▸ List.mem_cons_self) (hall node)
      · rw [hother hname room node change hchange] at hnone
        refine ⟨fun other hin => ?_, fun hall => ?_⟩
        · rcases List.mem_cons.1 hin with heq | hin
          · exact absurd (Prod.mk.inj heq).1.symm hname
          · exact hhas other hin
        · exact hnone fun other hin => hall other (List.mem_cons_of_mem _ hin)

/-- A part of a record is what the node has for its field, and the default if the node has nothing
for it. -/
theorem Owns.readRecord {shape : Shape α} (h : Owns shape.fields name value part) {room : Nat}
    {node : Node} {a : α} (hread : readRecord shape room node = .ok a) :
    (∀ item, HasField (shape.fields.map Field.name) node name item →
        ∃ inner, value inner item = .ok (part a))
      ∧ ((∀ item, ¬HasField (shape.fields.map Field.name) node name item) →
        part a = part shape.blank) := by
  rcases exists_of_readRecord hread with ⟨members, cut, rfl⟩ | ⟨items, cut, rfl⟩
  · obtain ⟨inner, named, -, -, hmembers, -⟩ := readRecord_object_iff.1 hread
    obtain ⟨hhas, hnone⟩ := h.readMembers hmembers
    refine ⟨fun item hitem => ?_, fun hall => ?_⟩
    · obtain ⟨hmember, hname⟩ := hitem
      exact ⟨inner, (hhas _ hmember hname).2⟩
    · exact hnone fun member hmember hname => hall member.2 (.member hmember hname)
  · obtain ⟨inner, -, hpositions⟩ := enter_eq_ok_iff.1 hread
    obtain ⟨hhas, hnone⟩ := part_of_readPositions h.distinct h.own h.others hpositions
    refine ⟨fun item hitem => ?_, fun hall => ?_⟩
    · obtain - | hin := hitem
      exact ⟨inner, hhas item hin⟩
    · exact hnone fun item hin => hall item (.element hin)

end Records

/-! ## Texts -/

section Texts

variable {shape : Shape α}

/-- The list of the elements of a record is closed. -/
theorem cut_of_readPositions {fields : List (Field α)} {room : Nat} {cut : Option Break}
    {index : Nat} {record a : α} {nodes : List Node}
    (hread : readPositions shape room cut index record fields nodes = .ok a) : cut = none := by
  fun_induction readPositions shape room cut index record fields nodes with
  | case1 => exact whole_eq_ok_iff.1 (check_bind_eq_ok_iff.1 hread).1
  | case2 => exact absurd hread nofun
  | case3 => exact whole_eq_ok_iff.1 (check_bind_eq_ok_iff.1 hread).1
  | case4 index record next fields node rest ih =>
    obtain ⟨change, -, hrest⟩ := bind_eq_ok_iff.1 hread
    exact ih change hrest

/-- What is read as a record is whole. -/
theorem cut?_of_readRecord {room : Nat} {node : Node} {a : α}
    (hread : readRecord shape room node = .ok a) : node.cut? = none := by
  rcases exists_of_readRecord hread with ⟨members, cut, rfl⟩ | ⟨items, cut, rfl⟩
  · obtain ⟨-, -, -, hcut, -, -⟩ := readRecord_object_iff.1 hread
    exact hcut
  · obtain ⟨inner, -, hpositions⟩ := enter_eq_ok_iff.1 hread
    exact cut_of_readPositions hpositions

/-- A text is read as a record just when it is a document that is read as one. -/
theorem decode_readRecord_eq_ok_iff {text : List Char} {a : α} :
    decode (readRecord shape) text = .ok a
      ↔ ∃ node, IsDocument node text ∧ readRecord shape depthLimit node = .ok a := by
  rw [decode]
  constructor
  · intro hdecode
    obtain ⟨other, hread, hdecode⟩ := bind_eq_ok_iff.1 hdecode
    obtain ⟨hmore, ha⟩ := ite_error_eq_ok_iff.1 hdecode
    obtain rfl := Except.ok.inj ha
    refine ⟨(Document.ofText text).value, isDocument_iff.2 ⟨?_, cut?_of_readRecord hread⟩, hread⟩
    generalize Document.ofText text = document at hmore
    cases document with | mk value hasMore => simpa using hmore
  · rintro ⟨node, hdocument, hread⟩
    rw [ofText_of_isDocument hdocument]
    exact bind_eq_ok_iff.2 ⟨a, hread, rfl⟩

end Texts

end RubricScore.Json
