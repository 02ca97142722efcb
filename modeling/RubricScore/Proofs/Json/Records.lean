import Mathlib.Data.List.Pairwise
import RubricScore.Proofs.Json.Finiteness
import RubricScore.Proofs.OrderedMap

/-!
# What readers look at

A record is read alike whatever the order of its members and whatever stands in members that it does
not have: every member changes its own part of the record or nothing. The values of a map, on the
other hand, keep the order of the members.

## Main definitions

* `Agrees`: what a reader takes one node for, it takes another one for;
* `Independent`: the fields of a record change different parts of it;
* `Rearranges`: members in another order, among others that a record does not have.

## Main results

* `agrees_readRecord_of_rearranges`: a record does not depend on the order of its members nor on
  others;
* `agrees_readRecord`, `agrees_readPositions`, `agrees_readMap`: containers with elements that agree;
* `exists_read_of_mem`: the value of a field is read from its member, wherever it stands;
* `readMap_eq_ok_iff`: a map holds the pairs that its members are read as.
-/

namespace RubricScore.Json

variable {α β : Type}

/-- Whatever the reader takes the first node for, it takes the second one for. -/
def Agrees (reader : Reader α) (node node' : Node) : Prop :=
  ∀ room a, reader room node = .ok a → reader room node' = .ok a

theorem agrees_self (reader : Reader α) (node : Node) : Agrees reader node node :=
  fun _ _ h => h

/-- A field agrees on what the reader of its value agrees on. -/
theorem Agrees.field {value : Reader β} {node node' : Node} (h : Agrees value node node')
    {name : String} {required : Bool} {put : β → α → α} :
    Agrees (field name required value put).read node node' := by
  intro room change hchange
  obtain ⟨b, hb, rfl⟩ := map_eq_ok_iff.1 hchange
  exact map_eq_ok_iff.2 ⟨b, h room b hb, rfl⟩

/-! ## Members of a record -/

section Members

variable {fields : List (Field α)} {room : Nat}

/-- What a member does to a record: the fields that it names and its change of the record. -/
inductive Takes (fields : List (Field α)) (room : Nat) :
    Quoted × Node → List String → (α → α) → Prop
  /-- The record does not have the member. -/
  | passed {quoted : Quoted} {node : Node} {name : String} (hname : quoted.text = .ok name)
    (hfind : fields.find? (·.name == name) = none) (hwhole : node.cut? = none) :
    Takes fields room (quoted, node) [] id
  /-- The member is a field. -/
  | known {quoted : Quoted} {node : Node} {name : String} {f : Field α} {change : α → α}
    (hname : quoted.text = .ok name) (hfind : fields.find? (·.name == name) = some f)
    (hread : f.read room node = .ok change) : Takes fields room (quoted, node) [name] change

theorem whole_eq_ok_iff {cut : Option Break} : whole cut = .ok () ↔ cut = none := by
  cases cut <;> simp [whole, breakAt]

/-- The members of a record are taken one after the other, and no field twice. -/
theorem readMembers_cons_iff {seen : List String} {record : α} {member : Quoted × Node}
    {rest : List (Quoted × Node)} {result : List String × α} :
    readMembers fields room seen record (member :: rest) = .ok result
      ↔ ∃ names change, Takes fields room member names change ∧ (∀ name ∈ names, name ∉ seen)
        ∧ readMembers fields room (names ++ seen) (change record) rest = .ok result := by
  obtain ⟨quoted, node⟩ := member
  rw [readMembers, bind_eq_ok_iff]
  constructor
  · rintro ⟨name, hname, h⟩
    split at h
    · next hfind =>
      obtain ⟨hwhole, h⟩ := check_bind_eq_ok_iff.1 h
      exact ⟨[], id, .passed hname hfind (whole_eq_ok_iff.1 hwhole), by simp, h⟩
    · next f hfind =>
      obtain ⟨hseen, h⟩ := ite_error_eq_ok_iff.1 h
      obtain ⟨change, hread, h⟩ := bind_eq_ok_iff.1 h
      exact ⟨[name], change, .known hname hfind hread, by simpa using hseen, h⟩
  · rintro ⟨names, change, htakes, hseen, h⟩
    cases htakes with
    | @passed _ _ name hname hfind hwhole =>
      refine ⟨name, hname, ?_⟩
      rw [hfind]
      exact check_bind_eq_ok_iff.2 ⟨whole_eq_ok_iff.2 hwhole, h⟩
    | @known _ _ name f _ hname hfind hread =>
      refine ⟨name, hname, ?_⟩
      rw [hfind]
      exact ite_error_eq_ok_iff.2
        ⟨hseen name List.mem_cons_self, bind_eq_ok_iff.2 ⟨change, hread, h⟩⟩

/-- Of the names seen before only matters which ones they are. -/
theorem readMembers_congr_seen {seen seen' : List String} {record : α}
    {members : List (Quoted × Node)} {result : List String × α}
    (hseen : ∀ name, name ∈ seen ↔ name ∈ seen')
    (h : readMembers fields room seen record members = .ok result) :
    ∃ named, readMembers fields room seen' record members = .ok (named, result.2)
      ∧ ∀ name, name ∈ result.1 ↔ name ∈ named := by
  induction members generalizing seen seen' record with
  | nil =>
    rw [readMembers, Except.ok.injEq] at h
    exact h ▸ ⟨seen', rfl, hseen⟩
  | cons member rest ih =>
    obtain ⟨names, change, htakes, hnew, h⟩ := readMembers_cons_iff.1 h
    have hboth : ∀ name, name ∈ names ++ seen ↔ name ∈ names ++ seen' := by simp [hseen]
    obtain ⟨named, hread, hnamed⟩ := ih hboth h
    have hnew : ∀ name ∈ names, name ∉ seen' := fun name hin => (hseen name).not.1 (hnew name hin)
    exact ⟨named, readMembers_cons_iff.2 ⟨names, change, htakes, hnew, hread⟩, hnamed⟩

/-- The order in which values are read into the two fields does not matter. -/
def Field.Apart (f g : Field α) : Prop :=
  ∀ room node node' change change', f.read room node = .ok change →
    g.read room node' = .ok change' → ∀ a, change (change' a) = change' (change a)

instance : Std.Symm (@Field.Apart α) where
  symm _ _ h := fun _ _ _ _ _ hchange hchange' a => (h _ _ _ _ _ hchange' hchange a).symm

/-- Fields that put their values into different places. -/
theorem apart_field {γ : Type} {value : Reader β} {value' : Reader γ} {put : β → α → α}
    {put' : γ → α → α} (hput : ∀ b c a, put b (put' c a) = put' c (put b a)) {name name' : String}
    {required required' : Bool} :
    (field name required value put).Apart (field name' required' value' put') := by
  intro room node node' change change' hchange hchange' a
  obtain ⟨b, -, rfl⟩ := map_eq_ok_iff.1 hchange
  obtain ⟨c, -, rfl⟩ := map_eq_ok_iff.1 hchange'
  exact hput b c a

/-- Fields with different names change different parts of the record. -/
def Independent (fields : List (Field α)) : Prop :=
  ∀ f ∈ fields, ∀ g ∈ fields, f.name ≠ g.name → f.Apart g

theorem independent_of_pairwise (h : fields.Pairwise Field.Apart) : Independent fields :=
  fun _ hf _ hg hne => h.forall hf hg fun heq => hne (heq ▸ rfl)

/-- Members that name different fields can be taken in any order. -/
theorem Takes.comm (hfields : Independent fields) {member member' : Quoted × Node}
    {names names' : List String} {change change' : α → α} (h : Takes fields room member names change)
    (h' : Takes fields room member' names' change') (hdistinct : ∀ name ∈ names, name ∉ names')
    (a : α) : change (change' a) = change' (change a) := by
  cases h with
  | passed => rfl
  | @known _ _ name f _ _ hfind hread =>
    cases h' with
    | passed => rfl
    | @known _ _ name' g _ _ hfind' hread' =>
      have hne : name ≠ name' := by simpa using hdistinct name List.mem_cons_self
      have hf : f.name = name := by simpa using List.find?_some hfind
      have hg : g.name = name' := by simpa using List.find?_some hfind'
      have hapart := hfields f (List.mem_of_find?_eq_some hfind) g
        (List.mem_of_find?_eq_some hfind') (hf ▸ hg ▸ hne)
      exact hapart _ _ _ _ _ hread hread' a

/-- The members of a record may stand in any order. -/
theorem readMembers_perm (hfields : Independent fields) {members members' : List (Quoted × Node)}
    (hperm : members.Perm members') {seen : List String} {record : α} {result : List String × α}
    (h : readMembers fields room seen record members = .ok result) :
    ∃ named, readMembers fields room seen record members' = .ok (named, result.2)
      ∧ ∀ name, name ∈ result.1 ↔ name ∈ named := by
  -- By exchanges of neighbours; the names that were seen may end in another order.
  induction hperm generalizing seen record result with
  | nil => exact ⟨result.1, h, fun _ => Iff.rfl⟩
  | cons member _ ih =>
    obtain ⟨names, change, htakes, hnew, h⟩ := readMembers_cons_iff.1 h
    obtain ⟨named, hread, hnamed⟩ := ih h
    exact ⟨named, readMembers_cons_iff.2 ⟨names, change, htakes, hnew, hread⟩, hnamed⟩
  | swap first second rest =>
    obtain ⟨names, change, htakes, hnew, h⟩ := readMembers_cons_iff.1 h
    obtain ⟨names', change', htakes', hnew', h⟩ := readMembers_cons_iff.1 h
    simp only [List.mem_append, not_or] at hnew'
    -- The second member is taken first, and what is seen after both is the same.
    have hdistinct : ∀ name ∈ names', name ∉ names := fun name hin => (hnew' name hin).1
    rw [Takes.comm hfields htakes' htakes hdistinct] at h
    have hboth : ∀ name, name ∈ names' ++ (names ++ seen) ↔ name ∈ names ++ (names' ++ seen) := by
      simp [or_left_comm]
    obtain ⟨named, hread, hnamed⟩ := readMembers_congr_seen hboth h
    have hfirst : ∀ name ∈ names, name ∉ names' ++ seen := by
      intro name hin
      rw [List.mem_append, not_or]
      exact ⟨fun hin' => hdistinct name hin' hin, hnew name hin⟩
    refine ⟨named, ?_, hnamed⟩
    exact readMembers_cons_iff.2 ⟨names', change', htakes', fun name hin => (hnew' name hin).2,
      readMembers_cons_iff.2 ⟨names, change, htakes, hfirst, hread⟩⟩
  | trans _ _ ih ih' =>
    obtain ⟨named, hread, hnamed⟩ := ih h
    obtain ⟨named', hread', hnamed'⟩ := ih' hread
    exact ⟨named', hread', fun name => (hnamed name).trans (hnamed' name)⟩

/-- What a member does to a record it still does when its value is replaced by one that the field
agrees on. -/
theorem Takes.agrees {quoted : Quoted} {node node' : Node} {names : List String} {change : α → α}
    (h : Takes fields room (quoted, node) names change) (hwhole : node'.cut? = none)
    (hagrees : ∀ f ∈ fields, quoted.text = .ok f.name → Agrees f.read node node') :
    Takes fields room (quoted, node') names change := by
  cases h with
  | passed hname hfind => exact .passed hname hfind hwhole
  | @known _ _ name f _ hname hfind hread =>
    have hf : f.name = name := by simpa using List.find?_some hfind
    have hagree := hagrees f (List.mem_of_find?_eq_some hfind) (hf ▸ hname)
    exact .known hname hfind (hagree room change hread)

/-- Values that the fields agree on. -/
def MembersAgree (fields : List (Field α)) : List (Quoted × Node) → List (Quoted × Node) → Prop :=
  List.Forall₂ fun member member' => member'.1 = member.1 ∧ member'.2.cut? = none
    ∧ ∀ f ∈ fields, member.1.text = .ok f.name → Agrees f.read member.2 member'.2

theorem readMembers_agree {members members' : List (Quoted × Node)}
    (h : MembersAgree fields members members') {seen : List String} {record : α}
    {result : List String × α}
    (hread : readMembers fields room seen record members = .ok result) :
    readMembers fields room seen record members' = .ok result := by
  induction h generalizing seen record with
  | nil => exact hread
  | @cons member member' rest rest' hmember _ ih =>
    obtain ⟨names, change, htakes, hnew, hrest⟩ := readMembers_cons_iff.1 hread
    obtain ⟨quoted, node⟩ := member
    obtain ⟨quoted', node'⟩ := member'
    obtain ⟨rfl, hwhole, hagrees⟩ := hmember
    exact readMembers_cons_iff.2 ⟨names, change, htakes.agrees hwhole hagrees, hnew, ih hrest⟩

/-- Members with other names are passed over. -/
theorem readMembers_append {added members : List (Quoted × Node)}
    (hunknown : ∀ member ∈ added, ∃ name, member.1.text = .ok name ∧ name ∉ fields.map Field.name)
    (hwhole : ∀ member ∈ added, member.2.cut? = none) {seen : List String} {record : α}
    {result : List String × α}
    (h : readMembers fields room seen record members = .ok result) :
    readMembers fields room seen record (added ++ members) = .ok result := by
  induction added with
  | nil => exact h
  | cons member added ih =>
    obtain ⟨⟨name, hname, hnew⟩, hunknown⟩ := List.forall_mem_cons.1 hunknown
    obtain ⟨hcut, hwhole⟩ := List.forall_mem_cons.1 hwhole
    have hfind : fields.find? (·.name == name) = none := by
      rw [List.find?_eq_none]
      exact fun f hf heq => hnew (beq_iff_eq.1 heq ▸ List.mem_map_of_mem hf)
    exact readMembers_cons_iff.2 ⟨[], id, .passed hname hfind hcut, nofun, ih hunknown hwhole⟩

/-- The last member has the last word. -/
theorem readMembers_snoc {members : List (Quoted × Node)} {member : Quoted × Node}
    {seen : List String} {record : α} {result : List String × α}
    (h : readMembers fields room seen record (members ++ [member]) = .ok result) :
    ∃ names change a, Takes fields room member names change ∧ result.2 = change a := by
  induction members generalizing seen record with
  | nil =>
    obtain ⟨names, change, htakes, -, h⟩ := readMembers_cons_iff.1 h
    rw [readMembers, Except.ok.injEq] at h
    exact ⟨names, change, record, htakes, h ▸ rfl⟩
  | cons first members ih =>
    obtain ⟨names, change, -, -, h⟩ := readMembers_cons_iff.1 h
    exact ih h

/-- A name that was seen is that of a member. -/
theorem exists_mem_of_seen {members : List (Quoted × Node)} {seen : List String} {record : α}
    {result : List String × α} (h : readMembers fields room seen record members = .ok result)
    {name : String} (hname : name ∈ result.1) :
    name ∈ seen ∨ ∃ member ∈ members, member.1.text = .ok name := by
  induction members generalizing seen record with
  | nil =>
    obtain rfl := Except.ok.inj h
    exact .inl hname
  | cons member rest ih =>
    obtain ⟨names, change, htakes, -, h⟩ := readMembers_cons_iff.1 h
    rcases ih h with hin | ⟨other, hin, hother⟩
    · cases htakes with
      | passed => exact .inl hin
      | known hmember =>
        rcases List.mem_cons.1 hin with rfl | hseen
        · exact .inr ⟨_, List.mem_cons_self, hmember⟩
        · exact .inl hseen
    · exact .inr ⟨other, List.mem_cons_of_mem _ hin, hother⟩

end Members

/-! ## Records -/

/-- Members in another order, among others whose names are none of the given ones. -/
def Rearranges (names : List String) (members members' : List (Quoted × Node)) : Prop :=
  ∃ added, (∀ member ∈ added, ∃ name, member.1.text = .ok name ∧ name ∉ names)
    ∧ members'.Perm (added ++ members)

section Records

variable {shape : Shape α}

/-- A record is read from the record before its members and the names that they have. -/
theorem readRecord_object_iff {room : Nat} {members : List (Quoted × Node)} {cut : Option Break}
    {a : α} :
    readRecord shape room (.object members cut) = .ok a
      ↔ ∃ inner named, room = inner + 1 ∧ cut = none
        ∧ readMembers shape.fields inner [] shape.blank members = .ok (named, a)
        ∧ ∀ f ∈ shape.fields, f.required → f.name ∈ named := by
  have habsent : ∀ named : List String,
      shape.fields.find? (fun f => f.required && !named.contains f.name) = none
        ↔ ∀ f ∈ shape.fields, f.required → f.name ∈ named := by
    intro named
    simp
  rw [readRecord, enter_eq_ok_iff]
  constructor
  · rintro ⟨inner, rfl, h⟩
    obtain ⟨⟨named, record⟩, hmembers, h⟩ := bind_eq_ok_iff.1 h
    obtain ⟨hcut, h⟩ := check_bind_eq_ok_iff.1 h
    split at h
    · exact absurd h (by simp [reject])
    · next hnone =>
      obtain rfl := Except.ok.inj h
      exact ⟨inner, named, rfl, whole_eq_ok_iff.1 hcut, hmembers, (habsent named).1 hnone⟩
  · rintro ⟨inner, named, rfl, rfl, hmembers, hrequired⟩
    refine ⟨inner, rfl, bind_eq_ok_iff.2 ⟨_, hmembers, ?_⟩⟩
    refine check_bind_eq_ok_iff.2 ⟨rfl, ?_⟩
    rw [(habsent named).2 hrequired]
    rfl

/-- A record is an object or a list. -/
theorem exists_of_readRecord {room : Nat} {node : Node} {a : α}
    (h : readRecord shape room node = .ok a) :
    (∃ members cut, node = .object members cut) ∨ ∃ items cut, node = .array items cut := by
  unfold readRecord at h
  split at h
  · exact .inl ⟨_, _, rfl⟩
  · exact .inr ⟨_, _, rfl⟩
  · exact absurd h refuse_ne_ok

/-- A record does not depend on the order of its members nor on others. -/
theorem agrees_readRecord_of_rearranges (hfields : Independent shape.fields)
    {members members' : List (Quoted × Node)} {cut : Option Break}
    (h : Rearranges (shape.fields.map Field.name) members members')
    (hwhole : ∀ member ∈ members', member.2.cut? = none) :
    Agrees (readRecord shape) (.object members cut) (.object members' cut) := by
  intro room a hread
  obtain ⟨added, hunknown, hperm⟩ := h
  obtain ⟨inner, named, rfl, hcut, hmembers, hrequired⟩ := readRecord_object_iff.1 hread
  have hadded := readMembers_append hunknown
    (fun member hin => hwhole member (hperm.mem_iff.2 (List.mem_append_left _ hin))) hmembers
  obtain ⟨named', hread', hnamed⟩ := readMembers_perm hfields hperm.symm hadded
  exact readRecord_object_iff.2 ⟨inner, named', rfl, hcut, hread',
    fun f hf hf' => (hnamed f.name).1 (hrequired f hf hf')⟩

/-- Members with values that the fields agree on. -/
theorem agrees_readRecord {members members' : List (Quoted × Node)} {cut : Option Break}
    (h : MembersAgree shape.fields members members') :
    Agrees (readRecord shape) (.object members cut) (.object members' cut) := by
  intro room a hread
  obtain ⟨inner, named, rfl, hcut, hmembers, hrequired⟩ := readRecord_object_iff.1 hread
  exact readRecord_object_iff.2
    ⟨inner, named, rfl, hcut, readMembers_agree h hmembers, hrequired⟩

/-- The value of a field is read from its member, wherever it stands. -/
theorem exists_read_of_mem (hfields : Independent shape.fields) {room : Nat}
    {members : List (Quoted × Node)} {cut : Option Break} {a : α}
    (h : readRecord shape room (.object members cut) = .ok a) {member : Quoted × Node}
    (hmember : member ∈ members) {f : Field α} (hname : member.1.text = .ok f.name)
    (hfind : shape.fields.find? (·.name == f.name) = some f) :
    ∃ inner change start, room = inner + 1 ∧ f.read inner member.2 = .ok change
      ∧ a = change start := by
  obtain ⟨inner, named, rfl, -, hmembers, -⟩ := readRecord_object_iff.1 h
  obtain ⟨before, after, rfl⟩ := List.append_of_mem hmember
  -- As the last member it has the last word, and moving it there changes nothing.
  have hlast : (before ++ member :: after).Perm ((before ++ after) ++ [member]) :=
    List.perm_middle.trans (List.perm_append_singleton member (before ++ after)).symm
  obtain ⟨_, hread, -⟩ := readMembers_perm hfields hlast hmembers
  obtain ⟨names, change, start, htakes, ha⟩ := readMembers_snoc hread
  cases htakes with
  | @passed _ _ name hname' hnone =>
    obtain rfl := Except.ok.inj (hname'.symm.trans hname)
    exact absurd (hnone.symm.trans hfind) nofun
  | @known _ _ name g _ hname' hsome hchange =>
    obtain rfl := Except.ok.inj (hname'.symm.trans hname)
    obtain rfl := Option.some.inj (hsome.symm.trans hfind)
    exact ⟨inner, change, start, rfl, hchange, ha⟩

/-- Every field without a default has a member. -/
theorem exists_mem_of_required {room : Nat} {members : List (Quoted × Node)} {cut : Option Break}
    {a : α} (h : readRecord shape room (.object members cut) = .ok a) {f : Field α}
    (hf : f ∈ shape.fields) (hrequired : f.required) :
    ∃ member ∈ members, member.1.text = .ok f.name := by
  obtain ⟨inner, named, -, -, hmembers, hnamed⟩ := readRecord_object_iff.1 h
  exact (exists_mem_of_seen hmembers (hnamed f hf hrequired)).resolve_left List.not_mem_nil

/-- Elements that the fields in their places agree on. -/
theorem readPositions_agree {fields : List (Field α)} {nodes nodes' : List Node}
    (hlength : nodes.length = fields.length)
    (h : List.Forall₂ (fun place node' => Agrees place.1.read place.2 node')
      (fields.zip nodes) nodes') {room index : Nat} {cut : Option Break} {record a : α}
    (hread : readPositions shape room cut index record fields nodes = .ok a) :
    readPositions shape room cut index record fields nodes' = .ok a := by
  induction fields generalizing nodes nodes' index record with
  | nil =>
    obtain rfl := List.length_eq_zero_iff.1 hlength
    cases h
    exact hread
  | cons next fields ih =>
    obtain ⟨node, nodes, rfl⟩ := List.exists_cons_of_length_eq_add_one hlength
    rw [List.zip_cons_cons] at h
    cases h with
    | cons hnode hrest =>
      rw [readPositions] at hread ⊢
      obtain ⟨change, hchange, hread⟩ := bind_eq_ok_iff.1 hread
      exact bind_eq_ok_iff.2
        ⟨change, hnode _ _ hchange, ih (Nat.succ.inj hlength) hrest hread⟩

theorem agrees_readPositions {nodes nodes' : List Node} {cut : Option Break}
    (hlength : nodes.length = shape.fields.length)
    (h : List.Forall₂ (fun place node' => Agrees place.1.read place.2 node')
      (shape.fields.zip nodes) nodes') :
    Agrees (readRecord shape) (.array nodes cut) (.array nodes' cut) := by
  intro room a hread
  obtain ⟨inner, rfl, hread⟩ := enter_eq_ok_iff.1 hread
  exact readPositions_agree hlength h hread

end Records

/-! ## Maps -/

section Maps

variable {value : Reader α}

/-- The pairs that members are read as. -/
def ReadAs (value : Reader α) (room : Nat) : List (Quoted × Node) → List (String × α) → Prop :=
  List.Forall₂ fun member pair =>
    member.1.text = .ok pair.1 ∧ value room member.2 = .ok pair.2

/-- Reading takes a list of members apart where it is put together. -/
theorem ReadAs.split {room : Nat}
    {before after : List (Quoted × Node)} {member : Quoted × Node} {pairs : List (String × α)}
    (h : ReadAs value room (before ++ member :: after) pairs) :
    ∃ first pair last, pairs = first ++ pair :: last ∧ member.1.text = .ok pair.1
      ∧ value room member.2 = .ok pair.2 ∧ ReadAs value room after last := by
  induction before generalizing pairs with
  | nil =>
    obtain - | ⟨⟨hname, hvalue⟩, hrest⟩ := h
    exact ⟨[], _, _, rfl, hname, hvalue, hrest⟩
  | cons earlier before ih =>
    obtain - | ⟨-, hrest⟩ := h
    obtain ⟨first, pair, last, rfl, hpair⟩ := ih hrest
    exact ⟨_ :: first, pair, last, rfl, hpair⟩

/-- The names of the pairs are those of the members. -/
theorem ReadAs.exists_mem {room : Nat}
    {members : List (Quoted × Node)} {pairs : List (String × α)}
    (h : ReadAs value room members pairs) {name : String} (hname : name ∈ pairs.map Prod.fst) :
    ∃ member ∈ members, member.1.text = .ok name := by
  induction h with
  | nil => exact absurd hname List.not_mem_nil
  | cons hmember _ ih =>
    rcases List.mem_cons.1 hname with rfl | hin
    · exact ⟨_, List.mem_cons_self, hmember.1⟩
    · obtain ⟨member, hmember, htext⟩ := ih hin
      exact ⟨member, List.mem_cons_of_mem _ hmember, htext⟩

theorem readEntries_eq_ok_iff {room : Nat} {map result : OrderedMap String α}
    {members : List (Quoted × Node)} :
    readEntries value room map members = .ok result
      ↔ ∃ pairs, ReadAs value room members pairs
        ∧ result = pairs.foldl (fun map pair => map.insert pair.1 pair.2) map := by
  induction members generalizing map with
  | nil =>
    rw [readEntries, Except.ok.injEq]
    constructor
    · rintro rfl
      exact ⟨[], .nil, rfl⟩
    · rintro ⟨pairs, hpairs, rfl⟩
      cases hpairs
      rfl
  | cons member rest ih =>
    obtain ⟨quoted, node⟩ := member
    rw [readEntries, bind_eq_ok_iff]
    constructor
    · rintro ⟨name, hname, h⟩
      obtain ⟨held, hheld, h⟩ := bind_eq_ok_iff.1 h
      obtain ⟨pairs, hpairs, rfl⟩ := ih.1 h
      exact ⟨(name, held) :: pairs, .cons ⟨hname, hheld⟩ hpairs, rfl⟩
    · rintro ⟨pairs, hpairs, rfl⟩
      obtain - | @⟨_, ⟨name, held⟩, _, pairs, ⟨hname, hheld⟩, hrest⟩ := hpairs
      exact ⟨name, hname, bind_eq_ok_iff.2 ⟨held, hheld, ih.2 ⟨pairs, hrest, rfl⟩⟩⟩

/-- A map holds the pairs that its members are read as. -/
theorem readMap_eq_ok_iff {room : Nat} {members : List (Quoted × Node)} {cut : Option Break}
    {map : OrderedMap String α} :
    readMap value room (.object members cut) = .ok map
      ↔ ∃ inner pairs, room = inner + 1 ∧ cut = none ∧ ReadAs value inner members pairs
        ∧ map = OrderedMap.ofList pairs := by
  rw [readMap, enter_eq_ok_iff]
  constructor
  · rintro ⟨inner, rfl, h⟩
    obtain ⟨read, hread, h⟩ := bind_eq_ok_iff.1 h
    obtain ⟨hcut, h⟩ := check_bind_eq_ok_iff.1 h
    obtain ⟨pairs, hpairs, rfl⟩ := readEntries_eq_ok_iff.1 hread
    exact ⟨inner, pairs, rfl, whole_eq_ok_iff.1 hcut, hpairs, (Except.ok.inj h).symm⟩
  · rintro ⟨inner, pairs, rfl, rfl, hpairs, rfl⟩
    exact ⟨inner, rfl, bind_eq_ok_iff.2 ⟨_, readEntries_eq_ok_iff.2 ⟨pairs, hpairs, rfl⟩, rfl⟩⟩

/-- A map whose members have values that the reader agrees on. -/
theorem agrees_readMap {members members' : List (Quoted × Node)} {cut : Option Break}
    (h : List.Forall₂ (fun member member' => member'.1 = member.1 ∧ Agrees value member.2 member'.2)
      members members') : Agrees (readMap value) (.object members cut) (.object members' cut) := by
  intro room map hread
  obtain ⟨inner, pairs, rfl, hcut, hpairs, hmap⟩ := readMap_eq_ok_iff.1 hread
  refine readMap_eq_ok_iff.2 ⟨inner, pairs, rfl, hcut, ?_, hmap⟩
  clear hread hmap
  induction h generalizing pairs with
  | nil => exact hpairs
  | cons hmember _ ih =>
    obtain - | ⟨⟨hname, hvalue⟩, hrest⟩ := hpairs
    exact .cons ⟨hmember.1 ▸ hname, hmember.2 _ _ hvalue⟩ (ih _ hrest)

end Maps

end RubricScore.Json
