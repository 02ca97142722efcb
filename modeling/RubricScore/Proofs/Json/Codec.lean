import RubricScore.Proofs.Json.Written
import RubricScore.Rubric.Document

/-!
# Laws of readers

What a reader makes of the node that is written for a value. A floating-point number need not come
back, so a law says under which condition a value is read and which value it is; the laws of records
and maps are assembled from those of their parts.

## Main definitions

* `Gives`: a result is a value under a condition, and a fault otherwise;
* `reread`: the number that the text of a number is read as;
* `WrittenField`: a field of a record with the law of what is written for it.

## Main results

* `gives_readWord`, `gives_readReal`, `gives_readString`: the laws of the parts;
* `gives_readMap`: a map is read value by value, its names in the same order;
* `gives_readRecord`: a record is read field by field.
-/

namespace RubricScore

namespace Json

variable {α β : Type}

/-! ## Results under a condition -/

/-- The result is the value if the condition holds, and a fault otherwise. -/
def Gives (result : Except Fault α) (condition : Prop) (value : α) : Prop :=
  ∀ a, result = .ok a ↔ condition ∧ a = value

namespace Gives

variable {result : Except Fault α} {p q : Prop} {a : α} {b : β}

theorem ok (a : α) : Gives (.ok a) True a := by
  intro c
  rw [Except.ok.injEq, true_and, eq_comm]

theorem congr (h : Gives result p a) (hp : p ↔ q) : Gives result q a :=
  fun c => (h c).trans (and_congr_left' hp)

/-- A step goes on with the value of the step before it. -/
theorem bind {next : α → Except Fault β} (h : Gives result p a) (hnext : Gives (next a) q b) :
    Gives (result >>= next) (p ∧ q) b := by
  intro c
  cases hresult : result with
  | error fault =>
    -- The condition fails, or else the result would be the value.
    have hp : ¬ p := fun hp => absurd (hresult.symm.trans ((h a).2 ⟨hp, rfl⟩)) (by simp)
    simp [Bind.bind, Except.bind, hp]
  | ok value =>
    obtain ⟨hp, rfl⟩ := (h value).1 hresult
    show next value = .ok c ↔ _
    rw [hnext c, and_iff_right hp]

theorem map (f : α → β) (h : Gives result p a) : Gives (result.map f) p (f a) := by
  intro c
  cases hresult : result with
  | error fault =>
    have hp : ¬ p := fun hp => absurd (hresult.symm.trans ((h a).2 ⟨hp, rfl⟩)) (by simp)
    simp [Except.map, hp]
  | ok value =>
    obtain ⟨hp, rfl⟩ := (h value).1 hresult
    simp [Except.map, hp, eq_comm]

end Gives

/-! ## Strings -/

/-- The elements of a written string give the string back. -/
theorem glyphsText_map_glyphOf (done characters : List Char) :
    glyphsText none done (characters.map glyphOf) = .ok (done.reverse ++ characters) := by
  induction characters generalizing done with
  | nil => simp [glyphsText, whole, bind, Except.bind, pure, Except.pure]
  | cons c rest ih =>
    rw [List.map_cons, glyphOf]
    split
    · next hcontrol =>
      rw [glyphsText.eq_def]
      dsimp only
      rw [if_pos (.inl (by omega)), Char.ofNat_toNat, ih]
      simp
    · rw [glyphsText, ih]
      simp

/-- The text of a written string is the string. -/
theorem text_quoted (s : String) : (Quoted.ofString s).text = .ok s := by
  rw [Quoted.text, Quoted.ofString, glyphsText_map_glyphOf]
  simp [Except.map]

theorem gives_readString (room : Nat) (s : String) :
    Gives (readString room (Value.string s).node) True s := by
  rw [Value.node]
  show Gives (Quoted.ofString s).text True s
  rw [text_quoted]
  exact Gives.ok s

/-! ## Numbers -/

/-- A word is read as itself. -/
theorem read_numeral_ofNat (n : UInt64) :
    (Numeral.ofNat false n.toNat).read = .ok (.natural n) := by
  have hvalue : Nat.ofDigitChars 10 (Nat.toDigits 10 n.toNat) 0 = n.toNat :=
    Nat.ofDigitChars_toDigits (by decide) (by decide)
  have hgather : gather 0 (Nat.toDigits 10 n.toNat) = (n.toNat, []) := by
    have := (Binary64.gather_spec (fun _ => Binary64.isDigit_of_mem_toDigits) (by decide)).2.2
      (hvalue ▸ n.toNat_lt)
    rwa [hvalue] at this
  have hnumber : (Numeral.ofNat false n.toNat).number? = some (.natural n) := by
    simp [Numeral.number?, Numeral.ofNat, hgather]
  rw [Numeral.read, hnumber]

theorem gives_readWord (name : String) (room : Nat) (n : UInt64) :
    Gives (readWord name room (Value.word n).node) True n := by
  have hread : readWord name room (Value.word n).node = .ok n := by
    rw [Value.word, Value.node, Number.node, readWord, read_numeral_ofNat]
    rfl
  rw [hread]
  exact Gives.ok n

/-- The number that the text of a number is read as, if it is read as one. -/
def reread (x : Binary64) : Option Binary64 :=
  (decode readReal (Value.real x).text).toOption

theorem reread_eq (x : Binary64) (room : Nat) :
    reread x = (readReal room (Value.real x).node).toOption := by
  -- A number is read without entering a container, so the room left plays no part.
  have hroom : ∀ node, readReal depthLimit node = readReal room node := by
    intro node
    cases node <;> rfl
  rw [reread, decode, ofText_text, hroom]
  cases readReal room (Value.real x).node <;> rfl

/-- A number is read as what its text stands for, if it stands for a number. -/
theorem gives_readReal (room : Nat) (x : Binary64) :
    Gives (readReal room (Value.real x).node) (reread x).isSome ((reread x).getD x) := by
  rw [reread_eq x room]
  intro y
  cases readReal room (Value.real x).node with
  | error fault => simp [Except.toOption]
  | ok value => simp [Except.toOption, eq_comm]

/-- A number that is not finite is written as `null` and is not read. -/
theorem reread_of_not_isFinite {x : Binary64} (h : x.isFinite = false) : reread x = none := by
  rw [reread_eq x 0]
  cases x with
  | nan => rfl
  | infinite => rfl
  | finite => exact absurd h (by simp [Binary64.isFinite])

/-! ## Maps -/

section Maps

variable {value : Reader α} {write : α → Value} {condition : α → Prop} {change : α → α}
  {room : Nat}

/-- The members of a map are inserted one after the other. -/
theorem gives_readEntries
    (h : ∀ a, Gives (value room (write a).node) (condition a) (change a))
    (entries : List (String × α)) (map : OrderedMap String α) :
    Gives (readEntries value room map
        (memberNodes (entries.map fun entry => (entry.1, write entry.2))))
      (∀ entry ∈ entries, condition entry.2)
      ((entries.map fun entry => (entry.1, change entry.2)).foldl
        (fun map pair => map.insert pair.1 pair.2) map) := by
  induction entries generalizing map with
  | nil => exact (Gives.ok map).congr (by simp)
  | cons entry rest ih =>
    rw [List.map_cons, memberNodes, memberNode, readEntries, text_quoted]
    refine ((Gives.ok entry.1).bind ((h entry.2).bind
      (ih (map.insert entry.1 (change entry.2))))).congr ?_
    rw [true_and, List.forall_mem_cons]

/-- A map is read value by value, under the same names in the same order. -/
theorem gives_readMap
    (h : ∀ a, Gives (value room (write a).node) (condition a) (change a))
    (map : OrderedMap String α) :
    Gives (readMap value (room + 1) (map.toJson write).node)
      (∀ entry ∈ map.entries, condition entry.2) (map.mapValues fun _ => change) := by
  have hentries := gives_readEntries h map.entries .empty
  -- Names are distinct, so inserting the entries one after the other rebuilds the map.
  have hmap : (map.entries.map fun entry => (entry.1, change entry.2)).foldl
        (fun map pair => map.insert pair.1 pair.2) OrderedMap.empty
      = map.mapValues fun _ => change := by
    rw [← OrderedMap.ofList, ← OrderedMap.mapValues_ofList, OrderedMap.ofList_entries]
  rw [hmap] at hentries
  rw [OrderedMap.toJson, Value.node, readMap, enter]
  exact (hentries.bind (Gives.ok (map.mapValues fun _ => change))).congr (by rw [and_true])

end Maps

/-! ## Records -/

/-- A field of a record, the node that is written for it, and what reading this node does to the
record. -/
structure WrittenField (α : Type) (room : Nat) where
  /-- The field. -/
  field : Field α
  /-- The node that is written for it. -/
  node : Node
  /-- When the node is read. -/
  condition : Prop
  /-- What it does to the record. -/
  change : α → α
  /-- The law of the field. -/
  reads : Gives (field.read room node) condition change

namespace WrittenField

/-- A field that puts a value into the record. -/
def of {room : Nat} {value : Reader β} {node : Node} {condition : Prop} {b : β} (name : String)
    (required : Bool) (put : β → α → α) (h : Gives (value room node) condition b) :
    WrittenField α room where
  field := Json.field name required value put
  node := node
  condition := condition
  change := put b
  reads := h.map put

/-- The member that is written for the field. -/
def member {room : Nat} (item : WrittenField α room) : Quoted × Node :=
  (.ofString item.field.name, item.node)

end WrittenField

/-- In a list of distinct names every field is found by its name. -/
theorem find?_name {fields : List (Field α)} (h : (fields.map Field.name).Nodup) {f : Field α}
    (hf : f ∈ fields) : fields.find? (·.name == f.name) = some f := by
  induction fields with
  | nil => exact absurd hf List.not_mem_nil
  | cons head rest ih =>
    rw [List.map_cons, List.nodup_cons] at h
    rcases List.mem_cons.1 hf with rfl | hin
    · exact List.find?_cons_of_pos (by simp)
    · have hne : head.name ≠ f.name := fun heq => h.1 (heq ▸ List.mem_map_of_mem hin)
      rw [List.find?_cons_of_neg (by simpa using hne)]
      exact ih h.2 hin

section Records

variable {room : Nat}

/-- The members of a record change it one after the other. -/
theorem gives_readMembers {fields : List (Field α)} (hfields : (fields.map Field.name).Nodup)
    {items : List (WrittenField α room)} (hknown : ∀ item ∈ items, item.field ∈ fields)
    (hdistinct : (items.map fun item => item.field.name).Nodup) {seen : List String}
    (hseen : ∀ item ∈ items, item.field.name ∉ seen) (record : α) :
    Gives (readMembers fields room seen record (items.map WrittenField.member))
      (∀ item ∈ items, item.condition)
      ((items.map fun item => item.field.name).reverse ++ seen,
        items.foldl (fun record item => item.change record) record) := by
  -- By induction on the members: the name of each is known, and was not seen before it.
  induction items generalizing seen record with
  | nil => exact (Gives.ok _).congr (by simp)
  | cons item rest ih =>
    rw [List.map_cons, List.nodup_cons] at hdistinct
    have hfind := find?_name hfields (hknown item List.mem_cons_self)
    have hrest : ∀ other ∈ rest, other.field.name ∉ item.field.name :: seen := by
      intro other hin
      rw [List.mem_cons, not_or]
      refine ⟨fun heq => hdistinct.1 ?_, hseen other (List.mem_cons_of_mem _ hin)⟩
      rw [← heq]
      exact List.mem_map_of_mem hin
    have hmembers := ih (fun other hin => hknown other (List.mem_cons_of_mem _ hin)) hdistinct.2
      hrest (item.change record)
    rw [List.map_cons, WrittenField.member, readMembers, text_quoted]
    have hname : ∀ next : String → Except Fault (List String × α),
        (Except.ok item.field.name >>= next) = next item.field.name := fun _ => rfl
    rw [hname, hfind]
    dsimp only
    rw [if_neg (hseen item List.mem_cons_self)]
    have hboth : Gives (item.field.read room item.node >>= fun change =>
          readMembers fields room (item.field.name :: seen) (change record)
            (rest.map WrittenField.member))
        (item.condition ∧ ∀ other ∈ rest, other.condition) _ := item.reads.bind hmembers
    rw [List.map_cons, List.reverse_cons, List.append_assoc, List.singleton_append,
      List.foldl_cons]
    exact hboth.congr List.forall_mem_cons.symm

/-- A record is read field by field from the object that has its fields in order. -/
theorem gives_readRecord {shape : Shape α} (items : List (WrittenField α room))
    (hfields : items.map WrittenField.field = shape.fields)
    (hdistinct : (shape.fields.map Field.name).Nodup) :
    Gives (readRecord shape (room + 1) (.object (items.map WrittenField.member) none))
      (∀ item ∈ items, item.condition)
      (items.foldl (fun record item => item.change record) shape.blank) := by
  have hnames : items.map (fun item => item.field.name) = shape.fields.map Field.name := by
    rw [← hfields, List.map_map]
    rfl
  have hknown : ∀ item ∈ items, item.field ∈ shape.fields := by
    intro item hin
    rw [← hfields]
    exact List.mem_map_of_mem hin
  have hmembers := gives_readMembers hdistinct hknown (hnames ▸ hdistinct)
    (fun item _ => List.not_mem_nil) shape.blank
  rw [hnames, List.append_nil] at hmembers
  -- Every field was seen, so none is missing.
  have habsent : shape.fields.find? (fun f => f.required
      && !(shape.fields.map Field.name).reverse.contains f.name) = none := by
    rw [List.find?_eq_none]
    intro f hf
    have hin : f.name ∈ shape.fields.map Field.name := List.mem_map_of_mem hf
    simp [hin]
  rw [readRecord, enter]
  refine (hmembers.bind ?_).congr (by rw [and_true])
  dsimp only
  rw [habsent]
  exact Gives.ok _

end Records

end Json

end RubricScore
