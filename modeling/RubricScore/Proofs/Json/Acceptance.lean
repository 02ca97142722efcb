import RubricScore.Proofs.Json.Parts

/-!
# Which documents are read

A record is read from an object just when the names in it are texts, no name of a field stands
twice, and what stands for a field can be read as its value. The order of the members does not
matter for that, nor do the values of members that the record does not have.

## Main definitions

* `Distinguishes`: names of members, of which some stand once at most;
* `Node.IsText`, `Node.IsWord`, `Node.IsReal`: the value that a node stands for.

## Main results

* `exists_readRecord_iff`: the objects that are read as a record whose fields have defaults;
* `readList_eq_ok_iff`, `readText_eq_ok_iff`, `readWord_eq_ok_iff`, `readReal_eq_ok_iff`: the nodes
  that are read as a list, a text or a number.
-/

namespace RubricScore.Json

variable {α β : Type}

/-! ## Values -/

/-- The node is a string with a text. -/
def Node.IsText (node : Node) (text : String) : Prop :=
  ∃ quoted, node = .string quoted ∧ quoted.text = .ok text

/-- The node is a number without sign, point and exponent, whose digits stand for a word. -/
def Node.IsWord (node : Node) (w : UInt64) : Prop :=
  ∃ digits, node = .number ⟨false, digits, [], none⟩ ∧ Nat.ofDigitChars 10 digits 0 = w.toNat

/-- The node is a number that is rounded to a floating-point number. -/
def Node.IsReal (node : Node) (x : Binary64) : Prop :=
  ∃ numeral n, node = .number numeral ∧ numeral.number? = some n ∧ n.rounded = x

theorem readText_eq_ok_iff {name : String} {room : Nat} {node : Node} {text : String} :
    readText name room node = .ok text ↔ node.IsText text := by
  cases node with
  | string quoted => simp [readText, Node.IsText]
  | _ => simp [readText, refuse_ne_ok, Node.IsText]

theorem numeral_read_eq_ok_iff {numeral : Numeral} {n : Number} :
    numeral.read = .ok n ↔ numeral.number? = some n := by
  rw [Numeral.read]
  cases numeral.number? <;> simp [breakAt]

/-- Where no digit is left, all digits count. -/
theorem gather_fst_of_snd_eq_nil {digits : List Char} (h : ∀ c ∈ digits, Binary64.isDigit c)
    {start : Nat} (hleft : (gather start digits).2 = []) :
    (gather start digits).1 = Nat.ofDigitChars 10 digits start := by
  induction digits generalizing start with
  | nil => rfl
  | cons c rest ih =>
    obtain ⟨hc, hrest⟩ := List.forall_mem_cons.1 h
    have hnext : start * 10 + (Binary64.digit? c).getD 0 = 10 * start + (c.toNat - '0'.toNat) := by
      rw [Binary64.digit?_of_isDigit hc, Option.getD_some, Nat.mul_comm]
    rw [gather] at hleft ⊢
    split at hleft
    · next hfits =>
      rw [if_pos hfits, ih hrest hleft, hnext, Nat.ofDigitChars_cons]
    · cases hleft

theorem number?_eq_natural_iff {numeral : Numeral} (h : ∀ c ∈ numeral.whole, Binary64.isDigit c)
    {w : UInt64} :
    numeral.number? = some (.natural w)
      ↔ ∃ digits, numeral = ⟨false, digits, [], none⟩ ∧ Nat.ofDigitChars 10 digits 0 = w.toNat := by
  obtain ⟨negative, whole, fraction, exponent⟩ := numeral
  rw [Numeral.number?]
  dsimp only at h ⊢
  constructor
  · intro hnumber
    split at hnumber
    · next hexact =>
      obtain ⟨hleft, rfl, rfl, -⟩ := hexact
      cases negative with
      | true => cases hnumber
      | false =>
        -- No digit is left, so that the word has gathered all of them.
        have hword : UInt64.ofNat (gather 0 whole).1 = w := by simpa using hnumber
        have hlt := (Binary64.gather_spec h (by decide : 0 < UInt64.size)).1
        refine ⟨whole, rfl, ?_⟩
        rw [← hword, UInt64.toNat_ofNat_of_lt' hlt, gather_fst_of_snd_eq_nil h hleft]
    · simp at hnumber
  · rintro ⟨digits, heq, hvalue⟩
    obtain ⟨rfl, rfl, rfl, rfl⟩ := Numeral.mk.inj heq
    have hgather := (Binary64.gather_spec h (by decide : 0 < UInt64.size)).2.2
      (hvalue ▸ w.toNat_lt)
    simp [hgather, hvalue]

theorem readWord_eq_ok_iff {name : String} {room : Nat} {node : Node} (h : node.HasText)
    {w : UInt64} : readWord name room node = .ok w ↔ node.IsWord w := by
  cases node with
  | number numeral =>
    obtain ⟨text, htext⟩ := h
    have hdigits : ∀ c ∈ numeral.whole, Binary64.isDigit c := htext.wellFormed.wholeDigits
    have hread : readWord name room (.number numeral) = .ok w
        ↔ numeral.number? = some (.natural w) := by
      rw [readWord, bind_eq_ok_iff, ← numeral_read_eq_ok_iff]
      constructor
      · rintro ⟨n, hn, hw⟩
        cases n with
        | natural m => rw [hn, Except.ok.inj hw]
        | negative => cases hw
        | real => cases hw
      · exact fun hn => ⟨_, hn, rfl⟩
    rw [hread, number?_eq_natural_iff hdigits]
    simp only [Node.IsWord, Node.number.injEq]
  | _ => simp [readWord, refuse_ne_ok, Node.IsWord]

theorem readReal_eq_ok_iff {room : Nat} {node : Node} {x : Binary64} :
    readReal room node = .ok x ↔ node.IsReal x := by
  cases node with
  | number numeral =>
    rw [readReal, bind_eq_ok_iff]
    simp only [Node.IsReal, numeral_read_eq_ok_iff]
    constructor
    · rintro ⟨n, hn, hx⟩
      refine ⟨numeral, n, rfl, hn, ?_⟩
      cases n <;> exact Except.ok.inj hx
    · rintro ⟨_, n, heq, hn, rfl⟩
      obtain rfl := Node.number.inj heq
      refine ⟨n, hn, ?_⟩
      cases n <;> rfl
  | _ => simp [readReal, refuse_ne_ok, Node.IsReal]

theorem mapM_eq_ok_iff {f : α → Except Fault β} {xs : List α} {ys : List β} :
    xs.mapM f = .ok ys ↔ List.Forall₂ (fun x y => f x = .ok y) xs ys := by
  induction xs generalizing ys with
  | nil => cases ys <;> simp
  | cons x xs ih =>
    rw [List.mapM_cons, bind_eq_ok_iff, List.forall₂_cons_left_iff]
    simp only [bind_eq_ok_iff, ih, pure_eq_ok, Except.ok.injEq]
    constructor
    · rintro ⟨y, hy, ys, hys, rfl⟩
      exact ⟨y, ys, hy, hys, rfl⟩
    · rintro ⟨y, ys, hy, hys, rfl⟩
      exact ⟨y, hy, ys, hys, rfl⟩

/-- A list is read item by item. -/
theorem readList_eq_ok_iff {item : Reader α} {room : Nat} {node : Node} {values : List α} :
    readList item room node = .ok values
      ↔ ∃ inner items, room = inner + 1 ∧ node = .array items none
        ∧ List.Forall₂ (fun node value => item inner node = .ok value) items values := by
  cases node with
  | array items cut =>
    rw [readList, enter_eq_ok_iff]
    constructor
    · rintro ⟨inner, rfl, h⟩
      obtain ⟨read, hread, h⟩ := bind_eq_ok_iff.1 h
      obtain ⟨hcut, h⟩ := check_bind_eq_ok_iff.1 h
      obtain rfl := Except.ok.inj h
      exact ⟨inner, items, rfl, congrArg _ (whole_eq_ok_iff.1 hcut), mapM_eq_ok_iff.1 hread⟩
    · rintro ⟨inner, _, rfl, heq, hitems⟩
      obtain ⟨rfl, rfl⟩ := Node.array.inj heq
      exact ⟨inner, rfl, bind_eq_ok_iff.2 ⟨values, mapM_eq_ok_iff.2 hitems, rfl⟩⟩
  | _ => simp [readList, refuse_ne_ok]

/-! ## Records -/

/-- Members with texts as names, of which the given ones stand once at most. -/
structure Distinguishes (names : List String) (members : List (Quoted × Node)) : Prop where
  /-- Every name is a text. -/
  named : ∀ member ∈ members, ∃ name, member.1.text = .ok name
  /-- None of the given names stands twice. -/
  once : members.Pairwise fun member other =>
    ∀ name ∈ names, member.1.text = .ok name → other.1.text ≠ .ok name

section Records

variable {fields : List (Field α)}

/-- A member names the field that has its name, if there is one. -/
theorem Takes.mem_names_iff {room : Nat} {member : Quoted × Node} {names : List String}
    {change : α → α} (h : Takes fields room member names change) {name : String} :
    name ∈ names ↔ name ∈ fields.map Field.name ∧ member.1.text = .ok name := by
  cases h with
  | @passed _ _ other hother hfind =>
    refine iff_of_false List.not_mem_nil ?_
    rintro ⟨hknown, hname⟩
    obtain rfl := Except.ok.inj (hother.symm.trans hname)
    obtain ⟨f, hf, heq⟩ := List.mem_map.1 hknown
    exact List.find?_eq_none.1 hfind f hf (beq_iff_eq.2 heq)
  | @known _ _ other f _ hother hfind =>
    have hfname : f.name = other := by simpa using List.find?_some hfind
    rw [List.mem_singleton]
    constructor
    · rintro rfl
      exact ⟨hfname ▸ List.mem_map_of_mem (List.mem_of_find?_eq_some hfind), hother⟩
    · exact fun hname => Except.ok.inj (hname.2.symm.trans hother)

/-- A member is taken if its name is a text, and if, where the name is that of a field, it was not
seen before and the value can be read. -/
theorem exists_takes_iff (hfields : (fields.map Field.name).Nodup) {room : Nat}
    {seen : List String} {member : Quoted × Node} (hwhole : member.2.cut? = none) :
    (∃ names change, Takes fields room member names change ∧ ∀ name ∈ names, name ∉ seen)
      ↔ (∃ name, member.1.text = .ok name)
        ∧ ∀ f ∈ fields, member.1.text = .ok f.name →
          f.name ∉ seen ∧ ∃ change, f.read room member.2 = .ok change := by
  obtain ⟨quoted, node⟩ := member
  constructor
  · rintro ⟨names, change, htakes, hnew⟩
    have hnames (name : String) :
        name ∈ names ↔ name ∈ fields.map Field.name ∧ quoted.text = .ok name :=
      htakes.mem_names_iff
    cases htakes with
    | @passed _ _ name hname =>
      refine ⟨⟨name, hname⟩, fun f hf hfname => ?_⟩
      exact absurd ((hnames f.name).2 ⟨List.mem_map_of_mem hf, hfname⟩) List.not_mem_nil
    | @known _ _ name g _ hname hfind hchange =>
      refine ⟨⟨name, hname⟩, fun f hf hfname => ?_⟩
      obtain rfl := Except.ok.inj (hname.symm.trans hfname)
      -- The field that was found is the only one with the name.
      have hgname : g.name = f.name := by simpa using List.find?_some hfind
      obtain rfl := List.inj_on_of_nodup_map hfields (List.mem_of_find?_eq_some hfind) hf hgname
      exact ⟨hnew _ List.mem_cons_self, change, hchange⟩
  · rintro ⟨⟨name, hname⟩, hread⟩
    cases hfind : fields.find? (·.name == name) with
    | none => exact ⟨[], id, .passed hname hfind hwhole, nofun⟩
    | some f =>
      have hfname : f.name = name := by simpa using List.find?_some hfind
      obtain ⟨hseen, change, hchange⟩ :=
        hread f (List.mem_of_find?_eq_some hfind) (hfname ▸ hname)
      exact ⟨[name], change, .known hname hfind hchange,
        List.forall_mem_singleton.2 (hfname ▸ hseen)⟩

/-- Members can be read just when their names are texts, none of the names of fields stands twice or
was seen before, and the values of fields can be read. -/
theorem exists_readMembers_iff (hfields : (fields.map Field.name).Nodup) {room : Nat}
    {seen : List String} {record : α} {members : List (Quoted × Node)}
    (hwhole : ∀ member ∈ members, member.2.cut? = none) :
    (∃ result, readMembers fields room seen record members = .ok result)
      ↔ Distinguishes (fields.map Field.name) members
        ∧ ∀ member ∈ members, ∀ f ∈ fields, member.1.text = .ok f.name →
          f.name ∉ seen ∧ ∃ change, f.read room member.2 = .ok change := by
  -- By induction on the members, whatever was seen before them and however the record stands.
  induction members generalizing seen record with
  | nil => exact iff_of_true ⟨_, rfl⟩ ⟨⟨nofun, .nil⟩, nofun⟩
  | cons member rest ih =>
    obtain ⟨hcut, hwhole⟩ := List.forall_mem_cons.1 hwhole
    constructor
    · rintro ⟨result, h⟩
      obtain ⟨names, change, htakes, hnew, hrest⟩ := readMembers_cons_iff.1 h
      obtain ⟨hname, hfirst⟩ := (exists_takes_iff hfields hcut).1 ⟨names, change, htakes, hnew⟩
      obtain ⟨⟨hnamed, honce⟩, hread⟩ := (ih hwhole).1 ⟨result, hrest⟩
      refine ⟨⟨List.forall_mem_cons.2 ⟨hname, hnamed⟩, List.pairwise_cons.2 ⟨?_, honce⟩⟩,
        List.forall_mem_cons.2 ⟨hfirst, fun other hin f hf hother => ?_⟩⟩
      · intro other hin known hknown heq hother
        obtain ⟨f, hf, rfl⟩ := List.mem_map.1 hknown
        exact (hread other hin f hf hother).1
          (List.mem_append_left _ (htakes.mem_names_iff.2 ⟨hknown, heq⟩))
      · exact (hread other hin f hf hother).imp_left fun hnot hold =>
          hnot (List.mem_append_right _ hold)
    · rintro ⟨⟨hnamed, honce⟩, hread⟩
      obtain ⟨hname, hnamed⟩ := List.forall_mem_cons.1 hnamed
      obtain ⟨hdistinct, honce⟩ := List.pairwise_cons.1 honce
      obtain ⟨hfirst, hread⟩ := List.forall_mem_cons.1 hread
      obtain ⟨names, change, htakes, hnew⟩ := (exists_takes_iff hfields hcut).2 ⟨hname, hfirst⟩
      -- The name of a later member is not that of this one, and was not seen before.
      have hlater : ∀ other ∈ rest, ∀ f ∈ fields, other.1.text = .ok f.name →
          f.name ∉ names ++ seen ∧ ∃ change, f.read room other.2 = .ok change := by
        intro other hin f hf hother
        obtain ⟨hnot, hvalue⟩ := hread other hin f hf hother
        refine ⟨fun hold => (List.mem_append.1 hold).elim (fun hnow => ?_) hnot, hvalue⟩
        obtain ⟨hknown, heq⟩ := htakes.mem_names_iff.1 hnow
        exact hdistinct other hin f.name hknown heq hother
      obtain ⟨result, hrest⟩ := (@ih _ (change record) hwhole).2 ⟨⟨hnamed, honce⟩, hlater⟩
      exact ⟨result, readMembers_cons_iff.2 ⟨names, change, htakes, hnew, hrest⟩⟩

variable {shape : Shape α}

/-- The objects that are read as a record whose fields have defaults. -/
theorem exists_readRecord_iff (hnames : (shape.fields.map Field.name).Nodup)
    (hdefaults : ∀ f ∈ shape.fields, f.required = false) {room : Nat}
    {members : List (Quoted × Node)} (h : (Node.object members none).HasText) :
    (∃ a, readRecord shape (room + 1) (.object members none) = .ok a)
      ↔ Distinguishes (shape.fields.map Field.name) members
        ∧ ∀ f ∈ shape.fields, ∀ node,
          HasField (shape.fields.map Field.name) (.object members none) f.name node →
            ∃ change, f.read room node = .ok change := by
  have hwhole : ∀ member ∈ members, member.2.cut? = none := fun member hin =>
    (h.member hin).cut?_eq_none
  have hmembers : (∃ a, readRecord shape (room + 1) (.object members none) = .ok a)
      ↔ ∃ result, readMembers shape.fields room [] shape.blank members = .ok result := by
    constructor
    · rintro ⟨a, hread⟩
      obtain ⟨inner, named, hroom, -, hread, -⟩ := readRecord_object_iff.1 hread
      obtain rfl := Nat.succ.inj hroom
      exact ⟨_, hread⟩
    · rintro ⟨⟨named, a⟩, hread⟩
      exact ⟨a, readRecord_object_iff.2 ⟨room, named, rfl, rfl, hread, fun f hf hrequired =>
        absurd hrequired (Bool.eq_false_iff.1 (hdefaults f hf))⟩⟩
  rw [hmembers, exists_readMembers_iff hnames hwhole]
  refine and_congr_right fun _ => ⟨fun hread f hf node hfield => ?_,
    fun hread member hin f hf hname =>
      ⟨List.not_mem_nil, hread f hf member.2 (.member hin hname)⟩⟩
  cases hfield with
  | member hin hname => exact (hread _ hin f hf hname).2

/-- A field is read where its value is. -/
theorem exists_read_field_iff {name : String} {required : Bool} {value : Reader β}
    {put : β → α → α} {room : Nat} {node : Node} :
    (∃ change, (field name required value put).read room node = .ok change)
      ↔ ∃ b, value room node = .ok b := by
  simp [field]

end Records

end RubricScore.Json
