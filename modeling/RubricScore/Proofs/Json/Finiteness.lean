import RubricScore.Proofs.Except
import RubricScore.Proofs.Json.Reread

/-!
# Numbers that are read are finite

A document has no spelling for infinities and NaNs, and a numeral that overflows is malformed. So
every floating-point number that is read is finite, however large or small its exponent. Readers of
maps and records hand on what holds of the values they are put together from.

## Main definitions

* `Yields`: every value that a reader gives has a property;
* `Field.Keeps`: whatever is read into a field, the record keeps a property.

## Main results

* `isFinite_of_number?`: no numeral stands for a number that is not finite;
* `yields_readReal`: so all numbers that are read are finite;
* `Yields.readMap`, `yields_readRecord`: maps and records have what their parts have.
-/

namespace RubricScore

open Binary64

attribute [local irreducible] twoPow one limit

/-! ## Quotients -/

theorem Binary64.isFinite_neg {x : Binary64} (h : x.isFinite) : (-x).isFinite := by
  cases x with
  | nan => exact absurd h (by simp [isFinite])
  | infinite => exact absurd h (by simp [isFinite])
  | finite => rfl

/-- A quotient by at least one unit is at most the number that is divided. -/
theorem Binary64.HasQuanta.div_of_one_le {x y : Binary64} {m n : Nat} (hx : x.HasQuanta m)
    (hy : y.HasQuanta n) (hn : one ≤ n) : ∃ q, (x / y).HasQuanta q := by
  have hpos : 0 < n := Nat.lt_of_lt_of_le unit_pos hn
  have hle : nearest (m * one) n ≤ m :=
    nearest_le hpos hx.isMagnitude (Nat.mul_le_mul_left m hn)
  exact ⟨_, hx.div hy (Nat.ne_of_gt hpos) (Nat.lt_of_le_of_lt hle hx.lt_limit)⟩

namespace Json

/-! ## Numerals -/

/-- The digits are gathered into a word, whatever characters they are. -/
theorem gather_lt (digits : List Char) {start : Nat} (h : start < UInt64.size) :
    (gather start digits).1 < UInt64.size := by
  induction digits generalizing start with
  | nil => exact h
  | cons c rest ih =>
    rw [gather]
    split
    · next hnext => exact ih hnext
    · exact h

theorem exists_hasQuanta_ofNat {word : Nat} (h : word < UInt64.size) :
    ∃ q, (Binary64.ofNat word).HasQuanta q := by
  have hword := hasQuanta_ofWord (.ofNat word)
  rw [ofWord, UInt64.toNat_ofNat_of_lt' h] at hword
  exact ⟨_, hword⟩

/-- The greatest exponent at which a power of ten does not overflow. -/
def lastPower : Nat :=
  308

theorem nearest_lastPower_lt : nearest (Nat.pow 10 lastPower * one) 1 < limit := by
  decide +kernel

/-- A power of ten that does not overflow is at least one unit. -/
theorem exists_hasQuanta_powerOfTen {exponent : Nat} (h : exponent < 309) :
    ∃ q, (powerOfTen exponent).HasQuanta q ∧ one ≤ q := by
  have hle : exponent ≤ lastPower := Nat.le_of_lt_succ h
  have hlt := Nat.lt_of_le_of_lt (nearest_pow_ten_mono hle) nearest_lastPower_lt
  rw [powerOfTen_eq h]
  refine ⟨_, hasQuanta_ofNat_nearest hlt, ?_⟩
  refine le_nearest Nat.one_pos isMagnitude_one ?_
  rw [Nat.mul_one]
  exact Nat.le_mul_of_pos_left one (pow_ten_pos exponent)

/-- Dividing by powers of ten step by step never leaves the finite numbers. -/
theorem exists_hasQuanta_scaleDown {x : Binary64} {m : Nat} (hx : x.HasQuanta m) (exponent : Nat) :
    ∃ q, (scaleDown x exponent).HasQuanta q := by
  fun_induction scaleDown x exponent generalizing m with
  | case1 x exponent hle =>
    -- The last step divides by what is left of the power.
    obtain ⟨n, hn, hone⟩ := exists_hasQuanta_powerOfTen (Nat.lt_succ_of_le hle)
    exact hx.div_of_one_le hn hone
  | case2 x exponent _ hzero => exact ⟨m, hx⟩
  | case3 x exponent _ hzero ih =>
    obtain ⟨n, hn, hone⟩ := exists_hasQuanta_powerOfTen (Nat.lt_succ_self 308)
    obtain ⟨q, hq⟩ := hx.div_of_one_le hn hone
    exact ih hq

/-- A word times a power of ten is finite if it is a number at all. -/
theorem isFinite_of_scale {word : Nat} (hword : word < UInt64.size) {places : Int} {x : Binary64}
    (h : scale word places = some x) : x.isFinite := by
  obtain ⟨m, hm⟩ := exists_hasQuanta_ofNat hword
  cases places with
  | negSucc exponent =>
    obtain ⟨q, hq⟩ := exists_hasQuanta_scaleDown hm (exponent + 1)
    rw [scale, Option.some.injEq] at h
    exact h ▸ hq.isFinite
  | ofNat exponent =>
    rw [scale] at h
    dsimp only at h
    split at h
    · -- Beyond the range of the powers of ten there is only zero.
      obtain ⟨-, hsome⟩ := Option.ite_none_right_eq_some.1 h
      exact Option.some.inj hsome ▸ hm.isFinite
    · obtain ⟨hfinite, hsome⟩ := Option.ite_none_right_eq_some.1 h
      exact Option.some.inj hsome ▸ hfinite

theorem isFinite_of_magnitude? {numeral : Numeral} {x : Binary64}
    (h : numeral.magnitude? = some x) : x.isFinite := by
  have hfront : (gather 0 numeral.whole).1 < UInt64.size := gather_lt _ (by decide)
  have hword := gather_lt numeral.fraction hfront
  unfold Numeral.magnitude? at h
  dsimp only at h
  split at h
  · exact isFinite_of_scale hword h
  · split at h
    · -- A huge negative exponent gives zero.
      obtain ⟨-, hsome⟩ := Option.ite_none_left_eq_some.1 h
      exact Option.some.inj hsome ▸ hasQuanta_zero.isFinite
    · exact isFinite_of_scale hword h

/-- The floating-point number that a number is taken for. -/
def Number.rounded : Number → Binary64
  | .natural n => Binary64.ofWord n
  | .negative n => -Binary64.ofNat n
  | .real x => x

/-- No numeral stands for a number that is not finite. -/
theorem isFinite_of_number? {numeral : Numeral} {n : Number} (h : numeral.number? = some n) :
    n.rounded.isFinite := by
  have hword : (gather 0 numeral.whole).1 < UInt64.size := gather_lt _ (by decide)
  unfold Numeral.number? at h
  dsimp only at h
  split at h
  · rw [Option.some.injEq] at h
    subst h
    split
    · obtain ⟨q, hq⟩ := exists_hasQuanta_ofNat hword
      exact isFinite_neg hq.isFinite
    · exact (hasQuanta_ofWord _).isFinite
  · obtain ⟨x, hx, rfl⟩ := Option.map_eq_some_iff.1 h
    have hfinite := isFinite_of_magnitude? hx
    show (if numeral.negative then -x else x).isFinite = true
    split
    · exact isFinite_neg hfinite
    · exact hfinite

/-! ## Readers -/

variable {α β : Type}

/-- Every value that the reader gives has the property. -/
def Yields (P : α → Prop) (reader : Reader α) : Prop :=
  ∀ room node a, reader room node = .ok a → P a

/-- Whatever is read into the field, a record keeps the property. -/
def Field.Keeps (P : α → Prop) (f : Field α) : Prop :=
  ∀ room node change, f.read room node = .ok change → ∀ a, P a → P (change a)

/-- Where something else is expected no value is given. -/
theorem refuse_ne_ok {expected : String} {node : Node} {a : α} : refuse expected node ≠ .ok a := by
  cases node <;> simp [refuse, reject, breakAt, bind_eq_ok_iff]

theorem enter_eq_ok_iff {room : Nat} {inside : Nat → Except Fault α} {a : α} :
    enter room inside = .ok a ↔ ∃ next, room = next + 1 ∧ inside next = .ok a := by
  cases room <;> simp [enter, breakAt]

/-- Every floating-point number that is read is finite. -/
theorem yields_readReal : Yields (fun x => x.isFinite) readReal := by
  intro room node x h
  unfold readReal at h
  split at h
  · next numeral =>
    obtain ⟨n, hn, hx⟩ := bind_eq_ok_iff.1 h
    have hnumber : numeral.number? = some n := by
      unfold Numeral.read at hn
      split at hn
      · next hsome => rw [hsome, Except.ok.inj hn]
      · exact absurd hn (by simp [breakAt])
    have hrounded : x = n.rounded := by
      cases n <;> exact (Except.ok.inj hx).symm
    rw [hrounded]
    exact isFinite_of_number? hnumber
  · exact absurd h refuse_ne_ok

/-! ## Maps -/

section Maps

variable {P : α → Prop}

theorem forall_putEntry {name : String} {value : α} {entries : List (String × α)} (hvalue : P value)
    (h : ∀ entry ∈ entries, P entry.2) : ∀ entry ∈ putEntry name value entries, P entry.2 := by
  induction entries with
  | nil => simpa [putEntry] using hvalue
  | cons head rest ih =>
    obtain ⟨hhead, hrest⟩ := List.forall_mem_cons.1 h
    obtain ⟨other, held⟩ := head
    unfold putEntry
    -- A name that is there already gets the value; a new one is put at the end.
    split
    · exact List.forall_mem_cons.2 ⟨hvalue, hrest⟩
    · exact List.forall_mem_cons.2 ⟨hhead, ih hrest⟩

theorem forall_readEntries {value : Reader α} (hvalue : Yields P value) {room : Nat}
    {members : List (Quoted × Node)} {map result : OrderedMap String α}
    (h : readEntries value room map members = .ok result) (hmap : ∀ entry ∈ map.entries, P entry.2) :
    ∀ entry ∈ result.entries, P entry.2 := by
  induction members generalizing map with
  | nil =>
    rw [readEntries, Except.ok.injEq] at h
    exact h ▸ hmap
  | cons member rest ih =>
    rw [readEntries] at h
    obtain ⟨name, -, h⟩ := bind_eq_ok_iff.1 h
    obtain ⟨held, hheld, h⟩ := bind_eq_ok_iff.1 h
    exact ih h (forall_putEntry (hvalue _ _ held hheld) hmap)

/-- The values of a map that is read have what every single value has. -/
theorem Yields.readMap {value : Reader α} (h : Yields P value) :
    Yields (fun map => ∀ entry ∈ map.entries, P entry.2) (readMap value) := by
  intro room node result hresult
  unfold Json.readMap at hresult
  split at hresult
  · obtain ⟨room, -, hinside⟩ := enter_eq_ok_iff.1 hresult
    obtain ⟨map, hentries, hinside⟩ := bind_eq_ok_iff.1 hinside
    obtain ⟨-, hmap⟩ := check_bind_eq_ok_iff.1 hinside
    rw [← Except.ok.inj hmap]
    exact forall_readEntries h hentries (by simp [OrderedMap.empty])
  · exact absurd hresult refuse_ne_ok

end Maps

/-! ## Records -/

section Records

variable {P : α → Prop}

/-- A field keeps what no value that can be read into it destroys. -/
theorem Yields.keeps {Q : β → Prop} {value : Reader β} (h : Yields Q value) {put : β → α → α}
    (hput : ∀ b a, Q b → P a → P (put b a)) {name : String} {required : Bool} :
    (field name required value put).Keeps P := by
  intro room node change hchange a ha
  obtain ⟨b, hb, rfl⟩ := map_eq_ok_iff.1 hchange
  exact hput b a (h room node b hb) ha

/-- A field with values that the property does not look at keeps it. -/
theorem Field.Keeps.of_forall {value : Reader β} {put : β → α → α}
    (hput : ∀ b a, P a → P (put b a)) {name : String} {required : Bool} :
    (field name required value put).Keeps P :=
  Yields.keeps (Q := fun _ => True) (fun _ _ _ _ => trivial) fun b a _ => hput b a

variable {fields : List (Field α)} (hfields : ∀ f ∈ fields, f.Keeps P)

include hfields

theorem keeps_readMembers {room : Nat} {seen : List String} {record : α}
    {members : List (Quoted × Node)} {result : List String × α}
    (h : readMembers fields room seen record members = .ok result) (hrecord : P record) :
    P result.2 := by
  induction members generalizing seen record with
  | nil =>
    rw [readMembers, Except.ok.injEq] at h
    exact h ▸ hrecord
  | cons member rest ih =>
    rw [readMembers] at h
    obtain ⟨name, -, h⟩ := bind_eq_ok_iff.1 h
    split at h
    · -- A member without a field leaves the record as it is.
      obtain ⟨-, h⟩ := check_bind_eq_ok_iff.1 h
      exact ih h hrecord
    · next known hfind =>
      split at h
      · exact absurd h (by simp [reject])
      · obtain ⟨change, hchange, h⟩ := bind_eq_ok_iff.1 h
        have hknown := List.mem_of_find?_eq_some hfind
        exact ih h (hfields known hknown _ _ change hchange record hrecord)

theorem keeps_readPositions {shape : Shape α} {room : Nat} {cut : Option Break} {index : Nat}
    {record : α} {nodes : List Node} {result : α}
    (h : readPositions shape room cut index record fields nodes = .ok result)
    (hrecord : P record) : P result := by
  induction fields generalizing index record nodes with
  | nil =>
    cases nodes with
    | nil =>
      rw [readPositions] at h
      obtain ⟨-, h⟩ := check_bind_eq_ok_iff.1 h
      exact Except.ok.inj h ▸ hrecord
    | cons node rest => exact absurd h (by simp [readPositions, breakAt])
  | cons next fields ih =>
    obtain ⟨hnext, hrest⟩ := List.forall_mem_cons.1 hfields
    cases nodes with
    | nil =>
      rw [readPositions] at h
      obtain ⟨-, h⟩ := check_bind_eq_ok_iff.1 h
      split at h
      · exact absurd h (by simp [reject])
      · exact ih hrest h hrecord
    | cons node rest =>
      rw [readPositions] at h
      obtain ⟨change, hchange, h⟩ := bind_eq_ok_iff.1 h
      exact ih hrest h (hnext _ _ change hchange record hrecord)

end Records

/-- A record that is read has a property that holds before anything is read and that every field
keeps. -/
theorem yields_readRecord {P : α → Prop} {shape : Shape α} (hblank : P shape.blank)
    (hfields : ∀ f ∈ shape.fields, f.Keeps P) : Yields P (readRecord shape) := by
  intro room node result hresult
  unfold readRecord at hresult
  split at hresult
  · obtain ⟨room, -, hinside⟩ := enter_eq_ok_iff.1 hresult
    obtain ⟨⟨seen, record⟩, hmembers, hinside⟩ := bind_eq_ok_iff.1 hinside
    obtain ⟨-, hrecord⟩ := check_bind_eq_ok_iff.1 hinside
    split at hrecord
    · exact absurd hrecord (by simp [reject])
    · rw [← Except.ok.inj hrecord]
      exact keeps_readMembers hfields hmembers hblank
  · obtain ⟨room, -, hpositions⟩ := enter_eq_ok_iff.1 hresult
    exact keeps_readPositions hfields hpositions hblank
  · exact absurd hresult refuse_ne_ok

/-- What a reader yields, it yields from a whole document. -/
theorem Yields.decode {P : α → Prop} {reader : Reader α} (h : Yields P reader) {text : List Char}
    {a : α} (ha : decode reader text = .ok a) : P a := by
  unfold Json.decode at ha
  obtain ⟨b, hb, ha⟩ := bind_eq_ok_iff.1 ha
  split at ha
  · exact absurd ha (by simp [breakAt])
  · exact Except.ok.inj ha ▸ h _ _ b hb

end Json

end RubricScore
