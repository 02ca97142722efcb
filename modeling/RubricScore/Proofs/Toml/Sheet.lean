import RubricScore.Proofs.OrderedMap
import RubricScore.Proofs.Toml.Recognition
import RubricScore.Toml.Document

/-!
# Sheets

A sheet is what most configuration files are: bindings, and then tables with a name and bindings
each. A file that is laid out as a sheet is read as the sheet if no name is used twice, and not at
all otherwise.

## Main definitions

* `Sheet`: bindings and tables;
* `Sheet.SpelledBy`: the texts of a sheet;
* `Sheet.IsDistinct`: no name is used twice in one place.

## Main results

* `Sheet.document?_eq_some_iff`: what the text of a sheet is read as.
-/

namespace RubricScore.Toml

/-- Bindings, and tables of bindings. -/
structure Sheet where
  /-- The bindings in front of the first table. -/
  top : Members
  /-- The tables, each with its name and its bindings. -/
  tables : List (String × Members)

/-- Each entry is bound to its name. -/
def bindings (entries : Members) : List Statement :=
  entries.map fun entry => .binding [entry.1] entry.2

namespace Sheet

/-- A header and the bindings of its table. -/
def block (table : String × Members) : List Statement :=
  .table [table.1] :: bindings table.2

/-- The statements of a sheet. -/
def statements (sheet : Sheet) : List Statement :=
  bindings sheet.top ++ sheet.tables.flatMap block

/-- The texts of a sheet. -/
def SpelledBy (sheet : Sheet) (text : List Char) : Prop :=
  IsStatements sheet.statements text

/-- The members of a sheet. -/
def members (sheet : Sheet) : Members :=
  sheet.top ++ sheet.tables.map fun table => (table.1, .table .header table.2)

/-- No name stands twice in the sheet or in one of its tables. -/
structure IsDistinct (sheet : Sheet) : Prop where
  /-- The names of bindings and tables. -/
  names : (sheet.members.map Prod.fst).Nodup
  /-- The names in a table. -/
  entries : ∀ table ∈ sheet.tables, (table.2.map Prod.fst).Nodup

end Sheet

/-! ## Adding to members -/

section Members

open OrderedMap (lookup_eq_none_iff_not_mem putEntry_append_self)

variable {name : String} {before done : Members} {heading : List String}

theorem nodup_append_cons {entry : String × Value} {rest : Members} :
    ((done ++ entry :: rest).map Prod.fst).Nodup → entry.1 ∉ done.map Prod.fst := by
  intro h hmem
  rw [List.map_append, List.map_cons] at h
  exact (List.nodup_append.1 h).2.2 _ hmem _ List.mem_cons_self rfl

theorem nodup_append_singleton {entry : String × Value} (hdone : (done.map Prod.fst).Nodup)
    (hentry : entry.1 ∉ done.map Prod.fst) : ((done ++ [entry]).map Prod.fst).Nodup := by
  rw [List.map_append]
  refine List.nodup_append.2 ⟨hdone, by simp, fun name hname other hother => ?_⟩
  rintro rfl
  rw [List.mem_singleton.1 hother] at hname
  exact hentry hname

/-- Names that are bound one after the other must differ. -/
theorem foldlM_assign (hdone : (done.map Prod.fst).Nodup) (entries : Members) :
    entries.foldlM (fun done entry => Members.assign entry.2 true done [entry.1]) done
      = if ((done ++ entries).map Prod.fst).Nodup then some (done ++ entries) else none := by
  -- By induction on the entries: a name is taken just when it stands among those before it.
  induction entries generalizing done with
  | nil =>
    rw [List.append_nil, if_pos hdone]
    rfl
  | cons entry rest ih =>
    rw [List.foldlM_cons, Members.assign]
    by_cases hmem : entry.1 ∈ done.map Prod.fst
    · rw [if_neg fun h => nodup_append_cons h hmem, if_neg fun h =>
        lookup_eq_none_iff_not_mem.1 h.2 hmem]
      rfl
    · have happend : done ++ entry :: rest = done ++ [entry] ++ rest := by simp
      rw [if_pos ⟨rfl, lookup_eq_none_iff_not_mem.2 hmem⟩, happend]
      exact ih (nodup_append_singleton hdone hmem)

/-- The draft with given members before the first header. -/
def Draft.plain (members : Members) : Draft :=
  ⟨members, []⟩

/-- The draft with given members in front of a table that is being filled. -/
def Draft.filling (before : Members) (name : String) (members : Members) : Draft :=
  ⟨before ++ [(name, .table .header members)], [name]⟩

/-- Bindings are added where the draft takes them. -/
theorem foldlM_bindings {into : Members → Draft}
    (hadd : ∀ done name value, (into done).add (.binding [name] value)
      = (Members.assign value true done [name]).map into)
    (hdone : (done.map Prod.fst).Nodup) (entries : Members) :
    (bindings entries).foldlM Draft.add (into done)
      = if ((done ++ entries).map Prod.fst).Nodup then some (into (done ++ entries)) else none := by
  have hfold : (bindings entries).foldlM Draft.add (into done)
      = (entries.foldlM (fun done entry => Members.assign entry.2 true done [entry.1]) done).map
          into := by
    -- The draft follows the members that it is made of.
    clear hdone
    induction entries generalizing done with
    | nil => rfl
    | cons entry rest ih =>
      rw [bindings, List.map_cons, List.foldlM_cons, List.foldlM_cons, hadd]
      cases Members.assign entry.2 true done [entry.1] with
      | none => rfl
      | some next => exact ih
  rw [hfold, foldlM_assign hdone]
  split <;> rfl

theorem plain_add (done : Members) (name : String) (value : Value) :
    (Draft.plain done).add (.binding [name] value)
      = (Members.assign value true done [name]).map Draft.plain :=
  rfl

theorem filling_add (hname : name ∉ before.map Prod.fst) (done : Members) (key : String)
    (value : Value) : (Draft.filling before name done).add (.binding [key] value)
      = (Members.assign value true done [key]).map (Draft.filling before name) := by
  have hlookup : (before ++ [(name, Value.table .header done)]).lookup name
      = some (.table .header done) := by
    rw [List.lookup_append, lookup_eq_none_iff_not_mem.2 hname, Option.none_or,
      List.lookup_cons_self]
  rw [Draft.filling, Draft.add, if_neg (List.cons_ne_nil _ _), Members.changeAt, hlookup,
    Members.assignIn]
  cases Members.assign value true done [key] with
  | none => rfl
  | some next => simp [Draft.filling, putEntry_append_self hname]

/-- A header begins a table unless its name is taken. -/
theorem add_table (hheader : ∀ held, before.lookup name = some held →
    Members.defineTable (some held) = none) :
    (Draft.mk before heading).add (.table [name])
      = if name ∈ before.map Prod.fst then none else some (Draft.filling before name []) := by
  rw [Draft.add, Members.changeAt]
  split
  · next hmem =>
    obtain ⟨held, hheld⟩ := Option.ne_none_iff_exists'.1 fun h =>
      lookup_eq_none_iff_not_mem.1 h hmem
    rw [hheld, hheader held hheld]
    rfl
  · next hmem =>
    rw [lookup_eq_none_iff_not_mem.2 hmem]
    simp [Members.defineTable, putEntry_of_not_mem hmem, Draft.filling]

/-- Tables are added one after the other. No name may be taken, nor stand twice in a table. -/
theorem foldlM_blocks (hbefore : (before.map Prod.fst).Nodup)
    (hclosed : ∀ entry ∈ before, Members.defineTable (some entry.2) = none)
    (tables : List (String × Members)) :
    let added := before ++ tables.map fun table => (table.1, Value.table .header table.2)
    ((tables.flatMap Sheet.block).foldlM Draft.add ⟨before, heading⟩).map Draft.members
      = if (added.map Prod.fst).Nodup ∧ ∀ table ∈ tables, (table.2.map Prod.fst).Nodup then
          some added
        else none := by
  dsimp only
  -- By induction on the tables: each is begun and filled, and is behind us at the next header.
  induction tables generalizing before heading with
  | nil =>
    rw [List.map_nil, List.append_nil, if_pos ⟨hbefore, nofun⟩]
    rfl
  | cons table rest ih =>
    obtain ⟨name, entries⟩ := table
    have hheader : ∀ held, before.lookup name = some held →
        Members.defineTable (some held) = none := by
      intro held hheld
      obtain ⟨front, back, rfl, -⟩ := List.lookup_eq_some_iff.1 hheld
      exact hclosed (name, held) (List.mem_append_right _ List.mem_cons_self)
    rw [List.flatMap_cons, List.foldlM_append, Sheet.block, List.foldlM_cons, add_table hheader,
      List.map_cons]
    by_cases hmem : name ∈ before.map Prod.fst
    · rw [if_pos hmem, if_neg fun h => nodup_append_cons h.1 hmem]
      rfl
    · rw [if_neg hmem]
      have hentries : (bindings entries).foldlM Draft.add (Draft.filling before name [])
          = if (entries.map Prod.fst).Nodup then some (Draft.filling before name entries)
            else none := by
        exact @foldlM_bindings [] _ (filling_add hmem) List.nodup_nil entries
      have hrest := @ih (before ++ [(name, .table .header entries)]) [name]
        (nodup_append_singleton hbefore hmem)
        (List.forall_mem_append.2 ⟨hclosed, List.forall_mem_singleton.2 rfl⟩)
      simp only [List.append_assoc, List.singleton_append] at hrest
      show ((bindings entries).foldlM Draft.add (Draft.filling before name []) >>= fun draft =>
        (rest.flatMap Sheet.block).foldlM Draft.add draft).map Draft.members = _
      rw [hentries]
      by_cases hnodup : (entries.map Prod.fst).Nodup
      · rw [if_pos hnodup]
        refine hrest.trans (if_congr ?_ rfl rfl)
        rw [List.forall_mem_cons, and_iff_right hnodup]
      · rw [if_neg hnodup, if_neg fun h => hnodup (h.2 (name, entries) List.mem_cons_self)]
        rfl

end Members

/-! ## Documents -/

/-- A value that has a text is no table, and a header does not make it one. -/
theorem IsValue.defineTable_eq_none {room : Nat} {value : Value} {own : List Char}
    (h : IsValue room value own) : Members.defineTable (some value) = none := by
  rcases h.isAtom_or with h | ⟨items, rfl⟩
  · obtain - | (- | - | -) := h <;> rfl
  · rfl

/-- Every statement of a text has a text of its own. -/
theorem IsStatements.exists_own {list : List Statement} {text : List Char}
    (h : IsStatements list text) : ∀ statement ∈ list, ∃ own, IsStatement statement own := by
  induction h with
  | done => exact nofun
  | last _ hown => exact List.forall_mem_singleton.2 ⟨_, hown⟩
  | skip _ _ _ ih => exact ih
  | line _ hown _ _ _ ih => exact List.forall_mem_cons.2 ⟨⟨_, hown⟩, ih⟩

namespace Sheet

variable {sheet : Sheet} {text : List Char}

/-- The values of a sheet have texts. -/
theorem SpelledBy.exists_own (h : sheet.SpelledBy text) :
    (∀ entry ∈ sheet.top, ∃ own, IsValue (depthLimit - 1) entry.2 own)
      ∧ ∀ table ∈ sheet.tables, ∀ entry ∈ table.2, ∃ own, IsValue (depthLimit - 1) entry.2 own := by
  have hown := IsStatements.exists_own h
  have hbinding : ∀ entry : String × Value, Statement.binding [entry.1] entry.2 ∈ sheet.statements →
      ∃ own, IsValue (depthLimit - 1) entry.2 own := by
    intro entry hentry
    obtain ⟨own, ⟨-, -, hvalue⟩⟩ := hown _ hentry
    exact ⟨_, hvalue⟩
  constructor
  · exact fun entry hentry =>
      hbinding entry (List.mem_append_left _ (List.mem_map_of_mem hentry))
  · intro table htable entry hentry
    refine hbinding entry (List.mem_append_right _ (List.mem_flatMap.2 ⟨table, htable, ?_⟩))
    exact List.mem_cons_of_mem _ (List.mem_map_of_mem hentry)

/-- The text of a sheet is read as the members of the sheet if no name stands twice in one place,
and as nothing otherwise. -/
theorem document?_eq_some_iff (h : sheet.SpelledBy text) {members : Members} :
    document? text = some members ↔ sheet.IsDistinct ∧ sheet.members = members := by
  have hstatements : statements? text = some sheet.statements := statements?_of_isStatements h
  have htop : (bindings sheet.top).foldlM Draft.add Draft.blank
      = if (sheet.top.map Prod.fst).Nodup then some (Draft.plain sheet.top) else none := by
    exact @foldlM_bindings [] _ plain_add List.nodup_nil sheet.top
  have hdocument : document? text = (sheet.statements.foldlM Draft.add Draft.blank).map
      Draft.members := by
    rw [document?, hstatements, Option.bind_eq_bind, Option.bind_some]
    cases sheet.statements.foldlM Draft.add Draft.blank <;> rfl
  -- The bindings in front of the tables are added first.
  rw [hdocument, statements, List.foldlM_append, htop]
  by_cases hnames : (sheet.top.map Prod.fst).Nodup
  · have hclosed : ∀ entry ∈ sheet.top, Members.defineTable (some entry.2) = none := by
      intro entry hentry
      obtain ⟨own, hown⟩ := h.exists_own.1 entry hentry
      exact hown.defineTable_eq_none
    rw [if_pos hnames]
    show ((sheet.tables.flatMap block).foldlM Draft.add ⟨sheet.top, []⟩).map Draft.members
      = some members ↔ _
    rw [foldlM_blocks hnames hclosed]
    split
    · next hdistinct =>
      rw [Option.some.injEq, and_iff_right ⟨hdistinct.1, hdistinct.2⟩]
      rfl
    · next hdouble => exact iff_of_false nofun fun h => hdouble ⟨h.1.names, h.1.entries⟩
  · rw [if_neg hnames]
    refine iff_of_false nofun fun h => hnames ?_
    have hall := h.1.names
    rw [Sheet.members, List.map_append] at hall
    exact (List.nodup_append.1 hall).1

end Sheet

end RubricScore.Toml
