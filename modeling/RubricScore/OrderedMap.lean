/-!
# Maps in order of insertion

An `OrderedMap` pairs distinct names with values and keeps the names in the order in which they were
first inserted. Inserting a name again replaces its value and keeps its place.
-/

namespace RubricScore

variable {κ α β : Type} [DecidableEq κ]

/-- Replaces the value of a name where it stands, or adds the pair at the end. -/
def putEntry (name : κ) (value : α) : List (κ × α) → List (κ × α)
  | [] => [(name, value)]
  | (other, held) :: rest =>
    if name = other then (name, value) :: rest else (other, held) :: putEntry name value rest

theorem mem_names_putEntry {name other : κ} {value : α} {entries : List (κ × α)} :
    other ∈ (putEntry name value entries).map Prod.fst ↔
      other = name ∨ other ∈ entries.map Prod.fst := by
  induction entries with
  | nil => simp [putEntry]
  | cons entry rest ih =>
    obtain ⟨held, v⟩ := entry
    unfold putEntry
    split
    · next h =>
      subst h
      simp
    · simp only [List.map_cons, List.mem_cons, ih]
      grind

theorem nodup_putEntry {name : κ} {value : α} {entries : List (κ × α)}
    (h : (entries.map Prod.fst).Nodup) : ((putEntry name value entries).map Prod.fst).Nodup := by
  induction entries with
  | nil => simp [putEntry]
  | cons entry rest ih =>
    obtain ⟨held, v⟩ := entry
    unfold putEntry
    split
    · next heq =>
      subst heq
      simpa using h
    · next hne =>
      simp only [List.map_cons, List.nodup_cons] at h ⊢
      refine ⟨fun hmem => ?_, ih h.2⟩
      rcases mem_names_putEntry.1 hmem with heq | hin
      · exact hne heq.symm
      · exact h.1 hin

theorem putEntry_of_not_mem {name : κ} {value : α} {entries : List (κ × α)}
    (h : name ∉ entries.map Prod.fst) :
    putEntry name value entries = entries ++ [(name, value)] := by
  induction entries with
  | nil => rfl
  | cons entry rest ih =>
    obtain ⟨held, v⟩ := entry
    rw [List.map_cons, List.mem_cons, not_or] at h
    rw [putEntry, if_neg h.1, ih h.2, List.cons_append]

theorem lookup_putEntry {name other : κ} {value : α} {entries : List (κ × α)} :
    (putEntry name value entries).lookup other
      = if other = name then some value else entries.lookup other := by
  induction entries with
  | nil => grind [putEntry]
  | cons entry rest ih =>
    obtain ⟨held, v⟩ := entry
    grind [putEntry]

/-- Values under distinct names, in order of first insertion. -/
@[ext]
structure OrderedMap (κ α : Type) where
  /-- The pairs, in order. -/
  entries : List (κ × α)
  /-- No name stands twice. -/
  distinct : (entries.map Prod.fst).Nodup

namespace OrderedMap

/-- The map without entries. -/
def empty : OrderedMap κ α :=
  ⟨[], List.nodup_nil⟩

instance : Inhabited (OrderedMap κ α) :=
  ⟨empty⟩

/-- The map with one name bound to a value; a name that is there keeps its place. -/
def insert (map : OrderedMap κ α) (name : κ) (value : α) : OrderedMap κ α :=
  ⟨putEntry name value map.entries, nodup_putEntry map.distinct⟩

/-- The map that results from inserting the pairs one after the other. -/
def ofList (pairs : List (κ × α)) : OrderedMap κ α :=
  pairs.foldl (fun map pair => map.insert pair.1 pair.2) empty

/-- The value of a name. -/
def get? (map : OrderedMap κ α) (name : κ) : Option α :=
  map.entries.lookup name

/-- Number of entries. -/
def size (map : OrderedMap κ α) : Nat :=
  map.entries.length

/-- The values, in order. -/
def values (map : OrderedMap κ α) : List α :=
  map.entries.map Prod.snd

/-- The names, in order. -/
def names (map : OrderedMap κ α) : List κ :=
  map.entries.map Prod.fst

/-- The map with every value changed by a function of its name and itself. -/
def mapValues (f : κ → α → β) (map : OrderedMap κ α) : OrderedMap κ β where
  entries := map.entries.map fun entry => (entry.1, f entry.1 entry.2)
  distinct := by
    have h : (map.entries.map fun entry => (entry.1, f entry.1 entry.2)).map Prod.fst
        = map.entries.map Prod.fst := by
      simp [List.map_map, Function.comp_def]
    rw [h]
    exact map.distinct

omit [DecidableEq κ] in
theorem names_mapValues (f : κ → α → β) (map : OrderedMap κ α) :
    (map.mapValues f).names = map.names := by
  simp [names, mapValues, Function.comp_def]

omit [DecidableEq κ] in
theorem values_mapValues (f : κ → α → β) (map : OrderedMap κ α) :
    (map.mapValues f).values = map.entries.map fun entry => f entry.1 entry.2 := by
  simp [values, mapValues, Function.comp_def]

theorem get?_mapValues (f : κ → α → β) (map : OrderedMap κ α) (name : κ) :
    (map.mapValues f).get? name = (map.get? name).map (f name) := by
  show (map.entries.map fun entry => (entry.1, f entry.1 entry.2)).lookup name
    = (map.entries.lookup name).map (f name)
  induction map.entries with
  | nil => rfl
  | cons entry rest ih =>
    obtain ⟨held, v⟩ := entry
    rw [List.map_cons, List.lookup_cons, List.lookup_cons, ih]
    cases heq : name == held with
    | true =>
      rw [beq_iff_eq] at heq
      subst heq
      rfl
    | false => rfl

theorem get?_eq_some_iff {map : OrderedMap κ α} {name : κ} {value : α} :
    map.get? name = some value ↔ (name, value) ∈ map.entries := by
  obtain ⟨entries, hdistinct⟩ := map
  show entries.lookup name = some value ↔ (name, value) ∈ entries
  induction entries with
  | nil => simp
  | cons entry rest ih =>
    obtain ⟨held, v⟩ := entry
    rw [List.map_cons, List.nodup_cons] at hdistinct
    rw [List.lookup_cons, List.mem_cons]
    by_cases heq : name = held
    · -- The name stands at the front, so it does not stand behind it.
      subst heq
      have hrest : (name, value) ∉ rest :=
        fun hin => hdistinct.1 (List.mem_map.2 ⟨(name, value), hin, rfl⟩)
      simp [hrest, eq_comm]
    · simp [heq, ih hdistinct.2, beq_eq_false_iff_ne.2 heq]

/-- A map is what results from inserting its own pairs. -/
theorem ofList_entries (map : OrderedMap κ α) : ofList map.entries = map := by
  -- Pairs with new names are added at the end of any map, one after the other.
  suffices h : ∀ (pairs : List (κ × α)) (start : OrderedMap κ α),
      ((start.entries ++ pairs).map Prod.fst).Nodup →
        (pairs.foldl (fun map pair => map.insert pair.1 pair.2) start).entries
          = start.entries ++ pairs from
    OrderedMap.ext (h map.entries empty map.distinct)
  intro pairs
  induction pairs with
  | nil => exact fun start _ => (List.append_nil _).symm
  | cons pair rest ih =>
    intro start hdistinct
    have hnew : pair.1 ∉ start.entries.map Prod.fst := by
      rw [List.map_append, List.map_cons] at hdistinct
      exact fun hin => (List.nodup_append.1 hdistinct).2.2 _ hin _ List.mem_cons_self rfl
    have hinsert : (start.insert pair.1 pair.2).entries = start.entries ++ [pair] :=
      putEntry_of_not_mem hnew
    have hrest := ih (start.insert pair.1 pair.2)
    rw [hinsert, List.append_assoc, List.singleton_append] at hrest
    exact hrest hdistinct

/-- Pairs with distinct names stay as they are. -/
theorem entries_ofList {pairs : List (κ × α)} (h : (pairs.map Prod.fst).Nodup) :
    (ofList pairs).entries = pairs :=
  congrArg entries (ofList_entries ⟨pairs, h⟩)

/-- Changing the values commutes with an insertion. -/
theorem mapValues_insert (f : α → β) (map : OrderedMap κ α) (name : κ) (value : α) :
    (map.insert name value).mapValues (fun _ => f)
      = (map.mapValues fun _ => f).insert name (f value) := by
  refine OrderedMap.ext ?_
  show (putEntry name value map.entries).map (fun entry => (entry.1, f entry.2))
    = putEntry name (f value) (map.entries.map fun entry => (entry.1, f entry.2))
  induction map.entries with
  | nil => rfl
  | cons entry rest ih =>
    rw [List.map_cons, putEntry, putEntry]
    split
    · rfl
    · rw [List.map_cons, ih]

/-- Changing the values before or after the pairs are inserted gives the same map. -/
theorem mapValues_ofList (f : α → β) (pairs : List (κ × α)) :
    (ofList pairs).mapValues (fun _ => f) = ofList (pairs.map fun pair => (pair.1, f pair.2)) := by
  suffices h : ∀ map : OrderedMap κ α,
      (pairs.foldl (fun map pair => map.insert pair.1 pair.2) map).mapValues (fun _ => f)
        = (pairs.map fun pair => (pair.1, f pair.2)).foldl
            (fun map pair => map.insert pair.1 pair.2) (map.mapValues fun _ => f) from h empty
  induction pairs with
  | nil => exact fun _ => rfl
  | cons pair rest ih =>
    intro map
    rw [List.foldl_cons, ih, List.map_cons, List.foldl_cons, mapValues_insert]

theorem get?_insert {map : OrderedMap κ α} {name other : κ} {value : α} :
    (map.insert name value).get? other = if other = name then some value else map.get? other :=
  lookup_putEntry

end OrderedMap

end RubricScore
