import Mathlib.Data.List.Induction
import RubricScore.OrderedMap

/-!
# Maps of pairs with repeated names

When a name occurs more than once among the pairs that a map is built from, its first pair gives the
place and its last pair the value.

## Main results

* `names_ofList`: names stand in the order of their first pairs;
* `get?_ofList`, `get?_ofList_append`: the value of a name is that of its last pair.
-/

namespace RubricScore.OrderedMap

variable {κ α : Type} [DecidableEq κ]

/-- A name has no value just when it does not stand among the names. -/
theorem lookup_eq_none_iff_not_mem {pairs : List (κ × α)} {name : κ} :
    pairs.lookup name = none ↔ name ∉ pairs.map Prod.fst := by
  rw [List.lookup_eq_none_iff, List.mem_map]
  simp only [bne_iff_ne, ne_eq, not_exists, not_and]
  exact ⟨fun h pair hpair heq => h pair hpair heq.symm, fun h pair hpair heq => h pair hpair heq.symm⟩

/-- The value of the last name is the one that is replaced. -/
theorem putEntry_append_self {pairs : List (κ × α)} {name : κ} {value held : α}
    (h : name ∉ pairs.map Prod.fst) :
    putEntry name value (pairs ++ [(name, held)]) = pairs ++ [(name, value)] := by
  induction pairs with
  | nil => exact if_pos rfl
  | cons pair rest ih =>
    rw [List.map_cons, List.mem_cons, not_or] at h
    rw [List.cons_append, putEntry, if_neg h.1, ih h.2, List.cons_append]

/-- A new name is put at the end, and one that is there keeps its place. -/
theorem names_insert {map : OrderedMap κ α} {name : κ} {value : α} :
    (map.insert name value).names
      = if name ∈ map.names then map.names else map.names ++ [name] := by
  show (putEntry name value map.entries).map Prod.fst
    = if name ∈ map.entries.map Prod.fst then map.entries.map Prod.fst
      else map.entries.map Prod.fst ++ [name]
  induction map.entries with
  | nil => rfl
  | cons entry rest ih =>
    obtain ⟨other, held⟩ := entry
    rw [putEntry]
    by_cases heq : name = other
    · subst heq
      simp
    · rw [if_neg heq, List.map_cons, ih, List.map_cons]
      by_cases hmem : name ∈ rest.map Prod.fst <;> simp [heq, hmem]

/-- The last pair is inserted last. -/
theorem ofList_snoc (pairs : List (κ × α)) (pair : κ × α) :
    ofList (pairs ++ [pair]) = (ofList pairs).insert pair.1 pair.2 := by
  rw [ofList, List.foldl_append]
  rfl

/-- Names stand in the order of their first pairs. -/
theorem names_ofList (pairs : List (κ × α)) :
    (ofList pairs).names = (pairs.map Prod.fst).eraseDups := by
  induction pairs using List.reverseRecOn with
  | nil => rfl
  | append_singleton pairs pair ih =>
    rw [ofList_snoc, names_insert, ih, List.map_append, List.eraseDups_append]
    by_cases hname : pair.1 ∈ pairs.map Prod.fst
    · have hnew : ([pair].map Prod.fst).removeAll (pairs.map Prod.fst) = [] := by
        simpa [List.removeAll] using hname
      rw [if_pos (List.mem_eraseDups.2 hname), hnew, List.eraseDups_nil, List.append_nil]
    · have hnew : ([pair].map Prod.fst).removeAll (pairs.map Prod.fst) = [pair.1] := by
        simpa [List.removeAll] using hname
      rw [if_neg fun hmem => hname (List.mem_eraseDups.1 hmem), hnew]
      rfl

/-- The value of a name is that of its last pair. -/
theorem get?_ofList (pairs : List (κ × α)) (name : κ) :
    (ofList pairs).get? name = pairs.reverse.lookup name := by
  induction pairs using List.reverseRecOn with
  | nil => rfl
  | append_singleton pairs pair ih =>
    obtain ⟨other, value⟩ := pair
    rw [ofList_snoc, get?_insert, ih, List.reverse_append]
    by_cases hname : name = other <;> simp [hname, List.lookup_cons, beq_eq_false_iff_ne.2]

theorem get?_ofList_append {before after : List (κ × α)} {name : κ} {value : α}
    (h : name ∉ after.map Prod.fst) :
    (ofList (before ++ (name, value) :: after)).get? name = some value := by
  have hafter : after.reverse.lookup name = none := by
    rw [lookup_eq_none_iff_not_mem, List.map_reverse, List.mem_reverse]
    exact h
  rw [get?_ofList, List.reverse_append, List.reverse_cons, List.lookup_append, List.lookup_append,
    hafter]
  simp

end RubricScore.OrderedMap
