import RubricScore.FileTree.Basic
import RubricScore.Proofs.Path.Order

/-!
# Places in a file tree

Whatever stands in a tree is reached from the root through directories, under file names. So the
path of a place has the names on the way to it as its components, and different places have
different paths.

## Main definitions

* `FileTree.Reaches`: a directory is reached from another one through directories only.

## Main results

* `FileTree.mem_below_iff`: what stands below a directory is what stands in a directory that it
  reaches;
* `FileTree.key_path_inj`: places in a tree that have equal paths are equal.
-/

namespace RubricScore

/-! ## Names and paths -/

namespace Location

theorem namesOnto_eq (further : List String) (location : Location) :
    location.namesOnto further = location.names ++ further := by
  induction location generalizing further with
  | root => rfl
  | child name parent ih =>
    rw [names, namesOnto, namesOnto, ih (name :: further), ih [name], List.append_assoc]
    rfl

theorem names_child (name : String) (parent : Location) :
    (child name parent).names = parent.names ++ [name] :=
  namesOnto_eq [name] parent

theorem ofNames_names (location : Location) : ofNames location.names = location := by
  induction location with
  | root => rfl
  | child name parent ih =>
    rw [names_child, ofNames, List.foldl_append]
    exact congrArg (child name) ih

/-- The names on the way to a place may all stand in a directory. -/
def IsNamed (location : Location) : Prop :=
  ∀ name ∈ location.names, IsFileName name

theorem ofPart?_of_isFileName {name : String} (h : IsFileName name) :
    PathComponent.ofPart? name.toList = some (.name name) := by
  obtain ⟨hempty, hdot, hdots, -⟩ := h
  unfold PathComponent.ofPart?
  split
  · next heq => exact absurd (String.toList_injective heq) hempty
  · next heq => exact absurd (String.toList_injective heq) hdot
  · next heq => exact absurd (String.toList_injective heq) hdots
  · rw [String.ofList_toList]

theorem toList_text_path (location : Location) :
    location.path.text.toList = '/' :: ['/'].intercalate (location.names.map String.toList) := by
  simp only [path, String.toList_append, String.toList_intercalate]
  rfl

/-- The components of the path of a place are the root and the names on the way to it. -/
theorem components_path {location : Location} (h : location.IsNamed) :
    location.path.components = .root :: location.names.map .name := by
  have hfront : location.path.front = [.root] := by
    simp [Path.front, Path.isAbsolute, toList_text_path]
  have hparts : location.path.parts.filterMap PathComponent.ofPart?
      = location.names.map .name := by
    unfold IsNamed at h
    rw [Path.parts, toList_text_path]
    cases hnames : location.names with
    | nil => rfl
    | cons name rest =>
      rw [hnames] at h
      -- The slash at the front comes after an empty part, which is no component.
      have hjoined : '/' :: ['/'].intercalate ((name :: rest).map String.toList)
          = ['/'].intercalate ([] :: (name :: rest).map String.toList) := rfl
      have hslash : ∀ part ∈ [] :: (name :: rest).map String.toList, '/' ∉ part := by
        rw [List.forall_mem_cons, List.forall_mem_map]
        exact ⟨List.not_mem_nil, fun name hname => (h name hname).2.2.2⟩
      rw [hjoined, List.splitOn_intercalate '/' hslash (List.cons_ne_nil _ _),
        List.filterMap_cons_none rfl, List.filterMap_map, ← List.filterMap_eq_map]
      exact List.filterMap_congr fun name hname => ofPart?_of_isFileName (h name hname)
  rw [Path.components, hfront, hparts]
  rfl

/-- Places with file names on the way to them are told apart by their paths. -/
theorem key_path_inj {a b : Location} (ha : a.IsNamed) (hb : b.IsNamed) :
    a.path.key = b.path.key ↔ a = b := by
  constructor
  · intro hkey
    rw [Path.key_eq_iff, components_path ha, components_path hb, List.cons.injEq] at hkey
    have hinj : Function.Injective PathComponent.name := fun _ _ => PathComponent.name.inj
    rw [← ofNames_names a, ← ofNames_names b, List.map_injective_iff.2 hinj hkey.2]
  · rintro rfl
    rfl

theorem sizeOf_le_of_within {top location : Location} (h : top.within location) :
    sizeOf top ≤ sizeOf location := by
  induction location with
  | root =>
    rw [within, decide_eq_true_eq] at h
    exact Nat.le_of_eq (by rw [h])
  | child name parent ih =>
    rw [within, Bool.or_eq_true, decide_eq_true_eq] at h
    rcases h with rfl | h
    · exact Nat.le_refl _
    · have := ih h
      simp only [child.sizeOf_spec]
      omega

/-- A place does not lie within the places below it. -/
theorem child_ne_of_within {top here : Location} (h : top.within here) (name : String) :
    child name here ≠ top := by
  rintro rfl
  have := sizeOf_le_of_within h
  simp only [child.sizeOf_spec] at this
  omega

theorem within_child_iff {top here : Location} {name : String} :
    top.within (child name here) ↔ top = child name here ∨ top.within here := by
  rw [within, Bool.or_eq_true, decide_eq_true_eq]

theorem within_self (location : Location) : location.within location := by
  cases location <;> simp [within]

end Location

/-! ## Places in a tree -/

namespace FileTree

/-- The place is a directory that is reached from another one through directories only. -/
inductive Reaches (tree : FileTree) (top : Location) : Location → Prop
  /-- The directory itself. -/
  | top : Reaches tree top top
  /-- A directory in a directory that is reached. -/
  | enter {here : Location} {name : String} (h : Reaches tree top here)
      (hentry : tree.entry? (.child name here) = some .directory) :
      Reaches tree top (.child name here)

variable {tree : FileTree}

theorem directoryAt_iff {location : Location} :
    DirectoryAt tree.entries location ↔ tree.entry? location = some .directory := by
  cases location <;> simp [DirectoryAt, entry?]

theorem hasDirectory_iff {location : Location} :
    tree.hasDirectory location ↔ tree.entry? location = some .directory := by
  rw [hasDirectory, decide_eq_true_eq, directoryAt_iff]

theorem mem_names_of_eq_some {name : String} {here : Location} {entry : Entry}
    (h : tree.entry? (.child name here) = some entry) : .child name here ∈ tree.entries.names :=
  List.mem_map.2 ⟨_, OrderedMap.get?_eq_some_iff.1 h, rfl⟩

/-- Whatever stands in a tree stands in a directory. -/
theorem entry?_parent {name : String} {here : Location} {entry : Entry}
    (h : tree.entry? (.child name here) = some entry) : tree.entry? here = some .directory :=
  directoryAt_iff.1 (tree.sheltered _ (mem_names_of_eq_some h)).2

/-- The way to anything in a tree goes along file names. -/
theorem isNamed_of_eq_some {location : Location} {entry : Entry}
    (h : tree.entry? location = some entry) : location.IsNamed := by
  -- Up to the root, since each name stands in a directory of the tree.
  induction location generalizing entry with
  | root => exact fun name hname => absurd hname List.not_mem_nil
  | child name parent ih =>
    have hname := tree.named _ (mem_names_of_eq_some h) name rfl
    rw [Location.IsNamed, Location.names_child]
    intro other hother
    rcases List.mem_append.1 hother with hother | hother
    · exact ih (entry?_parent h) other hother
    · rwa [List.mem_singleton.1 hother]

/-- Places in a tree that have equal paths are equal. -/
theorem key_path_inj {a b : Location} {x y : Entry} (ha : tree.entry? a = some x)
    (hb : tree.entry? b = some y) : a.path.key = b.path.key ↔ a = b :=
  Location.key_path_inj (isNamed_of_eq_some ha) (isNamed_of_eq_some hb)

variable {top : Location}

theorem Reaches.within {here : Location} (h : tree.Reaches top here) : top.within here := by
  induction h with
  | top => exact top.within_self
  | enter _ _ ih => exact Location.within_child_iff.2 (.inr ih)

/-- Directories within a directory are reached from it, since no directory on the way is missing. -/
theorem reaches_of_within {here : Location} (hwithin : top.within here)
    (hhere : tree.entry? here = some .directory) : tree.Reaches top here := by
  induction here with
  | root =>
    rw [Location.within, decide_eq_true_eq] at hwithin
    rw [hwithin]
    exact .top
  | child name parent ih =>
    rcases Location.within_child_iff.1 hwithin with rfl | hparent
    · exact .top
    · exact (ih hparent (entry?_parent hhere)).enter hhere

/-- What stands below a directory is what stands in a directory that it reaches. -/
theorem mem_below_iff {location : Location} {entry : Entry} :
    (location, entry) ∈ tree.below top ↔
      ∃ here name, location = .child name here ∧ tree.Reaches top here
        ∧ tree.entry? location = some entry := by
  rw [below, List.mem_filter, Bool.and_eq_true, bne_iff_ne]
  constructor
  · rintro ⟨hin, hwithin, hne⟩
    have hnames : location ∈ tree.entries.names := List.mem_map.2 ⟨_, hin, rfl⟩
    obtain ⟨hroot, hparent⟩ := tree.sheltered location hnames
    cases location with
    | root => exact absurd rfl hroot
    | child name here =>
      rcases Location.within_child_iff.1 hwithin with heq | hwithin
      · exact absurd heq.symm hne
      · exact ⟨here, name, rfl, reaches_of_within hwithin (directoryAt_iff.1 hparent),
          OrderedMap.get?_eq_some_iff.2 hin⟩
  · rintro ⟨here, name, rfl, hreaches, hentry⟩
    exact ⟨OrderedMap.get?_eq_some_iff.1 hentry,
      Location.within_child_iff.2 (.inr hreaches.within),
      Location.child_ne_of_within hreaches.within name⟩

end FileTree

end RubricScore
