import RubricScore.OrderedMap
import RubricScore.Path

/-!
# File trees

A file tree holds files, links and directories below one root directory. Whatever stands in a tree
stands in a directory, under a file name: no entry lies below a file or a link, and different places
have different paths.
-/

namespace RubricScore

/-- A place in a file tree. -/
inductive Location where
  /-- The root directory. -/
  | root
  /-- The place of a name in a parent directory. -/
  | child (name : String) (parent : Location)
deriving DecidableEq

namespace Location

/-- The directory in which a place lies; the root lies in itself. -/
def parent : Location → Location
  | .root => .root
  | .child _ parent => parent

/-- The last name on the way to a place. -/
def name? : Location → Option String
  | .root => none
  | .child name _ => some name

/-- The place is `top` or lies below it. -/
def within (top : Location) : Location → Bool
  | .root => decide (top = .root)
  | .child name parent => decide (top = .child name parent) || top.within parent

/-- The names on the way to a place, followed by further names. -/
def namesOnto (further : List String) : Location → List String
  | .root => further
  | .child name parent => parent.namesOnto (name :: further)

/-- The names on the way from the root to a place. -/
def names (location : Location) : List String :=
  location.namesOnto []

/-- The absolute path of a place. -/
def path (location : Location) : Path :=
  ⟨"/" ++ "/".intercalate location.names⟩

/-- The place that a list of names leads to. -/
def ofNames (names : List String) : Location :=
  names.foldl (fun parent name => child name parent) root

end Location

/-- What stands at a place. -/
inductive Entry where
  /-- A file and its content. -/
  | file (bytes : List UInt8)
  /-- A link and the path it stands for. -/
  | link (target : Path)
  /-- A directory. -/
  | directory
deriving DecidableEq

/-- The place is a directory: the root, or one of the entries. -/
def DirectoryAt (entries : OrderedMap Location Entry) (location : Location) : Prop :=
  location = .root ∨ entries.get? location = some .directory

instance (entries : OrderedMap Location Entry) (location : Location) :
    Decidable (DirectoryAt entries location) := by
  unfold DirectoryAt
  infer_instance

/-- The name may stand in a directory: it is not empty, holds no slash, and is not one of the two
names that lead to the directory itself and to its parent. -/
def IsFileName (name : String) : Prop :=
  name ≠ "" ∧ name ≠ "." ∧ name ≠ ".." ∧ '/' ∉ name.toList

instance (name : String) : Decidable (IsFileName name) :=
  inferInstanceAs (Decidable (_ ∧ _ ∧ _ ∧ _))

/-- Entries below a root directory. -/
structure FileTree where
  /-- The entries by their places. -/
  entries : OrderedMap Location Entry
  /-- Every entry stands in a directory. -/
  sheltered : ∀ location ∈ entries.names, location ≠ .root ∧ DirectoryAt entries location.parent
  /-- Every entry has a file name. -/
  named : ∀ location ∈ entries.names, ∀ name ∈ location.name?, IsFileName name

namespace FileTree

/-- The tree without entries. -/
def empty : FileTree :=
  ⟨.empty, fun _ h => (nomatch h), fun _ h => (nomatch h)⟩

instance : Inhabited FileTree :=
  ⟨empty⟩

/-- What stands at a place; the root is a directory. -/
def entry? (tree : FileTree) : Location → Option Entry
  | .root => some .directory
  | location => tree.entries.get? location

/-- The place is a directory. -/
def hasDirectory (tree : FileTree) (location : Location) : Bool :=
  decide (DirectoryAt tree.entries location)

/-- An entry may be put at a file name of a directory. A directory gives way to a directory only. -/
def Accepts (tree : FileTree) (parent : Location) (name : String) (entry : Entry) : Prop :=
  DirectoryAt tree.entries parent ∧ IsFileName name
    ∧ (tree.entries.get? (.child name parent) = some .directory → entry = .directory)

instance (tree : FileTree) (parent : Location) (name : String) (entry : Entry) :
    Decidable (tree.Accepts parent name entry) := by
  unfold Accepts
  infer_instance

theorem directoryAt_insert {tree : FileTree} {parent location : Location} {name : String}
    {entry : Entry} (h : tree.Accepts parent name entry) (hd : DirectoryAt tree.entries location) :
    DirectoryAt (tree.entries.insert (.child name parent) entry) location := by
  rcases hd with hd | hd
  · exact .inl hd
  · right
    rw [OrderedMap.get?_insert]
    split
    · next heq => rw [h.2.2 (heq ▸ hd)]
    · exact hd

/-- Puts an entry at a name of a directory; the tree stays as it is if that is not accepted. -/
def put (tree : FileTree) (parent : Location) (name : String) (entry : Entry) : FileTree :=
  if h : tree.Accepts parent name entry then
    { entries := tree.entries.insert (.child name parent) entry
      sheltered := by
        intro location hin
        rcases mem_names_putEntry.1 hin with rfl | hin
        · exact ⟨nofun, directoryAt_insert h h.1⟩
        · obtain ⟨hroot, hd⟩ := tree.sheltered location hin
          exact ⟨hroot, directoryAt_insert h hd⟩
      named := by
        intro location hin
        rcases mem_names_putEntry.1 hin with rfl | hin
        · rintro _ ⟨⟩
          exact h.2.1
        · exact tree.named location hin }
  else tree

/-- The entries below a place, each of which is reached through directories only. -/
def below (tree : FileTree) (top : Location) : List (Location × Entry) :=
  tree.entries.entries.filter fun item => top.within item.1 && item.1 != top

end FileTree

end RubricScore
