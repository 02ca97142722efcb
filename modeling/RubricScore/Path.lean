/-!
# Paths

A path is compared by its components: repeated and trailing slashes do not count, nor do dots,
except one at the front. Names are compared by their characters, which is the order of their bytes.
-/

namespace RubricScore

/-- One component of a path. -/
inductive PathComponent where
  /-- The slash at the front of an absolute path. -/
  | root
  /-- A dot at the front of a path. -/
  | current
  /-- Two dots. -/
  | parent
  /-- A name. -/
  | name (text : String)
deriving DecidableEq

namespace PathComponent

/-- Key of the order of components: the root, the leading dot, the parent, then names. -/
def key : PathComponent → List Nat
  | .root => [0]
  | .current => [1]
  | .parent => [2]
  | .name text => 3 :: text.toList.map Char.toNat

/-- The component that a part of a path between slashes stands for, if it counts. -/
def ofPart? (part : List Char) : Option PathComponent :=
  match part with
  | [] => none
  | ['.'] => none
  | ['.', '.'] => some .parent
  | part => some (.name (String.ofList part))

end PathComponent

/-- A path as it was written. -/
structure Path where
  /-- The text of the path. -/
  text : String
deriving DecidableEq

namespace Path

/-- The path starts at the root. -/
def isAbsolute (path : Path) : Bool :=
  path.text.toList.head? == some '/'

/-- The parts between the slashes of a path. -/
def parts (path : Path) : List (List Char) :=
  path.text.toList.splitOn '/'

/-- What stands at the front of a path before its other components: a root or a dot. -/
def front (path : Path) : List PathComponent :=
  if path.isAbsolute then [.root]
  else if path.parts.head? = some ['.'] then [.current]
  else []

/-- The components of a path. -/
def components (path : Path) : List PathComponent :=
  path.front ++ path.parts.filterMap PathComponent.ofPart?

/-- Key of the order of paths. -/
def key (path : Path) : List (List Nat) :=
  path.components.map PathComponent.key

/-- The path does not stand after another one. -/
def precedes (a b : Path) : Bool :=
  decide ¬b.key < a.key

/-- A path below another one; an absolute path stands for itself. -/
def join (base path : Path) : Path :=
  if path.isAbsolute then path
  else if base.text.isEmpty ∨ base.text.toList.getLast? = some '/' then ⟨base.text ++ path.text⟩
  else ⟨base.text ++ "/" ++ path.text⟩

end Path

end RubricScore
