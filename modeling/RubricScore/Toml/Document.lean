import RubricScore.Toml.Statement

/-!
# TOML documents

The table that the statements of a file make up, and access to its fields.
-/

namespace RubricScore.Toml

/-- A file that is being read: its members, and the path of the header read last. -/
structure Draft where
  /-- The members so far. -/
  members : Members
  /-- The path of the last header, empty before the first one. -/
  heading : List String

namespace Draft

/-- The draft before any statement. -/
def blank : Draft :=
  ⟨[], []⟩

/-- Adds one statement. -/
def add (draft : Draft) : Statement → Option Draft
  | .binding path value =>
    if draft.heading = [] then
      -- Before the first header bindings belong to the file itself.
      (draft.members.assign value true path).map fun members => ⟨members, []⟩
    else
      (draft.members.changeAt (Members.assignIn path value) draft.heading).map fun members =>
        ⟨members, draft.heading⟩
  | .table path =>
    (draft.members.changeAt Members.defineTable path).map fun members => ⟨members, path⟩
  | .element path =>
    (draft.members.changeAt Members.beginElement path).map fun members => ⟨members, path⟩

end Draft

/-- The members of the table that a text stands for. -/
def document? (text : List Char) : Option Members := do
  let statements ← statements? text
  let draft ← statements.foldlM Draft.add Draft.blank
  return draft.members

namespace Value

/-- The fields of a record, by name: members of a table, or the elements of an array in the order of
the names. A date has no fields. -/
def fields? (names : List String) : Value → Option (String → Option Value)
  | .table _ members => some fun name => members.lookup name
  | .array items => some fun name => (names.zip items).lookup name
  | .tables items =>
    some fun name => (names.zip (items.map (Value.table .header))).lookup name
  | .moment => some fun _ => none
  | _ => none

/-- A string. -/
def string? : Value → Option String
  | .string text => some text
  | _ => none

/-- A list of strings. -/
def strings? : Value → Option (List String)
  | .array items => items.mapM string?
  | .tables items => if items.isEmpty then some [] else none
  | _ => none

/-- A number; integers are rounded. -/
def real? : Value → Option Binary64
  | .real x => some x
  | .integer n =>
    some (Binary64.ofRatio (decide (n < 0)) (n.natAbs * Binary64.one) 1)
  | _ => none

/-- An integer that is not negative. -/
def word? : Value → Option UInt64
  | .integer n => if 0 ≤ n then some (.ofNat n.toNat) else none
  | _ => none

end Value

/-- Reads a field that may be absent. -/
def fieldOr {α : Type} (default : α) (read : Value → Option α) : Option Value → Option α
  | none => some default
  | some value => read value

end RubricScore.Toml
