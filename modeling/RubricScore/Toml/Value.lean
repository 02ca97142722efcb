import RubricScore.Binary64.Basic
import RubricScore.OrderedMap

/-!
# TOML values

Values of a configuration file, and the rules on which statement may add to which table. A table is
defined once: a header does not define it again, dotted keys add only to tables that dotted keys
made, and a table between braces is closed.
-/

namespace RubricScore.Toml

/-- How a table came to be. -/
inductive Origin where
  /-- It was written between braces. -/
  | braces
  /-- A header defined it. -/
  | header
  /-- The header of a table inside it passed through it. -/
  | passage
  /-- Dotted keys passed through it. -/
  | dotted
deriving DecidableEq

/-- A value. Dates and times are told apart from other values, and not from each other. -/
inductive Value where
  /-- A string. -/
  | string (text : String)
  /-- An integer of 64 bits. -/
  | integer (n : Int)
  /-- A floating-point number. -/
  | real (x : Binary64)
  /-- A truth value. -/
  | boolean (b : Bool)
  /-- A date, a time or both. -/
  | moment
  /-- An array between brackets. -/
  | array (items : List Value)
  /-- A table. -/
  | table (origin : Origin) (members : List (String × Value))
  /-- An array of tables, each of which a header began. -/
  | tables (items : List (List (String × Value)))

instance : Inhabited Value :=
  ⟨.moment⟩

/-- Names and their values. -/
abbrev Members : Type :=
  List (String × Value)

/-- Dotted keys may pass through the table. -/
def Origin.isImplied : Origin → Bool
  | .passage => true
  | .dotted => true
  | _ => false

namespace Members

/-- Binds a path of keys to a value. `direct` says that the last key may be added to these very
members. -/
def assign (value : Value) (direct : Bool) (members : Members) : List String → Option Members
  | [] => none
  | [key] =>
    if direct ∧ members.lookup key = none then some (members ++ [(key, value)]) else none
  | key :: path => do
    let held ←
      match members.lookup key with
      | none => (assign value true [] path).map (Value.table .dotted)
      | some (.table origin inner) =>
        -- Keys may pass through either kind, but only a table of dotted keys takes new names.
        if origin.isImplied then
          (assign value (origin = .dotted) inner path).map (Value.table origin)
        else none
      | some (.tables items) =>
        (assign value false (items.getLastD []) path).map fun last =>
          .tables (items.dropLast ++ [last])
      | some _ => none
    return putEntry key held members

/-- Changes what a header path leads to. Tables on the way that are missing are made. -/
def changeAt (change : Option Value → Option Value) (members : Members) :
    List String → Option Members
  | [] => none
  | [key] => do
    let held ← change (members.lookup key)
    return putEntry key held members
  | key :: path => do
    let held ←
      match members.lookup key with
      | none => (changeAt change [] path).map (Value.table .passage)
      | some (.table .braces _) => none
      | some (.table origin inner) => (changeAt change inner path).map (Value.table origin)
      | some (.tables items) =>
        (changeAt change (items.getLastD []) path).map fun last =>
          .tables (items.dropLast ++ [last])
      | some _ => none
    return putEntry key held members

/-- What the header of a table makes of what stands at its path. -/
def defineTable : Option Value → Option Value
  | none => some (.table .header [])
  -- A table that headers only passed through may still be defined once.
  | some (.table .passage members) => some (.table .header members)
  | some _ => none

/-- What the header of an element makes of what stands at its path. -/
def beginElement : Option Value → Option Value
  | none => some (.tables [[]])
  | some (.tables items) => some (.tables (items ++ [[]]))
  | some _ => none

/-- Binds a path of keys in the table that a header began last. -/
def assignIn (path : List String) (value : Value) : Option Value → Option Value
  | some (.table origin members) => (assign value true members path).map (Value.table origin)
  | some (.tables items) =>
    (assign value true (items.getLastD []) path).map fun last => .tables (items.dropLast ++ [last])
  | _ => none

end Members

end RubricScore.Toml
