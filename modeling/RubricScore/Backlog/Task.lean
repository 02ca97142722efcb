import RubricScore.Report.Basic

/-!
# Tasks

The units of work of a backlog. The functions that a component is to have are handed out in batches:
about five of them, with at least three functions each.
-/

namespace RubricScore

/-- One unit of work. -/
structure Task where
  /-- Title. -/
  title : String
  /-- What is to be done. -/
  description : String
  /-- Notes, possibly none. -/
  details : List String
  /-- Functions to implement, possibly none. -/
  functions : List String
  /-- Priority. -/
  priority : Criticality
deriving DecidableEq

/-- Name of a component in running text. -/
def displayName (name : String) : String :=
  String.ofList (name.toList.map fun c => if c = '_' then ' ' else c)

/-- Number of functions in a batch of a manifest with so many names. -/
def batchSize (names : Nat) : Nat :=
  max 3 (names / 5)

/-- Cuts a list into pieces of a positive length; the last piece may be shorter. -/
def pieces {α : Type} (length : Nat) (items : List α) : List (List α) :=
  if items = [] ∨ length = 0 then []
  else items.take length :: pieces length (items.drop length)
termination_by items.length
decreasing_by
  rename_i h
  have := List.length_pos_iff.2 (not_or.1 h).1
  have := (not_or.1 h).2
  simp only [List.length_drop]
  omega

/-- The batches of a manifest, in order. -/
def batches (manifest : List String) : List (List String) :=
  pieces (batchSize manifest.length) manifest

namespace Task

/-- Functions that the description of a batch names. -/
def namedInBatch : Nat :=
  5

/-- The task to implement the missing functions of a component. -/
def core (display subject : String) (result : ComponentResult) (missing : UInt64)
    (priority : Criticality) : Task where
  title := "Implement core " ++ display ++ " functionality"
  description := "Implement " ++ toString missing.toNat ++ " missing functions for " ++ subject
  details :=
    ["Target functions to implement: " ++ toString result.functions.target.toNat,
     "Currently implemented: " ++ toString result.functions.found.toNat,
     "Missing: " ++ toString missing.toNat,
     "Target SLOC: " ++ toString result.sloc.target.toNat,
     "Current SLOC: " ++ toString result.sloc.found.toNat]
  functions := []
  priority := priority

/-- The names that the description of a batch gives: the first five, and dots if there are more. -/
def listed (functions : List String) : String :=
  ", ".intercalate (functions.take namedInBatch)
    ++ (if namedInBatch < functions.length then "..." else "")

/-- The task to implement one batch of functions. -/
def batch (display : String) (index count : Nat) (functions : List String)
    (priority : Criticality) : Task where
  title :=
    "Implement " ++ display ++ " functions (batch " ++ toString index ++ "/" ++ toString count
      ++ ")"
  description := "Implement the following functions: " ++ listed functions
  details := []
  functions := functions
  priority := priority

/-- The task to test a component. It is always urgent. -/
def testing (display : String) : Task where
  title := "Add tests for " ++ display
  description := "Create comprehensive tests for " ++ display ++ " functionality"
  details :=
    ["Write unit tests for each function", "Add integration tests",
     "Ensure edge cases are covered", "Target test coverage: 80%+"]
  functions := []
  priority := Criticality.high

/-- The task to document a component. -/
def documentation (display : String) (priority : Criticality) : Task where
  title := "Document " ++ display ++ " implementation"
  description := "Create documentation for " ++ display ++ " module"
  details :=
    ["Document function APIs", "Add usage examples",
     "Describe architecture and design decisions", "Update README if needed"]
  functions := []
  priority := priority

end Task

end RubricScore
