import RubricScore.Rubric.Basic

/-!
# Rubric documents

How rubrics and their components are read from JSON and written back.
-/

namespace RubricScore

open Json (Field Shape Reader field)

/-- A component before any of its fields is read. -/
def Component.blank : Component :=
  ⟨Binary64.zero, .medium, "", [], 0, 0, none⟩

/-- The record of a component. -/
def Component.shape : Shape Component where
  name := "RubricComponent"
  blank := Component.blank
  fields :=
    [field "weight" true Json.readReal fun x c => { c with weight := x },
     field "criticality" true Criticality.read fun x c => { c with criticality := x },
     field "description" false Json.readString fun x c => { c with description := x },
     field "evidence_cues" true (Json.readList Json.readString) fun x c => { c with cues := x },
     field "target_functions" true (Json.readWord "u64") fun x c => { c with targetFunctions := x },
     field "target_sloc" true (Json.readWord "u64") fun x c => { c with targetSloc := x },
     field "manifest_functions" false (Json.readOption (Json.readList Json.readString))
       fun x c => { c with manifest := x }]

/-- Reads a component. -/
def Component.read : Reader Component :=
  Json.readRecord Component.shape

/-- The value of a component; an absent manifest is left out. -/
def Component.toJson (component : Component) : Json.Value :=
  .object <|
    [("weight", .real component.weight),
     ("criticality", component.criticality.toJson),
     ("description", .string component.description),
     ("evidence_cues", .strings component.cues),
     ("target_functions", .word component.targetFunctions),
     ("target_sloc", .word component.targetSloc)]
      ++ (component.manifest.map fun names => ("manifest_functions", .strings names)).toList

/-- The value of a map whose values have values of their own. -/
def OrderedMap.toJson {α : Type} (value : α → Json.Value) (map : OrderedMap String α) :
    Json.Value :=
  .object (map.entries.map fun entry => (entry.1, value entry.2))

namespace Rubric

/-- A rubric before any of its fields is read. -/
def blank : Rubric :=
  ⟨.null, .empty, .empty⟩

/-- Reads free data; its objects are kept with their members sorted. -/
def readMetadata : Reader Json.Value := fun room node =>
  (Json.readValue room node).map Json.Value.sorted

/-- The record of a rubric. -/
def shape : Shape Rubric where
  name := "Rubric"
  blank := blank
  fields :=
    [field "metadata" false readMetadata fun x r => { r with metadata := x },
     field "kernel_primitives" true (Json.readMap Component.read)
       fun x r => { r with kernelPrimitives := x },
     field "os_platform_services" true (Json.readMap Component.read)
       fun x r => { r with platformServices := x }]

/-- Reads a rubric. -/
def read : Reader Rubric :=
  Json.readRecord shape

/-- The value of a rubric. -/
def toJson (rubric : Rubric) : Json.Value :=
  .object
    [("metadata", rubric.metadata),
     ("kernel_primitives", rubric.kernelPrimitives.toJson Component.toJson),
     ("os_platform_services", rubric.platformServices.toJson Component.toJson)]

end Rubric

end RubricScore
