import RubricScore.Proofs.Criticality
import RubricScore.Proofs.Json.Codec
import RubricScore.Report.Document

/-!
# Reports written and read back

A report that is written and read back is the same report up to its floating-point numbers: each is
replaced by the number that its text is read as. Reading fails just when one of these texts is not
read as a number, as it is for a number that is not finite. Names, labels, counts and the order of
the maps survive whatever they are.

## Main definitions

* `Report.floats`: the floating-point numbers of a report;
* `Report.mapFloats`: the report with each of them changed.

## Main results

* `Report.gives_ofText`: what the text of a report is read as;
* `Report.ofText_toJson`: the same with what follows for numbers that are not finite and for the
  order of the maps.
-/

namespace RubricScore

open Json (Gives WrittenField reread gives_readWord gives_readReal gives_readString gives_readMap
  gives_readRecord)

/-! ## The floating-point numbers of a report -/

/-- The measure with its score changed. -/
def Measure.mapFloats (f : Binary64 → Binary64) (measure : Measure) : Measure :=
  { measure with score := f measure.score }

/-- The four scores. -/
def Scores.floats (scores : Scores) : List Binary64 :=
  [scores.evidence, scores.functions, scores.sloc, scores.overall]

/-- The scores, each of them changed. -/
def Scores.mapFloats (f : Binary64 → Binary64) (scores : Scores) : Scores :=
  ⟨f scores.evidence, f scores.functions, f scores.sloc, f scores.overall⟩

/-- The weight and the scores of a result. -/
def ComponentResult.floats (result : ComponentResult) : List Binary64 :=
  [result.weight, result.functions.score, result.sloc.score] ++ result.scores.floats

/-- The result with its weight and its scores changed. -/
def ComponentResult.mapFloats (f : Binary64 → Binary64) (result : ComponentResult) :
    ComponentResult :=
  { result with
    weight := f result.weight
    functions := result.functions.mapFloats f
    sloc := result.sloc.mapFloats f
    scores := result.scores.mapFloats f }

/-- The three scores of a summary. -/
def Summary.floats (summary : Summary) : List Binary64 :=
  [summary.kernelScore, summary.platformScore, summary.overallScore]

/-- The summary with its scores changed. -/
def Summary.mapFloats (f : Binary64 → Binary64) (summary : Summary) : Summary :=
  { summary with
    kernelScore := f summary.kernelScore
    platformScore := f summary.platformScore
    overallScore := f summary.overallScore }

/-- The floating-point numbers of a report. -/
def Report.floats (report : Report) : List Binary64 :=
  report.kernelPrimitives.values.flatMap ComponentResult.floats
    ++ report.platformServices.values.flatMap ComponentResult.floats ++ report.summary.floats

/-- The report with every floating-point number changed. -/
def Report.mapFloats (f : Binary64 → Binary64) (report : Report) : Report where
  kernelPrimitives := report.kernelPrimitives.mapValues fun _ => ComponentResult.mapFloats f
  platformServices := report.platformServices.mapValues fun _ => ComponentResult.mapFloats f
  summary := report.summary.mapFloats f

/-! ## The records of a report -/

/-- The number that a number is read as; a number that is not read stands for itself. -/
def afterReading (x : Binary64) : Binary64 :=
  (reread x).getD x

section Records

variable (room : Nat)

theorem gives_criticality (criticality : Criticality) :
    Gives (Criticality.read room criticality.toJson.node) True criticality := by
  -- A label is a plain string, known or not.
  rw [criticality.toJson_eq, Json.Value.node, Criticality.read_string (Json.text_quoted _)]
  exact Gives.ok criticality

theorem gives_cueMatches (cueMatches : OrderedMap String UInt64) :
    Gives (Json.readMap (Json.readWord "u64") (room + 1) (cueMatches.toJson .word).node) True
      cueMatches := by
  have hmap := gives_readMap (fun n => gives_readWord "u64" room n) cueMatches
  have hid : (cueMatches.mapValues fun _ n => n) = cueMatches :=
    OrderedMap.ext (List.map_id _)
  rw [hid] at hmap
  exact hmap.congr (by simp)

theorem gives_evidence (evidence : Evidence) :
    Gives (Evidence.read (room + 2) evidence.toJson.node) True evidence := by
  have hrecord : Gives (Json.readRecord Evidence.shape (room + 2) _) _ _ := gives_readRecord
    [.of "total_matches" true (fun x (e : Evidence) => { e with totalMatches := x })
        (gives_readWord "u64" (room + 1) evidence.totalMatches),
     .of "matched_files" true (fun x (e : Evidence) => { e with matchedFiles := x })
        (gives_readWord "usize" (room + 1) evidence.matchedFiles),
     .of "cue_matches" true (fun x (e : Evidence) => { e with cueMatches := x })
        (gives_cueMatches room evidence.cueMatches)]
    rfl (by decide)
  exact hrecord.congr (by simp [WrittenField.of])

theorem gives_measure (measure : Measure) :
    Gives (Measure.read (room + 1) measure.toJson.node) (reread measure.score).isSome
      (measure.mapFloats afterReading) := by
  have hrecord : Gives (Json.readRecord Measure.shape (room + 1) _) _ _ := gives_readRecord
    [.of "found" true (fun x (m : Measure) => { m with found := x })
        (gives_readWord "u64" room measure.found),
     .of "target" true (fun x (m : Measure) => { m with target := x })
        (gives_readWord "u64" room measure.target),
     .of "score" true (fun x (m : Measure) => { m with score := x })
        (gives_readReal room measure.score)]
    rfl (by decide)
  exact hrecord.congr (by simp [WrittenField.of])

theorem gives_scores (scores : Scores) :
    Gives (Scores.read (room + 1) scores.toJson.node) (∀ x ∈ scores.floats, (reread x).isSome)
      (scores.mapFloats afterReading) := by
  have hrecord : Gives (Json.readRecord Scores.shape (room + 1) _) _ _ := gives_readRecord
    [.of "evidence" true (fun x (s : Scores) => { s with evidence := x })
        (gives_readReal room scores.evidence),
     .of "functions" true (fun x (s : Scores) => { s with functions := x })
        (gives_readReal room scores.functions),
     .of "sloc" true (fun x (s : Scores) => { s with sloc := x })
        (gives_readReal room scores.sloc),
     .of "overall" true (fun x (s : Scores) => { s with overall := x })
        (gives_readReal room scores.overall)]
    rfl (by decide)
  exact hrecord.congr (by simp [WrittenField.of, Scores.floats])

theorem gives_componentResult (result : ComponentResult) :
    Gives (ComponentResult.read (room + 3) result.toJson.node)
      (∀ x ∈ result.floats, (reread x).isSome) (result.mapFloats afterReading) := by
  have hrecord : Gives (Json.readRecord ComponentResult.shape (room + 3) _) _ _ := gives_readRecord
    [.of "name" false (fun x (r : ComponentResult) => { r with name := x })
        (gives_readString (room + 2) result.name),
     .of "weight" true (fun x (r : ComponentResult) => { r with weight := x })
        (gives_readReal (room + 2) result.weight),
     .of "criticality" true (fun x (r : ComponentResult) => { r with criticality := x })
        (gives_criticality (room + 2) result.criticality),
     .of "evidence" true (fun x (r : ComponentResult) => { r with evidence := x })
        (gives_evidence room result.evidence),
     .of "functions" true (fun x (r : ComponentResult) => { r with functions := x })
        (gives_measure (room + 1) result.functions),
     .of "sloc" true (fun x (r : ComponentResult) => { r with sloc := x })
        (gives_measure (room + 1) result.sloc),
     .of "scores" true (fun x (r : ComponentResult) => { r with scores := x })
        (gives_scores (room + 1) result.scores)]
    rfl (by decide)
  exact hrecord.congr (by simp [WrittenField.of, ComponentResult.floats])

theorem gives_summary (summary : Summary) :
    Gives (Summary.read (room + 1) summary.toJson.node) (∀ x ∈ summary.floats, (reread x).isSome)
      (summary.mapFloats afterReading) := by
  have hrecord : Gives (Json.readRecord Summary.shape (room + 1) _) _ _ := gives_readRecord
    [.of "kernel_primitives_score" true (fun x (s : Summary) => { s with kernelScore := x })
        (gives_readReal room summary.kernelScore),
     .of "os_services_score" true (fun x (s : Summary) => { s with platformScore := x })
        (gives_readReal room summary.platformScore),
     .of "overall_score" true (fun x (s : Summary) => { s with overallScore := x })
        (gives_readReal room summary.overallScore),
     .of "total_files_scanned" true (fun x (s : Summary) => { s with filesScanned := x })
        (gives_readWord "usize" room summary.filesScanned)]
    rfl (by decide)
  exact hrecord.congr (by simp [WrittenField.of, Summary.floats])

theorem gives_results (results : OrderedMap String ComponentResult) :
    Gives (Json.readMap ComponentResult.read (room + 4)
        (results.toJson ComponentResult.toJson).node)
      (∀ x ∈ results.values.flatMap ComponentResult.floats, (reread x).isSome)
      (results.mapValues fun _ => ComponentResult.mapFloats afterReading) := by
  refine (gives_readMap (gives_componentResult room) results).congr ?_
  simp only [OrderedMap.values, List.mem_flatMap, List.mem_map]
  constructor
  · rintro h x ⟨-, ⟨entry, hentry, rfl⟩, hx⟩
    exact h entry hentry x hx
  · exact fun h entry hentry x hx => h x ⟨entry.2, ⟨entry, hentry, rfl⟩, hx⟩

theorem gives_report (report : Report) :
    Gives (Report.read (room + 5) report.toJson.node) (∀ x ∈ report.floats, (reread x).isSome)
      (report.mapFloats afterReading) := by
  have hrecord : Gives (Json.readRecord Report.shape (room + 5) _) _ _ := gives_readRecord
    [.of "kernel_primitives" true (fun x (r : Report) => { r with kernelPrimitives := x })
        (gives_results room report.kernelPrimitives),
     .of "os_services" true (fun x (r : Report) => { r with platformServices := x })
        (gives_results room report.platformServices),
     .of "summary" true (fun x (r : Report) => { r with summary := x })
        (gives_summary (room + 3) report.summary)]
    rfl (by decide)
  refine hrecord.congr ?_
  simp only [WrittenField.of, List.forall_mem_cons, List.not_mem_nil, false_imp_iff, implies_true,
    and_true, Report.floats, List.forall_mem_append, and_assoc]

end Records

/-! ## Reports -/

/-- The text of a report is read as the report with every number as it is read and every empty name
replaced, if every number is read. -/
theorem Report.gives_ofText (report : Report) :
    Gives (Report.ofText report.toJson.text) (∀ x ∈ report.floats, (reread x).isSome)
      (report.mapFloats afterReading).named := by
  -- A report is nested five levels deep, of the 127 that may be entered.
  have hread := gives_report 122 report
  have hdecode : Json.decode Report.read report.toJson.text
      = Report.read (122 + 5) report.toJson.node := by
    rw [Json.decode, Json.ofText_text]
    show (Report.read (122 + 5) report.toJson.node >>= fun value => .ok value) = _
    cases Report.read (122 + 5) report.toJson.node <;> rfl
  rw [Report.ofText, hdecode]
  exact hread.map Report.named

/-- Changing the floats of a report and naming its results goes entry by entry. -/
theorem Report.entries_results_named (f : Binary64 → Binary64) (report : Report)
    (category : Category) :
    ((report.mapFloats f).named.results category).entries
      = (report.results category).entries.map fun entry =>
        (entry.1, (entry.2.mapFloats f).named entry.1) := by
  cases category <;>
    simp [Report.results, Report.named, Report.mapFloats, OrderedMap.mapValues]

theorem ComponentResult.evidence_named (f : Binary64 → Binary64) (name : String)
    (result : ComponentResult) : ((result.mapFloats f).named name).evidence = result.evidence := by
  unfold ComponentResult.named
  split <;> rfl

/-- A report is read back from its text just when the text of each of its floating-point numbers is
read as a number, which never happens to one that is not finite, as it is written as `null`. What is
read is then the report with each of these numbers as it is read and each empty name replaced by the
name under which it stands; both maps of results and every map of cues keep their order. -/
theorem Report.ofText_toJson (report : Report) :
    (∀ result, Report.ofText report.toJson.text = .ok result
      ↔ (∀ x ∈ report.floats, (reread x).isSome)
        ∧ result = (report.mapFloats fun x => (reread x).getD x).named)
    ∧ (∀ x ∈ report.floats, x.isFinite = false →
        (Json.Value.real x).text = "null".toList
          ∧ ∀ result, Report.ofText report.toJson.text ≠ .ok result)
    ∧ (∀ result, Report.ofText report.toJson.text = .ok result → ∀ category,
        (result.results category).entries.map (fun entry => (entry.1, entry.2.evidence))
          = (report.results category).entries.map fun entry => (entry.1, entry.2.evidence)) := by
  have hgives := Report.gives_ofText report
  refine ⟨hgives, fun x hx hfinite => ⟨?_, fun result hresult => ?_⟩, fun result hresult category => ?_⟩
  · show (if x.isFinite then _ else _) = _
    rw [hfinite, if_neg Bool.false_ne_true]
  · have hsome := ((hgives result).1 hresult).1 x hx
    rw [Json.reread_of_not_isFinite hfinite] at hsome
    exact absurd hsome Bool.false_ne_true
  · rw [((hgives result).1 hresult).2, Report.entries_results_named, List.map_map]
    simp only [Function.comp_def, ComponentResult.evidence_named]

/-- A report with an unnamed result, a label and a cue that need escapes, and a score whose text is
read as the next number. -/
def sampleReport : Report where
  kernelPrimitives := OrderedMap.empty.insert "Locks"
    ⟨"", 1, .other "a \"label\"" (by decide), ⟨3, 1, OrderedMap.empty.insert "lock\n\x00" 3⟩,
      ⟨1, 2, 50⟩, ⟨4, 0, 0⟩, ⟨30, 50, 0, Binary64.ofDecimal false 20857142857142854 (-15)⟩⟩
  platformServices := OrderedMap.empty
  summary := ⟨1, 0, 0, 1⟩

set_option maxRecDepth 10000 in
/-- The sample is read back, and its score is not the one that was written. -/
theorem Report.ofText_toJson_sample :
    Report.ofText sampleReport.toJson.text
        = .ok (sampleReport.mapFloats fun x => (reread x).getD x).named
      ∧ reread (Binary64.ofDecimal false 20857142857142854 (-15))
        = some (Binary64.ofDecimal false 20857142857142858 (-15)) :=
  ⟨((Report.ofText_toJson sampleReport).1 _).2 ⟨by decide +kernel, rfl⟩, by decide +kernel⟩

end RubricScore
