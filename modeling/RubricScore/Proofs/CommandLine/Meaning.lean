import RubricScore.Proofs.CommandLine.Coverage
import RubricScore.Proofs.CommandLine.Numerals

/-!
# What argument lists mean

The invocation that an argument list stands for, told from what the list says: the values of its texts,
and the defaults of everything that it does not say.

## Main definitions

* `Parameter.Means`: the values that texts stand for;
* `Content.Means`: the invocation that a content stands for.

## Main results

* `Parameter.reads_iff_means`: texts are read as what they stand for;
* `ofArguments_arranged`: argument lists that say the same are read as the invocation that it stands
  for, if there is one, and the usual lists that are read say something.
-/

namespace RubricScore.CommandLine

/-! ## Values -/

/-- The text is that of a path. -/
def IsPath (text : String) (path : Path) : Prop :=
  text ≠ "" ∧ path.text = text

namespace Parameter

/-- The value that a text stands for. -/
def Means : (parameter : Parameter) → String → parameter.Value → Prop
  | logLevel, text, value => value.name = text
  | workers, text, value => IsNumeral text.toList value ∧ 1 ≤ value ∧ value ≤ 64
  | source, text, value => IsPath text value
  | results, text, value => IsPath text value
  | rubric, text, value => IsPath text value
  | threshold, text, value => IsDecimal text.toList value ∧ value.isFinite
  | format, text, value => value.name = text
  | output, text, value => IsPath text value
  | extension, text, value => text = value
  | maxFiles, text, value => IsNumeral text.toList value.toNat

theorem readPath_eq_ok_iff {parameter : Parameter} {text : String} {path : Path} :
    readPath parameter text = .ok path ↔ IsPath text path := by
  rw [IsPath, readPath, ite_error_eq_ok_iff, String.isEmpty_iff, Except.ok.injEq, and_congr_right_iff]
  intro _
  obtain ⟨own⟩ := path
  rw [Path.mk.injEq, eq_comm]

theorem readChoice_eq_ok_iff {α : Type} {parameter : Parameter} {choice? : String → Option α}
    {text : String} {choice : α} :
    readChoice parameter choice? text = .ok choice ↔ choice? text = some choice := by
  rw [readChoice]
  cases choice? text with
  | some other => simp
  | none => dsimp only; split <;> simp

theorem verbosity_ofName?_eq_some_iff {text : String} {verbosity : Verbosity} :
    Verbosity.ofName? text = some verbosity ↔ verbosity.name = text := by
  constructor
  · intro h
    simpa using List.find?_some h
  · rintro rfl
    cases verbosity <;> rfl

theorem exactFormat?_eq_some_iff {text : String} {format : OutputFormat} :
    exactFormat? text = some format ↔ format.name = text := by
  constructor
  · intro h
    unfold exactFormat? at h
    split at h
    · next hname =>
      simp only [formatNames, List.mem_cons, List.not_mem_nil, or_false] at hname
      rcases hname with rfl | rfl
      · have htext : (OutputFormat.ofName "text").toOption = some .text := by decide
        exact Option.some.inj (htext.symm.trans h) ▸ rfl
      · have hjson : (OutputFormat.ofName "json").toOption = some .json := by decide
        exact Option.some.inj (hjson.symm.trans h) ▸ rfl
    · cases h
  · rintro rfl
    cases format <;> decide

/-- Texts are read as what they stand for. -/
theorem reads_iff_means (parameter : Parameter) (text : String) (value : parameter.Value) :
    parameter.Reads text value ↔ parameter.Means text value := by
  cases parameter with
  | logLevel => exact readChoice_eq_ok_iff.trans verbosity_ofName?_eq_some_iff
  | workers => exact readWorkers_eq_ok_iff
  | threshold => exact readThreshold_eq_ok_iff
  | format => exact readChoice_eq_ok_iff.trans exactFormat?_eq_some_iff
  | extension => exact (Except.ok.injEq text value).to_iff
  | maxFiles => exact readMaxFiles_eq_ok_iff
  | _ => exact readPath_eq_ok_iff

end Parameter

/-! ## Invocations -/

namespace Content

variable (content : Content)

/-- The option has this value, or neither a text nor a value. -/
def States (parameter : Parameter) (value : Option parameter.Value) : Prop :=
  List.Forall₂ parameter.Means (content.values parameter) value.toList

/-- The option has this value, the default one if it has no text. -/
def Sets (parameter : Parameter) (default value : parameter.Value) : Prop :=
  ∃ stated, content.States parameter stated ∧ value = stated.getD default

/-- The texts in the first positions are those of a path and, if they go on, of that of the rubric. -/
def Places (texts : List String) (path rubric : Path) : Prop :=
  ∃ named : Option Path, List.Forall₂ IsPath texts (path :: named.toList)
    ∧ rubric = named.getD Invocation.defaultRubric

/-- The command is the one that is said, with the values of its parameters. -/
def Asks : Command → Prop
  | .evaluate request =>
    content.command = .evaluate
      ∧ Places content.positions request.source request.rubric
      ∧ content.Sets .format .text request.format
      ∧ content.States .output request.output
      ∧ content.values .extension = request.extensions
      ∧ content.States .maxFiles request.maxFiles
  | .tasks request =>
    content.command = .tasks
      ∧ (∃ paths numbers, content.positions = paths ++ numbers
        ∧ Places paths request.results request.rubric
        -- The threshold stands in the third position.
        ∧ (numbers ≠ [] → paths.length = 2)
        ∧ List.Forall₂ (Parameter.Means .threshold) numbers request.threshold.toList)
      ∧ content.Sets .format .text request.format
      ∧ content.States .output request.output
  | .init => content.command = .init ∧ content.positions = []

/-- The invocation that the content stands for. -/
structure Means (invocation : Invocation) : Prop where
  /-- The log level is what is said, or warnings. -/
  logLevel : content.Sets .logLevel .warn invocation.logLevel
  /-- The number of workers is what is said, if anything is. -/
  workers : content.States .workers invocation.workers
  /-- The command is what is said. -/
  command : content.Asks invocation.command

variable {content}

theorem holds_iff (hnone : ∀ parameter, parameter ∉ content.stage.options →
    content.values parameter = []) {given : Given} :
    given.Holds content.texts
      ↔ (∀ parameter ∈ content.stage.options,
          List.Forall₂ parameter.Means (content.values parameter) (given.values parameter))
        ∧ ∀ parameter, parameter ∉ content.stage.options → List.Forall₂ parameter.Means
          (textsOf parameter (content.stage.positions.zip content.positions))
          (given.values parameter) := by
  have hreads : ∀ parameter : Parameter, parameter.Reads = parameter.Means := fun parameter =>
    funext₂ fun text value => propext (parameter.reads_iff_means text value)
  simp only [Given.Holds, hreads]
  constructor
  · intro h
    refine ⟨fun parameter hoption => ?_, fun parameter hnot => ?_⟩
    · rw [← content.texts_option (not_mem_positions hoption)]
      exact h parameter
    · have hparameter := h parameter
      rwa [texts, hnone parameter hnot, List.nil_append] at hparameter
  · -- A parameter is an option of the command or stands in a position.
    rintro ⟨hoptions, hpositions⟩ parameter
    by_cases hoption : parameter ∈ content.stage.options
    · rw [content.texts_option (not_mem_positions hoption)]
      exact hoptions parameter hoption
    · rw [texts, hnone parameter hoption, List.nil_append]
      exact hpositions parameter hoption

/-- The first text is that of a path, and the second one is if there is one. -/
theorem paths_iff_evaluate {texts : List String} {source : Path} {rubric : Option Path} :
    let pairs := (Stage.inside .evaluate).positions.zip texts
    (texts.length ≤ 2 ∧ List.Forall₂ IsPath (textsOf .source pairs) [source]
        ∧ List.Forall₂ IsPath (textsOf .rubric pairs) rubric.toList)
      ↔ List.Forall₂ IsPath texts (source :: rubric.toList) := by
  match texts with
  | [] => simp
  | [_] => simp [Stage.positions, textsOf]
  | [_, _] => simp [Stage.positions, textsOf]
  | _ :: _ :: _ :: _ => cases rubric <;> simp

/-- The first two texts are as before, and the third one is that of a threshold if there is one. -/
theorem paths_iff_tasks {texts : List String} {results : Path} {rubric : Option Path}
    {threshold : Option Binary64} :
    let pairs := (Stage.inside .tasks).positions.zip texts
    (texts.length ≤ 3 ∧ List.Forall₂ IsPath (textsOf .results pairs) [results]
        ∧ List.Forall₂ IsPath (textsOf .rubric pairs) rubric.toList
        ∧ List.Forall₂ (Parameter.Means .threshold) (textsOf .threshold pairs) threshold.toList)
      ↔ ∃ paths numbers, texts = paths ++ numbers
        ∧ List.Forall₂ IsPath paths (results :: rubric.toList)
        ∧ (numbers ≠ [] → paths.length = 2)
        ∧ List.Forall₂ (Parameter.Means .threshold) numbers threshold.toList := by
  constructor
  · rintro ⟨hlength, hresults, hrubric, hthreshold⟩
    refine ⟨_, _, ?_, List.rel_append hresults hrubric, ?_, hthreshold⟩
    all_goals
      match texts, hlength with
      | [], _ => simp
      | [_], _ => simp [Stage.positions, textsOf]
      | [_, _], _ => simp [Stage.positions, textsOf]
      | [_, _, _], _ => simp [Stage.positions, textsOf]
  · rintro ⟨paths, numbers, rfl, hpaths, htwo, hnumbers⟩
    obtain - | ⟨hfirst, hsecond⟩ := hpaths
    cases rubric with
    | none =>
      -- There is no third text without a second one.
      obtain rfl := List.forall₂_nil_right_iff.1 hsecond
      have hone : ¬ numbers ≠ [] := fun hne => absurd (htwo hne) (Nat.ne_of_lt Nat.one_lt_two)
      obtain rfl := not_not.1 hone
      exact ⟨Nat.le_add_left 1 2, .cons hfirst .nil, .nil, hnumbers⟩
    | some path =>
      obtain - | ⟨hsecond, hnil⟩ := hsecond
      obtain rfl := List.forall₂_nil_right_iff.1 hnil
      cases threshold with
      | none =>
        obtain rfl := List.forall₂_nil_right_iff.1 hnumbers
        exact ⟨Nat.le_succ 2, .cons hfirst .nil, .cons hsecond .nil, .nil⟩
      | some x =>
        obtain - | ⟨hthird, hnil⟩ := hnumbers
        obtain rfl := List.forall₂_nil_right_iff.1 hnil
        exact ⟨Nat.le_refl 3, .cons hfirst .nil, .cons hsecond .nil, .cons hthird .nil⟩

variable {invocation : Invocation}

/-- Values of the texts make up what the content stands for. -/
theorem means_of_holds (hnone : ∀ parameter, parameter ∉ content.stage.options →
      content.values parameter = []) {given : Given} (hgiven : given.Holds content.texts)
    (hlength : content.positions.length ≤ content.stage.positions.length) {command : Command}
    (hcommand : Invocation.commandOf given content.command = .ok command) :
    content.Means ⟨given.logLevel.getD .warn, given.workers, command⟩ := by
  obtain ⟨hoptions, hpositions⟩ := (holds_iff hnone).1 hgiven
  refine ⟨⟨given.logLevel, hoptions .logLevel (mem_options_of_mem_before (by decide)), rfl⟩,
    hoptions .workers (mem_options_of_mem_before (by decide)), ?_⟩
  cases hname : content.command with
  | init =>
    rw [stage, hname] at hlength
    rw [hname] at hcommand
    obtain rfl := Except.ok.inj hcommand
    exact ⟨hname, List.length_eq_zero_iff.1 (Nat.le_zero.1 hlength)⟩
  | evaluate =>
    rw [stage, hname] at hoptions hpositions hlength
    rw [hname, Invocation.commandOf] at hcommand
    split at hcommand
    · cases hcommand
    · next source hsource =>
      obtain rfl := Except.ok.inj hcommand
      have hfirst := hpositions .source (by decide)
      rw [Given.values, hsource] at hfirst
      refine ⟨hname, ⟨given.rubric, ?_, rfl⟩, ⟨given.format, hoptions .format (by decide), rfl⟩,
        hoptions .output (by decide), ?_, hoptions .maxFiles (by decide)⟩
      · exact paths_iff_evaluate.1 ⟨hlength, hfirst, hpositions .rubric (by decide)⟩
      · exact List.forall₂_eq_eq_eq ▸ hoptions .extension (by decide)
  | tasks =>
    rw [stage, hname] at hoptions hpositions hlength
    rw [hname, Invocation.commandOf] at hcommand
    split at hcommand
    · cases hcommand
    · next results hresults =>
      obtain rfl := Except.ok.inj hcommand
      have hfirst := hpositions .results (by decide)
      rw [Given.values, hresults] at hfirst
      obtain ⟨paths, numbers, htexts, hpaths, htwo, hnumbers⟩ := paths_iff_tasks.1
        ⟨hlength, hfirst, hpositions .rubric (by decide), hpositions .threshold (by decide)⟩
      exact ⟨hname, ⟨paths, numbers, htexts, ⟨given.rubric, hpaths, rfl⟩, htwo, hnumbers⟩,
        ⟨given.format, hoptions .format (by decide), rfl⟩, hoptions .output (by decide)⟩

/-- What has no position has no value from one. -/
theorem forall₂_textsOf_zip_nil {stage : Stage} {parameter : Parameter}
    (hnot : parameter ∉ stage.positions) (texts : List String) :
    List.Forall₂ parameter.Means (textsOf parameter (stage.positions.zip texts)) [] :=
  List.forall₂_nil_right_iff.2 (textsOf_zip_eq_nil hnot texts)

/-- What the content stands for is made up of values of the texts. -/
theorem exists_holds_of_means (hnone : ∀ parameter, parameter ∉ content.stage.options →
      content.values parameter = []) (hmeans : content.Means invocation) :
    content.positions.length ≤ content.stage.positions.length
      ∧ ∃ given command, given.Holds content.texts
        ∧ Invocation.commandOf given content.command = .ok command
        ∧ invocation = ⟨given.logLevel.getD .warn, given.workers, command⟩ := by
  obtain ⟨logLevel, workers, command⟩ := invocation
  obtain ⟨⟨verbosity?, hlogLevel, hdefault⟩, hworkers, hasks⟩ := hmeans
  dsimp only at hdefault
  subst hdefault
  simp only [holds_iff hnone]
  cases command with
  | init =>
    obtain ⟨hname, hpositions⟩ := hasks
    rw [stage, hname, hpositions]
    refine ⟨Nat.le_refl 0, { Given.nothing with logLevel := verbosity?, workers := workers }, .init,
      ⟨fun parameter hoption => ?_, fun parameter hnot => ?_⟩, rfl, rfl⟩
    · cases parameter <;> first | exact hlogLevel | exact hworkers | exact absurd hoption (by decide)
    · cases parameter <;> first | exact .nil | exact absurd hnot (by decide)
  | evaluate request =>
    obtain ⟨hname, ⟨rubric?, hpaths, hrubric⟩, ⟨format?, hformat, hdefault⟩, houtput, hextensions,
      hmaxFiles⟩ := hasks
    obtain ⟨hlength, hfirst, hsecond⟩ := paths_iff_evaluate.2 hpaths
    have hextension : List.Forall₂ (Parameter.Means .extension) (content.values .extension)
        request.extensions := List.forall₂_eq_eq_eq ▸ hextensions
    rw [stage, hname]
    refine ⟨hlength, ⟨verbosity?, workers, request.source, none, rubric?, none, format?,
      request.output, request.extensions, request.maxFiles⟩, .evaluate request,
      ⟨fun parameter hoption => ?_, fun parameter hnot => ?_⟩, ?_, rfl⟩
    · cases parameter <;> first | assumption | exact absurd hoption (by decide)
    · cases parameter with
      | source => exact hfirst
      | rubric => exact hsecond
      | results => exact forall₂_textsOf_zip_nil (by decide) _
      | threshold => exact forall₂_textsOf_zip_nil (by decide) _
      | _ => exact absurd (by decide) hnot
    · obtain ⟨source, rubric, format, output, extensions, maxFiles⟩ := request
      dsimp only at hrubric hdefault
      rw [Invocation.commandOf, hrubric, hdefault]
  | tasks request =>
    obtain ⟨hname, ⟨paths, numbers, htexts, ⟨rubric?, hpaths, hrubric⟩, htwo, hnumbers⟩,
      ⟨format?, hformat, hdefault⟩, houtput⟩ := hasks
    obtain ⟨hlength, hfirst, hsecond, hthird⟩ :=
      paths_iff_tasks.2 ⟨paths, numbers, htexts, hpaths, htwo, hnumbers⟩
    rw [stage, hname]
    refine ⟨hlength, ⟨verbosity?, workers, none, request.results, rubric?, request.threshold, format?,
      request.output, [], none⟩, .tasks request,
      ⟨fun parameter hoption => ?_, fun parameter hnot => ?_⟩, ?_, rfl⟩
    · cases parameter <;> first | assumption | exact absurd hoption (by decide)
    · cases parameter with
      | results => exact hfirst
      | rubric => exact hsecond
      | threshold => exact hthird
      | source => exact forall₂_textsOf_zip_nil (by decide) _
      | extension => exact forall₂_textsOf_zip_nil (by decide) _
      | maxFiles => exact forall₂_textsOf_zip_nil (by decide) _
      | _ => exact absurd (by decide) hnot
    · obtain ⟨results, rubric, threshold, format, output⟩ := request
      dsimp only at hrubric hdefault
      rw [Invocation.commandOf, hrubric, hdefault]

end Content

/-- An argument list is read as the invocation that what it says stands for, if there is one. So all
argument lists that say the same are read alike. An argument list of usual arguments that is read at
all does say something, unless an option stands on both sides of the name of the command. -/
theorem ofArguments_arranged :
    (∀ (content : Content) (arguments : List String), content.SaidBy arguments →
      (∀ invocation, Invocation.ofArguments arguments = .ok invocation ↔ content.Means invocation)
        ∧ ∀ others, content.SaidBy others → ∀ invocation,
          Invocation.ofArguments others = .ok invocation
            ↔ Invocation.ofArguments arguments = .ok invocation)
      ∧ ∀ arguments general command own, (∀ argument ∈ arguments, IsUsual argument) →
        CommandLine.read arguments = .ok (general, command, own) →
        (∀ parameter, general.values parameter = [] ∨ own.values parameter = []) →
        ∃ content : Content, content.command = command ∧ content.SaidBy arguments := by
  have hmeans : ∀ {content : Content} {words : List String}, content.SaidBy words →
      ∀ invocation, Invocation.ofArguments words = .ok invocation ↔ content.Means invocation := by
    intro content words hwords invocation
    have hnone : ∀ parameter, parameter ∉ content.stage.options → content.values parameter = [] :=
      fun _ hnot => hwords.values_eq_nil hnot
    rw [hwords.ofArguments_eq_ok_iff]
    constructor
    · rintro ⟨hlength, given, command, hgiven, hcommand, rfl⟩
      exact Content.means_of_holds hnone hgiven hlength hcommand
    · exact Content.exists_holds_of_means hnone
  refine ⟨fun content arguments h => ⟨hmeans h, fun others hothers invocation => ?_⟩,
    fun arguments general command own husual hread hsides =>
      Content.exists_saidBy husual hread hsides⟩
  exact (hmeans hothers invocation).trans (hmeans h invocation).symm

/-- A directory and a rubric to evaluate, with eight workers, two extensions and a format. -/
def Content.sample : Content where
  command := .evaluate
  positions := ["src", "custom.json"]
  values
    | .workers => ["8"]
    | .extension => [".c", "h"]
    | .format => ["json"]
    | _ => []
  once parameter hextension := by
    cases parameter with
    | extension => exact absurd rfl hextension
    | _ => decide

/-- The options may stand between the positions or in front of them. -/
theorem ofArguments_arranged_evaluate :
    let first := ["--workers", "8", "evaluate", "src", "--ext", ".c", "custom.json", "-fjson",
      "--ext=h"]
    let second := ["evaluate", "--format=json", "--ext", ".c", "--workers=8", "--ext", "h", "--",
      "src", "custom.json"]
    let invocation : Invocation :=
      ⟨.warn, some 8, .evaluate ⟨⟨"src"⟩, ⟨"custom.json"⟩, .json, none, [".c", "h"], none⟩⟩
    Content.sample.SaidBy first ∧ Content.sample.SaidBy second
      ∧ Content.sample.Means invocation ∧ Invocation.ofArguments second = .ok invocation
      ∧ ∃ content : Content, content.command = .evaluate ∧ content.SaidBy first := by
  intro first second invocation
  have hext : Names (.inside .evaluate) .extension "--ext" := @Names.long _ _ "ext" rfl
  have hfirst : Content.sample.SaidBy first := by
    have hworkers : Spells .before (.option .workers "8") ["--workers", "8"] :=
      .apart (@Names.long _ _ "workers" rfl) (by decide)
    have hsource : Spells (.inside .evaluate) (.position "src") ["src"] :=
      .position (by decide) (by decide)
    have hdotted : Spells (.inside .evaluate) (.option .extension ".c") ["--ext", ".c"] :=
      .apart hext (by decide)
    have hrubric : Spells (.inside .evaluate) (.position "custom.json") ["custom.json"] :=
      .position (by decide) (by decide)
    have hformat : Spells (.inside .evaluate) (.option .format "json") ["-fjson"] :=
      .joined (@Gives.short _ _ "json" 'f' rfl (by decide) (by decide))
    have hplain : Spells (.inside .evaluate) (.option .extension "h") ["--ext=h"] :=
      .joined (@Gives.long _ _ "h" "ext" rfl)
    exact .words rfl (.cons hworkers .nil)
      (.cons hsource <| .cons hdotted <| .cons hrubric <| .cons hformat <| .cons hplain .nil) rfl
      fun parameter => by cases parameter <;> rfl
  have hsecond : Content.sample.SaidBy second := by
    have hformat : Spells (.inside .evaluate) (.option .format "json") ["--format=json"] :=
      .joined (@Gives.long _ _ "json" "format" rfl)
    have hdotted : Spells (.inside .evaluate) (.option .extension ".c") ["--ext", ".c"] :=
      .apart hext (by decide)
    have hworkers : Spells (.inside .evaluate) (.option .workers "8") ["--workers=8"] :=
      .joined (@Gives.long _ _ "8" "workers" rfl)
    have hplain : Spells (.inside .evaluate) (.option .extension "h") ["--ext", "h"] :=
      .apart hext (by decide)
    have hpositions : Spelled (.inside .evaluate) [.position "src", .position "custom.json"]
        ["--", "src", "custom.json"] := @Spelled.dashes _ ["src", "custom.json"] (by decide)
    exact @Content.SaidBy.words _ [] _ [] _ "evaluate" rfl .nil
      (.cons hformat <| .cons hdotted <| .cons hworkers <| .cons hplain hpositions) rfl
      fun parameter => by cases parameter <;> rfl
  obtain ⟨hmeans, hothers⟩ := ofArguments_arranged.1 _ _ hfirst
  have hread : Invocation.ofArguments first = .ok invocation := by decide +kernel
  -- The number of workers stands in front of the command, and all the rest behind its name.
  have hsides : CommandLine.read first = .ok
      ({ Given.nothing with workers := some 8 }, .evaluate,
        ⟨none, none, some ⟨"src"⟩, none, some ⟨"custom.json"⟩, none, some .json, none,
          [".c", "h"], none⟩) := by decide +kernel
  have husual : ∀ argument ∈ first, IsUsual argument := by
    have hoption : ∀ argument : String, ∀ c tail, argument.toList = '-' :: c :: tail →
        Binary64.isDigit c = false → IsUsual argument :=
      fun _ c tail htext hdigit => .inr ⟨c, tail, htext, hdigit⟩
    simp only [first, List.forall_mem_cons, List.not_mem_nil, false_imp_iff, implies_true, and_true]
    exact ⟨hoption _ _ _ rfl rfl, .inl (by decide), .inl (by decide), .inl (by decide),
      hoption _ _ _ rfl rfl, .inl (by decide), .inl (by decide), hoption _ _ _ rfl rfl,
      hoption _ _ _ rfl rfl⟩
  exact ⟨hfirst, hsecond, (hmeans _).1 hread, (hothers second hsecond _).2 hread,
    ofArguments_arranged.2 _ _ _ _ husual hsides fun parameter => by
      cases parameter <;> first | exact .inl rfl | exact .inr rfl⟩

end RubricScore.CommandLine
