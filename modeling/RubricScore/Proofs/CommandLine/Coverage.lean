import RubricScore.Proofs.CommandLine.Arrangement

/-!
# Coverage of argument lists

Argument lists that are read say something: they are made up of words, except for those with an empty
argument or with one that begins like a negative number.

## Main definitions

* `IsUsual`: the arguments of which that holds;
* `Effect`: what such an argument does.

## Main results

* `effect_of_step`: every argument that is read has one of the effects;
* `Content.exists_saidBy`: every argument list that is read says something.
-/

namespace RubricScore.CommandLine

/-- The argument is not empty, it is no single dash, and it does not begin like a negative number. -/
def IsUsual (argument : String) : Prop :=
  IsPlain argument
    ∨ ∃ c tail, argument.toList = '-' :: c :: tail ∧ Binary64.isDigit c = false

/-- The option met last waits for its value. -/
structure Progress.Waits (progress : Progress) (parameter : Parameter) : Prop where
  /-- The value is awaited. -/
  awaiting : progress.awaiting = some parameter
  /-- The option has no value yet. -/
  pending : progress.pending = some (parameter, none)
  /-- Options may come. -/
  positionsOnly : progress.positionsOnly = false

/-- What an argument does where no option waits for its value. -/
inductive Effect (stage : Stage) (progress next : Progress) : String → Prop
  /-- It is the word for one thing. -/
  | thing {item : Item} {argument : String} (hitem : Spells stage item [argument])
    (hnext : next.IsOpen false) : Effect stage progress next argument
  /-- It is the name of an option whose value is to follow. -/
  | name {parameter : Parameter} {argument : String} (hname : Names stage parameter argument)
    (hnext : next.Waits parameter) : Effect stage progress next argument
  /-- It is two dashes. -/
  | dashes (hnext : next = { progress with positionsOnly := true }) : Effect stage progress next "--"

/-! ## Single arguments -/

section Arguments

variable {stage : Stage} {progress next : Progress} {parameter : Parameter} {argument : String}

/-- Only options with values are read on from. -/
theorem exists_parameter_of_meet {switch : Switch} {shown : String} {attached : Option String}
    (h : progress.meet switch shown attached = .ok next) :
    ∃ parameter, switch = .value parameter := by
  cases switch with
  | value parameter => exact ⟨parameter, rfl⟩
  | help =>
    cases attached with
    | some text => exact absurd h nofun
    | none =>
      obtain ⟨_, -, hthrow⟩ := bind_eq_ok_iff.1 h
      exact absurd hthrow nofun
  | version =>
    cases attached with
    | some text => exact absurd h nofun
    | none =>
      obtain ⟨_, -, hthrow⟩ := bind_eq_ok_iff.1 h
      exact absurd hthrow nofun

theorem isOpen_of_meet {shown value : String} (hopen : progress.positionsOnly = false)
    (h : progress.meet (.value parameter) shown (some value) = .ok next) : next.IsOpen false := by
  obtain ⟨settled, given, hsettle, -, rfl⟩ := meet_some.1 h
  obtain ⟨-, -, -, hflag⟩ := of_settle hsettle
  exact ⟨rfl, hflag.trans hopen⟩

theorem waits_of_meet {shown : String} (hopen : progress.positionsOnly = false)
    (h : progress.meet (.value parameter) shown none = .ok next) : next.Waits parameter := by
  obtain ⟨settled, hsettle, rfl⟩ := meet_none.1 h
  obtain ⟨-, -, -, hflag⟩ := of_settle hsettle
  exact ⟨rfl, rfl, hflag.trans hopen⟩

theorem effect_of_stepLong {body : List Char} (hopen : progress.positionsOnly = false)
    (hargument : argument.toList = '-' :: '-' :: body)
    (h : stepLong stage progress body = .ok next) : Effect stage progress next argument := by
  unfold stepLong at h
  -- With an equals sign the argument has its value, without one the value is the next argument.
  by_cases hequals : '=' ∈ body
  · obtain ⟨front, value, rfl, hfront⟩ := List.eq_append_cons_of_mem hequals
    rw [cutAtEquals_append hfront] at h
    dsimp only at h
    split at h
    · next switch hname =>
      obtain ⟨parameter, rfl⟩ := exists_parameter_of_meet h
      have hword : argument = "--" ++ String.ofList front ++ "=" ++ String.ofList value := by
        rw [← String.toList_inj, hargument]
        simp [String.toList_append]
      exact hword ▸ .thing (.joined (.long hname)) (isOpen_of_meet hopen h)
    · exact absurd h nofun
  · rw [cutAtEquals_of_not_mem hequals] at h
    dsimp only at h
    split at h
    · next switch hname =>
      obtain ⟨parameter, rfl⟩ := exists_parameter_of_meet h
      have hword : argument = "--" ++ String.ofList body := by
        rw [← String.toList_inj, hargument]
        simp [String.toList_append]
      exact hword ▸ .name (.long hname) (waits_of_meet hopen h)
    · exact absurd h nofun

theorem effect_of_stepShort {letter : Char} {tail : List Char}
    (hopen : progress.positionsOnly = false) (hargument : argument.toList = '-' :: letter :: tail)
    (h : stepShort stage progress letter tail = .ok next) : Effect stage progress next argument := by
  have hword : argument = String.ofList ('-' :: letter :: tail) := by
    rw [← hargument, String.ofList_toList]
  unfold stepShort at h
  split at h
  · -- A letter waits for its value, or has it behind it, after an equals sign or at once.
    next parameter hletter =>
    unfold attachedTo at h
    split at h
    · exact hword ▸ .name (.short hletter) (waits_of_meet hopen h)
    · next value =>
      have hgives := @Gives.shortEquals stage parameter (String.ofList value) letter hletter
      rw [String.toList_ofList] at hgives
      exact hword ▸ .thing (.joined hgives) (isOpen_of_meet hopen h)
    · next hne hequals =>
      have hgives := @Gives.short stage parameter (String.ofList tail) letter hletter
      rw [String.toList_ofList] at hgives
      refine hword ▸ .thing (.joined (hgives (fun h => ?_) fun h => ?_)) (isOpen_of_meet hopen h)
      · exact hne (String.ofList_eq_empty_iff.1 h)
      · obtain ⟨value, rfl⟩ := List.head?_eq_some_iff.1 h
        exact hequals value rfl
  · next switch hvalue _ =>
    obtain ⟨parameter, rfl⟩ := exists_parameter_of_meet h
    exact absurd rfl (hvalue parameter)
  · exact absurd h nofun

/-- An argument is plain, or two dashes, or it is read by a long or by a short name. -/
theorem step_of_isUsual (stage : Stage) (hopen : progress.positionsOnly = false)
    (husual : IsUsual argument) :
    IsPlain argument ∨ argument = "--"
      ∨ (∃ body, argument.toList = '-' :: '-' :: body
        ∧ step stage progress argument = stepLong stage progress body)
      ∨ ∃ letter tail, argument.toList = '-' :: letter :: tail
        ∧ step stage progress argument = stepShort stage progress letter tail := by
  rcases husual with hplain | ⟨c, tail, hargument, hdigit⟩
  · exact .inl hplain
  · by_cases hdash : c = '-'
    · subst hdash
      by_cases hnil : tail = []
      · subst hnil
        exact .inr (.inl (String.toList_inj.1 hargument))
      · exact .inr (.inr (.inl ⟨tail, hargument, step_long hopen hargument hnil⟩))
    · exact .inr (.inr (.inr ⟨c, tail, hargument, step_short hopen hargument hdash hdigit⟩))

/-- Every argument that is read where no option waits has one of the effects. -/
theorem effect_of_step (hopen : progress.IsOpen false) (husual : IsUsual argument)
    (h : step stage progress argument = .ok next) : Effect stage progress next argument := by
  rcases step_of_isUsual stage hopen.positionsOnly husual with
    hplain | rfl | ⟨body, hargument, hstep⟩ | ⟨letter, tail, hargument, hstep⟩
  · have hstage : stage ≠ .before := by
      rintro rfl
      rw [step_eq_position hopen fun _ => hplain] at h
      cases h
    have hspells : Spells stage (.position argument) [argument] := .position hstage hplain
    have hwords : [argument].foldlM (step stage) progress = .ok next := by
      simp only [List.foldlM_cons, List.foldlM_nil, bind_pure, h]
    exact .thing hspells (isOpen_of_spells hspells hopen hwords)
  · rw [step_dashes hopen.positionsOnly] at h
    exact .dashes (Except.ok.inj h).symm
  · exact effect_of_stepLong hopen.positionsOnly hargument (hstep.symm.trans h)
  · exact effect_of_stepShort hopen.positionsOnly hargument (hstep.symm.trans h)

/-- An option that has no value yet is not done with. -/
theorem settle_of_unsettled {settled : Progress}
    (hpending : progress.pending = some (parameter, none)) : progress.settle ≠ .ok settled := by
  simp [Progress.settle, hpending]

/-- No option is met before the one that was met last has its value. -/
theorem meet_of_unsettled {switch : Switch} {shown : String} {attached : Option String}
    (hpending : progress.pending = some (parameter, none)) :
    progress.meet switch shown attached ≠ .ok next := by
  intro h
  obtain ⟨own, rfl⟩ := exists_parameter_of_meet h
  cases attached with
  | some value =>
    obtain ⟨_, _, hsettle, -⟩ := meet_some.1 h
    exact settle_of_unsettled hpending hsettle
  | none =>
    obtain ⟨_, hsettle, -⟩ := meet_none.1 h
    exact settle_of_unsettled hpending hsettle

/-- What an option waits for is its value. Two dashes are read, but nothing can come of them. -/
theorem isPlain_of_step (hwaits : progress.Waits parameter) (husual : IsUsual argument)
    (h : step stage progress argument = .ok next) :
    (IsPlain argument ∧ next.IsOpen false)
      ∨ (next.pending = some (parameter, none) ∧ next.positionsOnly = true) := by
  rcases step_of_isUsual stage hwaits.positionsOnly husual with
    hplain | rfl | ⟨body, -, hstep⟩ | ⟨letter, tail, -, hstep⟩
  · rw [step_awaited hwaits.positionsOnly hwaits.awaiting hplain] at h
    obtain rfl := Except.ok.inj h
    exact .inl ⟨hplain, rfl, hwaits.positionsOnly⟩
  · rw [step_dashes hwaits.positionsOnly] at h
    obtain rfl := Except.ok.inj h
    exact .inr ⟨hwaits.pending, rfl⟩
  · rw [hstep, stepLong] at h
    dsimp only at h
    split at h
    · exact absurd h (meet_of_unsettled hwaits.pending)
    · cases h
  · rw [hstep, stepShort] at h
    split at h
    · exact absurd h (meet_of_unsettled hwaits.pending)
    · exact absurd h (meet_of_unsettled hwaits.pending)
    · cases h

end Arguments

/-! ## Arguments of commands -/

/-- The arguments are read to the end, and so is the value met last. -/
def Finishes (stage : Stage) (progress : Progress) (words : List String) : Prop :=
  ∃ next settled, words.foldlM (step stage) progress = .ok next ∧ next.settle = .ok settled

section Finishes

variable {stage : Stage} {progress : Progress} {parameter : Parameter} {argument : String}
  {words : List String}

theorem finishes_cons :
    Finishes stage progress (argument :: words)
      ↔ ∃ next, step stage progress argument = .ok next ∧ Finishes stage next words := by
  simp only [Finishes, List.foldlM_cons, bind_eq_ok_iff]
  constructor
  · rintro ⟨last, settled, ⟨next, hstep, hwords⟩, hsettle⟩
    exact ⟨next, hstep, last, settled, hwords, hsettle⟩
  · rintro ⟨next, hstep, last, settled, hwords, hsettle⟩
    exact ⟨last, settled, ⟨next, hstep, hwords⟩, hsettle⟩

/-- Where positions only may come, an option gets no value any more. -/
theorem not_finishes_of_unsettled (hpending : progress.pending = some (parameter, none))
    (hflag : progress.positionsOnly = true) : ¬Finishes stage progress words := by
  cases words with
  | nil =>
    rintro ⟨_, _, hnil, hsettle⟩
    obtain rfl := Except.ok.inj hnil
    exact settle_of_unsettled hpending hsettle
  | cons word words =>
    rw [finishes_cons]
    rintro ⟨_, hstep, -⟩
    rw [step, if_pos hflag] at hstep
    obtain ⟨_, _, -, hsettle, -⟩ := position_eq_ok_iff.1 hstep
    exact settle_of_unsettled hpending hsettle

/-- Arguments that are read to the end are words; if an option waits, then the first one is its
value. -/
theorem exists_spelled_of_finishes {command : CommandName} (husual : ∀ word ∈ words, IsUsual word) :
    (∀ progress : Progress, progress.IsOpen false → Finishes (.inside command) progress words →
      ∃ items, Spelled (.inside command) items words)
    ∧ ∀ (progress : Progress) (parameter : Parameter), progress.Waits parameter →
      Finishes (.inside command) progress words →
      ∃ value rest items, words = value :: rest ∧ IsPlain value
        ∧ Spelled (.inside command) items rest := by
  -- The name of an option is a word without its value, so the induction carries both states.
  induction words with
  | nil =>
    refine ⟨fun _ _ _ => ⟨[], .nil⟩, fun progress parameter hwaits => ?_⟩
    rintro ⟨_, _, hnil, hsettle⟩
    obtain rfl := Except.ok.inj hnil
    exact absurd hsettle (settle_of_unsettled hwaits.pending)
  | cons word words ih =>
    obtain ⟨hword, hwords⟩ := List.forall_mem_cons.1 husual
    obtain ⟨hopens, hwaiting⟩ := ih hwords
    simp only [finishes_cons]
    constructor
    · rintro progress hopen ⟨next, hstep, hfinishes⟩
      cases effect_of_step hopen hword hstep with
      | thing hitem hnext =>
        obtain ⟨items, hitems⟩ := hopens next hnext hfinishes
        exact ⟨_, .cons hitem hitems⟩
      | name hname hnext =>
        obtain ⟨value, rest, items, rfl, hvalue, hitems⟩ := hwaiting next _ hnext hfinishes
        exact ⟨_, .cons (.apart hname hvalue) hitems⟩
      | dashes => exact ⟨_, .dashes nofun⟩
    · rintro progress parameter hwaits ⟨next, hstep, hfinishes⟩
      rcases isPlain_of_step hwaits hword hstep with ⟨hvalue, hnext⟩ | ⟨hpending, hflag⟩
      · obtain ⟨items, hitems⟩ := hopens next hnext hfinishes
        exact ⟨word, words, items, rfl, hvalue, hitems⟩
      · exact absurd hfinishes (not_finishes_of_unsettled hpending hflag)

end Finishes

/-! ## Argument lists -/

/-- The arguments are words, the name of the command and other words. -/
def Splits (command : CommandName) (arguments : List String) : Prop :=
  ∃ before inside front back name, arguments = front ++ name :: back
    ∧ CommandName.ofName? name = some command ∧ Spelled .before before front
    ∧ Spelled (.inside command) inside back

section Splits

variable {progress : Progress} {command : CommandName} {arguments : List String}
  {general own : Given}

/-- There is a command in what is read. -/
theorem readFrom_nil : readFrom progress [] ≠ .ok (general, command, own) := by
  intro h
  obtain ⟨settled, -, hthrow⟩ := bind_eq_ok_iff.1 h
  split at hthrow <;> cases hthrow

/-- Where positions only may come, no command is met. -/
theorem readFrom_positionsOnly (hflag : progress.positionsOnly = true) :
    readFrom progress arguments ≠ .ok (general, command, own) := by
  cases arguments with
  | nil => exact readFrom_nil
  | cons argument rest =>
    intro h
    rw [readFrom, if_pos (.inl hflag)] at h
    obtain ⟨_, hstep, -⟩ := bind_eq_ok_iff.1 h
    rw [step, if_pos hflag] at hstep
    obtain ⟨_, _, hposition, -⟩ := position_eq_ok_iff.1 hstep
    cases hposition

/-- Words may stand before what splits. -/
theorem Splits.cons {item : Item} {words : List String} (h : Splits command arguments)
    (hitem : Spells .before item words) : Splits command (words ++ arguments) := by
  obtain ⟨before, inside, front, back, name, rfl, hname, hbefore, hinside⟩ := h
  exact ⟨item :: before, inside, words ++ front, back, name, (List.append_assoc ..).symm, hname,
    .cons hitem hbefore, hinside⟩

/-- Argument lists that are read split; if an option waits, then after its value. -/
theorem splits_of_readFrom (husual : ∀ argument ∈ arguments, IsUsual argument) :
    (∀ progress : Progress, progress.IsOpen false →
      readFrom progress arguments = .ok (general, command, own) → Splits command arguments)
    ∧ ∀ (progress : Progress) (parameter : Parameter), progress.Waits parameter →
      readFrom progress arguments = .ok (general, command, own) →
      ∃ value rest, arguments = value :: rest ∧ IsPlain value ∧ Splits command rest := by
  -- By induction on the arguments, for a reader that takes names and for one that waits together.
  induction arguments with
  | nil =>
    exact ⟨fun _ _ h => absurd h readFrom_nil, fun _ _ _ h => absurd h readFrom_nil⟩
  | cons argument rest ih =>
    obtain ⟨hargument, hrest⟩ := List.forall_mem_cons.1 husual
    obtain ⟨hopens, hwaiting⟩ := ih hrest
    constructor
    · intro progress hopen h
      rw [readFrom, if_neg hopen.takesNames] at h
      obtain ⟨-, h⟩ := ite_error_eq_ok_iff.1 h
      split at h
      · -- The name of the command: all that follows stands inside.
        next named hname =>
        obtain ⟨values, hinside, h⟩ := bind_eq_ok_iff.1 h
        obtain ⟨settled, -, h⟩ := bind_eq_ok_iff.1 h
        cases h
        obtain ⟨last, hlast, hdone⟩ := bind_eq_ok_iff.1 hinside
        obtain ⟨done, hsettle, -⟩ := bind_eq_ok_iff.1 hdone
        obtain ⟨items, hitems⟩ :=
          (exists_spelled_of_finishes hrest).1 .start isOpen_start ⟨last, done, hlast, hsettle⟩
        exact ⟨[], items, [], rest, argument, rfl, hname, .nil, hitems⟩
      · obtain ⟨next, hstep, hread⟩ := bind_eq_ok_iff.1 h
        cases effect_of_step hopen hargument hstep with
        | thing hitem hnext => exact (hopens next hnext hread).cons hitem
        | name hname hnext =>
          obtain ⟨value, others, rfl, hvalue, hsplits⟩ := hwaiting next _ hnext hread
          exact hsplits.cons (.apart hname hvalue)
        | dashes hnext => exact absurd hread (readFrom_positionsOnly (by rw [hnext]))
    · intro progress parameter hwaits h
      rw [readFrom_awaited (hwaits.awaiting ▸ rfl)] at h
      obtain ⟨next, hstep, h⟩ := bind_eq_ok_iff.1 h
      rcases isPlain_of_step hwaits hargument hstep with ⟨hvalue, hnext⟩ | ⟨-, hflag⟩
      · exact ⟨argument, rest, rfl, hvalue, hopens next hnext h⟩
      · exact absurd h (readFrom_positionsOnly hflag)

/-- Every argument list that is read says something if no option stands on both sides of the name of
the command. -/
theorem Content.exists_saidBy (husual : ∀ argument ∈ arguments, IsUsual argument)
    (hread : CommandLine.read arguments = .ok (general, command, own))
    (hsides : ∀ parameter, general.values parameter = [] ∨ own.values parameter = []) :
    ∃ content : Content, content.command = command ∧ content.SaidBy arguments := by
  obtain ⟨before, inside, front, back, name, rfl, hname, hbefore, hinside⟩ :=
    (splits_of_readFrom husual).1 .start isOpen_start hread
  obtain ⟨-, hgeneral, hown, -⟩ := (read_eq_ok_iff hbefore hname hinside).1 hread
  obtain ⟨-, hgeneral⟩ := (exists_foldlM_accept_iff hbefore).1 hgeneral
  obtain ⟨-, hown⟩ := (exists_foldlM_accept_iff hinside).1 hown
  have hle : ∀ {texts texts' : Parameter → List String} {given : Given},
      given.Holds (fun parameter => texts parameter ++ texts' parameter) →
      ∀ parameter, (texts parameter).length ≤ (given.values parameter).length := by
    intro texts texts' given hgiven parameter
    rw [← (hgiven parameter).length_eq, List.length_append]
    exact Nat.le_add_right _ _
  -- An option has one value at most on each side, and none on one of them.
  let values := fun parameter => textsOf parameter (optionsOf (before ++ inside))
  refine ⟨⟨command, positionsOf inside, values, fun parameter hextension => ?_⟩, rfl,
    .words hname hbefore hinside rfl fun _ => rfl⟩
  have hbeforeLength := hle hgeneral parameter
  have hinsideLength := hle hown parameter
  have hgeneralLength := general.length_values_le hextension
  have hownLength := own.length_values_le hextension
  dsimp only [values]
  rw [optionsOf_append, textsOf_append, List.length_append]
  rcases hsides parameter with hnil | hnil
  · rw [hnil, List.length_nil] at hbeforeLength
    omega
  · rw [hnil, List.length_nil] at hinsideLength
    omega

end Splits

end RubricScore.CommandLine
