import RubricScore.CommandLine.Invocation
import RubricScore.Proofs.CommandLine.Wording

/-!
# Arrangements of argument lists

What an argument list asks for depends on what it says, not on how the parts of it are arranged nor on
which of several words are used. What it says is a command, the texts in the positions, and the texts
of the options; texts of one option keep their order, and so do the positions.

## Main definitions

* `Content`: what an argument list says;
* `Content.SaidBy`: the argument lists that say it;
* `Content.texts`: the texts that it has for a parameter.

## Main results

* `Content.SaidBy.ofArguments_eq_ok_iff`: an argument list is read as what its texts are read as.
-/

namespace RubricScore.CommandLine

/-! ## Positions and options -/

/-- The texts in positions. -/
def positionsOf (items : List Item) : List String :=
  items.filterMap fun
    | .position text => some text
    | .option _ _ => none

/-- The options with their texts. -/
def optionsOf (items : List Item) : List (Parameter × String) :=
  items.filterMap fun
    | .position _ => none
    | .option parameter value => some (parameter, value)

/-- All texts with their parameters, given the parameters of the positions. -/
def pairsOf (parameters : List Parameter) : List Item → List (Parameter × String)
  | [] => []
  | .option parameter value :: items => (parameter, value) :: pairsOf parameters items
  | .position text :: items =>
    match parameters with
    | [] => []
    | parameter :: parameters => (parameter, text) :: pairsOf parameters items

/-- The options of a stage that have values. -/
def Stage.options : Stage → List Parameter
  | .inside .evaluate => [.logLevel, .workers, .format, .output, .extension, .maxFiles]
  | .inside .tasks => [.logLevel, .workers, .format, .output]
  | _ => [.logLevel, .workers]

theorem mem_options_of_longOption? {stage : Stage} {name : String} {parameter : Parameter}
    (h : stage.longOption? name = some (.value parameter)) : parameter ∈ stage.options := by
  unfold Stage.longOption? Stage.commonOption? at h
  split at h
  · exact absurd h nofun
  · obtain rfl := Switch.value.inj (Option.some.inj h)
    obtain - | command := stage
    · decide
    · cases command <;> decide
  · obtain rfl := Switch.value.inj (Option.some.inj h)
    obtain - | command := stage
    · decide
    · cases command <;> decide
  · dsimp only [Option.or] at h
    split at h <;> simp_all [Stage.options]

theorem mem_options_of_shortOption? {stage : Stage} {letter : Char} {parameter : Parameter}
    (h : stage.shortOption? letter = some (.value parameter)) : parameter ∈ stage.options := by
  unfold Stage.shortOption? at h
  split at h <;> simp_all [Stage.options]

section Items

variable {stage : Stage} {parameter own : Parameter} {text value : String} {items : List Item}
  {words : List String} {given given' : Given} {filled filled' : Nat}

@[simp]
theorem positionsOf_position : positionsOf (.position text :: items) = text :: positionsOf items :=
  rfl

@[simp]
theorem positionsOf_option : positionsOf (.option own value :: items) = positionsOf items :=
  rfl

@[simp]
theorem optionsOf_position : optionsOf (.position text :: items) = optionsOf items :=
  rfl

@[simp]
theorem optionsOf_option :
    optionsOf (.option own value :: items) = (own, value) :: optionsOf items :=
  rfl

theorem optionsOf_append (items more : List Item) :
    optionsOf (items ++ more) = optionsOf items ++ optionsOf more :=
  List.filterMap_append

/-- What may stand before the name of a command may stand behind it, too. -/
theorem mem_options_of_mem_before (h : parameter ∈ Stage.before.options) :
    parameter ∈ stage.options := by
  revert parameter
  obtain - | command := stage
  · exact fun h => h
  · cases command <;> decide

/-- A command has no parameter both as an option and as a position. -/
theorem not_mem_positions (h : parameter ∈ stage.options) : parameter ∉ stage.positions := by
  obtain - | command := stage
  · exact List.not_mem_nil
  · revert parameter
    cases command <;> decide

/-- Words name options of their stage only. -/
theorem mem_options_of_spelled (h : Spelled stage items words) :
    ∀ pair ∈ optionsOf items, pair.1 ∈ stage.options := by
  induction h with
  | nil => exact nofun
  | cons hitem _ ih =>
    cases hitem with
    | position => exact ih
    | apart hword =>
      refine List.forall_mem_cons.2 ⟨?_, ih⟩
      cases hword with
      | long hname => exact mem_options_of_longOption? hname
      | short hletter => exact mem_options_of_shortOption? hletter
    | joined hword =>
      refine List.forall_mem_cons.2 ⟨?_, ih⟩
      cases hword with
      | long hname => exact mem_options_of_longOption? hname
      | short hletter => exact mem_options_of_shortOption? hletter
      | shortEquals hletter => exact mem_options_of_shortOption? hletter
  | dashes => simp [optionsOf]

/-- Before the name of the command there are no positions. -/
theorem positionsOf_of_spelled (h : Spelled .before items words) : positionsOf items = [] := by
  induction h with
  | nil => rfl
  | cons hitem _ ih =>
    cases hitem with
    | position hstage => exact absurd rfl hstage
    | apart => exact ih
    | joined => exact ih
  | dashes hstage => exact absurd rfl hstage

/-- Things are accepted if there are positions enough and their texts are taken. -/
theorem foldlM_accept_eq_ok_iff :
    items.foldlM (accept stage) (given, filled) = .ok (given', filled')
      ↔ filled' = filled + (positionsOf items).length
        ∧ (positionsOf items).length ≤ (stage.positions.drop filled).length
        ∧ given.takeAll (pairsOf (stage.positions.drop filled) items) = .ok given' := by
  induction items generalizing given filled with
  | nil =>
    simp only [List.foldlM_nil, pure_eq_ok, Except.ok.injEq, Prod.mk.injEq, pairsOf, positionsOf,
      Given.takeAll, List.filterMap_nil, List.length_nil, Nat.add_zero, Nat.zero_le, true_and]
    rw [and_comm, eq_comm]
  | cons item items ih =>
    rw [List.foldlM_cons, bind_eq_ok_iff]
    cases item with
    | option own value =>
      simp only [accept, map_eq_ok_iff, positionsOf_option, pairsOf, Given.takeAll_cons,
        bind_eq_ok_iff]
      constructor
      · rintro ⟨_, ⟨next, htake, rfl⟩, hrest⟩
        obtain ⟨hfilled, hlength, hrest⟩ := ih.1 hrest
        exact ⟨hfilled, hlength, next, htake, hrest⟩
      · rintro ⟨hfilled, hlength, next, htake, hrest⟩
        exact ⟨_, ⟨next, htake, rfl⟩, ih.2 ⟨hfilled, hlength, hrest⟩⟩
    | position text =>
      rw [accept, positionsOf_position, List.length_cons]
      by_cases hroom : filled < stage.positions.length
      · rw [List.getElem?_eq_getElem hroom, List.drop_eq_getElem_cons hroom, List.length_cons,
          pairsOf, Given.takeAll_cons, bind_eq_ok_iff]
        simp only [map_eq_ok_iff]
        constructor
        · rintro ⟨_, ⟨next, htake, rfl⟩, hrest⟩
          obtain ⟨hfilled, hlength, hrest⟩ := ih.1 hrest
          exact ⟨by omega, by omega, next, htake, hrest⟩
        · rintro ⟨hfilled, hlength, next, htake, hrest⟩
          exact ⟨_, ⟨next, htake, rfl⟩, ih.2 ⟨by omega, by omega, hrest⟩⟩
      · -- There is no position for the text.
        rw [List.getElem?_eq_none (by omega), List.drop_eq_nil_of_le (by omega)]
        simp

/-- The texts of a parameter are those of an option or that of a position. -/
theorem textsOf_pairsOf {parameters : List Parameter}
    (hlength : (positionsOf items).length ≤ parameters.length)
    (hoptions : ∀ pair ∈ optionsOf items, pair.1 ∉ parameters) :
    textsOf parameter (pairsOf parameters items)
      = textsOf parameter (optionsOf items)
        ++ textsOf parameter (parameters.zip (positionsOf items)) := by
  induction items generalizing parameters with
  | nil => simp [pairsOf, positionsOf, optionsOf]
  | cons item items ih =>
    cases item with
    | option own value =>
      obtain ⟨-, hoptions⟩ := List.forall_mem_cons.1 hoptions
      have hrest := ih hlength hoptions
      rw [pairsOf, optionsOf_option, positionsOf_option]
      by_cases howner : own = parameter
      · subst howner
        rw [textsOf_cons_self, textsOf_cons_self, hrest, List.cons_append]
      · rw [textsOf_cons_of_ne howner, textsOf_cons_of_ne howner, hrest]
    | position text =>
      cases parameters with
      | nil => exact absurd hlength (by simp)
      | cons own parameters =>
        have hrest := ih (Nat.le_of_succ_le_succ hlength) fun pair hpair hin =>
          hoptions pair hpair (List.mem_cons_of_mem _ hin)
        rw [pairsOf, optionsOf_position, positionsOf_position, List.zip_cons_cons]
        by_cases howner : own = parameter
        · subst howner
          -- The parameter of a position is no option.
          have hnone : textsOf own (optionsOf items) = [] :=
            textsOf_eq_nil fun pair hpair heq => hoptions pair hpair (heq ▸ List.mem_cons_self)
          rw [textsOf_cons_self, textsOf_cons_self, hrest, hnone, List.nil_append, List.nil_append]
        · rw [textsOf_cons_of_ne howner, textsOf_cons_of_ne howner, hrest]

end Items

/-! ## What argument lists say -/

/-- What an argument list says. -/
structure Content where
  /-- The command. -/
  command : CommandName
  /-- The texts in the positions. -/
  positions : List String
  /-- The texts of each option, in order. -/
  values : Parameter → List String
  /-- All options but the extensions have one text at most. -/
  once : ∀ parameter, parameter ≠ .extension → (values parameter).length ≤ 1

namespace Content

/-- The stage of the arguments of the command. -/
def stage (content : Content) : Stage :=
  .inside content.command

/-- The argument list says this: it has words for some of it before the name of the command and words
for the rest of it behind the name. -/
inductive SaidBy (content : Content) : List String → Prop
  /-- Words, the name of the command and other words. -/
  | words {before inside : List Item} {front back : List String} {name : String}
    (hname : CommandName.ofName? name = some content.command)
    (hbefore : Spelled .before before front) (hinside : Spelled content.stage inside back)
    (hpositions : positionsOf inside = content.positions)
    (hvalues : ∀ parameter, textsOf parameter (optionsOf (before ++ inside))
      = content.values parameter) : SaidBy content (front ++ name :: back)

/-- The texts of a parameter, whether it is an option or a position. -/
def texts (content : Content) (parameter : Parameter) : List String :=
  content.values parameter ++ textsOf parameter (content.stage.positions.zip content.positions)

end Content

/-! ## Values before and after the name of the command -/

/-- Both values, where those after the name of the command go before the others. -/
def Given.merge (general own : Given) : Given :=
  { own with
    logLevel := own.logLevel.or general.logLevel
    workers := own.workers.or general.workers }

theorem Given.values_merge {general own : Given}
    (hgeneral : ∀ parameter, parameter ∉ Stage.before.options → general.values parameter = [])
    (honce : ∀ parameter ∈ Stage.before.options,
      (general.values parameter ++ own.values parameter).length ≤ 1) (parameter : Parameter) :
    (general.merge own).values parameter = general.values parameter ++ own.values parameter := by
  have hor : ∀ {α : Type} {held held' : Option α}, (held.toList ++ held'.toList).length ≤ 1 →
      (held'.or held).toList = held.toList ++ held'.toList := by
    intro α held held' hlength
    cases held <;> cases held' <;> first | rfl | exact absurd hlength (by simp)
  have hnone := hgeneral parameter
  have hlength := honce parameter
  cases parameter with
  | logLevel => exact hor (hlength (by decide))
  | workers => exact hor (hlength (by decide))
  | _ => rw [hnone (by decide)]; rfl

/-- Values of texts one after the other. -/
theorem exists_append_of_forall₂ {α β : Type} {R : α → β → Prop} {as as' : List α} {bs : List β}
    (h : List.Forall₂ R (as ++ as') bs) :
    ∃ front back, bs = front ++ back ∧ List.Forall₂ R as front ∧ List.Forall₂ R as' back := by
  induction as generalizing bs with
  | nil => exact ⟨[], bs, rfl, .nil, h⟩
  | cons a as ih =>
    obtain - | @⟨_, b, _, bs, hab, hrest⟩ := h
    obtain ⟨front, back, rfl, hfront, hback⟩ := ih hrest
    exact ⟨b :: front, back, rfl, .cons hab hfront, hback⟩

/-- Values of the texts before and after the name of the command are values of all texts. -/
theorem Given.holds_append_iff {texts texts' : Parameter → List String}
    (hgeneral : ∀ parameter, parameter ∉ Stage.before.options → texts parameter = [])
    (honce : ∀ parameter ∈ Stage.before.options,
      (texts parameter ++ texts' parameter).length ≤ 1) {given : Given} :
    given.Holds (fun parameter => texts parameter ++ texts' parameter)
      ↔ ∃ general own : Given, general.Holds texts ∧ own.Holds texts'
        ∧ given = general.merge own := by
  have hmerge : ∀ {general own : Given}, general.Holds texts → own.Holds texts' →
      (general.merge own).Holds fun parameter => texts parameter ++ texts' parameter := by
    intro general own htexts htexts' parameter
    rw [values_merge]
    · exact List.rel_append (htexts parameter) (htexts' parameter)
    · intro parameter hnot
      have hnil := htexts parameter
      rw [hgeneral parameter hnot] at hnil
      exact List.forall₂_nil_left_iff.1 hnil
    · intro parameter hoption
      rw [List.length_append, ← (htexts parameter).length_eq, ← (htexts' parameter).length_eq,
        ← List.length_append]
      exact honce parameter hoption
  constructor
  · intro h
    -- Each list of values is cut where the texts behind the name begin.
    choose front back hvalues hfront hback using fun parameter =>
      exists_append_of_forall₂ (h parameter)
    have hlength : ∀ parameter, parameter ≠ .extension →
        (front parameter).length + (back parameter).length ≤ 1 := by
      intro parameter hextension
      rw [← List.length_append, ← hvalues]
      exact length_values_le hextension
    have hgeneralHolds : (ofValues front).Holds texts := fun parameter => by
      rw [values_ofValues fun other hother => (Nat.le_add_right _ _).trans (hlength other hother)]
      exact hfront parameter
    have hownHolds : (ofValues back).Holds texts' := fun parameter => by
      rw [values_ofValues fun other hother => (Nat.le_add_left _ _).trans (hlength other hother)]
      exact hback parameter
    exact ⟨_, _, hgeneralHolds, hownHolds, h.unique (hmerge hgeneralHolds hownHolds)⟩
  · rintro ⟨general, own, htexts, htexts', rfl⟩
    exact hmerge htexts htexts'

/-! ## Reading what is said -/

/-- Words are accepted if there are positions enough and every text can be read. -/
theorem exists_foldlM_accept_iff {stage : Stage} {items : List Item} {words : List String}
    (h : Spelled stage items words) {given : Given} :
    (∃ filled, items.foldlM (accept stage) (.nothing, 0) = .ok (given, filled))
      ↔ (positionsOf items).length ≤ stage.positions.length
        ∧ given.Holds fun parameter => textsOf parameter (optionsOf items)
          ++ textsOf parameter (stage.positions.zip (positionsOf items)) := by
  simp only [foldlM_accept_eq_ok_iff, List.drop_zero, Given.takeAll_nothing_eq_ok_iff,
    exists_eq_left]
  refine and_congr_right fun hlength => forall_congr' fun parameter => ?_
  dsimp only
  rw [textsOf_pairsOf hlength]
  exact fun pair hpair => not_mem_positions (mem_options_of_spelled h pair hpair)

variable {content : Content} {arguments : List String}

/-- Only options of the command have texts. -/
theorem Content.SaidBy.values_eq_nil (h : content.SaidBy arguments) {parameter : Parameter}
    (hparameter : parameter ∉ content.stage.options) : content.values parameter = [] := by
  obtain ⟨-, hbefore, hinside, -, hvalues⟩ := h
  rw [← hvalues parameter]
  refine textsOf_eq_nil fun pair hpair heq => hparameter ?_
  rw [optionsOf_append, List.mem_append] at hpair
  rcases hpair with hpair | hpair
  · exact mem_options_of_mem_before (heq ▸ mem_options_of_spelled hbefore pair hpair)
  · exact heq ▸ mem_options_of_spelled hinside pair hpair

/-- A parameter that is an option has the texts of the option. -/
theorem Content.texts_option {parameter : Parameter} (h : parameter ∉ content.stage.positions) :
    content.texts parameter = content.values parameter := by
  rw [texts, textsOf_zip_eq_nil h, List.append_nil]

/-- The arguments say what a command and its values say. -/
theorem ofArguments_eq_ok_iff {invocation : Invocation} :
    Invocation.ofArguments arguments = .ok invocation
      ↔ ∃ general name own command, CommandLine.read arguments = .ok (general, name, own)
        ∧ Invocation.commandOf (general.merge own) name = .ok command
        ∧ invocation = ⟨(general.merge own).logLevel.getD .warn, (general.merge own).workers,
          command⟩ := by
  have hmerge : ∀ (general own : Given) (name : CommandName),
      Invocation.commandOf (general.merge own) name = Invocation.commandOf own name := by
    intro general own name
    cases name <;> rfl
  simp only [hmerge, Invocation.ofArguments, bind_eq_ok_iff, Prod.exists, pure_eq_ok,
    Except.ok.injEq, exists_and_left, eq_comm (b := invocation)]
  rfl

/-- What makes up a command fills the positions that must be filled. -/
theorem lacks_of_commandOf_merge {general own : Given} {name : CommandName} {command : Command}
    (h : Invocation.commandOf (general.merge own) name = .ok command) : own.lacks name = false := by
  cases name with
  | init => rfl
  | evaluate =>
    rw [Invocation.commandOf] at h
    cases hsource : own.source with
    | none => rw [Given.merge, hsource] at h; exact absurd h nofun
    | some source => rw [Given.lacks, hsource]; rfl
  | tasks =>
    rw [Invocation.commandOf] at h
    cases hresults : own.results with
    | none => rw [Given.merge, hresults] at h; exact absurd h nofun
    | some results => rw [Given.lacks, hresults]; rfl

/-- An argument list is followed if there are positions enough, every text can be read and the values
make up a command. -/
theorem Content.SaidBy.ofArguments_eq_ok_iff (h : content.SaidBy arguments)
    {invocation : Invocation} :
    Invocation.ofArguments arguments = .ok invocation
      ↔ content.positions.length ≤ content.stage.positions.length
        ∧ ∃ given command, given.Holds content.texts
          ∧ Invocation.commandOf given content.command = .ok command
          ∧ invocation = ⟨given.logLevel.getD .warn, given.workers, command⟩ := by
  obtain @⟨before, inside, front, back, name, hname, hbefore, hinside, hpositions, hvalues⟩ := h
  have hread : ∀ general read own, CommandLine.read (front ++ name :: back)
      = .ok (general, read, own)
        ↔ read = content.command
          ∧ general.Holds (fun parameter => textsOf parameter (optionsOf before))
          ∧ (content.positions.length ≤ content.stage.positions.length
            ∧ own.Holds fun parameter => textsOf parameter (optionsOf inside)
              ++ textsOf parameter (content.stage.positions.zip content.positions))
          ∧ own.lacks content.command = false := by
    intro general read own
    rw [read_eq_ok_iff hbefore hname hinside, exists_foldlM_accept_iff hbefore,
      ← Content.stage, exists_foldlM_accept_iff hinside, positionsOf_of_spelled hbefore, hpositions]
    simp
  have htexts : ∀ parameter, content.texts parameter = textsOf parameter (optionsOf before)
      ++ (textsOf parameter (optionsOf inside)
        ++ textsOf parameter (content.stage.positions.zip content.positions)) := by
    intro parameter
    rw [Content.texts, ← hvalues, optionsOf_append, textsOf_append, List.append_assoc]
  have hgeneral : ∀ parameter, parameter ∉ Stage.before.options →
      textsOf parameter (optionsOf before) = [] := fun parameter hnot =>
    textsOf_eq_nil fun pair hpair heq => hnot (heq ▸ mem_options_of_spelled hbefore pair hpair)
  -- An option that may stand before the name has one value in all, before it or behind it.
  have honce : ∀ parameter ∈ Stage.before.options, (textsOf parameter (optionsOf before)
      ++ (textsOf parameter (optionsOf inside)
        ++ textsOf parameter (content.stage.positions.zip content.positions))).length ≤ 1 := by
    intro parameter hoption
    rw [← htexts, content.texts_option (not_mem_positions (mem_options_of_mem_before hoption))]
    exact content.once parameter fun heq => absurd (heq ▸ hoption) (by decide)
  -- So what is given in all is what is given before the name and behind it.
  have hholds : ∀ given : Given, given.Holds content.texts ↔ ∃ general own : Given,
      general.Holds (fun parameter => textsOf parameter (optionsOf before))
        ∧ own.Holds (fun parameter => textsOf parameter (optionsOf inside)
          ++ textsOf parameter (content.stage.positions.zip content.positions))
        ∧ given = general.merge own := by
    intro given
    rw [funext htexts]
    exact Given.holds_append_iff hgeneral honce
  simp only [CommandLine.ofArguments_eq_ok_iff, hread]
  constructor
  · rintro ⟨general, _, own, command, ⟨rfl, hbeforeHolds, ⟨hlength, hinsideHolds⟩, -⟩, hcommand, rfl⟩
    have hgiven := (hholds _).2 ⟨general, own, hbeforeHolds, hinsideHolds, rfl⟩
    exact ⟨hlength, _, command, hgiven, hcommand, rfl⟩
  · rintro ⟨hlength, given, command, hgiven, hcommand, rfl⟩
    obtain ⟨general, own, hbeforeHolds, hinsideHolds, rfl⟩ := (hholds given).1 hgiven
    exact ⟨general, _, own, command,
      ⟨rfl, hbeforeHolds, ⟨hlength, hinsideHolds⟩, lacks_of_commandOf_merge hcommand⟩, hcommand, rfl⟩

end RubricScore.CommandLine
