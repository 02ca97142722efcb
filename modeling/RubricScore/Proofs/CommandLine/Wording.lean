import Mathlib.Data.List.TakeWhile
import RubricScore.CommandLine.Reading
import RubricScore.Proofs.CommandLine.Values
import RubricScore.Proofs.Text.Parts

/-!
# Wordings of argument lists

What the arguments of a command say, and in which words it may be said. An option goes by its long
or its short name, and its value stands in the same argument or in the next one. Reading the words
comes to taking one value after the other.

## Main definitions

* `Item`: one thing that arguments say;
* `Spells`, `Spelled`: the words for it, and for several things;
* `accept`: what it does to the values taken so far.

## Main results

* `does_of_spelled`: words do to the values taken so far what they say;
* `readInside_eq_ok_iff`: the arguments of a command are read as what they say;
* `read_eq_ok_iff`: so are whole argument lists.
-/

namespace RubricScore.CommandLine

/-! ## The grammar -/

/-- One thing that arguments say. -/
inductive Item where
  /-- A text in the next position. -/
  | position (text : String)
  /-- The value of an option. -/
  | option (parameter : Parameter) (value : String)

/-- The argument is not empty and does not begin like an option. -/
def IsPlain (argument : String) : Prop :=
  argument ≠ "" ∧ argument.toList.head? ≠ some '-'

instance (argument : String) : Decidable (IsPlain argument) :=
  inferInstanceAs (Decidable (_ ∧ _))

/-- The argument is a name of an option; its value is to follow. -/
inductive Names (stage : Stage) (parameter : Parameter) : String → Prop
  /-- The long name. -/
  | long {name : String} (hname : stage.longOption? name = some (.value parameter)) :
    Names stage parameter ("--" ++ name)
  /-- The short name. -/
  | short {letter : Char} (hletter : stage.shortOption? letter = some (.value parameter)) :
    Names stage parameter (String.ofList ['-', letter])

/-- The argument is a name of an option together with its value. -/
inductive Gives (stage : Stage) (parameter : Parameter) (value : String) : String → Prop
  /-- The long name. -/
  | long {name : String} (hname : stage.longOption? name = some (.value parameter)) :
    Gives stage parameter value ("--" ++ name ++ "=" ++ value)
  /-- The short name. -/
  | short {letter : Char} (hletter : stage.shortOption? letter = some (.value parameter))
    (hne : value ≠ "") (hequals : value.toList.head? ≠ some '=') :
    Gives stage parameter value (String.ofList ('-' :: letter :: value.toList))
  /-- The short name and an equals sign. -/
  | shortEquals {letter : Char} (hletter : stage.shortOption? letter = some (.value parameter)) :
    Gives stage parameter value (String.ofList ('-' :: letter :: '=' :: value.toList))

/-- The words for one thing. Before the name of the command there are no positions. -/
inductive Spells (stage : Stage) : Item → List String → Prop
  /-- A position. -/
  | position {text : String} (hstage : stage ≠ .before) (htext : IsPlain text) :
    Spells stage (.position text) [text]
  /-- An option and its value in two words. -/
  | apart {parameter : Parameter} {word value : String} (hword : Names stage parameter word)
    (hvalue : IsPlain value) : Spells stage (.option parameter value) [word, value]
  /-- An option and its value in one word. -/
  | joined {parameter : Parameter} {word value : String}
    (hword : Gives stage parameter value word) : Spells stage (.option parameter value) [word]

/-- The words for several things, one after the other. Behind two dashes stand positions only. -/
inductive Spelled (stage : Stage) : List Item → List String → Prop
  /-- Nothing. -/
  | nil : Spelled stage [] []
  /-- One thing and others. -/
  | cons {item : Item} {items : List Item} {words more : List String}
    (hitem : Spells stage item words) (hitems : Spelled stage items more) :
    Spelled stage (item :: items) (words ++ more)
  /-- Two dashes and positions. -/
  | dashes {texts : List String} (hstage : stage ≠ .before) :
    Spelled stage (texts.map .position) ("--" :: texts)

/-! ## Names of options -/

variable {stage : Stage} {parameter : Parameter} {name value word : String} {letter : Char}

/-- Long names are not empty and have no equals sign. -/
theorem longOption?_spec (h : stage.longOption? name = some (.value parameter)) :
    name.toList ≠ [] ∧ '=' ∉ name.toList := by
  have hnames : name ∈ ["log-level", "workers", "format", "output", "ext", "max-files"] := by
    unfold Stage.longOption? Stage.commonOption? at h
    split at h
    · exact absurd h nofun
    · simp
    · simp
    · dsimp only [Option.or] at h
      split at h <;> simp_all
  have hspec : ∀ name ∈ ["log-level", "workers", "format", "output", "ext", "max-files"],
      name.toList ≠ [] ∧ '=' ∉ name.toList := by decide
  exact hspec name hnames

theorem shortOption?_spec (h : stage.shortOption? letter = some (.value parameter)) :
    letter = 'f' ∨ letter = 'o' := by
  unfold Stage.shortOption? at h
  split at h <;> simp_all

/-! ## Single arguments -/

section Arguments

variable {progress : Progress} {argument : String}

theorem step_long {body : List Char} (hopen : progress.positionsOnly = false)
    (hargument : argument.toList = '-' :: '-' :: body) (hne : body ≠ []) :
    step stage progress argument = stepLong stage progress body := by
  rw [step, if_neg (Bool.eq_false_iff.1 hopen), hargument]
  obtain ⟨c, rest, rfl⟩ := List.exists_cons_of_ne_nil hne
  rfl

/-- A number begins with a digit. -/
theorem looksNumeric_of_isDigit_eq_false {tail : List Char}
    (hdigit : Binary64.isDigit letter = false) : looksNumeric (letter :: tail) = false := by
  by_cases hexponent : letter = 'e'
  · simp [looksNumeric, hexponent]
  · rw [looksNumeric, List.takeWhile_cons_of_pos (by simpa using hexponent)]
    by_cases hpoint : letter = '.' <;> simp [hpoint, hdigit]

/-- A dash and what is no digit begin a short name. -/
theorem step_short {tail : List Char} (hopen : progress.positionsOnly = false)
    (hargument : argument.toList = '-' :: letter :: tail) (hdash : letter ≠ '-')
    (hdigit : Binary64.isDigit letter = false) :
    step stage progress argument = stepShort stage progress letter tail := by
  have hnumeric : looksNumeric (letter :: tail) = false := looksNumeric_of_isDigit_eq_false hdigit
  rw [step, if_neg (Bool.eq_false_iff.1 hopen), hargument]
  split
  · next heq => exact absurd (List.cons.inj (List.cons.inj heq).2).1 hdash
  · next heq => exact absurd (List.cons.inj (List.cons.inj heq).2).1 hdash
  · next heq =>
    obtain ⟨rfl, rfl⟩ := List.cons.inj (List.cons.inj heq).2
    exact if_neg fun h => Bool.false_ne_true (hnumeric ▸ h.1)
  · next hneither => exact absurd rfl (hneither _ _)

theorem step_shortOption {tail : List Char} (hopen : progress.positionsOnly = false)
    (hargument : argument.toList = '-' :: letter :: tail)
    (hletter : stage.shortOption? letter = some (.value parameter)) :
    step stage progress argument = progress.meet (.value parameter) "" (attachedTo tail) := by
  have hshort : stepShort stage progress letter tail
      = progress.meet (.value parameter) "" (attachedTo tail) := by rw [stepShort, hletter]
  rw [← hshort]
  rcases shortOption?_spec hletter with rfl | rfl
  · exact step_short hopen hargument (by decide) (by decide)
  · exact step_short hopen hargument (by decide) (by decide)

/-- Behind two dashes there are positions only. -/
theorem step_dashes (hopen : progress.positionsOnly = false) :
    step stage progress "--" = .ok { progress with positionsOnly := true } := by
  rw [step, if_neg (Bool.eq_false_iff.1 hopen)]
  rfl

theorem step_plain (hopen : progress.positionsOnly = false)
    (hargument : argument.toList.head? ≠ some '-') :
    step stage progress argument = progress.plain stage argument := by
  rw [step, if_neg (Bool.eq_false_iff.1 hopen)]
  split
  all_goals first | rfl | (next heq => exact absurd (by rw [heq]; rfl) hargument)

/-- The text in front of the first equals sign and the one behind it. -/
theorem cutAtEquals_append {front : List Char} (h : '=' ∉ front) (value : List Char) :
    cutAtEquals (front ++ '=' :: value) = (String.ofList front, some (String.ofList value)) := by
  have hfront : ∀ c ∈ front, decide (c ≠ '=') = true := fun c hc =>
    decide_eq_true fun heq => h (heq ▸ hc)
  have hequals : ∀ c, ('=' :: value).head? = some c → decide (c ≠ '=') = false := by
    rintro c ⟨⟩
    rfl
  rw [cutAtEquals, takeWhile_append_eq hfront hequals, dropWhile_append_eq hfront hequals]

theorem cutAtEquals_of_not_mem {text : List Char} (h : '=' ∉ text) :
    cutAtEquals text = (String.ofList text, none) := by
  have htext : ∀ c ∈ text, decide (c ≠ '=') = true := fun c hc =>
    decide_eq_true fun heq => h (heq ▸ hc)
  rw [cutAtEquals, List.takeWhile_eq_self_iff.2 htext, List.dropWhile_eq_nil_iff.2 htext]

theorem attachedTo_value (hne : value ≠ "") (hequals : value.toList.head? ≠ some '=') :
    attachedTo value.toList = some value := by
  unfold attachedTo
  split
  · next hnil => exact absurd (String.toList_eq_nil_iff.1 hnil) hne
  · next heq => exact absurd (by rw [heq]; rfl) hequals
  · rw [String.ofList_toList]

/-- A name of an option makes its value the next thing to come. -/
theorem step_of_names (h : Names stage parameter word) (hopen : progress.positionsOnly = false) :
    step stage progress word = progress.meet (.value parameter) word none := by
  cases h with
  | @long name hname =>
    obtain ⟨hne, hequals⟩ := longOption?_spec hname
    rw [step_long hopen (String.toList_append) hne, stepLong, cutAtEquals_of_not_mem hequals]
    dsimp only
    rw [String.ofList_toList, hname]
  | short hletter => exact step_shortOption hopen String.toList_ofList hletter

/-- A name of an option with a value gives the value. -/
theorem step_of_gives (h : Gives stage parameter value word)
    (hopen : progress.positionsOnly = false) :
    step stage progress word = progress.meet (.value parameter) word (some value) := by
  cases h with
  | @long name hname =>
    obtain ⟨-, hequals⟩ := longOption?_spec hname
    have hword : ("--" ++ name ++ "=" ++ value).toList
        = '-' :: '-' :: (name.toList ++ '=' :: value.toList) := by
      simp [String.toList_append]
    rw [step_long hopen hword (by simp), stepLong, cutAtEquals_append hequals]
    dsimp only
    rw [String.ofList_toList, hname, String.ofList_toList]
    rfl
  | short hletter hne hequals =>
    rw [step_shortOption hopen String.toList_ofList hletter, attachedTo_value hne hequals]
    rfl
  | shortEquals hletter =>
    rw [step_shortOption hopen String.toList_ofList hletter, attachedTo, String.ofList_toList]
    rfl

end Arguments

/-! ## What words do -/

/-- The values taken and the number of positions filled, once the value met last is taken, too. -/
def Progress.state (progress : Progress) : Except UsageError (Given × Nat) :=
  progress.settle.map fun settled => (settled.given, settled.filled)

/-- What one thing does to the values taken and the number of positions filled. -/
def accept (stage : Stage) (state : Given × Nat) : Item → Except UsageError (Given × Nat)
  | .option parameter value => (state.1.take parameter value).map (·, state.2)
  | .position text =>
    match stage.positions[state.2]? with
    | some parameter => (state.1.take parameter text).map (·, state.2 + 1)
    | none => .error (.unexpected text)

/-- To read the words and then to take the value met last does what a change of the values does. -/
def Does (stage : Stage) (progress : Progress) (words : List String)
    (change : Given × Nat → Except UsageError (Given × Nat)) : Prop :=
  ∀ state', (∃ next, words.foldlM (step stage) progress = .ok next ∧ next.state = .ok state')
    ↔ ∃ state, progress.state = .ok state ∧ change state = .ok state'

/-- No option waits for its value. -/
structure Progress.IsOpen (progress : Progress) (positionsOnly : Bool) : Prop where
  /-- Nothing is awaited. -/
  awaiting : progress.awaiting = none
  /-- Whether positions only may come. -/
  positionsOnly : progress.positionsOnly = positionsOnly

section Words

variable {progress next settled : Progress} {item : Item} {items : List Item}
  {words : List String} {flag : Bool}

/-- To settle is to take the last value and nothing else. -/
theorem of_settle (h : progress.settle = .ok settled) :
    settled.pending = none ∧ settled.filled = progress.filled
      ∧ settled.awaiting = progress.awaiting ∧ settled.positionsOnly = progress.positionsOnly := by
  unfold Progress.settle at h
  split at h
  · next hpending =>
    obtain rfl := Except.ok.inj h
    exact ⟨hpending, rfl, rfl, rfl⟩
  · exact absurd h nofun
  · obtain ⟨given, -, rfl⟩ := map_eq_ok_iff.1 h
    exact ⟨rfl, rfl, rfl, rfl⟩

theorem state_of_pending_eq_none (h : progress.pending = none) :
    progress.state = .ok (progress.given, progress.filled) := by
  rw [Progress.state, Progress.settle, h]
  rfl

theorem state_of_pending_eq_some {text : String}
    (h : progress.pending = some (parameter, some text)) :
    progress.state = (progress.given.take parameter text).map (·, progress.filled) := by
  rw [Progress.state, Progress.settle, h]
  dsimp only
  cases progress.given.take parameter text <;> rfl

theorem state_eq_ok_iff {state : Given × Nat} :
    progress.state = .ok state
      ↔ ∃ settled, progress.settle = .ok settled ∧ (settled.given, settled.filled) = state :=
  map_eq_ok_iff

/-- A value that is given with its option is taken at once. -/
theorem meet_some {shown : String} :
    progress.meet (.value parameter) shown (some value) = .ok next
      ↔ ∃ settled given, progress.settle = .ok settled
        ∧ settled.given.take parameter value = .ok given
        ∧ next = { settled with given := given, awaiting := none } := by
  simp only [Progress.meet, bind_eq_ok_iff, pure_eq_ok, Except.ok.injEq, exists_and_left,
    eq_comm (b := next)]

theorem meet_none {shown : String} :
    progress.meet (.value parameter) shown none = .ok next
      ↔ ∃ settled, progress.settle = .ok settled
        ∧ next = { settled with pending := some (parameter, none), awaiting := some parameter } := by
  simp only [Progress.meet, bind_eq_ok_iff, pure_eq_ok, Except.ok.injEq, eq_comm (b := next)]

/-- The value that an option waits for is kept until the next argument. -/
theorem step_awaited (hflag : progress.positionsOnly = false)
    (hawaiting : progress.awaiting = some parameter) (hvalue : IsPlain value) :
    step stage progress value
      = .ok { progress with pending := some (parameter, some value), awaiting := none } := by
  rw [step_plain hflag hvalue.2, Progress.plain, hawaiting]

theorem foldlM_apart (hword : Names stage parameter word) (hvalue : IsPlain value)
    (hopen : progress.IsOpen false) :
    [word, value].foldlM (step stage) progress = .ok next
      ↔ ∃ settled, progress.settle = .ok settled
        ∧ next = { settled with pending := some (parameter, some value), awaiting := none } := by
  rw [List.foldlM_cons, step_of_names hword hopen.positionsOnly, bind_eq_ok_iff]
  simp only [meet_none, List.foldlM_cons, List.foldlM_nil, bind_pure]
  constructor
  · rintro ⟨_, ⟨settled, hsettle, rfl⟩, hstep⟩
    obtain ⟨-, -, -, hflag⟩ := of_settle hsettle
    rw [step_awaited (by exact hflag.trans hopen.positionsOnly) rfl hvalue] at hstep
    exact ⟨settled, hsettle, (Except.ok.inj hstep).symm⟩
  · rintro ⟨settled, hsettle, rfl⟩
    obtain ⟨-, -, -, hflag⟩ := of_settle hsettle
    exact ⟨_, ⟨settled, hsettle, rfl⟩,
      step_awaited (hflag.trans hopen.positionsOnly) rfl hvalue⟩

theorem foldlM_joined (hword : Gives stage parameter value word) (hopen : progress.IsOpen false) :
    [word].foldlM (step stage) progress = .ok next
      ↔ ∃ settled given, progress.settle = .ok settled
        ∧ settled.given.take parameter value = .ok given
        ∧ next = { settled with given := given, awaiting := none } := by
  rw [List.foldlM_cons, step_of_gives hword hopen.positionsOnly]
  simp only [List.foldlM_nil, bind_pure, meet_some]

/-- A text fills the next position if there is one. -/
theorem position_eq_ok_iff {text : String} :
    progress.position stage text = .ok next
      ↔ ∃ parameter settled, stage.positions[progress.filled]? = some parameter
        ∧ progress.settle = .ok settled
        ∧ next = { settled with
          pending := some (parameter, some text), awaiting := none, filled := settled.filled + 1 } := by
  rw [Progress.position]
  cases stage.positions[progress.filled]? with
  | none => simp
  | some parameter =>
    simp only [Progress.fill, bind_eq_ok_iff, pure_eq_ok, Except.ok.injEq, Option.some.injEq,
      exists_and_left, exists_eq_left', eq_comm (b := next)]

/-- Where no option waits for its value, a plain argument fills a position. -/
theorem step_eq_position {text : String} (hopen : progress.IsOpen flag)
    (htext : flag = false → IsPlain text) :
    step stage progress text = progress.position stage text := by
  cases flag with
  | true => rw [step, if_pos hopen.positionsOnly]
  | false =>
    rw [step_plain hopen.positionsOnly (htext rfl).2, Progress.plain, hopen.awaiting]

/-- A position is filled alike whether positions only may come or not. -/
theorem does_position {text : String} (hopen : progress.IsOpen flag)
    (htext : flag = false → IsPlain text) :
    Does stage progress [text] (accept stage · (.position text)) := by
  intro state'
  simp only [List.foldlM_cons, List.foldlM_nil, bind_pure, step_eq_position hopen htext,
    position_eq_ok_iff, state_eq_ok_iff]
  constructor
  · rintro ⟨_, ⟨parameter, settled, hposition, hsettle, rfl⟩, hstate⟩
    obtain ⟨-, hfilled, -, -⟩ := of_settle hsettle
    refine ⟨_, ⟨settled, hsettle, rfl⟩, ?_⟩
    rw [← state_eq_ok_iff, state_of_pending_eq_some rfl] at hstate
    rw [accept, hfilled, hposition]
    rwa [hfilled] at hstate
  · rintro ⟨_, ⟨settled, hsettle, rfl⟩, haccept⟩
    obtain ⟨-, hfilled, -, -⟩ := of_settle hsettle
    rw [accept, hfilled] at haccept
    dsimp only at haccept
    split at haccept
    · next parameter hposition =>
      refine ⟨_, ⟨parameter, settled, hposition, hsettle, rfl⟩, ?_⟩
      rw [← state_eq_ok_iff, state_of_pending_eq_some rfl]
      rwa [hfilled]
    · exact absurd haccept nofun

/-- Words for one thing leave no option waiting. -/
theorem isOpen_of_spells (h : Spells stage item words) (hopen : progress.IsOpen false)
    (hwords : words.foldlM (step stage) progress = .ok next) : next.IsOpen false := by
  cases h with
  | position _ htext =>
    rw [List.foldlM_cons, step_eq_position hopen fun _ => htext] at hwords
    simp only [List.foldlM_nil, bind_pure, position_eq_ok_iff] at hwords
    obtain ⟨_, settled, -, hsettle, rfl⟩ := hwords
    obtain ⟨-, -, -, hflag⟩ := of_settle hsettle
    exact ⟨rfl, hflag.trans hopen.positionsOnly⟩
  | apart hword hvalue =>
    obtain ⟨settled, hsettle, rfl⟩ := (foldlM_apart hword hvalue hopen).1 hwords
    obtain ⟨-, -, -, hflag⟩ := of_settle hsettle
    exact ⟨rfl, hflag.trans hopen.positionsOnly⟩
  | joined hword =>
    obtain ⟨settled, given, hsettle, -, rfl⟩ := (foldlM_joined hword hopen).1 hwords
    obtain ⟨-, -, -, hflag⟩ := of_settle hsettle
    exact ⟨rfl, hflag.trans hopen.positionsOnly⟩

/-- Words for one thing do what it does. -/
theorem does_of_spells (h : Spells stage item words) (hopen : progress.IsOpen false) :
    Does stage progress words (accept stage · item) := by
  intro state'
  cases h with
  | position _ htext => exact does_position hopen (fun _ => htext) state'
  | @apart parameter word value hword hvalue =>
    -- The name leaves the option waiting, and its value settles it.
    simp only [foldlM_apart hword hvalue hopen]
    constructor
    · rintro ⟨_, ⟨settled, hsettle, rfl⟩, hstate⟩
      rw [state_of_pending_eq_some rfl] at hstate
      exact ⟨_, state_eq_ok_iff.2 ⟨settled, hsettle, rfl⟩, hstate⟩
    · rintro ⟨_, hstate, haccept⟩
      obtain ⟨settled, hsettle, rfl⟩ := state_eq_ok_iff.1 hstate
      refine ⟨_, ⟨settled, hsettle, rfl⟩, ?_⟩
      rwa [state_of_pending_eq_some rfl]
  | @joined parameter word value hword =>
    simp only [foldlM_joined hword hopen]
    constructor
    · rintro ⟨_, ⟨settled, given, hsettle, htake, rfl⟩, hstate⟩
      obtain ⟨hpending, -, -, -⟩ := of_settle hsettle
      rw [state_of_pending_eq_none (by exact hpending)] at hstate
      exact ⟨_, state_eq_ok_iff.2 ⟨settled, hsettle, rfl⟩,
        map_eq_ok_iff.2 ⟨given, htake, Except.ok.inj hstate⟩⟩
    · rintro ⟨_, hstate, haccept⟩
      obtain ⟨settled, hsettle, rfl⟩ := state_eq_ok_iff.1 hstate
      obtain ⟨given, htake, rfl⟩ := map_eq_ok_iff.1 haccept
      obtain ⟨hpending, -, -, -⟩ := of_settle hsettle
      exact ⟨_, ⟨settled, given, hsettle, htake, rfl⟩, state_of_pending_eq_none hpending⟩

/-- Words do one after the other what they do. -/
theorem Does.append {more : List String}
    {change change' : Given × Nat → Except UsageError (Given × Nat)}
    (h : Does stage progress words change)
    (hmore : ∀ next, words.foldlM (step stage) progress = .ok next → Does stage next more change') :
    Does stage progress (words ++ more) fun state => change state >>= change' := by
  intro state'
  simp only [List.foldlM_append, bind_eq_ok_iff]
  constructor
  · rintro ⟨last, ⟨next, hwords, hlast⟩, hstate⟩
    obtain ⟨middle, hmiddle, hchange'⟩ := (hmore next hwords state').1 ⟨last, hlast, hstate⟩
    obtain ⟨state, hbefore, hchange⟩ := (h middle).1 ⟨next, hwords, hmiddle⟩
    exact ⟨state, hbefore, middle, hchange, hchange'⟩
  · rintro ⟨state, hbefore, middle, hchange, hchange'⟩
    obtain ⟨next, hwords, hmiddle⟩ := (h middle).2 ⟨state, hbefore, hchange⟩
    obtain ⟨last, hlast, hstate⟩ := (hmore next hwords state').2 ⟨middle, hmiddle, hchange'⟩
    exact ⟨last, ⟨next, hwords, hlast⟩, hstate⟩

theorem does_nil : Does stage progress [] .ok := by
  intro state'
  simp only [List.foldlM_nil, pure_eq_ok, Except.ok.injEq, exists_eq_left', exists_eq_right]

theorem isOpen_of_position {text : String} (hopen : progress.IsOpen true)
    (htext : [text].foldlM (step stage) progress = .ok next) : next.IsOpen true := by
  rw [List.foldlM_cons, step_eq_position hopen nofun] at htext
  simp only [List.foldlM_nil, bind_pure, position_eq_ok_iff] at htext
  obtain ⟨_, settled, -, hsettle, rfl⟩ := htext
  obtain ⟨-, -, -, hflag⟩ := of_settle hsettle
  exact ⟨rfl, hflag.trans hopen.positionsOnly⟩

/-- Behind two dashes every text fills a position. -/
theorem does_positions {texts : List String} (hopen : progress.IsOpen true) :
    Does stage progress texts fun state =>
      (texts.map Item.position).foldlM (accept stage) state := by
  induction texts generalizing progress with
  | nil => exact does_nil
  | cons text texts ih =>
    exact (does_position hopen nofun).append fun next hnext => ih (isOpen_of_position hopen hnext)

theorem state_dashes : { progress with positionsOnly := true }.state = progress.state := by
  unfold Progress.state Progress.settle
  dsimp only
  split
  · rfl
  · rfl
  · next text _ => cases progress.given.take _ text <;> rfl

/-- Words do what they say. -/
theorem does_of_spelled (h : Spelled stage items words) (hopen : progress.IsOpen false) :
    Does stage progress words fun state => items.foldlM (accept stage) state := by
  induction h generalizing progress with
  | nil => exact does_nil
  | cons hitem _ ih =>
    -- No option waits behind the first words, so the others are read as if they came first.
    exact (does_of_spells hitem hopen).append fun next hnext =>
      ih (isOpen_of_spells hitem hopen hnext)
  | @dashes texts _ =>
    have hdoes : Does stage { progress with positionsOnly := true } texts fun state =>
        (texts.map Item.position).foldlM (accept stage) state :=
      does_positions ⟨hopen.awaiting, rfl⟩
    intro state'
    have hstate := hdoes state'
    rw [state_dashes] at hstate
    rw [List.foldlM_cons, step_dashes hopen.positionsOnly]
    exact hstate

end Words

/-! ## Argument lists -/

section Lists

variable {progress : Progress} {items : List Item} {words : List String} {command : CommandName}

theorem isOpen_start : Progress.start.IsOpen false :=
  ⟨rfl, rfl⟩

/-- From the start, words do what they say to nothing. -/
theorem foldlM_accept_iff {stage : Stage} (h : Spelled stage items words) {state : Given × Nat} :
    (∃ next, words.foldlM (step stage) Progress.start = .ok next ∧ next.state = .ok state)
      ↔ items.foldlM (accept stage) (.nothing, 0) = .ok state := by
  have hstart : Progress.start.state = .ok (.nothing, 0) := rfl
  rw [does_of_spelled h isOpen_start state, hstart]
  simp only [Except.ok.injEq, exists_eq_left']

/-- The arguments of a command are read as what they say. -/
theorem readInside_eq_ok_iff (h : Spelled (.inside command) items words) {given : Given} :
    readInside command words = .ok given
      ↔ (∃ filled, items.foldlM (accept (.inside command)) (.nothing, 0) = .ok (given, filled))
        ∧ given.lacks command = false := by
  simp only [← foldlM_accept_iff h, readInside, state_eq_ok_iff, bind_eq_ok_iff]
  constructor
  · rintro ⟨last, hlast, settled, hsettle, hgiven⟩
    split at hgiven
    · exact absurd hgiven nofun
    · next hlacks =>
      obtain rfl := Except.ok.inj hgiven
      exact ⟨⟨settled.filled, last, hlast, settled, hsettle, rfl⟩, Bool.eq_false_iff.2 hlacks⟩
  · rintro ⟨⟨filled, last, hlast, settled, hsettle, hstate⟩, hlacks⟩
    obtain ⟨rfl, -⟩ := Prod.mk.inj hstate
    refine ⟨last, hlast, settled, hsettle, ?_⟩
    rw [if_neg (Bool.eq_false_iff.1 hlacks)]
    rfl

/-- Where no option waits, the next argument may be the name of the command. -/
theorem Progress.IsOpen.takesNames (hopen : progress.IsOpen false) :
    ¬(progress.positionsOnly = true ∨ progress.awaiting.isSome = true) := by
  simp [hopen.awaiting, hopen.positionsOnly]

/-- Before the name of the command, a word that begins like an option is no name. -/
theorem readFrom_cons {argument : String} {rest : List String} (hopen : progress.IsOpen false)
    (hargument : argument.toList.head? = some '-') :
    readFrom progress (argument :: rest)
      = step .before progress argument >>= fun next => readFrom next rest := by
  have hnames : argument ≠ "help" ∧ CommandName.ofName? argument = none := by
    unfold CommandName.ofName?
    refine ⟨fun h => absurd (h ▸ hargument) (by decide), ?_⟩
    split
    · exact absurd hargument (by decide)
    · exact absurd hargument (by decide)
    · exact absurd hargument (by decide)
    · rfl
  rw [readFrom, if_neg hopen.takesNames, if_neg hnames.1, hnames.2]

theorem readFrom_awaited {argument : String} {rest : List String}
    (hawaiting : progress.awaiting.isSome) :
    readFrom progress (argument :: rest)
      = step .before progress argument >>= fun next => readFrom next rest := by
  rw [readFrom, if_pos (.inr hawaiting)]

theorem head?_of_names {stage : Stage} {parameter : Parameter} {word : String}
    (h : Names stage parameter word) : word.toList.head? = some '-' := by
  cases h with
  | long => rw [String.toList_append]; rfl
  | short => rw [String.toList_ofList]; rfl

theorem head?_of_gives {stage : Stage} {parameter : Parameter} {value word : String}
    (h : Gives stage parameter value word) : word.toList.head? = some '-' := by
  cases h with
  | long => simp [String.toList_append]
  | short => rw [String.toList_ofList]; rfl
  | shortEquals => rw [String.toList_ofList]; rfl

/-- Words before the name of the command are read on their own. -/
theorem readFrom_spells {item : Item} {rest : List String} (h : Spells .before item words)
    (hopen : progress.IsOpen false) :
    readFrom progress (words ++ rest)
      = words.foldlM (step .before) progress >>= fun next => readFrom next rest := by
  cases h with
  | position hstage => exact absurd rfl hstage
  | @apart parameter word value hword hvalue =>
    rw [List.foldlM_cons, bind_assoc]
    refine (readFrom_cons hopen (head?_of_names hword)).trans ?_
    rw [step_of_names hword hopen.positionsOnly]
    cases hmeet : progress.meet (.value parameter) word none with
    | error error => rfl
    | ok next =>
      obtain ⟨settled, -, rfl⟩ := meet_none.1 hmeet
      refine (readFrom_awaited rfl).trans ?_
      simp only [List.foldlM_cons, List.foldlM_nil, bind_pure]
      rfl
  | joined hword =>
    rw [List.foldlM_cons, bind_assoc]
    refine (readFrom_cons hopen (head?_of_gives hword)).trans ?_
    simp only [List.foldlM_nil, pure_bind]
    rfl

/-- What stands before the name of the command is read before it. -/
theorem readFrom_append {rest : List String} (h : Spelled .before items words)
    (hopen : progress.IsOpen false) :
    readFrom progress (words ++ rest)
      = words.foldlM (step .before) progress >>= fun next => readFrom next rest := by
  induction h generalizing progress with
  | nil => rfl
  | @cons item items words more hitem _ ih =>
    rw [List.append_assoc, readFrom_spells hitem hopen, List.foldlM_append, bind_assoc]
    cases hwords : words.foldlM (step .before) progress with
    | error error => rfl
    | ok next => exact ih (isOpen_of_spells hitem hopen hwords)
  | dashes hstage => exact absurd rfl hstage

theorem isOpen_of_spelled {next : Progress} (h : Spelled .before items words)
    (hopen : progress.IsOpen false) (hwords : words.foldlM (step .before) progress = .ok next) :
    next.IsOpen false := by
  induction h generalizing progress with
  | nil =>
    obtain rfl := Except.ok.inj hwords
    exact hopen
  | cons hitem _ ih =>
    rw [List.foldlM_append] at hwords
    obtain ⟨middle, hmiddle, hmore⟩ := bind_eq_ok_iff.1 hwords
    exact ih (isOpen_of_spells hitem hopen hmiddle) hmore
  | dashes hstage => exact absurd rfl hstage

/-- An argument list is read as what its words say before and after the name of the command. -/
theorem read_eq_ok_iff {before inside : List Item} {front back : List String} {name : String}
    (hbefore : Spelled .before before front) (hname : CommandName.ofName? name = some command)
    (hinside : Spelled (.inside command) inside back) {general own : Given} {read : CommandName} :
    CommandLine.read (front ++ name :: back) = .ok (general, read, own)
      ↔ read = command
        ∧ (∃ filled, before.foldlM (accept .before) (.nothing, 0) = .ok (general, filled))
        ∧ (∃ filled, inside.foldlM (accept (.inside command)) (.nothing, 0) = .ok (own, filled))
        ∧ own.lacks command = false := by
  rw [← readInside_eq_ok_iff hinside, CommandLine.read, readFrom_append hbefore isOpen_start,
    bind_eq_ok_iff]
  -- At the name the reader turns to what stands inside.
  have hread : ∀ next : Progress, next.IsOpen false → readFrom next (name :: back)
      = readInside command back >>= fun own =>
        next.settle >>= fun settled => .ok (settled.given, command, own) := by
    intro next hopen
    have hhelp : name ≠ "help" := by
      rintro rfl
      exact absurd hname nofun
    rw [readFrom, if_neg hopen.takesNames, if_neg hhelp, hname]
    rfl
  simp only [← foldlM_accept_iff hbefore, state_eq_ok_iff]
  constructor
  · rintro ⟨next, hfront, hnext⟩
    rw [hread next (isOpen_of_spelled hbefore isOpen_start hfront)] at hnext
    obtain ⟨own', hown, hnext⟩ := bind_eq_ok_iff.1 hnext
    obtain ⟨settled, hsettle, hnext⟩ := bind_eq_ok_iff.1 hnext
    cases hnext
    exact ⟨rfl, ⟨settled.filled, next, hfront, settled, hsettle, rfl⟩, hown⟩
  · rintro ⟨rfl, ⟨filled, next, hfront, settled, hsettle, hstate⟩, hown⟩
    obtain ⟨rfl, -⟩ := Prod.mk.inj hstate
    refine ⟨next, hfront, ?_⟩
    rw [hread next (isOpen_of_spelled hbefore isOpen_start hfront), hown, hsettle]
    rfl

end Lists

end RubricScore.CommandLine
