import Mathlib.Data.List.Forall2
import RubricScore.CommandLine.Parameter
import RubricScore.Proofs.Except

/-!
# Values of parameters

The values that are taken for parameters are what the texts of each parameter are read as, in their
order. Texts of different parameters do not meet, so their order among each other does not count.

## Main definitions

* `Parameter.Value`, `Parameter.read`: the values of a parameter and how they are read;
* `Given.values`: the values that were taken for a parameter;
* `Given.Holds`: the values are what given texts are read as;
* `textsOf`: the texts of a parameter among texts with their parameters.

## Main results

* `Given.take_eq_ok_iff`: what it means to take one text;
* `Given.takeAll_eq_ok_iff`: what it means to take texts one after the other.
-/

namespace RubricScore.CommandLine

namespace Parameter

/-- The values of a parameter. -/
abbrev Value : Parameter → Type
  | logLevel => Verbosity
  | workers => Nat
  | source => Path
  | results => Path
  | rubric => Path
  | threshold => Binary64
  | format => OutputFormat
  | output => Path
  | extension => String
  | maxFiles => UInt64

/-- The value that a text is read as. -/
def read : (parameter : Parameter) → String → Except UsageError parameter.Value
  | logLevel => readChoice logLevel Verbosity.ofName?
  | workers => readWorkers
  | source => readPath source
  | results => readPath results
  | rubric => readPath rubric
  | threshold => readThreshold
  | format => readChoice format exactFormat?
  | output => readPath output
  | extension => .ok
  | maxFiles => readMaxFiles

/-- The text is read as the value. -/
def Reads (parameter : Parameter) (text : String) (value : parameter.Value) : Prop :=
  parameter.read text = .ok value

theorem Reads.unique {parameter : Parameter} {text : String} {value value' : parameter.Value}
    (h : parameter.Reads text value) (h' : parameter.Reads text value') : value = value' :=
  Except.ok.inj (h.symm.trans h')

end Parameter

namespace Given

variable {given given' : Given}

/-- The values that were taken for a parameter. -/
def values (given : Given) : (parameter : Parameter) → List parameter.Value
  | .logLevel => given.logLevel.toList
  | .workers => given.workers.toList
  | .source => given.source.toList
  | .results => given.results.toList
  | .rubric => given.rubric.toList
  | .threshold => given.threshold.toList
  | .format => given.format.toList
  | .output => given.output.toList
  | .extension => given.extensions
  | .maxFiles => given.maxFiles.toList

theorem eq_of_values (h : ∀ parameter, given.values parameter = given'.values parameter) :
    given = given' := by
  have htoList : ∀ {α : Type} {held held' : Option α}, held.toList = held'.toList → held = held' := by
    intro α held held' heq
    rw [← Option.head?_toList (o := held), heq, Option.head?_toList]
  obtain ⟨⟩ := given
  obtain ⟨⟩ := given'
  rw [mk.injEq]
  exact ⟨htoList (h .logLevel), htoList (h .workers), htoList (h .source), htoList (h .results),
    htoList (h .rubric), htoList (h .threshold), htoList (h .format), htoList (h .output),
    h .extension, htoList (h .maxFiles)⟩

/-- All parameters but the extensions are given once at most. -/
theorem length_values_le {parameter : Parameter} (h : parameter ≠ .extension) :
    (given.values parameter).length ≤ 1 := by
  cases parameter with
  | extension => exact absurd rfl h
  | _ => exact Option.length_toList_le

theorem values_nothing (parameter : Parameter) : nothing.values parameter = [] := by
  cases parameter <;> rfl

/-- The values that a list holds for each parameter. -/
def ofValues (values : (parameter : Parameter) → List parameter.Value) : Given where
  logLevel := (values .logLevel).head?
  workers := (values .workers).head?
  source := (values .source).head?
  results := (values .results).head?
  rubric := (values .rubric).head?
  threshold := (values .threshold).head?
  format := (values .format).head?
  output := (values .output).head?
  extensions := values .extension
  maxFiles := (values .maxFiles).head?

theorem values_ofValues {values : (parameter : Parameter) → List parameter.Value}
    (h : ∀ parameter, parameter ≠ .extension → (values parameter).length ≤ 1)
    (parameter : Parameter) : (ofValues values).values parameter = values parameter := by
  have hhead : ∀ {α : Type} {held : List α}, held.length ≤ 1 → held.head?.toList = held := by
    intro α held hlength
    match held, hlength with
    | [], _ => rfl
    | [_], _ => rfl
  cases parameter with
  | extension => rfl
  | _ => exact hhead (h _ nofun)

theorem once_eq_ok_iff {α : Type} {parameter : Parameter} {held held' : Option α}
    {value : Except UsageError α} :
    once parameter held value = .ok held'
      ↔ ∃ a, value = .ok a ∧ held'.toList = held.toList ++ [a] := by
  cases held <;> cases held' <;> simp [once]

/-- To take a text is to read it as one more value of its parameter. -/
theorem take_eq_ok_iff {parameter : Parameter} {text : String} :
    given.take parameter text = .ok given'
      ↔ ∃ value, parameter.Reads text value
        ∧ given'.values parameter = given.values parameter ++ [value]
        ∧ ∀ other, other ≠ parameter → given'.values other = given.values other := by
  cases parameter with
  | extension =>
    rw [take, pure_eq_ok, Except.ok.injEq]
    constructor
    · rintro rfl
      refine ⟨text, rfl, rfl, fun other hother => ?_⟩
      cases other <;> first | rfl | exact absurd rfl hother
    · rintro ⟨value, hread, hown, hothers⟩
      obtain rfl : text = value := Except.ok.inj hread
      refine eq_of_values fun other => ?_
      have hsame := hothers other
      cases other <;> first | exact hown.symm | exact (hsame (by decide)).symm
  | _ =>
    rw [take]
    simp only [bind_eq_ok_iff, once_eq_ok_iff, pure_eq_ok, Except.ok.injEq]
    constructor
    · rintro ⟨held, ⟨value, hread, hown⟩, rfl⟩
      refine ⟨value, hread, hown, fun other hother => ?_⟩
      cases other <;> first | rfl | exact absurd rfl hother
    · rintro ⟨value, hread, hown, hothers⟩
      refine ⟨_, ⟨value, hread, hown⟩, eq_of_values fun other => ?_⟩
      have hsame := hothers other
      cases other <;> first | rfl | exact (hsame (by decide)).symm

end Given

/-! ## Texts one after the other -/

/-- The texts of a parameter among texts with their parameters. -/
def textsOf (parameter : Parameter) (pairs : List (Parameter × String)) : List String :=
  (pairs.filter (·.1 = parameter)).map Prod.snd

section Texts

variable {parameter other : Parameter} {text : String} {pairs more : List (Parameter × String)}

@[simp]
theorem textsOf_nil : textsOf parameter [] = [] :=
  rfl

@[simp]
theorem textsOf_cons_self :
    textsOf parameter ((parameter, text) :: pairs) = text :: textsOf parameter pairs := by
  rw [textsOf, List.filter_cons_of_pos (by simp), List.map_cons]
  rfl

theorem textsOf_cons_of_ne (h : other ≠ parameter) :
    textsOf parameter ((other, text) :: pairs) = textsOf parameter pairs := by
  rw [textsOf, List.filter_cons_of_neg (by simpa using h)]
  rfl

@[simp]
theorem textsOf_append :
    textsOf parameter (pairs ++ more) = textsOf parameter pairs ++ textsOf parameter more := by
  simp [textsOf]

theorem textsOf_eq_nil (h : ∀ pair ∈ pairs, pair.1 ≠ parameter) : textsOf parameter pairs = [] := by
  rw [textsOf, List.map_eq_nil_iff, List.filter_eq_nil_iff]
  simpa using h

/-- Texts in positions have no other parameters. -/
theorem textsOf_zip_eq_nil {parameters : List Parameter} (h : parameter ∉ parameters)
    (texts : List String) : textsOf parameter (parameters.zip texts) = [] :=
  textsOf_eq_nil fun _ hpair heq => h (heq ▸ (List.of_mem_zip hpair).1)

end Texts

namespace Given

variable {given given' : Given}

/-- The values are what the texts of each parameter are read as. -/
def Holds (given : Given) (texts : Parameter → List String) : Prop :=
  ∀ parameter, List.Forall₂ parameter.Reads (texts parameter) (given.values parameter)

/-- The texts have no other values. -/
theorem Holds.unique {texts : Parameter → List String} (h : given.Holds texts)
    (h' : given'.Holds texts) : given = given' := by
  refine eq_of_values fun parameter => ?_
  have hunique : Relator.RightUnique parameter.Reads := fun _ _ _ => Parameter.Reads.unique
  exact List.right_unique_forall₂' hunique (h parameter) (h' parameter)

/-- Takes texts one after the other. -/
def takeAll (given : Given) (pairs : List (Parameter × String)) : Except UsageError Given :=
  pairs.foldlM (fun given pair => given.take pair.1 pair.2) given

theorem takeAll_cons {parameter : Parameter} {text : String} {pairs : List (Parameter × String)} :
    given.takeAll ((parameter, text) :: pairs)
      = given.take parameter text >>= fun next => next.takeAll pairs :=
  rfl

/-- A text is taken if there is room for its value. -/
theorem exists_take {parameter : Parameter} {text : String} {value : parameter.Value}
    (hread : parameter.Reads text value) {later : List parameter.Value}
    (hroom : given'.values parameter = given.values parameter ++ value :: later) :
    ∃ next, given.take parameter text = .ok next
      ∧ next.values parameter = given.values parameter ++ [value]
      ∧ ∀ other, other ≠ parameter → next.values other = given.values other := by
  -- One more value of the parameter is as many as there may be, since later there are no fewer.
  let values := Function.update given.values parameter (given.values parameter ++ [value])
  have hown : values parameter = given.values parameter ++ [value] := Function.update_self ..
  have hothers : ∀ other, other ≠ parameter → values other = given.values other :=
    fun _ hother => Function.update_of_ne hother ..
  have hlength : ∀ other, other ≠ .extension → (values other).length ≤ 1 := by
    intro other hextension
    by_cases hother : other = parameter
    · subst hother
      have hle : (given'.values other).length ≤ 1 := length_values_le hextension
      rw [hroom, List.length_append, List.length_cons] at hle
      rw [hown, List.length_append, List.length_singleton]
      omega
    · rw [hothers other hother]
      exact length_values_le hextension
  have hvalues := values_ofValues hlength
  refine ⟨ofValues values, take_eq_ok_iff.2 ⟨value, hread, ?_, ?_⟩, ?_, ?_⟩
  · rw [hvalues, hown]
  · exact fun other hother => (hvalues other).trans (hothers other hother)
  · rw [hvalues, hown]
  · exact fun other hother => (hvalues other).trans (hothers other hother)

/-- To take texts is to read the texts of each parameter as more of its values. -/
theorem takeAll_eq_ok_iff {pairs : List (Parameter × String)} :
    given.takeAll pairs = .ok given'
      ↔ ∀ parameter, ∃ more, List.Forall₂ parameter.Reads (textsOf parameter pairs) more
        ∧ given'.values parameter = given.values parameter ++ more := by
  -- By induction on the texts: each of them adds a value to its own parameter alone.
  induction pairs generalizing given with
  | nil =>
    rw [takeAll, List.foldlM_nil, pure_eq_ok, Except.ok.injEq]
    constructor
    · rintro rfl parameter
      exact ⟨[], .nil, (List.append_nil _).symm⟩
    · intro h
      refine eq_of_values fun parameter => ?_
      obtain ⟨more, hmore, hvalues⟩ := h parameter
      obtain rfl := List.forall₂_nil_left_iff.1 hmore
      rw [hvalues, List.append_nil]
  | cons pair pairs ih =>
    obtain ⟨own, text⟩ := pair
    rw [takeAll_cons, bind_eq_ok_iff]
    simp only [ih]
    constructor
    · rintro ⟨next, htake, hrest⟩ parameter
      obtain ⟨value, hread, hown, hothers⟩ := take_eq_ok_iff.1 htake
      obtain ⟨more, hmore, hvalues⟩ := hrest parameter
      by_cases hparameter : own = parameter
      · subst hparameter
        rw [hown, List.append_assoc] at hvalues
        exact ⟨value :: more, textsOf_cons_self ▸ .cons hread hmore, hvalues⟩
      · rw [hothers parameter (Ne.symm hparameter)] at hvalues
        exact ⟨more, (textsOf_cons_of_ne hparameter).symm ▸ hmore, hvalues⟩
    · intro h
      obtain ⟨more, hmore, hvalues⟩ := h own
      rw [textsOf_cons_self] at hmore
      obtain - | @⟨_, value, _, later, hread, hlater⟩ := hmore
      obtain ⟨next, htake, hown, hothers⟩ := exists_take hread hvalues
      refine ⟨next, htake, fun parameter => ?_⟩
      by_cases hparameter : own = parameter
      · subst hparameter
        exact ⟨later, hlater, by rw [hvalues, hown, List.append_assoc, List.singleton_append]⟩
      · rw [hothers parameter (Ne.symm hparameter), ← textsOf_cons_of_ne hparameter]
        exact h parameter

/-- Texts that are taken from the start are all that there is. -/
theorem takeAll_nothing_eq_ok_iff {pairs : List (Parameter × String)} :
    nothing.takeAll pairs = .ok given ↔ given.Holds fun parameter => textsOf parameter pairs := by
  rw [takeAll_eq_ok_iff]
  refine forall_congr' fun parameter => ?_
  simp only [values_nothing, List.nil_append, exists_eq_right']

end Given

end RubricScore.CommandLine
