import RubricScore.Proofs.Path.Order
import RubricScore.Proofs.Text.ByteOrder

/-!
# Spellings of a path

A path is what its components are. They are compared one by one, the first difference deciding: the
root comes first, then a dot at the front, then two dots, then names in the order of their bytes. How
often a slash is written does not count, nor does one at the end, nor a dot between slashes.

## Main definitions

* `PathComponent.Before`: the order of components;
* `Path.Before`: the order of paths, component by component.

## Main results

* `Path.key_lt_iff`: paths are sorted in this order;
* `Path.before_trichotomy`, `Path.Before.trans`, `Path.Before.ne`: it is a strict total order of what
  the components tell apart;
* `Path.components_doubled`, `Path.components_dotted`, `Path.components_trailing`: spellings with the
  same components.
-/

namespace RubricScore

namespace PathComponent

/-- Kind of a component, in the order of the kinds. -/
def kind : PathComponent → Nat
  | .root => 0
  | .current => 1
  | .parent => 2
  | .name _ => 3

/-- A component comes before another one: by its kind, or as the lesser of two names by its bytes. -/
inductive Before : PathComponent → PathComponent → Prop
  /-- Components of different kinds. -/
  | kinds {a b : PathComponent} : a.kind < b.kind → Before a b
  /-- Two names. -/
  | names {a b : String} : Text.Utf8.encode a.toList < Text.Utf8.encode b.toList →
    Before (.name a) (.name b)

/-- The characters of a name; other components have none. -/
def letters : PathComponent → List Nat
  | .name text => text.toList.map Char.toNat
  | _ => []

theorem key_eq (component : PathComponent) : component.key = component.kind :: component.letters := by
  cases component <;> rfl

theorem key_lt_iff {a b : PathComponent} : a.key < b.key ↔ a.Before b := by
  rw [key_eq, key_eq, List.cons_lt_cons_iff]
  constructor
  · rintro (hkinds | ⟨hkinds, hletters⟩)
    · exact .kinds hkinds
    · -- Only a name has letters, so both components are names.
      cases a <;> cases b
      case name.name => exact .names (Text.Utf8.encode_lt_encode_iff.2 hletters)
      all_goals first
        | exact absurd hletters (List.not_lt_nil _)
        | exact absurd hkinds nofun
  · rintro (hkinds | hnames)
    · exact .inl hkinds
    · exact .inr ⟨rfl, Text.Utf8.encode_lt_encode_iff.1 hnames⟩

end PathComponent

namespace Path

/-- A path stands before another one: where their components first differ it has the lesser one, or
it ends there. -/
def Before (a b : Path) : Prop :=
  List.Lex PathComponent.Before a.components b.components

/-- Paths are sorted by their components. -/
theorem key_lt_iff {a b : Path} : a.key < b.key ↔ a.Before b := by
  unfold key Before
  generalize a.components = l
  generalize b.components = m
  induction l generalizing m with
  | nil =>
    cases m with
    | nil => exact ⟨nofun, nofun⟩
    | cons d m => exact ⟨fun _ => .nil, fun _ => List.nil_lt_cons _ _⟩
  | cons c l ih =>
    cases m with
    | nil => exact ⟨nofun, nofun⟩
    | cons d m =>
      rw [List.map_cons, List.map_cons, List.cons_lt_cons_iff, PathComponent.key_lt_iff, ih]
      constructor
      · rintro (hlt | ⟨heq, hrest⟩)
        · exact .rel hlt
        · rw [PathComponent.key_injective heq]
          exact .cons hrest
      · rintro (- | hlt | hrest)
        · exact .inl hlt
        · exact .inr ⟨rfl, hrest⟩

/-- A path does not stand after those that it is not behind. -/
theorem precedes_iff {a b : Path} : a.precedes b ↔ ¬b.Before a := by
  rw [precedes, decide_eq_true_eq, key_lt_iff]

/-! ## A strict total order -/

theorem before_trichotomy (a b : Path) :
    a.Before b ∨ a.components = b.components ∨ b.Before a := by
  rw [← key_lt_iff, ← key_lt_iff, ← key_eq_iff]
  by_cases h : a.key < b.key
  · exact .inl h
  · exact .inr ((List.le_iff_lt_or_eq.1 (List.not_lt.1 h)).symm.imp_left Eq.symm)

theorem Before.trans {a b c : Path} (hab : a.Before b) (hbc : b.Before c) : a.Before c :=
  key_lt_iff.1 (List.lt_trans (key_lt_iff.2 hab) (key_lt_iff.2 hbc))

theorem Before.ne {a b : Path} (h : a.Before b) : a.components ≠ b.components := fun heq =>
  List.lt_irrefl _ (key_eq_iff.2 heq ▸ key_lt_iff.2 h)

/-! ## Spellings with the same components -/

theorem splitOn_append_cons (front rest : List Char) :
    (front ++ '/' :: rest).splitOn '/' = front.splitOn '/' ++ rest.splitOn '/' :=
  List.splitOnP_append_cons front rest rfl

/-- A slash divides the parts. -/
theorem parts_slash (front rest : String) :
    parts ⟨front ++ "/" ++ rest⟩ = parts ⟨front⟩ ++ parts ⟨rest⟩ := by
  have htext : (front ++ "/" ++ rest).toList = front.toList ++ '/' :: rest.toList := by
    rw [String.append_assoc, String.toList_append, String.toList_append]
    rfl
  rw [parts, htext]
  exact splitOn_append_cons _ _

/-- What stands behind a slash does not count for the front. -/
theorem front_slash (front rest other : String) :
    Path.front ⟨front ++ "/" ++ rest⟩ = Path.front ⟨front ++ "/" ++ other⟩ := by
  have habsolute : ∀ rest : String, isAbsolute ⟨front ++ "/" ++ rest⟩
      = ((front.toList ++ ['/']).head? == some '/') := by
    intro rest
    rw [isAbsolute, String.toList_append, String.toList_append, List.head?_append_of_ne_nil]
    · rfl
    · exact List.append_ne_nil_of_right_ne_nil _ (List.cons_ne_nil _ _)
  have hhead : ∀ rest : String, (parts ⟨front ++ "/" ++ rest⟩).head? = (parts ⟨front⟩).head? := by
    intro rest
    rw [parts_slash, List.head?_append_of_ne_nil]
    exact List.splitOn_ne_nil _ _
  rw [Path.front, Path.front, habsolute, habsolute, hhead, hhead]

/-- What stands between two slashes does not count if its parts are no components. -/
theorem components_between {front between : String} (rest : String)
    (h : (parts ⟨between⟩).filterMap PathComponent.ofPart? = []) :
    components ⟨front ++ "/" ++ (between ++ "/" ++ rest)⟩ = components ⟨front ++ "/" ++ rest⟩ := by
  rw [components, components, front_slash front _ rest, parts_slash, parts_slash, parts_slash,
    List.filterMap_append, List.filterMap_append, List.filterMap_append, h, List.nil_append]

/-- A slash may be written twice. -/
theorem components_doubled (front rest : String) :
    components ⟨front ++ "//" ++ rest⟩ = components ⟨front ++ "/" ++ rest⟩ := by
  have htext : front ++ "//" ++ rest = front ++ "/" ++ ("" ++ "/" ++ rest) :=
    String.toList_injective (by simp)
  rw [htext]
  exact components_between rest (by decide)

/-- A dot may be written between slashes. -/
theorem components_dotted (front rest : String) :
    components ⟨front ++ "/./" ++ rest⟩ = components ⟨front ++ "/" ++ rest⟩ := by
  have htext : front ++ "/./" ++ rest = front ++ "/" ++ ("." ++ "/" ++ rest) :=
    String.toList_injective (by simp)
  rw [htext]
  exact components_between rest (by decide)

/-- A slash may be written at the end of a path. -/
theorem components_trailing {front : String} (h : front ≠ "") :
    components ⟨front ++ "/"⟩ = components ⟨front⟩ := by
  have hparts : parts ⟨front ++ "/"⟩ = parts ⟨front⟩ ++ [[]] := by
    have hslash := parts_slash front ""
    rwa [String.append_empty] at hslash
  have habsolute : isAbsolute ⟨front ++ "/"⟩ = isAbsolute ⟨front⟩ := by
    rw [isAbsolute, isAbsolute, String.toList_append, List.head?_append_of_ne_nil]
    exact fun hnil => h (String.toList_injective hnil)
  have hhead : (parts ⟨front ++ "/"⟩).head? = (parts ⟨front⟩).head? := by
    rw [hparts, List.head?_append_of_ne_nil]
    exact List.splitOn_ne_nil _ _
  rw [components, components, Path.front, Path.front, habsolute, hhead, hparts,
    List.filterMap_append]
  exact congrArg _ (List.append_nil _)

end Path

end RubricScore
