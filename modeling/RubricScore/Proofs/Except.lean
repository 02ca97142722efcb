/-!
# Computations that may fail

When a computation that is put together from others ends well: every part of it has ended well, and
no condition for a failure held. When it ends in an error: a part of it has, and all parts before
that one have ended well.
-/

namespace RubricScore

variable {α β ε : Type}

@[simp]
theorem throw_eq_error (error : ε) : (throw error : Except ε α) = .error error :=
  rfl

@[simp]
theorem pure_eq_ok (a : α) : (pure a : Except ε α) = .ok a :=
  rfl

@[simp]
theorem error_bind (error : ε) (next : α → Except ε β) :
    (.error error : Except ε α) >>= next = .error error :=
  rfl

theorem isOk_iff {x : Except ε α} : x.isOk ↔ ∃ a, x = .ok a := by
  cases x <;> simp [Except.isOk, Except.toBool]

theorem bind_eq_ok_iff {x : Except ε α} {next : α → Except ε β} {b : β} :
    x >>= next = .ok b ↔ ∃ a, x = .ok a ∧ next a = .ok b := by
  cases x <;> simp [bind, Except.bind]

/-- A check that goes before ends well itself. -/
theorem check_bind_eq_ok_iff {x : Except ε Unit} {next : Unit → Except ε β} {b : β} :
    x >>= next = .ok b ↔ x = .ok () ∧ next () = .ok b := by
  rw [bind_eq_ok_iff]
  exact ⟨fun ⟨_, h⟩ => h, fun h => ⟨(), h⟩⟩

/-- The error is that of the check that goes before, or the check has ended well. -/
theorem check_bind_eq_error_iff {x : Except ε Unit} {next : Unit → Except ε β} {error : ε} :
    x >>= next = .error error ↔ x = .error error ∨ x = .ok () ∧ next () = .error error := by
  cases x <;> simp [bind, Except.bind]

@[simp]
theorem ite_error_eq_ok_iff {p : Prop} [Decidable p] {error : ε} {x : Except ε α} {a : α} :
    (if p then .error error else x) = .ok a ↔ ¬p ∧ x = .ok a := by
  split <;> simp [*]

theorem ite_error_eq_error_iff {p : Prop} [Decidable p] {error other : ε} {x : Except ε α} :
    (if p then .error error else x) = .error other ↔ p ∧ error = other ∨ ¬p ∧ x = .error other := by
  split <;> simp [*]

@[simp]
theorem mapError_eq_ok_iff {ε' : Type} {f : ε → ε'} {x : Except ε α} {a : α} :
    x.mapError f = .ok a ↔ x = .ok a := by
  cases x with
  | error => exact ⟨nofun, nofun⟩
  | ok b =>
    show (.ok b : Except ε' α) = .ok a ↔ _
    rw [Except.ok.injEq, Except.ok.injEq]

@[simp]
theorem map_eq_ok_iff {f : α → β} {x : Except ε α} {b : β} :
    x.map f = .ok b ↔ ∃ a, x = .ok a ∧ f a = b := by
  cases x <;> simp [Except.map]

/-- A loop ends well just when it ends well at every element. -/
theorem forM_eq_ok_iff {f : α → Except ε Unit} {xs : List α} :
    xs.forM f = .ok () ↔ ∀ x ∈ xs, f x = .ok () := by
  induction xs with
  | nil => simp
  | cons head rest ih =>
    show f head >>= (fun _ => rest.forM f) = .ok () ↔ _
    rw [check_bind_eq_ok_iff, List.forall_mem_cons, ← ih]

/-- A loop over computations that fail by themselves or give a value fails with the first error. -/
theorem mapM_eq_elim {f : α → Except ε β} {fault : α → Option ε} {value : α → β}
    (h : ∀ a, f a = (fault a).elim (.ok (value a)) .error) (xs : List α) :
    xs.mapM f = (xs.findSome? fault).elim (.ok (xs.map value)) .error := by
  induction xs with
  | nil => rfl
  | cons x rest ih =>
    rw [List.mapM_cons, h x, List.findSome?_cons, ih]
    cases fault x with
    | some error => rfl
    | none =>
      cases rest.findSome? fault with
      | some error => rfl
      | none => rfl

/-- An element of a list that begins with `head` is this one or one of the others. -/
theorem exists_split_cons_iff {head : α} {rest : List α} {p : List α → α → Prop} :
    (∃ earlier x later, head :: rest = earlier ++ x :: later ∧ p earlier x) ↔
      p [] head ∨ ∃ earlier x later, rest = earlier ++ x :: later ∧ p (head :: earlier) x := by
  constructor
  · rintro ⟨earlier, x, later, hsplit, hx⟩
    cases earlier with
    | nil =>
      obtain ⟨rfl, rfl⟩ := List.cons.inj hsplit
      exact .inl hx
    | cons first earlier =>
      obtain ⟨rfl, rfl⟩ := List.cons.inj hsplit
      exact .inr ⟨earlier, x, later, rfl, hx⟩
  · rintro (hhead | ⟨earlier, x, later, rfl, hx⟩)
    · exact ⟨[], head, rest, rfl, hhead⟩
    · exact ⟨head :: earlier, x, later, rfl, hx⟩

/-- A loop ends in the error of the first element at which it does not end well. -/
theorem forM_eq_error_iff {f : α → Except ε Unit} {xs : List α} {error : ε} :
    xs.forM f = .error error ↔
      ∃ earlier x later, xs = earlier ++ x :: later
        ∧ ((∀ y ∈ earlier, f y = .ok ()) ∧ f x = .error error) := by
  induction xs with
  | nil => simp
  | cons head rest ih =>
    show f head >>= (fun _ => rest.forM f) = .error error ↔ _
    rw [check_bind_eq_error_iff, ih, exists_split_cons_iff]
    simp only [List.forall_mem_cons, List.not_mem_nil, false_imp_iff, implies_true, true_and]
    refine or_congr_right ⟨?_, ?_⟩
    · rintro ⟨hhead, earlier, x, later, hsplit, hearlier, hx⟩
      exact ⟨earlier, x, later, hsplit, ⟨hhead, hearlier⟩, hx⟩
    · rintro ⟨earlier, x, later, hsplit, ⟨hhead, hearlier⟩, hx⟩
      exact ⟨hhead, earlier, x, later, hsplit, hearlier, hx⟩

end RubricScore
