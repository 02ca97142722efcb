import Mathlib.Data.List.Nodup
import RubricScore.Path

/-!
# The order of paths

Paths are sorted by their components. The order is total, and two paths that do not stand after each
other have the same components, so paths with different components can be sorted in one way only.

## Main results

* `Path.precedes_total`, `Path.precedes_trans`: any two paths can be compared, and comparing is
  transitive;
* `Path.key_eq_iff`: the order tells paths with different components apart;
* `Path.mergeSort_eq_of_perm`: sorting forgets the order in which distinct paths came.
-/

namespace RubricScore

theorem PathComponent.key_injective : Function.Injective PathComponent.key := by
  rintro (_ | _ | _ | a) (_ | _ | _ | b) h
  case name.name =>
    have htext : a.toList.map Char.toNat = b.toList.map Char.toNat := (List.cons.inj h).2
    have hlist := List.map_injective_iff.2 (fun _ _ => Char.toNat_inj.1) htext
    rw [String.toList_inj.1 hlist]
  -- Components of other kinds differ at the front of their keys.
  all_goals first | rfl | simp [key] at h

namespace Path

/-- Two paths have the same place in the order just when they have the same components. -/
theorem key_eq_iff {a b : Path} : a.key = b.key ↔ a.components = b.components :=
  (List.map_injective_iff.2 PathComponent.key_injective).eq_iff

theorem precedes_total (a b : Path) : a.precedes b || b.precedes a := by
  simp only [precedes, Bool.or_eq_true, decide_eq_true_eq, List.not_lt]
  exact List.le_total a.key b.key

theorem precedes_trans {a b c : Path} (hab : a.precedes b) (hbc : b.precedes c) :
    a.precedes c := by
  simp only [precedes, decide_eq_true_eq, List.not_lt] at hab hbc ⊢
  exact List.le_trans hab hbc

theorem key_eq_of_precedes {a b : Path} (hab : a.precedes b) (hba : b.precedes a) :
    a.key = b.key := by
  simp only [precedes, decide_eq_true_eq, List.not_lt] at hab hba
  exact List.le_antisymm hab hba

/-- The paths in any order, once they are sorted. -/
theorem mergeSort_eq_of_perm {a b : List Path} (h : a.Perm b)
    (hdistinct : (a.map key).Nodup) :
    a.mergeSort precedes = b.mergeSort precedes := by
  have hsorted : ∀ paths : List Path, (paths.mergeSort precedes).Pairwise fun p q => p.precedes q :=
    List.pairwise_mergeSort (fun _ _ _ => precedes_trans) precedes_total
  have hperm : (a.mergeSort precedes).Perm (b.mergeSort precedes) :=
    (List.mergeSort_perm a precedes).trans (h.trans (List.mergeSort_perm b precedes).symm)
  refine List.Perm.eq_of_pairwise (fun p q hp hq hpq hqp => ?_) (hsorted a) (hsorted b) hperm
  -- Both paths come from `a`, where different entries have different components.
  have hp : p ∈ a := (List.mergeSort_perm a precedes).mem_iff.1 hp
  have hq : q ∈ a := (h.trans (List.mergeSort_perm b precedes).symm).mem_iff.2 hq
  exact List.inj_on_of_nodup_map hdistinct hp hq (key_eq_of_precedes hpq hqp)

end Path

end RubricScore
