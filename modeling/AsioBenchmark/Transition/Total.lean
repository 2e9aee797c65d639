import Mathlib.Algebra.BigOperators.Group.Finset.Basic
import Mathlib.Algebra.GroupWithZero.Nat
import Mathlib.Algebra.Order.BigOperators.Group.Finset
import Mathlib.Data.Fintype.Basic

/-!
# Totals over the components of a state

A system of finitely many components changes one of them at a time.  What is
counted over all of them then changes by what it changes at that one.
-/

namespace AsioBenchmark.Transition

universe u

variable {size : Nat} {Component : Type u}

def total (weight : Component → Nat)
    (components : Fin size → Component) : Nat :=
  ∑ index, weight (components index)

theorem total_update (weight : Component → Nat)
    (components : Fin size → Component) (index : Fin size)
    (component : Component) :
    total weight (Function.update components index component) +
        weight (components index) =
      total weight components + weight component := by
  have before := Finset.add_sum_erase Finset.univ
    (fun other => weight (components other)) (Finset.mem_univ index)
  have after := Finset.add_sum_erase Finset.univ
    (fun other => weight (Function.update components index component other))
    (Finset.mem_univ index)
  have others : ∑ other ∈ Finset.univ.erase index,
      weight (Function.update components index component other) =
        ∑ other ∈ Finset.univ.erase index, weight (components other) := by
    apply Finset.sum_congr rfl
    intro other member
    rw [Function.update_of_ne (Finset.ne_of_mem_erase member)]
  simp only [Function.update_self] at after
  unfold total
  omega

theorem total_congr {first second : Component → Nat}
    {components others : Fin size → Component}
    (same : ∀ index, first (components index) = second (others index)) :
    total first components = total second others :=
  Finset.sum_congr rfl fun index _ => same index

theorem total_mono {first second : Component → Nat}
    {components : Fin size → Component}
    (le : ∀ index, first (components index) ≤ second (components index)) :
    total first components ≤ total second components :=
  Finset.sum_le_sum fun index _ => le index

theorem total_eq_zero_iff {weight : Component → Nat}
    {components : Fin size → Component} :
    total weight components = 0 ↔ ∀ index, weight (components index) = 0 := by
  simp [total]

theorem le_total (weight : Component → Nat)
    (components : Fin size → Component) (index : Fin size) :
    weight (components index) ≤ total weight components :=
  Finset.single_le_sum (f := fun other => weight (components other))
    (fun _ _ => Nat.zero_le _) (Finset.mem_univ index)

theorem total_eq_iff_of_zero {weight : Component → Nat}
    {components : Fin size → Component} {index : Fin size}
    (others : ∀ other, other ≠ index → weight (components other) = 0) :
    total weight components = weight (components index) :=
  Finset.sum_eq_single index (fun other _ different => others other different)
    fun absent => absurd (Finset.mem_univ index) absent

end AsioBenchmark.Transition
