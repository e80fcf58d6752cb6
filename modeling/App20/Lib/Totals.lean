import Mathlib.Algebra.Order.BigOperators.Group.Finset

/-!
# Totals over a map

A storage map is a function from a finite key type. `total g m` adds up what `g` reads off
each entry, and `total_update` says how one write changes it: both sides are natural numbers,
so the old contribution stands on the left instead of being subtracted on the right.
-/

namespace App20.Lib

variable {K V : Type} [Fintype K] [DecidableEq K]

/-- The sum of `g` over all entries of the map. -/
def total (g : V → Nat) (m : K → V) : Nat := ∑ k, g (m k)

theorem total_update (g : V → Nat) (m : K → V) (k : K) (v : V) :
    total g (Function.update m k v) + g (m k) = total g m + g v := by
  have hrest : ∑ i ∈ Finset.univ.erase k, g (Function.update m k v i) =
      ∑ i ∈ Finset.univ.erase k, g (m i) := by
    apply Finset.sum_congr rfl
    intro i hi
    rw [Function.update_of_ne (Finset.ne_of_mem_erase hi)]
  unfold total
  rw [← Finset.add_sum_erase _ _ (Finset.mem_univ k),
    ← Finset.add_sum_erase _ (fun i => g (m i)) (Finset.mem_univ k), hrest, Function.update_self]
  omega

omit [DecidableEq K] in
theorem le_total (g : V → Nat) (m : K → V) (k : K) : g (m k) ≤ total g m :=
  Finset.single_le_sum (f := fun i => g (m i)) (fun _ _ => Nat.zero_le _) (Finset.mem_univ k)

omit [DecidableEq K] in
theorem total_eq_zero {g : V → Nat} {m : K → V} (h : ∀ k, g (m k) = 0) : total g m = 0 :=
  Finset.sum_eq_zero fun k _ => h k

end App20.Lib
