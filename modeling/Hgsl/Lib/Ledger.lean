import Mathlib.Algebra.BigOperators.Group.Finset.Basic
import Mathlib.Algebra.BigOperators.Group.List.Basic
import Mathlib.Algebra.BigOperators.Group.Finset.Sigma
import Mathlib.Algebra.BigOperators.Group.Finset.Piecewise

set_option autoImplicit false

/-! # Totals of numbered items

Items have numbers below a bound, a weight and an owner. A total that is kept up to date is the sum of the
weights; it changes as the weight of one item does, and the totals of the owners add up to the whole. -/

namespace Ledger

open Finset

variable {M : Type*} [AddCommMonoid M] {N : Nat} {f g : Nat → M}

/-- The weight of one item changes by `δ`. -/
theorem sum_change {n : Nat} {δ : M} (hn : n < N) (hother : ∀ m, m ≠ n → g m = f m) (hself : g n = f n + δ) :
    ∑ m ∈ range N, g m = ∑ m ∈ range N, f m + δ := by
  rw [← add_sum_erase _ g (mem_range.2 hn), ← add_sum_erase _ f (mem_range.2 hn), hself]
  have hrest : ∑ m ∈ (range N).erase n, g m = ∑ m ∈ (range N).erase n, f m :=
    sum_congr rfl fun m hm => hother m (ne_of_mem_erase hm)
  rw [hrest, add_right_comm]

/-- A list of the items that meet `P`, each once, has their total. -/
theorem sum_list {P : Nat → Prop} [DecidablePred P] {l : List Nat} (hnodup : l.Nodup) (hl : ∀ n, n ∈ l ↔ P n)
    (hlt : ∀ n ∈ l, n < N) (f : Nat → M) : (l.map f).sum = ∑ n ∈ range N, if P n then f n else 0 := by
  rw [← List.sum_toFinset f hnodup, ← sum_filter]
  refine sum_congr ?_ fun _ _ => rfl
  ext n
  rw [List.mem_toFinset, mem_filter, mem_range]
  exact ⟨fun hn => ⟨hlt n hn, (hl n).1 hn⟩, fun hn => (hl n).2 hn.2⟩

/-- The totals of all owners are the total of all items. -/
theorem sum_owners {owner : Nat → Nat} {P : Nat} (h : ∀ n, n < N → owner n < P) (f : Nat → M) :
    ∑ p ∈ range P, ∑ n ∈ range N, (if owner n = p then f n else 0) = ∑ n ∈ range N, f n := by
  rw [sum_comm]
  refine sum_congr rfl ?_
  intro n hn
  rw [sum_ite_eq, if_pos (mem_range.2 (h n (mem_range.1 hn)))]

end Ledger
