import Mathlib.Logic.Function.Basic
import Mathlib.Data.List.Range
import Mathlib.Data.Nat.ModEq
import Mathlib.Tactic.Common

set_option autoImplicit false

/-! # Circular buffers

A circular buffer of `N` slots is a function `f : Nat → α` of which the indices below `N` count.
`slice N f i len` reads `len` slots from `i` on, wrapping at `N`; a queue that lives in the ring is
such a slice, so pushing, popping, putting back and overwriting are facts about slices. -/

namespace Ring

variable {α : Type*}

/-- The slot `k` places after `i`. -/
def slot (N i k : Nat) : Nat := (i + k) % N

/-- The `len` slots from `i` on, read around the ring. -/
def slice (N : Nat) (f : Nat → α) (i len : Nat) : List α :=
  (List.range len).map fun k => f (slot N i k)

/-- How many places `t` lies after `h`. -/
def used (N h t : Nat) : Nat := (t + N - h) % N

/-! ## Slots -/

theorem slot_lt {N : Nat} (hN : 0 < N) (i k : Nat) : slot N i k < N := Nat.mod_lt _ hN

theorem slot_zero {N i : Nat} (hi : i < N) : slot N i 0 = i := Nat.mod_eq_of_lt hi

theorem slot_slot (N i j k : Nat) : slot N (slot N i j) k = slot N i (j + k) := by
  simp only [slot, Nat.mod_add_mod, Nat.add_assoc]

/-- Below `N` places, different distances reach different slots. -/
theorem slot_inj {N i j k : Nat} (hj : j < N) (hk : k < N) (h : slot N i j = slot N i k) :
    j = k := by
  have hmod : Nat.ModEq N j k := Nat.ModEq.add_left_cancel' i h
  rwa [Nat.ModEq, Nat.mod_eq_of_lt hj, Nat.mod_eq_of_lt hk] at hmod

/-- A place less than once around, without the modulus. -/
theorem slot_eq {N i k : Nat} (hi : i < N) (hk : k ≤ N) :
    slot N i k = if i + k < N then i + k else i + k - N := by
  unfold slot
  split
  · next h => exact Nat.mod_eq_of_lt h
  · next h => rw [Nat.mod_eq_sub_mod (by omega), Nat.mod_eq_of_lt (by omega)]

/-- As long as the end is not reached, going on does not wrap. -/
theorem slot_add {N i lo k : Nat} (h : slot N i lo + k < N) : slot N i (lo + k) = slot N i lo + k := by
  rw [← slot_slot]
  exact Nat.mod_eq_of_lt h

theorem used_lt {N : Nat} (hN : 0 < N) (h t : Nat) : used N h t < N := Nat.mod_lt _ hN

theorem used_eq {N h t : Nat} (hh : h < N) (ht : t < N) :
    used N h t = if h ≤ t then t - h else t + N - h := by
  unfold used
  split
  · next hle => rw [Nat.mod_eq_sub_mod (by omega), Nat.mod_eq_of_lt (by omega)]; omega
  · next hlt => exact Nat.mod_eq_of_lt (by omega)

/-- The used slots end at `t`. -/
theorem slot_used {N h t : Nat} (hh : h < N) (ht : t < N) : slot N h (used N h t) = t := by
  rw [used_eq hh ht, slot_eq hh (by split <;> omega)]
  split <;> split <;> omega

theorem used_slot {N h k : Nat} (hh : h < N) (hk : k < N) : used N h (slot N h k) = k := by
  have hN : 0 < N := by omega
  have := slot_used hh (slot_lt hN h k)
  exact slot_inj (used_lt hN _ _) hk this

theorem used_eq_zero {N h t : Nat} (hh : h < N) (ht : t < N) : used N h t = 0 ↔ h = t := by
  rw [used_eq hh ht]
  split <;> omega

/-! ## Slices -/

@[simp] theorem length_slice (N : Nat) (f : Nat → α) (i len : Nat) :
    (slice N f i len).length = len := by
  simp [slice]

theorem slice_slot (N : Nat) (f : Nat → α) (i j len : Nat) :
    slice N f (slot N i j) len = slice N f (i + j) len := by
  simp only [slice, slot, Nat.mod_add_mod]

/-- A slice splits at any place. -/
theorem slice_add (N : Nat) (f : Nat → α) (i a b : Nat) :
    slice N f i (a + b) = slice N f i a ++ slice N f (slot N i a) b := by
  rw [slice_slot]
  simp only [slice, slot, List.range_add, List.map_append, List.map_map]
  congr 1
  apply List.map_congr_left
  intro k _
  simp only [Function.comp_apply, Nat.add_assoc]

theorem slice_succ (N : Nat) (f : Nat → α) (i len : Nat) :
    slice N f i (len + 1) = slice N f i len ++ [f (slot N i len)] := by
  simp [slice, List.range_succ]

theorem slice_cons {N i : Nat} (f : Nat → α) (hi : i < N) (len : Nat) :
    slice N f i (len + 1) = f i :: slice N f (slot N i 1) len := by
  rw [Nat.add_comm, slice_add]
  simp [slice, slot_zero hi]

/-- Two buffers that agree on the slots of a slice have the same slice. -/
theorem slice_congr {N : Nat} {f g : Nat → α} {i len : Nat}
    (h : ∀ k < len, f (slot N i k) = g (slot N i k)) : slice N f i len = slice N g i len := by
  apply List.map_congr_left
  intro k hk
  exact h k (List.mem_range.1 hk)

/-- Writing one slot outside a slice leaves the slice alone. -/
theorem slice_update_of_ne {N : Nat} (f : Nat → α) {i len j : Nat} (v : α)
    (h : ∀ k < len, slot N i k ≠ j) : slice N (Function.update f j v) i len = slice N f i len :=
  slice_congr fun k hk => Function.update_of_ne (h k hk) v f

/-- **Push.** Storing at the end of the slice appends, as long as the ring is not full. -/
theorem slice_push {N : Nat} (f : Nat → α) {i len : Nat} (v : α) (hlen : len < N) :
    slice N (Function.update f (slot N i len) v) i (len + 1) = slice N f i len ++ [v] := by
  rw [slice_succ, Function.update_self, slice_update_of_ne]
  intro k hk heq
  exact absurd (slot_inj (by omega) hlen heq) (by omega)

/-- **Put back.** Storing just before the slice and starting there prepends, as long as the ring is
    not full. -/
theorem slice_unpop {N : Nat} (f : Nat → α) {i j len : Nat} (v : α) (hj : j < N)
    (hi : slot N j 1 = i) (hlen : len < N) :
    slice N (Function.update f j v) j (len + 1) = v :: slice N f i len := by
  rw [slice_cons _ hj, Function.update_self, hi, slice_update_of_ne]
  intro k hk heq
  have hround : slot N j (1 + k) = slot N j 0 := by
    rw [← slot_slot, hi, heq, slot_zero hj]
  rcases Nat.lt_or_ge (1 + k) N with hlt | hge
  · exact absurd (slot_inj hlt (by omega) hround) (by omega)
  · omega

end Ring
