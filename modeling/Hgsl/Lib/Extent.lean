import Mathlib.Algebra.BigOperators.Group.List.Basic
import Mathlib.Algebra.Ring.Nat
import Mathlib.Data.List.Range

set_option autoImplicit false

/-! # Extents

A long sequence of items that is kept as a list of extents, each of which stands for consecutive items. One
pass over the extents finds those that make up a window of the sequence: it skips so many items, then takes so
many, and cuts the first and the last extent to size. -/

/-- The items `start`, `start + 1`, and so on, `count` of them -/
structure Extent where
  start : Nat
  count : Nat
  deriving DecidableEq, Repr

namespace Extent

def items (e : Extent) : List Nat := List.range' e.start e.count

/-- The sequence that a list of extents stands for. -/
def sequence (es : List Extent) : List Nat := es.flatMap items

/-- Skips `skip` items and takes `need` of those behind them. -/
def window : List Extent → Nat → Nat → List Extent
  | [], _, _ => []
  | e :: es, skip, need =>
    if skip < e.count then
      let n := min (e.count - skip) need
      ⟨e.start + skip, n⟩ :: if need - n = 0 then [] else window es 0 (need - n)
    else window es (skip - e.count) need

section Window

variable {e : Extent} {es : List Extent} {skip need : Nat}

@[simp] theorem length_items (e : Extent) : e.items.length = e.count := by simp [items]

@[simp] theorem sequence_nil : sequence [] = [] := by simp [sequence]

@[simp] theorem sequence_cons (e : Extent) (es : List Extent) : sequence (e :: es) = e.items ++ sequence es := by
  simp [sequence]

theorem length_sequence (es : List Extent) : (sequence es).length = (es.map count).sum := by
  induction es with
  | nil => simp
  | cons e es ih => simp [ih]

/-- What is left of an extent behind a cut, up to a second one. -/
theorem items_cut (e : Extent) (skip n : Nat) :
    items ⟨e.start + skip, min (e.count - skip) n⟩ = (e.items.drop skip).take n := by
  rw [items, items, List.drop_range', Nat.mul_one]
  by_cases hle : e.count - skip ≤ n
  · rw [min_eq_left hle, List.take_range'_of_length_le hle]
  · have hge : n ≤ e.count - skip := by omega
    rw [min_eq_right hge, List.take_range'_of_length_ge hge]

/-- **The pass is right.** The extents that it finds stand for the items of the window, in their order. -/
theorem sequence_window (es : List Extent) (skip need : Nat) :
    sequence (window es skip need) = ((sequence es).drop skip).take need := by
  induction es generalizing skip need with
  | nil => simp [window]
  | cons e es ih =>
      by_cases hskip : skip < e.count
      · have hcut := items_cut e skip need
        have hlength : ((e.items.drop skip).length) = e.count - skip := by simp
        have hdrop : (sequence (e :: es)).drop skip = e.items.drop skip ++ sequence es := by
          rw [sequence_cons, List.drop_append_of_le_length (by simpa using hskip.le)]
        rw [hdrop, List.take_append, hlength, window, if_pos hskip]
        by_cases hdone : need - min (e.count - skip) need = 0
        · -- the extent has all that is still needed
          have hle : need - (e.count - skip) = 0 := by omega
          simp [hdone, hcut, hle]
        · have hrest : need - min (e.count - skip) need = need - (e.count - skip) := by omega
          simp [hdone, hcut, ih, ← hrest]
      · have hdrop : (sequence (e :: es)).drop skip = (sequence es).drop (skip - e.count) := by
          rw [sequence_cons, List.drop_append, List.drop_eq_nil_of_le (by simpa using hskip)]
          simp
        rw [hdrop, window, if_neg hskip, ih]

/-- No extent of a window is empty. -/
theorem count_pos_of_mem_window (hneed : 0 < need) (h : e ∈ window es skip need) : 0 < e.count := by
  induction es generalizing skip need with
  | nil => simp [window] at h
  | cons d es ih =>
      unfold window at h
      by_cases hskip : skip < d.count
      · rw [if_pos hskip, List.mem_cons] at h
        rcases h with rfl | h
        · dsimp only
          omega
        · by_cases hdone : need - min (d.count - skip) need = 0
          · simp [hdone] at h
          · rw [if_neg hdone] at h
            exact ih (Nat.pos_of_ne_zero hdone) h
      · rw [if_neg hskip] at h
        exact ih hneed h

end Window

/-! ## Items by their place -/

/-- The items whose place in the sequence is in an interval are those of a window. -/
theorem filter_zipIdx {α : Type*} (l : List α) (i lo hi : Nat) :
    ((l.zipIdx i).filter fun x => lo ≤ x.2 && x.2 < hi).map Prod.fst =
      (l.drop (lo - i)).take (hi - i - (lo - i)) := by
  induction l generalizing i with
  | nil => simp
  | cons a l ih =>
      rw [List.zipIdx_cons]
      by_cases hlo : lo ≤ i
      · have hzero : lo - i = 0 := by omega
        have hzero' : lo - (i + 1) = 0 := by omega
        by_cases hhi : i < hi
        · have hsucc : hi - i = (hi - (i + 1)) + 1 := by omega
          simp [hlo, hhi, ih, hzero, hzero', hsucc]
        · have hnone : hi - i = 0 := by omega
          have hnone' : hi - (i + 1) = 0 := by omega
          simp [hhi, ih, hnone, hnone']
      · have hsucc : lo - i = (lo - (i + 1)) + 1 := by omega
        have hcount : hi - i - (lo - i) = hi - (i + 1) - (lo - (i + 1)) := by omega
        simp [hlo, ih, hsucc]
        omega

end Extent
