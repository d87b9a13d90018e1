import Hgsl.Lib.Align
import Mathlib.Order.Interval.Set.Disjoint
import Mathlib.Order.Bounds.Basic
import Mathlib.Order.CompletePartialOrder

set_option autoImplicit false

/-! # First fit

The lowest aligned place for a range among the gaps of a list of intervals, found in one pass over the
list. -/

namespace FirstFit

open Align

/-! ## The search -/

/-- The intervals are not empty, and each ends before the next one begins. -/
structure Chain (es : List (Nat × Nat)) : Prop where
  nonempty : ∀ e ∈ es, e.1 < e.2
  ordered : es.Pairwise fun e f => e.2 ≤ f.1

/-- The places where a range can be put. -/
def Free (bottom top size align : Nat) (es : List (Nat × Nat)) : Set Nat :=
  {a | align ∣ a ∧ bottom ≤ a ∧ a + size ≤ top ∧ ∀ e ∈ es, Disjoint (Set.Ico a (a + size)) (Set.Ico e.1 e.2)}

/-- `r` is the least element of `s`, if there is one. -/
def IsFirst (s : Set Nat) : Option Nat → Prop
  | some a => IsLeast s a
  | none => s = ∅

/-- The range behind all intervals, if it ends in time. -/
def finish (top size start : Nat) : Option Nat := if start + size ≤ top then some start else none

/-- The pass over the intervals: `start` is where the range would begin if the next gap were large enough. -/
def search (bottom top size align : Nat) : List (Nat × Nat) → Nat → Option Nat
  | [], start => finish top size start
  | e :: es, start =>
    if e.1 < bottom then search bottom top size align es (if bottom < e.2 then alignUp e.2 align else start)
    else if top ≤ e.1 then finish top size start
    else if start < e.1 ∧ size ≤ e.1 - start then some start
    else if top ≤ e.2 then none
    else search bottom top size align es (alignUp e.2 align)

/-- The first fit in `[bottom, top)`. -/
def firstFit (bottom top size align : Nat) (es : List (Nat × Nat)) : Option Nat :=
  search (alignUp bottom align) top size align es (alignUp bottom align)

variable {bottom top size align a x lo hi : Nat} {e : Nat × Nat} {es : List (Nat × Nat)} {s t : Set Nat}
  {r : Option Nat}

theorem disjoint_iff (hsize : 0 < size) (hne : lo < hi) :
    Disjoint (Set.Ico a (a + size)) (Set.Ico lo hi) ↔ a + size ≤ lo ∨ hi ≤ a := by
  rw [Set.Ico_disjoint_Ico]
  omega

theorem Chain.tail (h : Chain (e :: es)) : Chain es :=
  { nonempty := fun f hf => h.nonempty f (List.mem_cons_of_mem _ hf)
    ordered := h.ordered.of_cons }

theorem Chain.le_of_mem {f : Nat × Nat} (h : Chain (e :: es)) (hf : f ∈ es) : e.2 ≤ f.1 :=
  (List.pairwise_cons.1 h.ordered).1 f hf

theorem IsFirst.congr (h : IsFirst s r) (hst : s = t) : IsFirst t r := hst ▸ h

theorem isFirst_some_iff (h : IsFirst s r) : r = some a ↔ IsLeast s a := by
  cases r with
  | none =>
      obtain rfl : s = ∅ := h
      simp [IsLeast]
  | some b =>
      have hb : IsLeast s b := h
      rw [Option.some.injEq]
      constructor
      · rintro rfl
        exact hb
      · exact hb.unique

theorem isFirst_finish (halign : 0 < align) (hbottom : bottom ≤ x)
    (hbehind : ∀ a, x ≤ a → a + size ≤ top → ∀ e ∈ es, Disjoint (Set.Ico a (a + size)) (Set.Ico e.1 e.2)) :
    IsFirst {a ∈ Free bottom top size align es | x ≤ a} (finish top size (alignUp x align)) := by
  have hx := le_alignUp (x := x) halign
  unfold finish
  split_ifs with hfits
  · refine ⟨⟨⟨dvd_alignUp, hbottom.trans hx, hfits, hbehind _ hx hfits⟩, hx⟩, ?_⟩
    rintro a ⟨⟨hdvd, -, -, -⟩, hle⟩
    exact (alignUp_le_iff halign hdvd).2 hle
  · rw [IsFirst, Set.eq_empty_iff_forall_notMem]
    rintro a ⟨⟨hdvd, -, hend, -⟩, hle⟩
    have hleast := (alignUp_le_iff halign hdvd).2 hle
    omega

/-- What the pass finds from `x` on, where no interval that is left reaches below `x` and into the region. -/
theorem search_isFirst (bottom top : Nat) (halign : 0 < align) (hsize : 0 < size) (hchain : Chain es)
    (hx : ∀ e ∈ es, x ≤ max e.1 bottom) (hbottom : bottom ≤ x) :
    IsFirst {a ∈ Free bottom top size align es | x ≤ a} (search bottom top size align es (alignUp x align)) := by
  induction es generalizing x with
  | nil => exact isFirst_finish halign hbottom (by simp)
  | cons e es ih =>
      have hne := hchain.nonempty e (by simp)
      have hrest : ∀ f ∈ es, e.2 ≤ f.1 ∧ f.1 < f.2 :=
        fun f hf => ⟨hchain.le_of_mem hf, hchain.nonempty f (by simp [hf])⟩
      -- the places that begin behind the first interval are those of the others
      have hskip : ∀ y, (∀ a, y ≤ a → e.2 ≤ a) →
          (∀ a, a ∈ Free bottom top size align (e :: es) → x ≤ a → y ≤ a) → x ≤ y →
          {a ∈ Free bottom top size align es | y ≤ a} = {a ∈ Free bottom top size align (e :: es) | x ≤ a} := by
        intro y hbehind hreach hxy
        ext a
        constructor
        · rintro ⟨⟨hdvd, hlow, hend, hdisjoint⟩, hle⟩
          refine ⟨⟨hdvd, hlow, hend, ?_⟩, hxy.trans hle⟩
          intro f hf
          rcases List.mem_cons.1 hf with rfl | hf
          · exact (disjoint_iff hsize hne).2 (.inr (hbehind a hle))
          · exact hdisjoint f hf
        · rintro ⟨hfree, hle⟩
          have hle' := hreach a hfree hle
          obtain ⟨hdvd, hlow, hend, hdisjoint⟩ := hfree
          exact ⟨⟨hdvd, hlow, hend, fun f hf => hdisjoint f (by simp [hf])⟩, hle'⟩
      have hxe := hx e (by simp)
      have hx' := le_alignUp (x := x) halign
      rw [search]
      split_ifs with hbelow hstraddle htop hgap hover
      · -- the interval reaches into the region
        refine (ih hchain.tail (fun f hf => ?_) hstraddle.le).congr (hskip e.2 (fun _ h => h) ?_ (by omega))
        · exact le_max_of_le_left (hrest f hf).1
        · rintro a ⟨-, hlow, -, hdisjoint⟩ -
          rcases (disjoint_iff hsize hne).1 (hdisjoint e (by simp)) with hend | hstart
          · omega
          · exact hstart
      · refine (ih hchain.tail (fun f hf => ?_) hbottom).congr
          (hskip x (fun a h => by omega) (fun _ _ h => h) le_rfl)
        exact hx f (by simp [hf])
      · -- all intervals that are left lie above the region
        refine isFirst_finish halign hbottom ?_
        intro a _ hend f hf
        rcases List.mem_cons.1 hf with rfl | hf
        · exact (disjoint_iff hsize hne).2 (.inl (by omega))
        · exact (disjoint_iff hsize (hrest f hf).2).2 (.inl (by have := hrest f hf; omega))
      · -- the gap before the interval is large enough
        refine ⟨⟨⟨dvd_alignUp, hbottom.trans hx', by omega, ?_⟩, hx'⟩, ?_⟩
        · intro f hf
          rcases List.mem_cons.1 hf with rfl | hf
          · exact (disjoint_iff hsize hne).2 (.inl (by omega))
          · exact (disjoint_iff hsize (hrest f hf).2).2 (.inl (by have := hrest f hf; omega))
        · rintro a ⟨⟨hdvd, -, -, -⟩, hle⟩
          exact (alignUp_le_iff halign hdvd).2 hle
      · -- the gap is too small, and the interval reaches the top
        rw [IsFirst, Set.eq_empty_iff_forall_notMem]
        rintro a ⟨⟨hdvd, -, hend, hdisjoint⟩, hle⟩
        have hleast := (alignUp_le_iff halign hdvd).2 hle
        rcases (disjoint_iff hsize hne).1 (hdisjoint e (by simp)) with hbefore | hbehind
        · omega
        · omega
      · refine (ih hchain.tail (fun f hf => ?_) (by omega)).congr (hskip e.2 (fun _ h => h) ?_ (by omega))
        · exact le_max_of_le_left (hrest f hf).1
        · rintro a ⟨hdvd, -, -, hdisjoint⟩ hle
          have hleast := (alignUp_le_iff halign hdvd).2 hle
          rcases (disjoint_iff hsize hne).1 (hdisjoint e (by simp)) with hbefore | hbehind
          · omega
          · exact hbehind

/-- The first fit is the lowest place where the range can be put, and fails exactly if there is none. -/
theorem firstFit_isFirst (bottom top : Nat) (halign : 0 < align) (hsize : 0 < size) (hchain : Chain es) :
    IsFirst (Free bottom top size align es) (firstFit bottom top size align es) := by
  have h := search_isFirst (alignUp bottom align) top (x := alignUp bottom align) halign hsize
    hchain (fun e _ => le_max_right _ _) le_rfl
  rw [alignUp_of_dvd halign dvd_alignUp] at h
  refine h.congr ?_
  ext a
  constructor
  · rintro ⟨⟨hdvd, hlow, hend, hdisjoint⟩, -⟩
    exact ⟨hdvd, (le_alignUp halign).trans hlow, hend, hdisjoint⟩
  · rintro ⟨hdvd, hlow, hend, hdisjoint⟩
    have hlow' := (alignUp_le_iff halign hdvd).2 hlow
    exact ⟨⟨hdvd, hlow', hend, hdisjoint⟩, hlow'⟩

end FirstFit
