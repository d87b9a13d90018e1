import Mathlib.Data.List.Basic

set_option autoImplicit false

/-! # Reference counts

A reference count together with the list of those who hold a reference. The count is what a program
keeps; the list is there to reason about it. Nothing ties the two together but the discipline of the
program: `Balanced` says that it has been kept, and it is preserved as long as a reference is dropped
only by one who holds it. -/

structure RefCount (η : Type*) where
  count : Nat
  holders : List η
  deriving DecidableEq, Repr

namespace RefCount

variable {η : Type*}

/-! ## Operations -/

/-- The count starts with one reference. -/
def init (h : η) : RefCount η := ⟨1, [h]⟩

/-- Takes a reference. -/
def get (r : RefCount η) (h : η) : RefCount η := ⟨r.count + 1, h :: r.holders⟩

/-- Takes a reference, unless the count is 0. -/
def getUnlessZero (r : RefCount η) (h : η) : Option (RefCount η) :=
  if r.count = 0 then none else some (r.get h)

/-- Drops a reference. -/
def put [DecidableEq η] (r : RefCount η) (h : η) : RefCount η := ⟨r.count - 1, r.holders.erase h⟩

theorem getUnlessZero_eq_some {r r' : RefCount η} {h : η} :
    r.getUnlessZero h = some r' ↔ r.count ≠ 0 ∧ r' = r.get h := by
  unfold getUnlessZero
  by_cases hzero : r.count = 0
  · simp [hzero]
  · simp [hzero, eq_comm]

theorem getUnlessZero_eq_none {r : RefCount η} {h : η} :
    r.getUnlessZero h = none ↔ r.count = 0 := by
  unfold getUnlessZero
  by_cases hzero : r.count = 0 <;> simp [hzero]

/-! ## Others -/

section Others

variable [DecidableEq η] {r : RefCount η} {h h' : η}

theorem count_get_of_ne (hne : h' ≠ h) : (r.get h).holders.count h' = r.holders.count h' :=
  List.count_cons_of_ne hne.symm

theorem count_put_of_ne (hne : h' ≠ h) : (r.put h).holders.count h' = r.holders.count h' :=
  List.count_erase_of_ne hne

theorem mem_put_of_ne (hne : h' ≠ h) : h' ∈ (r.put h).holders ↔ h' ∈ r.holders :=
  List.mem_erase_of_ne hne

end Others

/-! ## Balance -/

/-- The count is the number of references held. -/
def Balanced (r : RefCount η) : Prop := r.count = r.holders.length

theorem balanced_init (h : η) : (init h).Balanced := rfl

theorem Balanced.get {r : RefCount η} (hr : r.Balanced) (h : η) : (r.get h).Balanced := by
  unfold Balanced at hr ⊢
  simp [RefCount.get, hr]

theorem Balanced.put [DecidableEq η] {r : RefCount η} {h : η} (hr : r.Balanced)
    (hmem : h ∈ r.holders) : (r.put h).Balanced := by
  unfold Balanced at hr ⊢
  simp [RefCount.put, hr, List.length_erase_of_mem hmem]

/-- As long as somebody holds a reference, the count is not 0. -/
theorem Balanced.count_ne_zero {r : RefCount η} {h : η} (hr : r.Balanced) (hmem : h ∈ r.holders) :
    r.count ≠ 0 := by
  have hpos := List.length_pos_of_mem hmem
  rw [hr]
  exact Nat.pos_iff_ne_zero.1 hpos

end RefCount
