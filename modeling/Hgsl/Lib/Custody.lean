import Mathlib.Data.List.Count

set_option autoImplicit false

/-! # Things that are taken and given back

A program acquires things and releases them. `run` follows its events from what is held at first: it is
stuck as soon as something is released that is not held. What a run acquires on top of what was held is
then released exactly as often, apart from what is still held at its end. -/

namespace Custody

variable {α : Type*}

inductive Event (α : Type*) where
  | acquire (a : α)
  | release (a : α)
  deriving DecidableEq, Repr

/-- How often `a` is acquired. -/
def acquired [DecidableEq α] (a : α) (es : List (Event α)) : Nat := es.count (.acquire a)

/-- How often `a` is released. -/
def released [DecidableEq α] (a : α) (es : List (Event α)) : Nat := es.count (.release a)

/-- What is held after the events; `none` when something is released that is not held. -/
def run [DecidableEq α] : List α → List (Event α) → Option (List α)
  | held, [] => some held
  | held, .acquire a :: es => run (a :: held) es
  | held, .release a :: es => if a ∈ held then run (held.erase a) es else none

section Run

variable [DecidableEq α] {held held' : List α} {es : List (Event α)} {a : α}

@[simp] theorem run_nil (held : List α) : run held [] = some held := by simp [run]

@[simp] theorem run_acquire (held : List α) (a : α) (es : List (Event α)) :
    run held (.acquire a :: es) = run (a :: held) es := by
  simp [run]

@[simp] theorem run_release (held : List α) (a : α) (es : List (Event α)) :
    run held (.release a :: es) = if a ∈ held then run (held.erase a) es else none := by
  simp [run]

theorem run_append (held : List α) (es fs : List (Event α)) :
    run held (es ++ fs) = (run held es).bind fun held' => run held' fs := by
  induction es generalizing held with
  | nil => simp
  | cons e es ih =>
      cases e with
      | acquire a => simp [ih]
      | release a =>
          by_cases hmem : a ∈ held <;> simp [hmem, ih]

/-- What is held besides stays. -/
theorem run_frame (h : run held es = some held') (base : List α) :
    run (held ++ base) es = some (held' ++ base) := by
  induction es generalizing held with
  | nil =>
      obtain rfl : held = held' := by simpa using h
      simp
  | cons e es ih =>
      cases e with
      | acquire a =>
          rw [run_acquire] at h ⊢
          exact ih h
      | release a =>
          rw [run_release] at h ⊢
          by_cases hmem : a ∈ held
          · rw [if_pos hmem] at h
            rw [if_pos (List.mem_append_left base hmem), List.erase_append_left base hmem]
            exact ih h
          · simp [hmem] at h

@[simp] theorem acquired_nil (a : α) : acquired a [] = 0 := by simp [acquired]

@[simp] theorem released_nil (a : α) : released a [] = 0 := by simp [released]

@[simp] theorem acquired_acquire (a b : α) (es : List (Event α)) :
    acquired a (.acquire b :: es) = acquired a es + if b = a then 1 else 0 := by
  simp [acquired, List.count_cons]

@[simp] theorem acquired_release (a b : α) (es : List (Event α)) :
    acquired a (.release b :: es) = acquired a es := by
  simp [acquired]

@[simp] theorem released_acquire (a b : α) (es : List (Event α)) :
    released a (.acquire b :: es) = released a es := by
  simp [released]

@[simp] theorem released_release (a b : α) (es : List (Event α)) :
    released a (.release b :: es) = released a es + if b = a then 1 else 0 := by
  simp [released, List.count_cons]

/-- **Balance.** What is acquired or held at first is released or held at the end. -/
theorem balance (h : run held es = some held') (a : α) :
    held.count a + acquired a es = released a es + held'.count a := by
  induction es generalizing held with
  | nil =>
      obtain rfl : held = held' := by simpa using h
      simp
  | cons e es ih =>
      cases e with
      | acquire b =>
          have hrest := ih (by simpa using h)
          rw [List.count_cons] at hrest
          by_cases hab : b = a <;> simp [hab] at hrest ⊢ <;> omega
      | release b =>
          rw [run_release] at h
          by_cases hmem : b ∈ held
          · rw [if_pos hmem] at h
            have hrest := ih h
            by_cases hab : b = a
            · subst hab
              have hpos := List.count_pos_iff.2 hmem
              rw [List.count_erase_self] at hrest
              simp
              omega
            · rw [List.count_erase_of_ne (Ne.symm hab)] at hrest
              simpa [hab] using hrest
          · simp [hmem] at h

end Run

end Custody
