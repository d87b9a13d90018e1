import Mathlib.Order.Basic

set_option autoImplicit false

/-! # Loops with a budget

A loop whose bound comes from outside still ends if every turn that goes on costs something and there is only
so much to spend. `run` takes at most `fuel` turns and gives `none` when they do not suffice; the rule says
what budget makes them suffice, and what holds at the end. -/

namespace Loop

variable {σ ρ : Type*}

/-- What one turn comes to: the loop goes on, or ends with a result. -/
inductive Turn (σ ρ : Type*) where
  | next (s : σ)
  | done (r : ρ)

def run (turn : σ → Turn σ ρ) : Nat → σ → Option ρ
  | 0, _ => none
  | fuel + 1, s =>
    match turn s with
    | .next s' => run turn fuel s'
    | .done r => some r

section Run

variable {turn : σ → Turn σ ρ} {s s' : σ} {r : ρ} {fuel : Nat}

theorem run_next (h : turn s = .next s') : run turn (fuel + 1) s = run turn fuel s' := by
  simp [run, h]

theorem run_done (h : turn s = .done r) : run turn (fuel + 1) s = some r := by
  simp [run, h]

/-- More turns than are needed change nothing. -/
theorem run_mono {more : Nat} (h : run turn fuel s = some r) (hle : fuel ≤ more) : run turn more s = some r := by
  induction fuel generalizing s more with
  | zero => simp [run] at h
  | succ fuel ih =>
      obtain ⟨more, rfl⟩ : ∃ n, more = n + 1 := ⟨more - 1, by omega⟩
      cases hturn : turn s with
      | next s' =>
          rw [run_next hturn] at h ⊢
          exact ih h (by omega)
      | done r' =>
          rw [run_done hturn] at h ⊢
          exact h

/-- **Budget rule.** `P` holds before every turn, each turn that goes on costs at least `cost` of what is left,
    and `Q` holds of what the loop ends with. -/
theorem run_of_budget {P : σ → Prop} {Q : ρ → Prop} (left : σ → Nat) (cost : Nat)
    (hnext : ∀ s s', P s → turn s = .next s' → P s' ∧ left s' + cost ≤ left s)
    (hdone : ∀ s r, P s → turn s = .done r → Q r) (hs : P s) (hfuel : left s < fuel * cost) :
    ∃ r, run turn fuel s = some r ∧ Q r := by
  induction fuel generalizing s with
  | zero => simp at hfuel
  | succ fuel ih =>
      cases hturn : turn s with
      | next s' =>
          obtain ⟨hs', hcost⟩ := hnext s s' hs hturn
          rw [Nat.succ_mul] at hfuel
          rw [run_next hturn]
          exact ih hs' (by omega)
      | done r => exact ⟨r, run_done hturn, hdone s r hs hturn⟩

end Run

end Loop
