import Mathlib.Logic.Function.Basic

set_option autoImplicit false

/-! # Programs that work on shared state, and what they owe

A program is a tree: it is done, or it performs an operation and goes on with what that returns. Several of them
can then be run one operation at a time, in any order.

A protocol says how an operation changes what a program owes, and which operations it may perform then. A program
that keeps to it, whatever the operations return, can be given to other programs as a step of theirs
(`keeps_bind`, `Keeps.mono`); what it owes is known at each point without its text. -/

/-- A program with the operations `Op`, each of which returns a `Res`. -/
inductive Program (Op : Type) (Res : Op → Type) (α : Type) where
  | done (a : α)
  | ask (o : Op) (k : Res o → Program Op Res α)

/-- A protocol: what an operation can return, and what is owed after it; `none` where it must not be performed. -/
structure Protocol (Op : Type) (Res : Op → Type) (D : Type) where
  admits : (o : Op) → Res o → Bool
  next : (o : Op) → Res o → D → Option D

namespace Program

variable {Op : Type} {Res : Op → Type} {α β D : Type}

def bind : Program Op Res α → (α → Program Op Res β) → Program Op Res β
  | .done a, f => f a
  | .ask o k, f => .ask o fun r => (k r).bind f

instance : Monad (Program Op Res) where
  pure := .done
  bind := bind

/-- The program keeps to the protocol from `d` on, and ends so that `post` holds of its result and of what is owed
    then. -/
def Keeps (π : Protocol Op Res D) (post : α → D → Prop) : Program Op Res α → D → Prop
  | .done a, d => post a d
  | .ask o k, d => ∀ r, π.admits o r = true → ∃ d', π.next o r d = some d' ∧ (k r).Keeps π post d'

section Rules

variable {π : Protocol Op Res D} {post post' : α → D → Prop} {d : D}

@[simp] theorem keeps_pure (a : α) : (pure a : Program Op Res α).Keeps π post d ↔ post a d := Iff.rfl

@[simp] theorem keeps_done (a : α) : (Program.done a : Program Op Res α).Keeps π post d ↔ post a d := Iff.rfl

@[simp] theorem keeps_ask (o : Op) (k : Res o → Program Op Res α) :
    (Program.ask o k).Keeps π post d ↔
      ∀ r, π.admits o r = true → ∃ d', π.next o r d = some d' ∧ (k r).Keeps π post d' := Iff.rfl

/-- **Sequencing.** -/
@[simp] theorem keeps_bind (p : Program Op Res α) (f : α → Program Op Res β) {post : β → D → Prop} :
    (p >>= f).Keeps π post d ↔ p.Keeps π (fun a d' => (f a).Keeps π post d') d := by
  change (p.bind f).Keeps π post d ↔ _
  induction p generalizing d with
  | done a => simp [bind, Keeps]
  | ask o k ih => simp [bind, Keeps, ih]

/-- **Consequence.** -/
theorem Keeps.mono {p : Program Op Res α} (h : p.Keeps π post d) (hpost : ∀ a d', post a d' → post' a d') :
    p.Keeps π post' d := by
  induction p generalizing d with
  | done a => exact hpost a d h
  | ask o k ih =>
      intro r hr
      obtain ⟨d', hnext, hk⟩ := h r hr
      exact ⟨d', hnext, ih r hk⟩

/-- A program that leaves what is owed as it was. -/
theorem Keeps.bind_same {p : Program Op Res α} {f : α → Program Op Res β} {post : β → D → Prop}
    (h : p.Keeps π (fun _ d' => d' = d) d) (hf : ∀ a, (f a).Keeps π post d) : (p >>= f).Keeps π post d := by
  rw [keeps_bind]
  refine h.mono ?_
  rintro a d' rfl
  exact hf a

end Rules

end Program
