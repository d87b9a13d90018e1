import Mathlib.Logic.Relation

set_option autoImplicit false

/-! # Runs of a labelled step function

A system is a function `step : σ → α → Option σ`: the label `α` carries every choice that the
system does not make itself (who moves, what the environment answers), and `none` says that the
action is not possible in that state. A run is a list of actions. A property of every interleaving is
then a property of `exec step init as` for every `as`, and it is proved once per action
(`exec_invariant`). `guarded` cuts a system down to the actions that meet a condition on the state
before the step; `EveryStep` is about the steps of a run rather than about its states; `outputs` collects
what the steps show to the outside; `exec_refines` is forward simulation into a transition relation. -/

namespace Trace

variable {σ α τ : Type*}

/-- The state after a list of actions; `none` as soon as one of them is not possible. -/
def exec (step : σ → α → Option σ) : σ → List α → Option σ
  | s, [] => some s
  | s, a :: as => (step s a).bind fun s' => exec step s' as

/-- The same system, restricted to the actions that meet `ok` in the state they are taken in. -/
def guarded (ok : σ → α → Prop) [∀ s a, Decidable (ok s a)] (step : σ → α → Option σ) (s : σ)
    (a : α) : Option σ :=
  if ok s a then step s a else none

/-- `s` is the last state of some run from `init`. -/
def Reachable (step : σ → α → Option σ) (init s : σ) : Prop :=
  ∃ as, exec step init as = some s

@[simp] theorem exec_nil (step : σ → α → Option σ) (s : σ) : exec step s [] = some s := rfl

theorem exec_cons_eq_some {step : σ → α → Option σ} {s s' : σ} {a : α} {as : List α} :
    exec step s (a :: as) = some s' ↔ ∃ t, step s a = some t ∧ exec step t as = some s' := by
  simp [exec, Option.bind_eq_some_iff]

theorem exec_append (step : σ → α → Option σ) (s : σ) (as bs : List α) :
    exec step s (as ++ bs) = (exec step s as).bind fun t => exec step t bs := by
  induction as generalizing s with
  | nil => simp
  | cons a as ih =>
      cases h : step s a with
      | none => simp [exec, h]
      | some t => simp [exec, h, ih t]

theorem guarded_eq_some {ok : σ → α → Prop} [∀ s a, Decidable (ok s a)]
    {step : σ → α → Option σ} {s s' : σ} {a : α} :
    guarded ok step s a = some s' ↔ ok s a ∧ step s a = some s' := by
  by_cases h : ok s a <;> simp [guarded, h]

/-! ## Invariants -/

/-- **Invariant rule.** What one step preserves holds after every run that starts with it. -/
theorem exec_invariant {step : σ → α → Option σ} {P : σ → Prop}
    (hstep : ∀ s a s', P s → step s a = some s' → P s') {s s' : σ} {as : List α}
    (hs : P s) (h : exec step s as = some s') : P s' := by
  induction as generalizing s with
  | nil => exact (Option.some.inj h) ▸ hs
  | cons a as ih =>
      obtain ⟨t, ht, hrest⟩ := exec_cons_eq_some.1 h
      exact ih (hstep s a t hs ht) hrest

theorem Reachable.invariant {step : σ → α → Option σ} {init s : σ} {P : σ → Prop}
    (h : Reachable step init s) (hinit : P init)
    (hstep : ∀ s a s', P s → step s a = some s' → P s') : P s := by
  obtain ⟨as, has⟩ := h
  exact exec_invariant hstep hinit has

/-! ## Every step of a run -/

/-- `P` holds of each step that the run takes: of the state before, the action and the state after. -/
def EveryStep (step : σ → α → Option σ) (P : σ → α → σ → Prop) (s : σ) (as : List α) : Prop :=
  ∀ bs a cs t t', as = bs ++ a :: cs → exec step s bs = some t → step t a = some t' → P t a t'

theorem everyStep_congr {step : σ → α → Option σ} {P Q : σ → α → σ → Prop}
    (h : ∀ t a t', step t a = some t' → (P t a t' ↔ Q t a t')) (s : σ) (as : List α) :
    EveryStep step P s as ↔ EveryStep step Q s as := by
  constructor
  · intro hP bs a cs t t' has hexec hstep
    exact (h t a t' hstep).1 (hP bs a cs t t' has hexec hstep)
  · intro hQ bs a cs t t' has hexec hstep
    exact (h t a t' hstep).2 (hQ bs a cs t t' has hexec hstep)

theorem everyStep_nil {step : σ → α → Option σ} {P : σ → α → σ → Prop} (s : σ) :
    EveryStep step P s [] := by
  intro bs a cs t t' has _ _
  simp at has

theorem everyStep_cons {step : σ → α → Option σ} {P : σ → α → σ → Prop} {s t : σ} {a : α} {as : List α}
    (hstep : step s a = some t) : EveryStep step P s (a :: as) ↔ P s a t ∧ EveryStep step P t as := by
  constructor
  · intro h
    refine ⟨h [] a as s t (by simp) (by simp [exec]) hstep, ?_⟩
    intro bs b cs u u' has hexec hu
    exact h (a :: bs) b cs u u' (by simp [has]) (exec_cons_eq_some.2 ⟨t, hstep, hexec⟩) hu
  · rintro ⟨hfirst, hrest⟩ bs b cs u u' has hexec hu
    cases bs with
    | nil =>
        obtain ⟨rfl, rfl⟩ := List.cons.inj has
        obtain rfl : s = u := Option.some.inj hexec
        obtain rfl : t = u' := Option.some.inj (hstep.symm.trans hu)
        exact hfirst
    | cons b' bs =>
        obtain ⟨rfl, has'⟩ := List.cons.inj has
        obtain ⟨t', ht', hexec'⟩ := exec_cons_eq_some.1 hexec
        obtain rfl : t = t' := Option.some.inj (hstep.symm.trans ht')
        exact hrest bs b cs u u' has' hexec' hu

/-- The guarded system runs exactly where the whole system does and every step meets the guard. -/
theorem exec_guarded_eq_some {ok : σ → α → Prop} [∀ s a, Decidable (ok s a)]
    {step : σ → α → Option σ} {s s' : σ} {as : List α} :
    exec (guarded ok step) s as = some s' ↔
      exec step s as = some s' ∧ EveryStep step (fun t a _ => ok t a) s as := by
  induction as generalizing s with
  | nil => simp [everyStep_nil]
  | cons a as ih =>
      simp only [exec_cons_eq_some, guarded_eq_some, ih]
      constructor
      · rintro ⟨t, ⟨hok, hstep⟩, hexec, hrest⟩
        exact ⟨⟨t, hstep, hexec⟩, (everyStep_cons hstep).2 ⟨hok, hrest⟩⟩
      · rintro ⟨⟨t, hstep, hexec⟩, hevery⟩
        obtain ⟨hok, hrest⟩ := (everyStep_cons hstep).1 hevery
        exact ⟨t, ⟨hok, hstep⟩, hexec, hrest⟩

/-- What holds of every single step holds of every step of a run. -/
theorem everyStep_of_forall {step : σ → α → Option σ} {P : σ → α → σ → Prop} {s : σ} {as : List α}
    (h : ∀ a ∈ as, ∀ t t', step t a = some t' → P t a t') : EveryStep step P s as := by
  intro bs a cs t t' has _ hstep
  refine h a ?_ t t' hstep
  simp [has]

/-- What holds of every step from a state with the invariant holds of every step of a run. -/
theorem everyStep_of_invariant {step : σ → α → Option σ} {Q : σ → α → σ → Prop} (P : σ → Prop)
    (hkeep : ∀ s a s', P s → step s a = some s' → P s')
    (h : ∀ s a s', P s → step s a = some s' → Q s a s') {s : σ} {as : List α} (hs : P s) :
    EveryStep step Q s as := by
  intro bs a cs t t' _ hexec hstep
  exact h t a t' (exec_invariant hkeep hs hexec) hstep

/-- Where an invariant of the runs under one guard lets that guard imply another one, they are runs under the
    other one, too. -/
theorem exec_guarded_of_invariant {ok₁ ok₂ : σ → α → Prop} [∀ s a, Decidable (ok₁ s a)]
    [∀ s a, Decidable (ok₂ s a)] {step : σ → α → Option σ} (P : σ → Prop)
    (hkeep : ∀ s a s', P s → ok₁ s a → step s a = some s' → P s') (hok : ∀ s a, P s → ok₁ s a → ok₂ s a)
    {s s' : σ} {as : List α} (hs : P s) (h : exec (guarded ok₁ step) s as = some s') :
    exec (guarded ok₂ step) s as = some s' := by
  induction as generalizing s with
  | nil => exact h
  | cons a as ih =>
      obtain ⟨t, ht, hrest⟩ := exec_cons_eq_some.1 h
      obtain ⟨hok₁, hstep⟩ := guarded_eq_some.1 ht
      exact exec_cons_eq_some.2 ⟨t, guarded_eq_some.2 ⟨hok s a hs hok₁, hstep⟩, ih (hkeep s a t hs hok₁ hstep) hrest⟩

/-! ## What a run puts out -/

/-- What the steps of a run put out, in order. -/
def outputs {β : Type*} (step : σ → α → Option σ) (out : σ → α → Option β) : σ → List α → List β
  | _, [] => []
  | s, a :: as =>
    (out s a).toList ++
      match step s a with
      | some s' => outputs step out s' as
      | none => []

/-- `bs` in this order takes `t` to `t'`, each of them by one step of `R`. -/
inductive Successive {β : Type*} (R : τ → β → τ → Prop) : τ → List β → τ → Prop where
  | nil (t : τ) : Successive R t [] t
  | cons {t u v : τ} {b : β} {bs : List β} (h : R t b u) (hrest : Successive R u bs v) :
      Successive R t (b :: bs) v

/-- **Output rule.** If a step that puts nothing out leaves the observation alone, and one that puts
    `b` out changes it by `R`, then the outputs of a run take the first observation to the last. -/
theorem successive_outputs {β : Type*} {step : σ → α → Option σ} {out : σ → α → Option β}
    {R : τ → β → τ → Prop} (P : σ → Prop) (obs : σ → τ) (hstep : ∀ s a s', P s → step s a = some s' → P s')
    (hnone : ∀ s a s', P s → step s a = some s' → out s a = none → obs s' = obs s)
    (hsome : ∀ s a s' b, P s → step s a = some s' → out s a = some b → R (obs s) b (obs s'))
    {s s' : σ} {as : List α} (hs : P s) (h : exec step s as = some s') :
    Successive R (obs s) (outputs step out s as) (obs s') := by
  induction as generalizing s with
  | nil =>
      obtain rfl := Option.some.inj h
      exact .nil _
  | cons a as ih =>
      obtain ⟨t, ht, hrest⟩ := exec_cons_eq_some.1 h
      have htail := ih (hstep s a t hs ht) hrest
      simp only [outputs, ht]
      cases hout : out s a with
      | none => simpa [hnone s a t hs ht hout] using htail
      | some b => simpa using Successive.cons (hsome s a t b hs ht hout) htail

/-! ## Simulation -/

/-- **Forward simulation.** If every step of the system is matched by zero or more steps of the
    abstract relation that restore `R`, every run is matched by an abstract run. -/
theorem exec_refines {step : σ → α → Option σ} {absStep : τ → τ → Prop} {R : σ → τ → Prop}
    (hsim : ∀ s a s' t, R s t → step s a = some s' →
      ∃ t', Relation.ReflTransGen absStep t t' ∧ R s' t')
    {s s' : σ} {t : τ} {as : List α} (hR : R s t) (h : exec step s as = some s') :
    ∃ t', Relation.ReflTransGen absStep t t' ∧ R s' t' := by
  induction as generalizing s t with
  | nil => exact ⟨t, .refl, (Option.some.inj h) ▸ hR⟩
  | cons a as ih =>
      obtain ⟨u, hu, hrest⟩ := exec_cons_eq_some.1 h
      obtain ⟨t₁, ht₁, hR₁⟩ := hsim s a u t hR hu
      obtain ⟨t₂, ht₂, hR₂⟩ := ih hR₁ hrest
      exact ⟨t₂, ht₁.trans ht₂, hR₂⟩

end Trace
