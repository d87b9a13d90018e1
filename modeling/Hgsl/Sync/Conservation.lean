import Hgsl.Sync.SyncObject

set_option autoImplicit false

/-! # Conservation of the references of sync points

Who clears the pending bit of a point puts the references that go with the bit; the callback of a timestamp
puts the reference to the object in any case. At every moment each reference that was taken for a point has
been put, or exactly one of the add, the bit, the callback and the destruction answers for it. -/

namespace Hgsl

/-! ## Who answers for a reference -/

/-- The references that go with the pending bit. -/
def SyncpointType.bitRefs : SyncpointType → List PointRef
  | .timestamp => [.context]
  | .fence => [.drawobj]
  | .timeline => [.callback, .drawobj]

/-- Those that go with the registered callback. -/
def SyncpointType.callbackRefs : SyncpointType → List PointRef
  | .timestamp => [.drawobj]
  | .fence | .timeline => []

/-- Those that the add keeps when the callback is registered. -/
def SyncpointType.addRefs : SyncpointType → List PointRef
  | .timeline => [.creation]
  | .timestamp | .fence => []

/-- The references that the add answers for. -/
def PointAdder.held (type : SyncpointType) : PointAdder → List PointRef
  | .registering | .refused _ => type.addRefs ++ type.callbackRefs
  | .putting refs _ => refs
  | .absent | .done => []

def PointCallback.held (type : SyncpointType) : PointCallback → List PointRef
  | .registered | .entered => type.callbackRefs
  | .queued => [.callback, .drawobj]
  | .putting refs => refs
  | .idle | .done => []

def PointDestroyer.held (type : SyncpointType) : PointDestroyer → List PointRef
  | .cancelling => type.bitRefs
  | .putting refs => refs
  | .waiting | .done => []

/-- The add has not handed the point over yet. -/
def PointAdder.owns : PointAdder → Bool
  | .registering | .refused _ => true
  | .absent | .putting _ _ | .done => false

namespace SyncPoint

def bitHeld (p : SyncPoint) : List PointRef := if p.pending then p.type.bitRefs else []

/-- The references that somebody answers for. -/
def held (p : SyncPoint) : List PointRef :=
  p.adder.held p.type ++ p.bitHeld ++ p.callback.held p.type ++ p.destroyer.held p.type

/-! ## Invariant of a point -/

structure Ok (p : SyncPoint) : Prop where
  once : Once p.taken p.held p.dropped
  bit : p.clearedBy.length + p.pending.toNat = p.isSet.toNat
  /-- a point that is being added is the add's alone -/
  owned : p.adder.owns = true → p.pending = true ∧ p.callback = .idle ∧ p.destroyer = .waiting
  spent : p.destroyer ≠ .waiting → p.pending = false
  before : p.destroyer = .waiting → .destroy ∉ p.clearedBy

theorem Ok.absent : Ok {} := ⟨.nil, rfl, nofun, fun _ => rfl, fun _ => nofun⟩

theorem Ok.addStart (type : SyncpointType) : Ok (addStart type) := by
  cases type with
  | timestamp => exact ⟨⟨by decide, by decide⟩, rfl, fun _ => ⟨rfl, rfl, rfl⟩, (absurd rfl ·), fun _ => nofun⟩
  | fence => exact ⟨⟨by decide, by decide⟩, rfl, fun _ => ⟨rfl, rfl, rfl⟩, (absurd rfl ·), fun _ => nofun⟩
  | timeline => exact ⟨⟨by decide, by decide⟩, rfl, fun _ => ⟨rfl, rfl, rfl⟩, (absurd rfl ·), fun _ => nofun⟩

theorem Ok.addFuture : Ok addFuture := ⟨⟨by decide, by decide⟩, rfl, nofun, fun _ => rfl, fun _ => nofun⟩

variable {p p' : SyncPoint}

theorem count_held (p : SyncPoint) (a : PointRef) :
    p.held.count a = (p.adder.held p.type).count a + p.bitHeld.count a + (p.callback.held p.type).count a +
      (p.destroyer.held p.type).count a := by
  simp only [held, List.count_append]

/-- A reference that one of the parties stops to answer for is put, or another one takes it over. -/
theorem Ok.account (h : Ok p) (htaken : p'.taken = p.taken)
    (hcount : ∀ a, p'.held.count a + p'.dropped.count a = p.held.count a + p.dropped.count a) :
    Once p'.taken p'.held p'.dropped := by
  rw [htaken]
  refine h.once.move ?_
  intro a
  rw [List.count_append, List.count_append]
  exact hcount a

/-! ### The add -/

theorem register_cases {result : RegisterResult} (hstep : p.register result = some p') :
    p' = { p with callback := .registered, adder := .putting p.type.addRefs true } ∨
      ∃ ok, p' = { p with adder := .refused ok } := by
  unfold SyncPoint.register at hstep
  split at hstep
  · next htype =>
      obtain rfl := Option.some.inj hstep
      exact .inl (by rw [htype]; rfl)
  · next htype =>
      obtain rfl := Option.some.inj hstep
      exact .inl (by rw [htype]; rfl)
  · next htype =>
      obtain rfl := Option.some.inj hstep
      exact .inl (by rw [htype]; rfl)
  · exact .inr ⟨true, (Option.some.inj hstep).symm⟩
  · exact .inr ⟨true, (Option.some.inj hstep).symm⟩
  · exact .inr ⟨false, (Option.some.inj hstep).symm⟩
  · exact .inr ⟨false, (Option.some.inj hstep).symm⟩
  · cases hstep
  · cases hstep

theorem Ok.register (h : Ok p) {result : RegisterResult} (hadder : p.adder = .registering)
    (hstep : p.register result = some p') : Ok p' := by
  obtain ⟨hpending, hidle, hwaiting⟩ := h.owned (by rw [hadder]; rfl)
  rcases register_cases hstep with rfl | ⟨ok, rfl⟩
  · refine ⟨h.account rfl ?_, h.bit, nofun, h.spent, h.before⟩
    intro a
    simp only [count_held, hadder, hidle, bitHeld, PointAdder.held, PointCallback.held, List.count_append,
      List.count_nil]
    omega
  · refine ⟨h.account rfl ?_, h.bit, fun _ => ⟨hpending, hidle, hwaiting⟩, h.spent, h.before⟩
    intro a
    simp only [count_held, hadder, bitHeld, PointAdder.held]

theorem count_undo (type : SyncpointType) (a : PointRef) :
    (match type with
      | .timestamp => [.drawobj, .context]
      | .fence => [.drawobj]
      | .timeline => [.callback, .creation, .drawobj] : List PointRef).count a =
      (type.addRefs ++ type.callbackRefs ++ type.bitRefs).count a := by
  cases type <;> cases a <;> rfl

theorem Ok.undo (h : Ok p) {ok : Bool} (hadder : p.adder = .refused ok) : Ok (p.undo ok) := by
  obtain ⟨hpending, hidle, hwaiting⟩ := h.owned (by rw [hadder]; rfl)
  refine ⟨h.account rfl ?_, ?_, nofun, fun _ => rfl, ?_⟩
  · intro a
    have hundo := count_undo p.type a
    simp only [count_held, hadder, bitHeld, hpending, PointAdder.held, SyncPoint.undo,
      List.count_append] at hundo ⊢
    simp
    omega
  · have hbit := h.bit
    rw [hpending] at hbit
    simp only [SyncPoint.undo, List.length_append]
    simpa using hbit
  · intro _
    have hbefore := h.before hwaiting
    simpa [SyncPoint.undo] using hbefore

theorem Ok.addPut (h : Ok p) {r : PointRef} {rs : List PointRef} {ok : Bool}
    (hadder : p.adder = .putting (r :: rs) ok) : Ok { p.put r with adder := .putting rs ok } := by
  refine ⟨h.account rfl ?_, h.bit, nofun, h.spent, h.before⟩
  intro a
  simp only [count_held, hadder, bitHeld, put, PointAdder.held, List.count_append, List.count_cons,
    List.count_nil]
  omega

/-! ### The bit -/

/-- Who clears the bit answers for its references from now on. -/
theorem testAndClear_cases (p : SyncPoint) (who : BitClearer) :
    (p.pending = true ∧ p.testAndClear who =
        (true, { p with pending := false, clearedBy := p.clearedBy ++ [who] })) ∨
      p.pending = false ∧ p.testAndClear who = (false, p) := by
  unfold testAndClear
  by_cases hpending : p.pending = true
  · exact .inl ⟨hpending, if_pos hpending⟩
  · exact .inr ⟨Bool.eq_false_iff.2 hpending, if_neg hpending⟩

/-- What the callback does, in one form for the three types. -/
theorem expire_cases (p : SyncPoint) :
    (p.pending = true ∧ ∃ cb : PointCallback,
      p.expire = { p with pending := false, clearedBy := p.clearedBy ++ [.callback], callback := cb } ∧
        cb.held p.type = p.type.bitRefs ++ p.type.callbackRefs) ∨
      p.pending = false ∧ p.expire = { p with callback := .putting p.type.callbackRefs } := by
  rcases p.testAndClear_cases .callback with ⟨hpending, heq⟩ | ⟨hpending, heq⟩
  · refine .inl ⟨hpending, ?_⟩
    unfold expire
    rw [heq]
    cases p.type with
    | timestamp => exact ⟨.putting [.context, .drawobj], rfl, rfl⟩
    | fence => exact ⟨.putting [.drawobj], rfl, rfl⟩
    | timeline => exact ⟨.queued, rfl, rfl⟩
  · refine .inr ⟨hpending, ?_⟩
    unfold expire
    rw [heq]
    obtain ⟨type, _, _, _, _, _, _, _, _⟩ := p
    cases type <;> rfl

/-! ### The callback -/

/-- The callback goes on, without the bit. -/
theorem Ok.setCallback (h : Ok p) {cb : PointCallback} (howns : p.adder.owns = false)
    (hheld : cb.held p.type = p.callback.held p.type) : Ok { p with callback := cb } := by
  refine ⟨h.account rfl ?_, h.bit, fun ho => absurd ho (Bool.eq_false_iff.1 howns), h.spent,
    h.before⟩
  intro a
  simp only [count_held, bitHeld, hheld]

theorem Ok.not_owned (h : Ok p) (hcallback : p.callback ≠ .idle) : p.adder.owns = false := by
  by_contra howns
  exact hcallback (h.owned (Bool.not_eq_false _ ▸ howns)).2.1

theorem Ok.expire (h : Ok p) (hcallback : p.callback = .entered) : Ok p.expire := by
  have howns := h.not_owned (by rw [hcallback]; exact nofun)
  have hold : p.callback.held p.type = p.type.callbackRefs := by
    rw [hcallback]
    rfl
  rcases p.expire_cases with ⟨hpending, cb, heq, hcb⟩ | ⟨hpending, heq⟩
  · rw [heq]
    refine ⟨h.account rfl ?_, ?_, fun ho => absurd ho (Bool.eq_false_iff.1 howns), fun _ => rfl, ?_⟩
    · intro a
      simp only [count_held, bitHeld, hpending, hcb, hold, List.count_append]
      simp
      omega
    · have hbit := h.bit
      rw [hpending] at hbit
      simpa using hbit
    · intro hwaiting
      have hbefore := h.before hwaiting
      simpa using hbefore
  · rw [heq]
    exact h.setCallback howns (by rw [hold]; rfl)

theorem Ok.callbackStep (h : Ok p) (hstep : p.callbackStep = some p') : Ok p' := by
  unfold SyncPoint.callbackStep at hstep
  split at hstep
  · next hcallback =>
      obtain rfl := Option.some.inj hstep
      exact h.expire hcallback
  · next hcallback =>
      obtain rfl := Option.some.inj hstep
      refine h.setCallback (h.not_owned (by rw [hcallback]; exact nofun)) ?_
      rw [hcallback]
      rfl
  · next r rs hcallback =>
      obtain rfl := Option.some.inj hstep
      have howns := h.not_owned (by rw [hcallback]; exact nofun)
      refine ⟨h.account rfl ?_, h.bit, fun ho => absurd ho (Bool.eq_false_iff.1 howns), h.spent,
        h.before⟩
      intro a
      simp only [count_held, hcallback, bitHeld, put, PointCallback.held, List.count_append,
        List.count_cons, List.count_nil]
      omega
  · next hcallback =>
      obtain rfl := Option.some.inj hstep
      refine h.setCallback (h.not_owned (by rw [hcallback]; exact nofun)) ?_
      rw [hcallback]
      rfl
  · cases hstep

/-! ### The destruction -/

theorem cancel_cases (hstep : p.cancel = some p') : ∃ cb : PointCallback,
    p' = { p with callback := cb, destroyer := .putting p.type.bitRefs } ∧
      cb.held p.type = p.callback.held p.type := by
  -- a callback that is removed holds nothing
  have hremoved : p.type ≠ .timestamp →
      PointCallback.held p.type (if p.callback = .registered then .done else p.callback) =
        p.callback.held p.type := by
    intro htype
    split
    · next hregistered =>
        rw [hregistered]
        cases heq : p.type with
        | timestamp => exact absurd heq htype
        | fence | timeline => rfl
    · rfl
  unfold cancel at hstep
  dsimp only at hstep
  split at hstep
  · next htype =>
      obtain rfl := Option.some.inj hstep
      exact ⟨p.callback, by rw [htype]; rfl, rfl⟩
  · next htype =>
      split at hstep
      · cases hstep
      · obtain rfl := Option.some.inj hstep
        exact ⟨_, by rw [htype]; rfl, hremoved (by rw [htype]; exact nofun)⟩
  · next htype =>
      split at hstep
      · cases hstep
      · obtain rfl := Option.some.inj hstep
        exact ⟨_, by rw [htype]; rfl, hremoved (by rw [htype]; exact nofun)⟩

theorem Ok.destroyStep (h : Ok p) (howns : p.adder.owns = false) (hstep : p.destroyStep = some p') :
    Ok p' := by
  have hnot := Bool.eq_false_iff.1 howns
  unfold SyncPoint.destroyStep at hstep
  split at hstep
  · next hdestroyer =>
      -- whoever finds the bit set takes its references over, here the destruction
      rcases p.testAndClear_cases .destroy with ⟨hpending, heq⟩ | ⟨hpending, heq⟩
      · rw [heq] at hstep
        obtain rfl := Option.some.inj hstep
        refine ⟨h.account rfl ?_, ?_, fun ho => absurd ho hnot, fun _ => rfl, fun hw => by simp at hw⟩
        · intro a
          simp only [count_held, hdestroyer, bitHeld, hpending, PointDestroyer.held]
          simp
          omega
        · have hbit := h.bit
          rw [hpending] at hbit
          simpa using hbit
      · rw [heq] at hstep
        obtain rfl := Option.some.inj hstep
        refine ⟨h.account rfl ?_, h.bit, fun ho => absurd ho hnot, fun _ => hpending,
          fun hw => by simp at hw⟩
        intro a
        simp [count_held, hdestroyer, bitHeld, PointDestroyer.held]
  · next hdestroyer =>
      obtain ⟨cb, rfl, hcb⟩ := cancel_cases hstep
      have hspent := h.spent (by rw [hdestroyer]; exact nofun)
      refine ⟨h.account rfl ?_, h.bit, fun ho => absurd ho hnot, fun _ => hspent, nofun⟩
      intro a
      simp only [count_held, hdestroyer, bitHeld, hcb, PointDestroyer.held]
  · next r rs hdestroyer =>
      obtain rfl := Option.some.inj hstep
      have hspent := h.spent (by rw [hdestroyer]; exact nofun)
      refine ⟨h.account rfl ?_, h.bit, fun ho => absurd ho hnot, fun _ => hspent, nofun⟩
      intro a
      simp only [count_held, hdestroyer, bitHeld, put, PointDestroyer.held, List.count_append,
        List.count_cons, List.count_nil]
      omega
  · next hdestroyer =>
      obtain rfl := Option.some.inj hstep
      have hspent := h.spent (by rw [hdestroyer]; exact nofun)
      refine ⟨h.account rfl ?_, h.bit, fun ho => absurd ho hnot, fun _ => hspent, nofun⟩
      intro a
      simp only [count_held, hdestroyer, bitHeld, PointDestroyer.held]
  · cases hstep

/-! ### What the others leave alone -/

theorem callbackStep_frame (hstep : p.callbackStep = some p') :
    p'.adder = p.adder ∧ p'.destroyer = p.destroyer ∧ p'.isSet = p.isSet := by
  unfold SyncPoint.callbackStep at hstep
  split at hstep
  · obtain rfl := Option.some.inj hstep
    rcases p.expire_cases with ⟨-, cb, heq, -⟩ | ⟨-, heq⟩
    · rw [heq]
      exact ⟨rfl, rfl, rfl⟩
    · rw [heq]
      exact ⟨rfl, rfl, rfl⟩
  · obtain rfl := Option.some.inj hstep
    exact ⟨rfl, rfl, rfl⟩
  · obtain rfl := Option.some.inj hstep
    exact ⟨rfl, rfl, rfl⟩
  · obtain rfl := Option.some.inj hstep
    exact ⟨rfl, rfl, rfl⟩
  · cases hstep

theorem addStep_frame {result : RegisterResult} (hstep : p.addStep result = some p') :
    p'.destroyer = p.destroyer ∧ p'.isSet = p.isSet := by
  unfold SyncPoint.addStep at hstep
  split at hstep
  · rcases register_cases hstep with rfl | ⟨ok, rfl⟩
    · exact ⟨rfl, rfl⟩
    · exact ⟨rfl, rfl⟩
  · obtain rfl := Option.some.inj hstep
    exact ⟨rfl, rfl⟩
  · obtain rfl := Option.some.inj hstep
    exact ⟨rfl, rfl⟩
  · cases hstep

theorem destroyStep_frame (hstep : p.destroyStep = some p') :
    p'.adder = p.adder ∧ p'.isSet = p.isSet := by
  unfold SyncPoint.destroyStep at hstep
  split at hstep
  · rcases p.testAndClear_cases .destroy with ⟨-, heq⟩ | ⟨-, heq⟩
    · rw [heq] at hstep
      obtain rfl := Option.some.inj hstep
      exact ⟨rfl, rfl⟩
    · rw [heq] at hstep
      obtain rfl := Option.some.inj hstep
      exact ⟨rfl, rfl⟩
  · obtain ⟨cb, rfl, -⟩ := cancel_cases hstep
    exact ⟨rfl, rfl⟩
  · obtain rfl := Option.some.inj hstep
    exact ⟨rfl, rfl⟩
  · obtain rfl := Option.some.inj hstep
    exact ⟨rfl, rfl⟩
  · cases hstep

theorem Ok.addStep (h : Ok p) {result : RegisterResult} (hstep : p.addStep result = some p') : Ok p' := by
  unfold SyncPoint.addStep at hstep
  split at hstep
  · next hadder => exact h.register hadder hstep
  · next ok hadder =>
      obtain rfl := Option.some.inj hstep
      exact h.undo hadder
  · next r rs ok hadder =>
      obtain rfl := Option.some.inj hstep
      exact h.addPut hadder
  · cases hstep

end SyncPoint

namespace SyncObject

/-! ## Invariant of the object -/

/-- The add of the point is under way. -/
def isAdding : PointAdder → Bool
  | .registering | .refused _ | .putting _ _ => true
  | .absent | .done => false

theorem isAdding_of_owns {a : PointAdder} (h : a.owns = true) : isAdding a = true := by
  cases a with
  | registering | refused _ => rfl
  | absent | putting _ _ | done => cases h

/-- The points that are left to add. -/
def left : SyncOwner → Nat
  | .adding rest | .inAdd _ rest => rest.length
  | .failed | .added | .destroying _ | .inDestroy _ | .destroyed => 0

/-- How far the destruction of point `i` is. -/
def DestroyerAt (numsyncs : Nat) (i : Nat) (d : PointDestroyer) : SyncOwner → Prop
  | .adding _ | .inAdd _ _ | .failed | .added => d = .waiting
  | .destroying j => (i < j → d = .done) ∧ (j ≤ i → d = .waiting)
  | .inDestroy j => (i < j → d = .done) ∧ (j < i → d = .waiting)
  | .destroyed => (i < numsyncs → d = .done) ∧ (d = .done ∨ d = .waiting)

structure Tracked (n : Nat) (s : SyncObject) : Prop where
  point : ∀ i, (s.point i).Ok
  adding : ∀ i, isAdding (s.point i).adder = true → ∃ rest, s.owner = .inAdd i rest
  isSet : ∀ i, (s.point i).isSet = true ↔ i < s.numsyncs
  destroyer : ∀ i, DestroyerAt s.numsyncs i (s.point i).destroyer s.owner
  room : s.numsyncs + left s.owner ≤ n

theorem Tracked.start (points : List SyncpointType) : Tracked points.length (start points) where
  point _ := .absent
  adding _ := nofun
  isSet _ := ⟨nofun, nofun⟩
  destroyer i := by
    unfold SyncObject.start
    split <;> rfl
  room := by
    unfold SyncObject.start
    split
    · exact Nat.zero_le _
    · exact Nat.le_of_eq (Nat.zero_add _)

variable {n : Nat} {s s' : SyncObject}

theorem forall_setPoint {P : Nat → SyncPoint → Prop} {i : Nat} {p : SyncPoint}
    (h : ∀ j, j ≠ i → P j (s.point j)) (hp : P i p) : ∀ j, P j ((s.setPoint i p).point j) :=
  (Function.forall_update_iff s.point P).2 ⟨hp, h⟩

/-- A point moves on, and the owner stays where it is. -/
theorem Tracked.setPoint (h : Tracked n s) {i : Nat} {p : SyncPoint} (hp : p.Ok)
    (hadding : isAdding p.adder = true → ∃ rest, s.owner = .inAdd i rest)
    (hset : p.isSet = (s.point i).isSet) (hdestroyer : DestroyerAt s.numsyncs i p.destroyer s.owner) :
    Tracked n (s.setPoint i p) where
  point := forall_setPoint (P := fun _ p => p.Ok) (fun j _ => h.point j) hp
  adding := forall_setPoint (P := fun i p => isAdding p.adder = true → ∃ rest, s.owner = .inAdd i rest)
    (fun j _ => h.adding j) hadding
  isSet := forall_setPoint (P := fun i p => p.isSet = true ↔ i < s.numsyncs) (fun j _ => h.isSet j)
    (by rw [hset]; exact h.isSet i)
  destroyer := forall_setPoint (P := fun i p => DestroyerAt s.numsyncs i p.destroyer s.owner)
    (fun j _ => h.destroyer j) hdestroyer
  room := h.room

/-- The owner moves on between two points. -/
theorem Tracked.setOwner (h : Tracked n s) {owner : SyncOwner} (hnone : ∀ i rest, s.owner ≠ .inAdd i rest)
    (hdestroyer : ∀ i, DestroyerAt s.numsyncs i (s.point i).destroyer owner)
    (hroom : s.numsyncs + left owner ≤ n) : Tracked n { s with owner := owner } where
  point := h.point
  adding i hadding := by
    obtain ⟨rest, howner⟩ := h.adding i hadding
    exact absurd howner (hnone i rest)
  isSet := h.isSet
  destroyer := hdestroyer
  room := hroom

theorem Tracked.numsyncs_le (h : Tracked n s) : s.numsyncs ≤ n :=
  Nat.le_trans (Nat.le_add_right _ _) h.room

/-- Nothing is destroyed before the adds are over. -/
theorem Tracked.waiting (h : Tracked n s) (howner : s.owner = .failed ∨ s.owner = .added ∨
    (∃ rest, s.owner = .adding rest) ∨ ∃ i rest, s.owner = .inAdd i rest) (i : Nat) :
    (s.point i).destroyer = .waiting := by
  have hdestroyer := h.destroyer i
  rcases howner with heq | heq | ⟨rest, heq⟩ | ⟨j, rest, heq⟩
  all_goals
    rw [heq] at hdestroyer
    exact hdestroyer

/-- `hgsl_drawobj_destroy` -/
theorem Tracked.startDestroy (h : Tracked n s) (howner : s.owner = .failed ∨ s.owner = .added) :
    Tracked n { s with owner := .destroying 0 } := by
  refine h.setOwner ?_ (fun i => ⟨nofun, fun _ => h.waiting ?_ i⟩) h.numsyncs_le
  · rcases howner with heq | heq
    · rw [heq]
      exact fun _ _ => nofun
    · rw [heq]
      exact fun _ _ => nofun
  · rcases howner with heq | heq
    · exact .inl heq
    · exact .inr (.inl heq)

/-- The loop takes the next point up. -/
theorem Tracked.addPoint (h : Tracked n s) {type : SyncpointType} {rest : List SyncpointType}
    (howner : s.owner = .adding (type :: rest)) :
    Tracked n { s.setPoint s.numsyncs (.addStart type) with
      numsyncs := s.numsyncs + 1, owner := .inAdd s.numsyncs rest } := by
  have hwaiting := h.waiting (.inr (.inr (.inl ⟨_, howner⟩)))
  have hroom := h.room
  rw [howner] at hroom
  refine ⟨?_, ?_, ?_, ?_, ?_⟩
  · exact forall_setPoint (P := fun _ p => p.Ok) (fun j _ => h.point j) (.addStart type)
  · refine forall_setPoint
      (P := fun i p => isAdding p.adder = true → ∃ rest', SyncOwner.inAdd s.numsyncs rest = .inAdd i rest')
      (fun j _ hadding => ?_) fun _ => ⟨rest, rfl⟩
    obtain ⟨rest', heq⟩ := h.adding j hadding
    rw [howner] at heq
    cases heq
  · refine forall_setPoint (P := fun i p => p.isSet = true ↔ i < s.numsyncs + 1) (fun j hj => ?_) ?_
    · rw [h.isSet j]
      omega
    · refine iff_of_true ?_ (Nat.lt_succ_self _)
      cases type <;> rfl
  · refine forall_setPoint (P := fun _ p => p.destroyer = .waiting) (fun j _ => hwaiting j) ?_
    cases type <;> rfl
  · simp only [left, List.length_cons] at hroom ⊢
    omega

theorem Tracked.addFuture (h : Tracked n s) {type : SyncpointType} {rest : List SyncpointType}
    (howner : s.owner = .adding (type :: rest)) :
    Tracked n { s.setPoint s.numsyncs .addFuture with owner := .inAdd s.numsyncs rest } := by
  have hwaiting := h.waiting (.inr (.inr (.inl ⟨_, howner⟩)))
  have hroom := h.room
  rw [howner] at hroom
  refine ⟨?_, ?_, ?_, ?_, ?_⟩
  · exact forall_setPoint (P := fun _ p => p.Ok) (fun j _ => h.point j) .addFuture
  · refine forall_setPoint
      (P := fun i p => isAdding p.adder = true → ∃ rest', SyncOwner.inAdd s.numsyncs rest = .inAdd i rest')
      (fun j _ hadding => ?_) fun _ => ⟨rest, rfl⟩
    obtain ⟨rest', heq⟩ := h.adding j hadding
    rw [howner] at heq
    cases heq
  · exact forall_setPoint (P := fun i p => p.isSet = true ↔ i < s.numsyncs) (fun j _ => h.isSet j)
      (iff_of_false nofun (Nat.lt_irrefl _))
  · exact forall_setPoint (P := fun _ p => p.destroyer = .waiting) (fun j _ => hwaiting j) rfl
  · simp only [left, List.length_cons] at hroom ⊢
    exact Nat.le_trans (Nat.le_succ _) hroom

/-- The add of a point returns. -/
theorem Tracked.finishAdd (h : Tracked n s) {i : Nat} {rest : List SyncpointType} {ok : Bool}
    (howner : s.owner = .inAdd i rest) (hadder : (s.point i).adder = .putting [] ok) :
    Tracked n { s.setPoint i { s.point i with adder := .done } with
      owner := if ok then .adding rest else .failed } := by
  have hwaiting := h.waiting (.inr (.inr (.inr ⟨_, _, howner⟩)))
  have hroom := h.room
  rw [howner] at hroom
  refine ⟨?_, ?_, ?_, ?_, ?_⟩
  · refine forall_setPoint (P := fun _ p => p.Ok) (fun j _ => h.point j) ?_
    refine ⟨(h.point i).account rfl ?_, (h.point i).bit, nofun, (h.point i).spent, (h.point i).before⟩
    intro a
    simp only [SyncPoint.count_held, hadder, SyncPoint.bitHeld, PointAdder.held]
  · refine forall_setPoint (P := fun j p => isAdding p.adder = true → ∃ rest',
      (if ok then SyncOwner.adding rest else .failed) = .inAdd j rest') (fun j hj hadding => ?_) nofun
    obtain ⟨rest', heq⟩ := h.adding j hadding
    rw [howner] at heq
    exact absurd (SyncOwner.inAdd.inj heq).1.symm hj
  · exact forall_setPoint (P := fun j p => p.isSet = true ↔ j < s.numsyncs) (fun j _ => h.isSet j) (h.isSet i)
  · intro j
    have hpoint : ((s.setPoint i { s.point i with adder := .done }).point j).destroyer = .waiting := by
      refine forall_setPoint (P := fun _ p => p.destroyer = .waiting) (fun j _ => hwaiting j) ?_ j
      exact hwaiting i
    cases ok with
    | true => exact hpoint
    | false => exact hpoint
  · cases ok with
    | true => exact hroom
    | false => exact h.numsyncs_le

theorem Tracked.step {a : SyncObjectAct} (h : Tracked n s) (hstep : SyncObject.step s a = some s') :
    Tracked n s' := by
  cases a with
  | addSyncpoint check =>
      simp only [SyncObject.step] at hstep
      split at hstep
      · next howner =>
          obtain rfl := Option.some.inj hstep
          exact h.setOwner (by rw [howner]; exact fun _ _ => nofun)
            (h.waiting (.inr (.inr (.inl ⟨_, howner⟩)))) h.numsyncs_le
      · next howner =>
          obtain rfl := Option.some.inj hstep
          exact h.addPoint howner
      · next howner =>
          obtain rfl := Option.some.inj hstep
          exact h.addFuture howner
      · next howner =>
          obtain rfl := Option.some.inj hstep
          exact h.setOwner (by rw [howner]; exact fun _ _ => nofun)
            (h.waiting (.inr (.inr (.inl ⟨_, howner⟩)))) h.numsyncs_le
      · cases hstep
  | add result =>
      simp only [SyncObject.step] at hstep
      split at hstep
      · next i rest howner =>
          split at hstep
          · next ok hadder =>
              obtain rfl := Option.some.inj hstep
              exact h.finishAdd howner hadder
          · obtain ⟨p, hp, rfl⟩ := Option.map_eq_some_iff.1 hstep
            obtain ⟨hd, hset⟩ := SyncPoint.addStep_frame hp
            exact h.setPoint ((h.point i).addStep hp) (fun _ => ⟨rest, howner⟩) hset
              (by rw [hd]; exact h.destroyer i)
      · cases hstep
  | signal i =>
      simp only [SyncObject.step] at hstep
      split at hstep
      · next hcallback =>
          obtain rfl := Option.some.inj hstep
          refine h.setPoint ?_ (h.adding i) rfl (h.destroyer i)
          refine (h.point i).setCallback ((h.point i).not_owned ?_) ?_
          · rw [hcallback]
            exact nofun
          · rw [hcallback]
            rfl
      · cases hstep
  | callback i =>
      obtain ⟨p, hp, rfl⟩ := Option.map_eq_some_iff.1 hstep
      obtain ⟨ha, hd, hset⟩ := SyncPoint.callbackStep_frame hp
      exact h.setPoint ((h.point i).callbackStep hp) (by rw [ha]; exact h.adding i) hset
        (by rw [hd]; exact h.destroyer i)
  | retire =>
      simp only [SyncObject.step] at hstep
      split at hstep
      · next howner =>
          obtain rfl := Option.some.inj hstep
          split
          · exact h
          · exact h.startDestroy (.inr howner)
      · cases hstep
  | giveUp =>
      simp only [SyncObject.step] at hstep
      split at hstep
      · next howner =>
          obtain rfl := Option.some.inj hstep
          exact h.startDestroy (.inl howner)
      · next howner =>
          obtain rfl := Option.some.inj hstep
          exact h.startDestroy (.inr howner)
      · cases hstep
  | destroy =>
      simp only [SyncObject.step] at hstep
      split at hstep
      · next i howner =>
          obtain rfl := Option.some.inj hstep
          have hnone : ∀ j rest, s.owner ≠ .inAdd j rest := by
            rw [howner]
            exact fun _ _ => nofun
          have hdestroyer := h.destroyer
          rw [howner] at hdestroyer
          split
          · exact h.setOwner hnone (fun j => ⟨(hdestroyer j).1, fun hj => (hdestroyer j).2 (Nat.le_of_lt hj)⟩)
              h.numsyncs_le
          · refine h.setOwner hnone (fun j => ⟨fun hj => (hdestroyer j).1 (by omega), ?_⟩) h.numsyncs_le
            exact (Nat.lt_or_ge j i).imp (hdestroyer j).1 (hdestroyer j).2
      · next i howner =>
          have hdestroyer := h.destroyer
          rw [howner] at hdestroyer
          split at hstep
          · next hdone =>
              obtain rfl := Option.some.inj hstep
              refine h.setOwner (by rw [howner]; exact fun _ _ => nofun)
                (fun j => ⟨fun hj => ?_, fun hj => ?_⟩) h.numsyncs_le
              · by_cases hji : j = i
                · rw [hji]
                  exact hdone
                · exact (hdestroyer j).1 (by omega)
              · exact (hdestroyer j).2 (by omega)
          · obtain ⟨p, hp, rfl⟩ := Option.map_eq_some_iff.1 hstep
            obtain ⟨ha, hset⟩ := SyncPoint.destroyStep_frame hp
            have hnot : isAdding (s.point i).adder ≠ true := by
              intro hadding
              obtain ⟨rest, heq⟩ := h.adding i hadding
              rw [howner] at heq
              cases heq
            refine h.setPoint ((h.point i).destroyStep ?_ hp)
              (by rw [ha]; exact fun hadding => absurd hadding hnot) hset ?_
            · by_contra howns
              exact hnot (isAdding_of_owns (Bool.not_eq_false _ ▸ howns))
            · rw [howner]
              exact ⟨fun hj => absurd hj (Nat.lt_irrefl _), fun hj => absurd hj (Nat.lt_irrefl _)⟩
      · cases hstep

/-! ## Conservation -/

/-- The bit of the point was cleared because what it waits for has happened. -/
def Expired (p : SyncPoint) : Prop := p.clearedBy = [.callback] ∨ p.clearedBy = [.add]

/-- The object is destroyed, and no callback has anything left to do. -/
def Finished (s : SyncObject) : Prop :=
  s.owner = .destroyed ∧ ∀ i, s.step (.signal i) = none ∧ s.step (.callback i) = none

structure Conserved (s : SyncObject) : Prop where
  /-- no reference is put twice, or without having been taken -/
  dropped : ∀ i r, (s.point i).dropped.count r ≤ (s.point i).taken.count r ∧ (s.point i).taken.count r ≤ 1
  /-- in the end each of them is put once -/
  finished : s.Finished → ∀ i, ∀ r ∈ (s.point i).taken, (s.point i).dropped.count r = 1
  /-- no bit is cleared twice -/
  cleared : ∀ i, (s.point i).clearedBy.length ≤ 1
  /-- in the end the bit of each point is cleared once -/
  clearedOnce : s.Finished → ∀ i < s.numsyncs, (s.point i).clearedBy.length = 1
  /-- `_retire_syncobj` pops the object only when all of its points have expired -/
  pops : ∀ s', s.step .retire = some s' → s'.owner ≠ s.owner → ∀ i < s.numsyncs, Expired (s.point i)

theorem Tracked.count_le (h : Tracked n s) (i : Nat) (r : PointRef) :
    (s.point i).dropped.count r + (s.point i).held.count r = (s.point i).taken.count r ∧
      (s.point i).taken.count r ≤ 1 := by
  have honce := (h.point i).once
  refine ⟨?_, List.nodup_iff_count_le_one.1 honce.nodup r⟩
  rw [← honce.shares.count_eq, List.count_append, Nat.add_comm]

/-- In the end nobody answers for a reference any more. -/
theorem Tracked.held_of_finished (h : Tracked n s) (hfinished : s.Finished) (i : Nat) :
    (s.point i).held = [] ∧ (s.point i).pending = false := by
  obtain ⟨howner, hcallbacks⟩ := hfinished
  have hdestroyer := h.destroyer i
  rw [howner] at hdestroyer
  -- nobody adds a point of a destroyed object
  have hadder : (s.point i).adder.held (s.point i).type = [] := by
    have hnot : isAdding (s.point i).adder ≠ true := by
      intro hadding
      obtain ⟨rest, heq⟩ := h.adding i hadding
      rw [howner] at heq
      cases heq
    cases heq : (s.point i).adder with
    | absent | done => rfl
    | registering | refused _ | putting _ _ =>
        rw [heq] at hnot
        exact absurd rfl hnot
  -- every callback that holds something could take a step
  have hcallback : (s.point i).callback.held (s.point i).type = [] := by
    obtain ⟨hsignal, hstep⟩ := hcallbacks i
    simp only [SyncObject.step, SyncPoint.callbackStep, Option.map_eq_none_iff] at hsignal hstep
    cases heq : (s.point i).callback with
    | idle | done => rfl
    | registered => simp [heq] at hsignal
    | entered | queued => simp [heq] at hstep
    | putting refs => cases refs <;> simp [heq] at hstep
  -- the destruction has cleared the bits of the points in use; no other bit was ever set
  have hpending : (s.point i).pending = false := by
    by_cases hi : i < s.numsyncs
    · refine (h.point i).spent ?_
      rw [hdestroyer.1 hi]
      exact nofun
    · have hbit := (h.point i).bit
      rw [Bool.eq_false_iff.2 fun hset => hi ((h.isSet i).1 hset)] at hbit
      cases hp : (s.point i).pending with
      | false => rfl
      | true =>
          rw [hp] at hbit
          exact absurd hbit (Nat.succ_ne_zero _)
  refine ⟨?_, hpending⟩
  have hdestroyed : (s.point i).destroyer.held (s.point i).type = [] := by
    rcases hdestroyer.2 with heq | heq
    · rw [heq]
      rfl
    · rw [heq]
      rfl
  unfold SyncPoint.held SyncPoint.bitHeld
  rw [hadder, hcallback, hdestroyed, hpending]
  rfl

/-- When no bit is pending, all of the points have expired. -/
theorem Tracked.expired (h : Tracked n s) (hn : n ≤ HGSL_MAX_SYNCPOINTS) (howner : s.owner = .added)
    (hpending : s.eventsPending = false) {i : Nat} (hi : i < s.numsyncs) : Expired (s.point i) := by
  have hclear : (s.point i).pending = false := by
    have hall := List.any_eq_false.1 hpending i
      (List.mem_range.2 (Nat.lt_of_lt_of_le hi (Nat.le_trans h.numsyncs_le hn)))
    exact Bool.eq_false_iff.2 hall
  have hbit := (h.point i).bit
  rw [hclear, (h.isSet i).2 hi] at hbit
  obtain ⟨who, hwho⟩ := List.length_eq_one_iff.1 hbit
  -- the destruction has not begun, so it did not clear the bit
  have hbefore := (h.point i).before (h.waiting (.inr (.inl howner)) i)
  unfold Expired
  rw [hwho] at hbefore ⊢
  cases who with
  | callback => exact .inl rfl
  | add => exact .inr rfl
  | destroy => exact absurd List.mem_cons_self hbefore

/-- Whatever sync points an object is built from, and in whatever order the callbacks, the adds and the
    destruction take their steps, the references of its points are conserved. -/
theorem conserved_of_run (points : List SyncpointType) (hpoints : points.length ≤ HGSL_MAX_SYNCPOINTS)
    (as : List SyncObjectAct) (s : SyncObject)
    (hrun : Trace.exec SyncObject.step (start points) as = some s) : Conserved s := by
  have h : Tracked points.length s :=
    Trace.exec_invariant (fun _ _ _ h hstep => Tracked.step h hstep) (Tracked.start points) hrun
  refine ⟨fun i r => ?_, fun hfinished i r hr => ?_, fun i => ?_, fun hfinished i hi => ?_, ?_⟩
  · obtain ⟨hcount, hone⟩ := h.count_le i r
    exact ⟨by omega, hone⟩
  · obtain ⟨hcount, hone⟩ := h.count_le i r
    rw [(h.held_of_finished hfinished i).1] at hcount
    have hpos := List.count_pos_iff.2 hr
    simp only [List.count_nil] at hcount
    omega
  · have hbit := (h.point i).bit
    have hle := Bool.toNat_le (s.point i).isSet
    omega
  · have hbit := (h.point i).bit
    rw [(h.held_of_finished hfinished i).2, (h.isSet i).2 hi] at hbit
    exact hbit
  · intro s' hstep hne i hi
    simp only [SyncObject.step] at hstep
    split at hstep
    · next howner =>
        obtain rfl := Option.some.inj hstep
        split at hne
        · exact absurd rfl hne
        · next hpending => exact h.expired hpoints howner (Bool.eq_false_iff.2 hpending) hi
    · cases hstep

/-- The timestamp retires and the fence of the first timelines signals while the points are still added;
    the second timelines are signalled already. The context is detached with the fence still pending; it
    signals when the destruction has cleared its bit. -/
def detachedRun : List SyncObjectAct :=
  [.addSyncpoint .ok, .add .accepted, .signal 0, .add .accepted, .addSyncpoint .ok, .callback 0,
    .add .accepted, .add .accepted, .addSyncpoint .ok, .add .accepted, .signal 2, .callback 2,
    .add .accepted, .callback 2, .callback 0, .add .accepted, .addSyncpoint .ok, .add .signalled,
    .add .accepted, .add .accepted, .add .accepted, .add .accepted, .add .accepted, .addSyncpoint .ok,
    .retire, .giveUp, .destroy, .destroy, .destroy, .destroy, .destroy, .signal 1, .callback 1,
    .callback 1, .destroy, .callback 2, .destroy, .destroy, .destroy, .callback 2, .callback 2, .destroy,
    .destroy, .destroy, .destroy, .destroy, .destroy, .destroy, .callback 0, .callback 0]

theorem conserved_of_run_detachedRun :
    ∃ s, Trace.exec SyncObject.step (start [.timestamp, .fence, .timeline, .timeline]) detachedRun = some s ∧
      (s.owner, (s.point 0).clearedBy, (s.point 1).clearedBy, (s.point 2).clearedBy,
        (s.point 3).clearedBy) = (.destroyed, [.callback], [.destroy], [.callback], [.add]) ∧
      Conserved s := by
  have heval : (Trace.exec SyncObject.step (start [.timestamp, .fence, .timeline, .timeline])
        detachedRun).map (fun s => (s.owner, (s.point 0).clearedBy, (s.point 1).clearedBy,
          (s.point 2).clearedBy, (s.point 3).clearedBy)) =
      some (.destroyed, [.callback], [.destroy], [.callback], [.add]) := by
    decide +kernel
  obtain ⟨s, hs, heq⟩ := Option.map_eq_some_iff.1 heval
  exact ⟨s, hs, heq, conserved_of_run _ (by decide) _ s hs⟩

end SyncObject

end Hgsl
