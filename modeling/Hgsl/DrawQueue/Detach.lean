import Hgsl.DrawQueue.RingInvariant

set_option autoImplicit false

/-! # Detaching a context

`hgsl_ctxt_destroy` sets `in_destroy` and drains the queue. New submissions are refused from then on;
a submission that slept through the drain does not test `in_destroy` again, so what it does depends on
how its wait ended. -/

namespace Hgsl

namespace QueueState

variable {s s' : QueueState}

/-! ## Draining -/

/-- Head and tail are indices of the ring. -/
structure Indices (s : QueueState) : Prop where
  head_lt : s.drawqHead < CONTEXT_DRAWQUEUE_SIZE
  tail_lt : s.drawqTail < CONTEXT_DRAWQUEUE_SIZE

/-- The drain runs until head and tail meet. -/
theorem drainLoop_fst {fuel head : Nat} (list : List Nat) (htail : s.drawqTail < CONTEXT_DRAWQUEUE_SIZE)
    (hhead : head < CONTEXT_DRAWQUEUE_SIZE)
    (hfuel : Ring.used CONTEXT_DRAWQUEUE_SIZE head s.drawqTail ≤ fuel) :
    (s.drainLoop fuel head list).1 = s.drawqTail := by
  induction fuel generalizing head list with
  | zero =>
      exact (Ring.used_eq_zero hhead htail).1 (Nat.le_zero.1 hfuel)
  | succ fuel ih =>
      unfold drainLoop
      split
      · next heq => exact heq
      · next hne =>
          refine ih _ (Nat.mod_lt _ size_pos) ?_
          -- one slot fewer between head and tail
          have hnext : drawqueueNext head < CONTEXT_DRAWQUEUE_SIZE := Nat.mod_lt _ size_pos
          rw [Ring.used_eq hhead htail] at hfuel
          rw [Ring.used_eq hnext htail]
          unfold drawqueueNext CONTEXT_DRAWQUEUE_SIZE at *
          split at hfuel <;> split <;> omega

/-- The drain leaves an empty ring. -/
theorem Indices.detach (h : Indices s) : s.detachDrawobjs.drawqHead = s.drawqTail :=
  drainLoop_fst [] h.tail_lt h.head_lt (Nat.le_of_lt (Ring.used_lt size_pos _ _))

theorem Indices.queueLoop {objs : List Nat} {userTs timestamp : BitVec 32} (h : Indices s) :
    Indices (QueueState.queueLoop userTs s timestamp objs).2.2 := by
  have hone : ∀ t ts o (os : List Nat), Indices t →
      Indices (QueueState.queueOne userTs t ts o).2.2 := by
    intro t ts o os ht
    have hcases := queueOne_cases t o ts userTs
    generalize QueueState.queueOne userTs t ts o = r at hcases
    cases hcases with
    | refused ts hts => exact ht
    | ignored ts htype => exact ht
    | unstamped ts htype => exact ⟨ht.head_lt, Nat.mod_lt _ size_pos⟩
    | stamped ts obj' htype hts hobj hmarker => exact ⟨ht.head_lt, Nat.mod_lt _ size_pos⟩
    | retired ts htype hts hqueued hexpired => exact ⟨ht.head_lt, ht.tail_lt⟩
  obtain ⟨_, hos⟩ := queueLoop_rule (P := fun t _ => Indices t) userTs timestamp hone h
  exact hos

/-- Whatever happens, head and tail stay inside the ring. -/
theorem Indices.step {a : QueueAct} (h : Indices s) (hstep : s.step a = some s') : Indices s' := by
  have hpop : drawqueueNext s.drawqHead < CONTEXT_DRAWQUEUE_SIZE := Nat.mod_lt _ size_pos
  have hwake : ∀ {k room ret}, s.wake k room ret = some s' → Indices s' := by
    intro k room ret hstep
    obtain ⟨sl, -, -, rfl⟩ := wake_cases hstep
    exact { h with }
  cases a with
  | queueCmds ds ts =>
      simp only [QueueState.step, Option.ite_none_right_eq_some] at hstep
      obtain ⟨-, hs'⟩ := hstep
      obtain rfl := Option.some.inj hs'
      obtain ⟨obj', -, heq | ⟨-, heq⟩ | ⟨-, -, -, heq⟩⟩ := submit_cases s ds ts
      · rw [heq]
        exact { h with }
      · rw [heq]
        exact { h with }
      · rw [heq]
        exact Indices.queueLoop { h with }
  | wakeRoom k left => exact hwake hstep
  | wakeTimeout k => exact hwake hstep
  | wakeInterrupted k => exact hwake hstep
  | relock k =>
      obtain ⟨sl, ret, -, -, -, rfl | ⟨-, rfl⟩⟩ := relock_cases hstep
      · exact { h with }
      · exact Indices.queueLoop { h with }
  | passStart =>
      simp only [QueueState.step] at hstep
      split at hstep
      · obtain rfl := Option.some.inj hstep
        exact { h with }
      · cases hstep
  | passScan =>
      simp only [QueueState.step] at hstep
      split at hstep
      · next i ret _ =>
          obtain rfl := Option.some.inj hstep
          have hcases := scan_cases s i ret
          generalize s.scan i ret = s' at hcases
          cases hcases with
          | stop => exact { h with }
          | skipped o hi ho htype => exact { h with }
          | dropped o d hi ho htype => exact ⟨hpop, h.tail_lt⟩
          | expired o hi ho htype hexpired => exact ⟨hpop, h.tail_lt⟩
          | found o hi ho htype => exact ⟨hpop, h.tail_lt⟩
      · cases hstep
  | send r =>
      simp only [QueueState.step] at hstep
      split at hstep
      · obtain rfl := Option.some.inj hstep
        unfold finishSend
        dsimp only
        split
        · exact { h with }
        · split
          · exact { h with }
          · refine ⟨?_, h.tail_lt⟩
            have hlt := h.head_lt
            simp only [requeueDrawobj]
            split <;> omega
      · cases hstep
  | syncExpire o i =>
      obtain rfl := Option.some.inj hstep
      exact { h with }
  | gpuRetire =>
      simp only [QueueState.step, QueueState.gpuRetire] at hstep
      split at hstep
      · cases hstep
      · obtain rfl := Option.some.inj hstep
        exact { h with }
  | setInDestroy =>
      obtain rfl := Option.some.inj hstep
      exact { h with }
  | detachDrawobjs =>
      simp only [QueueState.step, Option.ite_none_right_eq_some] at hstep
      obtain ⟨-, hs'⟩ := hstep
      obtain rfl := Option.some.inj hs'
      refine ⟨?_, h.tail_lt⟩
      rw [h.detach]
      exact h.tail_lt

/-! ## After the drain -/

/-- A submitter whose wait timed out comes back after the drain. -/
def returnsAfterDrain (s : QueueState) : QueueAct → Bool
  | .relock k =>
    s.drained && match s.sleepers[k]? with
      | some sl => sl.wake = some 0
      | none => false
  | _ => false

/-- `s` is `s₁`, a state right after the drain, up to what may still change in a detached context. -/
structure Detached (s₁ s : QueueState) : Prop where
  inDestroy : s.inDestroy = true
  drained : s.drained = true
  appended : s.appended = s₁.appended
  queuedTs : s.queuedTs = s₁.queuedTs

/-- The dispatcher has nothing that it could put back, and nothing to find. -/
structure Emptied (s₁ s : QueueState) : Prop where
  drawq : s.drawq = s₁.drawq
  fifo : s.fifo = []
  meet : s.drawqHead = s.drawqTail
  not_sending : ∀ i ret, s.dispatcher = .scanning i ret → i = s.drawqHead
  no_hand : s.dispatcher.inHand = []

/-- A submission to a detached context is refused, and a sleeper that was not let down by a time-out
    returns its error: the context only changes where the dispatcher and the GPU are at work. -/
theorem Detached.submit {s₁ : QueueState} (h : Detached s₁ s) (ds : List Drawobj)
    (timestamp : BitVec 32) : ∃ obj' n sleepers, s.submit ds timestamp =
      { s with obj := obj', nextObj := n, sleepers := sleepers } := by
  obtain ⟨obj', -, heq | ⟨-, heq⟩ | ⟨-, hdestroy, -, -⟩⟩ := submit_cases s ds timestamp
  · exact ⟨_, _, _, heq⟩
  · exact ⟨_, _, _, heq⟩
  · rw [h.inDestroy] at hdestroy
    cases hdestroy

theorem Detached.relock {s₁ : QueueState} (h : Detached s₁ s) {k : Nat}
    (hlate : s.returnsAfterDrain (.relock k) = false) (hstep : s.relock k = some s') :
    s' = { s with sleepers := s.sleepers.eraseIdx k } := by
  obtain ⟨sl, ret, hsl, hwake, -, heq | ⟨rfl, -⟩⟩ := relock_cases hstep
  · exact heq
  · simp [returnsAfterDrain, h.drained, hsl, hwake] at hlate

/-- **Step lemma.** Unless a timed-out submitter comes back, a step of a detached context accepts
    nothing and keeps an emptied ring empty. -/
theorem Detached.step {s₁ : QueueState} {a : QueueAct} (h : Detached s₁ s)
    (hlate : s.returnsAfterDrain a = false) (hstep : s.step a = some s') :
    Detached s₁ s' ∧ (Emptied s₁ s → Emptied s₁ s') := by
  have hwake : ∀ {k room ret}, s.wake k room ret = some s' →
      Detached s₁ s' ∧ (Emptied s₁ s → Emptied s₁ s') := by
    intro k room ret hstep
    obtain ⟨sl, -, -, rfl⟩ := wake_cases hstep
    exact ⟨{ h with }, fun he => { he with }⟩
  cases a with
  | queueCmds ds ts =>
      simp only [QueueState.step, Option.ite_none_right_eq_some] at hstep
      obtain ⟨-, hs'⟩ := hstep
      obtain ⟨obj', n, sleepers, heq⟩ := h.submit ds ts
      rw [heq] at hs'
      obtain rfl := Option.some.inj hs'
      exact ⟨{ h with }, fun he => { he with }⟩
  | wakeRoom k left => exact hwake hstep
  | wakeTimeout k => exact hwake hstep
  | wakeInterrupted k => exact hwake hstep
  | relock k =>
      obtain rfl := h.relock hlate hstep
      exact ⟨{ h with }, fun he => { he with }⟩
  | passStart =>
      simp only [QueueState.step] at hstep
      split at hstep
      · obtain rfl := Option.some.inj hstep
        refine ⟨{ h with }, fun he => { he with not_sending := ?_, no_hand := rfl }⟩
        intro i ret hscan
        cases hscan
        rfl
      · cases hstep
  | passScan =>
      simp only [QueueState.step] at hstep
      split at hstep
      · next i ret hscan =>
          obtain rfl := Option.some.inj hstep
          have hmeet : Emptied s₁ s → i = s.drawqTail := fun he =>
            (he.not_sending i ret hscan).trans he.meet
          have hcases := scan_cases s i ret
          generalize s.scan i ret = s' at hcases
          cases hcases with
          | stop => exact ⟨{ h with }, fun he => { he with not_sending := by simp, no_hand := rfl }⟩
          | skipped o hi ho htype => exact ⟨{ h with }, fun he => absurd (hmeet he) hi⟩
          | dropped o d hi ho htype => exact ⟨{ h with }, fun he => absurd (hmeet he) hi⟩
          | expired o hi ho htype hexpired => exact ⟨{ h with }, fun he => absurd (hmeet he) hi⟩
          | found o hi ho htype => exact ⟨{ h with }, fun he => absurd (hmeet he) hi⟩
      · cases hstep
  | send r =>
      simp only [QueueState.step] at hstep
      split at hstep
      · next o hsend =>
          obtain rfl := Option.some.inj hstep
          refine ⟨?_, fun he => ?_⟩
          · unfold finishSend
            dsimp only
            split
            · exact { h with }
            · split <;> exact { h with }
          · have hhand := he.no_hand
            rw [hsend] at hhand
            cases hhand
      · cases hstep
  | syncExpire o i =>
      obtain rfl := Option.some.inj hstep
      exact ⟨{ h with }, fun he => { he with }⟩
  | gpuRetire =>
      simp only [QueueState.step, QueueState.gpuRetire] at hstep
      split at hstep
      · cases hstep
      · obtain rfl := Option.some.inj hstep
        exact ⟨{ h with }, fun he => { he with }⟩
  | setInDestroy =>
      obtain rfl := Option.some.inj hstep
      exact ⟨{ h with inDestroy := rfl }, fun he => { he with }⟩
  | detachDrawobjs =>
      simp only [QueueState.step, Option.ite_none_right_eq_some] at hstep
      obtain ⟨-, hs'⟩ := hstep
      obtain rfl := Option.some.inj hs'
      refine ⟨{ h with drained := rfl }, fun he => ?_⟩
      have hloop : s.drainLoop CONTEXT_DRAWQUEUE_SIZE s.drawqHead [] = (s.drawqHead, []) := by
        unfold CONTEXT_DRAWQUEUE_SIZE drainLoop
        rw [if_pos he.meet]
      refine ⟨he.drawq, rfl, ?_, ?_, he.no_hand⟩
      · simpa only [detachDrawobjs, hloop] using he.meet
      · simpa only [detachDrawobjs, hloop] using he.not_sending

/-- No submitter whose wait timed out comes back after the drain. -/
def NoLateReturn (s : QueueState) (a : QueueAct) : Prop := s.returnsAfterDrain a = false

instance (s : QueueState) (a : QueueAct) : Decidable (NoLateReturn s a) := by
  unfold NoLateReturn; infer_instance

/-- **Main result.** Once the drain of a destroyed context has finished, no step of any continuation
    accepts an object or changes `queued_ts`, unless a submitter whose wait timed out comes back; and
    if the dispatcher held no object over the drain, the ring stays empty and untouched. -/
theorem nothing_enters_after_detach (flags : BitVec 32) (shadowTs : Option ShadowTs)
    (as bs : List QueueAct) (s s₁ t : QueueState)
    (hreach : Trace.exec QueueState.step (.fresh flags shadowTs) as = some s)
    (hdrain : s.step .detachDrawobjs = some s₁)
    (hrun : Trace.exec (Trace.guarded NoLateReturn QueueState.step) s₁ bs = some t) :
    t.appended = s₁.appended ∧ t.queuedTs = s₁.queuedTs ∧
      (s₁.dispatcher = .idle → t.drawq = s₁.drawq ∧ t.drawqHead = t.drawqTail) := by
  have hindex : Indices s := by
    refine Trace.exec_invariant (fun _ _ _ h hstep => Indices.step h hstep) ?_ hreach
    exact ⟨size_pos, size_pos⟩
  simp only [QueueState.step, Option.ite_none_right_eq_some] at hdrain
  obtain ⟨⟨hdestroy, -⟩, hs₁⟩ := hdrain
  obtain rfl := Option.some.inj hs₁
  have hrest : Detached s.detachDrawobjs t ∧
      (Emptied s.detachDrawobjs s.detachDrawobjs → Emptied s.detachDrawobjs t) := by
    refine Trace.exec_invariant (P := fun t => Detached s.detachDrawobjs t ∧
      (Emptied s.detachDrawobjs s.detachDrawobjs → Emptied s.detachDrawobjs t)) ?_ ?_ hrun
    · rintro u a u' ⟨hu, hempty⟩ hstep
      obtain ⟨hlate, hstep'⟩ := Trace.guarded_eq_some.1 hstep
      obtain ⟨hu', hempty'⟩ := hu.step hlate hstep'
      exact ⟨hu', fun he => hempty' (hempty he)⟩
    · exact ⟨⟨hdestroy, rfl, rfl, rfl⟩, id⟩
  obtain ⟨hdet, hempty⟩ := hrest
  refine ⟨hdet.appended, hdet.queuedTs, fun hidle => ?_⟩
  have hstart : Emptied s.detachDrawobjs s.detachDrawobjs := by
    refine ⟨rfl, rfl, hindex.detach, ?_, ?_⟩
    · rw [hidle]
      simp
    · rw [hidle]
      rfl
  exact ⟨(hempty hstart).drawq, (hempty hstart).meet⟩

/-- A context is destroyed while a submitter sleeps for room, who is then interrupted; a later
    submission is refused. -/
def quietDestroyRun : List QueueAct :=
  [.queueCmds (List.replicate 126 pendingSync) 0#32, .queueCmds [{ type := .cmd }] 0#32,
    .setInDestroy]

theorem nothing_enters_after_detach_quietDestroyRun : ∃ s s₁ t,
    Trace.exec QueueState.step (.fresh GSL_CONTEXT_FLAG_USER_GENERATED_TS none) quietDestroyRun =
        some s ∧
      s.step .detachDrawobjs = some s₁ ∧
      Trace.exec (Trace.guarded NoLateReturn QueueState.step) s₁
        [.wakeInterrupted 0, .relock 0, .queueCmds [{ type := .cmd }] 0#32, .passStart, .passScan] =
          some t ∧
      t.appended = s₁.appended ∧ t.queuedTs = s₁.queuedTs ∧ t.drawqHead = t.drawqTail := by
  have hsome : ((Trace.exec QueueState.step (.fresh GSL_CONTEXT_FLAG_USER_GENERATED_TS none)
      quietDestroyRun).bind fun s => (s.step .detachDrawobjs).bind fun s₁ =>
      (Trace.exec (Trace.guarded NoLateReturn QueueState.step) s₁
        [.wakeInterrupted 0, .relock 0, .queueCmds [{ type := .cmd }] 0#32, .passStart,
          .passScan]).map fun _ => s₁.dispatcher) = some .idle := by
    decide +kernel
  obtain ⟨s, hs, hsome⟩ := Option.bind_eq_some_iff.1 hsome
  obtain ⟨s₁, hs₁, hsome⟩ := Option.bind_eq_some_iff.1 hsome
  obtain ⟨t, ht, hidle⟩ := Option.map_eq_some_iff.1 hsome
  obtain ⟨happ, hts, hempty⟩ := nothing_enters_after_detach _ _ _ _ s s₁ t hs hs₁ ht
  exact ⟨s, s₁, t, hs, hs₁, ht, happ, hts, (hempty hidle).2⟩

/-- A submitter sleeps through the drain and times out: the drain has not lowered `queued`, so its wait
    cannot end otherwise, and its command enters the detached context. -/
theorem object_enters_after_detach :
    ∃ s₁ ∈ Trace.exec QueueState.step (.fresh GSL_CONTEXT_FLAG_USER_GENERATED_TS none)
        (quietDestroyRun ++ [.detachDrawobjs]),
      s₁.drained = true ∧ s₁.inDestroy = true ∧
      ∃ t ∈ Trace.exec QueueState.step s₁ [.wakeTimeout 0, .relock 0],
        t.appended ≠ s₁.appended ∧ t.queuedTs ≠ s₁.queuedTs ∧ t.drawqHead ≠ t.drawqTail := by
  decide +kernel

end QueueState

end Hgsl
