import Hgsl.Doorbell.QueueIssue

set_option autoImplicit false

/-! # Exclusive use of the ibdesc buffer

`ibdesc_priv` records the last fill of the buffer by a context id and a timestamp. The invariant says
that the record is right, and that `buf_inuse` is clear only when the timestamp has retired. A section
of `dbq_wait_free_ibdesc` keeps it as long as the context whose shadow timestamps it reads is the one
that filled the buffer (`judgesOwner`). The code does not make sure of that: the context is looked up
on the first device whatever device the owner is on, and a waiter keeps the context that it looked up
before its sleep. -/

namespace Hgsl

namespace DbqState

/-! ## Condition -/

/-- The context whose shadow timestamps a step compares with the recorded timestamp. -/
def comparesWith (s : DbqState) : DbqAct → Option Nat
  | .acquire t =>
    match s.thread t with
    | .issuing ctxt c => if s.dbqCheckIbdescState ctxt (.acquire c) then s.lookupOwner else none
    | _ => none
  | .destroy _ devHnd contextId =>
    (s.contexts devHnd contextId).bind fun ctxt =>
      if s.dbqCheckIbdescState ctxt (.release devHnd contextId) then s.lookupOwner else none
  | .woken t .timeLeft =>
    match s.thread t with
    | .asleep _ _ owner => some owner
    | _ => none
  | _ => none

/-- While the buffer is in use, `owner` is found to have retired the recorded timestamp only if it is
    the context that filled the buffer. -/
def readsOwner (s : DbqState) (owner : Nat) : Bool :=
  !s.ibdescPriv.bufInuse || !(s.obj owner).expired s.ibdescPriv.timestamp ||
    match s.lastFill with
    | some f => f.ctxt == owner
    | none => true

/-- A step that finds the recorded timestamp retired while the buffer is in use has looked at the
    context that filled the buffer. -/
def judgesOwner (s : DbqState) (a : DbqAct) : Prop :=
  match s.comparesWith a with
  | some owner => s.readsOwner owner = true
  | none => True

instance (s : DbqState) (a : DbqAct) : Decidable (s.judgesOwner a) := by
  unfold judgesOwner
  split <;> infer_instance

/-- A queue with these contexts, its buffer not in use and no thread under way. -/
def start (dwords ibdescMaxSize : Nat) (gmuaddr : BitVec 64)
    (contexts : DevHandle → Nat → Option Nat) (obj : Nat → DbqCtxt) : DbqState :=
  { dwords := dwords
    ibdescMaxSize := ibdescMaxSize
    gmuaddr := gmuaddr
    contexts := contexts
    obj := obj }

/-! ## Invariant -/

structure Recorded (s : DbqState) : Prop where
  notRewritten : s.rewrote = false
  notCleared : s.cleared = false
  timestamp : ∀ f ∈ s.lastFill, s.ibdescPriv.timestamp = f.timestamp
  free : s.ibdescPriv.bufInuse = false → ∀ f ∈ s.lastFill, f.retired = true
  noticed : ∀ f ∈ s.lastFill, (s.obj f.ctxt).expired f.timestamp = true → f.retired = true

theorem Recorded.start (dwords ibdescMaxSize : Nat) (gmuaddr : BitVec 64)
    (contexts : DevHandle → Nat → Option Nat) (obj : Nat → DbqCtxt) :
    Recorded (start dwords ibdescMaxSize gmuaddr contexts obj) where
  notRewritten := rfl
  notCleared := rfl
  timestamp := nofun
  free := nofun
  noticed := nofun

/-- The invariant looks at the buffer and at the shadow timestamps only. -/
theorem Recorded.congr {s s' : DbqState} (h : Recorded s) (hpriv : s'.ibdescPriv = s.ibdescPriv)
    (hfill : s'.lastFill = s.lastFill) (hrewrote : s'.rewrote = s.rewrote)
    (hcleared : s'.cleared = s.cleared)
    (hobj : ∀ o, (s'.obj o).shadowTs = (s.obj o).shadowTs) : Recorded s' where
  notRewritten := hrewrote.trans h.notRewritten
  notCleared := hcleared.trans h.notCleared
  timestamp := by
    rw [hpriv, hfill]
    exact h.timestamp
  free := by
    rw [hpriv, hfill]
    exact h.free
  noticed f hf hexp := by
    rw [hfill] at hf
    unfold DbqCtxt.expired at hexp
    rw [hobj] at hexp
    exact h.noticed f hf hexp

theorem Recorded.setThread {s : DbqState} (h : Recorded s) (t : Nat) (th : DbqThread) :
    Recorded (s.setThread t th) :=
  h.congr rfl rfl rfl rfl fun _ => rfl

theorem Recorded.ret {s : DbqState} (h : Recorded s) (t : Nat) (r : Int) : Recorded (s.ret t r) :=
  h.congr rfl rfl rfl rfl fun _ => rfl

theorem Recorded.setLocked {s : DbqState} (h : Recorded s) (ctxt : Nat) (locked : Bool) :
    Recorded (s.setLocked ctxt locked) := by
  refine h.congr rfl rfl rfl rfl ?_
  intro o
  by_cases ho : o = ctxt
  · simp only [DbqState.setLocked, ho, Function.update_self]
  · simp only [DbqState.setLocked, Function.update_of_ne ho]

theorem Recorded.not_pending {s : DbqState}
    (hretired : ∀ f ∈ s.lastFill, f.retired = true) : s.fillPending = false := by
  unfold fillPending
  split
  · next f hf => simp [hretired f hf]
  · rfl

/-! ## The wait -/

theorem checkShadow_error {sh : Option ShadowTs} {ts : BitVec 32} {e : Int}
    (h : hgslCheckShadowTimestamp sh ts = .error e) : e = -EINVAL := by
  unfold hgslCheckShadowTimestamp at h
  split at h
  · exact (Except.error.inj h).symm
  · cases h

/-- What a section of the wait guarantees: after a wait for the buffer that succeeds, the buffer is
    not in use. -/
def WaitResult.Safe (request : IbdescRequest) : WaitResult → Prop
  | .done r s => Recorded s ∧ match request with
    | .acquire _ => r = 0 → s.ibdescPriv.bufInuse = false
    | .release _ _ => True
  | .sleep _ => True

theorem WaitResult.Safe.of_error {s : DbqState} (h : Recorded s) (request : IbdescRequest) {r : Int}
    (hr : r ≠ 0) : WaitResult.Safe request (.done r s) := by
  refine ⟨h, ?_⟩
  cases request with
  | acquire c => exact fun hzero => absurd hzero hr
  | release devHnd contextId => trivial

/-- **Clearing.** The owner has retired the recorded timestamp, which is that of the last fill. -/
theorem Recorded.clearInuse {s : DbqState} (h : Recorded s) {owner : Nat}
    (howner : s.readsOwner owner = true)
    (hexp : (s.obj owner).expired s.ibdescPriv.timestamp = true) : Recorded s.clearInuse := by
  have hretired : ∀ f ∈ s.lastFill, f.retired = true := by
    intro f hf
    by_cases hinuse : s.ibdescPriv.bufInuse = true
    · have hctxt : f.ctxt = owner := by
        rw [Option.mem_def] at hf
        simpa [readsOwner, hinuse, hexp, hf] using howner
      refine h.noticed f hf ?_
      rw [hctxt, ← h.timestamp f hf]
      exact hexp
    · exact h.free (Bool.eq_false_of_not_eq_true hinuse) f hf
  refine ⟨h.notRewritten, ?_, h.timestamp, fun _ => hretired, h.noticed⟩
  show (s.cleared || s.fillPending) = false
  rw [h.notCleared, Recorded.not_pending hretired]
  rfl

theorem Recorded.waitTurn {s : DbqState} (h : Recorded s) (request : IbdescRequest) {owner : Nat}
    (howner : s.readsOwner owner = true) : WaitResult.Safe request (s.waitTurn owner) := by
  unfold DbqState.waitTurn
  split
  · next e he =>
      rw [checkShadow_error he]
      exact .of_error h request (by decide)
  · next hcheck =>
      have hexp : (s.obj owner).expired s.ibdescPriv.timestamp = true := by
        simp only [DbqCtxt.expired, hcheck]
      refine ⟨h.clearInuse howner hexp, ?_⟩
      cases request with
      | acquire c => exact fun _ => rfl
      | release devHnd contextId => trivial
  · trivial

theorem Recorded.dbqWaitFreeIbdesc {s : DbqState} (h : Recorded s) (ctxt : Nat)
    (request : IbdescRequest)
    (howner : ∀ owner, s.dbqCheckIbdescState ctxt request = true → s.lookupOwner = some owner →
      s.readsOwner owner = true) :
    WaitResult.Safe request (s.dbqWaitFreeIbdesc ctxt request) := by
  unfold DbqState.dbqWaitFreeIbdesc
  split
  · next hcheck =>
      split
      · exact .of_error h request (by decide)
      · next owner hlookup => exact h.waitTurn request (howner owner hcheck hlookup)
  · next hcheck =>
      refine ⟨h, ?_⟩
      cases request with
      | acquire c => simpa [dbqCheckIbdescState] using hcheck
      | release devHnd contextId => trivial

/-- **Filling.** A buffer that is not in use is needed by no message. -/
theorem Recorded.fillIbdesc {s : DbqState} (h : Recorded s) (t ctxt : Nat) (c : IssueCall)
    (hfree : s.ibdescPriv.bufInuse = false) : Recorded (s.fillIbdesc t ctxt c) := by
  refine ⟨?_, h.notCleared, ?_, nofun, ?_⟩
  · show (s.rewrote || s.fillPending) = false
    rw [h.notRewritten, Recorded.not_pending (h.free hfree)]
    rfl
  · intro f hf
    obtain rfl := Option.some.inj hf
    rfl
  · intro f hf hexp
    obtain rfl := Option.some.inj hf
    exact hexp

theorem Recorded.afterWait {s : DbqState} (h : Recorded s) (t ctxt : Nat) {request : IbdescRequest}
    {r : WaitResult} (hr : r.Safe request) : Recorded (s.afterWait t ctxt request r) := by
  cases r with
  | sleep owner => exact h.setThread t _
  | done e s' =>
      obtain ⟨h', hfree⟩ := hr
      cases request with
      | acquire c =>
          simp only [DbqState.afterWait]
          split
          · next he => exact h'.fillIbdesc t ctxt c (hfree he)
          · exact (h'.setLocked ctxt false).ret t e
      | release devHnd contextId =>
          simp only [DbqState.afterWait]
          split
          · exact h'.setThread t _
          · exact h'.ret t e

/-! ## Sending and retiring -/

theorem Recorded.markSent {s : DbqState} (h : Recorded s) (n : Option Nat) :
    Recorded (s.markSent n) := by
  have hfill : ∀ f ∈ (s.markSent n).lastFill, ∃ g ∈ s.lastFill,
      f.ctxt = g.ctxt ∧ f.timestamp = g.timestamp ∧ f.retired = g.retired := by
    intro f hf
    obtain ⟨g, hg, rfl⟩ := Option.mem_map.1 hf
    refine ⟨g, hg, ?_⟩
    split <;> exact ⟨rfl, rfl, rfl⟩
  refine ⟨h.notRewritten, h.notCleared, ?_, ?_, ?_⟩
  · intro f hf
    obtain ⟨g, hg, -, hts, -⟩ := hfill f hf
    exact (h.timestamp g hg).trans hts.symm
  · intro hfree f hf
    obtain ⟨g, hg, -, -, hretired⟩ := hfill f hf
    exact hretired.trans (h.free hfree g hg)
  · intro f hf hexp
    obtain ⟨g, hg, hctxt, hts, hretired⟩ := hfill f hf
    rw [hctxt, hts] at hexp
    exact hretired.trans (h.noticed g hg hexp)

theorem Recorded.sendMsg {s : DbqState} (h : Recorded s) (t ctxt : Nat) (c : IssueCall)
    (fill : Option Nat) : Recorded (s.sendMsg t ctxt c fill) := by
  refine Recorded.ret (Recorded.markSent ?_ fill) t 0
  refine h.congr rfl rfl rfl rfl ?_
  intro o
  by_cases ho : o = ctxt
  · simp only [ho, Function.update_self]
  · simp only [Function.update_of_ne ho]

/-- A retirement that reaches the timestamp of the last fill is noticed. -/
theorem Recorded.retire {s : DbqState} (h : Recorded s) (ctxt : Nat) (ts : BitVec 32)
    (rest : List (BitVec 32)) : Recorded (s.retire ctxt ts rest) := by
  refine ⟨h.notRewritten, h.notCleared, ?_, ?_, ?_⟩
  · intro f hf
    obtain ⟨g, hg, rfl⟩ := Option.mem_map.1 hf
    split <;> exact h.timestamp g hg
  · intro hfree f hf
    obtain ⟨g, hg, rfl⟩ := Option.mem_map.1 hf
    have hretired := h.free hfree g hg
    split
    · simp [hretired]
    · exact hretired
  · intro f hf hexp
    obtain ⟨g, hg, rfl⟩ := Option.mem_map.1 hf
    by_cases hctxt : g.ctxt = ctxt
    · simp only [if_pos hctxt] at hexp ⊢
      simp only [DbqState.retire, hctxt, Function.update_self] at hexp
      simp only [hexp, Bool.or_true]
    · simp only [if_neg hctxt] at hexp ⊢
      simp only [DbqState.retire, Function.update_of_ne hctxt] at hexp
      exact h.noticed g hg hexp

/-! ## Steps and runs -/

theorem Recorded.step {s s' : DbqState} {a : DbqAct} (h : Recorded s)
    (hstep : Trace.guarded judgesOwner step s a = some s') : Recorded s' := by
  obtain ⟨hjudges, hstep⟩ := Trace.guarded_eq_some.1 hstep
  cases a with
  | issue t ctxt a memory =>
      simp only [DbqState.step] at hstep
      split at hstep
      · split at hstep
        · cases hstep
        · have hseq : Recorded { s with seqNum := s.seqNum + 1#32 } :=
            h.congr rfl rfl rfl rfl fun _ => rfl
          split at hstep
          · obtain rfl := Option.some.inj hstep
            exact hseq.ret t _
          · obtain rfl := Option.some.inj hstep
            exact (hseq.setLocked ctxt true).setThread t _
      · cases hstep
  | acquire t =>
      simp only [DbqState.step] at hstep
      split at hstep
      · next ctxt c hthread =>
          obtain rfl := Option.some.inj hstep
          refine h.afterWait t ctxt (h.dbqWaitFreeIbdesc ctxt (.acquire c) ?_)
          intro owner hcheck hlookup
          simpa [judgesOwner, comparesWith, hthread, hcheck, hlookup] using hjudges
      · cases hstep
  | woken t w =>
      simp only [DbqState.step] at hstep
      split at hstep
      · next ctxt request owner hthread =>
          obtain rfl := Option.some.inj hstep
          refine h.afterWait t ctxt ?_
          cases w with
          | interrupted => exact .of_error h request (by decide)
          | timeUp => exact .of_error h request (by decide)
          | timeLeft =>
              refine h.waitTurn request ?_
              simpa [judgesOwner, comparesWith, hthread] using hjudges
      · cases hstep
  | send t ret =>
      simp only [DbqState.step] at hstep
      split at hstep
      · next ctxt c fill hthread =>
          split at hstep
          · obtain rfl := Option.some.inj hstep
            exact h.sendMsg t ctxt c fill
          · obtain rfl := Option.some.inj hstep
            exact (h.setLocked ctxt false).ret t ret
      · cases hstep
  | destroy t devHnd contextId =>
      simp only [DbqState.step] at hstep
      split at hstep
      · split at hstep
        · obtain rfl := Option.some.inj hstep
          exact h.ret t _
        · next ctxt hctxt =>
            obtain rfl := Option.some.inj hstep
            refine h.afterWait t ctxt (h.dbqWaitFreeIbdesc ctxt (.release devHnd contextId) ?_)
            intro owner hcheck hlookup
            simpa [judgesOwner, comparesWith, hctxt, hcheck, hlookup] using hjudges
      · cases hstep
  | remove t =>
      simp only [DbqState.step] at hstep
      split at hstep
      · split at hstep
        · obtain rfl := Option.some.inj hstep
          exact h.ret t _
        · obtain rfl := Option.some.inj hstep
          exact h.congr rfl rfl rfl rfl fun _ => rfl
      · cases hstep
  | gpuRetire ctxt =>
      simp only [DbqState.step] at hstep
      split at hstep
      · cases hstep
      · next ts rest hflight =>
          obtain rfl := Option.some.inj hstep
          exact h.retire ctxt ts rest

/-- In every run whose comparisons all look at the context that filled the buffer, the buffer is never
    rewritten and never declared free while the message of its last fill is sent and not retired. -/
theorem ibdesc_exclusive_of_judgesOwner (dwords ibdescMaxSize : Nat) (gmuaddr : BitVec 64)
    (contexts : DevHandle → Nat → Option Nat) (obj : Nat → DbqCtxt) (as : List DbqAct)
    (s : DbqState)
    (h : Trace.exec (Trace.guarded judgesOwner step)
      (start dwords ibdescMaxSize gmuaddr contexts obj) as = some s) :
    s.rewrote = false ∧ s.cleared = false := by
  have hrec : Recorded s := Trace.exec_invariant (fun _ _ _ h hstep => h.step hstep)
    (Recorded.start dwords ibdescMaxSize gmuaddr contexts obj) h
  exact ⟨hrec.notRewritten, hrec.notCleared⟩

/-- The contexts at 0, 2 and 3 are on the first device, with ids 5, 7 and 9; the one at 1 is on the
    second device and has id 5 as well. -/
def sharedQueue : DbqState :=
  start 64 2048 0x10000#64
    (fun
      | .dev0, 5 => some 0
      | .dev1, 5 => some 1
      | .dev0, 7 => some 2
      | .dev0, 9 => some 3
      | _, _ => none)
    (fun
      | 0 => ⟨.dev0, 5, 0x80#32, 0#32, some ⟨0#32, 0#32⟩, false, []⟩
      | 1 => ⟨.dev1, 5, 0x80#32, 0#32, some ⟨0#32, 0#32⟩, false, []⟩
      | 2 => ⟨.dev0, 7, 0x80#32, 0#32, some ⟨0#32, 0#32⟩, false, []⟩
      | _ => ⟨.dev0, 9, 0x80#32, 0#32, some ⟨0#32, 0#32⟩, false, []⟩)

/-- A submission of `n` equal descriptors. -/
def dbqSubmission (n : Nat) : IssueArgs where
  ibDescs := List.replicate n ⟨0x2000#64, 64#32⟩
  gmuCmdFlags := 0x20#32
  timestamp := 0#32
  updateQueuedTs := true

/-- Two contexts use the buffer one after the other, and the second one is destroyed. -/
def handoverRun : List DbqAct :=
  [.issue 0 0 (dbqSubmission 20) true, .acquire 0, .send 0 0,
    .issue 2 2 (dbqSubmission 20) true, .acquire 2, .gpuRetire 0, .woken 2 .timeLeft, .send 2 0,
    .destroy 4 .dev0 7, .woken 4 .timeUp, .destroy 4 .dev0 7, .gpuRetire 2, .woken 4 .timeLeft,
    .remove 4]

theorem ibdesc_exclusive_of_judgesOwner_handoverRun :
    ∃ s, Trace.exec (Trace.guarded judgesOwner step) sharedQueue handoverRun = some s ∧
      s.fills = 2 ∧ s.returned = [(0, 0), (2, 0), (4, -EAGAIN), (4, 0)] ∧
      s.rewrote = false ∧ s.cleared = false := by
  have heval : (Trace.exec (Trace.guarded judgesOwner step) sharedQueue handoverRun).map
      (fun s => (s.fills, s.returned)) = some (2, [(0, 0), (2, 0), (4, -EAGAIN), (4, 0)]) := by
    decide +kernel
  obtain ⟨s, hs, heq⟩ := Option.map_eq_some_iff.1 heval
  obtain ⟨hfills, hreturned⟩ := Prod.mk.inj heq
  exact ⟨s, hs, hfills, hreturned, ibdesc_exclusive_of_judgesOwner _ _ _ _ _ _ s hs⟩

/-- The buffer is taken from a message that is sent and not retired. In the first run its owner is on
    the second device, and a context of the first device with the same id has retired the timestamp. In
    the second run a waiter still compares with the context that it looked up before its sleep. -/
theorem ibdesc_taken_from_pending_message :
    (∃ s ∈ Trace.exec step sharedQueue
      [.issue 0 0 (dbqSubmission 1) true, .send 0 0, .gpuRetire 0,
        .issue 1 1 (dbqSubmission 20) true, .acquire 1, .send 1 0,
        .issue 2 2 (dbqSubmission 20) true, .acquire 2],
      s.rewrote = true ∧ s.cleared = true) ∧
    ∃ s ∈ Trace.exec step sharedQueue
      [.issue 0 0 (dbqSubmission 20) true, .acquire 0, .send 0 0,
        .issue 3 3 (dbqSubmission 20) true, .acquire 3,
        .issue 2 2 (dbqSubmission 20) true, .acquire 2, .gpuRetire 0, .woken 2 .timeLeft, .send 2 0,
        .woken 3 .timeLeft],
      s.rewrote = true ∧ s.cleared = true := by
  decide +kernel

end DbqState

end Hgsl
