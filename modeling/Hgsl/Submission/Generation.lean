import Hgsl.Submission.Numbering
import Hgsl.Doorbell.FailedSend
import Hgsl.DrawQueue.AllOrNothing

set_option autoImplicit false

/-! # The timestamps that submissions get

One path of one context at a time: a queue of its own, a shared doorbell queue, or the draw queue. On
each of them `queued_ts` changes only where a submission that takes a timestamp returns 0, and it changes
to that timestamp, which is what `hgsl_db_next_timestamp` makes of the old value. Everything about the
order of timestamps follows from that, on all three paths alike. -/

namespace Hgsl

/-! ## Flags -/

/-- `GSL_CONTEXT_FLAG_BIND` -/
def GSL_CONTEXT_FLAG_BIND : BitVec 32 := 0x00040000#32

/-- The flags that `hgsl_ioctl_ctxt_create` makes of the user's. -/
def ctxtCreateFlags (flags : BitVec 32) : BitVec 32 :=
  let flags :=
    if flags &&& GSL_CONTEXT_FLAG_CLIENT_GENERATED_TS ≠ 0#32 then
      flags ||| GSL_CONTEXT_FLAG_USER_GENERATED_TS
    else flags
  if flags &&& GSL_CONTEXT_FLAG_BIND ≠ 0#32 then
    flags &&& ~~~GSL_CONTEXT_FLAG_CLIENT_GENERATED_TS ||| GSL_CONTEXT_FLAG_USER_GENERATED_TS
  else flags

/-- The client numbers the submissions. -/
def ClientGenerated (flags : BitVec 32) : Prop := flags &&& GSL_CONTEXT_FLAG_CLIENT_GENERATED_TS ≠ 0#32

/-- A context with client-generated timestamps also has the other flag set: its timestamps are
    checked. -/
theorem timestampsOrdered_of_clientGenerated {flags : BitVec 32}
    (h : ClientGenerated (ctxtCreateFlags flags)) : TimestampsOrdered (ctxtCreateFlags flags) := by
  have hor : ∀ f : BitVec 32,
      (f ||| GSL_CONTEXT_FLAG_USER_GENERATED_TS) &&& GSL_CONTEXT_FLAG_USER_GENERATED_TS ≠ 0#32 := by
    intro f hf
    have hbit := congrArg (·.getLsbD 7) hf
    simp [GSL_CONTEXT_FLAG_USER_GENERATED_TS] at hbit
  unfold ClientGenerated at h
  unfold TimestampsOrdered
  by_cases hclient : flags &&& GSL_CONTEXT_FLAG_CLIENT_GENERATED_TS ≠ 0#32
  · simp only [ctxtCreateFlags, if_pos hclient]
    split
    · exact hor _
    · exact hor _
  · simp only [ctxtCreateFlags, if_neg hclient] at h ⊢
    split
    · exact hor _
    · next hbind =>
        rw [if_neg hbind] at h
        exact absurd h hclient

/-! ## The order -/

/-- `b` is strictly later than `a`: at or past it, and not the other way round. -/
def StrictlyLater (a b : BitVec 32) : Prop := hgslTs32Ge b a = true ∧ hgslTs32Ge a b = false

/-- `a` is not at or past `b`. At a distance of half the circle this holds both ways. -/
def NotReached (a b : BitVec 32) : Prop := hgslTs32Ge a b = false

instance (a b : BitVec 32) : Decidable (StrictlyLater a b) := inferInstanceAs (Decidable (_ ∧ _))

instance (a b : BitVec 32) : Decidable (NotReached a b) := inferInstanceAs (Decidable (_ = _))

/-- A submission that takes a timestamp succeeds: `queued_ts` is `q` before and `q'` after. -/
def Commits (flags q ts q' : BitVec 32) : Prop :=
  q' = ts ∧ ∃ timestamp, hgslDbNextTimestamp flags q timestamp = .ok ts

/-- What is promised of the timestamps `given` to the successful submissions, in their order, and of
    `queued_ts` behind them. -/
structure Generated (flags : BitVec 32) (given : List (BitVec 32)) (queuedTs : BitVec 32) : Prop where
  special : DriverGenerated flags → ∀ ts ∈ given, ts ≠ 0#32 ∧ ts ≠ BitVec.allOnes 32
  driver : DriverGenerated flags → (0#32 :: given).IsChain StrictlyLater
  client : ClientGenerated flags → (0#32 :: given).IsChain NotReached
  queued : queuedTs = given.getLastD 0#32

/-- The driver's next timestamp is no special value and strictly later, across the wrap as well. -/
theorem driver_next {flags q timestamp ts : BitVec 32} (hflags : DriverGenerated flags)
    (hq : q ≠ BitVec.allOnes 32) (h : hgslDbNextTimestamp flags q timestamp = .ok ts) :
    ts ≠ 0#32 ∧ ts ≠ BitVec.allOnes 32 ∧ StrictlyLater q ts := by
  unfold hgslDbNextTimestamp at h
  rw [if_neg hflags.1, if_neg (not_not_intro hflags.2)] at h
  obtain rfl := Except.ok.inj h
  split
  · next hmax =>
      -- the two special values are skipped
      have hlast : q = 0xFFFFFFFE#32 := by
        have heq : q = BitVec.allOnes 32 - 1#32 := by
          rw [← hmax, BitVec.add_sub_cancel]
        rw [heq]
        decide
      subst hlast
      decide
  · next hmax =>
      refine ⟨?_, hmax, ?_, ?_⟩
      · intro hzero
        refine hq ?_
        have heq : q = 0#32 - 1#32 := by rw [← hzero, BitVec.add_sub_cancel]
        rw [heq]
        decide
      · rw [hgslTs32Ge_iff, Serial.Ge, Serial.dist, BitVec.add_comm, BitVec.add_sub_cancel]
        decide
      · rw [hgslTs32Ge_eq_false_iff, Serial.dist, BitVec.toNat_sub, BitVec.toNat_add, BitVec.toNat_ofNat]
        omega

/-- A timestamp that the client may choose has not been reached. -/
theorem client_next {flags q timestamp ts : BitVec 32} (hordered : TimestampsOrdered flags)
    (hflags : ClientGenerated flags) (h : hgslDbNextTimestamp flags q timestamp = .ok ts) :
    NotReached q ts := by
  unfold hgslDbNextTimestamp at h
  rw [if_neg hordered, if_pos (show _ ≠ _ from hflags)] at h
  split at h
  · cases h
  · next hge =>
      obtain rfl := Except.ok.inj h
      exact Bool.eq_false_of_not_eq_true hge

/-- **Successive commits.** Whatever the path, timestamps that are committed one after the other, from
    `queued_ts` on, keep the promises. -/
theorem generated_of_successive {flags : BitVec 32} {given : List (BitVec 32)} {q q' : BitVec 32}
    (hordered : ClientGenerated flags → TimestampsOrdered flags)
    (h : Trace.Successive (Commits flags) q given q') (hq : DriverGenerated flags → q ≠ BitVec.allOnes 32) :
    (DriverGenerated flags → ∀ ts ∈ given, ts ≠ 0#32 ∧ ts ≠ BitVec.allOnes 32) ∧
      (DriverGenerated flags → (q :: given).IsChain StrictlyLater) ∧
      (ClientGenerated flags → (q :: given).IsChain NotReached) ∧ q' = given.getLastD q := by
  induction h with
  | nil q => simp
  | @cons q u v ts given hcommit hrest ih =>
      obtain ⟨rfl, timestamp, hnext⟩ := hcommit
      have hdriver : DriverGenerated flags → u ≠ 0#32 ∧ u ≠ BitVec.allOnes 32 ∧ StrictlyLater q u :=
        fun hflags => driver_next hflags (hq hflags) hnext
      obtain ⟨hspecial, hchain, hclient, hlast⟩ := ih fun hflags => (hdriver hflags).2.1
      refine ⟨?_, ?_, ?_, ?_⟩
      · intro hflags x hx
        rcases List.mem_cons.1 hx with rfl | hx
        · exact ⟨(hdriver hflags).1, (hdriver hflags).2.1⟩
        · exact hspecial hflags x hx
      · intro hflags
        exact List.isChain_cons_cons.2 ⟨(hdriver hflags).2.2, hchain hflags⟩
      · intro hflags
        exact List.isChain_cons_cons.2 ⟨client_next (hordered hflags) hflags hnext, hclient hflags⟩
      · rw [List.getLastD_cons]
        exact hlast

/-- From the creation of a context on. -/
theorem Generated.of_successive {flags : BitVec 32} {given : List (BitVec 32)} {q : BitVec 32}
    (h : Trace.Successive (Commits (ctxtCreateFlags flags)) 0#32 given q) :
    Generated (ctxtCreateFlags flags) given q := by
  obtain ⟨hspecial, hdriver, hclient, hqueued⟩ :=
    generated_of_successive timestampsOrdered_of_clientGenerated h fun _ => by decide
  exact ⟨hspecial, hdriver, hclient, hqueued⟩

/-! ## A run on one path -/

/-- What is promised of a run on one path: `accepted` is the timestamp that a step commits, `returnsZero`
    says that it ends a call with 0. A step that commits none, so every step of a call that returns an
    error, leaves `queued_ts` and with it the next timestamp alone. -/
structure PathGenerated {σ α : Type} (flags : BitVec 32) (step : σ → α → Option σ)
    (accepted : σ → α → Option (BitVec 32)) (returnsZero : σ → α → σ → Prop) (queuedTs : σ → BitVec 32)
    (s : σ) (as : List α) (s' : σ) : Prop where
  generated : Generated flags (Trace.outputs step accepted s as) (queuedTs s')
  succeeds : Trace.EveryStep step (fun t a t' => accepted t a ≠ none → returnsZero t a t') s as
  unspent : Trace.EveryStep step (fun t a t' => accepted t a = none → queuedTs t' = queuedTs t ∧
    ∀ ts, hgslDbNextTimestamp flags (queuedTs t') ts = hgslDbNextTimestamp flags (queuedTs t) ts) s as

/-- **Path rule.** It is enough to look at one step, with an invariant `P`. -/
theorem PathGenerated.of_steps {σ α : Type} {flags : BitVec 32} {step : σ → α → Option σ}
    {accepted : σ → α → Option (BitVec 32)} {returnsZero : σ → α → σ → Prop} {queuedTs : σ → BitVec 32}
    (P : σ → Prop) (hkeep : ∀ s a s', P s → step s a = some s' → P s')
    (hzero : ∀ s a s', step s a = some s' → accepted s a ≠ none → returnsZero s a s')
    (hsilent : ∀ s a s', P s → step s a = some s' → accepted s a = none → queuedTs s' = queuedTs s)
    (hcommits : ∀ s a s' ts, P s → step s a = some s' → accepted s a = some ts →
      Commits (ctxtCreateFlags flags) (queuedTs s) ts (queuedTs s'))
    {s s' : σ} {as : List α} (hs : P s) (hqueued : queuedTs s = 0#32) (hrun : Trace.exec step s as = some s') :
    PathGenerated (ctxtCreateFlags flags) step accepted returnsZero queuedTs s as s' where
  generated := by
    have hsuccessive := Trace.successive_outputs P queuedTs hkeep hsilent hcommits hs hrun
    rw [hqueued] at hsuccessive
    exact .of_successive hsuccessive
  succeeds := Trace.everyStep_of_forall fun a _ t t' hstep => hzero t a t' hstep
  unspent := by
    refine Trace.everyStep_of_invariant P hkeep ?_ hs
    intro t a t' ht hstep hnone
    have hsame := hsilent t a t' ht hstep hnone
    exact ⟨hsame, fun ts => by rw [hsame]⟩

/-! ## A queue of its own -/

namespace DbcqCtxt

variable {s s' : DbcqCtxt}

/-- The timestamp of the numbered submission that returns 0 in this step. -/
def accepted (s : DbcqCtxt) : DbcqAct → Option (BitVec 32)
  | .finish _ =>
    match s.phase with
    | .sent c => if c.args.updateQueuedTs then some c.cmds.timestamp else none
    | _ => none
  | _ => none

/-- The call in progress has the timestamp that follows `queued_ts`. -/
def Stamped (s : DbcqCtxt) : Prop :=
  ∀ c isSent, Numbering.callOf s.phase = some (c, isSent) → c.args.updateQueuedTs = true →
    hgslDbNextTimestamp s.flags s.queuedTs c.args.timestamp = .ok c.cmds.timestamp

theorem Stamped.of_callOf_none (h : Numbering.callOf s.phase = none) : Stamped s := by
  intro c isSent hcall
  rw [h] at hcall
  cases hcall

/-- The call goes on with its arguments and its timestamp. -/
theorem Stamped.keep (h : Stamped s) {c c' : IssueCall} {isSent isSent' : Bool}
    (hcall : Numbering.callOf s.phase = some (c, isSent))
    (hcall' : Numbering.callOf s'.phase = some (c', isSent')) (hflags : s'.flags = s.flags)
    (hqueued : s'.queuedTs = s.queuedTs) (hargs : c'.args = c.args)
    (hstamp : c'.cmds.timestamp = c.cmds.timestamp) : Stamped s' := by
  intro d isSent'' hd hupdate
  obtain ⟨rfl, rfl⟩ := Prod.mk.inj (Option.some.inj (hcall'.symm.trans hd))
  rw [hargs] at hupdate
  rw [hflags, hqueued, hargs, hstamp]
  exact h c isSent hcall hupdate

/-- What a step does to the numbering: nothing, or it commits what it accepts. -/
structure Numbered (s : DbcqCtxt) (a : DbcqAct) (s' : DbcqCtxt) : Prop where
  stamped : Stamped s'
  flags : s'.flags = s.flags
  silent : s.accepted a = none → s'.queuedTs = s.queuedTs
  commits : ∀ ts, s.accepted a = some ts → Commits s.flags s.queuedTs ts s'.queuedTs

theorem numbered_of_silent {a : DbcqAct} (hstamped : Stamped s') (hflags : s'.flags = s.flags)
    (hqueued : s'.queuedTs = s.queuedTs) (haccepted : s.accepted a = none) : Numbered s a s' where
  stamped := hstamped
  flags := hflags
  silent := fun _ => hqueued
  commits := by simp [haccepted]

theorem step_numbered {a : DbcqAct} (h : Stamped s) (hstep : s.step a = some s') : Numbered s a s' := by
  cases a with
  | issue a memory =>
      simp only [step] at hstep
      split at hstep
      · split at hstep
        · obtain rfl := Option.some.inj hstep
          exact numbered_of_silent (.of_callOf_none rfl) rfl rfl rfl
        · next c hc =>
            obtain rfl := Option.some.inj hstep
            obtain ⟨rfl, hnext⟩ := Numbering.hgslDbcqIssueCmd_ok hc
            refine numbered_of_silent ?_ rfl rfl rfl
            have hcall : Numbering.callOf (if c.isBatchIbdesc then .acquiring c else .built c) =
                some (c, false) := by split <;> rfl
            intro d isSent hd hupdate
            obtain ⟨rfl, rfl⟩ := Prod.mk.inj (Option.some.inj (hcall.symm.trans hd))
            exact hnext hupdate
      · cases hstep
  | acquire =>
      simp only [step] at hstep
      split at hstep
      · next c hphase =>
          have hcall : Numbering.callOf s.phase = some (c, false) := by rw [hphase]; rfl
          split at hstep
          · next r hr =>
              obtain rfl := Option.some.inj hstep
              rw [dbcqGetFreeIndirectIbBuffer_eq hr]
              exact numbered_of_silent (h.keep hcall rfl rfl rfl rfl rfl) rfl rfl rfl
          · obtain rfl := Option.some.inj hstep
            exact numbered_of_silent (h.keep hcall rfl rfl rfl rfl rfl) rfl rfl rfl
      · cases hstep
  | waited ret =>
      obtain ⟨c, hphase, hcases⟩ := waited_cases hstep
      have hcall : Numbering.callOf s.phase = some (c, false) := by rw [hphase]; rfl
      rcases hcases with ⟨-, rfl⟩ | ⟨-, e, rfl⟩
      · exact numbered_of_silent (h.keep hcall rfl rfl rfl rfl rfl) rfl rfl rfl
      · exact numbered_of_silent (.of_callOf_none rfl) rfl rfl rfl
  | fill =>
      simp only [step] at hstep
      split at hstep
      · next c hphase =>
          have hcall : Numbering.callOf s.phase = some (c, false) := by rw [hphase]; rfl
          obtain rfl := Option.some.inj hstep
          exact numbered_of_silent (h.keep hcall rfl rfl rfl rfl rfl) rfl rfl rfl
      · cases hstep
  | send ret =>
      simp only [step] at hstep
      split at hstep
      · next c hphase =>
          have hcall : Numbering.callOf s.phase = some (c, false) := by rw [hphase]; rfl
          split at hstep
          · obtain rfl := Option.some.inj hstep
            exact numbered_of_silent (h.keep hcall rfl rfl rfl rfl rfl) rfl rfl rfl
          · obtain rfl := Option.some.inj hstep
            exact numbered_of_silent (.of_callOf_none rfl) rfl rfl rfl
      · cases hstep
  | finish wait =>
      simp only [step] at hstep
      split at hstep
      · next c hphase =>
          obtain rfl := Option.some.inj hstep
          obtain ⟨hflags, hqueued, hidle⟩ := Numbering.finishIssue_eq s c wait
          refine ⟨.of_callOf_none (by rw [hidle]; rfl), hflags, ?_, ?_⟩
          · intro hnone
            have hupdate : c.args.updateQueuedTs = false := by simpa [accepted, hphase] using hnone
            rw [hqueued, hupdate]
            rfl
          · intro ts hsome
            obtain ⟨hupdate, rfl⟩ : c.args.updateQueuedTs = true ∧ c.cmds.timestamp = ts := by
              simpa [accepted, hphase] using hsome
            refine ⟨by rw [hqueued, if_pos hupdate], c.args.timestamp, ?_⟩
            exact h c true (by rw [hphase]; rfl) hupdate
      · cases hstep
  | gpuRetire =>
      simp only [step, gpuRetire] at hstep
      split at hstep
      · cases hstep
      · obtain rfl := Option.some.inj hstep
        exact numbered_of_silent h rfl rfl rfl
  | setInDestroy =>
      obtain rfl := Option.some.inj hstep
      exact numbered_of_silent h rfl rfl rfl

/-- The call that commits a timestamp returns 0. -/
theorem accepted_returned {a : DbcqAct} (hstep : s.step a = some s') (h : s.accepted a ≠ none) :
    s'.returned = s.returned ++ [0] := by
  cases a with
  | finish wait =>
      simp only [step] at hstep
      split at hstep
      · next c _ =>
          obtain rfl := Option.some.inj hstep
          have hpoll := pollIndirectIbBuffer_cases
            (if c.args.updateQueuedTs then { s with queuedTs := c.cmds.timestamp } else s) wait
          simp only [finishIssue, ret]
          split_ifs
          · rfl
          · rfl
          all_goals rcases hpoll with hpoll | hpoll <;> simp_all
      · cases hstep
  | _ => exact absurd rfl h

end DbcqCtxt

/-! ## A shared queue -/

namespace DbqState

variable {s s' : DbqState} {x t : Nat}

/-- The call that a thread has in progress on the context at `x`. -/
def callOn (x : Nat) : DbqThread → Option IssueCall
  | .issuing ctxt c => if ctxt = x then some c else none
  | .asleep ctxt (.acquire c) _ => if ctxt = x then some c else none
  | .built ctxt c _ => if ctxt = x then some c else none
  | _ => none

@[simp] theorem callOn_idle : callOn x .idle = none := rfl

@[simp] theorem callOn_removing (devHnd : DevHandle) (contextId : Nat) :
    callOn x (.removing devHnd contextId) = none := rfl

@[simp] theorem callOn_issuing (ctxt : Nat) (c : IssueCall) :
    callOn x (.issuing ctxt c) = if ctxt = x then some c else none := rfl

@[simp] theorem callOn_built (ctxt : Nat) (c : IssueCall) (fill : Option Nat) :
    callOn x (.built ctxt c fill) = if ctxt = x then some c else none := rfl

/-- The timestamp of the numbered submission on the context at `x` that returns 0 in this step. -/
def accepted (x : Nat) (s : DbqState) : DbqAct → Option (BitVec 32)
  | .send t ret =>
    match s.thread t with
    | .built ctxt c _ =>
      if ctxt = x ∧ ret = 0 ∧ c.args.updateQueuedTs = true then some c.cmds.timestamp else none
    | _ => none
  | _ => none

/-- At most one call is in progress on the context at `x`, which holds its lock and has the timestamp
    that follows `queued_ts`. -/
structure OneCall (x : Nat) (s : DbqState) : Prop where
  locked : ∀ t c, callOn x (s.thread t) = some c → (s.obj x).locked = true
  one : ∀ t t' c c', callOn x (s.thread t) = some c → callOn x (s.thread t') = some c' → t = t'
  stamped : ∀ t c, callOn x (s.thread t) = some c → c.args.updateQueuedTs = true →
    hgslDbNextTimestamp (s.obj x).flags (s.obj x).queuedTs c.args.timestamp = .ok c.cmds.timestamp

/-- The context at `x` has the same numbering, and its lock is in the same state. -/
structure SameNumbers (x : Nat) (s s' : DbqState) : Prop where
  flags : (s'.obj x).flags = (s.obj x).flags
  queuedTs : (s'.obj x).queuedTs = (s.obj x).queuedTs
  locked : (s'.obj x).locked = (s.obj x).locked

/-- What a call keeps until it ends. -/
def stampOf (c : IssueCall) : IssueArgs × BitVec 32 := (c.args, c.cmds.timestamp)

/-- Thread `t` moves on, with the call that it had or without one. -/
theorem OneCall.keep (h : OneCall x s) (hobj : SameNumbers x s s')
    (hframe : ∀ t' ≠ t, s'.thread t' = s.thread t')
    (hsame : (callOn x (s'.thread t)).map stampOf = (callOn x (s.thread t)).map stampOf) : OneCall x s' := by
  have hold : ∀ t' c', callOn x (s'.thread t') = some c' →
      ∃ c, callOn x (s.thread t') = some c ∧ stampOf c = stampOf c' := by
    intro t' c' hc'
    by_cases ht : t' = t
    · subst ht
      rw [hc', Option.map_some, eq_comm, Option.map_eq_some_iff] at hsame
      exact hsame
    · rw [hframe t' ht] at hc'
      exact ⟨c', hc', rfl⟩
  constructor
  · intro t' c' hc'
    obtain ⟨c, hc, -⟩ := hold t' c' hc'
    rw [hobj.locked]
    exact h.locked t' c hc
  · intro t₁ t₂ c₁ c₂ h₁ h₂
    obtain ⟨d₁, hd₁, -⟩ := hold t₁ c₁ h₁
    obtain ⟨d₂, hd₂, -⟩ := hold t₂ c₂ h₂
    exact h.one t₁ t₂ d₁ d₂ hd₁ hd₂
  · intro t' c' hc' hupdate
    obtain ⟨c, hc, hstamp⟩ := hold t' c' hc'
    obtain ⟨hargs, hts⟩ := Prod.mk.inj hstamp
    rw [← hargs] at hupdate
    rw [hobj.flags, hobj.queuedTs, ← hargs, ← hts]
    exact h.stamped t' c hc hupdate

/-- Nobody has a call in progress on the context. -/
theorem OneCall.of_none (h : ∀ t, callOn x (s.thread t) = none) : OneCall x s := by
  constructor <;> simp [h]

/-- The one call on the context ends. -/
theorem OneCall.none_of_leave (h : OneCall x s) {c : IssueCall} (hcall : callOn x (s.thread t) = some c)
    (hframe : ∀ t' ≠ t, s'.thread t' = s.thread t') (hidle : callOn x (s'.thread t) = none) (t' : Nat) :
    callOn x (s'.thread t') = none := by
  by_cases ht : t' = t
  · rw [ht, hidle]
  · rw [hframe t' ht]
    cases hc' : callOn x (s.thread t') with
    | none => rfl
    | some c' => exact absurd (h.one t' t c' c hc' hcall) ht

/-- A call starts on a context whose lock is free. -/
theorem OneCall.enter (h : OneCall x s) {c : IssueCall} (hfree : (s.obj x).locked = false)
    (hframe : ∀ t' ≠ t, s'.thread t' = s.thread t') (hlocked : (s'.obj x).locked = true)
    (hcall : callOn x (s'.thread t) = some c) (hstamped : c.args.updateQueuedTs = true →
      hgslDbNextTimestamp (s'.obj x).flags (s'.obj x).queuedTs c.args.timestamp = .ok c.cmds.timestamp) :
    OneCall x s' := by
  have honly : ∀ t' d, callOn x (s'.thread t') = some d → t' = t := by
    intro t' d hd
    by_contra ht
    rw [hframe t' ht] at hd
    have hlock := h.locked t' d hd
    simp [hfree] at hlock
  refine ⟨fun _ _ _ => hlocked, ?_, ?_⟩
  · intro t₁ t₂ c₁ c₂ h₁ h₂
    rw [honly t₁ c₁ h₁, honly t₂ c₂ h₂]
  · intro t' d hd
    rw [honly t' d hd, hcall] at hd
    obtain rfl := Option.some.inj hd
    exact hstamped

/-- What a step does to the numbering of the context at `x`: nothing, or it commits what it accepts. -/
structure Numbered (x : Nat) (s : DbqState) (a : DbqAct) (s' : DbqState) : Prop where
  oneCall : OneCall x s'
  flags : (s'.obj x).flags = (s.obj x).flags
  silent : s.accepted x a = none → (s'.obj x).queuedTs = (s.obj x).queuedTs
  commits : ∀ ts, s.accepted x a = some ts → Commits (s.obj x).flags (s.obj x).queuedTs ts (s'.obj x).queuedTs

/-- What a call has made of its arguments when it needs the buffer or is complete. -/
theorem hgslDbIssueCmd_ok {ctxt : Nat} {a : IssueArgs} {memory : Bool} {c : IssueCall}
    (h : s.hgslDbIssueCmd ctxt a memory = .ok c) :
    c.args = a ∧ (a.updateQueuedTs = true →
      hgslDbNextTimestamp (s.obj ctxt).flags (s.obj ctxt).queuedTs a.timestamp = .ok c.cmds.timestamp) := by
  have hts := (hgslDbIssueCmd_timestamp h).1
  refine ⟨?_, fun hupdate => by simpa [issueTimestamp, hupdate] using hts⟩
  unfold hgslDbIssueCmd at h
  dsimp only at h
  split at h
  · cases h
  split at h
  · cases h
  split at h
  · cases h
  split at h
  · cases h
  split at h
  · cases h
  · obtain rfl := Except.ok.inj h
    rfl

theorem sameNumbers_setLocked {ctxt : Nat} (h : ctxt ≠ x) (locked : Bool) :
    SameNumbers x s (s.setLocked ctxt locked) := by
  constructor <;> simp [setLocked, Function.update_of_ne h.symm]

/-- What a step of thread `t` does to the call on the context at `x`. -/
inductive CallStep (x t : Nat) (s : DbqState) (a : DbqAct) (s' : DbqState) : Prop
  /-- it goes on, or there is none of this thread -/
  | same (hobj : SameNumbers x s s')
      (hsame : (callOn x (s'.thread t)).map stampOf = (callOn x (s.thread t)).map stampOf)
      (haccepted : s.accepted x a = none)
  /-- it takes the lock, and has its timestamp -/
  | starts (c : IssueCall) (hfree : (s.obj x).locked = false) (hlocked : (s'.obj x).locked = true)
      (hflags : (s'.obj x).flags = (s.obj x).flags) (hqueued : (s'.obj x).queuedTs = (s.obj x).queuedTs)
      (hcall : callOn x (s'.thread t) = some c) (hnext : c.args.updateQueuedTs = true →
        hgslDbNextTimestamp (s.obj x).flags (s.obj x).queuedTs c.args.timestamp = .ok c.cmds.timestamp)
      (haccepted : s.accepted x a = none)
  /-- it gives up -/
  | fails (c : IssueCall) (hcall : callOn x (s.thread t) = some c) (hidle : callOn x (s'.thread t) = none)
      (hflags : (s'.obj x).flags = (s.obj x).flags) (hqueued : (s'.obj x).queuedTs = (s.obj x).queuedTs)
      (haccepted : s.accepted x a = none)
  /-- its message is sent, and it returns 0 -/
  | stores (c : IssueCall) (hcall : callOn x (s.thread t) = some c) (hidle : callOn x (s'.thread t) = none)
      (hflags : (s'.obj x).flags = (s.obj x).flags)
      (hqueued : (s'.obj x).queuedTs = if c.args.updateQueuedTs then c.cmds.timestamp else (s.obj x).queuedTs)
      (haccepted : s.accepted x a = if c.args.updateQueuedTs then some c.cmds.timestamp else none)

/-- The result of the wait: the thread sleeps, goes on or gives up. -/
theorem callStep_afterWait {a : DbqAct} (haccepted : s.accepted x a = none) (t ctxt : Nat)
    (request : IbdescRequest) {w : WaitResult} (hplain : WaitResult.Plain s w)
    (hcall : ∀ owner, callOn x (s.thread t) = callOn x (.asleep ctxt request owner)) :
    CallStep x t s a (s.afterWait t ctxt request w) := by
  cases w with
  | sleep owner => exact .same ⟨rfl, rfl, rfl⟩ (by simp [DbqState.afterWait, hcall owner]) haccepted
  | done r s₁ =>
      have hobj : s₁.obj = s.obj := by
        rcases hplain with rfl | ⟨-, rfl⟩ <;> rfl
      have hnumbers : SameNumbers x s s₁ := by constructor <;> rw [hobj]
      cases request with
      | release devHnd contextId =>
          have hnone : callOn x (s.thread t) = none := hcall 0
          simp only [DbqState.afterWait]
          split
          · exact .same ⟨hnumbers.flags, hnumbers.queuedTs, hnumbers.locked⟩ (by simp [hnone]) haccepted
          · exact .same ⟨hnumbers.flags, hnumbers.queuedTs, hnumbers.locked⟩ (by simp [hnone]) haccepted
      | acquire c =>
          replace hcall : callOn x (s.thread t) = if ctxt = x then some c else none := hcall 0
          simp only [DbqState.afterWait]
          by_cases hr : r = 0
          · have hthread : (s₁.fillIbdesc t ctxt c).thread t = .built ctxt
                { c with cmds := c.cmds.indirect ((s₁.gmuaddr + ibdescBaseOffset).setWidth 32) }
                (some s₁.fills) := Function.update_self _ _ _
            rw [if_pos hr]
            refine .same ⟨hnumbers.flags, hnumbers.queuedTs, hnumbers.locked⟩ ?_ haccepted
            rw [hthread, hcall, callOn_built]
            split <;> rfl
          · rw [if_neg hr]
            by_cases hx : ctxt = x
            · subst hx
              rw [if_pos rfl] at hcall
              refine .fails c hcall (by simp) ?_ ?_ haccepted
              · simp [DbqState.ret, DbqState.setThread, setLocked, hobj]
              · simp [DbqState.ret, DbqState.setThread, setLocked, hobj]
            · have hset := sameNumbers_setLocked (s := s₁) hx false
              refine .same ⟨hset.flags.trans hnumbers.flags, hset.queuedTs.trans hnumbers.queuedTs,
                hset.locked.trans hnumbers.locked⟩ ?_ haccepted
              simp [hcall, hx]

/-- **One step.** -/
theorem step_callStep {a : DbqAct} (hstep : s.step a = some s') :
    ∃ t, (∀ t' ≠ t, s'.thread t' = s.thread t') ∧ CallStep x t s a s' := by
  have hframe : ∀ t, a.thread = some t → ∀ t' ≠ t, s'.thread t' = s.thread t' := by
    intro t ht
    refine (step_movesOnly hstep ?_).thread
    intro t' ht'
    exact Option.some.inj (ht'.symm.trans ht)
  cases a with
  | issue t ctxt a memory =>
      refine ⟨t, hframe t rfl, ?_⟩
      simp only [step] at hstep
      split at hstep
      · next hthread =>
          split at hstep
          · cases hstep
          · next hunlocked =>
              split at hstep
              · obtain rfl := Option.some.inj hstep
                exact .same ⟨rfl, rfl, rfl⟩ (by simp [hthread]) rfl
              · next c hc =>
                  obtain rfl := Option.some.inj hstep
                  obtain ⟨rfl, hnext⟩ := hgslDbIssueCmd_ok hc
                  by_cases hx : ctxt = x
                  · subst hx
                    refine .starts c (Bool.eq_false_of_not_eq_true hunlocked) ?_ ?_ ?_ ?_ hnext rfl
                    · simp [DbqState.setThread, setLocked]
                    · simp [DbqState.setThread, setLocked]
                    · simp [DbqState.setThread, setLocked]
                    · simp only [setThread_thread]
                      split <;> simp
                  · have hset := sameNumbers_setLocked (s := { s with seqNum := s.seqNum + 1#32 }) hx true
                    refine .same ⟨hset.flags, hset.queuedTs, hset.locked⟩ ?_ rfl
                    simp only [setThread_thread, hthread]
                    split <;> simp [hx]
      · cases hstep
  | acquire t =>
      refine ⟨t, hframe t rfl, ?_⟩
      simp only [step] at hstep
      split at hstep
      · next ctxt c hthread =>
          obtain rfl := Option.some.inj hstep
          exact callStep_afterWait rfl t ctxt (.acquire c) (dbqWaitFreeIbdesc_plain s ctxt (.acquire c))
            (fun _ => by rw [hthread]; rfl)
      · cases hstep
  | woken t wake =>
      refine ⟨t, hframe t rfl, ?_⟩
      simp only [step] at hstep
      split at hstep
      · next ctxt request owner hthread =>
          obtain rfl := Option.some.inj hstep
          exact callStep_afterWait rfl t ctxt request (dbqWaitFreeIbdescWoken_plain s owner wake)
            (fun _ => by rw [hthread]; cases request <;> rfl)
      · cases hstep
  | send t ret =>
      refine ⟨t, hframe t rfl, ?_⟩
      simp only [step] at hstep
      split at hstep
      · next ctxt c fill hthread =>
          have hcall : callOn x (s.thread t) = if ctxt = x then some c else none := by rw [hthread]; rfl
          by_cases hx : ctxt = x
          · subst hx
            rw [if_pos rfl] at hcall
            by_cases hret : ret = 0
            · rw [if_pos hret] at hstep
              obtain rfl := Option.some.inj hstep
              have hobj : (s.sendMsg t ctxt c fill).obj ctxt = { s.obj ctxt with
                  inFlight := (s.obj ctxt).inFlight ++ [c.cmds.timestamp]
                  queuedTs := if c.args.updateQueuedTs then c.cmds.timestamp else (s.obj ctxt).queuedTs
                  locked := false } := Function.update_self _ _ _
              exact .stores c hcall (by simp [sendMsg]) (by rw [hobj]) (by rw [hobj])
                (by simp [accepted, hthread, hret])
            · rw [if_neg hret] at hstep
              obtain rfl := Option.some.inj hstep
              refine .fails c hcall (by simp) ?_ ?_ ?_
              · simp [DbqState.ret, DbqState.setThread, setLocked]
              · simp [DbqState.ret, DbqState.setThread, setLocked]
              · simp [accepted, hthread, hret]
          · -- a call on another context
            have hnone : s.accepted x (.send t ret) = none := by simp [accepted, hthread, hx]
            rw [if_neg hx] at hcall
            split at hstep
            · obtain rfl := Option.some.inj hstep
              have hobj : (s.sendMsg t ctxt c fill).obj x = s.obj x :=
                Function.update_of_ne (Ne.symm hx) _ _
              refine .same ?_ (by simp [sendMsg, hcall]) hnone
              constructor <;> rw [hobj]
            · obtain rfl := Option.some.inj hstep
              have hset := sameNumbers_setLocked (s := s) hx false
              exact .same ⟨hset.flags, hset.queuedTs, hset.locked⟩ (by simp [hcall]) hnone
      · cases hstep
  | destroy t devHnd contextId =>
      refine ⟨t, hframe t rfl, ?_⟩
      simp only [step] at hstep
      split at hstep
      · next hthread =>
          split at hstep
          · obtain rfl := Option.some.inj hstep
            exact .same ⟨rfl, rfl, rfl⟩ (by simp [hthread]) rfl
          · next ctxt _ =>
              obtain rfl := Option.some.inj hstep
              exact callStep_afterWait rfl t ctxt (.release devHnd contextId)
                (dbqWaitFreeIbdesc_plain s ctxt (.release devHnd contextId)) (fun _ => by rw [hthread]; rfl)
      · cases hstep
  | remove t =>
      refine ⟨t, hframe t rfl, ?_⟩
      simp only [step] at hstep
      split at hstep
      · next hthread =>
          split at hstep
          · obtain rfl := Option.some.inj hstep
            exact .same ⟨rfl, rfl, rfl⟩ (by simp [hthread]) rfl
          · obtain rfl := Option.some.inj hstep
            exact .same ⟨rfl, rfl, rfl⟩ (by simp [hthread]) rfl
      · cases hstep
  | gpuRetire ctxt =>
      simp only [step] at hstep
      split at hstep
      · cases hstep
      · next ts rest _ =>
          obtain rfl := Option.some.inj hstep
          have hsame : SameNumbers x s (s.retire ctxt ts rest) := by
            by_cases hx : ctxt = x
            · subst hx
              constructor <;> simp [retire]
            · constructor <;> simp [retire, Function.update_of_ne (Ne.symm hx)]
          exact ⟨0, fun _ _ => rfl, .same hsame rfl rfl⟩

theorem step_numbered {a : DbqAct} (h : OneCall x s) (hstep : s.step a = some s') : Numbered x s a s' := by
  obtain ⟨t, hframe, hcase⟩ := step_callStep (x := x) hstep
  cases hcase with
  | same hobj hsame haccepted =>
      exact ⟨h.keep hobj hframe hsame, hobj.flags, fun _ => hobj.queuedTs, by simp [haccepted]⟩
  | starts c hfree hlocked hflags hqueued hcall hnext haccepted =>
      refine ⟨h.enter hfree hframe hlocked hcall ?_, hflags, fun _ => hqueued, by simp [haccepted]⟩
      rwa [hflags, hqueued]
  | fails c hcall hidle hflags hqueued haccepted =>
      exact ⟨.of_none (h.none_of_leave hcall hframe hidle), hflags, fun _ => hqueued, by simp [haccepted]⟩
  | stores c hcall hidle hflags hqueued haccepted =>
      refine ⟨.of_none (h.none_of_leave hcall hframe hidle), hflags, ?_, ?_⟩
      · intro hnone
        have hupdate : c.args.updateQueuedTs = false := by simpa [haccepted] using hnone
        simpa [hupdate] using hqueued
      · intro ts hsome
        obtain ⟨hupdate, rfl⟩ : c.args.updateQueuedTs = true ∧ c.cmds.timestamp = ts := by
          simpa [haccepted] using hsome
        exact ⟨by simpa [hupdate] using hqueued, c.args.timestamp, h.stamped t c hcall hupdate⟩

/-! ### The numbering of a context -/

/-- `call` is in progress on the context at `x`, or none is. -/
def CallAt (x : Nat) (s : DbqState) : Option IssueCall → Prop
  | none => ∀ t, callOn x (s.thread t) = none
  | some c => ∃ t, callOn x (s.thread t) = some c

/-- The numbering of the context at `x`, on which `call` is in progress. -/
def numberingOf (x : Nat) (s : DbqState) (call : Option IssueCall) (given : List (BitVec 32)) : Numbering :=
  Numbering.ofCall (s.obj x).flags (s.obj x).queuedTs (call.map fun c => (c, false)) given

/-- A call that goes on is the same submission. -/
theorem numberingOf_eq (hobj : SameNumbers x s s') {call call' : Option IssueCall}
    (hsame : call'.map stampOf = call.map stampOf) (given : List (BitVec 32)) :
    numberingOf x s' call' given = numberingOf x s call given := by
  have hdirect : ∀ call : Option IssueCall,
      ((call.map fun c => (c, false)).bind fun r => Numbering.numberedOf (s.obj x).queuedTs r.1 r.2) =
        (call.map stampOf).bind fun p =>
          if p.1.updateQueuedTs then some (⟨(s.obj x).queuedTs, p.2⟩, false) else none := by
    intro call
    cases call <;> rfl
  simp only [numberingOf, Numbering.ofCall, hobj.flags, hobj.queuedTs, hdirect, hsame]

theorem CallAt.same {call : Option IssueCall} (h : CallAt x s call)
    (hframe : ∀ t' ≠ t, s'.thread t' = s.thread t')
    (hsame : (callOn x (s'.thread t)).map stampOf = (callOn x (s.thread t)).map stampOf) :
    ∃ call', CallAt x s' call' ∧ call'.map stampOf = call.map stampOf := by
  cases call with
  | none =>
      refine ⟨none, ?_, rfl⟩
      intro t'
      by_cases ht : t' = t
      · subst ht
        rw [h t', Option.map_none, Option.map_eq_none_iff] at hsame
        exact hsame
      · rw [hframe t' ht]
        exact h t'
  | some c =>
      obtain ⟨t', hc⟩ := h
      by_cases ht : t' = t
      · subst ht
        rw [hc, Option.map_some, Option.map_eq_some_iff] at hsame
        obtain ⟨c', hc', hstamp⟩ := hsame
        exact ⟨some c', ⟨t', hc'⟩, by simp [hstamp]⟩
      · exact ⟨some c, ⟨t', by rw [hframe t' ht, hc]⟩, rfl⟩

theorem CallAt.eq_none {call : Option IssueCall} (h : CallAt x s call) (hone : OneCall x s)
    (hfree : (s.obj x).locked = false) : call = none := by
  cases call with
  | none => rfl
  | some c =>
      obtain ⟨t, hc⟩ := h
      have hlocked := hone.locked t c hc
      simp [hfree] at hlocked

theorem CallAt.eq_some {call : Option IssueCall} (h : CallAt x s call) (hone : OneCall x s) {c : IssueCall}
    (hcall : callOn x (s.thread t) = some c) : call = some c := by
  cases call with
  | none => simp [h t] at hcall
  | some d =>
      obtain ⟨t', hd⟩ := h
      rw [hone.one t' t d c hd hcall, hcall] at hd
      exact hd.symm

/-- **Every step of a shared queue is, on each context, a run of the numbering**, which hands out the timestamp that
    the step accepts. -/
theorem dbq_step_numbers {a : DbqAct} (h : OneCall x s) (hstep : s.step a = some s') {call : Option IssueCall}
    (hcall : CallAt x s call) (given : List (BitVec 32)) :
    ∃ as call', CallAt x s' call' ∧ Trace.exec Numbering.step (numberingOf x s call given) as =
      some (numberingOf x s' call' (given ++ (s.accepted x a).toList)) := by
  obtain ⟨t, hframe, hcase⟩ := step_callStep (x := x) hstep
  cases hcase with
  | same hobj hsame haccepted =>
      obtain ⟨call', hcall', hstamp⟩ := hcall.same hframe hsame
      exact ⟨[], call', hcall', by simp [haccepted, numberingOf_eq hobj hstamp]⟩
  | starts c hfree hlocked hflags hqueued hc hnext haccepted =>
      obtain rfl := hcall.eq_none h hfree
      obtain ⟨as, has⟩ := Numbering.call_starts _ _ c given hnext
      exact ⟨as, some c, ⟨t, hc⟩, by simpa [numberingOf, haccepted, hflags, hqueued] using has⟩
  | fails c hc hidle hflags hqueued haccepted =>
      obtain rfl := hcall.eq_some h hc
      obtain ⟨as, has⟩ := Numbering.call_fails (s.obj x).flags (s.obj x).queuedTs c given
      exact ⟨as, none, h.none_of_leave hc hframe hidle,
        by simpa [numberingOf, haccepted, hflags, hqueued] using has⟩
  | stores c hc hidle hflags hqueued haccepted =>
      obtain rfl := hcall.eq_some h hc
      obtain ⟨as, has⟩ := Numbering.call_sends (s.obj x).flags (s.obj x).queuedTs c given
      obtain ⟨bs, hbs⟩ := Numbering.call_stores (s.obj x).flags (s.obj x).queuedTs c given
      have hgiven : (s.accepted x a).toList = if c.args.updateQueuedTs then [c.cmds.timestamp] else [] := by
        rw [haccepted]
        split <;> rfl
      refine ⟨as ++ bs, none, h.none_of_leave hc hframe hidle, ?_⟩
      rw [Trace.exec_append, numberingOf, Option.map_some, has, Option.bind_some, hbs, hgiven, numberingOf, hflags,
        hqueued]
      rfl

/-- In a run of a shared queue, the submissions on a context are numbered by a run of the numbering. -/
theorem dbq_run_numbers {as : List DbqAct} (h : OneCall x s) {call : Option IssueCall} (hcall : CallAt x s call)
    (given : List (BitVec 32)) (hrun : Trace.exec step s as = some s') :
    ∃ bs call', CallAt x s' call' ∧ Trace.exec Numbering.step (numberingOf x s call given) bs =
      some (numberingOf x s' call' (given ++ Trace.outputs step (accepted x) s as)) := by
  induction as generalizing s call given with
  | nil =>
      obtain rfl := Option.some.inj hrun
      exact ⟨[], call, hcall, by simp [Trace.outputs]⟩
  | cons a as ih =>
      obtain ⟨s₁, hstep, hrest⟩ := Trace.exec_cons_eq_some.1 hrun
      obtain ⟨bs, call₁, hcall₁, hbs⟩ := dbq_step_numbers h hstep hcall given
      obtain ⟨cs, call', hcall', hcs⟩ := ih (step_numbered h hstep).oneCall hcall₁ _ hrest
      refine ⟨bs ++ cs, call', hcall', ?_⟩
      rw [Trace.exec_append, hbs, Option.bind_some, hcs]
      simp [Trace.outputs, hstep]

/-- The call that commits a timestamp returns 0. -/
theorem accepted_returned {a : DbqAct} (hstep : s.step a = some s') (h : s.accepted x a ≠ none) :
    ∃ t, s'.returned = s.returned ++ [(t, 0)] := by
  cases a with
  | send t ret =>
      simp only [step] at hstep
      split at hstep
      · next ctxt c fill hthread =>
          have hret : ret = 0 := by
            by_contra hne
            exact h (by simp [accepted, hthread, hne])
          rw [if_pos hret] at hstep
          obtain rfl := Option.some.inj hstep
          exact ⟨t, rfl⟩
      · cases hstep
  | _ => exact absurd rfl h

end DbqState

/-! ## The draw queue -/

/-- The types behind an optional object of type `t`. -/
def behind (t : DrawobjType) (types : List DrawobjType) : List DrawobjType :=
  if types.head? = some t then types.tail else types

/-- The types that the objects of one submission have: an optional sync object, an optional timeline
    object, an optional command or marker, at least one of them. -/
def builtTypes (types : List DrawobjType) : Bool :=
  !types.isEmpty && [[], [.cmd], [.marker]].contains (behind .timeline (behind .sync types))

/-- What is submitted is built by the ioctls. -/
def QueueAct.fromIoctl : QueueAct → Bool
  | .queueCmds ds _ => builtTypes (ds.map (·.type))
  | _ => true

namespace QueueState

variable {s s' b : QueueState} {objs : List Nat}

/-- The timestamp of a submission that takes one and has returned `ret` and `*timestamp`. -/
def acceptedOf (s : QueueState) (objs : List Nat) (ret : Option Int) (timestamp : BitVec 32) :
    Option (BitVec 32) :=
  if ret = some 0 ∧ objs.any (fun o => (s.obj o).isStamped) then some timestamp else none

/-- The timestamp of the submission with a command or marker that returns 0 in this step. -/
def accepted (s : QueueState) : QueueAct → Option (BitVec 32)
  | .queueCmds ds timestamp =>
    let b := s.alloc ds
    let r := b.2.queueCmds b.1 timestamp
    acceptedOf b.2 b.1 r.1 r.2.1
  | .relock k =>
    match s.sleepers[k]? with
    | none => none
    | some sl =>
      match sl.wake with
      | none => none
      | some ret =>
        let b := { s with sleepers := s.sleepers.eraseIdx k }
        let r := b.queueLocked sl.objs sl.timestamp ret
        acceptedOf b sl.objs (some r.1) r.2.1
  | _ => none

theorem behind_map (t : DrawobjType) (f : Nat → DrawobjType) (objs : List Nat) :
    ∃ before rest, objs = before ++ rest ∧ before.length ≤ 1 ∧ (∀ o ∈ before, f o = t) ∧
      behind t (objs.map f) = rest.map f := by
  unfold behind
  split
  · next hhead =>
      cases objs with
      | nil => simp at hhead
      | cons o objs => exact ⟨[o], objs, rfl, by simp, by simpa using hhead, by simp⟩
  · exact ⟨[], objs, rfl, by simp, nofun, rfl⟩

theorem built_of_types (h : builtTypes (objs.map fun o => (s.obj o).type) = true) : Built s objs := by
  obtain ⟨syncs, us, rfl, hsyncs, hsync, hbehind⟩ := behind_map .sync (fun o => (s.obj o).type) objs
  obtain ⟨timelines, cmds, rfl, htimelines, htimeline, hbehind'⟩ :=
    behind_map .timeline (fun o => (s.obj o).type) us
  simp only [builtTypes, Bool.and_eq_true, hbehind, hbehind', List.contains_eq_mem, List.mem_cons,
    List.not_mem_nil, or_false, decide_eq_true_eq] at h
  have hne : syncs ++ (timelines ++ cmds) ≠ [] := by
    intro hnil
    simp [hnil] at h
  refine ⟨syncs, timelines, cmds, by simp, hne, hsyncs, hsync, htimelines, htimeline, ?_⟩
  rcases h.2 with hcmds | hcmds | hcmds
  · simp [List.map_eq_nil_iff.1 hcmds]
  · obtain ⟨c, rfl, hc⟩ := List.map_eq_singleton_iff.1 hcmds
    simp [hc]
  · obtain ⟨c, rfl, hc⟩ := List.map_eq_singleton_iff.1 hcmds
    simp [hc]

/-- The submitted objects are at their addresses. -/
theorem map_alloc (s : QueueState) (ds : List Drawobj) : (s.alloc ds).1.map (s.alloc ds).2.obj = ds := by
  induction ds generalizing s with
  | nil => rfl
  | cons d ds ih =>
      have ih' := ih { s with obj := Function.update s.obj s.nextObj d, nextObj := s.nextObj + 1 }
      obtain ⟨obj', heq, hold⟩ :=
        alloc_eq { s with obj := Function.update s.obj s.nextObj d, nextObj := s.nextObj + 1 } ds
      have hfirst : obj' s.nextObj = d :=
        (hold s.nextObj (Nat.lt_succ_self _)).trans (Function.update_self ..)
      simp only [alloc, List.map_cons, ih', List.cons.injEq, and_true]
      simp only [heq, hfirst]

/-! ### One submission -/

/-- What a call does to the numbering: nothing, or it commits the timestamp that it hands out. -/
structure CallNumbered (s : QueueState) (objs : List Nat) (ret : Option Int) (timestamp : BitVec 32)
    (s' : QueueState) : Prop where
  silent : acceptedOf s objs ret timestamp = none → s'.queuedTs = s.queuedTs
  commits : ∀ ts, acceptedOf s objs ret timestamp = some ts → Commits s.flags s.queuedTs ts s'.queuedTs

theorem callNumbered_of_eq {ret : Option Int} {timestamp : BitVec 32} (hret : ret ≠ some 0)
    (hqueued : s'.queuedTs = s.queuedTs) : CallNumbered s objs ret timestamp s' where
  silent := fun _ => hqueued
  commits := by simp [acceptedOf, hret]

/-- The last object, if it is a command or marker that is let through, gets the next timestamp. -/
theorem queueLoop_last_commits {c : Nat} {userTs ts : BitVec 32}
    (hc : (s.obj c).type = .cmd ∨ (s.obj c).type = .marker)
    (hts : hgslDbNextTimestamp s.flags s.queuedTs userTs = .ok ts) (timestamp : BitVec 32) :
    (queueLoop userTs s timestamp [c]).1 = 0 ∧ (queueLoop userTs s timestamp [c]).2.1 = ts ∧
      (queueLoop userTs s timestamp [c]).2.2.queuedTs = ts := by
  have hcases := queueOne_cases s c timestamp userTs
  rw [queueLoop]
  generalize queueOne userTs s timestamp c = r at hcases
  cases hcases with
  | refused ts' hrefused =>
      rw [hts] at hrefused
      cases hrefused
  | ignored ts' htype => simp [htype] at hc
  | unstamped ts' htype => rcases htype with htype | htype <;> simp [htype] at hc
  | stamped ts' obj' htype hts' hobj hmarker =>
      obtain rfl := Except.ok.inj (hts.symm.trans hts')
      simp [queueLoop, queueDrawobj]
  | retired ts' htype hts' hqueued hexpired =>
      obtain rfl := Except.ok.inj (hts.symm.trans hts')
      simp

/-- With the lock held: a refusal leaves `queued_ts`, sync and timeline objects do not touch it, and a
    command or marker commits its timestamp. -/
theorem queueLocked_numbered (htail : b.drawqTail < CONTEXT_DRAWQUEUE_SIZE) (hbuilt : Built b objs)
    (timestamp : BitVec 32) (ret : Int) :
    CallNumbered b objs (some (b.queueLocked objs timestamp ret).1) (b.queueLocked objs timestamp ret).2.1
      (b.queueLocked objs timestamp ret).2.2 := by
  by_cases hret : ret = 0
  · subst hret
    rcases queueLocked_split htail hbuilt timestamp with hlocked | ⟨t, timestamp', us, cmds, hobjs, -, hus,
      hlocked, -, hflags, hqueued, htype, -, hcmds⟩
    · rw [hlocked]
      exact callNumbered_of_eq (by simp [ERANGE]) rfl
    · have hplain : us.any (fun o => (b.obj o).isStamped) = false := by
        simp only [List.any_eq_false]
        intro o ho
        rcases hus o ho with htype | htype <;> simp [Drawobj.isStamped, htype]
      rw [hlocked]
      rcases hcmds with rfl | ⟨c, ts, rfl, hc, hok⟩
      · rw [List.append_nil] at hobjs
        subst hobjs
        refine ⟨fun _ => hqueued, ?_⟩
        simp [acceptedOf, hplain]
      · have hstamped : objs.any (fun o => (b.obj o).isStamped) = true := by
          rw [hobjs, List.any_append, hplain, Bool.false_or]
          simpa [Drawobj.isStamped] using hc
        have hok' := hok
        rw [← hflags, ← hqueued] at hok'
        obtain ⟨hzero, hstamp, hnext⟩ := queueLoop_last_commits (by rwa [htype c]) hok' timestamp'
        constructor
        · simp [acceptedOf, hzero, hstamped]
        · intro ts' hts'
          obtain rfl : ts = ts' := by simpa [acceptedOf, hzero, hstamped, hstamp] using hts'
          exact ⟨hnext, timestamp, hok⟩
  · simp only [queueLocked, if_pos hret]
    exact callNumbered_of_eq (by simpa using hret) rfl

theorem queueCmds_numbered (htail : s.drawqTail < CONTEXT_DRAWQUEUE_SIZE) (hbuilt : Built s objs)
    (timestamp : BitVec 32) :
    CallNumbered s objs (s.queueCmds objs timestamp).1 (s.queueCmds objs timestamp).2.1
      (s.queueCmds objs timestamp).2.2 := by
  unfold queueCmds
  split_ifs
  · exact callNumbered_of_eq (by simp [EINVAL]) rfl
  · exact callNumbered_of_eq (by simp [EINVAL]) rfl
  · exact callNumbered_of_eq nofun rfl
  · exact queueLocked_numbered htail hbuilt timestamp 0

/-! ### The sleepers -/

/-- What no step takes back: the flags, and the addresses and types of the objects. -/
structure KeepsObjects (s s' : QueueState) : Prop where
  flags : s'.flags = s.flags
  nextObj : s.nextObj ≤ s'.nextObj
  type : ∀ x < s.nextObj, (s'.obj x).type = (s.obj x).type

theorem KeepsObjects.of_eq (hflags : s'.flags = s.flags) (hnext : s'.nextObj = s.nextObj)
    (hobj : ∀ x, (s'.obj x).type = (s.obj x).type) : KeepsObjects s s' :=
  ⟨hflags, hnext.ge, fun x _ => hobj x⟩

theorem KeepsObjects.trans {t : QueueState} (h : KeepsObjects s t) (h' : KeepsObjects t s') : KeepsObjects s s' where
  flags := h'.flags.trans h.flags
  nextObj := h.nextObj.trans h'.nextObj
  type x hx := (h'.type x (hx.trans_le h.nextObj)).trans (h.type x hx)

theorem type_update {f : Nat → Drawobj} {o : Nat} {d : Drawobj} (hd : d.type = (f o).type) (x : Nat) :
    (Function.update f o d x).type = (f x).type := by
  by_cases hx : x = o
  · rw [hx, Function.update_self, hd]
  · rw [Function.update_of_ne hx]

/-- The objects are built by the ioctls and have been given their addresses. -/
structure Known (s : QueueState) (objs : List Nat) : Prop where
  built : Built s objs
  lt : ∀ o ∈ objs, o < s.nextObj

theorem Known.keep (h : Known s objs) (hkeeps : KeepsObjects s s') : Known s' objs where
  built := by
    obtain ⟨syncs, timelines, cmds, rfl, hne, hsyncs, hsync, htimelines, htimeline, hcmds, hcmd⟩ := h.built
    have htype : ∀ o ∈ syncs ++ timelines ++ cmds, (s'.obj o).type = (s.obj o).type :=
      fun o ho => hkeeps.type o (h.lt o ho)
    refine ⟨syncs, timelines, cmds, rfl, hne, hsyncs, ?_, htimelines, ?_, hcmds, ?_⟩
    · intro o ho
      rw [htype o (by simp [ho])]
      exact hsync o ho
    · intro o ho
      rw [htype o (by simp [ho])]
      exact htimeline o ho
    · intro o ho
      rw [htype o (by simp [ho])]
      exact hcmd o ho
  lt o ho := (h.lt o ho).trans_le hkeeps.nextObj

/-- Every sleeper holds objects that the ioctls built. -/
def Waiting (s : QueueState) : Prop := ∀ sl ∈ s.sleepers, Known s sl.objs

theorem Waiting.keep (h : Waiting s) (hkeeps : KeepsObjects s s')
    (hsleepers : ∀ sl ∈ s'.sleepers, (∃ sl₀ ∈ s.sleepers, sl₀.objs = sl.objs) ∨ Known s sl.objs) :
    Waiting s' := by
  intro sl hsl
  rcases hsleepers sl hsl with ⟨sl₀, hsl₀, hobjs⟩ | hknown
  · rw [← hobjs]
    exact (h sl₀ hsl₀).keep hkeeps
  · exact hknown.keep hkeeps

theorem queueOne_keeps (userTs timestamp : BitVec 32) (o : Nat) :
    KeepsObjects s (queueOne userTs s timestamp o).2.2 ∧
      (queueOne userTs s timestamp o).2.2.sleepers = s.sleepers := by
  have hcases := queueOne_cases s o timestamp userTs
  generalize queueOne userTs s timestamp o = r at hcases
  cases hcases with
  | refused ts hts => exact ⟨.of_eq rfl rfl fun _ => rfl, rfl⟩
  | ignored ts htype => exact ⟨.of_eq rfl rfl fun _ => rfl, rfl⟩
  | unstamped ts htype => exact ⟨.of_eq rfl rfl (type_update rfl), rfl⟩
  | stamped ts obj' htype hts hobj hmarker => exact ⟨.of_eq rfl rfl hobj.type, rfl⟩
  | retired ts htype hts hqueued hexpired => exact ⟨.of_eq rfl rfl (type_update rfl), rfl⟩

theorem queueLocked_keeps (objs : List Nat) (timestamp : BitVec 32) (ret : Int) :
    KeepsObjects s (s.queueLocked objs timestamp ret).2.2 ∧
      (s.queueLocked objs timestamp ret).2.2.sleepers = s.sleepers := by
  rcases queueLocked_cases s objs timestamp ret with hsame | ⟨-, hloop⟩
  · rw [hsame]
    exact ⟨.of_eq rfl rfl fun _ => rfl, rfl⟩
  · rw [hloop]
    have hone : ∀ t ts o (os : List Nat), KeepsObjects s t ∧ t.sleepers = s.sleepers →
        KeepsObjects s (queueOne timestamp t ts o).2.2 ∧
          (queueOne timestamp t ts o).2.2.sleepers = s.sleepers := by
      intro t ts o _ ht
      have hturn := queueOne_keeps (s := t) timestamp ts o
      exact ⟨ht.1.trans hturn.1, hturn.2.trans ht.2⟩
    have hend : ∃ os : List Nat, KeepsObjects s (queueLoop timestamp s timestamp objs).2.2 ∧
        (queueLoop timestamp s timestamp objs).2.2.sleepers = s.sleepers :=
      queueLoop_rule (P := fun t _ => KeepsObjects s t ∧ t.sleepers = s.sleepers) timestamp timestamp hone
        ⟨.of_eq rfl rfl fun _ => rfl, rfl⟩
    obtain ⟨-, hkeeps⟩ := hend
    exact hkeeps

theorem queueCmds_keeps (objs : List Nat) (timestamp : BitVec 32) :
    KeepsObjects s (s.queueCmds objs timestamp).2.2 ∧ ∀ sl ∈ (s.queueCmds objs timestamp).2.2.sleepers,
      sl ∈ s.sleepers ∨ sl.objs = objs := by
  have hsame : KeepsObjects s s := .of_eq rfl rfl fun _ => rfl
  unfold queueCmds
  split_ifs
  · exact ⟨hsame, fun _ hsl => .inl hsl⟩
  · exact ⟨hsame, fun _ hsl => .inl hsl⟩
  · refine ⟨.of_eq rfl rfl fun _ => rfl, ?_⟩
    intro sl hsl
    rcases List.mem_append.1 hsl with hsl | hsl
    · exact .inl hsl
    · rw [List.mem_singleton.1 hsl]
      exact .inr rfl
  · have hlocked := queueLocked_keeps (s := s) objs timestamp 0
    refine ⟨hlocked.1, ?_⟩
    intro sl hsl
    rw [hlocked.2] at hsl
    exact .inl hsl

/-! ### One step -/

/-- What a step does to the numbering: nothing, or it commits what it accepts. -/
structure Numbered (s : QueueState) (a : QueueAct) (s' : QueueState) : Prop where
  waiting : Waiting s'
  flags : s'.flags = s.flags
  silent : s.accepted a = none → s'.queuedTs = s.queuedTs
  commits : ∀ ts, s.accepted a = some ts → Commits s.flags s.queuedTs ts s'.queuedTs

theorem numbered_of_silent {a : QueueAct} (h : Waiting s) (hkeeps : KeepsObjects s s')
    (hsleepers : ∀ sl ∈ s'.sleepers, ∃ sl₀ ∈ s.sleepers, sl₀.objs = sl.objs)
    (hqueued : s'.queuedTs = s.queuedTs) (haccepted : s.accepted a = none) : Numbered s a s' where
  waiting := h.keep hkeeps fun sl hsl => .inl (hsleepers sl hsl)
  flags := hkeeps.flags
  silent := fun _ => hqueued
  commits := by simp [haccepted]

/-- A step of the dispatcher or of the GPU, which looks at no sleeper. -/
theorem numbered_of_same {a : QueueAct} (h : Waiting s) (hkeeps : KeepsObjects s s')
    (hsleepers : s'.sleepers = s.sleepers) (hqueued : s'.queuedTs = s.queuedTs)
    (haccepted : s.accepted a = none) : Numbered s a s' := by
  refine numbered_of_silent h hkeeps ?_ hqueued haccepted
  intro sl hsl
  rw [hsleepers] at hsl
  exact ⟨sl, hsl, rfl⟩

theorem numbered_of_wake {a : QueueAct} {k : Nat} {room : Bool} {ret : Int} (h : Waiting s)
    (hstep : s.wake k room ret = some s') (haccepted : s.accepted a = none) : Numbered s a s' := by
  obtain ⟨sl, hsl, -, rfl⟩ := wake_cases hstep
  refine numbered_of_silent h (.of_eq rfl rfl fun _ => rfl) ?_ rfl haccepted
  intro sl' hsl'
  rcases List.mem_or_eq_of_mem_set hsl' with hsl' | rfl
  · exact ⟨sl', hsl', rfl⟩
  · exact ⟨sl, List.mem_of_getElem? hsl, rfl⟩

/-- The scan of the dispatcher writes no type and does not number anything. -/
theorem scan_keeps (i : Nat) (ret : Int) : KeepsObjects s (s.scan i ret) ∧
    (s.scan i ret).sleepers = s.sleepers ∧ (s.scan i ret).queuedTs = s.queuedTs := by
  have hcases := scan_cases s i ret
  generalize s.scan i ret = s' at hcases
  cases hcases with
  | stop => exact ⟨.of_eq rfl rfl fun _ => rfl, rfl, rfl⟩
  | skipped o hi ho htype => exact ⟨.of_eq rfl rfl fun _ => rfl, rfl, rfl⟩
  | dropped o d hi ho htype => exact ⟨.of_eq rfl rfl fun _ => rfl, rfl, rfl⟩
  | expired o hi ho htype hexpired => exact ⟨.of_eq rfl rfl (type_update rfl), rfl, rfl⟩
  | found o hi ho htype => exact ⟨.of_eq rfl rfl fun _ => rfl, rfl, rfl⟩

theorem finishSend_keeps (o : Nat) (r : SendResult) : KeepsObjects s (s.finishSend o r) ∧
    (s.finishSend o r).sleepers = s.sleepers ∧ (s.finishSend o r).queuedTs = s.queuedTs := by
  unfold finishSend
  dsimp only
  split_ifs <;> exact ⟨.of_eq rfl rfl fun _ => rfl, rfl, rfl⟩

theorem step_numbered {a : QueueAct} (hindices : Indices s) (h : Waiting s) (hioctl : a.fromIoctl = true)
    (hstep : s.step a = some s') : Numbered s a s' := by
  cases a with
  | queueCmds ds timestamp =>
      simp only [step, Option.ite_none_right_eq_some, Option.some.injEq] at hstep
      obtain ⟨-, rfl⟩ := hstep
      have hmap := map_alloc s ds
      obtain ⟨obj', halloc, hold⟩ := alloc_eq s ds
      rw [halloc] at hmap
      have hkeeps : KeepsObjects s { s with obj := obj', nextObj := s.nextObj + ds.length } :=
        ⟨rfl, Nat.le_add_right _ _, fun x hx => congrArg Drawobj.type (hold x hx)⟩
      have hknown : Known { s with obj := obj', nextObj := s.nextObj + ds.length }
          (List.range' s.nextObj ds.length) := by
        constructor
        · refine built_of_types ?_
          have htypes := congrArg (List.map Drawobj.type) hmap
          rw [List.map_map] at htypes
          exact (congrArg builtTypes htypes).trans hioctl
        · intro o ho
          exact (List.mem_range'_1.1 ho).2
      have hcall := queueCmds_numbered (s := { s with obj := obj', nextObj := s.nextObj + ds.length })
        hindices.tail_lt hknown.built timestamp
      obtain ⟨hcallKeeps, hsleepers⟩ :=
        queueCmds_keeps (s := { s with obj := obj', nextObj := s.nextObj + ds.length })
          (List.range' s.nextObj ds.length) timestamp
      have haccepted : s.accepted (.queueCmds ds timestamp) = acceptedOf
          { s with obj := obj', nextObj := s.nextObj + ds.length } (List.range' s.nextObj ds.length)
          ({ s with obj := obj', nextObj := s.nextObj + ds.length }.queueCmds
            (List.range' s.nextObj ds.length) timestamp).1
          ({ s with obj := obj', nextObj := s.nextObj + ds.length }.queueCmds
            (List.range' s.nextObj ds.length) timestamp).2.1 := by
        simp only [accepted, halloc]
      have hwaiting : Waiting { s with obj := obj', nextObj := s.nextObj + ds.length } :=
        h.keep hkeeps fun sl hsl => .inl ⟨sl, hsl, rfl⟩
      simp only [submit, halloc]
      refine ⟨hwaiting.keep hcallKeeps ?_, hcallKeeps.flags, ?_, ?_⟩
      · intro sl hsl
        rcases hsleepers sl hsl with hsl | hobjs
        · exact .inl ⟨sl, hsl, rfl⟩
        · rw [hobjs]
          exact .inr hknown
      · rw [haccepted]
        exact hcall.silent
      · rw [haccepted]
        exact hcall.commits
  | wakeRoom k left => exact numbered_of_wake h hstep rfl
  | wakeTimeout k => exact numbered_of_wake h hstep rfl
  | wakeInterrupted k => exact numbered_of_wake h hstep rfl
  | relock k =>
      simp only [step, relock] at hstep
      split at hstep
      · cases hstep
      · next sl hsl =>
          split at hstep
          · cases hstep
          · next ret hret =>
              split at hstep
              · obtain rfl := Option.some.inj hstep
                have hbuilt := (h sl (List.mem_of_getElem? hsl)).built
                have hcall := queueLocked_numbered (b := { s with sleepers := s.sleepers.eraseIdx k })
                  hindices.tail_lt hbuilt sl.timestamp ret
                obtain ⟨hkeeps, hsleepers⟩ :=
                  queueLocked_keeps (s := { s with sleepers := s.sleepers.eraseIdx k }) sl.objs
                    sl.timestamp ret
                have haccepted : s.accepted (.relock k) = acceptedOf
                    { s with sleepers := s.sleepers.eraseIdx k } sl.objs
                    (some ({ s with sleepers := s.sleepers.eraseIdx k }.queueLocked sl.objs
                      sl.timestamp ret).1)
                    ({ s with sleepers := s.sleepers.eraseIdx k }.queueLocked sl.objs
                      sl.timestamp ret).2.1 := by
                  simp only [accepted, hsl, hret]
                refine ⟨h.keep ⟨hkeeps.flags, hkeeps.nextObj, hkeeps.type⟩ ?_, hkeeps.flags, ?_, ?_⟩
                · intro sl' hsl'
                  rw [hsleepers] at hsl'
                  exact .inl ⟨sl', List.mem_of_mem_eraseIdx hsl', rfl⟩
                · rw [haccepted]
                  exact hcall.silent
                · rw [haccepted]
                  exact hcall.commits
              · cases hstep
  | passStart =>
      simp only [step] at hstep
      split at hstep
      · obtain rfl := Option.some.inj hstep
        exact numbered_of_same h (.of_eq rfl rfl fun _ => rfl) rfl rfl rfl
      · cases hstep
  | passScan =>
      simp only [step] at hstep
      split at hstep
      · next i ret _ =>
          obtain rfl := Option.some.inj hstep
          obtain ⟨hkeeps, hsleepers, hqueued⟩ := scan_keeps (s := s) i ret
          exact numbered_of_same h hkeeps hsleepers hqueued rfl
      · cases hstep
  | send r =>
      simp only [step] at hstep
      split at hstep
      · next o _ =>
          obtain rfl := Option.some.inj hstep
          obtain ⟨hkeeps, hsleepers, hqueued⟩ := finishSend_keeps (s := s) o r
          exact numbered_of_same h hkeeps hsleepers hqueued rfl
      · cases hstep
  | syncExpire o i =>
      obtain rfl := Option.some.inj hstep
      exact numbered_of_same h (.of_eq rfl rfl (type_update rfl)) rfl rfl rfl
  | gpuRetire =>
      simp only [step, gpuRetire] at hstep
      split at hstep
      · cases hstep
      · obtain rfl := Option.some.inj hstep
        exact numbered_of_same h (.of_eq rfl rfl fun _ => rfl) rfl rfl rfl
  | setInDestroy =>
      obtain rfl := Option.some.inj hstep
      exact numbered_of_same h (.of_eq rfl rfl fun _ => rfl) rfl rfl rfl
  | detachDrawobjs =>
      simp only [step] at hstep
      split at hstep
      · obtain rfl := Option.some.inj hstep
        exact numbered_of_same h (.of_eq rfl rfl fun _ => rfl) rfl rfl rfl
      · cases hstep

/-- One step with what the ioctls build. -/
def ioctlStep : QueueState → QueueAct → Option QueueState :=
  Trace.guarded (fun _ a => a.fromIoctl = true) step

/-- The value that the submission that ends in this step returns. -/
def returns (s : QueueState) : QueueAct → Option Int
  | .queueCmds ds timestamp =>
    let b := s.alloc ds
    (b.2.queueCmds b.1 timestamp).1
  | .relock k =>
    match s.sleepers[k]? with
    | none => none
    | some sl =>
      sl.wake.map fun ret =>
        ({ s with sleepers := s.sleepers.eraseIdx k }.queueLocked sl.objs sl.timestamp ret).1
  | _ => none

/-- The submission that commits a timestamp returns 0. -/
theorem accepted_returns {a : QueueAct} (h : s.accepted a ≠ none) : s.returns a = some 0 := by
  have hof : ∀ (b : QueueState) objs ret timestamp, acceptedOf b objs ret timestamp ≠ none → ret = some 0 := by
    intro b objs ret timestamp hne
    by_contra hret
    exact hne (by simp [acceptedOf, hret])
  cases a with
  | queueCmds ds timestamp => exact hof _ _ _ _ h
  | relock k =>
      simp only [accepted] at h
      split at h
      · exact absurd rfl h
      · next sl hsl =>
          split at h
          · exact absurd rfl h
          · next ret hret => simpa [returns, hsl, hret] using hof _ _ _ _ h
  | _ => exact absurd rfl h

end QueueState

/-! ## All three -/

/-- **Main result.** On each path, in every run from the creation of a context on and in every
    interleaving, the timestamps of the successful submissions keep the promises of their mode. -/
theorem generated_timestamps (flags : BitVec 32) :
    (∀ (s s' : DbcqCtxt) (as : List DbcqAct), s.flags = ctxtCreateFlags flags → s.queuedTs = 0#32 →
      s.phase = .idle → Trace.exec DbcqCtxt.step s as = some s' →
      PathGenerated (ctxtCreateFlags flags) DbcqCtxt.step DbcqCtxt.accepted
        (fun t _ t' => t'.returned = t.returned ++ [0]) (fun t => t.queuedTs) s as s') ∧
    (∀ (x : Nat) (s s' : DbqState) (as : List DbqAct), (s.obj x).flags = ctxtCreateFlags flags →
      (s.obj x).queuedTs = 0#32 → (∀ t, DbqState.callOn x (s.thread t) = none) →
      Trace.exec DbqState.step s as = some s' →
      PathGenerated (ctxtCreateFlags flags) DbqState.step (DbqState.accepted x)
        (fun t _ t' => ∃ i, t'.returned = t.returned ++ [(i, 0)]) (fun t => (t.obj x).queuedTs) s as s') ∧
    ∀ (shadowTs : Option ShadowTs) (s' : QueueState) (as : List QueueAct),
      Trace.exec QueueState.ioctlStep (.fresh (ctxtCreateFlags flags) shadowTs) as = some s' →
      PathGenerated (ctxtCreateFlags flags) QueueState.ioctlStep QueueState.accepted
        (fun t a _ => t.returns a = some 0) (fun t => t.queuedTs) (.fresh (ctxtCreateFlags flags) shadowTs)
        as s' := by
  refine ⟨?_, ?_, ?_⟩
  · intro s s' as hflags hqueued hidle hrun
    refine PathGenerated.of_steps (fun t => DbcqCtxt.Stamped t ∧ t.flags = ctxtCreateFlags flags)
      ?_ (fun t a t' => DbcqCtxt.accepted_returned) ?_ ?_ ⟨?_, hflags⟩ hqueued hrun
    · intro t a t' ht hstep
      have hnumbered := DbcqCtxt.step_numbered ht.1 hstep
      exact ⟨hnumbered.stamped, hnumbered.flags.trans ht.2⟩
    · intro t a t' ht hstep
      exact (DbcqCtxt.step_numbered ht.1 hstep).silent
    · intro t a t' ts ht hstep hts
      have hcommit := (DbcqCtxt.step_numbered ht.1 hstep).commits ts hts
      rwa [ht.2] at hcommit
    · exact .of_callOf_none (by rw [hidle]; rfl)
  · intro x s s' as hflags hqueued hidle hrun
    refine PathGenerated.of_steps
      (fun t => DbqState.OneCall x t ∧ (t.obj x).flags = ctxtCreateFlags flags)
      ?_ (fun t a t' => DbqState.accepted_returned) ?_ ?_ ⟨?_, hflags⟩ hqueued hrun
    · intro t a t' ht hstep
      have hnumbered := DbqState.step_numbered ht.1 hstep
      exact ⟨hnumbered.oneCall, hnumbered.flags.trans ht.2⟩
    · intro t a t' ht hstep
      exact (DbqState.step_numbered ht.1 hstep).silent
    · intro t a t' ts ht hstep hts
      have hcommit := (DbqState.step_numbered ht.1 hstep).commits ts hts
      rwa [ht.2] at hcommit
    · constructor <;> simp [hidle]
  · intro shadowTs s' as hrun
    refine PathGenerated.of_steps
      (fun t => QueueState.Indices t ∧ QueueState.Waiting t ∧ t.flags = ctxtCreateFlags flags)
      ?_ (fun t a t' _ => QueueState.accepted_returns) ?_ ?_ ⟨⟨size_pos, size_pos⟩, ?_, rfl⟩ rfl hrun
    · rintro t a t' ⟨hindices, hwaiting, hflags⟩ hstep
      obtain ⟨hioctl, hstep⟩ := Trace.guarded_eq_some.1 hstep
      have hnumbered := QueueState.step_numbered hindices hwaiting hioctl hstep
      exact ⟨hindices.step hstep, hnumbered.waiting, hnumbered.flags.trans hflags⟩
    · rintro t a t' ⟨hindices, hwaiting, -⟩ hstep
      obtain ⟨hioctl, hstep⟩ := Trace.guarded_eq_some.1 hstep
      exact (QueueState.step_numbered hindices hwaiting hioctl hstep).silent
    · rintro t a t' ts ⟨hindices, hwaiting, hflags⟩ hstep hts
      obtain ⟨hioctl, hstep⟩ := Trace.guarded_eq_some.1 hstep
      have hcommit := (QueueState.step_numbered hindices hwaiting hioctl hstep).commits ts hts
      rwa [hflags] at hcommit
    · intro sl hsl
      simp [QueueState.fresh] at hsl

/-- Two numbered submissions by way of the context's own queue; the one in between cannot be sent. -/
def directRun (ts ts' ts'' : BitVec 32) : List DbcqAct :=
  [.issue { DbcqCtxt.dbcqSubmission 1 with timestamp := ts } true, .send 0, .finish 0,
    .issue { DbcqCtxt.dbcqSubmission 1 with timestamp := ts' } true, .send (-EAGAIN),
    .issue { DbcqCtxt.dbcqSubmission 1 with timestamp := ts'' } true, .send 0, .finish 0]

/-- The same by way of the shared queue, on the context at 2. -/
def sharedRun : List DbqAct :=
  [.issue 4 2 (DbcqCtxt.dbcqSubmission 1) true, .send 4 0,
    .issue 4 2 (DbcqCtxt.dbcqSubmission 1) true, .send 4 (-EAGAIN),
    .issue 4 2 (DbcqCtxt.dbcqSubmission 1) true, .send 4 0]

/-- A command behind a sync object, and a command alone. -/
def queuedRun : List QueueAct :=
  [.queueCmds [QueueState.pendingSync, { type := .cmd }] 0#32, .queueCmds [{ type := .cmd }] 0#32]

theorem generated_timestamps_runs :
    (∃ s', Generated 0x80#32 (Trace.outputs DbcqCtxt.step DbcqCtxt.accepted DbcqCtxt.dbcqStart
        (directRun 0#32 0#32 0#32)) s' ∧ s' = 2#32) ∧
    (∃ s', Generated 0x80#32 (Trace.outputs DbqState.step (DbqState.accepted 2) DbqState.sharedQueue
        sharedRun) s' ∧ s' = 2#32) ∧
    ∃ s', Generated 0x80#32 (Trace.outputs QueueState.ioctlStep QueueState.accepted
        (.fresh 0x80#32 none) queuedRun) s' ∧ s' = 2#32 := by
  obtain ⟨hdbcq, hdbq, hqueue⟩ := generated_timestamps 0x80#32
  refine ⟨?_, ?_, ?_⟩
  · have heval : (Trace.exec DbcqCtxt.step DbcqCtxt.dbcqStart (directRun 0#32 0#32 0#32)).map
        (fun s => s.queuedTs) = some 2#32 := by
      decide +kernel
    obtain ⟨s', hs', hqueued⟩ := Option.map_eq_some_iff.1 heval
    exact ⟨_, (hdbcq _ s' _ rfl rfl rfl hs').generated, hqueued⟩
  · have heval : (Trace.exec DbqState.step DbqState.sharedQueue sharedRun).map
        (fun s => (s.obj 2).queuedTs) = some 2#32 := by
      decide +kernel
    obtain ⟨s', hs', hqueued⟩ := Option.map_eq_some_iff.1 heval
    exact ⟨_, (hdbq 2 _ s' _ rfl rfl (fun _ => rfl) hs').generated, hqueued⟩
  · have heval : (Trace.exec QueueState.ioctlStep (.fresh 0x80#32 none) queuedRun).map
        (fun s => s.queuedTs) = some 2#32 := by
      decide +kernel
    obtain ⟨s', hs', hqueued⟩ := Option.map_eq_some_iff.1 heval
    exact ⟨_, (hqueue none s' _ hs').generated, hqueued⟩

/-- The flags of a context whose client numbers the submissions. -/
def clientFlags : BitVec 32 := ctxtCreateFlags GSL_CONTEXT_FLAG_CLIENT_GENERATED_TS

/-- Timestamp 0x80000001 is accepted after 1, which is half the circle away: neither is at or past the
    other. And a lone sync object is accepted with 3 after 5; it gets timestamp 0. -/
theorem accepted_not_strictlyLater :
    ClientGenerated clientFlags ∧
    (∃ s', Trace.exec DbcqCtxt.step { DbcqCtxt.dbcqStart with flags := clientFlags }
        (directRun 1#32 2#32 0x80000001#32) = some s' ∧
      Trace.outputs DbcqCtxt.step DbcqCtxt.accepted { DbcqCtxt.dbcqStart with flags := clientFlags }
        (directRun 1#32 2#32 0x80000001#32) = [1#32, 0x80000001#32] ∧
      ¬StrictlyLater 1#32 0x80000001#32) ∧
    ∃ s, Trace.exec QueueState.ioctlStep (.fresh clientFlags none) [.queueCmds [{ type := .cmd }] 5#32] =
        some s ∧
      s.queuedTs = 5#32 ∧ s.returns (.queueCmds [QueueState.pendingSync] 3#32) = some 0 ∧
      ((s.alloc [QueueState.pendingSync]).2.queueCmds (s.alloc [QueueState.pendingSync]).1 3#32).2.1 = 0#32 ∧
      ¬StrictlyLater 5#32 3#32 ∧ ¬StrictlyLater 5#32 0#32 := by
  refine ⟨by unfold ClientGenerated; decide, ?_, ?_⟩
  · have heval : (Trace.exec DbcqCtxt.step { DbcqCtxt.dbcqStart with flags := clientFlags }
        (directRun 1#32 2#32 0x80000001#32)).isSome = true := by
      decide +kernel
    obtain ⟨s', hs'⟩ := Option.isSome_iff_exists.1 heval
    exact ⟨s', hs', by decide +kernel, by decide⟩
  · have heval : (Trace.exec QueueState.ioctlStep (.fresh clientFlags none)
        [.queueCmds [{ type := .cmd }] 5#32]).map (fun s =>
          (s.queuedTs, s.returns (.queueCmds [QueueState.pendingSync] 3#32),
            ((s.alloc [QueueState.pendingSync]).2.queueCmds
              (s.alloc [QueueState.pendingSync]).1 3#32).2.1)) = some (5#32, some 0, 0#32) := by
      decide +kernel
    obtain ⟨s, hs, heq⟩ := Option.map_eq_some_iff.1 heval
    simp only [Prod.mk.injEq] at heq
    obtain ⟨hqueued, hret, hts⟩ := heq
    exact ⟨s, hs, hqueued, hret, hts, by decide, by decide⟩

end Hgsl
