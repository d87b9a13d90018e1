import Hgsl.Doorbell.IndirectBuffer
import Hgsl.Doorbell.Ibdesc

set_option autoImplicit false

/-! # Failed submissions and the IB buffer

Both submit functions record the owner of the buffer for IB descriptors before they send the message that
points to it, and neither takes the record back when the send fails. The buffer then belongs to a message
that nobody has seen. Where the next attempt uses the same timestamp, it waits for that timestamp.

A call is a run that starts with its first step. On the queue of a context nobody else submits in between
(`ctxt->lock`). The record of a shared queue may be changed by other threads during the call, so a second
account is kept of what they have made of it. -/

namespace Hgsl

/-! ## The queue of a context -/

/-- The action is the start of a call. -/
def DbcqAct.isIssue : DbcqAct → Bool
  | .issue _ _ => true
  | _ => false

/-- `dbcq_send_msg` fails. -/
def DbcqAct.sendFails : DbcqAct → Bool
  | .send ret => ret ≠ 0
  | _ => false

namespace DbcqCtxt

/-- The timestamp of a submission. -/
def issueTimestamp (s : DbcqCtxt) (a : IssueArgs) : Except Int (BitVec 32) :=
  if a.updateQueuedTs then hgslDbNextTimestamp s.flags s.queuedTs a.timestamp else .ok a.timestamp

/-- A call of `hgsl_dbcq_issue_cmd` that needs the indirect IB buffer and returns an error, with
    whatever the GPU and `hgsl_ctxt_destroy` do in between. -/
structure FailedCall (s : DbcqCtxt) (a : IssueArgs) (memory : Bool) (as : List DbcqAct)
    (s' : DbcqCtxt) : Prop where
  idle : s.phase = .idle
  batch : needsBatch a.numIbs = true
  single : ∀ b ∈ as, b.isIssue = false
  run : Trace.exec step s (.issue a memory :: as) = some s'
  done : s'.phase = .idle
  error : ∃ e ≠ 0, s'.returned = s.returned ++ [e]

/-- The record of the owner is afterwards what it was, or the buffer is free. -/
def KeepsOwner (s s' : DbcqCtxt) : Prop := s'.indirectIbTs = s.indirectIbTs ∨ s'.indirectIbTs = 0#32

/-- The call does not get as far as the send, or what it has recorded says the same as before. -/
def takesNothing (s : DbcqCtxt) (a : IssueArgs) (as : List DbcqAct) : Prop :=
  (∀ b ∈ as, b.sendFails = false) ∨
    ∀ ts, s.issueTimestamp a = .ok ts → ts = s.indirectIbTs ∨ ts = 0#32

/-- The call under way has claimed the buffer for `ts`. -/
def Claimed (s : DbcqCtxt) (ts : BitVec 32) : Prop :=
  s.indirectIbTs = ts ∧ ∃ c, s.phase = .claimed c ∨ s.phase = .built c ∨ s.phase = .sent c

/-- What the GPU and `hgsl_ctxt_destroy` leave alone. -/
theorem step_others {s s' : DbcqCtxt} {a : DbcqAct} (ha : a = .gpuRetire ∨ a = .setInDestroy)
    (hstep : s.step a = some s') : s'.phase = s.phase ∧ s'.indirectIbTs = s.indirectIbTs ∧
      s'.returned = s.returned := by
  obtain rfl | rfl := ha
  · simp only [step, gpuRetire] at hstep
    split at hstep
    · cases hstep
    · obtain rfl := Option.some.inj hstep
      simp
  · obtain rfl := Option.some.inj hstep
    simp

/-- Between two calls nothing happens to the record. -/
theorem idle_run {s s' : DbcqCtxt} {as : List DbcqAct} (hidle : s.phase = .idle)
    (hsingle : ∀ b ∈ as, b.isIssue = false) (hrun : Trace.exec step s as = some s') :
    s'.indirectIbTs = s.indirectIbTs ∧ s'.returned = s.returned ∧ ∀ b ∈ as, b.sendFails = false := by
  induction as generalizing s with
  | nil =>
      obtain rfl := Option.some.inj hrun
      simp
  | cons b as ih =>
      obtain ⟨t, ht, hrest⟩ := Trace.exec_cons_eq_some.1 hrun
      have hothers : b = .gpuRetire ∨ b = .setInDestroy := by
        cases b with
        | issue a memory => simp [DbcqAct.isIssue] at hsingle
        | gpuRetire => exact .inl rfl
        | setInDestroy => exact .inr rfl
        | acquire | waited _ | fill | send _ | finish _ => simp [step, hidle] at ht
      obtain ⟨hphase, hts, hreturned⟩ := step_others hothers ht
      obtain ⟨hts', hreturned', hsends⟩ :=
        ih (hphase.trans hidle) (fun b hb => hsingle b (List.mem_cons_of_mem _ hb)) hrest
      refine ⟨hts'.trans hts, hreturned'.trans hreturned, ?_⟩
      simp only [List.mem_cons, forall_eq_or_imp]
      refine ⟨?_, hsends⟩
      obtain rfl | rfl := hothers <;> rfl

theorem finishIssue_returned (s : DbcqCtxt) (c : IssueCall) (wait : Int) :
    (s.finishIssue c wait).returned = s.returned ++ [0] := by
  have hpoll : ∀ t : DbcqCtxt, (t.pollIndirectIbBuffer wait).returned = t.returned := by
    intro t
    rcases t.pollIndirectIbBuffer_cases wait with heq | heq <;> rw [heq]
  unfold finishIssue
  split_ifs <;> simp [ret, hpoll]

/-- **From the claim on.** A call that has claimed the buffer fails only in its send, and leaves the
    record as it is. -/
theorem claimed_run {s s' : DbcqCtxt} {ts : BitVec 32} {as : List DbcqAct} (hclaimed : s.Claimed ts)
    (hsingle : ∀ b ∈ as, b.isIssue = false) (hrun : Trace.exec step s as = some s')
    (hdone : s'.phase = .idle) (herror : ∃ e ≠ 0, s'.returned = s.returned ++ [e]) :
    s'.indirectIbTs = ts ∧ ∃ b ∈ as, b.sendFails = true := by
  induction as generalizing s with
  | nil =>
      obtain rfl := Option.some.inj hrun
      obtain ⟨-, c, hphase⟩ := hclaimed
      simp [hdone] at hphase
  | cons b as ih =>
      obtain ⟨t, ht, hrest⟩ := Trace.exec_cons_eq_some.1 hrun
      have hsingle' : ∀ b ∈ as, b.isIssue = false := fun b hb => hsingle b (List.mem_cons_of_mem _ hb)
      have hgoOn : t.Claimed ts → t.returned = s.returned →
          s'.indirectIbTs = ts ∧ ∃ b' ∈ b :: as, b'.sendFails = true := by
        intro ht hreturned
        obtain ⟨hts, hfails⟩ := ih ht hsingle' hrest (by rwa [hreturned])
        exact ⟨hts, by simp [hfails]⟩
      have hothers : b = .gpuRetire ∨ b = .setInDestroy →
          s'.indirectIbTs = ts ∧ ∃ b' ∈ b :: as, b'.sendFails = true := by
        intro hb
        obtain ⟨hphase', hts', hreturned⟩ := step_others hb ht
        exact hgoOn ⟨hts'.trans hclaimed.1, by simpa [hphase'] using hclaimed.2⟩ hreturned
      obtain ⟨hts, c, hphase⟩ := hclaimed
      cases b with
      | gpuRetire => exact hothers (.inl rfl)
      | setInDestroy => exact hothers (.inr rfl)
      | issue a memory => simp [DbcqAct.isIssue] at hsingle
      | acquire => rcases hphase with hphase | hphase | hphase <;> simp [step, hphase] at ht
      | waited ret => rcases hphase with hphase | hphase | hphase <;> simp [step, hphase] at ht
      | fill =>
          rcases hphase with hphase | hphase | hphase <;> simp [step, hphase] at ht
          obtain rfl := ht
          exact hgoOn ⟨hts, _, .inr (.inl rfl)⟩ rfl
      | send ret =>
          rcases hphase with hphase | hphase | hphase <;> simp [step, hphase] at ht
          split at ht
          · obtain rfl := Option.some.inj ht
            exact hgoOn ⟨hts, c, .inr (.inr rfl)⟩ rfl
          · next hret =>
              -- the call is over, and what follows is not its own
              obtain rfl := Option.some.inj ht
              obtain ⟨hts', -, -⟩ := idle_run rfl hsingle' hrest
              exact ⟨hts'.trans hts, .send ret, List.mem_cons_self, by simp [DbcqAct.sendFails, hret]⟩
      | finish wait =>
          rcases hphase with hphase | hphase | hphase <;> simp [step, hphase] at ht
          obtain rfl := ht
          obtain ⟨-, hreturned, -⟩ := idle_run rfl hsingle' hrest
          obtain ⟨e, he, herror⟩ := herror
          rw [hreturned, finishIssue_returned] at herror
          have hzero := List.append_cancel_left herror
          simp only [List.cons.injEq, and_true] at hzero
          exact absurd hzero.symm he

/-- **Up to the claim.** A call that looks for the buffer fails before it has it, or in its send. -/
theorem acquiring_run {s s' : DbcqCtxt} {c : IssueCall} {as : List DbcqAct}
    (hphase : s.phase = .acquiring c ∨ s.phase = .waiting c)
    (hsingle : ∀ b ∈ as, b.isIssue = false) (hrun : Trace.exec step s as = some s')
    (hdone : s'.phase = .idle) (herror : ∃ e ≠ 0, s'.returned = s.returned ++ [e]) :
    (s'.indirectIbTs = s.indirectIbTs ∧ ∀ b ∈ as, b.sendFails = false) ∨
      (s'.indirectIbTs = c.cmds.timestamp ∧ ∃ b ∈ as, b.sendFails = true) := by
  induction as generalizing s with
  | nil =>
      obtain rfl := Option.some.inj hrun
      simp [hdone] at hphase
  | cons b as ih =>
      obtain ⟨t, ht, hrest⟩ := Trace.exec_cons_eq_some.1 hrun
      have hsingle' : ∀ b ∈ as, b.isIssue = false := fun b hb => hsingle b (List.mem_cons_of_mem _ hb)
      have hgoOn : (t.phase = .acquiring c ∨ t.phase = .waiting c) → t.indirectIbTs = s.indirectIbTs →
          t.returned = s.returned → b.sendFails = false →
          (s'.indirectIbTs = s.indirectIbTs ∧ ∀ b' ∈ b :: as, b'.sendFails = false) ∨
            (s'.indirectIbTs = c.cmds.timestamp ∧ ∃ b' ∈ b :: as, b'.sendFails = true) := by
        intro ht hts hreturned hsend
        have hih := ih ht hsingle' hrest (by rwa [hreturned])
        simpa [hsend, hts] using hih
      have hclaim : t.Claimed c.cmds.timestamp → t.returned = s.returned →
          (s'.indirectIbTs = s.indirectIbTs ∧ ∀ b' ∈ b :: as, b'.sendFails = false) ∨
            (s'.indirectIbTs = c.cmds.timestamp ∧ ∃ b' ∈ b :: as, b'.sendFails = true) := by
        intro ht hreturned
        obtain ⟨hts, hfails⟩ := claimed_run ht hsingle' hrest hdone (by rwa [hreturned])
        exact .inr ⟨hts, by simp [hfails]⟩
      have hothers : b = .gpuRetire ∨ b = .setInDestroy → b.sendFails = false →
          (s'.indirectIbTs = s.indirectIbTs ∧ ∀ b' ∈ b :: as, b'.sendFails = false) ∨
            (s'.indirectIbTs = c.cmds.timestamp ∧ ∃ b' ∈ b :: as, b'.sendFails = true) := by
        intro hb
        obtain ⟨hphase', hts', hreturned⟩ := step_others hb ht
        exact hgoOn (by rwa [hphase']) hts' hreturned
      cases b with
      | gpuRetire => exact hothers (.inl rfl) rfl
      | setInDestroy => exact hothers (.inr rfl) rfl
      | issue a memory => simp [DbcqAct.isIssue] at hsingle
      | fill => rcases hphase with hphase | hphase <;> simp [step, hphase] at ht
      | send ret => rcases hphase with hphase | hphase <;> simp [step, hphase] at ht
      | finish wait => rcases hphase with hphase | hphase <;> simp [step, hphase] at ht
      | acquire =>
          rcases hphase with hphase | hphase <;> simp [step, hphase] at ht
          split at ht
          · next r hr =>
              obtain rfl := Option.some.inj ht
              rw [dbcqGetFreeIndirectIbBuffer_eq hr] at hclaim
              exact hclaim ⟨rfl, c, .inl rfl⟩ rfl
          · obtain rfl := Option.some.inj ht
            exact hgoOn (.inr rfl) rfl rfl rfl
      | waited ret =>
          obtain ⟨c', hphase', hor⟩ := waited_cases ht
          obtain rfl : c' = c := by rcases hphase with hphase | hphase <;> simp_all
          obtain ⟨-, rfl⟩ | ⟨-, e, rfl⟩ := hor
          · exact hclaim ⟨rfl, c', .inl rfl⟩ rfl
          · obtain ⟨hts', -, hsends⟩ := idle_run rfl hsingle' hrest
            exact .inl ⟨hts', by simpa [DbcqAct.sendFails] using hsends⟩

/-- The message of a call carries the timestamp of the submission. -/
theorem hgslDbcqIssueCmd_timestamp {s : DbcqCtxt} {a : IssueArgs} {memory : Bool} {c : IssueCall}
    (h : s.hgslDbcqIssueCmd a memory = .ok c) :
    s.issueTimestamp a = .ok c.cmds.timestamp ∧ c.isBatchIbdesc = needsBatch a.numIbs := by
  unfold hgslDbcqIssueCmd at h
  unfold issueTimestamp
  split at h
  · cases h
  dsimp only at h
  split at h
  · cases h
  · next ts hts =>
      split at h
      · cases h
      · obtain rfl := Except.ok.inj h
        refine ⟨?_, rfl⟩
        rw [hts]
        dsimp only
        split <;> rfl

/-- What a failed call leaves. -/
theorem FailedCall.outcome {s s' : DbcqCtxt} {a : IssueArgs} {memory : Bool} {as : List DbcqAct}
    (h : FailedCall s a memory as s') :
    (s'.indirectIbTs = s.indirectIbTs ∧ ∀ b ∈ as, b.sendFails = false) ∨
      (s.issueTimestamp a = .ok s'.indirectIbTs ∧ ∃ b ∈ as, b.sendFails = true) := by
  obtain ⟨t, ht, hrest⟩ := Trace.exec_cons_eq_some.1 h.run
  simp only [step, h.idle] at ht
  split at ht
  · obtain rfl := Option.some.inj ht
    obtain ⟨hts, -, hsends⟩ := idle_run rfl h.single hrest
    exact .inl ⟨hts, hsends⟩
  · next c hc =>
      obtain ⟨hts, hbatch⟩ := hgslDbcqIssueCmd_timestamp hc
      rw [hbatch, h.batch, if_pos rfl] at ht
      obtain rfl := Option.some.inj ht
      rw [hts]
      rcases acquiring_run (.inl rfl) h.single hrest h.done h.error with hkept | ⟨htaken, hfails⟩
      · exact .inl hkept
      · exact .inr ⟨by rw [htaken], hfails⟩

theorem FailedCall.keepsOwner_iff {s s' : DbcqCtxt} {a : IssueArgs} {memory : Bool}
    {as : List DbcqAct} (h : FailedCall s a memory as s') :
    KeepsOwner s s' ↔ s.takesNothing a as := by
  unfold KeepsOwner takesNothing
  rcases h.outcome with ⟨hts, hsends⟩ | ⟨hts, b, hb, hfails⟩
  · exact iff_of_true (.inl hts) (.inl hsends)
  · have hnot : ¬∀ b ∈ as, b.sendFails = false := by
      intro hall
      simp [hall b hb] at hfails
    simp [hnot, hts]

/-! ### Any number of attempts -/

/-- A call fails without taking the buffer. -/
def FailsWell (s s' : DbcqCtxt) : Prop :=
  ∃ a memory as, FailedCall s a memory as s' ∧ s.takesNothing a as

/-- A submission with `ts` has to wait for the buffer, and the owner that it waits for is `ts`. -/
def WaitsForItself (s : DbcqCtxt) (ts : BitVec 32) : Prop :=
  s.dbcqGetFreeIndirectIbBuffer ts HGSL_DBCQ_IBDESC_SHORT_WAIT_MSEC = none ∧ s.indirectIbTs = ts

theorem keepsOwner_of_attempts {s s' : DbcqCtxt} (h : Relation.ReflTransGen FailsWell s s') :
    KeepsOwner s s' := by
  induction h with
  | refl => exact .inl rfl
  | tail _ hlast ih =>
      obtain ⟨a, memory, as, hfailed, htakes⟩ := hlast
      rcases hfailed.keepsOwner_iff.2 htakes with hts | hfree
      · rw [KeepsOwner, hts]
        exact ih
      · exact .inr hfree

theorem not_waitsForItself_of_attempts {s s' : DbcqCtxt} {ts : BitVec 32}
    (h : Relation.ReflTransGen FailsWell s s') (hts : ts ≠ s.indirectIbTs) :
    ¬s'.WaitsForItself ts := by
  rintro ⟨hwaits, rfl⟩
  rcases keepsOwner_of_attempts h with hkept | hfree
  · exact hts hkept
  · simp [dbcqGetFreeIndirectIbBuffer, hfree] at hwaits

end DbcqCtxt

/-! ## A shared queue -/

/-- The thread that an action is a step of; the GPU is none. -/
def DbqAct.thread : DbqAct → Option Nat
  | .issue t _ _ _ | .acquire t | .woken t _ | .send t _ | .destroy t _ _ | .remove t => some t
  | .gpuRetire _ => none

/-- The action is the start of a call of thread `t`. -/
def DbqAct.startsCall (t : Nat) : DbqAct → Bool
  | .issue t' _ _ _ | .destroy t' _ _ => t' == t
  | _ => false

/-- `db_send_msg` fails in thread `t`. -/
def DbqAct.sendFails (t : Nat) : DbqAct → Bool
  | .send t' ret => t' == t && ret ≠ 0
  | _ => false

/-- A queue with an account of the record of its owner during a call. -/
structure DbqWatch where
  queue : DbqState
  /-- what the other threads have made of the record -/
  others : IbdescPriv
  /-- the call has written the record, and nobody else has changed it since -/
  own : Bool := false

namespace DbqState

/-- The call that thread `t` is in has filled the buffer. -/
def hasFilled (s : DbqState) (t : Nat) : Bool :=
  match s.thread t with
  | .built _ _ fill => fill.isSome
  | _ => false

/-- One step of the queue, seen from a call of thread `t`. -/
def watch (t : Nat) (w : DbqWatch) (a : DbqAct) : Option DbqWatch :=
  (w.queue.step a).map fun s =>
    if a.thread = some t then { w with queue := s, own := w.own || s.hasFilled t }
    else if s.ibdescPriv = w.queue.ibdescPriv then { w with queue := s }
    else { queue := s, others := s.ibdescPriv, own := false }

/-- The timestamp of a submission on the context at `ctxt`. -/
def issueTimestamp (s : DbqState) (ctxt : Nat) (a : IssueArgs) : Except Int (BitVec 32) :=
  let c := s.obj ctxt
  if a.updateQueuedTs then hgslDbNextTimestamp c.flags c.queuedTs a.timestamp else .ok a.timestamp

/-- The batch decision of `hgsl_db_issue_cmd`. -/
def needsBatch (s : DbqState) (numIbs : Nat) : Bool :=
  let msgDwordsAligned := align4Nat (msgIssueInfSz + msgIssueIbsSz numIbs)
  s.dwords ≤ msgDwordsAligned || msgSzMax < msgDwordsAligned

/-- The record that a submission writes. -/
def ownRecord (s : DbqState) (ctxt : Nat) (ts : BitVec 32) : IbdescPriv where
  bufInuse := true
  contextId := (s.obj ctxt).contextId
  timestamp := ts

/-- What thread `t` has returned. -/
def returnedBy (s : DbqState) (t : Nat) : List Int :=
  (s.returned.filter fun r => r.1 = t).map (·.2)

/-- A call of `hgsl_db_issue_cmd` in thread `t`, on the context at `ctxt`, that needs the buffer and
    returns an error, with whatever the other threads and the GPU do in between. -/
structure FailedCall (s : DbqState) (t ctxt : Nat) (a : IssueArgs) (memory : Bool) (as : List DbqAct)
    (w : DbqWatch) : Prop where
  idle : s.thread t = .idle
  batch : s.needsBatch a.numIbs = true
  single : ∀ b ∈ as, b.startsCall t = false
  run : Trace.exec (watch t) { queue := s, others := s.ibdescPriv } (.issue t ctxt a memory :: as) =
    some w
  done : w.queue.thread t = .idle
  error : ∃ e ≠ 0, w.queue.returnedBy t = s.returnedBy t ++ [e]

/-- The record is afterwards what the other threads have made of it, or the buffer is free. -/
def KeepsOwner (w : DbqWatch) : Prop :=
  w.queue.ibdescPriv = w.others ∨ w.queue.ibdescPriv.bufInuse = false

/-- The call does not get as far as the send, or another thread has changed the record after it, or what
    it has recorded says the same as before. -/
def takesNothing (s : DbqState) (t ctxt : Nat) (a : IssueArgs) (as : List DbqAct) (w : DbqWatch) :
    Prop :=
  (∀ b ∈ as, b.sendFails t = false) ∨ w.own = false ∨
    ∀ ts, s.issueTimestamp ctxt a = .ok ts → s.ownRecord ctxt ts = w.others

/-! ### Frames -/

/-- Threads, results and context ids are the same. -/
structure Quiet (s s' : DbqState) : Prop where
  thread : s'.thread = s.thread
  returned : s'.returned = s.returned
  contextId : ∀ o, (s'.obj o).contextId = (s.obj o).contextId

/-- Only thread `t` moves. -/
structure MovesOnly (t : Nat) (s s' : DbqState) : Prop where
  thread : ∀ t' ≠ t, s'.thread t' = s.thread t'
  returned : ∀ t' ≠ t, s'.returnedBy t' = s.returnedBy t'
  contextId : ∀ o, (s'.obj o).contextId = (s.obj o).contextId

theorem Quiet.refl (s : DbqState) : Quiet s s := ⟨rfl, rfl, fun _ => rfl⟩

theorem Quiet.trans {s s' s'' : DbqState} (h : Quiet s s') (h' : Quiet s' s'') : Quiet s s'' :=
  ⟨h'.thread.trans h.thread, h'.returned.trans h.returned,
    fun o => (h'.contextId o).trans (h.contextId o)⟩

/-- An object is replaced by one with the same id. -/
theorem Quiet.update {s s' : DbqState} {ctxt : Nat} {o : DbqCtxt} (hthread : s'.thread = s.thread)
    (hreturned : s'.returned = s.returned) (hobj : s'.obj = Function.update s.obj ctxt o)
    (hid : o.contextId = (s.obj ctxt).contextId) : Quiet s s' := by
  refine ⟨hthread, hreturned, ?_⟩
  intro o'
  rw [hobj]
  by_cases ho : o' = ctxt
  · rw [ho, Function.update_self, hid]
  · rw [Function.update_of_ne ho]

theorem Quiet.setLocked (s : DbqState) (ctxt : Nat) (locked : Bool) : Quiet s (s.setLocked ctxt locked) :=
  .update rfl rfl rfl rfl

theorem Quiet.retire (s : DbqState) (ctxt : Nat) (ts : BitVec 32) (rest : List (BitVec 32)) :
    Quiet s (s.retire ctxt ts rest) := .update rfl rfl rfl rfl

theorem Quiet.setThread {s s' : DbqState} (h : Quiet s s') (t : Nat) (th : DbqThread) :
    MovesOnly t s (s'.setThread t th) where
  thread t' ht' := by simp [DbqState.setThread, Function.update_of_ne ht', h.thread]
  returned t' _ := by simp [DbqState.setThread, returnedBy, h.returned]
  contextId := h.contextId

theorem Quiet.ret {s s' : DbqState} (h : Quiet s s') (t : Nat) (e : Int) :
    MovesOnly t s (s'.ret t e) where
  thread t' ht' := by simp [DbqState.ret, DbqState.setThread, Function.update_of_ne ht', h.thread]
  returned t' ht' := by
    simp [DbqState.ret, DbqState.setThread, returnedBy, h.returned, ht'.symm]
  contextId := h.contextId

@[simp] theorem setThread_thread (s : DbqState) (t : Nat) (th : DbqThread) :
    (s.setThread t th).thread t = th := Function.update_self _ _ _

@[simp] theorem setThread_ibdescPriv (s : DbqState) (t : Nat) (th : DbqThread) :
    (s.setThread t th).ibdescPriv = s.ibdescPriv := rfl

@[simp] theorem setLocked_ibdescPriv (s : DbqState) (ctxt : Nat) (locked : Bool) :
    (s.setLocked ctxt locked).ibdescPriv = s.ibdescPriv := rfl

@[simp] theorem ret_thread (s : DbqState) (t : Nat) (e : Int) : (s.ret t e).thread t = .idle :=
  Function.update_self _ _ _

@[simp] theorem ret_returnedBy (s : DbqState) (t : Nat) (e : Int) :
    (s.ret t e).returnedBy t = s.returnedBy t ++ [e] := by
  simp [DbqState.ret, DbqState.setThread, returnedBy]

/-! ### The wait -/

/-- The wait leaves the queue as it is; where it succeeds, it may have freed the buffer. -/
def WaitResult.Plain (s : DbqState) : WaitResult → Prop
  | .done r s' => s' = s ∨ (r = 0 ∧ s' = s.clearInuse)
  | .sleep _ => True

theorem waitTurn_plain (s : DbqState) (owner : Nat) : WaitResult.Plain s (s.waitTurn owner) := by
  unfold waitTurn
  split <;> simp [WaitResult.Plain]

theorem dbqWaitFreeIbdesc_plain (s : DbqState) (ctxt : Nat) (request : IbdescRequest) :
    WaitResult.Plain s (s.dbqWaitFreeIbdesc ctxt request) := by
  unfold dbqWaitFreeIbdesc
  split
  · split
    · exact .inl rfl
    · exact waitTurn_plain s _
  · exact .inl rfl

theorem dbqWaitFreeIbdescWoken_plain (s : DbqState) (owner : Nat) (wake : DbqWake) :
    WaitResult.Plain s (s.dbqWaitFreeIbdescWoken owner wake) := by
  cases wake with
  | interrupted => exact .inl rfl
  | timeUp => exact .inl rfl
  | timeLeft => exact waitTurn_plain s owner

theorem WaitResult.Plain.quiet {s s' : DbqState} {r : Int} (h : WaitResult.Plain s (.done r s')) :
    Quiet s s' := by
  obtain rfl | ⟨-, rfl⟩ := h
  · exact .refl s'
  · exact ⟨rfl, rfl, fun _ => rfl⟩

theorem movesOnly_afterWait {s : DbqState} (t ctxt : Nat) (request : IbdescRequest) {r : WaitResult}
    (h : WaitResult.Plain s r) : MovesOnly t s (s.afterWait t ctxt request r) := by
  cases r with
  | sleep owner => exact (Quiet.refl s).setThread t _
  | done e s' =>
      have hquiet := h.quiet
      cases request with
      | acquire c =>
          simp only [afterWait]
          split
          · have hmoves := hquiet.setThread t (s'.fillIbdesc t ctxt c |>.thread t)
            exact ⟨fun t' ht' => Function.update_of_ne ht' _ _ |>.trans (congrFun hquiet.thread t'),
              fun t' ht' => hmoves.returned t' ht', hquiet.contextId⟩
          · exact (hquiet.trans (.setLocked s' ctxt false)).ret t e
      | release devHnd contextId =>
          simp only [afterWait]
          split
          · exact hquiet.setThread t _
          · exact hquiet.ret t e

/-- **Frame.** A step moves one thread, and a retirement none. -/
theorem step_movesOnly {s s' : DbqState} {a : DbqAct} {t : Nat} (hstep : s.step a = some s')
    (ha : ∀ t', a.thread = some t' → t' = t) : MovesOnly t s s' := by
  cases a with
  | issue t' ctxt a memory =>
      obtain rfl := ha t' rfl
      have hseq : Quiet s { s with seqNum := s.seqNum + 1#32 } := ⟨rfl, rfl, fun _ => rfl⟩
      simp only [step] at hstep
      split at hstep
      · split at hstep
        · cases hstep
        split at hstep
        · obtain rfl := Option.some.inj hstep
          exact hseq.ret t' _
        · obtain rfl := Option.some.inj hstep
          exact (hseq.trans (.setLocked _ ctxt true)).setThread t' _
      · cases hstep
  | acquire t' =>
      obtain rfl := ha t' rfl
      simp only [step] at hstep
      split at hstep
      · next ctxt c _ =>
          obtain rfl := Option.some.inj hstep
          exact movesOnly_afterWait t' ctxt _ (dbqWaitFreeIbdesc_plain s ctxt _)
      · cases hstep
  | woken t' wake =>
      obtain rfl := ha t' rfl
      simp only [step] at hstep
      split at hstep
      · next ctxt request owner _ =>
          obtain rfl := Option.some.inj hstep
          exact movesOnly_afterWait t' ctxt request (dbqWaitFreeIbdescWoken_plain s owner wake)
      · cases hstep
  | send t' ret =>
      obtain rfl := ha t' rfl
      simp only [step] at hstep
      split at hstep
      · next ctxt c fill _ =>
          split at hstep
          · obtain rfl := Option.some.inj hstep
            have hquiet : ∀ o : DbqCtxt, o.contextId = (s.obj ctxt).contextId →
                Quiet s ({ s with obj := Function.update s.obj ctxt o }.markSent fill) :=
              fun _ hid => .update rfl rfl rfl hid
            refine (hquiet _ ?_).ret t' 0
            rfl
          · obtain rfl := Option.some.inj hstep
            exact (Quiet.setLocked s ctxt false).ret t' ret
      · cases hstep
  | destroy t' devHnd contextId =>
      obtain rfl := ha t' rfl
      simp only [step] at hstep
      split at hstep
      · split at hstep
        · obtain rfl := Option.some.inj hstep
          exact (Quiet.refl s).ret t' _
        · next ctxt _ =>
            obtain rfl := Option.some.inj hstep
            exact movesOnly_afterWait t' ctxt _ (dbqWaitFreeIbdesc_plain s ctxt _)
      · cases hstep
  | remove t' =>
      obtain rfl := ha t' rfl
      simp only [step] at hstep
      split at hstep
      · next devHnd contextId _ =>
          split at hstep
          · obtain rfl := Option.some.inj hstep
            exact (Quiet.refl s).ret t' _
          · obtain rfl := Option.some.inj hstep
            have hquiet : Quiet s (s.hgslRemoveContext devHnd contextId) := ⟨rfl, rfl, fun _ => rfl⟩
            exact hquiet.ret t' 0
      · cases hstep
  | gpuRetire ctxt =>
      simp only [step] at hstep
      split at hstep
      · cases hstep
      · next ts rest _ =>
          obtain rfl := Option.some.inj hstep
          have hquiet := Quiet.retire s ctxt ts rest
          refine ⟨fun t' _ => congrFun hquiet.thread t', ?_, hquiet.contextId⟩
          intro t' _
          simp only [returnedBy, hquiet.returned]

/-! ### The account of a call -/

/-- The record is what the call has written, or what the others have made of it. -/
def Accounted (w : DbqWatch) (mine : IbdescPriv) : Prop :=
  w.queue.ibdescPriv = if w.own then mine else w.others

theorem watch_eq_some {t : Nat} {w w' : DbqWatch} {b : DbqAct} (h : watch t w b = some w') :
    w.queue.step b = some w'.queue := by
  obtain ⟨s, hs, hw⟩ := Option.map_eq_some_iff.1 h
  rw [hs, ← hw]
  split_ifs <;> rfl

/-- A step of another thread, or of none. -/
theorem watch_others {t : Nat} {w w' : DbqWatch} {b : DbqAct} {mine : IbdescPriv}
    (hb : b.thread ≠ some t) (hacc : Accounted w mine) (h : watch t w b = some w') :
    Accounted w' mine ∧ (w.own = false → w'.own = false) ∧ w'.queue.thread t = w.queue.thread t ∧
      w'.queue.returnedBy t = w.queue.returnedBy t ∧
      (∀ o, (w'.queue.obj o).contextId = (w.queue.obj o).contextId) ∧ b.sendFails t = false := by
  have hmoves : ∃ t' ≠ t, MovesOnly t' w.queue w'.queue := by
    cases hthread : b.thread with
    | none => exact ⟨t + 1, by omega, step_movesOnly (watch_eq_some h) (by simp [hthread])⟩
    | some t' =>
        rw [hthread] at hb
        refine ⟨t', fun ht' => hb (by rw [ht']), step_movesOnly (watch_eq_some h) ?_⟩
        intro t'' ht''
        rw [hthread] at ht''
        exact (Option.some.inj ht'').symm
  obtain ⟨t', hne, hmoves⟩ := hmoves
  have hsend : b.sendFails t = false := by
    cases b with
    | send t'' ret =>
        have hne' : t'' ≠ t := by simpa [DbqAct.thread] using hb
        simp [DbqAct.sendFails, hne']
    | _ => rfl
  obtain ⟨s, -, hw⟩ := Option.map_eq_some_iff.1 h
  rw [if_neg hb] at hw
  refine ⟨?_, ?_, hmoves.thread t hne.symm, hmoves.returned t hne.symm, hmoves.contextId, hsend⟩
  · split at hw
    · next hsame =>
        subst hw
        exact hsame.trans hacc
    · subst hw
      rfl
  · intro hown
    split at hw
    · subst hw
      exact hown
    · subst hw
      rfl

/-- A step of the call itself. -/
theorem watch_own {t : Nat} {w w' : DbqWatch} {b : DbqAct} (hb : b.thread = some t)
    (h : watch t w b = some w') :
    ∃ s, w.queue.step b = some s ∧
      w' = { queue := s, others := w.others, own := w.own || s.hasFilled t } := by
  obtain ⟨s, hs, hw⟩ := Option.map_eq_some_iff.1 h
  rw [if_pos hb] at hw
  exact ⟨s, hs, hw.symm⟩

/-- After the call it is the others who change the record. -/
theorem idle_run {t : Nat} {w w' : DbqWatch} {as : List DbqAct} {mine : IbdescPriv}
    (hidle : w.queue.thread t = .idle) (hsingle : ∀ b ∈ as, b.startsCall t = false)
    (hacc : Accounted w mine) (hrun : Trace.exec (watch t) w as = some w') :
    Accounted w' mine ∧ (w.own = false → w'.own = false) ∧
      w'.queue.returnedBy t = w.queue.returnedBy t ∧ ∀ b ∈ as, b.sendFails t = false := by
  induction as generalizing w with
  | nil =>
      obtain rfl := Option.some.inj hrun
      simp [hacc]
  | cons b as ih =>
      obtain ⟨v, hv, hrest⟩ := Trace.exec_cons_eq_some.1 hrun
      by_cases hb : b.thread = some t
      · -- the thread has nothing to do
        exfalso
        obtain ⟨s, hs, -⟩ := watch_own hb hv
        have hstart := hsingle b List.mem_cons_self
        cases b <;> simp only [DbqAct.thread, Option.some.injEq, reduceCtorEq] at hb <;> subst hb <;>
          simp [step, hidle, DbqAct.startsCall] at hs hstart
      · obtain ⟨hacc', hown, hthread, hreturned, -, hsend⟩ := watch_others hb hacc hv
        obtain ⟨hacc'', hown', hreturned', hsends⟩ := ih (hthread.trans hidle)
          (fun b hb => hsingle b (List.mem_cons_of_mem _ hb)) hacc' hrest
        refine ⟨hacc'', hown' ∘ hown, hreturned'.trans hreturned, ?_⟩
        simpa [hsend] using hsends

/-- A step of the call that does not write the record. -/
theorem Accounted.own {t : Nat} {w : DbqWatch} {s : DbqState} {mine : IbdescPriv}
    (hacc : Accounted w mine) (hpriv : s.ibdescPriv = w.queue.ibdescPriv)
    (hfilled : s.hasFilled t = false) :
    Accounted { queue := s, others := w.others, own := w.own || s.hasFilled t } mine := by
  rw [hfilled, Bool.or_false]
  exact hpriv.trans hacc

/-- The call returns without writing the record. -/
theorem returned_run {t : Nat} {e : Int} {w w' : DbqWatch} {s : DbqState} {as : List DbqAct}
    {mine : IbdescPriv} (hacc : Accounted w mine) (hpriv : s.ibdescPriv = w.queue.ibdescPriv)
    (hsingle : ∀ b ∈ as, b.startsCall t = false)
    (hrun : Trace.exec (watch t)
      { queue := s.ret t e, others := w.others, own := w.own || (s.ret t e).hasFilled t } as = some w') :
    Accounted w' mine ∧ (w.own = false → w'.own = false) ∧
      w'.queue.returnedBy t = s.returnedBy t ++ [e] ∧ ∀ b ∈ as, b.sendFails t = false := by
  have hfilled : (s.ret t e).hasFilled t = false := by simp [hasFilled]
  obtain ⟨hacc', hown, hreturned, hsends⟩ :=
    idle_run (ret_thread s t e) hsingle (hacc.own (by exact hpriv) hfilled) hrun
  refine ⟨hacc', ?_, by simpa using hreturned, hsends⟩
  simpa [hfilled] using hown

/-- A call whose message is complete fails only in its send. -/
theorem built_run {t ctxt : Nat} {c : IssueCall} {fill : Option Nat} {w w' : DbqWatch}
    {as : List DbqAct} {mine : IbdescPriv} (hthread : w.queue.thread t = .built ctxt c fill)
    (hsingle : ∀ b ∈ as, b.startsCall t = false) (hacc : Accounted w mine)
    (hrun : Trace.exec (watch t) w as = some w') (hdone : w'.queue.thread t = .idle)
    (herror : ∃ e ≠ 0, w'.queue.returnedBy t = w.queue.returnedBy t ++ [e]) :
    Accounted w' mine ∧ ∃ b ∈ as, b.sendFails t = true := by
  induction as generalizing w with
  | nil =>
      obtain rfl := Option.some.inj hrun
      simp [hdone] at hthread
  | cons b as ih =>
      obtain ⟨v, hv, hrest⟩ := Trace.exec_cons_eq_some.1 hrun
      have hsingle' : ∀ b ∈ as, b.startsCall t = false := fun b hb => hsingle b (List.mem_cons_of_mem _ hb)
      by_cases hb : b.thread = some t
      · obtain ⟨s, hs, rfl⟩ := watch_own hb hv
        have hstart := hsingle b List.mem_cons_self
        cases b <;> simp only [DbqAct.thread, Option.some.injEq, reduceCtorEq] at hb <;> subst hb <;>
          simp [step, hthread, DbqAct.startsCall] at hs hstart
        next ret =>
          split at hs
          · obtain rfl := Option.some.inj hs
            simp only [sendMsg] at hrest
            obtain ⟨-, -, hreturned, -⟩ := returned_run hacc (by rfl) hsingle' hrest
            obtain ⟨e, he, herror⟩ := herror
            have hzero := List.append_cancel_left (hreturned.symm.trans herror)
            simp only [List.cons.injEq, and_true] at hzero
            exact absurd hzero.symm he
          · next hret =>
              obtain rfl := Option.some.inj hs
              obtain ⟨hacc', -, -, -⟩ := returned_run hacc (by rfl) hsingle' hrest
              exact ⟨hacc', .send _ ret, List.mem_cons_self, by simp [DbqAct.sendFails, hret]⟩
      · obtain ⟨hacc', -, hthread', hreturned, -, -⟩ := watch_others hb hacc hv
        obtain ⟨hacc'', hfails⟩ :=
          ih (hthread'.trans hthread) hsingle' hacc' hrest (by rwa [hreturned])
        exact ⟨hacc'', by simp [hfails]⟩

/-- A call that looks for the buffer fails before it has it, or in its send. -/
theorem acquiring_run {t ctxt : Nat} {c : IssueCall} {w w' : DbqWatch} {as : List DbqAct}
    {mine : IbdescPriv}
    (hthread : w.queue.thread t = .issuing ctxt c ∨
      ∃ owner, w.queue.thread t = .asleep ctxt (.acquire c) owner)
    (hmine : mine = w.queue.ownRecord ctxt c.cmds.timestamp) (hown : w.own = false)
    (hsingle : ∀ b ∈ as, b.startsCall t = false) (hacc : Accounted w mine)
    (hrun : Trace.exec (watch t) w as = some w') (hdone : w'.queue.thread t = .idle)
    (herror : ∃ e ≠ 0, w'.queue.returnedBy t = w.queue.returnedBy t ++ [e]) :
    Accounted w' mine ∧ ((w'.own = false ∧ ∀ b ∈ as, b.sendFails t = false) ∨
      ∃ b ∈ as, b.sendFails t = true) := by
  induction as generalizing w with
  | nil =>
      obtain rfl := Option.some.inj hrun
      rcases hthread with hthread | ⟨owner, hthread⟩ <;> simp [hdone] at hthread
  | cons b as ih =>
      obtain ⟨v, hv, hrest⟩ := Trace.exec_cons_eq_some.1 hrun
      have hsingle' : ∀ b ∈ as, b.startsCall t = false := fun b hb => hsingle b (List.mem_cons_of_mem _ hb)
      by_cases hb : b.thread = some t
      · obtain ⟨s, hs, rfl⟩ := watch_own hb hv
        have hstart := hsingle b List.mem_cons_self
        -- both steps come to a turn of the wait
        have hwait : ∃ r, WaitResult.Plain w.queue r ∧ s = w.queue.afterWait t ctxt (.acquire c) r ∧
            b.sendFails t = false := by
          cases b <;> simp only [DbqAct.thread, Option.some.injEq, reduceCtorEq] at hb <;> subst hb <;>
            rcases hthread with hthread | ⟨owner, hthread⟩ <;>
            simp [step, hthread, DbqAct.startsCall] at hs hstart
          · exact ⟨_, dbqWaitFreeIbdesc_plain _ ctxt _, hs.symm, rfl⟩
          · exact ⟨_, dbqWaitFreeIbdescWoken_plain _ owner _, hs.symm, rfl⟩
        obtain ⟨r, hplain, rfl, hsend⟩ := hwait
        cases r with
        | sleep owner =>
            have hfilled : (w.queue.afterWait t ctxt (.acquire c) (.sleep owner)).hasFilled t = false := by
              simp [afterWait, hasFilled]
            obtain ⟨hacc', hor⟩ := ih (.inr ⟨owner, by exact setThread_thread _ t _⟩) (by exact hmine)
              (by simp [hown, hfilled]) hsingle' (by exact hacc.own rfl hfilled) hrest herror
            exact ⟨hacc', by simpa [hsend] using hor⟩
        | done e s' =>
            have hquiet := hplain.quiet
            by_cases he : e = 0
            · simp only [afterWait, if_pos he] at hrest
              have hfilled : (s'.fillIbdesc t ctxt c).hasFilled t = true := by
                simp [hasFilled, fillIbdesc]
              have hpriv : (s'.fillIbdesc t ctxt c).ibdescPriv = mine := by
                rw [hmine]
                simp [fillIbdesc, ownRecord, hquiet.contextId]
              have hreturned : (s'.fillIbdesc t ctxt c).returnedBy t = w.queue.returnedBy t := by
                simp [fillIbdesc, DbqState.setThread, returnedBy, hquiet.returned]
              have hacc' : Accounted
                  ⟨s'.fillIbdesc t ctxt c, w.others, w.own || (s'.fillIbdesc t ctxt c).hasFilled t⟩
                  mine := by
                simp [Accounted, hfilled, hpriv]
              obtain ⟨hacc', hfails⟩ := built_run (setThread_thread s' t _) hsingle' hacc' hrest hdone
                (by rwa [hreturned])
              exact ⟨hacc', .inr (by simp [hfails])⟩
            · obtain rfl : s' = w.queue := by simpa [WaitResult.Plain, he] using hplain
              simp only [afterWait, if_neg he] at hrest
              obtain ⟨hacc', hown', -, hsends⟩ := returned_run hacc (by rfl) hsingle' hrest
              exact ⟨hacc', .inl ⟨hown' hown, by simpa [hsend] using hsends⟩⟩
      · obtain ⟨hacc', hown', hthread', hreturned, hid, hsend⟩ := watch_others hb hacc hv
        obtain ⟨hacc'', hor⟩ := ih (by rwa [hthread'])
          (by rw [hmine, ownRecord, ownRecord, hid]) (hown' hown) hsingle' hacc' hrest
          (by rwa [hreturned])
        refine ⟨hacc'', ?_⟩
        simpa [hsend] using hor

/-- The message of a call carries the timestamp of the submission. -/
theorem hgslDbIssueCmd_timestamp {s : DbqState} {ctxt : Nat} {a : IssueArgs} {memory : Bool}
    {c : IssueCall} (h : s.hgslDbIssueCmd ctxt a memory = .ok c) :
    s.issueTimestamp ctxt a = .ok c.cmds.timestamp ∧ c.isBatchIbdesc = s.needsBatch a.numIbs := by
  unfold hgslDbIssueCmd at h
  unfold issueTimestamp
  dsimp only at h ⊢
  split at h
  · cases h
  split at h
  · cases h
  split at h
  · cases h
  split at h
  · cases h
  · next ts hts =>
      split at h
      · cases h
      · obtain rfl := Except.ok.inj h
        refine ⟨?_, rfl⟩
        rw [hts]
        dsimp only
        split <;> rfl

/-- What a failed call leaves. -/
theorem FailedCall.outcome {s : DbqState} {t ctxt : Nat} {a : IssueArgs} {memory : Bool}
    {as : List DbqAct} {w : DbqWatch} (h : FailedCall s t ctxt a memory as w) :
    (w.own = false ∧ w.queue.ibdescPriv = w.others ∧ ∀ b ∈ as, b.sendFails t = false) ∨
      ∃ ts, s.issueTimestamp ctxt a = .ok ts ∧ Accounted w (s.ownRecord ctxt ts) ∧
        ∃ b ∈ as, b.sendFails t = true := by
  obtain ⟨v, hv, hrest⟩ := Trace.exec_cons_eq_some.1 h.run
  obtain ⟨s₁, hs₁, rfl⟩ := watch_own rfl hv
  simp only [step, h.idle] at hs₁
  split at hs₁
  · cases hs₁
  split at hs₁
  · obtain rfl := Option.some.inj hs₁
    have hacc : ∀ mine, Accounted { queue := s, others := s.ibdescPriv } mine := fun _ => rfl
    obtain ⟨hacc', hown, -, hsends⟩ := returned_run (hacc {}) (by rfl) h.single hrest
    have hown' := hown rfl
    refine .inl ⟨hown', ?_, hsends⟩
    simpa [Accounted, hown'] using hacc'
  · next c hc =>
      obtain ⟨hts, hbatch⟩ := hgslDbIssueCmd_timestamp hc
      rw [hbatch, h.batch, if_pos rfl] at hs₁
      obtain rfl := Option.some.inj hs₁
      have hseq : Quiet s { s with seqNum := s.seqNum + 1#32 } := ⟨rfl, rfl, fun _ => rfl⟩
      have hlocked := hseq.trans (.setLocked _ ctxt true)
      obtain ⟨hacc, hor⟩ := acquiring_run (.inl (setThread_thread _ t _)) (by rfl)
        (by simp [hasFilled]) h.single (by simp [Accounted, hasFilled]) hrest h.done
        (by simpa [DbqState.setThread, returnedBy, hlocked.returned] using h.error)
      have hmine : ∀ th, (({ s with seqNum := s.seqNum + 1#32 }.setLocked ctxt true).setThread t
          th).ownRecord ctxt c.cmds.timestamp = s.ownRecord ctxt c.cmds.timestamp := by
        intro th
        simp [ownRecord, DbqState.setThread, hlocked.contextId]
      rw [hmine] at hacc
      rcases hor with ⟨hown, hsends⟩ | hfails
      · refine .inl ⟨hown, ?_, hsends⟩
        simpa [Accounted, hown] using hacc
      · exact .inr ⟨_, hts, hacc, hfails⟩

theorem FailedCall.keepsOwner_iff {s : DbqState} {t ctxt : Nat} {a : IssueArgs} {memory : Bool}
    {as : List DbqAct} {w : DbqWatch} (h : FailedCall s t ctxt a memory as w) :
    KeepsOwner w ↔ s.takesNothing t ctxt a as w := by
  unfold KeepsOwner takesNothing
  rcases h.outcome with ⟨hown, hpriv, hsends⟩ | ⟨ts, hts, hacc, b, hb, hfails⟩
  · exact iff_of_true (.inl hpriv) (.inl hsends)
  · have hnot : ¬∀ b ∈ as, b.sendFails t = false := by
      intro hall
      simp [hall b hb] at hfails
    unfold Accounted at hacc
    cases hown : w.own with
    | false => simp [hacc, hown]
    | true => simp [hacc, hown, hnot, hts, ownRecord]

/-! ### Any number of attempts -/

/-- A call on the context at `ctxt` fails without taking the buffer, and nobody else records a message
    of this context with the timestamp `ts`. -/
def FailsWell (ctxt : Nat) (ts : BitVec 32) (s s' : DbqState) : Prop :=
  ∃ t a memory as w, FailedCall s t ctxt a memory as w ∧ s.takesNothing t ctxt a as w ∧
    w.others ≠ s.ownRecord ctxt ts ∧ s' = w.queue

/-- The buffer is in use by a message of the context at `ctxt` with the timestamp `ts`. -/
def WaitsForItself (s : DbqState) (ctxt : Nat) (ts : BitVec 32) : Prop :=
  s.ibdescPriv = s.ownRecord ctxt ts

theorem exec_watch_contextId {t : Nat} {w w' : DbqWatch} {as : List DbqAct} (o : Nat)
    (hrun : Trace.exec (watch t) w as = some w') :
    (w'.queue.obj o).contextId = (w.queue.obj o).contextId := by
  refine Trace.exec_invariant (P := fun v => (v.queue.obj o).contextId = (w.queue.obj o).contextId)
    ?_ rfl hrun
  intro v b v' hv hstep
  have hmoves : ∃ t', MovesOnly t' v.queue v'.queue := by
    cases hthread : b.thread with
    | none => exact ⟨t, step_movesOnly (watch_eq_some hstep) (by simp [hthread])⟩
    | some t' =>
        refine ⟨t', step_movesOnly (watch_eq_some hstep) ?_⟩
        simp [hthread]
  obtain ⟨t', hmoves⟩ := hmoves
  exact (hmoves.contextId o).trans hv

theorem not_waitsForItself_of_attempts {s s' : DbqState} {ctxt : Nat} {ts : BitVec 32}
    (h : Relation.ReflTransGen (FailsWell ctxt ts) s s') (hts : ¬s.WaitsForItself ctxt ts) :
    ¬s'.WaitsForItself ctxt ts := by
  induction h with
  | refl => exact hts
  | @tail s₁ s₂ _ hlast ih =>
      obtain ⟨t, a, memory, as, w, hfailed, htakes, hothers, rfl⟩ := hlast
      have hid := exec_watch_contextId ctxt hfailed.run
      have hmine : w.queue.ownRecord ctxt ts = s₁.ownRecord ctxt ts := by simp [ownRecord, hid]
      unfold WaitsForItself
      rw [hmine]
      intro hself
      rcases hfailed.keepsOwner_iff.2 htakes with hkept | hfree
      · exact hothers (hkept.symm.trans hself)
      · simp [hself, ownRecord] at hfree

end DbqState

/-! ## Both functions -/

/-- A call that needs the buffer and fails leaves its record alone, or the buffer free, exactly if it
    takes nothing. As long as this is so, a submission that is tried again any number of times does not
    wait for itself. -/
theorem failedCall_keepsOwner_iff (s : DbcqCtxt) (q : DbqState) :
    (∀ a memory as s', DbcqCtxt.FailedCall s a memory as s' →
      (DbcqCtxt.KeepsOwner s s' ↔ s.takesNothing a as)) ∧
    (∀ s' ts, Relation.ReflTransGen DbcqCtxt.FailsWell s s' → ts ≠ s.indirectIbTs →
      ¬s'.WaitsForItself ts) ∧
    (∀ t ctxt a memory as w, DbqState.FailedCall q t ctxt a memory as w →
      (DbqState.KeepsOwner w ↔ q.takesNothing t ctxt a as w)) ∧
    ∀ q' ctxt ts, Relation.ReflTransGen (DbqState.FailsWell ctxt ts) q q' →
      ¬q.WaitsForItself ctxt ts → ¬q'.WaitsForItself ctxt ts :=
  ⟨fun _ _ _ _ h => h.keepsOwner_iff, fun _ _ => DbcqCtxt.not_waitsForItself_of_attempts,
    fun _ _ _ _ _ _ h => h.keepsOwner_iff, fun _ _ _ => DbqState.not_waitsForItself_of_attempts⟩

/-- A submission of 90 descriptors that is tried with the timestamp 7, as the dispatcher does it. -/
def drawobjSubmission : IssueArgs :=
  { DbcqCtxt.dbcqSubmission 90 with timestamp := 7#32, updateQueuedTs := false }

/-- The buffer of the context belongs to a message that has not retired. -/
def dbcqBusy : DbcqCtxt := { DbcqCtxt.dbcqStart with indirectIbTs := 1#32 }

/-- The shared buffer belongs to such a message of the context with id 5. -/
def dbqBusy : DbqState := { DbqState.sharedQueue with ibdescPriv := ⟨true, 5, 1#32⟩ }

/-- On either kind of queue the wait for the owner of the buffer comes to nothing. The call fails, takes
    nothing, and leaves the record as it was. -/
theorem failedCall_keepsOwner_iff_busy :
    (∃ s', DbcqCtxt.FailedCall dbcqBusy drawobjSubmission true [.acquire, .waited (-ETIMEDOUT)] s' ∧
      dbcqBusy.takesNothing drawobjSubmission [.acquire, .waited (-ETIMEDOUT)] ∧
      DbcqCtxt.KeepsOwner dbcqBusy s' ∧ ¬s'.WaitsForItself 7#32) ∧
    ∃ w, DbqState.FailedCall dbqBusy 4 2 drawobjSubmission true [.acquire 4, .woken 4 .timeUp] w ∧
      dbqBusy.takesNothing 4 2 drawobjSubmission [.acquire 4, .woken 4 .timeUp] w ∧
      DbqState.KeepsOwner w ∧ ¬w.queue.WaitsForItself 2 7#32 := by
  refine ⟨?_, ?_⟩
  · have heval : (Trace.exec DbcqCtxt.step dbcqBusy
        [.issue drawobjSubmission true, .acquire, .waited (-ETIMEDOUT)]).map
          (fun s => (s.phase, s.returned)) = some (.idle, [-EAGAIN]) := by
      decide +kernel
    obtain ⟨s', hs', heq⟩ := Option.map_eq_some_iff.1 heval
    obtain ⟨hdone, hreturned⟩ := Prod.mk.inj heq
    have hfailed : DbcqCtxt.FailedCall dbcqBusy drawobjSubmission true
        [.acquire, .waited (-ETIMEDOUT)] s' :=
      ⟨rfl, by decide, by decide, hs', hdone, -EAGAIN, by decide, hreturned⟩
    have htakes : dbcqBusy.takesNothing drawobjSubmission [.acquire, .waited (-ETIMEDOUT)] :=
      .inl (by decide)
    obtain ⟨hkeeps, hwaits, -⟩ := failedCall_keepsOwner_iff dbcqBusy dbqBusy
    exact ⟨s', hfailed, htakes, (hkeeps _ _ _ _ hfailed).2 htakes,
      hwaits _ _ (.single ⟨_, _, _, hfailed, htakes⟩) (by decide)⟩
  · have heval : (Trace.exec (DbqState.watch 4) { queue := dbqBusy, others := dbqBusy.ibdescPriv }
        [.issue 4 2 drawobjSubmission true, .acquire 4, .woken 4 .timeUp]).map
          (fun w => (w.queue.thread 4, w.queue.returnedBy 4, w.others)) =
        some (.idle, [-EAGAIN], ⟨true, 5, 1#32⟩) := by
      decide +kernel
    obtain ⟨w, hw, heq⟩ := Option.map_eq_some_iff.1 heval
    simp only [Prod.mk.injEq] at heq
    obtain ⟨hdone, hreturned, hothers⟩ := heq
    have hfailed : DbqState.FailedCall dbqBusy 4 2 drawobjSubmission true
        [.acquire 4, .woken 4 .timeUp] w :=
      ⟨rfl, by decide, by decide, hw, hdone, -EAGAIN, by decide, hreturned⟩
    have htakes : dbqBusy.takesNothing 4 2 drawobjSubmission [.acquire 4, .woken 4 .timeUp] w :=
      .inl (by decide)
    obtain ⟨-, -, hkeeps, hwaits⟩ := failedCall_keepsOwner_iff dbcqBusy dbqBusy
    refine ⟨w, hfailed, htakes, (hkeeps _ _ _ _ _ _ hfailed).2 htakes,
      hwaits _ _ _ (.single ⟨4, _, _, _, w, hfailed, htakes, ?_, rfl⟩)
        (by unfold DbqState.WaitsForItself; decide)⟩
    rw [hothers]
    decide

/-- The ring is full, and the send of a batch returns `-EAGAIN`. The next attempt finds the buffer in use
    by its own timestamp, on either kind of queue. -/
theorem resubmission_waits_for_itself :
    (∃ s', DbcqCtxt.FailedCall DbcqCtxt.dbcqStart drawobjSubmission true
        [.acquire, .fill, .send (-EAGAIN)] s' ∧
      ¬DbcqCtxt.KeepsOwner DbcqCtxt.dbcqStart s' ∧ s'.WaitsForItself 7#32) ∧
    ∃ w, DbqState.FailedCall DbqState.sharedQueue 4 2 drawobjSubmission true
        [.acquire 4, .send 4 (-EAGAIN)] w ∧
      ¬DbqState.KeepsOwner w ∧ w.queue.WaitsForItself 2 7#32 := by
  refine ⟨?_, ?_⟩
  · have heval : (Trace.exec DbcqCtxt.step DbcqCtxt.dbcqStart
        [.issue drawobjSubmission true, .acquire, .fill, .send (-EAGAIN)]).map
          (fun s => (s.phase, s.returned, s.indirectIbTs, s.shadowTs)) =
        some (.idle, [-EAGAIN], 7#32, some ⟨0#32, 0#32⟩) := by
      decide +kernel
    obtain ⟨s', hs', heq⟩ := Option.map_eq_some_iff.1 heval
    simp only [Prod.mk.injEq] at heq
    obtain ⟨hdone, hreturned, hts, hshadow⟩ := heq
    refine ⟨s', ⟨rfl, by decide, by decide, hs', hdone, -EAGAIN, by decide, hreturned⟩, ?_, ?_, hts⟩
    · rw [DbcqCtxt.KeepsOwner, hts]
      decide
    · simp [DbcqCtxt.dbcqGetFreeIndirectIbBuffer, hts, hshadow, hgslCheckShadowTimestamp, hgslTs32Ge,
        HGSL_DBCQ_IBDESC_SHORT_WAIT_MSEC]
  · have heval : (Trace.exec (DbqState.watch 4)
        { queue := DbqState.sharedQueue, others := DbqState.sharedQueue.ibdescPriv }
        [.issue 4 2 drawobjSubmission true, .acquire 4, .send 4 (-EAGAIN)]).map
          (fun w => (w.queue.thread 4, w.queue.returnedBy 4, w.queue.ibdescPriv, w.others,
            (w.queue.obj 2).contextId)) =
        some (.idle, [-EAGAIN], ⟨true, 7, 7#32⟩, {}, 7) := by
      decide +kernel
    obtain ⟨w, hw, heq⟩ := Option.map_eq_some_iff.1 heval
    simp only [Prod.mk.injEq] at heq
    obtain ⟨hdone, hreturned, hpriv, hothers, hid⟩ := heq
    refine ⟨w, ⟨rfl, by decide, by decide, hw, hdone, -EAGAIN, by decide, hreturned⟩, ?_, ?_⟩
    · rw [DbqState.KeepsOwner, hpriv, hothers]
      decide
    · rw [DbqState.WaitsForItself, hpriv, DbqState.ownRecord, hid]

end Hgsl
