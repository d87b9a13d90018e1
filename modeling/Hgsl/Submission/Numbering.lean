import Hgsl.DrawQueue.Effects
import Hgsl.Doorbell.ContextIssue

set_option autoImplicit false

/-! # Numbering submissions on both paths

A direct submission (`hgsl_dbcq_issue_cmd`, `hgsl_db_issue_cmd`) reads `queued_ts` in
`hgsl_db_next_timestamp`, sends its message and writes `queued_ts`, all of it under `ctxt->lock`. A
queued submission (`_queue_cmdobj`, `_queue_markerobj`) reads and writes it under `drawq_lock`. No lock
covers both, so the machine below keeps one submission in progress on each path and interleaves their
reads and writes. What a path does in between (the size of the message, the wait for an IB buffer, the
send, the skip bits) decides only whether the submission succeeds, which is the environment's choice
here. -/

namespace Hgsl

/-- A submission between its read of `queued_ts` and its write: the value that it read, and the
    timestamp that `hgsl_db_next_timestamp` made of it. -/
structure Numbered where
  base : BitVec 32
  ts : BitVec 32
  deriving DecidableEq, Repr

/-- A context, as far as the numbering of its submissions is concerned. -/
structure Numbering where
  flags : BitVec 32
  queuedTs : BitVec 32 := 0#32
  /-- the direct submission in progress, and whether its message is sent -/
  direct : Option (Numbered × Bool) := none
  /-- the queued submission in progress -/
  queue : Option Numbered := none
  /-- history: the timestamps of the successful submissions, in the order in which they stored
      `queued_ts` -/
  given : List (BitVec 32) := []
  deriving DecidableEq, Repr

/-- What can happen next. -/
inductive NumberAct where
  /-- a direct submission with `update_queued_ts` calls `hgsl_db_next_timestamp` -/
  | directStart (timestamp : BitVec 32)
  /-- it returns an error: no memory, no IB buffer, or the send failed -/
  | directFail
  /-- its message is sent -/
  | directSend
  /-- it stores `queued_ts` and returns 0 -/
  | directStore
  /-- a queued command or marker calls `hgsl_db_next_timestamp` -/
  | queueStart (userTs : BitVec 32)
  /-- it stores `queued_ts` -/
  | queueStore
  deriving DecidableEq, Repr

namespace Numbering

/-- `queued_ts` is stored. -/
def store (s : Numbering) (ts : BitVec 32) : Numbering :=
  { s with queuedTs := ts, given := s.given ++ [ts] }

/-- One step of either path. -/
def step (s : Numbering) : NumberAct → Option Numbering
  | .directStart timestamp =>
    match s.direct with
    | some _ => none
    | none =>
      match hgslDbNextTimestamp s.flags s.queuedTs timestamp with
      | .error _ => some s
      | .ok ts => some { s with direct := some (⟨s.queuedTs, ts⟩, false) }
  | .directFail =>
    match s.direct with
    | some (_, false) => some { s with direct := none }
    | _ => none
  | .directSend =>
    match s.direct with
    | some (n, false) => some { s with direct := some (n, true) }
    | _ => none
  | .directStore =>
    match s.direct with
    | some (n, true) => some { s.store n.ts with direct := none }
    | _ => none
  | .queueStart userTs =>
    match s.queue with
    | some _ => none
    | none =>
      match hgslDbNextTimestamp s.flags s.queuedTs userTs with
      | .error _ => some s
      | .ok ts => some { s with queue := some ⟨s.queuedTs, ts⟩ }
  | .queueStore =>
    match s.queue with
    | some n => some { s.store n.ts with queue := none }
    | none => none

/-- The timestamp that a step stores. -/
def stores (s : Numbering) : NumberAct → Option (BitVec 32)
  | .directStore => s.direct.map (·.1.ts)
  | .queueStore => s.queue.map (·.ts)
  | _ => none

/-- A step that stores a timestamp stores the one that `queued_ts`, as it stands at the store, is
    followed by: nothing else was stored since the submission read it. -/
def storesNext (s : Numbering) (a : NumberAct) : Prop :=
  ∀ ts ∈ s.stores a, hgslDbNextTimestamp s.flags s.queuedTs 0#32 = .ok ts

-- not by instance search, which would enumerate all words
instance (s : Numbering) (a : NumberAct) : Decidable (s.storesNext a) :=
  Option.decidableForallMem (s.stores a)

/-! ## The queued path

The machine of the draw queue, which runs a loop under `drawq_lock` in one step, numbers its objects
through `queueStart` and `queueStore`. -/

/-- The numbering of a context whose draw queue is in state `q`, with no queued submission in
    progress. -/
def ofQueue (q : QueueState) (direct : Option (Numbered × Bool)) (given : List (BitVec 32)) :
    Numbering :=
  { flags := q.flags, queuedTs := q.queuedTs, direct := direct, given := given }

/-- Some run of the numbering goes from the one context to the other. -/
def Numbers (q q' : QueueState) : Prop :=
  ∀ direct given, ∃ as given',
    Trace.exec step (ofQueue q direct given) as = some (ofQueue q' direct given')

theorem Numbers.of_eq {q q' : QueueState} (hflags : q'.flags = q.flags)
    (hts : q'.queuedTs = q.queuedTs) : Numbers q q' := by
  intro direct given
  refine ⟨[], given, ?_⟩
  simp only [Trace.exec_nil, ofQueue, hflags, hts]

theorem Numbers.trans {q₁ q₂ q₃ : QueueState} (h₁ : Numbers q₁ q₂) (h₂ : Numbers q₂ q₃) :
    Numbers q₁ q₃ := by
  intro direct given
  obtain ⟨as, given₁, hrun₁⟩ := h₁ direct given
  obtain ⟨bs, given₂, hrun₂⟩ := h₂ direct given₁
  refine ⟨as ++ bs, given₂, ?_⟩
  rw [Trace.exec_append, hrun₁, Option.bind_some, hrun₂]

/-- A queued object that takes a timestamp reads and stores `queued_ts`. -/
theorem Numbers.stamp {q q' : QueueState} {userTs ts : BitVec 32} (hflags : q'.flags = q.flags)
    (hnext : hgslDbNextTimestamp q.flags q.queuedTs userTs = .ok ts) (hts : q'.queuedTs = ts) :
    Numbers q q' := by
  intro direct given
  refine ⟨[.queueStart userTs, .queueStore], given ++ [ts], ?_⟩
  simp [Trace.exec, step, ofQueue, store, hnext, hflags, hts]

theorem queueOne_numbers (q : QueueState) (userTs timestamp : BitVec 32) (o : Nat) :
    Numbers q (QueueState.queueOne userTs q timestamp o).2.2 := by
  have hone := QueueState.queueOne_cases q o timestamp userTs
  generalize QueueState.queueOne userTs q timestamp o = r at hone
  cases hone with
  | refused | ignored => exact .of_eq rfl rfl
  | unstamped => exact .of_eq rfl rfl
  | stamped ts obj' htype hts => exact .stamp rfl hts rfl
  | retired ts htype hts => exact .stamp rfl hts rfl

theorem queueLoop_numbers {q₀ q : QueueState} (userTs timestamp : BitVec 32) {objs : List Nat}
    (h : Numbers q₀ q) : Numbers q₀ (QueueState.queueLoop userTs q timestamp objs).2.2 := by
  have hone (q : QueueState) (ts : BitVec 32) (o : Nat) (hq : Numbers q₀ q) :
      Numbers q₀ (QueueState.queueOne userTs q ts o).2.2 :=
    hq.trans (queueOne_numbers q userTs ts o)
  exact QueueState.queueLoop_rule_exit (P := fun q _ => Numbers q₀ q) userTs timestamp
    (fun q ts o _ hq _ => hone q ts o hq) (fun q ts o _ hq _ => hone q ts o hq) (fun _ hq => hq) h

/-- **Every step of the draw queue is a run of the numbering.** -/
theorem drawQueue_step_numbers {q q' : QueueState} {a : QueueAct} (h : q.step a = some q') :
    Numbers q q' := by
  cases a with
  | queueCmds ds timestamp =>
      simp only [QueueState.step] at h
      split at h
      · obtain rfl := Option.some.inj h
        obtain ⟨obj', -, hcases⟩ := QueueState.submit_cases q ds timestamp
        rcases hcases with heq | ⟨-, heq⟩ | ⟨-, -, -, heq⟩
        · rw [heq]
          exact .of_eq rfl rfl
        · rw [heq]
          exact .of_eq rfl rfl
        · rw [heq]
          exact queueLoop_numbers timestamp timestamp (.of_eq rfl rfl)
      · cases h
  | wakeRoom k _ | wakeTimeout k | wakeInterrupted k =>
      obtain ⟨sl, -, -, rfl⟩ := QueueState.wake_cases h
      exact .of_eq rfl rfl
  | relock k =>
      obtain ⟨sl, ret, -, -, -, rfl | ⟨-, rfl⟩⟩ := QueueState.relock_cases h
      · exact .of_eq rfl rfl
      · exact queueLoop_numbers sl.timestamp sl.timestamp (.of_eq rfl rfl)
  | passStart =>
      simp only [QueueState.step] at h
      split at h
      · obtain rfl := Option.some.inj h
        exact .of_eq rfl rfl
      · cases h
  | passScan =>
      simp only [QueueState.step] at h
      split at h
      · next i ret hd =>
          obtain rfl := Option.some.inj h
          have hscan := QueueState.scan_cases q i ret
          generalize q.scan i ret = r at hscan
          cases hscan <;> exact .of_eq rfl rfl
      · cases h
  | send r =>
      simp only [QueueState.step] at h
      split at h
      · next o hd =>
          obtain rfl := Option.some.inj h
          unfold QueueState.finishSend
          split
          · exact .of_eq rfl rfl
          · split <;> exact .of_eq rfl rfl
      · cases h
  | syncExpire o i =>
      obtain rfl := Option.some.inj h
      exact .of_eq rfl rfl
  | gpuRetire =>
      simp only [QueueState.step, QueueState.gpuRetire] at h
      split at h
      · cases h
      · obtain rfl := Option.some.inj h
        exact .of_eq rfl rfl
  | setInDestroy =>
      obtain rfl := Option.some.inj h
      exact .of_eq rfl rfl
  | detachDrawobjs =>
      simp only [QueueState.step] at h
      split at h
      · obtain rfl := Option.some.inj h
        exact .of_eq rfl rfl
      · cases h

/-! ## The direct path

A call of `hgsl_dbcq_issue_cmd` or `hgsl_db_issue_cmd` with `update_queued_ts` is a direct submission in
progress from its call of `hgsl_db_next_timestamp` on. -/

/-- The call in progress, and whether its message is sent. -/
def callOf : DbcqPhase → Option (IssueCall × Bool)
  | .idle => none
  | .acquiring c | .waiting c | .claimed c | .built c => some (c, false)
  | .sent c => some (c, true)

/-- A call as a direct submission in progress. -/
def numberedOf (queuedTs : BitVec 32) (c : IssueCall) (isSent : Bool) : Option (Numbered × Bool) :=
  if c.args.updateQueuedTs then some (⟨queuedTs, c.cmds.timestamp⟩, isSent) else none

/-- The numbering of a context on which `call` is in progress. -/
def ofCall (flags queuedTs : BitVec 32) (call : Option (IssueCall × Bool)) (given : List (BitVec 32)) :
    Numbering where
  flags := flags
  queuedTs := queuedTs
  direct := call.bind fun r => numberedOf queuedTs r.1 r.2
  given := given

section Call

variable (flags queuedTs : BitVec 32) (c : IssueCall) (given : List (BitVec 32))

/-- A call starts. -/
theorem call_starts (hnext : c.args.updateQueuedTs = true →
    hgslDbNextTimestamp flags queuedTs c.args.timestamp = .ok c.cmds.timestamp) :
    ∃ as, Trace.exec step (ofCall flags queuedTs none given) as =
      some (ofCall flags queuedTs (some (c, false)) given) := by
  by_cases hupdate : c.args.updateQueuedTs = true
  · refine ⟨[.directStart c.args.timestamp], ?_⟩
    simp [Trace.exec, step, ofCall, numberedOf, hupdate, hnext hupdate]
  · exact ⟨[], by simp [ofCall, numberedOf, hupdate]⟩

/-- A call that is not sent fails. -/
theorem call_fails : ∃ as, Trace.exec step (ofCall flags queuedTs (some (c, false)) given) as =
    some (ofCall flags queuedTs none given) := by
  by_cases hupdate : c.args.updateQueuedTs = true
  · exact ⟨[.directFail], by simp [Trace.exec, step, ofCall, numberedOf, hupdate]⟩
  · exact ⟨[], by simp [ofCall, numberedOf, hupdate]⟩

/-- The message is sent. -/
theorem call_sends : ∃ as, Trace.exec step (ofCall flags queuedTs (some (c, false)) given) as =
    some (ofCall flags queuedTs (some (c, true)) given) := by
  by_cases hupdate : c.args.updateQueuedTs = true
  · exact ⟨[.directSend], by simp [Trace.exec, step, ofCall, numberedOf, hupdate]⟩
  · exact ⟨[], by simp [ofCall, numberedOf, hupdate]⟩

/-- The call stores `queued_ts` if it numbers its submission, and returns. -/
theorem call_stores : ∃ as, Trace.exec step (ofCall flags queuedTs (some (c, true)) given) as =
    some (ofCall flags (if c.args.updateQueuedTs then c.cmds.timestamp else queuedTs) none
      (given ++ if c.args.updateQueuedTs then [c.cmds.timestamp] else [])) := by
  by_cases hupdate : c.args.updateQueuedTs = true
  · exact ⟨[.directStore], by simp [Trace.exec, step, ofCall, numberedOf, Numbering.store, hupdate]⟩
  · exact ⟨[], by simp [ofCall, numberedOf, hupdate]⟩

end Call

/-- The direct submission that a submitter stands for. -/
def directOf (s : DbcqCtxt) : Option (Numbered × Bool) :=
  (callOf s.phase).bind fun r => numberedOf s.queuedTs r.1 r.2

/-- The numbering of a context with a doorbell queue of its own. -/
def ofDbcq (s : DbcqCtxt) (given : List (BitVec 32)) : Numbering :=
  { flags := s.flags, queuedTs := s.queuedTs, direct := directOf s, given := given }

theorem ofDbcq_eq {s : DbcqCtxt} {call : Option (IssueCall × Bool)} (h : callOf s.phase = call)
    (given : List (BitVec 32)) : ofDbcq s given = ofCall s.flags s.queuedTs call given := by
  rw [← h]
  rfl

/-- Some run of the numbering goes from the one context to the other. -/
def DirectNumbers (s s' : DbcqCtxt) : Prop :=
  ∀ given, ∃ as given', Trace.exec step (ofDbcq s given) as = some (ofDbcq s' given')

theorem DirectNumbers.of_eq {s s' : DbcqCtxt} (hflags : s'.flags = s.flags)
    (hts : s'.queuedTs = s.queuedTs) (hdirect : directOf s' = directOf s) : DirectNumbers s s' := by
  intro given
  refine ⟨[], given, ?_⟩
  simp only [Trace.exec_nil, ofDbcq, hflags, hts, hdirect]

/-- A call that is not sent fails. -/
theorem DirectNumbers.ret {s : DbcqCtxt} {c : IssueCall} (e : Int)
    (hcall : callOf s.phase = some (c, false)) : DirectNumbers s (s.ret e) := by
  intro given
  rw [ofDbcq_eq hcall]
  obtain ⟨as, has⟩ := call_fails s.flags s.queuedTs c given
  exact ⟨as, given, has⟩

/-- What a call has made of its arguments when it needs the buffer or is complete. -/
theorem hgslDbcqIssueCmd_ok {s : DbcqCtxt} {a : IssueArgs} {memory : Bool} {c : IssueCall}
    (h : s.hgslDbcqIssueCmd a memory = .ok c) :
    c.args = a ∧ (a.updateQueuedTs = true →
      hgslDbNextTimestamp s.flags s.queuedTs a.timestamp = .ok c.cmds.timestamp) := by
  unfold DbcqCtxt.hgslDbcqIssueCmd at h
  split at h
  · cases h
  · dsimp only at h
    split at h
    · cases h
    · next ts hts =>
        split at h
        · cases h
        · obtain rfl := Except.ok.inj h
          refine ⟨rfl, ?_⟩
          intro hupdate
          rw [if_pos hupdate] at hts
          dsimp only
          split <;> exact hts

/-- The call goes on without a step of the numbering. -/
theorem DirectNumbers.same {s s' : DbcqCtxt} {c c' : IssueCall} {isSent : Bool}
    (hflags : s'.flags = s.flags) (hts : s'.queuedTs = s.queuedTs)
    (hcall : callOf s.phase = some (c, isSent)) (hcall' : callOf s'.phase = some (c', isSent))
    (hargs : c'.args = c.args) (hstamp : c'.cmds.timestamp = c.cmds.timestamp) :
    DirectNumbers s s' := by
  refine .of_eq hflags hts ?_
  simp only [directOf, hcall, hcall', Option.bind_some, numberedOf, hargs, hstamp, hts]

/-- A call starts. -/
theorem DirectNumbers.start {s s' : DbcqCtxt} {c : IssueCall} (hflags : s'.flags = s.flags)
    (hts : s'.queuedTs = s.queuedTs) (hidle : callOf s.phase = none)
    (hcall : callOf s'.phase = some (c, false))
    (hnext : c.args.updateQueuedTs = true →
      hgslDbNextTimestamp s.flags s.queuedTs c.args.timestamp = .ok c.cmds.timestamp) :
    DirectNumbers s s' := by
  intro given
  obtain ⟨as, has⟩ := call_starts s.flags s.queuedTs c given hnext
  exact ⟨as, given, by rw [ofDbcq_eq hidle, ofDbcq_eq hcall, hflags, hts, has]⟩

/-- The message is sent. -/
theorem DirectNumbers.send {s s' : DbcqCtxt} {c : IssueCall} (hflags : s'.flags = s.flags)
    (hts : s'.queuedTs = s.queuedTs) (hcall : callOf s.phase = some (c, false))
    (hcall' : callOf s'.phase = some (c, true)) : DirectNumbers s s' := by
  intro given
  obtain ⟨as, has⟩ := call_sends s.flags s.queuedTs c given
  exact ⟨as, given, by rw [ofDbcq_eq hcall, ofDbcq_eq hcall', hflags, hts, has]⟩

/-- The call stores `queued_ts` if it numbers its submission, and returns. -/
theorem DirectNumbers.store {s s' : DbcqCtxt} {c : IssueCall} (hflags : s'.flags = s.flags)
    (hts : s'.queuedTs = if c.args.updateQueuedTs then c.cmds.timestamp else s.queuedTs)
    (hcall : callOf s.phase = some (c, true)) (hidle : callOf s'.phase = none) :
    DirectNumbers s s' := by
  intro given
  obtain ⟨as, has⟩ := call_stores s.flags s.queuedTs c given
  exact ⟨as, _, by rw [ofDbcq_eq hcall, ofDbcq_eq hidle, hflags, hts, has]⟩

theorem finishIssue_eq (s : DbcqCtxt) (c : IssueCall) (wait : Int) :
    (s.finishIssue c wait).flags = s.flags ∧ (s.finishIssue c wait).queuedTs =
      (if c.args.updateQueuedTs then c.cmds.timestamp else s.queuedTs) ∧
      (s.finishIssue c wait).phase = .idle := by
  have hpoll (t : DbcqCtxt) : (t.pollIndirectIbBuffer wait).flags = t.flags ∧
      (t.pollIndirectIbBuffer wait).queuedTs = t.queuedTs := by
    rcases t.pollIndirectIbBuffer_cases wait with heq | heq <;> rw [heq] <;> exact ⟨rfl, rfl⟩
  unfold DbcqCtxt.finishIssue DbcqCtxt.ret
  dsimp only
  split <;> split <;> simp [hpoll]

/-- **Every step of a submission through the queue of a context is a run of the numbering.** -/
theorem dbcq_step_numbers {s s' : DbcqCtxt} {a : DbcqAct} (h : s.step a = some s') :
    DirectNumbers s s' := by
  cases a with
  | issue a memory =>
      simp only [DbcqCtxt.step] at h
      split at h
      · next hphase =>
          have hidle : callOf s.phase = none := by rw [hphase]; rfl
          split at h
          · obtain rfl := Option.some.inj h
            refine .of_eq rfl rfl ?_
            show none = directOf s
            rw [directOf, hidle, Option.bind_none]
          · next c hc =>
              obtain rfl := Option.some.inj h
              obtain ⟨rfl, hnext⟩ := hgslDbcqIssueCmd_ok hc
              refine .start (c := c) rfl rfl hidle ?_ hnext
              by_cases hbatch : c.isBatchIbdesc = true
              · simp only [if_pos hbatch, callOf]
              · simp only [if_neg hbatch, callOf]
      · cases h
  | acquire =>
      simp only [DbcqCtxt.step] at h
      split at h
      · next c hphase =>
          have hcall : callOf s.phase = some (c, false) := by rw [hphase]; rfl
          split at h
          · next r hr =>
              obtain rfl := Option.some.inj h
              rw [DbcqCtxt.dbcqGetFreeIndirectIbBuffer_eq hr]
              exact .same rfl rfl hcall rfl rfl rfl
          · obtain rfl := Option.some.inj h
            exact .same rfl rfl hcall rfl rfl rfl
      · cases h
  | waited ret =>
      obtain ⟨c, hphase, hcases⟩ := DbcqCtxt.waited_cases h
      have hcall : callOf s.phase = some (c, false) := by rw [hphase]; rfl
      rcases hcases with ⟨-, rfl⟩ | ⟨-, e, rfl⟩
      · exact .same rfl rfl hcall rfl rfl rfl
      · exact .ret e hcall
  | fill =>
      simp only [DbcqCtxt.step] at h
      split at h
      · next c hphase =>
          have hcall : callOf s.phase = some (c, false) := by rw [hphase]; rfl
          obtain rfl := Option.some.inj h
          exact .same rfl rfl hcall rfl rfl rfl
      · cases h
  | send ret =>
      simp only [DbcqCtxt.step] at h
      split at h
      · next c hphase =>
          have hcall : callOf s.phase = some (c, false) := by rw [hphase]; rfl
          split at h
          · obtain rfl := Option.some.inj h
            exact .send rfl rfl hcall rfl
          · obtain rfl := Option.some.inj h
            exact .ret ret hcall
      · cases h
  | finish wait =>
      simp only [DbcqCtxt.step] at h
      split at h
      · next c hphase =>
          have hcall : callOf s.phase = some (c, true) := by rw [hphase]; rfl
          obtain rfl := Option.some.inj h
          obtain ⟨hflags, hts, hidle⟩ := finishIssue_eq s c wait
          exact .store hflags hts hcall (by rw [hidle]; rfl)
      · cases h
  | gpuRetire =>
      simp only [DbcqCtxt.step, DbcqCtxt.gpuRetire] at h
      split at h
      · cases h
      · obtain rfl := Option.some.inj h
        exact .of_eq rfl rfl rfl
  | setInDestroy =>
      obtain rfl := Option.some.inj h
      exact .of_eq rfl rfl rfl

/-! ## The driver's sequence -/

/-- How many submissions it takes until a timestamp comes back: 0 and `~0` are left out. -/
def tsPeriod : Nat := 2 ^ 32 - 2

/-- The value of `queued_ts` after `n` submissions one after the other. -/
def tsAt : Nat → BitVec 32
  | 0 => 0#32
  | n + 1 => BitVec.ofNat 32 (n % tsPeriod + 1)

theorem tsAt_succ_toNat (n : Nat) : (tsAt (n + 1)).toNat = n % tsPeriod + 1 := by
  have hlt : n % tsPeriod < tsPeriod := Nat.mod_lt n (by decide)
  unfold tsPeriod at hlt
  simp only [tsAt, BitVec.toNat_ofNat]
  unfold tsPeriod
  omega

theorem tsAt_succ_eq_iff (i j : Nat) :
    tsAt (i + 1) = tsAt (j + 1) ↔ i % tsPeriod = j % tsPeriod := by
  rw [← BitVec.toNat_inj, tsAt_succ_toNat, tsAt_succ_toNat]
  exact Nat.add_right_cancel_iff

/-- `hgsl_db_next_timestamp` of a driver-generated context goes on in the sequence. -/
theorem nextTimestamp_tsAt {flags : BitVec 32} (hflags : DriverGenerated flags) (n : Nat)
    (timestamp : BitVec 32) :
    hgslDbNextTimestamp flags (tsAt n) timestamp = .ok (tsAt (n + 1)) := by
  unfold hgslDbNextTimestamp
  rw [if_neg hflags.1, if_neg (not_not_intro hflags.2)]
  refine congrArg Except.ok (BitVec.eq_of_toNat_eq ?_)
  have hprev : (tsAt n).toNat = if n = 0 then 0 else (n - 1) % tsPeriod + 1 := by
    cases n with
    | zero => rfl
    | succ n => exact tsAt_succ_toNat n
  have hadd : (tsAt n + 1#32).toNat = ((tsAt n).toNat + 1) % 2 ^ 32 := by
    rw [BitVec.toNat_add, BitVec.toNat_ofNat]
  have hmax : tsAt n + 1#32 = BitVec.allOnes 32 ↔ (tsAt n + 1#32).toNat = 2 ^ 32 - 1 := by
    rw [← BitVec.toNat_inj, BitVec.toNat_allOnes]
  rw [tsAt_succ_toNat]
  unfold tsPeriod at hprev ⊢
  split
  · next h =>
      rw [hmax, hadd, hprev] at h
      rw [BitVec.toNat_ofNat]
      split at h <;> omega
  · next h =>
      rw [hmax, hadd, hprev] at h
      rw [hadd, hprev]
      split at h <;> split <;> omega

/-! ## Uniqueness -/

/-- A timestamp comes back only after all the others. -/
def UniqueTimestamps (given : List (BitVec 32)) : Prop :=
  ∀ i j ts, i < j → given[i]? = some ts → given[j]? = some ts → tsPeriod ≤ j - i

/-- The first `n` timestamps of the sequence. -/
def issued (n : Nat) : List (BitVec 32) := (List.range n).map fun i => tsAt (i + 1)

theorem issued_length (n : Nat) : (issued n).length = n := by simp [issued]

theorem issued_succ (n : Nat) : issued (n + 1) = issued n ++ [tsAt (n + 1)] := by
  simp [issued, List.range_succ]

theorem issued_getElem? {n i : Nat} (hi : i < n) : (issued n)[i]? = some (tsAt (i + 1)) := by
  simp [issued, hi]

theorem issued_unique (n : Nat) : UniqueTimestamps (issued n) := by
  intro i j ts hij hi hj
  have hjn : j < n := by
    have hlt := (List.getElem?_eq_some_iff.1 hj).1
    rwa [issued_length] at hlt
  rw [issued_getElem? (hij.trans hjn)] at hi
  rw [issued_getElem? hjn, ← hi, Option.some.injEq, tsAt_succ_eq_iff] at hj
  unfold tsPeriod at hj ⊢
  omega

/-- Any other timestamp handed out before would be repeated too early. -/
theorem not_unique_of_stale {n k : Nat} (hk : k ≤ n) (hne : tsAt (k + 1) ≠ tsAt (n + 1)) :
    ¬ UniqueTimestamps (issued n ++ [tsAt (k + 1)]) := by
  intro hunique
  have hne' : k % tsPeriod ≠ n % tsPeriod := fun h => hne ((tsAt_succ_eq_iff k n).2 h)
  have hkn : k < n := by
    rcases Nat.lt_or_eq_of_le hk with hlt | rfl
    · exact hlt
    · exact absurd rfl hne'
  -- the last place before `n` where the sequence has this timestamp
  let i := n - 1 - (n - 1 - k) % tsPeriod
  have hi : i < n ∧ n - i < tsPeriod ∧ i % tsPeriod = k % tsPeriod := by
    show n - 1 - (n - 1 - k) % tsPeriod < n ∧ n - (n - 1 - (n - 1 - k) % tsPeriod) < tsPeriod ∧
      (n - 1 - (n - 1 - k) % tsPeriod) % tsPeriod = k % tsPeriod
    unfold tsPeriod at hne' ⊢
    omega
  have hold : (issued n ++ [tsAt (k + 1)])[i]? = some (tsAt (k + 1)) := by
    rw [List.getElem?_append_left (by rw [issued_length]; exact hi.1), issued_getElem? hi.1,
      (tsAt_succ_eq_iff i k).2 hi.2.2]
  have hnew : (issued n ++ [tsAt (k + 1)])[n]? = some (tsAt (k + 1)) := by
    simp [issued_length]
  have hfar := hunique i n _ hi.1 hold hnew
  omega

/-- What holds after a run whose stores are all in order. -/
structure InSequence (s : Numbering) : Prop where
  driver : DriverGenerated s.flags
  queuedTs : s.queuedTs = tsAt s.given.length
  given : s.given = issued s.given.length
  /-- a submission in progress has a timestamp of the sequence, perhaps an old one -/
  direct : ∀ n ∈ s.direct, ∃ k ≤ s.given.length, n.1.ts = tsAt (k + 1)
  queue : ∀ n ∈ s.queue, ∃ k ≤ s.given.length, n.ts = tsAt (k + 1)

theorem InSequence.fresh {flags : BitVec 32} (hflags : DriverGenerated flags) :
    InSequence { flags := flags } where
  driver := hflags
  queuedTs := rfl
  given := rfl
  direct := nofun
  queue := nofun

theorem InSequence.next {s : Numbering} (h : InSequence s) (timestamp : BitVec 32) :
    hgslDbNextTimestamp s.flags s.queuedTs timestamp = .ok (tsAt (s.given.length + 1)) := by
  rw [h.queuedTs]
  exact nextTimestamp_tsAt h.driver s.given.length timestamp

/-- Storing the next timestamp of the sequence. -/
theorem InSequence.store {s : Numbering} (h : InSequence s) {ts : BitVec 32}
    (hts : ts = tsAt (s.given.length + 1)) : InSequence (s.store ts) where
  driver := h.driver
  queuedTs := by
    show ts = tsAt (s.given ++ [ts]).length
    rw [hts, List.length_append, List.length_singleton]
  given := by
    show s.given ++ [ts] = issued (s.given ++ [ts]).length
    rw [List.length_append, List.length_singleton, issued_succ, ← h.given, hts]
  direct n hn := by
    obtain ⟨k, hk, heq⟩ := h.direct n hn
    refine ⟨k, hk.trans ?_, heq⟩
    simp [Numbering.store]
  queue n hn := by
    obtain ⟨k, hk, heq⟩ := h.queue n hn
    refine ⟨k, hk.trans ?_, heq⟩
    simp [Numbering.store]

/-- A step that stores nothing leaves the sequence alone; a step that stores a timestamp stores one
    of the sequence. -/
theorem InSequence.step_cases {s s' : Numbering} {a : NumberAct} (h : InSequence s)
    (hstep : s.step a = some s') :
    (s.stores a = none ∧ InSequence s' ∧ s'.given = s.given ∧ s'.queuedTs = s.queuedTs) ∨
    ∃ k ≤ s.given.length, s.stores a = some (tsAt (k + 1)) ∧
      s'.given = s.given ++ [tsAt (k + 1)] ∧ s'.queuedTs = tsAt (k + 1) ∧
      (tsAt (k + 1) = tsAt (s.given.length + 1) → InSequence s') := by
  cases a with
  | directStart timestamp =>
      simp only [step, h.next timestamp] at hstep
      split at hstep
      · cases hstep
      · obtain rfl := Option.some.inj hstep
        refine .inl ⟨rfl, { h with direct := ?_ }, rfl, rfl⟩
        intro n hn
        obtain rfl := Option.some.inj hn
        exact ⟨s.given.length, le_rfl, rfl⟩
  | directFail =>
      simp only [step] at hstep
      split at hstep
      · obtain rfl := Option.some.inj hstep
        exact .inl ⟨rfl, { h with direct := nofun }, rfl, rfl⟩
      · cases hstep
  | directSend =>
      simp only [step] at hstep
      split at hstep
      · next n hn =>
          obtain rfl := Option.some.inj hstep
          refine .inl ⟨rfl, { h with direct := ?_ }, rfl, rfl⟩
          intro n' hn'
          obtain rfl := Option.some.inj hn'
          exact h.direct (n, false) hn
      · cases hstep
  | directStore =>
      simp only [step] at hstep
      split at hstep
      · next n hn =>
          obtain rfl := Option.some.inj hstep
          obtain ⟨k, hk, hts⟩ := h.direct (n, true) hn
          replace hts : n.ts = tsAt (k + 1) := hts
          refine .inr ⟨k, hk, ?_, ?_, hts, ?_⟩
          · simp only [stores, hn, Option.map_some, hts]
          · simp only [Numbering.store, hts]
          · intro heq
            exact { h.store (hts.trans heq) with direct := nofun }
      · cases hstep
  | queueStart userTs =>
      simp only [step, h.next userTs] at hstep
      split at hstep
      · cases hstep
      · obtain rfl := Option.some.inj hstep
        refine .inl ⟨rfl, { h with queue := ?_ }, rfl, rfl⟩
        intro n hn
        obtain rfl := Option.some.inj hn
        exact ⟨s.given.length, le_rfl, rfl⟩
  | queueStore =>
      simp only [step] at hstep
      split at hstep
      · next n hn =>
          obtain rfl := Option.some.inj hstep
          obtain ⟨k, hk, hts⟩ := h.queue n hn
          refine .inr ⟨k, hk, ?_, ?_, hts, ?_⟩
          · simp only [stores, hn, Option.map_some, hts]
          · simp only [Numbering.store, hts]
          · intro heq
            exact { h.store (hts.trans heq) with queue := nofun }
      · cases hstep

/-- A store is in order if and only if it stores the next timestamp of the sequence. -/
theorem InSequence.storesNext_iff {s : Numbering} (h : InSequence s) {a : NumberAct}
    {ts : BitVec 32} (hts : s.stores a = some ts) :
    s.storesNext a ↔ ts = tsAt (s.given.length + 1) := by
  unfold storesNext
  rw [hts, h.next]
  simp [eq_comm]

theorem InSequence.step {s s' : Numbering} {a : NumberAct} (h : InSequence s)
    (hstep : Trace.guarded storesNext step s a = some s') : InSequence s' := by
  obtain ⟨hnext, hstep⟩ := Trace.guarded_eq_some.1 hstep
  rcases h.step_cases hstep with ⟨-, h', -, -⟩ | ⟨k, -, hts, -, -, h'⟩
  · exact h'
  · exact h' ((h.storesNext_iff hts).1 hnext)

theorem InSequence.unique {s : Numbering} (h : InSequence s) : UniqueTimestamps s.given := by
  rw [h.given]
  exact issued_unique s.given.length

/-- The next timestamp is ahead of the last one. -/
theorem InSequence.next_ge {s : Numbering} (h : InSequence s) :
    hgslTs32Ge (tsAt (s.given.length + 1)) s.queuedTs = true := by
  rw [hgslTs32Ge_iff, Serial.Ge, Serial.dist, h.queuedTs, BitVec.toNat_sub, tsAt_succ_toNat]
  cases hn : s.given.length with
  | zero => decide
  | succ n =>
      rw [tsAt_succ_toNat]
      -- one further, or from the last timestamp of the sequence to the first
      have hnext : (n + 1) % tsPeriod = n % tsPeriod + 1 ∨
          (n + 1) % tsPeriod = 0 ∧ n % tsPeriod = tsPeriod - 1 := by
        unfold tsPeriod
        omega
      have hlt : n % tsPeriod < tsPeriod := Nat.mod_lt n (by decide)
      generalize (n + 1) % tsPeriod = y at hnext
      generalize n % tsPeriod = x at hnext hlt
      unfold tsPeriod at hnext hlt
      omega

/-- In a run in which every store was in order, a step keeps the timestamps unique and `queued_ts`
    from going back exactly if it is in order itself. -/
theorem timestamps_unique_iff_stores_next {flags : BitVec 32} (hflags : DriverGenerated flags)
    {as : List NumberAct} {s : Numbering}
    (h : Trace.exec (Trace.guarded storesNext step) { flags := flags } as = some s) :
    UniqueTimestamps s.given ∧ ∀ a s', s.step a = some s' →
      (s.storesNext a ↔
        UniqueTimestamps s'.given ∧ hgslTs32Ge s'.queuedTs s.queuedTs = true) := by
  have hseq : InSequence s :=
    Trace.exec_invariant (fun _ _ _ h hstep => h.step hstep) (InSequence.fresh hflags) h
  refine ⟨hseq.unique, ?_⟩
  intro a s' hstep
  rcases hseq.step_cases hstep with ⟨hnone, h', -, hts⟩ | ⟨k, hk, hsome, hgiven, hts, h'⟩
  · refine iff_of_true ?_ ⟨h'.unique, ?_⟩
    · intro ts hmem
      rw [hnone] at hmem
      cases hmem
    · rw [hts, hgslTs32Ge_iff]
      exact Serial.ge_refl s.queuedTs
  · rw [hseq.storesNext_iff hsome]
    constructor
    · intro heq
      refine ⟨(h' heq).unique, ?_⟩
      rw [hts, heq]
      exact hseq.next_ge
    · rintro ⟨hunique, -⟩
      by_contra hne
      rw [hgiven, hseq.given] at hunique
      exact not_unique_of_stale hk hne hunique

/-- Two submissions one after the other, and a direct one that fails in between. -/
def inOrderRun : List NumberAct :=
  [.queueStart 0#32, .queueStore, .directStart 0#32, .directFail, .directStart 0#32, .directSend,
    .directStore]

/-- Two commands are queued while a direct submission is being sent. -/
def overlappingRun : List NumberAct :=
  [.directStart 0#32, .directSend, .queueStart 0#32, .queueStore, .queueStart 0#32, .queueStore]

theorem timestamps_unique_iff_stores_next_run :
    ∃ s, Trace.exec (Trace.guarded storesNext step) { flags := 0x80#32 } inOrderRun = some s ∧
      s.given = [1#32, 2#32] ∧ UniqueTimestamps s.given := by
  have hrun : Trace.exec (Trace.guarded storesNext step) { flags := 0x80#32 } inOrderRun =
      some { flags := 0x80#32, queuedTs := 2#32, given := [1#32, 2#32] } := by
    decide +kernel
  exact ⟨_, hrun, rfl, (timestamps_unique_iff_stores_next (by decide) hrun).1⟩

/-- The timestamp of the direct submission is given twice, and `queued_ts` goes back from 2 to 1. -/
theorem direct_submission_repeats_timestamp :
    ∃ s s', Trace.exec step { flags := 0x80#32 } overlappingRun = some s ∧
      s.step .directStore = some s' ∧ s'.given = [1#32, 2#32, 1#32] ∧
      ¬ UniqueTimestamps s'.given ∧ hgslTs32Ge s'.queuedTs s.queuedTs = false := by
  refine ⟨⟨0x80#32, 2#32, some (⟨0#32, 1#32⟩, true), none, [1#32, 2#32]⟩,
    ⟨0x80#32, 1#32, none, none, [1#32, 2#32, 1#32]⟩,
    by decide +kernel, by decide +kernel, rfl, ?_, by decide +kernel⟩
  intro hunique
  have hfar := hunique 0 2 1#32 (by decide) rfl rfl
  exact absurd hfar (by decide)

end Numbering

end Hgsl
