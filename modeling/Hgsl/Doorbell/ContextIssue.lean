import Hgsl.Doorbell.Message
import Hgsl.Lib.Trace

set_option autoImplicit false

/-! # Submissions through the queue of a context

`hgsl_dbcq_issue_cmd` on a context whose queue is open, and `dbcq_get_free_indirect_ib_buffer`, which
it uses to claim the one buffer for IB descriptors, to wait for it and to give it up. Calls exclude each
other (`ctxt->lock`); the GPU retires messages at any time, so a call is cut wherever it looks at the
shadow timestamps or touches memory that the GPU reads.

Left out: opening the queue, tracing, and the branch for killed contexts (nothing sets `is_killed`). -/

namespace Hgsl

/-- `HGSL_CTXT_QUEUE_BODY_DWSIZE` -/
def HGSL_CTXT_QUEUE_BODY_DWSIZE : Nat := 256

/-- `HGSL_CTXT_QUEUE_INDIRECT_IB_SIZE` -/
def HGSL_CTXT_QUEUE_INDIRECT_IB_SIZE : Nat := 6000 * 4

/-- `HGSL_DBCQ_IBDESC_SHORT_WAIT_MSEC` -/
def HGSL_DBCQ_IBDESC_SHORT_WAIT_MSEC : Nat := 5000

/-- Where the one submitter stands. -/
inductive DbcqPhase where
  | idle
  /-- about to look for the indirect IB buffer -/
  | acquiring (c : IssueCall)
  /-- in `hgsl_wait_timestamp` (or `hgsl_hyp_wait_timestamp`) for it -/
  | waiting (c : IssueCall)
  /-- the buffer is claimed and not yet written -/
  | claimed (c : IssueCall)
  /-- the message is complete -/
  | built (c : IssueCall)
  /-- `dbcq_send_msg` has returned 0 -/
  | sent (c : IssueCall)
  deriving DecidableEq, Repr

/-- A context with a doorbell queue of its own. -/
structure DbcqCtxt where
  contextId : BitVec 32
  flags : BitVec 32
  queuedTs : BitVec 32 := 0#32
  shadowTs : Option ShadowTs
  inDestroy : Bool := false
  seqNum : BitVec 32 := 0#32
  indirectIbsGmuaddr : BitVec 32
  /-- the descriptors in the indirect IB buffer -/
  indirectIbs : List FwIbDesc := []
  /-- the owner of the indirect IB buffer; 0 means that it is free -/
  indirectIbTs : BitVec 32 := 0#32
  phase : DbcqPhase := .idle
  /-- sent and not yet retired by the GPU, oldest first -/
  inFlight : List IssueCall := []
  /-- history: the indirect IB buffer was written while a message that points to it was sent and not
      retired -/
  overwrote : Bool := false
  /-- history: what the calls returned -/
  returned : List Int := []
  deriving DecidableEq, Repr

/-- What can happen next. -/
inductive DbcqAct where
  /-- a call of `hgsl_dbcq_issue_cmd`, up to the point where it has its message or needs the buffer;
      `memory` is the success of its allocation -/
  | issue (a : IssueArgs) (memory : Bool)
  /-- `dbcq_get_free_indirect_ib_buffer` looks at the owner -/
  | acquire
  /-- its wait returns -/
  | waited (ret : Int)
  /-- the descriptors are copied to the buffer -/
  | fill
  /-- `dbcq_send_msg` returns -/
  | send (ret : Int)
  /-- the rest of the call; `wait` is what `hgsl_hyp_wait_timestamp` returns if it is called -/
  | finish (wait : Int)
  /-- the GPU retires the oldest message -/
  | gpuRetire
  /-- `hgsl_ctxt_destroy` sets `in_destroy` -/
  | setInDestroy
  deriving DecidableEq, Repr

namespace DbcqCtxt

/-- `hgsl_check_shadow_timestamp` finds that `ts` has retired. -/
def expired (s : DbcqCtxt) (ts : BitVec 32) : Bool :=
  match hgslCheckShadowTimestamp s.shadowTs ts with
  | .ok e => e
  | .error _ => false

/-- A message that points to the indirect IB buffer is sent and not retired. -/
def bufferInUse (s : DbcqCtxt) : Bool :=
  s.inFlight.any fun c => c.isBatchIbdesc && !s.expired c.cmds.timestamp

/-! ## The functions -/

/-- The batch decision of `hgsl_dbcq_issue_cmd`. -/
def needsBatch (numIbs : Nat) : Bool :=
  let msgDwordsAligned := align4Nat (msgIssueInfSz + msgIssueIbsSz numIbs)
  HGSL_CTXT_QUEUE_BODY_DWSIZE ≤ msgDwordsAligned || msgSzMax < msgDwordsAligned

/-- `hgsl_dbcq_issue_cmd` up to the point where the message is complete or needs the indirect IB
    buffer. -/
def hgslDbcqIssueCmd (s : DbcqCtxt) (a : IssueArgs) (memory : Bool) : Except Int IssueCall :=
  if ECP_MAX_NUM_IB1 < a.numIbs ∨ HGSL_CTXT_QUEUE_INDIRECT_IB_SIZE < a.numIbs * sizeofFwIbDesc then
    .error (-EINVAL)
  else
    let isBatchIbdesc := needsBatch a.numIbs
    let msgDwords := if isBatchIbdesc then msgIssueInfSz else msgIssueInfSz + msgIssueIbsSz a.numIbs
    match if a.updateQueuedTs then hgslDbNextTimestamp s.flags s.queuedTs a.timestamp
        else .ok a.timestamp with
    | .error e => .error e
    | .ok timestamp =>
      if !memory then .error (-ENOMEM)
      else
        let cmds := a.cmds s.contextId timestamp (BitVec.ofNat 32 msgDwords) s.seqNum
        .ok {
          args := a
          isBatchIbdesc := isBatchIbdesc
          msgDwords := msgDwords
          cmds := if isBatchIbdesc then cmds else cmds.inline a.ibDescs }

/-- `dbcq_get_free_indirect_ib_buffer` up to its wait: 0 and the new owner, or `none` if it has to
    wait. -/
def dbcqGetFreeIndirectIbBuffer (s : DbcqCtxt) (ts : BitVec 32) (timeoutInMs : Nat) :
    Option (Int × DbcqCtxt) :=
  if s.indirectIbTs ≠ 0#32 then
    match hgslCheckShadowTimestamp s.shadowTs s.indirectIbTs with
    | .ok true => some (0, { s with indirectIbTs := ts })
    -- not retired, and nothing to wait for: the function goes on as if it had the buffer
    | .ok false => if timeoutInMs ≠ 0 then none else some (0, { s with indirectIbTs := ts })
    | .error _ => none
  else some (0, { s with indirectIbTs := ts })

/-- `dbcq_get_free_indirect_ib_buffer` from the return of its wait on. -/
def dbcqGetFreeIndirectIbBufferWaited (s : DbcqCtxt) (ts : BitVec 32) (ret : Int) : Int × DbcqCtxt :=
  if ret ≠ 0 then (if ret = -ETIMEDOUT then -EAGAIN else ret, s)
  else (0, { s with indirectIbTs := ts })

/-- The wait for the owner may return `ret`: `hgsl_wait_timestamp` returns 0 when the timestamp has
    retired or the context is being destroyed. Without shadow timestamps the backend decides. -/
def mayReturn (s : DbcqCtxt) (ret : Int) : Bool :=
  match hgslCheckShadowTimestamp s.shadowTs s.indirectIbTs with
  | .ok e => ret ≠ 0 || e || s.inDestroy
  | .error _ => true

/-- Without a wait the function sets the owner. -/
theorem dbcqGetFreeIndirectIbBuffer_eq {s : DbcqCtxt} {ts : BitVec 32} {timeoutInMs : Nat}
    {r : Int × DbcqCtxt} (h : s.dbcqGetFreeIndirectIbBuffer ts timeoutInMs = some r) :
    r = (0, { s with indirectIbTs := ts }) := by
  unfold dbcqGetFreeIndirectIbBuffer at h
  split at h
  · split at h
    · exact (Option.some.inj h).symm
    · split at h
      · cases h
      · exact (Option.some.inj h).symm
    · cases h
  · exact (Option.some.inj h).symm

/-- A call returns `ret`. -/
def ret (s : DbcqCtxt) (ret : Int) : DbcqCtxt :=
  { s with phase := .idle, returned := s.returned ++ [ret] }

/-- The descriptors go to the indirect IB buffer and the message points to it. -/
def fillBuffer (s : DbcqCtxt) (c : IssueCall) : DbcqCtxt :=
  { s with
    indirectIbs := copyIbs s.indirectIbs c.args.ibDescs
    overwrote := s.overwrote || s.bufferInUse
    phase := .built { c with cmds := c.cmds.indirect s.indirectIbsGmuaddr } }

/-- The call `dbcq_get_free_indirect_ib_buffer(priv, ctxt, 0, 0)`, a quick check whether the buffer can
    be given up. -/
def pollIndirectIbBuffer (s : DbcqCtxt) (wait : Int) : DbcqCtxt :=
  match s.dbcqGetFreeIndirectIbBuffer 0#32 0 with
  | some r => r.2
  | none => (s.dbcqGetFreeIndirectIbBufferWaited 0#32 wait).2

/-- The poll gives the buffer up or does nothing. -/
theorem pollIndirectIbBuffer_cases (s : DbcqCtxt) (wait : Int) :
    s.pollIndirectIbBuffer wait = s ∨ s.pollIndirectIbBuffer wait = { s with indirectIbTs := 0#32 } := by
  unfold pollIndirectIbBuffer
  split
  · next r hr =>
      right
      rw [dbcqGetFreeIndirectIbBuffer_eq hr]
  · unfold dbcqGetFreeIndirectIbBufferWaited
    split
    · exact .inl rfl
    · exact .inr rfl

/-- The end of a successful call: `queued_ts` is stored, and an inline submission polls the indirect
    IB buffer. -/
def finishIssue (s : DbcqCtxt) (c : IssueCall) (wait : Int) : DbcqCtxt :=
  let s₁ := if c.args.updateQueuedTs then { s with queuedTs := c.cmds.timestamp } else s
  (if c.isBatchIbdesc then s₁ else s₁.pollIndirectIbBuffer wait).ret 0

/-- The GPU writes the timestamp of the oldest message to `eop`. -/
def gpuRetire (s : DbcqCtxt) : Option DbcqCtxt :=
  match s.inFlight with
  | [] => none
  | c :: rest =>
    some { s with
      inFlight := rest
      shadowTs := s.shadowTs.map fun sh => { sh with eop := c.cmds.timestamp } }

/-! ## The steps -/

/-- One step of the context. -/
def step (s : DbcqCtxt) : DbcqAct → Option DbcqCtxt
  | .issue a memory =>
    match s.phase with
    | .idle =>
      let s₁ := { s with seqNum := s.seqNum + 1#32 }
      match s.hgslDbcqIssueCmd a memory with
      | .error e => some (s₁.ret e)
      | .ok c => some { s₁ with phase := if c.isBatchIbdesc then .acquiring c else .built c }
    | _ => none
  | .acquire =>
    match s.phase with
    | .acquiring c =>
      match s.dbcqGetFreeIndirectIbBuffer c.cmds.timestamp HGSL_DBCQ_IBDESC_SHORT_WAIT_MSEC with
      | some r => some { r.2 with phase := .claimed c }
      | none => some { s with phase := .waiting c }
    | _ => none
  | .waited ret =>
    match s.phase with
    | .waiting c =>
      if s.mayReturn ret then
        let r := s.dbcqGetFreeIndirectIbBufferWaited c.cmds.timestamp ret
        if r.1 = 0 then some { r.2 with phase := .claimed c } else some (r.2.ret r.1)
      else none
    | _ => none
  | .fill =>
    match s.phase with
    | .claimed c => some (s.fillBuffer c)
    | _ => none
  | .send ret =>
    match s.phase with
    | .built c =>
      if ret = 0 then some { s with inFlight := s.inFlight ++ [c], phase := .sent c }
      else some (s.ret ret)
    | _ => none
  | .finish wait =>
    match s.phase with
    | .sent c => some (s.finishIssue c wait)
    | _ => none
  | .gpuRetire => s.gpuRetire
  | .setInDestroy => some { s with inDestroy := true }

/-- The wait ends with the buffer claimed or with an error of the call. -/
theorem waited_cases {s s' : DbcqCtxt} {ret : Int} (h : s.step (.waited ret) = some s') :
    ∃ c, s.phase = .waiting c ∧
      (ret = 0 ∧ s' = { s with indirectIbTs := c.cmds.timestamp, phase := .claimed c } ∨
        ret ≠ 0 ∧ ∃ e, s' = s.ret e) := by
  simp only [step] at h
  split at h
  · next c hphase =>
      refine ⟨c, hphase, ?_⟩
      split at h
      · unfold dbcqGetFreeIndirectIbBufferWaited at h
        by_cases hret : ret = 0
        · rw [if_neg (not_not_intro hret), if_pos rfl] at h
          exact .inl ⟨hret, (Option.some.inj h).symm⟩
        · have hne : (if ret = -ETIMEDOUT then -EAGAIN else ret) ≠ 0 := by
            split
            · decide
            · exact hret
          rw [if_pos hret, if_neg hne] at h
          exact .inr ⟨hret, _, (Option.some.inj h).symm⟩
      · cases h
  · cases h

end DbcqCtxt

end Hgsl
