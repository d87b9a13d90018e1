import Hgsl.Doorbell.Message
import Hgsl.Lib.Trace
import Mathlib.Logic.Function.Basic

set_option autoImplicit false

/-! # Submissions through a shared doorbell queue

`hgsl_db_issue_cmd` for contexts without a queue of their own, `dbq_wait_free_ibdesc`, with which they
share the one `ibdesc` buffer of the doorbell queue, and the first half of `hgsl_ctxt_destroy`, which
waits for the buffer as well. Any number of threads run these functions. `dbq->lock` is dropped only in
the sleep of `dbq_wait_free_ibdesc`, so a section under it is one step; the shadow timestamps are read
once in a section, and a retirement in the middle of one could only come earlier.

Contexts live at addresses, and the table of a device maps context ids to addresses. Left out: the
queue itself, tracing, the branch for killed contexts (nothing sets `is_killed`), and what
`hgsl_ctxt_destroy` does after the context has left the table. -/

namespace Hgsl

/-- `GSL_HANDLE_DEV0` and `GSL_HANDLE_DEV1` -/
inductive DevHandle where
  | dev0
  | dev1
  deriving DecidableEq, Repr

/-- A context that submits through the queue. -/
structure DbqCtxt where
  devhandle : DevHandle
  contextId : Nat
  flags : BitVec 32
  queuedTs : BitVec 32 := 0#32
  shadowTs : Option ShadowTs
  /-- `ctxt->lock` is held -/
  locked : Bool := false
  /-- timestamps of the messages sent and not yet retired by the GPU, oldest first -/
  inFlight : List (BitVec 32) := []
  deriving DecidableEq, Repr

/-- `hgsl_check_shadow_timestamp` finds that `ts` has retired. -/
def DbqCtxt.expired (c : DbqCtxt) (ts : BitVec 32) : Bool :=
  match hgslCheckShadowTimestamp c.shadowTs ts with
  | .ok e => e
  | .error _ => false

/-- `struct dbq_ibdesc_priv` -/
structure IbdescPriv where
  bufInuse : Bool := false
  contextId : Nat := 0
  timestamp : BitVec 32 := 0#32
  deriving DecidableEq, Repr

/-- What a caller of `dbq_wait_free_ibdesc` wants: to submit call `c`
    (`HGSL_DBQ_IBDESC_REQUEST_ACQUIRE`), or to destroy the context
    (`HGSL_DBQ_IBDESC_REQUEST_RELEASE`). -/
inductive IbdescRequest where
  | acquire (c : IssueCall)
  | release (devHnd : DevHandle) (contextId : Nat)
  deriving DecidableEq, Repr

/-- Where a thread stands. `ctxt` is the address of its context. -/
inductive DbqThread where
  | idle
  /-- about to take `dbq->lock` for the buffer -/
  | issuing (ctxt : Nat) (c : IssueCall)
  /-- in the sleep of `dbq_wait_free_ibdesc`, which looked `owner` up -/
  | asleep (ctxt : Nat) (request : IbdescRequest) (owner : Nat)
  /-- the message is complete; `fill` is the number of the fill that it points to -/
  | built (ctxt : Nat) (c : IssueCall) (fill : Option Nat)
  /-- `hgsl_ctxt_destroy` is about to take the context out of its table -/
  | removing (devHnd : DevHandle) (contextId : Nat)
  deriving DecidableEq, Repr

/-- The last write to the buffer: the context and the timestamp of its message, whether that message
    is sent and whether the timestamp has retired since. -/
structure IbdescFill where
  num : Nat
  ctxt : Nat
  timestamp : BitVec 32
  sent : Bool
  retired : Bool
  deriving DecidableEq, Repr

/-- A doorbell queue and the contexts around it. -/
structure DbqState where
  /-- `dbq->data.dwords` -/
  dwords : Nat
  ibdescMaxSize : Nat
  gmuaddr : BitVec 64
  seqNum : BitVec 32 := 0#32
  /-- `hgsl->contexts` -/
  contexts : DevHandle → Nat → Option Nat
  obj : Nat → DbqCtxt
  ibdescPriv : IbdescPriv := {}
  /-- the descriptors in the buffer -/
  ibdesc : List FwIbDesc := []
  thread : Nat → DbqThread := fun _ => .idle
  /-- history: the number of fills -/
  fills : Nat := 0
  /-- history: the last fill -/
  lastFill : Option IbdescFill := none
  /-- history: the buffer was written while the message of the last fill was sent and not retired -/
  rewrote : Bool := false
  /-- history: `buf_inuse` was cleared in such a state -/
  cleared : Bool := false
  /-- history: what the threads returned -/
  returned : List (Nat × Int) := []

/-- How the sleep of `dbq_wait_free_ibdesc` ends. -/
inductive DbqWake where
  /-- a signal arrived -/
  | interrupted
  /-- the time is up -/
  | timeUp
  | timeLeft
  deriving DecidableEq, Repr

/-- What can happen next; `t` is the thread that moves. -/
inductive DbqAct where
  /-- `hgsl_db_issue_cmd` on the context at `ctxt`, up to the point where its message is complete or
      needs the buffer; `memory` is the success of its allocation -/
  | issue (t ctxt : Nat) (a : IssueArgs) (memory : Bool)
  /-- it calls `dbq_wait_free_ibdesc` -/
  | acquire (t : Nat)
  /-- a sleeper has the lock back -/
  | woken (t : Nat) (w : DbqWake)
  /-- `db_send_msg` returns -/
  | send (t : Nat) (ret : Int)
  /-- `hgsl_ctxt_destroy` with `can_retry` calls `dbq_wait_free_ibdesc` -/
  | destroy (t : Nat) (devHnd : DevHandle) (contextId : Nat)
  /-- it takes the context out of the table -/
  | remove (t : Nat)
  /-- the GPU retires the oldest message of the context at `ctxt` -/
  | gpuRetire (ctxt : Nat)
  deriving DecidableEq, Repr

namespace DbqState

/-- The message of the last fill is sent and has not retired. -/
def fillPending (s : DbqState) : Bool :=
  match s.lastFill with
  | some f => f.sent && !f.retired
  | none => false

/-! ## State updates -/

def setThread (s : DbqState) (t : Nat) (th : DbqThread) : DbqState :=
  { s with thread := Function.update s.thread t th }

def setLocked (s : DbqState) (ctxt : Nat) (locked : Bool) : DbqState :=
  { s with obj := Function.update s.obj ctxt { s.obj ctxt with locked := locked } }

/-- Thread `t` returns `ret`. -/
def ret (s : DbqState) (t : Nat) (ret : Int) : DbqState :=
  { s.setThread t .idle with returned := s.returned ++ [(t, ret)] }

/-- `buf_inuse` is cleared. -/
def clearInuse (s : DbqState) : DbqState :=
  { s with
    ibdescPriv := { s.ibdescPriv with bufInuse := false }
    cleared := s.cleared || s.fillPending }

/-! ## The wait -/

/-- `dbq_check_ibdesc_state` -/
def dbqCheckIbdescState (s : DbqState) (ctxt : Nat) (request : IbdescRequest) : Bool :=
  s.ibdescPriv.bufInuse &&
    match request with
    | .release _ _ => (s.obj ctxt).contextId == s.ibdescPriv.contextId
    | .acquire _ => true

/-- What a section of `dbq_wait_free_ibdesc` comes to: it returns, or it sleeps with the owner that it
    looked up. -/
inductive WaitResult where
  | done (ret : Int) (s : DbqState)
  | sleep (owner : Nat)

/-- One turn of the loop in `dbq_wait_free_ibdesc`: the recorded timestamp, as it is now, against the
    shadow timestamps of `owner`. -/
def waitTurn (s : DbqState) (owner : Nat) : WaitResult :=
  match hgslCheckShadowTimestamp (s.obj owner).shadowTs s.ibdescPriv.timestamp with
  | .error e => .done e s
  | .ok true => .done 0 s.clearInuse
  | .ok false => .sleep owner

/-- The context that `dbq_wait_free_ibdesc` takes for the owner of the buffer. -/
def lookupOwner (s : DbqState) : Option Nat := s.contexts .dev0 s.ibdescPriv.contextId

/-- `dbq_wait_free_ibdesc` up to its first sleep. -/
def dbqWaitFreeIbdesc (s : DbqState) (ctxt : Nat) (request : IbdescRequest) : WaitResult :=
  if s.dbqCheckIbdescState ctxt request then
    match s.lookupOwner with
    | none => .done (-EINVAL) s
    | some owner => s.waitTurn owner
  else .done 0 s

/-- `dbq_wait_free_ibdesc` from the end of a sleep to the next one. -/
def dbqWaitFreeIbdescWoken (s : DbqState) (owner : Nat) : DbqWake → WaitResult
  | .interrupted => .done (-EINTR) s
  | .timeUp => .done (-EAGAIN) s
  | .timeLeft => s.waitTurn owner

/-! ## Submitting -/

/-- `HGSL_DBQ_IBDESC_BASE_OFFSET_IN_DWORD << 2` -/
def ibdescBaseOffset : BitVec 64 := 6144#64

/-- `hgsl_db_issue_cmd` on a context without a queue of its own, up to the point where the message is
    complete or needs the buffer. `db_msg_id.seq_no` is the new value of `seq_num`. -/
def hgslDbIssueCmd (s : DbqState) (ctxt : Nat) (a : IssueArgs) (memory : Bool) :
    Except Int IssueCall :=
  let uintMax := 2 ^ 32 - 1
  if uintMax / (sizeofFwIbDesc / 4) < a.numIbs ∨ uintMax - msgIssueIbsSz a.numIbs < msgIssueInfSz then
    .error (-EINVAL)
  else if ECP_MAX_NUM_IB1 < a.numIbs then .error (-EINVAL)
  else
    let msgDwordsAligned := align4Nat (msgIssueInfSz + msgIssueIbsSz a.numIbs)
    let isBatchIbdesc := s.dwords ≤ msgDwordsAligned || msgSzMax < msgDwordsAligned
    if isBatchIbdesc && s.ibdescMaxSize < msgIssueIbsSz a.numIbs * 4 then .error (-EINVAL)
    else
      let msgDwords := if isBatchIbdesc then msgIssueInfSz else msgIssueInfSz + msgIssueIbsSz a.numIbs
      let c := s.obj ctxt
      match if a.updateQueuedTs then hgslDbNextTimestamp c.flags c.queuedTs a.timestamp
          else .ok a.timestamp with
      | .error e => .error e
      | .ok timestamp =>
        if !memory then .error (-ENOMEM)
        else
          let cmds := a.cmds (BitVec.ofNat 32 c.contextId) timestamp (BitVec.ofNat 32 msgDwords)
            (s.seqNum + 1#32)
          .ok {
            args := a
            isBatchIbdesc := isBatchIbdesc
            msgDwords := msgDwords
            cmds := if isBatchIbdesc then cmds else cmds.inline a.ibDescs }

/-- The part of `hgsl_db_issue_cmd` under `dbq->lock` after the wait: the buffer is recorded and
    filled. -/
def fillIbdesc (s : DbqState) (t ctxt : Nat) (c : IssueCall) : DbqState :=
  let gmuaddr := (s.gmuaddr + ibdescBaseOffset).setWidth 32
  { s.setThread t (.built ctxt { c with cmds := c.cmds.indirect gmuaddr } (some s.fills)) with
    ibdescPriv := { bufInuse := true
                    contextId := (s.obj ctxt).contextId
                    timestamp := c.cmds.timestamp }
    ibdesc := copyIbs s.ibdesc c.args.ibDescs
    fills := s.fills + 1
    lastFill := some { num := s.fills
                       ctxt := ctxt
                       timestamp := c.cmds.timestamp
                       sent := false
                       retired := (s.obj ctxt).expired c.cmds.timestamp }
    rewrote := s.rewrote || s.fillPending }

/-- What the caller of `dbq_wait_free_ibdesc` does with its result. -/
def afterWait (s : DbqState) (t ctxt : Nat) (request : IbdescRequest) : WaitResult → DbqState
  | .sleep owner => s.setThread t (.asleep ctxt request owner)
  | .done r s' =>
    match request with
    | .acquire c => if r = 0 then s'.fillIbdesc t ctxt c else (s'.setLocked ctxt false).ret t r
    | .release devHnd contextId =>
      if r = 0 then s'.setThread t (.removing devHnd contextId) else s'.ret t r

/-- The message of fill `n` is sent. -/
def markSent (s : DbqState) (n : Option Nat) : DbqState :=
  { s with lastFill := s.lastFill.map fun f => if n = some f.num then { f with sent := true } else f }

/-- `db_send_msg` has returned 0: the message is in flight, and `queued_ts` is stored. -/
def sendMsg (s : DbqState) (t ctxt : Nat) (c : IssueCall) (fill : Option Nat) : DbqState :=
  let o := s.obj ctxt
  let o' := { o with
    inFlight := o.inFlight ++ [c.cmds.timestamp]
    queuedTs := if c.args.updateQueuedTs then c.cmds.timestamp else o.queuedTs
    locked := false }
  ({ s with obj := Function.update s.obj ctxt o' }.markSent fill).ret t 0

/-- `hgsl_remove_context` -/
def hgslRemoveContext (s : DbqState) (devHnd : DevHandle) (contextId : Nat) : DbqState :=
  { s with
    contexts := Function.update s.contexts devHnd
      (Function.update (s.contexts devHnd) contextId none) }

/-- The GPU writes `ts` to the `eop` of the context at `ctxt`. -/
def retire (s : DbqState) (ctxt : Nat) (ts : BitVec 32) (rest : List (BitVec 32)) : DbqState :=
  let o := s.obj ctxt
  let o' := { o with
    inFlight := rest
    shadowTs := o.shadowTs.map fun sh => { sh with eop := ts } }
  { s with
    obj := Function.update s.obj ctxt o'
    lastFill := s.lastFill.map fun f =>
      if f.ctxt = ctxt then { f with retired := f.retired || o'.expired f.timestamp } else f }

/-! ## The steps -/

/-- One step of the queue. -/
def step (s : DbqState) : DbqAct → Option DbqState
  | .issue t ctxt a memory =>
    match s.thread t with
    | .idle =>
      if (s.obj ctxt).locked then none
      else
        let s₁ := { s with seqNum := s.seqNum + 1#32 }
        match s.hgslDbIssueCmd ctxt a memory with
        | .error e => some (s₁.ret t e)
        | .ok c =>
          some ((s₁.setLocked ctxt true).setThread t
            (if c.isBatchIbdesc then .issuing ctxt c else .built ctxt c none))
    | _ => none
  | .acquire t =>
    match s.thread t with
    | .issuing ctxt c =>
      some (s.afterWait t ctxt (.acquire c) (s.dbqWaitFreeIbdesc ctxt (.acquire c)))
    | _ => none
  | .woken t w =>
    match s.thread t with
    | .asleep ctxt request owner =>
      some (s.afterWait t ctxt request (s.dbqWaitFreeIbdescWoken owner w))
    | _ => none
  | .send t ret =>
    match s.thread t with
    | .built ctxt c fill =>
      if ret = 0 then some (s.sendMsg t ctxt c fill) else some ((s.setLocked ctxt false).ret t ret)
    | _ => none
  | .destroy t devHnd contextId =>
    match s.thread t with
    | .idle =>
      match s.contexts devHnd contextId with
      | none => some (s.ret t (-EINVAL))
      | some ctxt =>
        let request := .release devHnd contextId
        some (s.afterWait t ctxt request (s.dbqWaitFreeIbdesc ctxt request))
    | _ => none
  | .remove t =>
    match s.thread t with
    | .removing devHnd contextId =>
      match s.contexts devHnd contextId with
      | none => some (s.ret t (-EINVAL))
      | some _ => some ((s.hgslRemoveContext devHnd contextId).ret t 0)
    | _ => none
  | .gpuRetire ctxt =>
    match (s.obj ctxt).inFlight with
    | [] => none
    | ts :: rest => some (s.retire ctxt ts rest)

end DbqState

end Hgsl
