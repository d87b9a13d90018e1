import Hgsl.DrawQueue.Basic
import Hgsl.Lib.Trace

set_option autoImplicit false

/-! # Interleavings of a context's draw queue

The threads around one draw queue as a step function. A section under `drawq_lock` is one step; what
runs without the lock (a sleep for room, a send) is cut where the lock is dropped and retaken. The
action carries what the environment decides: who moves, how a wait ends, what a send returns, which
sync point expires, when the GPU retires.

The second half says once what a step can do to the queue; the invariants are derived from that. -/

namespace Hgsl

open QueueState

/-- What can happen next. -/
inductive QueueAct where
  /-- a thread calls `hgsl_dispatch_queue_cmds` with these objects -/
  | queueCmds (drawobjs : List Drawobj) (timestamp : BitVec 32)
  /-- sleeper `k` is woken with room, `left + 1` jiffies before its deadline -/
  | wakeRoom (k left : Nat)
  /-- the wait of sleeper `k` times out -/
  | wakeTimeout (k : Nat)
  /-- the wait of sleeper `k` is interrupted by a signal -/
  | wakeInterrupted (k : Nat)
  /-- sleeper `k` has its lock back and finishes its call -/
  | relock (k : Nat)
  /-- the dispatch worker takes the lock and enters `_process_drawqueue_get_next_drawobj` -/
  | passStart
  /-- one turn of its loop; after the last one the object found is popped and the lock dropped -/
  | passScan
  /-- `_sendcmd` returns -/
  | send (r : SendResult)
  /-- sync point `i` of sync object `o` expires -/
  | syncExpire (o i : Nat)
  /-- the GPU retires the oldest message sent and not retired -/
  | gpuRetire
  /-- `hgsl_ctxt_destroy` sets `in_destroy` -/
  | setInDestroy
  /-- `hgsl_ctxt_destroy` calls `hgsl_ctxt_detach_drawobjs` -/
  | detachDrawobjs
  deriving DecidableEq, Repr

/-! ## The steps -/

namespace QueueState

/-- `hgsl_dispatch_queue_cmds` with objects that the caller has just built. -/
def submit (s : QueueState) (ds : List Drawobj) (timestamp : BitVec 32) : QueueState :=
  let r := s.alloc ds
  (r.2.queueCmds r.1 timestamp).2.2

/-- The wait of sleeper `k` ends with `ret`, having found `_check_context_queue` to be `room`. -/
def wake (s : QueueState) (k : Nat) (room : Bool) (ret : Int) : Option QueueState :=
  match s.sleepers[k]? with
  | none => none
  | some sl =>
    if s.lockFree ∧ sl.wake = none ∧ s.checkContextQueue sl.objs.length = room then
      some { s with sleepers := s.sleepers.set k { sl with wake := some ret } }
    else none

/-- Sleeper `k` finishes its call. -/
def relock (s : QueueState) (k : Nat) : Option QueueState :=
  match s.sleepers[k]? with
  | none => none
  | some sl =>
    match sl.wake with
    | none => none
    | some ret =>
      if s.lockFree then
        some ({ s with sleepers := s.sleepers.eraseIdx k }.queueLocked sl.objs sl.timestamp ret).2.2
      else none

/-- One turn of the loop in `_process_drawqueue_get_next_drawobj`, and what
    `hgsl_dispatch_sendcmds` does with the result. -/
def scan (s : QueueState) (i : Nat) (ret : Int) : QueueState :=
  match s.processDrawqueue i ret with
  | (.next i' ret', s') => { s' with dispatcher := .scanning i' ret' }
  | (.found o, s') => { s'.popDrawobj with dispatcher := .sending o }
  | (.null, s') => { s' with dispatcher := .idle }
  | (.error _, s') => { s' with dispatcher := .idle }

/-- `drawobj_sync_expire` clears the pending bit of a sync point. -/
def syncExpire (s : QueueState) (o i : Nat) : QueueState :=
  let d := s.obj o
  { s with obj := Function.update s.obj o { d with pending := d.pending &&& ~~~(1#32 <<< i) } }

/-- The GPU writes the timestamp of the oldest message in flight to `eop`. -/
def gpuRetire (s : QueueState) : Option QueueState :=
  match s.gpu with
  | [] => none
  | o :: rest =>
    some { s with
      gpu := rest
      shadowTs := s.shadowTs.map fun sh => { sh with eop := (s.obj o).timestamp }
      retired := s.retired ++ [o] }

/-- One step of the context. -/
def step (s : QueueState) : QueueAct → Option QueueState
  | .queueCmds ds ts => if s.lockFree then some (s.submit ds ts) else none
  | .wakeRoom k left => s.wake k true (left + 1)
  -- wait_event_interruptible_timeout returns 0 when the time is up and the condition still false
  | .wakeTimeout k => s.wake k false 0
  | .wakeInterrupted k => s.wake k false (-ERESTARTSYS)
  | .relock k => s.relock k
  | .passStart =>
    match s.dispatcher with
    | .idle => some { s with dispatcher := .scanning s.drawqHead 0 }
    | _ => none
  | .passScan =>
    match s.dispatcher with
    | .scanning i ret => some (s.scan i ret)
    | _ => none
  | .send r =>
    match s.dispatcher with
    | .sending o => some (s.finishSend o r)
    | _ => none
  | .syncExpire o i => some (s.syncExpire o i)
  | .gpuRetire => s.gpuRetire
  | .setInDestroy => some { s with inDestroy := true }
  | .detachDrawobjs => if s.inDestroy ∧ s.lockFree then some s.detachDrawobjs else none

/-! ## Conditions on a step -/

/-- A submitter whose wait timed out goes on although there is still no room for its objects. -/
def appendsWithoutRoom (s : QueueState) : QueueAct → Bool
  | .relock k =>
    match s.sleepers[k]? with
    | some sl => sl.wake = some 0 && s.mustSleep sl.objs.length
    | none => false
  | _ => false

/-- `hgsl_ctxt_detach_drawobjs` takes objects out. -/
def detachesObjects (s : QueueState) : QueueAct → Bool
  | .detachDrawobjs => s.drawqHead ≠ s.drawqTail
  | _ => false

end QueueState

end Hgsl
