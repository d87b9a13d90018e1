import Hgsl.Lib.Once
import Hgsl.Lib.Trace
import Mathlib.Logic.Function.Basic

set_option autoImplicit false

/-! # Sync objects

A sync object with its sync points: the submitter adds them one after the other
(`hgsl_drawobj_sync_add_synclist`), each of them has a callback that can run as soon as it is registered,
and when the object is popped, detached or given up, it is destroyed (`hgsl_drawobj_destroy`). Every
operation on the pending bits is a step, and so is each get and put of a reference.

A dma fence refuses a callback only when it is signalled, and it does not remove a callback that is
running; an accepted event runs its callback once, also when it is cancelled. Left out: the canary timer,
the dispatcher, which the callback of the last point wakes up, and the object's own first reference. -/

namespace Hgsl

/-- `HGSL_MAX_SYNCPOINTS` -/
def HGSL_MAX_SYNCPOINTS : Nat := 32

/-- `HGSL_CMD_SYNCPOINT_TYPE_*` -/
inductive SyncpointType where
  | timestamp
  | fence
  | timeline
  deriving DecidableEq, Repr

/-- A reference that is taken for a sync point. -/
inductive PointRef where
  /-- to the sync object -/
  | drawobj
  /-- to the context of a timestamp -/
  | context
  /-- to the fence of timelines, from its creation -/
  | creation
  /-- to that fence, for the callback -/
  | callback
  deriving DecidableEq, Repr

/-- Who clears a pending bit. -/
inductive BitClearer where
  | callback
  | add
  | destroy
  deriving DecidableEq, Repr

/-- How far the submitter is with a point; `ok` is what the add returns. -/
inductive PointAdder where
  | absent
  /-- about to register the callback -/
  | registering
  /-- it was refused; about to clear the bit -/
  | refused (ok : Bool)
  /-- about to put these references -/
  | putting (refs : List PointRef) (ok : Bool)
  | done
  deriving DecidableEq, Repr

/-- How far the callback is. -/
inductive PointCallback where
  | idle
  | registered
  /-- it runs; about to clear the bit -/
  | entered
  /-- `drawobj_sync_timeline_fence_work` is queued -/
  | queued
  | putting (refs : List PointRef)
  | done
  deriving DecidableEq, Repr

/-- How far `syncobj_destroy` is with a point. -/
inductive PointDestroyer where
  | waiting
  /-- it has cleared the bit; about to cancel the callback -/
  | cancelling
  | putting (refs : List PointRef)
  | done
  deriving DecidableEq, Repr

/-- `struct hgsl_drawobj_sync_event` -/
structure SyncPoint where
  type : SyncpointType := .timestamp
  /-- its bit in `pending` -/
  pending : Bool := false
  adder : PointAdder := .absent
  callback : PointCallback := .idle
  destroyer : PointDestroyer := .waiting
  /-- history: the bit was set -/
  isSet : Bool := false
  /-- history -/
  clearedBy : List BitClearer := []
  /-- history: the references that were taken for the point -/
  taken : List PointRef := []
  /-- history: those that were put -/
  dropped : List PointRef := []
  deriving DecidableEq, Repr

/-- What becomes of the registration of a callback. -/
inductive RegisterResult where
  | accepted
  /-- the fence is signalled already -/
  | signalled
  | error
  deriving DecidableEq, Repr

/-- What the first checks of an add say. -/
inductive AddCheck where
  | ok
  /-- nothing was taken -/
  | fails
  /-- a timestamp of the object's own context that is not queued yet -/
  | future
  deriving DecidableEq, Repr

/-- Where the one who has the object stands. -/
inductive SyncOwner where
  /-- in the loop of `hgsl_drawobj_sync_add_synclist`, with the points that are left -/
  | adding (rest : List SyncpointType)
  /-- in the add of point `i` -/
  | inAdd (i : Nat) (rest : List SyncpointType)
  /-- it returned an error -/
  | failed
  /-- it returned 0, and the object is queued -/
  | added
  /-- in the loop of `syncobj_destroy` -/
  | destroying (i : Nat)
  /-- with point `i` -/
  | inDestroy (i : Nat)
  | destroyed
  deriving DecidableEq, Repr

/-- `struct hgsl_drawobj_sync` -/
structure SyncObject where
  point : Nat → SyncPoint := fun _ => {}
  numsyncs : Nat := 0
  owner : SyncOwner

/-- What can happen next. -/
inductive SyncObjectAct where
  /-- the next turn of the loop of `hgsl_drawobj_sync_add_synclist`, or its end -/
  | addSyncpoint (check : AddCheck)
  /-- the add moves on -/
  | add (result : RegisterResult)
  /-- the fence signals, or the timestamp retires or is cancelled -/
  | signal (i : Nat)
  /-- the callback moves on -/
  | callback (i : Nat)
  /-- `_retire_syncobj` -/
  | retire
  /-- the submission fails, or the context is detached -/
  | giveUp
  /-- `syncobj_destroy` moves on -/
  | destroy
  deriving DecidableEq, Repr

namespace SyncPoint

/-- Puts a reference. -/
def put (p : SyncPoint) (r : PointRef) : SyncPoint :=
  { p with dropped := p.dropped ++ [r] }

/-- `test_and_clear_bit` -/
def testAndClear (p : SyncPoint) (who : BitClearer) : Bool × SyncPoint :=
  if p.pending then (true, { p with pending := false, clearedBy := p.clearedBy ++ [who] })
  else (false, p)

/-! ## Adding -/

/-- The three adds up to the registration of the callback. -/
def addStart : SyncpointType → SyncPoint
  | .timestamp =>
    { type := .timestamp, pending := true, isSet := true, adder := .registering,
      taken := [.context, .drawobj] }
  | .fence => { type := .fence, pending := true, isSet := true, adder := .registering, taken := [.drawobj] }
  | .timeline =>
    { type := .timeline, pending := true, isSet := true, adder := .registering,
      taken := [.creation, .drawobj, .callback] }

/-- `drawobj_add_sync_timestamp` turns a future timestamp down. -/
def addFuture : SyncPoint :=
  { type := .timestamp, adder := .putting [.context] false, taken := [.context] }

/-- `hgsl_add_event`, `hgsl_sync_fence_async_wait` or `dma_fence_add_callback` -/
def register (p : SyncPoint) (result : RegisterResult) : Option SyncPoint :=
  match p.type, result with
  | .timestamp, .accepted | .fence, .accepted =>
    some { p with callback := .registered, adder := .putting [] true }
  | .timeline, .accepted => some { p with callback := .registered, adder := .putting [.creation] true }
  | .fence, .signalled | .timeline, .signalled => some { p with adder := .refused true }
  | .timestamp, .error | .fence, .error => some { p with adder := .refused false }
  -- a retired timestamp is accepted, and a fence refuses a callback only when it is signalled
  | .timestamp, .signalled | .timeline, .error => none

/-- `clear_bit` in an add whose callback was refused. -/
def undo (p : SyncPoint) (ok : Bool) : SyncPoint :=
  let refs := match p.type with
    | .timestamp => [.drawobj, .context]
    | .fence => [.drawobj]
    | .timeline => [.callback, .creation, .drawobj]
  { p with pending := false, clearedBy := p.clearedBy ++ [.add], adder := .putting refs ok }

/-- The add moves on, until there is nothing left to put. -/
def addStep (p : SyncPoint) (result : RegisterResult) : Option SyncPoint :=
  match p.adder with
  | .registering => p.register result
  | .refused ok => some (p.undo ok)
  | .putting (r :: rs) ok => some { p.put r with adder := .putting rs ok }
  | _ => none

/-! ## The callback -/

/-- `_timestamp_signaled`, `drawobj_sync_fence_func` and `drawobj_sync_timeline_fence_callback` with
    `drawobj_sync_expire`. -/
def expire (p : SyncPoint) : SyncPoint :=
  let (won, p') := p.testAndClear .callback
  match p.type, won with
  | .timestamp, true => { p' with callback := .putting [.context, .drawobj] }
  | .timestamp, false => { p' with callback := .putting [.drawobj] }
  | .fence, true => { p' with callback := .putting [.drawobj] }
  | .timeline, true => { p' with callback := .queued }
  | .fence, false | .timeline, false => { p' with callback := .putting [] }

/-- The callback moves on. -/
def callbackStep (p : SyncPoint) : Option SyncPoint :=
  match p.callback with
  | .entered => some p.expire
  | .queued => some { p with callback := .putting [.callback, .drawobj] }
  | .putting (r :: rs) => some { p.put r with callback := .putting rs }
  | .putting [] => some { p with callback := .done }
  | _ => none

/-- The callback runs under the lock of its fence. -/
def isRunning (p : SyncPoint) : Bool :=
  match p.type, p.callback with
  | .fence, .entered | .fence, .putting _ | .timeline, .entered => true
  | _, _ => false

/-! ## Destroying -/

/-- `hgsl_cancel_event`, after which the callback still runs, or `dma_fence_remove_callback` -/
def cancel (p : SyncPoint) : Option SyncPoint :=
  let removed := if p.callback = .registered then .done else p.callback
  match p.type with
  | .timestamp => some { p with destroyer := .putting [.context] }
  | .fence =>
    if p.isRunning then none else some { p with callback := removed, destroyer := .putting [.drawobj] }
  | .timeline =>
    if p.isRunning then none
    else some { p with callback := removed, destroyer := .putting [.callback, .drawobj] }

/-- `syncobj_destroy` moves on. -/
def destroyStep (p : SyncPoint) : Option SyncPoint :=
  match p.destroyer with
  | .waiting =>
    let (won, p') := p.testAndClear .destroy
    some { p' with destroyer := if won then .cancelling else .done }
  | .cancelling => p.cancel
  | .putting (r :: rs) => some { p.put r with destroyer := .putting rs }
  | .putting [] => some { p with destroyer := .done }
  | .done => none

end SyncPoint

namespace SyncObject

/-- `hgsl_drawobj_sync_add_synclist` is called; an empty list is an error. -/
def start (points : List SyncpointType) : SyncObject :=
  { owner := if points = [] then .failed else .adding points }

def setPoint (s : SyncObject) (i : Nat) (p : SyncPoint) : SyncObject :=
  { s with point := Function.update s.point i p }

/-- `hgsl_drawobj_events_pending` -/
def eventsPending (s : SyncObject) : Bool :=
  (List.range HGSL_MAX_SYNCPOINTS).any fun i => (s.point i).pending

/-- One step. -/
def step (s : SyncObject) : SyncObjectAct → Option SyncObject
  | .addSyncpoint check =>
    match s.owner, check with
    | .adding [], _ => some { s with owner := .added }
    | .adding (type :: rest), .ok =>
      some { s.setPoint s.numsyncs (.addStart type) with
        numsyncs := s.numsyncs + 1, owner := .inAdd s.numsyncs rest }
    | .adding (.timestamp :: rest), .future =>
      some { s.setPoint s.numsyncs .addFuture with owner := .inAdd s.numsyncs rest }
    | .adding (_ :: _), .fails => some { s with owner := .failed }
    | _, _ => none
  | .add result =>
    match s.owner with
    | .inAdd i rest =>
      match (s.point i).adder with
      | .putting [] ok =>
        some { s.setPoint i { s.point i with adder := .done } with
          owner := if ok then .adding rest else .failed }
      | _ => ((s.point i).addStep result).map (s.setPoint i)
    | _ => none
  | .signal i =>
    if (s.point i).callback = .registered then
      some (s.setPoint i { s.point i with callback := .entered })
    else none
  | .callback i => (s.point i).callbackStep.map (s.setPoint i)
  | .retire =>
    match s.owner with
    | .added => some (if s.eventsPending then s else { s with owner := .destroying 0 })
    | _ => none
  | .giveUp =>
    match s.owner with
    | .failed | .added => some { s with owner := .destroying 0 }
    | _ => none
  | .destroy =>
    match s.owner with
    | .destroying i => some { s with owner := if i < s.numsyncs then .inDestroy i else .destroyed }
    | .inDestroy i =>
      match (s.point i).destroyer with
      | .done => some { s with owner := .destroying (i + 1) }
      | _ => (s.point i).destroyStep.map (s.setPoint i)
    | _ => none

end SyncObject

end Hgsl
