import Hgsl.Timestamp
import Hgsl.Lib.Ring

set_option autoImplicit false

/-! # The draw queue of a context

The ring `drawq` of a context with its three writers, function by function: `hgsl_dispatch_queue_cmds`
and the `_queue_*` helpers append, the dispatcher (`_process_drawqueue_get_next_drawobj` and the
`_retire_*` helpers) takes from the head and puts back, `hgsl_ctxt_detach_drawobjs` drains.

Draw objects live at addresses (`obj`), the ring holds addresses. A submission hands over objects that
nothing else refers to, so addresses come from a counter. Next to the fields of `struct hgsl_context`
the state keeps the threads (sleeping submitters, the dispatch worker), the messages the GPU has not
retired, and a history that no function reads.

Left out: tracing, the canary timer of sync objects, event groups, object references, and the job
counter of `hgsl_dispatch_queue_context`. -/

namespace Hgsl

/-! ## Draw objects -/

/-- `drawobj->type`. -/
inductive DrawobjType where
  | cmd
  | marker
  | sync
  | bind
  | timeline
  deriving DecidableEq, Repr

/-- `HGSL_DRAWOBJ_MARKER` -/
def HGSL_DRAWOBJ_MARKER : BitVec 64 := 0x00000002#64

/-- `struct hgsl_drawobj` with the fields that its derived objects add: the `CMDOBJ_SKIP` and
    `CMDOBJ_MARKER_EXPIRED` bits and `marker_timestamp` of a command or marker, the `pending` mask of
    a sync object. -/
structure Drawobj where
  type : DrawobjType
  flags : BitVec 64 := 0#64
  timestamp : BitVec 32 := 0#32
  skip : Bool := false
  markerExpired : Bool := false
  markerTimestamp : BitVec 32 := 0#32
  pending : BitVec 32 := 0#32
  deriving DecidableEq, Repr

/-- `hgsl_drawobj_events_pending` -/
def Drawobj.eventsPending (d : Drawobj) : Bool := d.pending ≠ 0#32

/-- The object takes a timestamp of its context: it is a command or a marker. -/
def Drawobj.isStamped (d : Drawobj) : Bool := d.type = .cmd || d.type = .marker

/-! ## State -/

/-- `CONTEXT_DRAWQUEUE_SIZE` -/
def CONTEXT_DRAWQUEUE_SIZE : Nat := 128

theorem size_pos : 0 < CONTEXT_DRAWQUEUE_SIZE := by decide

/-- `_context_drawqueue_size` -/
def contextDrawqueueSize : Nat := CONTEXT_DRAWQUEUE_SIZE - 1

/-- `DRAWQUEUE_NEXT` -/
def drawqueueNext (i : Nat) : Nat := (i + 1) % CONTEXT_DRAWQUEUE_SIZE

/-- How an object left the queue for good. -/
inductive Departure where
  | sent
  | retired
  | destroyed
  deriving DecidableEq, Repr

/-- A `hgsl_dispatch_queue_cmds` call in `_check_for_room_in_context_drawq` with the lock dropped:
    still waiting (`wake = none`), or back from the wait with its return value. -/
structure Sleeper where
  objs : List Nat
  timestamp : BitVec 32
  wake : Option Int := none
  deriving DecidableEq, Repr

/-- Where the dispatch worker stands in `hgsl_dispatch_sendcmds`. -/
inductive Dispatcher where
  | idle
  /-- in the loop of `_process_drawqueue_get_next_drawobj`, holding `drawq_lock`, with the loop
      index and `ret` -/
  | scanning (i : Nat) (ret : Int)
  /-- in `_sendcmd` with a popped object, `drawq_lock` dropped -/
  | sending (o : Nat)
  deriving DecidableEq, Repr

/-- A context, as far as its draw queue and its timestamps are concerned. -/
structure QueueState where
  flags : BitVec 32
  inDestroy : Bool := false
  queuedTs : BitVec 32 := 0#32
  shadowTs : Option ShadowTs
  drawq : Nat → Option Nat := fun _ => none
  drawqHead : Nat := 0
  drawqTail : Nat := 0
  queued : Int := 0
  obj : Nat → Drawobj := fun _ => { type := .cmd }
  nextObj : Nat := 0
  sleepers : List Sleeper := []
  dispatcher : Dispatcher := .idle
  /-- sent and not yet retired by the GPU, oldest first -/
  gpu : List Nat := []
  /-- history: stored by `_queue_drawobj` and not taken out since, oldest first -/
  fifo : List Nat := []
  /-- history: everything `_queue_drawobj` stored -/
  appended : List Nat := []
  /-- history: everything that left the queue for good -/
  left : List (Nat × Departure) := []
  /-- history: commands and markers in the order they were accepted -/
  stamped : List Nat := []
  /-- history: commands and markers in the order they were retired, by the GPU or by the driver -/
  retired : List Nat := []
  /-- history: a store of `_queue_drawobj` hit a slot of a queued object -/
  overwrote : Bool := false
  /-- history: the `WARN_ON` of `hgsl_dispatch_requeue_drawobj` fired -/
  warned : Bool := false
  /-- history: `hgsl_ctxt_detach_drawobjs` has drained the queue -/
  drained : Bool := false

/-- A context as `hgsl_ioctl_ctxt_create` leaves it. -/
def QueueState.fresh (flags : BitVec 32) (shadowTs : Option ShadowTs) : QueueState :=
  { flags := flags, shadowTs := shadowTs }

namespace QueueState

/-- `drawq_lock` is free: the only section that is not a single step is the dispatcher's scan. -/
def lockFree (s : QueueState) : Bool :=
  match s.dispatcher with
  | .scanning _ _ => false
  | _ => true

/-- `queued + count` as the source computes it: an `int` plus a `u32`. -/
def queuedPlus (s : QueueState) (count : Nat) : Nat := ((s.queued + count) % 2 ^ 32).toNat

/-- Slot `i` belongs to an object that is still queued: the queue occupies the slots from the head
    on. -/
def slotHeld (s : QueueState) (i : Nat) : Bool :=
  (List.range s.fifo.length).any fun k => Ring.slot CONTEXT_DRAWQUEUE_SIZE s.drawqHead k = i

/-- The submitted objects at fresh addresses. -/
def alloc (s : QueueState) : List Drawobj → List Nat × QueueState
  | [] => ([], s)
  | d :: ds =>
    let r := alloc { s with obj := Function.update s.obj s.nextObj d, nextObj := s.nextObj + 1 } ds
    (s.nextObj :: r.1, r.2)

/-! ## Appending -/

/-- `_queue_drawobj` -/
def queueDrawobj (s : QueueState) (o : Nat) : QueueState :=
  { s with
    drawq := Function.update s.drawq s.drawqTail (some o)
    drawqTail := (s.drawqTail + 1) % CONTEXT_DRAWQUEUE_SIZE
    queued := s.queued + 1
    fifo := s.fifo ++ [o]
    appended := s.appended ++ [o]
    overwrote := s.overwrote || s.slotHeld s.drawqTail }

/-- The timestamp of an object is written. -/
def setTimestamp (s : QueueState) (o : Nat) (ts : BitVec 32) : QueueState :=
  { s with obj := Function.update s.obj o { s.obj o with timestamp := ts } }

/-- The loop of `_queue_cmdobj` that sets `CMDOBJ_SKIP` on every marker from slot `j` to the tail. -/
def setSkips (s : QueueState) : Nat → Nat → QueueState
  | 0, _ => s
  | fuel + 1, j =>
    if j = s.drawqTail then s
    else
      let s' :=
        match s.drawq j with
        | some m =>
          if (s.obj m).type = .marker then
            { s with obj := Function.update s.obj m { s.obj m with skip := true } }
          else s
        | none => s
      setSkips s' fuel (drawqueueNext j)

/-- `_queue_cmdobj`: the return value, `*timestamp`, and the new state. -/
def queueCmdobj (s : QueueState) (o : Nat) (timestamp userTs : BitVec 32) :
    Int × BitVec 32 × QueueState :=
  match hgslDbNextTimestamp s.flags s.queuedTs userTs with
  | .error e => (e, timestamp, s)
  | .ok ts =>
    -- keep time linear: the markers queued before a real command go to the GPU as well
    let s₁ := (s.setTimestamp o ts).setSkips CONTEXT_DRAWQUEUE_SIZE s.drawqHead
    (0, ts, { s₁ with queuedTs := ts, stamped := s₁.stamped ++ [o] }.queueDrawobj o)

/-- `_queue_syncobj` -/
def queueSyncobj (s : QueueState) (o : Nat) : QueueState := (s.setTimestamp o 0#32).queueDrawobj o

/-- `_queue_timelineobj` -/
def queueTimelineobj (s : QueueState) (o : Nat) : QueueState :=
  (s.setTimestamp o 0#32).queueDrawobj o

/-- `_retire_timestamp_only` for a command or marker: the driver writes both shadow timestamps. -/
def retireTimestamp (s : QueueState) (o : Nat) : QueueState :=
  { s with
    shadowTs := setContextShadowTs s.shadowTs (s.obj o).timestamp
    retired := s.retired ++ [o] }

/-- `hgsl_check_timestamp` on a context with shadow timestamps. -/
def checkTimestamp (s : QueueState) (ts : BitVec 32) : Bool :=
  match hgslCheckShadowTimestamp s.shadowTs ts with
  | .ok expired => expired
  | .error _ => false

/-- `_queue_markerobj`: 1 if the marker was retired on the spot. -/
def queueMarkerobj (s : QueueState) (o : Nat) (timestamp userTs : BitVec 32) :
    Int × BitVec 32 × QueueState :=
  match hgslDbNextTimestamp s.flags s.queuedTs userTs with
  | .error e => (e, timestamp, s)
  | .ok ts =>
    let s₁ := s.setTimestamp o ts
    let block (s₂ : QueueState) : Int × BitVec 32 × QueueState :=
      let s₃ := { s₂ with
        obj := Function.update s₂.obj o { s₂.obj o with markerTimestamp := s₂.queuedTs }
        queuedTs := ts
        stamped := s₂.stamped ++ [o] }
      (0, ts, s₃.queueDrawobj o)
    if s₁.shadowTs.isSome then
      -- fast path: nothing is queued and nothing is in flight
      if s₁.queued = 0 ∧ s₁.checkTimestamp s₁.queuedTs then
        (1, ts, { s₁ with queuedTs := ts, stamped := s₁.stamped ++ [o] }.retireTimestamp o)
      else block s₁
    else
      block { s₁ with obj := Function.update s₁.obj o { s₁.obj o with skip := true } }

/-- One turn of the loop in `hgsl_dispatch_queue_cmds`. -/
def queueOne (userTs : BitVec 32) (s : QueueState) (timestamp : BitVec 32) (o : Nat) :
    Int × BitVec 32 × QueueState :=
  match (s.obj o).type with
  | .marker => s.queueMarkerobj o timestamp userTs
  | .cmd => s.queueCmdobj o timestamp userTs
  | .sync => (0, 0#32, s.queueSyncobj o)
  | .bind => (0, timestamp, s)
  | .timeline => (0, timestamp, s.queueTimelineobj o)

/-- The loop in `hgsl_dispatch_queue_cmds`: the return value, `*timestamp`, and the new state. -/
def queueLoop (userTs : BitVec 32) (s : QueueState) (timestamp : BitVec 32) :
    List Nat → Int × BitVec 32 × QueueState
  | [] => (0, timestamp, s)
  | o :: os =>
    let r := queueOne userTs s timestamp o
    if r.1 = 0 then queueLoop userTs r.2.2 r.2.1 os
    else if r.1 = 1 then (0, r.2)
    else r

/-- `hgsl_dispatch_queue_cmds` from the return of `_check_for_room_in_context_drawq` on, with
    `drawq_lock` held and `ret` its result. -/
def queueLocked (s : QueueState) (objs : List Nat) (timestamp : BitVec 32) (ret : Int) :
    Int × BitVec 32 × QueueState :=
  if ret ≠ 0 then (ret, timestamp, s)
  else
    let loneSync := objs.length = 1 ∧ (objs.head?.map fun o => (s.obj o).type) = some .sync
    if ¬ loneSync ∧ s.flags &&& GSL_CONTEXT_FLAG_CLIENT_GENERATED_TS ≠ 0#32 ∧
        hgslTs32Ge s.queuedTs timestamp then
      (-ERANGE, timestamp, s)
    else queueLoop timestamp s timestamp objs

/-- `_check_context_queue` -/
def checkContextQueue (s : QueueState) (count : Nat) : Bool :=
  s.queuedPlus count < contextDrawqueueSize

/-- The test of `_check_for_room_in_context_drawq`: the caller has to sleep. -/
def mustSleep (s : QueueState) (count : Nat) : Bool :=
  s.queuedPlus count > contextDrawqueueSize - 1

/-- `hgsl_dispatch_queue_cmds` up to its return, or up to the point where it goes to sleep for room
    (`none` as return value). -/
def queueCmds (s : QueueState) (objs : List Nat) (timestamp : BitVec 32) :
    Option Int × BitVec 32 × QueueState :=
  if objs.length = 0 ∨ objs.length > contextDrawqueueSize - 1 then (some (-EINVAL), timestamp, s)
  else if s.inDestroy then (some (-EINVAL), timestamp, s)
  else if s.mustSleep objs.length then
    (none, timestamp, { s with sleepers := s.sleepers ++ [{ objs := objs, timestamp := timestamp }] })
  else
    let r := s.queueLocked objs timestamp 0
    (some r.1, r.2)

/-! ## The dispatcher -/

/-- `_pop_drawobj` -/
def popDrawobj (s : QueueState) : QueueState :=
  { s with
    drawqHead := drawqueueNext s.drawqHead
    queued := s.queued - 1
    fifo := s.fifo.tail }

/-- `o` has left the queue for good. -/
def depart (s : QueueState) (o : Nat) (d : Departure) : QueueState :=
  { s with left := s.left ++ [(o, d)] }

/-- `_retire_syncobj` -/
def retireSyncobj (s : QueueState) (o : Nat) : Int × QueueState :=
  if !(s.obj o).eventsPending then (0, s.popDrawobj.depart o .retired) else (-EAGAIN, s)

/-- `_marker_expired` -/
def markerExpired (s : QueueState) (o : Nat) : Bool :=
  if (s.obj o).flags &&& HGSL_DRAWOBJ_MARKER = 0#64 ∨ s.shadowTs.isNone then false
  else s.checkTimestamp (s.obj o).markerTimestamp

/-- `_retire_markerobj`: 1 if the marker has to go to the GPU. -/
def retireMarkerobj (s : QueueState) (o : Nat) : Int × QueueState :=
  if s.markerExpired o then
    let s₁ := { s with obj := Function.update s.obj o { s.obj o with markerExpired := true } }
    (0, (s₁.popDrawobj.retireTimestamp o).depart o .retired)
  else (if (s.obj o).skip then 1 else -EAGAIN, s)

/-- `_retire_timelineobj` -/
def retireTimelineobj (s : QueueState) (o : Nat) : Int × QueueState :=
  (0, s.popDrawobj.depart o .destroyed)

/-- What one turn of the loop in `_process_drawqueue_get_next_drawobj` comes to: it goes on, or the
    function returns `NULL`, an error or a draw object. -/
inductive ScanResult where
  | next (i : Nat) (ret : Int)
  | null
  | error (ret : Int)
  | found (o : Nat)
  deriving DecidableEq, Repr

/-- One turn of the loop in `_process_drawqueue_get_next_drawobj`, at index `i`. -/
def processDrawqueue (s : QueueState) (i : Nat) (ret : Int) : ScanResult × QueueState :=
  if i = s.drawqTail then (.null, s)
  else
    match s.drawq i with
    | none => (.null, s)
    | some o =>
      let finish (r : Int × QueueState) : ScanResult × QueueState :=
        if r.1 ≠ 0 then (.error r.1, r.2) else (.next (drawqueueNext i) r.1, r.2)
      match (s.obj o).type with
      | .cmd => (.found o, s)
      | .sync => finish (s.retireSyncobj o)
      | .marker =>
        let r := s.retireMarkerobj o
        if r.1 = 1 then (.found o, r.2) else finish r
      | .bind => finish (ret, s)
      | .timeline => finish (s.retireTimelineobj o)

/-- `hgsl_dispatch_requeue_drawobj` -/
def requeueDrawobj (s : QueueState) (o : Nat) : QueueState :=
  let prev := if s.drawqHead = 0 then CONTEXT_DRAWQUEUE_SIZE - 1 else s.drawqHead - 1
  { s with
    warned := s.warned || prev == s.drawqTail
    drawq := Function.update s.drawq prev (some o)
    queued := s.queued + 1
    drawqHead := prev
    fifo := o :: s.fifo }

/-- What `_sendcmd` came to: no memory for the in-flight entry, or the object was passed to
    `hgsl_issue_drawobj`, which returned `ret`. -/
inductive SendResult where
  | nomem
  | issued (ret : Int)
  deriving DecidableEq, Repr

/-- The return value of `_sendcmd`. -/
def SendResult.ret : SendResult → Int
  | .nomem => -ENOMEM
  | .issued ret => ret

/-- The body of the loop in `hgsl_dispatch_sendcmds` from `_sendcmd` on. -/
def finishSend (s : QueueState) (o : Nat) (r : SendResult) : QueueState :=
  let s₁ := { s with dispatcher := .idle }
  if r.ret = 0 then { s₁ with gpu := s₁.gpu ++ [o] }.depart o .sent
  else if r.ret = -ENOENT then s₁.depart o .destroyed
  else s₁.requeueDrawobj o

/-! ## Draining -/

/-- The loop of `hgsl_ctxt_detach_drawobjs` under `drawq_lock`: the final head and the objects taken
    out. -/
def drainLoop (s : QueueState) : Nat → Nat → List Nat → Nat × List Nat
  | 0, head, list => (head, list)
  | fuel + 1, head, list =>
    if head = s.drawqTail then (head, list)
    else s.drainLoop fuel (drawqueueNext head) (list ++ (s.drawq head).toList)

/-- `hgsl_ctxt_detach_drawobjs`: the queue is emptied, then every object taken out is destroyed. -/
def detachDrawobjs (s : QueueState) : QueueState :=
  let r := s.drainLoop CONTEXT_DRAWQUEUE_SIZE s.drawqHead []
  { s with
    drawqHead := r.1
    fifo := []
    left := s.left ++ r.2.map fun o => (o, .destroyed)
    drained := true }

end QueueState

end Hgsl
