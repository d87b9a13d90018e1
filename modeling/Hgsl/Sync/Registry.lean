import Hgsl.Timestamp
import Hgsl.Lib.Trace
import Mathlib.Data.List.Sort
import Mathlib.Logic.Function.Basic

set_option autoImplicit false

/-! # Timeline ids and timeline draw objects

The idr of the isync timelines, `hgsl_isync_timeline_create`, `hgsl_isync_timeline_destroy` and
`hgsl_isync_fini` on it, and the draw objects that signal timelines: `hgsl_drawobj_add_timeline` captures
them, and whoever drops the last `sig_refcount` forwards them (`_drawobj_timelineobj_retire`). Any number
of threads act for any number of clients. A section under a lock is one step, and so are the read of
`timeline->id` before a call of `hgsl_isync_forward` and each put of a reference.

A timeline is known by a number of its own, so that one created with the id of an earlier one is
another. Left out: the contexts that a draw object refers to, and the other calls, which leave any
timestamp and any fences behind in a timeline; their references are not counted. -/

namespace Hgsl

/-- A fence on the list of a timeline; `alive` says that it still has a reference. -/
structure ListedFence where
  ts : BitVec 64
  alive : Bool
  deriving DecidableEq, Repr

/-- `struct hgsl_isync_timeline` -/
structure IdrTimeline where
  /-- the client that created it -/
  priv : Nat := 0
  id : Nat := 0
  kref : Nat := 0
  is64bits : Bool := false
  lastTs : BitVec 64 := 0#64
  fenceList : List ListedFence := []
  deriving DecidableEq, Repr

/-- `struct hgsl_timeline_val` as user space passes it -/
structure TimelineArg where
  timelineId : Nat
  timepoint : BitVec 64
  padding : BitVec 32 := 0#32
  deriving DecidableEq, Repr

/-- `struct hgsl_timeline_event` -/
structure TimelineEvent where
  timeline : Nat
  seqno : BitVec 64
  deriving DecidableEq, Repr

/-- What its submitter does with a draw object. -/
inductive DrawobjStage where
  | unused
  | created
  /-- `hgsl_drawobj_add_timeline` is under way -/
  | adding
  /-- it has returned -/
  | added
  | destroyed
  deriving DecidableEq, Repr

/-- `struct hgsl_drawobj_timeline` -/
structure TimelineDrawobj where
  priv : Nat := 0
  timelines : Option (List TimelineEvent) := none
  count : Nat := 0
  sigRefcount : Nat := 0
  stage : DrawobjStage := .unused
  /-- `_timeline_signaled` is registered -/
  eventPending : Bool := false
  deriving DecidableEq, Repr

/-- Where a thread stands; `d` is a draw object, `evs` are the events that are left. -/
inductive RetireThread where
  | idle
  /-- about to destruct these timelines, which are out of the idr -/
  | destructing (tls : List Nat)
  /-- in the loop of `hgsl_drawobj_add_timeline` -/
  | adding (d : Nat) (vals : List TimelineArg)
  /-- the loop is over; about to register the event -/
  | registering (d : Nat)
  /-- in its error path, about to put the references to these -/
  | unwinding (d : Nat) (evs : List TimelineEvent)
  /-- in the loop of `_drawobj_timelineobj_retire` -/
  | retiring (d : Nat) (evs : List TimelineEvent)
  /-- in `hgsl_isync_forward` for the first event, about to look `id` up -/
  | looking (d id : Nat) (evs : List TimelineEvent)
  /-- the id stands for timeline `tl` -/
  | forwarding (d tl : Nat) (evs : List TimelineEvent)
  /-- about to put the reference to it -/
  | putting (d tl : Nat) (evs : List TimelineEvent)
  /-- about to put the reference of the first event -/
  | releasing (d : Nat) (evs : List TimelineEvent)
  /-- it has followed a null pointer -/
  | oops
  deriving DecidableEq, Repr

/-- The idr with its timelines, the draw objects and the threads. -/
structure TimelineRegistry where
  /-- `isync_timeline_idr`: ids with their timelines, in the order of the ids -/
  idr : List (Nat × Nat) := []
  timeline : Nat → IdrTimeline := fun _ => {}
  drawobj : Nat → TimelineDrawobj := fun _ => {}
  thread : Nat → RetireThread := fun _ => .idle
  /-- history: the timelines that `hgsl_drawobj_add_timeline` took a reference to, for each draw object -/
  captured : Nat → List Nat := fun _ => []
  /-- history: the number of the next timeline -/
  nextTimeline : Nat := 0
  /-- history: the number of the next draw object -/
  nextDrawobj : Nat := 0

/-- What can happen next; `t` is the thread that moves. -/
inductive RetireAct where
  /-- `hgsl_isync_timeline_create` for a client; `idr_alloc` gives it `id` -/
  | create (client id : Nat) (is64bits : Bool) (initialTs : BitVec 64)
  /-- the section of `hgsl_isync_timeline_destroy` for a client -/
  | destroy (t client id : Nat)
  /-- the section of `hgsl_isync_fini` for a client -/
  | fini (t client : Nat)
  /-- `hgsl_isync_timeline_destruct` of the next timeline -/
  | destruct (t : Nat)
  /-- `hgsl_drawobj_timeline_create` -/
  | drawobjCreate (client : Nat)
  /-- `hgsl_drawobj_add_timeline`; `ok` says that what it needs before the loop is there -/
  | addTimeline (t d : Nat) (vals : List TimelineArg) (ok : Bool)
  /-- the next turn of its loop, or its end; the value could be read, the context is alive -/
  | capture (t : Nat) (copied contextAlive : Bool)
  /-- `hgsl_add_event` -/
  | addEvent (t : Nat) (ok : Bool)
  /-- the next put of its error path -/
  | unwind (t : Nat)
  /-- `_timeline_signaled` -/
  | timelineSignaled (t d : Nat)
  /-- `hgsl_drawobj_destroy` -/
  | drawobjDestroy (t d : Nat)
  /-- the retire reads the id of the next timeline, or ends -/
  | readId (t : Nat)
  /-- `hgsl_isync_timeline_get` in `hgsl_isync_forward` -/
  | lookup (t : Nat)
  /-- the section of `hgsl_isync_forward` -/
  | forward (t : Nat)
  /-- `hgsl_isync_timeline_put` at the end of `hgsl_isync_forward` -/
  | putFound (t : Nat)
  /-- `hgsl_isync_timeline_put` in the retire -/
  | putCaptured (t : Nat)
  /-- what the other calls do to a timeline -/
  | others (tl : Nat) (lastTs : BitVec 64) (fenceList : List ListedFence)
  deriving DecidableEq, Repr

namespace TimelineRegistry

/-! ## State updates -/

def setThread (s : TimelineRegistry) (t : Nat) (th : RetireThread) : TimelineRegistry :=
  { s with thread := Function.update s.thread t th }

def setTimeline (s : TimelineRegistry) (tl : Nat) (l : IdrTimeline) : TimelineRegistry :=
  { s with timeline := Function.update s.timeline tl l }

def setDrawobj (s : TimelineRegistry) (d : Nat) (c : TimelineDrawobj) : TimelineRegistry :=
  { s with drawobj := Function.update s.drawobj d c }

def addCaptured (s : TimelineRegistry) (d tl : Nat) : TimelineRegistry :=
  { s with captured := Function.update s.captured d (s.captured d ++ [tl]) }

/-! ## The functions -/

/-- `idr_find` -/
def idrFind (s : TimelineRegistry) (id : Nat) : Option Nat :=
  (s.idr.find? fun e => e.1 = id).map Prod.snd

/-- `idr_remove` -/
def idrRemove (s : TimelineRegistry) (id : Nat) : TimelineRegistry :=
  { s with idr := s.idr.filter fun e => e.1 ≠ id }

/-- `kref_get` -/
def getTimeline (s : TimelineRegistry) (tl : Nat) : TimelineRegistry :=
  s.setTimeline tl { s.timeline tl with kref := (s.timeline tl).kref + 1 }

/-- `hgsl_isync_timeline_put` -/
def putTimeline (s : TimelineRegistry) (tl : Nat) : TimelineRegistry :=
  s.setTimeline tl { s.timeline tl with kref := (s.timeline tl).kref - 1 }

/-- `hgsl_isync_timeline_get` up to `kref_get_unless_zero`: the timeline it gets. -/
def timelineGet (s : TimelineRegistry) (priv id : Nat) (checkOwner : Bool) : Option Nat :=
  match s.idrFind id with
  | none => none
  | some tl =>
    if checkOwner && (s.timeline tl).priv ≠ priv then none
    else if (s.timeline tl).kref = 0 then none
    else some tl

/-- The section of `hgsl_isync_timeline_destruct`. -/
def destructList (s : TimelineRegistry) (tl : Nat) : TimelineRegistry :=
  s.setTimeline tl
    { s.timeline tl with fenceList := (s.timeline tl).fenceList.filter fun f => !f.alive }

/-- The section of `hgsl_isync_forward`. -/
def forwardTimeline (s : TimelineRegistry) (tl : Nat) (ts : BitVec 64) : TimelineRegistry :=
  let l := s.timeline tl
  if hgslTsGe l.lastTs ts l.is64bits then s
  else
    s.setTimeline tl { l with
      lastTs := ts
      fenceList := l.fenceList.filter fun f => !hgslTsGe ts f.ts l.is64bits }

/-- `hgsl_timelineobj_signal` -/
def timelineobjSignal (s : TimelineRegistry) (t d : Nat) : TimelineRegistry :=
  let c := s.drawobj d
  let s' := s.setDrawobj d { c with sigRefcount := c.sigRefcount - 1 }
  if c.sigRefcount = 1 then
    match c.timelines with
    | some evs => s'.setThread t (.retiring d (evs.take c.count))
    | none => s'.setThread t (if c.count = 0 then .retiring d [] else .oops)
  else s'

/-- The error path of `hgsl_drawobj_add_timeline`. -/
def unwindFrom (s : TimelineRegistry) (t d : Nat) : TimelineRegistry :=
  s.setThread t (.unwinding d ((s.drawobj d).timelines.getD []))

/-! ## The steps -/

/-- One step. -/
def step (s : TimelineRegistry) : RetireAct → Option TimelineRegistry
  | .create client id is64bits initialTs =>
    if 0 < id ∧ s.idrFind id = none then
      let tl := s.nextTimeline
      let l := { priv := client, id := id, kref := 1, is64bits := is64bits, lastTs := initialTs }
      some { s.setTimeline tl l with
        idr := s.idr.orderedInsert (fun e e' => e.1 ≤ e'.1) (id, tl)
        nextTimeline := tl + 1 }
    else none
  | .destroy t client id =>
    match s.thread t, s.idrFind id with
    | .idle, some tl =>
      if (s.timeline tl).priv = client then
        some (((s.idrRemove (s.timeline tl).id).setTimeline tl { s.timeline tl with id := 0 }).setThread t
          (.destructing [tl]))
      else some s
    | .idle, none => some s
    | _, _ => none
  | .fini t client =>
    match s.thread t with
    | .idle =>
      let isOwn := fun e : Nat × Nat => (s.timeline e.2).priv = client
      some ({ s with idr := s.idr.filter fun e => ¬isOwn e }.setThread t
        -- `list_add` turns their order round
        (.destructing ((s.idr.filter fun e => isOwn e).map Prod.snd).reverse))
    | _ => none
  | .destruct t =>
    match s.thread t with
    | .destructing (tl :: tls) =>
      some (((s.destructList tl).putTimeline tl).setThread t (.destructing tls))
    | .destructing [] => some (s.setThread t .idle)
    | _ => none
  | .drawobjCreate client =>
    some { s.setDrawobj s.nextDrawobj { priv := client, sigRefcount := 1, stage := .created } with
      nextDrawobj := s.nextDrawobj + 1 }
  | .addTimeline t d vals ok =>
    match s.thread t, (s.drawobj d).stage with
    | .idle, .created =>
      if ok && vals ≠ [] then
        some ((s.setDrawobj d { s.drawobj d with timelines := some [], stage := .adding }).setThread t
          (.adding d vals))
      else some (s.setDrawobj d { s.drawobj d with stage := .added })
    | _, _ => none
  | .capture t copied contextAlive =>
    match s.thread t with
    | .adding d [] =>
      let c := s.drawobj d
      some ((s.setDrawobj d { c with count := (c.timelines.getD []).length }).setThread t (.registering d))
    | .adding d (val :: vals) =>
      if !copied || val.padding ≠ 0#32 then some (s.unwindFrom t d)
      else
        match s.timelineGet (s.drawobj d).priv val.timelineId false with
        | none => some (s.unwindFrom t d)
        | some tl =>
          let c := s.drawobj d
          let s' := ((s.getTimeline tl).addCaptured d tl).setDrawobj d { c with
            timelines := some (c.timelines.getD [] ++ [⟨tl, val.timepoint⟩]) }
          some (if contextAlive then s'.setThread t (.adding d vals) else s'.unwindFrom t d)
    | _ => none
  | .addEvent t ok =>
    match s.thread t with
    | .registering d =>
      let c := s.drawobj d
      if ok then
        some ((s.setDrawobj d { c with
          sigRefcount := c.sigRefcount + 1, eventPending := true, stage := .added }).setThread t .idle)
      -- the reference for the event is taken and put again
      else some (s.unwindFrom t d)
    | _ => none
  | .unwind t =>
    match s.thread t with
    | .unwinding d (ev :: evs) => some ((s.putTimeline ev.timeline).setThread t (.unwinding d evs))
    -- `count` stays
    | .unwinding d [] =>
      some ((s.setDrawobj d { s.drawobj d with timelines := none, stage := .added }).setThread t .idle)
    | _ => none
  | .timelineSignaled t d =>
    match s.thread t, (s.drawobj d).eventPending with
    | .idle, true =>
      some ((s.setDrawobj d { s.drawobj d with eventPending := false }).timelineobjSignal t d)
    | _, _ => none
  | .drawobjDestroy t d =>
    match s.thread t, (s.drawobj d).stage with
    | .idle, .created | .idle, .added =>
      some ((s.setDrawobj d { s.drawobj d with stage := .destroyed }).timelineobjSignal t d)
    | _, _ => none
  | .readId t =>
    match s.thread t with
    | .retiring d (ev :: evs) => some (s.setThread t (.looking d (s.timeline ev.timeline).id (ev :: evs)))
    | .retiring d [] =>
      some ((s.setDrawobj d { s.drawobj d with timelines := none, count := 0 }).setThread t .idle)
    | _ => none
  | .lookup t =>
    match s.thread t with
    | .looking d id evs =>
      match s.timelineGet (s.drawobj d).priv id false with
      | none => some (s.setThread t (.releasing d evs))
      | some tl => some ((s.getTimeline tl).setThread t (.forwarding d tl evs))
    | _ => none
  | .forward t =>
    match s.thread t with
    | .forwarding d tl (ev :: evs) =>
      -- the fences are off the list when they are signalled
      some ((s.forwardTimeline tl ev.seqno).setThread t (.putting d tl (ev :: evs)))
    | _ => none
  | .putFound t =>
    match s.thread t with
    | .putting d tl evs => some ((s.putTimeline tl).setThread t (.releasing d evs))
    | _ => none
  | .putCaptured t =>
    match s.thread t with
    | .releasing d (ev :: evs) => some ((s.putTimeline ev.timeline).setThread t (.retiring d evs))
    | _ => none
  | .others tl lastTs fenceList =>
    some (s.setTimeline tl { s.timeline tl with lastTs := lastTs, fenceList := fenceList })

end TimelineRegistry

end Hgsl
