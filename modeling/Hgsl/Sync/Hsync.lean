import Hgsl.Timestamp
import Hgsl.Lib.RefCount
import Hgsl.Lib.Trace
import Mathlib.Logic.Function.Basic

set_option autoImplicit false

/-! # Hsync timelines

The timeline that a context has for the fences of its own timestamps: `hgsl_hsync_fence_create_fd`, which makes a
fence with a file and links it, `hgsl_hsync_timeline_signal`, which takes the fences that are reached off the
list, the release of a fence, and `hgsl_hsync_timeline_fini`. Any number of threads create and signal, and the
users of the files poll and close them. A section under the lock of the timeline is one step, and so is each
put of a fence; what a call does with a new fence before the lock is one step with the getting of the timeline.

Left out: the context's own references, and which timestamps an event is accepted for. -/

namespace Hgsl

/-- Who holds a reference to a fence. -/
inductive HsyncHolder where
  /-- the one of `dma_fence_init`, which the list stands for -/
  | driver
  | syncFile
  deriving DecidableEq, Repr

/-- The sync file of a fence. -/
inductive HsyncFile where
  | missing
  /-- thread `t` has it for an fd that is not installed -/
  | made (t : Nat)
  | installed
  | closed
  deriving DecidableEq, Repr

/-- Where a fence stands: a summary for the proofs that no step looks at. -/
inductive HsyncStage where
  | unused
  /-- thread `t` has not linked it yet -/
  | making (t : Nat)
  | listed
  /-- thread `t` has taken it off the list -/
  | taken (t : Nat)
  | done
  deriving DecidableEq, Repr

/-- `struct hgsl_hsync_fence` -/
structure HsyncFence where
  ts : BitVec 32 := 0#32
  /-- `DMA_FENCE_FLAG_SIGNALED_BIT` -/
  signalled : Bool := false
  kref : RefCount HsyncHolder := ⟨0, []⟩
  /-- `timeline` is set -/
  timeline : Bool := false
  syncFile : HsyncFile := .missing
  /-- history -/
  stage : HsyncStage := .unused
  /-- history: how often it was released -/
  released : Nat := 0
  /-- history: how often it has dropped a reference to the timeline -/
  timelinePuts : Nat := 0
  deriving DecidableEq, Repr

/-- Who holds a reference to the timeline. -/
inductive HsyncTimelineHolder where
  | context
  | fence (f : Nat)
  | call (t : Nat)
  deriving DecidableEq, Repr

/-- Where a thread stands; `f` is a fence. -/
inductive HsyncThread where
  | idle
  /-- in `hgsl_hsync_fence_create`, about to link the fence -/
  | linking (f : Nat)
  /-- in `hgsl_hsync_fence_create_fd`, about to add the event -/
  | adding (f : Nat)
  /-- about to install the fd -/
  | installing (f : Nat)
  /-- in `hgsl_hsync_timeline_signal`, about to put these -/
  | putting (fs : List Nat)
  deriving DecidableEq, Repr

/-- `struct hgsl_hsync_timeline` of a context, with its fences and the threads -/
structure Hsync where
  lastTs : BitVec 32 := 0#32
  /-- `last_ts` of the context -/
  contextLastTs : BitVec 32 := 0#32
  fenceList : List Nat := []
  kref : RefCount HsyncTimelineHolder := .init .context
  fence : Nat → HsyncFence := fun _ => {}
  thread : Nat → HsyncThread := fun _ => .idle
  /-- history: the number of the next fence -/
  nextFence : Nat := 0

/-- How far `hgsl_hsync_fence_create_fd` gets before it takes the lock. -/
inductive HsyncCreate where
  | noFd
  | noFence
  | noSyncFile
  | ok
  deriving DecidableEq, Repr

/-- What can happen next; `t` is the thread that moves. -/
inductive HsyncAct where
  /-- `hgsl_hsync_fence_create_fd` up to the lock -/
  | fenceCreate (t : Nat) (ts : BitVec 32) (outcome : HsyncCreate)
  /-- the section of `hgsl_hsync_fence_create` -/
  | link (t : Nat)
  /-- `_add_fence_event` -/
  | addEvent (t : Nat) (ok : Bool)
  /-- `fd_install` -/
  | install (t : Nat)
  /-- the section of `hgsl_hsync_timeline_signal` -/
  | signal (t : Nat) (ts : BitVec 32)
  /-- the next `dma_fence_put`, or the end of `hgsl_hsync_timeline_signal` -/
  | put (t : Nat)
  /-- the user closes the fd of a fence -/
  | close (f : Nat)
  /-- the user of a file looks whether its fence is signalled -/
  | poll (f : Nat)
  /-- the context is freed -/
  | putContext
  deriving DecidableEq, Repr

namespace Hsync

/-! ## State updates -/

def setThread (s : Hsync) (t : Nat) (th : HsyncThread) : Hsync :=
  { s with thread := Function.update s.thread t th }

def setFence (s : Hsync) (f : Nat) (c : HsyncFence) : Hsync :=
  { s with fence := Function.update s.fence f c }

/-! ## The functions -/

/-- `dma_fence_is_signaled_locked` on a fence of a timeline: its flag is set, or
    `hgsl_hsync_has_signaled`. -/
def isSignaledLocked (lastTs : BitVec 32) (c : HsyncFence) : Bool := c.signalled || hgslTs32Ge lastTs c.ts

/-- `hgsl_hsync_timeline_put` -/
def putTimeline (s : Hsync) (holder : HsyncTimelineHolder) : Hsync := { s with kref := s.kref.put holder }

/-- `dma_fence_put`, with `hgsl_hsync_fence_release` behind the last one -/
def putFence (s : Hsync) (f : Nat) (holder : HsyncHolder) : Hsync :=
  let c := s.fence f
  let c' := { c with kref := c.kref.put holder }
  if c'.kref.count = 0 then
    if c.timeline then
      (s.setFence f { c' with released := c.released + 1, timelinePuts := c.timelinePuts + 1 }).putTimeline
        (.fence f)
    else s.setFence f { c' with released := c.released + 1 }
  else s.setFence f c'

/-- A new fence -/
def makeFence (s : Hsync) (c : HsyncFence) : Hsync :=
  { s with nextFence := s.nextFence + 1 }.setFence s.nextFence c

/-- The fences that the section of `hgsl_hsync_timeline_signal` finds signalled -/
def swept (s : Hsync) (ts : BitVec 32) : List Nat :=
  if hgslTs32Ge s.lastTs ts then []
  else s.fenceList.filter fun f => isSignaledLocked ts (s.fence f)

/-- The section of `hgsl_hsync_timeline_signal` -/
def sweep (s : Hsync) (t : Nat) (ts : BitVec 32) : Hsync :=
  if hgslTs32Ge s.lastTs ts then s
  else
    { s with
      lastTs := ts
      fenceList := s.fenceList.filter fun f => !isSignaledLocked ts (s.fence f)
      fence := fun f =>
        if f ∈ s.swept ts then { s.fence f with signalled := true, stage := .taken t } else s.fence f }

/-- `dma_fence_put` of a fence that was taken off the list -/
def putTaken (s : Hsync) (f : Nat) : Hsync := (s.setFence f { s.fence f with stage := .done }).putFence f .driver

/-- `hgsl_hsync_timeline_signal`, if nothing else happens meanwhile -/
def hgslHsyncTimelineSignal (s : Hsync) (t : Nat) (ts : BitVec 32) : Hsync :=
  match s.kref.getUnlessZero (.call t) with
  | none => s
  | some kref =>
    let s := { s with kref := kref }
    ((s.swept ts).foldl putTaken (s.sweep t ts)).putTimeline (.call t)

/-- The largest of some timestamps, as numbers -/
def maxTs (tss : List (BitVec 32)) : BitVec 32 := tss.foldl (fun m ts => if m < ts then ts else m) 0#32

/-- `hgsl_hsync_timeline_fini`, if nothing else happens meanwhile: the wait for the list to get empty then runs
    to its end. -/
def hgslHsyncTimelineFini (s : Hsync) (t : Nat) : Hsync :=
  match s.kref.getUnlessZero (.call t) with
  | none => s
  | some kref =>
    let s := { s with kref := kref }
    let max := maxTs (s.fenceList.map fun f => (s.fence f).ts)
    { s.hgslHsyncTimelineSignal t max with contextLastTs := max }.putTimeline (.call t)

/-! ## The steps -/

/-- One step. -/
def step (s : Hsync) : HsyncAct → Option Hsync
  | .fenceCreate t ts outcome =>
    match s.thread t with
    | .idle =>
      match outcome with
      | .noFd => some s
      | .noFence =>
        match s.kref.getUnlessZero (.call t) with
        | none => some s
        | some kref => some { s with kref := kref.put (.call t) }
      | .noSyncFile =>
        match s.kref.getUnlessZero (.call t) with
        | none => some s
        | some kref =>
          some ({ s with kref := kref.put (.call t) }.makeFence { ts := ts, kref := .init .driver, stage := .done })
      | .ok =>
        match s.kref.getUnlessZero (.fence s.nextFence) with
        | none => some s
        | some kref =>
          some (({ s with kref := kref }.makeFence
            { ts := ts, kref := (RefCount.init HsyncHolder.driver).get .syncFile, timeline := true, syncFile := .made t,
              stage := .making t }).setThread t (.linking s.nextFence))
    | _ => none
  | .link t =>
    match s.thread t with
    | .linking f =>
      if isSignaledLocked s.lastTs (s.fence f) then
        some ((s.setFence f { s.fence f with signalled := true, stage := .done }).setThread t (.adding f))
      else
        some (({ s with fenceList := s.fenceList ++ [f] }.setFence f { s.fence f with stage := .listed }).setThread t
          (.adding f))
    | _ => none
  | .addEvent t ok =>
    match s.thread t with
    | .adding f => some (s.setThread t (if ok then .installing f else .idle))
    | _ => none
  | .install t =>
    match s.thread t with
    | .installing f => some ((s.setFence f { s.fence f with syncFile := .installed }).setThread t .idle)
    | _ => none
  | .signal t ts =>
    match s.thread t with
    | .idle =>
      match s.kref.getUnlessZero (.call t) with
      | none => some s
      | some kref => some (({ s with kref := kref }.sweep t ts).setThread t (.putting (s.swept ts)))
    | _ => none
  | .put t =>
    match s.thread t with
    | .putting (f :: fs) => some ((s.putTaken f).setThread t (.putting fs))
    | .putting [] => some ((s.putTimeline (.call t)).setThread t .idle)
    | _ => none
  | .close f =>
    if (s.fence f).syncFile = .installed then
      some ((s.setFence f { s.fence f with syncFile := .closed }).putFence f .syncFile)
    else none
  | .poll f =>
    if (s.fence f).syncFile = .installed ∧ isSignaledLocked s.lastTs (s.fence f) then
      some (s.setFence f { s.fence f with signalled := true })
    else none
  | .putContext =>
    if .context ∈ s.kref.holders then some (s.putTimeline .context) else none

end Hsync

end Hgsl
