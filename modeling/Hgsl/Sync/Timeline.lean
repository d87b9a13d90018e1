import Hgsl.Timestamp
import Hgsl.Lib.RefCount
import Hgsl.Lib.Trace
import Mathlib.Logic.Function.Basic

set_option autoImplicit false

/-! # Isync timelines

The fences of the isync timelines: `hgsl_isync_fence_create` and `hgsl_timelines_to_fence_array`, which
make them, and `hgsl_isync_fence_signal` and `hgsl_isync_forward`, which signal them, called by any number
of threads; besides, the users of the fences, who get and put references, poll, and put the last one. A
section under `fence_list_lock` is one step, and so is what a thread does between two of them with one
fence. In particular the check of a new fence and its insertion into the list are two steps.

Left out: the lookup of timelines and their own references. -/

namespace Hgsl

/-- Who holds a reference to a fence. -/
inductive FenceHolder where
  /-- a call that is under way, or its caller -/
  | call (t : Nat)
  /-- a sync file, or a thread that got the fence from one -/
  | user
  deriving DecidableEq, Repr

/-- Where a fence stands: a summary for the proofs that no step looks at. -/
inductive FenceStage where
  | unused
  /-- thread `t` has not inserted it yet -/
  | making (t : Nat)
  | listed
  /-- thread `t` has removed it from the list to signal it -/
  | taken (t : Nat)
  | done
  /-- thread `t` has dropped the last reference -/
  | dying (t : Nat)
  | released
  deriving DecidableEq, Repr

/-- `struct hgsl_isync_fence` -/
structure IsyncFence where
  timeline : Nat := 0
  ts : BitVec 64 := 0#64
  /-- `DMA_FENCE_FLAG_SIGNALED_BIT` -/
  signalled : Bool := false
  kref : RefCount FenceHolder := ⟨0, []⟩
  /-- history -/
  stage : FenceStage := .unused
  deriving DecidableEq, Repr

/-- `struct hgsl_isync_timeline` -/
structure IsyncTimeline where
  is64bits : Bool
  lastTs : BitVec 64
  fenceList : List Nat := []
  deriving DecidableEq, Repr

/-- `struct hgsl_timeline_val`, with the timeline that its id stands for -/
structure TimelineVal where
  timeline : Nat
  timepoint : BitVec 64
  deriving DecidableEq, Repr

/-- What `hgsl_timelines_to_fence_array` has done and has to do: the fences made, the values left. -/
structure ArrayLoop where
  made : List Nat
  rest : List TimelineVal
  deriving DecidableEq, Repr

/-- Where a thread goes on after it has put a fence: it is done, or there are more of them. -/
inductive AfterPut where
  | idle
  | dropping (fs : List Nat)
  | forwarding (fs : List Nat)
  deriving DecidableEq, Repr

/-- Where a thread stands; `f` is a fence, `fs` are fences. -/
inductive SyncThread where
  | idle
  /-- `hgsl_timelines_to_fence_array` has returned these to the caller -/
  | holding (fs : List Nat)
  /-- the file of a new fence could not be made; it drops the fence -/
  | discarding (f : Nat)
  /-- about to look whether the new fence is signalled; with an array or in `hgsl_isync_fence_create` -/
  | checking (f : Nat) (array : Option ArrayLoop)
  /-- it is not; about to insert it -/
  | inserting (f : Nat) (array : Option ArrayLoop)
  /-- at the head of the loop of `hgsl_timelines_to_fence_array` -/
  | looping (array : ArrayLoop)
  /-- about to put these references -/
  | dropping (fs : List Nat)
  /-- in `hgsl_isync_fence_signal`, about to look for the fence in the list -/
  | searching (tl f : Nat)
  /-- found -/
  | signalling (f : Nat)
  /-- in `hgsl_isync_forward`, about to signal and put these -/
  | forwarding (fs : List Nat)
  /-- `f` is signalled -/
  | passing (f : Nat) (fs : List Nat)
  /-- in `hgsl_isync_fence_release`, and then at `next` -/
  | releasing (f : Nat) (next : AfterPut)
  deriving DecidableEq, Repr

def AfterPut.thread : AfterPut → SyncThread
  | .idle => .idle
  | .dropping fs => .dropping fs
  | .forwarding fs => .forwarding fs

/-- The timelines, the fences and the threads. -/
structure IsyncState where
  timeline : Nat → IsyncTimeline
  fence : Nat → IsyncFence := fun _ => {}
  thread : Nat → SyncThread := fun _ => .idle
  /-- history: the number of the next fence -/
  nextFence : Nat := 0

/-- What can happen next; `t` is the thread that moves. -/
inductive SyncAct where
  /-- `hgsl_isync_fence_create` up to the check; `installed` says that there is a file for the fence -/
  | fenceCreate (t tl : Nat) (ts : BitVec 32) (tsIsValid installed : Bool)
  /-- `hgsl_timelines_to_fence_array` -/
  | fenceArray (t : Nat) (vals : List TimelineVal)
  /-- the next turn of its loop, or its end; `ok` says that nothing fails -/
  | turn (t : Nat) (ok : Bool)
  /-- `dma_fence_is_signaled` on a new fence -/
  | check (t : Nat)
  | insert (t : Nat)
  /-- `hgsl_isync_fence_signal` gets the fence of a file -/
  | fenceSignal (t tl f : Nat)
  /-- the section of `_isync_timeline_signal` -/
  | search (t : Nat)
  /-- the section of `hgsl_isync_forward` -/
  | forward (t tl : Nat) (ts : BitVec 64)
  /-- the next `dma_fence_signal` -/
  | signal (t : Nat)
  /-- the next `dma_fence_put` -/
  | put (t : Nat)
  /-- the section of `hgsl_isync_fence_release`, and the end of the fence -/
  | release (t : Nat)
  /-- a caller is done with its fences -/
  | drop (t : Nat)
  /-- a user gets, puts or polls a fence; the poll, as `dma_fence_add_callback` does, signals it if its
      timestamp is reached -/
  | getUser (f : Nat)
  | putUser (t f : Nat)
  | poll (f : Nat)
  deriving DecidableEq, Repr

namespace IsyncState

/-! ## State updates -/

/-- The timelines as they are created: no fences, any flags and any initial timestamp. -/
def fresh (is64bits : Nat → Bool) (initialTs : Nat → BitVec 64) : IsyncState :=
  { timeline := fun tl => { is64bits := is64bits tl, lastTs := initialTs tl } }

def setThread (s : IsyncState) (t : Nat) (th : SyncThread) : IsyncState :=
  { s with thread := Function.update s.thread t th }

def setFence (s : IsyncState) (f : Nat) (c : IsyncFence) : IsyncState :=
  { s with fence := Function.update s.fence f c }

def setTimeline (s : IsyncState) (tl : Nat) (l : IsyncTimeline) : IsyncState :=
  { s with timeline := Function.update s.timeline tl l }

/-- `hgsl_isync_has_signaled` -/
def hasSignaled (s : IsyncState) (f : Nat) : Bool :=
  let c := s.fence f
  hgslTsGe (s.timeline c.timeline).lastTs c.ts (s.timeline c.timeline).is64bits

/-! ## The functions -/

/-- A new fence with a reference for thread `t`, which goes on with it. -/
def makeFence (s : IsyncState) (t tl : Nat) (ts : BitVec 64) (kref : RefCount FenceHolder)
    (th : SyncThread) : IsyncState :=
  ({ s with nextFence := s.nextFence + 1 }.setFence s.nextFence
    { timeline := tl, ts := ts, kref := kref, stage := .making t }).setThread t th

/-- Where a thread goes on after it has made a fence. -/
def afterMake (f : Nat) : Option ArrayLoop → SyncThread
  | none => .dropping [f]
  | some array => .looping { array with made := array.made ++ [f] }

/-- `dma_fence_put`; `next` is where the thread goes on. -/
def putFence (s : IsyncState) (t f : Nat) (holder : FenceHolder) (next : AfterPut) : IsyncState :=
  let c := s.fence f
  if c.kref.count = 1 then
    (s.setFence f { c with kref := c.kref.put holder, stage := .dying t }).setThread t (.releasing f next)
  else (s.setFence f { c with kref := c.kref.put holder }).setThread t next.thread

/-- `list_del_init` -/
def delFence (s : IsyncState) (tl f : Nat) : IsyncState :=
  s.setTimeline tl { s.timeline tl with fenceList := (s.timeline tl).fenceList.erase f }

/-- The fences that `hgsl_isync_forward` removes from the list. -/
def swept (s : IsyncState) (tl : Nat) (ts : BitVec 64) : List Nat :=
  (s.timeline tl).fenceList.filter fun f => hgslTsGe ts (s.fence f).ts (s.timeline tl).is64bits

/-- Those of them that it gets a reference to. -/
def alive (s : IsyncState) (fs : List Nat) : List Nat :=
  fs.filter fun f => (s.fence f).kref.count ≠ 0

/-- The section of `hgsl_isync_forward`. -/
def forwardTimeline (s : IsyncState) (t tl : Nat) (ts : BitVec 64) : IsyncState :=
  let l := s.timeline tl
  if hgslTsGe l.lastTs ts l.is64bits then s
  else
    let fs := s.alive (s.swept tl ts)
    let fence := fun f =>
      if f ∈ fs then
        { s.fence f with kref := (s.fence f).kref.get (.call t), stage := .taken t }
      else s.fence f
    let kept := l.fenceList.filter fun f => !hgslTsGe ts (s.fence f).ts l.is64bits
    -- `list_add` turns their order round
    { s with fence := fence }.setTimeline tl { l with lastTs := ts, fenceList := kept } |>.setThread t
      (.forwarding fs.reverse)

/-! ## The steps -/

/-- One step. -/
def step (s : IsyncState) : SyncAct → Option IsyncState
  | .fenceCreate t tl ts tsIsValid installed =>
    match s.thread t with
    | .idle =>
      let ts := if tsIsValid then ts else 1#32
      if installed then
        some (s.makeFence t tl (ts.setWidth 64) ((RefCount.init (.call t)).get .user)
          (.checking s.nextFence none))
      else
        some (s.makeFence t tl (ts.setWidth 64) (.init (.call t)) (.discarding s.nextFence))
    | _ => none
  | .fenceArray t vals =>
    match s.thread t with
    | .idle => some (s.setThread t (.looping ⟨[], vals⟩))
    | _ => none
  | .turn t ok =>
    match s.thread t with
    | .looping array =>
      if !ok then some (s.setThread t (.dropping array.made))
      else
        match array.rest with
        | [] => some (s.setThread t (.holding array.made))
        | v :: rest =>
          some (s.makeFence t v.timeline v.timepoint (.init (.call t))
            (.checking s.nextFence (some { array with rest := rest })))
    | _ => none
  | .check t =>
    match s.thread t with
    | .checking f array =>
      if (s.fence f).signalled || s.hasSignaled f then
        some ((s.setFence f { s.fence f with signalled := true, stage := .done }).setThread t
          (afterMake f array))
      else some (s.setThread t (.inserting f array))
    | _ => none
  | .insert t =>
    match s.thread t with
    | .inserting f array =>
      let tl := (s.fence f).timeline
      let l := { s.timeline tl with fenceList := (s.timeline tl).fenceList ++ [f] }
      some (((s.setTimeline tl l).setFence f { s.fence f with stage := .listed }).setThread t
        (afterMake f array))
    | _ => none
  | .fenceSignal t tl f =>
    match s.thread t with
    | .idle =>
      if .user ∈ (s.fence f).kref.holders then
        some ((s.setFence f { s.fence f with kref := (s.fence f).kref.get (.call t) }).setThread t
          (.searching tl f))
      else none
    | _ => none
  | .search t =>
    match s.thread t with
    | .searching tl f =>
      if f ∈ (s.timeline tl).fenceList then
        some (((s.delFence tl f).setFence f { s.fence f with stage := .taken t }).setThread t
          (.signalling f))
      else some (s.setThread t (.dropping [f]))
    | _ => none
  | .forward t tl ts =>
    match s.thread t with
    | .idle => some (s.forwardTimeline t tl ts)
    | _ => none
  | .signal t =>
    match s.thread t with
    | .signalling f =>
      some ((s.setFence f { s.fence f with signalled := true, stage := .done }).setThread t
        (.dropping [f]))
    | .forwarding (f :: fs) =>
      some ((s.setFence f { s.fence f with signalled := true, stage := .done }).setThread t
        (.passing f fs))
    | .forwarding [] => some (s.setThread t .idle)
    | _ => none
  | .put t =>
    match s.thread t with
    | .discarding f => some (s.putFence t f (.call t) .idle)
    | .dropping (f :: fs) => some (s.putFence t f (.call t) (.dropping fs))
    | .dropping [] => some (s.setThread t .idle)
    | .passing f fs => some (s.putFence t f (.call t) (.forwarding fs))
    | _ => none
  | .release t =>
    match s.thread t with
    | .releasing f next =>
      some (((s.delFence (s.fence f).timeline f).setFence f
        { s.fence f with stage := .released }).setThread t next.thread)
    | _ => none
  | .drop t =>
    match s.thread t with
    | .holding fs => some (s.setThread t (.dropping fs))
    | _ => none
  | .getUser f =>
    if .user ∈ (s.fence f).kref.holders then
      some (s.setFence f { s.fence f with kref := (s.fence f).kref.get .user })
    else none
  | .putUser t f =>
    match s.thread t with
    | .idle =>
      if .user ∈ (s.fence f).kref.holders then some (s.putFence t f .user .idle) else none
    | _ => none
  | .poll f =>
    if (s.fence f).kref.count ≠ 0 ∧ s.hasSignaled f then
      some (s.setFence f { s.fence f with signalled := true })
    else none

end IsyncState

end Hgsl
