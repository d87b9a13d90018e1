import Hgsl.DrawQueue.UserLists
import Hgsl.Lib.Trace
import Mathlib.Logic.Function.Basic

set_option autoImplicit false

/-! # One timeline object and its two reference counts

`hgsl_drawobj_add_timeline` fills the array of a timeline object, takes a reference to each timeline and to the
context on its way, and registers `_timeline_signaled`. From then on two threads may drop a `sig_refcount`:
the owner of the object in `hgsl_drawobj_destroy` (the ioctl after an error, the dispatcher otherwise), and
the event worker. The last one runs `_drawobj_timelineobj_retire`. Nobody else sees the object before the event
is registered, so that the whole of `hgsl_drawobj_add_timeline` is one step; what other threads do to the
timelines meanwhile is in what its turns find.

Forwarding a timeline is a call of `hgsl_isync_forward` with the id that stands in the timeline. The timelines that
are captured stay registered, so that their ids stay as they are; what a call finds under an id is a matter of
the timeline registry. -/

namespace Hgsl

/-- What a turn of the loop of `hgsl_drawobj_add_timeline` meets: the value, if it can be read, the timeline
    that `hgsl_isync_timeline_get` finds, and whether the context is still alive. -/
structure CaptureTurn where
  val : Option UserTimelineVal
  timelineGet : Option Nat
  contextGet : Bool
  deriving DecidableEq, Repr

/-- What a call of `hgsl_drawobj_add_timeline` meets; there are as many turns as `cmd.count` says. -/
structure AddTimelineCall where
  getAuxCommand : Int := 0
  readTimestamp : Int := 0
  queued : BitVec 32 := 0#32
  /-- `kvcalloc` has memory -/
  alloc : Bool := true
  turns : List CaptureTurn
  addEvent : Int := 0
  deriving DecidableEq, Repr

/-- `struct hgsl_drawobj_timeline` -/
structure Timelineobj where
  refcount : Nat := 1
  sigRefcount : Nat := 1
  timelines : Option (List CapturedTimeline) := none
  count : Nat := 0
  freed : Bool := false
  deriving DecidableEq, Repr

/-- The two who drop a `sig_refcount`. -/
inductive SignalActor where
  /-- calls `hgsl_drawobj_destroy` -/
  | owner
  /-- runs `_timeline_signaled` -/
  | event
  deriving DecidableEq, Repr

/-- Where one of them stands. -/
inductive SignalStage where
  /-- has not begun -/
  | waiting
  /-- about to call `hgsl_timelineobj_signal` -/
  | signalling
  /-- in `_drawobj_timelineobj_retire`, before turn `i` of its loop -/
  | retiring (i : Nat)
  /-- about to call `hgsl_drawobj_put` -/
  | putting
  /-- about to put the reference of the event to the context -/
  | releasing
  | done
  /-- has used memory that is not there -/
  | oops
  deriving DecidableEq, Repr

/-- What follows `hgsl_drawobj_put`: it is the last of `hgsl_drawobj_destroy`, and the event worker puts a
    reference to the context after it. -/
def SignalActor.afterPut : SignalActor → SignalStage
  | .owner => .done
  | .event => .releasing

/-- A timeline object from `hgsl_drawobj_timeline_create` on. -/
structure TimelineSignal where
  obj : Timelineobj := {}
  /-- what `hgsl_drawobj_add_timeline` has returned -/
  ret : Option Int := none
  thread : SignalActor → SignalStage := fun
    | .owner => .waiting
    | .event => .done
  /-- history: the references taken to a timeline, less those put -/
  timelineRefs : Nat → Int := fun _ => 0
  /-- history: the same for the context; `drawobj_init` has taken one -/
  contextRefs : Int := 1
  /-- history: the timelines that `hgsl_drawobj_add_timeline` has captured, with their values -/
  captured : List (Nat × BitVec 64) := []
  /-- `timeline->id` -/
  timelineId : Nat → BitVec 32
  /-- history: the timelines that `_drawobj_timelineobj_retire` has forwarded, with the values -/
  forwards : List (Nat × BitVec 64) := []
  /-- history: the calls of `hgsl_isync_forward`, with the ids that they were given -/
  isyncForwards : List (BitVec 32 × BitVec 64) := []
  /-- history: the owner has let go of the object -/
  left : Bool := false
  /-- history: the event has fired -/
  fired : Bool := false

inductive SignalAct where
  | addTimeline (call : AddTimelineCall)
  /-- `hgsl_drawobj_destroy` is called -/
  | destroy
  /-- `_timeline_signaled` is called -/
  | fire
  /-- the next step of a call -/
  | move (who : SignalActor)
  deriving DecidableEq, Repr

/-- The timeline and the value that a turn captures. -/
def CaptureTurn.entry (turn : CaptureTurn) : Option (Nat × BitVec 64) :=
  match turn.val, turn.timelineGet with
  | some val, some tl => if val.padding = 0#32 ∧ turn.contextGet = true then some (tl, val.timepoint) else none
  | _, _ => none

/-- Every check of `hgsl_drawobj_add_timeline` before `hgsl_add_event` passes. -/
def AddTimelineCall.Captures (call : AddTimelineCall) : Prop :=
  call.getAuxCommand = 0 ∧ call.turns ≠ [] ∧ call.readTimestamp = 0 ∧ call.alloc = true ∧
    ∀ turn ∈ call.turns, turn.entry ≠ none

instance (call : AddTimelineCall) : Decidable call.Captures := by
  unfold AddTimelineCall.Captures
  infer_instance

namespace TimelineSignal

/-! ## State updates -/

def setThread (s : TimelineSignal) (who : SignalActor) (st : SignalStage) : TimelineSignal :=
  { s with thread := Function.update s.thread who st }

/-- Changes an entry of the array. -/
def modifyEntry (s : TimelineSignal) (i : Nat) (f : CapturedTimeline → CapturedTimeline) : TimelineSignal :=
  { s with obj := { s.obj with timelines := s.obj.timelines.map fun evs => evs.modify i f } }

def getTimeline (s : TimelineSignal) (tl : Nat) : TimelineSignal :=
  { s with timelineRefs := Function.update s.timelineRefs tl (s.timelineRefs tl + 1) }

/-- `hgsl_isync_timeline_put` -/
def putTimeline (s : TimelineSignal) : Option Nat → TimelineSignal
  | none => s
  | some tl => { s with timelineRefs := Function.update s.timelineRefs tl (s.timelineRefs tl - 1) }

/-- `hgsl_put_context`; `context` is set or a null pointer. -/
def putContext (s : TimelineSignal) (context : Bool) : TimelineSignal :=
  { s with contextRefs := if context then s.contextRefs - 1 else s.contextRefs }

/-! ## The functions -/

/-- A turn of the loop of `hgsl_drawobj_add_timeline` -/
def captureTurn (queued : BitVec 32) (s : TimelineSignal) (i : Nat) (turn : CaptureTurn) :
    TimelineSignal × Int :=
  match turn.val with
  | none => (s, -EFAULT)
  | some val =>
    if val.padding ≠ 0#32 then (s, -EINVAL)
    else
      match turn.timelineGet with
      | none => (s.modifyEntry i fun ev => { ev with timeline := none }, -ENODEV)
      | some tl =>
        let s' := (s.getTimeline tl).modifyEntry i fun ev => { ev with timeline := some tl }
        if !turn.contextGet then (s', -ENODEV)
        else
          ({ s' with contextRefs := s'.contextRefs + 1 }.modifyEntry i fun ev =>
            { ev with seqno := val.timepoint, context := true, timestamp := queued }, 0)

/-- The loop of `hgsl_drawobj_add_timeline` -/
def captureLoop (queued : BitVec 32) : TimelineSignal → Nat → List CaptureTurn → TimelineSignal × Int
  | s, _, [] => (s, 0)
  | s, i, turn :: turns =>
    let r := s.captureTurn queued i turn
    if r.2 ≠ 0 then r else captureLoop queued r.1 (i + 1) turns

/-- The loop at `err` -/
def putEntries : TimelineSignal → List CapturedTimeline → TimelineSignal
  | s, [] => s
  | s, ev :: evs => putEntries ((s.putTimeline ev.timeline).putContext ev.context) evs

/-- The error path of `hgsl_drawobj_add_timeline` from `err` on; `count` stays. -/
def addTimelineErr (s : TimelineSignal) (ret : Int) : TimelineSignal :=
  let s' := s.putEntries (s.obj.timelines.getD [])
  { s' with obj := { s'.obj with timelines := none }, ret := some ret }

/-- `hgsl_drawobj_add_timeline` behind its loop -/
def addTimelineEvent (s : TimelineSignal) (call : AddTimelineCall) : TimelineSignal :=
  let o := { s.obj with count := call.turns.length }
  -- a refused event gives both references back at once
  if call.addEvent ≠ 0 then { s with obj := o }.addTimelineErr call.addEvent
  else
    { s with
      obj := { o with refcount := o.refcount + 1, sigRefcount := o.sigRefcount + 1 }
      ret := some 0
      -- the event holds a reference to the context
      contextRefs := s.contextRefs + 1
      captured := call.turns.filterMap CaptureTurn.entry }.setThread .event .waiting

/-- `hgsl_drawobj_add_timeline` -/
def hgslDrawobjAddTimeline (s : TimelineSignal) (call : AddTimelineCall) : TimelineSignal :=
  if call.getAuxCommand ≠ 0 then { s with ret := some call.getAuxCommand }
  else if call.turns = [] then { s with ret := some (-EINVAL) }
  else if call.readTimestamp ≠ 0 then { s with ret := some call.readTimestamp }
  else if !call.alloc then { s with obj := { s.obj with timelines := none }, ret := some (-ENOMEM) }
  else
    let zeroed := List.replicate call.turns.length {}
    let r := captureLoop call.queued { s with obj := { s.obj with timelines := some zeroed } } 0 call.turns
    if r.2 ≠ 0 then r.1.addTimelineErr r.2 else r.1.addTimelineEvent call

/-- `hgsl_timelineobj_signal` -/
def hgslTimelineobjSignal (s : TimelineSignal) (who : SignalActor) : TimelineSignal :=
  if s.obj.freed then s.setThread who .oops
  else
    { s with obj := { s.obj with sigRefcount := s.obj.sigRefcount - 1 } }.setThread who
      (if s.obj.sigRefcount = 1 then .retiring 0 else .putting)

/-- A turn of `_drawobj_timelineobj_retire`, or what follows its loop -/
def drawobjTimelineobjRetire (s : TimelineSignal) (who : SignalActor) (i : Nat) : TimelineSignal :=
  if s.obj.freed then s.setThread who .oops
  else if i < s.obj.count then
    match s.obj.timelines.bind fun evs => evs[i]? with
    | none => s.setThread who .oops
    | some ev =>
      match ev.timeline with
      | none => s.setThread who .oops
      | some tl =>
        (({ s with
          forwards := s.forwards ++ [(tl, ev.seqno)]
          isyncForwards := s.isyncForwards ++ [(s.timelineId tl, ev.seqno)] }.putTimeline ev.timeline).putContext
            ev.context).setThread who (.retiring (i + 1))
  else { s with obj := { s.obj with timelines := none, count := 0 } }.setThread who .putting

/-- `hgsl_drawobj_put` with `hgsl_drawobj_destroy_object` -/
def hgslDrawobjPut (s : TimelineSignal) (who : SignalActor) : TimelineSignal :=
  if s.obj.freed then s.setThread who .oops
  else if s.obj.refcount = 1 then
    ({ s with obj := { s.obj with refcount := 0, freed := true } }.putContext true).setThread who who.afterPut
  else { s with obj := { s.obj with refcount := s.obj.refcount - 1 } }.setThread who who.afterPut

/-! ## The steps -/

/-- One step. -/
def step (s : TimelineSignal) : SignalAct → Option TimelineSignal
  | .addTimeline call => if s.ret = none then some (s.hgslDrawobjAddTimeline call) else none
  | .destroy =>
    if s.ret ≠ none ∧ s.thread .owner = .waiting then
      some ({ s with left := true }.setThread .owner .signalling)
    else none
  | .fire =>
    if s.thread .event = .waiting then some ({ s with fired := true }.setThread .event .signalling) else none
  | .move who =>
    match s.thread who with
    | .signalling => some (s.hgslTimelineobjSignal who)
    | .retiring i => some (s.drawobjTimelineobjRetire who i)
    | .putting => some (s.hgslDrawobjPut who)
    | .releasing => some ((s.putContext true).setThread who .done)
    | .waiting | .done | .oops => none

end TimelineSignal

/-! ## Filling the array

The references that a call has taken are those that its array tells of, so that the loop at `err` gives them
all back, however far the call has come. -/

/-- A timeline and its value, as the loop writes them. -/
def CapturedTimeline.ofEntry (queued : BitVec 32) (e : Nat × BitVec 64) : CapturedTimeline :=
  ⟨some e.1, true, e.2, queued⟩

theorem modify_append_cons {α : Type} (f : α → α) (l l' : List α) (x : α) :
    (l ++ x :: l').modify l.length f = l ++ f x :: l' := by
  induction l with
  | nil => simp
  | cons y l ih => simp [ih]

namespace TimelineSignal

variable {s : TimelineSignal}

def withArray (s : TimelineSignal) (evs : List CapturedTimeline) : TimelineSignal :=
  { s with obj := { s.obj with timelines := some evs } }

/-- With the references that these entries stand for. -/
def refsOf (s : TimelineSignal) (evs : List CapturedTimeline) : TimelineSignal :=
  { s with
    timelineRefs := fun tl => s.timelineRefs tl + (evs.map CapturedTimeline.timeline).count (some tl)
    contextRefs := s.contextRefs + evs.countP CapturedTimeline.context }

theorem putTimeline_refsOf_cons (ev : CapturedTimeline) (evs : List CapturedTimeline) :
    (((s.refsOf (ev :: evs)).putTimeline ev.timeline).putContext ev.context) = s.refsOf evs := by
  obtain ⟨timeline, context, seqno, timestamp⟩ := ev
  have hctx : (if context then s.contextRefs + ((⟨timeline, context, seqno, timestamp⟩ :: evs).countP
      CapturedTimeline.context : Nat) - 1 else s.contextRefs + ((⟨timeline, context, seqno, timestamp⟩ ::
      evs).countP CapturedTimeline.context : Nat)) = s.contextRefs + (evs.countP CapturedTimeline.context : Nat) := by
    cases context <;> simp
    omega
  cases timeline with
  | none => simp [refsOf, putTimeline, putContext] at hctx ⊢; exact hctx
  | some tl =>
      have hrefs : (Function.update (fun tl' => s.timelineRefs tl' +
          ((some tl :: evs.map CapturedTimeline.timeline).count (some tl') : Nat)) tl (s.timelineRefs tl +
          ((some tl :: evs.map CapturedTimeline.timeline).count (some tl) : Nat) - 1)) =
          fun tl' => s.timelineRefs tl' + ((evs.map CapturedTimeline.timeline).count (some tl') : Nat) := by
        funext tl'
        by_cases htl : tl' = tl
        · simp [htl]
          omega
        · simp [Function.update_of_ne htl, Ne.symm htl]
      simp [refsOf, putTimeline, putContext] at hctx hrefs ⊢
      exact ⟨hrefs, hctx⟩

/-- The loop at `err` gives back what the entries stand for. -/
theorem putEntries_refsOf (evs : List CapturedTimeline) : (s.refsOf evs).putEntries evs = s := by
  induction evs with
  | nil => simp [putEntries, refsOf]
  | cons ev evs ih => rw [putEntries, putTimeline_refsOf_cons, ih]

/-- A turn writes one entry, and takes the references that the entry stands for. -/
theorem captureTurn_eq (queued : BitVec 32) (turn : CaptureTurn) (evs evs' : List CapturedTimeline) :
    ∃ ev ret, captureTurn queued ((s.withArray (evs ++ {} :: evs')).refsOf (evs ++ {} :: evs')) evs.length turn =
        ((s.withArray (evs ++ ev :: evs')).refsOf (evs ++ ev :: evs'), ret) ∧
      (turn.entry = none → ret ≠ 0) ∧
      ∀ e, turn.entry = some e → ret = 0 ∧ ev = CapturedTimeline.ofEntry queued e := by
  obtain ⟨val, timelineGet, contextGet⟩ := turn
  cases val with
  | none => exact ⟨{}, -EFAULT, rfl, fun _ => by decide, fun e he => by simp [CaptureTurn.entry] at he⟩
  | some val =>
      by_cases hpadding : val.padding = 0#32
      · cases timelineGet with
        | none =>
            refine ⟨{}, -ENODEV, ?_, fun _ => by decide, fun e he => by simp [CaptureTurn.entry] at he⟩
            simp [captureTurn, hpadding, modifyEntry, withArray, refsOf, modify_append_cons]
        | some tl =>
            have hrefs : Function.update (fun tl' => s.timelineRefs tl' + (((evs ++ {} :: evs').map
                CapturedTimeline.timeline).count (some tl') : Nat)) tl (s.timelineRefs tl + (((evs ++ {} :: evs').map
                CapturedTimeline.timeline).count (some tl) : Nat) + 1) = fun tl' => s.timelineRefs tl' +
                ((evs.map CapturedTimeline.timeline ++ some tl :: evs'.map CapturedTimeline.timeline).count
                  (some tl') : Nat) := by
              funext tl'
              by_cases htl : tl' = tl
              · simp [htl]
                omega
              · simp [Function.update_of_ne htl, Ne.symm htl]
            cases contextGet with
            | false =>
                refine ⟨{ timeline := some tl }, -ENODEV, ?_, fun _ => by decide,
                  fun e he => by simp [CaptureTurn.entry] at he⟩
                simp [captureTurn, hpadding, modifyEntry, getTimeline, withArray, refsOf, modify_append_cons] at hrefs ⊢
                exact hrefs
            | true =>
                refine ⟨CapturedTimeline.ofEntry queued (tl, val.timepoint), 0, ?_, ?_, ?_⟩
                · simp [captureTurn, hpadding, modifyEntry, getTimeline, withArray, refsOf, modify_append_cons,
                    CapturedTimeline.ofEntry] at hrefs ⊢
                  exact ⟨hrefs, by omega⟩
                · simp [CaptureTurn.entry, hpadding]
                · intro e he
                  obtain rfl : (tl, val.timepoint) = e := by simpa [CaptureTurn.entry, hpadding] using he
                  exact ⟨rfl, rfl⟩
      · refine ⟨{}, -EINVAL, ?_, fun _ => by decide, fun e he => ?_⟩
        · simp [captureTurn, hpadding]
        · cases timelineGet <;> simp [CaptureTurn.entry, hpadding] at he

/-- The loop fills the whole array, or ends with an error in front of the first turn that captures nothing. -/
theorem captureLoop_cases (queued : BitVec 32) (turns : List CaptureTurn) (evs : List CapturedTimeline)
    {r : TimelineSignal × Int}
    (hr : captureLoop queued ((s.withArray (evs ++ List.replicate turns.length ({} : CapturedTimeline))).refsOf
      (evs ++ List.replicate turns.length ({} : CapturedTimeline))) evs.length turns = r) :
    (∃ es : List (Nat × BitVec 64), turns.map CaptureTurn.entry = es.map some ∧ r.2 = 0 ∧
      r.1 = (s.withArray (evs ++ es.map (CapturedTimeline.ofEntry queued))).refsOf
        (evs ++ es.map (CapturedTimeline.ofEntry queued))) ∨
    ((∃ turn ∈ turns, turn.entry = none) ∧ r.2 ≠ 0 ∧ ∃ evs', r.1 = (s.withArray evs').refsOf evs') := by
  induction turns generalizing evs with
  | nil =>
      obtain rfl := hr
      exact .inl ⟨[], by simp [captureLoop]⟩
  | cons turn turns ih =>
      obtain ⟨ev, ret, hturn, hnone, hsome⟩ := captureTurn_eq (s := s) queued turn evs (List.replicate turns.length {})
      rw [List.length_cons, List.replicate_succ, captureLoop, hturn] at hr
      cases hentry : turn.entry with
      | none =>
          obtain rfl : _ = r := by simpa [hnone hentry] using hr
          exact .inr ⟨⟨turn, by simp, hentry⟩, hnone hentry, _, rfl⟩
      | some e =>
          obtain ⟨rfl, rfl⟩ := hsome e hentry
          have hrest := ih (evs ++ [CapturedTimeline.ofEntry queued e]) (by simpa using hr)
          simp only [List.append_assoc, List.cons_append, List.nil_append] at hrest
          rcases hrest with ⟨es, hes, hret, heq⟩ | ⟨⟨turn', hmem, hturn'⟩, hret, evs', heq⟩
          · exact .inl ⟨e :: es, by simp [hentry, hes], hret, by simpa using heq⟩
          · exact .inr ⟨⟨turn', by simp [hmem], hturn'⟩, hret, evs', heq⟩

theorem filterMap_entry {turns : List CaptureTurn} {es : List (Nat × BitVec 64)}
    (hes : turns.map CaptureTurn.entry = es.map some) : turns.filterMap CaptureTurn.entry = es := by
  have hid : (turns.map CaptureTurn.entry).filterMap id = turns.filterMap CaptureTurn.entry := by simp
  rw [← hid, hes]
  simp

/-- With everything captured and the event registered. -/
def accepted (s : TimelineSignal) (queued : BitVec 32) (es : List (Nat × BitVec 64)) : TimelineSignal :=
  let s' := s.refsOf (es.map (CapturedTimeline.ofEntry queued))
  { s' with
    obj := { s.obj with
      timelines := some (es.map (CapturedTimeline.ofEntry queued)), count := es.length
      refcount := s.obj.refcount + 1, sigRefcount := s.obj.sigRefcount + 1 }
    ret := some 0
    contextRefs := s'.contextRefs + 1
    captured := es }.setThread .event .waiting

/-- What the call leaves. An error leaves the object and the references as they were, but a refused event leaves
    the count of the array behind. -/
inductive Added (s : TimelineSignal) (call : AddTimelineCall) : TimelineSignal → Prop where
  | failed {e : Int} (hcaptures : ¬ call.Captures) (he : e ≠ 0) : Added s call { s with ret := some e }
  | refused (hcaptures : call.Captures) (he : call.addEvent ≠ 0) :
      Added s call { s with obj := { s.obj with count := call.turns.length }, ret := some call.addEvent }
  | accepted (hcaptures : call.Captures) (he : call.addEvent = 0) (es : List (Nat × BitVec 64)) :
      Added s call (s.accepted call.queued es)

theorem addTimelineErr_refsOf (evs : List CapturedTimeline) (e : Int) (hnull : s.obj.timelines = none) :
    ((s.withArray evs).refsOf evs).addTimelineErr e = { s with ret := some e } := by
  have hput : ((s.withArray evs).refsOf evs).putEntries (((s.withArray evs).refsOf evs).obj.timelines.getD []) =
      s.withArray evs := putEntries_refsOf evs
  unfold addTimelineErr
  rw [hput]
  simp [withArray, ← hnull]

theorem hgslDrawobjAddTimeline_added (call : AddTimelineCall) (hnull : s.obj.timelines = none) :
    Added s call (s.hgslDrawobjAddTimeline call) := by
  unfold hgslDrawobjAddTimeline
  split_ifs with haux hturns hread halloc
  · exact .failed (fun h => haux h.1) haux
  · exact .failed (fun h => h.2.1 hturns) (by decide)
  · exact .failed (fun h => hread h.2.2.1) hread
  · have hobj : ({ s.obj with timelines := none } : Timelineobj) = s.obj := by rw [← hnull]
    rw [hobj]
    exact .failed (fun h => by simp [h.2.2.2.1] at halloc) (by decide)
  · have hstart : ({ s with obj := { s.obj with timelines := some (List.replicate call.turns.length {}) } } :
        TimelineSignal) = (s.withArray ([] ++ List.replicate call.turns.length ({} : CapturedTimeline))).refsOf
          ([] ++ List.replicate call.turns.length ({} : CapturedTimeline)) := by
      simp [withArray, refsOf, List.count_replicate, List.countP_replicate]
    simp only [hstart]
    generalize hr : captureLoop call.queued _ 0 call.turns = r
    have hloop := captureLoop_cases call.queued call.turns [] hr
    rcases hloop with ⟨es, hes, hret, heq⟩ | ⟨⟨turn, hmem, hturn⟩, hret, evs, heq⟩
    · rw [if_neg (by simpa using hret), heq, List.nil_append]
      have hlen : call.turns.length = es.length := by simpa using congrArg List.length hes
      have hcaptures : call.Captures := by
        refine ⟨by simpa using haux, hturns, by simpa using hread, by simpa using halloc, fun turn hmem => ?_⟩
        have hsome : turn.entry ∈ es.map some := hes ▸ List.mem_map_of_mem hmem
        obtain ⟨e, -, he⟩ := List.mem_map.1 hsome
        simp [← he]
      unfold addTimelineEvent
      split_ifs with hevent
      · have herr := addTimelineErr_refsOf (s := { s with obj := { s.obj with count := call.turns.length } })
          (es.map (CapturedTimeline.ofEntry call.queued)) call.addEvent hnull
        exact herr ▸ .refused hcaptures hevent
      · rw [filterMap_entry hes, hlen]
        exact .accepted hcaptures (by simpa using hevent) es
    · rw [if_pos hret, heq, addTimelineErr_refsOf evs r.2 hnull]
      exact .failed (fun h => h.2.2.2.2 turn hmem hturn) hret

end TimelineSignal

end Hgsl
