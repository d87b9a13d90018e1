import Hgsl.Timestamp
import Hgsl.Lib.RefCount
import Hgsl.Lib.Trace
import Mathlib.Logic.Function.Basic

set_option autoImplicit false

/-! # Event groups

The events of one context (`hgsl_add_event`, `_process_event_group` and the two ways to cancel), for any
number of threads, with the worker that runs their callbacks. A section under `group->lock` is one step;
taking and dropping a reference to the context are steps of their own. The readings of the timestamps
are the environment's choice, as `readtimestamp` can fail and its result is not looked at; the `retired`
timestamp itself is kept beside them.

Left out: tracing, names, the list of all groups, and `created`, which only a debug file shows. -/

namespace Hgsl

/-- `struct hgsl_event`. Functions and private data are known by their addresses. -/
structure HgslEvent where
  /-- history: the number of the event -/
  id : Nat
  timestamp : BitVec 32
  func : Nat
  priv : Nat
  deriving DecidableEq, Repr

/-- `enum hgsl_event_results` -/
inductive EventResult where
  | retired
  | cancelled
  deriving DecidableEq, Repr

/-- The section that queued the work of an event. -/
inductive SignalCause where
  /-- `hgsl_add_event`, on its reading of the retired timestamp -/
  | add (retired : BitVec 32)
  /-- `_process_event_group`, on its reading -/
  | process (flush : Bool) (retired : BitVec 32)
  /-- `hgsl_cancel_events_timestamp` -/
  | cancelTimestamp (timestamp : BitVec 32)
  /-- `hgsl_cancel_event` -/
  | cancel (timestamp : BitVec 32) (func priv : Nat)
  deriving DecidableEq, Repr

/-- The work of an event is queued. -/
structure EventSignal where
  event : HgslEvent
  result : EventResult
  cause : SignalCause
  deriving DecidableEq, Repr

/-- What the worker gets to see of it. -/
def EventSignal.work (s : EventSignal) : HgslEvent × EventResult := (s.event, s.result)

/-- Who holds a reference to the context. -/
inductive EventHolder where
  | event (id : Nat)
  /-- a thread in `_process_event_group` -/
  | thread (t : Nat)
  | other
  deriving DecidableEq, Repr

/-- Where a thread stands. -/
inductive EventThread where
  | idle
  /-- in `hgsl_add_event`, the event is allocated -/
  | adding (e : HgslEvent)
  /-- the event has its reference -/
  | linking (e : HgslEvent)
  /-- in `_process_event_group` with a reference -/
  | processing (flush : Bool)
  /-- about to drop that reference -/
  | leaving
  deriving DecidableEq, Repr

/-- `struct hgsl_event_group`, its context and the worker. -/
structure EventGroup where
  /-- `context->flags` -/
  flags : BitVec 32
  /-- `context->kref` -/
  kref : RefCount EventHolder := .init .other
  processed : BitVec 32 := 0#32
  events : List HgslEvent := []
  /-- the works queued on `events_worker`, oldest first -/
  works : List (HgslEvent × EventResult) := []
  /-- the work that `_hgsl_event_worker` is running -/
  worker : Option (HgslEvent × EventResult) := none
  thread : Nat → EventThread := fun _ => .idle
  /-- the retired timestamp of the context -/
  retired : BitVec 32 := 0#32
  /-- history: how far it has moved since the last call of `_process_event_group` -/
  moved : Nat := 0
  /-- history: the number of the next event -/
  nextId : Nat := 0
  /-- history: the events that `hgsl_add_event` returned 0 for -/
  accepted : List Nat := []
  /-- history: the error codes it returned -/
  refused : List Int := []
  /-- history: every time that a work was queued -/
  signals : List EventSignal := []
  /-- history: the works that were run -/
  ran : List (HgslEvent × EventResult) := []
  /-- history: the events accepted before the last flush -/
  flushed : List Nat := []

/-- What can happen next; `t` is the thread that moves. -/
inductive EventAct where
  /-- `hgsl_add_event` up to the allocation, with a reading of the queued timestamp -/
  | add (t : Nat) (timestamp : BitVec 32) (func priv : Nat) (queued : BitVec 32) (allocated : Bool)
  /-- it takes a reference for the event -/
  | getContext (t : Nat)
  /-- its section, with a reading of the retired timestamp -/
  | link (t : Nat) (retired : BitVec 32)
  /-- `_process_event_group` takes a reference -/
  | process (t : Nat) (flush : Bool)
  /-- its section, with a reading of the retired timestamp -/
  | sweep (t : Nat) (retired : BitVec 32)
  /-- it drops its reference -/
  | putContext (t : Nat)
  /-- `hgsl_cancel_events_timestamp` -/
  | cancelTimestamp (timestamp : BitVec 32)
  /-- `hgsl_cancel_event` -/
  | cancelEvent (timestamp : BitVec 32) (func priv : Nat)
  /-- the worker takes the oldest work and calls `event->func` -/
  | runWork
  /-- it drops the reference of the event -/
  | finishWork
  /-- somebody else takes a reference to the context -/
  | getOther
  /-- or drops one -/
  | putOther
  /-- the retired timestamp moves forward -/
  | retire (n : Nat)
  deriving DecidableEq, Repr

namespace EventGroup

/-! ## The lists -/

/-- `list_for_each_entry_safe` with `signal_event` on some of the events: those that stay, and those
    that are signalled. -/
def sweepEvents (result : HgslEvent → Option EventResult) :
    List HgslEvent → List HgslEvent × List (HgslEvent × EventResult)
  | [] => ([], [])
  | e :: es =>
    let r := sweepEvents result es
    match result e with
    | some res => (r.1, (e, res) :: r.2)
    | none => (e :: r.1, r.2)

/-- The same loop with a `break` after the first event that is signalled. -/
def sweepFirst (result : HgslEvent → Option EventResult) :
    List HgslEvent → List HgslEvent × List (HgslEvent × EventResult)
  | [] => ([], [])
  | e :: es =>
    match result e with
    | some res => (es, [(e, res)])
    | none =>
      let r := sweepFirst result es
      (e :: r.1, r.2)

/-- `signal_event` on each event of the second list. -/
def signalEvents (g : EventGroup) (cause : SignalCause)
    (r : List HgslEvent × List (HgslEvent × EventResult)) : EventGroup :=
  { g with
    events := r.1
    works := g.works ++ r.2
    signals := g.signals ++ r.2.map fun w => ⟨w.1, w.2, cause⟩ }

/-! ## The sections under the lock -/

/-- What `_process_event_group` does with an event. -/
def processResult (flush : Bool) (retired : BitVec 32) (e : HgslEvent) : Option EventResult :=
  if hgslTs32Ge retired e.timestamp then some .retired
  else if flush then some .cancelled
  else none

/-- The section of `_process_event_group`. -/
def processEventGroup (g : EventGroup) (flush : Bool) (retired : BitVec 32) : EventGroup :=
  if !flush && hgslTs32Ge g.processed retired then g
  else
    { g.signalEvents (.process flush retired) (sweepEvents (processResult flush retired) g.events) with
      processed := retired }

/-- `hgsl_cancel_events_timestamp` -/
def cancelEventsTimestamp (g : EventGroup) (timestamp : BitVec 32) : EventGroup :=
  g.signalEvents (.cancelTimestamp timestamp)
    (sweepEvents (fun e => if timestamp = e.timestamp then some .cancelled else none) g.events)

/-- `hgsl_cancel_event` -/
def cancelEvent (g : EventGroup) (timestamp : BitVec 32) (func priv : Nat) : EventGroup :=
  g.signalEvents (.cancel timestamp func priv)
    (sweepFirst (fun e => if timestamp = e.timestamp ∧ func = e.func ∧ e.priv = priv
      then some .cancelled else none) g.events)

/-- The checks of `hgsl_add_event` before it allocates anything. -/
def addEventCheck (flags timestamp : BitVec 32) (func : Nat) (queued : BitVec 32) : Except Int Unit :=
  if func = 0 then .error (-EINVAL)
  else if flags &&& GSL_CONTEXT_FLAG_USER_GENERATED_TS = 0#32 ∧ hgslTs32Ge timestamp queued then
    .error (-EINVAL)
  else .ok ()

/-- The section of `hgsl_add_event`: an event whose timestamp has retired is signalled without being
    linked. -/
def linkEvent (g : EventGroup) (e : HgslEvent) (retired : BitVec 32) : EventGroup :=
  if hgslTs32Ge retired e.timestamp then
    { g with
      works := g.works ++ [(e, .retired)]
      signals := g.signals ++ [⟨e, .retired, .add retired⟩]
      accepted := g.accepted ++ [e.id] }
  else { g with events := g.events ++ [e], accepted := g.accepted ++ [e.id] }

/-! ## The steps -/

def setThread (g : EventGroup) (t : Nat) (th : EventThread) : EventGroup :=
  { g with thread := Function.update g.thread t th }

@[simp] theorem setThread_self (g : EventGroup) (t : Nat) (th : EventThread) :
    (g.setThread t th).thread t = th := Function.update_self _ _ _

theorem setThread_of_ne (g : EventGroup) {t t' : Nat} (th : EventThread) (h : t' ≠ t) :
    (g.setThread t th).thread t' = g.thread t' := Function.update_of_ne h _ _

/-- A call of `_process_event_group` is over as far as its list is concerned. -/
def noteProcessed (g : EventGroup) (flush : Bool) : EventGroup :=
  { g with moved := 0, flushed := if flush then g.accepted else g.flushed }

/-- One step of the group. -/
def step (g : EventGroup) : EventAct → Option EventGroup
  | .add t timestamp func priv queued allocated =>
    match g.thread t with
    | .idle =>
      match addEventCheck g.flags timestamp func queued with
      | .error e => some { g with refused := g.refused ++ [e] }
      | .ok _ =>
        if allocated then
          some ({ g with nextId := g.nextId + 1 }.setThread t (.adding ⟨g.nextId, timestamp, func, priv⟩))
        else some { g with refused := g.refused ++ [-ENOMEM] }
    | _ => none
  | .getContext t =>
    match g.thread t with
    | .adding e =>
      match g.kref.getUnlessZero (.event e.id) with
      | some kref => some ({ g with kref := kref }.setThread t (.linking e))
      | none => some ({ g with refused := g.refused ++ [-ENOENT] }.setThread t .idle)
    | _ => none
  | .link t retired =>
    match g.thread t with
    | .linking e => some ((g.linkEvent e retired).setThread t .idle)
    | _ => none
  | .process t flush =>
    match g.thread t with
    | .idle =>
      match g.kref.getUnlessZero (.thread t) with
      | some kref => some ({ g with kref := kref }.setThread t (.processing flush))
      | none => some (g.noteProcessed flush)
    | _ => none
  | .sweep t retired =>
    match g.thread t with
    | .processing flush =>
      some (((g.processEventGroup flush retired).noteProcessed flush).setThread t .leaving)
    | _ => none
  | .putContext t =>
    match g.thread t with
    | .leaving => some ({ g with kref := g.kref.put (.thread t) }.setThread t .idle)
    | _ => none
  | .cancelTimestamp timestamp => some (g.cancelEventsTimestamp timestamp)
  | .cancelEvent timestamp func priv => some (g.cancelEvent timestamp func priv)
  | .runWork =>
    match g.worker, g.works with
    | none, w :: rest => some { g with worker := some w, works := rest }
    | _, _ => none
  | .finishWork =>
    match g.worker with
    | some w =>
      some { g with kref := g.kref.put (.event w.1.id), worker := none, ran := g.ran ++ [w] }
    | none => none
  | .getOther =>
    match g.kref.getUnlessZero .other with
    | some kref => some { g with kref := kref }
    | none => some g
  | .putOther =>
    if .other ∈ g.kref.holders then some { g with kref := g.kref.put .other } else none
  | .retire n => some { g with retired := g.retired + BitVec.ofNat 32 n, moved := g.moved + n }

/-- A group that has just been added, on a context with these flags. -/
def fresh (flags : BitVec 32) : EventGroup where
  flags := flags

/-! ## What a step can do -/

/-- The state that a step leaves. A reference is taken as long as the count is not 0. -/
inductive Effect (g : EventGroup) : EventAct → EventGroup → Prop where
  | refused (t : Nat) (timestamp : BitVec 32) (func priv : Nat) (queued : BitVec 32) (allocated : Bool)
      (e : Int) (hidle : g.thread t = .idle) :
      Effect g (.add t timestamp func priv queued allocated) { g with refused := g.refused ++ [e] }
  | allocate (t : Nat) (timestamp : BitVec 32) (func priv : Nat) (queued : BitVec 32) (allocated : Bool)
      (hidle : g.thread t = .idle) :
      Effect g (.add t timestamp func priv queued allocated)
        ({ g with nextId := g.nextId + 1 }.setThread t (.adding ⟨g.nextId, timestamp, func, priv⟩))
  | getContext (t : Nat) {e : HgslEvent} (hthread : g.thread t = .adding e) (hpos : g.kref.count ≠ 0) :
      Effect g (.getContext t) ({ g with kref := g.kref.get (.event e.id) }.setThread t (.linking e))
  | noContext (t : Nat) {e : HgslEvent} (hthread : g.thread t = .adding e) (hzero : g.kref.count = 0) :
      Effect g (.getContext t) ({ g with refused := g.refused ++ [-ENOENT] }.setThread t .idle)
  | link (t : Nat) (retired : BitVec 32) {e : HgslEvent} (hthread : g.thread t = .linking e) :
      Effect g (.link t retired) ((g.linkEvent e retired).setThread t .idle)
  | process (t : Nat) (flush : Bool) (hidle : g.thread t = .idle) (hpos : g.kref.count ≠ 0) :
      Effect g (.process t flush)
        ({ g with kref := g.kref.get (.thread t) }.setThread t (.processing flush))
  | processGone (t : Nat) (flush : Bool) (hidle : g.thread t = .idle) (hzero : g.kref.count = 0) :
      Effect g (.process t flush) (g.noteProcessed flush)
  | sweep (t : Nat) (retired : BitVec 32) {flush : Bool} (hthread : g.thread t = .processing flush) :
      Effect g (.sweep t retired)
        (((g.processEventGroup flush retired).noteProcessed flush).setThread t .leaving)
  | putContext (t : Nat) (hthread : g.thread t = .leaving) :
      Effect g (.putContext t) ({ g with kref := g.kref.put (.thread t) }.setThread t .idle)
  | cancelTimestamp (timestamp : BitVec 32) :
      Effect g (.cancelTimestamp timestamp) (g.cancelEventsTimestamp timestamp)
  | cancelEvent (timestamp : BitVec 32) (func priv : Nat) :
      Effect g (.cancelEvent timestamp func priv) (g.cancelEvent timestamp func priv)
  | runWork {w : HgslEvent × EventResult} {rest : List (HgslEvent × EventResult)}
      (hworker : g.worker = none) (hworks : g.works = w :: rest) :
      Effect g .runWork { g with worker := some w, works := rest }
  | finishWork {w : HgslEvent × EventResult} (hworker : g.worker = some w) :
      Effect g .finishWork
        { g with kref := g.kref.put (.event w.1.id), worker := none, ran := g.ran ++ [w] }
  | getOther (hpos : g.kref.count ≠ 0) : Effect g .getOther { g with kref := g.kref.get .other }
  | otherGone (hzero : g.kref.count = 0) : Effect g .getOther g
  | putOther (hmem : .other ∈ g.kref.holders) : Effect g .putOther { g with kref := g.kref.put .other }
  | retire (n : Nat) :
      Effect g (.retire n) { g with retired := g.retired + BitVec.ofNat 32 n, moved := g.moved + n }

/-- **Inversion.** The invariants are derived from this, none of them from `step` itself. -/
theorem step_cases {g g' : EventGroup} {a : EventAct} (hstep : g.step a = some g') : Effect g a g' := by
  cases a with
  | add t timestamp func priv queued allocated =>
      simp only [step] at hstep
      split at hstep
      · next hidle =>
          split at hstep
          · next e _ =>
              obtain rfl := Option.some.inj hstep
              exact .refused t timestamp func priv queued allocated e hidle
          · split at hstep
            · obtain rfl := Option.some.inj hstep
              exact .allocate t timestamp func priv queued allocated hidle
            · obtain rfl := Option.some.inj hstep
              exact .refused t timestamp func priv queued allocated _ hidle
      · cases hstep
  | getContext t =>
      simp only [step] at hstep
      split at hstep
      · next e hthread =>
          split at hstep
          · next kref hkref =>
              obtain rfl := Option.some.inj hstep
              obtain ⟨hpos, rfl⟩ := RefCount.getUnlessZero_eq_some.1 hkref
              exact .getContext t hthread hpos
          · next hkref =>
              obtain rfl := Option.some.inj hstep
              exact .noContext t hthread (RefCount.getUnlessZero_eq_none.1 hkref)
      · cases hstep
  | link t retired =>
      simp only [step] at hstep
      split at hstep
      · next hthread =>
          obtain rfl := Option.some.inj hstep
          exact .link t retired hthread
      · cases hstep
  | process t flush =>
      simp only [step] at hstep
      split at hstep
      · next hidle =>
          split at hstep
          · next kref hkref =>
              obtain rfl := Option.some.inj hstep
              obtain ⟨hpos, rfl⟩ := RefCount.getUnlessZero_eq_some.1 hkref
              exact .process t flush hidle hpos
          · next hkref =>
              obtain rfl := Option.some.inj hstep
              exact .processGone t flush hidle (RefCount.getUnlessZero_eq_none.1 hkref)
      · cases hstep
  | sweep t retired =>
      simp only [step] at hstep
      split at hstep
      · next hthread =>
          obtain rfl := Option.some.inj hstep
          exact .sweep t retired hthread
      · cases hstep
  | putContext t =>
      simp only [step] at hstep
      split at hstep
      · next hthread =>
          obtain rfl := Option.some.inj hstep
          exact .putContext t hthread
      · cases hstep
  | cancelTimestamp timestamp =>
      obtain rfl := Option.some.inj hstep
      exact .cancelTimestamp timestamp
  | cancelEvent timestamp func priv =>
      obtain rfl := Option.some.inj hstep
      exact .cancelEvent timestamp func priv
  | runWork =>
      simp only [step] at hstep
      split at hstep
      · next hworker hworks =>
          obtain rfl := Option.some.inj hstep
          exact .runWork hworker hworks
      · cases hstep
  | finishWork =>
      simp only [step] at hstep
      split at hstep
      · next hworker =>
          obtain rfl := Option.some.inj hstep
          exact .finishWork hworker
      · cases hstep
  | getOther =>
      simp only [step] at hstep
      split at hstep
      · next kref hkref =>
          obtain rfl := Option.some.inj hstep
          obtain ⟨hpos, rfl⟩ := RefCount.getUnlessZero_eq_some.1 hkref
          exact .getOther hpos
      · next hkref =>
          obtain rfl := Option.some.inj hstep
          exact .otherGone (RefCount.getUnlessZero_eq_none.1 hkref)
  | putOther =>
      simp only [step] at hstep
      split at hstep
      · next hmem =>
          obtain rfl := Option.some.inj hstep
          exact .putOther hmem
      · cases hstep
  | retire n =>
      obtain rfl := Option.some.inj hstep
      exact .retire n

end EventGroup

end Hgsl
