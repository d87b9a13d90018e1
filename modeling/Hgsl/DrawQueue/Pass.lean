import Hgsl.DrawQueue.RingInvariant
import Hgsl.Doorbell.Message
import Hgsl.Sync.SyncObject

set_option autoImplicit false

/-! # A pass of the dispatcher

One call of `hgsl_dispatch_sendcmds`, from its first look at the queue to its return, with the GPU
retiring messages and sync points expiring in between. A pass ends when the queue is empty, at an object
that it cannot get past, or at a send that fails.

Whether an object is a marker is recorded twice: in its type, which `_get_command_type` chooses from the
counts, and in the flag `HGSL_DRAWOBJ_MARKER`, which is the user's. The test for an expired marker looks
at the flag, so a marker without the flag blocks the queue even where its timestamp has retired. -/

namespace Hgsl

/-! ## The objects of a submission -/

/-- `CMDOBJ_TYPE` -/
def CMDOBJ_TYPE : BitVec 32 := 0x1#32

/-- `MARKEROBJ_TYPE` -/
def MARKEROBJ_TYPE : BitVec 32 := 0x2#32

/-- `SYNCOBJ_TYPE` -/
def SYNCOBJ_TYPE : BitVec 32 := 0x4#32

/-- `HGSL_DRAWOBJ_PROFILING` -/
def HGSL_DRAWOBJ_PROFILING : BitVec 64 := 0x00000010#64

/-- `HGSL_DRAWOBJ_SYNC` -/
def HGSL_DRAWOBJ_SYNC : BitVec 64 := 0x00000400#64

/-- `HGSL_GPU_AUX_COMMAND_TIMELINE` -/
def HGSL_GPU_AUX_COMMAND_TIMELINE : BitVec 64 := 0x2#64

/-- `HGSL_GPU_AUX_COMMAND_SYNC` -/
def HGSL_GPU_AUX_COMMAND_SYNC : BitVec 64 := HGSL_DRAWOBJ_SYNC

/-- `_get_command_type`: the types of the objects to create, 0 if the counts are too large. -/
def getCommandType (flags : BitVec 64) (numcmds numobjs numsyncs : BitVec 32) : BitVec 32 :=
  if numcmds.toNat > ECP_MAX_NUM_IB1 ∨ numobjs.toNat > ECP_MAX_NUM_IB1 ∨
      numsyncs.toNat > HGSL_MAX_SYNCPOINTS then 0#32
  -- if they specify the flag, go with what they say
  else if flags &&& HGSL_DRAWOBJ_MARKER ≠ 0#64 then MARKEROBJ_TYPE
  else if flags &&& HGSL_DRAWOBJ_SYNC ≠ 0#64 then SYNCOBJ_TYPE
  else if numsyncs ≠ 0#32 ∧ numcmds ≠ 0#32 then SYNCOBJ_TYPE ||| CMDOBJ_TYPE
  else if numsyncs ≠ 0#32 then SYNCOBJ_TYPE
  else if numcmds ≠ 0#32 then CMDOBJ_TYPE
  else MARKEROBJ_TYPE

/-- `hgsl_drawobj_cmd_create` -/
def hgslDrawobjCmdCreate (flags : BitVec 64) (type : BitVec 32) : Drawobj :=
  { type := if type &&& (CMDOBJ_TYPE ||| MARKEROBJ_TYPE) = CMDOBJ_TYPE then .cmd else .marker
    flags := flags }

/-- `hgsl_drawobj_sync_create` with the sync points that were added. -/
def hgslDrawobjSyncCreate (pending : BitVec 32) : Drawobj := { type := .sync, pending := pending }

/-- The objects that `hgsl_ioctl_gpu_command` queues; none where it refuses the call. `profiling`: the
    object list has a profiling buffer. -/
def hgslIoctlGpuCommand (flags : BitVec 64) (numcmds numobjs numsyncs pending : BitVec 32)
    (profiling : Bool) : List Drawobj :=
  let type := getCommandType flags numcmds numobjs numsyncs
  let syncobjs := if type &&& SYNCOBJ_TYPE ≠ 0#32 then [hgslDrawobjSyncCreate pending] else []
  let cmdobj := hgslDrawobjCmdCreate flags type
  let cmdobjs :=
    if type &&& (CMDOBJ_TYPE ||| MARKEROBJ_TYPE) ≠ 0#32 then
      -- if no profiling buffer was specified, clear the flag
      [if profiling then cmdobj else { cmdobj with flags := cmdobj.flags &&& ~~~HGSL_DRAWOBJ_PROFILING }]
    else []
  syncobjs ++ cmdobjs

/-- The objects that `hgsl_ioctl_gpu_aux_command` queues; none where it refuses the call. `type` is the
    one of the command that it copies from the user. -/
def hgslIoctlGpuAuxCommand (flags : BitVec 64) (numcmds numsyncs pending : BitVec 32)
    (type : BitVec 64) : List Drawobj :=
  -- we support only one aux command
  if numcmds ≠ 1#32 then []
  else if flags &&& HGSL_GPU_AUX_COMMAND_TIMELINE = 0#64 then []
  else if flags &&& HGSL_GPU_AUX_COMMAND_SYNC ≠ 0#64 ∧ numsyncs.toNat > HGSL_MAX_SYNCPOINTS then []
  else if type ≠ HGSL_GPU_AUX_COMMAND_TIMELINE then []
  else
    (if flags &&& HGSL_GPU_AUX_COMMAND_SYNC ≠ 0#64 then [hgslDrawobjSyncCreate pending] else []) ++
      [{ type := .timeline }, hgslDrawobjCmdCreate HGSL_DRAWOBJ_MARKER MARKEROBJ_TYPE]

/-- One of the two ioctls creates such an object: what happens to it in the queue leaves its type and
    flags alone. -/
def Drawobj.Created (d : Drawobj) : Prop :=
  (∃ flags numcmds numobjs numsyncs pending profiling,
      ∃ d₀ ∈ hgslIoctlGpuCommand flags numcmds numobjs numsyncs pending profiling,
        d.type = d₀.type ∧ d.flags = d₀.flags) ∨
    ∃ flags numcmds numsyncs pending type,
      ∃ d₀ ∈ hgslIoctlGpuAuxCommand flags numcmds numsyncs pending type,
        d.type = d₀.type ∧ d.flags = d₀.flags

/-- Bind objects are never created. -/
theorem Drawobj.Created.type_ne_bind {d : Drawobj} (h : d.Created) : d.type ≠ .bind := by
  have hcmd : ∀ flags type, (hgslDrawobjCmdCreate flags type).type ≠ .bind := by
    intro flags type
    simp only [hgslDrawobjCmdCreate]
    split <;> simp
  rcases h with ⟨flags, numcmds, numobjs, numsyncs, pending, profiling, d₀, hmem, htype, -⟩ |
    ⟨flags, numcmds, numsyncs, pending, type, d₀, hmem, htype, -⟩
  · rw [htype]
    simp only [hgslIoctlGpuCommand, List.mem_append] at hmem
    rcases hmem with hmem | hmem
    · split at hmem
      · simp only [List.mem_singleton] at hmem
        simp [hmem, hgslDrawobjSyncCreate]
      · cases hmem
    · split at hmem
      · rw [List.mem_singleton] at hmem
        rw [hmem]
        split <;> exact hcmd _ _
      · cases hmem
  · rw [htype]
    unfold hgslIoctlGpuAuxCommand at hmem
    repeat' split at hmem
    all_goals simp [hgslDrawobjSyncCreate] at hmem
    · rcases hmem with rfl | rfl | rfl
      · simp
      · simp
      · exact hcmd _ _
    · rcases hmem with rfl | rfl
      · simp
      · exact hcmd _ _

/-! ## The pass -/

/-- A call of `hgsl_dispatch_sendcmds`. -/
structure Pass where
  ctxt : QueueState
  /-- it has returned -/
  returned : Bool := false
  /-- history: the objects that the loop has looked at -/
  visited : List Nat := []
  /-- history: the objects whose send failed -/
  failed : List Nat := []

namespace Pass

/-- The worker, which is not in a pass yet, calls the function. -/
def start (s : QueueState) : Pass := { ctxt := s }

/-- The object that a turn of the scan at index `i` looks at. -/
def looksAt (s : QueueState) (i : Nat) : List Nat :=
  if i = s.drawqTail then [] else (s.drawq i).toList

/-- One step of the pass or of its surroundings. Nothing is appended, and the queue is not drained. -/
def step (p : Pass) (a : QueueAct) : Option Pass :=
  if p.returned then none
  else
    match a with
    | .queueCmds _ _ => none
    | .relock _ => none
    | .detachDrawobjs => none
    | .passScan =>
      match p.ctxt.dispatcher with
      | .scanning i _ =>
        (p.ctxt.step .passScan).map fun s =>
          -- NULL and an error end the loop
          { p with
            ctxt := s
            returned := s.dispatcher = .idle
            visited := p.visited ++ looksAt p.ctxt i }
      | _ => none
    | .send r =>
      match p.ctxt.dispatcher with
      | .sending o =>
        (p.ctxt.step (.send r)).map fun s =>
          { p with
            ctxt := s
            returned := r.ret ≠ 0
            failed := if r.ret ≠ 0 then p.failed ++ [o] else p.failed }
      | _ => none
    | a => (p.ctxt.step a).map fun s => { p with ctxt := s }

end Pass

namespace QueueState

/-- The queue consists of these objects. -/
structure Holds (s : QueueState) (objs : List Nat) : Prop where
  head_lt : s.drawqHead < CONTEXT_DRAWQUEUE_SIZE
  room : objs.length < CONTEXT_DRAWQUEUE_SIZE
  tail : s.drawqTail = Ring.slot CONTEXT_DRAWQUEUE_SIZE s.drawqHead objs.length
  slots : Ring.slice CONTEXT_DRAWQUEUE_SIZE s.drawq s.drawqHead objs.length = objs.map some

/-- These objects, in this order, have left the queue since `s`: each was sent or retired. -/
def LeftInPass (s s' : QueueState) (objs : List Nat) : Prop :=
  ∃ ds, s'.left = s.left ++ ds ∧ ds.map Prod.fst = objs ∧
    ∀ e ∈ ds, e.2 = .sent ∨ e.2 = .retired ∨ e.2 = .destroyed ∧ (s.obj e.1).type = .timeline

/-- A marker that the GPU has caught up with, but that does not count as expired because its flag is not
    set, and that does not go to the GPU either. -/
def stuckMarker (s : QueueState) (o : Nat) : Bool :=
  (s.obj o).type = .marker && (s.obj o).flags &&& HGSL_DRAWOBJ_MARKER = 0#64 &&
    s.checkTimestamp (s.obj o).markerTimestamp && !(s.obj o).skip

end QueueState

namespace Pass

/-- The loop has a reason to stop at `o`. -/
def Blocker (p : Pass) (o : Nat) : Prop :=
  ((p.ctxt.obj o).type = .sync ∧ (p.ctxt.obj o).eventsPending = true) ∨
    ((p.ctxt.obj o).type = .marker ∧ p.ctxt.checkTimestamp (p.ctxt.obj o).markerTimestamp = false ∧
      (p.ctxt.obj o).skip = false) ∨
    o ∈ p.failed

/-- Of a pass that has returned, started in `s` with `objs` in the queue: no object was looked at twice,
    and if the queue is not empty, its first object is a real blocker and everything before it was sent
    or retired. -/
structure StopsAtBlocker (s : QueueState) (objs : List Nat) (p : Pass) : Prop where
  visited : p.visited <+: objs
  first : ∃ before rest, objs = before ++ rest ∧ p.ctxt.Holds rest ∧
    ∀ o ∈ rest.head?, p.Blocker o ∧ s.LeftInPass p.ctxt before

/-- The step goes wrong: the scan looks at a stuck marker, or a send returns `-ENOENT`, which destroys
    the object and ends the pass with others in the queue. -/
def stalls (p : Pass) : QueueAct → Bool
  | .passScan =>
    match p.ctxt.dispatcher with
    | .scanning i _ => (looksAt p.ctxt i).any p.ctxt.stuckMarker
    | _ => false
  | .send r => r.ret = -ENOENT && p.ctxt.drawqHead ≠ p.ctxt.drawqTail
  | _ => false

end Pass

namespace Pass

/-- A step of the pass is a step of the context. -/
theorem step_ctxt {p p' : Pass} {a : QueueAct} (h : p.step a = some p') :
    p.ctxt.step a = some p'.ctxt := by
  unfold step at h
  split at h
  · cases h
  · cases a with
    | queueCmds ds ts => cases h
    | relock k => cases h
    | detachDrawobjs => cases h
    | passScan =>
        dsimp only at h
        split at h
        · obtain ⟨s, hs, rfl⟩ := Option.map_eq_some_iff.1 h
          exact hs
        · cases h
    | send r =>
        dsimp only at h
        split at h
        · obtain ⟨s, hs, rfl⟩ := Option.map_eq_some_iff.1 h
          exact hs
        · cases h
    | _ =>
        obtain ⟨s, hs, rfl⟩ := Option.map_eq_some_iff.1 h
        exact hs

/-- A pass is a part of a run of the context. -/
theorem exec_ctxt {p p' : Pass} {as : List QueueAct} (h : Trace.exec step p as = some p') :
    Trace.exec QueueState.step p.ctxt as = some p'.ctxt := by
  induction as generalizing p with
  | nil =>
      obtain rfl := Option.some.inj h
      rfl
  | cons a as ih =>
      obtain ⟨t, ht, hrest⟩ := Trace.exec_cons_eq_some.1 h
      exact Trace.exec_cons_eq_some.2 ⟨t.ctxt, step_ctxt ht, ih hrest⟩

end Pass

/-! ## What is in the queue -/

namespace QueueState

variable {s s' : QueueState} {objs rest : List Nat} {o : Nat}

theorem Holds.congr (h : Holds s objs) (hhead : s'.drawqHead = s.drawqHead)
    (htail : s'.drawqTail = s.drawqTail) (hdrawq : s'.drawq = s.drawq) : Holds s' objs where
  head_lt := by simpa only [hhead] using h.head_lt
  room := h.room
  tail := by simpa only [hhead, htail] using h.tail
  slots := by simpa only [hhead, hdrawq] using h.slots

/-- A queue consists of one list of objects only. -/
theorem Holds.unique (h : Holds s objs) (h' : Holds s rest) : objs = rest := by
  have hlen : objs.length = rest.length := Ring.slot_inj h.room h'.room (h.tail.symm.trans h'.tail)
  have hslots := h.slots
  rw [hlen, h'.slots] at hslots
  exact (List.map_injective_iff.2 (Option.some_injective _) hslots).symm

theorem Holds.head_ne_tail_iff (h : Holds s objs) : s.drawqHead ≠ s.drawqTail ↔ objs ≠ [] := by
  rw [not_iff_not, h.tail]
  constructor
  · intro heq
    have hzero : Ring.slot CONTEXT_DRAWQUEUE_SIZE s.drawqHead 0 =
        Ring.slot CONTEXT_DRAWQUEUE_SIZE s.drawqHead objs.length := by
      rwa [Ring.slot_zero h.head_lt]
    exact List.length_eq_zero_iff.1 (Ring.slot_inj size_pos h.room hzero).symm
  · rintro rfl
    rw [List.length_nil, Ring.slot_zero h.head_lt]

/-- The slot at the head. -/
theorem Holds.head (h : Holds s (o :: rest)) : s.drawq s.drawqHead = some o := by
  have hslots := h.slots
  rw [List.length_cons, Ring.slice_cons _ h.head_lt, List.map_cons] at hslots
  exact (List.cons.inj hslots).1

/-- `_pop_drawobj` -/
theorem Holds.pop (h : Holds s (o :: rest)) (hhead : s'.drawqHead = drawqueueNext s.drawqHead)
    (htail : s'.drawqTail = s.drawqTail) (hdrawq : s'.drawq = s.drawq) : Holds s' rest where
  head_lt := by
    rw [hhead]
    exact Nat.mod_lt _ size_pos
  room := by
    have hroom := h.room
    rw [List.length_cons] at hroom
    omega
  tail := by
    rw [htail, h.tail, hhead, List.length_cons, Nat.add_comm, ← Ring.slot_slot]
    rfl
  slots := by
    have hslots := h.slots
    rw [List.length_cons, Ring.slice_cons _ h.head_lt, List.map_cons] at hslots
    rw [hhead, hdrawq]
    exact (List.cons.inj hslots).2

/-- `hgsl_dispatch_requeue_drawobj`: the object that the pass has taken out left a slot free. -/
theorem Holds.unpop (h : Holds s rest) (hroom : rest.length + 1 < CONTEXT_DRAWQUEUE_SIZE) (o : Nat) :
    Holds ({ s with dispatcher := .idle }.requeueDrawobj o) (o :: rest) := by
  obtain ⟨prev, hprev, hprev_lt, hback⟩ := RingInv.exists_prev h.head_lt
  unfold requeueDrawobj
  simp only [hprev]
  refine ⟨hprev_lt, by simpa using hroom, ?_, ?_⟩
  · simp only [List.length_cons]
    rw [h.tail, ← hback, Ring.slot_slot, Nat.add_comm]
  · simp only [List.length_cons, List.map_cons]
    rw [Ring.slice_unpop _ _ hprev_lt hback h.room, h.slots]

theorem LeftInPass.refl (s : QueueState) : LeftInPass s s [] := ⟨[], by simp, by simp, by simp⟩

theorem LeftInPass.snoc {t : QueueState} (h : LeftInPass s t objs) {d : Departure}
    (hleft : s'.left = t.left ++ [(o, d)])
    (hd : d = .sent ∨ d = .retired ∨ d = .destroyed ∧ (s.obj o).type = .timeline) :
    LeftInPass s s' (objs ++ [o]) := by
  obtain ⟨ds, hds, hobjs, hall⟩ := h
  refine ⟨ds ++ [(o, d)], by simp [hleft, hds], by simp [hobjs], ?_⟩
  intro e he
  rcases List.mem_append.1 he with he | he
  · exact hall e he
  · rw [List.mem_singleton.1 he]
    exact hd

theorem LeftInPass.congr {t : QueueState} (h : LeftInPass s t objs) (hleft : s'.left = t.left) :
    LeftInPass s s' objs := by
  obtain ⟨ds, hds, hrest⟩ := h
  exact ⟨ds, hleft.trans hds, hrest⟩

/-- An object that is destroyed after its send failed was neither sent nor retired. -/
theorem LeftInPass.not_destroyed {t : QueueState} (h : LeftInPass s t objs)
    (hleft : s'.left = t.left ++ [(o, .destroyed)]) (htype : (s.obj o).type ≠ .timeline)
    (others : List Nat) : ¬ LeftInPass s s' others := by
  obtain ⟨ds, hds, -, -⟩ := h
  rintro ⟨ds', hds', -, hall⟩
  have heq : ds' = ds ++ [(o, .destroyed)] := by
    rw [hleft, hds, List.append_assoc] at hds'
    exact (List.append_cancel_left hds').symm
  rcases hall (o, .destroyed) (by simp [heq]) with h | h | ⟨-, h⟩
  · cases h
  · cases h
  · exact htype h

/-! ## One turn of the scan -/

/-- What a turn of the scan does with the object it looks at. -/
inductive Turn (s : QueueState) (i o : Nat) : QueueState → Prop where
  | sends (htype : (s.obj o).type = .cmd ∨ (s.obj o).type = .marker) (hstuck : s.stuckMarker o = false) :
      Turn s i o { s.popDrawobj with dispatcher := .sending o }
  | retires (d : Departure) (obj' : Nat → Drawobj) (shadowTs' : Option ShadowTs) (retired' : List Nat)
      (hd : d = .retired ∨ d = .destroyed ∧ (s.obj o).type = .timeline)
      (hobj : ∀ x, (obj' x).type = (s.obj x).type) (hstuck : s.stuckMarker o = false) :
      Turn s i o
        { s.popDrawobj.depart o d with
          obj := obj'
          shadowTs := shadowTs'
          retired := retired'
          dispatcher := .scanning (drawqueueNext i) 0 }
  | waitsForSync (htype : (s.obj o).type = .sync) (hpending : (s.obj o).eventsPending = true) :
      Turn s i o { s with dispatcher := .idle }
  | waitsForMarker (htype : (s.obj o).type = .marker) (hexpired : s.markerExpired o = false)
      (hskip : (s.obj o).skip = false) :
      Turn s i o { s with dispatcher := .idle }

theorem scan_end {i : Nat} (hi : i = s.drawqTail) (ret : Int) :
    s.scan i ret = { s with dispatcher := .idle } := by
  simp only [scan, processDrawqueue, if_pos hi]

theorem stuckMarker_of_type (htype : (s.obj o).type ≠ .marker) : s.stuckMarker o = false := by
  simp [stuckMarker, htype]

/-- An expired marker has its flag. -/
theorem stuckMarker_of_expired (h : s.markerExpired o = true) : s.stuckMarker o = false := by
  unfold markerExpired at h
  split at h
  · cases h
  · next hflag =>
      have hset : ¬ (s.obj o).flags &&& HGSL_DRAWOBJ_MARKER = 0#64 := fun h0 => hflag (.inl h0)
      simp [stuckMarker, hset]

/-- A marker that is neither expired nor sent is stuck exactly if its timestamp has retired. -/
theorem stuckMarker_eq (htype : (s.obj o).type = .marker) (hexpired : s.markerExpired o = false)
    (hskip : (s.obj o).skip = false) :
    s.stuckMarker o = s.checkTimestamp (s.obj o).markerTimestamp := by
  cases hcheck : s.checkTimestamp (s.obj o).markerTimestamp with
  | false => simp [stuckMarker, hcheck]
  | true =>
      unfold markerExpired at hexpired
      split at hexpired
      · next hor =>
          rcases hor with hflag | hshadow
          · simp [stuckMarker, htype, hflag, hcheck, hskip]
          · simp only [Option.isNone_iff_eq_none] at hshadow
            simp [checkTimestamp, hshadow, hgslCheckShadowTimestamp] at hcheck
      · rw [hcheck] at hexpired
        cases hexpired

theorem scan_turn {i : Nat} (hi : i ≠ s.drawqTail) (ho : s.drawq i = some o)
    (hbind : (s.obj o).type ≠ .bind) (ret : Int) : Turn s i o (s.scan i ret) := by
  unfold scan processDrawqueue
  simp only [if_neg hi, ho]
  cases htype : (s.obj o).type with
  | cmd => exact .sends (.inl htype) (stuckMarker_of_type (by simp [htype]))
  | sync =>
      cases hpending : (s.obj o).eventsPending with
      | true => simpa [htype, retireSyncobj, hpending, EAGAIN] using Turn.waitsForSync htype hpending
      | false =>
          have hturn : Turn s i o _ := .retires .retired s.obj s.shadowTs s.retired (.inl rfl)
            (fun _ => rfl) (stuckMarker_of_type (by simp [htype]))
          simpa [htype, retireSyncobj, hpending, popDrawobj, depart] using hturn
  | marker =>
      cases hexpired : s.markerExpired o with
      | true =>
          have hobj : ∀ x, (Function.update s.obj o { s.obj o with markerExpired := true } x).type =
              (s.obj x).type := by
            intro x
            by_cases hx : x = o
            · simp [hx]
            · simp [Function.update_of_ne hx]
          have hturn : Turn s i o _ := .retires .retired _
            (setContextShadowTs s.shadowTs (s.obj o).timestamp) (s.retired ++ [o]) (.inl rfl) hobj
            (stuckMarker_of_expired hexpired)
          simpa [htype, retireMarkerobj, hexpired, popDrawobj, depart, retireTimestamp] using hturn
      | false =>
          cases hskip : (s.obj o).skip with
          | true =>
              have hturn : Turn s i o _ := .sends (.inr htype) (by simp [stuckMarker, hskip])
              simpa [htype, retireMarkerobj, hexpired, hskip] using hturn
          | false =>
              have hturn : Turn s i o _ := .waitsForMarker htype hexpired hskip
              simpa [htype, retireMarkerobj, hexpired, hskip, EAGAIN] using hturn
  | bind => exact absurd htype hbind
  | timeline =>
      have hturn : Turn s i o _ := .retires .destroyed s.obj s.shadowTs s.retired (.inr ⟨rfl, htype⟩)
        (fun _ => rfl) (stuckMarker_of_type (by simp [htype]))
      simpa [htype, retireTimelineobj, popDrawobj, depart] using hturn

end QueueState

/-! ## The loop -/

namespace Pass

open QueueState

variable {s : QueueState} {gone rest objs : List Nat} {p p' : Pass}

/-- The pass is under way: `gone` have left the queue, one object may be on its way to the GPU, and `rest`
    are still queued. A scan in progress stands at the head. -/
structure Looping (s : QueueState) (gone rest : List Nat) (p : Pass) : Prop where
  not_returned : p.returned = false
  holds : p.ctxt.Holds rest
  room : rest.length + p.ctxt.dispatcher.inHand.length < CONTEXT_DRAWQUEUE_SIZE
  scan_head : ∀ i ret, p.ctxt.dispatcher = .scanning i ret → i = p.ctxt.drawqHead
  hand : ∀ o ∈ p.ctxt.dispatcher.inHand, (s.obj o).type = .cmd ∨ (s.obj o).type = .marker
  left : s.LeftInPass p.ctxt gone
  visited : p.visited = gone ++ p.ctxt.dispatcher.inHand
  failed : p.failed = []
  type : ∀ x, (p.ctxt.obj x).type = (s.obj x).type

/-- What a step comes to: the pass goes on, or it returns, at a blocker or not. -/
def Comes (s : QueueState) (objs : List Nat) (p : Pass) (a : QueueAct) (p' : Pass) : Prop :=
  (p.stalls a = false ∧ ∃ gone rest, objs = gone ++ p'.ctxt.dispatcher.inHand ++ rest ∧
      Looping s gone rest p') ∨
    (p'.returned = true ∧ (StopsAtBlocker s objs p' ↔ p.stalls a = false))

theorem Looping.start (hidle : s.dispatcher = .idle) (hholds : s.Holds objs) :
    Looping s [] objs (.start s) where
  not_returned := rfl
  holds := hholds
  room := by simpa [Pass.start, hidle] using hholds.room
  scan_head := by simp [Pass.start, hidle]
  hand := by simp [Pass.start, hidle]
  left := .refl s
  visited := by simp [Pass.start, hidle]
  failed := rfl
  type := fun _ => rfl

/-- With one decomposition of the objects into gone and queued, the condition is about that one. -/
theorem stopsAtBlocker_iff_of_holds {before : List Nat} (hobjs : objs = before ++ rest)
    (hholds : p.ctxt.Holds rest) (hvisited : p.visited <+: objs) :
    StopsAtBlocker s objs p ↔ ∀ o ∈ rest.head?, p.Blocker o ∧ s.LeftInPass p.ctxt before := by
  constructor
  · rintro ⟨-, before', rest', hobjs', hholds', hfirst⟩
    obtain rfl := hholds.unique hholds'
    obtain rfl : before = before' := List.append_cancel_right (hobjs.symm.trans hobjs')
    exact hfirst
  · intro hfirst
    exact ⟨hvisited, before, rest, hobjs, hholds, hfirst⟩

/-- A step that moves nothing. -/
theorem Looping.congr (h : Looping s gone rest p) (hreturned : p'.returned = p.returned)
    (hhead : p'.ctxt.drawqHead = p.ctxt.drawqHead) (htail : p'.ctxt.drawqTail = p.ctxt.drawqTail)
    (hdrawq : p'.ctxt.drawq = p.ctxt.drawq) (hleft : p'.ctxt.left = p.ctxt.left)
    (hdispatcher : p'.ctxt.dispatcher = p.ctxt.dispatcher) (hvisited : p'.visited = p.visited)
    (hfailed : p'.failed = p.failed) (htype : ∀ x, (p'.ctxt.obj x).type = (p.ctxt.obj x).type) :
    Looping s gone rest p' where
  not_returned := hreturned.trans h.not_returned
  holds := h.holds.congr hhead htail hdrawq
  room := by simpa only [hdispatcher] using h.room
  scan_head := by simpa only [hdispatcher, hhead] using h.scan_head
  hand := by simpa only [hdispatcher] using h.hand
  left := h.left.congr hleft
  visited := by simpa only [hdispatcher, hvisited] using h.visited
  failed := hfailed.trans h.failed
  type x := (htype x).trans (h.type x)

/-- The pass ends with the queue as it is, having looked at the first object. -/
theorem Looping.waits {o : Nat} {a : QueueAct} (h : Looping s gone (o :: rest) p)
    (hobjs : objs = gone ++ o :: rest) (hreturned : p'.returned = true)
    (hhead : p'.ctxt.drawqHead = p.ctxt.drawqHead) (htail : p'.ctxt.drawqTail = p.ctxt.drawqTail)
    (hdrawq : p'.ctxt.drawq = p.ctxt.drawq) (hleft : p'.ctxt.left = p.ctxt.left)
    (hvisited : p'.visited = gone ++ [o]) (hblocker : p'.Blocker o ↔ p.stalls a = false) :
    Comes s objs p a p' := by
  refine .inr ⟨hreturned, ?_⟩
  have hprefix : p'.visited <+: objs := by simp [hvisited, hobjs]
  rw [stopsAtBlocker_iff_of_holds hobjs (h.holds.congr hhead htail hdrawq) hprefix, ← hblocker]
  simp [h.left.congr hleft]

/-- One turn of the scan: the object at the head is sent or retired, or the pass ends. -/
theorem Looping.scan (h : Looping s gone rest p) (hbind : ∀ o ∈ objs, (s.obj o).type ≠ .bind)
    (hobjs : objs = gone ++ p.ctxt.dispatcher.inHand ++ rest) (hstep : p.step .passScan = some p') :
    Comes s objs p .passScan p' := by
  simp only [step, h.not_returned, Bool.false_eq_true, if_false] at hstep
  split at hstep
  · next i ret hscan =>
      obtain rfl := h.scan_head i ret hscan
      have hhand : p.ctxt.dispatcher.inHand = [] := by simp [hscan]
      simp only [QueueState.step, hscan, Option.map_some, Option.some.injEq] at hstep
      rw [hhand, List.append_nil] at hobjs
      have hvisited := h.visited
      rw [hhand, List.append_nil] at hvisited
      cases rest with
      | nil =>
          have hi : p.ctxt.drawqHead = p.ctxt.drawqTail := by
            by_contra hne
            exact h.holds.head_ne_tail_iff.1 hne rfl
          subst hstep
          refine .inr ⟨by simp [scan_end hi], ?_⟩
          have hholds : Holds (p.ctxt.scan p.ctxt.drawqHead ret) [] := by
            rw [scan_end hi]
            exact h.holds.congr rfl rfl rfl
          rw [stopsAtBlocker_iff_of_holds hobjs hholds (by simp [looksAt, hi, hvisited, hobjs])]
          simp [stalls, hscan, looksAt, hi]
      | cons o rest =>
          have hi : p.ctxt.drawqHead ≠ p.ctxt.drawqTail := h.holds.head_ne_tail_iff.2 (by simp)
          have ho := h.holds.head
          have hlooks : looksAt p.ctxt p.ctxt.drawqHead = [o] := by simp [looksAt, hi, ho]
          have htype : (p.ctxt.obj o).type ≠ .bind := by
            rw [h.type o]
            exact hbind o (by simp [hobjs])
          have hstalls : p.stalls .passScan = p.ctxt.stuckMarker o := by
            simp [stalls, hscan, hlooks]
          have hturn := scan_turn hi ho htype ret
          rw [hlooks] at hstep
          generalize p.ctxt.scan p.ctxt.drawqHead ret = t at hturn hstep
          subst hstep
          cases hturn with
          | sends htype' hstuck =>
              refine .inl ⟨by rw [hstalls, hstuck], gone, rest, by simp [hobjs], ?_⟩
              have hroom := h.holds.room
              rw [List.length_cons] at hroom
              exact
                { not_returned := by simp
                  holds := h.holds.pop rfl rfl rfl
                  room := by simpa using hroom
                  scan_head := by simp
                  hand := by simpa [h.type o] using htype'
                  left := h.left.congr rfl
                  visited := by simp [hvisited]
                  failed := h.failed
                  type := h.type }
          | retires d obj' shadowTs' retired' hd hobj hstuck =>
              refine .inl ⟨by rw [hstalls, hstuck], gone ++ [o], rest, by simp [hobjs], ?_⟩
              have hroom := h.holds.room
              rw [List.length_cons] at hroom
              rw [h.type o] at hd
              exact
                { not_returned := by simp
                  holds := h.holds.pop rfl rfl rfl
                  room := by simp only [Dispatcher.inHand_scanning, List.length_nil]; omega
                  scan_head := by simp [popDrawobj, depart]
                  hand := by simp
                  left := h.left.snoc rfl (.inr hd)
                  visited := by simp [hvisited]
                  failed := h.failed
                  type := fun x => (hobj x).trans (h.type x) }
          | waitsForSync htype' hpending =>
              refine h.waits hobjs (by simp) rfl rfl rfl rfl (by simp [hvisited]) ?_
              rw [hstalls, stuckMarker_of_type (by simp [htype'])]
              exact iff_of_true (.inl ⟨htype', hpending⟩) rfl
          | waitsForMarker htype' hexpired hskip =>
              refine h.waits hobjs (by simp) rfl rfl rfl rfl (by simp [hvisited]) ?_
              rw [hstalls, stuckMarker_eq htype' hexpired hskip]
              constructor
              · rintro (⟨hsync, -⟩ | ⟨-, hcheck, -⟩ | hfailed)
                · simp [htype'] at hsync
                · exact hcheck
                · simp [h.failed] at hfailed
              · intro hcheck
                exact .inr (.inl ⟨htype', hcheck, hskip⟩)
  · cases hstep

/-- `_sendcmd` returns: the object is on its way, put back, or destroyed. -/
theorem Looping.send {r : SendResult} (h : Looping s gone rest p)
    (hobjs : objs = gone ++ p.ctxt.dispatcher.inHand ++ rest) (hstep : p.step (.send r) = some p') :
    Comes s objs p (.send r) p' := by
  simp only [step, h.not_returned, Bool.false_eq_true, if_false] at hstep
  split at hstep
  · next o hsend =>
      simp only [QueueState.step, hsend, Option.map_some, Option.some.injEq] at hstep
      have hhand : p.ctxt.dispatcher.inHand = [o] := by simp [hsend]
      have hroom := h.room
      have hvisited := h.visited
      rw [hhand] at hobjs hroom hvisited
      have htype : (s.obj o).type = .cmd ∨ (s.obj o).type = .marker := h.hand o (by simp [hhand])
      by_cases hret : r.ret = 0
      · -- sent
        simp only [hret, ne_eq, not_true_eq_false, decide_false, if_false, finishSend, if_true, depart]
          at hstep
        subst hstep
        refine .inl ⟨by simp [stalls, hret, ENOENT], gone ++ [o], rest, by simpa using hobjs, ?_⟩
        exact
          { not_returned := rfl
            holds := h.holds.congr rfl rfl rfl
            room := h.holds.room
            scan_head := by simp
            hand := by simp
            left := h.left.snoc rfl (.inl rfl)
            visited := by simp [hvisited]
            failed := h.failed
            type := h.type }
      · simp only [hret, ne_eq, not_false_eq_true, decide_true, if_true, finishSend, if_false] at hstep
        by_cases hnoent : r.ret = -ENOENT
        · -- destroyed: what is left in the queue has not been looked at
          simp only [hnoent, if_true, depart] at hstep
          subst hstep
          refine .inr ⟨rfl, ?_⟩
          have hprefix : p.visited <+: objs := by simp [hvisited, hobjs]
          rw [stopsAtBlocker_iff_of_holds hobjs (by exact h.holds.congr rfl rfl rfl) (by exact hprefix)]
          have hends := h.holds.head_ne_tail_iff
          cases rest with
          | nil => simp [stalls, show p.ctxt.drawqHead = p.ctxt.drawqTail by simpa using hends]
          | cons x rest =>
              have hne : p.ctxt.drawqHead ≠ p.ctxt.drawqTail := hends.2 (by simp)
              refine iff_of_false ?_ (by simp [stalls, hnoent, hne])
              intro hfirst
              have htimeline : (s.obj o).type ≠ .timeline := by rcases htype with ht | ht <;> simp [ht]
              exact h.left.not_destroyed rfl htimeline _ (hfirst x rfl).2
        · -- put back
          simp only [hnoent, if_false] at hstep
          subst hstep
          refine .inr ⟨rfl, ?_⟩
          rw [List.append_assoc] at hobjs
          rw [stopsAtBlocker_iff_of_holds hobjs (h.holds.unpop hroom o) (by simp [hvisited, hobjs])]
          refine iff_of_true ?_ (by simp [stalls, hnoent])
          rintro x ⟨⟩
          exact ⟨.inr (.inr (by simp)), h.left.congr rfl⟩
  · cases hstep

theorem Looping.step {a : QueueAct} (h : Looping s gone rest p) (hbind : ∀ o ∈ objs, (s.obj o).type ≠ .bind)
    (hobjs : objs = gone ++ p.ctxt.dispatcher.inHand ++ rest) (hstep : p.step a = some p') :
    Comes s objs p a p' := by
  have hgo : ¬ p.returned = true := by simp [h.not_returned]
  have hwake : ∀ {k room ret} {t : QueueState}, p.ctxt.wake k room ret = some t → { p with ctxt := t } = p' →
      p.stalls a = false → Comes s objs p a p' := by
    intro k room ret t ht hp' hstalls
    obtain ⟨sl, -, -, rfl⟩ := wake_cases ht
    subst hp'
    exact .inl ⟨hstalls, gone, rest, hobjs, h.congr rfl rfl rfl rfl rfl rfl rfl rfl fun _ => rfl⟩
  cases a with
  | queueCmds ds ts => simp [Pass.step, hgo] at hstep
  | relock k => simp [Pass.step, hgo] at hstep
  | detachDrawobjs => simp [Pass.step, hgo] at hstep
  | passScan => exact h.scan hbind hobjs hstep
  | send r => exact h.send hobjs hstep
  | wakeRoom k left =>
      simp only [Pass.step, if_neg hgo, Option.map_eq_some_iff] at hstep
      obtain ⟨t, ht, hp'⟩ := hstep
      exact hwake ht hp' rfl
  | wakeTimeout k =>
      simp only [Pass.step, if_neg hgo, Option.map_eq_some_iff] at hstep
      obtain ⟨t, ht, hp'⟩ := hstep
      exact hwake ht hp' rfl
  | wakeInterrupted k =>
      simp only [Pass.step, if_neg hgo, Option.map_eq_some_iff] at hstep
      obtain ⟨t, ht, hp'⟩ := hstep
      exact hwake ht hp' rfl
  | passStart =>
      simp only [Pass.step, if_neg hgo, Option.map_eq_some_iff] at hstep
      obtain ⟨t, ht, rfl⟩ := hstep
      simp only [QueueState.step] at ht
      split at ht
      · next hidle =>
          obtain rfl := Option.some.inj ht
          refine .inl ⟨rfl, gone, rest, by simpa [hidle] using hobjs, ?_⟩
          exact
            { h with
              holds := h.holds.congr rfl rfl rfl
              room := h.holds.room
              scan_head := by simp
              hand := by simp
              left := h.left.congr rfl
              visited := by simpa [hidle] using h.visited }
      · cases ht
  | syncExpire o i =>
      simp only [Pass.step, if_neg hgo, Option.map_eq_some_iff] at hstep
      obtain ⟨t, ht, rfl⟩ := hstep
      obtain rfl := Option.some.inj ht
      refine .inl ⟨rfl, gone, rest, hobjs, h.congr rfl rfl rfl rfl rfl rfl rfl rfl ?_⟩
      intro x
      by_cases hx : x = o
      · simp [QueueState.syncExpire, hx]
      · simp [QueueState.syncExpire, Function.update_of_ne hx]
  | gpuRetire =>
      simp only [Pass.step, if_neg hgo, Option.map_eq_some_iff] at hstep
      obtain ⟨t, ht, rfl⟩ := hstep
      simp only [QueueState.step, QueueState.gpuRetire] at ht
      split at ht
      · cases ht
      · obtain rfl := Option.some.inj ht
        exact .inl ⟨rfl, gone, rest, hobjs, h.congr rfl rfl rfl rfl rfl rfl rfl rfl fun _ => rfl⟩
  | setInDestroy =>
      simp only [Pass.step, if_neg hgo, Option.map_eq_some_iff] at hstep
      obtain ⟨t, ht, rfl⟩ := hstep
      obtain rfl := Option.some.inj ht
      exact .inl ⟨rfl, gone, rest, hobjs, h.congr rfl rfl rfl rfl rfl rfl rfl rfl fun _ => rfl⟩

/-- A pass under way that goes on to its return stops at a blocker exactly if no step of it stalls. -/
theorem Looping.run {as : List QueueAct} (h : Looping s gone rest p)
    (hbind : ∀ o ∈ objs, (s.obj o).type ≠ .bind)
    (hobjs : objs = gone ++ p.ctxt.dispatcher.inHand ++ rest)
    (hrun : Trace.exec Pass.step p as = some p') (hreturned : p'.returned = true) :
    StopsAtBlocker s objs p' ↔ Trace.EveryStep Pass.step (fun p a _ => p.stalls a = false) p as := by
  induction as generalizing p gone rest with
  | nil =>
      obtain rfl := Option.some.inj hrun
      rw [h.not_returned] at hreturned
      cases hreturned
  | cons a as ih =>
      obtain ⟨t, ht, hrest⟩ := Trace.exec_cons_eq_some.1 hrun
      rw [Trace.everyStep_cons ht]
      rcases h.step hbind hobjs ht with ⟨hstalls, gone', rest', hobjs', h'⟩ | ⟨hret, hiff⟩
      · rw [ih h' hobjs' hrest]
        simp [hstalls]
      · -- nothing comes after the return
        cases as with
        | nil =>
            obtain rfl := Option.some.inj hrest
            simp [hiff, Trace.everyStep_nil]
        | cons b bs =>
            obtain ⟨u, hu, -⟩ := Trace.exec_cons_eq_some.1 hrest
            simp [Pass.step, hret] at hu

/-- **Main result.** For every queue of objects that the ioctls create, every state of their fields and of
    the shadow timestamps, and whatever the GPU and the sync points do during the pass: when
    `hgsl_dispatch_sendcmds` returns it has looked at no object twice and stops at a real blocker, exactly
    if it has not looked at a stuck marker and no send has returned `-ENOENT` with objects left. -/
theorem stopsAtBlocker_iff (s : QueueState) (objs : List Nat) (as : List QueueAct) (p : Pass)
    (hidle : s.dispatcher = .idle) (hholds : s.Holds objs) (hcreated : ∀ o ∈ objs, (s.obj o).Created)
    (hrun : Trace.exec Pass.step (start s) as = some p) (hreturned : p.returned = true) :
    StopsAtBlocker s objs p ↔ Trace.EveryStep Pass.step (fun p a _ => p.stalls a = false) (start s) as := by
  refine (Looping.start hidle hholds).run ?_ ?_ hrun hreturned
  · intro o ho
    exact (hcreated o ho).type_ne_bind
  · simp [Pass.start, hidle]

/-- A context with shadow timestamps where nothing has retired yet. -/
def withShadow : QueueState := .fresh GSL_CONTEXT_FLAG_USER_GENERATED_TS (some ⟨0#32, 0#32⟩)

/-- A command, an auxiliary command, and a command behind a sync object with a pending point. -/
def syncQueue : List QueueAct :=
  [.queueCmds (hgslIoctlGpuCommand 0#64 1#32 0#32 0#32 0#32 false) 0#32,
    .queueCmds (hgslIoctlGpuAuxCommand 0x402#64 1#32 1#32 0#32 HGSL_GPU_AUX_COMMAND_TIMELINE) 0#32,
    .queueCmds (hgslIoctlGpuCommand 0#64 1#32 0#32 1#32 1#32 false) 0#32]

/-- The first command is sent and retires, the auxiliary one is retired, and the pass gets as far as the
    last sync object. -/
def syncPass : List QueueAct :=
  [.passStart, .passScan, .send (.issued 0), .gpuRetire, .passStart, .passScan, .passScan, .passScan,
    .passScan]

theorem stopsAtBlocker_iff_syncPass :
    ∃ s ∈ Trace.exec QueueState.step withShadow syncQueue,
      ∃ p ∈ Trace.exec Pass.step (start s) syncPass, StopsAtBlocker s [0, 1, 2, 3, 4, 5] p := by
  have hrun : ∃ s ∈ Trace.exec QueueState.step withShadow syncQueue,
      ∃ p ∈ Trace.exec (Trace.guarded (fun p a => p.stalls a = false) Pass.step) (start s) syncPass,
        p.returned = true ∧ s.dispatcher = .idle ∧ s.drawqHead < CONTEXT_DRAWQUEUE_SIZE ∧
          s.drawqTail = Ring.slot CONTEXT_DRAWQUEUE_SIZE s.drawqHead 6 ∧
          Ring.slice CONTEXT_DRAWQUEUE_SIZE s.drawq s.drawqHead 6 = [0, 1, 2, 3, 4, 5].map some ∧
          [0, 1, 2, 3, 4, 5].map (fun o => ((s.obj o).type, (s.obj o).flags)) =
            [(.cmd, 0#64), (.sync, 0#64), (.timeline, 0#64), (.marker, HGSL_DRAWOBJ_MARKER),
              (.sync, 0#64), (.cmd, 0#64)] := by
    decide +kernel
  obtain ⟨s, hs, p, hp, hreturned, hidle, hhead, htail, hslots, hobjs⟩ := hrun
  obtain ⟨hexec, hstalls⟩ := Trace.exec_guarded_eq_some.1 hp
  refine ⟨s, hs, p, hexec, (stopsAtBlocker_iff s _ syncPass p hidle ?_ ?_ hexec hreturned).2 hstalls⟩
  · exact ⟨hhead, by decide, htail, hslots⟩
  · simp only [List.map_cons, List.map_nil, List.cons.injEq, Prod.mk.injEq, and_true] at hobjs
    obtain ⟨hcmd, hsync, htimeline, hmarker, hsync', hcmd'⟩ := hobjs
    have hcommand : ∀ o, (s.obj o).type = .cmd ∧ (s.obj o).flags = 0#64 → (s.obj o).Created := by
      intro o ho
      exact .inl ⟨0#64, 1#32, 0#32, 0#32, 0#32, false, { type := .cmd }, by decide, ho⟩
    have haux : ∀ d ∈ hgslIoctlGpuAuxCommand 0x402#64 1#32 1#32 0#32 HGSL_GPU_AUX_COMMAND_TIMELINE,
        ∀ o, (s.obj o).type = d.type ∧ (s.obj o).flags = d.flags → (s.obj o).Created := by
      intro d hd o ho
      exact .inr ⟨_, _, _, _, _, d, hd, ho⟩
    intro o ho
    simp only [List.mem_cons, List.not_mem_nil, or_false] at ho
    rcases ho with rfl | rfl | rfl | rfl | rfl | rfl
    · exact hcommand 0 hcmd
    · exact haux (hgslDrawobjSyncCreate 0#32) (by decide) 1 hsync
    · exact haux { type := .timeline } (by decide) 2 htimeline
    · exact haux (hgslDrawobjCmdCreate HGSL_DRAWOBJ_MARKER MARKEROBJ_TYPE) (by decide) 3 hmarker
    · exact haux (hgslDrawobjSyncCreate 0#32) (by decide) 4 hsync'
    · exact hcommand 5 hcmd'

/-- A command is sent; a marker is queued behind it that is one because there are no commands in it, not
    because the user says so. -/
def markerQueue : List QueueAct :=
  [.queueCmds (hgslIoctlGpuCommand 0#64 1#32 0#32 0#32 0#32 false) 0#32, .passStart, .passScan,
    .send (.issued 0), .passStart, .passScan,
    .queueCmds (hgslIoctlGpuCommand 0#64 0#32 0#32 0#32 0#32 false) 0#32]

/-- The command retires before the dispatcher looks at the marker. -/
def markerPass : List QueueAct := [.gpuRetire, .passStart, .passScan]

/-- The pass stops at a marker whose timestamp has retired: nothing will ever wake it. -/
theorem retired_marker_blocks_queue :
    ∃ s ∈ Trace.exec QueueState.step withShadow markerQueue,
      ∃ p ∈ Trace.exec Pass.step (start s) markerPass,
        s.Holds [1] ∧ (s.obj 1).Created ∧ p.returned = true ∧ p.ctxt.Holds [1] ∧
          p.ctxt.checkTimestamp (p.ctxt.obj 1).markerTimestamp = true ∧ ¬ StopsAtBlocker s [1] p := by
  have hrun : ∃ s ∈ Trace.exec QueueState.step withShadow markerQueue,
      ∃ p ∈ Trace.exec Pass.step (start s) markerPass,
        p.returned = true ∧ p.failed = [] ∧ p.visited = [1] ∧ s.drawqHead = 1 ∧ s.drawqTail = 2 ∧
          p.ctxt.drawqHead = 1 ∧ p.ctxt.drawqTail = 2 ∧ s.drawq 1 = some 1 ∧ p.ctxt.drawq 1 = some 1 ∧
          (s.obj 1).type = .marker ∧ (s.obj 1).flags = 0#64 ∧ (p.ctxt.obj 1).type = .marker ∧
          p.ctxt.checkTimestamp (p.ctxt.obj 1).markerTimestamp = true := by
    decide +kernel
  obtain ⟨s, hs, p, hp, hreturned, hfailed, hvisited, hhead, htail, hhead', htail', hslot, hslot', htype,
    hflags, htype', hcheck⟩ := hrun
  have hone : ∀ t : QueueState, t.drawqHead = 1 → t.drawqTail = 2 → t.drawq 1 = some 1 → t.Holds [1] := by
    intro t hh ht hd
    refine ⟨by rw [hh]; decide, by decide, by rw [hh, ht]; decide, ?_⟩
    simp [hh, Ring.slice, Ring.slot, CONTEXT_DRAWQUEUE_SIZE, hd]
  refine ⟨s, hs, p, hp, hone s hhead htail hslot, ?_, hreturned, hone _ hhead' htail' hslot', hcheck, ?_⟩
  · exact .inl ⟨0#64, 0#32, 0#32, 0#32, 0#32, false, { type := .marker }, by decide, htype, hflags⟩
  · rw [stopsAtBlocker_iff_of_holds (List.nil_append [1]).symm (hone _ hhead' htail' hslot')
      (by simp [hvisited])]
    intro hfirst
    rcases (hfirst 1 rfl).1 with ⟨hsync, -⟩ | ⟨-, hcheck', -⟩ | hmem
    · simp [htype'] at hsync
    · simp [hcheck] at hcheck'
    · simp [hfailed] at hmem

end Pass

end Hgsl
