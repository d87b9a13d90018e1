import Hgsl.DrawQueue.Detach

set_option autoImplicit false

/-! # The result of a submission

`hgsl_dispatch_queue_cmds` takes its objects over or returns an error that makes the caller destroy them.
The wait for room is where this goes wrong: `_check_for_room_in_context_drawq` passes on what the wait
primitive returns, which is positive when there is room, and the caller takes anything but 0 for an
error. The timestamp check before the loop makes sure that no object is refused once the first one is
queued, and an object that is queued keeps a marker behind it from being retired on the spot. -/

namespace Hgsl

/-- How the wait for room of `hgsl_dispatch_queue_cmds` ends, if there is one. -/
inductive RoomWait where
  /-- woken because there is room, `left + 1` jiffies before the deadline -/
  | woken (left : Nat)
  | timedOut
  /-- by a signal -/
  | interrupted
  deriving DecidableEq, Repr

/-- What `wait_event_interruptible_timeout` returns. -/
def RoomWait.ret : RoomWait → Int
  | .woken left => left + 1
  | .timedOut => 0
  | .interrupted => -ERESTARTSYS

namespace QueueState

/-- The call gets as far as the test for room, and has to sleep. -/
def sleepsFor (s : QueueState) (objs : List Nat) : Bool :=
  (s.queueCmds objs 0#32).1.isNone

/-- A call of `hgsl_dispatch_queue_cmds`: its return value and the state that it leaves. `s` is the state
    in which it is made, `s'` the one in which it gets its lock back, if it has to sleep. -/
def hgslDispatchQueueCmds (s s' : QueueState) (objs : List Nat) (timestamp : BitVec 32) (w : RoomWait) :
    Int × QueueState :=
  match s.queueCmds objs timestamp with
  | (some ret, _, t) => (ret, t)
  | (none, _, _) =>
    let r := s'.queueLocked objs timestamp w.ret
    (r.1, r.2.2)

/-- The objects are of the types that the ioctls put into one submission: an optional sync object, an
    optional timeline object, and an optional command or marker. -/
def Built (s : QueueState) (objs : List Nat) : Prop :=
  ∃ syncs timelines cmds, objs = syncs ++ timelines ++ cmds ∧ objs ≠ [] ∧
    syncs.length ≤ 1 ∧ (∀ o ∈ syncs, (s.obj o).type = .sync) ∧
    timelines.length ≤ 1 ∧ (∀ o ∈ timelines, (s.obj o).type = .timeline) ∧
    cmds.length ≤ 1 ∧ ∀ o ∈ cmds, (s.obj o).type = .cmd ∨ (s.obj o).type = .marker

/-- The objects are in the slots from the old tail on, in order, and they are counted. -/
structure Appended (s s' : QueueState) (objs : List Nat) : Prop where
  slots : Ring.slice CONTEXT_DRAWQUEUE_SIZE s'.drawq s.drawqTail objs.length = objs.map some
  tail : s'.drawqTail = Ring.slot CONTEXT_DRAWQUEUE_SIZE s.drawqTail objs.length
  head : s'.drawqHead = s.drawqHead
  queued : s'.queued = s.queued + objs.length
  appended : s'.appended = s.appended ++ objs

/-- A lone marker is retired, and the queue is as it was. -/
structure RetiredOnSpot (s s' : QueueState) (objs : List Nat) : Prop where
  marker : ∃ o, objs = [o] ∧ (s.obj o).type = .marker ∧ s'.retired = s.retired ++ [o] ∧
    s'.queuedTs = (s'.obj o).timestamp ∧
    s'.shadowTs = setContextShadowTs s.shadowTs (s'.obj o).timestamp
  drawq : s'.drawq = s.drawq
  head : s'.drawqHead = s.drawqHead
  tail : s'.drawqTail = s.drawqTail
  queued : s'.queued = s.queued
  appended : s'.appended = s.appended

/-- The call returns 0 exactly if the objects are appended or retired on the spot; otherwise it returns
    a negative error and leaves everything as it was. -/
structure AllOrNothing (s : QueueState) (objs : List Nat) (r : Int × QueueState) : Prop where
  success : r.1 = 0 ↔ Appended s r.2 objs ∨ RetiredOnSpot s r.2 objs
  failure : r.1 ≠ 0 → r.1 < 0 ∧ r.2 = s

/-! ## The count

`queued` is never less than the number of slots from the head to the tail, also where the ring has been
overfilled and its tail has come round to the head. -/

structure Counted (s : QueueState) : Prop extends Indices s where
  used_le : (Ring.used CONTEXT_DRAWQUEUE_SIZE s.drawqHead s.drawqTail : Int) ≤ s.queued
  /-- a scan in progress stands between the head and the tail -/
  scan : ∀ i ret, s.dispatcher = .scanning i ret →
    ∃ k ≤ Ring.used CONTEXT_DRAWQUEUE_SIZE s.drawqHead s.drawqTail,
      i = Ring.slot CONTEXT_DRAWQUEUE_SIZE s.drawqHead k

namespace Counted

variable {s s' : QueueState}

theorem fresh (flags : BitVec 32) (shadowTs : Option ShadowTs) : Counted (.fresh flags shadowTs) where
  head_lt := size_pos
  tail_lt := size_pos
  used_le := by simp [QueueState.fresh, Ring.used]
  scan := nofun

theorem queued_nonneg (h : Counted s) : 0 ≤ s.queued := by
  have hle := h.used_le
  omega

/-- The invariant looks at the indices, the count and the dispatcher only. -/
theorem congr (h : Counted s) (hhead : s'.drawqHead = s.drawqHead)
    (htail : s'.drawqTail = s.drawqTail) (hqueued : s'.queued = s.queued)
    (hscan : ∀ i ret, s'.dispatcher = .scanning i ret → s.dispatcher = .scanning i ret) :
    Counted s' where
  head_lt := by simpa only [hhead] using h.head_lt
  tail_lt := by simpa only [htail] using h.tail_lt
  used_le := by simpa only [hhead, htail, hqueued] using h.used_le
  scan i ret hd := by simpa only [hhead, htail] using h.scan i ret (hscan i ret hd)

/-- `_queue_drawobj`: the distance to the tail grows by one, or the tail comes round to the head. -/
theorem push (h : Counted s) (hfree : s.lockFree = true) (o : Nat) :
    Counted (s.queueDrawobj o) where
  head_lt := h.head_lt
  tail_lt := Nat.mod_lt _ size_pos
  used_le := by
    have hhead := h.head_lt
    have htail := h.tail_lt
    have hle := h.used_le
    simp only [queueDrawobj, Ring.used, CONTEXT_DRAWQUEUE_SIZE] at *
    omega
  scan i ret hscan := by
    simp [lockFree, show s.dispatcher = .scanning i ret from hscan] at hfree

/-- `_pop_drawobj` where the scan looks at an object: there is one between the head and the tail. -/
theorem pop (h : Counted s) {i : Nat} {ret : Int} (hscan : s.dispatcher = .scanning i ret)
    (hi : i ≠ s.drawqTail) (hhead : s'.drawqHead = drawqueueNext s.drawqHead)
    (htail : s'.drawqTail = s.drawqTail) (hqueued : s'.queued = s.queued - 1)
    (hnext : ∀ j r, s'.dispatcher = .scanning j r → j = drawqueueNext i) : Counted s' := by
  obtain ⟨k, hk, rfl⟩ := h.scan i ret hscan
  have hne : k ≠ Ring.used CONTEXT_DRAWQUEUE_SIZE s.drawqHead s.drawqTail := by
    rintro rfl
    exact hi (Ring.slot_used h.head_lt h.tail_lt)
  have hused : Ring.used CONTEXT_DRAWQUEUE_SIZE (drawqueueNext s.drawqHead) s.drawqTail + 1 =
      Ring.used CONTEXT_DRAWQUEUE_SIZE s.drawqHead s.drawqTail := by
    have hh := h.head_lt
    have ht := h.tail_lt
    simp only [Ring.used, drawqueueNext, CONTEXT_DRAWQUEUE_SIZE] at *
    omega
  have hle := h.used_le
  constructor
  · constructor
    · rw [hhead]
      exact Nat.mod_lt _ size_pos
    · rw [htail]
      exact h.tail_lt
  · rw [hhead, htail, hqueued]
    omega
  · intro j r hd
    refine ⟨k, ?_, ?_⟩
    · rw [hhead, htail]
      omega
    · rw [hnext j r hd, hhead]
      simp only [drawqueueNext, Ring.slot, CONTEXT_DRAWQUEUE_SIZE]
      omega

/-- `hgsl_dispatch_requeue_drawobj`: the distance grows by one, or the head reaches the tail. -/
theorem unpop (h : Counted s) (o : Nat) : Counted ({ s with dispatcher := .idle }.requeueDrawobj o) := by
  have hhead := h.head_lt
  have htail := h.tail_lt
  have hle := h.used_le
  have hlt : (if s.drawqHead = 0 then CONTEXT_DRAWQUEUE_SIZE - 1 else s.drawqHead - 1) <
      CONTEXT_DRAWQUEUE_SIZE := by
    split <;> omega
  refine ⟨⟨hlt, htail⟩, ?_, nofun⟩
  simp only [requeueDrawobj, Ring.used, CONTEXT_DRAWQUEUE_SIZE] at *
  split <;> omega

/-- One turn of the loop of a submission, which holds the lock. -/
theorem queueOne (h : Counted s) (hfree : s.lockFree = true) (userTs timestamp : BitVec 32) (o : Nat) :
    Counted (queueOne userTs s timestamp o).2.2 ∧ (queueOne userTs s timestamp o).2.2.lockFree = true := by
  have hcases := queueOne_cases s o timestamp userTs
  generalize QueueState.queueOne userTs s timestamp o = r at hcases
  cases hcases with
  | refused ts hts => exact ⟨h, hfree⟩
  | ignored ts htype => exact ⟨h, hfree⟩
  | unstamped ts htype =>
      have hset : Counted (s.setTimestamp o 0#32) := h.congr rfl rfl rfl fun _ _ hd => hd
      exact ⟨hset.push hfree o, hfree⟩
  | stamped ts obj' htype hts hobj hmarker =>
      have hset : Counted { s with obj := obj', queuedTs := ts, stamped := s.stamped ++ [o] } :=
        h.congr rfl rfl rfl fun _ _ hd => hd
      exact ⟨hset.push hfree o, hfree⟩
  | retired ts htype hts hqueued hexpired =>
      exact ⟨h.congr rfl rfl rfl fun _ _ hd => hd, hfree⟩

theorem queueLoop (h : Counted s) (hfree : s.lockFree = true) (userTs timestamp : BitVec 32)
    (objs : List Nat) : Counted (queueLoop userTs s timestamp objs).2.2 := by
  obtain ⟨_, hos, -⟩ := queueLoop_rule (P := fun t _ => Counted t ∧ t.lockFree = true) userTs timestamp
    (fun t ts o _ ht => ht.1.queueOne ht.2 userTs ts o) ⟨h, hfree⟩
  exact hos

theorem step {a : QueueAct} (h : Counted s) (hstep : s.step a = some s') : Counted s' := by
  have hwake : ∀ {k room ret}, s.wake k room ret = some s' → Counted s' := by
    intro k room ret hstep
    obtain ⟨sl, -, -, rfl⟩ := wake_cases hstep
    exact h.congr rfl rfl rfl fun _ _ hd => hd
  cases a with
  | queueCmds ds ts =>
      simp only [QueueState.step, Option.ite_none_right_eq_some, Option.some.injEq] at hstep
      obtain ⟨hfree, rfl⟩ := hstep
      obtain ⟨obj', -, heq | ⟨-, heq⟩ | ⟨-, -, -, heq⟩⟩ := submit_cases s ds ts
      · rw [heq]
        exact h.congr rfl rfl rfl fun _ _ hd => hd
      · rw [heq]
        exact h.congr rfl rfl rfl fun _ _ hd => hd
      · rw [heq]
        have halloc : Counted { s with obj := obj', nextObj := s.nextObj + ds.length } :=
          h.congr rfl rfl rfl fun _ _ hd => hd
        exact halloc.queueLoop hfree ts ts _
  | wakeRoom k left => exact hwake hstep
  | wakeTimeout k => exact hwake hstep
  | wakeInterrupted k => exact hwake hstep
  | relock k =>
      have hsleepers : Counted { s with sleepers := s.sleepers.eraseIdx k } :=
        h.congr rfl rfl rfl fun _ _ hd => hd
      obtain ⟨sl, ret, -, -, hfree, rfl | ⟨-, rfl⟩⟩ := relock_cases hstep
      · exact hsleepers
      · exact hsleepers.queueLoop hfree _ _ _
  | passStart =>
      simp only [QueueState.step] at hstep
      split at hstep
      · obtain rfl := Option.some.inj hstep
        refine ⟨{ h.toIndices with }, h.used_le, ?_⟩
        rintro i ret ⟨⟩
        exact ⟨0, Nat.zero_le _, (Ring.slot_zero h.head_lt).symm⟩
      · cases hstep
  | passScan =>
      simp only [QueueState.step] at hstep
      split at hstep
      · next i ret hscan =>
          obtain rfl := Option.some.inj hstep
          have hcases := scan_cases s i ret
          generalize s.scan i ret = s' at hcases
          cases hcases with
          | stop => exact h.congr rfl rfl rfl (by simp)
          | skipped o hi ho htype =>
              obtain ⟨k, hk, rfl⟩ := h.scan i ret hscan
              have hne : k ≠ Ring.used CONTEXT_DRAWQUEUE_SIZE s.drawqHead s.drawqTail := by
                rintro rfl
                exact hi (Ring.slot_used h.head_lt h.tail_lt)
              refine ⟨{ h.toIndices with }, h.used_le, ?_⟩
              rintro j r ⟨⟩
              refine ⟨k + 1, Nat.lt_of_le_of_ne hk hne, ?_⟩
              simp only [drawqueueNext, Ring.slot, CONTEXT_DRAWQUEUE_SIZE]
              omega
          | dropped o d hi ho htype =>
              refine h.pop hscan hi rfl rfl rfl ?_
              rintro j r ⟨⟩
              rfl
          | expired o hi ho htype hexpired =>
              refine h.pop hscan hi rfl rfl rfl ?_
              rintro j r ⟨⟩
              rfl
          | found o hi ho htype => exact h.pop hscan hi rfl rfl rfl (by simp)
      · cases hstep
  | send r =>
      simp only [QueueState.step] at hstep
      split at hstep
      · obtain rfl := Option.some.inj hstep
        unfold finishSend
        dsimp only
        split
        · exact h.congr rfl rfl rfl (by intros; contradiction)
        · split
          · exact h.congr rfl rfl rfl (by intros; contradiction)
          · exact h.unpop _
      · cases hstep
  | syncExpire o i =>
      obtain rfl := Option.some.inj hstep
      exact h.congr rfl rfl rfl fun _ _ hd => hd
  | gpuRetire =>
      simp only [QueueState.step, QueueState.gpuRetire] at hstep
      split at hstep
      · cases hstep
      · obtain rfl := Option.some.inj hstep
        exact h.congr rfl rfl rfl fun _ _ hd => hd
  | setInDestroy =>
      obtain rfl := Option.some.inj hstep
      exact h.congr rfl rfl rfl fun _ _ hd => hd
  | detachDrawobjs =>
      simp only [QueueState.step, Option.ite_none_right_eq_some, Option.some.injEq] at hstep
      obtain ⟨⟨-, hfree⟩, rfl⟩ := hstep
      have hmeet := h.toIndices.detach
      refine ⟨⟨?_, h.tail_lt⟩, ?_, ?_⟩
      · rw [hmeet]
        exact h.tail_lt
      · have hused : Ring.used CONTEXT_DRAWQUEUE_SIZE s.detachDrawobjs.drawqHead s.drawqTail = 0 := by
          rw [hmeet, Ring.used_eq_zero h.tail_lt h.tail_lt]
        calc (Ring.used CONTEXT_DRAWQUEUE_SIZE s.detachDrawobjs.drawqHead s.drawqTail : Int)
            = 0 := by rw [hused, Nat.cast_zero]
          _ ≤ s.queued := h.queued_nonneg
      · intro i ret hscan
        simp [lockFree, show s.dispatcher = .scanning i ret from hscan] at hfree

/-- The count holds in every state of a run from a fresh context. -/
theorem run {flags : BitVec 32} {shadowTs : Option ShadowTs} {as : List QueueAct}
    (hrun : Trace.exec QueueState.step (.fresh flags shadowTs) as = some s) : Counted s :=
  Trace.exec_invariant (fun _ _ _ ht hstep => ht.step hstep) (fresh flags shadowTs) hrun

end Counted

/-! ## The loop -/

section Loop

variable {s₀ s t : QueueState} {done : List Nat}

theorem Appended.nil (htail : s.drawqTail < CONTEXT_DRAWQUEUE_SIZE) : Appended s s [] where
  slots := rfl
  tail := (Ring.slot_zero htail).symm
  head := rfl
  queued := by simp
  appended := by simp

/-- One more object, stored behind the ones of this call: they never reach round the ring. -/
theorem Appended.snoc (h : Appended s₀ s done) (hlen : done.length < CONTEXT_DRAWQUEUE_SIZE)
    (hdrawq : t.drawq = s.drawq) (htail : t.drawqTail = s.drawqTail) (hhead : t.drawqHead = s.drawqHead)
    (hqueued : t.queued = s.queued) (happended : t.appended = s.appended) (o : Nat) :
    Appended s₀ (t.queueDrawobj o) (done ++ [o]) where
  slots := by
    simp only [queueDrawobj, List.length_append, List.length_singleton, List.map_append, List.map_cons,
      List.map_nil]
    rw [htail, hdrawq, h.tail, Ring.slice_push _ _ hlen, h.slots]
  tail := by
    simp only [queueDrawobj, List.length_append, List.length_singleton]
    rw [htail, h.tail, ← Ring.slot_slot]
    rfl
  head := by simp only [queueDrawobj, hhead, h.head]
  queued := by
    simp only [queueDrawobj, hqueued, h.queued, List.length_append, List.length_singleton]
    push_cast
    omega
  appended := by simp only [queueDrawobj, happended, h.appended, List.append_assoc]

/-- Nothing is appended by a call that leaves the queue alone. -/
theorem not_appended_self {objs : List Nat} (hne : objs ≠ []) : ¬ Appended s s objs := by
  intro h
  have hlen := List.length_pos_iff.2 hne
  have hqueued := h.queued
  omega

theorem not_retiredOnSpot_self {objs : List Nat} : ¬ RetiredOnSpot s s objs := by
  intro h
  obtain ⟨o, -, -, hretired, -⟩ := h.marker
  simpa using congrArg List.length hretired

/-- Sync and timeline objects go in whatever their timestamps are: the loop reaches the rest. -/
theorem queueLoop_unstamped (userTs : BitVec 32) (rest : List Nat) {us : List Nat}
    (hus : ∀ o ∈ us, (s.obj o).type = .sync ∨ (s.obj o).type = .timeline)
    (h : Appended s₀ s done) (hlen : done.length + us.length ≤ CONTEXT_DRAWQUEUE_SIZE)
    (timestamp : BitVec 32) :
    ∃ t timestamp', queueLoop userTs s timestamp (us ++ rest) = queueLoop userTs t timestamp' rest ∧
      Appended s₀ t (done ++ us) ∧ t.flags = s.flags ∧ t.queuedTs = s.queuedTs ∧
      (∀ x, (t.obj x).type = (s.obj x).type) ∧ (us = [] → t = s) := by
  induction us generalizing s done timestamp with
  | nil => exact ⟨s, timestamp, rfl, by simpa using h, rfl, rfl, fun _ => rfl, fun _ => rfl⟩
  | cons o us ih =>
      rw [List.length_cons] at hlen
      have ho := hus o List.mem_cons_self
      have hset : Stamps s.obj (s.setTimestamp o 0#32).obj o 0#32 := Stamps.of_update rfl rfl rfl
      obtain ⟨ts', hone⟩ : ∃ ts', queueOne userTs s timestamp o =
          (0, ts', (s.setTimestamp o 0#32).queueDrawobj o) := by
        rcases ho with ho | ho
        · exact ⟨0#32, by simp [queueOne, ho, queueSyncobj]⟩
        · exact ⟨timestamp, by simp [queueOne, ho, queueTimelineobj]⟩
      have hrest : ∀ x ∈ us, (((s.setTimestamp o 0#32).queueDrawobj o).obj x).type = .sync ∨
          (((s.setTimestamp o 0#32).queueDrawobj o).obj x).type = .timeline := by
        intro x hx
        simp only [queueDrawobj, hset.type x]
        exact hus x (List.mem_cons_of_mem o hx)
      have hpush := h.snoc (t := s.setTimestamp o 0#32) (by omega) rfl rfl rfl rfl rfl o
      obtain ⟨t, ts, hloop, happ, hflags, hts, htype, -⟩ := ih hrest hpush
        (by rw [List.length_append, List.length_singleton]; omega) ts'
      refine ⟨t, ts, ?_, by simpa using happ, hflags, hts, ?_, by simp⟩
      · rw [List.cons_append, queueLoop]
        simp only [hone, if_pos, hloop]
      · intro x
        rw [htype x]
        exact hset.type x

/-- The last object of a submission, a command or a marker that the timestamp check has let through:
    it is appended, or it is a marker that finds the queue empty and is retired. -/
theorem queueLoop_last {c : Nat} {userTs ts : BitVec 32}
    (hc : (s.obj c).type = .cmd ∨ (s.obj c).type = .marker)
    (hts : hgslDbNextTimestamp s.flags s.queuedTs userTs = .ok ts) (h : Appended s₀ s done)
    (hlen : done.length < CONTEXT_DRAWQUEUE_SIZE) (timestamp : BitVec 32) :
    (queueLoop userTs s timestamp [c]).1 = 0 ∧
      (Appended s₀ (queueLoop userTs s timestamp [c]).2.2 (done ++ [c]) ∨
        s.queued = 0 ∧ RetiredOnSpot s (queueLoop userTs s timestamp [c]).2.2 [c]) := by
  have hcases := queueOne_cases s c timestamp userTs
  rw [queueLoop]
  generalize queueOne userTs s timestamp c = r at hcases
  cases hcases with
  | refused ts' hrefused =>
      rw [hts] at hrefused
      cases hrefused
  | ignored ts' htype => simp [htype] at hc
  | unstamped ts' htype => rcases htype with htype | htype <;> simp [htype] at hc
  | stamped ts' obj' htype hts' hobj hmarker =>
      simp only [if_pos, queueLoop]
      have hpush := h.snoc (t := { s with obj := obj', queuedTs := ts', stamped := s.stamped ++ [c] })
        hlen rfl rfl rfl rfl rfl c
      exact ⟨trivial, .inl hpush⟩
  | retired ts' htype hts' hqueued hexpired =>
      refine ⟨by simp, .inr ⟨hqueued, ?_⟩⟩
      constructor
      · exact ⟨c, rfl, htype, by simp [setTimestamp], by simp [setTimestamp], by simp [setTimestamp]⟩
      all_goals simp [setTimestamp]

end Loop

/-! ## The call -/

section Call

variable {s s' b : QueueState} {objs : List Nat}

theorem Built.length (h : Built s objs) : 0 < objs.length ∧ objs.length ≤ 3 := by
  obtain ⟨syncs, timelines, cmds, rfl, hne, hsyncs, -, htimelines, -, hcmds, -⟩ := h
  refine ⟨List.length_pos_iff.2 hne, ?_⟩
  simp only [List.length_append]
  omega

/-- Nothing that the ioctls build exceeds the ring. -/
theorem Built.count (h : Built s objs) :
    ¬ (objs.length = 0 ∨ objs.length > contextDrawqueueSize - 1) := by
  obtain ⟨hpos, hle⟩ := h.length
  simp only [contextDrawqueueSize, CONTEXT_DRAWQUEUE_SIZE]
  omega

/-- Whether the call sleeps does not depend on its timestamp. -/
theorem sleepsFor_eq_isNone (timestamp : BitVec 32) :
    s.sleepsFor objs = (s.queueCmds objs timestamp).1.isNone := by
  unfold sleepsFor QueueState.queueCmds
  split_ifs <;> rfl

/-- It is decided by the count, `in_destroy` and the room alone. -/
theorem sleepsFor_eq_true : s.sleepsFor objs = true ↔
    ¬ (objs.length = 0 ∨ objs.length > contextDrawqueueSize - 1) ∧ ¬ s.inDestroy = true ∧
      s.mustSleep objs.length = true := by
  unfold sleepsFor QueueState.queueCmds
  split_ifs with hcount hdestroy hsleep
  · exact iff_of_false (by simp) fun h => h.1 hcount
  · exact iff_of_false (by simp) fun h => h.2.1 hdestroy
  · exact iff_of_true rfl ⟨hcount, hdestroy, hsleep⟩
  · exact iff_of_false (by simp) fun h => hsleep h.2.2

/-- After a sleep the call goes on with the lock held and with what the wait returned. -/
theorem hgslDispatchQueueCmds_sleeps (h : s.sleepsFor objs = true) (timestamp : BitVec 32) (w : RoomWait) :
    s.hgslDispatchQueueCmds s' objs timestamp w =
      ((s'.queueLocked objs timestamp w.ret).1, (s'.queueLocked objs timestamp w.ret).2.2) := by
  obtain ⟨hcount, hdestroy, hsleep⟩ := sleepsFor_eq_true.1 h
  simp only [hgslDispatchQueueCmds, QueueState.queueCmds, if_neg hcount, if_neg hdestroy, if_pos hsleep]

/-- Without a sleep the call ends in the state it was made in, refused or with the lock held. -/
theorem hgslDispatchQueueCmds_awake (s' : QueueState) (hbuilt : Built s objs) (h : ¬ s.sleepsFor objs = true)
    (timestamp : BitVec 32) (w : RoomWait) :
    s.hgslDispatchQueueCmds s' objs timestamp w = (-EINVAL, s) ∨
      s.hgslDispatchQueueCmds s' objs timestamp w =
        ((s.queueLocked objs timestamp 0).1, (s.queueLocked objs timestamp 0).2.2) := by
  have hcount := hbuilt.count
  by_cases hdestroy : s.inDestroy = true
  · left
    simp only [hgslDispatchQueueCmds, QueueState.queueCmds, if_neg hcount, if_pos hdestroy]
  · have hroom : ¬ s.mustSleep objs.length = true := by
      intro hsleep
      exact h (sleepsFor_eq_true.2 ⟨hcount, hdestroy, hsleep⟩)
    right
    simp only [hgslDispatchQueueCmds, QueueState.queueCmds, if_neg hcount, if_neg hdestroy, if_neg hroom]

/-- A refusal with a negative error is all the call does. -/
theorem AllOrNothing.refused {e : Int} (hne : objs ≠ []) (he : e < 0) : AllOrNothing s objs (e, s) where
  success := by
    have he0 : e ≠ 0 := by omega
    simp [he0, not_appended_self hne, not_retiredOnSpot_self]
  failure := fun _ => ⟨he, rfl⟩

theorem AllOrNothing.done {r : Int × QueueState} (hret : r.1 = 0)
    (h : Appended s r.2 objs ∨ RetiredOnSpot s r.2 objs) : AllOrNothing s objs r where
  success := by simp only [hret, h]
  failure := fun hne => absurd hret hne

/-- The timestamp check before the loop lets through what the check in the loop accepts. -/
theorem nextTimestamp_ok {flags queuedTs timestamp : BitVec 32}
    (h : ¬ (flags &&& GSL_CONTEXT_FLAG_CLIENT_GENERATED_TS ≠ 0#32 ∧ hgslTs32Ge queuedTs timestamp = true)) :
    ∃ ts, hgslDbNextTimestamp flags queuedTs timestamp = .ok ts := by
  unfold hgslDbNextTimestamp
  split
  · exact ⟨_, rfl⟩
  · split
    · next hclient => simp [show hgslTs32Ge queuedTs timestamp = false by simpa [hclient] using h]
    · exact ⟨_, rfl⟩

/-- What a submission with the lock held comes to: the timestamp check refuses all of it, or the loop
    stores the sync and timeline objects and reaches a command or marker, if there is one, whose
    timestamp the check has let through. -/
theorem queueLocked_split (htail : b.drawqTail < CONTEXT_DRAWQUEUE_SIZE) (hbuilt : Built b objs)
    (timestamp : BitVec 32) :
    b.queueLocked objs timestamp 0 = (-ERANGE, timestamp, b) ∨
      ∃ t timestamp' us cmds, objs = us ++ cmds ∧ us.length ≤ 2 ∧
        (∀ o ∈ us, (b.obj o).type = .sync ∨ (b.obj o).type = .timeline) ∧
        b.queueLocked objs timestamp 0 = queueLoop timestamp t timestamp' cmds ∧ Appended b t us ∧
        t.flags = b.flags ∧ t.queuedTs = b.queuedTs ∧ (∀ x, (t.obj x).type = (b.obj x).type) ∧
        (us = [] → t = b) ∧
        (cmds = [] ∨ ∃ c ts, cmds = [c] ∧ ((b.obj c).type = .cmd ∨ (b.obj c).type = .marker) ∧
          hgslDbNextTimestamp b.flags b.queuedTs timestamp = .ok ts) := by
  obtain ⟨syncs, timelines, cmds, hobjs, hne, hsyncs, hsync, htimelines, htimeline, hcmds, hcmd⟩ := hbuilt
  simp only [queueLocked, ne_eq, not_true_eq_false, if_false]
  split
  · exact .inl rfl
  · next hcheck =>
      have hus : ∀ o ∈ syncs ++ timelines, (b.obj o).type = .sync ∨ (b.obj o).type = .timeline := by
        intro o ho
        rcases List.mem_append.1 ho with ho | ho
        · exact .inl (hsync o ho)
        · exact .inr (htimeline o ho)
      have husLen : (syncs ++ timelines).length ≤ 2 := by
        rw [List.length_append]
        omega
      obtain ⟨t, timestamp', hloop, happ, hflags, hts, htype, hsame⟩ :=
        queueLoop_unstamped timestamp cmds hus (Appended.nil htail)
          (by simp only [List.length_nil, CONTEXT_DRAWQUEUE_SIZE]; omega) timestamp
      rw [List.nil_append] at happ
      refine .inr ⟨t, timestamp', syncs ++ timelines, cmds, hobjs, husLen, hus, by rw [← hloop, hobjs],
        happ, hflags, hts, htype, hsame, ?_⟩
      match cmds, hcmds with
      | [], _ => exact .inl rfl
      | [c], _ =>
          have hc := hcmd c (List.mem_singleton_self c)
          -- with a command or marker in it the list is not a lone sync object
          have hnotLone : ¬ (objs.length = 1 ∧
              (objs.head?.map fun o => (b.obj o).type) = some .sync) := by
            rintro ⟨hone, hhead⟩
            have hnil : syncs ++ timelines = [] := by
              rw [hobjs, List.length_append, List.length_singleton] at hone
              exact List.length_eq_zero_iff.1 (by omega)
            rw [hobjs, hnil] at hhead
            rcases hc with hc | hc <;> simp [hc] at hhead
          obtain ⟨ts, hok⟩ := nextTimestamp_ok fun hbad => hcheck ⟨hnotLone, hbad⟩
          exact .inr ⟨c, ts, rfl, hc, hok⟩

/-- With the lock held and room found or given up on, all objects go in or none does. -/
theorem allOrNothing_locked (hcounted : Counted b) (hbuilt : Built b objs) (timestamp : BitVec 32) :
    AllOrNothing b objs ((b.queueLocked objs timestamp 0).1, (b.queueLocked objs timestamp 0).2.2) := by
  have hne : objs ≠ [] := List.length_pos_iff.1 hbuilt.length.1
  rcases queueLocked_split hcounted.tail_lt hbuilt timestamp with hlocked | ⟨t, timestamp', us, cmds,
    hobjs, husLen, -, hlocked, happ, hflags, hts, htype, hsame, hcmds⟩
  · rw [hlocked]
    exact .refused hne (by simp [ERANGE])
  · rw [hlocked]
    rcases hcmds with rfl | ⟨c, ts, rfl, hc, hok⟩
    · rw [hobjs, List.append_nil]
      exact .done rfl (.inl happ)
    · rw [← hflags, ← hts] at hok
      obtain ⟨hret, hlast⟩ := queueLoop_last (by rwa [htype c]) hok happ
        (by simp only [CONTEXT_DRAWQUEUE_SIZE]; omega) timestamp'
      refine .done hret ?_
      rw [hobjs]
      rcases hlast with hlast | ⟨hqueued, hretired⟩
      · exact .inl hlast
      · -- the queue is empty only if nothing was appended before the marker
        have hnonneg := hcounted.queued_nonneg
        have hsum := happ.queued
        have hnil : us = [] := List.length_eq_zero_iff.1 (by omega)
        obtain rfl := hsame hnil
        rw [hnil, List.nil_append]
        exact .inr hretired

/-- **Main result.** In every reachable state, for every submission that the ioctls build, every
    timestamp and every way the wait for room can end, `hgsl_dispatch_queue_cmds` takes all objects and
    returns 0, or leaves everything alone and returns a negative error, exactly if it does not have to
    wait until it is woken because there is room. -/
theorem allOrNothing_iff (flags : BitVec 32) (shadowTs : Option ShadowTs) (as : List QueueAct)
    (s s' b : QueueState) (objs : List Nat) (timestamp : BitVec 32) (w : RoomWait)
    (hb : b = if s.sleepsFor objs then s' else s)
    (hrun : Trace.exec step (.fresh flags shadowTs) as = some b) (hbuilt : Built b objs) :
    AllOrNothing b objs (s.hgslDispatchQueueCmds s' objs timestamp w) ↔
      ¬ (s.sleepsFor objs = true ∧ ∃ left, w = .woken left) := by
  have hcounted := Counted.run hrun
  by_cases hsleeps : s.sleepsFor objs = true
  · obtain rfl : b = s' := by rw [hb, if_pos hsleeps]
    have hne : objs ≠ [] := List.length_pos_iff.1 hbuilt.length.1
    rw [hgslDispatchQueueCmds_sleeps hsleeps]
    cases w with
    | woken left =>
        -- what the wait returns is passed on, and nothing is appended
        have hret : (RoomWait.woken left).ret ≠ 0 := by
          simp only [RoomWait.ret]
          omega
        simp only [queueLocked, if_pos hret, hsleeps, true_and]
        refine iff_of_false ?_ (not_not.2 ⟨left, rfl⟩)
        intro h
        have hneg := (h.failure hret).1
        simp only [RoomWait.ret] at hneg
        omega
    | timedOut =>
        simp only [RoomWait.ret, hsleeps, true_and]
        exact iff_of_true (allOrNothing_locked hcounted hbuilt timestamp) nofun
    | interrupted =>
        have hret : RoomWait.interrupted.ret ≠ 0 := by decide
        simp only [queueLocked, if_pos hret, hsleeps, true_and]
        have hneg : RoomWait.interrupted.ret < 0 := by decide
        exact iff_of_true (.refused hne hneg) nofun
  · obtain rfl : b = s := by rw [hb, if_neg hsleeps]
    refine iff_of_true ?_ (fun h => hsleeps h.1)
    rcases hgslDispatchQueueCmds_awake s' hbuilt hsleeps timestamp w
      with hcall | hcall
    · rw [hcall]
      exact .refused (List.length_pos_iff.1 hbuilt.length.1) (by decide)
    · rw [hcall]
      exact allOrNothing_locked hcounted hbuilt timestamp

/-- 126 sync objects are queued, the first one without a pending point. -/
def fullQueue : List QueueAct :=
  [.queueCmds ({ type := .sync } :: List.replicate 125 pendingSync) 0#32]

/-- A sync object, a timeline object and a command, for which there is no room -/
def sleepingSubmission : QueueAct := .queueCmds [pendingSync, { type := .timeline }, { type := .cmd }] 0#32

/-- The submission sleeps. When its wait times out, all three objects are taken; when a signal interrupts it,
    none is. -/
theorem allOrNothing_iff_asleep :
    ∃ s ∈ Trace.exec step (.fresh GSL_CONTEXT_FLAG_USER_GENERATED_TS none) fullQueue,
      ∃ b ∈ s.step sleepingSubmission, s.sleepsFor [126, 127, 128] = true ∧
        ((s.hgslDispatchQueueCmds b [126, 127, 128] 0#32 .timedOut).1 = 0 ∧
          AllOrNothing b [126, 127, 128] (s.hgslDispatchQueueCmds b [126, 127, 128] 0#32 .timedOut)) ∧
        (s.hgslDispatchQueueCmds b [126, 127, 128] 0#32 .interrupted).1 = -ERESTARTSYS ∧
          AllOrNothing b [126, 127, 128] (s.hgslDispatchQueueCmds b [126, 127, 128] 0#32 .interrupted) := by
  have hrun : ∃ s ∈ Trace.exec step (.fresh GSL_CONTEXT_FLAG_USER_GENERATED_TS none) fullQueue,
      ∃ b ∈ s.step sleepingSubmission, s.sleepsFor [126, 127, 128] = true ∧
        ((b.obj 126).type = .sync ∧ (b.obj 127).type = .timeline ∧ (b.obj 128).type = .cmd) ∧
        (s.hgslDispatchQueueCmds b [126, 127, 128] 0#32 .timedOut).1 = 0 ∧
        (s.hgslDispatchQueueCmds b [126, 127, 128] 0#32 .interrupted).1 = -ERESTARTSYS := by
    decide +kernel
  obtain ⟨s, hs, b, hb, hsleeps, ⟨hsync, htimeline, hcmd⟩, htimedOut, hinterrupted⟩ := hrun
  have hexec : Trace.exec step (.fresh GSL_CONTEXT_FLAG_USER_GENERATED_TS none)
      (fullQueue ++ [sleepingSubmission]) = some b := by
    rw [Trace.exec_append, hs, Option.bind_some, Trace.exec_cons_eq_some]
    exact ⟨b, hb, rfl⟩
  have hbuilt : Built b [126, 127, 128] :=
    ⟨[126], [127], [128], rfl, by simp, by simp, by simpa using hsync, by simp, by simpa using htimeline,
      by simp, by simpa using .inl hcmd⟩
  have hb' : b = if s.sleepsFor [126, 127, 128] then b else s := (if_pos hsleeps).symm
  refine ⟨s, hs, b, hb, hsleeps, ⟨htimedOut, ?_⟩, hinterrupted, ?_⟩
  · exact (allOrNothing_iff _ none _ s b b _ 0#32 .timedOut hb' hexec hbuilt).2 (by simp)
  · exact (allOrNothing_iff _ none _ s b b _ 0#32 .interrupted hb' hexec hbuilt).2 (by simp)

/-- A submission of one more sleeps; the dispatcher takes the first object out, and it is woken. -/
def roomRun : List QueueAct :=
  [.queueCmds [pendingSync] 0#32, .passStart, .passScan, .passScan, .wakeRoom 0 4]

/-- The sleeper is woken because there is room for its object, with five jiffies left. The call returns
    5, and the object is not in the queue. -/
theorem woken_with_room_not_appended :
    ∃ s ∈ Trace.exec step (.fresh GSL_CONTEXT_FLAG_USER_GENERATED_TS none) fullQueue,
      ∃ b ∈ Trace.exec step s roomRun,
        s.sleepsFor [126] = true ∧ b.checkContextQueue 1 = true ∧ Built b [126] ∧
          (s.hgslDispatchQueueCmds b [126] 0#32 (.woken 4)).1 = 5 ∧
          ¬ AllOrNothing b [126] (s.hgslDispatchQueueCmds b [126] 0#32 (.woken 4)) := by
  have hrun : ∃ s ∈ Trace.exec step (.fresh GSL_CONTEXT_FLAG_USER_GENERATED_TS none) fullQueue,
      ∃ b ∈ Trace.exec step s roomRun, s.sleepsFor [126] = true ∧ b.checkContextQueue 1 = true ∧
        (b.obj 126).type = .sync ∧ (s.hgslDispatchQueueCmds b [126] 0#32 (.woken 4)).1 = 5 := by
    decide +kernel
  obtain ⟨s, hs, b, hb, hsleeps, hroom, htype, hret⟩ := hrun
  refine ⟨s, hs, b, hb, hsleeps, hroom, ?_, hret, ?_⟩
  · exact ⟨[126], [], [], rfl, by simp, by simp, by simpa using htype, by simp, nofun, by simp, nofun⟩
  · intro h
    have hneg := (h.failure (by omega)).1
    omega

/-! ## The call in a run -/

/-- A step that submits without sleeping is such a call, on objects at fresh addresses. -/
theorem submit_eq_call (s s' : QueueState) (ds : List Drawobj) (timestamp : BitVec 32) (w : RoomWait)
    (h : ¬ (s.alloc ds).2.sleepsFor (s.alloc ds).1 = true) :
    s.submit ds timestamp =
      ((s.alloc ds).2.hgslDispatchQueueCmds s' (s.alloc ds).1 timestamp w).2 := by
  unfold submit
  dsimp only
  generalize s.alloc ds = r at h ⊢
  rw [sleepsFor_eq_isNone timestamp] at h
  unfold hgslDispatchQueueCmds
  generalize r.2.queueCmds r.1 timestamp = c at h ⊢
  obtain ⟨ret, ts, t⟩ := c
  cases ret with
  | none => simp at h
  | some ret => rfl

/-- A sleeper that has its lock back finishes its call. -/
theorem relock_eq_call {s₀ s t : QueueState} {k : Nat} {sl : Sleeper} {w : RoomWait}
    (h : s.relock k = some t) (hsl : s.sleepers[k]? = some sl) (hwake : sl.wake = some w.ret)
    (hsleeps : s₀.sleepsFor sl.objs = true) :
    t = (s₀.hgslDispatchQueueCmds { s with sleepers := s.sleepers.eraseIdx k } sl.objs sl.timestamp w).2 := by
  rw [hgslDispatchQueueCmds_sleeps hsleeps]
  simp only [relock, hsl, hwake] at h
  split at h
  · exact (Option.some.inj h).symm
  · cases h

end Call

end QueueState

end Hgsl
