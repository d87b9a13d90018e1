import Hgsl.DrawQueue.Ownership
import Hgsl.Lib.Fifo

set_option autoImplicit false

/-! # The ring and the dispatcher as a list queue

Ring plus dispatcher refine `Fifo.Queue`: what the dispatcher holds while it sends is the hand of the
queue, a put-back gives it back to the front, and every object leaves in the order of acceptance. -/

namespace Hgsl

namespace QueueState

variable {s s' : QueueState} {q : Fifo.Queue Nat}

/-- `q` is the abstract queue of `s`; no sync object left while a point of it was pending. -/
structure Sim (s : QueueState) (q : Fifo.Queue Nat) : Prop where
  accepted : q.accepted = s.appended
  done : q.done = s.left.map Prod.fst
  hand : q.hand = s.dispatcher.inHand
  waiting : q.waiting = s.fifo
  known : ∀ x ∈ q.done ++ q.hand, x < s.nextObj
  hand_type : ∀ x ∈ q.hand, (s.obj x).type ≠ .sync
  done_expired : ∀ x ∈ q.done, (s.obj x).type = .sync → (s.obj x).pending = 0#32

/-- A step that moves no object, keeps types and at most clears pending bits. -/
theorem Sim.retouch (h : Sim s q) (hnext : s.nextObj ≤ s'.nextObj)
    (htype : ∀ x < s.nextObj, (s'.obj x).type = (s.obj x).type)
    (hpending : ∀ x < s.nextObj, (s.obj x).pending = 0#32 → (s'.obj x).pending = 0#32)
    (happ : s'.appended = s.appended) (hleft : s'.left = s.left)
    (hhand : s'.dispatcher.inHand = s.dispatcher.inHand) (hfifo : s'.fifo = s.fifo) : Sim s' q where
  accepted := by rw [happ, h.accepted]
  done := by rw [hleft, h.done]
  hand := by rw [hhand, h.hand]
  waiting := by rw [hfifo, h.waiting]
  known x hx := Nat.lt_of_lt_of_le (h.known x hx) hnext
  hand_type x hx := by
    rw [htype x (h.known x (List.mem_append_right _ hx))]
    exact h.hand_type x hx
  done_expired x hx hsync := by
    have hlt := h.known x (List.mem_append_left _ hx)
    rw [htype x hlt] at hsync
    exact hpending x hlt (h.done_expired x hx hsync)

/-! ## The operations of the queue -/

theorem Sim.append (h : Sim s q) (o : Nat) : Sim (s.queueDrawobj o) (q.append o) where
  accepted := by simp only [Fifo.Queue.append, queueDrawobj, h.accepted]
  done := h.done
  hand := h.hand
  waiting := by simp only [Fifo.Queue.append, queueDrawobj, h.waiting]
  known := h.known
  hand_type := h.hand_type
  done_expired := h.done_expired

theorem Sim.take {o : Nat} {rest : List Nat} (h : Sim s q) (hhand : q.hand = [])
    (hwaiting : q.waiting = o :: rest) (ho : o < s.nextObj) (htype : (s.obj o).type ≠ .sync) :
    Sim { s.popDrawobj with dispatcher := .sending o } (q.take o rest hhand hwaiting) where
  accepted := h.accepted
  done := h.done
  hand := rfl
  waiting := by simp only [Fifo.Queue.take, popDrawobj, ← h.waiting, hwaiting, List.tail_cons]
  known x hx := by
    rcases List.mem_append.1 hx with hdone | hnew
    · exact h.known x (List.mem_append_left _ hdone)
    · rw [List.mem_singleton.1 hnew]
      exact ho
  hand_type x hx := by
    rw [List.mem_singleton.1 hx]
    exact htype
  done_expired := h.done_expired

theorem Sim.drop {o : Nat} {rest : List Nat} (h : Sim s q) (hhand : q.hand = [])
    (hwaiting : q.waiting = o :: rest) (ho : o < s.nextObj)
    (hexpired : (s.obj o).type = .sync → (s.obj o).pending = 0#32) (d : Departure) (i : Nat)
    (ret : Int) :
    Sim { s.popDrawobj.depart o d with dispatcher := .scanning i ret }
      (q.take o rest hhand hwaiting).finish where
  accepted := h.accepted
  done := by
    simp only [Fifo.Queue.finish, Fifo.Queue.take, depart, popDrawobj, h.done, List.map_append,
      List.map_cons, List.map_nil]
  hand := rfl
  waiting := by
    simp only [Fifo.Queue.finish, Fifo.Queue.take, depart, popDrawobj, ← h.waiting, hwaiting,
      List.tail_cons]
  known x hx := by
    simp only [Fifo.Queue.finish, Fifo.Queue.take, List.append_nil] at hx
    rcases List.mem_append.1 hx with hdone | hnew
    · exact h.known x (List.mem_append_left _ hdone)
    · rw [List.mem_singleton.1 hnew]
      exact ho
  hand_type := nofun
  done_expired x hx := by
    rcases List.mem_append.1 hx with hdone | hnew
    · exact h.done_expired x hdone
    · rw [List.mem_singleton.1 hnew]
      exact hexpired

theorem Sim.finish {o : Nat} (h : Sim s q) (hsend : s.dispatcher = .sending o) (d : Departure)
    (gpu : List Nat) :
    Sim ({ s with dispatcher := .idle, gpu := gpu }.depart o d) q.finish := by
  have hhand : q.hand = [o] := by rw [h.hand, hsend, Dispatcher.inHand]
  refine ⟨h.accepted, ?_, rfl, h.waiting, ?_, (by intros; contradiction), ?_⟩
  · simp only [Fifo.Queue.finish, depart, h.done, hhand, List.map_append, List.map_cons,
      List.map_nil]
  · intro x hx
    simp only [Fifo.Queue.finish, List.append_nil] at hx
    exact h.known x hx
  · intro x hx hsync
    rcases List.mem_append.1 hx with hdone | hnew
    · exact h.done_expired x hdone hsync
    · exact absurd hsync (h.hand_type x hnew)

theorem Sim.putBack {o : Nat} (h : Sim s q) (hsend : s.dispatcher = .sending o) :
    Sim ({ s with dispatcher := .idle }.requeueDrawobj o) q.putBack := by
  have hhand : q.hand = [o] := by rw [h.hand, hsend, Dispatcher.inHand]
  refine ⟨h.accepted, h.done, rfl, ?_, ?_, (by intros; contradiction), h.done_expired⟩
  · simp only [Fifo.Queue.putBack, requeueDrawobj, hhand, h.waiting, List.singleton_append]
  · intro x hx
    simp only [Fifo.Queue.putBack, List.append_nil] at hx
    exact h.known x (List.mem_append_left _ hx)

/-! ## Steps -/

/-- Everything that holds of a state next to its abstract queue. -/
structure Refines (s : QueueState) (q : Fifo.Queue Nat) : Prop where
  ring : RingInv s
  owned : Owned s
  sim : Sim s q

/-- The loop of a submission is a number of appends. -/
theorem Refines.queueLoop {objs : List Nat} (userTs timestamp : BitVec 32) (hring : RingRoom s objs)
    (hown : OwnedBy s objs) (hsim : Sim s q) :
    ∃ q', Fifo.Steps q q' ∧ Refines (QueueState.queueLoop userTs s timestamp objs).2.2 q' := by
  have hloop := queueLoop_rule
    (P := fun t os => RingRoom t os ∧ OwnedBy t os ∧ ∃ q', Fifo.Steps q q' ∧ Sim t q')
    userTs timestamp ?_ ⟨hring, hown, q, .refl, hsim⟩
  · obtain ⟨os, hring', hown', q', hsteps, hsim'⟩ := hloop
    exact ⟨q', hsteps, hring'.1, hown'.1, hsim'⟩
  · intro t ts o os ⟨hring, hown, q', hsteps, hsim⟩
    refine ⟨hring.queueOne t userTs ts o os, hown.queueOne t userTs ts o os, ?_⟩
    have hcases := queueOne_cases t o ts userTs
    generalize QueueState.queueOne userTs t ts o = r at hcases
    cases hcases with
    | refused ts hts => exact ⟨q', hsteps, hsim⟩
    | ignored ts htype => exact ⟨q', hsteps, hsim⟩
    | unstamped ts htype =>
        have hobj : Stamps t.obj (t.setTimestamp o 0#32).obj o 0#32 := Stamps.of_update rfl rfl rfl
        have hset : Sim (t.setTimestamp o 0#32) q' :=
          hsim.retouch (Nat.le_refl _) (fun x _ => hobj.type x)
            (fun x _ h => (hobj.pending x).trans h) rfl rfl rfl rfl
        exact ⟨_, hsteps.tail (.append q' o), hset.append o⟩
    | stamped ts obj' htype hts hobj hmarker =>
        have hset : Sim { t with obj := obj', queuedTs := ts, stamped := t.stamped ++ [o] } q' :=
          hsim.retouch (Nat.le_refl _) (fun x _ => hobj.type x)
            (fun x _ h => (hobj.pending x).trans h) rfl rfl rfl rfl
        exact ⟨_, hsteps.tail (.append q' o), hset.append o⟩
    | retired ts htype hts hqueued hexpired =>
        have hobj : Stamps t.obj (t.setTimestamp o ts).obj o ts := Stamps.of_update rfl rfl rfl
        exact ⟨q', hsteps, hsim.retouch (Nat.le_refl _) (fun x _ => hobj.type x)
          (fun x _ h => (hobj.pending x).trans h) rfl rfl rfl rfl⟩

theorem Refines.submit (h : Refines s q) (ds : List Drawobj) (timestamp : BitVec 32) :
    ∃ q', Fifo.Steps q q' ∧ Sim (s.submit ds timestamp) q' := by
  obtain ⟨obj', hold, hcases⟩ := submit_cases s ds timestamp
  have hring : RingInv { s with obj := obj', nextObj := s.nextObj + ds.length } :=
    h.ring.retouch (Nat.le_add_right _ _) fun x hx => congrArg Drawobj.type (hold x hx)
  have hsim : Sim { s with obj := obj', nextObj := s.nextObj + ds.length } q :=
    h.sim.retouch (Nat.le_add_right _ _) (fun x hx => congrArg Drawobj.type (hold x hx))
      (fun x hx h => (congrArg Drawobj.pending (hold x hx)).trans h) rfl rfl rfl rfl
  rcases hcases with heq | ⟨-, heq⟩ | ⟨hlen, -, hsleep, heq⟩
  · rw [heq]
    exact ⟨q, .refl, hsim⟩
  · rw [heq]
    exact ⟨q, .refl, hsim.retouch (Nat.le_refl _) (fun _ _ => rfl) (fun _ _ => id) rfl rfl rfl rfl⟩
  · rw [heq]
    have hfits := h.ring.fits hlen hsleep
    obtain ⟨q', hsteps, href⟩ := Refines.queueLoop timestamp timestamp
      ⟨hring, by rwa [List.length_range'], fun o ho => (List.mem_range'_1.1 ho).2⟩
      (h.owned.alloc obj' ds.length) hsim
    exact ⟨q', hsteps, href.sim⟩

theorem Refines.relock (h : Refines s q) {k : Nat}
    (hroom : s.appendsWithoutRoom (.relock k) = false) (hstep : s.relock k = some s') :
    ∃ q', Fifo.Steps q q' ∧ Sim s' q' := by
  obtain ⟨sl, ret, hsl, hret, -, hs'⟩ := relock_cases hstep
  have hring : RingInv { s with sleepers := s.sleepers.eraseIdx k } :=
    { h.ring with
      sleepable := fun sl' hmem => h.ring.sleepable sl' (List.mem_of_mem_eraseIdx hmem) }
  have hsim : Sim { s with sleepers := s.sleepers.eraseIdx k } q :=
    h.sim.retouch (Nat.le_refl _) (fun _ _ => rfl) (fun _ _ => id) rfl rfl rfl rfl
  obtain ⟨hlen, hknown⟩ := h.ring.sleepable sl (List.mem_of_getElem? hsl)
  rcases hs' with rfl | ⟨rfl, rfl⟩
  · exact ⟨q, .refl, hsim⟩
  · have hfits : s.fifo.length + sl.objs.length < contextDrawqueueSize := by
      refine h.ring.fits hlen ?_
      simpa [appendsWithoutRoom, hsl, hret] using hroom
    obtain ⟨q', hsteps, href⟩ := Refines.queueLoop sl.timestamp sl.timestamp
      ⟨hring, hfits, hknown⟩ (h.owned.unsleep hsl) hsim
    exact ⟨q', hsteps, href.sim⟩

/-- The dispatcher takes the head out: it drops it, or it holds it to send it. -/
theorem Refines.scan {i : Nat} {ret : Int} (h : Refines s q)
    (hscan : s.dispatcher = .scanning i ret) :
    ∃ q', Fifo.Steps q q' ∧ Sim (s.scan i ret) q' := by
  obtain rfl := h.ring.scan_head i ret hscan
  have hhand : q.hand = [] := by
    rw [h.sim.hand, hscan]
    rfl
  have hhead : ∀ {o}, s.drawqHead ≠ s.drawqTail → s.drawq s.drawqHead = some o →
      (∃ rest, q.waiting = o :: rest) ∧ s.Storable o := by
    intro o hne ho
    obtain ⟨o', rest, hfifo, ho'⟩ := h.ring.head_slot hne
    obtain rfl := Option.some.inj (ho.symm.trans ho')
    refine ⟨⟨rest, h.sim.waiting.trans hfifo⟩, h.ring.storable o ?_⟩
    rw [hfifo]
    exact List.mem_append_right _ List.mem_cons_self
  have hcases := scan_cases s s.drawqHead ret
  generalize s.scan s.drawqHead ret = s' at hcases
  cases hcases with
  | stop =>
      refine ⟨q, .refl, h.sim.retouch (Nat.le_refl _) (fun _ _ => rfl) (fun _ _ => id) rfl rfl ?_ rfl⟩
      rw [hscan]
      rfl
  | skipped o hi ho htype => exact absurd htype (hhead hi ho).2.2
  | dropped o d hi ho htype =>
      obtain ⟨⟨rest, hwaiting⟩, hlt, -⟩ := hhead hi ho
      refine ⟨_, Fifo.Steps.drop .refl o rest hhand hwaiting, h.sim.drop hhand hwaiting hlt ?_ d _ 0⟩
      intro hsync
      rcases htype with ⟨-, hpending⟩ | htimeline
      · exact hpending
      · rw [hsync] at htimeline
        cases htimeline
  | expired o hi ho htype hexpired =>
      obtain ⟨⟨rest, hwaiting⟩, hlt, -⟩ := hhead hi ho
      have hdrop := h.sim.drop hhand hwaiting hlt
        (fun hsync => by rw [htype] at hsync; cases hsync) .retired (drawqueueNext s.drawqHead) 0
      have hobj : Stamps s.obj (Function.update s.obj o { s.obj o with markerExpired := true }) o
        (s.obj o).timestamp := Stamps.of_update rfl rfl rfl
      exact ⟨_, Fifo.Steps.drop .refl o rest hhand hwaiting,
        hdrop.retouch (Nat.le_refl _) (fun x _ => hobj.type x)
          (fun x _ h => (hobj.pending x).trans h) rfl rfl rfl rfl⟩
  | found o hi ho htype =>
      obtain ⟨⟨rest, hwaiting⟩, hlt, -⟩ := hhead hi ho
      refine ⟨_, .tail .refl (.take q o rest hhand hwaiting), h.sim.take hhand hwaiting hlt ?_⟩
      rcases htype with h | h <;> simp [h]

/-- The step does not append without room and does not drain the queue. -/
def Lossless (s : QueueState) (a : QueueAct) : Prop :=
  s.appendsWithoutRoom a = false ∧ a ≠ .detachDrawobjs

instance (s : QueueState) (a : QueueAct) : Decidable (Lossless s a) := by
  unfold Lossless; infer_instance

theorem Lossless.ringSafe {a : QueueAct} (h : Lossless s a) : RingSafe s a := by
  refine ⟨h.1, ?_⟩
  cases a with
  | detachDrawobjs => exact absurd rfl h.2
  | _ => rfl

/-- **Step lemma.** Every step of the ring and the dispatcher is a number of steps of the queue. -/
theorem Refines.step {a : QueueAct} (h : Refines s q) (hok : Lossless s a)
    (hstep : s.step a = some s') : ∃ q', Fifo.Steps q q' ∧ Refines s' q' := by
  have hring := h.ring.step hok.1 hok.ringSafe.2 hstep
  have hown := h.owned.step hstep
  suffices hsim : ∃ q', Fifo.Steps q q' ∧ Sim s' q' by
    obtain ⟨q', hsteps, hsim⟩ := hsim
    exact ⟨q', hsteps, hring, hown, hsim⟩
  have hsame : ∀ {t : QueueState}, t.nextObj = s.nextObj → t.obj = s.obj →
      t.appended = s.appended → t.left = s.left → t.dispatcher.inHand = s.dispatcher.inHand →
      t.fifo = s.fifo → ∃ q', Fifo.Steps q q' ∧ Sim t q' := by
    intro t hnext hobj happ hleft hhand hfifo
    refine ⟨q, .refl, h.sim.retouch (Nat.le_of_eq hnext.symm) ?_ ?_ happ hleft hhand hfifo⟩
    · exact fun x _ => by rw [hobj]
    · exact fun x _ hx => by rw [hobj, hx]
  have hwake : ∀ {k room ret}, s.wake k room ret = some s' → ∃ q', Fifo.Steps q q' ∧ Sim s' q' := by
    intro k room ret hstep
    obtain ⟨sl, -, -, rfl⟩ := wake_cases hstep
    exact hsame rfl rfl rfl rfl rfl rfl
  cases a with
  | queueCmds ds ts =>
      simp only [QueueState.step, Option.ite_none_right_eq_some] at hstep
      obtain ⟨-, hs'⟩ := hstep
      obtain rfl := Option.some.inj hs'
      exact h.submit ds ts
  | wakeRoom k left => exact hwake hstep
  | wakeTimeout k => exact hwake hstep
  | wakeInterrupted k => exact hwake hstep
  | relock k => exact h.relock hok.1 hstep
  | passStart =>
      simp only [QueueState.step] at hstep
      split at hstep
      · next hidle =>
          obtain rfl := Option.some.inj hstep
          refine hsame rfl rfl rfl rfl ?_ rfl
          rw [hidle]
          rfl
      · cases hstep
  | passScan =>
      simp only [QueueState.step] at hstep
      split at hstep
      · next i ret hscan =>
          obtain rfl := Option.some.inj hstep
          exact h.scan hscan
      · cases hstep
  | send r =>
      simp only [QueueState.step] at hstep
      split at hstep
      · next o hsend =>
          obtain rfl := Option.some.inj hstep
          unfold finishSend
          dsimp only
          split
          · exact ⟨_, .tail .refl (.finish q), h.sim.finish hsend .sent (s.gpu ++ [o])⟩
          · split
            · exact ⟨_, .tail .refl (.finish q), h.sim.finish hsend .destroyed s.gpu⟩
            · exact ⟨_, .tail .refl (.putBack q), h.sim.putBack hsend⟩
      · cases hstep
  | syncExpire o i =>
      obtain rfl := Option.some.inj hstep
      refine ⟨q, .refl, h.sim.retouch (Nat.le_refl _) ?_ ?_ rfl rfl rfl rfl⟩
      · intro x _
        by_cases hx : x = o
        · simp only [syncExpire, hx, Function.update_self]
        · simp only [syncExpire, Function.update_of_ne hx]
      · intro x _ hpending
        by_cases hx : x = o
        · simp only [syncExpire, ← hx, Function.update_self, hpending, BitVec.zero_and]
        · simpa only [syncExpire, Function.update_of_ne hx] using hpending
  | gpuRetire =>
      simp only [QueueState.step, QueueState.gpuRetire] at hstep
      split at hstep
      · cases hstep
      · obtain rfl := Option.some.inj hstep
        exact hsame rfl rfl rfl rfl rfl rfl
  | setInDestroy =>
      obtain rfl := Option.some.inj hstep
      exact hsame rfl rfl rfl rfl rfl rfl
  | detachDrawobjs => exact absurd rfl hok.2

/-! ## Whole runs -/

/-- A draw queue at rest whose `queued` is the occupancy of the ring. Its history starts with what is
    in the ring, named by `fifo`. -/
structure LosslessStart (s : QueueState) : Prop where
  idle : s.dispatcher = .idle
  head_lt : s.drawqHead < CONTEXT_DRAWQUEUE_SIZE
  tail_lt : s.drawqTail < CONTEXT_DRAWQUEUE_SIZE
  queued_eq : s.queued = Ring.used CONTEXT_DRAWQUEUE_SIZE s.drawqHead s.drawqTail
  slots : Ring.slice CONTEXT_DRAWQUEUE_SIZE s.drawq s.drawqHead
    (Ring.used CONTEXT_DRAWQUEUE_SIZE s.drawqHead s.drawqTail) = s.fifo.map some
  storable : ∀ o ∈ s.fifo, s.Storable o
  sleepable : ∀ sl ∈ s.sleepers, s.Sleepable sl.objs
  owned : Owned s
  appended_eq : s.appended = s.fifo
  left_eq : s.left = []
  not_overwrote : s.overwrote = false
  not_warned : s.warned = false

theorem LosslessStart.refines (h : LosslessStart s) : Refines s (.start s.fifo) := by
  have hlen : Ring.used CONTEXT_DRAWQUEUE_SIZE s.drawqHead s.drawqTail = s.fifo.length := by
    have := congrArg List.length h.slots
    rwa [Ring.length_slice, List.length_map] at this
  have hlt : Ring.used CONTEXT_DRAWQUEUE_SIZE s.drawqHead s.drawqTail < CONTEXT_DRAWQUEUE_SIZE :=
    Ring.used_lt size_pos _ _
  refine ⟨⟨h.head_lt, ?_, ?_, ?_, ?_, ?_, ?_, h.sleepable, h.not_overwrote, h.not_warned⟩,
    h.owned, ⟨h.appended_eq.symm, ?_, ?_, rfl, nofun, nofun, nofun⟩⟩
  · rw [← hlen, Ring.slot_used h.head_lt h.tail_lt]
  · rw [← hlen, h.queued_eq]
  · rw [h.idle, ← hlen]
    exact hlt
  · rw [← hlen]
    exact h.slots
  · rw [h.idle]
    exact h.storable
  · rw [h.idle]
    nofun
  · rw [h.left_eq]
    rfl
  · rw [h.idle]
    rfl

theorem used_fresh : Ring.used CONTEXT_DRAWQUEUE_SIZE 0 0 = 0 := by decide

theorem LosslessStart.fresh (flags : BitVec 32) (shadowTs : Option ShadowTs) :
    LosslessStart (.fresh flags shadowTs) where
  idle := rfl
  head_lt := size_pos
  tail_lt := size_pos
  queued_eq := congrArg Int.ofNat used_fresh.symm
  slots := congrArg (Ring.slice CONTEXT_DRAWQUEUE_SIZE (fun _ => none) 0) used_fresh
  storable := nofun
  sleepable := nofun
  owned := ⟨nofun, nofun, nofun, .nil, .nil, nofun, nofun⟩
  appended_eq := rfl
  left_eq := rfl
  not_overwrote := rfl
  not_warned := rfl

/-- What the refinement says about the ring and the dispatcher in a state. -/
structure LosslessFifo (s : QueueState) (q : Fifo.Queue Nat) : Prop where
  /-- the ring holds exactly the waiting objects -/
  ring : Ring.slice CONTEXT_DRAWQUEUE_SIZE s.drawq s.drawqHead
    (Ring.used CONTEXT_DRAWQUEUE_SIZE s.drawqHead s.drawqTail) = q.waiting.map some
  hand : q.hand = s.dispatcher.inHand
  /-- every object that left did so as one of sent, retired or destroyed -/
  done : q.done = s.left.map Prod.fst
  accepted : q.accepted = s.appended
  /-- no object is accepted twice, so by `q.conserved` none leaves twice -/
  once : q.accepted.Nodup
  /-- what the scan returns is at the head, and popping the head removes it -/
  found_head : ∀ i ret o s', s.dispatcher = .scanning i ret →
    s.processDrawqueue i ret = (.found o, s') →
    s'.drawq s'.drawqHead = some o ∧ q.waiting = o :: s'.popDrawobj.fifo
  /-- an object whose send fails is the first one again -/
  requeue_first : ∀ o r, s.dispatcher = .sending o → r.ret ≠ 0 → r.ret ≠ -ENOENT →
    (s.finishSend o r).drawq (s.finishSend o r).drawqHead = some o ∧
      (s.finishSend o r).fifo = o :: q.waiting
  /-- while an object is sent, no sync object accepted before it has a pending point -/
  sync_first : ∀ o, s.dispatcher = .sending o → ∀ x ∈ q.done, (s.obj x).type = .sync →
    (s.obj x).eventsPending = false

theorem Refines.losslessFifo (h : Refines s q) : LosslessFifo s q where
  ring := by
    rw [h.ring.tail_eq, Ring.used_slot h.ring.head_lt h.ring.fifo_lt, h.ring.slots, h.sim.waiting]
  hand := h.sim.hand
  done := h.sim.done
  accepted := h.sim.accepted
  once := by
    rw [h.sim.accepted]
    exact h.owned.appended_nodup
  found_head i ret o s' hscan hfound := by
    obtain rfl := h.ring.scan_head i ret hscan
    obtain ⟨rfl, hne, ho⟩ := processDrawqueue_found hfound
    obtain ⟨o', rest, hfifo, ho'⟩ := h.ring.head_slot hne
    obtain rfl := Option.some.inj (ho.symm.trans ho')
    refine ⟨ho, ?_⟩
    rw [h.sim.waiting, popDrawobj, hfifo, List.tail_cons]
  requeue_first o r hsend hret hnoent := by
    simp only [finishSend, if_neg hret, if_neg hnoent, requeueDrawobj, Function.update_self,
      h.sim.waiting, and_self]
  sync_first o hsend x hx hsync := by
    simp [Drawobj.eventsPending, h.sim.done_expired x hx hsync]

/-- **Main result.** From any draw queue at rest, and for any interleaving of appends with room,
    dispatcher passes and send results, ring plus dispatcher refine the list queue. -/
theorem drawq_refines_fifo (s₀ s : QueueState) (as : List QueueAct) (h₀ : LosslessStart s₀)
    (hrun : Trace.exec (Trace.guarded Lossless QueueState.step) s₀ as = some s) :
    ∃ q, Fifo.Steps (.start s₀.fifo) q ∧ LosslessFifo s q := by
  have hsim : ∀ (t : QueueState) (a : QueueAct) (t' : QueueState) (q : Fifo.Queue Nat),
      Refines t q → Trace.guarded Lossless QueueState.step t a = some t' →
      ∃ q', Fifo.Steps q q' ∧ Refines t' q' := by
    intro t a t' q ht hstep
    obtain ⟨hok, hstep'⟩ := Trace.guarded_eq_some.1 hstep
    exact ht.step hok hstep'
  obtain ⟨q, hsteps, href⟩ := Trace.exec_refines hsim h₀.refines hrun
  exact ⟨q, hsteps, href.losslessFifo⟩

/-- A sync object and a command are queued, the sync object expires, the command is put back once and
    sent at the second try. -/
def putBackRun : List QueueAct :=
  [.queueCmds [pendingSync, { type := .cmd }] 0#32, .syncExpire 0 0, .passStart, .passScan, .passScan,
    .send (.issued (-EAGAIN)), .passStart, .passScan, .send (.issued 0)]

theorem drawq_refines_fifo_putBackRun : ∃ s q,
    Trace.exec (Trace.guarded Lossless QueueState.step)
        (.fresh GSL_CONTEXT_FLAG_USER_GENERATED_TS none) putBackRun = some s ∧
      s.left = [(0, .retired), (1, .sent)] ∧ Fifo.Steps (.start []) q ∧ LosslessFifo s q := by
  have hleft : (Trace.exec (Trace.guarded Lossless QueueState.step)
      (.fresh GSL_CONTEXT_FLAG_USER_GENERATED_TS none) putBackRun).map (·.left) =
      some [(0, .retired), (1, .sent)] := by
    decide +kernel
  obtain ⟨s, hs, hleft'⟩ := Option.map_eq_some_iff.1 hleft
  obtain ⟨q, hsteps, hq⟩ := drawq_refines_fifo _ s putBackRun (.fresh _ _) hs
  exact ⟨s, q, hs, hleft', hsteps, hq⟩

end QueueState

end Hgsl
