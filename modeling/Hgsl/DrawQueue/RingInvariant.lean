import Hgsl.DrawQueue.Effects

set_option autoImplicit false

/-! # The ring invariant

`drawq` from `drawq_head` on is exactly what was stored and not taken out, `queued` counts it, and one
slot more than the reserve for a put-back stays free. Every writer of the ring keeps this as long as
no timed-out submitter appends without room and no drain leaves `queued` behind. -/

namespace Hgsl

/-- The object the dispatch worker has popped and may put back. -/
def Dispatcher.inHand : Dispatcher → List Nat
  | .sending o => [o]
  | _ => []

@[simp] theorem Dispatcher.inHand_idle : inHand .idle = [] := rfl

@[simp] theorem Dispatcher.inHand_scanning (i : Nat) (ret : Int) : inHand (.scanning i ret) = [] :=
  rfl

@[simp] theorem Dispatcher.inHand_sending (o : Nat) : inHand (.sending o) = [o] := rfl

theorem Dispatcher.length_inHand_le (d : Dispatcher) : d.inHand.length ≤ 1 := by
  cases d <;> simp [inHand]

namespace QueueState

/-- An object as the ring holds them: at an address in use, and not a bind object. -/
def Storable (s : QueueState) (o : Nat) : Prop := o < s.nextObj ∧ (s.obj o).type ≠ .bind

/-- The objects of a sleeping submission fit into an empty ring and are at addresses in use. -/
def Sleepable (s : QueueState) (objs : List Nat) : Prop :=
  objs.length < contextDrawqueueSize ∧ ∀ o ∈ objs, o < s.nextObj

/-- The ring holds `fifo`, and has room for what the dispatcher may put back. A scan in progress
    stands at the head: everything before the object it looks at has been popped. -/
structure RingInv (s : QueueState) : Prop where
  head_lt : s.drawqHead < CONTEXT_DRAWQUEUE_SIZE
  tail_eq : s.drawqTail = Ring.slot CONTEXT_DRAWQUEUE_SIZE s.drawqHead s.fifo.length
  queued_eq : s.queued = s.fifo.length
  room : s.fifo.length + s.dispatcher.inHand.length < CONTEXT_DRAWQUEUE_SIZE
  slots : Ring.slice CONTEXT_DRAWQUEUE_SIZE s.drawq s.drawqHead s.fifo.length = s.fifo.map some
  storable : ∀ o ∈ s.dispatcher.inHand ++ s.fifo, s.Storable o
  scan_head : ∀ i ret, s.dispatcher = .scanning i ret → i = s.drawqHead
  sleepable : ∀ sl ∈ s.sleepers, s.Sleepable sl.objs
  not_overwrote : s.overwrote = false
  not_warned : s.warned = false

namespace RingInv

variable {s : QueueState}

theorem fifo_lt (h : RingInv s) : s.fifo.length < CONTEXT_DRAWQUEUE_SIZE :=
  Nat.lt_of_le_of_lt (Nat.le_add_right _ _) h.room

theorem tail_lt (h : RingInv s) : s.drawqTail < CONTEXT_DRAWQUEUE_SIZE := by
  rw [h.tail_eq]
  exact Ring.slot_lt size_pos _ _

/-- `queued` is the distance from head to tail. -/
theorem queued_eq_used (h : RingInv s) :
    s.queued = Ring.used CONTEXT_DRAWQUEUE_SIZE s.drawqHead s.drawqTail := by
  rw [h.queued_eq, h.tail_eq, Ring.used_slot h.head_lt h.fifo_lt]

theorem queuedPlus_eq (h : RingInv s) {count : Nat} (hcount : count < contextDrawqueueSize) :
    s.queuedPlus count = s.fifo.length + count := by
  have hlt := h.fifo_lt
  unfold queuedPlus
  rw [h.queued_eq]
  unfold contextDrawqueueSize CONTEXT_DRAWQUEUE_SIZE at *
  omega

/-- Who does not have to sleep has room, with one slot to spare. -/
theorem fits (h : RingInv s) {count : Nat} (hcount : count < contextDrawqueueSize)
    (hsleep : s.mustSleep count = false) : s.fifo.length + count < contextDrawqueueSize := by
  unfold mustSleep at hsleep
  rw [h.queuedPlus_eq hcount, decide_eq_false_iff_not] at hsleep
  unfold contextDrawqueueSize CONTEXT_DRAWQUEUE_SIZE at *
  omega

theorem head_slot (h : RingInv s) (hne : s.drawqHead ≠ s.drawqTail) :
    ∃ o rest, s.fifo = o :: rest ∧ s.drawq s.drawqHead = some o := by
  have hslots := h.slots
  cases hfifo : s.fifo with
  | nil =>
      refine absurd ?_ hne
      rw [h.tail_eq, hfifo, List.length_nil, Ring.slot_zero h.head_lt]
  | cons o rest =>
      rw [hfifo, List.length_cons, Ring.slice_cons _ h.head_lt, List.map_cons] at hslots
      exact ⟨o, rest, rfl, (List.cons.inj hslots).1⟩

theorem head_ne_tail (h : RingInv s) {o : Nat} {rest : List Nat} (hfifo : s.fifo = o :: rest) :
    s.drawqHead ≠ s.drawqTail := by
  intro heq
  have hused := h.queued_eq_used
  rw [h.queued_eq, (Ring.used_eq_zero h.head_lt h.tail_lt).2 heq, hfifo, List.length_cons] at hused
  omega

/-- The slot at the tail is free. -/
theorem tail_free (h : RingInv s) : s.slotHeld s.drawqTail = false := by
  unfold slotHeld
  rw [List.any_eq_false]
  intro k hk heq
  have hlt := h.fifo_lt
  have hk' := List.mem_range.1 hk
  rw [h.tail_eq] at heq
  exact absurd (Ring.slot_inj (by omega) hlt (of_decide_eq_true heq)) (by omega)

/-- New objects at new addresses, and changes to old ones that keep the type, are harmless. -/
theorem retouch (h : RingInv s) {obj' : Nat → Drawobj} {n : Nat} (hn : s.nextObj ≤ n)
    (htype : ∀ x < s.nextObj, (obj' x).type = (s.obj x).type) :
    RingInv { s with obj := obj', nextObj := n } :=
  { h with
    storable := by
      intro o ho
      obtain ⟨hlt, hbind⟩ := h.storable o ho
      exact ⟨Nat.lt_of_lt_of_le hlt hn, by rwa [htype o hlt]⟩
    sleepable := by
      intro sl hsl
      obtain ⟨hlen, hlt⟩ := h.sleepable sl hsl
      exact ⟨hlen, fun o ho => Nat.lt_of_lt_of_le (hlt o ho) hn⟩ }

/-! ## The four ring operations -/

/-- `_queue_drawobj` -/
theorem push (h : RingInv s) {o : Nat} (ho : s.Storable o)
    (hroom : s.fifo.length + 1 + s.dispatcher.inHand.length < CONTEXT_DRAWQUEUE_SIZE) :
    RingInv (s.queueDrawobj o) where
  head_lt := h.head_lt
  tail_eq := by
    simp only [queueDrawobj, List.length_append, List.length_singleton]
    rw [h.tail_eq, ← Ring.slot_slot]
    rfl
  queued_eq := by
    simp only [queueDrawobj, List.length_append, List.length_singleton, h.queued_eq]
    omega
  room := by
    simpa only [queueDrawobj, List.length_append, List.length_singleton] using hroom
  slots := by
    simp only [queueDrawobj, List.length_append, List.length_singleton, List.map_append,
      List.map_cons, List.map_nil]
    rw [h.tail_eq, Ring.slice_push _ _ h.fifo_lt, h.slots]
  storable := by
    intro x hx
    simp only [queueDrawobj, ← List.append_assoc] at hx
    rcases List.mem_append.1 hx with hold | hnew
    · exact h.storable x hold
    · rw [List.mem_singleton.1 hnew]
      exact ho
  scan_head := h.scan_head
  sleepable := h.sleepable
  not_overwrote := by simp only [queueDrawobj, h.not_overwrote, h.tail_free, Bool.or_false]
  not_warned := h.not_warned

/-- `_pop_drawobj`, with the object popped handed to the dispatcher or not. -/
theorem pop (h : RingInv s) {o : Nat} {rest : List Nat} (hfifo : s.fifo = o :: rest)
    (hempty : s.dispatcher.inHand = []) {d : Dispatcher} (hd : d.inHand = [] ∨ d = .sending o)
    (hscan : ∀ i ret, d = .scanning i ret → i = drawqueueNext s.drawqHead) :
    RingInv { s.popDrawobj with dispatcher := d } := by
  have hlen : s.fifo.length = rest.length + 1 := by rw [hfifo, List.length_cons]
  have htail : (s.popDrawobj).fifo = rest := by simp only [popDrawobj, hfifo, List.tail_cons]
  have hnext : drawqueueNext s.drawqHead = Ring.slot CONTEXT_DRAWQUEUE_SIZE s.drawqHead 1 := rfl
  refine ⟨Nat.mod_lt _ size_pos, ?_, ?_, ?_, ?_, ?_, hscan, h.sleepable, h.not_overwrote,
    h.not_warned⟩
  · simp only [htail]
    change s.drawqTail = Ring.slot _ (drawqueueNext s.drawqHead) rest.length
    rw [h.tail_eq, hlen, hnext, Ring.slot_slot, Nat.add_comm]
  · simp only [htail]
    change s.queued - 1 = (rest.length : Int)
    rw [h.queued_eq, hlen]
    omega
  · simp only [htail]
    have hhand := d.length_inHand_le
    have hroom := h.room
    rw [hlen, hempty, List.length_nil] at hroom
    omega
  · simp only [htail]
    change Ring.slice _ s.drawq (drawqueueNext s.drawqHead) rest.length = rest.map some
    have hslots := h.slots
    rw [hfifo, List.length_cons, Ring.slice_cons _ h.head_lt, List.map_cons] at hslots
    exact (List.cons.inj hslots).2
  · simp only [htail]
    intro x hx
    refine h.storable x ?_
    rw [hempty, hfifo, List.nil_append]
    rcases hd with hd | rfl
    · rw [hd, List.nil_append] at hx
      exact List.mem_cons_of_mem o hx
    · exact hx

/-- The slot that `hgsl_dispatch_requeue_drawobj` goes back to is the one before the head. -/
theorem exists_prev (hlt : s.drawqHead < CONTEXT_DRAWQUEUE_SIZE) :
    ∃ prev, (if s.drawqHead = 0 then CONTEXT_DRAWQUEUE_SIZE - 1 else s.drawqHead - 1) = prev ∧
      prev < CONTEXT_DRAWQUEUE_SIZE ∧ Ring.slot CONTEXT_DRAWQUEUE_SIZE prev 1 = s.drawqHead := by
  refine ⟨_, rfl, ?_, ?_⟩
  · split <;> omega
  · unfold Ring.slot CONTEXT_DRAWQUEUE_SIZE at *
    split <;> omega

/-- `hgsl_dispatch_requeue_drawobj`: the reserved slot is where the object goes. -/
theorem unpop (h : RingInv s) {o : Nat} (hhand : s.dispatcher = .sending o) :
    RingInv ({ s with dispatcher := .idle }.requeueDrawobj o) := by
  have hroom := h.room
  rw [hhand, Dispatcher.inHand, List.length_singleton] at hroom
  obtain ⟨prev, hprev, hprev_lt, hback⟩ := exists_prev h.head_lt
  -- the object in hand has kept one slot free, so going back does not reach the tail
  have hfree : prev ≠ s.drawqTail := by
    intro heq
    have hround : Ring.slot CONTEXT_DRAWQUEUE_SIZE prev 0 =
        Ring.slot CONTEXT_DRAWQUEUE_SIZE prev (1 + s.fifo.length) := by
      rw [← Ring.slot_slot, hback, ← h.tail_eq, ← heq, Ring.slot_zero hprev_lt]
    exact absurd (Ring.slot_inj (by decide) (by omega) hround) (by omega)
  unfold requeueDrawobj
  simp only [hprev]
  refine ⟨hprev_lt, ?_, ?_, ?_, ?_, ?_, nofun, h.sleepable, h.not_overwrote, ?_⟩
  · simp only [List.length_cons]
    rw [h.tail_eq, ← hback, Ring.slot_slot, Nat.add_comm]
  · simp only [List.length_cons, h.queued_eq]
    omega
  · simpa only [List.length_cons, Dispatcher.inHand, List.length_nil] using hroom
  · simp only [List.length_cons, List.map_cons]
    rw [Ring.slice_unpop _ _ hprev_lt hback h.fifo_lt, h.slots]
  · intro x hx
    refine h.storable x ?_
    rw [hhand]
    exact hx
  · simp only [h.not_warned, Bool.false_or, beq_eq_false_iff_ne, ne_eq]
    exact hfree

/-- `hgsl_ctxt_detach_drawobjs` of an empty ring. -/
theorem drain (h : RingInv s) (hempty : s.drawqHead = s.drawqTail) : RingInv s.detachDrawobjs := by
  -- head and tail meet in an empty ring only: a full one is never reached
  have hfifo : s.fifo = [] := by
    cases hfifo : s.fifo with
    | nil => rfl
    | cons o rest => exact absurd hempty (h.head_ne_tail hfifo)
  have hloop : s.drainLoop CONTEXT_DRAWQUEUE_SIZE s.drawqHead [] = (s.drawqHead, []) := by
    unfold CONTEXT_DRAWQUEUE_SIZE drainLoop
    rw [if_pos hempty]
  unfold detachDrawobjs
  simp only [hloop]
  refine ⟨h.head_lt, ?_, ?_, ?_, rfl, ?_, h.scan_head, h.sleepable, h.not_overwrote, h.not_warned⟩
  · simpa only [hfifo] using h.tail_eq
  · simpa only [hfifo] using h.queued_eq
  · simpa only [hfifo] using h.room
  · have hstorable := h.storable
    rw [hfifo] at hstorable
    exact hstorable

end RingInv

/-! ## The loop of a submission -/

/-- The ring invariant with room for `os` next to what the dispatcher may put back. -/
def RingRoom (s : QueueState) (os : List Nat) : Prop :=
  RingInv s ∧ s.fifo.length + os.length < contextDrawqueueSize ∧ ∀ o ∈ os, o < s.nextObj

theorem RingRoom.queueOne (s : QueueState) (userTs timestamp : BitVec 32) (o : Nat)
    (os : List Nat) (h : RingRoom s (o :: os)) :
    RingRoom (QueueState.queueOne userTs s timestamp o).2.2 os := by
  obtain ⟨hinv, hroom, hknown⟩ := h
  rw [List.length_cons] at hroom
  have hsize : contextDrawqueueSize + 1 = CONTEXT_DRAWQUEUE_SIZE := rfl
  have hhand := s.dispatcher.length_inHand_le
  have hpush : s.fifo.length + 1 + s.dispatcher.inHand.length < CONTEXT_DRAWQUEUE_SIZE := by omega
  have hroom' : s.fifo.length + os.length < contextDrawqueueSize := by omega
  have hpushed : (s.fifo ++ [o]).length + os.length < contextDrawqueueSize := by
    rw [List.length_append, List.length_singleton]
    omega
  have ho := hknown o List.mem_cons_self
  have hos : ∀ x ∈ os, x < s.nextObj := fun x hx => hknown x (List.mem_cons_of_mem o hx)
  have hcases := queueOne_cases s o timestamp userTs
  generalize QueueState.queueOne userTs s timestamp o = r at hcases
  cases hcases with
  | refused ts hts => exact ⟨hinv, hroom', hos⟩
  | ignored ts htype => exact ⟨hinv, hroom', hos⟩
  | unstamped ts htype =>
      have hobj : Stamps s.obj (s.setTimestamp o 0#32).obj o 0#32 := Stamps.of_update rfl rfl rfl
      have hset : RingInv (s.setTimestamp o 0#32) :=
        hinv.retouch (Nat.le_refl _) fun x _ => hobj.type x
      have hstore : (s.setTimestamp o 0#32).Storable o := by
        refine ⟨ho, ?_⟩
        rw [hobj.type o]
        rcases htype with h | h <;> simp [h]
      exact ⟨hset.push hstore hpush, hpushed, hos⟩
  | stamped ts obj' htype hts hobj hmarker =>
      have hset : RingInv { s with
          obj := obj', queuedTs := ts, stamped := s.stamped ++ [o] } :=
        { hinv.retouch (Nat.le_refl _) fun x _ => hobj.type x with }
      refine ⟨hset.push ⟨ho, ?_⟩ hpush, hpushed, hos⟩
      rw [hobj.type o]
      rcases htype with h | h <;> simp [h]
  | retired ts htype hts hqueued hexpired =>
      have hobj : Stamps s.obj (s.setTimestamp o ts).obj o ts := Stamps.of_update rfl rfl rfl
      exact ⟨{ hinv.retouch (Nat.le_refl _) fun x _ => hobj.type x with }, hroom', hos⟩

theorem RingInv.queueLoop {s : QueueState} {objs : List Nat} {userTs timestamp : BitVec 32}
    (h : RingInv s) (hroom : s.fifo.length + objs.length < contextDrawqueueSize)
    (hknown : ∀ o ∈ objs, o < s.nextObj) : RingInv (QueueState.queueLoop userTs s timestamp objs).2.2 := by
  obtain ⟨os, hos⟩ := queueLoop_rule (P := RingRoom) userTs timestamp
    (fun s ts o os => RingRoom.queueOne s _ ts o os)
    ⟨h, hroom, hknown⟩
  exact hos.1

/-! ## Steps -/

theorem RingInv.submit {s : QueueState} (h : RingInv s) (ds : List Drawobj)
    (timestamp : BitVec 32) : RingInv (s.submit ds timestamp) := by
  obtain ⟨obj', hold, hcases⟩ := submit_cases s ds timestamp
  have halloc : RingInv { s with obj := obj', nextObj := s.nextObj + ds.length } :=
    h.retouch (Nat.le_add_right _ _) fun x hx => by rw [hold x hx]
  have hnew : ∀ o ∈ List.range' s.nextObj ds.length, o < s.nextObj + ds.length :=
    fun o ho => (List.mem_range'_1.1 ho).2
  rcases hcases with heq | ⟨hlen, heq⟩ | ⟨hlen, -, hsleep, heq⟩
  · rw [heq]
    exact halloc
  · rw [heq]
    refine { halloc with sleepable := ?_ }
    intro sl hsl
    rcases List.mem_append.1 hsl with hold | hnew'
    · exact halloc.sleepable sl hold
    · rw [List.mem_singleton.1 hnew']
      exact ⟨by rwa [List.length_range'], hnew⟩
  · rw [heq]
    refine halloc.queueLoop ?_ hnew
    rw [List.length_range']
    exact h.fits hlen hsleep

theorem RingInv.wake {s s' : QueueState} (h : RingInv s) {k : Nat} {room : Bool} {ret : Int}
    (hstep : s.wake k room ret = some s') : RingInv s' := by
  obtain ⟨sl, hsl, -, rfl⟩ := wake_cases hstep
  refine { h with sleepable := ?_ }
  intro sl' hmem
  rcases List.mem_or_eq_of_mem_set hmem with hold | rfl
  · exact h.sleepable sl' hold
  · exact h.sleepable sl (List.mem_of_getElem? hsl)

theorem RingInv.relock {s s' : QueueState} (h : RingInv s) {k : Nat}
    (hroom : s.appendsWithoutRoom (.relock k) = false) (hstep : s.relock k = some s') :
    RingInv s' := by
  obtain ⟨sl, ret, hsl, hwake, -, hs'⟩ := relock_cases hstep
  have herase : RingInv { s with sleepers := s.sleepers.eraseIdx k } :=
    { h with sleepable := fun sl' hmem => h.sleepable sl' (List.mem_of_mem_eraseIdx hmem) }
  obtain ⟨hlen, hknown⟩ := h.sleepable sl (List.mem_of_getElem? hsl)
  rcases hs' with rfl | ⟨rfl, rfl⟩
  · exact herase
  · -- back from a time-out: the step condition says that there is room by now
    refine herase.queueLoop (h.fits hlen ?_) hknown
    simpa [appendsWithoutRoom, hsl, hwake] using hroom

theorem RingInv.scan {s : QueueState} (h : RingInv s) {i : Nat} {ret : Int}
    (hscan : s.dispatcher = .scanning i ret) : RingInv (s.scan i ret) := by
  obtain rfl := h.scan_head i ret hscan
  have hempty : s.dispatcher.inHand = [] := by
    rw [hscan]
    rfl
  have hcases := scan_cases s s.drawqHead ret
  generalize s.scan s.drawqHead ret = s' at hcases
  cases hcases with
  | stop =>
      have hroom := h.fifo_lt
      have hstorable := h.storable
      rw [hempty] at hstorable
      exact { h with room := hroom, storable := hstorable, scan_head := nofun }
  | skipped o hi ho htype =>
      obtain ⟨o', rest, hfifo, ho'⟩ := h.head_slot hi
      obtain rfl := Option.some.inj (ho.symm.trans ho')
      refine absurd htype (h.storable o ?_).2
      rw [hfifo]
      exact List.mem_append_right _ List.mem_cons_self
  | dropped o d hi ho htype =>
      obtain ⟨o', rest, hfifo, -⟩ := h.head_slot hi
      exact { h.pop hfifo hempty (d := .scanning _ 0) (.inl rfl) (fun i ret h => by cases h; rfl)
        with }
  | expired o hi ho htype hexpired =>
      obtain ⟨o', rest, hfifo, -⟩ := h.head_slot hi
      have hpop := h.pop hfifo hempty (d := .scanning _ 0) (.inl rfl) (fun i ret h => by cases h; rfl)
      have hobj : Stamps s.obj (Function.update s.obj o { s.obj o with markerExpired := true }) o
        (s.obj o).timestamp := Stamps.of_update rfl rfl rfl
      exact { hpop.retouch (Nat.le_refl _) fun x _ => hobj.type x with }
  | found o hi ho htype =>
      obtain ⟨o', rest, hfifo, ho'⟩ := h.head_slot hi
      obtain rfl := Option.some.inj (ho.symm.trans ho')
      exact h.pop hfifo hempty (.inr rfl) nofun

theorem RingInv.finishSend {s : QueueState} (h : RingInv s) {o : Nat} (r : SendResult)
    (hsend : s.dispatcher = .sending o) : RingInv (s.finishSend o r) := by
  have hidle : RingInv { s with dispatcher := .idle } := by
    refine { h with room := h.fifo_lt, storable := ?_, scan_head := nofun }
    exact fun x hx => h.storable x (List.mem_append_right _ hx)
  unfold QueueState.finishSend
  dsimp only
  split
  · exact { hidle with }
  · split
    · exact { hidle with }
    · exact h.unpop hsend

/-- **Step lemma.** Every step that does not append without room and does not drain a non-empty ring
    keeps the ring invariant. -/
theorem RingInv.step {s s' : QueueState} {a : QueueAct} (h : RingInv s)
    (hroom : s.appendsWithoutRoom a = false) (hdetach : s.detachesObjects a = false)
    (hstep : s.step a = some s') : RingInv s' := by
  cases a with
  | queueCmds ds ts =>
      simp only [QueueState.step, Option.ite_none_right_eq_some] at hstep
      obtain ⟨-, hs'⟩ := hstep
      obtain rfl := Option.some.inj hs'
      exact h.submit ds ts
  | wakeRoom k left => exact h.wake hstep
  | wakeTimeout k => exact h.wake hstep
  | wakeInterrupted k => exact h.wake hstep
  | relock k => exact h.relock hroom hstep
  | passStart =>
      simp only [QueueState.step] at hstep
      split at hstep
      · next hidle =>
          obtain rfl := Option.some.inj hstep
          have hroom' := h.room
          have hstorable := h.storable
          rw [hidle] at hroom' hstorable
          exact { h with
            room := hroom', storable := hstorable, scan_head := fun i ret h => by cases h; rfl }
      · cases hstep
  | passScan =>
      simp only [QueueState.step] at hstep
      split at hstep
      · next i ret hscan =>
          obtain rfl := Option.some.inj hstep
          exact h.scan hscan
      · cases hstep
  | send r =>
      simp only [QueueState.step] at hstep
      split at hstep
      · next o hsend =>
          obtain rfl := Option.some.inj hstep
          exact h.finishSend r hsend
      · cases hstep
  | syncExpire o i =>
      obtain rfl := Option.some.inj hstep
      refine h.retouch (Nat.le_refl _) ?_
      intro x _
      by_cases hx : x = o
      · simp only [hx, Function.update_self]
      · rw [Function.update_of_ne hx]
  | gpuRetire =>
      simp only [QueueState.step, QueueState.gpuRetire] at hstep
      split at hstep
      · cases hstep
      · obtain rfl := Option.some.inj hstep
        exact { h with }
  | setInDestroy =>
      obtain rfl := Option.some.inj hstep
      exact { h with }
  | detachDrawobjs =>
      simp only [QueueState.step, Option.ite_none_right_eq_some] at hstep
      obtain ⟨-, hs'⟩ := hstep
      obtain rfl := Option.some.inj hs'
      exact h.drain (by simpa [detachesObjects] using hdetach)

theorem RingInv.fresh (flags : BitVec 32) (shadowTs : Option ShadowTs) :
    RingInv (.fresh flags shadowTs) where
  head_lt := size_pos
  tail_eq := rfl
  queued_eq := rfl
  room := size_pos
  slots := rfl
  storable := nofun
  scan_head := nofun
  sleepable := nofun
  not_overwrote := rfl
  not_warned := rfl

/-! ## The ring over whole runs -/

/-- What the ring promises: indices in range, `queued` equal to the distance from head to tail and at
    most `CONTEXT_DRAWQUEUE_SIZE - 1`, no put-back without room and no store over a queued object up
    to now. -/
def RingIntact (s : QueueState) : Prop :=
  s.drawqHead < CONTEXT_DRAWQUEUE_SIZE ∧ s.drawqTail < CONTEXT_DRAWQUEUE_SIZE ∧
    s.queued = Ring.used CONTEXT_DRAWQUEUE_SIZE s.drawqHead s.drawqTail ∧
    s.queued ≤ contextDrawqueueSize ∧ s.warned = false ∧ s.overwrote = false

instance (s : QueueState) : Decidable (RingIntact s) := by unfold RingIntact; infer_instance

theorem RingInv.intact {s : QueueState} (h : RingInv s) : RingIntact s := by
  refine ⟨h.head_lt, h.tail_lt, h.queued_eq_used, ?_, h.not_warned, h.not_overwrote⟩
  have hlt := h.fifo_lt
  rw [h.queued_eq]
  unfold contextDrawqueueSize
  omega

/-- The step neither appends after a time-out without room nor drains a non-empty ring. -/
def RingSafe (s : QueueState) (a : QueueAct) : Prop :=
  s.appendsWithoutRoom a = false ∧ s.detachesObjects a = false

instance (s : QueueState) (a : QueueAct) : Decidable (RingSafe s a) := by
  unfold RingSafe; infer_instance

theorem RingInv.exec {s s' : QueueState} {as : List QueueAct} (h : RingInv s)
    (hrun : Trace.exec (Trace.guarded RingSafe QueueState.step) s as = some s') : RingInv s' := by
  refine Trace.exec_invariant ?_ h hrun
  intro t a t' ht hstep
  obtain ⟨⟨hroom, hdetach⟩, hstep'⟩ := Trace.guarded_eq_some.1 hstep
  exact ht.step hroom hdetach hstep'

/-- **Main result.** In every run of a context whose steps are all `RingSafe`, whatever the
    interleaving, the ring is intact in every state. -/
theorem ringIntact_of_ringSafe (flags : BitVec 32) (shadowTs : Option ShadowTs)
    (as : List QueueAct) (s : QueueState)
    (hrun : Trace.exec (Trace.guarded RingSafe QueueState.step) (.fresh flags shadowTs) as =
      some s) : RingIntact s :=
  (RingInv.exec (RingInv.fresh flags shadowTs) hrun).intact

/-- A sync object that waits for its first sync point. -/
def pendingSync : Drawobj := { type := .sync, pending := 1#32 }

/-- Up to the reserve: 126 objects are queued, a sleeper times out, the dispatcher takes the head,
    the sleeper appends, the send fails and the head is put back into the last slot. -/
def reserveRun : List QueueAct :=
  [.queueCmds ({ type := .cmd } :: List.replicate 125 pendingSync) 0#32,
    .queueCmds [pendingSync] 0#32, .wakeTimeout 0, .passStart, .passScan, .relock 0,
    .send (.issued (-ENOMEM))]

theorem ringIntact_reserveRun : ∃ s,
    Trace.exec (Trace.guarded RingSafe QueueState.step)
        (.fresh GSL_CONTEXT_FLAG_USER_GENERATED_TS none) reserveRun = some s ∧
      s.queued = 127 ∧ RingIntact s := by
  have hqueued : (Trace.exec (Trace.guarded RingSafe QueueState.step)
      (.fresh GSL_CONTEXT_FLAG_USER_GENERATED_TS none) reserveRun).map (·.queued) = some 127 := by
    decide +kernel
  obtain ⟨s, hs, h127⟩ := Option.map_eq_some_iff.1 hqueued
  exact ⟨s, hs, h127, ringIntact_of_ringSafe _ _ _ s hs⟩

/-- Three submitters time out on a full queue; the third stores over the head. -/
def timeoutRun : List QueueAct :=
  [.queueCmds (List.replicate 126 pendingSync) 0#32, .queueCmds [pendingSync] 0#32,
    .queueCmds [pendingSync] 0#32, .queueCmds [pendingSync] 0#32, .wakeTimeout 0, .wakeTimeout 1,
    .wakeTimeout 2, .relock 0, .relock 0, .relock 0]

/-- A context is destroyed with one object queued. -/
def detachRun : List QueueAct := [.queueCmds [pendingSync] 0#32, .setInDestroy, .detachDrawobjs]

/-- Without the condition both kinds of step break the ring: the time-out overwrites a queued object,
    the drain leaves `queued` at 1 for an empty ring. -/
theorem ringIntact_fails :
    (∃ s ∈ Trace.exec QueueState.step (.fresh GSL_CONTEXT_FLAG_USER_GENERATED_TS none) timeoutRun,
      s.overwrote = true ∧ ¬ RingIntact s) ∧
    ∃ s ∈ Trace.exec QueueState.step (.fresh GSL_CONTEXT_FLAG_USER_GENERATED_TS none) detachRun,
      s.drawqHead = s.drawqTail ∧ s.queued = 1 ∧ ¬ RingIntact s := by
  decide +kernel

end QueueState

end Hgsl
