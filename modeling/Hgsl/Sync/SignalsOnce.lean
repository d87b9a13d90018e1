import Hgsl.Sync.TimelineObject

set_option autoImplicit false

/-! # A timeline object signals once

The owner and the event hold one `sig_refcount` and one reference to the object each. The last one to signal
walks the array, and the references to the timelines are at any moment those of the entries that it has not
come to.

A refused event is the exception: the error path drops the array and leaves `count` as it is, so that
`hgsl_drawobj_destroy` follows the null pointer. -/

namespace Hgsl

/-! ## Who holds what -/

def SignalActor.other : SignalActor → SignalActor
  | .owner => .event
  | .event => .owner

@[simp] theorem SignalActor.other_other (who : SignalActor) : who.other.other = who := by cases who <;> rfl

theorem SignalActor.other_ne (who : SignalActor) : who.other ≠ who := by cases who <;> decide

/-- The `sig_refcount` that it still holds. -/
def SignalStage.signals : SignalStage → Nat
  | .waiting | .signalling => 1
  | .retiring _ | .putting | .releasing | .done | .oops => 0

/-- The reference to the object that it still holds. -/
def SignalStage.holds : SignalStage → Nat
  | .waiting | .signalling | .retiring _ | .putting | .oops => 1
  | .releasing | .done => 0

/-- The turn of the loop over the array. -/
def SignalStage.turn : SignalStage → Option Nat
  | .retiring i => some i
  | .waiting | .signalling | .putting | .releasing | .done | .oops => none

/-- It may come to this stage: no bad memory is used, and only the event has a context to release. -/
def SignalActor.Ok (who : SignalActor) (a : SignalStage) : Prop :=
  a ≠ .oops ∧ (a = .releasing → who = .event)

/-- The reference of the event to the context. -/
def SignalActor.holdsContext : SignalActor → SignalStage → Nat
  | .owner, _ | .event, .done => 0
  | .event, _ => 1

theorem SignalActor.holdsContext_congr (who : SignalActor) (a a' : SignalStage) (ha : a ≠ .done)
    (ha' : a' ≠ .done) : who.holdsContext a = who.holdsContext a' := by
  cases who <;> cases a <;> cases a' <;> first | rfl | contradiction

/-- A refused event: the call comes to `hgsl_add_event`, and that returns an error. -/
def SignalAct.Rejected : SignalAct → Prop
  | .addTimeline call => call.Captures ∧ call.addEvent ≠ 0
  | .destroy | .fire | .move _ => False

theorem SignalActor.afterPut_spec (who : SignalActor) : who.afterPut.signals = 0 ∧ who.afterPut.holds = 0 ∧
    who.afterPut.turn = none ∧ who.Ok who.afterPut ∧
    who.holdsContext who.afterPut = who.holdsContext .putting := by
  cases who <;> simp [afterPut, Ok, SignalStage.signals, SignalStage.holds, SignalStage.turn, holdsContext]

namespace TimelineSignal

variable {s s' : TimelineSignal} {who : SignalActor} {a b : SignalStage} {i : Nat}

/-- The array holds what has been captured. -/
def ArrayOk (s : TimelineSignal) : Prop :=
  s.obj.count = s.captured.length ∧
    (s.captured ≠ [] → ∃ queued, s.obj.timelines = some (s.captured.map (CapturedTimeline.ofEntry queued)))

/-- One of them is at turn `i` of the loop, the other one at `b`. -/
structure AtTurn (s : TimelineSignal) (b : SignalStage) (i : Nat) : Prop where
  sig : s.obj.sigRefcount = 0
  alone : b.turn = none
  le : i ≤ s.captured.length
  forwards : s.forwards = s.captured.take i
  array : s.ArrayOk

/-- Both counts are what the two hold when `who` is at `a` and the other one at `b`. -/
structure Held (s : TimelineSignal) (who : SignalActor) (a b : SignalStage) : Prop where
  sig : s.obj.sigRefcount = a.signals + b.signals
  ref : s.obj.refcount = a.holds + b.holds
  freed : s.obj.freed = decide (s.obj.refcount = 0)
  ok : who.Ok a
  okOther : who.other.Ok b
  before : s.obj.sigRefcount ≠ 0 → s.forwards = [] ∧ s.ArrayOk
  turn : ∀ i, a.turn = some i → s.AtTurn b i
  turnOther : ∀ i, b.turn = some i → s.AtTurn a i
  after : s.obj.sigRefcount = 0 → a.turn = none → b.turn = none → s.forwards = s.captured
  refs : ∀ tl, s.timelineRefs tl = (((s.captured.drop s.forwards.length).map Prod.fst).count tl : Nat)
  context : s.contextRefs = ((if s.obj.refcount = 0 then 0 else 1) +
    (who.holdsContext a + who.other.holdsContext b) + (s.captured.drop s.forwards.length).length : Nat)

theorem Held.swap (h : Held s who a b) : Held s who.other b a where
  sig := by rw [h.sig, Nat.add_comm]
  ref := by rw [h.ref, Nat.add_comm]
  freed := h.freed
  ok := h.okOther
  okOther := by simpa using h.ok
  before := h.before
  turn := h.turnOther
  turnOther := h.turn
  after := fun hsig hb ha => h.after hsig ha hb
  refs := h.refs
  context := by rw [h.context, SignalActor.other_other, Nat.add_comm (who.holdsContext a)]

/-! ## What a move preserves -/

theorem Held.not_freed (h : Held s who a b) (hholds : a.holds = 1) : s.obj.freed = false := by
  have href := h.ref
  rw [h.freed, decide_eq_false_iff_not]
  omega

/-- One who still has to signal meets nobody in the loop. -/
theorem Held.unsignalled (h : Held s who a b) (ha : a.signals = 1) :
    s.obj.sigRefcount ≠ 0 ∧ b.turn = none := by
  have hsig := h.sig
  have hpos : s.obj.sigRefcount ≠ 0 := by omega
  refine ⟨hpos, ?_⟩
  by_contra hne
  obtain ⟨i, hi⟩ := Option.ne_none_iff_exists'.1 hne
  exact hpos (h.turnOther i hi).sig

theorem Held.begin (h : Held s who .waiting b) (left fired : Bool) :
    Held ({ s with left := left, fired := fired }.setThread who .signalling) who .signalling b where
  sig := h.sig
  ref := h.ref
  freed := h.freed
  ok := by simp [SignalActor.Ok]
  okOther := h.okOther
  before := h.before
  turn := by simp [SignalStage.turn]
  turnOther := by simp [(h.unsignalled rfl).2]
  after := fun hsig => absurd hsig (h.unsignalled rfl).1
  refs := h.refs
  context := by
    rw [who.holdsContext_congr .signalling .waiting (by simp) (by simp)]
    exact h.context

/-- The last one to signal comes to the loop, and the other one goes on without it. -/
theorem Held.signal (h : Held s who .signalling b) (hs' : s' = s.hgslTimelineobjSignal who) :
    ∃ a, Held s' who a b ∧ a.signals = 0 ∧ s'.thread = Function.update s.thread who a := by
  have hfreed := h.not_freed rfl
  have hsig : s.obj.sigRefcount = 1 + b.signals := h.sig
  obtain ⟨hpos, hb⟩ := h.unsignalled rfl
  obtain ⟨hforwards, harray⟩ := h.before hpos
  unfold hgslTimelineobjSignal at hs'
  rw [if_neg (by simp [hfreed])] at hs'
  by_cases hlast : s.obj.sigRefcount = 1
  · rw [if_pos hlast] at hs'
    subst hs'
    have hzero : s.obj.sigRefcount - 1 = 0 := by omega
    refine ⟨.retiring 0, ?_, rfl, rfl⟩
    exact {
      sig := by
        show s.obj.sigRefcount - 1 = 0 + b.signals
        omega
      ref := h.ref
      freed := h.freed
      ok := by simp [SignalActor.Ok]
      okOther := h.okOther
      before := fun hne => absurd hzero hne
      turn := by
        intro i hi
        obtain rfl : 0 = i := Option.some.inj hi
        exact ⟨hzero, hb, Nat.zero_le _, hforwards, harray⟩
      turnOther := by simp [hb]
      after := by simp [SignalStage.turn]
      refs := h.refs
      context := by
        rw [who.holdsContext_congr (.retiring 0) .signalling (by simp) (by simp)]
        exact h.context }
  · rw [if_neg hlast] at hs'
    subst hs'
    have hrest : s.obj.sigRefcount - 1 ≠ 0 := by omega
    refine ⟨.putting, ?_, rfl, rfl⟩
    exact {
      sig := by
        show s.obj.sigRefcount - 1 = 0 + b.signals
        omega
      ref := h.ref
      freed := h.freed
      ok := by simp [SignalActor.Ok]
      okOther := h.okOther
      before := fun _ => ⟨hforwards, harray⟩
      turn := by simp [SignalStage.turn]
      turnOther := by simp [hb]
      after := fun hzero => absurd hzero hrest
      refs := h.refs
      context := by
        rw [who.holdsContext_congr .putting .signalling (by simp) (by simp)]
        exact h.context }

theorem AtTurn.length_forwards (h : s.AtTurn b i) : s.forwards.length = i := by
  rw [h.forwards, List.length_take]
  exact Nat.min_eq_left h.le

/-- A turn of the loop forwards the next of the captured timelines and gives back what its entry stands for. -/
theorem Held.retire (h : Held s who (.retiring i) b) (hs' : s' = s.drawobjTimelineobjRetire who i) :
    ∃ a, Held s' who a b ∧ a.signals = 0 ∧ s'.thread = Function.update s.thread who a := by
  have hfreed := h.not_freed rfl
  have hat := h.turn i rfl
  obtain ⟨hcount, harray⟩ := hat.array
  have hlen := hat.length_forwards
  unfold drawobjTimelineobjRetire at hs'
  rw [if_neg (by simp [hfreed])] at hs'
  by_cases hi : i < s.captured.length
  · obtain ⟨queued, hevs⟩ := harray (List.ne_nil_of_length_pos (by omega))
    have hev : (s.obj.timelines.bind fun evs => evs[i]?) =
        some (CapturedTimeline.ofEntry queued s.captured[i]) := by
      simp [hevs, hi]
    rw [if_pos (by omega), hev] at hs'
    simp only [CapturedTimeline.ofEntry] at hs'
    subst hs'
    have hforwards : s.forwards ++ [(s.captured[i].1, s.captured[i].2)] = s.captured.take (i + 1) := by
      rw [hat.forwards]
      simp
    have hlen' : (s.forwards ++ [(s.captured[i].1, s.captured[i].2)]).length = i + 1 := by simp [hlen]
    have hdrop : s.captured.drop i = s.captured[i] :: s.captured.drop (i + 1) := List.drop_eq_getElem_cons hi
    refine ⟨.retiring (i + 1), ?_, rfl, rfl⟩
    exact {
      sig := h.sig
      ref := h.ref
      freed := h.freed
      ok := by simp [SignalActor.Ok]
      okOther := h.okOther
      before := fun hne => absurd hat.sig hne
      turn := by
        intro j hj
        obtain rfl : i + 1 = j := Option.some.inj hj
        exact ⟨hat.sig, hat.alone, hi, hforwards, hat.array⟩
      turnOther := by simp [hat.alone]
      after := by simp [SignalStage.turn]
      refs := by
        intro tl
        have hrefs := h.refs tl
        rw [hlen, hdrop, List.map_cons, List.count_cons] at hrefs
        show Function.update s.timelineRefs s.captured[i].1 (s.timelineRefs s.captured[i].1 - 1) tl =
          (((s.captured.drop (s.forwards ++ [(s.captured[i].1, s.captured[i].2)]).length).map Prod.fst).count tl : Nat)
        rw [hlen']
        by_cases htl : tl = s.captured[i].1
        · subst htl
          rw [if_pos (by simp)] at hrefs
          rw [Function.update_self]
          omega
        · rw [if_neg (by simpa using Ne.symm htl)] at hrefs
          rw [Function.update_of_ne htl, hrefs, Nat.add_zero]
      context := by
        have hcontext := h.context
        rw [hlen, hdrop] at hcontext
        rw [who.holdsContext_congr (.retiring (i + 1)) (.retiring i) (by simp) (by simp)]
        show s.contextRefs - 1 = ((if s.obj.refcount = 0 then 0 else 1) + (who.holdsContext (.retiring i) +
          who.other.holdsContext b) + (s.captured.drop (s.forwards ++
            [(s.captured[i].1, s.captured[i].2)]).length).length : Nat)
        rw [hlen', hcontext, List.length_cons]
        omega }
  · rw [if_neg (by omega)] at hs'
    subst hs'
    have hall : s.forwards = s.captured := by rw [hat.forwards, List.take_of_length_le (by omega)]
    refine ⟨.putting, ?_, rfl, rfl⟩
    exact {
      sig := h.sig
      ref := h.ref
      freed := h.freed
      ok := by simp [SignalActor.Ok]
      okOther := h.okOther
      before := fun hne => absurd hat.sig hne
      turn := by simp [SignalStage.turn]
      turnOther := by simp [hat.alone]
      after := fun _ _ _ => hall
      refs := h.refs
      context := by
        rw [who.holdsContext_congr .putting (.retiring i) (by simp) (by simp)]
        exact h.context }

/-- The reference to the object that is dropped last frees it. -/
theorem Held.put (h : Held s who .putting b) (hs' : s' = s.hgslDrawobjPut who) :
    ∃ a, Held s' who a b ∧ a.signals = 0 ∧ s'.thread = Function.update s.thread who a := by
  have hfreed := h.not_freed rfl
  have href : s.obj.refcount = 1 + b.holds := h.ref
  obtain ⟨hsignals, hholds, hturn, hok, hctx⟩ := who.afterPut_spec
  unfold hgslDrawobjPut at hs'
  rw [if_neg (by simp [hfreed])] at hs'
  have hturnOther : ∀ i, b.turn = some i → s.AtTurn who.afterPut i := by
    intro i hi
    have hat := h.turnOther i hi
    exact ⟨hat.sig, hturn, hat.le, hat.forwards, hat.array⟩
  have hcontext := h.context
  by_cases hlast : s.obj.refcount = 1
  · rw [if_pos hlast] at hs'
    subst hs'
    refine ⟨who.afterPut, ?_, hsignals, rfl⟩
    exact {
      sig := by rw [hsignals]; exact h.sig
      ref := by
        show 0 = who.afterPut.holds + b.holds
        omega
      freed := rfl
      ok := hok
      okOther := h.okOther
      before := h.before
      turn := by simp [hturn]
      turnOther := fun i hi =>
        have hat := hturnOther i hi
        ⟨hat.sig, hat.alone, hat.le, hat.forwards, hat.array⟩
      after := fun hsig _ hb => h.after hsig rfl hb
      refs := h.refs
      context := by
        rw [if_neg (by omega)] at hcontext
        show s.contextRefs - 1 = ((0 + (who.holdsContext who.afterPut + who.other.holdsContext b) +
          (s.captured.drop s.forwards.length).length : Nat) : Int)
        rw [hcontext, hctx]
        omega }
  · rw [if_neg hlast] at hs'
    subst hs'
    have hrest : s.obj.refcount - 1 ≠ 0 := by omega
    refine ⟨who.afterPut, ?_, hsignals, rfl⟩
    exact {
      sig := by rw [hsignals]; exact h.sig
      ref := by
        show s.obj.refcount - 1 = who.afterPut.holds + b.holds
        omega
      freed := by
        show s.obj.freed = decide (s.obj.refcount - 1 = 0)
        simp [hfreed, hrest]
      ok := hok
      okOther := h.okOther
      before := h.before
      turn := by simp [hturn]
      turnOther := fun i hi =>
        have hat := hturnOther i hi
        ⟨hat.sig, hat.alone, hat.le, hat.forwards, hat.array⟩
      after := fun hsig _ hb => h.after hsig rfl hb
      refs := h.refs
      context := by
        rw [if_neg (by omega)] at hcontext
        show s.contextRefs = ((if s.obj.refcount - 1 = 0 then 0 else 1) + (who.holdsContext who.afterPut +
          who.other.holdsContext b) + (s.captured.drop s.forwards.length).length : Nat)
        rw [if_neg hrest, hcontext, hctx] }

/-- The event worker puts the reference of the event to the context. -/
theorem Held.release (h : Held s .event .releasing b) :
    Held ((s.putContext true).setThread .event .done) .event .done b where
  sig := h.sig
  ref := h.ref
  freed := h.freed
  ok := by simp [SignalActor.Ok]
  okOther := h.okOther
  before := h.before
  turn := by simp [SignalStage.turn]
  turnOther := fun i hi =>
    have hat := h.turnOther i hi
    ⟨hat.sig, rfl, hat.le, hat.forwards, hat.array⟩
  after := fun hsig _ hb => h.after hsig rfl hb
  refs := h.refs
  context := by
    have hcontext : s.contextRefs = ((if s.obj.refcount = 0 then 0 else 1) +
      (1 + SignalActor.owner.holdsContext b) + (s.captured.drop s.forwards.length).length : Nat) := h.context
    show s.contextRefs - 1 = ((if s.obj.refcount = 0 then 0 else 1) +
      (0 + SignalActor.owner.holdsContext b) + (s.captured.drop s.forwards.length).length : Nat)
    omega

/-! ## What a run preserves -/

/-- Each of the timelines is forwarded by the id that stands in it. -/
def IdsLogged (s : TimelineSignal) : Prop :=
  s.isyncForwards = s.forwards.map fun e => (s.timelineId e.1, e.2)

theorem move_idsLogged (h : s.IdsLogged) (hstep : s.step (.move who) = some s') : s'.IdsLogged := by
  unfold IdsLogged at h ⊢
  cases hstage : s.thread who with
  | waiting => simp [step, hstage] at hstep
  | done => simp [step, hstage] at hstep
  | oops => simp [step, hstage] at hstep
  | signalling =>
      obtain rfl : s.hgslTimelineobjSignal who = s' := by simpa [step, hstage] using hstep
      unfold hgslTimelineobjSignal
      split_ifs <;> exact h
  | retiring i =>
      obtain rfl : s.drawobjTimelineobjRetire who i = s' := by simpa [step, hstage] using hstep
      unfold drawobjTimelineobjRetire
      split_ifs
      · exact h
      · split
        · exact h
        · split
          · exact h
          · next htl =>
              simp [htl, putTimeline, putContext, setThread, h]
      · exact h
  | putting =>
      obtain rfl : s.hgslDrawobjPut who = s' := by simpa [step, hstage] using hstep
      unfold hgslDrawobjPut
      split_ifs <;> exact h
  | releasing =>
      obtain rfl : (s.putContext true).setThread who .done = s' := by simpa [step, hstage] using hstep
      exact h

/-- The invariant of a run without a refused event. -/
structure Inv (s : TimelineSignal) : Prop where
  held : Held s .owner (s.thread .owner) (s.thread .event)
  ids : s.IdsLogged
  fresh : s.ret = none → ∃ id, s = { timelineId := id }
  failed : s.ret ≠ some 0 → s.captured = [] ∧ s.thread .event = .done
  left : s.thread .owner ≠ .waiting → s.left = true
  fired : s.ret = some 0 → s.thread .event ≠ .waiting → s.fired = true

theorem Held.ofActor (h : Held s .owner (s.thread .owner) (s.thread .event)) (who : SignalActor) :
    Held s who (s.thread who) (s.thread who.other) := by
  cases who with
  | owner => exact h
  | event => exact h.swap

theorem Held.toOwner (who : SignalActor) (h : Held s' who a (s.thread who.other))
    (hthread : s'.thread = Function.update s.thread who a) :
    Held s' .owner (s'.thread .owner) (s'.thread .event) := by
  rw [hthread]
  cases who with
  | owner => exact h
  | event => exact h.swap

/-- What a move of one of the two leaves alone. -/
structure SameCall (s s' : TimelineSignal) : Prop where
  ret : s'.ret = s.ret
  captured : s'.captured = s.captured
  left : s'.left = s.left
  fired : s'.fired = s.fired

theorem signal_sameCall (who : SignalActor) : SameCall s (s.hgslTimelineobjSignal who) := by
  unfold hgslTimelineobjSignal
  split_ifs <;> exact ⟨rfl, rfl, rfl, rfl⟩

theorem retire_sameCall (who : SignalActor) (i : Nat) : SameCall s (s.drawobjTimelineobjRetire who i) := by
  unfold drawobjTimelineobjRetire
  split_ifs
  · exact ⟨rfl, rfl, rfl, rfl⟩
  · split
    · exact ⟨rfl, rfl, rfl, rfl⟩
    · split
      · exact ⟨rfl, rfl, rfl, rfl⟩
      · next htl =>
          rw [htl]
          exact ⟨rfl, rfl, rfl, rfl⟩
  · exact ⟨rfl, rfl, rfl, rfl⟩

theorem put_sameCall (who : SignalActor) : SameCall s (s.hgslDrawobjPut who) := by
  unfold hgslDrawobjPut
  split_ifs <;> exact ⟨rfl, rfl, rfl, rfl⟩

/-- **Moves.** What a move of one of the two does, while both are where they may be. -/
theorem move_spec (h : Held s .owner (s.thread .owner) (s.thread .event))
    (hstep : s.step (.move who) = some s') :
    SameCall s s' ∧ s.thread who ≠ .waiting ∧
      ∃ a, Held s' who a (s.thread who.other) ∧ a.signals = 0 ∧ s'.thread = Function.update s.thread who a := by
  have hheld := h.ofActor who
  cases hstage : s.thread who with
  | waiting => simp [step, hstage] at hstep
  | done => simp [step, hstage] at hstep
  | oops => simp [step, hstage] at hstep
  | signalling =>
      obtain rfl : s.hgslTimelineobjSignal who = s' := by simpa [step, hstage] using hstep
      rw [hstage] at hheld
      exact ⟨signal_sameCall who, by simp, hheld.signal rfl⟩
  | retiring i =>
      obtain rfl : s.drawobjTimelineobjRetire who i = s' := by simpa [step, hstage] using hstep
      rw [hstage] at hheld
      exact ⟨retire_sameCall who i, by simp, hheld.retire rfl⟩
  | putting =>
      obtain rfl : s.hgslDrawobjPut who = s' := by simpa [step, hstage] using hstep
      rw [hstage] at hheld
      exact ⟨put_sameCall who, by simp, hheld.put rfl⟩
  | releasing =>
      obtain rfl : (s.putContext true).setThread who .done = s' := by simpa [step, hstage] using hstep
      rw [hstage] at hheld
      obtain rfl := hheld.ok.2 rfl
      exact ⟨⟨rfl, rfl, rfl, rfl⟩, by simp, .done, hheld.release, rfl, rfl⟩

/-- The object without an event -/
theorem held_unregistered (id : Nat → BitVec 32) (ret : Option Int) :
    Held { timelineId := id, ret := ret } .owner .waiting .done where
  sig := rfl
  ref := rfl
  freed := rfl
  ok := by simp [SignalActor.Ok]
  okOther := by simp [SignalActor.Ok]
  before := fun _ => ⟨rfl, rfl, by simp⟩
  turn := by simp [SignalStage.turn]
  turnOther := by simp [SignalStage.turn]
  after := fun hsig => absurd hsig Nat.one_ne_zero
  refs := fun _ => rfl
  context := rfl

/-- The object with its event -/
theorem held_accepted (id : Nat → BitVec 32) (queued : BitVec 32) (es : List (Nat × BitVec 64)) :
    Held (({ timelineId := id } : TimelineSignal).accepted queued es) .owner .waiting .waiting where
  sig := rfl
  ref := rfl
  freed := rfl
  ok := by simp [SignalActor.Ok]
  okOther := by simp [SignalActor.Ok]
  before := fun _ => ⟨rfl, rfl, fun _ => ⟨queued, rfl⟩⟩
  turn := by simp [SignalStage.turn]
  turnOther := by simp [SignalStage.turn]
  after := fun hsig => absurd hsig (Nat.succ_ne_zero _)
  refs := by
    intro tl
    have hmap : (es.map (CapturedTimeline.ofEntry queued)).map CapturedTimeline.timeline =
        (es.map Prod.fst).map some := by
      simp [CapturedTimeline.ofEntry]
    show (0 : Int) + (((es.map (CapturedTimeline.ofEntry queued)).map CapturedTimeline.timeline).count
      (some tl) : Nat) = ((es.map Prod.fst).count tl : Nat)
    rw [hmap, List.count_map_of_injective _ _ (Option.some_injective _), Int.zero_add]
  context := by
    have hcount : (es.map (CapturedTimeline.ofEntry queued)).countP CapturedTimeline.context = es.length := by
      simp [List.countP_map, CapturedTimeline.ofEntry, Function.comp_def]
    show (1 : Int) + ((es.map (CapturedTimeline.ofEntry queued)).countP CapturedTimeline.context : Nat) + 1 =
      (1 + (0 + 1) + es.length : Nat)
    rw [hcount]
    omega

theorem inv_init (id : Nat → BitVec 32) : Inv { timelineId := id } where
  held := held_unregistered id none
  ids := rfl
  fresh := fun _ => ⟨id, rfl⟩
  failed := fun _ => ⟨rfl, rfl⟩
  left := by simp
  fired := by simp

theorem Inv.addTimeline (h : Inv s) (call : AddTimelineCall) (hret : s.ret = none)
    (ha : ¬ (call.Captures ∧ call.addEvent ≠ 0)) : Inv (s.hgslDrawobjAddTimeline call) := by
  obtain ⟨id, rfl⟩ := h.fresh hret
  have hadded := hgslDrawobjAddTimeline_added (s := { timelineId := id }) call rfl
  generalize hgslDrawobjAddTimeline { timelineId := id } call = s' at hadded
  cases hadded with
  | failed hcaptures he =>
      exact ⟨held_unregistered id _, rfl, by simp, fun _ => ⟨rfl, rfl⟩, by simp,
        fun hok => absurd (Option.some.inj hok) he⟩
  | refused hcaptures he => exact absurd ⟨hcaptures, he⟩ ha
  | accepted hcaptures he es =>
      refine ⟨held_accepted id _ es, rfl, ?_, ?_, ?_, ?_⟩
      · simp [accepted, setThread]
      · simp [accepted, setThread]
      · simp [accepted, setThread, refsOf]
      · simp [accepted, setThread]

theorem Inv.step (h : Inv s) (a : SignalAct) (ha : ¬ a.Rejected) (hstep : s.step a = some s') : Inv s' := by
  cases a with
  | addTimeline call =>
      simp only [TimelineSignal.step] at hstep
      split_ifs at hstep with hret
      obtain rfl := Option.some.inj hstep
      exact h.addTimeline call hret ha
  | destroy =>
      simp only [TimelineSignal.step] at hstep
      split_ifs at hstep with hguard
      obtain rfl := Option.some.inj hstep
      have hheld := h.held
      rw [hguard.2] at hheld
      exact ⟨Held.toOwner (s := s) .owner (hheld.begin true s.fired) rfl, h.ids, fun hret => absurd hret hguard.1,
        h.failed, fun _ => rfl, h.fired⟩
  | fire =>
      simp only [TimelineSignal.step] at hstep
      split_ifs at hstep with hguard
      obtain rfl := Option.some.inj hstep
      have hheld := h.held.swap
      rw [hguard] at hheld
      refine ⟨Held.toOwner (s := s) .event (hheld.begin s.left true) rfl, h.ids, ?_, ?_, h.left, fun _ _ => rfl⟩
      · intro hret
        obtain ⟨id, rfl⟩ := h.fresh hret
        simp at hguard
      · intro hret
        simp [(h.failed hret).2] at hguard
  | move who =>
      obtain ⟨hsame, hwaiting, a, hheld, ha, hthread⟩ := move_spec h.held hstep
      have hret : s.ret ≠ none := by
        intro hret
        obtain ⟨id, rfl⟩ := h.fresh hret
        cases who <;> simp [TimelineSignal.step] at hstep
      refine ⟨hheld.toOwner who hthread, move_idsLogged h.ids hstep, ?_, ?_, ?_, ?_⟩
      · intro hret'
        exact absurd (hsame.ret ▸ hret') hret
      · intro hfail
        rw [hsame.ret] at hfail
        obtain ⟨hcaptured, hdone⟩ := h.failed hfail
        have howner : who = .owner := by
          cases who with
          | owner => rfl
          | event => simp [TimelineSignal.step, hdone] at hstep
        subst howner
        exact ⟨by rw [hsame.captured, hcaptured], by simpa [hthread] using hdone⟩
      · intro howner
        rw [hsame.left]
        apply h.left
        cases who with
        | owner => exact hwaiting
        | event => simpa [hthread] using howner
      · intro hok hevent
        rw [hsame.ret] at hok
        rw [hsame.fired]
        apply h.fired hok
        cases who with
        | owner => simpa [hthread] using hevent
        | event => exact hwaiting

theorem run_inv {as : List SignalAct} (has : ∀ a ∈ as, ¬ a.Rejected) (h : Inv s)
    (hexec : Trace.exec TimelineSignal.step s as = some s') : Inv s' := by
  induction as generalizing s with
  | nil =>
      obtain rfl := Option.some.inj hexec
      exact h
  | cons a as ih =>
      obtain ⟨t, hstep, hrest⟩ := Trace.exec_cons_eq_some.1 hexec
      exact ih (fun a' ha' => has a' (by simp [ha'])) (h.step a (has a (by simp)) hstep) hrest

/-! ## Both of them end -/

/-- The moves that are left at most, with `n` entries in the array. -/
def remaining (n : Nat) : SignalStage → Nat
  | .waiting => n + 5
  | .signalling => n + 4
  | .retiring i => n - i + 3
  | .putting => 2
  | .releasing => 1
  | .done | .oops => 0

theorem move_remaining (h : Held s who (s.thread who) b) (hstep : s.step (.move who) = some s') :
    remaining s.captured.length (s'.thread who) < remaining s.captured.length (s.thread who) := by
  cases hstage : s.thread who with
  | waiting => simp [step, hstage] at hstep
  | done => simp [step, hstage] at hstep
  | oops => simp [step, hstage] at hstep
  | signalling =>
      obtain rfl : s.hgslTimelineobjSignal who = s' := by simpa [step, hstage] using hstep
      unfold hgslTimelineobjSignal
      split_ifs <;> simp [setThread, remaining]
  | retiring i =>
      obtain rfl : s.drawobjTimelineobjRetire who i = s' := by simpa [step, hstage] using hstep
      have hcount := (h.turn i (by rw [hstage]; rfl)).array.1
      unfold drawobjTimelineobjRetire
      split_ifs with hfreed hi
      · simp [setThread, remaining]
      · split
        · simp [setThread, remaining]
        · split
          · simp [setThread, remaining]
          · simp [setThread, remaining]
            omega
      · simp [setThread, remaining]
  | putting =>
      obtain rfl : s.hgslDrawobjPut who = s' := by simpa [step, hstage] using hstep
      unfold hgslDrawobjPut
      split_ifs <;> cases who <;> simp [setThread, remaining, SignalActor.afterPut]
  | releasing =>
      obtain rfl : (s.putContext true).setThread who .done = s' := by simpa [step, hstage] using hstep
      simp [setThread, remaining]

/-- One who is not at its end can go on. -/
theorem Inv.goesOn (h : Inv s) (hret : s.ret ≠ none) (hwho : s.thread who ≠ .done) :
    ∃ a s', ¬ a.Rejected ∧ s.step a = some s' ∧ s'.captured = s.captured ∧ s'.ret = s.ret ∧
      s'.thread who.other = s.thread who.other ∧
      remaining s.captured.length (s'.thread who) < remaining s.captured.length (s.thread who) := by
  have hheld := h.held.ofActor who
  by_cases hwaiting : s.thread who = .waiting
  · cases who with
    | owner =>
        refine ⟨.destroy, _, id, if_pos ⟨hret, hwaiting⟩, rfl, rfl, rfl, ?_⟩
        simp [hwaiting, setThread, remaining]
    | event =>
        refine ⟨.fire, _, id, if_pos hwaiting, rfl, rfl, rfl, ?_⟩
        simp [hwaiting, setThread, remaining]
  · obtain ⟨s', hstep⟩ : ∃ s', s.step (.move who) = some s' := by
      have hok := hheld.ok.1
      cases hstage : s.thread who <;> simp_all [TimelineSignal.step]
    obtain ⟨hsame, -, a, -, -, hthread⟩ := move_spec h.held hstep
    refine ⟨.move who, s', id, hstep, hsame.captured, hsame.ret, ?_, move_remaining hheld hstep⟩
    rw [hthread, Function.update_of_ne who.other_ne]

theorem Inv.ends (h : Inv s) (hret : s.ret ≠ none) :
    ∃ as s', (∀ a ∈ as, ¬ a.Rejected) ∧ Trace.exec TimelineSignal.step s as = some s' ∧ s'.ret = s.ret ∧
      s'.captured = s.captured ∧ s'.thread .owner = .done ∧ s'.thread .event = .done := by
  induction hn : remaining s.captured.length (s.thread .owner) + remaining s.captured.length (s.thread .event)
    using Nat.strong_induction_on generalizing s with
  | _ n ih =>
      by_cases hdone : ∀ who, s.thread who = .done
      · exact ⟨[], s, by simp, rfl, rfl, rfl, hdone .owner, hdone .event⟩
      · obtain ⟨who, hwho⟩ := not_forall.1 hdone
        obtain ⟨a, t, ha, hstep, hcaptured, hret', hother, hless⟩ := h.goesOn hret hwho
        have hsum : remaining t.captured.length (t.thread .owner) +
            remaining t.captured.length (t.thread .event) < n := by
          rw [hcaptured, ← hn]
          cases who with
          | owner =>
              rw [show t.thread .event = s.thread .event from hother]
              omega
          | event =>
              rw [show t.thread .owner = s.thread .owner from hother]
              omega
        obtain ⟨as, s', has, hexec, hret'', hcaptured', hends⟩ := ih _ hsum (h.step a ha hstep) (hret' ▸ hret) rfl
        refine ⟨a :: as, s', ?_, Trace.exec_cons_eq_some.2 ⟨t, hstep, hexec⟩, by rw [hret'', hret'],
          by rw [hcaptured', hcaptured], hends⟩
        intro a' ha'
        rcases List.mem_cons.1 ha' with rfl | ha'
        · exact ha
        · exact has a' ha'

/-! ## A refused event -/

/-- Behind a refused event. -/
structure Refused (s : TimelineSignal) : Prop where
  ret : s.ret ≠ none
  event : s.thread .event = .done
  timelines : s.obj.timelines = none
  count : s.obj.count ≠ 0
  freed : s.obj.freed = false
  owner : (s.thread .owner = .waiting ∨ s.thread .owner = .signalling) ∧ s.obj.sigRefcount = 1 ∨
    s.thread .owner = .retiring 0 ∨ s.thread .owner = .oops

theorem Refused.step (h : Refused s) (a : SignalAct) (hstep : s.step a = some s') : Refused s' := by
  cases a with
  | addTimeline call => simp [TimelineSignal.step, h.ret] at hstep
  | fire => simp [TimelineSignal.step, h.event] at hstep
  | destroy =>
      simp only [TimelineSignal.step] at hstep
      split_ifs at hstep with hguard
      obtain rfl := Option.some.inj hstep
      have hsig : s.obj.sigRefcount = 1 := by simpa [hguard.2] using h.owner
      exact ⟨h.ret, h.event, h.timelines, h.count, h.freed, .inl ⟨.inr rfl, hsig⟩⟩
  | move who =>
      cases who with
      | event => simp [TimelineSignal.step, h.event] at hstep
      | owner =>
          rcases h.owner with ⟨howner | howner, hsig⟩ | howner | howner
          · simp [TimelineSignal.step, howner] at hstep
          · obtain rfl : s.hgslTimelineobjSignal .owner = s' := by simpa [TimelineSignal.step, howner] using hstep
            unfold hgslTimelineobjSignal
            rw [if_neg (by simp [h.freed]), if_pos hsig]
            exact ⟨h.ret, h.event, h.timelines, h.count, h.freed, .inr (.inl rfl)⟩
          · obtain rfl : s.drawobjTimelineobjRetire .owner 0 = s' := by
              simpa [TimelineSignal.step, howner] using hstep
            unfold drawobjTimelineobjRetire
            -- the array is gone and its count is not
            rw [if_neg (by simp [h.freed]), if_pos (Nat.pos_of_ne_zero h.count), h.timelines]
            exact ⟨h.ret, h.event, h.timelines, h.count, h.freed, .inr (.inr rfl)⟩
          · simp [TimelineSignal.step, howner] at hstep

/-- A run with a refused event comes to its object untouched, and goes on behind the refusal. -/
theorem refused_of_mem {as : List SignalAct} (h : Inv s) (hexec : Trace.exec TimelineSignal.step s as = some s')
    {a : SignalAct} (ha : a ∈ as) (hrejected : a.Rejected) : Refused s' := by
  induction as generalizing s with
  | nil => simp at ha
  | cons a' as ih =>
      obtain ⟨t, hstep, hrest⟩ := Trace.exec_cons_eq_some.1 hexec
      by_cases ha' : a'.Rejected
      · have hrefused : Refused t := by
          cases a' with
          | destroy => exact ha'.elim
          | fire => exact ha'.elim
          | move who => exact ha'.elim
          | addTimeline call =>
              simp only [TimelineSignal.step] at hstep
              split_ifs at hstep with hret
              obtain ⟨id, rfl⟩ := h.fresh hret
              obtain rfl := Option.some.inj hstep
              have hadded := hgslDrawobjAddTimeline_added (s := { timelineId := id }) call rfl
              generalize hgslDrawobjAddTimeline { timelineId := id } call = t at hadded
              cases hadded with
              | failed hcaptures _ => exact absurd ha'.1 hcaptures
              | refused hcaptures _ =>
                  exact ⟨by simp, rfl, rfl, by simpa using hcaptures.2.1, rfl, .inl ⟨.inl rfl, rfl⟩⟩
              | accepted _ he _ => exact absurd he ha'.2
        exact Trace.exec_invariant (fun s a s' h hstep => Refused.step h a hstep) hrefused hrest
      · rcases List.mem_cons.1 ha with rfl | ha
        · exact absurd hrejected ha'
        · exact ih (h.step a' ha' hstep) hrest ha

/-! ## Signalling once -/

/-- What is to hold of the timeline object in every state. -/
structure SignalsOnce (s : TimelineSignal) : Prop where
  noOops : ∀ who, s.thread who ≠ .oops
  /-- an error leaves no reference behind and forwards nothing -/
  failed : ∀ e, s.ret = some e → e ≠ 0 → s.forwards = [] ∧ (∀ tl, s.timelineRefs tl = 0) ∧
    (s.thread .owner = .done → s.obj.freed = true ∧ s.contextRefs = 0)
  order : s.forwards <+: s.captured
  /-- each forward is a call with the id of its timeline -/
  ids : s.isyncForwards = s.forwards.map fun e => (s.timelineId e.1, e.2)
  afterBoth : s.forwards ≠ [] → s.left = true ∧ s.fired = true
  refs : ∀ tl, s.timelineRefs tl = (((s.captured.drop s.forwards.length).map Prod.fst).count tl : Nat)
  signalled : s.ret = some 0 → s.thread .owner = .done → s.thread .event = .done →
    s.forwards = s.captured ∧ s.obj.freed = true ∧ (∀ tl, s.timelineRefs tl = 0) ∧ s.contextRefs = 0

/-- The object when both are at their end. -/
theorem Held.ended (h : Held s .owner .done .done) : s.forwards = s.captured ∧ s.obj.freed = true ∧
    (∀ tl, s.timelineRefs tl = 0) ∧ s.contextRefs = 0 := by
  have hforwards : s.forwards = s.captured := h.after h.sig rfl rfl
  have href : s.obj.refcount = 0 := h.ref
  refine ⟨hforwards, by simp [h.freed, href], ?_, ?_⟩
  · intro tl
    simp [h.refs tl, hforwards]
  · simp [h.context, href, hforwards, SignalActor.holdsContext, SignalActor.other]

theorem Held.inOrder (h : Held s who a b) : s.forwards <+: s.captured := by
  by_cases hsig : s.obj.sigRefcount = 0
  · cases ha : a.turn with
    | some i =>
        rw [(h.turn i ha).forwards]
        exact List.take_prefix i s.captured
    | none =>
        cases hb : b.turn with
        | some i =>
            rw [(h.turnOther i hb).forwards]
            exact List.take_prefix i s.captured
        | none => rw [h.after hsig ha hb]
  · rw [(h.before hsig).1]
    exact List.nil_prefix

theorem Inv.signalsOnce (h : Inv s) : SignalsOnce s where
  noOops := fun who => (h.held.ofActor who).ok.1
  failed := by
    intro e hret he
    obtain ⟨hcaptured, hevent⟩ := h.failed (by simpa [hret] using he)
    have hforwards : s.forwards = [] := by simpa [hcaptured] using h.held.inOrder
    refine ⟨hforwards, fun tl => by simp [h.held.refs tl, hcaptured], fun howner => ?_⟩
    have hheld := h.held
    rw [howner, hevent] at hheld
    exact ⟨hheld.ended.2.1, hheld.ended.2.2.2⟩
  order := h.held.inOrder
  ids := h.ids
  afterBoth := by
    intro hne
    have hsig : s.obj.sigRefcount = 0 := by
      by_contra hpos
      exact hne (h.held.before hpos).1
    have hsum := h.held.sig
    have hret : s.ret = some 0 := by
      by_contra hret
      exact hne (by simpa [(h.failed hret).1] using h.held.inOrder)
    refine ⟨h.left ?_, h.fired hret ?_⟩
    · intro howner
      rw [howner] at hsum
      simp only [SignalStage.signals] at hsum
      omega
    · intro hevent
      rw [hevent] at hsum
      simp only [SignalStage.signals] at hsum
      omega
  refs := h.held.refs
  signalled := by
    intro _ howner hevent
    have hheld := h.held
    rw [howner, hevent] at hheld
    exact hheld.ended

/-- **Timeline objects.** In every run without a refused event, a timeline object signals once or not at all, and
    once `hgsl_drawobj_add_timeline` has returned the two who signal can be run to their end. Where the owner
    has come to its end, it signals once or not at all exactly when no event was refused. -/
theorem timelineobj_signals_once (id : Nat → BitVec 32) (as : List SignalAct) (s : TimelineSignal)
    (hexec : Trace.exec step { timelineId := id } as = some s) :
    ((∀ a ∈ as, ¬ a.Rejected) → SignalsOnce s ∧ (s.ret ≠ none → ∃ bs s', (∀ a ∈ bs, ¬ a.Rejected) ∧
      Trace.exec step s bs = some s' ∧ s'.ret = s.ret ∧ s'.captured = s.captured ∧ s'.thread .owner = .done ∧
        s'.thread .event = .done)) ∧
      (s.thread .owner = .done ∨ s.thread .owner = .oops → (SignalsOnce s ↔ ∀ a ∈ as, ¬ a.Rejected)) := by
  refine ⟨?_, ?_⟩
  · intro has
    have hinv := run_inv has (inv_init id) hexec
    exact ⟨hinv.signalsOnce, hinv.ends⟩
  · intro hend
    constructor
    · intro honce a ha hrejected
      have howner := (refused_of_mem (inv_init id) hexec ha hrejected).owner
      rcases hend with hend | hend
      · simp [hend] at howner
      · exact honce.noOops .owner hend
    · intro has
      exact (run_inv has (inv_init id) hexec).signalsOnce

/-- A value for timeline 7, whose id is 3. -/
def oneTurn : CaptureTurn := ⟨some ⟨5#64, 3#32, 0#32⟩, some 7, true⟩

/-- Timeline 7 is registered under 3, timeline 8 under 4. -/
def registeredIds (tl : Nat) : BitVec 32 := if tl = 7 then 3#32 else if tl = 8 then 4#32 else 0#32

/-- Two timelines, signalled by the event after the dispatcher has let go of the object. -/
def signalledRun : List SignalAct :=
  [.addTimeline { turns := [oneTurn, ⟨some ⟨9#64, 4#32, 0#32⟩, some 8, true⟩] }, .destroy, .move .owner, .fire,
    .move .event, .move .event, .move .event, .move .event, .move .owner, .move .event, .move .event]

theorem timelineobj_signals_once_run : ∃ s, Trace.exec step { timelineId := registeredIds } signalledRun = some s ∧
    s.isyncForwards = [(3#32, 5#64), (4#32, 9#64)] ∧ s.timelineRefs 7 = 0 ∧ s.contextRefs = 0 ∧ SignalsOnce s := by
  have heval : (Trace.exec step { timelineId := registeredIds } signalledRun).map
      (fun s => (s.isyncForwards, s.timelineRefs 7, s.contextRefs)) =
        some ([(3#32, 5#64), (4#32, 9#64)], 0, 0) := by
    decide +kernel
  obtain ⟨s, hs, heq⟩ := Option.map_eq_some_iff.1 heval
  have hnone : ∀ a ∈ signalledRun, ¬ a.Rejected := by simp [signalledRun, SignalAct.Rejected, oneTurn]
  have honce := ((timelineobj_signals_once registeredIds signalledRun s hs).1 hnone).1
  simp only [Prod.mk.injEq] at heq
  exact ⟨s, hs, heq.1, heq.2.1, heq.2.2, honce⟩

/-- Timeline 7 alone, but `hgsl_add_event` turns the event down. -/
def refusedRun : List SignalAct :=
  [.addTimeline { turns := [oneTurn], addEvent := -EINVAL }, .destroy, .move .owner, .move .owner]

/-- All references are given back, and then `hgsl_drawobj_destroy` walks the array that is gone. -/
theorem refused_event_null_array : ∃ s, Trace.exec step { timelineId := registeredIds } refusedRun = some s ∧
    s.ret = some (-EINVAL) ∧ s.timelineRefs 7 = 0 ∧ s.obj.timelines = none ∧ s.obj.count = 1 ∧
      s.thread .owner = .oops ∧ ¬ SignalsOnce s := by
  have heval : (Trace.exec step { timelineId := registeredIds } refusedRun).map (fun s =>
      (s.ret, s.timelineRefs 7, s.obj.timelines, s.obj.count, s.thread .owner)) =
      some (some (-EINVAL), 0, none, 1, .oops) := by decide +kernel
  obtain ⟨s, hs, heq⟩ := Option.map_eq_some_iff.1 heval
  simp only [Prod.mk.injEq] at heq
  exact ⟨s, hs, heq.1, heq.2.1, heq.2.2.1, heq.2.2.2.1, heq.2.2.2.2, fun h => h.noOops .owner heq.2.2.2.2⟩

end TimelineSignal

end Hgsl
