import Hgsl.Events.ExactlyOnce

set_option autoImplicit false

/-! # The processed timestamp

`_process_event_group` leaves the list alone while `processed` is at or past the retired timestamp. This
hides no event, because then nothing has retired since the last call: every listed event was compared
with some reading between `processed` and the retired timestamp, and these are one and the same. What
makes it work is that the timestamp moves by less than half of the circle from one call to the next,
the stretch before the first call included. -/

namespace Hgsl

namespace EventGroup

/-! ## Scope -/

/-- Every reading of the retired timestamp succeeds. -/
def readsRetired (g : EventGroup) : EventAct → Bool
  | .link _ retired | .sweep _ retired => retired = g.retired
  | _ => true

/-- The retired timestamp moves by less than half of the circle in total from one call of
    `_process_event_group` to the next. -/
def movesLittle (g : EventGroup) : EventAct → Bool
  | .retire n => g.moved + n < 2 ^ 31
  | _ => true

/-! ## Invariant -/

/-- The retired timestamp as it was after it had moved `k` since the last call. -/
def retiredAt (g : EventGroup) (k : Nat) : BitVec 32 := g.processed + BitVec.ofNat 32 k

/-- Every listed event was compared with a reading taken since the last call, or by it. -/
structure Compared (g : EventGroup) : Prop where
  retired : g.retired = g.retiredAt g.moved
  moved : g.moved < 2 ^ 31
  event : ∀ e ∈ g.events, ∃ k ≤ g.moved, hgslTs32Ge (g.retiredAt k) e.timestamp = false

/-- The context is gone, or the events have been compared. -/
structure Current (g : EventGroup) : Prop where
  intact : Intact g
  compared : g.kref.count = 0 ∨ Compared g

theorem Current.fresh (flags : BitVec 32) : Current (fresh flags) where
  intact := ⟨Accounted.fresh flags, Held.fresh flags⟩
  compared := .inr ⟨rfl, Nat.two_pow_pos 31, nofun⟩

/-- A timestamp that is at or past one that lies less than half of the circle ahead has not moved. -/
theorem moved_eq_zero_of_ge {p : BitVec 32} {k : Nat} (hk : k < 2 ^ 31)
    (h : hgslTs32Ge p (p + BitVec.ofNat 32 k) = true) : k = 0 := by
  rw [hgslTs32Ge_iff, Serial.Ge, Serial.dist] at h
  rw [BitVec.toNat_sub, BitVec.toNat_add, BitVec.toNat_ofNat] at h
  have hp := p.isLt
  omega

/-- The events that stay listed keep their comparisons. -/
theorem Compared.keep {g g' : EventGroup} (h : Compared g) (hevents : ∀ e ∈ g'.events, e ∈ g.events)
    (hretired : g'.retired = g.retired) (hmoved : g'.moved = g.moved)
    (hprocessed : g'.processed = g.processed) : Compared g' := by
  have hat : g'.retiredAt = g.retiredAt := by
    unfold retiredAt
    rw [hprocessed]
  refine ⟨?_, ?_, ?_⟩
  · rw [hretired, hmoved, hat]
    exact h.retired
  · rw [hmoved]
    exact h.moved
  · intro e he
    rw [hmoved, hat]
    exact h.event e (hevents e he)

/-- **The processed shortcut.** After a call every listed event has been compared with its reading. -/
theorem Compared.process {g : EventGroup} (h : Compared g) (flush : Bool) :
    ∀ e ∈ (g.processEventGroup flush g.retired).events,
      hgslTs32Ge g.retired e.timestamp = false := by
  intro e he
  unfold processEventGroup at he
  split at he
  · next hearly =>
      rw [Bool.and_eq_true] at hearly
      have hge := hearly.2
      rw [h.retired] at hge ⊢
      have hzero := moved_eq_zero_of_ge h.moved hge
      obtain ⟨k, hk, hlater⟩ := h.event e he
      rw [hzero] at hk ⊢
      rwa [Nat.le_zero.1 hk] at hlater
  · have hnone := (mem_sweepEvents.1 he).2
    unfold processResult at hnone
    split at hnone
    · cases hnone
    · next hge => exact Bool.not_eq_true _ ▸ hge

theorem Compared.sweep {g : EventGroup} (h : Compared g) (flush : Bool) :
    Compared ((g.processEventGroup flush g.retired).noteProcessed flush) := by
  have hcompared := h.process flush
  have hprocessed : (g.processEventGroup flush g.retired).processed = g.retired ∧
      (g.processEventGroup flush g.retired).retired = g.retired := by
    unfold processEventGroup
    split
    · next hearly =>
        rw [Bool.and_eq_true] at hearly
        have hge := hearly.2
        rw [h.retired] at hge
        refine ⟨?_, rfl⟩
        rw [h.retired, moved_eq_zero_of_ge h.moved hge]
        exact (BitVec.add_zero g.processed).symm
    · exact ⟨rfl, rfl⟩
  have hat : ((g.processEventGroup flush g.retired).noteProcessed flush).retiredAt 0 = g.retired := by
    show (g.processEventGroup flush g.retired).processed + 0#32 = g.retired
    rw [BitVec.add_zero, hprocessed.1]
  refine ⟨?_, Nat.two_pow_pos 31, ?_⟩
  · show (g.processEventGroup flush g.retired).retired = _
    rw [hprocessed.2]
    exact hat.symm
  · intro e he
    refine ⟨0, le_rfl, ?_⟩
    rw [hat]
    exact hcompared e he

theorem Compared.link {g : EventGroup} (h : Compared g) (e : HgslEvent) :
    Compared (g.linkEvent e g.retired) := by
  unfold linkEvent
  split
  · exact h.keep (fun _ he => he) rfl rfl rfl
  · next hge =>
      refine ⟨h.retired, h.moved, ?_⟩
      intro e' he'
      rcases List.mem_append.1 he' with hold | hnew
      · exact h.event e' hold
      · rw [List.mem_singleton.1 hnew]
        refine ⟨g.moved, le_rfl, ?_⟩
        show hgslTs32Ge (g.retiredAt g.moved) e.timestamp = false
        rw [← h.retired]
        exact Bool.not_eq_true _ ▸ hge

theorem Compared.retire {g : EventGroup} (h : Compared g) {n : Nat} (hn : g.moved + n < 2 ^ 31) :
    Compared { g with retired := g.retired + BitVec.ofNat 32 n, moved := g.moved + n } := by
  refine ⟨?_, hn, ?_⟩
  · show g.retired + BitVec.ofNat 32 n = g.processed + BitVec.ofNat 32 (g.moved + n)
    rw [h.retired, retiredAt, BitVec.ofNat_add, BitVec.add_assoc]
  · intro e he
    obtain ⟨k, hk, hlater⟩ := h.event e he
    exact ⟨k, Nat.le_add_right_of_le hk, hlater⟩

/-! ## Steps -/

/-- Nothing brings a context back, and nobody works on the group of a context that is gone. -/
theorem Intact.count_eq_zero {g g' : EventGroup} {a : EventAct} (h : Intact g)
    (hzero : g.kref.count = 0) (hstep : g.step a = some g') : g'.kref.count = 0 := by
  have hnobody : ∀ x, x ∉ g.kref.holders := by
    intro x hx
    exact h.held.balanced.count_ne_zero hx hzero
  have heffect := step_cases hstep
  clear hstep
  cases heffect with
  | getContext _ _ hpos | process _ _ _ hpos | getOther hpos => exact absurd hzero hpos
  | @link t _ e hthread => exact absurd ((h.held.event e.id).2 (.inl ⟨t, e, hthread, rfl⟩)) (hnobody _)
  | @sweep t _ flush hthread => exact absurd (h.held.thread t (.inr ⟨flush, hthread⟩)) (hnobody _)
  | putContext t hthread => exact absurd (h.held.thread t (.inl hthread)) (hnobody _)
  | putOther hmem => exact absurd hmem (hnobody _)
  | finishWork _ =>
      show g.kref.count - 1 = 0
      omega
  | refused _ _ _ _ _ _ _ _ | allocate _ _ _ _ _ _ _ | noContext _ _ _ | processGone _ _ _ _
  | cancelTimestamp _ | cancelEvent _ _ _ | runWork _ _ | otherGone _ | retire _ => exact hzero

/-- **Step lemma.** -/
theorem Compared.step {g g' : EventGroup} {a : EventAct} (h : Compared g)
    (hreads : g.readsRetired a = true) (hmoves : g.movesLittle a = true)
    (hstep : g.step a = some g') : g'.kref.count = 0 ∨ Compared g' := by
  have heffect := step_cases hstep
  clear hstep
  cases heffect with
  | link t retired hthread =>
      obtain rfl := of_decide_eq_true hreads
      exact .inr ((h.link _).keep (fun _ he => he) rfl rfl rfl)
  | processGone t flush _ hzero => exact .inl hzero
  | @sweep t retired flush hthread =>
      obtain rfl := of_decide_eq_true hreads
      exact .inr ((h.sweep flush).keep (fun _ he => he) rfl rfl rfl)
  | cancelTimestamp timestamp =>
      refine .inr (h.keep ?_ rfl rfl rfl)
      exact fun e he => (mem_sweepEvents.1 he).1
  | cancelEvent timestamp func priv =>
      refine .inr (h.keep ?_ rfl rfl rfl)
      exact fun e he => (sweepFirst_swept _ g.events).perm.subset (List.mem_append_left _ he)
  | retire n => exact .inr (h.retire (of_decide_eq_true hmoves))
  | refused _ _ _ _ _ _ _ _ | allocate _ _ _ _ _ _ _ | getContext _ _ _ | noContext _ _ _
  | process _ _ _ _ | putContext _ _ | runWork _ _ | finishWork _ | getOther _ | otherGone _
  | putOther _ => exact .inr (h.keep (fun _ he => he) rfl rfl rfl)

theorem Current.step {g g' : EventGroup} {a : EventAct} (h : Current g)
    (hstep : Trace.guarded (fun g a => g.readsRetired a = true ∧ g.movesLittle a = true) step g a =
      some g') : Current g' := by
  obtain ⟨⟨hreads, hmoves⟩, hstep⟩ := Trace.guarded_eq_some.1 hstep
  refine ⟨h.intact.step hstep, ?_⟩
  rcases h.compared with hzero | hcompared
  · exact .inl (h.intact.count_eq_zero hzero hstep)
  · exact hcompared.step hreads hmoves hstep

/-! ## Runs -/

/-- Whatever call a run ends with, no event is left on the list that the reading of this call has
    reached. -/
theorem not_retired_of_processed (flags : BitVec 32) (as : List EventAct) (t : Nat)
    (retired : BitVec 32) (g : EventGroup)
    (h : Trace.exec (Trace.guarded (fun g a => g.readsRetired a = true ∧ g.movesLittle a = true) step)
      (fresh flags) (as ++ [.sweep t retired]) = some g) :
    ∀ e ∈ g.events, hgslTs32Ge retired e.timestamp = false := by
  rw [Trace.exec_append] at h
  obtain ⟨s, hs, hlast⟩ := Option.bind_eq_some_iff.1 h
  have hcurrent : Current s := Trace.exec_invariant (fun _ _ _ h hstep => h.step hstep)
    (Current.fresh flags) hs
  obtain ⟨g', hg', hnil⟩ := Trace.exec_cons_eq_some.1 hlast
  obtain rfl := Option.some.inj hnil
  obtain ⟨⟨hreads, -⟩, hstep⟩ := Trace.guarded_eq_some.1 hg'
  obtain rfl := of_decide_eq_true hreads
  cases step_cases hstep with
  | @sweep _ _ flush hthread =>
      -- whoever sweeps has a reference, so the context is still there
      have hheld := hcurrent.intact.held.thread t (.inr ⟨flush, hthread⟩)
      have halive := hcurrent.intact.held.balanced.count_ne_zero hheld
      exact (hcurrent.compared.resolve_left halive).process flush

/-- Two calls find nothing new and return early, the third one signals an event. -/
def shortcutRun : List EventAct :=
  addedEvent 1 4#32 7 0#32 ++ addedEvent 1 9#32 8 0#32 ++
    [.process 2 false, .sweep 2 0#32, .putContext 2, .retire 3, .process 2 false, .sweep 2 3#32,
      .putContext 2, .process 2 false, .sweep 2 3#32, .putContext 2, .retire 2, .process 2 false]

theorem not_retired_of_processed_shortcutRun :
    ∃ g, Trace.exec (Trace.guarded (fun g a => g.readsRetired a = true ∧ g.movesLittle a = true) step)
        (fresh 0x80#32) (shortcutRun ++ [.sweep 2 5#32]) = some g ∧
      g.events.map (·.timestamp) = [9#32] ∧
      ∀ e ∈ g.events, hgslTs32Ge 5#32 e.timestamp = false := by
  have heval : (Trace.exec (Trace.guarded
      (fun g a => g.readsRetired a = true ∧ g.movesLittle a = true) step)
        (fresh 0x80#32) (shortcutRun ++ [.sweep 2 5#32])).map (fun g => g.events.map (·.timestamp)) =
      some [9#32] := by
    decide +kernel
  obtain ⟨g, hg, hevents⟩ := Option.map_eq_some_iff.1 heval
  exact ⟨g, hg, hevents, not_retired_of_processed _ _ _ _ g hg⟩

/-- The bound is needed before the first call as well: the retired timestamp moves to 1, an event for
    2^31 is added, it moves on to 2^31 + 1, and the first call returns early. -/
theorem retired_event_hidden_from_first_call :
    ∃ g ∈ Trace.exec (Trace.guarded (fun g a => g.readsRetired a = true) step) (fresh 0x80#32)
        ([.retire 1] ++ addedEvent 1 0x80000000#32 7 1#32 ++
          [.retire 0x80000000, .process 2 false, .sweep 2 0x80000001#32]),
      ∃ e ∈ g.events, hgslTs32Ge 0x80000001#32 e.timestamp = true := by
  decide +kernel

end EventGroup

end Hgsl
