import Hgsl.Events.Group
import Hgsl.Lib.Once

set_option autoImplicit false

/-! # Every accepted event fires once

Two accounts of the events. The first one is about the work: an accepted event is on the list or its
work has been queued, and the worker gets the works in the order in which they were queued. The second
one is about the reference to the context: an event holds one from `hgsl_context_get` until its work has
run. The second is needed for the first: a flush that does not get a reference of its own leaves the list
alone, and it can only fail when no event is left to hold one. -/

namespace Hgsl

namespace EventGroup

/-! ## The loops -/

/-- A loop over the list splits it, and the signalled events are those that it is meant for. -/
structure Swept (result : HgslEvent → Option EventResult) (es : List HgslEvent)
    (r : List HgslEvent × List (HgslEvent × EventResult)) : Prop where
  perm : (r.1 ++ r.2.map Prod.fst).Perm es
  result_eq : ∀ w ∈ r.2, result w.1 = some w.2

theorem sweepEvents_swept (result : HgslEvent → Option EventResult) (es : List HgslEvent) :
    Swept result es (sweepEvents result es) := by
  induction es with
  | nil => exact ⟨.nil, nofun⟩
  | cons e es ih =>
      unfold sweepEvents
      dsimp only
      split
      · next res hres =>
          refine ⟨List.perm_middle.trans (ih.perm.cons e), ?_⟩
          intro w hw
          rcases List.mem_cons.1 hw with rfl | hw
          · exact hres
          · exact ih.result_eq w hw
      · exact ⟨ih.perm.cons e, ih.result_eq⟩

theorem sweepFirst_swept (result : HgslEvent → Option EventResult) (es : List HgslEvent) :
    Swept result es (sweepFirst result es) := by
  induction es with
  | nil => exact ⟨.nil, nofun⟩
  | cons e es ih =>
      unfold sweepFirst
      split
      · next res hres =>
          refine ⟨List.perm_append_singleton e es, ?_⟩
          intro w hw
          rw [List.mem_singleton.1 hw]
          exact hres
      · exact ⟨ih.perm.cons e, ih.result_eq⟩

/-- The events that stay are those that the loop is not meant for. -/
theorem mem_sweepEvents {result : HgslEvent → Option EventResult} {es : List HgslEvent}
    {e : HgslEvent} : e ∈ (sweepEvents result es).1 ↔ e ∈ es ∧ result e = none := by
  induction es with
  | nil => simp [sweepEvents]
  | cons e' es ih =>
      unfold sweepEvents
      dsimp only
      split
      · next res hres =>
          rw [ih, List.mem_cons]
          constructor
          · exact fun h => ⟨.inr h.1, h.2⟩
          · rintro ⟨rfl | hmem, hnone⟩
            · rw [hres] at hnone
              cases hnone
            · exact ⟨hmem, hnone⟩
      · next hres =>
          rw [List.mem_cons, List.mem_cons, ih]
          constructor
          · rintro (rfl | h)
            · exact ⟨.inl rfl, hres⟩
            · exact ⟨.inr h.1, h.2⟩
          · rintro ⟨rfl | hmem, hnone⟩
            · exact .inl rfl
            · exact .inr ⟨hmem, hnone⟩

theorem processResult_flush (retired : BitVec 32) (e : HgslEvent) :
    processResult true retired e ≠ none := by
  unfold processResult
  split
  · exact Option.some_ne_none _
  · exact Option.some_ne_none _

/-! ## The works -/

/-- A work is queued as retired on a reading of the retired timestamp that has reached the event, and
    as cancelled by a flush or by a cancel that matches. -/
def Caused (s : EventSignal) : Prop :=
  match s.result, s.cause with
  | .retired, .add r | .retired, .process _ r => hgslTs32Ge r s.event.timestamp = true
  | .cancelled, .process flush r => flush = true ∧ hgslTs32Ge r s.event.timestamp = false
  | .cancelled, .cancelTimestamp ts => s.event.timestamp = ts
  | .cancelled, .cancel ts func priv =>
    s.event.timestamp = ts ∧ s.event.func = func ∧ s.event.priv = priv
  | _, _ => False

/-- The event that a thread in `hgsl_add_event` is working on. -/
def ofThread : EventThread → Option HgslEvent
  | .adding e | .linking e => some e
  | _ => none

structure Accounted (g : EventGroup) : Prop where
  once : Once g.accepted (g.events.map (·.id)) (g.signals.map (·.event.id))
  delivered : g.signals.map (·.work) = g.ran ++ g.worker.toList ++ g.works
  caused : ∀ s ∈ g.signals, Caused s
  acceptedLt : ∀ id ∈ g.accepted, id < g.nextId
  pending : ∀ t e, ofThread (g.thread t) = some e → e.id < g.nextId ∧ e.id ∉ g.accepted
  unique : ∀ t t' e e', ofThread (g.thread t) = some e → ofThread (g.thread t') = some e' →
    e.id = e'.id → t = t'
  flushed : ∀ e ∈ g.events, e.id ∉ g.flushed
  flushedSub : ∀ id ∈ g.flushed, id ∈ g.accepted

theorem Accounted.fresh (flags : BitVec 32) : Accounted (fresh flags) where
  once := .nil
  delivered := rfl
  caused := nofun
  acceptedLt := nofun
  pending := nofun
  unique := nofun
  flushed := nofun
  flushedSub := nofun

/-- The works that have run are those of signalled events. -/
theorem Accounted.ran_signalled {g : EventGroup} (h : Accounted g) {id : Nat}
    (hran : id ∈ (g.ran ++ g.worker.toList).map (·.1.id)) : id ∈ g.signals.map (·.event.id) := by
  have heq : g.signals.map (·.event.id) = (g.signals.map (·.work)).map (·.1.id) := by
    rw [List.map_map]
    rfl
  rw [heq, h.delivered, List.map_append]
  exact List.mem_append_left _ hran

theorem Accounted.ran_nodup {g : EventGroup} (h : Accounted g) :
    ((g.ran ++ g.worker.toList).map (·.1.id)).Nodup := by
  have heq : g.signals.map (·.event.id) = (g.signals.map (·.work)).map (·.1.id) := by
    rw [List.map_map]
    rfl
  have hnodup := h.once.settled_nodup
  rw [heq, h.delivered, List.map_append] at hnodup
  exact (List.nodup_append.1 hnodup).1

/-! ### Moves -/

/-- A thread moves on with the event that it has, or without one. -/
theorem Accounted.setThread {g : EventGroup} (h : Accounted g) {t : Nat} {th : EventThread}
    (hth : ∀ e, ofThread th = some e → ofThread (g.thread t) = some e) :
    Accounted (g.setThread t th) := by
  have hsame : ∀ t' e, ofThread ((g.setThread t th).thread t') = some e →
      ofThread (g.thread t') = some e := by
    intro t' e he
    by_cases ht : t' = t
    · subst ht
      rw [setThread_self] at he
      exact hth e he
    · rwa [setThread_of_ne _ _ ht] at he
  exact { h with
    pending := fun t' e he => h.pending t' e (hsame t' e he)
    unique := fun t₁ t₂ e₁ e₂ h₁ h₂ => h.unique t₁ t₂ e₁ e₂ (hsame t₁ e₁ h₁) (hsame t₂ e₂ h₂) }

/-- A thread allocates an event. -/
theorem Accounted.allocate {g : EventGroup} (h : Accounted g) {t : Nat} {e : HgslEvent}
    (hid : e.id = g.nextId) :
    Accounted ({ g with nextId := g.nextId + 1 }.setThread t (.adding e)) := by
  have hcases : ∀ t' e', ofThread (({ g with nextId := g.nextId + 1 }.setThread t
      (.adding e)).thread t') = some e' →
        t' = t ∧ e'.id = g.nextId ∨ t' ≠ t ∧ ofThread (g.thread t') = some e' := by
    intro t' e' he'
    by_cases ht : t' = t
    · subst ht
      rw [setThread_self] at he'
      exact .inl ⟨rfl, (Option.some.inj he') ▸ hid⟩
    · rw [setThread_of_ne _ _ ht] at he'
      exact .inr ⟨ht, he'⟩
  refine { h with acceptedLt := ?_, pending := ?_, unique := ?_ }
  · exact fun id hmem => Nat.lt_succ_of_lt (h.acceptedLt id hmem)
  · intro t' e' he'
    rcases hcases t' e' he' with ⟨-, hid'⟩ | ⟨-, hold⟩
    · rw [hid']
      exact ⟨Nat.lt_succ_self _, fun hmem => Nat.lt_irrefl _ (h.acceptedLt _ hmem)⟩
    · obtain ⟨hlt, hnot⟩ := h.pending t' e' hold
      exact ⟨Nat.lt_succ_of_lt hlt, hnot⟩
  · intro t₁ t₂ e₁ e₂ h₁ h₂ heq
    rcases hcases t₁ e₁ h₁ with ⟨ht₁, hid₁⟩ | ⟨-, hold₁⟩
    · rcases hcases t₂ e₂ h₂ with ⟨ht₂, -⟩ | ⟨-, hold₂⟩
      · exact ht₁.trans ht₂.symm
      · exact absurd (h.pending t₂ e₂ hold₂).1 (by omega)
    · rcases hcases t₂ e₂ h₂ with ⟨-, hid₂⟩ | ⟨-, hold₂⟩
      · exact absurd (h.pending t₁ e₁ hold₁).1 (by omega)
      · exact h.unique t₁ t₂ e₁ e₂ hold₁ hold₂ heq

/-- A loop signals some of the listed events. -/
theorem Accounted.signal {g : EventGroup} (h : Accounted g) {cause : SignalCause}
    {result : HgslEvent → Option EventResult}
    {r : List HgslEvent × List (HgslEvent × EventResult)} (hswept : Swept result g.events r)
    (hcaused : ∀ e res, result e = some res → Caused ⟨e, res, cause⟩) :
    Accounted (g.signalEvents cause r) := by
  refine { h with once := ?_, delivered := ?_, caused := ?_, flushed := ?_ }
  · show Once g.accepted (r.1.map (·.id))
      ((g.signals ++ r.2.map fun w => (⟨w.1, w.2, cause⟩ : EventSignal)).map (·.event.id))
    rw [List.map_append, List.map_map]
    refine h.once.settle ?_
    have hperm := hswept.perm.map (·.id)
    rwa [List.map_append, List.map_map] at hperm
  · show (g.signals ++ r.2.map fun w => (⟨w.1, w.2, cause⟩ : EventSignal)).map (·.work) =
      g.ran ++ g.worker.toList ++ (g.works ++ r.2)
    rw [List.map_append, h.delivered, List.map_map, List.append_assoc]
    exact congrArg _ (congrArg _ (List.map_id r.2))
  · intro s hs
    rcases List.mem_append.1 hs with hold | hnew
    · exact h.caused s hold
    · obtain ⟨w, hw, rfl⟩ := List.mem_map.1 hnew
      exact hcaused w.1 w.2 (hswept.result_eq w hw)
  · intro e he
    exact h.flushed e (hswept.perm.subset (List.mem_append_left _ he))

/-- The section of `hgsl_add_event`. -/
theorem Accounted.link {g : EventGroup} (h : Accounted g) {t : Nat} {e : HgslEvent}
    (hthread : g.thread t = .linking e) (retired : BitVec 32) :
    Accounted ((g.linkEvent e retired).setThread t .idle) := by
  have hevent : ofThread (g.thread t) = some e := by rw [hthread]; rfl
  obtain ⟨hlt, hnot⟩ := h.pending t e hevent
  have hlt' : ∀ id ∈ g.accepted ++ [e.id], id < g.nextId := by
    intro id hid
    rcases List.mem_append.1 hid with hold | hnew
    · exact h.acceptedLt id hold
    · exact List.mem_singleton.1 hnew ▸ hlt
  -- the other threads have other events
  have hpending : ∀ t' e', ofThread (Function.update g.thread t .idle t') = some e' →
      ofThread (g.thread t') = some e' ∧ e'.id ∉ g.accepted ++ [e.id] := by
    intro t' e' he'
    have ht : t' ≠ t := by
      rintro rfl
      rw [Function.update_self] at he'
      cases he'
    rw [Function.update_of_ne ht] at he'
    refine ⟨he', ?_⟩
    intro hmem
    rcases List.mem_append.1 hmem with hold | hnew
    · exact (h.pending t' e' he').2 hold
    · exact ht (h.unique t' t e' e he' hevent (List.mem_singleton.1 hnew))
  have hpending' : ∀ t' e', ofThread (Function.update g.thread t .idle t') = some e' →
      e'.id < g.nextId ∧ e'.id ∉ g.accepted ++ [e.id] := fun t' e' he' =>
    ⟨(h.pending t' e' (hpending t' e' he').1).1, (hpending t' e' he').2⟩
  have hunique : ∀ t₁ t₂ e₁ e₂, ofThread (Function.update g.thread t .idle t₁) = some e₁ →
      ofThread (Function.update g.thread t .idle t₂) = some e₂ → e₁.id = e₂.id → t₁ = t₂ :=
    fun t₁ t₂ e₁ e₂ h₁ h₂ => h.unique t₁ t₂ e₁ e₂ (hpending t₁ e₁ h₁).1 (hpending t₂ e₂ h₂).1
  have hflushed : ∀ id ∈ g.flushed, id ∈ g.accepted ++ [e.id] :=
    fun id hid => List.mem_append_left _ (h.flushedSub id hid)
  unfold linkEvent
  split
  · next hge =>
      refine ⟨?_, ?_, ?_, hlt', hpending', hunique, h.flushed, hflushed⟩
      · show Once (g.accepted ++ [e.id]) (g.events.map (·.id))
          ((g.signals ++ [(⟨e, .retired, .add retired⟩ : EventSignal)]).map (·.event.id))
        rw [List.map_append]
        exact h.once.issueSettled hnot
      · show (g.signals ++ [(⟨e, .retired, .add retired⟩ : EventSignal)]).map (·.work) =
          g.ran ++ g.worker.toList ++ (g.works ++ [(e, .retired)])
        rw [List.map_append, h.delivered, List.append_assoc]
        rfl
      · intro s hs
        rcases List.mem_append.1 hs with hold | hnew
        · exact h.caused s hold
        · rw [List.mem_singleton.1 hnew]
          exact hge
  · refine ⟨?_, h.delivered, h.caused, hlt', hpending', hunique, ?_, hflushed⟩
    · show Once (g.accepted ++ [e.id]) ((g.events ++ [e]).map (·.id)) (g.signals.map (·.event.id))
      rw [List.map_append]
      exact h.once.issue hnot
    · intro e' he'
      rcases List.mem_append.1 he' with hold | hnew
      · exact h.flushed e' hold
      · rw [List.mem_singleton.1 hnew]
        exact fun hmem => hnot (h.flushedSub _ hmem)

/-- A call of `_process_event_group` that flushes leaves nothing on the list. -/
theorem Accounted.noteProcessed {g : EventGroup} (h : Accounted g) {flush : Bool}
    (hempty : flush = true → g.events = []) : Accounted (g.noteProcessed flush) := by
  cases flush with
  | false => exact { h with }
  | true =>
      refine { h with flushed := ?_, flushedSub := fun _ hid => hid }
      intro e he
      rw [show (g.noteProcessed true).events = g.events from rfl, hempty rfl] at he
      cases he

theorem Accounted.process {g : EventGroup} (h : Accounted g) (flush : Bool) (retired : BitVec 32) :
    Accounted (g.processEventGroup flush retired) := by
  unfold processEventGroup
  split
  · exact h
  · refine { h.signal (sweepEvents_swept _ g.events) ?_ with }
    intro e res hres
    unfold processResult at hres
    split at hres
    · next hge =>
        obtain rfl := Option.some.inj hres
        exact hge
    · next hge =>
        split at hres
        · next hflush =>
            obtain rfl := Option.some.inj hres
            exact ⟨hflush, Bool.not_eq_true _ ▸ hge⟩
        · cases hres

/-- A flush signals every event. -/
theorem processEventGroup_flush (g : EventGroup) (retired : BitVec 32) :
    (g.processEventGroup true retired).events = [] := by
  rw [List.eq_nil_iff_forall_not_mem]
  intro e he
  exact processResult_flush retired e (mem_sweepEvents.1 he).2

/-! ## The references -/

/-- An event has its reference from the time its thread took it until its work has run, and a call of
    `_process_event_group` has one of its own. -/
structure Held (g : EventGroup) : Prop where
  balanced : g.kref.Balanced
  event : ∀ id, .event id ∈ g.kref.holders ↔
    (∃ t e, g.thread t = .linking e ∧ e.id = id) ∨ id ∈ g.accepted ∧ id ∉ g.ran.map (·.1.id)
  eventOnce : ∀ id, g.kref.holders.count (.event id) ≤ 1
  thread : ∀ t, (g.thread t = .leaving ∨ ∃ flush, g.thread t = .processing flush) →
    .thread t ∈ g.kref.holders

theorem Held.fresh (flags : BitVec 32) : Held (fresh flags) where
  balanced := RefCount.balanced_init _
  event := by simp [EventGroup.fresh, RefCount.init]
  eventOnce := by simp [EventGroup.fresh, RefCount.init]
  thread := nofun

theorem Held.setThread {g : EventGroup} (h : Held g) {t : Nat} {th : EventThread}
    (hold : ∀ e, g.thread t ≠ .linking e) (hnew : ∀ e, th ≠ .linking e)
    (hth : (th = .leaving ∨ ∃ flush, th = .processing flush) → .thread t ∈ g.kref.holders) :
    Held (g.setThread t th) := by
  refine { h with event := ?_, thread := ?_ }
  · intro id
    refine (h.event id).trans (or_congr_left ?_)
    constructor
    · rintro ⟨t', e, he, hid⟩
      have ht : t' ≠ t := fun heq => hold e (heq ▸ he)
      exact ⟨t', e, by rw [setThread_of_ne g th ht, he], hid⟩
    · rintro ⟨t', e, he, hid⟩
      have ht : t' ≠ t := by
        rintro rfl
        rw [setThread_self] at he
        exact hnew e he
      rw [setThread_of_ne g th ht] at he
      exact ⟨t', e, he, hid⟩
  · intro t' ht'
    by_cases ht : t' = t
    · subst ht
      rw [setThread_self] at ht'
      exact hth ht'
    · rw [setThread_of_ne g th ht] at ht'
      exact h.thread t' ht'

/-- References other than those of events come and go. -/
theorem Held.kref {g : EventGroup} (h : Held g) {kref : RefCount EventHolder}
    (hbalanced : kref.Balanced)
    (hcount : ∀ id, kref.holders.count (.event id) = g.kref.holders.count (.event id))
    (hthread : ∀ t, (g.thread t = .leaving ∨ ∃ flush, g.thread t = .processing flush) →
      .thread t ∈ g.kref.holders → .thread t ∈ kref.holders) : Held { g with kref := kref } := by
  refine ⟨hbalanced, ?_, ?_, fun t ht => hthread t ht (h.thread t ht)⟩
  · intro id
    rw [← h.event id, ← List.count_pos_iff, ← List.count_pos_iff]
    show 0 < kref.holders.count (.event id) ↔ _
    rw [hcount id]
  · intro id
    show kref.holders.count (.event id) ≤ 1
    rw [hcount id]
    exact h.eventOnce id

/-- `hgsl_add_event` takes the reference of its event. -/
theorem Held.getContext {g : EventGroup} (h : Held g) (hacc : Accounted g) {t : Nat}
    {e : HgslEvent} (hthread : g.thread t = .adding e) :
    Held ({ g with kref := g.kref.get (.event e.id) }.setThread t (.linking e)) := by
  have hevent : ofThread (g.thread t) = some e := by rw [hthread]; rfl
  have hnone : .event e.id ∉ g.kref.holders := by
    rw [h.event]
    rintro (⟨t', e', he', hid⟩ | ⟨hmem, -⟩)
    · have hlinking : ofThread (g.thread t') = some e' := by rw [he']; rfl
      obtain rfl := hacc.unique t' t e' e hlinking hevent hid
      rw [hthread] at he'
      cases he'
    · exact (hacc.pending t e hevent).2 hmem
  refine ⟨h.balanced.get _, ?_, ?_, ?_⟩
  · intro id
    show .event id ∈ EventHolder.event e.id :: g.kref.holders ↔ _
    rw [List.mem_cons, h.event id]
    constructor
    · rintro (heq | ⟨t', e', he', hid⟩ | hopen)
      · exact .inl ⟨t, e, setThread_self _ _ _, (EventHolder.event.inj heq).symm⟩
      · have ht : t' ≠ t := by
          rintro rfl
          rw [hthread] at he'
          cases he'
        exact .inl ⟨t', e', by rw [setThread_of_ne _ _ ht, he'], hid⟩
      · exact .inr hopen
    · rintro (⟨t', e', he', hid⟩ | hopen)
      · by_cases ht : t' = t
        · subst ht
          rw [setThread_self] at he'
          cases he'
          exact .inl (congrArg _ hid.symm)
        · rw [setThread_of_ne _ _ ht] at he'
          exact .inr (.inl ⟨t', e', he', hid⟩)
      · exact .inr (.inr hopen)
  · intro id
    show (EventHolder.event e.id :: g.kref.holders).count (.event id) ≤ 1
    by_cases hid : e.id = id
    · rw [← hid, List.count_cons_self, List.count_eq_zero.2 hnone]
    · rw [List.count_cons_of_ne (fun heq => hid (EventHolder.event.inj heq))]
      exact h.eventOnce id
  · intro t' ht'
    refine List.mem_cons_of_mem _ (h.thread t' ?_)
    have ht : t' ≠ t := by
      rintro rfl
      rw [setThread_self] at ht'
      rcases ht' with h' | ⟨flush, h'⟩ <;> cases h'
    rwa [setThread_of_ne _ _ ht] at ht'

/-- An accepted event keeps the reference that its thread took. -/
theorem Held.link {g : EventGroup} (h : Held g) (hacc : Accounted g) {t : Nat} {e : HgslEvent}
    (hthread : g.thread t = .linking e) (retired : BitVec 32) :
    Held ((g.linkEvent e retired).setThread t .idle) := by
  have hevent : ofThread (g.thread t) = some e := by rw [hthread]; rfl
  have hran : e.id ∉ g.ran.map (·.1.id) := by
    intro hmem
    have hsignalled := hacc.ran_signalled (List.mem_map.2 ((List.mem_map.1 hmem).imp
      fun w hw => ⟨List.mem_append_left _ hw.1, hw.2⟩))
    exact (hacc.pending t e hevent).2 (hacc.once.mem_iff.2 (.inr hsignalled))
  -- whichever branch is taken, these are the fields that matter
  have hfields : (g.linkEvent e retired).kref = g.kref ∧
      (g.linkEvent e retired).accepted = g.accepted ++ [e.id] ∧
      (g.linkEvent e retired).ran = g.ran ∧ (g.linkEvent e retired).thread = g.thread := by
    unfold linkEvent
    split <;> exact ⟨rfl, rfl, rfl, rfl⟩
  obtain ⟨hkref, haccepted, hran', hth⟩ := hfields
  refine ⟨?_, ?_, ?_, ?_⟩
  · show (g.linkEvent e retired).kref.Balanced
    rw [hkref]
    exact h.balanced
  · intro id
    show .event id ∈ (g.linkEvent e retired).kref.holders ↔ _ ∨
      id ∈ (g.linkEvent e retired).accepted ∧ id ∉ (g.linkEvent e retired).ran.map (·.1.id)
    rw [hkref, haccepted, hran', h.event id]
    constructor
    · rintro (⟨t', e', he', rfl⟩ | ⟨hmem, hnot⟩)
      · by_cases ht : t' = t
        · subst ht
          rw [hthread] at he'
          cases he'
          exact .inr ⟨List.mem_append_right _ List.mem_cons_self, hran⟩
        · exact .inl ⟨t', e', by rw [setThread_of_ne _ _ ht, hth, he'], rfl⟩
      · exact .inr ⟨List.mem_append_left _ hmem, hnot⟩
    · rintro (⟨t', e', he', rfl⟩ | ⟨hmem, hnot⟩)
      · have ht : t' ≠ t := by
          rintro rfl
          rw [setThread_self] at he'
          cases he'
        rw [setThread_of_ne _ _ ht, hth] at he'
        exact .inl ⟨t', e', he', rfl⟩
      · rcases List.mem_append.1 hmem with hold | hnew
        · exact .inr ⟨hold, hnot⟩
        · exact .inl ⟨t, e, hthread, (List.mem_singleton.1 hnew).symm⟩
  · show ∀ id, (g.linkEvent e retired).kref.holders.count (.event id) ≤ 1
    rw [hkref]
    exact h.eventOnce
  · intro t' ht'
    show .thread t' ∈ (g.linkEvent e retired).kref.holders
    rw [hkref]
    refine h.thread t' ?_
    have ht : t' ≠ t := by
      rintro rfl
      rw [setThread_self] at ht'
      rcases ht' with h' | ⟨flush, h'⟩ <;> cases h'
    rwa [setThread_of_ne _ _ ht, hth] at ht'

/-- The worker drops the reference of the event whose work it has run. -/
theorem Held.finishWork {g : EventGroup} (h : Held g) (hacc : Accounted g)
    {w : HgslEvent × EventResult} (hworker : g.worker = some w) :
    Held { g with kref := g.kref.put (.event w.1.id), worker := none, ran := g.ran ++ [w] } := by
  have hrunning : w.1.id ∈ (g.ran ++ g.worker.toList).map (·.1.id) := by
    rw [hworker, List.map_append]
    exact List.mem_append_right _ List.mem_cons_self
  have haccepted : w.1.id ∈ g.accepted := hacc.once.mem_iff.2 (.inr (hacc.ran_signalled hrunning))
  have hnotRan : w.1.id ∉ g.ran.map (·.1.id) := by
    intro hmem
    have hnodup := hacc.ran_nodup
    rw [hworker, List.map_append] at hnodup
    exact (List.nodup_append.1 hnodup).2.2 _ hmem _ List.mem_cons_self rfl
  have hmem : .event w.1.id ∈ g.kref.holders := (h.event _).2 (.inr ⟨haccepted, hnotRan⟩)
  have hlinking : ∀ t e, g.thread t = .linking e → e.id ≠ w.1.id := by
    intro t e he heq
    have hevent : ofThread (g.thread t) = some e := by rw [he]; rfl
    exact (hacc.pending t e hevent).2 (heq ▸ haccepted)
  refine ⟨h.balanced.put hmem, ?_, ?_, ?_⟩
  · intro id
    show .event id ∈ g.kref.holders.erase (.event w.1.id) ↔
      _ ∨ id ∈ g.accepted ∧ id ∉ (g.ran ++ [w]).map (·.1.id)
    rw [List.map_append, List.mem_append]
    by_cases hid : id = w.1.id
    · subst hid
      have hgone : .event w.1.id ∉ g.kref.holders.erase (.event w.1.id) := by
        rw [← List.count_eq_zero, List.count_erase_self]
        have honce := h.eventOnce w.1.id
        omega
      refine iff_of_false hgone ?_
      rintro (⟨t, e, he, heq⟩ | ⟨-, hnot⟩)
      · exact hlinking t e he heq
      · exact hnot (.inr List.mem_cons_self)
    · rw [List.mem_erase_of_ne (fun heq => hid (EventHolder.event.inj heq)), h.event id]
      refine or_congr_right (and_congr_right fun _ => not_congr ?_)
      exact (or_iff_left fun hone => hid (List.mem_singleton.1 hone)).symm
  · intro id
    refine le_trans ?_ (h.eventOnce id)
    exact List.erase_sublist.count_le (EventHolder.event id)
  · intro t ht
    exact (RefCount.mem_put_of_ne (by simp)).2 (h.thread t ht)

/-! ## Steps -/

structure Intact (g : EventGroup) : Prop where
  accounted : Accounted g
  held : Held g

/-- While events are listed, the context is alive. -/
theorem Intact.events_eq_nil {g : EventGroup} (h : Intact g) (hzero : g.kref.count = 0) :
    g.events = [] := by
  rw [List.eq_nil_iff_forall_not_mem]
  intro e he
  have hlisted : e.id ∈ g.events.map (·.id) := List.mem_map_of_mem he
  refine h.held.balanced.count_ne_zero ((h.held.event e.id).2 (.inr ⟨?_, ?_⟩)) hzero
  · exact h.accounted.once.mem_iff.2 (.inl hlisted)
  · intro hran
    refine h.accounted.once.not_settled hlisted (h.accounted.ran_signalled ?_)
    rw [List.map_append]
    exact List.mem_append_left _ hran

/-- **Step lemma.** -/
theorem Intact.step {g g' : EventGroup} {a : EventAct} (h : Intact g) (hstep : g.step a = some g') :
    Intact g' := by
  have hacc := h.accounted
  have hheld := h.held
  have heffect := step_cases hstep
  clear hstep
  cases heffect with
  | refused t timestamp func priv queued allocated e _ => exact ⟨{ hacc with }, { hheld with }⟩
  | allocate t timestamp func priv queued allocated hidle =>
      have hheld' : Held { g with nextId := g.nextId + 1 } := { hheld with }
      exact ⟨hacc.allocate rfl, hheld'.setThread (by simp [hidle]) nofun (by simp)⟩
  | @getContext t e hthread _ =>
      have hacc' : Accounted { g with kref := g.kref.get (.event e.id) } := { hacc with }
      refine ⟨hacc'.setThread ?_, hheld.getContext hacc hthread⟩
      intro e' he'
      rw [show ofThread _ = ofThread (g.thread t) from rfl, hthread]
      exact he'
  | noContext t hthread _ =>
      have hacc' : Accounted { g with refused := g.refused ++ [-ENOENT] } := { hacc with }
      have hheld' : Held { g with refused := g.refused ++ [-ENOENT] } := { hheld with }
      exact ⟨hacc'.setThread nofun, hheld'.setThread (by simp [hthread]) nofun (by simp)⟩
  | link t retired hthread => exact ⟨hacc.link hthread retired, hheld.link hacc hthread retired⟩
  | process t flush hidle _ =>
      have hacc' : Accounted { g with kref := g.kref.get (.thread t) } := { hacc with }
      have hheld' : Held { g with kref := g.kref.get (.thread t) } :=
        hheld.kref (hheld.balanced.get _)
          (fun id => RefCount.count_get_of_ne nofun) (fun _ _ hmem => List.mem_cons_of_mem _ hmem)
      exact ⟨hacc'.setThread nofun, hheld'.setThread (by simp [hidle]) nofun
        (fun _ => List.mem_cons_self)⟩
  | processGone t flush _ hzero =>
      exact ⟨hacc.noteProcessed fun _ => h.events_eq_nil hzero, { hheld with }⟩
  | @sweep t retired flush hthread =>
      have hacc' : Accounted ((g.processEventGroup flush retired).noteProcessed flush) := by
        refine (hacc.process flush retired).noteProcessed ?_
        rintro rfl
        exact processEventGroup_flush g retired
      have hheld' : Held ((g.processEventGroup flush retired).noteProcessed flush) := by
        unfold processEventGroup
        split <;> exact { hheld with }
      have hfields : ((g.processEventGroup flush retired).noteProcessed flush).thread = g.thread ∧
          ((g.processEventGroup flush retired).noteProcessed flush).kref = g.kref := by
        unfold processEventGroup
        split <;> exact ⟨rfl, rfl⟩
      refine ⟨hacc'.setThread nofun, hheld'.setThread ?_ nofun ?_⟩
      · rw [hfields.1, hthread]
        exact nofun
      · intro _
        rw [hfields.2]
        exact hheld.thread t (.inr ⟨flush, hthread⟩)
  | putContext t hthread =>
      have hacc' : Accounted { g with kref := g.kref.put (.thread t) } := { hacc with }
      have hmem := hheld.thread t (.inl hthread)
      have hidle : Held (g.setThread t .idle) :=
        hheld.setThread (by simp [hthread]) nofun (by simp)
      refine ⟨hacc'.setThread nofun, hidle.kref (hheld.balanced.put hmem) ?_ ?_⟩
      · exact fun id => RefCount.count_put_of_ne nofun
      · intro t' ht' hmem'
        refine (RefCount.mem_put_of_ne ?_).2 hmem'
        intro heq
        obtain rfl := EventHolder.thread.inj heq
        rw [setThread_self] at ht'
        rcases ht' with h' | ⟨flush, h'⟩ <;> cases h'
  | cancelTimestamp timestamp =>
      refine ⟨hacc.signal (sweepEvents_swept _ g.events) ?_, { hheld with }⟩
      intro e res hres
      split at hres
      · next heq =>
          obtain rfl := Option.some.inj hres
          exact heq.symm
      · cases hres
  | cancelEvent timestamp func priv =>
      refine ⟨hacc.signal (sweepFirst_swept _ g.events) ?_, { hheld with }⟩
      intro e res hres
      split at hres
      · next heq =>
          obtain rfl := Option.some.inj hres
          exact ⟨heq.1.symm, heq.2.1.symm, heq.2.2⟩
      · cases hres
  | runWork hworker hworks =>
      refine ⟨{ hacc with delivered := ?_ }, { hheld with }⟩
      rw [hacc.delivered, hworker, hworks]
      simp
  | finishWork hworker =>
      refine ⟨{ hacc with delivered := ?_ }, hheld.finishWork hacc hworker⟩
      rw [hacc.delivered, hworker]
      simp
  | getOther _ =>
      exact ⟨{ hacc with }, hheld.kref (hheld.balanced.get _)
        (fun id => RefCount.count_get_of_ne nofun) (fun _ _ hmem => List.mem_cons_of_mem _ hmem)⟩
  | otherGone _ => exact h
  | putOther hmem =>
      exact ⟨{ hacc with }, hheld.kref (hheld.balanced.put hmem)
        (fun id => RefCount.count_put_of_ne nofun) (fun _ _ hmem' =>
          (RefCount.mem_put_of_ne (by simp)).2 hmem')⟩
  | retire n => exact ⟨{ hacc with }, { hheld with }⟩

/-! ## Runs -/

/-- What becomes of the accepted events and of their references. -/
structure FiresOnce (g : EventGroup) : Prop where
  /-- an accepted event is on the list or its work has been queued -/
  listedOrQueued : ∀ id, id ∈ g.accepted ↔ id ∈ g.events.map (·.id) ∨ id ∈ g.signals.map (·.event.id)
  /-- and not both -/
  notBoth : ∀ id ∈ g.events.map (·.id), id ∉ g.signals.map (·.event.id)
  listedOnce : (g.events.map (·.id)).Nodup
  queuedOnce : (g.signals.map (·.event.id)).Nodup
  /-- a work that was queued has been run, is being run or is still queued -/
  delivered : g.signals.map (·.work) = g.ran ++ g.worker.toList ++ g.works
  caused : ∀ s ∈ g.signals, Caused s
  /-- what was accepted before a flush is not on the list any more -/
  flushed : ∀ e ∈ g.events, e.id ∉ g.flushed
  /-- an accepted event holds its one reference until its work has run -/
  reference : ∀ id ∈ g.accepted,
    g.kref.holders.count (.event id) = if id ∈ g.ran.map (·.1.id) then 0 else 1
  balanced : g.kref.count = g.kref.holders.length

theorem Intact.firesOnce {g : EventGroup} (h : Intact g) : FiresOnce g where
  listedOrQueued _ := h.accounted.once.mem_iff
  notBoth _ := h.accounted.once.not_settled
  listedOnce := h.accounted.once.opened_nodup
  queuedOnce := h.accounted.once.settled_nodup
  delivered := h.accounted.delivered
  caused := h.accounted.caused
  flushed := h.accounted.flushed
  reference := by
    intro id hid
    have hlinking : ¬∃ t e, g.thread t = .linking e ∧ e.id = id := by
      rintro ⟨t, e, he, rfl⟩
      have hevent : ofThread (g.thread t) = some e := by rw [he]; rfl
      exact (h.accounted.pending t e hevent).2 hid
    have hiff := (h.held.event id).trans (or_iff_right hlinking)
    by_cases hran : id ∈ g.ran.map (·.1.id)
    · rw [if_pos hran, List.count_eq_zero, hiff]
      exact fun hopen => hopen.2 hran
    · rw [if_neg hran]
      have hpos := List.count_pos_iff.2 (hiff.2 ⟨hid, hran⟩)
      have honce := h.held.eventOnce id
      omega
  balanced := h.held.balanced

/-- **Every accepted event fires once**, whatever the threads do and whatever the readings say. -/
theorem firesOnce_of_run (flags : BitVec 32) (as : List EventAct) (g : EventGroup)
    (h : Trace.exec step (fresh flags) as = some g) : FiresOnce g := by
  have hintact : Intact g := Trace.exec_invariant (fun _ _ _ h hstep => h.step hstep)
    ⟨Accounted.fresh flags, Held.fresh flags⟩ h
  exact hintact.firesOnce

/-- Thread `t` adds an event and links it on the reading `retired`. -/
def addedEvent (t : Nat) (timestamp : BitVec 32) (priv : Nat) (retired : BitVec 32) : List EventAct :=
  [.add t timestamp 1 priv 0#32 true, .getContext t, .link t retired]

theorem firesOnce_of_run_cancelRun :
    ∃ g, Trace.exec step (fresh 0x80#32)
        (addedEvent 1 5#32 7 0#32 ++ addedEvent 2 6#32 8 0#32 ++ addedEvent 1 6#32 9 0#32 ++
          [.cancelEvent 6#32 1 9, .process 3 false, .sweep 3 5#32, .putContext 3, .process 3 true,
            .sweep 3 5#32, .runWork, .finishWork, .runWork]) = some g ∧
      g.ran.map (fun w => (w.1.id, w.2)) = [(2, .cancelled)] ∧ g.works.length = 1 ∧
      FiresOnce g := by
  have heval : (Trace.exec step (fresh 0x80#32)
        (addedEvent 1 5#32 7 0#32 ++ addedEvent 2 6#32 8 0#32 ++ addedEvent 1 6#32 9 0#32 ++
          [.cancelEvent 6#32 1 9, .process 3 false, .sweep 3 5#32, .putContext 3, .process 3 true,
            .sweep 3 5#32, .runWork, .finishWork, .runWork])).map
        (fun g => (g.ran.map (fun w => (w.1.id, w.2)), g.works.length)) =
      some ([(2, .cancelled)], 1) := by
    decide +kernel
  obtain ⟨g, hg, heq⟩ := Option.map_eq_some_iff.1 heval
  obtain ⟨hran, hworks⟩ := Prod.mk.inj heq
  exact ⟨g, hg, hran, hworks, firesOnce_of_run _ _ g hg⟩

end EventGroup

end Hgsl
