import Hgsl.Events.ExactlyOnce

set_option autoImplicit false

/-! # Readings of the retired timestamp

`_process_event_group` and `hgsl_add_event` hand `readtimestamp` the address of a variable that holds
nothing yet, and go on with what they find there whatever the call returns. A call that fails leaves the
variable alone, or puts there what it finds in a parameter block that holds nothing either, or the number
of a reply that reports an error. Here the steps of the group are driven by such calls instead of by
values, and what a step may signal is compared with what its call has really read. -/

namespace Hgsl

/-- `enum gsl_timestamp_type_t` -/
inductive TimestampType where
  | consumed
  | retired
  | queued
  deriving DecidableEq, Repr

/-- `get_context_shadow_ts`: the result and `*timestamp`. -/
def getContextShadowTs (shadowTs : Option ShadowTs) (queuedTs : BitVec 32) (type : TimestampType) :
    Int × BitVec 32 :=
  match shadowTs with
  | none => (-EINVAL, 0#32)
  | some sh =>
    match type with
    | .retired => (0, sh.eop)
    | .consumed => (0, sh.sop)
    | .queued => (0, queuedTs)

/-- What the calls inside `hgsl_hyp_read_timestamp` return. -/
structure ReadRpc where
  /-- `hgsl_hyp_channel_pool_get` -/
  channelGet : Int
  /-- `gsl_rpc_write` -/
  write : Int
  /-- `gsl_rpc_transact` -/
  transact : Int
  /-- `gsl_rpc_read_uint32_l` -/
  readTimestamp : Int
  /-- the number that it reads -/
  timestamp : BitVec 32
  /-- `gsl_rpc_read_int32_l` -/
  readRval : Int
  /-- the number that it reads -/
  rval : Int
  deriving DecidableEq, Repr

/-- `hgsl_hyp_read_timestamp`: the result and `hgsl_param->timestamp`, given what that holds before. -/
def hgslHypReadTimestamp (rpc : ReadRpc) (timestamp : BitVec 32) : Int × BitVec 32 :=
  if rpc.channelGet ≠ 0 then (rpc.channelGet, timestamp)
  else if rpc.write ≠ 0 then (rpc.write, timestamp)
  else if rpc.transact ≠ 0 then (rpc.transact, timestamp)
  else if rpc.readTimestamp ≠ 0 then (rpc.readTimestamp, timestamp)
  -- from here on the number is stored, also where the call fails
  else if rpc.readRval ≠ 0 then (rpc.readRval, rpc.timestamp)
  else if rpc.rval ≠ 0 then (-EINVAL, rpc.timestamp)
  else (0, rpc.timestamp)

/-- One call of `readtimestamp`: what it meets, and what the variables hold that nobody has set. -/
structure Reading where
  /-- `hgsl_context_get` still gets a reference -/
  held : Bool
  /-- `context->shadow_ts` -/
  shadowTs : Option ShadowTs
  /-- `context->queued_ts` -/
  queuedTs : BitVec 32
  rpc : ReadRpc
  /-- `param.timestamp` in `hgsl_read_timestamp` -/
  param : BitVec 32
  /-- the variable of the caller -/
  leftover : BitVec 32
  deriving DecidableEq, Repr

/-- `hgsl_read_timestamp`: the result and `*timestamp`. -/
def hgslReadTimestamp (r : Reading) (type : TimestampType) : Int × BitVec 32 :=
  if r.held then
    let shadow := getContextShadowTs r.shadowTs r.queuedTs type
    if shadow.1 ≠ 0 then hgslHypReadTimestamp r.rpc r.param else shadow
  else (-ENOENT, r.leftover)

/-- With shadow memory the reading succeeds. -/
theorem hgslReadTimestamp_of_shadow {r : Reading} {sh : ShadowTs} (hheld : r.held = true)
    (hshadow : r.shadowTs = some sh) : hgslReadTimestamp r .retired = (0, sh.eop) := by
  simp [hgslReadTimestamp, getContextShadowTs, hheld, hshadow]

/-- A call that gets a reply stores its number, also if the reply reports an error. -/
theorem hgslHypReadTimestamp_timestamp (rpc : ReadRpc) (timestamp : BitVec 32) :
    (hgslHypReadTimestamp rpc timestamp).2 = timestamp ∨
      (hgslHypReadTimestamp rpc timestamp).2 = rpc.timestamp := by
  unfold hgslHypReadTimestamp
  split_ifs <;> simp

/-- **A failed reading.** What it leaves is none of the context's timestamps. -/
theorem hgslReadTimestamp_of_failed {r : Reading} {type : TimestampType}
    (hfailed : (hgslReadTimestamp r type).1 ≠ 0) :
    (hgslReadTimestamp r type).2 = r.leftover ∨ (hgslReadTimestamp r type).2 = r.param ∨
      (hgslReadTimestamp r type).2 = r.rpc.timestamp := by
  unfold hgslReadTimestamp at hfailed ⊢
  dsimp only at hfailed ⊢
  split
  · next hheld =>
      rw [if_pos hheld] at hfailed
      split
      · exact .inr (hgslHypReadTimestamp_timestamp r.rpc r.param)
      · next hshadow =>
          rw [if_neg hshadow] at hfailed
          exact absurd hfailed hshadow
  · exact .inl rfl

/-- An action of the group whose reading comes from a call; the others do not look at it. -/
structure ReadAct where
  act : EventAct
  reading : Reading
  deriving DecidableEq, Repr

namespace ReadAct

/-- The value that `_process_event_group` and the section of `hgsl_add_event` go on with. -/
def retired (a : ReadAct) : BitVec 32 := (hgslReadTimestamp a.reading .retired).2

/-- The action, with the value in the place of the reading. -/
def event (a : ReadAct) : EventAct :=
  match a.act with
  | .add t timestamp func priv _ allocated =>
    .add t timestamp func priv (hgslReadTimestamp a.reading .queued).2 allocated
  | .link t _ => .link t a.retired
  | .sweep t _ => .sweep t a.retired
  | act => act

/-- The reading of the retired timestamp succeeds. -/
def succeeds (a : ReadAct) : Prop := (hgslReadTimestamp a.reading .retired).1 = 0

instance (a : ReadAct) : Decidable a.succeeds := inferInstanceAs (Decidable (_ = _))

end ReadAct

namespace EventGroup

/-- One step of the group, driven by a call of `readtimestamp`. -/
def stepRead (g : EventGroup) (a : ReadAct) : Option EventGroup := g.step a.event

/-- A run that is driven by calls is a run of the group. -/
theorem exec_stepRead (g : EventGroup) (as : List ReadAct) :
    Trace.exec stepRead g as = Trace.exec step g (as.map ReadAct.event) := by
  induction as generalizing g with
  | nil => simp
  | cons a as ih => simp [Trace.exec, stepRead, ih]

/-! ## What a step may do with its reading -/

/-- The call of this action is for the retired timestamp and has succeeded with `r`. -/
def Read (a : ReadAct) (r : BitVec 32) : Prop :=
  match a.act with
  | .link _ _ | .sweep _ _ => hgslReadTimestamp a.reading .retired = (0, r)
  | _ => False

/-- What the step signals as retired is at or before a reading that has succeeded in it, and `processed`
    stays or becomes such a reading. -/
structure Honest (g : EventGroup) (a : ReadAct) (g' : EventGroup) : Prop where
  retired : ∃ new, g'.signals = g.signals ++ new ∧ ∀ s ∈ new, s.result = .retired →
    ∃ r, Read a r ∧ hgslTs32Ge r s.event.timestamp = true
  processed : g'.processed = g.processed ∨ Read a g'.processed

/-- The call succeeds, or what is left in the variable makes no difference: it does not reach the event
    that is being added, or no listed event and it is `processed` already, or a call that does not flush
    takes it for processed. -/
def readsReal (g : EventGroup) (a : ReadAct) : Prop :=
  match a.act with
  | .link t _ =>
    match g.thread t with
    | .linking e => a.succeeds ∨ hgslTs32Ge a.retired e.timestamp = false
    | _ => True
  | .sweep t _ =>
    match g.thread t with
    | .processing flush =>
      a.succeeds ∨ (flush = false ∧ hgslTs32Ge g.processed a.retired = true) ∨
        (a.retired = g.processed ∧ ∀ e ∈ g.events, hgslTs32Ge a.retired e.timestamp = false)
    | _ => True
  | _ => True

instance (g : EventGroup) (a : ReadAct) : Decidable (g.readsReal a) := by
  unfold readsReal
  split
  · split <;> infer_instance
  · split <;> infer_instance
  · infer_instance

/-! ## Steps -/

/-- `_process_event_group` signals as retired the listed events that its reading has reached. -/
theorem retired_mem_sweepEvents {flush : Bool} {retired : BitVec 32} {es : List HgslEvent}
    {e : HgslEvent} : (e, .retired) ∈ (sweepEvents (processResult flush retired) es).2 ↔
      e ∈ es ∧ hgslTs32Ge retired e.timestamp = true := by
  have hswept := sweepEvents_swept (processResult flush retired) es
  constructor
  · intro hmem
    refine ⟨hswept.perm.subset ?_, ?_⟩
    · exact List.mem_append_right _ (List.mem_map_of_mem (f := Prod.fst) hmem)
    · have hresult := hswept.result_eq _ hmem
      unfold processResult at hresult
      split at hresult
      · next hge => exact hge
      · split at hresult <;> simp at hresult
  · rintro ⟨hmem, hge⟩
    have hretired : processResult flush retired e = some .retired := by simp [processResult, hge]
    rcases List.mem_append.1 (hswept.perm.mem_iff.2 hmem) with hstays | hsignalled
    · simp [mem_sweepEvents, hretired] at hstays
    · obtain ⟨w, hw, rfl⟩ := List.mem_map.1 hsignalled
      have hresult := hswept.result_eq w hw
      rw [hretired] at hresult
      rw [Option.some.inj hresult]
      exact hw

/-- A step that signals nothing as retired and leaves `processed` alone. -/
theorem Honest.of_silent {g g' : EventGroup} {a : ReadAct} {new : List EventSignal}
    (hsignals : g'.signals = g.signals ++ new) (hnew : ∀ s ∈ new, s.result ≠ .retired)
    (hprocessed : g'.processed = g.processed) : Honest g a g' where
  retired := ⟨new, hsignals, fun s hs hretired => absurd hretired (hnew s hs)⟩
  processed := .inl hprocessed

theorem Honest.of_eq {g g' : EventGroup} {a : ReadAct} (hsignals : g'.signals = g.signals)
    (hprocessed : g'.processed = g.processed) : Honest g a g' :=
  .of_silent (hsignals.trans (List.append_nil _).symm) nofun hprocessed

/-- The reading of a call is the value that the step goes on with. -/
theorem read_iff {a : ReadAct} {r : BitVec 32}
    (hact : (∃ t v, a.act = .link t v) ∨ ∃ t v, a.act = .sweep t v) :
    Read a r ↔ a.succeeds ∧ r = a.retired := by
  have hread : Read a r ↔ hgslReadTimestamp a.reading .retired = (0, r) := by
    obtain ⟨t, v, hact⟩ | ⟨t, v, hact⟩ := hact <;> simp [Read, hact]
  rw [hread, Prod.ext_iff]
  exact and_congr Iff.rfl eq_comm

/-- The section of `hgsl_add_event`. -/
theorem honest_link_iff {g : EventGroup} {a : ReadAct} {t : Nat} {v : BitVec 32} {e : HgslEvent}
    {th : EventThread} (hact : a.act = .link t v) :
    Honest g a ((g.linkEvent e a.retired).setThread t th) ↔
      a.succeeds ∨ hgslTs32Ge a.retired e.timestamp = false := by
  have hread := fun r => read_iff (r := r) (.inl ⟨t, v, hact⟩)
  cases hge : hgslTs32Ge a.retired e.timestamp with
  | true =>
      have hsignals : ((g.linkEvent e a.retired).setThread t th).signals =
          g.signals ++ [⟨e, .retired, .add a.retired⟩] := by
        simp [linkEvent, setThread, hge]
      constructor
      · rintro ⟨⟨new, hnew, hall⟩, -⟩
        obtain rfl := List.append_cancel_left (hsignals.symm.trans hnew)
        obtain ⟨r, hr, -⟩ := hall _ (List.mem_singleton_self _) rfl
        exact .inl ((hread r).1 hr).1
      · intro hor
        have hsucceeds : a.succeeds := by simpa using hor
        refine ⟨⟨_, hsignals, ?_⟩, .inl (by simp [linkEvent, setThread, hge])⟩
        intro s hs _
        rw [List.mem_singleton.1 hs]
        exact ⟨a.retired, (hread _).2 ⟨hsucceeds, rfl⟩, hge⟩
  | false =>
      refine iff_of_true (.of_eq ?_ ?_) (.inr rfl)
      · simp [linkEvent, setThread, hge]
      · simp [linkEvent, setThread, hge]

/-- The section of `_process_event_group`. -/
theorem honest_sweep_iff {g : EventGroup} {a : ReadAct} {t : Nat} {v : BitVec 32} {flush : Bool}
    {th : EventThread} (hact : a.act = .sweep t v) :
    Honest g a (((g.processEventGroup flush a.retired).noteProcessed flush).setThread t th) ↔
      a.succeeds ∨ (flush = false ∧ hgslTs32Ge g.processed a.retired = true) ∨
        (a.retired = g.processed ∧ ∀ e ∈ g.events, hgslTs32Ge a.retired e.timestamp = false) := by
  have hread := fun r => read_iff (r := r) (.inr ⟨t, v, hact⟩)
  by_cases hearly : (!flush && hgslTs32Ge g.processed a.retired) = true
  · have heq : g.processEventGroup flush a.retired = g := by
      rw [processEventGroup, if_pos hearly]
    rw [heq]
    refine iff_of_true (.of_eq rfl rfl) (.inr (.inl ?_))
    simpa using hearly
  · have heq : g.processEventGroup flush a.retired =
        { g.signalEvents (.process flush a.retired)
            (sweepEvents (processResult flush a.retired) g.events) with processed := a.retired } := by
      rw [processEventGroup, if_neg hearly]
    rw [heq]
    constructor
    · rintro ⟨⟨new, hnew, hall⟩, hprocessed⟩
      obtain rfl := List.append_cancel_left hnew
      by_cases hsucceeds : a.succeeds
      · exact .inl hsucceeds
      have hnone : ∀ r, ¬Read a r := fun r hr => hsucceeds ((hread r).1 hr).1
      refine .inr (.inr ⟨hprocessed.resolve_right (hnone _), ?_⟩)
      intro e he
      by_contra hge
      have hmem : (e, .retired) ∈ (sweepEvents (processResult flush a.retired) g.events).2 :=
        retired_mem_sweepEvents.2 ⟨he, Bool.of_not_eq_false hge⟩
      obtain ⟨r, hr, -⟩ := hall _ (List.mem_map_of_mem hmem) rfl
      exact hnone r hr
    · intro hor
      refine ⟨⟨_, rfl, ?_⟩, ?_⟩
      · intro s hs hretired
        obtain ⟨⟨e, result⟩, hw, rfl⟩ := List.mem_map.1 hs
        obtain rfl : result = .retired := hretired
        obtain ⟨hmem, hge⟩ := retired_mem_sweepEvents.1 hw
        rcases hor with hsucceeds | ⟨rfl, hskip⟩ | ⟨-, hnone⟩
        · exact ⟨a.retired, (hread _).2 ⟨hsucceeds, rfl⟩, hge⟩
        · simp [hskip] at hearly
        · exact absurd hge (by simp [hnone e hmem])
      · rcases hor with hsucceeds | ⟨rfl, hskip⟩ | ⟨hsame, -⟩
        · exact .inr ((hread _).2 ⟨hsucceeds, rfl⟩)
        · simp [hskip] at hearly
        · exact .inl hsame

/-- A cancel signals nothing as retired. -/
theorem honest_cancel {g : EventGroup} {a : ReadAct} {cause : SignalCause}
    {r : List HgslEvent × List (HgslEvent × EventResult)} (hcancel : ∀ w ∈ r.2, w.2 = .cancelled) :
    Honest g a (g.signalEvents cause r) := by
  refine .of_silent rfl ?_ rfl
  intro s hs
  obtain ⟨w, hw, rfl⟩ := List.mem_map.1 hs
  simp [hcancel w hw]

/-- **Step lemma.** A step is honest exactly if its reading is a real one. -/
theorem honest_iff {g g' : EventGroup} {a : ReadAct} (hstep : g.stepRead a = some g') :
    Honest g a g' ↔ g.readsReal a := by
  obtain ⟨act, reading⟩ := a
  have heffect := step_cases hstep
  clear hstep
  cases act with
  | link t v =>
      cases heffect with
      | link _ _ hthread => simpa only [readsReal, hthread] using honest_link_iff rfl
  | sweep t v =>
      cases heffect with
      | sweep _ _ hthread => simpa only [readsReal, hthread] using honest_sweep_iff rfl
  | cancelTimestamp timestamp =>
      cases heffect
      refine iff_of_true (honest_cancel ?_) trivial
      intro w hw
      have hresult := (sweepEvents_swept _ g.events).result_eq w hw
      split at hresult <;> simp at hresult
      exact hresult.symm
  | cancelEvent timestamp func priv =>
      cases heffect
      refine iff_of_true (honest_cancel ?_) trivial
      intro w hw
      have hresult := (sweepFirst_swept _ g.events).result_eq w hw
      split at hresult <;> simp at hresult
      exact hresult.symm
  | add _ _ _ _ _ _ | getContext _ | process _ _ | putContext _ | runWork | finishWork | getOther
  | putOther | retire _ =>
      -- no work is queued, and nobody writes `processed`
      cases heffect <;> exact iff_of_true (.of_eq rfl rfl) trivial

/-! ## Runs -/

/-- The steps of a run are all honest exactly if all their readings are real. -/
theorem everyStep_honest_iff (g : EventGroup) (as : List ReadAct) :
    Trace.EveryStep stepRead Honest g as ↔
      Trace.EveryStep stepRead (fun g a _ => g.readsReal a) g as := by
  refine Trace.everyStep_congr ?_ g as
  intro t a t' hstep
  exact honest_iff hstep

/-- With shadow memory, and as long as the context is there, every run is honest. -/
theorem everyStep_honest_of_shadow (g : EventGroup) {as : List ReadAct}
    (has : ∀ a ∈ as, a.reading.held = true ∧ a.reading.shadowTs ≠ none) :
    Trace.EveryStep stepRead Honest g as := by
  refine Trace.everyStep_of_forall ?_
  intro a ha t t' hstep
  obtain ⟨hheld, hshadow⟩ := has a ha
  obtain ⟨sh, hsh⟩ := Option.ne_none_iff_exists'.1 hshadow
  have hsucceeds : a.succeeds := by
    simp [ReadAct.succeeds, hgslReadTimestamp_of_shadow hheld hsh]
  rw [honest_iff hstep, readsReal]
  split
  · split
    · exact .inl hsucceeds
    · trivial
  · split
    · exact .inl hsucceeds
    · trivial
  · trivial

/-- A call on a context without shadow memory that does not get a channel. -/
def noChannel : Reading where
  held := true
  shadowTs := none
  queuedTs := 0#32
  rpc := ⟨-ENOMEM, 0, 0, 0, 0#32, 0, 0⟩
  param := 0x7fffffff#32
  leftover := 0#32

/-- A call on the same context that reads 0. -/
def readsZero : Reading := { noChannel with rpc := ⟨0, 0, 0, 0, 0#32, 0, 0⟩ }

/-- An event for 9 is added while 0 is retired; the next call cannot read the retired timestamp, and
    signals the event. -/
theorem signals_retired_without_reading :
    ¬Trace.EveryStep stepRead Honest (fresh 0x80#32)
      [⟨.add 1 9#32 7 0 0#32 true, readsZero⟩, ⟨.getContext 1, readsZero⟩, ⟨.link 1 0#32, readsZero⟩,
        ⟨.process 2 false, readsZero⟩, ⟨.sweep 2 0#32, noChannel⟩] := by
  intro h
  obtain ⟨g, hg, hnot, hstep⟩ : ∃ g ∈ Trace.exec stepRead (fresh 0x80#32)
      [⟨.add 1 9#32 7 0 0#32 true, readsZero⟩, ⟨.getContext 1, readsZero⟩, ⟨.link 1 0#32, readsZero⟩,
        ⟨.process 2 false, readsZero⟩],
      ¬g.readsReal ⟨.sweep 2 0#32, noChannel⟩ ∧
        (g.stepRead ⟨.sweep 2 0#32, noChannel⟩).isSome = true := by
    decide +kernel
  obtain ⟨g', hg'⟩ := Option.isSome_iff_exists.1 hstep
  exact hnot ((honest_iff hg').1 (h _ _ [] g g' rfl hg hg'))

end EventGroup

end Hgsl
