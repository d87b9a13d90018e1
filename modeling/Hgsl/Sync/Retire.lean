import Hgsl.Sync.Registry

set_option autoImplicit false

/-! # Retiring a timeline object

The retire of a draw object holds references to the timelines that it captured, but it passes their ids
to `hgsl_isync_forward`, which looks them up again. `hgsl_isync_timeline_destroy` clears the id of the
timeline that it removes, and `hgsl_isync_fini` does not: what `timeline->id` says may by then be the id
of another client's timeline. -/

namespace Hgsl

/-- The draw object that a thread retires, with the events that are left. -/
def RetireThread.retires : RetireThread → Option (Nat × List TimelineEvent)
  | .retiring d evs | .looking d _ evs | .forwarding d _ evs | .putting d _ evs | .releasing d evs =>
    some (d, evs)
  | .idle | .destructing _ | .adding _ _ | .registering _ | .unwinding _ _ | .oops => none

/-- The thread that moves. -/
def RetireAct.thread : RetireAct → Option Nat
  | .destroy t _ _ | .fini t _ | .destruct t | .addTimeline t _ _ _ | .capture t _ _ | .addEvent t _
  | .unwind t | .timelineSignaled t _ | .drawobjDestroy t _ | .readId t | .lookup t | .forward t
  | .putFound t | .putCaptured t => some t
  | .create _ _ _ _ | .drawobjCreate _ | .others _ _ _ => none

namespace TimelineRegistry

variable {s s' : TimelineRegistry}

/-! ## What a step can do -/

/-- The state that a step leaves. A thread that retires nothing may go on to retire nothing, and may change
    a draw object on its way, but not which events it has, unless it drops them all. -/
inductive Effect (s : TimelineRegistry) : RetireAct → TimelineRegistry → Prop where
  | create (client id : Nat) (is64bits : Bool) (initialTs : BitVec 64) (hid : 0 < id)
      (hfree : s.idrFind id = none) :
      Effect s (.create client id is64bits initialTs) { s.setTimeline s.nextTimeline
          { priv := client, id := id, kref := 1, is64bits := is64bits, lastTs := initialTs } with
        idr := s.idr.orderedInsert (fun e e' => e.1 ≤ e'.1) (id, s.nextTimeline)
        nextTimeline := s.nextTimeline + 1 }
  | notDestroyed (t client id : Nat) : Effect s (.destroy t client id) s
  | destroy (t client id : Nat) {tl : Nat} (hthread : s.thread t = .idle) (hfind : s.idrFind id = some tl)
      (hpriv : (s.timeline tl).priv = client) :
      Effect s (.destroy t client id) (((s.idrRemove (s.timeline tl).id).setTimeline tl
        { s.timeline tl with id := 0 }).setThread t (.destructing [tl]))
  | fini (t client : Nat) (tls : List Nat) {idr : List (Nat × Nat)} (hidr : ∀ e ∈ idr, e ∈ s.idr) :
      Effect s (.fini t client) ({ s with idr := idr }.setThread t (.destructing tls))
  | destruct (t tl : Nat) (tls : List Nat) (hthread : s.thread t = .destructing (tl :: tls)) :
      Effect s (.destruct t) (((s.destructList tl).putTimeline tl).setThread t (.destructing tls))
  | drawobjCreate (client : Nat) :
      Effect s (.drawobjCreate client) { s.setDrawobj s.nextDrawobj
          { priv := client, sigRefcount := 1, stage := .created } with
        nextDrawobj := s.nextDrawobj + 1 }
  | refused (t d : Nat) (vals : List TimelineArg) (ok : Bool) :
      Effect s (.addTimeline t d vals ok) (s.setDrawobj d { s.drawobj d with stage := .added })
  | goesOn {a : RetireAct} {th : RetireThread} (t : Nat) (ha : a.thread = some t)
      (hth : th.retires = none) : Effect s a (s.setThread t th)
  | changes {a : RetireAct} {th : RetireThread} {c : TimelineDrawobj} (t d : Nat) (ha : a.thread = some t)
      (hth : th.retires = none)
      (hc : c.timelines.getD [] = [] ∨ c.timelines = (s.drawobj d).timelines) :
      Effect s a ((s.setDrawobj d c).setThread t th)
  | capture (t : Nat) (copied contextAlive : Bool) {d tl : Nat} {val : TimelineArg} {th : RetireThread}
      (hfind : s.idrFind val.timelineId = some tl) (hth : th.retires = none) :
      Effect s (.capture t copied contextAlive) ((((s.getTimeline tl).addCaptured d tl).setDrawobj d
        { s.drawobj d with
          timelines := some ((s.drawobj d).timelines.getD [] ++ [⟨tl, val.timepoint⟩]) }).setThread t th)
  | unwind (t tl : Nat) {th : RetireThread} (hth : th.retires = none) :
      Effect s (.unwind t) ((s.putTimeline tl).setThread t th)
  | signal {a : RetireAct} {c : TimelineDrawobj} (t d : Nat) (ha : a.thread = some t)
      (hthread : s.thread t = .idle) (hc : c.timelines = (s.drawobj d).timelines) :
      Effect s a ((s.setDrawobj d c).timelineobjSignal t d)
  | readId (t : Nat) {d : Nat} {ev : TimelineEvent} {evs : List TimelineEvent}
      (hthread : s.thread t = .retiring d (ev :: evs)) :
      Effect s (.readId t) (s.setThread t (.looking d (s.timeline ev.timeline).id (ev :: evs)))
  | notFound (t : Nat) {d id : Nat} {evs : List TimelineEvent} (hthread : s.thread t = .looking d id evs) :
      Effect s (.lookup t) (s.setThread t (.releasing d evs))
  | found (t : Nat) {d id tl : Nat} {evs : List TimelineEvent} (hthread : s.thread t = .looking d id evs)
      (hfind : s.idrFind id = some tl) :
      Effect s (.lookup t) ((s.getTimeline tl).setThread t (.forwarding d tl evs))
  | forward (t : Nat) {d tl : Nat} {ev : TimelineEvent} {evs : List TimelineEvent}
      (hthread : s.thread t = .forwarding d tl (ev :: evs)) :
      Effect s (.forward t) ((s.forwardTimeline tl ev.seqno).setThread t (.putting d tl (ev :: evs)))
  | putFound (t : Nat) {d tl : Nat} {evs : List TimelineEvent} (hthread : s.thread t = .putting d tl evs) :
      Effect s (.putFound t) ((s.putTimeline tl).setThread t (.releasing d evs))
  | putCaptured (t : Nat) {d : Nat} {ev : TimelineEvent} {evs : List TimelineEvent}
      (hthread : s.thread t = .releasing d (ev :: evs)) :
      Effect s (.putCaptured t) ((s.putTimeline ev.timeline).setThread t (.retiring d evs))
  | others (tl : Nat) (lastTs : BitVec 64) (fenceList : List ListedFence) :
      Effect s (.others tl lastTs fenceList)
        (s.setTimeline tl { s.timeline tl with lastTs := lastTs, fenceList := fenceList })

theorem idrFind_of_timelineGet {priv id tl : Nat} {checkOwner : Bool}
    (h : s.timelineGet priv id checkOwner = some tl) : s.idrFind id = some tl := by
  unfold timelineGet at h
  split at h
  · cases h
  · next hfind =>
      split at h
      · cases h
      · split at h
        · cases h
        · rw [hfind, h]

/-- **Inversion.** The only place where `step` is unfolded. -/
theorem step_cases {a : RetireAct} (hstep : s.step a = some s') : Effect s a s' := by
  cases a with
  | create client id is64bits initialTs =>
      simp only [step] at hstep
      split at hstep
      · next hfree =>
          obtain rfl := Option.some.inj hstep
          exact .create client id is64bits initialTs hfree.1 hfree.2
      · cases hstep
  | destroy t client id =>
      simp only [step] at hstep
      split at hstep
      · next tl hthread hfind =>
          split at hstep
          · next hpriv =>
              obtain rfl := Option.some.inj hstep
              exact .destroy t client id hthread hfind hpriv
          · obtain rfl := Option.some.inj hstep
            exact .notDestroyed t client id
      · obtain rfl := Option.some.inj hstep
        exact .notDestroyed t client id
      · cases hstep
  | fini t client =>
      simp only [step] at hstep
      split at hstep
      · obtain rfl := Option.some.inj hstep
        exact .fini t client _ fun e he => (List.mem_filter.1 he).1
      · cases hstep
  | destruct t =>
      simp only [step] at hstep
      split at hstep
      · next tl tls hthread =>
          obtain rfl := Option.some.inj hstep
          exact .destruct t tl tls hthread
      · obtain rfl := Option.some.inj hstep
        exact .goesOn t rfl rfl
      · cases hstep
  | drawobjCreate client =>
      obtain rfl := Option.some.inj hstep
      exact .drawobjCreate client
  | addTimeline t d vals ok =>
      simp only [step] at hstep
      split at hstep
      · split at hstep
        · obtain rfl := Option.some.inj hstep
          exact .changes t d rfl rfl (.inl rfl)
        · obtain rfl := Option.some.inj hstep
          exact .refused t d vals ok
      · cases hstep
  | capture t copied contextAlive =>
      simp only [step] at hstep
      split at hstep
      · next d _ =>
          obtain rfl := Option.some.inj hstep
          exact .changes t d rfl rfl (.inr rfl)
      · next d val vals _ =>
          split at hstep
          · obtain rfl := Option.some.inj hstep
            exact .goesOn t rfl rfl
          · split at hstep
            · obtain rfl := Option.some.inj hstep
              exact .goesOn t rfl rfl
            · next tl hget =>
                obtain rfl := Option.some.inj hstep
                have hfind := idrFind_of_timelineGet hget
                split
                · exact .capture t copied _ hfind rfl
                · exact .capture t copied _ hfind rfl
      · cases hstep
  | addEvent t ok =>
      simp only [step] at hstep
      split at hstep
      · next d _ =>
          split at hstep
          · obtain rfl := Option.some.inj hstep
            exact .changes t d rfl rfl (.inr rfl)
          · obtain rfl := Option.some.inj hstep
            exact .goesOn t rfl rfl
      · cases hstep
  | unwind t =>
      simp only [step] at hstep
      split at hstep
      · next d ev evs _ =>
          obtain rfl := Option.some.inj hstep
          exact .unwind t ev.timeline rfl
      · next d _ =>
          obtain rfl := Option.some.inj hstep
          exact .changes t d rfl rfl (.inl rfl)
      · cases hstep
  | timelineSignaled t d =>
      simp only [step] at hstep
      split at hstep
      · next hthread _ =>
          obtain rfl := Option.some.inj hstep
          exact .signal t d rfl hthread rfl
      · cases hstep
  | drawobjDestroy t d =>
      simp only [step] at hstep
      split at hstep
      · next hthread _ =>
          obtain rfl := Option.some.inj hstep
          exact .signal t d rfl hthread rfl
      · next hthread _ =>
          obtain rfl := Option.some.inj hstep
          exact .signal t d rfl hthread rfl
      · cases hstep
  | readId t =>
      simp only [step] at hstep
      split at hstep
      · next d ev evs hthread =>
          obtain rfl := Option.some.inj hstep
          exact .readId t hthread
      · next d _ =>
          obtain rfl := Option.some.inj hstep
          exact .changes t d rfl rfl (.inl rfl)
      · cases hstep
  | lookup t =>
      simp only [step] at hstep
      split at hstep
      · next d id evs hthread =>
          split at hstep
          · obtain rfl := Option.some.inj hstep
            exact .notFound t hthread
          · next tl hget =>
              obtain rfl := Option.some.inj hstep
              exact .found t hthread (idrFind_of_timelineGet hget)
      · cases hstep
  | forward t =>
      simp only [step] at hstep
      split at hstep
      · next hthread =>
          obtain rfl := Option.some.inj hstep
          exact .forward t hthread
      · cases hstep
  | putFound t =>
      simp only [step] at hstep
      split at hstep
      · next hthread =>
          obtain rfl := Option.some.inj hstep
          exact .putFound t hthread
      · cases hstep
  | putCaptured t =>
      simp only [step] at hstep
      split at hstep
      · next hthread =>
          obtain rfl := Option.some.inj hstep
          exact .putCaptured t hthread
      · cases hstep
  | others tl lastTs fenceList =>
      obtain rfl := Option.some.inj hstep
      exact .others tl lastTs fenceList

/-! ## Invariant -/

/-- What a thread is about to forward is the timeline of its event. -/
def FoundOk : RetireThread → Prop
  | .forwarding _ tl evs => ∀ ev ∈ evs.head?, ev.timeline = tl
  | _ => True

structure Captured (s : TimelineRegistry) : Prop where
  timelines : ∀ d, ∀ ev ∈ (s.drawobj d).timelines.getD [], ev.timeline ∈ s.captured d
  events : ∀ t d evs, (s.thread t).retires = some (d, evs) →
    ∀ ev ∈ evs, ev.timeline ∈ s.captured d
  found : ∀ t, FoundOk (s.thread t)

theorem Captured.start : Captured {} where
  timelines _ := nofun
  events _ _ _ := nofun
  found _ := trivial

theorem Captured.setTimeline (h : Captured s) (tl : Nat) (l : IdrTimeline) :
    Captured (s.setTimeline tl l) :=
  ⟨h.timelines, h.events, h.found⟩

theorem Captured.setThread (h : Captured s) (t : Nat) {th : RetireThread}
    (hevents : ∀ d evs, th.retires = some (d, evs) →
      ∀ ev ∈ evs, ev.timeline ∈ s.captured d) (hfound : FoundOk th) :
    Captured (s.setThread t th) := by
  refine ⟨h.timelines, ?_, ?_⟩
  · refine (Function.forall_update_iff s.thread fun _ th => ∀ d evs, th.retires = some (d, evs) →
      ∀ ev ∈ evs, ev.timeline ∈ s.captured d).2 ⟨hevents, ?_⟩
    exact fun t' _ => h.events t'
  · refine (Function.forall_update_iff s.thread fun _ th => FoundOk th).2 ⟨hfound, ?_⟩
    exact fun t' _ => h.found t'

/-- A thread goes on with nothing to forward. -/
theorem Captured.setThread_none (h : Captured s) (t : Nat) {th : RetireThread} (hth : th.retires = none) :
    Captured (s.setThread t th) := by
  refine h.setThread t (fun d evs hretires => ?_) ?_
  · rw [hth] at hretires
    cases hretires
  · cases th <;> trivial

theorem Captured.setDrawobj (h : Captured s) {d : Nat} {c : TimelineDrawobj}
    (htimelines : ∀ ev ∈ c.timelines.getD [], ev.timeline ∈ s.captured d) :
    Captured (s.setDrawobj d c) := by
  refine ⟨?_, h.events, h.found⟩
  refine (Function.forall_update_iff s.drawobj fun d c =>
    ∀ ev ∈ c.timelines.getD [], ev.timeline ∈ s.captured d).2 ⟨htimelines, ?_⟩
  exact fun d' _ => h.timelines d'

/-- A draw object gets rid of its events. -/
theorem Captured.setDrawobj_nil (h : Captured s) {d : Nat} {c : TimelineDrawobj}
    (htimelines : c.timelines.getD [] = []) : Captured (s.setDrawobj d c) := by
  refine h.setDrawobj ?_
  rw [htimelines]
  exact nofun

/-- It changes, but not its events. -/
theorem Captured.setDrawobj_eq (h : Captured s) {d : Nat} {c : TimelineDrawobj}
    (htimelines : c.timelines = (s.drawobj d).timelines) : Captured (s.setDrawobj d c) := by
  refine h.setDrawobj ?_
  rw [htimelines]
  exact h.timelines d

theorem mem_addCaptured {d d' tl tl' : Nat} (h : tl' ∈ s.captured d') :
    tl' ∈ (s.addCaptured d tl).captured d' := by
  simp only [addCaptured]
  by_cases hd : d' = d
  · rw [hd, Function.update_self]
    exact List.mem_append_left _ (hd ▸ h)
  · rw [Function.update_of_ne hd]
    exact h

theorem Captured.addCaptured (h : Captured s) (d tl : Nat) : Captured (s.addCaptured d tl) where
  timelines d' ev hmem := mem_addCaptured (h.timelines d' ev hmem)
  events t d' evs hretires ev hmem := mem_addCaptured (h.events t d' evs hretires ev hmem)
  found := h.found

theorem Captured.timelineobjSignal (h : Captured s) (t d : Nat) :
    Captured (s.timelineobjSignal t d) := by
  have h' := h.setDrawobj_eq (d := d)
    (c := { s.drawobj d with sigRefcount := (s.drawobj d).sigRefcount - 1 }) rfl
  unfold TimelineRegistry.timelineobjSignal
  dsimp only
  split
  · split
    · next evs hevs =>
        refine h'.setThread t ?_ trivial
        rintro d' evs' ⟨⟩ ev hmem
        refine h'.timelines d ev ?_
        simp only [TimelineRegistry.setDrawobj, Function.update_self, hevs, Option.getD_some]
        exact List.mem_of_mem_take hmem
    · refine h'.setThread t ?_ ?_
      · intro d' evs' hretires
        split at hretires
        · cases hretires
          exact nofun
        · cases hretires
      · split <;> trivial
  · exact h'

theorem captured_forwardTimeline (s : TimelineRegistry) (tl : Nat) (ts : BitVec 64) :
    (s.forwardTimeline tl ts).captured = s.captured := by
  unfold forwardTimeline
  dsimp only
  split <;> rfl

theorem Captured.forwardTimeline (h : Captured s) (tl : Nat) (ts : BitVec 64) :
    Captured (s.forwardTimeline tl ts) := by
  unfold TimelineRegistry.forwardTimeline
  dsimp only
  split
  · exact h
  · exact h.setTimeline _ _

/-- What the retire looks up by the id that it has read is the timeline that it has read it from, or
    nothing. -/
def looksUpOwn (s : TimelineRegistry) : RetireAct → Bool
  | .lookup t =>
    match s.thread t with
    | .looking _ id (ev :: _) =>
      match s.idrFind id with
      | none => true
      | some tl => tl = ev.timeline
    | _ => true
  | _ => true

/-- **Step lemma.** -/
theorem Captured.step {a : RetireAct} (h : Captured s)
    (hstep : Trace.guarded (fun s a => s.looksUpOwn a = true) TimelineRegistry.step s a = some s') :
    Captured s' := by
  obtain ⟨hown, hstep⟩ := Trace.guarded_eq_some.1 hstep
  have heffect := step_cases hstep
  clear hstep
  cases heffect with
  | create client id is64bits initialTs _ _ => exact ⟨h.timelines, h.events, h.found⟩
  | notDestroyed t client id => exact h
  | @destroy t client id tl _ _ _ =>
      have hremove : Captured (s.idrRemove (s.timeline tl).id) := ⟨h.timelines, h.events, h.found⟩
      exact (hremove.setTimeline _ _).setThread_none t rfl
  | fini t client tls _ =>
      refine Captured.setThread_none ?_ t rfl
      exact ⟨h.timelines, h.events, h.found⟩
  | destruct t tl tls _ => exact ((h.setTimeline _ _).setTimeline _ _).setThread_none t rfl
  | drawobjCreate client =>
      have hcreate := h.setDrawobj_nil (d := s.nextDrawobj)
        (c := { priv := client, sigRefcount := 1, stage := .created }) rfl
      exact ⟨hcreate.timelines, hcreate.events, hcreate.found⟩
  | refused t d vals ok => exact h.setDrawobj_eq rfl
  | goesOn t _ hth => exact h.setThread_none t hth
  | changes t d _ hth hc =>
      rcases hc with hnil | heq
      · exact (h.setDrawobj_nil hnil).setThread_none t hth
      · exact (h.setDrawobj_eq heq).setThread_none t hth
  | @capture t _ _ d tl val _ _ hth =>
      have hget := h.setTimeline tl { s.timeline tl with kref := (s.timeline tl).kref + 1 }
      refine Captured.setThread_none ((hget.addCaptured d tl).setDrawobj ?_) t hth
      intro ev hmem
      rcases List.mem_append.1 hmem with hold | hnew
      · exact mem_addCaptured (h.timelines d ev hold)
      · rw [List.mem_singleton.1 hnew]
        simp [TimelineRegistry.addCaptured]
  | unwind t tl hth => exact (h.setTimeline _ _).setThread_none t hth
  | signal t d _ _ hc => exact (h.setDrawobj_eq hc).timelineobjSignal t d
  | readId t hthread =>
      refine h.setThread t ?_ trivial
      rintro d evs ⟨⟩
      exact h.events t _ _ (by rw [hthread]; rfl)
  | notFound t hthread =>
      refine h.setThread t ?_ trivial
      rintro d evs ⟨⟩
      exact h.events t _ _ (by rw [hthread]; rfl)
  | @found t d id tl evs hthread hfind =>
      refine (h.setTimeline _ _).setThread t ?_ ?_
      · rintro d' evs' ⟨⟩
        exact h.events t d _ (by rw [hthread]; rfl)
      · -- the condition on the run
        intro ev hmem
        cases evs with
        | nil => cases hmem
        | cons ev' evs =>
            obtain rfl := Option.some.inj hmem
            simp only [looksUpOwn, hthread, hfind] at hown
            exact (of_decide_eq_true hown).symm
  | @forward t d tl ev evs hthread =>
      refine (h.forwardTimeline tl ev.seqno).setThread t ?_ trivial
      rintro d' evs' ⟨⟩
      rw [captured_forwardTimeline]
      exact h.events t d _ (by rw [hthread]; rfl)
  | putFound t hthread =>
      refine (h.setTimeline _ _).setThread t ?_ trivial
      rintro d evs ⟨⟩
      exact h.events t _ _ (by rw [hthread]; rfl)
  | @putCaptured t d ev evs hthread =>
      refine (h.setTimeline _ _).setThread t ?_ trivial
      rintro d' evs' ⟨⟩ ev' hmem
      exact h.events t d _ (by rw [hthread]; rfl) ev' (List.mem_cons_of_mem _ hmem)
  | others tl lastTs fenceList => exact h.setTimeline _ _

theorem captured_of_run {as : List RetireAct} (hrun : Trace.exec
    (Trace.guarded (fun s a => s.looksUpOwn a = true) TimelineRegistry.step) {} as = some s) :
    Captured s :=
  Trace.exec_invariant (fun _ _ _ h hstep => Captured.step h hstep) Captured.start hrun

/-! ## What the retire changes -/

/-- Timeline `tl` has the same timestamp and fences as before. -/
def SameTimeline (s s' : TimelineRegistry) (tl : Nat) : Prop :=
  (s'.timeline tl).lastTs = (s.timeline tl).lastTs ∧ (s'.timeline tl).fenceList = (s.timeline tl).fenceList

/-- Whatever a thread does that retires a draw object, it changes no timelines but those that the draw
    object captured. -/
def OnlyCaptured (s : TimelineRegistry) : Prop :=
  ∀ t d evs, (s.thread t).retires = some (d, evs) → ∀ a s', a.thread = some t → s.step a = some s' →
    ∀ tl, SameTimeline s s' tl ∨ tl ∈ s.captured d

theorem sameTimeline_setTimeline (s : TimelineRegistry) {tl : Nat} {l : IdrTimeline}
    (hts : l.lastTs = (s.timeline tl).lastTs) (hlist : l.fenceList = (s.timeline tl).fenceList) (tl' : Nat) :
    SameTimeline s (s.setTimeline tl l) tl' := by
  unfold SameTimeline
  simp only [TimelineRegistry.setTimeline]
  by_cases htl : tl' = tl
  · rw [htl, Function.update_self]
    exact ⟨hts, hlist⟩
  · rw [Function.update_of_ne htl]
    exact ⟨rfl, rfl⟩

theorem sameTimeline_getTimeline (s : TimelineRegistry) (tl tl' : Nat) :
    SameTimeline s (s.getTimeline tl) tl' := by
  refine s.sameTimeline_setTimeline ?_ ?_ tl'
  · rfl
  · rfl

theorem sameTimeline_putTimeline (s : TimelineRegistry) (tl tl' : Nat) :
    SameTimeline s (s.putTimeline tl) tl' := by
  refine s.sameTimeline_setTimeline ?_ ?_ tl'
  · rfl
  · rfl

theorem sameTimeline_forwardTimeline {tl tl' : Nat} (hne : tl' ≠ tl) (ts : BitVec 64) :
    SameTimeline s (s.forwardTimeline tl ts) tl' := by
  unfold SameTimeline TimelineRegistry.forwardTimeline
  dsimp only
  split
  · exact ⟨rfl, rfl⟩
  · simp [TimelineRegistry.setTimeline, hne]

theorem Captured.onlyCaptured (h : Captured s) : OnlyCaptured s := by
  intro t d evs hretires a s' ha hstep tl
  have heffect := step_cases hstep
  clear hstep
  cases heffect with
  | create _ _ _ _ _ _ | drawobjCreate _ | others _ _ _ => cases ha
  | notDestroyed _ _ _ | fini _ _ _ _ | refused _ _ _ _ | goesOn _ _ _ | changes _ _ _ _ _ | readId _ _
  | notFound _ _ => exact .inl ⟨rfl, rfl⟩
  | capture _ _ _ _ _ | found _ _ _ => exact .inl (s.sameTimeline_getTimeline _ tl)
  | unwind _ _ _ | putFound _ _ | putCaptured _ _ => exact .inl (s.sameTimeline_putTimeline _ tl)
  -- a thread that is idle or destructs retires nothing
  | destroy _ _ _ hthread _ _ | destruct _ _ _ hthread =>
      obtain rfl := Option.some.inj ha
      rw [hthread] at hretires
      cases hretires
  | signal _ _ ha' hthread _ =>
      obtain rfl := Option.some.inj (ha.symm.trans ha')
      rw [hthread] at hretires
      cases hretires
  | @forward t' d' tl' ev evs' hthread =>
      obtain rfl := Option.some.inj ha
      by_cases htl : tl = tl'
      · have hfound := h.found t'
        rw [hthread] at hretires hfound
        cases hretires
        refine .inr ?_
        rw [htl, ← hfound ev rfl]
        exact h.events t' d _ (by rw [hthread]; rfl) ev List.mem_cons_self
      · exact .inl (sameTimeline_forwardTimeline htl ev.seqno)

/-- In every run whose retires look up their own timelines, they change no others. -/
theorem onlyCaptured_of_looksUpOwn (as : List RetireAct) (s : TimelineRegistry)
    (hrun : Trace.exec (Trace.guarded (fun s a => s.looksUpOwn a = true) step) {} as = some s) :
    OnlyCaptured s :=
  (captured_of_run hrun).onlyCaptured

/-- Client 5 creates a timeline and client 6 captures it; when client 5 exits, thread 0 drops the last
    `sig_refcount`. -/
def exitRun : List RetireAct :=
  [.create 5 1 false 0#64, .others 0 0#64 [⟨3#64, true⟩], .drawobjCreate 6,
    .addTimeline 0 0 [{ timelineId := 1, timepoint := 4#64 }] true, .capture 0 true true,
    .capture 0 true true, .addEvent 0 true, .drawobjDestroy 0 0, .fini 1 5, .destruct 1, .destruct 1,
    .timelineSignaled 0 0, .readId 0]

/-- The id that the retire has read is not in use any more. -/
theorem onlyCaptured_of_looksUpOwn_exitRun :
    ∃ s, Trace.exec (Trace.guarded (fun s a => s.looksUpOwn a = true) step) {} (exitRun ++ [.lookup 0]) =
        some s ∧
      (s.thread 0, s.captured 0, (s.timeline 0).fenceList) = (.releasing 0 [⟨0, 4#64⟩], [0], []) ∧
      OnlyCaptured s := by
  have heval : (Trace.exec (Trace.guarded (fun s a => s.looksUpOwn a = true) step) {}
        (exitRun ++ [.lookup 0])).map
          (fun s => (s.thread 0, s.captured 0, (s.timeline 0).fenceList)) =
      some (.releasing 0 [⟨0, 4#64⟩], [0], []) := by
    decide +kernel
  obtain ⟨s, hs, heq⟩ := Option.map_eq_some_iff.1 heval
  exact ⟨s, hs, heq, onlyCaptured_of_looksUpOwn _ s hs⟩

/-- Client 7 creates a timeline with a fence, which gets the id; the retire forwards it. -/
theorem retire_forwards_other_client :
    ∃ s ∈ Trace.exec step {}
        (exitRun ++ [.create 7 1 false 0#64, .others 1 0#64 [⟨2#64, true⟩], .lookup 0]),
      ∃ s' ∈ s.step (.forward 0), (s.thread 0).retires = some (0, [⟨0, 4#64⟩]) ∧ s.captured 0 = [0] ∧
        ((s.timeline 1).lastTs, (s.timeline 1).fenceList) = (0#64, [⟨2#64, true⟩]) ∧
        ((s'.timeline 1).lastTs, (s'.timeline 1).fenceList) = (4#64, []) := by
  decide +kernel

end TimelineRegistry

end Hgsl
