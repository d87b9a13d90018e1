import Hgsl.Sync.Retire

set_option autoImplicit false

/-! # Recycled ids

When does the retire look up its own timelines? It is enough that `idr_alloc` gives out no id that a draw
object still goes by. As long as that is so, the id that a captured timeline has, or that a retire has read
from it, stands for that timeline or for none. -/

namespace Hgsl

/-- The events that a thread still has to forward. -/
def RetireThread.events (th : RetireThread) : List TimelineEvent :=
  match th.retires with
  | some (_, evs) => evs
  | none => []

/-- The id that it is about to look up, with the event that it has read it from. -/
def RetireThread.lookingUp : RetireThread → Option (Nat × TimelineEvent)
  | .looking _ id (ev :: _) => some (id, ev)
  | _ => none

namespace TimelineRegistry

/-! ## Invariant -/

/-- What the id of timeline `tl` stands for is `tl`. -/
def Own (s : TimelineRegistry) (tl : Nat) : Prop :=
  tl < s.nextTimeline ∧ ∀ e ∈ s.idr, e.1 = (s.timeline tl).id → e.2 = tl

structure Named (s : TimelineRegistry) : Prop where
  id : ∀ e ∈ s.idr, e.1 ≠ 0 ∧ (s.timeline e.2).id = e.1 ∧ e.2 < s.nextTimeline
  unique : ∀ e ∈ s.idr, ∀ e' ∈ s.idr, e.1 = e'.1 → e.2 = e'.2
  drawobj : ∀ d, ∀ ev ∈ (s.drawobj d).timelines.getD [], Own s ev.timeline
  thread : ∀ t, ∀ ev ∈ (s.thread t).events, Own s ev.timeline
  looking : ∀ t id ev, (s.thread t).lookingUp = some (id, ev) → ∀ e ∈ s.idr, e.1 = id → e.2 = ev.timeline

theorem Named.start : Named {} where
  id _ := nofun
  unique _ := nofun
  drawobj _ := nofun
  thread _ := nofun
  looking _ _ _ := nofun

variable {s s' : TimelineRegistry}

theorem mem_idr_of_idrFind {id tl : Nat} (h : s.idrFind id = some tl) : (id, tl) ∈ s.idr := by
  obtain ⟨e, hfind, rfl⟩ := Option.map_eq_some_iff.1 h
  have hid : e.1 = id := by simpa using List.find?_some hfind
  rw [← hid]
  exact List.mem_of_find?_eq_some hfind

theorem ne_of_idrFind_eq_none {id : Nat} (h : s.idrFind id = none) : ∀ e ∈ s.idr, e.1 ≠ id := by
  intro e hmem
  simpa using List.find?_eq_none.1 (Option.map_eq_none_iff.1 h) e hmem

theorem Named.own (h : Named s) {id tl : Nat} (hfind : s.idrFind id = some tl) : Own s tl := by
  have hmem := mem_idr_of_idrFind hfind
  obtain ⟨-, hid, hlt⟩ := h.id _ hmem
  refine ⟨hlt, fun e he heq => h.unique e he _ hmem ?_⟩
  rw [heq]
  exact hid

/-- Ids leave the idr, and the timelines keep their ids. -/
theorem Own.mono {tl : Nat} (h : Own s tl) (hidr : ∀ e ∈ s'.idr, e ∈ s.idr)
    (hid : (s'.timeline tl).id = (s.timeline tl).id) (hnext : s'.nextTimeline = s.nextTimeline) :
    Own s' tl := by
  refine ⟨by rw [hnext]; exact h.1, fun e he heq => h.2 e (hidr e he) ?_⟩
  rw [heq, hid]

theorem Named.setTimeline (h : Named s) {tl : Nat} {l : IdrTimeline} (hl : l.id = (s.timeline tl).id) :
    Named (s.setTimeline tl l) := by
  have hid : ∀ tl', ((s.setTimeline tl l).timeline tl').id = (s.timeline tl').id :=
    (Function.forall_update_iff s.timeline fun tl' l => l.id = (s.timeline tl').id).2 ⟨hl, fun _ _ => rfl⟩
  have hown : ∀ tl', Own s tl' → Own (s.setTimeline tl l) tl' := fun tl' ho =>
    ho.mono (fun _ hmem => hmem) (hid tl') rfl
  refine ⟨?_, h.unique, fun d ev hmem => hown _ (h.drawobj d ev hmem),
    fun t ev hmem => hown _ (h.thread t ev hmem), h.looking⟩
  intro e he
  rw [hid]
  exact h.id e he

theorem Named.setDrawobj (h : Named s) {d : Nat} {c : TimelineDrawobj}
    (hc : ∀ ev ∈ c.timelines.getD [], Own s ev.timeline) : Named (s.setDrawobj d c) := by
  refine ⟨h.id, h.unique, ?_, h.thread, h.looking⟩
  refine (Function.forall_update_iff s.drawobj fun _ c =>
    ∀ ev ∈ c.timelines.getD [], Own s ev.timeline).2 ⟨hc, ?_⟩
  exact fun d' _ => h.drawobj d'

theorem Named.setDrawobj_nil (h : Named s) {d : Nat} {c : TimelineDrawobj}
    (htimelines : c.timelines.getD [] = []) : Named (s.setDrawobj d c) := by
  refine h.setDrawobj ?_
  rw [htimelines]
  exact nofun

theorem Named.setDrawobj_eq (h : Named s) {d : Nat} {c : TimelineDrawobj}
    (htimelines : c.timelines = (s.drawobj d).timelines) : Named (s.setDrawobj d c) := by
  refine h.setDrawobj ?_
  rw [htimelines]
  exact h.drawobj d

theorem Named.setThread (h : Named s) {t : Nat} {th : RetireThread}
    (hevents : ∀ ev ∈ th.events, Own s ev.timeline)
    (hlooking : ∀ id ev, th.lookingUp = some (id, ev) → ∀ e ∈ s.idr, e.1 = id → e.2 = ev.timeline) :
    Named (s.setThread t th) := by
  refine ⟨h.id, h.unique, h.drawobj, ?_, ?_⟩
  · refine (Function.forall_update_iff s.thread fun _ th => ∀ ev ∈ th.events, Own s ev.timeline).2
      ⟨hevents, ?_⟩
    exact fun t' _ => h.thread t'
  · refine (Function.forall_update_iff s.thread fun _ th => ∀ id ev, th.lookingUp = some (id, ev) →
      ∀ e ∈ s.idr, e.1 = id → e.2 = ev.timeline).2 ⟨hlooking, ?_⟩
    exact fun t' _ => h.looking t'

theorem Named.setThread_none (h : Named s) (t : Nat) {th : RetireThread} (hth : th.retires = none) :
    Named (s.setThread t th) := by
  refine h.setThread ?_ ?_
  · unfold RetireThread.events
    rw [hth]
    exact nofun
  · intro id ev hlooking
    unfold RetireThread.lookingUp at hlooking
    split at hlooking
    · cases hth
    · cases hlooking

theorem Named.shrink (h : Named s) {idr : List (Nat × Nat)} (hsub : ∀ e ∈ idr, e ∈ s.idr) :
    Named { s with idr := idr } where
  id e he := h.id e (hsub e he)
  unique e he e' he' := h.unique e (hsub e he) e' (hsub e' he')
  drawobj d ev hmem := (h.drawobj d ev hmem).mono hsub rfl rfl
  thread t ev hmem := (h.thread t ev hmem).mono hsub rfl rfl
  looking t id ev hlooking e he := h.looking t id ev hlooking e (hsub e he)

/-- `hgsl_isync_timeline_destroy` clears the id of the timeline that it removes. -/
theorem Named.destroy (h : Named s) (tl : Nat) :
    Named ((s.idrRemove (s.timeline tl).id).setTimeline tl { s.timeline tl with id := 0 }) := by
  have hsub : ∀ e ∈ s.idr.filter fun e => e.1 ≠ (s.timeline tl).id, e ∈ s.idr ∧ e.1 ≠ (s.timeline tl).id := by
    intro e he
    simpa using he
  -- the other timelines keep their ids, and `tl` goes by none of those left in the idr
  have hne : ∀ e ∈ s.idr.filter fun e => e.1 ≠ (s.timeline tl).id, e.2 ≠ tl := by
    intro e he heq
    obtain ⟨hmem, hid⟩ := hsub e he
    rw [← heq] at hid
    exact hid (h.id e hmem).2.1.symm
  have hown : ∀ tl', Own s tl' → Own
      ((s.idrRemove (s.timeline tl).id).setTimeline tl { s.timeline tl with id := 0 }) tl' := by
    intro tl' ho
    by_cases htl : tl' = tl
    · refine ⟨ho.1, fun e he heq => ?_⟩
      rw [htl] at heq
      simp only [TimelineRegistry.setTimeline, Function.update_self] at heq
      exact absurd heq (h.id e (hsub e he).1).1
    · refine ho.mono (fun e he => (hsub e he).1) ?_ rfl
      simp only [TimelineRegistry.setTimeline, idrRemove, Function.update_of_ne htl]
  refine ⟨?_, fun e he e' he' => h.unique e (hsub e he).1 e' (hsub e' he').1,
    fun d ev hmem => hown _ (h.drawobj d ev hmem), fun t ev hmem => hown _ (h.thread t ev hmem),
    fun t id ev hlooking e he => h.looking t id ev hlooking e (hsub e he).1⟩
  intro e he
  obtain ⟨hzero, hid, hlt⟩ := h.id e (hsub e he).1
  refine ⟨hzero, ?_, hlt⟩
  simp only [TimelineRegistry.setTimeline, idrRemove, Function.update_of_ne (hne e he)]
  exact hid

/-! ## Runs -/

/-- A draw object, or a thread that retires one, goes by this id. -/
def GoesBy (s : TimelineRegistry) (id : Nat) : Prop :=
  (∃ d, ∃ ev ∈ (s.drawobj d).timelines.getD [], (s.timeline ev.timeline).id = id) ∨
    (∃ t, ∃ ev ∈ (s.thread t).events, (s.timeline ev.timeline).id = id) ∨
    ∃ t ev, (s.thread t).lookingUp = some (id, ev)

/-- `idr_alloc` gives out no such id. -/
def KeepsIds (s : TimelineRegistry) : RetireAct → Prop
  | .create _ id _ _ => ¬ s.GoesBy id
  | _ => True

/-- A timeline is created with an id that nobody goes by. -/
theorem Named.create (h : Named s) {client id : Nat} {is64bits : Bool} {initialTs : BitVec 64}
    (hkeeps : ¬ s.GoesBy id) (hpos : 0 < id) (hfree : s.idrFind id = none) :
    Named { s.setTimeline s.nextTimeline
        { priv := client, id := id, kref := 1, is64bits := is64bits, lastTs := initialTs } with
      idr := s.idr.orderedInsert (fun e e' => e.1 ≤ e'.1) (id, s.nextTimeline)
      nextTimeline := s.nextTimeline + 1 } := by
  have hmem : ∀ e ∈ s.idr.orderedInsert (fun e e' => e.1 ≤ e'.1) (id, s.nextTimeline),
      e = (id, s.nextTimeline) ∨ e ∈ s.idr := fun e he => (List.mem_orderedInsert _).1 he
  -- the timelines that exist do not change
  have hold : ∀ tl, tl < s.nextTimeline → ∀ l : IdrTimeline,
      Function.update s.timeline s.nextTimeline l tl = s.timeline tl :=
    fun tl hlt l => Function.update_of_ne hlt.ne _ _
  have hnot : ∀ e ∈ s.idr, e.1 ≠ id := ne_of_idrFind_eq_none hfree
  -- none of them went by the new id
  have hown : ∀ tl, Own s tl → (s.timeline tl).id ≠ id → Own { s.setTimeline s.nextTimeline
        { priv := client, id := id, kref := 1, is64bits := is64bits, lastTs := initialTs } with
      idr := s.idr.orderedInsert (fun e e' => e.1 ≤ e'.1) (id, s.nextTimeline)
      nextTimeline := s.nextTimeline + 1 } tl := by
    intro tl ho hne
    refine ⟨Nat.lt_succ_of_lt ho.1, ?_⟩
    intro e he heq
    simp only [TimelineRegistry.setTimeline, hold tl ho.1] at heq
    rcases hmem e he with rfl | hin
    · exact absurd heq.symm hne
    · exact ho.2 e hin heq
  refine ⟨?_, ?_, ?_, ?_, ?_⟩
  · intro e he
    rcases hmem e he with rfl | hin
    · simp only [TimelineRegistry.setTimeline, Function.update_self]
      exact ⟨hpos.ne', trivial, Nat.lt_succ_self _⟩
    · obtain ⟨hzero, hid, hlt⟩ := h.id e hin
      simp only [TimelineRegistry.setTimeline, hold e.2 hlt]
      exact ⟨hzero, hid, Nat.lt_succ_of_lt hlt⟩
  · intro e he e' he' heq
    rcases hmem e he with rfl | hin
    · rcases hmem e' he' with rfl | hin'
      · rfl
      · exact absurd heq.symm (hnot e' hin')
    · rcases hmem e' he' with rfl | hin'
      · exact absurd heq (hnot e hin)
      · exact h.unique e hin e' hin' heq
  · intro d ev hev
    exact hown _ (h.drawobj d ev hev) fun heq => hkeeps (.inl ⟨d, ev, hev, heq⟩)
  · intro t ev hev
    exact hown _ (h.thread t ev hev) fun heq => hkeeps (.inr (.inl ⟨t, ev, hev, heq⟩))
  · intro t id' ev hlooking e he heq
    rcases hmem e he with rfl | hin
    · obtain rfl : id = id' := heq
      exact absurd (.inr (.inr ⟨t, ev, hlooking⟩)) hkeeps
    · exact h.looking t id' ev hlooking e hin heq

theorem Named.timelineobjSignal (h : Named s) (t d : Nat) : Named (s.timelineobjSignal t d) := by
  have h' := h.setDrawobj_eq (d := d)
    (c := { s.drawobj d with sigRefcount := (s.drawobj d).sigRefcount - 1 }) rfl
  unfold TimelineRegistry.timelineobjSignal
  dsimp only
  split
  · split
    · next evs hevs =>
        refine h'.setThread ?_ (by intros; contradiction)
        intro ev hmem
        refine h'.drawobj d ev ?_
        simp only [TimelineRegistry.setDrawobj, Function.update_self, hevs, Option.getD_some]
        exact List.mem_of_mem_take hmem
    · split
      · exact h'.setThread (by intros; contradiction) (by intros; contradiction)
      · exact h'.setThread_none t rfl
  · exact h'

theorem thread_forwardTimeline (s : TimelineRegistry) (tl : Nat) (ts : BitVec 64) :
    (s.forwardTimeline tl ts).thread = s.thread := by
  unfold forwardTimeline
  dsimp only
  split <;> rfl

theorem Named.forwardTimeline (h : Named s) (tl : Nat) (ts : BitVec 64) :
    Named (s.forwardTimeline tl ts) := by
  unfold TimelineRegistry.forwardTimeline
  dsimp only
  split
  · exact h
  · refine h.setTimeline ?_
    rfl

theorem Named.getTimeline (h : Named s) (tl : Nat) : Named (s.getTimeline tl) := by
  refine h.setTimeline ?_
  rfl

theorem Named.putTimeline (h : Named s) (tl : Nat) : Named (s.putTimeline tl) := by
  refine h.setTimeline ?_
  rfl

theorem Named.events (h : Named s) {t : Nat} {evs : List TimelineEvent}
    (hevs : (s.thread t).events = evs) : ∀ ev ∈ evs, Own s ev.timeline := by
  rw [← hevs]
  exact h.thread t

/-- **Step lemma.** -/
theorem Named.step {a : RetireAct} (h : Named s) (hkeeps : s.KeepsIds a)
    (hstep : TimelineRegistry.step s a = some s') : Named s' := by
  have heffect := step_cases hstep
  clear hstep
  cases heffect with
  | create client id is64bits initialTs hid hfree => exact h.create hkeeps hid hfree
  | notDestroyed t client id => exact h
  | @destroy t client id tl _ _ _ => exact (h.destroy tl).setThread_none t rfl
  | fini t client tls hidr => exact (h.shrink hidr).setThread_none t rfl
  | destruct t tl tls _ =>
      refine Named.setThread_none (Named.putTimeline (h.setTimeline ?_) _) t rfl
      rfl
  | drawobjCreate client =>
      have hcreate := h.setDrawobj_nil (d := s.nextDrawobj)
        (c := { priv := client, sigRefcount := 1, stage := .created }) rfl
      exact ⟨hcreate.id, hcreate.unique, hcreate.drawobj, hcreate.thread, hcreate.looking⟩
  | refused t d vals ok => exact h.setDrawobj_eq rfl
  | goesOn t _ hth => exact h.setThread_none t hth
  | changes t d _ hth hc =>
      rcases hc with hnil | heq
      · exact (h.setDrawobj_nil hnil).setThread_none t hth
      · exact (h.setDrawobj_eq heq).setThread_none t hth
  | @capture t _ _ d tl val _ hfind hth =>
      have hget := h.getTimeline tl
      have hfound : (s.getTimeline tl).idrFind val.timelineId = some tl := hfind
      have hown : Own (s.getTimeline tl) tl := hget.own hfound
      have hcaptured : Named ((s.getTimeline tl).addCaptured d tl) :=
        ⟨hget.id, hget.unique, hget.drawobj, hget.thread, hget.looking⟩
      refine (hcaptured.setDrawobj ?_).setThread_none t hth
      intro ev hmem
      rcases List.mem_append.1 hmem with hold | hnew
      · exact hcaptured.drawobj d ev hold
      · rw [List.mem_singleton.1 hnew]
        exact hown
  | unwind t tl hth => exact (h.putTimeline tl).setThread_none t hth
  | signal t d _ _ hc => exact (h.setDrawobj_eq hc).timelineobjSignal t d
  | @readId t d ev evs hthread =>
      have hevents := h.events (congrArg RetireThread.events hthread)
      refine h.setThread hevents ?_
      rintro id ev' ⟨⟩
      exact (hevents ev List.mem_cons_self).2
  | notFound t hthread => exact h.setThread (h.events (by rw [hthread]; rfl)) nofun
  | @found t d id tl evs hthread _ =>
      have hget := h.getTimeline tl
      have hevents := hget.events (congrArg RetireThread.events hthread)
      exact hget.setThread hevents nofun
  | @forward t d tl ev evs hthread =>
      have hforward := h.forwardTimeline tl ev.seqno
      exact hforward.setThread (hforward.events (by rw [thread_forwardTimeline, hthread]; rfl)) nofun
  | @putFound t d tl evs hthread =>
      have hput := h.putTimeline tl
      have hevents := hput.events (congrArg RetireThread.events hthread)
      exact hput.setThread hevents nofun
  | @putCaptured t d ev evs hthread =>
      have hput := h.putTimeline ev.timeline
      refine hput.setThread (fun ev' hmem => ?_) nofun
      exact hput.events (congrArg RetireThread.events hthread) ev' (List.mem_cons_of_mem _ hmem)
  | others tl lastTs fenceList =>
      refine h.setTimeline ?_
      rfl

/-- A retire looks its own timelines up. -/
theorem Named.looksUpOwn (h : Named s) (a : RetireAct) : s.looksUpOwn a = true := by
  unfold TimelineRegistry.looksUpOwn
  split
  · split
    · next t id ev evs hthread =>
        split
        · rfl
        · next tl hfind =>
            have hmem := mem_idr_of_idrFind hfind
            exact decide_eq_true (h.looking _ id ev (by rw [hthread]; rfl) _ hmem rfl)
    · rfl
  · rfl

open Classical in
/-- In every run without recycled ids, the retire changes only the timelines that were captured. -/
theorem onlyCaptured_of_keepsIds {as : List RetireAct}
    (hrun : Trace.exec (Trace.guarded KeepsIds TimelineRegistry.step) {} as = some s) : OnlyCaptured s := by
  have hboth : Named s ∧ Captured s := by
    refine Trace.exec_invariant (P := fun s => Named s ∧ Captured s) ?_ ⟨Named.start, Captured.start⟩ hrun
    rintro s a s' ⟨hnamed, hcaptured⟩ hstep
    obtain ⟨hkeeps, hstep⟩ := Trace.guarded_eq_some.1 hstep
    exact ⟨hnamed.step hkeeps hstep,
      hcaptured.step (Trace.guarded_eq_some.2 ⟨hnamed.looksUpOwn a, hstep⟩)⟩
  exact hboth.2.onlyCaptured

end TimelineRegistry

end Hgsl
