import Hgsl.Sync.Signalling

set_option autoImplicit false

/-! # No lost wake-up

Nobody is between two places when no call is under way, so a fence is then on the list, signalled or
released. That nothing on the list is reached by the timestamp is another matter: `hgsl_isync_forward` sees
to it, but a fence that is checked before and inserted after it is missed. -/

namespace Hgsl

namespace IsyncState

/-! ## What a step can do -/

/-- The state that a step leaves. -/
inductive Effect (s : IsyncState) : SyncAct → IsyncState → Prop where
  | installFence (t tl : Nat) (ts : BitVec 32) (tsIsValid : Bool) (hidle : s.thread t = .idle) :
      Effect s (.fenceCreate t tl ts tsIsValid true)
        (s.makeFence t tl ((if tsIsValid then ts else 1#32).setWidth 64)
          ((RefCount.init (.call t)).get .user) (.checking s.nextFence none))
  | discardFence (t tl : Nat) (ts : BitVec 32) (tsIsValid : Bool) (hidle : s.thread t = .idle) :
      Effect s (.fenceCreate t tl ts tsIsValid false)
        (s.makeFence t tl ((if tsIsValid then ts else 1#32).setWidth 64) (.init (.call t))
          (.discarding s.nextFence))
  | fenceArray (t : Nat) (vals : List TimelineVal) (hidle : s.thread t = .idle) :
      Effect s (.fenceArray t vals) (s.setThread t (.looping ⟨[], vals⟩))
  | giveUpArray (t : Nat) {array : ArrayLoop} (hlooping : s.thread t = .looping array) :
      Effect s (.turn t false) (s.setThread t (.dropping array.made))
  | finishArray (t : Nat) {array : ArrayLoop} (hlooping : s.thread t = .looping array)
      (hrest : array.rest = []) :
      Effect s (.turn t true) (s.setThread t (.holding array.made))
  | makeNext (t : Nat) {array : ArrayLoop} (v : TimelineVal) (rest : List TimelineVal)
      (hlooping : s.thread t = .looping array) (hrest : array.rest = v :: rest) :
      Effect s (.turn t true) (s.makeFence t v.timeline v.timepoint (.init (.call t))
        (.checking s.nextFence (some { array with rest := rest })))
  | signalled (t : Nat) {f : Nat} {array : Option ArrayLoop}
      (hchecking : s.thread t = .checking f array)
      (hsignalled : ((s.fence f).signalled || s.hasSignaled f) = true) :
      Effect s (.check t) ((s.setFence f { s.fence f with signalled := true, stage := .done }).setThread t
        (afterMake f array))
  | notSignalled (t : Nat) {f : Nat} {array : Option ArrayLoop}
      (hchecking : s.thread t = .checking f array)
      (hahead : ¬((s.fence f).signalled || s.hasSignaled f) = true) :
      Effect s (.check t) (s.setThread t (.inserting f array))
  | insert (t : Nat) {f : Nat} {array : Option ArrayLoop}
      (hinserting : s.thread t = .inserting f array) :
      Effect s (.insert t)
        (((s.setTimeline (s.fence f).timeline { s.timeline (s.fence f).timeline with
            fenceList := (s.timeline (s.fence f).timeline).fenceList ++ [f] }).setFence f
          { s.fence f with stage := .listed }).setThread t (afterMake f array))
  | fenceSignal (t tl f : Nat) (hidle : s.thread t = .idle) (huser : .user ∈ (s.fence f).kref.holders) :
      Effect s (.fenceSignal t tl f)
        ((s.setFence f { s.fence f with kref := (s.fence f).kref.get (.call t) }).setThread t
          (.searching tl f))
  | find (t : Nat) {tl f : Nat} (hsearching : s.thread t = .searching tl f)
      (hmem : f ∈ (s.timeline tl).fenceList) :
      Effect s (.search t)
        (((s.delFence tl f).setFence f { s.fence f with stage := .taken t }).setThread t (.signalling f))
  | notFound (t : Nat) {tl f : Nat} (hsearching : s.thread t = .searching tl f)
      (hmem : f ∉ (s.timeline tl).fenceList) :
      Effect s (.search t) (s.setThread t (.dropping [f]))
  | forward (t tl : Nat) (ts : BitVec 64) (hidle : s.thread t = .idle) :
      Effect s (.forward t tl ts) (s.forwardTimeline t tl ts)
  | signalOne (t : Nat) {f : Nat} (hsignalling : s.thread t = .signalling f) :
      Effect s (.signal t) ((s.setFence f { s.fence f with signalled := true, stage := .done }).setThread t
        (.dropping [f]))
  | signalNext (t : Nat) {f : Nat} {fs : List Nat} (hforwarding : s.thread t = .forwarding (f :: fs)) :
      Effect s (.signal t) ((s.setFence f { s.fence f with signalled := true, stage := .done }).setThread t
        (.passing f fs))
  | forwarded (t : Nat) (hforwarding : s.thread t = .forwarding []) :
      Effect s (.signal t) (s.setThread t .idle)
  | putDiscarded (t : Nat) {f : Nat} (hdiscarding : s.thread t = .discarding f) :
      Effect s (.put t) (s.putFence t f (.call t) .idle)
  | putDropped (t : Nat) {f : Nat} {fs : List Nat} (hdropping : s.thread t = .dropping (f :: fs)) :
      Effect s (.put t) (s.putFence t f (.call t) (.dropping fs))
  | dropped (t : Nat) (hdropping : s.thread t = .dropping []) : Effect s (.put t) (s.setThread t .idle)
  | putPassed (t : Nat) {f : Nat} {fs : List Nat} (hpassing : s.thread t = .passing f fs) :
      Effect s (.put t) (s.putFence t f (.call t) (.forwarding fs))
  | release (t : Nat) {f : Nat} {next : AfterPut} (hreleasing : s.thread t = .releasing f next) :
      Effect s (.release t) (((s.delFence (s.fence f).timeline f).setFence f
        { s.fence f with stage := .released }).setThread t next.thread)
  | drop (t : Nat) {fs : List Nat} (hholding : s.thread t = .holding fs) :
      Effect s (.drop t) (s.setThread t (.dropping fs))
  | getUser (f : Nat) (huser : .user ∈ (s.fence f).kref.holders) :
      Effect s (.getUser f) (s.setFence f { s.fence f with kref := (s.fence f).kref.get .user })
  | putUser (t f : Nat) (hidle : s.thread t = .idle) (huser : .user ∈ (s.fence f).kref.holders) :
      Effect s (.putUser t f) (s.putFence t f .user .idle)
  | poll (f : Nat) (hpos : (s.fence f).kref.count ≠ 0) (hreached : s.hasSignaled f = true) :
      Effect s (.poll f) (s.setFence f { s.fence f with signalled := true })

/-- **Inversion.** -/
theorem step_cases {s s' : IsyncState} {a : SyncAct} (hstep : s.step a = some s') : Effect s a s' := by
  cases a with
  | fenceCreate t tl ts tsIsValid installed =>
      simp only [step] at hstep
      split at hstep
      · next hidle =>
          cases installed with
          | true =>
              obtain rfl := Option.some.inj hstep
              exact .installFence t tl ts tsIsValid hidle
          | false =>
              obtain rfl := Option.some.inj hstep
              exact .discardFence t tl ts tsIsValid hidle
      · cases hstep
  | fenceArray t vals =>
      simp only [step] at hstep
      split at hstep
      · next hidle =>
          obtain rfl := Option.some.inj hstep
          exact .fenceArray t vals hidle
      · cases hstep
  | turn t ok =>
      simp only [step] at hstep
      split at hstep
      · next array hlooping =>
          cases ok with
          | false =>
              obtain rfl := Option.some.inj hstep
              exact .giveUpArray t hlooping
          | true =>
              simp only [Bool.not_true, Bool.false_eq_true, if_false] at hstep
              split at hstep
              · next hrest =>
                  obtain rfl := Option.some.inj hstep
                  exact .finishArray t hlooping hrest
              · next v rest hrest =>
                  obtain rfl := Option.some.inj hstep
                  exact .makeNext t v rest hlooping hrest
      · cases hstep
  | check t =>
      simp only [step] at hstep
      split at hstep
      · next hchecking =>
          split at hstep
          · next hsignalled =>
              obtain rfl := Option.some.inj hstep
              exact .signalled t hchecking hsignalled
          · next hahead =>
              obtain rfl := Option.some.inj hstep
              exact .notSignalled t hchecking hahead
      · cases hstep
  | insert t =>
      simp only [step] at hstep
      split at hstep
      · next hinserting =>
          obtain rfl := Option.some.inj hstep
          exact .insert t hinserting
      · cases hstep
  | fenceSignal t tl f =>
      simp only [step] at hstep
      split at hstep
      · next hidle =>
          split at hstep
          · next huser =>
              obtain rfl := Option.some.inj hstep
              exact .fenceSignal t tl f hidle huser
          · cases hstep
      · cases hstep
  | search t =>
      simp only [step] at hstep
      split at hstep
      · next hsearching =>
          split at hstep
          · next hmem =>
              obtain rfl := Option.some.inj hstep
              exact .find t hsearching hmem
          · next hmem =>
              obtain rfl := Option.some.inj hstep
              exact .notFound t hsearching hmem
      · cases hstep
  | forward t tl ts =>
      simp only [step] at hstep
      split at hstep
      · next hidle =>
          obtain rfl := Option.some.inj hstep
          exact .forward t tl ts hidle
      · cases hstep
  | signal t =>
      simp only [step] at hstep
      split at hstep
      · next hsignalling =>
          obtain rfl := Option.some.inj hstep
          exact .signalOne t hsignalling
      · next hforwarding =>
          obtain rfl := Option.some.inj hstep
          exact .signalNext t hforwarding
      · next hforwarding =>
          obtain rfl := Option.some.inj hstep
          exact .forwarded t hforwarding
      · cases hstep
  | put t =>
      simp only [step] at hstep
      split at hstep
      · next hdiscarding =>
          obtain rfl := Option.some.inj hstep
          exact .putDiscarded t hdiscarding
      · next hdropping =>
          obtain rfl := Option.some.inj hstep
          exact .putDropped t hdropping
      · next hdropping =>
          obtain rfl := Option.some.inj hstep
          exact .dropped t hdropping
      · next hpassing =>
          obtain rfl := Option.some.inj hstep
          exact .putPassed t hpassing
      · cases hstep
  | release t =>
      simp only [step] at hstep
      split at hstep
      · next hreleasing =>
          obtain rfl := Option.some.inj hstep
          exact .release t hreleasing
      · cases hstep
  | drop t =>
      simp only [step] at hstep
      split at hstep
      · next hholding =>
          obtain rfl := Option.some.inj hstep
          exact .drop t hholding
      · cases hstep
  | getUser f =>
      simp only [step] at hstep
      split at hstep
      · next huser =>
          obtain rfl := Option.some.inj hstep
          exact .getUser f huser
      · cases hstep
  | putUser t f =>
      simp only [step] at hstep
      split at hstep
      · next hidle =>
          split at hstep
          · next huser =>
              obtain rfl := Option.some.inj hstep
              exact .putUser t f hidle huser
          · cases hstep
      · cases hstep
  | poll f =>
      simp only [step] at hstep
      split at hstep
      · next hpoll =>
          obtain rfl := Option.some.inj hstep
          exact .poll f hpoll.1 hpoll.2
      · cases hstep

/-! ## Runs -/

/-- A fence that is inserted is still ahead of its timeline: no `hgsl_isync_forward` has reached it since
    it was checked. -/
def insertsAhead (s : IsyncState) : SyncAct → Bool
  | .insert t =>
    match s.thread t with
    | .inserting f _ => !s.hasSignaled f
    | _ => true
  | _ => true

theorem not_mem_call {t t' : Nat} (ht : t' ≠ t) : FenceHolder.call t' ∉ [FenceHolder.call t] := by
  rw [List.mem_singleton]
  exact fun heq => ht (FenceHolder.call.inj heq)

/-- **Step lemma.** -/
theorem Wakeup.step {s s' : IsyncState} {a : SyncAct} (h : Wakeup s)
    (hstep : Trace.guarded (fun s a => s.insertsAhead a = true) IsyncState.step s a = some s') :
    Wakeup s' := by
  obtain ⟨hahead, hstep⟩ := Trace.guarded_eq_some.1 hstep
  cases step_cases hstep with
  | installFence t tl ts tsIsValid hidle =>
      refine h.make hidle rfl rfl rfl rfl ?_ ?_ (fun _ => rfl) rfl rfl rfl nofun
      · show [FenceHolder.user, .call t].count (.call t) = 1
        simp
      · intro t' ht
        show [FenceHolder.user, .call t].count (.call t') = 0
        simp [ht.symm]
  | discardFence t tl ts tsIsValid hidle =>
      refine h.make hidle rfl rfl rfl rfl List.count_singleton_self ?_ (fun _ => rfl) rfl rfl rfl
        fun _ _ => rfl
      intro t' ht
      exact List.count_eq_zero.2 (not_mem_call ht)
  | makeNext t v rest hlooping =>
      refine h.make hlooping rfl rfl rfl rfl List.count_singleton_self ?_ (fun _ => rfl) rfl rfl rfl nofun
      intro t' ht
      exact List.count_eq_zero.2 (not_mem_call ht)
  | fenceArray t vals hidle => exact h.move hidle rfl rfl rfl rfl nofun
  | giveUpArray t hlooping => exact h.move hlooping rfl rfl rfl rfl nofun
  | finishArray t hlooping => exact h.move hlooping rfl rfl rfl rfl nofun
  | signalled t hchecking => exact h.check hchecking
  | notSignalled t hchecking => exact h.move hchecking rfl rfl rfl rfl nofun
  | insert t hinserting =>
      simp only [insertsAhead, hinserting, Bool.not_eq_true'] at hahead
      exact h.insert hinserting hahead
  | fenceSignal t tl f hidle huser => exact h.fenceSignal hidle huser
  | find t hsearching hmem => exact h.search hsearching hmem
  | notFound t hsearching => exact h.move hsearching rfl rfl rfl rfl nofun
  | forward t tl ts hidle => exact h.forward hidle
  | signalOne t hsignalling =>
      exact h.signal hsignalling List.mem_cons_self (fun _ => rfl) (List.erase_cons_head ..).symm rfl rfl
        rfl rfl
  | signalNext t hforwarding =>
      exact h.signal hforwarding List.mem_cons_self (fun _ => rfl) (List.erase_cons_head ..).symm rfl rfl
        rfl rfl
  | forwarded t hforwarding => exact h.move hforwarding rfl rfl rfl rfl nofun
  -- a put needs to know who goes on to answer for the fences that are left
  | putDiscarded t hdiscarding => exact h.put (h.puts_call hdiscarding (fun _ => rfl) (.inr rfl) rfl rfl)
  | putDropped t hdropping => exact h.put (h.puts_call hdropping (fun _ => rfl) (.inl rfl) rfl rfl)
  | dropped t hdropping => exact h.move hdropping rfl rfl rfl rfl nofun
  | putPassed t hpassing => exact h.put (h.puts_call hpassing (fun _ => rfl) (.inl rfl) rfl rfl)
  | release t hreleasing => exact h.release hreleasing
  | drop t hholding => exact h.move hholding rfl rfl rfl rfl nofun
  | getUser f huser => exact h.getUser huser
  | putUser t f hidle huser => exact h.put (h.puts_user hidle huser)
  | poll f hpos => exact h.poll hpos

/-! ## No wake-up is lost -/

/-- No call is under way; callers may have fences of arrays. -/
def Quiet (s : IsyncState) : Prop := ∀ t, s.thread t = .idle ∨ ∃ fs, s.thread t = .holding fs

/-- The timestamp of a timeline stays, or it moves to one that it had not reached. -/
def Advances (s s' : IsyncState) (tl : Nat) : Prop :=
  (s'.timeline tl).lastTs = (s.timeline tl).lastTs ∨
    hgslTsGe (s.timeline tl).lastTs (s'.timeline tl).lastTs (s.timeline tl).is64bits = false

structure NoLostWakeup (s : IsyncState) : Prop where
  waiting : s.Quiet → ∀ tl, ∀ f ∈ (s.timeline tl).fenceList, (s.fence f).signalled = false →
    hgslTsGe (s.timeline tl).lastTs (s.fence f).ts (s.timeline tl).is64bits = false
  accounted : s.Quiet → ∀ f < s.nextFence, (s.fence f).signalled = false →
    (∀ tl, f ∉ (s.timeline tl).fenceList) → (s.fence f).stage = .released
  advances : ∀ a s', s.step a = some s' → ∀ tl, s.Advances s' tl

/-- A step that sets one timeline, and keeps its timestamp. -/
theorem advances_of_setTimeline {s s' : IsyncState} {tl : Nat} {l : IsyncTimeline}
    (h : s'.timeline = Function.update s.timeline tl l) (hl : l.lastTs = (s.timeline tl).lastTs)
    (tl' : Nat) : s.Advances s' tl' := by
  refine .inl ?_
  rw [h]
  exact (Function.forall_update_iff s.timeline fun tl' l => l.lastTs = (s.timeline tl').lastTs).2
    ⟨hl, fun _ _ => rfl⟩ tl'

theorem putFence_timeline (s : IsyncState) (t f : Nat) (holder : FenceHolder) (next : AfterPut) :
    (s.putFence t f holder next).timeline = s.timeline := by
  unfold putFence
  dsimp only
  split <;> rfl

theorem advances_forward (s : IsyncState) (t tl : Nat) (ts : BitVec 64) (tl' : Nat) :
    s.Advances (s.forwardTimeline t tl ts) tl' := by
  unfold forwardTimeline
  dsimp only
  split
  · exact .inl rfl
  · next hnot =>
      by_cases htl : tl' = tl
      · subst htl
        refine .inr ?_
        show hgslTsGe _ (Function.update s.timeline tl' _ tl').lastTs _ = false
        rw [Function.update_self]
        exact Bool.eq_false_iff.2 hnot
      · refine .inl ?_
        show (Function.update s.timeline tl _ tl').lastTs = _
        rw [Function.update_of_ne htl]

/-- Only `hgsl_isync_forward` moves a timestamp. -/
theorem advances_step {s s' : IsyncState} {a : SyncAct} (hstep : s.step a = some s') (tl : Nat) :
    s.Advances s' tl := by
  cases step_cases hstep with
  | forward t tl' ts hidle => exact advances_forward s t tl' ts tl
  | insert t =>
      refine advances_of_setTimeline rfl ?_ tl
      rfl
  | find t =>
      refine advances_of_setTimeline rfl ?_ tl
      rfl
  | release t =>
      refine advances_of_setTimeline rfl ?_ tl
      rfl
  | putDiscarded | putDropped | putPassed | putUser =>
      refine .inl ?_
      rw [putFence_timeline]
  | installFence | discardFence | makeNext | fenceArray | giveUpArray | finishArray | signalled
  | notSignalled | fenceSignal | notFound | signalOne | signalNext | forwarded | dropped | drop | getUser
  | poll => exact .inl rfl

/-- With no call under way a fence is listed, signalled or gone. -/
theorem Wakeup.stage_of_quiet {s : IsyncState} (h : Wakeup s) (hquiet : s.Quiet) (f t : Nat) :
    (s.fence f).stage ≠ .making t ∧ (s.fence f).stage ≠ .taken t ∧ (s.fence f).stage ≠ .dying t := by
  have hpair := h.pair t f
  have hnone : making (s.thread t) = none ∧ taking (s.thread t) = [] ∧ dying (s.thread t) = none := by
    rcases hquiet t with hidle | ⟨fs, hholding⟩
    · rw [hidle]
      exact ⟨rfl, rfl, rfl⟩
    · rw [hholding]
      exact ⟨rfl, rfl, rfl⟩
  refine ⟨?_, ?_, ?_⟩
  · intro hstage
    have hmaking := hpair.making.1 hstage
    rw [hnone.1] at hmaking
    cases hmaking
  · intro hstage
    have htaking := hpair.taking.1 hstage
    rw [hnone.2.1] at htaking
    cases htaking
  · intro hstage
    have hdying := hpair.dying.1 hstage
    rw [hnone.2.2] at hdying
    cases hdying

/-- In every run from new timelines, of which each insertion is ahead of its timeline, no wake-up is
    lost. -/
theorem noLostWakeup_of_insertsAhead (is64bits : Nat → Bool) (initialTs : Nat → BitVec 64)
    (as : List SyncAct) (s : IsyncState)
    (hrun : Trace.exec (Trace.guarded (fun s a => s.insertsAhead a = true) step)
      (fresh is64bits initialTs) as = some s) : NoLostWakeup s := by
  have h : Wakeup s :=
    Trace.exec_invariant (fun _ _ _ h hstep => Wakeup.step h hstep) (Wakeup.start is64bits initialTs) hrun
  refine ⟨fun _ tl f hmem _ => (h.list tl).ahead f hmem, ?_, fun _ _ hstep tl => advances_step hstep tl⟩
  intro hquiet f hf hsignalled hout
  have hnot := h.stage_of_quiet hquiet f
  cases hstage : (s.fence f).stage with
  | released => rfl
  | making t => exact absurd hstage (hnot t).1
  | taken t => exact absurd hstage (hnot t).2.1
  | dying t => exact absurd hstage (hnot t).2.2
  | listed => exact absurd ((h.list _).listed f rfl hstage) (hout _)
  | done =>
      rw [(h.fence f).done hstage] at hsignalled
      cases hsignalled
  | unused => exact absurd hstage (h.used hf)

/-- Thread 0 makes a fence of a 32-bit timeline and thread 1 two of a 64-bit timeline; one of these is
    signalled at once, the timelines reach the others later, and the fence of thread 0 is released. -/
def twoTimelinesRun : List SyncAct :=
  [.fenceCreate 0 0 5#32 true true, .fenceArray 1 [⟨1, 7#64⟩, ⟨1, 0#64⟩], .turn 1 true, .check 0,
    .check 1, .insert 1, .insert 0, .put 0, .put 0, .turn 1 true, .check 1, .turn 1 true,
    .forward 0 0 6#64, .signal 0, .put 0, .signal 0, .putUser 0 0, .release 0, .forward 2 1 9#64,
    .signal 2, .put 2, .signal 2]

theorem noLostWakeup_of_insertsAhead_twoTimelinesRun :
    ∃ s, Trace.exec (Trace.guarded (fun s a => s.insertsAhead a = true) step)
        (fresh (fun tl => tl == 1) fun _ => 0#64) twoTimelinesRun = some s ∧
      (s.thread 0, s.thread 1, s.thread 2, (s.fence 0).stage, (s.fence 1).stage, (s.fence 2).stage) =
        (.idle, .holding [1, 2], .idle, .released, .done, .done) ∧ NoLostWakeup s := by
  have heval : (Trace.exec (Trace.guarded (fun s a => s.insertsAhead a = true) step)
        (fresh (fun tl => tl == 1) fun _ => 0#64) twoTimelinesRun).map (fun s =>
          (s.thread 0, s.thread 1, s.thread 2, (s.fence 0).stage, (s.fence 1).stage, (s.fence 2).stage)) =
      some (.idle, .holding [1, 2], .idle, .released, .done, .done) := by
    decide +kernel
  obtain ⟨s, hs, heq⟩ := Option.map_eq_some_iff.1 heval
  exact ⟨s, hs, heq, noLostWakeup_of_insertsAhead _ _ _ s hs⟩

/-- Thread 2 forwards both timelines when the fences are checked and not inserted yet. -/
def missedRun : List SyncAct :=
  [.fenceCreate 0 0 5#32 true true, .fenceArray 1 [⟨1, 7#64⟩], .turn 1 true, .check 0, .check 1,
    .forward 2 0 6#64, .signal 2, .forward 2 1 9#64, .signal 2, .insert 0, .put 0, .put 0, .insert 1,
    .turn 1 true]

theorem thread_forwardTimeline (s : IsyncState) {t t' : Nat} (tl : Nat) (ts : BitVec 64) (ht : t' ≠ t) :
    (s.forwardTimeline t tl ts).thread t' = s.thread t' := by
  unfold forwardTimeline
  dsimp only
  split
  · rfl
  · exact Function.update_of_ne ht _ _

theorem thread_putFence (s : IsyncState) {t t' : Nat} (f : Nat) (holder : FenceHolder) (next : AfterPut)
    (ht : t' ≠ t) : (s.putFence t f holder next).thread t' = s.thread t' := by
  unfold putFence
  dsimp only
  split <;> exact Function.update_of_ne ht _ _

/-- Both fences are on the lists and reached, and no call is under way. -/
theorem unsignalled_fence_listed_after_forward :
    ∃ s, Trace.exec step (fresh (fun tl => tl == 1) fun _ => 0#64) missedRun = some s ∧ s.Quiet ∧
      ∀ f < 2, f ∈ (s.timeline f).fenceList ∧ (s.fence f).signalled = false ∧
        hgslTsGe (s.timeline f).lastTs (s.fence f).ts (s.timeline f).is64bits = true := by
  refine ⟨_, rfl, ?_, ?_⟩
  · intro t
    by_cases h0 : t = 0
    · subst h0
      exact .inl rfl
    by_cases h1 : t = 1
    · subst h1
      exact .inr ⟨_, rfl⟩
    by_cases h2 : t = 2
    · subst h2
      exact .inl rfl
    refine .inl ?_
    simp [setThread, makeFence, setFence, setTimeline, fresh, thread_forwardTimeline, thread_putFence, h0,
      h1, h2]
  · decide +kernel

end IsyncState

end Hgsl
