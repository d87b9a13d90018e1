import Hgsl.Sync.Stages

set_option autoImplicit false

/-! # Signalling fences

What the threads do with the fences that are made: references, signalling, releasing and
`hgsl_isync_forward` keep the invariant. -/

namespace Hgsl

namespace IsyncState

/-! ## References -/

/-- What a thread has in hand it has a reference to. -/
theorem mem_refs {th : SyncThread} {f : Nat} (h : making th = some f ∨ f ∈ taking th) : f ∈ refs th := by
  cases th with
  | discarding f' | checking f' array | inserting f' array =>
      rcases h with hmaking | htaking
      · obtain rfl := Option.some.inj hmaking
        exact List.mem_cons_self
      · cases htaking
  | signalling f' | forwarding fs =>
      rcases h with hmaking | htaking
      · cases hmaking
      · exact htaking
  | passing f' fs =>
      rcases h with hmaking | htaking
      · cases hmaking
      · exact List.mem_cons_of_mem f' htaking
  | releasing f' next =>
      rcases h with hmaking | htaking
      · cases hmaking
      · cases next with
        | idle | dropping fs => cases htaking
        | forwarding fs => exact htaking
  | idle | holding fs | looping array | dropping fs | searching tl f' =>
      rcases h with hmaking | htaking
      · cases hmaking
      · cases htaking

theorem PairOk.mem {t f : Nat} {th : SyncThread} {c : IsyncFence} (h : PairOk t th f c)
    (hmem : f ∈ IsyncState.refs th) : .call t ∈ c.kref.holders := by
  rw [← List.count_pos_iff, h.refs]
  exact List.count_pos_iff.2 hmem

/-- A fence that is being made or has been taken is kept by the thread. -/
theorem Wakeup.mem_of_stage {s : IsyncState} (h : Wakeup s) {t f : Nat}
    (hstage : (s.fence f).stage = .making t ∨ (s.fence f).stage = .taken t) :
    f ∈ refs (s.thread t) := by
  rcases hstage with hmaking | htaken
  · exact mem_refs (.inl ((h.pair t f).making.1 hmaking))
  · exact mem_refs (.inr ((h.pair t f).taking.1 htaken))

theorem FenceOk.alive_of_mem {c : IsyncFence} (h : FenceOk c) {holder : FenceHolder}
    (hmem : holder ∈ c.kref.holders) : isAlive c.stage = true :=
  h.alive.1 (h.balanced.count_ne_zero hmem)

theorem FenceOk.used {c : IsyncFence} (h : FenceOk c) (hcount : c.kref.count ≠ 0) :
    c.stage ≠ .unused := by
  intro hunused
  have halive := h.alive.1 hcount
  rw [hunused] at halive
  cases halive

theorem FenceOk.used_of_mem {c : IsyncFence} (h : FenceOk c) {holder : FenceHolder}
    (hmem : holder ∈ c.kref.holders) : c.stage ≠ .unused :=
  h.used (h.balanced.count_ne_zero hmem)

/-- A fence changes, and no thread moves. -/
theorem Wakeup.alter {s : IsyncState} (h : Wakeup s) {f : Nat} {c : IsyncFence}
    (hseen : ∀ t, PairOk t (s.thread t) f c) (hc : FenceOk c)
    (hlist : ∀ tl, ListOk (Function.update s.fence f c) tl (s.timeline tl))
    (hold : (s.fence f).stage ≠ .unused) (hstage : c.stage ≠ .unused) : Wakeup (s.setFence f c) := by
  have hthread : s.thread = Function.update s.thread 0 (s.thread 0) :=
    (Function.update_eq_self 0 s.thread).symm
  refine h.update (t := 0) hthread rfl (hseen 0) (fun f' _ => h.pair 0 f') (fun t' _ => hseen t')
    (h.nodup 0) hc hlist ?_
  exact h.numbered_update hold hstage

/-- A fence that a user has is not a private one of a call. -/
theorem PairOk.get {t f : Nat} {th : SyncThread} {c : IsyncFence} (h : PairOk t th f c)
    {holder : FenceHolder} (huser : .user ∈ c.kref.holders) (hne : holder ≠ .call t) :
    PairOk t th f { c with kref := c.kref.get holder } := by
  refine h.fence (RefCount.count_get_of_ne hne.symm) Iff.rfl Iff.rfl Iff.rfl ?_
  intro _ halone
  rw [halone] at huser
  cases huser with
  | tail _ hnil => cases hnil

theorem FenceOk.get {c : IsyncFence} (h : FenceOk c) {holder holder' : FenceHolder}
    (hmem : holder' ∈ c.kref.holders) : FenceOk { c with kref := c.kref.get holder } := by
  refine ⟨h.balanced.get holder, ?_, h.done⟩
  exact iff_of_true (Nat.succ_ne_zero _) (h.alive_of_mem hmem)

theorem Wakeup.getUser {s : IsyncState} (h : Wakeup s) {f : Nat}
    (huser : .user ∈ (s.fence f).kref.holders) :
    Wakeup (s.setFence f { s.fence f with kref := (s.fence f).kref.get .user }) :=
  h.alter (fun t => (h.pair t f).get huser nofun) ((h.fence f).get huser)
    (fun tl => (h.list tl).keep rfl rfl id id) ((h.fence f).used_of_mem huser)
    ((h.fence f).used_of_mem huser)

/-- `sync_file_get_fence` in `hgsl_isync_fence_signal`. -/
theorem Wakeup.fenceSignal {s : IsyncState} (h : Wakeup s) {t tl f : Nat} (hidle : s.thread t = .idle)
    (huser : .user ∈ (s.fence f).kref.holders) :
    Wakeup ((s.setFence f { s.fence f with kref := (s.fence f).kref.get (.call t) }).setThread t
      (.searching tl f)) := by
  have hpair := h.pair t
  rw [hidle] at hpair
  have hused := (h.fence f).used_of_mem huser
  refine h.update (t := t) (f := f) rfl rfl ?_ ?_ ?_ List.nodup_nil ((h.fence f).get huser)
    (fun tl' => (h.list tl').keep rfl rfl id id) (h.numbered_update hused hused)
  · refine ⟨?_, (hpair f).making, (hpair f).taking, (hpair f).dying, nofun⟩
    show (FenceHolder.call t :: (s.fence f).kref.holders).count (.call t) = [f].count f
    rw [List.count_cons_self, (hpair f).refs, List.count_singleton_self]
    rfl
  · intro f' hf'
    refine (hpair f').thread ?_ Iff.rfl Iff.rfl Iff.rfl nofun
    exact List.count_singleton.trans (by simp [hf'.symm, refs])
  · intro t' ht
    exact (h.pair t' f).get huser fun heq => ht (FenceHolder.call.inj heq).symm

theorem Wakeup.poll {s : IsyncState} (h : Wakeup s) {f : Nat} (hcount : (s.fence f).kref.count ≠ 0) :
    Wakeup (s.setFence f { s.fence f with signalled := true }) := by
  refine h.alter (fun t => (h.pair t f).fence rfl Iff.rfl Iff.rfl Iff.rfl fun _ => id)
    ⟨(h.fence f).balanced, (h.fence f).alive, fun _ => rfl⟩ (fun tl => (h.list tl).keep rfl rfl id id)
    ((h.fence f).used hcount) ((h.fence f).used hcount)

theorem mem_refs_of_taking {next : AfterPut} {f : Nat} (h : f ∈ AfterPut.taking next) :
    f ∈ AfterPut.refs next := by
  cases next with
  | idle | dropping fs => cases h
  | forwarding fs => exact h

theorem refs_thread (next : AfterPut) : refs next.thread = AfterPut.refs next := by
  cases next <;> rfl

theorem hands_thread (next : AfterPut) :
    making next.thread = none ∧ taking next.thread = AfterPut.taking next ∧
      dying next.thread = none ∧ ∀ f, next.thread ≠ .discarding f := by
  cases next with
  | idle | dropping fs | forwarding fs => exact ⟨rfl, rfl, rfl, nofun⟩

/-- A put: thread `t` drops a reference that it has, or one of the users, and goes on at `next`. -/
structure Puts (s : IsyncState) (t f : Nat) (holder : FenceHolder) (next : AfterPut) : Prop where
  mem : holder ∈ (s.fence f).kref.holders
  whose : holder = .call t ∨ holder = .user
  refs : ∀ f', f' ≠ f → (AfterPut.refs next).count f' = (IsyncState.refs (s.thread t)).count f'
  mine : ((s.fence f).kref.holders.erase holder).count (.call t) = (AfterPut.refs next).count f
  making : IsyncState.making (s.thread t) = none ∨ s.thread t = .discarding f ∧ holder = .call t
  taking : IsyncState.taking (s.thread t) = AfterPut.taking next
  dying : IsyncState.dying (s.thread t) = none

/-- The references of the other threads stay. -/
theorem Puts.ne_call {s : IsyncState} {t t' f : Nat} {holder : FenceHolder} {next : AfterPut}
    (h : Puts s t f holder next) (ht : t' ≠ t) : .call t' ≠ holder := by
  rintro rfl
  rcases h.whose with heq | heq
  · exact ht (FenceHolder.call.inj heq)
  · cases heq

/-- Who puts the last reference has seen to the fence: nobody else has it in hand. -/
theorem Wakeup.putLast {s : IsyncState} (h : Wakeup s) {t f : Nat} {holder : FenceHolder}
    {next : AfterPut} (hputs : Puts s t f holder next) (hone : (s.fence f).kref.count = 1) :
    Wakeup ((s.setFence f { s.fence f with
      kref := (s.fence f).kref.put holder, stage := .dying t }).setThread t (.releasing f next)) := by
  have hok := h.fence f
  -- the last reference is the one that is put
  have hholders : (s.fence f).kref.holders = [holder] := by
    have hlength : (s.fence f).kref.holders.length = 1 := hok.balanced.symm.trans hone
    obtain ⟨holder', heq⟩ := List.length_eq_one_iff.1 hlength
    have hmem := hputs.mem
    rw [heq] at hmem ⊢
    rw [List.mem_singleton.1 hmem]
  have hnil : (s.fence f).kref.holders.erase holder = [] := by
    rw [hholders, List.erase_cons_head]
  have hmine : f ∉ AfterPut.refs next := by
    have hcount := hputs.mine
    rw [hnil] at hcount
    exact List.count_eq_zero.1 hcount.symm
  -- so any thread that still has the fence in hand is the one that puts it
  have hcaller : ∀ t', f ∈ refs (s.thread t') → t' = t ∧ holder = .call t := by
    intro t' hmem
    have hholder := (h.pair t' f).mem hmem
    rw [hholders] at hholder
    have heq := List.mem_singleton.1 hholder
    rcases hputs.whose with hcall | huser
    · rw [hcall] at heq
      exact ⟨FenceHolder.call.inj heq, hcall⟩
    · rw [huser] at heq
      cases heq
  -- and that one does not go on to signal it
  have htaken : ∀ t', (s.fence f).stage ≠ .taken t' := by
    intro t' hstage
    obtain ⟨rfl, -⟩ := hcaller t' (h.mem_of_stage (.inr hstage))
    have htaking := (h.pair t' f).taking.1 hstage
    rw [hputs.taking] at htaking
    exact hmine (mem_refs_of_taking htaking)
  have hmaking : ∀ t', t' ≠ t → (s.fence f).stage ≠ .making t' := by
    intro t' ht hstage
    exact ht (hcaller t' (h.mem_of_stage (.inl hstage))).1
  have halive := hok.alive_of_mem hputs.mem
  have hdying : ∀ t', (s.fence f).stage ≠ .dying t' := by
    intro t' hstage
    rw [hstage] at halive
    cases halive
  refine h.update (t := t) (f := f) rfl rfl ?_ ?_ ?_ ?_ ?_ ?_ ?_
  · refine ⟨hputs.mine, iff_of_false nofun nofun, ?_, iff_of_true rfl rfl, nofun⟩
    exact iff_of_false nofun fun hmem => hmine (mem_refs_of_taking hmem)
  · intro f' hf'
    refine (h.pair t f').thread (hputs.refs f' hf') ?_ ?_ ?_ nofun
    · refine iff_of_false nofun ?_
      rcases hputs.making with hnone | ⟨hdiscarding, -⟩
      · rw [hnone]
        exact nofun
      · rw [hdiscarding]
        exact fun heq => hf' (Option.some.inj heq).symm
    · rw [hputs.taking]
      exact Iff.rfl
    · rw [hputs.dying]
      exact iff_of_false (fun heq => hf' (Option.some.inj heq).symm) nofun
  · intro t' ht
    have hne := hputs.ne_call ht
    refine (h.pair t' f).fence (RefCount.count_put_of_ne hne) ?_ ?_ ?_ ?_
    · exact iff_of_false nofun (hmaking t' ht)
    · exact iff_of_false nofun (htaken t')
    · exact iff_of_false (fun heq => ht (FenceStage.dying.inj heq).symm) (hdying t')
    · intro _ halone
      rw [hholders] at halone
      exact absurd (List.singleton_inj.1 halone).symm hne
  · show (AfterPut.taking next).Nodup
    rw [← hputs.taking]
    exact h.nodup t
  · refine ⟨hok.balanced.put hputs.mem, iff_of_false ?_ nofun, nofun⟩
    intro hpos
    exact hpos (show (s.fence f).kref.count - 1 = 0 by rw [hone])
  · intro tl
    exact (h.list tl).keep rfl rfl (fun _ => rfl) nofun
  · exact h.numbered_update (hok.used_of_mem hputs.mem) nofun

/-- There are other references. -/
theorem Wakeup.putMore {s : IsyncState} (h : Wakeup s) {t f : Nat} {holder : FenceHolder}
    {next : AfterPut} (hputs : Puts s t f holder next) (hmore : (s.fence f).kref.count ≠ 1) :
    Wakeup ((s.setFence f { s.fence f with kref := (s.fence f).kref.put holder }).setThread t
      next.thread) := by
  have hok := h.fence f
  obtain ⟨hmaking', htaking', hdying', halone'⟩ := hands_thread next
  -- a fence that is discarded has one reference only
  have hnone : making (s.thread t) = none := by
    rcases hputs.making with hnone | ⟨hdiscarding, -⟩
    · exact hnone
    · have hlength : (s.fence f).kref.count = _ := hok.balanced
      rw [(h.pair t f).alone hdiscarding] at hlength
      exact absurd hlength hmore
  have hcount : (s.fence f).kref.count - 1 ≠ 0 := by
    have hpos := hok.balanced.count_ne_zero hputs.mem
    omega
  refine h.update (t := t) (f := f) rfl rfl ?_ ?_ ?_ ?_ ?_ ?_ ?_
  · refine ⟨?_, ?_, ?_, ?_, fun heq => absurd heq (halone' f)⟩
    · rw [refs_thread]
      exact hputs.mine
    · rw [hmaking', ← hnone]
      exact (h.pair t f).making
    · rw [htaking', ← hputs.taking]
      exact (h.pair t f).taking
    · rw [hdying', ← hputs.dying]
      exact (h.pair t f).dying
  · intro f' hf'
    refine (h.pair t f').thread ?_ ?_ ?_ ?_ (halone' f')
    · rw [refs_thread]
      exact hputs.refs f' hf'
    · rw [hmaking', hnone]
    · rw [htaking', hputs.taking]
    · rw [hdying', hputs.dying]
  · intro t' ht
    have hne := hputs.ne_call ht
    refine (h.pair t' f).fence (RefCount.count_put_of_ne hne) Iff.rfl Iff.rfl Iff.rfl ?_
    intro _ halone
    have hmem := hputs.mem
    rw [halone] at hmem
    exact absurd (List.mem_singleton.1 hmem).symm hne
  · rw [htaking', ← hputs.taking]
    exact h.nodup t
  · exact ⟨hok.balanced.put hputs.mem, iff_of_true hcount (hok.alive_of_mem hputs.mem), hok.done⟩
  · intro tl
    exact (h.list tl).keep rfl rfl id id
  · exact h.numbered_update (hok.used_of_mem hputs.mem) (hok.used_of_mem hputs.mem)

/-- `dma_fence_put` -/
theorem Wakeup.put {s : IsyncState} (h : Wakeup s) {t f : Nat} {holder : FenceHolder} {next : AfterPut}
    (hputs : Puts s t f holder next) : Wakeup (s.putFence t f holder next) := by
  unfold putFence
  dsimp only
  split
  · next hone => exact h.putLast hputs hone
  · next hmore => exact h.putMore hputs hmore

/-- A thread puts a reference of its own. -/
theorem Wakeup.puts_call {s : IsyncState} (h : Wakeup s) {t f : Nat} {old : SyncThread} {next : AfterPut}
    (hold : s.thread t = old) (hrefs : ∀ f', (refs old).count f' = (f :: AfterPut.refs next).count f')
    (hmaking : making old = none ∨ old = .discarding f) (htaking : taking old = AfterPut.taking next)
    (hdying : dying old = none) : Puts s t f (.call t) next where
  mem := by
    rw [← List.count_pos_iff, (h.pair t f).refs, hold, hrefs, List.count_cons_self]
    exact Nat.succ_pos _
  whose := .inl rfl
  refs f' hf' := by rw [hold, hrefs, List.count_cons_of_ne hf'.symm]
  mine := by
    rw [List.count_erase_self, (h.pair t f).refs, hold, hrefs, List.count_cons_self]
    rfl
  making := by
    rw [hold]
    exact hmaking.imp_right fun heq => ⟨heq, rfl⟩
  taking := by rw [hold, htaking]
  dying := by rw [hold, hdying]

theorem Wakeup.puts_user {s : IsyncState} (h : Wakeup s) {t f : Nat} (hidle : s.thread t = .idle)
    (huser : .user ∈ (s.fence f).kref.holders) : Puts s t f .user .idle where
  mem := huser
  whose := .inr rfl
  refs f' _ := by rw [hidle]; rfl
  mine := by
    rw [List.count_erase_of_ne (show FenceHolder.call t ≠ .user from nofun), (h.pair t f).refs, hidle]
    rfl
  making := .inl (by rw [hidle]; rfl)
  taking := by rw [hidle]; rfl
  dying := by rw [hidle]; rfl

/-! ## Signalling -/

/-- A fence is taken off a list. -/
theorem ListOk.erase {fence : Nat → IsyncFence} {tl f : Nat} {l : IsyncTimeline} {c : IsyncFence}
    (h : ListOk fence tl l) (hstage : c.stage ≠ .listed) :
    ListOk (Function.update fence f c) tl { l with fenceList := l.fenceList.erase f } := by
  have hmem : ∀ f' ∈ l.fenceList.erase f, f' ≠ f ∧ f' ∈ l.fenceList := fun f' => h.nodup.mem_erase_iff.1
  refine h.shrink List.erase_sublist (fun f' hf' => Function.update_of_ne (hmem f' hf').1 _ _) ?_
    fun f' hf' => h.ahead f' (hmem f' hf').2
  intro f' htimeline hlisted
  by_cases hf : f' = f
  · rw [hf, Function.update_self] at hlisted
    exact absurd hlisted hstage
  · rw [Function.update_of_ne hf] at htimeline hlisted
    exact h.nodup.mem_erase_iff.2 ⟨hf, h.listed f' htimeline hlisted⟩

theorem Wakeup.delFence {s : IsyncState} (h : Wakeup s) {tl f : Nat} {c : IsyncFence}
    (htl : (s.fence f).timeline = tl) (hstage : c.stage ≠ .listed) (tl' : Nat) :
    ListOk (Function.update s.fence f c) tl' ((s.delFence tl f).timeline tl') := by
  show ListOk _ tl' (Function.update s.timeline tl _ tl')
  by_cases heq : tl' = tl
  · rw [heq, Function.update_self]
    exact (h.list tl).erase hstage
  · rw [Function.update_of_ne heq]
    -- the fence is on no list but that of its own timeline
    have hout : f ∉ (s.timeline tl').fenceList := by
      intro hmem
      exact heq (((h.list tl').timeline f hmem).symm.trans htl)
    have herase := (h.list tl').erase (f := f) hstage
    rwa [List.erase_of_not_mem hout] at herase

/-- The fence is found on the list and taken off. -/
theorem Wakeup.search {s : IsyncState} (h : Wakeup s) {t tl f : Nat}
    (hthread : s.thread t = .searching tl f) (hmem : f ∈ (s.timeline tl).fenceList) :
    Wakeup (((s.delFence tl f).setFence f { s.fence f with stage := .taken t }).setThread t
      (.signalling f)) := by
  have hpair := h.pair t
  rw [hthread] at hpair
  have hheld := (hpair f).mem List.mem_cons_self
  have halive := (h.fence f).alive_of_mem hheld
  -- listed and alive: not on its way out
  have hlisted : (s.fence f).stage = .listed := by
    have hon := (h.list tl).stage f hmem
    cases hstage : (s.fence f).stage with
    | listed => rfl
    | unused | making t' | taken t' | done | dying t' | released =>
        rw [hstage] at hon halive
        cases hon <;> cases halive
  refine h.update (t := t) (f := f) rfl rfl ?_ ?_ ?_ (List.nodup_singleton f) ?_
    (h.delFence ((h.list tl).timeline f hmem) nofun) (h.numbered_update ((h.fence f).used_of_mem hheld) nofun)
  · exact ⟨(hpair f).refs, iff_of_false nofun nofun, iff_of_true rfl List.mem_cons_self,
      iff_of_false nofun nofun, nofun⟩
  · intro f' hf'
    refine (hpair f').thread rfl Iff.rfl ?_ Iff.rfl nofun
    exact iff_of_false (fun hmem' => hf' (List.mem_singleton.1 hmem')) nofun
  · intro t' ht
    refine (h.pair t' f).fence rfl ?_ ?_ ?_ fun _ => id
    · rw [hlisted]
      exact iff_of_false nofun nofun
    · rw [hlisted]
      exact iff_of_false (fun heq => ht (FenceStage.taken.inj heq).symm) nofun
    · rw [hlisted]
      exact iff_of_false nofun nofun
  · refine ⟨(h.fence f).balanced, iff_of_true ?_ rfl, nofun⟩
    exact (h.fence f).balanced.count_ne_zero hheld

/-- A fence that was taken off a list is signalled. -/
theorem Wakeup.signal {s : IsyncState} (h : Wakeup s) {t f : Nat} {old th : SyncThread}
    (hold : s.thread t = old) (htaken : f ∈ taking old)
    (hrefs : ∀ f', (refs th).count f' = (refs old).count f') (htaking : taking th = (taking old).erase f)
    (hnone : making old = none) (hmaking : making th = none) (hdying : dying th = none)
    (hdying' : dying old = none) :
    Wakeup ((s.setFence f { s.fence f with signalled := true, stage := .done }).setThread t th) := by
  subst hold
  have hstage := (h.pair t f).taking.2 htaken
  have hheld := (h.pair t f).mem (mem_refs (.inr htaken))
  have hnodup := h.nodup t
  have halone : ∀ f', th ≠ .discarding f' := by
    rintro f' rfl
    cases hmaking
  refine h.update (t := t) (f := f) rfl rfl ?_ ?_ ?_ ?_ ?_ ?_
    (h.numbered_update ((h.fence f).used_of_mem hheld) nofun)
  · refine ⟨(h.pair t f).refs.trans (hrefs f).symm, ?_, ?_, ?_, fun heq => absurd heq (halone f)⟩
    · rw [hmaking]
      exact iff_of_false nofun nofun
    · rw [htaking]
      exact iff_of_false nofun hnodup.not_mem_erase
    · rw [hdying]
      exact iff_of_false nofun nofun
  · intro f' hf'
    refine (h.pair t f').thread (hrefs f') (by rw [hmaking, hnone]) ?_ (by rw [hdying, hdying']) (halone f')
    rw [htaking, hnodup.mem_erase_iff]
    exact and_iff_right hf'
  · intro t' ht
    refine (h.pair t' f).fence rfl ?_ ?_ ?_ fun _ => id
    · rw [hstage]
      exact iff_of_false nofun nofun
    · rw [hstage]
      exact iff_of_false nofun fun heq => ht (FenceStage.taken.inj heq).symm
    · rw [hstage]
      exact iff_of_false nofun nofun
  · rw [htaking]
    exact hnodup.erase f
  · exact ⟨(h.fence f).balanced, iff_of_true ((h.fence f).balanced.count_ne_zero hheld) rfl, fun _ => rfl⟩
  · intro tl
    exact (h.list tl).update (by rw [hstage]; rfl) rfl

/-- The fence is taken off the list, if it is still there, and gone. -/
theorem Wakeup.release {s : IsyncState} (h : Wakeup s) {t f : Nat} {next : AfterPut}
    (hthread : s.thread t = .releasing f next) :
    Wakeup (((s.delFence (s.fence f).timeline f).setFence f { s.fence f with stage := .released }).setThread
      t next.thread) := by
  obtain ⟨hmaking, htaking, hdying, halone⟩ := hands_thread next
  have hpair := h.pair t
  rw [hthread] at hpair
  have hstage := (hpair f).dying.2 rfl
  have hcount := (h.fence f).alive
  rw [hstage] at hcount
  refine h.update (t := t) (f := f) rfl rfl ?_ ?_ ?_ ?_ ?_ (h.delFence rfl nofun)
    (h.numbered_update (by rw [hstage]; exact nofun) nofun)
  · refine ⟨?_, ?_, ?_, ?_, fun heq => absurd heq (halone f)⟩
    · rw [refs_thread]
      exact (hpair f).refs
    · rw [hmaking]
      exact iff_of_false nofun nofun
    · rw [htaking]
      refine iff_of_false nofun fun hmem => ?_
      have htaken := (hpair f).taking.2 hmem
      rw [hstage] at htaken
      cases htaken
    · rw [hdying]
      exact iff_of_false nofun nofun
  · intro f' hf'
    refine (hpair f').thread ?_ ?_ ?_ ?_ (halone f')
    · rw [refs_thread]
      rfl
    · rw [hmaking]
      exact Iff.rfl
    · rw [htaking]
      exact Iff.rfl
    · rw [hdying]
      exact iff_of_false nofun fun heq => hf' (Option.some.inj heq).symm
  · intro t' ht
    refine (h.pair t' f).fence rfl ?_ ?_ ?_ fun _ => id
    · rw [hstage]
      exact iff_of_false nofun nofun
    · rw [hstage]
      exact iff_of_false nofun nofun
    · rw [hstage]
      exact iff_of_false nofun fun heq => ht (FenceStage.dying.inj heq).symm
  · rw [htaking]
    have hnodup := h.nodup t
    rw [hthread] at hnodup
    exact hnodup
  · exact ⟨(h.fence f).balanced, hcount.trans (iff_of_false nofun nofun), nofun⟩

/-! ## Forwarding -/

theorem mem_swept {s : IsyncState} {tl f : Nat} {ts : BitVec 64} :
    f ∈ s.swept tl ts ↔ f ∈ (s.timeline tl).fenceList ∧
      hgslTsGe ts (s.fence f).ts (s.timeline tl).is64bits = true :=
  List.mem_filter

theorem mem_alive {s : IsyncState} {fs : List Nat} {f : Nat} :
    f ∈ s.alive fs ↔ f ∈ fs ∧ (s.fence f).kref.count ≠ 0 := by
  unfold alive
  rw [List.mem_filter, decide_eq_true_iff]

/-- The fences that `hgsl_isync_forward` takes were listed. -/
theorem Wakeup.listed_of_taken {s : IsyncState} (h : Wakeup s) {tl f : Nat} {ts : BitVec 64}
    (hmem : f ∈ s.alive (s.swept tl ts)) :
    (s.fence f).stage = .listed ∧ f ∈ (s.timeline tl).fenceList ∧
      hgslTsGe ts (s.fence f).ts (s.timeline tl).is64bits = true := by
  obtain ⟨hswept, hcount⟩ := mem_alive.1 hmem
  obtain ⟨hlist, hge⟩ := mem_swept.1 hswept
  refine ⟨?_, hlist, hge⟩
  have hon := (h.list tl).stage f hlist
  have halive := (h.fence f).alive.1 hcount
  cases hstage : (s.fence f).stage with
  | listed => rfl
  | unused | making t' | taken t' | done | dying t' | released =>
      rw [hstage] at hon halive
      cases hon <;> cases halive

section Forward

variable {s : IsyncState} {t tl : Nat} {ts : BitVec 64}

/-- A fence after the section of `hgsl_isync_forward`. -/
def forwardFence (s : IsyncState) (t tl : Nat) (ts : BitVec 64) (f : Nat) : IsyncFence :=
  if f ∈ s.alive (s.swept tl ts) then
    { s.fence f with kref := (s.fence f).kref.get (.call t), stage := .taken t }
  else s.fence f

theorem Wakeup.pair_forward (h : Wakeup s) (hidle : s.thread t = .idle) (t' f : Nat) :
    PairOk t' (Function.update s.thread t (.forwarding (s.alive (s.swept tl ts)).reverse) t') f
      (forwardFence s t tl ts f) := by
  have hnodup : (s.alive (s.swept tl ts)).Nodup := ((h.list tl).nodup.filter _).filter _
  have hpair := h.pair t' f
  unfold forwardFence
  by_cases ht : t' = t
  · subst ht
    rw [Function.update_self]
    rw [hidle] at hpair
    by_cases hf : f ∈ s.alive (s.swept tl ts)
    · rw [if_pos hf]
      refine ⟨?_, iff_of_false nofun nofun, iff_of_true rfl (List.mem_reverse.2 hf),
        iff_of_false nofun nofun, nofun⟩
      show (FenceHolder.call t' :: (s.fence f).kref.holders).count (.call t') = _
      rw [List.count_cons_self, hpair.refs]
      show 0 + 1 = (s.alive (s.swept tl ts)).reverse.count f
      rw [List.count_reverse, List.count_eq_one_of_mem hnodup hf]
    · rw [if_neg hf]
      refine hpair.thread ?_ Iff.rfl ?_ Iff.rfl nofun
      · show (s.alive (s.swept tl ts)).reverse.count f = 0
        rw [List.count_reverse, List.count_eq_zero.2 hf]
      · exact iff_of_false (fun hmem => hf (List.mem_reverse.1 hmem)) nofun
  · rw [Function.update_of_ne ht]
    by_cases hf : f ∈ s.alive (s.swept tl ts)
    · rw [if_pos hf]
      have hlisted := (h.listed_of_taken hf).1
      refine hpair.fence (RefCount.count_get_of_ne fun heq => ht (FenceHolder.call.inj heq)) ?_ ?_ ?_ ?_
      · rw [hlisted]
        exact iff_of_false nofun nofun
      · rw [hlisted]
        exact iff_of_false (fun heq => ht (FenceStage.taken.inj heq).symm) nofun
      · rw [hlisted]
        exact iff_of_false nofun nofun
      · intro hdiscarding
        have hmaking := hpair.making.2 (by rw [hdiscarding]; rfl)
        rw [hlisted] at hmaking
        cases hmaking
    · rw [if_neg hf]
      exact hpair

theorem forwardFence_of_not_mem {f : Nat} (hf : f ∉ s.alive (s.swept tl ts)) :
    forwardFence s t tl ts f = s.fence f := if_neg hf

theorem Wakeup.list_forward (h : Wakeup s) (tl' : Nat) :
    ListOk (forwardFence s t tl ts) tl' (Function.update s.timeline tl
      { s.timeline tl with
        lastTs := ts
        fenceList := (s.timeline tl).fenceList.filter fun f =>
          !hgslTsGe ts (s.fence f).ts (s.timeline tl).is64bits } tl') := by
  -- what is taken is not listed any more
  have hlisted : ∀ f, (forwardFence s t tl ts f).stage = .listed → f ∉ s.alive (s.swept tl ts) := by
    intro f hstage hmem
    unfold forwardFence at hstage
    rw [if_pos hmem] at hstage
    cases hstage
  by_cases htl : tl' = tl
  · subst htl
    rw [Function.update_self]
    have hlist := h.list tl'
    -- what stays on the list is ahead of the new timestamp, so it was not taken
    have hkept : ∀ f ∈ (s.timeline tl').fenceList.filter fun f =>
        !hgslTsGe ts (s.fence f).ts (s.timeline tl').is64bits,
        hgslTsGe ts (s.fence f).ts (s.timeline tl').is64bits = false ∧
          forwardFence s t tl' ts f = s.fence f := by
      intro f hmem
      obtain ⟨-, hge⟩ := List.mem_filter.1 hmem
      rw [Bool.not_eq_true'] at hge
      refine ⟨hge, forwardFence_of_not_mem fun htaken => ?_⟩
      have hreached := (h.listed_of_taken htaken).2.2
      rw [hge] at hreached
      cases hreached
    refine hlist.shrink List.filter_sublist (fun f hmem => (hkept f hmem).2) ?_
      fun f hmem => (hkept f hmem).1
    intro f htimeline hstage
    have hnot := hlisted f hstage
    rw [forwardFence_of_not_mem hnot] at htimeline hstage
    have hmem := hlist.listed f htimeline hstage
    refine List.mem_filter.2 ⟨hmem, ?_⟩
    rw [Bool.not_eq_true']
    by_contra hge
    rw [Bool.not_eq_false] at hge
    -- a listed fence has a reference, so it would have been taken
    refine hnot (mem_alive.2 ⟨mem_swept.2 ⟨hmem, hge⟩, (h.fence f).alive.2 ?_⟩)
    rw [hstage]
    rfl
  · rw [Function.update_of_ne htl]
    have hlist := h.list tl'
    -- the fences of another timeline are not taken
    have hsame : ∀ f ∈ (s.timeline tl').fenceList, forwardFence s t tl ts f = s.fence f := by
      intro f hmem
      refine forwardFence_of_not_mem fun htaken => htl ?_
      exact (hlist.timeline f hmem).symm.trans ((h.list tl).timeline f (h.listed_of_taken htaken).2.1)
    refine hlist.shrink (.refl _) hsame ?_ hlist.ahead
    intro f htimeline hstage
    have hnot := hlisted f hstage
    rw [forwardFence_of_not_mem hnot] at htimeline hstage
    exact hlist.listed f htimeline hstage

/-- **`hgsl_isync_forward`** takes all that the new timestamp reaches. -/
theorem Wakeup.forward (h : Wakeup s) (hidle : s.thread t = .idle) :
    Wakeup (s.forwardTimeline t tl ts) := by
  unfold forwardTimeline
  dsimp only
  split
  · exact h
  · refine ⟨h.pair_forward hidle, ?_, ?_, h.list_forward, ?_⟩
    · refine (Function.forall_update_iff s.thread fun _ th => (taking th).Nodup).2 ⟨?_, ?_⟩
      · exact List.nodup_reverse.2 (((h.list tl).nodup.filter _).filter _)
      · exact fun t' _ => h.nodup t'
    · intro f
      show FenceOk (forwardFence s t tl ts f)
      unfold forwardFence
      split
      · exact ⟨(h.fence f).balanced.get _, iff_of_true (Nat.succ_ne_zero _) rfl, nofun⟩
      · exact h.fence f
    · intro f
      show Numbered s.nextFence f (forwardFence s t tl ts f)
      rcases h.numbered f with ⟨hlt, hstage⟩ | ⟨hle, hunused⟩
      · refine .inl ⟨hlt, ?_⟩
        unfold forwardFence
        split
        · exact nofun
        · exact hstage
      · refine .inr ⟨hle, ?_⟩
        rw [forwardFence_of_not_mem, hunused]
        intro hmem
        have hlisted := (h.listed_of_taken hmem).1
        rw [hunused] at hlisted
        cases hlisted

end Forward

end IsyncState

end Hgsl
