import Hgsl.Sync.Timeline

set_option autoImplicit false

/-! # Where the fences are

Each fence is in one place: with the thread that makes it, on the list, with a thread that has taken it
off the list to signal it, signalled, or with the thread that dropped its last reference. The stage of a
fence names the place, and the invariant `Wakeup` says that the threads (`PairOk`) and the lists
(`ListOk`) agree with it. -/

namespace Hgsl

namespace IsyncState

/-! ## What a thread has in hand -/

/-- The references that a thread has left after a put. -/
def AfterPut.refs : AfterPut → List Nat
  | .idle => []
  | .dropping fs | .forwarding fs => fs

/-- The references that a thread holds. -/
def refs : SyncThread → List Nat
  | .idle => []
  | .holding fs | .dropping fs | .forwarding fs => fs
  | .discarding f | .searching _ f | .signalling f => [f]
  | .checking f array | .inserting f array => f :: (array.map ArrayLoop.made).getD []
  | .looping array => array.made
  | .passing f fs => f :: fs
  | .releasing _ next => AfterPut.refs next

/-- The fence that it makes. -/
def making : SyncThread → Option Nat
  | .discarding f | .checking f _ | .inserting f _ => some f
  | _ => none

def AfterPut.taking : AfterPut → List Nat
  | .forwarding fs => fs
  | .idle | .dropping _ => []

/-- The fences that it has taken off the list. -/
def taking : SyncThread → List Nat
  | .signalling f => [f]
  | .forwarding fs | .passing _ fs => fs
  | .releasing _ next => AfterPut.taking next
  | _ => []

/-- The fence that it releases. -/
def dying : SyncThread → Option Nat
  | .releasing f _ => some f
  | _ => none

/-- Somebody has a reference. -/
def isAlive : FenceStage → Bool
  | .making _ | .listed | .taken _ | .done => true
  | .unused | .dying _ | .released => false

/-- The fence can be on the list. -/
def isListed : FenceStage → Bool
  | .listed | .dying _ => true
  | .unused | .making _ | .taken _ | .done | .released => false

/-! ## Invariant -/

/-- Thread `t` and fence `f` agree. -/
structure PairOk (t : Nat) (th : SyncThread) (f : Nat) (c : IsyncFence) : Prop where
  refs : c.kref.holders.count (.call t) = (refs th).count f
  making : c.stage = .making t ↔ making th = some f
  taking : c.stage = .taken t ↔ f ∈ taking th
  dying : c.stage = .dying t ↔ dying th = some f
  alone : th = .discarding f → c.kref.holders = [.call t]

structure FenceOk (c : IsyncFence) : Prop where
  balanced : c.kref.Balanced
  alive : c.kref.count ≠ 0 ↔ isAlive c.stage = true
  done : c.stage = .done → c.signalled = true

/-- The list of timeline `tl`, as its fences see it. -/
structure ListOk (fence : Nat → IsyncFence) (tl : Nat) (l : IsyncTimeline) : Prop where
  nodup : l.fenceList.Nodup
  timeline : ∀ f ∈ l.fenceList, (fence f).timeline = tl
  stage : ∀ f ∈ l.fenceList, isListed (fence f).stage = true
  listed : ∀ f, (fence f).timeline = tl → (fence f).stage = .listed → f ∈ l.fenceList
  ahead : ∀ f ∈ l.fenceList, hgslTsGe l.lastTs (fence f).ts l.is64bits = false

/-- Fence `f` exists, or its number is still to come. -/
def Numbered (nextFence f : Nat) (c : IsyncFence) : Prop :=
  f < nextFence ∧ c.stage ≠ .unused ∨ nextFence ≤ f ∧ c = {}

structure Wakeup (s : IsyncState) : Prop where
  pair : ∀ t f, PairOk t (s.thread t) f (s.fence f)
  nodup : ∀ t, (taking (s.thread t)).Nodup
  fence : ∀ f, FenceOk (s.fence f)
  list : ∀ tl, ListOk s.fence tl (s.timeline tl)
  numbered : ∀ f, Numbered s.nextFence f (s.fence f)

theorem Wakeup.start (is64bits : Nat → Bool) (initialTs : Nat → BitVec 64) :
    Wakeup (IsyncState.fresh is64bits initialTs) where
  pair _ _ := ⟨rfl, ⟨nofun, nofun⟩, ⟨nofun, nofun⟩, ⟨nofun, nofun⟩, nofun⟩
  nodup _ := List.nodup_nil
  fence _ := ⟨rfl, ⟨fun h => absurd rfl h, nofun⟩, nofun⟩
  list _ := ⟨List.nodup_nil, nofun, nofun, nofun, nofun⟩
  numbered f := .inr ⟨Nat.zero_le f, rfl⟩

theorem Wakeup.fresh {s : IsyncState} (h : Wakeup s) {f : Nat} (hf : s.nextFence ≤ f) : s.fence f = {} := by
  rcases h.numbered f with ⟨hlt, -⟩ | ⟨-, hfence⟩
  · omega
  · exact hfence

theorem Wakeup.used {s : IsyncState} (h : Wakeup s) {f : Nat} (hf : f < s.nextFence) :
    (s.fence f).stage ≠ .unused := by
  rcases h.numbered f with ⟨-, hstage⟩ | ⟨hle, -⟩
  · exact hstage
  · omega

/-! ## Frame -/

/-- The thread moves on, but not with fence `f`. -/
theorem PairOk.thread {t f : Nat} {th th' : SyncThread} {c : IsyncFence} (h : PairOk t th f c)
    (hrefs : (IsyncState.refs th').count f = (IsyncState.refs th).count f)
    (hmaking : IsyncState.making th' = some f ↔ IsyncState.making th = some f)
    (htaking : f ∈ IsyncState.taking th' ↔ f ∈ IsyncState.taking th)
    (hdying : IsyncState.dying th' = some f ↔ IsyncState.dying th = some f)
    (halone : th' ≠ .discarding f) : PairOk t th' f c where
  refs := h.refs.trans hrefs.symm
  making := h.making.trans hmaking.symm
  taking := h.taking.trans htaking.symm
  dying := h.dying.trans hdying.symm
  alone heq := absurd heq halone

/-- Fence `f` changes, but not for this thread. -/
theorem PairOk.fence {t f : Nat} {th : SyncThread} {c c' : IsyncFence} (h : PairOk t th f c)
    (hrefs : c'.kref.holders.count (.call t) = c.kref.holders.count (.call t))
    (hmaking : c'.stage = .making t ↔ c.stage = .making t)
    (htaking : c'.stage = .taken t ↔ c.stage = .taken t)
    (hdying : c'.stage = .dying t ↔ c.stage = .dying t)
    (halone : th = .discarding f → c.kref.holders = [.call t] → c'.kref.holders = [.call t]) :
    PairOk t th f c' where
  refs := hrefs.trans h.refs
  making := hmaking.trans h.making
  taking := htaking.trans h.taking
  dying := hdying.trans h.dying
  alone heq := halone heq (h.alone heq)

/-- A thread moves on, fence `f` changes and a list with it. -/
theorem Wakeup.update {s s' : IsyncState} (h : Wakeup s) {t f : Nat} {th : SyncThread}
    {c : IsyncFence} (hthread : s'.thread = Function.update s.thread t th)
    (hfence : s'.fence = Function.update s.fence f c) (hpair : PairOk t th f c)
    (hothers : ∀ f', f' ≠ f → PairOk t th f' (s.fence f'))
    (hseen : ∀ t', t' ≠ t → PairOk t' (s.thread t') f c) (hnodup : (taking th).Nodup) (hc : FenceOk c)
    (hlist : ∀ tl, ListOk s'.fence tl (s'.timeline tl))
    (hnumbered : ∀ f', Numbered s'.nextFence f' (s'.fence f')) : Wakeup s' := by
  refine ⟨?_, ?_, ?_, hlist, hnumbered⟩
  · rw [hthread, hfence]
    -- the moving thread sees `f` and the other fences, the other threads see `f`
    refine (Function.forall_update_iff s.thread fun t' th' =>
      ∀ f', PairOk t' th' f' (Function.update s.fence f c f')).2 ⟨?_, ?_⟩
    · exact (Function.forall_update_iff s.fence (PairOk t th)).2 ⟨hpair, hothers⟩
    · intro t' ht
      refine (Function.forall_update_iff s.fence (PairOk t' (s.thread t'))).2 ⟨hseen t' ht, ?_⟩
      exact fun f' _ => h.pair t' f'
  · rw [hthread]
    refine (Function.forall_update_iff s.thread fun _ th => (taking th).Nodup).2 ⟨hnodup, ?_⟩
    exact fun t' _ => h.nodup t'
  · rw [hfence]
    refine (Function.forall_update_iff s.fence fun _ c => FenceOk c).2 ⟨hc, ?_⟩
    exact fun f' _ => h.fence f'

/-- A thread moves on and has the same in hand as before. -/
theorem Wakeup.move {s : IsyncState} (h : Wakeup s) {t : Nat} {old th : SyncThread}
    (hold : s.thread t = old) (hrefs : refs th = refs old) (hmaking : making th = making old)
    (htaking : taking th = taking old) (hdying : dying th = dying old)
    (halone : ∀ f, th ≠ .discarding f) : Wakeup (s.setThread t th) := by
  subst hold
  have hpair : ∀ f, PairOk t th f (s.fence f) := fun f =>
    (h.pair t f).thread (by rw [hrefs]) (by rw [hmaking]) (by rw [htaking]) (by rw [hdying]) (halone f)
  refine ⟨?_, ?_, h.fence, h.list, h.numbered⟩
  · refine (Function.forall_update_iff s.thread fun t th => ∀ f, PairOk t th f (s.fence f)).2 ⟨hpair, ?_⟩
    exact fun t' _ => h.pair t'
  · refine (Function.forall_update_iff s.thread fun _ th => (taking th).Nodup).2 ⟨?_, ?_⟩
    · rw [htaking]
      exact h.nodup t
    · exact fun t' _ => h.nodup t'

/-- The list may get shorter, and the fences that stay on it do not change. -/
theorem ListOk.shrink {fence fence' : Nat → IsyncFence} {tl : Nat} {l l' : IsyncTimeline}
    (h : ListOk fence tl l) (hsub : l'.fenceList.Sublist l.fenceList)
    (hsame : ∀ f ∈ l'.fenceList, fence' f = fence f)
    (hlisted : ∀ f, (fence' f).timeline = tl → (fence' f).stage = .listed → f ∈ l'.fenceList)
    (hahead : ∀ f ∈ l'.fenceList, hgslTsGe l'.lastTs (fence f).ts l'.is64bits = false) :
    ListOk fence' tl l' := by
  refine ⟨h.nodup.sublist hsub, ?_, ?_, hlisted, ?_⟩
  · intro f hmem
    rw [hsame f hmem]
    exact h.timeline f (hsub.subset hmem)
  · intro f hmem
    rw [hsame f hmem]
    exact h.stage f (hsub.subset hmem)
  · intro f hmem
    rw [hsame f hmem]
    exact hahead f hmem

/-- A fence changes that is not on a list and does not come to a list. -/
theorem ListOk.update {fence : Nat → IsyncFence} {tl f : Nat} {l : IsyncTimeline} {c : IsyncFence}
    (h : ListOk fence tl l) (hout : isListed (fence f).stage = false) (hout' : isListed c.stage = false) :
    ListOk (Function.update fence f c) tl l := by
  -- a fence that the list has is not `f`, since the stage of `f` keeps it off
  have hne : ∀ f' ∈ l.fenceList, f' ≠ f := by
    rintro f' hmem rfl
    have hlisted := h.stage f' hmem
    rw [hout] at hlisted
    cases hlisted
  refine h.shrink (.refl _) (fun f' hmem => Function.update_of_ne (hne f' hmem) _ _) ?_ h.ahead
  intro f' htl hstage
  by_cases hf : f' = f
  · rw [hf, Function.update_self] at hstage
    rw [hstage] at hout'
    cases hout'
  · rw [Function.update_of_ne hf] at htl hstage
    exact h.listed f' htl hstage

/-- A fence changes, but not what the list has to do with. -/
theorem ListOk.keep {fence : Nat → IsyncFence} {tl f : Nat} {l : IsyncTimeline} {c : IsyncFence}
    (h : ListOk fence tl l) (htimeline : c.timeline = (fence f).timeline) (hts : c.ts = (fence f).ts)
    (hlisted : isListed (fence f).stage = true → isListed c.stage = true)
    (hstage : c.stage = .listed → (fence f).stage = .listed) :
    ListOk (Function.update fence f c) tl l := by
  have heq : ∀ f', (Function.update fence f c f').timeline = (fence f').timeline ∧
      (Function.update fence f c f').ts = (fence f').ts ∧
      (isListed (fence f').stage = true → isListed (Function.update fence f c f').stage = true) ∧
      ((Function.update fence f c f').stage = .listed → (fence f').stage = .listed) := by
    refine (Function.forall_update_iff fence fun f' c => c.timeline = (fence f').timeline ∧
      c.ts = (fence f').ts ∧ (isListed (fence f').stage = true → isListed c.stage = true) ∧
      (c.stage = .listed → (fence f').stage = .listed)).2 ⟨⟨htimeline, hts, hlisted, hstage⟩, ?_⟩
    exact fun _ _ => ⟨rfl, rfl, id, id⟩
  refine ⟨h.nodup, ?_, ?_, ?_, ?_⟩
  · intro f' hmem
    rw [(heq f').1]
    exact h.timeline f' hmem
  · intro f' hmem
    exact (heq f').2.2.1 (h.stage f' hmem)
  · intro f' htl hst
    rw [(heq f').1] at htl
    exact h.listed f' htl ((heq f').2.2.2 hst)
  · intro f' hmem
    rw [(heq f').2.1]
    exact h.ahead f' hmem

/-! ## Making fences -/

/-- A thread that has nothing in hand but references makes a fence. -/
theorem Wakeup.make {s : IsyncState} (h : Wakeup s) {t tl : Nat} {ts : BitVec 64}
    {kref : RefCount FenceHolder} {old th : SyncThread} (hold : s.thread t = old) (hidle : making old = none)
    (htaking : taking old = []) (hdying : dying old = none) (hbalanced : kref.Balanced)
    (hmine : kref.holders.count (.call t) = 1)
    (hforeign : ∀ t', t' ≠ t → kref.holders.count (.call t') = 0)
    (hrefs : ∀ f, (refs th).count f = (s.nextFence :: refs old).count f)
    (hmaking : making th = some s.nextFence) (htaking' : taking th = []) (hdying' : dying th = none)
    (halone : ∀ f, th = .discarding f → kref.holders = [.call t]) :
    Wakeup (s.makeFence t tl ts kref th) := by
  subst hold
  have hunused := h.fresh (le_refl s.nextFence)
  -- nobody has a reference to a fence that does not exist yet
  have hzero : ∀ t', (refs (s.thread t')).count s.nextFence = 0 := by
    intro t'
    have hpair := (h.pair t' s.nextFence).refs
    rw [hunused] at hpair
    exact hpair.symm
  have halive : kref.count ≠ 0 :=
    hbalanced.count_ne_zero (List.count_pos_iff.1 (by rw [hmine]; exact Nat.one_pos))
  refine h.update (t := t) (f := s.nextFence)
    (c := { timeline := tl, ts := ts, kref := kref, stage := .making t }) rfl rfl ?_ ?_ ?_ ?_ ?_ ?_ ?_
  · refine ⟨?_, iff_of_true rfl hmaking, ?_, ?_, halone _⟩
    · rw [hrefs, List.count_cons_self, hzero, hmine]
    · rw [htaking']
      exact iff_of_false nofun nofun
    · rw [hdying']
      exact iff_of_false nofun nofun
  · intro f hf
    refine (h.pair t f).thread ?_ ?_ ?_ ?_ ?_
    · rw [hrefs, List.count_cons_of_ne hf.symm]
    · rw [hmaking, hidle]
      exact iff_of_false (fun heq => hf (Option.some.inj heq).symm) nofun
    · rw [htaking', htaking]
    · rw [hdying', hdying]
    · rintro rfl
      exact hf (Option.some.inj hmaking)
  · intro t' ht
    have hpair := h.pair t' s.nextFence
    rw [hunused] at hpair
    refine hpair.fence (hforeign t' ht) ?_ ?_ ?_ fun _ => nofun
    · exact iff_of_false (fun heq => ht (FenceStage.making.inj heq).symm) nofun
    · exact iff_of_false nofun nofun
    · exact iff_of_false nofun nofun
  · rw [htaking']
    exact List.nodup_nil
  · exact ⟨hbalanced, iff_of_true halive rfl, nofun⟩
  · intro tl'
    exact (h.list tl').update (by rw [hunused]; rfl) rfl
  · refine (Function.forall_update_iff s.fence (Numbered (s.nextFence + 1))).2 ⟨?_, ?_⟩
    · exact .inl ⟨Nat.lt_succ_self _, nofun⟩
    · intro f hf
      rcases h.numbered f with ⟨hlt, hstage⟩ | ⟨hle, hfence⟩
      · exact .inl ⟨by omega, hstage⟩
      · exact .inr ⟨by omega, hfence⟩

/-- The fence that a thread makes is its own. -/
theorem Wakeup.stage_of_making {s : IsyncState} (h : Wakeup s) {t f : Nat}
    (hmaking : making (s.thread t) = some f) : (s.fence f).stage = .making t :=
  (h.pair t f).making.2 hmaking

/-- A fence that exists goes on to exist. -/
theorem Wakeup.numbered_update {s : IsyncState} (h : Wakeup s) {f : Nat} {c : IsyncFence}
    (hold : (s.fence f).stage ≠ .unused) (hc : c.stage ≠ .unused) :
    ∀ f', Numbered s.nextFence f' (Function.update s.fence f c f') := by
  refine (Function.forall_update_iff s.fence (Numbered s.nextFence)).2 ⟨?_, ?_⟩
  · rcases h.numbered f with ⟨hlt, -⟩ | ⟨-, hfence⟩
    · exact .inl ⟨hlt, hc⟩
    · rw [hfence] at hold
      exact absurd rfl hold
  · exact fun f' _ => h.numbered f'

theorem refs_afterMake (f f' : Nat) (array : Option ArrayLoop) :
    (refs (afterMake f array)).count f' = (refs (.checking f array)).count f' := by
  cases array with
  | none => rfl
  | some a =>
      show (a.made ++ [f]).count f' = (f :: a.made).count f'
      rw [List.count_append, Nat.add_comm, ← List.count_append]
      rfl

theorem hands_afterMake (f : Nat) (array : Option ArrayLoop) :
    making (afterMake f array) = none ∧ taking (afterMake f array) = [] ∧
      dying (afterMake f array) = none ∧ ∀ f', afterMake f array ≠ .discarding f' := by
  cases array with
  | none => exact ⟨rfl, rfl, rfl, nofun⟩
  | some a => exact ⟨rfl, rfl, rfl, nofun⟩

/-- The thread that has made a fence lets go of it: it is listed, or it is signalled already. -/
theorem Wakeup.finishMake {s s' : IsyncState} (h : Wakeup s) {t f : Nat} {array : Option ArrayLoop}
    {c : IsyncFence} (hrefs : ∀ f', (refs (s.thread t)).count f' = (refs (.checking f array)).count f')
    (hmaking : making (s.thread t) = some f) (htaking : taking (s.thread t) = [])
    (hdying : dying (s.thread t) = none)
    (hthread : s'.thread = Function.update s.thread t (afterMake f array))
    (hfence : s'.fence = Function.update s.fence f c) (hkref : c.kref = (s.fence f).kref)
    (hstage : c.stage = .listed ∨ c.stage = .done ∧ c.signalled = true)
    (hlist : ∀ tl, ListOk s'.fence tl (s'.timeline tl)) (hnext : s'.nextFence = s.nextFence) :
    Wakeup s' := by
  obtain ⟨hmaking', htaking', hdying', halone⟩ := hands_afterMake f array
  have hold := h.stage_of_making hmaking
  -- the fence ends in a stage that belongs to no thread
  have hnot : ∀ t', c.stage ≠ .making t' ∧ c.stage ≠ .taken t' ∧ c.stage ≠ .dying t' := by
    intro t'
    rcases hstage with hlisted | ⟨hdone, -⟩
    · rw [hlisted]
      exact ⟨nofun, nofun, nofun⟩
    · rw [hdone]
      exact ⟨nofun, nofun, nofun⟩
  refine h.update hthread hfence ?_ ?_ ?_ ?_ ?_ hlist ?_
  · refine ⟨?_, ?_, ?_, ?_, fun heq => absurd heq (halone f)⟩
    · rw [hkref, (h.pair t f).refs, hrefs, refs_afterMake]
    · rw [hmaking']
      exact iff_of_false (hnot t).1 nofun
    · rw [htaking']
      exact iff_of_false (hnot t).2.1 nofun
    · rw [hdying']
      exact iff_of_false (hnot t).2.2 nofun
  · intro f' hf'
    refine (h.pair t f').thread ?_ ?_ ?_ ?_ (halone f')
    · rw [hrefs, refs_afterMake]
    · rw [hmaking', hmaking]
      exact iff_of_false nofun fun heq => hf' (Option.some.inj heq).symm
    · rw [htaking', htaking]
    · rw [hdying', hdying]
  · intro t' ht
    refine (h.pair t' f).fence (by rw [hkref]) ?_ ?_ ?_ fun _ => by rw [hkref]; exact id
    · rw [hold]
      exact iff_of_false (hnot t').1 fun heq => ht (FenceStage.making.inj heq).symm
    · rw [hold]
      exact iff_of_false (hnot t').2.1 nofun
    · rw [hold]
      exact iff_of_false (hnot t').2.2 nofun
  · rw [htaking']
    exact List.nodup_nil
  · have halive := (h.fence f).alive
    rw [hold] at halive
    refine ⟨by rw [hkref]; exact (h.fence f).balanced, ?_, ?_⟩
    · rw [hkref]
      refine iff_of_true (halive.2 rfl) ?_
      rcases hstage with hlisted | ⟨hdone, -⟩
      · rw [hlisted]
        rfl
      · rw [hdone]
        rfl
    · intro hdone
      rcases hstage with hlisted | ⟨-, hsignalled⟩
      · rw [hlisted] at hdone
        cases hdone
      · exact hsignalled
  · rw [hnext, hfence]
    refine h.numbered_update (by rw [hold]; exact nofun) ?_
    rcases hstage with hlisted | ⟨hdone, -⟩
    · rw [hlisted]
      exact nofun
    · rw [hdone]
      exact nofun

/-- `dma_fence_is_signaled` on a new fence: it is signalled. -/
theorem Wakeup.check {s : IsyncState} (h : Wakeup s) {t f : Nat} {array : Option ArrayLoop}
    (hthread : s.thread t = .checking f array) :
    Wakeup ((s.setFence f { s.fence f with signalled := true, stage := .done }).setThread t
      (afterMake f array)) := by
  have hmaking : making (s.thread t) = some f := by rw [hthread]; rfl
  have hold := h.stage_of_making hmaking
  refine h.finishMake (fun f' => by rw [hthread]) hmaking (by rw [hthread]; rfl) (by rw [hthread]; rfl) rfl
    rfl rfl (.inr ⟨rfl, rfl⟩) ?_ rfl
  intro tl
  exact (h.list tl).update (by rw [hold]; rfl) rfl

/-- The new fence is inserted, and it is still ahead of the timeline. -/
theorem Wakeup.insert {s : IsyncState} (h : Wakeup s) {t f : Nat} {array : Option ArrayLoop}
    (hthread : s.thread t = .inserting f array) (hahead : s.hasSignaled f = false) :
    Wakeup (((s.setTimeline (s.fence f).timeline { s.timeline (s.fence f).timeline with
        fenceList := (s.timeline (s.fence f).timeline).fenceList ++ [f] }).setFence f
          { s.fence f with stage := .listed }).setThread t (afterMake f array)) := by
  have hmaking : making (s.thread t) = some f := by rw [hthread]; rfl
  have hold := h.stage_of_making hmaking
  refine h.finishMake (fun f' => by rw [hthread]; rfl) hmaking (by rw [hthread]; rfl)
    (by rw [hthread]; rfl) rfl rfl rfl (.inl rfl) ?_ rfl
  intro tl
  have hlist := h.list tl
  -- the fence is new to every list: until now its stage was `making`
  have hout : f ∉ (s.timeline tl).fenceList := by
    intro hmem
    have hlisted := hlist.stage f hmem
    rw [hold] at hlisted
    cases hlisted
  have hne : ∀ f' ∈ (s.timeline tl).fenceList, f' ≠ f := by
    rintro f' hmem rfl
    exact hout hmem
  show ListOk (Function.update s.fence f { s.fence f with stage := .listed }) tl
    (Function.update s.timeline (s.fence f).timeline _ tl)
  by_cases htl : tl = (s.fence f).timeline
  · rw [htl, Function.update_self]
    subst htl
    refine ⟨?_, ?_, ?_, ?_, ?_⟩
    · exact List.nodup_append.2 ⟨hlist.nodup, List.nodup_singleton f, fun f' hmem f'' hf'' =>
        List.mem_singleton.1 hf'' ▸ hne f' hmem⟩
    · intro f' hmem
      by_cases hf : f' = f
      · rw [hf, Function.update_self]
      · rw [Function.update_of_ne hf]
        exact hlist.timeline f' ((List.mem_append.1 hmem).resolve_right (by simpa using hf))
    · intro f' hmem
      by_cases hf : f' = f
      · rw [hf, Function.update_self]
        rfl
      · rw [Function.update_of_ne hf]
        exact hlist.stage f' ((List.mem_append.1 hmem).resolve_right (by simpa using hf))
    · intro f' htimeline hstage
      by_cases hf : f' = f
      · rw [hf]
        exact List.mem_append_right _ List.mem_cons_self
      · rw [Function.update_of_ne hf] at htimeline hstage
        exact List.mem_append_left _ (hlist.listed f' htimeline hstage)
    · intro f' hmem
      by_cases hf : f' = f
      · rw [hf, Function.update_self]
        exact hahead
      · rw [Function.update_of_ne hf]
        exact hlist.ahead f' ((List.mem_append.1 hmem).resolve_right (by simpa using hf))
  · rw [Function.update_of_ne htl]
    refine hlist.shrink (.refl _) (fun f' hmem => Function.update_of_ne (hne f' hmem) _ _) ?_ hlist.ahead
    intro f' htimeline hstage
    by_cases hf : f' = f
    · rw [hf, Function.update_self] at htimeline
      exact absurd htimeline.symm htl
    · rw [Function.update_of_ne hf] at htimeline hstage
      exact hlist.listed f' htimeline hstage

end IsyncState

end Hgsl
