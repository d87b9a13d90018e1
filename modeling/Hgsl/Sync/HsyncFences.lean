import Hgsl.Sync.Hsync

set_option autoImplicit false

/-! # The references of hsync fences

A fence has the reference of the driver while a thread makes it, while it is on the list and while a thread
that swept it has not put it yet, and the one of its file until the user closes that. The invariant `Inv` says so,
and what it says of the threads is there to carry it. Three things break it, all of them in the making of a
fence: the file cannot be made, the timestamp is reached already, or the event is not accepted. -/

namespace Hgsl

namespace Hsync

/-! ## What a thread has in hand -/

def linking : HsyncThread → Option Nat
  | .linking f => some f
  | _ => none

/-- The fences that it has swept. -/
def taking : HsyncThread → List Nat
  | .putting fs => fs
  | _ => []

/-- The fence whose file it has. -/
def making : HsyncThread → Option Nat
  | .linking f | .adding f | .installing f => some f
  | _ => none

def isPutting : HsyncThread → Bool
  | .putting _ => true
  | _ => false

/-- The driver has its reference. -/
def hasDriver : HsyncStage → Bool
  | .making _ | .listed | .taken _ => true
  | .unused | .done => false

/-- The file has its reference. -/
def isOpen : HsyncFile → Bool
  | .made _ | .installed => true
  | .missing | .closed => false

/-! ## Invariant -/

/-- Thread `t` and fence `f` agree. -/
structure PairOk (t : Nat) (th : HsyncThread) (f : Nat) (c : HsyncFence) : Prop where
  linking : c.stage = .making t ↔ linking th = some f
  taking : c.stage = .taken t ↔ f ∈ taking th
  making : c.syncFile = .made t ↔ making th = some f

structure FenceOk (c : HsyncFence) : Prop where
  balanced : c.kref.Balanced
  driver : c.kref.holders.count .driver = (hasDriver c.stage).toNat
  syncFile : c.kref.holders.count .syncFile = (isOpen c.syncFile).toNat
  timeline : c.stage ≠ .unused → c.timeline = true
  puts : c.timelinePuts = c.released
  once : c.stage ≠ .unused → c.released = if c.kref.count = 0 then 1 else 0

/-- The reference of fence `f` to the timeline. -/
structure Held (kref : RefCount HsyncTimelineHolder) (f : Nat) (c : HsyncFence) : Prop where
  used : c.stage ≠ .unused → kref.holders.count (.fence f) + c.released = 1
  unused : c.stage = .unused → kref.holders.count (.fence f) = 0

/-- Fence `f` exists, or its number is still to come. -/
def Numbered (nextFence f : Nat) (c : HsyncFence) : Prop :=
  f < nextFence ∧ c.stage ≠ .unused ∨ nextFence ≤ f ∧ c = {}

structure Inv (s : Hsync) : Prop where
  pair : ∀ t f, PairOk t (s.thread t) f (s.fence f)
  taking : ∀ t, (taking (s.thread t)).Nodup
  fence : ∀ f, FenceOk (s.fence f)
  held : ∀ f, Held s.kref f (s.fence f)
  balanced : s.kref.Balanced
  calls : ∀ t, s.kref.holders.count (.call t) = (isPutting (s.thread t)).toNat
  nodup : s.fenceList.Nodup
  listed : ∀ f, f ∈ s.fenceList ↔ (s.fence f).stage = .listed
  numbered : ∀ f, Numbered s.nextFence f (s.fence f)

theorem Inv.start (lastTs : BitVec 32) : Inv { lastTs := lastTs } where
  pair _ _ := ⟨⟨nofun, nofun⟩, ⟨nofun, nofun⟩, ⟨nofun, nofun⟩⟩
  taking _ := List.nodup_nil
  fence _ := ⟨rfl, rfl, rfl, fun h => absurd rfl h, rfl, fun h => absurd rfl h⟩
  held _ := ⟨fun h => absurd rfl h, fun _ => rfl⟩
  balanced := rfl
  calls _ := rfl
  nodup := List.nodup_nil
  listed _ := ⟨nofun, nofun⟩
  numbered f := .inr ⟨Nat.zero_le f, rfl⟩

variable {s s' : Hsync} {t f : Nat}

theorem Inv.fresh (h : Inv s) (hf : s.nextFence ≤ f) : s.fence f = {} := by
  rcases h.numbered f with ⟨hlt, -⟩ | ⟨-, hfence⟩
  · omega
  · exact hfence

theorem Inv.used (h : Inv s) (hf : f < s.nextFence) : (s.fence f).stage ≠ .unused := by
  rcases h.numbered f with ⟨-, hstage⟩ | ⟨hle, -⟩
  · exact hstage
  · omega

theorem Inv.lt_of_stage (h : Inv s) (hstage : (s.fence f).stage ≠ .unused) : f < s.nextFence := by
  rcases h.numbered f with ⟨hlt, -⟩ | ⟨-, hfence⟩
  · exact hlt
  · rw [hfence] at hstage
    exact absurd rfl hstage

theorem Inv.not_mem_of_fresh (h : Inv s) (hf : s.nextFence ≤ f) : f ∉ s.fenceList := by
  rw [h.listed, h.fresh hf]
  nofun

/-! ## Frame -/

/-- The thread moves on, but not with fence `f`. -/
theorem PairOk.thread {th th' : HsyncThread} {c : HsyncFence} (h : PairOk t th f c)
    (hlinking : Hsync.linking th' = some f ↔ Hsync.linking th = some f)
    (htaking : f ∈ Hsync.taking th' ↔ f ∈ Hsync.taking th)
    (hmaking : Hsync.making th' = some f ↔ Hsync.making th = some f) : PairOk t th' f c where
  linking := h.linking.trans hlinking.symm
  taking := h.taking.trans htaking.symm
  making := h.making.trans hmaking.symm

/-- Fence `f` changes, but not for this thread. -/
theorem PairOk.fence {th : HsyncThread} {c c' : HsyncFence} (h : PairOk t th f c)
    (hlinking : c'.stage = .making t ↔ c.stage = .making t) (htaking : c'.stage = .taken t ↔ c.stage = .taken t)
    (hmaking : c'.syncFile = .made t ↔ c.syncFile = .made t) : PairOk t th f c' where
  linking := hlinking.trans h.linking
  taking := htaking.trans h.taking
  making := hmaking.trans h.making

/-- Fence `f` changes, but where it stands and its file do not. -/
theorem PairOk.of_same {th : HsyncThread} {c c' : HsyncFence} (h : PairOk t th f c) (hstage : c'.stage = c.stage)
    (hfile : c'.syncFile = c.syncFile) : PairOk t th f c' :=
  h.fence (by rw [hstage]) (by rw [hstage]) (by rw [hfile])

/-- A thread moves on and fence `f` changes: what the threads and the fences see of each other. -/
theorem Inv.pair_update (h : Inv s) {th : HsyncThread} {c : HsyncFence} (hpair : PairOk t th f c)
    (hothers : ∀ f', f' ≠ f → PairOk t th f' (s.fence f'))
    (hseen : ∀ t', t' ≠ t → PairOk t' (s.thread t') f c) :
    ∀ t' f', PairOk t' (Function.update s.thread t th t') f' (Function.update s.fence f c f') := by
  refine (Function.forall_update_iff s.thread fun t' th' =>
    ∀ f', PairOk t' th' f' (Function.update s.fence f c f')).2 ⟨?_, ?_⟩
  · exact (Function.forall_update_iff s.fence (PairOk t th)).2 ⟨hpair, hothers⟩
  · intro t' ht
    refine (Function.forall_update_iff s.fence (PairOk t' (s.thread t'))).2 ⟨hseen t' ht, ?_⟩
    exact fun f' _ => h.pair t' f'

theorem Inv.taking_update (h : Inv s) {th : HsyncThread} (hth : (Hsync.taking th).Nodup) :
    ∀ t', (Hsync.taking (Function.update s.thread t th t')).Nodup :=
  (Function.forall_update_iff s.thread fun _ th => (Hsync.taking th).Nodup).2 ⟨hth, fun t' _ => h.taking t'⟩

theorem Inv.fence_update (h : Inv s) {c : HsyncFence} (hc : FenceOk c) :
    ∀ f', FenceOk (Function.update s.fence f c f') :=
  (Function.forall_update_iff s.fence fun _ c => FenceOk c).2 ⟨hc, fun f' _ => h.fence f'⟩

/-- References of others come and go. -/
theorem Inv.held_update (h : Inv s) {c : HsyncFence} {kref : RefCount HsyncTimelineHolder} (hc : Held kref f c)
    (hkref : ∀ f', f' ≠ f → kref.holders.count (.fence f') = s.kref.holders.count (.fence f')) :
    ∀ f', Held kref f' (Function.update s.fence f c f') := by
  refine (Function.forall_update_iff s.fence (Held kref)).2 ⟨hc, ?_⟩
  intro f' hf
  exact ⟨fun hstage => by rw [hkref f' hf]; exact (h.held f').used hstage,
    fun hstage => by rw [hkref f' hf]; exact (h.held f').unused hstage⟩

theorem Inv.calls_update (h : Inv s) {th : HsyncThread} {kref : RefCount HsyncTimelineHolder}
    (ht : kref.holders.count (.call t) = (isPutting th).toNat)
    (hkref : ∀ t', t' ≠ t → kref.holders.count (.call t') = s.kref.holders.count (.call t')) :
    ∀ t', kref.holders.count (.call t') = (isPutting (Function.update s.thread t th t')).toNat := by
  intro t'
  by_cases heq : t' = t
  · subst heq
    rw [Function.update_self, ht]
  · rw [Function.update_of_ne heq, hkref t' heq, h.calls t']

theorem Inv.listed_update (h : Inv s) {c : HsyncFence} (hc : f ∈ s.fenceList ↔ c.stage = .listed) :
    ∀ f', f' ∈ s.fenceList ↔ (Function.update s.fence f c f').stage = .listed :=
  (Function.forall_update_iff s.fence fun f' c => f' ∈ s.fenceList ↔ c.stage = .listed).2
    ⟨hc, fun f' _ => h.listed f'⟩

theorem Inv.numbered_update (h : Inv s) {c : HsyncFence} (hf : f < s.nextFence) (hc : c.stage ≠ .unused) :
    ∀ f', Numbered s.nextFence f' (Function.update s.fence f c f') :=
  (Function.forall_update_iff s.fence (Numbered s.nextFence)).2 ⟨.inl ⟨hf, hc⟩, fun f' _ => h.numbered f'⟩

/-! ## A put -/

/-- The fence after a put -/
def dropped (c : HsyncFence) (holder : HsyncHolder) : HsyncFence :=
  if (c.kref.put holder).count = 0 then
    { c with kref := c.kref.put holder, released := c.released + 1, timelinePuts := c.timelinePuts + 1 }
  else { c with kref := c.kref.put holder }

/-- The timeline after it -/
def droppedKref (kref : RefCount HsyncTimelineHolder) (f : Nat) (c : HsyncFence) (holder : HsyncHolder) :
    RefCount HsyncTimelineHolder :=
  if (c.kref.put holder).count = 0 then kref.put (.fence f) else kref

theorem putFence_setFence {c : HsyncFence} {holder : HsyncHolder} (htimeline : c.timeline = true) :
    (s.setFence f c).putFence f holder =
      { s.setFence f (dropped c holder) with kref := droppedKref s.kref f c holder } := by
  unfold putFence dropped droppedKref
  simp only [setFence, Function.update_self, Function.update_idem, htimeline, if_true]
  split_ifs <;> rfl

@[simp] theorem dropped_stage (c : HsyncFence) (holder : HsyncHolder) : (dropped c holder).stage = c.stage := by
  unfold dropped
  split_ifs <;> rfl

@[simp] theorem dropped_syncFile (c : HsyncFence) (holder : HsyncHolder) :
    (dropped c holder).syncFile = c.syncFile := by
  unfold dropped
  split_ifs <;> rfl

@[simp] theorem dropped_kref (c : HsyncFence) (holder : HsyncHolder) :
    (dropped c holder).kref = c.kref.put holder := by
  unfold dropped
  split_ifs <;> rfl

/-- A fence that has lost the reason for a reference, but not the reference. -/
structure Owes (c : HsyncFence) (holder : HsyncHolder) : Prop where
  used : c.stage ≠ .unused
  balanced : c.kref.Balanced
  mem : holder ∈ c.kref.holders
  driver : (c.kref.holders.erase holder).count .driver = (hasDriver c.stage).toNat
  syncFile : (c.kref.holders.erase holder).count .syncFile = (isOpen c.syncFile).toNat
  timeline : c.timeline = true
  puts : c.timelinePuts = c.released
  released : c.released = 0

theorem Owes.ok {c : HsyncFence} {holder : HsyncHolder} (h : Owes c holder) : FenceOk (dropped c holder) where
  balanced := by
    rw [dropped_kref]
    exact h.balanced.put h.mem
  driver := by
    rw [dropped_kref, dropped_stage]
    exact h.driver
  syncFile := by
    rw [dropped_kref, dropped_syncFile]
    exact h.syncFile
  timeline := by
    intro _
    unfold dropped
    split_ifs <;> exact h.timeline
  puts := by
    unfold dropped
    split_ifs
    · simp [h.puts]
    · exact h.puts
  once := by
    intro _
    unfold dropped
    split_ifs with hzero
    · simp [h.released]
    · exact h.released

/-- The last put takes the reference to the timeline along. -/
theorem Owes.held {c : HsyncFence} {holder : HsyncHolder} (h : Owes c holder) {kref : RefCount HsyncTimelineHolder}
    (hheld : kref.holders.count (.fence f) = 1) : Held (droppedKref kref f c holder) f (dropped c holder) := by
  unfold droppedKref dropped
  by_cases hzero : (c.kref.put holder).count = 0
  · rw [if_pos hzero, if_pos hzero]
    have hcount : (kref.put (.fence f)).holders.count (.fence f) = 0 := by
      simp [RefCount.put, List.count_erase_self, hheld]
    exact ⟨fun _ => by simp [hcount, h.released], fun hstage => absurd hstage h.used⟩
  · rw [if_neg hzero, if_neg hzero]
    exact ⟨fun _ => by simp [hheld, h.released], fun hstage => absurd hstage h.used⟩

theorem droppedKref_count_of_ne {kref : RefCount HsyncTimelineHolder} {c : HsyncFence} {holder : HsyncHolder}
    {other : HsyncTimelineHolder} (hne : other ≠ .fence f) :
    (droppedKref kref f c holder).holders.count other = kref.holders.count other := by
  unfold droppedKref
  split_ifs
  · exact RefCount.count_put_of_ne hne
  · rfl

theorem droppedKref_balanced {kref : RefCount HsyncTimelineHolder} {c : HsyncFence} {holder : HsyncHolder}
    (hkref : kref.Balanced) (hheld : kref.holders.count (.fence f) = 1) :
    (droppedKref kref f c holder).Balanced := by
  unfold droppedKref
  split_ifs
  · exact hkref.put (List.count_pos_iff.1 (by omega))
  · exact hkref

/-- A fence with a reference has not been released. -/
theorem Inv.alive (h : Inv s) {holder : HsyncHolder} (hstage : (s.fence f).stage ≠ .unused)
    (hmem : holder ∈ (s.fence f).kref.holders) :
    (s.fence f).released = 0 ∧ s.kref.holders.count (.fence f) = 1 := by
  have hcount := (h.fence f).balanced.count_ne_zero hmem
  have hreleased := (h.fence f).once hstage
  rw [if_neg hcount] at hreleased
  have hheld := (h.held f).used hstage
  exact ⟨hreleased, by omega⟩

/-! ## The steps -/

/-- A thread moves on and has the same in hand as before. -/
theorem Inv.move (h : Inv s) {old th : HsyncThread} (hold : s.thread t = old)
    (hlinking : Hsync.linking th = Hsync.linking old) (htaking : Hsync.taking th = Hsync.taking old)
    (hmaking : Hsync.making th = Hsync.making old) (hputting : isPutting th = isPutting old) :
    Inv (s.setThread t th) := by
  subst hold
  refine ⟨?_, h.taking_update (by rw [htaking]; exact h.taking t), h.fence, h.held, h.balanced,
    h.calls_update (by rw [hputting]; exact h.calls t) (fun _ _ => rfl), h.nodup, h.listed, h.numbered⟩
  refine (Function.forall_update_iff s.thread fun t' th' => ∀ f', PairOk t' th' f' (s.fence f')).2 ⟨?_, ?_⟩
  · intro f'
    exact (h.pair t f').thread (by rw [hlinking]) (by rw [htaking]) (by rw [hmaking])
  · exact fun t' _ => h.pair t'

/-- The fence that `hgsl_hsync_fence_create` has made when it takes the lock -/
def newFence (t : Nat) (ts : BitVec 32) : HsyncFence :=
  { ts := ts, kref := (RefCount.init HsyncHolder.driver).get .syncFile, timeline := true, syncFile := .made t,
    stage := .making t }

theorem Inv.create (h : Inv s) (hold : s.thread t = .idle) (ts : BitVec 32) :
    Inv (({ s with kref := s.kref.get (.fence s.nextFence) }.makeFence (newFence t ts)).setThread t
      (.linking s.nextFence)) := by
  have hfresh : s.fence s.nextFence = {} := h.fresh le_rfl
  have hold' : ∀ f', PairOk t .idle f' (s.fence f') := fun f' => hold ▸ h.pair t f'
  have hheld : Held (s.kref.get (.fence s.nextFence)) s.nextFence (newFence t ts) := by
    have hzero := (h.held s.nextFence).unused (by rw [hfresh])
    exact ⟨fun _ => by simp [newFence, RefCount.get, hzero], by intro h; cases h⟩
  have hothers : ∀ holder : HsyncTimelineHolder, holder ≠ .fence s.nextFence →
      (s.kref.get (.fence s.nextFence)).holders.count holder = s.kref.holders.count holder :=
    fun _ => RefCount.count_get_of_ne
  have hcalls := h.calls t
  rw [hold] at hcalls
  refine ⟨h.pair_update ⟨?_, ?_, ?_⟩ ?_ ?_, h.taking_update List.nodup_nil, h.fence_update ?_,
    h.held_update hheld (fun f' hf => hothers _ (by simpa using hf)), h.balanced.get _,
    h.calls_update ((hothers (.call t) (by simp)).trans hcalls) (fun t' _ => hothers (.call t') (by simp)), h.nodup,
    h.listed_update ?_, ?_⟩
  · simp [newFence, Hsync.linking]
  · simp [newFence, Hsync.taking]
  · simp [newFence, Hsync.making]
  · intro f' hf
    exact (hold' f').thread (by simp [Hsync.linking, hf.symm]) Iff.rfl (by simp [Hsync.making, hf.symm])
  · intro t' ht
    have hpair := h.pair t' s.nextFence
    rw [hfresh] at hpair
    exact hpair.fence (by simp [newFence, ht.symm]) (by simp [newFence]) (by simp [newFence, ht.symm])
  · exact ⟨rfl, rfl, rfl, fun _ => rfl, rfl, fun _ => rfl⟩
  · simp [h.not_mem_of_fresh le_rfl, newFence]
  · refine (Function.forall_update_iff s.fence (Numbered (s.nextFence + 1))).2
      ⟨.inl ⟨Nat.lt_succ_self _, by intro h; cases h⟩, ?_⟩
    intro f' hf
    rcases h.numbered f' with ⟨hlt, hstage⟩ | ⟨hle, hfence⟩
    · exact .inl ⟨Nat.lt_succ_of_lt hlt, hstage⟩
    · exact .inr ⟨Nat.lt_of_le_of_ne hle hf.symm, hfence⟩

/-- A fence that is not signalled is linked. -/
theorem Inv.link (h : Inv s) (hold : s.thread t = .linking f) :
    Inv (({ s with fenceList := s.fenceList ++ [f] }.setFence f { s.fence f with stage := .listed }).setThread t
      (.adding f)) := by
  have hold' : ∀ f', PairOk t (.linking f) f' (s.fence f') := fun f' => hold ▸ h.pair t f'
  have hstage : (s.fence f).stage = .making t := (hold' f).linking.2 rfl
  have hused : (s.fence f).stage ≠ .unused := by simp [hstage]
  have hnot : f ∉ s.fenceList := by simp [h.listed, hstage]
  have hok := h.fence f
  have hfile := (hold' f).making
  refine ⟨h.pair_update ⟨?_, ?_, ?_⟩ ?_ ?_, h.taking_update List.nodup_nil, h.fence_update ?_, h.held_update ?_ ?_,
    h.balanced, h.calls_update ?_ ?_, ?_, ?_, h.numbered_update (h.lt_of_stage hused) nofun⟩
  · simp [Hsync.linking]
  · simp [Hsync.taking]
  · simpa [Hsync.making] using hfile
  · intro f' hf
    exact (hold' f').thread (by simp [Hsync.linking, hf.symm]) Iff.rfl Iff.rfl
  · intro t' ht
    exact (h.pair t' f).fence (by simp [hstage, ht.symm]) (by simp [hstage]) Iff.rfl
  · exact ⟨hok.balanced, by simpa [hstage, hasDriver] using hok.driver, hok.syncFile, fun _ => hok.timeline hused,
      hok.puts, fun _ => hok.once hused⟩
  · exact ⟨fun _ => (h.held f).used hused, nofun⟩
  · exact fun _ _ => rfl
  · have hcalls := h.calls t
    rw [hold] at hcalls
    exact hcalls
  · exact fun _ _ => rfl
  · exact List.nodup_append.2 ⟨h.nodup, List.nodup_singleton f, by
      intro a ha b hb
      rw [List.mem_singleton.1 hb]
      exact fun heq => hnot (heq ▸ ha)⟩
  · refine (Function.forall_update_iff s.fence fun f' c => f' ∈ s.fenceList ++ [f] ↔ c.stage = .listed).2 ⟨?_, ?_⟩
    · simp
    · intro f' hf
      rw [← h.listed f']
      simp [hf]

theorem Inv.install (h : Inv s) (hold : s.thread t = .installing f) :
    Inv ((s.setFence f { s.fence f with syncFile := .installed }).setThread t .idle) := by
  have hold' : ∀ f', PairOk t (.installing f) f' (s.fence f') := fun f' => hold ▸ h.pair t f'
  have hfile : (s.fence f).syncFile = .made t := (hold' f).making.2 rfl
  have hused : (s.fence f).stage ≠ .unused := by
    intro hstage
    rcases h.numbered f with ⟨-, hne⟩ | ⟨-, hfence⟩
    · exact hne hstage
    · rw [hfence] at hfile
      cases hfile
  have hok := h.fence f
  refine ⟨h.pair_update ⟨(hold' f).linking, (hold' f).taking, ?_⟩ ?_ ?_, h.taking_update List.nodup_nil,
    h.fence_update ?_, h.held_update ⟨(h.held f).used, (h.held f).unused⟩ (fun _ _ => rfl), h.balanced,
    h.calls_update ?_ (fun _ _ => rfl), h.nodup, h.listed_update (h.listed f),
    h.numbered_update (h.lt_of_stage hused) hused⟩
  · simp [Hsync.making]
  · intro f' hf
    exact (hold' f').thread Iff.rfl Iff.rfl (by simp [Hsync.making, hf.symm])
  · intro t' ht
    exact (h.pair t' f).fence Iff.rfl Iff.rfl (by simp [hfile, ht.symm])
  · exact ⟨hok.balanced, hok.driver, by simpa [hfile, isOpen] using hok.syncFile, hok.timeline, hok.puts, hok.once⟩
  · have hcalls := h.calls t
    rw [hold] at hcalls
    exact hcalls

/-- A put by a thread that moves on, or by a user: `c` is the fence when it has lost the reason for its
    reference. -/
theorem Inv.put (h : Inv s) {c : HsyncFence} {holder : HsyncHolder} {th : HsyncThread} (howes : Owes c holder)
    (hheld : s.kref.holders.count (.fence f) = 1) (hpair : PairOk t th f c)
    (hothers : ∀ f', f' ≠ f → PairOk t th f' (s.fence f'))
    (hseen : ∀ t', t' ≠ t → PairOk t' (s.thread t') f c) (htaking : (Hsync.taking th).Nodup)
    (hputting : isPutting th = isPutting (s.thread t)) (hlisted : f ∈ s.fenceList ↔ c.stage = .listed)
    (hlt : f < s.nextFence) : Inv (((s.setFence f c).putFence f holder).setThread t th) := by
  have hcalls : ∀ t', (droppedKref s.kref f c holder).holders.count (.call t') = s.kref.holders.count (.call t') :=
    fun _ => droppedKref_count_of_ne nofun
  rw [putFence_setFence howes.timeline]
  refine ⟨h.pair_update (hpair.of_same (by simp) (by simp)) hothers
      (fun t' ht => (hseen t' ht).of_same (by simp) (by simp)),
    h.taking_update htaking, h.fence_update howes.ok, h.held_update (howes.held hheld) ?_,
    droppedKref_balanced h.balanced hheld,
    h.calls_update ((hcalls t).trans (by rw [h.calls t, hputting])) (fun t' _ => hcalls t'), h.nodup,
    h.listed_update (by simpa using hlisted), h.numbered_update hlt (by simpa using howes.used)⟩
  intro f' hf
  exact droppedKref_count_of_ne (by simpa using hf)

theorem Inv.putTaken (h : Inv s) {fs : List Nat} (hold : s.thread t = .putting (f :: fs)) :
    Inv ((s.putTaken f).setThread t (.putting fs)) := by
  have hold' : ∀ f', PairOk t (.putting (f :: fs)) f' (s.fence f') := fun f' => hold ▸ h.pair t f'
  have hstage : (s.fence f).stage = .taken t := (hold' f).taking.2 (List.mem_cons_self ..)
  have hused : (s.fence f).stage ≠ .unused := by simp [hstage]
  have hok := h.fence f
  have hdriver : (s.fence f).kref.holders.count .driver = 1 := by
    rw [hok.driver, hstage]
    rfl
  have hmem : HsyncHolder.driver ∈ (s.fence f).kref.holders := List.count_pos_iff.1 (by omega)
  obtain ⟨hreleased, hheld⟩ := h.alive hused hmem
  have htaking := h.taking t
  rw [hold] at htaking
  obtain ⟨hnot, hnodup⟩ := List.nodup_cons.1 htaking
  refine h.put ⟨nofun, hok.balanced, hmem, ?_, ?_, hok.timeline hused, hok.puts, hreleased⟩ hheld
    ⟨?_, ?_, ?_⟩ ?_ ?_ hnodup ?_ ?_ (h.lt_of_stage hused)
  · simp [List.count_erase_self, hdriver, hasDriver]
  · rw [List.count_erase_of_ne (by simp)]
    exact hok.syncFile
  · simp [Hsync.linking]
  · simpa [Hsync.taking] using hnot
  · exact (hold' f).making
  · intro f' hf
    exact (hold' f').thread Iff.rfl (by simp [Hsync.taking, hf]) Iff.rfl
  · intro t' ht
    exact (h.pair t' f).fence (by simp [hstage]) (by simp [hstage, ht.symm]) Iff.rfl
  · rw [hold]
    rfl
  · simp [h.listed, hstage]

/-- `hgsl_hsync_timeline_signal` returns. -/
theorem Inv.leave (h : Inv s) (hold : s.thread t = .putting []) :
    Inv ((s.putTimeline (.call t)).setThread t .idle) := by
  have hcalls := h.calls t
  rw [hold] at hcalls
  have hmem : HsyncTimelineHolder.call t ∈ s.kref.holders :=
    List.count_pos_iff.1 (by rw [hcalls]; exact Nat.zero_lt_one)
  have hothers : ∀ holder : HsyncTimelineHolder, holder ≠ .call t →
      (s.kref.put (.call t)).holders.count holder = s.kref.holders.count holder :=
    fun _ => RefCount.count_put_of_ne
  refine ⟨?_, h.taking_update List.nodup_nil, h.fence, ?_, h.balanced.put hmem, h.calls_update ?_ ?_, h.nodup, h.listed,
    h.numbered⟩
  · refine (Function.forall_update_iff s.thread fun t' th' => ∀ f', PairOk t' th' f' (s.fence f')).2 ⟨?_, ?_⟩
    · intro f'
      have hpair := h.pair t f'
      rw [hold] at hpair
      exact hpair.thread Iff.rfl Iff.rfl Iff.rfl
    · exact fun t' _ => h.pair t'
  · intro f'
    have hsame := hothers (.fence f') nofun
    exact ⟨fun hstage => hsame.symm ▸ (h.held f').used hstage, fun hstage => hsame.symm ▸ (h.held f').unused hstage⟩
  · show List.count _ (s.kref.put (.call t)).holders = 0
    simp [RefCount.put, List.count_erase_self, hcalls, isPutting]
  · intro t' ht
    exact hothers (.call t') (by simpa using ht)

theorem Inv.used_of_file (h : Inv s) (hfile : (s.fence f).syncFile ≠ .missing) : (s.fence f).stage ≠ .unused := by
  rcases h.numbered f with ⟨-, hne⟩ | ⟨-, hfence⟩
  · exact hne
  · rw [hfence] at hfile
    exact absurd rfl hfile

theorem setThread_self : s.setThread t (s.thread t) = s := by
  simp [setThread]

theorem Inv.close (h : Inv s) (hfile : (s.fence f).syncFile = .installed) :
    Inv ((s.setFence f { s.fence f with syncFile := .closed }).putFence f .syncFile) := by
  have hused : (s.fence f).stage ≠ .unused := h.used_of_file (by simp [hfile])
  have hok := h.fence f
  have hcount : (s.fence f).kref.holders.count .syncFile = 1 := by
    rw [hok.syncFile, hfile]
    rfl
  have hmem : HsyncHolder.syncFile ∈ (s.fence f).kref.holders := List.count_pos_iff.1 (by omega)
  obtain ⟨hreleased, hheld⟩ := h.alive hused hmem
  have howes : Owes { s.fence f with syncFile := .closed } .syncFile := by
    refine ⟨hused, hok.balanced, hmem, ?_, ?_, hok.timeline hused, hok.puts, hreleased⟩
    · rw [List.count_erase_of_ne (by simp)]
      exact hok.driver
    · simp [List.count_erase_self, hcount, isOpen]
  have hseen : ∀ t', PairOk t' (s.thread t') f { s.fence f with syncFile := .closed } := by
    intro t'
    exact (h.pair t' f).fence Iff.rfl Iff.rfl (by simp [hfile])
  -- a user closes; take any thread for one that stays where it is
  have hput := h.put howes hheld (hseen 0) (fun f' _ => h.pair 0 f') (fun t' _ => hseen t') (h.taking 0) rfl
    (h.listed f) (h.lt_of_stage hused)
  have hthread : ((s.setFence f { s.fence f with syncFile := .closed }).putFence f .syncFile).thread 0 =
      s.thread 0 := by
    rw [putFence_setFence howes.timeline]
    rfl
  rwa [← hthread, setThread_self] at hput

theorem Inv.poll (h : Inv s) (hfile : (s.fence f).syncFile = .installed) :
    Inv (s.setFence f { s.fence f with signalled := true }) := by
  have hused : (s.fence f).stage ≠ .unused := h.used_of_file (by simp [hfile])
  have hok := h.fence f
  refine ⟨?_, h.taking, h.fence_update ⟨hok.balanced, hok.driver, hok.syncFile, hok.timeline, hok.puts, hok.once⟩,
    h.held_update ⟨(h.held f).used, (h.held f).unused⟩ (fun _ _ => rfl), h.balanced, h.calls, h.nodup,
    h.listed_update (h.listed f), h.numbered_update (h.lt_of_stage hused) hused⟩
  intro t'
  refine (Function.forall_update_iff s.fence (PairOk t' (s.thread t'))).2 ⟨(h.pair t' f).of_same rfl rfl, ?_⟩
  exact fun f' _ => h.pair t' f'

theorem Inv.putContext (h : Inv s) (hmem : HsyncTimelineHolder.context ∈ s.kref.holders) :
    Inv (s.putTimeline .context) := by
  have hothers : ∀ holder : HsyncTimelineHolder, holder ≠ .context →
      (s.kref.put .context).holders.count holder = s.kref.holders.count holder :=
    fun _ => RefCount.count_put_of_ne
  refine ⟨h.pair, h.taking, h.fence, ?_, h.balanced.put hmem, ?_, h.nodup, h.listed, h.numbered⟩
  · intro f'
    have hsame := hothers (.fence f') nofun
    exact ⟨fun hstage => hsame.symm ▸ (h.held f').used hstage, fun hstage => hsame.symm ▸ (h.held f').unused hstage⟩
  · intro t'
    exact (hothers (.call t') nofun).trans (h.calls t')

/-! ### A sweep -/

section Sweep

variable {ts : BitVec 32}

theorem swept_subset (hf : f ∈ s.swept ts) : f ∈ s.fenceList := by
  unfold swept at hf
  split_ifs at hf
  · cases hf
  · exact List.mem_of_mem_filter hf

theorem swept_nodup (h : s.fenceList.Nodup) : (s.swept ts).Nodup := by
  unfold swept
  split_ifs
  · exact List.nodup_nil
  · exact h.filter _

theorem sweep_fence (t : Nat) (f : Nat) :
    (s.sweep t ts).fence f =
      if f ∈ s.swept ts then { s.fence f with signalled := true, stage := .taken t } else s.fence f := by
  unfold sweep
  split_ifs with hge hmem
  · simp [swept, hge] at hmem
  · rfl
  · simp [*]
  · simp [*]

theorem mem_sweep (t : Nat) : f ∈ (s.sweep t ts).fenceList ↔ f ∈ s.fenceList ∧ f ∉ s.swept ts := by
  unfold sweep swept
  split_ifs
  · simp
  · simp only [List.mem_filter, Bool.not_eq_true', not_and, Bool.not_eq_true]
    constructor
    · rintro ⟨hmem, hnot⟩
      exact ⟨hmem, fun _ => hnot⟩
    · rintro ⟨hmem, hnot⟩
      exact ⟨hmem, hnot hmem⟩

theorem sweep_nodup (t : Nat) (h : s.fenceList.Nodup) : (s.sweep t ts).fenceList.Nodup := by
  unfold sweep
  split_ifs
  · exact h
  · exact h.filter _

theorem sweep_same (t : Nat) : (s.sweep t ts).thread = s.thread ∧ (s.sweep t ts).kref = s.kref ∧
    (s.sweep t ts).nextFence = s.nextFence := by
  unfold sweep
  split_ifs <;> exact ⟨rfl, rfl, rfl⟩

/-- The swept fences change from the list to the thread. -/
theorem Inv.signal (h : Inv s) (hold : s.thread t = .idle) :
    Inv (({ s with kref := s.kref.get (.call t) }.sweep t ts).setThread t (.putting (s.swept ts))) := by
  have hsame : (({ s with kref := s.kref.get (.call t) } : Hsync).sweep t ts).thread = s.thread ∧
      (({ s with kref := s.kref.get (.call t) } : Hsync).sweep t ts).kref = s.kref.get (.call t) ∧
      (({ s with kref := s.kref.get (.call t) } : Hsync).sweep t ts).nextFence = s.nextFence := sweep_same t
  obtain ⟨hthread, hkref, hnext⟩ := hsame
  have hfence : ∀ f, (({ s with kref := s.kref.get (.call t) } : Hsync).sweep t ts).fence f =
      if f ∈ s.swept ts then { s.fence f with signalled := true, stage := .taken t } else s.fence f := sweep_fence t
  have hlistedStage : ∀ f ∈ s.swept ts, (s.fence f).stage = .listed :=
    fun f hf => (h.listed f).1 (swept_subset hf)
  have hcalls := h.calls t
  rw [hold] at hcalls
  have hothers : ∀ holder : HsyncTimelineHolder, holder ≠ .call t →
      (s.kref.get (.call t)).holders.count holder = s.kref.holders.count holder :=
    fun _ => RefCount.count_get_of_ne
  have hmem : ∀ f, f ∈ (({ s with kref := s.kref.get (.call t) } : Hsync).sweep t ts).fenceList ↔
      f ∈ s.fenceList ∧ f ∉ s.swept ts := fun _ => mem_sweep t
  have hnodup : (({ s with kref := s.kref.get (.call t) } : Hsync).sweep t ts).fenceList.Nodup := sweep_nodup t h.nodup
  -- from here on these are all that counts of the swept state
  generalize ({ s with kref := s.kref.get (.call t) } : Hsync).sweep t ts = s₁ at *
  refine ⟨?_, ?_, ?_, ?_, ?_, ?_, hnodup, ?_, ?_⟩
  · show ∀ t' f', PairOk t' (Function.update s₁.thread t (.putting (s.swept ts)) t') f' (s₁.fence f')
    rw [hthread]
    refine (Function.forall_update_iff s.thread fun t' th' => ∀ f', PairOk t' th' f' (s₁.fence f')).2 ⟨?_, ?_⟩
    · intro f'
      have hpair := h.pair t f'
      rw [hold] at hpair
      rw [hfence]
      split_ifs with hf
      · exact ⟨by simp [Hsync.linking], by simp [Hsync.taking, hf], hpair.making⟩
      · exact hpair.thread Iff.rfl (by simp [Hsync.taking, hf]) Iff.rfl
    · intro t' ht f'
      rw [hfence]
      split_ifs with hf
      · exact (h.pair t' f').fence (by simp [hlistedStage f' hf]) (by simp [hlistedStage f' hf, ht.symm]) Iff.rfl
      · exact h.pair t' f'
  · show ∀ t', (Hsync.taking (Function.update s₁.thread t (.putting (s.swept ts)) t')).Nodup
    rw [hthread]
    exact h.taking_update (swept_nodup h.nodup)
  · show ∀ f', FenceOk (s₁.fence f')
    intro f'
    rw [hfence]
    split_ifs with hf
    · have hok := h.fence f'
      have hused : (s.fence f').stage ≠ .unused := by simp [hlistedStage f' hf]
      exact ⟨hok.balanced, by simpa [hlistedStage f' hf, hasDriver] using hok.driver, hok.syncFile,
        fun _ => hok.timeline hused, hok.puts, fun _ => hok.once hused⟩
    · exact h.fence f'
  · show ∀ f', Held s₁.kref f' (s₁.fence f')
    intro f'
    rw [hkref, hfence]
    have hsame := hothers (.fence f') nofun
    split_ifs with hf
    · have hused : (s.fence f').stage ≠ .unused := by simp [hlistedStage f' hf]
      exact ⟨fun _ => hsame.symm ▸ (h.held f').used hused, nofun⟩
    · exact ⟨fun hstage => hsame.symm ▸ (h.held f').used hstage, fun hstage => hsame.symm ▸ (h.held f').unused hstage⟩
  · show s₁.kref.Balanced
    rw [hkref]
    exact h.balanced.get _
  · show ∀ t', s₁.kref.holders.count (.call t') =
      (isPutting (Function.update s₁.thread t (.putting (s.swept ts)) t')).toNat
    rw [hkref, hthread]
    apply h.calls_update
    · simp [RefCount.get, hcalls, isPutting]
    · intro t' ht
      exact hothers (.call t') (by simpa using ht)
  · intro f'
    show f' ∈ s₁.fenceList ↔ (s₁.fence f').stage = .listed
    rw [hmem, hfence]
    split_ifs with hf
    · simp [hf]
    · simp [hf, h.listed f']
  · intro f'
    show Numbered s₁.nextFence f' (s₁.fence f')
    rw [hnext, hfence]
    split_ifs with hf
    · have hused : (s.fence f').stage ≠ .unused := by simp [hlistedStage f' hf]
      exact .inl ⟨h.lt_of_stage hused, nofun⟩
    · exact h.numbered f'

end Sweep

/-! ## Runs -/

/-- The steps that keep the balance: the file of a new fence can be made, its timestamp is not reached when it is
    to be linked, and its event is accepted. -/
def keepsBalance (s : Hsync) : HsyncAct → Bool
  | .fenceCreate _ _ outcome => outcome ≠ .noSyncFile || s.kref.count = 0
  | .link t =>
    match s.thread t with
    | .linking f => !isSignaledLocked s.lastTs (s.fence f)
    | _ => true
  | .addEvent _ ok => ok
  | _ => true

theorem get_put_self (kref : RefCount HsyncTimelineHolder) (holder : HsyncTimelineHolder) :
    (kref.get holder).put holder = kref := by
  simp [RefCount.get, RefCount.put]

/-- An attempt that comes to nothing before the lock leaves all as it was. -/
theorem create_failed {ts : BitVec 32} {outcome : HsyncCreate} (hok : s.keepsBalance (.fenceCreate t ts outcome) = true)
    (hstep : s.step (.fenceCreate t ts outcome) = some s') : s' = s ∨ s'.thread t = .linking s.nextFence ∧
      s' = ({ s with kref := s.kref.get (.fence s.nextFence) }.makeFence (newFence t ts)).setThread t
        (.linking s.nextFence) ∧ s.thread t = .idle := by
  unfold step at hstep
  cases hold : s.thread t with
  | idle =>
      simp only [hold] at hstep
      cases outcome with
      | noFd => exact .inl (Option.some.inj hstep).symm
      | noFence =>
          cases hget : s.kref.getUnlessZero (.call t) with
          | none =>
              simp only [hget] at hstep
              exact .inl (Option.some.inj hstep).symm
          | some kref =>
              simp only [hget] at hstep
              obtain ⟨-, rfl⟩ := RefCount.getUnlessZero_eq_some.1 hget
              rw [get_put_self] at hstep
              exact .inl (Option.some.inj hstep).symm
      | noSyncFile =>
          have hzero : s.kref.count = 0 := by simpa [keepsBalance] using hok
          have hget : s.kref.getUnlessZero (.call t) = none := RefCount.getUnlessZero_eq_none.2 hzero
          simp only [hget] at hstep
          exact .inl (Option.some.inj hstep).symm
      | ok =>
          cases hget : s.kref.getUnlessZero (.fence s.nextFence) with
          | none =>
              simp only [hget] at hstep
              exact .inl (Option.some.inj hstep).symm
          | some kref =>
              simp only [hget] at hstep
              obtain ⟨-, rfl⟩ := RefCount.getUnlessZero_eq_some.1 hget
              obtain rfl := Option.some.inj hstep
              exact .inr ⟨by simp [setThread], rfl, rfl⟩
  | linking f => simp [hold] at hstep
  | adding f => simp [hold] at hstep
  | installing f => simp [hold] at hstep
  | putting fs => simp [hold] at hstep

/-- A step that keeps the balance. -/
theorem Inv.step (h : Inv s) {a : HsyncAct} (hok : s.keepsBalance a = true) (hstep : s.step a = some s') : Inv s' := by
  cases a with
  | fenceCreate t ts outcome =>
      rcases create_failed hok hstep with rfl | ⟨-, rfl, hold⟩
      · exact h
      · exact h.create hold ts
  | link t =>
      cases hold : s.thread t with
      | linking f =>
          simp only [Hsync.step, hold] at hstep
          have hunsignaled : isSignaledLocked s.lastTs (s.fence f) = false := by simpa [keepsBalance, hold] using hok
          rw [hunsignaled, if_neg (by simp)] at hstep
          obtain rfl := Option.some.inj hstep
          exact h.link hold
      | idle => simp [Hsync.step, hold] at hstep
      | adding f => simp [Hsync.step, hold] at hstep
      | installing f => simp [Hsync.step, hold] at hstep
      | putting fs => simp [Hsync.step, hold] at hstep
  | addEvent t ok =>
      cases hold : s.thread t with
      | adding f =>
          obtain rfl : ok = true := hok
          simp only [Hsync.step, hold, if_true] at hstep
          obtain rfl := Option.some.inj hstep
          exact h.move hold rfl rfl rfl rfl
      | idle => simp [Hsync.step, hold] at hstep
      | linking f => simp [Hsync.step, hold] at hstep
      | installing f => simp [Hsync.step, hold] at hstep
      | putting fs => simp [Hsync.step, hold] at hstep
  | install t =>
      cases hold : s.thread t with
      | installing f =>
          simp only [Hsync.step, hold] at hstep
          obtain rfl := Option.some.inj hstep
          exact h.install hold
      | idle => simp [Hsync.step, hold] at hstep
      | linking f => simp [Hsync.step, hold] at hstep
      | adding f => simp [Hsync.step, hold] at hstep
      | putting fs => simp [Hsync.step, hold] at hstep
  | signal t ts =>
      cases hold : s.thread t with
      | idle =>
          cases hget : s.kref.getUnlessZero (.call t) with
          | none =>
              simp only [Hsync.step, hold, hget] at hstep
              obtain rfl := Option.some.inj hstep
              exact h
          | some kref =>
              simp only [Hsync.step, hold, hget] at hstep
              obtain ⟨-, rfl⟩ := RefCount.getUnlessZero_eq_some.1 hget
              obtain rfl := Option.some.inj hstep
              exact h.signal hold
      | linking f => simp [Hsync.step, hold] at hstep
      | adding f => simp [Hsync.step, hold] at hstep
      | installing f => simp [Hsync.step, hold] at hstep
      | putting fs => simp [Hsync.step, hold] at hstep
  | put t =>
      cases hold : s.thread t with
      | putting fs =>
          cases fs with
          | nil =>
              simp only [Hsync.step, hold] at hstep
              obtain rfl := Option.some.inj hstep
              exact h.leave hold
          | cons f fs =>
              simp only [Hsync.step, hold] at hstep
              obtain rfl := Option.some.inj hstep
              exact h.putTaken hold
      | idle => simp [Hsync.step, hold] at hstep
      | linking f => simp [Hsync.step, hold] at hstep
      | adding f => simp [Hsync.step, hold] at hstep
      | installing f => simp [Hsync.step, hold] at hstep
  | close f =>
      simp only [Hsync.step] at hstep
      split_ifs at hstep with hfile
      obtain rfl := Option.some.inj hstep
      exact h.close hfile
  | poll f =>
      simp only [Hsync.step] at hstep
      split_ifs at hstep with hfile
      obtain rfl := Option.some.inj hstep
      exact h.poll hfile.1
  | putContext =>
      simp only [Hsync.step] at hstep
      split_ifs at hstep with hmem
      obtain rfl := Option.some.inj hstep
      exact h.putContext hmem

/-! ## The balance -/

/-- Thread `th` has fence `f` in hand, to link it or to put it. -/
def InHand (th : HsyncThread) (f : Nat) : Prop := linking th = some f ∨ f ∈ taking th

/-- The references of all fences and of the timeline are in balance. -/
structure FencesBalanced (s : Hsync) : Prop where
  counted : ∀ f, (s.fence f).kref.count = (s.fence f).kref.holders.length
  /-- on the list a fence has one reference of the driver -/
  listed : ∀ f ∈ s.fenceList, (s.fence f).kref.holders.count .driver = 1
  /-- elsewhere it has none, unless a thread is about to link it or to put it -/
  unlisted : ∀ f ∉ s.fenceList, (∀ t, ¬ InHand (s.thread t) f) → (s.fence f).kref.holders.count .driver = 0
  /-- a file has one reference until it is closed -/
  syncFile : ∀ f, (s.fence f).kref.holders.count .syncFile = (isOpen (s.fence f).syncFile).toNat
  /-- a fence is released once, when nobody has a reference, and drops its reference to the timeline with it -/
  released : ∀ f < s.nextFence, (s.fence f).released = (if (s.fence f).kref.count = 0 then 1 else 0) ∧
    (s.fence f).timelinePuts = (s.fence f).released
  timeline : s.kref.count = s.kref.holders.length ∧
    ∀ f < s.nextFence, s.kref.holders.count (.fence f) + (s.fence f).timelinePuts = 1
  /-- with all signalled and closed, all fences are released -/
  quiescent : s.fenceList = [] → (∀ t, s.thread t = .idle) →
    (∀ f < s.nextFence, (s.fence f).syncFile ≠ .installed) → ∀ f < s.nextFence, (s.fence f).released = 1

theorem Inv.driver_eq_zero (h : Inv s) (hlist : f ∉ s.fenceList) (hhand : ∀ t, ¬ InHand (s.thread t) f) :
    (s.fence f).kref.holders.count .driver = 0 := by
  rw [(h.fence f).driver]
  cases hstage : (s.fence f).stage with
  | unused => rfl
  | making t => exact absurd (.inl ((h.pair t f).linking.1 hstage)) (hhand t)
  | listed => exact absurd ((h.listed f).2 hstage) hlist
  | taken t => exact absurd (.inr ((h.pair t f).taking.1 hstage)) (hhand t)
  | done => rfl

theorem Inv.balance (h : Inv s) : FencesBalanced s where
  counted f := (h.fence f).balanced
  listed f hf := by
    rw [(h.fence f).driver, (h.listed f).1 hf]
    rfl
  unlisted _ hlist hhand := h.driver_eq_zero hlist hhand
  syncFile f := (h.fence f).syncFile
  released f hf := ⟨(h.fence f).once (h.used hf), (h.fence f).puts⟩
  timeline := ⟨h.balanced, fun f hf => by
    rw [(h.fence f).puts]
    exact (h.held f).used (h.used hf)⟩
  quiescent := by
    intro hlist hidle hclosed f hf
    have hdriver : (s.fence f).kref.holders.count .driver = 0 := by
      apply h.driver_eq_zero (by simp [hlist])
      intro t
      simp [InHand, hidle t, linking, Hsync.taking]
    have hfile : (s.fence f).kref.holders.count .syncFile = 0 := by
      rw [(h.fence f).syncFile]
      cases hsync : (s.fence f).syncFile with
      | missing => rfl
      | made t =>
          have hmaking := (h.pair t f).making.1 hsync
          rw [hidle t] at hmaking
          cases hmaking
      | installed => exact absurd hsync (hclosed f hf)
      | closed => rfl
    have hholders : (s.fence f).kref.holders = [] := by
      apply List.eq_nil_iff_forall_not_mem.2
      intro holder
      cases holder with
      | driver => exact List.count_eq_zero.1 hdriver
      | syncFile => exact List.count_eq_zero.1 hfile
    have hcount : (s.fence f).kref.count = 0 := by
      rw [(h.fence f).balanced, hholders]
      rfl
    rw [(h.fence f).once (h.used hf), if_pos hcount]

end Hsync

/-- **Balance.** In every run in which the files of new fences can be made, no timestamp is reached before its fence
    is linked and every event is accepted, the references are in balance in every state, and a create that
    returns an error leaves all as it was. -/
theorem hsync_fences_balanced (lastTs : BitVec 32) (s : Hsync)
    (hreach : Trace.Reachable (Trace.guarded (fun s a => s.keepsBalance a = true) Hsync.step) { lastTs := lastTs } s) :
    s.FencesBalanced ∧ ∀ t ts outcome s', s.keepsBalance (.fenceCreate t ts outcome) = true →
      s.step (.fenceCreate t ts outcome) = some s' → s'.thread t = .idle → s' = s := by
  have hinv : Hsync.Inv s := by
    refine hreach.invariant (Hsync.Inv.start lastTs) ?_
    intro s₁ a s₂ h₁ hstep
    obtain ⟨hok, hstep⟩ := Trace.guarded_eq_some.1 hstep
    exact h₁.step hok hstep
  refine ⟨hinv.balance, ?_⟩
  intro t ts outcome s' hok hstep hidle
  rcases Hsync.create_failed hok hstep with rfl | ⟨hthread, -, -⟩
  · rfl
  · rw [hthread] at hidle
    cases hidle

/-- A fence is made, signalled and closed. -/
def hsyncRun : List HsyncAct :=
  [.fenceCreate 0 1#32 .ok, .link 0, .addEvent 0 true, .install 0, .signal 1 1#32, .put 1, .put 1, .close 0]

theorem hsync_fences_balanced_run :
    ∃ s, Trace.exec (Trace.guarded (fun s a => s.keepsBalance a = true) Hsync.step) { lastTs := 0#32 } hsyncRun =
      some s ∧ s.nextFence = 1 ∧ s.FencesBalanced := by
  have heval : (Trace.exec (Trace.guarded (fun s a => s.keepsBalance a = true) Hsync.step) { lastTs := 0#32 }
      hsyncRun).map (fun s => s.nextFence) = some 1 := by decide +kernel
  obtain ⟨s, hs, heq⟩ := Option.map_eq_some_iff.1 heval
  exact ⟨s, hs, heq, (hsync_fences_balanced 0#32 s ⟨hsyncRun, hs⟩).1⟩

/-- Three attempts on a new timeline. A file that cannot be made leaves a fence behind. An event that is not
    accepted leaves a fence on the list, with its file. A fence whose timestamp is reached already is not on
    the list and keeps the reference of the driver when its file is closed. -/
theorem hsync_references_leaked :
    (Trace.exec Hsync.step {} [.fenceCreate 0 1#32 .noSyncFile]).map
        (fun s => (s.thread 0, s.nextFence, (s.fence 0).kref.holders, s.fenceList)) =
      some (.idle, 1, [.driver], []) ∧
    (Trace.exec Hsync.step {} [.fenceCreate 0 1#32 .ok, .link 0, .addEvent 0 false]).map
        (fun s => (s.thread 0, s.fenceList, (s.fence 0).syncFile, s.kref.count)) =
      some (.idle, [0], .made 0, 2) ∧
    (Trace.exec Hsync.step {} [.fenceCreate 0 0#32 .ok, .link 0, .addEvent 0 true, .install 0, .close 0]).map
        (fun s => (s.thread 0, s.fenceList, (s.fence 0).kref.holders, (s.fence 0).released)) =
      some (.idle, [], [.driver], 0) := by
  decide +kernel

end Hgsl
