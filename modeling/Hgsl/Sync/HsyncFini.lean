import Hgsl.Sync.Hsync

set_option autoImplicit false

/-! # The end of an hsync timeline

`hgsl_hsync_timeline_fini` signals a timeline up to the largest timestamp on its list. Largest is meant as a
number there, while the sweep and the fences go by the order of serial numbers. The two agree as long as the
timestamps are on one side of the wrap, seen from the last timestamp. -/

namespace Hgsl

namespace Hsync

/-! ## What the puts leave alone -/

@[simp] theorem putTimeline_lastTs (s : Hsync) (h : HsyncTimelineHolder) : (s.putTimeline h).lastTs = s.lastTs := rfl

@[simp] theorem putTimeline_fenceList (s : Hsync) (h : HsyncTimelineHolder) :
    (s.putTimeline h).fenceList = s.fenceList := rfl

@[simp] theorem putTimeline_fence (s : Hsync) (h : HsyncTimelineHolder) : (s.putTimeline h).fence = s.fence := rfl

@[simp] theorem putFence_lastTs (s : Hsync) (f : Nat) (h : HsyncHolder) : (s.putFence f h).lastTs = s.lastTs := by
  unfold putFence
  dsimp only
  split_ifs <;> rfl

@[simp] theorem putFence_fenceList (s : Hsync) (f : Nat) (h : HsyncHolder) :
    (s.putFence f h).fenceList = s.fenceList := by
  unfold putFence
  dsimp only
  split_ifs <;> rfl

@[simp] theorem putFence_signalled (s : Hsync) (f g : Nat) (h : HsyncHolder) :
    ((s.putFence f h).fence g).signalled = (s.fence g).signalled := by
  unfold putFence
  dsimp only
  by_cases hg : g = f
  · subst hg
    split_ifs <;> simp [setFence]
  · split_ifs <;> simp [setFence, hg]

@[simp] theorem putTaken_lastTs (s : Hsync) (f : Nat) : (s.putTaken f).lastTs = s.lastTs := by
  simp [putTaken, setFence]

@[simp] theorem putTaken_fenceList (s : Hsync) (f : Nat) : (s.putTaken f).fenceList = s.fenceList := by
  simp [putTaken, setFence]

@[simp] theorem putTaken_signalled (s : Hsync) (f g : Nat) :
    ((s.putTaken f).fence g).signalled = (s.fence g).signalled := by
  rw [putTaken, putFence_signalled]
  by_cases hg : g = f
  · subst hg
    simp [setFence]
  · simp [setFence, hg]

/-- The puts behind a sweep change neither the list nor the timestamp nor a signalled fence. -/
theorem foldl_putTaken (s : Hsync) (fs : List Nat) :
    (fs.foldl putTaken s).lastTs = s.lastTs ∧ (fs.foldl putTaken s).fenceList = s.fenceList ∧
      ∀ g, ((fs.foldl putTaken s).fence g).signalled = (s.fence g).signalled := by
  induction fs generalizing s with
  | nil => exact ⟨rfl, rfl, fun _ => rfl⟩
  | cons f fs ih =>
      obtain ⟨hlast, hlist, hsignalled⟩ := ih (s.putTaken f)
      refine ⟨?_, ?_, ?_⟩
      · rw [List.foldl_cons, hlast, putTaken_lastTs]
      · rw [List.foldl_cons, hlist, putTaken_fenceList]
      · intro g
        rw [List.foldl_cons, hsignalled, putTaken_signalled]

/-- The section does not look at the references to the timeline. -/
theorem sweep_kref (s : Hsync) (kref : RefCount HsyncTimelineHolder) (t : Nat) (ts : BitVec 32) :
    ({ s with kref := kref } : Hsync).sweep t ts = { s.sweep t ts with kref := kref } := by
  unfold sweep
  split_ifs <;> rfl

/-- A call of `hgsl_hsync_timeline_signal` does what its section does. -/
theorem timelineSignal_eq (s : Hsync) (t : Nat) (ts : BitVec 32) (hkref : s.kref.count ≠ 0) :
    (s.hgslHsyncTimelineSignal t ts).lastTs = (s.sweep t ts).lastTs ∧
      (s.hgslHsyncTimelineSignal t ts).fenceList = (s.sweep t ts).fenceList ∧
      ∀ g, ((s.hgslHsyncTimelineSignal t ts).fence g).signalled = ((s.sweep t ts).fence g).signalled := by
  have hget : s.kref.getUnlessZero (.call t) = some (s.kref.get (.call t)) :=
    RefCount.getUnlessZero_eq_some.2 ⟨hkref, rfl⟩
  unfold hgslHsyncTimelineSignal
  simp only [hget]
  rw [sweep_kref s]
  exact foldl_putTaken { s.sweep t ts with kref := s.kref.get (.call t) } _

theorem timelineFini_eq (s : Hsync) (t : Nat) (hkref : s.kref.count ≠ 0) :
    let m := maxTs (s.fenceList.map fun f => (s.fence f).ts)
    (s.hgslHsyncTimelineFini t).lastTs = (s.sweep t m).lastTs ∧
      (s.hgslHsyncTimelineFini t).fenceList = (s.sweep t m).fenceList ∧
      ∀ g, ((s.hgslHsyncTimelineFini t).fence g).signalled = ((s.sweep t m).fence g).signalled := by
  have hget : s.kref.getUnlessZero (.call t) = some (s.kref.get (.call t)) :=
    RefCount.getUnlessZero_eq_some.2 ⟨hkref, rfl⟩
  have hsignal := timelineSignal_eq { s with kref := s.kref.get (.call t) } t
    (maxTs (s.fenceList.map fun f => (s.fence f).ts)) (Nat.succ_ne_zero _)
  rw [sweep_kref s] at hsignal
  unfold hgslHsyncTimelineFini
  simp only [hget]
  exact hsignal

/-! ## The largest number -/

theorem le_foldl_max (tss : List (BitVec 32)) (m : BitVec 32) :
    m ≤ tss.foldl (fun m ts => if m < ts then ts else m) m ∧
      (∀ ts ∈ tss, ts ≤ tss.foldl (fun m ts => if m < ts then ts else m) m) ∧
      (tss.foldl (fun m ts => if m < ts then ts else m) m = m ∨
        tss.foldl (fun m ts => if m < ts then ts else m) m ∈ tss) := by
  induction tss generalizing m with
  | nil => exact ⟨BitVec.le_refl m, by simp, .inl rfl⟩
  | cons ts tss ih =>
      obtain ⟨hle, hall, hmem⟩ := ih (if m < ts then ts else m)
      rw [List.foldl_cons]
      have hm : m ≤ (if m < ts then ts else m) ∧ ts ≤ (if m < ts then ts else m) := by
        split
        · next hlt => exact ⟨BitVec.le_of_lt hlt, BitVec.le_refl ts⟩
        · next hge => exact ⟨BitVec.le_refl m, BitVec.not_lt.1 hge⟩
      refine ⟨BitVec.le_trans hm.1 hle, ?_, ?_⟩
      · intro ts' hts'
        rcases List.mem_cons.1 hts' with rfl | hts'
        · exact BitVec.le_trans hm.2 hle
        · exact hall ts' hts'
      · rcases hmem with heq | hmem
        · rw [heq]
          split
          · exact .inr (List.mem_cons_self ..)
          · exact .inl rfl
        · exact .inr (List.mem_cons_of_mem _ hmem)

theorem le_maxTs {tss : List (BitVec 32)} {ts : BitVec 32} (h : ts ∈ tss) : ts ≤ maxTs tss :=
  (le_foldl_max tss 0#32).2.1 ts h

theorem maxTs_mem {tss : List (BitVec 32)} (h : tss ≠ []) : maxTs tss ∈ tss := by
  rcases (le_foldl_max tss 0#32).2.2 with hzero | hmem
  · -- only zeros
    obtain ⟨ts, hts⟩ := List.exists_mem_of_ne_nil tss h
    have hle : ts ≤ maxTs tss := le_maxTs hts
    have hzero' : maxTs tss = 0#32 := hzero
    rw [hzero'] at hle ⊢
    rw [BitVec.le_def] at hle
    have : ts = 0#32 := BitVec.eq_of_toNat_eq (Nat.le_zero.1 hle)
    rwa [← this]
  · exact hmem

/-! ## The fini -/

/-- What the end of a timeline leaves behind: no fence on the list, all that were there signalled, and the
    latest of their timestamps, in the order of serial numbers. -/
structure TornDown (s s' : Hsync) : Prop where
  empty : s'.fenceList = []
  signalled : ∀ f ∈ s.fenceList, (s'.fence f).signalled = true
  latest : s.fenceList ≠ [] → ∃ f ∈ s.fenceList, s'.lastTs = (s.fence f).ts ∧
    ∀ g ∈ s.fenceList, hgslTs32Ge s'.lastTs (s.fence g).ts = true

/-- `ts` is strictly later than `lastTs`. -/
def Later (lastTs ts : BitVec 32) : Prop := hgslTs32Ge ts lastTs = true ∧ ts ≠ lastTs

section Later

variable {lastTs a b : BitVec 32}

theorem Later.dist_pos (h : Later lastTs a) : 0 < Serial.dist lastTs a := by
  apply Nat.pos_of_ne_zero
  intro hzero
  apply h.2
  have : a - lastTs = 0#32 := BitVec.eq_of_toNat_eq hzero
  exact sub_eq_zero.1 this

theorem Later.dist_lt (h : Later lastTs a) : Serial.dist lastTs a < 2 ^ 31 := hgslTs32Ge_iff.1 h.1

/-- A later timestamp has not been reached. -/
theorem Later.not_ge (h : Later lastTs a) : hgslTs32Ge lastTs a = false := by
  have hpos := h.dist_pos
  have hlt := h.dist_lt
  rw [hgslTs32Ge_eq_false_iff, Serial.dist_eq_of_base lastTs a lastTs, Serial.dist_self, if_neg (by omega)]
  omega

/-- The order of two later timestamps is that of their distances. -/
theorem Later.ge_iff (ha : Later lastTs a) (hb : Later lastTs b) :
    hgslTs32Ge a b = true ↔ Serial.dist lastTs b ≤ Serial.dist lastTs a := by
  rw [hgslTs32Ge_iff, Serial.ge_iff_dist_le (hgslTs32Ge_iff.1 ha.1) (hgslTs32Ge_iff.1 hb.1)]

theorem dist_eq (lastTs ts : BitVec 32) :
    Serial.dist lastTs ts =
      if lastTs ≤ ts then ts.toNat - lastTs.toNat else 2 ^ 32 - (lastTs.toNat - ts.toNat) := by
  have h1 := lastTs.isLt
  have h2 := ts.isLt
  unfold Serial.dist
  rw [BitVec.toNat_sub]
  split
  · next h =>
      have := BitVec.le_def.1 h
      omega
  · next h =>
      have := BitVec.lt_def.1 (BitVec.not_le.1 h)
      omega

/-- On one side of the wrap the order is that of the numbers. -/
theorem Later.ge_of_le (ha : Later lastTs a) (hb : Later lastTs b) (hside : lastTs ≤ a ↔ lastTs ≤ b) (h : b ≤ a) :
    hgslTs32Ge a b = true := by
  rw [ha.ge_iff hb, dist_eq, dist_eq]
  have hle := BitVec.le_def.1 h
  by_cases hlast : lastTs ≤ b
  · rw [if_pos hlast, if_pos (hside.2 hlast)]
    omega
  · rw [if_neg hlast, if_neg (fun hl => hlast (hside.1 hl))]
    have h1 := BitVec.lt_def.1 (BitVec.not_le.1 hlast)
    have h2 := BitVec.lt_def.1 (BitVec.not_le.1 (fun hl => hlast (hside.1 hl)))
    omega

/-- On different sides of it the smaller number is the later one. -/
theorem Later.not_ge_of_wrap (ha : Later lastTs a) (hb : Later lastTs b) (hside : lastTs ≤ a) (hwrap : b < lastTs) :
    hgslTs32Ge a b = false := by
  have hlt := ha.dist_lt
  rw [← Bool.not_eq_true, ha.ge_iff hb, dist_eq, dist_eq, if_pos hside, if_neg (BitVec.not_le.2 hwrap)]
  rw [dist_eq, if_pos hside] at hlt
  have h1 := BitVec.lt_def.1 hwrap
  have h2 := lastTs.isLt
  have hblt := hb.dist_lt
  rw [dist_eq, if_neg (BitVec.not_le.2 hwrap)] at hblt
  omega

end Later

/-- A sweep with a later timestamp. -/
theorem sweep_of_later {s : Hsync} {ts : BitVec 32} (t : Nat) (h : Later s.lastTs ts) :
    (s.sweep t ts).lastTs = ts ∧
      (s.sweep t ts).fenceList = s.fenceList.filter (fun f => !isSignaledLocked ts (s.fence f)) ∧
      ∀ f ∈ s.fenceList, isSignaledLocked ts (s.fence f) = true → ((s.sweep t ts).fence f).signalled = true := by
  unfold sweep
  rw [if_neg (by simp [h.not_ge])]
  refine ⟨rfl, rfl, ?_⟩
  intro f hmem hsignaled
  have hswept : f ∈ s.swept ts := by
    unfold swept
    rw [if_neg (by simp [h.not_ge])]
    exact List.mem_filter.2 ⟨hmem, hsignaled⟩
  simp [hswept]

end Hsync

section

variable {s : Hsync} {m : BitVec 32}

/-- A sweep with the timestamp of one of the fences does all that the end asks for if it reaches the others. -/
theorem Hsync.tornDown_sweep_iff {s' : Hsync} (t : Nat) (hlater : Hsync.Later s.lastTs m)
    (hmem : ∃ f ∈ s.fenceList, (s.fence f).ts = m) (hlast : s'.lastTs = (s.sweep t m).lastTs)
    (hlist : s'.fenceList = (s.sweep t m).fenceList)
    (hsignalled : ∀ g, (s'.fence g).signalled = ((s.sweep t m).fence g).signalled) :
    Hsync.TornDown s s' ↔ ∀ g ∈ s.fenceList, hgslTs32Ge m (s.fence g).ts = true := by
  obtain ⟨hlastTs, hfenceList, hswept⟩ := Hsync.sweep_of_later t hlater
  rw [hlastTs] at hlast
  rw [hfenceList] at hlist
  obtain ⟨f, hf, hts⟩ := hmem
  constructor
  · intro h g hg
    obtain ⟨-, -, -, hall⟩ := h.latest (List.ne_nil_of_mem hf)
    rw [← hlast]
    exact hall g hg
  · intro hall
    have hsignaled : ∀ g ∈ s.fenceList, Hsync.isSignaledLocked m (s.fence g) = true := by
      intro g hg
      simp [Hsync.isSignaledLocked, hall g hg]
    refine ⟨?_, ?_, ?_⟩
    · rw [hlist, List.filter_eq_nil_iff]
      intro g hg
      simp [hsignaled g hg]
    · intro g hg
      rw [hsignalled]
      exact hswept g hg (hsignaled g hg)
    · intro _
      refine ⟨f, hf, hlast.trans hts.symm, ?_⟩
      intro g hg
      rw [hlast]
      exact hall g hg

/-- The largest number is the latest timestamp if and only if the timestamps do not straddle the wrap. -/
theorem Hsync.max_ge_iff (hlater : ∀ f ∈ s.fenceList, Hsync.Later s.lastTs (s.fence f).ts)
    (hmem : ∃ f ∈ s.fenceList, (s.fence f).ts = m) (hmax : ∀ f ∈ s.fenceList, (s.fence f).ts ≤ m) :
    (∀ g ∈ s.fenceList, hgslTs32Ge m (s.fence g).ts = true) ↔
      (∀ f ∈ s.fenceList, s.lastTs < (s.fence f).ts) ∨ ∀ f ∈ s.fenceList, (s.fence f).ts < s.lastTs := by
  obtain ⟨f, hf, rfl⟩ := hmem
  constructor
  · intro hall
    by_cases hside : s.lastTs ≤ (s.fence f).ts
    · left
      intro g hg
      apply BitVec.not_le.1
      intro hle
      have hwrap : (s.fence g).ts < s.lastTs := BitVec.lt_of_le_ne hle (hlater g hg).2
      have hnot := (hlater f hf).not_ge_of_wrap (hlater g hg) hside hwrap
      rw [hall g hg] at hnot
      cases hnot
    · right
      intro g hg
      exact BitVec.lt_def.2 (Nat.lt_of_le_of_lt (BitVec.le_def.1 (hmax g hg))
        (BitVec.lt_def.1 (BitVec.not_le.1 hside)))
  · intro h g hg
    apply (hlater f hf).ge_of_le (hlater g hg) ?_ (hmax g hg)
    rcases h with h | h
    · exact iff_of_true (BitVec.le_of_lt (h f hf)) (BitVec.le_of_lt (h g hg))
    · exact iff_of_false (BitVec.not_le.2 (h f hf)) (BitVec.not_le.2 (h g hg))

end

/-- **The end of a timeline.** It signals all fences, and leaves the latest of their timestamps, exactly if these
    do not straddle the wrap: all of them are larger numbers than the last timestamp, or all of them smaller. -/
theorem hsync_fini_iff (s : Hsync) (t : Nat) (hkref : s.kref.count ≠ 0)
    (hlater : ∀ f ∈ s.fenceList, Hsync.Later s.lastTs (s.fence f).ts) :
    Hsync.TornDown s (s.hgslHsyncTimelineFini t) ↔
      (∀ f ∈ s.fenceList, s.lastTs < (s.fence f).ts) ∨ ∀ f ∈ s.fenceList, (s.fence f).ts < s.lastTs := by
  obtain ⟨hlast, hlist, hsignalled⟩ := Hsync.timelineFini_eq s t hkref
  by_cases hnil : s.fenceList = []
  · simp only [hnil, List.not_mem_nil, false_imp_iff, implies_true, true_or, iff_true]
    refine ⟨?_, by simp [hnil], by simp [hnil]⟩
    rw [hlist]
    unfold Hsync.sweep
    split_ifs <;> simp [hnil]
  · have hmem : Hsync.maxTs (s.fenceList.map fun f => (s.fence f).ts) ∈ s.fenceList.map fun f => (s.fence f).ts :=
      Hsync.maxTs_mem (by simpa using hnil)
    have hmem' := List.mem_map.1 hmem
    have hlaterMax : Hsync.Later s.lastTs (Hsync.maxTs (s.fenceList.map fun f => (s.fence f).ts)) := by
      obtain ⟨f, hf, heq⟩ := hmem'
      rw [← heq]
      exact hlater f hf
    rw [Hsync.tornDown_sweep_iff t hlaterMax hmem' hlast hlist hsignalled]
    apply Hsync.max_ge_iff hlater hmem'
    intro f hf
    exact Hsync.le_maxTs (List.mem_map.2 ⟨f, hf, rfl⟩)

/-- Thread 0 makes two fences, which are linked, and have their files installed. -/
def twoFences (ts ts' : BitVec 32) : List HsyncAct :=
  [.fenceCreate 0 ts .ok, .link 0, .addEvent 0 true, .install 0,
    .fenceCreate 0 ts' .ok, .link 0, .addEvent 0 true, .install 0]

theorem hsync_fini_iff_before_wrap :
    ∃ s ∈ Trace.exec Hsync.step { lastTs := 0xfffffff0#32 } (twoFences 0xfffffffe#32 0xffffffff#32),
      s.fenceList = [0, 1] ∧ Hsync.TornDown s (s.hgslHsyncTimelineFini 0) := by
  have hrun : ∃ s ∈ Trace.exec Hsync.step { lastTs := 0xfffffff0#32 } (twoFences 0xfffffffe#32 0xffffffff#32),
      s.fenceList = [0, 1] ∧ s.kref.count ≠ 0 ∧ (∀ f ∈ s.fenceList, Hsync.Later s.lastTs (s.fence f).ts) ∧
        ∀ f ∈ s.fenceList, s.lastTs < (s.fence f).ts := by
    unfold Hsync.Later
    decide +kernel
  obtain ⟨s, hs, hlist, hkref, hlater, hside⟩ := hrun
  exact ⟨s, hs, hlist, (hsync_fini_iff s 0 hkref hlater).2 (.inl hside)⟩

/-- Fences on both sides of the wrap: the later one, with timestamp 0, is left on the list unsignalled. -/
theorem hsync_fini_across_wrap :
    ∃ s ∈ Trace.exec Hsync.step { lastTs := 0xfffffff0#32 } (twoFences 0xffffffff#32 0#32),
      s.fenceList = [0, 1] ∧ (∀ f ∈ s.fenceList, Hsync.Later s.lastTs (s.fence f).ts) ∧
      ((s.hgslHsyncTimelineFini 0).fenceList = [1] ∧
        ((s.hgslHsyncTimelineFini 0).fence 1).signalled = false ∧
        (s.hgslHsyncTimelineFini 0).lastTs = 0xffffffff#32 ∧ hgslTs32Ge 0xffffffff#32 0#32 = false) ∧
      ¬ Hsync.TornDown s (s.hgslHsyncTimelineFini 0) := by
  have hrun : ∃ s ∈ Trace.exec Hsync.step { lastTs := 0xfffffff0#32 } (twoFences 0xffffffff#32 0#32),
      s.fenceList = [0, 1] ∧ (∀ f ∈ s.fenceList, Hsync.Later s.lastTs (s.fence f).ts) ∧
      (s.hgslHsyncTimelineFini 0).fenceList = [1] ∧
      ((s.hgslHsyncTimelineFini 0).fence 1).signalled = false ∧
      (s.hgslHsyncTimelineFini 0).lastTs = 0xffffffff#32 ∧ hgslTs32Ge 0xffffffff#32 0#32 = false := by
    unfold Hsync.Later
    decide +kernel
  obtain ⟨s, hs, hlist, hlater, hleft⟩ := hrun
  refine ⟨s, hs, hlist, hlater, hleft, ?_⟩
  intro hdown
  have hempty := hdown.empty
  rw [hleft.1] at hempty
  cases hempty

end Hgsl
