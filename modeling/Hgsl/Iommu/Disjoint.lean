import Hgsl.Iommu.Alignment
import Hgsl.Lib.Trace

set_option autoImplicit false

/-! # Address ranges stay disjoint

Runs of `hgsl_iommu_get_gpuaddr` and `hgsl_iommu_put_gpuaddr` on one page table. The hint is moved before the
insertion that can fail, so that it can come to stand above the last entry; the search may then put an entry
across it, and what the hint gives out next lies inside that entry. And a request for `2 ^ 31` shifts an `int` into
its sign, so that `ALIGN` leaves one bit of the sum, and the address need not lie in the region. -/

namespace Hgsl

open FirstFit Align

/-- A page table, with what has been given out and not been put back. -/
structure VaState where
  pagetable : Pagetable
  live : List AddrEntry := []
  deriving DecidableEq, Repr

inductive VaOp where
  | get (memNode : VaNode) (calls : GetCalls)
  /-- the node holds the address of an entry -/
  | put (memNode : VaNode) (entry : AddrEntry)
  deriving DecidableEq, Repr

namespace VaState

/-- Requests are for whole pages, with any exponent, and what is put back was given out. -/
def Allowed (s : VaState) : VaOp → Prop
  | .get memNode _ => 2 ^ 12 ∣ (hgslMemnodeFootprint memNode).toNat
  | .put memNode entry => memNode.hasPagetable = true ∧ memNode.gpuaddr = entry.base ∧ entry ∈ s.live

instance (s : VaState) (op : VaOp) : Decidable (s.Allowed op) :=
  match op with
  | .get _ _ => inferInstanceAs (Decidable (_ ∣ _))
  | .put _ _ => inferInstanceAs (Decidable (_ ∧ _))

/-- What has been given out once a request is through. -/
def liveAfter (live : List AddrEntry) (size : BitVec 64) (r : GpuaddrResult) : List AddrEntry :=
  if r.ret = 0 then live ++ [⟨r.memNode.gpuaddr, size⟩] else live

def step (s : VaState) : VaOp → Option VaState
  | .get memNode calls =>
    let r := hgslIommuGetGpuaddr calls s.pagetable memNode
    some ⟨r.pagetable, liveAfter s.live (hgslMemnodeFootprint memNode) r⟩
  | .put memNode entry => some ⟨hgslIommuPutGpuaddr s.pagetable memNode, s.live.erase entry⟩

/-- The entries are disjoint, lie in the region, are page aligned, and are those that have been given out. -/
structure RangesOk (s : VaState) : Prop where
  disjoint : s.pagetable.rbtree.Pairwise fun e f => Disjoint e.range f.range
  inRegion : ∀ e ∈ s.pagetable.rbtree, s.pagetable.vaStart.toNat ≤ e.key ∧ e.stop ≤ s.pagetable.vaEnd.toNat
  aligned : ∀ e ∈ s.pagetable.rbtree, 2 ^ 12 ∣ e.key ∧ 2 ^ 12 ∣ e.size.toNat
  own : s.pagetable.rbtree.Perm s.live

end VaState

/-- No entry ends above the hint. -/
def HintCovers (pt : Pagetable) : Prop := ∀ e ∈ pt.rbtree, e.stop ≤ pt.vaHint.toNat

instance (pt : Pagetable) : Decidable (HintCovers pt) := inferInstanceAs (Decidable (∀ e ∈ _, _))

/-! ## The invariant -/

/-- What all operations keep. -/
structure VaInv (pt : Pagetable) (live : List AddrEntry) : Prop where
  bounded : Bounded pt
  inRegion : ∀ e ∈ pt.rbtree, pt.vaStart.toNat ≤ e.key
  aligned : ∀ e ∈ pt.rbtree, 2 ^ 12 ∣ e.key ∧ 2 ^ 12 ∣ e.size.toNat
  own : pt.rbtree.Perm live
  hintLow : pt.vaHint = 0#64 ∨ pt.vaStart.toNat ≤ pt.vaHint.toNat

section Invariant

variable {pt : Pagetable} {live rbtree : List AddrEntry} {size : BitVec 64} {k a : Nat}

/-- A new entry whose range is free keeps the invariant. -/
theorem VaInv.insert (h : VaInv pt live) (ha : 2 ^ 12 ∣ a) (hlow : pt.vaStart.toNat ≤ a)
    (hhigh : a + size.toNat ≤ pt.vaEnd.toNat) (hsize : 2 ^ 12 ∣ size.toNat) (hne : size ≠ 0#64)
    (hfree : ∀ e ∈ pt.rbtree, Disjoint (Set.Ico a (a + size.toNat)) e.range)
    (hinsert : OrderedSet.insert AddrEntry.key pt.rbtree ⟨BitVec.ofNat 64 a, size⟩ = some rbtree) :
    VaInv { pt with rbtree := rbtree } (live ++ [⟨BitVec.ofNat 64 a, size⟩]) := by
  have hend := h.bounded.vaEnd
  have hpos := pos_of_size_ne_zero hne
  have hkey : (⟨BitVec.ofNat 64 a, size⟩ : AddrEntry).key = a := by
    rw [AddrEntry.key, BitVec.toNat_ofNat, Nat.mod_eq_of_lt (by omega)]
  have hstop : (⟨BitVec.ofNat 64 a, size⟩ : AddrEntry).stop = a + size.toNat := by
    rw [AddrEntry.stop, AddrEntry.toNat_base, hkey]
  obtain ⟨-, hperm⟩ := OrderedSet.insert_eq_some hinsert
  have hmem (e : AddrEntry) : e ∈ rbtree ↔ e = ⟨BitVec.ofNat 64 a, size⟩ ∨ e ∈ pt.rbtree :=
    OrderedSet.mem_insert hinsert
  have hsymm : Std.Symm fun e f : AddrEntry => Disjoint e.range f.range := ⟨fun _ _ hd => hd.symm⟩
  have hdisjoint : rbtree.Pairwise fun e f => Disjoint e.range f.range := by
    refine (hperm.pairwise_iff fun hd => hd.symm).2 (List.pairwise_cons.2 ⟨?_, h.bounded.entries.disjoint⟩)
    intro e he
    rw [AddrEntry.range, hkey, hstop]
    exact hfree e he
  refine
    { bounded :=
        { entries :=
            { sorted := OrderedSet.insert_ordered h.bounded.entries.sorted hinsert
              disjoint := hdisjoint
              nonempty := ?_
              noWrap := ?_ }
          below := ?_
          hint := h.bounded.hint
          ordered := h.bounded.ordered
          vaEnd := hend }
      inRegion := ?_
      aligned := ?_
      own := hperm.trans ((List.perm_append_singleton _ _).symm.trans (h.own.append_right _))
      hintLow := h.hintLow }
  all_goals
    intro e he
    rcases (hmem e).1 he with rfl | he
  · omega
  · exact h.bounded.entries.nonempty e he
  · omega
  · exact h.bounded.entries.noWrap e he
  · exact hstop.trans_le hhigh
  · exact h.bounded.below e he
  · exact hlow.trans_eq hkey.symm
  · exact h.inRegion e he
  · exact ⟨by rwa [hkey], hsize⟩
  · exact h.aligned e he

/-- Moving the hint keeps the invariant. -/
theorem VaInv.setHint (h : VaInv pt live) {hint : BitVec 64} (hlow : pt.vaStart.toNat ≤ hint.toNat)
    (hhigh : hint.toNat ≤ pt.vaEnd.toNat) : VaInv { pt with vaHint := hint } live :=
  { bounded :=
      { entries := h.bounded.entries
        below := h.bounded.below
        hint := hhigh
        ordered := h.bounded.ordered
        vaEnd := h.bounded.vaEnd }
    inRegion := h.inRegion
    aligned := h.aligned
    own := h.own
    hintLow := .inr hlow }

theorem vaStart_le_alignUp (h : VaInv pt live) (hserves : HintServes pt size (2 ^ k)) :
    pt.vaStart.toNat ≤ alignUp pt.vaHint.toNat (2 ^ k) := by
  have hup := le_alignUp (x := pt.vaHint.toNat) (Nat.two_pow_pos k)
  rcases h.hintLow with hzero | hlow
  · exact absurd hzero hserves.1
  · omega

theorem VaInv.advanceHint (h : VaInv pt live) (hserves : HintServes pt size (2 ^ k)) :
    VaInv (advanceHint pt size k) live := by
  have hhint := toNat_advanceHint h.bounded hserves
  have hlow := vaStart_le_alignUp h hserves
  have hfits := hserves.2.2
  have hlow' : pt.vaStart.toNat ≤ (Hgsl.advanceHint pt size k).vaHint.toNat := by omega
  have hhigh' : (Hgsl.advanceHint pt size k).vaHint.toNat ≤ pt.vaEnd.toNat := by omega
  exact h.setHint hlow' hhigh'

/-- What is above the hint is above all entries. -/
theorem HintCovers.disjoint (h : HintCovers pt) (hb : Bounded pt) (hsize : 0 < size.toNat) :
    ∀ e ∈ pt.rbtree, Disjoint (Set.Ico (alignUp pt.vaHint.toNat (2 ^ k))
      (alignUp pt.vaHint.toNat (2 ^ k) + size.toNat)) e.range := by
  intro e he
  have hup := le_alignUp (x := pt.vaHint.toNat) (Nat.two_pow_pos k)
  have hcover := h e he
  exact (disjoint_iff hsize (hb.entries.nonempty e he)).2 (.inr (by omega))

/-- One try keeps the invariant, if no entry lies above a hint that serves it. -/
theorem VaInv.attempted (h : VaInv pt live) {memNode : VaNode} {alloc : Bool} {r : GpuaddrResult}
    (hne : size ≠ 0#64) (hsize : 2 ^ 12 ∣ size.toNat) (hk : 12 ≤ k)
    (hclear : HintServes pt size (2 ^ k) → HintCovers pt) (hatt : Attempted pt memNode size k alloc r) :
    VaInv r.pagetable (VaState.liveAfter live size r) := by
  have hpage : 2 ^ 12 ∣ 2 ^ k := Nat.pow_dvd_pow 2 hk
  cases hatt with
  | failed hret _ => simpa [VaState.liveAfter, hret] using h
  | wasted hret hserves htaken => simpa [VaState.liveAfter, hret] using h.advanceHint hserves
  | atHint hserves hinsert =>
      have hlow := vaStart_le_alignUp h hserves
      have hfree := (hclear hserves).disjoint h.bounded (k := k) (pos_of_size_ne_zero hne)
      simpa [VaState.liveAfter] using (h.advanceHint hserves).insert (hpage.trans dvd_alignUp) hlow hserves.2.2
        hsize hne hfree hinsert
  | placed hserves hleast hinsert =>
      obtain ⟨hdvd, hlow, hhigh, hfree⟩ := hleast.1
      have hfree' : ∀ e ∈ pt.rbtree, Disjoint (Set.Ico _ (_ + size.toNat)) e.range :=
        fun e he => hfree _ (List.mem_map_of_mem he)
      simpa [VaState.liveAfter] using h.insert (hpage.trans hdvd) hlow hhigh hsize hne hfree' hinsert

/-- A try that fails leaves no entry above a hint that serves the request, if there was none. -/
theorem hintCovers_of_failed (h : VaInv pt live) {memNode : VaNode} {alloc : Bool} {r : GpuaddrResult}
    (hclear : HintServes pt size (2 ^ k) → HintCovers pt) (hatt : Attempted pt memNode size k alloc r)
    (hret : r.ret ≠ 0) (hserves : HintServes r.pagetable size (2 ^ k)) : HintCovers r.pagetable := by
  cases hatt with
  | failed _ _ => exact hclear hserves
  | wasted _ hserves₀ _ =>
      have hhint := toNat_advanceHint h.bounded hserves₀
      have hup := le_alignUp (x := pt.vaHint.toNat) (Nat.two_pow_pos k)
      intro e he
      have hcover := hclear hserves₀ e he
      dsimp only
      omega
  | atHint _ _ => exact absurd rfl hret
  | placed _ _ _ => exact absurd rfl hret

/-- A whole request keeps the invariant. -/
theorem VaInv.requested (h : VaInv pt live) {calls : GetCalls} {memNode : VaNode} {r : GpuaddrResult}
    (hsize : 2 ^ 12 ∣ size.toNat) (hk : 12 ≤ k) (hclear : HintServes pt size (2 ^ k) → HintCovers pt)
    (hreq : Requested calls pt memNode size k r) : VaInv r.pagetable (VaState.liveAfter live size r) := by
  cases hreq with
  | refused => simpa [VaState.liveAfter, EINVAL] using h
  | once hne hatt => exact h.attempted hne hsize hk hclear hatt
  | @twice _ first _ hne hatt hret hretry =>
      have hfailed : first.ret ≠ 0 := by simp [hret, ENOMEM]
      have hfirst := h.attempted hne hsize hk hclear hatt
      rw [VaState.liveAfter, if_neg hfailed] at hfirst
      exact hfirst.attempted hne hsize hk (hintCovers_of_failed h hclear hatt hfailed) hretry

/-! ## Putting an address back -/

theorem EntriesOk.distinct {es : List AddrEntry} (h : EntriesOk es) : OrderedSet.Distinct AddrEntry.key es :=
  OrderedSet.distinct_of_ordered h.sorted

theorem EntriesOk.erase {es : List AddrEntry} (h : EntriesOk es) (e : AddrEntry) : EntriesOk (es.erase e) :=
  { sorted := h.sorted.sublist List.erase_sublist
    disjoint := h.disjoint.sublist List.erase_sublist
    nonempty := fun f hf => h.nonempty f (List.mem_of_mem_erase hf)
    noWrap := fun f hf => h.noWrap f (List.mem_of_mem_erase hf) }

/-- The hint goes back to the end of an entry or to the start of the region, or stays. -/
theorem hintWithout_bounds (h : VaInv pt live) (entry : AddrEntry) :
    (hintWithout pt entry = 0#64 ∨ pt.vaStart.toNat ≤ (hintWithout pt entry).toNat) ∧
      (hintWithout pt entry).toNat ≤ pt.vaEnd.toNat := by
  unfold hintWithout
  by_cases hat : pt.vaHint = entry.base + entry.size
  · rw [if_pos hat]
    cases hprev : (pt.rbtree.takeWhile (· ≠ entry)).getLast? with
    | none => exact ⟨.inr le_rfl, h.bounded.ordered⟩
    | some prev =>
        have hmem := (List.takeWhile_sublist _).mem (List.mem_of_getLast? hprev)
        have hstop := toNat_stop (h.bounded.entries.noWrap prev hmem)
        rw [hintBehind]
        split_ifs with hlow
        · exact ⟨.inr le_rfl, h.bounded.ordered⟩
        · rw [BitVec.lt_def, not_lt] at hlow
          exact ⟨.inr hlow, hstop.trans_le (h.bounded.below prev hmem)⟩
  · rw [if_neg hat]
    exact ⟨h.hintLow, h.bounded.hint⟩

/-- An entry that was given out is found and taken out. -/
theorem removeGpuaddr_eq (h : VaInv pt live) {entry : AddrEntry} (hmem : entry ∈ pt.rbtree) :
    removeGpuaddr pt entry.base =
      (0, { pt with
        vaHint := hintWithout pt entry
        rbtree := pt.rbtree.erase entry }) := by
  have hfind := h.bounded.entries.distinct.find_eq_some_iff.2 ⟨hmem, rfl⟩
  rw [removeGpuaddr, AddrEntry.toNat_base, hfind]

theorem VaInv.remove (h : VaInv pt live) {entry : AddrEntry} (hmem : entry ∈ live) :
    VaInv (removeGpuaddr pt entry.base).2 (live.erase entry) := by
  have hmem' := h.own.mem_iff.2 hmem
  obtain ⟨hlow, hhigh⟩ := hintWithout_bounds h entry
  rw [removeGpuaddr_eq h hmem']
  exact
    { bounded :=
        { entries := h.bounded.entries.erase entry
          below := fun e he => h.bounded.below e (List.mem_of_mem_erase he)
          hint := hhigh
          ordered := h.bounded.ordered
          vaEnd := h.bounded.vaEnd }
      inRegion := fun e he => h.inRegion e (List.mem_of_mem_erase he)
      aligned := fun e he => h.aligned e (List.mem_of_mem_erase he)
      own := h.own.erase entry
      hintLow := hlow }

/-! ## The hint and the last entry -/

/-- A hint that is in use is where the last entry ends. -/
def HintTight (pt : Pagetable) : Prop :=
  pt.vaHint = 0#64 ∨ pt.vaEnd.toNat < 2 ^ 32 ∨
    (HintCovers pt ∧ (pt.rbtree = [] ∧ pt.vaHint = pt.vaStart ∨ ∃ e ∈ pt.rbtree, e.stop = pt.vaHint.toNat))

theorem HintTight.covers (h : HintTight pt) (hserves : HintServes pt size (2 ^ k)) : HintCovers pt := by
  obtain ⟨hset, hwide, -⟩ := hserves
  rcases h with hzero | hnarrow | ⟨hcovers, -⟩
  · exact absurd hzero hset
  · omega
  · exact hcovers

/-- The address at the hint is free. -/
theorem HintTight.not_taken (h : HintTight pt) (hb : Bounded pt) (hserves : HintServes pt size (2 ^ k)) :
    ¬ ∃ e ∈ pt.rbtree, e.key = alignUp pt.vaHint.toNat (2 ^ k) := by
  rintro ⟨e, he, hkey⟩
  have hcover := h.covers hserves e he
  have hup := le_alignUp (x := pt.vaHint.toNat) (Nat.two_pow_pos k)
  have hnonempty := hb.entries.nonempty e he
  omega

/-- A try whose insertion at the hint does not fail keeps the hint where the last entry ends. -/
theorem HintTight.attempted (h : HintTight pt) (hinv : VaInv pt live) {memNode : VaNode} {alloc : Bool}
    {r : GpuaddrResult} (hne : size ≠ 0#64) (halloc : HintServes pt size (2 ^ k) → alloc = true)
    (hatt : Attempted pt memNode size k alloc r) : HintTight r.pagetable := by
  have hpos := pos_of_size_ne_zero hne
  have hend := hinv.bounded.vaEnd
  cases hatt with
  | failed _ _ => exact h
  | wasted _ hserves htaken => exact absurd (htaken (halloc hserves)) (h.not_taken hinv.bounded hserves)
  | atHint hserves hinsert =>
      have hcovers := h.covers hserves
      have hhint := toNat_advanceHint hinv.bounded hserves
      have hup := le_alignUp (x := pt.vaHint.toNat) (Nat.two_pow_pos k)
      have hfits := hserves.2.2
      have hstop : (⟨BitVec.ofNat 64 (alignUp pt.vaHint.toNat (2 ^ k)), size⟩ : AddrEntry).stop =
          (advanceHint pt size k).vaHint.toNat := by
        rw [hhint, AddrEntry.stop, BitVec.toNat_ofNat, Nat.mod_eq_of_lt (by omega)]
      refine .inr (.inr ⟨?_, .inr ⟨_, (OrderedSet.mem_insert hinsert).2 (.inl rfl), hstop⟩⟩)
      intro e he
      rcases (OrderedSet.mem_insert hinsert).1 he with rfl | he
      · exact hstop.le
      · have hcover := hcovers e he
        dsimp only
        omega
  | @placed a _ hserves hleast hinsert =>
      rcases h with hzero | hnarrow | ⟨hcovers, hlast⟩
      · exact .inl hzero
      · exact .inr (.inl hnarrow)
      by_cases hset : pt.vaHint = 0#64
      · exact .inl hset
      by_cases hwide : pt.vaEnd.toNat < 2 ^ 32
      · exact .inr (.inl hwide)
      obtain ⟨hdvd, hlow, hhigh, hfree⟩ := hleast.1
      -- the place is below the hint, since from the hint on there is no room
      have hbelow : a < pt.vaHint.toNat := by
        by_contra hle
        have hle' := (alignUp_le_iff (Nat.two_pow_pos k) hdvd).2 (not_lt.1 hle)
        exact hserves ⟨hset, by omega, by omega⟩
      have hstop : (⟨BitVec.ofNat 64 a, size⟩ : AddrEntry).stop = a + size.toNat := by
        rw [AddrEntry.stop, BitVec.toNat_ofNat, Nat.mod_eq_of_lt (by omega)]
      rcases hlast with ⟨hempty, hstart⟩ | ⟨last, hlast, hlaststop⟩
      · rw [hstart] at hbelow
        omega
      · -- and so it is below the last entry, which ends there
        have hdisjoint := hfree _ (List.mem_map_of_mem hlast)
        have hnonempty := hinv.bounded.entries.nonempty last hlast
        have hbefore := (disjoint_iff hpos hnonempty).1 hdisjoint
        refine .inr (.inr ⟨?_, .inr ⟨last, (OrderedSet.mem_insert hinsert).2 (.inr hlast), hlaststop⟩⟩)
        intro e he
        rcases (OrderedSet.mem_insert hinsert).1 he with rfl | he
        · dsimp only
          omega
        · exact hcovers e he

theorem HintTight.requested (h : HintTight pt) (hinv : VaInv pt live) {calls : GetCalls} {memNode : VaNode}
    {r : GpuaddrResult} (halloc : HintServes pt size (2 ^ k) → calls.alloc = true)
    (hreq : Requested calls pt memNode size k r) : HintTight r.pagetable := by
  cases hreq with
  | refused => exact h
  | once hne hatt => exact h.attempted hinv hne halloc hatt
  | twice hne hatt hret hretry =>
      cases hatt with
      | failed _ hserves => exact h.attempted hinv hne (fun hserves' => absurd hserves' hserves) hretry
      | wasted _ hserves htaken => exact absurd (htaken (halloc hserves)) (h.not_taken hinv.bounded hserves)
      | atHint _ _ => simp [ENOMEM] at hret
      | placed _ _ _ => simp [ENOMEM] at hret

/-- An entry that ends at a hint which no entry ends above is the last one. -/
theorem rbtree_eq_of_stop (h : VaInv pt live) (hcovers : HintCovers pt) {entry : AddrEntry}
    (hmem : entry ∈ pt.rbtree) (hstop : entry.stop = pt.vaHint.toNat) :
    ∃ init, pt.rbtree = init ++ [entry] ∧ pt.rbtree.takeWhile (· ≠ entry) = init ∧ pt.rbtree.erase entry = init := by
  obtain ⟨init, rest, hsplit⟩ := List.append_of_mem hmem
  have hentries := h.bounded.entries
  have hnodup := hentries.distinct.nodup
  have hlater : ∀ f ∈ rest, False := by
    intro f hf
    have hf' : f ∈ pt.rbtree := by simp [hsplit, hf]
    have hsorted := hentries.sorted
    have hdisjoint := hentries.disjoint
    rw [hsplit, List.pairwise_append, List.pairwise_cons] at hsorted hdisjoint
    have hbehind := stop_le_key (hdisjoint.2.1.1 f hf) (hsorted.2.1.1 f hf) (hentries.nonempty f hf')
    have hcover := hcovers f hf'
    have hnonempty := hentries.nonempty f hf'
    omega
  obtain rfl : rest = [] := List.eq_nil_iff_forall_not_mem.2 hlater
  have hfresh : entry ∉ init := by
    rw [hsplit, List.nodup_append] at hnodup
    intro hin
    exact hnodup.2.2 entry hin entry (by simp) rfl
  refine ⟨init, hsplit, ?_, ?_⟩
  · rw [hsplit, List.takeWhile_append_of_pos]
    · simp
    · intro f hf
      simpa using fun heq : f = entry => hfresh (heq ▸ hf)
  · rw [hsplit, List.erase_append_right _ hfresh]
    simp

/-- Putting an address back keeps the hint where the last entry ends. -/
theorem HintTight.remove (h : HintTight pt) (hinv : VaInv pt live) {entry : AddrEntry} (hmem : entry ∈ pt.rbtree) :
    HintTight (removeGpuaddr pt entry.base).2 := by
  have hentries := hinv.bounded.entries
  have hstopnat := toNat_stop (hentries.noWrap entry hmem)
  have hnonempty := hentries.nonempty entry hmem
  have hstart := hinv.inRegion entry hmem
  rw [removeGpuaddr_eq hinv hmem]
  by_cases hat : pt.vaHint = entry.base + entry.size
  · have hstop : entry.stop = pt.vaHint.toNat := by rw [hat, hstopnat]
    rcases h with hzero | hnarrow | ⟨hcovers, -⟩
    · rw [hzero] at hstop
      simp at hstop
      omega
    · exact .inr (.inl hnarrow)
    obtain ⟨init, hsplit, htake, herase⟩ := rbtree_eq_of_stop hinv hcovers hmem hstop
    have hhint : hintWithout pt entry = hintBehind pt.vaStart init.getLast? := by
      rw [hintWithout, if_pos hat, htake]
    refine .inr (.inr ?_)
    rw [herase]
    rcases List.eq_nil_or_concat' init with rfl | ⟨front, prev, rfl⟩
    · exact ⟨by simp [HintCovers], .inl ⟨rfl, by simpa [hintBehind] using hhint⟩⟩
    · have hprev : prev ∈ pt.rbtree := by simp [hsplit]
      have hprevstop := toNat_stop (hentries.noWrap prev hprev)
      have hprevlow := hinv.inRegion prev hprev
      have hprevne := hentries.nonempty prev hprev
      have hnew : hintWithout pt entry = prev.base + prev.size := by
        rw [hhint, List.getLast?_concat, hintBehind, if_neg]
        rw [BitVec.lt_def, hprevstop]
        omega
      refine ⟨?_, .inr ⟨prev, by simp, by simp only [hnew, hprevstop]⟩⟩
      intro f hf
      simp only [hnew, hprevstop]
      rcases List.mem_append.1 hf with hf | hf
      · have hf' : f ∈ pt.rbtree := by simp [hsplit, hf]
        have hsorted := hentries.sorted
        have hdisjoint := hentries.disjoint
        rw [hsplit, List.append_assoc, List.pairwise_append] at hsorted hdisjoint
        have hbehind := stop_le_key (hdisjoint.2.2 f hf prev (by simp)) (hsorted.2.2 f hf prev (by simp)) hprevne
        omega
      · rw [List.mem_singleton.1 hf]
  · have hsame : hintWithout pt entry = pt.vaHint := by rw [hintWithout, if_neg hat]
    rw [hsame]
    rcases h with hzero | hnarrow | ⟨hcovers, hlast⟩
    · exact .inl hzero
    · exact .inr (.inl hnarrow)
    refine .inr (.inr ⟨fun e he => hcovers e (List.mem_of_mem_erase he), ?_⟩)
    rcases hlast with ⟨hempty, hhint⟩ | ⟨last, hlast, hlaststop⟩
    · simp [hempty] at hmem
    · refine .inr ⟨last, (List.mem_erase_of_ne ?_).2 hlast, hlaststop⟩
      rintro rfl
      exact hat (BitVec.eq_of_toNat_eq (by rw [hstopnat, hlaststop]))

end Invariant

/-! ## Runs -/

namespace VaState

/-- A page table as it is created. -/
def start (vaStart vaEnd : BitVec 64) : VaState :=
  { pagetable := { vaStart := vaStart, vaEnd := vaEnd, vaHint := vaStart } }

/-- A request below 64 KiB, whose exponent no class replaces, has one that an `int` can be shifted by and stays
    positive. -/
def ShiftFits : VaOp → Prop
  | .get memNode _ => hgslMemnodeFootprint memNode < SZ_64K → memNode.exponent < 31
  | .put _ _ => True

instance (op : VaOp) : Decidable (ShiftFits op) :=
  match op with
  | .get _ _ => inferInstanceAs (Decidable (_ → _))
  | .put _ _ => inferInstanceAs (Decidable True)

/-- Where the hint serves a request, no entry ends above it. -/
def HintClear (s : VaState) : VaOp → Prop
  | .get memNode calls =>
    HintServes s.pagetable (hgslMemnodeFootprint memNode) (memNode.align calls.undef).toNat → HintCovers s.pagetable
  | .put _ _ => True

instance (s : VaState) (op : VaOp) : Decidable (s.HintClear op) :=
  match op with
  | .get _ _ => inferInstanceAs (Decidable (_ → _))
  | .put _ _ => inferInstanceAs (Decidable True)

/-- The insertion of an entry at the hint does not fail for lack of memory. -/
def InsertsAtHint (s : VaState) : VaOp → Prop
  | .get memNode calls =>
    HintServes s.pagetable (hgslMemnodeFootprint memNode) (memNode.align calls.undef).toNat → calls.alloc = true
  | .put _ _ => True

instance (s : VaState) (op : VaOp) : Decidable (s.InsertsAtHint op) :=
  match op with
  | .get _ _ => inferInstanceAs (Decidable (_ → _))
  | .put _ _ => inferInstanceAs (Decidable True)

variable {s s' : VaState} {op : VaOp}

/-- The invariant, of a state. -/
def Inv (s : VaState) : Prop := VaInv s.pagetable s.live

theorem Inv.rangesOk (h : s.Inv) : s.RangesOk :=
  { disjoint := h.bounded.entries.disjoint
    inRegion := fun e he => ⟨h.inRegion e he, h.bounded.below e he⟩
    aligned := h.aligned
    own := h.own }

theorem inv_start {vaStart vaEnd : BitVec 64} (hlt : vaStart < vaEnd) (hend : vaEnd.toNat ≤ 2 ^ 48) :
    (start vaStart vaEnd).Inv :=
  { bounded :=
      { entries := ⟨.nil, .nil, by simp [start], by simp [start]⟩
        below := by simp [start]
        hint := (BitVec.lt_def.1 hlt).le
        ordered := (BitVec.lt_def.1 hlt).le
        vaEnd := hend }
    inRegion := by simp [start]
    aligned := by simp [start]
    own := .nil
    hintLow := .inr le_rfl }

/-- One operation keeps the invariant, if no entry lies above a hint that serves it. -/
theorem Inv.step (h : s.Inv) (hallowed : s.Allowed op) (hfits : ShiftFits op) (hclear : s.HintClear op)
    (hstep : s.step op = some s') : s'.Inv := by
  cases op with
  | get memNode calls =>
      obtain ⟨k, hk, hpage, halign⟩ := align_eq_two_pow hfits calls.undef
      obtain rfl := Option.some.inj hstep
      rw [HintClear, halign] at hclear
      exact VaInv.requested h hallowed hpage hclear
        (hgslIommuGetGpuaddr_requested calls memNode h.bounded hk halign)
  | put memNode entry =>
      obtain ⟨htable, haddr, hmem⟩ := hallowed
      obtain rfl := Option.some.inj hstep
      simpa [Inv, hgslIommuPutGpuaddr, htable, haddr] using VaInv.remove h hmem

theorem hintTight_step (h : HintTight s.pagetable) (hinv : s.Inv) (hallowed : s.Allowed op) (hfits : ShiftFits op)
    (hinsert : s.InsertsAtHint op) (hstep : s.step op = some s') : HintTight s'.pagetable := by
  cases op with
  | get memNode calls =>
      obtain ⟨k, hk, hpage, halign⟩ := align_eq_two_pow hfits calls.undef
      obtain rfl := Option.some.inj hstep
      rw [InsertsAtHint, halign] at hinsert
      exact h.requested hinv hinsert (hgslIommuGetGpuaddr_requested calls memNode hinv.bounded hk halign)
  | put memNode entry =>
      obtain ⟨htable, haddr, hmem⟩ := hallowed
      obtain rfl := Option.some.inj hstep
      simpa [hgslIommuPutGpuaddr, htable, haddr] using h.remove hinv (hinv.own.mem_iff.2 hmem)

theorem hintClear_of_tight (h : HintTight s.pagetable) (hfits : ShiftFits op) : s.HintClear op := by
  cases op with
  | get memNode calls =>
      obtain ⟨k, -, -, halign⟩ := align_eq_two_pow hfits calls.undef
      rw [HintClear, halign]
      exact h.covers
  | put memNode entry => trivial

/-- In a run in which every shift stays positive and no entry lies above a hint that serves a request, the ranges
    are disjoint and in place after every step; and so it is in a run in which every shift stays positive and no
    insertion at the hint fails for lack of memory. -/
theorem ranges_disjoint_of_run (vaStart vaEnd : BitVec 64) (hlt : vaStart < vaEnd) (hend : vaEnd.toNat ≤ 2 ^ 48)
    (ops : List VaOp) (s : VaState) :
    (Trace.exec (Trace.guarded (fun s op => s.Allowed op ∧ ShiftFits op ∧ s.HintClear op) step)
        (start vaStart vaEnd) ops = some s →
      s.RangesOk) ∧
    (Trace.exec (Trace.guarded (fun s op => s.Allowed op ∧ ShiftFits op ∧ s.InsertsAtHint op) step)
        (start vaStart vaEnd) ops = some s →
      Trace.exec (Trace.guarded (fun s op => s.Allowed op ∧ ShiftFits op ∧ s.HintClear op) step)
        (start vaStart vaEnd) ops = some s) := by
  constructor
  · intro hexec
    refine (Trace.exec_invariant (P := Inv) ?_ (inv_start hlt hend) hexec).rangesOk
    intro s op s' hinv hstep
    obtain ⟨⟨hallowed, hfits, hclear⟩, hstep⟩ := Trace.guarded_eq_some.1 hstep
    exact hinv.step hallowed hfits hclear hstep
  · have htight : HintTight (start vaStart vaEnd).pagetable :=
      .inr (.inr ⟨by simp [HintCovers, start], .inl ⟨rfl, rfl⟩⟩)
    refine Trace.exec_guarded_of_invariant (fun s => s.Inv ∧ HintTight s.pagetable) ?_ ?_ ⟨inv_start hlt hend, htight⟩
    · rintro s op s' ⟨hinv, htight⟩ ⟨hallowed, hfits, hinsert⟩ hstep
      have hclear := hintClear_of_tight htight hfits
      exact ⟨hinv.step hallowed hfits hclear hstep, hintTight_step htight hinv hallowed hfits hinsert hstep⟩
    · rintro s op ⟨-, htight⟩ ⟨hallowed, hfits, -⟩
      exact ⟨hallowed, hfits, hintClear_of_tight htight hfits⟩

/-! ## The stale hint and the wide shift -/

/-- A request for `size` bytes, with the alignment of a page. -/
def plainNode (size : BitVec 32) : VaNode :=
  { flags := 0x000C0000#32, size := size, guardPage := false, gpuaddr := 0#64, hasPagetable := false }

/-- Memory runs out in both tries of the first request; the second one is put across the hint that it leaves
    behind, and the third one is served by that hint. -/
def staleRun : List VaOp :=
  [.get (plainNode 0x5000#32) ⟨0#32, false, false⟩, .get (plainNode 0x10000#32) ⟨0#32, true, true⟩,
    .get (plainNode 0x1000#32) ⟨0#32, true, true⟩]

/-- A request for a page with the exponent 31. -/
def wideShiftRun : List VaOp := [.get ⟨0x001F0000#32, 0x1000#32, false, 0#64, false⟩ ⟨0#32, true, true⟩]

theorem ranges_disjoint_of_run_two :
    ∃ s, Trace.exec (Trace.guarded (fun s op => s.Allowed op ∧ ShiftFits op ∧ s.HintClear op) step)
        (start 0xFFFF0000#64 0x100000000#64) (staleRun.take 2) = some s ∧
      s.live = [⟨0xFFFF0000#64, 0x10000#64⟩] ∧ s.RangesOk := by
  have heval : (Trace.exec (Trace.guarded (fun s op => s.Allowed op ∧ ShiftFits op ∧ s.HintClear op) step)
      (start 0xFFFF0000#64 0x100000000#64) (staleRun.take 2)).map (fun s => s.live) =
        some [⟨0xFFFF0000#64, 0x10000#64⟩] := by
    decide +kernel
  obtain ⟨s, hs, hlive⟩ := Option.map_eq_some_iff.1 heval
  exact ⟨s, hs, hlive, (ranges_disjoint_of_run 0xFFFF0000#64 0x100000000#64 (by decide) (by decide) _ s).1 hs⟩

/-- The first run ends with one entry inside another; the second one, in which the hint is never stale and no
    insertion fails, with an entry below the region. -/
theorem ranges_overlap_and_leave_region :
    (∃ s, Trace.exec (Trace.guarded (fun s op => s.Allowed op ∧ ShiftFits op) step)
        (start 0xFFFF0000#64 0x100000000#64) staleRun = some s ∧
      s.pagetable.rbtree = [⟨0xFFFF0000#64, 0x10000#64⟩, ⟨0xFFFFA000#64, 0x1000#64⟩] ∧ ¬ s.RangesOk) ∧
    ∃ s, Trace.exec (Trace.guarded (fun s op => s.Allowed op ∧ s.HintClear op ∧ s.InsertsAtHint op) step)
        (start 0x10000001000#64 0x20000000000#64) wideShiftRun = some s ∧
      s.pagetable.rbtree = [⟨0x80000000#64, 0x1000#64⟩] ∧ ¬ s.RangesOk := by
  constructor
  · have heval : (Trace.exec (Trace.guarded (fun s op => s.Allowed op ∧ ShiftFits op) step)
        (start 0xFFFF0000#64 0x100000000#64) staleRun).map (fun s => s.pagetable.rbtree) =
          some [⟨0xFFFF0000#64, 0x10000#64⟩, ⟨0xFFFFA000#64, 0x1000#64⟩] := by
      decide +kernel
    obtain ⟨s, hs, hentries⟩ := Option.map_eq_some_iff.1 heval
    refine ⟨s, hs, hentries, fun hok => ?_⟩
    have hdisjoint := hok.disjoint
    rw [hentries] at hdisjoint
    simp [AddrEntry.range, AddrEntry.key, AddrEntry.stop, Set.Ico_disjoint_Ico] at hdisjoint
  · have heval : (Trace.exec (Trace.guarded (fun s op => s.Allowed op ∧ s.HintClear op ∧ s.InsertsAtHint op) step)
        (start 0x10000001000#64 0x20000000000#64) wideShiftRun).map
          (fun s => (s.pagetable.rbtree, s.pagetable.vaStart)) =
            some ([⟨0x80000000#64, 0x1000#64⟩], 0x10000001000#64) := by
      decide +kernel
    obtain ⟨s, hs, heq⟩ := Option.map_eq_some_iff.1 heval
    obtain ⟨hentries, hstart⟩ := Prod.mk.inj heq
    refine ⟨s, hs, hentries, fun hok => ?_⟩
    have hregion := (hok.inRegion ⟨0x80000000#64, 0x1000#64⟩ (by simp [hentries])).1
    rw [hstart] at hregion
    simp [AddrEntry.key] at hregion

end VaState

end Hgsl
