import Hgsl.Iommu.Search

set_option autoImplicit false

/-! # What a request for an address can come to

One try of `get_gpuaddr`, for a page table whose entries and hint lie in a region of at most `2 ^ 48` addresses:
it fails, it takes the address at the hint, or it takes the first fit. -/

namespace Hgsl

open FirstFit Align

/-- Entries and hint lie below the end of the region. -/
structure Bounded (pt : Pagetable) : Prop where
  entries : EntriesOk pt.rbtree
  below : ∀ e ∈ pt.rbtree, e.stop ≤ pt.vaEnd.toNat
  hint : pt.vaHint.toNat ≤ pt.vaEnd.toNat
  ordered : pt.vaStart.toNat ≤ pt.vaEnd.toNat
  vaEnd : pt.vaEnd.toNat ≤ 2 ^ 48

/-- A request that the code makes: its alignment is a power of two, and its size passed the check. -/
structure Request (size : BitVec 64) (align : BitVec 64) (k : Nat) : Prop where
  lt : k < 64
  align : align.toNat = 2 ^ k
  ne_zero : size ≠ 0#64
  le : size.toNat ≤ UINT_MAX

/-- The hint serves a request: it is set, the region is not confined to 32 bits, and there is room behind it. -/
def HintServes (pt : Pagetable) (size : BitVec 64) (align : Nat) : Prop :=
  pt.vaHint ≠ 0#64 ∧ 2 ^ 32 ≤ pt.vaEnd.toNat ∧ alignUp pt.vaHint.toNat align + size.toNat ≤ pt.vaEnd.toNat

instance (pt : Pagetable) (size : BitVec 64) (align : Nat) : Decidable (HintServes pt size align) :=
  inferInstanceAs (Decidable (_ ∧ _))

/-- The page table with the hint behind the range it has served. -/
def advanceHint (pt : Pagetable) (size : BitVec 64) (k : Nat) : Pagetable :=
  { pt with vaHint := BitVec.ofNat 64 (alignUp pt.vaHint.toNat (2 ^ k) + size.toNat) }

/-- The places for a request. -/
def Places (pt : Pagetable) (size : BitVec 64) (k : Nat) : Set Nat :=
  Free pt.vaStart.toNat pt.vaEnd.toNat size.toNat (2 ^ k) (entryRanges pt.rbtree)

/-- The alignment of a request for a node. -/
def VaNode.align (memNode : VaNode) (undef : BitVec 32) : BitVec 64 :=
  requestAlign undef (sizeClassFlags (hgslMemnodeFootprint memNode) memNode.flags)

section Areas

variable {pt : Pagetable} {size align : BitVec 64} {k : Nat}

theorem alignUp_room {x : Nat} (hk : k < 64) (hx : x ≤ 2 ^ 48) (hsize : size.toNat ≤ UINT_MAX) :
    SumRoom size.toNat (2 ^ k) x := by
  have hpow : 2 ^ k ≤ 2 ^ 63 := Nat.pow_le_pow_right (by omega) (by omega)
  have hup : alignUp x (2 ^ k) ≤ x + (2 ^ k - 1) := alignUp_le_add
  unfold SumRoom
  unfold UINT_MAX at hsize
  omega

theorem upper32_eq_zero_iff {x : BitVec 64} : x >>> 32 = 0#64 ↔ x.toNat < 2 ^ 32 := by
  rw [← BitVec.toNat_inj, BitVec.toNat_ushiftRight, Nat.shiftRight_eq_div_pow]
  simp [Nat.div_eq_zero_iff]

theorem isErrValue_eq_false {a : Nat} (ha : a ≤ 2 ^ 48) : isErrValue (BitVec.ofNat 64 a) = false := by
  have hlt : (BitVec.ofNat 64 a).toNat < (errValue (-4095)).toNat := by
    rw [BitVec.toNat_ofNat, Nat.mod_eq_of_lt (by omega)]
    have herr : (errValue (-4095)).toNat = 2 ^ 64 - 4095 := by decide
    omega
  simpa [isErrValue, BitVec.lt_def] using hlt

/-- The hint gives out the first aligned address behind it, if it serves the request. -/
theorem hint_of_serves (hb : Bounded pt) (hr : Request size align k) (h : HintServes pt size (2 ^ k)) :
    getUnmappedAreaHint pt pt.vaEnd size align =
      (BitVec.ofNat 64 (alignUp pt.vaHint.toNat (2 ^ k)), advanceHint pt size k) := by
  obtain ⟨hset, hwide, hfits⟩ := h
  have hhint := hb.hint
  have hend := hb.vaEnd
  have hroom := alignUp_room hr.lt (hhint.trans hend) hr.le
  have halign := toNat_alignTo hr.lt hr.align hroom.1
  have hsum : alignTo pt.vaHint align + size = BitVec.ofNat 64 (alignUp pt.vaHint.toNat (2 ^ k) + size.toNat) := by
    apply BitVec.eq_of_toNat_eq
    rw [BitVec.toNat_add, halign, BitVec.toNat_ofNat]
  have hword : alignTo pt.vaHint align = BitVec.ofNat 64 (alignUp pt.vaHint.toNat (2 ^ k)) := by
    apply BitVec.eq_of_toNat_eq
    rw [halign, BitVec.toNat_ofNat, Nat.mod_eq_of_lt (by omega)]
  have hnarrow : ¬ (pt.vaHint = 0#64 ∨ pt.vaEnd >>> 32 = 0#64) := by
    rw [upper32_eq_zero_iff]
    rintro (hzero | hlt)
    · exact hset hzero
    · omega
  have hover : ¬ pt.vaEnd < alignTo pt.vaHint align + size := by
    rw [hsum, BitVec.lt_def, BitVec.toNat_ofNat, Nat.mod_eq_of_lt hroom.2]
    omega
  unfold getUnmappedAreaHint
  rw [if_neg hnarrow]
  dsimp only
  rw [if_neg hover, hword, advanceHint, ← hsum, hword]

theorem hint_of_not_serves (hb : Bounded pt) (hr : Request size align k) (h : ¬ HintServes pt size (2 ^ k)) :
    isErrValue (getUnmappedAreaHint pt pt.vaEnd size align).1 = true ∧
      (getUnmappedAreaHint pt pt.vaEnd size align).2 = pt := by
  have hroom := alignUp_room hr.lt (hb.hint.trans hb.vaEnd) hr.le
  have halign := toNat_alignTo hr.lt hr.align hroom.1
  unfold getUnmappedAreaHint
  dsimp only
  have herr (e : Int) (he : isErrValue (errValue e) = true) :
      isErrValue (errValue e, pt).1 = true ∧ (errValue e, pt).2 = pt := ⟨he, rfl⟩
  split_ifs with hnarrow hover
  · exact herr _ (by decide)
  · exact herr _ (by decide)
  · refine absurd ?_ h
    rw [upper32_eq_zero_iff] at hnarrow
    rw [BitVec.lt_def, BitVec.toNat_add, halign, Nat.mod_eq_of_lt hroom.2] at hover
    refine ⟨fun hzero => hnarrow (.inl hzero), ?_, ?_⟩ <;> omega

theorem searchRoom (hb : Bounded pt) (hr : Request size align k) :
    SearchRoom pt.rbtree pt.vaStart.toNat pt.vaEnd.toNat size.toNat (2 ^ k) :=
  { start := alignUp_room hr.lt (hb.ordered.trans hb.vaEnd) hr.le
    entries := fun e he _ _ => alignUp_room hr.lt ((hb.below e he).trans hb.vaEnd) hr.le }

/-- Where the area of a request lies, and what becomes of the page table. -/
theorem area_cases (hb : Bounded pt) (hr : Request size align k) :
    (HintServes pt size (2 ^ k) ∧ getUnmappedArea pt pt.vaStart pt.vaEnd size align =
        (BitVec.ofNat 64 (alignUp pt.vaHint.toNat (2 ^ k)), advanceHint pt size k)) ∨
      (¬ HintServes pt size (2 ^ k) ∧ (getUnmappedArea pt pt.vaStart pt.vaEnd size align).2 = pt ∧
        ((getUnmappedArea pt pt.vaStart pt.vaEnd size align).1 = errValue (-ENOMEM) ∨
          ∃ a, IsLeast (Places pt size k) a ∧
            (getUnmappedArea pt pt.vaStart pt.vaEnd size align).1 = BitVec.ofNat 64 a)) := by
  by_cases hserves : HintServes pt size (2 ^ k)
  · refine .inl ⟨hserves, ?_⟩
    have hhint := hint_of_serves hb hr hserves
    obtain ⟨-, -, hfits⟩ := hserves
    have hvalid := isErrValue_eq_false (a := alignUp pt.vaHint.toNat (2 ^ k)) (by have := hb.vaEnd; omega)
    unfold getUnmappedArea
    simp only [hhint, hvalid, Bool.not_false, if_true]
  · obtain ⟨herr, hsame⟩ := hint_of_not_serves hb hr hserves
    refine .inr ⟨hserves, ?_, ?_⟩
    · unfold getUnmappedArea
      simp only [herr, Bool.not_true, Bool.false_eq_true, if_false, hsame]
    · rw [getUnmappedArea_eq hr.lt hr.align hb.entries herr (searchRoom hb hr)]
      have hfirst := firstFit_isFirst pt.vaStart.toNat pt.vaEnd.toNat (Nat.two_pow_pos k)
        (pos_of_size_ne_zero hr.ne_zero) hb.entries.chain
      cases hfit : firstFit pt.vaStart.toNat pt.vaEnd.toNat size.toNat (2 ^ k) (entryRanges pt.rbtree) with
      | none => exact .inl rfl
      | some a => exact .inr ⟨a, (isFirst_some_iff hfirst).1 hfit, rfl⟩

/-! ## One try -/

/-- What a try of `get_gpuaddr` comes to. -/
inductive Attempted (pt : Pagetable) (memNode : VaNode) (size : BitVec 64) (k : Nat) (alloc : Bool) :
    GpuaddrResult → Prop
  | failed {ret : Int} (hret : ret ≠ 0) (hserves : ¬ HintServes pt size (2 ^ k)) :
      Attempted pt memNode size k alloc ⟨ret, pt, memNode⟩
  /-- the hint has moved, and nothing is allocated -/
  | wasted {ret : Int} (hret : ret ≠ 0) (hserves : HintServes pt size (2 ^ k))
      (htaken : alloc = true → ∃ e ∈ pt.rbtree, e.key = alignUp pt.vaHint.toNat (2 ^ k)) :
      Attempted pt memNode size k alloc ⟨ret, advanceHint pt size k, memNode⟩
  | atHint {rbtree : List AddrEntry} (hserves : HintServes pt size (2 ^ k))
      (hinsert : OrderedSet.insert AddrEntry.key pt.rbtree
        ⟨BitVec.ofNat 64 (alignUp pt.vaHint.toNat (2 ^ k)), size⟩ = some rbtree) :
      Attempted pt memNode size k alloc
        ⟨0, { advanceHint pt size k with rbtree := rbtree },
          { memNode with
            gpuaddr := BitVec.ofNat 64 (alignUp pt.vaHint.toNat (2 ^ k))
            hasPagetable := true }⟩
  | placed {a : Nat} {rbtree : List AddrEntry} (hserves : ¬ HintServes pt size (2 ^ k))
      (hleast : IsLeast (Places pt size k) a)
      (hinsert : OrderedSet.insert AddrEntry.key pt.rbtree ⟨BitVec.ofNat 64 a, size⟩ = some rbtree) :
      Attempted pt memNode size k alloc
        ⟨0, { pt with rbtree := rbtree },
          { memNode with
            gpuaddr := BitVec.ofNat 64 a
            hasPagetable := true }⟩

theorem getGpuaddr_attempted (hb : Bounded pt) (hr : Request size align k) (memNode : VaNode) (alloc : Bool) :
    Attempted pt memNode size k alloc (getGpuaddr pt memNode pt.vaStart pt.vaEnd size align alloc) := by
  have hend := hb.vaEnd
  unfold getGpuaddr
  rcases area_cases hb hr with ⟨hserves, harea⟩ | ⟨hserves, hsame, hnone | ⟨a, hleast, harea⟩⟩
  · have hfits := hserves.2.2
    have hvalid : BitVec.ofNat 64 (alignUp pt.vaHint.toNat (2 ^ k)) ≠ errValue (-ENOMEM) :=
      areaOf_ne_errValue (a := alignUp pt.vaHint.toNat (2 ^ k)) (by omega)
    simp only [harea, if_neg hvalid, insertGpuaddr]
    cases alloc with
    | false => exact .wasted (by simp [ENOMEM]) hserves (by simp)
    | true =>
        cases hinsert : OrderedSet.insert AddrEntry.key pt.rbtree
            ⟨BitVec.ofNat 64 (alignUp pt.vaHint.toNat (2 ^ k)), size⟩ with
        | none =>
            obtain ⟨e, he, hkey⟩ := OrderedSet.insert_eq_none hinsert
            simp only [advanceHint, hinsert, Bool.not_true, Bool.false_eq_true, if_false]
            refine .wasted (by simp [EEXIST]) hserves fun _ => ⟨e, he, ?_⟩
            rw [hkey, AddrEntry.key, BitVec.toNat_ofNat, Nat.mod_eq_of_lt (by omega)]
        | some rbtree =>
            simp only [advanceHint, hinsert, Bool.not_true, Bool.false_eq_true, if_false, if_true]
            exact .atHint hserves hinsert
  · simp only [hnone, if_true, hsame]
    exact .failed (by simp [ENOMEM]) hserves
  · have hfits := hleast.1.2.2.1
    have hvalid : BitVec.ofNat 64 a ≠ errValue (-ENOMEM) := areaOf_ne_errValue (a := a) (by omega)
    simp only [harea, if_neg hvalid, hsame, insertGpuaddr]
    cases alloc with
    | false => exact .failed (by simp [ENOMEM]) hserves
    | true =>
        cases hinsert : OrderedSet.insert AddrEntry.key pt.rbtree ⟨BitVec.ofNat 64 a, size⟩ with
        | none => exact .failed (by simp [EEXIST]) hserves
        | some rbtree => exact .placed hserves hleast hinsert

theorem toNat_advanceHint (hb : Bounded pt) (hserves : HintServes pt size (2 ^ k)) :
    (advanceHint pt size k).vaHint.toNat = alignUp pt.vaHint.toNat (2 ^ k) + size.toNat := by
  have hfits := hserves.2.2
  have hend := hb.vaEnd
  rw [advanceHint, BitVec.toNat_ofNat, Nat.mod_eq_of_lt (by omega)]

section Tries

variable {memNode : VaNode} {alloc : Bool} {r : GpuaddrResult}

/-- No try changes the region. -/
theorem Attempted.region (h : Attempted pt memNode size k alloc r) :
    r.pagetable.vaStart = pt.vaStart ∧ r.pagetable.vaEnd = pt.vaEnd := by
  cases h <;> exact ⟨rfl, rfl⟩

theorem Attempted.bounded_of_failed (h : Attempted pt memNode size k alloc r) (hb : Bounded pt) (hret : r.ret ≠ 0) :
    Bounded r.pagetable := by
  cases h with
  | failed _ _ => exact hb
  | wasted _ hserves _ =>
      have hhint := toNat_advanceHint hb hserves
      exact
        { entries := hb.entries
          below := hb.below
          hint := hhint.trans_le hserves.2.2
          ordered := hb.ordered
          vaEnd := hb.vaEnd }
  | atHint _ _ => exact absurd rfl hret
  | placed _ _ _ => exact absurd rfl hret

end Tries

/-! ## A request -/

/-- What `hgsl_iommu_get_gpuaddr` comes to: it refuses, or it takes one try or two. -/
inductive Requested (calls : GetCalls) (pt : Pagetable) (memNode : VaNode) (size : BitVec 64) (k : Nat) :
    GpuaddrResult → Prop
  | refused : Requested calls pt memNode size k ⟨-EINVAL, pt, memNode⟩
  | once {n : VaNode} {r : GpuaddrResult} (hne : size ≠ 0#64) (hatt : Attempted pt n size k calls.alloc r) :
      Requested calls pt memNode size k r
  | twice {n : VaNode} {r r' : GpuaddrResult} (hne : size ≠ 0#64) (hatt : Attempted pt n size k calls.alloc r)
      (hret : r.ret = -ENOMEM) (hretry : Attempted r.pagetable r.memNode size k calls.allocRetry r') :
      Requested calls pt memNode size k r'

theorem hgslIommuGetGpuaddr_requested (calls : GetCalls) (memNode : VaNode) (hb : Bounded pt) (hk : k < 64)
    (halign : (memNode.align calls.undef).toNat = 2 ^ k) :
    Requested calls pt memNode (hgslMemnodeFootprint memNode) k (hgslIommuGetGpuaddr calls pt memNode) := by
  unfold hgslIommuGetGpuaddr
  dsimp only
  rw [← VaNode.align]
  by_cases hprotected : memNode.flags &&& GSL_MEMFLAGS_PROTECTED ≠ 0#32
  · rw [if_pos hprotected]
    exact .refused
  · rw [if_neg hprotected]
    by_cases hsize : hgslMemnodeFootprint memNode = 0#64 ∨ UINT_MAX < (hgslMemnodeFootprint memNode).toNat
    · rw [if_pos hsize]
      exact .refused
    · rw [if_neg hsize]
      obtain ⟨hne, hle⟩ := not_or.1 hsize
      have hr : Request (hgslMemnodeFootprint memNode) (memNode.align calls.undef) k :=
        { lt := hk, align := halign, ne_zero := hne, le := not_lt.1 hle }
      have hfirst := getGpuaddr_attempted hb hr
        { memNode with
          flags := sizeClassFlags (hgslMemnodeFootprint memNode) memNode.flags } calls.alloc
      generalize getGpuaddr pt _ pt.vaStart pt.vaEnd _ _ calls.alloc = first at hfirst ⊢
      split_ifs with hret
      · obtain ⟨hstart, hend⟩ := hfirst.region
        have hb' := hfirst.bounded_of_failed hb (by rw [hret]; simp [ENOMEM])
        have hretry := getGpuaddr_attempted hb' hr first.memNode calls.allocRetry
        rw [hstart, hend] at hretry
        exact .twice hne hfirst hret hretry
      · exact .once hne hfirst

end Areas

end Hgsl
