import Hgsl.Iommu.Attempts
import Mathlib.Tactic.IntervalCases

set_option autoImplicit false

/-! # The alignment of addresses

A request names its alignment as an exponent in its flags, which the size class overwrites; the class from
64 KiB on puts in the exponent of 64. -/

namespace Hgsl

open FirstFit Align

/-- The exponent in the flags of a node. -/
def VaNode.exponent (memNode : VaNode) : Nat := (hgslMemnodeGetAlign memNode.flags).toNat

/-- The alignment of a size class. -/
def classAlign (size : BitVec 64) : Nat :=
  if SZ_2M ≤ size then 2 ^ 21 else if SZ_1M ≤ size then 2 ^ 20 else if SZ_64K ≤ size then 2 ^ 16 else 1

/-- A node whose size `hgsl_iommu_get_gpuaddr` accepts. -/
structure VaNode.Accepted (memNode : VaNode) : Prop where
  unprotected : memNode.flags &&& GSL_MEMFLAGS_PROTECTED = 0#32
  ne_zero : hgslMemnodeFootprint memNode ≠ 0#64
  le : (hgslMemnodeFootprint memNode).toNat ≤ UINT_MAX

/-- Every address that the node gets is a multiple of the page size, of the alignment in its flags, and of
    that of its size class. -/
def VaNode.Aligned (memNode : VaNode) : Prop :=
  ∀ (calls : GetCalls) (pagetable : Pagetable), (hgslIommuGetGpuaddr calls pagetable memNode).ret = 0 →
    PAGE_SIZE.toNat ∣ (hgslIommuGetGpuaddr calls pagetable memNode).memNode.gpuaddr.toNat ∧
    2 ^ memNode.exponent ∣ (hgslIommuGetGpuaddr calls pagetable memNode).memNode.gpuaddr.toNat ∧
    classAlign (hgslMemnodeFootprint memNode) ∣
      (hgslIommuGetGpuaddr calls pagetable memNode).memNode.gpuaddr.toNat

/-! ## What every address is a multiple of -/

section Multiples

variable {bottom top size align : BitVec 64} {m : Nat} {pt : Pagetable}

/-- All that `ALIGN` makes with an alignment is a multiple of `m`. -/
def AlignsTo (align : BitVec 64) (m : Nat) : Prop := ∀ x, m ∣ (alignTo x align).toNat

theorem searchEntries_dvd (h : AlignsTo align m) (es : List AddrEntry) (start : BitVec 64) (hstart : m ∣ start.toNat) :
    searchEntries bottom top size align es start = errValue (-ENOMEM) ∨
      m ∣ (searchEntries bottom top size align es start).toNat := by
  have hend (start : BitVec 64) (hstart : m ∣ start.toNat) :
      searchEnd top size start = errValue (-ENOMEM) ∨ m ∣ (searchEnd top size start).toNat := by
    unfold searchEnd
    split_ifs
    · exact .inr hstart
    · exact .inl rfl
  induction es generalizing start with
  | nil => exact hend start hstart
  | cons e es ih =>
      rw [searchEntries]
      split_ifs with hbelow hstraddle htop hgap hover
      · exact ih _ (h _)
      · exact ih _ hstart
      · exact hend start hstart
      · exact .inr hstart
      · exact .inl rfl
      · exact ih _ (h _)

theorem getUnmappedArea_dvd (h : AlignsTo align m) :
    (getUnmappedArea pt bottom top size align).1 = errValue (-ENOMEM) ∨
      m ∣ (getUnmappedArea pt bottom top size align).1.toNat := by
  unfold getUnmappedArea
  dsimp only
  by_cases herr : isErrValue (getUnmappedAreaHint pt top size align).1 = true
  · rw [if_neg (by simp [herr])]
    exact searchEntries_dvd h _ _ (h _)
  · rw [if_pos (by simpa using herr)]
    unfold getUnmappedAreaHint at herr ⊢
    dsimp only at herr ⊢
    split_ifs at herr ⊢ with hnarrow hover
    · exact absurd (show isErrValue (errValue (-EINVAL)) = true by decide) herr
    · exact .inl rfl
    · exact .inr (h _)

theorem getGpuaddr_dvd (h : AlignsTo align m) {memNode : VaNode} {start : BitVec 64} {alloc : Bool}
    (hret : (getGpuaddr pt memNode start top size align alloc).ret = 0) :
    m ∣ (getGpuaddr pt memNode start top size align alloc).memNode.gpuaddr.toNat := by
  unfold getGpuaddr at hret ⊢
  dsimp only at hret ⊢
  split_ifs at hret ⊢ with hnone hinserted
  · simp [ENOMEM] at hret
  · exact (getUnmappedArea_dvd h).resolve_left hnone
  · exact absurd hret hinserted

/-- An address that is returned is a multiple of all that the alignment of the request makes. -/
theorem hgslIommuGetGpuaddr_dvd {calls : GetCalls} {memNode : VaNode} (h : AlignsTo (memNode.align calls.undef) m)
    (hret : (hgslIommuGetGpuaddr calls pt memNode).ret = 0) :
    m ∣ (hgslIommuGetGpuaddr calls pt memNode).memNode.gpuaddr.toNat := by
  unfold hgslIommuGetGpuaddr at hret ⊢
  dsimp only at hret ⊢
  rw [← VaNode.align] at hret ⊢
  split_ifs at hret ⊢ with hprotected hsize hretry
  · simp [EINVAL] at hret
  · simp [EINVAL] at hret
  · exact getGpuaddr_dvd h hret
  · exact getGpuaddr_dvd h hret

theorem alignsTo_two_pow {k : Nat} (hk : k < 64) (halign : align.toNat = 2 ^ k) : AlignsTo align (2 ^ k) := by
  intro x
  rw [alignTo, align_sub_one hk halign, toNat_and_not_mask]
  exact Nat.dvd_mul_left _ _

/-- The sign bit of an `int`, extended: what `ALIGN` leaves is that bit of a sum. -/
theorem alignsTo_sign : AlignsTo 0xFFFFFFFF80000000#64 (2 ^ 31) := by
  intro x
  have hmask : ~~~(0xFFFFFFFF80000000#64 - 1#64) =
      ~~~(0xFFFFFFFF80000000#64 - 1#64) &&& ~~~BitVec.ofNat 64 (2 ^ 31 - 1) := by
    decide
  rw [alignTo, hmask, ← BitVec.and_assoc, toNat_and_not_mask]
  exact Nat.dvd_mul_left _ _

end Multiples

/-! ## The exponent -/

section Exponent

variable {flags undef : BitVec 32}

/-- What is put into the field is read back, as far as it fits. -/
theorem getAlign_setAlign (flags align : BitVec 32) : hgslMemnodeGetAlign (hgslMemnodeSetAlign flags align) =
    (((if 32#32 < align then 32#32 else align) <<< HGSL_MEMALIGN_SHIFT) &&& HGSL_MEMALIGN_MASK) >>>
      HGSL_MEMALIGN_SHIFT := by
  have hclear : flags &&& ~~~HGSL_MEMALIGN_MASK &&& HGSL_MEMALIGN_MASK = 0#32 := by
    rw [BitVec.and_assoc, show ~~~HGSL_MEMALIGN_MASK &&& HGSL_MEMALIGN_MASK = 0#32 by decide, BitVec.and_zero]
  unfold hgslMemnodeGetAlign hgslMemnodeSetAlign
  dsimp only
  rw [BitVec.and_or_distrib_right, hclear, BitVec.zero_or, BitVec.and_assoc, BitVec.and_self]

/-- The exponent that a request uses. -/
theorem getAlign_sizeClass (size : BitVec 64) (flags : BitVec 32) : hgslMemnodeGetAlign (sizeClassFlags size flags) =
    if SZ_2M ≤ size then 21#32 else if SZ_1M ≤ size then 20#32
    else if SZ_64K ≤ size then 6#32 else hgslMemnodeGetAlign flags := by
  unfold sizeClassFlags
  split_ifs
  · rw [getAlign_setAlign]
    decide
  · rw [getAlign_setAlign]
    decide
  · rw [getAlign_setAlign]
    decide
  · rfl

theorem requestAlign_of_le {e : Nat} (he : e ≤ 30) (h : hgslMemnodeGetAlign flags = BitVec.ofNat 32 e) :
    (requestAlign undef flags).toNat = 2 ^ max e 12 := by
  unfold requestAlign
  rw [h]
  interval_cases e <;> rfl

theorem requestAlign_sign (h : hgslMemnodeGetAlign flags = 31#32) :
    requestAlign undef flags = 0xFFFFFFFF80000000#64 := by
  unfold requestAlign
  rw [h]
  rfl

theorem requestAlign_undef (h : hgslMemnodeGetAlign flags = 32#32) : requestAlign 1#32 flags = 0x1000#64 := by
  unfold requestAlign
  rw [h]
  rfl

end Exponent

/-! ## Exactly when -/

section Exactly

variable {memNode : VaNode}

/-- The classes and exponents for which the alignment of the request covers all that is asked of it. -/
theorem aligned_of_alignsTo {m : Nat} (h : ∀ undef, AlignsTo (memNode.align undef) m) (hpage : PAGE_SIZE.toNat ∣ m)
    (hexponent : 2 ^ memNode.exponent ∣ m) (hclass : classAlign (hgslMemnodeFootprint memNode) ∣ m) :
    memNode.Aligned := by
  intro calls pagetable hret
  have hdvd := hgslIommuGetGpuaddr_dvd (h calls.undef) hret
  exact ⟨hpage.trans hdvd, hexponent.trans hdvd, hclass.trans hdvd⟩

/-- An empty page table whose region begins at `2 ^ 40 + 2 ^ k`. -/
def emptyTable (k : Nat) : Pagetable :=
  { vaStart := BitVec.ofNat 64 (2 ^ 40 + 2 ^ k), vaEnd := 0x1000000000000#64,
    vaHint := BitVec.ofNat 64 (2 ^ 40 + 2 ^ k) }

theorem vaHint_emptyTable {k : Nat} (hk : k ≤ 32) : (emptyTable k).vaHint.toNat = 2 ^ 40 + 2 ^ k := by
  have hpow : 2 ^ k ≤ 2 ^ 32 := Nat.pow_le_pow_right (by omega) hk
  rw [emptyTable, BitVec.toNat_ofNat, Nat.mod_eq_of_lt (by omega)]

theorem bounded_emptyTable {k : Nat} (hk : k ≤ 32) : Bounded (emptyTable k) := by
  have hhint := vaHint_emptyTable hk
  have hpow : 2 ^ k ≤ 2 ^ 32 := Nat.pow_le_pow_right (by omega) hk
  have hend : (emptyTable k).vaEnd.toNat = 2 ^ 48 := rfl
  exact
    { entries := ⟨.nil, .nil, by simp [emptyTable], by simp [emptyTable]⟩
      below := by simp [emptyTable]
      hint := by omega
      ordered := by
        have hstart : (emptyTable k).vaStart.toNat = (emptyTable k).vaHint.toNat := rfl
        omega
      vaEnd := hend.le }

/-- An empty page table gives a request the start of its region, if that is aligned. -/
theorem gpuaddr_at_start (hacc : memNode.Accepted) (undef : BitVec 32) {k : Nat} (hk : k ≤ 32)
    (halign : (memNode.align undef).toNat = 2 ^ k) :
    (hgslIommuGetGpuaddr ⟨undef, true, true⟩ (emptyTable k) memNode).ret = 0 ∧
      (hgslIommuGetGpuaddr ⟨undef, true, true⟩ (emptyTable k) memNode).memNode.gpuaddr.toNat = 2 ^ 40 + 2 ^ k := by
  have hb := bounded_emptyTable hk
  have hhint := vaHint_emptyTable hk
  have hpow : 2 ^ k ≤ 2 ^ 32 := Nat.pow_le_pow_right (by omega) hk
  have hend : (emptyTable k).vaEnd.toNat = 2 ^ 48 := rfl
  have hsize := hacc.le
  unfold UINT_MAX at hsize
  have hup : alignUp (emptyTable k).vaHint.toNat (2 ^ k) = 2 ^ 40 + 2 ^ k := by
    rw [hhint]
    exact alignUp_of_dvd (Nat.two_pow_pos k) (Nat.dvd_add (Nat.pow_dvd_pow 2 (by omega)) (dvd_refl _))
  have hserves : HintServes (emptyTable k) (hgslMemnodeFootprint memNode) (2 ^ k) := by
    refine ⟨?_, by omega, by omega⟩
    intro hzero
    simp [hzero] at hhint
    omega
  have hr : Request (hgslMemnodeFootprint memNode) (memNode.align undef) k :=
    { lt := by omega, align := halign, ne_zero := hacc.ne_zero, le := hacc.le }
  have hfirst := getGpuaddr_attempted hb hr
    { memNode with
      flags := sizeClassFlags (hgslMemnodeFootprint memNode) memNode.flags } true
  have hrefused : ¬ (hgslMemnodeFootprint memNode = 0#64 ∨ UINT_MAX < (hgslMemnodeFootprint memNode).toNat) :=
    not_or.2 ⟨hacc.ne_zero, not_lt.2 hacc.le⟩
  unfold hgslIommuGetGpuaddr
  dsimp only
  rw [if_neg (by simp [hacc.unprotected]), if_neg hrefused, ← VaNode.align]
  generalize getGpuaddr (emptyTable k) _ (emptyTable k).vaStart (emptyTable k).vaEnd _ _ true = first at hfirst ⊢
  cases hfirst with
  | failed _ hserves' => exact absurd hserves hserves'
  | wasted _ _ htaken =>
      obtain ⟨e, he, -⟩ := htaken rfl
      simp [emptyTable] at he
  | atHint _ _ =>
      rw [if_neg (by simp [ENOMEM])]
      refine ⟨rfl, ?_⟩
      rw [hup, BitVec.toNat_ofNat, Nat.mod_eq_of_lt (by omega)]
  | placed hserves' _ _ => exact absurd hserves hserves'

/-- No request is aligned to more than the alignment that it uses. -/
theorem not_dvd_start {k m : Nat} (hk : k ≤ 32) (hkm : k < m) : ¬ 2 ^ m ∣ 2 ^ 40 + 2 ^ k := by
  intro hdvd
  have hdvd' : 2 ^ (k + 1) ∣ 2 ^ 40 + 2 ^ k := (Nat.pow_dvd_pow 2 hkm).trans hdvd
  have hsmall := (Nat.dvd_add_right (Nat.pow_dvd_pow 2 (show k + 1 ≤ 40 by omega))).1 hdvd'
  have hle := Nat.le_of_dvd (Nat.two_pow_pos k) hsmall
  rw [Nat.pow_succ] at hle
  have hpos := Nat.two_pow_pos k
  omega

/-- A request that uses too small an alignment is not aligned with every page table. -/
theorem not_aligned (hacc : memNode.Accepted) (undef : BitVec 32) {k m : Nat} (hk : k ≤ 32)
    (halign : (memNode.align undef).toNat = 2 ^ k) (hkm : k < m)
    (hm : memNode.exponent = m ∨ classAlign (hgslMemnodeFootprint memNode) = 2 ^ m) : ¬ memNode.Aligned := by
  intro haligned
  obtain ⟨hret, haddr⟩ := gpuaddr_at_start hacc undef hk halign
  obtain ⟨-, hexponent, hclass⟩ := haligned _ _ hret
  rw [haddr] at hexponent hclass
  rcases hm with rfl | hm
  · exact not_dvd_start hk hkm hexponent
  · exact not_dvd_start hk hkm (hm ▸ hclass)

/-- The alignment of a request from its class and its exponent. -/
theorem align_of_exponent {undef : BitVec 32} {e : Nat} (he : e ≤ 30)
    (h : (if SZ_2M ≤ hgslMemnodeFootprint memNode then 21#32 else if SZ_1M ≤ hgslMemnodeFootprint memNode then 20#32
      else if SZ_64K ≤ hgslMemnodeFootprint memNode then 6#32 else hgslMemnodeGetAlign memNode.flags) =
        BitVec.ofNat 32 e) : (memNode.align undef).toNat = 2 ^ max e 12 :=
  requestAlign_of_le he (by rw [getAlign_sizeClass, h])

/-- In a class whose exponent is put into the flags, the one on entry must not be larger. -/
theorem aligned_iff_of_class (hacc : memNode.Accepted) {k : Nat} (hpage : 12 ≤ k) (hk : k ≤ 30)
    (halign : ∀ undef, (memNode.align undef).toNat = 2 ^ k)
    (hclass : classAlign (hgslMemnodeFootprint memNode) = 2 ^ k) : memNode.Aligned ↔ memNode.exponent ≤ k := by
  constructor
  · intro haligned
    by_contra hlt
    exact not_aligned hacc 0#32 (by omega) (halign 0#32) (not_le.1 hlt) (.inl rfl) haligned
  · intro hle
    exact aligned_of_alignsTo (fun undef => alignsTo_two_pow (by omega) (halign undef))
      (Nat.pow_dvd_pow 2 hpage) (Nat.pow_dvd_pow 2 hle) hclass.dvd

/-- Below 64 KiB, no class puts its exponent into the flags. -/
theorem not_le_of_small (hsmall : hgslMemnodeFootprint memNode < SZ_64K) :
    ¬ SZ_2M ≤ hgslMemnodeFootprint memNode ∧ ¬ SZ_1M ≤ hgslMemnodeFootprint memNode ∧
      ¬ SZ_64K ≤ hgslMemnodeFootprint memNode := by
  have h64 : SZ_64K.toNat = 0x10000 := rfl
  have h1 : SZ_1M.toNat = 0x100000 := rfl
  have h2 : SZ_2M.toNat = 0x200000 := rfl
  rw [BitVec.lt_def] at hsmall
  simp only [BitVec.le_def]
  omega

theorem getAlign_of_small (hsmall : hgslMemnodeFootprint memNode < SZ_64K) :
    hgslMemnodeGetAlign (sizeClassFlags (hgslMemnodeFootprint memNode) memNode.flags) =
      BitVec.ofNat 32 memNode.exponent := by
  obtain ⟨h2, h1, h64⟩ := not_le_of_small hsmall
  rw [getAlign_sizeClass, if_neg h2, if_neg h1, if_neg h64]
  simp [VaNode.exponent]

/-- Below 64 KiB the exponent is used as it is. -/
theorem align_of_small (hsmall : hgslMemnodeFootprint memNode < SZ_64K) (hlt : memNode.exponent < 31)
    (undef : BitVec 32) : (memNode.align undef).toNat = 2 ^ max memNode.exponent 12 :=
  requestAlign_of_le (by omega) (getAlign_of_small hsmall)

/-- The alignment of a request is a power of two of at least a page, unless a small one has an exponent that makes
    an `int` negative or is past its width. -/
theorem align_eq_two_pow (hfits : hgslMemnodeFootprint memNode < SZ_64K → memNode.exponent < 31)
    (undef : BitVec 32) : ∃ k < 64, 12 ≤ k ∧ (memNode.align undef).toNat = 2 ^ k := by
  have hpow {e : Nat} (he : e ≤ 30) (h : (memNode.align undef).toNat = 2 ^ max e 12) :
      ∃ k < 64, 12 ≤ k ∧ (memNode.align undef).toNat = 2 ^ k := ⟨max e 12, by omega, le_max_right _ _, h⟩
  by_cases hsmall : hgslMemnodeFootprint memNode < SZ_64K
  · have hlt := hfits hsmall
    exact hpow (by omega) (align_of_small hsmall hlt undef)
  · have h64 : SZ_64K ≤ hgslMemnodeFootprint memNode := BitVec.not_lt.1 hsmall
    by_cases h2 : SZ_2M ≤ hgslMemnodeFootprint memNode
    · exact hpow (e := 21) (by omega) (align_of_exponent (by omega) (by rw [if_pos h2]))
    by_cases h1 : SZ_1M ≤ hgslMemnodeFootprint memNode
    · exact hpow (e := 20) (by omega) (align_of_exponent (by omega) (by rw [if_neg h2, if_pos h1]))
    · exact hpow (e := 6) (by omega) (align_of_exponent (by omega) (by rw [if_neg h2, if_neg h1, if_pos h64]))

/-- Below 64 KiB addresses are aligned as asked for, up to what an `int` can be shifted by. -/
theorem aligned_of_small (hsmall : hgslMemnodeFootprint memNode < SZ_64K) (hle : memNode.exponent ≤ 31) :
    memNode.Aligned := by
  obtain ⟨h2, h1, h64⟩ := not_le_of_small hsmall
  have hone : classAlign (hgslMemnodeFootprint memNode) = 1 := by
    rw [classAlign, if_neg h2, if_neg h1, if_neg h64]
  have hclass (m : Nat) : classAlign (hgslMemnodeFootprint memNode) ∣ m := hone ▸ one_dvd m
  rcases Nat.lt_or_ge memNode.exponent 31 with hlt | hge
  · exact aligned_of_alignsTo (fun undef => alignsTo_two_pow (by omega) (align_of_small hsmall hlt undef))
      (Nat.pow_dvd_pow 2 (le_max_right _ _)) (Nat.pow_dvd_pow 2 (le_max_left _ _)) (hclass _)
  · have hexponent : memNode.exponent = 31 := by omega
    have halign (undef : BitVec 32) : memNode.align undef = 0xFFFFFFFF80000000#64 :=
      requestAlign_sign ((getAlign_of_small hsmall).trans (by rw [hexponent]))
    exact aligned_of_alignsTo (fun undef => halign undef ▸ alignsTo_sign)
      (Nat.pow_dvd_pow 2 (show 12 ≤ 31 by decide)) (Nat.pow_dvd_pow 2 hexponent.le) (hclass _)

/-- Addresses are aligned as asked for below 64 KiB and an exponent of at most 31, from 1 MiB on with one of at
    most 20, from 2 MiB on with one of at most 21, and otherwise not with every page table. -/
theorem aligned_iff (memNode : VaNode) (hacc : memNode.Accepted) (hexp : memNode.exponent ≤ 32) :
    memNode.Aligned ↔
      (hgslMemnodeFootprint memNode < SZ_64K ∧ memNode.exponent ≤ 31) ∨
      (SZ_1M ≤ hgslMemnodeFootprint memNode ∧ hgslMemnodeFootprint memNode < SZ_2M ∧ memNode.exponent ≤ 20) ∨
      (SZ_2M ≤ hgslMemnodeFootprint memNode ∧ memNode.exponent ≤ 21) := by
  have h64 : SZ_64K.toNat = 0x10000 := rfl
  have h1 : SZ_1M.toNat = 0x100000 := rfl
  have h2 : SZ_2M.toNat = 0x200000 := rfl
  simp only [BitVec.lt_def, BitVec.le_def]
  by_cases hlarge : SZ_2M ≤ hgslMemnodeFootprint memNode
  · have hclass : classAlign (hgslMemnodeFootprint memNode) = 2 ^ 21 := by rw [classAlign, if_pos hlarge]
    rw [aligned_iff_of_class hacc (k := 21) (by omega) (by omega)
      (fun undef => align_of_exponent (e := 21) (by omega) (by rw [if_pos hlarge])) hclass]
    rw [BitVec.le_def] at hlarge
    omega
  by_cases hmiddle : SZ_1M ≤ hgslMemnodeFootprint memNode
  · have hclass : classAlign (hgslMemnodeFootprint memNode) = 2 ^ 20 := by
      rw [classAlign, if_neg hlarge, if_pos hmiddle]
    rw [aligned_iff_of_class hacc (k := 20) (by omega) (by omega)
      (fun undef => align_of_exponent (e := 20) (by omega) (by rw [if_neg hlarge, if_pos hmiddle])) hclass]
    rw [BitVec.le_def] at hlarge hmiddle
    omega
  by_cases hsmall : SZ_64K ≤ hgslMemnodeFootprint memNode
  · -- this class puts in the exponent of 64
    have hclass : classAlign (hgslMemnodeFootprint memNode) = 2 ^ 16 := by
      rw [classAlign, if_neg hlarge, if_neg hmiddle, if_pos hsmall]
    have halign : (memNode.align 0#32).toNat = 2 ^ 12 :=
      align_of_exponent (e := 6) (by omega) (by rw [if_neg hlarge, if_neg hmiddle, if_pos hsmall])
    have hnot := not_aligned hacc 0#32 (by omega) halign (m := 16) (by omega) (.inr hclass)
    rw [BitVec.le_def] at hlarge hmiddle hsmall
    refine iff_of_false hnot ?_
    omega
  · have hsmall' : hgslMemnodeFootprint memNode < SZ_64K := BitVec.not_le.1 hsmall
    rcases Nat.lt_or_ge memNode.exponent 32 with hlt | hge
    · refine iff_of_true (aligned_of_small hsmall' (by omega)) ?_
      rw [BitVec.lt_def] at hsmall'
      omega
    · -- the shift is by the width of an `int`; what comes of it may be 1
      have hexponent : memNode.exponent = 32 := by omega
      have hfield : hgslMemnodeGetAlign memNode.flags = 32#32 :=
        BitVec.eq_of_toNat_eq (by simpa [VaNode.exponent] using hexponent)
      have halign : memNode.align 1#32 = 0x1000#64 :=
        requestAlign_undef (by rw [getAlign_sizeClass, if_neg hlarge, if_neg hmiddle, if_neg hsmall, hfield])
      have hnot := not_aligned hacc 1#32 (k := 12) (by omega) (by rw [halign]; rfl) (m := 32) (by omega)
        (.inl hexponent)
      rw [BitVec.le_def] at hlarge hmiddle hsmall
      refine iff_of_false hnot ?_
      omega

end Exactly

/-- A buffer of 4 KiB that asks for 1 MiB. -/
theorem aligned_iff_page : VaNode.Aligned ⟨0x140000#32, 0x1000#32, false, 0#64, false⟩ :=
  (aligned_iff _ ⟨by decide, by decide, by decide⟩ (by decide)).2 (.inl ⟨by decide, by decide⟩)

/-- A buffer of 64 KiB without an exponent in its flags comes to lie at `2 ^ 40 + 2 ^ 12`. -/
theorem size_class_missed :
    ¬ ∀ memNode : VaNode, memNode.Accepted → memNode.exponent ≤ 32 → memNode.Aligned := by
  intro h
  have haligned := h ⟨0#32, 0x10000#32, false, 0#64, false⟩ ⟨by decide, by decide, by decide⟩ (by decide)
  have hclass := (haligned ⟨0#32, true, true⟩ (emptyTable 12) (by decide)).2.2
  revert hclass
  decide

end Hgsl
