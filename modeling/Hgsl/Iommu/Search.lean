import Hgsl.Iommu.VaSpace

set_option autoImplicit false

/-! # The first-fit search

The loop of `_get_unmapped_area` works on 64-bit words. Where none of its sums wraps it is the first fit over
the ranges of the entries. -/

namespace Hgsl

open FirstFit Align

/-- The ranges of entries, as the first fit takes them. -/
def entryRanges (es : List AddrEntry) : List (Nat × Nat) := es.map fun e => (e.key, e.stop)

/-- Entries in the order of their addresses, whose ranges are disjoint, not empty, and do not wrap. -/
structure EntriesOk (es : List AddrEntry) : Prop where
  sorted : es.Pairwise fun e f => e.key < f.key
  disjoint : es.Pairwise fun e f => Disjoint e.range f.range
  nonempty : ∀ e ∈ es, e.key < e.stop
  noWrap : ∀ e ∈ es, e.stop < 2 ^ 64

theorem EntriesOk.tail {e : AddrEntry} {es : List AddrEntry} (h : EntriesOk (e :: es)) : EntriesOk es :=
  { sorted := h.sorted.of_cons
    disjoint := h.disjoint.of_cons
    nonempty := fun f hf => h.nonempty f (List.mem_cons_of_mem _ hf)
    noWrap := fun f hf => h.noWrap f (List.mem_cons_of_mem _ hf) }

/-- Of two disjoint entries the one that begins first also ends first. -/
theorem stop_le_key {e f : AddrEntry} (hdisjoint : Disjoint e.range f.range) (hlt : e.key < f.key)
    (hf : f.key < f.stop) : e.stop ≤ f.key := by
  by_contra hreach
  have hleft : f.key ∈ e.range := ⟨hlt.le, by omega⟩
  have hright : f.key ∈ f.range := ⟨le_rfl, hf⟩
  exact Set.disjoint_left.1 hdisjoint hleft hright

theorem EntriesOk.chain {es : List AddrEntry} (h : EntriesOk es) : Chain (entryRanges es) := by
  constructor
  · intro e he
    obtain ⟨f, hf, rfl⟩ := List.mem_map.1 he
    exact h.nonempty f hf
  · rw [entryRanges, List.pairwise_map]
    refine (h.sorted.and h.disjoint).imp_of_mem ?_
    rintro e f - hf ⟨hlt, hdisjoint⟩
    exact stop_le_key hdisjoint hlt (h.nonempty f hf)

/-! ## Words and numbers -/

/-- The sums that the search forms from `x` on do not wrap. -/
def SumRoom (size align x : Nat) : Prop := x + (align - 1) < 2 ^ 64 ∧ alignUp x align + size < 2 ^ 64

section Words

variable {bottom top size align : BitVec 64} {k : Nat}

theorem align_sub_one (hk : k < 64) (halign : align.toNat = 2 ^ k) : align - 1#64 = BitVec.ofNat 64 (2 ^ k - 1) := by
  apply BitVec.eq_of_toNat_eq
  have hpos : 1 ≤ 2 ^ k := Nat.one_le_two_pow
  have hpow : 2 ^ k < 2 ^ 64 := Nat.pow_lt_pow_right (by omega) hk
  rw [BitVec.toNat_sub, halign, BitVec.toNat_ofNat, BitVec.toNat_ofNat]
  omega

theorem toNat_alignTo {x : BitVec 64} (hk : k < 64) (halign : align.toNat = 2 ^ k)
    (hroom : x.toNat + (2 ^ k - 1) < 2 ^ 64) : (alignTo x align).toNat = alignUp x.toNat (2 ^ k) := by
  rw [alignTo, align_sub_one hk halign, toNat_add_mask_and_not hk hroom]

theorem toNat_stop {e : AddrEntry} (h : e.stop < 2 ^ 64) : (e.base + e.size).toNat = e.stop := by
  unfold AddrEntry.stop at h ⊢
  rw [BitVec.toNat_add, Nat.mod_eq_of_lt h]

/-- A result of the first fit as the code returns it. -/
def areaOf : Option Nat → BitVec 64
  | some a => BitVec.ofNat 64 a
  | none => errValue (-ENOMEM)

theorem searchEnd_eq {start : BitVec 64} (hstart : start.toNat + size.toNat < 2 ^ 64) :
    searchEnd top size start = areaOf (finish top.toNat size.toNat start.toNat) := by
  have hsum : (start + size).toNat = start.toNat + size.toNat := by
    rw [BitVec.toNat_add, Nat.mod_eq_of_lt hstart]
  unfold searchEnd finish
  simp only [BitVec.le_def, hsum]
  split_ifs <;> simp [areaOf]

/-- Without wraps the loop is the pass over the ranges. -/
theorem searchEntries_eq (hk : k < 64) (halign : align.toNat = 2 ^ k) (es : List AddrEntry) (hes : EntriesOk es)
    (hroom : ∀ e ∈ es, bottom.toNat < e.stop → e.key < bottom.toNat ∨ e.stop < top.toNat →
      SumRoom size.toNat (2 ^ k) e.stop) (start : BitVec 64)
    (hstart : start.toNat + size.toNat < 2 ^ 64) :
    searchEntries bottom top size align es start =
      areaOf (search bottom.toNat top.toNat size.toNat (2 ^ k) (entryRanges es) start.toNat) := by
  induction es generalizing start with
  | nil => exact searchEnd_eq hstart
  | cons e es ih =>
      have hstop := toNat_stop (hes.noWrap e (by simp))
      have hrest := ih hes.tail fun f hf => hroom f (by simp [hf])
      rw [searchEntries, entryRanges, List.map_cons, search, ← entryRanges]
      simp only [BitVec.lt_def, BitVec.le_def, hstop, AddrEntry.toNat_base]
      by_cases hbelow : e.key < bottom.toNat
      · simp only [if_pos hbelow]
        by_cases hstraddle : bottom.toNat < e.stop
        · obtain ⟨hsum, hfits⟩ := hroom e (by simp) hstraddle (.inl hbelow)
          have hnext := toNat_alignTo hk halign (x := e.base + e.size) (by rwa [hstop])
          rw [hstop] at hnext
          rw [if_pos hstraddle, if_pos hstraddle, hrest _ (by rwa [hnext]), hnext]
        · rw [if_neg hstraddle, if_neg hstraddle, hrest _ hstart]
      · simp only [if_neg hbelow]
        by_cases htop : top.toNat ≤ e.key
        · rw [if_pos htop, if_pos htop, searchEnd_eq hstart]
        · simp only [if_neg htop]
          have hgap : (start.toNat < e.key ∧ size.toNat ≤ (e.base - start).toNat) ↔
              start.toNat < e.key ∧ size.toNat ≤ e.key - start.toNat := by
            refine and_congr_right fun hlt => ?_
            rw [BitVec.toNat_sub_of_le (BitVec.le_def.2 hlt.le), AddrEntry.toNat_base]
          simp only [hgap]
          split_ifs with hfits hover
          · simp [areaOf]
          · rfl
          · have hbehind : bottom.toNat < e.stop := (not_lt.1 hbelow).trans_lt (hes.nonempty e (by simp))
            obtain ⟨hsum, hfits'⟩ := hroom e (by simp) hbehind (.inr (not_le.1 hover))
            have hnext := toNat_alignTo hk halign (x := e.base + e.size) (by rwa [hstop])
            rw [hstop] at hnext
            rw [hrest _ (by rwa [hnext]), hnext]

end Words

/-! ## Sound and complete -/

section Complete

variable {pagetable : Pagetable} {bottom top size align : BitVec 64} {k : Nat}

/-- No sum of the search wraps: it goes on behind an entry that reaches over the aligned bottom, and behind one that
    ends below the top. -/
structure SearchRoom (es : List AddrEntry) (bottom top size align : Nat) : Prop where
  start : SumRoom size align bottom
  entries : ∀ e ∈ es, alignUp bottom align < e.stop → e.key < alignUp bottom align ∨ e.stop < top →
    SumRoom size align e.stop

theorem rbtree_hint : (getUnmappedAreaHint pagetable top size align).2.rbtree = pagetable.rbtree := by
  unfold getUnmappedAreaHint
  dsimp only
  split_ifs <;> rfl

/-- When the hint does not apply, the area is the first fit. -/
theorem getUnmappedArea_eq (hk : k < 64) (halign : align.toNat = 2 ^ k) (hes : EntriesOk pagetable.rbtree)
    (hhint : isErrValue (getUnmappedAreaHint pagetable top size align).1 = true)
    (hroom : SearchRoom pagetable.rbtree bottom.toNat top.toNat size.toNat (2 ^ k)) :
    (getUnmappedArea pagetable bottom top size align).1 =
      areaOf (firstFit bottom.toNat top.toNat size.toNat (2 ^ k) (entryRanges pagetable.rbtree)) := by
  have hbottom := toNat_alignTo hk halign hroom.start.1
  unfold getUnmappedArea firstFit
  simp only [hhint, Bool.not_true, Bool.false_eq_true, if_false, rbtree_hint]
  rw [searchEntries_eq hk halign _ hes, hbottom]
  · rw [hbottom]
    exact hroom.entries
  · rw [hbottom]
    exact hroom.start.2

/-- A page table address is not an error. -/
theorem areaOf_ne_errValue {a : Nat} (h : a ≤ 2 ^ 48) : areaOf (some a) ≠ errValue (-ENOMEM) := by
  intro heq
  have hnat := congrArg BitVec.toNat heq
  rw [areaOf, BitVec.toNat_ofNat, Nat.mod_eq_of_lt (by omega)] at hnat
  simp [errValue, ENOMEM] at hnat
  omega

/-- The search returns the lowest place where the range can be put, and `-ENOMEM` exactly if there is none. -/
theorem getUnmappedArea_first_fit (pagetable : Pagetable) (bottom top size align : BitVec 64) (k : Nat)
    (hk : k < 64) (halign : align.toNat = 2 ^ k) (hes : EntriesOk pagetable.rbtree) (htop : top.toNat ≤ 2 ^ 48)
    (hsize : size ≠ 0#64) (hhint : isErrValue (getUnmappedAreaHint pagetable top size align).1 = true)
    (hroom : SearchRoom pagetable.rbtree bottom.toNat top.toNat size.toNat (2 ^ k)) :
    ((getUnmappedArea pagetable bottom top size align).1 = errValue (-ENOMEM) ↔
      Free bottom.toNat top.toNat size.toNat (2 ^ k) (entryRanges pagetable.rbtree) = ∅) ∧
    ((getUnmappedArea pagetable bottom top size align).1 ≠ errValue (-ENOMEM) →
      IsLeast (Free bottom.toNat top.toNat size.toNat (2 ^ k) (entryRanges pagetable.rbtree))
        (getUnmappedArea pagetable bottom top size align).1.toNat) := by
  have hfirst := firstFit_isFirst bottom.toNat top.toNat (Nat.two_pow_pos k)
    (pos_of_size_ne_zero hsize) hes.chain
  rw [getUnmappedArea_eq hk halign hes hhint hroom]
  cases hfit : firstFit bottom.toNat top.toNat size.toNat (2 ^ k) (entryRanges pagetable.rbtree) with
  | none =>
      rw [hfit] at hfirst
      refine ⟨iff_of_true rfl hfirst, ?_⟩
      intro hne
      exact absurd rfl hne
  | some a =>
      have hleast := (isFirst_some_iff hfirst).1 hfit
      have ha : a ≤ 2 ^ 48 := by
        have hend := hleast.1.2.2.1
        omega
      have hne := areaOf_ne_errValue ha
      refine ⟨iff_of_false hne (Set.nonempty_iff_ne_empty.1 ⟨a, hleast.1⟩), ?_⟩
      intro _
      rwa [areaOf, BitVec.toNat_ofNat, Nat.mod_eq_of_lt (by omega)]

end Complete

/-- Two entries, one that reaches into the region and one that leaves a gap which is too small once it is
    aligned. -/
def twoEntries : Pagetable where
  rbtree := [⟨0xFF000#64, 0x3000#64⟩, ⟨0x105000#64, 0x2000#64⟩]
  vaStart := 0x100000#64
  vaEnd := 0x200000#64
  vaHint := 0x100000#64

theorem twoEntries_ok : EntriesOk twoEntries.rbtree :=
  { sorted := by decide
    disjoint := by simp [twoEntries, AddrEntry.range, AddrEntry.key, AddrEntry.stop, Set.Ico_disjoint_Ico]
    nonempty := by decide
    noWrap := by decide }

theorem getUnmappedArea_first_fit_two :
    IsLeast (Free 0x100000 0x200000 0x2000 (2 ^ 14) (entryRanges twoEntries.rbtree))
      (getUnmappedArea twoEntries 0x100000#64 0x200000#64 0x2000#64 0x4000#64).1.toNat := by
  refine (getUnmappedArea_first_fit twoEntries 0x100000#64 0x200000#64 0x2000#64 0x4000#64 14 (by decide) rfl
    twoEntries_ok (by decide) (by decide) (by decide) ⟨⟨by decide, by decide⟩, ?_⟩).2 (by decide)
  simp [twoEntries, SumRoom, alignUp, AddrEntry.stop]

/-- The size `2 ^ 64 - 0x1000` is taken for one that fits everywhere. -/
theorem huge_size_found :
    ¬ ∀ (pagetable : Pagetable) (bottom top size align : BitVec 64) (k : Nat), k < 64 → align.toNat = 2 ^ k →
      EntriesOk pagetable.rbtree → bottom ≤ top → top.toNat ≤ 2 ^ 48 → size ≠ 0#64 →
      isErrValue (getUnmappedAreaHint pagetable top size align).1 = true →
      (getUnmappedArea pagetable bottom top size align).1 ≠ errValue (-ENOMEM) →
      IsLeast (Free bottom.toNat top.toNat size.toNat (2 ^ k) (entryRanges pagetable.rbtree))
        (getUnmappedArea pagetable bottom top size align).1.toNat := by
  intro h
  have hempty : EntriesOk [] := ⟨.nil, .nil, by simp, by simp⟩
  have hleast := h ⟨[], 0x1000#64, 0x1000000000000#64, 0#64⟩ 0x1000#64 0x1000000000000#64 0xFFFFFFFFFFFFF000#64
    0x1000#64 12 (by decide) rfl hempty (by decide) (by decide) (by decide) (by decide) (by decide)
  have hend := hleast.1.2.2.1
  simp at hend

end Hgsl
