import Hgsl.Lib.Align
import Hgsl.Lib.Extent
import Hgsl.Memory.ScatterTables
import Hgsl.Memory.UserRanges

set_option autoImplicit false

/-! # Cache maintenance

`hgsl_mem_cache_op` turns a range of bytes of a buffer into pages and goes over the scatter list, in which
each entry stands for consecutive pages. A page is known by its frame number. -/

namespace Hgsl

/-- `GSL_CACHEFLAGS_CLEAN` -/
def GSL_CACHEFLAGS_CLEAN : BitVec 32 := 0x00000001#32

/-- `GSL_CACHEFLAGS_INVALIDATE` -/
def GSL_CACHEFLAGS_INVALIDATE : BitVec 32 := 0x00000002#32

/-- `GSL_CACHEFLAGS_FLUSH` -/
def GSL_CACHEFLAGS_FLUSH : BitVec 32 := GSL_CACHEFLAGS_CLEAN ||| GSL_CACHEFLAGS_INVALIDATE

/-- `struct scatterlist`: the first page of an entry, and its length in bytes -/
structure Scatterlist where
  page : Nat
  length : BitVec 32
  deriving DecidableEq, Repr

/-! ## One stretch -/

inductive DmaSync where
  /-- `dma_sync_sg_for_device` with `DMA_TO_DEVICE` -/
  | forDevice (sgl : Scatterlist)
  /-- `dma_sync_sg_for_cpu` with `DMA_FROM_DEVICE` -/
  | forCpu (sgl : Scatterlist)
  deriving DecidableEq, Repr

def DmaSync.sgl : DmaSync → Scatterlist
  | .forDevice sgl => sgl
  | .forCpu sgl => sgl

/-- A call of `_dma_cache_op`. -/
structure DmaCacheCall where
  page : Nat
  pageCount : BitVec 32
  deriving DecidableEq, Repr

/-- `_dma_cache_op`: what it asks of the DMA layer -/
def dmaCacheOp (c : DmaCacheCall) (op : BitVec 32) : List DmaSync :=
  -- the shift is one of 32 bits, although the result is a `size_t`
  let sizeBytes := (c.pageCount <<< 12).setWidth 64
  if c.pageCount = 0#32 then []
  else
    let sgl : Scatterlist := ⟨c.page, sizeBytes.setWidth 32⟩
    if op = GSL_CACHEFLAGS_FLUSH then [.forDevice sgl, .forCpu sgl]
    else if op = GSL_CACHEFLAGS_CLEAN then [.forDevice sgl]
    else if op = GSL_CACHEFLAGS_INVALIDATE then [.forCpu sgl]
    else []

/-! ## The walk -/

/-- What the loop of `hgsl_mem_cache_op` does. -/
structure CacheWalk where
  calls : List DmaCacheCall := []
  /-- history: what is subtracted from what -/
  subs : List (BitVec 32 × BitVec 32) := []
  deriving DecidableEq, Repr

/-- The loop of `hgsl_mem_cache_op`. -/
def cacheOpLoop : List Scatterlist → BitVec 32 → BitVec 32 → CacheWalk
  | [], _, _ => {}
  | s :: rest, pgOffset, pgSize =>
    let sgSize := s.length >>> 12
    if pgOffset < sgSize then
      let left := sgSize - pgOffset
      let taken := if left < pgSize then left else pgSize
      let walk := if pgSize - taken = 0#32 then {} else cacheOpLoop rest 0#32 (pgSize - taken)
      { calls := ⟨s.page + pgOffset.toNat, taken⟩ :: walk.calls
        subs := (sgSize, pgOffset) :: (pgSize, taken) :: walk.subs }
    else
      let walk := cacheOpLoop rest (pgOffset - sgSize) pgSize
      { walk with subs := (pgOffset, sgSize) :: walk.subs }

/-- What `hgsl_mem_cache_op` returns and does. -/
structure MemCacheOp extends SgtPut where
  ret : Int
  /-- history: `pg_offset` and `pg_size` at the start of the walk -/
  pgOffset : BitVec 32 := 0#32
  pgSize : BitVec 32 := 0#32
  walk : CacheWalk := {}
  deriving DecidableEq, Repr

/-- The cache modes for which there is something to maintain. -/
def isCached (flags : BitVec 32) : Bool :=
  flags &&& GSL_MEMFLAGS_CACHEMODE_MASK = GSL_MEMFLAGS_WRITETHROUGH ||
    flags &&& GSL_MEMFLAGS_CACHEMODE_MASK = GSL_MEMFLAGS_WRITEBACK

/-- `PAGE_ALIGN`, of 64 bits -/
def pageAlign (x : BitVec 64) : BitVec 64 := (x + 0xFFF#64) &&& ~~~0xFFF#64

/-- `hgsl_mem_cache_op`, with a device; `sgl` is the list of the table that `sgt_ext` points to when the walk
    starts. -/
def SgtNode.hgslMemCacheOp (n : SgtNode) (desc : Memdesc) (dma : DmaCalls) (table : TableCalls)
    (sgl : List Scatterlist) (internal : Bool) (offsetbytes sizebytes : BitVec 64) : MemCacheOp :=
  if isProtected n.flags then { node := n, events := [], ret := -EINVAL }
  else if isCached n.flags = false then { node := n, events := [], ret := 0 }
  else if sizebytes = 0#64 ∨ UINT_MAX < sizebytes.toNat ∨ UINT_MAX < offsetbytes.toNat then
    { node := n, events := [], ret := -ERANGE }
  else if desc.size.setWidth 64 < sizebytes + offsetbytes then { node := n, events := [], ret := -ERANGE }
  else
    let sizebytes := sizebytes + (offsetbytes &&& 0xFFF#64)
    let pgSize := (pageAlign sizebytes >>> 12).setWidth 32
    let pgOffset := (offsetbytes >>> 12).setWidth 32
    let got := if n.sgtExt.isErrOrNull then hgslGetSgt dma table internal n else { node := n, events := [] }
    if got.node.sgtExt.isErrOrNull then { got with ret := -EINVAL }
    else { got with ret := 0, pgOffset, pgSize, walk := cacheOpLoop sgl pgOffset pgSize }

namespace MemCacheOp

/-- The pages that are passed to `_dma_cache_op`. -/
def pages (r : MemCacheOp) : List Nat := r.walk.calls.flatMap fun c => List.range' c.page c.pageCount.toNat

/-- What reaches the DMA layer. -/
def syncs (r : MemCacheOp) (op : BitVec 32) : List DmaSync := r.walk.calls.flatMap fun c => dmaCacheOp c op

end MemCacheOp

/-! ## What is asked for -/

/-- The lengths of the entries are those of whole pages and add up to the size of the buffer. -/
structure WholePages (sgl : List Scatterlist) (size : BitVec 32) : Prop where
  pos : ∀ s ∈ sgl, s.length ≠ 0#32
  whole : ∀ s ∈ sgl, 4096 ∣ s.length.toNat
  sum : (sgl.map fun s => s.length.toNat).sum = size.toNat

/-- The pages of a buffer, each with the offset in the buffer of its first byte; `base` is the offset of the
    first entry. -/
def bufferPages : List Scatterlist → Nat → List (Nat × Nat)
  | [], _ => []
  | s :: rest, base =>
    ((List.range ((s.length.toNat + 4095) / 4096)).map fun j => (s.page + j, base + j * 4096)) ++
      bufferPages rest (base + s.length.toNat)

/-- The pages that intersect the bytes from `offset` to before `offset + size`. -/
def touchedPages (sgl : List Scatterlist) (offset size : Nat) : List Nat :=
  ((bufferPages sgl 0).filter fun x => x.2 < offset + size && offset < x.2 + 4096).map Prod.fst

/-- No operation on pages leaves the 32 bits. -/
structure CacheWalk.Exact (w : CacheWalk) : Prop where
  subs : ∀ x ∈ w.subs, x.2 ≤ x.1
  shifts : ∀ c ∈ w.calls, c.pageCount.toNat * 4096 < 2 ^ 32

/-- The pages that are maintained are those that were asked for. -/
structure MemCacheOp.Covers (r : MemCacheOp) (sgl : List Scatterlist) (offset size : Nat) : Prop where
  pages : r.pages = touchedPages sgl offset size
  length : r.pages.length = r.pgSize.toNat
  pgOffset : r.pgOffset.toNat = offset / 4096
  pgSize : r.pgSize.toNat = (offset % 4096 + size + 4095) / 4096
  exact : r.walk.Exact
  nonempty : ∀ c ∈ r.walk.calls, 0 < c.pageCount.toNat
  syncs : ∀ op, ∀ y ∈ r.syncs op, ∃ c ∈ r.walk.calls,
    y.sgl.page = c.page ∧ y.sgl.length.toNat = c.pageCount.toNat * 4096

/-! ## The walk over the entries -/

def Scatterlist.extent (s : Scatterlist) : Extent := ⟨s.page, (s.length >>> 12).toNat⟩

def DmaCacheCall.extent (c : DmaCacheCall) : Extent := ⟨c.page, c.pageCount.toNat⟩

section Walk

variable {sgl : List Scatterlist} {pgOffset pgSize : BitVec 32}

theorem toNat_pages (length : BitVec 32) : (length >>> 12).toNat = length.toNat / 4096 := by
  rw [BitVec.toNat_ushiftRight, Nat.shiftRight_eq_div_pow]

/-- `min`, of two counts -/
theorem toNat_min (x y : BitVec 32) : (if x < y then x else y).toNat = min x.toNat y.toNat := by
  split_ifs with hless
  · rw [BitVec.lt_def] at hless
    omega
  · rw [BitVec.lt_def] at hless
    omega

/-- The walk is the pass over extents. -/
theorem cacheOpLoop_window (sgl : List Scatterlist) (pgOffset pgSize : BitVec 32) :
    (cacheOpLoop sgl pgOffset pgSize).calls.map DmaCacheCall.extent =
      Extent.window (sgl.map Scatterlist.extent) pgOffset.toNat pgSize.toNat := by
  induction sgl generalizing pgOffset pgSize with
  | nil => simp [cacheOpLoop, Extent.window]
  | cons s rest ih =>
      rw [List.map_cons, cacheOpLoop, Extent.window]
      by_cases hskip : pgOffset < s.length >>> 12
      · have hlt : pgOffset.toNat < s.extent.count := hskip
        have hleft : ((s.length >>> 12) - pgOffset).toNat = s.extent.count - pgOffset.toNat :=
          BitVec.toNat_sub_of_le (BitVec.le_of_lt hskip)
        have hmin := toNat_min ((s.length >>> 12) - pgOffset) pgSize
        rw [hleft] at hmin
        simp only [if_pos hskip, if_pos hlt, ← hmin]
        generalize (if (s.length >>> 12) - pgOffset < pgSize then (s.length >>> 12) - pgOffset else pgSize) = taken
          at hmin ⊢
        have hrest : (pgSize - taken).toNat = pgSize.toNat - taken.toNat :=
          BitVec.toNat_sub_of_le (by rw [BitVec.le_def]; omega)
        have hzero : pgSize - taken = 0#32 ↔ pgSize.toNat - taken.toNat = 0 := by
          rw [← hrest, ← BitVec.toNat_inj]
          simp
        by_cases hdone : pgSize - taken = 0#32
        · simp [hdone, hzero.1 hdone, DmaCacheCall.extent, Scatterlist.extent]
        · simp [hdone, mt hzero.2 hdone, DmaCacheCall.extent, ih, hrest, Scatterlist.extent]
      · have hge : ¬ pgOffset.toNat < s.extent.count := hskip
        have hsub : (pgOffset - s.length >>> 12).toNat = pgOffset.toNat - s.extent.count :=
          BitVec.toNat_sub_of_le (BitVec.not_lt.1 hskip)
        rw [if_neg hge, ← hsub, ← ih]
        simp only [if_neg hskip]

/-- The guards of the loop are what its subtractions need. -/
theorem cacheOpLoop_exact (sgl : List Scatterlist) (pgOffset pgSize : BitVec 32) :
    (cacheOpLoop sgl pgOffset pgSize).Exact := by
  induction sgl generalizing pgOffset pgSize with
  | nil => constructor <;> simp [cacheOpLoop]
  | cons s rest ih =>
      rw [cacheOpLoop]
      by_cases hskip : pgOffset < s.length >>> 12
      · have hleft : ((s.length >>> 12) - pgOffset).toNat = (s.length >>> 12).toNat - pgOffset.toNat :=
          BitVec.toNat_sub_of_le (BitVec.le_of_lt hskip)
        have hmin := toNat_min ((s.length >>> 12) - pgOffset) pgSize
        simp only [if_pos hskip]
        generalize (if (s.length >>> 12) - pgOffset < pgSize then (s.length >>> 12) - pgOffset else pgSize) = taken
          at hmin ⊢
        have hle : taken ≤ pgSize := by
          rw [BitVec.le_def]
          omega
        have hfits : taken.toNat * 4096 < 2 ^ 32 := by
          have hlength := s.length.isLt
          have hpages := toNat_pages s.length
          omega
        have hwalk : (if pgSize - taken = 0#32 then {} else cacheOpLoop rest 0#32 (pgSize - taken)).Exact := by
          split_ifs with hdone
          · constructor <;> simp
          · exact ih _ _
        constructor
        · simp only [List.mem_cons]
          rintro x (rfl | rfl | hx)
          · exact BitVec.le_of_lt hskip
          · exact hle
          · exact hwalk.subs x hx
        · simp only [List.mem_cons]
          rintro c (rfl | hc)
          · exact hfits
          · exact hwalk.shifts c hc
      · have hwalk := ih (pgOffset - s.length >>> 12) pgSize
        simp only [if_neg hskip]
        refine ⟨?_, hwalk.shifts⟩
        simp only [List.mem_cons]
        rintro x (rfl | hx)
        · exact BitVec.not_lt.1 hskip
        · exact hwalk.subs x hx

end Walk

/-! ## The pages of the buffer -/

section Pages

variable {sgl : List Scatterlist} {size : BitVec 32}

theorem count_extent_mul {s : Scatterlist} (h : 4096 ∣ s.length.toNat) : s.extent.count * 4096 = s.length.toNat := by
  have hcount : s.extent.count = s.length.toNat / 4096 := toNat_pages s.length
  rw [hcount]
  exact Nat.div_mul_cancel h

/-- Where all entries have whole pages, page `k` of the buffer begins at byte `4096 * k`. -/
theorem bufferPages_eq (hwhole : ∀ s ∈ sgl, 4096 ∣ s.length.toNat) (i : Nat) :
    bufferPages sgl (i * 4096) =
      ((Extent.sequence (sgl.map Scatterlist.extent)).zipIdx i).map fun x => (x.1, x.2 * 4096) := by
  induction sgl generalizing i with
  | nil => simp [bufferPages]
  | cons s rest ih =>
      have hcount := count_extent_mul (hwhole s (by simp))
      have hceil : (s.length.toNat + 4095) / 4096 = s.extent.count := by omega
      have hbase : i * 4096 + s.length.toNat = (i + s.extent.count) * 4096 := by
        rw [← hcount, Nat.add_mul]
      have hitems : (s.extent.items.zipIdx i).map (fun x => (x.1, x.2 * 4096)) =
          (List.range s.extent.count).map fun j => (s.page + j, i * 4096 + j * 4096) := by
        apply List.ext_getElem
        · simp
        · intro k h₁ h₂
          simp [Extent.items, Scatterlist.extent, Nat.add_mul]
      rw [List.map_cons, Extent.sequence_cons, List.zipIdx_append, List.map_append, hitems, Extent.length_items,
        bufferPages, hceil, hbase, ih (fun s hs => hwhole s (List.mem_cons_of_mem _ hs))]

/-- The pages that are asked for are a window of all pages. -/
theorem touchedPages_eq (hwhole : ∀ s ∈ sgl, 4096 ∣ s.length.toNat) (offset size : Nat) :
    touchedPages sgl offset size =
      ((Extent.sequence (sgl.map Scatterlist.extent)).drop (offset / 4096)).take
        ((offset + size + 4095) / 4096 - offset / 4096) := by
  have hpages := bufferPages_eq hwhole 0
  rw [Nat.zero_mul] at hpages
  have hmeets : ∀ k : Nat, (k * 4096 < offset + size && offset < k * 4096 + 4096) =
      (offset / 4096 ≤ k && k < (offset + size + 4095) / 4096 : Bool) := by
    intro k
    rw [Bool.eq_iff_iff]
    simp only [Bool.and_eq_true, decide_eq_true_eq]
    omega
  have hwindow := Extent.filter_zipIdx (Extent.sequence (sgl.map Scatterlist.extent)) 0 (offset / 4096)
    ((offset + size + 4095) / 4096)
  rw [touchedPages, hpages, List.filter_map, List.map_map]
  simpa [Function.comp_def, hmeets] using hwindow

/-- All pages together are the buffer. -/
theorem length_sequence_of_whole (h : WholePages sgl size) :
    (Extent.sequence (sgl.map Scatterlist.extent)).length * 4096 = size.toNat := by
  rw [← h.sum, Extent.length_sequence, List.map_map]
  have hwhole := h.whole
  clear h
  induction sgl with
  | nil => simp
  | cons s rest ih =>
      have hrest := ih fun s hs => hwhole s (List.mem_cons_of_mem _ hs)
      have hcount := count_extent_mul (hwhole s (by simp))
      simp only [List.map_cons, List.sum_cons, Function.comp_apply] at hrest ⊢
      rw [Nat.add_mul, hrest, hcount]

end Pages

/-! ## The operation -/

section Operation

variable {sgl : List Scatterlist} {offsetbytes sizebytes : BitVec 64}

theorem toNat_pgOffset (hoffset : offsetbytes.toNat ≤ UINT_MAX) :
    ((offsetbytes >>> 12).setWidth 32).toNat = offsetbytes.toNat / 4096 := by
  unfold UINT_MAX at hoffset
  rw [BitVec.toNat_setWidth, BitVec.toNat_ushiftRight, Nat.shiftRight_eq_div_pow]
  omega

/-- The number of pages is rounded up, and fits into 32 bits. -/
theorem toNat_pgSize (hsize : sizebytes.toNat ≤ UINT_MAX) :
    ((pageAlign (sizebytes + (offsetbytes &&& 0xFFF#64)) >>> 12).setWidth 32).toNat =
      (offsetbytes.toNat % 4096 + sizebytes.toNat + 4095) / 4096 := by
  unfold UINT_MAX at hsize
  have hmask : (offsetbytes &&& 0xFFF#64).toNat = offsetbytes.toNat % 4096 := by
    rw [BitVec.toNat_and]
    exact Nat.and_two_pow_sub_one_eq_mod _ 12
  have hsum : (sizebytes + (offsetbytes &&& 0xFFF#64)).toNat = sizebytes.toNat + offsetbytes.toNat % 4096 := by
    rw [BitVec.toNat_add, hmask]
    omega
  have hround := Align.toNat_add_mask_and_not (k := 12) (x := sizebytes + (offsetbytes &&& 0xFFF#64)) (by decide)
    (by omega)
  have halign : (pageAlign (sizebytes + (offsetbytes &&& 0xFFF#64))).toNat =
      Align.alignUp (sizebytes.toNat + offsetbytes.toNat % 4096) (2 ^ 12) := by
    rw [← hsum]
    exact hround
  rw [BitVec.toNat_setWidth, BitVec.toNat_ushiftRight, Nat.shiftRight_eq_div_pow, halign, Align.alignUp]
  omega

/-- What `_dma_cache_op` hands on is the whole stretch, if the shift loses nothing. -/
theorem dmaCacheOp_sgl {c : DmaCacheCall} {op : BitVec 32} {y : DmaSync} (hfits : c.pageCount.toNat * 4096 < 2 ^ 32)
    (h : y ∈ dmaCacheOp c op) : y.sgl.page = c.page ∧ y.sgl.length.toNat = c.pageCount.toNat * 4096 := by
  have hlength : (((c.pageCount <<< 12).setWidth 64).setWidth 32).toNat = c.pageCount.toNat * 4096 := by
    rw [BitVec.setWidth_setWidth_of_le _ (by decide), BitVec.setWidth_eq, BitVec.toNat_shiftLeft, Nat.shiftLeft_eq]
    exact Nat.mod_eq_of_lt hfits
  unfold dmaCacheOp at h
  split_ifs at h with hnone hflush hclean hinvalidate
  · simp at h
  · simp only [List.mem_cons, List.not_mem_nil, or_false] at h
    rcases h with rfl | rfl
    · exact ⟨rfl, hlength⟩
    · exact ⟨rfl, hlength⟩
  · obtain rfl := List.mem_singleton.1 h
    exact ⟨rfl, hlength⟩
  · obtain rfl := List.mem_singleton.1 h
    exact ⟨rfl, hlength⟩
  · simp at h

variable (n : SgtNode) (desc : Memdesc) (dma : DmaCalls) (table : TableCalls) (internal : Bool)
  (offsetbytes sizebytes : BitVec 64) (sgl : List Scatterlist)

/-- Whenever it gets to the walk, the checks have been passed, and it returns 0. -/
theorem hgslMemCacheOp_cases :
    let r := n.hgslMemCacheOp desc dma table sgl internal offsetbytes sizebytes
    (r.walk = {} ∧ (r.ret ≠ 0 ∨ isCached n.flags = false)) ∨
      (r.ret = 0 ∧ isCached n.flags = true) ∧
        (sizebytes ≠ 0#64 ∧ sizebytes.toNat ≤ UINT_MAX ∧ offsetbytes.toNat ≤ UINT_MAX ∧
          offsetbytes.toNat + sizebytes.toNat ≤ desc.size.toNat) ∧
        r.pgOffset = (offsetbytes >>> 12).setWidth 32 ∧
        r.pgSize = (pageAlign (sizebytes + (offsetbytes &&& 0xFFF#64)) >>> 12).setWidth 32 ∧
        r.walk = cacheOpLoop sgl r.pgOffset r.pgSize := by
  dsimp only
  unfold SgtNode.hgslMemCacheOp
  by_cases hprotected : isProtected n.flags = true
  · left
    simp [hprotected, EINVAL]
  by_cases hcached : isCached n.flags = false
  · left
    simp [hprotected, hcached]
  by_cases hrange : sizebytes = 0#64 ∨ UINT_MAX < sizebytes.toNat ∨ UINT_MAX < offsetbytes.toNat
  · left
    simp [hprotected, hcached, hrange, ERANGE]
  by_cases hend : desc.size.setWidth 64 < sizebytes + offsetbytes
  · left
    simp [hprotected, hcached, hrange, hend, ERANGE]
  simp only [if_neg hprotected, if_neg hcached, if_neg hrange, if_neg hend]
  generalize (if n.sgtExt.isErrOrNull then hgslGetSgt dma table internal n else { node := n, events := [] }) = got
  by_cases htable : got.node.sgtExt.isErrOrNull = true
  · left
    simp [htable, EINVAL]
  · right
    obtain ⟨hpos, hrange⟩ := not_or.1 hrange
    obtain ⟨hsize, hoffset⟩ := not_or.1 hrange
    have hfits : offsetbytes.toNat + sizebytes.toNat ≤ desc.size.toNat := by
      rw [BitVec.lt_def, BitVec.toNat_add, BitVec.toNat_setWidth] at hend
      unfold UINT_MAX at hsize hoffset
      have hdesc := desc.size.isLt
      omega
    simp only [if_neg htable]
    exact ⟨⟨trivial, by simpa using hcached⟩, ⟨hpos, not_lt.1 hsize, not_lt.1 hoffset, hfits⟩, trivial, trivial,
      trivial⟩

/-- The checks are those that come before the walk. -/
theorem hgslMemCacheOp_ret :
    (n.hgslMemCacheOp desc dma table sgl internal offsetbytes sizebytes).ret =
      hgslMemCacheOp
        { flags := n.flags
          hasTable := !(if n.sgtExt.isErrOrNull then (hgslGetSgt dma table internal n).node else n).sgtExt.isErrOrNull }
        desc offsetbytes sizebytes := by
  unfold SgtNode.hgslMemCacheOp hgslMemCacheOp
  split_ifs <;> simp_all [isProtected, isCached]

end Operation

/-- **The right pages.** Where the operation is carried out, the pages that go to `_dma_cache_op` are those that
    intersect the range, each once and in order. Otherwise none goes there. -/
theorem cacheOp_covers (n : SgtNode) (desc : Memdesc) (dma : DmaCalls) (table : TableCalls) {sgl : List Scatterlist}
    (internal : Bool) (offsetbytes sizebytes : BitVec 64) (hsgl : WholePages sgl desc.size) :
    let r := n.hgslMemCacheOp desc dma table sgl internal offsetbytes sizebytes
    (r.ret = 0 ∧ isCached n.flags = true → r.Covers sgl offsetbytes.toNat sizebytes.toNat) ∧
      (¬ (r.ret = 0 ∧ isCached n.flags = true) → r.walk.calls = []) := by
  intro r
  obtain ⟨hnone, hrefused⟩ | ⟨haccepted, ⟨hpos, hsize, hoffset, hend⟩, hpgOffset, hpgSize, hwalk⟩ :=
    hgslMemCacheOp_cases n desc dma table internal offsetbytes sizebytes sgl
  · refine ⟨?_, fun _ => by rw [hnone]⟩
    rintro ⟨hret, hcached⟩
    rcases hrefused with hne | hmode
    · exact absurd hret hne
    · simp [hmode] at hcached
  · refine ⟨fun _ => ?_, fun hno => absurd haccepted hno⟩
    have hfirst : r.pgOffset.toNat = offsetbytes.toNat / 4096 := by rw [hpgOffset, toNat_pgOffset hoffset]
    have hcount : r.pgSize.toNat = (offsetbytes.toNat % 4096 + sizebytes.toNat + 4095) / 4096 := by
      rw [hpgSize, toNat_pgSize hsize]
    have hexact : r.walk.Exact := by
      rw [hwalk]
      exact cacheOpLoop_exact sgl r.pgOffset r.pgSize
    have hwindow : r.walk.calls.map DmaCacheCall.extent =
        Extent.window (sgl.map Scatterlist.extent) r.pgOffset.toNat r.pgSize.toNat := by
      rw [hwalk]
      exact cacheOpLoop_window sgl r.pgOffset r.pgSize
    have hpages : r.pages =
        ((Extent.sequence (sgl.map Scatterlist.extent)).drop r.pgOffset.toNat).take r.pgSize.toNat := by
      rw [← Extent.sequence_window, ← hwindow, MemCacheOp.pages, Extent.sequence, List.flatMap_map]
      rfl
    have hsome : 0 < r.pgSize.toNat := by
      have hpos : 0 < sizebytes.toNat := Nat.pos_of_ne_zero fun hzero => hpos (BitVec.eq_of_toNat_eq hzero)
      rw [hcount]
      omega
    have hlast : (offsetbytes.toNat + sizebytes.toNat + 4095) / 4096 - offsetbytes.toNat / 4096 =
        (offsetbytes.toNat % 4096 + sizebytes.toNat + 4095) / 4096 := by omega
    have htotal := length_sequence_of_whole hsgl
    constructor
    · rw [hpages, touchedPages_eq hsgl.whole, hfirst, hcount, hlast]
    · rw [hpages, List.length_take, List.length_drop, hfirst, hcount]
      omega
    · exact hfirst
    · exact hcount
    · exact hexact
    · intro c hc
      have hmem : c.extent ∈ Extent.window (sgl.map Scatterlist.extent) r.pgOffset.toNat r.pgSize.toNat := by
        rw [← hwindow]
        exact List.mem_map_of_mem hc
      exact Extent.count_pos_of_mem_window hsome hmem
    · intro op y hy
      obtain ⟨c, hc, hsync⟩ := List.mem_flatMap.1 hy
      exact ⟨c, hc, dmaCacheOp_sgl (hexact.shifts c hc) hsync⟩

/-- Three pages in two entries. -/
def threePages : List Scatterlist := [⟨16, 0x2000#32⟩, ⟨64, 0x1000#32⟩]

/-- The range begins in the second page and ends in the third, which is in the next entry. -/
theorem cacheOp_covers_threePages :
    let r := SgtNode.hgslMemCacheOp { flags := GSL_MEMFLAGS_WRITEBACK, sgtExt := .ptr 0 }
      { gpuaddr := 0x100000#64, size64 := 0x3000#64 } ⟨.ok 0, .ok 0, .ok 0⟩ ⟨none, 0⟩ threePages true
      0x1800#64 0x1000#64
    r.pages = [17, 64] ∧ r.Covers threePages 0x1800 0x1000 := by
  refine ⟨by decide, ?_⟩
  refine (cacheOp_covers { flags := GSL_MEMFLAGS_WRITEBACK, sgtExt := .ptr 0 }
    { gpuaddr := 0x100000#64, size64 := 0x3000#64 } ⟨.ok 0, .ok 0, .ok 0⟩ ⟨none, 0⟩ true 0x1800#64 0x1000#64 ?_).1 ?_
  · constructor <;> decide
  · decide

end Hgsl
