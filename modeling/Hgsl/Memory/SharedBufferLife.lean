import Hgsl.Memory.SharedBufferTable

set_option autoImplicit false

/-! # A buffer from its allocation to its last page

The rest of what holds of a buffer in any order of its operations: which phase it is in, what the phase says
about the driver's reference and about the pages, and which of those who use the table can still be there. -/

namespace Hgsl

/-! ## Allocation -/

/-- What a call of `hgsl_sharedmem_alloc` comes to on a node without tables. -/
structure AllocSpec (n : SgtNode) (done : SharedmemAlloc) : Prop where
  events : done.events = []
  filled : Filled done.blocks (done.node.pages.getD [])
  pageCount : done.node.pageCount = (done.node.pages.getD []).length
  flags : done.node.flags = n.flags
  ext : done.node.sgtExt = n.sgtExt
  success : done.ret = 0 → ∃ b, done.node.dmaBuf = .ptr b
  failure : done.ret ≠ 0 → done.node.dmaBuf = .null
  table : done.locked = true → (∃ t, done.node.sgt = .ptr t) ∧ done.node.sgtRefcount = 1#32
  noTable : done.locked = false → done.node.sgt = .null ∧ done.node.sgtRefcount = 0#32
  locked : done.locked = true → isProtected n.flags = true
  protect : done.ret = 0 → isProtected n.flags = true → done.locked = true

section Alloc

variable {n : SgtNode}

/-- On a node without tables and dma-buf, `hgsl_lock_pages` either makes a table, without a reference, or
    leaves everything as it was. -/
theorem hgslLockPages_spec (table : TableCalls) (assign : Int) (hsgt : n.sgt = .null) (hcount : n.sgtRefcount = 0#32)
    (hbuf : n.dmaBuf = .null) :
    (∃ t, hgslLockPages table assign n = (0, { node := { n with sgt := .ptr t, sgtRefcount := 1#32 }, events := [] })) ∨
      ∃ e, e ≠ 0 ∧ hgslLockPages table assign n = (e, { node := n, events := [] }) := by
  obtain ⟨fd, dmaBuf, pages, pageCount, attach, sgt, sgtExt, sgtRefcount, flags, info⟩ := n
  dsimp only at hsgt hcount hbuf
  subst hsgt hcount hbuf
  generalize hn : (⟨fd, .null, pages, pageCount, attach, .null, sgtExt, 0#32, flags, info⟩ : SgtNode) = n
  have hspec := hgslGetSgtInternal_spec table n
  generalize hgot : hgslGetSgtInternal table n = got at hspec
  cases hspec with
  | refused e he => exact .inr ⟨e, he, by simp [hgslLockPages, hgot]⟩
  | counted t ht => simp [← hn] at ht
  | made t hnone =>
      subst hn
      by_cases hassign : assign = 0
      · exact .inl ⟨t, by simp [hgslLockPages, hgot, hassign]⟩
      · exact .inr ⟨assign, hassign, by simp [hgslLockPages, hgot, hassign, hgslPutSgtInternal]⟩

theorem lockAndExport_spec (calls : AllocCalls) (hsgt : n.sgt = .null) (hcount : n.sgtRefcount = 0#32)
    (hbuf : n.dmaBuf = .null) {blocks : List PageBlock} (hfilled : Filled blocks (n.pages.getD []))
    (hpages : n.pageCount = (n.pages.getD []).length) :
    AllocSpec n (lockAndExport calls n.flags blocks n) := by
  cases hprot : isProtected n.flags with
  | false =>
      cases hexp : calls.dmaBufExport with
      | error e => constructor <;> simp_all [lockAndExport, hgslExportDmaBuf, ENOMEM]
      | ok b => constructor <;> simp_all [lockAndExport, hgslExportDmaBuf]
  | true =>
      obtain ⟨t, hlock⟩ | ⟨e, he, hlock⟩ := hgslLockPages_spec calls.table calls.assign hsgt hcount hbuf
      · cases hexp : calls.dmaBufExport with
        | error e => constructor <;> simp_all [lockAndExport, hgslExportDmaBuf, ENOMEM]
        | ok b => constructor <;> simp_all [lockAndExport, hgslExportDmaBuf]
      · constructor <;> simp_all [lockAndExport]

theorem hgslSharedmemAlloc_spec (calls : AllocCalls) (sizebytes flags : BitVec 32) :
    AllocSpec { flags := flags } (hgslSharedmemAlloc calls sizebytes flags { flags := flags }) := by
  have hnone : ∀ ret, ret ≠ 0 →
      AllocSpec { flags := flags } { ret := ret, node := { flags := flags }, events := [] } := by
    intro ret hret
    constructor <;> simp [hret, Filled.nil]
  unfold hgslSharedmemAlloc
  dsimp only
  generalize (((sizebytes + 0xFFF#32) &&& ~~~0xFFF#32) >>> 12).toNat = pcount
  have hfilled := allocLoop_filled calls.allocPages pcount 0 pcount
  generalize allocLoop calls.allocPages pcount 0 pcount = got at hfilled ⊢
  split_ifs with hsize hmalloc hall
  · exact hnone _ (by decide)
  · exact hnone _ (by decide)
  · constructor <;> simp [ENOMEM, hfilled]
  · have hspec : AllocSpec { flags := flags, pages := some got.pages, pageCount := got.pages.length, fd := -1 } _ :=
      lockAndExport_spec calls rfl rfl rfl hfilled rfl
    exact { hspec with }

end Alloc

/-! ## What a phase says -/

namespace SharedBuffer

/-- Phases, pages and dma-buf fit together. -/
structure LifeInv (s : SharedBuffer) : Prop where
  live : s.phase = .live → s.exported = true
  failed : s.phase = .failed → s.exported = false
  releasedExported : s.released = true → s.exported = true
  locked : s.locked = true → isProtected s.node.flags = true
  protect : s.exported = true → isProtected s.node.flags = true → s.locked = true
  buf : s.exported = true → s.released = false → ∃ b, s.node.dmaBuf = .ptr b
  noBuf : s.exported = false → s.node.dmaBuf = .null
  freed : s.freed = if s.done then s.blocks else []
  filled : s.done = false → Filled s.blocks (s.node.pages.getD [])
  pageCount : s.done = false → s.node.pageCount = (s.node.pages.getD []).length
  nodup : (s.blocks.map PageBlock.page).Nodup

/-- Who can still use the table and hold the dma-buf. -/
structure UseInv (s : SharedBuffer) : Prop where
  ext : s.getters.count .cacheOp = if s.node.sgtExt.isErrOrNull then 0 else 1
  extLive : s.node.sgtExt.isErrOrNull = false → s.phase = .live
  lock : s.getters.count .lock = if s.locked && !s.done then 1 else 0
  driver : s.file.holders.count .driver =
    if s.exported = true ∧ (s.phase = .live ∨ s.phase = .freeing) then 1 else 0
  noHolders : s.exported = false → s.file.holders = []
  doneNone : s.done = true → s.getters = [] ∧ s.file.holders = []
  fresh : s.phase = .fresh → s = init s.node.flags

structure BufInv (s : SharedBuffer) : Prop where
  table : s.TableInv
  holders : s.HolderInv
  life : s.LifeInv
  use : s.UseInv

/-- What `LifeInv` is about. -/
def life (s : SharedBuffer) :=
  ((s.node.flags, s.node.dmaBuf, s.node.pages, s.node.pageCount), (s.phase, s.exported, s.released, s.locked),
    s.blocks, s.freed)

section Life

variable {s s' : SharedBuffer} {g : SgtGetter} {got : SgtGot} {put : SgtPut} {i : Nat}

theorem LifeInv.congr (h : s.LifeInv) (heq : s'.life = s.life) : s'.LifeInv := by
  simp only [life, Prod.mk.injEq] at heq
  obtain ⟨⟨hflags, hbuf, hpages, hcount⟩, ⟨hphase, hexp, hrel, hlocked⟩, hblocks, hfreed⟩ := heq
  have hdone : s'.done = s.done := by simp only [done, hphase, hexp, hrel]
  constructor
  · simpa only [hphase, hexp] using h.live
  · simpa only [hphase, hexp] using h.failed
  · simpa only [hrel, hexp] using h.releasedExported
  · simpa only [hlocked, hflags] using h.locked
  · simpa only [hexp, hflags, hlocked] using h.protect
  · simpa only [hexp, hrel, hbuf] using h.buf
  · simpa only [hexp, hbuf] using h.noBuf
  · simpa only [hfreed, hdone, hblocks] using h.freed
  · simpa only [hdone, hblocks, hpages] using h.filled
  · simpa only [hdone, hcount, hpages] using h.pageCount
  · simpa only [hblocks] using h.nodup

theorem life_join (hgot : GotInternal s.node got) : (s.join g got).life = s.life := by
  cases hgot <;> simp [life, join]

theorem life_leave (hput : PutInternal s.node put) : (s.leave g put).life = s.life := by
  cases hput <;> simp [life, leave]

theorem released_of_not_done (hdone : s.done = false) : s.released = false := by
  unfold done at hdone
  simp only [Bool.or_eq_false_iff] at hdone
  exact hdone.1

/-- Somebody holds the dma-buf, so it is there. -/
theorem BufInv.exported (h : s.BufInv) {x : BufHolder} (hx : x ∈ s.file.holders) :
    s.exported = true ∧ s.done = false ∧ s.released = false := by
  have hexp : s.exported = true := by
    by_contra hne
    have hnil := h.use.noHolders (by simpa using hne)
    simp [hnil] at hx
  have hdone : s.done = false := by
    by_contra hne
    have hnil := (h.use.doneNone (by simpa using hne)).2
    simp [hnil] at hx
  exact ⟨hexp, hdone, released_of_not_done hdone⟩

theorem BufInv.not_fresh (h : s.BufInv) (hexp : s.exported = true) : s.phase ≠ .fresh := by
  intro hfresh
  have hinit := h.use.fresh hfresh
  rw [hinit] at hexp
  simp [init] at hexp

theorem two_le_length_of_mem {α : Type*} {l : List α} {a b : α} (ha : a ∈ l) (hb : b ∈ l) (hne : a ≠ b) :
    2 ≤ l.length := by
  have hsub : [a, b] ⊆ l := by simp [ha, hb]
  have hnodup : [a, b].Nodup := by simp [hne]
  exact (hnodup.subperm hsub).length_le

/-- The pages are locked: the table is there. -/
theorem BufInv.lock_mem (h : s.BufInv) (hlocked : s.locked = true) (hdone : s.done = false) :
    .lock ∈ s.getters := by
  rw [← List.count_pos_iff, h.use.lock]
  simp [hlocked, hdone]

/-- Where the table is made for somebody else than `hgsl_lock_pages`, it takes a reference. -/
theorem BufInv.first (h : s.BufInv) (hexp : s.exported = true) (hdone : s.done = false) (hrel : s.released = false) :
    s.getters = [] → s.locked = false ∧ s.node.dmaBuf ≠ .null := by
  intro hnil
  obtain ⟨b, hb⟩ := h.life.buf hexp hrel
  refine ⟨?_, by simp [hb]⟩
  by_contra hlocked
  have hmem := h.lock_mem (by simpa using hlocked) hdone
  simp [hnil] at hmem

/-- Where the last one to put the table is not `hgsl_unlock_pages`, the table has a reference. -/
theorem BufInv.last (h : s.BufInv) (hexp : s.exported = true) (hdone : s.done = false) (hrel : s.released = false)
    (hmem : g ∈ s.getters) (hg : g ≠ .lock) :
    s.getters.length = 1 → (s.node.dmaBuf ≠ .null ↔ s.locked = false) := by
  intro hlen
  obtain ⟨b, hb⟩ := h.life.buf hexp hrel
  have hlocked : s.locked = false := by
    by_contra hne
    have htwo := two_le_length_of_mem hmem (h.lock_mem (by simpa using hne) hdone) hg
    omega
  simp [hb, hlocked]

end Life

end SharedBuffer

end Hgsl
