import Hgsl.Memory.SharedBufferLife

set_option autoImplicit false

/-! # The balance of a buffer's references

Every operation keeps what holds of a buffer, as long as the number of those who have the internal table fits
into its 32-bit counter. -/

namespace Hgsl

namespace SharedBuffer

section Steps

variable {s s' : SharedBuffer} {g : SgtGetter} {got : SgtGot} {put : SgtPut} {i : Nat}

theorem bufInv_init (flags : BitVec 32) : (init flags).BufInv := by
  refine ⟨?_, ?_, ?_, ?_⟩ <;> constructor <;> simp [init, tableRefs, done, RefCount.Balanced, Filled.nil]

/-! ## Allocation -/

theorem bufInv_allocated {flags : BitVec 32} {done : SharedmemAlloc} (hspec : AllocSpec { flags := flags } done)
    (hnodup : (done.blocks.map PageBlock.page).Nodup) : ((init flags).allocated done).BufInv := by
  have hlive : ((init flags).allocated done).done = false := by
    by_cases hret : done.ret = 0 <;> simp [allocated, SharedBuffer.done, init, hret]
  have hbuf := hspec.success
  have hnoBuf := hspec.failure
  refine ⟨?_, ?_, ?_, ?_⟩
  · cases hlocked : done.locked with
    | true =>
        obtain ⟨⟨t, ht⟩, hcount⟩ := hspec.table hlocked
        by_cases hret : done.ret = 0 <;> constructor <;>
          simp [allocated, hlocked, ht, hcount, hret, hspec.events, tableRefs, init, RefCount.init]
    | false =>
        obtain ⟨ht, hcount⟩ := hspec.noTable hlocked
        by_cases hret : done.ret = 0 <;> constructor <;>
          simp [allocated, hlocked, ht, hcount, hret, hspec.events, tableRefs, init, RefCount.init]
  · by_cases hret : done.ret = 0
    · refine ⟨by simpa [allocated, hret] using RefCount.balanced_init _, ?_⟩
      intro i t hmem
      cases hlocked : done.locked <;> simp [allocated, hlocked] at hmem
    · refine ⟨by simp [allocated, hret, init, RefCount.Balanced], ?_⟩
      intro i t hmem
      cases hlocked : done.locked <;> simp [allocated, hlocked] at hmem
  · constructor
    · by_cases hret : done.ret = 0 <;> simp [allocated, hret]
    · by_cases hret : done.ret = 0 <;> simp [allocated, hret]
    · simp [allocated, init]
    · simpa [allocated, hspec.flags] using hspec.locked
    · simpa [allocated, hspec.flags] using hspec.protect
    · simpa [allocated, init] using hbuf
    · simpa [allocated] using hnoBuf
    · rw [hlive]
      simp [allocated, init]
    · simpa [allocated] using fun _ => hspec.filled
    · simpa [allocated] using fun _ => hspec.pageCount
    · simpa [allocated] using hnodup
  · constructor
    · have hext : done.node.sgtExt = .null := hspec.ext
      cases hlocked : done.locked <;> simp [allocated, hlocked, hext]
    · have hext : done.node.sgtExt = .null := hspec.ext
      simp [allocated, hext]
    · rw [hlive]
      cases hlocked : done.locked <;> simp [allocated, hlocked]
    · by_cases hret : done.ret = 0 <;> simp [allocated, hret, init, RefCount.init]
    · by_cases hret : done.ret = 0 <;> simp [allocated, hret, init]
    · simp [hlive]
    · by_cases hret : done.ret = 0 <;> simp [allocated, hret]

theorem BufInv.alloc (h : s.BufInv) {calls : AllocCalls} {sizebytes : BitVec 32}
    (hstep : step s (.alloc calls sizebytes) = some s') : s'.BufInv := by
  unfold step at hstep
  dsimp only at hstep
  split_ifs at hstep with hok
  obtain ⟨hfresh, hnodup⟩ := hok
  obtain rfl := Option.some.inj hstep
  generalize hflags : s.node.flags = flags at *
  have hinit : s = init flags := by rw [← hflags]; exact h.use.fresh hfresh
  subst hinit
  exact bufInv_allocated (hgslSharedmemAlloc_spec calls sizebytes flags) hnodup

/-! ## Getting and putting the table -/

/-- `sgt_ext` is set. -/
def setExt (s : SharedBuffer) (sgtExt : KPtr) : SharedBuffer := { s with node := { s.node with sgtExt } }

theorem TableInv.setExt (h : s.TableInv) (sgtExt : KPtr) : (s.setExt sgtExt).TableInv := by
  constructor
  · simpa [SharedBuffer.setExt] using h.count
  · simpa [SharedBuffer.setExt] using h.sgt
  · simpa [SharedBuffer.setExt] using h.noSgt
  · exact h.held
  · exact h.table

theorem HolderInv.setExt (h : s.HolderInv) (sgtExt : KPtr) : (s.setExt sgtExt).HolderInv := by
  constructor
  · simpa [SharedBuffer.setExt] using h.balanced
  · simpa [SharedBuffer.setExt] using h.mapping

@[simp] theorem life_setExt (s : SharedBuffer) (sgtExt : KPtr) : (s.setExt sgtExt).life = s.life := by
  simp [life, setExt]

theorem setExt_join (hgot : GotInternal s.node got) : (s.join g got).setExt s.node.sgtExt = s.join g got := by
  cases hgot <;> simp [setExt, join]

theorem setExt_leave (hput : PutInternal s.node put) : (s.leave g put).setExt s.node.sgtExt = s.leave g put := by
  cases hput <;> simp [setExt, leave]

/-- Somebody other than `hgsl_lock_pages` gets the table; `sgt_ext` is then as the cache operations leave it. -/
theorem UseInv.join (h : s.UseInv) (hgot : GotInternal s.node got) (hg : g ≠ .lock) (hexp : s.exported = true)
    (hdone : s.done = false) (hfresh : s.phase ≠ .fresh) {sgtExt : KPtr}
    (hext : (s.join g got).getters.count .cacheOp = if sgtExt.isErrOrNull then 0 else 1)
    (hlive : sgtExt.isErrOrNull = false → s.phase = .live) : ((s.join g got).setExt sgtExt).UseInv := by
  have hdone' : ((s.join g got).setExt sgtExt).done = false := hdone
  constructor
  · exact hext
  · simpa [SharedBuffer.setExt, SharedBuffer.join] using hlive
  · rw [hdone', ← hdone]
    have hlock := h.lock
    cases hgot <;> simpa [SharedBuffer.setExt, SharedBuffer.join, hg] using hlock
  · have hcount : ((s.join g got).setExt sgtExt).file.holders.count .driver = s.file.holders.count .driver :=
      count_tableFile (by simp) _ _
    exact hcount.trans h.driver
  · simp [SharedBuffer.setExt, SharedBuffer.join, hexp]
  · simp [hdone']
  · intro hphase
    exact absurd hphase hfresh

theorem UseInv.leave (h : s.UseInv) (hg : g ≠ .lock) (hexp : s.exported = true)
    (hdone : s.done = false) (hfresh : s.phase ≠ .fresh) {sgtExt : KPtr}
    (hext : (s.leave g put).getters.count .cacheOp = if sgtExt.isErrOrNull then 0 else 1)
    (hlive : sgtExt.isErrOrNull = false → s.phase = .live) : ((s.leave g put).setExt sgtExt).UseInv := by
  have hdone' : ((s.leave g put).setExt sgtExt).done = false := hdone
  constructor
  · exact hext
  · simpa [SharedBuffer.setExt, SharedBuffer.leave] using hlive
  · rw [hdone', ← hdone]
    have hlock := h.lock
    simpa [SharedBuffer.setExt, SharedBuffer.leave, List.count_erase_of_ne hg.symm] using hlock
  · have hcount : ((s.leave g put).setExt sgtExt).file.holders.count .driver = s.file.holders.count .driver :=
      count_tableFile (by simp) _ _
    exact hcount.trans h.driver
  · simp [SharedBuffer.setExt, SharedBuffer.leave, hexp]
  · simp [hdone']
  · intro hphase
    exact absurd hphase hfresh

theorem BufInv.map (h : s.BufInv) {table : TableCalls} (hroom : s.getters.length + 1 < 2 ^ 32)
    (hstep : step s (.map i table) = some s') : s'.BufInv := by
  unfold step at hstep
  dsimp only at hstep
  split_ifs at hstep with himp
  obtain rfl := Option.some.inj hstep
  obtain ⟨hexp, hdone, hrel⟩ := h.exported himp
  have hgot : GotInternal s.node (hgslMemMapDmaBuf table s.node) := hgslGetSgtInternal_spec table s.node
  generalize hgslMemMapDmaBuf table s.node = got at hgot
  refine ⟨h.table.join hgot hroom (h.first hexp hdone hrel), h.holders.join h.table hgot ?_,
    h.life.congr (life_join hgot), ?_⟩
  · rintro j t hj
    obtain ⟨rfl, rfl⟩ := SgtGetter.mapping.inj hj
    exact ⟨rfl, himp⟩
  · rw [← setExt_join hgot]
    refine h.use.join hgot (by simp) hexp hdone (h.not_fresh hexp) ?_ h.use.extLive
    have hext := h.use.ext
    cases hgot <;> simpa [join] using hext

theorem BufInv.cacheOp (h : s.BufInv) {dma : DmaCalls} {table : TableCalls} (hroom : s.getters.length + 1 < 2 ^ 32)
    (hstep : step s (.cacheOp dma table) = some s') : s'.BufInv := by
  unfold step at hstep
  dsimp only at hstep
  split_ifs at hstep with hok hnone
  · obtain ⟨hlive, hprot⟩ := hok
    have hexp := h.life.live hlive
    have hdriver : .driver ∈ s.file.holders := by
      rw [← List.count_pos_iff, h.use.driver]
      simp [hexp, hlive]
    obtain ⟨-, hdone, hrel⟩ := h.exported hdriver
    have hgot := hgslGetSgtInternal_spec table s.node
    have heq : s' =
        (s.join .cacheOp (hgslGetSgtInternal table s.node)).setExt (hgslGetSgtInternal table s.node).sgt := by
      obtain rfl := Option.some.inj hstep
      simp [join, setExt, hgslGetSgt, hnone]
    generalize hgslGetSgtInternal table s.node = got at hgot heq
    subst heq
    refine ⟨(h.table.join hgot hroom (h.first hexp hdone hrel)).setExt _,
      (h.holders.join h.table hgot (by simp)).setExt _, h.life.congr ?_, ?_⟩
    · rw [life_setExt, life_join hgot]
    · refine h.use.join hgot (by simp) hexp hdone (h.not_fresh hexp) ?_ (fun _ => hlive)
      have hext := h.use.ext
      rw [hnone] at hext
      cases hgot <;> simpa [join] using hext
  · obtain rfl := Option.some.inj hstep
    exact h

theorem BufInv.unmap (h : s.BufInv) {sgt : KPtr} (hstep : step s (.unmap i sgt) = some s') : s'.BufInv := by
  unfold step at hstep
  dsimp only at hstep
  split_ifs at hstep with hmem
  obtain ⟨hsgt, himp⟩ := h.holders.mapping i sgt hmem
  obtain ⟨hexp, hdone, hrel⟩ := h.exported himp
  have hput : PutInternal s.node (hgslMemUnmapDmaBuf sgt s.node) := by
    simpa [hgslMemUnmapDmaBuf, hsgt] using hgslPutSgtInternal_spec s.node
  obtain rfl := Option.some.inj hstep
  generalize hgslMemUnmapDmaBuf sgt s.node = put at hput
  have hlast := h.last hexp hdone hrel hmem (by simp)
  refine ⟨h.table.leave hput hmem hlast, h.holders.leave h.table hput hmem hlast, h.life.congr (life_leave hput), ?_⟩
  rw [← setExt_leave hput]
  refine h.use.leave (by simp) hexp hdone (h.not_fresh hexp) ?_ h.use.extLive
  simpa [leave, List.count_erase_of_ne] using h.use.ext

/-! ## Importers -/

theorem BufInv.importerGet (h : s.BufInv) (hstep : step s (.importerGet i) = some s') : s'.BufInv := by
  unfold step at hstep
  obtain ⟨file, hget, rfl⟩ := Option.map_eq_some_iff.1 hstep
  obtain ⟨hcount, rfl⟩ := RefCount.getUnlessZero_eq_some.1 hget
  have hne : s.file.holders ≠ [] := by
    intro hnil
    have hbalanced := h.holders.balanced
    rw [RefCount.Balanced, hnil] at hbalanced
    exact hcount hbalanced
  obtain ⟨x, hx⟩ := List.exists_mem_of_ne_nil _ hne
  obtain ⟨hexp, hdone, hrel⟩ := h.exported hx
  refine ⟨⟨h.table.count, h.table.sgt, h.table.noSgt, h.table.held, ?_⟩, ⟨h.holders.balanced.get _, ?_⟩,
    h.life.congr rfl, ⟨h.use.ext, h.use.extLive, h.use.lock, ?_, ?_, ?_, ?_⟩⟩
  · exact (RefCount.count_get_of_ne (by simp)).trans h.table.table
  · intro j t hmem
    obtain ⟨ht, hj⟩ := h.holders.mapping j t hmem
    exact ⟨ht, List.mem_cons_of_mem _ hj⟩
  · exact (RefCount.count_get_of_ne (by simp)).trans h.use.driver
  · simp [hexp]
  · intro hd
    exact absurd (hdone.symm.trans hd) (by simp)
  · intro hfresh
    exact absurd hfresh (h.not_fresh hexp)

theorem BufInv.importerPut (h : s.BufInv) (hstep : step s (.importerPut i) = some s') : s'.BufInv := by
  unfold step at hstep
  dsimp only at hstep
  split_ifs at hstep with hok
  obtain rfl := Option.some.inj hstep
  obtain ⟨himp, hkeep⟩ := hok
  obtain ⟨hexp, hdone, hrel⟩ := h.exported himp
  refine ⟨⟨h.table.count, h.table.sgt, h.table.noSgt, h.table.held, ?_⟩, ⟨h.holders.balanced.put himp, ?_⟩,
    h.life.congr rfl, ⟨h.use.ext, h.use.extLive, h.use.lock, ?_, ?_, ?_, ?_⟩⟩
  · exact (RefCount.count_put_of_ne (by simp)).trans h.table.table
  · intro j t hmem
    obtain ⟨ht, hj⟩ := h.holders.mapping j t hmem
    refine ⟨ht, ?_⟩
    by_cases hij : j = i
    · -- an importer with a mapping drops none but a second reference
      subst hij
      have hmaps : s.maps j = true := by
        unfold maps
        rw [List.any_eq_true]
        exact ⟨_, hmem, by simp [SgtGetter.isMappingOf]⟩
      have htwo := hkeep hmaps
      rw [← List.count_pos_iff]
      simp only [RefCount.put, List.count_erase_self]
      omega
    · exact (RefCount.mem_put_of_ne (by simpa using hij)).2 hj
  · exact (RefCount.count_put_of_ne (by simp)).trans h.use.driver
  · simp [hexp]
  · intro hd
    exact absurd (hdone.symm.trans hd) (by simp)
  · intro hfresh
    exact absurd hfresh (h.not_fresh hexp)

/-! ## Freeing -/

/-- Without importers and outside the trees, only `hgsl_lock_pages` can have the table. -/
theorem BufInv.getters_eq (h : s.BufInv) (himp : ∀ i, .importer i ∉ s.file.holders) (hphase : s.phase ≠ .live)
    (hdone : s.done = false) : s.getters = if s.locked then [.lock] else [] := by
  have hcache : s.getters.count .cacheOp = 0 := by
    rw [h.use.ext, if_pos]
    by_contra hext
    exact hphase (h.use.extLive (by simpa using hext))
  have hall : ∀ g ∈ s.getters, g = .lock := by
    intro g hg
    cases g with
    | lock => simp
    | cacheOp => exact absurd hg (List.count_eq_zero.1 hcache)
    | mapping i t => exact absurd (h.holders.mapping i t hg).2 (himp i)
  have hrep := List.eq_replicate_of_mem hall
  have hlen : s.getters.length = s.getters.count .lock := by
    conv_rhs => rw [hrep, List.count_replicate_self]
  rw [hrep, hlen, h.use.lock]
  cases hlocked : s.locked <;> simp [hdone]

theorem compoundOrder_eq (h : s.LifeInv) {b : PageBlock} (hb : b ∈ s.blocks) : s.compoundOrder b.page = b.order := by
  obtain ⟨b', hfind⟩ : ∃ b', s.blocks.find? (fun c => c.page = b.page) = some b' := by
    rw [← Option.isSome_iff_exists, List.find?_isSome]
    exact ⟨b, hb, by simp⟩
  have hmem := List.mem_of_find?_eq_some hfind
  have hpage : b'.page = b.page := by simpa using List.find?_some hfind
  obtain rfl := List.inj_on_of_nodup_map h.nodup hmem hb hpage
  simp [compoundOrder, hfind]

/-- What `hgsl_mem_free_actual` leaves of a buffer that only `hgsl_lock_pages` can still use. -/
theorem BufInv.freeActual_eq (h : s.BufInv) (hgetters : s.getters = if s.locked then [.lock] else [])
    (hdone : s.done = false) :
    s.freeActual =
      { s with
        node := { s.node with
          pageCount := 0, sgt := .null, sgtRefcount := 0#32,
          dmaBuf := if s.locked then .null else s.node.dmaBuf }
        getters := []
        freed := s.blocks } := by
  have hfreed : s.freed = [] := by simpa [hdone] using h.life.freed
  have hfree : hgslFreePages s.compoundOrder (s.node.pages.getD []) s.node.pageCount = s.blocks := by
    rw [hgslFreePages, h.life.pageCount hdone, List.take_length]
    exact freeLoop_filled (h.life.filled hdone) (fun b hb => compoundOrder_eq h.life hb) le_rfl
  have hcount := h.table.count
  cases hlocked : s.locked with
  | true =>
      rw [hlocked] at hgetters
      have hprot := h.life.locked hlocked
      obtain ⟨t, ht⟩ := h.table.sgt (by simp [hgetters])
      have hone : s.node.sgtRefcount = 1#32 := by
        apply BitVec.eq_of_toNat_eq
        simpa [hgetters] using hcount
      simp [freeActual, hgslMemFreeActual, hprot, hgslUnlockPages, ht, hgslPutSgtInternal, hone, leave, tableFile,
        hgetters, hfreed, hfree, hlocked]
  | false =>
      rw [hlocked] at hgetters
      have hsgt := h.table.noSgt (by simpa using hgetters)
      have hzero : s.node.sgtRefcount = 0#32 := by
        apply BitVec.eq_of_toNat_eq
        simpa [hgetters] using hcount
      have hput : (if isProtected s.node.flags = true then hgslUnlockPages s.node
          else ({ node := s.node, events := [] } : SgtPut)) = { node := s.node, events := [] } := by
        by_cases hprot : isProtected s.node.flags = true <;> simp [hprot, hgslUnlockPages, hsgt]
      simp [freeActual, hgslMemFreeActual, hput, leave, tableFile, hgetters, hfreed, hfree, hlocked, hsgt, hzero]

/-- The last of a buffer: the table is gone, and every block of pages is freed. -/
theorem BufInv.freed (h : s.BufInv) (hphase : s.phase ≠ .live) (hdone : s.done = false)
    (hholders : s.file.holders = []) :
    ({ s.freeActual with phase := .gone, released := s.exported } : SharedBuffer).BufInv := by
  rw [h.freeActual_eq (h.getters_eq (by simp [hholders]) hphase hdone) hdone]
  have htable := h.table.table
  rw [hholders, List.count_nil] at htable
  have hrefs : s.tableRefs = [] := List.eq_nil_of_length_eq_zero htable.symm
  have hheld := h.table.held
  rw [hrefs] at hheld
  have hnull : s.node.sgtExt.isErrOrNull = true := by
    by_contra hext
    exact hphase (h.use.extLive (by simpa using hext))
  refine ⟨⟨by simp, by simp, by simp, by simpa [tableRefs] using hheld, by simp [tableRefs, hholders]⟩,
    ⟨h.holders.balanced, by simp⟩, ?_, ?_⟩
  · constructor
    · simp
    · simp
    · simp
    · exact h.life.locked
    · exact h.life.protect
    · intro hexp hrel
      simp_all
    · intro hexp
      have hbuf := h.life.noBuf hexp
      by_cases hlocked : s.locked = true <;> simp [hlocked, hbuf]
    · simp [done]
    · simp [done]
    · simp [done]
    · exact h.life.nodup
  · constructor
    · simp [hnull]
    · simp [hnull]
    · simp [done]
    · simp [hholders]
    · exact fun _ => hholders
    · exact fun _ => ⟨by simp, hholders⟩
    · simp

theorem BufInv.not_done (h : s.BufInv) (hphase : s.phase = .live ∨ s.phase = .failed ∨ s.phase = .freeing) :
    s.done = false := by
  have hrel : s.released = false := by
    by_contra hne
    have hrel : s.released = true := by simpa using hne
    have hexp := h.life.releasedExported hrel
    have hnil := (h.use.doneNone (by simp [done, hrel])).2
    have hdriver := h.use.driver
    rw [hnil, List.count_nil, hexp] at hdriver
    obtain hlive | hfailed | hfreeing := hphase
    · simp [hlive] at hdriver
    · simp [h.life.failed hfailed] at hexp
    · simp [hfreeing] at hdriver
  obtain hlive | hfailed | hfreeing := hphase <;> simp [done, *]

/-- `hgsl_sharedmem_free` leaves no table of the cache operations. -/
theorem BufInv.putExt (h : s.BufInv) :
    s.putExt.BufInv ∧ s.putExt.phase = s.phase ∧ s.putExt.node.sgtExt.isErrOrNull = true := by
  cases hext : s.node.sgtExt.isErrOrNull with
  | true =>
      have hcache : .cacheOp ∉ s.getters := by
        rw [← List.count_eq_zero, h.use.ext, if_pos hext]
      have heq : s.putExt = s := by
        simp [SharedBuffer.putExt, hgslPutSgt, hext, SharedBuffer.leave, tableFile, List.erase_of_not_mem hcache]
      rw [heq]
      exact ⟨h, rfl, hext⟩
  | false =>
      have hlive := h.use.extLive hext
      have hexp := h.life.live hlive
      have hdone := h.not_done (.inl hlive)
      have hmem : .cacheOp ∈ s.getters := by
        rw [← List.count_pos_iff, h.use.ext, hext]
        simp
      have hdriver : .driver ∈ s.file.holders := by
        rw [← List.count_pos_iff, h.use.driver]
        simp [hexp, hlive]
      obtain ⟨-, -, hrel⟩ := h.exported hdriver
      have hlast := h.last hexp hdone hrel hmem (by simp)
      have hput := hgslPutSgtInternal_spec s.node
      have heq : s.putExt = (s.leave .cacheOp (hgslPutSgtInternal s.node)).setExt .null := by
        simp [SharedBuffer.putExt, hgslPutSgt, hext, SharedBuffer.leave, setExt]
      rw [heq]
      generalize hgslPutSgtInternal s.node = put at hput
      refine ⟨⟨(h.table.leave hput hmem hlast).setExt _, (h.holders.leave h.table hput hmem hlast).setExt _,
        h.life.congr ?_, ?_⟩, by simp [setExt, leave], by simp [setExt]⟩
      · rw [life_setExt, life_leave hput]
      · refine h.use.leave (by simp) hexp hdone (h.not_fresh hexp) ?_ (by simp)
        have hcount := h.use.ext
        rw [hext] at hcount
        simp [SharedBuffer.leave, hcount]

theorem BufInv.freeing (h : s.BufInv) (hphase : s.phase = .live ∨ s.phase = .failed)
    (hext : s.node.sgtExt.isErrOrNull = true) : ({ s with phase := .freeing } : SharedBuffer).BufInv := by
  have hdone := h.not_done (by tauto)
  have hfreed : s.freed = [] := by simpa [hdone] using h.life.freed
  have hrel := released_of_not_done hdone
  have hdone' : ({ s with phase := .freeing } : SharedBuffer).done = false := by simp [done, hrel]
  refine ⟨⟨h.table.count, h.table.sgt, h.table.noSgt, h.table.held, h.table.table⟩,
    ⟨h.holders.balanced, h.holders.mapping⟩, ?_, ?_⟩
  · refine ⟨by simp, by simp, h.life.releasedExported, h.life.locked, h.life.protect, h.life.buf, h.life.noBuf, ?_,
      fun _ => h.life.filled hdone, fun _ => h.life.pageCount hdone, h.life.nodup⟩
    rw [hdone']
    simpa using hfreed
  · refine ⟨h.use.ext, by simp [hext], ?_, ?_, h.use.noHolders, by simp [hdone'], by simp⟩
    · rw [hdone', ← hdone]
      exact h.use.lock
    · have hdriver := h.use.driver
      obtain hlive | hfailed := hphase
      · simpa [hlive] using hdriver
      · simpa [h.life.failed hfailed] using hdriver

theorem BufInv.freeSgt (h : s.BufInv) (hstep : step s .freeSgt = some s') : s'.BufInv := by
  unfold step at hstep
  dsimp only at hstep
  split_ifs at hstep with hphase
  obtain rfl := Option.some.inj hstep
  obtain ⟨hput, hsame, hext⟩ := h.putExt
  exact hput.freeing (by rw [hsame]; exact hphase) hext

/-- The driver drops its reference. -/
theorem BufInv.dropDriver (h : s.BufInv) (hphase : s.phase = .freeing) (hexp : s.exported = true) :
    ({ s with phase := .gone, file := s.file.put .driver } : SharedBuffer).BufInv := by
  have hdriver := h.use.driver
  rw [if_pos ⟨hexp, .inr hphase⟩] at hdriver
  have hmem : .driver ∈ s.file.holders := List.count_pos_iff.1 (by omega)
  obtain ⟨-, hdone, hrel⟩ := h.exported hmem
  have hfreed : s.freed = [] := by simpa [hdone] using h.life.freed
  have hnull : s.node.sgtExt.isErrOrNull = true := by
    by_contra hext
    have hlive := h.use.extLive (by simpa using hext)
    simp [hphase] at hlive
  have hdone' : ({ s with phase := .gone, file := s.file.put .driver } : SharedBuffer).done = false := by
    simp [done, hrel, hexp]
  refine ⟨⟨h.table.count, h.table.sgt, h.table.noSgt, h.table.held, ?_⟩, ⟨h.holders.balanced.put hmem, ?_⟩, ?_, ?_⟩
  · exact (RefCount.count_put_of_ne (by simp)).trans h.table.table
  · intro j t hj
    obtain ⟨ht, himp⟩ := h.holders.mapping j t hj
    exact ⟨ht, (RefCount.mem_put_of_ne (by simp)).2 himp⟩
  · refine ⟨by simp, by simp, h.life.releasedExported, h.life.locked, h.life.protect, h.life.buf, h.life.noBuf, ?_,
      fun _ => h.life.filled hdone, fun _ => h.life.pageCount hdone, h.life.nodup⟩
    rw [hdone']
    simpa using hfreed
  · refine ⟨h.use.ext, by simp [hnull], ?_, ?_, by simp [hexp], by simp [hdone'], by simp⟩
    · rw [hdone', ← hdone]
      exact h.use.lock
    · simp [RefCount.put, List.count_erase_self, hdriver]

theorem BufInv.freeBuf (h : s.BufInv) (hstep : step s .freeBuf = some s') : s'.BufInv := by
  unfold step at hstep
  dsimp only at hstep
  split_ifs at hstep with hphase hbuf
  · obtain rfl := Option.some.inj hstep
    refine h.dropDriver hphase ?_
    by_contra hne
    exact hbuf (h.life.noBuf (by simpa using hne))
  · have hdone := h.not_done (.inr (.inr hphase))
    have hrel := released_of_not_done hdone
    have hexp : s.exported = false := by
      by_contra hne
      obtain ⟨b, hb⟩ := h.life.buf (by simpa using hne) hrel
      exact hbuf (by simp [hb])
    have hfreed := h.freed (by simp [hphase]) hdone (h.use.noHolders hexp)
    have heq := h.freeActual_eq (h.getters_eq (by simp [h.use.noHolders hexp]) (by simp [hphase]) hdone) hdone
    obtain rfl := Option.some.inj hstep
    rw [heq] at hfreed ⊢
    simpa [hexp, hrel] using hfreed

theorem BufInv.release (h : s.BufInv) (hstep : step s .release = some s') : s'.BufInv := by
  unfold step at hstep
  dsimp only at hstep
  split_ifs at hstep with hok
  obtain ⟨hexp, hcount, hrel⟩ := hok
  have hbalanced := h.holders.balanced
  rw [RefCount.Balanced, hcount] at hbalanced
  have hholders : s.file.holders = [] := List.eq_nil_of_length_eq_zero hbalanced.symm
  have hdone : s.done = false := by simp [done, hrel, hexp]
  have hdriver := h.use.driver
  rw [hholders, List.count_nil] at hdriver
  have hphase : s.phase = .gone := by
    cases hp : s.phase with
    | fresh => exact absurd hp (h.not_fresh hexp)
    | live => simp [hexp, hp] at hdriver
    | failed => simp [h.life.failed hp] at hexp
    | freeing => simp [hexp, hp] at hdriver
    | gone => rfl
  have hfreed := h.freed (by simp [hphase]) hdone hholders
  have heq := h.freeActual_eq (h.getters_eq (by simp [hholders]) (by simp [hphase]) hdone) hdone
  obtain rfl := Option.some.inj hstep
  rw [heq] at hfreed ⊢
  simpa [hexp, hphase] using hfreed

theorem BufInv.step (h : s.BufInv) {op : BufOp} (hok : s.FewGetters op) (hstep : step s op = some s') :
    s'.BufInv := by
  cases op with
  | alloc calls sizebytes => exact h.alloc hstep
  | cacheOp dma table => exact h.cacheOp hok hstep
  | importerGet i => exact h.importerGet hstep
  | importerPut i => exact h.importerPut hstep
  | map i table => exact h.map hok hstep
  | unmap i sgt => exact h.unmap hstep
  | freeSgt => exact h.freeSgt hstep
  | freeBuf => exact h.freeBuf hstep
  | release => exact h.release hstep

theorem bufInv_of_run {flags : BitVec 32} {ops : List BufOp}
    (h : Trace.exec (Trace.guarded FewGetters SharedBuffer.step) (init flags) ops = some s) : s.BufInv := by
  refine Trace.exec_invariant ?_ (bufInv_init flags) h
  intro s op s' hinv hstep
  obtain ⟨hok, hstep⟩ := Trace.guarded_eq_some.1 hstep
  exact hinv.step hok hstep

/-- When the driver and all importers have dropped the dma-buf, so has the table. -/
theorem BufInv.holders_nil (h : s.BufInv) (hphase : s.phase = .gone) (hdone : s.done = false)
    (himp : ∀ i, .importer i ∉ s.file.holders) : s.file.holders = [] := by
  have hdriver := h.use.driver
  rw [if_neg (by simp [hphase]), List.count_eq_zero] at hdriver
  have htable : .table ∉ s.file.holders := by
    rw [← List.count_eq_zero, h.table.table, List.length_eq_zero_iff]
    cases hlocked : s.locked with
    | true => simp [tableRefs, hlocked]
    | false =>
        apply tableRefs_of_nil h.table
        simpa [hlocked] using h.getters_eq himp (by simp [hphase]) hdone
  refine List.eq_nil_iff_forall_not_mem.2 ?_
  intro x hx
  cases x with
  | driver => exact hdriver hx
  | table => exact htable hx
  | importer i => exact himp i hx

/-- The pages are freed once, when nobody holds the dma-buf any more. -/
theorem BufInv.freed_once (h : s.BufInv) :
    s.freed = [] ∨ s.freed = s.blocks ∧ (s.blocks.map PageBlock.page).Nodup ∧ s.file.holders = [] := by
  cases hdone : s.done with
  | false =>
      left
      simpa [hdone] using h.life.freed
  | true =>
      right
      exact ⟨by simpa [hdone] using h.life.freed, h.life.nodup, (h.use.doneNone hdone).2⟩

/-- Nothing keeps the pages once the driver and all importers have dropped the dma-buf. -/
theorem BufInv.pages_freed (h : s.BufInv) (hphase : s.phase = .gone) (himp : ∀ i, .importer i ∉ s.file.holders) :
    s.freed = s.blocks ∨ ∃ s', SharedBuffer.step s .release = some s' ∧ s'.freed = s'.blocks := by
  cases hdone : s.done with
  | true =>
      left
      simpa [hdone] using h.life.freed
  | false =>
      right
      have hholders := h.holders_nil hphase hdone himp
      have hrel := released_of_not_done hdone
      have hexp : s.exported = true := by simpa [done, hrel, hphase] using hdone
      have hcount : s.file.count = 0 := by
        have hbalanced := h.holders.balanced
        rw [RefCount.Balanced, hholders] at hbalanced
        simpa using hbalanced
      refine ⟨{ s.freeActual with released := true }, by simp [SharedBuffer.step, hexp, hcount, hrel], ?_⟩
      rw [h.freeActual_eq (h.getters_eq himp (by simp [hphase]) hdone) hdone]

end Steps

/-- **The references of a buffer balance.** -/
theorem tables_balanced {flags : BitVec 32} {ops : List BufOp} {s : SharedBuffer}
    (h : Trace.exec (Trace.guarded FewGetters step) (init flags) ops = some s) :
    (s.node.sgt ≠ .null ↔ s.node.sgtRefcount ≠ 0#32) ∧ s.node.sgtRefcount.toNat = s.getters.length ∧
      Custody.run [] s.events = some s.tableRefs ∧ s.file.count = s.file.holders.length ∧
      (s.freed = [] ∨ s.freed = s.blocks ∧ (s.blocks.map PageBlock.page).Nodup ∧ s.file.holders = []) ∧
      (s.phase = .gone → (∀ i, .importer i ∉ s.file.holders) →
        s.freed = s.blocks ∨ ∃ s', step s .release = some s' ∧ s'.freed = s'.blocks) := by
  have hinv := bufInv_of_run h
  refine ⟨?_, hinv.table.count, hinv.table.held, hinv.holders.balanced, hinv.freed_once, hinv.pages_freed⟩
  rw [hinv.table.ne_null_iff, ← List.length_pos_iff, ← hinv.table.count]
  constructor
  · intro hpos hzero
    simp [hzero] at hpos
  · intro hne
    apply Nat.pos_of_ne_zero
    intro hzero
    exact hne (BitVec.eq_of_toNat_eq (by simpa using hzero))

/-- What is released of the table's references is what was acquired, once the table is gone. -/
theorem refs_dropped {flags : BitVec 32} {ops : List BufOp} {s : SharedBuffer}
    (h : Trace.exec (Trace.guarded FewGetters step) (init flags) ops = some s) (hsgt : s.node.sgt = .null)
    (r : DmaResource) : Custody.released r s.events = Custody.acquired r s.events := by
  have hheld := (bufInv_of_run h).table.held
  have hrefs : s.tableRefs = [] := by simp [tableRefs, hsgt]
  rw [hrefs] at hheld
  have hbalance := Custody.balance hheld r
  simp only [List.count_nil] at hbalance
  omega

/-! ## Runs -/

/-- All calls succeed, and the pages come one by one. -/
def oneByOne : AllocCalls where
  malloc := true
  allocPages := fun turn order => if order = 0 then some (turn + 1) else none
  table := ⟨some 0x20, 0⟩
  assign := 0
  dmaBufExport := .ok 0x10

/-- The table can be made. -/
def tableMade : TableCalls := ⟨some 0x30, 0⟩

def noDmaCalls : DmaCalls := ⟨.error EINVAL, .error EINVAL, .error EINVAL⟩

/-- A buffer of two pages with a cache operation and an importer that is there longer than the driver. -/
def longImport : List BufOp :=
  [.alloc oneByOne 0x2000#32, .cacheOp noDmaCalls tableMade, .importerGet 1, .map 1 tableMade, .freeSgt, .freeBuf,
    .unmap 1 (.ptr 0x30), .importerPut 1, .release]

theorem tables_balanced_long :
    ∃ s, Trace.exec (Trace.guarded FewGetters step) (init 0#32) longImport = some s ∧
      s.freed = [⟨1, 0⟩, ⟨2, 0⟩] ∧ s.events.length = 2 ∧
      (s.node.sgt ≠ .null ↔ s.node.sgtRefcount ≠ 0#32) := by
  have heval : (Trace.exec (Trace.guarded FewGetters step) (init 0#32) longImport).map
      (fun s => (s.freed, s.events.length)) = some ([⟨1, 0⟩, ⟨2, 0⟩], 2) := by decide +kernel
  obtain ⟨s, hs, heq⟩ := Option.map_eq_some_iff.1 heval
  obtain ⟨hfreed, hevents⟩ := Prod.mk.inj heq
  exact ⟨s, hs, hfreed, hevents, (tables_balanced hs).1⟩

/-- An importer maps its attachment again and again. -/
theorem exec_map {i : Nat} (table : TableCalls) {t : Nat} (n : Nat) {s : SharedBuffer}
    (himp : .importer i ∈ s.file.holders) (hpages : ¬ (s.node.pages = none ∨ s.node.pageCount = 0))
    (hsgt : s.node.sgt = .ptr t) :
    ∃ s', Trace.exec step s (List.replicate n (.map i table)) = some s' ∧ s'.node.sgt = .ptr t ∧
      s'.node.sgtRefcount = s.node.sgtRefcount + BitVec.ofNat 32 n ∧ s'.getters.length = s.getters.length + n := by
  induction n generalizing s with
  | zero => exact ⟨s, by simp [hsgt]⟩
  | succ n ih =>
      obtain ⟨u, hstep, hfile, hnode, hcount, hlen⟩ : ∃ u, step s (.map i table) = some u ∧ u.file = s.file ∧
          (u.node.pages, u.node.pageCount, u.node.sgt) = (s.node.pages, s.node.pageCount, s.node.sgt) ∧
          u.node.sgtRefcount = s.node.sgtRefcount + 1#32 ∧ u.getters.length = s.getters.length + 1 := by
        simp [step, himp, hgslMemMapDmaBuf, hgslGetSgtInternal, hpages, hsgt, join, tableFile]
      simp only [Prod.mk.injEq] at hnode
      obtain ⟨hp, hc, hs⟩ := hnode
      obtain ⟨s', hrest, hsgt', hcount', hlen'⟩ := ih (s := u) (by rw [hfile]; exact himp)
        (by rw [hp, hc]; exact hpages) (hs.trans hsgt)
      refine ⟨s', Trace.exec_cons_eq_some.2 ⟨u, hstep, hrest⟩, hsgt', ?_, by omega⟩
      rw [hcount', hcount, BitVec.add_assoc, ← BitVec.ofNat_add, Nat.add_comm 1 n]

def oneMapping : List BufOp := [.alloc oneByOne 0x1000#32, .importerGet 1, .map 1 tableMade]

/-- As many mappings as the counter has values. -/
theorem counter_wraps :
    ∃ ops s, Trace.exec step (init 0#32) ops = some s ∧ s.getters.length = 2 ^ 32 ∧
      ¬ (s.node.sgt ≠ .null ↔ s.node.sgtRefcount ≠ 0#32) := by
  have heval : (Trace.exec step (init 0#32) oneMapping).map
      (fun s => ((s.file.holders, s.node.pages, s.node.pageCount), s.node.sgt, s.node.sgtRefcount, s.getters.length)) =
        some (([.table, .importer 1, .driver], some [1], 1), .ptr 0x30, 1#32, 1) := by decide +kernel
  obtain ⟨s, hs, heq⟩ := Option.map_eq_some_iff.1 heval
  simp only [Prod.mk.injEq] at heq
  obtain ⟨⟨hholders, hpages, hcount⟩, hsgt, hone, hlen⟩ := heq
  obtain ⟨n, hn⟩ : ∃ n, 1 + n = 2 ^ 32 := ⟨2 ^ 32 - 1, by simp⟩
  have himp : .importer 1 ∈ s.file.holders := by simp [hholders]
  have hpage : ¬ (s.node.pages = none ∨ s.node.pageCount = 0) := by simp [hpages, hcount]
  obtain ⟨s', hexec, hsgt', hcount', hlen'⟩ := exec_map tableMade n himp hpage hsgt
  refine ⟨oneMapping ++ List.replicate n (.map 1 tableMade), s', ?_, ?_, ?_⟩
  · rw [Trace.exec_append, hs]
    exact hexec
  · rw [hlen', hlen, hn]
  · have hzero : s'.node.sgtRefcount = 0#32 := by
      rw [hcount', hone, ← BitVec.ofNat_add, hn]
      simp
    simp [hsgt', hzero]

end SharedBuffer

end Hgsl
