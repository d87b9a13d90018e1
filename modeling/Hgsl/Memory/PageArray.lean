import Hgsl.Lib.Loop
import Hgsl.Memory.SharedBuffer
import Mathlib.Data.Nat.Size

set_option autoImplicit false

/-! # The page array of a buffer

`hgsl_sharedmem_alloc` and `hgsl_free_pages` with the 32-bit counters they run on, the stores into the array
`pages`, and the counter of reclaimable pages of each memory node of the machine. Their loops do what is said
of lists in `Pages`. -/

namespace Hgsl

/-- `get_order`, of a size in bytes: the place of the highest bit that is set in the number of pages before the
    last one -/
def getOrderOf (size : BitVec 64) : Nat := ((size - 1#64) >>> 12).toNat.size

/-- `mod_node_page_state` of `NR_KERNEL_MISC_RECLAIMABLE`, of the memory node that a page is on -/
def modNodePageState (nodeOf : Nat → Nat) (page : Nat) (delta : Int) (state : Nat → Int) : Nat → Int :=
  Function.update state (nodeOf page) (state (nodeOf page) + delta)

/-- `mem_node->pages` -/
structure PageArray where
  /-- the entries that there is memory for -/
  capacity : Nat
  entry : Nat → Nat
  /-- history: the entries that were stored -/
  stored : List Nat := []

def PageArray.store (a : PageArray) (i page : Nat) : PageArray :=
  { a with entry := Function.update a.entry i page, stored := a.stored ++ [i] }

/-! ## Allocation -/

/-- What `hgsl_alloc_pages` acts on. -/
structure PageStore where
  array : PageArray
  reclaimable : Nat → Int
  /-- history: the blocks that `alloc_pages` has given -/
  blocks : List PageBlock := []

/-- The stores of `hgsl_alloc_pages`, with `n` still to be made; `base` is where its `pages` points to. -/
def storePages (page base : Nat) : Nat → Nat → PageArray → PageArray
  | 0, _, a => a
  | n + 1, i, a => storePages page base n (i + 1) (a.store (base + i) (page + i))

/-- `hgsl_alloc_pages`, once it has a block -/
def PageStore.take (nodeOf : Nat → Nat) (w : PageStore) (b : PageBlock) (base pcount : BitVec 32) : PageStore where
  array := storePages b.page base.toNat pcount.toNat 0 w.array
  reclaimable := modNodePageState nodeOf b.page (1#32 <<< b.order).toInt w.reclaimable
  blocks := w.blocks ++ [b]

/-- `hgsl_alloc_pages` -/
def PageStore.hgslAllocPages (nodeOf : Nat → Nat) (allocPages : Nat → Option Nat) (requestedPcount base : BitVec 32)
    (w : PageStore) : BitVec 32 × PageStore :=
  match allocBlock allocPages (getOrderOf ((requestedPcount <<< 12).setWidth 64)) with
  | none => (0#32, w)
  | some b =>
    let pcount := if requestedPcount < 1#32 <<< b.order then requestedPcount else 1#32 <<< b.order
    (pcount, w.take nodeOf b base pcount)

/-- The loop of `hgsl_sharedmem_alloc`. -/
structure PageFill where
  requestedPcount : BitVec 32
  allocatedPcount : BitVec 32 := 0#32
  nents : BitVec 32 := 0#32
  store : PageStore

/-- The counters after a turn that has got `pcount` pages. -/
def PageFill.advance (s : PageFill) (pcount : BitVec 32) (store : PageStore) : PageFill where
  requestedPcount := s.requestedPcount - pcount
  allocatedPcount := s.allocatedPcount + pcount
  nents := s.nents + 1#32
  store := store

/-- One turn of the loop; `allocPages` is asked at each turn anew. -/
def fillTurn (nodeOf : Nat → Nat) (allocPages : Nat → Nat → Option Nat) (s : PageFill) : Loop.Turn PageFill PageFill :=
  if 0#32 < s.requestedPcount then
    let got := s.store.hgslAllocPages nodeOf (allocPages s.nents.toNat) s.requestedPcount s.allocatedPcount
    if got.1 = 0#32 then .done { s with store := got.2 } else .next (s.advance got.1 got.2)
  else .done s

/-- `struct hgsl_mem_node`, as far as the pages are concerned -/
structure PageNode where
  /-- NULL is `none` -/
  pages : Option PageArray := none
  pageCount : BitVec 32 := 0#32
  sgNents : BitVec 32 := 0#32
  /-- `memdesc.size` -/
  size : BitVec 32 := 0#32

/-- What `hgsl_sharedmem_alloc` returns and leaves. -/
structure PagesAllocated where
  ret : Int
  node : PageNode := {}
  reclaimable : Nat → Int
  /-- history: the blocks that `alloc_pages` has given -/
  blocks : List PageBlock := []

/-- What `hgsl_sharedmem_alloc` asks for: the memory of the array, with what is in it, and the pages -/
structure PageCalls where
  malloc : Option (Nat → Nat)
  allocPages : Nat → Nat → Option Nat
  /-- the memory node of the machine that a page is on -/
  nodeOf : Nat → Nat

/-- `hgsl_sharedmem_alloc`, until it has the pages -/
def PageNode.hgslSharedmemAlloc (fuel : Nat) (calls : PageCalls) (sizebytes : BitVec 32) (reclaimable : Nat → Int) :
    Option PagesAllocated :=
  let requestedSize := (sizebytes + 0xFFF#32) &&& ~~~0xFFF#32
  let requestedPcount := requestedSize >>> 12
  if sizebytes = 0#32 ∨ 0xFFFFFFFF#32 - 0x1000#32 < sizebytes ∨ requestedSize < sizebytes then
    some { ret := -EINVAL, reclaimable }
  else
    match calls.malloc with
    | none => some { ret := -ENOMEM, reclaimable }
    | some entry =>
      (Loop.run (fillTurn calls.nodeOf calls.allocPages) fuel
        { requestedPcount, store := { array := { capacity := requestedPcount.toNat, entry }, reclaimable } }).map
        fun s =>
          { ret := if s.requestedPcount ≠ 0#32 then -ENOMEM else 0
            node :=
              { pages := some s.store.array
                pageCount := s.allocatedPcount
                sgNents := s.nents
                size := requestedSize }
            reclaimable := s.store.reclaimable
            blocks := s.store.blocks }

/-! ## Freeing -/

/-- The loop of `hgsl_free_pages`. -/
structure PagesFreed where
  i : BitVec 32 := 0#32
  reclaimable : Nat → Int
  /-- history: the blocks that `__free_pages` gets -/
  freed : List PageBlock := []
  /-- history: the entries that are read -/
  read : List Nat := []

/-- The body of the loop, for the block that begins at entry `i`. -/
def PagesFreed.free (nodeOf : Nat → Nat) (s : PagesFreed) (b : PageBlock) : PagesFreed where
  i := s.i + 1#32 <<< b.order
  reclaimable := modNodePageState nodeOf b.page (-(1#32 <<< b.order).toInt) s.reclaimable
  freed := s.freed ++ [b]
  read := s.read ++ [s.i.toNat]

/-- One turn of the loop. -/
def freeTurn (nodeOf compoundOrder : Nat → Nat) (array : PageArray) (pcount : BitVec 32) (s : PagesFreed) :
    Loop.Turn PagesFreed PagesFreed :=
  if s.i < pcount then
    let p := array.entry s.i.toNat
    .next (s.free nodeOf ⟨p, compoundOrder p⟩)
  else .done s

/-- `hgsl_free_pages`: what it does, and the node that it leaves -/
def PageNode.hgslFreePages (fuel : Nat) (nodeOf compoundOrder : Nat → Nat) (reclaimable : Nat → Int) (n : PageNode) :
    Option (PagesFreed × PageNode) :=
  let array := n.pages.getD { capacity := 0, entry := fun _ => 0 }
  (Loop.run (freeTurn nodeOf compoundOrder array n.pageCount) fuel { reclaimable }).map fun s =>
    (s, { n with pageCount := 0#32 })

/-! ## Orders -/

section Orders

/-- The size in bytes says which order is wanted, as the number of pages does. -/
theorem getOrderOf_pages {n : BitVec 32} (hpos : 0 < n.toNat) (hsmall : n.toNat < 2 ^ 20) :
    getOrderOf ((n <<< 12).setWidth 64) = getOrder n.toNat := by
  have hbytes : ((n <<< 12).setWidth 64).toNat = n.toNat * 4096 := by
    rw [BitVec.toNat_setWidth, BitVec.toNat_shiftLeft, Nat.shiftLeft_eq]
    omega
  have hlast : (((n <<< 12).setWidth 64 - 1#64) >>> 12).toNat = n.toNat - 1 := by
    rw [BitVec.toNat_ushiftRight, Nat.shiftRight_eq_div_pow, BitVec.toNat_sub, hbytes, BitVec.toNat_ofNat]
    omega
  rw [getOrderOf, hlast, getOrder]
  apply eq_of_forall_ge_iff
  intro k
  rw [Nat.size_le, Nat.clog_le_iff_le_pow (by decide)]
  omega

theorem getOrder_le {n : Nat} (h : n < 2 ^ 20) : getOrder n ≤ 20 := (Nat.clog_le_iff_le_pow (by decide)).2 h.le

/-- The order goes down only. -/
theorem allocBlock_order {allocPages : Nat → Option Nat} {order : Nat} {b : PageBlock}
    (h : allocBlock allocPages order = some b) : b.order ≤ order := by
  induction order with
  | zero =>
      obtain ⟨page, -, rfl⟩ := Option.map_eq_some_iff.1 h
      exact le_rfl
  | succ order ih =>
      unfold allocBlock at h
      split at h
      · obtain rfl := Option.some.inj h
        exact le_rfl
      · exact (ih h).trans (Nat.le_succ order)

theorem toNat_one_shiftLeft {k : Nat} (h : k ≤ 20) : (1#32 <<< k).toNat = 2 ^ k := by
  have hpow : 2 ^ k ≤ 2 ^ 20 := Nat.pow_le_pow_right (by decide) h
  rw [BitVec.toNat_shiftLeft, Nat.shiftLeft_eq, BitVec.toNat_ofNat]
  omega

end Orders

/-! ## The stores -/

section Stores

variable (page base n i : Nat) (a : PageArray)

theorem storePages_stored : (storePages page base n i a).stored = a.stored ++ List.range' (base + i) n := by
  induction n generalizing i a with
  | zero => simp [storePages]
  | succ n ih =>
      rw [storePages, ih]
      simp [PageArray.store, List.range'_succ, Nat.add_assoc]

@[simp] theorem storePages_capacity : (storePages page base n i a).capacity = a.capacity := by
  induction n generalizing i a with
  | zero => simp [storePages]
  | succ n ih =>
      rw [storePages, ih]
      simp [PageArray.store]

/-- The entries before those that are stored stay. -/
theorem storePages_entry_of_lt {j : Nat} (h : j < base + i) : (storePages page base n i a).entry j = a.entry j := by
  induction n generalizing i a with
  | zero => simp [storePages]
  | succ n ih =>
      rw [storePages, ih (i + 1) _ (by omega), PageArray.store]
      exact Function.update_of_ne (by omega) _ _

theorem storePages_entry {k : Nat} (h : k < n) :
    (storePages page base n i a).entry (base + i + k) = page + (i + k) := by
  induction n generalizing i k a with
  | zero => omega
  | succ n ih =>
      rw [storePages]
      cases k with
      | zero =>
          rw [storePages_entry_of_lt _ _ _ _ _ (by omega), PageArray.store]
          exact Function.update_self _ _ _
      | succ k =>
          have hrest := ih (i + 1) (a.store (base + i) (page + i)) (k := k) (by omega)
          rw [show base + i + (k + 1) = base + (i + 1) + k by omega, hrest]
          omega

/-- What the array holds behind the stores. -/
theorem storePages_entries (order : Nat) :
    (List.range (base + n)).map (storePages page base n 0 a).entry =
      (List.range base).map a.entry ++ (PageBlock.mk page order).entries n := by
  rw [List.range_add, List.map_append, List.map_map]
  congr 1
  · apply List.map_congr_left
    intro j hj
    exact storePages_entry_of_lt page base n 0 a (List.mem_range.1 hj)
  · apply List.map_congr_left
    intro k hk
    have hentry := storePages_entry page base n 0 a (List.mem_range.1 hk)
    rw [Nat.add_zero, Nat.zero_add] at hentry
    exact hentry

end Stores

/-! ## The counter -/

section Counter

variable (nodeOf : Nat → Nat)

/-- What blocks count for on memory node `n`. -/
def charges (bs : List PageBlock) (n : Nat) : Int :=
  (bs.map fun b => if nodeOf b.page = n then (1#32 <<< b.order).toInt else 0).sum

@[simp] theorem charges_nil (n : Nat) : charges nodeOf [] n = 0 := by simp [charges]

@[simp] theorem charges_cons (b : PageBlock) (bs : List PageBlock) (n : Nat) :
    charges nodeOf (b :: bs) n = (if nodeOf b.page = n then (1#32 <<< b.order).toInt else 0) + charges nodeOf bs n := by
  simp [charges]

theorem modNodePageState_apply (page : Nat) (delta : Int) (state : Nat → Int) (n : Nat) :
    modNodePageState nodeOf page delta state n = state n + if nodeOf page = n then delta else 0 := by
  unfold modNodePageState
  by_cases hn : nodeOf page = n
  · subst hn
    simp
  · rw [Function.update_of_ne (Ne.symm hn), if_neg hn, add_zero]

end Counter

/-! ## What the allocation does -/

/-- The machine has gone from `s` to `s'`, and the loop over lists has got this on the way. -/
structure Filling (nodeOf : Nat → Nat) (s s' : PageFill) (got : AllocatedPages) : Prop where
  blocks : s'.store.blocks = s.store.blocks ++ got.blocks
  orders : ∀ b ∈ got.blocks, b.order ≤ 20
  requested : s'.requestedPcount.toNat = got.requestedPcount
  allocated : s'.allocatedPcount.toNat = s.allocatedPcount.toNat + got.pages.length
  total : s'.allocatedPcount.toNat + s'.requestedPcount.toNat = s.allocatedPcount.toNat + s.requestedPcount.toNat
  capacity : s'.store.array.capacity = s.store.array.capacity
  stored : s'.store.array.stored =
    s.store.array.stored ++ List.range' s.allocatedPcount.toNat got.pages.length
  entries : (List.range s'.allocatedPcount.toNat).map s'.store.array.entry =
    (List.range s.allocatedPcount.toNat).map s.store.array.entry ++ got.pages
  reclaimable : ∀ n, s'.store.reclaimable n = s.store.reclaimable n + charges nodeOf got.blocks n

section Fill

variable {nodeOf : Nat → Nat} {allocPages : Nat → Nat → Option Nat}

/-- **One call.** `hgsl_alloc_pages` gets what it gets in terms of lists, and stores it. -/
theorem PageStore.hgslAllocPages_cases (w : PageStore) (alloc : Nat → Option Nat) (nodeOf : Nat → Nat)
    (base : BitVec 32) {requested : BitVec 32} (hpos : 0 < requested.toNat) (hsmall : requested.toNat < 2 ^ 20) :
    (Hgsl.hgslAllocPages alloc requested.toNat = none ∧
        w.hgslAllocPages nodeOf alloc requested base = (0#32, w)) ∨
      ∃ (b : PageBlock) (pcount : BitVec 32), Hgsl.hgslAllocPages alloc requested.toNat = some (b, pcount.toNat) ∧
        b.order ≤ 20 ∧ w.hgslAllocPages nodeOf alloc requested base = (pcount, w.take nodeOf b base pcount) := by
  unfold PageStore.hgslAllocPages Hgsl.hgslAllocPages
  rw [getOrderOf_pages hpos hsmall]
  cases hblock : allocBlock alloc (getOrder requested.toNat) with
  | none => exact .inl ⟨rfl, rfl⟩
  | some b =>
      have horder : b.order ≤ 20 := (allocBlock_order hblock).trans (getOrder_le hsmall)
      have hshift := toNat_one_shiftLeft horder
      refine .inr ⟨b, if requested < 1#32 <<< b.order then requested else 1#32 <<< b.order, ?_, horder, rfl⟩
      have hlt : requested < 1#32 <<< b.order ↔ requested.toNat < 2 ^ b.order := by
        rw [BitVec.lt_def, hshift]
      by_cases hless : requested.toNat < 2 ^ b.order
      · simp [hless, hlt.2 hless]
      · simp [hless, mt hlt.1 hless, hshift]

theorem Filling.none (s : PageFill) : Filling nodeOf s s { requestedPcount := s.requestedPcount.toNat } := by
  constructor <;> simp

/-- A block, and what comes behind it. -/
theorem Filling.cons {s s' : PageFill} {b : PageBlock} {pcount : BitVec 32} {rest : AllocatedPages}
    (horder : b.order ≤ 20) (hle : pcount.toNat ≤ s.requestedPcount.toNat)
    (hsmall : s.allocatedPcount.toNat + s.requestedPcount.toNat < 2 ^ 20)
    (h : Filling nodeOf (s.advance pcount (s.store.take nodeOf b s.allocatedPcount pcount)) s' rest) :
    Filling nodeOf s s'
      { pages := b.entries pcount.toNat ++ rest.pages
        requestedPcount := rest.requestedPcount
        blocks := b :: rest.blocks } := by
  have hadd : (s.allocatedPcount + pcount).toNat = s.allocatedPcount.toNat + pcount.toNat := by
    rw [BitVec.toNat_add]
    omega
  have hsub : (s.requestedPcount - pcount).toNat = s.requestedPcount.toNat - pcount.toNat :=
    BitVec.toNat_sub_of_le hle
  have hallocated := h.allocated
  have htotal := h.total
  have hstored := h.stored
  have hentries := h.entries
  dsimp only [PageFill.advance, PageStore.take] at hallocated htotal hstored hentries
  rw [hadd] at hallocated htotal hstored hentries
  rw [hsub] at htotal
  constructor
  · simpa [PageFill.advance, PageStore.take] using h.blocks
  · intro d hd
    rcases List.mem_cons.1 hd with rfl | hd
    · exact horder
    · exact h.orders d hd
  · exact h.requested
  · rw [List.length_append, PageBlock.length_entries, hallocated, Nat.add_assoc]
  · omega
  · simpa [PageFill.advance, PageStore.take] using h.capacity
  · rw [hstored, storePages_stored, Nat.add_zero, List.length_append, PageBlock.length_entries, List.append_assoc,
      List.range'_append_1]
  · rw [hentries, storePages_entries b.page s.allocatedPcount.toNat pcount.toNat s.store.array b.order,
      List.append_assoc]
  · intro n
    rw [h.reclaimable, charges_cons]
    dsimp only [PageFill.advance, PageStore.take]
    rw [modNodePageState_apply, add_assoc]

theorem fillTurn_zero {s : PageFill} (hzero : s.requestedPcount.toNat = 0) :
    fillTurn nodeOf allocPages s = .done s := by
  have hnot : ¬ 0#32 < s.requestedPcount := by
    rw [BitVec.lt_def]
    omega
  rw [fillTurn, if_neg hnot]

/-- **The loop refines the one over lists**, and ends. -/
theorem fill_refines (fuel : Nat) (s : PageFill) (hfuel : s.requestedPcount.toNat ≤ fuel)
    (hsmall : s.allocatedPcount.toNat + s.requestedPcount.toNat < 2 ^ 20) (hnents : s.nents.toNat + fuel < 2 ^ 32) :
    ∃ s', Loop.run (fillTurn nodeOf allocPages) (fuel + 1) s = some s' ∧
      Filling nodeOf s s' (allocLoop allocPages fuel s.nents.toNat s.requestedPcount.toNat) := by
  induction fuel generalizing s with
  | zero =>
      have hzero : s.requestedPcount.toNat = 0 := Nat.le_zero.1 hfuel
      exact ⟨s, Loop.run_done (fillTurn_zero hzero), by simpa [allocLoop] using Filling.none s⟩
  | succ fuel ih =>
      by_cases hzero : s.requestedPcount.toNat = 0
      · exact ⟨s, Loop.run_done (fillTurn_zero hzero), by simpa [allocLoop, hzero] using Filling.none s⟩
      · have hpos : 0 < s.requestedPcount.toNat := Nat.pos_of_ne_zero hzero
        have hmore : 0#32 < s.requestedPcount := hpos
        obtain ⟨hget, hcall⟩ | ⟨b, pcount, hget, horder, hcall⟩ :=
          s.store.hgslAllocPages_cases (allocPages s.nents.toNat) nodeOf s.allocatedPcount hpos (by omega)
        · have hturn : fillTurn nodeOf allocPages s = .done s := by
            simp [fillTurn, hmore, hcall]
          exact ⟨s, Loop.run_done hturn, by simpa [allocLoop, hzero, hget] using Filling.none s⟩
        · obtain ⟨hpcount, hle, -⟩ := hgslAllocPages_pcount hget hpos
          have hne : pcount ≠ 0#32 := by
            rintro rfl
            simp at hpcount
          have hturn : fillTurn nodeOf allocPages s =
              .next (s.advance pcount (s.store.take nodeOf b s.allocatedPcount pcount)) := by
            simp [fillTurn, hmore, hcall, hne]
          generalize hs₁ : s.advance pcount (s.store.take nodeOf b s.allocatedPcount pcount) = s₁ at hturn
          have hallocated : s₁.allocatedPcount.toNat = s.allocatedPcount.toNat + pcount.toNat := by
            rw [← hs₁, PageFill.advance, BitVec.toNat_add]
            omega
          have hrequested : s₁.requestedPcount.toNat = s.requestedPcount.toNat - pcount.toNat := by
            rw [← hs₁]
            exact BitVec.toNat_sub_of_le hle
          have hsucc : s₁.nents.toNat = s.nents.toNat + 1 := by
            rw [← hs₁, PageFill.advance, BitVec.toNat_add, BitVec.toNat_ofNat]
            omega
          obtain ⟨s', hrun, hrest⟩ := ih s₁ (by omega) (by omega) (by omega)
          rw [hrequested, hsucc, ← hs₁] at hrest
          rw [Loop.run_next hturn]
          refine ⟨s', hrun, ?_⟩
          simpa [allocLoop, hzero, hget] using Filling.cons horder hle hsmall hrest

end Fill

/-! ## What the freeing does -/

/-- From `s` on, these blocks have been freed. -/
structure Freeing (nodeOf : Nat → Nat) (pcount : BitVec 32) (s s' : PagesFreed) (bs : List PageBlock) : Prop where
  freed : s'.freed = s.freed ++ bs
  reclaimable : ∀ n, s'.reclaimable n = s.reclaimable n - charges nodeOf bs n
  read : ∀ i ∈ s'.read, i ∈ s.read ∨ i < pcount.toNat

section Free

variable {nodeOf compoundOrder : Nat → Nat} {array : PageArray} {pcount : BitVec 32} {s s' : PagesFreed}
  {b : PageBlock} {bs : List PageBlock}

/-- At the first page of a block, the whole block is freed. -/
theorem freeTurn_block (hmore : s.i.toNat < pcount.toNat) (hentry : array.entry s.i.toNat = b.page)
    (horder : compoundOrder b.page = b.order) :
    freeTurn nodeOf compoundOrder array pcount s = .next (s.free nodeOf b) := by
  rw [freeTurn, if_pos (BitVec.lt_def.2 hmore)]
  simp [hentry, horder]

theorem freeTurn_done (hend : pcount.toNat ≤ s.i.toNat) : freeTurn nodeOf compoundOrder array pcount s = .done s := by
  have hnot : ¬ s.i < pcount := by
    rw [BitVec.lt_def]
    omega
  rw [freeTurn, if_neg hnot]

theorem Freeing.none (s : PagesFreed) : Freeing nodeOf pcount s s [] := by
  refine ⟨by simp, by simp, fun _ => .inl⟩

theorem Freeing.cons (hmore : s.i.toNat < pcount.toNat) (h : Freeing nodeOf pcount (s.free nodeOf b) s' bs) :
    Freeing nodeOf pcount s s' (b :: bs) := by
  refine ⟨by simpa [PagesFreed.free] using h.freed, ?_, ?_⟩
  · intro n
    have hblock : (s.free nodeOf b).reclaimable n =
        s.reclaimable n + if nodeOf b.page = n then -(1#32 <<< b.order).toInt else 0 :=
      modNodePageState_apply nodeOf b.page (-(1#32 <<< b.order).toInt) s.reclaimable n
    rw [h.reclaimable, charges_cons, hblock]
    split_ifs <;> omega
  · intro i hi
    rcases h.read i hi with hread | hlt
    · rcases List.mem_append.1 hread with hold | hnew
      · exact .inl hold
      · obtain rfl := List.mem_singleton.1 hnew
        exact .inr hmore
    · exact .inr hlt

/-- Where the entries from `i` on begin with those of a block, entry `i` is its first page. -/
theorem entry_of_block {entry : Nat → Nat} {i n len : Nat} {rest : List Nat} (hpos : 0 < n)
    (hentries : (List.range' i len).map entry = b.entries n ++ rest) : entry i = b.page := by
  obtain ⟨n, rfl⟩ := Nat.exists_eq_succ_of_ne_zero hpos.ne'
  have hlen := congrArg List.length hentries
  rw [List.length_map, List.length_range', List.length_append, PageBlock.length_entries] at hlen
  obtain ⟨len, rfl⟩ : ∃ k, len = k + 1 := ⟨len - 1, by omega⟩
  have hhead := congrArg List.head? hentries
  simpa [List.range'_succ, PageBlock.entries, List.range_succ_eq_map] using hhead

/-- **Every block once.** Over an array that is filled block by block, the loop frees the blocks, and ends. -/
theorem free_filled {pages : List Nat} (h : Filled bs pages) (horder : ∀ b ∈ bs, compoundOrder b.page = b.order)
    (horders : ∀ b ∈ bs, b.order ≤ 20) (hpcount : pcount.toNat < 2 ^ 20) (s : PagesFreed)
    (hend : s.i.toNat + pages.length = pcount.toNat)
    (hentries : (List.range' s.i.toNat pages.length).map array.entry = pages) (fuel : Nat)
    (hfuel : pages.length ≤ fuel) :
    ∃ s', Loop.run (freeTurn nodeOf compoundOrder array pcount) (fuel + 1) s = some s' ∧
      Freeing nodeOf pcount s s' bs := by
  have hnext : ∀ (s : PagesFreed) (b : PageBlock), b.order ≤ 20 → s.i.toNat < pcount.toNat →
      (s.free nodeOf b).i.toNat = s.i.toNat + 2 ^ b.order := by
    intro s b hle hlt
    have hpow : 2 ^ b.order ≤ 2 ^ 20 := Nat.pow_le_pow_right (by decide) hle
    have htwo : 0 < 2 ^ b.order := Nat.two_pow_pos _
    rw [PagesFreed.free, BitVec.toNat_add, toNat_one_shiftLeft hle]
    omega
  induction h generalizing s fuel with
  | nil =>
      have hturn : freeTurn nodeOf compoundOrder array pcount s = .done s := freeTurn_done (by simp at hend; omega)
      exact ⟨s, Loop.run_done hturn, .none s⟩
  | last b n hpos hle =>
      rw [PageBlock.length_entries] at hend hentries hfuel
      have hmore : s.i.toNat < pcount.toNat := by omega
      rw [← List.append_nil (b.entries n)] at hentries
      have hentry := entry_of_block hpos hentries
      have hi := hnext s b (horders b (by simp)) hmore
      obtain ⟨fuel, rfl⟩ : ∃ k, fuel = k + 1 := ⟨fuel - 1, by omega⟩
      rw [Loop.run_next (freeTurn_block hmore hentry (horder b (by simp)))]
      -- the loop ends behind the block, although the array ends in it
      have hturn : freeTurn nodeOf compoundOrder array pcount (s.free nodeOf b) = .done (s.free nodeOf b) :=
        freeTurn_done (by omega)
      exact ⟨_, Loop.run_done hturn, .cons hmore (.none _)⟩
  | @cons b bs pages h ih =>
      have htwo : 0 < 2 ^ b.order := Nat.two_pow_pos _
      have hentry := entry_of_block htwo hentries
      rw [List.length_append, PageBlock.length_entries] at hend hentries hfuel
      have hmore : s.i.toNat < pcount.toNat := by omega
      have hi := hnext s b (horders b (by simp)) hmore
      rw [← List.range'_append_1, List.map_append] at hentries
      have hrest := List.append_inj_right hentries (by simp)
      obtain ⟨fuel, rfl⟩ : ∃ k, fuel = k + 1 := ⟨fuel - 1, by omega⟩
      rw [Loop.run_next (freeTurn_block hmore hentry (horder b (by simp)))]
      obtain ⟨s', hrun, hfreed⟩ := ih (fun d hd => horder d (List.mem_cons_of_mem _ hd))
        (fun d hd => horders d (List.mem_cons_of_mem _ hd)) (s.free nodeOf b) (by omega) (by rwa [hi]) fuel (by omega)
      exact ⟨s', hrun, .cons hmore hfreed⟩

end Free

/-! ## Both together -/

/-- The array holds the pages of the blocks from its first entry on, each entry stored once. -/
structure PageArray.FilledBy (array : PageArray) (pageCount : Nat) (blocks : List PageBlock) : Prop where
  stored : array.stored = List.range pageCount
  bounds : pageCount ≤ array.capacity
  pages : Filled blocks ((List.range pageCount).map array.entry)

/-- `page_count` says how many entries are filled. -/
structure PagesAllocated.ArrayFilled (a : PagesAllocated) : Prop where
  null : a.node.pages = none → a.node.pageCount = 0#32 ∧ a.blocks = []
  filled : ∀ array, a.node.pages = some array → array.FilledBy a.node.pageCount.toNat a.blocks
  whole : a.ret = 0 → ∃ array, a.node.pages = some array ∧ array.capacity = a.node.pageCount.toNat

/-- What the counter has been charged for, in the range of the counters of the loops. -/
structure PagesAllocated.Charged (nodeOf : Nat → Nat) (before : Nat → Int) (a : PagesAllocated) : Prop where
  orders : ∀ b ∈ a.blocks, b.order ≤ 20
  pageCount : a.node.pageCount.toNat < 2 ^ 20
  reclaimable : ∀ n, a.reclaimable n = before n + charges nodeOf a.blocks n

section Pairing

variable {nodeOf compoundOrder : Nat → Nat} {reclaimable before : Nat → Int}

/-- Without an array there is nothing to free. -/
theorem PagesAllocated.filled_of_error {ret : Int} (hret : ret ≠ 0) :
    PagesAllocated.ArrayFilled { ret, reclaimable } ∧
      PagesAllocated.Charged nodeOf reclaimable { ret, reclaimable } := by
  constructor
  · constructor <;> simp [hret]
  · constructor <;> simp

/-- What the loop leaves, begun with an array in which nothing is stored. -/
theorem Filling.arrayFilled {s : PageFill} {got : AllocatedPages} {requestedPcount : BitVec 32} {entry : Nat → Nat}
    (size : BitVec 32) (hsmall : requestedPcount.toNat < 2 ^ 20) (hgot : Filled got.blocks got.pages)
    (h : Filling nodeOf
      { requestedPcount, store := { array := { capacity := requestedPcount.toNat, entry }, reclaimable } } s got) :
    let a : PagesAllocated :=
      { ret := if s.requestedPcount ≠ 0#32 then -ENOMEM else 0
        node := { pages := some s.store.array, pageCount := s.allocatedPcount, sgNents := s.nents, size }
        reclaimable := s.store.reclaimable
        blocks := s.store.blocks }
    a.ArrayFilled ∧ a.Charged nodeOf reclaimable := by
  have hblocks : s.store.blocks = got.blocks := by simpa using h.blocks
  have hcount : s.allocatedPcount.toNat = got.pages.length := by simpa using h.allocated
  have hcapacity : s.store.array.capacity = requestedPcount.toNat := h.capacity
  have htotal : s.allocatedPcount.toNat + s.requestedPcount.toNat = requestedPcount.toNat := by simpa using h.total
  have hentries : (List.range s.allocatedPcount.toNat).map s.store.array.entry = got.pages := by
    simpa using h.entries
  have hstored : s.store.array.stored = List.range s.allocatedPcount.toNat := by
    rw [hcount, List.range_eq_range']
    simpa using h.stored
  constructor
  · constructor
    · simp
    · intro array harray
      obtain rfl := Option.some.inj harray
      refine ⟨hstored, ?_, ?_⟩
      · dsimp only
        omega
      · dsimp only
        rw [hentries, hblocks]
        exact hgot
    · intro hret
      have hleft : s.requestedPcount = 0#32 := by
        by_contra hne
        simp [hne, ENOMEM] at hret
      refine ⟨s.store.array, rfl, ?_⟩
      rw [hleft] at htotal
      rw [hcapacity, ← htotal]
      rfl
  · refine ⟨?_, ?_, ?_⟩
    · dsimp only
      rw [hblocks]
      exact h.orders
    · dsimp only
      omega
    · intro n
      dsimp only
      rw [h.reclaimable, hblocks]

/-- The blocks are those of the loop, also when the buffer cannot be locked or exported. -/
@[simp] theorem lockAndExport_blocks (calls : AllocCalls) (flags : BitVec 32) (blocks : List PageBlock) (n : SgtNode) :
    (lockAndExport calls flags blocks n).blocks = blocks := by
  unfold lockAndExport
  dsimp only
  split_ifs <;> rfl

/-- Allocation ends, whatever is given to it, and fills the array; it gets the blocks that the life of the buffer
    begins with. -/
theorem PageNode.hgslSharedmemAlloc_filled (calls : PageCalls) (sizebytes : BitVec 32) (reclaimable : Nat → Int) :
    ∃ a, (∀ fuel, 2 ^ 20 ≤ fuel → PageNode.hgslSharedmemAlloc fuel calls sizebytes reclaimable = some a) ∧
      a.ArrayFilled ∧ a.Charged calls.nodeOf reclaimable ∧
      ∀ flags table assign dmaBufExport n,
        (Hgsl.hgslSharedmemAlloc ⟨calls.malloc.isSome, calls.allocPages, table, assign, dmaBufExport⟩ sizebytes flags
          n).blocks = a.blocks := by
  unfold PageNode.hgslSharedmemAlloc Hgsl.hgslSharedmemAlloc
  dsimp only
  generalize (sizebytes + 0xFFF#32) &&& ~~~0xFFF#32 = requestedSize
  have hsmall : (requestedSize >>> 12).toNat < 2 ^ 20 := by
    rw [BitVec.toNat_ushiftRight, Nat.shiftRight_eq_div_pow]
    omega
  generalize requestedSize >>> 12 = requestedPcount at hsmall ⊢
  by_cases hsize : sizebytes = 0#32 ∨ 0xFFFFFFFF#32 - 0x1000#32 < sizebytes ∨ requestedSize < sizebytes
  · obtain ⟨hfilled, hcharged⟩ := PagesAllocated.filled_of_error (by decide : -EINVAL ≠ 0)
    exact ⟨_, fun _ _ => if_pos hsize, hfilled, hcharged, fun _ _ _ _ _ => by rw [if_pos hsize]⟩
  · simp only [if_neg hsize]
    cases hmalloc : calls.malloc with
    | none =>
        obtain ⟨hfilled, hcharged⟩ := PagesAllocated.filled_of_error (by decide : -ENOMEM ≠ 0)
        exact ⟨_, fun _ _ => rfl, hfilled, hcharged, fun _ _ _ _ _ => rfl⟩
    | some entry =>
        obtain ⟨s, hrun, hfill⟩ := fill_refines requestedPcount.toNat
          { requestedPcount, store := { array := { capacity := requestedPcount.toNat, entry }, reclaimable } }
          le_rfl (by simpa using hsmall) (by simp; omega)
        have hgot := allocLoop_filled calls.allocPages requestedPcount.toNat 0 requestedPcount.toNat
        obtain ⟨hfilled, hcharged⟩ := hfill.arrayFilled requestedSize hsmall hgot
        refine ⟨_, ?_, hfilled, hcharged, ?_⟩
        · intro fuel hfuel
          dsimp only
          rw [Loop.run_mono hrun (by omega)]
          rfl
        · intro flags table assign dmaBufExport n
          dsimp only
          rw [hfill.blocks, if_neg (by simp)]
          split_ifs <;> simp

/-- Freeing ends, and takes back what the blocks of a filled array have been charged for. -/
theorem PageNode.hgslFreePages_filled {a : PagesAllocated} (hfilled : a.ArrayFilled)
    (hcharged : a.Charged nodeOf before) (horder : ∀ b ∈ a.blocks, compoundOrder b.page = b.order) :
    ∃ f, (∀ fuel, 2 ^ 20 ≤ fuel → a.node.hgslFreePages fuel nodeOf compoundOrder a.reclaimable = some f) ∧
      f.1.freed = a.blocks ∧ f.1.reclaimable = before ∧ ∀ i ∈ f.1.read, i < a.node.pageCount.toNat := by
  have hpages : Filled a.blocks
      ((List.range a.node.pageCount.toNat).map (a.node.pages.getD { capacity := 0, entry := fun _ => 0 }).entry) := by
    cases hnull : a.node.pages with
    | none =>
        obtain ⟨hcount, hblocks⟩ := hfilled.null hnull
        rw [hcount, hblocks]
        exact .nil
    | some array => exact (hfilled.filled array hnull).pages
  unfold PageNode.hgslFreePages
  generalize a.node.pages.getD { capacity := 0, entry := fun _ => 0 } = array at hpages ⊢
  have hsmall := hcharged.pageCount
  have hlength : ((List.range a.node.pageCount.toNat).map array.entry).length = a.node.pageCount.toNat := by
    rw [List.length_map, List.length_range]
  have hentries : (List.range' 0 ((List.range a.node.pageCount.toNat).map array.entry).length).map array.entry =
      (List.range a.node.pageCount.toNat).map array.entry := by
    rw [hlength, List.range_eq_range']
  obtain ⟨s, hrun, hfreed⟩ := free_filled hpages horder hcharged.orders hsmall { reclaimable := a.reclaimable }
    (by simp) hentries (2 ^ 20 - 1) (by omega)
  refine ⟨(s, { a.node with pageCount := 0#32 }), ?_, ?_, ?_, ?_⟩
  · intro fuel hfuel
    dsimp only
    rw [Loop.run_mono hrun (by omega)]
    rfl
  · simpa using hfreed.freed
  · funext n
    have hback := hfreed.reclaimable n
    have hcharge := hcharged.reclaimable n
    dsimp only at hback ⊢
    omega
  · intro i hi
    simpa using hfreed.read i hi

end Pairing

/-- **Pages pair up.** Whatever size is asked for and whichever blocks are refused, the array is filled from its
    first entry on and in its bounds, and freeing gives back the blocks that were allocated, each once and with
    its order; the counter is then what it was. -/
theorem pages_pair_up (calls : PageCalls) (sizebytes : BitVec 32) (reclaimable : Nat → Int) :
    ∃ a, (∀ fuel, 2 ^ 20 ≤ fuel → PageNode.hgslSharedmemAlloc fuel calls sizebytes reclaimable = some a) ∧
      a.ArrayFilled ∧ ∀ compoundOrder : Nat → Nat, (∀ b ∈ a.blocks, compoundOrder b.page = b.order) →
        ∃ f, (∀ fuel, 2 ^ 20 ≤ fuel → a.node.hgslFreePages fuel calls.nodeOf compoundOrder a.reclaimable = some f) ∧
          f.1.freed = a.blocks ∧ f.1.reclaimable = reclaimable ∧ ∀ i ∈ f.1.read, i < a.node.pageCount.toNat := by
  obtain ⟨a, hrun, hfilled, hcharged, -⟩ := PageNode.hgslSharedmemAlloc_filled calls sizebytes reclaimable
  exact ⟨a, hrun, hfilled, fun _ horder => PageNode.hgslFreePages_filled hfilled hcharged horder⟩

/-- Memory that has blocks of order 2 only. -/
def sevenPages : PageCalls where
  malloc := some fun _ => 0
  allocPages := fun turn order => if order = 2 then some (16 + 16 * turn) else none
  nodeOf := fun _ => 0

/-- Seven pages of two blocks; the array holds three pages of the second one. -/
theorem pages_pair_up_sevenPages :
    ∃ a, PageNode.hgslSharedmemAlloc (2 ^ 20) sevenPages 0x6800#32 (fun _ => 0) = some a ∧
      a.blocks = [⟨16, 2⟩, ⟨32, 2⟩] ∧ a.node.pageCount = 7#32 ∧
      ∃ f, a.node.hgslFreePages (2 ^ 20) sevenPages.nodeOf (fun _ => 2) a.reclaimable = some f ∧
        f.1.freed = [⟨16, 2⟩, ⟨32, 2⟩] ∧ f.1.reclaimable = fun _ => 0 := by
  obtain ⟨a, hrun, -, hfree⟩ := pages_pair_up sevenPages 0x6800#32 fun _ => 0
  have ha := hrun (2 ^ 20) le_rfl
  have hwhat : (PageNode.hgslSharedmemAlloc (2 ^ 20) sevenPages 0x6800#32 fun _ => 0).map
      (fun a => (a.blocks, a.node.pageCount)) = some ([⟨16, 2⟩, ⟨32, 2⟩], 7#32) := by rfl
  rw [ha] at hwhat
  obtain ⟨hblocks, hcount⟩ := Prod.mk.inj (Option.some.inj hwhat)
  obtain ⟨f, hfreed, hall, hback, -⟩ := hfree (fun _ => 2) (by rw [hblocks]; decide)
  exact ⟨a, ha, hblocks, hcount, f, hfreed (2 ^ 20) le_rfl, hall.trans hblocks, hback⟩

end Hgsl
