import Hgsl.Lib.RefCount
import Hgsl.Lib.Trace
import Hgsl.Memory.ScatterTables

set_option autoImplicit false

/-! # The life of a buffer

From `hgsl_sharedmem_alloc` on, a buffer is used by the cache operations of its client, by the importers of
its dma-buf and by `hgsl_lock_pages`; it ends when `hgsl_sharedmem_free` has dropped the driver's reference
to the dma-buf and the core calls `hgsl_mem_dma_buf_release`. Those who use the internal table, those who
hold a reference to the dma-buf, and the references that the table itself has taken are kept beside the
node. -/

namespace Hgsl

/-! ## Allocation -/

/-- What the calls made inside `hgsl_sharedmem_alloc` return: the memory for the array, `alloc_pages` for
    each block, the calls that make a table, `hyp_assign_table` and `dma_buf_export`. -/
structure AllocCalls where
  malloc : Bool
  allocPages : Nat → Nat → Option Nat
  table : TableCalls
  assign : Int
  dmaBufExport : Except Int Nat

/-- What `hgsl_sharedmem_alloc` returns and leaves. -/
structure SharedmemAlloc extends SgtPut where
  ret : Int
  /-- history: the blocks that it has got -/
  blocks : List PageBlock := []
  /-- history: whether `hgsl_lock_pages` has locked them -/
  locked : Bool := false

/-- `hgsl_export_dma_buf` -/
def hgslExportDmaBuf (dmaBufExport : Except Int Nat) (n : SgtNode) : Int × SgtNode :=
  match dmaBufExport with
  | .error _ => (-ENOMEM, n)
  | .ok dmaBuf => (0, { n with dmaBuf := .ptr dmaBuf })

/-- `hgsl_sharedmem_alloc`, once it has all pages -/
def lockAndExport (calls : AllocCalls) (flags : BitVec 32) (blocks : List PageBlock) (n : SgtNode) :
    SharedmemAlloc :=
  let lock := if isProtected flags then hgslLockPages calls.table calls.assign n else (0, { node := n, events := [] })
  if lock.1 ≠ 0 then { ret := lock.1, node := lock.2.node, events := lock.2.events, blocks }
  else
    let exported := hgslExportDmaBuf calls.dmaBufExport lock.2.node
    { ret := exported.1, node := exported.2, events := lock.2.events, blocks, locked := isProtected flags }

/-- `hgsl_sharedmem_alloc` -/
def hgslSharedmemAlloc (calls : AllocCalls) (sizebytes flags : BitVec 32) (n : SgtNode) : SharedmemAlloc :=
  let requestedSize := (sizebytes + 0xFFF#32) &&& ~~~0xFFF#32
  let requestedPcount := (requestedSize >>> 12).toNat
  if sizebytes = 0#32 ∨ 0xFFFFFFFF#32 - 0x1000#32 < sizebytes ∨ requestedSize < sizebytes then
    { ret := -EINVAL, node := n, events := [] }
  else if calls.malloc = false then { ret := -ENOMEM, node := n, events := [] }
  else
    let got := allocLoop calls.allocPages requestedPcount 0 requestedPcount
    let n := { n with pages := some got.pages, pageCount := got.pages.length, fd := -1 }
    if got.requestedPcount ≠ 0 then { ret := -ENOMEM, node := n, events := [], blocks := got.blocks }
    else lockAndExport calls flags got.blocks n

/-! ## The buffer and what can happen to it -/

/-- Who holds a reference to the dma-buf. -/
inductive BufHolder where
  /-- the reference of `dma_buf_export` -/
  | driver
  /-- the reference that the internal table takes -/
  | table
  | importer (i : Nat)
  deriving DecidableEq, Repr

/-- Who has got the internal table and has not put it. -/
inductive SgtGetter where
  /-- `hgsl_lock_pages` -/
  | lock
  /-- `sgt_ext` -/
  | cacheOp
  /-- importer `i`, with the table that it was given -/
  | mapping (i : Nat) (sgt : KPtr)
  deriving DecidableEq, Repr

def SgtGetter.isMappingOf (i : Nat) : SgtGetter → Bool
  | .mapping j _ => i = j
  | _ => false

inductive BufPhase where
  | fresh
  | live
  /-- `hgsl_sharedmem_alloc` has failed -/
  | failed
  /-- in `hgsl_sharedmem_free`, before it drops the dma-buf -/
  | freeing
  | gone
  deriving DecidableEq, Repr

structure SharedBuffer where
  node : SgtNode
  /-- the file of the dma-buf -/
  file : RefCount BufHolder := ⟨0, []⟩
  phase : BufPhase := .fresh
  /-- history: those who use the internal table -/
  getters : List SgtGetter := []
  /-- history: the references that the internal table has taken and dropped -/
  events : List DmaEvent := []
  /-- history: the blocks of pages that were allocated -/
  blocks : List PageBlock := []
  /-- history: the blocks that `__free_pages` got -/
  freed : List PageBlock := []
  locked : Bool := false
  exported : Bool := false
  released : Bool := false
  deriving DecidableEq, Repr

namespace SharedBuffer

/-- A node as `hgsl_mem_node_zalloc` makes it; its callers set the flags that they pass to
    `hgsl_sharedmem_alloc`. -/
def init (flags : BitVec 32) : SharedBuffer := { node := { flags } }

/-- The table takes and drops its reference. -/
def tableFile : List DmaEvent → RefCount BufHolder → RefCount BufHolder
  | [], file => file
  | .acquire _ :: es, file => tableFile es (file.get .table)
  | .release _ :: es, file => tableFile es (file.put .table)

/-- `hgsl_sharedmem_alloc` has returned. -/
def allocated (s : SharedBuffer) (done : SharedmemAlloc) : SharedBuffer :=
  { s with
    node := done.node
    phase := if done.ret = 0 then .live else .failed
    file := if done.ret = 0 then .init .driver else s.file
    getters := if done.locked then [.lock] else []
    events := done.events
    blocks := done.blocks
    locked := done.locked
    exported := done.ret = 0 }

/-- Somebody has called `hgsl_get_sgt_internal`. -/
def join (s : SharedBuffer) (g : SgtGetter) (got : SgtGot) : SharedBuffer :=
  { s with
    node := got.node
    getters := if got.sgt.isErrOrNull then s.getters else g :: s.getters
    file := tableFile got.events s.file
    events := s.events ++ got.events }

/-- Somebody who had the table has called `hgsl_put_sgt_internal`. -/
def leave (s : SharedBuffer) (g : SgtGetter) (put : SgtPut) : SharedBuffer :=
  { s with
    node := put.node
    getters := s.getters.erase g
    file := tableFile put.events s.file
    events := s.events ++ put.events }

/-- The order of a compound page, as `alloc_pages` has set it. -/
def compoundOrder (s : SharedBuffer) (page : Nat) : Nat :=
  ((s.blocks.find? fun b => b.page = page).map PageBlock.order).getD 0

/-- `hgsl_mem_free_actual` -/
def freeActual (s : SharedBuffer) : SharedBuffer :=
  let free := hgslMemFreeActual s.compoundOrder s.node
  { s.leave .lock free.1 with freed := s.freed ++ free.2 }

/-- `hgsl_sharedmem_free` puts the table of the cache operations. -/
def putExt (s : SharedBuffer) : SharedBuffer := s.leave .cacheOp (hgslPutSgt true s.node)

inductive BufOp where
  | alloc (calls : AllocCalls) (sizebytes : BitVec 32)
  /-- `hgsl_mem_cache_op` with `internal`, where it gets to `hgsl_get_sgt` -/
  | cacheOp (dma : DmaCalls) (table : TableCalls)
  /-- importer `i` takes a reference -/
  | importerGet (i : Nat)
  | importerPut (i : Nat)
  /-- the core calls `hgsl_mem_map_dma_buf` for importer `i` -/
  | map (i : Nat) (table : TableCalls)
  /-- the core calls `hgsl_mem_unmap_dma_buf` -/
  | unmap (i : Nat) (sgt : KPtr)
  /-- `hgsl_sharedmem_free`, as far as the table -/
  | freeSgt
  /-- the rest of `hgsl_sharedmem_free` -/
  | freeBuf
  /-- the core calls `hgsl_mem_dma_buf_release` -/
  | release

/-- Importer `i` has a mapping. -/
def maps (s : SharedBuffer) (i : Nat) : Bool := s.getters.any (SgtGetter.isMappingOf i)

/-- A mapping belongs to an importer that holds a reference, and which keeps one as long as it has a mapping;
    the last reference that is dropped makes the core release the dma-buf, once. `alloc_pages` gives no page
    twice. -/
def step (s : SharedBuffer) : BufOp → Option SharedBuffer
  | .alloc calls sizebytes =>
    let done := hgslSharedmemAlloc calls sizebytes s.node.flags s.node
    if s.phase = .fresh ∧ (done.blocks.map PageBlock.page).Nodup then some (s.allocated done) else none
  | .cacheOp dma table =>
    if s.phase = .live ∧ isProtected s.node.flags = false then
      if s.node.sgtExt.isErrOrNull then
        let got := hgslGetSgtInternal table s.node
        some (s.join .cacheOp { got with node := (hgslGetSgt dma table true s.node).node })
      else some s
    else none
  | .importerGet i => (s.file.getUnlessZero (.importer i)).map fun file => { s with file }
  | .importerPut i =>
    if .importer i ∈ s.file.holders ∧ (s.maps i → 1 < s.file.holders.count (.importer i)) then
      some { s with file := s.file.put (.importer i) }
    else none
  | .map i table =>
    if .importer i ∈ s.file.holders then
      let got := hgslMemMapDmaBuf table s.node
      some (s.join (.mapping i got.sgt) got)
    else none
  | .unmap i sgt =>
    if .mapping i sgt ∈ s.getters then some (s.leave (.mapping i sgt) (hgslMemUnmapDmaBuf sgt s.node)) else none
  | .freeSgt =>
    if s.phase = .live ∨ s.phase = .failed then some { s.putExt with phase := .freeing } else none
  | .freeBuf =>
    if s.phase = .freeing then
      if s.node.dmaBuf ≠ .null then some { s with phase := .gone, file := s.file.put .driver }
      else some { s.freeActual with phase := .gone }
    else none
  | .release =>
    if s.exported ∧ s.file.count = 0 ∧ s.released = false then some { s.freeActual with released := true } else none

/-- Another getter still fits into the counter. -/
def FewGetters (s : SharedBuffer) : BufOp → Prop
  | .cacheOp _ _ => s.getters.length + 1 < 2 ^ 32
  | .map _ _ => s.getters.length + 1 < 2 ^ 32
  | _ => True

instance (s : SharedBuffer) (op : BufOp) : Decidable (s.FewGetters op) :=
  match op with
  | .alloc _ _ | .importerGet _ | .importerPut _ | .unmap _ _ | .freeSgt | .freeBuf | .release =>
    inferInstanceAs (Decidable True)
  | .cacheOp _ _ | .map _ _ => inferInstanceAs (Decidable (s.getters.length + 1 < 2 ^ 32))

/-- The reference of the internal table, while there is one. A table that was made before the dma-buf has
    none. -/
def tableRefs (s : SharedBuffer) : List DmaResource :=
  if s.node.sgt ≠ .null ∧ s.locked = false then [.ref s.node.dmaBuf] else []

/-- Nothing of the buffer is left. -/
def done (s : SharedBuffer) : Bool := s.released || (s.phase = .gone && !s.exported)

end SharedBuffer

end Hgsl
