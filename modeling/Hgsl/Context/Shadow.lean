import Hgsl.Context.Table
import Hgsl.Lib.Once
import Mathlib.Logic.Function.Basic

set_option autoImplicit false

/-! # The shadow memory of a context that is being created

`hgsl_hyp_ctxt_create_v1` and `hgsl_hyp_ctxt_create_v2` set up the shadow timestamps of a new context, in a
buffer of the front end or in one that the back end exports, and `hgsl_ioctl_ctxt_create` goes on with the same
context in legacy mode when they fail. What a function can meet on its way, an allocation that fails or a reply
that is cut short, is an argument of it.

Memory nodes are numbered in the order of their allocation. A node is freed when the driver has given it up, also
where a `dma_buf` keeps it for others. Left out: the mappings in the GPU's page tables and the imports. -/

namespace Hgsl

/-- What a read from the reply gives; the value counts when `ret` is 0. -/
structure ReplyRead (α : Type) where
  ret : Int
  val : α
  deriving DecidableEq, Repr

def EIO : Int := 5
def GSL_SUCCESS : Int := 0
def GSL_FLAGS_INITIALIZED : BitVec 32 := 0x00000004#32

/-- `-1` in `ctxthandle` -/
def noCtxthandle : BitVec 32 := -1#32

/-- The fields of `struct hgsl_context` about its memory, and the memory nodes. -/
structure ShadowCtxt where
  /-- `shadow_ts` points into the mapping of a node -/
  shadowTs : Bool := false
  shadowTsNode : Option Nat := none
  isFeShadow : Bool := false
  shadowTsFlags : BitVec 32 := 0#32
  ctxtRecordMemNode : Option Nat := none
  /-- the nodes in `mem_allocated` of the client -/
  memAllocated : List Nat := []
  /-- the nodes with a `dma_buf` -/
  dmaBuf : List Nat := []
  /-- history: the nodes, in the order of their allocation -/
  allocated : List Nat := []
  /-- history: the nodes freed, once for each time -/
  freed : List Nat := []
  /-- history: memory was used that is not there -/
  badUse : Bool := false
  deriving DecidableEq, Repr

namespace ShadowCtxt

/-! ## Nodes -/

/-- The node that `hgsl_mem_node_zalloc` returns -/
def newNode (s : ShadowCtxt) : Nat := s.allocated.length

/-- `hgsl_mem_node_zalloc` -/
def hgslMemNodeZalloc (s : ShadowCtxt) : ShadowCtxt :=
  { s with allocated := s.allocated ++ [s.newNode] }

/-- A node is read or written. -/
def touch (s : ShadowCtxt) (node : Nat) : ShadowCtxt :=
  { s with badUse := s.badUse || s.freed.contains node }

/-- `kfree` of a node -/
def kfree (s : ShadowCtxt) (node : Nat) : ShadowCtxt :=
  { s.touch node with freed := s.freed ++ [node] }

/-- `hgsl_sharedmem_free` -/
def hgslSharedmemFree (s : ShadowCtxt) : Option Nat → ShadowCtxt
  | none => s
  | some node => s.kfree node

/-- `hgsl_hyp_mem_unmap_smmu` -/
def hgslHypMemUnmapSmmu (s : ShadowCtxt) : Option Nat → ShadowCtxt
  | none => s
  | some node => s.touch node

/-- `hgsl_hyp_put_shadowts_mem` -/
def hgslHypPutShadowtsMem (s : ShadowCtxt) (node : Nat) : ShadowCtxt := s.touch node

def setDmaBuf (s : ShadowCtxt) (node : Nat) : ShadowCtxt := { s with dmaBuf := node :: s.dmaBuf }

/-! ## Shadow timestamps -/

/-- `assign_shadow_ts_cpu_addr_memstore`; `vmap` is what `dma_buf_vmap_unlocked` returns. -/
def assignShadowTsCpuAddrMemstore (s : ShadowCtxt) (node : Nat) (vmap : Int) : ShadowCtxt × Int :=
  if !s.dmaBuf.contains node then (s, -EINVAL)
  else if vmap ≠ 0 then (s, -EFAULT)
  else
    ({ s with
      shadowTs := true, shadowTsNode := some node, isFeShadow := true, shadowTsFlags := GSL_FLAGS_INITIALIZED }, 0)

/-- What `read_shadowts_mem_fe` meets. -/
structure FeReply where
  rval : ReplyRead Int
  memdesc : Int
  vmap : Int
  deriving DecidableEq, Repr

/-- `read_shadowts_mem_fe` -/
def readShadowtsMemFe (s : ShadowCtxt) (node : Nat) (r : FeReply) : ShadowCtxt × Int :=
  if r.rval.ret ≠ 0 then (s, r.rval.ret)
  else if r.rval.val = GSL_SUCCESS then
    if r.memdesc ≠ 0 then (s.touch node, r.memdesc)
    else if !s.dmaBuf.contains node then (s.touch node, -EINVAL)
    else (s.touch node).assignShadowTsCpuAddrMemstore node r.vmap
  else (s, -EINVAL)

/-- What `read_shadowts_mem_be` meets. -/
structure BeReply where
  /-- the flags of the shadow buffer -/
  rpcShadow : ReplyRead (BitVec 32)
  exportId : Int
  zalloc : Bool
  habmmImport : Int
  vmap : Int
  deriving DecidableEq, Repr

/-- `read_shadowts_mem_be` -/
def readShadowtsMemBe (s : ShadowCtxt) (r : BeReply) : ShadowCtxt × Int :=
  if r.rpcShadow.ret ≠ 0 then (s, r.rpcShadow.ret)
  else if r.exportId ≠ 0 then (s, r.exportId)
  else if r.rpcShadow.val &&& GSL_FLAGS_INITIALIZED ≠ 0#32 then
    if !r.zalloc then (s, -ENOMEM)
    else
      let node := s.newNode
      let s' := s.hgslMemNodeZalloc
      if r.habmmImport ≠ 0 then (s'.kfree node, r.habmmImport)
      else if r.vmap ≠ 0 then
        ((((s'.setDmaBuf node).hgslHypPutShadowtsMem node).touch node).kfree node, -EFAULT)
      else
        ({ s'.setDmaBuf node with
          shadowTs := true, shadowTsNode := some node, shadowTsFlags := r.rpcShadow.val }, 0)
  else (s, 0)

/-- `dma_buf_vunmap_unlocked` and `dma_buf_end_cpu_access` through `shadow_ts_node`, and the reset of `shadow_ts` -/
def vunmapShadow (s : ShadowCtxt) : ShadowCtxt :=
  match s.shadowTs, s.shadowTsNode with
  | false, _ => s
  | true, some node => { s.touch node with shadowTs := false }
  | true, none => { s with badUse := true }

/-- `_cleanup_shadow` -/
def cleanupShadow (s : ShadowCtxt) : ShadowCtxt :=
  match s.shadowTsNode with
  | none => s
  | some node =>
    let s' := s.touch node
    let s' := { s' with shadowTs := if s'.dmaBuf.contains node then false else s'.shadowTs }
    let s' :=
      if s'.isFeShadow then (s'.hgslHypMemUnmapSmmu (some node)).hgslSharedmemFree (some node)
      else (s'.hgslHypPutShadowtsMem node).kfree node
    { s' with shadowTsFlags := 0#32, isFeShadow := false, shadowTsNode := none }

/-! ## Version 1 -/

/-- What `hgsl_hyp_ctxt_create_v1` meets. -/
structure CreateV1 where
  habChannel : Bool := true
  parcelReset : Int := 0
  zalloc : Bool := true
  sharedmemAlloc : Int := 0
  /-- `write_ctxt_shadowts_mem_fe` behind its check of the `dma_buf` -/
  write : Int := 0
  transact : Int := 0
  ctxthandle : ReplyRead (BitVec 32)
  fe : FeReply
  be : BeReply
  dbqOff : Bool
  rval : ReplyRead Int
  dbqInfo : ReplyRead (BitVec 32)
  deriving DecidableEq, Repr

/-- Where a create stands at `out`: the context, its own buffers, `ctxthandle` and `ret` -/
structure AtOut where
  state : ShadowCtxt
  memNode : Option Nat := none
  ctxtRecordMemNode : Option Nat := none
  /-- `ctxt_node_added` -/
  added : Bool := false
  ctxthandle : BitVec 32 := noCtxthandle
  ret : Int
  deriving DecidableEq, Repr

/-- The reads of the shadow memory, first of the front end and then of the back end -/
def v1ReadShadow (s : ShadowCtxt) (node : Nat) (r : CreateV1) : ShadowCtxt × Int :=
  let fe := s.readShadowtsMemFe node r.fe
  if fe.2 ≠ 0 then fe.1.readShadowtsMemBe r.be else fe

/-- The reads about the doorbell queue -/
def v1ReadDbq (r : CreateV1) : Int :=
  if r.dbqOff then 0
  else if r.rval.ret ≠ 0 then r.rval.ret
  else if r.rval.val = GSL_SUCCESS then r.dbqInfo.ret
  else 0

/-- `hgsl_hyp_ctxt_create_v1` from the reads of the shadow memory on -/
def v1Shadow (s : ShadowCtxt) (node : Nat) (r : CreateV1) : ShadowCtxt × Int :=
  let sh := s.v1ReadShadow node r
  (sh.1, if sh.2 ≠ 0 then sh.2 else v1ReadDbq r)

/-- `hgsl_hyp_ctxt_create_v1` up to `out` -/
def v1Body (s : ShadowCtxt) (r : CreateV1) : AtOut :=
  if !r.habChannel then { state := s, ret := -EINVAL }
  else if r.parcelReset ≠ 0 then { state := s, ret := r.parcelReset }
  else if !r.zalloc then { state := s, ret := -ENOMEM }
  else
    let node := s.newNode
    let s := s.hgslMemNodeZalloc
    if r.sharedmemAlloc ≠ 0 then { state := s, memNode := some node, ret := r.sharedmemAlloc }
    else
      let s := s.setDmaBuf node
      if r.write ≠ 0 then { state := s, memNode := some node, ret := r.write }
      else if r.transact ≠ 0 then { state := s, memNode := some node, ret := r.transact }
      else if r.ctxthandle.ret ≠ 0 then { state := s, memNode := some node, ret := r.ctxthandle.ret }
      else if HGSL_CONTEXT_NUM ≤ r.ctxthandle.val.toNat then
        { state := s, memNode := some node, ctxthandle := r.ctxthandle.val, ret := -EINVAL }
      else
        let sh := s.v1Shadow node r
        { state := sh.1, memNode := some node, ctxthandle := r.ctxthandle.val, ret := sh.2 }

/-- What a create leaves: the context, `ctxthandle` and its result -/
structure Created where
  state : ShadowCtxt
  ctxthandle : BitVec 32
  ret : Int
  deriving DecidableEq, Repr

/-- `ctxthandle` after the error path: a context of the back end is destroyed again. -/
def AtOut.handle (e : AtOut) : BitVec 32 :=
  if e.ret ≠ 0 ∧ e.ctxthandle.toNat < HGSL_CONTEXT_NUM then noCtxthandle else e.ctxthandle

/-- The error path of `hgsl_hyp_ctxt_create_v1`; the node of the front end is not taken out of the context. -/
def v1Undo (s : ShadowCtxt) : ShadowCtxt :=
  let s := s.vunmapShadow
  match s.shadowTsNode, s.isFeShadow with
  | some node, false => { (s.hgslHypPutShadowtsMem node).kfree node with shadowTsNode := none }
  | some _, true | none, _ => s

/-- `hgsl_hyp_ctxt_create_v1` -/
def hgslHypCtxtCreateV1 (s : ShadowCtxt) (r : CreateV1) : Created :=
  let e := s.v1Body r
  let s' := if e.ret ≠ 0 then e.state.v1Undo else e.state
  { state :=
      if e.ret ≠ 0 ∨ !s'.isFeShadow then (s'.hgslHypMemUnmapSmmu e.memNode).hgslSharedmemFree e.memNode else s'
    ctxthandle := e.handle
    ret := e.ret }

/-! ## Version 2 -/

def GSL_CONTEXT_FLAG_USES_PROTECTED : BitVec 32 := 0x00020000#32

/-- What `hgsl_hyp_ctxt_create_v2` meets. -/
structure CreateV2 where
  /-- the device handle is valid and the active one -/
  devhandle : Bool := true
  habChannel : Bool := true
  parcelReset : Int := 0
  zalloc : Bool := true
  sharedmemAlloc : Int := 0
  flags : BitVec 32
  /-- `ctxt_rec_buf_size_KB` -/
  recordSizeKB : BitVec 32
  recordZalloc : Bool := true
  recordAlloc : Int := 0
  getGpuaddr : Int := 0
  mmuMap : Int := 0
  addNode : Int := 0
  write : Int := 0
  transact : Int := 0
  ctxthandle : ReplyRead (BitVec 32)
  rval : ReplyRead Int
  vmap : Int
  deriving DecidableEq, Repr

/-- The context record of `hgsl_hyp_ctxt_create_v2`, which only a context without protection has -/
def v2Record (s : ShadowCtxt) (r : CreateV2) (node : Nat) : AtOut :=
  if r.flags &&& GSL_CONTEXT_FLAG_USES_PROTECTED ≠ 0#32 then { state := s, memNode := some node, ret := 0 }
  else if r.recordSizeKB * 1024#32 = 0#32 then { state := s, memNode := some node, ret := -EINVAL }
  else if !r.recordZalloc then { state := s, memNode := some node, ret := -ENOMEM }
  else
    let record := s.newNode
    let s := s.hgslMemNodeZalloc
    let e : AtOut := { state := s, memNode := some node, ctxtRecordMemNode := some record, ret := 0 }
    if r.recordAlloc ≠ 0 then { e with ret := r.recordAlloc }
    else
      let e : AtOut := { e with state := s.setDmaBuf record }
      if r.getGpuaddr ≠ 0 then { e with ret := -EINVAL }
      else if r.mmuMap ≠ 0 then { e with ret := r.mmuMap }
      else if r.addNode ≠ 0 then { e with ret := r.addNode }
      else { e with state := { e.state with memAllocated := record :: s.memAllocated }, added := true }

/-- `hgsl_hyp_ctxt_create_v2` from its call of the back end on -/
def v2Call (e : AtOut) (r : CreateV2) (node : Nat) : AtOut :=
  if r.write ≠ 0 then { e with ret := r.write }
  else if r.transact ≠ 0 then { e with ret := r.transact }
  else if r.ctxthandle.ret ≠ 0 then { e with ret := r.ctxthandle.ret }
  else
    let e := { e with ctxthandle := r.ctxthandle.val }
    if HGSL_CONTEXT_NUM ≤ r.ctxthandle.val.toNat then { e with ret := -EINVAL }
    else
      let e := { e with state := { e.state with ctxtRecordMemNode := e.ctxtRecordMemNode } }
      if r.rval.ret ≠ 0 then { e with ret := r.rval.ret }
      else if r.rval.val ≠ GSL_SUCCESS then { e with ret := - EIO }
      else
        let a := e.state.assignShadowTsCpuAddrMemstore node r.vmap
        { e with state := a.1, ret := a.2 }

/-- `hgsl_hyp_ctxt_create_v2` up to `out` -/
def v2Body (s : ShadowCtxt) (r : CreateV2) : AtOut :=
  if !r.devhandle then { state := s, ret := -EINVAL }
  else if !r.habChannel then { state := s, ret := -EINVAL }
  else if r.parcelReset ≠ 0 then { state := s, ret := r.parcelReset }
  else if !r.zalloc then { state := s, ret := -ENOMEM }
  else
    let node := s.newNode
    let s := s.hgslMemNodeZalloc
    if r.sharedmemAlloc ≠ 0 then { state := s, memNode := some node, ret := r.sharedmemAlloc }
    else
      let e := (s.setDmaBuf node).v2Record r node
      if e.ret ≠ 0 then e else v2Call e r node

/-- The error path of `hgsl_hyp_ctxt_create_v2` for the shadow memory -/
def v2UndoShadow (e : AtOut) : ShadowCtxt :=
  let s := e.state.vunmapShadow
  if s.isFeShadow then
    { (s.hgslHypMemUnmapSmmu e.memNode).hgslSharedmemFree e.memNode with shadowTsNode := none }
  else s.hgslSharedmemFree e.memNode

/-- The error path of `hgsl_hyp_ctxt_create_v2` for the context record -/
def v2UndoRecord (s : ShadowCtxt) (record : Nat) (added : Bool) : ShadowCtxt :=
  let s := if added then { s.touch record with memAllocated := s.memAllocated.erase record } else s
  { s.hgslSharedmemFree (some record) with ctxtRecordMemNode := none }

/-- The error path of `hgsl_hyp_ctxt_create_v2` -/
def v2Undo (e : AtOut) : ShadowCtxt :=
  match e.ctxtRecordMemNode with
  | none => v2UndoShadow e
  | some record => (v2UndoShadow e).v2UndoRecord record e.added

/-- `hgsl_hyp_ctxt_create_v2` -/
def hgslHypCtxtCreateV2 (s : ShadowCtxt) (r : CreateV2) : Created :=
  let e := s.v2Body r
  { state := if e.ret ≠ 0 then v2Undo e else e.state, ctxthandle := e.handle, ret := e.ret }

/-! ## Legacy mode -/

/-- What `hgsl_ioctl_ctxt_create` meets after a failed create. -/
structure Fallback where
  /-- `hgsl_hyp_ctxt_create` -/
  legacy : ReplyRead (BitVec 32)
  zalloc : Bool
  /-- `hgsl_hyp_get_shadowts_mem`; the value says whether it has imported a buffer. -/
  getShadow : ReplyRead Bool
  vmap : Int
  deriving DecidableEq, Repr

/-- `hgsl_get_shadowts_mem` -/
def hgslGetShadowtsMem (s : ShadowCtxt) (f : Fallback) : ShadowCtxt :=
  match s.shadowTsNode with
  | some _ => s
  | none =>
    if !f.zalloc then s.cleanupShadow
    else
      let node := s.newNode
      let s := { s.hgslMemNodeZalloc with shadowTsNode := some node }
      if f.getShadow.ret ≠ 0 then s.cleanupShadow
      else if f.getShadow.val then
        let s := s.setDmaBuf node
        if f.vmap ≠ 0 then s.cleanupShadow else { s with shadowTs := true }
      else s

/-- `hgsl_ioctl_get_shadowts_mem`, or a read of a timestamp -/
def useShadow (s : ShadowCtxt) : ShadowCtxt :=
  match s.shadowTsNode with
  | some node => s.touch node
  | none => { s with badUse := s.badUse || s.shadowTs }

/-- The end of a context, in `hgsl_ctxt_destroy` or on the error path of `hgsl_ioctl_ctxt_create`: one of the two
    calls of `_cleanup_shadow`, before or after the back end is told -/
def destroyShadow (s : ShadowCtxt) : ShadowCtxt :=
  let s := if !s.isFeShadow then s.cleanupShadow else s
  if s.isFeShadow then s.cleanupShadow else s

/-- `hgsl_ioctl_ctxt_create` in legacy mode, with what becomes of the context -/
def fallback (c : Created) (f : Fallback) : ShadowCtxt :=
  if f.legacy.ret ≠ 0 then
    if c.ctxthandle.toNat < HGSL_CONTEXT_NUM then c.state.destroyShadow else c.state
  else if HGSL_CONTEXT_NUM ≤ f.legacy.val.toNat then c.state
  else (c.state.hgslGetShadowtsMem f).useShadow.destroyShadow

end ShadowCtxt

end Hgsl
