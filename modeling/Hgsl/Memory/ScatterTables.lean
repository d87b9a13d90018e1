import Hgsl.Lib.Custody
import Hgsl.Memory.Nodes
import Hgsl.Memory.Pages

set_option autoImplicit false

/-! # The scatter tables of a node

A node has up to three of them: `sgt`, of the driver's own pages, which is shared and counted; `sgt_ext`, of
the cache operations, which is that one or the mapping of an imported buffer; and `sgt_iommu`, of the SMMU.
The dma-buf core is outside; what a function asks of it is in the events that it returns, and what the core
answers is a parameter. -/

namespace Hgsl

/-- A pointer, as `IS_ERR_OR_NULL` looks at it -/
inductive KPtr where
  | null
  | err (e : Int)
  | ptr (a : Nat)
  deriving DecidableEq, Repr

namespace KPtr

/-- `IS_ERR_OR_NULL` -/
def isErrOrNull : KPtr → Bool
  | .ptr _ => false
  | _ => true

/-- `IS_ERR` -/
def isErr : KPtr → Bool
  | .err _ => true
  | _ => false

/-- What a function returns that returns a pointer or an `ERR_PTR`. -/
def ofReply : Except Int Nat → KPtr
  | .error e => .err e
  | .ok a => .ptr a

@[simp] theorem isErrOrNull_null : null.isErrOrNull = true := by simp [isErrOrNull]
@[simp] theorem isErrOrNull_err (e : Int) : (err e).isErrOrNull = true := by simp [isErrOrNull]
@[simp] theorem isErrOrNull_ptr (a : Nat) : (ptr a).isErrOrNull = false := by simp [isErrOrNull]
@[simp] theorem isErr_null : null.isErr = false := by simp [isErr]
@[simp] theorem isErr_err (e : Int) : (err e).isErr = true := by simp [isErr]
@[simp] theorem isErr_ptr (a : Nat) : (ptr a).isErr = false := by simp [isErr]
@[simp] theorem ofReply_error (e : Int) : ofReply (.error e) = .err e := by simp [ofReply]
@[simp] theorem ofReply_ok (a : Nat) : ofReply (.ok a) = .ptr a := by simp [ofReply]

theorem isErrOrNull_eq_false {p : KPtr} : p.isErrOrNull = false ↔ ∃ a, p = .ptr a := by
  cases p <;> simp

end KPtr

/-- What a node gets from the dma-buf core. -/
inductive DmaResource where
  /-- a reference to a dma-buf -/
  | ref (dmaBuf : KPtr)
  | attachment (dmaBuf attach : KPtr)
  /-- the mapping of an attachment -/
  | mapping (attach sgt : KPtr)
  deriving DecidableEq, Repr

abbrev DmaEvent := Custody.Event DmaResource

/-- `struct hgsl_mem_node_iommu_info` -/
structure NodeIommuInfo where
  sgtIommu : KPtr := .null
  sgtIommuRefcount : BitVec 32 := 0#32
  dmaBufIommu : KPtr := .null
  attachIommu : KPtr := .null
  deriving DecidableEq, Repr

/-- `struct hgsl_mem_node`, as far as its scatter tables are concerned. `hgsl_mem_node_zalloc` sets the
    fields to zero. -/
structure SgtNode where
  fd : Int := 0
  dmaBuf : KPtr := .null
  /-- NULL is `none` -/
  pages : Option (List Nat) := none
  pageCount : Nat := 0
  attach : KPtr := .null
  sgt : KPtr := .null
  sgtExt : KPtr := .null
  sgtRefcount : BitVec 32 := 0#32
  flags : BitVec 32 := 0#32
  memNodeIommuInfo : NodeIommuInfo := {}
  deriving DecidableEq, Repr

/-- What a call leaves. -/
structure SgtPut where
  node : SgtNode
  events : List DmaEvent
  deriving DecidableEq, Repr

/-- What a call leaves, and the table that it returns. -/
structure SgtGot extends SgtPut where
  sgt : KPtr
  deriving DecidableEq, Repr

/-- What the calls return by which a table is made: the memory for it (NULL is `none`), and
    `sg_alloc_table_from_pages`. -/
structure TableCalls where
  zalloc : Option Nat
  allocTable : Int
  deriving DecidableEq, Repr

/-- What `dma_buf_get`, `dma_buf_attach` and `dma_buf_map_attachment_unlocked` return: a pointer or an
    `ERR_PTR`. -/
structure DmaCalls where
  get : Except Int Nat
  attach : Except Int Nat
  map : Except Int Nat

/-! ## The internal table -/

/-- `hgsl_get_sgt_internal` -/
def hgslGetSgtInternal (calls : TableCalls) (n : SgtNode) : SgtGot :=
  if n.pages = none ∨ n.pageCount = 0 then { sgt := .err (-EINVAL), node := n, events := [] }
  else if n.sgt.isErrOrNull = false then
    { sgt := n.sgt, node := { n with sgtRefcount := n.sgtRefcount + 1#32 }, events := [] }
  else
    match calls.zalloc with
    | none => { sgt := .err (-ENOMEM), node := n, events := [] }
    | some sgt =>
      if calls.allocTable ≠ 0 then { sgt := .err calls.allocTable, node := n, events := [] }
      else
        { sgt := .ptr sgt
          node := { n with sgt := .ptr sgt, sgtRefcount := 1#32 }
          events := if n.dmaBuf ≠ .null then [.acquire (.ref n.dmaBuf)] else [] }

/-- `hgsl_put_sgt_internal` -/
def hgslPutSgtInternal (n : SgtNode) : SgtPut :=
  if n.sgtRefcount = 0#32 ∨ n.sgt = .null then { node := n, events := [] }
  else if n.sgtRefcount - 1#32 = 0#32 then
    { node := { n with sgtRefcount := 0#32, sgt := .null }
      events := if n.dmaBuf ≠ .null then [.release (.ref n.dmaBuf)] else [] }
  else { node := { n with sgtRefcount := n.sgtRefcount - 1#32 }, events := [] }

/-- `hgsl_mem_map_dma_buf` -/
def hgslMemMapDmaBuf (calls : TableCalls) (n : SgtNode) : SgtGot := hgslGetSgtInternal calls n

/-- `hgsl_mem_unmap_dma_buf` -/
def hgslMemUnmapDmaBuf (sgt : KPtr) (n : SgtNode) : SgtPut :=
  if sgt ≠ n.sgt then { node := n, events := [] } else hgslPutSgtInternal n

/-- `hgsl_lock_pages`: its result and what it leaves; `assign` is what `hyp_assign_table` returns. -/
def hgslLockPages (calls : TableCalls) (assign : Int) (n : SgtNode) : Int × SgtPut :=
  let got := hgslGetSgtInternal calls n
  match got.sgt with
  | .err e => (e, got.toSgtPut)
  | _ =>
    if assign ≠ 0 then
      let put := hgslPutSgtInternal got.node
      (assign, { put with events := got.events ++ put.events })
    else (0, got.toSgtPut)

/-- `hgsl_unlock_pages`; whether `hyp_assign_table` fails or not, the table is put. -/
def hgslUnlockPages (n : SgtNode) : SgtPut :=
  if n.sgt = .null then { node := n, events := [] } else hgslPutSgtInternal { n with dmaBuf := .null }

/-- `flags & GSL_MEMFLAGS_PROTECTED` -/
def isProtected (flags : BitVec 32) : Bool := flags &&& GSL_MEMFLAGS_PROTECTED ≠ 0#32

/-- `hgsl_mem_free_actual`: what it leaves, and the blocks that it frees. -/
def hgslMemFreeActual (compoundOrder : Nat → Nat) (n : SgtNode) : SgtPut × List PageBlock :=
  let put := if isProtected n.flags then hgslUnlockPages n else { node := n, events := [] }
  ({ put with node := { put.node with pageCount := 0 } },
    hgslFreePages compoundOrder (put.node.pages.getD []) put.node.pageCount)

/-! ## The table of the cache operations -/

/-- `hgsl_get_sgt`, the dma-buf of an imported node -/
def getSgtDmaBuf (calls : DmaCalls) (n : SgtNode) : SgtPut :=
  if n.dmaBuf.isErrOrNull then
    match calls.get with
    | .error e => { node := { n with dmaBuf := .err e }, events := [] }
    | .ok b => { node := { n with dmaBuf := .ptr b }, events := [.acquire (.ref (.ptr b))] }
  else { node := n, events := [] }

/-- `hgsl_get_sgt`, the attachment of an imported node -/
def getSgtAttach (calls : DmaCalls) (n : SgtNode) : SgtPut :=
  if n.attach.isErrOrNull then
    let buf := getSgtDmaBuf calls n
    if buf.node.dmaBuf.isErrOrNull then buf
    else
      { node := { buf.node with attach := .ofReply calls.attach }
        events := buf.events ++
          match calls.attach with
          | .error _ => []
          | .ok a => [.acquire (.attachment buf.node.dmaBuf (.ptr a))] }
  else { node := n, events := [] }

/-- `hgsl_get_sgt` -/
def hgslGetSgt (calls : DmaCalls) (table : TableCalls) (internal : Bool) (n : SgtNode) : SgtPut :=
  if n.sgtExt.isErrOrNull = false then { node := n, events := [] }
  else if internal then
    let got := hgslGetSgtInternal table n
    { node := { got.node with sgtExt := got.sgt }, events := got.events }
  else
    let att := getSgtAttach calls n
    if att.node.attach.isErrOrNull then att
    else
      { node := { att.node with sgtExt := .ofReply calls.map }
        events := att.events ++
          match calls.map with
          | .error _ => []
          | .ok sgt => [.acquire (.mapping att.node.attach (.ptr sgt))] }

/-- `hgsl_put_sgt` -/
def hgslPutSgt (internal : Bool) (n : SgtNode) : SgtPut :=
  if n.sgtExt.isErrOrNull then { node := n, events := [] }
  else if internal then
    let put := hgslPutSgtInternal n
    { put with node := { put.node with sgtExt := .null } }
  else
    let attached := !n.attach.isErrOrNull
    let dmaBuf := !n.dmaBuf.isErrOrNull
    { node :=
        { n with
          sgtExt := if attached then .null else n.sgtExt
          attach := if attached && dmaBuf then .null else n.attach
          dmaBuf := if dmaBuf then .null else n.dmaBuf }
      events :=
        (if attached then [.release (.mapping n.attach n.sgtExt)] else []) ++
          (if attached && dmaBuf then [.release (.attachment n.dmaBuf n.attach)] else []) ++
            if dmaBuf then [.release (.ref n.dmaBuf)] else [] }

/-! ## The table of the SMMU -/

/-- `hgsl_get_sgt_iommu`, the dma-buf; `none` if there is neither a dma-buf nor a file descriptor -/
def getIommuDmaBuf (calls : DmaCalls) (n : SgtNode) : Option (NodeIommuInfo × List DmaEvent) :=
  let info := n.memNodeIommuInfo
  if n.dmaBuf ≠ .null then some ({ info with dmaBufIommu := n.dmaBuf }, [.acquire (.ref n.dmaBuf)])
  else if n.fd < 0 then none
  else
    match calls.get with
    | .error e => some ({ info with dmaBufIommu := .err e }, [])
    | .ok b => some ({ info with dmaBufIommu := .ptr b }, [.acquire (.ref (.ptr b))])

/-- `hgsl_get_sgt_iommu`, the attachment -/
def getIommuAttach (calls : DmaCalls) (info : NodeIommuInfo) : NodeIommuInfo × List DmaEvent :=
  if info.attachIommu.isErrOrNull then
    match calls.attach with
    | .error e => ({ info with attachIommu := .err e }, [])
    | .ok a => ({ info with attachIommu := .ptr a }, [.acquire (.attachment info.dmaBufIommu (.ptr a))])
  else (info, [])

/-- `hgsl_get_sgt_iommu`, what it undoes at `out` when there is no table -/
def undoGetIommu (info : NodeIommuInfo) : NodeIommuInfo × List DmaEvent :=
  if info.dmaBufIommu.isErrOrNull then (info, [])
  else
    -- the attachment is compared with NULL only
    ({ info with dmaBufIommu := .null, attachIommu := .null },
      (if info.attachIommu ≠ .null then [.release (.attachment info.dmaBufIommu info.attachIommu)] else []) ++
        [.release (.ref info.dmaBufIommu)])

/-- `hgsl_get_sgt_iommu`, once it has a dma-buf -/
def getIommuTable (calls : DmaCalls) (info : NodeIommuInfo) : KPtr × NodeIommuInfo × List DmaEvent :=
  let att := getIommuAttach calls info
  if att.1.attachIommu.isErrOrNull then
    let undo := undoGetIommu att.1
    (.err (-EINVAL), undo.1, att.2 ++ undo.2)
  else
    match calls.map with
    | .error _ =>
      let undo := undoGetIommu att.1
      (.err (-EINVAL), undo.1, att.2 ++ undo.2)
    | .ok sgt =>
      (.ptr sgt, { att.1 with sgtIommuRefcount := 1#32, sgtIommu := .ptr sgt },
        att.2 ++ [.acquire (.mapping att.1.attachIommu (.ptr sgt))])

/-- `hgsl_get_sgt_iommu` -/
def hgslGetSgtIommu (calls : DmaCalls) (n : SgtNode) : SgtGot :=
  let info := n.memNodeIommuInfo
  if info.sgtIommu.isErrOrNull = false then
    { sgt := info.sgtIommu
      node := { n with memNodeIommuInfo := { info with sgtIommuRefcount := info.sgtIommuRefcount + 1#32 } }
      events := [] }
  else
    match getIommuDmaBuf calls n with
    | none => { sgt := .null, node := n, events := [] }
    | some (info, events) =>
      let table := getIommuTable calls info
      { sgt := table.1, node := { n with memNodeIommuInfo := table.2.1 }, events := events ++ table.2.2 }

/-- `hgsl_put_sgt_iommu`, when the last user is gone -/
def lastPutIommu (info : NodeIommuInfo) : NodeIommuInfo × List DmaEvent :=
  let attached := !info.attachIommu.isErrOrNull
  let dmaBuf := !info.dmaBufIommu.isErrOrNull
  ({ info with
      sgtIommu := if attached then .null else info.sgtIommu
      attachIommu := if attached && dmaBuf then .null else info.attachIommu
      dmaBufIommu := if dmaBuf then .null else info.dmaBufIommu },
    (if attached then [.release (.mapping info.attachIommu info.sgtIommu)] else []) ++
      (if attached && dmaBuf then [.release (.attachment info.dmaBufIommu info.attachIommu)] else []) ++
        if dmaBuf then [.release (.ref info.dmaBufIommu)] else [])

/-- `hgsl_put_sgt_iommu` -/
def hgslPutSgtIommu (n : SgtNode) : SgtPut :=
  let info := { n.memNodeIommuInfo with sgtIommuRefcount := n.memNodeIommuInfo.sgtIommuRefcount - 1#32 }
  if n.memNodeIommuInfo.sgtIommu = .null then { node := n, events := [] }
  else if info.sgtIommuRefcount = 0#32 then
    { node := { n with memNodeIommuInfo := (lastPutIommu info).1 }, events := (lastPutIommu info).2 }
  else { node := { n with memNodeIommuInfo := info }, events := [] }

/-! ## What the internal functions can do -/

/-- What a call of `hgsl_get_sgt_internal` comes to. -/
inductive GotInternal (n : SgtNode) : SgtGot → Prop where
  | refused (e : Int) (he : e ≠ 0) : GotInternal n { sgt := .err e, node := n, events := [] }
  | counted (t : Nat) (h : n.sgt = .ptr t) :
      GotInternal n { sgt := .ptr t, node := { n with sgtRefcount := n.sgtRefcount + 1#32 }, events := [] }
  | made (t : Nat) (h : n.sgt.isErrOrNull = true) :
      GotInternal n
        { sgt := .ptr t
          node := { n with sgt := .ptr t, sgtRefcount := 1#32 }
          events := if n.dmaBuf ≠ .null then [.acquire (.ref n.dmaBuf)] else [] }

/-- What a call of `hgsl_put_sgt_internal` comes to. -/
inductive PutInternal (n : SgtNode) : SgtPut → Prop where
  | ignored (h : n.sgtRefcount = 0#32 ∨ n.sgt = .null) : PutInternal n { node := n, events := [] }
  | counted (hsgt : n.sgt ≠ .null) (h : n.sgtRefcount ≠ 0#32) (hlast : n.sgtRefcount ≠ 1#32) :
      PutInternal n { node := { n with sgtRefcount := n.sgtRefcount - 1#32 }, events := [] }
  | freed (hsgt : n.sgt ≠ .null) (h : n.sgtRefcount = 1#32) :
      PutInternal n
        { node := { n with sgtRefcount := 0#32, sgt := .null }
          events := if n.dmaBuf ≠ .null then [.release (.ref n.dmaBuf)] else [] }

theorem hgslGetSgtInternal_spec (calls : TableCalls) (n : SgtNode) : GotInternal n (hgslGetSgtInternal calls n) := by
  unfold hgslGetSgtInternal
  by_cases hpages : n.pages = none ∨ n.pageCount = 0
  · rw [if_pos hpages]
    exact .refused _ (by decide)
  · rw [if_neg hpages]
    cases hsgt : n.sgt.isErrOrNull with
    | false =>
        obtain ⟨t, ht⟩ := KPtr.isErrOrNull_eq_false.1 hsgt
        simpa [ht] using GotInternal.counted t ht
    | true =>
        cases hzalloc : calls.zalloc with
        | none => simpa using GotInternal.refused (-ENOMEM) (by decide)
        | some t =>
            by_cases htable : calls.allocTable = 0
            · simpa [htable] using GotInternal.made t hsgt
            · simpa [htable] using GotInternal.refused calls.allocTable htable

theorem hgslPutSgtInternal_spec (n : SgtNode) : PutInternal n (hgslPutSgtInternal n) := by
  unfold hgslPutSgtInternal
  by_cases hnone : n.sgtRefcount = 0#32 ∨ n.sgt = .null
  · rw [if_pos hnone]
    exact .ignored hnone
  · rw [if_neg hnone]
    obtain ⟨hcount, hsgt⟩ := not_or.1 hnone
    by_cases hlast : n.sgtRefcount = 1#32
    · simpa [hlast] using PutInternal.freed hsgt hlast
    · have hsub : n.sgtRefcount - 1#32 ≠ 0#32 := by
        intro hzero
        apply hlast
        simpa using congrArg (· + 1#32) hzero
      rw [if_neg hsub]
      exact .counted hsgt hcount hlast

end Hgsl
