import Hgsl.Memory.Nodes
import Hgsl.Lib.FirstFit

set_option autoImplicit false

/-! # The GPU address space of a page table

`hgsl_iommu_get_gpuaddr` and `hgsl_iommu_put_gpuaddr`: a hint behind the last address that was given out, and a
first-fit search where the hint is of no use. The tree of a page table is the list of its entries in the order
of their addresses; `SearchTree.map_inorder_link` and `SearchTree.descend_key` have the tree itself.

Left out: `CONFIG_PER_PROCESS_PT`. -/

namespace Hgsl

def PAGE_SIZE : BitVec 64 := 0x1000#64
def SZ_64 : BitVec 64 := 0x40#64
def SZ_64K : BitVec 64 := 0x10000#64
def SZ_1M : BitVec 64 := 0x100000#64
def SZ_2M : BitVec 64 := 0x200000#64

def HGSL_MEMALIGN_MASK : BitVec 32 := 0x00FF0000#32
def HGSL_MEMALIGN_SHIFT : Nat := 16

/-- `ALIGN` -/
def alignTo (x a : BitVec 64) : BitVec 64 := (x + (a - 1#64)) &&& ~~~(a - 1#64)

/-- An error as an address -/
def errValue (e : Int) : BitVec 64 := BitVec.ofInt 64 e

/-- `IS_ERR_VALUE` -/
def isErrValue (x : BitVec 64) : Bool := errValue (-4095) ≤ x

/-- `struct hgsl_iommu_addr_entry` -/
structure AddrEntry where
  base : BitVec 64
  size : BitVec 64
  deriving DecidableEq, Repr

namespace AddrEntry

/-- The tree is ordered by address. -/
def key (e : AddrEntry) : Nat := e.base.toNat

/-- The first address behind an entry, without a wrap. -/
def stop (e : AddrEntry) : Nat := e.base.toNat + e.size.toNat

theorem toNat_base (e : AddrEntry) : e.base.toNat = e.key := rfl

/-- The addresses of an entry. -/
def range (e : AddrEntry) : Set Nat := Set.Ico e.key e.stop

end AddrEntry

/-- `struct hgsl_pagetable` -/
structure Pagetable where
  rbtree : List AddrEntry := []
  vaStart : BitVec 64
  vaEnd : BitVec 64
  vaHint : BitVec 64
  deriving DecidableEq, Repr

/-- `_get_unmapped_area_hint` -/
def getUnmappedAreaHint (pagetable : Pagetable) (top size align : BitVec 64) : BitVec 64 × Pagetable :=
  if pagetable.vaHint = 0#64 ∨ top >>> 32 = 0#64 then (errValue (-EINVAL), pagetable)
  else
    let hint := alignTo pagetable.vaHint align
    if top < hint + size then (errValue (-ENOMEM), pagetable)
    else (hint, { pagetable with vaHint := hint + size })

/-- The end of the search: the range fits behind all entries, or nowhere. -/
def searchEnd (top size start : BitVec 64) : BitVec 64 :=
  if start + size ≤ top then start else errValue (-ENOMEM)

/-- The loop of `_get_unmapped_area` -/
def searchEntries (bottom top size align : BitVec 64) : List AddrEntry → BitVec 64 → BitVec 64
  | [], start => searchEnd top size start
  | entry :: next, start =>
    if entry.base < bottom then
      searchEntries bottom top size align next
        (if bottom < entry.base + entry.size then alignTo (entry.base + entry.size) align else start)
    else if top ≤ entry.base then searchEnd top size start
    else if start < entry.base ∧ size ≤ entry.base - start then start
    else if top ≤ entry.base + entry.size then errValue (-ENOMEM)
    else searchEntries bottom top size align next (alignTo (entry.base + entry.size) align)

/-- `_get_unmapped_area` -/
def getUnmappedArea (pagetable : Pagetable) (bottom top size align : BitVec 64) : BitVec 64 × Pagetable :=
  let hint := getUnmappedAreaHint pagetable top size align
  if !isErrValue hint.1 then hint
  else
    (searchEntries (alignTo bottom align) top size align hint.2.rbtree (alignTo bottom align), hint.2)

/-- `_insert_gpuaddr`; `alloc` says whether there is memory for an entry. -/
def insertGpuaddr (pagetable : Pagetable) (gpuaddr size : BitVec 64) (alloc : Bool) : Int × Pagetable :=
  if !alloc then (-ENOMEM, pagetable)
  else
    match OrderedSet.insert AddrEntry.key pagetable.rbtree ⟨gpuaddr, size⟩ with
    | none => (-EEXIST, pagetable)
    | some rbtree => (0, { pagetable with rbtree := rbtree })

/-- `struct hgsl_mem_node`, as far as its address is concerned -/
structure VaNode where
  flags : BitVec 32
  /-- `memdesc.size` -/
  size : BitVec 32
  /-- `HGSL_MEMNODE_GUARD_PAGE` is set in `mem_node_iommu_info.priv` -/
  guardPage : Bool
  /-- `memdesc.gpuaddr` -/
  gpuaddr : BitVec 64
  /-- `mem_node_iommu_info.pagetable` is set -/
  hasPagetable : Bool
  deriving DecidableEq, Repr

/-- The result of a call, and what it has made of the page table and of the node. -/
structure GpuaddrResult where
  ret : Int
  pagetable : Pagetable
  memNode : VaNode
  deriving DecidableEq, Repr

/-- `get_gpuaddr` -/
def getGpuaddr (pagetable : Pagetable) (memNode : VaNode) (start top size align : BitVec 64) (alloc : Bool) :
    GpuaddrResult :=
  let area := getUnmappedArea pagetable start top size align
  if area.1 = errValue (-ENOMEM) then ⟨-ENOMEM, area.2, memNode⟩
  else
    let inserted := insertGpuaddr area.2 area.1 size alloc
    ⟨inserted.1, inserted.2,
      if inserted.1 = 0 then { memNode with gpuaddr := area.1, hasPagetable := true } else memNode⟩

/-- `hgsl_memnode_footprint` -/
def hgslMemnodeFootprint (memNode : VaNode) : BitVec 64 :=
  if !memNode.guardPage then memNode.size.setWidth 64
  else alignTo (memNode.size.setWidth 64 + PAGE_SIZE) PAGE_SIZE

/-- `hgsl_memnode_get_align` -/
def hgslMemnodeGetAlign (flags : BitVec 32) : BitVec 32 := (flags &&& HGSL_MEMALIGN_MASK) >>> HGSL_MEMALIGN_SHIFT

/-- `hgsl_memnode_set_align` -/
def hgslMemnodeSetAlign (flags align : BitVec 32) : BitVec 32 :=
  let align := if 32#32 < align then 32#32 else align
  (flags &&& ~~~HGSL_MEMALIGN_MASK) ||| ((align <<< HGSL_MEMALIGN_SHIFT) &&& HGSL_MEMALIGN_MASK)

/-- `ilog2` of a power of two -/
def ilog2 (x : BitVec 64) : BitVec 32 := BitVec.ofNat 32 x.toNat.log2

/-- The flags of a node once its size class is put into them. -/
def sizeClassFlags (size : BitVec 64) (flags : BitVec 32) : BitVec 32 :=
  if SZ_2M ≤ size then hgslMemnodeSetAlign flags (ilog2 SZ_2M)
  else if SZ_1M ≤ size then hgslMemnodeSetAlign flags (ilog2 SZ_1M)
  else if SZ_64K ≤ size then hgslMemnodeSetAlign flags (ilog2 SZ_64)
  else flags

/-- `1 << exponent` at the width of an `int`. A shift by its width or more is undefined: `undef` is what comes
    of it. -/
def intShift (undef exponent : BitVec 32) : BitVec 32 := if exponent < 32#32 then 1#32 <<< exponent else undef

/-- The alignment of a request, from the flags of its node. -/
def requestAlign (undef flags : BitVec 32) : BitVec 64 :=
  let align := (intShift undef (hgslMemnodeGetAlign flags)).signExtend 64
  if PAGE_SIZE ≤ align then align else PAGE_SIZE

/-- What a call of `hgsl_iommu_get_gpuaddr` meets: the undefined shift, and whether there is memory for an entry
    in the first try and in the second one. -/
structure GetCalls where
  undef : BitVec 32
  alloc : Bool
  allocRetry : Bool
  deriving DecidableEq, Repr

/-- `hgsl_iommu_get_gpuaddr` -/
def hgslIommuGetGpuaddr (calls : GetCalls) (pagetable : Pagetable) (memNode : VaNode) : GpuaddrResult :=
  if memNode.flags &&& GSL_MEMFLAGS_PROTECTED ≠ 0#32 then ⟨-EINVAL, pagetable, memNode⟩
  else
    let size := hgslMemnodeFootprint memNode
    if size = 0#64 ∨ UINT_MAX < size.toNat then ⟨-EINVAL, pagetable, memNode⟩
    else
      let memNode := { memNode with flags := sizeClassFlags size memNode.flags }
      let align := requestAlign calls.undef memNode.flags
      let first := getGpuaddr pagetable memNode pagetable.vaStart pagetable.vaEnd size align calls.alloc
      if first.ret = -ENOMEM then
        getGpuaddr first.pagetable first.memNode pagetable.vaStart pagetable.vaEnd size align calls.allocRetry
      else first

/-- The hint behind the entry before the one that goes. -/
def hintBehind (vaStart : BitVec 64) : Option AddrEntry → BitVec 64
  | none => vaStart
  | some prev => if prev.base + prev.size < vaStart then vaStart else prev.base + prev.size

/-- The hint once an entry is gone; the entry before it is what `rb_prev` returns. -/
def hintWithout (pagetable : Pagetable) (entry : AddrEntry) : BitVec 64 :=
  if pagetable.vaHint = entry.base + entry.size then
    hintBehind pagetable.vaStart (pagetable.rbtree.takeWhile (· ≠ entry)).getLast?
  else pagetable.vaHint

/-- `_remove_gpuaddr` -/
def removeGpuaddr (pagetable : Pagetable) (gpuaddr : BitVec 64) : Int × Pagetable :=
  match OrderedSet.find AddrEntry.key pagetable.rbtree gpuaddr.toNat with
  | none => (-ENOMEM, pagetable)
  | some entry =>
    (0, { pagetable with
      vaHint := hintWithout pagetable entry
      rbtree := pagetable.rbtree.erase entry })

/-- `hgsl_iommu_put_gpuaddr` -/
def hgslIommuPutGpuaddr (pagetable : Pagetable) (memNode : VaNode) : Pagetable :=
  if !memNode.hasPagetable then pagetable else (removeGpuaddr pagetable memNode.gpuaddr).2

end Hgsl
