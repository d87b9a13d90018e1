import Hgsl.Memory.Lookup
import Hgsl.DrawQueue.UserLists

set_option autoImplicit false

/-! # Ranges that user space names

A cache operation and a profiling object name a range of GPU addresses, which is looked up in the trees of the
client. The ioctl refuses ranges that wrap before it looks them up, the parse of the objects does not. -/

namespace Hgsl

open SearchTree

def GSL_MEMFLAGS_WRITETHROUGH : BitVec 32 := 0x08000000#32
def GSL_MEMFLAGS_WRITEBACK : BitVec 32 := 0x0C000000#32
def GSL_MEMFLAGS_CACHEMODE_MASK : BitVec 32 := 0x0C000000#32

/-- The trees of a client. -/
structure ClientTrees where
  memAllocated : BinaryTree Nat := .nil
  memMapped : BinaryTree Nat := .nil

section Client

variable (memdesc : Nat → Memdesc)

/-- The nodes of a client. -/
def ClientTrees.nodes (p : ClientTrees) : List Nat := inorder p.memAllocated ++ inorder p.memMapped

/-- No range of a client's node wraps. -/
def ClientTrees.NoWrap (p : ClientTrees) : Prop :=
  ∀ n ∈ p.nodes, Hgsl.NoWrap (memdesc n).gpuaddr (memdesc n).size64

/-- The search in both trees, with the tree that the node is in. -/
def ClientTrees.find (p : ClientTrees) (gpuaddr size : BitVec 64) : Option (Nat × MemTree) :=
  match RbRoot.hgslMemFindNodeLocked memdesc p.memAllocated gpuaddr size false with
  | some n => some (n, .allocated)
  | none => (RbRoot.hgslMemFindNodeLocked memdesc p.memMapped gpuaddr size false).map fun n => (n, .mapped)

/-! ## The cache operation -/

/-- What `hgsl_mem_cache_op` finds in a node, besides its descriptor. -/
structure CacheNode where
  flags : BitVec 32
  /-- `sgt_ext` is a table, after `hgsl_get_sgt` -/
  hasTable : Bool

/-- `memdesc.size`, which lies over the lower half of `memdesc.size64` -/
def Memdesc.size (m : Memdesc) : BitVec 32 := m.size64.truncate 32

/-- The checks of `hgsl_mem_cache_op`, which come before the walk over the pages. -/
def hgslMemCacheOp (node : CacheNode) (desc : Memdesc) (offsetbytes sizebytes : BitVec 64) : Int :=
  if node.flags &&& GSL_MEMFLAGS_PROTECTED ≠ 0#32 then -EINVAL
  else if node.flags &&& GSL_MEMFLAGS_CACHEMODE_MASK ≠ GSL_MEMFLAGS_WRITETHROUGH ∧
      node.flags &&& GSL_MEMFLAGS_CACHEMODE_MASK ≠ GSL_MEMFLAGS_WRITEBACK then 0
  else if sizebytes = 0#64 ∨ UINT_MAX < sizebytes.toNat ∨ UINT_MAX < offsetbytes.toNat then -ERANGE
  else if desc.size.setWidth 64 < sizebytes + offsetbytes then -ERANGE
  else if !node.hasTable then -EINVAL
  else 0

/-- `struct hgsl_ioctl_mem_cache_operation_params` -/
structure MemCacheOperationParams where
  gpuaddr : BitVec 64
  offsetbytes : BitVec 64
  sizebytes : BitVec 64
  deriving DecidableEq, Repr

/-- `hgsl_ioctl_mem_cache_operation`: its result, and the node that it hands to `hgsl_mem_cache_op` with the
    offset in it. -/
def hgslIoctlMemCacheOperation (node : Nat → CacheNode) (p : ClientTrees) (params : MemCacheOperationParams) :
    Int × Option (Nat × BitVec 64) :=
  let gpuaddr := params.gpuaddr + params.offsetbytes
  if gpuaddr < params.gpuaddr ∨ gpuaddr + params.sizebytes ≤ gpuaddr then (-EINVAL, none)
  else
    match p.find memdesc gpuaddr params.sizebytes with
    | none => (-EINVAL, none)
    | some (n, _) =>
      (hgslMemCacheOp (node n) (memdesc n) (gpuaddr - (memdesc n).gpuaddr) params.sizebytes,
        some (n, gpuaddr - (memdesc n).gpuaddr))

/-! ## The profiling object -/

/-- The search of `drawobj_add_profiling_buffer`: a node with its address. -/
def ClientTrees.findProfiling (p : ClientTrees) (gpuaddr size : BitVec 64) : Option (Nat × BitVec 64) :=
  (p.find memdesc gpuaddr size).map fun found => (found.1, (memdesc found.1).gpuaddr)

end Client

/-! ## Inside the node -/

section Lemmas

variable {memdesc : Nat → Memdesc} {p : ClientTrees} {gpuaddr size : BitVec 64} {n : Nat}

/-- What the search finds is a node of the client, and the inspection accepts it. -/
theorem find_eq_some {t : MemTree} (h : p.find memdesc gpuaddr size = some (n, t)) :
    n ∈ p.nodes ∧ hgslMemRangeInspect (memdesc n).gpuaddr gpuaddr (memdesc n).size64 size false = true := by
  unfold ClientTrees.find at h
  unfold ClientTrees.nodes
  cases hallocated : RbRoot.hgslMemFindNodeLocked memdesc p.memAllocated gpuaddr size false with
  | some m =>
      rw [hallocated] at h
      obtain ⟨rfl, -⟩ : m = n ∧ MemTree.allocated = t := by simpa using h
      obtain ⟨hmem, haccept⟩ := descend_eq_some hallocated
      exact ⟨List.mem_append_left _ hmem, haccept⟩
  | none =>
      rw [hallocated] at h
      obtain ⟨m, hmapped, hpair⟩ := Option.map_eq_some_iff.1 h
      obtain ⟨rfl, -⟩ : m = n ∧ MemTree.mapped = t := by simpa using hpair
      obtain ⟨hmem, haccept⟩ := descend_eq_some hmapped
      exact ⟨List.mem_append_right _ hmem, haccept⟩

/-- What is accepted lies in the node if it does not wrap. -/
theorem subset_of_inspect (hnode : NoWrap (memdesc n).gpuaddr (memdesc n).size64) (hwrap : NoWrap gpuaddr size)
    (h : hgslMemRangeInspect (memdesc n).gpuaddr gpuaddr (memdesc n).size64 size false = true) :
    addrRange gpuaddr size ⊆ nodeRange memdesc n := by
  by_cases hsize : size = 0#64
  · simp [addrRange, hsize]
  · exact (inspect_iff_subset hnode hwrap hsize).1 h

/-- The check of the ioctl is that neither sum wraps. -/
theorem noWrap_of_check {a b : BitVec 64} (h : ¬ a + b ≤ a) : NoWrap a b := by
  rw [BitVec.le_def, BitVec.toNat_add] at h
  unfold NoWrap
  have ha := a.isLt
  have hb := b.isLt
  omega

theorem cacheOperation_inside {node : Nat → CacheNode} {params : MemCacheOperationParams} {offset : BitVec 64}
    (hnodes : p.NoWrap memdesc)
    (h : (hgslIoctlMemCacheOperation memdesc node p params).2 = some (n, offset)) :
    n ∈ p.nodes ∧
      Set.Ico (params.gpuaddr.toNat + params.offsetbytes.toNat)
        (params.gpuaddr.toNat + params.offsetbytes.toNat + params.sizebytes.toNat) ⊆ nodeRange memdesc n := by
  unfold hgslIoctlMemCacheOperation at h
  dsimp only at h
  split_ifs at h with hcheck
  obtain ⟨hstart, hend⟩ := not_or.1 hcheck
  have hoffset : NoWrap params.gpuaddr params.offsetbytes := by
    rw [BitVec.lt_def, BitVec.toNat_add] at hstart
    unfold NoWrap
    have ha := params.gpuaddr.isLt
    have hb := params.offsetbytes.isLt
    omega
  cases hfind : p.find memdesc (params.gpuaddr + params.offsetbytes) params.sizebytes with
  | none => simp [hfind] at h
  | some found =>
      obtain ⟨m, t⟩ := found
      obtain ⟨rfl, -⟩ : m = n ∧ _ := by simpa [hfind] using h
      obtain ⟨hmem, haccept⟩ := find_eq_some hfind
      refine ⟨hmem, ?_⟩
      have hinside := subset_of_inspect (hnodes m hmem) (noWrap_of_check hend) haccept
      rwa [addrRange, toNat_add_of_noWrap hoffset] at hinside

theorem cacheOperation_eq_zero {node : Nat → CacheNode} {params : MemCacheOperationParams}
    (h : (hgslIoctlMemCacheOperation memdesc node p params).1 = 0) :
    ∃ n offset, (hgslIoctlMemCacheOperation memdesc node p params).2 = some (n, offset) := by
  unfold hgslIoctlMemCacheOperation at h ⊢
  dsimp only at h ⊢
  split_ifs at h ⊢ with hcheck
  · simp [EINVAL] at h
  · cases hfind : p.find memdesc (params.gpuaddr + params.offsetbytes) params.sizebytes with
    | none => simp [hfind, EINVAL] at h
    | some found => simp

/-- A profiling object that is accepted has its range and its address in the node. -/
def ProfilingInside (memdesc : Nat → Memdesc) (p : ClientTrees) (gpuaddr size : BitVec 64) (id : BitVec 32)
    (offset : BitVec 64) : Prop :=
  ∀ (cmdobj : DrawobjCmdLists) (n : Nat) (addr : BitVec 64), cmdobj.profilingMem = none →
    (drawobjAddProfilingBuffer (p.findProfiling memdesc) cmdobj gpuaddr size id offset).profilingMem =
      some (n, addr) →
    addrRange gpuaddr size ⊆ nodeRange memdesc n ∧ addr.toNat ∈ nodeRange memdesc n

/-- What is recorded: the node that is found, and the address in it. -/
theorem profilingMem_eq_some {cmdobj : DrawobjCmdLists} {addr offset : BitVec 64} {id : BitVec 32}
    (hnone : cmdobj.profilingMem = none)
    (h : (drawobjAddProfilingBuffer (p.findProfiling memdesc) cmdobj gpuaddr size id offset).profilingMem =
      some (n, addr)) :
    (∃ t, p.find memdesc gpuaddr size = some (n, t)) ∧
      addr = if id = 0#32 then gpuaddr else (memdesc n).gpuaddr + offset := by
  unfold drawobjAddProfilingBuffer ClientTrees.findProfiling at h
  by_cases hskip : !cmdobj.profiling ∨ cmdobj.profilingMem.isSome
  · rw [if_pos hskip, hnone] at h
    cases h
  · rw [if_neg hskip] at h
    cases hfind : p.find memdesc gpuaddr size with
    | none => simp [hfind, hnone] at h
    | some found =>
        obtain ⟨m, t⟩ := found
        simp only [hfind, Option.map_some, Option.some.injEq, Prod.mk.injEq, ne_eq, ite_not] at h
        obtain ⟨rfl, rfl⟩ := h
        exact ⟨⟨t, rfl⟩, rfl⟩

/-- A request that names a range without a wrap, and an address in it, is served inside the node. -/
theorem profilingInside_of_request {id : BitVec 32} {offset : BitVec 64} (hnodes : p.NoWrap memdesc)
    (hwrap : NoWrap gpuaddr size) (haddr : if id = 0#32 then size ≠ 0#64 else offset < size) :
    ProfilingInside memdesc p gpuaddr size id offset := by
  intro cmdobj n addr hnone h
  obtain ⟨⟨t, hfind⟩, rfl⟩ := profilingMem_eq_some hnone h
  obtain ⟨hmem, haccept⟩ := find_eq_some hfind
  have hnode := hnodes n hmem
  have hinside := subset_of_inspect hnode hwrap haccept
  refine ⟨hinside, ?_⟩
  split_ifs at haddr ⊢ with hid
  · exact hinside ⟨le_rfl, by have := pos_of_size_ne_zero haddr; omega⟩
  · -- the node is no smaller than the range, so the offset lies in it
    rw [BitVec.lt_def] at haddr
    have hbounds : (memdesc n).gpuaddr.toNat ≤ gpuaddr.toNat ∧
        gpuaddr.toNat + size.toNat ≤ (memdesc n).gpuaddr.toNat + (memdesc n).size64.toNat :=
      (Set.Ico_subset_Ico_iff (by omega)).1 hinside
    unfold NoWrap at hnode
    have hsum : NoWrap (memdesc n).gpuaddr offset := by
      unfold NoWrap
      omega
    simp only [nodeRange, addrRange, Set.mem_Ico, toNat_add_of_noWrap hsum]
    omega

end Lemmas

/-! ## Exactly when -/

/-- A client with a single node. -/
def oneNode : ClientTrees := { memAllocated := .node 0 .nil .nil }

theorem oneNode_noWrap {desc : Memdesc} (h : NoWrap desc.gpuaddr desc.size64) :
    oneNode.NoWrap fun _ => desc := fun _ _ => h

/-- What is recorded for a client with a single node that the inspection accepts. -/
theorem oneNode_profilingMem {desc : Memdesc} {gpuaddr size offset : BitVec 64} {id : BitVec 32}
    (h : hgslMemRangeInspect desc.gpuaddr gpuaddr desc.size64 size false = true) :
    (drawobjAddProfilingBuffer (oneNode.findProfiling fun _ => desc) { profiling := true } gpuaddr size id
      offset).profilingMem = some (0, if id = 0#32 then gpuaddr else desc.gpuaddr + offset) := by
  have hfind : oneNode.find (fun _ => desc) gpuaddr size = some (0, .allocated) := by
    simp [ClientTrees.find, oneNode, RbRoot.hgslMemFindNodeLocked, descend, h]
  simp [drawobjAddProfilingBuffer, ClientTrees.findProfiling, hfind]

/-- The accepted request of a client with a single node is not inside it: the range or the address is not. -/
theorem not_profilingInside (desc : Memdesc) {gpuaddr size offset : BitVec 64} {id : BitVec 32}
    (h : hgslMemRangeInspect desc.gpuaddr gpuaddr desc.size64 size false = true)
    (hout : ¬ addrRange gpuaddr size ⊆ addrRange desc.gpuaddr desc.size64 ∨
      (if id = 0#32 then gpuaddr else desc.gpuaddr + offset).toNat ∉ addrRange desc.gpuaddr desc.size64) :
    ¬ ProfilingInside (fun _ => desc) oneNode gpuaddr size id offset := by
  intro hinside
  obtain ⟨hrange, haddr⟩ := hinside { profiling := true } 0 _ rfl (oneNode_profilingMem h)
  rcases hout with hout | hout
  · exact hout hrange
  · exact hout haddr

/-- A request is inside the node with every client exactly if its range does not wrap and the address it asks
    for lies in that range. -/
theorem profilingInside_iff (gpuaddr size offset : BitVec 64) (id : BitVec 32) :
    (∀ memdesc p, ClientTrees.NoWrap memdesc p → ProfilingInside memdesc p gpuaddr size id offset) ↔
      NoWrap gpuaddr size ∧ if id = 0#32 then size ≠ 0#64 else offset < size := by
  constructor
  · intro hall
    have hwrap : NoWrap gpuaddr size := by
      by_contra hwrap
      -- a node that is as large as can be accepts every sum that has wrapped
      refine not_profilingInside ⟨0#64, BitVec.allOnes 64⟩ ?_ (.inl ?_)
        (hall _ oneNode (oneNode_noWrap (by decide)))
      · have hsum := (gpuaddr + size).isLt
        simp only [hgslMemRangeInspect, Bool.false_eq_true, if_false, decide_eq_true_eq, BitVec.le_def]
        exact ⟨by simp, by simp; omega⟩
      · intro hsubset
        have hlast : 2 ^ 64 - 1 ∈ addrRange gpuaddr size := by
          unfold NoWrap at hwrap
          have hlt := gpuaddr.isLt
          simp only [addrRange, Set.mem_Ico]
          omega
        have houtside := hsubset hlast
        simp [addrRange] at houtside
    refine ⟨hwrap, ?_⟩
    by_contra hcond
    refine not_profilingInside ⟨gpuaddr, size⟩ ?_ (.inr ?_)
      (hall _ oneNode (oneNode_noWrap hwrap))
    · simp [hgslMemRangeInspect]
    · split_ifs at hcond ⊢ with hid
      · simp [addrRange, not_not.1 hcond]
      · rw [BitVec.lt_def] at hcond
        simp only [addrRange, Set.mem_Ico, BitVec.toNat_add]
        have hbase := gpuaddr.isLt
        have hoffset := offset.isLt
        omega
  · rintro ⟨hwrap, haddr⟩ memdesc p hnodes
    exact profilingInside_of_request hnodes hwrap haddr

/-- A cache operation is always inside its node, and a profiling object exactly if its range does not wrap and
    the address it asks for lies in it. -/
theorem user_range_inside_iff (gpuaddr size offset : BitVec 64) (id : BitVec 32) :
    ((∀ memdesc p, ClientTrees.NoWrap memdesc p →
        (∀ (node : Nat → CacheNode) (params : MemCacheOperationParams),
          (hgslIoctlMemCacheOperation memdesc node p params).1 = 0 →
          ∃ n ∈ p.nodes, ∃ offset, (hgslIoctlMemCacheOperation memdesc node p params).2 = some (n, offset) ∧
            Set.Ico (params.gpuaddr.toNat + params.offsetbytes.toNat)
              (params.gpuaddr.toNat + params.offsetbytes.toNat + params.sizebytes.toNat) ⊆ nodeRange memdesc n) ∧
        ProfilingInside memdesc p gpuaddr size id offset) ↔
      NoWrap gpuaddr size ∧ if id = 0#32 then size ≠ 0#64 else offset < size) := by
  rw [← profilingInside_iff]
  constructor
  · intro h memdesc p hnodes
    exact (h memdesc p hnodes).2
  · intro h memdesc p hnodes
    refine ⟨?_, h memdesc p hnodes⟩
    intro node params hret
    obtain ⟨n, offset, hcall⟩ := cacheOperation_eq_zero hret
    obtain ⟨hmem, hinside⟩ := cacheOperation_inside hnodes hcall
    exact ⟨n, hmem, offset, hcall, hinside⟩

/-- A node of one page -/
def pageNode : Memdesc := ⟨0x100000000#64, 0x1000#64⟩

/-- A client whose only node is a page accepts a profiling object that begins with it and whose size is the
    largest number. -/
theorem wrapped_range_accepted :
    (oneNode.NoWrap fun _ => pageNode) ∧
      (drawobjAddProfilingBuffer (oneNode.findProfiling fun _ => pageNode) { profiling := true } 0x100000000#64
        (BitVec.allOnes 64) 0#32 0#64).profilingMem = some (0, 0x100000000#64) ∧
      ¬ addrRange 0x100000000#64 (BitVec.allOnes 64) ⊆ nodeRange (fun _ => pageNode) 0 ∧
      ¬ ProfilingInside (fun _ => pageNode) oneNode 0x100000000#64 (BitVec.allOnes 64) 0#32 0#64 := by
  have haccepted : hgslMemRangeInspect pageNode.gpuaddr 0x100000000#64 pageNode.size64 (BitVec.allOnes 64) false =
      true := by
    decide
  have hout : ¬ addrRange 0x100000000#64 (BitVec.allOnes 64) ⊆ addrRange pageNode.gpuaddr pageNode.size64 := by
    intro hsubset
    have hinside : 0x100001000 ∈ addrRange 0x100000000#64 (BitVec.allOnes 64) := by
      simp [addrRange]
    have houtside := hsubset hinside
    simp [addrRange, pageNode] at houtside
  exact ⟨oneNode_noWrap (by decide), oneNode_profilingMem haccepted, hout,
    not_profilingInside pageNode haccepted (.inl hout)⟩

end Hgsl
