import Hgsl.Timestamp
import Hgsl.Lib.OrderedSet
import Mathlib.Data.BitVec
import Mathlib.Algebra.BigOperators.Group.List.Basic

set_option autoImplicit false

/-! # The memory nodes of a client

The two trees of a client, its memory total, and `hgsl_cleanup`, which empties the trees when the client
is released. A node is known by its address in the kernel; `memdesc` gives its descriptor. -/

namespace Hgsl

def EEXIST : Int := 17
def EBUSY : Int := 16

def UINT_MAX : Nat := 2 ^ 32 - 1

def GSL_MEMFLAGS_PROTECTED : BitVec 32 := 0x00000008#32

/-- `struct gsl_memdesc_t`, as far as the trees and the accounting look at it -/
structure Memdesc where
  gpuaddr : BitVec 64
  size64 : BitVec 64
  deriving DecidableEq, Repr

/-- The two trees of a client. -/
inductive MemTree where
  | mapped
  | allocated
  deriving DecidableEq, Repr

/-- `struct hgsl_priv`, as far as memory is concerned. The trees are the lists of their nodes in the
    order of their addresses. -/
structure MemPriv where
  memMapped : List Nat := []
  memAllocated : List Nat := []
  totalMemSize : BitVec 64 := 0#64
  deriving DecidableEq, Repr

namespace MemPriv

def tree (p : MemPriv) : MemTree → List Nat
  | .mapped => p.memMapped
  | .allocated => p.memAllocated

def setTree (p : MemPriv) (root : List Nat) : MemTree → MemPriv
  | .mapped => { p with memMapped := root }
  | .allocated => { p with memAllocated := root }

@[simp] theorem tree_setTree (p : MemPriv) (root : List Nat) (t : MemTree) :
    (p.setTree root t).tree t = root := by
  cases t <;> rfl

@[simp] theorem setTree_tree (p : MemPriv) (t : MemTree) : p.setTree (p.tree t) t = p := by
  cases t <;> rfl

theorem tree_setTree_of_ne (p : MemPriv) (root : List Nat) {t t' : MemTree} (h : t' ≠ t) :
    (p.setTree root t).tree t' = p.tree t' := by
  cases t <;> cases t' <;> simp_all [setTree, tree]

@[simp] theorem totalMemSize_setTree (p : MemPriv) (root : List Nat) (t : MemTree) :
    (p.setTree root t).totalMemSize = p.totalMemSize := by
  cases t <;> rfl

end MemPriv

section Nodes

variable (memdesc : Nat → Memdesc)

/-- The trees are ordered by address. -/
def nodeKey (n : Nat) : Nat := (memdesc n).gpuaddr.toNat

/-- `hgsl_mem_rb_empty` -/
def hgslMemRbEmpty (p : MemPriv) : Bool := p.memMapped.isEmpty && p.memAllocated.isEmpty

/-- `hgsl_mem_add_node`: its result and the tree. -/
def hgslMemAddNode (root : List Nat) (n : Nat) : Int × List Nat :=
  match OrderedSet.insert (nodeKey memdesc) root n with
  | none => (-EEXIST, root)
  | some root' => (0, root')

/-- `hgsl_mem_find_node_locked` with `accurate`: the search goes by address, and the node that it ends
    at has to have the size. -/
def hgslMemFindNodeLocked (root : List Nat) (gpuaddr size64 : BitVec 64) : Option Nat :=
  match OrderedSet.find (nodeKey memdesc) root gpuaddr.toNat with
  | none => none
  | some n => if (memdesc n).size64 = size64 then some n else none

/-! ## `hgsl_cleanup` -/

/-- What the calls made inside `hgsl_cleanup` return. -/
structure CleanupCalls where
  channelGet : Int
  notify : Int
  /-- the unmaps, in their order -/
  unmap : Nat → Int

/-- `hgsl_cleanup` between two turns of its loops. -/
structure Cleanup where
  priv : MemPriv
  /-- `hgsl->total_mem_size` -/
  totalMemSize : BitVec 64
  ret : Int
  /-- history: the nodes that are freed -/
  freed : List Nat := []
  deriving DecidableEq, Repr

/-- The loop over one tree: `next` is what is left of it. -/
def cleanTree (unmap : Nat → Int) (t : MemTree) : List Nat → Cleanup → Cleanup
  | [], c => c
  | n :: next, c =>
    cleanTree unmap t next
      -- the result of an unmap is logged, and overwritten by the next one
      { ret := unmap c.freed.length
        priv := { c.priv.setTree next t with
          totalMemSize := c.priv.totalMemSize - (memdesc n).size64 }
        totalMemSize := c.totalMemSize - (memdesc n).size64
        freed := c.freed ++ [n] }

/-- `hgsl_cleanup` -/
def hgslCleanup (calls : CleanupCalls) (priv : MemPriv) (totalMemSize : BitVec 64) : Cleanup :=
  let c : Cleanup := { priv := priv, totalMemSize := totalMemSize, ret := 0 }
  if hgslMemRbEmpty priv then c
  else if calls.channelGet ≠ 0 then { c with ret := calls.channelGet }
  else if calls.notify = -ETIMEDOUT then { c with ret := calls.notify }
  else
    let c := cleanTree memdesc calls.unmap .mapped priv.memMapped { c with ret := calls.notify }
    cleanTree memdesc calls.unmap .allocated c.priv.memAllocated c

/-- The sizes of nodes, added up as the totals are. -/
def sizeSum (ns : List Nat) : BitVec 64 := (ns.map fun n => (memdesc n).size64).sum

end Nodes

/-! ## What the functions can do -/

theorem pos_of_size_ne_zero {size : BitVec 64} (h : size ≠ 0#64) : 0 < size.toNat :=
  Nat.pos_of_ne_zero fun hzero => h (BitVec.eq_of_toNat_eq (by simpa using hzero))

section Lemmas

variable {memdesc : Nat → Memdesc} {root root' : List Nat} {n : Nat}

@[simp] theorem sizeSum_nil : sizeSum memdesc [] = 0#64 := rfl

@[simp] theorem sizeSum_cons (n : Nat) (ns : List Nat) :
    sizeSum memdesc (n :: ns) = (memdesc n).size64 + sizeSum memdesc ns := by
  simp [sizeSum]

@[simp] theorem sizeSum_append (ns ms : List Nat) :
    sizeSum memdesc (ns ++ ms) = sizeSum memdesc ns + sizeSum memdesc ms := by
  simp [sizeSum]

variable (memdesc) in
theorem hgslMemAddNode_cases (root : List Nat) (n : Nat) :
    (hgslMemAddNode memdesc root n = (-EEXIST, root) ∧ ∃ x ∈ root, nodeKey memdesc x = nodeKey memdesc n) ∨
      ∃ root', hgslMemAddNode memdesc root n = (0, root') ∧
        OrderedSet.insert (nodeKey memdesc) root n = some root' := by
  unfold hgslMemAddNode
  cases hinsert : OrderedSet.insert (nodeKey memdesc) root n with
  | none => exact .inl ⟨rfl, OrderedSet.insert_eq_none hinsert⟩
  | some root' => exact .inr ⟨root', rfl, rfl⟩

theorem hgslMemFindNodeLocked_eq_some {gpuaddr size64 : BitVec 64}
    (h : hgslMemFindNodeLocked memdesc root gpuaddr size64 = some n) :
    n ∈ root ∧ memdesc n = ⟨gpuaddr, size64⟩ := by
  unfold hgslMemFindNodeLocked at h
  split at h
  · cases h
  · next m hfind =>
      split at h
      · next hsize =>
          obtain rfl := Option.some.inj h
          obtain ⟨hmem, hkey⟩ := OrderedSet.find_eq_some hfind
          refine ⟨hmem, ?_⟩
          have haddr : (memdesc m).gpuaddr = gpuaddr := BitVec.eq_of_toNat_eq hkey
          rw [← hsize, ← haddr]
      · cases h

variable (memdesc) in
/-- The loop empties its tree, leaves the other one, and subtracts every node once from both totals. -/
theorem cleanTree_eq (unmap : Nat → Int) (t : MemTree) (ns : List Nat) (c : Cleanup) (h : c.priv.tree t = ns) :
    (cleanTree memdesc unmap t ns c).priv = { c.priv.setTree [] t with
        totalMemSize := c.priv.totalMemSize - sizeSum memdesc ns } ∧
      (cleanTree memdesc unmap t ns c).totalMemSize = c.totalMemSize - sizeSum memdesc ns ∧
      (cleanTree memdesc unmap t ns c).freed = c.freed ++ ns ∧
      (cleanTree memdesc unmap t ns c).ret =
        if ns = [] then c.ret else unmap (c.freed.length + ns.length - 1) := by
  induction ns generalizing c with
  | nil =>
      refine ⟨?_, by simp [cleanTree], by simp [cleanTree], by simp [cleanTree]⟩
      simp only [cleanTree, sizeSum_nil, BitVec.sub_zero]
      rw [← h, MemPriv.setTree_tree]
  | cons n next ih =>
      rw [cleanTree]
      obtain ⟨hpriv, htotal, hfreed, hret⟩ := ih
        { ret := unmap c.freed.length
          priv := { c.priv.setTree next t with
            totalMemSize := c.priv.totalMemSize - (memdesc n).size64 }
          totalMemSize := c.totalMemSize - (memdesc n).size64
          freed := c.freed ++ [n] } (by cases t <;> rfl)
      refine ⟨?_, ?_, ?_, ?_⟩
      · rw [hpriv, sizeSum_cons]
        cases t <;> simp [MemPriv.setTree, sub_sub]
      · rw [htotal, sizeSum_cons, sub_sub]
      · simp [hfreed]
      · rw [hret]
        by_cases hnext : next = []
        · simp [hnext]
        · have hpos := List.length_pos_iff.2 hnext
          simp only [hnext, if_false, List.length_append, List.length_cons, List.length_nil, reduceCtorEq]
          congr 1
          omega

/-- The last unmap of a client's nodes. -/
def lastUnmap (calls : CleanupCalls) (p : MemPriv) : Int :=
  calls.unmap (p.memMapped.length + p.memAllocated.length - 1)

variable (memdesc) in
/-- What `hgsl_cleanup` can do with trees that are not empty: an error before the loops leaves
    everything, and the loops empty both trees. -/
theorem hgslCleanup_cases (calls : CleanupCalls) (p : MemPriv) (total : BitVec 64)
    (hne : hgslMemRbEmpty p = false) :
    (calls.channelGet ≠ 0 ∧
        hgslCleanup memdesc calls p total = { priv := p, totalMemSize := total, ret := calls.channelGet }) ∨
      (calls.channelGet = 0 ∧ calls.notify = -ETIMEDOUT ∧
        hgslCleanup memdesc calls p total = { priv := p, totalMemSize := total, ret := -ETIMEDOUT }) ∨
      (calls.channelGet = 0 ∧ calls.notify ≠ -ETIMEDOUT ∧
        hgslCleanup memdesc calls p total =
          { priv := { totalMemSize := p.totalMemSize - sizeSum memdesc (p.memMapped ++ p.memAllocated) }
            totalMemSize := total - sizeSum memdesc (p.memMapped ++ p.memAllocated)
            ret := lastUnmap calls p
            freed := p.memMapped ++ p.memAllocated }) := by
  unfold hgslCleanup
  dsimp only
  rw [if_neg (by simp [hne])]
  split
  · next hget => exact .inl ⟨hget, rfl⟩
  · next hget =>
      have hget := not_not.1 hget
      split
      · next hnotify => exact .inr (.inl ⟨hget, hnotify, by rw [hnotify]⟩)
      · next hnotify =>
          refine .inr (.inr ⟨hget, hnotify, ?_⟩)
          obtain ⟨hpriv, htotal, hfreed, hret⟩ := cleanTree_eq memdesc calls.unmap .mapped p.memMapped
            { priv := p, totalMemSize := total, ret := calls.notify } rfl
          generalize cleanTree memdesc calls.unmap .mapped p.memMapped
            { priv := p, totalMemSize := total, ret := calls.notify } = c at hpriv htotal hfreed hret ⊢
          obtain ⟨hpriv', htotal', hfreed', hret'⟩ := cleanTree_eq memdesc calls.unmap .allocated
            c.priv.memAllocated c rfl
          generalize cleanTree memdesc calls.unmap .allocated c.priv.memAllocated c = d at *
          have hallocated : c.priv.memAllocated = p.memAllocated := by simp [hpriv, MemPriv.setTree]
          rw [hallocated] at hpriv' htotal' hfreed' hret'
          obtain ⟨dpriv, dtotal, dret, dfreed⟩ := d
          simp only [Cleanup.mk.injEq]
          refine ⟨?_, ?_, ?_, ?_⟩
          · simp only at hpriv'
            rw [hpriv', hpriv]
            simp [MemPriv.setTree, sub_sub]
          · simp only at htotal'
            rw [htotal', htotal, sizeSum_append, sub_sub]
          · simp only at hret'
            rw [hret']
            split
            · next hnil =>
                have hmapped : p.memMapped ≠ [] := by
                  intro hmapped
                  simp [hgslMemRbEmpty, hmapped, hnil] at hne
                simp [hret, hmapped, lastUnmap, hnil]
            · simp [lastUnmap, hfreed]
          · simpa [hfreed] using hfreed'

end Lemmas

end Hgsl
