import Hgsl.Memory.Nodes

set_option autoImplicit false

/-! # What a free and an unmap report

`hgsl_ioctl_mem_free` and `hgsl_ioctl_mem_unmap_smmu` take the node out of its tree, unmap it, and put it back
if that fails; user space learns from the result alone what has become of its memory. Here a call has the
trees to itself; `Hgsl.Memory.Machine` has them interleaved with others. -/

namespace Hgsl

/-- What the calls made by the two ioctls return. -/
structure UnmapCalls where
  /-- `is_request_rejected` -/
  rejected : Bool := false
  channelGet : Int := 0
  /-- `get_fv_status` -/
  useFv : Bool := false
  /-- `hgsl_mmu_get_mmutype` is `HGSL_MMU_TYPE_NONE` -/
  mmuNone : Bool := false
  /-- `GSL_MEMFLAGS_PROTECTED` is set in the flags of a node -/
  memProtected : Nat → Bool := fun _ => false
  /-- `hgsl_mmu_unmap` -/
  mmuUnmap : Nat → Int := fun _ => 0
  /-- `hgsl_hyp_mem_unmap_smmu` -/
  hypUnmap : Nat → Int := fun _ => 0

/-- What a call leaves behind. -/
structure UnmapOutcome where
  ret : Int
  priv : MemPriv
  /-- the nodes that it unmapped -/
  unmapped : List Nat := []
  /-- the nodes whose GPU address it gave back -/
  gpuaddrPut : List Nat := []
  /-- the nodes that it freed -/
  freed : List Nat := []
  deriving DecidableEq, Repr

section Calls

variable (memdesc : Nat → Memdesc)

/-- The part that the two share, from the lookup on: `unmap` is the unmap of a node, `putGpuaddr` says whether
    its address is given back, `missing` is the result if there is no such node. -/
def unmapNode (t : MemTree) (unmap : Nat → Int) (putGpuaddr : Nat → Bool) (missing : Int) (m : Memdesc)
    (p : MemPriv) : UnmapOutcome :=
  match hgslMemFindNodeLocked memdesc (p.tree t) m.gpuaddr m.size64 with
  | none => { ret := missing, priv := p }
  | some n =>
    let p' := p.setTree ((p.tree t).erase n) t
    if unmap n = 0 then
      { ret := 0
        priv := { p' with totalMemSize := p'.totalMemSize - (memdesc n).size64 }
        unmapped := [n]
        gpuaddrPut := if putGpuaddr n then [n] else []
        freed := [n] }
    else
      -- the result of the unmap is overwritten here
      let added := hgslMemAddNode memdesc (p'.tree t) n
      { ret := added.1, priv := p'.setTree added.2 t }

/-- The unmap that `hgsl_ioctl_mem_free` calls -/
def memFreeUnmap (calls : UnmapCalls) (n : Nat) : Int :=
  if calls.useFv && !calls.memProtected n && !calls.mmuNone then calls.mmuUnmap n else calls.hypUnmap n

/-- `hgsl_ioctl_mem_free`; `copied` says that the descriptor `m` of the user could be read. -/
def hgslIoctlMemFree (calls : UnmapCalls) (copied : Bool) (m : Memdesc) (p : MemPriv) : UnmapOutcome :=
  if calls.rejected then { ret := -EINVAL, priv := p }
  else if !copied then { ret := -EFAULT, priv := p }
  else if calls.channelGet ≠ 0 then { ret := calls.channelGet, priv := p }
  else unmapNode memdesc .allocated (memFreeUnmap calls) (fun _ => calls.useFv) calls.channelGet m p

/-- The unmap that `hgsl_ioctl_mem_unmap_smmu` calls -/
def memUnmapSmmuUnmap (calls : UnmapCalls) (n : Nat) : Int :=
  if calls.useFv && !calls.memProtected n then calls.mmuUnmap n else calls.hypUnmap n

/-- `hgsl_ioctl_mem_unmap_smmu` -/
def hgslIoctlMemUnmapSmmu (calls : UnmapCalls) (m : Memdesc) (p : MemPriv) : UnmapOutcome :=
  if calls.rejected then { ret := -EINVAL, priv := p }
  else if calls.channelGet ≠ 0 then { ret := calls.channelGet, priv := p }
  else unmapNode memdesc .mapped (memUnmapSmmuUnmap calls)
    (fun n => calls.useFv && !calls.memProtected n) (-EINVAL) m p

/-- A call says what it has done: it returns 0 exactly if a node with this address and size was in the tree
    and is removed, unmapped and freed, and an error only if the tree has the nodes it had. -/
structure ReportsResult (t : MemTree) (m : Memdesc) (p : MemPriv) (o : UnmapOutcome) : Prop where
  success : o.ret = 0 ↔ ∃ n ∈ p.tree t, memdesc n = m ∧ o.priv.tree t = (p.tree t).erase n ∧
    o.unmapped = [n] ∧ o.freed = [n]
  failure : o.ret ≠ 0 → ∀ n, n ∈ o.priv.tree t ↔ n ∈ p.tree t

end Calls

section Lemmas

variable {memdesc : Nat → Memdesc} {t : MemTree} {m : Memdesc} {p : MemPriv}

/-- An address and a size are found exactly if a node has them. -/
theorem hgslMemFindNodeLocked_eq_some_iff {root : List Nat} {n : Nat}
    (hdistinct : OrderedSet.Distinct (nodeKey memdesc) root) :
    hgslMemFindNodeLocked memdesc root m.gpuaddr m.size64 = some n ↔ n ∈ root ∧ memdesc n = m := by
  constructor
  · exact hgslMemFindNodeLocked_eq_some
  · rintro ⟨hmem, rfl⟩
    have hfind : OrderedSet.find (nodeKey memdesc) root (memdesc n).gpuaddr.toNat = some n :=
      hdistinct.find_eq_some_iff.2 ⟨hmem, rfl⟩
    simp [hgslMemFindNodeLocked, hfind]

/-- A node that was taken out can be put back: its address is free. -/
theorem hgslMemAddNode_erase {root : List Nat} {n : Nat} (hdistinct : OrderedSet.Distinct (nodeKey memdesc) root)
    (hmem : n ∈ root) :
    (hgslMemAddNode memdesc (root.erase n) n).1 = 0 ∧
      (hgslMemAddNode memdesc (root.erase n) n).2.Perm root := by
  rcases hgslMemAddNode_cases memdesc (root.erase n) n with ⟨-, x, hx, hkey⟩ | ⟨root', heq, hinsert⟩
  · have hxn : x = n := hdistinct.eq_of_key (List.mem_of_mem_erase hx) hmem hkey
    subst hxn
    exact absurd hx (hdistinct.nodup.not_mem_erase)
  · rw [heq]
    exact ⟨rfl, (OrderedSet.insert_eq_some hinsert).2.trans (List.perm_cons_erase hmem).symm⟩

/-- An error before the lookup is reported as it should be. -/
theorem reportsResult_of_error {ret : Int} (hret : ret ≠ 0) :
    ReportsResult memdesc t m p { ret := ret, priv := p } where
  success := by simp [hret]
  failure := by simp

/-- With the node the outcome is reported exactly if the unmap succeeds; without, if the result says so. -/
theorem reportsResult_unmapNode_iff {unmap : Nat → Int} {putGpuaddr : Nat → Bool} {missing : Int}
    (hdistinct : OrderedSet.Distinct (nodeKey memdesc) (p.tree t)) :
    ReportsResult memdesc t m p (unmapNode memdesc t unmap putGpuaddr missing m p) ↔
      (∃ n ∈ p.tree t, memdesc n = m ∧ unmap n = 0) ∨
        ((∀ n ∈ p.tree t, memdesc n ≠ m) ∧ missing ≠ 0) := by
  unfold unmapNode
  cases hfind : hgslMemFindNodeLocked memdesc (p.tree t) m.gpuaddr m.size64 with
  | none =>
      have hnone : ∀ n ∈ p.tree t, memdesc n ≠ m := by
        intro n hmem hm
        rw [(hgslMemFindNodeLocked_eq_some_iff hdistinct).2 ⟨hmem, hm⟩] at hfind
        cases hfind
      have hex : ¬ ∃ n ∈ p.tree t, memdesc n = m ∧ unmap n = 0 := by
        rintro ⟨n, hmem, hm, -⟩
        exact hnone n hmem hm
      by_cases hmissing : missing = 0
      · simp only [hex, hmissing, false_or, ne_eq, not_true_eq_false, and_false, iff_false]
        intro h
        obtain ⟨n, hmem, hm, -⟩ := h.success.1 rfl
        exact hnone n hmem hm
      · simpa [hex, hmissing, reportsResult_of_error hmissing] using hnone
  | some n =>
      obtain ⟨hmem, hm⟩ := (hgslMemFindNodeLocked_eq_some_iff hdistinct).1 hfind
      have hunique : ∀ n' ∈ p.tree t, memdesc n' = m → n' = n := by
        intro n' hmem' hm'
        exact hdistinct.eq_of_key hmem' hmem (by simp [nodeKey, hm, hm'])
      have hnot : ¬ ((∀ n ∈ p.tree t, memdesc n ≠ m) ∧ missing ≠ 0) := by
        intro h
        exact h.1 n hmem hm
      have hunmap : (∃ n ∈ p.tree t, memdesc n = m ∧ unmap n = 0) ↔ unmap n = 0 := by
        constructor
        · rintro ⟨n', hmem', hm', hzero⟩
          rwa [hunique n' hmem' hm'] at hzero
        · exact fun hzero => ⟨n, hmem, hm, hzero⟩
      rw [hunmap, or_iff_left hnot]
      by_cases hzero : unmap n = 0
      · simp only [hzero, if_true, iff_true]
        refine ⟨⟨?_, fun _ => rfl⟩, by simp⟩
        intro _
        refine ⟨n, hmem, hm, ?_, rfl, rfl⟩
        cases t <;> rfl
      · simp only [hzero, if_false, iff_false]
        -- the node is put back, and this is what the result tells
        intro h
        have hadded := (hgslMemAddNode_erase hdistinct hmem).1
        obtain ⟨n', -, -, -, hunmapped, -⟩ := h.success.1 (by simpa using hadded)
        simp at hunmapped

/-- What the two calls need in order to report what they did. -/
theorem reportsResult_hgslIoctlMemFree_iff {calls : UnmapCalls} {copied : Bool}
    (hdistinct : OrderedSet.Distinct (nodeKey memdesc) p.memAllocated) :
    ReportsResult memdesc .allocated m p (hgslIoctlMemFree memdesc calls copied m p) ↔
      calls.rejected = true ∨ copied = false ∨ calls.channelGet ≠ 0 ∨
        ∃ n ∈ p.memAllocated, memdesc n = m ∧ memFreeUnmap calls n = 0 := by
  unfold hgslIoctlMemFree
  cases hrejected : calls.rejected with
  | true => simp [reportsResult_of_error (show (-EINVAL : Int) ≠ 0 by decide)]
  | false =>
      cases copied with
      | false => simp [reportsResult_of_error (show (-EFAULT : Int) ≠ 0 by decide)]
      | true =>
          by_cases hget : calls.channelGet = 0
          · simp only [hget, Bool.false_eq_true, if_false, Bool.not_true, ne_eq, not_true_eq_false, false_or,
              reduceCtorEq]
            rw [reportsResult_unmapNode_iff hdistinct]
            simp [MemPriv.tree]
          · simp [hget, reportsResult_of_error hget]

theorem reportsResult_hgslIoctlMemUnmapSmmu_iff {calls : UnmapCalls}
    (hdistinct : OrderedSet.Distinct (nodeKey memdesc) p.memMapped) :
    ReportsResult memdesc .mapped m p (hgslIoctlMemUnmapSmmu memdesc calls m p) ↔
      calls.rejected = true ∨ calls.channelGet ≠ 0 ∨
        ∀ n ∈ p.memMapped, memdesc n = m → memUnmapSmmuUnmap calls n = 0 := by
  unfold hgslIoctlMemUnmapSmmu
  cases hrejected : calls.rejected with
  | true => simp [reportsResult_of_error (show (-EINVAL : Int) ≠ 0 by decide)]
  | false =>
      by_cases hget : calls.channelGet = 0
      · simp only [hget, Bool.false_eq_true, if_false, ne_eq, not_true_eq_false, false_or]
        rw [reportsResult_unmapNode_iff hdistinct]
        constructor
        · rintro (⟨n, hmem, hm, hzero⟩ | ⟨hnone, -⟩) n' hmem' hm'
          · have hsame : n' = n := hdistinct.eq_of_key hmem' hmem (by simp [nodeKey, hm, hm'])
            rwa [hsame]
          · exact absurd hm' (hnone n' hmem')
        · intro hall
          by_cases hex : ∃ n ∈ p.memMapped, memdesc n = m
          · obtain ⟨n, hmem, hm⟩ := hex
            exact .inl ⟨n, hmem, hm, hall n hmem hm⟩
          · exact .inr ⟨fun n hmem hm => hex ⟨n, hmem, hm⟩, by decide⟩
      · simp [hget, reportsResult_of_error hget]

end Lemmas

/-- **What user space learns.** A free reports what it did exactly if it ends before the lookup or finds the
    node and unmaps it; an unmap exactly if it ends before the lookup or the node it finds, if any, is
    unmapped. -/
theorem free_unmap_report_iff (memdesc : Nat → Memdesc) (calls : UnmapCalls) (m : Memdesc) (p : MemPriv)
    (hallocated : OrderedSet.Distinct (nodeKey memdesc) p.memAllocated)
    (hmapped : OrderedSet.Distinct (nodeKey memdesc) p.memMapped) :
    (∀ copied, ReportsResult memdesc .allocated m p (hgslIoctlMemFree memdesc calls copied m p) ↔
        calls.rejected = true ∨ copied = false ∨ calls.channelGet ≠ 0 ∨
          ∃ n ∈ p.memAllocated, memdesc n = m ∧ memFreeUnmap calls n = 0) ∧
      (ReportsResult memdesc .mapped m p (hgslIoctlMemUnmapSmmu memdesc calls m p) ↔
        calls.rejected = true ∨ calls.channelGet ≠ 0 ∨
          ∀ n ∈ p.memMapped, memdesc n = m → memUnmapSmmuUnmap calls n = 0) :=
  ⟨fun _ => reportsResult_hgslIoctlMemFree_iff hallocated, reportsResult_hgslIoctlMemUnmapSmmu_iff hmapped⟩

/-- Node 0 has the page at 0x1000. -/
def onePage : Nat → Memdesc := fun n => if n = 0 then ⟨0x1000#64, 4096#64⟩ else ⟨0x9000#64, 4096#64⟩

theorem free_unmap_report_iff_onePage :
    ReportsResult onePage .allocated ⟨0x1000#64, 4096#64⟩ { memAllocated := [0], memMapped := [0, 1] }
      (hgslIoctlMemFree onePage {} true ⟨0x1000#64, 4096#64⟩ { memAllocated := [0], memMapped := [0, 1] }) := by
  have h := free_unmap_report_iff onePage {} ⟨0x1000#64, 4096#64⟩ { memAllocated := [0], memMapped := [0, 1] }
    (by unfold OrderedSet.Distinct; decide) (by unfold OrderedSet.Distinct; decide)
  exact (h.1 true).2 (.inr (.inr (.inr ⟨0, by decide⟩)))

/-- A free of a page that is not there returns 0, and so do a free and an unmap that fail to unmap the page:
    its node is still in the tree. -/
theorem unreported_failures :
    hgslIoctlMemFree onePage {} true ⟨0x1000#64, 4096#64⟩ {} = { ret := 0, priv := {} } ∧
      hgslIoctlMemFree onePage { hypUnmap := fun _ => -EINVAL } true ⟨0x1000#64, 4096#64⟩ { memAllocated := [0] } =
        { ret := 0, priv := { memAllocated := [0] } } ∧
      hgslIoctlMemUnmapSmmu onePage { hypUnmap := fun _ => -EINVAL } ⟨0x1000#64, 4096#64⟩ { memMapped := [0] } =
        { ret := 0, priv := { memMapped := [0] } } := by
  decide

end Hgsl
