import Hgsl.Memory.Nodes
import Hgsl.Lib.SearchTree
import Mathlib.Order.Interval.Set.Disjoint
import Mathlib.Order.CompletePartialOrder
import Mathlib.Logic.Relation

set_option autoImplicit false

/-! # Finding a memory node

`hgsl_mem_add_node` and `hgsl_mem_find_node_locked` on the tree itself. The kernel's `rb_insert_color` and
`rb_erase` are taken as any functions that keep the in-order sequence. -/

namespace Hgsl

open SearchTree

/-- `hgsl_mem_range_inspect` -/
def hgslMemRangeInspect (da1 da2 size1 size2 : BitVec 64) (accurate : Bool) : Bool :=
  if accurate then da1 = da2 ∧ size1 = size2
  else da1 ≤ da2 ∧ da2 + size2 ≤ da1 + size1

/-! ## Ranges -/

/-- The addresses `[gpuaddr, gpuaddr + size)`, without a wrap. -/
def addrRange (gpuaddr size : BitVec 64) : Set Nat := Set.Ico gpuaddr.toNat (gpuaddr.toNat + size.toNat)

/-- The end of a range is still an address. -/
def NoWrap (gpuaddr size : BitVec 64) : Prop := gpuaddr.toNat + size.toNat < 2 ^ 64

instance (gpuaddr size : BitVec 64) : Decidable (NoWrap gpuaddr size) := inferInstanceAs (Decidable (_ < _))

theorem toNat_add_of_noWrap {gpuaddr size : BitVec 64} (h : NoWrap gpuaddr size) :
    (gpuaddr + size).toNat = gpuaddr.toNat + size.toNat := by
  rw [BitVec.toNat_add, Nat.mod_eq_of_lt h]

/-- Without `accurate` the inspection is the inclusion of the ranges. -/
theorem inspect_iff_subset {da1 da2 size1 size2 : BitVec 64} (h1 : NoWrap da1 size1) (h2 : NoWrap da2 size2)
    (hsize : size2 ≠ 0#64) :
    hgslMemRangeInspect da1 da2 size1 size2 false = true ↔ addrRange da2 size2 ⊆ addrRange da1 size1 := by
  have hpos := pos_of_size_ne_zero hsize
  unfold addrRange
  rw [Set.Ico_subset_Ico_iff (by omega)]
  simp [hgslMemRangeInspect, BitVec.le_def, toNat_add_of_noWrap h1, toNat_add_of_noWrap h2]

section Tree

variable (memdesc : Nat → Memdesc)

/-- The addresses of a node. -/
def nodeRange (n : Nat) : Set Nat := addrRange (memdesc n).gpuaddr (memdesc n).size64

/-- The ranges of nodes are disjoint, none is empty and none wraps. -/
structure WellPlaced (ns : List Nat) : Prop where
  nonempty : ∀ n ∈ ns, (memdesc n).size64 ≠ 0#64
  noWrap : ∀ n ∈ ns, NoWrap (memdesc n).gpuaddr (memdesc n).size64
  disjoint : ns.Pairwise fun n m => Disjoint (nodeRange memdesc n) (nodeRange memdesc m)

namespace RbRoot

/-- `hgsl_mem_add_node` on the tree. -/
def hgslMemAddNode (rbInsertColor : BinaryTree Nat → BinaryTree Nat) (root : BinaryTree Nat) (n : Nat) :
    Int × BinaryTree Nat :=
  match link (nodeKey memdesc) n root with
  | none => (-EEXIST, root)
  | some linked => (0, rbInsertColor linked)

/-- `hgsl_mem_find_node_locked` on the tree. -/
def hgslMemFindNodeLocked (root : BinaryTree Nat) (gpuaddr size : BitVec 64) (accurate : Bool) : Option Nat :=
  descend (nodeKey memdesc)
    (fun n => hgslMemRangeInspect (memdesc n).gpuaddr gpuaddr (memdesc n).size64 size accurate)
    gpuaddr.toNat root

/-- What happens to a tree of nodes. -/
inductive Step : BinaryTree Nat → BinaryTree Nat → Prop
  | add {root : BinaryTree Nat} (n : Nat) (rbInsertColor : BinaryTree Nat → BinaryTree Nat)
      (hcolor : ∀ t, inorder (rbInsertColor t) = inorder t) :
      Step root (hgslMemAddNode memdesc rbInsertColor root n).2
  | erase {root : BinaryTree Nat} (n : Nat) (rbErase : BinaryTree Nat → Nat → BinaryTree Nat)
      (herase : ∀ t m, inorder (rbErase t m) = (inorder t).erase m) (hmem : n ∈ inorder root) :
      Step root (rbErase root n)

end RbRoot

end Tree

/-! ## What the functions do -/

section Lemmas

variable {memdesc : Nat → Memdesc} {root : BinaryTree Nat} {n : Nat}
  {rbInsertColor : BinaryTree Nat → BinaryTree Nat}

theorem nodeKey_inj_iff {m : Nat} :
    nodeKey memdesc m = nodeKey memdesc n ↔ (memdesc m).gpuaddr = (memdesc n).gpuaddr := by
  simp [nodeKey, BitVec.toNat_inj]

/-- On the in-order sequence the insertion is the one into a list of nodes. -/
theorem inorder_hgslMemAddNode (hordered : Ordered (nodeKey memdesc) root)
    (hcolor : ∀ t, inorder (rbInsertColor t) = inorder t) :
    (RbRoot.hgslMemAddNode memdesc rbInsertColor root n).map id inorder =
      hgslMemAddNode memdesc (inorder root) n := by
  have hinsert := map_inorder_link (a := n) hordered
  unfold RbRoot.hgslMemAddNode hgslMemAddNode
  rw [← hinsert]
  cases link (nodeKey memdesc) n root <;> simp [hcolor]

theorem find_accurate_iff (hordered : Ordered (nodeKey memdesc) root) {gpuaddr size : BitVec 64} :
    RbRoot.hgslMemFindNodeLocked memdesc root gpuaddr size true = some n ↔
      n ∈ inorder root ∧ memdesc n = ⟨gpuaddr, size⟩ := by
  unfold RbRoot.hgslMemFindNodeLocked
  constructor
  · intro hfind
    obtain ⟨hmem, haccept⟩ := descend_eq_some hfind
    obtain ⟨haddr, hsize⟩ : (memdesc n).gpuaddr = gpuaddr ∧ (memdesc n).size64 = size := by
      simpa [hgslMemRangeInspect] using haccept
    exact ⟨hmem, by rw [← haddr, ← hsize]⟩
  · rintro ⟨hmem, hdesc⟩
    have hkey : nodeKey memdesc n = gpuaddr.toNat := by rw [nodeKey, hdesc]
    refine descend_of_steered hordered hmem (by simp [hgslMemRangeInspect, hdesc]) ?_
    intro x hx hne
    refine ⟨?_, fun hlt => hkey ▸ hlt, fun hlt => hkey ▸ hlt⟩
    have haddr : (memdesc x).gpuaddr ≠ gpuaddr := by
      intro haddr
      exact hne (hordered.distinct.eq_of_key hx hmem (by rw [hkey, nodeKey, haddr]))
    simp [hgslMemRangeInspect, haddr]

/-- With `accurate` the search in the tree is the one in the list of its nodes. -/
theorem find_accurate_eq (hordered : Ordered (nodeKey memdesc) root) (gpuaddr size : BitVec 64) :
    RbRoot.hgslMemFindNodeLocked memdesc root gpuaddr size true =
      hgslMemFindNodeLocked memdesc (inorder root) gpuaddr size := by
  apply Option.ext
  intro n
  rw [find_accurate_iff hordered]
  refine ⟨?_, hgslMemFindNodeLocked_eq_some⟩
  rintro ⟨hmem, hdesc⟩
  have hfind := hordered.distinct.find_eq_some_iff.2 ⟨hmem, rfl⟩
  simp only [nodeKey, hdesc] at hfind
  simp [hgslMemFindNodeLocked, hfind, hdesc]

/-- A node that is not to the left of an address of another one is behind that other one. -/
theorem le_of_disjoint {x m : Nat} (hdisjoint : Disjoint (nodeRange memdesc x) (nodeRange memdesc m))
    (hx : (memdesc x).size64 ≠ 0#64) (hle : nodeKey memdesc m ≤ nodeKey memdesc x) :
    nodeKey memdesc m + (memdesc m).size64.toNat ≤ nodeKey memdesc x := by
  have hpos := pos_of_size_ne_zero hx
  unfold nodeKey at hle ⊢
  by_contra hlt
  have hself : (memdesc x).gpuaddr.toNat ∈ nodeRange memdesc x := ⟨le_rfl, by omega⟩
  have hother : (memdesc x).gpuaddr.toNat ∈ nodeRange memdesc m := ⟨hle, by omega⟩
  exact Set.disjoint_left.1 hdisjoint hself hother

theorem find_contains_iff (hordered : Ordered (nodeKey memdesc) root) (hplaced : WellPlaced memdesc (inorder root))
    {gpuaddr size : BitVec 64} (hsize : size ≠ 0#64) (hwrap : NoWrap gpuaddr size) :
    RbRoot.hgslMemFindNodeLocked memdesc root gpuaddr size false = some n ↔
      n ∈ inorder root ∧ addrRange gpuaddr size ⊆ nodeRange memdesc n := by
  have hinspect : ∀ m ∈ inorder root,
      (hgslMemRangeInspect (memdesc m).gpuaddr gpuaddr (memdesc m).size64 size false = true ↔
        addrRange gpuaddr size ⊆ nodeRange memdesc m) :=
    fun m hm => inspect_iff_subset (hplaced.noWrap m hm) hwrap hsize
  unfold RbRoot.hgslMemFindNodeLocked
  constructor
  · intro hfind
    obtain ⟨hmem, haccept⟩ := descend_eq_some hfind
    exact ⟨hmem, (hinspect n hmem).1 haccept⟩
  · rintro ⟨hmem, hsubset⟩
    have hpos := pos_of_size_ne_zero hsize
    have hstart : gpuaddr.toNat ∈ nodeRange memdesc n := hsubset ⟨le_rfl, by omega⟩
    have hsymm : Std.Symm fun m m' => Disjoint (nodeRange memdesc m) (nodeRange memdesc m') :=
      ⟨fun _ _ h => h.symm⟩
    refine descend_of_steered hordered hmem ((hinspect n hmem).2 hsubset) ?_
    intro x hx hne
    have hdisjoint := hplaced.disjoint.forall hx hmem hne
    simp only [nodeRange, addrRange, Set.mem_Ico] at hstart
    refine ⟨?_, ?_, ?_⟩
    · rw [← Bool.not_eq_true, hinspect x hx]
      intro hsubset'
      exact Set.disjoint_left.1 hdisjoint (hsubset' ⟨le_rfl, by omega⟩) (hsubset ⟨le_rfl, by omega⟩)
    · -- a node to the left of the found one starts below the query
      intro hlt
      exact lt_of_lt_of_le hlt hstart.1
    · -- one to the right starts behind the found one, and so behind the start of the query
      intro hlt
      have hbehind := le_of_disjoint hdisjoint (hplaced.nonempty x hx) hlt.le
      exact lt_of_lt_of_le hstart.2 hbehind

theorem ordered_step {root' : BinaryTree Nat} (hstep : RbRoot.Step memdesc root root')
    (hordered : Ordered (nodeKey memdesc) root) : Ordered (nodeKey memdesc) root' := by
  cases hstep with
  | add n rbInsertColor hcolor =>
      unfold RbRoot.hgslMemAddNode
      cases hlink : link (nodeKey memdesc) n root with
      | none => exact hordered
      | some linked =>
          have hlinked := hordered.link hlink
          unfold Ordered at hlinked ⊢
          rwa [hcolor]
  | erase n rbErase herase hmem =>
      unfold Ordered at hordered ⊢
      rw [herase]
      exact hordered.sublist List.erase_sublist

theorem ordered_of_reachable (hreach : Relation.ReflTransGen (RbRoot.Step memdesc) .nil root) :
    Ordered (nodeKey memdesc) root := by
  induction hreach with
  | refl => exact ordered_nil
  | tail _ hstep ih => exact ordered_step hstep ih

theorem hgslMemAddNode_ne_zero_iff (hordered : Ordered (nodeKey memdesc) root) :
    (RbRoot.hgslMemAddNode memdesc rbInsertColor root n).1 ≠ 0 ↔
      ∃ m ∈ inorder root, (memdesc m).gpuaddr = (memdesc n).gpuaddr := by
  have hnone := link_eq_none_iff (a := n) hordered
  simp only [nodeKey_inj_iff] at hnone
  rw [← hnone]
  unfold RbRoot.hgslMemAddNode
  cases link (nodeKey memdesc) n root <;> simp [EEXIST]

end Lemmas

/-- For every tree that additions and erasures lead to, whose nodes are well placed: an accurate search finds
    exactly the node with that base and size, a search that is not accurate exactly the node that contains the
    query, and an addition fails exactly if the base is taken. -/
theorem lookup_sound_complete (memdesc : Nat → Memdesc) (root : BinaryTree Nat)
    (hreach : Relation.ReflTransGen (RbRoot.Step memdesc) .nil root) (hplaced : WellPlaced memdesc (inorder root)) :
    (∀ gpuaddr size : BitVec 64, size ≠ 0#64 → NoWrap gpuaddr size → ∀ n,
      (RbRoot.hgslMemFindNodeLocked memdesc root gpuaddr size true = some n ↔
        n ∈ inorder root ∧ memdesc n = ⟨gpuaddr, size⟩) ∧
      (RbRoot.hgslMemFindNodeLocked memdesc root gpuaddr size false = some n ↔
        n ∈ inorder root ∧ addrRange gpuaddr size ⊆ nodeRange memdesc n)) ∧
    ∀ (n : Nat) (rbInsertColor : BinaryTree Nat → BinaryTree Nat), (∀ t, inorder (rbInsertColor t) = inorder t) →
      ((RbRoot.hgslMemAddNode memdesc rbInsertColor root n).1 ≠ 0 ↔
        ∃ m ∈ inorder root, (memdesc m).gpuaddr = (memdesc n).gpuaddr) ∧
      ((RbRoot.hgslMemAddNode memdesc rbInsertColor root n).1 ≠ 0 →
        RbRoot.hgslMemAddNode memdesc rbInsertColor root n = (-EEXIST, root)) ∧
      ((RbRoot.hgslMemAddNode memdesc rbInsertColor root n).1 = 0 →
        Ordered (nodeKey memdesc) (RbRoot.hgslMemAddNode memdesc rbInsertColor root n).2 ∧
          (inorder (RbRoot.hgslMemAddNode memdesc rbInsertColor root n).2).Perm (n :: inorder root)) := by
  have hordered := ordered_of_reachable hreach
  constructor
  · intro gpuaddr size hsize hwrap n
    exact ⟨find_accurate_iff hordered, find_contains_iff hordered hplaced hsize hwrap⟩
  · intro n rbInsertColor hcolor
    refine ⟨hgslMemAddNode_ne_zero_iff hordered, ?_, ?_⟩
    · unfold RbRoot.hgslMemAddNode
      cases link (nodeKey memdesc) n root <;> simp
    · intro hret
      refine ⟨ordered_step (.add n rbInsertColor hcolor) hordered, ?_⟩
      have hlist := inorder_hgslMemAddNode (n := n) hordered hcolor
      rcases hgslMemAddNode_cases memdesc (inorder root) n with ⟨hfail, -⟩ | ⟨root', hadd, hinsert⟩
      · rw [hfail] at hlist
        have hzero := congrArg Prod.fst hlist
        simp [hret, EEXIST] at hzero
      · rw [hadd] at hlist
        have htree := congrArg Prod.snd hlist
        rw [Prod.map_snd] at htree
        rw [htree]
        exact (OrderedSet.insert_eq_some hinsert).2

/-- Three nodes, with gaps between them. -/
def threeNodes (n : Nat) : Memdesc :=
  if n = 0 then ⟨0x1000#64, 0x2000#64⟩ else if n = 1 then ⟨0x4000#64, 0x1000#64⟩ else ⟨0x8000#64, 0x4000#64⟩

/-- The tree that they are added to, one after the other. -/
def threeTree : BinaryTree Nat :=
  [1, 0, 2].foldl (fun root n => (RbRoot.hgslMemAddNode threeNodes id root n).2) .nil

theorem lookup_sound_complete_three :
    RbRoot.hgslMemFindNodeLocked threeNodes threeTree 0x9000#64 0x800#64 false = some 2 ∧
      RbRoot.hgslMemFindNodeLocked threeNodes threeTree 0x4000#64 0x1000#64 true = some 1 ∧
      RbRoot.hgslMemAddNode threeNodes id threeTree 1 = (-EEXIST, threeTree) := by
  have hstep (root : BinaryTree Nat) (n : Nat) :
      RbRoot.Step threeNodes root (RbRoot.hgslMemAddNode threeNodes id root n).2 := .add n id fun _ => rfl
  have hreach : Relation.ReflTransGen (RbRoot.Step threeNodes) .nil threeTree :=
    ((Relation.ReflTransGen.single (hstep _ 1)).tail (hstep _ 0)).tail (hstep _ 2)
  have hinorder : inorder threeTree = [0, 1, 2] := by decide
  have hplaced : WellPlaced threeNodes (inorder threeTree) := by
    rw [hinorder]
    exact
      { nonempty := by decide
        noWrap := by decide
        disjoint := by simp [nodeRange, addrRange, threeNodes, Set.Ico_disjoint_Ico] }
  obtain ⟨hfind, hadd⟩ := lookup_sound_complete threeNodes threeTree hreach hplaced
  refine ⟨?_, ?_, ?_⟩
  · refine (hfind 0x9000#64 0x800#64 (by decide) (by decide) 2).2.2 ⟨by simp [hinorder], ?_⟩
    exact Set.Ico_subset_Ico (by decide) (by decide)
  · exact (hfind 0x4000#64 0x1000#64 (by decide) (by decide) 1).1.2 ⟨by simp [hinorder], rfl⟩
  · obtain ⟨hfail, hunchanged, -⟩ := hadd 1 id fun _ => rfl
    exact hunchanged (hfail.2 ⟨1, by simp [hinorder], rfl⟩)

end Hgsl
