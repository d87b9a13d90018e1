import Hgsl.Memory.Steps
import Hgsl.Lib.Ledger

set_option autoImplicit false

/-! # The totals

Each client and the driver keep the sum of the sizes of the nodes that are in a tree, added and subtracted
one by one. A thread that holds a node holds its size as well (`held t counted`), so the totals are the sums
over the nodes that count, after every step (`Accounted`), and between the calls these are the nodes in the
trees. -/

namespace Hgsl

open Finset

namespace MemSystem

/-! ## What counts -/

/-- The size of a node at this stage is on the totals. -/
def counts : NodeStage → Bool
  | .held _ counted => counted
  | .inTree _ | .record _ | .leaked => true
  | .unused | .freed => false

/-- What a node adds to the totals. -/
def weight (d : MemNode) : BitVec 64 := if counts d.stage then d.memdesc.size64 else 0

/-- What the nodes of client `p` add to the totals. -/
def weightOf (s : MemSystem) (p : Nat) : BitVec 64 :=
  ∑ n ∈ range s.nextNode, if (s.node n).priv = p then weight (s.node n) else 0

/-- The mapped node that the thread can still put into a tree. -/
def pending : MemThread → Option Nat
  | .adding _ _ n _ | .unmapping _ _ n | .readding _ _ n => some n
  | _ => none

structure Accounted (s : MemSystem) : Prop where
  priv : ∀ p, (s.priv p).totalMemSize = s.weightOf p
  total : s.totalMemSize = ∑ n ∈ range s.nextNode, weight (s.node n)
  client : ∀ n, n < s.nextNode → (s.node n).priv < s.numPrivs
  inTree : ∀ n tree, (s.node n).stage.isIn tree = true → (s.node n).mapped = true
  pending : ∀ t n, pending (s.thread t) = some n → (s.node n).mapped = true
  distinct : ∀ n m, (s.node n).mapped = true → (s.node m).mapped = true → (s.node n).priv = (s.node m).priv →
    (s.node n).memdesc.gpuaddr = (s.node m).memdesc.gpuaddr → n = m
  kept : ∀ n, (s.node n).stage ≠ .leaked

theorem Accounted.empty : Accounted {} where
  priv p := by simp [weightOf]
  total := by simp
  client := nofun
  inTree n tree h := by cases tree <;> cases h
  pending := nofun
  distinct := nofun
  kept := nofun

/-! ## The frame -/

section Move

variable {s s' : MemSystem} {t n p : Nat} {th : MemThread} {N : MemNode} {δ : BitVec 64}

theorem pending_eq_some {th : MemThread} (h : MemSystem.pending th = some n) : th.node = some n := by
  cases th <;> cases h <;> rfl

/-- A thread moves on with one node, and its client's total changes as the weight of the node does. -/
theorem Accounted.move (h : Accounted s) (hthread : s'.thread = Function.update s.thread t th)
    (hnode : s'.node = Function.update s.node n N) (hnext : s'.nextNode = s.nextNode)
    (hnum : s'.numPrivs = s.numPrivs) (hlt : n < s.nextNode) (hmemdesc : N.memdesc = (s.node n).memdesc)
    (hpriv : N.priv = (s.node n).priv) (hmapped : N.mapped = true → (s.node n).mapped = true)
    (hin : ∀ tree, N.stage.isIn tree = true → N.mapped = true) (hkept : N.stage ≠ .leaked)
    (hfree : ∀ t', t' ≠ t → (s.thread t').node ≠ some n)
    (hth : ∀ m, MemSystem.pending th = some m → m = n ∧ N.mapped = true)
    (hweight : weight N = weight (s.node n) + δ)
    (hprivs : ∀ q, (s'.priv q).totalMemSize = (s.priv q).totalMemSize + if q = (s.node n).priv then δ else 0)
    (htotal : s'.totalMemSize = s.totalMemSize + δ) : Accounted s' := by
  have hself : s'.node n = N := by rw [hnode, Function.update_self]
  have hother : ∀ m, m ≠ n → s'.node m = s.node m := by
    intro m hm
    rw [hnode, Function.update_of_ne hm]
  have hsame : ∀ m, (s'.node m).priv = (s.node m).priv ∧ (s'.node m).memdesc = (s.node m).memdesc ∧
      ((s'.node m).mapped = true → (s.node m).mapped = true) := by
    intro m
    by_cases hm : m = n
    · subst hm
      rw [hself]
      exact ⟨hpriv, hmemdesc, hmapped⟩
    · rw [hother m hm]
      exact ⟨rfl, rfl, id⟩
  refine
    { priv := ?_, total := ?_, client := ?_, inTree := ?_, pending := ?_, distinct := ?_, kept := ?_ }
  · intro q
    rw [hprivs, h.priv, weightOf, weightOf, hnext]
    refine (Ledger.sum_change hlt ?_ ?_).symm
    · intro m hm
      rw [hother m hm]
    · rw [hself, hpriv, hweight]
      by_cases hq : (s.node n).priv = q
      · simp [hq]
      · simp [hq, Ne.symm hq]
  · rw [htotal, h.total, hnext]
    refine (Ledger.sum_change hlt ?_ ?_).symm
    · intro m hm
      rw [hother m hm]
    · rw [hself, hweight]
  · intro m hm
    rw [(hsame m).1, hnum]
    exact h.client m (hnext ▸ hm)
  · intro m tree hm
    by_cases hmn : m = n
    · subst hmn
      rw [hself] at hm ⊢
      exact hin tree hm
    · rw [hother m hmn] at hm ⊢
      exact h.inTree m tree hm
  · intro t' m hm
    rw [hthread] at hm
    by_cases ht : t' = t
    · subst ht
      rw [Function.update_self] at hm
      obtain ⟨rfl, hmap⟩ := hth m hm
      rw [hself]
      exact hmap
    · rw [Function.update_of_ne ht] at hm
      have hmn : m ≠ n := by
        rintro rfl
        exact hfree t' ht (pending_eq_some hm)
      rw [hother m hmn]
      exact h.pending t' m hm
  · intro m m' hm hm' hp haddr
    rw [(hsame m).1, (hsame m').1] at hp
    rw [(hsame m).2.1, (hsame m').2.1] at haddr
    exact h.distinct m m' ((hsame m).2.2 hm) ((hsame m').2.2 hm') hp haddr
  · intro m
    by_cases hmn : m = n
    · subst hmn
      rw [hself]
      exact hkept
    · rw [hother m hmn]
      exact h.kept m

/-- The nodes and the totals stay as they are. -/
theorem Accounted.stay (h : Accounted s) (hthread : s'.thread = Function.update s.thread t th)
    (hnode : s'.node = s.node) (hnext : s'.nextNode = s.nextNode) (hnum : s'.numPrivs = s.numPrivs)
    (hpriv : s'.priv = s.priv) (htotal : s'.totalMemSize = s.totalMemSize)
    (hth : ∀ m, MemSystem.pending th = some m → (s.node m).mapped = true) : Accounted s' where
  priv p := by
    rw [hpriv, h.priv, weightOf, weightOf, hnext, hnode]
  total := by rw [htotal, h.total, hnext, hnode]
  client := by
    rw [hnext, hnode, hnum]
    exact h.client
  inTree := by
    rw [hnode]
    exact h.inTree
  pending := by
    intro t' m hm
    rw [hnode]
    rw [hthread] at hm
    by_cases ht : t' = t
    · subst ht
      rw [Function.update_self] at hm
      exact hth m hm
    · rw [Function.update_of_ne ht] at hm
      exact h.pending t' m hm
  distinct := by
    rw [hnode]
    exact h.distinct
  kept := by
    rw [hnode]
    exact h.kept

theorem Staged.free_of_held {b : Bool} (hs : Staged s) (hn : (s.node n).stage = .held t b) (t' : Nat) (ht : t' ≠ t) :
    (s.thread t').node ≠ some n := by
  intro hnode
  obtain ⟨b', hb', -⟩ := (hs.thread t').held hnode
  rw [hn] at hb'
  exact ht (NodeStage.held.inj hb').1.symm

theorem Staged.free_of_in {tree : MemTree} (hs : Staged s) (hn : (s.node n).stage.isIn tree = true) (t' : Nat) :
    (s.thread t').node ≠ some n := by
  intro hnode
  obtain ⟨b', hb', -⟩ := (hs.thread t').held hnode
  rw [hb'] at hn
  cases hn

end Move

/-! ## The sections -/

section Sections

variable {s : MemSystem} {t p n c devId contextId : Nat} {tree : MemTree} {creation : Option (Nat × Nat)}

@[simp] theorem totalMemSize_setTree (s : MemSystem) (p q : Nat) (tree : MemTree) (root : List Nat) :
    ((s.setTree p tree root).priv q).totalMemSize = (s.priv q).totalMemSize := by
  by_cases hq : q = p
  · subst hq
    simp [setTree]
  · simp [setTree, hq]

theorem totalMemSize_hgslTraceGpuMemTotal (s : MemSystem) (p q : Nat) (δ : BitVec 64) :
    ((s.hgslTraceGpuMemTotal p δ).priv q).totalMemSize =
      (s.priv q).totalMemSize + if q = p then δ else 0 := by
  by_cases hq : q = p
  · subst hq
    simp [hgslTraceGpuMemTotal]
  · simp [hgslTraceGpuMemTotal, hq]

/-- The mapping layer hands out an address that no mapped node of the client has. -/
def handsOutUnmapped (s : MemSystem) (p : Nat) (d : Memdesc) : Bool :=
  (List.range s.nextNode).all fun n =>
    !((s.node n).mapped && (s.node n).priv = p && (s.node n).memdesc.gpuaddr = d.gpuaddr)

theorem Accounted.newNode {s' : MemSystem} {th : MemThread} {d : Memdesc} (h : Accounted s) (hs : Staged s)
    (hp : p < s.numPrivs) (hunmapped : s.handsOutUnmapped p d = true)
    (hthread : s'.thread = Function.update s.thread t th) (hpending : MemSystem.pending th = some s.nextNode)
    (hnode : s'.node = Function.update s.node s.nextNode
      { memdesc := d, priv := p, mapped := true, stage := .held t false })
    (hnext : s'.nextNode = s.nextNode + 1) (hnum : s'.numPrivs = s.numPrivs) (hpriv : s'.priv = s.priv)
    (htotal : s'.totalMemSize = s.totalMemSize) : Accounted s' := by
  have hself : s'.node s.nextNode = { memdesc := d, priv := p, mapped := true, stage := .held t false } := by
    rw [hnode, Function.update_self]
  have hother : ∀ m, m ≠ s.nextNode → s'.node m = s.node m := by
    intro m hm
    rw [hnode, Function.update_of_ne hm]
  have hold : ∀ m ∈ range s.nextNode, s'.node m = s.node m :=
    fun m hm => hother m (Nat.ne_of_lt (mem_range.1 hm))
  have hmapped : ∀ m, m ≠ s.nextNode → (s'.node m).mapped = true →
      m < s.nextNode ∧ ((s.node m).priv = p → (s.node m).memdesc.gpuaddr ≠ d.gpuaddr) := by
    intro m hm hmap
    rw [hother m hm] at hmap
    have hlt : m < s.nextNode := by
      by_contra hle
      rw [hs.freshNode m (Nat.le_of_not_lt hle)] at hmap
      cases hmap
    have hall := List.all_eq_true.1 hunmapped m (List.mem_range.2 hlt)
    refine ⟨hlt, ?_⟩
    simpa [hmap, imp_iff_not_or] using hall
  refine
    { priv := ?_, total := ?_, client := ?_, inTree := ?_, pending := ?_, distinct := ?_, kept := ?_ }
  · intro q
    rw [hpriv, h.priv, weightOf, weightOf, hnext, sum_range_succ, hself]
    have hzero : weight { memdesc := d, priv := p, mapped := true, stage := .held t false } = 0 := rfl
    rw [hzero, ite_self, add_zero]
    exact sum_congr rfl fun m hm => by rw [hold m hm]
  · rw [htotal, h.total, hnext, sum_range_succ, hself]
    have hzero : weight { memdesc := d, priv := p, mapped := true, stage := .held t false } = 0 := rfl
    rw [hzero, add_zero]
    exact sum_congr rfl fun m hm => by rw [hold m hm]
  · intro m hm
    rw [hnum]
    by_cases hmn : m = s.nextNode
    · rw [hmn, hself]
      exact hp
    · rw [hother m hmn]
      exact h.client m (by omega)
  · intro m tree hm
    by_cases hmn : m = s.nextNode
    · rw [hmn, hself]
    · rw [hother m hmn] at hm ⊢
      exact h.inTree m tree hm
  · intro t' m hm
    by_cases hmn : m = s.nextNode
    · rw [hmn, hself]
    · rw [hother m hmn]
      rw [hthread] at hm
      by_cases ht : t' = t
      · rw [ht, Function.update_self, hpending] at hm
        exact absurd (Option.some.inj hm).symm hmn
      · rw [Function.update_of_ne ht] at hm
        exact h.pending t' m hm
  · intro m m' hm hm' hpriv' haddr
    by_cases hmn : m = s.nextNode
    · by_cases hmn' : m' = s.nextNode
      · rw [hmn, hmn']
      · subst hmn
        rw [hself, hother m' hmn'] at hpriv' haddr
        exact absurd haddr.symm ((hmapped m' hmn' hm').2 hpriv'.symm)
    · by_cases hmn' : m' = s.nextNode
      · subst hmn'
        rw [hself, hother m hmn] at hpriv' haddr
        exact absurd haddr ((hmapped m hmn hm).2 hpriv')
      · rw [hother m hmn] at hm hpriv' haddr
        rw [hother m' hmn'] at hm' hpriv' haddr
        exact h.distinct m m' hm hm' hpriv' haddr
  · intro m
    by_cases hmn : m = s.nextNode
    · rw [hmn, hself]
      nofun
    · rw [hother m hmn]
      exact h.kept m

theorem Accounted.addSection (h : Accounted s) (hs : Staged s) (ht : s.thread t = .adding p tree n creation) :
    Accounted (s.addSection t p tree n creation) := by
  have hok := hs.thread t
  rw [ht] at hok
  obtain ⟨hheld, -, -⟩ := hok
  have hmap : (s.node n).mapped = true := h.pending t n (by rw [ht]; rfl)
  have hlt : n < s.nextNode := hs.lt_nextNode (by rw [hheld.1]; nofun)
  have hweight : weight (s.node n) = 0 := by rw [weight, hheld.1]; rfl
  unfold MemSystem.addSection
  dsimp only
  split
  · exact h.stay rfl rfl rfl rfl rfl rfl nofun
  · split
    · refine h.move (t := t) (n := n) (N := { s.node n with stage := .inTree tree }) (δ := (s.memdesc n).size64) rfl
        rfl rfl rfl hlt rfl rfl id (fun _ _ => hmap) nofun (hs.free_of_held hheld.1) nofun ?_ ?_ rfl
      · rw [hweight, zero_add]
        rfl
      · intro q
        rw [hheld.2]
        change (((s.setTree p tree _).hgslTraceGpuMemTotal p _).priv q).totalMemSize = _
        rw [totalMemSize_hgslTraceGpuMemTotal, totalMemSize_setTree]
    · next devId c =>
        refine h.move (t := t) (n := n) (N := { s.node n with stage := .record c, recordOf := some c })
          (δ := (s.memdesc n).size64) rfl rfl rfl rfl hlt rfl rfl id (fun _ _ => hmap) nofun
          (hs.free_of_held hheld.1) nofun ?_ ?_ rfl
        · rw [hweight, zero_add]
          rfl
        · intro q
          rw [hheld.2]
          change (((s.setTree p tree _).hgslTraceGpuMemTotal p _).priv q).totalMemSize = _
          rw [totalMemSize_hgslTraceGpuMemTotal, totalMemSize_setTree]

/-- A thread that holds a node goes on, and the totals stay as they are. -/
theorem Accounted.moveHeld {s' : MemSystem} {th : MemThread} {N : MemNode} {b : Bool} (h : Accounted s) (hs : Staged s)
    (hheld : (s.node n).stage = .held t b) (hthread : s'.thread = Function.update s.thread t th)
    (hnode : s'.node = Function.update s.node n N) (hnext : s'.nextNode = s.nextNode)
    (hnum : s'.numPrivs = s.numPrivs) (hmemdesc : N.memdesc = (s.node n).memdesc)
    (hpriv : N.priv = (s.node n).priv) (hmapped : N.mapped = true → (s.node n).mapped = true)
    (hin : ∀ tree, N.stage.isIn tree = true → N.mapped = true) (hkept : N.stage ≠ .leaked)
    (hth : ∀ m, MemSystem.pending th = some m → m = n ∧ N.mapped = true)
    (hcounts : counts N.stage = b)
    (hprivs : ∀ q, (s'.priv q).totalMemSize = (s.priv q).totalMemSize)
    (htotal : s'.totalMemSize = s.totalMemSize) : Accounted s' := by
  refine h.move (δ := 0) hthread hnode hnext hnum (hs.lt_nextNode (by rw [hheld]; nofun)) hmemdesc hpriv hmapped hin
    hkept (hs.free_of_held hheld) hth ?_ ?_ ?_
  · rw [add_zero, weight, weight, hcounts, hheld, hmemdesc]
    rfl
  · intro q
    rw [hprivs, ite_self, add_zero]
  · rw [htotal, add_zero]

/-- The node finds its place free: the nodes in the tree are mapped, and so is the node itself. -/
theorem Accounted.readdSection (h : Accounted s) (hs : Staged s) (ht : s.thread t = .readding p tree n) :
    Accounted (s.readdSection t p tree n) := by
  have hheld := hs.thread t
  rw [ht] at hheld
  have hmap : (s.node n).mapped = true := h.pending t n (by rw [ht]; rfl)
  unfold MemSystem.readdSection
  obtain ⟨-, x, hx, hkey⟩ | ⟨root, heq, -⟩ := hgslMemAddNode_cases s.memdesc ((s.priv p).tree tree) n
  · obtain ⟨hpriv, hin⟩ := hs.mem_tree.1 hx
    have haddr : (s.memdesc x).gpuaddr = (s.memdesc n).gpuaddr := BitVec.eq_of_toNat_eq hkey
    obtain rfl := h.distinct x n (h.inTree x tree hin) hmap (hpriv.trans hheld.2.symm) haddr
    rw [hheld.1] at hin
    cases hin
  · simp only [heq]
    rw [if_neg (by decide)]
    exact h.moveHeld hs hheld.1 (N := { s.node n with stage := .inTree tree }) rfl rfl rfl rfl rfl rfl id
      (fun _ _ => hmap) nofun nofun rfl (totalMemSize_setTree s p · tree root) rfl

theorem Accounted.unmapNode {ret : Int} (h : Accounted s) (hs : Staged s) (ht : s.thread t = .unmapping p tree n) :
    Accounted ((s.unmapped n ret).setThread t (if ret = 0 then .freeing p n else .readding p tree n)) := by
  have hheld := hs.thread t
  rw [ht] at hheld
  have hmap : (s.node n).mapped = true := h.pending t n (by rw [ht]; rfl)
  refine h.moveHeld hs hheld.1 (N := { s.node n with mapped := (s.node n).mapped && ret ≠ 0 }) rfl rfl rfl rfl rfl rfl
    ?_ ?_ ?_ ?_ ?_ (fun _ => rfl) rfl
  · intro _
    exact hmap
  · intro tree' hin
    change (s.node n).stage.isIn tree' = true at hin
    rw [hheld.1] at hin
    cases hin
  · change (s.node n).stage ≠ .leaked
    rw [hheld.1]
    nofun
  · intro m hm
    split at hm
    · cases hm
    · next hret =>
        cases hm
        exact ⟨rfl, by simp [hmap, hret]⟩
  · change counts (s.node n).stage = true
    rw [hheld.1]
    rfl

/-- A node that is off the totals goes. -/
theorem Accounted.discardNode {ret : Int} {u : NodeUser} (h : Accounted s) (hs : Staged s)
    (ht : s.thread t = .discarding p n creation) :
    Accounted (((s.unmapped n ret).freedNode n u).setThread t (afterDiscard p creation)) := by
  have hok := hs.thread t
  rw [ht] at hok
  refine h.moveHeld hs hok.1.1 (N := { s.node n with
    mapped := (s.node n).mapped && ret ≠ 0, stage := .freed, freedBy := (s.node n).freedBy ++ [u] }) rfl
    ?_ rfl rfl rfl rfl ?_ (by intros; contradiction) (by simp) ?_ rfl (fun _ => rfl) rfl
  · simp [setThread, freedNode, unmapped, setNode]
  · intro hmap
    exact (Bool.and_eq_true_iff.1 hmap).1
  · cases creation <;> (intros; contradiction)

/-- A node that is on the totals goes, with its size. -/
theorem Accounted.freeNode {s' : MemSystem} {N : MemNode} (h : Accounted s) (hs : Staged s)
    (hheld : HeldBy s.node t p n true) (hthread : s'.thread = Function.update s.thread t .idle)
    (hnode : s'.node = Function.update s.node n N) (hnext : s'.nextNode = s.nextNode)
    (hnum : s'.numPrivs = s.numPrivs) (hmemdesc : N.memdesc = (s.node n).memdesc)
    (hpriv : N.priv = (s.node n).priv) (hmapped : N.mapped = true → (s.node n).mapped = true)
    (hstage : N.stage = .freed) (hprivs : s'.priv = (s.hgslTraceGpuMemTotal p (-(s.memdesc n).size64)).priv)
    (htotal : s'.totalMemSize = s.totalMemSize + -(s.memdesc n).size64) : Accounted s' := by
  refine h.move hthread hnode hnext hnum (hs.lt_nextNode (by rw [hheld.1]; nofun)) hmemdesc hpriv hmapped ?_ ?_
    (hs.free_of_held hheld.1) nofun ?_ ?_ htotal
  · rw [hstage]
    nofun
  · rw [hstage]
    nofun
  · have hold : weight (s.node n) = (s.memdesc n).size64 := by rw [weight, hheld.1]; rfl
    have hnew : weight N = 0 := by rw [weight, hstage]; rfl
    rw [hold, hnew, add_neg_cancel]
  · intro q
    rw [hprivs, totalMemSize_hgslTraceGpuMemTotal, hheld.2]

/-- A node moves between a tree and a thread, and the totals stay as they are. -/
theorem Accounted.moveIn {s' : MemSystem} {th : MemThread} {N : MemNode} (h : Accounted s) (hs : Staged s)
    (hin : (s.node n).stage.isIn tree = true) (hthread : s'.thread = Function.update s.thread t th)
    (hnode : s'.node = Function.update s.node n N) (hnext : s'.nextNode = s.nextNode)
    (hnum : s'.numPrivs = s.numPrivs) (hmemdesc : N.memdesc = (s.node n).memdesc)
    (hpriv : N.priv = (s.node n).priv) (hmapped : N.mapped = (s.node n).mapped) (hkept : N.stage ≠ .leaked)
    (hth : ∀ m, MemSystem.pending th = some m → m = n) (hcounts : counts N.stage = true)
    (hprivs : ∀ q, (s'.priv q).totalMemSize = (s.priv q).totalMemSize)
    (htotal : s'.totalMemSize = s.totalMemSize) : Accounted s' := by
  have hmap : N.mapped = true := hmapped.trans (h.inTree n tree hin)
  have hlt : n < s.nextNode := by
    refine hs.lt_nextNode ?_
    intro hunused
    rw [hunused] at hin
    cases hin
  refine h.move (δ := 0) hthread hnode hnext hnum hlt hmemdesc hpriv (fun _ => h.inTree n tree hin)
    (fun _ _ => hmap) hkept (fun t' _ => hs.free_of_in hin t') (fun m hm => ⟨hth m hm, hmap⟩) ?_ ?_ ?_
  · have hold : counts (s.node n).stage = true := by
      cases hstage : (s.node n).stage with
      | inTree _ | record _ => rfl
      | _ =>
          rw [hstage] at hin
          cases hin
    rw [add_zero, weight, weight, hcounts, hold, hmemdesc]
  · intro q
    rw [hprivs, ite_self, add_zero]
  · rw [htotal, add_zero]

theorem Accounted.findSection {d : Memdesc} (h : Accounted s) (hs : Staged s) :
    Accounted (s.findSection t p tree d) := by
  unfold MemSystem.findSection
  split
  · exact h.stay rfl rfl rfl rfl rfl rfl nofun
  · next n hfind =>
      have hin := (hs.mem_tree.1 (hgslMemFindNodeLocked_eq_some hfind).1).2
      refine h.moveIn hs hin (N := { s.node n with
        stage := .held t true, erasedBy := (s.node n).erasedBy ++ [.ioctl] }) rfl rfl rfl rfl rfl rfl rfl nofun ?_ rfl
        (totalMemSize_setTree s p · tree _) rfl
      rintro m ⟨⟩
      rfl

theorem Accounted.afterBackend {record reply : Option Nat} (h : Accounted s) (hs : Staged s)
    (ht : s.thread t = .creating p devId c record) : Accounted (s.afterBackend t p devId c record reply) := by
  have hok := hs.thread t
  rw [ht] at hok
  unfold MemSystem.afterBackend
  split
  · exact h.stay rfl rfl rfl rfl rfl rfl (by intros; contradiction)
  · split
    · exact h.stay rfl rfl rfl rfl rfl rfl (by intros; contradiction)
    · next n =>
        obtain ⟨hstage, hpriv, -⟩ := hok.2 n rfl
        have hin : (s.node n).stage.isIn .allocated = true := by rw [hstage]; rfl
        refine h.move (t := t) (n := n) (N := { s.node n with
          stage := .held t false, erasedBy := (s.node n).erasedBy ++ [.createFailed c] })
          (δ := -(s.memdesc n).size64) rfl rfl rfl rfl (hs.lt_nextNode (by rw [hstage]; simp)) rfl rfl id (by simp)
          (by simp) (fun t' _ => hs.free_of_in hin t') (by intros; contradiction) ?_ ?_ rfl
        · have hold : weight (s.node n) = (s.memdesc n).size64 := by rw [weight, hstage]; rfl
          rw [hold, add_neg_cancel]
          rfl
        · intro q
          change (((s.rbErase p .allocated n t false _).hgslTraceGpuMemTotal p _).priv q).totalMemSize = _
          rw [totalMemSize_hgslTraceGpuMemTotal, hpriv]
          exact congrArg (· + _) (totalMemSize_setTree s p q .allocated _)

/-- The record node of a context that is over stays in the tree. -/
theorem Accounted.abandon (h : Accounted s) (hs : Staged s) (hrecord : (s.node n).stage = .record c)
    (C : MemCtxt) :
    Accounted (((s.setCtxt c C).setThread t .idle).setStage n (.inTree .allocated)) := by
  have hin : (s.node n).stage.isIn .allocated = true := by rw [hrecord]; rfl
  exact h.moveIn hs hin (N := { s.node n with stage := .inTree .allocated }) rfl rfl rfl rfl rfl rfl rfl nofun nofun
    rfl (fun _ => rfl) rfl

theorem Accounted.insertSection (h : Accounted s) (hs : Staged s) (ht : s.thread t = .inserting p devId contextId c) :
    Accounted (s.insertSection t devId contextId c) := by
  have hok := hs.thread t
  rw [ht] at hok
  unfold MemSystem.insertSection
  split
  · exact h.stay rfl rfl rfl rfl rfl rfl nofun
  · split
    · exact h.stay rfl rfl rfl rfl rfl rfl nofun
    · next n hlink => exact h.abandon hs (hs.record c n (by rw [hok.2.2.1]; rfl) hlink).1 _

theorem Accounted.removeSection (h : Accounted s) : Accounted (s.removeSection t p devId contextId) := by
  unfold MemSystem.removeSection
  split
  · exact h.stay rfl rfl rfl rfl rfl rfl nofun
  · split
    · exact h.stay rfl rfl rfl rfl rfl rfl nofun
    · exact h.stay rfl rfl rfl rfl rfl rfl nofun

theorem Accounted.eraseSection (h : Accounted s) (hs : Staged s) (ht : s.thread t = .destroying p c) :
    Accounted (s.eraseSection t p c) := by
  have hok := hs.thread t
  rw [ht] at hok
  unfold MemSystem.eraseSection
  split
  · exact h.stay rfl rfl rfl rfl rfl rfl nofun
  · next n hlink =>
      have hrecord := (hs.record c n (by rw [hok.1]; rfl) hlink).1
      have hin : (s.node n).stage.isIn .allocated = true := by rw [hrecord]; rfl
      exact h.moveIn hs hin (N := { s.node n with
        stage := .held t true, erasedBy := (s.node n).erasedBy ++ [.ctxtDestroy c] }) rfl rfl rfl rfl rfl rfl rfl nofun
        nofun rfl (totalMemSize_setTree s p · .allocated _) rfl

end Sections

/-! ## A client without calls -/

section Idle

variable {s : MemSystem} {p n : Nat}

theorem Staged.nodup_nodes (hs : Staged s) : ((s.priv p).memMapped ++ (s.priv p).memAllocated).Nodup := by
  rw [List.nodup_iff_count_le_one]
  intro n
  have hmapped := hs.tree p .mapped n
  have hallocated := hs.tree p .allocated n
  simp only [MemPriv.tree] at hmapped hallocated
  rw [List.count_append, hmapped, hallocated]
  cases (s.node n).stage with
  | inTree tree => cases tree <;> simp <;> split <;> simp
  | record c => simp; split <;> simp
  | _ => simp [NodeStage.isIn]

/-- Without a call, the nodes of a client that count are those in its trees. -/
theorem Accounted.weight_of_idle (h : Accounted s) (hs : Staged s) (hbusy : s.busy p = false)
    (hp : (s.node n).priv = p) :
    weight (s.node n) =
      if n ∈ (s.priv p).memMapped ++ (s.priv p).memAllocated then (s.memdesc n).size64 else 0 := by
  have hmem := hs.mem_nodes (p := p) (n := n)
  cases hstage : (s.node n).stage with
  | held t b =>
      obtain ⟨-, -, hclient⟩ := (hs.thread t).held (hs.holder n t b hstage)
      rw [hp] at hclient
      rw [hs.busy_of_client hclient] at hbusy
      cases hbusy
  | leaked => exact absurd hstage (h.kept n)
  | inTree tree =>
      rw [if_pos (hmem.2 ⟨hp, tree, by simp [hstage]⟩), weight, hstage]
      rfl
  | record c =>
      rw [if_pos (hmem.2 ⟨hp, .allocated, by simp [hstage]⟩), weight, hstage]
      rfl
  | unused | freed =>
      rw [if_neg, weight, hstage]
      · rfl
      · rw [hmem, hstage]
        rintro ⟨-, tree, hin⟩
        cases hin

theorem Accounted.weightOf_of_idle (h : Accounted s) (hs : Staged s) (hbusy : s.busy p = false) :
    s.weightOf p = sizeSum s.memdesc ((s.priv p).memMapped ++ (s.priv p).memAllocated) := by
  rw [sizeSum, Ledger.sum_list hs.nodup_nodes (fun _ => Iff.rfl) (N := s.nextNode), weightOf]
  · refine sum_congr rfl ?_
    intro n _
    by_cases hp : (s.node n).priv = p
    · rw [if_pos hp, h.weight_of_idle hs hbusy hp]
    · rw [if_neg hp, if_neg]
      rw [hs.mem_nodes]
      exact fun hn => hp hn.1
  · intro n hn
    refine hs.lt_nextNode ?_
    intro hunused
    obtain ⟨-, tree, hin⟩ := hs.mem_nodes.1 hn
    rw [hunused] at hin
    cases hin

theorem emptied_same (s : MemSystem) (p n : Nat) :
    ((s.emptied p).node n).priv = (s.node n).priv ∧ ((s.emptied p).node n).memdesc = (s.node n).memdesc ∧
      ((s.emptied p).node n).mapped = (s.node n).mapped := by
  simp only [MemSystem.emptied]
  split
  · exact ⟨rfl, rfl, rfl⟩
  · exact ⟨rfl, rfl, rfl⟩

theorem Accounted.weight_emptied (h : Accounted s) (hs : Staged s) (hbusy : s.busy p = false) (n : Nat) :
    weight ((s.emptied p).node n) = if (s.node n).priv = p then 0 else weight (s.node n) := by
  simp only [MemSystem.emptied]
  by_cases hn : n ∈ (s.priv p).memMapped ++ (s.priv p).memAllocated
  · rw [if_pos hn, if_pos (hs.mem_nodes.1 hn).1]
    rfl
  · rw [if_neg hn]
    split
    · next hp => rw [h.weight_of_idle hs hbusy hp, if_neg hn]
    · rfl

/-- The loops of `hgsl_cleanup` take what the client has left from both totals. -/
theorem Accounted.emptied (h : Accounted s) (hs : Staged s) (hbusy : s.busy p = false) :
    Accounted (s.emptied p) := by
  have hsum := h.weightOf_of_idle hs hbusy
  have hstage : ∀ n, ((s.emptied p).node n).stage = .freed ∨ ((s.emptied p).node n).stage = (s.node n).stage := by
    intro n
    simp only [MemSystem.emptied]
    split
    · exact .inl rfl
    · exact .inr rfl
  refine
    { priv := ?_, total := ?_, client := ?_, inTree := ?_, pending := ?_, distinct := ?_, kept := ?_ }
  · intro q
    have hweight : ∀ n ∈ range s.nextNode, (if ((s.emptied p).node n).priv = q then
        weight ((s.emptied p).node n) else 0) =
          if q = p then 0 else if (s.node n).priv = q then weight (s.node n) else 0 := by
      intro n _
      rw [(emptied_same s p n).1, h.weight_emptied hs hbusy]
      by_cases hq : (s.node n).priv = q
      · subst hq
        simp
      · simp [hq]
    change _ = ∑ n ∈ range s.nextNode, _
    rw [sum_congr rfl hweight]
    by_cases hq : q = p
    · subst hq
      simp [MemSystem.emptied, h.priv, hsum]
    · simp only [if_neg hq]
      change _ = s.weightOf q
      rw [← h.priv]
      simp [MemSystem.emptied, hq]
  · change s.totalMemSize - sizeSum s.memdesc _ = ∑ n ∈ range s.nextNode, _
    rw [← hsum, h.total, weightOf, sub_eq_iff_eq_add, ← sum_add_distrib]
    refine sum_congr rfl ?_
    intro n _
    rw [h.weight_emptied hs hbusy]
    split
    · rw [zero_add]
    · rw [add_zero]
  · intro n hn
    rw [(emptied_same s p n).1]
    exact h.client n hn
  · intro n tree hin
    rw [(emptied_same s p n).2.2]
    obtain hfreed | heq := hstage n
    · rw [hfreed] at hin
      cases hin
    · rw [heq] at hin
      exact h.inTree n tree hin
  · intro t n ht
    rw [(emptied_same s p n).2.2]
    exact h.pending t n ht
  · intro n m hn hm hp haddr
    rw [(emptied_same s p n).2.2] at hn
    rw [(emptied_same s p m).2.2] at hm
    rw [(emptied_same s p n).1, (emptied_same s p m).1] at hp
    rw [(emptied_same s p n).2.1, (emptied_same s p m).2.1] at haddr
    exact h.distinct n m hn hm hp haddr
  · intro n
    obtain hfreed | heq := hstage n
    · rw [hfreed]
      simp
    · rw [heq]
      exact h.kept n

end Idle

/-! ## Every step -/

/-- No user names a record node, and the mapping layer hands out no address that is still mapped. -/
def keepsTotals (s : MemSystem) (a : MemAct) : Prop :=
  s.sparesRecords a = true ∧
    (match a with
    | .mapNode _ p _ d => s.handsOutUnmapped p d
    | .createCtxt _ p _ (some d) => s.handsOutUnmapped p d
    | _ => true) = true

instance (s : MemSystem) (a : MemAct) : Decidable (keepsTotals s a) := inferInstanceAs (Decidable (_ ∧ _))

theorem Accounted.step {s s' : MemSystem} {a : MemAct} (h : Accounted s) (hs : Staged s) (hok : keepsTotals s a)
    (hstep : s.step a = some s') : Accounted s' := by
  cases step_cases hstep with
  | openClient => exact { h with client := fun n hn => Nat.lt_succ_of_lt (h.client n hn) }
  | mapNode ht hp => exact h.newNode hs hp hok.2 rfl rfl rfl rfl rfl rfl rfl
  | @failNode t _ _ _ _ ht => exact h.stay rfl rfl rfl rfl rfl rfl nofun
  | addNode ht => exact h.addSection hs ht
  | discardNode ht => exact h.discardNode hs ht
  | findNode ht hp => exact h.findSection hs
  | unmapNode ht => exact h.unmapNode hs ht
  | readdNode ht => exact h.readdSection hs ht
  | @freeNode t p n ht =>
      have hheld := hs.thread t
      rw [ht] at hheld
      exact h.freeNode hs hheld (N := { s.node n with stage := .freed, freedBy := (s.node n).freedBy ++ [.ioctl] }) rfl
        rfl rfl rfl rfl rfl id rfl rfl rfl
  | newCtxt ht hp hd => exact h.stay rfl rfl rfl rfl rfl rfl nofun
  | newRecord ht hp hd => exact h.newNode hs hp hok.2 rfl rfl rfl rfl rfl rfl rfl
  | backend ht => exact h.afterBackend hs ht
  | legacyOk ht hi => exact h.stay rfl rfl rfl rfl rfl rfl nofun
  | legacyFailed ht => exact h.stay rfl rfl rfl rfl rfl rfl nofun
  | insertCtxt ht => exact h.insertSection hs ht
  | destroyCtxt ht hp => exact h.removeSection
  | eraseRecord ht => exact h.eraseSection hs ht
  | @freeRecord t p n c ret ht =>
      have hok := hs.thread t
      rw [ht] at hok
      refine h.freeNode hs hok.1 (N := { s.node n with
        mapped := (s.node n).mapped && ret ≠ 0, stage := .freed
        freedBy := (s.node n).freedBy ++ [.ctxtDestroy c] }) rfl ?_ rfl rfl rfl rfl ?_ rfl rfl rfl
      · simp [setThread, setCtxt, freedNode, unmapped, setNode, hgslTraceGpuMemTotal]
      · intro hmap
        exact (Bool.and_eq_true_iff.1 hmap).1
  | abandonNone ht hlink => exact h.stay rfl rfl rfl rfl rfl rfl nofun
  | @abandonRecord t p c n ht hlink =>
      have hok := hs.thread t
      rw [ht] at hok
      exact h.abandon hs (hs.record c n (by rw [hok.1]; rfl) hlink).1 _
  | release => exact { h with }
  | @cleanup p calls hbusy hctxts =>
      obtain heq | heq := s.cleanupSection_cases p calls
      · rw [heq]
        exact h
      · rw [heq]
        exact h.emptied hs hbusy

/-! ## The totals of a run -/

/-- **Totals.** In a run where no user names a record node and the mapping layer hands out no address twice,
    the total of a client without calls is what is in its trees, and the driver's total, without any call, is
    what is in all trees. -/
theorem totals_are_in_trees (as : List MemAct) (s : MemSystem)
    (h : Trace.exec (Trace.guarded keepsTotals step) {} as = some s) :
    (∀ p, s.busy p = false →
        (s.priv p).totalMemSize = sizeSum s.memdesc ((s.priv p).memAllocated ++ (s.priv p).memMapped)) ∧
      ((∀ p, s.busy p = false) → s.totalMemSize = ∑ p ∈ range s.numPrivs, (s.priv p).totalMemSize) := by
  have hinv : Staged s ∧ Accounted s := by
    refine Trace.exec_invariant (P := fun s => Staged s ∧ Accounted s) ?_ ⟨.empty, .empty⟩ h
    rintro s a s' ⟨hs, ha⟩ hstep
    obtain ⟨hok, hstep⟩ := Trace.guarded_eq_some.1 hstep
    exact ⟨hs.step hok.1 hstep, ha.step hs hok hstep⟩
  obtain ⟨hs, ha⟩ := hinv
  refine ⟨?_, ?_⟩
  · intro p hbusy
    rw [ha.priv, ha.weightOf_of_idle hs hbusy, sizeSum_append, sizeSum_append, add_comm]
  · intro _
    rw [ha.total, ← Ledger.sum_owners ha.client]
    exact sum_congr rfl fun p _ => (ha.priv p).symm

/-- Between the creation of a context and its end. -/
theorem totals_are_in_trees_created :
    ∃ s, Trace.exec (Trace.guarded keepsTotals step) {} (.openClient :: createRun 4096#64) = some s ∧
      s.totalMemSize = 4096#64 ∧
      s.busy 0 = false ∧
        (s.priv 0).totalMemSize = sizeSum s.memdesc ((s.priv 0).memAllocated ++ (s.priv 0).memMapped) := by
  have heval : (Trace.exec (Trace.guarded keepsTotals step) {} (.openClient :: createRun 4096#64)).map
      (fun s => (s.totalMemSize, s.busy 0)) = some (4096#64, false) := by
    decide +kernel
  obtain ⟨s, hs, heq⟩ := Option.map_eq_some_iff.1 heval
  obtain ⟨htotal, hbusy⟩ := Prod.mk.inj heq
  exact ⟨s, hs, htotal, hbusy, (totals_are_in_trees _ s hs).1 0 hbusy⟩

/-- The user frees the record node, and the end of the context subtracts its size again. -/
theorem total_subtracted_twice :
    ∃ s, Trace.exec step {} (.openClient :: createRun 4096#64 ++ stealRun ++ destroyRun) = some s ∧
      s.busy 0 = false ∧ (s.priv 0).memAllocated = [] ∧ (s.priv 0).memMapped = [] ∧
      (s.priv 0).totalMemSize = -4096#64 ∧ s.totalMemSize = -4096#64 := by
  have heval : (Trace.exec step {} (.openClient :: createRun 4096#64 ++ stealRun ++ destroyRun)).map
      (fun s => (s.busy 0, (s.priv 0).memAllocated, (s.priv 0).memMapped, (s.priv 0).totalMemSize, s.totalMemSize)) =
      some (false, [], [], -4096#64, -4096#64) := by
    decide +kernel
  obtain ⟨s, hs, heq⟩ := Option.map_eq_some_iff.1 heval
  simp only [Prod.mk.injEq] at heq
  exact ⟨s, hs, heq⟩

end MemSystem

end Hgsl
