import Hgsl.Memory.Ownership

set_option autoImplicit false

/-! # The steps keep the owners

One lemma for each section, and `Staged.step` for them all. The only step that can do harm is the section
that takes a node out for the user, if it finds a record node. -/

namespace Hgsl

namespace MemSystem

section Trees

variable {s : MemSystem} {p q n m t : Nat} {tree tree' : MemTree} {root : List Nat}

theorem tree_setTree (s : MemSystem) (p q : Nat) (tree tree' : MemTree) (root : List Nat) :
    ((s.setTree p tree root).priv q).tree tree' =
      if q = p ∧ tree' = tree then root else (s.priv q).tree tree' := by
  by_cases hq : q = p
  · subst hq
    by_cases htree : tree' = tree
    · subst htree
      simp [setTree]
    · simp [setTree, htree, MemPriv.tree_setTree_of_ne]
  · simp [setTree, hq]

@[simp] theorem tree_hgslTraceGpuMemTotal (s : MemSystem) (p q : Nat) (delta : BitVec 64) (tree : MemTree) :
    ((s.hgslTraceGpuMemTotal p delta).priv q).tree tree = (s.priv q).tree tree := by
  by_cases hq : q = p
  · subst hq
    cases tree <;> simp [hgslTraceGpuMemTotal, MemPriv.tree]
  · simp [hgslTraceGpuMemTotal, hq]

/-- An insertion adds one node to one tree. -/
theorem count_insert (hinsert : OrderedSet.insert (nodeKey s.memdesc) ((s.priv p).tree tree) n = some root)
    (q : Nat) (tree' : MemTree) (m : Nat) :
    (((s.setTree p tree root).priv q).tree tree').count m =
      ((s.priv q).tree tree').count m + if q = p ∧ tree' = tree ∧ m = n then 1 else 0 := by
  rw [tree_setTree]
  split
  · next heq =>
      obtain ⟨rfl, rfl⟩ := heq
      rw [(OrderedSet.insert_eq_some hinsert).2.count_eq, List.count_cons]
      simp [eq_comm (a := n)]
  · next hne =>
      have hne' : ¬ (q = p ∧ tree' = tree ∧ m = n) := fun h => hne ⟨h.1, h.2.1⟩
      simp [hne']

/-- `rb_erase` takes one node out of one tree. -/
theorem count_rbErase (s : MemSystem) (p : Nat) (tree : MemTree) (n t : Nat) (counted : Bool) (u : NodeUser)
    (q : Nat) (tree' : MemTree) (m : Nat) :
    (((s.rbErase p tree n t counted u).priv q).tree tree').count m =
      ((s.priv q).tree tree').count m - if q = p ∧ tree' = tree ∧ m = n then 1 else 0 := by
  change (((s.setTree p tree (((s.priv p).tree tree).erase n)).priv q).tree tree').count m = _
  rw [tree_setTree]
  split
  · next heq =>
      obtain ⟨rfl, rfl⟩ := heq
      rw [List.count_erase]
      simp [eq_comm (a := n)]
  · next hne =>
      have hne' : ¬ (q = p ∧ tree' = tree ∧ m = n) := fun h => hne ⟨h.1, h.2.1⟩
      simp [hne']

/-- A node that a thread holds is in no tree. -/
theorem Staged.count_held {b : Bool} (h : Staged s) (hn : (s.node n).stage = .held t b) (q : Nat)
    (tree : MemTree) : ((s.priv q).tree tree).count n = 0 := by
  rw [h.tree, hn]
  simp

theorem Staged.mem_tree (h : Staged s) :
    n ∈ (s.priv p).tree tree ↔ (s.node n).priv = p ∧ (s.node n).stage.isIn tree = true := by
  rw [← List.count_pos_iff, h.tree]
  split <;> simp_all

end Trees

/-! ## One thread and its node -/

section Move

variable {s s' : MemSystem} {t n p c : Nat} {th : MemThread} {N : MemNode} {b : Bool}

/-- A node that is no record node is not the node of a context. -/
theorem Staged.not_record (h : Staged s) (hn : ∀ c, (s.node n).stage ≠ .record c) (c : Nat)
    (hc : (s.ctxt c).stage.ownsRecord) : (s.ctxt c).ctxtRecordMemNode ≠ some n :=
  fun hlink => hn c (h.record c n hc hlink).1

/-- A thread moves on with the node that it holds. -/
theorem Staged.moveHeld (h : Staged s) (hheld : (s.node n).stage = .held t b)
    (hthread : s'.thread = Function.update s.thread t th)
    (hthreads : ∀ t', t' = t ∨ t' ∈ s.threads → t' ∈ s'.threads)
    (hnode : s'.node = Function.update s.node n N) (hctxt : s'.ctxt = s.ctxt)
    (hcontexts : s'.contexts = s.contexts) (hnextNode : s'.nextNode = s.nextNode)
    (hnextCtxt : s'.nextCtxt = s.nextCtxt) (hnum : s'.numPrivs = s.numPrivs)
    (hN : ∀ t' b, N.stage = .held t' b → t' = t ∧ th.node = some n)
    (holdC : ∀ d, (s.thread t).ctxt = some d → th.ctxt = some d)
    (hth : ThreadOk s'.node s'.ctxt t th) (hclient : ∀ p, th.client = some p → p < s.numPrivs)
    (htree : ∀ q tree m, ((s'.priv q).tree tree).count m = ((s.priv q).tree tree).count m +
      if N.priv = q ∧ N.stage.isIn tree = true ∧ m = n then 1 else 0)
    (hlinked : ∀ c, N.stage = .record c → (s.ctxt c).stage.ownsRecord ∧ Linked s' n c) : Staged s' := by
  have hholder := h.holder n t b hheld
  have hlt : n < s.nextNode := h.lt_nextNode (by rw [hheld]; nofun)
  refine h.moveNode hthread hthreads hnode hctxt hcontexts hnextNode.ge (hnextNode.symm ▸ hlt) hnextCtxt hnum
    (not_ownsNode_of_held hheld) hN ?_ holdC ?_ hth hclient ?_ ?_ (h.not_record (by rw [hheld]; nofun)) hlinked
  · intro m hm hm'
    rw [hholder] at hm'
    exact absurd (Option.some.inj hm').symm hm
  · intro p d c m hcreating
    rw [hcreating] at hholder
    cases hholder
  · intro q tree m hm
    simp [htree, hm]
  · intro q tree
    simp [htree, h.count_held hheld]

/-- The thread has freed or dropped its node. -/
theorem Staged.moveFreed (h : Staged s) (hheld : (s.node n).stage = .held t b)
    (hthread : s'.thread = Function.update s.thread t th)
    (hthreads : ∀ t', t' = t ∨ t' ∈ s.threads → t' ∈ s'.threads)
    (hnode : s'.node = Function.update s.node n N) (hctxt : s'.ctxt = s.ctxt)
    (hcontexts : s'.contexts = s.contexts) (hnextNode : s'.nextNode = s.nextNode)
    (hnextCtxt : s'.nextCtxt = s.nextCtxt) (hnum : s'.numPrivs = s.numPrivs)
    (hN : N.stage = .freed ∨ N.stage = .leaked)
    (holdC : ∀ d, (s.thread t).ctxt = some d → th.ctxt = some d)
    (hth : ThreadOk s'.node s'.ctxt t th) (hclient : ∀ p, th.client = some p → p < s.numPrivs)
    (htree : ∀ q tree, (s'.priv q).tree tree = (s.priv q).tree tree) : Staged s' := by
  refine h.moveHeld hheld hthread hthreads hnode hctxt hcontexts hnextNode hnextCtxt hnum ?_ holdC hth hclient
    ?_ ?_
  · intro t' b hb
    rcases hN with hN | hN <;> rw [hN] at hb <;> cases hb
  · intro q tree m
    have hout : N.stage.isIn tree = false := by rcases hN with hN | hN <;> rw [hN] <;> rfl
    simp [htree, hout]
  · intro c hc
    rcases hN with hN | hN <;> rw [hN] at hc <;> cases hc

end Move

/-! ## The sections -/

section Sections

variable {s : MemSystem} {t p n c devId contextId : Nat} {tree : MemTree} {creation : Option (Nat × Nat)}

/-- The node of an insertion that has succeeded. -/
theorem count_inserted {root : List Nat} (N : MemNode)
    (hinsert : OrderedSet.insert (nodeKey s.memdesc) ((s.priv p).tree tree) n = some root) (hp : N.priv = p)
    (hstage : ∀ tree', N.stage.isIn tree' = decide (tree' = tree)) (q : Nat) (tree' : MemTree) (m : Nat) :
    (((s.setTree p tree root).priv q).tree tree').count m = ((s.priv q).tree tree').count m +
      if N.priv = q ∧ N.stage.isIn tree' = true ∧ m = n then 1 else 0 := by
  rw [count_insert hinsert, hp, hstage]
  simp [eq_comm (a := p)]

theorem Staged.addSection (h : Staged s) (ht : s.thread t = .adding p tree n creation) :
    Staged (s.addSection t p tree n creation) := by
  have hok := h.thread t
  rw [ht] at hok
  obtain ⟨hheld, hhist, hcreated⟩ := hok
  have hclient : p < s.numPrivs := h.client t p (by rw [ht]; rfl)
  unfold MemSystem.addSection
  obtain ⟨heq, -⟩ | ⟨root, heq, hinsert⟩ := hgslMemAddNode_cases s.memdesc ((s.priv p).tree tree) n
  · simp only [heq]
    rw [if_pos (by decide)]
    refine h.moveThread ⟨hheld, ?_⟩ ?_ ?_ ?_ ?_
    · intro d c hc
      exact ⟨(hcreated d c hc).2, .inl hhist⟩
    · rintro _ ⟨⟩
      exact hclient
    · rw [ht]
      exact fun m hm => hm
    · rw [ht]
      exact fun d hd => hd
    · rw [ht]
      simp
  · simp only [heq]
    rw [if_neg (by decide)]
    cases creation with
    | none =>
        refine h.moveHeld hheld.1  (N := { s.node n with stage := .inTree tree }) rfl
          (by simp [setThread, setStage, setNode, hgslTraceGpuMemTotal, setTree]) rfl rfl rfl rfl rfl rfl (by simp)
          (by rw [ht]; intros; contradiction) trivial (by intros; contradiction) ?_ (by simp)
        intro q tree' m
        change ((((s.setTree p tree root).hgslTraceGpuMemTotal p _).priv q).tree tree').count m = _
        rw [tree_hgslTraceGpuMemTotal]
        exact count_inserted { s.node n with stage := .inTree tree } hinsert hheld.2 (fun _ => by simp [eq_comm]) q
          tree' m
    | some creation =>
        obtain ⟨d, c⟩ := creation
        obtain ⟨rfl, hc⟩ := hcreated d c rfl
        refine h.moveHeld hheld.1
          (N := { s.node n with stage := .record c, recordOf := some c }) rfl
          (by simp [setThread, setNode, hgslTraceGpuMemTotal, setTree]) rfl rfl rfl rfl rfl rfl (by simp)
          (by rw [ht]; exact fun e he => he) ⟨hc, ?_⟩ ?_ ?_ ?_
        · rintro _ ⟨⟩
          simp [setThread, setNode, RecordOf, hheld.2, History, hhist.2.1, hhist.2.2]
        · rintro _ ⟨⟩
          exact hclient
        · intro q tree' m
          change ((((s.setTree p .allocated root).hgslTraceGpuMemTotal p _).priv q).tree tree').count m = _
          rw [tree_hgslTraceGpuMemTotal]
          exact count_inserted { s.node n with stage := .record c, recordOf := some c } hinsert hheld.2
            (fun _ => rfl) q tree' m
        · rintro _ ⟨⟩
          exact ⟨by rw [hc.2.1]; rfl, .inr ⟨t, p, d, by simp [setThread]⟩⟩

theorem Staged.readdSection (h : Staged s) (ht : s.thread t = .readding p tree n) :
    Staged (s.readdSection t p tree n) := by
  have hheld := h.thread t
  rw [ht] at hheld
  unfold MemSystem.readdSection
  obtain ⟨heq, -⟩ | ⟨root, heq, hinsert⟩ := hgslMemAddNode_cases s.memdesc ((s.priv p).tree tree) n
  · simp only [heq]
    rw [if_pos (by decide)]
    exact h.moveFreed hheld.1  (N := { s.node n with stage := .leaked }) rfl
      (by simp [setThread, setStage, setNode]) rfl rfl rfl rfl rfl rfl (.inr rfl)
      (by rw [ht]; intros; contradiction) trivial (by intros; contradiction) fun _ _ => rfl
  · simp only [heq]
    rw [if_neg (by decide)]
    refine h.moveHeld hheld.1  (N := { s.node n with stage := .inTree tree }) rfl
      (by simp [setThread, setStage, setNode, setTree]) rfl rfl rfl rfl rfl rfl (by simp)
      (by rw [ht]; intros; contradiction) trivial (by intros; contradiction) ?_ (by simp)
    exact count_inserted { s.node n with stage := .inTree tree } hinsert hheld.2 fun _ => by
      simp [eq_comm]

/-- A node leaves its tree, and a thread that is not creating a context takes it. -/
theorem Staged.takeNode {s' : MemSystem} {th : MemThread} {N : MemNode} {b : Bool} {u : NodeUser} (h : Staged s)
    (hn : (s.node n).priv = p ∧ (s.node n).stage.isIn tree = true)
    (hthread : s'.thread = Function.update s.thread t th)
    (hthreads : ∀ t', t' = t ∨ t' ∈ s.threads → t' ∈ s'.threads)
    (hnode : s'.node = Function.update s.node n N) (hctxt : s'.ctxt = s.ctxt)
    (hcontexts : s'.contexts = s.contexts) (hnextNode : s'.nextNode = s.nextNode)
    (hnextCtxt : s'.nextCtxt = s.nextCtxt) (hnum : s'.numPrivs = s.numPrivs)
    (hown : ∀ t', t' ≠ t → ¬ OwnsNode s.node s.ctxt t' n)
    (hN : N.stage = .held t b) (hthN : th.node = some n) (hidle : (s.thread t).node = none)
    (holdC : ∀ d, (s.thread t).ctxt = some d → th.ctxt = some d)
    (holdL : ∀ p d c m, s.thread t = .creating p d c (some m) → m = n)
    (hth : ThreadOk s'.node s'.ctxt t th) (hclient : ∀ p, th.client = some p → p < s.numPrivs)
    (htree : ∀ q tree', (s'.priv q).tree tree' = ((s.rbErase p tree n t b u).priv q).tree tree')
    (hrecord : ∀ c, (s.ctxt c).stage.ownsRecord → (s.ctxt c).ctxtRecordMemNode ≠ some n) : Staged s' := by
  have hlt : n < s.nextNode := by
    refine h.lt_nextNode ?_
    intro hunused
    rw [hunused] at hn
    cases hn.2
  refine h.moveNode hthread hthreads hnode hctxt hcontexts hnextNode.ge (hnextNode.symm ▸ hlt) hnextCtxt hnum
    hown ?_ ?_ holdC holdL hth hclient ?_ ?_ hrecord ?_
  · intro t' b' hb
    rw [hN] at hb
    exact ⟨(NodeStage.held.inj hb).1.symm, hthN⟩
  · rw [hidle]
    nofun
  · intro q tree' m hm
    rw [htree, count_rbErase]
    simp [hm]
  · intro q tree'
    rw [htree, count_rbErase, h.tree, hn.1, hN]
    have hin : (s.node n).stage.isIn tree' = true → tree' = tree := by
      intro hin
      revert hn hin
      cases (s.node n).stage <;> simp_all [NodeStage.isIn]
    by_cases hq : p = q
    · subst hq
      by_cases htree' : tree' = tree
      · subst htree'
        simp [hn.2]
      · simp [htree', mt hin htree']
    · simp [hq]
  · intro c hc
    rw [hN] at hc
    cases hc

/-- The section that takes a node out for the user does no harm if it spares the record nodes. -/
theorem Staged.findSection {d : Memdesc} (h : Staged s) (ht : s.thread t = .idle) (hp : p < s.numPrivs)
    (hspares : ∀ n c, hgslMemFindNodeLocked s.memdesc ((s.priv p).tree tree) d.gpuaddr d.size64 = some n →
      (s.node n).stage ≠ .record c) : Staged (s.findSection t p tree d) := by
  unfold MemSystem.findSection
  split
  · refine h.moveThread trivial nofun ?_ ?_ ?_ <;> rw [ht] <;> nofun
  · next n hfind =>
      have hn := h.mem_tree.1 (hgslMemFindNodeLocked_eq_some hfind).1
      have hrecord := fun c => hspares n c hfind
      refine h.takeNode (t := t) (b := true) (u := .ioctl) hn rfl
        (by simp [setThread, rbErase, setNode, setTree]) rfl rfl rfl rfl rfl rfl ?_ rfl rfl (by rw [ht]; rfl)
        (by rw [ht]; nofun) (by rw [ht]; nofun) ?_ ?_ (fun _ _ => rfl) (h.not_record hrecord)
      · rintro t' - (⟨b, hb⟩ | ⟨c, hc, -⟩)
        · rw [hb] at hn
          cases hn.2
        · exact hrecord c hc
      · exact ⟨by simp [setThread, rbErase, setNode], by simp [setThread, rbErase, setNode, hn.1]⟩
      · rintro _ ⟨⟩
        exact hp

theorem Staged.mapNode {d : Memdesc} (h : Staged s)
    (ht : (s.thread t).node = none) (hp : p < s.numPrivs)
    (holdL : ∀ p d c m, s.thread t ≠ .creating p d c (some m))
    (hctxt : ∀ d, (s.thread t).ctxt = some d → creation.map Prod.snd = some d)
    (hcreated : ∀ devId c, creation = some (devId, c) → tree = .allocated ∧ CreatedBy s.ctxt t p devId c) :
    Staged ((s.newNode t p d).setThread t (.adding p tree s.nextNode creation)) := by
  have hfresh := h.freshNode s.nextNode (Nat.le_refl _)
  refine h.moveNode (t := t) (n := s.nextNode)
    (N := { memdesc := d, priv := p, mapped := true, stage := .held t false }) rfl
    (by simp [setThread, newNode, setNode]) rfl rfl rfl (Nat.le_succ _) (Nat.lt_succ_self _) rfl rfl ?_ ?_ ?_ hctxt
    ?_ ?_ ?_ (fun _ _ _ _ => rfl) ?_ (h.not_record (by rw [hfresh]; simp)) (by simp)
  · rintro t' - (⟨b, hb⟩ | ⟨c, hc, -⟩)
    · rw [hfresh] at hb
      cases hb
    · rw [hfresh] at hc
      cases hc
  · rintro t' b ⟨⟩
    exact ⟨rfl, rfl⟩
  · rw [ht]
    simp
  · intro p d c m hcreating
    exact absurd hcreating (holdL p d c m)
  · refine ⟨?_, ?_, hcreated⟩
    · simp [setThread, newNode, setNode, HeldBy]
    · simp [setThread, newNode, setNode, History]
  · rintro _ ⟨⟩
    exact hp
  · intro q tree'
    change ((s.priv q).tree tree').count s.nextNode = _
    rw [h.tree, hfresh]
    simp [NodeStage.isIn]

/-- A node that is there for a context that is being created is the one that its thread waits with. -/
theorem Staged.creating_of_record (h : Staged s) (hc : (s.ctxt c).stage = .creating t)
    (hnone : (s.ctxt c).ctxtRecordMemNode ≠ some n) (hn : (s.node n).stage = .record c) :
    ∃ p d, s.thread t = .creating p d c (some n) := by
  obtain hlink | ⟨t', p, d, ht'⟩ := (h.linked n c hn).2
  · exact absurd hlink hnone
  · have hok := h.thread t'
    rw [ht'] at hok
    obtain rfl : t = t' := RecordStage.creating.inj (hc.symm.trans hok.1.2.1)
    exact ⟨p, d, ht'⟩

/-- A new context. -/
theorem Staged.newCtxt (h : Staged s) (ht : s.thread t = .idle) (hp : p < s.numPrivs)
    (hd : devId < HGSL_DEVICE_NUM) :
    Staged (({ s with nextCtxt := s.nextCtxt + 1 }.setCtxt s.nextCtxt { priv := p, stage := .creating t }).setThread
      t (.creating p devId s.nextCtxt none)) := by
  have hfresh := h.freshCtxt s.nextCtxt (Nat.le_refl _)
  refine h.moveCtxt (t := t) (c := s.nextCtxt) (C := { priv := p, stage := .creating t }) rfl
    (by simp [setThread, setCtxt])
    rfl rfl rfl rfl (Nat.le_succ _) (Nat.lt_succ_self _) rfl ?_ ?_ ?_ ?_ ?_ ⟨?_, (by simp)⟩ ?_ (by simp) ?_ ?_ (by simp)
  · intro t' _ hown
    rw [OwnsCtxt, hfresh] at hown
    cases hown
  · rintro t' ⟨⟩
    exact ⟨rfl, rfl⟩
  · rw [ht]
    intros
    contradiction
  · rw [ht]
    intros
    contradiction
  · rw [ht]
    simp
  · simp [CreatedBy, setThread, setCtxt, hd]
  · rintro _ ⟨⟩
    exact hp
  · intro n hn
    have howns := (h.linked n s.nextCtxt hn).1
    rw [hfresh] at howns
    cases howns
  · intro d i c
    change s.contexts d i = some c ↔ (Function.update s.ctxt s.nextCtxt _ c).stage = _
    by_cases hc : c = s.nextCtxt
    · subst hc
      rw [h.table, hfresh]
      simp
    · rw [h.table, Function.update_of_ne hc]

theorem Staged.afterBackend {record reply : Option Nat} (h : Staged s)
    (ht : s.thread t = .creating p devId c record) (hreply : ∀ i, reply = some i → i < HGSL_CONTEXT_NUM) :
    Staged (s.afterBackend t p devId c record reply) := by
  have hok := h.thread t
  rw [ht] at hok
  obtain ⟨hc, hrecord⟩ := hok
  have hclient : p < s.numPrivs := h.client t p (by rw [ht]; rfl)
  have hown := not_ownsCtxt_of_thread (s := s) (t := t) (c := c) (by rw [hc.2.1]; rfl)
  unfold MemSystem.afterBackend
  cases reply with
  | some i =>
      refine h.moveCtxt (t := t) (c := c) (C := { s.ctxt c with ctxtRecordMemNode := record }) rfl
        (by simp [setThread, setCtxt]) rfl rfl rfl rfl (Nat.le_refl _)
        (h.lt_nextCtxt (by rw [hc.2.1]; simp)) rfl hown ?_ ?_ ?_ ?_ ?_ ?_ ?_ ?_ ?_ ?_
      · intro t' ht'
        change (s.ctxt c).stage.thread = _ at ht'
        rw [hc.2.1] at ht'
        cases ht'
        exact ⟨rfl, rfl⟩
      · rw [ht]
        intros
        contradiction
      · rw [ht]
        exact fun d _ hd => hd
      · rw [ht]
        rintro _ _ _ _ ⟨⟩
        rfl
      · simp [ThreadOk, setThread, setCtxt, hc.1, hc.2.1, hc.2.2.1, hreply i rfl]
      · rintro _ ⟨⟩
        exact hclient
      · intro n _ hn
        change RecordOf s.node (s.ctxt c).priv c n
        rw [hc.2.2.1]
        exact hrecord n hn
      · intro n hn
        obtain ⟨p', d', ht'⟩ := h.creating_of_record hc.2.1 (by rw [hc.2.2.2]; simp) hn
        rw [ht] at ht'
        cases ht'
        exact ⟨by simp [hc.2.1, RecordStage.ownsRecord], .inl (by simp [setThread, setCtxt])⟩
      · intro d i c'
        change s.contexts d i = some c' ↔ (Function.update s.ctxt c _ c').stage = _
        by_cases hcc : c' = c
        · subst hcc
          simp [h.table]
        · rw [h.table, Function.update_of_ne hcc]
      · intro d i hi
        exact h.bound d i c hi
  | none =>
      cases record with
      | none =>
          refine h.moveThread hc ?_ ?_ ?_ ?_
          · rintro _ ⟨⟩
            exact hclient
          · rw [ht]
            intros
            contradiction
          · rw [ht]
            exact fun d hd => hd
          · rw [ht]
            simp
      | some n =>
          obtain ⟨hstage, hpriv, hhist⟩ := hrecord n rfl
          have hother : ∀ c', (s.ctxt c').stage.ownsRecord → (s.ctxt c').ctxtRecordMemNode ≠ some n := by
            intro c' howns hn
            have hc' := (h.record c' n howns hn).1
            rw [hstage] at hc'
            cases hc'
            rw [hc.2.2.2] at hn
            cases hn
          have hin : (s.node n).stage.isIn .allocated = true := by simp [hstage]
          refine h.takeNode (t := t) (n := n) (p := p) (b := false) (u := .createFailed c) ⟨hpriv, hin⟩ rfl
            (by simp [setThread, rbErase, setNode, setTree, hgslTraceGpuMemTotal]) rfl
            rfl rfl rfl rfl rfl ?_ rfl rfl (by rw [ht]; rfl) (by rw [ht]; exact fun d hd => hd) ?_ ⟨?_, ?_⟩ ?_ ?_
            hother
          · rintro t' ht' (⟨b, hb⟩ | ⟨c', hc', hcreating⟩)
            · rw [hstage] at hb
              cases hb
            · rw [hstage] at hc'
              cases hc'
              rw [hc.2.1] at hcreating
              cases hcreating
              exact ht' rfl
          · rw [ht]
            rintro _ _ _ _ ⟨⟩
            rfl
          · simp [HeldBy, setThread, rbErase, setNode, hgslTraceGpuMemTotal, hpriv]
          · rintro _ _ ⟨⟩
            refine ⟨hc, .inr ?_⟩
            simp [History, setThread, rbErase, setNode, hgslTraceGpuMemTotal, hhist.1, hhist.2.1, hhist.2.2]
          · rintro _ ⟨⟩
            exact hclient
          · intro q tree'
            exact tree_hgslTraceGpuMemTotal ..

theorem Staged.newRecord {d : Memdesc} (h : Staged s) (ht : s.thread t = .idle) (hp : p < s.numPrivs)
    (hd : devId < HGSL_DEVICE_NUM) :
    Staged ((({ s with nextCtxt := s.nextCtxt + 1 }.setCtxt s.nextCtxt
      { priv := p, stage := .creating t }).newNode t p d).setThread t
        (.adding p .allocated s.nextNode (some (devId, s.nextCtxt)))) := by
  have hcreated : ∀ devId' c', some (devId, s.nextCtxt) = some (devId', c') → MemTree.allocated = .allocated ∧
      CreatedBy (Function.update s.ctxt s.nextCtxt { priv := p, stage := .creating t }) t p devId' c' := by
    rintro _ _ ⟨⟩
    exact ⟨rfl, by simp [CreatedBy, hd]⟩
  have h₁ := (h.newCtxt ht hp hd).mapNode (d := d) (by simp [setThread, MemThread.node]) hp (by simp [setThread])
    (by simp [setThread, MemThread.ctxt]) hcreated
  simpa [setThread, newNode, setNode, setCtxt] using h₁

/-- The table does not notice a context that is neither in it nor put into it. -/
theorem Staged.table_update {C : MemCtxt} (h : Staged s) (hc : (s.ctxt c).stage.thread = some t)
    (hC : ∀ d i, C.stage ≠ .inserted d i) (d i c' : Nat) :
    s.contexts d i = some c' ↔ (Function.update s.ctxt c C c').stage = .inserted d i := by
  rw [h.table]
  by_cases hcc : c' = c
  · subst hcc
    rw [Function.update_self]
    refine iff_of_false ?_ (hC d i)
    intro hin
    rw [hin] at hc
    cases hc
  · rw [Function.update_of_ne hcc]

/-- The creation of a context that has no record node fails. -/
theorem Staged.giveUp (h : Staged s) (hc : (s.ctxt c).stage.thread = some t) (ht : (s.thread t).node = none)
    (hctxt : (s.thread t).ctxt = some c) (hn : ∀ n, (s.node n).stage ≠ .record c) :
    Staged ((s.setCtxt c { s.ctxt c with stage := .gone }).setThread t .idle) := by
  refine h.moveCtxt (t := t) (c := c) (C := { s.ctxt c with stage := .gone }) rfl (by simp [setThread, setCtxt]) rfl
    rfl rfl rfl (Nat.le_refl _) ?_ rfl (not_ownsCtxt_of_thread hc) (by intros; contradiction) ?_ ?_ ?_ trivial
    (by intros; contradiction) (by intros; contradiction) ?_ ?_ (by simp)
  · refine h.lt_nextCtxt ?_
    intro hunused
    rw [hunused] at hc
    cases hc
  · rw [ht]
    simp
  · rw [hctxt]
    rintro d hd ⟨⟩
    exact absurd rfl hd
  · intro p d e m hcreating
    rw [hcreating] at hctxt
    exact Option.some.inj hctxt
  · intro n hrecord
    exact absurd hrecord (hn n)
  · exact h.table_update hc (by simp)

/-- A context and its record node part. -/
theorem Staged.part {s' : MemSystem} {th : MemThread} {N : MemNode} {C : MemCtxt} (h : Staged s)
    (hc : (s.ctxt c).stage.thread = some t) (howns : (s.ctxt c).stage.ownsRecord)
    (hlink : (s.ctxt c).ctxtRecordMemNode = some n) (ht : (s.thread t).node = none)
    (hctxt : (s.thread t).ctxt = some c) (hcreating : ∀ p d e m, s.thread t ≠ .creating p d e (some m))
    (hthread : s'.thread = Function.update s.thread t th)
    (hthreads : ∀ t', t' = t ∨ t' ∈ s.threads → t' ∈ s'.threads)
    (hnode : s'.node = Function.update s.node n N) (hctxt' : s'.ctxt = Function.update s.ctxt c C)
    (hcontexts : s'.contexts = s.contexts) (hnextNode : s'.nextNode = s.nextNode)
    (hnextCtxt : s'.nextCtxt = s.nextCtxt) (hnum : s'.numPrivs = s.numPrivs)
    (hN : ∀ t' b, N.stage = .held t' b → t' = t ∧ th.node = some n)
    (hC : ∀ t', C.stage.thread = some t' → t' = t ∧ th.ctxt = some c)
    (hNrecord : ∀ c, N.stage ≠ .record c) (hCowns : C.stage.ownsRecord = false)
    (hth : ThreadOk s'.node s'.ctxt t th) (hclient : ∀ p, th.client = some p → p < s.numPrivs)
    (htree : ∀ q tree m, ((s'.priv q).tree tree).count m =
      if (s'.node m).priv = q ∧ (s'.node m).stage.isIn tree = true then 1 else 0) : Staged s' := by
  have hrecord := h.record c n howns hlink
  have hCin : ∀ d i, C.stage ≠ .inserted d i := by
    intro d i hi
    rw [hi] at hCowns
    cases hCowns
  have hltN : n < s.nextNode := h.lt_nextNode (by rw [hrecord.1]; nofun)
  have hltC : c < s.nextCtxt := by
    refine h.lt_nextCtxt ?_
    intro hunused
    rw [hunused] at hc
    cases hc
  refine h.move hthread hthreads hnode hctxt' hnum (.inr ?_) (.inr (not_ownsCtxt_of_thread hc)) hN hC ?_ ?_ hth
    hclient htree ?_ ?_ ?_ ?_ ?_ ?_
  · rintro t' ht' (⟨b, hb⟩ | ⟨c', hc', hcreating'⟩)
    · rw [hrecord.1] at hb
      cases hb
    · rw [hrecord.1] at hc'
      cases hc'
      rw [hcreating'] at hc
      exact ht' (Option.some.inj hc)
  · rw [ht]
    nofun
  · rw [hctxt]
    rintro d hd ⟨⟩
    exact absurd rfl hd
  · intro d m hd hm
    rw [hctxt'] at hd hm ⊢
    have hdc : d ≠ c := by
      rintro rfl
      rw [Function.update_self, hCowns] at hd
      cases hd
    rw [Function.update_of_ne hdc] at hd hm ⊢
    have hmn : m ≠ n := by
      rintro rfl
      have hd' := (h.record d m hd hm).1
      rw [hrecord.1] at hd'
      cases hd'
      exact hdc rfl
    unfold RecordOf
    rw [hnode, Function.update_of_ne hmn]
    exact h.record d m hd hm
  · intro m d hm
    rw [hnode] at hm
    have hmn : m ≠ n := by
      rintro rfl
      rw [Function.update_self] at hm
      exact hNrecord d hm
    rw [Function.update_of_ne hmn] at hm
    obtain ⟨hd, hlinkd⟩ := h.linked m d hm
    have hdc : d ≠ c := by
      rintro rfl
      obtain hlinkd | ⟨t', p, e, ht'⟩ := hlinkd
      · rw [hlink] at hlinkd
        exact hmn (Option.some.inj hlinkd).symm
      · have hok := h.thread t'
        rw [ht'] at hok
        have hnone := hok.1.2.2.2
        rw [hlink] at hnone
        cases hnone
    rw [Linked, hctxt', Function.update_of_ne hdc, hthread]
    refine ⟨hd, hlinkd.imp_right ?_⟩
    rintro ⟨t', p, e, ht'⟩
    refine ⟨t', p, e, ?_⟩
    have hne : t' ≠ t := by
      rintro rfl
      exact hcreating p e d m ht'
    rw [Function.update_of_ne hne]
    exact ht'
  · intro d i c'
    rw [hcontexts, hctxt']
    exact h.table_update hc hCin d i c'
  · intro d i c' hi
    rw [hctxt'] at hi
    by_cases hcc : c' = c
    · subst hcc
      rw [Function.update_self] at hi
      exact absurd hi (hCin d i)
    · rw [Function.update_of_ne hcc] at hi
      exact h.bound d i c' hi
  · intro m hm
    have hmn : m ≠ n := by omega
    rw [hnode, Function.update_of_ne hmn]
    exact h.freshNode m (hnextNode ▸ hm)
  · intro d hd
    have hdc : d ≠ c := by omega
    rw [hctxt', Function.update_of_ne hdc]
    exact h.freshCtxt d (hnextCtxt ▸ hd)

/-- The record node stays in the tree, and its context is over. -/
theorem Staged.abandon (h : Staged s) (hc : (s.ctxt c).stage.thread = some t)
    (howns : (s.ctxt c).stage.ownsRecord) (hlink : (s.ctxt c).ctxtRecordMemNode = some n)
    (ht : (s.thread t).node = none) (hctxt : (s.thread t).ctxt = some c)
    (hcreating : ∀ p d e m, s.thread t ≠ .creating p d e (some m)) :
    Staged (((s.setCtxt c { s.ctxt c with stage := .gone }).setThread t .idle).setStage n
      (.inTree .allocated)) := by
  refine h.part hc howns hlink ht hctxt hcreating (N := { s.node n with stage := .inTree .allocated })
    (C := { s.ctxt c with stage := .gone }) rfl (by simp [setThread, setCtxt, setStage, setNode]) rfl rfl rfl rfl rfl
    rfl nofun nofun nofun rfl trivial nofun ?_
  intro q tree m
  change ((s.priv q).tree tree).count m = if (Function.update s.node n _ m).priv = q ∧
    (Function.update s.node n _ m).stage.isIn tree = true then 1 else 0
  rw [h.tree]
  by_cases hmn : m = n
  · subst hmn
    rw [Function.update_self, (h.record c m howns hlink).1]
    simp [setThread, setCtxt, eq_comm]
  · rw [Function.update_of_ne hmn]

/-- A record node is linked to its context, unless a thread waits with both. -/
theorem Staged.link (h : Staged s) (hcreating : ∀ t p d, (s.ctxt c).stage = .creating t →
    s.thread t ≠ .creating p d c (some n)) (hn : (s.node n).stage = .record c) :
    (s.ctxt c).ctxtRecordMemNode = some n := by
  obtain hlink | ⟨t, p, d, ht⟩ := (h.linked n c hn).2
  · exact hlink
  · have hok := h.thread t
    rw [ht] at hok
    exact absurd ht (hcreating t p d hok.1.2.1)

/-- The same where the thread is known to have gone on. -/
theorem Staged.link_of_thread (h : Staged s) (hc : (s.ctxt c).stage = .creating t)
    (ht : ∀ p d, s.thread t ≠ .creating p d c (some n)) (hn : (s.node n).stage = .record c) :
    (s.ctxt c).ctxtRecordMemNode = some n := by
  refine h.link ?_ hn
  intro t' p d hc'
  rw [hc] at hc'
  cases hc'
  exact ht p d

theorem Staged.legacyFailed (h : Staged s) (ht : s.thread t = .legacy p devId c) :
    Staged ((s.setCtxt c { s.ctxt c with stage := .gone }).setThread t .idle) := by
  have hc := h.thread t
  rw [ht] at hc
  refine h.giveUp (by rw [hc.2.1]; rfl) (by rw [ht]; rfl) (by rw [ht]; rfl) ?_
  intro n hn
  have hlink := h.link_of_thread hc.2.1 (by rw [ht]; nofun) hn
  rw [hc.2.2.2] at hlink
  cases hlink

theorem contexts_setContext (s : MemSystem) (devId contextId : Nat) (v : Option Nat) (d i : Nat) :
    (s.setContext devId contextId v).contexts d i =
      if d = devId ∧ i = contextId then v else s.contexts d i := by
  by_cases hd : d = devId
  · subst hd
    by_cases hi : i = contextId
    · subst hi
      simp [setContext]
    · simp [setContext, hi]
  · simp [setContext, hd]

theorem Staged.insertSection (h : Staged s) (ht : s.thread t = .inserting p devId contextId c) :
    Staged (s.insertSection t devId contextId c) := by
  have hok := h.thread t
  rw [ht] at hok
  obtain ⟨hd, hi, hcreating, hpriv⟩ := hok
  have hthread : (s.ctxt c).stage.thread = some t := by rw [hcreating]; rfl
  have hnode : (s.thread t).node = none := by rw [ht]; rfl
  have hctxt : (s.thread t).ctxt = some c := by rw [ht]; rfl
  have hlink : ∀ n, (s.node n).stage = .record c → (s.ctxt c).ctxtRecordMemNode = some n :=
    fun n hn => h.link_of_thread hcreating (by rw [ht]; simp) hn
  unfold MemSystem.insertSection
  split
  · next hfree =>
      refine h.moveCtxt (t := t) (c := c) (C := { s.ctxt c with stage := .inserted devId contextId }) rfl
        (by simp [setThread, setCtxt, setContext]) rfl rfl rfl rfl (Nat.le_refl _)
        (h.lt_nextCtxt (by rw [hcreating]; simp)) rfl (not_ownsCtxt_of_thread hthread) (by intros; contradiction)
        ?_ ?_ ?_ trivial (by intros; contradiction)
        ?_ ?_ ?_ ?_
      · rw [ht]
        intros
        contradiction
      · rw [hctxt]
        rintro e he ⟨⟩
        exact absurd rfl he
      · rw [ht]
        simp
      · intro n _ hn
        exact h.record c n (by rw [hcreating]; rfl) hn
      · intro n hn
        exact ⟨rfl, .inl (by simpa [setThread, setCtxt] using hlink n hn)⟩
      · intro d i c'
        change (s.setContext devId contextId (some c)).contexts d i = some c' ↔
          (Function.update s.ctxt c _ c').stage = .inserted d i
        rw [contexts_setContext]
        by_cases hcc : c' = c
        · subst hcc
          have hout : s.contexts d i ≠ some c' := by
            intro hin
            rw [h.table, hcreating] at hin
            cases hin
          rw [Function.update_self]
          by_cases hslot : d = devId ∧ i = contextId
          · simp [hslot]
          · simp only [if_neg hslot, hout, false_iff]
            rintro ⟨⟩
            exact hslot ⟨rfl, rfl⟩
        · rw [Function.update_of_ne hcc, ← h.table]
          by_cases hslot : d = devId ∧ i = contextId
          · simp [hslot, hfree, Ne.symm hcc]
          · rw [if_neg hslot]
      · rintro d i ⟨⟩
        exact ⟨hd, hi⟩
  · split
    · next hnone =>
        refine h.giveUp hthread hnode hctxt ?_
        intro n hn
        rw [hlink n hn] at hnone
        cases hnone
    · next n hsome =>
        exact h.abandon hthread (by rw [hcreating]; rfl) hsome hnode hctxt (by rw [ht]; simp)

theorem Staged.removeSection (h : Staged s) (ht : s.thread t = .idle) (hp : p < s.numPrivs) :
    Staged (s.removeSection t p devId contextId) := by
  have hidle : Staged (s.setThread t .idle) := by
    refine h.moveThread trivial (by intros; contradiction) ?_ ?_ ?_ <;> rw [ht] <;> simp
  unfold MemSystem.removeSection
  split
  · exact hidle
  · next c hslot =>
      split
      · next hpriv =>
          have hin := (h.table devId contextId c).1 hslot
          refine h.moveCtxt (t := t) (c := c) (C := { s.ctxt c with stage := .removed t }) rfl
            (by simp [setThread, setCtxt, setContext]) rfl rfl rfl rfl (Nat.le_refl _)
            (h.lt_nextCtxt (by rw [hin]; simp)) rfl ?_ ?_ ?_ ?_ ?_ ⟨?_, ?_⟩ ?_ ?_ ?_ ?_ (by simp)
          · intro t' _ hown
            rw [OwnsCtxt, hin] at hown
            cases hown
          · rintro t' ⟨⟩
            exact ⟨rfl, rfl⟩
          · rw [ht]
            intros
            contradiction
          · rw [ht]
            intros
            contradiction
          · rw [ht]
            simp
          · simp [setThread, setCtxt]
          · simp [setThread, setCtxt, hpriv]
          · rintro _ ⟨⟩
            exact hp
          · intro n _ hn
            exact h.record c n (by rw [hin]; rfl) hn
          · intro n hn
            refine ⟨rfl, .inl ?_⟩
            simpa [setThread, setCtxt] using h.link (by rw [hin]; simp) hn
          · intro d i c'
            change (s.setContext devId contextId none).contexts d i = some c' ↔
              (Function.update s.ctxt c _ c').stage = .inserted d i
            rw [contexts_setContext]
            by_cases hcc : c' = c
            · subst hcc
              rw [Function.update_self]
              by_cases hslot' : d = devId ∧ i = contextId
              · simp [hslot']
              · simp only [if_neg hslot', h.table, hin, reduceCtorEq, iff_false]
                rintro ⟨⟩
                exact hslot' ⟨rfl, rfl⟩
            · rw [Function.update_of_ne hcc, ← h.table]
              by_cases hslot' : d = devId ∧ i = contextId
              · obtain ⟨rfl, rfl⟩ := hslot'
                simp [hslot, Ne.symm hcc]
              · rw [if_neg hslot']
      · exact hidle

theorem Staged.eraseSection (h : Staged s) (ht : s.thread t = .destroying p c) :
    Staged (s.eraseSection t p c) := by
  have hok := h.thread t
  rw [ht] at hok
  obtain ⟨hremoved, hpriv⟩ := hok
  have hthread : (s.ctxt c).stage.thread = some t := by rw [hremoved]; rfl
  have hnode : (s.thread t).node = none := by rw [ht]; rfl
  have hctxt : (s.thread t).ctxt = some c := by rw [ht]; rfl
  have hclient : p < s.numPrivs := h.client t p (by rw [ht]; rfl)
  have howns : (s.ctxt c).stage.ownsRecord := by rw [hremoved]; rfl
  unfold MemSystem.eraseSection
  split
  · next hnone =>
      refine h.giveUp hthread hnode hctxt ?_
      intro n hn
      rw [h.link (by rw [hremoved]; nofun) hn] at hnone
      cases hnone
  · next n hlink =>
      obtain ⟨hstage, hnp, hhist⟩ := h.record c n howns hlink
      rw [hpriv] at hnp
      refine h.part hthread howns hlink hnode hctxt (by rw [ht]; nofun)
        (N := { s.node n with
          stage := .held t true, erasedBy := (s.node n).erasedBy ++ [.ctxtDestroy c] })
        (C := { s.ctxt c with stage := .freeing t }) rfl (by simp [setThread, rbErase, setNode, setTree, setCtxt]) rfl
        rfl rfl rfl rfl rfl ?_ ?_ nofun rfl ⟨⟨?_, ?_⟩, ?_, ?_⟩ ?_ ?_
      · rintro t' b ⟨⟩
        exact ⟨rfl, rfl⟩
      · rintro t' ⟨⟩
        exact ⟨rfl, rfl⟩
      · simp [setThread, rbErase, setNode]
      · simp [setThread, rbErase, setNode, setCtxt, hnp]
      · simp [History, setThread, rbErase, setNode, setCtxt, hhist.1, hhist.2.1, hhist.2.2]
      · simp [setThread, rbErase, setNode, setTree, setCtxt]
      · rintro _ ⟨⟩
        exact hclient
      · intro q tree m
        change (((s.rbErase p .allocated n t true (.ctxtDestroy c)).priv q).tree tree).count m =
          if (Function.update s.node n _ m).priv = q ∧
            (Function.update s.node n _ m).stage.isIn tree = true then 1 else 0
        rw [count_rbErase, h.tree]
        by_cases hmn : m = n
        · subst hmn
          rw [Function.update_self, hstage, hnp]
          by_cases hq : p = q
          · subst hq
            by_cases htree : tree = .allocated <;> simp [htree]
          · simp [hq]
        · rw [Function.update_of_ne hmn]
          simp [hmn]

theorem Staged.abandonNone (h : Staged s) (ht : s.thread t = .destroying p c)
    (hnone : (s.ctxt c).ctxtRecordMemNode = none) :
    Staged ((s.setCtxt c { s.ctxt c with stage := .gone }).setThread t .idle) := by
  have hok := h.thread t
  rw [ht] at hok
  refine h.giveUp (by rw [hok.1]; rfl) (by rw [ht]; rfl) (by rw [ht]; rfl) ?_
  intro n hn
  rw [h.link (by rw [hok.1]; nofun) hn] at hnone
  cases hnone

theorem Staged.abandonRecord (h : Staged s) (ht : s.thread t = .destroying p c)
    (hlink : (s.ctxt c).ctxtRecordMemNode = some n) :
    Staged (((s.setCtxt c { s.ctxt c with stage := .gone }).setThread t .idle).setStage n
      (.inTree .allocated)) := by
  have hok := h.thread t
  rw [ht] at hok
  exact h.abandon (by rw [hok.1]; rfl) (by rw [hok.1]; rfl) hlink (by rw [ht]; rfl) (by rw [ht]; rfl)
    (by rw [ht]; nofun)

theorem Staged.freeRecord {ret : Int} (h : Staged s) (ht : s.thread t = .recordFreeing p n c) :
    Staged (((((s.hgslTraceGpuMemTotal p (-(s.memdesc n).size64)).unmapped n ret).freedNode n
      (.ctxtDestroy c)).setCtxt c { s.ctxt c with stage := .gone, ctxtRecordMemNode := none }).setThread t
      .idle) := by
  have hok := h.thread t
  rw [ht] at hok
  obtain ⟨hheld, hhist, hfreeing⟩ := hok
  have hthread : (s.ctxt c).stage.thread = some t := by rw [hfreeing]; rfl
  -- the context first, then the node
  have h₁ : Staged ((s.setCtxt c { s.ctxt c with stage := .gone, ctxtRecordMemNode := none }).setThread t
      (.freeing p n)) := by
    refine h.moveCtxt (t := t) (c := c) (C := { s.ctxt c with stage := .gone, ctxtRecordMemNode := none }) rfl
      (by simp [setThread, setCtxt]) rfl rfl rfl rfl (Nat.le_refl _) (h.lt_nextCtxt (by rw [hfreeing]; simp)) rfl
      (not_ownsCtxt_of_thread hthread) (by intros; contradiction) ?_ ?_ ?_ hheld ?_ (by simp) ?_ ?_ (by simp)
    · rw [ht]
      exact fun m hm => hm
    · rw [ht]
      rintro d hd ⟨⟩
      exact absurd rfl hd
    · rw [ht]
      simp
    · rintro _ ⟨⟩
      exact h.client t p (by rw [ht]; rfl)
    · intro m hm
      have howns := (h.linked m c hm).1
      rw [hfreeing] at howns
      cases howns
    · exact h.table_update hthread (by simp)
  refine h₁.moveFreed hheld.1 (N := { s.node n with
      mapped := (s.node n).mapped && ret ≠ 0, stage := .freed
      freedBy := (s.node n).freedBy ++ [.ctxtDestroy c] }) (Function.update_idem _ _ _).symm
    (by simp [setThread, freedNode, setCtxt, unmapped, setNode, hgslTraceGpuMemTotal])
    ?_ rfl rfl rfl rfl rfl (.inl rfl) ?_ trivial (by intros; contradiction) ?_
  · simp [setThread, freedNode, setCtxt, unmapped, setNode, hgslTraceGpuMemTotal]
  · simp [setThread, MemThread.ctxt]
  · intro q tree
    exact tree_hgslTraceGpuMemTotal ..

theorem Staged.discardNode {ret : Int} {u : NodeUser} (h : Staged s) (ht : s.thread t = .discarding p n creation) :
    Staged (((s.unmapped n ret).freedNode n u).setThread t (afterDiscard p creation)) := by
  have hok := h.thread t
  rw [ht] at hok
  obtain ⟨hheld, hcreated⟩ := hok
  refine h.moveFreed hheld.1 (N := { s.node n with
    mapped := (s.node n).mapped && ret ≠ 0, stage := .freed, freedBy := (s.node n).freedBy ++ [u] }) rfl
    (by simp [setThread, freedNode, unmapped, setNode]) (by simp [setThread, freedNode, unmapped, setNode]) rfl rfl rfl
    rfl rfl (.inl rfl) ?_ ?_ ?_ fun _ _ => rfl
  · rw [ht]
    cases creation with
    | none => intros; contradiction
    | some creation => exact fun d hd => hd
  · cases creation with
    | none => trivial
    | some creation => exact (hcreated _ _ rfl).1
  · cases creation with
    | none => intros; contradiction
    | some creation =>
        rintro _ ⟨⟩
        exact h.client t p (by rw [ht]; rfl)

theorem Staged.unmapNode {ret : Int} (h : Staged s) (ht : s.thread t = .unmapping p tree n) :
    Staged ((s.unmapped n ret).setThread t (if ret = 0 then .freeing p n else .readding p tree n)) := by
  have hheld := h.thread t
  rw [ht] at hheld
  have hnode : (if ret = 0 then MemThread.freeing p n else .readding p tree n).node = some n := by split <;> rfl
  have hclient : (if ret = 0 then MemThread.freeing p n else .readding p tree n).client = some p := by
    split <;> rfl
  refine h.moveHeld hheld.1 (N := { s.node n with mapped := (s.node n).mapped && ret ≠ 0 }) rfl
    (by simp [setThread, unmapped, setNode]) rfl rfl rfl rfl rfl rfl ?_ (by rw [ht]; intros; contradiction) ?_ ?_ ?_ ?_
  · intro t' b hb
    have hb' := hheld.1.symm.trans hb
    cases hb'
    exact ⟨rfl, hnode⟩
  · have hheld' : HeldBy ((s.unmapped n ret).node) t p n true := by
      simp only [HeldBy, unmapped, setNode, Function.update_self]
      exact hheld
    split <;> exact hheld'
  · intro q hq
    rw [hclient] at hq
    cases hq
    exact h.client t p (by rw [ht]; rfl)
  · intro q tree' m
    have hout : (s.node n).stage.isIn tree' = false := by rw [hheld.1]; rfl
    simp only [hout, Bool.false_eq_true, false_and, and_false, if_false]
    rfl
  · intro c hc
    have hc' := hheld.1.symm.trans hc
    cases hc'

theorem Staged.freeNode (h : Staged s) (ht : s.thread t = .freeing p n) :
    Staged (((s.hgslTraceGpuMemTotal p (-(s.memdesc n).size64)).freedNode n .ioctl).setThread t .idle) := by
  have hheld := h.thread t
  rw [ht] at hheld
  refine h.moveFreed hheld.1 (N := { s.node n with stage := .freed, freedBy := (s.node n).freedBy ++ [.ioctl] }) rfl
    (by simp [setThread, freedNode, setNode, hgslTraceGpuMemTotal]) rfl rfl rfl rfl rfl rfl (.inl rfl)
    (by rw [ht]; intros; contradiction) trivial (by intros; contradiction) ?_
  intro q tree
  exact tree_hgslTraceGpuMemTotal ..

theorem Staged.failNode (h : Staged s) (ht : s.thread t = .adding p tree n creation) :
    Staged (s.setThread t (.discarding p n creation)) := by
  have hok := h.thread t
  rw [ht] at hok
  refine h.moveThread ⟨hok.1, ?_⟩ ?_ ?_ ?_ ?_
  · intro d c hc
    exact ⟨(hok.2.2 d c hc).2, .inl hok.2.1⟩
  · rintro _ ⟨⟩
    exact h.client t p (by rw [ht]; rfl)
  · rw [ht]
    exact fun m hm => hm
  · rw [ht]
    exact fun d hd => hd
  · rw [ht]
    nofun

theorem Staged.legacyOk (h : Staged s) (ht : s.thread t = .legacy p devId c) (hi : contextId < HGSL_CONTEXT_NUM) :
    Staged (s.setThread t (.inserting p devId contextId c)) := by
  have hc := h.thread t
  rw [ht] at hc
  refine h.moveThread ⟨hc.1, hi, hc.2.1, hc.2.2.1⟩ ?_ ?_ ?_ ?_
  · rintro _ ⟨⟩
    exact h.client t p (by rw [ht]; rfl)
  · rw [ht]
    nofun
  · rw [ht]
    exact fun d hd => hd
  · rw [ht]
    nofun

end Sections

/-! ## `hgsl_cleanup` -/

section Cleanup

variable {s : MemSystem} {t p n c : Nat}

theorem ThreadOk.client_of_ctxt {node : Nat → MemNode} {ctxt : Nat → MemCtxt} {th : MemThread}
    (h : ThreadOk node ctxt t th) (hc : th.ctxt = some c) (howns : (ctxt c).stage.ownsRecord) :
    th.client = some (ctxt c).priv := by
  cases th with
  | adding p tree n creation =>
      obtain ⟨⟨d, c'⟩, rfl, rfl⟩ := Option.map_eq_some_iff.1 hc
      exact congrArg some (h.2.2 d c' rfl).2.2.2.1.symm
  | discarding p n creation =>
      obtain ⟨⟨d, c'⟩, rfl, rfl⟩ := Option.map_eq_some_iff.1 hc
      exact congrArg some (h.2 d c' rfl).1.2.2.1.symm
  | creating p d c' record =>
      obtain rfl := Option.some.inj hc
      exact congrArg some h.1.2.2.1.symm
  | legacy p d c' =>
      obtain rfl := Option.some.inj hc
      exact congrArg some h.2.2.1.symm
  | inserting p d i c' =>
      obtain rfl := Option.some.inj hc
      exact congrArg some h.2.2.2.symm
  | destroying p c' =>
      obtain rfl := Option.some.inj hc
      exact congrArg some h.2.symm
  | recordFreeing p n c' =>
      obtain rfl := Option.some.inj hc
      rw [h.2.2] at howns
      cases howns
  | _ => cases hc

/-- A record node is its context's client's. -/
theorem Staged.priv_of_record (h : Staged s) (hn : (s.node n).stage = .record c) :
    (s.node n).priv = (s.ctxt c).priv := by
  obtain ⟨howns, hlink | ⟨t, p, d, ht⟩⟩ := h.linked n c hn
  · exact (h.record c n howns hlink).2.1
  · have hok := h.thread t
    rw [ht] at hok
    rw [(hok.2 n rfl).2.1, hok.1.2.2.1]

theorem Staged.busy_of_client (h : Staged s) (ht : (s.thread t).client = some p) : s.busy p = true := by
  have hactive : t ∈ s.threads := by
    refine h.active t ?_
    intro hidle
    rw [hidle] at ht
    cases ht
  exact List.any_eq_true.2 ⟨t, hactive, decide_eq_true ht⟩

/-- A client has no record nodes left when it has no contexts and no calls. -/
theorem Staged.not_record_of_idle (h : Staged s) (hbusy : s.busy p = false) (hctxts : s.hasContexts p = false)
    (hp : (s.node n).priv = p) (c : Nat) : (s.node n).stage ≠ .record c := by
  intro hn
  have howns := (h.linked n c hn).1
  have hpriv : (s.ctxt c).priv = p := by rw [← h.priv_of_record hn, hp]
  have hcall : ∀ t, (s.ctxt c).stage.thread = some t → False := by
    intro t ht
    have hclient := (h.thread t).client_of_ctxt (h.maker c t ht) howns
    rw [hpriv] at hclient
    rw [h.busy_of_client hclient] at hbusy
    cases hbusy
  cases hstage : (s.ctxt c).stage with
  | creating t | removed t => exact hcall t (by rw [hstage]; rfl)
  | inserted d i =>
      obtain ⟨hd, hi⟩ := h.bound d i c hstage
      have hin : s.hasContexts p = true := by
        refine List.any_eq_true.2 ⟨d, List.mem_range.2 hd, List.any_eq_true.2 ⟨i, List.mem_range.2 hi, ?_⟩⟩
        rw [(h.table d i c).2 hstage]
        simpa using hpriv
      rw [hin] at hctxts
      cases hctxts
  | unused | freeing t | gone =>
      rw [hstage] at howns
      cases howns

/-- Client `p` after the loops of `hgsl_cleanup`. -/
def emptied (s : MemSystem) (p : Nat) : MemSystem :=
  let nodes := (s.priv p).memMapped ++ (s.priv p).memAllocated
  { s with
    priv := Function.update s.priv p { totalMemSize := (s.priv p).totalMemSize - sizeSum s.memdesc nodes }
    totalMemSize := s.totalMemSize - sizeSum s.memdesc nodes
    node := fun n =>
      if n ∈ nodes then
        { s.node n with
          stage := .freed
          erasedBy := (s.node n).erasedBy ++ [.cleanup]
          freedBy := (s.node n).freedBy ++ [.cleanup] }
      else s.node n }

/-- `hgsl_cleanup` either does nothing or empties the trees. -/
theorem cleanupSection_cases (s : MemSystem) (p : Nat) (calls : CleanupCalls) :
    s.cleanupSection p calls = s ∨ s.cleanupSection p calls = s.emptied p := by
  have hnothing : ∀ ret, hgslCleanup s.memdesc calls (s.priv p) s.totalMemSize =
      { priv := s.priv p, totalMemSize := s.totalMemSize, ret := ret } → s.cleanupSection p calls = s := by
    intro ret heq
    simp [cleanupSection, heq]
  cases hempty : hgslMemRbEmpty (s.priv p) with
  | true =>
      refine .inl (hnothing 0 ?_)
      simp [hgslCleanup, hempty]
  | false =>
      obtain ⟨-, heq⟩ | ⟨-, -, heq⟩ | ⟨-, -, heq⟩ :=
        hgslCleanup_cases s.memdesc calls (s.priv p) s.totalMemSize hempty
      · exact .inl (hnothing _ heq)
      · exact .inl (hnothing _ heq)
      · refine .inr ?_
        simp [cleanupSection, heq, emptied]

theorem Staged.mem_nodes (h : Staged s) : n ∈ (s.priv p).memMapped ++ (s.priv p).memAllocated ↔
    (s.node n).priv = p ∧ ∃ tree, (s.node n).stage.isIn tree = true := by
  rw [List.mem_append]
  change n ∈ (s.priv p).tree .mapped ∨ n ∈ (s.priv p).tree .allocated ↔ _
  rw [h.mem_tree, h.mem_tree]
  constructor
  · rintro (⟨hp, hin⟩ | ⟨hp, hin⟩)
    · exact ⟨hp, _, hin⟩
    · exact ⟨hp, _, hin⟩
  · rintro ⟨hp, tree, hin⟩
    cases tree
    · exact .inl ⟨hp, hin⟩
    · exact .inr ⟨hp, hin⟩

theorem Staged.emptied (h : Staged s) (hbusy : s.busy p = false) (hctxts : s.hasContexts p = false) :
    Staged (s.emptied p) := by
  have hrest : ∀ n, ((s.node n).priv ≠ p ∨ ∀ tree, (s.node n).stage.isIn tree = false) →
      (s.emptied p).node n = s.node n := by
    intro n hn
    refine if_neg ?_
    rw [h.mem_nodes]
    rintro ⟨hp, tree, hin⟩
    rcases hn with hn | hn
    · exact hn hp
    · rw [hn tree] at hin
      cases hin
  have hrecord : ∀ n c, (s.node n).stage = .record c → (s.emptied p).node n = s.node n := by
    intro n c hn
    refine hrest n (.inl ?_)
    intro hp
    exact h.not_record_of_idle hbusy hctxts hp c hn
  have hstage : ∀ n, ((s.emptied p).node n).stage = .freed ∨ (s.emptied p).node n = s.node n := by
    intro n
    simp only [MemSystem.emptied]
    split
    · exact .inl rfl
    · exact .inr rfl
  refine
    { tree := ?_, holder := ?_, maker := h.maker, thread := ?_, record := ?_, linked := ?_, table := h.table
      bound := h.bound, freshNode := ?_, freshCtxt := h.freshCtxt, client := h.client, active := h.active }
  · intro q tree n
    have htrees : ((s.emptied p).priv q).tree tree = if q = p then [] else (s.priv q).tree tree := by
      by_cases hq : q = p
      · subst hq
        cases tree <;> simp [MemSystem.emptied, MemPriv.tree]
      · simp [MemSystem.emptied, hq]
    rw [htrees]
    by_cases hn : (s.node n).priv = p ∧ ∃ tree, (s.node n).stage.isIn tree = true
    · have heq : ((s.emptied p).node n).stage = .freed := by
        simp only [MemSystem.emptied]
        rw [if_pos (h.mem_nodes.2 hn)]
      rw [heq]
      split
      · simp [NodeStage.isIn]
      · next hq => simp [h.tree, hn.1, Ne.symm hq, NodeStage.isIn]
    · have heq : (s.emptied p).node n = s.node n := if_neg (mt h.mem_nodes.1 hn)
      rw [heq]
      split
      · next hq =>
          subst hq
          rw [if_neg fun hin => hn ⟨hin.1, tree, hin.2⟩]
          rfl
      · exact h.tree q tree n
  · intro n t b hn
    obtain hfreed | heq := hstage n
    · rw [hfreed] at hn
      cases hn
    · rw [heq] at hn
      exact h.holder n t b hn
  · intro t
    refine (h.thread t).frame ?_ fun _ _ => rfl
    rintro n (⟨b, hb⟩ | ⟨c, hc, -⟩)
    · refine hrest n (.inr ?_)
      intro tree
      rw [hb]
      rfl
    · exact hrecord n c hc
  · intro c n howns hlink
    have hn := h.record c n howns hlink
    unfold RecordOf
    rw [hrecord n c hn.1]
    exact hn
  · intro n c hn
    obtain hfreed | heq := hstage n
    · rw [hfreed] at hn
      cases hn
    · rw [heq] at hn
      exact h.linked n c hn
  · intro n hn
    have hfresh := h.freshNode n hn
    rw [hrest n (.inr (by rw [hfresh]; intro tree; rfl)), hfresh]

end Cleanup

/-! ## Every step -/

/-- No user names a record node. -/
def sparesRecords (s : MemSystem) : MemAct → Bool
  | .findNode _ p tree memdesc =>
    (hgslMemFindNodeLocked s.memdesc ((s.priv p).tree tree) memdesc.gpuaddr memdesc.size64).all fun n =>
      match (s.node n).stage with
      | .record _ => false
      | _ => true
  | _ => true

theorem Staged.step {s s' : MemSystem} {a : MemAct} (h : Staged s) (hspares : s.sparesRecords a = true)
    (hstep : s.step a = some s') : Staged s' := by
  cases step_cases hstep with
  | openClient => exact { h with client := fun t p ht => Nat.lt_succ_of_lt (h.client t p ht) }
  | mapNode ht hp => exact h.mapNode (by rw [ht]; rfl) hp (by rw [ht]; nofun) (by rw [ht]; nofun) nofun
  | failNode ht => exact h.failNode ht
  | addNode ht => exact h.addSection ht
  | discardNode ht => exact h.discardNode ht
  | findNode ht hp =>
      refine h.findSection ht hp ?_
      intro n c hfind hn
      simp [sparesRecords, hfind, hn] at hspares
  | unmapNode ht => exact h.unmapNode ht
  | readdNode ht => exact h.readdSection ht
  | freeNode ht => exact h.freeNode ht
  | newCtxt ht hp hd => exact h.newCtxt ht hp hd
  | newRecord ht hp hd => exact h.newRecord ht hp hd
  | backend ht =>
      refine h.afterBackend ht ?_
      intro i hi
      simpa using (Option.filter_eq_some_iff.1 hi).2
  | legacyOk ht hi => exact h.legacyOk ht hi
  | legacyFailed ht => exact h.legacyFailed ht
  | insertCtxt ht => exact h.insertSection ht
  | destroyCtxt ht hp => exact h.removeSection ht hp
  | eraseRecord ht => exact h.eraseSection ht
  | freeRecord ht => exact h.freeRecord ht
  | abandonNone ht hlink => exact h.abandonNone ht hlink
  | abandonRecord ht hlink => exact h.abandonRecord ht hlink
  | release => exact { h with }
  | @cleanup p calls hbusy hctxts =>
      obtain heq | heq := s.cleanupSection_cases p calls
      · rw [heq]
        exact h
      · rw [heq]
        exact h.emptied hbusy hctxts

/-! ## Runs with one client -/

/-- Context 5 of device 0 is created, with a record node. -/
def createRun (gpuaddr : BitVec 64) : List MemAct :=
  [.createCtxt 0 0 0 (some ⟨gpuaddr, 4096#64⟩), .addNode 0 false, .backend 0 (some 5), .insertCtxt 0]

def destroyRun : List MemAct := [.destroyCtxt 0 0 0 5, .eraseRecord 0, .freeRecord 0 0]

/-- `hgsl_ioctl_mem_free` with the address and the size of the record node. -/
def stealRun : List MemAct := [.findNode 0 0 .allocated ⟨4096#64, 4096#64⟩, .unmapNode 0 0, .freeNode 0]

end MemSystem

end Hgsl
