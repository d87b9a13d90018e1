import Hgsl.Memory.Steps

set_option autoImplicit false

/-! # The record nodes

A context keeps a pointer to its record node, and the node is in the tree that the user frees from. In the
runs where nobody takes it away, the node stays in the tree for as long as the context has it; the thread
that gives up the context is the one that takes it out and frees it. -/

namespace Hgsl

namespace MemSystem

/-! ## The invariant -/

/-- `u` is a way in which context `c` ends. -/
def EndOf (c : Nat) (u : NodeUser) : Prop := u = .createFailed c ∨ u = .ctxtDestroy c

/-- The thread is giving up context `c` and has its record node `n`. -/
def MovesRecord (n c : Nat) : MemThread → Prop
  | .discarding _ m creation => m = n ∧ ∃ devId, creation = some (devId, c)
  | .recordFreeing _ m d => m = n ∧ d = c
  | _ => False

/-- Where a node is that was added for context `c`. -/
def RecordPlace (node : Nat → MemNode) (thread : Nat → MemThread) (n c : Nat) : Prop :=
  (node n).stage = .record c ∨ (∃ t, MovesRecord n c (thread t)) ∨
    (node n).stage = .freed ∧ ∃ u, EndOf c u ∧ History (node n) (some c) [u] [u]

def Recorded (s : MemSystem) : Prop :=
  ∀ n c, (s.node n).recordOf = some c → RecordPlace s.node s.thread n c

theorem MovesRecord.node {th : MemThread} {n c : Nat} (h : MovesRecord n c th) : th.node = some n := by
  cases th with
  | discarding p m creation => exact congrArg some h.1
  | recordFreeing p m d => exact congrArg some h.1
  | _ => cases h

theorem MovesRecord.ctxt {th : MemThread} {n c : Nat} (h : MovesRecord n c th) : th.ctxt = some c := by
  cases th with
  | discarding p m creation =>
      obtain ⟨d, rfl⟩ := h.2
      rfl
  | recordFreeing p m d => exact congrArg some h.2
  | _ => cases h

/-- The node that the thread moves is out of its tree, by the end of the context. -/
theorem MovesRecord.history {node : Nat → MemNode} {ctxt : Nat → MemCtxt} {t n c : Nat} {th : MemThread}
    (h : MovesRecord n c th) (hok : ThreadOk node ctxt t th) (hn : (node n).recordOf = some c) :
    ∃ u, EndOf c u ∧ History (node n) (some c) [u] [] := by
  cases th with
  | discarding p m creation =>
      obtain ⟨rfl, d, rfl⟩ := h
      obtain ⟨-, hhist | hhist⟩ := hok.2 d c rfl
      · rw [hhist.1] at hn
        cases hn
      · exact ⟨_, .inl rfl, hhist⟩
  | recordFreeing p m d =>
      obtain ⟨rfl, rfl⟩ := h
      exact ⟨_, .inr rfl, hok.2.1⟩
  | _ => cases h

section Lemmas

variable {s s' : MemSystem} {t n c : Nat}

/-- A node that a thread holds and that was a record node is moved by that thread. -/
theorem Recorded.of_held {b : Bool} (h : Recorded s) (hs : Staged s) (hheld : (s.node n).stage = .held t b)
    (hn : (s.node n).recordOf = some c) : MovesRecord n c (s.thread t) := by
  obtain hrecord | ⟨t', hmoves⟩ | ⟨hfreed, -⟩ := h n c hn
  · rw [hheld] at hrecord
    cases hrecord
  · obtain ⟨b', hb', -⟩ := (hs.thread t').held hmoves.node
    rw [hheld] at hb'
    cases hb'
    exact hmoves
  · rw [hheld] at hfreed
    cases hfreed

/-- A node of the user was never a record node. -/
theorem Recorded.of_inTree {tree : MemTree} (h : Recorded s) (hs : Staged s)
    (hin : (s.node n).stage = .inTree tree) : (s.node n).recordOf = none := by
  cases hn : (s.node n).recordOf with
  | none => rfl
  | some c =>
      obtain hrecord | ⟨t, hmoves⟩ | ⟨hfreed, -⟩ := h n c hn
      · rw [hin] at hrecord
        cases hrecord
      · obtain ⟨b, hb, -⟩ := (hs.thread t).held hmoves.node
        rw [hin] at hb
        cases hb
      · rw [hin] at hfreed
        cases hfreed

/-- **Frame.** A thread moves on with one node. -/
theorem Recorded.move (h : Recorded s) (n : Nat) (hnode : ∀ m, m ≠ n → s'.node m = s.node m)
    (hthread : ∀ t', t' ≠ t → s'.thread t' = s.thread t') (hold : ∀ m, (s.thread t).node = some m → m = n)
    (hself : ∀ c, (s'.node n).recordOf = some c → RecordPlace s'.node s'.thread n c) : Recorded s' := by
  intro m c hm
  by_cases hmn : m = n
  · subst hmn
    exact hself c hm
  · rw [hnode m hmn] at hm
    unfold RecordPlace
    rw [hnode m hmn]
    refine (h m c hm).imp_right (.imp_left ?_)
    rintro ⟨t', hmoves⟩
    refine ⟨t', ?_⟩
    have ht : t' ≠ t := by
      rintro rfl
      exact hmn (hold m hmoves.node)
    rw [hthread t' ht]
    exact hmoves

/-- A thread without a node moves on, and no node changes. -/
theorem Recorded.moveThread (h : Recorded s) (hnode : s'.node = s.node)
    (hthread : ∀ t', t' ≠ t → s'.thread t' = s.thread t') (hold : (s.thread t).node = none) : Recorded s' := by
  intro m c hm
  rw [hnode] at hm
  unfold RecordPlace
  rw [hnode]
  refine (h m c hm).imp_right (.imp_left ?_)
  rintro ⟨t', hmoves⟩
  refine ⟨t', ?_⟩
  have ht : t' ≠ t := by
    rintro rfl
    rw [hmoves.node] at hold
    cases hold
  rw [hthread t' ht]
  exact hmoves

end Lemmas

/-! ## The steps -/

/-- The table has room for a context that has a record node, and no release drops one. -/
def keepsLinks (s : MemSystem) : MemAct → Bool
  | .insertCtxt t =>
    match s.thread t with
    | .inserting _ devId contextId c =>
      (s.contexts devId contextId).isNone || (s.ctxt c).ctxtRecordMemNode.isNone
    | _ => true
  | .abandonRecord _ => false
  | _ => true

/-- The steps that leave the record nodes with their contexts. -/
def keepsRecords (s : MemSystem) (a : MemAct) : Prop := s.sparesRecords a = true ∧ s.keepsLinks a = true

instance (s : MemSystem) (a : MemAct) : Decidable (keepsRecords s a) := inferInstanceAs (Decidable (_ ∧ _))

section Sections

variable {s : MemSystem} {t p n c devId contextId : Nat} {tree : MemTree} {creation : Option (Nat × Nat)}

/-- A thread that holds a node of the user drops it, changes it or puts it back. -/
theorem Recorded.moveUser {s' : MemSystem} {b : Bool} {N : MemNode} (h : Recorded s) (hs : Staged s)
    (hheld : (s.node n).stage = .held t b) (hmoves : ∀ c, ¬ MovesRecord n c (s.thread t))
    (hnode : s'.node = Function.update s.node n N) (hN : N.recordOf = (s.node n).recordOf)
    (hthread : ∀ t', t' ≠ t → s'.thread t' = s.thread t') : Recorded s' := by
  refine h.move (t := t) n ?_ hthread ?_ ?_
  · intro m hm
    rw [hnode, Function.update_of_ne hm]
  · intro m hm
    rw [hs.holder n t b hheld] at hm
    exact (Option.some.inj hm).symm
  · intro c hc
    rw [hnode, Function.update_self, hN] at hc
    exact absurd (h.of_held hs hheld hc) (hmoves c)

theorem Recorded.newNode {s' : MemSystem} (h : Recorded s) (ht : s.thread t = .idle)
    (hnode : ∀ m, m ≠ s.nextNode → s'.node m = s.node m) (hself : (s'.node s.nextNode).recordOf = none)
    (hthread : ∀ t', t' ≠ t → s'.thread t' = s.thread t') : Recorded s' := by
  refine h.move s.nextNode hnode hthread (by rw [ht]; nofun) ?_
  intro c hc
  rw [hself] at hc
  cases hc

/-- A node that is added for the first time. -/
theorem Recorded.addSection (h : Recorded s) (hs : Staged s) (ht : s.thread t = .adding p tree n creation) :
    Recorded (s.addSection t p tree n creation) := by
  have hok := hs.thread t
  rw [ht] at hok
  obtain ⟨hheld, hhist, -⟩ := hok
  have hold : ∀ m, (s.thread t).node = some m → m = n := by
    rw [ht]
    rintro m ⟨⟩
    rfl
  unfold MemSystem.addSection
  dsimp only
  split
  · refine h.move (t := t) n (fun _ _ => rfl) (fun t' ht' => Function.update_of_ne ht' _ _) hold ?_
    intro c hc
    change (s.node n).recordOf = some c at hc
    rw [hhist.1] at hc
    cases hc
  · split
    · refine h.move (t := t) n (fun m hm => Function.update_of_ne hm _ _) (fun t' ht' => Function.update_of_ne ht' _ _)
        hold ?_
      intro c hc
      simp only [setThread, setStage, setNode, hgslTraceGpuMemTotal, setTree, Function.update_self] at hc
      rw [hhist.1] at hc
      cases hc
    · refine h.move (t := t) n (fun m hm => Function.update_of_ne hm _ _) (fun t' ht' => Function.update_of_ne ht' _ _)
        hold ?_
      intro c hc
      simp only [setThread, setNode, hgslTraceGpuMemTotal, setTree, Function.update_self] at hc
      obtain rfl := Option.some.inj hc
      left
      simp [setThread, setNode]

/-- The failed creation frees the node, which may be the record node of the context. -/
theorem Recorded.discardNode {ret : Int} (h : Recorded s) (hs : Staged s)
    (ht : s.thread t = .discarding p n creation) :
    Recorded (((s.unmapped n ret).freedNode n (creation.elim .failed fun c => .createFailed c.2)).setThread t
      (afterDiscard p creation)) := by
  have hok := hs.thread t
  rw [ht] at hok
  obtain ⟨hheld, hcreated⟩ := hok
  refine h.move (t := t) n ?_ (fun t' ht' => Function.update_of_ne ht' _ _) ?_ ?_
  · intro m hm
    simp [setThread, freedNode, unmapped, setNode, hm]
  · rw [ht]
    rintro m ⟨⟩
    rfl
  · intro c hc
    simp only [setThread, freedNode, unmapped, setNode, Function.update_self] at hc
    have hmoves := h.of_held hs hheld.1 hc
    rw [ht] at hmoves
    obtain ⟨-, d, rfl⟩ := hmoves
    obtain ⟨-, hhist | hhist⟩ := hcreated d c rfl
    · rw [hhist.1] at hc
      cases hc
    · refine .inr (.inr ⟨?_, .createFailed c, .inl rfl, ?_⟩)
      · simp [setThread, freedNode, setNode]
      · simp [History, setThread, freedNode, unmapped, setNode, hhist.1, hhist.2.1, hhist.2.2]

theorem Recorded.findSection {d : Memdesc} (h : Recorded s) (hs : Staged s) (ht : s.thread t = .idle)
    (hspares : ∀ n c, hgslMemFindNodeLocked s.memdesc ((s.priv p).tree tree) d.gpuaddr d.size64 = some n →
      (s.node n).stage ≠ .record c) : Recorded (s.findSection t p tree d) := by
  unfold MemSystem.findSection
  split
  · exact h.moveThread (t := t) rfl (fun t' ht' => Function.update_of_ne ht' _ _) (by rw [ht]; rfl)
  · next n hfind =>
      have hn := (hs.mem_tree.1 (hgslMemFindNodeLocked_eq_some hfind).1).2
      refine h.move (t := t) n (fun m hm => Function.update_of_ne hm _ _)
        (fun t' ht' => Function.update_of_ne ht' _ _) (by rw [ht]; nofun) ?_
      intro c hc
      simp only [setThread, rbErase, setNode, setTree, Function.update_self] at hc
      cases hstage : (s.node n).stage with
      | inTree tree' =>
          rw [h.of_inTree hs hstage] at hc
          cases hc
      | record c => exact absurd hstage (hspares n c hfind)
      | _ =>
          rw [hstage] at hn
          cases hn

theorem Recorded.readdSection (h : Recorded s) (hs : Staged s) (ht : s.thread t = .readding p tree n) :
    Recorded (s.readdSection t p tree n) := by
  have hheld := hs.thread t
  rw [ht] at hheld
  have hmoves : ∀ c, ¬ MovesRecord n c (s.thread t) := by
    rw [ht]
    nofun
  unfold MemSystem.readdSection
  dsimp only
  split
  · exact h.moveUser hs hheld.1 hmoves (N := { s.node n with stage := .leaked }) rfl rfl
      fun t' ht' => Function.update_of_ne ht' _ _
  · exact h.moveUser hs hheld.1 hmoves (N := { s.node n with stage := .inTree tree }) rfl rfl
      fun t' ht' => Function.update_of_ne ht' _ _

theorem Recorded.afterBackend {record reply : Option Nat} (h : Recorded s) (hs : Staged s)
    (ht : s.thread t = .creating p devId c record) : Recorded (s.afterBackend t p devId c record reply) := by
  have hok := hs.thread t
  rw [ht] at hok
  have hnode : (s.thread t).node = none := by rw [ht]; rfl
  unfold MemSystem.afterBackend
  split
  · exact h.moveThread (t := t) rfl (fun t' ht' => Function.update_of_ne ht' _ _) hnode
  · split
    · exact h.moveThread (t := t) rfl (fun t' ht' => Function.update_of_ne ht' _ _) hnode
    · next n =>
        refine h.move (t := t) n (fun m hm => Function.update_of_ne hm _ _)
          (fun t' ht' => Function.update_of_ne ht' _ _) (by rw [hnode]; simp) ?_
        intro c' hc'
        simp only [setThread, rbErase, setNode, setTree, hgslTraceGpuMemTotal, Function.update_self] at hc'
        rw [(hok.2 n rfl).2.2.1] at hc'
        cases hc'
        exact .inr (.inl ⟨t, by simp [setThread, MovesRecord]⟩)

theorem Recorded.insertSection (h : Recorded s) (ht : s.thread t = .inserting p devId contextId c)
    (hkeeps : s.contexts devId contextId = none ∨ (s.ctxt c).ctxtRecordMemNode = none) :
    Recorded (s.insertSection t devId contextId c) := by
  have hnode : (s.thread t).node = none := by rw [ht]; rfl
  unfold MemSystem.insertSection
  split
  · exact h.moveThread (t := t) rfl (fun t' ht' => Function.update_of_ne ht' _ _) hnode
  · next hslot =>
      have hnone := hkeeps.resolve_left (by rw [hslot]; nofun)
      rw [hnone]
      exact h.moveThread (t := t) rfl (fun t' ht' => Function.update_of_ne ht' _ _) hnode

theorem Recorded.removeSection (h : Recorded s) (ht : s.thread t = .idle) :
    Recorded (s.removeSection t p devId contextId) := by
  have hnode : (s.thread t).node = none := by rw [ht]; rfl
  unfold MemSystem.removeSection
  split
  · exact h.moveThread (t := t) rfl (fun t' ht' => Function.update_of_ne ht' _ _) hnode
  · split
    · exact h.moveThread (t := t) rfl (fun t' ht' => Function.update_of_ne ht' _ _) hnode
    · exact h.moveThread (t := t) rfl (fun t' ht' => Function.update_of_ne ht' _ _) hnode

theorem Recorded.eraseSection (h : Recorded s) (hs : Staged s) (ht : s.thread t = .destroying p c) :
    Recorded (s.eraseSection t p c) := by
  have hok := hs.thread t
  rw [ht] at hok
  have hnode : (s.thread t).node = none := by rw [ht]; rfl
  unfold MemSystem.eraseSection
  split
  · exact h.moveThread (t := t) rfl (fun t' ht' => Function.update_of_ne ht' _ _) hnode
  · next n hlink =>
      have hrecord := hs.record c n (by rw [hok.1]; rfl) hlink
      refine h.move (t := t) n (fun m hm => Function.update_of_ne hm _ _)
        (fun t' ht' => Function.update_of_ne ht' _ _) (by rw [hnode]; nofun) ?_
      intro c' hc'
      simp only [setThread, rbErase, setNode, setTree, setCtxt, Function.update_self] at hc'
      rw [hrecord.2.2.1] at hc'
      cases hc'
      exact .inr (.inl ⟨t, by simp [setThread, MovesRecord]⟩)

theorem Recorded.freeRecord {ret : Int} (h : Recorded s) (hs : Staged s) (ht : s.thread t = .recordFreeing p n c) :
    Recorded (((((s.hgslTraceGpuMemTotal p (-(s.memdesc n).size64)).unmapped n ret).freedNode n
      (.ctxtDestroy c)).setCtxt c { s.ctxt c with stage := .gone, ctxtRecordMemNode := none }).setThread t
      .idle) := by
  have hok := hs.thread t
  rw [ht] at hok
  obtain ⟨-, hhist, -⟩ := hok
  refine h.move (t := t) n ?_ (fun t' ht' => Function.update_of_ne ht' _ _) ?_ ?_
  · intro m hm
    simp [setThread, setCtxt, freedNode, unmapped, setNode, hgslTraceGpuMemTotal, hm]
  · rw [ht]
    rintro m ⟨⟩
    rfl
  · intro c' hc'
    simp only [setThread, setCtxt, freedNode, unmapped, setNode, hgslTraceGpuMemTotal, Function.update_self] at hc'
    rw [hhist.1] at hc'
    cases hc'
    refine .inr (.inr ⟨?_, .ctxtDestroy c, .inr rfl, ?_⟩)
    · simp [setThread, setCtxt, freedNode, setNode]
    · simp [History, setThread, setCtxt, freedNode, unmapped, setNode, hgslTraceGpuMemTotal, hhist.1, hhist.2.1,
        hhist.2.2]

/-- `hgsl_cleanup` finds no node that was ever a record node. -/
theorem Recorded.emptied (h : Recorded s) (hs : Staged s) (hbusy : s.busy p = false)
    (hctxts : s.hasContexts p = false) : Recorded (s.emptied p) := by
  have hrest : ∀ n c, (s.node n).recordOf = some c → (s.emptied p).node n = s.node n := by
    intro n c hc
    refine if_neg ?_
    rw [hs.mem_nodes]
    rintro ⟨hp, tree, hin⟩
    cases hstage : (s.node n).stage with
    | inTree tree' =>
        rw [h.of_inTree hs hstage] at hc
        cases hc
    | record d => exact hs.not_record_of_idle hbusy hctxts hp d hstage
    | _ =>
        rw [hstage] at hin
        cases hin
  intro n c hc
  have hc' : (s.node n).recordOf = some c := by
    rw [← hc]
    simp only [MemSystem.emptied]
    split <;> rfl
  unfold RecordPlace
  rw [hrest n c hc']
  exact h n c hc'

end Sections

theorem Recorded.step {s s' : MemSystem} {a : MemAct} (h : Recorded s) (hs : Staged s) (hok : keepsRecords s a)
    (hstep : s.step a = some s') : Recorded s' := by
  cases step_cases hstep with
  | openClient => exact h
  | mapNode ht hp =>
      refine h.newNode ht (fun _ hm => Function.update_of_ne hm _ _) ?_ fun t' ht' => Function.update_of_ne ht' _ _
      simp [setThread, MemSystem.newNode, setNode]
  | @failNode t _ _ _ _ ht =>
      have hheld := hs.thread t
      rw [ht] at hheld
      exact h.moveUser hs hheld.1.1 (by simp [ht, MovesRecord]) (Function.update_eq_self _ _).symm rfl
        fun t' ht' => Function.update_of_ne ht' _ _
  | addNode ht => exact h.addSection hs ht
  | discardNode ht => exact h.discardNode hs ht
  | findNode ht hp =>
      refine h.findSection hs ht ?_
      intro n c hfind hn
      have hspares := hok.1
      simp [sparesRecords, hfind, hn] at hspares
  | @unmapNode t _ _ _ _ ht =>
      have hheld := hs.thread t
      rw [ht] at hheld
      refine h.moveUser hs hheld.1 (by simp [ht, MovesRecord]) rfl ?_ fun t' ht' => Function.update_of_ne ht' _ _
      rfl
  | readdNode ht => exact h.readdSection hs ht
  | @freeNode t _ _ ht =>
      have hheld := hs.thread t
      rw [ht] at hheld
      refine h.moveUser hs hheld.1 (by simp [ht, MovesRecord]) rfl ?_ fun t' ht' => Function.update_of_ne ht' _ _
      rfl
  | newCtxt ht hp hd =>
      exact h.moveThread rfl (fun t' ht' => Function.update_of_ne ht' _ _) (by rw [ht]; rfl)
  | newRecord ht hp hd =>
      refine h.newNode ht (fun _ hm => Function.update_of_ne hm _ _) ?_ fun t' ht' => Function.update_of_ne ht' _ _
      simp [setThread, MemSystem.newNode, setNode, setCtxt]
  | backend ht => exact h.afterBackend hs ht
  | legacyOk ht hi => exact h.moveThread rfl (fun t' ht' => Function.update_of_ne ht' _ _) (by rw [ht]; rfl)
  | legacyFailed ht => exact h.moveThread rfl (fun t' ht' => Function.update_of_ne ht' _ _) (by rw [ht]; rfl)
  | insertCtxt ht =>
      refine h.insertSection ht ?_
      have hlinks := hok.2
      simpa [keepsLinks, ht] using hlinks
  | destroyCtxt ht hp => exact h.removeSection ht
  | eraseRecord ht => exact h.eraseSection hs ht
  | freeRecord ht => exact h.freeRecord hs ht
  | abandonNone ht hlink => exact absurd hok.2 (by simp [keepsLinks])
  | abandonRecord ht hlink => exact absurd hok.2 (by simp [keepsLinks])
  | release => exact h
  | @cleanup p calls hbusy hctxts =>
      obtain heq | heq := s.cleanupSection_cases p calls
      · rw [heq]
        exact h
      · rw [heq]
        exact h.emptied hs hbusy hctxts

/-! ## The record nodes of a run -/

/-- Node `n`, which was added for context `c`, is still its record node, or it was taken out and freed once,
    by the end of the context; the last thing that can be left is the call that frees it. -/
def RecordKept (s : MemSystem) (n c : Nat) : Prop :=
  ((s.ctxt c).stage.ownsRecord ∧ Linked s n c ∧ n ∈ (s.priv (s.ctxt c).priv).memAllocated ∧
      History (s.node n) (some c) [] []) ∨
    ∃ u, EndOf c u ∧ (∀ p tree, n ∉ (s.priv p).tree tree) ∧
      (History (s.node n) (some c) [u] [u] ∨
        History (s.node n) (some c) [u] [] ∧
          ∃ t, (s.thread t).node = some n ∧ (s.thread t).ctxt = some c)

theorem Staged.mem_of_record {s : MemSystem} {n c : Nat} (h : Staged s) (hn : (s.node n).stage = .record c) :
    n ∈ (s.priv (s.ctxt c).priv).memAllocated := by
  refine (h.mem_tree (p := (s.ctxt c).priv) (n := n)).2 (?_ : _ ∧ (s.node n).stage.isIn .allocated = true)
  exact ⟨h.priv_of_record hn, by simp [hn]⟩

theorem recordKept_of_place {s : MemSystem} {n c : Nat} (hs : Staged s) (hn : (s.node n).recordOf = some c)
    (h : RecordPlace s.node s.thread n c) : RecordKept s n c := by
  have hout : ∀ {stage : NodeStage}, (s.node n).stage = stage → (∀ tree, stage.isIn tree = false) →
      ∀ p tree, n ∉ (s.priv p).tree tree := by
    rintro _ rfl hstage p tree hmem
    rw [hs.mem_tree, hstage] at hmem
    cases hmem.2
  obtain hrecord | ⟨t, hmoves⟩ | ⟨hfreed, u, hu, hhist⟩ := h
  · obtain ⟨howns, hlink⟩ := hs.linked n c hrecord
    refine .inl ⟨howns, hlink, hs.mem_of_record hrecord, ?_⟩
    obtain hlink | ⟨t, p, d, ht⟩ := hlink
    · exact (hs.record c n howns hlink).2.2
    · have hok := hs.thread t
      rw [ht] at hok
      exact (hok.2 n rfl).2.2
  · obtain ⟨u, hu, hhist⟩ := hmoves.history (hs.thread t) hn
    obtain ⟨b, hheld, -⟩ := (hs.thread t).held hmoves.node
    exact .inr ⟨u, hu, hout hheld fun _ => rfl, .inr ⟨hhist, t, hmoves.node, hmoves.ctxt⟩⟩
  · exact .inr ⟨u, hu, hout hfreed fun _ => rfl, .inl hhist⟩

theorem recorded_of_run {s : MemSystem} {as : List MemAct}
    (h : Trace.exec (Trace.guarded keepsRecords step) {} as = some s) : Staged s ∧ Recorded s := by
  refine Trace.exec_invariant (P := fun s => Staged s ∧ Recorded s) ?_ ⟨.empty, nofun⟩ h
  rintro s a s' ⟨hs, hr⟩ hstep
  obtain ⟨hok, hstep⟩ := Trace.guarded_eq_some.1 hstep
  exact ⟨hs.step hok.1 hstep, hr.step hs hok hstep⟩

/-- **Record nodes.** In a run that leaves the record nodes with their contexts, a context in the table has
    its node in the tree of its client, and the end of the context takes it out and frees it, once. -/
theorem record_nodes_kept (as : List MemAct) (s : MemSystem)
    (h : Trace.exec (Trace.guarded keepsRecords step) {} as = some s) :
    (∀ devId contextId c n, s.contexts devId contextId = some c → (s.ctxt c).ctxtRecordMemNode = some n →
        n ∈ (s.priv (s.ctxt c).priv).memAllocated) ∧
      ∀ n c, (s.node n).recordOf = some c → RecordKept s n c := by
  obtain ⟨hs, hr⟩ := recorded_of_run h
  refine ⟨?_, ?_⟩
  · intro devId contextId c n hin hlink
    have hstage := (hs.table devId contextId c).1 hin
    exact hs.mem_of_record (hs.record c n (by rw [hstage]; rfl) hlink).1
  · intro n c hn
    exact recordKept_of_place hs hn (hr n c hn)

/-! ## Runs with one client -/

theorem record_nodes_kept_destroyed :
    ∃ s, Trace.exec (Trace.guarded keepsRecords step) {} (.openClient :: createRun 4096#64 ++ destroyRun) = some s ∧
      History (s.node 0) (some 0) [.ctxtDestroy 0] [.ctxtDestroy 0] ∧ RecordKept s 0 0 := by
  have heval : (Trace.exec (Trace.guarded keepsRecords step) {} (.openClient :: createRun 4096#64 ++ destroyRun)).map
      (fun s => ((s.node 0).recordOf, (s.node 0).erasedBy, (s.node 0).freedBy)) =
      some (some 0, [.ctxtDestroy 0], [.ctxtDestroy 0]) := by
    decide +kernel
  obtain ⟨s, hs, heq⟩ := Option.map_eq_some_iff.1 heval
  simp only [Prod.mk.injEq] at heq
  exact ⟨s, hs, heq, (record_nodes_kept _ s hs).2 0 0 heq.1⟩

/-- The user frees the record node, and the context frees it again. The node of a context that finds its id
    taken stays in the tree. -/
theorem record_node_freed_twice :
    (∃ s, Trace.exec step {} (.openClient :: createRun 4096#64 ++ stealRun) = some s ∧
      s.contexts 0 5 = some 0 ∧ (s.ctxt 0).ctxtRecordMemNode = some 0 ∧ (s.priv 0).memAllocated = []) ∧
    (∃ s, Trace.exec step {} (.openClient :: createRun 4096#64 ++ stealRun ++ destroyRun) = some s ∧
      History (s.node 0) (some 0) [.ioctl, .ctxtDestroy 0] [.ioctl, .ctxtDestroy 0] ∧ ¬ RecordKept s 0 0) ∧
    ∃ s, Trace.exec step {} (.openClient :: createRun 4096#64 ++ createRun 8192#64) = some s ∧
      (s.priv 0).memAllocated = [0, 1] ∧ History (s.node 1) (some 1) [] [] ∧ ¬ RecordKept s 1 1 := by
  refine ⟨?_, ?_, ?_⟩
  · have heval : (Trace.exec step {} (.openClient :: createRun 4096#64 ++ stealRun)).map
        (fun s => (s.contexts 0 5, (s.ctxt 0).ctxtRecordMemNode, (s.priv 0).memAllocated)) =
        some (some 0, some 0, []) := by
      decide +kernel
    obtain ⟨s, hs, heq⟩ := Option.map_eq_some_iff.1 heval
    simp only [Prod.mk.injEq] at heq
    exact ⟨s, hs, heq⟩
  · have heval : (Trace.exec step {} (.openClient :: createRun 4096#64 ++ stealRun ++ destroyRun)).map
        (fun s => ((s.node 0).recordOf, (s.node 0).erasedBy, (s.node 0).freedBy)) =
        some (some 0, [.ioctl, .ctxtDestroy 0], [.ioctl, .ctxtDestroy 0]) := by
      decide +kernel
    obtain ⟨s, hs, heq⟩ := Option.map_eq_some_iff.1 heval
    simp only [Prod.mk.injEq] at heq
    refine ⟨s, hs, heq, ?_⟩
    rintro (⟨-, -, -, hhist⟩ | ⟨u, -, -, hhist | ⟨hhist, -⟩⟩) <;> simp [History, heq.2.1] at hhist
  · have heval : (Trace.exec step {} (.openClient :: createRun 4096#64 ++ createRun 8192#64)).map
        (fun s => ((s.priv 0).memAllocated, (s.node 1).recordOf, (s.node 1).erasedBy, (s.node 1).freedBy,
          (s.ctxt 1).stage.ownsRecord)) =
        some ([0, 1], some 1, [], [], false) := by
      decide +kernel
    obtain ⟨s, hs, heq⟩ := Option.map_eq_some_iff.1 heval
    simp only [Prod.mk.injEq] at heq
    obtain ⟨htree, hrecord, herased, hfreed, howns⟩ := heq
    refine ⟨s, hs, htree, ⟨hrecord, herased, hfreed⟩, ?_⟩
    rintro (⟨howns', -⟩ | ⟨u, -, -, hhist | ⟨hhist, -⟩⟩)
    · rw [howns] at howns'
      cases howns'
    · simp [History, herased] at hhist
    · simp [History, herased] at hhist

end MemSystem

end Hgsl
