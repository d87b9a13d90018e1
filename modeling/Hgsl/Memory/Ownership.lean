import Hgsl.Memory.Machine
import Hgsl.Lib.Trace

set_option autoImplicit false

/-! # Who owns a node

The history of a node says where it is, and the trees, the threads and the contexts say the same (`Staged`)
as long as no user takes a record node out of the tree. A step of a thread changes the node that it holds
and the context that it creates or destroys; the other threads do not notice (`Staged.move`). -/

namespace Hgsl

namespace MemSystem

/-! ## Stages -/

/-- Thread `t` holds node `n` of client `p`. -/
def HeldBy (node : Nat → MemNode) (t p n : Nat) (counted : Bool) : Prop :=
  (node n).stage = .held t counted ∧ (node n).priv = p

/-- What has happened to a node. -/
def History (d : MemNode) (c : Option Nat) (erasedBy freedBy : List NodeUser) : Prop :=
  d.recordOf = c ∧ d.erasedBy = erasedBy ∧ d.freedBy = freedBy

/-- Thread `t` creates context `c` for client `p`, and it has no record node yet. -/
def CreatedBy (ctxt : Nat → MemCtxt) (t p devId c : Nat) : Prop :=
  devId < HGSL_DEVICE_NUM ∧ (ctxt c).stage = .creating t ∧ (ctxt c).priv = p ∧ (ctxt c).ctxtRecordMemNode = none

/-- Node `n` is in the tree of client `p` as the record node of context `c`. -/
def RecordOf (node : Nat → MemNode) (p c n : Nat) : Prop :=
  (node n).stage = .record c ∧ (node n).priv = p ∧ History (node n) (some c) [] []

/-- Thread `t` stands where the nodes and the contexts say. -/
def ThreadOk (node : Nat → MemNode) (ctxt : Nat → MemCtxt) (t : Nat) : MemThread → Prop
  | .idle => True
  | .adding p tree n creation =>
    HeldBy node t p n false ∧ History (node n) none [] [] ∧
      ∀ devId c, creation = some (devId, c) → tree = .allocated ∧ CreatedBy ctxt t p devId c
  | .discarding p n creation =>
    HeldBy node t p n false ∧ ∀ devId c, creation = some (devId, c) → CreatedBy ctxt t p devId c ∧
      (History (node n) none [] [] ∨ History (node n) (some c) [.createFailed c] [])
  | .unmapping p _ n | .readding p _ n | .freeing p n => HeldBy node t p n true
  | .creating p devId c record => CreatedBy ctxt t p devId c ∧ ∀ n, record = some n → RecordOf node p c n
  | .legacy p devId c => CreatedBy ctxt t p devId c
  | .inserting p devId contextId c =>
    devId < HGSL_DEVICE_NUM ∧ contextId < HGSL_CONTEXT_NUM ∧ (ctxt c).stage = .creating t ∧ (ctxt c).priv = p
  | .destroying p c => (ctxt c).stage = .removed t ∧ (ctxt c).priv = p
  | .recordFreeing p n c =>
    HeldBy node t p n true ∧ History (node n) (some c) [.ctxtDestroy c] [] ∧ (ctxt c).stage = .freeing t

/-- Context `c` has node `n`, or the thread that creates it is about to give it the node. -/
def Linked (s : MemSystem) (n c : Nat) : Prop :=
  (s.ctxt c).ctxtRecordMemNode = some n ∨ ∃ t p devId, s.thread t = .creating p devId c (some n)

structure Staged (s : MemSystem) : Prop where
  tree : ∀ p tree n, ((s.priv p).tree tree).count n =
    if (s.node n).priv = p ∧ (s.node n).stage.isIn tree = true then 1 else 0
  holder : ∀ n t b, (s.node n).stage = .held t b → (s.thread t).node = some n
  maker : ∀ c t, (s.ctxt c).stage.thread = some t → (s.thread t).ctxt = some c
  thread : ∀ t, ThreadOk s.node s.ctxt t (s.thread t)
  record : ∀ c n, (s.ctxt c).stage.ownsRecord → (s.ctxt c).ctxtRecordMemNode = some n →
    RecordOf s.node (s.ctxt c).priv c n
  linked : ∀ n c, (s.node n).stage = .record c → (s.ctxt c).stage.ownsRecord ∧ Linked s n c
  table : ∀ d i c, s.contexts d i = some c ↔ (s.ctxt c).stage = .inserted d i
  bound : ∀ d i c, (s.ctxt c).stage = .inserted d i → d < HGSL_DEVICE_NUM ∧ i < HGSL_CONTEXT_NUM
  freshNode : ∀ n, s.nextNode ≤ n → s.node n = {}
  freshCtxt : ∀ c, s.nextCtxt ≤ c → s.ctxt c = {}
  client : ∀ t p, (s.thread t).client = some p → p < s.numPrivs
  active : ∀ t, s.thread t ≠ .idle → t ∈ s.threads

/-- Thread `t` relies on the state of node `n`. -/
def OwnsNode (node : Nat → MemNode) (ctxt : Nat → MemCtxt) (t n : Nat) : Prop :=
  (∃ b, (node n).stage = .held t b) ∨ ∃ c, (node n).stage = .record c ∧ (ctxt c).stage = .creating t

/-- Thread `t` relies on the state of context `c`. -/
def OwnsCtxt (ctxt : Nat → MemCtxt) (t c : Nat) : Prop := (ctxt c).stage.thread = some t

section Frame

variable {node node' : Nat → MemNode} {ctxt ctxt' : Nat → MemCtxt} {t : Nat} {th : MemThread}

/-- A thread does not notice what changes elsewhere. -/
theorem ThreadOk.frame (h : ThreadOk node ctxt t th) (hnode : ∀ n, OwnsNode node ctxt t n → node' n = node n)
    (hctxt : ∀ c, OwnsCtxt ctxt t c → ctxt' c = ctxt c) : ThreadOk node' ctxt' t th := by
  have hheld : ∀ {p n b}, HeldBy node t p n b → node' n = node n := fun hn => hnode _ (.inl ⟨_, hn.1⟩)
  have hcreated : ∀ {p d c}, CreatedBy ctxt t p d c → ctxt' c = ctxt c := by
    intro p d c hc
    refine hctxt c ?_
    rw [OwnsCtxt, hc.2.1]
    rfl
  cases th with
  | idle => trivial
  | adding p tree n creation =>
      simp only [ThreadOk, HeldBy]
      rw [hheld h.1]
      refine ⟨h.1, h.2.1, ?_⟩
      intro d c hc
      unfold CreatedBy
      rw [hcreated (h.2.2 d c hc).2]
      exact h.2.2 d c hc
  | discarding p n creation =>
      simp only [ThreadOk, HeldBy]
      rw [hheld h.1]
      refine ⟨h.1, ?_⟩
      intro d c hc
      unfold CreatedBy
      rw [hcreated (h.2 d c hc).1]
      exact h.2 d c hc
  | unmapping p tree n | readding p tree n | freeing p n =>
      simp only [ThreadOk, HeldBy]
      rw [hheld h]
      exact h
  | recordFreeing p n c =>
      simp only [ThreadOk, HeldBy]
      rw [hheld h.1, hctxt c (by rw [OwnsCtxt, h.2.2]; rfl)]
      exact h
  | creating p d c record =>
      simp only [ThreadOk, CreatedBy]
      rw [hcreated h.1]
      refine ⟨h.1, ?_⟩
      intro n hn
      unfold RecordOf
      rw [hnode n (.inr ⟨c, (h.2 n hn).1, h.1.2.1⟩)]
      exact h.2 n hn
  | legacy p d c =>
      simp only [ThreadOk, CreatedBy]
      rw [hcreated h]
      exact h
  | inserting p d i c =>
      simp only [ThreadOk]
      rw [hctxt c (by rw [OwnsCtxt, h.2.2.1]; rfl)]
      exact h
  | destroying p c =>
      simp only [ThreadOk]
      rw [hctxt c (by rw [OwnsCtxt, h.1]; rfl)]
      exact h

/-- The node that a thread holds is the node of its client. -/
theorem ThreadOk.held (h : ThreadOk node ctxt t th) {n : Nat} (hn : th.node = some n) :
    ∃ b, (node n).stage = .held t b ∧ th.client = some (node n).priv := by
  cases th with
  | adding p tree m creation | discarding p m creation | recordFreeing p m c =>
      obtain rfl := Option.some.inj hn
      exact ⟨_, h.1.1, congrArg some h.1.2.symm⟩
  | unmapping p tree m | readding p tree m | freeing p m =>
      obtain rfl := Option.some.inj hn
      exact ⟨true, h.1, congrArg some h.2.symm⟩
  | _ => cases hn

end Frame

theorem Staged.empty : Staged {} where
  tree p tree n := by cases tree <;> simp [MemPriv.tree, NodeStage.isIn]
  holder := nofun
  maker := nofun
  thread _ := trivial
  record := nofun
  linked := nofun
  table := by simp
  bound := nofun
  freshNode _ _ := rfl
  freshCtxt _ _ := rfl
  client := nofun
  active t h := absurd rfl h

/-! ## The frame -/

section Move

variable {s s' : MemSystem} {t n c : Nat} {th : MemThread} {N : MemNode} {C : MemCtxt}

/-- **Frame.** A thread moves on and changes at most one node and one context, which no other thread relies
    on. -/
theorem Staged.move (h : Staged s) (hthread : s'.thread = Function.update s.thread t th)
    (hthreads : ∀ t', t' = t ∨ t' ∈ s.threads → t' ∈ s'.threads)
    (hnode : s'.node = Function.update s.node n N) (hctxt : s'.ctxt = Function.update s.ctxt c C)
    (hnum : s'.numPrivs = s.numPrivs)
    (hn : N = s.node n ∨ ∀ t', t' ≠ t → ¬ OwnsNode s.node s.ctxt t' n)
    (hc : C = s.ctxt c ∨ ∀ t', t' ≠ t → ¬ OwnsCtxt s.ctxt t' c)
    (hN : ∀ t' b, N.stage = .held t' b → t' = t ∧ th.node = some n)
    (hC : ∀ t', C.stage.thread = some t' → t' = t ∧ th.ctxt = some c)
    (holdN : ∀ m, m ≠ n → (s.thread t).node = some m → th.node = some m)
    (holdC : ∀ d, d ≠ c → (s.thread t).ctxt = some d → th.ctxt = some d)
    (hth : ThreadOk s'.node s'.ctxt t th) (hclient : ∀ p, th.client = some p → p < s.numPrivs)
    (htree : ∀ p tree m, ((s'.priv p).tree tree).count m =
      if (s'.node m).priv = p ∧ (s'.node m).stage.isIn tree = true then 1 else 0)
    (hrecord : ∀ c n, (s'.ctxt c).stage.ownsRecord → (s'.ctxt c).ctxtRecordMemNode = some n →
      RecordOf s'.node (s'.ctxt c).priv c n)
    (hlinked : ∀ n c, (s'.node n).stage = .record c → (s'.ctxt c).stage.ownsRecord ∧ Linked s' n c)
    (htable : ∀ d i c, s'.contexts d i = some c ↔ (s'.ctxt c).stage = .inserted d i)
    (hbound : ∀ d i c, (s'.ctxt c).stage = .inserted d i → d < HGSL_DEVICE_NUM ∧ i < HGSL_CONTEXT_NUM)
    (hfreshNode : ∀ n, s'.nextNode ≤ n → s'.node n = {})
    (hfreshCtxt : ∀ c, s'.nextCtxt ≤ c → s'.ctxt c = {}) : Staged s' where
  tree := htree
  record := hrecord
  linked := hlinked
  table := htable
  bound := hbound
  freshNode := hfreshNode
  freshCtxt := hfreshCtxt
  holder := by
    intro m t' b hm
    rw [hthread]
    rw [hnode] at hm
    by_cases hmn : m = n
    · subst hmn
      rw [Function.update_self] at hm
      obtain ⟨rfl, hself⟩ := hN t' b hm
      rw [Function.update_self]
      exact hself
    · rw [Function.update_of_ne hmn] at hm
      have hheld := h.holder m t' b hm
      by_cases ht : t' = t
      · subst ht
        rw [Function.update_self]
        exact holdN m hmn hheld
      · rw [Function.update_of_ne ht]
        exact hheld
  maker := by
    intro d t' hd
    rw [hthread]
    rw [hctxt] at hd
    by_cases hdc : d = c
    · subst hdc
      rw [Function.update_self] at hd
      obtain ⟨rfl, hself⟩ := hC t' hd
      rw [Function.update_self]
      exact hself
    · rw [Function.update_of_ne hdc] at hd
      have hmade := h.maker d t' hd
      by_cases ht : t' = t
      · subst ht
        rw [Function.update_self]
        exact holdC d hdc hmade
      · rw [Function.update_of_ne ht]
        exact hmade
  thread := by
    intro t'
    by_cases ht : t' = t
    · subst ht
      rw [hthread, Function.update_self]
      exact hth
    · rw [hthread, Function.update_of_ne ht]
      refine (h.thread t').frame ?_ ?_
      · intro m hm
        rw [hnode]
        by_cases hmn : m = n
        · subst hmn
          rw [Function.update_self]
          exact hn.resolve_right fun hfree => hfree t' ht hm
        · rw [Function.update_of_ne hmn]
      · intro d hd
        rw [hctxt]
        by_cases hdc : d = c
        · subst hdc
          rw [Function.update_self]
          exact hc.resolve_right fun hfree => hfree t' ht hd
        · rw [Function.update_of_ne hdc]
  client := by
    intro t' p hp
    rw [hnum]
    by_cases ht : t' = t
    · subst ht
      rw [hthread, Function.update_self] at hp
      exact hclient p hp
    · rw [hthread, Function.update_of_ne ht] at hp
      exact h.client t' p hp
  active := by
    intro t' ht'
    refine hthreads t' ?_
    by_cases ht : t' = t
    · exact .inl ht
    · rw [hthread, Function.update_of_ne ht] at ht'
      exact .inr (h.active t' ht')

theorem Staged.lt_nextNode (h : Staged s) (hn : (s.node n).stage ≠ .unused) : n < s.nextNode := by
  by_contra hle
  rw [h.freshNode n (Nat.le_of_not_lt hle)] at hn
  exact hn rfl

theorem Staged.lt_nextCtxt (h : Staged s) (hc : (s.ctxt c).stage ≠ .unused) : c < s.nextCtxt := by
  by_contra hle
  rw [h.freshCtxt c (Nat.le_of_not_lt hle)] at hc
  exact hc rfl

/-- A node that a thread holds is relied on by no other thread. -/
theorem not_ownsNode_of_held {b : Bool} (hn : (s.node n).stage = .held t b) (t' : Nat) (ht : t' ≠ t) :
    ¬ OwnsNode s.node s.ctxt t' n := by
  rintro (⟨b', hb'⟩ | ⟨c, hc, -⟩)
  · rw [hn] at hb'
    exact ht (NodeStage.held.inj hb').1.symm
  · rw [hn] at hc
    cases hc

/-- A context that a thread creates or destroys is relied on by no other thread. -/
theorem not_ownsCtxt_of_thread (hc : (s.ctxt c).stage.thread = some t) (t' : Nat) (ht : t' ≠ t) :
    ¬ OwnsCtxt s.ctxt t' c := by
  intro hc'
  rw [OwnsCtxt, hc] at hc'
  exact ht (Option.some.inj hc').symm

/-- One thread moves on with one node, in or out of the trees. -/
theorem Staged.moveNode (h : Staged s) (hthread : s'.thread = Function.update s.thread t th)
    (hthreads : ∀ t', t' = t ∨ t' ∈ s.threads → t' ∈ s'.threads)
    (hnode : s'.node = Function.update s.node n N) (hctxt : s'.ctxt = s.ctxt)
    (hcontexts : s'.contexts = s.contexts) (hnextNode : s.nextNode ≤ s'.nextNode) (hlt : n < s'.nextNode)
    (hnextCtxt : s'.nextCtxt = s.nextCtxt) (hnum : s'.numPrivs = s.numPrivs)
    (hn : ∀ t', t' ≠ t → ¬ OwnsNode s.node s.ctxt t' n)
    (hN : ∀ t' b, N.stage = .held t' b → t' = t ∧ th.node = some n)
    (holdN : ∀ m, m ≠ n → (s.thread t).node = some m → th.node = some m)
    (holdC : ∀ d, (s.thread t).ctxt = some d → th.ctxt = some d)
    (holdL : ∀ p d c m, s.thread t = .creating p d c (some m) → m = n)
    (hth : ThreadOk s'.node s'.ctxt t th) (hclient : ∀ p, th.client = some p → p < s.numPrivs)
    (hother : ∀ p tree m, m ≠ n → ((s'.priv p).tree tree).count m = ((s.priv p).tree tree).count m)
    (hself : ∀ p tree, ((s'.priv p).tree tree).count n =
      if N.priv = p ∧ N.stage.isIn tree = true then 1 else 0)
    (hrecord : ∀ c, (s.ctxt c).stage.ownsRecord → (s.ctxt c).ctxtRecordMemNode ≠ some n)
    (hlinked : ∀ c, N.stage = .record c → (s.ctxt c).stage.ownsRecord ∧ Linked s' n c) : Staged s' := by
  have hctxt' : s'.ctxt = Function.update s.ctxt s.nextCtxt (s.ctxt s.nextCtxt) := by
    rw [Function.update_eq_self, hctxt]
  refine h.move hthread hthreads hnode hctxt' hnum (.inr hn) (.inl rfl) hN ?_ holdN (fun d _ => holdC d) hth
    hclient ?_ ?_ ?_ ?_ ?_ ?_ ?_
  · intro t' ht'
    rw [h.freshCtxt _ (Nat.le_refl _)] at ht'
    cases ht'
  · intro p tree m
    rw [hnode]
    by_cases hmn : m = n
    · subst hmn
      rw [Function.update_self]
      exact hself p tree
    · rw [Function.update_of_ne hmn, hother p tree m hmn]
      exact h.tree p tree m
  · intro c m howns hm
    rw [hctxt] at howns hm ⊢
    have hmn : m ≠ n := by
      rintro rfl
      exact hrecord c howns hm
    unfold RecordOf
    rw [hnode, Function.update_of_ne hmn]
    exact h.record c m howns hm
  · intro m c hm
    rw [hnode] at hm
    by_cases hmn : m = n
    · subst hmn
      rw [Function.update_self] at hm
      rw [hctxt]
      exact hlinked c hm
    · rw [Function.update_of_ne hmn] at hm
      obtain ⟨howns, hlink⟩ := h.linked m c hm
      rw [Linked, hctxt, hthread]
      refine ⟨howns, hlink.imp_right ?_⟩
      rintro ⟨t', p, d, hcreating⟩
      refine ⟨t', p, d, ?_⟩
      have ht : t' ≠ t := by
        rintro rfl
        exact hmn (holdL p d c m hcreating)
      rw [Function.update_of_ne ht]
      exact hcreating
  · rw [hctxt, hcontexts]
    exact h.table
  · rw [hctxt]
    exact h.bound
  · intro m hm
    have hmn : m ≠ n := by omega
    rw [hnode, Function.update_of_ne hmn]
    exact h.freshNode m (hnextNode.trans hm)
  · rw [hctxt, hnextCtxt]
    exact h.freshCtxt

/-- One thread moves on and changes one context, and no node. -/
theorem Staged.moveCtxt (h : Staged s) (hthread : s'.thread = Function.update s.thread t th)
    (hthreads : ∀ t', t' = t ∨ t' ∈ s.threads → t' ∈ s'.threads)
    (hnode : s'.node = s.node) (hpriv : s'.priv = s.priv) (hctxt : s'.ctxt = Function.update s.ctxt c C)
    (hnextNode : s'.nextNode = s.nextNode) (hnextCtxt : s.nextCtxt ≤ s'.nextCtxt) (hlt : c < s'.nextCtxt)
    (hnum : s'.numPrivs = s.numPrivs) (hc : ∀ t', t' ≠ t → ¬ OwnsCtxt s.ctxt t' c)
    (hC : ∀ t', C.stage.thread = some t' → t' = t ∧ th.ctxt = some c)
    (holdN : ∀ m, (s.thread t).node = some m → th.node = some m)
    (holdC : ∀ d, d ≠ c → (s.thread t).ctxt = some d → th.ctxt = some d)
    (holdL : ∀ p e d m, s.thread t = .creating p e d (some m) → d = c)
    (hth : ThreadOk s'.node s'.ctxt t th) (hclient : ∀ p, th.client = some p → p < s.numPrivs)
    (hrecord : ∀ n, C.stage.ownsRecord → C.ctxtRecordMemNode = some n → RecordOf s.node C.priv c n)
    (hlinked : ∀ n, (s.node n).stage = .record c → C.stage.ownsRecord ∧ Linked s' n c)
    (htable : ∀ d i c, s'.contexts d i = some c ↔ (s'.ctxt c).stage = .inserted d i)
    (hbound : ∀ d i, C.stage = .inserted d i → d < HGSL_DEVICE_NUM ∧ i < HGSL_CONTEXT_NUM) : Staged s' := by
  have hnode' : s'.node = Function.update s.node s.nextNode (s.node s.nextNode) := by
    rw [Function.update_eq_self, hnode]
  refine h.move hthread hthreads hnode' hctxt hnum (.inl rfl) (.inr hc) ?_ hC (fun m _ => holdN m) holdC hth
    hclient ?_ ?_ ?_ htable ?_ ?_ ?_
  · intro t' b hb
    rw [h.freshNode _ (Nat.le_refl _)] at hb
    cases hb
  · rw [hnode, hpriv]
    exact h.tree
  · intro d m howns hm
    rw [hctxt] at howns hm ⊢
    rw [hnode]
    by_cases hdc : d = c
    · subst hdc
      rw [Function.update_self] at howns hm ⊢
      exact hrecord m howns hm
    · rw [Function.update_of_ne hdc] at howns hm ⊢
      exact h.record d m howns hm
  · intro m d hm
    rw [hnode] at hm
    by_cases hdc : d = c
    · subst hdc
      rw [hctxt, Function.update_self]
      exact hlinked m hm
    · obtain ⟨howns, hlink⟩ := h.linked m d hm
      rw [Linked, hctxt, Function.update_of_ne hdc, hthread]
      refine ⟨howns, hlink.imp_right ?_⟩
      rintro ⟨t', p, e, hcreating⟩
      refine ⟨t', p, e, ?_⟩
      have ht : t' ≠ t := by
        rintro rfl
        exact hdc (holdL p e d m hcreating)
      rw [Function.update_of_ne ht]
      exact hcreating
  · intro d i e he
    rw [hctxt] at he
    by_cases hec : e = c
    · subst hec
      rw [Function.update_self] at he
      exact hbound d i he
    · rw [Function.update_of_ne hec] at he
      exact h.bound d i e he
  · rw [hnode, hnextNode]
    exact h.freshNode
  · intro d hd
    have hdc : d ≠ c := by omega
    rw [hctxt, Function.update_of_ne hdc]
    exact h.freshCtxt d (hnextCtxt.trans hd)

/-- One thread moves on and changes nothing else. -/
theorem Staged.moveThread (h : Staged s) (hth : ThreadOk s.node s.ctxt t th)
    (hclient : ∀ p, th.client = some p → p < s.numPrivs)
    (holdN : ∀ m, (s.thread t).node = some m → th.node = some m)
    (holdC : ∀ d, (s.thread t).ctxt = some d → th.ctxt = some d)
    (holdL : ∀ p d c m, s.thread t ≠ .creating p d c (some m)) : Staged (s.setThread t th) := by
  refine h.move (n := s.nextNode) (N := s.node s.nextNode) (c := s.nextCtxt) (C := s.ctxt s.nextCtxt) rfl ?_
    (Function.update_eq_self _ _).symm (Function.update_eq_self _ _).symm rfl (.inl rfl) (.inl rfl) ?_ ?_
    (fun m _ => holdN m) (fun d _ => holdC d) hth hclient h.tree h.record ?_ h.table h.bound h.freshNode
    h.freshCtxt
  · simp [setThread]
  · intro t' b hb
    rw [h.freshNode _ (Nat.le_refl _)] at hb
    cases hb
  · intro t' ht'
    rw [h.freshCtxt _ (Nat.le_refl _)] at ht'
    cases ht'
  · intro n c hn
    refine ⟨(h.linked n c hn).1, (h.linked n c hn).2.imp_right ?_⟩
    rintro ⟨t', p, d, hcreating⟩
    refine ⟨t', p, d, ?_⟩
    have ht : t' ≠ t := by
      rintro rfl
      exact holdL p d c n hcreating
    simpa [setThread, Function.update_of_ne ht] using hcreating

end Move

end MemSystem

end Hgsl
