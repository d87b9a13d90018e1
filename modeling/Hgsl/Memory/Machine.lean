import Hgsl.Memory.Nodes
import Hgsl.Context.Table

set_option autoImplicit false

/-! # The memory nodes of all clients

The ioctls that put nodes into the trees of a client and take them out, the creation and destruction of
contexts with record nodes, which are in the same tree, and `hgsl_cleanup`. A section under `priv->lock` or
`ctxt_lock` is one step, and so is what a thread does with a node that it has to itself. The action carries
the user's arguments, the addresses that the mapping layer hands out and the results of the calls.

A node and a context are known by numbers of their own. The fields that are marked as history say where a
node is and who took it out and freed it; no step looks at them. -/

namespace Hgsl

/-- Who takes a node out of its tree, or frees it. -/
inductive NodeUser where
  /-- `hgsl_ioctl_mem_free` and `hgsl_ioctl_mem_unmap_smmu` -/
  | ioctl
  /-- an ioctl that fails before the node is in a tree -/
  | failed
  /-- the failure path of `hgsl_hyp_ctxt_create_v2`, for context `c` -/
  | createFailed (c : Nat)
  /-- `hgsl_ctxt_destroy` of context `c` -/
  | ctxtDestroy (c : Nat)
  | cleanup
  deriving DecidableEq, Repr

/-- Where a node is. -/
inductive NodeStage where
  | unused
  /-- thread `t` has it; `counted` says that its size is on the totals -/
  | held (t : Nat) (counted : Bool)
  | inTree (t : MemTree)
  /-- in `mem_allocated`, as the record node of context `c` -/
  | record (c : Nat)
  | freed
  /-- dropped by an ioctl that could not put it back -/
  | leaked
  deriving DecidableEq, Repr

/-- The node is in tree `t` of its client. -/
def NodeStage.isIn (t : MemTree) : NodeStage → Bool
  | .inTree t' => t' = t
  | .record _ => t = .allocated
  | _ => false

@[simp] theorem NodeStage.isIn_held (t : MemTree) (t' : Nat) (b : Bool) : (held t' b).isIn t = false := rfl

@[simp] theorem NodeStage.isIn_inTree (t t' : MemTree) : (inTree t').isIn t = decide (t' = t) := rfl

@[simp] theorem NodeStage.isIn_record (t : MemTree) (c : Nat) : (record c).isIn t = decide (t = .allocated) := rfl

/-- `struct hgsl_mem_node` -/
structure MemNode where
  memdesc : Memdesc := ⟨0#64, 0#64⟩
  priv : Nat := 0
  /-- history: mapped, and not unmapped since -/
  mapped : Bool := false
  /-- history -/
  stage : NodeStage := .unused
  /-- history: the context that it was added for -/
  recordOf : Option Nat := none
  /-- history -/
  erasedBy : List NodeUser := []
  /-- history -/
  freedBy : List NodeUser := []
  deriving DecidableEq, Repr

/-- How far a context has come. -/
inductive RecordStage where
  | unused
  | creating (t : Nat)
  | inserted (devId contextId : Nat)
  | removed (t : Nat)
  /-- and thread `t` has its record node -/
  | freeing (t : Nat)
  | gone
  deriving DecidableEq, Repr

namespace RecordStage

/-- The thread that creates or destroys the context. -/
def thread : RecordStage → Option Nat
  | .creating t | .removed t | .freeing t => some t
  | .unused | .inserted _ _ | .gone => none

/-- The record node is the context's. -/
def ownsRecord : RecordStage → Bool
  | .creating _ | .inserted _ _ | .removed _ => true
  | .unused | .freeing _ | .gone => false

end RecordStage

/-- `struct hgsl_context`, as far as its record node is concerned -/
structure MemCtxt where
  priv : Nat := 0
  ctxtRecordMemNode : Option Nat := none
  /-- history -/
  stage : RecordStage := .unused
  deriving DecidableEq, Repr

/-- Where a thread stands; `p` is its client. In the calls that create a context, `ctxt` is its device and
    its number. -/
inductive MemThread where
  | idle
  /-- the node is mapped and about to be added to tree `t` -/
  | adding (p : Nat) (t : MemTree) (n : Nat) (ctxt : Option (Nat × Nat))
  /-- the call has failed, and the node is about to be unmapped and freed -/
  | discarding (p n : Nat) (ctxt : Option (Nat × Nat))
  /-- the node is out of its tree -/
  | unmapping (p : Nat) (t : MemTree) (n : Nat)
  /-- the unmap has failed -/
  | readding (p : Nat) (t : MemTree) (n : Nat)
  /-- the unmap is done -/
  | freeing (p n : Nat)
  /-- in `hgsl_hyp_ctxt_create_v2`, waiting for the backend -/
  | creating (p devId c : Nat) (record : Option Nat)
  /-- that has failed, and `hgsl_hyp_ctxt_create` waits for the backend -/
  | legacy (p devId c : Nat)
  /-- about to put the context into the table -/
  | inserting (p devId contextId c : Nat)
  /-- in `hgsl_ctxt_destroy`, with the context out of the table -/
  | destroying (p c : Nat)
  /-- and its record node out of the tree -/
  | recordFreeing (p n c : Nat)
  deriving DecidableEq, Repr

namespace MemThread

def client : MemThread → Option Nat
  | .idle => none
  | .adding p _ _ _ | .discarding p _ _ | .unmapping p _ _ | .readding p _ _ | .freeing p _ => some p
  | .creating p _ _ _ | .legacy p _ _ | .inserting p _ _ _ | .destroying p _ => some p
  | .recordFreeing p _ _ => some p

/-- The node that the thread has to itself. -/
def node : MemThread → Option Nat
  | .adding _ _ n _ | .discarding _ n _ | .unmapping _ _ n | .readding _ _ n | .freeing _ n => some n
  | .recordFreeing _ n _ => some n
  | .idle | .creating _ _ _ _ | .legacy _ _ _ | .inserting _ _ _ _ | .destroying _ _ => none

/-- The context that the thread creates or destroys. -/
def ctxt : MemThread → Option Nat
  | .adding _ _ _ creation | .discarding _ _ creation => creation.map Prod.snd
  | .creating _ _ c _ | .legacy _ _ c | .inserting _ _ _ c | .destroying _ c | .recordFreeing _ _ c => some c
  | .idle | .unmapping _ _ _ | .readding _ _ _ | .freeing _ _ => none

end MemThread

/-- The clients, their nodes and contexts, and the threads. -/
structure MemSystem where
  node : Nat → MemNode := fun _ => {}
  /-- history: the number of the next node -/
  nextNode : Nat := 0
  priv : Nat → MemPriv := fun _ => {}
  /-- history: the number of clients -/
  numPrivs : Nat := 0
  /-- the last file of the client is closed -/
  closed : Nat → Bool := fun _ => false
  /-- `hgsl->total_mem_size` -/
  totalMemSize : BitVec 64 := 0#64
  ctxt : Nat → MemCtxt := fun _ => {}
  /-- history: the number of the next context -/
  nextCtxt : Nat := 0
  /-- `hgsl->contexts`, by device and context id -/
  contexts : Nat → Nat → Option Nat := fun _ _ => none
  thread : Nat → MemThread := fun _ => .idle
  /-- history: the threads that have made a call -/
  threads : List Nat := []

/-- What can happen next; `t` is the thread that moves. -/
inductive MemAct where
  /-- a new client -/
  | openClient
  /-- `hgsl_ioctl_mem_alloc` or `hgsl_ioctl_mem_map_smmu`, up to the tree; the mapping layer hands out the
      address -/
  | mapNode (t p : Nat) (tree : MemTree) (memdesc : Memdesc)
  /-- the section that adds the node; `fault` says that the call fails before it -/
  | addNode (t : Nat) (fault : Bool)
  /-- the failure path of the call; the unmap returns `ret` -/
  | discardNode (t : Nat) (ret : Int)
  /-- the section of `hgsl_ioctl_mem_free` or `hgsl_ioctl_mem_unmap_smmu` that takes a node out -/
  | findNode (t p : Nat) (tree : MemTree) (memdesc : Memdesc)
  /-- its unmap returns -/
  | unmapNode (t : Nat) (ret : Int)
  /-- the section that puts the node back -/
  | readdNode (t : Nat)
  /-- the node is accounted for and freed -/
  | freeNode (t : Nat)
  /-- `hgsl_ioctl_ctxt_create`, up to the tree; `record` is the descriptor of the record node, if the
      context has one -/
  | createCtxt (t p devId : Nat) (record : Option Memdesc)
  /-- the calls to the backend in `hgsl_hyp_ctxt_create_v2` yield a context id, or fail -/
  | backend (t : Nat) (reply : Option Nat)
  /-- `hgsl_hyp_ctxt_create` yields a context id, or fails -/
  | legacyBackend (t : Nat) (reply : Option Nat)
  /-- the section that puts the context into the table -/
  | insertCtxt (t : Nat)
  /-- `hgsl_ctxt_destroy`, up to `hgsl_remove_context` -/
  | destroyCtxt (t p devId contextId : Nat)
  /-- the section that takes the record node out -/
  | eraseRecord (t : Nat)
  /-- the record node is accounted for, unmapped and freed -/
  | freeRecord (t : Nat) (ret : Int)
  /-- `hgsl_ctxt_destroy` for `_hgsl_release` gets no channel -/
  | abandonRecord (t : Nat)
  /-- the last file of a client is closed -/
  | release (p : Nat)
  /-- `hgsl_cleanup` -/
  | cleanup (p : Nat) (calls : CleanupCalls)

namespace MemSystem

/-! ## State updates -/

def memdesc (s : MemSystem) (n : Nat) : Memdesc := (s.node n).memdesc

def setNode (s : MemSystem) (n : Nat) (d : MemNode) : MemSystem :=
  { s with node := Function.update s.node n d }

def setStage (s : MemSystem) (n : Nat) (stage : NodeStage) : MemSystem :=
  s.setNode n { s.node n with stage := stage }

def setCtxt (s : MemSystem) (c : Nat) (d : MemCtxt) : MemSystem :=
  { s with ctxt := Function.update s.ctxt c d }

def setThread (s : MemSystem) (t : Nat) (th : MemThread) : MemSystem :=
  { s with thread := Function.update s.thread t th, threads := s.threads.insert t }

def setTree (s : MemSystem) (p : Nat) (t : MemTree) (root : List Nat) : MemSystem :=
  { s with priv := Function.update s.priv p ((s.priv p).setTree root t) }

def setContext (s : MemSystem) (devId contextId : Nat) (c : Option Nat) : MemSystem :=
  { s with contexts := Function.update s.contexts devId (Function.update (s.contexts devId) contextId c) }

/-- `hgsl_trace_gpu_mem_total` -/
def hgslTraceGpuMemTotal (s : MemSystem) (p : Nat) (delta : BitVec 64) : MemSystem :=
  { s with
    priv := Function.update s.priv p { s.priv p with totalMemSize := (s.priv p).totalMemSize + delta }
    totalMemSize := s.totalMemSize + delta }

/-- Thread `t` frees node `n`. -/
def freedNode (s : MemSystem) (n : Nat) (u : NodeUser) : MemSystem :=
  s.setNode n { s.node n with stage := .freed, freedBy := (s.node n).freedBy ++ [u] }

/-- An unmap of node `n` has returned `ret`. -/
def unmapped (s : MemSystem) (n : Nat) (ret : Int) : MemSystem :=
  s.setNode n { s.node n with mapped := (s.node n).mapped && ret ≠ 0 }

/-- `rb_erase`: thread `t` has taken node `n` out of a tree. -/
def rbErase (s : MemSystem) (p : Nat) (tree : MemTree) (n t : Nat) (counted : Bool) (u : NodeUser) :
    MemSystem :=
  (s.setTree p tree (((s.priv p).tree tree).erase n)).setNode n
    { s.node n with stage := .held t counted, erasedBy := (s.node n).erasedBy ++ [u] }

/-- A node that thread `t` has allocated and mapped. -/
def newNode (s : MemSystem) (t p : Nat) (memdesc : Memdesc) : MemSystem :=
  { s with nextNode := s.nextNode + 1 }.setNode s.nextNode
    { memdesc := memdesc, priv := p, mapped := true, stage := .held t false }

/-- The thread that is about to unmap and free its node can do no more. -/
def afterDiscard (p : Nat) : Option (Nat × Nat) → MemThread
  | none => .idle
  | some (devId, c) => .legacy p devId c

/-- A call is in progress on client `p`. -/
def busy (s : MemSystem) (p : Nat) : Bool := s.threads.any fun t => (s.thread t).client = some p

/-- The search of `_hgsl_release`: a context of client `p` is in the table. -/
def hasContexts (s : MemSystem) (p : Nat) : Bool :=
  (List.range HGSL_DEVICE_NUM).any fun devId =>
    (List.range HGSL_CONTEXT_NUM).any fun contextId =>
      (s.contexts devId contextId).any fun c => (s.ctxt c).priv = p

/-- The user can make a call on client `p`. -/
def mayCall (s : MemSystem) (t p : Nat) : Bool :=
  s.thread t = .idle && decide (p < s.numPrivs) && !s.closed p

/-! ## The sections -/

/-- The section of `hgsl_ioctl_mem_alloc`, `hgsl_ioctl_mem_map_smmu` or `hgsl_hyp_ctxt_create_v2` that adds
    the node. -/
def addSection (s : MemSystem) (t p : Nat) (tree : MemTree) (n : Nat) (ctxt : Option (Nat × Nat)) :
    MemSystem :=
  let r := hgslMemAddNode s.memdesc ((s.priv p).tree tree) n
  if r.1 ≠ 0 then s.setThread t (.discarding p n ctxt)
  else
    let s₁ := (s.setTree p tree r.2).hgslTraceGpuMemTotal p (s.memdesc n).size64
    match ctxt with
    | none => (s₁.setStage n (.inTree tree)).setThread t .idle
    | some (devId, c) =>
      (s₁.setNode n { s.node n with stage := .record c, recordOf := some c }).setThread t
        (.creating p devId c (some n))

/-- The section of `hgsl_ioctl_mem_free` or `hgsl_ioctl_mem_unmap_smmu` that takes a node out. -/
def findSection (s : MemSystem) (t p : Nat) (tree : MemTree) (d : Memdesc) : MemSystem :=
  match hgslMemFindNodeLocked s.memdesc ((s.priv p).tree tree) d.gpuaddr d.size64 with
  | none => s.setThread t .idle
  | some n => (s.rbErase p tree n t true .ioctl).setThread t (.unmapping p tree n)

/-- The section that puts the node back after its unmap has failed. -/
def readdSection (s : MemSystem) (t p : Nat) (tree : MemTree) (n : Nat) : MemSystem :=
  let r := hgslMemAddNode s.memdesc ((s.priv p).tree tree) n
  if r.1 ≠ 0 then (s.setStage n .leaked).setThread t .idle
  else ((s.setTree p tree r.2).setStage n (.inTree tree)).setThread t .idle

/-- `hgsl_hyp_ctxt_create_v2` from the reply of the backend on, up to the end of the section in its failure
    path. -/
def afterBackend (s : MemSystem) (t p devId c : Nat) (record : Option Nat) (reply : Option Nat) :
    MemSystem :=
  match reply with
  | some contextId =>
    (s.setCtxt c { s.ctxt c with ctxtRecordMemNode := record }).setThread t
      (.inserting p devId contextId c)
  | none =>
    match record with
    | none => s.setThread t (.legacy p devId c)
    | some n =>
      ((s.rbErase p .allocated n t false (.createFailed c)).hgslTraceGpuMemTotal p
        (-(s.memdesc n).size64)).setThread t (.discarding p n (some (devId, c)))

/-- The section of `hgsl_ioctl_ctxt_create`. If the id is taken, the context is freed; its record node
    stays where it is. -/
def insertSection (s : MemSystem) (t devId contextId c : Nat) : MemSystem :=
  match s.contexts devId contextId with
  | none =>
    ((s.setContext devId contextId (some c)).setCtxt c
      { s.ctxt c with stage := .inserted devId contextId }).setThread t .idle
  | some _ =>
    let s₁ := (s.setCtxt c { s.ctxt c with stage := .gone }).setThread t .idle
    match (s.ctxt c).ctxtRecordMemNode with
    | none => s₁
    | some n => s₁.setStage n (.inTree .allocated)

/-- `hgsl_remove_context` -/
def removeSection (s : MemSystem) (t p devId contextId : Nat) : MemSystem :=
  match s.contexts devId contextId with
  | none => s.setThread t .idle
  | some c =>
    if (s.ctxt c).priv = p then
      ((s.setContext devId contextId none).setCtxt c { s.ctxt c with stage := .removed t }).setThread t
        (.destroying p c)
    else s.setThread t .idle

/-- The section of `hgsl_ctxt_destroy` that takes the record node out. -/
def eraseSection (s : MemSystem) (t p c : Nat) : MemSystem :=
  match (s.ctxt c).ctxtRecordMemNode with
  | none => (s.setCtxt c { s.ctxt c with stage := .gone }).setThread t .idle
  | some n =>
    ((s.setCtxt c { s.ctxt c with stage := .freeing t }).rbErase p .allocated n t true
      (.ctxtDestroy c)).setThread t (.recordFreeing p n c)

/-- `hgsl_cleanup` on client `p`, whose nodes it has to itself. -/
def cleanupSection (s : MemSystem) (p : Nat) (calls : CleanupCalls) : MemSystem :=
  let r := hgslCleanup s.memdesc calls (s.priv p) s.totalMemSize
  { s with
    priv := Function.update s.priv p r.priv
    totalMemSize := r.totalMemSize
    node := fun n =>
      if n ∈ r.freed then
        { s.node n with
          stage := .freed
          erasedBy := (s.node n).erasedBy ++ [.cleanup]
          freedBy := (s.node n).freedBy ++ [.cleanup] }
      else s.node n }

/-! ## The steps -/

/-- One step. -/
def step (s : MemSystem) : MemAct → Option MemSystem
  | .openClient => some { s with numPrivs := s.numPrivs + 1 }
  | .mapNode t p tree memdesc =>
    if s.mayCall t p then some ((s.newNode t p memdesc).setThread t (.adding p tree s.nextNode none))
    else none
  | .addNode t fault =>
    match s.thread t with
    | .adding p tree n ctxt =>
      some (if fault then s.setThread t (.discarding p n ctxt) else s.addSection t p tree n ctxt)
    | _ => none
  | .discardNode t ret =>
    match s.thread t with
    | .discarding p n ctxt =>
      let u := ctxt.elim .failed fun c => .createFailed c.2
      some (((s.unmapped n ret).freedNode n u).setThread t (afterDiscard p ctxt))
    | _ => none
  | .findNode t p tree memdesc => if s.mayCall t p then some (s.findSection t p tree memdesc) else none
  | .unmapNode t ret =>
    match s.thread t with
    | .unmapping p tree n =>
      some ((s.unmapped n ret).setThread t (if ret = 0 then .freeing p n else .readding p tree n))
    | _ => none
  | .readdNode t =>
    match s.thread t with
    | .readding p tree n => some (s.readdSection t p tree n)
    | _ => none
  | .freeNode t =>
    match s.thread t with
    | .freeing p n =>
      some (((s.hgslTraceGpuMemTotal p (-(s.memdesc n).size64)).freedNode n .ioctl).setThread t .idle)
    | _ => none
  | .createCtxt t p devId record =>
    if s.mayCall t p ∧ devId < HGSL_DEVICE_NUM then
      let c := s.nextCtxt
      let s₁ := { s with nextCtxt := c + 1 }.setCtxt c { priv := p, stage := .creating t }
      match record with
      | none => some (s₁.setThread t (.creating p devId c none))
      | some memdesc =>
        some ((s₁.newNode t p memdesc).setThread t (.adding p .allocated s.nextNode (some (devId, c))))
    else none
  | .backend t reply =>
    match s.thread t with
    | .creating p devId c record =>
      some (s.afterBackend t p devId c record (reply.filter fun id => id < HGSL_CONTEXT_NUM))
    | _ => none
  | .legacyBackend t reply =>
    match s.thread t with
    | .legacy p devId c =>
      match reply.filter fun id => id < HGSL_CONTEXT_NUM with
      | some contextId => some (s.setThread t (.inserting p devId contextId c))
      | none => some ((s.setCtxt c { s.ctxt c with stage := .gone }).setThread t .idle)
    | _ => none
  | .insertCtxt t =>
    match s.thread t with
    | .inserting _ devId contextId c => some (s.insertSection t devId contextId c)
    | _ => none
  | .destroyCtxt t p devId contextId =>
    if s.thread t = .idle ∧ p < s.numPrivs then some (s.removeSection t p devId contextId) else none
  | .eraseRecord t =>
    match s.thread t with
    | .destroying p c => some (s.eraseSection t p c)
    | _ => none
  | .freeRecord t ret =>
    match s.thread t with
    | .recordFreeing p n c =>
      some (((((s.hgslTraceGpuMemTotal p (-(s.memdesc n).size64)).unmapped n ret).freedNode n
        (.ctxtDestroy c)).setCtxt c { s.ctxt c with stage := .gone, ctxtRecordMemNode := none }).setThread t
        .idle)
    | _ => none
  | .abandonRecord t =>
    match s.thread t with
    | .destroying p c =>
      if s.closed p then
        let s₁ := (s.setCtxt c { s.ctxt c with stage := .gone }).setThread t .idle
        match (s.ctxt c).ctxtRecordMemNode with
        | none => some s₁
        | some n => some (s₁.setStage n (.inTree .allocated))
      else none
    | _ => none
  | .release p => if p < s.numPrivs ∧ !s.busy p then some { s with closed := Function.update s.closed p true } else none
  | .cleanup p calls =>
    if s.closed p ∧ !s.busy p ∧ !s.hasContexts p then some (s.cleanupSection p calls) else none

/-! ## What a step can do -/

/-- The steps, with what each of them finds. -/
inductive Step (s : MemSystem) : MemAct → MemSystem → Prop
  | openClient : Step s .openClient { s with numPrivs := s.numPrivs + 1 }
  | mapNode {t p : Nat} {tree : MemTree} {d : Memdesc} (ht : s.thread t = .idle) (hp : p < s.numPrivs) :
    Step s (.mapNode t p tree d) ((s.newNode t p d).setThread t (.adding p tree s.nextNode none))
  | failNode {t p n : Nat} {tree : MemTree} {creation : Option (Nat × Nat)}
    (ht : s.thread t = .adding p tree n creation) :
    Step s (.addNode t true) (s.setThread t (.discarding p n creation))
  | addNode {t p n : Nat} {tree : MemTree} {creation : Option (Nat × Nat)}
    (ht : s.thread t = .adding p tree n creation) : Step s (.addNode t false) (s.addSection t p tree n creation)
  | discardNode {t p n : Nat} {ret : Int} {creation : Option (Nat × Nat)}
    (ht : s.thread t = .discarding p n creation) :
    Step s (.discardNode t ret) (((s.unmapped n ret).freedNode n
      (creation.elim .failed fun c => .createFailed c.2)).setThread t (afterDiscard p creation))
  | findNode {t p : Nat} {tree : MemTree} {d : Memdesc} (ht : s.thread t = .idle) (hp : p < s.numPrivs) :
    Step s (.findNode t p tree d) (s.findSection t p tree d)
  | unmapNode {t p n : Nat} {ret : Int} {tree : MemTree} (ht : s.thread t = .unmapping p tree n) :
    Step s (.unmapNode t ret)
      ((s.unmapped n ret).setThread t (if ret = 0 then .freeing p n else .readding p tree n))
  | readdNode {t p n : Nat} {tree : MemTree} (ht : s.thread t = .readding p tree n) :
    Step s (.readdNode t) (s.readdSection t p tree n)
  | freeNode {t p n : Nat} (ht : s.thread t = .freeing p n) :
    Step s (.freeNode t)
      (((s.hgslTraceGpuMemTotal p (-(s.memdesc n).size64)).freedNode n .ioctl).setThread t .idle)
  | newCtxt {t p devId : Nat} (ht : s.thread t = .idle) (hp : p < s.numPrivs) (hd : devId < HGSL_DEVICE_NUM) :
    Step s (.createCtxt t p devId none)
      (({ s with nextCtxt := s.nextCtxt + 1 }.setCtxt s.nextCtxt { priv := p, stage := .creating t }).setThread t
        (.creating p devId s.nextCtxt none))
  | newRecord {t p devId : Nat} {d : Memdesc} (ht : s.thread t = .idle) (hp : p < s.numPrivs)
    (hd : devId < HGSL_DEVICE_NUM) :
    Step s (.createCtxt t p devId (some d))
      ((({ s with nextCtxt := s.nextCtxt + 1 }.setCtxt s.nextCtxt { priv := p, stage := .creating t }).newNode t p
        d).setThread t (.adding p .allocated s.nextNode (some (devId, s.nextCtxt))))
  | backend {t p devId c : Nat} {record reply : Option Nat} (ht : s.thread t = .creating p devId c record) :
    Step s (.backend t reply)
      (s.afterBackend t p devId c record (reply.filter fun id => id < HGSL_CONTEXT_NUM))
  | legacyOk {t p devId c i : Nat} {reply : Option Nat} (ht : s.thread t = .legacy p devId c)
    (hi : i < HGSL_CONTEXT_NUM) : Step s (.legacyBackend t reply) (s.setThread t (.inserting p devId i c))
  | legacyFailed {t p devId c : Nat} {reply : Option Nat} (ht : s.thread t = .legacy p devId c) :
    Step s (.legacyBackend t reply) ((s.setCtxt c { s.ctxt c with stage := .gone }).setThread t .idle)
  | insertCtxt {t p devId i c : Nat} (ht : s.thread t = .inserting p devId i c) :
    Step s (.insertCtxt t) (s.insertSection t devId i c)
  | destroyCtxt {t p devId i : Nat} (ht : s.thread t = .idle) (hp : p < s.numPrivs) :
    Step s (.destroyCtxt t p devId i) (s.removeSection t p devId i)
  | eraseRecord {t p c : Nat} (ht : s.thread t = .destroying p c) :
    Step s (.eraseRecord t) (s.eraseSection t p c)
  | freeRecord {t p n c : Nat} {ret : Int} (ht : s.thread t = .recordFreeing p n c) :
    Step s (.freeRecord t ret)
      (((((s.hgslTraceGpuMemTotal p (-(s.memdesc n).size64)).unmapped n ret).freedNode n
        (.ctxtDestroy c)).setCtxt c { s.ctxt c with stage := .gone, ctxtRecordMemNode := none }).setThread t
        .idle)
  | abandonNone {t p c : Nat} (ht : s.thread t = .destroying p c)
    (hlink : (s.ctxt c).ctxtRecordMemNode = none) :
    Step s (.abandonRecord t) ((s.setCtxt c { s.ctxt c with stage := .gone }).setThread t .idle)
  | abandonRecord {t p c n : Nat} (ht : s.thread t = .destroying p c)
    (hlink : (s.ctxt c).ctxtRecordMemNode = some n) :
    Step s (.abandonRecord t)
      (((s.setCtxt c { s.ctxt c with stage := .gone }).setThread t .idle).setStage n (.inTree .allocated))
  | release {p : Nat} : Step s (.release p) { s with closed := Function.update s.closed p true }
  | cleanup {p : Nat} {calls : CleanupCalls} (hbusy : s.busy p = false) (hctxts : s.hasContexts p = false) :
    Step s (.cleanup p calls) (s.cleanupSection p calls)

theorem mayCall_iff {s : MemSystem} {t p : Nat} :
    s.mayCall t p = true ↔ (s.thread t = .idle ∧ p < s.numPrivs) ∧ s.closed p = false := by
  simp [mayCall]

theorem step_cases {s s' : MemSystem} {a : MemAct} (h : s.step a = some s') : Step s a s' := by
  cases a with
  | openClient =>
      obtain rfl := Option.some.inj h
      exact .openClient
  | mapNode t p tree memdesc =>
      obtain ⟨hcall, ⟨⟩⟩ := Option.ite_none_right_eq_some.1 h
      obtain ⟨⟨ht, hp⟩, -⟩ := mayCall_iff.1 hcall
      exact .mapNode ht hp
  | findNode t p tree memdesc =>
      obtain ⟨hcall, ⟨⟩⟩ := Option.ite_none_right_eq_some.1 h
      obtain ⟨⟨ht, hp⟩, -⟩ := mayCall_iff.1 hcall
      exact .findNode ht hp
  | createCtxt t p devId record =>
      obtain ⟨⟨hcall, hd⟩, hnew⟩ := Option.ite_none_right_eq_some.1 h
      obtain ⟨⟨ht, hp⟩, -⟩ := mayCall_iff.1 hcall
      cases record with
      | none =>
          obtain rfl := Option.some.inj hnew
          exact .newCtxt ht hp hd
      | some memdesc =>
          obtain rfl := Option.some.inj hnew
          exact .newRecord ht hp hd
  | destroyCtxt t p devId contextId =>
      obtain ⟨⟨ht, hp⟩, ⟨⟩⟩ := Option.ite_none_right_eq_some.1 h
      exact .destroyCtxt ht hp
  | release p =>
      obtain ⟨-, ⟨⟩⟩ := Option.ite_none_right_eq_some.1 h
      exact .release
  | cleanup p calls =>
      obtain ⟨⟨-, hbusy, hctxts⟩, ⟨⟩⟩ := Option.ite_none_right_eq_some.1 h
      exact .cleanup (by simpa using hbusy) (by simpa using hctxts)
  | addNode t fault =>
      simp only [step] at h
      split at h
      · next ht =>
          obtain rfl := Option.some.inj h
          cases fault
          · exact .addNode ht
          · exact .failNode ht
      · cases h
  | legacyBackend t reply =>
      simp only [step] at h
      split at h
      · next ht =>
          split at h
          · next i hi =>
              obtain rfl := Option.some.inj h
              exact .legacyOk ht (by simpa using (Option.filter_eq_some_iff.1 hi).2)
          · obtain rfl := Option.some.inj h
            exact .legacyFailed ht
      · cases h
  | abandonRecord t =>
      simp only [step] at h
      split at h
      · next ht =>
          obtain ⟨-, h⟩ := Option.ite_none_right_eq_some.1 h
          split at h
          · next hlink =>
              obtain rfl := Option.some.inj h
              exact .abandonNone ht hlink
          · next n hlink =>
              obtain rfl := Option.some.inj h
              exact .abandonRecord ht hlink
      · cases h
  | discardNode t ret =>
      simp only [step] at h
      split at h
      · next ht =>
          obtain rfl := Option.some.inj h
          exact .discardNode ht
      · cases h
  | unmapNode t ret =>
      simp only [step] at h
      split at h
      · next ht =>
          obtain rfl := Option.some.inj h
          exact .unmapNode ht
      · cases h
  | readdNode t =>
      simp only [step] at h
      split at h
      · next ht =>
          obtain rfl := Option.some.inj h
          exact .readdNode ht
      · cases h
  | freeNode t =>
      simp only [step] at h
      split at h
      · next ht =>
          obtain rfl := Option.some.inj h
          exact .freeNode ht
      · cases h
  | backend t reply =>
      simp only [step] at h
      split at h
      · next ht =>
          obtain rfl := Option.some.inj h
          exact .backend ht
      · cases h
  | insertCtxt t =>
      simp only [step] at h
      split at h
      · next ht =>
          obtain rfl := Option.some.inj h
          exact .insertCtxt ht
      · cases h
  | eraseRecord t =>
      simp only [step] at h
      split at h
      · next ht =>
          obtain rfl := Option.some.inj h
          exact .eraseRecord ht
      · cases h
  | freeRecord t ret =>
      simp only [step] at h
      split at h
      · next ht =>
          obtain rfl := Option.some.inj h
          exact .freeRecord ht
      · cases h

end MemSystem

end Hgsl
