import Hgsl.Timestamp
import Hgsl.Lib.RefCount
import Hgsl.Lib.Trace
import Mathlib.Logic.Function.Basic

set_option autoImplicit false

/-! # The context table

The table `hgsl->contexts`, the reference counts of its contexts and the three kinds of calls that use
them: those that look a context up, use it and put it, `hgsl_ioctl_ctxt_create`, and
`hgsl_ctxt_destroy`. Any number of threads act for any number of clients. A section under `ctxt_lock` is
one step, and so is each get and put of a reference; whoever drops the last reference runs
`_destroy_context` in steps of its own.

A context is known by a number of its own, so that one created with the id of an earlier one is
another. Left out: what a context is used for, and the backend's side of creation and destruction. -/

namespace Hgsl

/-- `GSL_HANDLE_NULL` -/
def GSL_HANDLE_NULL : BitVec 32 := 0#32

/-- `GSL_HANDLE_DEV1` -/
def GSL_HANDLE_DEV1 : BitVec 32 := 2#32

/-- `hgsl_hnd2id` -/
def hgslHnd2id (devHnd : BitVec 32) : BitVec 32 :=
  if devHnd = GSL_HANDLE_NULL then BitVec.allOnes 32
  else if devHnd = GSL_HANDLE_DEV1 then 1#32
  else 0#32

/-- `HGSL_DEVICE_NUM` -/
def HGSL_DEVICE_NUM : Nat := 2

/-- `HGSL_CONTEXT_NUM` -/
def HGSL_CONTEXT_NUM : Nat := 256

/-- Who holds a reference to a context. -/
inductive CtxtHolder where
  /-- the first reference, which goes from `kref_init` to the table and on to the call that removes the
      context -/
  | first
  | thread (t : Nat)
  deriving DecidableEq, Repr

/-- How far the first reference of a context has come. -/
inductive CtxtStage where
  | unused
  | creating (t : Nat)
  | inserted (devId contextId : Nat)
  | removed (t : Nat)
  | dropped (t : Nat)
  | freed
  /-- its creation failed -/
  | discarded
  deriving DecidableEq, Repr

/-- `struct hgsl_context` -/
structure CtxtObj where
  /-- the client that created it -/
  priv : Nat := 0
  kref : RefCount CtxtHolder := ⟨0, []⟩
  destroyed : Bool := false
  /-- history -/
  stage : CtxtStage := .unused
  /-- history: the calls that removed it from the table, each with its client -/
  removedBy : List (Nat × Nat) := []
  /-- history: the thread that is in `_destroy_context` -/
  dying : Option Nat := none
  /-- history: how often `_destroy_context` was run -/
  destroys : Nat := 0
  /-- history: the calls that freed it -/
  freedBy : List Nat := []
  deriving DecidableEq, Repr

/-- Where a thread stands. `call` is the number of its call of `hgsl_ctxt_destroy`, `o` a context. -/
inductive CtxtThread where
  | idle
  /-- it has a reference -/
  | holding (o : Nat)
  /-- in `hgsl_get_context_owner`, about to look at the owner -/
  | checking (client o : Nat)
  /-- in `hgsl_ioctl_ctxt_create`, about to insert the context -/
  | creating (devId contextId o : Nat)
  /-- in `hgsl_ctxt_destroy`, with the reference that it looked up -/
  | looking (client : Nat) (devHnd contextId : BitVec 32) (call o : Nat)
  /-- that reference is dropped -/
  | removing (client : Nat) (devHnd contextId : BitVec 32) (call : Nat)
  /-- the context is out of the table -/
  | removed (call o : Nat)
  /-- in `hgsl_ctxt_detach_drawobjs` with a reference of its own -/
  | detaching (call o : Nat)
  /-- about to drop the first reference -/
  | detached (call o : Nat)
  /-- it spins on `destroyed` -/
  | waiting (call o : Nat)
  | freeing (call o : Nat)
  /-- in `_destroy_context`, and then at `next` -/
  | destroying (o : Nat) (next : CtxtThread)
  deriving DecidableEq, Repr

/-- The contexts, the table and the threads. -/
structure CtxtTable where
  /-- `hgsl->contexts`, by device and context id -/
  contexts : Nat → Nat → Option Nat := fun _ _ => none
  obj : Nat → CtxtObj := fun _ => {}
  thread : Nat → CtxtThread := fun _ => .idle
  /-- history: the number of the next context -/
  nextObj : Nat := 0
  /-- history: the number of the next call of `hgsl_ctxt_destroy` -/
  nextCall : Nat := 0

/-- What can happen next; `t` is the thread that moves. -/
inductive CtxtAct where
  /-- `hgsl_get_context` -/
  | get (t : Nat) (devHnd contextId : BitVec 32)
  /-- `hgsl_get_context_owner` for a client, up to its look at the owner -/
  | getOwner (t client : Nat) (devHnd contextId : BitVec 32)
  /-- it looks at the owner -/
  | checkOwner (t : Nat)
  /-- `hgsl_put_context` -/
  | put (t : Nat)
  /-- `hgsl_ioctl_ctxt_create` for a client, up to the insertion; the backend chose `contextId` -/
  | create (t client : Nat) (devHnd contextId : BitVec 32)
  /-- it inserts the context -/
  | insert (t : Nat)
  /-- `hgsl_ctxt_destroy` for a client looks the context up -/
  | destroy (t client : Nat) (devHnd contextId : BitVec 32)
  /-- it drops that reference; `retry` says that its wait for the ibdesc buffer failed and it can be
      called again -/
  | putLooked (t : Nat) (retry : Bool)
  /-- `hgsl_remove_context` -/
  | remove (t : Nat)
  /-- `hgsl_ctxt_detach_drawobjs` takes a reference -/
  | detach (t : Nat)
  /-- and drops it -/
  | putDetached (t : Nat)
  /-- `hgsl_ctxt_destroy` drops the first reference -/
  | putRemoved (t : Nat)
  /-- it sees `destroyed` -/
  | seeDestroyed (t : Nat)
  /-- it frees the context -/
  | free (t : Nat)
  /-- `_destroy_context` sets `destroyed` -/
  | setDestroyed (t : Nat)
  deriving DecidableEq, Repr

namespace CtxtTable

/-! ## State updates -/

def setThread (s : CtxtTable) (t : Nat) (th : CtxtThread) : CtxtTable :=
  { s with thread := Function.update s.thread t th }

def setObj (s : CtxtTable) (o : Nat) (c : CtxtObj) : CtxtTable :=
  { s with obj := Function.update s.obj o c }

def setContext (s : CtxtTable) (devId contextId : Nat) (o : Option Nat) : CtxtTable :=
  let row := Function.update (s.contexts devId) contextId o
  { s with contexts := Function.update s.contexts devId row }

theorem contexts_setContext (s : CtxtTable) (d i d' i' : Nat) (o : Option Nat) :
    (s.setContext d i o).contexts d' i' = if d' = d ∧ i' = i then o else s.contexts d' i' := by
  unfold setContext
  by_cases hd : d' = d
  · subst hd
    by_cases hi : i' = i <;> simp [hi]
  · simp [hd]

/-! ## The functions -/

/-- The lookup of `hgsl_get_context`. -/
def lookup (s : CtxtTable) (devHnd contextId : BitVec 32) : Option Nat :=
  if HGSL_DEVICE_NUM ≤ (hgslHnd2id devHnd).toNat then none
  else if contextId.toNat < HGSL_CONTEXT_NUM then
    s.contexts (hgslHnd2id devHnd).toNat contextId.toNat
  else none

/-- A found context gets a reference for thread `t`. -/
def getContext (s : CtxtTable) (t o : Nat) : CtxtTable :=
  s.setObj o { s.obj o with kref := (s.obj o).kref.get (.thread t) }

/-- `hgsl_put_context`: whoever drops the last reference goes on in `_destroy_context`. -/
def putContext (s : CtxtTable) (t o : Nat) (holder : CtxtHolder) (next : CtxtThread) : CtxtTable :=
  let c := s.obj o
  if c.kref.count = 1 then
    (s.setObj o { c with kref := c.kref.put holder, dying := some t }).setThread t (.destroying o next)
  else (s.setObj o { c with kref := c.kref.put holder }).setThread t next

/-- The section of `hgsl_remove_context`. -/
def removeContext (s : CtxtTable) (t client : Nat) (devHnd contextId : BitVec 32) (call : Nat) :
    CtxtTable :=
  if HGSL_DEVICE_NUM ≤ (hgslHnd2id devHnd).toNat then s.setThread t .idle
  else
    match s.contexts (hgslHnd2id devHnd).toNat contextId.toNat with
    | none => s.setThread t .idle
    | some o =>
      let c := s.obj o
      if c.priv = client then
        ((s.setContext (hgslHnd2id devHnd).toNat contextId.toNat none).setObj o
          { c with stage := .removed t, removedBy := c.removedBy ++ [(call, client)] }).setThread t
            (.removed call o)
      else s.setThread t .idle

/-- `hgsl_ioctl_ctxt_create` up to the insertion. -/
def createContext (s : CtxtTable) (t client : Nat) (devHnd contextId : BitVec 32) : CtxtTable :=
  if HGSL_DEVICE_NUM ≤ (hgslHnd2id devHnd).toNat then s
  else if HGSL_CONTEXT_NUM ≤ contextId.toNat then s
  else
    ({ s with nextObj := s.nextObj + 1 }.setObj s.nextObj
      { priv := client, kref := .init .first, stage := .creating t }).setThread t
        (.creating (hgslHnd2id devHnd).toNat contextId.toNat s.nextObj)

/-- The section of `hgsl_ioctl_ctxt_create`, and what follows if the id is taken. -/
def insertContext (s : CtxtTable) (t devId contextId o : Nat) : CtxtTable :=
  match s.contexts devId contextId with
  | some _ => (s.setObj o { s.obj o with stage := .discarded }).setThread t .idle
  | none =>
    ((s.setContext devId contextId (some o)).setObj o
      { s.obj o with stage := .inserted devId contextId }).setThread t .idle

/-! ## The steps -/

/-- One step. -/
def step (s : CtxtTable) : CtxtAct → Option CtxtTable
  | .get t devHnd contextId =>
    match s.thread t with
    | .idle =>
      match s.lookup devHnd contextId with
      | none => some s
      | some o => some ((s.getContext t o).setThread t (.holding o))
    | _ => none
  | .getOwner t client devHnd contextId =>
    match s.thread t with
    | .idle =>
      match s.lookup devHnd contextId with
      | none => some s
      | some o => some ((s.getContext t o).setThread t (.checking client o))
    | _ => none
  | .checkOwner t =>
    match s.thread t with
    | .checking client o =>
      if (s.obj o).priv = client then some (s.setThread t (.holding o))
      else some (s.putContext t o (.thread t) .idle)
    | _ => none
  | .put t =>
    match s.thread t with
    | .holding o => some (s.putContext t o (.thread t) .idle)
    | _ => none
  | .create t client devHnd contextId =>
    match s.thread t with
    | .idle => some (s.createContext t client devHnd contextId)
    | _ => none
  | .insert t =>
    match s.thread t with
    | .creating devId contextId o => some (s.insertContext t devId contextId o)
    | _ => none
  | .destroy t client devHnd contextId =>
    match s.thread t with
    | .idle =>
      match s.lookup devHnd contextId with
      | none => some s
      | some o =>
        some ({ s.getContext t o with nextCall := s.nextCall + 1 }.setThread t
          (.looking client devHnd contextId s.nextCall o))
    | _ => none
  | .putLooked t retry =>
    match s.thread t with
    | .looking client devHnd contextId call o =>
      some (s.putContext t o (.thread t)
        (if retry then .idle else .removing client devHnd contextId call))
    | _ => none
  | .remove t =>
    match s.thread t with
    | .removing client devHnd contextId call =>
      some (s.removeContext t client devHnd contextId call)
    | _ => none
  | .detach t =>
    match s.thread t with
    | .removed call o =>
      match (s.obj o).kref.getUnlessZero (.thread t) with
      | some kref => some ((s.setObj o { s.obj o with kref := kref }).setThread t (.detaching call o))
      | none => some (s.setThread t (.detached call o))
    | _ => none
  | .putDetached t =>
    match s.thread t with
    | .detaching call o => some (s.putContext t o (.thread t) (.detached call o))
    | _ => none
  | .putRemoved t =>
    match s.thread t with
    | .detached call o =>
      some ((s.setObj o { s.obj o with stage := .dropped t }).putContext t o .first (.waiting call o))
    | _ => none
  | .seeDestroyed t =>
    match s.thread t with
    | .waiting call o => if (s.obj o).destroyed then some (s.setThread t (.freeing call o)) else none
    | _ => none
  | .free t =>
    match s.thread t with
    | .freeing call o =>
      some ((s.setObj o { s.obj o with stage := .freed, freedBy := (s.obj o).freedBy ++ [call] }).setThread
        t .idle)
    | _ => none
  | .setDestroyed t =>
    match s.thread t with
    | .destroying o next =>
      let c := s.obj o
      some ((s.setObj o { c with destroyed := true, dying := none, destroys := c.destroys + 1 }).setThread
        t next)
    | _ => none

end CtxtTable

end Hgsl
