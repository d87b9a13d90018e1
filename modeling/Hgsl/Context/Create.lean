import Hgsl.Context.Shadow
import Hgsl.Memory.Nodes

set_option autoImplicit false

/-! # Creation of a context and its error exits

`hgsl_ioctl_ctxt_create` registers a new context with the back end, in the list of event groups, with a doorbell
queue, with a timeline and in the table, in this order. The table and the list of event groups are those that the
call finds; what it meets on its way is an argument. Everything that the call makes is counted, and so is what it
gives back. -/

namespace Hgsl

/-- The context that is being created, or another one -/
inductive CtxtRef where
  | new
  | other (n : Nat)
  deriving DecidableEq, Repr

/-- What a call has made and given back of one kind -/
structure MadeFreed where
  made : Nat := 0
  freed : Nat := 0
  deriving DecidableEq, Repr

/-- A destroy at the back end, with the context that the table has there at that time -/
structure BackendDestroy where
  devId : Nat
  contextId : Nat
  owner : Option CtxtRef
  deriving DecidableEq, Repr

/-- The tables that a call finds -/
structure CtxtTables where
  /-- `hgsl->contexts`, by device and context id -/
  contexts : Nat → Nat → Option Nat
  /-- `hgsl->event_groups`, by their contexts -/
  eventGroups : List Nat

/-- The driver and the new context during the call -/
structure CtxtCreation where
  contexts : Nat → Nat → Option CtxtRef
  eventGroups : List CtxtRef
  /-- `hgsl_hnd2id(params->devhandle)` -/
  devId : Nat
  /-- `context_id` -/
  contextId : Nat := 0
  shadow : ShadowCtxt := {}
  tcsrIdx : Int := 0
  dbSignal : BitVec 32 := 0#32
  /-- `dbcq` is set -/
  dbcq : Bool := false
  /-- `dbq` is set -/
  dbq : Bool := false
  /-- `timeline` is set -/
  timeline : Bool := false
  /-- what the call has written to `HGSL_DBQ_CONTEXT_DESTROY_OFFSET_IN_DWORD` of the doorbell queue -/
  dbqDestroyed : Option Bool := none
  /-- history -/
  ctxts : MadeFreed := {}
  /-- history -/
  timelines : MadeFreed := {}
  /-- history -/
  dbcqs : MadeFreed := {}
  /-- history -/
  destroys : List BackendDestroy := []

/-- `hgsl_hyp_ctxt_create_v1` or `hgsl_hyp_ctxt_create_v2` -/
inductive FirstCreate where
  | v1 (r : ShadowCtxt.CreateV1)
  | v2 (r : ShadowCtxt.CreateV2)
  deriving DecidableEq, Repr

/-- What `hgsl_ctxt_create_dbq` meets. -/
structure DbqReply where
  queryDbcq : Int
  dbSignal : BitVec 32
  queueGmuaddr : BitVec 32
  irqBitIdx : BitVec 32
  dbcqZalloc : Bool
  /-- `hgsl_init_gmugos` or `hgsl_init_db_signal` -/
  dbcqSignal : Int
  dbqCreate : ReplyRead (BitVec 32)
  /-- `hgsl_dbq_init`, and the `tcsr_idx` of the queue -/
  dbqInit : Int
  tcsrIdx : Int
  deriving DecidableEq, Repr

/-- What a call of `hgsl_ioctl_ctxt_create` meets. -/
structure CreateCall where
  devhandle : BitVec 32
  channelGet : Int := 0
  zalloc : Bool := true
  dbqOff : Bool
  first : FirstCreate
  fallback : ShadowCtxt.Fallback
  dbq : DbqReply
  /-- `kzalloc` in `hgsl_hsync_timeline_create` -/
  timelineAlloc : Bool := true
  deriving DecidableEq, Repr

/-- The create without the queue of the doorbells that the call does not want -/
def CreateCall.firstCreate (c : CreateCall) : FirstCreate :=
  match c.first with
  | .v1 r => .v1 { r with dbqOff := c.dbqOff }
  | .v2 r => .v2 r

/-- Where it stands at `out` -/
def FirstCreate.atOut : FirstCreate → ShadowCtxt.AtOut
  | .v1 r => ShadowCtxt.v1Body {} r
  | .v2 r => ShadowCtxt.v2Body {} r

/-- What it leaves -/
def FirstCreate.created : FirstCreate → ShadowCtxt.Created
  | .v1 r => ShadowCtxt.hgslHypCtxtCreateV1 {} r
  | .v2 r => ShadowCtxt.hgslHypCtxtCreateV2 {} r

/-- The context of the back end that its error path destroys -/
def FirstCreate.destroyed (f : FirstCreate) : Option Nat :=
  if f.atOut.ret ≠ 0 ∧ f.atOut.ctxthandle.toNat < HGSL_CONTEXT_NUM then some f.atOut.ctxthandle.toNat else none

/-- `dbq_info` behind it -/
def FirstCreate.dbqInfo : FirstCreate → BitVec 32
  | .v1 r =>
    if r.dbqOff = false ∧ r.rval = ⟨0, GSL_SUCCESS⟩ ∧ r.dbqInfo.ret = 0 then r.dbqInfo.val else -1#32
  | .v2 _ => -1#32

def HGSL_DB_SIGNAL_GMU_GOS_0 : Nat := 5
def HGSL_DB_SIGNAL_GMU_GOS_7 : Nat := 12
def HGSL_DB_SIGNAL_MAX : Nat := HGSL_DB_SIGNAL_GMU_GOS_7
def GLB_DB_DEST_TS_RETIRE_IRQ_ID : BitVec 32 := 8#32
def DB_SIGNAL_GLOBAL_0 : Nat := 1

/-- `is_gmugos` -/
def isGmugos (dbSignal : BitVec 32) : Bool :=
  HGSL_DB_SIGNAL_GMU_GOS_0 ≤ dbSignal.toNat && dbSignal.toNat ≤ HGSL_DB_SIGNAL_GMU_GOS_7

/-- `is_global_db` -/
def isGlobalDb (tcsrIdx : Int) : Bool := 0 ≤ tcsrIdx

namespace CtxtCreation

/-- The state that a call finds -/
def start (t : CtxtTables) (devId : Nat) : CtxtCreation :=
  { contexts := fun d i => (t.contexts d i).map .other, eventGroups := t.eventGroups.map .other, devId := devId }

/-! ## The steps of a creation -/

/-- `hgsl_hyp_ctxt_destroy` -/
def hgslHypCtxtDestroy (s : CtxtCreation) (contextId : Nat) : CtxtCreation :=
  { s with destroys := s.destroys ++ [⟨s.devId, contextId, s.contexts s.devId contextId⟩] }

/-- `hgsl_hyp_ctxt_create_v1` or `hgsl_hyp_ctxt_create_v2` -/
def firstCreate (s : CtxtCreation) (f : FirstCreate) : CtxtCreation :=
  let s := match f.destroyed with
    | some id => s.hgslHypCtxtDestroy id
    | none => s
  { s with shadow := f.created.state }

/-- `hgsl_add_event_group` -/
def hgslAddEventGroup (s : CtxtCreation) : CtxtCreation :=
  { s with eventGroups := s.eventGroups ++ [.new] }

/-- `hgsl_del_event_group` -/
def hgslDelEventGroup (s : CtxtCreation) : CtxtCreation :=
  { s with eventGroups := s.eventGroups.erase .new }

/-- `hgsl_dbcq_init` -/
def hgslDbcqInit (s : CtxtCreation) (r : DbqReply) : CtxtCreation :=
  if r.dbSignal = 0#32 ∨ HGSL_DB_SIGNAL_MAX < r.dbSignal.toNat ∨ r.queueGmuaddr = 0#32 ∨
      r.irqBitIdx = GLB_DB_DEST_TS_RETIRE_IRQ_ID then s
  else if !r.dbcqZalloc then s
  else if r.dbcqSignal ≠ 0 then { s with dbcqs := ⟨s.dbcqs.made + 1, s.dbcqs.freed + 1⟩ }
  else
    { s with
      dbcqs := ⟨s.dbcqs.made + 1, s.dbcqs.freed⟩
      dbcq := true
      tcsrIdx := if isGmugos r.dbSignal then -1 else r.dbSignal.toNat - DB_SIGNAL_GLOBAL_0
      dbSignal := r.dbSignal }

/-- `hgsl_dbcq_close` -/
def hgslDbcqClose (s : CtxtCreation) : CtxtCreation :=
  if s.dbcq then { s with dbcq := false, dbcqs := ⟨s.dbcqs.made, s.dbcqs.freed + 1⟩ } else s

/-- `hgsl_ctxt_create_dbq` -/
def hgslCtxtCreateDbq (s : CtxtCreation) (r : DbqReply) (dbqInfo : BitVec 32) (dbqInfoChecked : Bool) :
    CtxtCreation :=
  if r.queryDbcq = 0 then s.hgslDbcqInit r
  else if !dbqInfoChecked ∧ r.dbqCreate.ret ≠ 0 then s
  else
    let info := if dbqInfoChecked then dbqInfo else r.dbqCreate.val
    if info = -1#32 then s
    else if r.dbqInit ≠ 0 then s
    else { s with dbq := true, tcsrIdx := r.tcsrIdx, dbSignal := info &&& 0xFFFF#32, dbqDestroyed := some false }

/-- `hgsl_use_gmugos_or_global_dbq` -/
def hgslUseGmugosOrGlobalDbq (s : CtxtCreation) : Bool :=
  s.shadow.shadowTs && (s.dbq || s.dbcq) && (isGlobalDb s.tcsrIdx || isGmugos s.dbSignal)

/-- `hgsl_hsync_timeline_create` -/
def hgslHsyncTimelineCreate (s : CtxtCreation) (alloc : Bool) : CtxtCreation × Int :=
  if !alloc then (s, -ENOMEM)
  else ({ s with timeline := true, timelines := ⟨s.timelines.made + 1, s.timelines.freed⟩ }, 0)

/-- `_cleanup_shadow` -/
def cleanupShadow (s : CtxtCreation) : CtxtCreation := { s with shadow := s.shadow.cleanupShadow }

/-- The end of the new context -/
def freeCtxt (s : CtxtCreation) : CtxtCreation := { s with ctxts := ⟨s.ctxts.made, s.ctxts.freed + 1⟩ }

/-- `_destroy_context` -/
def destroyContext (s : CtxtCreation) : CtxtCreation :=
  let s := if s.timeline then { s with timelines := ⟨s.timelines.made, s.timelines.freed + 1⟩ } else s
  if s.dbq then { s with dbqDestroyed := some true } else s

/-- The context record in `hgsl_ctxt_destroy` -/
def removeRecord (s : CtxtCreation) : CtxtCreation :=
  match s.shadow.ctxtRecordMemNode with
  | some record => { s with shadow := s.shadow.v2UndoRecord record true }
  | none => s

/-- `hgsl_ctxt_destroy` for the context that the call has just put into the table -/
def hgslCtxtDestroy (s : CtxtCreation) : CtxtCreation :=
  let row := Function.update (s.contexts s.devId) s.contextId none
  let s := { s with contexts := Function.update s.contexts s.devId row }
  let s := s.destroyContext.hgslDelEventGroup
  let s := if !s.shadow.isFeShadow then s.cleanupShadow else s
  let s := (s.hgslHypCtxtDestroy s.contextId).removeRecord.hgslDbcqClose
  let s := if s.shadow.isFeShadow then s.cleanupShadow else s
  s.freeCtxt

/-- The error exit of `hgsl_ioctl_ctxt_create` for a context that is not in the table -/
def discard (s : CtxtCreation) : CtxtCreation :=
  let s := if !s.shadow.isFeShadow then s.cleanupShadow else s
  let s := (s.hgslHypCtxtDestroy s.contextId).hgslDbcqClose
  let s := if s.shadow.isFeShadow then s.cleanupShadow else s
  s.freeCtxt

/-- `out` of `hgsl_ioctl_ctxt_create` -/
def createOut (s : CtxtCreation) (ctxtCreated : Bool) (ctxthandle : BitVec 32) (ret : Int) : CtxtCreation × Int :=
  if ret ≠ 0 then
    if ctxtCreated then (s.hgslCtxtDestroy, ret)
    else if ctxthandle.toNat < HGSL_CONTEXT_NUM then (s.discard, ret)
    else (s, ret)
  else (s, ret)

/-- `hgsl_ioctl_ctxt_create` from the id of the context to its timeline -/
def register (s : CtxtCreation) (c : CreateCall) (contextId : BitVec 32) (dbqInfoChecked : Bool) : CtxtCreation :=
  let s := { s with contextId := contextId.toNat }.hgslAddEventGroup
  let s := { s with shadow := s.shadow.hgslGetShadowtsMem c.fallback }
  if c.dbqOff then s else s.hgslCtxtCreateDbq c.dbq c.firstCreate.dbqInfo dbqInfoChecked

/-- The new context gets its place in the table. -/
def tableInsert (s : CtxtCreation) : CtxtCreation :=
  let row := Function.update (s.contexts s.devId) s.contextId (some .new)
  { s with contexts := Function.update s.contexts s.devId row }

/-- `hgsl_ioctl_ctxt_create` from the timeline on -/
def insert (s : CtxtCreation) (c : CreateCall) (contextId : BitVec 32) : CtxtCreation × Int :=
  let t := if s.hgslUseGmugosOrGlobalDbq then s.hgslHsyncTimelineCreate c.timelineAlloc else (s, 0)
  let s := t.1
  if (s.contexts s.devId s.contextId).isSome then s.createOut false contextId (-EBUSY)
  else s.tableInsert.createOut true contextId t.2

/-- `hgsl_ioctl_ctxt_create` behind the allocation of the context -/
def create (s : CtxtCreation) (c : CreateCall) : CtxtCreation × Int :=
  let f := c.firstCreate.created
  let s := s.firstCreate c.firstCreate
  if f.ret = 0 then (s.register c f.ctxthandle true).insert c f.ctxthandle
  else if c.fallback.legacy.ret ≠ 0 then s.createOut false f.ctxthandle c.fallback.legacy.ret
  else if HGSL_CONTEXT_NUM ≤ c.fallback.legacy.val.toNat then s.createOut false c.fallback.legacy.val (-EINVAL)
  else (s.register c c.fallback.legacy.val false).insert c c.fallback.legacy.val

end CtxtCreation

/-- `hgsl_ioctl_ctxt_create` -/
def hgslIoctlCtxtCreate (t : CtxtTables) (c : CreateCall) : CtxtCreation × Int :=
  let devId := (hgslHnd2id c.devhandle).toNat
  let s := CtxtCreation.start t devId
  if HGSL_DEVICE_NUM ≤ devId then (s, -EINVAL)
  else if c.channelGet ≠ 0 then (s, c.channelGet)
  else if !c.zalloc then (s, -ENOMEM)
  else { s with ctxts := ⟨1, 0⟩ }.create c

end Hgsl
