import Hgsl.Context.Shadow
import Hgsl.Lib.Custody

set_option autoImplicit false

/-! # Exporting the queues to the backend

When the driver is probed, it allocates the memory of two queues for each device, one shared with RGS and one with
the GMU, and exports both to the backend (`hgsl_allocate_per_device_ipc_queues`, `hgsl_hyp_export_ipc_queue`). A
failure takes back what was done before it. This is one device; what the calls on the way return is an argument.

Left out: the headers that are written into the queues, the channel (see the pool), and the CPU access to the
buffers. -/

namespace Hgsl

/-- `HGSL_IPCQ_RGS_IDX` and `HGSL_IPCQ_GMU_IDX` -/
inductive IpcqIdx where
  | rgs
  | gmu
  deriving DecidableEq, Repr

/-- `struct hgsl_gvm_settings`, what the driver takes from it here -/
structure GvmSettings where
  irqIndex : BitVec 32
  deriving DecidableEq, Repr

/-- What is acquired: memory nodes and exports. -/
inductive IpcqResource where
  | node (n : Nat)
  | exported (id : BitVec 32)
  deriving DecidableEq, Repr

/-- The fields of `struct qcom_hgsl` for one device. At first they are zero. -/
structure IpcqDevice where
  /-- `ipcq_memnode`, by its two indices -/
  rgsNode : Option Nat := none
  gmuNode : Option Nat := none
  /-- `ipcq_memnode_vmap` holds a mapping -/
  rgsVmap : Bool := false
  gmuVmap : Bool := false
  /-- in `ipcq_settings` -/
  pkmdExportId : BitVec 32 := 0#32
  gmuExportId : BitVec 32 := 0#32
  gvmSettings : GvmSettings := ⟨0#32⟩
  irqIndex : BitVec 32 := 0#32
  deriving DecidableEq, Repr

/-- What a function returns, how it leaves the device, and what it acquires and releases. -/
structure IpcqResult where
  ret : Int
  dev : IpcqDevice
  events : List (Custody.Event IpcqResource)
  deriving DecidableEq, Repr

/-- What the calls of `hgsl_init_ipcq_memnode` return. -/
structure MemnodeCalls where
  memNodeZalloc : Option Nat
  sharedmemAlloc : Int
  vmap : Int

/-- What the calls of `hgsl_hyp_export_ipc_queue` return. -/
structure ExportCalls where
  channelGet : Int
  /-- the two calls of `habmm_export` -/
  pkmd : ReplyRead (BitVec 32)
  gmu : ReplyRead (BitVec 32)
  write : Int
  transact : Int
  /-- the reply: the status of the backend, and the settings -/
  rval : ReplyRead Int
  gvm : ReplyRead GvmSettings

/-! ## The memory of the queues -/

namespace IpcqDevice

def memnode (d : IpcqDevice) : IpcqIdx → Option Nat
  | .rgs => d.rgsNode
  | .gmu => d.gmuNode

def setMemnode (d : IpcqDevice) (n : Option Nat) : IpcqIdx → IpcqDevice
  | .rgs => { d with rgsNode := n }
  | .gmu => { d with gmuNode := n }

def setVmap (d : IpcqDevice) (b : Bool) : IpcqIdx → IpcqDevice
  | .rgs => { d with rgsVmap := b }
  | .gmu => { d with gmuVmap := b }

end IpcqDevice

/-- `hgsl_init_ipcq_memnode` -/
def hgslInitIpcqMemnode (c : MemnodeCalls) (q : IpcqIdx) (d : IpcqDevice) : IpcqResult :=
  match c.memNodeZalloc with
  | none => { ret := -ENOMEM, dev := d, events := [] }
  | some n =>
    if c.sharedmemAlloc ≠ 0 then
      -- without memory there is no `dma_buf` to unmap
      { ret := c.sharedmemAlloc, dev := d, events := [.acquire (.node n), .release (.node n)] }
    else if c.vmap ≠ 0 then
      { ret := c.vmap, dev := d.setVmap false q, events := [.acquire (.node n), .release (.node n)] }
    else { ret := 0, dev := (d.setVmap true q).setMemnode (some n) q, events := [.acquire (.node n)] }

/-- `hgsl_free_per_device_ipc_queues` -/
def hgslFreePerDeviceIpcQueues (q : IpcqIdx) (d : IpcqDevice) : IpcqDevice × List (Custody.Event IpcqResource) :=
  match d.memnode q with
  | none => (d, [])
  | some n => ((d.setVmap false q).setMemnode none q, [.release (.node n)])

/-! ## The export -/

/-- `RPC_GVM_INIT` in `hgsl_hyp_export_ipc_queue`: how it leaves `ret`, and the settings if they are read. -/
def gvmInit (e : ExportCalls) : Int × Option GvmSettings :=
  if e.write ≠ 0 then (e.write, none)
  else if e.transact ≠ 0 then (e.transact, none)
  -- what this read returns is not kept: `ret` is still that of the transaction
  else if e.rval.ret ≠ 0 then (e.transact, none)
  else if e.rval.val ≠ 0 then (e.rval.val, none)
  else if e.gvm.ret ≠ 0 then (e.gvm.ret, none)
  else (0, some e.gvm.val)

/-- The calls of `hgsl_hyp_export_ipc_queue` from the first export on, and whether they end at its label `err`. -/
def exportCalls (e : ExportCalls) (d : IpcqDevice) : IpcqResult × Bool :=
  if e.pkmd.ret ≠ 0 then ({ ret := e.pkmd.ret, dev := d, events := [] }, true)
  else
    let d₁ := { d with pkmdExportId := e.pkmd.val }
    if e.gmu.ret ≠ 0 then ({ ret := e.gmu.ret, dev := d₁, events := [.acquire (.exported e.pkmd.val)] }, true)
    else
      let d₂ := { d₁ with gmuExportId := e.gmu.val }
      let events := [.acquire (.exported e.pkmd.val), .acquire (.exported e.gmu.val)]
      match gvmInit e with
      | (ret, none) => ({ ret := ret, dev := d₂, events := events }, true)
      | (ret, some g) =>
        ({ ret := ret, dev := { d₂ with gvmSettings := g, irqIndex := g.irqIndex }, events := events }, false)

/-- The label `err` of `hgsl_hyp_export_ipc_queue`. -/
def withdrawExports (r : IpcqResult) : IpcqResult :=
  { ret := r.ret
    dev := { r.dev with pkmdExportId := 0#32, gmuExportId := 0#32 }
    events := r.events ++
      ((if r.dev.pkmdExportId ≠ 0#32 then [.release (.exported r.dev.pkmdExportId)] else []) ++
        if r.dev.gmuExportId ≠ 0#32 then [.release (.exported r.dev.gmuExportId)] else []) }

/-- `hgsl_hyp_export_ipc_queue` -/
def hgslHypExportIpcQueue (e : ExportCalls) (d : IpcqDevice) : IpcqResult :=
  if e.channelGet ≠ 0 then { ret := e.channelGet, dev := d, events := [] }
  else if d.rgsNode = none ∨ d.gmuNode = none then { ret := -EINVAL, dev := d, events := [] }
  else
    let r := exportCalls e d
    if r.2 then withdrawExports r.1 else r.1

/-! ## The caller -/

/-- What the calls of `hgsl_allocate_per_device_ipc_queues` return. -/
structure AllocateCalls where
  rgs : MemnodeCalls
  gmu : MemnodeCalls
  exports : ExportCalls

/-- The label `err` of `hgsl_allocate_per_device_ipc_queues`. -/
def freeQueues (r : IpcqResult) : IpcqResult :=
  let gmu := hgslFreePerDeviceIpcQueues .gmu r.dev
  let rgs := hgslFreePerDeviceIpcQueues .rgs gmu.1
  { ret := r.ret, dev := rgs.1, events := r.events ++ (gmu.2 ++ rgs.2) }

/-- The two calls of `hgsl_init_ipcq_memnode`. -/
def initQueues (a : AllocateCalls) (d : IpcqDevice) : IpcqResult :=
  let rgs := hgslInitIpcqMemnode a.rgs .rgs d
  if rgs.ret ≠ 0 then rgs
  else
    let gmu := hgslInitIpcqMemnode a.gmu .gmu rgs.dev
    let r : IpcqResult := { gmu with events := rgs.events ++ gmu.events }
    if gmu.ret ≠ 0 then freeQueues r else r

/-- `hgsl_allocate_per_device_ipc_queues` -/
def hgslAllocatePerDeviceIpcQueues (a : AllocateCalls) (d : IpcqDevice) : IpcqResult :=
  let r := initQueues a d
  if r.ret ≠ 0 then r
  else
    let x := hgslHypExportIpcQueue a.exports r.dev
    let y : IpcqResult := { x with events := r.events ++ x.events }
    if x.ret ≠ 0 then freeQueues y else y

/-! ## Atomicity -/

/-- The export is all or nothing: it returns 0 exactly when both exports stand, the backend has reported success
    and its settings were read, and otherwise nothing is left of it. -/
def ExportAtomic (e : ExportCalls) (d : IpcqDevice) : Prop :=
  let r := hgslHypExportIpcQueue e d
  (r.ret = 0 ↔
    (r.dev.pkmdExportId ≠ 0#32 ∧ r.dev.gmuExportId ≠ 0#32 ∧
        Custody.run [] r.events = some [.exported r.dev.gmuExportId, .exported r.dev.pkmdExportId]) ∧
      (e.transact = 0 ∧ e.rval = ⟨0, GSL_SUCCESS⟩) ∧ e.gvm.ret = 0 ∧ r.dev.gvmSettings = e.gvm.val) ∧
    (r.ret ≠ 0 →
      r.dev.pkmdExportId = 0#32 ∧ r.dev.gmuExportId = 0#32 ∧ Custody.run [] r.events = some [])

/-- No queue has a node, and what was acquired is released. -/
def IpcqResult.Clean (r : IpcqResult) : Prop :=
  r.dev.rgsNode = none ∧ r.dev.gmuNode = none ∧ Custody.run [] r.events = some []

/-- The queues of a device are exported by one call, all or nothing, and when its caller fails, nothing is left of
    them. -/
def IpcqAtomic (a : AllocateCalls) : Prop :=
  ((initQueues a {}).ret = 0 → ExportAtomic a.exports (initQueues a {}).dev) ∧
    ((hgslAllocatePerDeviceIpcQueues a {}).ret ≠ 0 → (hgslAllocatePerDeviceIpcQueues a {}).Clean)

/-- The queues are allocated, and there is a channel to export them. -/
def ReachesExport (a : AllocateCalls) : Prop := (initQueues a {}).ret = 0 ∧ a.exports.channelGet = 0

/-- An export returns 0 and the id that stands for none. -/
def ExportCalls.NullId (e : ExportCalls) : Prop :=
  e.pkmd.ret = 0 ∧ (e.pkmd.val = 0#32 ∨ e.gmu.ret = 0 ∧ e.gmu.val = 0#32)

/-- The transaction returns 0, and the status of the backend cannot be read from its reply. -/
def ExportCalls.StatusUnread (e : ExportCalls) : Prop :=
  (e.pkmd.ret = 0 ∧ e.gmu.ret = 0 ∧ e.write = 0 ∧ e.transact = 0) ∧ e.rval.ret ≠ 0

/-! ## What the export comes to -/

section Export

variable {e : ExportCalls} {d : IpcqDevice} {r : IpcqResult}

/-- No queue is exported. -/
def IpcqDevice.NotExported (d : IpcqDevice) : Prop := d.pkmdExportId = 0#32 ∧ d.gmuExportId = 0#32

/-- The exports have been made, and the backend has taken them. -/
def ExportCalls.Succeeds (e : ExportCalls) : Prop :=
  (e.pkmd.ret = 0 ∧ e.gmu.ret = 0 ∧ e.write = 0 ∧ e.transact = 0) ∧ e.rval = ⟨0, GSL_SUCCESS⟩ ∧ e.gvm.ret = 0

/-- What is exported when a call ends at `err`. -/
def exportedBy (e : ExportCalls) : List (BitVec 32) :=
  if e.pkmd.ret ≠ 0 then [] else if e.gmu.ret ≠ 0 then [e.pkmd.val] else [e.pkmd.val, e.gmu.val]

/-- What the calls come to: they succeed, or they end at `err`, with an error unless the status was not read. -/
inductive ExportOutcome (e : ExportCalls) (d : IpcqDevice) (x : IpcqResult × Bool) : Prop where
  | done : e.Succeeds → x.2 = false → x.1.ret = 0 → x.1.dev.pkmdExportId = e.pkmd.val →
      x.1.dev.gmuExportId = e.gmu.val → x.1.dev.gvmSettings = e.gvm.val →
      x.1.events = [.acquire (.exported e.pkmd.val), .acquire (.exported e.gmu.val)] → ExportOutcome e d x
  | undone : ¬ e.Succeeds → x.2 = true → (x.1.ret = 0 ↔ e.StatusUnread) →
      x.1.dev.pkmdExportId = (exportedBy e)[0]?.getD d.pkmdExportId →
      x.1.dev.gmuExportId = (exportedBy e)[1]?.getD d.gmuExportId →
      x.1.events = (exportedBy e).map (fun i => .acquire (.exported i)) → ExportOutcome e d x

theorem gvmInit_cases (e : ExportCalls) :
    (e.write = 0 ∧ e.transact = 0 ∧ e.rval = ⟨0, GSL_SUCCESS⟩ ∧ e.gvm.ret = 0) ∧ gvmInit e = (0, some e.gvm.val) ∨
      ¬ (e.write = 0 ∧ e.transact = 0 ∧ e.rval = ⟨0, GSL_SUCCESS⟩ ∧ e.gvm.ret = 0) ∧
        ∃ ret, gvmInit e = (ret, none) ∧ (ret = 0 ↔ e.write = 0 ∧ e.transact = 0 ∧ e.rval.ret ≠ 0) := by
  obtain ⟨get, pkmd, gmu, write, transact, ⟨rret, rval⟩, ⟨gvm, settings⟩⟩ := e
  simp only [gvmInit, ReplyRead.mk.injEq, GSL_SUCCESS]
  split_ifs <;> simp_all

theorem exportCalls_outcome (e : ExportCalls) (d : IpcqDevice) : ExportOutcome e d (exportCalls e d) := by
  by_cases hpkmd : e.pkmd.ret = 0
  swap
  · apply ExportOutcome.undone <;>
      simp [exportCalls, ExportCalls.Succeeds, ExportCalls.StatusUnread, exportedBy, hpkmd]
  by_cases hgmu : e.gmu.ret = 0
  swap
  · apply ExportOutcome.undone <;>
      simp [exportCalls, ExportCalls.Succeeds, ExportCalls.StatusUnread, exportedBy, hpkmd, hgmu]
  obtain ⟨hok, hinit⟩ | ⟨hok, ret, hinit, hret⟩ := gvmInit_cases e
  · apply ExportOutcome.done <;> simp [exportCalls, ExportCalls.Succeeds, hpkmd, hgmu, hinit, hok]
  · apply ExportOutcome.undone <;>
      simp [exportCalls, ExportCalls.Succeeds, ExportCalls.StatusUnread, exportedBy, hpkmd, hgmu, hinit]
    · simpa using hok
    · simpa [and_assoc] using hret

/-- Each export that was made is withdrawn, unless its id is the one that stands for none. -/
theorem withdrawExports_run (hd : d.NotExported) (hpkmd : r.dev.pkmdExportId = (exportedBy e)[0]?.getD d.pkmdExportId)
    (hgmu : r.dev.gmuExportId = (exportedBy e)[1]?.getD d.gmuExportId)
    (hevents : r.events = (exportedBy e).map fun i => .acquire (.exported i)) :
    Custody.run [] (withdrawExports r).events = some [] ↔ ¬ e.NullId := by
  obtain ⟨hd₁, hd₂⟩ := hd
  by_cases hret₁ : e.pkmd.ret = 0
  swap
  · simp_all [withdrawExports, exportedBy, ExportCalls.NullId]
  by_cases hret₂ : e.gmu.ret = 0
  · -- both were made: the second is on top
    by_cases hid₁ : e.pkmd.val = 0#32 <;> by_cases hid₂ : e.gmu.val = 0#32 <;>
      by_cases hsame : e.gmu.val = e.pkmd.val <;>
      simp_all [withdrawExports, exportedBy, ExportCalls.NullId]
  · by_cases hid₁ : e.pkmd.val = 0#32 <;> simp_all [withdrawExports, exportedBy, ExportCalls.NullId]

/-- What the export does is right unless an id is the one that stands for none or the status is not read. -/
theorem exportAtomic_iff (hd : d.NotExported) :
    ExportAtomic e d ↔
      ¬ ((e.channelGet = 0 ∧ d.rgsNode ≠ none ∧ d.gmuNode ≠ none) ∧ (e.NullId ∨ e.StatusUnread)) := by
  obtain ⟨hd₁, hd₂⟩ := hd
  by_cases hget : e.channelGet = 0
  swap
  · simp [ExportAtomic, hgslHypExportIpcQueue, hget, hd₁, hd₂]
  by_cases hnodes : d.rgsNode = none ∨ d.gmuNode = none
  · have hreach : ¬ (d.rgsNode ≠ none ∧ d.gmuNode ≠ none) := by tauto
    simp [ExportAtomic, hgslHypExportIpcQueue, hget, hnodes, hd₁, hd₂, EINVAL]
    tauto
  have hreach : d.rgsNode ≠ none ∧ d.gmuNode ≠ none := not_or.1 hnodes
  have hout := exportCalls_outcome e d
  have hres : hgslHypExportIpcQueue e d =
      if (exportCalls e d).2 then withdrawExports (exportCalls e d).1 else (exportCalls e d).1 := by
    simp [hgslHypExportIpcQueue, hget, hnodes]
  simp only [ExportAtomic, hres]
  generalize exportCalls e d = x at hout
  obtain ⟨r, err⟩ := x
  cases hout with
  | done hok herr hret hpkmd hgmu hgvm hevents =>
      dsimp only at herr hret hpkmd hgmu hgvm hevents
      subst herr
      obtain ⟨⟨hret₁, hret₂, -, htransact⟩, hrval, hgvmRet⟩ := hok
      simp [hret, hpkmd, hgmu, hgvm, hevents, ExportCalls.NullId, ExportCalls.StatusUnread, hret₁, hret₂, htransact,
        hrval, hgvmRet, hget, hreach]
  | undone hok herr hret hpkmd hgmu hevents =>
      dsimp only at herr hret hpkmd hgmu hevents
      subst herr
      have hrun := withdrawExports_run (r := r) ⟨hd₁, hd₂⟩ hpkmd hgmu hevents
      have hids : (withdrawExports r).dev.pkmdExportId = 0#32 ∧ (withdrawExports r).dev.gmuExportId = 0#32 := by
        simp [withdrawExports]
      have hsame : (withdrawExports r).ret = r.ret := by simp [withdrawExports]
      simp only [if_true, hids, hsame, hret, ne_eq, hget, hreach, true_and, not_true_eq_false, false_and, iff_false,
        hrun]
      tauto

end Export

/-! ## What the caller makes of it -/

section Allocate

variable {a : AllocateCalls} {d : IpcqDevice} {r : IpcqResult}

/-- The two queues of a device are allocated, and nothing else is done. -/
def IpcqDevice.Allocated (d : IpcqDevice) (events : List (Custody.Event IpcqResource)) : Prop :=
  d.NotExported ∧ ∃ m n, d.rgsNode = some m ∧ d.gmuNode = some n ∧ events = [.acquire (.node m), .acquire (.node n)]

/-- What `hgsl_init_ipcq_memnode` comes to. -/
theorem hgslInitIpcqMemnode_cases (c : MemnodeCalls) (q : IpcqIdx) (d : IpcqDevice) :
    ((hgslInitIpcqMemnode c q d).ret ≠ 0 ∧ (∀ q', (hgslInitIpcqMemnode c q d).dev.memnode q' = d.memnode q') ∧
        ∀ held, Custody.run held (hgslInitIpcqMemnode c q d).events = some held) ∨
      ∃ n, hgslInitIpcqMemnode c q d =
        { ret := 0, dev := (d.setVmap true q).setMemnode (some n) q, events := [.acquire (.node n)] } := by
  have hvmap : ∀ q', (d.setVmap false q).memnode q' = d.memnode q' := by
    intro q'
    cases q <;> cases q' <;> simp [IpcqDevice.setVmap, IpcqDevice.memnode]
  cases hnode : c.memNodeZalloc with
  | none => simp [hgslInitIpcqMemnode, hnode, ENOMEM]
  | some n =>
      by_cases halloc : c.sharedmemAlloc = 0 <;> by_cases hmapped : c.vmap = 0 <;>
        simp [hgslInitIpcqMemnode, hnode, halloc, hmapped, hvmap]

/-- The label `err` frees the queues that are there. -/
theorem freeQueues_clean (held : List IpcqResource) (hret : r.ret ≠ 0) (hrun : Custody.run [] r.events = some held)
    (hheld : held = (r.dev.gmuNode.toList ++ r.dev.rgsNode.toList).map .node) :
    (freeQueues r).ret ≠ 0 ∧ (freeQueues r).Clean := by
  cases hgmu : r.dev.gmuNode <;> cases hrgs : r.dev.rgsNode <;>
    simp [freeQueues, hgslFreePerDeviceIpcQueues, IpcqDevice.memnode, IpcqDevice.setMemnode, IpcqDevice.setVmap,
      IpcqResult.Clean, Custody.run_append, hrun, hheld, hgmu, hrgs, hret]

/-- The queues are allocated, or nothing is left of them. -/
theorem initQueues_cases (a : AllocateCalls) :
    ((initQueues a {}).ret ≠ 0 ∧ (initQueues a {}).Clean) ∨
      (initQueues a {}).ret = 0 ∧ (initQueues a {}).dev.Allocated (initQueues a {}).events := by
  obtain ⟨hret, hnodes, hrun⟩ | ⟨m, hrgs⟩ := hgslInitIpcqMemnode_cases a.rgs .rgs {}
  · have hrgs := hnodes .rgs
    have hgmu := hnodes .gmu
    simp only [IpcqDevice.memnode] at hrgs hgmu
    exact .inl ⟨by simp [initQueues, hret], by simp [initQueues, hret, IpcqResult.Clean, hrgs, hgmu, hrun]⟩
  have hinit : initQueues a {} =
      let gmu := hgslInitIpcqMemnode a.gmu .gmu { rgsNode := some m, rgsVmap := true }
      let r : IpcqResult := { gmu with events := .acquire (.node m) :: gmu.events }
      if gmu.ret ≠ 0 then freeQueues r else r := by
    simp [initQueues, hrgs, IpcqDevice.setMemnode, IpcqDevice.setVmap]
  rw [hinit]
  obtain ⟨hret, hnodes, hrun⟩ | ⟨n, hgmu⟩ :=
    hgslInitIpcqMemnode_cases a.gmu .gmu { rgsNode := some m, rgsVmap := true }
  · -- the second allocation fails, and the first is taken back
    left
    generalize hgslInitIpcqMemnode a.gmu .gmu { rgsNode := some m, rgsVmap := true } = g at hret hnodes hrun ⊢
    have hrgsNode := hnodes .rgs
    have hgmuNode := hnodes .gmu
    simp only [IpcqDevice.memnode] at hrgsNode hgmuNode
    dsimp only
    rw [if_pos hret]
    exact freeQueues_clean [.node m] hret (by simpa using hrun [.node m]) (by simp [hrgsNode, hgmuNode])
  · right
    simp [hgmu, IpcqDevice.Allocated, IpcqDevice.NotExported, IpcqDevice.setMemnode, IpcqDevice.setVmap]

/-- The export leaves the nodes where they are. -/
theorem export_frame (e : ExportCalls) (d : IpcqDevice) :
    (hgslHypExportIpcQueue e d).dev.rgsNode = d.rgsNode ∧ (hgslHypExportIpcQueue e d).dev.gmuNode = d.gmuNode := by
  simp only [hgslHypExportIpcQueue, exportCalls, withdrawExports]
  cases gvmInit e with
  | mk ret g => cases g <;> split_ifs <;> simp_all

/-- The caller frees both nodes when the export has taken back what it did. -/
theorem allocate_clean (hinit : (initQueues a {}).ret = 0) (hatomic : ExportAtomic a.exports (initQueues a {}).dev)
    (hret : (hgslAllocatePerDeviceIpcQueues a {}).ret ≠ 0) : (hgslAllocatePerDeviceIpcQueues a {}).Clean := by
  obtain ⟨hfail, -⟩ | ⟨-, -, m, n, hrgs, hgmu, hevents⟩ := initQueues_cases a
  · exact absurd hinit hfail
  obtain ⟨hframe₁, hframe₂⟩ := export_frame a.exports (initQueues a {}).dev
  by_cases hexport : (hgslHypExportIpcQueue a.exports (initQueues a {}).dev).ret = 0
  · simp [hgslAllocatePerDeviceIpcQueues, hinit, hexport] at hret
  · obtain ⟨-, -, hrun⟩ := hatomic.2 hexport
    have hframe := Custody.run_frame hrun [.node n, .node m]
    simp only [hgslAllocatePerDeviceIpcQueues, hinit, ne_eq, not_true_eq_false, if_false]
    generalize hgslHypExportIpcQueue a.exports (initQueues a {}).dev = x at *
    rw [if_pos hexport]
    refine (freeQueues_clean (r := { x with events := (initQueues a {}).events ++ x.events }) [.node n, .node m]
      hexport ?_ ?_).2
    · simpa [Custody.run_append, hevents] using hframe
    · simp [hframe₁, hframe₂, hrgs, hgmu]

/-- **Export of the queues.** On every device, with whatever the calls return, the export is all or nothing unless
    an export returns 0 with the id that stands for none, or the status of the backend cannot be read. -/
theorem ipcqAtomic_iff (a : AllocateCalls) :
    IpcqAtomic a ↔ ¬ (ReachesExport a ∧ (a.exports.NullId ∨ a.exports.StatusUnread)) := by
  obtain ⟨hfail, hclean⟩ | ⟨hinit, hunused, m, n, hrgs, hgmu, -⟩ := initQueues_cases a
  · -- the queues are not allocated
    have hstop : hgslAllocatePerDeviceIpcQueues a {} = initQueues a {} := by
      simp [hgslAllocatePerDeviceIpcQueues, hfail]
    simp [IpcqAtomic, ReachesExport, hfail, hstop, hclean]
  · have hiff := exportAtomic_iff (e := a.exports) hunused
    have hatomic : IpcqAtomic a ↔ ExportAtomic a.exports (initQueues a {}).dev := by
      constructor
      · rintro ⟨h, -⟩
        exact h hinit
      · intro h
        exact ⟨fun _ => h, allocate_clean hinit h⟩
    rw [hatomic, hiff]
    simp [ReachesExport, hinit, hrgs, hgmu]

/-- Both queues are allocated and exported, and the reply to `RPC_GVM_INIT` is cut off before the status. -/
def cutReply : AllocateCalls where
  rgs := { memNodeZalloc := some 1, sharedmemAlloc := 0, vmap := 0 }
  gmu := { memNodeZalloc := some 2, sharedmemAlloc := 0, vmap := 0 }
  exports :=
    { channelGet := 0
      pkmd := ⟨0, 3#32⟩
      gmu := ⟨0, 4#32⟩
      write := 0
      transact := 0
      rval := ⟨-EINVAL, 0⟩
      gvm := ⟨-EINVAL, ⟨0#32⟩⟩ }

/-- Both exports are withdrawn, and the driver goes on as if they stood. -/
theorem cutReply_not_atomic :
    (hgslAllocatePerDeviceIpcQueues cutReply {}).ret = 0 ∧
      ((hgslAllocatePerDeviceIpcQueues cutReply {}).dev.pkmdExportId = 0#32 ∧
        (hgslAllocatePerDeviceIpcQueues cutReply {}).dev.gmuExportId = 0#32) ∧
        ¬ IpcqAtomic cutReply := by
  refine ⟨by decide, by decide, ?_⟩
  rintro ⟨h, -⟩
  have hids := ((h (by decide)).1.1 (by decide)).1.1
  exact absurd hids (by decide)

end Allocate

end Hgsl
