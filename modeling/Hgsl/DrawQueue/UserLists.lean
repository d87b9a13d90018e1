import Hgsl.Timestamp
import Hgsl.Doorbell.Message
import Hgsl.Lib.Bytes
import Hgsl.Lib.Stride
import Mathlib.Data.BitVec

set_option autoImplicit false

/-! # Lists of extensible structures in user memory

The five loops that copy in a list whose element size is given by user space: the commands, the memory
objects and the sync points of `hgsl_ioctl_gpu_command`, and the timeline values of
`hgsl_drawobj_add_timeline` and `hgsl_timelines_to_fence_array`. The last two advance by the caller's
element size, the others by the size of the kernel's structure.

Left out: what the sync points register, and what becomes of new fences and of captured timelines. -/

namespace Hgsl

/-! ## User memory -/

/-- The memory of the calling process; a read of a byte that is not there faults. -/
abbrev UserMem := BitVec 64 → Option (BitVec 8)

/-- `copy_from_user` -/
def copyFromUser (mem : UserMem) (src : BitVec 64) (n : Nat) : Option (List (BitVec 8)) :=
  (List.range n).mapM fun k => mem (src + BitVec.ofNat 64 k)

/-- `copy_struct_from_user`: a shorter structure is filled up with zeros, a longer one has to end in them. -/
def copyStructFromUser (mem : UserMem) (ksize usize : Nat) (src : BitVec 64) :
    Except Int (List (BitVec 8)) :=
  match copyFromUser mem (src + BitVec.ofNat 64 ksize) (usize - ksize) with
  | none => .error (-EFAULT)
  | some tail =>
    if tail.any (· ≠ 0#8) then .error (-E2BIG)
    else
      match copyFromUser mem src (min ksize usize) with
      | none => .error (-EFAULT)
      | some bytes => .ok (bytes ++ List.replicate (ksize - usize) 0#8)

/-- The field of `w` bits at an offset in a structure. -/
def fieldAt (w : Nat) (bytes : List (BitVec 8)) (offset : Nat) : BitVec w :=
  Bytes.toWord w ((bytes.drop offset).take (w / 8))

/-- `struct hgsl_command_object` -/
structure CommandObject where
  offset : BitVec 64
  gpuaddr : BitVec 64
  size : BitVec 64
  flags : BitVec 32
  id : BitVec 32
  deriving DecidableEq, Repr

def sizeofCommandObject : Nat := 32

def CommandObject.ofBytes (bytes : List (BitVec 8)) : CommandObject :=
  { offset := fieldAt 64 bytes 0, gpuaddr := fieldAt 64 bytes 8, size := fieldAt 64 bytes 16,
    flags := fieldAt 32 bytes 24, id := fieldAt 32 bytes 28 }

/-- `struct hgsl_command_syncpoint` -/
structure CommandSyncpoint where
  priv : BitVec 64
  size : BitVec 64
  type : BitVec 32
  deriving DecidableEq, Repr

def sizeofCommandSyncpoint : Nat := 24

def CommandSyncpoint.ofBytes (bytes : List (BitVec 8)) : CommandSyncpoint :=
  { priv := fieldAt 64 bytes 0, size := fieldAt 64 bytes 8, type := fieldAt 32 bytes 16 }

/-- `struct hgsl_timeline_val` -/
structure UserTimelineVal where
  timepoint : BitVec 64
  timelineId : BitVec 32
  padding : BitVec 32
  deriving DecidableEq, Repr

def sizeofTimelineVal : Nat := 16

def UserTimelineVal.ofBytes (bytes : List (BitVec 8)) : UserTimelineVal :=
  { timepoint := fieldAt 64 bytes 0, timelineId := fieldAt 32 bytes 8, padding := fieldAt 32 bytes 12 }

/-- One element of a list, as each of the loops copies it in. -/
def copyElem {α : Type} (ofBytes : List (BitVec 8) → α) (ksize : Nat) (mem : UserMem) (usize : Nat)
    (ptr : BitVec 64) : Except Int α :=
  match copyStructFromUser mem ksize usize ptr with
  | .error _ => .error (-EFAULT)
  | .ok bytes => .ok (ofBytes bytes)

/-! ## The lists -/

/-- What a parse has done: the addresses that it took elements from, the object it filled, its result. -/
structure Parsed (σ : Type) where
  reads : List (BitVec 64)
  state : σ
  ret : Int
  deriving DecidableEq, Repr

/-- A parse: `start` is what the checks before the loop come to, a result or the object that the loop fills;
    `finish` is the check behind the loop. -/
def parseUserList {α σ : Type} (s : σ) (start : Except Int σ) (copy : BitVec 64 → Except Int α)
    (handle : σ → α → σ × Option Int) (stride : BitVec 64) (finish : σ → Int) (ptr : BitVec 64)
    (count : Nat) : Parsed σ :=
  match start with
  | .error ret => ⟨[], s, ret⟩
  | .ok s' =>
    let w := Stride.walk copy handle stride ptr count s'
    ⟨w.reads, w.state, w.error.getD (finish w.state)⟩

/-- `_verify_input_list` -/
def verifyInputList (count : BitVec 32) (ptr : BitVec 64) (size : BitVec 32) : Int :=
  if count = 0#32 ∧ ptr = 0#64 ∧ size = 0#32 then 0
  else if count = 0#32 ∨ ptr = 0#64 ∨ size = 0#32 then -EINVAL
  else 1

def HGSL_CMDLIST_IB : BitVec 32 := 0x00000001#32
def HGSL_CMDLIST_CTXTSWITCH_PREAMBLE : BitVec 32 := 0x00000002#32
def HGSL_CMDLIST_IB_PREAMBLE : BitVec 32 := 0x00000004#32
def HGSL_OBJLIST_MEMOBJ : BitVec 32 := 0x00000008#32
def HGSL_OBJLIST_PROFILE : BitVec 32 := 0x00000010#32

def CMDLIST_FLAGS : BitVec 32 :=
  HGSL_CMDLIST_IB ||| HGSL_CMDLIST_CTXTSWITCH_PREAMBLE ||| HGSL_CMDLIST_IB_PREAMBLE

/-- `struct hgsl_memobj_node` -/
structure MemobjNode where
  gpuaddr : BitVec 64
  size : BitVec 64
  id : BitVec 32
  offset : BitVec 64
  flags : BitVec 32
  priv : BitVec 64
  deriving DecidableEq, Repr

/-- `struct hgsl_drawobj_cmd`, while its lists are filled -/
structure DrawobjCmdLists where
  /-- `MARKEROBJ_TYPE` is set in its type -/
  marker : Bool := false
  /-- `HGSL_DRAWOBJ_PROFILING` is set in its flags -/
  profiling : Bool := false
  cmdlist : List MemobjNode := []
  memlist : List MemobjNode := []
  numibs : BitVec 32 := 0#32
  /-- `profiling_mem_node` with `profiling_mem_gpuaddr` -/
  profilingMem : Option (Nat × BitVec 64) := none
  /-- whether the next allocations succeed -/
  allocs : List Bool := []
  deriving DecidableEq, Repr

/-- `hgsl_drawobj_add_memobject`; `add` puts the node at the end of its list. -/
def hgslDrawobjAddMemobject (add : DrawobjCmdLists → MemobjNode → DrawobjCmdLists) (cmdobj : DrawobjCmdLists)
    (obj : CommandObject) : DrawobjCmdLists × Option Int :=
  let rest := { cmdobj with allocs := cmdobj.allocs.tail }
  if cmdobj.allocs.headD true then
    (add rest ⟨obj.gpuaddr, obj.size, obj.id, obj.offset, obj.flags, 0#64⟩, none)
  else (rest, some (-ENOMEM))

/-- A turn of the loop of `hgsl_drawobj_cmd_add_cmdlist`, behind the copy -/
def addCommand (cmdobj : DrawobjCmdLists) (obj : CommandObject) : DrawobjCmdLists × Option Int :=
  if obj.flags &&& CMDLIST_FLAGS = 0#32 then (cmdobj, some (-EINVAL))
  else
    match hgslDrawobjAddMemobject (fun c n => { c with cmdlist := c.cmdlist ++ [n] }) cmdobj obj with
    | (c, some e) => (c, some e)
    | (c, none) => ({ c with numibs := c.numibs + 1#32 }, none)

/-- The checks before the loops over command objects -/
def cmdobjStart (cmdobj : DrawobjCmdLists) (count : BitVec 32) (ptr : BitVec 64) (size : BitVec 32) :
    Except Int DrawobjCmdLists :=
  if cmdobj.marker then .error 0
  else if verifyInputList count ptr size ≤ 0 then .error (verifyInputList count ptr size)
  else .ok cmdobj

/-- `hgsl_drawobj_cmd_add_cmdlist` -/
def hgslDrawobjCmdAddCmdlist (cmdobj : DrawobjCmdLists) (count : BitVec 32) (mem : UserMem) (ptr : BitVec 64)
    (size : BitVec 32) : Parsed DrawobjCmdLists :=
  parseUserList cmdobj (cmdobjStart cmdobj count ptr size)
    (copyElem CommandObject.ofBytes sizeofCommandObject mem size.toNat) addCommand
    (BitVec.ofNat 64 sizeofCommandObject)
    (fun c => if ECP_MAX_NUM_IB1 < c.numibs.toNat then -EINVAL else 0) ptr count.toNat

/-- `drawobj_add_profiling_buffer`; `findNode` is the search in the two trees of the client, a node with its
    address. -/
def drawobjAddProfilingBuffer (findNode : BitVec 64 → BitVec 64 → Option (Nat × BitVec 64))
    (cmdobj : DrawobjCmdLists) (gpuaddr size : BitVec 64) (id : BitVec 32) (offset : BitVec 64) :
    DrawobjCmdLists :=
  if !cmdobj.profiling ∨ cmdobj.profilingMem.isSome then cmdobj
  else
    match findNode gpuaddr size with
    | none => cmdobj
    | some (node, base) =>
      { cmdobj with profilingMem := some (node, if id ≠ 0#32 then base + offset else gpuaddr) }

/-- A turn of the loop of `hgsl_drawobj_cmd_add_memlist`, behind the copy -/
def addMemobj (findNode : BitVec 64 → BitVec 64 → Option (Nat × BitVec 64)) (cmdobj : DrawobjCmdLists)
    (obj : CommandObject) : DrawobjCmdLists × Option Int :=
  if obj.flags &&& HGSL_OBJLIST_MEMOBJ = 0#32 then (cmdobj, some (-EINVAL))
  else if obj.flags &&& HGSL_OBJLIST_PROFILE ≠ 0#32 then
    (drawobjAddProfilingBuffer findNode cmdobj obj.gpuaddr obj.size obj.id obj.offset, none)
  else hgslDrawobjAddMemobject (fun c n => { c with memlist := c.memlist ++ [n] }) cmdobj obj

/-- `hgsl_drawobj_cmd_add_memlist` -/
def hgslDrawobjCmdAddMemlist (findNode : BitVec 64 → BitVec 64 → Option (Nat × BitVec 64))
    (cmdobj : DrawobjCmdLists) (count : BitVec 32) (mem : UserMem) (ptr : BitVec 64) (size : BitVec 32) :
    Parsed DrawobjCmdLists :=
  parseUserList cmdobj (cmdobjStart cmdobj count ptr size)
    (copyElem CommandObject.ofBytes sizeofCommandObject mem size.toNat) (addMemobj findNode)
    (BitVec.ofNat 64 sizeofCommandObject) (fun _ => 0) ptr count.toNat

/-- The size of `add_sync_event_table` -/
def syncEventMaxNum : Nat := 3

/-- A turn of the loop of `hgsl_drawobj_sync_add_synclist`, behind the copy. The functions of the table are
    `addSyncEvent`; they return 0 or an error. -/
def addSyncpoint {σ : Type} (addSyncEvent : σ → CommandSyncpoint → σ × Int) (syncobj : σ)
    (syncpt : CommandSyncpoint) : σ × Option Int :=
  if syncEventMaxNum ≤ syncpt.type.toNat then (syncobj, some (-EINVAL))
  else
    let r := addSyncEvent syncobj syncpt
    (r.1, if r.2 ≠ 0 then some r.2 else none)

/-- The checks before the loop over sync points; `alloc` is the object with its array, if there is memory. -/
def synclistStart {σ : Type} (alloc : Option σ) (count : BitVec 32) (ptr : BitVec 64) (size : BitVec 32) :
    Except Int σ :=
  if verifyInputList count ptr size ≤ 0 then .error (-EINVAL)
  else
    match alloc with
    | none => .error (-ENOMEM)
    | some s => .ok s

/-- `hgsl_drawobj_sync_add_synclist` -/
def hgslDrawobjSyncAddSynclist {σ : Type} (addSyncEvent : σ → CommandSyncpoint → σ × Int)
    (alloc : Option σ) (syncobj : σ) (count : BitVec 32) (mem : UserMem) (ptr : BitVec 64) (size : BitVec 32) :
    Parsed σ :=
  parseUserList syncobj (synclistStart alloc count ptr size)
    (copyElem CommandSyncpoint.ofBytes sizeofCommandSyncpoint mem size.toNat) (addSyncpoint addSyncEvent)
    (BitVec.ofNat 64 sizeofCommandSyncpoint) (fun _ => 0) ptr count.toNat

/-! ### Timeline values -/

/-- `struct hgsl_timeline_event`, while the array is filled -/
structure CapturedTimeline where
  timeline : Option Nat := none
  /-- `context` is set -/
  context : Bool := false
  seqno : BitVec 64 := 0#64
  timestamp : BitVec 32 := 0#32
  deriving DecidableEq, Repr

/-- A turn of the loop of `hgsl_drawobj_add_timeline`, behind the copy. `timelineGet` is
    `hgsl_isync_timeline_get`, `contextGet` says whether the context is still alive. -/
def captureTimeline (timelineGet : BitVec 32 → Option Nat) (contextGet : Bool) (queued : BitVec 32)
    (timelines : List CapturedTimeline) (val : UserTimelineVal) : List CapturedTimeline × Option Int :=
  if val.padding ≠ 0#32 then (timelines, some (-EINVAL))
  else
    match timelineGet val.timelineId with
    | none => (timelines, some (-ENODEV))
    | some tl =>
      -- the reference to the timeline stays in the array when the context is gone
      if !contextGet then (timelines ++ [{ timeline := some tl }], some (-ENODEV))
      else (timelines ++ [⟨some tl, true, val.timepoint, queued⟩], none)

/-- The loop of `hgsl_drawobj_add_timeline` -/
def hgslDrawobjAddTimelineVals (timelineGet : BitVec 32 → Option Nat) (contextGet : Bool) (queued count : BitVec 32)
    (mem : UserMem) (ptr size : BitVec 64) : Parsed (List CapturedTimeline) :=
  parseUserList [] (.ok [])
    (copyElem UserTimelineVal.ofBytes sizeofTimelineVal mem size.toNat)
    (captureTimeline timelineGet contextGet queued) size (fun _ => 0) ptr count.toNat

/-- What `hgsl_timelines_to_fence_array` has made: the timelines and timestamps of its fences, and whether the
    next allocations succeed. -/
structure FenceArray where
  fences : List (Nat × BitVec 64) := []
  allocs : List Bool := []
  deriving DecidableEq, Repr

/-- A turn of its loop, behind the copy -/
def makeTimelineFence (timelineGet : BitVec 32 → Option Nat) (a : FenceArray) (val : UserTimelineVal) :
    FenceArray × Option Int :=
  if val.padding ≠ 0#32 then (a, some (-EINVAL))
  else
    match timelineGet val.timelineId with
    | none => (a, some (-ENOENT))
    | some tl =>
      if a.allocs.headD true then ({ fences := a.fences ++ [(tl, val.timepoint)], allocs := a.allocs.tail }, none)
      else ({ a with allocs := a.allocs.tail }, some (-ENOMEM))

def INT_MAX : Nat := 2 ^ 31 - 1

/-- The checks before it, and the array of pointers -/
def fenceArrayStart (a : FenceArray) (count : BitVec 32) : Except Int FenceArray :=
  if count = 0#32 ∨ INT_MAX < count.toNat then .error (-EINVAL)
  else if a.allocs.headD true then .ok { a with allocs := a.allocs.tail }
  else .error (-ENOMEM)

/-- `hgsl_timelines_to_fence_array`, up to the array around the fences -/
def hgslTimelinesToFenceArray (timelineGet : BitVec 32 → Option Nat) (a : FenceArray) (count : BitVec 32)
    (mem : UserMem) (ptr size : BitVec 64) : Parsed FenceArray :=
  parseUserList a (fenceArrayStart a count)
    (copyElem UserTimelineVal.ofBytes sizeofTimelineVal mem size.toNat) (makeTimelineFence timelineGet) size
    (fun _ => 0) ptr count.toNat

/-! ## The caller's stride -/

/-- The loop comes to a second element: the checks before it pass, there are two elements, and the first of
    them is copied in and passes its check. -/
def ReachesSecond {α σ : Type} (start : Except Int σ) (copy : BitVec 64 → Except Int α)
    (handle : σ → α → σ × Option Int) (ptr : BitVec 64) (count : Nat) : Prop :=
  ∃ s, start = .ok s ∧ 1 < count ∧ Stride.Taken copy handle ptr s = true

/-- A parse of `count` elements takes them at the caller's stride, and does what it does with the same elements
    in a list of the native element size. -/
structure AtCallersStride {α σ : Type} {w : Nat} (parse : UserMem → BitVec 64 → BitVec w → Parsed σ)
    (copy : UserMem → Nat → BitVec 64 → Except Int α) (native : BitVec w) (mem : UserMem) (ptr : BitVec 64)
    (size : BitVec w) (count : Nat) : Prop where
  addresses : Stride.AtStride ptr (size.setWidth 64) (parse mem ptr size).reads
  objects : ptr ≠ 0#64 → size ≠ 0#w → ∀ (mem' : UserMem) (ptr' : BitVec 64), ptr' ≠ 0#64 →
    (∀ i < count, copy mem size.toNat (ptr + i • size.setWidth 64) =
      copy mem' native.toNat (ptr' + i • native.setWidth 64)) →
    (parse mem ptr size).state = (parse mem' ptr' native).state ∧
      (parse mem ptr size).ret = (parse mem' ptr' native).ret

section CallersStride

variable {α σ : Type} {w : Nat} {s : σ} {start : BitVec 64 → BitVec w → Except Int σ}
  {copy : UserMem → Nat → BitVec 64 → Except Int α} {handle : σ → α → σ × Option Int}
  {stride : BitVec w → BitVec 64} {finish : σ → Int} {native : BitVec w} {count : Nat} {mem : UserMem}
  {ptr : BitVec 64} {size : BitVec w}

theorem atStride_parse_iff :
    Stride.AtStride ptr (size.setWidth 64)
        (parseUserList s (start ptr size) (copy mem size.toNat) handle (stride size) finish ptr count).reads ↔
      stride size = size.setWidth 64 ∨
        ¬ ReachesSecond (start ptr size) (copy mem size.toNat) handle ptr count := by
  unfold parseUserList ReachesSecond
  cases hstart : start ptr size with
  | error ret => simp [Stride.atStride_nil]
  | ok s' =>
      rw [Stride.atStride_walk_iff]
      simp

variable (start stride) in
/-- **One convention.** A parse whose checks before the loop do not look at where a list lies and how large its
    elements are, null pointers and empty elements apart, keeps to the caller's stride exactly when its own
    stride is the caller's or it does not get to a second element. -/
theorem atCallersStride_iff (hnative : stride native = native.setWidth 64) (hnonzero : native ≠ 0#w)
    (hstart : ∀ p p' z z', p ≠ 0#64 → p' ≠ 0#64 → z ≠ 0#w → z' ≠ 0#w → start p z = start p' z') :
    AtCallersStride
        (fun mem ptr size => parseUserList s (start ptr size) (copy mem size.toNat) handle (stride size) finish
          ptr count) copy native mem ptr size count ↔
      stride size = size.setWidth 64 ∨
        ¬ ReachesSecond (start ptr size) (copy mem size.toNat) handle ptr count := by
  constructor
  · intro h
    exact atStride_parse_iff.1 h.addresses
  intro h
  refine ⟨atStride_parse_iff.2 h, ?_⟩
  intro hptr hsize mem' ptr' hptr' hsame
  have hsame' := hstart ptr ptr' size native hptr hptr' hsize hnonzero
  unfold parseUserList
  rw [hnative, ← hsame']
  cases hs : start ptr size with
  | error ret => exact ⟨rfl, rfl⟩
  | ok s' =>
      -- at its own stride or not, the walk over the caller's list is the one at the caller's stride
      have hwalk : Stride.walk (copy mem size.toNat) handle (stride size) ptr count s' =
          Stride.walk (copy mem size.toNat) handle (size.setWidth 64) ptr count s' := by
        rcases h with h | h
        · rw [h]
        · apply Stride.walk_eq_of_short
          intro hsecond
          exact h ⟨s', hs, hsecond⟩
      simp only [hwalk]
      obtain ⟨hstate, herror⟩ := Stride.walk_congr hsame
      exact ⟨hstate, by rw [hstate, herror]⟩

end CallersStride

theorem verifyInputList_congr {p p' : BitVec 64} {z z' : BitVec 32} (count : BitVec 32) (hp : p ≠ 0#64)
    (hp' : p' ≠ 0#64) (hz : z ≠ 0#32) (hz' : z' ≠ 0#32) :
    verifyInputList count p z = verifyInputList count p' z' := by
  simp [verifyInputList, hp, hp', hz, hz']

theorem ofNat_eq_setWidth_iff {k : Nat} (hk : k < 2 ^ 32) (size : BitVec 32) :
    BitVec.ofNat 64 k = size.setWidth 64 ↔ size = BitVec.ofNat 32 k := by
  rw [← BitVec.toNat_inj, ← BitVec.toNat_inj, BitVec.toNat_ofNat, BitVec.toNat_ofNat, BitVec.toNat_setWidth]
  have := size.isLt
  omega

section Parsers

variable {mem : UserMem} {ptr : BitVec 64} {count : BitVec 32}

theorem cmdlist_atCallersStride_iff (cmdobj : DrawobjCmdLists) (size : BitVec 32) :
    AtCallersStride (hgslDrawobjCmdAddCmdlist cmdobj count) (copyElem CommandObject.ofBytes sizeofCommandObject)
        (BitVec.ofNat 32 sizeofCommandObject) mem ptr size count.toNat ↔
      size = BitVec.ofNat 32 sizeofCommandObject ∨
        ¬ ReachesSecond (cmdobjStart cmdobj count ptr size)
          (copyElem CommandObject.ofBytes sizeofCommandObject mem size.toNat) addCommand ptr count.toNat := by
  rw [← ofNat_eq_setWidth_iff (by decide) size]
  apply atCallersStride_iff (cmdobjStart cmdobj count) (fun _ => BitVec.ofNat 64 sizeofCommandObject) rfl (by decide)
  intro p p' z z' hp hp' hz hz'
  simp only [cmdobjStart, verifyInputList_congr count hp hp' hz hz']

theorem memlist_atCallersStride_iff (findNode : BitVec 64 → BitVec 64 → Option (Nat × BitVec 64))
    (cmdobj : DrawobjCmdLists) (size : BitVec 32) :
    AtCallersStride (hgslDrawobjCmdAddMemlist findNode cmdobj count)
        (copyElem CommandObject.ofBytes sizeofCommandObject) (BitVec.ofNat 32 sizeofCommandObject) mem ptr size
        count.toNat ↔
      size = BitVec.ofNat 32 sizeofCommandObject ∨
        ¬ ReachesSecond (cmdobjStart cmdobj count ptr size)
          (copyElem CommandObject.ofBytes sizeofCommandObject mem size.toNat) (addMemobj findNode) ptr
          count.toNat := by
  rw [← ofNat_eq_setWidth_iff (by decide) size]
  apply atCallersStride_iff (cmdobjStart cmdobj count) (fun _ => BitVec.ofNat 64 sizeofCommandObject) rfl (by decide)
  intro p p' z z' hp hp' hz hz'
  simp only [cmdobjStart, verifyInputList_congr count hp hp' hz hz']

theorem synclist_atCallersStride_iff {σ : Type} (addSyncEvent : σ → CommandSyncpoint → σ × Int)
    (alloc : Option σ) (syncobj : σ) (size : BitVec 32) :
    AtCallersStride (hgslDrawobjSyncAddSynclist addSyncEvent alloc syncobj count)
        (copyElem CommandSyncpoint.ofBytes sizeofCommandSyncpoint) (BitVec.ofNat 32 sizeofCommandSyncpoint) mem
        ptr size count.toNat ↔
      size = BitVec.ofNat 32 sizeofCommandSyncpoint ∨
        ¬ ReachesSecond (synclistStart alloc count ptr size)
          (copyElem CommandSyncpoint.ofBytes sizeofCommandSyncpoint mem size.toNat) (addSyncpoint addSyncEvent)
          ptr count.toNat := by
  rw [← ofNat_eq_setWidth_iff (by decide) size]
  apply atCallersStride_iff (synclistStart alloc count) (fun _ => BitVec.ofNat 64 sizeofCommandSyncpoint) rfl
    (by decide)
  intro p p' z z' hp hp' hz hz'
  simp only [synclistStart, verifyInputList_congr count hp hp' hz hz']

theorem timelineVals_atCallersStride (timelineGet : BitVec 32 → Option Nat) (contextGet : Bool)
    (queued : BitVec 32) (size : BitVec 64) :
    AtCallersStride (hgslDrawobjAddTimelineVals timelineGet contextGet queued count)
      (copyElem UserTimelineVal.ofBytes sizeofTimelineVal) (BitVec.ofNat 64 sizeofTimelineVal) mem ptr size
      count.toNat := by
  apply (atCallersStride_iff (fun _ _ => .ok []) (fun size => size) (BitVec.setWidth_eq _).symm (by decide)
    ?_).2 (.inl (BitVec.setWidth_eq size).symm)
  intro p p' z z' _ _ _ _
  rfl

theorem fenceArray_atCallersStride (timelineGet : BitVec 32 → Option Nat) (a : FenceArray) (size : BitVec 64) :
    AtCallersStride (hgslTimelinesToFenceArray timelineGet a count)
      (copyElem UserTimelineVal.ofBytes sizeofTimelineVal) (BitVec.ofNat 64 sizeofTimelineVal) mem ptr size
      count.toNat := by
  apply (atCallersStride_iff (fun _ _ => fenceArrayStart a count) (fun size => size)
    (BitVec.setWidth_eq _).symm (by decide) ?_).2 (.inl (BitVec.setWidth_eq size).symm)
  intro p p' z z' _ _ _ _
  rfl

end Parsers

/-- **User lists.** The three loops of a command take the elements at the caller's stride, and make of them what
    they make of a list with the native element size, exactly when the element size is the native one or they
    do not come to a second element. The two loops over timeline values always do. -/
theorem user_lists_at_callers_stride (mem : UserMem) (ptr : BitVec 64) (count : BitVec 32) :
    (∀ cmdobj size,
      AtCallersStride (hgslDrawobjCmdAddCmdlist cmdobj count) (copyElem CommandObject.ofBytes sizeofCommandObject)
          (BitVec.ofNat 32 sizeofCommandObject) mem ptr size count.toNat ↔
        size = BitVec.ofNat 32 sizeofCommandObject ∨
          ¬ ReachesSecond (cmdobjStart cmdobj count ptr size)
            (copyElem CommandObject.ofBytes sizeofCommandObject mem size.toNat) addCommand ptr count.toNat) ∧
      (∀ findNode cmdobj size,
        AtCallersStride (hgslDrawobjCmdAddMemlist findNode cmdobj count)
            (copyElem CommandObject.ofBytes sizeofCommandObject) (BitVec.ofNat 32 sizeofCommandObject) mem ptr
            size count.toNat ↔
          size = BitVec.ofNat 32 sizeofCommandObject ∨
            ¬ ReachesSecond (cmdobjStart cmdobj count ptr size)
              (copyElem CommandObject.ofBytes sizeofCommandObject mem size.toNat) (addMemobj findNode) ptr
              count.toNat) ∧
      (∀ (σ : Type) (addSyncEvent : σ → CommandSyncpoint → σ × Int) alloc syncobj size,
        AtCallersStride (hgslDrawobjSyncAddSynclist addSyncEvent alloc syncobj count)
            (copyElem CommandSyncpoint.ofBytes sizeofCommandSyncpoint) (BitVec.ofNat 32 sizeofCommandSyncpoint)
            mem ptr size count.toNat ↔
          size = BitVec.ofNat 32 sizeofCommandSyncpoint ∨
            ¬ ReachesSecond (synclistStart alloc count ptr size)
              (copyElem CommandSyncpoint.ofBytes sizeofCommandSyncpoint mem size.toNat)
              (addSyncpoint addSyncEvent) ptr count.toNat) ∧
      (∀ timelineGet contextGet queued size,
        AtCallersStride (hgslDrawobjAddTimelineVals timelineGet contextGet queued count)
          (copyElem UserTimelineVal.ofBytes sizeofTimelineVal) (BitVec.ofNat 64 sizeofTimelineVal) mem ptr size
          count.toNat) ∧
      ∀ timelineGet a size,
        AtCallersStride (hgslTimelinesToFenceArray timelineGet a count)
          (copyElem UserTimelineVal.ofBytes sizeofTimelineVal) (BitVec.ofNat 64 sizeofTimelineVal) mem ptr size
          count.toNat := by
  refine ⟨?_, ?_, ?_, ?_, ?_⟩
  · exact fun cmdobj size => cmdlist_atCallersStride_iff cmdobj size
  · exact fun findNode cmdobj size => memlist_atCallersStride_iff findNode cmdobj size
  · exact fun _ addSyncEvent alloc syncobj size => synclist_atCallersStride_iff addSyncEvent alloc syncobj size
  · exact fun timelineGet contextGet queued size => timelineVals_atCallersStride timelineGet contextGet queued size
  · exact fun timelineGet a size => fenceArray_atCallersStride timelineGet a size

/-- Memory from 0x1000 on that holds two commands with elements of `size` bytes; their addresses on the GPU are
    1 and 2. -/
def twoCommands (size : Nat) : UserMem := fun addr =>
  let k := addr.toNat - 0x1000
  if addr.toNat < 0x1000 ∨ 2 * size ≤ k then none
  else if k % size = 8 then some (BitVec.ofNat 8 (k / size + 1))
  else if k % size = 24 then some 1#8
  else some 0#8

/-- The same two commands in elements of 32 and of 40 bytes. The second list is turned down, because its second
    element is looked for 32 bytes behind the first. -/
theorem padded_commands_refused :
    copyElem CommandObject.ofBytes 32 (twoCommands 40) 40 0x1000#64 =
        copyElem CommandObject.ofBytes 32 (twoCommands 32) 32 0x1000#64 ∧
      copyElem CommandObject.ofBytes 32 (twoCommands 40) 40 0x1028#64 =
        copyElem CommandObject.ofBytes 32 (twoCommands 32) 32 0x1020#64 ∧
      (hgslDrawobjCmdAddCmdlist {} 2#32 (twoCommands 32) 0x1000#64 32#32).ret = 0 ∧
      (hgslDrawobjCmdAddCmdlist {} 2#32 (twoCommands 40) 0x1000#64 40#32).reads = [0x1000#64, 0x1020#64] ∧
      (hgslDrawobjCmdAddCmdlist {} 2#32 (twoCommands 40) 0x1000#64 40#32).ret = -EFAULT := by
  decide +kernel

end Hgsl
