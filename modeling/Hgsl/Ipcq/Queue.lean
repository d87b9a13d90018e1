import Hgsl.Timestamp
import Hgsl.Doorbell.Message
import Hgsl.Lib.RecordRing
import Mathlib.Data.BitVec

set_option autoImplicit false

/-! # The queue of messages from the other side

A ring in memory that the other side writes. The driver has a copy of the queue header; of the shared one it
takes `writeIdx` again before every message, and it stores `readIdx` there. Indices and sizes are in dwords,
32 bits wide, and so are the byte offsets that are made of them. `hgsl_gmugos_handle_ipcq_msg` reads one
message after the other until the two indices of the copy meet. -/

namespace Hgsl

/-- `struct HfiQueueHeader`, the driver's copy, as far as the reading of messages looks at it -/
structure HfiQueueHeader where
  dwSize : BitVec 32
  readIdx : BitVec 32
  writeIdx : BitVec 32
  deriving DecidableEq, Repr

/-- The field `msg_size_dword` of a `struct HfiMsgHeader_t` -/
def msgSizeDword (msgHeader : BitVec 32) : BitVec 32 := (msgHeader >>> 8) &&& 0xff#32

/-- `ALIGN_DWORD_ADDRESS_4DWORD` -/
def alignDwordAddress4Dword (dwaddr : BitVec 32) : BitVec 32 := BitVec.ofNat 32 (align4Nat dwaddr.toNat)

/-- `hgsl_new_idx` -/
def hgslNewIdx (header : HfiQueueHeader) (idx msgSize : BitVec 32) : BitVec 32 :=
  (idx + alignDwordAddress4Dword msgSize) % header.dwSize

/-- `hgsl_get_queue_occupancy` -/
def hgslGetQueueOccupancy (header : HfiQueueHeader) : BitVec 32 :=
  (header.writeIdx + header.dwSize - header.readIdx) % header.dwSize

/-- The dword that a byte offset of 32 bits, four times an index, leads to. -/
def dwordAt (idx : BitVec 32) : Nat := (idx * 4#32).toNat / 4

/-- `hgsl_validate_ipcq_read`: the dwords it reads, and the header of the message if the read is valid. -/
def hgslValidateIpcqRead (ring : Nat → BitVec 32) (header : HfiQueueHeader) :
    List Nat × Option (BitVec 32) :=
  let occupied := hgslGetQueueOccupancy header
  if header.dwSize < header.readIdx then ([], none)
  else if occupied < 1#32 then ([], none)
  else
    let msgHeader := ring (dwordAt header.readIdx)
    ([dwordAt header.readIdx],
      if occupied < msgSizeDword msgHeader then none
      else if msgSizeDword msgHeader = 0#32 then none
      else some msgHeader)

/-- `hgsl_ipcq_copy_msg`: the dwords that it copies, in their order in the buffer. -/
def hgslIpcqCopyMsg (header : HfiQueueHeader) (msgSize : BitVec 32) : List Nat :=
  let chunk :=
    if msgSize < header.dwSize - header.readIdx then msgSize else header.dwSize - header.readIdx
  (List.range chunk.toNat).map (dwordAt header.readIdx + ·) ++
    if chunk < msgSize then List.range (msgSize - chunk).toNat else []

/-- What `hgsl_read_msg_from_ipcq` does. -/
structure IpcqRead where
  ret : Int
  /-- the dwords of the ring that it reads -/
  reads : List Nat
  /-- what it writes to the message buffer, from its start on -/
  msgBuffer : List (BitVec 32)
  header : HfiQueueHeader
  /-- what it stores in the shared header -/
  storedReadIdx : Option (BitVec 32)
  deriving DecidableEq, Repr

/-- `hgsl_read_msg_from_ipcq`; the other side may change the ring between the two looks at it. -/
def hgslReadMsgFromIpcq (ring later : Nat → BitVec 32) (header : HfiQueueHeader) : IpcqRead :=
  if header.dwSize ≤ header.readIdx ∨ header.dwSize ≤ header.writeIdx then ⟨-EINVAL, [], [], header, none⟩
  else
    match hgslValidateIpcqRead ring header with
    | (reads, none) => ⟨-EINVAL, reads, [], header, none⟩
    | (reads, some msgHeader) =>
      let copied := hgslIpcqCopyMsg header (msgSizeDword msgHeader)
      let readIdx := hgslNewIdx header header.readIdx (alignDwordAddress4Dword (msgSizeDword msgHeader))
      { ret := 0
        reads := reads ++ copied
        -- the first dword is the header that was checked
        msgBuffer := (copied.map later).set 0 msgHeader
        header := { header with readIdx := readIdx }
        storedReadIdx := some readIdx }

/-- What a drain of the queue comes to. -/
structure Drained where
  /-- the messages that were handed on -/
  delivered : List (List (BitVec 32))
  header : HfiQueueHeader
  /-- `readIdx` in the shared header -/
  sharedReadIdx : BitVec 32
  ret : Int
  deriving DecidableEq, Repr

/-- The loop of `hgsl_gmugos_handle_ipcq_msg`, for at most `fuel` turns, while the ring and `writeIdx` stay as
    they are. -/
def drainIpcq (ring : Nat → BitVec 32) : Nat → HfiQueueHeader → BitVec 32 → Option Drained
  | 0, _, _ => none
  | fuel + 1, header, shared =>
    if header.readIdx = header.writeIdx then some ⟨[], header, shared, 0⟩
    else
      let r := hgslReadMsgFromIpcq ring ring header
      if r.ret ≠ 0 then some ⟨[], r.header, shared, r.ret⟩
      else
        (drainIpcq ring fuel r.header (r.storedReadIdx.getD shared)).map fun d =>
          { d with delivered := r.msgBuffer :: d.delivered }

/-- `hgsl_gmugos_handle_ipcq_msg`; `active` is `header->status`, `writeIdx` the index in the shared header. -/
def hgslGmugosHandleIpcqMsg (ring : Nat → BitVec 32) (fuel : Nat) (active : Bool) (header : HfiQueueHeader)
    (writeIdx shared : BitVec 32) : Option Drained :=
  if !active then some ⟨[], header, shared, 0⟩
  else drainIpcq ring fuel { header with writeIdx := writeIdx } shared

/-! ## Bounds -/

theorem msgSizeDword_le (msgHeader : BitVec 32) : (msgSizeDword msgHeader).toNat ≤ 255 := by
  unfold msgSizeDword
  rw [BitVec.toNat_and]
  exact Nat.and_le_right

theorem toNat_occupancy_lt {header : HfiQueueHeader} (h : header.readIdx < header.dwSize) :
    (hgslGetQueueOccupancy header).toNat < header.dwSize.toNat := by
  unfold hgslGetQueueOccupancy
  rw [BitVec.toNat_umod]
  apply Nat.mod_lt
  have := BitVec.lt_def.1 h
  omega

theorem dwordAt_le (idx : BitVec 32) : dwordAt idx ≤ idx.toNat := by
  unfold dwordAt
  rw [BitVec.toNat_mul]
  have : idx.toNat * 4 % 2 ^ 32 ≤ idx.toNat * 4 := Nat.mod_le _ _
  simp only [BitVec.toNat_ofNat]
  omega

/-- The copy takes as many dwords as the message has, all of them in the ring. -/
theorem ipcqCopyMsg_bounds {header : HfiQueueHeader} {msgSize : BitVec 32} (hread : header.readIdx < header.dwSize)
    (hsize : msgSize.toNat < header.dwSize.toNat) :
    (hgslIpcqCopyMsg header msgSize).length = msgSize.toNat ∧
      ∀ i ∈ hgslIpcqCopyMsg header msgSize, i < header.dwSize.toNat := by
  have hroom : (header.dwSize - header.readIdx).toNat = header.dwSize.toNat - header.readIdx.toNat :=
    BitVec.toNat_sub_of_le (BitVec.le_of_lt hread)
  have hread' := BitVec.lt_def.1 hread
  have hat := dwordAt_le header.readIdx
  unfold hgslIpcqCopyMsg
  split
  · next hlt =>
      have hlt' := BitVec.lt_def.1 hlt
      simp only [BitVec.lt_irrefl, if_false, List.append_nil, List.length_map, List.length_range, List.mem_map,
        List.mem_range, forall_exists_index, and_imp, forall_apply_eq_imp_iff₂, true_and]
      intro k hk
      omega
  · next hge =>
      have hle := BitVec.not_lt.1 hge
      have hle' := BitVec.le_def.1 hle
      have hrest := BitVec.toNat_sub_of_le hle
      dsimp only
      constructor
      · split
        · simp only [List.length_append, List.length_map, List.length_range]
          omega
        · next hnot =>
            have := BitVec.le_def.1 (BitVec.not_lt.1 hnot)
            simp only [List.append_nil, List.length_map, List.length_range]
            omega
      · intro i hi
        rcases List.mem_append.1 hi with hi | hi
        · simp only [List.mem_map, List.mem_range] at hi
          obtain ⟨k, hk, rfl⟩ := hi
          omega
        · split at hi
          · have := List.mem_range.1 hi
            omega
          · cases hi

/-- A read is valid if the size of the message is neither 0 nor more than what is there. -/
theorem hgslValidateIpcqRead_eq {ring : Nat → BitVec 32} {header : HfiQueueHeader}
    (hread : header.readIdx < header.dwSize) :
    hgslValidateIpcqRead ring header =
      (if hgslGetQueueOccupancy header < 1#32 then [] else [dwordAt header.readIdx],
        if 1 ≤ (msgSizeDword (ring (dwordAt header.readIdx))).toNat ∧
            (msgSizeDword (ring (dwordAt header.readIdx))).toNat ≤ (hgslGetQueueOccupancy header).toNat then
          some (ring (dwordAt header.readIdx))
        else none) := by
  unfold hgslValidateIpcqRead
  simp only [BitVec.not_lt.2 (BitVec.le_of_lt hread), if_false, BitVec.lt_def, ← BitVec.toNat_inj,
    BitVec.toNat_ofNat, Nat.reducePow, Nat.reduceMod]
  generalize (hgslGetQueueOccupancy header).toNat = occupied
  generalize (msgSizeDword (ring (dwordAt header.readIdx))).toNat = size
  by_cases hempty : occupied < 1
  · have hnot : ¬ (1 ≤ size ∧ size ≤ occupied) := by omega
    simp only [hempty, hnot, if_true, if_false]
  · simp only [hempty, if_false]
    by_cases hlarge : occupied < size
    · have hnot : ¬ (1 ≤ size ∧ size ≤ occupied) := by omega
      simp only [hlarge, hnot, if_true, if_false]
    · by_cases hzero : size = 0
      · simp [hzero]
      · have hvalid : 1 ≤ size ∧ size ≤ occupied := by omega
        simp only [hlarge, hzero, hvalid, and_self, if_true, if_false]

/-- **Bounds.** Whatever the ring holds and the indices are, only dwords of the ring are read, and the message
    buffer has room for what is written. -/
theorem readMsg_bounds (ring later : Nat → BitVec 32) (header : HfiQueueHeader) :
    (∀ i ∈ (hgslReadMsgFromIpcq ring later header).reads, i < header.dwSize.toNat) ∧
      (hgslReadMsgFromIpcq ring later header).msgBuffer.length ≤ 255 := by
  unfold hgslReadMsgFromIpcq
  split
  · simp
  · next hrange =>
      have hread : header.readIdx < header.dwSize := BitVec.not_le.1 fun h => hrange (.inl h)
      have hat : dwordAt header.readIdx < header.dwSize.toNat :=
        Nat.lt_of_le_of_lt (dwordAt_le _) (BitVec.lt_def.1 hread)
      have hfirst : ∀ i ∈ (if hgslGetQueueOccupancy header < 1#32 then [] else [dwordAt header.readIdx]),
          i < header.dwSize.toNat := by
        intro i hi
        split at hi
        · cases hi
        · rwa [List.mem_singleton.1 hi]
      rw [hgslValidateIpcqRead_eq hread]
      split
      · next reads hvalid =>
          obtain ⟨rfl, -⟩ := Prod.mk.inj hvalid
          exact ⟨hfirst, by simp⟩
      · next reads msgHeader hvalid =>
          obtain ⟨rfl, hsome⟩ := Prod.mk.inj hvalid
          rw [Option.ite_none_right_eq_some] at hsome
          obtain ⟨⟨-, hle⟩, hheader⟩ := hsome
          obtain rfl := Option.some.inj hheader
          obtain ⟨hlength, hbounds⟩ :=
            ipcqCopyMsg_bounds hread (Nat.lt_of_le_of_lt hle (toNat_occupancy_lt hread))
          constructor
          · intro i hi
            rcases List.mem_append.1 hi with hi | hi
            · exact hfirst i hi
            · exact hbounds i hi
          · rw [List.length_set, List.length_map, hlength]
            exact msgSizeDword_le _

end Hgsl
