import Hgsl.Doorbell.ContextIssue
import Hgsl.Doorbell.QueueIssue
import Hgsl.Lib.Bytes

set_option autoImplicit false

/-! # The issue command in memory

`hgsl_dbcq_issue_cmd` and `hgsl_db_issue_cmd` write a `struct hgsl_db_cmds` field by field to the message buffer,
and the IB descriptors behind it or to the indirect buffer. Both buffers are taken in dwords; a field of 64 bits is
two of them, the low one first. The GMU reads the message back. -/

namespace Hgsl

/-! ## Buffers -/

/-- A buffer of `size` bytes. -/
structure DwordBuf where
  size : Nat
  mem : Nat → BitVec 32
  /-- history: a dword was written behind the end -/
  outside : Bool := false

namespace DwordBuf

/-- `hgsl_zalloc` -/
def zalloc (size : Nat) : DwordBuf := { size := size, mem := fun _ => 0#32 }

/-- A write of `xs` from dword `d` on -/
def write (b : DwordBuf) (d : Nat) (xs : List (BitVec 32)) : DwordBuf :=
  { b with
    mem := Ring.put b.mem d xs
    outside := b.outside || decide (b.size < (d + xs.length) * 4) }

/-- The first `n` dwords -/
def read (b : DwordBuf) (n : Nat) : List (BitVec 32) := Bytes.read b.mem 0 n

@[simp] theorem size_write (b : DwordBuf) (d : Nat) (xs : List (BitVec 32)) : (b.write d xs).size = b.size := rfl

theorem outside_write {b : DwordBuf} (d : Nat) (xs : List (BitVec 32)) :
    (b.write d xs).outside = false ↔ b.outside = false ∧ (d + xs.length) * 4 ≤ b.size := by
  simp [write]

end DwordBuf

/-! ## The struct -/

/-- A field of 64 bits -/
def dwords64 (x : BitVec 64) : List (BitVec 32) := [x.setWidth 32, (x >>> 32).setWidth 32]

/-- `struct hgsl_fw_ib_desc` -/
def FwIbDesc.dwords (d : FwIbDesc) : List (BitVec 32) := dwords64 d.addr ++ [d.sz]

/-- An array of descriptors -/
def ibDwords (ds : List FwIbDesc) : List (BitVec 32) := ds.flatMap FwIbDesc.dwords

/-- `struct hgsl_db_cmds` -/
def DbCmds.dwords (c : DbCmds) : List (BitVec 32) :=
  [c.header, c.ctxId, c.cmdFlags, c.timestamp] ++ dwords64 c.userProfileGpuaddr ++ [c.numIbs, c.ibDescGmuaddr] ++
    ibDwords c.ibDescs

/-- The fields of the message that a call sets first -/
def IssueCall.setFields (c : IssueCall) : DwordBuf :=
  let b := DwordBuf.zalloc (align4Nat c.msgDwords * 4)
  let b := ((b.write 0 [c.cmds.header]).write 1 [c.cmds.ctxId]).write 6 [c.cmds.numIbs]
  ((b.write 2 [c.cmds.cmdFlags]).write 3 [c.cmds.timestamp]).write 4 (dwords64 c.cmds.userProfileGpuaddr)

/-- The message buffer and the indirect buffer `ibs`, which is at `gmuaddr`, when the call is about to send -/
def IssueCall.fill (c : IssueCall) (gmuaddr : BitVec 32) (ibs : DwordBuf) : DwordBuf × DwordBuf :=
  if c.isBatchIbdesc then
    ((c.setFields.write 7 [gmuaddr]).write 2 [c.cmds.cmdFlags ||| CMDBATCH_INDIRECT],
      ibs.write 0 (ibDwords c.args.ibDescs))
  else if 0 < c.args.numIbs then (c.setFields.write 8 (ibDwords c.args.ibDescs), ibs)
  else (c.setFields, ibs)

/-- The message that goes to the ring -/
def IssueCall.message (c : IssueCall) (gmuaddr : BitVec 32) (ibs : DwordBuf) : List (BitVec 32) :=
  (c.fill gmuaddr ibs).1.read c.msgDwords

/-! ## The header -/

/-- `MSG_SEQ_NO_GET` -/
def msgSeqNoGet (x : BitVec 32) : BitVec 32 := (x &&& 0xFFF00000#32) >>> 20

/-- `MSG_TYPE_GET` -/
def msgTypeGet (x : BitVec 32) : BitVec 32 := (x &&& 0x000F0000#32) >>> 16

/-- `MSG_SZ_GET` -/
def msgSzGet (x : BitVec 32) : BitVec 32 := (x &&& 0x0000FF00#32) >>> 8

/-- `MSG_ID_GET` -/
def msgIdGet (x : BitVec 32) : BitVec 32 := x &&& 0x000000FF#32

/-- Fields that fit their places do not disturb each other; the sequence number is cut. -/
theorem toNat_makeHfiMsgHeader {msgId msgType msgSize : BitVec 32} (msgSeqnum : BitVec 32) (hid : msgId.toNat < 2 ^ 8)
    (hsize : msgSize.toNat < 2 ^ 8) (htype : msgType.toNat < 2 ^ 4) :
    (makeHfiMsgHeader msgId msgType msgSize msgSeqnum).toNat =
      msgSeqnum.toNat % 2 ^ 12 * 2 ^ 20 + (msgType.toNat * 2 ^ 16 + (msgSize.toNat * 2 ^ 8 + msgId.toNat)) := by
  have hsize' : (msgSize <<< 8).toNat = msgSize.toNat <<< 8 := by
    rw [BitVec.toNat_shiftLeft, Nat.shiftLeft_eq]
    omega
  have htype' : (msgType <<< 16).toNat = msgType.toNat <<< 16 := by
    rw [BitVec.toNat_shiftLeft, Nat.shiftLeft_eq]
    omega
  have hseq' : (msgSeqnum <<< 20).toNat = (msgSeqnum.toNat % 2 ^ 12) <<< 20 := by
    rw [BitVec.toNat_shiftLeft, Nat.shiftLeft_eq, Nat.shiftLeft_eq]
    omega
  unfold makeHfiMsgHeader
  rw [BitVec.toNat_or, BitVec.toNat_or, BitVec.toNat_or, hsize', htype', hseq', Nat.or_comm msgId.toNat,
    ← Nat.shiftLeft_add_eq_or_of_lt hid, Nat.or_comm _ (msgType.toNat <<< 16),
    ← Nat.shiftLeft_add_eq_or_of_lt (by rw [Nat.shiftLeft_eq]; omega),
    Nat.or_comm _ ((msgSeqnum.toNat % 2 ^ 12) <<< 20),
    ← Nat.shiftLeft_add_eq_or_of_lt (by rw [Nat.shiftLeft_eq, Nat.shiftLeft_eq]; omega)]
  simp only [Nat.shiftLeft_eq]

/-- A field of `w` bits, `k` bits from the right -/
theorem toNat_field {mask : BitVec 32} {k w : Nat} (x : BitVec 32) (hmask : (mask >>> k).toNat = 2 ^ w - 1) :
    ((x &&& mask) >>> k).toNat = x.toNat / 2 ^ k % 2 ^ w := by
  rw [BitVec.ushiftRight_and_distrib, BitVec.toNat_and, hmask, BitVec.toNat_ushiftRight, Nat.shiftRight_eq_div_pow,
    Nat.and_two_pow_sub_one_eq_mod]

theorem toNat_msgIdGet (x : BitVec 32) : (msgIdGet x).toNat = x.toNat % 2 ^ 8 := by
  unfold msgIdGet
  rw [BitVec.toNat_and]
  exact Nat.and_two_pow_sub_one_eq_mod x.toNat 8

theorem toNat_msgSzGet (x : BitVec 32) : (msgSzGet x).toNat = x.toNat / 2 ^ 8 % 2 ^ 8 := toNat_field x rfl

theorem toNat_msgTypeGet (x : BitVec 32) : (msgTypeGet x).toNat = x.toNat / 2 ^ 16 % 2 ^ 4 := toNat_field x rfl

theorem toNat_msgSeqNoGet (x : BitVec 32) : (msgSeqNoGet x).toNat = x.toNat / 2 ^ 20 % 2 ^ 12 := toNat_field x rfl

/-! ## Reading back -/

/-- `n` descriptors from dwords -/
def parseIbs : Nat → List (BitVec 32) → List FwIbDesc
  | n + 1, lo :: hi :: sz :: rest => ⟨hi ++ lo, sz⟩ :: parseIbs n rest
  | _, _ => []

/-- A message as the GMU reads it: with `CMDBATCH_INDIRECT` the descriptors are in the indirect buffer. -/
def decode (msg : List (BitVec 32)) (ibs : DwordBuf) : Option DbCmds :=
  match msg with
  | header :: ctxId :: cmdFlags :: timestamp :: lo :: hi :: numIbs :: ibDescGmuaddr :: rest =>
    let indirect := cmdFlags &&& CMDBATCH_INDIRECT ≠ 0#32
    some {
      header := header, ctxId := ctxId, cmdFlags := cmdFlags, timestamp := timestamp
      userProfileGpuaddr := hi ++ lo, numIbs := numIbs, ibDescGmuaddr := ibDescGmuaddr
      ibDescs := parseIbs numIbs.toNat (if indirect then ibs.read (numIbs.toNat * 3) else rest) }
  | _ => none

theorem append_dwords64 (x : BitVec 64) : (x >>> 32).setWidth 32 ++ x.setWidth 32 = x := by
  apply BitVec.eq_of_getLsbD_eq
  intro i hi
  rw [BitVec.getLsbD_append]
  by_cases hlow : i < 32
  · simp [hlow]
  · have hhigh : 32 + (i - 32) = i := by omega
    simp [hlow, hhigh]
    omega

@[simp] theorem length_ibDwords (ds : List FwIbDesc) : (ibDwords ds).length = ds.length * 3 := by
  induction ds with
  | nil => rfl
  | cons d ds ih =>
      rw [ibDwords, List.flatMap_cons, List.length_append, ← ibDwords, ih, List.length_cons]
      simp [FwIbDesc.dwords, dwords64]
      omega

theorem parseIbs_ibDwords (ds : List FwIbDesc) : parseIbs ds.length (ibDwords ds) = ds := by
  induction ds with
  | nil => rfl
  | cons d ds ih =>
      have hcons : ibDwords (d :: ds) = d.addr.setWidth 32 :: (d.addr >>> 32).setWidth 32 :: d.sz :: ibDwords ds := rfl
      rw [hcons, List.length_cons, parseIbs, ih, append_dwords64]

theorem length_dwords64 (x : BitVec 64) : (dwords64 x).length = 2 := rfl

/-- The message as it stands when the call is about to send -/
def IssueCall.final (c : IssueCall) (gmuaddr : BitVec 32) : DbCmds :=
  if c.isBatchIbdesc then c.cmds.indirect gmuaddr else c.cmds

/-- What both functions have when they are done with the message, but for the wait for the indirect buffer -/
structure Issued (a : IssueArgs) (ctxId timestamp seqNo : BitVec 32) (c : IssueCall) : Prop where
  args : c.args = a
  count : a.numIbs ≤ ECP_MAX_NUM_IB1
  dwords : c.msgDwords = if c.isBatchIbdesc then msgIssueInfSz else msgIssueInfSz + msgIssueIbsSz a.numIbs
  size : c.msgDwords ≤ msgSzMax
  cmds : c.cmds = (a.cmds ctxId timestamp (BitVec.ofNat 32 c.msgDwords) seqNo).inline
    (if c.isBatchIbdesc then [] else a.ibDescs)

/-! ## The message -/

theorem read_eight (b : DwordBuf) :
    b.read 8 = [b.mem 0, b.mem 1, b.mem 2, b.mem 3, b.mem 4, b.mem 5, b.mem 6, b.mem 7] := by
  simp [DwordBuf.read, Bytes.read, List.range_succ]

/-- The fields, in the order of the struct -/
theorem setFields_read (c : IssueCall) : c.setFields.read 8 =
    [c.cmds.header, c.cmds.ctxId, c.cmds.cmdFlags, c.cmds.timestamp] ++ dwords64 c.cmds.userProfileGpuaddr ++
      [c.cmds.numIbs, 0#32] := by
  rw [read_eight]
  simp [IssueCall.setFields, DwordBuf.write, DwordBuf.zalloc, Ring.put, dwords64]

variable {a : IssueArgs} {ctxId timestamp seqNo gmuaddr : BitVec 32} {c : IssueCall} {ibs : DwordBuf}

/-- The message is the struct in dwords. -/
theorem Issued.message_eq (h : Issued a ctxId timestamp seqNo c) :
    c.message gmuaddr ibs = (c.final gmuaddr).dwords := by
  have hdwords := h.dwords
  unfold IssueCall.message IssueCall.fill IssueCall.final
  rw [h.args]
  cases hbatch : c.isBatchIbdesc with
  | true =>
      simp only [hbatch, if_true] at hdwords ⊢
      rw [hdwords]
      change ((c.setFields.write 7 [gmuaddr]).write 2 [c.cmds.cmdFlags ||| CMDBATCH_INDIRECT]).read 8 = _
      rw [read_eight]
      simp [IssueCall.setFields, DwordBuf.write, DwordBuf.zalloc, Ring.put, dwords64, DbCmds.dwords, DbCmds.indirect,
        h.cmds, hbatch, DbCmds.inline, ibDwords]
  | false =>
      simp only [hbatch, Bool.false_eq_true, if_false] at hdwords ⊢
      have hfields : c.setFields.read 8 ++ ibDwords a.ibDescs = c.cmds.dwords := by
        rw [setFields_read]
        simp [DbCmds.dwords, h.cmds, hbatch, DbCmds.inline, IssueArgs.cmds]
      rw [← hfields]
      split_ifs with hsome
      · have hlen : c.msgDwords = 8 + (ibDwords a.ibDescs).length := by
          rw [hdwords, length_ibDwords]
          rfl
        rw [hlen]
        unfold DwordBuf.read DwordBuf.write
        rw [Bytes.read_add, Bytes.read_put_before _ (by omega), Nat.zero_add, Bytes.read_put]
      · have hnil : a.ibDescs = [] := by
          rw [← List.length_eq_zero_iff]
          exact Nat.eq_zero_of_not_pos hsome
        have hlen : c.msgDwords = 8 := by
          rw [hdwords, IssueArgs.numIbs, hnil]
          rfl
        simp [hlen, hnil, ibDwords]

@[simp] theorem IssueCall.length_message (c : IssueCall) (gmuaddr : BitVec 32) (ibs : DwordBuf) :
    (c.message gmuaddr ibs).length = c.msgDwords := by
  simp [IssueCall.message, DwordBuf.read]

theorem Issued.header (h : Issued a ctxId timestamp seqNo c) :
    (c.final gmuaddr).header.toNat = seqNo.toNat % 2 ^ 12 * 2 ^ 20 + (c.msgDwords * 2 ^ 8 + 130) := by
  have hsize : c.msgDwords ≤ 255 := h.size
  have hheader : (c.final gmuaddr).header = hfiIssueIbHeader (BitVec.ofNat 32 c.msgDwords) seqNo := by
    unfold IssueCall.final
    rw [h.cmds]
    split <;> rfl
  have hdwords : (BitVec.ofNat 32 c.msgDwords).toNat = c.msgDwords := by
    rw [BitVec.toNat_ofNat]
    omega
  rw [hheader, hfiIssueIbHeader, toNat_makeHfiMsgHeader seqNo (by decide) (by omega) (by decide), hdwords]
  simp

/-! ## Bounds -/

/-- Every write is inside of its buffer. -/
theorem Issued.inside (h : Issued a ctxId timestamp seqNo c)
    (hbuf : c.isBatchIbdesc = true → a.numIbs * sizeofFwIbDesc ≤ ibs.size) (hibs : ibs.outside = false) :
    (c.fill gmuaddr ibs).1.outside = false ∧ (c.fill gmuaddr ibs).2.outside = false := by
  have hdwords := h.dwords
  have hroom : c.msgDwords ≤ align4Nat c.msgDwords := by
    unfold align4Nat
    omega
  have hfields : 8 ≤ c.msgDwords → c.setFields.outside = false := by
    intro height
    simp only [IssueCall.setFields, DwordBuf.outside_write, DwordBuf.size_write, length_dwords64]
    simp [DwordBuf.zalloc]
    omega
  have hsize : c.setFields.size = align4Nat c.msgDwords * 4 := rfl
  have hlen : (ibDwords a.ibDescs).length = a.numIbs * 3 := length_ibDwords _
  unfold IssueCall.fill
  rw [h.args]
  split_ifs with hbatch hsome
  · have height : c.msgDwords = 8 := by
      rw [hdwords, if_pos hbatch]
      rfl
    have hfit := hbuf hbatch
    unfold sizeofFwIbDesc at hfit
    simp only [DwordBuf.outside_write, DwordBuf.size_write, hlen, hfields height.ge, hsize, hibs, List.length_singleton]
    exact ⟨⟨⟨trivial, by omega⟩, by omega⟩, trivial, by omega⟩
  all_goals
    have hall : c.msgDwords = 8 + a.numIbs * 3 := by
      rw [hdwords, if_neg hbatch]
      rfl
    have hset := hfields (by omega)
  · refine ⟨(DwordBuf.outside_write _ _).2 ⟨hset, ?_⟩, hibs⟩
    rw [hlen, hsize]
    omega
  · exact ⟨hset, hibs⟩

/-! ## Faithfulness -/

/-- What the GMU reads back from the message of a call with the arguments `a`. -/
structure Faithful (a : IssueArgs) (ctxId timestamp seqNo gmuaddr : BitVec 32) (c : IssueCall)
    (msg : List (BitVec 32)) (m : DbCmds) : Prop where
  ctxId : m.ctxId = ctxId
  timestamp : m.timestamp = timestamp
  userProfileGpuaddr : m.userProfileGpuaddr = a.userProfileGpuaddr
  cmdFlags : m.cmdFlags &&& ~~~CMDBATCH_INDIRECT = a.gmuCmdFlags &&& ~~~CMDBATCH_INDIRECT
  /-- A caller that sets `CMDBATCH_INDIRECT` itself sends the GMU to the indirect buffer. -/
  ibDescs : a.gmuCmdFlags &&& CMDBATCH_INDIRECT = 0#32 ∨ c.isBatchIbdesc = true ∨ a.ibDescs = [] →
    m.ibDescs = a.ibDescs
  ibDescGmuaddr : c.isBatchIbdesc = true → m.ibDescGmuaddr = gmuaddr
  msgId : (msgIdGet m.header).toNat = 130
  msgType : (msgTypeGet m.header).toNat = 0
  msgSz : (msgSzGet m.header).toNat = msg.length
  msgSeqNo : (msgSeqNoGet m.header).toNat = seqNo.toNat % 4096

theorem decode_dwords (m : DbCmds) (ibs : DwordBuf) : decode m.dwords ibs =
    some { m with
      ibDescs := parseIbs m.numIbs.toNat
        (if m.cmdFlags &&& CMDBATCH_INDIRECT ≠ 0#32 then ibs.read (m.numIbs.toNat * 3) else ibDwords m.ibDescs) } := by
  simp [decode, DbCmds.dwords, dwords64, append_dwords64]

theorem parseIbs_zero (xs : List (BitVec 32)) : parseIbs 0 xs = [] := by
  simp [parseIbs]

theorem or_and_self_ne_zero (x : BitVec 32) : (x ||| CMDBATCH_INDIRECT) &&& CMDBATCH_INDIRECT ≠ 0#32 := by
  intro hzero
  have hbit := congrArg (fun y => y.getLsbD 9) hzero
  simp [CMDBATCH_INDIRECT] at hbit

theorem or_and_not_self (x : BitVec 32) : (x ||| CMDBATCH_INDIRECT) &&& ~~~CMDBATCH_INDIRECT =
    x &&& ~~~CMDBATCH_INDIRECT := by
  ext i hi
  simp only [BitVec.getElem_and, BitVec.getElem_or, BitVec.getElem_not]
  cases CMDBATCH_INDIRECT[i] <;> simp

/-- The descriptors are read from where they were put. -/
theorem Issued.parse (h : Issued a ctxId timestamp seqNo c)
    (hplain : a.gmuCmdFlags &&& CMDBATCH_INDIRECT = 0#32 ∨ c.isBatchIbdesc = true ∨ a.ibDescs = []) :
    parseIbs a.numIbs (if (c.final gmuaddr).cmdFlags &&& CMDBATCH_INDIRECT ≠ 0#32 then
      (c.fill gmuaddr ibs).2.read (a.numIbs * 3) else ibDwords (c.final gmuaddr).ibDescs) = a.ibDescs := by
  have hlen : (ibDwords a.ibDescs).length = a.numIbs * 3 := length_ibDwords _
  unfold IssueCall.final IssueCall.fill
  rw [h.args, h.cmds]
  cases hbatch : c.isBatchIbdesc with
  | true =>
      have hread : (ibs.write 0 (ibDwords a.ibDescs)).read (a.numIbs * 3) = ibDwords a.ibDescs := by
        unfold DwordBuf.read DwordBuf.write
        rw [← hlen, Bytes.read_put]
      have hflag := or_and_self_ne_zero a.gmuCmdFlags
      simp only [if_true, DbCmds.indirect, DbCmds.inline, IssueArgs.cmds]
      rw [if_pos hflag, hread]
      exact parseIbs_ibDwords a.ibDescs
  | false =>
      rcases hplain with hflag | htrue | hnil
      · simp only [Bool.false_eq_true, if_false, DbCmds.inline, IssueArgs.cmds, hflag]
        exact parseIbs_ibDwords a.ibDescs
      · simp [hbatch] at htrue
      · have hzero : a.numIbs = 0 := by simp [IssueArgs.numIbs, hnil]
        rw [hzero, parseIbs_zero, hnil]

theorem Issued.faithful (h : Issued a ctxId timestamp seqNo c) : ∃ m,
    decode (c.message gmuaddr ibs) (c.fill gmuaddr ibs).2 = some m ∧
      Faithful a ctxId timestamp seqNo gmuaddr c (c.message gmuaddr ibs) m := by
  have hheader := @Issued.header a ctxId timestamp seqNo gmuaddr c h
  have hsize : c.msgDwords ≤ 255 := h.size
  have hcount : a.numIbs ≤ 2000 := h.count
  have hnum : (c.final gmuaddr).numIbs.toNat = a.numIbs := by
    have hfinal : (c.final gmuaddr).numIbs = BitVec.ofNat 32 a.numIbs := by
      unfold IssueCall.final
      rw [h.cmds]
      split <;> rfl
    rw [hfinal, BitVec.toNat_ofNat]
    omega
  have hmsg : c.message gmuaddr ibs = (c.final gmuaddr).dwords := h.message_eq
  have hlength := c.length_message gmuaddr ibs
  rw [hmsg] at hlength ⊢
  rw [decode_dwords, hnum]
  refine ⟨_, rfl, ?_⟩
  constructor
  case ibDescs => exact h.parse
  case msgId =>
    rw [toNat_msgIdGet, hheader]
    omega
  case msgType =>
    rw [toNat_msgTypeGet, hheader]
    omega
  case msgSz =>
    rw [toNat_msgSzGet, hheader, hlength]
    omega
  case msgSeqNo =>
    rw [toNat_msgSeqNoGet, hheader]
    omega
  all_goals
    unfold IssueCall.final
    rw [h.cmds]
  case cmdFlags =>
    split
    · exact or_and_not_self a.gmuCmdFlags
    · rfl
  case ibDescGmuaddr =>
    intro hbatch
    rw [if_pos hbatch]
    rfl
  all_goals split <;> rfl

/-! ## Both functions -/

/-- The message in the queue of a context is the one that its owner of the buffer has built. -/
theorem DbcqCtxt.fillBuffer_final (s : DbcqCtxt) (hbatch : c.isBatchIbdesc = true) :
    (s.fillBuffer c).phase = .built { c with cmds := c.final s.indirectIbsGmuaddr } := by
  simp [fillBuffer, IssueCall.final, hbatch]

theorem DbqState.fillIbdesc_final (s : DbqState) (t ctxt : Nat) (hbatch : c.isBatchIbdesc = true) :
    (s.fillIbdesc t ctxt c).thread t =
      .built ctxt { c with cmds := c.final ((s.gmuaddr + ibdescBaseOffset).setWidth 32) } (some s.fills) := by
  simp [fillIbdesc, setThread, IssueCall.final, hbatch]

/-- The local variables of a call that has its message, from the number of its descriptors and the form -/
theorem issued_of_form (batch : Bool) (hcount : a.numIbs ≤ ECP_MAX_NUM_IB1)
    (hsize : batch = false → align4Nat (msgIssueInfSz + msgIssueIbsSz a.numIbs) ≤ msgSzMax) :
    let msgDwords := if batch then msgIssueInfSz else msgIssueInfSz + msgIssueIbsSz a.numIbs
    let cmds := a.cmds ctxId timestamp (BitVec.ofNat 32 msgDwords) seqNo
    Issued a ctxId timestamp seqNo
      ⟨a, batch, msgDwords, if batch then cmds else cmds.inline a.ibDescs⟩ where
  args := rfl
  count := hcount
  dwords := rfl
  size := by
    cases batch with
    | true =>
        show msgIssueInfSz ≤ msgSzMax
        decide
    | false =>
        have hroom : msgIssueInfSz + msgIssueIbsSz a.numIbs ≤ align4Nat (msgIssueInfSz + msgIssueIbsSz a.numIbs) := by
          unfold align4Nat
          omega
        exact hroom.trans (hsize rfl)
  cmds := by cases batch <;> rfl

theorem DbcqCtxt.issued {s : DbcqCtxt} {memory : Bool} (h : s.hgslDbcqIssueCmd a memory = .ok c) : ∃ timestamp,
    (if a.updateQueuedTs then hgslDbNextTimestamp s.flags s.queuedTs a.timestamp else .ok a.timestamp) = .ok timestamp ∧
      Issued a s.contextId timestamp s.seqNum c ∧ a.numIbs * sizeofFwIbDesc ≤ HGSL_CTXT_QUEUE_INDIRECT_IB_SIZE := by
  unfold hgslDbcqIssueCmd at h
  split at h
  · cases h
  · next haccepted =>
      obtain ⟨hcount, hsize⟩ := not_or.1 haccepted
      dsimp only at h
      split at h
      · cases h
      · next timestamp hnext =>
          split at h
          · cases h
          · obtain rfl := Except.ok.inj h
            refine ⟨timestamp, hnext, issued_of_form (needsBatch a.numIbs) (Nat.not_lt.1 hcount) ?_, Nat.not_lt.1 hsize⟩
            intro hform
            simp only [needsBatch, Bool.or_eq_false_iff, decide_eq_false_iff_not] at hform
            exact Nat.not_lt.1 hform.2

theorem DbqState.issued {s : DbqState} {ctxt : Nat} {memory : Bool} (h : s.hgslDbIssueCmd ctxt a memory = .ok c) :
    ∃ timestamp, (if a.updateQueuedTs then hgslDbNextTimestamp (s.obj ctxt).flags (s.obj ctxt).queuedTs a.timestamp
        else .ok a.timestamp) = .ok timestamp ∧
      Issued a (BitVec.ofNat 32 (s.obj ctxt).contextId) timestamp (s.seqNum + 1#32) c ∧
      (c.isBatchIbdesc = true → a.numIbs * sizeofFwIbDesc ≤ s.ibdescMaxSize) := by
  unfold hgslDbIssueCmd at h
  dsimp only at h
  split at h
  · cases h
  · split at h
    · cases h
    · next hcount =>
        split at h
        · cases h
        · next hfit =>
            split at h
            · cases h
            · next timestamp hnext =>
                split at h
                · cases h
                · obtain rfl := Except.ok.inj h
                  refine ⟨timestamp, hnext, issued_of_form _ (Nat.not_lt.1 hcount) ?_, ?_⟩
                  · intro hform
                    simp only [Bool.or_eq_false_iff, decide_eq_false_iff_not] at hform
                    exact Nat.not_lt.1 hform.2
                  · intro hform
                    simp only [Bool.and_eq_true, not_and, decide_eq_true_eq] at hfit
                    have hsize := Nat.not_lt.1 (hfit hform)
                    unfold msgIssueIbsSz sizeofFwIbDesc at hsize
                    unfold sizeofFwIbDesc
                    omega

/-- The GMU reads back what the call was given, and the call has written inside of its buffers. -/
def ReadsBack (a : IssueArgs) (ctxId timestamp seqNo gmuaddr : BitVec 32) (c : IssueCall) (ibs : DwordBuf) : Prop :=
  (∃ m, decode (c.message gmuaddr ibs) (c.fill gmuaddr ibs).2 = some m ∧
    Faithful a ctxId timestamp seqNo gmuaddr c (c.message gmuaddr ibs) m) ∧
    (c.fill gmuaddr ibs).1.outside = false ∧ (c.fill gmuaddr ibs).2.outside = false

/-- **The issue command in memory.** Whatever the two functions accept, on a context with a queue of its own or on
    any doorbell queue, is read back by the GMU. -/
theorem issue_reads_back :
    (∀ (s : DbcqCtxt) (a : IssueArgs) (memory : Bool) (c : IssueCall) (mem : Nat → BitVec 32),
      s.hgslDbcqIssueCmd a memory = .ok c → ∃ timestamp,
        (if a.updateQueuedTs then hgslDbNextTimestamp s.flags s.queuedTs a.timestamp else .ok a.timestamp) =
          .ok timestamp ∧
        ReadsBack a s.contextId timestamp s.seqNum s.indirectIbsGmuaddr c
          ⟨HGSL_CTXT_QUEUE_INDIRECT_IB_SIZE, mem, false⟩) ∧
    ∀ (s : DbqState) (ctxt : Nat) (a : IssueArgs) (memory : Bool) (c : IssueCall) (mem : Nat → BitVec 32),
      s.hgslDbIssueCmd ctxt a memory = .ok c → ∃ timestamp,
        (if a.updateQueuedTs then hgslDbNextTimestamp (s.obj ctxt).flags (s.obj ctxt).queuedTs a.timestamp
          else .ok a.timestamp) = .ok timestamp ∧
        ReadsBack a (BitVec.ofNat 32 (s.obj ctxt).contextId) timestamp (s.seqNum + 1#32)
          ((s.gmuaddr + DbqState.ibdescBaseOffset).setWidth 32) c ⟨s.ibdescMaxSize, mem, false⟩ := by
  constructor
  · intro s a memory c mem haccepted
    obtain ⟨timestamp, hnext, hissued, hfit⟩ := DbcqCtxt.issued haccepted
    exact ⟨timestamp, hnext, hissued.faithful, hissued.inside (fun _ => hfit) rfl⟩
  · intro s ctxt a memory c mem haccepted
    obtain ⟨timestamp, hnext, hissued, hfit⟩ := DbqState.issued haccepted
    exact ⟨timestamp, hnext, hissued.faithful, hissued.inside hfit rfl⟩

/-- A context with a queue of its own -/
def oneQueue : DbcqCtxt where
  contextId := 7#32
  flags := 0#32
  shadowTs := none
  indirectIbsGmuaddr := 0x1000#32

/-- One descriptor, with the flags of the caller -/
def oneIb (gmuCmdFlags : BitVec 32) : IssueArgs where
  ibDescs := [⟨0x10#64, 8#32⟩]
  gmuCmdFlags := gmuCmdFlags
  timestamp := 5#32
  updateQueuedTs := false

/-- Ninety descriptors, each with an address and a size of its own: too many for the message -/
def ninetyIbs : IssueArgs where
  ibDescs := (List.range 90).map fun i => ⟨BitVec.ofNat 64 (0x100001000 * i), BitVec.ofNat 32 (i + 1)⟩
  gmuCmdFlags := 0x20#32
  timestamp := 5#32
  updateQueuedTs := false

/-- In the message, and in the indirect buffer. -/
theorem issue_reads_back_both_forms :
    (∃ c, oneQueue.hgslDbcqIssueCmd (oneIb 0x20#32) true = .ok c ∧ c.isBatchIbdesc = false ∧
      ReadsBack (oneIb 0x20#32) 7#32 5#32 0#32 0x1000#32 c
        ⟨HGSL_CTXT_QUEUE_INDIRECT_IB_SIZE, fun _ => 0#32, false⟩) ∧
    ∃ c, oneQueue.hgslDbcqIssueCmd ninetyIbs true = .ok c ∧ c.isBatchIbdesc = true ∧
      ReadsBack ninetyIbs 7#32 5#32 0#32 0x1000#32 c
        ⟨HGSL_CTXT_QUEUE_INDIRECT_IB_SIZE, fun _ => 0#32, false⟩ := by
  refine ⟨?_, ?_⟩
  · obtain ⟨timestamp, hnext, hreads⟩ := issue_reads_back.1 oneQueue (oneIb 0x20#32) true _ (fun _ => 0#32) rfl
    obtain rfl : 5#32 = timestamp := Except.ok.inj hnext
    exact ⟨_, rfl, rfl, hreads⟩
  · obtain ⟨timestamp, hnext, hreads⟩ := issue_reads_back.1 oneQueue ninetyIbs true _ (fun _ => 0#32) rfl
    obtain rfl : 5#32 = timestamp := Except.ok.inj hnext
    exact ⟨_, rfl, rfl, hreads⟩

/-- A caller that sets the flag itself sends its descriptor inline, and the GMU looks into the indirect buffer. -/
theorem caller_flag_misleads : ∃ c m, oneQueue.hgslDbcqIssueCmd (oneIb CMDBATCH_INDIRECT) true = .ok c ∧
    decode (c.message oneQueue.indirectIbsGmuaddr (.zalloc HGSL_CTXT_QUEUE_INDIRECT_IB_SIZE))
      (c.fill oneQueue.indirectIbsGmuaddr (.zalloc HGSL_CTXT_QUEUE_INDIRECT_IB_SIZE)).2 = some m ∧
    m.ibDescs = [⟨0#64, 0#32⟩] ∧ m.ibDescs ≠ (oneIb CMDBATCH_INDIRECT).ibDescs := by
  refine ⟨_, _, rfl, rfl, ?_, ?_⟩ <;> decide +kernel

end Hgsl
