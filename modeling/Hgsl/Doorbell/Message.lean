import Hgsl.Timestamp

set_option autoImplicit false

/-! # Issue commands

`struct hgsl_db_cmds`, the message that both kinds of doorbell queue carry, and the arithmetic of its
size: a message either holds its IB descriptors or, with `CMDBATCH_INDIRECT`, points to a buffer that
holds them. -/

namespace Hgsl

/-- `struct hgsl_fw_ib_desc` -/
structure FwIbDesc where
  addr : BitVec 64
  sz : BitVec 32
  deriving DecidableEq, Repr

/-- `struct hgsl_db_cmds` -/
structure DbCmds where
  header : BitVec 32
  ctxId : BitVec 32
  cmdFlags : BitVec 32
  timestamp : BitVec 32
  userProfileGpuaddr : BitVec 64
  numIbs : BitVec 32
  ibDescGmuaddr : BitVec 32
  ibDescs : List FwIbDesc
  deriving DecidableEq, Repr

/-- `CMDBATCH_INDIRECT` -/
def CMDBATCH_INDIRECT : BitVec 32 := 0x00000200#32

/-- `ECP_MAX_NUM_IB1` -/
def ECP_MAX_NUM_IB1 : Nat := 2000

/-- `sizeof(struct hgsl_fw_ib_desc)` -/
def sizeofFwIbDesc : Nat := 12

/-- `MSG_ISSUE_INF_SZ` -/
def msgIssueInfSz : Nat := 32 / 4

/-- `MSG_ISSUE_IBS_SZ` -/
def msgIssueIbsSz (numIb : Nat) : Nat := numIb * (sizeofFwIbDesc / 4)

/-- `ALIGN(x, 4)` on a length that is far from `2 ^ 32`. -/
def align4Nat (x : Nat) : Nat := (x + 3) / 4 * 4

/-- `MSG_SZ_MASK >> MSG_SZ_SHIFT` -/
def msgSzMax : Nat := 255

/-- `MAKE_HFI_MSG_HEADER` -/
def makeHfiMsgHeader (msgId msgType msgSize msgSeqnum : BitVec 32) : BitVec 32 :=
  msgId ||| (msgSize <<< 8) ||| (msgType <<< 16) ||| (msgSeqnum <<< 20)

/-- `HFI_ISSUE_IB_HEADER`; the number of IBs is not used. -/
def hfiIssueIbHeader (sz msgSeqnum : BitVec 32) : BitVec 32 := makeHfiMsgHeader 130#32 0#32 sz msgSeqnum

/-- The arguments of `hgsl_dbcq_issue_cmd` and `hgsl_db_issue_cmd`. `num_ibs` is the number of
    descriptors. -/
structure IssueArgs where
  ibDescs : List FwIbDesc
  gmuCmdFlags : BitVec 32
  timestamp : BitVec 32
  userProfileGpuaddr : BitVec 64 := 0#64
  updateQueuedTs : Bool
  deriving DecidableEq, Repr

/-- `num_ibs` -/
def IssueArgs.numIbs (a : IssueArgs) : Nat := a.ibDescs.length

/-- The local variables of such a call once its message is allocated. -/
structure IssueCall where
  args : IssueArgs
  isBatchIbdesc : Bool
  msgDwords : Nat
  cmds : DbCmds
  deriving DecidableEq, Repr

/-- The message as both functions fill it in before they look at the IB descriptors. -/
def IssueArgs.cmds (a : IssueArgs) (ctxId timestamp msgDwords seqNo : BitVec 32) : DbCmds where
  header := hfiIssueIbHeader msgDwords seqNo
  ctxId := ctxId
  cmdFlags := a.gmuCmdFlags
  timestamp := timestamp
  userProfileGpuaddr := a.userProfileGpuaddr
  numIbs := BitVec.ofNat 32 a.numIbs
  ibDescGmuaddr := 0#32
  ibDescs := []

/-- An inline message takes the descriptors along. -/
def DbCmds.inline (c : DbCmds) (ibDescs : List FwIbDesc) : DbCmds := { c with ibDescs := ibDescs }

/-- An indirect message points to the buffer at `gmuaddr`. -/
def DbCmds.indirect (c : DbCmds) (gmuaddr : BitVec 32) : DbCmds :=
  { c with ibDescGmuaddr := gmuaddr, cmdFlags := c.cmdFlags ||| CMDBATCH_INDIRECT }

/-- The part of a buffer that a message with `n` descriptors uses. -/
def ibPrefix (buf : List FwIbDesc) (n : Nat) : List FwIbDesc := buf.take n

/-- `memcpy` of `ibDescs` to the start of a buffer. -/
def copyIbs (buf ibDescs : List FwIbDesc) : List FwIbDesc := ibDescs ++ buf.drop ibDescs.length

/-- What was copied is what the message finds. -/
theorem ibPrefix_copyIbs (buf ibDescs : List FwIbDesc) :
    ibPrefix (copyIbs buf ibDescs) ibDescs.length = ibDescs := by
  simp [ibPrefix, copyIbs]

end Hgsl
