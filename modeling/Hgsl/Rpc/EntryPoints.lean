import Hgsl.Context.Shadow
import Hgsl.Lib.Program
import Hgsl.Rpc.Pool

set_option autoImplicit false

/-! # The calls that take a channel

The entry points of the driver that take a channel from the pool, use it and put it back, or leave it waiting for a
retry: each as the program that a thread runs. An operation of such a program is one access to the pool, to the
bits of a channel or to the user's memory, or a call out of the pool, which returns any number. Any number of
threads run them, one operation at a time, in any order.

An ioctl copies as many bytes of its parameters, in and out, as both the table and the user's command ask for.

Left out: what the calls read and write, but for the channel id in the parameters of a wait, and what
`hgsl_hyp_deinit_ipcq` does with the memory of the queues after its channel is back. -/

namespace Hgsl

/-- What an entry point calls outside the pool. -/
inductive ExtCall where
  /-- `hgsl_rpc_parcel_reset`, in `hgsl_hyp_channel_pool_get` and elsewhere -/
  | poolGetReset
  | parcelReset
  /-- `gsl_rpc_write`, `gsl_rpc_finalize`, `gsl_rpc_send` and `gsl_rpc_recv` -/
  | write
  | finalize
  | send
  | recv
  /-- whether the reply has another opcode than the request -/
  | otherOpcode
  /-- `gsl_rpc_read` and its relatives, and what they have read -/
  | read
  | value
  | habmmExport
  | habmmUnexport
  /-- of the callers: `hgsl_get_context_owner`, `hgsl_check_shadow_timestamp` and its `expired`,
      `hgsl_wait_timestamp` -/
  | getContextOwner
  | checkShadowTimestamp
  | expired
  | waitTimestamp
  /-- `copy_from_user` of the parameters of an ioctl -/
  | copyFromUser
  deriving DecidableEq, Repr

/-- `sizeof(struct hgsl_wait_ts_info)`: `channel_id` is the last of its six fields. -/
def sizeofHgslWaitTsInfo : Nat := 24

/-- `offsetof(struct hgsl_wait_ts_info, channel_id)` -/
def offsetofChannelId : Nat := 20

/-- An operation of an entry point. -/
inductive PoolOp where
  /-- `hgsl_hyp_channel_pool_get`, the part under the lock -/
  | lockedGet (id : Int)
  /-- `hgsl_hyp_channel_pool_put` -/
  | put (ch : Nat)
  | readWaitRetry (ch : Nat)
  | writeWaitRetry (ch : Nat) (b : Bool)
  /-- `busy = false` -/
  | clearBusy (ch : Nat)
  /-- `copy_to_user` of the first `size` bytes of the parameters of a wait, with a channel id if the call has
      stored one -/
  | copyToUser (size : Nat) (id : Option Nat)
  | call (c : ExtCall)
  deriving DecidableEq, Repr

/-- What an operation returns. -/
@[reducible] def PoolOp.Result : PoolOp → Type
  | .lockedGet _ => Except Int Nat
  | .put _ | .writeWaitRetry _ _ | .clearBusy _ => Unit
  | .readWaitRetry _ => Bool
  | .copyToUser _ _ | .call _ => Int

abbrev PoolProgram := Program PoolOp PoolOp.Result

namespace PoolProgram

/-! ## The pool and its transactions -/

def lockedGet (id : Int) : PoolProgram (Except Int Nat) := .ask (.lockedGet id) .done
def put (ch : Nat) : PoolProgram Unit := .ask (.put ch) .done
def readWaitRetry (ch : Nat) : PoolProgram Bool := .ask (.readWaitRetry ch) .done
def writeWaitRetry (ch : Nat) (b : Bool) : PoolProgram Unit := .ask (.writeWaitRetry ch b) .done
def clearBusy (ch : Nat) : PoolProgram Unit := .ask (.clearBusy ch) .done
def copyToUser (size : Nat) (id : Option Nat) : PoolProgram Int := .ask (.copyToUser size id) .done
def call (c : ExtCall) : PoolProgram Int := .ask (.call c) .done

/-- `hgsl_hyp_channel_pool_get`: the channel, or an error and what `*channel` is set to all the same. -/
def hgslHypChannelPoolGet (id : Int) : PoolProgram (Except (Int × Option Nat) Nat) := do
  match ← lockedGet id with
  | .error ret => return .error (ret, none)
  | .ok ch =>
    let ret ← if id = 0 then call .poolGetReset else pure 0
    if ret ≠ 0 then
      put ch
      return .error (ret, some ch)
    else return .ok ch

/-- `hgsl_hyp_channel_pool_put` -/
def hgslHypChannelPoolPut : Option Nat → PoolProgram Unit
  | none => return ()
  | some ch => put ch

/-- Calls, one after the other, until one does not return 0. -/
def callAll : List ExtCall → PoolProgram Int
  | [] => return 0
  | c :: cs => do
    let ret ← call c
    if ret ≠ 0 then return ret else callAll cs

/-- What comes next if `ret` is 0. -/
def andThen (ret : Int) (p : PoolProgram Int) : PoolProgram Int :=
  if ret ≠ 0 then return ret else p

/-- `gsl_rpc_transact_ext` from its receive on -/
def receiveReply : PoolProgram Int := do
  let ret ← call .recv
  andThen ret do
    let other ← call .otherOpcode
    return if other ≠ 0 then -EINVAL else 0

/-- `gsl_rpc_transact_ext` -/
def gslRpcTransactExt (ch : Nat) (interruptible : Bool) : PoolProgram Int := do
  let waitRetry ← readWaitRetry ch
  if waitRetry && interruptible then receiveReply
  else if waitRetry then return -EINVAL
  else
    let ret ← callAll [.finalize, .send]
    andThen ret receiveReply

/-- `gsl_rpc_transact` -/
def gslRpcTransact (ch : Nat) : PoolProgram Int := do
  let ret ← gslRpcTransactExt ch false
  return if ret = -EINTR then -EINVAL else ret

/-- `gsl_rpc_transact_interrruptible` -/
def gslRpcTransactInterrruptible (ch : Nat) : PoolProgram Int := do
  let ret ← gslRpcTransactExt ch true
  if ret = -EINTR then
    clearBusy ch
    writeWaitRetry ch true
  else writeWaitRetry ch false
  return ret

/-! ## The entry points -/

/-- Take a channel, do something with it, and put it back at the label `out`, also after an error. -/
def withChannel (body : Nat → PoolProgram Int) : PoolProgram Int := do
  match ← hgslHypChannelPoolGet 0 with
  | .error r =>
    hgslHypChannelPoolPut r.2
    return r.1
  | .ok ch =>
    let ret ← body ch
    hgslHypChannelPoolPut (some ch)
    return ret

/-- `hgsl_hyp_generic_transaction`, with so many arguments to send and to read, and with `pRval` or without -/
def hgslHypGenericTransaction (sendNum replyNum : Nat) (pRval : Bool) : PoolProgram Int :=
  withChannel fun ch => do
    let ret ← callAll (List.replicate sendNum .write)
    let ret ← andThen ret (gslRpcTransact ch)
    andThen ret (callAll (List.replicate replyNum .read ++ if pRval then [.read] else []))

/-- `hgsl_hyp_read_timestamp` -/
def hgslHypReadTimestamp : PoolProgram Int :=
  withChannel fun ch => do
    let ret ← callAll [.write]
    let ret ← andThen ret (gslRpcTransact ch)
    let ret ← andThen ret (callAll [.read, .read])
    andThen ret do
      let rval ← call .value
      return if rval ≠ GSL_SUCCESS then -EINVAL else 0

/-- `hgsl_hyp_export_ipc_queue`; whether the two memory nodes are there -/
def hgslHypExportIpcQueue (nodes : Bool) : PoolProgram Int :=
  withChannel fun ch => do
    if nodes then
      let ret ← callAll [.habmmExport, .habmmExport, .write]
      let ret ← andThen ret (gslRpcTransact ch)
      let ret ← andThen ret (callAll [.read, .value, .read])
      -- the label `err`
      if ret ≠ 0 then
        let _ ← call .habmmUnexport
        let _ ← call .habmmUnexport
        return ret
      else return 0
    else return -EINVAL

/-- `hgsl_hyp_deinit_ipcq`: its error paths return. -/
def hgslHypDeinitIpcq : PoolProgram Unit := do
  match ← hgslHypChannelPoolGet 0 with
  | .error _ => return ()
  | .ok ch =>
    let ret ← callAll [.parcelReset, .write]
    let ret ← andThen ret (gslRpcTransact ch)
    let ret ← andThen ret (callAll [.read, .value])
    if ret ≠ 0 then return ()
    else
      let _ ← call .habmmUnexport
      let _ ← call .habmmUnexport
      hgslHypChannelPoolPut (some ch)

/-- `GSL_FAILURE_TIMEOUT` -/
def GSL_FAILURE_TIMEOUT : Int := -10

/-- The parameters of `hgsl_hyp_wait_timestamp`, unless they are in the send buffer from the call that it resumes -/
def writeWaitParams (waitRetry : Bool) : PoolProgram Int :=
  if waitRetry then return 0
  else do
    let _ ← call .parcelReset
    call .write

/-- `hgsl_hyp_wait_timestamp` from its read on -/
def readWaitReply : PoolProgram Int := do
  let ret ← call .read
  andThen ret do
    let rval ← call .value
    return if rval ≠ GSL_SUCCESS then if rval = GSL_FAILURE_TIMEOUT then -ETIMEDOUT else -EINVAL else 0

/-- `hgsl_hyp_wait_timestamp`: what it returns, and the channel that it stores in the `channel_id` of its
    parameters, if it stores one -/
def hgslHypWaitTimestamp (channelId : Int) : PoolProgram (Int × Option Nat) := do
  match ← hgslHypChannelPoolGet channelId with
  | .error r =>
    hgslHypChannelPoolPut r.2
    return (r.1, none)
  | .ok ch =>
    let waitRetry ← readWaitRetry ch
    let written ← writeWaitParams waitRetry
    if written ≠ 0 then
      hgslHypChannelPoolPut (some ch)
      return (written, none)
    else
      let ret ← gslRpcTransactInterrruptible ch
      if ret = -EINTR then return (ret, some ch)
      else
        let ret ← andThen ret readWaitReply
        hgslHypChannelPoolPut (some ch)
        return (ret, none)

/-! ## Their callers -/

/-- `hgsl_ioctl_wait_timestamp`: its parameters are those of the wait. -/
def hgslIoctlWaitTimestamp (channelId : Int) : PoolProgram (Int × Option Nat) := do
  let ctxt ← call .getContextOwner
  if ctxt = 0 then return (-EINVAL, none)
  else if channelId ≠ 0 then hgslHypWaitTimestamp channelId
  else
    let ret ← call .checkShadowTimestamp
    if ret ≠ 0 then hgslHypWaitTimestamp channelId
    else
      let expired ← call .expired
      if expired ≠ 0 then return (ret, none)
      else
        let ret ← call .waitTimestamp
        if ret = -EPERM then hgslHypWaitTimestamp channelId else return (ret, none)

/-- What an ioctl sees of the user's `channel_id`: the bytes that were copied, the lowest first; the others are 0. -/
def channelIdOf (copySize : Nat) (channelId : BitVec 32) : BitVec 32 :=
  BitVec.ofNat 32 (channelId.toNat % 256 ^ (copySize - offsetofChannelId))

/-- `HGSL_MAX_IOC_SIZE` -/
def HGSL_MAX_IOC_SIZE : Nat := 128

/-- `hgsl_ioctl` copies the parameters in, and back out again, unless there are none. -/
def copyParamsIn (copySize : Nat) : PoolProgram Int :=
  if copySize ≠ 0 then call .copyFromUser else return 0

def copyParamsOut (copySize : Nat) (id : Option Nat) : PoolProgram Int :=
  if copySize ≠ 0 then copyToUser copySize id else return 0

/-- `hgsl_ioctl`, where the table has a command that reads and writes `tableSize` bytes, and the user's command
    encodes `cmdSize`: the parameters are copied back whatever the function returns. -/
def hgslIoctl (tableSize cmdSize : Nat) (func : Nat → PoolProgram (Int × Option Nat)) : PoolProgram Int := do
  let copySize := min tableSize cmdSize
  if copySize > HGSL_MAX_IOC_SIZE then return -EINVAL
  else
    let copied ← copyParamsIn copySize
    if copied ≠ 0 then return -EFAULT
    else
      let r ← func copySize
      let copied ← copyParamsOut copySize r.2
      return if copied ≠ 0 then if r.1 ≠ 0 then r.1 else -EFAULT else r.1

/-- `dbcq_get_free_indirect_ib_buffer`: the parameters of the wait are its own, and are gone when it returns. -/
def dbcqGetFreeIndirectIbBuffer (indirectIbTs : BitVec 32) (timeoutInMs : Nat) : PoolProgram Int :=
  if indirectIbTs = 0#32 then return 0
  else do
    let ret ← call .checkShadowTimestamp
    let expired ← if ret = 0 then call .expired else pure 0
    if ret = 0 ∧ expired ≠ 0 then return 0
    else
      let ret ←
        if ret ≠ 0 then do
          let r ← hgslHypWaitTimestamp 0
          return r.1
        else if timeoutInMs ≠ 0 then call .waitTimestamp
        else return ret
      return if ret = -ETIMEDOUT then -EAGAIN else ret

end PoolProgram

/-! ## Any number of calls -/

/-- A call that a thread makes. -/
inductive EntryPoint where
  | genericTransaction (sendNum replyNum : Nat) (pRval : Bool)
  | readTimestamp
  | exportIpcQueue (nodes : Bool)
  | deinitIpcq
  /-- the wait ioctl, with the size that the user's command encodes and the user's `channel_id` -/
  | waitTimestamp (cmdSize : Nat) (channelId : BitVec 32)
  | getFreeIndirectIbBuffer (indirectIbTs : BitVec 32) (timeoutInMs : Nat)
  deriving DecidableEq, Repr

/-- The program of a call; nothing depends on what it returns. -/
def EntryPoint.program : EntryPoint → PoolProgram Unit
  | .genericTransaction sendNum replyNum pRval => do
    let _ ← PoolProgram.hgslHypGenericTransaction sendNum replyNum pRval
  | .readTimestamp => do
    let _ ← PoolProgram.hgslHypReadTimestamp
  | .exportIpcQueue nodes => do
    let _ ← PoolProgram.hgslHypExportIpcQueue nodes
  | .deinitIpcq => PoolProgram.hgslHypDeinitIpcq
  | .waitTimestamp cmdSize channelId => do
    let _ ← PoolProgram.hgslIoctl sizeofHgslWaitTsInfo cmdSize fun copySize =>
      PoolProgram.hgslIoctlWaitTimestamp (PoolProgram.channelIdOf copySize channelId).toInt
  | .getFreeIndirectIbBuffer indirectIbTs timeoutInMs => do
    let _ ← PoolProgram.dbcqGetFreeIndirectIbBuffer indirectIbTs timeoutInMs

/-- A call on its way. -/
structure RpcCall where
  entry : EntryPoint
  /-- what is left of its program -/
  program : PoolProgram Unit
  /-- history: the channel that it has obtained -/
  channel : Option Nat := none

/-- A pool and the calls on it, one for each thread that is in one. -/
structure PoolCalls where
  pool : ChannelPool := {}
  call : Nat → Option RpcCall := fun _ => none

/-- What can happen next in thread `t`. -/
inductive CallAct where
  | enter (t : Nat) (entry : EntryPoint)
  /-- The next operation; `answer` is what a call out of the pool returns, and the creation of a channel. A call
      that is done leaves. -/
  | next (t : Nat) (answer : Int)
  deriving DecidableEq, Repr

/-- The part of `hgsl_hyp_channel_pool_get` under the lock. -/
def ChannelPool.lockedGet (p : ChannelPool) (id answer : Int) : ChannelPool × Except Int Nat :=
  if id = 0 then
    match p.channelPoolGet (answer = 0) with
    | some r => (r.2, .ok r.1)
    | none => (p, .error answer)
  else
    match p.channelPoolGetById id with
    | .error e => (p, .error e)
    | .ok ch => (p.setChan ch { p.chan ch with busy := true, ticket := false }, .ok ch)

/-- What an operation does and returns. -/
def PoolOp.exec (p : ChannelPool) (answer : Int) : (o : PoolOp) → ChannelPool × o.Result
  | .lockedGet id => p.lockedGet id answer
  | .put ch => (p.channelPoolPut ch, ())
  | .readWaitRetry ch => (p, (p.chan ch).waitRetry)
  | .writeWaitRetry ch b => (p.setChan ch { p.chan ch with waitRetry := b }, ())
  | .clearBusy ch => (p.setChan ch { p.chan ch with busy := false }, ())
  | .copyToUser _ none => (p, answer)
  | .copyToUser size (some ch) =>
    -- the user has the id only if `channel_id` is among the bytes
    (if answer = 0 ∧ sizeofHgslWaitTsInfo ≤ size then p.setChan ch { p.chan ch with ticket := true } else p, answer)
  | .call _ => (p, answer)

/-- The channel that an operation obtains. -/
def PoolOp.obtained : (o : PoolOp) → o.Result → Option Nat
  | .lockedGet _, .ok ch => some ch
  | _, _ => none

namespace PoolCalls

def setCall (s : PoolCalls) (t : Nat) (c : Option RpcCall) : PoolCalls :=
  { s with call := Function.update s.call t c }

/-- One step. -/
def step (s : PoolCalls) : CallAct → Option PoolCalls
  | .enter t entry =>
    match s.call t with
    | some _ => none
    | none => some (s.setCall t (some { entry := entry, program := entry.program }))
  | .next t answer =>
    match s.call t with
    | none => none
    | some c =>
      match c.program with
      | .done _ => some (s.setCall t none)
      | .ask o k =>
        let r := o.exec s.pool answer
        some ({ s with pool := r.1 }.setCall t
          (some { c with program := k r.2, channel := (o.obtained r.2).orElse fun _ => c.channel }))

/-- No thread is in a call. -/
def Quiet (s : PoolCalls) : Prop := ∀ t, s.call t = none

end PoolCalls

/-! ## Closing the pool -/

namespace ChannelPool

/-- `hgsl_hyp_put_waiting_channel` -/
def hgslHypPutWaitingChannel (p : ChannelPool) : ChannelPool :=
  p.busyChannels.foldl (fun q ch =>
    if (q.chan ch).busy then q else (q.setChan ch { q.chan ch with waitRetry := false }).channelPoolPut ch) p

/-- The loop of `hgsl_hyp_channel_pool_close`, for as many rounds, when nobody else uses the pool; `none` while
    it still waits. -/
def channelPoolClose : Nat → ChannelPool → Option ChannelPool
  | 0, _ => none
  | n + 1, p =>
    let q := p.hgslHypPutWaitingChannel
    if q.busyChannels = [] then some q else channelPoolClose n q

end ChannelPool

end Hgsl
