import Hgsl.Timestamp
import Hgsl.Lib.Trace
import Mathlib.Logic.Function.Basic

set_option autoImplicit false

/-! # The channel pool and its transactions

The pool of HAB channels (`hgsl_hyp_channel_pool_get`, `hgsl_hyp_channel_pool_put`), the transactions on
a channel (`gsl_rpc_transact_ext` and its two wrappers) and the order in which their callers use them,
for any number of threads. The pool lists change under `priv->lock`, and so do the bits of a channel in
get and put; the transactions read and write `busy` and `wait_retry` without it, so there every access is
a step of its own. A channel is a FIFO to the backend and one back; the backend answers the requests of a
channel in order, each with a reply that carries its opcode.

A request is known by the number of the call that wrote it, a reply by the request it answers. Left
out: the contents of parcels (only the call whose parameters are in the send buffer is kept), parcel
resets (they do not fail on a channel of the pool), and closing the pool. -/

namespace Hgsl

/-- A request, or the reply to it. -/
structure RpcMsg where
  call : Nat
  opcode : Nat
  deriving DecidableEq, Repr

/-- `struct hgsl_hab_channel_t` and its socket. -/
structure HabChannel where
  busy : Bool := false
  waitRetry : Bool := false
  /-- the call whose parameters are in the send buffer -/
  sendBuf : Nat := 0
  /-- sent and not yet answered, oldest first -/
  requests : List RpcMsg := []
  /-- answered and not yet received, oldest first -/
  replies : List RpcMsg := []
  /-- history: the id was reported with `-EINTR` and has not been used since -/
  ticket : Bool := false
  /-- history: the call that was interrupted last -/
  parked : Nat := 0
  deriving DecidableEq, Repr

/-- How a thread uses its channel. -/
inductive RpcCaller where
  /-- with `gsl_rpc_transact`, any number of times -/
  | plain
  /-- with `gsl_rpc_transact_interrruptible`, as `hgsl_hyp_wait_timestamp` does -/
  | fresh
  /-- the same on a channel taken by its id: it resumes `call` -/
  | resume (call : Nat)
  deriving DecidableEq, Repr

/-- `interruptible` -/
def RpcCaller.interruptible : RpcCaller → Bool
  | .plain => false
  | .fresh | .resume _ => true

/-- Where a thread stands. `ch` is the id of its channel. -/
inductive RpcThread where
  | idle
  /-- it has the channel -/
  | holding (ch : Nat) (k : RpcCaller)
  /-- its parameters are written, unless the channel waits for a retry -/
  | prepared (ch : Nat) (k : RpcCaller) (call : Nat)
  /-- in `gsl_rpc_recv` -/
  | receiving (ch : Nat) (k : RpcCaller) (call opcode : Nat)
  /-- an interruptible transaction is over, `wait_retry` is still to be cleared -/
  | ended (ch : Nat)
  /-- about to put the channel -/
  | finished (ch : Nat)
  /-- an interruptible transaction returned `-EINTR` -/
  | interrupted (ch : Nat) (call : Nat)
  /-- `busy` is cleared, `wait_retry` is still to be set -/
  | parking (ch : Nat) (call : Nat)
  deriving DecidableEq, Repr

/-- The channel that a thread has. -/
def RpcThread.channel : RpcThread → Option Nat
  | .idle => none
  | .holding ch _ | .prepared ch _ _ | .receiving ch _ _ _ | .ended ch | .finished ch
  | .interrupted ch _ | .parking ch _ => some ch

/-- How a receive ends. A failed receive may have taken the reply off the socket. -/
inductive RecvResult where
  | reply
  | interrupted
  | failed (consumed : Bool)
  deriving DecidableEq, Repr

/-- `struct hgsl_hyp_priv_t`, its channels and the threads. -/
structure ChannelPool where
  /-- the channels have the ids from 1 to `count` -/
  count : Nat := 0
  chan : Nat → HabChannel := fun _ => {}
  freeChannels : List Nat := []
  busyChannels : List Nat := []
  thread : Nat → RpcThread := fun _ => .idle
  /-- the number of the next call -/
  nextCall : Nat := 0
  /-- history: the calls whose requests were sent -/
  sent : List Nat := []
  /-- history: a call and the request that the reply it was given answers -/
  answers : List (Nat × Nat) := []

/-- What can happen next; `t` is the thread that moves. -/
inductive PoolAct where
  /-- `hgsl_hyp_channel_pool_get` with id 0; `created` is the success of
      `hgsl_rpc_create_channel` -/
  | get (t : Nat) (interruptible created : Bool)
  /-- `hgsl_hyp_channel_pool_get` with another id -/
  | getById (t : Nat) (id : Int)
  /-- the caller writes its parameters if it has to; `written` is the success of that -/
  | prepare (t : Nat) (written : Bool)
  /-- `gsl_rpc_transact_ext` up to its receive -/
  | transact (t : Nat) (opcode : Nat) (sendRet : Int)
  /-- the receive ends -/
  | recv (t : Nat) (r : RecvResult)
  /-- `wait_retry = false` -/
  | clearRetry (t : Nat)
  /-- `busy = false` -/
  | clearBusy (t : Nat)
  /-- `wait_retry = true`, and the call returns `-EINTR` with the id of the channel -/
  | setRetry (t : Nat)
  /-- `hgsl_hyp_channel_pool_put` -/
  | put (t : Nat)
  /-- the backend answers the oldest request on channel `ch` -/
  | answer (ch : Nat)
  deriving DecidableEq, Repr

namespace ChannelPool

/-! ## State updates -/

def setThread (p : ChannelPool) (t : Nat) (th : RpcThread) : ChannelPool :=
  { p with thread := Function.update p.thread t th }

def setChan (p : ChannelPool) (ch : Nat) (c : HabChannel) : ChannelPool :=
  { p with chan := Function.update p.chan ch c }

/-! ## The pool -/

/-- `list_del` and `list_add_tail` to `free_channels`. -/
def moveToFree (p : ChannelPool) (ch : Nat) : ChannelPool :=
  { p with
    freeChannels := p.freeChannels.erase ch ++ [ch]
    busyChannels := p.busyChannels.erase ch }

/-- `hgsl_hyp_channel_pool_put` -/
def channelPoolPut (p : ChannelPool) (ch : Nat) : ChannelPool :=
  (p.setChan ch { p.chan ch with busy := false }).moveToFree ch

/-- `hgsl_hyp_channel_pool_get_by_id` -/
def channelPoolGetById (p : ChannelPool) (id : Int) : Except Int Nat :=
  if 0 < id ∧ id.toNat ≤ p.count ∧ (p.chan id.toNat).waitRetry then .ok id.toNat
  else .error (-EINVAL)

/-- `hgsl_rpc_create_channel`: a channel with the lowest free id. -/
def createChannel (p : ChannelPool) : Nat × ChannelPool :=
  (p.count + 1, { p.setChan (p.count + 1) {} with count := p.count + 1 })

/-- `hgsl_hyp_channel_pool_get` with id 0: the first free channel, or a new one. -/
def channelPoolGet (p : ChannelPool) (created : Bool) : Option (Nat × ChannelPool) :=
  match p.freeChannels with
  | ch :: rest =>
    some (ch, { p.setChan ch { p.chan ch with busy := true } with
      freeChannels := rest
      busyChannels := p.busyChannels ++ [ch] })
  | [] =>
    if created then
      let r := p.createChannel
      some (r.1, { r.2.setChan r.1 { r.2.chan r.1 with busy := true } with
        busyChannels := r.2.busyChannels ++ [r.1] })
    else none

/-! ## Transactions -/

/-- `gsl_rpc_transact_ext` up to its receive: an error, or the channel and whether a request was
    sent. -/
def gslRpcTransactExtSend (c : HabChannel) (opcode : Nat) (interruptible : Bool) (sendRet : Int) :
    Except Int (HabChannel × Bool) :=
  if c.waitRetry && interruptible then .ok (c, false)
  else if c.waitRetry then .error (-EINVAL)
  else if sendRet ≠ 0 then .error sendRet
  else .ok ({ c with requests := c.requests ++ [⟨c.sendBuf, opcode⟩] }, true)

/-- `gsl_rpc_transact_ext` from its receive on: the reply or an error, and the channel. A receive of a
    reply that has not come yet is not over. -/
def gslRpcTransactExtRecv (c : HabChannel) (opcode : Nat) :
    RecvResult → Option (Except Int RpcMsg × HabChannel)
  | .reply =>
    match c.replies with
    | [] => none
    | m :: rest =>
      some (if m.opcode = opcode then .ok m else .error (-EINVAL), { c with replies := rest })
  | .interrupted => some (.error (-EINTR), c)
  | .failed consumed =>
    if consumed then
      match c.replies with
      | [] => none
      | _ :: rest => some (.error (-EINVAL), { c with replies := rest })
    else some (.error (-EINVAL), c)

/-- The number of the call that a caller makes. -/
def callOf (p : ChannelPool) : RpcCaller → Nat
  | .resume call => call
  | .plain | .fresh => p.nextCall

/-- The caller of a transaction writes its parameters, unless its transaction is interruptible and the
    channel waits for a retry. -/
def prepareCall (p : ChannelPool) (t ch : Nat) (k : RpcCaller) (written : Bool) : ChannelPool :=
  let call := p.callOf k
  let p₁ := { p with nextCall := p.nextCall + 1 }
  if (p.chan ch).waitRetry && k.interruptible then p₁.setThread t (.prepared ch k call)
  else if written then
    (p₁.setChan ch { p.chan ch with sendBuf := call }).setThread t (.prepared ch k call)
  else p₁.setThread t (.finished ch)

/-- What comes after a transaction of which `gsl_rpc_transact_ext` returned `ret`. -/
def afterTransact (ch call : Nat) (k : RpcCaller) (ret : Int) : RpcThread :=
  if !k.interruptible then .holding ch k
  else if ret = -EINTR then .interrupted ch call
  else .ended ch

/-- The return value that comes with a reply or an error. -/
def retOf : Except Int RpcMsg → Int
  | .ok _ => 0
  | .error e => e

/-- The replies that a transaction returns 0 with. -/
def answersOf (call : Nat) : Except Int RpcMsg → List (Nat × Nat)
  | .ok m => [(call, m.call)]
  | .error _ => []

/-! ## The steps -/

/-- One step of the pool. -/
def step (p : ChannelPool) : PoolAct → Option ChannelPool
  | .get t interruptible created =>
    match p.thread t with
    | .idle =>
      match p.channelPoolGet created with
      | none => some p
      | some r => some (r.2.setThread t (.holding r.1 (if interruptible then .fresh else .plain)))
    | _ => none
  | .getById t id =>
    match p.thread t with
    | .idle =>
      match p.channelPoolGetById id with
      | .error _ => some p
      | .ok ch =>
        let c := p.chan ch
        some ((p.setChan ch { c with busy := true, ticket := false }).setThread t
          (.holding ch (.resume c.parked)))
    | _ => none
  | .prepare t written =>
    match p.thread t with
    | .holding ch k => some (p.prepareCall t ch k written)
    | _ => none
  | .transact t opcode sendRet =>
    match p.thread t with
    | .prepared ch k call =>
      match gslRpcTransactExtSend (p.chan ch) opcode k.interruptible sendRet with
      | .error e => some (p.setThread t (afterTransact ch call k e))
      | .ok r =>
        let p₁ := if r.2 then { p with sent := p.sent ++ [(p.chan ch).sendBuf] } else p
        some ((p₁.setChan ch r.1).setThread t (.receiving ch k call opcode))
    | _ => none
  | .recv t res =>
    match p.thread t with
    | .receiving ch k call opcode =>
      match gslRpcTransactExtRecv (p.chan ch) opcode res with
      | none => none
      | some r =>
        some (({ p with answers := p.answers ++ answersOf call r.1 }.setChan ch r.2).setThread t
          (afterTransact ch call k (retOf r.1)))
    | _ => none
  | .clearRetry t =>
    match p.thread t with
    | .ended ch =>
      some ((p.setChan ch { p.chan ch with waitRetry := false }).setThread t (.finished ch))
    | _ => none
  | .clearBusy t =>
    match p.thread t with
    | .interrupted ch call =>
      some ((p.setChan ch { p.chan ch with busy := false }).setThread t (.parking ch call))
    | _ => none
  | .setRetry t =>
    match p.thread t with
    | .parking ch call =>
      some ((p.setChan ch { p.chan ch with waitRetry := true, ticket := true, parked := call }).setThread
        t .idle)
    | _ => none
  | .put t =>
    match p.thread t with
    | .finished ch | .holding ch .plain => some ((p.channelPoolPut ch).setThread t .idle)
    | _ => none
  | .answer ch =>
    match (p.chan ch).requests with
    | [] => none
    | m :: rest =>
      let c := p.chan ch
      some (p.setChan ch { c with requests := rest, replies := c.replies ++ [m] })

end ChannelPool

end Hgsl
