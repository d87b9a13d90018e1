import Hgsl.Rpc.EntryPoints
import Hgsl.Rpc.Exclusive

set_option autoImplicit false

/-! # No channel is lost

What a call owes the pool for its channel is a matter of the operations that it has performed: it has taken the
channel, has cleared `busy`, has set `wait_retry`, and then the id is with the user; or it has put the channel back.
Each program is shown to end with nothing owed, as long as its calls return what they are to return, and the
pool keeps its lists and bits in order whoever owes what. -/

namespace Hgsl

/-! ## Condition -/

/-- A signal interrupts a call of a transaction. -/
def ExtCall.interrupted (c : ExtCall) (r : Int) : Bool :=
  (c == .finalize || c == .send || c == .recv) && r == -EINTR

/-- What the operations of an entry point return where it does not lose its channel: the transaction of
    `hgsl_hyp_deinit_ipcq` goes through and the backend reports success; the wait for an indirect buffer is not
    interrupted, nor is a wait ioctl whose command has no room for `channel_id`; and the id of a channel that waits
    for a retry reaches the user. -/
def EntryPoint.admits : EntryPoint → (o : PoolOp) → o.Result → Bool
  | .deinitIpcq, .readWaitRetry _, r => !r
  | .deinitIpcq, .call c, r => c == .poolGetReset || c == .habmmUnexport || r == 0
  | .getFreeIndirectIbBuffer _ _, .call c, r => !c.interrupted r
  | .waitTimestamp cmdSize _, .call c, r => sizeofHgslWaitTsInfo ≤ cmdSize || !c.interrupted r
  | .waitTimestamp _ _, .copyToUser _ id, r => id.isNone || r == 0
  | _, _, _ => true

/-- The next operation of a thread returns what it is to return. -/
def PoolCalls.admits (s : PoolCalls) : CallAct → Bool
  | .enter _ _ => true
  | .next t answer =>
    match s.call t with
    | none => true
    | some c =>
      match c.program with
      | .done _ => true
      | .ask o _ => c.entry.admits o (o.exec s.pool answer).2

/-! ## Property -/

/-- The channel waits for a retry, and its id is with a user, who can take it with that id. -/
def ChannelPool.Resumable (p : ChannelPool) (ch : Nat) : Prop :=
  ((p.chan ch).busy = false ∧ (p.chan ch).waitRetry = true ∧ (p.chan ch).ticket = true) ∧
    p.channelPoolGetById ch = .ok ch

/-- No channel is lost: each is free, or a call has it, or it can be resumed. When no call is on its way, all
    channels that were not resumed apart, none is busy, and closing the pool comes to an end. -/
structure PoolCalls.NoLeak (s : PoolCalls) : Prop where
  channel : ∀ ch, 1 ≤ ch → ch ≤ s.pool.count → ch ∈ s.pool.freeChannels ∨ ch ∈ s.pool.busyChannels ∧
    ((∃ t c, s.call t = some c ∧ c.channel = some ch) ∨ s.pool.Resumable ch)
  resumed : s.Quiet → (∀ ch, (s.pool.chan ch).ticket = false) → s.pool.busyChannels = []
  close : s.Quiet → ∃ n p, s.pool.channelPoolClose n = some p

/-! ## What a call owes -/

/-- What a call owes for its channel. -/
inductive ChannelDuty where
  /-- it has none -/
  | nothing
  | taken (ch : Nat)
  /-- `busy` is cleared -/
  | cleared (ch : Nat)
  /-- `wait_retry` is set -/
  | parked (ch : Nat)
  /-- the channel is back, or its id is with the user -/
  | over (ch : Nat)
  deriving DecidableEq, Repr

namespace ChannelDuty

/-- The channel of a call. -/
def channel : ChannelDuty → Option Nat
  | .nothing => none
  | .taken ch | .cleared ch | .parked ch | .over ch => some ch

/-- Something is still to be done for `ch`. -/
def Owes (d : ChannelDuty) (ch : Nat) : Prop := d = .taken ch ∨ d = .cleared ch ∨ d = .parked ch

/-- Nothing is to be done any more. -/
def Settled : ChannelDuty → Prop
  | .nothing | .over _ => True
  | .taken _ | .cleared _ | .parked _ => False

/-- What is owed after an operation; each can be performed only where it stands in the order. -/
def next : (o : PoolOp) → o.Result → ChannelDuty → Option ChannelDuty
  | .lockedGet _, .ok ch, .nothing => some (.taken ch)
  | .lockedGet _, .error _, .nothing => some .nothing
  | .put ch, _, d => if d.channel = some ch then some (.over ch) else none
  | .readWaitRetry _, _, d => some d
  | .clearBusy ch, _, d => if d = .taken ch then some (.cleared ch) else none
  | .writeWaitRetry ch false, _, d => if d = .taken ch then some d else none
  | .writeWaitRetry ch true, _, d => if d = .cleared ch then some (.parked ch) else none
  | .copyToUser _ none, _, d => some d
  | .copyToUser size (some ch), r, d =>
    if d = .parked ch then some (if r = 0 ∧ sizeofHgslWaitTsInfo ≤ size then .over ch else d) else none
  | .call _, _, d => some d
  | _, _, _ => none

end ChannelDuty

/-- The order in which an entry point uses a channel. -/
def EntryPoint.protocol (e : EntryPoint) : Protocol PoolOp PoolOp.Result ChannelDuty where
  admits := e.admits
  next := ChannelDuty.next

/-! ## The programs -/

namespace PoolProgram

section Keeps

variable {e : EntryPoint} {ch : Nat} {d : ChannelDuty}

@[simp] theorem keeps_call {c : ExtCall} {post : Int → ChannelDuty → Prop} :
    (call c).Keeps e.protocol post d ↔ ∀ r : Int, e.admits (.call c) r = true → post r d := by
  simp [call, EntryPoint.protocol, ChannelDuty.next]

@[simp] theorem keeps_readWaitRetry {post : Bool → ChannelDuty → Prop} :
    (readWaitRetry ch).Keeps e.protocol post d ↔
      ∀ r : Bool, e.admits (.readWaitRetry ch) r = true → post r d := by
  simp [readWaitRetry, EntryPoint.protocol, ChannelDuty.next]

/-- Calls, one after the other: the first one that does not return 0 decides. -/
theorem callAll_keeps {P : Int → Prop} (hzero : P 0) (cs : List ExtCall)
    (hcs : ∀ c ∈ cs, ∀ r : Int, e.admits (.call c) r = true → r ≠ 0 → P r) :
    (callAll cs).Keeps e.protocol (fun ret d' => P ret ∧ d' = d) d := by
  induction cs with
  | nil => simp [callAll, hzero]
  | cons c cs ih =>
      simp only [callAll, Program.keeps_bind, keeps_call]
      intro r hr
      by_cases hret : r = 0
      · rw [if_neg (by simp [hret])]
        exact ih fun c' hc' => hcs c' (List.mem_cons_of_mem c hc')
      · rw [if_pos hret]
        exact ⟨hcs c List.mem_cons_self r hr hret, rfl⟩

theorem andThen_keeps {P : Int → Prop} {ret : Int} {p : PoolProgram Int} (hret : P ret)
    (hp : ret = 0 → p.Keeps e.protocol (fun ret' d' => P ret' ∧ d' = d) d) :
    (andThen ret p).Keeps e.protocol (fun ret' d' => P ret' ∧ d' = d) d := by
  by_cases hzero : ret = 0
  · simpa [andThen, hzero] using hp hzero
  · simpa [andThen, hzero] using hret

/-- What is known of the result of a transaction. -/
structure TransactOk (e : EntryPoint) (interruptible : Bool) (P : Int → Prop) : Prop where
  zero : P 0
  calls : ∀ c ∈ [ExtCall.finalize, .send, .recv], ∀ r : Int, e.admits (.call c) r = true → r ≠ 0 → P r
  other : ∀ r : Int, e.admits (.call .otherOpcode) r = true → r ≠ 0 → P (-EINVAL)
  waiting : interruptible = false → ∀ ch, e.admits (.readWaitRetry ch) true = true → P (-EINVAL)

variable {P : Int → Prop} {interruptible : Bool}

theorem receiveReply_keeps (h : TransactOk e interruptible P) :
    receiveReply.Keeps e.protocol (fun ret d' => P ret ∧ d' = d) d := by
  simp only [receiveReply, Program.keeps_bind, keeps_call]
  intro r hr
  refine andThen_keeps ?_ ?_
  · by_cases hzero : r = 0
    · rw [hzero]
      exact h.zero
    · exact h.calls .recv (by simp) r hr hzero
  · intro _
    simp only [Program.keeps_bind, keeps_call]
    intro other hother
    by_cases hzero : other = 0
    · simpa [hzero] using h.zero
    · simpa [hzero] using h.other other hother hzero

theorem gslRpcTransactExt_keeps (h : TransactOk e interruptible P) (ch : Nat) :
    (gslRpcTransactExt ch interruptible).Keeps e.protocol (fun ret d' => P ret ∧ d' = d) d := by
  simp only [gslRpcTransactExt, Program.keeps_bind, keeps_readWaitRetry]
  intro waitRetry hwait
  cases waitRetry with
  | false =>
      simp only [Bool.false_and, Bool.false_eq_true, if_false, Program.keeps_bind]
      refine (callAll_keeps (P := P) h.zero [.finalize, .send] ?_).mono ?_
      · intro c hc
        exact h.calls c (by simp_all; tauto)
      · rintro ret d' ⟨hret, rfl⟩
        exact andThen_keeps hret fun _ => receiveReply_keeps h
  | true =>
      cases interruptible with
      | true => exact receiveReply_keeps h
      | false => simpa using h.waiting rfl ch hwait

theorem gslRpcTransact_keeps (h : TransactOk e false P) (hinval : P (-EINTR) → P (-EINVAL)) (ch : Nat) :
    (gslRpcTransact ch).Keeps e.protocol (fun ret d' => P ret ∧ d' = d) d := by
  simp only [gslRpcTransact, Program.keeps_bind]
  refine (gslRpcTransactExt_keeps h ch).mono ?_
  rintro ret d' ⟨hret, rfl⟩
  by_cases hintr : ret = -EINTR
  · subst hintr
    simpa using hinval hret
  · simpa [hintr] using hret

/-- After an interruptible transaction, the channel waits for a retry, or it does not. -/
theorem gslRpcTransactInterrruptible_keeps (h : TransactOk e true P) :
    (gslRpcTransactInterrruptible ch).Keeps e.protocol
      (fun ret d' => P ret ∧ d' = if ret = -EINTR then .parked ch else .taken ch) (.taken ch) := by
  simp only [gslRpcTransactInterrruptible, Program.keeps_bind]
  refine (gslRpcTransactExt_keeps h ch).mono ?_
  rintro ret d' ⟨hret, rfl⟩
  by_cases hintr : ret = -EINTR
  · subst hintr
    simp [clearBusy, writeWaitRetry, EntryPoint.protocol, ChannelDuty.next, hret]
  · simp [hintr, writeWaitRetry, EntryPoint.protocol, ChannelDuty.next, hret]

/-- What is owed for a channel that was asked for. -/
def gotDuty : Except (Int × Option Nat) Nat → ChannelDuty
  | .ok ch => .taken ch
  | .error (_, some ch) => .over ch
  | .error (_, none) => .nothing

theorem hgslHypChannelPoolGet_keeps (id : Int) :
    (hgslHypChannelPoolGet id).Keeps e.protocol (fun r d' => d' = gotDuty r) .nothing := by
  simp only [hgslHypChannelPoolGet, lockedGet, Program.keeps_bind, Program.keeps_ask]
  intro r hr
  cases r with
  | error ret => exact ⟨.nothing, by simp [EntryPoint.protocol, ChannelDuty.next], by simp [gotDuty]⟩
  | ok ch =>
      refine ⟨.taken ch, by simp [EntryPoint.protocol, ChannelDuty.next], ?_⟩
      have hput : ∀ ret : Int, (if ret ≠ 0 then do
            put ch
            return .error (ret, some ch)
          else return .ok ch : PoolProgram (Except (Int × Option Nat) Nat)).Keeps e.protocol
            (fun r d' => d' = gotDuty r) (.taken ch) := by
        intro ret
        by_cases hzero : ret = 0
        · simp [hzero, gotDuty]
        · simp [hzero, put, EntryPoint.protocol, ChannelDuty.next, ChannelDuty.channel, gotDuty]
      by_cases hid : id = 0
      · simpa [hid] using fun ret _ => hput ret
      · simpa [hid] using hput 0

/-- A put that comes once more does no harm. -/
theorem hgslHypChannelPoolPut_error (r : Int × Option Nat) :
    (hgslHypChannelPoolPut r.2).Keeps e.protocol (fun _ d' => d'.Settled) (gotDuty (.error r)) := by
  obtain ⟨ret, ch⟩ := r
  cases ch with
  | none => simp [hgslHypChannelPoolPut, gotDuty, ChannelDuty.Settled]
  | some ch =>
      simp [hgslHypChannelPoolPut, put, gotDuty, EntryPoint.protocol, ChannelDuty.next, ChannelDuty.channel,
        ChannelDuty.Settled]

theorem hgslHypChannelPoolPut_taken :
    (hgslHypChannelPoolPut (some ch)).Keeps e.protocol (fun _ d' => d' = .over ch) (.taken ch) := by
  simp [hgslHypChannelPoolPut, put, EntryPoint.protocol, ChannelDuty.next, ChannelDuty.channel]

/-- Whatever is done with a channel between the get and the put, it is put back. -/
theorem withChannel_keeps {body : Nat → PoolProgram Int}
    (hbody : ∀ ch, (body ch).Keeps e.protocol (fun _ d' => d' = .taken ch) (.taken ch)) :
    (withChannel body).Keeps e.protocol (fun _ d' => d'.Settled) .nothing := by
  simp only [withChannel, Program.keeps_bind]
  refine (hgslHypChannelPoolGet_keeps 0).mono ?_
  rintro r d' rfl
  cases r with
  | error r =>
      simp only [Program.keeps_bind, Program.keeps_pure]
      exact hgslHypChannelPoolPut_error r
  | ok ch =>
      simp only [Program.keeps_bind, Program.keeps_pure]
      refine (hbody ch).mono ?_
      rintro ret d' rfl
      refine hgslHypChannelPoolPut_taken.mono ?_
      rintro - d' rfl
      simp [ChannelDuty.Settled]

/-- Where nothing is asked of the result. -/
theorem transactOk_true : TransactOk e interruptible fun _ => True := by
  constructor <;> simp

theorem andThen_keeps_true {ret : Int} {p : PoolProgram Int}
    (hp : p.Keeps e.protocol (fun _ d' => d' = d) d) : (andThen ret p).Keeps e.protocol (fun _ d' => d' = d) d := by
  refine (andThen_keeps (P := fun _ => True) trivial fun _ => hp.mono ?_).mono ?_
  · simp
  · rintro ret d' ⟨-, rfl⟩
    rfl

theorem callAll_keeps_true (cs : List ExtCall) :
    (callAll cs).Keeps e.protocol (fun _ d' => d' = d) d := by
  refine (callAll_keeps (P := fun _ => True) trivial cs (by simp)).mono ?_
  rintro ret d' ⟨-, rfl⟩
  rfl

theorem gslRpcTransact_keeps_true (ch : Nat) : (gslRpcTransact ch).Keeps e.protocol (fun _ d' => d' = d) d := by
  refine (gslRpcTransact_keeps (P := fun _ => True) transactOk_true (by simp) ch).mono ?_
  rintro ret d' ⟨-, rfl⟩
  rfl

/-! ### The entry points that put their channel back -/

theorem hgslHypGenericTransaction_keeps (sendNum replyNum : Nat) (pRval : Bool) :
    (hgslHypGenericTransaction sendNum replyNum pRval).Keeps e.protocol (fun _ d' => d'.Settled) .nothing := by
  refine withChannel_keeps fun ch => ?_
  refine (callAll_keeps_true _).bind_same fun ret => ?_
  refine (andThen_keeps_true (gslRpcTransact_keeps_true ch)).bind_same fun ret => ?_
  exact andThen_keeps_true (callAll_keeps_true _)

theorem hgslHypReadTimestamp_keeps :
    hgslHypReadTimestamp.Keeps e.protocol (fun _ d' => d'.Settled) .nothing := by
  refine withChannel_keeps fun ch => ?_
  refine (callAll_keeps_true _).bind_same fun ret => ?_
  refine (andThen_keeps_true (gslRpcTransact_keeps_true ch)).bind_same fun ret => ?_
  refine (andThen_keeps_true (callAll_keeps_true _)).bind_same fun ret => ?_
  exact andThen_keeps_true (by simp)

theorem hgslHypExportIpcQueue_keeps (nodes : Bool) :
    (hgslHypExportIpcQueue nodes).Keeps e.protocol (fun _ d' => d'.Settled) .nothing := by
  refine withChannel_keeps fun ch => ?_
  cases nodes with
  | false => simp
  | true =>
      refine (callAll_keeps_true _).bind_same fun ret => ?_
      refine (andThen_keeps_true (gslRpcTransact_keeps_true ch)).bind_same fun ret => ?_
      refine (andThen_keeps_true (callAll_keeps_true _)).bind_same fun ret => ?_
      by_cases hzero : ret = 0 <;> simp [hzero]

/-! ### Those that may leave without their channel -/

/-- Where each call of `hgsl_hyp_deinit_ipcq` returns 0. -/
theorem transactOk_deinit : TransactOk .deinitIpcq false fun ret => ret = 0 := by
  constructor <;> simp [EntryPoint.admits]

theorem hgslHypDeinitIpcq_keeps :
    hgslHypDeinitIpcq.Keeps (EntryPoint.protocol .deinitIpcq) (fun _ d' => d'.Settled) .nothing := by
  simp only [hgslHypDeinitIpcq, Program.keeps_bind]
  refine (hgslHypChannelPoolGet_keeps 0).mono ?_
  rintro r d' rfl
  cases r with
  | error r =>
      obtain ⟨ret, ch⟩ := r
      cases ch <;> simp [gotDuty, ChannelDuty.Settled]
  | ok ch =>
      simp only [gotDuty, Program.keeps_bind]
      refine (callAll_keeps (P := fun ret => ret = 0) rfl _ (by simp [EntryPoint.admits])).mono ?_
      rintro ret d' ⟨hret, rfl⟩
      refine (andThen_keeps (P := fun ret => ret = 0) hret fun _ =>
        gslRpcTransact_keeps transactOk_deinit (by simp [EINTR]) ch).mono ?_
      rintro ret d' ⟨hret, rfl⟩
      refine (andThen_keeps (P := fun ret => ret = 0) hret fun _ =>
        callAll_keeps (P := fun ret => ret = 0) rfl [.read, .value] (by simp [EntryPoint.admits])).mono ?_
      rintro ret d' ⟨rfl, rfl⟩
      simp only [ne_eq, not_true_eq_false, if_false, Program.keeps_bind, keeps_call]
      intro _ _ _ _
      refine hgslHypChannelPoolPut_taken.mono ?_
      rintro - d' rfl
      simp [ChannelDuty.Settled]

/-- What a wait leaves behind: the channel, if it stores its id, waits for a retry. -/
def WaitLeaves (P : Int → Prop) (r : Int × Option Nat) (d : ChannelDuty) : Prop :=
  (r.2 = none → d.Settled) ∧ ∀ ch, r.2 = some ch → d = .parked ch ∧ P (-EINTR)

theorem writeWaitParams_keeps (waitRetry : Bool) :
    (writeWaitParams waitRetry).Keeps e.protocol (fun _ d' => d' = d) d := by
  cases waitRetry <;> simp [writeWaitParams]

theorem readWaitReply_keeps : readWaitReply.Keeps e.protocol (fun _ d' => d' = d) d := by
  simp only [readWaitReply, Program.keeps_bind, keeps_call]
  intro ret _
  exact andThen_keeps_true (by simp)

theorem putAndReturn_keeps (ret : Int) :
    (do
      hgslHypChannelPoolPut (some ch)
      return (ret, none) : PoolProgram (Int × Option Nat)).Keeps e.protocol (WaitLeaves P) (.taken ch) := by
  simp only [Program.keeps_bind, Program.keeps_pure]
  refine hgslHypChannelPoolPut_taken.mono ?_
  rintro - d' rfl
  simp [WaitLeaves, ChannelDuty.Settled]

theorem hgslHypWaitTimestamp_keeps (h : TransactOk e true P) (channelId : Int) :
    (hgslHypWaitTimestamp channelId).Keeps e.protocol (WaitLeaves P) .nothing := by
  simp only [hgslHypWaitTimestamp, Program.keeps_bind (hgslHypChannelPoolGet channelId)]
  refine (hgslHypChannelPoolGet_keeps channelId).mono ?_
  rintro r d' rfl
  cases r with
  | error r =>
      simp only [Program.keeps_bind, Program.keeps_pure]
      refine (hgslHypChannelPoolPut_error r).mono ?_
      intro _ d' hd'
      simpa [WaitLeaves] using hd'
  | ok ch =>
      simp only [gotDuty, Program.keeps_bind (readWaitRetry ch), keeps_readWaitRetry]
      intro waitRetry _
      refine (writeWaitParams_keeps waitRetry).bind_same fun written => ?_
      by_cases hwritten : written = 0
      swap
      · rw [if_pos hwritten]
        exact putAndReturn_keeps written
      rw [if_neg (by simpa using hwritten), Program.keeps_bind]
      refine (gslRpcTransactInterrruptible_keeps h).mono ?_
      rintro ret d' ⟨hret, rfl⟩
      by_cases hintr : ret = -EINTR
      · -- the channel is parked, and its id goes to the caller
        subst hintr
        simp [WaitLeaves, hret]
      · rw [if_neg hintr, if_neg hintr]
        refine (andThen_keeps_true readWaitReply_keeps).bind_same fun ret' => ?_
        exact putAndReturn_keeps ret'

/-- Where a transaction is interrupted only under a condition `q`. -/
theorem transactOk_interrupted {q : Prop}
    (h : ∀ c (r : Int), e.admits (.call c) r = true → c.interrupted r = true → q) :
    TransactOk e true fun ret => ret = -EINTR → q := by
  refine ⟨by simp [EINTR], ?_, by simp [EINTR, EINVAL], by simp⟩
  intro c hc r hr _ hintr
  refine h c r hr ?_
  have hcall : c = .finalize ∨ c = .send ∨ c = .recv := by simpa using hc
  obtain rfl | rfl | rfl := hcall <;> simp [ExtCall.interrupted, hintr]

section Ioctl

variable {cmdSize : Nat} {id : BitVec 32}

/-- A wait ioctl is interrupted only if its command has room for `channel_id`. -/
theorem transactOk_ioctl (cmdSize : Nat) (id : BitVec 32) :
    TransactOk (.waitTimestamp cmdSize id) true fun ret => ret = -EINTR → sizeofHgslWaitTsInfo ≤ cmdSize := by
  refine transactOk_interrupted fun c r hr hintr => ?_
  simpa [EntryPoint.admits, hintr] using hr

/-- The ioctl waits, or it leaves the pool alone. -/
theorem hgslIoctlWaitTimestamp_keeps (channelId : Int) :
    (hgslIoctlWaitTimestamp channelId).Keeps (EntryPoint.protocol (.waitTimestamp cmdSize id))
      (WaitLeaves fun ret => ret = -EINTR → sizeofHgslWaitTsInfo ≤ cmdSize) .nothing := by
  have hwait := hgslHypWaitTimestamp_keeps (transactOk_ioctl cmdSize id) channelId
  have hnone : ∀ ret : Int,
      WaitLeaves (fun ret => ret = -EINTR → sizeofHgslWaitTsInfo ≤ cmdSize) (ret, none) .nothing := by
    simp [WaitLeaves, ChannelDuty.Settled]
  simp only [hgslIoctlWaitTimestamp, Program.keeps_bind, keeps_call]
  intro ctxt _
  split_ifs
  · exact hnone _
  · exact hwait
  · simp only [Program.keeps_bind, keeps_call]
    intro ret _
    split_ifs
    · exact hwait
    · simp only [Program.keeps_bind, keeps_call]
      intro expired _
      split_ifs
      · exact hnone _
      · simp only [Program.keeps_bind, keeps_call]
        intro ret' _
        split_ifs
        · exact hwait
        · exact hnone _

theorem copyParamsIn_keeps (copySize : Nat) : (copyParamsIn copySize).Keeps e.protocol (fun _ d' => d' = d) d := by
  by_cases hsize : copySize = 0 <;> simp [copyParamsIn, hsize]

theorem copyParamsOut_keeps_none (copySize : Nat) :
    (copyParamsOut copySize none).Keeps e.protocol (fun _ d' => d' = d) d := by
  by_cases hsize : copySize = 0 <;>
    simp [copyParamsOut, copyToUser, hsize, EntryPoint.protocol, ChannelDuty.next]

/-- A parked channel is over when its id has been copied to the user. -/
theorem copyParamsOut_keeps_some :
    (copyParamsOut sizeofHgslWaitTsInfo (some ch)).Keeps (EntryPoint.protocol (.waitTimestamp cmdSize id))
      (fun _ d' => d' = .over ch) (.parked ch) := by
  simp [copyParamsOut, copyToUser, sizeofHgslWaitTsInfo, EntryPoint.protocol, EntryPoint.admits, ChannelDuty.next]

theorem hgslIoctl_keeps {func : Nat → PoolProgram (Int × Option Nat)}
    (hfunc : ∀ copySize, (func copySize).Keeps (EntryPoint.protocol (.waitTimestamp cmdSize id))
      (WaitLeaves fun ret => ret = -EINTR → sizeofHgslWaitTsInfo ≤ cmdSize) .nothing) :
    (hgslIoctl sizeofHgslWaitTsInfo cmdSize func).Keeps (EntryPoint.protocol (.waitTimestamp cmdSize id))
      (fun _ d' => d'.Settled) .nothing := by
  have hfit : ¬ min sizeofHgslWaitTsInfo cmdSize > HGSL_MAX_IOC_SIZE := by
    simp only [sizeofHgslWaitTsInfo, HGSL_MAX_IOC_SIZE]
    omega
  simp only [hgslIoctl, if_neg hfit]
  refine (copyParamsIn_keeps _).bind_same fun copied => ?_
  by_cases hcopied : copied = 0
  swap
  · simp [hcopied, ChannelDuty.Settled]
  simp only [hcopied, ne_eq, not_true_eq_false, if_false, Program.keeps_bind]
  refine (hfunc _).mono ?_
  rintro ⟨ret, chan⟩ d' ⟨hnone, hsome⟩
  cases chan with
  | none =>
      refine (copyParamsOut_keeps_none _).mono ?_
      rintro copied d' rfl
      simpa using hnone rfl
  | some ch =>
      -- there is room for `channel_id`, and all the parameters are copied
      obtain ⟨rfl, hroom⟩ := hsome ch rfl
      have hall : min sizeofHgslWaitTsInfo cmdSize = sizeofHgslWaitTsInfo := min_eq_left (hroom rfl)
      rw [hall]
      refine copyParamsOut_keeps_some.mono ?_
      rintro - d' rfl
      simp [ChannelDuty.Settled]

end Ioctl

/-- The wait for a buffer is not interrupted. -/
theorem transactOk_buffer (ts : BitVec 32) (timeout : Nat) :
    TransactOk (.getFreeIndirectIbBuffer ts timeout) true fun ret => ret = -EINTR → False := by
  refine transactOk_interrupted fun c r hr hintr => ?_
  simp [EntryPoint.admits, hintr] at hr

theorem dbcqGetFreeIndirectIbBuffer_keeps (ts : BitVec 32) (timeout : Nat) :
    (dbcqGetFreeIndirectIbBuffer ts timeout).Keeps (EntryPoint.protocol (.getFreeIndirectIbBuffer ts timeout))
      (fun _ d' => d'.Settled) .nothing := by
  have hwait := hgslHypWaitTimestamp_keeps (transactOk_buffer ts timeout) 0
  by_cases hts : ts = 0#32
  · simp [dbcqGetFreeIndirectIbBuffer, hts, ChannelDuty.Settled]
  simp only [dbcqGetFreeIndirectIbBuffer, if_neg hts, Program.keeps_bind, keeps_call]
  intro ret _
  by_cases hret : ret = 0
  · -- the timestamp can be read, and the backend is not asked
    by_cases htimeout : timeout = 0 <;>
      simp [hret, htimeout, ChannelDuty.Settled]
    intro expired _
    split_ifs <;> simp
  · simp [hret]
    refine hwait.mono ?_
    rintro ⟨ret', chan⟩ d' ⟨hnone, hsome⟩
    cases chan with
    | none => simpa using hnone rfl
    | some ch => exact ((hsome ch rfl).2 rfl).elim

end Keeps

end PoolProgram

/-- **Programs.** Each entry point ends with nothing owed. -/
theorem EntryPoint.program_keeps (e : EntryPoint) :
    e.program.Keeps e.protocol (fun _ d' => d'.Settled) .nothing := by
  cases e with
  | genericTransaction sendNum replyNum pRval =>
      simpa [EntryPoint.program] using PoolProgram.hgslHypGenericTransaction_keeps sendNum replyNum pRval
  | readTimestamp => simpa [EntryPoint.program] using PoolProgram.hgslHypReadTimestamp_keeps
  | exportIpcQueue nodes => simpa [EntryPoint.program] using PoolProgram.hgslHypExportIpcQueue_keeps nodes
  | deinitIpcq => exact PoolProgram.hgslHypDeinitIpcq_keeps
  | waitTimestamp cmdSize channelId =>
      simpa [EntryPoint.program] using
        PoolProgram.hgslIoctl_keeps fun copySize =>
          PoolProgram.hgslIoctlWaitTimestamp_keeps (PoolProgram.channelIdOf copySize channelId).toInt
  | getFreeIndirectIbBuffer ts timeout =>
      simpa [EntryPoint.program] using PoolProgram.dbcqGetFreeIndirectIbBuffer_keeps ts timeout

/-! ## The pool -/

theorem ChannelDuty.not_owes_of_ne {d : ChannelDuty} {c ch : Nat} (h : d.channel = some ch) (hne : c ≠ ch) :
    ¬ d.Owes c := by
  rintro (rfl | rfl | rfl) <;> simp [ChannelDuty.channel] at h <;> exact hne h

namespace ChannelPool

/-- The lists and bits of the pool, as far as what the threads owe does not account for them. -/
structure Accounted (p : ChannelPool) (duty : Nat → ChannelDuty) : Prop where
  shared : p.Shared
  known : ∀ t ch, (duty t).channel = some ch → 1 ≤ ch ∧ ch ≤ p.count
  busyBit : ∀ ch ∈ p.busyChannels, (p.chan ch).busy = true → ∃ t, duty t = .taken ch
  retryBit : ∀ ch ∈ p.busyChannels, (p.chan ch).waitRetry = false → ∃ t, duty t = .taken ch ∨ duty t = .cleared ch
  ticketBit : ∀ ch ∈ p.busyChannels, (p.chan ch).ticket = false → ∃ t, (duty t).Owes ch

section Accounted

variable {p p' : ChannelPool} {duty : Nat → ChannelDuty} {t ch : Nat} {d : ChannelDuty}

/-- One thread's duty changes, and what it accounts for stays accounted for. -/
theorem exists_update {P : ChannelDuty → Prop} (h : ∃ u, P (duty u)) (ht : P (duty t) → P d) :
    ∃ u, P (Function.update duty t d u) := by
  obtain ⟨u, hu⟩ := h
  by_cases hut : u = t
  · subst hut
    exact ⟨u, by simpa using ht hu⟩
  · exact ⟨u, by simpa [hut] using hu⟩

theorem known_update {q : ChannelPool} (h : ∀ t ch, (duty t).channel = some ch → 1 ≤ ch ∧ ch ≤ p.count)
    (hcount : p.count ≤ q.count) (hd : ∀ ch, d.channel = some ch → 1 ≤ ch ∧ ch ≤ q.count) (u ch : Nat)
    (hu : (Function.update duty t d u).channel = some ch) : 1 ≤ ch ∧ ch ≤ q.count := by
  by_cases hut : u = t
  · subst hut
    exact hd ch (by simpa using hu)
  · obtain ⟨hpos, hle⟩ := h u ch (by simpa [hut] using hu)
    exact ⟨hpos, by omega⟩

/-- The duty of one thread changes: each channel on the busy list is taken by it, or stays as it was and is none
    that the thread owed something for. -/
theorem Accounted.update (h : p.Accounted duty) (hshared : p'.Shared) (hcount : p.count ≤ p'.count)
    (hd : ∀ ch, d.channel = some ch → 1 ≤ ch ∧ ch ≤ p'.count)
    (hbusy : ∀ c ∈ p'.busyChannels,
      d = .taken c ∨ (c ∈ p.busyChannels ∧ p'.chan c = p.chan c) ∧ ¬ (duty t).Owes c) :
    p'.Accounted (Function.update duty t d) := by
  have hmine : Function.update duty t d t = d := by simp
  refine ⟨hshared, known_update h.known hcount hd, ?_, ?_, ?_⟩
  · intro c hc hbit
    obtain htaken | ⟨⟨hmem, hsame⟩, hnot⟩ := hbusy c hc
    · exact ⟨t, by rw [hmine, htaken]⟩
    · refine exists_update (P := (· = .taken c)) (h.busyBit c hmem (by rwa [← hsame])) ?_
      intro hold
      exact absurd (.inl hold) hnot
  · intro c hc hbit
    obtain htaken | ⟨⟨hmem, hsame⟩, hnot⟩ := hbusy c hc
    · exact ⟨t, .inl (by rw [hmine, htaken])⟩
    · refine exists_update (P := fun d => d = .taken c ∨ d = .cleared c) (h.retryBit c hmem (by rwa [← hsame])) ?_
      rintro (hold | hold)
      · exact absurd (.inl hold) hnot
      · exact absurd (.inr (.inl hold)) hnot
  · intro c hc hbit
    obtain htaken | ⟨⟨hmem, hsame⟩, hnot⟩ := hbusy c hc
    · exact ⟨t, .inl (by rw [hmine, htaken])⟩
    · refine exists_update (P := fun d => d.Owes c) (h.ticketBit c hmem (by rwa [← hsame])) ?_
      intro hold
      exact absurd hold hnot

/-- A thread without a channel takes one: `ch` comes to the busy list, or is on it, and the other channels stay
    as they are. -/
theorem Accounted.take (h : p.Accounted duty) (ht : duty t = .nothing) (hshared : p'.Shared)
    (hcount : p.count ≤ p'.count) (hch : 1 ≤ ch ∧ ch ≤ p'.count)
    (hbusy : ∀ c ∈ p'.busyChannels, c ≠ ch → c ∈ p.busyChannels ∧ p'.chan c = p.chan c) :
    p'.Accounted (Function.update duty t (.taken ch)) := by
  refine h.update hshared hcount (by simpa [ChannelDuty.channel] using hch) ?_
  intro c hc
  by_cases hcch : c = ch
  · exact .inl (by rw [hcch])
  · exact .inr ⟨hbusy c hc hcch, by simp [ht, ChannelDuty.Owes]⟩

/-- A thread gives its channel back. -/
theorem Accounted.put (h : p.Accounted duty) (ht : (duty t).channel = some ch) :
    (p.channelPoolPut ch).Accounted (Function.update duty t (.over ch)) := by
  have hch := h.known t ch ht
  have hshared : (p.channelPoolPut ch).Shared := by
    refine Shared.moveToFree (h.shared.congr rfl rfl rfl) ?_
    exact (h.shared.mem_iff ch).2 hch
  refine h.update hshared le_rfl ?_ ?_
  · intro c hc
    obtain rfl : ch = c := by simpa [ChannelDuty.channel] using hc
    exact hch
  · intro c hc
    have hnodup : p.busyChannels.Nodup := (List.nodup_append.1 h.shared.nodup).2.1
    obtain ⟨hne, hmem⟩ := (List.Nodup.mem_erase_iff hnodup).1 (show c ∈ p.busyChannels.erase ch from hc)
    have hsame : (p.channelPoolPut ch).chan c = p.chan c := by
      simp [channelPoolPut, moveToFree, ChannelPool.setChan, hne]
    exact .inr ⟨⟨hmem, hsame⟩, ChannelDuty.not_owes_of_ne ht hne⟩

/-- A thread that owes nothing can leave. -/
theorem Accounted.settle (h : p.Accounted duty) (ht : (duty t).Settled) :
    p.Accounted (Function.update duty t .nothing) := by
  refine h.update h.shared le_rfl (by simp [ChannelDuty.channel]) ?_
  intro c hc
  refine .inr ⟨⟨hc, rfl⟩, ?_⟩
  rintro (hd | hd | hd) <;> rw [hd] at ht <;> exact ht

/-- A thread writes to the bits of its channel. -/
theorem Accounted.setChan (h : p.Accounted duty) (ht : (duty t).channel = some ch) (hd : d.channel = some ch)
    (c : HabChannel) (hbusy : c.busy = true → (p.chan ch).busy = true ∧ (duty t = .taken ch → d = .taken ch))
    (hretry : c.waitRetry = false → d = .taken ch ∨ d = .cleared ch ∨
      (p.chan ch).waitRetry = false ∧ ¬ (duty t = .taken ch ∨ duty t = .cleared ch))
    (hticket : c.ticket = false → d.Owes ch) :
    (p.setChan ch c).Accounted (Function.update duty t d) := by
  have hch := h.known t ch ht
  have hmine : Function.update duty t d t = d := by simp
  have hsame : ∀ c', c' ≠ ch → (p.setChan ch c).chan c' = p.chan c' := by
    intro c' hne
    simp [ChannelPool.setChan, hne]
  have hself : (p.setChan ch c).chan ch = c := by simp [ChannelPool.setChan]
  refine ⟨h.shared.congr rfl rfl rfl, known_update (q := p.setChan ch c) h.known le_rfl ?_, ?_, ?_, ?_⟩
  · intro c' hc'
    obtain rfl : ch = c' := by simpa [hd] using hc'
    exact hch
  · intro c' hmem hbit
    by_cases hne : c' = ch
    · subst hne
      rw [hself] at hbit
      obtain ⟨hold, hkeep⟩ := hbusy hbit
      exact exists_update (P := (· = .taken c')) (h.busyBit c' hmem hold) hkeep
    · rw [hsame c' hne] at hbit
      refine exists_update (P := (· = .taken c')) (h.busyBit c' hmem hbit) ?_
      intro hd'
      exact absurd (.inl hd') (ChannelDuty.not_owes_of_ne ht hne)
  · intro c' hmem hbit
    by_cases hne : c' = ch
    · subst hne
      rw [hself] at hbit
      obtain hd' | hd' | ⟨hold, hnot⟩ := hretry hbit
      · exact ⟨t, .inl (by rw [hmine, hd'])⟩
      · exact ⟨t, .inr (by rw [hmine, hd'])⟩
      · refine exists_update (P := fun d => d = .taken c' ∨ d = .cleared c') (h.retryBit c' hmem hold) ?_
        intro hd'
        exact absurd hd' hnot
    · rw [hsame c' hne] at hbit
      refine exists_update (P := fun d => d = .taken c' ∨ d = .cleared c') (h.retryBit c' hmem hbit) ?_
      rintro (hd' | hd')
      · exact absurd (.inl hd') (ChannelDuty.not_owes_of_ne ht hne)
      · exact absurd (.inr (.inl hd')) (ChannelDuty.not_owes_of_ne ht hne)
  · intro c' hmem hbit
    by_cases hne : c' = ch
    · subst hne
      rw [hself] at hbit
      exact ⟨t, by rw [hmine]; exact hticket hbit⟩
    · rw [hsame c' hne] at hbit
      refine exists_update (P := fun d => d.Owes c') (h.ticketBit c' hmem hbit) ?_
      intro hd'
      exact absurd hd' (ChannelDuty.not_owes_of_ne ht hne)

/-- What the locked part of a get comes to: an error, or a channel that is on the busy list, if it was not before;
    the others stay as they are. -/
theorem lockedGet_cases (hshared : p.Shared) (id answer : Int) :
    (∃ e, p.lockedGet id answer = (p, .error e)) ∨
      ∃ q ch, p.lockedGet id answer = (q, .ok ch) ∧ q.Shared ∧ p.count ≤ q.count ∧ (1 ≤ ch ∧ ch ≤ q.count) ∧
        ∀ c ∈ q.busyChannels, c ≠ ch → c ∈ p.busyChannels ∧ q.chan c = p.chan c := by
  by_cases hid : id = 0
  · cases hfree : p.freeChannels with
    | cons ch rest =>
        right
        have hch : 1 ≤ ch ∧ ch ≤ p.count := (hshared.mem_iff ch).1 (.inl (by simp [hfree]))
        refine ⟨{ p.setChan ch { p.chan ch with busy := true } with
          freeChannels := rest
          busyChannels := p.busyChannels ++ [ch] }, ch,
          by simp [lockedGet, hid, channelPoolGet, hfree], ?_, le_rfl, hch, ?_⟩
        · exact hshared.take hfree rfl rfl rfl
        · intro c hc hne
          have hmem : c ∈ p.busyChannels ∨ c = ch := by simpa using hc
          exact ⟨hmem.resolve_right hne, by simp [ChannelPool.setChan, hne]⟩
    | nil =>
        by_cases hcreated : answer = 0
        · right
          refine ⟨{ p.setChan (p.count + 1) { busy := true } with
            count := p.count + 1
            busyChannels := p.busyChannels ++ [p.count + 1] }, p.count + 1,
            by simp [lockedGet, hid, channelPoolGet, createChannel, hfree, hcreated, ChannelPool.setChan],
            ?_, ?_, ?_, ?_⟩
          · exact hshared.create hfree hfree rfl rfl
          · exact Nat.le_succ p.count
          · exact ⟨Nat.succ_pos p.count, le_rfl⟩
          · intro c hc hne
            have hmem : c ∈ p.busyChannels ∨ c = p.count + 1 := by simpa [ChannelPool.setChan] using hc
            exact ⟨hmem.resolve_right hne, by simp [ChannelPool.setChan, hne]⟩
        · exact .inl ⟨answer, by simp [lockedGet, hid, channelPoolGet, hfree, hcreated]⟩
  · cases hfound : p.channelPoolGetById id with
    | error e => exact .inl ⟨e, by simp [lockedGet, hid, hfound]⟩
    | ok ch =>
        right
        refine ⟨p.setChan ch { p.chan ch with busy := true, ticket := false }, ch,
          by simp [lockedGet, hid, hfound], ?_, le_rfl, (channelPoolGetById_eq_ok hfound).1, ?_⟩
        · exact hshared.congr rfl rfl rfl
        · intro c hc hne
          exact ⟨hc, by simp [ChannelPool.setChan, hne]⟩

/-- **One operation.** What a thread owes changes with what it does to the pool. -/
theorem Accounted.exec (h : p.Accounted duty) (o : PoolOp) (answer : Int)
    (hnext : ChannelDuty.next o (o.exec p answer).2 (duty t) = some d) :
    (o.exec p answer).1.Accounted (Function.update duty t d) := by
  have hsame : p.Accounted (Function.update duty t (duty t)) := by simpa using h
  cases o with
  | lockedGet id =>
      obtain ⟨e, hget⟩ | ⟨q, ch, hget, hshared, hcount, hch, hbusy⟩ := lockedGet_cases h.shared id answer
      · simp only [PoolOp.exec, hget] at hnext ⊢
        cases hd : duty t <;> simp [ChannelDuty.next, hd] at hnext
        rwa [← hnext, ← hd]
      · simp only [PoolOp.exec, hget] at hnext ⊢
        cases hd : duty t <;> simp [ChannelDuty.next, hd] at hnext
        rw [← hnext]
        exact h.take hd hshared hcount hch hbusy
  | put ch =>
      simp only [ChannelDuty.next, Option.ite_none_right_eq_some, Option.some.injEq] at hnext
      obtain ⟨hd, rfl⟩ := hnext
      exact h.put hd
  | readWaitRetry ch =>
      obtain rfl : duty t = d := by simpa [ChannelDuty.next] using hnext
      exact hsame
  | writeWaitRetry ch b =>
      cases b with
      | false =>
          simp only [ChannelDuty.next, Option.ite_none_right_eq_some, Option.some.injEq] at hnext
          obtain ⟨hd, rfl⟩ := hnext
          refine h.setChan (by simp [hd, ChannelDuty.channel]) (by simp [hd, ChannelDuty.channel]) _ ?_ ?_ ?_
          · simp
          · simp [hd]
          · simp [hd, ChannelDuty.Owes]
      | true =>
          simp only [ChannelDuty.next, Option.ite_none_right_eq_some, Option.some.injEq] at hnext
          obtain ⟨hd, rfl⟩ := hnext
          refine h.setChan (by simp [hd, ChannelDuty.channel]) (by simp [ChannelDuty.channel]) _ ?_ ?_ ?_
          · simp [hd]
          · simp
          · simp [ChannelDuty.Owes]
  | clearBusy ch =>
      simp only [ChannelDuty.next, Option.ite_none_right_eq_some, Option.some.injEq] at hnext
      obtain ⟨hd, rfl⟩ := hnext
      refine h.setChan (by simp [hd, ChannelDuty.channel]) (by simp [ChannelDuty.channel]) _ ?_ ?_ ?_
      · simp
      · simp
      · simp [ChannelDuty.Owes]
  | copyToUser size id =>
      cases id with
      | none =>
          obtain rfl : duty t = d := by simpa [ChannelDuty.next] using hnext
          exact hsame
      | some ch =>
          simp only [ChannelDuty.next, Option.ite_none_right_eq_some, Option.some.injEq] at hnext
          obtain ⟨hd, hnext⟩ := hnext
          by_cases hcopied : answer = 0 ∧ sizeofHgslWaitTsInfo ≤ size
          · -- the id reaches the user
            obtain rfl : .over ch = d := by simpa [PoolOp.exec, hcopied] using hnext
            simp only [PoolOp.exec, if_pos hcopied]
            refine h.setChan (by simp [hd, ChannelDuty.channel]) (by simp [ChannelDuty.channel]) _ ?_ ?_ ?_
            · simp [hd]
            · simp [hd]
            · simp
          · obtain rfl : duty t = d := by simpa [PoolOp.exec, hcopied] using hnext
            simpa [PoolOp.exec, hcopied] using hsame
  | call c =>
      obtain rfl : duty t = d := by simpa [ChannelDuty.next] using hnext
      exact hsame

end Accounted

/-! ### Closing -/

section Close

variable {p : ChannelPool} {ch : Nat}

/-- One channel, in `hgsl_hyp_put_waiting_channel`. -/
def putIfWaiting (q : ChannelPool) (ch : Nat) : ChannelPool :=
  if (q.chan ch).busy then q else (q.setChan ch { q.chan ch with waitRetry := false }).channelPoolPut ch

theorem foldl_putIfWaiting (l : List Nat) (p : ChannelPool) (hl : p.busyChannels = l)
    (h : ∀ ch ∈ l, (p.chan ch).busy = false) : (l.foldl putIfWaiting p).busyChannels = [] := by
  induction l generalizing p with
  | nil => simpa using hl
  | cons ch l ih =>
      have hch : (p.chan ch).busy = false := h ch List.mem_cons_self
      refine ih _ ?_ ?_
      · simp [putIfWaiting, hch, channelPoolPut, moveToFree, ChannelPool.setChan, hl]
      · intro c hc
        by_cases hne : c = ch
        · simp [putIfWaiting, hch, channelPoolPut, moveToFree, ChannelPool.setChan, hne]
        · simpa [putIfWaiting, hch, channelPoolPut, moveToFree, ChannelPool.setChan, hne] using
            h c (List.mem_cons_of_mem ch hc)

/-- A channel that is marked as busy stays where it is. -/
theorem putIfWaiting_stays (c : Nat) (hmem : ch ∈ p.busyChannels) (hbusy : (p.chan ch).busy = true) :
    ch ∈ (putIfWaiting p c).busyChannels ∧ ((putIfWaiting p c).chan ch).busy = true := by
  cases hc : (p.chan c).busy with
  | true => simpa [putIfWaiting, hc] using ⟨hmem, hbusy⟩
  | false =>
      have hne : ch ≠ c := by
        rintro rfl
        simp [hbusy] at hc
      simpa [putIfWaiting, hc, channelPoolPut, moveToFree, ChannelPool.setChan, hne] using And.intro hmem hbusy

theorem putWaiting_stays (hmem : ch ∈ p.busyChannels) (hbusy : (p.chan ch).busy = true) :
    ch ∈ p.hgslHypPutWaitingChannel.busyChannels ∧ (p.hgslHypPutWaitingChannel.chan ch).busy = true :=
  List.foldlRecOn (motive := fun q => ch ∈ q.busyChannels ∧ (q.chan ch).busy = true) p.busyChannels putIfWaiting
    ⟨hmem, hbusy⟩ fun _ h c _ => putIfWaiting_stays c h.1 h.2

/-- **Closing.** When nobody else uses the pool, closing it ends exactly when no channel on the busy list is marked
    as busy. -/
theorem channelPoolClose_ends_iff :
    (∃ n q, p.channelPoolClose n = some q) ↔ ∀ ch ∈ p.busyChannels, (p.chan ch).busy = false := by
  constructor
  · rintro ⟨n, q, hclose⟩ ch hmem
    by_contra hbusy
    rw [Bool.not_eq_false] at hbusy
    induction n generalizing p with
    | zero => simp [channelPoolClose] at hclose
    | succ n ih =>
        obtain ⟨hmem', hbusy'⟩ := putWaiting_stays hmem hbusy
        have hne : p.hgslHypPutWaitingChannel.busyChannels ≠ [] := List.ne_nil_of_mem hmem'
        simp only [channelPoolClose, if_neg hne] at hclose
        exact ih hclose hmem' hbusy'
  · intro h
    refine ⟨1, p.hgslHypPutWaitingChannel, ?_⟩
    have hempty : p.hgslHypPutWaitingChannel.busyChannels = [] := foldl_putIfWaiting p.busyChannels p rfl h
    simp [channelPoolClose, hempty]

end Close

end ChannelPool

/-! ## The calls -/

/-- The thread that moves. -/
def CallAct.thread : CallAct → Nat
  | .enter t _ | .next t _ => t

namespace PoolCalls

/-- What each thread owes accounts for the pool, and what is left of its program will see to it. -/
structure Inv (s : PoolCalls) (duty : Nat → ChannelDuty) : Prop where
  pool : s.pool.Accounted duty
  idle : ∀ t, s.call t = none → duty t = .nothing
  running : ∀ t c, s.call t = some c →
    c.program.Keeps c.entry.protocol (fun _ d => d.Settled) (duty t) ∧
      ∀ ch, (duty t).channel = some ch → c.channel = some ch

section Step

variable {s s' : PoolCalls} {a : CallAct} {duty : Nat → ChannelDuty}

/-- What a step can be. -/
theorem step_cases (hstep : s.step a = some s') :
    (∃ t e, a = .enter t e ∧ s.call t = none ∧ s' = s.setCall t (some { entry := e, program := e.program })) ∨
      (∃ t answer c x, a = .next t answer ∧ s.call t = some c ∧ c.program = .done x ∧ s' = s.setCall t none) ∨
      ∃ t answer c o k, a = .next t answer ∧ s.call t = some c ∧ c.program = .ask o k ∧
        s' = { s with pool := (o.exec s.pool answer).1 }.setCall t
          (some { c with
            program := k (o.exec s.pool answer).2
            channel := (o.obtained (o.exec s.pool answer).2).orElse fun _ => c.channel }) := by
  cases a with
  | enter t e =>
      cases hcall : s.call t with
      | some c => simp [step, hcall] at hstep
      | none => exact .inl ⟨t, e, rfl, hcall, by simpa [step, hcall] using hstep.symm⟩
  | next t answer =>
      cases hcall : s.call t with
      | none => simp [step, hcall] at hstep
      | some c =>
          cases hprog : c.program with
          | done x =>
              refine .inr (.inl ⟨t, answer, c, x, rfl, hcall, hprog, ?_⟩)
              simpa [step, hcall, hprog] using hstep.symm
          | ask o k =>
              refine .inr (.inr ⟨t, answer, c, o, k, rfl, hcall, hprog, ?_⟩)
              simpa [step, hcall, hprog] using hstep.symm

/-- The other threads stay where they are. -/
theorem step_call_of_ne (hstep : s.step a = some s') {t : Nat} (hne : t ≠ a.thread) : s'.call t = s.call t := by
  obtain ⟨u, e, rfl, -, rfl⟩ | ⟨u, answer, c, x, rfl, -, -, rfl⟩ | ⟨u, answer, c, o, k, rfl, -, -, rfl⟩ :=
    step_cases hstep <;>
    · have hut : t ≠ u := by simpa [CallAct.thread] using hne
      simp [setCall, hut]

theorem call_of_run {as : List CallAct} (hrun : Trace.exec step s as = some s') {t : Nat}
    (hne : ∀ a ∈ as, t ≠ a.thread) : s'.call t = s.call t := by
  induction as generalizing s with
  | nil =>
      obtain rfl : s = s' := by simpa using hrun
      rfl
  | cons a as ih =>
      obtain ⟨s₁, hstep, hrest⟩ := Trace.exec_cons_eq_some.1 hrun
      rw [ih hrest fun b hb => hne b (List.mem_cons_of_mem a hb)]
      exact step_call_of_ne hstep (hne a List.mem_cons_self)

/-- When only one thread has moved, and it has left, no call is on its way. -/
theorem quiet_of_run {as : List CallAct} (hrun : Trace.exec step {} as = some s) {t : Nat}
    (hthread : ∀ a ∈ as, a.thread = t) (hcall : s.call t = none) : s.Quiet := by
  intro u
  by_cases hu : u = t
  · rw [hu, hcall]
  · exact call_of_run hrun fun a ha => by rwa [hthread a ha]

/-- The channel that a call is known to have is the one it owes something for. -/
theorem obtained_of_next {o : PoolOp} {r : o.Result} {d d' : ChannelDuty} {channel : Option Nat}
    (hnext : ChannelDuty.next o r d = some d') (h : ∀ ch, d.channel = some ch → channel = some ch) (ch : Nat)
    (hd' : d'.channel = some ch) : ((o.obtained r).orElse fun _ => channel) = some ch := by
  cases o with
  | lockedGet id =>
      cases r <;> cases d <;> simp [ChannelDuty.next] at hnext <;> subst hnext <;>
        simp_all [PoolOp.obtained, ChannelDuty.channel]
  | put c =>
      simp only [ChannelDuty.next, Option.ite_none_right_eq_some, Option.some.injEq] at hnext
      obtain ⟨hd, rfl⟩ := hnext
      simpa [PoolOp.obtained, ChannelDuty.channel] using (h c hd).trans hd'
  | readWaitRetry c =>
      obtain rfl : d = d' := by simpa [ChannelDuty.next] using hnext
      simpa [PoolOp.obtained] using h ch hd'
  | writeWaitRetry c b =>
      cases b <;> simp only [ChannelDuty.next, Option.ite_none_right_eq_some, Option.some.injEq] at hnext <;>
        obtain ⟨rfl, rfl⟩ := hnext <;> simpa [PoolOp.obtained] using h ch hd'
  | clearBusy c =>
      simp only [ChannelDuty.next, Option.ite_none_right_eq_some, Option.some.injEq] at hnext
      obtain ⟨rfl, rfl⟩ := hnext
      simpa [PoolOp.obtained] using h ch hd'
  | copyToUser size id =>
      cases id with
      | none =>
          obtain rfl : d = d' := by simpa [ChannelDuty.next] using hnext
          simpa [PoolOp.obtained] using h ch hd'
      | some c =>
          simp only [ChannelDuty.next, Option.ite_none_right_eq_some, Option.some.injEq] at hnext
          obtain ⟨rfl, hnext⟩ := hnext
          have hsame : d'.channel = some c := by
            rw [← hnext]
            split_ifs <;> rfl
          simpa [PoolOp.obtained] using (h c rfl).trans (hsame.symm.trans hd')
  | call c =>
      obtain rfl : d = d' := by simpa [ChannelDuty.next] using hnext
      simpa [PoolOp.obtained] using h ch hd'

theorem Inv.setCall_pool {p : ChannelPool} (h : s.Inv duty) {t : Nat} {d : ChannelDuty} {c : Option RpcCall}
    (hpool : p.Accounted (Function.update duty t d)) (hidle : c = none → d = .nothing)
    (hrunning : ∀ c', c = some c' → c'.program.Keeps c'.entry.protocol (fun _ d => d.Settled) d ∧
      ∀ ch, d.channel = some ch → c'.channel = some ch) :
    Inv ({ s with pool := p }.setCall t c) (Function.update duty t d) := by
  refine ⟨hpool, ?_, ?_⟩
  · intro u hu
    by_cases hut : u = t
    · subst hut
      simpa using hidle (by simpa [setCall] using hu)
    · simpa [hut] using h.idle u (by simpa [setCall, hut] using hu)
  · intro u c' hu
    by_cases hut : u = t
    · subst hut
      simpa using hrunning c' (by simpa [setCall] using hu)
    · simpa [hut] using h.running u c' (by simpa [setCall, hut] using hu)

/-- **Step.** -/
theorem Inv.step (h : s.Inv duty) (hadmits : s.admits a = true) (hstep : s.step a = some s') :
    ∃ duty', s'.Inv duty' := by
  obtain ⟨t, e, rfl, hcall, rfl⟩ | ⟨t, answer, c, x, rfl, hcall, hprog, rfl⟩ |
    ⟨t, answer, c, o, k, rfl, hcall, hprog, rfl⟩ := step_cases hstep
  · -- a call begins, and owes nothing
    have hnothing := h.idle t hcall
    refine ⟨Function.update duty t .nothing, h.setCall_pool (p := s.pool) ?_ (by simp) ?_⟩
    · rw [← hnothing, Function.update_eq_self]
      exact h.pool
    · rintro c' hc'
      obtain rfl := Option.some.inj hc'
      exact ⟨e.program_keeps, by simp [ChannelDuty.channel]⟩
  · -- it ends
    obtain ⟨hkeeps, -⟩ := h.running t c hcall
    rw [hprog] at hkeeps
    exact ⟨Function.update duty t .nothing, h.setCall_pool (h.pool.settle hkeeps) (by simp) (by simp)⟩
  · obtain ⟨hkeeps, hchannel⟩ := h.running t c hcall
    rw [hprog] at hkeeps
    obtain ⟨d, hnext, hrest⟩ := hkeeps (o.exec s.pool answer).2
      (by simpa [admits, hcall, hprog, EntryPoint.protocol] using hadmits)
    refine ⟨Function.update duty t d, h.setCall_pool (h.pool.exec o answer hnext) (by simp) ?_⟩
    rintro c' hc'
    obtain rfl := Option.some.inj hc'
    exact ⟨hrest, obtained_of_next hnext hchannel⟩

theorem Inv.start : Inv {} fun _ => .nothing where
  pool :=
    { shared := by simp [ChannelPool.Shared]
      known := by simp [ChannelDuty.channel]
      busyBit := by simp
      retryBit := by simp
      ticketBit := by simp }
  idle := by simp
  running := by simp

/-- Nobody owes anything for a channel that no call has. -/
theorem Inv.not_owes (h : s.Inv duty) {ch : Nat} (hno : ¬ ∃ t c, s.call t = some c ∧ c.channel = some ch) (t : Nat) :
    ¬ (duty t).Owes ch := by
  intro howes
  have hchannel : (duty t).channel = some ch := by
    obtain hd | hd | hd := howes <;> simp [hd, ChannelDuty.channel]
  cases hcall : s.call t with
  | none => simp [h.idle t hcall, ChannelDuty.channel] at hchannel
  | some c => exact hno ⟨t, c, hcall, (h.running t c hcall).2 ch hchannel⟩

theorem Inv.resumable (h : s.Inv duty) {ch : Nat} (hmem : ch ∈ s.pool.busyChannels)
    (hno : ¬ ∃ t c, s.call t = some c ∧ c.channel = some ch) : s.pool.Resumable ch := by
  have hnot := h.not_owes hno
  have hbusy : (s.pool.chan ch).busy = false := by
    by_contra hbit
    obtain ⟨t, hd⟩ := h.pool.busyBit ch hmem (by simpa using hbit)
    exact hnot t (.inl hd)
  have hretry : (s.pool.chan ch).waitRetry = true := by
    by_contra hbit
    obtain ⟨t, hd | hd⟩ := h.pool.retryBit ch hmem (by simpa using hbit)
    · exact hnot t (.inl hd)
    · exact hnot t (.inr (.inl hd))
  have hticket : (s.pool.chan ch).ticket = true := by
    by_contra hbit
    obtain ⟨t, hd⟩ := h.pool.ticketBit ch hmem (by simpa using hbit)
    exact hnot t hd
  refine ⟨⟨hbusy, hretry, hticket⟩, ?_⟩
  obtain ⟨hpos, hle⟩ := (h.pool.shared.mem_iff ch).1 (.inr hmem)
  have hne : ch ≠ 0 := by omega
  simp [ChannelPool.channelPoolGetById, hne, hle, hretry]

theorem Inv.noLeak (h : s.Inv duty) : s.NoLeak where
  channel := by
    intro ch hpos hle
    obtain hfree | hbusy := (h.pool.shared.mem_iff ch).2 ⟨hpos, hle⟩
    · exact .inl hfree
    · by_cases hcall : ∃ t c, s.call t = some c ∧ c.channel = some ch
      · exact .inr ⟨hbusy, .inl hcall⟩
      · exact .inr ⟨hbusy, .inr (h.resumable hbusy hcall)⟩
  resumed := by
    intro hquiet hresumed
    rw [List.eq_nil_iff_forall_not_mem]
    intro ch hmem
    have hticket := (h.resumable hmem (by simp [hquiet _])).1.2.2
    simp [hresumed ch] at hticket
  close := by
    intro hquiet
    refine ChannelPool.channelPoolClose_ends_iff.2 fun ch hmem => ?_
    exact (h.resumable hmem (by simp [hquiet _])).1.1

end Step

/-- **No channel is lost.** In a run of any calls by any number of threads in which each operation returns what it is
    to return, no channel is lost in any state. -/
theorem noLeak_of_run (as : List CallAct) (s : PoolCalls)
    (hrun : Trace.exec (Trace.guarded (fun s a => s.admits a = true) step) {} as = some s) : s.NoLeak := by
  have hinv : ∃ duty, s.Inv duty := by
    refine Trace.exec_invariant (P := fun s => ∃ duty, s.Inv duty) ?_ ⟨_, Inv.start⟩ hrun
    rintro s a s' ⟨duty, hinv⟩ hstep
    obtain ⟨hadmits, hstep⟩ := Trace.guarded_eq_some.1 hstep
    exact hinv.step hadmits hstep
  obtain ⟨duty, hinv⟩ := hinv
  exact hinv.noLeak

/-- The operations of thread `t`, with these answers. -/
def answers (t : Nat) (l : List Int) : List CallAct := l.map (.next t)

/-- A wait is interrupted. While its channel is being parked, `hgsl_hyp_deinit_ipcq` goes through on another
    channel. Then the wait is resumed with the id that the user was given. -/
def parkedAndResumed : List CallAct :=
  [.enter 0 (.waitTimestamp 24 0#32)] ++ answers 0 [0, 1, -EINVAL, 0, 0, 0, 0, 0, 0, 0, 0, -EINTR] ++
    [.enter 1 .deinitIpcq] ++ answers 1 (List.replicate 15 0) ++ answers 0 [0, 0, 0, 0] ++
      [.enter 0 (.waitTimestamp 24 1#32)] ++ answers 0 [0, 1, 0, 0, 0, 0, 0, 0, 0, 0, 0, 0, 0]

theorem noLeak_of_run_parkedAndResumed :
    ∃ s, Trace.exec (Trace.guarded (fun s a => s.admits a = true) step) {} parkedAndResumed = some s ∧
      (s.pool.freeChannels = [2, 1] ∧ s.pool.busyChannels = []) ∧ s.NoLeak := by
  have heval : (Trace.exec (Trace.guarded (fun s a => s.admits a = true) step) {} parkedAndResumed).map
      (fun s => (s.pool.freeChannels, s.pool.busyChannels)) = some ([2, 1], []) := by
    decide +kernel
  obtain ⟨s, hs, heq⟩ := Option.map_eq_some_iff.1 heval
  exact ⟨s, hs, by simpa using heq, noLeak_of_run _ s hs⟩

/-- The other side is gone when `hgsl_hyp_deinit_ipcq` waits for the reply. -/
def deinitFails : List CallAct := [.enter 0 .deinitIpcq] ++ answers 0 [0, 0, 0, 0, 0, 0, 0, -ENODEV, 0]

/-- The wait for an indirect buffer is interrupted. -/
def bufferWaitInterrupted : List CallAct :=
  [.enter 0 (.getFreeIndirectIbBuffer 1#32 1000)] ++ answers 0 [-EINVAL, 0, 0, 0, 0, 0, 0, 0, 0, -EINTR, 0, 0, 0]

/-- A wait ioctl is interrupted whose command encodes the 20 bytes in front of `channel_id`. -/
def shortWaitInterrupted : List CallAct :=
  [.enter 0 (.waitTimestamp 20 0#32)] ++
    answers 0 [0, 1, -EINVAL, 0, 0, 0, 0, 0, 0, 0, 0, -EINTR, 0, 0, 0, 0]

/-- One channel, taken, and no call on its way, but the id is not with a user. -/
theorem lost_of_run {as : List CallAct} (hthread : ∀ a ∈ as, a.thread = 0)
    (heval : (Trace.exec step {} as).map (fun s =>
      ((s.call 0).isNone, s.pool.count, s.pool.freeChannels, s.pool.busyChannels, (s.pool.chan 1).ticket)) =
        some (true, 1, [], [1], false)) :
    ∃ s, Trace.exec step {} as = some s ∧ (s.Quiet ∧ s.pool.busyChannels = [1]) ∧ ¬ s.NoLeak := by
  obtain ⟨s, hs, heq⟩ := Option.map_eq_some_iff.1 heval
  obtain ⟨hcall, hcount, hfree, hbusy, hticket⟩ : s.call 0 = none ∧ s.pool.count = 1 ∧ s.pool.freeChannels = [] ∧
      s.pool.busyChannels = [1] ∧ (s.pool.chan 1).ticket = false := by
    simpa using heq
  have hquiet : s.Quiet := quiet_of_run hs hthread hcall
  refine ⟨s, hs, ⟨hquiet, hbusy⟩, fun hno => ?_⟩
  obtain hmem | ⟨-, ⟨t, c, hc, -⟩ | hresumable⟩ := hno.channel 1 le_rfl (by omega)
  · simp [hfree] at hmem
  · simp [hquiet t] at hc
  · simp [hresumable.1.2.2] at hticket

/-- In each of these runs, the channel is on the busy list when the call has returned, and nobody has its id. After
    a failed `hgsl_hyp_deinit_ipcq`, closing the pool never ends. -/
theorem failed_calls_lose_channel :
    (∀ as ∈ [deinitFails, bufferWaitInterrupted, shortWaitInterrupted],
      ∃ s, Trace.exec step {} as = some s ∧ (s.Quiet ∧ s.pool.busyChannels = [1]) ∧ ¬ s.NoLeak) ∧
      ∃ s, Trace.exec step {} deinitFails = some s ∧ ∀ n, s.pool.channelPoolClose n = none := by
  constructor
  · intro as has
    obtain rfl | rfl | rfl : as = deinitFails ∨ as = bufferWaitInterrupted ∨ as = shortWaitInterrupted := by
      simpa using has
    · exact lost_of_run (by decide) (by decide +kernel)
    · exact lost_of_run (by decide) (by decide +kernel)
    · exact lost_of_run (by decide) (by decide +kernel)
  · have heval : (Trace.exec step {} deinitFails).map (fun s => (s.pool.busyChannels, (s.pool.chan 1).busy)) =
        some ([1], true) := by
      decide +kernel
    obtain ⟨s, hs, heq⟩ := Option.map_eq_some_iff.1 heval
    obtain ⟨hlist, hbusy⟩ : s.pool.busyChannels = [1] ∧ (s.pool.chan 1).busy = true := by simpa using heq
    refine ⟨s, hs, fun n => ?_⟩
    cases hclose : s.pool.channelPoolClose n with
    | none => rfl
    | some q =>
        have hidle := ChannelPool.channelPoolClose_ends_iff.1 ⟨n, q, hclose⟩ 1 (by simp [hlist])
        simp [hbusy] at hidle

end PoolCalls

end Hgsl
