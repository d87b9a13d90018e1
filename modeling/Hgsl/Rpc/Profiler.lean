import Hgsl.Lib.Loop
import Hgsl.Rpc.Received

set_option autoImplicit false

/-! # Profiler replies

`hgsl_hyp_gslprofiler_per_proc_gpu_busy` and `hgsl_hyp_gslprofiler_per_proc_gpu_pmem` read as many records as
the backend says there are into arrays for 512 of them, and do not compare the two. What keeps them in the
arrays is the parcel, which has no room for that many records. -/

namespace Hgsl

/-- `GSL_PROFILER_MAX_NUM_PROCESSES` -/
def GSL_PROFILER_MAX_NUM_PROCESSES : Nat := 512

/-- `GSL_PROFILER_MAX_PROCESS_NAME_LENGTH` -/
def GSL_PROFILER_MAX_PROCESS_NAME_LENGTH : BitVec 64 := 96#64

/-- `struct gsl_profiler_get_per_proc_gpu_busy_percentage_t`, with the bits of a `double` as usage, and
    `struct gsl_profiler_get_per_proc_gpu_pmem_usage_t`. The arrays are as the memory behind their start. -/
structure PerProcUsage (w : Nat) where
  processNum : BitVec 32
  processId : Nat → BitVec 32
  processName : Nat → List (BitVec 8)
  usage : Nat → BitVec w
  ts : BitVec 64

inductive ProfilerArray where
  | processId
  | processName
  | busyPercentage
  | pmemUsage
  deriving DecidableEq, Repr

/-- A reply while it is read. -/
structure Profiling (w : Nat) where
  /-- `recv_buf` -/
  parcel : HabPayload
  usage : PerProcUsage w
  i : BitVec 32 := 0#32
  rval : BitVec 32 := 0#32
  /-- history: the entries of the arrays that are used -/
  accessed : List (ProfilerArray × BitVec 32) := []

/-! ## The reads -/

namespace Profiling

variable {w : Nat}

/-- One step and, if it returns 0, another one. -/
def andThen (f g : Profiling w → Int × Profiling w) (s : Profiling w) : Int × Profiling w :=
  if (f s).1 ≠ 0 then f s else g (f s).2

def readProcessNum (s : Profiling w) : Int × Profiling w :=
  let reply := gslRpcReadUint32L s.parcel
  (reply.ret, { s with
    parcel := reply.parcel
    usage := { s.usage with processNum := reply.out.getD s.usage.processNum } })

def readProcessId (s : Profiling w) : Int × Profiling w :=
  let reply := gslRpcReadUint32L s.parcel
  let i := s.i.toNat
  (reply.ret, { s with
    parcel := reply.parcel
    usage := { s.usage with
      processId := Function.update s.usage.processId i (reply.out.getD (s.usage.processId i)) }
    accessed := s.accessed ++ [(.processId, s.i)] })

def readProcessName (s : Profiling w) : Int × Profiling w :=
  let reply := gslRpcRead s.parcel GSL_PROFILER_MAX_PROCESS_NAME_LENGTH
  let i := s.i.toNat
  (reply.ret, { s with
    parcel := reply.parcel
    usage := { s.usage with
      processName := Function.update s.usage.processName i (reply.out.getD (s.usage.processName i)) }
    accessed := s.accessed ++ [(.processName, s.i)] })

/-- The percentage goes through a variable; the array is used when it has been read. -/
def readBusyPercentage (s : Profiling 64) : Int × Profiling 64 :=
  let reply := gslRpcReadUint64L s.parcel
  let i := s.i.toNat
  (reply.ret, { s with
    parcel := reply.parcel
    usage := { s.usage with usage := Function.update s.usage.usage i (reply.out.getD (s.usage.usage i)) }
    accessed := s.accessed ++ if reply.ret = 0 then [(.busyPercentage, s.i)] else [] })

def readPmemUsage (s : Profiling 32) : Int × Profiling 32 :=
  let reply := gslRpcReadUint32L s.parcel
  let i := s.i.toNat
  (reply.ret, { s with
    parcel := reply.parcel
    usage := { s.usage with usage := Function.update s.usage.usage i (reply.out.getD (s.usage.usage i)) }
    accessed := s.accessed ++ [(.pmemUsage, s.i)] })

def readTs (s : Profiling w) : Int × Profiling w :=
  let reply := gslRpcReadUint64L s.parcel
  (reply.ret, { s with
    parcel := reply.parcel
    usage := { s.usage with ts := reply.out.getD s.usage.ts } })

def readRval (s : Profiling w) : Int × Profiling w :=
  let reply := gslRpcReadInt32L s.parcel
  (reply.ret, { s with parcel := reply.parcel, rval := reply.out.getD s.rval })

end Profiling

/-! ## The calls -/

section Calls

variable {w : Nat}

/-- The body of the loop over the processes, with the read of the usage. -/
def perProcBody (readUsage : Profiling w → Int × Profiling w) : Profiling w → Int × Profiling w :=
  Profiling.andThen Profiling.readProcessId (Profiling.andThen Profiling.readProcessName readUsage)

/-- One turn of the loop over the processes. -/
def perProcTurn (readUsage : Profiling w → Int × Profiling w) (s : Profiling w) :
    Loop.Turn (Profiling w) (Int × Profiling w) :=
  if s.i < s.usage.processNum then
    let body := perProcBody readUsage s
    if body.1 ≠ 0 then .done body else .next { body.2 with i := body.2.i + 1#32 }
  else .done (0, s)

/-- What is read behind the records. -/
def perProcTail (r : Int × Profiling w) : Int × Profiling w :=
  if r.1 ≠ 0 then r
  else
    let tail := Profiling.andThen Profiling.readTs Profiling.readRval r.2
    if tail.1 ≠ 0 then tail else (tail.2.rval.toInt, tail.2)

/-- What is read of a reply. -/
def perProcReply (readUsage : Profiling w → Int × Profiling w) (fuel : Nat) (s : Profiling w) :
    Option (Int × Profiling w) :=
  let num := s.readProcessNum
  if num.1 ≠ 0 then some num else (Loop.run (perProcTurn readUsage) fuel num.2).map perProcTail

/-- The channel that a call gets, and what the calls return that it makes before it reads the reply. -/
structure ProfilerCalls where
  /-- `hgsl_hyp_channel_pool_get` -/
  channelGet : Int
  /-- `hab_channel->id` -/
  id : Int
  waitRetry : Bool
  write : Int
  /-- `gsl_rpc_transact_interrruptible` -/
  transact : Int
  /-- what is in the receive buffer after the transaction -/
  received : Nat → BitVec 8

structure ProfilerResult (w : Nat) where
  ret : Int
  profiling : Profiling w
  /-- the `channel_id` that the caller can resume the call with -/
  channelId : Option Int := none
  /-- the channel is put back -/
  put : Bool := true

/-- A profiler call; `recvBuf` is the receive parcel of the channel. -/
def perProcCall (readUsage : Profiling w → Int × Profiling w) (fuel : Nat) (calls : ProfilerCalls)
    (recvBuf : HabPayload) (usage : PerProcUsage w) : Option (ProfilerResult w) :=
  if calls.channelGet ≠ 0 then some { ret := calls.channelGet, profiling := { parcel := recvBuf, usage } }
  else
    let parcel := if calls.waitRetry then recvBuf else gslRpcParcelReset recvBuf
    if calls.waitRetry = false ∧ calls.write ≠ 0 then some { ret := calls.write, profiling := { parcel, usage } }
    else if calls.transact = -EINTR then
      some { ret := calls.transact, profiling := { parcel, usage }, channelId := some calls.id, put := false }
    else if calls.transact ≠ 0 then some { ret := calls.transact, profiling := { parcel, usage } }
    else
      (perProcReply readUsage fuel { parcel := { parcel with data := calls.received }, usage }).map fun r =>
        { ret := r.1, profiling := r.2 }

/-- `hgsl_hyp_gslprofiler_per_proc_gpu_busy` -/
def hgslHypGslprofilerPerProcGpuBusy :
    Nat → ProfilerCalls → HabPayload → PerProcUsage 64 → Option (ProfilerResult 64) :=
  perProcCall Profiling.readBusyPercentage

/-- `hgsl_hyp_gslprofiler_per_proc_gpu_pmem` -/
def hgslHypGslprofilerPerProcGpuPmem :
    Nat → ProfilerCalls → HabPayload → PerProcUsage 32 → Option (ProfilerResult 32) :=
  perProcCall Profiling.readPmemUsage

end Calls

/-! ## What a read does -/

/-- A step that moves the position by `advance` if it returns 0, and that uses entry `i` of the arrays only. -/
structure ReadStep {w : Nat} (advance : Nat) (s : Profiling w) (r : Int × Profiling w) : Prop where
  bounded : r.2.parcel.Bounded
  moves : r.1 = 0 → r.2.parcel.dataPos.toNat = s.parcel.dataPos.toNat + advance
  i : r.2.i = s.i
  accessed : ∀ a ∈ r.2.accessed, a ∈ s.accessed ∨ a.2 = s.i

section Steps

variable {w : Nat} {s : Profiling w} {m n : Nat}

theorem ReadStep.of_getArgPtr {r : Int × Profiling w} (h : s.parcel.Bounded) (id : BitVec 32) (size : BitVec 64)
    (hret : r.1 = (gslRpcGetArgPtr s.parcel id size).ret)
    (hparcel : r.2.parcel = (gslRpcGetArgPtr s.parcel id size).parcel) (hi : r.2.i = s.i)
    (haccessed : ∀ a ∈ r.2.accessed, a ∈ s.accessed ∨ a.2 = s.i) :
    ReadStep (size.toNat + gslRpcHeaderSize + gslRpcFooterSize) s r := by
  refine ⟨?_, ?_, hi, haccessed⟩
  · rw [hparcel]
    exact h.getArgPtr id size
  · intro hzero
    rw [hret] at hzero
    rw [hparcel]
    obtain ⟨-, ⟨hfail, -⟩ | ⟨-, hnext⟩⟩ := gslRpcGetArgPtr_pos h id size
    · exact absurd hzero hfail
    · exact hnext

/-- Two steps, one behind the other. -/
theorem ReadStep.andThen {f g : Profiling w → Int × Profiling w} (hf : ReadStep m s (f s))
    (hg : ∀ t : Profiling w, t.parcel.Bounded → ReadStep n t (g t)) : ReadStep (m + n) s (Profiling.andThen f g s) := by
  unfold Profiling.andThen
  by_cases hzero : (f s).1 = 0
  · rw [if_neg (not_not_intro hzero)]
    have hrest := hg (f s).2 hf.bounded
    refine ⟨hrest.bounded, ?_, hrest.i.trans hf.i, ?_⟩
    · intro hret
      rw [hrest.moves hret, hf.moves hzero, Nat.add_assoc]
    · intro a ha
      rcases hrest.accessed a ha with hmem | hindex
      · exact hf.accessed a hmem
      · exact .inr (hindex.trans hf.i)
  · rw [if_pos hzero]
    refine ⟨hf.bounded, ?_, hf.i, hf.accessed⟩
    intro hret
    exact absurd hret hzero

/-- Where all new entries are of index `i`, an entry is an old one or of index `i`. -/
theorem mem_or_index {accessed new : List (ProfilerArray × BitVec 32)} {i : BitVec 32} (h : ∀ a ∈ new, a.2 = i) :
    ∀ a ∈ accessed ++ new, a ∈ accessed ∨ a.2 = i := by
  intro a ha
  rcases List.mem_append.1 ha with hmem | hnew
  · exact .inl hmem
  · exact .inr (h a hnew)

theorem readProcessNum_step (h : s.parcel.Bounded) : ReadStep 24 s s.readProcessNum :=
  .of_getArgPtr h GSL_RPC_32BIT_DATA 4#64 rfl rfl rfl fun _ => .inl

theorem readProcessId_step (h : s.parcel.Bounded) : ReadStep 24 s s.readProcessId :=
  .of_getArgPtr h GSL_RPC_32BIT_DATA 4#64 rfl rfl rfl (mem_or_index (by simp))

theorem readProcessName_step (h : s.parcel.Bounded) : ReadStep 116 s s.readProcessName :=
  .of_getArgPtr h GSL_RPC_BLOB_DATA GSL_PROFILER_MAX_PROCESS_NAME_LENGTH rfl rfl rfl (mem_or_index (by simp))

theorem readTs_step (h : s.parcel.Bounded) : ReadStep 28 s s.readTs :=
  .of_getArgPtr h GSL_RPC_64BIT_DATA 8#64 rfl rfl rfl fun _ => .inl

theorem readRval_step (h : s.parcel.Bounded) : ReadStep 24 s s.readRval :=
  .of_getArgPtr h GSL_RPC_32BIT_DATA 4#64 rfl rfl rfl fun _ => .inl

/-- The body moves the position by the three arguments of a record. -/
theorem perProcBody_step {readUsage : Profiling w → Int × Profiling w}
    (husage : ∀ t : Profiling w, t.parcel.Bounded → ReadStep n t (readUsage t)) (h : s.parcel.Bounded) :
    ReadStep (24 + (116 + n)) s (perProcBody readUsage s) :=
  (readProcessId_step h).andThen fun _ ht => (readProcessName_step ht).andThen husage

end Steps

theorem readBusyPercentage_step {s : Profiling 64} (h : s.parcel.Bounded) : ReadStep 28 s s.readBusyPercentage := by
  refine .of_getArgPtr h GSL_RPC_64BIT_DATA 8#64 rfl rfl rfl (mem_or_index ?_)
  intro a ha
  split at ha
  · obtain rfl := List.mem_singleton.1 ha
    rfl
  · cases ha

theorem readPmemUsage_step {s : Profiling 32} (h : s.parcel.Bounded) : ReadStep 24 s s.readPmemUsage :=
  .of_getArgPtr h GSL_RPC_32BIT_DATA 4#64 rfl rfl rfl (mem_or_index (by simp))

/-! ## The loop -/

/-- Only entries that the arrays have are used. -/
structure Profiling.InBounds {w : Nat} (s : Profiling w) : Prop where
  bounded : s.parcel.Bounded
  i : s.i.toNat < GSL_PROFILER_MAX_NUM_PROCESSES
  accessed : ∀ a ∈ s.accessed, a.2.toNat < GSL_PROFILER_MAX_NUM_PROCESSES

/-- Before a turn, the position tells how many records have been read. -/
structure Profiling.LoopInv {w : Nat} (advance : Nat) (s : Profiling w) : Prop where
  bounded : s.parcel.Bounded
  moved : s.i.toNat * advance ≤ s.parcel.dataPos.toNat
  accessed : ∀ a ∈ s.accessed, a.2.toNat ≤ s.i.toNat

section Bounds

variable {w advance m : Nat} {s : Profiling w} {readUsage : Profiling w → Int × Profiling w}

theorem Profiling.InBounds.step {r : Int × Profiling w} (h : s.InBounds) (hstep : ReadStep m s r) : r.2.InBounds := by
  refine ⟨hstep.bounded, hstep.i.symm ▸ h.i, ?_⟩
  intro a ha
  rcases hstep.accessed a ha with hmem | hindex
  · exact h.accessed a hmem
  · rw [hindex]
    exact h.i

/-- A record takes 9 bytes at least, so the parcel has none of index 512. -/
theorem Profiling.LoopInv.inBounds (h : s.LoopInv advance) (hadvance : 9 ≤ advance) : s.InBounds := by
  have hpos := h.bounded.dataPos
  have hmoved := h.moved
  unfold gslRpcFooterSize at hpos
  have hindex : s.i.toNat < GSL_PROFILER_MAX_NUM_PROCESSES := by
    have hle : s.i.toNat * 9 ≤ s.i.toNat * advance := Nat.mul_le_mul_left _ hadvance
    unfold GSL_PROFILER_MAX_NUM_PROCESSES
    omega
  exact ⟨h.bounded, hindex, fun a ha => (h.accessed a ha).trans_lt hindex⟩

theorem inBounds_start {parcel : HabPayload} (h : parcel.Bounded) (usage : PerProcUsage w) :
    ({ parcel, usage } : Profiling w).InBounds :=
  ⟨h, by simp [GSL_PROFILER_MAX_NUM_PROCESSES], by simp⟩

theorem perProcTail_inBounds {r : Int × Profiling w} (h : r.2.InBounds) : (perProcTail r).2.InBounds := by
  have htail := (readTs_step h.bounded).andThen fun t (ht : t.parcel.Bounded) => readRval_step ht
  have hend := h.step htail
  unfold perProcTail
  dsimp only
  split_ifs
  · exact h
  · exact hend
  · exact hend

/-! Each turn reads a record, which moves the position by `advance`. -/

variable (hbody : ∀ t : Profiling w, t.parcel.Bounded → ReadStep advance t (perProcBody readUsage t))

include hbody

/-- **Step lemma.** A turn that goes on has read a record. -/
theorem perProcTurn_next (h : s.parcel.Bounded) {s' : Profiling w} (hturn : perProcTurn readUsage s = .next s') :
    s'.i = s.i + 1#32 ∧ s'.parcel.dataPos.toNat = s.parcel.dataPos.toNat + advance ∧ s'.parcel.Bounded ∧
      ∀ a ∈ s'.accessed, a ∈ s.accessed ∨ a.2 = s.i := by
  have hstep := hbody s h
  unfold perProcTurn at hturn
  dsimp only at hturn
  split_ifs at hturn with hmore hfail
  obtain rfl := Loop.Turn.next.inj hturn
  exact ⟨by rw [hstep.i], hstep.moves (not_not.1 hfail), hstep.bounded, hstep.accessed⟩

/-- Where the loop ends, it has used no entry behind that of the last turn. -/
theorem perProcTurn_done (h : s.InBounds) {r : Int × Profiling w} (hturn : perProcTurn readUsage s = .done r) :
    r.2.InBounds := by
  unfold perProcTurn at hturn
  dsimp only at hturn
  split_ifs at hturn with hmore hfail
  · obtain rfl := Loop.Turn.done.inj hturn
    exact h.step (hbody s h.bounded)
  · obtain rfl := Loop.Turn.done.inj hturn
    exact h

/-- The loop ends within the turns that the parcel has room for, and stays in the arrays. -/
theorem perProcLoop_ends (hadvance : 9 ≤ advance) (h : s.LoopInv advance) {fuel : Nat}
    (hfuel : 4096 + gslRpcFooterSize < fuel * advance) :
    ∃ r, Loop.run (perProcTurn readUsage) fuel s = some r ∧ r.2.InBounds := by
  refine Loop.run_of_budget (P := fun s => s.LoopInv advance)
    (fun s => 4096 + gslRpcFooterSize - s.parcel.dataPos.toNat) advance ?_ ?_ h (by omega)
  · intro s s' hinv hturn
    obtain ⟨hi, hpos, hbounded, haccessed⟩ := perProcTurn_next hbody hinv.bounded hturn
    have hsmall : s.i.toNat < 512 := (hinv.inBounds hadvance).i
    have hsucc : s'.i.toNat = s.i.toNat + 1 := by
      rw [hi, BitVec.toNat_add, BitVec.toNat_ofNat]
      omega
    have hend := hbounded.dataPos
    refine ⟨⟨hbounded, ?_, ?_⟩, by omega⟩
    · rw [hsucc, hpos, Nat.succ_mul]
      exact Nat.add_le_add_right hinv.moved advance
    · intro a ha
      rcases haccessed a ha with hmem | hindex
      · exact (hinv.accessed a hmem).trans (by omega)
      · rw [hindex]
        omega
  · intro s r hinv hturn
    exact perProcTurn_done hbody (hinv.inBounds hadvance) hturn

/-- All of a reply is read, whatever it says. -/
theorem perProcReply_ends (hadvance : 9 ≤ advance) {parcel : HabPayload} (h : parcel.Bounded)
    (usage : PerProcUsage w) {turns : Nat} (hturns : 4096 + gslRpcFooterSize < turns * advance) :
    ∃ r, (∀ fuel, turns ≤ fuel → perProcReply readUsage fuel { parcel, usage } = some r) ∧ r.2.InBounds := by
  have hnum := readProcessNum_step (s := { parcel, usage }) h
  unfold perProcReply
  dsimp only
  by_cases hread : (Profiling.readProcessNum ({ parcel, usage } : Profiling w)).1 = 0
  swap
  · exact ⟨_, fun fuel _ => if_pos hread, (inBounds_start h usage).step hnum⟩
  have hinv : Profiling.LoopInv advance (Profiling.readProcessNum ({ parcel, usage } : Profiling w)).2 := by
    refine ⟨hnum.bounded, by simp [hnum.i], ?_⟩
    intro a ha
    rcases hnum.accessed a ha with hmem | hindex
    · cases hmem
    · rw [hindex, hnum.i]
  obtain ⟨r, hrun, hr⟩ := perProcLoop_ends hbody hadvance hinv hturns
  refine ⟨perProcTail r, ?_, perProcTail_inBounds hr⟩
  intro fuel hle
  rw [if_neg (not_not_intro hread), Loop.run_mono hrun hle]
  rfl

/-- A call of either function ends and stays in the arrays. -/
theorem perProcCall_ends (hadvance : 9 ≤ advance) {recvBuf : HabPayload} (h : Received recvBuf)
    (calls : ProfilerCalls) (usage : PerProcUsage w) {turns : Nat}
    (hturns : 4096 + gslRpcFooterSize < turns * advance) :
    ∃ r, (∀ fuel, turns ≤ fuel → perProcCall readUsage fuel calls recvBuf usage = some r) ∧ r.profiling.InBounds := by
  have hinit : ∀ parcel, Received parcel → Profiling.InBounds ({ parcel, usage } : Profiling w) :=
    fun _ hparcel => inBounds_start hparcel.bounded usage
  have hparcel : Received (if calls.waitRetry then recvBuf else gslRpcParcelReset recvBuf) := by
    split_ifs
    · exact h
    · exact h.reset
  unfold perProcCall
  dsimp only
  by_cases hget : calls.channelGet = 0
  swap
  · exact ⟨_, fun fuel _ => if_pos hget, hinit _ h⟩
  by_cases hwrite : calls.waitRetry = false ∧ calls.write ≠ 0
  · exact ⟨_, fun fuel _ => by rw [if_neg (not_not_intro hget), if_pos hwrite], hinit _ hparcel⟩
  by_cases hintr : calls.transact = -EINTR
  · exact ⟨_, fun fuel _ => by rw [if_neg (not_not_intro hget), if_neg hwrite, if_pos hintr], hinit _ hparcel⟩
  by_cases htransact : calls.transact = 0
  swap
  · exact ⟨_, fun fuel _ => by rw [if_neg (not_not_intro hget), if_neg hwrite, if_neg hintr, if_pos htransact],
      hinit _ hparcel⟩
  obtain ⟨r, hreply, hr⟩ := perProcReply_ends hbody hadvance (hparcel.recv calls.received).bounded usage hturns
  refine ⟨{ ret := r.1, profiling := r.2 }, ?_, hr⟩
  intro fuel hle
  rw [if_neg (not_not_intro hget), if_neg hwrite, if_neg hintr, if_neg (not_not_intro htransact), hreply fuel hle]
  rfl

end Bounds

/-- The body of either loop. -/
theorem busyBody_step (s : Profiling 64) (h : s.parcel.Bounded) :
    ReadStep 168 s (perProcBody Profiling.readBusyPercentage s) :=
  perProcBody_step (fun _ ht => readBusyPercentage_step ht) h

theorem pmemBody_step (s : Profiling 32) (h : s.parcel.Bounded) :
    ReadStep 164 s (perProcBody Profiling.readPmemUsage s) :=
  perProcBody_step (fun _ ht => readPmemUsage_step ht) h

/-- **Profiler replies.** Whatever the backend sends, both calls end after at most 26 turns of their loop and use
    only entries that their arrays have. For a turn that goes on moves the position by the length of a record, and
    a read past the end of the parcel fails. -/
theorem profiler_in_bounds {recvBuf : HabPayload} (h : Received recvBuf) (calls : ProfilerCalls)
    (busy : PerProcUsage 64) (pmem : PerProcUsage 32) :
    ((∃ r, (∀ fuel, 26 ≤ fuel → hgslHypGslprofilerPerProcGpuBusy fuel calls recvBuf busy = some r) ∧
          ∀ a ∈ r.profiling.accessed, a.2.toNat < GSL_PROFILER_MAX_NUM_PROCESSES) ∧
        ∃ r, (∀ fuel, 26 ≤ fuel → hgslHypGslprofilerPerProcGpuPmem fuel calls recvBuf pmem = some r) ∧
          ∀ a ∈ r.profiling.accessed, a.2.toNat < GSL_PROFILER_MAX_NUM_PROCESSES) ∧
      (∀ s s' : Profiling 64, Received s.parcel → perProcTurn Profiling.readBusyPercentage s = .next s' →
        s'.parcel.dataPos.toNat = s.parcel.dataPos.toNat + 168) ∧
      (∀ s s' : Profiling 32, Received s.parcel → perProcTurn Profiling.readPmemUsage s = .next s' →
        s'.parcel.dataPos.toNat = s.parcel.dataPos.toNat + 164) ∧
      ∀ (p : HabPayload) (r : RpcRead), Received p → 4096 < p.dataPos.toNat + r.size.toNat + gslRpcHeaderSize →
        (r.run p).ret ≠ 0 := by
  have hbusyTurns : 4096 + gslRpcFooterSize < 26 * 168 := by decide
  have hpmemTurns : 4096 + gslRpcFooterSize < 26 * 164 := by decide
  refine ⟨⟨?_, ?_⟩, ?_, ?_, ?_⟩
  · obtain ⟨r, hr, hbounds⟩ := perProcCall_ends busyBody_step (by decide) h calls busy hbusyTurns
    exact ⟨r, hr, hbounds.accessed⟩
  · obtain ⟨r, hr, hbounds⟩ := perProcCall_ends pmemBody_step (by decide) h calls pmem hpmemTurns
    exact ⟨r, hr, hbounds.accessed⟩
  · intro s s' hs hturn
    exact (perProcTurn_next busyBody_step hs.bounded hturn).2.1
  · intro s s' hs hturn
    exact (perProcTurn_next pmemBody_step hs.bounded hturn).2.1
  · intro p r hp hpast
    exact RpcRead.ret_of_past_end hp.bounded hpast

/-- A parcel as `gsl_rpc_parcel_init` makes it. -/
def emptyParcel : HabPayload where
  version := 1#32
  dataSize := 4096#64
  dataPos := gslRpcParcelGetDataOffset
  data := fun _ => 0#8

/-- A reply that announces 2 ^ 32 - 1 processes and holds the record of one. -/
def oneRecord : ProfilerCalls where
  channelGet := 0
  id := 1
  waitRetry := false
  write := 0
  transact := 0
  received :=
    match [RpcArg.uint32 0xFFFFFFFF#32, .uint32 7#32, .blob (List.replicate 96 0x61#8), .uint64 5#64].foldlM
        (RpcArg.write fun _ => none) emptyParcel with
    | .ok p => p.data
    | .error _ => fun _ => 0#8

/-- The first record is read, and the second turn finds nothing. -/
theorem profiler_in_bounds_oneRecord :
    ∃ r, (∀ fuel, 26 ≤ fuel → hgslHypGslprofilerPerProcGpuBusy fuel oneRecord emptyParcel
        ⟨0#32, fun _ => 0#32, fun _ => [], fun _ => 0#64, 0#64⟩ = some r) ∧
      (∀ a ∈ r.profiling.accessed, a.2.toNat < GSL_PROFILER_MAX_NUM_PROCESSES) ∧
      r.ret = -EINVAL ∧ r.profiling.usage.processNum = 0xFFFFFFFF#32 ∧
      r.profiling.accessed =
        [(.processId, 0#32), (.processName, 0#32), (.busyPercentage, 0#32), (.processId, 1#32)] := by
  have hreceived : Received emptyParcel := @Received.init (fun _ => some fun _ => 0#8) emptyParcel rfl
  obtain ⟨r, hr, hbounds⟩ := (profiler_in_bounds hreceived oneRecord
    ⟨0#32, fun _ => 0#32, fun _ => [], fun _ => 0#64, 0#64⟩ ⟨0#32, fun _ => 0#32, fun _ => [], fun _ => 0#32, 0#64⟩).1.1
  have heval : (hgslHypGslprofilerPerProcGpuBusy 26 oneRecord emptyParcel
      ⟨0#32, fun _ => 0#32, fun _ => [], fun _ => 0#64, 0#64⟩).map
        (fun r => (r.ret, r.profiling.usage.processNum, r.profiling.accessed)) =
      some (-EINVAL, 0xFFFFFFFF#32,
        [(.processId, 0#32), (.processName, 0#32), (.busyPercentage, 0#32), (.processId, 1#32)]) := by decide +kernel
  rw [hr 26 le_rfl] at heval
  obtain ⟨hret, hnum, haccessed⟩ : r.ret = -EINVAL ∧ r.profiling.usage.processNum = 0xFFFFFFFF#32 ∧
      r.profiling.accessed =
        [(.processId, 0#32), (.processName, 0#32), (.busyPercentage, 0#32), (.processId, 1#32)] := by
    simpa using heval
  exact ⟨r, hr, hbounds, hret, hnum, haccessed⟩

end Hgsl
