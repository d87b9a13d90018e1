import Hgsl.Rpc.Handshake

set_option autoImplicit false

/-! # Creating a channel

`hgsl_rpc_create_channel` makes a channel, gets a connection id from the backend if the pool has none yet, and
opens a socket of that connection. `priv->conn_id` stays in the pool, for the channels that come later. The calls
for a pool come one after the other, under `priv->lock`.

Left out: the `RPC_DISCONNECT` with which `hgsl_hyp_close_channel` takes its leave of a socket, since nothing
depends on the answer. -/

namespace Hgsl

/-- What happens to a channel that is created. -/
structure CreateEnv where
  /-- there is memory for the channel, and for the buffers of its two parcels -/
  zalloc : Bool
  sendData : Bool
  recvData : Bool
  /-- the id, or an error -/
  idrAlloc : Int
  /-- the two calls of `gsl_hab_open` -/
  firstOpen : ReplyRead Int
  secondOpen : ReplyRead Int
  handshake : Nat → HandshakeReply
  subHandshake : SubHandshakeReply

/-- How far `hgsl_rpc_create_channel` has come. -/
structure Creating where
  channel : NewChannel := {}
  connId : Int
  firstHandshake : Bool := false
  /-- the versions tried -/
  tried : List Nat := []
  events : List (Custody.Event ChannelResource) := []

/-- What creating a channel comes to. -/
structure Created where
  ret : Int
  channel : Option NewChannel
  connId : Int
  tried : List Nat
  events : List (Custody.Event ChannelResource)

/-! ## The steps -/

/-- The next step, if the one before it returned 0. -/
def Creating.andThen (r : Int × Creating) (f : Creating → Int × Creating) : Int × Creating :=
  if r.1 ≠ 0 then r else f r.2

/-- `idr_alloc` -/
def allocId (e : CreateEnv) (s : Creating) : Int × Creating :=
  if e.idrAlloc < 0 then (e.idrAlloc, { s with channel := { s.channel with id := e.idrAlloc } })
  else
    (0, { s with
      channel := { s.channel with id := e.idrAlloc }
      events := s.events ++ [.acquire (.id e.idrAlloc)] })

/-- `hgsl_rpc_parcel_init` -/
def hgslRpcParcelInit (e : CreateEnv) (s : Creating) : Int × Creating :=
  if e.sendData = false then (-ENOMEM, s)
  else if e.recvData = false then
    (-ENOMEM, { s with channel := { s.channel with sendBuf := true }, events := s.events ++ [.acquire .sendBuf] })
  else
    (0, { s with
      channel := { s.channel with sendBuf := true, recvBuf := true }
      events := s.events ++ [.acquire .sendBuf, .acquire .recvBuf] })

/-- The first handshake, on a socket of its own. -/
def connectFirst (e : CreateEnv) (s : Creating) : Int × Creating :=
  if s.connId ≠ 0 then (0, s)
  else if e.firstOpen.ret ≠ 0 then (e.firstOpen.ret, s)
  else
    let h := rpcHandshake { s.channel with socket := e.firstOpen.val } e.handshake s.connId
    (h.ret, { s with
      channel := { s.channel with socket := HAB_INVALID_HANDLE }
      connId := h.connId
      firstHandshake := h.ret = 0
      tried := h.tried
      events := s.events ++ [.acquire (.socket e.firstOpen.val), .release (.socket e.firstOpen.val)] })

/-- The sub-handshake, on the socket that the channel keeps. -/
def connectSecond (e : CreateEnv) (s : Creating) : Int × Creating :=
  if e.secondOpen.ret ≠ 0 then (e.secondOpen.ret, s)
  else
    let channel := { s.channel with socket := e.secondOpen.val }
    let ret := rpcSubHandshake channel e.subHandshake
    if ret ≠ 0 then
      (ret, { s with
        channel := { channel with socket := HAB_INVALID_HANDLE }
        events := s.events ++ [.acquire (.socket e.secondOpen.val), .release (.socket e.secondOpen.val)] })
    else (0, { s with channel := channel, events := s.events ++ [.acquire (.socket e.secondOpen.val)] })

/-- `hgsl_hyp_close_channel` -/
def hgslHypCloseChannel (c : NewChannel) : List (Custody.Event ChannelResource) :=
  (if c.socket ≠ HAB_INVALID_HANDLE then [.release (.socket c.socket)] else []) ++
    (if c.sendBuf then [.release .sendBuf] else []) ++
      (if c.recvBuf then [.release .recvBuf] else []) ++
        (if 0 ≤ c.id then [.release (.id c.id)] else []) ++ [.release .memory]

/-- There is memory for the channel. -/
def Creating.start (connId : Int) : Creating := { connId := connId, events := [.acquire .memory] }

/-- The id and the parcels. -/
def prepareChannel (e : CreateEnv) (connId : Int) : Int × Creating :=
  Creating.andThen (allocId e (.start connId)) (hgslRpcParcelInit e)

/-- The steps of `hgsl_rpc_create_channel`, as far as they come. -/
def createSteps (e : CreateEnv) (connId : Int) : Int × Creating :=
  Creating.andThen (Creating.andThen (prepareChannel e connId) (connectFirst e)) (connectSecond e)

/-- `hgsl_rpc_create_channel` -/
def hgslRpcCreateChannel (e : CreateEnv) (connId : Int) : Created :=
  if e.zalloc = false then { ret := -ENOMEM, channel := none, connId := connId, tried := [], events := [] }
  else
    let r := createSteps e connId
    if r.1 ≠ 0 then
      let events := r.2.events ++ hgslHypCloseChannel r.2.channel
      if r.2.firstHandshake then
        { ret := -EAGAIN, channel := none, connId := 0, tried := r.2.tried, events := events }
      else { ret := r.1, channel := none, connId := r.2.connId, tried := r.2.tried, events := events }
    else
      { ret := 0, channel := some r.2.channel, connId := r.2.connId, tried := r.2.tried, events := r.2.events }

/-! ## The connection of a pool -/

/-- The connection of a pool. -/
structure Connection where
  /-- `priv->conn_id` -/
  connId : Int := 0
  /-- history: the ids that replies with success have delivered -/
  delivered : List Int := []
  deriving DecidableEq, Repr

/-- The ids that the replies to the versions tried deliver. -/
def deliveredBy (e : CreateEnv) (tried : List Nat) : List Int :=
  tried.filterMap fun v => (e.handshake v).delivered

def Connection.step (s : Connection) (e : CreateEnv) : Connection :=
  let r := hgslRpcCreateChannel e s.connId
  { connId := r.connId, delivered := s.delivered ++ deliveredBy e r.tried }

/-- A pool after channels have been created, or have failed to be, from its initialisation on. -/
def Connection.run (es : List CreateEnv) : Connection :=
  es.foldl Connection.step {}

/-- What creating a channel is to do: it succeeds only with an id that a reply with success delivered, it falls
    back to version 1 when version 2 is answered with a failure, and only then, and a failure leaves nothing
    behind. -/
def CreatesConnected (s : Connection) (e : CreateEnv) : Prop :=
  let r := hgslRpcCreateChannel e s.connId
  (r.ret = 0 →
    if s.connId = 0 then r.connId ∈ deliveredBy e r.tried
    else r.connId = s.connId ∧ s.connId ∈ s.delivered) ∧
    (1 ∈ r.tried ↔ 2 ∈ r.tried ∧ (e.handshake 2).Rejected) ∧
      (r.ret ≠ 0 →
        r.channel = none ∧ Custody.run [] r.events = some [] ∧ (r.connId = s.connId ∨ r.connId = 0))

/-- The channel comes as far as the first handshake. -/
def ReachesHandshake (s : Connection) (e : CreateEnv) : Prop :=
  s.connId = 0 ∧ e.zalloc = true ∧ 0 ≤ e.idrAlloc ∧ e.sendData = true ∧ e.recvData = true ∧ e.firstOpen.ret = 0

/-- The backend rejects both versions, and takes the sub-handshake all the same. -/
def RejectedThenConnected (e : CreateEnv) : Prop :=
  RejectedAbove e.handshake 2 0 ∧ e.secondOpen.ret = 0 ∧ e.subHandshake.Succeeds

/-- The reply that accepts a version is cut off after a connection id. -/
def CutAfterId (e : CreateEnv) : Prop :=
  ∃ v, FirstAccepted e.handshake 2 v ∧ (e.handshake v).connId.ret = 0 ∧ (e.handshake v).connId.val ≠ 0 ∧
    ¬ ((e.handshake v).serverType.ret = 0 ∧ (e.handshake v).serverMode.ret = 0)

/-! ## What is held -/

/-- What a channel without a socket holds. -/
def NewChannel.held (c : NewChannel) : List ChannelResource :=
  (if c.recvBuf then [.recvBuf] else []) ++ (if c.sendBuf then [.sendBuf] else []) ++
    (if 0 ≤ c.id then [.id c.id] else []) ++ [.memory]

/-- Between two steps, the channel has no socket and holds what was acquired and not released. -/
structure Creating.Holds (s : Creating) : Prop where
  socket : s.channel.socket = HAB_INVALID_HANDLE
  run : Custody.run [] s.events = some s.channel.held

section Held

variable {e : CreateEnv} {s : Creating} {connId : Int} {c : NewChannel}

theorem Creating.andThen_preserves {P : Creating → Prop} {r : Int × Creating} {f : Creating → Int × Creating}
    (h : P r.2) (hf : P r.2 → P (f r.2).2) : P (Creating.andThen r f).2 := by
  by_cases hret : r.1 = 0
  · simpa [Creating.andThen, hret] using hf h
  · simpa [Creating.andThen, hret] using h

theorem Creating.Holds.append {es : List (Custody.Event ChannelResource)} (h : s.Holds)
    (hsocket : c.socket = HAB_INVALID_HANDLE) (hrun : Custody.run s.channel.held es = some c.held) :
    Creating.Holds { s with channel := c, events := s.events ++ es } :=
  ⟨hsocket, by simp [Custody.run_append, h.run, hrun]⟩

theorem allocId_holds : (allocId e (.start connId)).2.Holds := by
  by_cases hid : e.idrAlloc < 0
  · simp only [allocId, if_pos hid]
    exact ⟨rfl, by simp [Creating.start, NewChannel.held, hid]⟩
  · simp only [allocId, if_neg hid]
    exact ⟨rfl, by simp [Creating.start, NewChannel.held, not_lt.1 hid]⟩

theorem hgslRpcParcelInit_holds (h : s.Holds) (hsend : s.channel.sendBuf = false) (hrecv : s.channel.recvBuf = false) :
    (hgslRpcParcelInit e s).2.Holds := by
  unfold hgslRpcParcelInit
  split_ifs
  · exact h
  · exact h.append h.socket (by simp [NewChannel.held, hsend, hrecv])
  · exact h.append h.socket (by simp [NewChannel.held, hsend, hrecv])

/-- A socket that is opened and closed leaves nothing behind. -/
theorem run_socket (held : List ChannelResource) (i : Int) :
    Custody.run held [.acquire (.socket i), .release (.socket i)] = some held := by
  simp

theorem connectFirst_holds (h : s.Holds) : (connectFirst e s).2.Holds := by
  unfold connectFirst
  split_ifs
  · exact h
  · exact h
  · refine ⟨rfl, ?_⟩
    rw [Custody.run_append, h.run]
    exact run_socket _ _

theorem connectSecond_holds (h : s.Holds) (hret : (connectSecond e s).1 ≠ 0) : (connectSecond e s).2.Holds := by
  revert hret
  simp only [connectSecond]
  split_ifs with hopen hsub
  · intro _
    exact h
  · intro _
    refine ⟨rfl, ?_⟩
    rw [Custody.run_append, h.run]
    exact run_socket _ _
  · simp

theorem allocId_fresh : (allocId e (.start connId)).2.channel.sendBuf = false ∧
    (allocId e (.start connId)).2.channel.recvBuf = false := by
  unfold allocId
  split_ifs <;> simp [Creating.start]

theorem prepareChannel_holds : (prepareChannel e connId).2.Holds := by
  refine Creating.andThen_preserves allocId_holds fun h => ?_
  exact hgslRpcParcelInit_holds h allocId_fresh.1 allocId_fresh.2

/-- Where the steps stop, what was acquired is held by the channel. -/
theorem createSteps_holds (hret : (createSteps e connId).1 ≠ 0) : (createSteps e connId).2.Holds := by
  have hfirst : (Creating.andThen (prepareChannel e connId) (connectFirst e)).2.Holds :=
    Creating.andThen_preserves prepareChannel_holds connectFirst_holds
  simp only [createSteps] at hret ⊢
  generalize Creating.andThen (prepareChannel e connId) (connectFirst e) = r at hfirst hret ⊢
  by_cases hzero : r.1 = 0
  · simp only [Creating.andThen, hzero] at hret ⊢
    exact connectSecond_holds hfirst (by simpa using hret)
  · simpa [Creating.andThen, hzero] using hfirst

theorem run_hgslHypCloseChannel (hsocket : c.socket = HAB_INVALID_HANDLE) :
    Custody.run c.held (hgslHypCloseChannel c) = some [] := by
  obtain ⟨socket, id, sendBuf, recvBuf⟩ := c
  dsimp only at hsocket
  by_cases hid : 0 ≤ id <;> cases sendBuf <;> cases recvBuf <;>
    simp [hgslHypCloseChannel, NewChannel.held, hsocket, hid]

/-- A channel that is not created leaves nothing behind. -/
theorem create_leaves_nothing (hret : (hgslRpcCreateChannel e connId).ret ≠ 0) :
    (hgslRpcCreateChannel e connId).channel = none ∧
      Custody.run [] (hgslRpcCreateChannel e connId).events = some [] := by
  by_cases hzalloc : e.zalloc = false
  · simp [hgslRpcCreateChannel, hzalloc]
  · by_cases hsteps : (createSteps e connId).1 = 0
    · simp [hgslRpcCreateChannel, hzalloc, hsteps] at hret
    · obtain ⟨hsocket, hrun⟩ := createSteps_holds hsteps
      have hclosed : Custody.run [] ((createSteps e connId).2.events ++
          hgslHypCloseChannel (createSteps e connId).2.channel) = some [] := by
        simp [Custody.run_append, hrun, run_hgslHypCloseChannel hsocket]
      cases hfirst : (createSteps e connId).2.firstHandshake <;>
        simp [hgslRpcCreateChannel, hzalloc, hsteps, hfirst, hclosed]

end Held

/-! ## What creating a channel comes to -/

section Outcome

variable {e : CreateEnv} {s : Creating} {connId : Int} {p : Connection}

/-- What creating a channel comes to, by what becomes of the first handshake. -/
inductive CreateOutcome (e : CreateEnv) (p : Connection) (r : Created) : Prop where
  | stopped : ¬ ReachesHandshake p e → r.tried = [] → r.ret ≠ 0 → r.connId = p.connId → CreateOutcome e p r
  | connected : p.connId ≠ 0 → r.tried = [] → r.connId = p.connId → CreateOutcome e p r
  | failed (h : Handshake) : ReachesHandshake p e → HandshakeOutcome e.handshake p.connId h →
      TriedInOrder e.handshake r.tried → h.ret ≠ 0 → r.ret ≠ 0 → r.connId = h.connId → CreateOutcome e p r
  | shaken (h : Handshake) : ReachesHandshake p e → HandshakeOutcome e.handshake p.connId h →
      TriedInOrder e.handshake r.tried → h.ret = 0 → e.secondOpen.ret = 0 ∧ e.subHandshake.Succeeds →
      r.ret = 0 → r.connId = h.connId → CreateOutcome e p r
  | reset (h : Handshake) : ReachesHandshake p e → HandshakeOutcome e.handshake p.connId h →
      TriedInOrder e.handshake r.tried → h.ret = 0 → ¬ (e.secondOpen.ret = 0 ∧ e.subHandshake.Succeeds) →
      r.ret ≠ 0 → r.connId = 0 → CreateOutcome e p r

theorem connectSecond_ret (hreset : hgslRpcParcelReset s.channel = 0) :
    (connectSecond e s).1 = 0 ↔ e.secondOpen.ret = 0 ∧ e.subHandshake.Succeeds := by
  have hsub := rpcSubHandshake_eq_zero (c := { s.channel with socket := e.secondOpen.val }) (t := e.subHandshake)
    (by simpa using hreset)
  rw [← hsub]
  by_cases hopen : e.secondOpen.ret = 0
  · by_cases hzero : rpcSubHandshake { s.channel with socket := e.secondOpen.val } e.subHandshake = 0 <;>
      simp [connectSecond, hopen, hzero]
  · simp [connectSecond, hopen]

@[simp] theorem connectSecond_frame : (connectSecond e s).2.connId = s.connId ∧
    (connectSecond e s).2.firstHandshake = s.firstHandshake ∧ (connectSecond e s).2.tried = s.tried := by
  simp only [connectSecond]
  split_ifs <;> simp

/-- A channel is ready for its handshakes. -/
def CreateEnv.Prepares (e : CreateEnv) : Prop := 0 ≤ e.idrAlloc ∧ e.sendData = true ∧ e.recvData = true

theorem prepareChannel_ret : (prepareChannel e connId).1 = 0 ↔ e.Prepares := by
  by_cases hid : e.idrAlloc < 0
  · simp [prepareChannel, Creating.andThen, allocId, CreateEnv.Prepares, hid, hid.ne]
  · cases hsend : e.sendData <;> cases hrecv : e.recvData <;>
      simp [prepareChannel, Creating.andThen, allocId, hgslRpcParcelInit, CreateEnv.Prepares, hid, hsend, hrecv,
        ENOMEM, not_lt.1 hid]

@[simp] theorem prepareChannel_frame (e : CreateEnv) (connId : Int) : (prepareChannel e connId).2.connId = connId ∧
    (prepareChannel e connId).2.firstHandshake = false ∧ (prepareChannel e connId).2.tried = [] := by
  simp only [prepareChannel, Creating.andThen, allocId, hgslRpcParcelInit]
  split_ifs <;> simp [Creating.start]

theorem prepareChannel_reset (connId : Int) (h : e.Prepares) :
    hgslRpcParcelReset (prepareChannel e connId).2.channel = 0 := by
  obtain ⟨hid, hsend, hrecv⟩ := h
  simp [prepareChannel, Creating.andThen, allocId, hgslRpcParcelInit, not_lt.2 hid, hsend, hrecv]

theorem createSteps_of_prepares (connId : Int) (h : e.Prepares) : createSteps e connId =
    Creating.andThen (connectFirst e (prepareChannel e connId).2) (connectSecond e) := by
  have hret : (prepareChannel e connId).1 = 0 := prepareChannel_ret.2 h
  simp [createSteps, Creating.andThen, hret]

theorem createSteps_of_not_prepares (connId : Int) (h : ¬ e.Prepares) :
    createSteps e connId = prepareChannel e connId := by
  have hret : (prepareChannel e connId).1 ≠ 0 := fun hzero => h (prepareChannel_ret.1 hzero)
  simp [createSteps, Creating.andThen, hret]

@[simp] theorem create_tried (hzalloc : e.zalloc = true) :
    (hgslRpcCreateChannel e connId).tried = (createSteps e connId).2.tried := by
  simp only [hgslRpcCreateChannel, hzalloc]
  split_ifs <;> simp_all

theorem create_of_done (connId : Int) (hzalloc : e.zalloc = true) (hret : (createSteps e connId).1 = 0) :
    (hgslRpcCreateChannel e connId).ret = 0 ∧
      (hgslRpcCreateChannel e connId).connId = (createSteps e connId).2.connId := by
  simp [hgslRpcCreateChannel, hzalloc, hret]

theorem create_of_failed (connId : Int) (hzalloc : e.zalloc = true) (hret : (createSteps e connId).1 ≠ 0) :
    (hgslRpcCreateChannel e connId).ret ≠ 0 ∧ (hgslRpcCreateChannel e connId).connId =
      if (createSteps e connId).2.firstHandshake then 0 else (createSteps e connId).2.connId := by
  cases hfirst : (createSteps e connId).2.firstHandshake <;>
    simp [hgslRpcCreateChannel, hzalloc, hret, hfirst, EAGAIN]

/-- After the first handshake, if there was one. -/
theorem connectFirst_of_conn (hconn : s.connId ≠ 0) : connectFirst e s = (0, s) := by
  simp [connectFirst, hconn]

theorem connectFirst_of_no_socket (hconn : s.connId = 0) (hopen : e.firstOpen.ret ≠ 0) :
    connectFirst e s = (e.firstOpen.ret, s) := by
  simp [connectFirst, hconn, hopen]

theorem connectFirst_of_socket (hconn : s.connId = 0) (hopen : e.firstOpen.ret = 0)
    (hreset : hgslRpcParcelReset s.channel = 0) :
    ∃ h, HandshakeOutcome e.handshake s.connId h ∧ (connectFirst e s).1 = h.ret ∧
      (connectFirst e s).2.connId = h.connId ∧ ((connectFirst e s).2.firstHandshake = decide (h.ret = 0)) ∧
        TriedInOrder e.handshake (connectFirst e s).2.tried ∧
          hgslRpcParcelReset (connectFirst e s).2.channel = 0 := by
  have hreset' : hgslRpcParcelReset { s.channel with socket := e.firstOpen.val } = 0 := by simpa using hreset
  refine ⟨rpcHandshake { s.channel with socket := e.firstOpen.val } e.handshake s.connId,
    rpcHandshake_outcome hreset', ?_⟩
  have htried : TriedInOrder e.handshake (rpcHandshake _ e.handshake s.connId).tried := rpcHandshake_tried hreset'
  rw [hgslRpcParcelReset_eq_zero] at hreset
  simpa [connectFirst, hconn, hopen, hreset] using htried

theorem hgslRpcCreateChannel_outcome (e : CreateEnv) (p : Connection) :
    CreateOutcome e p (hgslRpcCreateChannel e p.connId) := by
  by_cases hzalloc : e.zalloc = true
  swap
  · rw [Bool.not_eq_true] at hzalloc
    refine .stopped ?_ ?_ ?_ ?_ <;> simp [ReachesHandshake, hgslRpcCreateChannel, hzalloc, ENOMEM]
  by_cases hprep : e.Prepares
  swap
  · have hsteps := createSteps_of_not_prepares p.connId hprep
    have hret : (createSteps e p.connId).1 ≠ 0 := by
      rw [hsteps]
      exact fun hzero => hprep (prepareChannel_ret.1 hzero)
    have hfailed := create_of_failed p.connId hzalloc hret
    refine .stopped ?_ ?_ hfailed.1 ?_
    · rintro ⟨-, -, hid, hsend, hrecv, -⟩
      exact hprep ⟨hid, hsend, hrecv⟩
    · simp [create_tried hzalloc, hsteps]
    · simp [hfailed.2, hsteps]
  have hsteps := createSteps_of_prepares p.connId hprep
  have hreset := prepareChannel_reset p.connId hprep
  have hframe := prepareChannel_frame e p.connId
  generalize (prepareChannel e p.connId).2 = s at hsteps hreset hframe
  obtain ⟨hconn, hfirst, htried⟩ := hframe
  by_cases hzero : p.connId = 0
  swap
  · -- the pool has an id: there is no first handshake
    have hsecond : createSteps e p.connId = connectSecond e s := by
      simp [hsteps, Creating.andThen, connectFirst_of_conn (e := e) (s := s) (by rwa [hconn])]
    refine .connected hzero ?_ ?_
    · simp [create_tried hzalloc, hsecond, htried]
    · by_cases hret : (createSteps e p.connId).1 = 0
      · simp [(create_of_done p.connId hzalloc hret).2, hsecond, hconn]
      · simp [(create_of_failed p.connId hzalloc hret).2, hsecond, hconn, hfirst]
  by_cases hopen : e.firstOpen.ret = 0
  swap
  · have hsocket : createSteps e p.connId = (e.firstOpen.ret, s) := by
      simp [hsteps, Creating.andThen, connectFirst_of_no_socket (e := e) (s := s) (by rwa [hconn]) hopen, hopen]
    have hfailed := create_of_failed p.connId hzalloc (by simpa [hsocket] using hopen)
    refine .stopped ?_ ?_ hfailed.1 ?_
    · rintro ⟨-, -, -, -, -, hzero⟩
      exact hopen hzero
    · simp [create_tried hzalloc, hsocket, htried]
    · simp [hfailed.2, hsocket, hfirst, hconn]
  have hreach : ReachesHandshake p e := ⟨hzero, hzalloc, hprep.1, hprep.2.1, hprep.2.2, hopen⟩
  obtain ⟨h, houtcome, hret, hid, hdone, hver, hreset'⟩ := connectFirst_of_socket (by rwa [hconn]) hopen hreset
  rw [hconn] at houtcome
  by_cases hshaken : h.ret = 0
  swap
  · have hstopped : createSteps e p.connId = connectFirst e s := by
      simp [hsteps, Creating.andThen, hret, hshaken]
    have hfailed := create_of_failed p.connId hzalloc (by simpa [hstopped, hret] using hshaken)
    refine .failed h hreach houtcome ?_ hshaken hfailed.1 ?_
    · rwa [create_tried hzalloc, hstopped]
    · simp [hfailed.2, hstopped, hdone, hshaken, hid]
  have hsecond : createSteps e p.connId = connectSecond e (connectFirst e s).2 := by
    simp [hsteps, Creating.andThen, hret, hshaken]
  have htried' : TriedInOrder e.handshake (hgslRpcCreateChannel e p.connId).tried := by
    rw [create_tried hzalloc, hsecond, connectSecond_frame.2.2]
    exact hver
  by_cases hsub : e.secondOpen.ret = 0 ∧ e.subHandshake.Succeeds
  · have hcreated := create_of_done p.connId hzalloc
      (by rw [hsecond]; exact (connectSecond_ret hreset').2 hsub)
    refine .shaken h hreach houtcome htried' hshaken hsub hcreated.1 ?_
    simp [hcreated.2, hsecond, hid]
  · have hfailed := create_of_failed p.connId hzalloc
      (by rw [hsecond]; exact fun hzero => hsub ((connectSecond_ret hreset').1 hzero))
    refine .reset h hreach houtcome htried' hshaken hsub hfailed.1 ?_
    simp [hfailed.2, hsecond, hdone, hshaken]

end Outcome

/-! ## Ids that were delivered -/

section Delivered

variable {e : CreateEnv} {tried : List Nat} {p : Connection} {v : Nat} {i : Int}

theorem mem_deliveredBy : i ∈ deliveredBy e tried ↔ ∃ v ∈ tried, (e.handshake v).delivered = some i := by
  simp [deliveredBy]

theorem delivered_eq_some : (e.handshake v).delivered = some i ↔
    (e.handshake v).status = some GSL_SUCCESS ∧ (e.handshake v).connId.ret = 0 ∧ (e.handshake v).connId.val = i := by
  simp [HandshakeReply.delivered, and_assoc]

/-- The version that is accepted delivers its id. -/
theorem FirstAccepted.mem_deliveredBy (h : FirstAccepted e.handshake 2 v) (hid : (e.handshake v).connId.ret = 0)
    (htried : TriedInOrder e.handshake tried) : (e.handshake v).connId.val ∈ deliveredBy e tried := by
  obtain ⟨hpos, hle, habove, hst⟩ := h
  exact Hgsl.mem_deliveredBy.2 ⟨v, (htried v).2 ⟨hpos, hle, habove⟩, delivered_eq_some.2 ⟨hst, hid, rfl⟩⟩

/-- Versions that are rejected deliver nothing. -/
theorem not_mem_deliveredBy (h : RejectedAbove e.handshake 2 0) (htried : TriedInOrder e.handshake tried) :
    i ∉ deliveredBy e tried := by
  intro hmem
  obtain ⟨w, hw, hdelivered⟩ := mem_deliveredBy.1 hmem
  obtain ⟨hpos, hle, -⟩ := (htried w).1 hw
  exact (h w (by omega) hle).status_ne.2 (delivered_eq_some.1 hdelivered).1

theorem HandshakeOutcome.connId_cases {h : Handshake} (ho : HandshakeOutcome e.handshake p.connId h)
    (htried : TriedInOrder e.handshake tried) : h.connId = p.connId ∨ h.connId ∈ deliveredBy e tried := by
  cases ho with
  | failed hret hid hnone haccepted => exact .inl hid
  | rejected hret hid habove => exact .inl hid
  | delivered w hfirst hread hid hret =>
      rw [hid]
      exact .inr (hfirst.mem_deliveredBy hread htried)

/-- The id of the pool is 0 or one that was delivered. -/
def Connection.Known (p : Connection) : Prop := p.connId = 0 ∨ p.connId ∈ p.delivered

theorem Connection.Known.step (h : p.Known) (e : CreateEnv) : (p.step e).Known := by
  have hkept : ∀ i, i = p.connId ∨ i ∈ deliveredBy e (hgslRpcCreateChannel e p.connId).tried →
      i = 0 ∨ i ∈ (p.step e).delivered := by
    rintro i (rfl | hi)
    · obtain hzero | hmem := h
      · exact .inl hzero
      · exact .inr (List.mem_append_left _ hmem)
    · exact .inr (List.mem_append_right _ hi)
  have hout := hgslRpcCreateChannel_outcome e p
  cases hout with
  | stopped hreach htried hret hid => exact hkept _ (.inl hid)
  | connected hconn htried hid => exact hkept _ (.inl hid)
  | failed h hreach ho htried hshaken hret hid =>
      have hmem := ho.connId_cases htried
      rw [← hid] at hmem
      exact hkept _ hmem
  | shaken h hreach ho htried hshaken hsub hret hid =>
      have hmem := ho.connId_cases htried
      rw [← hid] at hmem
      exact hkept _ hmem
  | reset h hreach ho htried hshaken hsub hret hid => exact .inl hid

theorem Connection.run_known (es : List CreateEnv) : (Connection.run es).Known :=
  List.foldlRecOn es Connection.step (.inl rfl) fun _ h e _ => h.step e

end Delivered

/-! ## Creating a connected channel -/

section Connected

variable {e : CreateEnv} {p : Connection}

/-- The version that is tried after version 2. -/
theorem TriedInOrder.fallback {tried : List Nat} (h : TriedInOrder e.handshake tried) :
    1 ∈ tried ↔ 2 ∈ tried ∧ (e.handshake 2).Rejected := by
  have htop : 2 ∈ tried := (h 2).2 ⟨by omega, le_rfl, rejectedAbove_self⟩
  simp [h 1, htop, rejectedAbove_succ, rejectedAbove_self]

/-- A call that fails leaves nothing behind, whatever becomes of the id. -/
theorem createsConnected_of_failed (hret : (hgslRpcCreateChannel e p.connId).ret ≠ 0)
    (hfallback : 1 ∈ (hgslRpcCreateChannel e p.connId).tried ↔
      2 ∈ (hgslRpcCreateChannel e p.connId).tried ∧ (e.handshake 2).Rejected) :
    CreatesConnected p e ↔
      (hgslRpcCreateChannel e p.connId).connId = p.connId ∨ (hgslRpcCreateChannel e p.connId).connId = 0 := by
  have hnothing := create_leaves_nothing hret
  simp [CreatesConnected, hret, hnothing, hfallback]

/-- A call that succeeds is right when its id was delivered. -/
theorem createsConnected_of_created (hret : (hgslRpcCreateChannel e p.connId).ret = 0)
    (hfallback : 1 ∈ (hgslRpcCreateChannel e p.connId).tried ↔
      2 ∈ (hgslRpcCreateChannel e p.connId).tried ∧ (e.handshake 2).Rejected) :
    CreatesConnected p e ↔
      if p.connId = 0 then
        (hgslRpcCreateChannel e p.connId).connId ∈ deliveredBy e (hgslRpcCreateChannel e p.connId).tried
      else (hgslRpcCreateChannel e p.connId).connId = p.connId ∧ p.connId ∈ p.delivered := by
  simp [CreatesConnected, hret, hfallback]

theorem createsConnected_iff_of_known (h : p.Known) :
    CreatesConnected p e ↔ ¬ (ReachesHandshake p e ∧ (RejectedThenConnected e ∨ CutAfterId e)) := by
  have hout := hgslRpcCreateChannel_outcome e p
  cases hout with
  | stopped hreach htried hret hid =>
      rw [createsConnected_of_failed hret (by simp [htried])]
      simp [hid, hreach]
  | connected hconn htried hid =>
      have hreach : ¬ ReachesHandshake p e := by
        rintro ⟨hzero, -⟩
        exact hconn hzero
      have hmem : p.connId ∈ p.delivered := h.resolve_left hconn
      have hclean : CreatesConnected p e := by
        by_cases hret : (hgslRpcCreateChannel e p.connId).ret = 0
        · rw [createsConnected_of_created hret (by simp [htried])]
          simp [hconn, hid, hmem]
        · rw [createsConnected_of_failed hret (by simp [htried])]
          exact .inl hid
      simp [hclean, hreach]
  | reset h hreach ho htried hshaken hsub hret hid =>
      rw [createsConnected_of_failed hret htried.fallback]
      have hnot : ¬ (RejectedThenConnected e ∨ CutAfterId e) := by
        rintro (⟨-, hsub'⟩ | ⟨v, hfirst, hread, -, hcut⟩)
        · exact hsub hsub'
        · cases ho with
          | failed hfail => exact hfail hshaken
          | rejected hdone hsame habove => exact hfirst.not_rejectedAbove habove
          | delivered w hfirst' hread' hid' hret' =>
              rw [firstAccepted_unique hfirst hfirst'] at hcut
              exact hcut (hret'.1 hshaken)
      simp [hid, hnot]
  | shaken h hreach ho htried hshaken hsub hret hid =>
      have hzero := hreach.1
      rw [createsConnected_of_created hret htried.fallback, if_pos hzero, hid]
      cases ho with
      | failed hfail => exact absurd hshaken hfail
      | rejected hdone hsame habove =>
          have hbad : RejectedThenConnected e := ⟨habove, hsub⟩
          simp [not_mem_deliveredBy habove htried, hreach, hbad]
      | delivered w hfirst hread hid' hret' =>
          have hnot : ¬ (RejectedThenConnected e ∨ CutAfterId e) := by
            rintro (⟨habove, -⟩ | ⟨v, hfirst', -, -, hcut⟩)
            · exact hfirst.not_rejectedAbove habove
            · rw [firstAccepted_unique hfirst' hfirst] at hcut
              exact hcut (hret'.1 hshaken)
          simp [hid', hfirst.mem_deliveredBy hread htried, hnot]
  | failed h hreach ho htried hshaken hret hid =>
      have hzero := hreach.1
      rw [createsConnected_of_failed hret htried.fallback, hid, hzero, or_self]
      cases ho with
      | rejected hdone => exact absurd hdone hshaken
      | failed hfail hsame habove haccepted =>
          have hnot : ¬ (RejectedThenConnected e ∨ CutAfterId e) := by
            rintro (⟨habove', -⟩ | ⟨v, hfirst, hread, -⟩)
            · exact habove habove'
            · exact haccepted v hfirst hread
          simp [hsame, hzero, hnot]
      | delivered w hfirst hread hid' hret' =>
          have hcut : (RejectedThenConnected e ∨ CutAfterId e) ↔ (e.handshake w).connId.val ≠ 0 := by
            constructor
            · rintro (⟨habove, -⟩ | ⟨v, hfirst', -, hne, -⟩)
              · exact absurd habove hfirst.not_rejectedAbove
              · rwa [firstAccepted_unique hfirst hfirst']
            · intro hne
              exact .inr ⟨w, hfirst, hread, hne, fun hok => hshaken (hret'.2 hok)⟩
          simp [hid', hreach, hcut]

/-- **Creating a connected channel.** After any calls before it, whether they succeeded or not, a call does what it
    is to do unless the backend rejects both versions and then takes the sub-handshake, or cuts off the reply that
    accepts a version after its id. -/
theorem createsConnected_iff (es : List CreateEnv) (e : CreateEnv) :
    CreatesConnected (Connection.run es) e ↔
      ¬ (ReachesHandshake (Connection.run es) e ∧ (RejectedThenConnected e ∨ CutAfterId e)) :=
  createsConnected_iff_of_known (Connection.run_known es)

/-- A backend that answers each request with the status `st`. -/
def answering (st : Int) : CreateEnv where
  zalloc := true
  sendData := true
  recvData := true
  idrAlloc := 1
  firstOpen := ⟨0, 7⟩
  secondOpen := ⟨0, 8⟩
  handshake := fun _ => ⟨0, 0, ⟨0, st⟩, ⟨0, 5⟩, ⟨0, 1⟩, ⟨0, 1⟩⟩
  subHandshake := ⟨0, 0, ⟨0, GSL_SUCCESS⟩, ⟨0, 0⟩⟩

/-- Both versions are rejected, and the channel is created, without an id. -/
theorem rejected_and_created :
    (hgslRpcCreateChannel (answering GSL_FAILURE) 0).ret = 0 ∧
      ((hgslRpcCreateChannel (answering GSL_FAILURE) 0).connId = 0 ∧
        (hgslRpcCreateChannel (answering GSL_FAILURE) 0).tried = [2, 1]) ∧
        ¬ CreatesConnected (Connection.run []) (answering GSL_FAILURE) := by
  refine ⟨by decide, by decide, ?_⟩
  intro h
  exact absurd (h.1 (by decide)) (by decide)

end Connected

end Hgsl
