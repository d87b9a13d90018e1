import Hgsl.Context.Shadow
import Hgsl.Lib.Custody

set_option autoImplicit false

/-! # The handshakes of a new channel

`rpc_handshake` asks the backend for a connection id, with version 2 of the request and then, if the backend
answers that one with a failure, with version 1. `rpc_sub_handshake` comes after it on a socket of that
connection. What the transport and the backend do with each request is an argument.

Left out: the parameters that a request carries, and what `gsl_rpc_write` does to a buffer that is too small,
which replaces it by a larger one. -/

namespace Hgsl

def GSL_FAILURE : Int := -1

/-- `HAB_INVALID_HANDLE` -/
def HAB_INVALID_HANDLE : Int := -1

/-- What creating a channel acquires. -/
inductive ChannelResource where
  | memory
  | id (i : Int)
  | sendBuf
  | recvBuf
  | socket (s : Int)
  deriving DecidableEq, Repr

/-- `struct hgsl_hab_channel_t` while it is created: whether the parcels have their buffers, the socket and the
    id. -/
structure NewChannel where
  socket : Int := HAB_INVALID_HANDLE
  id : Int := 0
  sendBuf : Bool := false
  recvBuf : Bool := false
  deriving DecidableEq, Repr

/-- `hgsl_rpc_parcel_reset` -/
def hgslRpcParcelReset (c : NewChannel) : Int :=
  if c.sendBuf = false then -EINVAL
  else if c.recvBuf = false then -EINVAL
  else 0

/-- What happens to the handshake request of one version. -/
structure HandshakeReply where
  /-- what `gsl_rpc_write` and `gsl_rpc_transact_ext` return -/
  write : Int
  transact : Int
  rval : ReplyRead Int
  connId : ReplyRead Int
  serverType : ReplyRead Int
  serverMode : ReplyRead Int
  deriving DecidableEq, Repr

/-- What happens to the sub-handshake. -/
structure SubHandshakeReply where
  write : Int
  transact : Int
  rval : ReplyRead Int
  serverAllowDirectWrites : ReplyRead Int
  deriving DecidableEq, Repr

/-! ## The first handshake -/

/-- How one round of the loop in `rpc_handshake` leaves `ret` and `rval`. -/
def handshakeRound (c : NewChannel) (t : HandshakeReply) (rval : Int) : Int × Int :=
  if hgslRpcParcelReset c ≠ 0 then (hgslRpcParcelReset c, rval)
  else if t.write ≠ 0 then (t.write, rval)
  else if t.transact ≠ 0 then (t.transact, rval)
  else if t.rval.ret ≠ 0 then (t.rval.ret, rval)
  else (0, t.rval.val)

/-- `ret` and `rval` after the loop, the version of the last round, and the versions that were tried. -/
structure HandshakeLoop where
  ret : Int
  rval : Int
  version : Nat
  tried : List Nat
  deriving DecidableEq, Repr

/-- The loop of `rpc_handshake` from version `v` down to 1. -/
def handshakeLoop (c : NewChannel) (replies : Nat → HandshakeReply) (rval : Int) : Nat → HandshakeLoop
  | 0 => { ret := 0, rval := rval, version := 0, tried := [] }
  | v + 1 =>
    let round := handshakeRound c (replies (v + 1)) rval
    if round.1 ≠ 0 then { ret := round.1, rval := round.2, version := v + 1, tried := [v + 1] }
    else if round.2 ≠ GSL_SUCCESS then
      let rest := handshakeLoop c replies round.2 v
      { rest with tried := (v + 1) :: rest.tried }
    else { ret := 0, rval := round.2, version := v + 1, tried := [v + 1] }

/-- What a handshake comes to: what it returns, `priv->conn_id`, and the versions that were tried. -/
structure Handshake where
  ret : Int
  connId : Int
  tried : List Nat
  deriving DecidableEq, Repr

/-- `rpc_handshake` -/
def rpcHandshake (c : NewChannel) (replies : Nat → HandshakeReply) (connId : Int) : Handshake :=
  let l := handshakeLoop c replies GSL_FAILURE 2
  if l.ret = 0 ∧ l.rval = GSL_SUCCESS then
    let t := replies l.version
    if t.connId.ret ≠ 0 then { ret := t.connId.ret, connId := connId, tried := l.tried }
    else if t.serverType.ret ≠ 0 then { ret := t.serverType.ret, connId := t.connId.val, tried := l.tried }
    else if t.serverMode.ret ≠ 0 then { ret := t.serverMode.ret, connId := t.connId.val, tried := l.tried }
    else { ret := 0, connId := t.connId.val, tried := l.tried }
  else { ret := l.ret, connId := connId, tried := l.tried }

/-! ## The sub-handshake -/

/-- `rpc_sub_handshake` -/
def rpcSubHandshake (c : NewChannel) (t : SubHandshakeReply) : Int :=
  if hgslRpcParcelReset c ≠ 0 then hgslRpcParcelReset c
  else if t.write ≠ 0 then t.write
  else if t.transact ≠ 0 then t.transact
  else
    let ret := if t.rval.ret = 0 ∧ t.rval.val ≠ GSL_SUCCESS then -EINVAL else t.rval.ret
    if ret = 0 then t.serverAllowDirectWrites.ret else ret

/-! ## What the replies say -/

/-- The backend has answered with this status. -/
def HandshakeReply.status (t : HandshakeReply) : Option Int :=
  if t.write = 0 ∧ t.transact = 0 ∧ t.rval.ret = 0 then some t.rval.val else none

/-- The backend has answered with a failure. -/
def HandshakeReply.Rejected (t : HandshakeReply) : Prop := ∃ st ∈ t.status, st ≠ GSL_SUCCESS

/-- The connection id that a reply with success delivers. -/
def HandshakeReply.delivered (t : HandshakeReply) : Option Int :=
  if t.status = some GSL_SUCCESS ∧ t.connId.ret = 0 then some t.connId.val else none

/-- The backend and the transport carry out the sub-handshake. -/
def SubHandshakeReply.Succeeds (t : SubHandshakeReply) : Prop :=
  t.write = 0 ∧ t.transact = 0 ∧ t.rval = ⟨0, GSL_SUCCESS⟩ ∧ t.serverAllowDirectWrites.ret = 0

/-- Each version above `w` is rejected, down from `v`. -/
def RejectedAbove (replies : Nat → HandshakeReply) (v w : Nat) : Prop :=
  ∀ j, w < j → j ≤ v → (replies j).Rejected

/-- A version is tried exactly when each one before it was answered with a failure. -/
def TriedInOrder (replies : Nat → HandshakeReply) (tried : List Nat) : Prop :=
  ∀ w, w ∈ tried ↔ 1 ≤ w ∧ w ≤ 2 ∧ RejectedAbove replies 2 w

/-- `w` is the version that the backend accepts, from `v` down. -/
def FirstAccepted (replies : Nat → HandshakeReply) (v w : Nat) : Prop :=
  1 ≤ w ∧ w ≤ v ∧ RejectedAbove replies v w ∧ (replies w).status = some GSL_SUCCESS

section Spec

variable {c : NewChannel} {replies : Nat → HandshakeReply} {t : HandshakeReply} {connId rval : Int} {v w : Nat}

@[simp] theorem hgslRpcParcelReset_eq_zero : hgslRpcParcelReset c = 0 ↔ c.sendBuf = true ∧ c.recvBuf = true := by
  cases hsend : c.sendBuf <;> cases hrecv : c.recvBuf <;> simp [hgslRpcParcelReset, hsend, hrecv, EINVAL]

/-- A round goes through when the backend has answered. -/
theorem handshakeRound_of_status (hreset : hgslRpcParcelReset c = 0) {st : Int} (hst : t.status = some st) :
    handshakeRound c t rval = (0, st) := by
  simp only [HandshakeReply.status, Option.ite_none_right_eq_some, Option.some.injEq] at hst
  obtain ⟨⟨hwrite, htransact, hread⟩, rfl⟩ := hst
  simp [handshakeRound, hreset, hwrite, htransact, hread]

/-- A round fails when it has not. -/
theorem handshakeRound_of_no_status (hst : t.status = none) : (handshakeRound c t rval).1 ≠ 0 := by
  simp only [HandshakeReply.status, ite_eq_right_iff, reduceCtorEq, imp_false, not_and] at hst
  unfold handshakeRound
  split_ifs with hreset hwrite htransact hread <;> simp_all

theorem HandshakeReply.status_cases (t : HandshakeReply) :
    t.status = none ∨ t.status = some GSL_SUCCESS ∨ t.Rejected := by
  cases hst : t.status with
  | none => simp
  | some st =>
      by_cases hsucc : st = GSL_SUCCESS
      · simp [hsucc]
      · exact .inr (.inr ⟨st, by simp [hst], hsucc⟩)

theorem HandshakeReply.Rejected.status_ne (h : t.Rejected) : t.status ≠ none ∧ t.status ≠ some GSL_SUCCESS := by
  obtain ⟨st, hst, hne⟩ := h
  simp only [Option.mem_def] at hst
  simp [hst, hne]

@[simp] theorem rejectedAbove_self : RejectedAbove replies v v := by
  intro j hlt hle
  omega

theorem rejectedAbove_succ (hw : w ≤ v) :
    RejectedAbove replies (v + 1) w ↔ (replies (v + 1)).Rejected ∧ RejectedAbove replies v w := by
  constructor
  · intro h
    exact ⟨h (v + 1) (by omega) le_rfl, fun j hlt hle => h j hlt (by omega)⟩
  · rintro ⟨htop, h⟩ j hlt hle
    by_cases hj : j = v + 1
    · rwa [hj]
    · exact h j hlt (by omega)

/-! ### The loop -/

theorem handshakeLoop_of_no_status (hst : (replies (v + 1)).status = none) :
    (handshakeLoop c replies rval (v + 1)).ret ≠ 0 ∧ (handshakeLoop c replies rval (v + 1)).tried = [v + 1] := by
  have hround : (handshakeRound c (replies (v + 1)) rval).1 ≠ 0 := handshakeRound_of_no_status hst
  simp [handshakeLoop, hround]

theorem handshakeLoop_of_accepted (hreset : hgslRpcParcelReset c = 0)
    (hst : (replies (v + 1)).status = some GSL_SUCCESS) :
    handshakeLoop c replies rval (v + 1) =
      { ret := 0, rval := GSL_SUCCESS, version := v + 1, tried := [v + 1] } := by
  simp [handshakeLoop, handshakeRound_of_status hreset hst]

theorem handshakeLoop_of_rejected (rval : Int) (hreset : hgslRpcParcelReset c = 0) (h : (replies (v + 1)).Rejected) :
    ∃ st, st ≠ GSL_SUCCESS ∧ handshakeLoop c replies rval (v + 1) =
      { handshakeLoop c replies st v with tried := (v + 1) :: (handshakeLoop c replies st v).tried } := by
  obtain ⟨st, hst, hne⟩ := h
  exact ⟨st, hne, by simp [handshakeLoop, handshakeRound_of_status hreset hst, hne]⟩

theorem mem_tried (hreset : hgslRpcParcelReset c = 0) :
    w ∈ (handshakeLoop c replies rval v).tried ↔ 1 ≤ w ∧ w ≤ v ∧ RejectedAbove replies v w := by
  induction v generalizing rval with
  | zero => simp [handshakeLoop]; omega
  | succ v ih =>
      by_cases htop : w = v + 1
      · subst htop
        have htried : v + 1 ∈ (handshakeLoop c replies rval (v + 1)).tried := by
          simp only [handshakeLoop]
          split_ifs <;> simp
        simp [htried]
      · have hlow : (1 ≤ w ∧ w ≤ v + 1 ∧ RejectedAbove replies (v + 1) w) ↔
            (replies (v + 1)).Rejected ∧ 1 ≤ w ∧ w ≤ v ∧ RejectedAbove replies v w := by
          by_cases hw : w ≤ v
          · rw [rejectedAbove_succ hw]
            constructor
            · rintro ⟨hpos, -, hrej, habove⟩
              exact ⟨hrej, hpos, hw, habove⟩
            · rintro ⟨hrej, hpos, -, habove⟩
              exact ⟨hpos, by omega, hrej, habove⟩
          · constructor
            · rintro ⟨-, hle, -⟩
              omega
            · rintro ⟨-, -, hle, -⟩
              omega
        rw [hlow]
        obtain hst | hst | hrej := (replies (v + 1)).status_cases
        · have hnot : ¬ (replies (v + 1)).Rejected := by
            intro hrej
            exact hrej.status_ne.1 hst
          simp [(handshakeLoop_of_no_status hst).2, htop, hnot]
        · have hnot : ¬ (replies (v + 1)).Rejected := by
            intro hrej
            exact hrej.status_ne.2 hst
          simp [handshakeLoop_of_accepted hreset hst, htop, hnot]
        · obtain ⟨st, -, hloop⟩ := handshakeLoop_of_rejected rval hreset hrej
          simp [hloop, htop, hrej, ih]

/-- What the loop comes to. -/
inductive LoopOutcome (replies : Nat → HandshakeReply) (v : Nat) (l : HandshakeLoop) : Prop where
  | failed : l.ret ≠ 0 → (¬ ∃ w, FirstAccepted replies v w) → ¬ RejectedAbove replies v 0 → LoopOutcome replies v l
  | accepted (w : Nat) : l.ret = 0 → l.rval = GSL_SUCCESS → l.version = w → FirstAccepted replies v w →
      LoopOutcome replies v l
  | rejected : l.ret = 0 → l.rval ≠ GSL_SUCCESS → RejectedAbove replies v 0 → LoopOutcome replies v l

theorem firstAccepted_succ (hrej : (replies (v + 1)).Rejected) :
    FirstAccepted replies (v + 1) w ↔ FirstAccepted replies v w := by
  constructor
  · rintro ⟨hpos, hle, habove, hst⟩
    have hne : w ≠ v + 1 := by
      rintro rfl
      exact hrej.status_ne.2 hst
    exact ⟨hpos, by omega, ((rejectedAbove_succ (by omega)).1 habove).2, hst⟩
  · rintro ⟨hpos, hle, habove, hst⟩
    exact ⟨hpos, by omega, (rejectedAbove_succ hle).2 ⟨hrej, habove⟩, hst⟩

theorem firstAccepted_unique {w₁ w₂ : Nat} (h₁ : FirstAccepted replies v w₁) (h₂ : FirstAccepted replies v w₂) :
    w₁ = w₂ := by
  obtain ⟨-, hle₁, habove₁, hst₁⟩ := h₁
  obtain ⟨-, hle₂, habove₂, hst₂⟩ := h₂
  by_contra hne
  obtain hlt | hlt : w₁ < w₂ ∨ w₂ < w₁ := by omega
  · exact (habove₁ w₂ hlt hle₂).status_ne.2 hst₂
  · exact (habove₂ w₁ hlt hle₁).status_ne.2 hst₁

theorem handshakeLoop_outcome (hreset : hgslRpcParcelReset c = 0) (hrval : rval ≠ GSL_SUCCESS) :
    LoopOutcome replies v (handshakeLoop c replies rval v) := by
  induction v generalizing rval with
  | zero => exact .rejected (by simp [handshakeLoop]) (by simpa [handshakeLoop] using hrval) rejectedAbove_self
  | succ v ih =>
      obtain hst | hst | hrej := (replies (v + 1)).status_cases
      · -- no other version is tried
        have hnot : ¬ (replies (v + 1)).Rejected := by
          intro hrej
          exact hrej.status_ne.1 hst
        refine .failed (handshakeLoop_of_no_status hst).1 ?_ ?_
        · rintro ⟨w, -, hle, habove, hw⟩
          by_cases htop : w = v + 1
          · simp [← htop, hw] at hst
          · exact hnot (habove (v + 1) (by omega) le_rfl)
        · intro habove
          exact hnot (habove (v + 1) (by omega) le_rfl)
      · rw [handshakeLoop_of_accepted hreset hst]
        exact .accepted (v + 1) rfl rfl rfl ⟨by omega, le_rfl, rejectedAbove_self, hst⟩
      · obtain ⟨st, hne, hloop⟩ := handshakeLoop_of_rejected rval hreset hrej
        rw [hloop]
        cases ih hne with
        | failed hret hnone hsome =>
            refine .failed hret ?_ ?_
            · simpa [firstAccepted_succ hrej] using hnone
            · intro habove
              exact hsome ((rejectedAbove_succ (by omega)).1 habove).2
        | accepted w hret hrval hversion hfirst =>
            exact .accepted w hret hrval hversion ((firstAccepted_succ hrej).2 hfirst)
        | rejected hret hrval habove =>
            exact .rejected hret hrval ((rejectedAbove_succ (by omega)).2 ⟨hrej, habove⟩)

/-! ### The handshake -/

/-- What the handshake comes to: it fails without an id, or it has the id of the accepted version, or every
    version was rejected, and it still returns 0. -/
inductive HandshakeOutcome (replies : Nat → HandshakeReply) (connId : Int) (h : Handshake) : Prop where
  | failed : h.ret ≠ 0 → h.connId = connId → ¬ RejectedAbove replies 2 0 →
      (∀ w, FirstAccepted replies 2 w → (replies w).connId.ret ≠ 0) → HandshakeOutcome replies connId h
  | delivered (w : Nat) : FirstAccepted replies 2 w → (replies w).connId.ret = 0 →
      h.connId = (replies w).connId.val →
      (h.ret = 0 ↔ (replies w).serverType.ret = 0 ∧ (replies w).serverMode.ret = 0) →
      HandshakeOutcome replies connId h
  | rejected : h.ret = 0 → h.connId = connId → RejectedAbove replies 2 0 → HandshakeOutcome replies connId h

theorem FirstAccepted.not_rejectedAbove (h : FirstAccepted replies v w) : ¬ RejectedAbove replies v 0 := by
  obtain ⟨hpos, hle, -, hst⟩ := h
  intro habove
  exact (habove w (by omega) hle).status_ne.2 hst

theorem rpcHandshake_outcome (hreset : hgslRpcParcelReset c = 0) :
    HandshakeOutcome replies connId (rpcHandshake c replies connId) := by
  have hloop : LoopOutcome replies 2 (handshakeLoop c replies GSL_FAILURE 2) :=
    handshakeLoop_outcome hreset (by decide)
  simp only [rpcHandshake]
  generalize handshakeLoop c replies GSL_FAILURE 2 = l at hloop ⊢
  cases hloop with
  | failed hret hnone hsome =>
      rw [if_neg (by simp [hret])]
      exact .failed hret rfl hsome fun w hw => absurd ⟨w, hw⟩ hnone
  | rejected hret hrval habove =>
      rw [if_neg (by simp [hrval])]
      exact .rejected hret rfl habove
  | accepted w hret hrval hversion hfirst =>
      rw [if_pos ⟨hret, hrval⟩, hversion]
      by_cases hid : (replies w).connId.ret = 0
      · refine .delivered w hfirst hid ?_ ?_
        · split_ifs <;> simp_all
        · by_cases htype : (replies w).serverType.ret = 0 <;> by_cases hmode : (replies w).serverMode.ret = 0 <;>
            simp [hid, htype, hmode]
      · rw [if_pos hid]
        refine .failed hid rfl hfirst.not_rejectedAbove ?_
        intro w' hw'
        rwa [firstAccepted_unique hw' hfirst]

theorem rpcHandshake_tried (hreset : hgslRpcParcelReset c = 0) :
    TriedInOrder replies (rpcHandshake c replies connId).tried := by
  have hloop : (rpcHandshake c replies connId).tried = (handshakeLoop c replies GSL_FAILURE 2).tried := by
    simp only [rpcHandshake]
    split_ifs <;> simp
  intro w
  rw [hloop]
  exact mem_tried hreset

theorem rpcSubHandshake_eq_zero (hreset : hgslRpcParcelReset c = 0) {t : SubHandshakeReply} :
    rpcSubHandshake c t = 0 ↔ t.Succeeds := by
  obtain ⟨write, transact, ⟨ret, val⟩, ⟨direct, allow⟩⟩ := t
  by_cases hwrite : write = 0 <;> by_cases htransact : transact = 0 <;> by_cases hret : ret = 0 <;>
    by_cases hval : val = GSL_SUCCESS <;>
    simp [rpcSubHandshake, SubHandshakeReply.Succeeds, hreset, hwrite, htransact, hret, hval, EINVAL]

end Spec

end Hgsl
