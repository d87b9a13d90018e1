import Hgsl.Doorbell.RingFifo

set_option autoImplicit false

/-! # The cooperative hard reset

`db_send_msg` and `db_queue_wait_freewords` once more, now with the two words that keep the sender and a
hard reset of the host apart: the host raises a request and starts the reset once it has read the busy
word as 0. Every access of the sender to shared memory is a step, and between two of them the host and
the GMU do what they like; memory is sequentially consistent.

The sender sets busy and then looks at the request, so the host sees the one or the sender the other.
Only when the sender has cleared busy in the wait loop does it look first and set afterwards. -/

namespace Hgsl

/-- `HGSL_QFREE_MAX_RETRY_COUNT` -/
def HGSL_QFREE_MAX_RETRY_COUNT : Nat := 500

/-- `HGSL_SEND_MSG_MAX_RETRY_COUNT` -/
def HGSL_SEND_MSG_MAX_RETRY_COUNT : Nat := 150

/-- How far the host is with a reset. -/
inductive HostReset where
  | idle
  /-- it has raised the request -/
  | raised
  /-- it has read busy as 0 since -/
  | granted
  | resetting
  deriving DecidableEq, Repr

/-- Where the sender stands in `db_send_msg`: what it is about to do. `retry` is the `retry_count` of the
    loop that it is in. -/
inductive ResetSender where
  | idle
  /-- to read the request -/
  | checking (m : DbMsg) (retry : Nat)
  /-- to sleep, because there is one -/
  | backingOff (m : DbMsg) (retry : Nat)
  /-- to set busy -/
  | entering (m : DbMsg)
  /-- in `db_queue_wait_freewords`: to read the request -/
  | polling (m : DbMsg) (retry : Nat)
  /-- to read busy, because there is one -/
  | yielding (m : DbMsg) (retry : Nat)
  /-- to clear busy -/
  | clearing (m : DbMsg) (retry : Nat)
  /-- in `db_queue_freedwords`: to read the write index -/
  | readingWptr (m : DbMsg) (retry : Nat)
  /-- to read the read index -/
  | readingRptr (m : DbMsg) (retry : Nat) (wptr : BitVec 32)
  /-- to set busy, because there is room -/
  | claiming (m : DbMsg)
  | sleeping (m : DbMsg) (retry : Nat)
  /-- back in `db_send_msg`: to read the write index -/
  | admitted (m : DbMsg)
  /-- to copy these dwords, each with its index, and then to store the write index -/
  | copying (m : DbMsg) (wptr : BitVec 32) (rest : List (BitVec 32 × Nat))
  /-- to clear busy and return `ret` -/
  | quitting (ret : Int)

/-- The queue and the words of the cooperative reset. -/
structure HardReset where
  /-- `dbq->data.dwords` -/
  queueSize : BitVec 32
  readIdx : BitVec 32
  writeIdx : BitVec 32
  body : Nat → BitVec 32
  /-- `HGSL_DBQ_HOST_TO_GVM_HARDRESET_REQ` -/
  request : BitVec 32 := 0#32
  /-- `HGSL_DBQ_GVM_TO_HOST_HARDRESET_DISPATCH_IN_BUSY` -/
  busy : BitVec 32 := 0#32
  host : HostReset := .idle
  sender : ResetSender := .idle
  /-- what `db_send_msg` returned last -/
  ret : Int := 0
  /-- history: the body or the write index was written during a reset -/
  wroteInReset : Bool := false

/-- What can happen next. -/
inductive HardResetAct where
  /-- a sender has the lock, with a message whose rounded length is below the size of the ring -/
  | send (m : DbMsg)
  /-- the next access of the sender -/
  | access
  /-- its sleep ends -/
  | wake (interrupted : Bool)
  /-- the host raises the request -/
  | raise
  /-- it reads busy -/
  | readBusy
  | startReset
  /-- the reset is over, it clears the request -/
  | finishReset
  /-- the GMU moves the read index -/
  | moveRead (rptr : BitVec 32)

/-- The dwords that a `memcpy` to byte `dst` of the ring stores, one after the other. -/
def memcpyDwords (dst : BitVec 32) (m : List (BitVec 32)) (src count : BitVec 32) :
    List (BitVec 32 × Nat) :=
  ((m.drop (src.toNat / 4)).take (count.toNat / 4)).zipIdx (dst.toNat / 4)

namespace HardReset

def fresh (queueSize readIdx writeIdx : BitVec 32) (body : Nat → BitVec 32) : HardReset :=
  { queueSize := queueSize, readIdx := readIdx, writeIdx := writeIdx, body := body }

/-- The ring that the sender copies to. -/
def ring (s : HardReset) : DbRing :=
  { DbRing.empty .dbq s.queueSize s.readIdx s.body with writeIdx := s.writeIdx }

/-- Both `memcpy`s of `db_send_msg`. -/
def copyDwords (s : HardReset) (m : List (BitVec 32)) (wptr : BitVec 32) : List (BitVec 32 × Nat) :=
  let move := s.ring.moveDwords m wptr
  (if s.queueSize ≤ msgDwords m + wptr then
    memcpyDwords 0#32 m (move <<< 2) ((msgDwords m - move) <<< 2)
  else []) ++ memcpyDwords (wptr <<< 2) m 0#32 (move <<< 2)

def inReset (s : HardReset) : Bool := s.host = .resetting

/-! ## Steps -/

/-- The next access of the sender. -/
def access (s : HardReset) : Option HardReset :=
  match s.sender with
  | .checking m retry =>
    if s.request ≠ 0#32 then some { s with sender := .backingOff m retry }
    else some { s with sender := .entering m }
  | .entering m =>
    if align4 (msgDwords m.dwords) = 0#32 then some { s with busy := 1#32, sender := .admitted m }
    else some { s with busy := 1#32, sender := .polling m 0 }
  | .polling m retry =>
    if s.request = 1#32 then some { s with sender := .yielding m retry }
    else some { s with sender := .readingWptr m retry }
  | .yielding m retry =>
    if s.busy = 1#32 then some { s with sender := .clearing m retry }
    else some { s with sender := .sleeping m retry }
  | .clearing m retry => some { s with busy := 0#32, sender := .sleeping m retry }
  | .readingWptr m retry => some { s with sender := .readingRptr m retry s.writeIdx }
  | .readingRptr m retry wptr =>
    if align4 (msgDwords m.dwords) ≤ freedwords s.queueSize wptr s.readIdx then
      some { s with sender := .claiming m }
    else some { s with sender := .sleeping m retry }
  | .claiming m => some { s with busy := 1#32, sender := .admitted m }
  | .admitted m =>
    some { s with sender := .copying m s.writeIdx (s.copyDwords m.dwords s.writeIdx) }
  | .copying m wptr ((x, k) :: rest) =>
    some { s with
      body := Function.update s.body k x
      sender := .copying m wptr rest
      wroteInReset := s.wroteInReset || s.inReset }
  | .copying m wptr [] =>
    some { s with
      writeIdx := s.ring.nextIdx wptr m.dwords
      sender := .quitting 0
      wroteInReset := s.wroteInReset || s.inReset }
  | .quitting ret =>
    some { s with
      busy := 0#32
      sender := .idle
      ret := if ret = -ETIMEDOUT then -EAGAIN else ret }
  | .idle | .backingOff _ _ | .sleeping _ _ => none

/-- The sender's sleep ends, in `db_send_msg` or in `db_queue_wait_freewords`. -/
def wake (s : HardReset) (interrupted : Bool) : Option HardReset :=
  match s.sender with
  | .backingOff m retry =>
    if interrupted then some { s with sender := .quitting (-EINTR) }
    else if HGSL_SEND_MSG_MAX_RETRY_COUNT < retry then
      some { s with sender := .quitting (-ETIMEDOUT) }
    else some { s with sender := .checking m (retry + 1) }
  | .sleeping m retry =>
    if interrupted then some { s with sender := .quitting (-EINTR) }
    else if retry < HGSL_QFREE_MAX_RETRY_COUNT then
      some { s with sender := .polling m (retry + 1) }
    else some { s with sender := .quitting (-ETIMEDOUT) }
  | _ => none

/-- One step. -/
def step (s : HardReset) : HardResetAct → Option HardReset
  | .send m =>
    match s.sender with
    | .idle =>
      if msgSize m.dwords < s.queueSize.toNat then some { s with sender := .checking m 0 } else none
    | _ => none
  | .access => s.access
  | .wake interrupted => s.wake interrupted
  | .raise =>
    match s.host with
    | .idle => some { s with request := 1#32, host := .raised }
    | _ => none
  | .readBusy =>
    match s.host with
    | .raised => if s.busy = 0#32 then some { s with host := .granted } else some s
    | _ => none
  | .startReset =>
    match s.host with
    | .granted => some { s with host := .resetting }
    | _ => none
  | .finishReset =>
    match s.host with
    | .resetting => some { s with request := 0#32, host := .idle }
    | _ => none
  | .moveRead rptr => some { s with readIdx := rptr }

/-! ## The copies -/

/-- Stores of single dwords. -/
def storeDwords (body : Nat → BitVec 32) (ws : List (BitVec 32 × Nat)) : Nat → BitVec 32 :=
  ws.foldl (fun body w => Function.update body w.2 w.1) body

theorem storeDwords_zipIdx (xs : List (BitVec 32)) (body : Nat → BitVec 32) (d : Nat) :
    storeDwords body (xs.zipIdx d) = Ring.put body d xs := by
  induction xs generalizing body d with
  | nil =>
      funext j
      by_cases hj : j < d <;> simp [storeDwords, Ring.put, hj]
  | cons x xs ih =>
      rw [List.zipIdx_cons]
      show storeDwords (Function.update body d x) (xs.zipIdx (d + 1)) = Ring.put body d (x :: xs)
      rw [ih]
      funext j
      by_cases hlt : j < d
      · rw [Ring.put_before _ hlt, Ring.put_before _ (Nat.lt_succ_of_lt hlt),
          Function.update_of_ne hlt.ne]
      · by_cases heq : j = d
        · subst heq
          rw [Ring.put_before _ (Nat.lt_succ_self j), Function.update_self]
          simp [Ring.put]
        · obtain ⟨k, rfl⟩ : ∃ k, j = d + 1 + k := ⟨j - (d + 1), by omega⟩
          have hnext : ¬d + 1 + k < d + 1 := by omega
          have hidx : d + 1 + k - d = k + 1 := by omega
          have hidx' : d + 1 + k - (d + 1) = k := by omega
          simp only [Ring.put, if_neg hlt, if_neg hnext, hidx, hidx', List.getElem?_cons_succ,
            Function.update_of_ne heq]

/-- Dword by dword, the sender stores what the two `memcpy`s of the ring model store. -/
theorem storeDwords_copyDwords (s : HardReset) (m : List (BitVec 32)) (wptr : BitVec 32) :
    storeDwords s.body (s.copyDwords m wptr) = ((s.ring.copyResid m wptr).copyMove m wptr).body := by
  have hresid : storeDwords s.body (if s.queueSize ≤ msgDwords m + wptr then
      memcpyDwords 0#32 m (s.ring.moveDwords m wptr <<< 2)
        ((msgDwords m - s.ring.moveDwords m wptr) <<< 2) else []) =
      (s.ring.copyResid m wptr).body := by
    unfold DbRing.copyResid
    by_cases hwrap : s.queueSize ≤ msgDwords m + wptr
    · rw [if_pos hwrap, if_pos (show s.ring.queueSize ≤ _ from hwrap)]
      exact storeDwords_zipIdx _ _ _
    · rw [if_neg hwrap, if_neg (show ¬s.ring.queueSize ≤ _ from hwrap)]
      rfl
  have hmove : (s.ring.copyResid m wptr).moveDwords m wptr = s.ring.moveDwords m wptr := by
    unfold DbRing.copyResid
    split <;> rfl
  rw [copyDwords, storeDwords, List.foldl_append, ← storeDwords, ← storeDwords, hresid,
    memcpyDwords, storeDwords_zipIdx]
  unfold DbRing.copyMove
  rw [hmove]
  rfl

/-! ## Exclusion -/

/-- The message of a sender that has not set busy yet. -/
def newMessage : ResetSender → Option DbMsg
  | .checking m _ | .backingOff m _ | .entering m => some m
  | _ => none

/-- The sender has looked at the request and found none. -/
def hasLooked : ResetSender → Bool
  | .readingWptr _ _ | .readingRptr _ _ _ | .claiming _ => true
  | _ => false

/-- The sender reads the write index, writes the body or writes the index. -/
def isWriting : ResetSender → Bool
  | .admitted _ | .copying _ _ _ => true
  | _ => false

/-- The host has read busy as 0 since it raised the request. -/
def isGranted : HostReset → Bool
  | .granted | .resetting => true
  | .idle | .raised => false

/-- Busy and granted exclude each other, once the sender has looked at the request. -/
structure Excluded (s : HardReset) : Prop where
  request : s.request = if s.host = .idle then 0#32 else 1#32
  message : ∀ m, newMessage s.sender = some m → align4 (msgDwords m.dwords) ≠ 0#32
  looked : hasLooked s.sender = true → s.busy = 1#32 → isGranted s.host = false
  writing : isWriting s.sender = true → s.busy = 1#32 ∧ isGranted s.host = false
  outside : s.wroteInReset = false

theorem Excluded.fresh (queueSize readIdx writeIdx : BitVec 32) (body : Nat → BitVec 32) :
    Excluded (fresh queueSize readIdx writeIdx body) where
  request := rfl
  message _ := nofun
  looked := nofun
  writing := nofun
  outside := rfl

/-- A message that fits into the ring takes up some dwords. -/
theorem align4_ne_zero {m : DbMsg} {n : Nat} (hn : n < 2 ^ 32) (hm : msgSize m.dwords < n) :
    align4 (msgDwords m.dwords) ≠ 0#32 := by
  have hpos := List.length_pos_iff.2 m.nonempty
  have hlen := toNat_msgDwords (show msgSize m.dwords < 2 ^ 32 by omega)
  have hbound : (msgDwords m.dwords).toNat + 3 < 2 ^ 32 := by
    rw [hlen]
    unfold msgSize at hm
    omega
  intro hzero
  have halign := toNat_align4 hbound
  rw [hzero, hlen] at halign
  simp at halign
  omega

/-- The sender moves on without an access that the host could see. -/
theorem Excluded.move {s : HardReset} (h : Excluded s) {sender : ResetSender}
    (hmessage : ∀ m, newMessage sender = some m → newMessage s.sender = some m)
    (hlooked : hasLooked sender = true → s.busy = 1#32 → isGranted s.host = false)
    (hwriting : isWriting sender = true → isWriting s.sender = true) :
    Excluded { s with sender := sender } where
  request := h.request
  message m hm := h.message m (hmessage m hm)
  looked := hlooked
  writing hw := h.writing (hwriting hw)
  outside := h.outside

/-- With no request raised the host is not granted anything. -/
theorem Excluded.not_granted {s : HardReset} (h : Excluded s) (hrequest : s.request ≠ 1#32) :
    isGranted s.host = false := by
  have hword := h.request
  cases hhost : s.host with
  | idle => rfl
  | raised | granted | resetting =>
      rw [hhost] at hword
      exact absurd hword hrequest

/-- What the sender writes while it is busy is written outside of a reset. -/
theorem Excluded.not_inReset {s : HardReset} (h : Excluded s) (hw : isWriting s.sender = true) :
    (s.wroteInReset || s.inReset) = false := by
  have hgranted := (h.writing hw).2
  rw [h.outside, inReset]
  cases hhost : s.host with
  | idle | raised => rfl
  | granted | resetting =>
      rw [hhost] at hgranted
      cases hgranted

/-- `db_queue_wait_freewords` returns with busy set, and if it had cleared it, then the host has not read
    it as 0. -/
def keepsOut (s : HardReset) : HardResetAct → Bool
  | .access =>
    match s.sender with
    | .claiming _ => s.busy = 1#32 || !isGranted s.host
    | _ => true
  | _ => true

theorem Excluded.access {s s' : HardReset} (h : Excluded s) (hout : s.keepsOut .access = true)
    (hstep : s.access = some s') : Excluded s' := by
  unfold HardReset.access at hstep
  cases hsender : s.sender with
  | checking m retry =>
      simp only [hsender] at hstep
      have hmove : ∀ sender, newMessage sender = some m → hasLooked sender = false →
          isWriting sender = false → Excluded { s with sender := sender } := by
        intro sender hm hl hw
        refine h.move ?_ (fun hl' => absurd (hl.symm.trans hl') nofun)
          (fun hw' => absurd (hw.symm.trans hw') nofun)
        intro m' hm'
        rw [hsender]
        exact hm.symm.trans hm'
      split at hstep
      · cases hstep
        exact hmove _ rfl rfl rfl
      · cases hstep
        exact hmove _ rfl rfl rfl
  | entering m =>
      simp only [hsender] at hstep
      have hsize := h.message m (by rw [hsender]; rfl)
      -- a message takes up some dwords, so the sender goes on to look at the request
      rw [if_neg hsize] at hstep
      cases hstep
      exact ⟨h.request, nofun, nofun, nofun, h.outside⟩
  | polling m retry =>
      simp only [hsender] at hstep
      split at hstep
      · cases hstep
        exact h.move nofun nofun nofun
      · next hrequest =>
          cases hstep
          exact h.move nofun (fun _ _ => h.not_granted hrequest) nofun
  | yielding m retry =>
      simp only [hsender] at hstep
      split at hstep
      · cases hstep
        exact h.move nofun nofun nofun
      · cases hstep
        exact h.move nofun nofun nofun
  | clearing m retry =>
      simp only [hsender] at hstep
      cases hstep
      exact ⟨h.request, nofun, nofun, nofun, h.outside⟩
  | readingWptr m retry =>
      -- as long as busy is set, the host is granted nothing after this look at its request
      have hlooked := h.looked (by rw [hsender]; rfl)
      simp only [hsender] at hstep
      cases hstep
      exact h.move nofun (fun _ => hlooked) nofun
  | readingRptr m retry wptr =>
      have hlooked := h.looked (by rw [hsender]; rfl)
      simp only [hsender] at hstep
      split at hstep
      · cases hstep
        exact h.move nofun (fun _ => hlooked) nofun
      · cases hstep
        exact h.move nofun nofun nofun
  | claiming m =>
      have hlooked := h.looked (by rw [hsender]; rfl)
      simp only [keepsOut, hsender, Bool.or_eq_true, decide_eq_true_eq, Bool.not_eq_true'] at hout
      have hgranted : isGranted s.host = false := by
        -- busy was never cleared and the look at the request counts, or the condition does
        rcases hout with hbusy | hnot
        · exact hlooked hbusy
        · exact hnot
      simp only [hsender] at hstep
      cases hstep
      exact ⟨h.request, nofun, nofun, fun _ => ⟨rfl, hgranted⟩, h.outside⟩
  | admitted m =>
      simp only [hsender] at hstep
      cases hstep
      exact h.move nofun nofun fun _ => by rw [hsender]; rfl
  | copying m wptr rest =>
      have hw : isWriting s.sender = true := by rw [hsender]; rfl
      have houtside := h.not_inReset hw
      simp only [hsender] at hstep
      cases rest with
      | nil =>
          cases hstep
          exact ⟨h.request, nofun, nofun, nofun, houtside⟩
      | cons w rest =>
          cases hstep
          exact ⟨h.request, nofun, nofun, fun _ => h.writing hw, houtside⟩
  | quitting ret =>
      simp only [hsender] at hstep
      cases hstep
      exact ⟨h.request, nofun, nofun, nofun, h.outside⟩
  | idle | backingOff _ _ | sleeping _ _ =>
      simp only [hsender] at hstep
      cases hstep

theorem Excluded.wake {s s' : HardReset} {interrupted : Bool} (h : Excluded s)
    (hstep : s.wake interrupted = some s') : Excluded s' := by
  unfold HardReset.wake at hstep
  cases hsender : s.sender with
  | backingOff m retry =>
      simp only [hsender] at hstep
      split at hstep
      · cases hstep
        exact h.move nofun nofun nofun
      · split at hstep
        · cases hstep
          exact h.move nofun nofun nofun
        · cases hstep
          refine h.move ?_ nofun nofun
          intro m' hm'
          rw [hsender]
          exact hm'
  | sleeping m retry =>
      simp only [hsender] at hstep
      split at hstep
      · cases hstep
        exact h.move nofun nofun nofun
      · split at hstep
        · cases hstep
          exact h.move nofun nofun nofun
        · cases hstep
          exact h.move nofun nofun nofun
  | idle | checking _ _ | entering _ | polling _ _ | yielding _ _ | clearing _ _ | readingWptr _ _
  | readingRptr _ _ _ | claiming _ | admitted _ | copying _ _ _ | quitting _ =>
      simp only [hsender] at hstep
      cases hstep

/-- **Step lemma.** -/
theorem Excluded.step {s s' : HardReset} {a : HardResetAct} (h : Excluded s)
    (hstep : Trace.guarded (fun s a => s.keepsOut a = true) HardReset.step s a = some s') :
    Excluded s' := by
  obtain ⟨hout, hstep⟩ := Trace.guarded_eq_some.1 hstep
  cases a with
  | send m =>
      simp only [HardReset.step] at hstep
      split at hstep
      · split at hstep
        · next hsize =>
            cases hstep
            refine ⟨h.request, ?_, nofun, nofun, h.outside⟩
            intro m' hm'
            obtain rfl := Option.some.inj hm'
            exact align4_ne_zero s.queueSize.isLt hsize
        · cases hstep
      · cases hstep
  | access => exact h.access hout hstep
  | wake interrupted => exact h.wake hstep
  | raise =>
      simp only [HardReset.step] at hstep
      split at hstep
      · next hhost =>
          cases hstep
          exact ⟨rfl, h.message, fun _ _ => rfl, fun hw => ⟨(h.writing hw).1, rfl⟩, h.outside⟩
      · cases hstep
  | readBusy =>
      simp only [HardReset.step] at hstep
      split at hstep
      · next hhost =>
          split at hstep
          · next hbusy =>
              have hfree : s.busy ≠ 1#32 := by
                rw [hbusy]
                decide
              cases hstep
              have hrequest := h.request
              rw [hhost] at hrequest
              exact ⟨hrequest, h.message, fun _ hb => absurd hb hfree,
                fun hw => absurd (h.writing hw).1 hfree, h.outside⟩
          · cases hstep
            exact h
      · cases hstep
  | startReset =>
      simp only [HardReset.step] at hstep
      split at hstep
      · next hhost =>
          cases hstep
          have hrequest := h.request
          have hlooked := h.looked
          have hwriting := h.writing
          rw [hhost] at hrequest hlooked hwriting
          exact ⟨hrequest, h.message, hlooked, hwriting, h.outside⟩
      · cases hstep
  | finishReset =>
      simp only [HardReset.step] at hstep
      split at hstep
      · cases hstep
        exact ⟨rfl, h.message, fun _ _ => rfl, fun hw => ⟨(h.writing hw).1, rfl⟩, h.outside⟩
      · cases hstep
  | moveRead rptr =>
      cases hstep
      exact ⟨h.request, h.message, h.looked, h.writing, h.outside⟩

/-- The sender writes the body and the write index only outside of a reset. -/
theorem not_wroteInReset_of_keepsOut (queueSize readIdx writeIdx : BitVec 32)
    (body : Nat → BitVec 32) (as : List HardResetAct) (s : HardReset)
    (h : Trace.exec (Trace.guarded (fun s a => s.keepsOut a = true) step)
      (fresh queueSize readIdx writeIdx body) as = some s) : s.wroteInReset = false :=
  (Trace.exec_invariant (fun _ _ _ h hstep => Excluded.step h hstep)
    (Excluded.fresh queueSize readIdx writeIdx body) h).outside

def resetMessage : DbMsg := ⟨[5#32, 6#32, 7#32], by decide⟩

/-- The sender sets busy after the host has raised its request, gives way to the reset in the wait loop,
    and finds room when the reset is over. -/
def givesWayRun : List HardResetAct :=
  [.send resetMessage, .access, .raise, .access, .access, .access, .access, .readBusy, .startReset,
    .wake false, .access, .access, .finishReset, .wake false, .access, .access, .access]

/-- The next request comes when busy is set again, and is granted when the message is sent. -/
theorem not_wroteInReset_of_keepsOut_givesWayRun :
    ∃ s, Trace.exec (Trace.guarded (fun s a => s.keepsOut a = true) step)
        (fresh 8#32 0#32 0#32 fun _ => 0#32)
        (givesWayRun ++ [.access, .raise, .readBusy, .access, .access, .access, .access, .access,
          .access, .readBusy, .startReset]) = some s ∧
      (s.body 0, s.body 2, s.writeIdx, s.host) = (5#32, 7#32, 4#32, .resetting) ∧
      s.wroteInReset = false := by
  have heval : (Trace.exec (Trace.guarded (fun s a => s.keepsOut a = true) step)
        (fresh 8#32 0#32 0#32 fun _ => 0#32)
        (givesWayRun ++ [.access, .raise, .readBusy, .access, .access, .access, .access, .access,
          .access, .readBusy, .startReset])).map
          (fun s => (s.body 0, s.body 2, s.writeIdx, s.host)) =
      some (5#32, 7#32, 4#32, .resetting) := by
    decide +kernel
  obtain ⟨s, hs, heq⟩ := Option.map_eq_some_iff.1 heval
  exact ⟨s, hs, heq, not_wroteInReset_of_keepsOut _ _ _ _ _ s hs⟩

/-- The next request comes before busy is set again, when the sender has already looked. -/
theorem wroteInReset_of_second_request :
    ∃ s ∈ Trace.exec step (fresh 8#32 0#32 0#32 fun _ => 0#32)
        (givesWayRun ++ [.raise, .readBusy, .startReset, .access, .access, .access]),
      s.wroteInReset = true := by
  decide +kernel

end HardReset

end Hgsl
