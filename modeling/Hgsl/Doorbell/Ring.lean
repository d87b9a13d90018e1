import Hgsl.Timestamp
import Hgsl.Lib.RecordRing
import Hgsl.Lib.Trace

set_option autoImplicit false

/-! # The doorbell rings

The ring part of `db_send_msg` and `dbcq_send_msg`: both wait for free dwords, copy the message with at
most two `memcpy`s and publish the write index, in the same way on a queue of their own. The indices
live in shared memory where the GMU advances the read index at any time, so a send is cut into the
wait, the two copies and the publication. All arithmetic is `uint32_t` arithmetic, the shift of a dword
index to a byte offset included.

Left out here: the device check, the doorbell interrupts, the hard-reset handshake (of which only the
test in the wait loop is kept) and the per-context info words behind the ring. -/

namespace Hgsl

/-- `ALIGN(x, 4)` -/
def align4 (x : BitVec 32) : BitVec 32 := (x + 3#32) &&& ~~~3#32

/-- A message starts with a `struct hgsl_db_cmds`, so it is never empty. -/
structure DbMsg where
  dwords : List (BitVec 32)
  nonempty : dwords ≠ []

/-- `msg_req->msg_dwords` -/
def msgDwords (m : List (BitVec 32)) : BitVec 32 := BitVec.ofNat 32 m.length

/-- The two kinds of ring: the doorbell queue shared by contexts, the queue of one context. -/
inductive DbKind where
  | dbq
  | dbcq
  deriving DecidableEq, Repr

/-- Where the one sender (`dbq->lock`, `ctxt->lock`) stands. -/
inductive Sender where
  | idle
  /-- in the loop that waits for free dwords -/
  | waiting (m : DbMsg)
  /-- there are enough, `wptr` is read -/
  | granted (m : DbMsg) (wptr : BitVec 32)
  /-- the part behind the wrap is copied -/
  | wrapped (m : DbMsg) (wptr : BitVec 32)
  /-- everything is copied -/
  | copied (m : DbMsg) (wptr : BitVec 32)

/-- A ring in shared memory. `body k` is the dword `4 * k` bytes behind the start of the ring. -/
structure DbRing where
  kind : DbKind
  /-- `dbq->data.dwords`, `queue_header->dwSize` -/
  queueSize : BitVec 32
  readIdx : BitVec 32
  writeIdx : BitVec 32
  body : Nat → BitVec 32
  sender : Sender := .idle
  /-- history: the published messages not yet consumed, each with its write index -/
  pending : List (Nat × List (BitVec 32)) := []
  /-- history: every published message -/
  sent : List (List (BitVec 32)) := []
  /-- history: what the consumer read from the ring -/
  received : List (List (BitVec 32)) := []
  /-- history: a dword was written outside of the ring -/
  outside : Bool := false
  /-- history: an unread dword was overwritten -/
  overwrote : Bool := false

/-! ## Free space -/

/-- The free dwords of a ring. -/
def freedwords (queueSize wptr rptr : BitVec 32) : BitVec 32 :=
  queueSize - (wptr + queueSize - rptr) % queueSize - 1#32

/-- `db_queue_freedwords` -/
def dbQueueFreedwords (dbq : Option DbRing) : BitVec 32 :=
  match dbq with
  | none => 0#32
  | some q => freedwords q.queueSize q.writeIdx q.readIdx

/-- `db_context_queue_freedwords` -/
def dbContextQueueFreedwords (q : DbRing) : BitVec 32 :=
  freedwords q.queueSize q.writeIdx q.readIdx

namespace DbRing

/-- The free dwords that the queue's own function computes. -/
def free (q : DbRing) : BitVec 32 :=
  match q.kind with
  | .dbq => dbQueueFreedwords (some q)
  | .dbcq => dbContextQueueFreedwords q

/-- One turn of the loop in `db_queue_wait_freewords`: it returns 0. -/
def dbQueueWaitFreewords (q : DbRing) (size : BitVec 32) (hardResetReq : Bool) : Bool :=
  size == 0#32 || (!hardResetReq && decide (size ≤ dbQueueFreedwords (some q)))

/-- One turn of the loop in `dbcq_queue_wait_freewords`: it returns 0. -/
def dbcqQueueWaitFreewords (q : DbRing) (size : BitVec 32) : Bool :=
  decide (size ≤ dbContextQueueFreedwords q)

/-- One turn of the queue's own wait loop. -/
def waitFreewords (q : DbRing) (size : BitVec 32) (hardResetReq : Bool) : Bool :=
  match q.kind with
  | .dbq => q.dbQueueWaitFreewords size hardResetReq
  | .dbcq => q.dbcqQueueWaitFreewords size

/-! ## Copying -/

/-- `move_dwords` -/
def moveDwords (q : DbRing) (m : List (BitVec 32)) (wptr : BitVec 32) : BitVec 32 :=
  if q.queueSize ≤ msgDwords m + wptr then q.queueSize - wptr else msgDwords m

/-- `memcpy` of `count` bytes from byte `src` of the message to byte `dst` of the ring. -/
def memcpy (q : DbRing) (dst : BitVec 32) (m : List (BitVec 32)) (src count : BitVec 32) : DbRing :=
  let d := dst.toNat / 4
  let xs := (m.drop (src.toNat / 4)).take (count.toNat / 4)
  let n := q.queueSize.toNat
  { q with
    body := Ring.put q.body d xs
    outside := q.outside || decide (xs ≠ [] ∧ n < d + xs.length)
    overwrote := q.overwrote || (List.range xs.length).any fun k =>
      d + k < n ∧
        Ring.used n q.readIdx.toNat (d + k) < Ring.used n q.readIdx.toNat q.writeIdx.toNat }

/-- The `memcpy` to the start of the ring, if the message reaches its end. -/
def copyResid (q : DbRing) (m : List (BitVec 32)) (wptr : BitVec 32) : DbRing :=
  if q.queueSize ≤ msgDwords m + wptr then
    let move := q.moveDwords m wptr
    q.memcpy 0#32 m (move <<< 2) ((msgDwords m - move) <<< 2)
  else q

/-- The `memcpy` to the write index. -/
def copyMove (q : DbRing) (m : List (BitVec 32)) (wptr : BitVec 32) : DbRing :=
  q.memcpy (wptr <<< 2) m 0#32 (q.moveDwords m wptr <<< 2)

/-- The new write index. -/
def nextIdx (q : DbRing) (idx : BitVec 32) (m : List (BitVec 32)) : BitVec 32 :=
  (idx + align4 (msgDwords m)) % q.queueSize

end DbRing

/-! ## Interleavings -/

/-- The dwords that a message takes up in the ring. -/
def msgSize (m : List (BitVec 32)) : Nat := (m.length + 3) / 4 * 4

/-- What can happen next. -/
inductive DbAct where
  /-- a sender starts, with a message whose rounded length is below the size of the ring -/
  | send (m : DbMsg)
  /-- one turn of the wait loop, which may find a hard reset requested -/
  | poll (hardResetReq : Bool)
  /-- the wait ends with `-EINTR` or `-ETIMEDOUT` -/
  | giveUp
  | copyResid
  | copyMove
  /-- the write index is stored -/
  | publish
  /-- the GMU reads the oldest message and moves the read index behind it -/
  | consume

namespace DbRing

/-- An empty ring with both indices at `idx`. -/
def empty (kind : DbKind) (queueSize idx : BitVec 32) (body : Nat → BitVec 32) : DbRing :=
  { kind := kind, queueSize := queueSize, readIdx := idx, writeIdx := idx, body := body }

/-- One step of the ring. -/
def step (q : DbRing) : DbAct → Option DbRing
  | .send m =>
    match q.sender with
    | .idle => if msgSize m.dwords < q.queueSize.toNat then some { q with sender := .waiting m } else none
    | _ => none
  | .poll hardResetReq =>
    match q.sender with
    | .waiting m =>
      if q.waitFreewords (align4 (msgDwords m.dwords)) hardResetReq then
        some { q with sender := .granted m q.writeIdx }
      else some q
    | _ => none
  | .giveUp =>
    match q.sender with
    | .waiting _ => some { q with sender := .idle }
    | _ => none
  | .copyResid =>
    match q.sender with
    | .granted m wptr => some { q.copyResid m.dwords wptr with sender := .wrapped m wptr }
    | _ => none
  | .copyMove =>
    match q.sender with
    | .wrapped m wptr => some { q.copyMove m.dwords wptr with sender := .copied m wptr }
    | _ => none
  | .publish =>
    match q.sender with
    | .copied m wptr =>
      some { q with
        writeIdx := q.nextIdx wptr m.dwords
        sender := .idle
        pending := q.pending ++ [(wptr.toNat, m.dwords)]
        sent := q.sent ++ [m.dwords] }
    | _ => none
  | .consume =>
    match q.pending with
    | [] => none
    | (_, m) :: rest =>
      some { q with
        readIdx := q.nextIdx q.readIdx m
        pending := rest
        received := q.received ++
          [Ring.slice q.queueSize.toNat q.body q.readIdx.toNat m.length] }

end DbRing

end Hgsl
