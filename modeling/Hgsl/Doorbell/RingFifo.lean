import Hgsl.Doorbell.Ring
import Hgsl.Lib.Align
import Hgsl.Lib.Fifo

set_option autoImplicit false

/-! # The doorbell rings are message queues

On a ring of at most 2^30 dwords, whose byte offsets fit the 32-bit arithmetic of the copies, the sender
and the consumer refine an unbounded queue of messages: what is consumed is what was sent, in order. -/

namespace Hgsl

/-! ## Machine arithmetic -/

theorem toNat_align4 {x : BitVec 32} (hx : x.toNat + 3 < 2 ^ 32) :
    (align4 x).toNat = (x.toNat + 3) / 4 * 4 := by
  have hmask : 3#32 = BitVec.ofNat 32 (2 ^ 2 - 1) := rfl
  rw [align4, hmask, Align.toNat_and_not_mask, BitVec.toNat_add]
  simp only [BitVec.toNat_ofNat]
  omega

theorem length_le_msgSize (m : List (BitVec 32)) : m.length ≤ msgSize m := by
  unfold msgSize
  omega

theorem toNat_msgDwords {m : List (BitVec 32)} (h : msgSize m < 2 ^ 32) :
    (msgDwords m).toNat = m.length := by
  have := length_le_msgSize m
  rw [msgDwords, BitVec.toNat_ofNat, Nat.mod_eq_of_lt (by omega)]

theorem toNat_align4_msgDwords {m : List (BitVec 32)} (h : msgSize m < 2 ^ 30) :
    (align4 (msgDwords m)).toNat = msgSize m := by
  have hlen := length_le_msgSize m
  have hm := toNat_msgDwords (m := m) (by omega)
  rw [toNat_align4 (by omega), hm]
  rfl

/-- A dword index below 2^30 becomes its byte offset. -/
theorem toNat_shift_two {x : BitVec 32} (hx : x.toNat < 2 ^ 30) : (x <<< 2).toNat / 4 = x.toNat := by
  rw [BitVec.toNat_shiftLeft, Nat.shiftLeft_eq, Nat.mod_eq_of_lt (by omega)]
  omega

/-- The free space is what is not used, less the one dword that tells a full ring from an empty one. -/
theorem toNat_freedwords {n w r : BitVec 32} (hn : n.toNat ≤ 2 ^ 31) (hr : r.toNat < n.toNat)
    (hw : w.toNat < n.toNat) :
    (freedwords n w r).toNat = n.toNat - Ring.used n.toNat r.toNat w.toNat - 1 := by
  have hsum : (w + n).toNat = w.toNat + n.toNat := by
    rw [BitVec.toNat_add, Nat.mod_eq_of_lt (by omega)]
  have hdiff : (w + n - r).toNat = w.toNat + n.toNat - r.toNat := by
    rw [BitVec.toNat_sub_of_le (by rw [BitVec.le_def, hsum]; omega), hsum]
  have hused : ((w + n - r) % n).toNat = Ring.used n.toNat r.toNat w.toNat := by
    rw [BitVec.toNat_umod, hdiff]
    rfl
  have hlt : Ring.used n.toNat r.toNat w.toNat < n.toNat := Ring.used_lt (by omega) _ _
  have hfree : (n - (w + n - r) % n).toNat = n.toNat - Ring.used n.toNat r.toNat w.toNat := by
    rw [BitVec.toNat_sub_of_le (by rw [BitVec.le_def, hused]; omega), hused]
  rw [freedwords, BitVec.toNat_sub_of_le (by rw [BitVec.le_def, hfree]; simp; omega), hfree]
  rfl

namespace DbRing

/-! ## The invariant -/

/-- The dwords taken up by the pending messages. -/
def used (q : DbRing) : Nat := Ring.total msgSize (q.pending.map Prod.snd)

/-- There is room for `m` behind the pending messages, and the sender works at the write index. -/
def HasRoom (q : DbRing) (m : List (BitVec 32)) (wptr : BitVec 32) : Prop :=
  wptr = q.writeIdx ∧ q.used + msgSize m < q.queueSize.toNat

/-- The dwords of `m` from number `lo` on stand where the consumer will look for them. -/
def Placed (q : DbRing) (m : List (BitVec 32)) (lo : Nat) : Prop :=
  ∀ k, lo ≤ k → ∀ hk : k < m.length,
    q.body (Ring.slot q.queueSize.toNat q.writeIdx.toNat k) = m[k]

/-- What the sender has achieved in each phase. -/
def SenderInv (q : DbRing) : Sender → Prop
  | .idle => True
  | .waiting m => msgSize m.dwords < q.queueSize.toNat
  | .granted m wptr => q.HasRoom m.dwords wptr
  | .wrapped m wptr =>
    q.HasRoom m.dwords wptr ∧ q.Placed m.dwords (q.moveDwords m.dwords wptr).toNat
  | .copied m wptr => q.HasRoom m.dwords wptr ∧ q.Placed m.dwords 0

/-- The ring holds the pending messages from the read index up to the write index. -/
structure Inv (q : DbRing) : Prop where
  size_le : q.queueSize.toNat ≤ 2 ^ 30
  read_lt : q.readIdx.toNat < q.queueSize.toNat
  write_eq : q.writeIdx.toNat = Ring.slot q.queueSize.toNat q.readIdx.toNat q.used
  used_lt : q.used < q.queueSize.toNat
  records : Ring.Records q.queueSize.toNat msgSize q.body q.readIdx.toNat q.pending
  nonempty : ∀ im ∈ q.pending, im.2 ≠ []
  inside : q.outside = false
  intact : q.overwrote = false
  sender : q.SenderInv q.sender

variable {q q' : DbRing}

theorem Inv.size_pos (h : Inv q) : 0 < q.queueSize.toNat :=
  Nat.lt_of_le_of_lt (Nat.zero_le _) h.read_lt

theorem Inv.write_lt (h : Inv q) : q.writeIdx.toNat < q.queueSize.toNat := by
  rw [h.write_eq]
  exact Ring.slot_lt h.size_pos _ _

theorem Inv.used_eq (h : Inv q) :
    Ring.used q.queueSize.toNat q.readIdx.toNat q.writeIdx.toNat = q.used := by
  rw [h.write_eq, Ring.used_slot h.read_lt h.used_lt]

/-- Both functions compute the free space. -/
theorem Inv.free_eq (h : Inv q) : q.free.toNat = q.queueSize.toNat - q.used - 1 := by
  have hfree : q.free = freedwords q.queueSize q.writeIdx q.readIdx := by
    unfold free
    cases q.kind <;> rfl
  have hsize := h.size_le
  rw [hfree, toNat_freedwords (by omega) h.read_lt h.write_lt, h.used_eq]

/-- A wait that ends well has found enough free dwords; a message never has size 0. -/
theorem Inv.room (h : Inv q) {m : DbMsg} {hardResetReq : Bool}
    (hm : msgSize m.dwords < q.queueSize.toNat)
    (hwait : q.waitFreewords (align4 (msgDwords m.dwords)) hardResetReq = true) :
    q.used + msgSize m.dwords < q.queueSize.toNat := by
  have hsize := h.size_le
  have hfree := h.free_eq
  have halign := toNat_align4_msgDwords (m := m.dwords) (by omega)
  have hpos : 0 < msgSize m.dwords := by
    have := List.length_pos_iff.2 m.nonempty
    have := length_le_msgSize m.dwords
    omega
  have hle : align4 (msgDwords m.dwords) ≤ q.free := by
    unfold waitFreewords dbQueueWaitFreewords dbcqQueueWaitFreewords at hwait
    unfold free
    cases hkind : q.kind with
    | dbq =>
        simp only [hkind, Bool.or_eq_true, Bool.and_eq_true, decide_eq_true_eq, beq_iff_eq] at hwait ⊢
        rcases hwait with hzero | ⟨-, hle⟩
        · rw [hzero, BitVec.toNat_ofNat] at halign
          omega
        · exact hle
    | dbcq => simpa only [hkind, decide_eq_true_eq] using hwait
  rw [BitVec.le_def, halign, hfree] at hle
  have := h.used_lt
  omega

/-! ## Copying -/

/-- A slot of a pending message, counted from the write index, lies behind every slot that a message
    with room can take. -/
theorem slot_pending (h : Inv q) (j : Nat) :
    Ring.slot q.queueSize.toNat q.readIdx.toNat j =
      Ring.slot q.queueSize.toNat q.writeIdx.toNat (q.queueSize.toNat - q.used + j) := by
  have hlt := h.used_lt
  rw [h.write_eq, Ring.slot_slot, show q.used + (q.queueSize.toNat - q.used + j)
    = j + q.queueSize.toNat by omega]
  unfold Ring.slot
  rw [← Nat.add_assoc, Nat.add_mod_right]

/-- One `memcpy` of a part of the message to its place: the pending messages stay, no dword is
    written outside of the ring or over an unread one. -/
theorem Inv.put (h : Inv q) (lo : Nat) (xs : List (BitVec 32))
    (hroom : q.used + (lo + xs.length) < q.queueSize.toNat) {d : Nat}
    (hd : d = Ring.slot q.queueSize.toNat q.writeIdx.toNat lo)
    (hfit : d + xs.length ≤ q.queueSize.toNat) :
    Ring.Records q.queueSize.toNat msgSize (Ring.put q.body d xs) q.readIdx.toNat q.pending ∧
      decide (xs ≠ [] ∧ q.queueSize.toNat < d + xs.length) = false ∧
      ((List.range xs.length).any fun k =>
        d + k < q.queueSize.toNat ∧ Ring.used q.queueSize.toNat q.readIdx.toNat (d + k) <
          Ring.used q.queueSize.toNat q.readIdx.toNat q.writeIdx.toNat) = false := by
  refine ⟨h.records.congr length_le_msgSize ?_, ?_, ?_⟩
  · intro j hj
    have hj' : j < q.used := hj
    rw [slot_pending h j, hd]
    exact Ring.put_slot_outside h.write_lt (by omega) (by omega) (.inr (by omega))
  · rw [decide_eq_false_iff_not]
    omega
  · rw [List.any_eq_false]
    intro k hk hbad
    have hk' := List.mem_range.1 hk
    obtain ⟨-, hlt⟩ := of_decide_eq_true hbad
    -- dword `k` of the block is dword `lo + k` behind the pending messages
    have hslot : d + k =
        Ring.slot q.queueSize.toNat q.readIdx.toNat (q.used + (lo + k)) := by
      rw [← Ring.slot_slot, ← h.write_eq, Ring.slot_add (by omega), hd]
    rw [hslot, Ring.used_slot h.read_lt (by omega), h.used_eq] at hlt
    omega

/-- Where the copy is split, in plain numbers. -/
theorem moveDwords_eq (h : Inv q) {m : List (BitVec 32)} {wptr : BitVec 32}
    (hroom : q.HasRoom m wptr) :
    (q.queueSize ≤ msgDwords m + wptr ↔ q.queueSize.toNat ≤ m.length + q.writeIdx.toNat) ∧
      (q.moveDwords m wptr).toNat =
        if q.queueSize.toNat ≤ m.length + q.writeIdx.toNat then
          q.queueSize.toNat - q.writeIdx.toNat else m.length := by
  obtain ⟨rfl, hroom⟩ := hroom
  have hsize := h.size_le
  have hlen := length_le_msgSize m
  have hw := h.write_lt
  have hm := toNat_msgDwords (m := m) (by omega)
  have hiff : q.queueSize ≤ msgDwords m + q.writeIdx ↔
      q.queueSize.toNat ≤ m.length + q.writeIdx.toNat := by
    rw [BitVec.le_def, BitVec.toNat_add, hm, Nat.mod_eq_of_lt (by omega)]
  refine ⟨hiff, ?_⟩
  unfold moveDwords
  by_cases hwrap : q.queueSize.toNat ≤ m.length + q.writeIdx.toNat
  · rw [if_pos (hiff.2 hwrap), if_pos hwrap,
      BitVec.toNat_sub_of_le (by rw [BitVec.le_def]; omega)]
  · rw [if_neg (fun hc => hwrap (hiff.1 hc)), if_neg hwrap, hm]

/-- A `memcpy` of dwords `lo` to `lo + count` of the message to where they belong. -/
theorem Inv.memcpy (h : Inv q) {m : DbMsg} (lo count : Nat) (dst src len : BitVec 32)
    (hroom : q.HasRoom m.dwords q.writeIdx) (hcount : lo + count ≤ m.dwords.length)
    (hdst : dst.toNat / 4 = Ring.slot q.queueSize.toNat q.writeIdx.toNat lo)
    (hsrc : src.toNat / 4 = lo) (hlen : len.toNat / 4 = count)
    (hfit : Ring.slot q.queueSize.toNat q.writeIdx.toNat lo + count ≤ q.queueSize.toNat)
    (hrest : q.Placed m.dwords (lo + count)) :
    Inv { q.memcpy dst m.dwords src len with sender := .idle } ∧
      Placed (q.memcpy dst m.dwords src len) m.dwords lo := by
  obtain ⟨-, hroom⟩ := hroom
  have hle := length_le_msgSize m.dwords
  have hxs : ((m.dwords.drop lo).take count).length = count := by
    rw [List.length_take, List.length_drop]
    omega
  obtain ⟨hrecords, hinside, hintact⟩ := h.put lo ((m.dwords.drop lo).take count)
    (by omega) rfl (by omega)
  refine ⟨?_, ?_⟩
  · unfold DbRing.memcpy
    rw [hdst, hsrc, hlen]
    refine { h with records := hrecords, inside := ?_, intact := ?_, sender := trivial }
    · show (q.outside || _) = false
      rw [h.inside, Bool.false_or]
      exact hinside
    · show (q.overwrote || _) = false
      rw [h.intact, Bool.false_or]
      exact hintact
  · intro k hlo hk
    show Ring.put q.body (dst.toNat / 4) ((m.dwords.drop (src.toNat / 4)).take (len.toNat / 4))
      (Ring.slot q.queueSize.toNat q.writeIdx.toNat k) = m.dwords[k]
    rw [hdst, hsrc, hlen]
    rcases Nat.lt_or_ge k (lo + count) with hlt | hge
    · obtain ⟨i, rfl⟩ : ∃ i, k = lo + i := ⟨k - lo, by omega⟩
      rw [Ring.put_slot_inside (by omega) (by omega), List.getElem_take,
        List.getElem_drop]
    · rw [Ring.put_slot_outside h.write_lt (by omega) (by omega) (.inr (by omega))]
      exact hrest k hge hk

/-! ## Steps -/

theorem Inv.copyResid (h : Inv q) {m : DbMsg} {wptr : BitVec 32} (hroom : q.HasRoom m.dwords wptr) :
    Inv { q.copyResid m.dwords wptr with sender := .wrapped m wptr } := by
  obtain ⟨hiff, hmove⟩ := moveDwords_eq h hroom
  have hsize := h.size_le
  have hlen := length_le_msgSize m.dwords
  have hw := h.write_lt
  have hlt : msgSize m.dwords < q.queueSize.toNat := by
    have := hroom.2
    omega
  have hm := toNat_msgDwords (m := m.dwords) (by omega)
  unfold DbRing.copyResid
  by_cases hwrap : q.queueSize.toNat ≤ m.dwords.length + q.writeIdx.toNat
  · rw [if_pos (hiff.2 hwrap)]
    rw [if_pos hwrap] at hmove
    -- the message is shorter than the ring, so the write index is not 0 here
    have hrest : (msgDwords m.dwords - q.moveDwords m.dwords wptr).toNat =
        m.dwords.length - (q.queueSize.toNat - q.writeIdx.toNat) := by
      rw [BitVec.toNat_sub_of_le (by rw [BitVec.le_def, hm, hmove]; omega), hm, hmove]
    have hstart : Ring.slot q.queueSize.toNat q.writeIdx.toNat
        (q.queueSize.toNat - q.writeIdx.toNat) = 0 := by
      rw [Ring.slot, Nat.add_sub_cancel' (Nat.le_of_lt hw), Nat.mod_self]
    have hroom' : q.HasRoom m.dwords q.writeIdx := ⟨rfl, hroom.2⟩
    have hvacuous : q.Placed m.dwords (q.queueSize.toNat - q.writeIdx.toNat +
        (m.dwords.length - (q.queueSize.toNat - q.writeIdx.toNat))) := by
      intro k hk hk'
      omega
    obtain ⟨hinv, hplaced⟩ := h.memcpy (q.queueSize.toNat - q.writeIdx.toNat)
      (m.dwords.length - (q.queueSize.toNat - q.writeIdx.toNat)) 0#32
      (q.moveDwords m.dwords wptr <<< 2)
      ((msgDwords m.dwords - q.moveDwords m.dwords wptr) <<< 2) hroom' (by omega)
      (by rw [hstart]; rfl) (by rw [toNat_shift_two (by omega), hmove])
      (by rw [toNat_shift_two (by omega), hrest]) (by rw [hstart]; omega) hvacuous
    rw [← hmove] at hplaced
    exact { hinv with sender := ⟨hroom, hplaced⟩ }
  · rw [if_neg (fun hc => hwrap (hiff.1 hc))]
    rw [if_neg hwrap] at hmove
    refine { h with sender := ⟨hroom, ?_⟩ }
    intro k hk hk'
    have hk'' : m.dwords.length ≤ k := hmove ▸ hk
    omega

theorem Inv.copyMove (h : Inv q) {m : DbMsg} {wptr : BitVec 32}
    (hsender : q.sender = .wrapped m wptr) :
    Inv { q.copyMove m.dwords wptr with sender := .copied m wptr } := by
  have hinv := h.sender
  rw [hsender] at hinv
  obtain ⟨hroom, hplaced⟩ := hinv
  obtain ⟨-, hmove⟩ := moveDwords_eq h hroom
  have hsize := h.size_le
  -- the first part ends with the message or with the ring
  have hlen := length_le_msgSize m.dwords
  have hw := h.write_lt
  have hlt : msgSize m.dwords < q.queueSize.toNat := by
    have := hroom.2
    omega
  have hwptr : wptr = q.writeIdx := hroom.1
  have hle : (q.moveDwords m.dwords wptr).toNat ≤ m.dwords.length ∧
      q.writeIdx.toNat + (q.moveDwords m.dwords wptr).toNat ≤ q.queueSize.toNat := by
    rw [hmove]
    split <;> omega
  have hslot := Ring.slot_zero hw
  rw [← Nat.zero_add (q.moveDwords m.dwords wptr).toNat] at hplaced
  obtain ⟨hinv, hall⟩ := h.memcpy 0 (q.moveDwords m.dwords wptr).toNat (wptr <<< 2) 0#32
    (q.moveDwords m.dwords wptr <<< 2) ⟨rfl, hroom.2⟩ (by omega)
    (by rw [toNat_shift_two (by rw [hwptr]; omega), hslot, hwptr]) rfl
    (toNat_shift_two (by omega)) (by rw [hslot]; exact hle.2) hplaced
  exact { hinv with sender := ⟨hroom, hall⟩ }

theorem Inv.publish (h : Inv q) {m : DbMsg} {wptr : BitVec 32}
    (hsender : q.sender = .copied m wptr) :
    Inv { q with
      writeIdx := q.nextIdx wptr m.dwords
      sender := .idle
      pending := q.pending ++ [(wptr.toNat, m.dwords)]
      sent := q.sent ++ [m.dwords] } := by
  have hinv := h.sender
  rw [hsender] at hinv
  obtain ⟨⟨hwptr, hroom⟩, hplaced⟩ := hinv
  have hsize := h.size_le
  have hw := h.write_lt
  have hnext : (q.nextIdx wptr m.dwords).toNat =
      Ring.slot q.queueSize.toNat q.writeIdx.toNat (msgSize m.dwords) := by
    rw [nextIdx, BitVec.toNat_umod, BitVec.toNat_add, toNat_align4_msgDwords (by omega), hwptr]
    rw [Nat.mod_eq_of_lt (b := 2 ^ 32) (by omega)]
    rfl
  have hread : Ring.slice q.queueSize.toNat q.body q.writeIdx.toNat m.dwords.length = m.dwords := by
    apply List.ext_getElem
    · rw [Ring.length_slice]
    · intro k hk hk'
      simp only [Ring.slice, List.getElem_map, List.getElem_range]
      exact hplaced k (Nat.zero_le k) hk'
  have hused : Ring.total msgSize ((q.pending ++ [(wptr.toNat, m.dwords)]).map Prod.snd) =
      q.used + msgSize m.dwords := by
    simp [used, Ring.total_append]
  refine { h with write_eq := ?_, used_lt := ?_, records := ?_, nonempty := ?_, sender := trivial }
  · show (q.nextIdx wptr m.dwords).toNat = Ring.slot _ _ (Ring.total msgSize _)
    rw [hnext, hused, h.write_eq, Ring.slot_slot]
  · show Ring.total msgSize _ < q.queueSize.toNat
    rw [hused]
    exact hroom
  · have hwrite : q.writeIdx.toNat = Ring.slot q.queueSize.toNat q.readIdx.toNat
        (Ring.total msgSize (q.pending.map Prod.snd)) := h.write_eq
    rw [hwptr, hwrite]
    refine h.records.append h.read_lt ?_
    rw [← hwrite]
    exact hread
  · intro im him
    rcases List.mem_append.1 him with hold | hnew
    · exact h.nonempty im hold
    · rw [List.mem_singleton.1 hnew]
      exact m.nonempty

/-- The consumer reads the message that was sent, and frees its dwords only. -/
theorem Inv.consume (h : Inv q) {i : Nat} {m : List (BitVec 32)}
    {rest : List (Nat × List (BitVec 32))} (hpending : q.pending = (i, m) :: rest) :
    Ring.slice q.queueSize.toNat q.body q.readIdx.toNat m.length = m ∧
    Inv { q with
      readIdx := q.nextIdx q.readIdx m
      pending := rest
      received := q.received ++
        [Ring.slice q.queueSize.toNat q.body q.readIdx.toNat m.length] } := by
  have hsize := h.size_le
  have hr := h.read_lt
  have hlt := h.used_lt
  have hused : q.used = msgSize m + Ring.total msgSize (rest.map Prod.snd) := by
    rw [used, hpending]
    rfl
  have hnext : (q.nextIdx q.readIdx m).toNat =
      Ring.slot q.queueSize.toNat q.readIdx.toNat (msgSize m) := by
    rw [nextIdx, BitVec.toNat_umod, BitVec.toNat_add, toNat_align4_msgDwords (by omega)]
    rw [Nat.mod_eq_of_lt (b := 2 ^ 32) (by omega)]
    rfl
  have hrecords := h.records
  rw [hpending] at hrecords
  obtain ⟨-, hread, hrest⟩ := hrecords
  have hroom : ∀ {m' wptr}, q.HasRoom m' wptr →
      HasRoom { q with
        readIdx := q.nextIdx q.readIdx m
        pending := rest
        received := q.received ++
          [Ring.slice q.queueSize.toNat q.body q.readIdx.toNat m.length] } m' wptr := by
    rintro m' wptr ⟨hwptr, hfits⟩
    refine ⟨hwptr, ?_⟩
    show Ring.total msgSize (rest.map Prod.snd) + msgSize m' < q.queueSize.toNat
    omega
  have hN := h.size_pos
  refine ⟨hread, ?_⟩
  refine { h with
    read_lt := ?_, write_eq := ?_, used_lt := ?_, records := ?_, nonempty := ?_, sender := ?_ }
  · show (q.nextIdx q.readIdx m).toNat < q.queueSize.toNat
    rw [hnext]
    exact Ring.slot_lt hN _ _
  · show q.writeIdx.toNat = Ring.slot _ (q.nextIdx q.readIdx m).toNat
      (Ring.total msgSize (rest.map Prod.snd))
    rw [h.write_eq, hused, hnext, Ring.slot_slot]
  · show Ring.total msgSize (rest.map Prod.snd) < q.queueSize.toNat
    omega
  · show Ring.Records _ msgSize q.body (q.nextIdx q.readIdx m).toNat rest
    rw [hnext]
    exact hrest
  · intro im him
    refine h.nonempty im ?_
    rw [hpending]
    exact List.mem_cons_of_mem _ him
  · have hsender := h.sender
    cases hphase : q.sender with
    | idle => trivial
    | waiting m' =>
        rw [hphase] at hsender
        exact hsender
    | granted m' wptr =>
        rw [hphase] at hsender
        exact hroom hsender
    | wrapped m' wptr =>
        rw [hphase] at hsender
        exact ⟨hroom hsender.1, hsender.2⟩
    | copied m' wptr =>
        rw [hphase] at hsender
        exact ⟨hroom hsender.1, hsender.2⟩

/-! ## Refinement -/

/-- The ring as an unbounded queue: accepted is what was sent, done is what the consumer read. -/
structure Refines (q : DbRing) (a : Fifo.Queue (List (BitVec 32))) : Prop where
  inv : Inv q
  accepted : a.accepted = q.sent
  done : a.done = q.received
  hand : a.hand = []
  waiting : a.waiting = q.pending.map Prod.snd

/-- **Step lemma.** Publishing a message appends it, consuming one takes the first; no other step is
    visible. -/
theorem Refines.step {a : Fifo.Queue (List (BitVec 32))} {act : DbAct} (h : Refines q a)
    (hstep : q.step act = some q') : ∃ a', Fifo.Steps a a' ∧ Refines q' a' := by
  obtain ⟨hinv, hacc, hdone, hhand, hwaiting⟩ := h
  cases act with
  | send m =>
      simp only [DbRing.step] at hstep
      split at hstep
      · split at hstep
        · next hm =>
            obtain rfl := Option.some.inj hstep
            exact ⟨a, .refl, { hinv with sender := hm }, hacc, hdone, hhand, hwaiting⟩
        · cases hstep
      · cases hstep
  | poll hardResetReq =>
      simp only [DbRing.step] at hstep
      split at hstep
      · next m hwait =>
          split at hstep
          · next hready =>
              obtain rfl := Option.some.inj hstep
              have hm := hinv.sender
              rw [hwait] at hm
              exact ⟨a, .refl, { hinv with sender := ⟨rfl, hinv.room hm hready⟩ }, hacc, hdone, hhand,
                hwaiting⟩
          · obtain rfl := Option.some.inj hstep
            exact ⟨a, .refl, hinv, hacc, hdone, hhand, hwaiting⟩
      · cases hstep
  | giveUp =>
      simp only [DbRing.step] at hstep
      split at hstep
      · obtain rfl := Option.some.inj hstep
        exact ⟨a, .refl, { hinv with sender := trivial }, hacc, hdone, hhand, hwaiting⟩
      · cases hstep
  | copyResid =>
      simp only [DbRing.step] at hstep
      split at hstep
      · next m wptr hsender =>
          obtain rfl := Option.some.inj hstep
          have hroom := hinv.sender
          rw [hsender] at hroom
          refine ⟨a, .refl, hinv.copyResid hroom, ?_, ?_, hhand, ?_⟩
          · rw [hacc, DbRing.copyResid]
            split <;> rfl
          · rw [hdone, DbRing.copyResid]
            split <;> rfl
          · rw [hwaiting, DbRing.copyResid]
            split <;> rfl
      · cases hstep
  | copyMove =>
      simp only [DbRing.step] at hstep
      split at hstep
      · next m wptr hsender =>
          obtain rfl := Option.some.inj hstep
          exact ⟨a, .refl, hinv.copyMove hsender, hacc, hdone, hhand, hwaiting⟩
      · cases hstep
  | publish =>
      simp only [DbRing.step] at hstep
      split at hstep
      · next m wptr hsender =>
          obtain rfl := Option.some.inj hstep
          refine ⟨a.append m.dwords, .tail .refl (.append a m.dwords), hinv.publish hsender, ?_, hdone,
            hhand, ?_⟩
          · simp only [Fifo.Queue.append, hacc]
          · simp only [Fifo.Queue.append, hwaiting, List.map_append, List.map_cons, List.map_nil]
      · cases hstep
  | consume =>
      simp only [DbRing.step] at hstep
      split at hstep
      · cases hstep
      · next i m rest hpending =>
          obtain rfl := Option.some.inj hstep
          obtain ⟨hread, hinv'⟩ := hinv.consume hpending
          have hfirst : a.waiting = m :: rest.map Prod.snd := by
            rw [hwaiting, hpending]
            rfl
          refine ⟨_, Fifo.Steps.drop .refl m (rest.map Prod.snd) hhand hfirst, hinv', hacc, ?_, rfl,
            rfl⟩
          simp only [Fifo.Queue.finish, Fifo.Queue.take, hdone, hread]

/-- What the ring promises in a state. -/
structure MessageQueue (q : DbRing) : Prop where
  /-- both functions compute the free space -/
  free : (dbQueueFreedwords (some q)).toNat = q.queueSize.toNat - q.used - 1 ∧
    (dbContextQueueFreedwords q).toNat = q.queueSize.toNat - q.used - 1
  inside : q.outside = false
  intact : q.overwrote = false
  /-- the ring is an unbounded queue of messages: what was read is what was sent, in order -/
  fifo : ∃ a : Fifo.Queue (List (BitVec 32)), Fifo.Steps (.start []) a ∧ a.accepted = q.sent ∧
    a.done = q.received ∧ a.hand = [] ∧ a.waiting = q.pending.map Prod.snd
  /-- every pending message can be read from its old write index -/
  read : ∀ im ∈ q.pending, Ring.slice q.queueSize.toNat q.body im.1 im.2.length = im.2
  empty_iff : q.writeIdx = q.readIdx ↔ q.pending = []

theorem Inv.empty_iff (h : Inv q) : q.writeIdx = q.readIdx ↔ q.pending = [] := by
  have hused := h.used_eq
  have hzero := Ring.used_eq_zero h.read_lt h.write_lt
  constructor
  · intro heq
    rw [hzero.2 (by rw [heq])] at hused
    cases hpending : q.pending with
    | nil => rfl
    | cons im rest =>
        have hpos := List.length_pos_iff.2 (h.nonempty im (by rw [hpending]; exact List.mem_cons_self))
        have hle := length_le_msgSize im.2
        rw [used, hpending, List.map_cons, Ring.total_cons] at hused
        omega
  · intro hnil
    rw [used, hnil] at hused
    exact (BitVec.eq_of_toNat_eq (hzero.1 hused)).symm

/-- **Main result.** From an empty ring of at most 2^30 dwords, with the indices anywhere, and for any
    interleaving of sends and consumption, the ring is a queue of messages. -/
theorem doorbell_ring_is_message_queue (kind : DbKind) (n idx : BitVec 32)
    (body : Nat → BitVec 32) (hn : n.toNat ≤ 2 ^ 30) (hidx : idx < n) (as : List DbAct) (q : DbRing)
    (hrun : Trace.exec DbRing.step (.empty kind n idx body) as = some q) : MessageQueue q := by
  have hstart : Refines (.empty kind n idx body) (.start []) := by
    have hlt : idx.toNat < n.toNat := hidx
    refine ⟨⟨hn, hlt, (Ring.slot_zero hlt).symm, ?_, trivial, nofun, rfl, rfl, trivial⟩, rfl, rfl, rfl,
      rfl⟩
    exact Nat.lt_of_le_of_lt (Nat.zero_le _) hlt
  obtain ⟨a, hsteps, hinv, hacc, hdone, hhand, hwaiting⟩ :=
    Trace.exec_refines (fun q act q' a h hstep => Refines.step h hstep) hstart hrun
  have hsize := hinv.size_le
  have hfree := toNat_freedwords (by omega) hinv.read_lt hinv.write_lt
  rw [hinv.used_eq] at hfree
  exact ⟨⟨hfree, hfree⟩, hinv.inside, hinv.intact, ⟨a, hsteps, hacc, hdone, hhand, hwaiting⟩,
    fun im him => hinv.records.read him, hinv.empty_iff⟩

/-- A message of the length of an empty submission. -/
def headerMsg : DbMsg := { dwords := List.replicate 8 7#32, nonempty := by decide }

/-- Two messages in a ring of 18 dwords, the second one over its end, while the first is consumed. -/
theorem doorbell_ring_is_message_queue_wrapped : ∃ q,
    Trace.exec DbRing.step (.empty .dbcq 18#32 5#32 fun _ => 0#32)
        [.send headerMsg, .poll false, .copyResid, .copyMove, .publish, .send headerMsg, .poll false,
          .copyResid, .consume, .copyMove, .publish] = some q ∧
      q.writeIdx = 3#32 ∧ q.readIdx = 13#32 ∧ MessageQueue q := by
  have heval : (Trace.exec DbRing.step (.empty .dbcq 18#32 5#32 fun _ => 0#32)
      [.send headerMsg, .poll false, .copyResid, .copyMove, .publish, .send headerMsg, .poll false,
        .copyResid, .consume, .copyMove, .publish]).map (fun q => (q.writeIdx, q.readIdx)) =
      some (3#32, 13#32) := by
    decide +kernel
  obtain ⟨q, hq, heq⟩ := Option.map_eq_some_iff.1 heval
  obtain ⟨hw, hr⟩ := Prod.mk.inj heq
  exact ⟨q, hq, hw, hr, doorbell_ring_is_message_queue _ _ _ _ (by decide) (by decide) _ q hq⟩

/-- On a larger ring the byte offset of the write index does not fit into 32 bits: the message is
    written to the start of the ring and the consumer reads something else. -/
theorem doorbell_ring_loses_message : ∃ q ∈
    Trace.exec DbRing.step (.empty .dbcq 0x40000010#32 0x40000000#32 fun _ => 0#32)
      [.send headerMsg, .poll false, .copyResid, .copyMove, .publish, .consume],
    (0x40000000#32 : BitVec 32) < 0x40000010#32 ∧ (0x40000010#32).toNat < 2 ^ 31 ∧
      q.sent = [headerMsg.dwords] ∧ q.received = [List.replicate 8 0#32] := by
  decide +kernel

end DbRing

end Hgsl
