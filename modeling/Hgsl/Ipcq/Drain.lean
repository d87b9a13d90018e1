import Hgsl.Ipcq.Queue

set_option autoImplicit false

/-! # Draining the queue

With indices that the driver keeps aligned, one turn of the loop is a step around the ring: a message of `s`
dwords is taken if `s` dwords are there, and the read index moves by `s` rounded up. A queue of whole messages
is delivered exactly. Whatever the other side wrote, the loop ends and stays within what was there when it
started, unless a message fits before the write index only because its length is not rounded. -/

namespace Hgsl

/-- The dwords of the ring that a message takes up. -/
def ipcqMsgSize (m : List (BitVec 32)) : Nat := align4Nat m.length

/-- The size field of a message tells its length. -/
def Framed (m : List (BitVec 32)) : Prop := m ≠ [] ∧ m.length = (msgSizeDword (m.headD 0#32)).toNat

/-- What the driver keeps of its copy of the header: sizes and indices come in steps of four dwords, and byte
    offsets into the ring fit into 32 bits. -/
structure HfiQueueHeader.Wf (h : HfiQueueHeader) : Prop where
  size_le : h.dwSize.toNat ≤ 2 ^ 30
  size_dvd : 4 ∣ h.dwSize.toNat
  read_dvd : 4 ∣ h.readIdx.toNat
  read_lt : h.readIdx.toNat < h.dwSize.toNat

namespace HfiQueueHeader

/-- The dwords from the read index to the write index. -/
def there (h : HfiQueueHeader) : Nat := Ring.used h.dwSize.toNat h.readIdx.toNat h.writeIdx.toNat

/-- The length of the message at the read index, by its size field. -/
def msgLength (h : HfiQueueHeader) (ring : Nat → BitVec 32) : Nat :=
  (msgSizeDword (ring h.readIdx.toNat)).toNat

/-- The message at the read index. -/
def message (h : HfiQueueHeader) (ring : Nat → BitVec 32) : List (BitVec 32) :=
  Ring.slice h.dwSize.toNat ring h.readIdx.toNat (h.msgLength ring)

end HfiQueueHeader

/-! ## Arithmetic -/

theorem toNat_alignDwordAddress4Dword {x : BitVec 32} (hx : x.toNat ≤ 2 ^ 31) :
    (alignDwordAddress4Dword x).toNat = align4Nat x.toNat := by
  unfold alignDwordAddress4Dword align4Nat
  rw [BitVec.toNat_ofNat, Nat.mod_eq_of_lt (by omega)]

theorem align4Nat_align4Nat (n : Nat) : align4Nat (align4Nat n) = align4Nat n := by
  unfold align4Nat
  omega

theorem le_align4Nat (n : Nat) : n ≤ align4Nat n := by
  unfold align4Nat
  omega

theorem align4Nat_pos {n : Nat} (h : 1 ≤ n) : 4 ≤ align4Nat n := by
  unfold align4Nat
  omega

theorem dvd_align4Nat (n : Nat) : 4 ∣ align4Nat n := ⟨(n + 3) / 4, Nat.mul_comm _ _⟩

theorem align4Nat_le_of_dvd {n k : Nat} (hk : 4 ∣ k) (h : n ≤ k) : align4Nat n ≤ k := by
  unfold align4Nat
  omega

theorem align4Nat_le_256 {n : Nat} (h : n ≤ 255) : align4Nat n ≤ 256 := by
  unfold align4Nat
  omega

section Header

variable {ring : Nat → BitVec 32} {h : HfiQueueHeader}

@[simp] theorem length_message : (h.message ring).length = h.msgLength ring := Ring.length_slice ..

theorem ipcqMsgSize_message : ipcqMsgSize (h.message ring) = align4Nat (h.msgLength ring) := by
  rw [ipcqMsgSize, length_message]

variable (hwf : h.Wf)
include hwf

theorem HfiQueueHeader.Wf.size_pos : 0 < h.dwSize.toNat := Nat.lt_of_le_of_lt (Nat.zero_le _) hwf.read_lt

theorem HfiQueueHeader.Wf.read_lt_size : h.readIdx < h.dwSize := BitVec.lt_def.2 hwf.read_lt

theorem HfiQueueHeader.Wf.dwordAt_eq : dwordAt h.readIdx = h.readIdx.toNat := by
  have hsize := hwf.size_le
  have hread := hwf.read_lt
  unfold dwordAt
  rw [BitVec.toNat_mul, BitVec.toNat_ofNat]
  omega

theorem HfiQueueHeader.Wf.occupancy_eq (hwrite : h.writeIdx.toNat < h.dwSize.toNat) :
    (hgslGetQueueOccupancy h).toNat = h.there := by
  have hsize := hwf.size_le
  have hread := hwf.read_lt
  unfold hgslGetQueueOccupancy HfiQueueHeader.there Ring.used
  rw [BitVec.toNat_umod, BitVec.toNat_sub, BitVec.toNat_add]
  congr 1
  omega

theorem HfiQueueHeader.Wf.newIdx_eq {n : BitVec 32} (hn : n.toNat ≤ 255) :
    (hgslNewIdx h h.readIdx (alignDwordAddress4Dword n)).toNat =
      Ring.slot h.dwSize.toNat h.readIdx.toNat (align4Nat n.toNat) := by
  have hsize := hwf.size_le
  have hread := hwf.read_lt
  have hle := align4Nat_le_256 hn
  have hinner : (alignDwordAddress4Dword n).toNat = align4Nat n.toNat := toNat_alignDwordAddress4Dword (by omega)
  have houter : (alignDwordAddress4Dword (alignDwordAddress4Dword n)).toNat = align4Nat n.toNat := by
    rw [toNat_alignDwordAddress4Dword (by omega), hinner, align4Nat_align4Nat]
  have hsum : h.readIdx.toNat + align4Nat n.toNat < 2 ^ 32 := by omega
  unfold hgslNewIdx Ring.slot
  rw [BitVec.toNat_umod, BitVec.toNat_add, houter, Nat.mod_eq_of_lt hsum]

/-- The two parts of the copy are the slots of the message, read around the ring. -/
theorem HfiQueueHeader.Wf.copyMsg_eq {n : BitVec 32} (hn : n.toNat < h.dwSize.toNat) :
    hgslIpcqCopyMsg h n = (List.range n.toNat).map (Ring.slot h.dwSize.toNat h.readIdx.toNat) := by
  have hread := hwf.read_lt
  have hroom : (h.dwSize - h.readIdx).toNat = h.dwSize.toNat - h.readIdx.toNat :=
    BitVec.toNat_sub_of_le (BitVec.le_of_lt hwf.read_lt_size)
  unfold hgslIpcqCopyMsg
  rw [hwf.dwordAt_eq]
  split
  · next hlt =>
      have hlt' := BitVec.lt_def.1 hlt
      simp only [BitVec.lt_irrefl, if_false, List.append_nil]
      apply List.map_congr_left
      intro k hk
      have := List.mem_range.1 hk
      rw [Ring.slot_eq hread (by omega), if_pos (by omega)]
  · next hge =>
      have hle := BitVec.not_lt.1 hge
      have hle' := BitVec.le_def.1 hle
      have hrest : (n - (h.dwSize - h.readIdx)).toNat = n.toNat - (h.dwSize.toNat - h.readIdx.toNat) := by
        rw [BitVec.toNat_sub_of_le hle, hroom]
      have hsplit : n.toNat = h.dwSize.toNat - h.readIdx.toNat + (n.toNat - (h.dwSize.toNat - h.readIdx.toNat)) := by
        omega
      have hsecond : (if h.dwSize - h.readIdx < n then List.range (n - (h.dwSize - h.readIdx)).toNat else []) =
          List.range (n.toNat - (h.dwSize.toNat - h.readIdx.toNat)) := by
        split
        · rw [hrest]
        · next hnot =>
            have := BitVec.le_def.1 (BitVec.not_lt.1 hnot)
            rw [show n.toNat - (h.dwSize.toNat - h.readIdx.toNat) = 0 by omega, List.range_zero]
      dsimp only
      rw [hsecond, hroom]
      conv_rhs => rw [hsplit, List.range_add, List.map_append, List.map_map]
      congr 1
      · apply List.map_congr_left
        intro k hk
        have := List.mem_range.1 hk
        rw [Ring.slot_eq hread (by omega), if_pos (by omega)]
      · conv_lhs => rw [← List.map_id (List.range _)]
        apply List.map_congr_left
        intro k hk
        have := List.mem_range.1 hk
        rw [Function.comp_apply, Ring.slot_eq hread (by omega), if_neg (by omega), id_eq]
        omega

/-! ## One message -/

/-- A message whose size field fits is read, and the read index moves behind it. -/
theorem HfiQueueHeader.Wf.readMsg_of_fits (hwrite : h.writeIdx.toNat < h.dwSize.toNat)
    (hfits : 1 ≤ h.msgLength ring ∧ h.msgLength ring ≤ h.there) :
    ∃ readIdx : BitVec 32, readIdx.toNat = Ring.slot h.dwSize.toNat h.readIdx.toNat (align4Nat (h.msgLength ring)) ∧
      (hgslReadMsgFromIpcq ring ring h).ret = 0 ∧
      (hgslReadMsgFromIpcq ring ring h).msgBuffer = h.message ring ∧
      (hgslReadMsgFromIpcq ring ring h).header = { h with readIdx := readIdx } ∧
      (hgslReadMsgFromIpcq ring ring h).storedReadIdx = some readIdx := by
  have hrange : ¬ (h.dwSize ≤ h.readIdx ∨ h.dwSize ≤ h.writeIdx) := by
    rw [BitVec.le_def, BitVec.le_def]
    have := hwf.read_lt
    omega
  have hlength : (msgSizeDword (ring h.readIdx.toNat)).toNat < h.dwSize.toNat :=
    Nat.lt_of_le_of_lt hfits.2 (Ring.used_lt hwf.size_pos _ _)
  refine ⟨_, hwf.newIdx_eq (msgSizeDword_le (ring h.readIdx.toNat)), ?_⟩
  unfold hgslReadMsgFromIpcq
  rw [if_neg hrange, hgslValidateIpcqRead_eq hwf.read_lt_size, hwf.dwordAt_eq, hwf.occupancy_eq hwrite]
  unfold HfiQueueHeader.msgLength at hfits
  rw [if_pos hfits]
  refine ⟨rfl, ?_, rfl, rfl⟩
  dsimp only
  rw [hwf.copyMsg_eq hlength, List.map_map]
  show (h.message ring).set 0 _ = _
  apply List.ext_getElem
  · simp
  · intro k hk hk'
    rw [List.getElem_set]
    split
    · next hzero =>
        subst hzero
        simp [HfiQueueHeader.message, Ring.slice, Ring.slot_zero hwf.read_lt]
    · rfl

/-- Otherwise nothing is read. -/
theorem HfiQueueHeader.Wf.readMsg_of_not_fits
    (hfits : ¬ (h.writeIdx.toNat < h.dwSize.toNat ∧ 1 ≤ h.msgLength ring ∧ h.msgLength ring ≤ h.there)) :
    (hgslReadMsgFromIpcq ring ring h).ret = -EINVAL ∧ (hgslReadMsgFromIpcq ring ring h).header = h := by
  unfold hgslReadMsgFromIpcq
  by_cases hwrite : h.writeIdx.toNat < h.dwSize.toNat
  · have hrange : ¬ (h.dwSize ≤ h.readIdx ∨ h.dwSize ≤ h.writeIdx) := by
      rw [BitVec.le_def, BitVec.le_def]
      have := hwf.read_lt
      omega
    have hfits' : ¬ (1 ≤ h.msgLength ring ∧ h.msgLength ring ≤ h.there) := fun hf => hfits ⟨hwrite, hf⟩
    unfold HfiQueueHeader.msgLength at hfits'
    rw [if_neg hrange, hgslValidateIpcqRead_eq hwf.read_lt_size, hwf.dwordAt_eq, hwf.occupancy_eq hwrite,
      if_neg hfits']
    exact ⟨rfl, rfl⟩
  · have hrange : h.dwSize ≤ h.readIdx ∨ h.dwSize ≤ h.writeIdx := by
      rw [BitVec.le_def, BitVec.le_def]
      omega
    rw [if_pos hrange]
    exact ⟨rfl, rfl⟩

/-! ## One turn -/

/-- A message that fits is handed on; what is there shrinks by its rounded length, if this fits too. -/
theorem HfiQueueHeader.Wf.drain_of_fits (hwrite : h.writeIdx.toNat < h.dwSize.toNat)
    (hfits : 1 ≤ h.msgLength ring ∧ h.msgLength ring ≤ h.there) :
    ∃ h' : HfiQueueHeader, h'.Wf ∧ h'.dwSize = h.dwSize ∧ h'.writeIdx = h.writeIdx ∧
      h'.readIdx.toNat = Ring.slot h.dwSize.toNat h.readIdx.toNat (align4Nat (h.msgLength ring)) ∧
      (∀ k, align4Nat (h.msgLength ring) + k = h.there → h'.there = k) ∧
      ∀ fuel shared, drainIpcq ring (fuel + 1) h shared =
        (drainIpcq ring fuel h' h'.readIdx).map fun d => { d with delivered := h.message ring :: d.delivered } := by
  obtain ⟨readIdx, hreadIdx, hret, hbuffer, hheader, hstored⟩ := hwf.readMsg_of_fits hwrite hfits
  have hpos := hwf.size_pos
  refine ⟨{ h with readIdx := readIdx }, ?_, rfl, rfl, hreadIdx, ?_, ?_⟩
  · refine ⟨hwf.size_le, hwf.size_dvd, ?_, ?_⟩
    · rw [hreadIdx]
      exact (Nat.dvd_mod_iff hwf.size_dvd).2 ((Nat.dvd_add_iff_right hwf.read_dvd).1 (dvd_align4Nat _))
    · rw [hreadIdx]
      exact Ring.slot_lt hpos _ _
  · intro k hk
    have hwriteIdx : Ring.slot h.dwSize.toNat h.readIdx.toNat h.there = h.writeIdx.toNat :=
      Ring.slot_used hwf.read_lt hwrite
    have hthere : h.there < h.dwSize.toNat := Ring.used_lt hpos _ _
    have hk' : k < h.dwSize.toNat := by omega
    unfold HfiQueueHeader.there at hk hwriteIdx ⊢
    rw [hreadIdx, ← hwriteIdx, ← hk, ← Ring.slot_slot]
    exact Ring.used_slot (Ring.slot_lt hpos _ _) hk'
  · intro fuel shared
    have hne : h.readIdx ≠ h.writeIdx := by
      intro heq
      have hzero : h.there = 0 := (Ring.used_eq_zero hwf.read_lt hwrite).2 (by rw [heq])
      omega
    rw [drainIpcq, if_neg hne]
    simp only [hret, hbuffer, hheader, hstored, ne_eq, not_true_eq_false, if_false, Option.getD_some]

/-- Any other message ends the loop. -/
theorem HfiQueueHeader.Wf.drain_of_not_fits (hne : h.readIdx ≠ h.writeIdx)
    (hfits : ¬ (h.writeIdx.toNat < h.dwSize.toNat ∧ 1 ≤ h.msgLength ring ∧ h.msgLength ring ≤ h.there))
    (fuel : Nat) (shared : BitVec 32) :
    drainIpcq ring (fuel + 1) h shared = some ⟨[], h, shared, -EINVAL⟩ := by
  obtain ⟨hret, hheader⟩ := hwf.readMsg_of_not_fits hfits
  rw [drainIpcq, if_neg hne]
  simp only [hret, hheader, ne_eq, show (-EINVAL : Int) ≠ 0 by decide, not_false_eq_true, if_true]

/-- A message that stands at the read index is the one that is read there. -/
theorem HfiQueueHeader.Wf.message_of_framed {m : List (BitVec 32)} (hframed : Framed m)
    (hslice : Ring.slice h.dwSize.toNat ring h.readIdx.toNat m.length = m) :
    h.msgLength ring = m.length ∧ h.message ring = m := by
  obtain ⟨hne, hlength⟩ := hframed
  obtain ⟨x, xs, rfl⟩ := List.exists_cons_of_ne_nil hne
  have hfirst : ring h.readIdx.toNat = x := by
    rw [List.length_cons, Ring.slice_cons ring hwf.read_lt] at hslice
    exact (List.cons.inj hslice).1
  have hmsg : h.msgLength ring = (x :: xs).length := by
    rw [HfiQueueHeader.msgLength, hfirst, hlength]
    rfl
  exact ⟨hmsg, by rw [HfiQueueHeader.message, hmsg, hslice]⟩

end Header

/-! ## A queue of messages -/

section Runs

variable {ring : Nat → BitVec 32} {h : HfiQueueHeader} {ims : List (Nat × List (BitVec 32))}

theorem total_cons_ims (im : Nat × List (BitVec 32)) (ims : List (Nat × List (BitVec 32))) :
    Ring.total ipcqMsgSize ((im :: ims).map Prod.snd) =
      align4Nat im.2.length + Ring.total ipcqMsgSize (ims.map Prod.snd) := rfl

/-- The first of some messages in the queue fits, and behind it are the others. -/
theorem HfiQueueHeader.Wf.drain_of_records {im : Nat × List (BitVec 32)} (hwf : h.Wf)
    (hwrite : h.writeIdx.toNat < h.dwSize.toNat) (hframed : Framed im.2)
    (hrecords : Ring.Records h.dwSize.toNat ipcqMsgSize ring h.readIdx.toNat (im :: ims))
    {k : Nat} (hthere : align4Nat im.2.length + k = h.there) :
    ∃ h' : HfiQueueHeader, h'.Wf ∧ h'.dwSize = h.dwSize ∧ h'.writeIdx = h.writeIdx ∧ h'.there = k ∧
      h'.readIdx.toNat = Ring.slot h.dwSize.toNat h.readIdx.toNat (align4Nat im.2.length) ∧
      Ring.Records h'.dwSize.toNat ipcqMsgSize ring h'.readIdx.toNat ims ∧
      ∀ fuel shared, drainIpcq ring (fuel + 1) h shared =
        (drainIpcq ring fuel h' h'.readIdx).map fun d => { d with delivered := im.2 :: d.delivered } := by
  obtain ⟨-, hslice, hrest⟩ := hrecords
  obtain ⟨hlength, hmessage⟩ := hwf.message_of_framed hframed hslice
  have hpos : 1 ≤ im.2.length := List.length_pos_iff.2 hframed.1
  have hle := le_align4Nat im.2.length
  have hfits : 1 ≤ h.msgLength ring ∧ h.msgLength ring ≤ h.there := by omega
  obtain ⟨h', hwf', hsize, hwriteIdx, hreadIdx, hthere', hdrain⟩ := hwf.drain_of_fits hwrite hfits
  rw [hlength] at hreadIdx hthere'
  rw [hmessage] at hdrain
  refine ⟨h', hwf', hsize, hwriteIdx, hthere' k hthere, hreadIdx, ?_, hdrain⟩
  rw [hsize, hreadIdx]
  exact hrest

/-- A queue of whole messages is delivered, and the indices meet. -/
theorem HfiQueueHeader.Wf.drain_records (hwf : h.Wf) (hwrite : h.writeIdx.toNat < h.dwSize.toNat)
    (hframed : ∀ im ∈ ims, Framed im.2)
    (hrecords : Ring.Records h.dwSize.toNat ipcqMsgSize ring h.readIdx.toNat ims)
    (hthere : Ring.total ipcqMsgSize (ims.map Prod.snd) = h.there) {fuel : Nat} (hfuel : ims.length < fuel)
    (shared : BitVec 32) :
    drainIpcq ring fuel h shared =
      some ⟨ims.map Prod.snd, { h with readIdx := h.writeIdx }, if ims = [] then shared else h.writeIdx, 0⟩ := by
  induction ims generalizing h fuel shared with
  | nil =>
      have heq : h.readIdx = h.writeIdx :=
        BitVec.eq_of_toNat_eq ((Ring.used_eq_zero hwf.read_lt hwrite).1 hthere.symm)
      obtain ⟨fuel, rfl⟩ : ∃ n, fuel = n + 1 := ⟨fuel - 1, by omega⟩
      rw [drainIpcq, if_pos heq]
      obtain ⟨dwSize, readIdx, writeIdx⟩ := h
      obtain rfl : readIdx = writeIdx := heq
      simp
  | cons im ims ih =>
      obtain ⟨fuel, rfl⟩ : ∃ n, fuel = n + 1 := ⟨fuel - 1, by omega⟩
      rw [total_cons_ims] at hthere
      obtain ⟨h', hwf', hsize, hwriteIdx, hthere', -, hrecords', hdrain⟩ :=
        hwf.drain_of_records hwrite (hframed im (List.mem_cons_self ..)) hrecords hthere
      rw [hdrain, ih hwf' (by rw [hsize, hwriteIdx]; exact hwrite)
        (fun im' him' => hframed im' (List.mem_cons_of_mem _ him')) hrecords' hthere'.symm
        (by simpa using hfuel) h'.readIdx]
      have hend : ims = [] → h'.readIdx = h.writeIdx := by
        rintro rfl
        rw [← hwriteIdx]
        apply BitVec.eq_of_toNat_eq
        exact (Ring.used_eq_zero hwf'.read_lt (by rw [hsize, hwriteIdx]; exact hwrite)).1 hthere'
      simp only [Option.map_some, List.map_cons, hwriteIdx, reduceCtorEq, if_false]
      congr 2
      · rw [← hsize, ← hwriteIdx]
      · split
        · next hnil => exact hend hnil
        · rfl

end Runs

/-- **Draining.** The messages that the other side has put into the queue, at most a ring full of them, are
    delivered as they are and in order, and the read index ends at the write index. Whatever is in the ring and
    in the header, a read stays inside the ring and the message buffer. -/
theorem ipcq_drain_exact {ring : Nat → BitVec 32} {h : HfiQueueHeader} (hwf : h.Wf)
    {ims : List (Nat × List (BitVec 32))} (hframed : ∀ im ∈ ims, Framed im.2)
    (hrecords : Ring.Records h.dwSize.toNat ipcqMsgSize ring h.readIdx.toNat ims)
    (htotal : Ring.total ipcqMsgSize (ims.map Prod.snd) < h.dwSize.toNat) {writeIdx : BitVec 32}
    (hwriteIdx : writeIdx.toNat =
      Ring.slot h.dwSize.toNat h.readIdx.toNat (Ring.total ipcqMsgSize (ims.map Prod.snd))) :
    (∀ fuel shared, ims.length < fuel → hgslGmugosHandleIpcqMsg ring fuel true h writeIdx shared =
        some ⟨ims.map Prod.snd, { h with readIdx := writeIdx, writeIdx := writeIdx },
          if ims = [] then shared else writeIdx, 0⟩) ∧
      ∀ (content later : Nat → BitVec 32) (header : HfiQueueHeader),
        (∀ i ∈ (hgslReadMsgFromIpcq content later header).reads, i < header.dwSize.toNat) ∧
          (hgslReadMsgFromIpcq content later header).msgBuffer.length ≤ 255 := by
  refine ⟨?_, readMsg_bounds⟩
  intro fuel shared hfuel
  have hwf' : ({ h with writeIdx := writeIdx } : HfiQueueHeader).Wf :=
    ⟨hwf.size_le, hwf.size_dvd, hwf.read_dvd, hwf.read_lt⟩
  have hwrite : writeIdx.toNat < h.dwSize.toNat := by
    rw [hwriteIdx]
    exact Ring.slot_lt hwf.size_pos _ _
  refine hwf'.drain_records hwrite hframed hrecords ?_ hfuel shared
  unfold HfiQueueHeader.there
  dsimp only
  rw [hwriteIdx, Ring.used_slot hwf.read_lt htotal]

/-- A ring of 200 dwords with a message of six dwords that starts at its last four, and two shorter ones behind
    it. -/
def wrappedMessages : Nat → BitVec 32 := fun i =>
  if i = 196 then 0x600#32 else if i = 4 then 0x300#32 else if i = 8 then 0x500#32 else BitVec.ofNat 32 i

/-- The messages with the dwords at which they start -/
def threeMessages : List (Nat × List (BitVec 32)) :=
  [(196, [0x600#32, 197#32, 198#32, 199#32, 0#32, 1#32]), (4, [0x300#32, 5#32, 6#32]),
    (8, [0x500#32, 9#32, 10#32, 11#32, 12#32])]

theorem ipcq_drain_exact_wrapped :
    hgslGmugosHandleIpcqMsg wrappedMessages 4 true ⟨200#32, 196#32, 196#32⟩ 16#32 196#32 =
      some ⟨threeMessages.map Prod.snd, ⟨200#32, 16#32, 16#32⟩, 16#32, 0⟩ := by
  have hwf : HfiQueueHeader.Wf ⟨200#32, 196#32, 196#32⟩ := ⟨by decide, by decide, by decide, by decide⟩
  have hframed : ∀ im ∈ threeMessages, Framed im.2 := by simp [threeMessages, Framed, msgSizeDword]
  have hrecords : Ring.Records 200 ipcqMsgSize wrappedMessages 196 threeMessages :=
    ⟨rfl, by decide, rfl, by decide, rfl, by decide, trivial⟩
  have hwriteIdx : (16#32).toNat =
      Ring.slot 200 196 (Ring.total ipcqMsgSize (threeMessages.map Prod.snd)) := by decide
  have h := ipcq_drain_exact hwf hframed hrecords (by decide) hwriteIdx
  exact h.1 4 196#32 (by decide)

/-- A ring of more than 4 GiB whose last dwords hold a message of one dword. Its byte offset wraps, and the
    message is looked for at the start of the ring. -/
theorem ipcq_offset_wraps :
    let ring : Nat → BitVec 32 := fun i => if i = 2 ^ 30 then 0x100#32 else 0#32
    let dwSize : BitVec 32 := 0x40000004#32
    4 ∣ dwSize.toNat ∧ Framed [0x100#32] ∧
      Ring.Records dwSize.toNat ipcqMsgSize ring (2 ^ 30) [(2 ^ 30, [0x100#32])] ∧
      Ring.slot dwSize.toNat (2 ^ 30) (Ring.total ipcqMsgSize [[0x100#32]]) = 0 ∧
      hgslGmugosHandleIpcqMsg ring 2 true ⟨dwSize, 0x40000000#32, 0x40000000#32⟩ 0#32 0x40000000#32 =
        some ⟨[], ⟨dwSize, 0x40000000#32, 0#32⟩, 0x40000000#32, -EINVAL⟩ := by
  refine ⟨by decide, by simp [Framed, msgSizeDword], ⟨rfl, by decide, trivial⟩, by decide, by decide⟩

end Hgsl
