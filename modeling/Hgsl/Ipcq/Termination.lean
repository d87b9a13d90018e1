import Hgsl.Ipcq.Drain
import Mathlib.Algebra.BigOperators.Ring.List

set_option autoImplicit false

/-! # The end of the drain

The loop ends when the two indices meet, and admits a message by its length without rounding. With a write
index that is not aligned the read index can go past it, and then the loop goes around the ring. -/

namespace Hgsl

/-- The loop ends, and what it takes is at most what was there. -/
def EndsWithin (ring : Nat → BitVec 32) (h : HfiQueueHeader) (shared : BitVec 32) : Prop :=
  ∃ fuel d, drainIpcq ring fuel h shared = some d ∧
    Ring.total ipcqMsgSize d.delivered ≤ (hgslGetQueueOccupancy h).toNat

/-- However many messages are taken from the read index on, the next one, if it fits before the write index,
    fits with its length rounded up. -/
def RoundedFits (ring : Nat → BitVec 32) (h : HfiQueueHeader) : Prop :=
  ∀ ims : List (Nat × List (BitVec 32)), (∀ im ∈ ims, Framed im.2) →
    Ring.Records h.dwSize.toNat ipcqMsgSize ring h.readIdx.toNat ims →
    ∀ size, size = (msgSizeDword (ring (Ring.slot h.dwSize.toNat h.readIdx.toNat
        (Ring.total ipcqMsgSize (ims.map Prod.snd))))).toNat → 1 ≤ size →
      Ring.total ipcqMsgSize (ims.map Prod.snd) + size ≤ h.there →
      Ring.total ipcqMsgSize (ims.map Prod.snd) + align4Nat size ≤ h.there

section

variable {ring : Nat → BitVec 32} {h : HfiQueueHeader}

/-- The message at the read index is one, if its size field fits. -/
theorem framed_message (hwf : h.Wf) (hpos : 1 ≤ h.msgLength ring) : Framed (h.message ring) := by
  obtain ⟨n, hn⟩ : ∃ n, h.msgLength ring = n + 1 := ⟨h.msgLength ring - 1, by omega⟩
  have hcons : h.message ring =
      ring h.readIdx.toNat :: Ring.slice h.dwSize.toNat ring (Ring.slot h.dwSize.toNat h.readIdx.toNat 1) n := by
    rw [HfiQueueHeader.message, hn, Ring.slice_cons ring hwf.read_lt]
  have hlength : (h.message ring).length = h.msgLength ring := length_message
  constructor
  · rw [hcons]
    exact List.cons_ne_nil _ _
  · rw [hlength, hcons]
    rfl

/-- What holds of all messages from the read index on holds of those behind the first one. -/
theorem RoundedFits.next {h' : HfiQueueHeader} (hwf : h.Wf) (hrounded : RoundedFits ring h)
    (hpos : 1 ≤ h.msgLength ring) (hsize : h'.dwSize = h.dwSize)
    (hreadIdx : h'.readIdx.toNat = Ring.slot h.dwSize.toNat h.readIdx.toNat (align4Nat (h.msgLength ring)))
    (hthere : align4Nat (h.msgLength ring) + h'.there = h.there) : RoundedFits ring h' := by
  intro ims hframed hrecords size hsizeEq hone hfits
  have htotal : Ring.total ipcqMsgSize (((h.readIdx.toNat, h.message ring) :: ims).map Prod.snd) =
      align4Nat (h.msgLength ring) + Ring.total ipcqMsgSize (ims.map Prod.snd) := by
    rw [total_cons_ims, length_message]
  rw [hsize, hreadIdx] at hrecords
  rw [hsize, hreadIdx, Ring.slot_slot, ← htotal] at hsizeEq
  have hall := hrounded ((h.readIdx.toNat, h.message ring) :: ims) ?_ ?_ size hsizeEq hone (by omega)
  · omega
  · intro im him
    rcases List.mem_cons.1 him with rfl | him
    · exact framed_message hwf hpos
    · exact hframed im him
  · refine ⟨rfl, ?_, ?_⟩
    · rw [length_message]
      rfl
    · rwa [ipcqMsgSize_message]

/-- If nothing reaches over the write index, every turn brings the read index nearer to it. -/
theorem endsWithin_of_roundedFits (hwrite : h.writeIdx.toNat < h.dwSize.toNat) (hwf : h.Wf)
    (hrounded : RoundedFits ring h) (shared : BitVec 32) :
    ∃ fuel d, drainIpcq ring fuel h shared = some d ∧ Ring.total ipcqMsgSize d.delivered ≤ h.there := by
  -- on the number of dwords that are there
  generalize hn : h.there = n
  induction n using Nat.strong_induction_on generalizing h shared with
  | _ n ih =>
      by_cases heq : h.readIdx = h.writeIdx
      · refine ⟨1, ⟨[], h, shared, 0⟩, ?_, Nat.zero_le n⟩
        rw [drainIpcq, if_pos heq]
      by_cases hfits : 1 ≤ h.msgLength ring ∧ h.msgLength ring ≤ h.there
      · have hfirst : align4Nat (h.msgLength ring) ≤ h.there := by
          have := hrounded [] (by simp) trivial (h.msgLength ring)
            (by rw [List.map_nil, Ring.total_nil, Ring.slot_zero hwf.read_lt]; rfl) hfits.1
            (by rw [List.map_nil, Ring.total_nil]; omega)
          simpa using this
        have hpos := align4Nat_pos hfits.1
        obtain ⟨h', hwf', hsize, hwriteIdx, hreadIdx, hthere, hdrain⟩ := hwf.drain_of_fits hwrite hfits
        have hthere' := hthere (h.there - align4Nat (h.msgLength ring)) (by omega)
        obtain ⟨fuel, d, hd, htotal⟩ := ih h'.there (by omega) (by rw [hsize, hwriteIdx]; exact hwrite) hwf'
          (hrounded.next hwf hfits.1 hsize hreadIdx (by omega)) h'.readIdx rfl
        refine ⟨fuel + 1, { d with delivered := h.message ring :: d.delivered }, ?_, ?_⟩
        · rw [hdrain, hd, Option.map_some]
        · rw [Ring.total_cons, ipcqMsgSize_message]
          omega
      · refine ⟨1, ⟨[], h, shared, -EINVAL⟩, ?_, Nat.zero_le n⟩
        exact hwf.drain_of_not_fits heq (fun hf => hfits hf.2) 0 shared

/-- A loop that ends has taken every message in its way. -/
theorem total_le_of_drain {ims : List (Nat × List (BitVec 32))} {fuel : Nat} {shared : BitVec 32} {d : Drained}
    (hwf : h.Wf) (hwrite : h.writeIdx.toNat < h.dwSize.toNat) (hframed : ∀ im ∈ ims, Framed im.2)
    (hrecords : Ring.Records h.dwSize.toNat ipcqMsgSize ring h.readIdx.toNat ims) {size : Nat}
    (hsize : size = (msgSizeDword (ring (Ring.slot h.dwSize.toNat h.readIdx.toNat
      (Ring.total ipcqMsgSize (ims.map Prod.snd))))).toNat) (hone : 1 ≤ size)
    (hfits : Ring.total ipcqMsgSize (ims.map Prod.snd) + size ≤ h.there)
    (hdrain : drainIpcq ring fuel h shared = some d) :
    Ring.total ipcqMsgSize (ims.map Prod.snd) + align4Nat size ≤ Ring.total ipcqMsgSize d.delivered := by
  induction ims generalizing h fuel shared d with
  | nil =>
      cases fuel with
      | zero => cases hdrain
      | succ fuel =>
          rw [List.map_nil, Ring.total_nil, Ring.slot_zero hwf.read_lt] at hsize
          rw [List.map_nil, Ring.total_nil, Nat.zero_add] at hfits ⊢
          have hlength : h.msgLength ring = size := hsize.symm
          have hfits' : 1 ≤ h.msgLength ring ∧ h.msgLength ring ≤ h.there := by omega
          obtain ⟨h', -, -, -, -, -, hturn⟩ := hwf.drain_of_fits hwrite hfits'
          rw [hturn] at hdrain
          obtain ⟨d', -, rfl⟩ := Option.map_eq_some_iff.1 hdrain
          rw [Ring.total_cons, ipcqMsgSize_message, hlength]
          omega
  | cons im ims ih =>
      cases fuel with
      | zero => cases hdrain
      | succ fuel =>
          rw [total_cons_ims] at hsize hfits ⊢
          obtain ⟨h', hwf', hsize', hwriteIdx, hthere, hreadIdx, hrecords', hturn⟩ :=
            hwf.drain_of_records hwrite (hframed im (List.mem_cons_self ..)) hrecords
              (show align4Nat im.2.length + (h.there - align4Nat im.2.length) = h.there by omega)
          rw [hturn] at hdrain
          obtain ⟨d', hd', rfl⟩ := Option.map_eq_some_iff.1 hdrain
          have hrest := ih hwf' (by rw [hsize', hwriteIdx]; exact hwrite)
            (fun im' him' => hframed im' (List.mem_cons_of_mem _ him')) hrecords'
            (by rw [hsize', hreadIdx, Ring.slot_slot]; exact hsize) (by omega) hd'
          rw [Ring.total_cons, ipcqMsgSize]
          omega

/-- Where the write index is aligned, what is there is a multiple of four dwords. -/
theorem roundedFits_of_aligned (hwf : h.Wf) (hwrite : h.writeIdx.toNat < h.dwSize.toNat)
    (haligned : 4 ∣ h.writeIdx.toNat) : RoundedFits ring h := by
  intro ims hframed hrecords size hsize hone hfits
  have hthere : 4 ∣ h.there := by
    have hread := hwf.read_dvd
    have hdwSize := hwf.size_dvd
    unfold HfiQueueHeader.there
    rw [Ring.used_eq hwf.read_lt hwrite]
    split <;> omega
  have htotal : 4 ∣ Ring.total ipcqMsgSize (ims.map Prod.snd) := by
    apply List.dvd_sum
    intro n hn
    obtain ⟨m, -, rfl⟩ := List.mem_map.1 hn
    exact dvd_align4Nat _
  have := align4Nat_le_of_dvd (n := size) (k := h.there - Ring.total ipcqMsgSize (ims.map Prod.snd)) (by omega)
    (by omega)
  omega

end

/-- **The end of the drain.** The loop ends within what was there exactly if the write index is out of range, in
    which case it ends at once, or no message on its way fits before the write index only without rounding. An
    aligned write index is enough for that. -/
theorem ipcq_drain_ends_iff (ring : Nat → BitVec 32) (h : HfiQueueHeader) (hwf : h.Wf) (shared : BitVec 32) :
    (EndsWithin ring h shared ↔ h.dwSize.toNat ≤ h.writeIdx.toNat ∨ RoundedFits ring h) ∧
      (4 ∣ h.writeIdx.toNat → EndsWithin ring h shared) := by
  have hiff : EndsWithin ring h shared ↔ h.dwSize.toNat ≤ h.writeIdx.toNat ∨ RoundedFits ring h := by
    by_cases hwrite : h.writeIdx.toNat < h.dwSize.toNat
    · rw [or_iff_right (by omega), EndsWithin, hwf.occupancy_eq hwrite]
      constructor
      · rintro ⟨fuel, d, hdrain, htotal⟩ ims hframed hrecords size hsize hone hfits
        exact (total_le_of_drain hwf hwrite hframed hrecords hsize hone hfits hdrain).trans htotal
      · intro hrounded
        exact endsWithin_of_roundedFits hwrite hwf hrounded shared
    · have hne : h.readIdx ≠ h.writeIdx := by
        intro heq
        have := hwf.read_lt
        rw [heq] at this
        exact hwrite this
      simp only [Nat.not_lt.1 hwrite, true_or, iff_true]
      refine ⟨1, ⟨[], h, shared, -EINVAL⟩, ?_, Nat.zero_le _⟩
      exact hwf.drain_of_not_fits hne (fun hf => hwrite hf.1) 0 shared
  refine ⟨hiff, ?_⟩
  intro haligned
  rw [hiff]
  by_cases hwrite : h.writeIdx.toNat < h.dwSize.toNat
  · exact .inr (roundedFits_of_aligned hwf hwrite haligned)
  · exact .inl (Nat.not_lt.1 hwrite)

theorem ipcq_drain_ends_iff_aligned : EndsWithin wrappedMessages ⟨200#32, 196#32, 16#32⟩ 196#32 :=
  (ipcq_drain_ends_iff wrappedMessages ⟨200#32, 196#32, 16#32⟩ ⟨by decide, by decide, by decide, by decide⟩
    196#32).2 (by decide)

section

variable {h : HfiQueueHeader}

/-- In a ring full of messages of one dword the read index never meets one that is not aligned. -/
theorem drain_ones (hwf : h.Wf) (hwrite : h.writeIdx.toNat < h.dwSize.toNat) (haligned : ¬ 4 ∣ h.writeIdx.toNat)
    (fuel : Nat) (shared : BitVec 32) : drainIpcq (fun _ => 0x100#32) fuel h shared = none := by
  induction fuel generalizing h shared with
  | zero => rfl
  | succ fuel ih =>
      have hthere : h.there ≠ 0 := by
        intro hzero
        have heq := (Ring.used_eq_zero hwf.read_lt hwrite).1 hzero
        exact haligned (heq ▸ hwf.read_dvd)
      have hlength : h.msgLength (fun _ => 0x100#32) = 1 := by
        simp [HfiQueueHeader.msgLength, msgSizeDword]
      have hfits : 1 ≤ h.msgLength (fun _ => 0x100#32) ∧ h.msgLength (fun _ => 0x100#32) ≤ h.there := by omega
      obtain ⟨h', hwf', hsize, hwriteIdx, -, -, hturn⟩ := hwf.drain_of_fits hwrite hfits
      rw [hturn, ih hwf' (by rw [hsize, hwriteIdx]; exact hwrite) (by rw [hwriteIdx]; exact haligned),
        Option.map_none]

end

/-- With a write index of 1 the loop never ends if all messages have one dword; if there is only the one at the
    read index, the loop takes four dwords where one was. -/
theorem ipcq_drain_passes_write_index :
    (∀ fuel, drainIpcq (fun _ => 0x100#32) fuel ⟨200#32, 0#32, 1#32⟩ 0#32 = none) ∧
      hgslGetQueueOccupancy ⟨200#32, 0#32, 1#32⟩ = 1#32 ∧
      drainIpcq (fun i => if i = 0 then 0x100#32 else 0#32) 2 ⟨200#32, 0#32, 1#32⟩ 0#32 =
        some ⟨[[0x100#32]], ⟨200#32, 4#32, 1#32⟩, 4#32, -EINVAL⟩ := by
  refine ⟨?_, by decide, by decide⟩
  intro fuel
  exact drain_ones ⟨by decide, by decide, by decide, by decide⟩ (by decide) (by decide) fuel 0#32

end Hgsl
