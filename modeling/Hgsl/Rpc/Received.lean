import Hgsl.Rpc.ReadBounds

set_option autoImplicit false

/-! # The receive parcel

The parcel that a channel receives replies in is made once, with a buffer of 4096 bytes, and is reset, received
into and read from; nothing writes an argument into it, so that its buffer never grows. Whatever the backend
sends, an argument that is read moves the position by its length and its frame, and there is no argument behind
the end. -/

namespace Hgsl

/-- `gsl_rpc_parcel_reset`, of a parcel that has its buffer -/
def gslRpcParcelReset (p : HabPayload) : HabPayload :=
  { p with dataPos := gslRpcParcelGetDataOffset, data := fun _ => 0#8 }

/-- What can become of a receive parcel. -/
inductive Received : HabPayload → Prop where
  | init {malloc : HgslMalloc} {p : HabPayload} (h : gslRpcParcelInit malloc = .ok p) : Received p
  | reset {p : HabPayload} (h : Received p) : Received (gslRpcParcelReset p)
  /-- `gsl_rpc_recv` -/
  | recv {p : HabPayload} (h : Received p) (data : Nat → BitVec 8) : Received { p with data := data }
  | read {p : HabPayload} (h : Received p) (r : RpcRead) : Received (r.run p).parcel

/-- The position is in the buffer, or behind it by no more than a footer. -/
structure HabPayload.Bounded (p : HabPayload) : Prop where
  dataSize : p.dataSize = 4096#64
  dataPos : p.dataPos.toNat ≤ 4096 + gslRpcFooterSize

section Lemmas

variable {p : HabPayload} {id : BitVec 32} {size : BitVec 64}

/-- A header has 32 bits for a length, so a length that makes the check wrap matches no header. -/
theorem size_lt_of_headerMatches (h : headerMatches p id size = true) : size.toNat < 2 ^ 32 := by
  simp only [headerMatches, Bool.and_eq_true, decide_eq_true_eq] at h
  rw [← h.2, BitVec.toNat_setWidth]
  have hlt := (GslRpcHeader.at p.data p.dataPos.toNat).size.isLt
  omega

/-- What `gsl_rpc_get_arg_ptr` does to the position of a bounded parcel: nothing, and it fails, or it goes
    behind an argument that lies in the buffer. -/
theorem gslRpcGetArgPtr_pos (h : p.Bounded) (id : BitVec 32) (size : BitVec 64) :
    (gslRpcGetArgPtr p id size).parcel.dataSize = 4096#64 ∧
      (((gslRpcGetArgPtr p id size).ret ≠ 0 ∧
          (gslRpcGetArgPtr p id size).parcel.dataPos = p.dataPos) ∨
        p.dataPos.toNat + size.toNat + gslRpcHeaderSize ≤ 4096 ∧
          (gslRpcGetArgPtr p id size).parcel.dataPos.toNat =
            p.dataPos.toNat + (size.toNat + gslRpcHeaderSize + gslRpcFooterSize)) := by
  obtain ⟨hsize, hpos⟩ := h
  unfold gslRpcFooterSize at hpos
  unfold gslRpcGetArgPtr gslRpcHeaderSize gslRpcFooterSize
  dsimp only
  by_cases hcheck : p.dataPos + size + 16#64 ≤ p.dataSize
  swap
  · simp only [if_neg hcheck]
    exact ⟨hsize, .inl ⟨by decide, trivial⟩⟩
  by_cases hmatches : headerMatches p id size = true
  swap
  · simp only [if_pos hcheck, if_neg hmatches]
    exact ⟨hsize, .inl ⟨by decide, trivial⟩⟩
  have hlt := size_lt_of_headerMatches hmatches
  have hend : (p.dataPos + size + 16#64).toNat = p.dataPos.toNat + size.toNat + 16 := by
    simp only [BitVec.toNat_add, BitVec.toNat_ofNat]
    omega
  have hnext : (p.dataPos + (size + 16#64) + 4#64).toNat = p.dataPos.toNat + (size.toNat + 16 + 4) := by
    simp only [BitVec.toNat_add, BitVec.toNat_ofNat]
    omega
  have hfits : p.dataPos.toNat + size.toNat + 16 ≤ 4096 := by
    rw [BitVec.le_def, hend, hsize] at hcheck
    simpa using hcheck
  simp only [if_pos hcheck, if_pos hmatches]
  exact ⟨hsize, .inr ⟨hfits, hnext⟩⟩

theorem HabPayload.Bounded.getArgPtr (h : p.Bounded) (id : BitVec 32) (size : BitVec 64) :
    (gslRpcGetArgPtr p id size).parcel.Bounded := by
  obtain ⟨hsize, ⟨-, hsame⟩ | ⟨hfits, hnext⟩⟩ := gslRpcGetArgPtr_pos h id size
  · exact ⟨hsize, hsame ▸ h.dataPos⟩
  · refine ⟨hsize, ?_⟩
    rw [hnext]
    omega

/-- **Always bounded.** Whatever is received, and whatever is read in between. -/
theorem Received.bounded (h : Received p) : p.Bounded := by
  induction h with
  | @init malloc p h =>
      unfold gslRpcParcelInit at h
      split at h
      · cases h
      · obtain rfl := Except.ok.inj h
        constructor <;> decide
  | reset h ih =>
      have hstart : gslRpcParcelGetDataOffset.toNat ≤ 4096 + gslRpcFooterSize := by decide
      exact ⟨ih.dataSize, hstart⟩
  | recv h data ih => exact ⟨ih.dataSize, ih.dataPos⟩
  | @read p h r ih =>
      rw [(r.run_eq p).2.1]
      exact ih.getArgPtr r.id r.size

/-- A read that succeeds moves the position behind its argument. -/
theorem RpcRead.dataPos_run (h : p.Bounded) {r : RpcRead} (hret : (r.run p).ret = 0) :
    p.dataPos.toNat + r.size.toNat + gslRpcHeaderSize ≤ 4096 ∧
      (r.run p).parcel.dataPos.toNat = p.dataPos.toNat + (r.size.toNat + gslRpcHeaderSize + gslRpcFooterSize) := by
  obtain ⟨hret', hparcel, -⟩ := r.run_eq p
  rw [hret'] at hret
  rw [hparcel]
  obtain ⟨-, ⟨hfail, -⟩ | hnext⟩ := gslRpcGetArgPtr_pos h r.id r.size
  · exact absurd hret hfail
  · exact hnext

/-- A read past the end fails. -/
theorem RpcRead.ret_of_past_end (h : p.Bounded) {r : RpcRead}
    (hpast : 4096 < p.dataPos.toNat + r.size.toNat + gslRpcHeaderSize) : (r.run p).ret ≠ 0 := by
  intro hret
  have hfits := (RpcRead.dataPos_run h hret).1
  omega

end Lemmas

end Hgsl
