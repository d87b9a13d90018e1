import Hgsl.Rpc.Parcel

set_option autoImplicit false

/-! # Bounds of the reader

The bytes of a received parcel come from the other virtual machine. `gsl_rpc_get_arg_ptr` looks at a
header and at an argument only after it has checked that both lie in the buffer, but the check leaves the
footer out: of an argument that ends less than 4 bytes before the end of the buffer, it reads a footer
that lies partly behind it, and leaves the position there. -/

namespace Hgsl

namespace HabPayload

/-- A property of each read of a sequence, in the state that it is made in. -/
def Along (P : HabPayload → RpcRead → Prop) : HabPayload → List RpcRead → Prop
  | _, [] => True
  | p, r :: rs => P p r ∧ Along P (r.run p).parcel rs

/-- The position behind the argument that a read expects does not wrap around. -/
def NoWrap (p : HabPayload) (r : RpcRead) : Prop :=
  p.dataPos.toNat + r.size.toNat + gslRpcHeaderSize + gslRpcFooterSize < 2 ^ 64

instance (p : HabPayload) (r : RpcRead) : Decidable (NoWrap p r) := inferInstanceAs (Decidable (_ < _))

/-- A read looks at bytes of the buffer only and leaves the position in it. -/
structure StaysInside (p : HabPayload) (r : RpcRead) : Prop where
  touched : ∀ x ∈ (r.run p).touched, ∀ k < x.2, x.1 + k < p.dataSize.toNat
  dataPos : (r.run p).parcel.dataPos.toNat ≤ (r.run p).parcel.dataSize.toNat

/-- The header fits the read, the argument ends in the buffer and its footer does not. -/
def atBrim (p : HabPayload) (r : RpcRead) : Bool :=
  headerMatches p r.id r.size &&
    p.dataPos.toNat + r.size.toNat + gslRpcHeaderSize ≤ p.dataSize.toNat &&
    p.dataSize.toNat < p.dataPos.toNat + r.size.toNat + gslRpcHeaderSize + gslRpcFooterSize

/-! ## One read -/

theorem dataSize_run (p : HabPayload) (r : RpcRead) : (r.run p).parcel.dataSize = p.dataSize := by
  rw [(r.run_eq p).2.1]
  unfold gslRpcGetArgPtr
  dsimp only
  split
  · split <;> rfl
  · rfl

/-- No more is dumped than there is. -/
theorem dumpBytes_le (p : HabPayload) : dumpBytes p ≤ p.dataSize.toNat := by
  have hclip : ∀ n : BitVec 64,
      (if n ≤ p.dataSize then n else p.dataSize).toNat ≤ p.dataSize.toNat := by
    intro n
    by_cases hn : n ≤ p.dataSize
    · rw [if_pos hn]
      exact hn
    · rw [if_neg hn]
  have hle := hclip (((GslRpcHeader.at p.data 0).size + 16#32).setWidth 64 + 4#64)
  unfold dumpBytes
  dsimp only
  omega

/-- A read that has passed the checks stays inside if the footer does. -/
theorem staysInside_iff_of_matches {p : HabPayload} {r : RpcRead}
    (htouched : (r.run p).touched = [(p.dataPos.toNat, gslRpcHeaderSize),
      (p.dataPos.toNat + gslRpcHeaderSize, r.size.toNat),
      (p.dataPos.toNat + r.size.toNat + gslRpcHeaderSize, gslRpcFooterSize)])
    (hpos : (r.run p).parcel.dataPos.toNat =
      p.dataPos.toNat + r.size.toNat + gslRpcHeaderSize + gslRpcFooterSize) :
    StaysInside p r ↔
      p.dataPos.toNat + r.size.toNat + gslRpcHeaderSize + gslRpcFooterSize ≤ p.dataSize.toNat := by
  constructor
  · intro h
    have hle := h.dataPos
    rw [hpos, dataSize_run] at hle
    exact hle
  · intro hle
    refine ⟨?_, ?_⟩
    · rw [htouched]
      intro x hx k hk
      simp only [List.mem_cons, List.not_mem_nil, or_false] at hx
      unfold gslRpcHeaderSize gslRpcFooterSize at *
      rcases hx with rfl | rfl | rfl <;> dsimp only at hk ⊢ <;> omega
    · rw [hpos, dataSize_run]
      exact hle

/-- **Step lemma.** A read stays inside exactly if it does not read an argument at the brim. -/
theorem staysInside_iff {p : HabPayload} {r : RpcRead} (hsize : gslRpcHeaderSize ≤ p.dataSize.toNat)
    (hpos : p.dataPos.toNat ≤ p.dataSize.toNat) (hwrap : NoWrap p r) :
    StaysInside p r ↔ p.atBrim r = false := by
  obtain ⟨-, hparcel, htouched⟩ := r.run_eq p
  have hwrap' := hwrap
  unfold NoWrap gslRpcHeaderSize gslRpcFooterSize at hwrap'
  have hend : (p.dataPos + r.size + 16#64).toNat = p.dataPos.toNat + r.size.toNat + 16 := by
    simp only [BitVec.toNat_add, BitVec.toNat_ofNat]
    omega
  have hfooter : (p.dataPos + (r.size + 16#64)).toNat = p.dataPos.toNat + r.size.toNat + 16 := by
    rw [← BitVec.add_assoc, hend]
  have hnext : (p.dataPos + (r.size + 16#64) + 4#64).toNat = p.dataPos.toNat + r.size.toNat + 16 + 4 := by
    rw [BitVec.toNat_add, hfooter]
    simp only [BitVec.toNat_ofNat]
    omega
  by_cases hfits : p.dataPos.toNat + r.size.toNat + gslRpcHeaderSize ≤ p.dataSize.toNat
  · have hcheck : p.dataPos + r.size + 16#64 ≤ p.dataSize := by
      rw [BitVec.le_def, hend]
      exact hfits
    rw [gslRpcGetArgPtr, if_pos hcheck] at hparcel htouched
    cases hmatches : headerMatches p r.id r.size with
    | true =>
        rw [if_pos hmatches] at hparcel htouched
        dsimp only at htouched
        rw [hfooter] at htouched
        rw [staysInside_iff_of_matches htouched (by rw [hparcel]; exact hnext)]
        simp [atBrim, hmatches, hfits]
    | false =>
        rw [if_neg (by rw [hmatches]; decide)] at hparcel htouched
        refine iff_of_true ⟨?_, ?_⟩ (by simp [atBrim, hmatches])
        · rw [htouched]
          intro x hx k hk
          have hdump := dumpBytes_le p
          simp only [List.mem_cons, List.not_mem_nil, or_false] at hx
          unfold gslRpcHeaderSize at *
          rcases hx with rfl | rfl | rfl <;> dsimp only at hk ⊢ <;> omega
        · rw [hparcel]
          exact hpos
  · have hcheck : ¬p.dataPos + r.size + 16#64 ≤ p.dataSize := by
      rw [BitVec.le_def, hend]
      exact hfits
    rw [gslRpcGetArgPtr, if_neg hcheck] at hparcel htouched
    refine iff_of_true ⟨?_, ?_⟩ (by simp [atBrim, hfits])
    · rw [htouched]
      exact nofun
    · rw [hparcel]
      exact hpos

/-! ## Sequences of reads -/

/-- Every read of a sequence stays inside exactly if none of them reads an argument at the brim. -/
theorem along_staysInside_iff (p : HabPayload) (rs : List RpcRead)
    (hsize : gslRpcHeaderSize ≤ p.dataSize.toNat) (hpos : p.dataPos.toNat ≤ p.dataSize.toNat)
    (hwrap : Along NoWrap p rs) :
    Along StaysInside p rs ↔ Along (fun p r => p.atBrim r = false) p rs := by
  induction rs generalizing p with
  | nil => exact Iff.rfl
  | cons r rs ih =>
      have hstep := staysInside_iff hsize hpos hwrap.1
      constructor
      · rintro ⟨hinside, hrest⟩
        exact ⟨hstep.1 hinside,
          (ih _ (by rwa [dataSize_run]) hinside.dataPos hwrap.2).1 hrest⟩
      · rintro ⟨hnot, hrest⟩
        have hinside := hstep.2 hnot
        exact ⟨hinside, (ih _ (by rwa [dataSize_run]) hinside.dataPos hwrap.2).2 hrest⟩

/-- A buffer of 4096 bytes with an argument of `size` bytes at the start. -/
def filledParcel (size : BitVec 32) : HabPayload where
  version := 1#32
  dataSize := 4096#64
  dataPos := gslRpcParcelGetDataOffset
  data := storeFrame (fun _ => 0#8) 16 (16 + 16 + size.toNat) GSL_RPC_BLOB_DATA (size.setWidth 64)

/-- A read of the wrong kind, one of the right kind and length, and one that finds nothing. -/
theorem along_staysInside_iff_filledParcel :
    Along StaysInside (filledParcel 4060#32) [.int32L, .read 4060#64, .uint64L] :=
  (along_staysInside_iff (filledParcel 4060#32) [.int32L, .read 4060#64, .uint64L] (by decide)
    (by decide +kernel)
    ⟨by decide +kernel, by decide +kernel, by decide +kernel, trivial⟩).2
    ⟨by decide +kernel, by decide +kernel, by decide +kernel, trivial⟩

/-- With 4 bytes more the argument fills the buffer, and the footer is read from behind it. -/
theorem not_along_staysInside_filledParcel :
    ¬Along StaysInside (filledParcel 4064#32) [.read 4064#64] := by
  rintro ⟨hinside, -⟩
  have hpos := hinside.dataPos
  revert hpos
  decide +kernel

end HabPayload

end Hgsl
