import Mathlib.Data.BitVec

set_option autoImplicit false

/-! # Alignment

The least multiple of an alignment from a number on, over `Nat`, and the clearing of low bits by which
machine code computes it. -/

namespace Align

/-- The least multiple of `align` from `x` on. -/
def alignUp (x align : Nat) : Nat := (x + (align - 1)) / align * align

variable {align x y : Nat}

theorem dvd_alignUp : align ∣ alignUp x align := Nat.dvd_mul_left _ _

theorem le_alignUp (halign : 0 < align) : x ≤ alignUp x align := by
  have h := Nat.lt_div_mul_add (a := x + (align - 1)) halign
  unfold alignUp
  omega

theorem alignUp_le_add : alignUp x align ≤ x + (align - 1) := Nat.div_mul_le_self _ _

theorem alignUp_le_iff (halign : 0 < align) (hdvd : align ∣ y) : alignUp x align ≤ y ↔ x ≤ y := by
  constructor
  · exact fun h => (le_alignUp halign).trans h
  · intro h
    obtain ⟨q, rfl⟩ := hdvd
    have hquot : (x + (align - 1)) / align < q + 1 := by
      apply Nat.div_lt_of_lt_mul
      rw [Nat.mul_succ]
      omega
    unfold alignUp
    rw [Nat.mul_comm align q]
    exact Nat.mul_le_mul_right align (Nat.lt_succ_iff.1 hquot)

theorem alignUp_of_dvd (halign : 0 < align) (hdvd : align ∣ x) : alignUp x align = x :=
  le_antisymm ((alignUp_le_iff halign hdvd).2 le_rfl) (le_alignUp halign)

/-! ## Machine words -/

/-- Clearing the low `k` bits takes a word down to a multiple of `2 ^ k`. -/
theorem toNat_and_not_mask {w k : Nat} (y : BitVec w) :
    (y &&& ~~~BitVec.ofNat w (2 ^ k - 1)).toNat = y.toNat / 2 ^ k * 2 ^ k := by
  have hshift : y &&& ~~~BitVec.ofNat w (2 ^ k - 1) = (y >>> k) <<< k := by
    apply BitVec.eq_of_getLsbD_eq
    intro i hi
    have hmask : (BitVec.ofNat w (2 ^ k - 1)).getLsbD i = decide (i < k) := by
      rw [BitVec.getLsbD_ofNat, Nat.testBit_two_pow_sub_one]
      simp [hi]
    simp only [BitVec.getLsbD_and, BitVec.getLsbD_not, hmask, BitVec.getLsbD_shiftLeft,
      BitVec.getLsbD_ushiftRight, hi, decide_true, Bool.true_and]
    rcases Nat.lt_or_ge i k with hlt | hge
    · simp [hlt]
    · have hback : k + (i - k) = i := by omega
      simp [hback, Nat.not_lt.2 hge]
  rw [hshift, BitVec.toNat_shiftLeft, BitVec.toNat_ushiftRight, Nat.shiftLeft_eq,
    Nat.shiftRight_eq_div_pow, Nat.mod_eq_of_lt]
  exact (Nat.div_mul_le_self _ _).trans_lt y.isLt

/-- Adding the mask and clearing the low bits rounds up, if the sum does not wrap. -/
theorem toNat_add_mask_and_not {w k : Nat} {x : BitVec w} (hk : k < w) (h : x.toNat + (2 ^ k - 1) < 2 ^ w) :
    ((x + BitVec.ofNat w (2 ^ k - 1)) &&& ~~~BitVec.ofNat w (2 ^ k - 1)).toNat = alignUp x.toNat (2 ^ k) := by
  have hpow : 2 ^ k < 2 ^ w := Nat.pow_lt_pow_right (by omega) hk
  rw [toNat_and_not_mask, BitVec.toNat_add, BitVec.toNat_ofNat, Nat.mod_eq_of_lt (a := 2 ^ k - 1) (by omega),
    Nat.mod_eq_of_lt h, alignUp]

end Align
