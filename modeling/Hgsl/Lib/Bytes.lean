import Hgsl.Lib.RecordRing

set_option autoImplicit false

/-! # Bytes of a memory

A memory is a function of the address; `Ring.put` stores a list of values in it and `read` takes one out.
Words are stored as their bytes, the lowest one first. Stores next to each other amount to a store of the
two lists appended, whichever of them comes first; this is how a record that is written field by field is
known by its bytes. -/

namespace Bytes

variable {α : Type*}

/-! ## Reading back -/

/-- The `n` values from address `d` on. -/
def read (mem : Nat → α) (d n : Nat) : List α :=
  (List.range n).map fun k => mem (d + k)

@[simp] theorem length_read (mem : Nat → α) (d n : Nat) : (read mem d n).length = n := by
  simp [read]

@[simp] theorem getElem_read {mem : Nat → α} {d n k : Nat} (hk : k < (read mem d n).length) :
    (read mem d n)[k] = mem (d + k) := by
  simp [read]

theorem read_congr {mem mem' : Nat → α} {d n : Nat} (h : ∀ k < n, mem (d + k) = mem' (d + k)) :
    read mem d n = read mem' d n := by
  apply List.map_congr_left
  intro k hk
  exact h k (List.mem_range.1 hk)

theorem read_add (mem : Nat → α) (d m n : Nat) :
    read mem d (m + n) = read mem d m ++ read mem (d + m) n := by
  simp [read, List.range_add, Nat.add_assoc]

/-- What was read as one list is read as two. -/
theorem read_eq_append {mem : Nat → α} {d n : Nat} {xs ys : List α}
    (h : read mem d n = xs ++ ys) :
    read mem d xs.length = xs ∧ read mem (d + xs.length) ys.length = ys := by
  have hn : n = xs.length + ys.length := by
    rw [← List.length_append, ← h, length_read]
  rw [hn, read_add] at h
  exact List.append_inj h (length_read ..)

theorem read_put (mem : Nat → α) (d : Nat) (xs : List α) :
    read (Ring.put mem d xs) d xs.length = xs := by
  apply List.ext_getElem
  · simp
  · intro k _ hk
    rw [getElem_read, Ring.put_at hk]

theorem read_put_before {mem : Nat → α} {d e n : Nat} (xs : List α) (h : e + n ≤ d) :
    read (Ring.put mem d xs) e n = read mem e n := by
  apply read_congr
  intro k hk
  exact Ring.put_before xs (by omega)

theorem read_put_behind {mem : Nat → α} {d e n : Nat} {xs : List α} (h : d + xs.length ≤ e) :
    read (Ring.put mem d xs) e n = read mem e n := by
  apply read_congr
  intro k _
  exact Ring.put_behind (by omega)

/-! ## Adjacent stores -/

theorem put_put_behind (mem : Nat → α) (d : Nat) (xs ys : List α) :
    Ring.put (Ring.put mem d xs) (d + xs.length) ys = Ring.put mem d (xs ++ ys) := by
  funext j
  by_cases hbefore : j < d
  · rw [Ring.put_before ys (by omega), Ring.put_before xs hbefore, Ring.put_before _ hbefore]
  · obtain ⟨k, rfl⟩ : ∃ k, j = d + k := ⟨j - d, by omega⟩
    by_cases hxs : k < xs.length
    · rw [Ring.put_before ys (by omega), Ring.put_at hxs,
        Ring.put_at (show k < (xs ++ ys).length by rw [List.length_append]; omega),
        List.getElem_append_left hxs]
    · simp [Ring.put, hxs, List.getElem?_append, Nat.sub_add_eq]

/-- Stores to different places commute. -/
theorem put_comm {mem : Nat → α} {d e : Nat} {xs : List α} (ys : List α) (h : d + xs.length ≤ e) :
    Ring.put (Ring.put mem e ys) d xs = Ring.put (Ring.put mem d xs) e ys := by
  funext j
  by_cases hbefore : j < e
  · rw [Ring.put_before ys hbefore]
    unfold Ring.put
    rw [if_pos hbefore]
  · rw [Ring.put_behind (show d + xs.length ≤ j by omega)]
    have hbehind : Ring.put mem d xs j = mem j := Ring.put_behind (by omega)
    unfold Ring.put at hbehind ⊢
    rw [hbehind]

theorem put_put_before (mem : Nat → α) (d : Nat) (xs ys : List α) :
    Ring.put (Ring.put mem (d + xs.length) ys) d xs = Ring.put mem d (xs ++ ys) := by
  rw [put_comm ys le_rfl, put_put_behind]

/-! ## Words -/

/-- The lowest `n` bytes of a number. -/
def ofNat : Nat → Nat → List (BitVec 8)
  | 0, _ => []
  | n + 1, v => BitVec.ofNat 8 v :: ofNat n (v / 256)

/-- The number of a list of bytes. -/
def toNat : List (BitVec 8) → Nat
  | [] => 0
  | b :: bs => b.toNat + 256 * toNat bs

@[simp] theorem length_ofNat (n v : Nat) : (ofNat n v).length = n := by
  induction n generalizing v with
  | zero => rfl
  | succ n ih => rw [ofNat, List.length_cons, ih]

theorem toNat_ofNat (n v : Nat) : toNat (ofNat n v) = v % 256 ^ n := by
  induction n generalizing v with
  | zero => simp [ofNat, toNat, Nat.mod_one]
  | succ n ih =>
      rw [ofNat, toNat, ih, BitVec.toNat_ofNat]
      show v % 256 + 256 * (v / 256 % 256 ^ n) = v % 256 ^ (n + 1)
      rw [Nat.pow_succ', Nat.mod_mul]

/-- The bytes of a word. -/
def ofWord {w : Nat} (x : BitVec w) : List (BitVec 8) := ofNat (w / 8) x.toNat

/-- The word of a list of bytes. -/
def toWord (w : Nat) (bs : List (BitVec 8)) : BitVec w := BitVec.ofNat w (toNat bs)

@[simp] theorem length_ofWord {w : Nat} (x : BitVec w) : (ofWord x).length = w / 8 := length_ofNat ..

theorem toWord_ofWord {w : Nat} (hw : 8 ∣ w) (x : BitVec w) : toWord w (ofWord x) = x := by
  obtain ⟨n, rfl⟩ := hw
  have hpow : 256 ^ n = 2 ^ (8 * n) := by rw [Nat.pow_mul]
  rw [toWord, ofWord, toNat_ofNat, Nat.mul_div_cancel_left n (by decide), hpow,
    Nat.mod_eq_of_lt x.isLt, BitVec.ofNat_toNat, BitVec.setWidth_eq]

/-- Reads a word. -/
def load (w : Nat) (mem : Nat → BitVec 8) (d : Nat) : BitVec w := toWord w (read mem d (w / 8))

/-- Stores a word. -/
def store {w : Nat} (mem : Nat → BitVec 8) (d : Nat) (x : BitVec w) : Nat → BitVec 8 :=
  Ring.put mem d (ofWord x)

/-- A word that lies in memory is loaded. -/
theorem load_of_read {w d : Nat} (hw : 8 ∣ w) {mem : Nat → BitVec 8} {x : BitVec w}
    (h : read mem d (w / 8) = ofWord x) : load w mem d = x := by
  rw [load, h, toWord_ofWord hw]

end Bytes
