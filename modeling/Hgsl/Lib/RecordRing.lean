import Hgsl.Lib.Ring

set_option autoImplicit false

/-! # Records in a circular buffer

A circular buffer that holds records of different lengths, one behind the other, each taking up
`size` slots of which it fills the first ones. `put` is a plain copy to consecutive slots; a record
that reaches over the end of the buffer is two of them. -/

namespace Ring

variable {α : Type*}

/-! ## Copying a block -/

/-- `xs` copied to the slots from `d` on, without wrapping. -/
def put (f : Nat → α) (d : Nat) (xs : List α) (j : Nat) : α :=
  if j < d then f j else (xs[j - d]?).getD (f j)

theorem put_before {f : Nat → α} {d j : Nat} (xs : List α) (h : j < d) : put f d xs j = f j := by
  rw [put, if_pos h]

theorem put_behind {f : Nat → α} {d j : Nat} {xs : List α} (h : d + xs.length ≤ j) :
    put f d xs j = f j := by
  rw [put, if_neg (by omega), List.getElem?_eq_none (by omega), Option.getD_none]

theorem put_at {f : Nat → α} {d k : Nat} {xs : List α} (hk : k < xs.length) :
    put f d xs (d + k) = xs[k] := by
  rw [put, if_neg (by omega), Nat.add_sub_cancel_left, List.getElem?_eq_getElem hk, Option.getD_some]

/-- A block that starts `lo` places after `i` and does not reach over the end of the buffer: inside it
    the slots hold the block. -/
theorem put_slot_inside {N i lo k : Nat} {f : Nat → α} {xs : List α}
    (hfit : slot N i lo + xs.length ≤ N) (hk : k < xs.length) :
    put f (slot N i lo) xs (slot N i (lo + k)) = xs[k] := by
  rw [slot_add (by omega), put_at hk]

/-- Outside the block nothing changes. -/
theorem put_slot_outside {N i lo k : Nat} {f : Nat → α} {xs : List α} (hi : i < N)
    (hlo : lo + xs.length ≤ N) (hk : k < N) (hout : k < lo ∨ lo + xs.length ≤ k) :
    put f (slot N i lo) xs (slot N i k) = f (slot N i k) := by
  rcases Nat.eq_zero_or_pos xs.length with hnil | hpos
  · rcases Nat.lt_or_ge (slot N i k) (slot N i lo) with hlt | hge
    · exact put_before xs hlt
    · exact put_behind (by omega)
  · have hcmp : slot N i k < slot N i lo ∨ slot N i lo + xs.length ≤ slot N i k := by
      rw [slot_eq hi (by omega), slot_eq hi (by omega)]
      split <;> split <;> omega
    rcases hcmp with hlt | hge
    · exact put_before xs hlt
    · exact put_behind hge

/-! ## Records -/

/-- The slots that some records take up. -/
def total (size : List α → Nat) (ms : List (List α)) : Nat := (ms.map size).sum

/-- From slot `r` on the buffer holds the records `ms`, each noted with the slot it starts at. -/
def Records (N : Nat) (size : List α → Nat) (f : Nat → α) : Nat → List (Nat × List α) → Prop
  | _, [] => True
  | r, im :: ms =>
    im.1 = r ∧ slice N f r im.2.length = im.2 ∧ Records N size f (slot N r (size im.2)) ms

variable {N : Nat} {size : List α → Nat}

@[simp] theorem total_nil : total size [] = 0 := rfl

@[simp] theorem total_cons (m : List α) (ms : List (List α)) :
    total size (m :: ms) = size m + total size ms := rfl

theorem total_append (ms ms' : List (List α)) :
    total size (ms ++ ms') = total size ms + total size ms' := by
  simp [total]

/-- Records stay as long as their slots do. -/
theorem Records.congr {f g : Nat → α} (hsize : ∀ m, m.length ≤ size m) {r : Nat}
    {ms : List (Nat × List α)} (h : Records N size f r ms)
    (hfg : ∀ j < total size (ms.map Prod.snd), g (slot N r j) = f (slot N r j)) :
    Records N size g r ms := by
  induction ms generalizing r with
  | nil => trivial
  | cons im ms ih =>
      obtain ⟨hstart, hread, hrest⟩ := h
      simp only [List.map_cons, total_cons] at hfg
      refine ⟨hstart, ?_, ih hrest ?_⟩
      · rw [← hread, length_slice]
        exact slice_congr fun k hk => hfg k (by have := hsize im.2; omega)
      · intro j hj
        rw [slot_slot]
        exact hfg _ (by omega)

/-- A record is added behind the others. -/
theorem Records.append {f : Nat → α} {r : Nat} {ms : List (Nat × List α)} {m : List α}
    (hr : r < N) (h : Records N size f r ms)
    (hread : slice N f (slot N r (total size (ms.map Prod.snd))) m.length = m) :
    Records N size f r (ms ++ [(slot N r (total size (ms.map Prod.snd)), m)]) := by
  induction ms generalizing r with
  | nil =>
      rw [List.map_nil, total_nil, slot_zero hr] at hread ⊢
      exact ⟨rfl, hread, trivial⟩
  | cons im ms ih =>
      obtain ⟨hstart, hhead, hrest⟩ := h
      have hN : 0 < N := Nat.lt_of_le_of_lt (Nat.zero_le r) hr
      simp only [List.map_cons, total_cons, ← slot_slot] at hread ⊢
      exact ⟨hstart, hhead, ih (slot_lt hN _ _) hrest hread⟩

/-- Every record is read back from the slot noted with it. -/
theorem Records.read {f : Nat → α} {r : Nat} {ms : List (Nat × List α)}
    (h : Records N size f r ms) {im : Nat × List α} (hmem : im ∈ ms) :
    slice N f im.1 im.2.length = im.2 := by
  induction ms generalizing r with
  | nil => cases hmem
  | cons im' ms ih =>
      obtain ⟨hstart, hhead, hrest⟩ := h
      rcases List.mem_cons.1 hmem with rfl | hmem'
      · rw [hstart]
        exact hhead
      · exact ih hrest hmem'

end Ring
