import Mathlib.Data.BitVec
import Mathlib.Data.List.Chain

set_option autoImplicit false

/-! # Serial-number order on machine words

`Ge a b` compares two wrapping counters of width `w`: `a` is at or past `b` when going forward from
`b` reaches `a` in less than half of the number circle. The relation is not transitive on the whole
circle. It is a linear order on any set that spans less than half of it, and `ge_iff_dist_le` is the
one fact behind that: measured from a common base, it is the order of the distances. -/

namespace Serial

variable {w : Nat}

/-- How far forward `x` lies from `b`. -/
def dist (b x : BitVec w) : Nat := (x - b).toNat

/-- `a` is at or past `b`. -/
def Ge (a b : BitVec w) : Prop := dist b a < 2 ^ (w - 1)

instance (a b : BitVec w) : Decidable (Ge a b) := inferInstanceAs (Decidable (_ < _))

/-- The words in `xs` span less than half of the circle: one of them is the earliest, and every
    other one is at or past it. -/
def Spans (xs : List (BitVec w)) : Prop := ∃ b ∈ xs, ∀ x ∈ xs, Ge x b

-- not by instance search, which would enumerate all words
instance (xs : List (BitVec w)) : Decidable (Spans xs) :=
  @List.decidableBEx _ (fun b => ∀ x ∈ xs, Ge x b) (fun b => List.decidableBAll (Ge · b) xs) xs

/-! ## Distances -/

@[simp] theorem dist_self (b : BitVec w) : dist b b = 0 := by simp [dist]

theorem dist_lt (b x : BitVec w) : dist b x < 2 ^ w := (x - b).isLt

/-- The distance from `x` to `y`, read off a common base `b`. -/
theorem dist_eq_of_base (b x y : BitVec w) :
    dist x y = if dist b x ≤ dist b y then dist b y - dist b x
      else 2 ^ w - (dist b x - dist b y) := by
  have hsub : y - x = (y - b) - (x - b) := (sub_sub_sub_cancel_right y x b).symm
  have hx := dist_lt b x
  have hy := dist_lt b y
  unfold dist at hx hy ⊢
  rw [hsub, BitVec.toNat_sub]
  split
  · next h =>
      rw [show 2 ^ w - (x - b).toNat + (y - b).toNat
        = (y - b).toNat - (x - b).toNat + 2 ^ w by omega, Nat.add_mod_right]
      exact Nat.mod_eq_of_lt (by omega)
  · next h => exact (Nat.mod_eq_of_lt (by omega)).trans (by omega)

/-! ## The order inside half of the circle -/

theorem ge_refl (a : BitVec w) : Ge a a := by
  rw [Ge, dist_self]
  exact Nat.two_pow_pos _

theorem half_add_half (h : 0 < w) : 2 ^ (w - 1) + 2 ^ (w - 1) = 2 ^ w := by
  obtain ⟨n, rfl⟩ : ∃ n, w = n + 1 := ⟨w - 1, by omega⟩
  rw [Nat.add_sub_cancel, Nat.pow_succ]
  omega

/-- Seen from a base that both are at or past, the order of `x` and `y` is that of their distances. -/
theorem ge_iff_dist_le {b x y : BitVec w} (hx : Ge x b) (hy : Ge y b) :
    Ge x y ↔ dist b y ≤ dist b x := by
  unfold Ge at hx hy ⊢
  rw [dist_eq_of_base b y x]
  rcases Nat.eq_zero_or_pos w with rfl | hw
  · have h1 := dist_lt b x
    have h2 := dist_lt b y
    simp only [Nat.pow_zero, Nat.lt_one_iff] at h1 h2
    simp [h1, h2]
  · have hhalf := half_add_half hw
    split
    · next h => exact ⟨fun _ => h, fun _ => by omega⟩
    · next h => exact ⟨fun hlt => absurd hlt (by omega), fun hle => absurd hle h⟩

theorem Spans.ge_trans {xs : List (BitVec w)} (h : Spans xs) {x y z : BitVec w} (hx : x ∈ xs)
    (hy : y ∈ xs) (hz : z ∈ xs) (hxy : Ge x y) (hyz : Ge y z) : Ge x z := by
  obtain ⟨b, -, hb⟩ := h
  rw [ge_iff_dist_le (hb x hx) (hb y hy)] at hxy
  rw [ge_iff_dist_le (hb y hy) (hb z hz)] at hyz
  rw [ge_iff_dist_le (hb x hx) (hb z hz)]
  exact hyz.trans hxy

/-! ## Counters that are handed out in steps

A counter that advances by at most half of the circle at a time gives a chain of words. As long as the
words still in use span less than half of the circle, the chain is increasing. -/

/-- `b` comes after `a`, by at most half of the circle. -/
def Next (a b : BitVec w) : Prop := 0 < dist a b ∧ dist a b ≤ 2 ^ (w - 1)

/-- The words in `xs` lie ahead of `b` by less than half of the circle, in increasing order. -/
structure Ahead (b : BitVec w) (xs : List (BitVec w)) : Prop where
  pos : ∀ x ∈ xs, 0 < dist b x
  lt : ∀ x ∈ xs, dist b x < 2 ^ (w - 1)
  increasing : xs.Pairwise fun x y => dist b x < dist b y

theorem Ahead.nil (b : BitVec w) : Ahead b [] := ⟨by simp, by simp, .nil⟩

theorem Next.width_pos {a b : BitVec w} (h : Next a b) : 0 < w := by
  rcases Nat.eq_zero_or_pos w with rfl | hw
  · have hlt := dist_lt a b
    have hpos := h.1
    omega
  · exact hw

/-- Seen from a base that both are at or past, a next word is further away. -/
theorem Next.dist_lt_dist {b x y : BitVec w} (h : Next x y) (hx : Ge x b) :
    dist b x < dist b y := by
  have hhalf := half_add_half h.width_pos
  obtain ⟨hpos, hle⟩ := h
  unfold Ge at hx
  rw [dist_eq_of_base b x y] at hpos hle
  by_cases hxy : dist b x ≤ dist b y
  · rw [if_pos hxy] at hpos
    omega
  · rw [if_neg hxy] at hle
    omega

/-- **Chains in a window.** A chain of next words that spans less than half of the circle lies ahead
    of its first word. -/
theorem Spans.ahead {b : BitVec w} {xs : List (BitVec w)} (h : Spans (b :: xs))
    (hchain : (b :: xs).IsChain Next) : Ahead b xs := by
  obtain ⟨c, hc, hge⟩ := h
  have hinc : (b :: xs).Pairwise fun x y => dist c x < dist c y := by
    have htrans : IsTrans (BitVec w) fun x y => dist c x < dist c y :=
      ⟨fun _ _ _ => Nat.lt_trans⟩
    refine List.isChain_iff_pairwise.1 ?_
    refine hchain.imp_of_mem_imp ?_
    intro x y hx _ hnext
    exact hnext.dist_lt_dist (hge x hx)
  obtain ⟨hfirst, hrest⟩ := List.pairwise_cons.1 hinc
  -- the base of the window is the first word: nothing lies before the base
  have hbase : c = b := by
    rcases List.mem_cons.1 hc with heq | hmem
    · exact heq
    · have hlt := hfirst c hmem
      rw [dist_self] at hlt
      exact absurd hlt (Nat.not_lt_zero _)
  subst hbase
  refine ⟨?_, fun x hx => hge x (List.mem_cons_of_mem _ hx), hrest⟩
  intro x hx
  have hlt := hfirst x hx
  rwa [dist_self] at hlt

/-- What is ahead has not been reached. -/
theorem Ahead.not_ge {b x : BitVec w} {xs : List (BitVec w)} (h : Ahead b xs) (hx : x ∈ xs) :
    ¬ Ge b x := by
  have hpos := h.pos x hx
  have hlt := h.lt x hx
  have hw : 0 < w := by
    rcases Nat.eq_zero_or_pos w with rfl | hw
    · have := dist_lt b x
      omega
    · exact hw
  have hhalf := half_add_half hw
  unfold Ge
  rw [dist_eq_of_base b x b, dist_self, if_neg (by omega)]
  omega

theorem Ahead.ge {b x : BitVec w} {xs : List (BitVec w)} (h : Ahead b xs) (hx : x ∈ xs) :
    Ge x b :=
  h.lt x hx

/-- Moving on to the first word. -/
theorem Ahead.tail {b x : BitVec w} {xs : List (BitVec w)} (h : Ahead b (x :: xs)) :
    Ahead x xs := by
  obtain ⟨hfirst, hrest⟩ := List.pairwise_cons.1 h.increasing
  have hdist : ∀ y ∈ xs, dist x y = dist b y - dist b x := by
    intro y hy
    rw [dist_eq_of_base b x y, if_pos (Nat.le_of_lt (hfirst y hy))]
  refine ⟨?_, ?_, ?_⟩
  · intro y hy
    have hlt := hfirst y hy
    rw [hdist y hy]
    omega
  · intro y hy
    have hlt := h.lt y (List.mem_cons_of_mem x hy)
    rw [hdist y hy]
    omega
  · refine hrest.imp_of_mem ?_
    intro y z hy hz hlt
    have hy' := hfirst y hy
    rw [hdist y hy, hdist z hz]
    omega

theorem Ahead.append_left {b : BitVec w} {xs ys : List (BitVec w)} (h : Ahead b (xs ++ ys)) :
    Ahead b xs :=
  ⟨fun x hx => h.pos x (List.mem_append_left _ hx), fun x hx => h.lt x (List.mem_append_left _ hx),
    (List.pairwise_append.1 h.increasing).1⟩

end Serial
