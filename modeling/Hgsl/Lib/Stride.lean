import Mathlib.Algebra.Group.Basic
import Mathlib.Algebra.Group.Nat.Defs

set_option autoImplicit false

/-! # Walking over an array in foreign memory

A loop copies in one element after the other and hands it to a handler; either of them can end the loop with
an error. The address advances by a stride. Whether the elements lie at a stride of their own is a property
of the addresses that were read: a walk with another stride has it exactly when it does not get past the
first element. -/

namespace Stride

variable {A α β σ ε : Type*}

/-- What a walk has done. -/
structure Walk (A σ ε : Type*) where
  /-- the addresses it copied from -/
  reads : List A
  state : σ
  error : Option ε
  deriving DecidableEq, Repr

/-- Walks over `n` elements from address `p` on. -/
def walk [Add A] (copy : A → Except ε α) (handle : σ → α → σ × Option ε) (stride : A) :
    A → Nat → σ → Walk A σ ε
  | _, 0, s => ⟨[], s, none⟩
  | p, n + 1, s =>
    match copy p with
    | .error e => ⟨[p], s, some e⟩
    | .ok a =>
      match handle s a with
      | (s', some e) => ⟨[p], s', some e⟩
      | (s', none) =>
        let rest := walk copy handle stride (p + stride) n s'
        { rest with reads := p :: rest.reads }

/-- Element `i` was read at `p + i • stride`. -/
def AtStride [AddMonoid A] (p stride : A) (reads : List A) : Prop :=
  ∀ i (h : i < reads.length), reads[i] = p + i • stride

/-- The element at `p` is copied and handled. -/
def Taken (copy : A → Except ε α) (handle : σ → α → σ × Option ε) (p : A) (s : σ) : Bool :=
  match copy p with
  | .error _ => false
  | .ok a => (handle s a).2.isNone

section Walk

variable [AddGroup A] (copy : A → Except ε α) (handle : σ → α → σ × Option ε) (stride : A)

@[simp] theorem walk_zero (p : A) (s : σ) : walk copy handle stride p 0 s = ⟨[], s, none⟩ := rfl

variable {copy handle stride}

theorem walk_of_not_taken {p : A} {s : σ} (h : Taken copy handle p s = false) (stride' : A) (n m : Nat) :
    walk copy handle stride p (n + 1) s = walk copy handle stride' p (m + 1) s ∧
      (walk copy handle stride p (n + 1) s).reads = [p] := by
  unfold Taken at h
  unfold walk
  cases hcopy : copy p with
  | error e => simp
  | ok a =>
      simp only [hcopy] at h
      rcases hhandle : handle s a with ⟨s', _ | e⟩
      · simp [hhandle] at h
      · simp [hhandle]

theorem walk_of_taken {p : A} {s : σ} (h : Taken copy handle p s = true) :
    ∃ a s', copy p = .ok a ∧ handle s a = (s', none) ∧ ∀ (stride : A) n,
      walk copy handle stride p (n + 1) s =
        { walk copy handle stride (p + stride) n s' with
          reads := p :: (walk copy handle stride (p + stride) n s').reads } := by
  unfold Taken at h
  cases hcopy : copy p with
  | error e => simp [hcopy] at h
  | ok a =>
      simp only [hcopy] at h
      rcases hhandle : handle s a with ⟨s', _ | e⟩
      · refine ⟨a, s', rfl, hhandle, ?_⟩
        intro stride n
        simp only [walk, hcopy, hhandle]
      · simp [hhandle] at h

theorem atStride_nil (p stride : A) : AtStride p stride [] := by
  intro i h
  simp at h

theorem atStride_cons {p stride : A} {reads : List A} :
    AtStride p stride (p :: reads) ↔ AtStride (p + stride) stride reads := by
  constructor
  · intro h i hi
    have := h (i + 1) (by simpa using hi)
    simpa [succ_nsmul', add_assoc] using this
  · intro h i hi
    cases i with
    | zero => simp
    | succ i =>
        have := h i (by simpa using hi)
        simpa [succ_nsmul', add_assoc] using this

/-- A walk reads at its own stride. -/
theorem atStride_walk (p : A) (n : Nat) (s : σ) : AtStride p stride (walk copy handle stride p n s).reads := by
  induction n generalizing p s with
  | zero => exact atStride_nil p stride
  | succ n ih =>
      cases h : Taken copy handle p s with
      | false =>
          rw [(walk_of_not_taken h stride n n).2, atStride_cons]
          exact atStride_nil _ _
      | true =>
          obtain ⟨a, s', -, -, hwalk⟩ := walk_of_taken h
          rw [hwalk, atStride_cons]
          exact ih _ _

/-- A walk gets past the first element if there are two and it is taken. -/
theorem one_lt_length_reads_iff {p : A} {n : Nat} {s : σ} :
    1 < (walk copy handle stride p n s).reads.length ↔ 1 < n ∧ Taken copy handle p s = true := by
  cases n with
  | zero => simp
  | succ n =>
      cases h : Taken copy handle p s with
      | false => simp [(walk_of_not_taken h stride n n).2]
      | true =>
          obtain ⟨a, s', -, -, hwalk⟩ := walk_of_taken h
          rw [hwalk]
          cases n with
          | zero => simp
          | succ n =>
              cases h' : Taken copy handle (p + stride) s' with
              | false => simp [(walk_of_not_taken h' stride n n).2]
              | true =>
                  obtain ⟨a', s'', -, -, hwalk'⟩ := walk_of_taken h'
                  simp [hwalk']

/-- **Another stride.** A walk reads at a stride that is not its own exactly when it does not get to a
    second element. -/
theorem atStride_walk_iff {p stride' : A} {n : Nat} {s : σ} :
    AtStride p stride' (walk copy handle stride p n s).reads ↔
      stride = stride' ∨ ¬ (1 < n ∧ Taken copy handle p s = true) := by
  have hown : AtStride p stride (walk copy handle stride p n s).reads := atStride_walk p n s
  have hsecond : 1 < (walk copy handle stride p n s).reads.length ↔ 1 < n ∧ Taken copy handle p s = true :=
    one_lt_length_reads_iff
  rw [← hsecond]
  constructor
  · intro h
    by_cases hlen : 1 < (walk copy handle stride p n s).reads.length
    · left
      have heq := (hown 1 hlen).symm.trans (h 1 hlen)
      simpa [one_nsmul] using heq
    · exact .inr hlen
  · rintro (rfl | hlen)
    · exact hown
    · intro i hi
      obtain rfl : i = 0 := by omega
      have := hown 0 hi
      simpa using this

/-- Two walks over the same elements, wherever these lie, do the same. -/
theorem walk_congr {B : Type*} [AddGroup B] {copy' : B → Except ε α} {stride' : B} {p : A} {p' : B} {n : Nat}
    {s : σ} (h : ∀ i < n, copy (p + i • stride) = copy' (p' + i • stride')) :
    (walk copy handle stride p n s).state = (walk copy' handle stride' p' n s).state ∧
      (walk copy handle stride p n s).error = (walk copy' handle stride' p' n s).error := by
  induction n generalizing p p' s with
  | zero => exact ⟨rfl, rfl⟩
  | succ n ih =>
      have hfirst : copy p = copy' p' := by simpa using h 0 (by omega)
      have hrest : ∀ i < n, copy (p + stride + i • stride) = copy' (p' + stride' + i • stride') := by
        intro i hi
        have := h (i + 1) (by omega)
        simpa [succ_nsmul', add_assoc] using this
      cases hcopy : copy' p' with
      | error e => simp [walk, hfirst, hcopy]
      | ok a =>
          rcases hhandle : handle s a with ⟨s', _ | e⟩
          · simpa only [walk, hfirst, hcopy, hhandle] using ih hrest
          · simp [walk, hfirst, hcopy, hhandle]

/-- A walk that does not get past the first element does what one with any stride does. -/
theorem walk_eq_of_short {p : A} {n : Nat} {s : σ} (h : ¬ (1 < n ∧ Taken copy handle p s = true)) (stride' : A) :
    walk copy handle stride p n s = walk copy handle stride' p n s := by
  cases n with
  | zero => rfl
  | succ n =>
      cases htaken : Taken copy handle p s with
      | false => exact (walk_of_not_taken htaken stride' n n).1
      | true =>
          obtain rfl : n = 0 := by
            by_contra hn
            exact h ⟨by omega, htaken⟩
          obtain ⟨a, s', -, -, hwalk⟩ := walk_of_taken htaken
          simp [hwalk]

end Walk

end Stride
