import Mathlib.Data.List.Sort

set_option autoImplicit false

/-! # Sets ordered by a key

What a search tree is to its users: a list in the order of a key that no two elements share. An insertion
fails if the key is taken, and a search is by key. -/

namespace OrderedSet

section Distinct

variable {α κ : Type*} {key : α → κ} {l : List α}

/-- No two elements share a key. -/
def Distinct (key : α → κ) (l : List α) : Prop := (l.map key).Nodup

theorem Distinct.nodup (h : Distinct key l) : l.Nodup := List.Nodup.of_map key h

theorem Distinct.erase [DecidableEq α] (h : Distinct key l) (a : α) : Distinct key (l.erase a) :=
  List.Nodup.sublist (List.erase_sublist.map key) h

theorem Distinct.eq_of_key {a b : α} (h : Distinct key l) (ha : a ∈ l) (hb : b ∈ l)
    (hkey : key a = key b) : a = b :=
  List.inj_on_of_nodup_map h ha hb hkey

end Distinct

variable {α κ : Type*} [LinearOrder κ]

/-- `l` with `a` in its place, unless the key of `a` is taken. -/
def insert (key : α → κ) (l : List α) (a : α) : Option (List α) :=
  if l.any (fun x => key x = key a) then none
  else some (l.orderedInsert (fun x y => key x ≤ key y) a)

/-- The element with key `k`. -/
def find (key : α → κ) (l : List α) (k : κ) : Option α := l.find? fun x => key x = k

variable {key : α → κ} {l l' : List α} {a b : α} {k : κ}

theorem insert_eq_some (h : insert key l a = some l') : (∀ x ∈ l, key x ≠ key a) ∧ l'.Perm (a :: l) := by
  unfold insert at h
  split at h
  · cases h
  · next hfree =>
      obtain rfl := Option.some.inj h
      exact ⟨by simpa using hfree, List.perm_orderedInsert _ a l⟩

theorem insert_eq_none (h : insert key l a = none) : ∃ x ∈ l, key x = key a := by
  unfold insert at h
  split at h
  · next htaken => simpa using htaken
  · cases h

theorem mem_insert (h : insert key l a = some l') : b ∈ l' ↔ b = a ∨ b ∈ l := by
  rw [(insert_eq_some h).2.mem_iff, List.mem_cons]

theorem Distinct.insert (h : Distinct key l) (hinsert : insert key l a = some l') : Distinct key l' := by
  obtain ⟨hfree, hperm⟩ := insert_eq_some hinsert
  unfold Distinct
  rw [(hperm.map key).nodup_iff, List.map_cons, List.nodup_cons]
  refine ⟨?_, h⟩
  intro hmem
  obtain ⟨x, hx, hkey⟩ := List.mem_map.1 hmem
  exact hfree x hx hkey

theorem distinct_of_ordered (h : l.Pairwise fun x y => key x < key y) : Distinct key l := by
  unfold Distinct
  rw [List.Nodup, List.pairwise_map]
  exact h.imp ne_of_lt

/-- An insertion keeps the order. -/
theorem insert_ordered (h : l.Pairwise fun x y => key x < key y) (hinsert : insert key l a = some l') :
    l'.Pairwise fun x y => key x < key y := by
  have hsorted : l'.Pairwise fun x y => key x ≤ key y := by
    have htrans : IsTrans α fun x y => key x ≤ key y := ⟨fun _ _ _ => le_trans⟩
    have htotal : Std.Total fun x y : α => key x ≤ key y := ⟨fun _ _ => le_total _ _⟩
    unfold insert at hinsert
    split at hinsert
    · cases hinsert
    · obtain rfl := Option.some.inj hinsert
      exact (h.imp le_of_lt).orderedInsert a
  have hdistinct := (distinct_of_ordered h).insert hinsert
  unfold Distinct at hdistinct
  rw [List.Nodup, List.pairwise_map] at hdistinct
  exact hsorted.imp₂ (fun x y hle hne => lt_of_le_of_ne hle hne) hdistinct

theorem find_eq_some (h : find key l k = some a) : a ∈ l ∧ key a = k := by
  refine ⟨List.mem_of_find?_eq_some h, ?_⟩
  simpa using List.find?_some h

/-- A search finds exactly the element that has the key. -/
theorem Distinct.find_eq_some_iff (h : Distinct key l) : find key l k = some a ↔ a ∈ l ∧ key a = k := by
  refine ⟨find_eq_some, ?_⟩
  rintro ⟨ha, rfl⟩
  cases hfind : find key l (key a) with
  | none =>
      have hnone := List.find?_eq_none.1 hfind a ha
      simp at hnone
  | some b =>
      obtain ⟨hb, hkey⟩ := find_eq_some hfind
      rw [h.eq_of_key hb ha hkey]

end OrderedSet
