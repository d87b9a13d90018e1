import Hgsl.Lib.OrderedSet
import Mathlib.Data.Tree.Basic

set_option autoImplicit false

/-! # Binary search trees

A tree is ordered if its in-order sequence is in the order of the keys. What an insertion and a search do is
stated over that sequence, so that a rebalancing in between, which keeps the sequence, changes nothing. -/

namespace SearchTree

variable {α κ : Type*}

/-- The elements from left to right. -/
def inorder : BinaryTree α → List α
  | .nil => []
  | .node a l r => inorder l ++ a :: inorder r

variable [LinearOrder κ]

/-- The tree with `a` linked at the leaf that its key leads to, unless the key is met on the way. -/
def link (key : α → κ) (a : α) : BinaryTree α → Option (BinaryTree α)
  | .nil => some (.node a .nil .nil)
  | .node x l r =>
    if key x < key a then (link key a r).map (.node x l)
    else if key a < key x then (link key a l).map (fun l' => .node x l' r)
    else none

/-- The first element on the way to `k` that `accept` takes. -/
def descend (key : α → κ) (accept : α → Bool) (k : κ) : BinaryTree α → Option α
  | .nil => none
  | .node x l r =>
    if accept x then some x
    else if key x < k then descend key accept k r
    else if k < key x then descend key accept k l
    else none

/-- The in-order sequence is in the order of the keys, which are distinct. -/
def Ordered (key : α → κ) (t : BinaryTree α) : Prop := (inorder t).Pairwise fun x y => key x < key y

variable {key : α → κ} {t l r : BinaryTree α} {a b x : α} {accept : α → Bool} {k : κ}

@[simp] theorem inorder_nil : inorder (.nil : BinaryTree α) = [] := rfl

@[simp] theorem inorder_node : inorder (.node x l r) = inorder l ++ x :: inorder r := rfl

@[simp] theorem ordered_nil : Ordered key .nil := List.Pairwise.nil

theorem ordered_node : Ordered key (.node x l r) ↔
    Ordered key l ∧ Ordered key r ∧ (∀ y ∈ inorder l, key y < key x) ∧ ∀ y ∈ inorder r, key x < key y := by
  unfold Ordered
  rw [inorder_node, List.pairwise_append, List.pairwise_cons]
  constructor
  · rintro ⟨hl, ⟨hxr, hr⟩, hcross⟩
    exact ⟨hl, hr, fun y hy => hcross y hy x (by simp), hxr⟩
  · rintro ⟨hl, hr, hlx, hxr⟩
    refine ⟨hl, ⟨hxr, hr⟩, ?_⟩
    intro y hy z hz
    rcases List.mem_cons.1 hz with rfl | hz
    · exact hlx y hy
    · exact (hlx y hy).trans (hxr z hz)

/-- An ordered tree is a set with distinct keys. -/
theorem Ordered.distinct (h : Ordered key t) : OrderedSet.Distinct key (inorder t) :=
  OrderedSet.distinct_of_ordered h

/-! ## Insertion -/

/-- A list in which everything up to a place is smaller is inserted into behind that place. -/
theorem orderedInsert_append_right {ls rs : List α} (h : ∀ y ∈ ls, key y < key a) :
    (ls ++ rs).orderedInsert (fun x y => key x ≤ key y) a =
      ls ++ rs.orderedInsert (fun x y => key x ≤ key y) a := by
  induction ls with
  | nil => simp
  | cons y ls ih =>
      have hy : ¬ key a ≤ key y := not_le.2 (h y (by simp))
      simp [hy, ih fun z hz => h z (by simp [hz])]

/-- An element that is smaller than everything from a place on is inserted before that place. -/
theorem orderedInsert_append_left {ls rs : List α} (h : key a < key x) :
    (ls ++ x :: rs).orderedInsert (fun x y => key x ≤ key y) a =
      ls.orderedInsert (fun x y => key x ≤ key y) a ++ x :: rs := by
  induction ls with
  | nil => simp [h.le]
  | cons y ls ih =>
      by_cases hy : key a ≤ key y
      · simp [hy]
      · simp [hy, ih]

/-- An insertion into an ordered tree fails exactly if the key is taken. -/
theorem link_eq_none_iff (h : Ordered key t) : link key a t = none ↔ ∃ x ∈ inorder t, key x = key a := by
  induction t with
  | nil => simp [link]
  | node x l r ihl ihr =>
      obtain ⟨hl, hr, hlx, hxr⟩ := ordered_node.1 h
      rw [link]
      split_ifs with hlt hgt
      · rw [Option.map_eq_none_iff, ihr hr]
        constructor
        · rintro ⟨y, hy, hkey⟩
          exact ⟨y, by simp [hy], hkey⟩
        · rintro ⟨y, hy, hkey⟩
          refine ⟨y, ?_, hkey⟩
          rcases List.mem_append.1 hy with hy | hy
          · exact absurd (hkey ▸ (hlx y hy).trans hlt) (lt_irrefl _)
          · rcases List.mem_cons.1 hy with rfl | hy
            · exact absurd hkey hlt.ne
            · exact hy
      · rw [Option.map_eq_none_iff, ihl hl]
        constructor
        · rintro ⟨y, hy, hkey⟩
          exact ⟨y, by simp [hy], hkey⟩
        · rintro ⟨y, hy, hkey⟩
          refine ⟨y, ?_, hkey⟩
          rcases List.mem_append.1 hy with hy | hy
          · exact hy
          · rcases List.mem_cons.1 hy with rfl | hy
            · exact absurd hkey.symm hgt.ne
            · exact absurd (hkey ▸ hgt.trans (hxr y hy)) (lt_irrefl _)
      · simp only [true_iff]
        exact ⟨x, by simp, le_antisymm (not_lt.1 hgt) (not_lt.1 hlt)⟩

/-- An insertion puts the element into its place in the in-order sequence. -/
theorem inorder_link {t' : BinaryTree α} (h : Ordered key t) (hlink : link key a t = some t') :
    inorder t' = (inorder t).orderedInsert (fun x y => key x ≤ key y) a := by
  induction t generalizing t' with
  | nil =>
      rw [link, Option.some.injEq] at hlink
      simp [← hlink]
  | node x l r ihl ihr =>
      obtain ⟨hl, hr, hlx, -⟩ := ordered_node.1 h
      rw [link] at hlink
      split_ifs at hlink with hlt hgt
      · obtain ⟨r', hr', rfl⟩ := Option.map_eq_some_iff.1 hlink
        have hbelow : ∀ y ∈ inorder l ++ [x], key y < key a := by
          intro y hy
          rcases List.mem_append.1 hy with hy | hy
          · exact (hlx y hy).trans hlt
          · rwa [List.mem_singleton.1 hy]
        rw [inorder_node, inorder_node, ihr hr hr', List.append_cons, List.append_cons _ x (inorder r),
          orderedInsert_append_right hbelow]
      · obtain ⟨l', hl', rfl⟩ := Option.map_eq_some_iff.1 hlink
        rw [inorder_node, inorder_node, ihl hl hl', orderedInsert_append_left hgt]

/-- On an ordered tree `link` is the insertion into the set of the elements. -/
theorem map_inorder_link (h : Ordered key t) :
    (link key a t).map inorder = OrderedSet.insert key (inorder t) a := by
  unfold OrderedSet.insert
  cases hlink : link key a t with
  | none =>
      have htaken := (link_eq_none_iff h).1 hlink
      rw [if_pos (by simpa using htaken), Option.map_none]
  | some t' =>
      have hfree : ¬ ∃ x ∈ inorder t, key x = key a := by
        rw [← link_eq_none_iff h, hlink]
        simp
      rw [if_neg (by simpa using hfree), Option.map_some, inorder_link h hlink]

theorem Ordered.link {t' : BinaryTree α} (h : Ordered key t) (hlink : link key a t = some t') :
    Ordered key t' := by
  refine OrderedSet.insert_ordered h (a := a) ?_
  rw [← map_inorder_link h, hlink, Option.map_some]

/-! ## Search -/

theorem descend_eq_some (h : descend key accept k t = some a) : a ∈ inorder t ∧ accept a = true := by
  induction t with
  | nil => simp [descend] at h
  | node x l r ihl ihr =>
      rw [descend] at h
      split_ifs at h with haccept hlt hgt
      · obtain rfl := Option.some.inj h
        exact ⟨by simp, haccept⟩
      · obtain ⟨hmem, haccept'⟩ := ihr h
        exact ⟨by simp [hmem], haccept'⟩
      · obtain ⟨hmem, haccept'⟩ := ihl h
        exact ⟨by simp [hmem], haccept'⟩

/-- A search ends at `a` if every other element on the way leads towards it. -/
theorem descend_of_steered (h : Ordered key t) (ha : a ∈ inorder t) (haccept : accept a = true)
    (hsteer : ∀ x ∈ inorder t, x ≠ a →
      accept x = false ∧ (key x < key a → key x < k) ∧ (key a < key x → k < key x)) :
    descend key accept k t = some a := by
  induction t with
  | nil => simp at ha
  | node x l r ihl ihr =>
      obtain ⟨hl, hr, hlx, hxr⟩ := ordered_node.1 h
      have hsub : ∀ s : BinaryTree α, (∀ y ∈ inorder s, y ∈ inorder (.node x l r)) → ∀ y ∈ inorder s, y ≠ a →
          accept y = false ∧ (key y < key a → key y < k) ∧ (key a < key y → k < key y) :=
        fun s hs y hy => hsteer y (hs y hy)
      rw [descend]
      by_cases hxa : x = a
      · rw [hxa, if_pos haccept]
      · obtain ⟨hreject, hright, hleft⟩ := hsteer x (by simp) hxa
        rw [if_neg (by simp [hreject])]
        rcases List.mem_append.1 ha with ha | ha
        · have hk := hleft (hlx a ha)
          rw [if_neg hk.not_gt, if_pos hk]
          exact ihl hl ha (hsub l (by simp +contextual))
        · rcases List.mem_cons.1 ha with ha | ha
          · exact absurd ha.symm hxa
          · rw [if_pos (hright (hxr a ha))]
            exact ihr hr ha (hsub r (by simp +contextual))

/-- A search by key finds the element that has it. -/
theorem descend_key (h : Ordered key t) : descend key (fun x => key x = k) k t = OrderedSet.find key (inorder t) k := by
  cases hfind : OrderedSet.find key (inorder t) k with
  | none =>
      cases hdescend : descend key (fun x => key x = k) k t with
      | none => rfl
      | some b =>
          obtain ⟨hmem, hkey⟩ := descend_eq_some hdescend
          rw [h.distinct.find_eq_some_iff.2 ⟨hmem, by simpa using hkey⟩] at hfind
          cases hfind
  | some b =>
      obtain ⟨hmem, rfl⟩ := h.distinct.find_eq_some_iff.1 hfind
      refine descend_of_steered h hmem (by simp) ?_
      intro x hx hne
      refine ⟨?_, id, id⟩
      simpa using fun hkey => hne (h.distinct.eq_of_key hx hmem hkey)

end SearchTree
