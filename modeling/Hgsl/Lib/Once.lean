import Mathlib.Data.List.Perm.Basic
import Mathlib.Data.List.Nodup

set_option autoImplicit false

/-! # Items that are settled once

Items are issued, stay open for a while and are settled, each of them once. `Once issued opened settled`
says that the open and the settled items share out the items issued, none of which was issued twice; the
lemmas follow the three things that can happen to such an account: an item is issued, an item is issued
and settled at the same time, some of the open items are settled. -/

/-- Every issued item is either open or settled, and nothing else is. -/
structure Once {α : Type*} (issued opened settled : List α) : Prop where
  nodup : issued.Nodup
  shares : (opened ++ settled).Perm issued

namespace Once

variable {α : Type*} {issued opened opened' settled : List α} {a : α}

theorem nil : Once ([] : List α) [] [] := ⟨.nil, .nil⟩

/-! ## Reading an account -/

theorem mem_iff (h : Once issued opened settled) : a ∈ issued ↔ a ∈ opened ∨ a ∈ settled := by
  rw [← h.shares.mem_iff, List.mem_append]

theorem append_nodup (h : Once issued opened settled) : (opened ++ settled).Nodup :=
  h.shares.nodup_iff.2 h.nodup

theorem opened_nodup (h : Once issued opened settled) : opened.Nodup :=
  (List.nodup_append.1 h.append_nodup).1

theorem settled_nodup (h : Once issued opened settled) : settled.Nodup :=
  (List.nodup_append.1 h.append_nodup).2.1

theorem not_settled (h : Once issued opened settled) (ha : a ∈ opened) : a ∉ settled :=
  fun hs => (List.nodup_append.1 h.append_nodup).2.2 a ha a hs rfl

/-! ## Moves -/

theorem nodup_append_singleton (h : issued.Nodup) (ha : a ∉ issued) : (issued ++ [a]).Nodup := by
  refine List.nodup_append.2 ⟨h, List.nodup_singleton a, ?_⟩
  intro x hx y hy hxy
  exact ha (List.mem_singleton.1 hy ▸ hxy ▸ hx)

theorem issue (h : Once issued opened settled) (ha : a ∉ issued) :
    Once (issued ++ [a]) (opened ++ [a]) settled := by
  refine ⟨nodup_append_singleton h.nodup ha, ?_⟩
  rw [List.append_assoc]
  exact (List.perm_append_comm.append_left opened).trans
    (by rw [← List.append_assoc]; exact h.shares.append_right [a])

theorem issueSettled (h : Once issued opened settled) (ha : a ∉ issued) :
    Once (issued ++ [a]) opened (settled ++ [a]) := by
  refine ⟨nodup_append_singleton h.nodup ha, ?_⟩
  rw [← List.append_assoc]
  exact h.shares.append_right [a]

/-- Some of the open items are settled, the others stay open. -/
theorem settle {done : List α} (h : Once issued opened settled)
    (hsplit : (opened' ++ done).Perm opened) : Once issued opened' (settled ++ done) := by
  refine ⟨h.nodup, ?_⟩
  refine List.Perm.trans ?_ h.shares
  refine List.Perm.trans ?_ (hsplit.append_right settled)
  rw [List.append_assoc]
  exact List.perm_append_comm.append_left opened'

/-- Items change hands, and as many of each are open or settled as before. -/
theorem move [BEq α] [LawfulBEq α] {settled' : List α} (h : Once issued opened settled)
    (hcount : ∀ a, (opened' ++ settled').count a = (opened ++ settled).count a) :
    Once issued opened' settled' :=
  ⟨h.nodup, (List.perm_iff_count.2 hcount).trans h.shares⟩

end Once
