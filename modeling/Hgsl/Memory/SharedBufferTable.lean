import Hgsl.Memory.SharedBuffer

set_option autoImplicit false

/-! # The internal table and those who use it

The counter of the table is the number of those who have it, and the reference that the table has taken is
the one that it still has. Both are kept by everyone who gets the table and everyone who puts it, provided
that a table made by `hgsl_lock_pages`, before the dma-buf, is never the one that drops a reference. -/

namespace Hgsl

namespace SharedBuffer

/-- The table is counted, and so is its reference. -/
structure TableInv (s : SharedBuffer) : Prop where
  count : s.node.sgtRefcount.toNat = s.getters.length
  sgt : s.getters ≠ [] → ∃ t, s.node.sgt = .ptr t
  noSgt : s.getters = [] → s.node.sgt = .null
  held : Custody.run [] s.events = some s.tableRefs
  table : s.file.holders.count .table = s.tableRefs.length

section Table

variable {s : SharedBuffer} {g : SgtGetter} {got : SgtGot} {put : SgtPut}

theorem TableInv.ne_null_iff (h : s.TableInv) : s.node.sgt ≠ .null ↔ s.getters ≠ [] := by
  constructor
  · intro hsgt hnil
    exact hsgt (h.noSgt hnil)
  · intro hne
    obtain ⟨t, ht⟩ := h.sgt hne
    simp [ht]

theorem TableInv.getters_nil (h : s.TableInv) (hsgt : s.node.sgt.isErrOrNull = true) : s.getters = [] := by
  by_contra hne
  obtain ⟨t, ht⟩ := h.sgt hne
  simp [ht] at hsgt

theorem tableRefs_of_nil (h : s.TableInv) (hnil : s.getters = []) : s.tableRefs = [] := by
  simp [tableRefs, h.noSgt hnil]

@[simp] theorem join_refused (s : SharedBuffer) (g : SgtGetter) (e : Int) :
    s.join g { sgt := .err e, node := s.node, events := [] } = s := by
  simp [join, tableFile]

/-- **One more.** The first to get the table has to find the dma-buf there. -/
theorem TableInv.join (h : s.TableInv) (hgot : GotInternal s.node got) (hroom : s.getters.length + 1 < 2 ^ 32)
    (hfirst : s.getters = [] → s.locked = false ∧ s.node.dmaBuf ≠ .null) : (s.join g got).TableInv := by
  cases hgot with
  | refused e he => simpa using h
  | counted t ht =>
      have hcount : (s.node.sgtRefcount + 1#32).toNat = s.getters.length + 1 := by
        have hc := h.count
        rw [BitVec.toNat_add]
        simp only [BitVec.toNat_ofNat]
        omega
      refine ⟨by simpa [join] using hcount, ?_, by simp [join], ?_, ?_⟩
      · intro _
        exact ⟨t, by simpa [join] using ht⟩
      · simpa [join, tableRefs] using h.held
      · simpa [join, tableRefs, tableFile] using h.table
  | made t hnone =>
      have hnil := h.getters_nil hnone
      obtain ⟨hlocked, hbuf⟩ := hfirst hnil
      have hrefs := tableRefs_of_nil h hnil
      refine ⟨by simp [join, hnil], ?_, by simp [join], ?_, ?_⟩
      · intro _
        exact ⟨t, by simp [join]⟩
      · have hheld := h.held
        rw [hrefs] at hheld
        simp [join, hbuf, Custody.run_append, hheld, tableRefs, hlocked]
      · have htable := h.table
        rw [hrefs] at htable
        simp [join, hbuf, tableFile, tableRefs, hlocked, RefCount.get]
        simpa using htable

/-- **One less.** The last to put the table finds the dma-buf there if the table has a reference, and only
    then. -/
theorem TableInv.leave (h : s.TableInv) (hput : PutInternal s.node put) (hmem : g ∈ s.getters)
    (hlast : s.getters.length = 1 → (s.node.dmaBuf ≠ .null ↔ s.locked = false)) : (s.leave g put).TableInv := by
  have hne : s.getters ≠ [] := List.ne_nil_of_mem hmem
  obtain ⟨t, ht⟩ := h.sgt hne
  have hpos := List.length_pos_of_mem hmem
  have hcount := h.count
  have herase := List.length_erase_of_mem hmem
  cases hput with
  | ignored hnone =>
      obtain hzero | hnull := hnone
      · rw [hzero] at hcount
        simp at hcount
        exact absurd (List.eq_nil_of_length_eq_zero hcount.symm) hne
      · simp [ht] at hnull
  | counted hsgt hzero hone =>
      have hlen : s.getters.length ≠ 1 := by
        intro hlen
        apply hone
        apply BitVec.eq_of_toNat_eq
        simpa [hlen] using hcount
      have hrest : s.getters.erase g ≠ [] := by
        intro hnil
        rw [hnil] at herase
        simp at herase
        omega
      refine ⟨?_, ?_, ?_, ?_, ?_⟩
      · have hsub : (s.node.sgtRefcount - 1#32).toNat = s.node.sgtRefcount.toNat - 1 := by
          rw [BitVec.toNat_sub_of_le]
          · simp
          · rw [BitVec.le_def]
            simp
            omega
        simp only [SharedBuffer.leave]
        rw [hsub, hcount, herase]
      · intro _
        exact ⟨t, by simpa [SharedBuffer.leave] using ht⟩
      · intro hnil
        exact absurd (by simpa [SharedBuffer.leave] using hnil) hrest
      · simpa [SharedBuffer.leave, tableRefs] using h.held
      · simpa [SharedBuffer.leave, tableRefs, tableFile] using h.table
  | freed hsgt hone =>
      rw [hone] at hcount
      have hlen : s.getters.length = 1 := by simpa using hcount.symm
      have hnil : s.getters.erase g = [] := by
        apply List.eq_nil_of_length_eq_zero
        omega
      have hbuf := hlast hlen
      have hheld := h.held
      have htable := h.table
      cases hlocked : s.locked with
      | true =>
          have hnull : s.node.dmaBuf = .null := by
            by_contra hne
            simp [hlocked] at hbuf
            exact hne hbuf
          have hrefs : s.tableRefs = [] := by simp [tableRefs, hlocked]
          rw [hrefs] at hheld htable
          exact ⟨by simp [SharedBuffer.leave, hnil], by simp [SharedBuffer.leave, hnil], by simp [SharedBuffer.leave],
            by simpa [SharedBuffer.leave, tableRefs, hnull] using hheld,
            by simpa [SharedBuffer.leave, tableRefs, tableFile, hnull] using htable⟩
      | false =>
          have hthere : s.node.dmaBuf ≠ .null := by simpa [hlocked] using hbuf
          have hrefs : s.tableRefs = [.ref s.node.dmaBuf] := by simp [tableRefs, hlocked, hsgt]
          rw [hrefs] at hheld htable
          refine ⟨by simp [SharedBuffer.leave, hnil], by simp [SharedBuffer.leave, hnil],
            by simp [SharedBuffer.leave], ?_, ?_⟩
          · simp [SharedBuffer.leave, tableRefs, hthere, Custody.run_append, hheld]
          · simp only [List.length_singleton] at htable
            simp [SharedBuffer.leave, tableRefs, tableFile, hthere, RefCount.put, htable]

end Table

/-! ## Those who hold the dma-buf -/

section Holders

variable {s : SharedBuffer} {g : SgtGetter} {got : SgtGot} {put : SgtPut}

theorem count_tableFile {h : BufHolder} (hne : h ≠ .table) (es : List DmaEvent) (file : RefCount BufHolder) :
    (tableFile es file).holders.count h = file.holders.count h := by
  induction es generalizing file with
  | nil => simp [tableFile]
  | cons e es ih =>
      cases e with
      | acquire r => rw [tableFile, ih, RefCount.count_get_of_ne hne]
      | release r => rw [tableFile, ih, RefCount.count_put_of_ne hne]

theorem mem_tableFile {h : BufHolder} (hne : h ≠ .table) (es : List DmaEvent) (file : RefCount BufHolder) :
    h ∈ (tableFile es file).holders ↔ h ∈ file.holders := by
  rw [← List.count_pos_iff, count_tableFile hne, List.count_pos_iff]

/-- The count of the file is that of its holders, and a mapping belongs to one of them. -/
structure HolderInv (s : SharedBuffer) : Prop where
  balanced : s.file.Balanced
  mapping : ∀ i t, .mapping i t ∈ s.getters → t = s.node.sgt ∧ .importer i ∈ s.file.holders

theorem HolderInv.join (h : s.HolderInv) (ht : s.TableInv) (hgot : GotInternal s.node got)
    (hg : ∀ i t, g = .mapping i t → t = got.sgt ∧ .importer i ∈ s.file.holders) : (s.join g got).HolderInv := by
  cases hgot with
  | refused e he => simpa using h
  | counted t hsgt =>
      refine ⟨by simpa [SharedBuffer.join, tableFile] using h.balanced, ?_⟩
      intro i t' hmem
      have hmem' : g = .mapping i t' ∨ .mapping i t' ∈ s.getters := by
        simpa [SharedBuffer.join, eq_comm] using hmem
      obtain hnew | hold := hmem'
      · simpa [SharedBuffer.join, tableFile, hsgt] using hg i t' hnew
      · simpa [SharedBuffer.join, tableFile] using h.mapping i t' hold
  | made t hnone =>
      have hnil := ht.getters_nil hnone
      refine ⟨?_, ?_⟩
      · by_cases hbuf : s.node.dmaBuf = .null
        · simpa [SharedBuffer.join, tableFile, hbuf] using h.balanced
        · simpa [SharedBuffer.join, tableFile, hbuf] using h.balanced.get .table
      · intro i t' hmem
        have hnew : g = .mapping i t' := by simpa [SharedBuffer.join, hnil, eq_comm] using hmem
        obtain ⟨hsgt, himp⟩ := hg i t' hnew
        refine ⟨by simpa [SharedBuffer.join] using hsgt, ?_⟩
        exact (mem_tableFile (by simp) _ _).2 himp

theorem HolderInv.leave (h : s.HolderInv) (ht : s.TableInv) (hput : PutInternal s.node put)
    (hmem : g ∈ s.getters) (hlast : s.getters.length = 1 → (s.node.dmaBuf ≠ .null ↔ s.locked = false)) :
    (s.leave g put).HolderInv := by
  have hrest : ∀ i t, .mapping i t ∈ s.getters.erase g → t = s.node.sgt ∧ .importer i ∈ s.file.holders :=
    fun i t hmem => h.mapping i t (List.mem_of_mem_erase hmem)
  cases hput with
  | ignored hnone => exact ⟨by simpa [SharedBuffer.leave, tableFile] using h.balanced,
      by simpa [SharedBuffer.leave, tableFile] using hrest⟩
  | counted hsgt hzero hone => exact ⟨by simpa [SharedBuffer.leave, tableFile] using h.balanced,
      by simpa [SharedBuffer.leave, tableFile] using hrest⟩
  | freed hsgt hone =>
      have hcount := ht.count
      rw [hone] at hcount
      have hlen : s.getters.length = 1 := by simpa using hcount.symm
      have hnil : s.getters.erase g = [] := by
        apply List.eq_nil_of_length_eq_zero
        have herase := List.length_erase_of_mem hmem
        omega
      refine ⟨?_, by simp [SharedBuffer.leave, hnil]⟩
      by_cases hbuf : s.node.dmaBuf = .null
      · simpa [SharedBuffer.leave, tableFile, hbuf] using h.balanced
      · have hlocked := (hlast hlen).1 hbuf
        have htable := ht.table
        have hheld : .table ∈ s.file.holders := by
          rw [← List.count_pos_iff, htable]
          simp [tableRefs, hsgt, hlocked]
        simpa [SharedBuffer.leave, tableFile, hbuf] using h.balanced.put hheld

end Holders

end SharedBuffer

end Hgsl
