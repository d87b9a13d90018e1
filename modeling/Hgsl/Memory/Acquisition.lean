import Hgsl.Lib.Trace
import Hgsl.Memory.ScatterTables

set_option autoImplicit false

/-! # Getting a scatter table and giving it back

`hgsl_get_sgt_iommu` and `hgsl_get_sgt` keep what they acquire in the node, whether they succeed or not;
`hgsl_put_sgt_iommu` and `hgsl_put_sgt` release it from there. A node that the driver has imported has a file
descriptor and is served by the dma-buf core; a node that it has allocated has a dma-buf, and its table is
the internal one. -/

namespace Hgsl

/-! ## Nodes -/

/-- A node that nobody has used yet. `internal` says that the driver has allocated it; its pages may be
    locked then. -/
structure UnusedNode (internal : Bool) (n : SgtNode) : Prop where
  attach : n.attach = .null
  sgtExt : n.sgtExt = .null
  sgt : n.sgt.isErr = false
  info : n.memNodeIommuInfo = {}
  imported : internal = false → n.dmaBuf = .null
  allocated : internal = true → n.dmaBuf.isErrOrNull = false

/-- What the driver and the importers do with the tables of a node. -/
inductive TableOp where
  | getSgtIommu (calls : DmaCalls)
  | putSgtIommu
  | getSgt (calls : DmaCalls) (table : TableCalls)
  | putSgt
  | map (table : TableCalls)
  | unmap (sgt : KPtr)

def TableOp.step (internal : Bool) (n : SgtNode) : TableOp → Option SgtNode
  | .getSgtIommu calls => some (hgslGetSgtIommu calls n).node
  | .putSgtIommu => some (hgslPutSgtIommu n).node
  | .getSgt calls table => some (hgslGetSgt calls table internal n).node
  | .putSgt => some (hgslPutSgt internal n).node
  | .map table => if internal then some (hgslMemMapDmaBuf table n).node else none
  | .unmap sgt => if internal then some (hgslMemUnmapDmaBuf sgt n).node else none

/-! ## What a node holds -/

/-- What is held by a dma-buf, an attachment and a table in the fields of a node. -/
def heldBy (dmaBuf attach sgt : KPtr) : List DmaResource :=
  (if sgt.isErrOrNull then [] else [.mapping attach sgt]) ++
    (if attach.isErrOrNull then [] else [.attachment dmaBuf attach]) ++
      if dmaBuf.isErrOrNull then [] else [.ref dmaBuf]

/-- For the table of the SMMU. -/
def heldIommu (n : SgtNode) : List DmaResource :=
  heldBy n.memNodeIommuInfo.dmaBufIommu n.memNodeIommuInfo.attachIommu n.memNodeIommuInfo.sgtIommu

/-- For the table of the cache operations: of an allocated node, it is the reference of the internal table. -/
def heldSgt (internal : Bool) (n : SgtNode) : List DmaResource :=
  if internal then if n.sgt.isErrOrNull then [] else [.ref n.dmaBuf] else heldBy n.dmaBuf n.attach n.sgtExt

/-- `hgsl_get_sgt_iommu` and `hgsl_put_sgt_iommu`, one after the other, release what they acquire and nothing
    else: what is not released is still held, by a table that is still in use. No field is left with an error
    pointer. -/
def IommuClean (calls : DmaCalls) (n : SgtNode) : Prop :=
  let got := hgslGetSgtIommu calls n
  let put := hgslPutSgtIommu got.node
  let info := put.node.memNodeIommuInfo
  Custody.run (heldIommu n) (got.events ++ put.events) = some (heldIommu put.node) ∧
    (info.sgtIommu = .null → heldIommu put.node = []) ∧
      put.node.dmaBuf.isErr = false ∧ info.dmaBufIommu.isErr = false ∧ info.attachIommu.isErr = false ∧
        info.sgtIommu.isErr = false

/-- The same for `hgsl_get_sgt` and `hgsl_put_sgt`; an imported node, which is freed then, holds nothing. -/
def SgtClean (internal : Bool) (calls : DmaCalls) (table : TableCalls) (n : SgtNode) : Prop :=
  let got := hgslGetSgt calls table internal n
  let put := hgslPutSgt internal got.node
  Custody.run (heldSgt internal n) (got.events ++ put.events) = some (heldSgt internal put.node) ∧
    (internal = false → heldSgt internal put.node = []) ∧
      put.node.dmaBuf.isErr = false ∧ put.node.attach.isErr = false ∧ put.node.sgtExt.isErr = false ∧
        put.node.sgt.isErr = false

/-! ## When this is so -/

def isOk : Except Int Nat → Bool
  | .error _ => false
  | .ok _ => true

/-- No error pointer is left from an earlier call, and if the dma-buf core has to be asked, for a table that
    is not there, it gives the dma-buf and the attachment. -/
def IommuSucceeds (calls : DmaCalls) (n : SgtNode) : Prop :=
  let info := n.memNodeIommuInfo
  if info.sgtIommu.isErrOrNull = false ∨ n.dmaBuf = .null ∧ n.fd < 0 then
    n.dmaBuf.isErr = false ∧ info.dmaBufIommu.isErr = false ∧ info.attachIommu.isErr = false
  else
    (n.dmaBuf.isErrOrNull = false ∨ n.dmaBuf = .null ∧ isOk calls.get = true) ∧
      info.attachIommu.isErrOrNull = true ∧ isOk calls.attach = true

/-- The table is there, or each call that is needed for it succeeds. -/
def SgtSucceeds (internal : Bool) (calls : DmaCalls) (table : TableCalls) (n : SgtNode) : Prop :=
  n.sgtExt.isErrOrNull = false ∨
    if internal then
      n.pages ≠ none ∧ n.pageCount ≠ 0 ∧ (n.sgt.isErrOrNull = false ∨ table.zalloc ≠ none ∧ table.allocTable = 0)
    else
      (n.attach.isErrOrNull = false ∨
        (n.dmaBuf.isErrOrNull = false ∨ isOk calls.get = true) ∧ isOk calls.attach = true) ∧ isOk calls.map = true

/-! ## The table of the SMMU -/

/-- What the fields for the SMMU can hold: all of a table, nothing, or an error pointer in the place of the
    dma-buf. -/
def IommuState (info : NodeIommuInfo) : Prop :=
  (info.sgtIommu.isErrOrNull = false ∧ info.attachIommu.isErrOrNull = false ∧ info.dmaBufIommu ≠ .null) ∨
    info.sgtIommu = .null ∧ (info.dmaBufIommu = .null ∧ info.attachIommu = .null ∨ info.dmaBufIommu.isErr = true)

section Iommu

variable {calls : DmaCalls} {n : SgtNode} {info : NodeIommuInfo}

/-- What the first part of `hgsl_get_sgt_iommu` comes to. -/
theorem getIommuDmaBuf_cases (calls : DmaCalls) (n : SgtNode) :
    (n.dmaBuf = .null ∧ n.fd < 0) ∧ getIommuDmaBuf calls n = none ∨
      ¬ (n.dmaBuf = .null ∧ n.fd < 0) ∧
        ((∃ b, (n.dmaBuf.isErrOrNull = false ∨ n.dmaBuf = .null ∧ isOk calls.get = true) ∧ n.dmaBuf.isErr = false ∧
            getIommuDmaBuf calls n =
              some ({ n.memNodeIommuInfo with dmaBufIommu := .ptr b }, [.acquire (.ref (.ptr b))])) ∨
          ∃ e events, ¬ (n.dmaBuf.isErrOrNull = false ∨ n.dmaBuf = .null ∧ isOk calls.get = true) ∧
            getIommuDmaBuf calls n = some ({ n.memNodeIommuInfo with dmaBufIommu := .err e }, events)) := by
  cases hbuf : n.dmaBuf with
  | ptr b => exact .inr ⟨by simp, .inl ⟨b, by simp, by simp, by simp [getIommuDmaBuf, hbuf]⟩⟩
  | err e => exact .inr ⟨by simp, .inr ⟨e, _, by simp, by simp [getIommuDmaBuf, hbuf]; rfl⟩⟩
  | null =>
      by_cases hfd : n.fd < 0
      · exact .inl ⟨⟨rfl, hfd⟩, by simp [getIommuDmaBuf, hbuf, hfd]⟩
      · cases hget : calls.get with
        | ok b =>
            refine .inr ⟨by simp [hfd], .inl ⟨b, by simp [isOk], by simp, ?_⟩⟩
            simp [getIommuDmaBuf, hbuf, hfd, hget]
        | error e =>
            refine .inr ⟨by simp [hfd], .inr ⟨e, [], by simp [isOk], ?_⟩⟩
            simp [getIommuDmaBuf, hbuf, hfd, hget]

/-- Without a dma-buf, the error pointer stays. -/
theorem getIommuTable_err (calls : DmaCalls) (info : NodeIommuInfo) (hbuf : info.dmaBufIommu.isErr = true)
    (hsgt : info.sgtIommu = .null) :
    (getIommuTable calls info).2.1.dmaBufIommu = info.dmaBufIommu ∧ IommuState (getIommuTable calls info).2.1 := by
  obtain ⟨sgt, count, buf, att⟩ := info
  dsimp only at hbuf hsgt
  subst hsgt
  cases buf with
  | null => simp at hbuf
  | ptr b => simp at hbuf
  | err e =>
      cases hattached : att.isErrOrNull <;> cases hattach : calls.attach <;> cases hmap : calls.map <;>
        simp [getIommuTable, getIommuAttach, undoGetIommu, hattached, hattach, hmap, IommuState]

theorem getIommuTable_ptr (calls : DmaCalls) (info : NodeIommuInfo) {b : Nat} (hbuf : info.dmaBufIommu = .ptr b)
    (hsgt : info.sgtIommu = .null) :
    IommuState (getIommuTable calls info).2.1 := by
  obtain ⟨sgt, count, buf, att⟩ := info
  dsimp only at hbuf hsgt
  subst hbuf hsgt
  cases hattached : att.isErrOrNull <;> cases hattach : calls.attach <;> cases hmap : calls.map <;>
    simp [getIommuTable, getIommuAttach, undoGetIommu, hattached, hattach, hmap, IommuState]

theorem IommuState.get (h : IommuState n.memNodeIommuInfo) (calls : DmaCalls) :
    IommuState (hgslGetSgtIommu calls n).node.memNodeIommuInfo := by
  cases hsgt : n.memNodeIommuInfo.sgtIommu.isErrOrNull with
  | false =>
      simp only [hgslGetSgtIommu, hsgt]
      exact h
  | true =>
      have hnull : n.memNodeIommuInfo.sgtIommu = .null := by
        obtain ⟨hused, -⟩ | ⟨hnull, -⟩ := h
        · simp [hsgt] at hused
        · exact hnull
      obtain ⟨-, hget⟩ | ⟨-, ⟨b, -, -, hget⟩ | ⟨e, events, -, hget⟩⟩ := getIommuDmaBuf_cases calls n
      · simpa [hgslGetSgtIommu, hsgt, hget] using h
      · simpa [hgslGetSgtIommu, hsgt, hget] using
          getIommuTable_ptr calls { n.memNodeIommuInfo with dmaBufIommu := .ptr b } rfl hnull
      · simpa [hgslGetSgtIommu, hsgt, hget] using
          (getIommuTable_err calls { n.memNodeIommuInfo with dmaBufIommu := .err e } (by simp) hnull).2

theorem IommuState.put (h : IommuState n.memNodeIommuInfo) :
    IommuState (hgslPutSgtIommu n).node.memNodeIommuInfo := by
  by_cases hnull : n.memNodeIommuInfo.sgtIommu = .null
  · simpa [hgslPutSgtIommu, hnull] using h
  · obtain ⟨hused, hatt, hbuf⟩ | ⟨hsgt, -⟩ := h
    · by_cases hlast : n.memNodeIommuInfo.sgtIommuRefcount - 1#32 = 0#32
      · cases hb : n.memNodeIommuInfo.dmaBufIommu with
        | null => exact absurd hb hbuf
        | err e => simp [hgslPutSgtIommu, hnull, hlast, lastPutIommu, hatt, hb, IommuState]
        | ptr b => simp [hgslPutSgtIommu, hnull, hlast, lastPutIommu, hatt, hb, IommuState]
      · simpa [hgslPutSgtIommu, hnull, hlast, IommuState] using ⟨hused, hatt, hbuf⟩
    · exact absurd hsgt hnull

/-- A table that is in use is counted, and stays as it is. -/
theorem iommuClean_of_table (h : IommuState n.memNodeIommuInfo)
    (hsgt : n.memNodeIommuInfo.sgtIommu.isErrOrNull = false) :
    IommuClean calls n ↔ n.dmaBuf.isErr = false ∧ n.memNodeIommuInfo.dmaBufIommu.isErr = false ∧
      n.memNodeIommuInfo.attachIommu.isErr = false := by
  generalize hinfo : n.memNodeIommuInfo = info at *
  obtain ⟨tab, count, buf, att⟩ := info
  obtain ⟨t, rfl⟩ := KPtr.isErrOrNull_eq_false.1 hsgt
  obtain ⟨-, hatt, hbuf⟩ | ⟨hnull, -⟩ := h
  · obtain ⟨a, rfl⟩ := KPtr.isErrOrNull_eq_false.1 hatt
    by_cases hzero : count = 0#32
    · -- the counter has wrapped, and the call that counts is the last one
      cases buf <;> simp_all [IommuClean, hgslGetSgtIommu, hgslPutSgtIommu, lastPutIommu, heldIommu, heldBy]
    · simp [IommuClean, hgslGetSgtIommu, hgslPutSgtIommu, heldIommu, heldBy, hinfo, hzero]
  · simp at hnull

/-- Without a dma-buf and a file descriptor nothing happens. -/
theorem iommuClean_of_none (h : IommuState n.memNodeIommuInfo) (hsgt : n.memNodeIommuInfo.sgtIommu = .null)
    (hget : getIommuDmaBuf calls n = none) :
    IommuClean calls n ↔ n.dmaBuf.isErr = false ∧ n.memNodeIommuInfo.dmaBufIommu.isErr = false ∧
      n.memNodeIommuInfo.attachIommu.isErr = false := by
  generalize hinfo : n.memNodeIommuInfo = info at *
  obtain ⟨tab, count, buf, att⟩ := info
  dsimp only at hsgt
  subst hsgt
  obtain ⟨hused, -⟩ | ⟨-, ⟨hb, ha⟩ | hb⟩ := h
  · simp at hused
  · dsimp only at hb ha
    subst hb ha
    simp [IommuClean, hgslGetSgtIommu, hgslPutSgtIommu, heldIommu, heldBy, hinfo, hget]
  · simp [IommuClean, hgslGetSgtIommu, hgslPutSgtIommu, hinfo, hget, hb]

/-- An error pointer for the dma-buf is never taken back. -/
theorem not_iommuClean_of_err {e : Int} {events : List DmaEvent} (hsgt : n.memNodeIommuInfo.sgtIommu = .null)
    (hget : getIommuDmaBuf calls n = some ({ n.memNodeIommuInfo with dmaBufIommu := .err e }, events)) :
    ¬ IommuClean calls n := by
  have hkept := (getIommuTable_err calls { n.memNodeIommuInfo with dmaBufIommu := .err e } (by simp) hsgt).1
  have hput : ∀ m : SgtNode, m.memNodeIommuInfo.dmaBufIommu = .err e →
      (hgslPutSgtIommu m).node.memNodeIommuInfo.dmaBufIommu = .err e := by
    intro m hm
    unfold hgslPutSgtIommu
    dsimp only
    split_ifs <;> simp [lastPutIommu, hm]
  have hgot : (hgslGetSgtIommu calls n).node.memNodeIommuInfo.dmaBufIommu = .err e := by
    simpa [hgslGetSgtIommu, hsgt, hget] using hkept
  rintro ⟨-, -, -, hclean, -⟩
  rw [hput _ hgot] at hclean
  simp at hclean

/-- With a dma-buf, the attachment decides: what the core does not give is released nevertheless, and what is
    left over from a dma-buf that was not there does not belong to this one. -/
theorem iommuClean_of_ptr {b : Nat} (h : IommuState n.memNodeIommuInfo) (hsgt : n.memNodeIommuInfo.sgtIommu = .null)
    (hbuf : n.dmaBuf.isErr = false) (hget : getIommuDmaBuf calls n =
      some ({ n.memNodeIommuInfo with dmaBufIommu := .ptr b }, [.acquire (.ref (.ptr b))])) :
    IommuClean calls n ↔ n.memNodeIommuInfo.attachIommu.isErrOrNull = true ∧ isOk calls.attach = true := by
  generalize hinfo : n.memNodeIommuInfo = info at *
  obtain ⟨tab, count, buf, att⟩ := info
  dsimp only at hsgt hget
  subst hsgt
  have hheld : buf.isErrOrNull = true ∧ (att.isErrOrNull = false → ∃ e, buf = .err e) := by
    obtain ⟨hused, -⟩ | ⟨-, ⟨hb, ha⟩ | hb⟩ := h
    · simp at hused
    · simp_all
    · cases buf <;> simp_all
  obtain ⟨hnone, hleft⟩ := hheld
  cases hattached : att.isErrOrNull with
  | false =>
      obtain ⟨a, rfl⟩ := KPtr.isErrOrNull_eq_false.1 hattached
      obtain ⟨e, rfl⟩ := hleft hattached
      cases hmap : calls.map <;>
        simp [IommuClean, hgslGetSgtIommu, hinfo, hget, getIommuTable, getIommuAttach, undoGetIommu, hmap,
          hgslPutSgtIommu, lastPutIommu, heldIommu, heldBy]
  | true =>
      cases hattach : calls.attach <;> cases hmap : calls.map <;>
        simp [IommuClean, hgslGetSgtIommu, hinfo, hget, getIommuTable, getIommuAttach, undoGetIommu, hattached, hattach,
          hmap, isOk, hgslPutSgtIommu, lastPutIommu, heldIommu, heldBy, hbuf, hnone]

/-- **The table of the SMMU.** -/
theorem iommuClean_iff (h : IommuState n.memNodeIommuInfo) : IommuClean calls n ↔ IommuSucceeds calls n := by
  unfold IommuSucceeds
  dsimp only
  by_cases hsgt : n.memNodeIommuInfo.sgtIommu.isErrOrNull = false
  · rw [iommuClean_of_table h hsgt, if_pos (.inl hsgt)]
  · have hnull : n.memNodeIommuInfo.sgtIommu = .null := by
      obtain ⟨hused, -⟩ | ⟨hnull, -⟩ := h
      · exact absurd hused hsgt
      · exact hnull
    obtain ⟨hnone, hget⟩ | ⟨hsome, ⟨b, hthere, hbuf, hget⟩ | ⟨e, events, hgone, hget⟩⟩ := getIommuDmaBuf_cases calls n
    · rw [iommuClean_of_none h hnull hget, if_pos (.inr hnone)]
    · rw [iommuClean_of_ptr h hnull hbuf hget, if_neg (by tauto)]
      exact ⟨fun hatt => ⟨hthere, hatt⟩, fun hall => hall.2⟩
    · rw [if_neg (by tauto)]
      exact iff_of_false (not_iommuClean_of_err hnull hget) (fun hall => hgone hall.1)

end Iommu

/-! ## The table of the cache operations -/

/-- What an imported node has is there for what it has on top: the dma-buf for the attachment, the attachment
    for the table. An allocated node has its dma-buf. -/
def SgtState (internal : Bool) (n : SgtNode) : Prop :=
  n.sgt.isErr = false ∧
    if internal then n.attach = .null ∧ n.dmaBuf.isErrOrNull = false
    else
      (n.sgtExt.isErrOrNull = false → n.attach.isErrOrNull = false) ∧
        (n.attach.isErrOrNull = false → n.dmaBuf.isErrOrNull = false)

section Sgt

variable {internal : Bool} {calls : DmaCalls} {table : TableCalls} {n : SgtNode}

theorem sgtClean_imported (h : SgtState false n) : SgtClean false calls table n ↔ SgtSucceeds false calls table n := by
  obtain ⟨hsgt, hext, hatt⟩ := h
  cases hs : n.sgtExt.isErrOrNull with
  | false =>
      have ha := hext hs
      have hb := hatt ha
      simp [SgtClean, SgtSucceeds, hgslGetSgt, hgslPutSgt, heldSgt, heldBy, hs, ha, hb, hsgt]
  | true =>
      cases ha : n.attach.isErrOrNull with
      | false =>
          have hb := hatt ha
          cases hmap : calls.map <;>
            simp [SgtClean, SgtSucceeds, hgslGetSgt, getSgtAttach, hgslPutSgt, heldSgt, heldBy, hs, ha, hb, hsgt,
              hmap, isOk]
      | true =>
          cases hb : n.dmaBuf.isErrOrNull <;> cases hget : calls.get <;> cases hattach : calls.attach <;>
            cases hmap : calls.map <;>
              simp [SgtClean, SgtSucceeds, hgslGetSgt, getSgtAttach, getSgtDmaBuf, hgslPutSgt, heldSgt, heldBy, hs, ha,
                hb, hsgt, hget, hattach, hmap, isOk]

/-- The internal table keeps its reference as long as it is there. -/
theorem run_putInternal {put : SgtPut} (hput : PutInternal n put) (hbuf : n.dmaBuf ≠ .null)
    (hsgt : n.sgt.isErr = false) :
    Custody.run (heldSgt true n) put.events = some (heldSgt true put.node) ∧ put.node.sgt.isErr = false ∧
      put.node.dmaBuf = n.dmaBuf ∧ put.node.attach = n.attach := by
  cases hput with
  | ignored hnone => simp [hsgt]
  | counted hnull hzero hone => simp [hsgt, heldSgt]
  | freed hnull hone =>
      cases hs : n.sgt with
      | null => exact absurd hs hnull
      | err e => simp [hs] at hsgt
      | ptr t => simp [heldSgt, hs, hbuf]

theorem run_gotInternal {got : SgtGot} (hgot : GotInternal n got) (hbuf : n.dmaBuf ≠ .null)
    (hsgt : n.sgt.isErr = false) :
    Custody.run (heldSgt true n) got.events = some (heldSgt true got.node) ∧ got.node.sgt.isErr = false ∧
      got.node.dmaBuf = n.dmaBuf ∧ got.node.attach = n.attach := by
  cases hgot with
  | refused e he => simp [hsgt]
  | counted t ht => simp [heldSgt, ht]
  | made t hnone => simp [heldSgt, hnone, hbuf]

theorem hgslGetSgtInternal_isErr (table : TableCalls) (n : SgtNode) :
    (hgslGetSgtInternal table n).sgt.isErrOrNull = false ↔
      n.pages ≠ none ∧ n.pageCount ≠ 0 ∧ (n.sgt.isErrOrNull = false ∨ table.zalloc ≠ none ∧ table.allocTable = 0) := by
  unfold hgslGetSgtInternal
  by_cases hpages : n.pages = none ∨ n.pageCount = 0
  · rw [if_pos hpages]
    simp only [KPtr.isErrOrNull_err, Bool.true_eq_false, false_iff]
    tauto
  · obtain ⟨hsome, hcount⟩ := not_or.1 hpages
    rw [if_neg hpages]
    cases hsgt : n.sgt.isErrOrNull with
    | false => simp [hsome, hcount, hsgt]
    | true =>
        cases hzalloc : table.zalloc with
        | none => simp
        | some t => by_cases htable : table.allocTable = 0 <;> simp [hsome, hcount, htable]

theorem sgtClean_allocated (h : SgtState true n) : SgtClean true calls table n ↔ SgtSucceeds true calls table n := by
  obtain ⟨hsgt, hatt, hbuf⟩ := h
  have hnull : n.dmaBuf ≠ .null := by
    intro hnull
    simp [hnull] at hbuf
  have hbufErr : n.dmaBuf.isErr = false := by cases hb : n.dmaBuf <;> simp_all
  unfold SgtSucceeds
  cases hs : n.sgtExt.isErrOrNull with
  | false =>
      obtain ⟨hrun, hput, hb, ha⟩ := run_putInternal (hgslPutSgtInternal_spec n) hnull hsgt
      simpa [SgtClean, hgslGetSgt, hgslPutSgt, hs, hb, ha, hbufErr, hatt, hput, heldSgt] using hrun
  | true =>
      rw [if_pos rfl, ← hgslGetSgtInternal_isErr]
      have hspec := hgslGetSgtInternal_spec table n
      have hget : hgslGetSgt calls table true n =
          { node := { (hgslGetSgtInternal table n).node with sgtExt := (hgslGetSgtInternal table n).sgt }
            events := (hgslGetSgtInternal table n).events } := by
        simp [hgslGetSgt, hs]
      generalize hgslGetSgtInternal table n = got at hspec hget ⊢
      obtain ⟨hrun, hgot, hb, ha⟩ := run_gotInternal hspec hnull hsgt
      cases hext : got.sgt with
      | null => cases hspec <;> simp at hext
      | err e => simp [SgtClean, hget, hgslPutSgt, hext]
      | ptr t =>
          obtain ⟨hrun', hput, hb', ha'⟩ := run_putInternal (hgslPutSgtInternal_spec { got.node with sgtExt := .ptr t })
            (by simpa [hb] using hnull) hgot
          have hstart : Custody.run (heldSgt true n) got.events =
              some (heldSgt true { got.node with sgtExt := .ptr t }) := hrun
          simp only [SgtClean, hget, hgslPutSgt, hext, Custody.run_append, hstart]
          generalize hgslPutSgtInternal { got.node with sgtExt := .ptr t } = put at hrun' hput hb' ha' ⊢
          simpa [hb', ha', hb, ha, hatt, hbufErr, hput, heldSgt] using hrun'

theorem sgtClean_iff (h : SgtState internal n) :
    SgtClean internal calls table n ↔ SgtSucceeds internal calls table n := by
  cases internal with
  | false => exact sgtClean_imported h
  | true => exact sgtClean_allocated h

/-! ## Runs -/

/-- The calls for the SMMU leave the other fields alone. -/
theorem getSgtIommu_node (calls : DmaCalls) (n : SgtNode) :
    ∃ info, (hgslGetSgtIommu calls n).node = { n with memNodeIommuInfo := info } := by
  unfold hgslGetSgtIommu
  dsimp only
  split_ifs
  · exact ⟨_, rfl⟩
  · cases getIommuDmaBuf calls n with
    | none => exact ⟨n.memNodeIommuInfo, rfl⟩
    | some r => exact ⟨_, rfl⟩

theorem putSgtIommu_node (n : SgtNode) : ∃ info, (hgslPutSgtIommu n).node = { n with memNodeIommuInfo := info } := by
  unfold hgslPutSgtIommu
  dsimp only
  split_ifs
  · exact ⟨n.memNodeIommuInfo, rfl⟩
  · exact ⟨_, rfl⟩
  · exact ⟨_, rfl⟩

theorem sgtState_info (h : SgtState internal n) (info : NodeIommuInfo) :
    SgtState internal { n with memNodeIommuInfo := info } := h

theorem sgtState_gotInternal {got : SgtGot} (hgot : GotInternal n got) (h : SgtState true n) :
    SgtState true got.node ∧ got.node.memNodeIommuInfo = n.memNodeIommuInfo := by
  cases hgot with
  | refused e he => exact ⟨h, rfl⟩
  | counted t ht => exact ⟨h, rfl⟩
  | made t hnone => exact ⟨⟨by simp, h.2⟩, rfl⟩

theorem sgtState_putInternal {put : SgtPut} (hput : PutInternal n put) (h : SgtState true n) :
    SgtState true put.node ∧ put.node.memNodeIommuInfo = n.memNodeIommuInfo := by
  cases hput with
  | ignored hnone => exact ⟨h, rfl⟩
  | counted hnull hzero hone => exact ⟨h, rfl⟩
  | freed hnull hone => exact ⟨⟨by simp, h.2⟩, rfl⟩

theorem SgtState.getSgt (h : SgtState internal n) (calls : DmaCalls) (table : TableCalls) :
    SgtState internal (hgslGetSgt calls table internal n).node ∧
      (hgslGetSgt calls table internal n).node.memNodeIommuInfo = n.memNodeIommuInfo := by
  cases hs : n.sgtExt.isErrOrNull with
  | false =>
      rw [show hgslGetSgt calls table internal n = { node := n, events := [] } by simp [hgslGetSgt, hs]]
      exact ⟨h, rfl⟩
  | true =>
      cases internal with
      | true =>
          obtain ⟨hstate, hinfo⟩ := sgtState_gotInternal (hgslGetSgtInternal_spec table n) h
          simp only [hgslGetSgt, hs]
          exact ⟨hstate, hinfo⟩
      | false =>
          obtain ⟨hsgt, hext, hatt⟩ := h
          cases ha : n.attach.isErrOrNull with
          | false =>
              have hb := hatt ha
              simp [hgslGetSgt, getSgtAttach, SgtState, hs, ha, hb, hsgt]
          | true =>
              cases hb : n.dmaBuf.isErrOrNull <;> cases hget : calls.get <;> cases hattach : calls.attach <;>
                simp [hgslGetSgt, getSgtAttach, getSgtDmaBuf, SgtState, hs, ha, hb, hsgt, hget, hattach]

theorem SgtState.putSgt (h : SgtState internal n) :
    SgtState internal (hgslPutSgt internal n).node ∧
      (hgslPutSgt internal n).node.memNodeIommuInfo = n.memNodeIommuInfo := by
  cases hs : n.sgtExt.isErrOrNull with
  | true =>
      rw [show hgslPutSgt internal n = { node := n, events := [] } by simp [hgslPutSgt, hs]]
      exact ⟨h, rfl⟩
  | false =>
      cases internal with
      | true =>
          obtain ⟨hstate, hinfo⟩ := sgtState_putInternal (hgslPutSgtInternal_spec n) h
          simp only [hgslPutSgt, hs]
          exact ⟨hstate, hinfo⟩
      | false =>
          obtain ⟨hsgt, hext, hatt⟩ := h
          have ha := hext hs
          have hb := hatt ha
          simp [hgslPutSgt, SgtState, hs, ha, hb, hsgt]

theorem tableOp_step {n' : SgtNode} {op : TableOp} (hs : SgtState internal n) (hi : IommuState n.memNodeIommuInfo)
    (hstep : op.step internal n = some n') : SgtState internal n' ∧ IommuState n'.memNodeIommuInfo := by
  cases op with
  | getSgtIommu calls =>
      obtain rfl := Option.some.inj hstep
      refine ⟨?_, hi.get calls⟩
      obtain ⟨info, hnode⟩ := getSgtIommu_node calls n
      rw [hnode]
      exact sgtState_info hs info
  | putSgtIommu =>
      obtain rfl := Option.some.inj hstep
      refine ⟨?_, hi.put⟩
      obtain ⟨info, hnode⟩ := putSgtIommu_node n
      rw [hnode]
      exact sgtState_info hs info
  | getSgt calls table =>
      obtain rfl := Option.some.inj hstep
      obtain ⟨hstate, hinfo⟩ := hs.getSgt calls table
      exact ⟨hstate, hinfo ▸ hi⟩
  | putSgt =>
      obtain rfl := Option.some.inj hstep
      obtain ⟨hstate, hinfo⟩ := hs.putSgt
      exact ⟨hstate, hinfo ▸ hi⟩
  | map table =>
      cases internal with
      | false => simp [TableOp.step] at hstep
      | true =>
          obtain rfl := Option.some.inj hstep
          obtain ⟨hstate, hinfo⟩ := sgtState_gotInternal (hgslGetSgtInternal_spec table n) hs
          exact ⟨hstate, hinfo ▸ hi⟩
  | unmap sgt =>
      cases internal with
      | false => simp [TableOp.step] at hstep
      | true =>
          obtain rfl := Option.some.inj hstep
          by_cases hsgt : sgt = n.sgt
          · rw [show hgslMemUnmapDmaBuf sgt n = hgslPutSgtInternal n by simp [hgslMemUnmapDmaBuf, hsgt]]
            obtain ⟨hstate, hinfo⟩ := sgtState_putInternal (hgslPutSgtInternal_spec n) hs
            exact ⟨hstate, hinfo ▸ hi⟩
          · rw [show hgslMemUnmapDmaBuf sgt n = { node := n, events := [] } by simp [hgslMemUnmapDmaBuf, hsgt]]
            exact ⟨hs, hi⟩

theorem UnusedNode.state (h : UnusedNode internal n) : SgtState internal n ∧ IommuState n.memNodeIommuInfo := by
  refine ⟨⟨h.sgt, ?_⟩, by simp [h.info, IommuState]⟩
  cases hint : internal with
  | false => simp [h.attach, h.sgtExt]
  | true => exact ⟨h.attach, h.allocated hint⟩

end Sgt

/-- **Getting and giving back.** After any use of a node, each of the two pairs is clean exactly if no call of
    the core that it makes for the dma-buf or the attachment fails, and for `hgsl_get_sgt` none at all. -/
theorem acquisition_clean_iff {internal : Bool} {start n : SgtNode} {ops : List TableOp}
    (hstart : UnusedNode internal start) (h : Trace.exec (TableOp.step internal) start ops = some n)
    (calls : DmaCalls) (table : TableCalls) :
    (IommuClean calls n ↔ IommuSucceeds calls n) ∧
      (SgtClean internal calls table n ↔ SgtSucceeds internal calls table n) := by
  have hinv : SgtState internal n ∧ IommuState n.memNodeIommuInfo := by
    refine Trace.exec_invariant (P := fun m => SgtState internal m ∧ IommuState m.memNodeIommuInfo) ?_ hstart.state h
    intro m op m' hm hstep
    exact tableOp_step hm.1 hm.2 hstep
  exact ⟨iommuClean_iff hinv.2, sgtClean_iff hinv.1⟩

/-- A mapping that fails, for an imported node, and then the same calls again. -/
def mapFails : DmaCalls := ⟨.ok 0x10, .ok 0x20, .error (-EINTR)⟩

def allGiven : DmaCalls := ⟨.ok 0x10, .ok 0x20, .ok 0x30⟩

theorem acquisition_clean_retry :
    IommuClean allGiven { fd := 3 } ∧ SgtClean false allGiven ⟨none, 0⟩ { fd := 3 } := by
  have hstart : UnusedNode false { fd := 3 } := by constructor <;> simp
  have hrun : Trace.exec (TableOp.step false) { fd := 3 } [.getSgtIommu mapFails, .putSgtIommu] = some { fd := 3 } := by
    decide
  obtain ⟨hiommu, hsgt⟩ := acquisition_clean_iff hstart hrun allGiven ⟨none, 0⟩
  exact ⟨hiommu.2 (by simp [IommuSucceeds, allGiven, isOk]), hsgt.2 (by simp [SgtSucceeds, allGiven, isOk])⟩

/-- The core gives the dma-buf but not the attachment. -/
def attachFails : DmaCalls := ⟨.ok 0x10, .error (-EBUSY), .error (-EINVAL)⟩

/-- One function detaches an attachment that it did not get, the other one keeps the dma-buf. -/
theorem failed_attach_detached :
    .release (.attachment (.ptr 0x10) (.err (-EBUSY))) ∈ (hgslGetSgtIommu attachFails { fd := 3 }).events ∧
      ¬ IommuClean attachFails { fd := 3 } ∧ ¬ SgtClean false attachFails ⟨none, 0⟩ { fd := 3 } := by
  refine ⟨by decide, ?_, ?_⟩
  · rintro ⟨hrun, -⟩
    revert hrun
    decide
  · rintro ⟨-, hheld, -⟩
    revert hheld
    decide

end Hgsl
