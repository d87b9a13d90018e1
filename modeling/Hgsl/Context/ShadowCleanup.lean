import Hgsl.Context.Shadow

set_option autoImplicit false

/-! # What a failed create leaves behind

`Owns` lists the nodes that are not freed yet. Both versions give all of them back after an error, and leave the
context as it was, with one exception: when version 1 has taken the shadow memory of the front end and a later
read of the reply fails, it frees the node that the context still points to. -/

namespace Hgsl

namespace ShadowCtxt

variable {s : ShadowCtxt} {held : List Nat} {node : Nat}

/-! ## Nodes -/

/-- The nodes that are not freed are those in `held`, and no freed one was used. -/
structure Owns (s : ShadowCtxt) (held : List Nat) : Prop where
  once : Once s.allocated held s.freed
  numbered : ∀ n ∈ s.allocated, n < s.allocated.length
  ok : s.badUse = false

theorem Owns.newNode_not_mem (h : Owns s held) : s.newNode ∉ held := by
  intro hmem
  exact Nat.lt_irrefl _ (h.numbered _ (h.once.mem_iff.2 (.inl hmem)))

theorem Owns.zalloc (h : Owns s held) : Owns s.hgslMemNodeZalloc (held ++ [s.newNode]) where
  once := h.once.issue fun hmem => Nat.lt_irrefl _ (h.numbered _ hmem)
  numbered := by
    intro n hn
    have hlen : s.hgslMemNodeZalloc.allocated.length = s.allocated.length + 1 := by simp [hgslMemNodeZalloc]
    rcases List.mem_append.1 hn with hn | hn
    · have hlt := h.numbered n hn
      omega
    · have heq : n = s.allocated.length := List.mem_singleton.1 hn
      omega
  ok := h.ok

theorem Owns.touch (h : Owns s held) (hnode : node ∈ held) : s.touch node = s := by
  have hfreed : node ∉ s.freed := h.once.not_settled hnode
  simp [ShadowCtxt.touch, hfreed]

theorem Owns.kfree (h : Owns s held) (hnode : node ∈ held) : Owns (s.kfree node) (held.erase node) := by
  have htouch := h.touch hnode
  unfold ShadowCtxt.kfree
  rw [htouch]
  exact ⟨h.once.settle (List.perm_append_comm.trans (List.perm_cons_erase hnode).symm), h.numbered, h.ok⟩

/-! ## The context -/

/-- The shadow memory of the context is `shadow`, a node and whether it is one of the front end; the context
    record is not set. -/
structure Holds (s : ShadowCtxt) (held : List Nat) (shadow : Option (Nat × Bool)) : Prop where
  owns : Owns s held
  shadowTs : s.shadowTs = shadow.isSome
  shadowTsNode : s.shadowTsNode = shadow.map Prod.fst
  isFeShadow : s.isFeShadow = (shadow.map Prod.snd).getD false
  mem : ∀ p, shadow = some p → p.1 ∈ held
  record : s.ctxtRecordMemNode = none
  tree : s.memAllocated = []

variable {shadow : Option (Nat × Bool)}

theorem Holds.zalloc (h : Holds s held shadow) : Holds s.hgslMemNodeZalloc (held ++ [s.newNode]) shadow :=
  ⟨h.owns.zalloc, h.shadowTs, h.shadowTsNode, h.isFeShadow, fun p hp => List.mem_append_left _ (h.mem p hp),
    h.record, h.tree⟩

theorem Holds.setDmaBuf (h : Holds s held shadow) (node : Nat) : Holds (s.setDmaBuf node) held shadow :=
  ⟨⟨h.owns.once, h.owns.numbered, h.owns.ok⟩, h.shadowTs, h.shadowTsNode, h.isFeShadow, h.mem, h.record, h.tree⟩

theorem Holds.kfree (h : Holds s held none) (hnode : node ∈ held) : Holds (s.kfree node) (held.erase node) none :=
  ⟨h.owns.kfree hnode, h.shadowTs, h.shadowTsNode, h.isFeShadow, by simp, h.record, h.tree⟩

/-- The node of a new context that is cleared again -/
theorem Owns.toHolds (h : Owns s held) (hts : s.shadowTs = false) (hnode : s.shadowTsNode = none)
    (hfe : s.isFeShadow = false) (hrecord : s.ctxtRecordMemNode = none) (htree : s.memAllocated = []) :
    Holds s held none :=
  ⟨h, hts, hnode, hfe, by simp, hrecord, htree⟩

/-! ## The helpers -/

/-- The reply of the front end lets it take the shadow memory. -/
def FeReply.Assigns (r : FeReply) : Prop :=
  r.rval.ret = 0 ∧ r.rval.val = GSL_SUCCESS ∧ r.memdesc = 0 ∧ r.vmap = 0

theorem readShadowtsMemFe_cases (h : Holds s held none) (hnode : node ∈ held) (hbuf : node ∈ s.dmaBuf)
    (r : FeReply) :
    (r.Assigns ∧ (s.readShadowtsMemFe node r).2 = 0 ∧
      Holds (s.readShadowtsMemFe node r).1 held (some (node, true))) ∨
    (¬ r.Assigns ∧ (s.readShadowtsMemFe node r).2 ≠ 0 ∧ (s.readShadowtsMemFe node r).1 = s) := by
  unfold readShadowtsMemFe
  rw [h.owns.touch hnode]
  unfold assignShadowTsCpuAddrMemstore
  split_ifs with hret hval hmemdesc hcontains hvmap
  · exact .inr ⟨fun ha => hret ha.1, hret, rfl⟩
  · exact .inr ⟨fun ha => hmemdesc ha.2.2.1, hmemdesc, rfl⟩
  · simp [hbuf] at hcontains
  · exact .inr ⟨fun ha => hvmap ha.2.2.2, by simp [EFAULT], rfl⟩
  · refine .inl ⟨⟨by simpa using hret, hval, by simpa using hmemdesc, by simpa using hvmap⟩, rfl, ?_⟩
    exact ⟨⟨h.owns.once, h.owns.numbered, h.owns.ok⟩, rfl, rfl, rfl, by simpa using hnode, h.record, h.tree⟩
  · exact .inr ⟨fun ha => hval ha.2.1, by simp [EINVAL], rfl⟩

theorem readShadowtsMemBe_cases (h : Holds s held none) (r : BeReply) :
    Holds (s.readShadowtsMemBe r).1 held none ∨
    ((s.readShadowtsMemBe r).2 = 0 ∧
      Holds (s.readShadowtsMemBe r).1 (held ++ [s.newNode]) (some (s.newNode, false))) := by
  have hz := h.zalloc
  have hmem : s.newNode ∈ held ++ [s.newNode] := by simp
  have herase : (held ++ [s.newNode]).erase s.newNode = held := by
    rw [List.erase_append_right _ h.owns.newNode_not_mem]
    simp
  unfold readShadowtsMemBe
  split_ifs with hret hexport hflags hzalloc himport hvmap
  · exact .inl h
  · exact .inl h
  · exact .inl h
  · exact .inl (herase ▸ hz.kfree hmem)
  · have hd := hz.setDmaBuf s.newNode
    have hput : (s.hgslMemNodeZalloc.setDmaBuf s.newNode).hgslHypPutShadowtsMem s.newNode =
        s.hgslMemNodeZalloc.setDmaBuf s.newNode := hd.owns.touch hmem
    refine .inl ?_
    show Holds ((((s.hgslMemNodeZalloc.setDmaBuf s.newNode).hgslHypPutShadowtsMem s.newNode).touch
      s.newNode).kfree s.newNode) held none
    rw [hput, hd.owns.touch hmem]
    exact herase ▸ hd.kfree hmem
  · have hd := hz.setDmaBuf s.newNode
    refine .inr ⟨rfl, ⟨hd.owns.once, hd.owns.numbered, hd.owns.ok⟩, rfl, rfl, ?_, ?_, hd.record, hd.tree⟩
    · exact hd.isFeShadow
    · simp
  · exact .inl h

/-! ## Version 1 -/

theorem v1ReadDbq_ne_zero_iff (r : CreateV1) : v1ReadDbq r ≠ 0 ↔
    r.dbqOff = false ∧ (r.rval.ret ≠ 0 ∨ r.rval.val = GSL_SUCCESS ∧ r.dbqInfo.ret ≠ 0) := by
  unfold v1ReadDbq
  split_ifs with hoff hret hval <;> simp_all

theorem v1Shadow_cases (h : Holds s held none) (hnode : node ∈ held) (hbuf : node ∈ s.dmaBuf) (r : CreateV1) :
    (r.fe.Assigns ∧ (s.v1Shadow node r).2 = v1ReadDbq r ∧ Holds (s.v1Shadow node r).1 held (some (node, true))) ∨
    (¬ r.fe.Assigns ∧ (Holds (s.v1Shadow node r).1 held none ∨
      Holds (s.v1Shadow node r).1 (held ++ [s.newNode]) (some (s.newNode, false)))) := by
  unfold v1Shadow v1ReadShadow
  rcases readShadowtsMemFe_cases h hnode hbuf r.fe with ⟨hassigns, hret, hfe⟩ | ⟨hassigns, hret, hfe⟩
  · simp only [hret, ne_eq, not_true_eq_false, if_false]
    exact .inl ⟨hassigns, trivial, hfe⟩
  · simp only [if_pos hret, hfe]
    rcases readShadowtsMemBe_cases h r.be with hbe | ⟨-, hbe⟩
    · exact .inr ⟨hassigns, .inl hbe⟩
    · exact .inr ⟨hassigns, .inr hbe⟩

theorem Holds.vunmap {fe : Bool} (h : Holds s held (some (node, fe))) :
    s.vunmapShadow = { s with shadowTs := false } := by
  have hts : s.shadowTs = true := h.shadowTs
  have hsn : s.shadowTsNode = some node := h.shadowTsNode
  unfold vunmapShadow
  split
  · next hfalse => simp [hts] at hfalse
  · next node' _ hnode =>
      obtain rfl : node = node' := by simpa [hsn] using hnode
      rw [h.owns.touch (h.mem _ rfl)]
  · next hnode => simp [hsn] at hnode

/-- Without shadow memory there is nothing to undo. -/
theorem Holds.v1Undo_none (h : Holds s held none) : s.v1Undo = s := by
  have hts : s.shadowTs = false := h.shadowTs
  have hsn : s.shadowTsNode = none := h.shadowTsNode
  unfold ShadowCtxt.v1Undo vunmapShadow
  simp [hts, hsn]

/-- The shadow memory of the back end is given back. -/
theorem Holds.v1Undo_be (h : Holds s held (some (node, false))) : Holds s.v1Undo (held.erase node) none := by
  have hmem : node ∈ held := h.mem _ rfl
  unfold ShadowCtxt.v1Undo
  rw [h.vunmap]
  obtain ⟨t, ht⟩ : ∃ t, ({ s with shadowTs := false } : ShadowCtxt) = t := ⟨_, rfl⟩
  have howns : Owns t held := ht ▸ ⟨h.owns.once, h.owns.numbered, h.owns.ok⟩
  have hsn : t.shadowTsNode = some node := ht ▸ h.shadowTsNode
  have hfe : t.isFeShadow = false := ht ▸ h.isFeShadow
  have hput : t.hgslHypPutShadowtsMem node = t := howns.touch hmem
  have hfreed := howns.kfree hmem
  rw [ht]
  simp only [hsn, hfe, hput]
  exact ⟨⟨hfreed.once, hfreed.numbered, hfreed.ok⟩, by simp [← ht, ShadowCtxt.kfree, ShadowCtxt.touch], rfl, hfe,
    by simp, ht ▸ h.record, ht ▸ h.tree⟩

/-- The one of the front end stays in the context. -/
theorem Holds.v1Undo_fe (h : Holds s held (some (node, true))) : s.v1Undo = { s with shadowTs := false } := by
  have hsn : s.shadowTsNode = some node := h.shadowTsNode
  have hfe : s.isFeShadow = true := h.isFeShadow
  unfold ShadowCtxt.v1Undo
  rw [h.vunmap]
  simp only [hsn, hfe]

/-- Version 1 comes to the reads of the shadow memory. -/
def CreateV1.Replies (r : CreateV1) : Prop :=
  r.habChannel = true ∧ r.parcelReset = 0 ∧ r.zalloc = true ∧ r.sharedmemAlloc = 0 ∧ r.write = 0 ∧
    r.transact = 0 ∧ r.ctxthandle.ret = 0 ∧ r.ctxthandle.val.toNat < HGSL_CONTEXT_NUM

/-- A read of the reply fails when version 1 has taken the shadow memory of the front end. -/
def CreateV1.LateError (r : CreateV1) : Prop :=
  r.Replies ∧ r.fe.Assigns ∧ r.dbqOff = false ∧ (r.rval.ret ≠ 0 ∨ r.rval.val = GSL_SUCCESS ∧ r.dbqInfo.ret ≠ 0)

theorem v1Body_cases (h : Holds s [] none) (r : CreateV1) :
    (¬ r.Replies ∧ (s.v1Body r).ret ≠ 0 ∧ ((s.v1Body r).memNode = none ∧ (s.v1Body r).state = s ∨
      (s.v1Body r).memNode = some s.newNode ∧ Holds (s.v1Body r).state [s.newNode] none)) ∨
    (r.Replies ∧ (s.v1Body r).memNode = some s.newNode ∧ ∃ t, Holds t [s.newNode] none ∧ s.newNode ∈ t.dmaBuf ∧
      (s.v1Body r).state = (t.v1Shadow s.newNode r).1 ∧ (s.v1Body r).ret = (t.v1Shadow s.newNode r).2) := by
  have hz : Holds s.hgslMemNodeZalloc [s.newNode] none := h.zalloc
  have hd := hz.setDmaBuf s.newNode
  unfold v1Body
  by_cases hreplies : r.Replies
  · obtain ⟨hchannel, hreset, hzalloc, halloc, hwrite, htransact, hread, hid⟩ := hreplies
    have hreplies : r.Replies := ⟨hchannel, hreset, hzalloc, halloc, hwrite, htransact, hread, hid⟩
    simp only [hchannel, hreset, hzalloc, halloc, hwrite, htransact, hread, Nat.not_le.2 hid]
    exact .inr ⟨hreplies, rfl, _, hd, by simp [setDmaBuf], rfl, rfl⟩
  · refine .inl ⟨hreplies, ?_⟩
    split_ifs with hchannel hreset hzalloc halloc hwrite htransact hread hid
    · exact ⟨by simp [EINVAL], .inl ⟨rfl, rfl⟩⟩
    · exact ⟨hreset, .inl ⟨rfl, rfl⟩⟩
    · exact ⟨by simp [ENOMEM], .inl ⟨rfl, rfl⟩⟩
    · exact ⟨halloc, .inr ⟨rfl, hz⟩⟩
    · exact ⟨hwrite, .inr ⟨rfl, hd⟩⟩
    · exact ⟨htransact, .inr ⟨rfl, hd⟩⟩
    · exact ⟨hread, .inr ⟨rfl, hd⟩⟩
    · exact ⟨by simp [EINVAL], .inr ⟨rfl, hd⟩⟩
    · exact absurd ⟨by simpa using hchannel, by simpa using hreset, by simpa using hzalloc, by simpa using halloc,
        by simpa using hwrite, by simpa using htransact, by simpa using hread, by simpa using hid⟩ hreplies

/-- `hgsl_hyp_mem_unmap_smmu` and `hgsl_sharedmem_free` of the last node -/
theorem Holds.freeLast (h : Holds s [node] none) :
    Holds ((s.hgslHypMemUnmapSmmu (some node)).hgslSharedmemFree (some node)) [] none := by
  have htouch : s.hgslHypMemUnmapSmmu (some node) = s := h.owns.touch (by simp)
  rw [htouch]
  have hfree := h.kfree (List.mem_singleton_self node)
  rwa [List.erase_cons_head] at hfree

theorem createV1_spec (h : Holds s [] none) (r : CreateV1) :
    (r.LateError → (s.hgslHypCtxtCreateV1 r).ret ≠ 0 ∧ (s.hgslHypCtxtCreateV1 r).state.shadowTsNode ≠ none ∧
      (s.hgslHypCtxtCreateV1 r).state.shadowTs = false) ∧
    (¬ r.LateError → (s.hgslHypCtxtCreateV1 r).ret ≠ 0 → Holds (s.hgslHypCtxtCreateV1 r).state [] none) := by
  unfold hgslHypCtxtCreateV1
  rcases v1Body_cases h r with ⟨hnot, hret, hbody⟩ | ⟨hreplies, hnode, t, ht, hbuf, hstate, hretEq⟩
  · refine ⟨fun hlate => absurd hlate.1 hnot, fun _ _ => ?_⟩
    simp only [hret, ne_eq, not_false_eq_true, if_true, true_or]
    rcases hbody with ⟨hnode, hstate⟩ | ⟨hnode, hstate⟩
    · rw [hstate, hnode, h.v1Undo_none]
      exact h
    · rw [hnode, hstate.v1Undo_none]
      exact hstate.freeLast
  · simp only [hnode, hstate, hretEq]
    rcases v1Shadow_cases ht (by simp) hbuf r with ⟨hassigns, hret, hfe⟩ | ⟨hassigns, hrest⟩
    · have hiff := v1ReadDbq_ne_zero_iff r
      rw [← hret] at hiff
      refine ⟨fun hlate => ⟨hiff.2 hlate.2.2, ?_⟩, fun hnot hne => absurd ⟨hreplies, hassigns, hiff.1 hne⟩ hnot⟩
      rw [if_pos (.inl (hiff.2 hlate.2.2)), if_pos (hiff.2 hlate.2.2), hfe.v1Undo_fe]
      have hsn : (t.v1Shadow s.newNode r).1.shadowTsNode = some s.newNode := hfe.shadowTsNode
      simp [hgslHypMemUnmapSmmu, hgslSharedmemFree, ShadowCtxt.kfree, ShadowCtxt.touch, hsn]
    · refine ⟨fun hlate => absurd hlate.2.1 hassigns, fun _ hne => ?_⟩
      rw [if_pos (.inl hne), if_pos hne]
      rcases hrest with hnone | hbe
      · rw [hnone.v1Undo_none]
        exact hnone.freeLast
      · have hundo := hbe.v1Undo_be
        have hdistinct : s.newNode ≠ t.newNode := by
          intro heq
          exact ht.owns.newNode_not_mem (by simp [heq])
        rw [List.singleton_append, List.erase_cons_tail (by simpa using hdistinct)] at hundo
        simp only [List.erase_cons_head] at hundo
        exact hundo.freeLast

/-! ## Version 2 -/

/-- Version 2 owns its buffers, and the context has none of the shadow memory yet. -/
structure AtV2 (e : AtOut) (node : Nat) : Prop where
  memNode : e.memNode = some node
  owns : Owns e.state (node :: e.ctxtRecordMemNode.toList)
  shadowTs : e.state.shadowTs = false
  shadowTsNode : e.state.shadowTsNode = none
  isFeShadow : e.state.isFeShadow = false
  record : e.state.ctxtRecordMemNode = none ∨ e.state.ctxtRecordMemNode = e.ctxtRecordMemNode
  tree : e.state.memAllocated = if e.added then e.ctxtRecordMemNode.toList else []

theorem v2Record_atV2 (h : Holds s [node] none) (r : CreateV2) : AtV2 (s.v2Record r node) node := by
  have hz := h.zalloc
  have hd := hz.setDmaBuf s.newNode
  have hnone : ∀ ret, AtV2 { state := s, memNode := some node, ret := ret } node := fun _ =>
    ⟨rfl, h.owns, h.shadowTs, h.shadowTsNode, h.isFeShadow, .inl h.record, h.tree⟩
  unfold v2Record
  split_ifs with hprotected hsize hzalloc halloc hgpuaddr hmap hadd
  · exact hnone 0
  · exact hnone (-EINVAL)
  · exact hnone (-ENOMEM)
  · exact ⟨rfl, hz.owns, hz.shadowTs, hz.shadowTsNode, hz.isFeShadow, .inl hz.record, hz.tree⟩
  · exact ⟨rfl, hd.owns, hd.shadowTs, hd.shadowTsNode, hd.isFeShadow, .inl hd.record, hd.tree⟩
  · exact ⟨rfl, hd.owns, hd.shadowTs, hd.shadowTsNode, hd.isFeShadow, .inl hd.record, hd.tree⟩
  · exact ⟨rfl, hd.owns, hd.shadowTs, hd.shadowTsNode, hd.isFeShadow, .inl hd.record, hd.tree⟩
  · refine ⟨rfl, ⟨hd.owns.once, hd.owns.numbered, hd.owns.ok⟩, hd.shadowTs, hd.shadowTsNode, hd.isFeShadow,
      .inl hd.record, ?_⟩
    have htree : s.memAllocated = [] := h.tree
    simp [hgslMemNodeZalloc, htree]

theorem assign_failed {vmap : Int} (hret : (s.assignShadowTsCpuAddrMemstore node vmap).2 ≠ 0) :
    (s.assignShadowTsCpuAddrMemstore node vmap).1 = s := by
  unfold assignShadowTsCpuAddrMemstore at hret ⊢
  split_ifs at hret ⊢
  · rfl
  · rfl
  · exact absurd rfl hret

/-- The shadow memory is taken by the last step, and nothing fails behind it. -/
theorem v2Call_atV2 {e : AtOut} (h : AtV2 e node) (r : CreateV2) (hret : (v2Call e r node).ret ≠ 0) :
    AtV2 (v2Call e r node) node := by
  obtain ⟨hnode, howns, hts, hsn, hfe, hrecord, htree⟩ := h
  have hset : ∀ ret, AtV2 { e with
      ctxthandle := r.ctxthandle.val, state := { e.state with ctxtRecordMemNode := e.ctxtRecordMemNode }
      ret := ret } node := fun _ =>
    ⟨hnode, ⟨howns.once, howns.numbered, howns.ok⟩, hts, hsn, hfe, .inr rfl, htree⟩
  unfold v2Call at hret ⊢
  split_ifs at hret ⊢ with hwrite htransact hread hid hrval hval
  · exact ⟨hnode, howns, hts, hsn, hfe, hrecord, htree⟩
  · exact ⟨hnode, howns, hts, hsn, hfe, hrecord, htree⟩
  · exact ⟨hnode, howns, hts, hsn, hfe, hrecord, htree⟩
  · exact ⟨hnode, howns, hts, hsn, hfe, hrecord, htree⟩
  · exact hset _
  · exact hset _
  · dsimp only at hret ⊢
    rw [assign_failed hret]
    exact hset _

theorem v2UndoShadow_eq {e : AtOut} (h : AtV2 e node) : v2UndoShadow e = e.state.kfree node := by
  have hvunmap : e.state.vunmapShadow = e.state := by
    unfold vunmapShadow
    simp [h.shadowTs]
  unfold v2UndoShadow
  simp [hvunmap, h.isFeShadow, h.memNode, hgslSharedmemFree]

theorem v2UndoRecord_holds {record : Nat} (added : Bool) (h : Owns s [record]) (hts : s.shadowTs = false)
    (hsn : s.shadowTsNode = none) (hfe : s.isFeShadow = false)
    (htree : s.memAllocated = if added then [record] else []) : Holds (s.v2UndoRecord record added) [] none := by
  have hmem : record ∈ [record] := by simp
  unfold v2UndoRecord
  rw [h.touch hmem]
  have howns : ∀ tree, Owns (({ s with memAllocated := tree } : ShadowCtxt).kfree record) [] := by
    intro tree
    have hfree := Owns.kfree (s := { s with memAllocated := tree }) ⟨h.once, h.numbered, h.ok⟩ hmem
    rwa [List.erase_cons_head] at hfree
  cases added with
  | false =>
      have hlast := howns s.memAllocated
      exact Owns.toHolds ⟨hlast.once, hlast.numbered, hlast.ok⟩ hts hsn hfe rfl htree
  | true =>
      have hlast := howns (s.memAllocated.erase record)
      have herase : s.memAllocated.erase record = [] := by simp [htree]
      exact Owns.toHolds ⟨hlast.once, hlast.numbered, hlast.ok⟩ hts hsn hfe rfl herase

theorem v2Undo_holds {e : AtOut} (h : AtV2 e node) : Holds (v2Undo e) [] none := by
  have hmem : node ∈ node :: e.ctxtRecordMemNode.toList := by simp
  have hfree := h.owns.kfree hmem
  rw [List.erase_cons_head] at hfree
  unfold v2Undo
  rw [v2UndoShadow_eq h]
  split
  · next hrec =>
      rw [hrec] at hfree
      have hrecord : e.state.ctxtRecordMemNode = none := by simpa [hrec] using h.record
      have htree : e.state.memAllocated = [] := by simpa [hrec] using h.tree
      exact hfree.toHolds h.shadowTs h.shadowTsNode h.isFeShadow hrecord htree
  · next record hrec =>
      rw [hrec] at hfree
      have htree : e.state.memAllocated = if e.added then [record] else [] := by simpa [hrec] using h.tree
      exact v2UndoRecord_holds e.added hfree h.shadowTs h.shadowTsNode h.isFeShadow htree

/-- Nothing is done on the error path before the first allocation. -/
theorem Holds.v2Undo_early (h : Holds s [] none) (ret : Int) : v2Undo { state := s, ret := ret } = s := by
  have hts : s.shadowTs = false := h.shadowTs
  have hfe : s.isFeShadow = false := h.isFeShadow
  unfold v2Undo v2UndoShadow vunmapShadow
  simp [hts, hfe, hgslSharedmemFree]

theorem createV2_spec (h : Holds s [] none) (r : CreateV2) (hret : (s.hgslHypCtxtCreateV2 r).ret ≠ 0) :
    Holds (s.hgslHypCtxtCreateV2 r).state [] none := by
  have hz : Holds s.hgslMemNodeZalloc [s.newNode] none := h.zalloc
  have hd := hz.setDmaBuf s.newNode
  have hret' : (s.v2Body r).ret ≠ 0 := hret
  unfold hgslHypCtxtCreateV2
  simp only [if_pos hret']
  unfold v2Body at hret' ⊢
  split_ifs at hret' ⊢ with hdev hchannel hreset hzalloc halloc
  · rw [h.v2Undo_early]
    exact h
  · rw [h.v2Undo_early]
    exact h
  · rw [h.v2Undo_early]
    exact h
  · rw [h.v2Undo_early]
    exact h
  · have hat : AtV2 { state := s.hgslMemNodeZalloc, memNode := some s.newNode, ret := r.sharedmemAlloc } s.newNode :=
      ⟨rfl, hz.owns, hz.shadowTs, hz.shadowTsNode, hz.isFeShadow, .inl hz.record, hz.tree⟩
    exact v2Undo_holds hat
  · have hrecord := v2Record_atV2 hd r
    dsimp only at hret' ⊢
    split_ifs at hret' ⊢
    · exact v2Undo_holds hrecord
    · exact v2Undo_holds (v2Call_atV2 hrecord r hret')

/-! ## Legacy mode -/

theorem cleanupShadow_none (hsn : s.shadowTsNode = none) : s.cleanupShadow = s := by
  unfold cleanupShadow
  split
  · rfl
  · next node hnode => simp [hsn] at hnode

/-- `_cleanup_shadow` frees the node of the context. -/
theorem cleanupShadow_some (h : Owns s held) (hmem : node ∈ held) (hsn : s.shadowTsNode = some node) :
    Owns s.cleanupShadow (held.erase node) ∧ s.cleanupShadow.isFeShadow = false ∧
      s.cleanupShadow.shadowTsNode = none ∧ (s.shadowTs = false → s.cleanupShadow.shadowTs = false) := by
  unfold cleanupShadow
  split
  · next hnode => simp [hsn] at hnode
  · next node' hnode =>
      obtain rfl : node = node' := by simpa [hsn] using hnode
      simp only [h.touch hmem]
      obtain ⟨t, ht⟩ : ∃ t, { s with shadowTs := if s.dmaBuf.contains node then false else s.shadowTs } = t := ⟨_, rfl⟩
      have howns : Owns t held := ht ▸ ⟨h.once, h.numbered, h.ok⟩
      have hts : s.shadowTs = false → t.shadowTs = false := by
        intro hts
        simp [← ht, hts]
      have htouch : t.touch node = t := howns.touch hmem
      have hfree := howns.kfree hmem
      rw [ht]
      simp only [hgslHypMemUnmapSmmu, hgslHypPutShadowtsMem, hgslSharedmemFree, htouch, ite_self]
      exact ⟨⟨hfree.once, hfree.numbered, hfree.ok⟩, trivial, trivial, hts⟩

/-- The node of the context, if it has one, is not freed. -/
def NodeOk (s : ShadowCtxt) : Prop :=
  ∃ held, Owns s held ∧ (∀ node, s.shadowTsNode = some node → node ∈ held) ∧
    (s.shadowTsNode = none → s.shadowTs = false)

theorem NodeOk.use (h : NodeOk s) : s.useShadow = s := by
  obtain ⟨held, howns, hmem, hts⟩ := h
  unfold useShadow
  split
  · next node hnode => exact howns.touch (hmem node hnode)
  · next hnode =>
      have hor : (s.badUse || s.shadowTs) = s.badUse := by rw [hts hnode, Bool.or_false]
      rw [hor]

theorem NodeOk.destroy (h : NodeOk s) : s.destroyShadow.badUse = false := by
  obtain ⟨held, howns, hmem, -⟩ := h
  unfold destroyShadow
  cases hsn : s.shadowTsNode with
  | none =>
      rw [cleanupShadow_none hsn]
      simp [cleanupShadow_none hsn, howns.ok]
  | some node =>
      obtain ⟨hclean, hfe, -, -⟩ := cleanupShadow_some howns (hmem node hsn) hsn
      cases hold : s.isFeShadow with
      | false => simp [hfe, hclean.ok]
      | true => simp [hold, hclean.ok]

theorem Holds.getShadowtsMem (h : Holds s [] none) (f : Fallback) : NodeOk (s.hgslGetShadowtsMem f) := by
  have hsn : s.shadowTsNode = none := h.shadowTsNode
  have hts : s.shadowTs = false := h.shadowTs
  have hz : Owns s.hgslMemNodeZalloc [s.newNode] := h.owns.zalloc
  have hmem : s.newNode ∈ [s.newNode] := by simp
  -- a failure behind the allocation frees the new node again
  have hcleanup : ∀ t : ShadowCtxt, Owns t [s.newNode] → t.shadowTsNode = some s.newNode → t.shadowTs = false →
      NodeOk t.cleanupShadow := by
    intro t howns htn htts
    obtain ⟨hclean, -, hnone, hstays⟩ := cleanupShadow_some howns hmem htn
    exact ⟨_, hclean, by simp [hnone], fun _ => hstays htts⟩
  unfold hgslGetShadowtsMem
  split
  · next node hnode => simp [hsn] at hnode
  · split_ifs with hzalloc hget himported hvmap
    · rw [cleanupShadow_none hsn]
      exact ⟨[], h.owns, by simp [hsn], fun _ => hts⟩
    · exact hcleanup _ ⟨hz.once, hz.numbered, hz.ok⟩ rfl hts
    · exact hcleanup _ ⟨hz.once, hz.numbered, hz.ok⟩ rfl hts
    · refine ⟨[s.newNode], ⟨hz.once, hz.numbered, hz.ok⟩, ?_, fun hnone => absurd hnone (Option.some_ne_none _)⟩
      intro node hnode
      obtain rfl : s.newNode = node := Option.some.inj hnode
      exact hmem
    · exact ⟨[s.newNode], ⟨hz.once, hz.numbered, hz.ok⟩, by simp, fun _ => hts⟩

theorem fallback_ok {c : Created} (h : Holds c.state [] none) (f : Fallback) : (fallback c f).badUse = false := by
  have hok : NodeOk c.state := ⟨[], h.owns, by simp [h.shadowTsNode], fun _ => h.shadowTs⟩
  unfold fallback
  split_ifs
  · exact hok.destroy
  · exact h.owns.ok
  · exact h.owns.ok
  · have hget := h.getShadowtsMem f
    rw [hget.use]
    exact hget.destroy

/-- What an error of a create is to leave behind. -/
structure CleanShadow (s : ShadowCtxt) : Prop where
  shadowTs : s.shadowTs = false
  shadowTsNode : s.shadowTsNode = none
  isFeShadow : s.isFeShadow = false
  record : s.ctxtRecordMemNode = none
  freedOnce : s.freed.Perm s.allocated ∧ s.allocated.Nodup
  tree : s.memAllocated = []
  ok : s.badUse = false

theorem Holds.clean (h : Holds s [] none) : CleanShadow s :=
  ⟨h.shadowTs, h.shadowTsNode, h.isFeShadow, h.record, ⟨h.owns.once.shares, h.owns.once.nodup⟩, h.tree, h.owns.ok⟩

theorem holds_init : Holds {} [] none :=
  ⟨⟨Once.nil, by simp, rfl⟩, rfl, rfl, rfl, by simp, rfl, rfl⟩

/-- **Failed creates.** An error of version 1 leaves a clean context, with which legacy mode uses no freed memory,
    exactly when the error is not that of a read behind the front end's shadow memory. An error of version 2
    always does. -/
theorem failed_create_clean_iff (v1 : CreateV1) (v2 : CreateV2) :
    (((hgslHypCtxtCreateV1 {} v1).ret ≠ 0 → CleanShadow (hgslHypCtxtCreateV1 {} v1).state ∧
      ∀ f, (fallback (hgslHypCtxtCreateV1 {} v1) f).badUse = false) ↔ ¬ v1.LateError) ∧
    ((hgslHypCtxtCreateV2 {} v2).ret ≠ 0 → CleanShadow (hgslHypCtxtCreateV2 {} v2).state ∧
      ∀ f, (fallback (hgslHypCtxtCreateV2 {} v2) f).badUse = false) := by
  constructor
  · obtain ⟨hlate, hother⟩ := createV1_spec holds_init v1
    constructor
    · intro hclean herror
      obtain ⟨hret, hnode, -⟩ := hlate herror
      exact hnode (hclean hret).1.shadowTsNode
    · intro hnot hret
      have hholds := hother hnot hret
      exact ⟨hholds.clean, fallback_ok hholds⟩
  · intro hret
    have hholds := createV2_spec holds_init v2 hret
    exact ⟨hholds.clean, fallback_ok hholds⟩

/-- The reply gives an id and the shadow memory of the front end, and ends before the doorbell queue. -/
def cutReply : CreateV1 where
  ctxthandle := ⟨0, 5#32⟩
  fe := ⟨⟨0, GSL_SUCCESS⟩, 0, 0⟩
  be := ⟨⟨0, 0#32⟩, 0, true, 0, 0⟩
  dbqOff := false
  rval := ⟨-EINVAL, 0⟩
  dbqInfo := ⟨0, 0#32⟩

/-- Legacy mode succeeds. -/
def legacyReply : Fallback := ⟨⟨0, 5#32⟩, true, ⟨0, true⟩, 0⟩

/-- The node is freed, but the context keeps it; legacy mode reads it and frees it again. -/
theorem cut_reply_stale_node :
    (hgslHypCtxtCreateV1 {} cutReply).ret = -EINVAL ∧
      (hgslHypCtxtCreateV1 {} cutReply).state.shadowTsNode = some 0 ∧
      (hgslHypCtxtCreateV1 {} cutReply).state.isFeShadow = true ∧
      (hgslHypCtxtCreateV1 {} cutReply).state.freed = [0] ∧
      (fallback (hgslHypCtxtCreateV1 {} cutReply) legacyReply).freed = [0, 0] ∧
      (fallback (hgslHypCtxtCreateV1 {} cutReply) legacyReply).badUse = true := by
  decide

end ShadowCtxt

end Hgsl
