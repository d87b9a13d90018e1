import Hgsl.Context.CreateReplies

set_option autoImplicit false

/-! # What a failed creation leaves in the tables

The only error exit that undoes everything is the one behind the insertion into the table, where
`hgsl_ctxt_destroy` takes the context down. The other exits leave the event group in its list, or the whole
context behind, and destroy at the back end what belongs to the context that has the id. -/

namespace Hgsl

/-! ## What is to hold, and when it does -/

/-- A failed creation leaves no trace. -/
structure NoTrace (t : CtxtTables) (s : CtxtCreation) : Prop where
  contexts : ∀ d i, s.contexts d i = (t.contexts d i).map .other
  eventGroups : s.eventGroups = t.eventGroups.map .other
  ctxt : s.ctxts.freed = s.ctxts.made
  timeline : s.timelines.freed = s.timelines.made
  dbcq : s.dbcqs.freed = s.dbcqs.made
  dbq : s.dbqDestroyed ≠ some false
  destroys : ∀ d ∈ s.destroys, ∀ n, d.owner ≠ some (.other n)

/-- The call comes to the allocation of the context. -/
def CreateCall.Allocates (c : CreateCall) : Prop :=
  (hgslHnd2id c.devhandle).toNat < HGSL_DEVICE_NUM ∧ c.channelGet = 0 ∧ c.zalloc = true

/-- The back end gives the context this id, at last in legacy mode. -/
def CreateCall.GivesId (c : CreateCall) (id : BitVec 32) : Prop :=
  c.firstCreate.Succeeds ∧ c.firstCreate.Replies id ∨
    ¬ c.firstCreate.Succeeds ∧ c.fallback.legacy.ret = 0 ∧ c.fallback.legacy.val = id ∧ id.toNat < HGSL_CONTEXT_NUM

/-- The first create fails with an id that a context in the table has. -/
def CreateCall.DestroysOther (t : CtxtTables) (c : CreateCall) : Prop :=
  ¬ c.firstCreate.Succeeds ∧
    ∃ id, c.firstCreate.Replies id ∧ (t.contexts (hgslHnd2id c.devhandle).toNat id.toNat).isSome = true

/-- In legacy mode the context is to have a timeline. -/
def CreateCall.LegacyTimeline (c : CreateCall) : Prop :=
  ¬ c.firstCreate.Stale ∧ c.fallback.Maps ∧ c.dbqOff = false ∧ (c.dbq.Own ∨ c.dbq.Shared)

/-- The calls that fail and leave a trace: the context gets no id, or one that is taken, or there is no memory for
    its timeline when the first create has destroyed another context. -/
def CreateCall.LeavesTrace (t : CtxtTables) (c : CreateCall) : Prop :=
  c.Allocates ∧ ∀ id, c.GivesId id →
    (t.contexts (hgslHnd2id c.devhandle).toNat id.toNat).isSome = true ∨
      c.timelineAlloc = false ∧ c.LegacyTimeline ∧ c.DestroysOther t

theorem CreateCall.GivesId.unique {c : CreateCall} {id id' : BitVec 32} (h : c.GivesId id) (h' : c.GivesId id') :
    id = id' := by
  rcases h with ⟨hok, hid⟩ | ⟨hnot, -, hval, -⟩
  · rcases h' with ⟨-, hid'⟩ | ⟨hnot, -⟩
    · exact hid.unique hid'
    · exact absurd hok hnot
  · rcases h' with ⟨hok, -⟩ | ⟨-, -, hval', -⟩
    · exact absurd hok hnot
    · exact hval.symm.trans hval'

namespace CtxtCreation

variable {t : CtxtTables} {s : CtxtCreation} {c : CreateCall}

/-! ## The creation up to the table -/

/-- The new context is in the list of event groups and not in the table. -/
structure Registered (t : CtxtTables) (devId id : Nat) (destroys : List BackendDestroy) (s : CtxtCreation) : Prop where
  contexts : s.contexts = fun d i => (t.contexts d i).map .other
  devId : s.devId = devId
  contextId : s.contextId = id
  eventGroups : s.eventGroups = t.eventGroups.map .other ++ [.new]
  ctxts : s.ctxts = ⟨1, 0⟩
  timelines : s.timelines = ⟨0, 0⟩
  timeline : s.timeline = false
  dbcqs : s.dbcqs.made = s.dbcqs.freed + (if s.dbcq then 1 else 0)
  dbq : s.dbq = false → s.dbqDestroyed = none
  destroys : s.destroys = destroys

variable {devId id : Nat} {destroys : List BackendDestroy}

/-- The destroys of the first create -/
def firstDestroys (t : CtxtTables) (devId : Nat) (f : FirstCreate) : List BackendDestroy :=
  match f.destroyed with
  | some i => [⟨devId, i, (t.contexts devId i).map .other⟩]
  | none => []

theorem Registered.dbcqInit (h : Registered t devId id destroys s) (hdbcq : s.dbcq = false) (r : DbqReply) :
    Registered t devId id destroys (s.hgslDbcqInit r) := by
  have hdbcqs : s.dbcqs.made = s.dbcqs.freed := by simpa [hdbcq] using h.dbcqs
  unfold hgslDbcqInit
  split_ifs
  · exact h
  · exact h
  · exact ⟨h.contexts, h.devId, h.contextId, h.eventGroups, h.ctxts, h.timelines, h.timeline,
      by simp [hdbcqs, hdbcq], h.dbq, h.destroys⟩
  all_goals exact ⟨h.contexts, h.devId, h.contextId, h.eventGroups, h.ctxts, h.timelines, h.timeline,
    by simp [hdbcqs], h.dbq, h.destroys⟩

/-- A context gets a queue of its own, one of the doorbell queues, or none. -/
theorem hgslCtxtCreateDbq_cases (s : CtxtCreation) (r : DbqReply) (dbqInfo : BitVec 32) (checked : Bool) :
    s.hgslCtxtCreateDbq r dbqInfo checked = s.hgslDbcqInit r ∨ s.hgslCtxtCreateDbq r dbqInfo checked = s ∨
      ∃ tcsrIdx dbSignal, s.hgslCtxtCreateDbq r dbqInfo checked =
        { s with dbq := true, tcsrIdx := tcsrIdx, dbSignal := dbSignal, dbqDestroyed := some false } := by
  unfold hgslCtxtCreateDbq
  obtain ⟨info, hinfo⟩ : ∃ info, (if checked then dbqInfo else r.dbqCreate.val) = info := ⟨_, rfl⟩
  simp only [hinfo]
  split_ifs
  · exact .inl rfl
  · exact .inr (.inl rfl)
  · exact .inr (.inl rfl)
  · exact .inr (.inl rfl)
  · exact .inr (.inr ⟨_, _, rfl⟩)

theorem Registered.createDbq (h : Registered t devId id destroys s) (hdbcq : s.dbcq = false) (r : DbqReply)
    (dbqInfo : BitVec 32) (checked : Bool) :
    Registered t devId id destroys (s.hgslCtxtCreateDbq r dbqInfo checked) := by
  rcases hgslCtxtCreateDbq_cases s r dbqInfo checked with heq | heq | ⟨tcsrIdx, dbSignal, heq⟩
  · rw [heq]
    exact h.dbcqInit hdbcq r
  · rw [heq]
    exact h
  · rw [heq]
    exact ⟨h.contexts, h.devId, h.contextId, h.eventGroups, h.ctxts, h.timelines, h.timeline, h.dbcqs,
      by simp, h.destroys⟩

theorem firstCreate_start (f : FirstCreate) : ({ start t devId with ctxts := ⟨1, 0⟩ } : CtxtCreation).firstCreate f =
    { start t devId with ctxts := ⟨1, 0⟩, shadow := f.created.state, destroys := firstDestroys t devId f } := by
  unfold firstCreate firstDestroys
  cases f.destroyed <;> rfl

theorem registered_of_start (f : FirstCreate) (id : BitVec 32) (checked : Bool) :
    Registered t devId id.toNat (firstDestroys t devId f)
      (({ start t devId with ctxts := ⟨1, 0⟩ }.firstCreate f).register c id checked) := by
  rw [firstCreate_start]
  unfold register
  split_ifs
  · exact ⟨rfl, rfl, rfl, rfl, rfl, rfl, rfl, rfl, fun _ => rfl, rfl⟩
  · refine Registered.createDbq ?_ rfl _ _ _
    exact ⟨rfl, rfl, rfl, rfl, rfl, rfl, rfl, rfl, fun _ => rfl, rfl⟩

/-! ## The exits -/

theorem ite_cleanupShadow (b : Bool) (s : CtxtCreation) : (if b then s.cleanupShadow else s) =
    { s with shadow := if b then s.shadow.cleanupShadow else s.shadow } := by
  cases b <;> rfl

theorem removeRecord_eq (s : CtxtCreation) : s.removeRecord =
    { s with shadow := s.removeRecord.shadow } := by
  unfold removeRecord
  cases s.shadow.ctxtRecordMemNode <;> rfl

theorem hgslDbcqClose_eq (s : CtxtCreation) : s.hgslDbcqClose =
    { s with dbcq := false, dbcqs := ⟨s.dbcqs.made, s.dbcqs.freed + if s.dbcq then 1 else 0⟩ } := by
  unfold hgslDbcqClose
  rcases s with ⟨_, _, _, _, _, _, _, dbcq, _, _, _, _, _, _, _⟩
  cases dbcq <;> rfl

theorem destroyContext_eq (s : CtxtCreation) : s.destroyContext =
    { s with
      timelines := ⟨s.timelines.made, s.timelines.freed + if s.timeline then 1 else 0⟩
      dbqDestroyed := if s.dbq then some true else s.dbqDestroyed } := by
  unfold destroyContext
  rcases s with ⟨_, _, _, _, _, _, _, _, dbq, timeline, _, _, _, _, _⟩
  cases timeline <;> cases dbq <;> rfl

/-- `hgsl_ctxt_destroy`, but for what it leaves of the shadow memory -/
theorem hgslCtxtDestroy_eq (s : CtxtCreation) : ∃ shadow, s.hgslCtxtDestroy =
    { s with
      contexts := Function.update s.contexts s.devId (Function.update (s.contexts s.devId) s.contextId none)
      eventGroups := s.eventGroups.erase .new
      shadow := shadow
      dbcq := false
      dbqDestroyed := if s.dbq then some true else s.dbqDestroyed
      ctxts := ⟨s.ctxts.made, s.ctxts.freed + 1⟩
      timelines := ⟨s.timelines.made, s.timelines.freed + if s.timeline then 1 else 0⟩
      dbcqs := ⟨s.dbcqs.made, s.dbcqs.freed + if s.dbcq then 1 else 0⟩
      destroys := s.destroys ++ [⟨s.devId, s.contextId, none⟩] } := by
  unfold hgslCtxtDestroy
  simp only [ite_cleanupShadow, destroyContext_eq, hgslDelEventGroup, hgslHypCtxtDestroy, Function.update_self]
  rw [removeRecord_eq]
  simp only [hgslDbcqClose_eq, freeCtxt]
  exact ⟨_, rfl⟩

/-- The exit in front of the table forgets the event group. -/
theorem discard_eventGroups (s : CtxtCreation) : s.discard.eventGroups = s.eventGroups := by
  unfold discard
  simp only [ite_cleanupShadow, hgslHypCtxtDestroy, hgslDbcqClose_eq, freeCtxt]

@[simp] theorem createOut_snd (s : CtxtCreation) (created : Bool) (ctxthandle : BitVec 32) (ret : Int) :
    (s.createOut created ctxthandle ret).2 = ret := by
  unfold createOut
  split_ifs <;> rfl

theorem createOut_eventGroups (s : CtxtCreation) (ctxthandle : BitVec 32) (ret : Int) :
    (s.createOut false ctxthandle ret).1.eventGroups = s.eventGroups := by
  unfold createOut
  split_ifs
  · contradiction
  · exact discard_eventGroups s
  · rfl
  · rfl

/-- No destroy at the back end has hit a context that is in the table. -/
def HitsNone (destroys : List BackendDestroy) : Prop := ∀ d ∈ destroys, ∀ n, d.owner ≠ some (.other n)

/-- `hgsl_ctxt_destroy` takes back what the call has registered. -/
theorem Registered.ctxtDestroy (h : Registered t devId id destroys s) (hfree : t.contexts devId id = none) :
    NoTrace t s.tableInsert.hgslCtxtDestroy ↔ HitsNone destroys := by
  obtain ⟨shadow, heq⟩ := hgslCtxtDestroy_eq s.tableInsert
  have hrow : Function.update (s.contexts devId) id none = s.contexts devId := by
    rw [h.contexts]
    exact Function.update_eq_self_iff.2 (by simp [hfree])
  have hback : Function.update s.tableInsert.contexts s.tableInsert.devId
      (Function.update (s.tableInsert.contexts s.tableInsert.devId) s.tableInsert.contextId none) = s.contexts := by
    simp [tableInsert, h.devId, h.contextId, hrow]
  rw [heq, hback]
  constructor
  · intro hno d hd n
    exact hno.destroys d (by simp [tableInsert, h.destroys, hd]) n
  · intro hhits
    exact {
      contexts := by simp [h.contexts]
      eventGroups := by simp [tableInsert, h.eventGroups, List.erase_append_right]
      ctxt := by simp [tableInsert, h.ctxts]
      timeline := by simp [tableInsert, h.timelines, h.timeline]
      dbcq := h.dbcqs.symm
      dbq := by
        cases hdbq : s.dbq with
        | true => simp [tableInsert, hdbq]
        | false => simp [tableInsert, hdbq, h.dbq hdbq]
      destroys := by
        intro d hd n
        rcases List.mem_append.1 hd with hd | hd
        · exact hhits d (h.destroys ▸ hd) n
        · simp [List.mem_singleton.1 hd] }

/-- The id is taken: the event group of the new context stays in the list. -/
theorem Registered.insert_taken (h : Registered t devId id destroys s) (htaken : (t.contexts devId id).isSome = true)
    (c : CreateCall) (contextId : BitVec 32) :
    (s.insert c contextId).2 ≠ 0 ∧ CtxtRef.new ∈ (s.insert c contextId).1.eventGroups := by
  obtain ⟨u, hu⟩ : ∃ u,
      (if s.hgslUseGmugosOrGlobalDbq then s.hgslHsyncTimelineCreate c.timelineAlloc else (s, 0)) = u := ⟨_, rfl⟩
  have hgroups : u.1.eventGroups = s.eventGroups := by
    rw [← hu]
    unfold hgslHsyncTimelineCreate
    split_ifs <;> rfl
  have hslot : (u.1.contexts u.1.devId u.1.contextId).isSome = true := by
    rw [← hu]
    unfold hgslHsyncTimelineCreate
    split_ifs <;> simpa [h.contexts, h.devId, h.contextId] using htaken
  have hmem : CtxtRef.new ∈ u.1.eventGroups := by
    rw [hgroups, h.eventGroups]
    exact List.mem_append_right _ (List.mem_singleton_self _)
  unfold insert
  simp only [hu, if_pos hslot, createOut_snd, createOut_eventGroups]
  exact ⟨by simp [EBUSY], hmem⟩

/-- The id is free: the call succeeds, or it has no memory for the timeline and takes the context down. -/
theorem Registered.insert_free (h : Registered t devId id destroys s) (hfree : t.contexts devId id = none)
    (c : CreateCall) (contextId : BitVec 32) :
    ((s.insert c contextId).2 ≠ 0 → NoTrace t (s.insert c contextId).1) ↔
      ¬ (c.timelineAlloc = false ∧ s.hgslUseGmugosOrGlobalDbq = true ∧ ¬ HitsNone destroys) := by
  have hslot : (s.contexts s.devId s.contextId).isSome = false := by
    simp [h.contexts, h.devId, h.contextId, hfree]
  have hdestroy := h.ctxtDestroy hfree
  unfold insert hgslHsyncTimelineCreate
  cases halloc : c.timelineAlloc <;> cases huse : s.hgslUseGmugosOrGlobalDbq
  · simp [hslot]
  · simp [hslot, createOut, ENOMEM, hdestroy]
  · simp [hslot]
  · simp [hslot]

/-! ## The whole call -/

theorem hitsNone_firstDestroys (t : CtxtTables) (c : CreateCall) :
    ¬ HitsNone (firstDestroys t (hgslHnd2id c.devhandle).toNat c.firstCreate) ↔ c.DestroysOther t := by
  have hdestroyed := c.firstCreate.destroyed_eq_some_iff
  unfold HitsNone firstDestroys CreateCall.DestroysOther
  cases hd : c.firstCreate.destroyed with
  | none =>
      have hnot : ¬ (¬ c.firstCreate.Succeeds ∧ ∃ id, c.firstCreate.Replies id) := by
        rintro ⟨hfail, id, hid⟩
        have hsome := (hdestroyed id.toNat).2 ⟨hfail, id, hid, rfl⟩
        simp [hd] at hsome
      simp only [List.not_mem_nil, false_implies, implies_true, not_true_eq_false, false_iff]
      exact fun ⟨hfail, id, hid, _⟩ => hnot ⟨hfail, id, hid⟩
  | some i =>
      obtain ⟨hfail, id, hid, rfl⟩ := (hdestroyed i).1 hd
      have hunique : (∃ id', c.firstCreate.Replies id' ∧
          (t.contexts (hgslHnd2id c.devhandle).toNat id'.toNat).isSome = true) ↔
          (t.contexts (hgslHnd2id c.devhandle).toNat id.toNat).isSome = true := by
        constructor
        · rintro ⟨id', hid', hsome⟩
          rwa [hid.unique hid']
        · exact fun hsome => ⟨id, hid, hsome⟩
      rw [hunique]
      simp [hfail, Option.isSome_iff_exists]

/-- The state of the context before its timeline -/
def registered (t : CtxtTables) (c : CreateCall) (id : BitVec 32) : CtxtCreation :=
  ({ start t (hgslHnd2id c.devhandle).toNat with ctxts := ⟨1, 0⟩ }.firstCreate c.firstCreate).register c id
    (decide (c.firstCreate.created.ret = 0))

/-- In legacy mode the timeline depends on the shadow memory and the queue. -/
theorem registered_use_iff (hfail : ¬ c.firstCreate.Succeeds) (id : BitVec 32) :
    (registered t c id).hgslUseGmugosOrGlobalDbq = true ↔ c.LegacyTimeline := by
  have hret := mt (c.firstCreate.created_ret_eq_zero_iff).1 hfail
  have hshadow := c.firstCreate.legacy_shadowTs_iff hfail c.fallback
  unfold registered register CreateCall.LegacyTimeline
  rw [firstCreate_start, ← and_assoc, ← hshadow]
  split_ifs with hoff
  · simp [hoff, hgslUseGmugosOrGlobalDbq, hgslAddEventGroup, start]
  · rw [decide_eq_false hret, createDbq_use_iff rfl rfl]
    simp [hoff, hgslAddEventGroup]

/-- Without an id the new context is neither registered nor freed. -/
theorem create_without_id (s : CtxtCreation) (hnone : ∀ id, ¬ c.GivesId id) :
    (s.create c).2 ≠ 0 ∧ (s.create c).1.ctxts = s.ctxts := by
  have hctxts : (s.firstCreate c.firstCreate).ctxts = s.ctxts := by
    unfold firstCreate
    cases c.firstCreate.destroyed <;> rfl
  have hfail : ¬ c.firstCreate.Succeeds := by
    intro hok
    obtain ⟨id, hid⟩ := hok.replies
    exact hnone id (.inl ⟨hok, hid⟩)
  have hret := mt (c.firstCreate.created_ret_eq_zero_iff).1 hfail
  unfold create
  by_cases hlegacy : c.fallback.legacy.ret = 0
  · have hnum : HGSL_CONTEXT_NUM ≤ c.fallback.legacy.val.toNat := by
      rw [← Nat.not_lt]
      exact fun hnum => hnone _ (.inr ⟨hfail, hlegacy, rfl, hnum⟩)
    simp [hret, hlegacy, hnum, createOut, EINVAL, hctxts, Nat.not_lt.2 hnum]
  · simp [hret, hlegacy, createOut, FirstCreate.ctxthandle_of_not_succeeds hfail, hctxts]

/-- With an id it is registered, and then comes the table. -/
theorem create_of_id {id : BitVec 32} (s : CtxtCreation) (hid : c.GivesId id) : s.create c =
    ((s.firstCreate c.firstCreate).register c id (decide (c.firstCreate.created.ret = 0))).insert c id := by
  unfold create
  rcases hid with ⟨hok, hid⟩ | ⟨hfail, hlegacy, rfl, hnum⟩
  · have hret := c.firstCreate.created_ret_eq_zero_iff.2 hok
    simp [hret, hok.ctxthandle hid]
  · have hret := mt (c.firstCreate.created_ret_eq_zero_iff).1 hfail
    simp [hret, hlegacy, Nat.not_le.2 hnum]

end CtxtCreation

open CtxtCreation

/-- **Failed context creation.** An error leaves no trace, unless the context of the call has got no id from the back
    end, or one that is taken, or there is no memory for its timeline after the first create has destroyed another
    context. -/
theorem failed_create_no_trace_iff (t : CtxtTables) (c : CreateCall) :
    ((hgslIoctlCtxtCreate t c).2 ≠ 0 → NoTrace t (hgslIoctlCtxtCreate t c).1) ↔ ¬ c.LeavesTrace t := by
  have hstart : ∀ devId, NoTrace t (start t devId) := fun devId =>
    ⟨fun _ _ => rfl, rfl, rfl, rfl, rfl, by simp [start], by simp [start]⟩
  by_cases halloc : c.Allocates
  · obtain ⟨hdev, hchannel, hzalloc⟩ := halloc
    have hcall : hgslIoctlCtxtCreate t c =
        ({ start t (hgslHnd2id c.devhandle).toNat with ctxts := ⟨1, 0⟩ } : CtxtCreation).create c := by
      unfold hgslIoctlCtxtCreate
      simp [Nat.not_le.2 hdev, hchannel, hzalloc]
    rw [hcall]
    by_cases hgives : ∃ id, c.GivesId id
    · obtain ⟨id, hid⟩ := hgives
      have hreg : Registered t (hgslHnd2id c.devhandle).toNat id.toNat _ (registered t c id) :=
        registered_of_start c.firstCreate id _
      have hiff : c.LeavesTrace t ↔ (t.contexts (hgslHnd2id c.devhandle).toNat id.toNat).isSome = true ∨
          c.timelineAlloc = false ∧ c.LegacyTimeline ∧ c.DestroysOther t := by
        constructor
        · exact fun hleaves => hleaves.2 id hid
        · exact fun h => ⟨⟨hdev, hchannel, hzalloc⟩, fun id' hid' => hid.unique hid' ▸ h⟩
      rw [create_of_id _ hid, hiff]
      change (((registered t c id).insert c id).2 ≠ 0 → NoTrace t ((registered t c id).insert c id).1) ↔ _
      cases hslot : t.contexts (hgslHnd2id c.devhandle).toNat id.toNat with
      | some n =>
          obtain ⟨hret, hmem⟩ := hreg.insert_taken (by simp [hslot]) c id
          refine ⟨fun hno => ?_, fun hnot => absurd (.inl rfl) hnot⟩
          rw [(hno hret).eventGroups] at hmem
          simp at hmem
      | none =>
          rw [hreg.insert_free hslot c id, hitsNone_firstDestroys]
          by_cases hother : c.DestroysOther t
          · simp [hother, registered_use_iff hother.1]
          · simp [hother]
    · have hnone := not_exists.1 hgives
      obtain ⟨hret, hctxts⟩ := create_without_id { start t (hgslHnd2id c.devhandle).toNat with ctxts := ⟨1, 0⟩ } hnone
      have hleaves : c.LeavesTrace t := ⟨⟨hdev, hchannel, hzalloc⟩, fun id hid => absurd hid (hnone id)⟩
      refine ⟨fun hno => ?_, fun hnot => absurd hleaves hnot⟩
      have hfreed := (hno hret).ctxt
      simp [hctxts] at hfreed
  · have hnot : ¬ c.LeavesTrace t := fun hleaves => halloc hleaves.1
    refine ⟨fun _ => hnot, fun _ _ => ?_⟩
    have hno := hstart (hgslHnd2id c.devhandle).toNat
    by_cases hdev : HGSL_DEVICE_NUM ≤ (hgslHnd2id c.devhandle).toNat
    · simpa [hgslIoctlCtxtCreate, hdev] using hno
    · by_cases hchannel : c.channelGet = 0
      · have hzalloc : c.zalloc = false := by
          simpa [CreateCall.Allocates, hchannel, Nat.not_le.1 hdev] using halloc
        simpa [hgslIoctlCtxtCreate, hdev, hchannel, hzalloc] using hno
      · simpa [hgslIoctlCtxtCreate, hdev, hchannel] using hno

/-- Context 3 has id 5 of the first device. -/
def oneContext : CtxtTables where
  contexts := fun d i => if d = 0 ∧ i = 5 then some 3 else none
  eventGroups := [3]

/-- The back end gives id 5 again. -/
def sameId : CreateCall where
  devhandle := 1#32
  dbqOff := true
  first := .v1 {
    ctxthandle := ⟨0, 5#32⟩
    fe := ⟨⟨0, GSL_SUCCESS⟩, 0, 0⟩
    be := ⟨⟨0, 0#32⟩, 0, true, 0, 0⟩
    dbqOff := true
    rval := ⟨0, GSL_SUCCESS⟩
    dbqInfo := ⟨0, 0#32⟩ }
  fallback := ⟨⟨0, 5#32⟩, true, ⟨0, true⟩, 0⟩
  dbq := ⟨0, 0#32, 0#32, 0#32, true, 0, ⟨0, 0#32⟩, 0, 0⟩

/-- The freed context stays in the list, and the back end destroys context 3. -/
theorem same_id_leaves_trace :
    (hgslIoctlCtxtCreate oneContext sameId).2 = -EBUSY ∧
      (hgslIoctlCtxtCreate oneContext sameId).1.eventGroups = [.other 3, .new] ∧
      (hgslIoctlCtxtCreate oneContext sameId).1.ctxts = ⟨1, 1⟩ ∧
      (hgslIoctlCtxtCreate oneContext sameId).1.destroys = [⟨0, 5, some (.other 3)⟩] ∧
      ¬ NoTrace oneContext (hgslIoctlCtxtCreate oneContext sameId).1 := by
  have hgroups : (hgslIoctlCtxtCreate oneContext sameId).1.eventGroups = [.other 3, .new] := by decide +kernel
  refine ⟨by decide +kernel, hgroups, by decide +kernel, by decide +kernel, fun hno => ?_⟩
  have hsame := hno.eventGroups
  rw [hgroups] at hsame
  simp [oneContext] at hsame

end Hgsl
