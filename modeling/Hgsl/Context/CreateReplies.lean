import Hgsl.Context.Create
import Hgsl.Context.ShadowCleanup

set_option autoImplicit false

/-! # When a create succeeds

What `hgsl_hyp_ctxt_create_v1` and `hgsl_hyp_ctxt_create_v2` need to get an id and to succeed, and what the context
needs in legacy mode to get a timeline, as conditions on what the calls meet. -/

namespace Hgsl

namespace ShadowCtxt

variable {s : ShadowCtxt} {node : Nat}

/-! ## Version 1 -/

/-- The back end exports a shadow buffer that can be mapped, or says that there is none. -/
def BeReply.Ok (r : BeReply) : Prop :=
  r.rpcShadow.ret = 0 ∧ r.exportId = 0 ∧
    (r.rpcShadow.val &&& GSL_FLAGS_INITIALIZED ≠ 0#32 → r.zalloc = true ∧ r.habmmImport = 0 ∧ r.vmap = 0)

theorem readShadowtsMemBe_eq_zero_iff (s : ShadowCtxt) (r : BeReply) : (s.readShadowtsMemBe r).2 = 0 ↔ r.Ok := by
  unfold readShadowtsMemBe BeReply.Ok
  split_ifs with hret hexport hflags hzalloc himport hvmap <;> simp_all [ENOMEM, EFAULT]

theorem assign_eq_zero_iff (hbuf : node ∈ s.dmaBuf) (vmap : Int) :
    (s.assignShadowTsCpuAddrMemstore node vmap).2 = 0 ↔ vmap = 0 := by
  unfold assignShadowTsCpuAddrMemstore
  split_ifs with hcontains hvmap <;> simp_all [EFAULT]

theorem readShadowtsMemFe_eq_zero_iff (hbuf : node ∈ s.dmaBuf) (r : FeReply) :
    (s.readShadowtsMemFe node r).2 = 0 ↔ r.Assigns := by
  have htouch : (s.touch node).dmaBuf = s.dmaBuf := rfl
  have hassign := assign_eq_zero_iff (s := s.touch node) hbuf r.vmap
  unfold readShadowtsMemFe FeReply.Assigns
  split_ifs <;> simp_all [EINVAL]

/-- The reads of the reply behind the id succeed. -/
def CreateV1.Succeeds (r : CreateV1) : Prop :=
  r.Replies ∧ (r.fe.Assigns ∨ r.be.Ok) ∧
    ¬ (r.dbqOff = false ∧ (r.rval.ret ≠ 0 ∨ r.rval.val = GSL_SUCCESS ∧ r.dbqInfo.ret ≠ 0))

theorem v1Shadow_eq_zero_iff (hbuf : node ∈ s.dmaBuf) (r : CreateV1) :
    (s.v1Shadow node r).2 = 0 ↔ (r.fe.Assigns ∨ r.be.Ok) ∧ v1ReadDbq r = 0 := by
  have hfe := readShadowtsMemFe_eq_zero_iff hbuf r.fe
  have hbe := readShadowtsMemBe_eq_zero_iff (s.readShadowtsMemFe node r.fe).1 r.be
  unfold v1Shadow v1ReadShadow
  by_cases hassigns : r.fe.Assigns
  · simp [hfe.2 hassigns, hassigns]
  · by_cases hok : r.be.Ok
    · simp [mt hfe.1 hassigns, hbe.2 hok, hok]
    · simp [mt hfe.1 hassigns, mt hbe.1 hok, hassigns, hok]

theorem v1Body_of_replies (s : ShadowCtxt) {r : CreateV1} (h : r.Replies) :
    (s.v1Body r).ctxthandle = r.ctxthandle.val ∧ ((s.v1Body r).ret = 0 ↔ r.Succeeds) := by
  obtain ⟨hchannel, hreset, hzalloc, halloc, hwrite, htransact, hread, hid⟩ := id h
  have hdbq := not_congr (v1ReadDbq_ne_zero_iff r)
  rw [not_not] at hdbq
  unfold v1Body
  simp only [hchannel, hreset, hzalloc, halloc, hwrite, htransact, hread, Nat.not_le.2 hid]
  refine ⟨rfl, ?_⟩
  have hbuf : s.newNode ∈ (s.hgslMemNodeZalloc.setDmaBuf s.newNode).dmaBuf := List.mem_cons_self
  simpa [CreateV1.Succeeds, h, ← hdbq] using v1Shadow_eq_zero_iff hbuf r

theorem v1Body_of_not_replies (s : ShadowCtxt) {r : CreateV1} (h : ¬ r.Replies) :
    ¬ (s.v1Body r).ctxthandle.toNat < HGSL_CONTEXT_NUM ∧ (s.v1Body r).ret ≠ 0 := by
  have hno : ¬ noCtxthandle.toNat < HGSL_CONTEXT_NUM := by decide
  unfold v1Body
  unfold CreateV1.Replies at h
  split_ifs with hchannel hreset hzalloc halloc hwrite htransact hread hid
  · exact ⟨hno, by simp [EINVAL]⟩
  · exact ⟨hno, hreset⟩
  · exact ⟨hno, by simp [ENOMEM]⟩
  · exact ⟨hno, halloc⟩
  · exact ⟨hno, hwrite⟩
  · exact ⟨hno, htransact⟩
  · exact ⟨hno, hread⟩
  · exact ⟨Nat.not_lt.2 hid, by simp [EINVAL]⟩
  · simp_all

/-! ## Version 2 -/

/-- The context record is there, or there is to be none. -/
def CreateV2.RecordOk (r : CreateV2) : Prop :=
  r.flags &&& GSL_CONTEXT_FLAG_USES_PROTECTED ≠ 0#32 ∨
    r.recordSizeKB * 1024#32 ≠ 0#32 ∧ r.recordZalloc = true ∧ r.recordAlloc = 0 ∧ r.getGpuaddr = 0 ∧
      r.mmuMap = 0 ∧ r.addNode = 0

/-- Version 2 gets a context id. -/
def CreateV2.Replies (r : CreateV2) : Prop :=
  r.devhandle = true ∧ r.habChannel = true ∧ r.parcelReset = 0 ∧ r.zalloc = true ∧ r.sharedmemAlloc = 0 ∧
    r.RecordOk ∧ r.write = 0 ∧ r.transact = 0 ∧ r.ctxthandle.ret = 0 ∧ r.ctxthandle.val.toNat < HGSL_CONTEXT_NUM

/-- The rest of the reply is there, and the shadow buffer can be mapped. -/
def CreateV2.Succeeds (r : CreateV2) : Prop :=
  r.Replies ∧ r.rval = ⟨0, GSL_SUCCESS⟩ ∧ r.vmap = 0

theorem v2Record_cases (s : ShadowCtxt) (r : CreateV2) (node : Nat) :
    (s.v2Record r node).ctxthandle = noCtxthandle ∧ ((s.v2Record r node).ret = 0 ↔ r.RecordOk) ∧
      (node ∈ s.dmaBuf → node ∈ (s.v2Record r node).state.dmaBuf) := by
  unfold v2Record CreateV2.RecordOk
  split_ifs with hprotected hsize hzalloc halloc hgpuaddr hmap hadd
  all_goals simp_all [EINVAL, ENOMEM, hgslMemNodeZalloc, setDmaBuf]

theorem v2Call_cases {e : AtOut} (hbuf : node ∈ e.state.dmaBuf) (hhandle : e.ctxthandle = noCtxthandle)
    (r : CreateV2) :
    (r.write = 0 ∧ r.transact = 0 ∧ r.ctxthandle.ret = 0 ∧ r.ctxthandle.val.toNat < HGSL_CONTEXT_NUM ∧
      (v2Call e r node).ctxthandle = r.ctxthandle.val ∧
      ((v2Call e r node).ret = 0 ↔ r.rval = ⟨0, GSL_SUCCESS⟩ ∧ r.vmap = 0)) ∨
    (¬ (r.write = 0 ∧ r.transact = 0 ∧ r.ctxthandle.ret = 0 ∧ r.ctxthandle.val.toNat < HGSL_CONTEXT_NUM) ∧
      ¬ (v2Call e r node).ctxthandle.toNat < HGSL_CONTEXT_NUM ∧ (v2Call e r node).ret ≠ 0) := by
  have hno : ¬ noCtxthandle.toNat < HGSL_CONTEXT_NUM := by decide
  have hrvalEq : r.rval = ⟨r.rval.ret, r.rval.val⟩ := rfl
  unfold v2Call
  split_ifs with hwrite htransact hread hid hrval hval
  · exact .inr ⟨by tauto, hhandle ▸ hno, hwrite⟩
  · exact .inr ⟨by tauto, hhandle ▸ hno, htransact⟩
  · exact .inr ⟨by tauto, hhandle ▸ hno, hread⟩
  · exact .inr ⟨by omega, Nat.not_lt.2 hid, by simp [EINVAL]⟩
  all_goals
    refine .inl ⟨by tauto, by tauto, by tauto, Nat.not_le.1 hid, rfl, ?_⟩
    rw [hrvalEq]
  · simp [hrval]
  · simp [hval, EIO]
  · have hassign := assign_eq_zero_iff (s := { e.state with ctxtRecordMemNode := e.ctxtRecordMemNode }) hbuf r.vmap
    simpa [not_not.1 hrval, not_not.1 hval] using hassign

theorem v2Body_cases (s : ShadowCtxt) (r : CreateV2) :
    (r.Replies ∧ (s.v2Body r).ctxthandle = r.ctxthandle.val ∧ ((s.v2Body r).ret = 0 ↔ r.Succeeds)) ∨
    (¬ r.Replies ∧ ¬ (s.v2Body r).ctxthandle.toNat < HGSL_CONTEXT_NUM ∧ (s.v2Body r).ret ≠ 0) := by
  have hno : ¬ noCtxthandle.toNat < HGSL_CONTEXT_NUM := by decide
  obtain ⟨hhandle, hrecord, hbuf⟩ := v2Record_cases (s.hgslMemNodeZalloc.setDmaBuf s.newNode) r s.newNode
  have hcall := v2Call_cases (hbuf List.mem_cons_self) hhandle r
  obtain ⟨e, he⟩ : ∃ e, (s.hgslMemNodeZalloc.setDmaBuf s.newNode).v2Record r s.newNode = e := ⟨_, rfl⟩
  rw [he] at hhandle hrecord hcall
  unfold v2Body CreateV2.Succeeds CreateV2.Replies
  by_cases hstart : r.devhandle = true ∧ r.habChannel = true ∧ r.parcelReset = 0 ∧ r.zalloc = true ∧
      r.sharedmemAlloc = 0
  · obtain ⟨hdev, hchannel, hreset, hzalloc, halloc⟩ := hstart
    by_cases hret : e.ret = 0
    · have hok : r.RecordOk := hrecord.1 hret
      simp only [hdev, hchannel, hreset, hzalloc, halloc, he, hret, hok]
      rcases hcall with ⟨hwrite, htransact, hread, hid, hcall⟩ | hcall
      · exact .inl (by simpa [hwrite, htransact, hread, hid] using hcall)
      · exact .inr (by simpa using hcall)
    · have hok : ¬ r.RecordOk := fun hok => hret (hrecord.2 hok)
      simp only [hdev, hchannel, hreset, hzalloc, halloc, he, hok]
      exact .inr ⟨by simp, by simpa [hret, hhandle] using hno, by simp [hret]⟩
  · have hnot : ¬ r.Replies := fun ⟨hdev, hchannel, hreset, hzalloc, halloc, _⟩ =>
      hstart ⟨hdev, hchannel, hreset, hzalloc, halloc⟩
    refine .inr ⟨hnot, ?_⟩
    split_ifs with hdev hchannel hreset hzalloc halloc
    · exact ⟨hno, by simp [EINVAL]⟩
    · exact ⟨hno, by simp [EINVAL]⟩
    · exact ⟨hno, hreset⟩
    · exact ⟨hno, by simp [ENOMEM]⟩
    all_goals simp_all

/-! ## Legacy mode -/

/-- `hgsl_get_shadowts_mem` imports a buffer and maps it. -/
def Fallback.Maps (f : Fallback) : Prop :=
  f.zalloc = true ∧ f.getShadow.ret = 0 ∧ f.getShadow.val = true ∧ f.vmap = 0

theorem cleanupShadow_shadowTs (hts : s.shadowTs = false) : s.cleanupShadow.shadowTs = false := by
  unfold cleanupShadow
  split
  · exact hts
  · dsimp only
    split_ifs <;> simp_all [ShadowCtxt.touch, ShadowCtxt.kfree, hgslHypMemUnmapSmmu, hgslHypPutShadowtsMem,
      hgslSharedmemFree]

theorem Holds.getShadowtsMem_shadowTs (h : Holds s [] none) (f : Fallback) :
    (s.hgslGetShadowtsMem f).shadowTs = true ↔ f.Maps := by
  have hsn : s.shadowTsNode = none := h.shadowTsNode
  have hts : s.shadowTs = false := h.shadowTs
  unfold hgslGetShadowtsMem Fallback.Maps
  rw [hsn]
  dsimp only
  split_ifs with hzalloc hret hval hvmap
  · simp_all [cleanupShadow_shadowTs hts]
  · have hclean : ({ s.hgslMemNodeZalloc with shadowTsNode := some s.newNode } : ShadowCtxt).cleanupShadow.shadowTs =
        false := cleanupShadow_shadowTs hts
    simp_all
  · have hclean : (({ s.hgslMemNodeZalloc with shadowTsNode := some s.newNode } : ShadowCtxt).setDmaBuf
        s.newNode).cleanupShadow.shadowTs = false := cleanupShadow_shadowTs hts
    simp_all
  · simp_all
  · simp_all [hgslMemNodeZalloc]

/-- The stale pointer keeps `hgsl_get_shadowts_mem` from its work. -/
theorem lateError_shadowTs {r : CreateV1} (h : r.LateError) (f : Fallback) :
    ((hgslHypCtxtCreateV1 {} r).state.hgslGetShadowtsMem f).shadowTs = false := by
  obtain ⟨-, hnode, hts⟩ := (createV1_spec holds_init r).1 h
  unfold hgslGetShadowtsMem
  split
  · exact hts
  · contradiction

end ShadowCtxt

/-! ## Both versions -/

/-- The reply has this context id. -/
def FirstCreate.Replies (f : FirstCreate) (id : BitVec 32) : Prop :=
  match f with
  | .v1 r => r.Replies ∧ r.ctxthandle.val = id
  | .v2 r => r.Replies ∧ r.ctxthandle.val = id

def FirstCreate.Succeeds : FirstCreate → Prop
  | .v1 r => r.Succeeds
  | .v2 r => r.Succeeds

/-- Version 1 leaves a stale pointer. -/
def FirstCreate.Stale : FirstCreate → Prop
  | .v1 r => r.LateError
  | .v2 _ => False

namespace FirstCreate

variable {f : FirstCreate}

theorem Succeeds.replies (h : f.Succeeds) : ∃ id, f.Replies id := by
  cases f with
  | v1 r => exact ⟨_, h.1, rfl⟩
  | v2 r => exact ⟨_, h.1, rfl⟩

theorem atOut_of_replies {id : BitVec 32} (h : f.Replies id) :
    f.atOut.ctxthandle = id ∧ id.toNat < HGSL_CONTEXT_NUM ∧ (f.atOut.ret = 0 ↔ f.Succeeds) := by
  cases f with
  | v1 r =>
      obtain ⟨hreplies, rfl⟩ := h
      have hnum : r.ctxthandle.val.toNat < HGSL_CONTEXT_NUM := hreplies.2.2.2.2.2.2.2
      obtain ⟨hhandle, hret⟩ := ShadowCtxt.v1Body_of_replies {} hreplies
      exact ⟨hhandle, hnum, hret⟩
  | v2 r =>
      obtain ⟨hreplies, rfl⟩ := h
      have hnum : r.ctxthandle.val.toNat < HGSL_CONTEXT_NUM := hreplies.2.2.2.2.2.2.2.2.2
      rcases ShadowCtxt.v2Body_cases {} r with ⟨-, hhandle, hret⟩ | ⟨hnot, -⟩
      · exact ⟨hhandle, hnum, hret⟩
      · exact absurd hreplies hnot

theorem Replies.unique {id id' : BitVec 32} (h : f.Replies id) (h' : f.Replies id') : id = id' := by
  rw [← (atOut_of_replies h).1, (atOut_of_replies h').1]

theorem atOut_of_not_replies (h : ∀ id, ¬ f.Replies id) :
    ¬ f.atOut.ctxthandle.toNat < HGSL_CONTEXT_NUM ∧ f.atOut.ret ≠ 0 := by
  cases f with
  | v1 r => exact ShadowCtxt.v1Body_of_not_replies {} fun hreplies => h _ ⟨hreplies, rfl⟩
  | v2 r =>
      rcases ShadowCtxt.v2Body_cases {} r with ⟨hreplies, -⟩ | ⟨-, hhandle, hret⟩
      · exact absurd ⟨hreplies, rfl⟩ (h _)
      · exact ⟨hhandle, hret⟩

theorem created_ret (f : FirstCreate) : f.created.ret = f.atOut.ret := by
  cases f <;> rfl

theorem created_ctxthandle (f : FirstCreate) : f.created.ctxthandle = f.atOut.handle := by
  cases f <;> rfl

theorem created_ret_eq_zero_iff (f : FirstCreate) : f.created.ret = 0 ↔ f.Succeeds := by
  rw [created_ret]
  by_cases hreplies : ∃ id, f.Replies id
  · obtain ⟨id, hid⟩ := hreplies
    exact (atOut_of_replies hid).2.2
  · have hret := (atOut_of_not_replies (not_exists.1 hreplies)).2
    exact ⟨fun h => absurd h hret, fun h => absurd h.replies hreplies⟩

/-- A create that succeeds has the id of the reply. -/
theorem Succeeds.ctxthandle {id : BitVec 32} (h : f.Succeeds) (hid : f.Replies id) : f.created.ctxthandle = id := by
  obtain ⟨hhandle, -, hret⟩ := atOut_of_replies hid
  simp [created_ctxthandle, ShadowCtxt.AtOut.handle, hret.2 h, hhandle]

/-- One that fails has none. -/
theorem ctxthandle_of_not_succeeds (h : ¬ f.Succeeds) : ¬ f.created.ctxthandle.toNat < HGSL_CONTEXT_NUM := by
  rw [← created_ret_eq_zero_iff, created_ret] at h
  rw [created_ctxthandle]
  unfold ShadowCtxt.AtOut.handle
  split_ifs with hnum
  · decide
  · exact fun hlt => hnum ⟨h, hlt⟩

/-- It destroys the context that the reply has given an id. -/
theorem destroyed_eq_some_iff (f : FirstCreate) (i : Nat) :
    f.destroyed = some i ↔ ¬ f.Succeeds ∧ ∃ id, f.Replies id ∧ id.toNat = i := by
  unfold destroyed
  by_cases hreplies : ∃ id, f.Replies id
  · obtain ⟨id, hid⟩ := hreplies
    obtain ⟨hhandle, hnum, hret⟩ := atOut_of_replies hid
    have hunique : (∃ id', f.Replies id' ∧ id'.toNat = i) ↔ id.toNat = i := by
      constructor
      · rintro ⟨id', hid', rfl⟩
        rw [hid.unique hid']
      · exact fun h => ⟨id, hid, h⟩
    rw [hunique, hhandle, ← hret]
    simp [hnum]
  · have hhandle := (atOut_of_not_replies (not_exists.1 hreplies)).1
    have hnone : ¬ ∃ id, f.Replies id ∧ id.toNat = i := fun ⟨id, hid, _⟩ => hreplies ⟨id, hid⟩
    simp [hhandle, hnone]

/-- The shadow timestamps of a context in legacy mode -/
theorem legacy_shadowTs_iff (h : ¬ f.Succeeds) (b : ShadowCtxt.Fallback) :
    (f.created.state.hgslGetShadowtsMem b).shadowTs = true ↔ ¬ f.Stale ∧ b.Maps := by
  rw [← created_ret_eq_zero_iff] at h
  cases f with
  | v1 r =>
      by_cases hlate : r.LateError
      · have hts : ((FirstCreate.v1 r).created.state.hgslGetShadowtsMem b).shadowTs = false :=
          ShadowCtxt.lateError_shadowTs hlate b
        simp [hts, Stale, hlate]
      · have hholds := (ShadowCtxt.createV1_spec ShadowCtxt.holds_init r).2 hlate h
        have hiff : ((FirstCreate.v1 r).created.state.hgslGetShadowtsMem b).shadowTs = true ↔ b.Maps :=
          hholds.getShadowtsMem_shadowTs b
        simpa [Stale, hlate] using hiff
  | v2 r =>
      have hholds := ShadowCtxt.createV2_spec ShadowCtxt.holds_init r h
      have hiff : ((FirstCreate.v2 r).created.state.hgslGetShadowtsMem b).shadowTs = true ↔ b.Maps :=
        hholds.getShadowtsMem_shadowTs b
      simpa [Stale] using hiff

end FirstCreate

/-! ## The queue -/

/-- The context gets a queue of its own. -/
def DbqReply.Own (r : DbqReply) : Prop :=
  r.queryDbcq = 0 ∧ r.dbSignal ≠ 0#32 ∧ r.dbSignal.toNat ≤ HGSL_DB_SIGNAL_MAX ∧ r.queueGmuaddr ≠ 0#32 ∧
    r.irqBitIdx ≠ GLB_DB_DEST_TS_RETIRE_IRQ_ID ∧ r.dbcqZalloc = true ∧ r.dbcqSignal = 0

/-- The context gets a doorbell queue in legacy mode, and the queue has a global doorbell or one of the GMU. -/
def DbqReply.Shared (r : DbqReply) : Prop :=
  r.queryDbcq ≠ 0 ∧ r.dbqCreate.ret = 0 ∧ r.dbqCreate.val ≠ -1#32 ∧ r.dbqInit = 0 ∧
    (isGlobalDb r.tcsrIdx = true ∨ isGmugos (r.dbqCreate.val &&& 0xFFFF#32) = true)

namespace CtxtCreation

variable {s : CtxtCreation}

/-- A queue of the context has a signal that is a global doorbell or one of the GMU. -/
theorem dbcqInit_use_iff (hdbq : s.dbq = false) (hdbcq : s.dbcq = false) (r : DbqReply) (hquery : r.queryDbcq = 0) :
    (s.hgslDbcqInit r).hgslUseGmugosOrGlobalDbq = true ↔ s.shadow.shadowTs = true ∧ r.Own := by
  unfold hgslDbcqInit
  split_ifs with hparams hzalloc hsignal hgmugos
  · have hnot : ¬ r.Own := by
      rintro ⟨-, hdbSignal, hmax, haddr, hirq, -⟩
      simp [hdbSignal, haddr, hirq, Nat.not_lt.2 hmax] at hparams
    simp [hgslUseGmugosOrGlobalDbq, hdbq, hdbcq, hnot]
  · have hnot : ¬ r.Own := fun hown => by simp [hown.2.2.2.2.2.1] at hzalloc
    simp [hgslUseGmugosOrGlobalDbq, hdbq, hdbcq, hnot]
  · have hnot : ¬ r.Own := fun hown => hsignal hown.2.2.2.2.2.2
    simp [hgslUseGmugosOrGlobalDbq, hdbq, hdbcq, hnot]
  all_goals
    simp only [not_or, not_lt] at hparams
    obtain ⟨hdbSignal, hmax, haddr, hirq⟩ := hparams
    have hown : r.Own := ⟨hquery, hdbSignal, hmax, haddr, hirq, by simpa using hzalloc, not_not.1 hsignal⟩
  · simp [hgslUseGmugosOrGlobalDbq, hown, hgmugos]
  · have hpos : r.dbSignal.toNat ≠ 0 := fun hzero => hdbSignal (BitVec.eq_of_toNat_eq hzero)
    have hglobal : isGlobalDb ((r.dbSignal.toNat : Int) - DB_SIGNAL_GLOBAL_0) = true := by
      simp [isGlobalDb, DB_SIGNAL_GLOBAL_0]
      omega
    simp [hgslUseGmugosOrGlobalDbq, hown, hglobal]

theorem createDbq_use_iff (hdbq : s.dbq = false) (hdbcq : s.dbcq = false) (r : DbqReply) (dbqInfo : BitVec 32) :
    (s.hgslCtxtCreateDbq r dbqInfo false).hgslUseGmugosOrGlobalDbq = true ↔
      s.shadow.shadowTs = true ∧ (r.Own ∨ r.Shared) := by
  unfold hgslCtxtCreateDbq
  by_cases hquery : r.queryDbcq = 0
  · simp only [if_pos hquery, dbcqInit_use_iff hdbq hdbcq r hquery]
    simp [DbqReply.Shared, hquery]
  · have hown : ¬ r.Own := fun hown => hquery hown.1
    simp only [if_neg hquery, hown, false_or, DbqReply.Shared]
    split_ifs <;> simp_all [hgslUseGmugosOrGlobalDbq]

end CtxtCreation

end Hgsl
