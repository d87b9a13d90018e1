import Hgsl.Doorbell.ContextIssue

set_option autoImplicit false

/-! # Exclusive use of the indirect IB buffer

The owner of the buffer is one timestamp, and 0 stands for a free buffer. The invariant says that a sent
message that points to the buffer and has not retired carries that timestamp; then a buffer whose owner
is 0 or has retired is free indeed. Three things break it, and the condition `keepsOwner` excludes
them: the poll after an inline submission gives the buffer up although its owner has not retired, a
batch with timestamp 0 records no owner, and a wait that ends because the context is destroyed claims
the buffer all the same. -/

namespace Hgsl

namespace DbcqCtxt

/-! ## Scope and condition -/

/-- The GPU retires in order: `eop` advances, and the timestamps outstanding span less than half of
    the circle. -/
def retiresInOrder (s : DbcqCtxt) : DbcqAct → Prop
  | .gpuRetire => ∀ sh ∈ s.shadowTs, ∀ c ∈ s.inFlight.head?,
      Serial.Ge c.cmds.timestamp sh.eop ∧
        Serial.Spans (sh.eop :: s.inFlight.map fun c => c.cmds.timestamp)
  | _ => True

instance (s : DbcqCtxt) (a : DbcqAct) : Decidable (s.retiresInOrder a) := by
  cases a <;> unfold retiresInOrder <;> infer_instance

/-- A step leaves the owner of the buffer recorded. -/
def keepsOwner (s : DbcqCtxt) : DbcqAct → Bool
  | .send ret =>
    match s.phase with
    | .built c => ret ≠ 0 || !c.isBatchIbdesc || c.cmds.timestamp ≠ 0#32
    | _ => true
  | .waited ret => ret ≠ 0 || s.expired s.indirectIbTs || !s.bufferInUse
  | .finish _ =>
    match s.phase with
    | .sent c => c.isBatchIbdesc || !s.bufferInUse
    | _ => true
  | _ => true

/-- The steps that are in scope and meet the condition. -/
def Kept (s : DbcqCtxt) (a : DbcqAct) : Prop := s.retiresInOrder a ∧ s.keepsOwner a = true

instance (s : DbcqCtxt) (a : DbcqAct) : Decidable (s.Kept a) := inferInstanceAs (Decidable (_ ∧ _))

/-- A context whose queue has just been opened. -/
def fresh (contextId flags queuedTs gmuaddr : BitVec 32) (buf : List FwIbDesc) (sh : ShadowTs) :
    DbcqCtxt where
  contextId := contextId
  flags := flags
  queuedTs := queuedTs
  shadowTs := some sh
  indirectIbsGmuaddr := gmuaddr
  indirectIbs := buf

/-! ## Invariant -/

/-- A message points to the buffer at `gmuaddr`, and the buffer holds its descriptors. -/
structure Finds (gmuaddr : BitVec 32) (buf : List FwIbDesc) (c : IssueCall) : Prop where
  gmuaddr : c.cmds.ibDescGmuaddr = gmuaddr
  indirect : c.cmds.cmdFlags &&& CMDBATCH_INDIRECT = CMDBATCH_INDIRECT
  ibs : ibPrefix buf c.args.numIbs = c.args.ibDescs

/-- What the current call may rely on: from its claim on no other message needs the buffer. -/
def Prepares (s : DbcqCtxt) : Prop :=
  match s.phase with
  | .claimed c => s.bufferInUse = false ∧ s.indirectIbTs = c.cmds.timestamp
  | .built c => c.isBatchIbdesc = true →
      s.bufferInUse = false ∧ s.indirectIbTs = c.cmds.timestamp ∧ Finds s.indirectIbsGmuaddr s.indirectIbs c
  | _ => True

structure Owned (s : DbcqCtxt) : Prop where
  shadow : s.shadowTs.isSome = true
  notOverwritten : s.overwrote = false
  owner : ∀ c ∈ s.inFlight, c.isBatchIbdesc = true → s.expired c.cmds.timestamp = false →
    s.indirectIbTs = c.cmds.timestamp ∧ c.cmds.timestamp ≠ 0#32 ∧ Finds s.indirectIbsGmuaddr s.indirectIbs c
  prepares : s.Prepares

theorem bufferInUse_eq_false {s : DbcqCtxt} :
    s.bufferInUse = false ↔
      ∀ c ∈ s.inFlight, c.isBatchIbdesc = true → s.expired c.cmds.timestamp = true := by
  simp [bufferInUse]

theorem Owned.fresh (contextId flags queuedTs gmuaddr : BitVec 32) (buf : List FwIbDesc)
    (sh : ShadowTs) : Owned (fresh contextId flags queuedTs gmuaddr buf sh) where
  shadow := rfl
  notOverwritten := rfl
  owner := nofun
  prepares := trivial

/-- **A buffer that looks free is free.** -/
theorem Owned.free {s : DbcqCtxt} (h : Owned s)
    (hfree : s.indirectIbTs = 0#32 ∨ s.expired s.indirectIbTs = true) : s.bufferInUse = false := by
  rw [bufferInUse_eq_false]
  intro c hc hbatch
  by_contra hexp
  rw [Bool.not_eq_true] at hexp
  obtain ⟨howner, hne, -⟩ := h.owner c hc hbatch hexp
  rcases hfree with hzero | hretired
  · exact hne (howner.symm.trans hzero)
  · rw [howner, hexp] at hretired
    cases hretired

/-- With no message that needs the buffer, its owner and its contents do not matter. -/
theorem Owned.of_free {s s' : DbcqCtxt} (h : Owned s) (hfree : s.bufferInUse = false)
    (hshadow : s'.shadowTs = s.shadowTs) (hflight : s'.inFlight = s.inFlight)
    (hover : s'.overwrote = false) (hprep : s'.Prepares) : Owned s' where
  shadow := hshadow ▸ h.shadow
  notOverwritten := hover
  owner c hc hbatch hexp := by
    rw [hflight] at hc
    have hretired := bufferInUse_eq_false.1 hfree c hc hbatch
    unfold expired at hretired hexp
    rw [hshadow, hretired] at hexp
    cases hexp
  prepares := hprep

/-- The buffer is claimed. -/
theorem Owned.claim {s : DbcqCtxt} (h : Owned s) (hfree : s.bufferInUse = false) (c : IssueCall) :
    Owned { s with indirectIbTs := c.cmds.timestamp, phase := .claimed c } :=
  h.of_free hfree rfl rfl h.notOverwritten ⟨hfree, rfl⟩

/-! ## Steps -/

theorem Owned.ret {s : DbcqCtxt} (h : Owned s) (e : Int) : Owned (s.ret e) :=
  { h with prepares := trivial }

theorem Owned.issue {s s' : DbcqCtxt} {a : IssueArgs} {memory : Bool} (h : Owned s)
    (hstep : s.step (.issue a memory) = some s') : Owned s' := by
  simp only [step] at hstep
  split at hstep
  · split at hstep
    · obtain rfl := Option.some.inj hstep
      exact { h with prepares := trivial }
    · next c hc =>
        obtain rfl := Option.some.inj hstep
        refine { h with prepares := ?_ }
        by_cases hbatch : c.isBatchIbdesc = true
        · simp only [Prepares, if_pos hbatch]
        · simp only [Prepares, if_neg hbatch]
          exact fun hb => absurd hb hbatch
  · cases hstep

theorem expired_of_check {s : DbcqCtxt} {ts : BitVec 32} {e : Bool}
    (h : hgslCheckShadowTimestamp s.shadowTs ts = .ok e) : s.expired ts = e := by
  unfold expired
  rw [h]

theorem Owned.acquire {s s' : DbcqCtxt} (h : Owned s) (hstep : s.step .acquire = some s') :
    Owned s' := by
  simp only [step] at hstep
  split at hstep
  · next c hphase =>
      split at hstep
      · next r hr =>
          obtain rfl := Option.some.inj hstep
          have hfree : s.indirectIbTs = 0#32 ∨ s.expired s.indirectIbTs = true := by
            unfold dbcqGetFreeIndirectIbBuffer at hr
            by_cases hzero : s.indirectIbTs = 0#32
            · exact .inl hzero
            · rw [if_pos hzero] at hr
              split at hr
              · next hcheck => exact .inr (expired_of_check hcheck)
              · rw [if_pos (by decide)] at hr
                cases hr
              · cases hr
          rw [dbcqGetFreeIndirectIbBuffer_eq hr]
          exact h.claim (h.free hfree) c
      · obtain rfl := Option.some.inj hstep
        exact { h with prepares := trivial }
  · cases hstep

theorem Owned.waited {s s' : DbcqCtxt} {ret : Int} (h : Owned s)
    (hkeep : s.keepsOwner (.waited ret) = true) (hstep : s.step (.waited ret) = some s') :
    Owned s' := by
  obtain ⟨c, hphase, ⟨rfl, rfl⟩ | ⟨-, e, rfl⟩⟩ := waited_cases hstep
  · simp only [keepsOwner, ne_eq, not_true_eq_false, decide_false, Bool.false_or, Bool.or_eq_true,
      Bool.not_eq_true'] at hkeep
    rcases hkeep with hexp | hfree
    · exact h.claim (h.free (.inr hexp)) c
    · exact h.claim hfree c
  · exact h.ret e

/-- A message that is made to point to the buffer finds what was just copied. -/
theorem Finds.filled (s : DbcqCtxt) (c : IssueCall) :
    Finds s.indirectIbsGmuaddr (s.fillBuffer c).indirectIbs
      { c with cmds := c.cmds.indirect s.indirectIbsGmuaddr } where
  gmuaddr := rfl
  indirect := by
    ext i hi
    simp only [DbCmds.indirect, BitVec.getElem_and, BitVec.getElem_or]
    cases CMDBATCH_INDIRECT[i] <;> simp
  ibs := ibPrefix_copyIbs s.indirectIbs c.args.ibDescs

theorem Owned.fill {s s' : DbcqCtxt} (h : Owned s) (hstep : s.step .fill = some s') :
    Owned s' := by
  simp only [step] at hstep
  split at hstep
  · next c hphase =>
      obtain rfl := Option.some.inj hstep
      have hprep := h.prepares
      simp only [Prepares, hphase] at hprep
      obtain ⟨hfree, howner⟩ := hprep
      -- the copy overwrites nothing, as no message in flight needs the buffer
      refine h.of_free hfree rfl rfl ?_ ?_
      · simp only [fillBuffer, h.notOverwritten, hfree, Bool.or_self]
      · intro _
        exact ⟨hfree, howner, Finds.filled s c⟩
  · cases hstep

theorem Owned.send {s s' : DbcqCtxt} {ret : Int} (h : Owned s)
    (hkeep : s.keepsOwner (.send ret) = true) (hstep : s.step (.send ret) = some s') : Owned s' := by
  simp only [step] at hstep
  split at hstep
  · next c hphase =>
      split at hstep
      · next hret =>
          subst hret
          obtain rfl := Option.some.inj hstep
          have hprep := h.prepares
          simp only [Prepares, hphase] at hprep
          refine { h with owner := ?_, prepares := trivial }
          intro c' hc' hbatch hexp
          rcases List.mem_append.1 hc' with hold | hnew
          · exact h.owner c' hold hbatch hexp
          · -- the message that has just been sent is the one the buffer was claimed for
            obtain rfl := List.mem_singleton.1 hnew
            obtain ⟨-, howner, hfinds⟩ := hprep hbatch
            refine ⟨howner, ?_, hfinds⟩
            simpa [keepsOwner, hphase, hbatch] using hkeep
      · obtain rfl := Option.some.inj hstep
        exact h.ret ret
  · cases hstep

theorem Owned.finish {s s' : DbcqCtxt} {wait : Int} (h : Owned s)
    (hkeep : s.keepsOwner (.finish wait) = true) (hstep : s.step (.finish wait) = some s') :
    Owned s' := by
  simp only [step] at hstep
  split at hstep
  · next c hphase =>
      obtain rfl := Option.some.inj hstep
      simp only [keepsOwner, hphase, Bool.or_eq_true, Bool.not_eq_true'] at hkeep
      -- storing the queued timestamp touches neither buffer nor owner
      have hstore : ∃ s₁, (if c.args.updateQueuedTs then { s with queuedTs := c.cmds.timestamp }
          else s) = s₁ ∧ Owned s₁ ∧ s₁.bufferInUse = s.bufferInUse := by
        refine ⟨_, rfl, ?_⟩
        split
        · exact ⟨{ h with }, rfl⟩
        · exact ⟨h, rfl⟩
      obtain ⟨s₁, heq, h₁, hsame⟩ := hstore
      simp only [finishIssue, heq]
      split
      · exact h₁.ret 0
      · next hbatch =>
          rcases pollIndirectIbBuffer_cases s₁ wait with hpoll | hpoll
          · rw [hpoll]
            exact h₁.ret 0
          · have hfree : s₁.bufferInUse = false := hsame.trans (hkeep.resolve_left hbatch)
            rw [hpoll]
            exact h₁.of_free hfree rfl rfl h₁.notOverwritten trivial
  · cases hstep

theorem expired_some {s : DbcqCtxt} {sh : ShadowTs} (h : s.shadowTs = some sh) (ts : BitVec 32) :
    s.expired ts = hgslTs32Ge sh.eop ts := by
  simp only [expired, h, hgslCheckShadowTimestamp]

/-- What has retired stays retired. -/
theorem Owned.gpuRetire {s s' : DbcqCtxt} (h : Owned s) (horder : s.retiresInOrder .gpuRetire)
    (hstep : s.step .gpuRetire = some s') : Owned s' := by
  simp only [step, DbcqCtxt.gpuRetire] at hstep
  split at hstep
  · cases hstep
  · next c rest hflight =>
      obtain rfl := Option.some.inj hstep
      obtain ⟨sh, hsh⟩ := Option.isSome_iff_exists.1 h.shadow
      have hscope := horder sh hsh c (by rw [hflight]; rfl)
      rw [hflight] at hscope
      obtain ⟨hge, hspan⟩ := hscope
      -- inside the span the order is transitive: what had retired is retired still
      have hretired : ∀ d ∈ rest, s.expired d.cmds.timestamp = true →
          hgslTs32Ge c.cmds.timestamp d.cmds.timestamp = true := by
        intro d hd hexp
        rw [expired_some hsh, hgslTs32Ge_iff] at hexp
        rw [hgslTs32Ge_iff]
        refine hspan.ge_trans ?_ ?_ ?_ hge hexp
        · simp
        · simp
        · simp only [List.map_cons, List.mem_cons, List.mem_map]
          exact .inr (.inr ⟨d, hd, rfl⟩)
      have hshadow : s.shadowTs.map (fun sh => { sh with eop := c.cmds.timestamp }) =
          some { sh with eop := c.cmds.timestamp } := by
        rw [hsh, Option.map_some]
      have hfree (hfree : s.bufferInUse = false) :
          bufferInUse { s with
            inFlight := rest
            shadowTs := s.shadowTs.map fun sh => { sh with eop := c.cmds.timestamp } } = false := by
        rw [bufferInUse_eq_false]
        intro d hd hbatch
        rw [expired_some hshadow]
        refine hretired d hd (bufferInUse_eq_false.1 hfree d ?_ hbatch)
        rw [hflight]
        exact List.mem_cons_of_mem c hd
      refine ⟨by rw [hshadow]; rfl, h.notOverwritten, ?_, ?_⟩
      · intro d hd hbatch hexp
        rw [expired_some hshadow] at hexp
        refine h.owner d (by rw [hflight]; exact List.mem_cons_of_mem c hd) hbatch ?_
        by_contra hold
        rw [Bool.not_eq_false] at hold
        rw [hretired d hd hold] at hexp
        cases hexp
      · have hprep := h.prepares
        unfold Prepares at hprep ⊢
        split at hprep
        · next hphase =>
            simp only [hphase]
            exact ⟨hfree hprep.1, hprep.2⟩
        · next hphase =>
            simp only [hphase]
            intro hbatch
            obtain ⟨hf, howner, hfinds⟩ := hprep hbatch
            exact ⟨hfree hf, howner, hfinds⟩
        · trivial

/-- **Step lemma.** -/
theorem Owned.step {s s' : DbcqCtxt} {a : DbcqAct} (h : Owned s)
    (hstep : Trace.guarded Kept step s a = some s') : Owned s' := by
  obtain ⟨⟨horder, hkeep⟩, hstep⟩ := Trace.guarded_eq_some.1 hstep
  cases a with
  | issue a memory => exact h.issue hstep
  | acquire => exact h.acquire hstep
  | waited ret => exact h.waited hkeep hstep
  | fill => exact h.fill hstep
  | send ret => exact h.send hkeep hstep
  | finish wait => exact h.finish hkeep hstep
  | gpuRetire => exact h.gpuRetire horder hstep
  | setInDestroy =>
      obtain rfl := Option.some.inj hstep
      exact { h with }

/-! ## Runs -/

/-- The buffer was never written while a sent message needed it, and every message in flight that
    points to it and has not retired finds its own descriptors there. -/
structure BufferExclusive (s : DbcqCtxt) : Prop where
  notOverwritten : s.overwrote = false
  intact : ∀ c ∈ s.inFlight, c.isBatchIbdesc = true → s.expired c.cmds.timestamp = false →
    Finds s.indirectIbsGmuaddr s.indirectIbs c

theorem bufferExclusive_of_kept (contextId flags queuedTs gmuaddr : BitVec 32)
    (buf : List FwIbDesc) (sh : ShadowTs) (as : List DbcqAct) (s : DbcqCtxt)
    (h : Trace.exec (Trace.guarded Kept step) (fresh contextId flags queuedTs gmuaddr buf sh) as =
      some s) : BufferExclusive s := by
  have howned : Owned s := Trace.exec_invariant (fun _ _ _ h hstep => h.step hstep)
    (Owned.fresh contextId flags queuedTs gmuaddr buf sh) h
  refine ⟨howned.notOverwritten, ?_⟩
  intro c hc hbatch hexp
  exact (howned.owner c hc hbatch hexp).2.2

/-- A driver-numbered context, with nothing retired so far. -/
def dbcqStart : DbcqCtxt := fresh 3#32 0x80#32 0#32 0x1000#32 [] ⟨0#32, 0#32⟩

/-- A submission of `n` equal descriptors. -/
def dbcqSubmission (n : Nat) : IssueArgs where
  ibDescs := List.replicate n ⟨0x2000#64, 64#32⟩
  gmuCmdFlags := 0x20#32
  timestamp := 0#32
  updateQueuedTs := true

/-- Two batches, the second one after the first has retired, and an inline submission. -/
def batchRun : List DbcqAct :=
  [.issue (dbcqSubmission 83) true, .acquire, .fill, .send 0, .finish 0, .gpuRetire,
    .issue (dbcqSubmission 2) true, .send 0, .finish 0,
    .issue (dbcqSubmission 90) true, .acquire, .fill, .send 0, .finish 0]

theorem bufferExclusive_of_kept_batchRun :
    ∃ s, Trace.exec (Trace.guarded Kept step) dbcqStart batchRun = some s ∧
      s.inFlight.length = 2 ∧ BufferExclusive s := by
  have heval : (Trace.exec (Trace.guarded Kept step) dbcqStart batchRun).map
      (fun s => s.inFlight.length) = some 2 := by
    decide +kernel
  obtain ⟨s, hs, hlen⟩ := Option.map_eq_some_iff.1 heval
  exact ⟨s, hs, hlen, bufferExclusive_of_kept _ _ _ _ _ _ _ s hs⟩

/-- A batch, an inline submission and a second batch, while the GPU retires nothing: the poll of the
    inline submission gives the buffer of the first batch to the second. -/
theorem buffer_overwritten_after_poll :
    ∃ s ∈ Trace.exec step dbcqStart
      [.issue (dbcqSubmission 83) true, .acquire, .fill, .send 0, .finish 0,
        .issue (dbcqSubmission 2) true, .send 0, .finish 0,
        .issue (dbcqSubmission 90) true, .acquire, .fill],
      s.overwrote = true ∧ s.expired 1#32 = false := by
  decide +kernel

end DbcqCtxt

end Hgsl
