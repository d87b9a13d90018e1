import Hgsl.Timestamp
import Hgsl.Lib.RefCount
import Hgsl.Lib.Trace

set_option autoImplicit false

/-! # Dispatch jobs

`hgsl_dispatch_queue_context` takes a reference to the context and counts a job for it; the dispatch
worker takes all counted jobs at once, sends commands for the first one and drops the references of the
others (`hgsl_dispatch_ctxt_issuecmds`). Each access to the count, the reference count and the queue of
the worker is a step. What `hgsl_dispatch_sendcmds` returns is the environment's choice. `dispatch->count`
is an `int`, so it turns negative at the 2^31st job; below that bound, jobs and references agree. -/

namespace Hgsl

/-- Who holds a reference to the context. -/
inductive JobHolder where
  /-- a job -/
  | job
  | other
  deriving DecidableEq, Repr

/-- Where the dispatch worker stands. -/
inductive DispatchWorker where
  | idle
  /-- in `hgsl_dispatch_ctxt_work`, before `hgsl_dispatch_ctxt_issuecmds` -/
  | entered
  /-- in the loop at turn `i` of `count`; `requeued` says that a job was put back and the worker is still
      to be scheduled for it -/
  | loop (i : Nat) (count : Int) (requeued : Bool)
  deriving DecidableEq, Repr

/-- `struct hgsl_dispatch_context` and the reference count of its context. -/
structure DispatchJobs where
  /-- `dispatch->count` -/
  count : BitVec 32 := 0#32
  kref : RefCount JobHolder := .init .other
  /-- `dispatch->work` is queued -/
  queued : Bool := false
  worker : DispatchWorker := .idle
  /-- the calls of `hgsl_dispatch_queue_context` that have a reference and have not counted it -/
  entering : Nat := 0
  /-- those that have counted it and are still to schedule the worker -/
  counted : Nat := 0
  deriving DecidableEq, Repr

/-- What can happen next. -/
inductive DispatchAct where
  /-- `hgsl_dispatch_queue_context` takes its reference -/
  | getContext
  /-- it counts the job -/
  | countJob
  /-- it schedules the worker -/
  | scheduleJob
  /-- somebody else calls `hgsl_dispatch_ctxt_schedule` -/
  | schedule
  /-- the worker starts -/
  | startWork
  /-- it takes the count -/
  | takeCount
  /-- one turn of its loop; `ret` is what `hgsl_dispatch_sendcmds` returns in the first turn -/
  | turn (ret : Int)
  /-- it schedules itself for the job that it has put back -/
  | scheduleAgain
  /-- its loop is over -/
  | finishWork
  | getOther
  | putOther
  deriving DecidableEq, Repr

namespace DispatchJobs

/-! ## The steps -/

/-- One turn of the loop in `hgsl_dispatch_ctxt_issuecmds`. -/
def issueTurn (d : DispatchJobs) (i : Nat) (count ret : Int) : DispatchJobs :=
  if 0 < i ∨ ret = 0 ∨ ret = -ENOENT then
    { d with kref := d.kref.put .job, worker := .loop (i + 1) count false }
  else { d with count := d.count + 1#32, worker := .loop (i + 1) count true }

/-- One step. -/
def step (d : DispatchJobs) : DispatchAct → Option DispatchJobs
  | .getContext =>
    match d.kref.getUnlessZero .job with
    | some kref => some { d with kref := kref, entering := d.entering + 1 }
    | none => some d
  | .countJob =>
    match d.entering with
    | 0 => none
    | n + 1 => some { d with count := d.count + 1#32, entering := n, counted := d.counted + 1 }
  | .scheduleJob =>
    match d.counted with
    | 0 => none
    | n + 1 => some { d with queued := true, counted := n }
  | .schedule => some { d with queued := true }
  | .startWork =>
    match d.worker with
    | .idle => if d.queued then some { d with queued := false, worker := .entered } else none
    | _ => none
  | .takeCount =>
    match d.worker with
    | .entered => some { d with count := 0#32, worker := .loop 0 d.count.toInt false }
    | _ => none
  | .turn ret =>
    match d.worker with
    | .loop i count false => if (i : Int) < count then some (d.issueTurn i count ret) else none
    | _ => none
  | .scheduleAgain =>
    match d.worker with
    | .loop i count true => some { d with queued := true, worker := .loop i count false }
    | _ => none
  | .finishWork =>
    match d.worker with
    | .loop i count false => if (i : Int) < count then none else some { d with worker := .idle }
    | _ => none
  | .getOther =>
    match d.kref.getUnlessZero .other with
    | some kref => some { d with kref := kref }
    | none => some d
  | .putOther =>
    if .other ∈ d.kref.holders then some { d with kref := d.kref.put .other } else none

/-! ## What a step can do -/

/-- The state that a step leaves. A reference is taken as long as the count is not 0. -/
inductive Effect (d : DispatchJobs) : DispatchAct → DispatchJobs → Prop where
  | getContext (hpos : d.kref.count ≠ 0) :
      Effect d .getContext { d with kref := d.kref.get .job, entering := d.entering + 1 }
  | contextGone (hzero : d.kref.count = 0) : Effect d .getContext d
  | countJob (n : Nat) (hentering : d.entering = n + 1) :
      Effect d .countJob { d with count := d.count + 1#32, entering := n, counted := d.counted + 1 }
  | scheduleJob (n : Nat) (hcounted : d.counted = n + 1) :
      Effect d .scheduleJob { d with queued := true, counted := n }
  | schedule : Effect d .schedule { d with queued := true }
  | startWork (hworker : d.worker = .idle) (hqueued : d.queued = true) :
      Effect d .startWork { d with queued := false, worker := .entered }
  | takeCount (hworker : d.worker = .entered) :
      Effect d .takeCount { d with count := 0#32, worker := .loop 0 d.count.toInt false }
  | turn (ret : Int) {i : Nat} {count : Int} (hworker : d.worker = .loop i count false)
      (hi : (i : Int) < count) : Effect d (.turn ret) (d.issueTurn i count ret)
  | scheduleAgain {i : Nat} {count : Int} (hworker : d.worker = .loop i count true) :
      Effect d .scheduleAgain { d with queued := true, worker := .loop i count false }
  | finishWork {i : Nat} {count : Int} (hworker : d.worker = .loop i count false)
      (hdone : ¬ (i : Int) < count) : Effect d .finishWork { d with worker := .idle }
  | getOther (hpos : d.kref.count ≠ 0) : Effect d .getOther { d with kref := d.kref.get .other }
  | otherGone (hzero : d.kref.count = 0) : Effect d .getOther d
  | putOther (hmem : .other ∈ d.kref.holders) : Effect d .putOther { d with kref := d.kref.put .other }

/-- **Inversion.** The invariants below take a step apart with it and do not look at `step`. -/
theorem step_cases {d d' : DispatchJobs} {a : DispatchAct} (hstep : d.step a = some d') :
    Effect d a d' := by
  cases a with
  | getContext =>
      simp only [step] at hstep
      split at hstep
      · next kref hkref =>
          obtain rfl := Option.some.inj hstep
          obtain ⟨hpos, rfl⟩ := RefCount.getUnlessZero_eq_some.1 hkref
          exact .getContext hpos
      · next hkref =>
          obtain rfl := Option.some.inj hstep
          exact .contextGone (RefCount.getUnlessZero_eq_none.1 hkref)
  | countJob =>
      simp only [step] at hstep
      split at hstep
      · cases hstep
      · next n hentering =>
          obtain rfl := Option.some.inj hstep
          exact .countJob n hentering
  | scheduleJob =>
      simp only [step] at hstep
      split at hstep
      · cases hstep
      · next n hcounted =>
          obtain rfl := Option.some.inj hstep
          exact .scheduleJob n hcounted
  | schedule =>
      obtain rfl := Option.some.inj hstep
      exact .schedule
  | startWork =>
      simp only [step] at hstep
      split at hstep
      · next hworker =>
          split at hstep
          · next hqueued =>
              obtain rfl := Option.some.inj hstep
              exact .startWork hworker hqueued
          · cases hstep
      · cases hstep
  | takeCount =>
      simp only [step] at hstep
      split at hstep
      · next hworker =>
          obtain rfl := Option.some.inj hstep
          exact .takeCount hworker
      · cases hstep
  | turn ret =>
      simp only [step] at hstep
      split at hstep
      · next hworker =>
          split at hstep
          · next hi =>
              obtain rfl := Option.some.inj hstep
              exact .turn ret hworker hi
          · cases hstep
      · cases hstep
  | scheduleAgain =>
      simp only [step] at hstep
      split at hstep
      · next hworker =>
          obtain rfl := Option.some.inj hstep
          exact .scheduleAgain hworker
      · cases hstep
  | finishWork =>
      simp only [step] at hstep
      split at hstep
      · next hworker =>
          split at hstep
          · cases hstep
          · next hdone =>
              obtain rfl := Option.some.inj hstep
              exact .finishWork hworker hdone
      · cases hstep
  | getOther =>
      simp only [step] at hstep
      split at hstep
      · next kref hkref =>
          obtain rfl := Option.some.inj hstep
          obtain ⟨hpos, rfl⟩ := RefCount.getUnlessZero_eq_some.1 hkref
          exact .getOther hpos
      · next hkref =>
          obtain rfl := Option.some.inj hstep
          exact .otherGone (RefCount.getUnlessZero_eq_none.1 hkref)
  | putOther =>
      simp only [step] at hstep
      split at hstep
      · next hmem =>
          obtain rfl := Option.some.inj hstep
          exact .putOther hmem
      · cases hstep

/-! ## Jobs and references -/

/-- The jobs that the worker has taken and neither dropped nor put back. -/
def taken (d : DispatchJobs) : Nat :=
  match d.worker with
  | .loop i count _ => (count - i).toNat
  | _ => 0

/-- Fewer than 2^31 jobs are outstanding, the one that is being counted included. -/
def fewJobs (d : DispatchJobs) : DispatchAct → Bool
  | .countJob => d.count.toNat + d.taken + 1 < 2 ^ 31
  | _ => true

structure Agree (d : DispatchJobs) : Prop where
  balanced : d.kref.Balanced
  jobs : d.kref.holders.count .job = d.count.toNat + d.taken + d.entering
  bound : d.count.toNat + d.taken < 2 ^ 31

theorem Agree.initial : Agree {} := ⟨RefCount.balanced_init _, rfl, by decide⟩

/-- An atomic increment below the bound. -/
theorem toNat_add_one {x : BitVec 32} (h : x.toNat + 1 < 2 ^ 31) : (x + 1#32).toNat = x.toNat + 1 := by
  rw [BitVec.toNat_add]
  simp only [BitVec.toNat_ofNat]
  omega

/-- One turn drops one job or puts it back. -/
theorem taken_issueTurn (d : DispatchJobs) {i : Nat} {count : Int} (hi : (i : Int) < count)
    (hworker : d.worker = .loop i count false) (ret : Int) :
    d.taken = (d.issueTurn i count ret).taken + 1 := by
  have hnext : (d.issueTurn i count ret).taken = (count - ((i + 1 : Nat) : Int)).toNat := by
    unfold issueTurn
    split <;> rfl
  rw [hnext, taken, hworker]
  show (count - i).toNat = (count - ((i + 1 : Nat) : Int)).toNat + 1
  omega

/-- The worker takes all counted jobs. -/
theorem taken_takeCount {d : DispatchJobs} (hbound : d.count.toNat < 2 ^ 31) :
    ({ d with count := 0#32, worker := .loop 0 d.count.toInt false } : DispatchJobs).taken =
      d.count.toNat := by
  have hint : d.count.toInt = d.count.toNat := BitVec.toInt_eq_toNat_of_lt (by omega)
  show (d.count.toInt - ((0 : Nat) : Int)).toNat = d.count.toNat
  rw [hint]
  omega

/-- The first turn may put its job back; every other turn drops its job. -/
theorem Agree.turn {d : DispatchJobs} (h : Agree d) {i : Nat} {count : Int}
    (hworker : d.worker = .loop i count false) (hi : (i : Int) < count) (ret : Int) :
    Agree (d.issueTurn i count ret) := by
  have hjobs := h.jobs
  have hbound := h.bound
  have htaken := taken_issueTurn d hi hworker ret
  unfold issueTurn at htaken ⊢
  split
  · next hdrop =>
      rw [if_pos hdrop] at htaken
      have hmem : JobHolder.job ∈ d.kref.holders := by
        rw [← List.count_pos_iff]
        omega
      refine ⟨h.balanced.put hmem, ?_, ?_⟩
      · show (d.kref.holders.erase .job).count .job = d.count.toNat + _ + d.entering
        rw [List.count_erase_self]
        omega
      · show d.count.toNat + _ < 2 ^ 31
        omega
  · next hback =>
      rw [if_neg hback] at htaken
      have hadd : (d.count + 1#32).toNat = d.count.toNat + 1 := toNat_add_one (by omega)
      refine ⟨h.balanced, ?_, ?_⟩
      · show d.kref.holders.count .job = (d.count + 1#32).toNat + _ + d.entering
        omega
      · show (d.count + 1#32).toNat + _ < 2 ^ 31
        omega

theorem Agree.step {d d' : DispatchJobs} {a : DispatchAct} (h : Agree d)
    (hstep : Trace.guarded (fun d a => d.fewJobs a = true) step d a = some d') : Agree d' := by
  obtain ⟨hfew, hstep⟩ := Trace.guarded_eq_some.1 hstep
  have hjobs := h.jobs
  have hbound := h.bound
  cases step_cases hstep with
  | getContext =>
      refine ⟨h.balanced.get _, ?_, hbound⟩
      show (JobHolder.job :: d.kref.holders).count .job = d.count.toNat + d.taken + (d.entering + 1)
      rw [List.count_cons_self, hjobs]
      omega
  | countJob n hentering =>
      have hroom : d.count.toNat + d.taken + 1 < 2 ^ 31 := of_decide_eq_true hfew
      have hadd : (d.count + 1#32).toNat = d.count.toNat + 1 := toNat_add_one (by omega)
      refine ⟨h.balanced, ?_, ?_⟩
      · show d.kref.holders.count .job = (d.count + 1#32).toNat + d.taken + n
        rw [hjobs, hadd, hentering]
        omega
      · show (d.count + 1#32).toNat + d.taken < 2 ^ 31
        rw [hadd]
        omega
  | scheduleJob | schedule => exact ⟨h.balanced, hjobs, hbound⟩
  | startWork hworker =>
      have htaken : d.taken = 0 := by rw [taken, hworker]
      rw [htaken] at hjobs hbound
      exact ⟨h.balanced, hjobs, hbound⟩
  | takeCount hworker =>
      have htaken : d.taken = 0 := by rw [taken, hworker]
      rw [htaken] at hjobs hbound
      refine ⟨h.balanced, ?_, ?_⟩
      · rw [taken_takeCount hbound]
        show d.kref.holders.count .job = 0 + d.count.toNat + d.entering
        omega
      · rw [taken_takeCount hbound]
        show 0 + d.count.toNat < 2 ^ 31
        omega
  | turn ret hworker hi => exact h.turn hworker hi ret
  | @scheduleAgain i count hworker =>
      have htaken : d.taken = (count - i).toNat := by rw [taken, hworker]
      rw [htaken] at hjobs hbound
      exact ⟨h.balanced, hjobs, hbound⟩
  | finishWork hworker hdone =>
      -- the loop is over, so nothing is taken any more
      have htaken : d.taken = 0 := by
        rw [taken, hworker]
        dsimp only
        omega
      rw [htaken] at hjobs hbound
      exact ⟨h.balanced, hjobs, hbound⟩
  | getOther => exact ⟨h.balanced.get _, (RefCount.count_get_of_ne (by decide)).trans hjobs, hbound⟩
  | contextGone | otherGone => exact h
  | putOther hmem =>
      exact ⟨h.balanced.put hmem, (RefCount.count_put_of_ne (by decide)).trans hjobs, hbound⟩

/-! ## Runs -/

/-- The references held for jobs are those counted, those taken by the worker and those of the calls that
    are about to count them; the count is never negative. -/
theorem jobs_agree_of_fewJobs (as : List DispatchAct) (d : DispatchJobs)
    (h : Trace.exec (Trace.guarded (fun d a => d.fewJobs a = true) step) {} as = some d) :
    (d.kref.holders.count .job : Int) = d.count.toInt + d.taken + d.entering ∧ 0 ≤ d.count.toInt ∧
      d.kref.count = d.kref.holders.length ∧
      (d.count = 0#32 → d.worker = .idle → d.entering = 0 → .job ∉ d.kref.holders) := by
  have hagree : Agree d := Trace.exec_invariant (fun _ _ _ h hstep => h.step hstep) Agree.initial h
  have hjobs := hagree.jobs
  have hbound := hagree.bound
  have hint : d.count.toInt = d.count.toNat := BitVec.toInt_eq_toNat_of_lt (by omega)
  refine ⟨by omega, by omega, hagree.balanced, ?_⟩
  intro hcount hidle hentering
  have htaken : d.taken = 0 := by rw [taken, hidle]
  rw [← List.count_eq_zero, hjobs, hcount, htaken, hentering]
  rfl

/-- Three jobs: the worker sends commands for the first one and puts it back, and drops the two others;
    in the next round the first one is dropped as well. -/
theorem jobs_agree_of_fewJobs_sendRun :
    ∃ d, Trace.exec (Trace.guarded (fun d a => d.fewJobs a = true) step) {}
        [.getContext, .countJob, .scheduleJob, .getContext, .countJob, .startWork, .getContext,
          .countJob, .takeCount, .turn 4, .scheduleAgain, .turn 0, .getContext, .turn 0, .finishWork,
          .startWork, .takeCount] = some d ∧
      (d.taken, d.entering, d.kref.count) = (1, 1, 3) ∧
      (d.kref.holders.count .job : Int) = d.count.toInt + d.taken + d.entering := by
  have heval : (Trace.exec (Trace.guarded (fun d a => d.fewJobs a = true) step) {}
        [.getContext, .countJob, .scheduleJob, .getContext, .countJob, .startWork, .getContext,
          .countJob, .takeCount, .turn 4, .scheduleAgain, .turn 0, .getContext, .turn 0, .finishWork,
          .startWork, .takeCount]).map (fun d => (d.taken, d.entering, d.kref.count)) =
      some (1, 1, 3) := by
    decide +kernel
  obtain ⟨d, hd, heq⟩ := Option.map_eq_some_iff.1 heval
  exact ⟨d, hd, heq, (jobs_agree_of_fewJobs _ d hd).1⟩

/-- Jobs that nobody takes. -/
def queuedJobs (n : Nat) : DispatchJobs where
  count := BitVec.ofNat 32 n
  kref := ⟨n + 1, List.replicate n .job ++ [.other]⟩
  counted := n

theorem exec_queueContext (n : Nat) :
    Trace.exec step {} (List.replicate n [DispatchAct.getContext, .countJob]).flatten =
      some (queuedJobs n) := by
  induction n with
  | zero => rfl
  | succ n ih =>
      rw [List.replicate_succ', List.flatten_append, Trace.exec_append, ih]
      have hone : BitVec.ofNat 32 (n + 1) = BitVec.ofNat 32 n + 1#32 := BitVec.ofNat_add n 1
      simp [Trace.exec, step, queuedJobs, RefCount.getUnlessZero, RefCount.get, hone,
        List.replicate_succ]

/-- Before the first job is counted, its reference is held with nothing counted and no worker running;
    and when 2^31 jobs are counted, the count is negative. -/
theorem job_held_and_not_counted :
    (∃ d ∈ Trace.exec step {} [.getContext],
      d.count = 0#32 ∧ d.worker = .idle ∧ d.kref.holders.count .job = 1) ∧
    ∃ d ∈ Trace.exec step {} (List.replicate (2 ^ 31) [DispatchAct.getContext, .countJob]).flatten,
      d.count.toInt < 0 := by
  refine ⟨by decide +kernel, queuedJobs (2 ^ 31), ?_, ?_⟩
  · exact exec_queueContext (2 ^ 31)
  · show (BitVec.ofNat 32 (2 ^ 31)).toInt < 0
    decide

/-! ## No job is forgotten -/

/-- While jobs are counted, the worker is going to look at the count. -/
def Scheduled (d : DispatchJobs) : Prop :=
  d.count = 0#32 ∨ d.queued = true ∨ 0 < d.counted ∨ d.worker = .entered ∨
    ∃ i count, d.worker = .loop i count true

/-- A worker that neither has entered nor is to schedule itself does not count. -/
theorem Scheduled.of_worker {d : DispatchJobs} (h : Scheduled d) (hentered : d.worker ≠ .entered)
    (hrequeued : ∀ i count, d.worker ≠ .loop i count true) :
    d.count = 0#32 ∨ d.queued = true ∨ 0 < d.counted := by
  rcases h with hzero | hqueued | hcounted | hworker | ⟨i, count, hworker⟩
  · exact .inl hzero
  · exact .inr (.inl hqueued)
  · exact .inr (.inr hcounted)
  · exact absurd hworker hentered
  · exact absurd hworker (hrequeued i count)

/-- What else the step does to the worker does not matter then. -/
theorem Scheduled.of_others {d : DispatchJobs} (h : d.count = 0#32 ∨ d.queued = true ∨ 0 < d.counted) :
    Scheduled d := by
  rcases h with hzero | hqueued | hcounted
  · exact .inl hzero
  · exact .inr (.inl hqueued)
  · exact .inr (.inr (.inl hcounted))

theorem Scheduled.step {d d' : DispatchJobs} {a : DispatchAct} (h : Scheduled d)
    (hstep : d.step a = some d') : Scheduled d' := by
  cases step_cases hstep with
  | getContext | getOther | contextGone | otherGone | putOther => exact h
  | countJob => exact .inr (.inr (.inl (Nat.succ_pos _)))
  | scheduleJob | schedule | scheduleAgain => exact .inr (.inl rfl)
  | startWork => exact .inr (.inr (.inr (.inl rfl)))
  | takeCount => exact .inl rfl
  | @turn ret i count hworker =>
      have hothers := h.of_worker (by rw [hworker]; exact nofun) (by rw [hworker]; exact fun _ _ => nofun)
      unfold issueTurn
      split
      · exact .of_others hothers
      · exact .inr (.inr (.inr (.inr ⟨i + 1, count, rfl⟩)))
  | finishWork hworker =>
      have hothers := h.of_worker (by rw [hworker]; exact nofun) (by rw [hworker]; exact fun _ _ => nofun)
      exact .of_others hothers

/-- **No job is forgotten**: with jobs counted, no worker running and no call about to schedule one, the
    work is queued. -/
theorem queued_of_count_ne_zero (as : List DispatchAct) (d : DispatchJobs)
    (h : Trace.exec step {} as = some d) (hcount : d.count ≠ 0#32) (hcounted : d.counted = 0)
    (hworker : d.worker = .idle) : d.queued = true := by
  have hscheduled : Scheduled d :=
    Trace.exec_invariant (fun _ _ _ h hstep => h.step hstep) (.inl rfl) h
  rcases hscheduled with hzero | hqueued | hpos | hentered | ⟨i, count, hloop⟩
  · exact absurd hzero hcount
  · exact hqueued
  · exact absurd hcounted hpos.ne'
  · rw [hworker] at hentered
    cases hentered
  · rw [hworker] at hloop
    cases hloop

end DispatchJobs

end Hgsl
