import Hgsl.Context.Table

set_option autoImplicit false

/-! # The lifetime of a context

The first reference of a context goes from its creator to the table and on to the call that removes it;
at every moment it is in one place, recorded as the stage of the context. The invariant says what each
stage means for the counts and the histories of a context (`ObjOk`), and that each thread stands where
the stages say (`ThreadOk`). A step of a thread changes one context, in a way that the other threads do
not notice (`Unseen`); that is the frame of all the steps. -/

namespace Hgsl

namespace CtxtTable

/-! ## What a stage means -/

/-- The first reference has not been dropped. -/
def keepsFirst : CtxtStage → Bool
  | .creating _ | .inserted _ _ | .removed _ | .discarded => true
  | .unused | .dropped _ | .freed => false

/-- The context has been removed from the table. -/
def isRemoved : CtxtStage → Bool
  | .removed _ | .dropped _ | .freed => true
  | .unused | .creating _ | .inserted _ _ | .discarded => false

/-- The thread that has the context to itself. -/
def owner : CtxtStage → Option Nat
  | .creating t | .removed t | .dropped t => some t
  | .unused | .inserted _ _ | .freed | .discarded => none

/-- Where a put leaves a thread: it needs no reference there. -/
def isBare : CtxtThread → Bool
  | .idle | .removing _ _ _ _ | .detached _ _ | .waiting _ _ => true
  | _ => false

structure ObjOk (c : CtxtObj) : Prop where
  balanced : c.kref.Balanced
  first : c.kref.holders.count .first = if keepsFirst c.stage then 1 else 0
  removedBy : c.removedBy = [] ∧ isRemoved c.stage = false ∨
    ∃ call, c.removedBy = [(call, c.priv)] ∧ isRemoved c.stage = true
  freedBy : c.freedBy = [] ∧ c.stage ≠ .freed ∨
    c.destroyed = true ∧ c.stage = .freed ∧ ∃ call, c.freedBy = [call] ∧ c.removedBy = [(call, c.priv)]
  destroys : c.destroys = if c.destroyed then 1 else 0
  alive : c.kref.count ≠ 0 → c.destroyed = false ∧ c.dying = none
  dying : c.dying ≠ none → c.destroyed = false

/-- Thread `t` stands where the contexts say. -/
def ThreadOk (obj : Nat → CtxtObj) (t : Nat) : CtxtThread → Prop
  | .idle | .removing _ _ _ _ => True
  | .holding o | .checking _ o | .looking _ _ _ _ o => .thread t ∈ (obj o).kref.holders
  | .creating _ _ o => (obj o).stage = .creating t
  | .removed call o | .detached call o =>
    (obj o).stage = .removed t ∧ (obj o).removedBy = [(call, (obj o).priv)]
  | .detaching call o =>
    .thread t ∈ (obj o).kref.holders ∧ (obj o).stage = .removed t ∧
      (obj o).removedBy = [(call, (obj o).priv)]
  | .waiting call o => (obj o).stage = .dropped t ∧ (obj o).removedBy = [(call, (obj o).priv)]
  | .freeing call o =>
    (obj o).destroyed = true ∧ (obj o).stage = .dropped t ∧
      (obj o).removedBy = [(call, (obj o).priv)]
  | .destroying o next => (obj o).dying = some t ∧ isBare next = true ∧ ThreadOk obj t next

structure Lifetime (s : CtxtTable) : Prop where
  obj : ∀ o, ObjOk (s.obj o)
  thread : ∀ t, ThreadOk s.obj t (s.thread t)
  table : ∀ d i o, s.contexts d i = some o ↔ (s.obj o).stage = .inserted d i
  fresh : ∀ o, s.nextObj ≤ o → s.obj o = {}

theorem objOk_unused : ObjOk {} where
  balanced := rfl
  first := rfl
  removedBy := .inl ⟨rfl, rfl⟩
  freedBy := .inl ⟨rfl, nofun⟩
  destroys := rfl
  alive := fun h => absurd rfl h
  dying := fun h => absurd rfl h

theorem Lifetime.empty : Lifetime {} where
  obj _ := objOk_unused
  thread _ := trivial
  table _ _ _ := by
    constructor
    · exact nofun
    · exact nofun
  fresh _ _ := rfl

/-! ## The frame -/

/-- A change of a context by thread `t` that the other threads do not notice. -/
structure Unseen (t : Nat) (c c' : CtxtObj) : Prop where
  holders : ∀ t', t' ≠ t → .thread t' ∈ c.kref.holders → .thread t' ∈ c'.kref.holders
  owned : (∀ t', t' ≠ t → owner c.stage ≠ some t') ∨
    c'.stage = c.stage ∧ c'.removedBy = c.removedBy ∧ c'.priv = c.priv
  destroyed : c.destroyed = true → c'.destroyed = true
  dying : ∀ t', t' ≠ t → c.dying = some t' → c'.dying = some t'

theorem Unseen.stage_eq {t t' : Nat} {c c' : CtxtObj} (h : Unseen t c c') (hne : t' ≠ t)
    {st : CtxtStage} (hst : owner st = some t') (hstage : c.stage = st) :
    c'.stage = st ∧ c'.removedBy = c.removedBy ∧ c'.priv = c.priv := by
  rcases h.owned with hnot | ⟨hstage', hsame⟩
  · exact absurd (hstage ▸ hst) (hnot t' hne)
  · exact ⟨hstage'.trans hstage, hsame⟩

theorem Unseen.refl (t : Nat) (c : CtxtObj) : Unseen t c c where
  holders _ _ hmem := hmem
  owned := .inr ⟨rfl, rfl, rfl⟩
  destroyed h := h
  dying _ _ h := h

/-- The other contexts do not change at all. -/
theorem Unseen.update {obj : Nat → CtxtObj} {t o : Nat} {c : CtxtObj} (h : Unseen t (obj o) c) (o' : Nat) :
    Unseen t (obj o') (Function.update obj o c o') :=
  (Function.forall_update_iff obj fun o' c' => Unseen t (obj o') c').2 ⟨h, fun o' _ => .refl t (obj o')⟩ o'

theorem ThreadOk.unseen {obj : Nat → CtxtObj} {t t' o : Nat} {c : CtxtObj} {th : CtxtThread}
    (h : ThreadOk obj t' th) (hne : t' ≠ t) (hunseen : Unseen t (obj o) c) :
    ThreadOk (Function.update obj o c) t' th := by
  have hall := hunseen.update
  have howned : ∀ o' st call, owner st = some t' →
      (obj o').stage = st ∧ (obj o').removedBy = [(call, (obj o').priv)] →
      (Function.update obj o c o').stage = st ∧
        (Function.update obj o c o').removedBy = [(call, (Function.update obj o c o').priv)] := by
    rintro o' st call hst ⟨hstage, hremoved⟩
    obtain ⟨hstage', hremoved', hpriv⟩ := (hall o').stage_eq hne hst hstage
    rw [hpriv]
    exact ⟨hstage', hremoved'.trans hremoved⟩
  -- a thread that destroys a context has its next step inside
  induction th with
  | idle => trivial
  | removing client devHnd contextId call => trivial
  | holding o' => exact (hall o').holders t' hne h
  | checking client o' => exact (hall o').holders t' hne h
  | looking client devHnd contextId call o' => exact (hall o').holders t' hne h
  | creating devId contextId o' => exact ((hall o').stage_eq hne rfl h).1
  | removed call o' => exact howned o' _ call rfl h
  | detached call o' => exact howned o' _ call rfl h
  | detaching call o' => exact ⟨(hall o').holders t' hne h.1, howned o' _ call rfl h.2⟩
  | waiting call o' => exact howned o' _ call rfl h
  | freeing call o' => exact ⟨(hall o').destroyed h.1, howned o' _ call rfl h.2⟩
  | destroying o' next ih => exact ⟨(hall o').dying t' hne h.1, h.2.1, ih h.2.2⟩

/-- **Frame.** A thread moves on and changes one context. -/
theorem Lifetime.update {s s' : CtxtTable} (h : Lifetime s) {t o : Nat} {th : CtxtThread}
    {c : CtxtObj} (hthread : s'.thread = Function.update s.thread t th)
    (hobj : s'.obj = Function.update s.obj o c) (hok : ObjOk c) (hunseen : Unseen t (s.obj o) c)
    (hth : ThreadOk (Function.update s.obj o c) t th)
    (htable : ∀ d i o', s'.contexts d i = some o' ↔ (s'.obj o').stage = .inserted d i)
    (hfresh : ∀ o', s'.nextObj ≤ o' → s'.obj o' = {}) : Lifetime s' := by
  refine ⟨?_, ?_, htable, hfresh⟩
  · rw [hobj]
    refine (Function.forall_update_iff s.obj fun _ c => ObjOk c).2 ⟨hok, ?_⟩
    exact fun o' _ => h.obj o'
  · rw [hthread, hobj]
    refine (Function.forall_update_iff s.thread (ThreadOk (Function.update s.obj o c))).2 ⟨hth, ?_⟩
    exact fun t' ht => (h.thread t').unseen ht hunseen

/-- A context with a reference, or past its first stage, has been created. -/
theorem Lifetime.lt_nextObj {s : CtxtTable} (h : Lifetime s) {o : Nat}
    (hused : s.obj o ≠ {}) : o < s.nextObj := by
  by_contra hle
  exact hused (h.fresh o (Nat.le_of_not_lt hle))

/-- The context is an existing one, and the table stays in step with its stage. -/
theorem Lifetime.change {s s' : CtxtTable} (h : Lifetime s) {t o : Nat} {th : CtxtThread}
    {c : CtxtObj} (hused : s.obj o ≠ {}) (hthread : s'.thread = Function.update s.thread t th)
    (hobj : s'.obj = Function.update s.obj o c) (hok : ObjOk c) (hunseen : Unseen t (s.obj o) c)
    (hth : ThreadOk (Function.update s.obj o c) t th) (hnext : s'.nextObj = s.nextObj)
    (htable : ∀ d i, s'.contexts d i = some o ↔ c.stage = .inserted d i)
    (hothers : ∀ d i o', o' ≠ o → (s'.contexts d i = some o' ↔ s.contexts d i = some o')) :
    Lifetime s' := by
  refine h.update hthread hobj hok hunseen hth ?_ ?_
  · intro d i o'
    rw [hobj]
    by_cases ho : o' = o
    · rw [ho, Function.update_self]
      exact htable d i
    · rw [Function.update_of_ne ho, hothers d i o' ho]
      exact h.table d i o'
  · intro o' ho'
    rw [hnext] at ho'
    have hne : o' ≠ o := by
      rintro rfl
      exact Nat.not_lt.2 ho' (h.lt_nextObj hused)
    rw [hobj, Function.update_of_ne hne]
    exact h.fresh o' ho'

/-- The stage of the context stays what it was. -/
theorem Lifetime.keepStage {s s' : CtxtTable} (h : Lifetime s) {t o : Nat} {th : CtxtThread}
    {c : CtxtObj} (hused : s.obj o ≠ {}) (hthread : s'.thread = Function.update s.thread t th)
    (hobj : s'.obj = Function.update s.obj o c) (hok : ObjOk c) (hunseen : Unseen t (s.obj o) c)
    (hth : ThreadOk (Function.update s.obj o c) t th) (hcontexts : s'.contexts = s.contexts)
    (hnext : s'.nextObj = s.nextObj) (hstage : c.stage = (s.obj o).stage) : Lifetime s' := by
  refine h.change hused hthread hobj hok hunseen hth hnext ?_ ?_
  · intro d i
    rw [hcontexts, hstage]
    exact h.table d i o
  · intro d i o' _
    rw [hcontexts]

/-- A thread moves on and changes nothing. -/
theorem Lifetime.setThread {s : CtxtTable} (h : Lifetime s) {t : Nat} {th : CtxtThread}
    (hth : ThreadOk s.obj t th) : Lifetime (s.setThread t th) := by
  refine ⟨h.obj, ?_, h.table, h.fresh⟩
  refine (Function.forall_update_iff s.thread (ThreadOk s.obj)).2 ⟨hth, ?_⟩
  exact fun t' _ => h.thread t'

/-! ## References -/

theorem ObjOk.first_mem {c : CtxtObj} (h : ObjOk c) (hkeeps : keepsFirst c.stage = true) :
    .first ∈ c.kref.holders := by
  rw [← List.count_pos_iff, h.first, if_pos hkeeps]
  exact Nat.one_pos

theorem obj_ne_of_mem {c : CtxtObj} {holder : CtxtHolder} (hmem : holder ∈ c.kref.holders) :
    c ≠ {} := by
  rintro rfl
  cases hmem

theorem obj_ne_of_stage {c : CtxtObj} {st : CtxtStage} (hstage : c.stage = st) (hst : st ≠ .unused) :
    c ≠ {} := by
  rintro rfl
  exact hst hstage.symm

/-- A context of the table has its first reference. -/
theorem Lifetime.count_ne_zero {s : CtxtTable} (h : Lifetime s) {d i o : Nat}
    (htable : s.contexts d i = some o) : (s.obj o).kref.count ≠ 0 := by
  have hstage := (h.table d i o).1 htable
  exact (h.obj o).balanced.count_ne_zero ((h.obj o).first_mem (by rw [hstage]; rfl))

theorem lookup_eq_some {s : CtxtTable} {devHnd contextId : BitVec 32} {o : Nat}
    (h : s.lookup devHnd contextId = some o) : ∃ d i, s.contexts d i = some o := by
  unfold lookup at h
  split at h
  · cases h
  · split at h
    · exact ⟨_, _, h⟩
    · cases h

theorem ObjOk.get {c : CtxtObj} (h : ObjOk c) (hpos : c.kref.count ≠ 0) (t : Nat) :
    ObjOk { c with kref := c.kref.get (.thread t) } :=
  { h with
    balanced := h.balanced.get _
    first := (RefCount.count_get_of_ne (by simp)).trans h.first
    alive := fun _ => h.alive hpos }

theorem unseen_get (c : CtxtObj) (t : Nat) :
    Unseen t c { c with kref := c.kref.get (.thread t) } where
  holders _ _ hmem := List.mem_cons_of_mem _ hmem
  owned := .inr ⟨rfl, rfl, rfl⟩
  destroyed h := h
  dying _ _ h := h

/-- A found context gets a reference for the thread that looked it up. -/
theorem Lifetime.found {s : CtxtTable} (h : Lifetime s) {t o : Nat} {devHnd contextId : BitVec 32}
    {th : CtxtThread} (hlookup : s.lookup devHnd contextId = some o)
    (hth : ∀ obj : Nat → CtxtObj, .thread t ∈ (obj o).kref.holders → ThreadOk obj t th) :
    Lifetime ((s.getContext t o).setThread t th) := by
  obtain ⟨d, i, htable⟩ := lookup_eq_some hlookup
  have hused := obj_ne_of_stage ((h.table d i o).1 htable) nofun
  refine h.keepStage hused rfl rfl ((h.obj o).get (h.count_ne_zero htable) t) (unseen_get _ t) ?_ rfl rfl rfl
  refine hth _ ?_
  rw [Function.update_self]
  exact List.mem_cons_self

/-- Dropping a reference; the thread that drops the last one goes on in `_destroy_context`. -/
theorem ObjOk.put {c : CtxtObj} (h : ObjOk c) {holder : CtxtHolder} (hmem : holder ∈ c.kref.holders)
    {st : CtxtStage} {dying : Option Nat}
    (hfirst : (c.kref.holders.erase holder).count .first = if keepsFirst st then 1 else 0)
    (hremoved : isRemoved st = isRemoved c.stage) (hfreed : c.stage ≠ .freed) (hfreed' : st ≠ .freed)
    (hdying : c.kref.count = 1 ∧ dying ≠ none ∨ c.kref.count ≠ 1 ∧ dying = c.dying) :
    ObjOk { c with stage := st, kref := c.kref.put holder, dying := dying } := by
  have hpos := h.balanced.count_ne_zero hmem
  obtain ⟨hnot, hnone⟩ := h.alive hpos
  refine ⟨h.balanced.put hmem, hfirst, ?_, ?_, h.destroys, ?_, fun _ => hnot⟩
  · show c.removedBy = [] ∧ isRemoved st = false ∨ _
    rw [hremoved]
    exact h.removedBy
  · rcases h.freedBy with ⟨hnil, -⟩ | ⟨-, hstage, -⟩
    · exact .inl ⟨hnil, hfreed'⟩
    · exact absurd hstage hfreed
  · intro hcount
    have hcount' : c.kref.count - 1 ≠ 0 := hcount
    rcases hdying with ⟨hone, -⟩ | ⟨-, hsame⟩
    · exact absurd (by rw [hone]) hcount'
    · exact ⟨hnot, hsame.trans hnone⟩

/-- A thread drops its own reference, which is not the first one of the context. -/
theorem ObjOk.putThread {c : CtxtObj} (h : ObjOk c) {t : Nat} (hmem : .thread t ∈ c.kref.holders)
    {dying : Option Nat}
    (hdying : c.kref.count = 1 ∧ dying ≠ none ∨ c.kref.count ≠ 1 ∧ dying = c.dying) :
    ObjOk { c with kref := c.kref.put (.thread t), dying := dying } := by
  refine h.put hmem ?_ rfl ?_ ?_ hdying
  · exact (RefCount.count_put_of_ne (by simp)).trans h.first
  all_goals
    intro hfreed
    have hdestroyed : c.destroyed = true := by
      rcases h.freedBy with ⟨-, hnot⟩ | ⟨hdestroyed, -⟩
      · exact absurd hfreed hnot
      · exact hdestroyed
    rw [(h.alive (h.balanced.count_ne_zero hmem)).1] at hdestroyed
    cases hdestroyed

theorem unseen_put {t : Nat} (c : CtxtObj) {holder : CtxtHolder} {dying : Option Nat}
    (hholder : holder = .thread t ∨ holder = .first) (hdying : dying = c.dying ∨ c.dying = none) :
    Unseen t c { c with kref := c.kref.put holder, dying := dying } where
  holders t' hne hmem := by
    refine (RefCount.mem_put_of_ne ?_).2 hmem
    rintro rfl
    rcases hholder with heq | heq
    · exact hne (CtxtHolder.thread.inj heq)
    · cases heq
  owned := .inr ⟨rfl, rfl, rfl⟩
  destroyed h := h
  dying t' _ h := by
    rcases hdying with heq | hnone
    · exact heq.trans h
    · rw [hnone] at h
      cases h

/-- A bare thread looks at no count and no flag. -/
theorem ThreadOk.update {obj : Nat → CtxtObj} {t o : Nat} {c : CtxtObj} {th : CtxtThread}
    (h : ThreadOk obj t th) (hbare : isBare th = true) (hstage : c.stage = (obj o).stage)
    (hremoved : c.removedBy = (obj o).removedBy) (hpriv : c.priv = (obj o).priv) :
    ThreadOk (Function.update obj o c) t th := by
  have hsame : ∀ o' st call, (obj o').stage = st ∧ (obj o').removedBy = [(call, (obj o').priv)] →
      (Function.update obj o c o').stage = st ∧
        (Function.update obj o c o').removedBy = [(call, (Function.update obj o c o').priv)] := by
    intro o' st call hrem
    by_cases ho : o' = o
    · subst ho
      rw [Function.update_self, hstage, hremoved, hpriv]
      exact hrem
    · rw [Function.update_of_ne ho]
      exact hrem
  cases th with
  | idle => trivial
  | removing client devHnd contextId call => trivial
  | detached call o' => exact hsame o' _ call h
  | waiting call o' => exact hsame o' _ call h
  | holding _ | checking _ _ | creating _ _ _ | looking _ _ _ _ _ | removed _ _ | detaching _ _
  | freeing _ _ | destroying _ _ => cases hbare

/-- `hgsl_put_context` of a reference that the thread has taken. -/
theorem Lifetime.putContext {s : CtxtTable} (h : Lifetime s) {t o : Nat} {next : CtxtThread}
    (hmem : .thread t ∈ (s.obj o).kref.holders) (hbare : isBare next = true)
    (hnext : ThreadOk s.obj t next) : Lifetime (s.putContext t o (.thread t) next) := by
  -- whoever drops the last reference is the first to destroy the context
  have hnone := ((h.obj o).alive ((h.obj o).balanced.count_ne_zero hmem)).2
  have hused := obj_ne_of_mem hmem
  unfold CtxtTable.putContext
  dsimp only
  split
  · next hone =>
      refine h.keepStage hused rfl rfl ((h.obj o).putThread hmem (.inl ⟨hone, Option.some_ne_none t⟩))
        (unseen_put _ (.inl rfl) (.inr hnone)) ⟨?_, hbare, hnext.update hbare rfl rfl rfl⟩ rfl rfl rfl
      rw [Function.update_self]
  · next hmore =>
      exact h.keepStage hused rfl rfl ((h.obj o).putThread hmem (.inr ⟨hmore, rfl⟩))
        (unseen_put _ (.inl rfl) (.inl rfl)) (hnext.update hbare rfl rfl rfl) rfl rfl rfl

/-! ## Steps -/

theorem Lifetime.create {s : CtxtTable} (h : Lifetime s) {t : Nat} (client : Nat)
    (devHnd contextId : BitVec 32) : Lifetime (s.createContext t client devHnd contextId) := by
  unfold createContext
  split
  · exact h
  · split
    · exact h
    · have hunused := h.fresh s.nextObj le_rfl
      have hnew : ∀ d i o', (Function.update s.obj s.nextObj
          { priv := client, kref := .init .first, stage := .creating t } o').stage = .inserted d i ↔
            (s.obj o').stage = .inserted d i := by
        intro d i o'
        by_cases ho : o' = s.nextObj
        · subst ho
          rw [Function.update_self, hunused]
          constructor <;> exact nofun
        · rw [Function.update_of_ne ho]
      refine h.update (o := s.nextObj)
        (c := { priv := client, kref := .init .first, stage := .creating t }) rfl rfl ?_ ?_ ?_ ?_ ?_
      · exact ⟨rfl, rfl, .inl ⟨rfl, rfl⟩, .inl ⟨rfl, nofun⟩, rfl, fun _ => ⟨rfl, rfl⟩,
          fun hdying => absurd rfl hdying⟩
      · rw [hunused]
        exact ⟨nofun, .inl nofun, nofun, nofun⟩
      · show (Function.update s.obj s.nextObj _ s.nextObj).stage = .creating t
        rw [Function.update_self]
      · exact fun d i o' => (h.table d i o').trans (hnew d i o').symm
      · intro o' ho'
        have hlt : s.nextObj < o' := ho'
        show Function.update s.obj s.nextObj _ o' = {}
        rw [Function.update_of_ne hlt.ne']
        exact h.fresh o' hlt.le

/-- The first reference moves on, to or from a place outside the table. -/
theorem ObjOk.restage {c : CtxtObj} (h : ObjOk c) {st : CtxtStage}
    (hkeeps : keepsFirst st = keepsFirst c.stage) (hremoved : isRemoved st = isRemoved c.stage)
    (hfreed : c.stage ≠ .freed) (hfreed' : st ≠ .freed) : ObjOk { c with stage := st } := by
  refine { h with first := ?_, removedBy := ?_, freedBy := ?_ }
  · show _ = if keepsFirst st then 1 else 0
    rw [hkeeps]
    exact h.first
  · show c.removedBy = [] ∧ isRemoved st = false ∨ _
    rw [hremoved]
    exact h.removedBy
  · rcases h.freedBy with ⟨hnil, -⟩ | ⟨-, hstage, -⟩
    · exact .inl ⟨hnil, hfreed'⟩
    · exact absurd hstage hfreed

/-- Only thread `t` has a say about a context of these stages. -/
theorem not_owned {t : Nat} {c : CtxtObj} {st : CtxtStage} (hstage : c.stage = st)
    (hst : owner st = none ∨ owner st = some t) : ∀ t', t' ≠ t → owner c.stage ≠ some t' := by
  intro t' hne howner
  rw [hstage] at howner
  rcases hst with hnone | hsome
  · rw [hnone] at howner
    cases howner
  · rw [hsome] at howner
    exact hne (Option.some.inj howner).symm

/-- A context that is not in the table moves to another stage outside of it. -/
theorem Lifetime.moveStage {s s' : CtxtTable} (h : Lifetime s) {t o : Nat} {th : CtxtThread}
    {c : CtxtObj} (hused : s.obj o ≠ {}) (hthread : s'.thread = Function.update s.thread t th)
    (hobj : s'.obj = Function.update s.obj o c) (hok : ObjOk c) (hunseen : Unseen t (s.obj o) c)
    (hth : ThreadOk (Function.update s.obj o c) t th) (hcontexts : s'.contexts = s.contexts)
    (hnext : s'.nextObj = s.nextObj) (hout : ∀ d i, (s.obj o).stage ≠ .inserted d i)
    (hout' : ∀ d i, c.stage ≠ .inserted d i) : Lifetime s' := by
  refine h.change hused hthread hobj hok hunseen hth hnext ?_ ?_
  · intro d i
    rw [hcontexts, h.table d i o]
    exact iff_of_false (hout d i) (hout' d i)
  · intro d i o' _
    rw [hcontexts]

theorem Lifetime.insert {s : CtxtTable} (h : Lifetime s) {t devId contextId o : Nat}
    (hstage : (s.obj o).stage = .creating t) : Lifetime (s.insertContext t devId contextId o) := by
  have hused := obj_ne_of_stage hstage nofun
  have hunseen : ∀ st, Unseen t (s.obj o) { s.obj o with stage := st } := fun st =>
    ⟨fun _ _ hmem => hmem, .inl (not_owned hstage (.inr rfl)), fun hd => hd, fun _ _ hd => hd⟩
  have hfreed : (s.obj o).stage ≠ .freed := by
    rw [hstage]
    exact nofun
  unfold insertContext
  split
  · refine h.moveStage hused rfl rfl ((h.obj o).restage ?_ ?_ hfreed nofun) (hunseen _) trivial rfl rfl ?_
      nofun
    all_goals rw [hstage]
    · rfl
    · rfl
    · exact nofun
  · next hnone =>
      refine h.change hused rfl rfl ((h.obj o).restage ?_ ?_ hfreed nofun) (hunseen _) trivial rfl ?_ ?_
      · rw [hstage]
        rfl
      · rw [hstage]
        rfl
      · intro d i
        show (s.setContext devId contextId (some o)).contexts d i = some o ↔ _
        rw [contexts_setContext]
        by_cases hhere : d = devId ∧ i = contextId
        · rw [if_pos hhere, hhere.1, hhere.2]
          exact iff_of_true rfl rfl
        · rw [if_neg hhere, h.table d i o, hstage]
          refine iff_of_false nofun ?_
          intro heq
          injection heq with hd hi
          exact hhere ⟨hd.symm, hi.symm⟩
      · intro d i o' hne
        show (s.setContext devId contextId (some o)).contexts d i = some o' ↔ _
        rw [contexts_setContext]
        by_cases hhere : d = devId ∧ i = contextId
        · rw [if_pos hhere, hhere.1, hhere.2, hnone]
          exact iff_of_false (fun heq => hne (Option.some.inj heq).symm) nofun
        · rw [if_neg hhere]

/-- The context that a client removes is its own, and nobody has removed it before. -/
theorem ObjOk.remove {c : CtxtObj} (h : ObjOk c) (t call : Nat) {d i : Nat} (hstage : c.stage = .inserted d i) :
    ObjOk { c with stage := .removed t, removedBy := c.removedBy ++ [(call, c.priv)] } := by
  have hnil : c.removedBy = [] := by
    rcases h.removedBy with ⟨hnil, -⟩ | ⟨-, -, hremoved⟩
    · exact hnil
    · rw [hstage] at hremoved
      cases hremoved
  refine { h with first := ?_, removedBy := ?_, freedBy := ?_ }
  · rw [h.first, hstage]
    rfl
  · rw [hnil]
    exact .inr ⟨call, rfl, rfl⟩
  · rcases h.freedBy with ⟨hfreed, -⟩ | ⟨-, hfreed, -⟩
    · exact .inl ⟨hfreed, nofun⟩
    · rw [hstage] at hfreed
      cases hfreed

theorem Lifetime.remove {s : CtxtTable} (h : Lifetime s) {t call client : Nat}
    {devHnd contextId : BitVec 32} :
    Lifetime (s.removeContext t client devHnd contextId call) := by
  unfold removeContext
  split
  · exact h.setThread trivial
  · split
    · exact h.setThread trivial
    · next o htable =>
        dsimp only
        split
        · next hclient =>
            have hstage := (h.table _ _ o).1 htable
            have hok := (h.obj o).remove t call hstage
            subst hclient
            refine h.change (obj_ne_of_stage hstage nofun) rfl rfl hok ?_ ?_ rfl ?_ ?_
            · exact ⟨fun _ _ hmem => hmem, .inl (not_owned hstage (.inl rfl)), fun hd => hd,
                fun _ _ hd => hd⟩
            · show _ ∧ _
              rw [Function.update_self]
              refine ⟨rfl, ?_⟩
              rcases (h.obj o).removedBy with ⟨hnil, -⟩ | ⟨-, -, hremoved⟩
              · rw [hnil]
                rfl
              · rw [hstage] at hremoved
                cases hremoved
            · intro d i
              show (s.setContext _ _ none).contexts d i = some o ↔ _
              rw [contexts_setContext]
              refine iff_of_false ?_ nofun
              split
              · exact nofun
              · next hnot =>
                  rw [h.table d i o, hstage]
                  intro heq
                  injection heq with hd hi
                  exact hnot ⟨hd.symm, hi.symm⟩
            · intro d i o' hne
              show (s.setContext _ _ none).contexts d i = some o' ↔ _
              rw [contexts_setContext]
              split
              · next hhere =>
                  rw [hhere.1, hhere.2, htable]
                  exact iff_of_false nofun fun heq => hne (Option.some.inj heq).symm
              · exact Iff.rfl
        · exact h.setThread trivial

/-- `hgsl_ctxt_detach_drawobjs` takes a reference, if it can. -/
theorem Lifetime.detach {s : CtxtTable} (h : Lifetime s) {t call o : Nat}
    {kref : RefCount CtxtHolder} (hkref : (s.obj o).kref.getUnlessZero (.thread t) = some kref)
    (hth : ThreadOk s.obj t (.removed call o)) :
    Lifetime ((s.setObj o { s.obj o with kref := kref }).setThread t (.detaching call o)) := by
  obtain ⟨hpos, rfl⟩ := RefCount.getUnlessZero_eq_some.1 hkref
  refine h.keepStage (obj_ne_of_stage hth.1 nofun) rfl rfl ((h.obj o).get hpos t) (unseen_get _ t) ?_ rfl
    rfl rfl
  show _ ∧ _ ∧ _
  rw [Function.update_self]
  exact ⟨List.mem_cons_self, hth⟩

/-- `hgsl_ctxt_destroy` drops the first reference. -/
theorem Lifetime.putRemoved {s : CtxtTable} (h : Lifetime s) {t call o : Nat}
    (hth : ThreadOk s.obj t (.detached call o)) :
    Lifetime ((s.setObj o { s.obj o with stage := .dropped t }).putContext t o .first
      (.waiting call o)) := by
  obtain ⟨hstage, hremoved⟩ := hth
  have hmem : .first ∈ (s.obj o).kref.holders := (h.obj o).first_mem (by rw [hstage]; rfl)
  have hnone := ((h.obj o).alive ((h.obj o).balanced.count_ne_zero hmem)).2
  have hok : ∀ dying, (s.obj o).kref.count = 1 ∧ dying ≠ none ∨
      (s.obj o).kref.count ≠ 1 ∧ dying = (s.obj o).dying →
        ObjOk { s.obj o with
          stage := .dropped t, kref := (s.obj o).kref.put .first, dying := dying } := by
    intro dying hdying
    refine (h.obj o).put hmem ?_ ?_ ?_ nofun hdying
    · rw [List.count_erase_self, (h.obj o).first, hstage]
      rfl
    · rw [hstage]
      rfl
    · rw [hstage]
      exact nofun
  have hunseen : ∀ dying, dying = (s.obj o).dying ∨ (s.obj o).dying = none →
      Unseen t (s.obj o) { s.obj o with
        stage := .dropped t, kref := (s.obj o).kref.put .first, dying := dying } := fun dying hdying =>
    { unseen_put (s.obj o) (.inr rfl) hdying with owned := .inl (not_owned hstage (.inr rfl)) }
  have hwaiting : ∀ dying, ThreadOk (Function.update s.obj o { s.obj o with
      stage := .dropped t, kref := (s.obj o).kref.put .first, dying := dying }) t (.waiting call o) := by
    intro dying
    show _ ∧ _
    rw [Function.update_self]
    exact ⟨rfl, hremoved⟩
  have hout : ∀ d i, (s.obj o).stage ≠ .inserted d i := by
    rw [hstage]
    exact nofun
  unfold CtxtTable.putContext CtxtTable.setObj
  dsimp only
  rw [Function.update_self, Function.update_idem, Function.update_idem]
  split
  · next hone =>
      have hdying := hok (some t) (.inl ⟨hone, Option.some_ne_none t⟩)
      refine h.moveStage (obj_ne_of_mem hmem) rfl rfl hdying (hunseen _ (.inr hnone)) ⟨?_, rfl, hwaiting _⟩
        rfl rfl hout nofun
      rw [Function.update_self]
  · next hmore =>
      exact h.moveStage (obj_ne_of_mem hmem) rfl rfl (hok _ (.inr ⟨hmore, rfl⟩)) (hunseen _ (.inl rfl))
        (hwaiting _) rfl rfl hout nofun

/-- The call that removed the context frees it. -/
theorem Lifetime.free {s : CtxtTable} (h : Lifetime s) {t call o : Nat}
    (hth : ThreadOk s.obj t (.freeing call o)) :
    Lifetime ((s.setObj o
      { s.obj o with stage := .freed, freedBy := (s.obj o).freedBy ++ [call] }).setThread t .idle) := by
  obtain ⟨hdestroyed, hstage, hremoved⟩ := hth
  have hok : ObjOk { s.obj o with stage := .freed, freedBy := (s.obj o).freedBy ++ [call] } := by
    refine { h.obj o with first := ?_, removedBy := ?_, freedBy := ?_ }
    · rw [(h.obj o).first, hstage]
      rfl
    · exact .inr ⟨call, hremoved, rfl⟩
    · rcases (h.obj o).freedBy with ⟨hnil, -⟩ | ⟨-, hfreed, -⟩
      · exact .inr ⟨hdestroyed, rfl, call, by rw [hnil]; rfl, hremoved⟩
      · rw [hstage] at hfreed
        cases hfreed
  refine h.moveStage (obj_ne_of_stage hstage nofun) rfl rfl hok ?_ trivial rfl rfl ?_ nofun
  · exact ⟨fun _ _ hmem => hmem, .inl (not_owned hstage (.inr rfl)), fun hd => hd, fun _ _ hd => hd⟩
  · rw [hstage]
    exact nofun

/-- `_destroy_context` sets `destroyed`, for the first time. -/
theorem Lifetime.setDestroyed {s : CtxtTable} (h : Lifetime s) {t o : Nat} {next : CtxtThread}
    (hth : ThreadOk s.obj t (.destroying o next)) :
    Lifetime ((s.setObj o { s.obj o with
      destroyed := true, dying := none, destroys := (s.obj o).destroys + 1 }).setThread t next) := by
  obtain ⟨hdying, hbare, hnext⟩ := hth
  have hsome : (s.obj o).dying ≠ none := by
    rw [hdying]
    exact Option.some_ne_none t
  have hnot := (h.obj o).dying hsome
  refine h.keepStage ?_ rfl rfl ?_ ?_ (hnext.update hbare rfl rfl rfl) rfl rfl rfl
  · intro hunused
    rw [hunused] at hsome
    exact hsome rfl
  · refine { h.obj o with freedBy := ?_, destroys := ?_, alive := ?_, dying := fun hd => absurd rfl hd }
    · rcases (h.obj o).freedBy with hnil | ⟨hdestroyed, -⟩
      · exact .inl hnil
      · rw [hnot] at hdestroyed
        cases hdestroyed
    · show (s.obj o).destroys + 1 = 1
      rw [(h.obj o).destroys, hnot]
      rfl
    · exact fun hpos => absurd ((h.obj o).alive hpos).2 hsome
  · refine ⟨fun _ _ hmem => hmem, .inr ⟨rfl, rfl, rfl⟩, fun _ => rfl, ?_⟩
    intro t' hne hd
    rw [hdying] at hd
    exact absurd (Option.some.inj hd).symm hne

/-- **Step lemma.** -/
theorem Lifetime.step {s s' : CtxtTable} {a : CtxtAct} (h : Lifetime s)
    (hstep : s.step a = some s') : Lifetime s' := by
  cases a with
  | get t devHnd contextId =>
      simp only [CtxtTable.step] at hstep
      split at hstep
      · split at hstep
        · cases hstep
          exact h
        · next hlookup =>
            cases hstep
            exact h.found hlookup fun _ hmem => hmem
      · cases hstep
  | getOwner t client devHnd contextId =>
      simp only [CtxtTable.step] at hstep
      split at hstep
      · split at hstep
        · cases hstep
          exact h
        · next hlookup =>
            cases hstep
            exact h.found hlookup fun _ hmem => hmem
      · cases hstep
  | checkOwner t =>
      have hth := h.thread t
      simp only [CtxtTable.step] at hstep
      split at hstep
      · next heq =>
          rw [heq] at hth
          split at hstep
          · cases hstep
            exact h.setThread hth
          · cases hstep
            exact h.putContext hth rfl trivial
      · cases hstep
  | put t =>
      have hth := h.thread t
      simp only [CtxtTable.step] at hstep
      split at hstep
      · next heq =>
          rw [heq] at hth
          cases hstep
          exact h.putContext hth rfl trivial
      · cases hstep
  | create t client devHnd contextId =>
      simp only [CtxtTable.step] at hstep
      split at hstep
      · cases hstep
        exact h.create client devHnd contextId
      · cases hstep
  | insert t =>
      have hth := h.thread t
      simp only [CtxtTable.step] at hstep
      split at hstep
      · next heq =>
          rw [heq] at hth
          cases hstep
          exact h.insert hth
      · cases hstep
  | destroy t client devHnd contextId =>
      simp only [CtxtTable.step] at hstep
      split at hstep
      · split at hstep
        · cases hstep
          exact h
        · next o hlookup =>
            cases hstep
            have hfound : Lifetime ((s.getContext t o).setThread t
                (.looking client devHnd contextId s.nextCall o)) :=
              h.found hlookup fun _ hmem => hmem
            exact ⟨hfound.obj, hfound.thread, hfound.table, hfound.fresh⟩
      · cases hstep
  | putLooked t retry =>
      have hth := h.thread t
      simp only [CtxtTable.step] at hstep
      split at hstep
      · next heq =>
          rw [heq] at hth
          cases hstep
          cases retry with
          | true => exact h.putContext hth rfl trivial
          | false => exact h.putContext hth rfl trivial
      · cases hstep
  | remove t =>
      simp only [CtxtTable.step] at hstep
      split at hstep
      · cases hstep
        exact h.remove
      · cases hstep
  | detach t =>
      have hth := h.thread t
      simp only [CtxtTable.step] at hstep
      split at hstep
      · next heq =>
          rw [heq] at hth
          split at hstep
          · next hkref =>
              cases hstep
              exact h.detach hkref hth
          · cases hstep
            exact h.setThread hth
      · cases hstep
  | putDetached t =>
      have hth := h.thread t
      simp only [CtxtTable.step] at hstep
      split at hstep
      · next heq =>
          rw [heq] at hth
          cases hstep
          exact h.putContext hth.1 rfl hth.2
      · cases hstep
  | putRemoved t =>
      have hth := h.thread t
      simp only [CtxtTable.step] at hstep
      split at hstep
      · next heq =>
          rw [heq] at hth
          cases hstep
          exact h.putRemoved hth
      · cases hstep
  | seeDestroyed t =>
      have hth := h.thread t
      simp only [CtxtTable.step] at hstep
      split at hstep
      · next heq =>
          rw [heq] at hth
          split at hstep
          · next hdestroyed =>
              cases hstep
              exact h.setThread ⟨hdestroyed, hth⟩
          · cases hstep
      · cases hstep
  | free t =>
      have hth := h.thread t
      simp only [CtxtTable.step] at hstep
      split at hstep
      · next heq =>
          rw [heq] at hth
          cases hstep
          exact h.free hth
      · cases hstep
  | setDestroyed t =>
      have hth := h.thread t
      simp only [CtxtTable.step] at hstep
      split at hstep
      · next heq =>
          rw [heq] at hth
          cases hstep
          exact h.setDestroyed hth
      · cases hstep

/-- **Run lemma.** -/
theorem lifetime_of_run {as : List CtxtAct} {s : CtxtTable}
    (hrun : Trace.exec CtxtTable.step {} as = some s) : Lifetime s :=
  Trace.exec_invariant (fun _ _ _ h hstep => h.step hstep) Lifetime.empty hrun

/-! ## Destroyed once -/

structure DestroyedOnce (s : CtxtTable) : Prop where
  kref : ∀ d i o, s.contexts d i = some o → 0 < (s.obj o).kref.count
  removed : ∀ o, (s.obj o).removedBy.length ≤ 1
  remover : ∀ o call client, (call, client) ∈ (s.obj o).removedBy → client = (s.obj o).priv
  destroys : ∀ o, (s.obj o).destroys ≤ 1
  freed : ∀ o, (s.obj o).freedBy.length ≤ 1
  /-- the call that frees a context is the one that removed it, and it does so after the count is 0 -/
  freedBy : ∀ o call, call ∈ (s.obj o).freedBy →
    (s.obj o).kref.count = 0 ∧ ∃ client, (call, client) ∈ (s.obj o).removedBy

theorem ObjOk.removedBy_length_le {c : CtxtObj} (h : ObjOk c) : c.removedBy.length ≤ 1 := by
  rcases h.removedBy with ⟨hnil, -⟩ | ⟨call, hone, -⟩
  · rw [hnil]
    exact Nat.zero_le 1
  · rw [hone]
    exact le_rfl

theorem ObjOk.eq_priv {c : CtxtObj} (h : ObjOk c) {call client : Nat}
    (hmem : (call, client) ∈ c.removedBy) : client = c.priv := by
  rcases h.removedBy with ⟨hnil, -⟩ | ⟨call', hone, -⟩
  · rw [hnil] at hmem
    cases hmem
  · rw [hone] at hmem
    exact (Prod.mk.inj (List.mem_singleton.1 hmem)).2

theorem ObjOk.destroys_le {c : CtxtObj} (h : ObjOk c) : c.destroys ≤ 1 := by
  rw [h.destroys]
  split <;> decide

theorem ObjOk.freedBy_length_le {c : CtxtObj} (h : ObjOk c) : c.freedBy.length ≤ 1 := by
  rcases h.freedBy with ⟨hnil, -⟩ | ⟨-, -, call, hone, -⟩
  · rw [hnil]
    exact Nat.zero_le 1
  · rw [hone]
    exact le_rfl

theorem ObjOk.freed_of_mem {c : CtxtObj} (h : ObjOk c) {call : Nat} (hmem : call ∈ c.freedBy) :
    c.kref.count = 0 ∧ ∃ client, (call, client) ∈ c.removedBy := by
  rcases h.freedBy with ⟨hnil, -⟩ | ⟨hdestroyed, -, call', hone, hremoved⟩
  · rw [hnil] at hmem
    cases hmem
  · constructor
    · by_contra hpos
      have hnot := (h.alive hpos).1
      rw [hdestroyed] at hnot
      cases hnot
    · rw [hone] at hmem
      obtain rfl := List.mem_singleton.1 hmem
      exact ⟨c.priv, by rw [hremoved]; exact List.mem_singleton.2 rfl⟩

/-- In every run the contexts of the table are alive, and each context is removed, destroyed and freed
    at most once, freed only by the call that removed it. -/
theorem destroyedOnce_of_run (as : List CtxtAct) (s : CtxtTable)
    (hrun : Trace.exec CtxtTable.step {} as = some s) : DestroyedOnce s := by
  have h := lifetime_of_run hrun
  exact {
    kref := fun _ _ _ htable => Nat.pos_of_ne_zero (h.count_ne_zero htable)
    removed := fun o => (h.obj o).removedBy_length_le
    remover := fun o _ _ hmem => (h.obj o).eq_priv hmem
    destroys := fun o => (h.obj o).destroys_le
    freed := fun o => (h.obj o).freedBy_length_le
    freedBy := fun o _ hmem => (h.obj o).freed_of_mem hmem }

/-- Client 7 creates context 5 of the first device and destroys it twice at once, while a reader holds
    it. The first call removes it; client 8 creates the id again; the second call finds a context that
    is not its own. The reader drops the last reference, and the first call frees the context. -/
theorem destroyedOnce_of_run_readerRun :
    ∃ s, Trace.exec CtxtTable.step {}
        [.create 0 7 2#32 5#32, .insert 0, .get 1 2#32 5#32, .destroy 2 7 2#32 5#32,
          .destroy 3 7 2#32 5#32, .putLooked 2 false, .putLooked 3 false, .remove 2,
          .create 4 8 2#32 5#32, .insert 4, .remove 3, .detach 2, .putDetached 2, .putRemoved 2,
          .put 1, .setDestroyed 1, .seeDestroyed 2, .free 2] = some s ∧
      (s.contexts 1 5, (s.obj 0).removedBy, (s.obj 0).destroys, (s.obj 0).freedBy) =
        (some 1, [(0, 7)], 1, [0]) ∧ DestroyedOnce s := by
  have heval : (Trace.exec CtxtTable.step {}
        [.create 0 7 2#32 5#32, .insert 0, .get 1 2#32 5#32, .destroy 2 7 2#32 5#32,
          .destroy 3 7 2#32 5#32, .putLooked 2 false, .putLooked 3 false, .remove 2,
          .create 4 8 2#32 5#32, .insert 4, .remove 3, .detach 2, .putDetached 2, .putRemoved 2,
          .put 1, .setDestroyed 1, .seeDestroyed 2, .free 2]).map
          (fun s => (s.contexts 1 5, (s.obj 0).removedBy, (s.obj 0).destroys, (s.obj 0).freedBy)) =
      some (some 1, [(0, 7)], 1, [0]) := by
    decide +kernel
  obtain ⟨s, hs, heq⟩ := Option.map_eq_some_iff.1 heval
  exact ⟨s, hs, heq, destroyedOnce_of_run _ s hs⟩

end CtxtTable

end Hgsl
