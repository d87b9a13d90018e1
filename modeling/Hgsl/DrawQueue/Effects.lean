import Hgsl.DrawQueue.Machine

set_option autoImplicit false

/-! # What the functions of the draw queue can do

One inversion lemma per function: the state that it leaves, as an update of the state before, with
the conditions under which this happens. No proof about the queue unfolds the functions again. -/

namespace Hgsl

namespace QueueState

/-! ## Objects -/

/-- Going from `f` to `g`, object `o` got timestamp `ts` and nothing changed that decides how the
    queue treats the other objects. -/
structure Stamps (f g : Nat → Drawobj) (o : Nat) (ts : BitVec 32) : Prop where
  type : ∀ x, (g x).type = (f x).type
  pending : ∀ x, (g x).pending = (f x).pending
  self : (g o).timestamp = ts
  other : ∀ x, x ≠ o → (g x).timestamp = (f x).timestamp
  otherMarker : ∀ x, x ≠ o → (g x).markerTimestamp = (f x).markerTimestamp

theorem Stamps.of_update {f : Nat → Drawobj} {o : Nat} {ts : BitVec 32} {d : Drawobj}
    (htype : d.type = (f o).type) (hpending : d.pending = (f o).pending) (hts : d.timestamp = ts) :
    Stamps f (Function.update f o d) o ts where
  type x := by
    by_cases hx : x = o
    · rw [hx, Function.update_self, htype]
    · rw [Function.update_of_ne hx]
  pending x := by
    by_cases hx : x = o
    · rw [hx, Function.update_self, hpending]
    · rw [Function.update_of_ne hx]
  self := by rw [Function.update_self, hts]
  other x hx := by rw [Function.update_of_ne hx]
  otherMarker x hx := by rw [Function.update_of_ne hx]

/-- The submitted objects get the next addresses; no older object changes. -/
theorem alloc_eq (s : QueueState) (ds : List Drawobj) :
    ∃ obj', s.alloc ds = (List.range' s.nextObj ds.length,
        { s with obj := obj', nextObj := s.nextObj + ds.length }) ∧
      ∀ x < s.nextObj, obj' x = s.obj x := by
  induction ds generalizing s with
  | nil => exact ⟨s.obj, rfl, fun _ _ => rfl⟩
  | cons d ds ih =>
      obtain ⟨obj', hobj', hold⟩ :=
        ih { s with obj := Function.update s.obj s.nextObj d, nextObj := s.nextObj + 1 }
      refine ⟨obj', ?_, ?_⟩
      · simp only [alloc, hobj', List.length_cons, List.range'_succ]
        rw [Nat.add_comm ds.length 1, ← Nat.add_assoc]
      · intro x hx
        exact (hold x (Nat.lt_succ_of_lt hx)).trans (Function.update_of_ne (Nat.ne_of_lt hx) d s.obj)

/-- The skip loop changes nothing but `CMDOBJ_SKIP` bits. -/
theorem setSkips_eq (s : QueueState) (fuel j : Nat) :
    ∃ obj', s.setSkips fuel j = { s with obj := obj' } ∧
      ∀ x, obj' x = { s.obj x with skip := (obj' x).skip } := by
  induction fuel generalizing s j with
  | zero => exact ⟨s.obj, rfl, fun _ => rfl⟩
  | succ fuel ih =>
      unfold setSkips
      split
      · exact ⟨s.obj, rfl, fun _ => rfl⟩
      · split
        · next m hm =>
            split
            · obtain ⟨obj', heq, hskip⟩ := ih { s with
                obj := Function.update s.obj m { s.obj m with skip := true } } (drawqueueNext j)
              refine ⟨obj', heq, ?_⟩
              intro x
              rw [hskip x]
              by_cases hx : x = m
              · simp only [hx, Function.update_self]
              · simp only [Function.update_of_ne hx]
            · exact ih s (drawqueueNext j)
        · exact ih s (drawqueueNext j)

/-! ## Appending -/

/-- What one turn of the loop in `hgsl_dispatch_queue_cmds` can do with object `o`. -/
inductive QueueOne (s : QueueState) (o : Nat) (userTs : BitVec 32) :
    Int × BitVec 32 × QueueState → Prop where
  | refused (timestamp : BitVec 32) (hts : hgslDbNextTimestamp s.flags s.queuedTs userTs = .error (-ERANGE)) :
      QueueOne s o userTs (-ERANGE, timestamp, s)
  | ignored (timestamp : BitVec 32) (htype : (s.obj o).type = .bind) :
      QueueOne s o userTs (0, timestamp, s)
  | unstamped (timestamp : BitVec 32)
      (htype : (s.obj o).type = .sync ∨ (s.obj o).type = .timeline) :
      QueueOne s o userTs (0, timestamp, (s.setTimestamp o 0#32).queueDrawobj o)
  | stamped (ts : BitVec 32) (obj' : Nat → Drawobj)
      (htype : (s.obj o).type = .cmd ∨ (s.obj o).type = .marker)
      (hts : hgslDbNextTimestamp s.flags s.queuedTs userTs = .ok ts)
      (hobj : Stamps s.obj obj' o ts)
      (hmarker : (s.obj o).type = .marker → (obj' o).markerTimestamp = s.queuedTs) :
      QueueOne s o userTs (0, ts,
        { s with obj := obj', queuedTs := ts, stamped := s.stamped ++ [o] }.queueDrawobj o)
  | retired (ts : BitVec 32) (htype : (s.obj o).type = .marker)
      (hts : hgslDbNextTimestamp s.flags s.queuedTs userTs = .ok ts)
      (hqueued : s.queued = 0) (hexpired : s.checkTimestamp s.queuedTs = true) :
      QueueOne s o userTs (1, ts,
        { s.setTimestamp o ts with
          queuedTs := ts
          stamped := s.stamped ++ [o]
          shadowTs := setContextShadowTs s.shadowTs ts
          retired := s.retired ++ [o] })

theorem hgslDbNextTimestamp_error {flags queuedTs timestamp : BitVec 32} {e : Int}
    (h : hgslDbNextTimestamp flags queuedTs timestamp = .error e) : e = -ERANGE := by
  unfold hgslDbNextTimestamp at h
  split at h
  · cases h
  · split at h
    · split at h
      · exact (Except.error.inj h).symm
      · cases h
    · cases h

theorem queueCmdobj_cases (s : QueueState) (o : Nat) (timestamp userTs : BitVec 32)
    (htype : (s.obj o).type = .cmd) : QueueOne s o userTs (s.queueCmdobj o timestamp userTs) := by
  unfold queueCmdobj
  split
  · next e he =>
      obtain rfl := hgslDbNextTimestamp_error he
      exact .refused timestamp he
  · next ts hts =>
      obtain ⟨obj', heq, hskip⟩ :=
        setSkips_eq (s.setTimestamp o ts) CONTEXT_DRAWQUEUE_SIZE s.drawqHead
      simp only [heq]
      have hset : Stamps s.obj (s.setTimestamp o ts).obj o ts := Stamps.of_update rfl rfl rfl
      refine .stamped ts obj' (.inl htype) hts ⟨?_, ?_, ?_, ?_, ?_⟩ ?_
      · intro x
        rw [hskip x]
        exact hset.type x
      · intro x
        rw [hskip x]
        exact hset.pending x
      · rw [hskip o]
        exact hset.self
      · intro x hx
        rw [hskip x]
        exact hset.other x hx
      · intro x hx
        rw [hskip x]
        exact hset.otherMarker x hx
      · intro hmarker
        rw [htype] at hmarker
        cases hmarker

theorem queueMarkerobj_cases (s : QueueState) (o : Nat) (timestamp userTs : BitVec 32)
    (htype : (s.obj o).type = .marker) :
    QueueOne s o userTs (s.queueMarkerobj o timestamp userTs) := by
  unfold queueMarkerobj
  split
  · next e he =>
      obtain rfl := hgslDbNextTimestamp_error he
      exact .refused timestamp he
  · next ts hts =>
      dsimp only
      split
      · split
        · next hfast =>
            have := QueueOne.retired ts htype hts hfast.1 hfast.2
            simpa [retireTimestamp, setTimestamp] using this
        · refine .stamped ts _ (.inr htype) hts ?_ ?_
          · simp only [setTimestamp, Function.update_self, Function.update_idem]
            exact Stamps.of_update rfl rfl rfl
          · intro _
            simp [setTimestamp]
      · refine .stamped ts _ (.inr htype) hts ?_ ?_
        · simp only [setTimestamp, Function.update_self, Function.update_idem]
          exact Stamps.of_update rfl rfl rfl
        · intro _
          simp [setTimestamp]

theorem queueOne_cases (s : QueueState) (o : Nat) (timestamp userTs : BitVec 32) :
    QueueOne s o userTs (queueOne userTs s timestamp o) := by
  unfold queueOne
  cases htype : (s.obj o).type with
  | marker => exact queueMarkerobj_cases s o timestamp userTs htype
  | cmd => exact queueCmdobj_cases s o timestamp userTs htype
  | sync => exact .unstamped 0#32 (.inl htype)
  | bind => exact .ignored timestamp htype
  | timeline => exact .unstamped timestamp (.inr htype)

/-- **Loop rule.** The objects still to come are the second argument of the loop invariant. The loop
    leaves through an object that is refused or retired on the spot, or when all are queued. -/
theorem queueLoop_rule_exit {P : QueueState → List Nat → Prop} {Q : QueueState → Prop}
    (userTs timestamp : BitVec 32)
    (hone : ∀ s ts o os, P s (o :: os) → (queueOne userTs s ts o).1 = 0 →
      P (queueOne userTs s ts o).2.2 os)
    (hexit : ∀ s ts o os, P s (o :: os) → (queueOne userTs s ts o).1 ≠ 0 →
      Q (queueOne userTs s ts o).2.2)
    (hend : ∀ s, P s [] → Q s) {objs : List Nat} {s : QueueState} (h : P s objs) :
    Q (queueLoop userTs s timestamp objs).2.2 := by
  induction objs generalizing s timestamp with
  | nil => exact hend s h
  | cons o objs ih =>
      unfold queueLoop
      dsimp only
      split
      · next hret => exact ih _ (hone s timestamp o objs h hret)
      · next hret => split <;> exact hexit s timestamp o objs h hret

/-- The loop rule for what every turn preserves. -/
theorem queueLoop_rule {P : QueueState → List Nat → Prop} (userTs timestamp : BitVec 32)
    (hone : ∀ s ts o os, P s (o :: os) → P (queueOne userTs s ts o).2.2 os) {objs : List Nat}
    {s : QueueState} (h : P s objs) : ∃ os, P (queueLoop userTs s timestamp objs).2.2 os :=
  queueLoop_rule_exit (Q := fun s => ∃ os, P s os) userTs timestamp (fun s ts o os h _ => hone s ts o os h)
    (fun s ts o os h _ => ⟨os, hone s ts o os h⟩) (fun _ h => ⟨[], h⟩) h

theorem queueLocked_cases (s : QueueState) (objs : List Nat) (timestamp : BitVec 32) (ret : Int) :
    (s.queueLocked objs timestamp ret).2.2 = s ∨
      ret = 0 ∧ (s.queueLocked objs timestamp ret).2.2 =
        (queueLoop timestamp s timestamp objs).2.2 := by
  unfold queueLocked
  split
  · exact .inl rfl
  · next hret =>
      dsimp only
      split
      · exact .inl rfl
      · exact .inr ⟨not_not.1 hret, rfl⟩

/-- What `hgsl_dispatch_queue_cmds` can do with freshly built objects up to its return or its sleep:
    nothing, go to sleep, or run the loop with room for all of them. -/
theorem submit_cases (s : QueueState) (ds : List Drawobj) (timestamp : BitVec 32) :
    ∃ obj' : Nat → Drawobj, (∀ x < s.nextObj, obj' x = s.obj x) ∧
      let objs := List.range' s.nextObj ds.length
      let s₁ := { s with obj := obj', nextObj := s.nextObj + ds.length }
      s.submit ds timestamp = s₁ ∨
      (ds.length < contextDrawqueueSize ∧ s.submit ds timestamp =
        { s₁ with sleepers := s.sleepers ++ [{ objs := objs, timestamp := timestamp }] }) ∨
      (ds.length < contextDrawqueueSize ∧ s.inDestroy = false ∧ s.mustSleep ds.length = false ∧
        s.submit ds timestamp = (queueLoop timestamp s₁ timestamp objs).2.2) := by
  obtain ⟨obj', halloc, hold⟩ := alloc_eq s ds
  refine ⟨obj', hold, ?_⟩
  dsimp only
  unfold submit queueCmds
  simp only [halloc, List.length_range']
  split
  · exact .inl rfl
  · next hlen =>
      have hlen' : ds.length < contextDrawqueueSize := by
        unfold contextDrawqueueSize CONTEXT_DRAWQUEUE_SIZE at hlen ⊢
        omega
      split
      · exact .inl rfl
      · next hdestroy =>
          split
          · exact .inr (.inl ⟨hlen', rfl⟩)
          · next hsleep =>
              dsimp only
              rcases queueLocked_cases { s with obj := obj', nextObj := s.nextObj + ds.length }
                (List.range' s.nextObj ds.length) timestamp 0 with hsame | ⟨-, hloop⟩
              · exact .inl hsame
              · exact .inr (.inr ⟨hlen', Bool.eq_false_of_not_eq_true hdestroy,
                  Bool.eq_false_of_not_eq_true hsleep, hloop⟩)

theorem relock_cases {s s' : QueueState} {k : Nat} (h : s.relock k = some s') :
    ∃ sl ret, s.sleepers[k]? = some sl ∧ sl.wake = some ret ∧ s.lockFree = true ∧
      (s' = { s with sleepers := s.sleepers.eraseIdx k } ∨
        ret = 0 ∧ s' = (queueLoop sl.timestamp { s with sleepers := s.sleepers.eraseIdx k }
          sl.timestamp sl.objs).2.2) := by
  unfold relock at h
  split at h
  · cases h
  · next sl hsl =>
      split at h
      · cases h
      · next ret hret =>
          split at h
          · next hfree =>
              obtain rfl := Option.some.inj h
              exact ⟨sl, ret, hsl, hret, hfree, queueLocked_cases _ _ _ _⟩
          · cases h

theorem wake_cases {s s' : QueueState} {k : Nat} {room : Bool} {ret : Int}
    (h : s.wake k room ret = some s') :
    ∃ sl, s.sleepers[k]? = some sl ∧ s.lockFree = true ∧
      s' = { s with sleepers := s.sleepers.set k { sl with wake := some ret } } := by
  unfold wake at h
  split at h
  · cases h
  · next sl hsl =>
      split at h
      · next hcond => exact ⟨sl, hsl, hcond.1, (Option.some.inj h).symm⟩
      · cases h

/-! ## Dispatching -/

/-- What one turn of the dispatcher's scan at index `i` can do. -/
inductive Scan (s : QueueState) (i : Nat) (ret : Int) : QueueState → Prop where
  | stop : Scan s i ret { s with dispatcher := .idle }
  | skipped (o : Nat) (hi : i ≠ s.drawqTail) (ho : s.drawq i = some o)
      (htype : (s.obj o).type = .bind) :
      Scan s i ret { s with dispatcher := .scanning (drawqueueNext i) ret }
  | dropped (o : Nat) (d : Departure) (hi : i ≠ s.drawqTail) (ho : s.drawq i = some o)
      (htype : (s.obj o).type = .sync ∧ (s.obj o).pending = 0#32 ∨ (s.obj o).type = .timeline) :
      Scan s i ret
        { s.popDrawobj.depart o d with dispatcher := .scanning (drawqueueNext i) 0 }
  | expired (o : Nat) (hi : i ≠ s.drawqTail) (ho : s.drawq i = some o)
      (htype : (s.obj o).type = .marker)
      (hexpired : s.checkTimestamp (s.obj o).markerTimestamp = true) :
      Scan s i ret
        { s.popDrawobj.depart o .retired with
          obj := Function.update s.obj o { s.obj o with markerExpired := true }
          shadowTs := setContextShadowTs s.shadowTs (s.obj o).timestamp
          retired := s.retired ++ [o]
          dispatcher := .scanning (drawqueueNext i) 0 }
  | found (o : Nat) (hi : i ≠ s.drawqTail) (ho : s.drawq i = some o)
      (htype : (s.obj o).type = .cmd ∨ (s.obj o).type = .marker) :
      Scan s i ret { s.popDrawobj with dispatcher := .sending o }

theorem markerExpired_checks {s : QueueState} {o : Nat} (h : s.markerExpired o = true) :
    s.checkTimestamp (s.obj o).markerTimestamp = true := by
  unfold markerExpired at h
  split at h
  · cases h
  · exact h

theorem scan_cases (s : QueueState) (i : Nat) (ret : Int) : Scan s i ret (s.scan i ret) := by
  unfold scan processDrawqueue
  by_cases hi : i = s.drawqTail
  · simp only [if_pos hi]
    exact .stop
  · simp only [if_neg hi]
    cases ho : s.drawq i with
    | none => exact .stop
    | some o =>
        cases htype : (s.obj o).type with
        | cmd =>
            simp only [htype]
            exact .found o hi ho (.inl htype)
        | marker =>
            by_cases hexp : s.markerExpired o = true
            · have : Scan s i ret _ := .expired o hi ho htype (markerExpired_checks hexp)
              simpa [retireMarkerobj, hexp, popDrawobj, depart, retireTimestamp, htype] using this
            · by_cases hskip : (s.obj o).skip = true
              · simpa [retireMarkerobj, hexp, hskip, htype] using
                  (Scan.found o hi ho (.inr htype) : Scan s i ret _)
              · simpa [retireMarkerobj, hexp, hskip, htype, EAGAIN] using Scan.stop
        | sync =>
            by_cases hpend : (s.obj o).pending = 0#32
            · simpa [retireSyncobj, Drawobj.eventsPending, hpend, htype] using
                (Scan.dropped o .retired hi ho (.inl ⟨htype, hpend⟩) : Scan s i ret _)
            · simpa [retireSyncobj, Drawobj.eventsPending, hpend, htype, EAGAIN] using Scan.stop
        | bind =>
            by_cases hret : ret = 0
            · simpa [hret, htype] using (Scan.skipped o hi ho htype : Scan s i ret _)
            · simpa [hret, htype] using Scan.stop
        | timeline =>
            simpa [retireTimelineobj, htype] using
              (Scan.dropped o .destroyed hi ho (.inr htype) : Scan s i ret _)

/-- The scan returns an object that it has not touched, from the slot it looks at. -/
theorem processDrawqueue_found {s s' : QueueState} {i o : Nat} {ret : Int}
    (h : s.processDrawqueue i ret = (.found o, s')) :
    s' = s ∧ i ≠ s.drawqTail ∧ s.drawq i = some o := by
  unfold processDrawqueue at h
  split at h
  · cases h
  · next hi =>
      split at h
      · cases h
      · next o' ho =>
          dsimp only at h
          split at h
          · cases h
            exact ⟨rfl, hi, ho⟩
          · split at h <;> cases h
          · split at h
            · next hret =>
                cases h
                refine ⟨?_, hi, ho⟩
                unfold retireMarkerobj at hret ⊢
                split
                · next hexp => simp [hexp] at hret
                · rfl
            · split at h <;> cases h
          · split at h <;> cases h
          · split at h <;> cases h

end QueueState

end Hgsl
