import Hgsl.DrawQueue.RingInvariant

set_option autoImplicit false

/-! # Who owns a draw object

A draw object belongs to the call that submits it until that call stores it, and it is stored or
numbered at most once: nothing that is queued, in flight or retired changes under a later submission. -/

namespace Hgsl

namespace QueueState

/-- The objects of submissions that sleep for room. -/
def asleep (s : QueueState) : List Nat := s.sleepers.flatMap (·.objs)

/-- Every object has one owner. -/
structure Owned (s : QueueState) : Prop where
  appended_lt : ∀ x ∈ s.appended, x < s.nextObj
  stamped_lt : ∀ x ∈ s.stamped, x < s.nextObj
  asleep_lt : ∀ x ∈ s.asleep, x < s.nextObj
  appended_nodup : s.appended.Nodup
  asleep_nodup : s.asleep.Nodup
  appended_awake : ∀ x ∈ s.appended, x ∉ s.asleep
  stamped_awake : ∀ x ∈ s.stamped, x ∉ s.asleep

/-- The objects `os` are still owned by the call that works on them. -/
structure Private (s : QueueState) (os : List Nat) : Prop where
  nodup : os.Nodup
  lt : ∀ x ∈ os, x < s.nextObj
  not_asleep : ∀ x ∈ os, x ∉ s.asleep
  not_appended : ∀ x ∈ os, x ∉ s.appended
  not_stamped : ∀ x ∈ os, x ∉ s.stamped

variable {s s' : QueueState}

/-- The rest of a call's objects stays private when the first one is stored or numbered. -/
theorem Private.tail {o : Nat} {os : List Nat} (h : Private s (o :: os))
    (hnext : s'.nextObj = s.nextObj) (hasleep : s'.asleep = s.asleep)
    (happ : ∀ x ∈ s'.appended, x ∈ s.appended ∨ x = o)
    (hstamp : ∀ x ∈ s'.stamped, x ∈ s.stamped ∨ x = o) : Private s' os := by
  have hne : ∀ x ∈ os, x ≠ o := by
    rintro x hx rfl
    exact (List.nodup_cons.1 h.nodup).1 hx
  refine ⟨(List.nodup_cons.1 h.nodup).2, ?_, ?_, ?_, ?_⟩
  · intro x hx
    rw [hnext]
    exact h.lt x (List.mem_cons_of_mem o hx)
  · intro x hx
    rw [hasleep]
    exact h.not_asleep x (List.mem_cons_of_mem o hx)
  · intro x hx hmem
    rcases happ x hmem with hold | heq
    · exact h.not_appended x (List.mem_cons_of_mem o hx) hold
    · exact hne x hx heq
  · intro x hx hmem
    rcases hstamp x hmem with hold | heq
    · exact h.not_stamped x (List.mem_cons_of_mem o hx) hold
    · exact hne x hx heq

/-- Storing or numbering an object of the running call. -/
theorem Owned.accept {o : Nat} (h : Owned s) (hlt : o < s.nextObj) (hawake : o ∉ s.asleep)
    (hnew : o ∉ s.appended) (hnext : s'.nextObj = s.nextObj) (hasleep : s'.asleep = s.asleep)
    (happ : s'.appended = s.appended ∨ s'.appended = s.appended ++ [o])
    (hstamp : s'.stamped = s.stamped ∨ s'.stamped = s.stamped ++ [o]) : Owned s' := by
  have happ' : ∀ x ∈ s'.appended, x ∈ s.appended ∨ x = o := by
    rcases happ with heq | heq <;> simp +contextual [heq]
  have hstamp' : ∀ x ∈ s'.stamped, x ∈ s.stamped ∨ x = o := by
    rcases hstamp with heq | heq <;> simp +contextual [heq]
  refine ⟨?_, ?_, ?_, ?_, ?_, ?_, ?_⟩
  · intro x hx
    rw [hnext]
    rcases happ' x hx with hold | rfl
    · exact h.appended_lt x hold
    · exact hlt
  · intro x hx
    rw [hnext]
    rcases hstamp' x hx with hold | rfl
    · exact h.stamped_lt x hold
    · exact hlt
  · rw [hasleep, hnext]
    exact h.asleep_lt
  · rcases happ with heq | heq
    · rw [heq]
      exact h.appended_nodup
    · rw [heq]
      exact h.appended_nodup.append (List.nodup_singleton o) (by simpa using hnew)
  · rw [hasleep]
    exact h.asleep_nodup
  · intro x hx
    rw [hasleep]
    rcases happ' x hx with hold | rfl
    · exact h.appended_awake x hold
    · exact hawake
  · intro x hx
    rw [hasleep]
    rcases hstamp' x hx with hold | rfl
    · exact h.stamped_awake x hold
    · exact hawake

/-- Both facts together are what the loop of a submission preserves. -/
def OwnedBy (s : QueueState) (os : List Nat) : Prop := Owned s ∧ Private s os

theorem OwnedBy.queueOne (s : QueueState) (userTs timestamp : BitVec 32) (o : Nat) (os : List Nat)
    (h : OwnedBy s (o :: os)) : OwnedBy (QueueState.queueOne userTs s timestamp o).2.2 os := by
  obtain ⟨hown, hpriv⟩ := h
  have hlt := hpriv.lt o List.mem_cons_self
  have hawake := hpriv.not_asleep o List.mem_cons_self
  have hnew := hpriv.not_appended o List.mem_cons_self
  have hcases := queueOne_cases s o timestamp userTs
  generalize QueueState.queueOne userTs s timestamp o = r at hcases
  cases hcases with
  | refused ts hts => exact ⟨hown, hpriv.tail rfl rfl (fun _ => .inl) (fun _ => .inl)⟩
  | ignored ts htype => exact ⟨hown, hpriv.tail rfl rfl (fun _ => .inl) (fun _ => .inl)⟩
  | unstamped ts htype =>
      refine ⟨hown.accept hlt hawake hnew rfl rfl (.inr rfl) (.inl rfl), ?_⟩
      refine hpriv.tail rfl rfl ?_ (fun _ => .inl)
      simp [queueDrawobj, setTimestamp]
  | stamped ts obj' htype hts hobj hmarker =>
      refine ⟨hown.accept hlt hawake hnew rfl rfl (.inr rfl) (.inr rfl), ?_⟩
      refine hpriv.tail rfl rfl ?_ ?_ <;> simp [queueDrawobj]
  | retired ts htype hts hqueued hexpired =>
      refine ⟨hown.accept hlt hawake hnew rfl rfl (.inl rfl) (.inr rfl), ?_⟩
      refine hpriv.tail rfl rfl (fun _ => .inl) ?_
      simp

/-! ## Steps -/

/-- Freshly built objects belong to the call that built them. -/
theorem Owned.alloc (h : Owned s) (obj' : Nat → Drawobj) (n : Nat) :
    OwnedBy { s with obj := obj', nextObj := s.nextObj + n } (List.range' s.nextObj n) := by
  have hold : ∀ {x}, x < s.nextObj → x ∉ List.range' s.nextObj n := by
    intro x hx hmem
    exact absurd (List.mem_range'_1.1 hmem).1 (by omega)
  refine ⟨⟨?_, ?_, ?_, h.appended_nodup, h.asleep_nodup, h.appended_awake, h.stamped_awake⟩,
    ⟨List.nodup_range', fun x hx => (List.mem_range'_1.1 hx).2, ?_, ?_, ?_⟩⟩
  · exact fun x hx => Nat.lt_add_right n (h.appended_lt x hx)
  · exact fun x hx => Nat.lt_add_right n (h.stamped_lt x hx)
  · exact fun x hx => Nat.lt_add_right n (h.asleep_lt x hx)
  · exact fun x hx hmem => hold (h.asleep_lt x hmem) hx
  · exact fun x hx hmem => hold (h.appended_lt x hmem) hx
  · exact fun x hx hmem => hold (h.stamped_lt x hmem) hx

/-- A call goes to sleep with its objects. -/
theorem OwnedBy.sleep {os : List Nat} (h : OwnedBy s os) (ts : BitVec 32) (wake : Option Int) :
    Owned { s with sleepers := s.sleepers ++ [{ objs := os, timestamp := ts, wake := wake }] } := by
  obtain ⟨hown, hpriv⟩ := h
  have hasleep : asleep { s with
      sleepers := s.sleepers ++ [{ objs := os, timestamp := ts, wake := wake }] } =
      s.asleep ++ os := by
    simp [asleep]
  refine ⟨hown.appended_lt, hown.stamped_lt, ?_, hown.appended_nodup, ?_, ?_, ?_⟩
  · rw [hasleep]
    intro x hx
    rcases List.mem_append.1 hx with hx | hx
    · exact hown.asleep_lt x hx
    · exact hpriv.lt x hx
  · rw [hasleep]
    exact hown.asleep_nodup.append hpriv.nodup fun x hx hx' => hpriv.not_asleep x hx' hx
  · intro x hx
    rw [hasleep, List.mem_append, not_or]
    exact ⟨hown.appended_awake x hx, fun hmem => hpriv.not_appended x hmem hx⟩
  · intro x hx
    rw [hasleep, List.mem_append, not_or]
    exact ⟨hown.stamped_awake x hx, fun hmem => hpriv.not_stamped x hmem hx⟩

/-- A sleeper that comes back owns its objects again. -/
theorem Owned.unsleep (h : Owned s) {k : Nat} {sl : Sleeper} (hsl : s.sleepers[k]? = some sl) :
    OwnedBy { s with sleepers := s.sleepers.eraseIdx k } sl.objs := by
  obtain ⟨hk, rfl⟩ := List.getElem?_eq_some_iff.1 hsl
  have hperm : (s.sleepers[k].objs ++
      asleep { s with sleepers := s.sleepers.eraseIdx k }).Perm s.asleep := by
    simpa only [asleep, List.flatMap_cons] using
      (List.getElem_cons_eraseIdx_perm hk).flatMap_right (·.objs)
  obtain ⟨hobjs, hrest, hdisj⟩ := List.nodup_append.1 (hperm.nodup_iff.2 h.asleep_nodup)
  have hmem : ∀ x ∈ s.sleepers[k].objs, x ∈ s.asleep := fun x hx =>
    hperm.subset (List.mem_append_left _ hx)
  have hmem' : ∀ x ∈ asleep { s with sleepers := s.sleepers.eraseIdx k }, x ∈ s.asleep :=
    fun x hx => hperm.subset (List.mem_append_right _ hx)
  refine ⟨⟨h.appended_lt, h.stamped_lt, fun x hx => h.asleep_lt x (hmem' x hx), h.appended_nodup,
    hrest, ?_, ?_⟩, ⟨hobjs, fun x hx => h.asleep_lt x (hmem x hx), ?_, ?_, ?_⟩⟩
  · exact fun x hx hx' => h.appended_awake x hx (hmem' x hx')
  · exact fun x hx hx' => h.stamped_awake x hx (hmem' x hx')
  · exact fun x hx hx' => hdisj x hx x hx' rfl
  · exact fun x hx hx' => h.appended_awake x hx' (hmem x hx)
  · exact fun x hx hx' => h.stamped_awake x hx' (hmem x hx)

/-- A step that accepts nothing and moves no sleeper changes no owner. -/
theorem Owned.congr (h : Owned s) (hnext : s'.nextObj = s.nextObj) (hasleep : s'.asleep = s.asleep)
    (happ : s'.appended = s.appended) (hstamp : s'.stamped = s.stamped) : Owned s' := by
  refine ⟨?_, ?_, ?_, ?_, ?_, ?_, ?_⟩
  · rw [happ, hnext]; exact h.appended_lt
  · rw [hstamp, hnext]; exact h.stamped_lt
  · rw [hasleep, hnext]; exact h.asleep_lt
  · rw [happ]; exact h.appended_nodup
  · rw [hasleep]; exact h.asleep_nodup
  · rw [happ, hasleep]; exact h.appended_awake
  · rw [hstamp, hasleep]; exact h.stamped_awake

theorem OwnedBy.queueLoop {objs : List Nat} (h : OwnedBy s objs) (userTs timestamp : BitVec 32) :
    Owned (QueueState.queueLoop userTs s timestamp objs).2.2 := by
  obtain ⟨os, hos⟩ := queueLoop_rule (P := OwnedBy) userTs timestamp
    (fun s ts o os => OwnedBy.queueOne s _ ts o os) h
  exact hos.1

/-- The end of a wait moves no object. -/
theorem asleep_wake {k : Nat} {room : Bool} {ret : Int} (hstep : s.wake k room ret = some s') :
    s'.asleep = s.asleep := by
  obtain ⟨sl, hsl, -, rfl⟩ := wake_cases hstep
  obtain ⟨hk, rfl⟩ := List.getElem?_eq_some_iff.1 hsl
  have hmap : (s.sleepers.set k { s.sleepers[k] with wake := some ret }).map (·.objs) =
      s.sleepers.map (·.objs) := by
    apply List.ext_getElem?
    intro i
    rw [List.getElem?_map, List.getElem?_map, List.getElem?_set]
    by_cases hi : k = i
    · subst hi
      simp [hk]
    · rw [if_neg hi]
  unfold asleep
  rw [List.flatMap_def, List.flatMap_def, hmap]

theorem Owned.wake (h : Owned s) {k : Nat} {room : Bool} {ret : Int}
    (hstep : s.wake k room ret = some s') : Owned s' := by
  have hasleep := asleep_wake hstep
  obtain ⟨sl, hsl, -, rfl⟩ := wake_cases hstep
  exact h.congr rfl hasleep rfl rfl

/-- **Step lemma.** Every step keeps the ownership of all objects. -/
theorem Owned.step {a : QueueAct} (h : Owned s) (hstep : s.step a = some s') : Owned s' := by
  cases a with
  | queueCmds ds ts =>
      simp only [QueueState.step, Option.ite_none_right_eq_some] at hstep
      obtain ⟨-, hs'⟩ := hstep
      obtain rfl := Option.some.inj hs'
      obtain ⟨obj', -, heq | ⟨-, heq⟩ | ⟨-, -, -, heq⟩⟩ := submit_cases s ds ts
      · rw [heq]
        exact (h.alloc obj' _).1
      · rw [heq]
        exact (h.alloc obj' _).sleep ts none
      · rw [heq]
        exact (h.alloc obj' _).queueLoop ts ts
  | wakeRoom k left => exact h.wake hstep
  | wakeTimeout k => exact h.wake hstep
  | wakeInterrupted k => exact h.wake hstep
  | relock k =>
      obtain ⟨sl, ret, hsl, -, -, rfl | ⟨-, rfl⟩⟩ := relock_cases hstep
      · exact (h.unsleep hsl).1
      · exact (h.unsleep hsl).queueLoop _ _
  | passStart =>
      simp only [QueueState.step] at hstep
      split at hstep
      · obtain rfl := Option.some.inj hstep
        exact h.congr rfl rfl rfl rfl
      · cases hstep
  | passScan =>
      simp only [QueueState.step] at hstep
      split at hstep
      · next i ret hscan =>
          obtain rfl := Option.some.inj hstep
          have hcases := scan_cases s i ret
          generalize s.scan i ret = s' at hcases
          cases hcases <;> exact h.congr rfl rfl rfl rfl
      · cases hstep
  | send r =>
      simp only [QueueState.step] at hstep
      split at hstep
      · obtain rfl := Option.some.inj hstep
        unfold finishSend
        dsimp only
        split
        · exact h.congr rfl rfl rfl rfl
        · split <;> exact h.congr rfl rfl rfl rfl
      · cases hstep
  | syncExpire o i =>
      obtain rfl := Option.some.inj hstep
      exact h.congr rfl rfl rfl rfl
  | gpuRetire =>
      simp only [QueueState.step, QueueState.gpuRetire] at hstep
      split at hstep
      · cases hstep
      · obtain rfl := Option.some.inj hstep
        exact h.congr rfl rfl rfl rfl
  | setInDestroy =>
      obtain rfl := Option.some.inj hstep
      exact h.congr rfl rfl rfl rfl
  | detachDrawobjs =>
      simp only [QueueState.step, Option.ite_none_right_eq_some] at hstep
      obtain ⟨-, hs'⟩ := hstep
      obtain rfl := Option.some.inj hs'
      exact h.congr rfl rfl rfl rfl

end QueueState

end Hgsl
