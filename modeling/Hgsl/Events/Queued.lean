import Hgsl.Events.Readings

set_option autoImplicit false

/-! # Events on the queued timestamp

`hgsl_add_event` turns down the timestamps that are not queued yet. It compares with `hgsl_ts32_ge`, which
holds for equal timestamps as well: the timestamp that was queued last is turned down like a later one. Two
callers ask for that very timestamp. -/

namespace Hgsl

/-- `a` is later than `b`. -/
def hgslTs32Later (a b : BitVec 32) : Bool := hgslTs32Ge a b && a ≠ b

/-- `hgsl_add_event`, with its reading of the queued timestamp; an event that gets past the checks is linked
    or signalled, and the call returns 0. -/
def hgslAddEvent (flags timestamp : BitVec 32) (func : Nat) (reading : Reading)
    (allocated contextAlive : Bool) : Int :=
  match EventGroup.addEventCheck flags timestamp func (hgslReadTimestamp reading .queued).2 with
  | .error e => e
  | .ok _ =>
    if !allocated then -ENOMEM
    else if !contextAlive then -ENOENT
    else 0

/-- The event of `hgsl_drawobj_add_timeline`: its timestamp is a reading of its own. -/
def drawobjAddTimelineEvent (flags : BitVec 32) (timelineSignaled : Nat) (reading readingAgain : Reading)
    (allocated contextAlive : Bool) : Int :=
  let queued := hgslReadTimestamp reading .queued
  if queued.1 ≠ 0 then queued.1
  else hgslAddEvent flags queued.2 timelineSignaled readingAgain allocated contextAlive

/-- `drawobj_add_sync_timestamp` on a context that it has found; `own` says that it is the context of the
    sync object. -/
def drawobjAddSyncTimestamp (own : Bool) (flags queuedTs timestamp : BitVec 32) (timestampSignaled : Nat)
    (reading : Reading) (allocated contextAlive : Bool) : Int :=
  if own && hgslTs32Ge timestamp queuedTs then -EINVAL
  else hgslAddEvent flags timestamp timestampSignaled reading allocated contextAlive

section Boundary

variable {flags timestamp queued : BitVec 32} {func : Nat} {reading : Reading}

theorem addEventCheck_eq (hflags : flags &&& GSL_CONTEXT_FLAG_USER_GENERATED_TS = 0#32) (hfunc : func ≠ 0) :
    EventGroup.addEventCheck flags timestamp func queued =
      if hgslTs32Ge timestamp queued then .error (-EINVAL) else .ok () := by
  simp [EventGroup.addEventCheck, hflags, hfunc]

/-- With all that it needs the call looks at the two timestamps only. -/
theorem hgslAddEvent_eq (hflags : flags &&& GSL_CONTEXT_FLAG_USER_GENERATED_TS = 0#32) (hfunc : func ≠ 0)
    (hread : hgslReadTimestamp reading .queued = (0, queued)) :
    hgslAddEvent flags timestamp func reading true true =
      if hgslTs32Ge timestamp queued then -EINVAL else 0 := by
  unfold hgslAddEvent
  rw [hread, addEventCheck_eq hflags hfunc]
  cases hgslTs32Ge timestamp queued <;> rfl

theorem hgslTs32Ge_self (a : BitVec 32) : hgslTs32Ge a a = true := hgslTs32Ge_iff.2 (Serial.ge_refl a)

theorem hgslAddEvent_eq_einval_iff (hflags : flags &&& GSL_CONTEXT_FLAG_USER_GENERATED_TS = 0#32)
    (hfunc : func ≠ 0) (hread : hgslReadTimestamp reading .queued = (0, queued)) :
    hgslAddEvent flags timestamp func reading true true = -EINVAL ↔ hgslTs32Ge timestamp queued = true := by
  rw [hgslAddEvent_eq hflags hfunc hread]
  cases hgslTs32Ge timestamp queued <;> decide

end Boundary

/-- **The boundary.** A call turns down exactly the later timestamps if and only if it is not about the
    queued timestamp itself. The event of a timeline object and a sync point on the context's own queued
    timestamp are about that one, and are never accepted. -/
theorem add_event_boundary (flags queued : BitVec 32)
    (hflags : flags &&& GSL_CONTEXT_FLAG_USER_GENERATED_TS = 0#32) (func : Nat) (hfunc : func ≠ 0)
    (reading readingAgain : Reading) (hread : hgslReadTimestamp reading .queued = (0, queued))
    (hreadAgain : hgslReadTimestamp readingAgain .queued = (0, queued)) :
    (∀ timestamp, (hgslAddEvent flags timestamp func reading true true = -EINVAL ↔
        hgslTs32Later timestamp queued = true) ↔ timestamp ≠ queued) ∧
      drawobjAddTimelineEvent flags func reading readingAgain true true = -EINVAL ∧
      drawobjAddSyncTimestamp true flags queued queued func reading true true = -EINVAL := by
  refine ⟨?_, ?_, ?_⟩
  · intro timestamp
    rw [hgslAddEvent_eq_einval_iff hflags hfunc hread]
    unfold hgslTs32Later
    by_cases heq : timestamp = queued
    · subst heq
      simp [hgslTs32Ge_self]
    · simp [heq]
  · unfold drawobjAddTimelineEvent
    rw [hread]
    exact (hgslAddEvent_eq_einval_iff hflags hfunc hreadAgain).2 (hgslTs32Ge_self queued)
  · simp [drawobjAddSyncTimestamp, hgslTs32Ge_self]

/-- A context with shadow memory that has queued timestamp 5. -/
def queuedFive : Reading :=
  { held := true, shadowTs := some ⟨4#32, 4#32⟩, queuedTs := 5#32, rpc := ⟨0, 0, 0, 0, 0#32, 0, 0⟩, param := 0#32,
    leftover := 0#32 }

theorem add_event_boundary_five :
    ((hgslAddEvent 0#32 4#32 1 queuedFive true true = -EINVAL ↔ hgslTs32Later 4#32 5#32 = true) ↔ 4#32 ≠ 5#32) ∧
      drawobjAddTimelineEvent 0#32 1 queuedFive queuedFive true true = -EINVAL := by
  have h := add_event_boundary 0#32 5#32 (by decide) 1 (by decide) queuedFive queuedFive (by decide) (by decide)
  exact ⟨h.1 4#32, h.2.1⟩

/-- The queued timestamp is not later than itself, and it is turned down. -/
theorem queued_timestamp_refused :
    hgslReadTimestamp queuedFive .queued = (0, 5#32) ∧ hgslTs32Later 5#32 5#32 = false ∧
      hgslAddEvent 0#32 5#32 1 queuedFive true true = -EINVAL ∧
      drawobjAddTimelineEvent 0#32 1 queuedFive queuedFive true true = -EINVAL ∧
      drawobjAddSyncTimestamp true 0#32 5#32 5#32 1 queuedFive true true = -EINVAL := by
  decide

end Hgsl
