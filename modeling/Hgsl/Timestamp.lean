import Hgsl.Lib.SerialOrder

set_option autoImplicit false

/-! # Context timestamps

`hgsl_ts32_ge`, the shadow timestamps that the GPU and the driver both write, and
`hgsl_db_next_timestamp`, which every submission path uses to number its submissions. Errors are the
negative errno values of the source. -/

namespace Hgsl

/-! ## Errors -/

def ENOENT : Int := 2
def EINTR : Int := 4
def EAGAIN : Int := 11
def ENOMEM : Int := 12
def EINVAL : Int := 22
def ERANGE : Int := 34
def EPERM : Int := 1
def ETIMEDOUT : Int := 110
def EFAULT : Int := 14
def E2BIG : Int := 7
def ENODEV : Int := 19
def ERESTARTSYS : Int := 512

/-! ## The order of timestamps -/

/-- `hgsl_ts32_ge`: the wrapped difference is below `TIMESTAMP_WINDOW`. -/
def hgslTs32Ge (a b : BitVec 32) : Bool := decide (a - b < 0x80000000#32)

theorem hgslTs32Ge_iff {a b : BitVec 32} : hgslTs32Ge a b = true ↔ Serial.Ge a b := by
  simp [hgslTs32Ge, Serial.Ge, Serial.dist, BitVec.lt_def]

theorem hgslTs32Ge_eq_false_iff {a b : BitVec 32} :
    hgslTs32Ge a b = false ↔ 2 ^ 31 ≤ Serial.dist b a := by
  rw [← Bool.not_eq_true, hgslTs32Ge_iff, Serial.Ge]
  omega

/-- `hgsl_ts64_ge` -/
def hgslTs64Ge (a b : BitVec 64) : Bool := decide (a - b < 0x8000000000000000#64)

/-- `hgsl_ts_ge`: a 32-bit timeline looks at the lower halves. -/
def hgslTsGe (a b : BitVec 64) (is64 : Bool) : Bool :=
  if is64 then hgslTs64Ge a b else hgslTs32Ge (a.setWidth 32) (b.setWidth 32)

/-! ## Shadow timestamps -/

/-- `struct shadow_ts`: the consumed (`sop`) and the retired (`eop`) timestamp. -/
structure ShadowTs where
  sop : BitVec 32
  eop : BitVec 32
  deriving DecidableEq, Repr

/-- `hgsl_check_shadow_timestamp` for `GSL_TIMESTAMP_RETIRED`: `-EINVAL` without shadow memory, else
    whether the timestamp has expired. -/
def hgslCheckShadowTimestamp (shadowTs : Option ShadowTs) (timestamp : BitVec 32) :
    Except Int Bool :=
  match shadowTs with
  | none => .error (-EINVAL)
  | some sh => .ok (hgslTs32Ge sh.eop timestamp)

/-- `set_context_shadow_ts` for both `GSL_TIMESTAMP_CONSUMED` and `GSL_TIMESTAMP_RETIRED`, as the
    driver does when it retires a timestamp itself. -/
def setContextShadowTs (shadowTs : Option ShadowTs) (ts : BitVec 32) : Option ShadowTs :=
  shadowTs.map fun _ => { sop := ts, eop := ts }

/-! ## Numbering submissions -/

/-- `GSL_CONTEXT_FLAG_USER_GENERATED_TS` -/
def GSL_CONTEXT_FLAG_USER_GENERATED_TS : BitVec 32 := 0x00000080#32

/-- `GSL_CONTEXT_FLAG_CLIENT_GENERATED_TS` -/
def GSL_CONTEXT_FLAG_CLIENT_GENERATED_TS : BitVec 32 := 0x80000000#32

/-- `hgsl_db_next_timestamp` on the context's `flags` and `queued_ts`: the timestamp that the
    submission gets, or `-ERANGE`. `timestamp` is what the caller passed in. -/
def hgslDbNextTimestamp (flags queuedTs timestamp : BitVec 32) : Except Int (BitVec 32) :=
  if flags &&& GSL_CONTEXT_FLAG_USER_GENERATED_TS = 0#32 then
    .ok timestamp
  else if flags &&& GSL_CONTEXT_FLAG_CLIENT_GENERATED_TS ≠ 0#32 then
    if hgslTs32Ge queuedTs timestamp then .error (-ERANGE) else .ok timestamp
  else
    -- 0 and ~0 are special values: roll over to 1
    let next := queuedTs + 1#32
    .ok (if next = BitVec.allOnes 32 then 1#32 else next)

/-- The driver or the client numbers the submissions: timestamps do not simply pass through. -/
def TimestampsOrdered (flags : BitVec 32) : Prop :=
  flags &&& GSL_CONTEXT_FLAG_USER_GENERATED_TS ≠ 0#32

instance (flags : BitVec 32) : Decidable (TimestampsOrdered flags) :=
  inferInstanceAs (Decidable (¬ _))

/-- The driver numbers the submissions. -/
def DriverGenerated (flags : BitVec 32) : Prop :=
  flags &&& GSL_CONTEXT_FLAG_USER_GENERATED_TS ≠ 0#32 ∧
    flags &&& GSL_CONTEXT_FLAG_CLIENT_GENERATED_TS = 0#32

instance (flags : BitVec 32) : Decidable (DriverGenerated flags) :=
  inferInstanceAs (Decidable (_ ∧ _))

/-- A timestamp that `hgsl_db_next_timestamp` hands out is ahead of the last queued one, by at most
    half of the circle. -/
theorem hgslDbNextTimestamp_dist {flags queuedTs timestamp ts : BitVec 32}
    (hflags : TimestampsOrdered flags)
    (h : hgslDbNextTimestamp flags queuedTs timestamp = .ok ts) :
    0 < Serial.dist queuedTs ts ∧ Serial.dist queuedTs ts ≤ 2 ^ 31 := by
  unfold hgslDbNextTimestamp at h
  rw [if_neg hflags] at h
  split at h
  · split at h
    · simp at h
    · next hge =>
        obtain rfl := Except.ok.inj h
        rw [Bool.not_eq_true, hgslTs32Ge_eq_false_iff] at hge
        unfold Serial.dist at hge ⊢
        rw [BitVec.toNat_sub] at hge ⊢
        omega
  · obtain rfl := Except.ok.inj h
    unfold Serial.dist
    split
    · next hmax =>
        have hq : queuedTs.toNat = 0xFFFFFFFE := by
          have := congrArg BitVec.toNat hmax
          simp only [BitVec.toNat_add, BitVec.toNat_ofNat, BitVec.toNat_allOnes] at this
          omega
        simp only [BitVec.toNat_sub, BitVec.toNat_ofNat, hq]
        omega
    · simp only [BitVec.toNat_sub, BitVec.toNat_add, BitVec.toNat_ofNat]
      omega

end Hgsl
