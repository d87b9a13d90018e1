import Hgsl.Lib.RefCount
import Hgsl.Lib.Trace
import Hgsl.Timestamp
import Mathlib.Data.List.Nodup
import Mathlib.Logic.Function.Basic

set_option autoImplicit false

/-! # Timeline ids

`hgsl_isync_timeline_create` with every result that `idr_alloc` can have, `hgsl_isync_timeline_destroy`,
`hgsl_isync_fini`, and `hgsl_isync_timeline_get` and `hgsl_isync_timeline_put` around them, for any number
of clients and threads. A section under `isync_timeline_lock` is one step, and so is the call of
`hgsl_isync_timeline_destruct` for a timeline that such a section has taken out of the idr.

The result of `idr_alloc` is stored in an unsigned variable, in which an error code is a large number and
passes for an id. As long as `idr_alloc` succeeds, the ids that were handed out and the entries of the idr
are the same. Left out: the fences and the timestamp of a timeline, names and tracing. -/

namespace Hgsl

/-- Who holds a reference to a timeline: the idr, or whoever is on its way to put it, and the callers of
    `hgsl_isync_timeline_get`. -/
inductive TimelineHolder where
  | registry
  | user (n : Nat)
  deriving DecidableEq, Repr

/-- `struct hgsl_isync_timeline`, as far as its id and its references are concerned. -/
structure HeldTimeline where
  priv : Nat := 0
  id : BitVec 32 := 0#32
  kref : RefCount TimelineHolder := .init .registry
  deriving DecidableEq, Repr

/-- The idr with its timelines. -/
structure TimelineIds where
  /-- `isync_timeline_idr`, in no particular order -/
  idr : List (Nat × Nat) := []
  timeline : Nat → HeldTimeline := fun _ => {}
  /-- out of the idr and about to be destructed -/
  pending : List Nat := []
  /-- history: the number of the next timeline -/
  nextTimeline : Nat := 0
  /-- history: the number of the next reference -/
  nextGet : Nat := 0
  /-- history: the timelines that were freed -/
  freed : List Nat := []
  /-- history: the ids that were handed out with return value 0, and their timelines, until their owner
      destroys them or runs `hgsl_isync_fini` -/
  live : List (BitVec 32 × Nat) := []

/-- What `hgsl_isync_timeline_create` returns, the id that it stores in `*timeline_id` and the state that
    it leaves. -/
structure CreateResult where
  ret : Int
  timelineId : Option (BitVec 32)
  state : TimelineIds

/-- What can happen next. -/
inductive TimelineIdAct where
  /-- `hgsl_isync_timeline_create`; `memory` is the success of its allocation -/
  | create (client : Nat) (memory : Bool) (idrAlloc : Int)
  /-- the section of `hgsl_isync_timeline_destroy` -/
  | destroy (client : Nat) (id : BitVec 32)
  /-- the section of `hgsl_isync_fini` -/
  | fini (client : Nat)
  /-- `hgsl_isync_timeline_destruct` -/
  | destruct (tl : Nat)
  /-- `hgsl_isync_timeline_get` -/
  | get (client : Nat) (id : BitVec 32) (checkOwner : Bool)
  /-- `hgsl_isync_timeline_put` of reference `n` -/
  | put (tl n : Nat)
  deriving DecidableEq, Repr

namespace TimelineIds

/-! ## The functions -/

/-- `idr_find` -/
def idrFind (s : TimelineIds) (id : Nat) : Option Nat :=
  (s.idr.find? fun e => e.1 = id).map Prod.snd

def setTimeline (s : TimelineIds) (tl : Nat) (l : HeldTimeline) : TimelineIds :=
  { s with timeline := Function.update s.timeline tl l }

/-- `hgsl_isync_timeline_get` up to the reference: its argument is an `int`, and `idr_find` takes an
    `unsigned long`. -/
def hgslIsyncTimelineGet (s : TimelineIds) (priv : Nat) (id : BitVec 32) (checkOwner : Bool) :
    Option Nat :=
  match s.idrFind (id.signExtend 64).toNat with
  | none => none
  | some tl =>
    if checkOwner && (s.timeline tl).priv ≠ priv then none
    else if (s.timeline tl).kref.count = 0 then none
    else some tl

/-- `kref_put`, with `hgsl_isync_timeline_release` behind the last reference. -/
def hgslIsyncTimelinePut (s : TimelineIds) (tl : Nat) (h : TimelineHolder) : TimelineIds :=
  let kref := (s.timeline tl).kref.put h
  { s.setTimeline tl { s.timeline tl with kref := kref } with
    freed := if kref.count = 0 then s.freed ++ [tl] else s.freed }

/-- `hgsl_isync_timeline_create` -/
def hgslIsyncTimelineCreate (s : TimelineIds) (client : Nat) (memory : Bool) (idrAlloc : Int) :
    CreateResult :=
  if memory then
    let tl := s.nextTimeline
    let idr := BitVec.ofInt 32 idrAlloc
    let s₁ := { s.setTimeline tl { priv := client } with
      idr := if 0 < idrAlloc then (idrAlloc.toNat, tl) :: s.idr else s.idr
      nextTimeline := tl + 1 }
    if 0#32 < idr then
      { ret := 0
        timelineId := some idr
        state := { s₁.setTimeline tl { priv := client, id := idr } with live := (idr, tl) :: s.live } }
    else
      { ret := -EINVAL
        timelineId := none
        state := { s₁ with freed := s.freed ++ [tl] } }
  else { ret := -ENOMEM, timelineId := none, state := s }

/-- The ids of a client that it has given up. -/
def endLive (s : TimelineIds) (client : Nat) (ended : BitVec 32 → Bool) : List (BitVec 32 × Nat) :=
  s.live.filter fun e => !((s.timeline e.2).priv == client && ended e.1)

/-- The section of `hgsl_isync_timeline_destroy`. -/
def hgslIsyncTimelineDestroy (s : TimelineIds) (client : Nat) (id : BitVec 32) : TimelineIds :=
  let s₁ := { s with live := s.endLive client (· == id) }
  match s.idrFind id.toNat with
  | none => s₁
  | some tl =>
    let l := s.timeline tl
    if l.priv = client then
      { s₁.setTimeline tl { l with id := 0#32 } with
        idr := s.idr.filter fun e => e.1 ≠ l.id.toNat
        pending := tl :: s.pending }
    else s₁

/-- The section of `hgsl_isync_fini`. -/
def hgslIsyncFini (s : TimelineIds) (client : Nat) : TimelineIds :=
  let isOwn := fun e : Nat × Nat => (s.timeline e.2).priv = client
  { s with
    idr := s.idr.filter fun e => ¬isOwn e
    pending := (s.idr.filter fun e => isOwn e).map Prod.snd ++ s.pending
    live := s.endLive client fun _ => true }

/-! ## The steps -/

/-- `idr_alloc` with start 1 and no end returns an `int`: a free id, or an error code. -/
def idrAllocCan (s : TimelineIds) (idrAlloc : Int) : Bool :=
  (-2 ^ 31 ≤ idrAlloc && idrAlloc < 0) ||
    (0 < idrAlloc && idrAlloc < 2 ^ 31 && (s.idrFind idrAlloc.toNat).isNone)

/-- One step. -/
def step (s : TimelineIds) : TimelineIdAct → Option TimelineIds
  | .create client memory idrAlloc =>
    if !memory || s.idrAllocCan idrAlloc then
      some (s.hgslIsyncTimelineCreate client memory idrAlloc).state
    else none
  | .destroy client id => some (s.hgslIsyncTimelineDestroy client id)
  | .fini client => some (s.hgslIsyncFini client)
  | .destruct tl =>
    if tl ∈ s.pending then
      some { s.hgslIsyncTimelinePut tl .registry with pending := s.pending.erase tl }
    else none
  | .get client id checkOwner =>
    match s.hgslIsyncTimelineGet client id checkOwner with
    | none => some s
    | some tl =>
      let l := s.timeline tl
      some { s.setTimeline tl { l with kref := l.kref.get (.user s.nextGet) } with
        nextGet := s.nextGet + 1 }
  | .put tl n =>
    if .user n ∈ (s.timeline tl).kref.holders then some (s.hgslIsyncTimelinePut tl (.user n)) else none

/-! ## What is promised -/

/-- A create returns 0 exactly if the id that it reports resolves to its timeline; otherwise it leaves the
    registry as it was, and its timeline, if it got as far as to have one, is freed. -/
structure CreateFaithful (s : TimelineIds) (client : Nat) (r : CreateResult) : Prop where
  resolves : r.ret = 0 ↔ ∃ id, r.timelineId = some id ∧
    r.state.hgslIsyncTimelineGet client id true = some s.nextTimeline
  error : r.ret ≠ 0 → r.state.idr = s.idr ∧ r.state.live = s.live ∧
    (∀ tl < s.nextTimeline, r.state.timeline tl = s.timeline tl) ∧
    ∀ tl, s.nextTimeline ≤ tl → tl < r.state.nextTimeline → tl ∈ r.state.freed

/-- Every id that was handed out, and not given up by its owner since, stands for its timeline, and for
    no other one that is live. -/
structure Faithful (s : TimelineIds) : Prop where
  resolves : ∀ e ∈ s.live, ∀ client, s.hgslIsyncTimelineGet client e.1 false = some e.2
  resolvesOwn : ∀ e ∈ s.live, s.hgslIsyncTimelineGet (s.timeline e.2).priv e.1 true = some e.2
  distinct : ∀ e ∈ s.live, ∀ e' ∈ s.live, e.1 = e'.1 → e.2 = e'.2

/-- The owner of a live id gives it up. -/
def GivesUp (s : TimelineIds) (e : BitVec 32 × Nat) : TimelineIdAct → Prop
  | .destroy client id => (s.timeline e.2).priv = client ∧ e.1 = id
  | .fini client => (s.timeline e.2).priv = client
  | _ => False

/-- The condition: `idr_alloc` succeeds. -/
def idrAllocOk : TimelineIdAct → Bool
  | .create _ memory idrAlloc => !memory || 0 < idrAlloc
  | _ => true

/-! ## Invariant -/

variable {s s' : TimelineIds}

/-- The timelines whose first reference has not been put: those of the idr, and those that a section has
    taken out of it. -/
def owned (s : TimelineIds) : List Nat := s.idr.map Prod.snd ++ s.pending

/-- The ids that were handed out are entries of the idr, and what keeps a timeline is the reference that
    it was created with. -/
structure Registered (s : TimelineIds) : Prop where
  key : ∀ e ∈ s.idr, e.1 < 2 ^ 31 ∧ (s.timeline e.2).id.toNat = e.1
  unique : ∀ e ∈ s.idr, ∀ e' ∈ s.idr, e.1 = e'.1 → e = e'
  nodup : s.owned.Nodup
  held : ∀ tl ∈ s.owned, .registry ∈ (s.timeline tl).kref.holders
  lt : ∀ tl ∈ s.owned, tl < s.nextTimeline
  balanced : ∀ tl, (s.timeline tl).kref.Balanced
  live : ∀ e ∈ s.live, (e.1.toNat, e.2) ∈ s.idr

theorem Registered.start : Registered {} where
  key := nofun
  unique := nofun
  nodup := List.nodup_nil
  held := nofun
  lt := nofun
  balanced _ := RefCount.balanced_init _
  live := nofun

theorem mem_owned_of_mem_idr {e : Nat × Nat} (h : e ∈ s.idr) : e.2 ∈ s.owned :=
  List.mem_append_left _ (List.mem_map_of_mem h)

theorem mem_idr_of_idrFind {id tl : Nat} (h : s.idrFind id = some tl) : (id, tl) ∈ s.idr := by
  obtain ⟨e, he, rfl⟩ := Option.map_eq_some_iff.1 h
  have hid : e.1 = id := by simpa using List.find?_some he
  rw [← hid]
  exact List.mem_of_find?_eq_some he

theorem ne_of_idrFind_eq_none {id : Nat} (h : s.idrFind id = none) : ∀ e ∈ s.idr, e.1 ≠ id := by
  simpa [idrFind] using h

theorem Registered.idrFind_eq (h : Registered s) {id tl : Nat} (hmem : (id, tl) ∈ s.idr) :
    s.idrFind id = some tl := by
  cases hfind : s.idrFind id with
  | none => exact absurd rfl (ne_of_idrFind_eq_none hfind _ hmem)
  | some tl' =>
      have heq := h.unique _ (mem_idr_of_idrFind hfind) _ hmem rfl
      rw [(Prod.mk.inj heq).2]

/-- An id of the idr survives the way through an `int`. -/
theorem toNat_signExtend {id : BitVec 32} (h : id.toNat < 2 ^ 31) :
    (id.signExtend 64).toNat = id.toNat := by
  rw [BitVec.toNat_signExtend, BitVec.msb_eq_decide]
  have hmsb : ¬2 ^ 31 ≤ id.toNat := by omega
  simp only [Nat.reduceSub, hmsb, decide_false, Bool.false_eq_true, ↓reduceIte, Nat.add_zero]
  rw [BitVec.toNat_setWidth]
  omega

theorem Registered.get_eq (h : Registered s) {e : BitVec 32 × Nat} (he : e ∈ s.live) {client : Nat}
    {checkOwner : Bool} (howner : checkOwner = true → (s.timeline e.2).priv = client) :
    s.hgslIsyncTimelineGet client e.1 checkOwner = some e.2 := by
  have hmem := h.live e he
  have hcount := (h.balanced e.2).count_ne_zero (h.held _ (mem_owned_of_mem_idr hmem))
  unfold hgslIsyncTimelineGet
  rw [toNat_signExtend (h.key _ hmem).1, h.idrFind_eq hmem]
  simp only [hcount, ↓reduceIte]
  rw [if_neg]
  simpa using howner

theorem Registered.faithful (h : Registered s) : Faithful s where
  resolves e he client := h.get_eq he nofun
  resolvesOwn e he := h.get_eq he fun _ => rfl
  distinct e he e' he' hid := by
    have heq := h.unique _ (h.live e he) _ (h.live e' he') (by rw [hid])
    exact (Prod.mk.inj heq).2

/-! ## Steps -/

/-- A timeline keeps its id as long as it is in the idr, and its first reference as long as it is owned. -/
theorem Registered.setTimeline (h : Registered s) {tl : Nat} {l : HeldTimeline}
    (hid : (∃ e ∈ s.idr, e.2 = tl) → l.id = (s.timeline tl).id) (hbalanced : l.kref.Balanced)
    (hheld : tl ∈ s.owned → .registry ∈ l.kref.holders) : Registered (s.setTimeline tl l) where
  key e he := by
    by_cases htl : e.2 = tl
    · simpa [TimelineIds.setTimeline, htl, hid ⟨e, he, htl⟩] using h.key e he
    · simpa [TimelineIds.setTimeline, htl] using h.key e he
  unique := h.unique
  nodup := h.nodup
  held tl' htl' := by
    by_cases htl : tl' = tl
    · simpa [TimelineIds.setTimeline, htl] using hheld (htl ▸ htl')
    · simpa [TimelineIds.setTimeline, htl] using h.held tl' htl'
  lt := h.lt
  balanced tl' := by
    by_cases htl : tl' = tl
    · simpa [TimelineIds.setTimeline, htl] using hbalanced
    · simpa [TimelineIds.setTimeline, htl] using h.balanced tl'
  live := h.live

/-- Entries may leave the idr as long as they are not live. -/
theorem Registered.release (h : Registered s) {idr : List (Nat × Nat)} {pending : List Nat}
    {live : List (BitVec 32 × Nat)} (hidr : ∀ e ∈ idr, e ∈ s.idr)
    (hnodup : (idr.map Prod.snd ++ pending).Nodup)
    (howned : ∀ tl ∈ idr.map Prod.snd ++ pending, tl ∈ s.owned)
    (hlive : ∀ e ∈ live, (e.1.toNat, e.2) ∈ idr) :
    Registered { s with idr := idr, pending := pending, live := live } where
  key e he := h.key e (hidr e he)
  unique e he e' he' := h.unique e (hidr e he) e' (hidr e' he')
  nodup := hnodup
  held tl htl := h.held tl (howned tl htl)
  lt tl htl := h.lt tl (howned tl htl)
  balanced := h.balanced
  live := hlive

theorem Registered.put (h : Registered s) {tl : Nat} {x : TimelineHolder}
    (hmem : x ∈ (s.timeline tl).kref.holders) (hx : tl ∈ s.owned → x ≠ .registry) :
    Registered (s.hgslIsyncTimelinePut tl x) := by
  have hset : Registered (s.setTimeline tl
      { s.timeline tl with kref := (s.timeline tl).kref.put x }) := by
    refine h.setTimeline (fun _ => rfl) ((h.balanced tl).put hmem) ?_
    intro htl
    exact (RefCount.mem_put_of_ne (hx htl).symm).2 (h.held tl htl)
  exact { hset with }

theorem Registered.get (h : Registered s) (tl n : Nat) :
    Registered (s.setTimeline tl
      { s.timeline tl with kref := (s.timeline tl).kref.get (.user n) }) := by
  refine h.setTimeline (fun _ => rfl) ((h.balanced tl).get _) ?_
  intro htl
  exact List.mem_cons_of_mem _ (h.held tl htl)

/-- `idr_remove` of the id of a timeline takes out its entry. -/
theorem Registered.idrRemove_perm (h : Registered s) {id tl : Nat} (hentry : (id, tl) ∈ s.idr) :
    ((s.idr.filter fun e => e.1 ≠ id).map Prod.snd ++ tl :: s.pending).Perm s.owned := by
  have hnodup : s.idr.Nodup := List.Nodup.of_map _ (List.nodup_append.1 h.nodup).1
  have hfilter : (s.idr.filter fun e => e.1 ≠ id) = s.idr.erase (id, tl) := by
    rw [hnodup.erase_eq_filter]
    refine List.filter_congr ?_
    intro e he
    by_cases hid : e.1 = id
    · simp [h.unique e he _ hentry hid]
    · simp [hid, show e ≠ (id, tl) from fun heq => hid (congrArg Prod.fst heq)]
  have hsplit := (List.perm_cons_erase hentry).map Prod.snd
  rw [hfilter]
  exact List.perm_middle.trans (hsplit.symm.append_right s.pending)

theorem Registered.destroy (h : Registered s) (client : Nat) (id : BitVec 32) :
    Registered (s.hgslIsyncTimelineDestroy client id) := by
  have hlive : ∀ e ∈ s.endLive client (· == id), e ∈ s.live ∧
      ((s.timeline e.2).priv = client → e.1 ≠ id) := by
    intro e he
    simpa [endLive, imp_iff_not_or] using he
  have hkeep : Registered { s with live := s.endLive client (· == id) } :=
    { h with live := fun e he => h.live e (hlive e he).1 }
  unfold hgslIsyncTimelineDestroy
  dsimp only
  split
  · exact hkeep
  · next tl hfind =>
      split
      · next howner =>
          have hentry := mem_idr_of_idrFind hfind
          have hid : (s.timeline tl).id = id := BitVec.eq_of_toNat_eq (h.key _ hentry).2
          have hperm := h.idrRemove_perm hentry
          have hlive' : ∀ e ∈ s.endLive client (· == id),
              (e.1.toNat, e.2) ∈ s.idr.filter fun e => e.1 ≠ id.toNat := by
            intro e he
            obtain ⟨he, hother⟩ := hlive e he
            have hreg := h.live e he
            refine List.mem_filter.2 ⟨hreg, ?_⟩
            simp only [ne_eq, decide_not, Bool.not_eq_true', decide_eq_false_iff_not]
            intro hkey
            obtain ⟨hsame, htl⟩ := Prod.mk.inj (h.unique _ hreg _ hentry hkey)
            exact hother (by rw [htl]; exact howner) (BitVec.eq_of_toNat_eq hsame)
          have hrelease := h.release (fun e he => List.mem_of_mem_filter he)
            (hperm.nodup_iff.2 h.nodup) (fun _ => hperm.mem_iff.1) hlive'
          rw [hid]
          refine hrelease.setTimeline ?_ (h.balanced tl) fun _ => h.held tl (mem_owned_of_mem_idr hentry)
          -- no entry is left
          rintro ⟨e, he, rfl⟩
          obtain ⟨he, hne⟩ := List.mem_filter.1 he
          simp [← hid, (h.key e he).2] at hne
      · exact hkeep

theorem Registered.fini (h : Registered s) (client : Nat) : Registered (s.hgslIsyncFini client) := by
  have hperm : (((s.idr.filter fun e => ¬(s.timeline e.2).priv = client).map Prod.snd) ++
      ((s.idr.filter fun e => (s.timeline e.2).priv = client).map Prod.snd ++ s.pending)).Perm
        s.owned := by
    have hsplit := List.filter_append_perm
      (fun e : Nat × Nat => decide ((s.timeline e.2).priv = client)) s.idr
    have hmap := (hsplit.map Prod.snd).append_right s.pending
    rw [List.map_append] at hmap
    refine List.Perm.trans ?_ hmap
    rw [← List.append_assoc]
    refine List.Perm.append_right _ ?_
    simpa using List.perm_append_comm
  refine h.release (fun e he => List.mem_of_mem_filter he) (hperm.nodup_iff.2 h.nodup)
    (fun _ => hperm.mem_iff.1) ?_
  intro e he
  have hlive : e ∈ s.live ∧ (s.timeline e.2).priv ≠ client := by
    simpa [endLive] using he
  exact List.mem_filter.2 ⟨h.live e hlive.1, by simpa using hlive.2⟩

/-- Whoever has taken a timeline out of the idr puts its first reference. -/
theorem Registered.destruct (h : Registered s) {tl : Nat} (hmem : tl ∈ s.pending) :
    Registered { s.hgslIsyncTimelinePut tl .registry with pending := s.pending.erase tl } := by
  have hperm : (tl :: (s.idr.map Prod.snd ++ s.pending.erase tl)).Perm s.owned :=
    List.perm_middle.symm.trans ((List.perm_cons_erase hmem).symm.append_left _)
  have hnodup := List.nodup_cons.1 (hperm.nodup_iff.2 h.nodup)
  have hrelease := h.release (fun _ he => he) hnodup.2
    (fun _ htl => hperm.mem_iff.1 (List.mem_cons_of_mem _ htl)) h.live
  have hput := hrelease.put (h.held tl (List.mem_append_right _ hmem)) fun htl => absurd htl hnodup.1
  exact { hput with }

/-- The number of a successful `idr_alloc` survives the way through an unsigned variable. -/
theorem idrAlloc_ok {idrAlloc : Int} (hpos : 0 < idrAlloc) (hcan : s.idrAllocCan idrAlloc = true) :
    (BitVec.ofInt 32 idrAlloc).toNat = idrAlloc.toNat ∧ idrAlloc.toNat < 2 ^ 31 ∧
      s.idrFind idrAlloc.toNat = none := by
  have hor : ¬idrAlloc < 0 := by omega
  simp only [idrAllocCan, hor, decide_false, Bool.and_false, Bool.false_or, Bool.and_eq_true,
    decide_eq_true_eq, Option.isNone_iff_eq_none] at hcan
  obtain ⟨⟨-, hlt⟩, hfree⟩ := hcan
  refine ⟨?_, by omega, hfree⟩
  rw [BitVec.toNat_ofInt]
  omega

/-- What a create with a successful `idr_alloc` comes to. -/
theorem create_ok {client : Nat} {idrAlloc : Int} (hpos : 0 < idrAlloc)
    (hcan : s.idrAllocCan idrAlloc = true) :
    s.hgslIsyncTimelineCreate client true idrAlloc =
      { ret := 0
        timelineId := some (BitVec.ofInt 32 idrAlloc)
        state := { s.setTimeline s.nextTimeline { priv := client, id := BitVec.ofInt 32 idrAlloc } with
          idr := (idrAlloc.toNat, s.nextTimeline) :: s.idr
          nextTimeline := s.nextTimeline + 1
          live := (BitVec.ofInt 32 idrAlloc, s.nextTimeline) :: s.live } } := by
  obtain ⟨htoNat, -, -⟩ := idrAlloc_ok hpos hcan
  have hidr : 0#32 < BitVec.ofInt 32 idrAlloc := by
    rw [BitVec.lt_def, htoNat]
    simp only [BitVec.toNat_ofNat, Nat.zero_mod]
    omega
  simp [hgslIsyncTimelineCreate, hidr, hpos, TimelineIds.setTimeline]

/-- **A successful `idr_alloc`.** The number that is stored is the key of the new entry. -/
theorem Registered.create (h : Registered s) (client : Nat) {idrAlloc : Int} (hpos : 0 < idrAlloc)
    (hcan : s.idrAllocCan idrAlloc = true) :
    Registered (s.hgslIsyncTimelineCreate client true idrAlloc).state := by
  obtain ⟨htoNat, hlt, hfree⟩ := idrAlloc_ok hpos hcan
  rw [create_ok hpos hcan]
  have hold : ∀ tl ∈ s.owned, tl ≠ s.nextTimeline := fun tl htl => (h.lt tl htl).ne
  have hnew : ∀ e ∈ s.idr, e.1 ≠ idrAlloc.toNat := ne_of_idrFind_eq_none hfree
  refine ⟨?_, ?_, ?_, ?_, ?_, ?_, ?_⟩
  · intro e he
    rcases List.mem_cons.1 he with rfl | he
    · simpa [TimelineIds.setTimeline, htoNat] using hlt
    · simpa [TimelineIds.setTimeline, hold _ (mem_owned_of_mem_idr he)] using h.key e he
  · intro e he e' he' hkey
    rcases List.mem_cons.1 he with rfl | he <;> rcases List.mem_cons.1 he' with rfl | he'
    · rfl
    · exact absurd hkey.symm (hnew e' he')
    · exact absurd hkey (hnew e he)
    · exact h.unique e he e' he' hkey
  · exact List.nodup_cons.2 ⟨fun hmem => hold _ hmem rfl, h.nodup⟩
  · intro tl htl
    rcases List.mem_cons.1 htl with rfl | htl
    · simp [TimelineIds.setTimeline, RefCount.init]
    · simpa [TimelineIds.setTimeline, hold tl htl] using h.held tl htl
  · intro tl htl
    rcases List.mem_cons.1 htl with rfl | htl
    · exact Nat.lt_succ_self _
    · exact Nat.lt_succ_of_lt (h.lt tl htl)
  · intro tl
    by_cases htl : tl = s.nextTimeline
    · simpa [TimelineIds.setTimeline, htl] using RefCount.balanced_init TimelineHolder.registry
    · simpa [TimelineIds.setTimeline, htl] using h.balanced tl
  · intro e he
    rcases List.mem_cons.1 he with rfl | he
    · rw [htoNat]
      exact List.mem_cons_self
    · exact List.mem_cons_of_mem _ (h.live e he)

/-- **Step lemma.** -/
theorem Registered.step {a : TimelineIdAct} (h : Registered s)
    (hstep : Trace.guarded (fun _ a => idrAllocOk a = true) step s a = some s') : Registered s' := by
  obtain ⟨hok, hstep⟩ := Trace.guarded_eq_some.1 hstep
  cases a with
  | create client memory idrAlloc =>
      simp only [TimelineIds.step] at hstep
      split at hstep
      · next hcan =>
          obtain rfl := Option.some.inj hstep
          cases memory with
          | false => exact h
          | true => exact h.create client (by simpa [idrAllocOk] using hok) (by simpa using hcan)
      · cases hstep
  | destroy client id =>
      obtain rfl := Option.some.inj hstep
      exact h.destroy client id
  | fini client =>
      obtain rfl := Option.some.inj hstep
      exact h.fini client
  | destruct tl =>
      simp only [TimelineIds.step] at hstep
      split at hstep
      · next hpending =>
          obtain rfl := Option.some.inj hstep
          exact h.destruct hpending
      · cases hstep
  | get client id checkOwner =>
      simp only [TimelineIds.step] at hstep
      split at hstep
      · obtain rfl := Option.some.inj hstep
        exact h
      · next tl _ =>
          obtain rfl := Option.some.inj hstep
          exact { h.get tl s.nextGet with }
  | put tl n =>
      simp only [TimelineIds.step] at hstep
      split at hstep
      · next hmem =>
          obtain rfl := Option.some.inj hstep
          exact h.put hmem fun _ => nofun
      · cases hstep

/-! ## Creating -/

/-- **A failing `idr_alloc`.** The call hands out a number that names nothing and keeps its timeline. -/
theorem create_failed (client : Nat) {idrAlloc : Int} (hneg : idrAlloc ≤ 0)
    (hcan : s.idrAllocCan idrAlloc = true) :
    (s.hgslIsyncTimelineCreate client true idrAlloc).ret = 0 ∧
      (s.hgslIsyncTimelineCreate client true idrAlloc).state.idr = s.idr := by
  have hrange : -2 ^ 31 ≤ idrAlloc ∧ idrAlloc < 0 := by
    have hnot : ¬0 < idrAlloc := by omega
    simpa [idrAllocCan, hnot] using hcan
  have hidr : 0#32 < BitVec.ofInt 32 idrAlloc := by
    rw [BitVec.lt_def, BitVec.toNat_ofInt]
    simp only [BitVec.toNat_ofNat, Nat.zero_mod]
    omega
  have hnot : ¬0 < idrAlloc := by omega
  simp [hgslIsyncTimelineCreate, hidr, hnot, TimelineIds.setTimeline]

/-- A create does what it says exactly if it has no memory or `idr_alloc` succeeds. -/
theorem Registered.createFaithful_iff (h : Registered s) (client : Nat) {memory : Bool} {idrAlloc : Int}
    (hcan : memory = true → s.idrAllocCan idrAlloc = true) :
    CreateFaithful s client (s.hgslIsyncTimelineCreate client memory idrAlloc) ↔
      idrAllocOk (.create client memory idrAlloc) = true := by
  cases memory with
  | false =>
      refine iff_of_true ⟨by simp [hgslIsyncTimelineCreate, ENOMEM], ?_⟩ rfl
      intro _
      refine ⟨rfl, rfl, fun _ _ => rfl, ?_⟩
      intro tl hle hlt
      exact absurd hlt (Nat.not_lt.2 hle)
  | true =>
      have hcan := hcan rfl
      simp only [idrAllocOk, Bool.not_true, Bool.false_or, decide_eq_true_eq]
      constructor
      · intro hfaithful
        by_contra hnot
        obtain ⟨hret, hidr⟩ := create_failed client (by omega) hcan
        obtain ⟨id, -, hget⟩ := hfaithful.resolves.1 hret
        -- the timeline is not in the idr
        unfold hgslIsyncTimelineGet at hget
        split at hget
        · cases hget
        · next tl hfind =>
            have hmem := mem_idr_of_idrFind hfind
            rw [hidr] at hmem
            have htl : tl = s.nextTimeline := by
              split_ifs at hget
              exact Option.some.inj hget
            exact (h.lt _ (mem_owned_of_mem_idr hmem)).ne htl
      · intro hpos
        have hcreate := h.create client hpos hcan
        rw [create_ok hpos hcan] at hcreate ⊢
        refine ⟨iff_of_true rfl ⟨_, rfl, hcreate.get_eq List.mem_cons_self fun _ => ?_⟩, nofun⟩
        simp [TimelineIds.setTimeline]

/-- Only its owner ends the life of an id. -/
theorem givesUp_of_step {a : TimelineIdAct} (hstep : s.step a = some s') {e : BitVec 32 × Nat}
    (he : e ∈ s.live) (hnot : e ∉ s'.live) : s.GivesUp e a := by
  cases a with
  | create client memory idrAlloc =>
      simp only [TimelineIds.step] at hstep
      split at hstep
      · obtain rfl := Option.some.inj hstep
        refine absurd ?_ hnot
        unfold hgslIsyncTimelineCreate
        dsimp only
        split_ifs <;> simp [he, TimelineIds.setTimeline]
      · cases hstep
  | destroy client id =>
      obtain rfl := Option.some.inj hstep
      have hlive : (s.hgslIsyncTimelineDestroy client id).live = s.endLive client (· == id) := by
        unfold hgslIsyncTimelineDestroy
        dsimp only
        split
        · rfl
        · split <;> rfl
      rw [hlive] at hnot
      simpa [GivesUp, endLive, he] using hnot
  | fini client =>
      obtain rfl := Option.some.inj hstep
      simpa [GivesUp, hgslIsyncFini, endLive, he] using hnot
  | destruct tl =>
      simp only [TimelineIds.step] at hstep
      split at hstep
      · obtain rfl := Option.some.inj hstep
        exact absurd he hnot
      · cases hstep
  | get client id checkOwner =>
      simp only [TimelineIds.step] at hstep
      split at hstep <;> obtain rfl := Option.some.inj hstep <;> exact absurd he hnot
  | put tl n =>
      simp only [TimelineIds.step] at hstep
      split at hstep
      · obtain rfl := Option.some.inj hstep
        exact absurd he hnot
      · cases hstep

/-! ## Runs -/

/-- In every run whose creates have an `idr_alloc` that succeeds, the ids that were handed out stand for
    their timelines until their owners give them up, and the next create does what it says exactly if its
    `idr_alloc` succeeds as well. -/
theorem faithful_of_idrAllocOk (as : List TimelineIdAct) (s : TimelineIds)
    (hrun : Trace.exec (Trace.guarded (fun _ a => idrAllocOk a = true) step) {} as = some s) :
    Faithful s ∧
      (∀ client memory idrAlloc, (memory = true → s.idrAllocCan idrAlloc = true) →
        (CreateFaithful s client (s.hgslIsyncTimelineCreate client memory idrAlloc) ↔
          idrAllocOk (.create client memory idrAlloc) = true)) ∧
      ∀ a s', s.step a = some s' → ∀ e ∈ s.live, e ∉ s'.live → s.GivesUp e a := by
  have hreg : Registered s := Trace.exec_invariant (fun _ _ _ h hstep => h.step hstep)
    Registered.start hrun
  exact ⟨hreg.faithful, fun client _ _ hcan => hreg.createFaithful_iff client hcan,
    fun _ _ hstep _ he hnot => givesUp_of_step hstep he hnot⟩

/-- Two clients create timelines, one of them is used while it is destroyed, and its id is given to the
    next one. -/
def reuseRun : List TimelineIdAct :=
  [.create 1 true 1, .create 2 true 2, .get 2 1#32 false, .destroy 1 1#32, .destruct 0, .create 2 true 1,
    .put 0 0]

theorem faithful_of_idrAllocOk_reuseRun :
    ∃ s, Trace.exec (Trace.guarded (fun _ a => idrAllocOk a = true) step) {} reuseRun = some s ∧
      s.live = [(1#32, 2), (2#32, 1)] ∧ s.freed = [0] ∧ Faithful s := by
  have heval : (Trace.exec (Trace.guarded (fun _ a => idrAllocOk a = true) step) {} reuseRun).map
      (fun s => (s.live, s.freed)) = some ([(1#32, 2), (2#32, 1)], [0]) := by
    decide +kernel
  obtain ⟨s, hs, heq⟩ := Option.map_eq_some_iff.1 heval
  obtain ⟨hlive, hfreed⟩ := Prod.mk.inj heq
  exact ⟨s, hs, hlive, hfreed, (faithful_of_idrAllocOk _ s hs).1⟩

/-- `idr_alloc` fails with `-ENOMEM` in two creates of one client. Both return 0 and the id 0xfffffff4,
    which names nothing, and neither timeline is freed. -/
theorem failed_create_hands_out_id :
    ∃ s, Trace.exec step {} [.create 1 true (-ENOMEM), .create 1 true (-ENOMEM)] = some s ∧
      s.live = [(0xfffffff4#32, 1), (0xfffffff4#32, 0)] ∧
      s.hgslIsyncTimelineGet 1 0xfffffff4#32 false = none ∧ s.idr = [] ∧ s.freed = [] ∧
      ¬Faithful s := by
  have heval : (Trace.exec step {} [.create 1 true (-ENOMEM), .create 1 true (-ENOMEM)]).map
      (fun s => (s.live, s.hgslIsyncTimelineGet 1 0xfffffff4#32 false, s.idr, s.freed)) =
      some ([(0xfffffff4#32, 1), (0xfffffff4#32, 0)], none, [], []) := by
    decide +kernel
  obtain ⟨s, hs, heq⟩ := Option.map_eq_some_iff.1 heval
  simp only [Prod.mk.injEq] at heq
  obtain ⟨hlive, hget, hidr, hfreed⟩ := heq
  refine ⟨s, hs, hlive, hget, hidr, hfreed, ?_⟩
  intro hfaithful
  have hdistinct := hfaithful.distinct (0xfffffff4#32, 1) (by simp [hlive]) (0xfffffff4#32, 0)
    (by simp [hlive]) rfl
  simp at hdistinct

end TimelineIds

end Hgsl
