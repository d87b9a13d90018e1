import Hgsl.DrawQueue.Ownership

set_option autoImplicit false

/-! # Markers keep context time linear

The driver writes `eop` next to the GPU: when it retires a marker at queueing or at dispatch. The
accepted commands and markers are at any time the retired ones followed by those in flight, the one
that the dispatcher holds, and the queued ones, with timestamps that form a chain from `eop` to
`queued_ts`; so whoever writes `eop` retires the first of those left. -/

namespace Hgsl

namespace QueueState

variable {s s' : QueueState}

/-- The retired timestamp in shadow memory. -/
def eop (s : QueueState) : BitVec 32 :=
  match s.shadowTs with
  | some sh => sh.eop
  | none => 0#32

/-- The accepted commands and markers that are not retired: in flight, held by the dispatcher, or
    queued. -/
def outstanding (s : QueueState) : List Nat :=
  s.gpu ++ s.dispatcher.inHand ++ s.fifo.filter fun o => (s.obj o).isStamped

/-- The timestamps of some objects. -/
def stamps (s : QueueState) (os : List Nat) : List (BitVec 32) :=
  os.map fun o => (s.obj o).timestamp

/-- The chain of timestamps of a context. -/
structure Linear (s : QueueState) : Prop where
  flags : TimestampsOrdered s.flags
  shadow : s.shadowTs.isSome = true
  stamped_eq : s.stamped = s.retired ++ s.outstanding
  chain : (s.eop :: s.stamps s.outstanding).IsChain Serial.Next
  last : (s.stamps s.outstanding).getLastD s.eop = s.queuedTs
  markers : s.outstanding.IsChain fun x y =>
    (s.obj y).type = .marker → (s.obj y).markerTimestamp = (s.obj x).timestamp
  hand_stamped : ∀ o ∈ s.dispatcher.inHand, (s.obj o).isStamped = true

/-- The timestamps that are outstanding before a step or accepted in it span less than half of the
    circle, counted from `eop`. -/
def WindowOk (s s' : QueueState) : Prop :=
  Serial.Spans (s.eop :: s'.stamps (s'.stamped.drop s.retired.length))

instance (s s' : QueueState) : Decidable (WindowOk s s') := by unfold WindowOk; infer_instance

theorem checkTimestamp_ge {ts : BitVec 32} (h : s.checkTimestamp ts = true) :
    Serial.Ge s.eop ts := by
  unfold checkTimestamp hgslCheckShadowTimestamp at h
  unfold eop
  cases hsh : s.shadowTs with
  | none => simp [hsh] at h
  | some sh =>
      simp only [hsh] at h
      exact hgslTs32Ge_iff.1 h

theorem stamps_congr {os : List Nat} (h : ∀ o ∈ os, (s'.obj o).timestamp = (s.obj o).timestamp) :
    s'.stamps os = s.stamps os :=
  List.map_congr_left h

theorem isStamped_congr {o : Nat} (h : (s'.obj o).type = (s.obj o).type) :
    (s'.obj o).isStamped = (s.obj o).isStamped := by
  rw [Drawobj.isStamped, Drawobj.isStamped, h]

/-! ## Steps that leave the chain alone -/

/-- What a step may change in objects that are accepted. -/
structure Keeps (s s' : QueueState) : Prop where
  type : ∀ o ∈ s.outstanding, (s'.obj o).type = (s.obj o).type
  timestamp : ∀ o ∈ s.outstanding, (s'.obj o).timestamp = (s.obj o).timestamp
  marker : ∀ o ∈ s.outstanding, (s'.obj o).markerTimestamp = (s.obj o).markerTimestamp

theorem Keeps.of_eq (h : s'.obj = s.obj) : Keeps s s' := by
  refine ⟨?_, ?_, ?_⟩ <;> intro o _ <;> rw [h]

theorem Linear.congr (h : Linear s) (hkeep : Keeps s s') (hflags : s'.flags = s.flags)
    (hshadow : s'.shadowTs = s.shadowTs) (hqueued : s'.queuedTs = s.queuedTs)
    (hstamped : s'.stamped = s.stamped) (hretired : s'.retired = s.retired)
    (hout : s'.outstanding = s.outstanding)
    (hhand : ∀ o ∈ s'.dispatcher.inHand, (s'.obj o).isStamped = true) : Linear s' := by
  have heop : s'.eop = s.eop := by rw [eop, eop, hshadow]
  have hstamps : s'.stamps s'.outstanding = s.stamps s.outstanding := by
    rw [hout]
    exact stamps_congr hkeep.timestamp
  refine ⟨hflags ▸ h.flags, hshadow ▸ h.shadow, ?_, ?_, ?_, ?_, hhand⟩
  · rw [hstamped, hretired, hout, h.stamped_eq]
  · rw [heop, hstamps]
    exact h.chain
  · rw [heop, hstamps, hqueued]
    exact h.last
  · rw [hout]
    refine h.markers.imp_of_mem_imp ?_
    intro x y hx hy hxy hmarker
    rw [hkeep.marker y hy, hkeep.timestamp x hx]
    exact hxy (hkeep.type y hy ▸ hmarker)

/-- The timestamps ahead of `eop`, in a state that has retired what `s` has retired. -/
theorem Linear.ahead (h : Linear s') (heop : s'.eop = s.eop) (hretired : s'.retired = s.retired)
    (hwindow : WindowOk s s') : Serial.Ahead s'.eop (s'.stamps s'.outstanding) := by
  unfold WindowOk at hwindow
  rw [h.stamped_eq, hretired, List.drop_left, ← heop] at hwindow
  exact hwindow.ahead h.chain

/-! ## Retiring the first -/

/-- Whoever retires the first outstanding object moves `eop` forward to its timestamp. -/
theorem Linear.retire_first (h : Linear s) {o : Nat} {rest : List Nat}
    (hahead : Serial.Ahead s.eop (s.stamps s.outstanding)) (hout : s.outstanding = o :: rest)
    (hkeep : Keeps s s') (hflags : s'.flags = s.flags) (hshadow : s'.shadowTs.isSome = true)
    (heop : s'.eop = (s.obj o).timestamp) (hqueued : s'.queuedTs = s.queuedTs)
    (hstamped : s'.stamped = s.stamped) (hretired : s'.retired = s.retired ++ [o])
    (hout' : s'.outstanding = rest)
    (hhand : ∀ o ∈ s'.dispatcher.inHand, (s'.obj o).isStamped = true) :
    Linear s' ∧ Serial.Ahead s'.eop (s'.stamps s'.outstanding) ∧ Serial.Ge s'.eop s.eop := by
  have hrest : ∀ x ∈ rest, x ∈ s.outstanding := fun x hx => hout ▸ List.mem_cons_of_mem o hx
  have hstamps : s'.stamps s'.outstanding = s.stamps rest := by
    rw [hout']
    exact stamps_congr fun x hx => hkeep.timestamp x (hrest x hx)
  have hfirst : s.stamps s.outstanding = (s.obj o).timestamp :: s.stamps rest := by
    rw [hout]
    rfl
  have hchain := h.chain
  have hlast := h.last
  have hmarkers := h.markers
  rw [hfirst] at hchain hlast hahead
  refine ⟨⟨hflags ▸ h.flags, hshadow, ?_, ?_, ?_, ?_, hhand⟩, ?_, ?_⟩
  · rw [hstamped, hretired, hout', h.stamped_eq, hout, List.append_assoc, List.singleton_append]
  · rw [heop, hstamps]
    exact hchain.tail
  · rw [heop, hstamps, hqueued, ← hlast, List.getLastD_cons]
  · rw [hout']
    rw [hout] at hmarkers
    refine hmarkers.tail.imp_of_mem_imp ?_
    intro x y hx hy hxy hmarker
    rw [hkeep.marker y (hrest y hy), hkeep.timestamp x (hrest x hx)]
    exact hxy (hkeep.type y (hrest y hy) ▸ hmarker)
  · rw [heop, hstamps]
    exact hahead.tail
  · rw [heop]
    exact hahead.ge List.mem_cons_self

/-! ## Queueing -/

theorem getLast?_chain (a : BitVec 32) (l : List (BitVec 32)) :
    (a :: l).getLast? = some (l.getLastD a) := by
  rw [List.getLast?_cons, List.getLastD_eq_getLast?]

/-- A new timestamp extends the chain. -/
theorem Linear.chain_append (h : Linear s) {ts : BitVec 32} (hnext : Serial.Next s.queuedTs ts) :
    (s.eop :: (s.stamps s.outstanding ++ [ts])).IsChain Serial.Next := by
  rw [← List.cons_append]
  refine List.isChain_append.2 ⟨h.chain, .singleton ts, ?_⟩
  intro x hx y hy
  rw [getLast?_chain, h.last] at hx
  obtain rfl := Option.some.inj hx
  obtain rfl := Option.some.inj hy
  exact hnext

theorem next_of_hgslDbNextTimestamp {flags queuedTs timestamp ts : BitVec 32}
    (hflags : TimestampsOrdered flags)
    (h : hgslDbNextTimestamp flags queuedTs timestamp = .ok ts) : Serial.Next queuedTs ts :=
  hgslDbNextTimestamp_dist hflags h

/-- Storing a command or marker with the next timestamp. -/
theorem Linear.push (h : Linear s) {o : Nat} {ts : BitVec 32} {obj' : Nat → Drawobj}
    (hnew : o ∉ s.stamped) (htype : (s.obj o).isStamped = true)
    (hnext : Serial.Next s.queuedTs ts) (hobj : Stamps s.obj obj' o ts)
    (hmarker : (s.obj o).type = .marker → (obj' o).markerTimestamp = s.queuedTs) :
    Linear ({ s with obj := obj', queuedTs := ts, stamped := s.stamped ++ [o] }.queueDrawobj o) := by
  have hfilter : ∀ x, (obj' x).isStamped = (s.obj x).isStamped := fun x => by
    rw [Drawobj.isStamped, Drawobj.isStamped, hobj.type x]
  have hne : ∀ x ∈ s.outstanding, x ≠ o := by
    rintro x hx rfl
    exact hnew (h.stamped_eq ▸ List.mem_append_right _ hx)
  have hout : outstanding ({ s with
      obj := obj', queuedTs := ts, stamped := s.stamped ++ [o] }.queueDrawobj o) =
      s.outstanding ++ [o] := by
    simp only [outstanding, queueDrawobj, hfilter, List.filter_append, List.append_assoc]
    simp [htype]
  have hstamps : stamps ({ s with
      obj := obj', queuedTs := ts, stamped := s.stamped ++ [o] }.queueDrawobj o)
      (s.outstanding ++ [o]) = s.stamps s.outstanding ++ [ts] := by
    unfold stamps
    rw [List.map_append]
    congr 1
    · exact List.map_congr_left fun x hx => hobj.other x (hne x hx)
    · exact congrArg (· :: []) hobj.self
  refine ⟨h.flags, h.shadow, ?_, ?_, ?_, ?_, ?_⟩
  · rw [hout, ← List.append_assoc]
    change s.stamped ++ [o] = s.retired ++ s.outstanding ++ [o]
    rw [h.stamped_eq]
  · rw [hout, hstamps]
    exact h.chain_append hnext
  · rw [hout, hstamps, List.getLastD_concat]
    rfl
  · rw [hout]
    refine List.isChain_append.2 ⟨?_, .singleton o, ?_⟩
    · refine h.markers.imp_of_mem_imp ?_
      intro x y hx hy hxy hmark
      refine (hobj.otherMarker y (hne y hy)).trans ((hxy ?_).trans (hobj.other x (hne x hx)).symm)
      exact (hobj.type y).symm.trans hmark
    · -- the marker remembers the timestamp that was queued last
      intro x hx y hy hmark
      obtain rfl := Option.some.inj hy
      have hlast := h.last
      rw [stamps, List.getLastD_eq_getLast?, List.getLast?_map, hx] at hlast
      refine (hmarker ((hobj.type o).symm.trans hmark)).trans ?_
      refine hlast.symm.trans (hobj.other x (hne x ?_)).symm
      exact List.mem_of_getLast? hx
  · intro x hx
    rw [← h.hand_stamped x hx]
    exact hfilter x

/-- The fast path of `_queue_markerobj`: nothing is queued and `queued_ts` is retired, so nothing is
    outstanding at all. -/
theorem Linear.fast (h : Linear s) {o : Nat} {ts : BitVec 32} (hempty : s.fifo = [])
    (hexpired : s.checkTimestamp s.queuedTs = true)
    (hnext : Serial.Next s.queuedTs ts)
    (hwindow : Serial.Spans (s.eop :: (s.stamps s.outstanding ++ [ts]))) :
    let s' := { s.setTimestamp o ts with
      queuedTs := ts
      stamped := s.stamped ++ [o]
      shadowTs := setContextShadowTs s.shadowTs ts
      retired := s.retired ++ [o] }
    Linear s' ∧ Serial.Ahead s'.eop (s'.stamps s'.outstanding) ∧ Serial.Ge s'.eop s.eop := by
  intro s'
  have hahead := hwindow.ahead (h.chain_append hnext)
  have hnone : s.outstanding = [] := by
    rcases List.eq_nil_or_concat s.outstanding with hnil | ⟨init, p, hp⟩
    · exact hnil
    · exfalso
      have hlast := h.last
      rw [List.concat_eq_append] at hp
      rw [hp, stamps, List.map_append, List.map_singleton, List.getLastD_concat] at hlast
      refine (hahead.append_left).not_ge ?_ (checkTimestamp_ge hexpired)
      rw [hp, ← hlast]
      exact List.mem_map_of_mem (List.mem_append_right _ List.mem_cons_self)
  have hparts := hnone
  unfold outstanding at hparts
  rw [hempty, List.filter_nil, List.append_nil] at hparts
  obtain ⟨hgpu, hhand⟩ := List.append_eq_nil_iff.1 hparts
  have heop : s'.eop = ts := by
    obtain ⟨sh, hsh⟩ := Option.isSome_iff_exists.1 h.shadow
    simp [s', eop, setContextShadowTs, hsh]
  have hout : s'.outstanding = [] := by
    simp only [s', outstanding, setTimestamp, hgpu, hhand, hempty, List.filter_nil, List.append_nil]
  have hstamps : s'.stamps s'.outstanding = [] := by
    rw [hout]
    rfl
  refine ⟨⟨h.flags, ?_, ?_, ?_, ?_, ?_, ?_⟩, ?_, ?_⟩
  · simpa [s', setContextShadowTs] using h.shadow
  · rw [hout, List.append_nil]
    change s.stamped ++ [o] = s.retired ++ [o]
    rw [h.stamped_eq, hnone, List.append_nil]
  · rw [hstamps]
    exact .singleton _
  · rw [hstamps, heop]
    rfl
  · rw [hout]
    exact .nil
  · intro x hx
    change x ∈ s.dispatcher.inHand at hx
    rw [hhand] at hx
    cases hx
  · rw [hstamps]
    exact .nil _
  · rw [heop]
    exact hahead.ge (List.mem_append_right _ List.mem_cons_self)

/-- What one step has to establish. -/
def LinearStep (s s' : QueueState) : Prop :=
  Linear s' ∧ Serial.Ahead s'.eop (s'.stamps s'.outstanding) ∧ Serial.Ge s'.eop s.eop

/-- A step that leaves the chain alone. -/
theorem Linear.still (h : Linear s') (heop : s'.eop = s.eop) (hretired : s'.retired = s.retired)
    (hwindow : WindowOk s s') : LinearStep s s' := by
  refine ⟨h, h.ahead heop hretired hwindow, ?_⟩
  rw [heop]
  exact Serial.ge_refl _

/-- The loop of a submission: it extends the chain object by object, and may end with a marker that
    is retired on the spot. -/
theorem Linear.queueLoop {objs : List Nat} {userTs timestamp : BitVec 32} (hring : RingRoom s objs)
    (hown : OwnedBy s objs) (h : Linear s) (s₀ : QueueState) (heop : s.eop = s₀.eop)
    (hretired : s.retired = s₀.retired)
    (hwindow : WindowOk s₀ (QueueState.queueLoop userTs s timestamp objs).2.2) :
    LinearStep s₀ (QueueState.queueLoop userTs s timestamp objs).2.2 := by
  revert hwindow
  have hdone : ∀ t, Linear t → t.eop = s₀.eop → t.retired = s₀.retired →
      WindowOk s₀ t → LinearStep s₀ t := fun t ht => ht.still
  refine queueLoop_rule_exit
    (P := fun t os => RingRoom t os ∧ OwnedBy t os ∧ Linear t ∧ t.eop = s₀.eop ∧
      t.retired = s₀.retired)
    (Q := fun t => WindowOk s₀ t → LinearStep s₀ t) userTs timestamp ?_ ?_ ?_ ⟨hring, hown, h, heop, hretired⟩
  · intro t ts o os ⟨hring, hown, ht, heop, hretired⟩ hret
    refine ⟨hring.queueOne t userTs ts o os, hown.queueOne t userTs ts o os, ?_⟩
    have hnew := hown.2.not_stamped o List.mem_cons_self
    have hcases := queueOne_cases t o ts userTs
    generalize QueueState.queueOne userTs t ts o = r at hcases hret
    cases hcases with
    | refused ts hts => exact ⟨ht, heop, hretired⟩
    | ignored ts htype => exact ⟨ht, heop, hretired⟩
    | unstamped ts htype =>
        have hobj : Stamps t.obj (t.setTimestamp o 0#32).obj o 0#32 := Stamps.of_update rfl rfl rfl
        have hne : ∀ x ∈ t.outstanding, x ≠ o := by
          rintro x hx rfl
          exact hnew (ht.stamped_eq ▸ List.mem_append_right _ hx)
        refine ⟨ht.congr ⟨fun x _ => hobj.type x, fun x hx => hobj.other x (hne x hx),
          fun x hx => hobj.otherMarker x (hne x hx)⟩ rfl rfl rfl rfl rfl ?_ ?_, heop, hretired⟩
        · have hfilter : ∀ x, ((t.setTimestamp o 0#32).obj x).isStamped = (t.obj x).isStamped :=
            fun x => isStamped_congr (hobj.type x)
          have hplain : (t.obj o).isStamped = false := by
            rcases htype with h | h <;> simp [Drawobj.isStamped, h]
          change t.gpu ++ t.dispatcher.inHand ++
            (t.fifo ++ [o]).filter (fun x => ((t.setTimestamp o 0#32).obj x).isStamped) = _
          simp only [hfilter, List.filter_append, outstanding]
          simp [hplain]
        · intro x hx
          rw [← ht.hand_stamped x hx]
          exact isStamped_congr (hobj.type x)
    | stamped ts obj' htype hts hobj hmarker =>
        refine ⟨ht.push hnew ?_ (next_of_hgslDbNextTimestamp ht.flags hts) hobj hmarker, heop,
          hretired⟩
        rcases htype with h | h <;> simp [Drawobj.isStamped, h]
    | retired ts htype hts hqueued hexpired => cases hret
  · intro t ts o os ⟨hring, hown, ht, heop, hretired⟩ hret hwindow
    have hcases := queueOne_cases t o ts userTs
    generalize QueueState.queueOne userTs t ts o = r at hcases hret hwindow
    cases hcases with
    | refused ts hts => exact hdone t ht heop hretired hwindow
    | ignored ts htype => exact absurd rfl hret
    | unstamped ts htype => exact absurd rfl hret
    | stamped ts obj' htype hts hobj hmarker => exact absurd rfl hret
    | retired ts htype hts hqueued hexpired =>
        have hnew := hown.2.not_stamped o List.mem_cons_self
        have hempty : t.fifo = [] := by
          have hlen := hring.1.queued_eq
          rw [hqueued] at hlen
          exact List.length_eq_zero_iff.1 (Int.ofNat.inj hlen.symm)
        have hobj : Stamps t.obj (t.setTimestamp o ts).obj o ts := Stamps.of_update rfl rfl rfl
        have hspans : Serial.Spans (t.eop :: (t.stamps t.outstanding ++ [ts])) := by
          unfold WindowOk at hwindow
          rw [← heop, ← hretired] at hwindow
          change Serial.Spans (t.eop ::
            stamps (t.setTimestamp o ts) ((t.stamped ++ [o]).drop t.retired.length)) at hwindow
          rw [ht.stamped_eq, List.append_assoc, List.drop_left, stamps, List.map_append,
            List.map_singleton, hobj.self] at hwindow
          have hsame : t.outstanding.map (fun x => ((t.setTimestamp o ts).obj x).timestamp) =
              t.stamps t.outstanding := by
            refine List.map_congr_left fun x hx => hobj.other x ?_
            rintro rfl
            exact hnew (ht.stamped_eq ▸ List.mem_append_right _ hx)
          rwa [hsame] at hwindow
        obtain ⟨hlin, hahead, hge⟩ := ht.fast hempty hexpired
          (next_of_hgslDbNextTimestamp ht.flags hts) hspans
        rw [heop] at hge
        exact ⟨hlin, hahead, hge⟩
  · intro t ⟨_, _, ht, heop, hretired⟩ hwindow
    exact hdone t ht heop hretired hwindow

/-! ## Steps -/

theorem Linear.submit (hring : RingInv s) (hown : Owned s) (h : Linear s) (ds : List Drawobj)
    (timestamp : BitVec 32) (hwindow : WindowOk s (s.submit ds timestamp)) :
    LinearStep s (s.submit ds timestamp) := by
  obtain ⟨obj', hold, hcases⟩ := submit_cases s ds timestamp
  have hout_lt : ∀ x ∈ s.outstanding, x < s.nextObj := fun x hx =>
    hown.stamped_lt x (h.stamped_eq ▸ List.mem_append_right _ hx)
  have hkeep : Keeps s { s with obj := obj', nextObj := s.nextObj + ds.length } := by
    refine ⟨?_, ?_, ?_⟩ <;> intro x hx <;> exact congrArg _ (hold x (hout_lt x hx))
  have hstored : ∀ x ∈ s.dispatcher.inHand ++ s.fifo, (obj' x).isStamped = (s.obj x).isStamped :=
    fun x hx => congrArg _ (hold x (hring.storable x hx).1)
  have hfifo : s.fifo.filter (fun x => (obj' x).isStamped) =
      s.fifo.filter fun x => (s.obj x).isStamped :=
    List.filter_congr fun x hx => hstored x (List.mem_append_right _ hx)
  have halloc : Linear { s with obj := obj', nextObj := s.nextObj + ds.length } := by
    refine h.congr hkeep rfl rfl rfl rfl rfl ?_ ?_
    · simp only [outstanding, hfifo]
    · exact fun x hx => (hstored x (List.mem_append_left _ hx)).trans (h.hand_stamped x hx)
  rcases hcases with heq | ⟨-, heq⟩ | ⟨hlen, -, hsleep, heq⟩
  · rw [heq] at hwindow ⊢
    exact halloc.still rfl rfl hwindow
  · rw [heq] at hwindow ⊢
    exact Linear.still { halloc with } rfl rfl hwindow
  · rw [heq] at hwindow ⊢
    have hfits := hring.fits hlen hsleep
    have hring' : RingInv { s with obj := obj', nextObj := s.nextObj + ds.length } :=
      hring.retouch (Nat.le_add_right _ _) fun x hx => congrArg Drawobj.type (hold x hx)
    refine Linear.queueLoop ⟨hring', by rwa [List.length_range'], fun o ho => ?_⟩
      (hown.alloc obj' ds.length) halloc s rfl rfl hwindow
    exact (List.mem_range'_1.1 ho).2

theorem Linear.relock (hring : RingInv s) (hown : Owned s) (h : Linear s) {k : Nat}
    (hroom : s.appendsWithoutRoom (.relock k) = false) (hstep : s.relock k = some s')
    (hwindow : WindowOk s s') : LinearStep s s' := by
  obtain ⟨sl, ret, hsl, hret, -, hs'⟩ := relock_cases hstep
  have herase : Linear { s with sleepers := s.sleepers.eraseIdx k } := { h with }
  obtain ⟨hlen, hknown⟩ := hring.sleepable sl (List.mem_of_getElem? hsl)
  rcases hs' with rfl | ⟨rfl, rfl⟩
  · exact herase.still rfl rfl hwindow
  · have hfits : s.fifo.length + sl.objs.length < contextDrawqueueSize := by
      refine hring.fits hlen ?_
      simpa [appendsWithoutRoom, hsl, hret] using hroom
    have hring' : RingInv { s with sleepers := s.sleepers.eraseIdx k } :=
      { hring with sleepable := fun sl' hmem => hring.sleepable sl' (List.mem_of_mem_eraseIdx hmem) }
    exact Linear.queueLoop ⟨hring', hfits, hknown⟩ (hown.unsleep hsl) herase s rfl rfl hwindow

/-- A step that only moves objects between the queue, the dispatcher and the GPU. -/
theorem Linear.move (h : Linear s) (hobj : s'.obj = s.obj) (hflags : s'.flags = s.flags)
    (hshadow : s'.shadowTs = s.shadowTs) (hqueued : s'.queuedTs = s.queuedTs)
    (hstamped : s'.stamped = s.stamped) (hretired : s'.retired = s.retired)
    (hout : s'.outstanding = s.outstanding)
    (hhand : ∀ o ∈ s'.dispatcher.inHand, (s.obj o).isStamped = true)
    (hwindow : WindowOk s s') : LinearStep s s' := by
  refine Linear.still ?_ (by rw [eop, eop, hshadow]) hretired hwindow
  refine h.congr (.of_eq hobj) hflags hshadow hqueued hstamped hretired hout ?_
  rwa [hobj]

/-- `_retire_markerobj` on the head of the queue: were a message still in flight, the last of them
    would be the one that the marker waits for. -/
theorem Linear.retire_marker (h : Linear s) {o : Nat} {rest : List Nat} {d : Dispatcher}
    (hhand : s.dispatcher.inHand = []) (hfifo : s.fifo = o :: rest)
    (htype : (s.obj o).type = .marker)
    (hexpired : s.checkTimestamp (s.obj o).markerTimestamp = true) (hd : d.inHand = []) :
    let s' := { s.popDrawobj.depart o .retired with
      obj := Function.update s.obj o { s.obj o with markerExpired := true }
      shadowTs := setContextShadowTs s.shadowTs (s.obj o).timestamp
      retired := s.retired ++ [o]
      dispatcher := d }
    WindowOk s s' → LinearStep s s' := by
  intro s' hwindow
  have hobj : ∀ x, s'.obj x = { s.obj x with markerExpired := (s'.obj x).markerExpired } := by
    intro x
    by_cases hx : x = o
    · simp only [s', hx, Function.update_self]
    · simp only [s', Function.update_of_ne hx]
  have hts : ∀ x, (s'.obj x).timestamp = (s.obj x).timestamp := fun x => by rw [hobj x]
  have hkeep : Keeps s s' :=
    ⟨fun x _ => by rw [hobj x], fun x _ => hts x, fun x _ => by rw [hobj x]⟩
  have hstamped : (s.obj o).isStamped = true := by simp [Drawobj.isStamped, htype]
  have hahead : Serial.Ahead s.eop (s.stamps s.outstanding) := by
    refine h.ahead rfl rfl ?_
    have hsame : s'.stamps (s'.stamped.drop s.retired.length) =
        s.stamps (s.stamped.drop s.retired.length) := stamps_congr fun x _ => hts x
    unfold WindowOk at hwindow ⊢
    rwa [hsame] at hwindow
  have hgpu : s.gpu = [] := by
    rcases List.eq_nil_or_concat s.gpu with hnil | ⟨init, p, hp⟩
    · exact hnil
    · exfalso
      have hout : s.outstanding =
          (init ++ [p]) ++ (o :: rest.filter fun o => (s.obj o).isStamped) := by
        simp [outstanding, hp, hhand, hfifo, hstamped]
      have hmarkers := h.markers
      rw [hout] at hmarkers
      have hbefore := (List.isChain_append.1 hmarkers).2.2 p (by simp) o (by simp) htype
      refine hahead.not_ge ?_ (checkTimestamp_ge hexpired)
      rw [hbefore, hout]
      exact List.mem_map_of_mem (by simp)
  have hout : s.outstanding = o :: rest.filter fun o => (s.obj o).isStamped := by
    simp [outstanding, hgpu, hhand, hfifo, hstamped]
  obtain ⟨sh, hsh⟩ := Option.isSome_iff_exists.1 h.shadow
  refine h.retire_first hahead hout hkeep rfl ?_ ?_ rfl rfl rfl ?_ ?_
  · simp [s', setContextShadowTs, hsh]
  · simp [s', eop, setContextShadowTs, hsh]
  · have hfilter : ∀ x, (s'.obj x).isStamped = (s.obj x).isStamped := fun x =>
      isStamped_congr (by rw [hobj x])
    simp only [outstanding, hfilter]
    simp [s', popDrawobj, depart, hgpu, hd, hfifo]
  · intro x hx
    change x ∈ d.inHand at hx
    rw [hd] at hx
    cases hx

theorem Linear.scan (hring : RingInv s) (h : Linear s) {i : Nat} {ret : Int}
    (hscan : s.dispatcher = .scanning i ret) (hwindow : WindowOk s (s.scan i ret)) :
    LinearStep s (s.scan i ret) := by
  obtain rfl := hring.scan_head i ret hscan
  have hhand : s.dispatcher.inHand = [] := by
    rw [hscan]
    rfl
  have hhead : ∀ {o}, s.drawqHead ≠ s.drawqTail → s.drawq s.drawqHead = some o →
      ∃ rest, s.fifo = o :: rest := by
    intro o hne ho
    obtain ⟨o', rest, hfifo, ho'⟩ := hring.head_slot hne
    obtain rfl := Option.some.inj (ho.symm.trans ho')
    exact ⟨rest, hfifo⟩
  have hcases := scan_cases s s.drawqHead ret
  generalize s.scan s.drawqHead ret = s' at hcases hwindow
  cases hcases with
  | stop =>
      refine h.move rfl rfl rfl rfl rfl rfl ?_ nofun hwindow
      simp only [outstanding, hhand, Dispatcher.inHand_idle]
  | skipped o hi ho htype =>
      refine h.move rfl rfl rfl rfl rfl rfl ?_ nofun hwindow
      simp only [outstanding, hhand, Dispatcher.inHand_scanning]
  | dropped o d hi ho htype =>
      obtain ⟨rest, hfifo⟩ := hhead hi ho
      have hplain : (s.obj o).isStamped = false := by
        rcases htype with ⟨h, -⟩ | h <;> simp [Drawobj.isStamped, h]
      refine h.move rfl rfl rfl rfl rfl rfl ?_ nofun hwindow
      simp [outstanding, popDrawobj, depart, hhand, hfifo, hplain]
  | expired o hi ho htype hexpired =>
      obtain ⟨rest, hfifo⟩ := hhead hi ho
      exact h.retire_marker hhand hfifo htype hexpired rfl hwindow
  | found o hi ho htype =>
      obtain ⟨rest, hfifo⟩ := hhead hi ho
      have hstamped : (s.obj o).isStamped = true := by
        rcases htype with h | h <;> simp [Drawobj.isStamped, h]
      refine h.move rfl rfl rfl rfl rfl rfl ?_ ?_ hwindow
      · simp [outstanding, popDrawobj, hhand, hfifo, hstamped]
      · intro x hx
        rw [List.mem_singleton.1 hx]
        exact hstamped

theorem Linear.finishSend (h : Linear s) {o : Nat} {r : SendResult}
    (hsend : s.dispatcher = .sending o) (hnoent : r.ret ≠ -ENOENT)
    (hwindow : WindowOk s (s.finishSend o r)) : LinearStep s (s.finishSend o r) := by
  have hstamped : (s.obj o).isStamped = true := h.hand_stamped o (by simp [hsend])
  revert hwindow
  unfold QueueState.finishSend
  dsimp only
  split
  · intro hwindow
    refine h.move rfl rfl rfl rfl rfl rfl ?_ (by intros; contradiction) hwindow
    simp [outstanding, depart, hsend]
  · intro hwindow
    refine h.move rfl rfl rfl rfl rfl rfl ?_ (by intros; contradiction) hwindow
    simp [outstanding, requeueDrawobj, hsend, hstamped]

theorem Linear.gpuRetire (h : Linear s) (hstep : s.gpuRetire = some s')
    (hwindow : WindowOk s s') : LinearStep s s' := by
  unfold QueueState.gpuRetire at hstep
  split at hstep
  · cases hstep
  · next o rest hgpu =>
      obtain rfl := Option.some.inj hstep
      obtain ⟨sh, hsh⟩ := Option.isSome_iff_exists.1 h.shadow
      have hahead : Serial.Ahead s.eop (s.stamps s.outstanding) := h.ahead rfl rfl hwindow
      refine h.retire_first (o := o) hahead ?_ (.of_eq rfl) rfl ?_ ?_ rfl rfl rfl rfl h.hand_stamped
      · rw [outstanding, hgpu]
        rfl
      · simp [hsh]
      · simp [eop, hsh]

/-- **Step lemma.** Every step that does not append without room, drain the queue or lose the object it
    sends keeps the chain, and moves `eop` forward only. -/
theorem Linear.step {a : QueueAct} (hring : RingInv s) (hown : Owned s) (h : Linear s)
    (hroom : s.appendsWithoutRoom a = false) (hdetach : a ≠ .detachDrawobjs)
    (hnoent : ∀ r, a = .send r → r.ret ≠ -ENOENT) (hstep : s.step a = some s')
    (hwindow : WindowOk s s') : LinearStep s s' := by
  have hwake : ∀ {k room ret}, s.wake k room ret = some s' → LinearStep s s' := by
    intro k room ret hstep
    obtain ⟨sl, -, -, rfl⟩ := wake_cases hstep
    exact h.move rfl rfl rfl rfl rfl rfl rfl h.hand_stamped hwindow
  cases a with
  | queueCmds ds ts =>
      simp only [QueueState.step, Option.ite_none_right_eq_some] at hstep
      obtain ⟨-, hs'⟩ := hstep
      obtain rfl := Option.some.inj hs'
      exact Linear.submit hring hown h ds ts hwindow
  | wakeRoom k left => exact hwake hstep
  | wakeTimeout k => exact hwake hstep
  | wakeInterrupted k => exact hwake hstep
  | relock k => exact Linear.relock hring hown h hroom hstep hwindow
  | passStart =>
      simp only [QueueState.step] at hstep
      split at hstep
      · next hidle =>
          obtain rfl := Option.some.inj hstep
          refine h.move rfl rfl rfl rfl rfl rfl ?_ (by simp) hwindow
          simp [outstanding, hidle]
      · cases hstep
  | passScan =>
      simp only [QueueState.step] at hstep
      split at hstep
      · next i ret hscan =>
          obtain rfl := Option.some.inj hstep
          exact Linear.scan hring h hscan hwindow
      · cases hstep
  | send r =>
      simp only [QueueState.step] at hstep
      split at hstep
      · next o hsend =>
          obtain rfl := Option.some.inj hstep
          exact h.finishSend hsend (hnoent r rfl) hwindow
      · cases hstep
  | syncExpire o i =>
      obtain rfl := Option.some.inj hstep
      have hobj : ∀ x, (s.syncExpire o i).obj x =
          { s.obj x with pending := ((s.syncExpire o i).obj x).pending } := by
        intro x
        by_cases hx : x = o
        · simp only [QueueState.syncExpire, hx, Function.update_self]
        · simp only [QueueState.syncExpire, Function.update_of_ne hx]
      have hstamped : ∀ x, ((s.syncExpire o i).obj x).isStamped = (s.obj x).isStamped :=
        fun x => isStamped_congr (by rw [hobj x])
      have hkeep : Keeps s (s.syncExpire o i) :=
        ⟨fun x _ => by rw [hobj x], fun x _ => by rw [hobj x], fun x _ => by rw [hobj x]⟩
      refine (h.congr hkeep rfl rfl rfl rfl rfl ?_ ?_).still rfl rfl hwindow
      · simp only [outstanding, hstamped]
        rfl
      · exact fun x hx => (hstamped x).trans (h.hand_stamped x hx)
  | gpuRetire => exact h.gpuRetire hstep hwindow
  | setInDestroy =>
      obtain rfl := Option.some.inj hstep
      exact h.move rfl rfl rfl rfl rfl rfl rfl h.hand_stamped hwindow
  | detachDrawobjs => exact absurd rfl hdetach

/-! ## Whole runs -/

/-- `eop` is at or past the timestamp of an accepted command or marker only if that one and every one
    accepted before it are retired. -/
def LinearTime (s : QueueState) : Prop :=
  ∀ i < s.stamped.length, ∀ x ∈ s.stamped[i]?,
    hgslTs32Ge s.eop (s.obj x).timestamp = true → ∀ y ∈ s.stamped.take (i + 1), y ∈ s.retired

instance (s : QueueState) : Decidable (LinearTime s) := by unfold LinearTime; infer_instance

theorem Linear.linearTime (h : Linear s)
    (hahead : Serial.Ahead s.eop (s.stamps s.outstanding)) : LinearTime s := by
  intro i hi x hx hge y hy
  rw [h.stamped_eq] at hx hy
  rcases Nat.lt_or_ge i s.retired.length with hlt | hle
  · rw [List.take_append_of_le_length hlt] at hy
    exact List.mem_of_mem_take hy
  · -- past the retired ones nothing has been reached
    rw [List.getElem?_append_right hle] at hx
    exact absurd (hgslTs32Ge_iff.1 hge)
      (hahead.not_ge (List.mem_map_of_mem (List.mem_of_getElem? hx)))

/-- The steps of a context that is neither detached nor gone on the other side, with outstanding
    timestamps that span less than half of the circle. -/
def InScope (s : QueueState) (a : QueueAct) : Prop :=
  (match a with
    | .detachDrawobjs => False
    | .send r => r.ret ≠ -ENOENT
    | _ => True) ∧
  ∀ s' ∈ s.step a, WindowOk s s'

instance (s : QueueState) (a : QueueAct) : Decidable (InScope s a) := by
  unfold InScope
  have hact : Decidable (match a with
    | .detachDrawobjs => False
    | .send r => r.ret ≠ -ENOENT
    | _ => True) := by
    split <;> infer_instance
  infer_instance

/-- In scope, and no timed-out submitter appends without room. -/
def InScopeWithRoom (s : QueueState) (a : QueueAct) : Prop :=
  InScope s a ∧ s.appendsWithoutRoom a = false

instance (s : QueueState) (a : QueueAct) : Decidable (InScopeWithRoom s a) := by
  unfold InScopeWithRoom; infer_instance

theorem InScope.wellBehaved {a : QueueAct} (h : InScope s a) :
    a ≠ .detachDrawobjs ∧ ∀ r, a = .send r → r.ret ≠ -ENOENT := by
  obtain ⟨hact, -⟩ := h
  refine ⟨?_, ?_⟩
  · rintro rfl
    exact hact
  · rintro r rfl
    exact hact

/-- A context before its first submission, with both timestamps at `base`. -/
def started (flags base sop : BitVec 32) : QueueState :=
  { QueueState.fresh flags (some { sop := sop, eop := base }) with queuedTs := base }

theorem Linear.started {flags base sop : BitVec 32} (hflags : TimestampsOrdered flags) :
    Linear (.started flags base sop) where
  flags := hflags
  shadow := rfl
  stamped_eq := rfl
  chain := .singleton base
  last := rfl
  markers := .nil
  hand_stamped := nofun

/-- **Main result.** In every run of a context with shadow timestamps and ordered timestamps in which
    no timed-out submitter appends without room: `eop` passes a timestamp only when everything up to
    it is retired, and no step moves it backwards. -/
theorem linearTime_of_room (flags base sop : BitVec 32) (hflags : TimestampsOrdered flags)
    (as : List QueueAct) (s : QueueState)
    (hrun : Trace.exec (Trace.guarded InScopeWithRoom QueueState.step) (.started flags base sop) as =
      some s) :
    LinearTime s ∧ ∀ a s', Trace.guarded InScopeWithRoom QueueState.step s a = some s' →
      hgslTs32Ge s'.eop s.eop = true := by
  have hstep : ∀ t a t', RingInv t → Owned t → Linear t →
      Trace.guarded InScopeWithRoom QueueState.step t a = some t' →
      RingInv t' ∧ Owned t' ∧ LinearStep t t' := by
    intro t a t' hring hown hlin hguarded
    obtain ⟨⟨hscope, hroom⟩, hstep⟩ := Trace.guarded_eq_some.1 hguarded
    obtain ⟨hdetach, hnoent⟩ := hscope.wellBehaved
    have hsafe : t.detachesObjects a = false := by
      cases a with
      | detachDrawobjs => exact absurd rfl hdetach
      | _ => rfl
    exact ⟨hring.step hroom hsafe hstep, hown.step hstep,
      Linear.step hring hown hlin hroom hdetach hnoent hstep (hscope.2 t' hstep)⟩
  have hinv : RingInv s ∧ Owned s ∧ Linear s ∧ Serial.Ahead s.eop (s.stamps s.outstanding) := by
    refine Trace.exec_invariant (P := fun t => RingInv t ∧ Owned t ∧ Linear t ∧
      Serial.Ahead t.eop (t.stamps t.outstanding)) ?_ ?_ hrun
    · intro t a t' ⟨hring, hown, hlin, _⟩ hguarded
      obtain ⟨hring', hown', hlin', hahead', -⟩ := hstep t a t' hring hown hlin hguarded
      exact ⟨hring', hown', hlin', hahead'⟩
    · exact ⟨{ RingInv.fresh flags none with },
        ⟨nofun, nofun, nofun, .nil, .nil, nofun, nofun⟩, .started hflags, .nil _⟩
  obtain ⟨hring, hown, hlin, hahead⟩ := hinv
  refine ⟨hlin.linearTime hahead, ?_⟩
  intro a s' hguarded
  exact hgslTs32Ge_iff.2 (hstep s a s' hring hown hlin hguarded).2.2.2.2

/-- A marker behind a command in flight waits; once the GPU is done, the driver retires it. -/
def markerRun : List QueueAct :=
  [.queueCmds [{ type := .marker, flags := HGSL_DRAWOBJ_MARKER }] 0#32,
    .queueCmds [{ type := .cmd }] 0#32,
    .queueCmds [{ type := .marker, flags := HGSL_DRAWOBJ_MARKER }] 0#32, .passStart, .passScan,
    .send (.issued 0), .passStart, .passScan, .gpuRetire, .passStart, .passScan]

theorem linearTime_markerRun : ∃ s,
    Trace.exec (Trace.guarded InScopeWithRoom QueueState.step)
        (.started GSL_CONTEXT_FLAG_USER_GENERATED_TS 0xFFFFFFFD#32 0#32) markerRun = some s ∧
      s.eop = 2#32 ∧ s.retired = [0, 1, 2] ∧ LinearTime s := by
  have heval : (Trace.exec (Trace.guarded InScopeWithRoom QueueState.step)
      (.started GSL_CONTEXT_FLAG_USER_GENERATED_TS 0xFFFFFFFD#32 0#32) markerRun).map
        (fun s => (s.eop, s.retired)) = some (2#32, [0, 1, 2]) := by
    decide +kernel
  obtain ⟨s, hs, heq⟩ := Option.map_eq_some_iff.1 heval
  obtain ⟨heop, hretired⟩ := Prod.mk.inj heq
  exact ⟨s, hs, heop, hretired, (linearTime_of_room _ _ _ (by decide) _ s hs).1⟩

/-- The queue overflows after a time-out: the first command is lost with its slots, the last one is
    sent and retired. -/
def overtakenRun : List QueueAct :=
  [.queueCmds [pendingSync] 0#32, .queueCmds [{ type := .cmd }] 0#32,
    .queueCmds (List.replicate 124 pendingSync) 0#32,
    .queueCmds [pendingSync, { type := .cmd }] 0#32, .wakeTimeout 0, .relock 0,
    .queueCmds [{ type := .cmd }] 0#32, .wakeTimeout 0, .relock 0, .passStart, .passScan,
    .send (.issued 0), .gpuRetire]

theorem linearTime_fails : ∃ s ∈ Trace.exec (Trace.guarded InScope QueueState.step)
    (.started GSL_CONTEXT_FLAG_USER_GENERATED_TS 0#32 0#32) overtakenRun,
      s.stamped = [1, 127, 128] ∧ s.retired = [128] ∧ ¬ LinearTime s := by
  decide +kernel

end QueueState

end Hgsl
