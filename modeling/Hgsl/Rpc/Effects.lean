import Hgsl.Rpc.Pool

set_option autoImplicit false

/-! # What the steps of the pool can do

One inversion lemma per half of a transaction and one for the step: the state that it leaves, as an update
of the state before, with the conditions under which this happens. -/

namespace Hgsl

namespace ChannelPool

/-! ## Transactions -/

/-- What the first half of a transaction can do. -/
inductive TransactSend (c : HabChannel) (opcode : Nat) (interruptible : Bool) :
    Except Int (HabChannel × Bool) → Prop where
  | retried (hretry : c.waitRetry = true) (hint : interruptible = true) :
      TransactSend c opcode interruptible (.ok (c, false))
  | refused (hretry : c.waitRetry = true) (hint : interruptible = false) :
      TransactSend c opcode interruptible (.error (-EINVAL))
  | failed (e : Int) (hretry : c.waitRetry = false) : TransactSend c opcode interruptible (.error e)
  | sent (hretry : c.waitRetry = false) :
      TransactSend c opcode interruptible
        (.ok ({ c with requests := c.requests ++ [⟨c.sendBuf, opcode⟩] }, true))

theorem gslRpcTransactExtSend_cases (c : HabChannel) (opcode : Nat) (interruptible : Bool)
    (sendRet : Int) : TransactSend c opcode interruptible
      (gslRpcTransactExtSend c opcode interruptible sendRet) := by
  unfold gslRpcTransactExtSend
  by_cases hretry : c.waitRetry = true
  · cases interruptible with
    | false =>
        rw [if_neg (by simp), if_pos hretry]
        exact .refused hretry rfl
    | true =>
        rw [if_pos (by simp [hretry])]
        exact .retried hretry rfl
  · rw [if_neg (by simp [hretry]), if_neg hretry]
    rw [Bool.not_eq_true] at hretry
    split
    · exact .failed sendRet hretry
    · exact .sent hretry

/-- What the second half of a transaction can do. -/
inductive TransactRecv (c : HabChannel) (opcode : Nat) :
    RecvResult → Except Int RpcMsg × HabChannel → Prop where
  | replied (m : RpcMsg) (rest : List RpcMsg) (hreplies : c.replies = m :: rest)
      (hopcode : m.opcode = opcode) :
      TransactRecv c opcode .reply (.ok m, { c with replies := rest })
  | mismatched (m : RpcMsg) (rest : List RpcMsg) (hreplies : c.replies = m :: rest) :
      TransactRecv c opcode .reply (.error (-EINVAL), { c with replies := rest })
  | interrupted : TransactRecv c opcode .interrupted (.error (-EINTR), c)
  | consumed (m : RpcMsg) (rest : List RpcMsg) (hreplies : c.replies = m :: rest) :
      TransactRecv c opcode (.failed true) (.error (-EINVAL), { c with replies := rest })
  | left : TransactRecv c opcode (.failed false) (.error (-EINVAL), c)

theorem gslRpcTransactExtRecv_cases {c : HabChannel} {opcode : Nat} {res : RecvResult}
    {r : Except Int RpcMsg × HabChannel} (h : gslRpcTransactExtRecv c opcode res = some r) :
    TransactRecv c opcode res r := by
  cases res with
  | reply =>
      simp only [gslRpcTransactExtRecv] at h
      split at h
      · cases h
      · next m rest hreplies =>
          obtain rfl := Option.some.inj h
          by_cases hopcode : m.opcode = opcode
          · rw [if_pos hopcode]
            exact .replied m rest hreplies hopcode
          · rw [if_neg hopcode]
            exact .mismatched m rest hreplies
  | interrupted =>
      obtain rfl := Option.some.inj h
      exact .interrupted
  | failed taken =>
      cases taken with
      | true =>
          simp only [gslRpcTransactExtRecv, if_true] at h
          split at h
          · cases h
          · next m rest hreplies =>
              obtain rfl := Option.some.inj h
              exact .consumed m rest hreplies
      | false =>
          simp only [gslRpcTransactExtRecv, Bool.false_eq_true, if_false] at h
          obtain rfl := Option.some.inj h
          exact .left

/-! ## Steps -/

/-- The state that a step leaves. -/
inductive Effect (p : ChannelPool) : PoolAct → ChannelPool → Prop where
  | noChannel (t : Nat) (interruptible created : Bool) : Effect p (.get t interruptible created) p
  | take (t : Nat) (interruptible created : Bool) {ch : Nat} {rest : List Nat}
      (hidle : p.thread t = .idle) (hfree : p.freeChannels = ch :: rest) :
      Effect p (.get t interruptible created)
        ({ p.setChan ch { p.chan ch with busy := true } with
          freeChannels := rest
          busyChannels := p.busyChannels ++ [ch] }.setThread t
            (.holding ch (if interruptible then .fresh else .plain)))
  | create (t : Nat) (interruptible created : Bool) (hidle : p.thread t = .idle)
      (hfree : p.freeChannels = []) :
      Effect p (.get t interruptible created)
        ({ p.setChan (p.count + 1) { busy := true } with
          count := p.count + 1
          busyChannels := p.busyChannels ++ [p.count + 1] }.setThread t
            (.holding (p.count + 1) (if interruptible then .fresh else .plain)))
  | badId (t : Nat) (id e : Int) (hbad : p.channelPoolGetById id = .error e) :
      Effect p (.getById t id) p
  | resume (t : Nat) (id : Int) {ch : Nat} (hidle : p.thread t = .idle)
      (hfound : p.channelPoolGetById id = .ok ch) (hlisted : 1 ≤ ch ∧ ch ≤ p.count)
      (hretry : (p.chan ch).waitRetry = true) :
      Effect p (.getById t id)
        ((p.setChan ch { p.chan ch with busy := true, ticket := false }).setThread t
          (.holding ch (.resume (p.chan ch).parked)))
  | skip (t : Nat) (written : Bool) {ch : Nat} {k : RpcCaller} (hthread : p.thread t = .holding ch k)
      (hretry : (p.chan ch).waitRetry = true) (hint : k.interruptible = true) :
      Effect p (.prepare t written)
        ({ p with nextCall := p.nextCall + 1 }.setThread t (.prepared ch k (p.callOf k)))
  | write (t : Nat) {ch : Nat} {k : RpcCaller} (hthread : p.thread t = .holding ch k)
      (hwrite : (p.chan ch).waitRetry = true → k.interruptible = false) :
      Effect p (.prepare t true)
        (({ p with nextCall := p.nextCall + 1 }.setChan ch { p.chan ch with
          sendBuf := p.callOf k }).setThread t (.prepared ch k (p.callOf k)))
  | noWrite (t : Nat) {ch : Nat} {k : RpcCaller} (hthread : p.thread t = .holding ch k)
      (hwrite : (p.chan ch).waitRetry = true → k.interruptible = false) :
      Effect p (.prepare t false)
        ({ p with nextCall := p.nextCall + 1 }.setThread t (.finished ch))
  | retried (t opcode : Nat) (sendRet : Int) {ch call : Nat} {k : RpcCaller}
      (hthread : p.thread t = .prepared ch k call) (hretry : (p.chan ch).waitRetry = true)
      (hint : k.interruptible = true) :
      Effect p (.transact t opcode sendRet)
        ((p.setChan ch (p.chan ch)).setThread t (.receiving ch k call opcode))
  | refused (t opcode : Nat) (sendRet : Int) {ch call : Nat} {k : RpcCaller}
      (hthread : p.thread t = .prepared ch k call) (hretry : (p.chan ch).waitRetry = true)
      (hint : k.interruptible = false) :
      Effect p (.transact t opcode sendRet) (p.setThread t (afterTransact ch call k (-EINVAL)))
  | failed (t opcode : Nat) (sendRet : Int) {ch call : Nat} {k : RpcCaller} (e : Int)
      (hthread : p.thread t = .prepared ch k call) (hretry : (p.chan ch).waitRetry = false) :
      Effect p (.transact t opcode sendRet) (p.setThread t (afterTransact ch call k e))
  | sent (t opcode : Nat) (sendRet : Int) {ch call : Nat} {k : RpcCaller}
      (hthread : p.thread t = .prepared ch k call) (hretry : (p.chan ch).waitRetry = false) :
      Effect p (.transact t opcode sendRet)
        (({ p with sent := p.sent ++ [(p.chan ch).sendBuf] }.setChan ch { p.chan ch with
          requests := (p.chan ch).requests ++ [RpcMsg.mk (p.chan ch).sendBuf opcode] }).setThread t
            (.receiving ch k call opcode))
  | recv (t : Nat) (res : RecvResult) {ch call opcode : Nat} {k : RpcCaller}
      {r : Except Int RpcMsg × HabChannel} (hthread : p.thread t = .receiving ch k call opcode)
      (hr : TransactRecv (p.chan ch) opcode res r) :
      Effect p (.recv t res)
        (({ p with answers := p.answers ++ answersOf call r.1 }.setChan ch r.2).setThread t
          (afterTransact ch call k (retOf r.1)))
  | clearRetry (t : Nat) {ch : Nat} (hthread : p.thread t = .ended ch) :
      Effect p (.clearRetry t)
        ((p.setChan ch { p.chan ch with waitRetry := false }).setThread t (.finished ch))
  | clearBusy (t : Nat) {ch call : Nat} (hthread : p.thread t = .interrupted ch call) :
      Effect p (.clearBusy t)
        ((p.setChan ch { p.chan ch with busy := false }).setThread t (.parking ch call))
  | setRetry (t : Nat) {ch call : Nat} (hthread : p.thread t = .parking ch call) :
      Effect p (.setRetry t)
        ((p.setChan ch { p.chan ch with
          waitRetry := true, ticket := true, parked := call }).setThread t .idle)
  | put (t : Nat) {ch : Nat} (hthread : p.thread t = .finished ch ∨ p.thread t = .holding ch .plain) :
      Effect p (.put t) ((p.channelPoolPut ch).setThread t .idle)
  | answer (ch : Nat) {m : RpcMsg} {rest : List RpcMsg} (hrequests : (p.chan ch).requests = m :: rest) :
      Effect p (.answer ch) (p.setChan ch { p.chan ch with
        requests := rest, replies := (p.chan ch).replies ++ [m] })

theorem get_cases {p p' : ChannelPool} {t : Nat} {interruptible created : Bool}
    (hstep : p.step (.get t interruptible created) = some p') :
    Effect p (.get t interruptible created) p' := by
  simp only [step] at hstep
  split at hstep
  · next hidle =>
      split at hstep
      · obtain rfl := Option.some.inj hstep
        exact .noChannel t interruptible created
      · next r hr =>
          obtain rfl := Option.some.inj hstep
          unfold channelPoolGet at hr
          split at hr
          · next ch rest hfree =>
              obtain rfl := Option.some.inj hr
              exact .take t interruptible created hidle hfree
          · next hfree =>
              split at hr
              · obtain rfl := Option.some.inj hr
                have hcreate := Effect.create t interruptible created hidle hfree
                simpa only [createChannel, setChan, Function.update_self, Function.update_idem] using hcreate
              · cases hr
  · cases hstep

theorem channelPoolGetById_eq_ok {p : ChannelPool} {id : Int} {ch : Nat}
    (h : p.channelPoolGetById id = .ok ch) :
    (1 ≤ ch ∧ ch ≤ p.count) ∧ (p.chan ch).waitRetry = true := by
  unfold channelPoolGetById at h
  split at h
  · next hfound =>
      obtain ⟨hpos, hle, hretry⟩ := hfound
      obtain rfl := Except.ok.inj h
      exact ⟨⟨by omega, hle⟩, hretry⟩
  · cases h

theorem prepare_cases {p : ChannelPool} {t ch : Nat} {k : RpcCaller} (written : Bool)
    (hthread : p.thread t = .holding ch k) :
    Effect p (.prepare t written) (p.prepareCall t ch k written) := by
  unfold prepareCall
  dsimp only
  by_cases hskip : ((p.chan ch).waitRetry && k.interruptible) = true
  · rw [if_pos hskip]
    obtain ⟨hretry, hint⟩ := Bool.and_eq_true_iff.1 hskip
    exact .skip t written hthread hretry hint
  · rw [if_neg hskip]
    have hwrite : (p.chan ch).waitRetry = true → k.interruptible = false := by
      intro hretry
      rw [hretry, Bool.true_and, Bool.not_eq_true] at hskip
      exact hskip
    cases written with
    | true => exact .write t hthread hwrite
    | false => exact .noWrite t hthread hwrite

theorem transact_cases {p p' : ChannelPool} {t opcode : Nat} {sendRet : Int}
    (hstep : p.step (.transact t opcode sendRet) = some p') :
    Effect p (.transact t opcode sendRet) p' := by
  simp only [step] at hstep
  split at hstep
  · next ch k call hthread =>
      have hcases := gslRpcTransactExtSend_cases (p.chan ch) opcode k.interruptible sendRet
      generalize gslRpcTransactExtSend (p.chan ch) opcode k.interruptible sendRet = r at hcases hstep
      cases hcases with
      | retried hretry hint =>
          obtain rfl := Option.some.inj hstep
          exact .retried t opcode sendRet hthread hretry hint
      | refused hretry hint =>
          obtain rfl := Option.some.inj hstep
          exact .refused t opcode sendRet hthread hretry hint
      | failed e hretry =>
          obtain rfl := Option.some.inj hstep
          exact .failed t opcode sendRet e hthread hretry
      | sent hretry =>
          obtain rfl := Option.some.inj hstep
          exact .sent t opcode sendRet hthread hretry
  · cases hstep

/-- **Inversion.** -/
theorem step_cases {p p' : ChannelPool} {a : PoolAct} (hstep : p.step a = some p') :
    Effect p a p' := by
  cases a with
  | get t interruptible created => exact get_cases hstep
  | getById t id =>
      simp only [step] at hstep
      split at hstep
      · next hidle =>
          split at hstep
          · next e hbad =>
              obtain rfl := Option.some.inj hstep
              exact .badId t id e hbad
          · next ch hfound =>
              obtain rfl := Option.some.inj hstep
              obtain ⟨hlisted, hretry⟩ := channelPoolGetById_eq_ok hfound
              exact .resume t id hidle hfound hlisted hretry
      · cases hstep
  | prepare t written =>
      simp only [step] at hstep
      split at hstep
      · next hthread =>
          obtain rfl := Option.some.inj hstep
          exact prepare_cases written hthread
      · cases hstep
  | transact t opcode sendRet => exact transact_cases hstep
  | recv t res =>
      simp only [step] at hstep
      split at hstep
      · next hthread =>
          split at hstep
          · cases hstep
          · next hr =>
              obtain rfl := Option.some.inj hstep
              exact .recv t res hthread (gslRpcTransactExtRecv_cases hr)
      · cases hstep
  | clearRetry t =>
      simp only [step] at hstep
      split at hstep
      · next hthread =>
          obtain rfl := Option.some.inj hstep
          exact .clearRetry t hthread
      · cases hstep
  | clearBusy t =>
      simp only [step] at hstep
      split at hstep
      · next hthread =>
          obtain rfl := Option.some.inj hstep
          exact .clearBusy t hthread
      · cases hstep
  | setRetry t =>
      simp only [step] at hstep
      split at hstep
      · next hthread =>
          obtain rfl := Option.some.inj hstep
          exact .setRetry t hthread
      · cases hstep
  | put t =>
      simp only [step] at hstep
      split at hstep
      · next hthread =>
          obtain rfl := Option.some.inj hstep
          exact .put t (.inl hthread)
      · next hthread =>
          obtain rfl := Option.some.inj hstep
          exact .put t (.inr hthread)
      · cases hstep
  | answer ch =>
      simp only [step] at hstep
      split at hstep
      · cases hstep
      · next hrequests =>
          obtain rfl := Option.some.inj hstep
          exact .answer ch hrequests

end ChannelPool

end Hgsl
