import Hgsl.Rpc.Exclusive

set_option autoImplicit false

/-! # Requests and replies

The only check on a reply is its opcode, so a reply belongs to the call that receives it just as long as
nothing else is in flight on the channel. The invariant says for every point at which a thread or a
channel can stand what may be in flight there: nothing, or the one request of the call in progress. Two
things break it. A receive that fails while its reply is still to come leaves the reply in the channel,
and every caller puts such a channel back into the pool. And a channel id that is used twice resumes a
call that is over, which sends its request again. -/

namespace Hgsl

/-- The requests in flight on a channel, oldest first. -/
def HabChannel.inFlight (c : HabChannel) : List Nat := (c.replies ++ c.requests).map (·.call)

/-- Nothing is in flight on the channel, or the request of `call` alone. -/
def HabChannel.AtMost (c : HabChannel) (call : Nat) : Prop :=
  c.inFlight = [] ∨ c.inFlight = [call]

/-- At most one request is in flight, so taking its reply leaves nothing. -/
theorem HabChannel.AtMost.take {c : HabChannel} {call : Nat} {m : RpcMsg} {rest : List RpcMsg}
    (h : c.AtMost call) (hreplies : c.replies = m :: rest) :
    m.call = call ∧ ({ c with replies := rest } : HabChannel).inFlight = [] := by
  unfold HabChannel.AtMost HabChannel.inFlight at h
  rw [hreplies, List.cons_append, List.map_cons] at h
  rcases h with h | h
  · cases h
  · obtain ⟨hcall, hrest⟩ := List.cons.inj h
    exact ⟨hcall, hrest⟩

namespace ChannelPool

/-! ## Condition -/

/-- A receive ends with the reply taken off the socket, unless an interruptible call is interrupted. -/
def takesReply (p : ChannelPool) : PoolAct → Bool
  | .recv t res =>
    match p.thread t with
    | .receiving ch k _ _ =>
      match res with
      | .reply => true
      | .interrupted => k.interruptible || (p.chan ch).inFlight = []
      | .failed consumed => consumed || (p.chan ch).inFlight = []
    | _ => true
  | _ => true

/-- The steps of a run in which calls and replies stay in step. -/
def inStep (p : ChannelPool) (a : PoolAct) : Prop := p.usesTicket a = true ∧ p.takesReply a = true

instance (p : ChannelPool) (a : PoolAct) : Decidable (p.inStep a) :=
  inferInstanceAs (Decidable (_ ∧ _))

/-! ## What is in flight -/

/-- What is in flight on the channel of a thread. -/
def FlightOk (c : HabChannel) : RpcThread → Prop
  | .idle => True
  | .holding _ (.resume call) => c.AtMost call
  | .holding _ _ => c.inFlight = []
  | .prepared _ (.resume call') call => call = call' ∧ c.AtMost call
  | .prepared _ _ call => c.inFlight = [] ∧ c.sendBuf = call
  | .receiving _ _ call _ => c.AtMost call
  | .ended _ | .finished _ => c.inFlight = []
  | .interrupted _ call | .parking _ call => c.AtMost call

structure Flights (p : ChannelPool) : Prop where
  held : ∀ t ch, (p.thread t).channel = some ch → FlightOk (p.chan ch) (p.thread t)
  unheld : ∀ ch, (∀ t, (p.thread t).channel ≠ some ch) → (p.chan ch).AtMost (p.chan ch).parked
  free : ∀ ch ∈ p.freeChannels, (p.chan ch).inFlight = []

theorem Flights.empty : Flights {} where
  held := nofun
  unheld := fun _ _ => .inl rfl
  free := nofun

/-- **Frame.** A thread moves on, and only the channel that it has or takes changes. -/
theorem Flights.update {p p' : ChannelPool} (h : Flights p) {t ch : Nat} {th : RpcThread}
    {c : HabChannel} (ht : (p.thread t).channel = none ∨ (p.thread t).channel = some ch)
    (hother : ∀ t', t' ≠ t → (p.thread t').channel ≠ some ch)
    (hthread : p'.thread = Function.update p.thread t th)
    (hchan : p'.chan = Function.update p.chan ch c) (hflight : FlightOk c th)
    (hth : th.channel = some ch ∨ th.channel = none ∧ c.AtMost c.parked)
    (hfree : ∀ ch' ∈ p'.freeChannels, ch' ≠ ch → ch' ∈ p.freeChannels)
    (hself : ch ∈ p'.freeChannels → c.inFlight = []) : Flights p' := by
  refine ⟨?_, ?_, ?_⟩
  · intro t' ch' hch'
    rw [hthread] at hch' ⊢
    rw [hchan]
    by_cases heq : t' = t
    · rw [heq, Function.update_self] at hch' ⊢
      rcases hth with hth | ⟨hth, -⟩
      · obtain rfl := Option.some.inj (hth.symm.trans hch')
        rw [Function.update_self]
        exact hflight
      · rw [hth] at hch'
        cases hch'
    · rw [Function.update_of_ne heq] at hch' ⊢
      have hne : ch' ≠ ch := fun hcc => hother t' heq (hcc ▸ hch')
      rw [Function.update_of_ne hne]
      exact h.held t' ch' hch'
  · intro ch' hnobody
    rw [hchan]
    by_cases hcc : ch' = ch
    · subst hcc
      rw [Function.update_self]
      rcases hth with hth | ⟨-, hparked⟩
      · refine absurd ?_ (hnobody t)
        rw [hthread, Function.update_self, hth]
      · exact hparked
    · rw [Function.update_of_ne hcc]
      refine h.unheld ch' ?_
      intro t' hch'
      by_cases heq : t' = t
      · rw [heq] at hch'
        rcases ht with ht | ht
        · rw [ht] at hch'
          cases hch'
        · exact hcc (Option.some.inj (hch'.symm.trans ht))
      · refine hnobody t' ?_
        rw [hthread, Function.update_of_ne heq, hch']
  · intro ch' hmem
    rw [hchan]
    by_cases hcc : ch' = ch
    · rw [hcc, Function.update_self]
      exact hself (hcc ▸ hmem)
    · rw [Function.update_of_ne hcc]
      exact h.free ch' (hfree ch' hmem hcc)

/-- The holder of a channel moves on with it. -/
theorem Flights.advance {p p' : ChannelPool} (h : Flights p) (hexcl : Exclusive p) {t ch : Nat}
    {th : RpcThread} {c : HabChannel} (hheld : (p.thread t).channel = some ch)
    (hthread : p'.thread = Function.update p.thread t th)
    (hchan : p'.chan = Function.update p.chan ch c) (hfree : p'.freeChannels = p.freeChannels)
    (hth : th.channel = some ch) (hflight : FlightOk c th) : Flights p' := by
  refine h.update (.inr hheld) ?_ hthread hchan hflight (.inl hth) ?_ ?_
  · intro t' hne hch'
    exact hne (hexcl.unique t' t ch hch' hheld)
  · intro ch' hmem _
    rwa [hfree] at hmem
  · intro hmem
    rw [hfree] at hmem
    exact absurd (hexcl.heldBusy t ch hheld) (hexcl.shared.not_both hmem)

/-! ## Numbers of calls -/

/-- The call whose request a thread is about to send. -/
def writes : RpcThread → Option Nat
  | .prepared _ .plain call | .prepared _ .fresh call => some call
  | _ => none

structure Numbers (p : ChannelPool) : Prop where
  answers : ∀ a ∈ p.answers, a.1 = a.2
  sentLt : ∀ call ∈ p.sent, call < p.nextCall
  sentNodup : p.sent.Nodup
  unsent : ∀ t call, writes (p.thread t) = some call → call < p.nextCall ∧ call ∉ p.sent
  unique : ∀ t t' call, writes (p.thread t) = some call → writes (p.thread t') = some call → t = t'

theorem Numbers.empty : Numbers {} where
  answers := nofun
  sentLt := nofun
  sentNodup := .nil
  unsent := nofun
  unique := nofun

/-- A thread moves on without a request to send. -/
theorem Numbers.advance {p p' : ChannelPool} (h : Numbers p) {t : Nat} {th : RpcThread}
    (hthread : p'.thread = Function.update p.thread t th) (hth : writes th = none)
    (hnext : p.nextCall ≤ p'.nextCall) (hsent : p'.sent = p.sent)
    (hanswers : ∀ a ∈ p'.answers, a.1 = a.2) : Numbers p' := by
  have hwrites : ∀ t' call, writes (p'.thread t') = some call → writes (p.thread t') = some call := by
    intro t' call hcall
    rw [hthread] at hcall
    by_cases heq : t' = t
    · rw [heq, Function.update_self, hth] at hcall
      cases hcall
    · rwa [Function.update_of_ne heq] at hcall
  refine ⟨hanswers, ?_, hsent ▸ h.sentNodup, ?_, ?_⟩
  · intro call hcall
    rw [hsent] at hcall
    exact (h.sentLt call hcall).trans_le hnext
  · intro t' call hcall
    rw [hsent]
    obtain ⟨hlt, hnot⟩ := h.unsent t' call (hwrites t' call hcall)
    exact ⟨hlt.trans_le hnext, hnot⟩
  · intro t₁ t₂ call h₁ h₂
    exact h.unique t₁ t₂ call (hwrites t₁ call h₁) (hwrites t₂ call h₂)

/-- A thread writes the request of a new call. -/
theorem Numbers.write {p p' : ChannelPool} (h : Numbers p) {t : Nat} {th : RpcThread}
    (hthread : p'.thread = Function.update p.thread t th) (hth : writes th = some p.nextCall)
    (hnext : p'.nextCall = p.nextCall + 1) (hsent : p'.sent = p.sent)
    (hanswers : p'.answers = p.answers) : Numbers p' := by
  have hwrites : ∀ t' call, writes (p'.thread t') = some call →
      t' = t ∧ call = p.nextCall ∨ t' ≠ t ∧ writes (p.thread t') = some call := by
    intro t' call hcall
    rw [hthread] at hcall
    by_cases heq : t' = t
    · rw [heq, Function.update_self, hth, Option.some.injEq] at hcall
      exact .inl ⟨heq, hcall.symm⟩
    · rw [Function.update_of_ne heq] at hcall
      exact .inr ⟨heq, hcall⟩
  refine ⟨hanswers ▸ h.answers, ?_, hsent ▸ h.sentNodup, ?_, ?_⟩
  · intro call hcall
    rw [hsent] at hcall
    rw [hnext]
    exact Nat.lt_succ_of_lt (h.sentLt call hcall)
  · intro t' call hcall
    rw [hnext, hsent]
    rcases hwrites t' call hcall with ⟨-, rfl⟩ | ⟨-, hold⟩
    · exact ⟨Nat.lt_succ_self _, fun hmem => Nat.lt_irrefl _ (h.sentLt _ hmem)⟩
    · obtain ⟨hlt, hnot⟩ := h.unsent t' call hold
      exact ⟨Nat.lt_succ_of_lt hlt, hnot⟩
  · intro t₁ t₂ call h₁ h₂
    rcases hwrites t₁ call h₁ with ⟨ht₁, hc₁⟩ | ⟨-, hold₁⟩
    · rcases hwrites t₂ call h₂ with ⟨ht₂, -⟩ | ⟨-, hold₂⟩
      · exact ht₁.trans ht₂.symm
      · exact absurd (h.unsent t₂ call hold₂).1 (by omega)
    · rcases hwrites t₂ call h₂ with ⟨-, hc₂⟩ | ⟨-, hold₂⟩
      · exact absurd (h.unsent t₁ call hold₁).1 (by omega)
      · exact h.unique t₁ t₂ call hold₁ hold₂

/-- A thread sends the request that it has written. -/
theorem Numbers.send {p p' : ChannelPool} (h : Numbers p) {t call : Nat} {th : RpcThread}
    (hwrote : writes (p.thread t) = some call)
    (hthread : p'.thread = Function.update p.thread t th) (hth : writes th = none)
    (hnext : p'.nextCall = p.nextCall) (hsent : p'.sent = p.sent ++ [call])
    (hanswers : p'.answers = p.answers) : Numbers p' := by
  obtain ⟨hlt, hnot⟩ := h.unsent t call hwrote
  have hwrites : ∀ t' call', writes (p'.thread t') = some call' →
      t' ≠ t ∧ writes (p.thread t') = some call' := by
    intro t' call' hcall
    rw [hthread] at hcall
    by_cases heq : t' = t
    · rw [heq, Function.update_self, hth] at hcall
      cases hcall
    · rw [Function.update_of_ne heq] at hcall
      exact ⟨heq, hcall⟩
  refine ⟨hanswers ▸ h.answers, ?_, ?_, ?_, ?_⟩
  · intro call' hmem
    rw [hsent] at hmem
    rw [hnext]
    rcases List.mem_append.1 hmem with hold | hnew
    · exact h.sentLt call' hold
    · exact List.mem_singleton.1 hnew ▸ hlt
  · rw [hsent]
    refine List.nodup_append.2 ⟨h.sentNodup, List.nodup_singleton call, ?_⟩
    rintro a ha b hb rfl
    exact hnot (List.mem_singleton.1 hb ▸ ha)
  · intro t' call' hcall
    obtain ⟨hne, hold⟩ := hwrites t' call' hcall
    obtain ⟨hlt', hnot'⟩ := h.unsent t' call' hold
    rw [hnext, hsent]
    refine ⟨hlt', ?_⟩
    intro hmem
    rcases List.mem_append.1 hmem with hmem | hmem
    · exact hnot' hmem
    · obtain rfl := List.mem_singleton.1 hmem
      exact hne (h.unique t' t call' hold hwrote)
  · intro t₁ t₂ call' h₁ h₂
    exact h.unique t₁ t₂ call' (hwrites t₁ call' h₁).2 (hwrites t₂ call' h₂).2

/-! ## Invariant -/

structure Paired (p : ChannelPool) : Prop where
  exclusive : Exclusive p
  flights : Flights p
  numbers : Numbers p

theorem Paired.empty : Paired {} := ⟨.empty, .empty, .empty⟩

/-! ## Steps -/

/-- A transaction that ends with nothing in flight leaves its caller nothing to wait for. -/
theorem flightOk_afterTransact {c : HabChannel} (h : c.inFlight = []) (ch call : Nat) (k : RpcCaller)
    (ret : Int) : FlightOk c (afterTransact ch call k ret) := by
  unfold afterTransact
  cases k with
  | plain => exact h
  | fresh | resume call' =>
      rw [if_neg (by simp [RpcCaller.interruptible])]
      split
      · exact .inl h
      · exact h

theorem writes_afterTransact (ch call : Nat) (k : RpcCaller) (ret : Int) :
    writes (afterTransact ch call k ret) = none := by
  unfold afterTransact
  split
  · rfl
  · split <;> rfl

/-- A channel that waits for a retry is held to resume a call. -/
theorem Exclusive.resumes {p : ChannelPool} (h : Exclusive p) {t ch : Nat} {k : RpcCaller}
    (hheld : (p.thread t).channel = some ch)
    (hat : retryAt (p.thread t) = retryAt (.holding ch k)) :
    (p.chan ch).waitRetry = true ↔ ∃ call, k = .resume call := by
  have hretry := h.retry t ch hheld
  rw [hat] at hretry
  cases k with
  | plain | fresh => simp [hretry false rfl]
  | resume call => simp [hretry true rfl]

/-- What the thread that has a channel may find in flight on it. -/
theorem Flights.of_thread {p : ChannelPool} (h : Flights p) {t ch : Nat} {th : RpcThread}
    (hthread : p.thread t = th) (hheld : (p.thread t).channel = some ch) : FlightOk (p.chan ch) th := by
  subst hthread
  exact h.held t ch hheld

theorem Paired.get {p p' : ChannelPool} {t : Nat} {interruptible created : Bool} (h : Paired p)
    (heffect : Effect p (.get t interruptible created) p') : Flights p' ∧ Numbers p' := by
  have hflight : ∀ c : HabChannel, c.inFlight = [] → ∀ ch,
      FlightOk c (.holding ch (if interruptible then .fresh else .plain)) := by
    intro c hc ch
    cases interruptible <;> exact hc
  cases heffect with
  | noChannel => exact ⟨h.flights, h.numbers⟩
  | @take _ _ _ ch rest hidle hfree =>
      have hnone : (p.thread t).channel = none := by rw [hidle]; rfl
      have hmem : ch ∈ p.freeChannels := by
        rw [hfree]
        exact List.mem_cons_self
      have hempty := h.flights.free ch hmem
      constructor
      · refine h.flights.update (.inl hnone) ?_ rfl rfl (hflight _ hempty ch) (.inl rfl) ?_
          (fun _ => hempty)
        · intro t' _ hheld
          exact h.exclusive.shared.not_both hmem (h.exclusive.heldBusy t' ch hheld)
        · intro ch' hch' _
          rw [hfree]
          exact List.mem_cons_of_mem ch hch'
      · exact h.numbers.advance rfl rfl le_rfl rfl h.numbers.answers
  | create _ _ _ hidle _ =>
      have hnone : (p.thread t).channel = none := by rw [hidle]; rfl
      constructor
      · refine h.flights.update (.inl hnone) ?_ rfl rfl (hflight _ rfl _) (.inl rfl)
          (fun _ hch' _ => hch') (fun _ => rfl)
        intro t' _ hheld
        have hmem := (h.exclusive.shared.mem_iff _).1 (.inr (h.exclusive.heldBusy t' _ hheld))
        exact absurd hmem.2 (Nat.not_succ_le_self p.count)
      · exact h.numbers.advance rfl rfl le_rfl rfl h.numbers.answers

theorem Paired.getById {p p' : ChannelPool} {t : Nat} {id : Int} (h : Paired p)
    (hticket : p.usesTicket (.getById t id) = true) (heffect : Effect p (.getById t id) p') :
    Flights p' ∧ Numbers p' := by
  cases heffect with
  | badId => exact ⟨h.flights, h.numbers⟩
  | @resume _ _ ch hidle hfound _ _ =>
      simp only [usesTicket, hfound] at hticket
      have hnobody : ∀ t', (p.thread t').channel ≠ some ch := by
        intro t' hheld
        rw [h.exclusive.noTicket t' ch hheld] at hticket
        cases hticket
      have hnone : (p.thread t).channel = none := by rw [hidle]; rfl
      constructor
      · exact h.flights.update (.inl hnone) (fun t' _ => hnobody t') rfl rfl
          (h.flights.unheld ch hnobody) (.inl rfl) (fun _ hmem _ => hmem)
          (fun hmem => h.flights.free ch hmem)
      · exact h.numbers.advance rfl rfl le_rfl rfl h.numbers.answers

/-- The parameters are written exactly by the calls that do not resume another one. -/
theorem Paired.prepare {p p' : ChannelPool} {t : Nat} {written : Bool} (h : Paired p)
    (heffect : Effect p (.prepare t written) p') : Flights p' ∧ Numbers p' := by
  have hresumes : ∀ {ch k}, p.thread t = .holding ch k →
      ((p.chan ch).waitRetry = true ↔ ∃ call, k = .resume call) := fun hthread =>
    h.exclusive.resumes (by rw [hthread]; rfl) (by rw [hthread])
  cases heffect with
  | @skip _ _ ch k hthread hretry _ =>
      have hheld : (p.thread t).channel = some ch := by rw [hthread]; rfl
      have hflight := h.flights.of_thread hthread hheld
      obtain ⟨call, rfl⟩ := (hresumes hthread).1 hretry
      constructor
      · exact h.flights.advance h.exclusive hheld rfl (c := p.chan ch)
          (Function.update_eq_self ch p.chan).symm rfl rfl ⟨rfl, hflight⟩
      · exact h.numbers.advance rfl rfl (Nat.le_succ _) rfl h.numbers.answers
  | @write _ ch k hthread hwrite =>
      have hheld : (p.thread t).channel = some ch := by rw [hthread]; rfl
      have hflight := h.flights.of_thread hthread hheld
      cases k with
      | resume call => cases hwrite ((hresumes hthread).2 ⟨call, rfl⟩)
      | plain | fresh =>
          constructor
          · exact h.flights.advance h.exclusive hheld rfl rfl rfl rfl ⟨hflight, rfl⟩
          · exact h.numbers.write rfl rfl rfl rfl rfl
  | @noWrite _ ch k hthread hwrite =>
      have hheld : (p.thread t).channel = some ch := by rw [hthread]; rfl
      have hflight := h.flights.of_thread hthread hheld
      cases k with
      | resume call => cases hwrite ((hresumes hthread).2 ⟨call, rfl⟩)
      | plain | fresh =>
          constructor
          · exact h.flights.advance h.exclusive hheld rfl (c := p.chan ch)
              (Function.update_eq_self ch p.chan).symm rfl rfl hflight
          · exact h.numbers.advance rfl rfl (Nat.le_succ _) rfl h.numbers.answers

/-- A call that resumes another one sends nothing, any other one sends what it has written. -/
theorem Paired.transact {p p' : ChannelPool} {t opcode : Nat} {sendRet : Int} (h : Paired p)
    (heffect : Effect p (.transact t opcode sendRet) p') : Flights p' ∧ Numbers p' := by
  have hresumes : ∀ {ch k call}, p.thread t = .prepared ch k call →
      ((p.chan ch).waitRetry = true ↔ ∃ call, k = .resume call) := fun hthread =>
    h.exclusive.resumes (by rw [hthread]; rfl) (by rw [hthread]; rfl)
  -- a caller that finds the channel free of a retry has written its request
  have hwritten : ∀ {ch k call}, p.thread t = .prepared ch k call → (p.chan ch).waitRetry = false →
      (p.chan ch).inFlight = [] ∧ (p.chan ch).sendBuf = call ∧ writes (p.thread t) = some call := by
    intro ch k call hthread hclear
    have hflight := h.flights.of_thread hthread (by rw [hthread]; rfl)
    have hnot := hresumes hthread
    rw [hclear] at hnot
    rw [hthread]
    cases k with
    | plain | fresh => exact ⟨hflight.1, hflight.2, rfl⟩
    | resume call' => exact absurd (hnot.2 ⟨call', rfl⟩) Bool.false_ne_true
  cases heffect with
  | @retried _ _ _ ch call k hthread hretry _ =>
      have hheld : (p.thread t).channel = some ch := by rw [hthread]; rfl
      have hflight := h.flights.of_thread hthread hheld
      obtain ⟨call', rfl⟩ := (hresumes hthread).1 hretry
      constructor
      · exact h.flights.advance h.exclusive hheld rfl rfl rfl rfl hflight.2
      · exact h.numbers.advance rfl rfl le_rfl rfl h.numbers.answers
  | refused _ _ _ hthread hretry hint =>
      obtain ⟨call', rfl⟩ := (hresumes hthread).1 hretry
      cases hint
  | @failed _ _ _ ch call k e hthread hretry =>
      have hheld : (p.thread t).channel = some ch := by rw [hthread]; rfl
      constructor
      · exact h.flights.advance h.exclusive hheld rfl (c := p.chan ch)
          (Function.update_eq_self ch p.chan).symm rfl (afterTransact_channel ch call k e)
          (flightOk_afterTransact (hwritten hthread hretry).1 ch call k e)
      · exact h.numbers.advance rfl (writes_afterTransact ch call k e) le_rfl rfl h.numbers.answers
  | @sent _ _ _ ch call k hthread hretry =>
      have hheld : (p.thread t).channel = some ch := by rw [hthread]; rfl
      obtain ⟨hempty, hbuf, hwrites⟩ := hwritten hthread hretry
      constructor
      · refine h.flights.advance h.exclusive hheld rfl rfl rfl rfl (.inr ?_)
        unfold HabChannel.inFlight at hempty ⊢
        rw [← List.append_assoc, List.map_append, hempty, ← hbuf]
        rfl
      · exact h.numbers.send hwrites rfl rfl rfl (by rw [← hbuf]; rfl) rfl

theorem Paired.recv {p p' : ChannelPool} {t : Nat} {res : RecvResult} (h : Paired p)
    (htakes : p.takesReply (.recv t res) = true) (heffect : Effect p (.recv t res) p') :
    Flights p' ∧ Numbers p' := by
  cases heffect with
  | @recv _ _ ch call opcode k r hthread hr =>
      have hheld : (p.thread t).channel = some ch := by rw [hthread]; rfl
      -- nothing but this call is in flight on the channel
      have hflight : (p.chan ch).AtMost call := h.flights.of_thread hthread hheld
      have hchannel := afterTransact_channel ch call k (retOf r.1)
      have hwrites := writes_afterTransact ch call k (retOf r.1)
      have hanswers : (∀ a ∈ answersOf call r.1, a.1 = a.2) →
          ∀ a ∈ p.answers ++ answersOf call r.1, a.1 = a.2 := by
        intro hnew a ha
        rcases List.mem_append.1 ha with hold | hlast
        · exact h.numbers.answers a hold
        · exact hnew a hlast
      simp only [takesReply, hthread] at htakes
      cases hr with
      | replied m rest hreplies hopcode =>
          obtain ⟨hcall, hempty⟩ := hflight.take hreplies
          constructor
          · exact h.flights.advance h.exclusive hheld rfl rfl rfl hchannel
              (flightOk_afterTransact hempty ch call k _)
          · refine h.numbers.advance rfl hwrites le_rfl rfl (hanswers ?_)
            intro a ha
            obtain rfl := List.mem_singleton.1 ha
            exact hcall.symm
      | mismatched m rest hreplies | consumed m rest hreplies =>
          obtain ⟨hcall, hempty⟩ := hflight.take hreplies
          constructor
          · exact h.flights.advance h.exclusive hheld rfl rfl rfl hchannel
              (flightOk_afterTransact hempty ch call k _)
          · exact h.numbers.advance rfl hwrites le_rfl rfl (hanswers nofun)
      | interrupted =>
          constructor
          · refine h.flights.advance h.exclusive hheld rfl rfl rfl hchannel ?_
            by_cases hint : k.interruptible = true
            · have hafter : afterTransact ch call k (-EINTR) = .interrupted ch call := by
                rw [afterTransact, if_neg (by simp [hint]), if_pos rfl]
              show FlightOk (p.chan ch) (afterTransact ch call k (-EINTR))
              rw [hafter]
              exact hflight
            · simp only [hint, Bool.false_or, decide_eq_true_eq] at htakes
              exact flightOk_afterTransact htakes ch call k _
          · exact h.numbers.advance rfl hwrites le_rfl rfl (hanswers nofun)
      | left =>
          simp only [Bool.false_or, decide_eq_true_eq] at htakes
          constructor
          · exact h.flights.advance h.exclusive hheld rfl rfl rfl hchannel
              (flightOk_afterTransact htakes ch call k _)
          · exact h.numbers.advance rfl hwrites le_rfl rfl (hanswers nofun)

/-- A thread gives its channel up with at most the call in flight that the channel keeps. -/
theorem Paired.giveUp {p p' : ChannelPool} (h : Paired p) {t ch : Nat} {c : HabChannel}
    (hheld : (p.thread t).channel = some ch) (hthread : p'.thread = Function.update p.thread t .idle)
    (hchan : p'.chan = Function.update p.chan ch c) (hparked : c.AtMost c.parked)
    (hfree : ∀ ch' ∈ p'.freeChannels, ch' ≠ ch → ch' ∈ p.freeChannels)
    (hself : ch ∈ p'.freeChannels → c.inFlight = []) (hnext : p'.nextCall = p.nextCall)
    (hsent : p'.sent = p.sent) (hanswers : p'.answers = p.answers) : Flights p' ∧ Numbers p' := by
  constructor
  · refine h.flights.update (.inr hheld) ?_ hthread hchan trivial (.inr ⟨rfl, hparked⟩) hfree hself
    intro t' hne hheld'
    exact hne (h.exclusive.unique t' t ch hheld' hheld)
  · exact h.numbers.advance hthread rfl (Nat.le_of_eq hnext.symm) hsent
      (hanswers ▸ h.numbers.answers)

theorem Paired.put {p p' : ChannelPool} {t : Nat} (h : Paired p)
    (heffect : Effect p (.put t) p') : Flights p' ∧ Numbers p' := by
  cases heffect with
  | @put _ ch hthread =>
      have hheld := channel_of_put hthread
      have hempty : (p.chan ch).inFlight = [] := by
        rcases hthread with hfinished | hholding
        · exact h.flights.of_thread hfinished hheld
        · exact h.flights.of_thread hholding hheld
      refine h.giveUp hheld rfl rfl (.inl hempty) ?_ (fun _ => hempty) rfl rfl rfl
      intro ch' hmem hne
      rcases List.mem_append.1 hmem with hmem | hmem
      · exact List.mem_of_mem_erase hmem
      · exact absurd (List.mem_singleton.1 hmem) hne

/-- The backend moves a request from one direction of the channel to the other. -/
theorem Paired.answer {p p' : ChannelPool} {ch : Nat} (h : Paired p)
    (heffect : Effect p (.answer ch) p') : Flights p' ∧ Numbers p' := by
  cases heffect with
  | @answer _ m rest hrequests =>
      have hsame : ∀ ch', ((p.setChan ch { p.chan ch with
          requests := rest, replies := (p.chan ch).replies ++ [m] }).chan ch').inFlight =
            (p.chan ch').inFlight ∧ ((p.setChan ch { p.chan ch with
          requests := rest, replies := (p.chan ch).replies ++ [m] }).chan ch').sendBuf =
            (p.chan ch').sendBuf ∧ ((p.setChan ch { p.chan ch with
          requests := rest, replies := (p.chan ch).replies ++ [m] }).chan ch').parked =
            (p.chan ch').parked := by
        refine (Function.forall_update_iff p.chan fun ch' c => c.inFlight = (p.chan ch').inFlight ∧
          c.sendBuf = (p.chan ch').sendBuf ∧ c.parked = (p.chan ch').parked).2
            ⟨⟨?_, rfl, rfl⟩, fun _ _ => ⟨rfl, rfl, rfl⟩⟩
        unfold HabChannel.inFlight
        rw [List.append_assoc, hrequests]
        rfl
      refine ⟨⟨?_, ?_, ?_⟩, h.numbers.answers, h.numbers.sentLt, h.numbers.sentNodup,
        h.numbers.unsent, h.numbers.unique⟩
      · intro t ch' hheld
        have hold := h.flights.held t ch' hheld
        show FlightOk _ (p.thread t)
        unfold FlightOk HabChannel.AtMost at hold ⊢
        rwa [(hsame ch').1, (hsame ch').2.1]
      · intro ch' hnobody
        have hold := h.flights.unheld ch' hnobody
        unfold HabChannel.AtMost at hold ⊢
        rwa [(hsame ch').1, (hsame ch').2.2]
      · intro ch' hmem
        rw [(hsame ch').1]
        exact h.flights.free ch' hmem

/-- **Step lemma.** -/
theorem Paired.step {p p' : ChannelPool} {a : PoolAct} (h : Paired p)
    (hstep : Trace.guarded inStep step p a = some p') : Paired p' := by
  obtain ⟨⟨hticket, htakes⟩, hstep⟩ := Trace.guarded_eq_some.1 hstep
  have hexcl : Exclusive p' := h.exclusive.step (Trace.guarded_eq_some.2 ⟨hticket, hstep⟩)
  suffices hrest : Flights p' ∧ Numbers p' from ⟨hexcl, hrest.1, hrest.2⟩
  have heffect := step_cases hstep
  cases a with
  | get t interruptible created => exact h.get heffect
  | getById t id => exact h.getById hticket heffect
  | prepare t written => exact h.prepare heffect
  | transact t opcode sendRet => exact h.transact heffect
  | recv t res => exact h.recv htakes heffect
  | put t => exact h.put heffect
  | answer ch => exact h.answer heffect
  | clearRetry t =>
      cases heffect with
      | @clearRetry _ ch hthread =>
          have hheld : (p.thread t).channel = some ch := by rw [hthread]; rfl
          have hflight := h.flights.of_thread hthread hheld
          constructor
          · exact h.flights.advance h.exclusive hheld rfl rfl rfl rfl hflight
          · exact h.numbers.advance rfl rfl le_rfl rfl h.numbers.answers
  | clearBusy t =>
      cases heffect with
      | @clearBusy _ ch call hthread =>
          have hheld : (p.thread t).channel = some ch := by rw [hthread]; rfl
          have hflight := h.flights.of_thread hthread hheld
          constructor
          · exact h.flights.advance h.exclusive hheld rfl rfl rfl rfl hflight
          · exact h.numbers.advance rfl rfl le_rfl rfl h.numbers.answers
  | setRetry t =>
      cases heffect with
      | @setRetry _ ch call hthread =>
          have hheld : (p.thread t).channel = some ch := by rw [hthread]; rfl
          have hflight := h.flights.of_thread hthread hheld
          refine h.giveUp hheld rfl rfl hflight (fun _ hmem _ => hmem) ?_ rfl rfl rfl
          intro hmem
          exact absurd (h.exclusive.heldBusy t ch hheld) (h.exclusive.shared.not_both hmem)

/-! ## Runs -/

/-- In a run in which calls and replies stay in step, every reply that a call returns with is the reply
    to its own request, and no request is sent twice. -/
theorem replies_paired_of_inStep (as : List PoolAct) (p : ChannelPool)
    (h : Trace.exec (Trace.guarded inStep step) {} as = some p) :
    (∀ a ∈ p.answers, a.1 = a.2) ∧ p.sent.Nodup := by
  have hpaired : Paired p := Trace.exec_invariant (fun _ _ _ h hstep => h.step hstep) Paired.empty h
  exact ⟨hpaired.numbers.answers, hpaired.numbers.sentNodup⟩

/-- Thread `t` makes a plain call on a new or free channel, and its reply comes. -/
def plainCall (t : Nat) : List PoolAct :=
  [.get t false true, .prepare t true, .transact t 5 0, .answer 1, .recv t .reply, .put t]

theorem replies_paired_of_inStep_resumedRun :
    ∃ p, Trace.exec (Trace.guarded inStep step) {}
        (interruptedCall 1 ++ resumedCall 2 ++ plainCall 3) = some p ∧
      p.answers = [(0, 0), (2, 2)] ∧ p.sent = [0, 2] ∧ (∀ a ∈ p.answers, a.1 = a.2) ∧
      p.sent.Nodup := by
  have heval : (Trace.exec (Trace.guarded inStep step) {}
      (interruptedCall 1 ++ resumedCall 2 ++ plainCall 3)).map (fun p => (p.answers, p.sent)) =
        some ([(0, 0), (2, 2)], [0, 2]) := by
    decide +kernel
  obtain ⟨p, hp, heq⟩ := Option.map_eq_some_iff.1 heval
  obtain ⟨hanswers, hsent⟩ := Prod.mk.inj heq
  obtain ⟨hpaired, hnodup⟩ := replies_paired_of_inStep _ p hp
  exact ⟨p, hp, hanswers, hsent, hpaired, hnodup⟩

/-- A failed receive leaves its reply to the next call with the same opcode; an id that is used twice
    sends a request again. -/
theorem reply_of_other_call_returned :
    (∃ p ∈ Trace.exec step {} [.get 1 false true, .prepare 1 true, .transact 1 7 0,
        .recv 1 (.failed false), .put 1, .get 2 false true, .prepare 2 true, .transact 2 7 0,
        .answer 1, .recv 2 .reply],
      (1, 0) ∈ p.answers) ∧
    ∃ p ∈ Trace.exec step {} (interruptedCall 1 ++ [.getById 2 1, .getById 3 1, .prepare 2 true,
        .transact 2 7 0, .answer 1, .recv 2 .reply, .prepare 3 true, .clearRetry 2,
        .transact 3 7 0]),
      ¬p.sent.Nodup := by
  decide +kernel

end ChannelPool

end Hgsl
