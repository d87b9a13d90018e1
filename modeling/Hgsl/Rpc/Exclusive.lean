import Hgsl.Rpc.Effects
import Mathlib.Data.List.Perm.Basic
import Mathlib.Data.List.Range

set_option autoImplicit false

/-! # Holders of a channel

A channel has a holder from a successful get to its put, or to the moment it is parked by an interrupted
transaction. That it is on exactly one of the two lists holds in every run. That it has one holder does
not: `hgsl_hyp_channel_pool_get_by_id` looks at `wait_retry`, which stays set while a resumed call is
under way, and never at `busy`, so the id of a parked channel can be used twice. The condition
(`usesTicket`) is that a get by id uses an id that has been reported with `-EINTR` and not used since, or
is refused. -/

namespace Hgsl

namespace ChannelPool

/-! ## Condition -/

/-- A get by id is refused or uses up the ticket of its channel. -/
def usesTicket (p : ChannelPool) : PoolAct → Bool
  | .getById _ id =>
    match p.channelPoolGetById id with
    | .ok ch => (p.chan ch).ticket
    | .error _ => true
  | _ => true

/-! ## The lists -/

/-- The two lists share out the channels of the pool. -/
def Shared (p : ChannelPool) : Prop :=
  (p.freeChannels ++ p.busyChannels).Perm (List.range' 1 p.count)

theorem Shared.nodup {p : ChannelPool} (h : Shared p) :
    (p.freeChannels ++ p.busyChannels).Nodup :=
  h.nodup_iff.2 List.nodup_range'

theorem Shared.mem_iff {p : ChannelPool} (h : Shared p) (ch : Nat) :
    ch ∈ p.freeChannels ∨ ch ∈ p.busyChannels ↔ 1 ≤ ch ∧ ch ≤ p.count := by
  rw [← List.mem_append, List.Perm.mem_iff h, List.mem_range'_1]
  omega

theorem Shared.not_both {p : ChannelPool} (h : Shared p) {ch : Nat} (hfree : ch ∈ p.freeChannels) :
    ch ∉ p.busyChannels :=
  fun hbusy => (List.nodup_append.1 h.nodup).2.2 ch hfree ch hbusy rfl

theorem Shared.congr {p p' : ChannelPool} (h : Shared p) (hfree : p'.freeChannels = p.freeChannels)
    (hbusy : p'.busyChannels = p.busyChannels) (hcount : p'.count = p.count) : Shared p' := by
  unfold Shared
  rw [hfree, hbusy, hcount]
  exact h

/-- Putting a channel, whatever list it is on. -/
theorem Shared.moveToFree {p : ChannelPool} (h : Shared p) {ch : Nat}
    (hch : ch ∈ p.freeChannels ∨ ch ∈ p.busyChannels) : Shared (p.moveToFree ch) := by
  unfold Shared
  refine List.Perm.trans ?_ h
  show (p.freeChannels.erase ch ++ [ch] ++ p.busyChannels.erase ch).Perm
    (p.freeChannels ++ p.busyChannels)
  by_cases hfree : ch ∈ p.freeChannels
  · have hbusy := h.not_both hfree
    rw [List.erase_of_not_mem hbusy]
    refine List.Perm.append_right _ ?_
    exact (List.perm_append_singleton ch _).trans (List.perm_cons_erase hfree).symm
  · have hbusy := hch.resolve_left hfree
    rw [List.erase_of_not_mem hfree, List.append_assoc]
    exact List.Perm.append_left _ (List.perm_cons_erase hbusy).symm

/-- Taking the first free channel. -/
theorem Shared.take {p p' : ChannelPool} {ch : Nat} {rest : List Nat} (h : Shared p)
    (hfree : p.freeChannels = ch :: rest) (hfree' : p'.freeChannels = rest)
    (hbusy' : p'.busyChannels = p.busyChannels ++ [ch]) (hcount : p'.count = p.count) :
    Shared p' := by
  unfold Shared
  rw [hfree', hbusy', hcount, ← List.append_assoc]
  refine (List.perm_append_singleton ch _).trans ?_
  rw [← List.cons_append, ← hfree]
  exact h

/-- Creating a channel while none is free. -/
theorem Shared.create {p p' : ChannelPool} (h : Shared p) (hfree : p.freeChannels = [])
    (hfree' : p'.freeChannels = []) (hbusy' : p'.busyChannels = p.busyChannels ++ [p.count + 1])
    (hcount : p'.count = p.count + 1) : Shared p' := by
  unfold Shared at h ⊢
  rw [hfree, List.nil_append] at h
  rw [hfree', hbusy', hcount, List.nil_append, List.range'_concat, Nat.one_mul, Nat.add_comm 1]
  exact h.append_right [p.count + 1]

/-! ## Invariant -/

/-- What `wait_retry` is while a thread stands at a point, where it is known. -/
def retryAt : RpcThread → Option Bool
  | .holding _ k | .prepared _ k _ =>
    match k with
    | .plain | .fresh => some false
    | .resume _ => some true
  | .receiving _ .plain _ _ => some false
  | .finished _ => some false
  | _ => none

/-- A channel that can go to anybody. -/
structure Idle (c : HabChannel) : Prop where
  busy : c.busy = false
  waitRetry : c.waitRetry = false
  ticket : c.ticket = false

structure Exclusive (p : ChannelPool) : Prop where
  shared : Shared p
  unique : ∀ t t' ch, (p.thread t).channel = some ch → (p.thread t').channel = some ch → t = t'
  heldBusy : ∀ t ch, (p.thread t).channel = some ch → ch ∈ p.busyChannels
  noTicket : ∀ t ch, (p.thread t).channel = some ch → (p.chan ch).ticket = false
  retry : ∀ t ch, (p.thread t).channel = some ch →
    ∀ b ∈ retryAt (p.thread t), (p.chan ch).waitRetry = b
  freeIdle : ∀ ch ∈ p.freeChannels, Idle (p.chan ch)
  /-- a channel that waits for a retry has a ticket or is being used already -/
  waiting : ∀ ch, (p.chan ch).waitRetry = true →
    (p.chan ch).ticket = true ∨ ∃ t, (p.thread t).channel = some ch

theorem Exclusive.empty : Exclusive {} where
  waiting := nofun
  shared := List.Perm.nil
  unique := nofun
  heldBusy := nofun
  noTicket := nofun
  retry := nofun
  freeIdle := nofun

/-- **Frame.** The holder of a channel goes on, and only its channel changes. -/
theorem Exclusive.advance {p p' : ChannelPool} (h : Exclusive p) {t ch : Nat} {th : RpcThread}
    {c : HabChannel} (hheld : (p.thread t).channel = some ch)
    (hthread : p'.thread = Function.update p.thread t th)
    (hchan : p'.chan = Function.update p.chan ch c) (hfree : p'.freeChannels = p.freeChannels)
    (hbusy : p'.busyChannels = p.busyChannels) (hcount : p'.count = p.count)
    (hth : th.channel = some ch) (hticket : c.ticket = false)
    (hretry : ∀ b ∈ retryAt th, c.waitRetry = b) : Exclusive p' := by
  have hsame : ∀ t', (p'.thread t').channel = (p.thread t').channel := by
    intro t'
    rw [hthread]
    by_cases ht : t' = t
    · rw [ht, Function.update_self, hth, hheld]
    · rw [Function.update_of_ne ht]
  -- the others have other channels
  have hother : ∀ t' ch', t' ≠ t → (p.thread t').channel = some ch' → ch' ≠ ch := by
    rintro t' ch' ht hch' rfl
    exact ht (h.unique t' t ch' hch' hheld)
  have hnotFree : ch ∉ p.freeChannels :=
    fun hmem => h.shared.not_both hmem (h.heldBusy t ch hheld)
  refine ⟨h.shared.congr hfree hbusy hcount, ?_, ?_, ?_, ?_, ?_, ?_⟩
  · intro t₁ t₂ ch' h₁ h₂
    rw [hsame] at h₁ h₂
    exact h.unique t₁ t₂ ch' h₁ h₂
  · intro t' ch' hch'
    rw [hsame] at hch'
    rw [hbusy]
    exact h.heldBusy t' ch' hch'
  · intro t' ch' hch'
    rw [hsame] at hch'
    rw [hchan]
    by_cases ht : t' = t
    · rw [ht, hheld, Option.some.injEq] at hch'
      rw [← hch', Function.update_self, hticket]
    · rw [Function.update_of_ne (hother t' ch' ht hch')]
      exact h.noTicket t' ch' hch'
  · intro t' ch' hch' b hb
    rw [hsame] at hch'
    rw [hthread] at hb
    rw [hchan]
    by_cases ht : t' = t
    · rw [ht, Function.update_self] at hb
      rw [ht, hheld, Option.some.injEq] at hch'
      rw [← hch', Function.update_self]
      exact hretry b hb
    · rw [Function.update_of_ne ht] at hb
      rw [Function.update_of_ne (hother t' ch' ht hch')]
      exact h.retry t' ch' hch' b hb
  · intro ch' hmem
    rw [hfree] at hmem
    have hne : ch' ≠ ch := fun heq => hnotFree (heq ▸ hmem)
    rw [hchan, Function.update_of_ne hne]
    exact h.freeIdle ch' hmem
  · intro ch' hwait
    by_cases hne : ch' = ch
    · exact .inr ⟨t, by rw [hsame, hheld, hne]⟩
    · rw [hchan, Function.update_of_ne hne] at hwait ⊢
      refine (h.waiting ch' hwait).imp_right ?_
      rintro ⟨t', hch'⟩
      exact ⟨t', by rw [hsame, hch']⟩

/-- The holder of a channel goes on, and no channel changes. -/
theorem Exclusive.advance_thread {p p' : ChannelPool} (h : Exclusive p) {t ch : Nat}
    {th : RpcThread} (hheld : (p.thread t).channel = some ch)
    (hthread : p'.thread = Function.update p.thread t th) (hchan : p'.chan = p.chan)
    (hfree : p'.freeChannels = p.freeChannels) (hbusy : p'.busyChannels = p.busyChannels)
    (hcount : p'.count = p.count) (hth : th.channel = some ch)
    (hretry : ∀ b ∈ retryAt th, (p.chan ch).waitRetry = b) : Exclusive p' := by
  refine h.advance hheld hthread (c := p.chan ch) ?_ hfree hbusy hcount hth
    (h.noTicket t ch hheld) hretry
  rw [hchan, Function.update_eq_self]

/-- A thread that has no channel takes one that nobody has. -/
theorem Exclusive.acquire {p p' : ChannelPool} (h : Exclusive p) {t : Nat} (ch : Nat) {k : RpcCaller}
    {c : HabChannel} (hidle : p.thread t = .idle)
    (hfresh : ∀ t', (p.thread t').channel ≠ some ch)
    (hthread : p'.thread = Function.update p.thread t (.holding ch k))
    (hchan : p'.chan = Function.update p.chan ch c) (hshared : Shared p')
    (hbusy : ∀ ch' ∈ p.busyChannels, ch' ∈ p'.busyChannels) (hmem : ch ∈ p'.busyChannels)
    (hfree : ∀ ch' ∈ p'.freeChannels, ch' ∈ p.freeChannels) (hticket : c.ticket = false)
    (hretry : ∀ b ∈ retryAt (.holding ch k), c.waitRetry = b) : Exclusive p' := by
  have hother : ∀ t', t' ≠ t → p'.thread t' = p.thread t' := by
    intro t' ht
    rw [hthread, Function.update_of_ne ht]
  have hself : p'.thread t = .holding ch k := by rw [hthread, Function.update_self]
  -- no holder has the channel that changes
  have hchan' : ∀ t' ch', (p.thread t').channel = some ch' → p'.chan ch' = p.chan ch' := by
    intro t' ch' hch'
    have hne : ch' ≠ ch := fun heq => hfresh t' (heq ▸ hch')
    rw [hchan, Function.update_of_ne hne]
  refine ⟨hshared, ?_, ?_, ?_, ?_, ?_, ?_⟩
  · intro t₁ t₂ ch' h₁ h₂
    by_cases ht₁ : t₁ = t
    · by_cases ht₂ : t₂ = t
      · rw [ht₁, ht₂]
      · rw [ht₁, hself] at h₁
        rw [hother t₂ ht₂] at h₂
        exact absurd (h₂.trans h₁.symm) (hfresh t₂)
    · rw [hother t₁ ht₁] at h₁
      by_cases ht₂ : t₂ = t
      · rw [ht₂, hself] at h₂
        exact absurd (h₁.trans h₂.symm) (hfresh t₁)
      · rw [hother t₂ ht₂] at h₂
        exact h.unique t₁ t₂ ch' h₁ h₂
  · intro t' ch' hch'
    by_cases ht : t' = t
    · rw [ht, hself] at hch'
      obtain rfl := Option.some.inj hch'
      exact hmem
    · rw [hother t' ht] at hch'
      exact hbusy ch' (h.heldBusy t' ch' hch')
  · intro t' ch' hch'
    by_cases ht : t' = t
    · rw [ht, hself] at hch'
      obtain rfl := Option.some.inj hch'
      rw [hchan, Function.update_self, hticket]
    · rw [hother t' ht] at hch'
      rw [hchan' t' ch' hch']
      exact h.noTicket t' ch' hch'
  · intro t' ch' hch' b hb
    by_cases ht : t' = t
    · rw [ht, hself] at hch' hb
      obtain rfl := Option.some.inj hch'
      rw [hchan, Function.update_self]
      exact hretry b hb
    · rw [hother t' ht] at hch' hb
      rw [hchan' t' ch' hch']
      exact h.retry t' ch' hch' b hb
  · intro ch' hmem'
    have hne : ch' ≠ ch := fun heq => hshared.not_both hmem' (heq ▸ hmem)
    rw [hchan, Function.update_of_ne hne]
    exact h.freeIdle ch' (hfree ch' hmem')
  · intro ch' hwait
    by_cases hne : ch' = ch
    · exact .inr ⟨t, by rw [hself, hne]; rfl⟩
    · rw [hchan, Function.update_of_ne hne] at hwait ⊢
      refine (h.waiting ch' hwait).imp_right ?_
      rintro ⟨t', hch'⟩
      refine ⟨t', ?_⟩
      rw [hother t', hch']
      rintro rfl
      rw [hidle] at hch'
      cases hch'

/-- The holder of a channel gives it up. -/
theorem Exclusive.release {p p' : ChannelPool} (h : Exclusive p) {t ch : Nat} {c : HabChannel}
    (hheld : (p.thread t).channel = some ch)
    (hthread : p'.thread = Function.update p.thread t .idle)
    (hchan : p'.chan = Function.update p.chan ch c) (hshared : Shared p')
    (hbusy : ∀ ch' ∈ p.busyChannels, ch' ≠ ch → ch' ∈ p'.busyChannels)
    (hfree : ∀ ch' ∈ p'.freeChannels, ch' ≠ ch → ch' ∈ p.freeChannels)
    (hidle : ch ∈ p'.freeChannels → Idle c)
    (hwaiting : c.waitRetry = true → c.ticket = true) : Exclusive p' := by
  -- whoever still has a channel has not moved, and has another one
  have hsome : ∀ t' ch', (p'.thread t').channel = some ch' →
      p'.thread t' = p.thread t' ∧ (p.thread t').channel = some ch' ∧ ch' ≠ ch := by
    intro t' ch' hch'
    have ht : t' ≠ t := by
      rintro rfl
      rw [hthread, Function.update_self] at hch'
      cases hch'
    rw [hthread, Function.update_of_ne ht] at hch'
    refine ⟨by rw [hthread, Function.update_of_ne ht], hch', ?_⟩
    rintro rfl
    exact ht (h.unique t' t ch' hch' hheld)
  refine ⟨hshared, ?_, ?_, ?_, ?_, ?_, ?_⟩
  · intro t₁ t₂ ch' h₁ h₂
    exact h.unique t₁ t₂ ch' (hsome t₁ ch' h₁).2.1 (hsome t₂ ch' h₂).2.1
  · intro t' ch' hch'
    obtain ⟨-, hch, hne⟩ := hsome t' ch' hch'
    exact hbusy ch' (h.heldBusy t' ch' hch) hne
  · intro t' ch' hch'
    obtain ⟨-, hch, hne⟩ := hsome t' ch' hch'
    rw [hchan, Function.update_of_ne hne]
    exact h.noTicket t' ch' hch
  · intro t' ch' hch' b hb
    obtain ⟨hth, hch, hne⟩ := hsome t' ch' hch'
    rw [hth] at hb
    rw [hchan, Function.update_of_ne hne]
    exact h.retry t' ch' hch b hb
  · intro ch' hmem
    rw [hchan]
    by_cases hne : ch' = ch
    · rw [hne, Function.update_self]
      exact hidle (hne ▸ hmem)
    · rw [Function.update_of_ne hne]
      exact h.freeIdle ch' (hfree ch' hmem hne)
  · intro ch' hwait
    by_cases hne : ch' = ch
    · rw [hchan, hne, Function.update_self] at hwait ⊢
      exact .inl (hwaiting hwait)
    · rw [hchan, Function.update_of_ne hne] at hwait ⊢
      refine (h.waiting ch' hwait).imp_right ?_
      rintro ⟨t', hch'⟩
      refine ⟨t', ?_⟩
      have ht : t' ≠ t := by
        rintro rfl
        rw [hheld, Option.some.injEq] at hch'
        exact hne hch'.symm
      rw [hthread, Function.update_of_ne ht, hch']

/-! ## Steps -/

theorem afterTransact_channel (ch call : Nat) (k : RpcCaller) (ret : Int) :
    (afterTransact ch call k ret).channel = some ch := by
  unfold afterTransact
  split
  · rfl
  · split <;> rfl

/-- A channel that is put belongs to the thread that puts it. -/
theorem channel_of_put {p : ChannelPool} {t ch : Nat}
    (hthread : p.thread t = .finished ch ∨ p.thread t = .holding ch .plain) :
    (p.thread t).channel = some ch := by
  rcases hthread with hfinished | hholding
  · rw [hfinished]
    rfl
  · rw [hholding]
    rfl

theorem retryAt_afterTransact (ch call : Nat) (k : RpcCaller) (ret : Int) :
    ∀ b ∈ retryAt (afterTransact ch call k ret), k = .plain ∧ b = false := by
  intro b hb
  unfold afterTransact at hb
  cases k with
  | plain => exact ⟨rfl, (Option.some.inj hb).symm⟩
  | fresh =>
      rw [if_neg (by decide)] at hb
      split at hb <;> cases hb
  | resume call' =>
      rw [if_neg (by simp [RpcCaller.interruptible])] at hb
      split at hb <;> cases hb

/-- What the thread knows of the channel that it has. -/
theorem Exclusive.retry_of_thread {p : ChannelPool} (h : Exclusive p) {t ch : Nat} {th : RpcThread}
    (hthread : p.thread t = th) (hheld : (p.thread t).channel = some ch) :
    ∀ b ∈ retryAt th, (p.chan ch).waitRetry = b := by
  subst hthread
  exact h.retry t ch hheld

theorem Exclusive.get {p p' : ChannelPool} {t : Nat} {interruptible created : Bool}
    (h : Exclusive p) (heffect : Effect p (.get t interruptible created) p') : Exclusive p' := by
  have hretry : ∀ ch, ∀ b ∈ retryAt (.holding ch (if interruptible then .fresh else .plain)),
      false = b := by
    intro ch b hb
    cases interruptible <;> exact Option.some.inj hb
  cases heffect with
  | noChannel => exact h
  | @take _ _ _ ch rest hidle hfree =>
      have hmem : ch ∈ p.freeChannels := by
        rw [hfree]
        exact List.mem_cons_self
      have hidle' := h.freeIdle ch hmem
      refine h.acquire ch hidle ?_ rfl rfl (h.shared.take hfree rfl rfl rfl) ?_ ?_ ?_ hidle'.ticket ?_
      · intro t' hheld
        exact h.shared.not_both hmem (h.heldBusy t' ch hheld)
      · exact fun ch' hch' => List.mem_append_left _ hch'
      · exact List.mem_append_right _ List.mem_cons_self
      · intro ch' hch'
        rw [hfree]
        exact List.mem_cons_of_mem ch hch'
      · intro b hb
        exact hidle'.waitRetry.trans (hretry ch b hb)
  | create _ _ _ hidle hfree =>
      -- the channels that are held have lower ids
      have hnew : ∀ t', (p.thread t').channel ≠ some (p.count + 1) := by
        intro t' hheld
        have hmem := (h.shared.mem_iff (p.count + 1)).1 (.inr (h.heldBusy t' _ hheld))
        exact absurd hmem.2 (Nat.not_succ_le_self p.count)
      refine h.acquire _ hidle hnew rfl rfl (h.shared.create hfree hfree rfl rfl) ?_ ?_ ?_ rfl (hretry _)
      · exact fun ch' hch' => List.mem_append_left _ hch'
      · exact List.mem_append_right _ List.mem_cons_self
      · exact fun ch' hch' => hch'

/-- A channel taken by its id with a ticket has no other holder. -/
theorem Exclusive.getById {p p' : ChannelPool} {t : Nat} {id : Int} (h : Exclusive p)
    (hticket : p.usesTicket (.getById t id) = true) (heffect : Effect p (.getById t id) p') :
    Exclusive p' := by
  cases heffect with
  | badId => exact h
  | @resume _ _ ch hidle hfound hlisted hretry =>
      simp only [usesTicket, hfound] at hticket
      have hbusy : ch ∈ p.busyChannels := by
        rcases (h.shared.mem_iff ch).2 hlisted with hfree | hbusy
        · rw [(h.freeIdle _ hfree).waitRetry] at hretry
          cases hretry
        · exact hbusy
      refine h.acquire ch hidle ?_ rfl rfl (h.shared.congr rfl rfl rfl)
        (fun _ hmem => hmem) hbusy (fun _ hmem => hmem) rfl ?_
      · intro t' hheld
        rw [h.noTicket t' _ hheld] at hticket
        cases hticket
      · intro b hb
        obtain rfl := Option.some.inj hb
        exact hretry

theorem Exclusive.prepare {p p' : ChannelPool} {t : Nat} {written : Bool} (h : Exclusive p)
    (heffect : Effect p (.prepare t written) p') : Exclusive p' := by
  cases heffect with
  | @skip _ _ ch k hthread _ _ =>
      have hheld : (p.thread t).channel = some ch := by rw [hthread]; rfl
      have hretry := h.retry_of_thread hthread hheld
      exact h.advance_thread hheld rfl rfl rfl rfl rfl rfl hretry
  | @write _ ch k hthread _ =>
      have hheld : (p.thread t).channel = some ch := by rw [hthread]; rfl
      have hretry := h.retry_of_thread hthread hheld
      exact h.advance hheld rfl rfl rfl rfl rfl rfl (h.noTicket t ch hheld) hretry
  | @noWrite _ ch k hthread hwrite =>
      have hheld : (p.thread t).channel = some ch := by rw [hthread]; rfl
      have hretry := h.retry_of_thread hthread hheld
      refine h.advance_thread hheld rfl rfl rfl rfl rfl rfl ?_
      intro b hb
      obtain rfl := Option.some.inj hb
      cases k with
      | plain | fresh => exact hretry false rfl
      -- a call that resumes another one finds the channel waiting and writes nothing
      | resume call => cases hwrite (hretry true rfl)

theorem Exclusive.transact {p p' : ChannelPool} {t opcode : Nat} {sendRet : Int} (h : Exclusive p)
    (heffect : Effect p (.transact t opcode sendRet) p') : Exclusive p' := by
  have hplain : ∀ {ch call k}, p.thread t = .prepared ch k call →
      ∀ b, k = .plain ∧ b = false → (p.chan ch).waitRetry = b := by
    rintro ch call k hthread b ⟨rfl, rfl⟩
    exact h.retry_of_thread hthread (by rw [hthread]; rfl) false rfl
  have hrecv : ∀ ch call k, ∀ b ∈ retryAt (.receiving ch k call opcode), k = .plain ∧ b = false := by
    intro ch call k b hb
    cases k with
    | plain => exact ⟨rfl, (Option.some.inj hb).symm⟩
    | fresh | resume call' => cases hb
  cases heffect with
  | @retried _ _ _ ch call k hthread _ _ | @sent _ _ _ ch call k hthread _ =>
      have hheld : (p.thread t).channel = some ch := by rw [hthread]; rfl
      exact h.advance hheld rfl rfl rfl rfl rfl rfl (h.noTicket t ch hheld)
        fun b hb => hplain hthread b (hrecv ch call k b hb)
  | @refused _ _ _ ch call k hthread _ _ | @failed _ _ _ ch call k e hthread _ =>
      have hheld : (p.thread t).channel = some ch := by rw [hthread]; rfl
      exact h.advance_thread hheld rfl rfl rfl rfl rfl (afterTransact_channel ch call k _)
        fun b hb => hplain hthread b (retryAt_afterTransact ch call k _ b hb)

theorem Exclusive.recv {p p' : ChannelPool} {t : Nat} {res : RecvResult} (h : Exclusive p)
    (heffect : Effect p (.recv t res) p') : Exclusive p' := by
  cases heffect with
  | @recv _ _ ch call opcode k r hthread hr =>
      have hheld : (p.thread t).channel = some ch := by rw [hthread]; rfl
      have hplain : ∀ b ∈ retryAt (afterTransact ch call k (retOf r.1)), (p.chan ch).waitRetry = b := by
        intro b hb
        obtain ⟨rfl, rfl⟩ := retryAt_afterTransact ch call k _ b hb
        exact h.retry_of_thread hthread hheld false rfl
      have hchannel := afterTransact_channel ch call k (retOf r.1)
      have hticket := h.noTicket t ch hheld
      cases hr with
      | replied m rest | mismatched m rest | consumed m rest =>
          exact h.advance hheld rfl rfl rfl rfl rfl hchannel hticket hplain
      | interrupted | left => exact h.advance hheld rfl rfl rfl rfl rfl hchannel hticket hplain

theorem Exclusive.put {p p' : ChannelPool} {t : Nat} (h : Exclusive p)
    (heffect : Effect p (.put t) p') : Exclusive p' := by
  cases heffect with
  | @put _ ch hthread =>
      have hheld := channel_of_put hthread
      have hclear : (p.chan ch).waitRetry = false := by
        rcases hthread with hfinished | hholding
        · exact h.retry_of_thread hfinished hheld false rfl
        · exact h.retry_of_thread hholding hheld false rfl
      have hbusy := h.heldBusy t ch hheld
      have hshared : Shared (p.setChan ch { p.chan ch with busy := false }) :=
        h.shared.congr rfl rfl rfl
      refine h.release hheld rfl rfl (hshared.moveToFree (.inr hbusy)) ?_ ?_ ?_ ?_
      · intro ch' hmem hne
        exact (List.mem_erase_of_ne hne).2 hmem
      · intro ch' hmem hne
        rcases List.mem_append.1 hmem with hmem | hmem
        · exact List.mem_of_mem_erase hmem
        · exact absurd (List.mem_singleton.1 hmem) hne
      · intro _
        exact ⟨rfl, hclear, h.noTicket t ch hheld⟩
      · intro hwait
        exact absurd (hclear.symm.trans hwait) Bool.false_ne_true

theorem Exclusive.setRetry {p p' : ChannelPool} {t : Nat} (h : Exclusive p)
    (heffect : Effect p (.setRetry t) p') : Exclusive p' := by
  cases heffect with
  | @setRetry _ ch call hthread =>
      have hheld : (p.thread t).channel = some ch := by rw [hthread]; rfl
      refine h.release hheld rfl rfl (h.shared.congr rfl rfl rfl) (fun _ hmem _ => hmem)
        (fun _ hmem _ => hmem) ?_ (fun _ => rfl)
      intro hfree
      exact absurd (h.heldBusy t ch hheld) (h.shared.not_both hfree)

/-- The backend leaves the bits of a channel alone. -/
theorem Exclusive.answer {p p' : ChannelPool} {ch : Nat} (h : Exclusive p)
    (heffect : Effect p (.answer ch) p') : Exclusive p' := by
  cases heffect with
  | @answer _ m rest _ =>
      have hbits : ∀ ch', ((p.setChan ch { p.chan ch with
          requests := rest, replies := (p.chan ch).replies ++ [m] }).chan ch').busy =
            (p.chan ch').busy ∧ ((p.setChan ch { p.chan ch with
          requests := rest, replies := (p.chan ch).replies ++ [m] }).chan ch').waitRetry =
            (p.chan ch').waitRetry ∧ ((p.setChan ch { p.chan ch with
          requests := rest, replies := (p.chan ch).replies ++ [m] }).chan ch').ticket =
            (p.chan ch').ticket :=
        (Function.forall_update_iff p.chan fun ch' c => c.busy = (p.chan ch').busy ∧
          c.waitRetry = (p.chan ch').waitRetry ∧ c.ticket = (p.chan ch').ticket).2
            ⟨⟨rfl, rfl, rfl⟩, fun _ _ => ⟨rfl, rfl, rfl⟩⟩
      refine ⟨h.shared.congr rfl rfl rfl, h.unique, h.heldBusy, ?_, ?_, ?_, ?_⟩
      · intro t' ch' hheld
        exact (hbits ch').2.2.trans (h.noTicket t' ch' hheld)
      · intro t' ch' hheld b hb
        exact (hbits ch').2.1.trans (h.retry t' ch' hheld b hb)
      · intro ch' hfree
        obtain ⟨hb, hr, ht⟩ := h.freeIdle ch' hfree
        exact ⟨(hbits ch').1.trans hb, (hbits ch').2.1.trans hr, (hbits ch').2.2.trans ht⟩
      · intro ch' hwait
        rw [(hbits ch').2.1] at hwait
        rw [(hbits ch').2.2]
        exact h.waiting ch' hwait

/-- **Step lemma.** -/
theorem Exclusive.step {p p' : ChannelPool} {a : PoolAct} (h : Exclusive p)
    (hstep : Trace.guarded (fun p a => p.usesTicket a = true) step p a = some p') :
    Exclusive p' := by
  obtain ⟨hticket, hstep⟩ := Trace.guarded_eq_some.1 hstep
  have heffect := step_cases hstep
  cases a with
  | get t interruptible created => exact h.get heffect
  | getById t id => exact h.getById hticket heffect
  | prepare t written => exact h.prepare heffect
  | transact t opcode sendRet => exact h.transact heffect
  | recv t res => exact h.recv heffect
  | clearRetry t =>
      cases heffect with
      | @clearRetry _ ch hthread =>
          have hheld : (p.thread t).channel = some ch := by rw [hthread]; rfl
          refine h.advance hheld rfl rfl rfl rfl rfl rfl (h.noTicket t ch hheld) ?_
          intro b hb
          exact Option.some.inj hb
  | clearBusy t =>
      cases heffect with
      | @clearBusy _ ch call hthread =>
          have hheld : (p.thread t).channel = some ch := by rw [hthread]; rfl
          exact h.advance hheld rfl rfl rfl rfl rfl rfl (h.noTicket t ch hheld) nofun
  | setRetry t => exact h.setRetry heffect
  | put t => exact h.put heffect
  | answer ch => exact h.answer heffect

/-! ## Runs -/

/-- Every channel is on exactly one list, a free channel is neither busy nor waiting for a retry, and no
    two threads have the same channel. -/
structure ChannelsExclusive (p : ChannelPool) : Prop where
  nodup : (p.freeChannels ++ p.busyChannels).Nodup
  oneList : ∀ ch, ch ∈ p.freeChannels ∨ ch ∈ p.busyChannels ↔ 1 ≤ ch ∧ ch ≤ p.count
  freeIdle : ∀ ch ∈ p.freeChannels, (p.chan ch).busy = false ∧ (p.chan ch).waitRetry = false
  oneHolder : ∀ t t' ch, (p.thread t).channel = some ch → (p.thread t').channel = some ch → t = t'

theorem Exclusive.exclusive {p : ChannelPool} (h : Exclusive p) : ChannelsExclusive p where
  nodup := h.shared.nodup
  oneList := h.shared.mem_iff
  freeIdle ch hmem := ⟨(h.freeIdle ch hmem).busy, (h.freeIdle ch hmem).waitRetry⟩
  oneHolder := h.unique

/-- A get by id without a ticket that is not refused takes a channel from its holder. -/
theorem Exclusive.usesTicket_of_exclusive {p p' : ChannelPool} {a : PoolAct} (h : Exclusive p)
    (hstep : p.step a = some p') (hexcl : ChannelsExclusive p') : p.usesTicket a = true := by
  by_contra hticket
  rw [Bool.not_eq_true] at hticket
  have heffect := step_cases hstep
  cases a with
  | getById t id =>
      cases heffect with
      | badId _ _ e hbad =>
          simp only [usesTicket, hbad] at hticket
          cases hticket
      | @resume _ _ ch hidle hfound _ hwait =>
          simp only [usesTicket, hfound] at hticket
          rcases h.waiting ch hwait with hsome | ⟨t', hheld⟩
          · rw [hticket] at hsome
            cases hsome
          · have hne : t' ≠ t := by
              rintro rfl
              rw [hidle] at hheld
              cases hheld
            refine hne (hexcl.oneHolder t' t ch ?_ ?_)
            · simp only [setThread, setChan, Function.update_of_ne hne, hheld]
            · simp only [setThread, Function.update_self, RpcThread.channel]
  | _ => cases hticket

/-- In a run in which every get by id used a ticket or was refused, a step keeps the holders apart
    exactly if it uses a ticket or is refused as well. -/
theorem channelsExclusive_iff_usesTicket (as : List PoolAct) (p : ChannelPool)
    (h : Trace.exec (Trace.guarded (fun p a => p.usesTicket a = true) step) {} as = some p) :
    ChannelsExclusive p ∧
      ∀ a p', p.step a = some p' → (p.usesTicket a = true ↔ ChannelsExclusive p') := by
  have hexcl : Exclusive p := Trace.exec_invariant (fun _ _ _ h hstep => h.step hstep)
    Exclusive.empty h
  refine ⟨hexcl.exclusive, ?_⟩
  intro a p' hstep
  constructor
  · intro hticket
    have hguard : Trace.guarded (fun p a => usesTicket p a = true) ChannelPool.step p a = some p' :=
      Trace.guarded_eq_some.2 ⟨hticket, hstep⟩
    exact (hexcl.step hguard).exclusive
  · exact hexcl.usesTicket_of_exclusive hstep

/-- Thread `t` makes an interruptible call on a new or free channel and is interrupted. -/
def interruptedCall (t : Nat) : List PoolAct :=
  [.get t true true, .prepare t true, .transact t 7 0, .recv t .interrupted, .clearBusy t, .setRetry t]

/-- Thread `t` resumes the call that is parked on channel 1. -/
def resumedCall (t : Nat) : List PoolAct :=
  [.getById t 1, .prepare t true, .transact t 7 0, .answer 1, .recv t .reply, .clearRetry t, .put t]

theorem channelsExclusive_iff_usesTicket_resumedRun :
    ∃ p, Trace.exec (Trace.guarded (fun p a => p.usesTicket a = true) step) {}
        (interruptedCall 1 ++ resumedCall 2 ++ [.getById 3 1, .get 3 false true]) = some p ∧
      (p.thread 3).channel = some 1 ∧ p.answers = [(0, 0)] ∧ ChannelsExclusive p := by
  have heval : (Trace.exec (Trace.guarded (fun p a => p.usesTicket a = true) step) {}
      (interruptedCall 1 ++ resumedCall 2 ++ [.getById 3 1, .get 3 false true])).map
        (fun p => ((p.thread 3).channel, p.answers)) = some (some 1, [(0, 0)]) := by
    decide +kernel
  obtain ⟨p, hp, heq⟩ := Option.map_eq_some_iff.1 heval
  obtain ⟨hchannel, hanswers⟩ := Prod.mk.inj heq
  exact ⟨p, hp, hchannel, hanswers, (channelsExclusive_iff_usesTicket _ p hp).1⟩

/-- The id of a parked channel is used twice: two threads have the channel, and after the first of them
    has put it, the other one parks it while it is free. -/
theorem parked_channel_taken_twice :
    (∃ p ∈ Trace.exec step {} (interruptedCall 1 ++ [.getById 2 1, .getById 3 1]),
      (p.thread 2).channel = some 1 ∧ (p.thread 3).channel = some 1) ∧
    ∃ p ∈ Trace.exec step {} (interruptedCall 1 ++ [.getById 2 1, .getById 3 1, .prepare 3 true,
        .transact 3 7 0, .prepare 2 true, .transact 2 7 0, .answer 1, .recv 2 .reply, .clearRetry 2,
        .put 2, .recv 3 .interrupted, .clearBusy 3, .setRetry 3]),
      1 ∈ p.freeChannels ∧ (p.chan 1).waitRetry = true := by
  decide +kernel

/-! ## The lists in every run -/

/-- The two lists share out the channels, and the threads have channels of the pool. -/
structure Listed (p : ChannelPool) : Prop where
  shared : Shared p
  held : ∀ t ch, (p.thread t).channel = some ch → 1 ≤ ch ∧ ch ≤ p.count

theorem Listed.advance {p p' : ChannelPool} (h : Listed p) {t : Nat} {th : RpcThread}
    (hthread : p'.thread = Function.update p.thread t th) (hshared : Shared p')
    (hcount : p.count ≤ p'.count) (hth : ∀ ch, th.channel = some ch → 1 ≤ ch ∧ ch ≤ p'.count) :
    Listed p' := by
  refine ⟨hshared, ?_⟩
  intro t' ch hch
  rw [hthread] at hch
  by_cases ht : t' = t
  · rw [ht, Function.update_self] at hch
    exact hth ch hch
  · rw [Function.update_of_ne ht] at hch
    obtain ⟨hpos, hle⟩ := h.held t' ch hch
    exact ⟨hpos, hle.trans hcount⟩

/-- A thread goes on with the channel that it has, or without one. -/
theorem Listed.keep {p p' : ChannelPool} (h : Listed p) {t ch : Nat} {th : RpcThread}
    (hheld : (p.thread t).channel = some ch)
    (hthread : p'.thread = Function.update p.thread t th)
    (hfree : p'.freeChannels = p.freeChannels) (hbusy : p'.busyChannels = p.busyChannels)
    (hcount : p'.count = p.count) (hth : th.channel = some ch ∨ th.channel = none) : Listed p' := by
  refine h.advance hthread (h.shared.congr hfree hbusy hcount) (Nat.le_of_eq hcount.symm) ?_
  intro ch' hch'
  rw [hcount]
  rcases hth with hsome | hnone
  · rw [hsome, Option.some.injEq] at hch'
    exact hch' ▸ h.held t ch hheld
  · rw [hnone] at hch'
    cases hch'

/-- **Step lemma.** -/
theorem Listed.step {p p' : ChannelPool} {a : PoolAct} (h : Listed p)
    (hstep : p.step a = some p') : Listed p' := by
  have heffect := step_cases hstep
  clear hstep
  cases heffect with
  | noChannel _ _ _ | badId _ _ _ _ => exact h
  | @take _ _ _ ch rest _ hfree =>
      refine h.advance rfl (h.shared.take hfree rfl rfl rfl) le_rfl ?_
      intro ch' hch'
      obtain rfl := Option.some.inj hch'
      refine (h.shared.mem_iff ch).1 (.inl ?_)
      rw [hfree]
      exact List.mem_cons_self
  | create _ _ _ _ hfree =>
      refine h.advance rfl (h.shared.create hfree hfree rfl rfl) (Nat.le_succ _) ?_
      intro ch' hch'
      obtain rfl := Option.some.inj hch'
      exact ⟨Nat.le_add_left 1 p.count, le_rfl⟩
  | resume _ _ _ _ hlisted _ =>
      refine h.advance rfl (h.shared.congr rfl rfl rfl) le_rfl ?_
      intro ch' hch'
      obtain rfl := Option.some.inj hch'
      exact hlisted
  | skip _ _ hthread _ _ | write _ hthread _ | noWrite _ hthread _ | retried _ _ _ hthread _ _
  | sent _ _ _ hthread _ | clearRetry _ hthread | clearBusy _ hthread =>
      exact h.keep (by rw [hthread]; rfl) rfl rfl rfl rfl (.inl rfl)
  | refused _ _ _ hthread _ _ | failed _ _ _ _ hthread _ | recv _ _ hthread _ =>
      exact h.keep (by rw [hthread]; rfl) rfl rfl rfl rfl (.inl (afterTransact_channel _ _ _ _))
  | setRetry _ hthread => exact h.keep (by rw [hthread]; rfl) rfl rfl rfl rfl (.inr rfl)
  | @put t ch hthread =>
      have hheld := channel_of_put hthread
      have hmem := (h.shared.mem_iff ch).2 (h.held t ch hheld)
      have hshared : Shared (p.setChan ch { p.chan ch with busy := false }) :=
        h.shared.congr rfl rfl rfl
      exact h.advance rfl (hshared.moveToFree hmem) le_rfl nofun
  | answer ch _ => exact ⟨h.shared.congr rfl rfl rfl, h.held⟩

/-- **Whatever ids are used, every channel of the pool stays on exactly one list.** -/
theorem shared_of_run (as : List PoolAct) (p : ChannelPool)
    (h : Trace.exec step {} as = some p) : Shared p := by
  have hempty : Listed {} := ⟨List.Perm.nil, nofun⟩
  have hlisted : Listed p := Trace.exec_invariant (fun _ _ _ h hstep => h.step hstep) hempty h
  exact hlisted.shared

end ChannelPool

end Hgsl
