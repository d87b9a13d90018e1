import Hgsl.Memory.Nodes
import Hgsl.Lib.Trace
import Mathlib.Logic.Function.Basic

set_option autoImplicit false

/-! # Opening and releasing clients

A client is opened by `hgsl_open`, shared by all files of its process, and moved to `release_list` when the
last of them is closed. The release worker takes it from there, empties its trees and frees it. A section
under `hgsl->mutex` is one step. `_hgsl_release` is one step for each node that `hgsl_ctxt_destroy` takes
out of a tree and one for the rest: the worker has the client to itself.

The worker puts a client back only for `-ETIMEDOUT`, but `hgsl_cleanup` can fail in other ways as well, by
the channel it asks for and by the last of its unmaps. -/

namespace Hgsl

/-- `struct hgsl_priv`, as far as opening and releasing look at it -/
structure Client where
  pid : Nat := 0
  openCount : Int := 0
  mem : MemPriv := {}
  /-- the number of open channels in the pool of `hyp_priv` -/
  channels : Nat := 0
  /-- history -/
  freed : Bool := false
  deriving DecidableEq, Repr

/-- Where the release worker stands in `hgsl_release_worker`. -/
inductive ReleaseWorker where
  | idle
  /-- about to look at the list -/
  | running
  /-- in `_hgsl_release` -/
  | releasing (o : Nat)
  /-- about to put the client back -/
  | retrying (o : Nat)
  deriving DecidableEq, Repr

/-- The client that the worker has taken from the list. -/
def ReleaseWorker.held : ReleaseWorker → List Nat
  | .releasing o => [o]
  | .retrying o => [o]
  | _ => []

/-- The clients of the driver. They are numbered in the order in which they are opened. -/
structure Clients where
  client : Nat → Client := fun _ => {}
  /-- history: the number of the next client -/
  nextClient : Nat := 0
  activeList : List Nat := []
  releaseList : List Nat := []
  /-- `hgsl->total_mem_size` -/
  totalMemSize : BitVec 64 := 0#64
  /-- `release_work` is queued -/
  workQueued : Bool := false
  worker : ReleaseWorker := .idle
  /-- the open files, by `private_data` -/
  files : List Nat := []

/-- What can happen next. -/
inductive ClientAct where
  /-- `hgsl_open`; `memory` is the success of its allocation -/
  | openFile (pid : Nat) (memory : Bool)
  /-- an ioctl on a file of client `o` adds a node -/
  | addNode (o : Nat) (t : MemTree) (n : Nat)
  /-- an ioctl, or `hgsl_ctxt_destroy` in `_hgsl_release`, takes one out -/
  | eraseNode (o : Nat) (t : MemTree) (n : Nat)
  /-- an ioctl adds a channel to the pool -/
  | addChannel (o : Nat)
  /-- `hgsl_release` -/
  | closeFile (o : Nat)
  /-- the work queue starts `hgsl_release_worker` -/
  | startWorker
  /-- it takes a client from the list, or finds it empty -/
  | takeClient
  /-- `_hgsl_release` from `hgsl_cleanup` on -/
  | finishRelease (calls : CleanupCalls)
  /-- it puts the client back -/
  | putBack

namespace Clients

def setClient (s : Clients) (o : Nat) (c : Client) : Clients :=
  { s with client := Function.update s.client o c }

/-! ## The functions -/

section Functions

variable (memdesc : Nat → Memdesc)

/-- `hgsl_open` -/
def hgslOpen (s : Clients) (pid : Nat) (memory : Bool) : Int × Clients :=
  match s.activeList.find? fun o => (s.client o).pid = pid with
  | some o =>
    let c := s.client o
    (0, { s.setClient o { c with openCount := c.openCount + 1 } with files := o :: s.files })
  | none =>
    if !memory then (-ENOMEM, s)
    else
      (0, { s.setClient s.nextClient { pid := pid, openCount := 1 } with
        nextClient := s.nextClient + 1
        activeList := s.nextClient :: s.activeList
        files := s.nextClient :: s.files })

/-- `hgsl_release`; the file is gone. -/
def hgslRelease (s : Clients) (o : Nat) : Clients :=
  let c := s.client o
  let s₁ := { s with files := s.files.erase o }
  if c.openCount < 1 then s₁
  else
    let s₂ := s₁.setClient o { c with openCount := c.openCount - 1 }
    if c.openCount - 1 = 0 then
      { s₂ with
        activeList := s.activeList.erase o
        releaseList := o :: s.releaseList
        workQueued := true }
    else s₂

/-- A node goes into a tree, with its size on both totals. -/
def addNode (s : Clients) (o : Nat) (t : MemTree) (n : Nat) : Clients :=
  let c := s.client o
  let r := hgslMemAddNode memdesc (c.mem.tree t) n
  if r.1 ≠ 0 then s
  else
    { s.setClient o { c with mem := { c.mem.setTree r.2 t with
        totalMemSize := c.mem.totalMemSize + (memdesc n).size64 } } with
      totalMemSize := s.totalMemSize + (memdesc n).size64 }

/-- A node goes out of a tree. -/
def eraseNode (s : Clients) (o : Nat) (t : MemTree) (n : Nat) : Clients :=
  let c := s.client o
  { s.setClient o { c with mem := { c.mem.setTree ((c.mem.tree t).erase n) t with
      totalMemSize := c.mem.totalMemSize - (memdesc n).size64 } } with
    totalMemSize := s.totalMemSize - (memdesc n).size64 }

/-- The channels after `hgsl_hyp_channel_pool_get` on a pool of which none is busy: one is opened if
    there is none. -/
def hgslHypChannelPoolGet (channels : Nat) (ret : Int) : Nat :=
  if ret = 0 then max channels 1 else channels

/-- `_hgsl_release` from `hgsl_cleanup` on. `hgsl_hyp_close` closes every channel. -/
def finishRelease (s : Clients) (o : Nat) (calls : CleanupCalls) : Int × Clients :=
  let c := s.client o
  let r := hgslCleanup memdesc calls c.mem s.totalMemSize
  let channels := if hgslMemRbEmpty c.mem then c.channels else hgslHypChannelPoolGet c.channels calls.channelGet
  let s₁ := { s with totalMemSize := r.totalMemSize }
  if r.ret ≠ 0 then (r.ret, s₁.setClient o { c with mem := r.priv, channels := channels })
  else (0, s₁.setClient o { c with mem := r.priv, channels := 0, freed := true })

/-! ## The steps -/

/-- One step of the clients and the worker. -/
def step (s : Clients) : ClientAct → Option Clients
  | .openFile pid memory => some (s.hgslOpen pid memory).2
  | .addNode o t n => if o ∈ s.files then some (s.addNode memdesc o t n) else none
  | .eraseNode o t n =>
    if (o ∈ s.files ∨ s.worker = .releasing o) ∧ n ∈ (s.client o).mem.tree t then
      some (s.eraseNode memdesc o t n)
    else none
  | .addChannel o =>
    if o ∈ s.files then
      let c := s.client o
      some (s.setClient o { c with channels := c.channels + 1 })
    else none
  | .closeFile o => if o ∈ s.files then some (s.hgslRelease o) else none
  | .startWorker =>
    if s.workQueued ∧ s.worker = .idle then some { s with workQueued := false, worker := .running } else none
  | .takeClient =>
    match s.worker with
    | .running =>
      match s.releaseList with
      | [] => some { s with worker := .idle }
      | o :: rest => some { s with worker := .releasing o, releaseList := rest }
    | _ => none
  | .finishRelease calls =>
    match s.worker with
    | .releasing o =>
      let r := s.finishRelease memdesc o calls
      some { r.2 with worker := if r.1 = -ETIMEDOUT then .retrying o else .running }
    | _ => none
  | .putBack =>
    match s.worker with
    | .retrying o => some { s with releaseList := s.releaseList ++ [o], worker := .running }
    | _ => none

end Functions

end Clients

/-! ## Where a client is -/

inductive ClientPlace where
  | active
  | release
  | held
  | freed
  deriving DecidableEq, Repr

namespace Clients

/-- The places where client `o` is, as often as it is there. -/
def places (s : Clients) (o : Nat) : List ClientPlace :=
  List.replicate (s.activeList.count o) .active ++ List.replicate (s.releaseList.count o) .release ++
    List.replicate (s.worker.held.count o) .held ++ List.replicate (s.client o).freed.toNat .freed

/-- Client `o` is in exactly one place, and it is in the state that belongs there. -/
structure InOnePlace (s : Clients) (o : Nat) : Prop where
  one : ∃ p, s.places o = [p]
  active : o ∈ s.activeList → 1 ≤ (s.client o).openCount
  release : o ∈ s.releaseList → (s.client o).openCount = 0
  freed : (s.client o).freed = true → (s.client o).channels = 0

/-- The calls made by `hgsl_cleanup` let it come to 0 or `-ETIMEDOUT`: it gets its channel, if it needs
    one, and, if it gets as far as its loops, the last unmap does not fail in another way. -/
def cleanupEnds (mem : MemPriv) (calls : CleanupCalls) : Prop :=
  hgslMemRbEmpty mem = true ∨
    if calls.channelGet = 0 then
      calls.notify = -ETIMEDOUT ∨ lastUnmap calls mem = 0 ∨ lastUnmap calls mem = -ETIMEDOUT
    else calls.channelGet = -ETIMEDOUT

instance (mem : MemPriv) (calls : CleanupCalls) : Decidable (cleanupEnds mem calls) :=
  inferInstanceAs (Decidable (_ ∨ _))

/-- The condition on a step. -/
def keepsClient (s : Clients) : ClientAct → Prop
  | .finishRelease calls =>
    match s.worker with
    | .releasing o => cleanupEnds (s.client o).mem calls
    | _ => True
  | _ => True

instance (s : Clients) (a : ClientAct) : Decidable (s.keepsClient a) := by
  unfold keepsClient
  split
  · split <;> infer_instance
  · infer_instance

/-! ## The invariant -/

/-- The number of places. -/
def placeCount (s : Clients) (o : Nat) : Nat :=
  s.activeList.count o + s.releaseList.count o + s.worker.held.count o + (s.client o).freed.toNat

theorem length_places (s : Clients) (o : Nat) : (s.places o).length = s.placeCount o := by
  unfold places placeCount
  simp only [List.length_append, List.length_replicate]

/-- Each client that was opened is in one place, the others in none. The active ones are those that have
    files. -/
structure Placed (s : Clients) : Prop where
  one : ∀ o, s.placeCount o = if o < s.nextClient then 1 else 0
  active : ∀ o ∈ s.activeList, 1 ≤ (s.client o).openCount
  inactive : ∀ o, o ∉ s.activeList → (s.client o).openCount = 0
  freed : ∀ o, (s.client o).freed = true → (s.client o).channels = 0
  files : ∀ o, (s.files.count o : Int) = (s.client o).openCount

section Invariant

variable {memdesc : Nat → Memdesc} {s s' : Clients} {o : Nat}

theorem Placed.inOnePlace (h : Placed s) (ho : o < s.nextClient) : InOnePlace s o where
  one := List.length_eq_one_iff.1 ((length_places s o).trans (by rw [h.one, if_pos ho]))
  active := h.active o
  release := by
    intro hrelease
    refine h.inactive o ?_
    intro hactive
    have hone := h.one o
    have hactive := List.count_pos_iff.2 hactive
    have hrelease := List.count_pos_iff.2 hrelease
    rw [if_pos ho, placeCount] at hone
    omega
  freed := h.freed o

theorem Placed.start : Placed {} := by
  constructor <;> simp [placeCount, ReleaseWorker.held]

/-- A client with an open file is active. -/
theorem Placed.active_of_file (h : Placed s) (ho : o ∈ s.files) : o ∈ s.activeList := by
  by_contra hactive
  have hfiles := h.files o
  have hpos := List.count_pos_iff.2 ho
  rw [h.inactive o hactive] at hfiles
  omega

/-- An active client is in no other place. -/
theorem Placed.of_active (h : Placed s) (ho : o ∈ s.activeList) :
    o < s.nextClient ∧ s.activeList.count o = 1 ∧ s.releaseList.count o = 0 ∧
      s.worker.held.count o = 0 ∧ (s.client o).freed = false := by
  have hone := h.one o
  have hpos := List.count_pos_iff.2 ho
  rw [placeCount] at hone
  split_ifs at hone with hlt
  · exact ⟨hlt, by omega, by omega, by omega, Bool.toNat_eq_zero.1 (by omega)⟩
  · omega

theorem Placed.of_held (h : Placed s) (ho : o ∈ s.worker.held) :
    o < s.nextClient ∧ s.activeList.count o = 0 ∧ s.releaseList.count o = 0 ∧
      (s.client o).freed = false := by
  have hone := h.one o
  have hpos := List.count_pos_iff.2 ho
  rw [placeCount] at hone
  split_ifs at hone with hlt
  · exact ⟨hlt, by omega, by omega, Bool.toNat_eq_zero.1 (by omega)⟩
  · omega

/-- A step that leaves the lists and the worker leaves every client where it is. -/
theorem Placed.one_congr (h : Placed s) (hactive : s'.activeList = s.activeList)
    (hrelease : s'.releaseList = s.releaseList) (hworker : s'.worker = s.worker)
    (hnext : s'.nextClient = s.nextClient) (hfreed : (s'.client o).freed = (s.client o).freed) :
    s'.placeCount o = if o < s'.nextClient then 1 else 0 := by
  rw [hnext, ← h.one o]
  simp only [placeCount, hactive, hrelease, hworker, hfreed]

/-- One client changes, and has no channels if it is freed. -/
theorem Placed.freed_update (h : Placed s) {c : Client} (hc : c.freed = true → c.channels = 0) (x : Nat)
    (hx : (Function.update s.client o c x).freed = true) : (Function.update s.client o c x).channels = 0 := by
  by_cases hxo : x = o
  · subst hxo
    rw [Function.update_self] at hx ⊢
    exact hc hx
  · rw [Function.update_of_ne hxo] at hx ⊢
    exact h.freed x hx

/-- The invariant does not look at the memory of a client, and not at its channels before it is freed. -/
theorem Placed.update (h : Placed s) {c : Client} (hopen : c.openCount = (s.client o).openCount)
    (hfreed : c.freed = (s.client o).freed) (hchannels : c.freed = true → c.channels = 0)
    (total : BitVec 64) : Placed { s.setClient o c with totalMemSize := total } := by
  have hclient : ∀ x, (Function.update s.client o c x).openCount = (s.client x).openCount ∧
      (Function.update s.client o c x).freed = (s.client x).freed := by
    intro x
    by_cases hx : x = o
    · subst hx
      simp [hopen, hfreed]
    · simp [Function.update_of_ne hx]
  constructor
  · intro x
    exact h.one_congr rfl rfl rfl rfl (hclient x).2
  · intro x hx
    simpa only [Clients.setClient, (hclient x).1] using h.active x hx
  · intro x hx
    simpa only [Clients.setClient, (hclient x).1] using h.inactive x hx
  · exact h.freed_update hchannels
  · intro x
    simpa only [Clients.setClient, (hclient x).1] using h.files x

variable (memdesc) in
/-- What `_hgsl_release` does to its client, and when it lets the worker get rid of it. -/
theorem finishRelease_cases (s : Clients) (o : Nat) (calls : CleanupCalls) :
    ∃ c total, (s.finishRelease memdesc o calls).2 = { s.setClient o c with totalMemSize := total } ∧
      c.openCount = (s.client o).openCount ∧
      ((s.finishRelease memdesc o calls).1 ≠ 0 ∧ c.freed = (s.client o).freed ∨
        (s.finishRelease memdesc o calls).1 = 0 ∧ c.freed = true ∧ c.channels = 0) ∧
      (cleanupEnds (s.client o).mem calls ↔ (s.finishRelease memdesc o calls).1 = 0 ∨
        (s.finishRelease memdesc o calls).1 = -ETIMEDOUT) := by
  have hret : (s.finishRelease memdesc o calls).1 =
      (hgslCleanup memdesc calls (s.client o).mem s.totalMemSize).ret := by
    unfold finishRelease
    dsimp only
    split
    · rfl
    · next hret => exact (not_not.1 hret).symm
  have hends : cleanupEnds (s.client o).mem calls ↔
      (hgslCleanup memdesc calls (s.client o).mem s.totalMemSize).ret = 0 ∨
        (hgslCleanup memdesc calls (s.client o).mem s.totalMemSize).ret = -ETIMEDOUT := by
    unfold cleanupEnds
    by_cases hempty : hgslMemRbEmpty (s.client o).mem = true
    · simp [hgslCleanup, hempty]
    · rcases hgslCleanup_cases memdesc calls (s.client o).mem s.totalMemSize (Bool.eq_false_of_not_eq_true hempty)
        with ⟨hget, heq⟩ | ⟨hget, hnotify, heq⟩ | ⟨hget, hnotify, heq⟩
      · simp [heq, hempty, hget]
      · simp [heq, hempty, hget, hnotify]
      · simp [heq, hempty, hget, hnotify]
  rw [← hret] at hends
  rw [hret] at *
  unfold finishRelease
  dsimp only
  split
  · next hne => exact ⟨_, _, rfl, rfl, .inl ⟨hne, rfl⟩, hends⟩
  · next hzero => exact ⟨_, _, rfl, rfl, .inr ⟨not_not.1 hzero, rfl, rfl⟩, hends⟩

/-! ## The steps keep it -/

theorem Placed.openFile (h : Placed s) (pid : Nat) (memory : Bool) : Placed (s.hgslOpen pid memory).2 := by
  unfold hgslOpen
  split
  · next o hfind =>
      have ho := List.mem_of_find?_eq_some hfind
      obtain ⟨hlt, -, -, -, hfreed⟩ := h.of_active ho
      have hfiles := h.files
      constructor
      · intro x
        refine h.one_congr rfl rfl rfl rfl ?_
        by_cases hx : x = o
        · simp [setClient, hx]
        · simp [setClient, Function.update_of_ne hx]
      · intro x hx
        have hactive := h.active x hx
        by_cases hxo : x = o
        · subst hxo
          simp only [setClient, Function.update_self]
          omega
        · simpa [setClient, Function.update_of_ne hxo] using hactive
      · intro x hx
        have hxo : x ≠ o := fun hxo => hx (hxo ▸ ho)
        simpa [setClient, Function.update_of_ne hxo] using h.inactive x hx
      · exact h.freed_update (by simp [hfreed])
      · intro x
        by_cases hxo : x = o
        · subst hxo
          simp [setClient, h.files]
        · simp [setClient, Function.update_of_ne hxo, List.count_cons_of_ne (Ne.symm hxo), h.files]
  · split
    · exact h
    · -- the new client was nowhere
      have hnew := h.one s.nextClient
      rw [placeCount, if_neg (Nat.lt_irrefl _)] at hnew
      have hactive : s.nextClient ∉ s.activeList := List.count_eq_zero.1 (by omega)
      have hcount := h.inactive _ hactive
      constructor
      · intro x
        by_cases hx : x = s.nextClient
        · subst hx
          simp only [placeCount, setClient, List.count_cons_self, Function.update_self, Bool.toNat_false,
            if_pos (Nat.lt_succ_self _)]
          omega
        · have hone := h.one x
          simp only [placeCount, setClient, List.count_cons_of_ne (Ne.symm hx), Function.update_of_ne hx] at hone ⊢
          rw [hone]
          have hiff : x < s.nextClient ↔ x < s.nextClient + 1 := by omega
          simp only [hiff]
      · intro x hx
        by_cases hxo : x = s.nextClient
        · simp [setClient, hxo]
        · have hx' : x ∈ s.activeList := (List.mem_cons.1 hx).resolve_left hxo
          simpa [setClient, Function.update_of_ne hxo] using h.active x hx'
      · intro x hx
        obtain ⟨hxo, hx'⟩ := not_or.1 (mt List.mem_cons.2 hx)
        simpa [setClient, Function.update_of_ne hxo] using h.inactive x hx'
      · exact h.freed_update (by simp)
      · intro x
        have hfiles := h.files x
        by_cases hxo : x = s.nextClient
        · subst hxo
          rw [hcount] at hfiles
          simp only [setClient, List.count_cons_self, Function.update_self]
          omega
        · simpa [setClient, Function.update_of_ne hxo, List.count_cons_of_ne (Ne.symm hxo)] using hfiles

/-- The last file of a client moves it from one list to the other. -/
theorem Placed.closeFile (h : Placed s) (ho : o ∈ s.files) : Placed (s.hgslRelease o) := by
  have hactive := h.active_of_file ho
  have hcount := h.active o hactive
  obtain ⟨hlt, hactiveCount, hreleaseCount, hheld, hfreed⟩ := h.of_active hactive
  have hfile := List.count_pos_iff.2 ho
  have hfiles : ∀ x, ((s.files.erase o).count x : Int) =
      if x = o then (s.client o).openCount - 1 else (s.client x).openCount := by
    intro x
    by_cases hx : x = o
    · subst hx
      rw [if_pos rfl, List.count_erase_self, ← h.files x]
      omega
    · rw [if_neg hx, List.count_erase_of_ne hx, h.files x]
  unfold hgslRelease
  dsimp only
  rw [if_neg (by omega)]
  split
  · next hlast =>
      constructor
      · intro x
        by_cases hx : x = o
        · subst hx
          simp only [placeCount, setClient, List.count_erase_self, List.count_cons_self,
            Function.update_self, hheld, hfreed, Bool.toNat_false, if_pos hlt]
          omega
        · refine Eq.trans ?_ (h.one x)
          simp only [placeCount, setClient, List.count_erase_of_ne hx, List.count_cons_of_ne (Ne.symm hx),
            Function.update_of_ne hx]
      · intro x hx
        have hxo : x ≠ o := by
          rintro rfl
          have hpos := List.count_pos_iff.2 hx
          rw [List.count_erase_self] at hpos
          omega
        simpa [setClient, Function.update_of_ne hxo] using h.active x (List.mem_of_mem_erase hx)
      · intro x hx
        by_cases hxo : x = o
        · subst hxo
          simpa [setClient] using hlast
        · have hx' : x ∉ s.activeList := fun hx' => hx ((List.mem_erase_of_ne hxo).2 hx')
          simpa [setClient, Function.update_of_ne hxo] using h.inactive x hx'
      · exact h.freed_update (by simp [hfreed])
      · intro x
        refine (hfiles x).trans ?_
        by_cases hxo : x = o
        · simp [setClient, hxo]
        · simp [setClient, hxo]
  · next hmore =>
      constructor
      · intro x
        refine h.one_congr rfl rfl rfl rfl ?_
        by_cases hx : x = o
        · simp [setClient, hx]
        · simp [setClient, Function.update_of_ne hx]
      · intro x hx
        by_cases hxo : x = o
        · subst hxo
          simp only [setClient, Function.update_self]
          omega
        · simpa [setClient, Function.update_of_ne hxo] using h.active x hx
      · intro x hx
        have hxo : x ≠ o := fun hxo => hx (hxo ▸ hactive)
        simpa [setClient, Function.update_of_ne hxo] using h.inactive x hx
      · exact h.freed_update (by simp [hfreed])
      · intro x
        refine (hfiles x).trans ?_
        by_cases hxo : x = o
        · simp [setClient, hxo]
        · simp [setClient, hxo]

variable (memdesc) in
/-- The release worker frees its client or keeps it for another try. -/
theorem Placed.finishRelease (h : Placed s) {calls : CleanupCalls} (hworker : s.worker = .releasing o)
    (hends : cleanupEnds (s.client o).mem calls) :
    Placed { (s.finishRelease memdesc o calls).2 with
      worker := if (s.finishRelease memdesc o calls).1 = -ETIMEDOUT then .retrying o else .running } := by
  obtain ⟨hlt, hactive, hrelease, hfreed⟩ := h.of_held (o := o) (by simp [hworker, ReleaseWorker.held])
  obtain ⟨c, total, heq, hopen, hcases, hiff⟩ := finishRelease_cases memdesc s o calls
  have hends := hiff.1 hends
  have hone : ∀ x, (if x < s.nextClient then 1 else 0) = s.activeList.count x + s.releaseList.count x +
      [o].count x + (s.client x).freed.toNat := by
    intro x
    rw [← h.one x, placeCount, hworker, ReleaseWorker.held]
  rw [heq]
  rcases hcases with ⟨hret, hkept⟩ | ⟨hret, hgone, hclosed⟩
  · -- not freed: the result is `-ETIMEDOUT`
    rw [if_pos (hends.resolve_left hret)]
    have hset := h.update hopen hkept (by simp [hkept, hfreed]) total
    refine ⟨?_, hset.active, hset.inactive, hset.freed, hset.files⟩
    intro x
    refine Eq.trans ?_ (hset.one x)
    simp only [placeCount, setClient, hworker, ReleaseWorker.held]
  · have hne : (s.finishRelease memdesc o calls).1 ≠ -ETIMEDOUT := by
      rw [hret]
      decide
    rw [if_neg hne]
    have hclient : ∀ x, (Function.update s.client o c x).openCount = (s.client x).openCount := by
      intro x
      by_cases hx : x = o
      · subst hx
        simp [hopen]
      · simp [Function.update_of_ne hx]
    constructor
    · intro x
      refine Eq.trans ?_ (hone x).symm
      by_cases hx : x = o
      · subst hx
        simp [placeCount, Clients.setClient, ReleaseWorker.held, hgone, hfreed]
      · simp [placeCount, Clients.setClient, ReleaseWorker.held, Function.update_of_ne hx,
          List.count_cons_of_ne (Ne.symm hx)]
    · intro x hx
      simpa only [Clients.setClient, hclient x] using h.active x hx
    · intro x hx
      simpa only [Clients.setClient, hclient x] using h.inactive x hx
    · exact h.freed_update fun _ => hclosed
    · intro x
      simpa only [Clients.setClient, hclient x] using h.files x

theorem Placed.step (h : Placed s) {a : ClientAct} (hkeeps : s.keepsClient a)
    (hstep : s.step memdesc a = some s') : Placed s' := by
  cases a with
  | openFile pid memory =>
      obtain rfl := Option.some.inj hstep
      exact h.openFile pid memory
  | addNode o t n =>
      simp only [Clients.step, Option.ite_none_right_eq_some, Option.some.injEq] at hstep
      obtain ⟨-, rfl⟩ := hstep
      unfold addNode
      dsimp only
      split
      · exact h
      · refine h.update ?_ ?_ ?_ _
        · rfl
        · rfl
        · exact h.freed o
  | eraseNode o t n =>
      simp only [Clients.step, Option.ite_none_right_eq_some, Option.some.injEq] at hstep
      obtain ⟨-, rfl⟩ := hstep
      refine h.update ?_ ?_ ?_ _
      · rfl
      · rfl
      · exact h.freed o
  | addChannel o =>
      simp only [Clients.step, Option.ite_none_right_eq_some, Option.some.injEq] at hstep
      obtain ⟨hfile, rfl⟩ := hstep
      obtain ⟨-, -, -, -, hfreed⟩ := h.of_active (h.active_of_file hfile)
      refine h.update ?_ ?_ ?_ _
      · rfl
      · rfl
      · simp [hfreed]
  | closeFile o =>
      simp only [Clients.step, Option.ite_none_right_eq_some, Option.some.injEq] at hstep
      obtain ⟨hfile, rfl⟩ := hstep
      exact h.closeFile hfile
  | startWorker =>
      simp only [Clients.step, Option.ite_none_right_eq_some, Option.some.injEq] at hstep
      obtain ⟨⟨-, hworker⟩, rfl⟩ := hstep
      refine ⟨?_, h.active, h.inactive, h.freed, h.files⟩
      intro x
      refine Eq.trans ?_ (h.one x)
      simp only [placeCount, hworker, ReleaseWorker.held]
  | takeClient =>
      simp only [Clients.step] at hstep
      split at hstep
      · next hworker =>
          split at hstep
          · obtain rfl := Option.some.inj hstep
            refine ⟨?_, h.active, h.inactive, h.freed, h.files⟩
            intro x
            refine Eq.trans ?_ (h.one x)
            simp only [placeCount, hworker, ReleaseWorker.held]
          · next o rest hlist =>
              obtain rfl := Option.some.inj hstep
              refine ⟨?_, h.active, h.inactive, h.freed, h.files⟩
              intro x
              refine Eq.trans ?_ (h.one x)
              simp only [placeCount, hworker, hlist, ReleaseWorker.held, List.count_cons, List.count_nil]
              omega
      · cases hstep
  | finishRelease calls =>
      simp only [Clients.step] at hstep
      split at hstep
      · next o hworker =>
          obtain rfl := Option.some.inj hstep
          simp only [keepsClient, hworker] at hkeeps
          exact h.finishRelease memdesc hworker hkeeps
      · cases hstep
  | putBack =>
      simp only [Clients.step] at hstep
      split at hstep
      · next o hworker =>
          obtain rfl := Option.some.inj hstep
          refine ⟨?_, h.active, h.inactive, h.freed, h.files⟩
          intro x
          refine Eq.trans ?_ (h.one x)
          simp only [placeCount, hworker, ReleaseWorker.held, List.count_append, List.count_nil]
          omega
      · cases hstep

/-- Where `hgsl_cleanup` fails in another way, the client is nowhere. -/
theorem Placed.inOnePlace_iff (h : Placed s) {calls : CleanupCalls} (hworker : s.worker = .releasing o)
    (hstep : s.step memdesc (.finishRelease calls) = some s') :
    InOnePlace s' o ↔ cleanupEnds (s.client o).mem calls := by
  obtain ⟨hlt, hactive, hrelease, hfreed⟩ := h.of_held (o := o) (by simp [hworker, ReleaseWorker.held])
  simp only [Clients.step, hworker, Option.some.injEq] at hstep
  obtain rfl := hstep
  obtain ⟨c, total, heq, -, hcases, hiff⟩ := finishRelease_cases memdesc s o calls
  constructor
  · intro hone
    by_contra hends
    obtain ⟨hne, hne'⟩ := not_or.1 (mt hiff.2 hends)
    have hkept := (hcases.resolve_right fun hgone => hne hgone.1).2
    obtain ⟨p, hp⟩ := hone.one
    have hcount := congrArg List.length hp
    rw [length_places, if_neg hne', heq] at hcount
    simp [placeCount, Clients.setClient, ReleaseWorker.held, hactive, hrelease, hkept, hfreed] at hcount
  · intro hends
    have hplaced := h.finishRelease memdesc hworker hends
    refine hplaced.inOnePlace ?_
    rw [heq]
    exact hlt

end Invariant

/-! ## Runs -/

/-- **Main result.** As long as each `hgsl_cleanup` comes to 0 or `-ETIMEDOUT`, every client that was
    opened is in exactly one place, and one that is not freed by `_hgsl_release` goes back to
    `release_list`. From each state of such a run, the client in hand is in one place after the next
    `_hgsl_release` exactly if that one meets the condition as well. -/
theorem inOnePlace_of_keepsClient (memdesc : Nat → Memdesc) (as : List ClientAct) (s : Clients)
    (hrun : Trace.exec (Trace.guarded keepsClient (step memdesc)) {} as = some s) :
    (∀ o < s.nextClient, InOnePlace s o) ∧
      ∀ o calls s', s.worker = .releasing o → s.step memdesc (.finishRelease calls) = some s' →
        (InOnePlace s' o ↔ s.keepsClient (.finishRelease calls)) ∧
          (s.keepsClient (.finishRelease calls) → (s'.client o).freed = true ∨
            ∃ s'', s'.step memdesc .putBack = some s'' ∧ o ∈ s''.releaseList) := by
  have hplaced : Placed s := by
    refine Trace.exec_invariant ?_ Placed.start hrun
    intro t a t' ht hstep
    obtain ⟨hkeeps, hstep⟩ := Trace.guarded_eq_some.1 hstep
    exact ht.step hkeeps hstep
  refine ⟨fun o ho => hplaced.inOnePlace ho, ?_⟩
  intro o calls s' hworker hstep
  have hkeeps : s.keepsClient (.finishRelease calls) ↔ cleanupEnds (s.client o).mem calls := by
    simp only [keepsClient, hworker]
  rw [hkeeps]
  refine ⟨hplaced.inOnePlace_iff hworker hstep, ?_⟩
  intro hends
  obtain ⟨c, total, heq, -, hcases, hiff⟩ := finishRelease_cases memdesc s o calls
  simp only [step, hworker, Option.some.injEq] at hstep
  subst hstep
  rcases hcases with ⟨hret, -⟩ | ⟨-, hgone, -⟩
  · right
    rw [if_pos ((hiff.1 hends).resolve_left hret)]
    exact ⟨_, rfl, by simp⟩
  · left
    rw [heq]
    simpa [setClient] using hgone

/-- One buffer at 0x1000. -/
def oneBuffer : Nat → Memdesc := fun _ => ⟨0x1000#64, 4096#64⟩

/-- A client opens a channel, allocates the buffer and closes its only file; the worker takes it. -/
def releaseRun : List ClientAct :=
  [.openFile 7 true, .addChannel 0, .addNode 0 .allocated 0, .closeFile 0, .startWorker, .takeClient]

/-- The first notification times out, the second one is fine. -/
def retryRun : List ClientAct :=
  releaseRun ++ [.finishRelease ⟨0, -ETIMEDOUT, fun _ => 0⟩, .putBack, .takeClient,
    .finishRelease ⟨0, 0, fun _ => 0⟩]

theorem inOnePlace_of_keepsClient_retryRun :
    ∃ s, Trace.exec (Trace.guarded keepsClient (step oneBuffer)) {} retryRun = some s ∧
      s.places 0 = [.freed] ∧ InOnePlace s 0 := by
  have heval : (Trace.exec (Trace.guarded keepsClient (step oneBuffer)) {} retryRun).map
      (fun s => (s.nextClient, s.places 0)) = some (1, [.freed]) := by
    decide +kernel
  obtain ⟨s, hs, heq⟩ := Option.map_eq_some_iff.1 heval
  obtain ⟨hnext, hplaces⟩ := Prod.mk.inj heq
  exact ⟨s, hs, hplaces, (inOnePlace_of_keepsClient oneBuffer retryRun s hs).1 0 (by omega)⟩

/-- `hgsl_cleanup` empties the trees, its only unmap fails, and the client is lost with its channel open. -/
theorem client_lost_by_last_unmap :
    ∃ s, Trace.exec (step oneBuffer) {} (releaseRun ++ [.finishRelease ⟨0, 0, fun _ => -EINVAL⟩]) = some s ∧
      s.nextClient = 1 ∧ s.places 0 = [] ∧ hgslMemRbEmpty (s.client 0).mem = true ∧
      ((s.client 0).freed = false ∧ (s.client 0).channels = 1) ∧ ¬InOnePlace s 0 := by
  have heval : (Trace.exec (step oneBuffer) {}
      (releaseRun ++ [.finishRelease ⟨0, 0, fun _ => -EINVAL⟩])).map (fun s =>
        (s.nextClient, s.places 0, hgslMemRbEmpty (s.client 0).mem, (s.client 0).freed, (s.client 0).channels)) =
      some (1, [], true, false, 1) := by
    decide +kernel
  obtain ⟨s, hs, heq⟩ := Option.map_eq_some_iff.1 heval
  simp only [Prod.mk.injEq] at heq
  obtain ⟨hnext, hplaces, hmem, hkept⟩ := heq
  refine ⟨s, hs, hnext, hplaces, hmem, hkept, ?_⟩
  intro hone
  obtain ⟨p, hp⟩ := hone.one
  rw [hplaces] at hp
  cases hp

end Clients

end Hgsl
