import Hgsl.Timestamp
import Mathlib.Data.Nat.Log
import Mathlib.Data.List.Range

set_option autoImplicit false

/-! # The pages of a buffer

`hgsl_sharedmem_alloc` fills the array `pages` block by block, with as large blocks as it gets;
`hgsl_free_pages` walks over the array and goes from the first page of one block to that of the next one.
A page is known by its frame number. -/

namespace Hgsl

/-- A block that `alloc_pages` has given: `2 ^ order` pages from `page` on -/
structure PageBlock where
  page : Nat
  order : Nat
  deriving DecidableEq, Repr

/-- `get_order`, of a number of pages -/
def getOrder (pcount : Nat) : Nat := Nat.clog 2 pcount

/-- The loop of `hgsl_alloc_pages`: a block of order `order`, or else a smaller one. -/
def allocBlock (allocPages : Nat → Option Nat) : Nat → Option PageBlock
  | 0 => (allocPages 0).map fun page => ⟨page, 0⟩
  | order + 1 =>
    match allocPages (order + 1) with
    | some page => some ⟨page, order + 1⟩
    | none => allocBlock allocPages order

/-- The entries of `pages` for the first `pcount` pages of a block. -/
def PageBlock.entries (b : PageBlock) (pcount : Nat) : List Nat := (List.range pcount).map (b.page + ·)

/-- `hgsl_alloc_pages`: the block, and how many of its pages the buffer takes; `none` is a count of 0 -/
def hgslAllocPages (allocPages : Nat → Option Nat) (requestedPcount : Nat) : Option (PageBlock × Nat) :=
  (allocBlock allocPages (getOrder requestedPcount)).map fun b =>
    let pcount := 2 ^ b.order
    (b, if requestedPcount < pcount then requestedPcount else pcount)

/-- What the loop of `hgsl_sharedmem_alloc` has allocated. -/
structure AllocatedPages where
  pages : List Nat := []
  requestedPcount : Nat
  /-- history: the blocks -/
  blocks : List PageBlock := []
  deriving DecidableEq, Repr

/-- The loop of `hgsl_sharedmem_alloc`; `nents` counts its turns, each of which takes a page at least. -/
def allocLoop (allocPages : Nat → Nat → Option Nat) : Nat → Nat → Nat → AllocatedPages
  | 0, _, requestedPcount => { requestedPcount }
  | fuel + 1, nents, requestedPcount =>
    if requestedPcount = 0 then { requestedPcount }
    else
      match hgslAllocPages (allocPages nents) requestedPcount with
      | none => { requestedPcount }
      | some (b, pcount) =>
        let rest := allocLoop allocPages fuel (nents + 1) (requestedPcount - pcount)
        { pages := b.entries pcount ++ rest.pages
          requestedPcount := rest.requestedPcount
          blocks := b :: rest.blocks }

/-- `hgsl_free_pages`, from one entry of `pages` on: the blocks that `__free_pages` gets. -/
def freeLoop (compoundOrder : Nat → Nat) : Nat → List Nat → List PageBlock
  | 0, _ => []
  | _ + 1, [] => []
  | fuel + 1, p :: rest => ⟨p, compoundOrder p⟩ :: freeLoop compoundOrder fuel ((p :: rest).drop (2 ^ compoundOrder p))

/-- `hgsl_free_pages` -/
def hgslFreePages (compoundOrder : Nat → Nat) (pages : List Nat) (pageCount : Nat) : List PageBlock :=
  freeLoop compoundOrder pageCount (pages.take pageCount)

/-! ## What the loops can do -/

/-- `pages` holds the pages of the blocks in their order; the last block may be larger than what is left. -/
inductive Filled : List PageBlock → List Nat → Prop where
  | nil : Filled [] []
  | last (b : PageBlock) (pcount : Nat) (hpos : 0 < pcount) (hle : pcount ≤ 2 ^ b.order) : Filled [b] (b.entries pcount)
  | cons (b : PageBlock) {bs : List PageBlock} {pages : List Nat} (h : Filled bs pages) :
      Filled (b :: bs) (b.entries (2 ^ b.order) ++ pages)

section Lemmas

variable {allocPages : Nat → Nat → Option Nat} {alloc : Nat → Option Nat} {requested pcount : Nat} {b : PageBlock}

@[simp] theorem PageBlock.length_entries (b : PageBlock) (n : Nat) : (b.entries n).length = n := by
  simp [entries]

theorem hgslAllocPages_pcount (h : hgslAllocPages alloc requested = some (b, pcount)) (hpos : 0 < requested) :
    0 < pcount ∧ pcount ≤ requested ∧ (pcount = 2 ^ b.order ∨ pcount ≤ 2 ^ b.order ∧ pcount = requested) := by
  obtain ⟨b', -, heq⟩ := Option.map_eq_some_iff.1 h
  obtain ⟨rfl, rfl⟩ := Prod.mk.inj heq
  have htwo : 0 < 2 ^ b'.order := Nat.two_pow_pos _
  by_cases hlt : requested < 2 ^ b'.order
  · rw [if_pos hlt]
    omega
  · rw [if_neg hlt]
    omega

/-- The loop fills the array, from any turn on. -/
theorem allocLoop_filled (allocPages : Nat → Nat → Option Nat) (fuel nents requested : Nat) :
    Filled (allocLoop allocPages fuel nents requested).blocks (allocLoop allocPages fuel nents requested).pages := by
  induction fuel generalizing nents requested with
  | zero => exact .nil
  | succ fuel ih =>
      by_cases hzero : requested = 0
      · simpa [allocLoop, hzero] using Filled.nil
      · cases hget : hgslAllocPages (allocPages nents) requested with
        | none => simpa [allocLoop, hzero, hget] using Filled.nil
        | some got =>
            obtain ⟨b, pcount⟩ := got
            obtain ⟨hpos, -, hfull | ⟨hle, hall⟩⟩ := hgslAllocPages_pcount hget (Nat.pos_of_ne_zero hzero)
            · have hrest := Filled.cons b (ih (nents + 1) (requested - pcount))
              simpa [allocLoop, hzero, hget, hfull] using hrest
            · -- nothing is left after a block of which only a part is taken
              have hrest : allocLoop allocPages fuel (nents + 1) 0 = { requestedPcount := 0 } := by
                cases fuel <;> simp [allocLoop]
              obtain rfl := hall
              have hlast := Filled.last b pcount hpos hle
              simpa [allocLoop, hzero, hget, hrest] using hlast

/-- The loop ends with all pages, or with a turn that gets none. -/
theorem allocLoop_stops (fuel nents requested : Nat) (h : requested ≤ fuel) :
    (allocLoop allocPages fuel nents requested).requestedPcount = 0 ∨
      ∃ turn left, 0 < left ∧ (allocLoop allocPages fuel nents requested).requestedPcount = left ∧
        hgslAllocPages (allocPages turn) left = none := by
  induction fuel generalizing nents requested with
  | zero =>
      left
      simpa [allocLoop] using h
  | succ fuel ih =>
      by_cases hzero : requested = 0
      · simp [allocLoop, hzero]
      · cases hget : hgslAllocPages (allocPages nents) requested with
        | none =>
            right
            exact ⟨nents, requested, Nat.pos_of_ne_zero hzero, by simp [allocLoop, hzero, hget], hget⟩
        | some got =>
            obtain ⟨b, pcount⟩ := got
            obtain ⟨hpos, -, -⟩ := hgslAllocPages_pcount hget (Nat.pos_of_ne_zero hzero)
            have hrest := ih (nents + 1) (requested - pcount) (by omega)
            simpa [allocLoop, hzero, hget] using hrest

/-- One turn of `hgsl_free_pages`, at the first page of a block: a block of which only a part is there is the
    last one. -/
theorem freeLoop_block {compoundOrder : Nat → Nat} {rest : List Nat} (fuel : Nat)
    (horder : compoundOrder b.page = b.order) (hpos : 0 < pcount) (hle : pcount ≤ 2 ^ b.order)
    (hrest : rest = [] ∨ pcount = 2 ^ b.order) :
    freeLoop compoundOrder (fuel + 1) (b.entries pcount ++ rest) = b :: freeLoop compoundOrder fuel rest := by
  have hhead : b.entries pcount ++ rest = b.page :: ((b.entries pcount).tail ++ rest) := by
    obtain ⟨n, rfl⟩ := Nat.exists_eq_succ_of_ne_zero hpos.ne'
    simp [PageBlock.entries, List.range_succ_eq_map]
  have hdrop : (b.entries pcount ++ rest).drop (2 ^ b.order) = rest := by
    obtain rfl | rfl := hrest
    · simpa using hle
    · simp
  rw [hhead] at hdrop ⊢
  simp [freeLoop, horder, hdrop]

/-- **Every block once.** Over an array that is filled block by block, `hgsl_free_pages` frees exactly the
    blocks, in their order. -/
theorem freeLoop_filled {compoundOrder : Nat → Nat} {bs : List PageBlock} {pages : List Nat} (h : Filled bs pages)
    (horder : ∀ b ∈ bs, compoundOrder b.page = b.order) {fuel : Nat} (hfuel : pages.length ≤ fuel) :
    freeLoop compoundOrder fuel pages = bs := by
  induction h generalizing fuel with
  | nil => cases fuel <;> simp [freeLoop]
  | last b pcount hpos hle =>
      obtain ⟨fuel, rfl⟩ : ∃ n, fuel = n + 1 := ⟨fuel - 1, by simp at hfuel; omega⟩
      have hturn := freeLoop_block fuel (horder b (by simp)) hpos hle (.inl rfl)
      have hend : freeLoop compoundOrder fuel [] = [] := by cases fuel <;> simp [freeLoop]
      simpa [hend] using hturn
  | cons b h ih =>
      have htwo : 0 < 2 ^ b.order := Nat.two_pow_pos _
      rw [List.length_append, PageBlock.length_entries] at hfuel
      obtain ⟨fuel, rfl⟩ : ∃ n, fuel = n + 1 := ⟨fuel - 1, by omega⟩
      rw [freeLoop_block fuel (horder b (by simp)) htwo le_rfl (.inr rfl),
        ih (fun b hb => horder b (by simp [hb])) (by omega)]

/-- What is allocated is freed, block by block. -/
theorem hgslFreePages_allocLoop {compoundOrder : Nat → Nat} (fuel nents requested : Nat)
    (horder : ∀ b ∈ (allocLoop allocPages fuel nents requested).blocks, compoundOrder b.page = b.order) :
    hgslFreePages compoundOrder (allocLoop allocPages fuel nents requested).pages
      (allocLoop allocPages fuel nents requested).pages.length =
        (allocLoop allocPages fuel nents requested).blocks := by
  unfold hgslFreePages
  rw [List.take_length]
  exact freeLoop_filled (allocLoop_filled allocPages fuel nents requested) horder le_rfl

end Lemmas

end Hgsl
