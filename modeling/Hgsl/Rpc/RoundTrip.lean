import Hgsl.Rpc.Parcel

set_option autoImplicit false

/-! # What is written is read back

The body of a parcel is the sequence of its arguments, each as the bytes of a frame (`RpcArg.frame`). A
write appends one frame, whatever the buffer has to do for it; a read looks at the frame at its position,
and either takes it off or leaves everything as it is. So the reader of a parcel behaves as one who takes
arguments off a list (`takeAll`). -/

namespace Hgsl

/-! ## Frames -/

namespace RpcArg

/-- The kind of an argument. -/
def id : RpcArg → BitVec 32
  | .blob _ => GSL_RPC_BLOB_DATA
  | .int32 _ | .uint32 _ => GSL_RPC_32BIT_DATA
  | .int64 _ | .uint64 _ => GSL_RPC_64BIT_DATA

/-- Its bytes. -/
def payload : RpcArg → List (BitVec 8)
  | .blob bs => bs
  | .int32 x | .uint32 x => Bytes.ofWord x
  | .int64 x | .uint64 x => Bytes.ofWord x

/-- Its length. -/
def size (a : RpcArg) : BitVec 64 := BitVec.ofNat 64 a.payload.length

/-- What a read of it gives. -/
def value : RpcArg → RpcValue
  | .blob bs => .bytes bs
  | .int32 x | .uint32 x => .word32 x
  | .int64 x | .uint64 x => .word64 x

end RpcArg

/-- The bytes of a header. -/
def GslRpcHeader.bytes (hdr : GslRpcHeader) : List (BitVec 8) :=
  Bytes.ofWord hdr.magic ++ (Bytes.ofWord hdr.id ++ (Bytes.ofWord hdr.version ++ Bytes.ofWord hdr.size))

@[simp] theorem GslRpcHeader.length_bytes (hdr : GslRpcHeader) : hdr.bytes.length = 16 := by
  simp [GslRpcHeader.bytes]

/-- A header that lies in memory is read. -/
theorem GslRpcHeader.at_of_read {mem : Nat → BitVec 8} {d : Nat} {hdr : GslRpcHeader}
    (h : Bytes.read mem d 16 = hdr.bytes) : GslRpcHeader.at mem d = hdr := by
  obtain ⟨hmagic, hrest⟩ := Bytes.read_eq_append h
  obtain ⟨hid, hrest⟩ := Bytes.read_eq_append hrest
  obtain ⟨hversion, hsize⟩ := Bytes.read_eq_append hrest
  simp only [Bytes.length_ofWord] at hmagic hid hversion hsize
  unfold GslRpcHeader.at
  rw [Bytes.load_of_read (by decide) hmagic, Bytes.load_of_read (by decide) hid,
    Bytes.load_of_read (by decide) hversion, Bytes.load_of_read (by decide) hsize]

/-- The header of an argument. -/
def RpcArg.header (a : RpcArg) : GslRpcHeader where
  magic := GSL_HAB_DATA_MAGIC
  id := a.id
  version := 2#32
  size := a.size.setWidth 32

/-- An argument as it lies in a parcel. -/
def RpcArg.frame (a : RpcArg) : List (BitVec 8) :=
  a.header.bytes ++ (a.payload ++ Bytes.ofWord gslRpcGenChecksum)

theorem RpcArg.length_frame (a : RpcArg) : a.frame.length = a.payload.length + 20 := by
  simp [RpcArg.frame]
  omega

/-- The arguments of a parcel. -/
def parcelBody (args : List RpcArg) : List (BitVec 8) := (args.map RpcArg.frame).flatten

theorem parcelBody_append (as bs : List RpcArg) :
    parcelBody (as ++ bs) = parcelBody as ++ parcelBody bs := by
  simp [parcelBody]

@[simp] theorem parcelBody_cons (a : RpcArg) (as : List RpcArg) :
    parcelBody (a :: as) = a.frame ++ parcelBody as := rfl

/-- The stores of a write amount to one store of the frame. -/
theorem storeFrame_put (mem : Nat → BitVec 8) (d : Nat) (a : RpcArg) :
    storeFrame (Ring.put mem (d + 16) a.payload) d (d + 16 + a.payload.length) a.id a.size =
      Ring.put mem d a.frame := by
  have hheader : ∀ mem : Nat → BitVec 8,
      Bytes.store (Bytes.store (Bytes.store (Bytes.store mem d GSL_HAB_DATA_MAGIC) (d + 4) a.id) (d + 8)
        2#32) (d + 12) (a.size.setWidth 32) = Ring.put mem d a.header.bytes := by
    intro mem
    unfold Bytes.store
    have hfirst := Bytes.put_put_behind mem d (Bytes.ofWord GSL_HAB_DATA_MAGIC) (Bytes.ofWord a.id)
    rw [Bytes.length_ofWord] at hfirst
    have hsecond := Bytes.put_put_behind mem d
      (Bytes.ofWord GSL_HAB_DATA_MAGIC ++ Bytes.ofWord a.id) (Bytes.ofWord 2#32)
    have hthird := Bytes.put_put_behind mem d
      ((Bytes.ofWord GSL_HAB_DATA_MAGIC ++ Bytes.ofWord a.id) ++ Bytes.ofWord 2#32)
      (Bytes.ofWord (a.size.setWidth 32))
    simp only [List.length_append, Bytes.length_ofWord] at hsecond hthird
    rw [hfirst, hsecond, hthird]
    simp [GslRpcHeader.bytes, RpcArg.header, List.append_assoc]
  have hpayload := Bytes.put_put_before mem d a.header.bytes a.payload
  have hfooter := Bytes.put_put_behind mem d (a.header.bytes ++ a.payload)
    (Bytes.ofWord gslRpcGenChecksum)
  rw [GslRpcHeader.length_bytes] at hpayload
  rw [List.length_append, GslRpcHeader.length_bytes, ← Nat.add_assoc, List.append_assoc] at hfooter
  rw [storeFrame, hheader, hpayload]
  exact hfooter

/-! ## Growth -/

/-- More memory than the address space has cannot be allocated. -/
def HgslMalloc.Bounded (malloc : HgslMalloc) : Prop :=
  ∀ size mem, malloc size = some mem → size.toNat ≤ 2 ^ 62

/-- A buffer as `gsl_rpc_parcel_init` and `grow_data` make it, with a position in it. -/
structure Buffer (p : HabPayload) : Prop where
  size : 4096 ≤ p.dataSize.toNat
  bound : p.dataSize.toNat ≤ 2 ^ 62
  start : 16 ≤ p.dataPos.toNat
  dataPos : p.dataPos.toNat ≤ p.dataSize.toNat

/-- The parcel has been given room for `n` bytes, and nothing else has happened to it. -/
structure Room (p q : HabPayload) (n : Nat) : Prop where
  buffer : Buffer q
  dataPos : q.dataPos = p.dataPos
  data : ∀ i < p.dataSize.toNat, q.data i = p.data i
  size : p.dataSize.toNat ≤ q.dataSize.toNat
  room : p.dataPos.toNat + n ≤ q.dataSize.toNat

theorem Room.refl {p : HabPayload} (h : Buffer p) {n : Nat}
    (hroom : p.dataPos.toNat + n ≤ p.dataSize.toNat) : Room p p n :=
  ⟨h, rfl, fun _ _ => rfl, le_rfl, hroom⟩

theorem Room.mono {p q : HabPayload} {m n : Nat} (h : Room p q n) (hmn : m ≤ n) : Room p q m :=
  { h with room := by have := h.room; omega }

theorem growData_eq_error {malloc : HgslMalloc} {p : HabPayload} {len : BitVec 64} {e : Int}
    (h : growData malloc p len = .error e) : e = -ENOMEM ∧ ∃ size, malloc size = none := by
  unfold growData at h
  dsimp only at h
  split at h
  · next hnone =>
      cases h
      exact ⟨rfl, _, hnone⟩
  · cases h

/-- **`grow_data` makes room**, for a whole frame around `len` bytes. -/
theorem growData_room {malloc : HgslMalloc} (hmalloc : malloc.Bounded) {p q : HabPayload}
    {len : BitVec 64} (hp : Buffer p) (hlen : len.toNat < 2 ^ 32)
    (h : growData malloc p len = .ok q) : Room p q (len.toNat + 20) := by
  obtain ⟨hsize, hbound, hstart, hpos⟩ := hp
  have hnew : (((p.dataSize + len) * 3#64) / 2#64).toNat = (p.dataSize.toNat + len.toNat) * 3 / 2 := by
    simp only [BitVec.toNat_udiv, BitVec.toNat_mul, BitVec.toNat_add, BitVec.toNat_ofNat,
      Nat.reducePow, Nat.reduceMod]
    omega
  unfold growData at h
  dsimp only at h
  split at h
  · cases h
  · next newData hsome =>
      cases h
      have hle := hmalloc _ _ hsome
      refine ⟨⟨?_, hle, hstart, ?_⟩, rfl, ?_, ?_, ?_⟩
      · show 4096 ≤ (((p.dataSize + len) * 3#64) / 2#64).toNat
        omega
      · show p.dataPos.toNat ≤ (((p.dataSize + len) * 3#64) / 2#64).toNat
        omega
      · intro i hi
        have hlen : i < (Bytes.read p.data 0 p.dataSize.toNat).length := by
          rw [Bytes.length_read]
          exact hi
        have hput := Ring.put_at (f := newData) (d := 0) hlen
        rw [Bytes.getElem_read, Nat.zero_add] at hput
        exact hput
      · show p.dataSize.toNat ≤ (((p.dataSize + len) * 3#64) / 2#64).toNat
        omega
      · show p.dataPos.toNat + (len.toNat + 20) ≤ (((p.dataSize + len) * 3#64) / 2#64).toNat
        omega

/-! ## One write -/

/-- Every write is `GSL_RPC_WRITE_DATA` of its frame. -/
theorem RpcArg.write_eq (malloc : HgslMalloc) (p : HabPayload) (a : RpcArg)
    (hlen : a.payload.length < 2 ^ 32) :
    a.write malloc p = gslRpcWriteData malloc p a.id a.size a.payload := by
  cases a with
  | blob bs =>
      have hbs : (BitVec.ofNat 64 bs.length).toNat = bs.length := by
        have hlt : bs.length < 2 ^ 32 := hlen
        rw [BitVec.toNat_ofNat]
        omega
      show gslRpcWriteData malloc p GSL_RPC_BLOB_DATA (BitVec.ofNat 64 bs.length)
        (bs.take (BitVec.ofNat 64 bs.length).toNat) = _
      rw [hbs, List.take_length]
      rfl
  | int32 x | uint32 x | int64 x | uint64 x =>
      simp [RpcArg.write, gslRpcWriteInt32, gslRpcWriteUint32, gslRpcWriteInt64, gslRpcWriteUint64,
        gslRpcWriteArg, RpcArg.id, RpcArg.size, RpcArg.payload]

/-- A write is the check for room and then the stores. -/
theorem gslRpcWriteData_eq_ok {malloc : HgslMalloc} {p p' : HabPayload} {type : BitVec 32}
    {len : BitVec 64} {action : List (BitVec 8)}
    (h : gslRpcWriteData malloc p type len action = .ok p') :
    ∃ q, ensureRoom malloc p (16#64 + len + 4#64) len = .ok q ∧
      p' = { q with
        data := storeFrame (Ring.put q.data (q.dataPos.toNat + gslRpcHeaderSize) action) q.dataPos.toNat
          (q.dataPos + 16#64 + len).toNat type len
        dataPos := q.dataPos + (len + 16#64 + 4#64) } := by
  unfold gslRpcWriteData at h
  cases hroom : ensureRoom malloc p (16#64 + len + 4#64) len with
  | error e =>
      rw [hroom] at h
      cases h
  | ok q =>
      rw [hroom] at h
      cases h
      exact ⟨q, rfl, rfl⟩

theorem ensureRoom_eq_error {malloc : HgslMalloc} {p : HabPayload} {need len : BitVec 64} {e : Int}
    (h : ensureRoom malloc p need len = .error e) : e = -ENOMEM ∧ ∃ size, malloc size = none := by
  unfold ensureRoom at h
  split at h
  · exact growData_eq_error h
  · cases h

theorem gslRpcWriteData_eq_error {malloc : HgslMalloc} {p : HabPayload} {type : BitVec 32}
    {len : BitVec 64} {action : List (BitVec 8)} {e : Int}
    (h : gslRpcWriteData malloc p type len action = .error e) :
    e = -ENOMEM ∧ ∃ size, malloc size = none := by
  unfold gslRpcWriteData at h
  cases hroom : ensureRoom malloc p (16#64 + len + 4#64) len with
  | error e' =>
      rw [hroom] at h
      cases h
      exact ensureRoom_eq_error hroom
  | ok q =>
      rw [hroom] at h
      cases h

/-- The arguments `args` are in the parcel, and more can be written behind them. -/
structure Written (args : List RpcArg) (p : HabPayload) : Prop where
  buffer : Buffer p
  dataPos : p.dataPos.toNat = 16 + (parcelBody args).length
  body : Bytes.read p.data 16 (parcelBody args).length = parcelBody args

theorem Written.congr {args : List RpcArg} {p q : HabPayload} {n : Nat} (h : Written args p)
    (hroom : Room p q n) : Written args q := by
  refine ⟨hroom.buffer, by rw [hroom.dataPos]; exact h.dataPos, ?_⟩
  rw [← h.body]
  have hpos := h.dataPos
  have hfits := h.buffer.dataPos
  rw [Bytes.length_read]
  apply Bytes.read_congr
  intro k hk
  exact hroom.data _ (by omega)

theorem RpcArg.toNat_size {a : RpcArg} (hlen : a.payload.length < 2 ^ 32) :
    a.size.toNat = a.payload.length := by
  rw [RpcArg.size, BitVec.toNat_ofNat]
  omega

/-- After the check there is room, as long as the growth is enough for what is needed. -/
theorem room_of_ensureRoom {malloc : HgslMalloc} (hmalloc : malloc.Bounded) {p q : HabPayload}
    {need len : BitVec 64} (hp : Buffer p) (hlen : len.toNat < 2 ^ 32)
    (hneed : need.toNat ≤ len.toNat + 20) (h : ensureRoom malloc p need len = .ok q) :
    Room p q need.toNat := by
  unfold ensureRoom at h
  split at h
  · exact (growData_room hmalloc hp hlen h).mono hneed
  · next hfits =>
      cases h
      have hpos := hp.dataPos
      have hbound := hp.bound
      rw [BitVec.lt_def, BitVec.toNat_add] at hfits
      exact Room.refl hp (by omega)

/-- **A write appends its frame.** -/
theorem Written.write {malloc : HgslMalloc} (hmalloc : malloc.Bounded) {args : List RpcArg}
    {p p' : HabPayload} {a : RpcArg} (h : Written args p) (hlen : a.payload.length < 2 ^ 32)
    (hwrite : a.write malloc p = .ok p') : Written (args ++ [a]) p' := by
  rw [a.write_eq malloc p hlen] at hwrite
  obtain ⟨q, hgrow, rfl⟩ := gslRpcWriteData_eq_ok hwrite
  have hsize := a.toNat_size hlen
  have hneed : (16#64 + a.size + 4#64).toNat = a.payload.length + 20 := by
    simp only [BitVec.toNat_add, BitVec.toNat_ofNat, hsize]
    omega
  have hroom := room_of_ensureRoom hmalloc h.buffer (by omega) (by omega) hgrow
  have hq := h.congr hroom
  have hfits := hroom.room
  rw [← hroom.dataPos, hneed] at hfits
  have hbound := hq.buffer.bound
  have hftr : (q.dataPos + 16#64 + a.size).toNat = q.dataPos.toNat + 16 + a.payload.length := by
    rw [BitVec.toNat_add, BitVec.toNat_add, hsize]
    simp only [BitVec.toNat_ofNat]
    omega
  have hnext : (q.dataPos + (a.size + 16#64 + 4#64)).toNat = q.dataPos.toNat + a.frame.length := by
    rw [a.length_frame]
    simp only [BitVec.toNat_add, BitVec.toNat_ofNat, hsize]
    omega
  have hbody : parcelBody (args ++ [a]) = parcelBody args ++ a.frame := by
    rw [parcelBody_append]
    simp [parcelBody]
  have hlength : (parcelBody (args ++ [a])).length = (parcelBody args).length + a.frame.length := by
    rw [hbody, List.length_append]
  rw [hftr]
  unfold gslRpcHeaderSize
  rw [storeFrame_put]
  have hframe := a.length_frame
  have hdata := hq.dataPos
  have hqsize := hq.buffer.size
  have hpos' : (q.dataPos + (a.size + 16#64 + 4#64)).toNat = 16 + (parcelBody (args ++ [a])).length := by
    rw [hnext, hlength]
    omega
  refine ⟨⟨hq.buffer.size, hbound, ?_, ?_⟩, hpos', ?_⟩
  · show 16 ≤ (q.dataPos + (a.size + 16#64 + 4#64)).toNat
    omega
  · show (q.dataPos + (a.size + 16#64 + 4#64)).toNat ≤ q.dataSize.toNat
    omega
  · show Bytes.read (Ring.put q.data q.dataPos.toNat a.frame) 16 _ = _
    rw [hlength, Bytes.read_add, Bytes.read_put_before _ (by omega), hq.body, ← hq.dataPos,
      Bytes.read_put, hbody]

/-! ## A whole parcel -/

/-- A new parcel with some arguments. -/
def writtenParcel (malloc : HgslMalloc) (args : List RpcArg) : Except Int HabPayload := do
  let p ← gslRpcParcelInit malloc
  args.foldlM (RpcArg.write malloc) p

/-- The parcel of a call. -/
def callParcel (malloc : HgslMalloc) (args : List RpcArg) (opcode version : BitVec 32) :
    Except Int HabPayload := do
  let p ← writtenParcel malloc args
  gslRpcFinalize malloc (gslRpcSetCallParams p opcode version)

theorem Written.init {malloc : HgslMalloc} {p : HabPayload} (h : gslRpcParcelInit malloc = .ok p) :
    Written [] p := by
  unfold gslRpcParcelInit at h
  split at h
  · cases h
  · cases h
    exact ⟨⟨by decide, by decide, by decide, by decide⟩, rfl, rfl⟩

theorem Written.foldlM {malloc : HgslMalloc} (hmalloc : malloc.Bounded) {pre args : List RpcArg}
    {p p' : HabPayload} (h : Written pre p) (hargs : ∀ a ∈ args, a.payload.length < 2 ^ 32)
    (hwrite : args.foldlM (RpcArg.write malloc) p = .ok p') : Written (pre ++ args) p' := by
  induction args generalizing pre p with
  | nil =>
      cases hwrite
      rw [List.append_nil]
      exact h
  | cons a as ih =>
      rw [List.foldlM_cons] at hwrite
      cases hfirst : a.write malloc p with
      | error e =>
          rw [hfirst] at hwrite
          cases hwrite
      | ok q =>
          rw [hfirst] at hwrite
          have hq := h.write hmalloc (hargs a List.mem_cons_self) hfirst
          have hrest := ih hq (fun b hb => hargs b (List.mem_cons_of_mem a hb)) hwrite
          rwa [List.append_assoc] at hrest

theorem foldlM_write_eq_error {malloc : HgslMalloc} {args : List RpcArg} {p : HabPayload} {e : Int}
    (hargs : ∀ a ∈ args, a.payload.length < 2 ^ 32)
    (h : args.foldlM (RpcArg.write malloc) p = .error e) :
    e = -ENOMEM ∧ ∃ size, malloc size = none := by
  induction args generalizing p with
  | nil => cases h
  | cons a as ih =>
      rw [List.foldlM_cons] at h
      cases hfirst : a.write malloc p with
      | error e' =>
          rw [hfirst] at h
          cases h
          rw [a.write_eq malloc p (hargs a List.mem_cons_self)] at hfirst
          exact gslRpcWriteData_eq_error hfirst
      | ok q =>
          rw [hfirst] at h
          exact ih (fun b hb => hargs b (List.mem_cons_of_mem a hb)) h

theorem Written.writtenParcel {malloc : HgslMalloc} (hmalloc : malloc.Bounded) {args : List RpcArg}
    {p : HabPayload} (hargs : ∀ a ∈ args, a.payload.length < 2 ^ 32)
    (h : writtenParcel malloc args = .ok p) : Written args p := by
  unfold Hgsl.writtenParcel at h
  cases hinit : gslRpcParcelInit malloc with
  | error e =>
      rw [hinit] at h
      cases h
  | ok q =>
      rw [hinit] at h
      exact (Written.init hinit).foldlM hmalloc hargs h

theorem writtenParcel_eq_error {malloc : HgslMalloc} {args : List RpcArg} {e : Int}
    (hargs : ∀ a ∈ args, a.payload.length < 2 ^ 32) (h : writtenParcel malloc args = .error e) :
    e = -ENOMEM ∧ ∃ size, malloc size = none := by
  unfold Hgsl.writtenParcel at h
  cases hinit : gslRpcParcelInit malloc with
  | error e' =>
      rw [hinit] at h
      cases h
      unfold gslRpcParcelInit at hinit
      split at hinit
      · next hnone =>
          cases hinit
          exact ⟨rfl, _, hnone⟩
      · cases hinit
  | ok q =>
      rw [hinit] at h
      exact foldlM_write_eq_error hargs h

/-- The parameters of the call stand in front of the arguments. -/
theorem Written.setCallParams {args : List RpcArg} {p : HabPayload} (h : Written args p)
    (opcode version : BitVec 32) :
    Written args (gslRpcSetCallParams p opcode version) ∧
      Bytes.read (gslRpcSetCallParams p opcode version).data 0 12 =
        Bytes.ofWord GSL_HAB_CALL_MAGIC ++ (Bytes.ofWord opcode ++ Bytes.ofWord version) := by
  have hdata : (gslRpcSetCallParams p opcode version).data = Ring.put p.data 0
      (Bytes.ofWord GSL_HAB_CALL_MAGIC ++ (Bytes.ofWord opcode ++ Bytes.ofWord version)) := by
    have hfirst := Bytes.put_put_behind p.data 0 (Bytes.ofWord GSL_HAB_CALL_MAGIC) (Bytes.ofWord opcode)
    have hsecond := Bytes.put_put_behind p.data 0
      (Bytes.ofWord GSL_HAB_CALL_MAGIC ++ Bytes.ofWord opcode) (Bytes.ofWord version)
    simp only [Bytes.length_ofWord, List.length_append] at hfirst hsecond
    unfold gslRpcSetCallParams Bytes.store
    dsimp only
    rw [hfirst, hsecond, List.append_assoc]
  refine ⟨⟨{ h.buffer with }, h.dataPos, ?_⟩, ?_⟩
  · rw [hdata, Bytes.read_put_behind (by simp), h.body]
  · rw [hdata]
    exact Bytes.read_put p.data 0 _

/-- A finished parcel with its call header. -/
structure Sent (args : List RpcArg) (hdr : GslRpcHeader) (p : HabPayload) : Prop where
  header : Bytes.read p.data 0 16 = hdr.bytes
  bound : p.dataSize.toNat ≤ 2 ^ 62
  fits : 16 + (parcelBody args).length ≤ p.dataSize.toNat
  body : Bytes.read p.data 16 (parcelBody args).length = parcelBody args

/-- The header of a call. The size of the body is cut off to 32 bits. -/
def callHeader (args : List RpcArg) (opcode version : BitVec 32) : GslRpcHeader where
  magic := GSL_HAB_CALL_MAGIC
  id := opcode
  version := version
  size := BitVec.ofNat 32 (parcelBody args).length

theorem gslRpcFinalize_eq_ok {malloc : HgslMalloc} {p p' : HabPayload}
    (h : gslRpcFinalize malloc p = .ok p') :
    ∃ q, ensureRoom malloc p 4#64 4#64 = .ok q ∧
      p' = { q with
        data := Bytes.store (Bytes.store q.data 12 ((q.dataPos - 16#64).setWidth 32)) q.dataPos.toNat
          gslRpcGenChecksum
        dataPos := q.dataPos + 4#64 } := by
  unfold gslRpcFinalize at h
  cases hroom : ensureRoom malloc p 4#64 4#64 with
  | error e =>
      rw [hroom] at h
      cases h
  | ok q =>
      rw [hroom] at h
      cases h
      exact ⟨q, rfl, rfl⟩

/-- The position tells the size of the body. -/
theorem setWidth_dataPos {pos : BitVec 64} {n : Nat} (h : pos.toNat = 16 + n) :
    (pos - 16#64).setWidth 32 = BitVec.ofNat 32 n := by
  apply BitVec.eq_of_toNat_eq
  rw [BitVec.toNat_setWidth, BitVec.toNat_sub, h, BitVec.toNat_ofNat, BitVec.toNat_ofNat]
  omega

/-- **`gsl_rpc_finalize` completes the call header** and leaves the arguments alone. -/
theorem Written.finalize {malloc : HgslMalloc} (hmalloc : malloc.Bounded) {args : List RpcArg}
    {p p' : HabPayload} {opcode version : BitVec 32} (h : Written args p)
    (hparams : Bytes.read p.data 0 12 =
      Bytes.ofWord GSL_HAB_CALL_MAGIC ++ (Bytes.ofWord opcode ++ Bytes.ofWord version))
    (hfinal : gslRpcFinalize malloc p = .ok p') : Sent args (callHeader args opcode version) p' := by
  obtain ⟨q, hgrow, rfl⟩ := gslRpcFinalize_eq_ok hfinal
  have hroom := room_of_ensureRoom hmalloc h.buffer (by decide) (by decide) hgrow
  have hq := h.congr hroom
  have hparams' : Bytes.read q.data 0 12 = Bytes.read p.data 0 12 := by
    apply Bytes.read_congr
    intro k hk
    have hsize := h.buffer.size
    exact hroom.data _ (by omega)
  have hstart := hq.buffer.start
  have hpos := hq.dataPos
  have hfits := hq.buffer.dataPos
  have hsize := setWidth_dataPos hpos
  refine ⟨?_, hq.buffer.bound, ?_, ?_⟩
  · show Bytes.read (Ring.put (Ring.put q.data 12 (Bytes.ofWord _)) _ _) 0 (12 + 4) = _
    rw [Bytes.read_put_before _ (by omega), Bytes.read_add, Bytes.read_put_before _ (by omega), hparams',
      hparams, hsize]
    have hword := Bytes.read_put q.data 12 (Bytes.ofWord (BitVec.ofNat 32 (parcelBody args).length))
    rw [Bytes.length_ofWord] at hword
    rw [hword]
    simp [GslRpcHeader.bytes, callHeader, List.append_assoc]
  · show 16 + (parcelBody args).length ≤ q.dataSize.toNat
    omega
  · show Bytes.read (Ring.put (Ring.put q.data 12 (Bytes.ofWord _)) _ _) 16 _ = _
    rw [Bytes.read_put_before _ (by omega), Bytes.read_put_behind (by simp), hq.body]

/-! ## Reading back -/

/-- The read expects an argument of this kind and length. -/
def RpcRead.Fits (r : RpcRead) (a : RpcArg) : Prop := r.id = a.id ∧ r.size = a.size

instance (r : RpcRead) (a : RpcArg) : Decidable (r.Fits a) := inferInstanceAs (Decidable (_ ∧ _))

/-- **The reader in the abstract.** The arguments that are left are a list, at position `pos` of the
    parcel. A read that fits the first one takes it off, any other read fails and changes nothing. Each
    read is noted with its result and the position behind it; nothing is said about reads behind the last
    argument. -/
def takeAll : Nat → List RpcArg → List RpcRead → Option (List (Except Int (Option RpcValue) × Nat))
  | _, _, [] => some []
  | _, [], _ :: _ => none
  | pos, a :: as, r :: rs =>
    if r.Fits a then
      let pos := pos + a.frame.length
      (takeAll pos as rs).map ((.ok (some a.value), pos) :: ·)
    else (takeAll pos (a :: as) rs).map ((.error (-EINVAL), pos) :: ·)

/-- The result of a read. -/
def RpcReply.result {β : Type} (r : RpcReply β) : Except Int (Option β) :=
  if r.ret = 0 then .ok r.out else .error r.ret

/-- A sequence of reads, each with its result and the position behind it. -/
def readAll : HabPayload → List RpcRead → List (Except Int (Option RpcValue) × Nat)
  | _, [] => []
  | p, r :: rs =>
    ((r.run p).result, (r.run p).parcel.dataPos.toNat) :: readAll (r.run p).parcel rs

/-- The arguments `as` lie behind the position. -/
structure Ahead (as : List RpcArg) (p : HabPayload) : Prop where
  bound : p.dataSize.toNat ≤ 2 ^ 62
  fits : p.dataPos.toNat + (parcelBody as).length ≤ p.dataSize.toNat
  body : Bytes.read p.data p.dataPos.toNat (parcelBody as).length = parcelBody as

theorem RpcArg.setWidth_size {a : RpcArg} (hlen : a.payload.length < 2 ^ 32) :
    (a.size.setWidth 32).setWidth 64 = a.size := by
  apply BitVec.eq_of_toNat_eq
  rw [BitVec.toNat_setWidth, BitVec.toNat_setWidth, a.toNat_size hlen]
  omega

section First

variable {a : RpcArg} {as : List RpcArg} {p : HabPayload}

theorem Ahead.frame (h : Ahead (a :: as) p) :
    Bytes.read p.data p.dataPos.toNat a.frame.length = a.frame := by
  have hbody := h.body
  rw [parcelBody_cons] at hbody
  exact (Bytes.read_eq_append hbody).1

/-- The three parts of the frame. -/
theorem Ahead.parts (h : Ahead (a :: as) p) :
    GslRpcHeader.at p.data p.dataPos.toNat = a.header ∧
      Bytes.read p.data (p.dataPos.toNat + 16) a.payload.length = a.payload ∧
      Bytes.load 32 p.data (p.dataPos.toNat + 16 + a.payload.length) = gslRpcGenChecksum := by
  have hframe := h.frame
  have hparts : Bytes.read p.data p.dataPos.toNat a.frame.length =
      a.header.bytes ++ (a.payload ++ Bytes.ofWord gslRpcGenChecksum) := hframe
  obtain ⟨hheader, hrest⟩ := Bytes.read_eq_append hparts
  rw [GslRpcHeader.length_bytes] at hheader hrest
  obtain ⟨hpayload, hfooter⟩ := Bytes.read_eq_append hrest
  rw [Bytes.length_ofWord] at hfooter
  exact ⟨GslRpcHeader.at_of_read hheader, hpayload, Bytes.load_of_read (by decide) hfooter⟩

theorem Ahead.headerMatches_iff (h : Ahead (a :: as) p) (hlen : a.payload.length < 2 ^ 32)
    (r : RpcRead) : headerMatches p r.id r.size = true ↔ r.Fits a := by
  unfold headerMatches RpcRead.Fits
  rw [h.parts.1]
  dsimp only [RpcArg.header]
  rw [a.setWidth_size hlen]
  simp only [Bool.and_eq_true, decide_eq_true_eq, true_and]
  constructor
  · rintro ⟨hid, hsize⟩
    exact ⟨hid.symm, hsize.symm⟩
  · rintro ⟨hid, hsize⟩
    exact ⟨hid.symm, hsize.symm⟩

/-- A read that does not fit fails and leaves everything as it is. -/
theorem Ahead.run_of_not_fits (h : Ahead (a :: as) p) (hlen : a.payload.length < 2 ^ 32) {r : RpcRead}
    (hr : ¬r.Fits a) : (r.run p).ret = -EINVAL ∧ (r.run p).parcel = p := by
  obtain ⟨hret, hparcel, -⟩ := r.run_eq p
  have hmatches : ¬headerMatches p r.id r.size = true := by
    rw [h.headerMatches_iff hlen]
    exact hr
  rw [hret, hparcel, gslRpcGetArgPtr]
  dsimp only
  rw [if_neg hmatches]
  split <;> exact ⟨rfl, rfl⟩

/-- What `gsl_rpc_get_arg_ptr` finds at a frame that fits. -/
theorem Ahead.getArgPtr (h : Ahead (a :: as) p) (hlen : a.payload.length < 2 ^ 32) {r : RpcRead}
    (hr : r.Fits a) :
    (gslRpcGetArgPtr p r.id r.size).ret = 0 ∧
      (gslRpcGetArgPtr p r.id r.size).pData = some (p.dataPos.toNat + 16) ∧
      (gslRpcGetArgPtr p r.id r.size).parcel = { p with dataPos := p.dataPos + (a.size + 16#64) + 4#64 } ∧
      (p.dataPos + (a.size + 16#64) + 4#64).toNat = p.dataPos.toNat + a.frame.length := by
  have hsize := a.toNat_size hlen
  have hframe := a.length_frame
  have hfits := h.fits
  have hbound := h.bound
  rw [parcelBody_cons, List.length_append] at hfits
  -- the frame lies inside the buffer, so no sum of the code wraps
  have hfooter : (p.dataPos + (a.size + 16#64)).toNat = p.dataPos.toNat + 16 + a.payload.length := by
    simp only [BitVec.toNat_add, BitVec.toNat_ofNat, hsize]
    omega
  have hend : (p.dataPos + a.size + 16#64).toNat = p.dataPos.toNat + 16 + a.payload.length := by
    rw [BitVec.add_assoc, hfooter]
  have hnext : (p.dataPos + (a.size + 16#64) + 4#64).toNat = p.dataPos.toNat + a.frame.length := by
    rw [BitVec.toNat_add, hfooter, BitVec.toNat_ofNat]
    omega
  have hcheck : p.dataPos + r.size + 16#64 ≤ p.dataSize := by
    rw [hr.2, BitVec.le_def, hend]
    omega
  have hmatches := (h.headerMatches_iff hlen r).2 hr
  have hchecksum : gslRpcGenChecksum = Bytes.load 32 p.data (p.dataPos + (r.size + 16#64)).toNat := by
    rw [hr.2, hfooter, h.parts.2.2]
  rw [gslRpcGetArgPtr, if_pos hcheck, if_pos hmatches]
  dsimp only
  rw [if_pos hchecksum, hr.2]
  exact ⟨rfl, rfl, rfl, hnext⟩

end First

/-- The bytes of an argument give its value, as a read that fits sees it. -/
def RpcRead.valueOf (bs : List (BitVec 8)) : RpcRead → RpcValue
  | .read _ | .readL _ => .bytes bs
  | .int32L | .uint32L => .word32 (Bytes.toWord 32 bs)
  | .int64L | .uint64L => .word64 (Bytes.toWord 64 bs)

theorem RpcRead.valueOf_payload {r : RpcRead} {a : RpcArg} (h : r.Fits a) :
    r.valueOf a.payload = a.value := by
  have hid := h.1
  cases a with
  | blob bs =>
      cases r with
      | read len | readL len => rfl
      | int32L | uint32L | int64L | uint64L => cases hid
  | int32 x | uint32 x =>
      cases r with
      | int32L | uint32L => exact congrArg RpcValue.word32 (Bytes.toWord_ofWord (by decide) x)
      | read len | readL len | int64L | uint64L => cases hid
  | int64 x | uint64 x =>
      cases r with
      | int64L | uint64L => exact congrArg RpcValue.word64 (Bytes.toWord_ofWord (by decide) x)
      | read len | readL len | int32L | uint32L => cases hid

section Out

variable {p : HabPayload} {d : Nat}

theorem gslRpcRead_out {len : BitVec 64} (hret : (gslRpcGetArgPtr p GSL_RPC_BLOB_DATA len).ret = 0)
    (hptr : (gslRpcGetArgPtr p GSL_RPC_BLOB_DATA len).pData = some d) :
    (gslRpcRead p len).out = some (Bytes.read p.data d len.toNat) := by
  unfold gslRpcRead ArgPtr.reply
  dsimp only
  rw [if_pos hret, hptr]
  rfl

theorem gslRpcReadL_out {len : BitVec 64}
    (hptr : (gslRpcGetArgPtr p GSL_RPC_BLOB_DATA len).pData = some d) :
    (gslRpcReadL p len).out = some (Bytes.read p.data d len.toNat) := by
  unfold gslRpcReadL ArgPtr.reply
  dsimp only
  rw [hptr]
  rfl

theorem gslRpcReadArg_out {w : Nat} {id : BitVec 32}
    (hret : (gslRpcGetArgPtr p id (BitVec.ofNat 64 (w / 8))).ret = 0)
    (hptr : (gslRpcGetArgPtr p id (BitVec.ofNat 64 (w / 8))).pData = some d) :
    (gslRpcReadArg w p id).out = some (Bytes.toWord w (Bytes.read p.data d (w / 8))) := by
  unfold gslRpcReadArg ArgPtr.reply
  dsimp only
  rw [if_pos hret, hptr]
  rfl

/-- What a read stores for its caller, once `gsl_rpc_get_arg_ptr` has succeeded. -/
theorem RpcRead.out_of_getArgPtr {r : RpcRead} (hret : (gslRpcGetArgPtr p r.id r.size).ret = 0)
    (hptr : (gslRpcGetArgPtr p r.id r.size).pData = some d) :
    (r.run p).out = some (r.valueOf (Bytes.read p.data d r.size.toNat)) := by
  cases r with
  | read len => exact congrArg (Option.map RpcValue.bytes) (gslRpcRead_out hret hptr)
  | readL len => exact congrArg (Option.map RpcValue.bytes) (gslRpcReadL_out hptr)
  | int32L | uint32L => exact congrArg (Option.map RpcValue.word32) (gslRpcReadArg_out hret hptr)
  | int64L | uint64L => exact congrArg (Option.map RpcValue.word64) (gslRpcReadArg_out hret hptr)

end Out

/-- **A read that fits takes the first argument off.** -/
theorem Ahead.run_of_fits {a : RpcArg} {as : List RpcArg} {p : HabPayload} (h : Ahead (a :: as) p)
    (hlen : a.payload.length < 2 ^ 32) {r : RpcRead} (hr : r.Fits a) :
    (r.run p).result = .ok (some a.value) ∧
      (r.run p).parcel.dataPos.toNat = p.dataPos.toNat + a.frame.length ∧ Ahead as (r.run p).parcel := by
  obtain ⟨hret, hptr, hparcel, hnext⟩ := h.getArgPtr hlen hr
  obtain ⟨hret', hparcel', -⟩ := r.run_eq p
  rw [hparcel', hparcel]
  refine ⟨?_, hnext, h.bound, ?_, ?_⟩
  · unfold RpcReply.result
    rw [hret', if_pos hret, RpcRead.out_of_getArgPtr hret hptr, hr.2, a.toNat_size hlen, h.parts.2.1,
      RpcRead.valueOf_payload hr]
  · have hfits := h.fits
    rw [parcelBody_cons, List.length_append] at hfits
    show (p.dataPos + (a.size + 16#64) + 4#64).toNat + (parcelBody as).length ≤ p.dataSize.toNat
    omega
  · have hbody := h.body
    rw [parcelBody_cons] at hbody
    show Bytes.read p.data (p.dataPos + (a.size + 16#64) + 4#64).toNat _ = _
    rw [hnext]
    exact (Bytes.read_eq_append hbody).2

/-- **The reader refines the abstract one.** -/
theorem Ahead.readAll {as : List RpcArg} {p : HabPayload} {rs : List RpcRead}
    {results : List (Except Int (Option RpcValue) × Nat)} (h : Ahead as p)
    (hargs : ∀ a ∈ as, a.payload.length < 2 ^ 32)
    (htake : takeAll p.dataPos.toNat as rs = some results) : readAll p rs = results := by
  -- on the reads; a read that does not fit leaves the arguments as they are
  induction rs generalizing as p results with
  | nil =>
      cases as <;> cases htake <;> rfl
  | cons r rs ih =>
      cases as with
      | nil => cases htake
      | cons a as =>
          have hlen := hargs a List.mem_cons_self
          rw [takeAll] at htake
          by_cases hr : r.Fits a
          · rw [if_pos hr] at htake
            obtain ⟨rest, hrest, rfl⟩ := Option.map_eq_some_iff.1 htake
            obtain ⟨hresult, hnext, hahead⟩ := h.run_of_fits hlen hr
            rw [← hnext] at hrest
            rw [Hgsl.readAll, hresult, ih hahead (fun b hb => hargs b (List.mem_cons_of_mem a hb)) hrest,
              hnext]
          · rw [if_neg hr] at htake
            obtain ⟨rest, hrest, rfl⟩ := Option.map_eq_some_iff.1 htake
            obtain ⟨hret, hparcel⟩ := h.run_of_not_fits hlen hr
            have hresult : (r.run p).result = .error (-EINVAL) := by
              unfold RpcReply.result
              rw [hret, if_neg (by decide)]
            rw [Hgsl.readAll, hresult, hparcel, ih h hargs hrest]

/-! ## Round trip -/

theorem callParcel_eq_ok {malloc : HgslMalloc} {args : List RpcArg} {opcode version : BitVec 32}
    {p : HabPayload} (h : callParcel malloc args opcode version = .ok p) :
    ∃ q, writtenParcel malloc args = .ok q ∧
      gslRpcFinalize malloc (gslRpcSetCallParams q opcode version) = .ok p := by
  unfold callParcel at h
  cases hwritten : writtenParcel malloc args with
  | error e =>
      rw [hwritten] at h
      cases h
  | ok q =>
      rw [hwritten] at h
      exact ⟨q, rfl, h⟩

theorem callParcel_eq_error {malloc : HgslMalloc} {args : List RpcArg} {opcode version : BitVec 32}
    {e : Int} (hargs : ∀ a ∈ args, a.payload.length < 2 ^ 32)
    (h : callParcel malloc args opcode version = .error e) :
    e = -ENOMEM ∧ ∃ size, malloc size = none := by
  unfold callParcel at h
  cases hwritten : writtenParcel malloc args with
  | error e' =>
      rw [hwritten] at h
      cases h
      exact writtenParcel_eq_error hargs hwritten
  | ok q =>
      rw [hwritten] at h
      replace h : gslRpcFinalize malloc (gslRpcSetCallParams q opcode version) = .error e := h
      unfold gslRpcFinalize at h
      cases hroom : ensureRoom malloc (gslRpcSetCallParams q opcode version) 4#64 4#64 with
      | error e' =>
          rw [hroom] at h
          cases h
          exact ensureRoom_eq_error hroom
      | ok q' =>
          rw [hroom] at h
          cases h

theorem Sent.callParcel {malloc : HgslMalloc} (hmalloc : malloc.Bounded) {args : List RpcArg}
    {opcode version : BitVec 32} {p : HabPayload} (hargs : ∀ a ∈ args, a.payload.length < 2 ^ 32)
    (h : callParcel malloc args opcode version = .ok p) :
    Sent args (callHeader args opcode version) p := by
  obtain ⟨q, hwritten, hfinal⟩ := callParcel_eq_ok h
  obtain ⟨hparams, hheader⟩ :=
    (Written.writtenParcel hmalloc hargs hwritten).setCallParams opcode version
  exact hparams.finalize hmalloc hheader hfinal

/-- From the offset of the data on, the arguments lie ahead. -/
theorem Sent.ahead {args : List RpcArg} {hdr : GslRpcHeader} {p : HabPayload} (h : Sent args hdr p) :
    Ahead args { p with dataPos := gslRpcParcelGetDataOffset } :=
  ⟨h.bound, h.fits, h.body⟩

structure RoundTrip (malloc : HgslMalloc) (args : List RpcArg) (opcode version : BitVec 32)
    (p : HabPayload) : Prop where
  /-- wherever the buffer has to grow, there is room for the argument and nothing is lost -/
  grows : ∀ pre, pre <+: args → ∀ q, writtenParcel malloc pre = .ok q →
    ∀ len : BitVec 64, len.toNat < 2 ^ 32 → ∀ q', growData malloc q len = .ok q' →
      q.dataPos.toNat + (gslRpcHeaderSize + len.toNat + gslRpcFooterSize) ≤ q'.dataSize.toNat ∧
        ∀ i < q.dataSize.toNat, q'.data i = q.data i
  header : GslRpcHeader.at p.data 0 = callHeader args opcode version
  callParams : gslRpcGetCallParams p = (opcode, version)
  reads : ∀ rs results, takeAll gslRpcHeaderSize args rs = some results →
    readAll { p with dataPos := gslRpcParcelGetDataOffset } rs = results

/-- The parcel of a call is read back as it was written; if it cannot be made, an allocation has
    failed. -/
theorem roundTrip_of_callParcel (malloc : HgslMalloc) (hmalloc : malloc.Bounded) (args : List RpcArg)
    (hargs : ∀ a ∈ args, a.payload.length < 2 ^ 32) (opcode version : BitVec 32) :
    (∀ p, callParcel malloc args opcode version = .ok p →
      RoundTrip malloc args opcode version p) ∧
    ∀ e, callParcel malloc args opcode version = .error e →
      e = -ENOMEM ∧ ∃ size, malloc size = none := by
  refine ⟨?_, fun e h => callParcel_eq_error hargs h⟩
  intro p h
  have hsent := Sent.callParcel hmalloc hargs h
  have hheader := GslRpcHeader.at_of_read hsent.header
  refine ⟨?_, hheader, ?_, ?_⟩
  · intro pre hpre q hq len hlen q' hq'
    have hwritten := Written.writtenParcel hmalloc (fun a ha => hargs a (hpre.subset ha)) hq
    have hroom := growData_room hmalloc hwritten.buffer hlen hq'
    refine ⟨?_, hroom.data⟩
    have hneed := hroom.room
    unfold gslRpcHeaderSize gslRpcFooterSize
    omega
  · unfold gslRpcGetCallParams
    rw [hheader]
    rfl
  · intro rs results htake
    exact hsent.ahead.readAll hargs htake

/-- An allocator with 2^40 bytes at most, and the same byte everywhere in new memory. -/
def smallMalloc : HgslMalloc := fun size => if size.toNat ≤ 2 ^ 40 then some fun _ => 0xa5#8 else none

theorem smallMalloc_bounded : smallMalloc.Bounded := by
  intro size mem h
  unfold smallMalloc at h
  split at h
  · next hle => exact hle.trans (by decide)
  · cases h

/-- The second argument makes the buffer grow. The reads of the wrong length and kind fail, those behind
    them succeed. -/
theorem roundTrip_of_callParcel_grown :
    ∃ p, callParcel smallMalloc [.int32 7#32, .blob (List.replicate 5000 9#8), .uint64 1#64] 3#32 1#32 =
        .ok p ∧
      GslRpcHeader.at p.data 0 = ⟨GSL_HAB_CALL_MAGIC, 3#32, 1#32, 5072#32⟩ ∧
      readAll { p with dataPos := gslRpcParcelGetDataOffset } [.readL 8#64, .uint32L, .int64L] =
        [(.error (-EINVAL), 16), (.ok (some (.word32 7#32)), 40), (.error (-EINVAL), 40)] := by
  have hok : (callParcel smallMalloc [.int32 7#32, .blob (List.replicate 5000 9#8), .uint64 1#64] 3#32
      1#32).toOption.isSome = true := by
    decide +kernel
  have htrip := roundTrip_of_callParcel smallMalloc smallMalloc_bounded
    [.int32 7#32, .blob (List.replicate 5000 9#8), .uint64 1#64] (by decide +kernel) 3#32 1#32
  cases hcall : callParcel smallMalloc [.int32 7#32, .blob (List.replicate 5000 9#8), .uint64 1#64] 3#32
      1#32 with
  | error e =>
      rw [hcall] at hok
      cases hok
  | ok p =>
      have h := htrip.1 p hcall
      exact ⟨p, rfl, h.header.trans (by decide +kernel), h.reads _ _ (by decide +kernel)⟩

theorem ensureRoom_smallMalloc {p : HabPayload} (need : BitVec 64) {len : BitVec 64}
    (hsize : p.dataSize.toNat ≤ 2 ^ 36) (hlen : len.toNat < 2 ^ 32) :
    ∃ q, ensureRoom smallMalloc p need len = .ok q ∧
      q.dataSize.toNat ≤ 2 * (p.dataSize.toNat + len.toNat) := by
  have hnew : (((p.dataSize + len) * 3#64) / 2#64).toNat = (p.dataSize.toNat + len.toNat) * 3 / 2 := by
    simp only [BitVec.toNat_udiv, BitVec.toNat_mul, BitVec.toNat_add, BitVec.toNat_ofNat,
      Nat.reducePow, Nat.reduceMod]
    omega
  unfold ensureRoom
  by_cases hfull : p.dataSize < p.dataPos + need
  · rw [if_pos hfull]
    unfold growData smallMalloc
    dsimp only
    rw [hnew, if_pos (by omega)]
    exact ⟨_, rfl, by dsimp only; omega⟩
  · rw [if_neg hfull]
    exact ⟨p, rfl, by omega⟩

theorem write_smallMalloc {p : HabPayload} (bs : List (BitVec 8)) (hsize : p.dataSize.toNat ≤ 2 ^ 36)
    (hlen : bs.length < 2 ^ 32) :
    ∃ p', (RpcArg.blob bs).write smallMalloc p = .ok p' ∧
      p'.dataSize.toNat ≤ 2 * (p.dataSize.toNat + bs.length) := by
  have hlen' : (RpcArg.blob bs).size.toNat = bs.length := RpcArg.toNat_size hlen
  obtain ⟨q, hroom, hle⟩ := ensureRoom_smallMalloc (16#64 + (RpcArg.blob bs).size + 4#64) hsize
    (by rw [hlen']; exact hlen)
  rw [RpcArg.write_eq smallMalloc p (.blob bs) hlen, gslRpcWriteData, hroom, ← hlen']
  exact ⟨_, rfl, hle⟩

/-- The parcel of two blobs of 2^31 bytes is made. -/
theorem callParcel_large {bs : List (BitVec 8)} (hbs : bs.length = 2 ^ 31) :
    ∃ p, callParcel smallMalloc [.blob bs, .blob bs] 1#32 1#32 = .ok p := by
  obtain ⟨p₀, hinit, hsize₀⟩ : ∃ p₀, gslRpcParcelInit smallMalloc = .ok p₀ ∧
      p₀.dataSize.toNat = 4096 := ⟨_, rfl, rfl⟩
  obtain ⟨p₁, hfirst, hsize₁⟩ := write_smallMalloc (p := p₀) bs (by omega) (by omega)
  obtain ⟨p₂, hsecond, hsize₂⟩ := write_smallMalloc (p := p₁) bs (by omega) (by omega)
  have hwritten : writtenParcel smallMalloc [.blob bs, .blob bs] = .ok p₂ := by
    rw [writtenParcel, hinit]
    show List.foldlM (RpcArg.write smallMalloc) p₀ [.blob bs, .blob bs] = .ok p₂
    rw [List.foldlM_cons, hfirst]
    show List.foldlM (RpcArg.write smallMalloc) p₁ [.blob bs] = .ok p₂
    rw [List.foldlM_cons, hsecond]
    rfl
  have hsize : (gslRpcSetCallParams p₂ 1#32 1#32).dataSize.toNat ≤ 2 ^ 36 := by
    show p₂.dataSize.toNat ≤ _
    omega
  obtain ⟨p₃, hroom, -⟩ := ensureRoom_smallMalloc 4#64 hsize (show (4#64).toNat < 2 ^ 32 by decide)
  rw [callParcel, hwritten]
  show ∃ p, gslRpcFinalize smallMalloc (gslRpcSetCallParams p₂ 1#32 1#32) = .ok p
  rw [gslRpcFinalize, hroom]
  exact ⟨_, rfl⟩

theorem size_ne_of_large {bs : List (BitVec 8)} (hbs : bs.length = 2 ^ 31) {p : HabPayload}
    (h : callParcel smallMalloc [.blob bs, .blob bs] 1#32 1#32 = .ok p) :
    (GslRpcHeader.at p.data 0).size.toNat ≠ (parcelBody [.blob bs, .blob bs]).length := by
  have hlen : (RpcArg.blob bs).payload.length = 2 ^ 31 := hbs
  have hargs : ∀ a ∈ [RpcArg.blob bs, RpcArg.blob bs], a.payload.length < 2 ^ 32 := by
    intro a ha
    have hblob : a = .blob bs := by simpa using ha
    rw [hblob, hlen]
    decide
  have hbody : (parcelBody [.blob bs, .blob bs]).length = 2 ^ 32 + 40 := by
    simp only [parcelBody_cons, List.length_append, RpcArg.length_frame, hlen]
    rfl
  have hsent := Sent.callParcel smallMalloc_bounded hargs h
  rw [GslRpcHeader.at_of_read hsent.header]
  show (BitVec.ofNat 32 (parcelBody [.blob bs, .blob bs]).length).toNat ≠ _
  rw [hbody]
  decide

/-- The body of two blobs of 2^31 bytes is longer than the call header says. -/
theorem call_size_truncated :
    ∃ p, callParcel smallMalloc [.blob (List.replicate (2 ^ 31) 0#8), .blob (List.replicate (2 ^ 31) 0#8)]
        1#32 1#32 = .ok p ∧
      (GslRpcHeader.at p.data 0).size.toNat ≠
        (parcelBody [.blob (List.replicate (2 ^ 31) 0#8), .blob (List.replicate (2 ^ 31) 0#8)]).length := by
  obtain ⟨p, hp⟩ := callParcel_large (List.length_replicate (n := 2 ^ 31) (a := 0#8))
  exact ⟨p, hp, size_ne_of_large List.length_replicate hp⟩

end Hgsl
