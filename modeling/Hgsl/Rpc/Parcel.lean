import Hgsl.Timestamp
import Hgsl.Lib.Bytes

set_option autoImplicit false

/-! # RPC parcels

The buffer in which a call is sent to the backend and a reply comes back: a call header, then arguments
of three kinds, each framed by a header and a footer, then the footer of the call. `gsl_rpc_write` and
its relatives append arguments and let the buffer grow; `gsl_rpc_read` and its relatives take them off,
if their kind and length are as expected.

Sizes and positions are `size_t`, the fields of a header `uint32_t`. What `hgsl_malloc` returns, whether
it succeeds and what the new memory holds, is a parameter. A parcel here has its buffer. -/

namespace Hgsl

/-- `GSL_HAB_CALL_MAGIC` -/
def GSL_HAB_CALL_MAGIC : BitVec 32 := 0xfeedca11#32

/-- `GSL_HAB_DATA_MAGIC` -/
def GSL_HAB_DATA_MAGIC : BitVec 32 := 0xfeedda7a#32

/-- `GSL_RPC_BLOB_DATA` -/
def GSL_RPC_BLOB_DATA : BitVec 32 := 0#32

/-- `GSL_RPC_32BIT_DATA` -/
def GSL_RPC_32BIT_DATA : BitVec 32 := 1#32

/-- `GSL_RPC_64BIT_DATA` -/
def GSL_RPC_64BIT_DATA : BitVec 32 := 2#32

/-- `HGSL_MAX_DUMP_PAYLOAD_SIZE` -/
def HGSL_MAX_DUMP_PAYLOAD_SIZE : Nat := 32

/-- `struct gsl_rpc_header_t`, without the first byte of the data -/
structure GslRpcHeader where
  magic : BitVec 32
  id : BitVec 32
  version : BitVec 32
  size : BitVec 32
  deriving DecidableEq, Repr

/-- `gsl_rpc_header_size` -/
def gslRpcHeaderSize : Nat := 16

/-- `sizeof(struct gsl_rpc_footer_t)` -/
def gslRpcFooterSize : Nat := 4

/-- The header at address `d`. -/
def GslRpcHeader.at (mem : Nat → BitVec 8) (d : Nat) : GslRpcHeader where
  magic := Bytes.load 32 mem d
  id := Bytes.load 32 mem (d + 4)
  version := Bytes.load 32 mem (d + 8)
  size := Bytes.load 32 mem (d + 12)

/-- `struct gsl_hab_payload` -/
structure HabPayload where
  version : BitVec 32
  dataSize : BitVec 64
  dataPos : BitVec 64
  data : Nat → BitVec 8

/-- `gsl_rpc_gen_checksum` -/
def gslRpcGenChecksum : BitVec 32 := -1#32

/-- `gsl_rpc_parcel_get_data_offset` -/
def gslRpcParcelGetDataOffset : BitVec 64 := BitVec.ofNat 64 gslRpcHeaderSize

/-- `hgsl_malloc` and `hgsl_zalloc`: the memory of this size, if there is any. A parcel asks for each
    size once, because it grows. -/
abbrev HgslMalloc := BitVec 64 → Option (Nat → BitVec 8)

/-- `gsl_rpc_parcel_init` -/
def gslRpcParcelInit (malloc : HgslMalloc) : Except Int HabPayload :=
  match malloc 4096#64 with
  | none => .error (-ENOMEM)
  | some _ =>
    .ok { version := 1#32, dataSize := 4096#64, dataPos := gslRpcParcelGetDataOffset, data := fun _ => 0#8 }

/-! ## Writing -/

/-- `grow_data`, of a parcel that has a buffer -/
def growData (malloc : HgslMalloc) (p : HabPayload) (len : BitVec 64) : Except Int HabPayload :=
  let newSize := ((p.dataSize + len) * 3#64) / 2#64
  match malloc newSize with
  | none => .error (-ENOMEM)
  | some newData =>
    .ok { p with
      data := Ring.put newData 0 (Bytes.read p.data 0 p.dataSize.toNat)
      dataSize := newSize }

/-- The check before a store of `need` bytes, which grows the buffer by `len`. -/
def ensureRoom (malloc : HgslMalloc) (p : HabPayload) (need len : BitVec 64) : Except Int HabPayload :=
  if p.dataSize < p.dataPos + need then growData malloc p len else .ok p

/-- The stores of `GSL_RPC_WRITE_DATA`, behind the action that stores the argument. -/
def storeFrame (mem : Nat → BitVec 8) (d : Nat) (ftr : Nat) (id : BitVec 32) (len : BitVec 64) :
    Nat → BitVec 8 :=
  let mem := Bytes.store mem d GSL_HAB_DATA_MAGIC
  let mem := Bytes.store mem (d + 4) id
  let mem := Bytes.store mem (d + 8) 2#32
  let mem := Bytes.store mem (d + 12) (len.setWidth 32)
  Bytes.store mem ftr gslRpcGenChecksum

/-- `GSL_RPC_WRITE_DATA`; `action` is what it stores as the argument. -/
def gslRpcWriteData (malloc : HgslMalloc) (p : HabPayload) (type : BitVec 32) (len : BitVec 64)
    (action : List (BitVec 8)) : Except Int HabPayload := do
  let p ← ensureRoom malloc p (16#64 + len + 4#64) len
  let d := p.dataPos.toNat
  let ftr := (p.dataPos + 16#64 + len).toNat
  let mem := Ring.put p.data (d + gslRpcHeaderSize) action
  .ok { p with
    data := storeFrame mem d ftr type len
    dataPos := p.dataPos + (len + 16#64 + 4#64) }

/-- `gsl_rpc_write`; `data` is the memory behind its pointer, `none` a null pointer. -/
def gslRpcWrite (malloc : HgslMalloc) (p : HabPayload) (data : Option (List (BitVec 8)))
    (len : BitVec 64) : Except Int HabPayload :=
  gslRpcWriteData malloc p GSL_RPC_BLOB_DATA len ((data.getD []).take len.toNat)

/-- `GSL_RPC_WRITE_ARG` -/
def gslRpcWriteArg {w : Nat} (malloc : HgslMalloc) (p : HabPayload) (id : BitVec 32) (val : BitVec w) :
    Except Int HabPayload :=
  gslRpcWriteData malloc p id (BitVec.ofNat 64 (w / 8)) (Bytes.ofWord val)

/-- `gsl_rpc_write_int32` -/
def gslRpcWriteInt32 (malloc : HgslMalloc) (p : HabPayload) (val : BitVec 32) : Except Int HabPayload :=
  gslRpcWriteArg malloc p GSL_RPC_32BIT_DATA val

/-- `gsl_rpc_write_uint32` -/
def gslRpcWriteUint32 (malloc : HgslMalloc) (p : HabPayload) (val : BitVec 32) : Except Int HabPayload :=
  gslRpcWriteArg malloc p GSL_RPC_32BIT_DATA val

/-- `gsl_rpc_write_int64` -/
def gslRpcWriteInt64 (malloc : HgslMalloc) (p : HabPayload) (val : BitVec 64) : Except Int HabPayload :=
  gslRpcWriteArg malloc p GSL_RPC_64BIT_DATA val

/-- `gsl_rpc_write_uint64` -/
def gslRpcWriteUint64 (malloc : HgslMalloc) (p : HabPayload) (val : BitVec 64) : Except Int HabPayload :=
  gslRpcWriteArg malloc p GSL_RPC_64BIT_DATA val

/-- `gsl_rpc_set_call_params` -/
def gslRpcSetCallParams (p : HabPayload) (opcode version : BitVec 32) : HabPayload :=
  let mem := Bytes.store p.data 0 GSL_HAB_CALL_MAGIC
  let mem := Bytes.store mem 4 opcode
  { p with data := Bytes.store mem 8 version }

/-- `gsl_rpc_finalize` -/
def gslRpcFinalize (malloc : HgslMalloc) (p : HabPayload) : Except Int HabPayload := do
  let p ← ensureRoom malloc p 4#64 4#64
  let mem := Bytes.store p.data 12 ((p.dataPos - 16#64).setWidth 32)
  .ok { p with
    data := Bytes.store mem p.dataPos.toNat gslRpcGenChecksum
    dataPos := p.dataPos + 4#64 }

/-- `gsl_rpc_get_call_params`: the opcode and the version. -/
def gslRpcGetCallParams (p : HabPayload) : BitVec 32 × BitVec 32 :=
  let hdr := GslRpcHeader.at p.data 0
  (hdr.id, hdr.version)

/-! ## Reading -/

/-- What `gsl_rpc_get_arg_ptr` does: its value, the parcel it leaves, the address it hands out, and the
    stretches of the buffer (address and length) that it looks at or hands out. -/
structure ArgPtr where
  ret : Int
  parcel : HabPayload
  pData : Option Nat := none
  touched : List (Nat × Nat) := []

/-- The bytes that `gsl_hab_payload_dump` prints when an argument does not match. -/
def dumpBytes (p : HabPayload) : Nat :=
  let callHdr := GslRpcHeader.at p.data 0
  let dumpSize := (callHdr.size + 16#32).setWidth 64 + 4#64
  let dumpSize := if dumpSize ≤ p.dataSize then dumpSize else p.dataSize
  min (dumpSize.toNat / 4) HGSL_MAX_DUMP_PAYLOAD_SIZE * 4

/-- The header at the position of the parcel is that of an argument of this kind and length. -/
def headerMatches (p : HabPayload) (id : BitVec 32) (size : BitVec 64) : Bool :=
  let hdr := GslRpcHeader.at p.data p.dataPos.toNat
  hdr.magic = GSL_HAB_DATA_MAGIC && hdr.id = id && hdr.size.setWidth 64 = size

/-- `gsl_rpc_get_arg_ptr` -/
def gslRpcGetArgPtr (p : HabPayload) (id : BitVec 32) (size : BitVec 64) : ArgPtr :=
  let d := p.dataPos.toNat
  if p.dataPos + size + 16#64 ≤ p.dataSize then
    if headerMatches p id size then
      let footer := p.dataPos + (size + 16#64)
      { ret := if gslRpcGenChecksum = Bytes.load 32 p.data footer.toNat then 0 else -EINVAL
        parcel := { p with dataPos := footer + 4#64 }
        pData := some (d + gslRpcHeaderSize)
        touched := [(d, gslRpcHeaderSize), (d + gslRpcHeaderSize, size.toNat),
          (footer.toNat, gslRpcFooterSize)] }
    else
      { ret := -EINVAL
        parcel := p
        touched := [(d, gslRpcHeaderSize), (0, gslRpcHeaderSize), (0, dumpBytes p)] }
  else { ret := -EINVAL, parcel := p }

/-- What a read returns: its value, the parcel, what it stores for its caller, and the stretches of the
    buffer that it looked at. -/
structure RpcReply (β : Type) where
  ret : Int
  parcel : HabPayload
  out : Option β
  touched : List (Nat × Nat)

/-- The reply of a read that `gsl_rpc_get_arg_ptr` was called for. -/
def ArgPtr.reply {β : Type} (a : ArgPtr) (out : Option β) : RpcReply β :=
  { ret := a.ret, parcel := a.parcel, out := out, touched := a.touched }

/-- `gsl_rpc_read` with a buffer for the data -/
def gslRpcRead (p : HabPayload) (len : BitVec 64) : RpcReply (List (BitVec 8)) :=
  let a := gslRpcGetArgPtr p GSL_RPC_BLOB_DATA len
  a.reply (if a.ret = 0 then a.pData.map fun d => Bytes.read p.data d len.toNat else none)

/-- `gsl_rpc_read_l`, with the bytes behind the pointer that it hands out -/
def gslRpcReadL (p : HabPayload) (len : BitVec 64) : RpcReply (List (BitVec 8)) :=
  let a := gslRpcGetArgPtr p GSL_RPC_BLOB_DATA len
  a.reply (a.pData.map fun d => Bytes.read p.data d len.toNat)

/-- `GSL_RPC_READ_ARG` -/
def gslRpcReadArg (w : Nat) (p : HabPayload) (id : BitVec 32) : RpcReply (BitVec w) :=
  let a := gslRpcGetArgPtr p id (BitVec.ofNat 64 (w / 8))
  a.reply (if a.ret = 0 then a.pData.map fun d => Bytes.load w p.data d else none)

/-- `gsl_rpc_read_int32_l` -/
def gslRpcReadInt32L (p : HabPayload) : RpcReply (BitVec 32) := gslRpcReadArg 32 p GSL_RPC_32BIT_DATA

/-- `gsl_rpc_read_uint32_l` -/
def gslRpcReadUint32L (p : HabPayload) : RpcReply (BitVec 32) := gslRpcReadArg 32 p GSL_RPC_32BIT_DATA

/-- `gsl_rpc_read_int64_l` -/
def gslRpcReadInt64L (p : HabPayload) : RpcReply (BitVec 64) := gslRpcReadArg 64 p GSL_RPC_64BIT_DATA

/-- `gsl_rpc_read_uint64_l` -/
def gslRpcReadUint64L (p : HabPayload) : RpcReply (BitVec 64) := gslRpcReadArg 64 p GSL_RPC_64BIT_DATA

/-! ## Calls -/

/-- What a read hands to its caller. -/
inductive RpcValue where
  | bytes (bs : List (BitVec 8))
  | word32 (x : BitVec 32)
  | word64 (x : BitVec 64)
  deriving DecidableEq, Repr

/-- A call that writes an argument. -/
inductive RpcArg where
  | blob (bs : List (BitVec 8))
  | int32 (x : BitVec 32)
  | uint32 (x : BitVec 32)
  | int64 (x : BitVec 64)
  | uint64 (x : BitVec 64)
  deriving DecidableEq, Repr

/-- A call that reads one. -/
inductive RpcRead where
  | read (len : BitVec 64)
  | readL (len : BitVec 64)
  | int32L
  | uint32L
  | int64L
  | uint64L
  deriving DecidableEq, Repr

def RpcArg.write (malloc : HgslMalloc) (p : HabPayload) : RpcArg → Except Int HabPayload
  | .blob bs => gslRpcWrite malloc p (some bs) (BitVec.ofNat 64 bs.length)
  | .int32 x => gslRpcWriteInt32 malloc p x
  | .uint32 x => gslRpcWriteUint32 malloc p x
  | .int64 x => gslRpcWriteInt64 malloc p x
  | .uint64 x => gslRpcWriteUint64 malloc p x

def RpcReply.map {β γ : Type} (f : β → γ) (r : RpcReply β) : RpcReply γ :=
  { ret := r.ret, parcel := r.parcel, out := r.out.map f, touched := r.touched }

def RpcRead.run (p : HabPayload) : RpcRead → RpcReply RpcValue
  | .read len => (gslRpcRead p len).map .bytes
  | .readL len => (gslRpcReadL p len).map .bytes
  | .int32L => (gslRpcReadInt32L p).map .word32
  | .uint32L => (gslRpcReadUint32L p).map .word32
  | .int64L => (gslRpcReadInt64L p).map .word64
  | .uint64L => (gslRpcReadUint64L p).map .word64

/-- The kind of argument that a read expects. -/
def RpcRead.id : RpcRead → BitVec 32
  | .read _ | .readL _ => GSL_RPC_BLOB_DATA
  | .int32L | .uint32L => GSL_RPC_32BIT_DATA
  | .int64L | .uint64L => GSL_RPC_64BIT_DATA

/-- The length that it expects. -/
def RpcRead.size : RpcRead → BitVec 64
  | .read len | .readL len => len
  | .int32L | .uint32L => 4#64
  | .int64L | .uint64L => 8#64

/-- Whatever else it does, a read does what `gsl_rpc_get_arg_ptr` does. -/
theorem RpcRead.run_eq (p : HabPayload) (r : RpcRead) :
    (r.run p).ret = (gslRpcGetArgPtr p r.id r.size).ret ∧
      (r.run p).parcel = (gslRpcGetArgPtr p r.id r.size).parcel ∧
      (r.run p).touched = (gslRpcGetArgPtr p r.id r.size).touched := by
  cases r <;> exact ⟨rfl, rfl, rfl⟩

end Hgsl
