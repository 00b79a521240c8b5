import YkbFirmware.Library.Cbor
import YkbFirmware.Esb.Radio

/-!
# Messages between two cores

On a chip with two cores the radio belongs to the network core.  `esb_53.c` of
the application core stands for the radio library there: it sends each call
as a command and is sent the events of the radio.  Structures cross as the
bytes they have in memory, since both cores are built alike.

What the two sides write and read is fixed here, over the CBOR functions the
two use.  The buffers are large enough for everything written to them, and
each side reads what the other has written.
-/

namespace YkbFirmware.Esb.RpcMessages

open YkbFirmware.Library.Cbor
open YkbFirmware.Esb.Radio (einval emsgsize)

def ebadmsg : Int := 77

/-- `CBOR_BUF_SIZE` -/
def cborBufSize : Nat := 16

/-- The range of `int32_t`. -/
def FitsInt32 (value : Int) : Prop :=
  -(2 ^ 31) ≤ value ∧ value < 2 ^ 31

theorem fitsInt32_zero : FitsInt32 0 := by
  rw [FitsInt32]
  omega

/--
The CBOR functions: numbers take up to five bytes, and strings of bytes five
more than they have.
-/
structure Zcbor where
  int32 : PrefixCodec UInt8 Int
  uint32 : PrefixCodec UInt8 Nat
  bstr : PrefixCodec UInt8 (List UInt8)
  int32_admits : ∀ value, FitsInt32 value → int32.Admits value
  uint32_admits : ∀ value < 2 ^ 32, uint32.Admits value
  bstr_admits : ∀ bytes, bytes.length < 2 ^ 32 → bstr.Admits bytes
  int32_size : ∀ value, (int32.encode value).length ≤ 5
  uint32_size : ∀ value, (uint32.encode value).length ≤ 5
  bstr_size : ∀ bytes, (bstr.encode bytes).length ≤ bytes.length + 5

/-- CBOR in its shortest form. -/
def shortestCbor : Zcbor where
  int32 := signed
  uint32 := unsigned
  bstr := byteString
  int32_admits value fits := by
    rw [FitsInt32] at fits
    refine ⟨?_, ?_⟩ <;> omega
  uint32_admits _ fits := fits
  bstr_admits _ fits := fits
  int32_size value := by
    cases value <;> exact length_encodeHead_le
  uint32_size _ := length_encodeHead_le
  bstr_size bytes := by
    have head := @length_encodeHead_le 2 bytes.length
    show (encodeHead 2 bytes.length ++ bytes).length ≤ bytes.length + 5
    rw [List.length_append]
    omega

/-! ## Writing -/

/-- `struct nrf_rpc_cbor_ctx` of a message that is written. -/
structure CborCtx where
  size : Nat
  written : List UInt8

/-- `NRF_RPC_CBOR_ALLOC` -/
def nrfRpcCborAlloc (size : Nat) : CborCtx := ⟨size, []⟩

/-- A value is written if there is room for it. -/
def CborCtx.put
    {Value : Type} (ctx : CborCtx) (codec : PrefixCodec UInt8 Value)
    (value : Value) : Option CborCtx :=
  if ctx.written.length + (codec.encode value).length ≤ ctx.size then
    some { ctx with written := ctx.written ++ codec.encode value }
  else
    none

theorem put_of_room
    {Value : Type} {size : Nat} {written : List UInt8}
    {codec : PrefixCodec UInt8 Value} {value : Value}
    (room : written.length + (codec.encode value).length ≤ size) :
    CborCtx.put ⟨size, written⟩ codec value =
      some ⟨size, written ++ codec.encode value⟩ :=
  if_pos room

section Messages

variable (zcbor : Zcbor)

/-! ## Events -/

/--
`rpc_esb_event_send` up to its call of `nrf_rpc_cbor_evt`, with the message it
is called with.
-/
def rpcEsbEventSend (evtType : Nat) (rxBuf : List UInt8) :
    Except Int (List UInt8) :=
  let rxLength := rxBuf.length
  let ctx := nrfRpcCborAlloc (cborBufSize + 4 + 4 + 4 + rxLength)
  let put :=
    (ctx.put zcbor.int32 0).bind fun ctx =>
    (ctx.put zcbor.uint32 evtType).bind fun ctx =>
    (ctx.put zcbor.uint32 rxLength).bind fun ctx =>
      if rxLength > 0 then ctx.put zcbor.bstr rxBuf else some ctx
  match put with
  | some ctx => .ok ctx.written
  | none => .error (-einval)

/--
`rpc_esb_event_handler` up to its call of the callback: the type of the event
and the bytes that come with it.  Errors are only logged.
-/
def rpcEsbEventHandler (message : List UInt8) : Option (Nat × List UInt8) :=
  (zcbor.int32.decode message).bind fun (err, rest) =>
  if err ≠ 0 then
    none
  else
    (zcbor.uint32.decode rest).bind fun (evtType, rest) =>
    (zcbor.uint32.decode rest).bind fun (rxPayloadLength, rest) =>
    if rxPayloadLength > 0 then
      (zcbor.bstr.decode rest).bind fun (value, _) =>
      if value.length ≠ rxPayloadLength then
        none
      else
        some (evtType, value)
    else
      some (evtType, [])

/-- What an event is written as. -/
def eventMessage (evtType : Nat) (rxBuf : List UInt8) : List UInt8 :=
  zcbor.int32.encode 0 ++ zcbor.uint32.encode evtType ++
    zcbor.uint32.encode rxBuf.length ++
    if rxBuf.length > 0 then zcbor.bstr.encode rxBuf else []

/-- Every event is written, whatever comes with it. -/
theorem rpcEsbEventSend_ok (evtType : Nat) (rxBuf : List UInt8) :
    rpcEsbEventSend zcbor evtType rxBuf =
      .ok (eventMessage zcbor evtType rxBuf) := by
  have noError := zcbor.int32_size 0
  have evt := zcbor.uint32_size evtType
  have length := zcbor.uint32_size rxBuf.length
  have bytes := zcbor.bstr_size rxBuf
  rw [rpcEsbEventSend, eventMessage, nrfRpcCborAlloc, cborBufSize,
    put_of_room (by simp only [List.length_nil]; omega), Option.bind_some,
    put_of_room (by simp only [List.length_append, List.length_nil]; omega),
    Option.bind_some,
    put_of_room (by simp only [List.length_append, List.length_nil]; omega),
    Option.bind_some]
  split_ifs with some
  · rw [put_of_room
      (by simp only [List.length_append, List.length_nil]; omega)]
    rfl
  · rw [List.append_nil]
    rfl

/-- The other side reports the event that was sent. -/
theorem rpcEsbEventHandler_eventMessage
    {evtType : Nat} {rxBuf : List UInt8} (isType : evtType < 2 ^ 32)
    (fits : rxBuf.length < 2 ^ 32) :
    rpcEsbEventHandler zcbor (eventMessage zcbor evtType rxBuf) =
      some (evtType, rxBuf) := by
  rw [rpcEsbEventHandler, eventMessage, List.append_assoc, List.append_assoc,
    zcbor.int32.decode_encode _ _ (zcbor.int32_admits 0 fitsInt32_zero),
    Option.bind_some]
  dsimp only
  rw [if_neg (not_not.mpr rfl),
    zcbor.uint32.decode_encode _ _ (zcbor.uint32_admits evtType isType),
    Option.bind_some]
  dsimp only
  rw [zcbor.uint32.decode_encode _ _ (zcbor.uint32_admits _ fits),
    Option.bind_some]
  dsimp only
  split_ifs with some
  · rw [zcbor.bstr.decode_encode_nil (zcbor.bstr_admits rxBuf fits),
      Option.bind_some]
    exact if_neg (not_not.mpr rfl)
  · have none : rxBuf = [] :=
      List.length_eq_zero_iff.mp (Nat.eq_zero_of_not_pos some)
    rw [none]

/-! ## Commands -/

/-- `decode_struct` -/
def decodeStruct (message : List UInt8) (expectedSize : Nat) :
    Except Int (List UInt8) :=
  match zcbor.bstr.decode message with
  | none => .error (-ebadmsg)
  | some (value, _) =>
      if value.length = expectedSize then .ok value else .error (-emsgsize)

/-- The command of a structure, as both commands are made. -/
def encodeStruct (bytes : List UInt8) : Except Int (List UInt8) :=
  match (nrfRpcCborAlloc (cborBufSize + bytes.length)).put zcbor.bstr bytes with
  | some ctx => .ok ctx.written
  | none => .error (-einval)

/-- `rpc_rsp` -/
def rpcRsp (err : Int) : List UInt8 :=
  match (nrfRpcCborAlloc cborBufSize).put zcbor.int32 err with
  | some ctx => ctx.written
  | none => []

/-- `decode_error` -/
def decodeError (message : List UInt8) : Int :=
  match zcbor.int32.decode message with
  | some (err, _) => err
  | none => -ebadmsg

theorem decodeStruct_encodeStruct
    {bytes : List UInt8} (fits : bytes.length < 2 ^ 32) :
    ∃ message,
      encodeStruct zcbor bytes = .ok message ∧
        decodeStruct zcbor message bytes.length = .ok bytes := by
  have size := zcbor.bstr_size bytes
  refine ⟨zcbor.bstr.encode bytes, ?_, ?_⟩
  · rw [encodeStruct, nrfRpcCborAlloc, cborBufSize,
      put_of_room (by rw [List.length_nil]; omega)]
    rfl
  · rw [decodeStruct,
      zcbor.bstr.decode_encode_nil (zcbor.bstr_admits bytes fits)]
    exact if_pos rfl

theorem decodeError_rpcRsp {err : Int} (fits : FitsInt32 err) :
    decodeError zcbor (rpcRsp zcbor err) = err := by
  have size := zcbor.int32_size err
  rw [rpcRsp, nrfRpcCborAlloc, cborBufSize,
    put_of_room (by rw [List.length_nil]; omega)]
  dsimp only
  rw [List.nil_append, decodeError,
    zcbor.int32.decode_encode_nil (zcbor.int32_admits err fits)]

end Messages

end YkbFirmware.Esb.RpcMessages
