import YkbFirmware.Protocol.Wire

/-!
# The receiving side of the YKB protocol

`ykb_protocol_rx_init`, `ykb_protocol_rx_reset`,
`ykb_protocol_rx_begin_transfer` and `ykb_protocol_rx_push_packet`.

The buffer and the bitmap are memories which the receiver state carries, and
every call also reports the memory accesses it makes: the payload bytes read,
the buffer ranges written and the bitmap bytes touched.  Results and accesses
come from one definition, so what is proved about the accesses is about the
same branches.
-/

namespace YkbFirmware.Protocol.Receiver

open YkbFirmware.Library.ByteMemory
open YkbFirmware.Library.Segmentation
open YkbFirmware.Protocol.Wire

/-- `ykb_protocol_rx_result_t`. -/
inductive YkbProtocolRxResult where
  | accepted
  | complete
  | duplicate
  | errorNull
  | errorBadVersion
  | errorBadType
  | errorBadPacketCount
  | errorBadPacketIndex
  | errorBadTotalLen
  | errorPacketCrc
  | errorTransferMismatch
  | errorBufferTooSmall
  | errorOutOfOrder
  | errorMissingBitmapRequired
deriving DecidableEq, Repr

namespace YkbProtocolRxResult

def code : YkbProtocolRxResult → Int
  | accepted => 0
  | complete => 1
  | duplicate => 2
  | errorNull => -1
  | errorBadVersion => -2
  | errorBadType => -3
  | errorBadPacketCount => -4
  | errorBadPacketIndex => -5
  | errorBadTotalLen => -6
  | errorPacketCrc => -7
  | errorTransferMismatch => -8
  | errorBufferTooSmall => -9
  | errorOutOfOrder => -10
  | errorMissingBitmapRequired => -11

/-- The callers' test `res < 0`. -/
def isError (result : YkbProtocolRxResult) : Bool :=
  decide (result.code < 0)

end YkbProtocolRxResult

/-- One access to memory during a call. -/
inductive Access where
  | readPayload (length : Nat)
  | writeBuffer (offset length : Nat)
  | bitmapByte (index : Nat)
  | clearBitmap (length : Nat)
deriving DecidableEq, Repr

/-- `ykb_protocol_rx_state_t`; a null bitmap is `none`. -/
structure YkbProtocolRxState where
  buffer : Memory
  capacity : UInt16
  allowOutOfOrder : Bool
  active : Bool
  complete : Bool
  transferId : UInt8
  totalLen : UInt16
  receivedBytes : UInt16
  packetCount : UInt16
  receivedCount : UInt16
  nextExpectedPacketIdx : UInt16
  typeFlagsBase : UInt8
  receivedBitmap : Option Memory
  receivedBitmapSize : Nat

/-- Result of one call on the receiver. -/
structure RxOutcome where
  state : YkbProtocolRxState
  result : YkbProtocolRxResult
  accesses : List Access

def ykbProtocolBitmapTest (bitmap : Memory) (idx : UInt16) : Bool :=
  bitmap.testBit idx.toNat

def ykbProtocolBitmapSet (bitmap : Memory) (idx : UInt16) : Memory :=
  bitmap.setBit idx.toNat

/-- `ykb_protocol_bitmap_clear_all`; a null bitmap is left alone. -/
def ykbProtocolBitmapClearAll
    (bitmap : Option Memory) (bitmapSize : Nat) : Option Memory :=
  bitmap.map fun present => present.clearBlock bitmapSize

def ykbProtocolRxReset (rx : YkbProtocolRxState) : YkbProtocolRxState :=
  { rx with
    active := false
    complete := false
    transferId := 0
    totalLen := 0
    receivedBytes := 0
    packetCount := 0
    receivedCount := 0
    nextExpectedPacketIdx := 0
    typeFlagsBase := 0
    receivedBitmap :=
      ykbProtocolBitmapClearAll rx.receivedBitmap rx.receivedBitmapSize }

/-- `ykb_protocol_rx_reset` touches memory only to clear the bitmap. -/
def resetAccesses (rx : YkbProtocolRxState) : List Access :=
  if rx.receivedBitmap.isSome ∧ rx.receivedBitmapSize > 0 then
    [.clearBitmap rx.receivedBitmapSize]
  else
    []

def ykbProtocolRxInit
    (buffer : Memory) (capacity : UInt16) (allowOutOfOrder : Bool)
    (receivedBitmap : Option Memory) (receivedBitmapSize : Nat) :
    YkbProtocolRxState where
  buffer := buffer
  capacity := capacity
  allowOutOfOrder := allowOutOfOrder
  active := false
  complete := false
  transferId := 0
  totalLen := 0
  receivedBytes := 0
  packetCount := 0
  receivedCount := 0
  nextExpectedPacketIdx := 0
  typeFlagsBase := 0
  receivedBitmap :=
    ykbProtocolBitmapClearAll receivedBitmap receivedBitmapSize
  receivedBitmapSize := receivedBitmapSize

/-! ## Beginning a transfer -/

/-- The fields `ykb_protocol_rx_begin_transfer` takes from the header. -/
def pinTransfer
    (rx : YkbProtocolRxState) (header : YkbProtocolHeader) :
    YkbProtocolRxState :=
  { rx with
    active := true
    complete := false
    transferId := header.transferId
    totalLen := header.totalLen
    receivedBytes := 0
    packetCount := header.packetCount
    receivedCount := 0
    nextExpectedPacketIdx := 0
    typeFlagsBase := withoutStartEnd header.typeFlags }

def ykbProtocolRxBeginTransfer
    (rx : YkbProtocolRxState) (packet : YkbProtocolPacket) : RxOutcome :=
  let header := packet.header
  if header.totalLen > rx.capacity then
    ⟨rx, .errorBufferTooSmall, []⟩
  else if rx.allowOutOfOrder then
    if rx.receivedBitmap.isNone ∨
        rx.receivedBitmapSize <
          ykbProtocolBitmapSizeBytes header.packetCount then
      ⟨rx, .errorMissingBitmapRequired, []⟩
    else
      let cleared :=
        { rx with
          receivedBitmap :=
            ykbProtocolBitmapClearAll rx.receivedBitmap
              rx.receivedBitmapSize }
      ⟨pinTransfer cleared header, .accepted,
        [.clearBitmap rx.receivedBitmapSize]⟩
  else
    ⟨pinTransfer rx header, .accepted, []⟩

/-! ## Storing a packet -/

/-- The bitmap the receiver tests; null only when bitmaps are not used. -/
def bitmapOf (rx : YkbProtocolRxState) : Memory :=
  rx.receivedBitmap.getD Memory.zero

/-- Length `ykb_protocol_rx_push_packet` copies for the packet. -/
def rxPayloadLen
    (geometry : PacketGeometry)
    (rx : YkbProtocolRxState) (idx : UInt16) : UInt16 :=
  ykbProtocolPayloadLenForIndex geometry rx.totalLen idx rx.packetCount

/-- `(uint16_t)(packet_idx * YKB_PROTOCOL_MAX_PAYLOAD_SIZE)`. -/
def rxOffset (geometry : PacketGeometry) (idx : UInt16) : UInt16 :=
  UInt16.ofNat (idx.toNat * geometry.maxPayloadSize)

/-- Copy the payload and advance the counters. -/
def recordPacket
    (geometry : PacketGeometry)
    (rx : YkbProtocolRxState) (packet : YkbProtocolPacket) :
    YkbProtocolRxState :=
  let idx := packet.header.packetIdx
  let payloadLen := rxPayloadLen geometry rx idx
  { rx with
    buffer :=
      rx.buffer.writeBlock (rxOffset geometry idx).toNat payloadLen.toNat
        packet.payload
    receivedBytes := rx.receivedBytes + payloadLen
    receivedCount := rx.receivedCount + 1
    receivedBitmap :=
      if rx.allowOutOfOrder then
        rx.receivedBitmap.map fun bitmap => ykbProtocolBitmapSet bitmap idx
      else
        rx.receivedBitmap
    nextExpectedPacketIdx :=
      if rx.allowOutOfOrder then
        rx.nextExpectedPacketIdx
      else
        rx.nextExpectedPacketIdx + 1 }

def copyAccesses (offset payloadLen : UInt16) : List Access :=
  if payloadLen > 0 then
    [.readPayload payloadLen.toNat,
      .writeBuffer offset.toNat payloadLen.toNat]
  else
    []

def bitmapAccesses (rx : YkbProtocolRxState) (idx : UInt16) : List Access :=
  if rx.allowOutOfOrder then [.bitmapByte (idx.toNat / 8)] else []

/--
The tail of `ykb_protocol_rx_push_packet`, from the line that computes
`payload_len`: the receiver fields already describe the packet's transfer.
-/
def storePacket
    (geometry : PacketGeometry)
    (rx : YkbProtocolRxState) (packet : YkbProtocolPacket) : RxOutcome :=
  let idx := packet.header.packetIdx
  let payloadLen := rxPayloadLen geometry rx idx
  let offset := rxOffset geometry idx
  let tested := bitmapAccesses rx idx
  if rx.allowOutOfOrder = false ∧ idx ≠ rx.nextExpectedPacketIdx then
    ⟨rx, .errorOutOfOrder, []⟩
  else if
      rx.allowOutOfOrder = true ∧
        ykbProtocolBitmapTest (bitmapOf rx) idx = true then
    ⟨rx, .duplicate, tested⟩
  else if offset.toNat + payloadLen.toNat > rx.capacity.toNat then
    ⟨rx, .errorBufferTooSmall, tested⟩
  else
    let recorded := recordPacket geometry rx packet
    let accesses := tested ++ copyAccesses offset payloadLen ++ tested
    if recorded.receivedCount = recorded.packetCount then
      if recorded.receivedBytes ≠ recorded.totalLen then
        ⟨recorded, .errorBadTotalLen, accesses⟩
      else
        ⟨{ recorded with complete := true }, .complete, accesses⟩
    else
      ⟨recorded, .accepted, accesses⟩

/-! ## Pushing a packet -/

/-- The error reported for a header that is not valid. -/
def headerError (header : YkbProtocolHeader) : YkbProtocolRxResult :=
  if header.version ≠ ykbProtocolVersion then
    .errorBadVersion
  else if
      ykbProtocolGetType header.typeFlags > YkbProtocolType.abort.code then
    .errorBadType
  else if header.packetCount = 0 then
    .errorBadPacketCount
  else if header.packetIdx ≥ header.packetCount then
    .errorBadPacketIndex
  else
    .errorBadTotalLen

/-- The comparison of an active receiver with the packet's header. -/
def sameTransfer
    (rx : YkbProtocolRxState) (header : YkbProtocolHeader) : Bool :=
  decide
    (rx.transferId = header.transferId ∧
      rx.totalLen = header.totalLen ∧
        rx.packetCount = header.packetCount ∧
          rx.typeFlagsBase = withoutStartEnd header.typeFlags)

/-- Put the accesses made before a call in front of the call's own. -/
def RxOutcome.after (before : List Access) (outcome : RxOutcome) :
    RxOutcome :=
  { outcome with accesses := before ++ outcome.accesses }

def ykbProtocolRxPushPacket
    (geometry : PacketGeometry)
    (rx : YkbProtocolRxState) (packet : YkbProtocolPacket) : RxOutcome :=
  let header := packet.header
  if ykbProtocolIsHeaderValid geometry header = false then
    ⟨rx, headerError header, []⟩
  else if
      ykbProtocolGetType header.typeFlags ≠ YkbProtocolType.data.code then
    ⟨rx, .errorBadType, []⟩
  else
    let checked := [.readPayload (crcPayloadLen geometry header).toNat]
    if ykbProtocolComputePacketCrc geometry packet ≠ header.crc then
      ⟨rx, .errorPacketCrc, checked⟩
    else if rx.active = false then
      let begun := ykbProtocolRxBeginTransfer rx packet
      if begun.result.isError then
        begun.after checked
      else
        (storePacket geometry begun.state packet).after
          (checked ++ begun.accesses)
    else if sameTransfer rx header = false then
      ⟨rx, .errorTransferMismatch, checked⟩
    else
      (storePacket geometry rx packet).after checked

end YkbFirmware.Protocol.Receiver
