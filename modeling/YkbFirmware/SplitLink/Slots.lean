import YkbFirmware.Protocol.Receiver
import YkbFirmware.Protocol.Sender

/-!
# The slots of the SplitLink sync layer

`subsys/splitlink/src/sync/protocol/splitlink_sync_ykb_protocol.c`: the two
halves of the keyboard exchange messages over slots, each with one buffer, one
YKB transfer at a time and a fixed id which is also the transfer id on the
wire.

A work item is a flag: `scheduled` for the delayable item of a transmitting
slot, `submitted` for the item of a receiving one.  The data pointers inside
`ykb_protocol_tx_state_t` and `ykb_protocol_rx_state_t` alias the slot's own
buffer, so a receiving slot keeps its buffer in `rx.buffer`, and a transmitting
slot renews `tx.data` whenever its buffer is written.
-/

namespace YkbFirmware.SplitLink.Slots

open YkbFirmware.Library.ByteMemory
open YkbFirmware.Protocol.Wire
open YkbFirmware.Protocol.Sender
open YkbFirmware.Protocol.Receiver

/-! ## Slots and options -/

/-- The slots, without the benchmark one. -/
inductive SlotName where
  | values
  | settings
  | scriptsManifest
  | scriptsRequest
  | scriptSlot
  | battery
deriving DecidableEq, Repr

def valuesSlotId : UInt8 := 1
def settingsSlotId : UInt8 := 2
def scriptManifestSlotId : UInt8 := 4
def scriptRequestSlotId : UInt8 := 5
def scriptSlotSlotId : UInt8 := 6
def batterySlotId : UInt8 := 7

def SlotName.id : SlotName → UInt8
  | values => valuesSlotId
  | settings => settingsSlotId
  | scriptsManifest => scriptManifestSlotId
  | scriptsRequest => scriptRequestSlotId
  | scriptSlot => scriptSlotSlotId
  | battery => batterySlotId

/-- The `switch` of `splitlink_sync_protocol_on_receive`. -/
def slotOfId (id : UInt8) : Option SlotName :=
  if id = valuesSlotId then some .values
  else if id = settingsSlotId then some .settings
  else if id = batterySlotId then some .battery
  else if id = scriptManifestSlotId then some .scriptsManifest
  else if id = scriptRequestSlotId then some .scriptsRequest
  else if id = scriptSlotSlotId then some .scriptSlot
  else none

@[simp]
theorem slotOfId_id (name : SlotName) : slotOfId name.id = some name := by
  cases name <;> rfl

inductive SyncRole where
  | master
  | slave
deriving DecidableEq, Repr

/-- The slots a half receives on; it transmits on the other ones. -/
def SyncRole.receives : SyncRole → SlotName → Bool
  | master, .values => true
  | master, .battery => true
  | master, .scriptsRequest => true
  | master, _ => false
  | slave, .settings => true
  | slave, .scriptsManifest => true
  | slave, .scriptSlot => true
  | slave, _ => false

/--
The compile-time options of the sync layer and the sizes of the structures it
moves.  `SPLITLINK_MAX_PACKET_LENGTH` is a few hundred bytes at most, so a
packet length fits `uint16_t`.
-/
structure SplitlinkOptions where
  geometry : PacketGeometry
  lengthFits : geometry.maxPacketSize < 2 ^ 16
  outOfOrderTrack : Bool
  bitmapLength : Nat
  keyCountSlave : Nat
  kbSettingsSize : UInt16
  scriptManifestSize : UInt16
  scriptRequestSize : UInt16
  scriptSlotPacketSize : UInt16

/-- `sizeof(splitlink_battery_state_t)`: two packed bytes. -/
def batteryStateSize : UInt16 := 2

/-- The `max_data_length` of a slot. -/
def SplitlinkOptions.maxDataLength (options : SplitlinkOptions) :
    SlotName → UInt16
  | .values => UInt16.ofNat (2 * options.keyCountSlave)
  | .settings => options.kbSettingsSize
  | .scriptsManifest => options.scriptManifestSize
  | .scriptsRequest => options.scriptRequestSize
  | .scriptSlot => options.scriptSlotPacketSize
  | .battery => batteryStateSize

/-- Settings of 80 bytes in packets of at most 72. -/
def twoPacketOptions (outOfOrderTrack : Bool) : SplitlinkOptions where
  geometry :=
    { maxPacketSize := 72
      headerFits := by decide
      sumFits := by decide }
  lengthFits := by decide
  outOfOrderTrack := outOfOrderTrack
  bitmapLength := 32
  keyCountSlave := 30
  kbSettingsSize := 80
  scriptManifestSize := 11
  scriptRequestSize := 3
  scriptSlotPacketSize := 80

/-! ## Transmitting slots -/

inductive TxSlotState where
  | empty
  | transceiving
deriving DecidableEq, Repr

/-- `struct tx_slot`; `scheduled` is its delayable work item. -/
structure TxSlot where
  state : TxSlotState
  data : Memory
  tx : YkbProtocolTxState
  pendingPacket : YkbProtocolPacket
  pendingPacketReady : Bool
  scheduled : Bool

/-- A slot as `TX_SLOT` defines it. -/
def TxSlot.initial : TxSlot where
  state := .empty
  data := Memory.zero
  tx := ⟨none, 0, 0, 0, 0, 0, 0⟩
  pendingPacket := ⟨⟨0, 0, 0, 0, 0, 0, 0⟩, Memory.zero⟩
  pendingPacketReady := false
  scheduled := false

/-- The assignments which start a transfer, without the checks before them. -/
def startTransfer
    (options : SplitlinkOptions) (name : SlotName)
    (slot : TxSlot) (data : Memory) (dataLen : UInt16) : TxSlot :=
  let stored := slot.data.writeBlock 0 dataLen.toNat data
  { slot with
    data := stored
    tx :=
      ykbProtocolTxInit options.geometry (some stored) dataLen name.id
        YkbProtocolType.data.code
    pendingPacketReady := false
    state := .transceiving
    scheduled := true }

/-- `none` is the `false` of the source; the slot is then untouched. -/
def txSlotBeginTransfer
    (options : SplitlinkOptions) (name : SlotName)
    (slot : TxSlot) (data : Memory) (dataLen : UInt16) : Option TxSlot :=
  if slot.state = .transceiving then
    none
  else if dataLen > options.maxDataLength name then
    none
  else
    some (startTransfer options name slot data dataLen)

def txSlotBeginTransferOrLogBusy
    (options : SplitlinkOptions) (name : SlotName)
    (slot : TxSlot) (data : Memory) (dataLen : UInt16) : Option TxSlot :=
  if slot.state = .transceiving then
    none
  else
    txSlotBeginTransfer options name slot data dataLen

/-- What `splitlink_send` returns, as far as its caller looks at it. -/
inductive SendResult where
  | ok
  | enomem
  | eagain
  | failed
deriving DecidableEq, Repr

/--
One run of `tx_slot_work_handler` up to the label `out`: the slot, the bytes
put on the link if `splitlink_send` returned 0, and whether `out` is reached.
-/
structure TxWorkOutcome where
  slot : TxSlot
  sent : Option (List UInt8)
  out : Bool

/-- `packet_len` of the handler. -/
def packetLen (geometry : PacketGeometry) (packet : YkbProtocolPacket) :
    UInt16 :=
  UInt16.ofNat headerSize +
    ykbProtocolPayloadLenForIndex geometry packet.header.totalLen
      packet.header.packetIdx packet.header.packetCount

/-- The handler from `splitlink_send` on. -/
def sendPendingPacket
    (options : SplitlinkOptions) (slot : TxSlot) (result : SendResult) :
    TxWorkOutcome :=
  match result with
  | .enomem => ⟨{ slot with scheduled := true }, none, false⟩
  | .eagain => ⟨{ slot with scheduled := true }, none, false⟩
  | .failed =>
      ⟨{ slot with state := .empty, pendingPacketReady := false }, none, true⟩
  | .ok =>
      let sent :=
        some
          (slot.pendingPacket.bytes
            (packetLen options.geometry slot.pendingPacket).toNat)
      let cleared := { slot with pendingPacketReady := false }
      if ykbProtocolTxHasMore slot.tx then
        ⟨{ cleared with scheduled := true }, sent, false⟩
      else
        ⟨{ cleared with state := .empty }, sent, true⟩

def txSlotWorkHandler
    (options : SplitlinkOptions) (slot : TxSlot) (result : SendResult) :
    TxWorkOutcome :=
  if slot.state ≠ .transceiving then
    ⟨slot, none, false⟩
  else if slot.pendingPacketReady then
    sendPendingPacket options slot result
  else if ykbProtocolTxHasMore slot.tx = false then
    ⟨{ slot with state := .empty }, none, true⟩
  else
    match ykbProtocolTxBuildPacket options.geometry slot.tx with
    | none => ⟨{ slot with state := .empty }, none, true⟩
    | some (packet, tx) =>
        sendPendingPacket options
          { slot with
            tx := tx
            pendingPacket := packet
            pendingPacketReady := true }
          result

/-! ## Pending copies -/

/-- `pending_values_tx_*`, and likewise `pending_battery_tx_*`. -/
structure PendingTx where
  data : Memory
  length : UInt16
  ready : Bool

/-- A transmitting slot with its pending copy, where the slot has one. -/
structure TxSide where
  slot : TxSlot
  pending : PendingTx

def TxSide.initial : TxSide :=
  ⟨.initial, ⟨Memory.zero, 0, false⟩⟩

/--
`script_slot_sync_kick_locked`; `packet` is the slot packet it assembles, and
`none` when no script is pending or the script cannot be read.
-/
def scriptSlotSyncKickLocked
    (options : SplitlinkOptions) (connected : Bool)
    (packet : Option Memory) (slot : TxSlot) : TxSlot :=
  if connected = false ∨ slot.state = .transceiving then
    slot
  else
    match packet with
    | none => slot
    | some data =>
        (txSlotBeginTransfer options .scriptSlot slot data
          options.scriptSlotPacketSize).getD slot

/-- The handler from the label `out` on. -/
def txSlotOut
    (options : SplitlinkOptions) (name : SlotName) (connected : Bool)
    (kick : Option Memory) (side : TxSide) : TxSide :=
  match name with
  | .values =>
      if side.pending.ready ∧ side.slot.state = .empty then
        ⟨startTransfer options .values side.slot side.pending.data
            side.pending.length,
          { side.pending with ready := false }⟩
      else
        side
  | .battery =>
      if side.pending.ready ∧ side.slot.state = .empty then
        ⟨(txSlotBeginTransfer options .battery side.slot side.pending.data
            batteryStateSize).getD side.slot,
          { side.pending with ready := false }⟩
      else
        side
  | .scriptSlot =>
      { side with
        slot := scriptSlotSyncKickLocked options connected kick side.slot }
  | _ => side

/-! ## The send functions -/

def splitlinkSyncSendValues
    (options : SplitlinkOptions) (connected : Bool)
    (values : Memory) (count : UInt16) (side : TxSide) : TxSide :=
  if count = 0 then
    side
  else if connected = false then
    side
  else
    let sizeBytes := UInt16.ofNat (count.toNat * 2)
    if side.slot.state = .transceiving then
      if sizeBytes.toNat > 2 * options.keyCountSlave then
        side
      else
        { side with
          pending :=
            ⟨side.pending.data.writeBlock 0 sizeBytes.toNat values,
              sizeBytes, true⟩ }
    else
      { side with
        slot :=
          (txSlotBeginTransfer options .values side.slot values
            sizeBytes).getD side.slot }

def splitlinkSyncSendBatteryState
    (options : SplitlinkOptions) (connected : Bool)
    (state : Memory) (side : TxSide) : TxSide :=
  if connected = false then
    side
  else if side.slot.state = .transceiving then
    { side with pending := ⟨state, batteryStateSize, true⟩ }
  else
    { side with
      slot :=
        (txSlotBeginTransfer options .battery side.slot state
          batteryStateSize).getD side.slot }

/-- The four send functions which drop a message for a busy slot. -/
def sendOrLogBusy
    (options : SplitlinkOptions) (name : SlotName) (connected : Bool)
    (data : Memory) (slot : TxSlot) : TxSlot :=
  if connected = false then
    slot
  else
    (txSlotBeginTransferOrLogBusy options name slot data
      (options.maxDataLength name)).getD slot

def splitlinkSyncSendSettings (options : SplitlinkOptions) :
    Bool → Memory → TxSlot → TxSlot :=
  sendOrLogBusy options .settings

def splitlinkSyncSendScriptsManifest (options : SplitlinkOptions) :
    Bool → Memory → TxSlot → TxSlot :=
  sendOrLogBusy options .scriptsManifest

def splitlinkSyncSendScriptSlot (options : SplitlinkOptions) :
    Bool → Memory → TxSlot → TxSlot :=
  sendOrLogBusy options .scriptSlot

def splitlinkSyncRequestScripts (options : SplitlinkOptions) :
    Bool → Memory → TxSlot → TxSlot :=
  sendOrLogBusy options .scriptsRequest

/-! ## Receiving slots -/

inductive RxSlotState where
  | empty
  | receiving
  | ready
  | processing
deriving DecidableEq, Repr

/-- `struct rx_slot`; `rx.buffer` is its data, `submitted` its work item. -/
structure RxSlot where
  state : RxSlotState
  rx : YkbProtocolRxState
  submitted : Bool

/-- A slot as `RX_SLOT` defines it. -/
def RxSlot.initial : RxSlot where
  state := .empty
  rx := ykbProtocolRxInit Memory.zero 0 false none 0
  submitted := false

/-- `rx_init`; what the bitmap held before is cleared by it. -/
def rxInit
    (options : SplitlinkOptions) (name : SlotName) (slot : RxSlot) :
    RxSlot :=
  { slot with
    rx :=
      if options.outOfOrderTrack then
        ykbProtocolRxInit slot.rx.buffer (options.maxDataLength name) true
          (some (slot.rx.receivedBitmap.getD Memory.zero))
          options.bitmapLength
      else
        ykbProtocolRxInit slot.rx.buffer (options.maxDataLength name) false
          none 0 }

/-- Push a packet and look at the result. -/
def pushReceived
    (options : SplitlinkOptions)
    (slot : RxSlot) (packet : YkbProtocolPacket) : RxSlot :=
  let pushed := ykbProtocolRxPushPacket options.geometry slot.rx packet
  if pushed.result.isError then
    { slot with rx := ykbProtocolRxReset pushed.state, state := .empty }
  else if pushed.result = .complete then
    { slot with rx := pushed.state, state := .ready, submitted := true }
  else
    { slot with rx := pushed.state }

/-- The `switch` over the state of the slot. -/
def receiveOnSlot
    (options : SplitlinkOptions) (name : SlotName)
    (slot : RxSlot) (packet : YkbProtocolPacket) : RxSlot :=
  match slot.state with
  | .empty =>
      pushReceived options
        { rxInit options name slot with state := .receiving } packet
  | .receiving => pushReceived options slot packet
  | .ready => slot
  | .processing => slot

def splitlinkSyncProtocolOnReceive
    (options : SplitlinkOptions) (role : SyncRole)
    (slots : SlotName → RxSlot) (data : List UInt8) : SlotName → RxSlot :=
  if data.length = 0 then
    slots
  else if
      data.length < headerSize ∨
        data.length > options.geometry.maxPacketSize then
    slots
  else
    let packet := packetAt (Memory.ofList data)
    match slotOfId packet.header.transferId with
    | none => slots
    | some name =>
        if role.receives name then
          Function.update slots name
            (receiveOnSlot options name (slots name) packet)
        else
          slots

/-! ## Handing a message over -/

/-- `rx_slot_work_handler` up to its reading of the slot. -/
def rxSlotWorkStart (slot : RxSlot) : RxSlot :=
  { slot with state := .processing, submitted := false }

/--
The bytes the consumer is given: the copied values, or the structure the data
pointer is cast to.
-/
def handedMessage
    (options : SplitlinkOptions) (name : SlotName) (slot : RxSlot) :
    List UInt8 :=
  match name with
  | .values => slot.rx.buffer.readBlock 0 (slot.rx.totalLen.toNat / 2 * 2)
  | name => slot.rx.buffer.readBlock 0 (options.maxDataLength name).toNat

/-- `rx_slot_work_handler` after its reading of the slot. -/
def rxSlotWorkFinish (slot : RxSlot) : RxSlot :=
  { slot with rx := ykbProtocolRxReset slot.rx, state := .empty }

end YkbFirmware.SplitLink.Slots
