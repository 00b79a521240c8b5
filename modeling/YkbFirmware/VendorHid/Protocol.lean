import YkbFirmware.Protocol.Receiver
import YkbFirmware.Protocol.Sender

/-!
# The VendorHID request protocol

`vendor_hid_protocol_init`, `vendor_hid_protocol_parse` and
`response_work_handler`.

The parser feeds reports into an in-order receiver over `rx_buffer`; a
completed transfer marks the context busy, chooses the response and submits
the work item, and the work handler executes the request, sends the response
and makes the context idle again.  What the handler calls outside this file
(settings, backlight scripts, key values, battery) is a `VendorHidServices`
value over an arbitrary device state.
-/

namespace YkbFirmware.VendorHid.Protocol

open YkbFirmware.Library.ByteMemory
open YkbFirmware.Protocol.Wire
open YkbFirmware.Protocol.Receiver
open YkbFirmware.Protocol.Sender

/-! ## Build options and types -/

/-- The build options and sizes the source is compiled with. -/
structure VendorHidOptions where
  backlight : Bool
  battsense : Bool
  splitlinkSyncMaster : Bool
  kbSettingsSize : Nat
  scriptNameSize : Nat
  scriptSlotSize : Nat
  sizesFit :
    1 + max kbSettingsSize (2 + (1 + 4 + scriptNameSize + scriptSlotSize)) <
      2 ^ 16

/-- `VENDOR_HID_MAX_DATA_LEN`. -/
def VendorHidOptions.maxDataLen (options : VendorHidOptions) : Nat :=
  if options.backlight then
    max options.kbSettingsSize
      (2 + (1 + 4 + options.scriptNameSize + options.scriptSlotSize))
  else
    options.kbSettingsSize

/-- `sizeof(ctx->rx_buffer)`: the type byte and the data. -/
def VendorHidOptions.rxBufferSize (options : VendorHidOptions) : Nat :=
  1 + options.maxDataLen

theorem VendorHidOptions.rxBufferSize_lt (options : VendorHidOptions) :
    options.rxBufferSize < 2 ^ 16 := by
  have fits := options.sizesFit
  rw [rxBufferSize, maxDataLen]
  split_ifs <;> omega

/-- `enum response_type`. -/
inductive ResponseType where
  | getFeatures
  | getValues
  | getSettings
  | setSettingsOk
  | getLumiscriptSlot
  | setLumiscriptSlotOk
  | getLumiscriptSlotInfo
  | clearLumiscriptSlotOk
  | renameLumiscriptSlotOk
  | getBatteryState
  | getSecondaryBatteryState
  | error
deriving DecidableEq, Repr

def ResponseType.code : ResponseType → UInt8
  | getFeatures => 0
  | getValues => 1
  | getSettings => 2
  | setSettingsOk => 3
  | getLumiscriptSlot => 4
  | setLumiscriptSlotOk => 5
  | getLumiscriptSlotInfo => 6
  | clearLumiscriptSlotOk => 7
  | renameLumiscriptSlotOk => 8
  | getBatteryState => 9
  | getSecondaryBatteryState => 10
  | error => 255

/-- The switch over the request type at the end of the parser. -/
def responseFor (options : VendorHidOptions) (requestType : UInt8) :
    ResponseType :=
  match requestType.toNat with
  | 0 => .getFeatures
  | 1 => .getValues
  | 2 => .getSettings
  | 3 => .setSettingsOk
  | 4 => if options.backlight then .getLumiscriptSlot else .error
  | 5 => if options.backlight then .setLumiscriptSlotOk else .error
  | 6 => if options.backlight then .getLumiscriptSlotInfo else .error
  | 7 => if options.backlight then .clearLumiscriptSlotOk else .error
  | 8 => if options.backlight then .renameLumiscriptSlotOk else .error
  | 9 => if options.battsense then .getBatteryState else .error
  | 10 =>
      if options.splitlinkSyncMaster then
        .getSecondaryBatteryState
      else
        .error
  | _ => .error

/--
`vendor_hid_protocol_ctx_t`.  The memory of `rx_buffer` is the buffer of `rx`;
the work item is kept by the scheduler that runs it.
-/
structure VendorHidProtocolCtx where
  rx : YkbProtocolRxState
  currentResponse : ResponseType
  busy : Bool

def VendorHidProtocolCtx.rxBuffer (ctx : VendorHidProtocolCtx) : Memory :=
  ctx.rx.buffer

def vendorHidProtocolInit (options : VendorHidOptions) :
    VendorHidProtocolCtx where
  rx :=
    ykbProtocolRxInit Memory.zero (UInt16.ofNat options.rxBufferSize) false
      none 0
  currentResponse := .getFeatures
  busy := false

/-! ## Parsing reports -/

/-- A report as the transport hands it over: a pointer and a length. -/
structure Report where
  data : Memory
  len : Nat

/-- What `vendor_hid_protocol_parse` returns. -/
inductive ParseReturn where
  | zero
  | eBusy
  | eMsgSize
  | protocolError (result : YkbProtocolRxResult)
deriving DecidableEq, Repr

/-- The checks before the receiver is touched. -/
def parseGuard (ctx : VendorHidProtocolCtx) (report : Report) :
    Option ParseReturn :=
  if ctx.busy then
    some .eBusy
  else if report.len < headerSize then
    some .eMsgSize
  else
    none

/-- The call of `ykb_protocol_rx_push_packet` on the cast report. -/
def parsePush
    (geometry : PacketGeometry)
    (ctx : VendorHidProtocolCtx) (report : Report) : RxOutcome :=
  ykbProtocolRxPushPacket geometry ctx.rx (packetAt report.data)

/-- The response the switch selects for the request in `rx_buffer`. -/
def requestedResponse
    (options : VendorHidOptions) (rxBuffer : Memory) : ResponseType :=
  responseFor options (rxBuffer 0)

/-- Result of one call of the parser; `submitted` is `k_work_submit`. -/
structure ParseOutcome where
  ctx : VendorHidProtocolCtx
  returned : ParseReturn
  submitted : Bool

def vendorHidProtocolParse
    (geometry : PacketGeometry) (options : VendorHidOptions)
    (ctx : VendorHidProtocolCtx) (report : Report) : ParseOutcome :=
  match parseGuard ctx report with
  | some returned => ⟨ctx, returned, false⟩
  | none =>
      let pushed := parsePush geometry ctx report
      let ctx := { ctx with rx := pushed.state }
      if pushed.result.isError then
        ⟨ctx, .protocolError pushed.result, false⟩
      else if pushed.result ≠ .complete then
        ⟨ctx, .zero, false⟩
      else
        ⟨{ ctx with
            busy := true
            currentResponse := requestedResponse options ctx.rxBuffer },
          .zero, true⟩

/-! ## Services -/

/-- `ykb_backlight_script_slot_t`. -/
structure ScriptSlot where
  occupied : Bool
  size : UInt32
  name : List UInt8
  bytecode : List UInt8

/--
The functions of other subsystems the handler calls, over the state of the
device.  Getters that can fail return their error code.
-/
structure VendorHidServices (Device : Type) where
  features : List UInt8
  kbHandlerCoreGetValues : Device → List UInt8
  kbSettingsGet : Device → Except Int (List UInt8)
  kbSettingsApply : Device → List UInt8 → Int × Device
  ykbBacklightGetScriptSlot : Device → UInt16 → Except Int ScriptSlot
  ykbBacklightSetScriptSlot : Device → UInt16 → ScriptSlot → Int × Device
  ykbBattsenseGetState : Device → Except Int (List UInt8)
  secondaryBattState : Device → List UInt8

/-- The four bytes of a little-endian 32-bit field. -/
def wordBytes (value : UInt32) : List UInt8 :=
  [UInt8.ofNat (value.toNat % 256),
    UInt8.ofNat (value.toNat / 2 ^ 8 % 256),
    UInt8.ofNat (value.toNat / 2 ^ 16 % 256),
    UInt8.ofNat (value.toNat / 2 ^ 24 % 256)]

def wordOfBytes (byte0 byte1 byte2 byte3 : UInt8) : UInt32 :=
  UInt32.ofNat
    (byte0.toNat + 2 ^ 8 * byte1.toNat + 2 ^ 16 * byte2.toNat +
      2 ^ 24 * byte3.toNat)

/-- The packed slot number in front of a script packet. -/
def slotBytes (slot : UInt16) : List UInt8 :=
  [lowByte slot, highByte slot]

/-- The fields slot packet and slot info have in common. -/
def scriptSlotHeadBytes (slot : UInt16) (data : ScriptSlot) : List UInt8 :=
  slotBytes slot ++ [if data.occupied then 1 else 0] ++
    wordBytes data.size ++ data.name

/-- `vendor_hid_protocol_script_slot_to_wire` after the slot number. -/
def vendorHidProtocolScriptSlotToWire
    (slot : UInt16) (data : ScriptSlot) : List UInt8 :=
  scriptSlotHeadBytes slot data ++ data.bytecode

/-- A name field; its last byte is overwritten with the terminator. -/
def terminatedName
    (options : VendorHidOptions) (memory : Memory) (offset : Nat) :
    List UInt8 :=
  memory.readBlock offset (options.scriptNameSize - 1) ++ [0]

/-- The data of a request starts after the type byte. -/
def requestData (ctx : VendorHidProtocolCtx) : Memory :=
  ctx.rxBuffer.shift 1

def requestSlot (request : Memory) : UInt16 :=
  fieldOfBytes (request 0) (request 1)

def vendorHidProtocolScriptSlotFromWire
    (options : VendorHidOptions) (request : Memory) : ScriptSlot where
  occupied := decide (request 2 ≠ 0)
  size := wordOfBytes (request 3) (request 4) (request 5) (request 6)
  name := terminatedName options request 7
  bytecode :=
    request.readBlock (7 + options.scriptNameSize) options.scriptSlotSize

/-! ## Executing requests -/

section Execution

variable
    {Device : Type}
    (options : VendorHidOptions) (services : VendorHidServices Device)
    (device : Device)

/-- A response that is one response code. -/
def codeResponse (response : ResponseType) : List UInt8 :=
  [response.code]

/-- The code of a request which was executed with the given result. -/
def outcomeResponse (success : ResponseType) (err : Int) : List UInt8 :=
  if err = 0 then codeResponse success else codeResponse .error

/-- The bytes of a getter, or the error code. -/
def fetchedResponse (fetched : Except Int (List UInt8)) : List UInt8 :=
  match fetched with
  | .ok bytes => bytes
  | .error _ => codeResponse .error

def vendorHidProtocolGetScriptSlot (slot : UInt16) :
    Except Int (List UInt8) :=
  match services.ykbBacklightGetScriptSlot device slot with
  | .ok data => .ok (vendorHidProtocolScriptSlotToWire slot data)
  | .error err => .error err

def vendorHidProtocolGetScriptSlotInfo (slot : UInt16) :
    Except Int (List UInt8) :=
  match services.ykbBacklightGetScriptSlot device slot with
  | .ok data => .ok (scriptSlotHeadBytes slot data)
  | .error err => .error err

def vendorHidProtocolSetScriptSlot (request : Memory) : Int × Device :=
  services.ykbBacklightSetScriptSlot device (requestSlot request)
    (vendorHidProtocolScriptSlotFromWire options request)

def vendorHidProtocolClearScriptSlot (slot : UInt16) : Int × Device :=
  services.ykbBacklightSetScriptSlot device slot
    { occupied := false
      size := 0
      name := List.replicate options.scriptNameSize 0
      bytecode := List.replicate options.scriptSlotSize 0 }

def vendorHidProtocolRenameScriptSlot (request : Memory) : Int × Device :=
  let slot := requestSlot request
  match services.ykbBacklightGetScriptSlot device slot with
  | .error err => (err, device)
  | .ok data =>
      services.ykbBacklightSetScriptSlot device slot
        { data with name := terminatedName options request 2 }

/-- The switch of `response_work_handler`: response bytes and new device. -/
def executeRequest (ctx : VendorHidProtocolCtx) : List UInt8 × Device :=
  let request := requestData ctx
  match ctx.currentResponse with
  | .getFeatures => (services.features, device)
  | .getValues => (services.kbHandlerCoreGetValues device, device)
  | .getSettings => (fetchedResponse (services.kbSettingsGet device), device)
  | .setSettingsOk =>
      let applied :=
        services.kbSettingsApply device
          (request.readBlock 0 options.kbSettingsSize)
      (outcomeResponse .setSettingsOk applied.1, applied.2)
  | .getLumiscriptSlot =>
      (fetchedResponse
          (vendorHidProtocolGetScriptSlot services device
            (requestSlot request)),
        device)
  | .setLumiscriptSlotOk =>
      let stored :=
        vendorHidProtocolSetScriptSlot options services device request
      (outcomeResponse .setLumiscriptSlotOk stored.1, stored.2)
  | .getLumiscriptSlotInfo =>
      (fetchedResponse
          (vendorHidProtocolGetScriptSlotInfo services device
            (requestSlot request)),
        device)
  | .clearLumiscriptSlotOk =>
      let stored :=
        vendorHidProtocolClearScriptSlot options services device
          (requestSlot request)
      (outcomeResponse .clearLumiscriptSlotOk stored.1, stored.2)
  | .renameLumiscriptSlotOk =>
      let stored :=
        vendorHidProtocolRenameScriptSlot options services device request
      (outcomeResponse .renameLumiscriptSlotOk stored.1, stored.2)
  | .getBatteryState =>
      (fetchedResponse (services.ykbBattsenseGetState device), device)
  | .getSecondaryBatteryState =>
      (services.secondaryBattState device, device)
  | .error => (codeResponse .error, device)

end Execution

/-- `ykb_protocol_tx_init` on the response. -/
def responseSender (geometry : PacketGeometry) (response : List UInt8) :
    YkbProtocolTxState :=
  ykbProtocolTxInit geometry (some (Memory.ofList response))
    (UInt16.ofNat response.length) 0 YkbProtocolType.data.code

/-- The bytes of a packet as `send_packet` gets them. -/
def packetReport
    (geometry : PacketGeometry)
    (tx : YkbProtocolTxState) (packet : YkbProtocolPacket) : List UInt8 :=
  let payloadLen :=
    ykbProtocolPayloadLenForIndex geometry tx.totalLen
      packet.header.packetIdx tx.packetCount
  packet.bytes (headerSize + payloadLen.toNat)

/--
The send loop: the reports handed to `send_packet`, which answers with an
error code.  A failed send ends the loop.
-/
def sendResponse
    (geometry : PacketGeometry)
    (sendPacket : List UInt8 → Int) (tx : YkbProtocolTxState) :
    List (List UInt8) :=
  match _ : ykbProtocolTxBuildPacket geometry tx with
  | none => []
  | some (packet, next) =>
      let report := packetReport geometry next packet
      if sendPacket report ≠ 0 then
        [report]
      else
        report :: sendResponse geometry sendPacket next
termination_by tx.packetCount.toNat - tx.nextPacketIdx.toNat
decreasing_by exact buildPacket_decreases (by assumption)

section SendLoop

variable
    {geometry : PacketGeometry} {sendPacket : List UInt8 → Int}
    {tx next : YkbProtocolTxState} {packet : YkbProtocolPacket}

theorem sendResponse_none
    (done : ykbProtocolTxBuildPacket geometry tx = none) :
    sendResponse geometry sendPacket tx = [] := by
  rw [sendResponse]
  split
  · rfl
  · rename_i built
    rw [done] at built
    cases built

theorem sendResponse_some
    (built : ykbProtocolTxBuildPacket geometry tx = some (packet, next)) :
    sendResponse geometry sendPacket tx =
      if sendPacket (packetReport geometry next packet) ≠ 0 then
        [packetReport geometry next packet]
      else
        packetReport geometry next packet ::
          sendResponse geometry sendPacket next := by
  rw [sendResponse]
  split
  · rename_i stopped
    rw [built] at stopped
    cases stopped
  · rename_i built'
    rw [built] at built'
    cases built'
    rfl

end SendLoop

/-- The context as the end of the handler leaves it. -/
def releaseContext (ctx : VendorHidProtocolCtx) : VendorHidProtocolCtx :=
  { ctx with rx := ykbProtocolRxReset ctx.rx, busy := false }

/-- Result of one run of the work handler. -/
structure ResponseOutcome (Device : Type) where
  ctx : VendorHidProtocolCtx
  device : Device
  sent : List (List UInt8)

def responseWorkHandler
    {Device : Type}
    (geometry : PacketGeometry) (options : VendorHidOptions)
    (services : VendorHidServices Device)
    (sendPacket : List UInt8 → Int)
    (device : Device) (ctx : VendorHidProtocolCtx) :
    ResponseOutcome Device :=
  let executed := executeRequest options services device ctx
  ⟨releaseContext ctx, executed.2,
    sendResponse geometry sendPacket
      (responseSender geometry executed.1)⟩

/-- The default sizes, without optional subsystems. -/
def plainOptions : VendorHidOptions where
  backlight := false
  battsense := false
  splitlinkSyncMaster := false
  kbSettingsSize := 512
  scriptNameSize := 21
  scriptSlotSize := 1024
  sizesFit := by decide

/-- Three bytes of payload fit in a packet. -/
def threeByteGeometry : PacketGeometry := ⟨14, by decide, by decide⟩

/-- Settings of four bytes. -/
def fourByteOptions : VendorHidOptions :=
  { plainOptions with
    kbSettingsSize := 4
    sizesFit := by decide }

/-- A device without state whose services do nothing. -/
def idleServices : VendorHidServices Unit where
  features := []
  kbHandlerCoreGetValues := fun _ => []
  kbSettingsGet := fun _ => .ok []
  kbSettingsApply := fun _ _ => (0, ())
  ykbBacklightGetScriptSlot := fun _ _ => .error (-22)
  ykbBacklightSetScriptSlot := fun _ _ _ => (0, ())
  ykbBattsenseGetState := fun _ => .ok []
  secondaryBattState := fun _ => []

end YkbFirmware.VendorHid.Protocol
