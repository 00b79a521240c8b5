import YkbFirmware.Protocol.OpeningPacket
import YkbFirmware.Protocol.StaleBuffer
import YkbFirmware.VendorHid.Recovery

/-!
# What a VendorHID request acts on

The handler casts `rx_buffer` to the struct of the request type and reads all
of it, while the parser only knows that the announced bytes have arrived.
Two idle contexts with different stale bytes in the buffer are fed the same
reports.  Their dispatch and their calls into other subsystems agree exactly
when the transfer is at least as long as what the handler reads for its type;
of a shorter transfer the handler uses what an earlier request left behind.
-/

namespace YkbFirmware.VendorHid.CarriedBytes

open YkbFirmware.Library.ByteMemory
open YkbFirmware.Library.Segmentation
open YkbFirmware.Protocol.Wire
open YkbFirmware.Protocol.Receiver
open YkbFirmware.Protocol.ReceiverInvariant
open YkbFirmware.Protocol.ReceiverStep
open YkbFirmware.Protocol.ReceiverSafety
open YkbFirmware.Protocol.StaleBuffer
open YkbFirmware.Protocol.OpeningPacket
open YkbFirmware.Protocol.Sender
open YkbFirmware.Protocol.TransferReceipt
open YkbFirmware.Protocol.InOrderRoundTrip
open YkbFirmware.VendorHid.Protocol
open YkbFirmware.VendorHid.Recovery

/-! ## Calls of the handler into other subsystems -/

/-- A call which gets its arguments from the request. -/
inductive ServiceCall where
  | kbSettingsApply (settings : List UInt8)
  | ykbBacklightGetScriptSlot (slot : UInt16)
  | ykbBacklightSetScriptSlot (slot : UInt16) (data : ScriptSlot)

section Calls

variable
    {Device : Type}
    (options : VendorHidOptions) (services : VendorHidServices Device)
    (device : Device)

/-- The calls `vendor_hid_protocol_rename_script_slot` makes. -/
def renameCalls (request : Memory) : List ServiceCall :=
  let slot := requestSlot request
  .ykbBacklightGetScriptSlot slot ::
    match services.ykbBacklightGetScriptSlot device slot with
    | .error _ => []
    | .ok data =>
        [.ykbBacklightSetScriptSlot slot
          { data with name := terminatedName options request 2 }]

/-- The calls of `response_work_handler`, in order. -/
def serviceCalls (ctx : VendorHidProtocolCtx) : List ServiceCall :=
  let request := requestData ctx
  match ctx.currentResponse with
  | .setSettingsOk =>
      [.kbSettingsApply (request.readBlock 0 options.kbSettingsSize)]
  | .getLumiscriptSlot =>
      [.ykbBacklightGetScriptSlot (requestSlot request)]
  | .setLumiscriptSlotOk =>
      [.ykbBacklightSetScriptSlot (requestSlot request)
        (vendorHidProtocolScriptSlotFromWire options request)]
  | .getLumiscriptSlotInfo =>
      [.ykbBacklightGetScriptSlot (requestSlot request)]
  | .clearLumiscriptSlotOk =>
      [.ykbBacklightSetScriptSlot (requestSlot request)
        { occupied := false
          size := 0
          name := List.replicate options.scriptNameSize 0
          bytecode := List.replicate options.scriptSlotSize 0 }]
  | .renameLumiscriptSlotOk =>
      renameCalls options services device request
  | .getFeatures => []
  | .getValues => []
  | .getSettings => []
  | .getBatteryState => []
  | .getSecondaryBatteryState => []
  | .error => []

/-- The effect of a call on the device. -/
def ServiceCall.perform (device : Device) : ServiceCall → Device
  | .kbSettingsApply settings => (services.kbSettingsApply device settings).2
  | .ykbBacklightGetScriptSlot _ => device
  | .ykbBacklightSetScriptSlot slot data =>
      (services.ykbBacklightSetScriptSlot device slot data).2

/-- The handler changes the device by the listed calls and by nothing else. -/
theorem executeRequest_device (ctx : VendorHidProtocolCtx) :
    (executeRequest options services device ctx).2 =
      (serviceCalls options services device ctx).foldl
        (ServiceCall.perform services) device := by
  rw [executeRequest, serviceCalls]
  cases ctx.currentResponse with
  | renameLumiscriptSlotOk =>
      simp only [vendorHidProtocolRenameScriptSlot, renameCalls]
      cases services.ykbBacklightGetScriptSlot device
          (requestSlot (requestData ctx)) <;>
        rfl
  | getFeatures | getValues | getSettings | setSettingsOk => rfl
  | getLumiscriptSlot | setLumiscriptSlotOk => rfl
  | getLumiscriptSlotInfo | clearLumiscriptSlotOk => rfl
  | getBatteryState | getSecondaryBatteryState | error => rfl

end Calls

/-! ## The property -/

/-- The context over a buffer with other stale contents. -/
def withStale (ctx : VendorHidProtocolCtx) (stale : Memory) :
    VendorHidProtocolCtx :=
  { ctx with rx := rebuffered ctx.rx stale }

/-- A context between two requests. -/
structure IdleContext
    (options : VendorHidOptions) (ctx : VendorHidProtocolCtx) : Prop where
  free : ctx.busy = false
  resting : Idle ctx.rx
  configuration :
    SameConfiguration (vendorHidProtocolInit options).rx ctx.rx

/-- Both contexts have the same request pending and make the same calls. -/
structure ActsAlike
    (options : VendorHidOptions) (first second : VendorHidProtocolCtx) :
    Prop where
  submitted : second.busy = first.busy
  dispatched : second.currentResponse = first.currentResponse
  calls :
    ∀ {Device : Type} (services : VendorHidServices Device)
        (device : Device),
      serviceCalls options services device second =
        serviceCalls options services device first

/-- How many bytes of `rx_buffer` the handler reads for a response. -/
def requestLength (options : VendorHidOptions) : ResponseType → Nat
  | .setSettingsOk => 1 + options.kbSettingsSize
  | .getLumiscriptSlot => 3
  | .setLumiscriptSlotOk =>
      if options.scriptSlotSize = 0 then
        8 + (options.scriptNameSize - 1)
      else
        8 + options.scriptNameSize + options.scriptSlotSize
  | .getLumiscriptSlotInfo => 3
  | .clearLumiscriptSlotOk => 3
  | .renameLumiscriptSlotOk => 3 + (options.scriptNameSize - 1)
  | .getFeatures => 1
  | .getValues => 1
  | .getSettings => 1
  | .getBatteryState => 1
  | .getSecondaryBatteryState => 1
  | .error => 1

theorem requestLength_pos
    (options : VendorHidOptions) (response : ResponseType) :
    0 < requestLength options response := by
  cases response <;> simp only [requestLength] <;> (try split_ifs) <;> omega

/-! ## What the handler reads -/

section Reads

variable
    {Device : Type} {options : VendorHidOptions}
    {services : VendorHidServices Device} {device : Device}
    {first second : VendorHidProtocolCtx}

/-- The two buffers agree on the first bytes. -/
def AgreeBelow (first second : VendorHidProtocolCtx) (length : Nat) : Prop :=
  ∀ position < length, second.rxBuffer position = first.rxBuffer position

theorem AgreeBelow.mono {length shorter : Nat}
    (agree : AgreeBelow first second length) (le : shorter ≤ length) :
    AgreeBelow first second shorter :=
  fun position within => agree position (within.trans_le le)

theorem AgreeBelow.sameSlot (agree : AgreeBelow first second 3) :
    requestSlot (requestData second) = requestSlot (requestData first) := by
  have low := agree 1 (by omega)
  have high := agree 2 (by omega)
  exact congrArg₂ fieldOfBytes low high

theorem AgreeBelow.sameBlock {offset length : Nat}
    (agree : AgreeBelow first second (1 + offset + length)) :
    (requestData second).readBlock offset length =
      (requestData first).readBlock offset length :=
  Memory.readBlock_congr fun index within =>
    agree (1 + (offset + index)) (by omega)

theorem AgreeBelow.sameName {offset : Nat}
    (agree :
      AgreeBelow first second (1 + offset + (options.scriptNameSize - 1))) :
    terminatedName options (requestData second) offset =
      terminatedName options (requestData first) offset :=
  congrArg (· ++ [0]) agree.sameBlock

theorem AgreeBelow.sameScriptSlot
    (agree :
      AgreeBelow first second (requestLength options .setLumiscriptSlotOk)) :
    vendorHidProtocolScriptSlotFromWire options (requestData second) =
      vendorHidProtocolScriptSlotFromWire options (requestData first) := by
  have enough :
      8 + (options.scriptNameSize - 1) ≤
        requestLength options .setLumiscriptSlotOk := by
    rw [requestLength]
    split_ifs <;> omega
  have head := agree.mono enough
  have name :
      terminatedName options (requestData second) 7 =
        terminatedName options (requestData first) 7 :=
    head.sameName
  have bytecode :
      (requestData second).readBlock (7 + options.scriptNameSize)
          options.scriptSlotSize =
        (requestData first).readBlock (7 + options.scriptNameSize)
          options.scriptSlotSize := by
    by_cases none : options.scriptSlotSize = 0
    · rw [none, Memory.readBlock_zero, Memory.readBlock_zero]
    · rw [requestLength, if_neg none] at agree
      exact AgreeBelow.sameBlock (agree.mono (by omega))
  have occupied : requestData second 2 = requestData first 2 :=
    head 3 (by omega)
  have byte0 : requestData second 3 = requestData first 3 :=
    head 4 (by omega)
  have byte1 : requestData second 4 = requestData first 4 :=
    head 5 (by omega)
  have byte2 : requestData second 5 = requestData first 5 :=
    head 6 (by omega)
  have byte3 : requestData second 6 = requestData first 6 :=
    head 7 (by omega)
  rw [vendorHidProtocolScriptSlotFromWire,
    vendorHidProtocolScriptSlotFromWire, name, bytecode, occupied, byte0,
    byte1, byte2, byte3]

/-- The calls depend on the bytes up to the request's length only. -/
theorem serviceCalls_congr
    (services : VendorHidServices Device) (device : Device)
    (dispatched : second.currentResponse = first.currentResponse)
    (agree :
      AgreeBelow first second
        (requestLength options first.currentResponse)) :
    serviceCalls options services device second =
      serviceCalls options services device first := by
  rw [serviceCalls, serviceCalls, dispatched]
  cases selected : first.currentResponse <;>
    rw [selected] at agree
  case setSettingsOk =>
    exact
      congrArg (fun bytes => [ServiceCall.kbSettingsApply bytes])
        (AgreeBelow.sameBlock (agree.mono (by simp [requestLength])))
  case getLumiscriptSlot => rw [agree.sameSlot]
  case getLumiscriptSlotInfo => rw [agree.sameSlot]
  case clearLumiscriptSlotOk => rw [agree.sameSlot]
  case setLumiscriptSlotOk =>
    have slot : AgreeBelow first second 3 := by
      apply agree.mono
      rw [requestLength]
      split_ifs <;> omega
    rw [slot.sameSlot, agree.sameScriptSlot]
  case renameLumiscriptSlotOk =>
    have slot : AgreeBelow first second 3 :=
      agree.mono (by simp [requestLength])
    have name :
        terminatedName options (requestData second) 2 =
          terminatedName options (requestData first) 2 :=
      AgreeBelow.sameName (agree.mono (by simp [requestLength]))
    simp only [renameCalls, slot.sameSlot, name]

/-- A block that contains a changed byte reads differently. -/
theorem readBlock_ne {offset length position : Nat}
    (inside : offset ≤ position ∧ position < offset + length)
    (differs :
      second.rxBuffer (1 + position) ≠ first.rxBuffer (1 + position)) :
    (requestData second).readBlock offset length ≠
      (requestData first).readBlock offset length := by
  intro same
  have bytes :=
    Memory.readBlock_eq_iff.mp same (position - offset) (by omega)
  rw [Nat.add_sub_cancel' inside.1] at bytes
  exact differs bytes

/-- The high byte of a field can be read back from it. -/
theorem fieldOfBytes_high (low high : UInt8) :
    (fieldOfBytes low high).toNat / 256 = high.toNat := by
  have lowLt := low.toNat_lt
  have highLt := high.toNat_lt
  rw [fieldOfBytes, UInt16.toNat_ofNat']
  omega

/-- The top byte of a word can be read back from it. -/
theorem wordOfBytes_top (byte0 byte1 byte2 byte3 : UInt8) :
    (wordOfBytes byte0 byte1 byte2 byte3).toNat / 2 ^ 24 = byte3.toNat := by
  have lt0 := byte0.toNat_lt
  have lt1 := byte1.toNat_lt
  have lt2 := byte2.toNat_lt
  have lt3 := byte3.toNat_lt
  rw [wordOfBytes, UInt32.toNat_ofNat']
  omega

theorem requestSlot_ne
    (differs : second.rxBuffer 2 ≠ first.rxBuffer 2) :
    requestSlot (requestData second) ≠ requestSlot (requestData first) := by
  intro same
  apply differs
  have values := congrArg (fun field => field.toNat / 256) same
  simp only [requestSlot, fieldOfBytes_high] at values
  exact UInt8.toNat_inj.mp values

/-- The last byte the handler reads of a slot reaches the stored slot. -/
theorem scriptSlotFromWire_ne
    (differs :
      second.rxBuffer (requestLength options .setLumiscriptSlotOk - 1) ≠
        first.rxBuffer (requestLength options .setLumiscriptSlotOk - 1)) :
    vendorHidProtocolScriptSlotFromWire options (requestData second) ≠
      vendorHidProtocolScriptSlotFromWire options (requestData first) := by
  intro same
  rw [requestLength] at differs
  split_ifs at differs with noCode
  · by_cases named : options.scriptNameSize ≤ 1
    · -- the last byte read is the top byte of `size`
      have position : 8 + (options.scriptNameSize - 1) - 1 = 7 := by omega
      rw [position] at differs
      have sizes := congrArg (fun slot => slot.size.toNat / 2 ^ 24) same
      simp only [vendorHidProtocolScriptSlotFromWire, wordOfBytes_top]
        at sizes
      exact differs (UInt8.toNat_inj.mp sizes)
    · -- the last byte read is the last of the name but the terminator
      have position :
          8 + (options.scriptNameSize - 1) - 1 =
            1 + (options.scriptNameSize + 5) := by
        omega
      rw [position] at differs
      have names := congrArg ScriptSlot.name same
      exact
        readBlock_ne (by omega) differs (List.append_cancel_right names)
  · have position :
        8 + options.scriptNameSize + options.scriptSlotSize - 1 =
          1 + (options.scriptNameSize + options.scriptSlotSize + 6) := by
      omega
    rw [position] at differs
    exact
      readBlock_ne (by omega) differs (congrArg ScriptSlot.bytecode same)

/-- Services which have a script in every slot. -/
def scriptedServices : VendorHidServices Unit :=
  { idleServices with
    ykbBacklightGetScriptSlot := fun _ _ =>
      .ok { occupied := false, size := 0, name := [], bytecode := [] } }

/-- The last byte the handler reads reaches the arguments of its calls. -/
theorem serviceCalls_differ
    (dispatched : second.currentResponse = first.currentResponse)
    (more : 1 < requestLength options first.currentResponse)
    (differs :
      second.rxBuffer (requestLength options first.currentResponse - 1) ≠
        first.rxBuffer (requestLength options first.currentResponse - 1)) :
    serviceCalls options scriptedServices () second ≠
      serviceCalls options scriptedServices () first := by
  rw [serviceCalls, serviceCalls, dispatched]
  cases selected : first.currentResponse <;>
    rw [selected] at more differs
  case setSettingsOk =>
    have position :
        requestLength options .setSettingsOk - 1 =
          1 + (options.kbSettingsSize - 1) := by
      rw [requestLength] at more ⊢
      omega
    rw [position] at differs
    intro same
    simp only [List.cons.injEq, ServiceCall.kbSettingsApply.injEq] at same
    refine readBlock_ne ?_ differs same.1
    rw [requestLength] at more
    omega
  case getLumiscriptSlot =>
    intro same
    simp only [List.cons.injEq,
      ServiceCall.ykbBacklightGetScriptSlot.injEq] at same
    exact requestSlot_ne differs same.1
  case getLumiscriptSlotInfo =>
    intro same
    simp only [List.cons.injEq,
      ServiceCall.ykbBacklightGetScriptSlot.injEq] at same
    exact requestSlot_ne differs same.1
  case clearLumiscriptSlotOk =>
    intro same
    simp only [List.cons.injEq,
      ServiceCall.ykbBacklightSetScriptSlot.injEq] at same
    exact requestSlot_ne differs same.1.1
  case setLumiscriptSlotOk =>
    intro same
    simp only [List.cons.injEq,
      ServiceCall.ykbBacklightSetScriptSlot.injEq] at same
    exact scriptSlotFromWire_ne differs same.1.2
  case renameLumiscriptSlotOk =>
    intro same
    simp only [renameCalls, scriptedServices, List.cons.injEq,
      ServiceCall.ykbBacklightGetScriptSlot.injEq,
      ServiceCall.ykbBacklightSetScriptSlot.injEq,
      ScriptSlot.mk.injEq] at same
    by_cases named : options.scriptNameSize ≤ 1
    · have position :
          requestLength options .renameLumiscriptSlotOk - 1 = 2 := by
        rw [requestLength]
        omega
      rw [position] at differs
      exact requestSlot_ne differs same.1
    · have position :
          requestLength options .renameLumiscriptSlotOk - 1 =
            1 + options.scriptNameSize := by
        rw [requestLength]
        omega
      rw [position] at differs
      have names := same.2.1.2.2.2.1
      exact
        readBlock_ne (by omega) differs (List.append_cancel_right names)
  all_goals exact absurd more (by simp [requestLength])

end Reads

/-! ## The parser on two buffers -/

section Parsing

variable
    {geometry : PacketGeometry} {options : VendorHidOptions}
    {ctx : VendorHidProtocolCtx} {report : Report}

/-- A context with the given receiver, still waiting for its request. -/
def withReceiver (ctx : VendorHidProtocolCtx) (rx : YkbProtocolRxState) :
    VendorHidProtocolCtx :=
  { ctx with rx := rx }

/-- The parser, when it hands the report to the receiver. -/
theorem parse_unguarded (looked : parseGuard ctx report = none) :
    vendorHidProtocolParse geometry options ctx report =
      if (parsePush geometry ctx report).result.isError then
        ⟨withReceiver ctx (parsePush geometry ctx report).state,
          .protocolError (parsePush geometry ctx report).result, false⟩
      else if (parsePush geometry ctx report).result ≠ .complete then
        ⟨withReceiver ctx (parsePush geometry ctx report).state, .zero,
          false⟩
      else
        ⟨{ withReceiver ctx (parsePush geometry ctx report).state with
            busy := true
            currentResponse :=
              requestedResponse options
                (parsePush geometry ctx report).state.buffer },
          .zero, true⟩ := by
  rw [vendorHidProtocolParse, looked]
  rfl

theorem parse_guarded {returned : ParseReturn}
    (stopped : parseGuard ctx report = some returned) :
    vendorHidProtocolParse geometry options ctx report =
      ⟨ctx, returned, false⟩ := by
  rw [vendorHidProtocolParse, stopped]

/-- The work is submitted when the receiver reports COMPLETE. -/
theorem submitted_iff :
    (vendorHidProtocolParse geometry options ctx report).submitted = true ↔
      parseGuard ctx report = none ∧
        (parsePush geometry ctx report).result = .complete := by
  cases looked : parseGuard ctx report with
  | some returned => simp [parse_guarded looked]
  | none =>
      rw [parse_unguarded looked]
      split_ifs with isError pending
      · constructor
        · intro impossible
          cases impossible
        · rintro ⟨_, complete⟩
          rw [complete] at isError
          cases isError
      · constructor
        · intro impossible
          cases impossible
        · rintro ⟨_, complete⟩
          exact absurd complete pending
      · exact ⟨fun _ => ⟨rfl, not_not.mp pending⟩, fun _ => rfl⟩

/-- Without a submission only the receiver changes. -/
theorem parse_pending
    (pending :
      (vendorHidProtocolParse geometry options ctx report).submitted =
        false) :
    (vendorHidProtocolParse geometry options ctx report).ctx =
      withReceiver ctx
        (vendorHidProtocolParse geometry options ctx report).ctx.rx := by
  cases looked : parseGuard ctx report with
  | some returned =>
      rw [parse_guarded looked]
      rfl
  | none =>
      rw [parse_unguarded looked] at pending ⊢
      split_ifs at pending ⊢ <;> rfl

/-- With the submission the response is chosen from the buffer. -/
theorem parse_submitted
    (submitted :
      (vendorHidProtocolParse geometry options ctx report).submitted =
        true) :
    (vendorHidProtocolParse geometry options ctx report).ctx =
      { rx := (parsePush geometry ctx report).state
        busy := true
        currentResponse :=
          requestedResponse options
            (parsePush geometry ctx report).state.buffer } := by
  rcases submitted_iff.mp submitted with ⟨looked, complete⟩
  have fine : ¬ (parsePush geometry ctx report).result.isError = true := by
    rw [complete]
    decide
  rw [parse_unguarded looked, if_neg fine, if_neg (not_not.mpr complete)]
  rfl

/-- A context which waits for its request, and its copy, are alike. -/
structure AlikeContexts
    (geometry : PacketGeometry) (initial : YkbProtocolRxState)
    (stale : Memory) (observed : Observed)
    (first second : VendorHidProtocolCtx) : Prop where
  free : first.busy = false
  observes : first.rx = observed.rx
  rest : second = withReceiver first second.rx
  runs : SameRun geometry initial stale observed second.rx

variable
    {initial : YkbProtocolRxState} {stale : Memory} {observed : Observed}
    {first second : VendorHidProtocolCtx}

theorem AlikeContexts.guard
    (alike : AlikeContexts geometry initial stale observed first second)
    (report : Report) :
    parseGuard second report = parseGuard first report := by
  rw [alike.rest]
  rfl

theorem AlikeContexts.sameCall
    (alike : AlikeContexts geometry initial stale observed first second)
    (report : Report) :
    SameCall first.rx.buffer second.rx.buffer
      (parsePush geometry first report) (parsePush geometry second report) := by
  rw [parsePush, parsePush, alike.observes]
  exact alike.runs.sameCall (packetAt report.data)

/-- Both parsers submit on the same report. -/
theorem AlikeContexts.submitted
    (alike : AlikeContexts geometry initial stale observed first second)
    (report : Report) :
    (vendorHidProtocolParse geometry options second report).submitted =
      (vendorHidProtocolParse geometry options first report).submitted := by
  rw [Bool.eq_iff_iff, submitted_iff, submitted_iff, alike.guard report,
    (alike.sameCall report).result]

/-- A report which completes nothing keeps the contexts alike. -/
theorem AlikeContexts.parse
    (alike : AlikeContexts geometry initial stale observed first second)
    (pending :
      (vendorHidProtocolParse geometry options first report).submitted =
        false) :
    ∃ next,
      AlikeContexts geometry initial stale next
        (vendorHidProtocolParse geometry options first report).ctx
        (vendorHidProtocolParse geometry options second report).ctx := by
  have pending' := (alike.submitted report).trans pending
  have kept := parse_pending pending
  have kept' := parse_pending pending'
  have free :
      (vendorHidProtocolParse geometry options first report).ctx.busy =
        false := by
    rw [kept]
    exact alike.free
  have rest :
      (vendorHidProtocolParse geometry options second report).ctx =
        withReceiver
          (vendorHidProtocolParse geometry options first report).ctx
          (vendorHidProtocolParse geometry options second report).ctx.rx := by
    rw [kept', kept]
    nth_rewrite 1 [alike.rest]
    rfl
  cases looked : parseGuard first report with
  | some returned =>
      have looked' := (alike.guard report).trans looked
      refine ⟨observed, free, ?_, rest, ?_⟩
      · rw [parse_guarded looked]
        exact alike.observes
      · rw [parse_guarded looked']
        exact alike.runs
  | none =>
      have looked' := (alike.guard report).trans looked
      refine
        ⟨observed.push geometry (packetAt report.data), free, ?_, rest, ?_⟩
      · have pushed :
            (vendorHidProtocolParse geometry options first report).ctx.rx =
              (parsePush geometry first report).state := by
          rw [parse_unguarded looked]
          split_ifs <;> rfl
        rw [pushed, parsePush, alike.observes]
        rfl
      · have pushed :
            (vendorHidProtocolParse geometry options second report).ctx.rx =
              (parsePush geometry second report).state := by
          rw [parse_unguarded looked']
          split_ifs <;> rfl
        rw [pushed]
        exact alike.runs.push (packetAt report.data)

end Parsing

/-! ## Sequences of reports -/

section Sequences

variable
    {geometry : PacketGeometry} {options : VendorHidOptions}
    {ctx : VendorHidProtocolCtx} {before : List Report} {last : Report}

theorem contextAfter_nil
    (geometry : PacketGeometry) (options : VendorHidOptions)
    (ctx : VendorHidProtocolCtx) :
    contextAfter geometry options ctx [] = ctx :=
  rfl

theorem contextAfter_append
    (geometry : PacketGeometry) (options : VendorHidOptions)
    (ctx : VendorHidProtocolCtx) (before : List Report) (last : Report) :
    contextAfter geometry options ctx (before ++ [last]) =
      (vendorHidProtocolParse geometry options
          (contextAfter geometry options ctx before) last).ctx := by
  simp [contextAfter]

/-- A busy context stays busy until its work handler runs. -/
theorem busy_parse {report : Report} (busy : ctx.busy = true) :
    vendorHidProtocolParse geometry options ctx report =
      ⟨ctx, .eBusy, false⟩ :=
  parse_guarded (by rw [parseGuard, if_pos busy])

/-- Before the report that submits, the context is not busy. -/
theorem free_of_submitted
    (submitted :
      (vendorHidProtocolParse geometry options ctx last).submitted = true) :
    ctx.busy = false := by
  by_contra busy
  rw [busy_parse (by simpa using busy)] at submitted
  cases submitted

/-- What holds of a free context held of it before every report. -/
theorem pending_of_free {report : Report}
    (free :
      (vendorHidProtocolParse geometry options ctx report).ctx.busy =
        false) :
    ctx.busy = false ∧
      (vendorHidProtocolParse geometry options ctx report).submitted =
        false := by
  constructor
  · by_contra busy
    have stays : ctx.busy = true := by simpa using busy
    rw [busy_parse stays] at free
    exact busy free
  · by_contra submitted
    rw [parse_submitted (by simpa using submitted)] at free
    cases free

/-- Reports that complete nothing keep an idle context and its copy alike. -/
theorem alikeContexts_of_free
    (idle : IdleContext options ctx) (stale : Memory)
    (free : (contextAfter geometry options ctx before).busy = false) :
    ∃ observed,
      AlikeContexts geometry ctx.rx stale observed
        (contextAfter geometry options ctx before)
        (contextAfter geometry options (withStale ctx stale) before) := by
  induction before using List.reverseRecOn with
  | nil =>
      exact ⟨.fresh ctx.rx, idle.free, rfl, rfl, .start idle.resting stale⟩
  | append_singleton before report induction =>
      rw [contextAfter_append] at free
      rcases pending_of_free free with ⟨freeBefore, pending⟩
      rcases induction freeBefore with ⟨observed, alike⟩
      rw [contextAfter_append, contextAfter_append]
      exact alike.parse pending

/--
A context and its copy after the report that completed the request: the
announced bytes agree, and what lies beyond them is stale in both.
-/
structure Completed
    (options : VendorHidOptions) (buffer stale : Memory) (announced : Nat)
    (first second : VendorHidProtocolCtx) : Prop where
  busy : first.busy = true
  busyCopy : second.busy = true
  response :
    first.currentResponse = requestedResponse options first.rxBuffer
  responseCopy :
    second.currentResponse = requestedResponse options second.rxBuffer
  carried : AgreeBelow first second announced
  beyond :
    ∀ position, announced ≤ position →
      first.rxBuffer position = buffer position ∧
        second.rxBuffer position = stale position

/-- COMPLETE is reported for a packet of the completed transfer. -/
theorem push_complete_sameTransfer
    {rx : YkbProtocolRxState} {stored : Finset Nat}
    {packet : YkbProtocolPacket}
    (describes : Describes geometry rx stored)
    (completed :
      (ykbProtocolRxPushPacket geometry rx packet).result = .complete) :
    sameTransfer (ykbProtocolRxPushPacket geometry rx packet).state
        packet.header =
      true := by
  rcases pushStep describes packet with ⟨next, step⟩
  generalize ykbProtocolRxPushPacket geometry rx packet = outcome
    at step completed ⊢
  cases step with
  | refused isError =>
      cases completed
      cases isError
  | repeated => cases completed
  | begunOnly => cases completed
  | begunStored =>
      exact
        (SameParameters.sameTransfer
            (storedState_sameParameters geometry
              (begunState rx packet.header) packet)).trans
          (begunState_sameTransfer rx packet)
  | stored admissible tracks same =>
      exact
        (SameParameters.sameTransfer
            (storedState_sameParameters geometry rx packet)).trans
          same

theorem push_complete_totalLen
    {rx : YkbProtocolRxState} {stored : Finset Nat}
    {packet : YkbProtocolPacket}
    (describes : Describes geometry rx stored)
    (completed :
      (ykbProtocolRxPushPacket geometry rx packet).result = .complete) :
    (ykbProtocolRxPushPacket geometry rx packet).state.totalLen =
      packet.header.totalLen :=
  (of_decide_eq_true
    (push_complete_sameTransfer describes completed)).2.1

/-- The report that submits completes both contexts. -/
theorem completed_of_submitted
    (idle : IdleContext options ctx) (stale : Memory)
    (submitted :
      (vendorHidProtocolParse geometry options
          (contextAfter geometry options ctx before) last).submitted =
        true) :
    Completed options ctx.rxBuffer stale
      (packetAt last.data).header.totalLen.toNat
      (contextAfter geometry options ctx (before ++ [last]))
      (contextAfter geometry options (withStale ctx stale)
        (before ++ [last])) := by
  rcases
      alikeContexts_of_free idle stale (free_of_submitted submitted) with
    ⟨observed, alike⟩
  rw [contextAfter_append, contextAfter_append]
  generalize contextAfter geometry options ctx before = first
    at alike submitted ⊢
  generalize contextAfter geometry options (withStale ctx stale) before =
    second at alike ⊢
  have complete := (submitted_iff.mp submitted).2
  have runs := alike.runs.push (packetAt last.data)
  rw [parse_submitted submitted,
    parse_submitted ((alike.submitted last).trans submitted)]
  rw [parsePush, alike.observes] at complete
  have describes := alike.runs.sound.describes
  have length := push_complete_totalLen describes complete
  have full := push_complete describes complete
  refine ⟨rfl, rfl, rfl, rfl, ?_, ?_⟩
  · intro position within
    rw [← length] at within
    have written := runs.sound.written_of_complete full within
    have same := runs.carried position written
    simp only [VendorHidProtocolCtx.rxBuffer, parsePush, alike.observes]
    exact same.symm
  · intro position further
    rw [← length] at further
    simp only [VendorHidProtocolCtx.rxBuffer, parsePush, alike.observes]
    exact runs.beyond position fun _ => further

/-! ## The exact condition -/

/-- Whatever the stale bytes are, both contexts act alike. -/
def CarriedOnly
    (geometry : PacketGeometry) (options : VendorHidOptions)
    (ctx : VendorHidProtocolCtx) (reports : List Report) : Prop :=
  ∀ stale,
    ActsAlike options (contextAfter geometry options ctx reports)
      (contextAfter geometry options (withStale ctx stale) reports)

theorem actsAlike_of_completed
    {first second : VendorHidProtocolCtx} {buffer stale : Memory}
    {announced : Nat}
    (completed :
      Completed options buffer stale announced first second)
    (enough : requestLength options first.currentResponse ≤ announced) :
    ActsAlike options first second := by
  have agree := completed.carried.mono enough
  have dispatched : second.currentResponse = first.currentResponse := by
    rw [completed.response, completed.responseCopy]
    exact
      congrArg (responseFor options) (agree 0 (requestLength_pos options _))
  constructor
  · rw [completed.busy, completed.busyCopy]
  · exact dispatched
  · intro Device services device
    exact serviceCalls_congr services device dispatched agree

/--
A request type byte that was not carried is dispatched in different ways from
different buffers.
-/
theorem carried_pos
    {first : VendorHidProtocolCtx} {buffer : Memory} {announced : Nat}
    {copy : Memory → VendorHidProtocolCtx}
    (completed :
      ∀ stale, Completed options buffer stale announced first (copy stale))
    (alike : ∀ stale, ActsAlike options first (copy stale)) :
    0 < announced := by
  by_contra nothing
  have selects :
      ∀ stale : Memory,
        first.currentResponse = responseFor options (stale 0) := by
    intro stale
    have same := (alike stale).dispatched
    rw [(completed stale).responseCopy, requestedResponse,
      ((completed stale).beyond 0 (by omega)).2] at same
    exact same.symm
  have features : first.currentResponse = .getFeatures :=
    selects fun _ => 0
  have values : first.currentResponse = .getValues := selects fun _ => 1
  rw [features] at values
  cases values

/-- A byte different from the given one. -/
theorem exists_ne_byte (byte : UInt8) : ∃ other : UInt8, other ≠ byte := by
  by_cases zero : byte = 0
  · exact ⟨1, by simp [zero]⟩
  · exact ⟨0, fun same => zero same.symm⟩

/-- The contexts act alike from all buffers only if all is carried. -/
theorem requestLength_le_of_actsAlike
    {first : VendorHidProtocolCtx} {buffer : Memory} {announced : Nat}
    {copy : Memory → VendorHidProtocolCtx}
    (completed :
      ∀ stale, Completed options buffer stale announced first (copy stale))
    (alike : ∀ stale, ActsAlike options first (copy stale)) :
    requestLength options first.currentResponse ≤ announced := by
  have carried := carried_pos completed alike
  by_contra short
  let position := requestLength options first.currentResponse - 1
  have beyond : announced ≤ position := by omega
  have more : 1 < requestLength options first.currentResponse := by omega
  rcases exists_ne_byte (first.rxBuffer position) with ⟨other, differs⟩
  let stale : Memory := fun _ => other
  apply serviceCalls_differ (alike stale).dispatched more
  · change (copy stale).rxBuffer position ≠ first.rxBuffer position
    rw [((completed stale).beyond position beyond).2]
    exact differs
  · exact (alike stale).calls scriptedServices ()

/-- In terms of the response the parser has chosen. -/
theorem carriedOnly_iff_response
    (idle : IdleContext options ctx)
    (submitted :
      (vendorHidProtocolParse geometry options
          (contextAfter geometry options ctx before) last).submitted =
        true) :
    CarriedOnly geometry options ctx (before ++ [last]) ↔
      requestLength options
          (contextAfter geometry options ctx
            (before ++ [last])).currentResponse ≤
        (packetAt last.data).header.totalLen.toNat := by
  constructor
  · exact
      requestLength_le_of_actsAlike fun stale =>
        completed_of_submitted idle stale submitted
  · intro enough stale
    exact
      actsAlike_of_completed (completed_of_submitted idle stale submitted)
        enough

/-! ## The request type that was carried -/

/-- The packets of the reports the parser hands to its receiver. -/
def lookedAt (reports : List Report) : List YkbProtocolPacket :=
  (reports.filter fun report => decide (headerSize ≤ report.len)).map
    fun report => packetAt report.data

theorem lookedAt_append_short
    (short : last.len < headerSize) :
    lookedAt (before ++ [last]) = lookedAt before := by
  simp [lookedAt, short]

theorem lookedAt_append_long
    (long : headerSize ≤ last.len) :
    lookedAt (before ++ [last]) =
      lookedAt before ++ [packetAt last.data] := by
  simp [lookedAt, long]

/-- A free context lets every report pass that holds a header. -/
theorem parseGuard_iff (free : ctx.busy = false) :
    parseGuard ctx last = none ↔ headerSize ≤ last.len := by
  rw [parseGuard, if_neg (by simp [free])]
  split_ifs with short
  · simp [short]
  · simp [Nat.not_lt.mp short]

/-- What an idle context has looked at decides the first byte it has. -/
theorem openingInvariant_of_free
    (idle : IdleContext options ctx)
    {header : YkbProtocolHeader} (fits : header.totalLen ≤ ctx.rx.capacity)
    (free : (contextAfter geometry options ctx before).busy = false) :
    ∃ stored,
      OpeningInvariant geometry header (lookedAt before)
        (contextAfter geometry options ctx before).rx stored := by
  induction before using List.reverseRecOn with
  | nil =>
      exact
        ⟨∅, .start idle.resting idle.configuration.allowOutOfOrder fits⟩
  | append_singleton before report induction =>
      rw [contextAfter_append] at free ⊢
      rcases pending_of_free free with ⟨freeBefore, _⟩
      rcases induction freeBefore with ⟨stored, invariant⟩
      cases looked :
          parseGuard (contextAfter geometry options ctx before) report with
      | some returned =>
          have short : report.len < headerSize := by
            by_contra long
            rw [(parseGuard_iff freeBefore).mpr (Nat.not_lt.mp long)]
              at looked
            cases looked
          rw [parse_guarded looked, lookedAt_append_short short]
          exact ⟨stored, invariant⟩
      | none =>
          have pushed :
              (vendorHidProtocolParse geometry options
                    (contextAfter geometry options ctx before)
                    report).ctx.rx =
                (parsePush geometry
                  (contextAfter geometry options ctx before)
                  report).state := by
            rw [parse_unguarded looked]
            split_ifs <;> rfl
          rw [pushed,
            lookedAt_append_long ((parseGuard_iff freeBefore).mp looked)]
          exact invariant.push (packetAt report.data)

/-- A request that was completed fitted the buffer. -/
theorem totalLen_le_of_submitted
    (idle : IdleContext options ctx)
    (submitted :
      (vendorHidProtocolParse geometry options
          (contextAfter geometry options ctx before) last).submitted =
        true) :
    (packetAt last.data).header.totalLen ≤ ctx.rx.capacity := by
  rcases
      alikeContexts_of_free idle Memory.zero
        (free_of_submitted submitted) with
    ⟨observed, alike⟩
  have complete := (submitted_iff.mp submitted).2
  rw [parsePush, alike.observes] at complete
  have sound := alike.runs.sound
  have after := sound.push (packetAt last.data)
  have length := push_complete_totalLen sound.describes complete
  have bound := (counters_le after.describes).2.2
  rw [after.configuration.capacity] at bound
  exact length ▸ bound

/-- The byte dispatched on is the first one the transfer carried. -/
theorem openingByte_of_submitted
    (idle : IdleContext options ctx)
    (submitted :
      (vendorHidProtocolParse geometry options
          (contextAfter geometry options ctx before) last).submitted =
        true)
    (nonempty : 0 < (packetAt last.data).header.totalLen.toNat) :
    openingByte geometry (packetAt last.data).header
        (lookedAt (before ++ [last])) =
      some
        ((contextAfter geometry options ctx (before ++ [last])).rxBuffer
          0) := by
  have free := free_of_submitted submitted
  rcases submitted_iff.mp submitted with ⟨looked, complete⟩
  rcases
      openingInvariant_of_free idle
        (totalLen_le_of_submitted idle submitted) free with
    ⟨stored, invariant⟩
  rcases invariant.push (packetAt last.data) with ⟨next, after⟩
  rw [lookedAt_append_long ((parseGuard_iff free).mp looked),
    contextAfter_append, parse_submitted submitted]
  exact
    after.first_byte
      (push_complete_sameTransfer invariant.describes complete)
      (push_complete invariant.describes complete) nonempty

/-! ## Requests of one packet -/

theorem idleContext_init (options : VendorHidOptions) :
    IdleContext options (vendorHidProtocolInit options) :=
  ⟨rfl, idle_rxInit _ _ _ _ _, .refl _⟩

/-- The full-size report of the first packet of a transfer. -/
def firstReport (geometry : PacketGeometry) (transfer : Transfer) : Report :=
  reportOf (transfer.packet geometry 0) geometry.maxPacketSize

/-- A fresh context is completed by the packet of a one-packet request. -/
theorem parse_firstReport
    {transfer : Transfer}
    (single : transfer.count geometry = 1)
    (fits : transfer.totalLen.toNat ≤ options.rxBufferSize)
    (nonempty : 0 < transfer.totalLen.toNat) :
    (vendorHidProtocolParse geometry options
            (vendorHidProtocolInit options)
            (firstReport geometry transfer)).submitted =
        true ∧
      (vendorHidProtocolParse geometry options
            (vendorHidProtocolInit options)
            (firstReport geometry transfer)).ctx.currentResponse =
        responseFor options (transfer.data 0) := by
  have within := transfer.count_pos geometry
  have room :
      RoomFor geometry transfer (vendorHidProtocolInit options).rx :=
    (ready_start ()).room fits
  have advances :=
    push_first within (rfl : (vendorHidProtocolInit options).rx.active = _)
      room fun _ => rfl
  have completed := advances.result
  rw [if_pos (by simp [single])] at completed
  have parsed :=
    parse_complete options
      (rfl : (vendorHidProtocolInit options).busy = false)
      (reportOf_carries (Transfer.packet_headerValid within)) completed
  have payload :=
    advances.receiving.payload_of_full (by simp [single])
  rw [advances.receiving.totalLen, Transfer.payload] at payload
  have bytes := Memory.readBlock_eq_iff.mp payload 0 nonempty
  rw [firstReport, parsed]
  exact ⟨rfl, congrArg (responseFor options) bytes⟩

/--
A completed request acts on nothing but the bytes it carried if and only if
it is at least as long as what the handler reads for its request type.
-/
theorem acts_on_carried_bytes_iff
    (geometry : PacketGeometry) (options : VendorHidOptions)
    (ctx : VendorHidProtocolCtx) (before : List Report) (last : Report)
    (idle : IdleContext options ctx)
    (submitted :
      (vendorHidProtocolParse geometry options
          (contextAfter geometry options ctx before) last).submitted =
        true) :
    CarriedOnly geometry options ctx (before ++ [last]) ↔
      ∃ requestType,
        openingByte geometry (packetAt last.data).header
              (lookedAt (before ++ [last])) =
            some requestType ∧
          requestLength options (responseFor options requestType) ≤
            (packetAt last.data).header.totalLen.toNat := by
  have response :=
    (completed_of_submitted idle Memory.zero submitted).response
  rw [carriedOnly_iff_response idle submitted, response]
  constructor
  · intro enough
    have nonempty := (requestLength_pos options _).trans_le enough
    exact ⟨_, openingByte_of_submitted idle submitted nonempty, enough⟩
  · rintro ⟨requestType, carried, enough⟩
    have nonempty := (requestLength_pos options _).trans_le enough
    rw [openingByte_of_submitted idle submitted nonempty] at carried
    cases carried
    exact enough

end Sequences

/-- A SET_SETTINGS request with its four bytes of settings. -/
def carriedSettings : Transfer :=
  plainTransfer (Memory.ofList [3, 10, 20, 30, 40]) 5

/-- The report of one of its two packets. -/
def carriedSettingsReport (index : Nat) : Report :=
  reportOf (carriedSettings.packet threeByteGeometry index) 14

/-- The settings it carries are applied, whatever is left in the buffer. -/
theorem carried_settings_applied :
    CarriedOnly threeByteGeometry fourByteOptions
        (vendorHidProtocolInit fourByteOptions)
        ([carriedSettingsReport 0] ++ [carriedSettingsReport 1]) ∧
      ∀ stale,
        serviceCalls fourByteOptions idleServices ()
            (contextAfter threeByteGeometry fourByteOptions
              (withStale (vendorHidProtocolInit fourByteOptions) stale)
              ([carriedSettingsReport 0] ++ [carriedSettingsReport 1])) =
          [.kbSettingsApply [10, 20, 30, 40]] := by
  have carried :=
    (acts_on_carried_bytes_iff threeByteGeometry fourByteOptions
      (vendorHidProtocolInit fourByteOptions) [carriedSettingsReport 0]
      (carriedSettingsReport 1) (idleContext_init fourByteOptions)
      (by decide +kernel)).mpr ⟨3, by decide +kernel, by decide +kernel⟩
  have response :
      (contextAfter threeByteGeometry fourByteOptions
          (vendorHidProtocolInit fourByteOptions)
          ([carriedSettingsReport 0] ++
            [carriedSettingsReport 1])).currentResponse =
        .setSettingsOk := by
    decide +kernel
  have settings :
      (requestData
          (contextAfter threeByteGeometry fourByteOptions
            (vendorHidProtocolInit fourByteOptions)
            ([carriedSettingsReport 0] ++
              [carriedSettingsReport 1]))).readBlock 0 4 =
        [10, 20, 30, 40] := by
    decide +kernel
  refine ⟨carried, fun stale => ?_⟩
  rw [(carried stale).calls idleServices (), serviceCalls, response]
  exact congrArg (fun bytes => [ServiceCall.kbSettingsApply bytes]) settings

/-- A SET_SETTINGS request which carries its type byte and no settings. -/
def bareSetSettings : Transfer :=
  plainTransfer (Memory.ofList [3]) 1

/-- It applies whatever the buffer held before. -/
theorem bare_set_settings_applies_stale_bytes :
    ¬ ∀ (ctx : VendorHidProtocolCtx) (before : List Report)
        (last : Report),
      IdleContext plainOptions ctx →
        (vendorHidProtocolParse usbGeometry plainOptions
              (contextAfter usbGeometry plainOptions ctx before)
              last).submitted =
            true →
          CarriedOnly usbGeometry plainOptions ctx (before ++ [last]) := by
  intro always
  have parsed :=
    @parse_firstReport usbGeometry plainOptions bareSetSettings
      (by decide) (by decide) (by decide)
  have idle := idleContext_init plainOptions
  have alike :=
    always (vendorHidProtocolInit plainOptions) []
      (firstReport usbGeometry bareSetSettings) idle parsed.1
  have needs :=
    (@carriedOnly_iff_response usbGeometry plainOptions
        (vendorHidProtocolInit plainOptions) []
        (firstReport usbGeometry bareSetSettings) idle parsed.1).mp
      alike
  have response :
      (contextAfter usbGeometry plainOptions
          (vendorHidProtocolInit plainOptions)
          ([] ++ [firstReport usbGeometry bareSetSettings])).currentResponse =
        .setSettingsOk := by
    rw [contextAfter_append, contextAfter_nil, parsed.2]
    rfl
  have length :
      (packetAt
          (firstReport usbGeometry
            bareSetSettings).data).header.totalLen.toNat = 1 := by
    rw [firstReport, packetAt_reportOf]
    rfl
  rw [response, length] at needs
  change 1 + 512 ≤ 1 at needs
  omega

end YkbFirmware.VendorHid.CarriedBytes
