import YkbFirmware.Library.TransitionSystem
import YkbFirmware.SplitLink.ReceiveSlot
import YkbFirmware.SplitLink.TransmitSlot

/-!
# One direction of the link

The transmitting slots of one half, the receiving slots of the other half, and
a link which may deliver any packet ever put on it, any number of times, in any
order, or never.  Connecting and disconnecting touch neither kind of slot.

Three fields are history.  `sent` lists the packets put on the link, each with
the transfer it was built from, `opened` names the transfer whose packet last
reached a slot while it was EMPTY, and `messages` lists what the work handlers
handed to the consumers.
-/

namespace YkbFirmware.SplitLink.Link

open YkbFirmware.Library.ByteMemory
open YkbFirmware.Library.TransitionSystem
open YkbFirmware.Protocol.Wire
open YkbFirmware.Protocol.Sender
open YkbFirmware.Protocol.Receiver
open YkbFirmware.SplitLink.Slots
open YkbFirmware.SplitLink.TransmitSlot
open YkbFirmware.SplitLink.ReceiveSlot

/-- A packet put on the link. -/
structure SentFrame where
  name : SlotName
  transfer : Transfer
  bytes : List UInt8

structure LinkState where
  tx : SlotName → TxSide
  rx : SlotName → RxSlot
  connected : Bool
  sent : List SentFrame
  opened : SlotName → Option Transfer
  messages : List (SlotName × List UInt8)

def LinkState.initial : LinkState where
  tx := fun _ => .initial
  rx := fun _ => .initial
  connected := false
  sent := []
  opened := fun _ => none
  messages := []

inductive LinkEvent where
  /-- The send function of the slot; `count` is that of the values. -/
  | send (name : SlotName) (data : Memory) (count : UInt16)
  /-- `tx_slot_work_handler`; `kick` is for the script slot. -/
  | transmit (name : SlotName) (result : SendResult) (kick : Option Memory)
  /-- The packet at `position` of `sent` reaches the other half. -/
  | deliver (position : Nat)
  /-- `rx_slot_work_handler` begins. -/
  | process (name : SlotName)
  /-- `rx_slot_work_handler` hands its message over and ends. -/
  | handOver (name : SlotName)
  | connect
  | disconnect

/-- The send function of each slot. -/
def sendOn
    (options : SplitlinkOptions) (connected : Bool) (name : SlotName)
    (data : Memory) (count : UInt16) (side : TxSide) : TxSide :=
  match name with
  | .values => splitlinkSyncSendValues options connected data count side
  | .battery => splitlinkSyncSendBatteryState options connected data side
  | .settings =>
      { side with
        slot := splitlinkSyncSendSettings options connected data side.slot }
  | .scriptsManifest =>
      { side with
        slot :=
          splitlinkSyncSendScriptsManifest options connected data side.slot }
  | .scriptSlot =>
      { side with
        slot := splitlinkSyncSendScriptSlot options connected data side.slot }
  | .scriptsRequest =>
      { side with
        slot :=
          splitlinkSyncRequestScripts options connected data side.slot }

/-- The whole of `tx_slot_work_handler`, with what it put on the link. -/
def transmitOn
    (options : SplitlinkOptions) (connected : Bool) (name : SlotName)
    (result : SendResult) (kick : Option Memory) (side : TxSide) :
    TxSide × List SentFrame :=
  let worked :=
    txSlotWorkHandler options { side.slot with scheduled := false } result
  let handled := { side with slot := worked.slot }
  (if worked.out then
      txSlotOut options name connected kick handled
    else
      handled,
    worked.sent.toList.map fun bytes =>
      ⟨name, transferOf name side.slot, bytes⟩)

/-- The other half receives a packet. -/
def LinkState.deliver
    (options : SplitlinkOptions) (receiver : SyncRole)
    (state : LinkState) (frame : SentFrame) : LinkState :=
  { state with
    rx :=
      splitlinkSyncProtocolOnReceive options receiver state.rx frame.bytes
    opened :=
      if (state.rx frame.name).state = .empty then
        Function.update state.opened frame.name (some frame.transfer)
      else
        state.opened }

def linkStep
    (options : SplitlinkOptions) (receiver : SyncRole) (state : LinkState) :
    LinkEvent → Option LinkState
  | .send name data count =>
      if receiver.receives name then
        some
          { state with
            tx :=
              Function.update state.tx name
                (sendOn options state.connected name data count
                  (state.tx name)) }
      else
        none
  | .transmit name result kick =>
      if (state.tx name).slot.scheduled then
        let transmitted :=
          transmitOn options state.connected name result kick (state.tx name)
        some
          { state with
            tx := Function.update state.tx name transmitted.1
            sent := state.sent ++ transmitted.2 }
      else
        none
  | .deliver position =>
      state.sent[position]?.map (state.deliver options receiver)
  | .process name =>
      if (state.rx name).submitted then
        some
          { state with
            rx :=
              Function.update state.rx name
                (rxSlotWorkStart (state.rx name)) }
      else
        none
  | .handOver name =>
      if (state.rx name).state = .processing then
        some
          { state with
            rx :=
              Function.update state.rx name
                (rxSlotWorkFinish (state.rx name))
            messages :=
              state.messages ++
                [(name, handedMessage options name (state.rx name))] }
      else
        none
  | .connect => some { state with connected := true }
  | .disconnect => some { state with connected := false }

/-! ## Transmitting slots -/

variable
    {options : SplitlinkOptions} {receiver : SyncRole} {name : SlotName}

/-- A busy slot is in the middle of a transfer of a message. -/
def SlotIntact
    (options : SplitlinkOptions) (name : SlotName) (slot : TxSlot) : Prop :=
  slot.state = .transceiving →
    MessageLength options name slot.tx.totalLen ∧
      ∃ index, Transmits options name slot index

structure TxIntact
    (options : SplitlinkOptions) (name : SlotName) (side : TxSide) : Prop where
  slot : SlotIntact options name side.slot
  pending :
    side.pending.ready = true →
      MessageLength options name side.pending.length

theorem startTransfer_intact
    {slot : TxSlot} {data : Memory} {dataLen : UInt16}
    (length : MessageLength options name dataLen) :
    SlotIntact options name (startTransfer options name slot data dataLen) :=
  fun _ => ⟨length, 0, startTransfer_transmits options name slot data dataLen⟩

theorem beginTransfer_intact
    {slot : TxSlot} {data : Memory} {dataLen : UInt16}
    (intact : SlotIntact options name slot)
    (length : MessageLength options name dataLen) :
    SlotIntact options name
      ((txSlotBeginTransfer options name slot data dataLen).getD slot) := by
  rw [txSlotBeginTransfer]
  split_ifs
  · exact intact
  · exact intact
  · exact startTransfer_intact length

theorem sendOrLogBusy_intact
    {connected : Bool} {slot : TxSlot} {data : Memory}
    (intact : SlotIntact options name slot)
    (length : MessageLength options name (options.maxDataLength name)) :
    SlotIntact options name
      (sendOrLogBusy options name connected data slot) := by
  rw [sendOrLogBusy, txSlotBeginTransferOrLogBusy]
  split_ifs
  · exact intact
  · exact intact
  · exact beginTransfer_intact intact length

/-- The two bytes of a value are never torn apart by the size. -/
theorem valuesSize_even (count : UInt16) :
    2 ∣ (UInt16.ofNat (count.toNat * 2)).toNat := by
  rw [UInt16.toNat_ofNat']
  omega

theorem sendOn_intact
    {connected : Bool} {data : Memory} {count : UInt16} {side : TxSide}
    (intact : TxIntact options name side) :
    TxIntact options name
      (sendOn options connected name data count side) := by
  cases name with
  | values =>
      have even : MessageLength options .values
          (UInt16.ofNat (count.toNat * 2)) :=
        valuesSize_even count
      rw [sendOn, splitlinkSyncSendValues]
      dsimp only
      split_ifs
      · exact intact
      · exact intact
      · exact intact
      · exact ⟨intact.slot, fun _ => even⟩
      · exact ⟨beginTransfer_intact intact.slot even, intact.pending⟩
  | battery =>
      rw [sendOn, splitlinkSyncSendBatteryState]
      split_ifs
      · exact intact
      · exact ⟨intact.slot, fun _ => rfl⟩
      · exact ⟨beginTransfer_intact intact.slot rfl, intact.pending⟩
  | settings | scriptsManifest | scriptsRequest | scriptSlot =>
      exact ⟨sendOrLogBusy_intact intact.slot rfl, intact.pending⟩

theorem txSlotOut_intact
    {connected : Bool} {kick : Option Memory} {side : TxSide}
    (intact : TxIntact options name side) :
    TxIntact options name
      (txSlotOut options name connected kick side) := by
  cases name with
  | values =>
      rw [txSlotOut]
      split_ifs with resumes
      · exact
          ⟨startTransfer_intact (intact.pending resumes.1),
            fun ready => absurd ready (by simp)⟩
      · exact intact
  | battery =>
      rw [txSlotOut]
      split_ifs
      · exact
          ⟨beginTransfer_intact intact.slot rfl,
            fun ready => absurd ready (by simp)⟩
      · exact intact
  | scriptSlot =>
      refine ⟨?_, intact.pending⟩
      change SlotIntact options .scriptSlot
        (scriptSlotSyncKickLocked options connected kick side.slot)
      cases kick with
      | none =>
          rw [scriptSlotSyncKickLocked, ite_self]
          exact intact.slot
      | some data =>
          rw [scriptSlotSyncKickLocked]
          split_ifs
          · exact intact.slot
          · exact beginTransfer_intact intact.slot rfl
  | settings | scriptsManifest | scriptsRequest => exact intact

/-- The frame is a packet of a message the slot sends. -/
structure FrameIntact
    (options : SplitlinkOptions) (frame : SentFrame) : Prop where
  id : frame.transfer.transferId = frame.name.id
  length : MessageLength options frame.name frame.transfer.totalLen
  isPacket :
    ∃ index < frame.transfer.count options.geometry,
      frame.bytes = frameAt options.geometry frame.transfer index

theorem messageLength_congr
    {slot next : TxSlot}
    (transfer : transferOf name next = transferOf name slot)
    (length : MessageLength options name slot.tx.totalLen) :
    MessageLength options name next.tx.totalLen := by
  have same : next.tx.totalLen = slot.tx.totalLen :=
    congrArg Transfer.totalLen transfer
  rwa [same]

/-- A run of the handler up to `out` keeps its slot intact. -/
theorem workStep_intact
    {slot : TxSlot} {index : Nat} {result : SendResult}
    {outcome : TxWorkOutcome}
    (length : MessageLength options name slot.tx.totalLen)
    (within : index < (transferOf name slot).count options.geometry)
    (step : WorkStep options name slot index result outcome) :
    SlotIntact options name outcome.slot ∧
      ∀ bytes ∈ outcome.sent,
        FrameIntact options ⟨name, transferOf name slot, bytes⟩ := by
  have isFrame :
      FrameIntact options
        ⟨name, transferOf name slot,
          frameAt options.geometry (transferOf name slot) index⟩ :=
    ⟨rfl, length, index, within, rfl⟩
  cases step with
  | kept retried transmits transfer =>
      refine
        ⟨fun _ => ⟨messageLength_congr transfer length, index, transmits⟩,
          fun bytes none => ?_⟩
      cases none
  | dropped empty =>
      refine ⟨fun busy => ?_, fun bytes none => ?_⟩
      · rw [empty] at busy
        cases busy
      · cases none
  | advanced transmits transfer =>
      refine
        ⟨fun _ =>
          ⟨messageLength_congr transfer length, index + 1, transmits⟩,
          fun bytes some => ?_⟩
      cases some
      exact isFrame
  | finished last empty =>
      refine ⟨fun busy => ?_, fun bytes some => ?_⟩
      · rw [empty] at busy
        cases busy
      · cases some
        exact isFrame

theorem transmitOn_intact
    {connected : Bool} {result : SendResult} {kick : Option Memory}
    {side : TxSide} (intact : TxIntact options name side) :
    TxIntact options name
        (transmitOn options connected name result kick side).1 ∧
      ∀ frame ∈ (transmitOn options connected name result kick side).2,
        FrameIntact options frame ∧ frame.name = name := by
  have worked :
      SlotIntact options name
          (txSlotWorkHandler options { side.slot with scheduled := false }
            result).slot ∧
        ∀ bytes ∈
            (txSlotWorkHandler options { side.slot with scheduled := false }
              result).sent,
          FrameIntact options ⟨name, transferOf name side.slot, bytes⟩ := by
    cases busy : side.slot.state with
    | empty =>
        rw [txSlotWorkHandler_empty (by exact busy)]
        refine ⟨fun transceiving => ?_, fun bytes none => ?_⟩
        · exact absurd (busy.symm.trans transceiving) (by decide)
        · cases none
    | transceiving =>
        rcases intact.slot busy with ⟨length, index, transmits⟩
        have running :
            Transmits options name { side.slot with scheduled := false }
              index :=
          ⟨transmits.state, transmits.within, transmits.position⟩
        exact
          @workStep_intact options name { side.slot with scheduled := false }
            index result _ length transmits.within
            (txSlotWorkHandler_step running result)
  have handled :
      TxIntact options name
        { side with
          slot :=
            (txSlotWorkHandler options
              { side.slot with scheduled := false } result).slot } :=
    ⟨worked.1, intact.pending⟩
  constructor
  · rw [transmitOn]
    dsimp only
    split_ifs
    · exact txSlotOut_intact handled
    · exact handled
  · intro frame member
    rcases List.mem_map.mp member with ⟨bytes, sent, rfl⟩
    exact ⟨worked.2 bytes (Option.mem_toList.mp sent), rfl⟩

/-! ## Receiving slots -/

/-- The slot put a packet of the transfer on the link. -/
def SentOn (sent : List SentFrame) (name : SlotName) (transfer : Transfer) :
    Prop :=
  ∃ frame ∈ sent, frame.name = name ∧ frame.transfer = transfer

theorem SentOn.append
    {sent : List SentFrame} {transfer : Transfer}
    (old : SentOn sent name transfer) (more : List SentFrame) :
    SentOn (sent ++ more) name transfer := by
  rcases old with ⟨frame, member, facts⟩
  exact ⟨frame, List.mem_append_left more member, facts⟩

/-- A slot in use assembles the transfer which opened it. -/
structure RxIntact
    (options : SplitlinkOptions) (sent : List SentFrame) (name : SlotName)
    (slot : RxSlot) (opened : Option Transfer) : Prop where
  submitted : slot.submitted = true → slot.state = .ready
  assembling :
    slot.state ≠ .empty →
      ∃ transfer,
        opened = some transfer ∧ SentOn sent name transfer ∧
          MessageLength options name transfer.totalLen ∧
            Assembling options.geometry slot transfer

theorem RxIntact.append
    {sent : List SentFrame} {slot : RxSlot} {opened : Option Transfer}
    (intact : RxIntact options sent name slot opened)
    (more : List SentFrame) :
    RxIntact options (sent ++ more) name slot opened := by
  refine ⟨intact.submitted, fun used => ?_⟩
  rcases intact.assembling used with ⟨transfer, isOpened, old, facts⟩
  exact ⟨transfer, isOpened, old.append more, facts⟩

/-- A frame reaches the slot it was sent on, as the packet it was made from. -/
theorem onReceive_frame
    {slots : SlotName → RxSlot} {frame : SentFrame}
    (intact : FrameIntact options frame)
    (receives : receiver.receives frame.name = true) :
    splitlinkSyncProtocolOnReceive options receiver slots frame.bytes =
      Function.update slots frame.name
        (receiveOnSlot options frame.name (slots frame.name)
          (packetAt (Memory.ofList frame.bytes))) := by
  rcases intact.isPacket with ⟨index, within, bytes⟩
  have length : frame.bytes.length ≥ headerSize := by
    rw [bytes, frameAt_length]
    exact Nat.le_add_right _ _
  have short : frame.bytes.length ≤ options.geometry.maxPacketSize := by
    rw [bytes]
    exact frameAt_length_le
  have id :
      (packetAt (Memory.ofList frame.bytes)).header.transferId =
        frame.name.id := by
    rw [bytes, packetAt_frameAt]
    exact intact.id
  have positive : 0 < headerSize := by decide
  rw [splitlinkSyncProtocolOnReceive, if_neg (by omega), if_neg (by omega)]
  dsimp only
  rw [id, slotOfId_id]
  exact if_pos receives

theorem pushReceived_submitted
    {slot : RxSlot} {packet : YkbProtocolPacket}
    (unsubmitted : slot.submitted = false)
    (submitted : (pushReceived options slot packet).submitted = true) :
    (pushReceived options slot packet).state = .ready := by
  rw [pushReceived] at submitted ⊢
  split_ifs at submitted ⊢
  · exact absurd submitted (by simp [unsubmitted])
  · rfl
  · exact absurd submitted (by simp [unsubmitted])

theorem receiveOnSlot_submitted
    {slot : RxSlot} {packet : YkbProtocolPacket}
    (before : slot.submitted = true → slot.state = .ready)
    (submitted : (receiveOnSlot options name slot packet).submitted = true) :
    (receiveOnSlot options name slot packet).state = .ready := by
  have unsubmitted : slot.state ≠ .ready → slot.submitted = false :=
    fun notReady => Bool.eq_false_iff.mpr (notReady ∘ before)
  cases state : slot.state with
  | empty =>
      rw [receiveOnSlot, state] at submitted ⊢
      exact pushReceived_submitted (unsubmitted (by simp [state])) submitted
  | receiving =>
      rw [receiveOnSlot, state] at submitted ⊢
      exact pushReceived_submitted (unsubmitted (by simp [state])) submitted
  | ready | processing =>
      rw [receiveOnSlot_busy (by simp [state])] at submitted ⊢
      exact before submitted

/--
A packet which a RECEIVING slot stores is a packet of the transfer whose
packet opened the slot.
-/
def Unmixed (options : SplitlinkOptions) (state : LinkState) :
    LinkEvent → Prop
  | .deliver position =>
      ∀ frame, state.sent[position]? = some frame →
        ∀ transfer, state.opened frame.name = some transfer →
          let packet := packetAt (Memory.ofList frame.bytes)
          Stores (state.rx frame.name) packet →
            packet =
              transfer.packet options.geometry packet.header.packetIdx.toNat
  | _ => True

/-- One packet keeps its slot intact. -/
theorem receiveOnSlot_intact
    {sent : List SentFrame} {frame : SentFrame} {slot : RxSlot}
    {opened : Option Transfer}
    (intact : RxIntact options sent frame.name slot opened)
    (frameIntact : FrameIntact options frame)
    (member : frame ∈ sent)
    (unmixed :
      ∀ transfer, opened = some transfer →
        Stores slot (packetAt (Memory.ofList frame.bytes)) →
          packetAt (Memory.ofList frame.bytes) =
            transfer.packet options.geometry
              (packetAt
                (Memory.ofList frame.bytes)).header.packetIdx.toNat) :
    RxIntact options sent frame.name
      (receiveOnSlot options frame.name slot
        (packetAt (Memory.ofList frame.bytes)))
      (if slot.state = .empty then some frame.transfer else opened) := by
  refine ⟨receiveOnSlot_submitted intact.submitted, fun used => ?_⟩
  cases state : slot.state with
  | empty =>
      rcases frameIntact.isPacket with ⟨index, within, bytes⟩
      rw [bytes, packetAt_frameAt] at used ⊢
      exact
        ⟨frame.transfer, if_pos rfl, ⟨frame, member, rfl, rfl⟩,
          frameIntact.length,
          (receiveOnSlot_empty state within).resolve_left used⟩
  | receiving =>
      rcases intact.assembling (by simp [state]) with
        ⟨transfer, isOpened, wasSent, length, assembling⟩
      refine ⟨transfer, isOpened, wasSent, length, ?_⟩
      cases assembling with
      | part _ receiving =>
          exact
            (receiveOnSlot_receiving state receiving
              (unmixed transfer isOpened)).resolve_left used
      | whole complete => simp [state] at complete
  | ready | processing =>
      rw [receiveOnSlot_busy (by simp [state])]
      exact intact.assembling (by simp [state])

/-! ## Runs -/

/-- What holds while no slot is opened by one transfer and fed another. -/
structure LinkIntact
    (options : SplitlinkOptions) (receiver : SyncRole) (state : LinkState) :
    Prop where
  sent :
    ∀ frame ∈ state.sent,
      FrameIntact options frame ∧ receiver.receives frame.name = true
  tx : ∀ name, TxIntact options name (state.tx name)
  silent :
    ∀ name, receiver.receives name = false →
      (state.tx name).slot.scheduled = false
  rx :
    ∀ name,
      RxIntact options state.sent name (state.rx name) (state.opened name)
  messages :
    ∀ message ∈ state.messages,
      ∃ transfer,
        SentOn state.sent message.1 transfer ∧
          message.2 = transfer.payload

theorem linkIntact_initial
    (options : SplitlinkOptions) (receiver : SyncRole) :
    LinkIntact options receiver .initial where
  sent := fun _ member => absurd member List.not_mem_nil
  tx := fun _ =>
    ⟨fun busy => (by cases busy), fun ready => (by cases ready)⟩
  silent := fun _ _ => rfl
  rx := fun _ =>
    ⟨fun submitted => (by cases submitted), fun used => absurd rfl used⟩
  messages := fun _ member => absurd member List.not_mem_nil

namespace LinkIntact

variable {state : LinkState}

theorem silent_update
    (intact : LinkIntact options receiver state)
    (receives : receiver.receives name = true) (side : TxSide) :
    ∀ other, receiver.receives other = false →
      (Function.update state.tx name side other).slot.scheduled = false := by
  intro other notReceived
  have different : other ≠ name := by
    rintro rfl
    rw [receives] at notReceived
    cases notReceived
  rw [Function.update_of_ne different]
  exact intact.silent other notReceived

theorem send
    (intact : LinkIntact options receiver state)
    (receives : receiver.receives name = true)
    (data : Memory) (count : UInt16) :
    LinkIntact options receiver
      { state with
        tx :=
          Function.update state.tx name
            (sendOn options state.connected name data count
              (state.tx name)) } where
  sent := intact.sent
  tx := by
    rw [Function.forall_update_iff state.tx (TxIntact options)]
    exact ⟨sendOn_intact (intact.tx name), fun other _ => intact.tx other⟩
  silent := intact.silent_update receives _
  rx := intact.rx
  messages := intact.messages

theorem transmit
    (intact : LinkIntact options receiver state)
    (scheduled : (state.tx name).slot.scheduled = true)
    (result : SendResult) (kick : Option Memory) :
    let transmitted :=
      transmitOn options state.connected name result kick (state.tx name)
    LinkIntact options receiver
      { state with
        tx := Function.update state.tx name transmitted.1
        sent := state.sent ++ transmitted.2 } := by
  have receives : receiver.receives name = true := by
    rw [← Bool.not_eq_false]
    intro notReceived
    rw [intact.silent name notReceived] at scheduled
    cases scheduled
  have kept :=
    @transmitOn_intact options name state.connected result kick _
      (intact.tx name)
  exact
    { sent := by
        intro frame member
        rcases List.mem_append.mp member with old | new
        · exact intact.sent frame old
        · have facts := kept.2 frame new
          exact ⟨facts.1, facts.2.symm ▸ receives⟩
      tx := by
        rw [Function.forall_update_iff state.tx (TxIntact options)]
        exact ⟨kept.1, fun other _ => intact.tx other⟩
      silent := intact.silent_update receives _
      rx := fun other => (intact.rx other).append _
      messages := by
        intro message member
        rcases intact.messages message member with ⟨transfer, old, payload⟩
        exact ⟨transfer, old.append _, payload⟩ }

theorem deliver
    (intact : LinkIntact options receiver state)
    {position : Nat} {frame : SentFrame}
    (found : state.sent[position]? = some frame)
    (unmixed : Unmixed options state (.deliver position)) :
    LinkIntact options receiver (state.deliver options receiver frame) where
  sent := intact.sent
  tx := intact.tx
  silent := intact.silent
  rx := by
    have member := List.mem_of_getElem? found
    have facts := intact.sent frame member
    have received :=
      receiveOnSlot_intact (intact.rx frame.name) facts.1 member
        (unmixed frame found)
    intro other
    rw [LinkState.deliver, onReceive_frame facts.1 facts.2]
    dsimp only
    by_cases same : other = frame.name
    · subst same
      rw [Function.update_self]
      split_ifs at received ⊢
      · rw [Function.update_self]
        exact received
      · exact received
    · rw [Function.update_of_ne same]
      split_ifs
      · rw [Function.update_of_ne same]
        exact intact.rx other
      · exact intact.rx other
  messages := intact.messages

theorem process
    (intact : LinkIntact options receiver state)
    (submitted : (state.rx name).submitted = true) :
    LinkIntact options receiver
      { state with
        rx :=
          Function.update state.rx name
            (rxSlotWorkStart (state.rx name)) } where
  sent := intact.sent
  tx := intact.tx
  silent := intact.silent
  rx := by
    intro other
    by_cases same : other = name
    · subst same
      have ready := (intact.rx other).submitted submitted
      rcases (intact.rx other).assembling (by simp [ready]) with
        ⟨transfer, isOpened, wasSent, length, assembling⟩
      dsimp only
      rw [Function.update_self]
      refine
        ⟨fun again => (by cases again), fun _ =>
          ⟨transfer, isOpened, wasSent, length, ?_⟩⟩
      cases assembling with
      | part receiving => simp [ready] at receiving
      | whole _ receiving => exact .whole (Or.inr rfl) receiving
    · dsimp only
      rw [Function.update_of_ne same]
      exact intact.rx other
  messages := intact.messages

theorem handOver
    (intact : LinkIntact options receiver state)
    (processing : (state.rx name).state = .processing) :
    LinkIntact options receiver
      { state with
        rx :=
          Function.update state.rx name
            (rxSlotWorkFinish (state.rx name))
        messages :=
          state.messages ++
            [(name, handedMessage options name (state.rx name))] } where
  sent := intact.sent
  tx := intact.tx
  silent := intact.silent
  rx := by
    intro other
    by_cases same : other = name
    · subst same
      have unsubmitted : (state.rx other).submitted ≠ true := fun submitted =>
        absurd (processing.symm.trans ((intact.rx other).submitted submitted))
          (by decide)
      dsimp only
      rw [Function.update_self]
      exact
        ⟨fun submitted => absurd submitted unsubmitted,
          fun used => absurd rfl used⟩
    · dsimp only
      rw [Function.update_of_ne same]
      exact intact.rx other
  messages := by
    intro message member
    rcases List.mem_append.mp member with old | new
    · exact intact.messages message old
    · rw [List.mem_singleton.mp new]
      rcases (intact.rx name).assembling (by simp [processing]) with
        ⟨transfer, _, wasSent, length, assembling⟩
      refine ⟨transfer, wasSent, ?_⟩
      cases assembling with
      | part receiving => simp [processing] at receiving
      | whole _ receiving => exact handedMessage_eq receiving length

end LinkIntact

/-- Every step that mixes no transfers keeps the link intact. -/
theorem linkIntact_step
    (state : LinkState) (event : LinkEvent) (next : LinkState)
    (intact : LinkIntact options receiver state)
    (unmixed : Unmixed options state event)
    (stepped : linkStep options receiver state event = some next) :
    LinkIntact options receiver next := by
  cases event with
  | send name data count =>
      rw [linkStep] at stepped
      split_ifs at stepped with receives
      cases stepped
      exact intact.send receives data count
  | transmit name result kick =>
      rw [linkStep] at stepped
      split_ifs at stepped with scheduled
      cases stepped
      exact intact.transmit scheduled result kick
  | deliver position =>
      rcases Option.map_eq_some_iff.mp stepped with ⟨frame, found, rfl⟩
      exact intact.deliver found unmixed
  | process name =>
      rw [linkStep] at stepped
      split_ifs at stepped with submitted
      cases stepped
      exact intact.process submitted
  | handOver name =>
      rw [linkStep] at stepped
      split_ifs at stepped with processing
      cases stepped
      exact intact.handOver processing
  | connect | disconnect =>
      cases stepped
      exact
        ⟨intact.sent, intact.tx, intact.silent, intact.rx, intact.messages⟩

end YkbFirmware.SplitLink.Link
