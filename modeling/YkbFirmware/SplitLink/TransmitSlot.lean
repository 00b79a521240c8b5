import YkbFirmware.SplitLink.Slots

/-!
# A slot transmitting a transfer

`Transmits options name slot transfer index` says that the slot is in the
middle of `transfer` and that the packet at `index` is the next one to reach
the link, whether it is already built or not.  One run of the work handler
either keeps the packet, or drops the transfer, or puts the packet on the link
and moves on; `WorkStep` lists these four outcomes.
-/

namespace YkbFirmware.SplitLink.TransmitSlot

open YkbFirmware.Library.ByteMemory
open YkbFirmware.Library.Segmentation
open YkbFirmware.Protocol.Wire
open YkbFirmware.Protocol.Sender
open YkbFirmware.SplitLink.Slots

/-! ## Frames -/

/-- A transfer of a slot: its id is the slot's, its type is DATA. -/
def slotTransfer (name : SlotName) (data : Memory) (length : UInt16) :
    Transfer where
  data := data
  totalLen := length
  transferId := name.id
  typeFlagsBase := YkbProtocolType.data.code
  isData := by decide

/-- The bytes of the packet at `index`, without the unused payload area. -/
def frameAt (geometry : PacketGeometry) (transfer : Transfer) (index : Nat) :
    List UInt8 :=
  (transfer.packet geometry index).bytes
    (headerSize + transfer.lengthAt geometry index)

/-- Transfers which agree on a segment have the same packet for it. -/
theorem slotTransfer_packet_congr
    {geometry : PacketGeometry} {name : SlotName} {first second : Memory}
    {length : UInt16} {index : Nat}
    (agree :
      ∀ position < (slotTransfer name first length).lengthAt geometry index,
        first (index * geometry.maxPayloadSize + position) =
          second (index * geometry.maxPayloadSize + position)) :
    (slotTransfer name first length).packet geometry index =
      (slotTransfer name second length).packet geometry index := by
  have payload :
      (slotTransfer name first length).payloadAt geometry index =
        (slotTransfer name second length).payloadAt geometry index :=
    Memory.writeBlock_congr agree
  rw [Transfer.packet, Transfer.packet, payload]
  rfl

section Frames

variable
    {geometry : PacketGeometry} {transfer : Transfer} {index : Nat}

theorem frameAt_eq :
    frameAt geometry transfer index =
      (transfer.packet geometry index).header.bytes ++
        (transfer.packet geometry index).payload.readBlock 0
          (transfer.lengthAt geometry index) := by
  rw [frameAt, YkbProtocolPacket.bytes, Nat.add_sub_cancel_left]
  apply List.take_of_length_le
  simp

@[simp]
theorem frameAt_length :
    (frameAt geometry transfer index).length =
      headerSize + transfer.lengthAt geometry index := by
  simp [frameAt_eq]

theorem frameAt_length_le :
    (frameAt geometry transfer index).length ≤ geometry.maxPacketSize := by
  have segment :
      transfer.lengthAt geometry index ≤ geometry.maxPayloadSize :=
    segmentLength_le_size _ _ _
  have fits := geometry.headerFits
  rw [PacketGeometry.maxPayloadSize] at segment
  rw [frameAt_length]
  omega

/-- Past its segment the payload area of a packet is zero. -/
theorem packet_payload_beyond
    {position : Nat}
    (beyond : transfer.lengthAt geometry index ≤ position) :
    (transfer.packet geometry index).payload position = 0 := by
  change transfer.payloadAt geometry index position = 0
  rw [Transfer.payloadAt, Memory.writeBlock_outside (by omega)]
  rfl

/-- A frame copied into a zeroed packet is the packet it was made from. -/
theorem packetAt_frameAt :
    packetAt (Memory.ofList (frameAt geometry transfer index)) =
      transfer.packet geometry index := by
  apply YkbProtocolPacket.ext
  · rw [frameAt_eq]
    simp [packetAt, Memory.ofList, YkbProtocolHeader.bytes]
  · funext position
    have split :
        (packetAt
            (Memory.ofList (frameAt geometry transfer index))).payload
              position =
          ((transfer.packet geometry index).payload.readBlock 0
            (transfer.lengthAt geometry index)).getD position 0 := by
      change
        (frameAt geometry transfer index).getD (headerSize + position) 0 = _
      rw [frameAt_eq, List.getD_append_right _ _ _ _ (by simp),
        headerBytes_length, Nat.add_sub_cancel_left]
    rw [split]
    by_cases inside : position < transfer.lengthAt geometry index
    · simp [Memory.readBlock, inside]
    · rw [packet_payload_beyond (Nat.le_of_not_lt inside)]
      simp [Memory.readBlock, inside]

end Frames

/-! ## A transfer in progress -/

theorem notBusy_iff {state : TxSlotState} :
    state ≠ .transceiving ↔ state = .empty := by
  cases state with
  | empty => exact ⟨fun _ => rfl, fun _ => TxSlotState.noConfusion⟩
  | transceiving =>
      exact ⟨fun idle => absurd rfl idle, fun impossible => nomatch impossible⟩

/-- The transfer the fields of a transmitting slot describe. -/
def transferOf (name : SlotName) (slot : TxSlot) : Transfer :=
  slotTransfer name (slot.tx.data.getD Memory.zero) slot.tx.totalLen

/-- The slot is about to put the packet at `index` on the link. -/
structure Transmits
    (options : SplitlinkOptions) (name : SlotName) (slot : TxSlot)
    (index : Nat) : Prop where
  state : slot.state = .transceiving
  within : index < (transferOf name slot).count options.geometry
  position :
    if slot.pendingPacketReady then
      slot.pendingPacket =
          (transferOf name slot).packet options.geometry index ∧
        slot.tx =
          (transferOf name slot).senderAt options.geometry (index + 1)
    else
      slot.tx = (transferOf name slot).senderAt options.geometry index

variable
    {options : SplitlinkOptions} {name : SlotName} {slot : TxSlot}
    {index : Nat}

/-- Starting a transfer puts its first packet next. -/
theorem startTransfer_transferOf
    (options : SplitlinkOptions) (name : SlotName)
    (slot : TxSlot) (data : Memory) (dataLen : UInt16) :
    transferOf name (startTransfer options name slot data dataLen) =
      slotTransfer name (slot.data.writeBlock 0 dataLen.toNat data)
        dataLen :=
  rfl

/-- The transfer carries the bytes handed to it, whatever was there before. -/
theorem startTransfer_payload
    (options : SplitlinkOptions) (name : SlotName)
    (slot : TxSlot) (data : Memory) (dataLen : UInt16) :
    (transferOf name
        (startTransfer options name slot data dataLen)).payload =
      data.readBlock 0 dataLen.toNat := by
  rw [startTransfer_transferOf]
  exact Memory.readBlock_writeBlock

theorem startTransfer_transmits
    (options : SplitlinkOptions) (name : SlotName)
    (slot : TxSlot) (data : Memory) (dataLen : UInt16) :
    Transmits options name
      (startTransfer options name slot data dataLen) 0 where
  state := rfl
  within := Transfer.count_pos _ _
  position := by
    rw [if_neg (by simp [startTransfer]), Transfer.senderAt_start]
    rfl

/-- A message sent on an EMPTY slot starts its transfer at once. -/
theorem sendOrLogBusy_empty
    (empty : slot.state = .empty) (data : Memory) :
    sendOrLogBusy options name true data slot =
      startTransfer options name slot data (options.maxDataLength name) := by
  have idle : ¬ slot.state = .transceiving := notBusy_iff.mpr empty
  have fits :
      ¬ options.maxDataLength name > options.maxDataLength name :=
    UInt16.lt_irrefl _
  rw [sendOrLogBusy, if_neg (by decide), txSlotBeginTransferOrLogBusy,
    if_neg idle, txSlotBeginTransfer, if_neg idle, if_neg fits,
    Option.getD_some]

/-- A message sent on a busy slot is dropped. -/
theorem sendOrLogBusy_busy
    (busy : slot.state = .transceiving) (connected : Bool) (data : Memory) :
    sendOrLogBusy options name connected data slot = slot := by
  rw [sendOrLogBusy, txSlotBeginTransferOrLogBusy, if_pos busy,
    Option.getD_none, ite_self]

/-- The outcomes of one run of the handler. -/
inductive WorkStep
    (options : SplitlinkOptions) (name : SlotName) (slot : TxSlot)
    (index : Nat) : SendResult → TxWorkOutcome → Prop where
  | kept {result : SendResult} {next : TxSlot}
      (retried : result = .enomem ∨ result = .eagain)
      (transmits : Transmits options name next index)
      (transfer : transferOf name next = transferOf name slot)
      (scheduled : next.scheduled = true) :
      WorkStep options name slot index result ⟨next, none, false⟩
  | dropped {next : TxSlot}
      (empty : next.state = .empty)
      (scheduled : next.scheduled = slot.scheduled) :
      WorkStep options name slot index .failed ⟨next, none, true⟩
  | advanced {next : TxSlot}
      (transmits : Transmits options name next (index + 1))
      (transfer : transferOf name next = transferOf name slot)
      (scheduled : next.scheduled = true) :
      WorkStep options name slot index .ok
        ⟨next,
          some (frameAt options.geometry (transferOf name slot) index),
          false⟩
  | finished {next : TxSlot}
      (last :
        index + 1 = (transferOf name slot).count options.geometry)
      (empty : next.state = .empty)
      (scheduled : next.scheduled = slot.scheduled) :
      WorkStep options name slot index .ok
        ⟨next,
          some (frameAt options.geometry (transferOf name slot) index),
          true⟩

theorem hasMore_senderAt
    {geometry : PacketGeometry} {transfer : Transfer} {position : Nat}
    (within : position ≤ transfer.count geometry) :
    ykbProtocolTxHasMore (transfer.senderAt geometry position) =
      decide (position < transfer.count geometry) := by
  have bound := transfer.count_le geometry
  rw [ykbProtocolTxHasMore, decide_eq_decide, UInt16.lt_iff_toNat_lt]
  change
    (UInt16.ofNat position).toNat < (transfer.packetCount geometry).toNat ↔ _
  rw [Transfer.packetCount_toNat, UInt16.toNat_ofNat',
    Nat.mod_eq_of_lt (by omega)]

/-- `packet_len` is the length of the frame. -/
theorem packetLen_toNat
    {transfer : Transfer} (within : index < transfer.count options.geometry) :
    (packetLen options.geometry
        (transfer.packet options.geometry index)).toNat =
      headerSize + transfer.lengthAt options.geometry index := by
  have segment :
      transfer.lengthAt options.geometry index ≤
        options.geometry.maxPayloadSize :=
    segmentLength_le_size _ _ _
  have fits := options.lengthFits
  have headerFits := options.geometry.headerFits
  rw [PacketGeometry.maxPayloadSize] at segment
  change
    (UInt16.ofNat headerSize +
        ykbProtocolPayloadLenForIndex options.geometry transfer.totalLen
          (UInt16.ofNat index)
          (transfer.packetCount options.geometry)).toNat = _
  rw [UInt16.toNat_add, Transfer.payloadLen_toNat within,
    UInt16.toNat_ofNat', Nat.mod_eq_of_lt (by decide : headerSize < 2 ^ 16),
    Nat.mod_eq_of_lt (by omega)]

/-- From a built packet on, the handler takes one of the listed steps. -/
theorem sendPendingPacket_step
    (transmits : Transmits options name slot index)
    (built : slot.pendingPacketReady = true) (result : SendResult) :
    WorkStep options name slot index result
      (sendPendingPacket options slot result) := by
  have position := transmits.position
  rw [if_pos built] at position
  cases result with
  | enomem =>
      exact .kept (Or.inl rfl)
        ⟨transmits.state, transmits.within, transmits.position⟩ rfl rfl
  | eagain =>
      exact .kept (Or.inr rfl)
        ⟨transmits.state, transmits.within, transmits.position⟩ rfl rfl
  | failed => exact .dropped rfl rfl
  | ok =>
      have sent :
          slot.pendingPacket.bytes
              (packetLen options.geometry slot.pendingPacket).toNat =
            frameAt options.geometry (transferOf name slot) index := by
        rw [position.1, packetLen_toNat transmits.within, frameAt]
      have more :
          ykbProtocolTxHasMore slot.tx =
            decide
              (index + 1 <
                (transferOf name slot).count options.geometry) := by
        rw [position.2]
        exact hasMore_senderAt transmits.within
      rw [sendPendingPacket]
      dsimp only
      rw [sent, more]
      by_cases further :
          index + 1 < (transferOf name slot).count options.geometry
      · rw [if_pos (decide_eq_true further)]
        exact .advanced ⟨transmits.state, further, position.2⟩ rfl rfl
      · rw [if_neg (by simpa using further)]
        exact
          .finished (Nat.le_antisymm transmits.within (Nat.not_lt.mp further))
            rfl rfl

/-- The slot after its next packet was built. -/
def withBuiltPacket
    (options : SplitlinkOptions) (name : SlotName) (slot : TxSlot)
    (index : Nat) : TxSlot :=
  { slot with
    tx := (transferOf name slot).senderAt options.geometry (index + 1)
    pendingPacket := (transferOf name slot).packet options.geometry index
    pendingPacketReady := true }

theorem withBuiltPacket_transferOf :
    transferOf name (withBuiltPacket options name slot index) =
      transferOf name slot :=
  rfl

theorem withBuiltPacket_transmits
    (transmits : Transmits options name slot index) :
    Transmits options name (withBuiltPacket options name slot index)
      index where
  state := transmits.state
  within := transmits.within
  position := by
    rw [withBuiltPacket_transferOf, if_pos (by rfl)]
    exact ⟨rfl, rfl⟩

/-- Building a packet is invisible in the outcome. -/
theorem WorkStep.of_built
    {result : SendResult} {outcome : TxWorkOutcome}
    (step :
      WorkStep options name (withBuiltPacket options name slot index) index
        result outcome) :
    WorkStep options name slot index result outcome := by
  cases step with
  | kept retried transmits transfer scheduled =>
      exact .kept retried transmits transfer scheduled
  | dropped empty scheduled => exact .dropped empty scheduled
  | advanced transmits transfer scheduled =>
      exact .advanced transmits transfer scheduled
  | finished last empty scheduled => exact .finished last empty scheduled

/-- One run of `tx_slot_work_handler` on a transmitting slot. -/
theorem txSlotWorkHandler_step
    (transmits : Transmits options name slot index) (result : SendResult) :
    WorkStep options name slot index result
      (txSlotWorkHandler options slot result) := by
  rw [txSlotWorkHandler, if_neg (not_not.mpr transmits.state)]
  by_cases built : slot.pendingPacketReady = true
  · rw [if_pos built]
    exact sendPendingPacket_step transmits built result
  · have position := transmits.position
    rw [if_neg built] at position
    have more :
        ykbProtocolTxHasMore
            ((transferOf name slot).senderAt options.geometry index) =
          true := by
      rw [hasMore_senderAt transmits.within.le]
      exact decide_eq_true transmits.within
    rw [if_neg built, position, if_neg (by simp [more]),
      Transfer.build_senderAt transmits.within]
    exact
      (sendPendingPacket_step (withBuiltPacket_transmits transmits) rfl
        result).of_built

theorem txSlotWorkHandler_empty
    (empty : slot.state = .empty) (result : SendResult) :
    txSlotWorkHandler options slot result = ⟨slot, none, false⟩ := by
  rw [txSlotWorkHandler, if_pos (notBusy_iff.mpr empty)]

end YkbFirmware.SplitLink.TransmitSlot
