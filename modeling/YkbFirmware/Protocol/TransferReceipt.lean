import YkbFirmware.Protocol.ReceiverStep
import YkbFirmware.Protocol.Sender

/-!
# Receiving the packets of one transfer

`Receiving transfer rx stored` joins the bookkeeping invariant with the
contents of the buffer: the receiver is on the given transfer, its counters
describe `stored`, and every stored segment of the buffer is the transfer's.
One packet of the transfer adds its index, whichever mode is in use; with all
indices stored the buffer starts with the payload.
-/

namespace YkbFirmware.Protocol.TransferReceipt

open YkbFirmware.Library.ByteMemory
open YkbFirmware.Library.Segmentation
open YkbFirmware.Protocol.Wire
open YkbFirmware.Protocol.Receiver
open YkbFirmware.Protocol.ReceiverInvariant
open YkbFirmware.Protocol.ReceiverStep
open YkbFirmware.Protocol.Sender

/-- The receiver is assembling `transfer` and has exactly `stored` of it. -/
structure Receiving
    (geometry : PacketGeometry) (transfer : Transfer)
    (rx : YkbProtocolRxState) (stored : Finset Nat) : Prop where
  tracks : Tracks geometry rx stored
  transferId : rx.transferId = transfer.transferId
  totalLen : rx.totalLen = transfer.totalLen
  packetCount : rx.packetCount = transfer.packetCount geometry
  typeFlagsBase :
    rx.typeFlagsBase = withoutStartEnd transfer.typeFlagsBase
  holds :
    Holds geometry.maxPayloadSize transfer.totalLen.toNat stored
      rx.buffer transfer.data

variable
    {geometry : PacketGeometry} {transfer : Transfer}
    {rx : YkbProtocolRxState} {stored : Finset Nat} {index : Nat}

/-- Packets of a transfer pass every wire check. -/
theorem packet_admissible (within : index < transfer.count geometry) :
    Admissible geometry (transfer.packet geometry index) :=
  ⟨Transfer.packet_headerValid within, Transfer.packet_type,
    Transfer.packet_crc⟩

/-- The room a receiver needs for the transfer, whatever packet is first. -/
def RoomFor
    (geometry : PacketGeometry) (transfer : Transfer)
    (rx : YkbProtocolRxState) : Prop :=
  transfer.totalLen ≤ rx.capacity ∧
    (rx.allowOutOfOrder = true →
      rx.receivedBitmap.isSome = true ∧
        ykbProtocolBitmapSizeBytes (transfer.packetCount geometry) ≤
          rx.receivedBitmapSize)

namespace Receiving

theorem rxLengthAt_eq
    (receiving : Receiving geometry transfer rx stored) (index : Nat) :
    rxLengthAt geometry rx index = transfer.lengthAt geometry index := by
  rw [rxLengthAt, receiving.totalLen]
  rfl

theorem packetCount_toNat
    (receiving : Receiving geometry transfer rx stored) :
    rx.packetCount.toNat = transfer.count geometry := by
  rw [receiving.packetCount, Transfer.packetCount_toNat]

theorem same
    (receiving : Receiving geometry transfer rx stored) (index : Nat) :
    sameTransfer rx (transfer.packet geometry index).header = true := by
  apply decide_eq_true
  refine
    ⟨receiving.transferId, receiving.totalLen, receiving.packetCount, ?_⟩
  rw [Transfer.packet_flagsBase]
  exact receiving.typeFlagsBase

end Receiving

theorem packet_index_toNat (within : index < transfer.count geometry) :
    (transfer.packet geometry index).header.packetIdx.toNat = index :=
  Transfer.index_toNat within

/-- A begun receiver is on the transfer, with nothing stored. -/
theorem begunState_receiving
    (within : index < transfer.count geometry)
    (room : RoomFor geometry transfer rx) :
    Receiving geometry transfer
      (begunState rx (transfer.packet geometry index).header) ∅ where
  tracks := begunState_tracks (Transfer.packet_headerValid within) room
  transferId := rfl
  totalLen := rfl
  packetCount := rfl
  typeFlagsBase := Transfer.packet_flagsBase
  holds := Holds.empty

/-- Storing the packet at `index` stores segment `index`. -/
theorem storedState_receiving
    (receiving : Receiving geometry transfer rx stored)
    (within : index < transfer.count geometry)
    (awaits :
      Awaits rx stored (transfer.packet geometry index).header.packetIdx) :
    Receiving geometry transfer
      (storedState geometry rx (transfer.packet geometry index))
      (insert index stored) := by
  have indexNat := packet_index_toNat within
  have indexLt :
      (transfer.packet geometry index).header.packetIdx.toNat <
        rx.packetCount.toNat := by
    rw [indexNat, receiving.packetCount_toNat]
    exact within
  have parameters :
      SameParameters rx
        (storedState geometry rx (transfer.packet geometry index)) :=
    storedState_sameParameters _ _ _
  have tracks := storedState_tracks receiving.tracks indexLt awaits
  have buffer := storedState_buffer receiving.tracks indexLt
  rw [indexNat] at tracks buffer
  rw [receiving.rxLengthAt_eq] at buffer
  exact
    { tracks := tracks
      transferId := parameters.transferId.trans receiving.transferId
      totalLen := parameters.totalLen.trans receiving.totalLen
      packetCount := parameters.packetCount.trans receiving.packetCount
      typeFlagsBase :=
        parameters.typeFlagsBase.trans receiving.typeFlagsBase
      holds := by
        rw [buffer]
        exact receiving.holds.insert fun position positionLt =>
          Transfer.packet_payload positionLt }

/-- The result reported with the index `index`. -/
theorem storeResult_eq
    (receiving : Receiving geometry transfer rx stored)
    (within : index < transfer.count geometry) :
    storeResult rx stored
        (transfer.packet geometry index).header.packetIdx =
      if (insert index stored).card = transfer.count geometry then
        .complete
      else
        .accepted := by
  rw [storeResult, packet_index_toNat within, receiving.packetCount_toNat]

/-- A full receiver holds the payload, whatever order the packets came in. -/
theorem Receiving.payload_of_full
    (receiving : Receiving geometry transfer rx stored)
    (full : stored = Finset.range (transfer.count geometry)) :
    rx.buffer.readBlock 0 rx.totalLen.toNat = transfer.payload := by
  rw [receiving.totalLen]
  apply Memory.readBlock_congr
  intro position within
  simp only [Nat.zero_add]
  exact receiving.holds.complete geometry.maxPayloadSize_pos full within

/-- Every stored index belongs to the transfer. -/
theorem Receiving.stored_subset
    (receiving : Receiving geometry transfer rx stored) :
    stored ⊆ Finset.range (transfer.count geometry) := by
  rw [← receiving.packetCount_toNat]
  exact receiving.tracks.storedWithin

/-- In order, the stored indices are those below the next expected one. -/
theorem nextExpected_toNat
    (receiving : Receiving geometry transfer rx (Finset.range index))
    (inOrder : rx.allowOutOfOrder = false) :
    rx.nextExpectedPacketIdx.toNat = index := by
  have represents := receiving.tracks.represents
  rw [RepresentsStored, if_neg (by simp [inOrder])] at represents
  have sizes := congrArg Finset.card represents
  rw [Finset.card_range, Finset.card_range] at sizes
  exact sizes.symm

/-- After the packets below `index` either mode awaits the one at `index`. -/
theorem awaits_next
    (receiving : Receiving geometry transfer rx (Finset.range index))
    (within : index < transfer.count geometry) :
    Awaits rx (Finset.range index)
      (transfer.packet geometry index).header.packetIdx := by
  have indexNat := packet_index_toNat within
  constructor
  · rw [indexNat, Finset.mem_range]
    exact Nat.lt_irrefl index
  · intro inOrder
    apply UInt16.toNat_inj.mp
    rw [indexNat, nextExpected_toNat receiving inOrder]

/-! ## Pushing packets of the transfer -/

/-- The call stored one more packet, and `stored` is the result. -/
structure Advances
    (geometry : PacketGeometry) (transfer : Transfer)
    (outcome : RxOutcome) (stored : Finset Nat) : Prop where
  result :
    outcome.result =
      if stored.card = transfer.count geometry then
        .complete
      else
        .accepted
  receiving : Receiving geometry transfer outcome.state stored

/-- An idle receiver with room takes the first packet it awaits. -/
theorem push_first
    (within : index < transfer.count geometry)
    (resting : rx.active = false)
    (room : RoomFor geometry transfer rx)
    (first : rx.allowOutOfOrder = false → index = 0) :
    Advances geometry transfer
      (ykbProtocolRxPushPacket geometry rx
        (transfer.packet geometry index))
      (insert index ∅) := by
  have receiving := begunState_receiving within room
  have awaits :
      Awaits (begunState rx (transfer.packet geometry index).header) ∅
        (transfer.packet geometry index).header.packetIdx := by
    refine ⟨Finset.notMem_empty _, fun inOrder => ?_⟩
    have start : index = 0 := first (by
      simpa [begunState, pinTransfer] using inOrder)
    rw [start]
    rfl
  rw [push_begin (packet_admissible within) resting room awaits]
  exact
    ⟨storeResult_eq receiving within,
      storedState_receiving receiving within awaits⟩

/-- A receiver on the transfer takes each index it still awaits. -/
theorem push_new
    (receiving : Receiving geometry transfer rx stored)
    (within : index < transfer.count geometry)
    (awaits :
      Awaits rx stored (transfer.packet geometry index).header.packetIdx) :
    Advances geometry transfer
      (ykbProtocolRxPushPacket geometry rx
        (transfer.packet geometry index))
      (insert index stored) := by
  rw [push_next receiving.tracks (packet_admissible within)
    (receiving.same index) awaits]
  exact
    ⟨storeResult_eq receiving within,
      storedState_receiving receiving within awaits⟩

/-! ## Pushing a list of packets -/

/-- One call on the receiver: the state before, the packet, the outcome. -/
structure PushRecord where
  before : YkbProtocolRxState
  packet : YkbProtocolPacket
  outcome : RxOutcome

/-- Push a list of packets, one after the other. -/
def pushAll (geometry : PacketGeometry) :
    YkbProtocolRxState → List YkbProtocolPacket → List PushRecord
  | _, [] => []
  | rx, packet :: rest =>
      let outcome := ykbProtocolRxPushPacket geometry rx packet
      ⟨rx, packet, outcome⟩ :: pushAll geometry outcome.state rest

/-- The receiver after a list of packets. -/
def receiverAfter
    (geometry : PacketGeometry)
    (rx : YkbProtocolRxState) (packets : List YkbProtocolPacket) :
    YkbProtocolRxState :=
  packets.foldl
    (fun state packet =>
      (ykbProtocolRxPushPacket geometry state packet).state)
    rx

end YkbFirmware.Protocol.TransferReceipt
