import YkbFirmware.Protocol.TransferReceipt

/-!
# The in-order round trip

The sending loop produces one packet per segment, and an in-order receiver
which is given these packets in order accepts all of them, reports COMPLETE
on the last and then holds the payload.

Sender and receiver compute packet count, segment length and byte offset
separately in 16-bit arithmetic.  `BuildExact` and `PushExact` list every such
computation of one call and say that its mathematical value fits; the round
trip includes both for every call made on the way.
-/

namespace YkbFirmware.Protocol.InOrderRoundTrip

open YkbFirmware.Library.ByteMemory
open YkbFirmware.Library.Segmentation
open YkbFirmware.Protocol.Wire
open YkbFirmware.Protocol.Receiver
open YkbFirmware.Protocol.ReceiverInvariant
open YkbFirmware.Protocol.ReceiverStep
open YkbFirmware.Protocol.Sender
open YkbFirmware.Protocol.TransferReceipt

/-! ## Computations that stay within 16 bits -/

/-- The count and length computations for one header. -/
structure LengthsExact
    (geometry : PacketGeometry)
    (totalLen packetIdx packetCount : UInt16) : Prop where
  count :
    (totalLen.toNat + geometry.maxPayloadSize - 1) /
        geometry.maxPayloadSize < 2 ^ 16
  full :
    packetIdx.toNat + 1 < packetCount.toNat →
      geometry.maxPayloadSize < 2 ^ 16
  used :
    (packetCount.toNat - 1) * geometry.maxPayloadSize < 2 ^ 16
  remainder :
    (packetCount.toNat - 1) * geometry.maxPayloadSize ≤ totalLen.toNat

/-- One call of `ykb_protocol_tx_build_packet`. -/
structure BuildExact
    (geometry : PacketGeometry) (tx : YkbProtocolTxState) : Prop where
  lengths :
    LengthsExact geometry tx.totalLen tx.nextPacketIdx tx.packetCount
  offset :
    tx.offset.toNat + (nextPayloadLen geometry tx).toNat < 2 ^ 16
  index : tx.nextPacketIdx.toNat + 1 < 2 ^ 16

/-- One call of `ykb_protocol_rx_push_packet` that stores the packet. -/
structure PushExact
    (geometry : PacketGeometry)
    (rx : YkbProtocolRxState) (packet : YkbProtocolPacket) : Prop where
  lengths :
    LengthsExact geometry packet.header.totalLen packet.header.packetIdx
      packet.header.packetCount
  offset :
    packet.header.packetIdx.toNat * geometry.maxPayloadSize < 2 ^ 16
  receivedBytes :
    rx.receivedBytes.toNat +
        (crcPayloadLen geometry packet.header).toNat < 2 ^ 16
  receivedCount : rx.receivedCount.toNat + 1 < 2 ^ 16
  nextExpected : rx.nextExpectedPacketIdx.toNat + 1 < 2 ^ 16

theorem lengthsExact_of_valid
    {geometry : PacketGeometry} {totalLen packetIdx packetCount : UInt16}
    (counted :
      packetCount.toNat =
        segmentCount geometry.maxPayloadSize totalLen.toNat)
    (indexLt : packetIdx.toNat < packetCount.toNat) :
    LengthsExact geometry totalLen packetIdx packetCount := by
  have positive := geometry.maxPayloadSize_pos
  have bound := totalLen.toNat_lt
  have countBound := packetCount.toNat_lt
  have lastStart :
      (packetCount.toNat - 1) * geometry.maxPayloadSize ≤
        totalLen.toNat :=
    mul_le_total positive (by omega)
  refine ⟨?_, ?_, by omega, lastStart⟩
  · by_cases empty : totalLen.toNat = 0
    · rw [empty, Nat.zero_add]
      exact Nat.lt_of_le_of_lt
        (Nat.div_le_of_le_mul
          (show geometry.maxPayloadSize - 1 ≤
            geometry.maxPayloadSize * 1 by omega))
        (by decide)
    · rw [segmentCount, if_neg empty] at counted
      omega
  · intro inner
    have second :
        1 * geometry.maxPayloadSize ≤
          (packetCount.toNat - 1) * geometry.maxPayloadSize :=
      Nat.mul_le_mul_right _ (by omega)
    omega

section Sending

variable {geometry : PacketGeometry} {transfer : Transfer} {index : Nat}

/-- Nothing wraps while the sender builds the packet at `index`. -/
theorem buildExact_senderAt (within : index < transfer.count geometry) :
    BuildExact geometry (transfer.senderAt geometry index) := by
  have counted := transfer.packetCount_toNat geometry
  have indexNat := Transfer.index_toNat within
  have countLe := transfer.count_le geometry
  have ends := segment_end_le geometry.maxPayloadSize_pos within
  have start := mul_le_total geometry.maxPayloadSize_pos within
  have bound := transfer.totalLen.toNat_lt
  refine ⟨lengthsExact_of_valid counted ?_, ?_, ?_⟩
  · change (UInt16.ofNat index).toNat <
      (transfer.packetCount geometry).toNat
    rw [indexNat, counted]
    exact within
  · have lengthNat :
        (nextPayloadLen geometry
            (transfer.senderAt geometry index)).toNat =
          transfer.lengthAt geometry index :=
      Transfer.payloadLen_toNat within
    rw [Transfer.senderAt_offset_toNat, Nat.min_eq_left start, lengthNat]
    exact Nat.lt_of_le_of_lt ends bound
  · change (UInt16.ofNat index).toNat + 1 < 2 ^ 16
    rw [indexNat]
    omega

end Sending

/-! ## Receiving in order -/

/-- An in-order receiver which has taken the packets before `index`. -/
inductive InOrderAt
    (geometry : PacketGeometry) (transfer : Transfer)
    (rx : YkbProtocolRxState) : Nat → Prop where
  | start
      (resting : Idle rx)
      (room : RoomFor geometry transfer rx)
      (inOrder : rx.allowOutOfOrder = false) :
      InOrderAt geometry transfer rx 0
  | middle {index : Nat}
      (receiving : Receiving geometry transfer rx (Finset.range index))
      (inOrder : rx.allowOutOfOrder = false) :
      InOrderAt geometry transfer rx index

section Receiving

variable
    {geometry : PacketGeometry} {transfer : Transfer}
    {rx : YkbProtocolRxState} {index : Nat}

/-- The next packet in order is stored. -/
theorem InOrderAt.advances
    (position : InOrderAt geometry transfer rx index)
    (within : index < transfer.count geometry) :
    Advances geometry transfer
        (ykbProtocolRxPushPacket geometry rx
          (transfer.packet geometry index))
        (Finset.range (index + 1)) ∧
      InOrderAt geometry transfer
        (ykbProtocolRxPushPacket geometry rx
          (transfer.packet geometry index)).state
        (index + 1) := by
  cases position with
  | start resting room inOrder =>
      have advances :=
        push_first within resting.active room fun _ => rfl
      have configuration :=
        push_sameConfiguration
          (Describes.idle resting : Describes geometry rx ∅)
          (transfer.packet geometry 0)
      exact
        ⟨advances,
          .middle advances.receiving
            (configuration.allowOutOfOrder.trans inOrder)⟩
  | middle receiving inOrder =>
      have advances :=
        push_new receiving within (awaits_next receiving within)
      have configuration :=
        push_sameConfiguration (.busy receiving.tracks)
          (transfer.packet geometry index)
      rw [← Finset.range_add_one] at advances
      exact
        ⟨advances,
          .middle advances.receiving
            (configuration.allowOutOfOrder.trans inOrder)⟩

/-- The counters before the packet at `index` are exact. -/
theorem InOrderAt.counters
    (position : InOrderAt geometry transfer rx index) :
    rx.receivedCount.toNat = index ∧
      rx.nextExpectedPacketIdx.toNat = index ∧
        rx.receivedBytes.toNat =
          min (index * geometry.maxPayloadSize)
            transfer.totalLen.toNat := by
  cases position with
  | start resting room inOrder =>
      rw [resting.receivedCount, resting.nextExpectedPacketIdx,
        resting.receivedBytes]
      simp
  | middle receiving inOrder =>
      refine ⟨?_, nextExpected_toNat receiving inOrder, ?_⟩
      · rw [receiving.tracks.receivedCount, Finset.card_range]
      · rw [receiving.tracks.receivedBytes,
          ← sum_segmentLength_range]
        exact Finset.sum_congr rfl fun other _ =>
          receiving.rxLengthAt_eq other

/-- Nothing wraps while the receiver takes the packet at `index`. -/
theorem InOrderAt.pushExact
    (position : InOrderAt geometry transfer rx index)
    (within : index < transfer.count geometry) :
    PushExact geometry rx (transfer.packet geometry index) := by
  have valid := Transfer.packet_headerValid within
  have indexNat := packet_index_toNat within
  have countLe := transfer.count_le geometry
  have start := mul_le_total geometry.maxPayloadSize_pos within
  have ends := segment_end_le geometry.maxPayloadSize_pos within
  have bound := transfer.totalLen.toNat_lt
  rcases position.counters with ⟨receivedCount, nextExpected, receivedBytes⟩
  refine
    ⟨lengthsExact_of_valid valid.countEq valid.indexLt, ?_, ?_, ?_, ?_⟩
  · rw [indexNat]
    exact Nat.lt_of_le_of_lt start bound
  · have lengthNat :
        (crcPayloadLen geometry
            (transfer.packet geometry index).header).toNat =
          transfer.lengthAt geometry index :=
      Transfer.payloadLen_toNat within
    rw [receivedBytes, lengthNat, Nat.min_eq_left start]
    exact Nat.lt_of_le_of_lt ends bound
  · rw [receivedCount]
    omega
  · rw [nextExpected]
    omega

end Receiving

/-- The calls made for the packets from `index` on. -/
structure DeliversRest
    (geometry : PacketGeometry) (transfer : Transfer)
    (rx : YkbProtocolRxState) (packets : List YkbProtocolPacket) :
    Prop where
  results :
    (pushAll geometry rx packets).map (·.outcome.result) =
      List.replicate (packets.length - 1) .accepted ++ [.complete]
  receiving :
    Receiving geometry transfer (receiverAfter geometry rx packets)
      (Finset.range (transfer.count geometry))
  exact :
    ∀ record ∈ pushAll geometry rx packets,
      PushExact geometry record.before record.packet

/-- From any position, the remaining packets complete the transfer. -/
theorem inOrderAt_delivers
    {geometry : PacketGeometry} {transfer : Transfer}
    (remaining : Nat) {rx : YkbProtocolRxState} {index : Nat}
    (ends : index + (remaining + 1) = transfer.count geometry)
    (position : InOrderAt geometry transfer rx index) :
    DeliversRest geometry transfer rx
      ((List.range' index (remaining + 1)).map
        (transfer.packet geometry)) := by
  induction remaining generalizing rx index with
  | zero =>
      have within : index < transfer.count geometry := by omega
      have advances := (position.advances within).1
      have last : index + 1 = transfer.count geometry := by omega
      refine ⟨?_, ?_, ?_⟩
      · simp [List.range', pushAll, advances.result, last]
      · rw [← last]
        exact advances.receiving
      · intro record member
        simp only [List.range', List.map_cons, List.map_nil, pushAll,
          List.mem_singleton] at member
        rw [member]
        exact position.pushExact within
  | succ remaining induction =>
      have within : index < transfer.count geometry := by omega
      rcases position.advances within with ⟨advances, next⟩
      have rest := induction (by omega) next
      have inner : index + 1 ≠ transfer.count geometry := by omega
      rw [List.range'_succ, List.map_cons]
      refine ⟨?_, rest.receiving, ?_⟩
      · rw [pushAll, List.map_cons, rest.results, advances.result,
          Finset.card_range, if_neg inner]
        simp [List.replicate_succ]
      · intro record member
        rw [pushAll] at member
        rcases List.mem_cons.mp member with first | later
        · rw [first]
          exact position.pushExact within
        · exact rest.exact record later

/--
Every DATA transfer that fits the buffer makes the round trip: one packet per
segment, ACCEPTED for all of them but the last, COMPLETE for the last, and
the payload in the buffer, with no 16-bit computation wrapping in any call.
-/
theorem in_order_round_trip
    (geometry : PacketGeometry) (transfer : Transfer)
    (buffer : Memory) (capacity : UInt16)
    (bitmap : Option Memory) (bitmapSize : Nat)
    (roomy : transfer.totalLen ≤ capacity) :
    let sent := buildAll geometry (transfer.sender geometry)
    let packets := sent.map Prod.snd
    let fresh :=
      ykbProtocolRxInit buffer capacity false bitmap bitmapSize
    let received := pushAll geometry fresh packets
    let final := receiverAfter geometry fresh packets
    sent.length =
        (if transfer.totalLen.toNat = 0 then
          1
        else
          (transfer.totalLen.toNat + geometry.maxPayloadSize - 1) /
            geometry.maxPayloadSize) ∧
      received.map (·.outcome.result) =
          List.replicate (sent.length - 1) .accepted ++ [.complete] ∧
        final.totalLen = transfer.totalLen ∧
          final.buffer.readBlock 0 transfer.totalLen.toNat =
              transfer.payload ∧
            (∀ build ∈ sent, BuildExact geometry build.1) ∧
              ∀ record ∈ received,
                PushExact geometry record.before record.packet := by
  intro sent packets fresh received final
  have sentEq :
      sent =
        (List.range (transfer.count geometry)).map fun index =>
          (transfer.senderAt geometry index,
            transfer.packet geometry index) :=
    Transfer.buildAll_sender
  have sentLength : sent.length = transfer.count geometry := by
    simp [sentEq]
  obtain ⟨remaining, count⟩ :
      ∃ remaining, transfer.count geometry = remaining + 1 :=
    ⟨transfer.count geometry - 1, by
      have positive := transfer.count_pos geometry
      omega⟩
  have packetsEq :
      packets =
        (List.range' 0 (remaining + 1)).map
          (transfer.packet geometry) := by
    simp [packets, sentEq, count, List.range_eq_range']
  have start : InOrderAt geometry transfer fresh 0 :=
    .start (idle_rxInit _ _ _ _ _)
      ⟨roomy, fun outOfOrder => by cases outOfOrder⟩ rfl
  have delivers :=
    inOrderAt_delivers remaining (by omega) start
  rw [← packetsEq] at delivers
  have packetsLength : packets.length = sent.length := by
    simp [packets]
  refine
    ⟨sentLength, ?_, delivers.receiving.totalLen, ?_, ?_, delivers.exact⟩
  · rw [← packetsLength]
    exact delivers.results
  · have payload := delivers.receiving.payload_of_full rfl
    rwa [delivers.receiving.totalLen] at payload
  · intro build member
    rw [sentEq] at member
    rcases List.mem_map.mp member with ⟨index, indexLt, rfl⟩
    exact buildExact_senderAt (List.mem_range.mp indexLt)

/-- A three-packet transfer into a buffer it fills completely. -/
theorem in_order_round_trip_three_packets :
    (buildAll usbGeometry
        ((plainTransfer (fun address => UInt8.ofNat address) 120).sender
          usbGeometry)).length = 3 :=
  (in_order_round_trip usbGeometry
    (plainTransfer (fun address => UInt8.ofNat address) 120)
    Memory.zero 120 none 0 (by decide)).1

end YkbFirmware.Protocol.InOrderRoundTrip
