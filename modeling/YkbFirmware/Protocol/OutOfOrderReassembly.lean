import YkbFirmware.Protocol.TransferReceipt

/-!
# Reassembly in any order

A receiver with a bitmap takes the packets of one transfer in any order and
any number of times.  `Collecting rx stored` covers the receiver before its
first packet and the receiver in the middle of the transfer; a packet whose
index is not in `stored` adds it, a packet whose index is in `stored` is a
duplicate and changes nothing, also after the transfer is complete.  The
state after a list of packets depends on the set of their indices only.
-/

namespace YkbFirmware.Protocol.OutOfOrderReassembly

open YkbFirmware.Library.ByteMemory
open YkbFirmware.Library.Segmentation
open YkbFirmware.Protocol.Wire
open YkbFirmware.Protocol.Receiver
open YkbFirmware.Protocol.ReceiverInvariant
open YkbFirmware.Protocol.ReceiverStep
open YkbFirmware.Protocol.Sender
open YkbFirmware.Protocol.TransferReceipt

/-- A receiver with a bitmap which has exactly `stored` of the transfer. -/
inductive Collecting
    (geometry : PacketGeometry) (transfer : Transfer)
    (rx : YkbProtocolRxState) : Finset Nat → Prop where
  | start
      (resting : Idle rx)
      (room : RoomFor geometry transfer rx)
      (outOfOrder : rx.allowOutOfOrder = true) :
      Collecting geometry transfer rx ∅
  | middle {stored : Finset Nat}
      (receiving : Receiving geometry transfer rx stored)
      (outOfOrder : rx.allowOutOfOrder = true) :
      Collecting geometry transfer rx stored

section OnePacket

variable
    {geometry : PacketGeometry} {transfer : Transfer}
    {rx : YkbProtocolRxState} {stored : Finset Nat} {index : Nat}

theorem Collecting.subset
    (collecting : Collecting geometry transfer rx stored) :
    stored ⊆ Finset.range (transfer.count geometry) := by
  cases collecting with
  | start => exact Finset.empty_subset _
  | middle receiving => exact receiving.stored_subset

theorem Collecting.outOfOrder
    (collecting : Collecting geometry transfer rx stored) :
    rx.allowOutOfOrder = true := by
  cases collecting with
  | start resting room outOfOrder => exact outOfOrder
  | middle receiving outOfOrder => exact outOfOrder

/-- A new index is stored. -/
theorem Collecting.push_new
    (collecting : Collecting geometry transfer rx stored)
    (within : index < transfer.count geometry) (missing : index ∉ stored) :
    Advances geometry transfer
      (ykbProtocolRxPushPacket geometry rx
        (transfer.packet geometry index))
      (insert index stored) := by
  have outOfOrder := collecting.outOfOrder
  cases collecting with
  | start resting room =>
      refine push_first within resting.active room fun inOrder => ?_
      rw [outOfOrder] at inOrder
      cases inOrder
  | middle receiving =>
      refine TransferReceipt.push_new receiving within ⟨?_, ?_⟩
      · rw [packet_index_toNat within]
        exact missing
      · intro inOrder
        rw [outOfOrder] at inOrder
        cases inOrder

theorem Collecting.describes
    (collecting : Collecting geometry transfer rx stored) :
    Describes geometry rx stored := by
  cases collecting with
  | start resting => exact .idle resting
  | middle receiving => exact .busy receiving.tracks

theorem Collecting.after_new
    (collecting : Collecting geometry transfer rx stored)
    (within : index < transfer.count geometry) (missing : index ∉ stored) :
    Collecting geometry transfer
      (ykbProtocolRxPushPacket geometry rx
        (transfer.packet geometry index)).state
      (insert index stored) := by
  have configuration :=
    push_sameConfiguration collecting.describes
      (transfer.packet geometry index)
  exact
    .middle (collecting.push_new within missing).receiving
      (configuration.allowOutOfOrder.trans collecting.outOfOrder)

/-- A repeated index is recognised and changes nothing. -/
theorem Collecting.push_repeat
    (collecting : Collecting geometry transfer rx stored)
    (already : index ∈ stored) :
    (ykbProtocolRxPushPacket geometry rx
          (transfer.packet geometry index)).result = .duplicate ∧
      (ykbProtocolRxPushPacket geometry rx
          (transfer.packet geometry index)).state = rx := by
  have within := Finset.mem_range.mp (collecting.subset already)
  cases collecting with
  | start => exact absurd already (Finset.notMem_empty index)
  | middle receiving outOfOrder =>
      rw [push_duplicate receiving.tracks (packet_admissible within)
        (receiving.same index) outOfOrder
        (by rwa [packet_index_toNat within])]
      exact ⟨rfl, rfl⟩

/-- With every index stored, the buffer starts with the payload. -/
theorem Collecting.payload_of_full
    (collecting : Collecting geometry transfer rx stored)
    (full : stored = Finset.range (transfer.count geometry)) :
    rx.totalLen = transfer.totalLen ∧
      rx.buffer.readBlock 0 rx.totalLen.toNat = transfer.payload := by
  cases collecting with
  | start =>
      have sizes := congrArg Finset.card full
      have positive := transfer.count_pos geometry
      rw [Finset.card_empty, Finset.card_range] at sizes
      omega
  | middle receiving =>
      exact ⟨receiving.totalLen, receiving.payload_of_full full⟩

end OnePacket

/-! ## Lists of packets -/

section ManyPackets

variable
    {geometry : PacketGeometry} {transfer : Transfer}
    {rx : YkbProtocolRxState} {stored : Finset Nat}

/-- The indices carried by a list of packets. -/
def indicesOf (packets : List YkbProtocolPacket) : Finset Nat :=
  (packets.map fun packet => packet.header.packetIdx.toNat).toFinset

theorem mem_indicesOf {packets : List YkbProtocolPacket} {index : Nat} :
    index ∈ indicesOf packets ↔
      ∃ packet ∈ packets, packet.header.packetIdx.toNat = index := by
  simp [indicesOf]

/-- Containing the index of every packet means containing `count` many. -/
theorem all_indices_iff
    {indices : Finset Nat}
    (subset : indices ⊆ Finset.range (transfer.count geometry)) :
    (∀ packet ∈ transfer.packets geometry,
        packet.header.packetIdx.toNat ∈ indices) ↔
      indices.card = transfer.count geometry := by
  constructor
  · intro all
    have whole : Finset.range (transfer.count geometry) ⊆ indices := by
      intro index member
      have within := Finset.mem_range.mp member
      rw [← packet_index_toNat within]
      exact all _ (Transfer.mem_packets.mpr ⟨index, within, rfl⟩)
    rw [Finset.Subset.antisymm subset whole, Finset.card_range]
  · intro full packet sent
    rcases Transfer.mem_packets.mp sent with ⟨index, within, rfl⟩
    rw [packet_index_toNat within, eq_range_of_card subset full]
    exact Finset.mem_range.mpr within

/-- One packet of the transfer adds its index to what is stored. -/
theorem Collecting.push
    (collecting : Collecting geometry transfer rx stored)
    {packet : YkbProtocolPacket}
    (sent : packet ∈ transfer.packets geometry) :
    Collecting geometry transfer
      (ykbProtocolRxPushPacket geometry rx packet).state
      (insert packet.header.packetIdx.toNat stored) := by
  rcases Transfer.mem_packets.mp sent with ⟨index, within, rfl⟩
  rw [packet_index_toNat within]
  by_cases already : index ∈ stored
  · rw [Finset.insert_eq_self.mpr already,
      (collecting.push_repeat already).2]
    exact collecting
  · exact collecting.after_new within already

/-- After a list of packets the receiver has what it had and what came. -/
theorem Collecting.after
    (collecting : Collecting geometry transfer rx stored)
    {packets : List YkbProtocolPacket}
    (sentOnly : ∀ packet ∈ packets, packet ∈ transfer.packets geometry) :
    Collecting geometry transfer (receiverAfter geometry rx packets)
      (stored ∪ indicesOf packets) := by
  induction packets generalizing rx stored with
  | nil => simpa [receiverAfter, indicesOf] using collecting
  | cons packet rest induction =>
      have next := collecting.push (sentOnly packet (by simp))
      have remaining :=
        induction next fun other member =>
          sentOnly other (List.mem_cons_of_mem packet member)
      have sets :
          stored ∪ indicesOf (packet :: rest) =
            insert packet.header.packetIdx.toNat stored ∪
              indicesOf rest := by
        ext index
        simp only [indicesOf, List.map_cons, List.toFinset_cons,
          Finset.mem_union, Finset.mem_insert]
        tauto
      rw [sets]
      exact remaining

/-- The number of COMPLETE results among the calls for a list of packets. -/
def completions
    (geometry : PacketGeometry) (rx : YkbProtocolRxState)
    (packets : List YkbProtocolPacket) : Nat :=
  ((pushAll geometry rx packets).map (·.outcome.result)).count .complete

theorem completions_cons (packet : YkbProtocolPacket)
    (rest : List YkbProtocolPacket) :
    completions geometry rx (packet :: rest) =
      completions geometry
          (ykbProtocolRxPushPacket geometry rx packet).state rest +
        if (ykbProtocolRxPushPacket geometry rx packet).result =
            .complete then
          1
        else
          0 := by
  simp [completions, pushAll, List.count_cons]

/-- Packets of a full receiver are duplicates only. -/
theorem Collecting.completions_full
    {packets : List YkbProtocolPacket}
    (collecting :
      Collecting geometry transfer rx
        (Finset.range (transfer.count geometry)))
    (sentOnly : ∀ packet ∈ packets, packet ∈ transfer.packets geometry) :
    completions geometry rx packets = 0 := by
  induction packets with
  | nil => rfl
  | cons packet rest induction =>
      have sent := sentOnly packet (by simp)
      rcases Transfer.mem_packets.mp sent with ⟨index, within, rfl⟩
      have repeated :=
        collecting.push_repeat (Finset.mem_range.mpr within)
      rw [completions_cons, repeated.1, repeated.2, if_neg (by decide)]
      exact
        induction fun other member =>
          sentOnly other (List.mem_cons_of_mem _ member)

/-- A list that brings the missing indices completes exactly once. -/
theorem Collecting.completions_eq_one
    {packets : List YkbProtocolPacket}
    (collecting : Collecting geometry transfer rx stored)
    (missing : stored ≠ Finset.range (transfer.count geometry))
    (sentOnly : ∀ packet ∈ packets, packet ∈ transfer.packets geometry)
    (brings :
      stored ∪ indicesOf packets =
        Finset.range (transfer.count geometry)) :
    completions geometry rx packets = 1 := by
  induction packets generalizing rx stored with
  | nil =>
      refine absurd ?_ missing
      simpa [indicesOf] using brings
  | cons packet rest induction =>
      have sent := sentOnly packet (by simp)
      have restSent :
          ∀ other ∈ rest, other ∈ transfer.packets geometry :=
        fun other member =>
          sentOnly other (List.mem_cons_of_mem packet member)
      rcases Transfer.mem_packets.mp sent with ⟨index, within, rfl⟩
      have sets :
          insert index stored ∪ indicesOf rest =
            Finset.range (transfer.count geometry) := by
        rw [← brings]
        ext other
        simp only [indicesOf, List.map_cons, List.toFinset_cons,
          Finset.mem_union, Finset.mem_insert, packet_index_toNat within]
        tauto
      rw [completions_cons]
      by_cases already : index ∈ stored
      · have repeated := collecting.push_repeat already
        rw [Finset.insert_eq_self.mpr already] at sets
        rw [repeated.1, repeated.2, if_neg (by decide)]
        exact induction collecting missing restSent sets
      · have advances := collecting.push_new within already
        have next := collecting.after_new within already
        by_cases full :
            insert index stored =
              Finset.range (transfer.count geometry)
        · rw [full] at next
          have sizes : (insert index stored).card =
              transfer.count geometry := by
            rw [full, Finset.card_range]
          rw [next.completions_full restSent, advances.result,
            if_pos sizes, if_pos rfl]
        · have sizes : (insert index stored).card ≠
              transfer.count geometry := fun same =>
            full (eq_range_of_card next.subset same)
          rw [advances.result, if_neg sizes, if_neg (by decide)]
          exact induction next full restSent sets

/-- A COMPLETE among the results means that every index was stored. -/
theorem Collecting.full_of_complete
    {packets : List YkbProtocolPacket}
    (collecting : Collecting geometry transfer rx stored)
    (sentOnly : ∀ packet ∈ packets, packet ∈ transfer.packets geometry)
    (completed :
      .complete ∈ (pushAll geometry rx packets).map (·.outcome.result)) :
    stored ∪ indicesOf packets =
      Finset.range (transfer.count geometry) := by
  have final := collecting.after sentOnly
  induction packets generalizing rx stored with
  | nil => simp [pushAll] at completed
  | cons packet rest induction =>
      have sent := sentOnly packet (by simp)
      have restSent :
          ∀ other ∈ rest, other ∈ transfer.packets geometry :=
        fun other member =>
          sentOnly other (List.mem_cons_of_mem packet member)
      have next := collecting.push sent
      have grows :
          insert packet.header.packetIdx.toNat stored ∪ indicesOf rest =
            stored ∪ indicesOf (packet :: rest) := by
        ext other
        simp only [indicesOf, List.map_cons, List.toFinset_cons,
          Finset.mem_union, Finset.mem_insert]
        tauto
      rw [pushAll, List.map_cons, List.mem_cons] at completed
      rcases completed with now | later
      · rcases Transfer.mem_packets.mp sent with ⟨index, within, rfl⟩
        by_cases already : index ∈ stored
        · rw [(collecting.push_repeat already).1] at now
          cases now
        · have advances := collecting.push_new within already
          have full :
              (insert index stored).card = transfer.count geometry := by
            by_contra partly
            rw [advances.result, if_neg partly] at now
            cases now
          rw [packet_index_toNat within] at grows next
          apply Finset.Subset.antisymm final.subset
          rw [← eq_range_of_card next.subset full, ← grows]
          exact Finset.subset_union_left
      · rw [← grows]
        exact induction next restSent later (next.after restSent)

end ManyPackets

/--
Reassembly in any order: first occurrences are ACCEPTED, the one that brings
the last missing index is the only COMPLETE, repeats are DUPLICATE and leave
the receiver as it was, and from COMPLETE on the buffer starts with the
payload.
-/
theorem out_of_order_reassembly
    (geometry : PacketGeometry) (transfer : Transfer)
    (buffer : Memory) (capacity : UInt16)
    (bitmap : Memory) (bitmapSize : Nat)
    (arrivals : List YkbProtocolPacket)
    (roomy : transfer.totalLen ≤ capacity)
    (mapped :
      ((transfer.packets geometry).length + 7) / 8 ≤ bitmapSize)
    (sentOnly : ∀ packet ∈ arrivals, packet ∈ transfer.packets geometry)
    (everyOne : ∀ packet ∈ transfer.packets geometry, packet ∈ arrivals) :
    let fresh :=
      ykbProtocolRxInit buffer capacity true (some bitmap) bitmapSize
    let results := fun packets =>
      (pushAll geometry fresh packets).map (·.outcome.result)
    (∀ earlier packet later, arrivals = earlier ++ packet :: later →
      let before := receiverAfter geometry fresh earlier
      let outcome := ykbProtocolRxPushPacket geometry before packet
      let seen := earlier.map (·.header.packetIdx)
      if packet.header.packetIdx ∈ seen then
        outcome.result = .duplicate ∧ outcome.state = before
      else if
          ∀ other ∈ transfer.packets geometry,
            other.header.packetIdx ∈ packet.header.packetIdx :: seen then
        outcome.result = .complete
      else
        outcome.result = .accepted) ∧
      (results arrivals).count .complete = 1 ∧
        ∀ earlier later, arrivals = earlier ++ later →
          .complete ∈ results earlier →
            let reached := receiverAfter geometry fresh earlier
            reached.totalLen = transfer.totalLen ∧
              reached.buffer.readBlock 0 reached.totalLen.toNat =
                transfer.payload := by
  intro fresh results
  have start : Collecting geometry transfer fresh ∅ := by
    refine .start (idle_rxInit _ _ _ _ _) ⟨roomy, fun _ => ⟨rfl, ?_⟩⟩ rfl
    rw [Transfer.length_packets] at mapped
    rw [ykbProtocolBitmapSizeBytes, Transfer.packetCount_toNat]
    exact mapped
  have prefixSent :
      ∀ {earlier later}, arrivals = earlier ++ later →
        ∀ packet ∈ earlier, packet ∈ transfer.packets geometry :=
    fun split packet member =>
      sentOnly packet (by
        rw [split]
        exact List.mem_append_left _ member)
  refine ⟨?_, ?_, ?_⟩
  · intro earlier packet later split before outcome seen
    have sent : packet ∈ transfer.packets geometry :=
      sentOnly packet (by simp [split])
    have collecting := start.after (prefixSent split)
    rw [Finset.empty_union] at collecting
    have seenIff :
        ∀ idx : UInt16, idx ∈ seen ↔ idx.toNat ∈ indicesOf earlier := by
      intro idx
      simp [seen, mem_indicesOf, UInt16.toNat_inj]
    rcases Transfer.mem_packets.mp sent with ⟨index, within, rfl⟩
    have next := collecting.push sent
    rw [packet_index_toNat within] at next
    have coversIff :
        (∀ other ∈ transfer.packets geometry,
            other.header.packetIdx ∈
              (transfer.packet geometry index).header.packetIdx :: seen) ↔
          (insert index (indicesOf earlier)).card =
            transfer.count geometry := by
      rw [← all_indices_iff next.subset]
      simp only [List.mem_cons, seenIff, Finset.mem_insert,
        ← UInt16.toNat_inj, packet_index_toNat within]
    split_ifs with repeated covered
    · rw [seenIff, packet_index_toNat within] at repeated
      exact collecting.push_repeat repeated
    · rw [seenIff, packet_index_toNat within] at repeated
      rw [(collecting.push_new within repeated).result,
        if_pos (coversIff.mp covered)]
    · rw [seenIff, packet_index_toNat within] at repeated
      rw [(collecting.push_new within repeated).result,
        if_neg fun full => covered (coversIff.mpr full)]
  · have reached := (start.after sentOnly).subset
    rw [Finset.empty_union] at reached
    refine start.completions_eq_one (fun none => ?_) sentOnly ?_
    · have sizes := congrArg Finset.card none
      have positive := transfer.count_pos geometry
      rw [Finset.card_empty, Finset.card_range] at sizes
      omega
    · rw [Finset.empty_union]
      exact
        eq_range_of_card reached
          ((all_indices_iff reached).mp fun packet sent =>
            mem_indicesOf.mpr ⟨packet, everyOne packet sent, rfl⟩)
  · intro earlier later split completed reached
    have full :=
      start.full_of_complete (prefixSent split) completed
    exact (start.after (prefixSent split)).payload_of_full full

/-- Three packets, the last one first, everything sent twice. -/
theorem out_of_order_reassembly_reversed :
    let transfer :=
      plainTransfer (fun address => UInt8.ofNat address) 120
    completions usbGeometry
        (ykbProtocolRxInit Memory.zero 120 true (some Memory.zero) 1)
        ((transfer.packets usbGeometry).reverse ++
          transfer.packets usbGeometry) = 1 :=
  (out_of_order_reassembly usbGeometry
    (plainTransfer (fun address => UInt8.ofNat address) 120)
    Memory.zero 120 Memory.zero 1 _ (by decide)
    (by rw [Transfer.length_packets]; decide)
    (by simp) (by simp)).2.1

end YkbFirmware.Protocol.OutOfOrderReassembly
