import YkbFirmware.Protocol.OutOfOrderReassembly

/-!
# The report of missing packets

`ykb_protocol_rx_collect_missing` scans the bitmap for indices which are not
set and stops when the output is full.  On a receiver in the middle of a
transfer it reports the first indices that were not stored; if it reports all
of them, pushing their packets in any order completes the transfer.
-/

namespace YkbFirmware.Protocol.MissingPackets

open YkbFirmware.Library.ByteMemory
open YkbFirmware.Protocol.Wire
open YkbFirmware.Protocol.Receiver
open YkbFirmware.Protocol.ReceiverInvariant
open YkbFirmware.Protocol.ReceiverStep
open YkbFirmware.Protocol.Sender
open YkbFirmware.Protocol.TransferReceipt
open YkbFirmware.Protocol.OutOfOrderReassembly

/-! ## The scan -/

/-- The value returned, and the indices written to `out_indices`. -/
structure MissingReport where
  count : UInt16
  indices : List UInt16
deriving DecidableEq, Repr

/-- The loop, from the given indices on. -/
def collectLoop (bitmap : Memory) (maxIndices : UInt16) :
    List UInt16 → MissingReport → MissingReport
  | [], report => report
  | idx :: rest, report =>
      if ykbProtocolBitmapTest bitmap idx = false then
        let written : MissingReport :=
          ⟨report.count + 1, report.indices ++ [idx]⟩
        if written.count = maxIndices then
          written
        else
          collectLoop bitmap maxIndices rest written
      else
        collectLoop bitmap maxIndices rest report

def ykbProtocolRxCollectMissing
    (rx : YkbProtocolRxState) (maxIndices : UInt16) : MissingReport :=
  if maxIndices = 0 then
    ⟨0, []⟩
  else if rx.allowOutOfOrder = false then
    ⟨0, []⟩
  else
    match rx.receivedBitmap with
    | none => ⟨0, []⟩
    | some bitmap =>
        collectLoop bitmap maxIndices
          ((List.range rx.packetCount.toNat).map UInt16.ofNat) ⟨0, []⟩

/-- The report of a list of indices. -/
def MissingReport.ofIndices (indices : List UInt16) : MissingReport :=
  ⟨UInt16.ofNat indices.length, indices⟩

/-- The loop adds clear indices until there is no room for more. -/
theorem collectLoop_eq
    {bitmap : Memory} {maxIndices : UInt16} (indices : List UInt16)
    {found : List UInt16} (room : found.length < maxIndices.toNat) :
    collectLoop bitmap maxIndices indices (.ofIndices found) =
      .ofIndices
        (found ++
          (indices.filter fun idx =>
              !ykbProtocolBitmapTest bitmap idx).take
            (maxIndices.toNat - found.length)) := by
  have bound := maxIndices.toNat_lt
  induction indices generalizing found with
  | nil => simp [collectLoop]
  | cons idx rest induction =>
      rw [collectLoop]
      cases tested : ykbProtocolBitmapTest bitmap idx with
      | true =>
          rw [if_neg (by simp), induction room]
          simp [tested]
      | false =>
          have written :
              (⟨(MissingReport.ofIndices found).count + 1,
                  (MissingReport.ofIndices found).indices ++ [idx]⟩ :
                MissingReport) =
                .ofIndices (found ++ [idx]) := by
            simp only [MissingReport.ofIndices, List.length_append,
              List.length_singleton, MissingReport.mk.injEq, and_true]
            exact (UInt16.ofNat_add _ 1).symm
          have full :
              (MissingReport.ofIndices (found ++ [idx])).count = maxIndices ↔
                found.length + 1 = maxIndices.toNat := by
            rw [MissingReport.ofIndices, ← UInt16.toNat_inj,
              UInt16.toNat_ofNat', List.length_append, List.length_singleton,
              Nat.mod_eq_of_lt (by omega)]
          rw [if_pos rfl, written, List.filter_cons_of_pos (by simp [tested])]
          dsimp only
          split_ifs with last
          · -- this index takes the last place
            have one : maxIndices.toNat - found.length = 1 := by
              have := full.mp last
              omega
            rw [one]
            simp
          · have next : (found ++ [idx]).length < maxIndices.toNat := by
              have := mt full.mpr last
              rw [List.length_append, List.length_singleton]
              omega
            have places :
                maxIndices.toNat - found.length =
                  maxIndices.toNat - (found ++ [idx]).length + 1 := by
              rw [List.length_append, List.length_singleton] at next ⊢
              omega
            rw [induction next, places, List.take_succ_cons]
            simp

/-- The clear indices, as many as there is room for. -/
theorem collectMissing_eq
    {rx : YkbProtocolRxState} {bitmap : Memory} (maxIndices : UInt16)
    (outOfOrder : rx.allowOutOfOrder = true)
    (present : rx.receivedBitmap = some bitmap) :
    ykbProtocolRxCollectMissing rx maxIndices =
      .ofIndices
        ((((List.range rx.packetCount.toNat).map UInt16.ofNat).filter
            fun idx => !ykbProtocolBitmapTest bitmap idx).take
          maxIndices.toNat) := by
  rw [ykbProtocolRxCollectMissing]
  split_ifs with none inOrder
  · rw [none]
    rfl
  · rw [outOfOrder] at inOrder
    cases inOrder
  · rw [present]
    have room : ([] : List UInt16).length < maxIndices.toNat := by
      rw [List.length_nil, Nat.pos_iff_ne_zero]
      exact fun zero => none ((uint16_eq_zero_iff maxIndices).mpr zero)
    exact collectLoop_eq _ room

/-! ## The indices which were not stored -/

section Missing

variable
    {geometry : PacketGeometry} {transfer : Transfer}
    {rx : YkbProtocolRxState} {stored : Finset Nat}

/-- The indices of the transfer outside a set, in increasing order. -/
def missingIndices
    (geometry : PacketGeometry) (transfer : Transfer)
    (stored : Finset Nat) : List Nat :=
  (List.range (transfer.count geometry)).filter fun index =>
    decide (index ∉ stored)

theorem mem_missingIndices {index : Nat} :
    index ∈ missingIndices geometry transfer stored ↔
      index < transfer.count geometry ∧ index ∉ stored := by
  simp [missingIndices]

/-- In the middle of a transfer the scan finds what was not stored. -/
theorem collectMissing_receiving
    (receiving : Receiving geometry transfer rx stored)
    (outOfOrder : rx.allowOutOfOrder = true) (maxIndices : UInt16) :
    ykbProtocolRxCollectMissing rx maxIndices =
      .ofIndices
        (((missingIndices geometry transfer stored).take
          maxIndices.toNat).map UInt16.ofNat) := by
  have represents := receiving.tracks.represents
  rw [RepresentsStored, if_pos outOfOrder] at represents
  rcases represents with ⟨bitmap, present, _, bits⟩
  have counted := receiving.packetCount_toNat
  have bound := transfer.count_le geometry
  rw [collectMissing_eq maxIndices outOfOrder present, List.filter_map,
    List.map_take, missingIndices, counted]
  congr 3
  apply List.filter_congr
  intro index member
  have within := List.mem_range.mp member
  rw [Function.comp_apply, ykbProtocolBitmapTest, UInt16.toNat_ofNat',
    Nat.mod_eq_of_lt (by omega), bits index (counted ▸ within)]
  simp

/-- The indices as numbers survive the 16-bit cast. -/
theorem map_toNat_ofNat
    {indices : List Nat}
    (within : ∀ index ∈ indices, index < transfer.count geometry) :
    (indices.map UInt16.ofNat).map UInt16.toNat = indices := by
  have bound := transfer.count_le geometry
  rw [List.map_map]
  conv_rhs => rw [← List.map_id indices]
  apply List.map_congr_left
  intro index member
  have inside := within index member
  rw [Function.comp_apply, UInt16.toNat_ofNat', Nat.mod_eq_of_lt (by omega)]
  rfl

/-- The report holds the first missing indices, as many as fit. -/
theorem collectMissing_report
    (receiving : Receiving geometry transfer rx stored)
    (outOfOrder : rx.allowOutOfOrder = true) (maxIndices : UInt16) :
    let report := ykbProtocolRxCollectMissing rx maxIndices
    let missing := missingIndices geometry transfer stored
    report.indices.map UInt16.toNat = missing.take maxIndices.toNat ∧
      report.count.toNat = min maxIndices.toNat missing.length := by
  have bound := maxIndices.toNat_lt
  intro report missing
  have collected : report = _ :=
    collectMissing_receiving receiving outOfOrder maxIndices
  rw [collected]
  constructor
  · exact
      map_toNat_ofNat fun index member =>
        (mem_missingIndices.mp (List.mem_of_mem_take member)).1
  · rw [MissingReport.ofIndices, UInt16.toNat_ofNat', List.length_map,
      List.length_take, Nat.mod_eq_of_lt (by omega)]

/-- Nothing is missing exactly if every index is stored. -/
theorem missingIndices_eq_nil_iff
    (subset : stored ⊆ Finset.range (transfer.count geometry)) :
    missingIndices geometry transfer stored = [] ↔
      stored = Finset.range (transfer.count geometry) := by
  rw [missingIndices, List.filter_eq_nil_iff]
  simp only [List.mem_range, decide_eq_true_eq, not_not]
  constructor
  · intro all
    refine Finset.Subset.antisymm subset fun index member => ?_
    exact all index (Finset.mem_range.mp member)
  · rintro rfl index within
    exact Finset.mem_range.mpr within

end Missing

/-! ## Sending the missing packets -/

section Resend

variable
    {geometry : PacketGeometry} {transfer : Transfer}
    {rx : YkbProtocolRxState} {stored : Finset Nat}

/-- The packets of the transfer whose index is reported. -/
def reportedPackets
    (geometry : PacketGeometry) (transfer : Transfer)
    (report : MissingReport) : List YkbProtocolPacket :=
  (transfer.packets geometry).filter fun packet =>
    decide (packet.header.packetIdx ∈ report.indices)

/-- The last of the calls for a list of packets. -/
theorem pushAll_concat
    (packets : List YkbProtocolPacket) (packet : YkbProtocolPacket) :
    pushAll geometry rx (packets ++ [packet]) =
      pushAll geometry rx packets ++
        [⟨receiverAfter geometry rx packets, packet,
          ykbProtocolRxPushPacket geometry
            (receiverAfter geometry rx packets) packet⟩] := by
  induction packets generalizing rx with
  | nil => rfl
  | cons first rest induction =>
      rw [List.cons_append, pushAll, induction]
      rfl

/-- The packets of a transfer have distinct indices. -/
theorem packets_indices_nodup :
    ((transfer.packets geometry).map fun packet =>
        packet.header.packetIdx).Nodup := by
  rw [Transfer.packets_eq, List.map_map]
  refine List.Nodup.map_on ?_ List.nodup_range
  intro first firstIn second secondIn same
  have firstLt := List.mem_range.mp firstIn
  have secondLt := List.mem_range.mp secondIn
  have values := congrArg UInt16.toNat same
  simp only [Function.comp_apply] at values
  rwa [packet_index_toNat firstLt, packet_index_toNat secondLt] at values

/-- A receiver that has stored something is in the middle of the transfer. -/
theorem receiving_of_nonempty
    (collecting : Collecting geometry transfer rx stored)
    (nonempty : stored.Nonempty) :
    Receiving geometry transfer rx stored := by
  cases collecting with
  | start => exact absurd nonempty Finset.not_nonempty_empty
  | middle receiving => exact receiving

/-- Packets in any order which bring what was missing complete the transfer. -/
theorem resend_completes
    (collecting : Collecting geometry transfer rx stored)
    {resent : List YkbProtocolPacket}
    (sentOnly : ∀ packet ∈ resent, packet ∈ transfer.packets geometry)
    (distinct : (resent.map fun packet => packet.header.packetIdx).Nodup)
    (exactly :
      ∀ packet ∈ transfer.packets geometry,
        packet ∈ resent ↔ packet.header.packetIdx.toNat ∉ stored) :
    let final := receiverAfter geometry rx resent
    Collecting geometry transfer final
        (Finset.range (transfer.count geometry)) ∧
      (resent ≠ [] →
        ((pushAll geometry rx resent).map (·.outcome.result)).getLast? =
          some .complete) := by
  have reached := collecting.after sentOnly
  have full :
      stored ∪ indicesOf resent =
        Finset.range (transfer.count geometry) := by
    refine Finset.Subset.antisymm reached.subset fun index member => ?_
    have within := Finset.mem_range.mp member
    by_cases already : index ∈ stored
    · exact Finset.mem_union_left _ already
    · have sent := Transfer.mem_packets.mpr ⟨index, within, rfl⟩
      have indexNat := packet_index_toNat within
      refine
        Finset.mem_union_right _
          (mem_indicesOf.mpr ⟨transfer.packet geometry index, ?_, indexNat⟩)
      rw [exactly _ sent, indexNat]
      exact already
  intro final
  refine ⟨full ▸ reached, fun nonempty => ?_⟩
  rcases (List.eq_nil_or_concat resent).resolve_left nonempty with
    ⟨earlier, last, rfl⟩
  have earlierSent :
      ∀ packet ∈ earlier, packet ∈ transfer.packets geometry :=
    fun packet member => sentOnly packet (by simp [member])
  have sent := sentOnly last (by simp)
  have before := collecting.after earlierSent
  rcases Transfer.mem_packets.mp sent with ⟨index, within, rfl⟩
  have indexNat := packet_index_toNat within
  -- the last packet brings the only index that is still missing
  have fresh : index ∉ stored ∪ indicesOf earlier := by
    intro member
    rcases Finset.mem_union.mp member with already | repeated
    · have missing := (exactly _ sent).mp (by simp)
      rw [indexNat] at missing
      exact missing already
    · rcases mem_indicesOf.mp repeated with ⟨packet, member, same⟩
      rw [List.concat_eq_append, List.map_append, List.nodup_append]
        at distinct
      refine
        distinct.2.2 packet.header.packetIdx
          (List.mem_map.mpr ⟨packet, member, rfl⟩)
          (transfer.packet geometry index).header.packetIdx (by simp) ?_
      apply UInt16.toNat_inj.mp
      rw [same, indexNat]
  have sizes :
      (insert index (stored ∪ indicesOf earlier)).card =
        transfer.count geometry := by
    have sets :
        insert index (stored ∪ indicesOf earlier) =
          Finset.range (transfer.count geometry) := by
      rw [← full]
      ext other
      simp [indicesOf, indexNat]
    rw [sets, Finset.card_range]
  have result := (before.push_new within fresh).result
  rw [if_pos sizes] at result
  rw [List.concat_eq_append, pushAll_concat, List.map_append,
    List.getLast?_append]
  simp [result]

/-- A receiver without room refuses every packet and stays as it is. -/
theorem push_without_room
    (resting : Idle rx) (cramped : ¬ RoomFor geometry transfer rx)
    {packets : List YkbProtocolPacket}
    (sentOnly : ∀ packet ∈ packets, packet ∈ transfer.packets geometry) :
    receiverAfter geometry rx packets = rx ∧
      ∀ record ∈ pushAll geometry rx packets,
        record.outcome.result.isError = true := by
  induction packets with
  | nil => exact ⟨rfl, fun _ member => absurd member List.not_mem_nil⟩
  | cons packet rest induction =>
      rcases Transfer.mem_packets.mp (sentOnly packet (by simp)) with
        ⟨index, within, rfl⟩
      have cannot :
          ¬ CanHold rx (transfer.packet geometry index).header :=
        cramped
      rcases begin_refused cannot with ⟨result, begun, isError, _⟩
      have pushed :
          ykbProtocolRxPushPacket geometry rx
              (transfer.packet geometry index) =
            ⟨rx, result,
              checkAccesses geometry (transfer.packet geometry index)⟩ := by
        rw [push_idle (packet_admissible within) resting.active, begun,
          if_pos isError]
        simp [RxOutcome.after]
      have remaining :=
        induction fun other member =>
          sentOnly other (List.mem_cons_of_mem _ member)
      constructor
      · rw [receiverAfter, List.foldl_cons, pushed]
        exact remaining.1
      · intro record member
        rw [pushAll, pushed] at member
        rcases List.mem_cons.mp member with rfl | later
        · exact isError
        · exact remaining.2 record later

/-- An idle receiver has nothing to report. -/
theorem collectMissing_idle (resting : Idle rx) (maxIndices : UInt16) :
    ykbProtocolRxCollectMissing rx maxIndices = ⟨0, []⟩ := by
  rw [ykbProtocolRxCollectMissing, resting.packetCount]
  split_ifs
  · rfl
  · rfl
  · cases rx.receivedBitmap <;> rfl

end Resend

/-! ## The report -/

section Report

variable (geometry : PacketGeometry) (transfer : Transfer)

/--
The report of a receiver that got packets of a transfer: the first missing
indices in increasing order, as many as fit, and their number; the packets of
a whole report, in any order, complete the transfer; nothing is missing after
COMPLETE.
-/
def ReportsMissing
    (fresh : YkbProtocolRxState) (arrivals : List YkbProtocolPacket) :
    Prop :=
  let rx := receiverAfter geometry fresh arrivals
  let missing := missingIndices geometry transfer (indicesOf arrivals)
  (∀ maxIndices,
      let report := ykbProtocolRxCollectMissing rx maxIndices
      report.indices.map UInt16.toNat = missing.take maxIndices.toNat ∧
        report.count.toNat = min maxIndices.toNat missing.length) ∧
    (∀ maxIndices, missing.length ≤ maxIndices.toNat →
      ∀ resent,
        resent.Perm
            (reportedPackets geometry transfer
              (ykbProtocolRxCollectMissing rx maxIndices)) →
          let final := receiverAfter geometry rx resent
          final.complete = true ∧
            (resent ≠ [] →
              ((pushAll geometry rx resent).map
                  (·.outcome.result)).getLast? =
                some .complete) ∧
            final.totalLen = transfer.totalLen ∧
            final.buffer.readBlock 0 final.totalLen.toNat =
              transfer.payload) ∧
    (.complete ∈ (pushAll geometry fresh arrivals).map (·.outcome.result) →
      ∀ maxIndices,
        ykbProtocolRxCollectMissing rx maxIndices = ⟨0, []⟩)

variable {geometry transfer}

theorem reportsMissing_of_start
    {fresh : YkbProtocolRxState} {arrivals : List YkbProtocolPacket}
    (start : Collecting geometry transfer fresh ∅)
    (sentOnly : ∀ packet ∈ arrivals, packet ∈ transfer.packets geometry)
    (nonempty : arrivals ≠ []) :
    ReportsMissing geometry transfer fresh arrivals := by
  have collecting := start.after sentOnly
  rw [Finset.empty_union] at collecting
  have outOfOrder := collecting.outOfOrder
  -- with a first packet the receiver is in the middle of the transfer
  have receiving :
      Receiving geometry transfer (receiverAfter geometry fresh arrivals)
        (indicesOf arrivals) := by
    rcases List.exists_mem_of_ne_nil arrivals nonempty with ⟨packet, member⟩
    exact
      receiving_of_nonempty collecting
        ⟨_, mem_indicesOf.mpr ⟨packet, member, rfl⟩⟩
  refine ⟨collectMissing_report receiving outOfOrder, ?_, ?_⟩
  · intro maxIndices fits resent order final
    have reported :
        ∀ packet ∈ transfer.packets geometry,
          packet ∈ resent ↔
            packet.header.packetIdx.toNat ∉ indicesOf arrivals := by
      intro packet sent
      have indices :=
        (collectMissing_report receiving outOfOrder maxIndices).1
      rw [List.take_of_length_le fits] at indices
      have listed :
          packet.header.packetIdx ∈
              (ykbProtocolRxCollectMissing
                (receiverAfter geometry fresh arrivals) maxIndices).indices ↔
            packet.header.packetIdx.toNat ∈
              missingIndices geometry transfer (indicesOf arrivals) := by
        rw [← indices, List.mem_map]
        constructor
        · exact fun member => ⟨_, member, rfl⟩
        · rintro ⟨idx, member, same⟩
          rwa [← UInt16.toNat_inj.mp same]
      have within :
          packet.header.packetIdx.toNat < transfer.count geometry := by
        rcases Transfer.mem_packets.mp sent with ⟨index, inside, rfl⟩
        rw [packet_index_toNat inside]
        exact inside
      rw [order.mem_iff, reportedPackets, List.mem_filter,
        and_iff_right sent, decide_eq_true_iff, listed, mem_missingIndices,
        and_iff_right within]
    have resentOnly :
        ∀ packet ∈ resent, packet ∈ transfer.packets geometry :=
      fun packet member => List.mem_of_mem_filter (order.mem_iff.mp member)
    have distinct :
        (resent.map fun packet => packet.header.packetIdx).Nodup :=
      (order.map _).nodup_iff.mpr
        (packets_indices_nodup.sublist (List.filter_sublist.map _))
    rcases resend_completes collecting resentOnly distinct reported with
      ⟨full, last⟩
    have payload := full.payload_of_full rfl
    have receivingAll :=
      receiving_of_nonempty full
        ⟨0, Finset.mem_range.mpr (transfer.count_pos geometry)⟩
    refine ⟨?_, last, payload.1, payload.2⟩
    rw [receivingAll.tracks.complete, receivingAll.packetCount_toNat,
      Finset.card_range]
  · intro completed maxIndices
    have full := start.full_of_complete sentOnly completed
    rw [Finset.empty_union] at full
    rw [collectMissing_receiving receiving outOfOrder,
      (missingIndices_eq_nil_iff collecting.subset).mpr full]
    simp [MissingReport.ofIndices]

end Report

/--
A receiver with room for the transfer reports exactly the missing packets, and
they suffice.  One without room refuses every packet, stays as it was
initialised and reports nothing.
-/
theorem missing_report_exact_and_sufficient
    (geometry : PacketGeometry) (transfer : Transfer)
    (buffer : Memory) (capacity : UInt16)
    (bitmap : Option Memory) (bitmapSize : Nat)
    (arrivals : List YkbProtocolPacket)
    (sentOnly : ∀ packet ∈ arrivals, packet ∈ transfer.packets geometry)
    (nonempty : arrivals ≠ []) :
    let fresh := ykbProtocolRxInit buffer capacity true bitmap bitmapSize
    (RoomFor geometry transfer fresh →
        ReportsMissing geometry transfer fresh arrivals) ∧
      (¬ RoomFor geometry transfer fresh →
        receiverAfter geometry fresh arrivals = fresh ∧
          (∀ record ∈ pushAll geometry fresh arrivals,
            record.outcome.result.isError = true) ∧
          ∀ maxIndices,
            ykbProtocolRxCollectMissing fresh maxIndices = ⟨0, []⟩) := by
  intro fresh
  have resting : Idle fresh := idle_rxInit _ _ _ _ _
  constructor
  · intro room
    exact
      reportsMissing_of_start (.start resting room rfl) sentOnly nonempty
  · intro cramped
    rcases push_without_room resting cramped sentOnly with ⟨kept, refused⟩
    exact ⟨kept, refused, collectMissing_idle resting⟩

/-- Of three packets the first and the last are reported missing. -/
theorem missing_of_three :
    let transfer := plainTransfer Memory.zero 120
    let fresh :=
      ykbProtocolRxInit Memory.zero 120 true (some Memory.zero) 1
    ReportsMissing usbGeometry transfer fresh
      [transfer.packet usbGeometry 1] :=
  (missing_report_exact_and_sufficient usbGeometry
    (plainTransfer Memory.zero 120) Memory.zero 120 (some Memory.zero) 1
    [(plainTransfer Memory.zero 120).packet usbGeometry 1]
    (by
      intro packet member
      rw [List.mem_singleton.mp member]
      exact Transfer.mem_packets.mpr ⟨1, by decide, rfl⟩)
    (by simp)).1 ⟨by decide, fun _ => ⟨rfl, by decide⟩⟩

/-- A receiver whose buffer is too small reports no missing packet. -/
theorem cramped_receiver_reports_nothing :
    ¬ ∀ (transfer : Transfer) (buffer : Memory) (capacity : UInt16)
        (bitmap : Option Memory) (bitmapSize : Nat)
        (arrivals : List YkbProtocolPacket),
      (∀ packet ∈ arrivals, packet ∈ transfer.packets usbGeometry) →
        arrivals ≠ [] →
          ReportsMissing usbGeometry transfer
            (ykbProtocolRxInit buffer capacity true bitmap bitmapSize)
            arrivals := by
  intro always
  let transfer := plainTransfer Memory.zero 120
  let fresh := ykbProtocolRxInit Memory.zero 0 true (some Memory.zero) 1
  have sentOnly :
      ∀ packet ∈ [transfer.packet usbGeometry 1],
        packet ∈ transfer.packets usbGeometry := by
    intro packet member
    rw [List.mem_singleton.mp member]
    exact Transfer.mem_packets.mpr ⟨1, by decide, rfl⟩
  have reports :=
    always transfer Memory.zero 0 (some Memory.zero) 1
      [transfer.packet usbGeometry 1] sentOnly (by simp)
  have resting : Idle fresh := idle_rxInit _ _ _ _ _
  have cramped : ¬ RoomFor usbGeometry transfer fresh :=
    fun room => absurd room.1 (by decide)
  have counted := (reports.1 1).2
  rw [(push_without_room resting cramped sentOnly).1,
    collectMissing_idle resting] at counted
  -- packet 0 has not arrived
  have missing :
      0 ∈ missingIndices usbGeometry transfer
        (indicesOf [transfer.packet usbGeometry 1]) :=
    mem_missingIndices.mpr ⟨by decide, by decide⟩
  have positive := List.length_pos_of_mem missing
  have one : (1 : UInt16).toNat = 1 := rfl
  have zero : (0 : UInt16).toNat = 0 := rfl
  rw [one, zero] at counted
  omega

end YkbFirmware.Protocol.MissingPackets
