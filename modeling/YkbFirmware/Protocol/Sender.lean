import YkbFirmware.Protocol.Wire

/-!
# The sending side of the YKB protocol

`ykb_protocol_tx_init`, `ykb_protocol_tx_has_more` and
`ykb_protocol_tx_build_packet`, followed by the loop every caller wraps
around them.

A `Transfer` is what a caller hands to `ykb_protocol_tx_init`: a payload in
memory, its length, an id and base flags of type DATA.  The packet a transfer
puts on the wire at each index is then an explicit function of the transfer,
and the loop produces exactly these packets in index order.
-/

namespace YkbFirmware.Protocol.Sender

open YkbFirmware.Library.ByteMemory
open YkbFirmware.Library.Segmentation
open YkbFirmware.Protocol.Wire

/-- `ykb_protocol_tx_state_t`; a null data pointer is `none`. -/
structure YkbProtocolTxState where
  data : Option Memory
  totalLen : UInt16
  offset : UInt16
  transferId : UInt8
  packetCount : UInt16
  nextPacketIdx : UInt16
  typeFlagsBase : UInt8

def ykbProtocolTxInit
    (geometry : PacketGeometry)
    (data : Option Memory) (totalLen : UInt16)
    (transferId typeFlagsBase : UInt8) : YkbProtocolTxState where
  data := data
  totalLen := totalLen
  offset := 0
  transferId := transferId
  packetCount := ykbProtocolCalcPacketCount geometry totalLen
  nextPacketIdx := 0
  typeFlagsBase := withoutStartEnd typeFlagsBase

def ykbProtocolTxHasMore (tx : YkbProtocolTxState) : Bool :=
  decide (tx.nextPacketIdx < tx.packetCount)

/-- START on the first packet, END on the last. -/
def packetTypeFlags (typeFlagsBase : UInt8) (idx packetCount : UInt16) :
    UInt8 :=
  let started :=
    if idx = 0 then typeFlagsBase ||| ykbProtocolFlagStart
    else typeFlagsBase
  if idx = packetCount - 1 then started ||| ykbProtocolFlagEnd
  else started

/-- The header of the next packet, its checksum still zero. -/
def nextHeader (tx : YkbProtocolTxState) : YkbProtocolHeader where
  crc := 0
  version := ykbProtocolVersion
  typeFlags :=
    packetTypeFlags tx.typeFlagsBase tx.nextPacketIdx tx.packetCount
  transferId := tx.transferId
  packetIdx := tx.nextPacketIdx
  packetCount := tx.packetCount
  totalLen := tx.totalLen

def nextPayloadLen
    (geometry : PacketGeometry) (tx : YkbProtocolTxState) : UInt16 :=
  ykbProtocolPayloadLenForIndex geometry tx.totalLen tx.nextPacketIdx
    tx.packetCount

/--
The payload area and the new offset.  The packet is zeroed before the copy,
so bytes past the payload stay zero.
-/
def copyPayload
    (geometry : PacketGeometry) (tx : YkbProtocolTxState) :
    Memory × UInt16 :=
  let payloadLen := nextPayloadLen geometry tx
  match tx.data with
  | some data =>
      if payloadLen > 0 then
        (Memory.zero.writeBlock 0 payloadLen.toNat
            (data.shift tx.offset.toNat),
          tx.offset + payloadLen)
      else
        (Memory.zero, tx.offset)
  | none => (Memory.zero, tx.offset)

/-- `none` is the `false` of the source: nothing left to build. -/
def ykbProtocolTxBuildPacket
    (geometry : PacketGeometry) (tx : YkbProtocolTxState) :
    Option (YkbProtocolPacket × YkbProtocolTxState) :=
  if ykbProtocolTxHasMore tx then
    let header := nextHeader tx
    let copied := copyPayload geometry tx
    let crc := ykbProtocolComputePacketCrc geometry ⟨header, copied.1⟩
    some
      (⟨{ header with crc := crc }, copied.1⟩,
        { tx with
          offset := copied.2
          nextPacketIdx := tx.nextPacketIdx + 1 })
  else
    none

/-- Every successful build leaves one packet less to build. -/
theorem buildPacket_decreases
    {geometry : PacketGeometry}
    {tx next : YkbProtocolTxState} {packet : YkbProtocolPacket}
    (built : ykbProtocolTxBuildPacket geometry tx = some (packet, next)) :
    next.packetCount.toNat - next.nextPacketIdx.toNat <
      tx.packetCount.toNat - tx.nextPacketIdx.toNat := by
  rw [ykbProtocolTxBuildPacket] at built
  split_ifs at built with more
  · have less := UInt16.lt_iff_toNat_lt.mp (of_decide_eq_true more)
    have bound := tx.packetCount.toNat_lt
    cases built
    have unit : (1 : UInt16).toNat = 1 := rfl
    simp only [UInt16.toNat_add, unit]
    omega

/--
The loop `while (ykb_protocol_tx_has_more(&tx)) build`: every packet built,
with the sender state it was built from.
-/
def buildAll (geometry : PacketGeometry) (tx : YkbProtocolTxState) :
    List (YkbProtocolTxState × YkbProtocolPacket) :=
  match _ : ykbProtocolTxBuildPacket geometry tx with
  | none => []
  | some (packet, next) => (tx, packet) :: buildAll geometry next
termination_by tx.packetCount.toNat - tx.nextPacketIdx.toNat
decreasing_by exact buildPacket_decreases (by assumption)

theorem buildAll_none
    {geometry : PacketGeometry} {tx : YkbProtocolTxState}
    (done : ykbProtocolTxBuildPacket geometry tx = none) :
    buildAll geometry tx = [] := by
  rw [buildAll]
  split
  · rfl
  · rename_i built
    rw [done] at built
    cases built

theorem buildAll_some
    {geometry : PacketGeometry}
    {tx next : YkbProtocolTxState} {packet : YkbProtocolPacket}
    (built : ykbProtocolTxBuildPacket geometry tx = some (packet, next)) :
    buildAll geometry tx = (tx, packet) :: buildAll geometry next := by
  rw [buildAll]
  split
  · rename_i stopped
    rw [built] at stopped
    cases stopped
  · rename_i packet' next' built'
    rw [built] at built'
    cases built'
    rfl

/-! ## Transfers -/

/-- A DATA payload handed to the sender. -/
structure Transfer where
  data : Memory
  totalLen : UInt16
  transferId : UInt8
  typeFlagsBase : UInt8
  isData :
    ykbProtocolGetType typeFlagsBase = YkbProtocolType.data.code

namespace Transfer

variable (geometry : PacketGeometry) (transfer : Transfer)

/-- The bytes the transfer carries. -/
def payload (transfer : Transfer) : List UInt8 :=
  transfer.data.readBlock 0 transfer.totalLen.toNat

/-- Number of packets of the transfer. -/
def count : Nat :=
  segmentCount geometry.maxPayloadSize transfer.totalLen.toNat

/-- Number of payload bytes in the packet at `index`. -/
def lengthAt (index : Nat) : Nat :=
  segmentLength geometry.maxPayloadSize transfer.totalLen.toNat index

def packetCount : UInt16 :=
  ykbProtocolCalcPacketCount geometry transfer.totalLen

/-- The sender set up for the transfer. -/
def sender : YkbProtocolTxState :=
  ykbProtocolTxInit geometry (some transfer.data) transfer.totalLen
    transfer.transferId transfer.typeFlagsBase

/-- The sender after `index` packets. -/
def senderAt (index : Nat) : YkbProtocolTxState where
  data := some transfer.data
  totalLen := transfer.totalLen
  offset :=
    UInt16.ofNat
      (min (index * geometry.maxPayloadSize) transfer.totalLen.toNat)
  transferId := transfer.transferId
  packetCount := transfer.packetCount geometry
  nextPacketIdx := UInt16.ofNat index
  typeFlagsBase := withoutStartEnd transfer.typeFlagsBase

/-- The header at `index` before the checksum is filled in. -/
def headerAt (index : Nat) : YkbProtocolHeader where
  crc := 0
  version := ykbProtocolVersion
  typeFlags :=
    packetTypeFlags (withoutStartEnd transfer.typeFlagsBase)
      (UInt16.ofNat index) (transfer.packetCount geometry)
  transferId := transfer.transferId
  packetIdx := UInt16.ofNat index
  packetCount := transfer.packetCount geometry
  totalLen := transfer.totalLen

/-- The payload area of the packet at `index`. -/
def payloadAt (index : Nat) : Memory :=
  Memory.zero.writeBlock 0 (transfer.lengthAt geometry index)
    (transfer.data.shift (index * geometry.maxPayloadSize))

/-- The packet the transfer puts on the wire at `index`. -/
def packet (index : Nat) : YkbProtocolPacket where
  header :=
    { transfer.headerAt geometry index with
      crc :=
        ykbProtocolComputePacketCrc geometry
          ⟨transfer.headerAt geometry index,
            transfer.payloadAt geometry index⟩ }
  payload := transfer.payloadAt geometry index

theorem packetCount_toNat :
    (transfer.packetCount geometry).toNat = transfer.count geometry :=
  calcPacketCount_toNat geometry transfer.totalLen

theorem count_pos : 0 < transfer.count geometry :=
  segmentCount_pos geometry.maxPayloadSize_pos

theorem count_le : transfer.count geometry ≤ 65535 := by
  have bound := (transfer.packetCount geometry).toNat_lt
  rw [packetCount_toNat] at bound
  omega

variable {geometry transfer} {index : Nat}

theorem index_toNat (within : index < transfer.count geometry) :
    (UInt16.ofNat index).toNat = index := by
  have bound := transfer.count_le geometry
  rw [UInt16.toNat_ofNat', Nat.mod_eq_of_lt (by omega)]

theorem payloadLen_toNat (within : index < transfer.count geometry) :
    (ykbProtocolPayloadLenForIndex geometry transfer.totalLen
        (UInt16.ofNat index) (transfer.packetCount geometry)).toNat =
      transfer.lengthAt geometry index := by
  rw [payloadLenForIndex_toNat (transfer.packetCount_toNat geometry)]
  · rw [index_toNat within]
    rfl
  · rw [index_toNat within, packetCount_toNat]
    exact within

/-- The offset of the sender before `index` is where its segment starts. -/
theorem senderAt_offset_toNat (index : Nat) :
    (transfer.senderAt geometry index).offset.toNat =
      min (index * geometry.maxPayloadSize) transfer.totalLen.toNat := by
  have bound := transfer.totalLen.toNat_lt
  rw [senderAt, UInt16.toNat_ofNat', Nat.mod_eq_of_lt (by omega)]

theorem senderAt_start :
    transfer.senderAt geometry 0 = transfer.sender geometry := by
  simp [senderAt, sender, ykbProtocolTxInit, packetCount]

/-- The copy at `index` fetches segment `index` and moves on past it. -/
theorem copyPayload_senderAt (within : index < transfer.count geometry) :
    copyPayload geometry (transfer.senderAt geometry index) =
      (transfer.payloadAt geometry index,
        (transfer.senderAt geometry (index + 1)).offset) := by
  have start := mul_le_total geometry.maxPayloadSize_pos within
  have ends := segment_end_le geometry.maxPayloadSize_pos within
  have bound := transfer.totalLen.toNat_lt
  have lengthNat : 
      (nextPayloadLen geometry (transfer.senderAt geometry index)).toNat =
        transfer.lengthAt geometry index :=
    payloadLen_toNat within
  have offsetNat :
      (transfer.senderAt geometry index).offset.toNat =
        index * geometry.maxPayloadSize := by
    rw [senderAt_offset_toNat, Nat.min_eq_left start]
  have nextNat :
      (transfer.senderAt geometry (index + 1)).offset.toNat =
        index * geometry.maxPayloadSize +
          transfer.lengthAt geometry index := by
    rw [senderAt_offset_toNat, lengthAt, segmentLength, Nat.add_mul]
    omega
  have data : (transfer.senderAt geometry index).data = some transfer.data :=
    rfl
  rw [copyPayload, data]
  split_ifs with nonempty
  · apply Prod.ext
    · simp only [lengthNat, offsetNat, payloadAt]
    · apply UInt16.toNat_inj.mp
      rw [UInt16.toNat_add, lengthNat, offsetNat, nextNat]
      rw [lengthAt] at *
      omega
  · have empty : transfer.lengthAt geometry index = 0 := by
      rw [← lengthNat]
      exact Nat.eq_zero_of_not_pos fun positive =>
        nonempty (UInt16.lt_iff_toNat_lt.mpr positive)
    apply Prod.ext
    · simp only [payloadAt, empty, Memory.writeBlock_zero]
    · apply UInt16.toNat_inj.mp
      rw [offsetNat, nextNat, empty, Nat.add_zero]

/-- One round of the loop emits the packet at `index`. -/
theorem build_senderAt (within : index < transfer.count geometry) :
    ykbProtocolTxBuildPacket geometry (transfer.senderAt geometry index) =
      some
        (transfer.packet geometry index,
          transfer.senderAt geometry (index + 1)) := by
  have more :
      ykbProtocolTxHasMore (transfer.senderAt geometry index) = true := by
    apply decide_eq_true
    apply UInt16.lt_iff_toNat_lt.mpr
    change (UInt16.ofNat index).toNat <
      (transfer.packetCount geometry).toNat
    rw [index_toNat within, packetCount_toNat]
    exact within
  have header :
      nextHeader (transfer.senderAt geometry index) =
        transfer.headerAt geometry index :=
    rfl
  rw [ykbProtocolTxBuildPacket, if_pos more, header,
    copyPayload_senderAt within]
  simp [packet, senderAt]

theorem build_senderAt_count :
    ykbProtocolTxBuildPacket geometry
        (transfer.senderAt geometry (transfer.count geometry)) =
      none := by
  have bound := transfer.count_le geometry
  have done :
      ¬ ykbProtocolTxHasMore
          (transfer.senderAt geometry (transfer.count geometry)) = true := by
    intro more
    have less := UInt16.lt_iff_toNat_lt.mp (of_decide_eq_true more)
    change (UInt16.ofNat (transfer.count geometry)).toNat <
      (transfer.packetCount geometry).toNat at less
    rw [packetCount_toNat, UInt16.toNat_ofNat',
      Nat.mod_eq_of_lt (by omega)] at less
    exact Nat.lt_irrefl _ less
  rw [ykbProtocolTxBuildPacket, if_neg done]

/-- From `index` on, the loop emits the remaining packets in order. -/
theorem buildAll_senderAt
    (remaining : Nat) (index : Nat)
    (ends : index + remaining = transfer.count geometry) :
    buildAll geometry (transfer.senderAt geometry index) =
      (List.range' index remaining).map fun position =>
        (transfer.senderAt geometry position,
          transfer.packet geometry position) := by
  induction remaining generalizing index with
  | zero =>
      rw [Nat.add_zero] at ends
      rw [ends, buildAll_none build_senderAt_count]
      rfl
  | succ remaining induction =>
      rw [buildAll_some (build_senderAt (by omega)),
        induction (index + 1) (by omega), List.range'_succ,
        List.map_cons]

/-- The whole loop: one packet per segment, in index order. -/
theorem buildAll_sender :
    buildAll geometry (transfer.sender geometry) =
      (List.range (transfer.count geometry)).map fun index =>
        (transfer.senderAt geometry index,
          transfer.packet geometry index) := by
  rw [← senderAt_start, buildAll_senderAt (transfer.count geometry) 0
    (Nat.zero_add _), List.range_eq_range']

/-- The packets the sending loop puts out for the transfer. -/
def packets (geometry : PacketGeometry) (transfer : Transfer) :
    List YkbProtocolPacket :=
  (buildAll geometry (transfer.sender geometry)).map Prod.snd

theorem packets_eq :
    transfer.packets geometry =
      (List.range (transfer.count geometry)).map
        (transfer.packet geometry) := by
  rw [packets, buildAll_sender, List.map_map]
  rfl

theorem mem_packets {packet : YkbProtocolPacket} :
    packet ∈ transfer.packets geometry ↔
      ∃ index < transfer.count geometry,
        transfer.packet geometry index = packet := by
  simp [packets_eq]

@[simp]
theorem length_packets :
    (transfer.packets geometry).length = transfer.count geometry := by
  simp [packets_eq]

/-! ## What the receiver can rely on -/

theorem packet_type :
    ykbProtocolGetType (transfer.packet geometry index).header.typeFlags =
      YkbProtocolType.data.code := by
  rw [← transfer.isData]
  simp only [packet, headerAt, packetTypeFlags]
  split_ifs <;> simp

theorem packet_headerValid (within : index < transfer.count geometry) :
    HeaderValid geometry (transfer.packet geometry index).header := by
  refine ⟨rfl, ?_, ?_, transfer.packetCount_toNat geometry⟩
  · rw [packet_type]
    decide
  · change (UInt16.ofNat index).toNat <
      (transfer.packetCount geometry).toNat
    rw [index_toNat within, packetCount_toNat]
    exact within

/-- Both sides compute the checksum over the same zeroed header. -/
theorem packet_crc :
    ykbProtocolComputePacketCrc geometry (transfer.packet geometry index) =
      (transfer.packet geometry index).header.crc :=
  rfl

@[simp]
theorem packet_flagsBase :
    withoutStartEnd (transfer.packet geometry index).header.typeFlags =
      withoutStartEnd transfer.typeFlagsBase := by
  simp only [packet, headerAt, packetTypeFlags]
  split_ifs <;> simp

/-- Packet `index` carries segment `index` of the payload. -/
theorem packet_payload
    {position : Nat} (within : position < transfer.lengthAt geometry index) :
    (transfer.packet geometry index).payload position =
      transfer.data (index * geometry.maxPayloadSize + position) := by
  change transfer.payloadAt geometry index position = _
  rw [payloadAt, Memory.writeBlock_inside (Nat.zero_le _) (by omega)]
  simp

end Transfer

/-- A transfer of `totalLen` bytes of type DATA without further flags. -/
def plainTransfer (data : Memory) (totalLen : UInt16) : Transfer where
  data := data
  totalLen := totalLen
  transferId := 0
  typeFlagsBase := 0
  isData := by decide

end YkbFirmware.Protocol.Sender
