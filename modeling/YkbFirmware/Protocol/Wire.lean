import YkbFirmware.Library.ByteMemory
import YkbFirmware.Library.Segmentation

/-!
# The YKB protocol on the wire

Headers, packets, checksums and the packet arithmetic of
`include/lib/ykb_protocol.h`, in the fixed-width types of the source.  The
payload of a packet is memory rather than a list, so that a read past
`YKB_PROTOCOL_MAX_PAYLOAD_SIZE` would be expressible.

The second half connects the 16-bit arithmetic with the segmentation library:
for a header which passes `ykb_protocol_is_header_valid` none of the casts
loses anything.
-/

namespace YkbFirmware.Protocol.Wire

open YkbFirmware.Library.ByteMemory
open YkbFirmware.Library.Segmentation

/-- `sizeof(ykb_protocol_header_t)`, a packed structure. -/
def headerSize : Nat := 11

def ykbProtocolVersion : UInt8 := 1
def ykbProtocolTypeMask : UInt8 := 0x03
def ykbProtocolFlagStart : UInt8 := 0x04
def ykbProtocolFlagEnd : UInt8 := 0x08

/-- `ykb_protocol_type_t`. -/
inductive YkbProtocolType where
  | data
  | ack
  | abort
deriving DecidableEq, Repr

def YkbProtocolType.code : YkbProtocolType → UInt8
  | .data => 0
  | .ack => 1
  | .abort => 2

/--
The compile-time packet size.  The lower bound is the build assertion of the
source; the upper one keeps the unsigned sum in
`ykb_protocol_calc_packet_count` below `2 ^ 32`.
-/
structure PacketGeometry where
  maxPacketSize : Nat
  headerFits : headerSize < maxPacketSize
  sumFits : maxPacketSize + 65535 < 2 ^ 32

namespace PacketGeometry

/-- `YKB_PROTOCOL_MAX_PAYLOAD_SIZE`. -/
def maxPayloadSize (geometry : PacketGeometry) : Nat :=
  geometry.maxPacketSize - headerSize

theorem maxPayloadSize_pos (geometry : PacketGeometry) :
    0 < geometry.maxPayloadSize :=
  Nat.sub_pos_of_lt geometry.headerFits

theorem sum_lt (geometry : PacketGeometry) (totalLen : UInt16) :
    totalLen.toNat + geometry.maxPayloadSize - 1 < 2 ^ 32 := by
  have bound := totalLen.toNat_lt
  have fits := geometry.sumFits
  rw [maxPayloadSize]
  omega

end PacketGeometry

/-- The USB packet size of the firmware. -/
def usbGeometry : PacketGeometry where
  maxPacketSize := 64
  headerFits := by decide
  sumFits := by decide

/-- `ykb_protocol_header_t`. -/
structure YkbProtocolHeader where
  crc : UInt16
  version : UInt8
  typeFlags : UInt8
  transferId : UInt8
  packetIdx : UInt16
  packetCount : UInt16
  totalLen : UInt16
deriving DecidableEq, Repr

/-- `ykb_protocol_packet_t`; `payload` is the memory after the header. -/
@[ext]
structure YkbProtocolPacket where
  header : YkbProtocolHeader
  payload : Memory

/-! ## Checksums -/

/-- One step of the inner loop of `ykb_protocol_crc16_update`. -/
def crc16Bit (crc : UInt16) : UInt16 :=
  if crc &&& 0x0001 ≠ 0 then (crc >>> 1) ^^^ 0xA001 else crc >>> 1

/-- One data byte: exclusive or, then eight steps. -/
def crc16Byte (crc : UInt16) (byte : UInt8) : UInt16 :=
  Nat.iterate crc16Bit 8 (crc ^^^ byte.toUInt16)

def ykbProtocolCrc16Update (crc : UInt16) (data : List UInt8) : UInt16 :=
  data.foldl crc16Byte crc

/-! ## Flags and packet arithmetic -/

def ykbProtocolGetType (typeFlags : UInt8) : UInt8 :=
  typeFlags &&& ykbProtocolTypeMask

/-- `type_flags & (uint8_t)~(FLAG_START | FLAG_END)`. -/
def withoutStartEnd (typeFlags : UInt8) : UInt8 :=
  typeFlags &&& ~~~(ykbProtocolFlagStart ||| ykbProtocolFlagEnd)

def ykbProtocolCalcPacketCount
    (geometry : PacketGeometry) (totalLen : UInt16) : UInt16 :=
  if totalLen = 0 then
    1
  else
    UInt16.ofNat
      ((totalLen.toNat + geometry.maxPayloadSize - 1) % 2 ^ 32 /
        geometry.maxPayloadSize)

def ykbProtocolBitmapSizeBytes (packetCount : UInt16) : Nat :=
  (packetCount.toNat + 7) / 8

def ykbProtocolPayloadLenForIndex
    (geometry : PacketGeometry)
    (totalLen packetIdx packetCount : UInt16) : UInt16 :=
  if packetCount = 0 ∨ packetIdx ≥ packetCount then
    0
  else if totalLen = 0 then
    0
  else if packetCount = 1 then
    totalLen
  else if packetIdx < packetCount - 1 then
    UInt16.ofNat geometry.maxPayloadSize
  else
    let used :=
      UInt16.ofNat ((packetCount.toNat - 1) * geometry.maxPayloadSize)
    totalLen - used

def ykbProtocolIsHeaderValid
    (geometry : PacketGeometry) (header : YkbProtocolHeader) : Bool :=
  if header.version ≠ ykbProtocolVersion then
    false
  else if
      ykbProtocolGetType header.typeFlags > YkbProtocolType.abort.code then
    false
  else if header.packetCount = 0 then
    false
  else if header.packetIdx ≥ header.packetCount then
    false
  else if header.totalLen = 0 then
    decide (header.packetCount = 1 ∧ header.packetIdx = 0)
  else
    decide
      (ykbProtocolCalcPacketCount geometry header.totalLen =
        header.packetCount)

/-! ## Byte layout -/

def lowByte (value : UInt16) : UInt8 :=
  UInt8.ofNat (value.toNat % 256)

def highByte (value : UInt16) : UInt8 :=
  UInt8.ofNat (value.toNat / 256)

/-- A little-endian 16-bit field. -/
def fieldOfBytes (low high : UInt8) : UInt16 :=
  UInt16.ofNat (low.toNat + 256 * high.toNat)

/-- The packed header as the processor stores it. -/
def YkbProtocolHeader.bytes (header : YkbProtocolHeader) : List UInt8 :=
  [lowByte header.crc, highByte header.crc,
    header.version, header.typeFlags, header.transferId,
    lowByte header.packetIdx, highByte header.packetIdx,
    lowByte header.packetCount, highByte header.packetCount,
    lowByte header.totalLen, highByte header.totalLen]

/-- The cast `(const ykb_protocol_packet_t *)data`. -/
def packetAt (data : Memory) : YkbProtocolPacket where
  header :=
    { crc := fieldOfBytes (data 0) (data 1)
      version := data 2
      typeFlags := data 3
      transferId := data 4
      packetIdx := fieldOfBytes (data 5) (data 6)
      packetCount := fieldOfBytes (data 7) (data 8)
      totalLen := fieldOfBytes (data 9) (data 10) }
  payload := data.shift headerSize

/-- The first `length` bytes of the packet structure. -/
def YkbProtocolPacket.bytes
    (packet : YkbProtocolPacket) (length : Nat) : List UInt8 :=
  (packet.header.bytes ++
    packet.payload.readBlock 0 (length - headerSize)).take length

/-- The payload bytes `ykb_protocol_compute_packet_crc` reads. -/
def crcPayloadLen
    (geometry : PacketGeometry) (header : YkbProtocolHeader) : UInt16 :=
  ykbProtocolPayloadLenForIndex geometry
    header.totalLen header.packetIdx header.packetCount

def ykbProtocolComputePacketCrc
    (geometry : PacketGeometry) (packet : YkbProtocolPacket) : UInt16 :=
  let hdr := { packet.header with crc := 0 }
  let payloadLen := crcPayloadLen geometry hdr
  let crc := ykbProtocolCrc16Update 0xFFFF hdr.bytes
  ykbProtocolCrc16Update crc (packet.payload.readBlock 0 payloadLen.toNat)

/-! ## Flag lemmas -/

private theorem or_and_distrib (first second mask : UInt8) :
    (first ||| second) &&& mask = (first &&& mask) ||| (second &&& mask) := by
  apply UInt8.toBitVec_inj.mp
  ext bit within
  simp [Bool.and_or_distrib_right]

@[simp]
theorem withoutStartEnd_idempotent (typeFlags : UInt8) :
    withoutStartEnd (withoutStartEnd typeFlags) =
      withoutStartEnd typeFlags := by
  simp [withoutStartEnd, UInt8.and_assoc]

@[simp]
theorem withoutStartEnd_start (typeFlags : UInt8) :
    withoutStartEnd (typeFlags ||| ykbProtocolFlagStart) =
      withoutStartEnd typeFlags := by
  rw [withoutStartEnd, or_and_distrib]
  have cleared :
      ykbProtocolFlagStart &&&
          ~~~(ykbProtocolFlagStart ||| ykbProtocolFlagEnd) = 0 := by
    decide
  simp [cleared, withoutStartEnd]

@[simp]
theorem withoutStartEnd_end (typeFlags : UInt8) :
    withoutStartEnd (typeFlags ||| ykbProtocolFlagEnd) =
      withoutStartEnd typeFlags := by
  rw [withoutStartEnd, or_and_distrib]
  have cleared :
      ykbProtocolFlagEnd &&&
          ~~~(ykbProtocolFlagStart ||| ykbProtocolFlagEnd) = 0 := by
    decide
  simp [cleared, withoutStartEnd]

/-- START and END lie outside the type bits. -/
@[simp]
theorem ykbProtocolGetType_withoutStartEnd (typeFlags : UInt8) :
    ykbProtocolGetType (withoutStartEnd typeFlags) =
      ykbProtocolGetType typeFlags := by
  have disjoint :
      ~~~(ykbProtocolFlagStart ||| ykbProtocolFlagEnd) &&&
          ykbProtocolTypeMask = ykbProtocolTypeMask := by
    decide
  rw [ykbProtocolGetType, withoutStartEnd, UInt8.and_assoc, disjoint,
    ykbProtocolGetType]

@[simp]
theorem ykbProtocolGetType_start (typeFlags : UInt8) :
    ykbProtocolGetType (typeFlags ||| ykbProtocolFlagStart) =
      ykbProtocolGetType typeFlags := by
  rw [← ykbProtocolGetType_withoutStartEnd, withoutStartEnd_start,
    ykbProtocolGetType_withoutStartEnd]

@[simp]
theorem ykbProtocolGetType_end (typeFlags : UInt8) :
    ykbProtocolGetType (typeFlags ||| ykbProtocolFlagEnd) =
      ykbProtocolGetType typeFlags := by
  rw [← ykbProtocolGetType_withoutStartEnd, withoutStartEnd_end,
    ykbProtocolGetType_withoutStartEnd]

/-! ## Byte-layout lemmas -/

@[simp]
theorem headerBytes_length (header : YkbProtocolHeader) :
    header.bytes.length = headerSize :=
  rfl

@[simp]
theorem fieldOfBytes_low_high (value : UInt16) :
    fieldOfBytes (lowByte value) (highByte value) = value := by
  have bound := value.toNat_lt
  apply UInt16.toNat_inj.mp
  simp only [fieldOfBytes, lowByte, highByte, UInt16.toNat_ofNat',
    UInt8.toNat_ofNat']
  omega

/-! ## Exact arithmetic

The remaining lemmas say that on valid headers the 16-bit results are the
mathematical ones.
-/

theorem uint16_eq_zero_iff (value : UInt16) :
    value = 0 ↔ value.toNat = 0 := by
  rw [← UInt16.toNat_inj]
  rfl

theorem uint16_eq_one_iff (value : UInt16) :
    value = 1 ↔ value.toNat = 1 := by
  rw [← UInt16.toNat_inj]
  rfl

/-- The packet count of the source is the number of segments. -/
theorem calcPacketCount_toNat
    (geometry : PacketGeometry) (totalLen : UInt16) :
    (ykbProtocolCalcPacketCount geometry totalLen).toNat =
      segmentCount geometry.maxPayloadSize totalLen.toNat := by
  have positive := geometry.maxPayloadSize_pos
  have bound := totalLen.toNat_lt
  rw [ykbProtocolCalcPacketCount]
  split_ifs with empty
  · simp [empty]
  · have nonempty : totalLen.toNat ≠ 0 := fun zero =>
      empty ((uint16_eq_zero_iff totalLen).2 zero)
    have countLe :
        segmentCount geometry.maxPayloadSize totalLen.toNat ≤
          65535 :=
      segmentCount_le positive (by omega) (by decide)
    rw [segmentCount, if_neg nonempty] at countLe ⊢
    rw [UInt16.toNat_ofNat', Nat.mod_eq_of_lt (geometry.sum_lt totalLen),
      Nat.mod_eq_of_lt (by omega)]

/-- What `ykb_protocol_is_header_valid` accepts, in exact arithmetic. -/
structure HeaderValid
    (geometry : PacketGeometry) (header : YkbProtocolHeader) : Prop where
  version : header.version = ykbProtocolVersion
  typeLe :
    ykbProtocolGetType header.typeFlags ≤ YkbProtocolType.abort.code
  indexLt : header.packetIdx.toNat < header.packetCount.toNat
  countEq :
    header.packetCount.toNat =
      segmentCount geometry.maxPayloadSize header.totalLen.toNat

theorem isHeaderValid_iff
    (geometry : PacketGeometry) (header : YkbProtocolHeader) :
    ykbProtocolIsHeaderValid geometry header = true ↔
      HeaderValid geometry header := by
  constructor
  · intro valid
    rw [ykbProtocolIsHeaderValid] at valid
    split_ifs at valid with badVersion badType noPackets badIndex empty
    · have single := of_decide_eq_true valid
      refine ⟨not_not.mp badVersion, UInt8.not_lt.mp badType, ?_, ?_⟩
      · rw [single.1, single.2]
        decide
      · rw [single.1, empty]
        rfl
    · have counted := of_decide_eq_true valid
      refine ⟨not_not.mp badVersion, UInt8.not_lt.mp badType,
        UInt16.lt_iff_toNat_lt.mp (UInt16.not_le.mp badIndex), ?_⟩
      rw [← counted, calcPacketCount_toNat]
  · intro valid
    have positive : header.packetCount ≠ 0 := by
      intro zero
      have indexLt := valid.indexLt
      rw [zero] at indexLt
      exact absurd indexLt (Nat.not_lt_zero _)
    have indexOk : ¬ header.packetIdx ≥ header.packetCount :=
      UInt16.not_le.mpr (UInt16.lt_iff_toNat_lt.mpr valid.indexLt)
    rw [ykbProtocolIsHeaderValid, if_neg (not_not.mpr valid.version),
      if_neg (UInt8.not_lt.mpr valid.typeLe), if_neg positive, if_neg indexOk]
    split_ifs with empty
    · have counted := valid.countEq
      have indexLt := valid.indexLt
      rw [empty] at counted
      have single : header.packetCount.toNat = 1 := counted
      have first : header.packetIdx.toNat = 0 := by omega
      exact decide_eq_true
        ⟨(uint16_eq_one_iff _).2 single, (uint16_eq_zero_iff _).2 first⟩
    · apply decide_eq_true
      apply UInt16.toNat_inj.mp
      rw [calcPacketCount_toNat, valid.countEq]

section Lengths

variable
    {geometry : PacketGeometry}
    {totalLen packetIdx packetCount : UInt16}

/-- The per-index length of the source is the segment length. -/
theorem payloadLenForIndex_toNat
    (counted :
      packetCount.toNat =
        segmentCount geometry.maxPayloadSize totalLen.toNat)
    (indexLt : packetIdx.toNat < packetCount.toNat) :
    (ykbProtocolPayloadLenForIndex geometry
        totalLen packetIdx packetCount).toNat =
      segmentLength geometry.maxPayloadSize totalLen.toNat
        packetIdx.toNat := by
  have positive := geometry.maxPayloadSize_pos
  have bound := totalLen.toNat_lt
  have countPositive : ¬ (packetCount = 0 ∨ packetIdx ≥ packetCount) := by
    rintro (zero | beyond)
    · rw [zero] at indexLt
      exact absurd indexLt (Nat.not_lt_zero _)
    · exact absurd (UInt16.le_iff_toNat_le.mp beyond) (by omega)
  rw [ykbProtocolPayloadLenForIndex, if_neg countPositive]
  split_ifs with empty single inner
  · simp [empty]
  · have one := (uint16_eq_one_iff packetCount).1 single
    have first : packetIdx.toNat = 0 := by omega
    have last := segmentLength_last positive
      (show packetIdx.toNat + 1 =
        segmentCount geometry.maxPayloadSize totalLen.toNat by omega)
    rw [last, first]
    simp
  · have notOne : packetCount.toNat ≠ 1 := fun one =>
      single ((uint16_eq_one_iff packetCount).2 one)
    have oneLe : (1 : UInt16) ≤ packetCount := by
      rw [UInt16.le_iff_toNat_le]
      exact Nat.one_le_iff_ne_zero.mpr (by omega)
    have innerNat := UInt16.lt_iff_toNat_lt.mp inner
    rw [UInt16.toNat_sub_of_le _ _ oneLe] at innerNat
    have innerLt :
        packetIdx.toNat + 1 <
          segmentCount geometry.maxPayloadSize totalLen.toNat := by
      have unit : (1 : UInt16).toNat = 1 := rfl
      omega
    have full := segmentLength_inner positive innerLt
    have ends := segment_end_le positive
      (show packetIdx.toNat <
        segmentCount geometry.maxPayloadSize totalLen.toNat by omega)
    rw [full] at ends ⊢
    rw [UInt16.toNat_ofNat', Nat.mod_eq_of_lt (by omega)]
  · have notOne : packetCount.toNat ≠ 1 := fun one =>
      single ((uint16_eq_one_iff packetCount).2 one)
    have oneLe : (1 : UInt16) ≤ packetCount := by
      rw [UInt16.le_iff_toNat_le]
      exact Nat.one_le_iff_ne_zero.mpr (by omega)
    have lastNat := UInt16.not_lt.mp inner
    rw [UInt16.le_iff_toNat_le, UInt16.toNat_sub_of_le _ _ oneLe] at lastNat
    have unit : (1 : UInt16).toNat = 1 := rfl
    have lastEq : packetIdx.toNat + 1 = packetCount.toNat := by omega
    have start := mul_le_total positive
      (show packetIdx.toNat <
        segmentCount geometry.maxPayloadSize totalLen.toNat by omega)
    have previous : packetCount.toNat - 1 = packetIdx.toNat := by omega
    have usedNat :
        (UInt16.ofNat
          ((packetCount.toNat - 1) * geometry.maxPayloadSize)).toNat =
          packetIdx.toNat * geometry.maxPayloadSize := by
      rw [previous, UInt16.toNat_ofNat', Nat.mod_eq_of_lt (by omega)]
    rw [UInt16.toNat_sub_of_le _ _
        (UInt16.le_iff_toNat_le.mpr (by rw [usedNat]; exact start)),
      usedNat, segmentLength_last positive (by omega)]

/-- The byte offset of a valid index survives the 16-bit cast. -/
theorem offset_toNat
    (counted :
      packetCount.toNat =
        segmentCount geometry.maxPayloadSize totalLen.toNat)
    (indexLt : packetIdx.toNat < packetCount.toNat) :
    (UInt16.ofNat
        (packetIdx.toNat * geometry.maxPayloadSize)).toNat =
      packetIdx.toNat * geometry.maxPayloadSize := by
  have start := mul_le_total geometry.maxPayloadSize_pos
    (counted ▸ indexLt)
  have bound := totalLen.toNat_lt
  rw [UInt16.toNat_ofNat', Nat.mod_eq_of_lt (by omega)]

end Lengths

end YkbFirmware.Protocol.Wire
