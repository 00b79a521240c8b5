import Mathlib.Data.Finite.Defs
import Mathlib.Data.Fintype.EquivFin
import YkbFirmware.Library.ShiftRegister
import YkbFirmware.Protocol.Sender
import YkbFirmware.Protocol.ReceiverInvariant

/-!
# Short bursts in a payload

`ykb_protocol_crc16_update` is a check by a shift register of 16 bits whose
polynomial has its top bit set, fed with bytes.  Two adjacent bytes fill the
register, so a packet in which one or two adjacent payload bytes are changed
never passes the comparison with its checksum.
-/

namespace YkbFirmware.Protocol.BurstErrors

open YkbFirmware.Library.ByteMemory
open YkbFirmware.Library.ShiftRegister
open YkbFirmware.Protocol.Wire
open YkbFirmware.Protocol.Sender
open YkbFirmware.Protocol.Receiver
open YkbFirmware.Protocol.ReceiverInvariant

/-! ## The checksum as a shift register -/

/-- The polynomial of `ykb_protocol_crc16_update`. -/
def crcPolynomial : BitVec 16 := 0xA001#16

theorem crcPolynomial_top : crcPolynomial.getLsbD (16 - 1) = true := by
  decide

theorem crc16Bit_toBitVec (crc : UInt16) :
    (crc16Bit crc).toBitVec = step crcPolynomial crc.toBitVec := by
  have low : crc &&& 0x0001 ≠ 0 ↔ crc.toBitVec.getLsbD 0 = true := by
    rw [ne_eq, ← UInt16.toBitVec_inj, UInt16.toBitVec_and]
    change ¬ crc.toBitVec &&& 1#16 = 0#16 ↔ _
    rw [BitVec.and_one_eq_setWidth_ofBool_getLsbD]
    cases crc.toBitVec.getLsbD 0 <;> decide
  have shifted : (crc >>> 1).toBitVec = crc.toBitVec >>> 1 := by
    rw [UInt16.toBitVec_shiftRight]
    rfl
  rw [crc16Bit, step]
  by_cases fallen : crc.toBitVec.getLsbD 0 = true
  · rw [if_pos (low.mpr fallen), if_pos fallen, UInt16.toBitVec_xor, shifted]
    rfl
  · rw [if_neg fun odd => fallen (low.mp odd), if_neg fallen, shifted]

theorem crc16Byte_toBitVec (crc : UInt16) (byte : UInt8) :
    (crc16Byte crc byte).toBitVec =
      feed crcPolynomial crc.toBitVec byte.toBitVec := by
  have steps :
      ∀ (count : Nat) (state : UInt16),
        (Nat.iterate crc16Bit count state).toBitVec =
          (step crcPolynomial)^[count] state.toBitVec := by
    intro count
    induction count with
    | zero => exact fun _ => rfl
    | succ count induction =>
        intro state
        rw [Function.iterate_succ_apply, Function.iterate_succ_apply,
          induction, crc16Bit_toBitVec]
  rw [crc16Byte, steps, UInt16.toBitVec_xor, UInt8.toBitVec_toUInt16, feed]

/-- The checksum is the check value of the bytes. -/
theorem crc16Update_toBitVec (crc : UInt16) (data : List UInt8) :
    (ykbProtocolCrc16Update crc data).toBitVec =
      check crcPolynomial crc.toBitVec (data.map UInt8.toBitVec) := by
  induction data generalizing crc with
  | nil => rfl
  | cons byte rest induction =>
      rw [List.map_cons, check_cons, ← crc16Byte_toBitVec, ← induction]
      rfl

theorem map_toBitVec_injective :
    Function.Injective (List.map UInt8.toBitVec) :=
  List.map_injective_iff.mpr fun _ _ same => UInt8.toBitVec_inj.mp same

/-- Fixed data is a bijection of the 16-bit state. -/
theorem crc16Update_bijective (data : List UInt8) :
    Function.Bijective fun crc => ykbProtocolCrc16Update crc data := by
  have finite : Finite UInt16 :=
    Finite.of_injective UInt16.toFin fun _ _ same => UInt16.toFin_inj.mp same
  apply Finite.injective_iff_bijective.mp
  intro first second same
  have values := congrArg UInt16.toBitVec same
  dsimp only at values
  rw [crc16Update_toBitVec, crc16Update_toBitVec] at values
  exact
    UInt16.toBitVec_inj.mp
      (check_state_injective crcPolynomial_top _ values)

/-- A window of at most two bytes decides the checksum of the whole. -/
theorem crc16Update_window_injective
    {crc : UInt16} {first last window other : List UInt8}
    (lengths : window.length = other.length) (short : window.length ≤ 2)
    (same :
      ykbProtocolCrc16Update crc (first ++ window ++ last) =
        ykbProtocolCrc16Update crc (first ++ other ++ last)) :
    window = other := by
  have values := congrArg UInt16.toBitVec same
  simp only [crc16Update_toBitVec, List.map_append] at values
  refine
    map_toBitVec_injective
      (check_window_injective crcPolynomial_top ?_ ?_ values)
  · rw [List.length_map, List.length_map, lengths]
  · rw [List.length_map]
    omega

/-! ## Changed packets -/

/--
One payload byte or two adjacent ones are changed, within the length the
header announces for the packet.
-/
structure PayloadBurst
    (geometry : PacketGeometry) (sent changed : YkbProtocolPacket) :
    Prop where
  header : changed.header = sent.header
  burst :
    let payloadLen := (crcPayloadLen geometry sent.header).toNat
    ∃ start length, length ≤ 2 ∧ start + length ≤ payloadLen ∧
      (∀ position < payloadLen,
        position < start ∨ start + length ≤ position →
          changed.payload position = sent.payload position) ∧
      ∃ position < payloadLen,
        changed.payload position ≠ sent.payload position

/-- A block as what is before, inside and after a window. -/
theorem readBlock_window
    (memory : Memory) {start length total : Nat}
    (inside : start + length ≤ total) :
    memory.readBlock 0 total =
      memory.readBlock 0 start ++ memory.readBlock start length ++
        memory.readBlock (start + length) (total - (start + length)) := by
  have split : total = start + length + (total - (start + length)) := by omega
  conv_lhs => rw [split]
  rw [Memory.readBlock_add, Memory.readBlock_add, Nat.zero_add, Nat.zero_add]

section Burst

variable {geometry : PacketGeometry} {sent changed : YkbProtocolPacket}

/-- A burst changes the checksum. -/
theorem PayloadBurst.crc_ne (burst : PayloadBurst geometry sent changed) :
    ykbProtocolComputePacketCrc geometry changed ≠
      ykbProtocolComputePacketCrc geometry sent := by
  rcases burst.burst with
    ⟨start, length, short, inside, kept, position, within, differs⟩
  intro same
  have announced :
      ∀ packet : YkbProtocolPacket,
        ykbProtocolComputePacketCrc geometry packet =
          ykbProtocolCrc16Update
            (ykbProtocolCrc16Update 0xFFFF
              { packet.header with crc := 0 }.bytes)
            (packet.payload.readBlock 0
              (crcPayloadLen geometry packet.header).toNat) :=
    fun _ => rfl
  rw [announced, announced, burst.header,
    readBlock_window changed.payload inside,
    readBlock_window sent.payload inside] at same
  -- outside the window the packets have the same payload
  have before :
      changed.payload.readBlock 0 start = sent.payload.readBlock 0 start :=
    Memory.readBlock_congr fun index low => by
      rw [Nat.zero_add]
      exact kept index (by omega) (.inl low)
  have after :
      changed.payload.readBlock (start + length)
          ((crcPayloadLen geometry sent.header).toNat - (start + length)) =
        sent.payload.readBlock (start + length)
          ((crcPayloadLen geometry sent.header).toNat - (start + length)) :=
    Memory.readBlock_congr fun index low =>
      kept _ (by omega) (.inr (Nat.le_add_right _ _))
  rw [before, after] at same
  have window :=
    crc16Update_window_injective (by simp) (by simpa using short) same
  have inWindow : start ≤ position ∧ position < start + length := by
    by_contra outside
    exact differs (kept position within (by omega))
  rw [Memory.readBlock_eq_iff] at window
  have byte := window (position - start) (by omega)
  rw [Nat.add_sub_cancel' inWindow.1] at byte
  exact differs byte

/-- Of an admissible packet the receiver refuses every burst. -/
theorem PayloadBurst.push_refused
    (burst : PayloadBurst geometry sent changed)
    (admissible : Admissible geometry sent) (rx : YkbProtocolRxState) :
    ykbProtocolRxPushPacket geometry rx changed =
      ⟨rx, .errorPacketCrc, checkAccesses geometry changed⟩ := by
  have valid :
      ykbProtocolIsHeaderValid geometry changed.header = true := by
    rw [burst.header]
    exact (isHeaderValid_iff geometry sent.header).mpr admissible.valid
  have isData :
      ykbProtocolGetType changed.header.typeFlags =
        YkbProtocolType.data.code := by
    rw [burst.header]
    exact admissible.isData
  have differs :
      ykbProtocolComputePacketCrc geometry changed ≠ changed.header.crc := by
    rw [burst.header, ← admissible.crcMatches]
    exact burst.crc_ne
  rw [ykbProtocolRxPushPacket, if_neg (by simp [valid]),
    if_neg (not_not.mpr isData), if_pos differs]
  rfl

end Burst

/-! ## Packets of the sender -/

section Built

variable {geometry : PacketGeometry} {tx : YkbProtocolTxState}

/-- A sender of DATA packets whose packet count fits its length. -/
structure SendsData
    (geometry : PacketGeometry) (tx : YkbProtocolTxState) : Prop where
  counted : tx.packetCount = ykbProtocolCalcPacketCount geometry tx.totalLen
  isData :
    ykbProtocolGetType tx.typeFlagsBase = YkbProtocolType.data.code

theorem txInit_sendsData
    (data : Option Memory) (totalLen : UInt16) (transferId : UInt8)
    {typeFlagsBase : UInt8}
    (isData :
      ykbProtocolGetType typeFlagsBase = YkbProtocolType.data.code) :
    SendsData geometry
      (ykbProtocolTxInit geometry data totalLen transferId
        typeFlagsBase) where
  counted := rfl
  isData := by
    rw [ykbProtocolTxInit, ykbProtocolGetType_withoutStartEnd]
    exact isData

/-- One build gives an admissible packet and keeps the sender sending. -/
theorem SendsData.build
    (sends : SendsData geometry tx)
    {packet : YkbProtocolPacket} {next : YkbProtocolTxState}
    (built : ykbProtocolTxBuildPacket geometry tx = some (packet, next)) :
    Admissible geometry packet ∧ SendsData geometry next := by
  rw [ykbProtocolTxBuildPacket] at built
  split_ifs at built with more
  cases built
  have typed :
      ykbProtocolGetType
          (packetTypeFlags tx.typeFlagsBase tx.nextPacketIdx
            tx.packetCount) =
        YkbProtocolType.data.code := by
    rw [← sends.isData]
    simp only [packetTypeFlags]
    split_ifs <;> simp
  refine ⟨⟨⟨rfl, ?_, ?_, ?_⟩, typed, rfl⟩, ⟨sends.counted, sends.isData⟩⟩
  · exact typed.trans_le (by decide)
  · exact UInt16.lt_iff_toNat_lt.mp (of_decide_eq_true more)
  · change tx.packetCount.toNat = _
    rw [sends.counted]
    exact calcPacketCount_toNat geometry tx.totalLen

/-- Every packet of the sending loop is admissible. -/
theorem SendsData.buildAll
    (sends : SendsData geometry tx) :
    ∀ built ∈ buildAll geometry tx, Admissible geometry built.2 := by
  induction tx using buildAll.induct geometry with
  | case1 tx done =>
      rw [buildAll_none done]
      exact fun _ member => absurd member List.not_mem_nil
  | case2 tx packet next built induction =>
      rcases sends.build built with ⟨admissible, sendsNext⟩
      rw [buildAll_some built]
      intro later member
      rcases List.mem_cons.mp member with rfl | member
      · exact admissible
      · exact induction sendsNext later member

end Built

/--
Fixed data is a bijection of the checksum's state, and two consecutive bytes
decide it injectively; so if one payload byte or two adjacent ones of a packet
built for a DATA transfer are changed in any way, every receiver refuses the
packet with PACKET_CRC and stays as it is.
-/
theorem payload_bursts_refused (geometry : PacketGeometry) :
    (∀ data, Function.Bijective fun crc => ykbProtocolCrc16Update crc data) ∧
      (∀ crc, Function.Injective fun bytes : UInt8 × UInt8 =>
        ykbProtocolCrc16Update crc [bytes.1, bytes.2]) ∧
      ∀ (data : Option Memory) (totalLen : UInt16)
        (transferId typeFlagsBase : UInt8),
        ykbProtocolGetType typeFlagsBase = YkbProtocolType.data.code →
          ∀ built ∈
              buildAll geometry
                (ykbProtocolTxInit geometry data totalLen transferId
                  typeFlagsBase),
            ∀ changed, PayloadBurst geometry built.2 changed →
              ∀ rx,
                let outcome := ykbProtocolRxPushPacket geometry rx changed
                outcome.result = .errorPacketCrc ∧ outcome.state = rx := by
  refine ⟨crc16Update_bijective, ?_, ?_⟩
  · rintro crc ⟨first, second⟩ ⟨otherFirst, otherSecond⟩ same
    have windows :
        [first, second] = [otherFirst, otherSecond] :=
      @crc16Update_window_injective crc [] [] _ _ rfl le_rfl
        (by simpa using same)
    simpa using windows
  · intro data totalLen transferId typeFlagsBase isData built member changed
      burst rx
    have admissible :=
      (txInit_sendsData data totalLen transferId isData).buildAll built member
    rw [burst.push_refused admissible rx]
    exact ⟨rfl, rfl⟩

/-- The transfer of two zero bytes. -/
def twoBytes : Transfer :=
  plainTransfer Memory.zero 2

/-- Its only packet with both bytes changed. -/
def changedPacket : YkbProtocolPacket :=
  { twoBytes.packet usbGeometry 0 with payload := Memory.ofList [0xFF, 0x01] }

/-- The changed packet is refused by a fresh receiver. -/
theorem changed_packet_refused :
    (ykbProtocolRxPushPacket usbGeometry
        (ykbProtocolRxInit Memory.zero 512 false none 0)
        changedPacket).result =
      .errorPacketCrc := by
  have sender :
      ykbProtocolTxInit usbGeometry (some Memory.zero) 2 0 0 =
        twoBytes.sender usbGeometry :=
    rfl
  have built :
      (twoBytes.senderAt usbGeometry 0, twoBytes.packet usbGeometry 0) ∈
        buildAll usbGeometry
          (ykbProtocolTxInit usbGeometry (some Memory.zero) 2 0 0) := by
    rw [sender, Transfer.buildAll_sender]
    exact List.mem_map.mpr ⟨0, by decide, rfl⟩
  have announced :
      (crcPayloadLen usbGeometry
          (twoBytes.packet usbGeometry 0).header).toNat =
        2 := by
    decide
  have burst :
      PayloadBurst usbGeometry (twoBytes.packet usbGeometry 0)
        changedPacket := by
    refine ⟨rfl, 0, 2, le_rfl, announced.ge, ?_, 0, ?_, by decide⟩
    · intro position within outside
      rw [announced] at within
      omega
    · rw [announced]
      decide
  exact
    ((payload_bursts_refused usbGeometry).2.2 (some Memory.zero) 2 0 0
      (by decide) _ built _ burst _).1

end YkbFirmware.Protocol.BurstErrors
