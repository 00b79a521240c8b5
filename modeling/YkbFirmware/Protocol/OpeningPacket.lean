import YkbFirmware.Protocol.ReceiverStep

/-!
# The first byte of a transfer

A receiver in order, fed arbitrary packets from rest.  For a transfer with
given header fields, the first byte of the buffer comes from the first
admissible packet that carries index 0 of this transfer: whichever packets
arrive before, between and after, a receiver pinned to the transfer has
stored index 0 exactly if such a packet was among them, and never takes the
index a second time.
-/

namespace YkbFirmware.Protocol.OpeningPacket

open YkbFirmware.Library.ByteMemory
open YkbFirmware.Library.Segmentation
open YkbFirmware.Protocol.Wire
open YkbFirmware.Protocol.Receiver
open YkbFirmware.Protocol.ReceiverInvariant
open YkbFirmware.Protocol.ReceiverStep

/-- The header fields that tell transfers apart. -/
structure SameFields (first second : YkbProtocolHeader) : Prop where
  transferId : first.transferId = second.transferId
  totalLen : first.totalLen = second.totalLen
  packetCount : first.packetCount = second.packetCount
  flagsBase :
    withoutStartEnd first.typeFlags = withoutStartEnd second.typeFlags

instance (first second : YkbProtocolHeader) :
    Decidable (SameFields first second) :=
  decidable_of_iff
    (first.transferId = second.transferId ∧
      first.totalLen = second.totalLen ∧
        first.packetCount = second.packetCount ∧
          withoutStartEnd first.typeFlags =
            withoutStartEnd second.typeFlags)
    ⟨fun same => ⟨same.1, same.2.1, same.2.2.1, same.2.2.2⟩,
      fun same =>
        ⟨same.transferId, same.totalLen, same.packetCount, same.flagsBase⟩⟩

/-- The packet passes the wire checks and has index 0 of the transfer. -/
def opensTransfer
    (geometry : PacketGeometry)
    (header : YkbProtocolHeader) (packet : YkbProtocolPacket) : Bool :=
  ykbProtocolIsHeaderValid geometry packet.header &&
    decide
      (ykbProtocolGetType packet.header.typeFlags =
        YkbProtocolType.data.code) &&
    decide
      (ykbProtocolComputePacketCrc geometry packet = packet.header.crc) &&
    decide (packet.header.packetIdx = 0) &&
    decide (SameFields packet.header header)

/-- The first byte of the first opening packet. -/
def openingByte
    (geometry : PacketGeometry)
    (header : YkbProtocolHeader) (packets : List YkbProtocolPacket) :
    Option UInt8 :=
  (packets.find? (opensTransfer geometry header)).map fun packet =>
    packet.payload 0

section Opening

variable
    {geometry : PacketGeometry} {header : YkbProtocolHeader}
    {rx : YkbProtocolRxState} {packet : YkbProtocolPacket}
    {stored : Finset Nat} {seen : List YkbProtocolPacket}

theorem opensTransfer_iff :
    opensTransfer geometry header packet = true ↔
      Admissible geometry packet ∧ packet.header.packetIdx = 0 ∧
        SameFields packet.header header := by
  simp only [opensTransfer, Bool.and_eq_true, decide_eq_true_iff,
    isHeaderValid_iff]
  constructor
  · rintro ⟨⟨⟨⟨valid, isData⟩, crcMatches⟩, zero⟩, same⟩
    exact ⟨⟨valid, isData, crcMatches⟩, zero, same⟩
  · rintro ⟨⟨valid, isData, crcMatches⟩, zero, same⟩
    exact ⟨⟨⟨⟨valid, isData⟩, crcMatches⟩, zero⟩, same⟩

/-- For a packet of the transfer the receiver's comparison is the same. -/
theorem SameFields.sameTransfer
    (same : SameFields packet.header header) :
    sameTransfer rx packet.header = sameTransfer rx header := by
  rw [Receiver.sameTransfer, Receiver.sameTransfer, same.transferId,
    same.totalLen, same.packetCount, same.flagsBase]

theorem sameFields_of_sameTransfer
    (left : sameTransfer rx packet.header = true)
    (right : sameTransfer rx header = true) :
    SameFields packet.header header := by
  have first := of_decide_eq_true left
  have second := of_decide_eq_true right
  exact
    ⟨first.1.symm.trans second.1, first.2.1.symm.trans second.2.1,
      first.2.2.1.symm.trans second.2.2.1,
      first.2.2.2.symm.trans second.2.2.2⟩

theorem SameParameters.sameTransfer
    {after : YkbProtocolRxState} (parameters : SameParameters rx after) :
    Receiver.sameTransfer after header = Receiver.sameTransfer rx header := by
  rw [Receiver.sameTransfer, Receiver.sameTransfer, parameters.transferId,
    parameters.totalLen, parameters.packetCount, parameters.typeFlagsBase]

theorem openingByte_append (packet : YkbProtocolPacket) :
    openingByte geometry header (seen ++ [packet]) =
      (openingByte geometry header seen).or
        (if opensTransfer geometry header packet then
          some (packet.payload 0)
        else
          none) := by
  rw [openingByte, openingByte, List.find?_append]
  cases seen.find? (opensTransfer geometry header) with
  | some found => rfl
  | none =>
      cases opens : opensTransfer geometry header packet <;>
        simp [List.find?, opens]

/--
A receiver that rests or is pinned to the transfer has stored index 0 exactly
if an opening packet was seen, whose first byte is then in the buffer.
-/
structure OpeningStored
    (geometry : PacketGeometry) (header : YkbProtocolHeader)
    (seen : List YkbProtocolPacket)
    (rx : YkbProtocolRxState) (stored : Finset Nat) : Prop where
  missing : openingByte geometry header seen = none → 0 ∉ stored
  found :
    ∀ byte, openingByte geometry header seen = some byte →
      0 ∈ stored ∧ (0 < header.totalLen.toNat → rx.buffer 0 = byte)

/-- The receiver is not pinned to another transfer. -/
def Concerns (header : YkbProtocolHeader) (rx : YkbProtocolRxState) : Prop :=
  rx.active = true → sameTransfer rx header = true

theorem concerns_of_idle (resting : Idle rx) : Concerns header rx := by
  intro active
  rw [resting.active] at active
  cases active

theorem openingByte_eq_none
    (openingStored : OpeningStored geometry header seen rx stored)
    (absent : 0 ∉ stored) : openingByte geometry header seen = none := by
  by_contra present
  rcases Option.ne_none_iff_exists'.mp present with ⟨byte, some⟩
  exact absent (openingStored.found byte some).1

/-- The segment of index 0 is written over the first byte. -/
theorem storedState_first_byte
    (tracks : Tracks geometry rx stored)
    (indexLt : packet.header.packetIdx.toNat < rx.packetCount.toNat)
    (zero : packet.header.packetIdx = 0)
    (some : 0 < rx.totalLen.toNat) :
    (storedState geometry rx packet).buffer 0 = packet.payload 0 := by
  have positive := geometry.maxPayloadSize_pos
  have start : packet.header.packetIdx.toNat * geometry.maxPayloadSize = 0 := by
    simp [zero]
  have length :
      0 < rxLengthAt geometry rx packet.header.packetIdx.toNat := by
    rw [rxLengthAt, segmentLength, start]
    omega
  rw [storedState_buffer tracks indexLt, start,
    Memory.writeBlock_inside le_rfl (by omega)]

/-- Any other segment leaves the first byte alone. -/
theorem storedState_other_byte
    (tracks : Tracks geometry rx stored)
    (indexLt : packet.header.packetIdx.toNat < rx.packetCount.toNat)
    (other : packet.header.packetIdx ≠ 0) :
    (storedState geometry rx packet).buffer 0 = rx.buffer 0 := by
  have positive := geometry.maxPayloadSize_pos
  have index : 0 < packet.header.packetIdx.toNat := by
    apply Nat.pos_of_ne_zero
    intro zero
    exact other (UInt16.toNat_inj.mp zero)
  rw [storedState_buffer tracks indexLt]
  exact
    Memory.writeBlock_outside (Or.inl (Nat.mul_pos index positive))

/-- Storing an opening packet. -/
theorem OpeningStored.store
    (openingStored : OpeningStored geometry header seen rx stored)
    (tracks : Tracks geometry rx stored)
    (opens : opensTransfer geometry header packet = true)
    (same : sameTransfer rx packet.header = true)
    (absent : 0 ∉ stored) :
    OpeningStored geometry header (seen ++ [packet])
      (storedState geometry rx packet)
      (insert packet.header.packetIdx.toNat stored) := by
  rcases opensTransfer_iff.mp opens with ⟨admissible, zero, fields⟩
  have length : rx.totalLen = header.totalLen :=
    (of_decide_eq_true same).2.1.trans fields.totalLen
  have byte :
      openingByte geometry header (seen ++ [packet]) =
        some (packet.payload 0) := by
    rw [openingByte_append, openingByte_eq_none openingStored absent,
      if_pos opens]
    rfl
  constructor
  · intro none
    rw [byte] at none
    cases none
  · intro found present
    rw [byte] at present
    cases present
    refine ⟨by simp [zero], ?_⟩
    intro positive
    rw [← length] at positive
    exact
      storedState_first_byte tracks
        (index_lt_of_sameTransfer admissible.valid same) zero positive

/-- A packet that opens nothing leaves the opening byte as it is. -/
theorem OpeningStored.other
    {next : YkbProtocolRxState} {nextStored : Finset Nat}
    (openingStored : OpeningStored geometry header seen rx stored)
    (closed : opensTransfer geometry header packet = false)
    (sameZero : 0 ∈ nextStored ↔ 0 ∈ stored)
    (sameByte : next.buffer 0 = rx.buffer 0) :
    OpeningStored geometry header (seen ++ [packet]) next nextStored := by
  have byte :
      openingByte geometry header (seen ++ [packet]) =
        openingByte geometry header seen := by
    rw [openingByte_append, if_neg (by simp [closed]), Option.or_none]
  constructor
  · intro none
    rw [byte] at none
    exact fun present => openingStored.missing none (sameZero.mp present)
  · intro found present
    rw [byte] at present
    rcases openingStored.found found present with ⟨zero, same⟩
    exact
      ⟨sameZero.mpr zero, fun positive => sameByte.trans (same positive)⟩

/-- A repeated index 0 is not taken again. -/
theorem OpeningStored.again
    (openingStored : OpeningStored geometry header seen rx stored)
    (zero : 0 ∈ stored) :
    OpeningStored geometry header (seen ++ [packet]) rx stored := by
  have present : openingByte geometry header seen ≠ none :=
    fun none => openingStored.missing none zero
  rcases Option.ne_none_iff_exists'.mp present with ⟨byte, some⟩
  have same :
      openingByte geometry header (seen ++ [packet]) =
        openingByte geometry header seen := by
    rw [openingByte_append, some]
    rfl
  exact
    ⟨fun none => openingStored.missing (same.symm.trans none),
      fun found here => openingStored.found found (same.symm.trans here)⟩

theorem zero_mem_iff
    (tracks : Tracks geometry rx stored)
    (inOrder : rx.allowOutOfOrder = false) :
    0 ∈ stored ↔ rx.nextExpectedPacketIdx ≠ 0 := by
  have represents := tracks.represents
  rw [RepresentsStored, if_neg (by simp [inOrder])] at represents
  rw [represents, Finset.mem_range, Nat.pos_iff_ne_zero, ne_eq, ne_eq,
    ← UInt16.toNat_inj, UInt16.toNat_zero]

/-- A receiver with what is known about its first byte. -/
structure OpeningInvariant
    (geometry : PacketGeometry) (header : YkbProtocolHeader)
    (seen : List YkbProtocolPacket)
    (rx : YkbProtocolRxState) (stored : Finset Nat) : Prop where
  describes : Describes geometry rx stored
  inOrder : rx.allowOutOfOrder = false
  fits : header.totalLen ≤ rx.capacity
  opening :
    Concerns header rx → OpeningStored geometry header seen rx stored

theorem OpeningInvariant.start
    (resting : Idle rx) (inOrder : rx.allowOutOfOrder = false)
    (fits : header.totalLen ≤ rx.capacity) :
    OpeningInvariant geometry header [] rx ∅ where
  describes := .idle resting
  inOrder := inOrder
  fits := fits
  opening := fun _ =>
    { missing := fun _ => Finset.notMem_empty 0
      found := fun _ impossible => by cases impossible }

/-- A push keeps all but what is known about the first byte. -/
theorem OpeningInvariant.pushed
    (invariant : OpeningInvariant geometry header seen rx stored)
    {outcome : RxOutcome} {next : Finset Nat}
    (step : PushStep geometry rx packet stored outcome next)
    (opening :
      Concerns header outcome.state →
        OpeningStored geometry header (seen ++ [packet]) outcome.state
          next) :
    OpeningInvariant geometry header (seen ++ [packet]) outcome.state
      next where
  describes := step.describes invariant.describes
  inOrder := step.sameConfiguration.allowOutOfOrder.trans invariant.inOrder
  fits := step.sameConfiguration.capacity ▸ invariant.fits
  opening := opening

/-- What a packet that opens the transfer does to a receiver concerned. -/
theorem OpeningInvariant.opens
    (invariant : OpeningInvariant geometry header seen rx stored)
    (concerned : Concerns header rx)
    (opens : opensTransfer geometry header packet = true) :
    ∃ next,
      OpeningInvariant geometry header (seen ++ [packet])
        (ykbProtocolRxPushPacket geometry rx packet).state next := by
  rcases opensTransfer_iff.mp opens with ⟨admissible, zero, fields⟩
  have opening := invariant.opening concerned
  have describes := invariant.describes
  cases describes with
  | idle resting =>
      have can : CanHold rx packet.header := by
        constructor
        · exact fields.totalLen ▸ invariant.fits
        · intro outOfOrder
          rw [invariant.inOrder] at outOfOrder
          cases outOfOrder
      have awaits :
          Awaits (begunState rx packet.header) ∅
            packet.header.packetIdx := by
        simp [Awaits, begunState, pinTransfer, zero]
      have step :=
        PushStep.begunStored admissible resting can awaits
      have tracks := begunState_tracks admissible.valid can
      have begun :
          OpeningStored geometry header seen
            (begunState rx packet.header) ∅ :=
        ⟨opening.missing, fun byte found =>
          absurd (opening.found byte found).1 (Finset.notMem_empty 0)⟩
      rw [push_begin admissible resting.active can awaits]
      refine ⟨_, invariant.pushed step fun _ => ?_⟩
      exact
        begun.store tracks opens (begunState_sameTransfer rx packet)
          (Finset.notMem_empty 0)
  | busy tracks =>
      have same : sameTransfer rx packet.header = true :=
        fields.sameTransfer.trans (concerned tracks.active)
      by_cases already : 0 ∈ stored
      · have unexpected :
            packet.header.packetIdx ≠ rx.nextExpectedPacketIdx := by
          rw [zero]
          exact
            ((zero_mem_iff tracks invariant.inOrder).mp already).symm
        rw [push_unexpected admissible tracks.active same invariant.inOrder
          unexpected]
        exact
          ⟨stored, .busy tracks, invariant.inOrder, invariant.fits,
            fun _ => opening.again already⟩
      · have awaits : Awaits rx stored packet.header.packetIdx := by
          constructor
          · simpa [zero] using already
          · intro _
            have expected :=
              (zero_mem_iff tracks invariant.inOrder).not.mp already
            rw [zero, not_not.mp expected]
        have step := PushStep.stored admissible tracks same awaits
        rw [push_next tracks admissible same awaits]
        refine ⟨_, invariant.pushed step fun _ => ?_⟩
        exact opening.store tracks opens same already

/-- Any other packet. -/
theorem OpeningInvariant.other
    (invariant : OpeningInvariant geometry header seen rx stored)
    (closed :
      Concerns header rx → opensTransfer geometry header packet = false) :
    ∃ next,
      OpeningInvariant geometry header (seen ++ [packet])
        (ykbProtocolRxPushPacket geometry rx packet).state next := by
  rcases pushStep invariant.describes packet with ⟨next, step⟩
  have opening := invariant.opening
  refine ⟨next, invariant.pushed step ?_⟩
  generalize ykbProtocolRxPushPacket geometry rx packet = outcome at step ⊢
  intro concerned
  cases step with
  | refused =>
      exact
        (opening concerned).other (closed concerned) Iff.rfl rfl
  | repeated =>
      exact
        (opening concerned).other (closed concerned) Iff.rfl rfl
  | begunOnly admissible resting =>
      have inactive : Concerns header rx := concerns_of_idle resting
      have before := opening inactive
      exact
        { missing := fun _ => Finset.notMem_empty 0
          found := fun byte found => by
            rw [openingByte_append, if_neg (by simp [closed inactive]),
              Option.or_none] at found
            exact
              absurd (before.found byte found).1 (Finset.notMem_empty 0) }
  | begunStored admissible resting can awaits =>
      have inactive : Concerns header rx := concerns_of_idle resting
      have parameters :=
        storedState_sameParameters geometry (begunState rx packet.header)
          packet
      have zero : packet.header.packetIdx = 0 := by
        have modes :
            (begunState rx packet.header).allowOutOfOrder = false := by
          simpa [begunState, pinTransfer] using invariant.inOrder
        exact awaits.2 modes
      have pinned : sameTransfer (begunState rx packet.header) header = true :=
        (SameParameters.sameTransfer parameters).symm.trans
          (concerned (parameters.active.trans rfl))
      have opens : opensTransfer geometry header packet = true :=
        opensTransfer_iff.mpr
          ⟨admissible, zero,
            sameFields_of_sameTransfer (begunState_sameTransfer rx packet)
              pinned⟩
      rw [closed inactive] at opens
      cases opens
  | stored admissible tracks same awaits =>
      have parameters := storedState_sameParameters geometry rx packet
      have before : Concerns header rx := by
        intro active
        rw [← SameParameters.sameTransfer parameters]
        exact concerned (parameters.active.trans active)
      have indexLt := index_lt_of_sameTransfer admissible.valid same
      have notZero : packet.header.packetIdx ≠ 0 := by
        intro zero
        have opens : opensTransfer geometry header packet = true :=
          opensTransfer_iff.mpr
            ⟨admissible, zero,
              sameFields_of_sameTransfer same (before tracks.active)⟩
        rw [closed before] at opens
        cases opens
      have index : packet.header.packetIdx.toNat ≠ 0 :=
        fun zero => notZero (UInt16.toNat_inj.mp zero)
      apply (opening before).other (closed before)
      · rw [Finset.mem_insert]
        exact ⟨fun member => member.resolve_left index.symm, Or.inr⟩
      · exact storedState_other_byte tracks indexLt notZero

/-- Any packet keeps the invariant. -/
theorem OpeningInvariant.push
    (invariant : OpeningInvariant geometry header seen rx stored)
    (packet : YkbProtocolPacket) :
    ∃ next,
      OpeningInvariant geometry header (seen ++ [packet])
        (ykbProtocolRxPushPacket geometry rx packet).state next := by
  by_cases opening :
      Concerns header rx ∧ opensTransfer geometry header packet = true
  · exact invariant.opens opening.1 opening.2
  · apply invariant.other
    intro concerned
    by_contra opens
    exact opening ⟨concerned, by simpa using opens⟩

/-- A complete receiver has the opening byte in front of its buffer. -/
theorem OpeningInvariant.first_byte
    (invariant : OpeningInvariant geometry header seen rx stored)
    (pinned : sameTransfer rx header = true)
    (complete : rx.complete = true)
    (nonempty : 0 < header.totalLen.toNat) :
    openingByte geometry header seen = some (rx.buffer 0) := by
  have opening := invariant.opening fun _ => pinned
  have describes := invariant.describes
  cases describes with
  | idle resting =>
      rw [resting.complete] at complete
      cases complete
  | busy tracks =>
      have full :=
        eq_range_of_card tracks.storedWithin (tracks.complete.mp complete)
      have zero : 0 ∈ stored := by
        rw [full, Finset.mem_range, tracks.countEq]
        exact segmentCount_pos geometry.maxPayloadSize_pos
      have present : openingByte geometry header seen ≠ none :=
        fun none => opening.missing none zero
      rcases Option.ne_none_iff_exists'.mp present with ⟨byte, found⟩
      rw [found, (opening.found byte found).2 nonempty]

end Opening

end YkbFirmware.Protocol.OpeningPacket
