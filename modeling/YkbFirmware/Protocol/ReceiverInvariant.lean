import YkbFirmware.Protocol.Receiver

/-!
# What the receiver's bookkeeping means

`Tracks rx stored` says that the counters, the bitmap and the next expected
index of an active receiver all describe one finite set of stored indices.
It is the abstraction relation between the receiver of the source and the
reassembler of the segmentation library: pushing a packet either leaves the
receiver alone, or begins a transfer with nothing stored, or stores exactly
one new index.

The lemmas at the end say this once, for every packet and both modes; the
round-trip, reordering and safety results are inductions over them.
-/

namespace YkbFirmware.Protocol.ReceiverInvariant

open YkbFirmware.Library.ByteMemory
open YkbFirmware.Library.Segmentation
open YkbFirmware.Protocol.Wire
open YkbFirmware.Protocol.Receiver

/-- Number of payload bytes of index `index` of the current transfer. -/
def rxLengthAt
    (geometry : PacketGeometry) (rx : YkbProtocolRxState) (index : Nat) :
    Nat :=
  segmentLength geometry.maxPayloadSize rx.totalLen.toNat index

/-- How the mode-specific bookkeeping represents the stored indices. -/
def RepresentsStored
    (rx : YkbProtocolRxState) (stored : Finset Nat) : Prop :=
  if rx.allowOutOfOrder then
    ∃ bitmap,
      rx.receivedBitmap = some bitmap ∧
        ykbProtocolBitmapSizeBytes rx.packetCount ≤
            rx.receivedBitmapSize ∧
          ∀ index < rx.packetCount.toNat,
            bitmap.testBit index = decide (index ∈ stored)
  else
    stored = Finset.range rx.nextExpectedPacketIdx.toNat

/-- An active receiver whose current transfer has stored `stored`. -/
structure Tracks
    (geometry : PacketGeometry)
    (rx : YkbProtocolRxState) (stored : Finset Nat) : Prop where
  active : rx.active = true
  totalLe : rx.totalLen.toNat ≤ rx.capacity.toNat
  countEq :
    rx.packetCount.toNat =
      segmentCount geometry.maxPayloadSize rx.totalLen.toNat
  storedWithin : stored ⊆ Finset.range rx.packetCount.toNat
  receivedCount : rx.receivedCount.toNat = stored.card
  receivedBytes :
    rx.receivedBytes.toNat = ∑ index ∈ stored, rxLengthAt geometry rx index
  complete : rx.complete = true ↔ stored.card = rx.packetCount.toNat
  represents : RepresentsStored rx stored

/-- A receiver between transfers, as `ykb_protocol_rx_reset` leaves it. -/
structure Idle (rx : YkbProtocolRxState) : Prop where
  active : rx.active = false
  complete : rx.complete = false
  totalLen : rx.totalLen = 0
  receivedBytes : rx.receivedBytes = 0
  packetCount : rx.packetCount = 0
  receivedCount : rx.receivedCount = 0
  nextExpectedPacketIdx : rx.nextExpectedPacketIdx = 0

/-- The two situations a receiver can be in. -/
inductive Describes
    (geometry : PacketGeometry) (rx : YkbProtocolRxState) :
    Finset Nat → Prop where
  | idle (resting : Idle rx) : Describes geometry rx ∅
  | busy {stored : Finset Nat} (tracks : Tracks geometry rx stored) :
      Describes geometry rx stored

/-- A described receiver that is active is tracked. -/
theorem Describes.tracks
    {geometry : PacketGeometry} {rx : YkbProtocolRxState}
    {stored : Finset Nat}
    (describes : Describes geometry rx stored) (active : rx.active = true) :
    Tracks geometry rx stored := by
  cases describes with
  | idle resting =>
      rw [resting.active] at active
      cases active
  | busy tracks => exact tracks

theorem idle_rxReset (rx : YkbProtocolRxState) :
    Idle (ykbProtocolRxReset rx) :=
  ⟨rfl, rfl, rfl, rfl, rfl, rfl, rfl⟩

theorem idle_rxInit
    (buffer : Memory) (capacity : UInt16) (allowOutOfOrder : Bool)
    (receivedBitmap : Option Memory) (receivedBitmapSize : Nat) :
    Idle
      (ykbProtocolRxInit buffer capacity allowOutOfOrder receivedBitmap
        receivedBitmapSize) :=
  ⟨rfl, rfl, rfl, rfl, rfl, rfl, rfl⟩

/-! ## Packets the wire checks let through -/

/-- A valid DATA header with a matching checksum. -/
structure Admissible
    (geometry : PacketGeometry) (packet : YkbProtocolPacket) : Prop where
  valid : HeaderValid geometry packet.header
  isData :
    ykbProtocolGetType packet.header.typeFlags =
      YkbProtocolType.data.code
  crcMatches :
    ykbProtocolComputePacketCrc geometry packet = packet.header.crc

@[simp]
theorem accepted_isError :
    YkbProtocolRxResult.accepted.isError = false :=
  rfl

theorem headerError_isError (header : YkbProtocolHeader) :
    (headerError header).isError = true := by
  rw [headerError]
  split_ifs <;> rfl

/-- The bytes read to check an admissible packet stay inside its payload. -/
theorem crcPayloadLen_le
    {geometry : PacketGeometry} {header : YkbProtocolHeader}
    (valid : HeaderValid geometry header) :
    (crcPayloadLen geometry header).toNat ≤ geometry.maxPayloadSize := by
  rw [crcPayloadLen,
    payloadLenForIndex_toNat valid.countEq valid.indexLt]
  exact segmentLength_le_size _ _ _

section Push

variable
    {geometry : PacketGeometry}
    {rx : YkbProtocolRxState} {packet : YkbProtocolPacket}

/-- The accesses every admissible packet causes before it is looked at. -/
def checkAccesses
    (geometry : PacketGeometry) (packet : YkbProtocolPacket) : List Access :=
  [.readPayload (crcPayloadLen geometry packet.header).toNat]

/-- An inadmissible packet is refused without touching the receiver. -/
theorem push_inadmissible
    (rx : YkbProtocolRxState) (refused : ¬ Admissible geometry packet) :
    ∃ result accesses,
      ykbProtocolRxPushPacket geometry rx packet =
          ⟨rx, result, accesses⟩ ∧
        result.isError = true ∧
          (HeaderValid geometry packet.header →
            result ≠ .errorBadTotalLen) ∧
            ∀ access ∈ accesses, ∃ length,
              access = .readPayload length ∧
                length ≤ geometry.maxPayloadSize := by
  rw [ykbProtocolRxPushPacket]
  by_cases valid : HeaderValid geometry packet.header
  · have accepted := (isHeaderValid_iff geometry packet.header).2 valid
    rw [if_neg (by simp [accepted])]
    by_cases isData :
        ykbProtocolGetType packet.header.typeFlags =
          YkbProtocolType.data.code
    · have crcDiffers :
          ykbProtocolComputePacketCrc geometry packet ≠
            packet.header.crc := fun crcMatches =>
        refused ⟨valid, isData, crcMatches⟩
      rw [if_neg (not_not.mpr isData), if_pos crcDiffers]
      refine ⟨_, _, rfl, rfl, fun _ => by decide, ?_⟩
      intro access member
      exact ⟨_, List.mem_singleton.mp member, crcPayloadLen_le valid⟩
    · rw [if_pos isData]
      exact ⟨_, _, rfl, rfl, fun _ => by decide, by simp⟩
  · have rejected :
        ykbProtocolIsHeaderValid geometry packet.header = false := by
      rw [← Bool.not_eq_true]
      exact fun accepted =>
        valid ((isHeaderValid_iff geometry packet.header).1 accepted)
    rw [if_pos rejected]
    exact
      ⟨_, _, rfl, headerError_isError packet.header,
        fun present => absurd present valid, by simp⟩

/-- Past the wire checks, an idle receiver begins the transfer first. -/
theorem push_idle
    (admissible : Admissible geometry packet) (resting : rx.active = false) :
    ykbProtocolRxPushPacket geometry rx packet =
      if (ykbProtocolRxBeginTransfer rx packet).result.isError then
        (ykbProtocolRxBeginTransfer rx packet).after
          (checkAccesses geometry packet)
      else
        (storePacket geometry (ykbProtocolRxBeginTransfer rx packet).state
            packet).after
          (checkAccesses geometry packet ++
            (ykbProtocolRxBeginTransfer rx packet).accesses) := by
  have accepted :=
    (isHeaderValid_iff geometry packet.header).2 admissible.valid
  rw [ykbProtocolRxPushPacket, if_neg (by simp [accepted]),
    if_neg (not_not.mpr admissible.isData),
    if_neg (not_not.mpr admissible.crcMatches), if_pos resting]
  rfl

/-- An active receiver stores packets of its transfer and refuses others. -/
theorem push_active
    (admissible : Admissible geometry packet) (busy : rx.active = true) :
    ykbProtocolRxPushPacket geometry rx packet =
      if sameTransfer rx packet.header = false then
        ⟨rx, .errorTransferMismatch, checkAccesses geometry packet⟩
      else
        (storePacket geometry rx packet).after
          (checkAccesses geometry packet) := by
  have accepted :=
    (isHeaderValid_iff geometry packet.header).2 admissible.valid
  rw [ykbProtocolRxPushPacket, if_neg (by simp [accepted]),
    if_neg (not_not.mpr admissible.isData),
    if_neg (not_not.mpr admissible.crcMatches), if_neg (by simp [busy])]
  rfl

end Push

/-! ## Beginning a transfer -/

/-- Whether the receiver has room for the transfer a header announces. -/
def CanHold
    (rx : YkbProtocolRxState) (header : YkbProtocolHeader) : Prop :=
  header.totalLen ≤ rx.capacity ∧
    (rx.allowOutOfOrder = true →
      rx.receivedBitmap.isSome = true ∧
        ykbProtocolBitmapSizeBytes header.packetCount ≤
          rx.receivedBitmapSize)

/-- The receiver with its bitmap cleared, where it uses one. -/
def withClearedBitmap (rx : YkbProtocolRxState) : YkbProtocolRxState :=
  if rx.allowOutOfOrder then
    { rx with
      receivedBitmap :=
        ykbProtocolBitmapClearAll rx.receivedBitmap rx.receivedBitmapSize }
  else
    rx

/-- The receiver right after a transfer was begun. -/
def begunState
    (rx : YkbProtocolRxState) (header : YkbProtocolHeader) :
    YkbProtocolRxState :=
  pinTransfer (withClearedBitmap rx) header

section Begin

variable
    {geometry : PacketGeometry}
    {rx : YkbProtocolRxState} {packet : YkbProtocolPacket}

theorem begin_refused (cannot : ¬ CanHold rx packet.header) :
    ∃ result,
      ykbProtocolRxBeginTransfer rx packet = ⟨rx, result, []⟩ ∧
        result.isError = true ∧ result ≠ .errorBadTotalLen := by
  rw [ykbProtocolRxBeginTransfer]
  split_ifs with tooLong outOfOrder missing
  · exact ⟨_, rfl, rfl, by decide⟩
  · exact ⟨_, rfl, rfl, by decide⟩
  · refine absurd ⟨UInt16.not_lt.mp tooLong, fun _ => ?_⟩ cannot
    rw [not_or, Nat.not_lt] at missing
    exact ⟨by simpa [Option.isSome_iff_ne_none] using missing.1, missing.2⟩
  · exact absurd
      ⟨UInt16.not_lt.mp tooLong, fun present => absurd present outOfOrder⟩
      cannot

theorem begin_accepted (can : CanHold rx packet.header) :
    ykbProtocolRxBeginTransfer rx packet =
      ⟨begunState rx packet.header, .accepted,
        if rx.allowOutOfOrder then
          [.clearBitmap rx.receivedBitmapSize]
        else
          []⟩ := by
  rw [ykbProtocolRxBeginTransfer, begunState, withClearedBitmap,
    if_neg (UInt16.not_lt.mpr can.1)]
  split_ifs with outOfOrder missing
  · have room := can.2 outOfOrder
    rcases missing with absent | short
    · rw [Option.isNone_iff_eq_none] at absent
      rw [absent] at room
      cases room.1
    · exact absurd short (Nat.not_lt.mpr room.2)
  · rfl
  · rfl

@[simp]
theorem withClearedBitmap_allowOutOfOrder :
    (withClearedBitmap rx).allowOutOfOrder = rx.allowOutOfOrder := by
  rw [withClearedBitmap]
  split_ifs <;> rfl

@[simp]
theorem withClearedBitmap_buffer :
    (withClearedBitmap rx).buffer = rx.buffer := by
  rw [withClearedBitmap]
  split_ifs <;> rfl

@[simp]
theorem withClearedBitmap_capacity :
    (withClearedBitmap rx).capacity = rx.capacity := by
  rw [withClearedBitmap]
  split_ifs <;> rfl

@[simp]
theorem withClearedBitmap_receivedBitmapSize :
    (withClearedBitmap rx).receivedBitmapSize = rx.receivedBitmapSize := by
  rw [withClearedBitmap]
  split_ifs <;> rfl

/-- A transfer that was just begun tracks the empty set of indices. -/
theorem begunState_tracks
    (valid : HeaderValid geometry packet.header)
    (can : CanHold rx packet.header) :
    Tracks geometry (begunState rx packet.header) ∅ where
  active := rfl
  totalLe := by
    simpa [begunState, pinTransfer] using
      UInt16.le_iff_toNat_le.mp can.1
  countEq := valid.countEq
  storedWithin := Finset.empty_subset _
  receivedCount := rfl
  receivedBytes := rfl
  complete := by
    have positive := valid.indexLt
    simp only [begunState, pinTransfer, Finset.card_empty,
      Bool.false_eq_true, false_iff]
    omega
  represents := by
    by_cases outOfOrder : rx.allowOutOfOrder = true
    · rcases can.2 outOfOrder with ⟨present, enough⟩
      rcases Option.isSome_iff_exists.mp present with ⟨bitmap, found⟩
      simp only [RepresentsStored, begunState, pinTransfer,
        withClearedBitmap, outOfOrder, if_true, found,
        ykbProtocolBitmapClearAll, Option.map_some]
      refine ⟨_, rfl, enough, ?_⟩
      intro index within
      rw [Memory.testBit_clearBlock]
      · simp
      · rw [ykbProtocolBitmapSizeBytes] at enough
        omega
    · simp only [RepresentsStored, begunState, pinTransfer,
        withClearedBitmap, outOfOrder, Bool.false_eq_true, if_false]
      rfl

/-- The begun receiver is on the packet's own transfer. -/
theorem begunState_sameTransfer
    (rx : YkbProtocolRxState) (packet : YkbProtocolPacket) :
    sameTransfer (begunState rx packet.header) packet.header = true := by
  simp [sameTransfer, begunState, pinTransfer]

end Begin

/-! ## Storing a packet -/

/-- The parameters of a transfer, which storing packets never changes. -/
structure SameParameters (before after : YkbProtocolRxState) : Prop where
  capacity : after.capacity = before.capacity
  allowOutOfOrder : after.allowOutOfOrder = before.allowOutOfOrder
  active : after.active = before.active
  transferId : after.transferId = before.transferId
  totalLen : after.totalLen = before.totalLen
  packetCount : after.packetCount = before.packetCount
  typeFlagsBase : after.typeFlagsBase = before.typeFlagsBase
  receivedBitmapSize :
    after.receivedBitmapSize = before.receivedBitmapSize

/-- The receiver after a new packet was stored. -/
def storedState
    (geometry : PacketGeometry)
    (rx : YkbProtocolRxState) (packet : YkbProtocolPacket) :
    YkbProtocolRxState :=
  let recorded := recordPacket geometry rx packet
  if recorded.receivedCount = recorded.packetCount then
    { recorded with complete := true }
  else
    recorded

section Store

variable
    {geometry : PacketGeometry}
    {rx : YkbProtocolRxState} {packet : YkbProtocolPacket}
    {stored : Finset Nat}

theorem storedState_sameParameters
    (geometry : PacketGeometry)
    (rx : YkbProtocolRxState) (packet : YkbProtocolPacket) :
    SameParameters rx (storedState geometry rx packet) := by
  rw [storedState]
  split_ifs <;> exact ⟨rfl, rfl, rfl, rfl, rfl, rfl, rfl, rfl⟩

theorem storePacket_outOfOrder
    (inOrder : rx.allowOutOfOrder = false)
    (unexpected :
      packet.header.packetIdx ≠ rx.nextExpectedPacketIdx) :
    storePacket geometry rx packet = ⟨rx, .errorOutOfOrder, []⟩ := by
  rw [storePacket, if_pos ⟨inOrder, unexpected⟩]

/-- With bitmaps, the test of the source is membership. -/
theorem bitmapTest_iff
    (tracks : Tracks geometry rx stored)
    (outOfOrder : rx.allowOutOfOrder = true)
    (indexLt : packet.header.packetIdx.toNat < rx.packetCount.toNat) :
    ykbProtocolBitmapTest (bitmapOf rx) packet.header.packetIdx = true ↔
      packet.header.packetIdx.toNat ∈ stored := by
  have represents := tracks.represents
  rw [RepresentsStored, if_pos outOfOrder] at represents
  rcases represents with ⟨bitmap, found, _, bits⟩
  rw [ykbProtocolBitmapTest, bitmapOf, found, Option.getD_some,
    bits _ indexLt, decide_eq_true_iff]

theorem storePacket_duplicate
    (tracks : Tracks geometry rx stored)
    (outOfOrder : rx.allowOutOfOrder = true)
    (indexLt : packet.header.packetIdx.toNat < rx.packetCount.toNat)
    (already : packet.header.packetIdx.toNat ∈ stored) :
    storePacket geometry rx packet =
      ⟨rx, .duplicate, bitmapAccesses rx packet.header.packetIdx⟩ := by
  have tested := (bitmapTest_iff tracks outOfOrder indexLt).2 already
  rw [storePacket, if_neg (by simp [outOfOrder]),
    if_pos ⟨outOfOrder, tested⟩]

/-- The indices an active receiver takes next. -/
def Awaits
    (rx : YkbProtocolRxState) (stored : Finset Nat) (idx : UInt16) : Prop :=
  idx.toNat ∉ stored ∧
    (rx.allowOutOfOrder = false → idx = rx.nextExpectedPacketIdx)

theorem rxPayloadLen_toNat
    (tracks : Tracks geometry rx stored)
    (indexLt : packet.header.packetIdx.toNat < rx.packetCount.toNat) :
    (rxPayloadLen geometry rx packet.header.packetIdx).toNat =
      rxLengthAt geometry rx packet.header.packetIdx.toNat :=
  payloadLenForIndex_toNat tracks.countEq indexLt

theorem rxOffset_toNat
    (tracks : Tracks geometry rx stored)
    (indexLt : packet.header.packetIdx.toNat < rx.packetCount.toNat) :
    (rxOffset geometry packet.header.packetIdx).toNat =
      packet.header.packetIdx.toNat * geometry.maxPayloadSize :=
  offset_toNat tracks.countEq indexLt

/-- A stored segment ends inside the message, hence inside the buffer. -/
theorem rxSegment_end_le
    (tracks : Tracks geometry rx stored)
    (indexLt : packet.header.packetIdx.toNat < rx.packetCount.toNat) :
    packet.header.packetIdx.toNat * geometry.maxPayloadSize +
        rxLengthAt geometry rx packet.header.packetIdx.toNat ≤
      rx.totalLen.toNat :=
  segment_end_le geometry.maxPayloadSize_pos (tracks.countEq ▸ indexLt)

/-- Storing a new index keeps the received bytes within the message. -/
theorem sum_insert_le
    (tracks : Tracks geometry rx stored)
    (indexLt : packet.header.packetIdx.toNat < rx.packetCount.toNat)
    (fresh : packet.header.packetIdx.toNat ∉ stored) :
    rxLengthAt geometry rx packet.header.packetIdx.toNat +
        ∑ index ∈ stored, rxLengthAt geometry rx index ≤
      rx.totalLen.toNat := by
  rw [← Finset.sum_insert fresh]
  apply sum_segmentLength_le geometry.maxPayloadSize_pos
  rw [← tracks.countEq]
  intro index member
  rcases Finset.mem_insert.mp member with rfl | already
  · exact Finset.mem_range.2 indexLt
  · exact tracks.storedWithin already

theorem recordPacket_receivedBytes
    (tracks : Tracks geometry rx stored)
    (indexLt : packet.header.packetIdx.toNat < rx.packetCount.toNat)
    (fresh : packet.header.packetIdx.toNat ∉ stored) :
    (recordPacket geometry rx packet).receivedBytes.toNat =
      ∑ index ∈ insert packet.header.packetIdx.toNat stored,
        rxLengthAt geometry rx index := by
  have within := sum_insert_le tracks indexLt fresh
  have bound := rx.totalLen.toNat_lt
  change (rx.receivedBytes +
    rxPayloadLen geometry rx packet.header.packetIdx).toNat = _
  rw [Finset.sum_insert fresh, UInt16.toNat_add, tracks.receivedBytes,
    rxPayloadLen_toNat tracks indexLt]
  omega

theorem recordPacket_receivedCount
    (tracks : Tracks geometry rx stored)
    (indexLt : packet.header.packetIdx.toNat < rx.packetCount.toNat)
    (fresh : packet.header.packetIdx.toNat ∉ stored) :
    (recordPacket geometry rx packet).receivedCount.toNat =
      (insert packet.header.packetIdx.toNat stored).card := by
  have less := card_lt_of_not_mem tracks.storedWithin indexLt fresh
  have bound := rx.packetCount.toNat_lt
  have unit : (1 : UInt16).toNat = 1 := rfl
  change (rx.receivedCount + 1).toNat = _
  rw [Finset.card_insert_of_notMem fresh, UInt16.toNat_add,
    tracks.receivedCount, unit]
  omega

theorem recordPacket_represents
    (tracks : Tracks geometry rx stored)
    (indexLt : packet.header.packetIdx.toNat < rx.packetCount.toNat)
    (awaits : Awaits rx stored packet.header.packetIdx) :
    RepresentsStored (recordPacket geometry rx packet)
      (insert packet.header.packetIdx.toNat stored) := by
  have represents := tracks.represents
  have bound := rx.packetCount.toNat_lt
  by_cases outOfOrder : rx.allowOutOfOrder = true
  · rw [RepresentsStored, if_pos outOfOrder] at represents
    rcases represents with ⟨bitmap, found, enough, bits⟩
    rw [RepresentsStored, if_pos (by exact outOfOrder)]
    refine
      ⟨ykbProtocolBitmapSet bitmap packet.header.packetIdx, ?_, enough, ?_⟩
    · simp [recordPacket, outOfOrder, found]
    · intro index within
      rw [ykbProtocolBitmapSet, Memory.testBit_setBit, bits index within]
      simp [Finset.mem_insert]
  · have inOrder : rx.allowOutOfOrder = false := by
      simpa using outOfOrder
    rw [RepresentsStored, if_neg outOfOrder] at represents
    rw [RepresentsStored, if_neg (by exact outOfOrder)]
    have expected := awaits.2 inOrder
    have unit : (1 : UInt16).toNat = 1 := rfl
    have advanced :
        (recordPacket geometry rx packet).nextExpectedPacketIdx.toNat =
          packet.header.packetIdx.toNat + 1 := by
      simp only [recordPacket, inOrder, Bool.false_eq_true, if_false,
        UInt16.toNat_add, unit, ← expected]
      omega
    rw [advanced, Finset.range_add_one, represents, ← expected]

/-- The last missing index completes the received bytes exactly. -/
theorem recordPacket_bytes_complete
    (tracks : Tracks geometry rx stored)
    (indexLt : packet.header.packetIdx.toNat < rx.packetCount.toNat)
    (fresh : packet.header.packetIdx.toNat ∉ stored)
    (full :
      (insert packet.header.packetIdx.toNat stored).card =
        rx.packetCount.toNat) :
    (recordPacket geometry rx packet).receivedBytes =
      (recordPacket geometry rx packet).totalLen := by
  have within :
      insert packet.header.packetIdx.toNat stored ⊆
        Finset.range rx.packetCount.toNat :=
    Finset.insert_subset (Finset.mem_range.2 indexLt) tracks.storedWithin
  apply UInt16.toNat_inj.mp
  rw [recordPacket_receivedBytes tracks indexLt fresh,
    eq_range_of_card within full, tracks.countEq]
  exact sum_segmentLength geometry.maxPayloadSize_pos

theorem recorded_full_iff
    (tracks : Tracks geometry rx stored)
    (indexLt : packet.header.packetIdx.toNat < rx.packetCount.toNat)
    (fresh : packet.header.packetIdx.toNat ∉ stored) :
    (recordPacket geometry rx packet).receivedCount =
        (recordPacket geometry rx packet).packetCount ↔
      (insert packet.header.packetIdx.toNat stored).card =
        rx.packetCount.toNat := by
  rw [← UInt16.toNat_inj,
    recordPacket_receivedCount tracks indexLt fresh]
  rfl

/-- The memory accesses of a store. -/
def storeAccesses
    (geometry : PacketGeometry)
    (rx : YkbProtocolRxState) (packet : YkbProtocolPacket) : List Access :=
  bitmapAccesses rx packet.header.packetIdx ++
      copyAccesses (rxOffset geometry packet.header.packetIdx)
        (rxPayloadLen geometry rx packet.header.packetIdx) ++
    bitmapAccesses rx packet.header.packetIdx

/-- An awaited packet is stored; COMPLETE is reported with the last one. -/
theorem storePacket_new
    (tracks : Tracks geometry rx stored)
    (indexLt : packet.header.packetIdx.toNat < rx.packetCount.toNat)
    (awaits : Awaits rx stored packet.header.packetIdx) :
    storePacket geometry rx packet =
      ⟨storedState geometry rx packet,
        if (insert packet.header.packetIdx.toNat stored).card =
            rx.packetCount.toNat then
          .complete
        else
          .accepted,
        storeAccesses geometry rx packet⟩ := by
  have ends := rxSegment_end_le tracks indexLt
  have fits := tracks.totalLe
  have ordered :
      ¬ (rx.allowOutOfOrder = false ∧
        packet.header.packetIdx ≠ rx.nextExpectedPacketIdx) := by
    rintro ⟨inOrder, unexpected⟩
    exact unexpected (awaits.2 inOrder)
  have untested :
      ¬ (rx.allowOutOfOrder = true ∧
        ykbProtocolBitmapTest (bitmapOf rx) packet.header.packetIdx =
          true) := by
    rintro ⟨outOfOrder, tested⟩
    exact awaits.1
      ((bitmapTest_iff tracks outOfOrder indexLt).1 tested)
  have roomy :
      ¬ (rxOffset geometry packet.header.packetIdx).toNat +
          (rxPayloadLen geometry rx packet.header.packetIdx).toNat >
        rx.capacity.toNat := by
    rw [rxOffset_toNat tracks indexLt, rxPayloadLen_toNat tracks indexLt]
    omega
  have fullIff := recorded_full_iff tracks indexLt awaits.1
  rw [storePacket, if_neg ordered, if_neg untested, if_neg roomy,
    storedState]
  by_cases full :
      (insert packet.header.packetIdx.toNat stored).card =
        rx.packetCount.toNat
  · have exact :=
      recordPacket_bytes_complete tracks indexLt awaits.1 full
    rw [if_pos (fullIff.2 full), if_neg (not_not.mpr exact),
      if_pos (fullIff.2 full), if_pos full]
    rfl
  · have notFull := fun equal => full (fullIff.1 equal)
    rw [if_neg notFull, if_neg notFull, if_neg full]
    rfl

/-- Storing an awaited index adds exactly that index. -/
theorem storedState_tracks
    (tracks : Tracks geometry rx stored)
    (indexLt : packet.header.packetIdx.toNat < rx.packetCount.toNat)
    (awaits : Awaits rx stored packet.header.packetIdx) :
    Tracks geometry (storedState geometry rx packet)
      (insert packet.header.packetIdx.toNat stored) := by
  have notFull : rx.complete = false := by
    rw [← Bool.not_eq_true, tracks.complete]
    exact (card_lt_of_not_mem tracks.storedWithin indexLt awaits.1).ne
  have fullIff := recorded_full_iff tracks indexLt awaits.1
  have within :
      insert packet.header.packetIdx.toNat stored ⊆
        Finset.range rx.packetCount.toNat :=
    Finset.insert_subset (Finset.mem_range.2 indexLt) tracks.storedWithin
  have represents := recordPacket_represents tracks indexLt awaits
  have counted := recordPacket_receivedCount tracks indexLt awaits.1
  have bytes := recordPacket_receivedBytes tracks indexLt awaits.1
  rw [storedState]
  split_ifs with full
  · exact
      { active := tracks.active
        totalLe := tracks.totalLe
        countEq := tracks.countEq
        storedWithin := within
        receivedCount := counted
        receivedBytes := bytes
        complete := iff_of_true rfl (fullIff.1 full)
        represents := represents }
  · exact
      { active := tracks.active
        totalLe := tracks.totalLe
        countEq := tracks.countEq
        storedWithin := within
        receivedCount := counted
        receivedBytes := bytes
        complete :=
          iff_of_false (by simp [recordPacket, notFull])
            fun equal => full (fullIff.2 equal)
        represents := represents }

/-- Storing an awaited index writes its segment and nothing else. -/
theorem storedState_buffer
    (tracks : Tracks geometry rx stored)
    (indexLt : packet.header.packetIdx.toNat < rx.packetCount.toNat) :
    (storedState geometry rx packet).buffer =
      rx.buffer.writeBlock
        (packet.header.packetIdx.toNat * geometry.maxPayloadSize)
        (rxLengthAt geometry rx packet.header.packetIdx.toNat)
        packet.payload := by
  rw [← rxOffset_toNat tracks indexLt, ← rxPayloadLen_toNat tracks indexLt,
    storedState]
  split_ifs <;> rfl

end Store

end YkbFirmware.Protocol.ReceiverInvariant
