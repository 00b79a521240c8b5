import YkbFirmware.Protocol.ReceiverInvariant

/-!
# One push, all cases

The equations of `ykb_protocol_rx_push_packet` for packets the wire checks
let through, and the inversion lemma `pushStep`: whatever packet arrives, the
call refuses it, recognises a duplicate, begins a transfer without storing
anything, or stores one awaited index.  Invariants over runs are derived from
this case list and never unfold the call.
-/

namespace YkbFirmware.Protocol.ReceiverStep

open YkbFirmware.Library.ByteMemory
open YkbFirmware.Library.Segmentation
open YkbFirmware.Protocol.Wire
open YkbFirmware.Protocol.Receiver
open YkbFirmware.Protocol.ReceiverInvariant

variable
    {geometry : PacketGeometry}
    {rx : YkbProtocolRxState} {packet : YkbProtocolPacket}
    {stored : Finset Nat}

/-- COMPLETE once every index is stored, ACCEPTED before. -/
def storeResult
    (rx : YkbProtocolRxState) (stored : Finset Nat) (idx : UInt16) :
    YkbProtocolRxResult :=
  if (insert idx.toNat stored).card = rx.packetCount.toNat then
    .complete
  else
    .accepted

theorem sameTransfer_packetCount
    {header : YkbProtocolHeader} (same : sameTransfer rx header = true) :
    rx.packetCount = header.packetCount :=
  (of_decide_eq_true same).2.2.1

/-- An index of a packet on the current transfer is in range. -/
theorem index_lt_of_sameTransfer
    (valid : HeaderValid geometry packet.header)
    (same : sameTransfer rx packet.header = true) :
    packet.header.packetIdx.toNat < rx.packetCount.toNat := by
  rw [sameTransfer_packetCount same]
  exact valid.indexLt

/-! ## Equations -/

/-- The first packet of a transfer is stored by an idle receiver. -/
theorem push_begin
    (admissible : Admissible geometry packet)
    (resting : rx.active = false)
    (can : CanHold rx packet.header)
    (awaits :
      Awaits (begunState rx packet.header) ∅ packet.header.packetIdx) :
    ykbProtocolRxPushPacket geometry rx packet =
      ⟨storedState geometry (begunState rx packet.header) packet,
        storeResult (begunState rx packet.header) ∅ packet.header.packetIdx,
        checkAccesses geometry packet ++
          (if rx.allowOutOfOrder then
            [.clearBitmap rx.receivedBitmapSize]
          else
            []) ++
          storeAccesses geometry (begunState rx packet.header) packet⟩ := by
  have tracks := begunState_tracks admissible.valid can
  have indexLt :=
    index_lt_of_sameTransfer admissible.valid
      (begunState_sameTransfer rx packet)
  rw [push_idle admissible resting, begin_accepted can, if_neg (by simp),
    storePacket_new tracks indexLt awaits]
  rfl

/-- An awaited packet of the current transfer is stored. -/
theorem push_next
    (tracks : Tracks geometry rx stored)
    (admissible : Admissible geometry packet)
    (same : sameTransfer rx packet.header = true)
    (awaits : Awaits rx stored packet.header.packetIdx) :
    ykbProtocolRxPushPacket geometry rx packet =
      ⟨storedState geometry rx packet,
        storeResult rx stored packet.header.packetIdx,
        checkAccesses geometry packet ++
          storeAccesses geometry rx packet⟩ := by
  have indexLt := index_lt_of_sameTransfer admissible.valid same
  rw [push_active admissible tracks.active, if_neg (by simp [same]),
    storePacket_new tracks indexLt awaits]
  rfl

/-- A repeated index changes nothing. -/
theorem push_duplicate
    (tracks : Tracks geometry rx stored)
    (admissible : Admissible geometry packet)
    (same : sameTransfer rx packet.header = true)
    (outOfOrder : rx.allowOutOfOrder = true)
    (already : packet.header.packetIdx.toNat ∈ stored) :
    ykbProtocolRxPushPacket geometry rx packet =
      ⟨rx, .duplicate,
        checkAccesses geometry packet ++
          bitmapAccesses rx packet.header.packetIdx⟩ := by
  have indexLt := index_lt_of_sameTransfer admissible.valid same
  rw [push_active admissible tracks.active, if_neg (by simp [same]),
    storePacket_duplicate tracks outOfOrder indexLt already]
  rfl

theorem push_mismatch
    (admissible : Admissible geometry packet)
    (busy : rx.active = true)
    (different : sameTransfer rx packet.header = false) :
    ykbProtocolRxPushPacket geometry rx packet =
      ⟨rx, .errorTransferMismatch, checkAccesses geometry packet⟩ := by
  rw [push_active admissible busy, if_pos different]

/-- In order, an index other than the next one is refused. -/
theorem push_unexpected
    (admissible : Admissible geometry packet)
    (busy : rx.active = true)
    (same : sameTransfer rx packet.header = true)
    (inOrder : rx.allowOutOfOrder = false)
    (unexpected :
      packet.header.packetIdx ≠ rx.nextExpectedPacketIdx) :
    ykbProtocolRxPushPacket geometry rx packet =
      ⟨rx, .errorOutOfOrder, checkAccesses geometry packet⟩ := by
  rw [push_active admissible busy, if_neg (by simp [same]),
    storePacket_outOfOrder inOrder unexpected]
  simp [RxOutcome.after]

/-! ## Accesses -/

/-- An access stays inside the objects the receiver was given. -/
def InBounds
    (geometry : PacketGeometry) (rx : YkbProtocolRxState) :
    Access → Prop
  | .readPayload length => length ≤ geometry.maxPayloadSize
  | .writeBuffer offset length => offset + length ≤ rx.capacity.toNat
  | .bitmapByte index =>
      rx.receivedBitmap.isSome = true ∧ index < rx.receivedBitmapSize
  | .clearBitmap length =>
      rx.receivedBitmap.isSome = true ∧ length ≤ rx.receivedBitmapSize

/-- The byte positions of the buffer a call writes. -/
def writtenPositions (accesses : List Access) (position : Nat) : Prop :=
  ∃ offset length,
    Access.writeBuffer offset length ∈ accesses ∧
      offset ≤ position ∧ position < offset + length

theorem checkAccesses_inBounds
    (valid : HeaderValid geometry packet.header) :
    ∀ access ∈ checkAccesses geometry packet,
      InBounds geometry rx access := by
  intro access member
  rw [List.mem_singleton.mp member]
  exact crcPayloadLen_le valid

theorem bitmapAccesses_inBounds
    (tracks : Tracks geometry rx stored)
    {idx : UInt16} (indexLt : idx.toNat < rx.packetCount.toNat) :
    ∀ access ∈ bitmapAccesses rx idx, InBounds geometry rx access := by
  intro access member
  rw [bitmapAccesses] at member
  split_ifs at member with outOfOrder
  · have represents := tracks.represents
    rw [RepresentsStored, if_pos outOfOrder] at represents
    rcases represents with ⟨bitmap, found, enough, _⟩
    rw [List.mem_singleton.mp member]
    rw [ykbProtocolBitmapSizeBytes] at enough
    exact ⟨by rw [found]; rfl, by omega⟩
  · cases member

theorem storeAccesses_inBounds
    (tracks : Tracks geometry rx stored)
    (indexLt : packet.header.packetIdx.toNat < rx.packetCount.toNat) :
    ∀ access ∈ storeAccesses geometry rx packet,
      InBounds geometry rx access := by
  have ends := rxSegment_end_le tracks indexLt
  have fits := tracks.totalLe
  intro access member
  rw [storeAccesses, List.mem_append, List.mem_append] at member
  rcases member with (tested | copied) | tested
  · exact bitmapAccesses_inBounds tracks indexLt access tested
  · rw [copyAccesses, rxOffset_toNat tracks indexLt,
      rxPayloadLen_toNat tracks indexLt] at copied
    split_ifs at copied with nonempty
    · rcases List.mem_cons.mp copied with read | written
      · rw [read]
        exact segmentLength_le_size _ _ _
      · rw [List.mem_singleton.mp written]
        exact ends.trans fits
    · cases copied
  · exact bitmapAccesses_inBounds tracks indexLt access tested

/-- A store writes its whole segment. -/
theorem storeAccesses_written
    (tracks : Tracks geometry rx stored)
    (indexLt : packet.header.packetIdx.toNat < rx.packetCount.toNat)
    {within : Nat}
    (withinLt :
      within < rxLengthAt geometry rx packet.header.packetIdx.toNat) :
    writtenPositions (storeAccesses geometry rx packet)
      (packet.header.packetIdx.toNat * geometry.maxPayloadSize +
        within) := by
  have lengthNat := rxPayloadLen_toNat tracks indexLt
  have nonempty :
      rxPayloadLen geometry rx packet.header.packetIdx > 0 := by
    apply UInt16.lt_iff_toNat_lt.mpr
    rw [lengthNat]
    exact Nat.lt_of_le_of_lt (Nat.zero_le _) withinLt
  refine
    ⟨_, _, ?_, Nat.le_add_right _ _, Nat.add_lt_add_left withinLt _⟩
  rw [storeAccesses, copyAccesses, if_pos nonempty,
    rxOffset_toNat tracks indexLt, lengthNat]
  simp

/-! ## Inversion -/

/-- What one push can do to a receiver storing `stored`. -/
inductive PushStep
    (geometry : PacketGeometry)
    (rx : YkbProtocolRxState) (packet : YkbProtocolPacket) :
    Finset Nat → RxOutcome → Finset Nat → Prop where
  | refused {stored : Finset Nat} {result : YkbProtocolRxResult}
      {accesses : List Access}
      (isError : result.isError = true)
      (explained :
        HeaderValid geometry packet.header → result ≠ .errorBadTotalLen)
      (reads :
        ∀ access ∈ accesses, ∃ length,
          access = .readPayload length ∧
            length ≤ geometry.maxPayloadSize) :
      PushStep geometry rx packet stored ⟨rx, result, accesses⟩ stored
  | repeated {stored : Finset Nat}
      (admissible : Admissible geometry packet)
      (tracks : Tracks geometry rx stored)
      (same : sameTransfer rx packet.header = true)
      (outOfOrder : rx.allowOutOfOrder = true)
      (already : packet.header.packetIdx.toNat ∈ stored) :
      PushStep geometry rx packet stored
        ⟨rx, .duplicate,
          checkAccesses geometry packet ++
            bitmapAccesses rx packet.header.packetIdx⟩
        stored
  | begunOnly
      (admissible : Admissible geometry packet)
      (resting : Idle rx)
      (can : CanHold rx packet.header)
      (inOrder : rx.allowOutOfOrder = false)
      (late : packet.header.packetIdx ≠ 0) :
      PushStep geometry rx packet ∅
        ⟨begunState rx packet.header, .errorOutOfOrder,
          checkAccesses geometry packet⟩
        ∅
  | begunStored
      (admissible : Admissible geometry packet)
      (resting : Idle rx)
      (can : CanHold rx packet.header)
      (awaits :
        Awaits (begunState rx packet.header) ∅ packet.header.packetIdx) :
      PushStep geometry rx packet ∅
        ⟨storedState geometry (begunState rx packet.header) packet,
          storeResult (begunState rx packet.header) ∅
            packet.header.packetIdx,
          checkAccesses geometry packet ++
            (if rx.allowOutOfOrder then
              [.clearBitmap rx.receivedBitmapSize]
            else
              []) ++
            storeAccesses geometry (begunState rx packet.header) packet⟩
        (insert packet.header.packetIdx.toNat ∅)
  | stored {stored : Finset Nat}
      (admissible : Admissible geometry packet)
      (tracks : Tracks geometry rx stored)
      (same : sameTransfer rx packet.header = true)
      (awaits : Awaits rx stored packet.header.packetIdx) :
      PushStep geometry rx packet stored
        ⟨storedState geometry rx packet,
          storeResult rx stored packet.header.packetIdx,
          checkAccesses geometry packet ++
            storeAccesses geometry rx packet⟩
        (insert packet.header.packetIdx.toNat stored)

theorem reads_of_checkAccesses
    (admissible : Admissible geometry packet) :
    ∀ access ∈ checkAccesses geometry packet, ∃ length,
      access = .readPayload length ∧
        length ≤ geometry.maxPayloadSize := by
  intro access member
  exact
    ⟨_, List.mem_singleton.mp member, crcPayloadLen_le admissible.valid⟩

private theorem pushStep_idle
    (resting : Idle rx) (admissible : Admissible geometry packet) :
    ∃ next,
      PushStep geometry rx packet ∅
        (ykbProtocolRxPushPacket geometry rx packet) next := by
  by_cases can : CanHold rx packet.header
  · by_cases awaits :
        Awaits (begunState rx packet.header) ∅ packet.header.packetIdx
    · rw [push_begin admissible resting.active can awaits]
      exact ⟨_, .begunStored admissible resting can awaits⟩
    · have late :
          rx.allowOutOfOrder = false ∧ packet.header.packetIdx ≠ 0 := by
        simpa [Awaits, begunState, pinTransfer] using awaits
      have modes : (begunState rx packet.header).allowOutOfOrder = false := by
        simpa [begunState, pinTransfer] using late.1
      rw [push_idle admissible resting.active, begin_accepted can,
        if_neg (by simp), storePacket_outOfOrder modes (by exact late.2)]
      have quiet : ¬ rx.allowOutOfOrder = true := by
        simp [late.1]
      rw [if_neg quiet]
      simp only [RxOutcome.after, List.append_nil]
      exact ⟨∅, .begunOnly admissible resting can late.1 late.2⟩
  · rcases begin_refused can with ⟨result, begun, isError, notTotal⟩
    rw [push_idle admissible resting.active, begun, if_pos isError]
    simp only [RxOutcome.after, List.append_nil]
    exact
      ⟨∅, .refused isError (fun _ => notTotal)
        (reads_of_checkAccesses admissible)⟩

private theorem pushStep_busy
    (tracks : Tracks geometry rx stored)
    (admissible : Admissible geometry packet) :
    ∃ next,
      PushStep geometry rx packet stored
        (ykbProtocolRxPushPacket geometry rx packet) next := by
  have reads := reads_of_checkAccesses admissible
  by_cases same : sameTransfer rx packet.header = true
  · have indexLt := index_lt_of_sameTransfer admissible.valid same
    by_cases outOfOrder : rx.allowOutOfOrder = true
    · by_cases already : packet.header.packetIdx.toNat ∈ stored
      · rw [push_duplicate tracks admissible same outOfOrder already]
        exact ⟨_, .repeated admissible tracks same outOfOrder already⟩
      · have awaits : Awaits rx stored packet.header.packetIdx :=
          ⟨already, fun inOrder => by simp [inOrder] at outOfOrder⟩
        rw [push_next tracks admissible same awaits]
        exact ⟨_, .stored admissible tracks same awaits⟩
    · have inOrder : rx.allowOutOfOrder = false := by
        simpa using outOfOrder
      by_cases expected :
          packet.header.packetIdx = rx.nextExpectedPacketIdx
      · have represents := tracks.represents
        rw [RepresentsStored, if_neg outOfOrder] at represents
        have awaits : Awaits rx stored packet.header.packetIdx := by
          refine ⟨?_, fun _ => expected⟩
          rw [represents, expected, Finset.mem_range]
          exact Nat.lt_irrefl _
        rw [push_next tracks admissible same awaits]
        exact ⟨_, .stored admissible tracks same awaits⟩
      · rw [push_unexpected admissible tracks.active same inOrder expected]
        exact ⟨_, .refused rfl (fun _ => by decide) reads⟩
  · rw [push_mismatch admissible tracks.active (by simpa using same)]
    exact ⟨_, .refused rfl (fun _ => by decide) reads⟩

/-- Every push on a described receiver is one of the listed steps. -/
theorem pushStep
    (describes : Describes geometry rx stored)
    (packet : YkbProtocolPacket) :
    ∃ next,
      PushStep geometry rx packet stored
        (ykbProtocolRxPushPacket geometry rx packet) next := by
  by_cases admissible : Admissible geometry packet
  · cases describes with
    | idle resting => exact pushStep_idle resting admissible
    | busy tracks => exact pushStep_busy tracks admissible
  · rcases push_inadmissible rx admissible with
      ⟨result, accesses, pushed, isError, explained, reads⟩
    rw [pushed]
    exact ⟨stored, .refused isError explained reads⟩

/-- The step says what the receiver stores afterwards. -/
theorem PushStep.describes
    {outcome : RxOutcome} {next : Finset Nat}
    (before : Describes geometry rx stored)
    (step : PushStep geometry rx packet stored outcome next) :
    Describes geometry outcome.state next := by
  cases step with
  | refused => exact before
  | repeated => exact before
  | begunOnly admissible resting can =>
      exact .busy (begunState_tracks admissible.valid can)
  | begunStored admissible resting can awaits =>
      exact
        .busy
          (storedState_tracks (begunState_tracks admissible.valid can)
            (index_lt_of_sameTransfer admissible.valid
              (begunState_sameTransfer rx packet))
            awaits)
  | stored admissible tracks same awaits =>
      exact
        .busy
          (storedState_tracks tracks
            (index_lt_of_sameTransfer admissible.valid same) awaits)

/-! ## Configuration -/

/-- A call keeps the capacity, the mode and the bitmap's presence and size. -/
structure SameConfiguration (before after : YkbProtocolRxState) : Prop where
  capacity : after.capacity = before.capacity
  allowOutOfOrder : after.allowOutOfOrder = before.allowOutOfOrder
  bitmapPresent :
    after.receivedBitmap.isSome = before.receivedBitmap.isSome
  receivedBitmapSize :
    after.receivedBitmapSize = before.receivedBitmapSize

namespace SameConfiguration

variable {first second third : YkbProtocolRxState}

theorem refl (rx : YkbProtocolRxState) : SameConfiguration rx rx :=
  ⟨rfl, rfl, rfl, rfl⟩

theorem trans
    (earlier : SameConfiguration first second)
    (later : SameConfiguration second third) :
    SameConfiguration first third :=
  ⟨later.capacity.trans earlier.capacity,
    later.allowOutOfOrder.trans earlier.allowOutOfOrder,
    later.bitmapPresent.trans earlier.bitmapPresent,
    later.receivedBitmapSize.trans earlier.receivedBitmapSize⟩

theorem inBounds_iff
    (same : SameConfiguration first second)
    {geometry : PacketGeometry} {access : Access} :
    InBounds geometry second access ↔ InBounds geometry first access := by
  cases access <;>
    simp only [InBounds, same.capacity, same.bitmapPresent,
      same.receivedBitmapSize]

end SameConfiguration

theorem rxReset_sameConfiguration (rx : YkbProtocolRxState) :
    SameConfiguration rx (ykbProtocolRxReset rx) :=
  ⟨rfl, rfl, Option.isSome_map, rfl⟩

theorem begunState_sameConfiguration
    (rx : YkbProtocolRxState) (header : YkbProtocolHeader) :
    SameConfiguration rx (begunState rx header) := by
  rw [begunState, withClearedBitmap]
  split_ifs
  · exact ⟨rfl, rfl, Option.isSome_map, rfl⟩
  · exact ⟨rfl, rfl, rfl, rfl⟩

theorem storedState_sameConfiguration
    (geometry : PacketGeometry)
    (rx : YkbProtocolRxState) (packet : YkbProtocolPacket) :
    SameConfiguration rx (storedState geometry rx packet) := by
  have recorded :
      SameConfiguration rx (recordPacket geometry rx packet) := by
    refine ⟨rfl, rfl, ?_, rfl⟩
    simp only [recordPacket]
    split_ifs
    · exact Option.isSome_map
    · rfl
  rw [storedState]
  split_ifs
  · exact
      ⟨recorded.capacity, recorded.allowOutOfOrder,
        recorded.bitmapPresent, recorded.receivedBitmapSize⟩
  · exact recorded

theorem PushStep.sameConfiguration
    {outcome : RxOutcome} {next : Finset Nat}
    (step : PushStep geometry rx packet stored outcome next) :
    SameConfiguration rx outcome.state := by
  cases step with
  | refused => exact .refl rx
  | repeated => exact .refl rx
  | begunOnly => exact begunState_sameConfiguration rx packet.header
  | begunStored =>
      exact
        (begunState_sameConfiguration rx packet.header).trans
          (storedState_sameConfiguration geometry _ packet)
  | stored => exact storedState_sameConfiguration geometry rx packet

theorem push_sameConfiguration
    (describes : Describes geometry rx stored)
    (packet : YkbProtocolPacket) :
    SameConfiguration rx
      (ykbProtocolRxPushPacket geometry rx packet).state := by
  rcases pushStep describes packet with ⟨next, step⟩
  exact step.sameConfiguration

/-! ## What a push reads of the payload -/

/-- Two packets a receiver cannot tell apart. -/
structure SameWire
    (geometry : PacketGeometry) (first second : YkbProtocolPacket) :
    Prop where
  header : first.header = second.header
  payload :
    ∀ position < (crcPayloadLen geometry first.header).toNat,
      first.payload position = second.payload position

section SameWire

variable {first second : YkbProtocolPacket}

theorem SameWire.crc (same : SameWire geometry first second) :
    ykbProtocolComputePacketCrc geometry first =
      ykbProtocolComputePacketCrc geometry second := by
  have payload :
      first.payload.readBlock 0
          (crcPayloadLen geometry first.header).toNat =
        second.payload.readBlock 0
          (crcPayloadLen geometry first.header).toNat :=
    Memory.readBlock_congr fun position within => by
      simpa using same.payload position within
  change
    ykbProtocolCrc16Update _
        (first.payload.readBlock 0
          (crcPayloadLen geometry first.header).toNat) =
      ykbProtocolCrc16Update _
        (second.payload.readBlock 0
          (crcPayloadLen geometry second.header).toNat)
  rw [payload, same.header]

/-- Storing copies the checked payload bytes and no others. -/
theorem SameWire.storePacket
    (same : SameWire geometry first second)
    (onTransfer : sameTransfer rx first.header = true) :
    storePacket geometry rx first = storePacket geometry rx second := by
  have parameters := of_decide_eq_true onTransfer
  have length :
      rxPayloadLen geometry rx first.header.packetIdx =
        crcPayloadLen geometry first.header := by
    rw [rxPayloadLen, parameters.2.1, parameters.2.2.1]
    rfl
  have recorded :
      recordPacket geometry rx first = recordPacket geometry rx second := by
    have buffer :
        rx.buffer.writeBlock
            (rxOffset geometry first.header.packetIdx).toNat
            (rxPayloadLen geometry rx first.header.packetIdx).toNat
            first.payload =
          rx.buffer.writeBlock
            (rxOffset geometry first.header.packetIdx).toNat
            (rxPayloadLen geometry rx first.header.packetIdx).toNat
            second.payload := by
      apply Memory.writeBlock_congr
      intro position within
      rw [length] at within
      exact same.payload position within
    rw [recordPacket, recordPacket, ← same.header]
    simp only [buffer]
  rw [Receiver.storePacket, Receiver.storePacket, ← same.header, recorded]

theorem begin_sameTransfer
    (begun :
      (ykbProtocolRxBeginTransfer rx packet).result.isError = false) :
    sameTransfer (ykbProtocolRxBeginTransfer rx packet).state
      packet.header = true := by
  by_cases can : CanHold rx packet.header
  · rw [begin_accepted can]
    exact begunState_sameTransfer rx packet
  · rcases begin_refused can with ⟨result, refused, isError, _⟩
    rw [refused] at begun
    exact absurd isError (by simp [begun])

/-- Packets which agree on the wire are pushed alike. -/
theorem push_congr (same : SameWire geometry first second) :
    ykbProtocolRxPushPacket geometry rx first =
      ykbProtocolRxPushPacket geometry rx second := by
  have begins :
      ykbProtocolRxBeginTransfer rx first =
        ykbProtocolRxBeginTransfer rx second := by
    rw [ykbProtocolRxBeginTransfer, ykbProtocolRxBeginTransfer, same.header]
  rw [ykbProtocolRxPushPacket, ykbProtocolRxPushPacket, ← same.header,
    ← same.crc, ← begins]
  dsimp only
  split_ifs with invalid notData crcDiffers resting begunError other
  · rfl
  · rfl
  · rfl
  · rfl
  · rw [same.storePacket (begin_sameTransfer (by simpa using begunError))]
  · rfl
  · rw [same.storePacket (by simpa using other)]

end SameWire

end YkbFirmware.Protocol.ReceiverStep
