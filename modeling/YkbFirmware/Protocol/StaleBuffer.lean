import YkbFirmware.Protocol.ReceiverSafety

/-!
# The receiver and the stale bytes of its buffer

`ykb_protocol_rx_push_packet` never reads the buffer it writes.  Exchanging
the buffer of a receiver therefore changes neither the result nor the
accesses of a call, nor any other field; and of the buffer a call leaves
behind, exactly the written positions do not depend on the exchange.
-/

namespace YkbFirmware.Protocol.StaleBuffer

open YkbFirmware.Library.ByteMemory
open YkbFirmware.Library.Segmentation
open YkbFirmware.Protocol.Wire
open YkbFirmware.Protocol.Receiver
open YkbFirmware.Protocol.ReceiverInvariant
open YkbFirmware.Protocol.ReceiverStep
open YkbFirmware.Protocol.ReceiverSafety

/-- The receiver over another buffer. -/
def rebuffered (rx : YkbProtocolRxState) (buffer : Memory) :
    YkbProtocolRxState :=
  { rx with buffer := buffer }

@[simp]
theorem rebuffered_buffer (rx : YkbProtocolRxState) (buffer : Memory) :
    (rebuffered rx buffer).buffer = buffer :=
  rfl

@[simp]
theorem rebuffered_self (rx : YkbProtocolRxState) :
    rebuffered rx rx.buffer = rx :=
  rfl

/--
Two calls that did the same except for the buffers they started from: written
positions agree afterwards, all others are as they were.
-/
structure SameCall
    (first : Memory) (second : Memory) (left right : RxOutcome) :
    Prop where
  result : right.result = left.result
  accesses : right.accesses = left.accesses
  state : right.state = rebuffered left.state right.state.buffer
  written :
    ∀ position, writtenPositions left.accesses position →
      left.state.buffer position = right.state.buffer position
  kept :
    ∀ position, ¬ writtenPositions left.accesses position →
      left.state.buffer position = first position ∧
        right.state.buffer position = second position

section SameCall

variable
    {geometry : PacketGeometry} {rx : YkbProtocolRxState}
    {packet : YkbProtocolPacket} {first second buffer : Memory}

/-- A call that leaves the buffer alone. -/
theorem SameCall.untouched
    {state : YkbProtocolRxState} {result : YkbProtocolRxResult}
    {accesses : List Access}
    (silent : ∀ position, ¬ writtenPositions accesses position)
    (buffer : Memory) :
    SameCall state.buffer buffer ⟨state, result, accesses⟩
      ⟨rebuffered state buffer, result, accesses⟩ where
  result := rfl
  accesses := rfl
  state := rfl
  written := fun position written => absurd written (silent position)
  kept := fun _ _ => ⟨rfl, rfl⟩

/-- Accesses in front of a call which do not write. -/
theorem SameCall.after
    {left right : RxOutcome} {before : List Access}
    (same : SameCall first second left right)
    (silent : ∀ position, ¬ writtenPositions before position) :
    SameCall first second (left.after before) (right.after before) := by
  have moved :
      ∀ position,
        writtenPositions (before ++ left.accesses) position ↔
          writtenPositions left.accesses position := by
    intro position
    constructor
    · rintro ⟨offset, length, member, inside⟩
      rcases List.mem_append.mp member with early | late
      · exact absurd ⟨offset, length, early, inside⟩ (silent position)
      · exact ⟨offset, length, late, inside⟩
    · exact writtenPositions_append_right
  constructor
  · exact same.result
  · exact congrArg (before ++ ·) same.accesses
  · exact same.state
  · intro position written
    exact same.written position ((moved position).mp written)
  · intro position unwritten
    exact
      same.kept position fun written =>
        unwritten ((moved position).mpr written)

theorem not_written_nil (position : Nat) : ¬ writtenPositions [] position := by
  rintro ⟨offset, length, member, _⟩
  cases member

theorem not_written_bitmapAccesses
    (rx : YkbProtocolRxState) (idx : UInt16) (position : Nat) :
    ¬ writtenPositions (bitmapAccesses rx idx) position := by
  rintro ⟨offset, length, member, _⟩
  rw [bitmapAccesses] at member
  split_ifs at member
  · cases List.mem_singleton.mp member
  · cases member

/-- The positions a copy writes are those of its segment. -/
theorem written_copyAccesses_iff
    {offset payloadLen : UInt16} {position : Nat} :
    writtenPositions (copyAccesses offset payloadLen) position ↔
      offset.toNat ≤ position ∧
        position < offset.toNat + payloadLen.toNat := by
  rw [copyAccesses]
  split_ifs with nonempty
  · constructor
    · rintro ⟨start, length, member, inside⟩
      rcases List.mem_cons.mp member with read | written
      · cases read
      · cases List.mem_singleton.mp written
        exact inside
    · intro inside
      exact ⟨_, _, by simp, inside⟩
  · have empty : payloadLen.toNat = 0 := by
      simpa [UInt16.lt_iff_toNat_lt] using nonempty
    constructor
    · exact fun written => absurd written (not_written_nil position)
    · omega

theorem written_storeAccesses_iff {position : Nat} :
    writtenPositions (storeAccesses geometry rx packet) position ↔
      (rxOffset geometry packet.header.packetIdx).toNat ≤ position ∧
        position <
          (rxOffset geometry packet.header.packetIdx).toNat +
            (rxPayloadLen geometry rx packet.header.packetIdx).toNat := by
  rw [← written_copyAccesses_iff, storeAccesses]
  constructor
  · rintro ⟨offset, length, member, inside⟩
    rcases List.mem_append.mp member with copied | tested
    · rcases List.mem_append.mp copied with tested | copied
      · exact
          absurd ⟨offset, length, tested, inside⟩
            (not_written_bitmapAccesses _ _ _)
      · exact ⟨offset, length, copied, inside⟩
    · exact
        absurd ⟨offset, length, tested, inside⟩
          (not_written_bitmapAccesses _ _ _)
  · intro written
    exact
      writtenPositions_append_left (writtenPositions_append_right written)

/-- The branches of `storePacket` are chosen without looking at the buffer. -/
theorem storePacket_branches
    (geometry : PacketGeometry) (rx : YkbProtocolRxState)
    (packet : YkbProtocolPacket) (buffer : Memory) :
    storePacket geometry (rebuffered rx buffer) packet =
      if
          rx.allowOutOfOrder = false ∧
            packet.header.packetIdx ≠ rx.nextExpectedPacketIdx then
        ⟨rebuffered rx buffer, .errorOutOfOrder, []⟩
      else if
          rx.allowOutOfOrder = true ∧
            ykbProtocolBitmapTest (bitmapOf rx) packet.header.packetIdx =
              true then
        ⟨rebuffered rx buffer, .duplicate,
          bitmapAccesses rx packet.header.packetIdx⟩
      else if
          (rxOffset geometry packet.header.packetIdx).toNat +
              (rxPayloadLen geometry rx packet.header.packetIdx).toNat >
            rx.capacity.toNat then
        ⟨rebuffered rx buffer, .errorBufferTooSmall,
          bitmapAccesses rx packet.header.packetIdx⟩
      else if
          (recordPacket geometry rx packet).receivedCount =
            (recordPacket geometry rx packet).packetCount then
        if
            (recordPacket geometry rx packet).receivedBytes ≠
              (recordPacket geometry rx packet).totalLen then
          ⟨recordPacket geometry (rebuffered rx buffer) packet,
            .errorBadTotalLen, storeAccesses geometry rx packet⟩
        else
          ⟨{ recordPacket geometry (rebuffered rx buffer) packet with
              complete := true },
            .complete, storeAccesses geometry rx packet⟩
      else
        ⟨recordPacket geometry (rebuffered rx buffer) packet, .accepted,
          storeAccesses geometry rx packet⟩ :=
  rfl

/-- Recording a packet writes its segment into whichever buffer it is. -/
theorem recordPacket_rebuffered
    (geometry : PacketGeometry) (rx : YkbProtocolRxState)
    (packet : YkbProtocolPacket) (buffer : Memory)
    (result : YkbProtocolRxResult) (finish : Bool) :
    SameCall rx.buffer buffer
      ⟨{ recordPacket geometry rx packet with complete := finish },
        result, storeAccesses geometry rx packet⟩
      ⟨{ recordPacket geometry (rebuffered rx buffer) packet with
          complete := finish },
        result, storeAccesses geometry rx packet⟩ := by
  constructor
  · rfl
  · rfl
  · rfl
  · intro position written
    rw [written_storeAccesses_iff] at written
    exact
      (Memory.writeBlock_inside written.1 written.2).trans
        (Memory.writeBlock_inside written.1 written.2).symm
  · intro position unwritten
    rw [written_storeAccesses_iff] at unwritten
    have outside :
        position < (rxOffset geometry packet.header.packetIdx).toNat ∨
          (rxOffset geometry packet.header.packetIdx).toNat +
              (rxPayloadLen geometry rx packet.header.packetIdx).toNat ≤
            position := by
      omega
    exact
      ⟨Memory.writeBlock_outside outside, Memory.writeBlock_outside outside⟩

theorem storePacket_rebuffered
    (geometry : PacketGeometry) (rx : YkbProtocolRxState)
    (packet : YkbProtocolPacket) (buffer : Memory) :
    SameCall rx.buffer buffer (storePacket geometry rx packet)
      (storePacket geometry (rebuffered rx buffer) packet) := by
  have own := storePacket_branches geometry rx packet rx.buffer
  rw [rebuffered_self] at own
  rw [own, storePacket_branches geometry rx packet buffer]
  split_ifs
  · exact .untouched not_written_nil buffer
  · exact .untouched (not_written_bitmapAccesses _ _) buffer
  · exact .untouched (not_written_bitmapAccesses _ _) buffer
  · exact recordPacket_rebuffered geometry rx packet buffer _ rx.complete
  · exact recordPacket_rebuffered geometry rx packet buffer _ true
  · exact recordPacket_rebuffered geometry rx packet buffer _ rx.complete

theorem begin_branches
    (rx : YkbProtocolRxState) (packet : YkbProtocolPacket)
    (buffer : Memory) :
    ykbProtocolRxBeginTransfer (rebuffered rx buffer) packet =
      if packet.header.totalLen > rx.capacity then
        ⟨rebuffered rx buffer, .errorBufferTooSmall, []⟩
      else if rx.allowOutOfOrder then
        if rx.receivedBitmap.isNone ∨
            rx.receivedBitmapSize <
              ykbProtocolBitmapSizeBytes packet.header.packetCount then
          ⟨rebuffered rx buffer, .errorMissingBitmapRequired, []⟩
        else
          ⟨pinTransfer
              { rebuffered rx buffer with
                receivedBitmap :=
                  ykbProtocolBitmapClearAll rx.receivedBitmap
                    rx.receivedBitmapSize }
              packet.header,
            .accepted, [.clearBitmap rx.receivedBitmapSize]⟩
      else
        ⟨pinTransfer (rebuffered rx buffer) packet.header, .accepted, []⟩ :=
  rfl

/-- Beginning a transfer does not look at the buffer. -/
theorem begin_rebuffered
    (rx : YkbProtocolRxState) (packet : YkbProtocolPacket)
    (buffer : Memory) :
    ykbProtocolRxBeginTransfer (rebuffered rx buffer) packet =
      ⟨rebuffered (ykbProtocolRxBeginTransfer rx packet).state buffer,
        (ykbProtocolRxBeginTransfer rx packet).result,
        (ykbProtocolRxBeginTransfer rx packet).accesses⟩ := by
  have own := begin_branches rx packet rx.buffer
  rw [rebuffered_self] at own
  rw [own, begin_branches rx packet buffer]
  split_ifs <;> rfl

theorem begin_buffer
    (rx : YkbProtocolRxState) (packet : YkbProtocolPacket) :
    (ykbProtocolRxBeginTransfer rx packet).state.buffer = rx.buffer := by
  simp only [ykbProtocolRxBeginTransfer]
  split_ifs <;> rfl

theorem not_written_begin
    (rx : YkbProtocolRxState) (packet : YkbProtocolPacket)
    (position : Nat) :
    ¬ writtenPositions (ykbProtocolRxBeginTransfer rx packet).accesses
        position := by
  rintro ⟨offset, length, member, _⟩
  simp only [ykbProtocolRxBeginTransfer] at member
  split_ifs at member
  · cases member
  · cases member
  · cases List.mem_singleton.mp member
  · cases member

theorem not_written_append
    {first second : List Access} {position : Nat}
    (early : ¬ writtenPositions first position)
    (late : ¬ writtenPositions second position) :
    ¬ writtenPositions (first ++ second) position := by
  rintro ⟨offset, length, member, inside⟩
  rcases List.mem_append.mp member with before | after
  · exact early ⟨offset, length, before, inside⟩
  · exact late ⟨offset, length, after, inside⟩

theorem not_written_checkAccesses (length position : Nat) :
    ¬ writtenPositions [.readPayload length] position := by
  rintro ⟨offset, _, member, _⟩
  cases List.mem_singleton.mp member

/-- A push on another buffer is the same call. -/
theorem push_rebuffered
    (geometry : PacketGeometry) (rx : YkbProtocolRxState)
    (packet : YkbProtocolPacket) (buffer : Memory) :
    SameCall rx.buffer buffer
      (ykbProtocolRxPushPacket geometry rx packet)
      (ykbProtocolRxPushPacket geometry (rebuffered rx buffer) packet) := by
  have checked :=
    not_written_checkAccesses
      (crcPayloadLen geometry packet.header).toNat
  have unwritten := not_written_begin rx packet
  have opened := begin_buffer rx packet
  have active : (rebuffered rx buffer).active = rx.active := rfl
  have same :
      sameTransfer (rebuffered rx buffer) packet.header =
        sameTransfer rx packet.header :=
    rfl
  rw [ykbProtocolRxPushPacket, ykbProtocolRxPushPacket,
    begin_rebuffered rx packet buffer, active, same]
  generalize ykbProtocolRxBeginTransfer rx packet = begun
    at unwritten opened ⊢
  rw [← opened]
  have silent :=
    fun position => not_written_append (checked position) (unwritten position)
  dsimp only
  split_ifs
  · exact opened ▸ .untouched not_written_nil buffer
  · exact opened ▸ .untouched not_written_nil buffer
  · exact opened ▸ .untouched checked buffer
  · exact .untouched silent buffer
  · exact
      (storePacket_rebuffered geometry begun.state packet buffer).after silent
  · exact opened ▸ .untouched checked buffer
  · exact
      opened ▸
        (storePacket_rebuffered geometry rx packet buffer).after checked

end SameCall

/-! ## Runs -/

section Runs

variable
    {geometry : PacketGeometry} {initial rx right : YkbProtocolRxState}
    {packet : YkbProtocolPacket} {stored : Finset Nat} {stale : Memory}

/-- The transfer of an active receiver stays the current one. -/
theorem push_keeps_transfer
    (describes : Describes geometry rx stored) (active : rx.active = true)
    (packet : YkbProtocolPacket) :
    (ykbProtocolRxPushPacket geometry rx packet).state.active = true ∧
      (ykbProtocolRxPushPacket geometry rx packet).state.totalLen =
        rx.totalLen := by
  rcases pushStep describes packet with ⟨next, step⟩
  generalize ykbProtocolRxPushPacket geometry rx packet = outcome at step ⊢
  cases step with
  | refused => exact ⟨active, rfl⟩
  | repeated => exact ⟨active, rfl⟩
  | begunOnly admissible resting =>
      exact absurd active (by simp [resting.active])
  | begunStored admissible resting =>
      exact absurd active (by simp [resting.active])
  | stored =>
      have parameters := storedState_sameParameters geometry rx packet
      exact ⟨parameters.active.trans active, parameters.totalLen⟩

theorem storeAccesses_written_lt
    (tracks : Tracks geometry rx stored)
    (indexLt : packet.header.packetIdx.toNat < rx.packetCount.toNat)
    {position : Nat}
    (written :
      writtenPositions (storeAccesses geometry rx packet) position) :
    position < rx.totalLen.toNat := by
  have ends := rxSegment_end_le tracks indexLt
  rw [written_storeAccesses_iff, rxOffset_toNat tracks indexLt,
    rxPayloadLen_toNat tracks indexLt] at written
  exact written.2.trans_le ends

/-- A call writes inside the announced length of its transfer. -/
theorem push_written_lt
    (describes : Describes geometry rx stored) {position : Nat}
    (written :
      writtenPositions
        (ykbProtocolRxPushPacket geometry rx packet).accesses position) :
    (ykbProtocolRxPushPacket geometry rx packet).state.active = true ∧
      position <
        (ykbProtocolRxPushPacket geometry rx packet).state.totalLen.toNat :=
    by
  have checked :=
    not_written_checkAccesses
      (crcPayloadLen geometry packet.header).toNat position
  rcases pushStep describes packet with ⟨next, step⟩
  generalize ykbProtocolRxPushPacket geometry rx packet = outcome
    at step written ⊢
  cases step with
  | refused _ _ reads =>
      rcases written with ⟨offset, length, member, _⟩
      rcases reads _ member with ⟨_, impossible, _⟩
      cases impossible
  | repeated =>
      exact
        absurd written
          (not_written_append checked (not_written_bitmapAccesses _ _ _))
  | begunOnly => exact absurd written checked
  | begunStored admissible resting can =>
      have parameters :=
        storedState_sameParameters geometry (begunState rx packet.header)
          packet
      have tracks := begunState_tracks admissible.valid can
      have opening :
          ¬ writtenPositions
              (checkAccesses geometry packet ++
                if rx.allowOutOfOrder then
                  [.clearBitmap rx.receivedBitmapSize]
                else
                  [])
              position := by
        apply not_written_append checked
        rintro ⟨offset, length, member, _⟩
        split_ifs at member
        · cases List.mem_singleton.mp member
        · cases member
      have storing :
          writtenPositions
            (storeAccesses geometry (begunState rx packet.header) packet)
            position := by
        by_contra silent
        exact not_written_append opening silent written
      refine ⟨parameters.active.trans tracks.active, ?_⟩
      rw [parameters.totalLen]
      exact
        storeAccesses_written_lt tracks
          (index_lt_of_sameTransfer admissible.valid
            (begunState_sameTransfer rx packet))
          storing
  | stored admissible tracks same =>
      have parameters := storedState_sameParameters geometry rx packet
      have storing :
          writtenPositions (storeAccesses geometry rx packet) position := by
        by_contra silent
        exact not_written_append checked silent written
      refine ⟨parameters.active.trans tracks.active, ?_⟩
      rw [parameters.totalLen]
      exact
        storeAccesses_written_lt tracks
          (index_lt_of_sameTransfer admissible.valid same) storing

/--
A receiver and its copy over a buffer with other stale bytes, after the same
calls: what the current transfer wrote agrees, what lies beyond its announced
length is still the stale content of each.
-/
structure SameRun
    (geometry : PacketGeometry) (initial : YkbProtocolRxState)
    (stale : Memory) (observed : Observed) (right : YkbProtocolRxState) :
    Prop where
  sound : Sound geometry initial observed
  state : right = rebuffered observed.rx right.buffer
  carried :
    ∀ position, writtenPositions observed.accesses position →
      observed.rx.buffer position = right.buffer position
  beyond :
    ∀ position,
      (observed.rx.active = true →
          observed.rx.totalLen.toNat ≤ position) →
        observed.rx.buffer position = initial.buffer position ∧
          right.buffer position = stale position

theorem SameRun.start (resting : Idle initial) (stale : Memory) :
    SameRun geometry initial stale (.fresh initial)
      (rebuffered initial stale) where
  sound := .fresh resting (.refl initial)
  state := rfl
  carried := fun position written =>
    absurd written (not_written_nil position)
  beyond := fun _ _ => ⟨rfl, rfl⟩

variable {observed : Observed}

/-- Forgetting the record of an inactive receiver only removes accesses. -/
theorem written_of_current {position : Nat}
    (written : writtenPositions observed.current.accesses position) :
    writtenPositions observed.accesses position := by
  rw [Observed.current] at written
  split_ifs at written
  · exact written
  · exact absurd written (not_written_nil position)

theorem SameRun.sameCall
    (runs : SameRun geometry initial stale observed right)
    (packet : YkbProtocolPacket) :
    SameCall observed.rx.buffer right.buffer
      (ykbProtocolRxPushPacket geometry observed.rx packet)
      (ykbProtocolRxPushPacket geometry right packet) := by
  rw [runs.state]
  exact push_rebuffered geometry observed.rx packet right.buffer

/-- Any packet keeps the two receivers alike. -/
theorem SameRun.push
    (runs : SameRun geometry initial stale observed right)
    (packet : YkbProtocolPacket) :
    SameRun geometry initial stale (observed.push geometry packet)
      (ykbProtocolRxPushPacket geometry right packet).state := by
  have call := runs.sameCall packet
  have describes := runs.sound.describes
  constructor
  · exact runs.sound.push packet
  · exact call.state
  · intro position written
    by_cases now :
        writtenPositions
          (ykbProtocolRxPushPacket geometry observed.rx packet).accesses
          position
    · exact call.written position now
    · rcases call.kept position now with ⟨left, same⟩
      have before :
          writtenPositions observed.current.accesses position := by
        by_contra silent
        exact not_written_append silent now written
      exact
        (left.trans
              (runs.carried position (written_of_current before))).trans
          same.symm
  · intro position beyond
    have unwritten :
        ¬ writtenPositions
            (ykbProtocolRxPushPacket geometry observed.rx packet).accesses
            position := by
      intro written
      rcases push_written_lt describes written with ⟨active, within⟩
      exact absurd within (Nat.not_lt.mpr (beyond active))
    rcases call.kept position unwritten with ⟨left, same⟩
    have before :=
      runs.beyond position fun active => by
        rcases push_keeps_transfer describes active packet with
          ⟨stillActive, sameLength⟩
        have further := beyond stillActive
        change
          (ykbProtocolRxPushPacket geometry observed.rx
              packet).state.totalLen.toNat ≤
            position at further
        rwa [sameLength] at further
    exact ⟨left.trans before.1, same.trans before.2⟩

end Runs

end YkbFirmware.Protocol.StaleBuffer
