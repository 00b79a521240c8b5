import YkbFirmware.Protocol.ReceiverStep

/-!
# The receiver on arbitrary packets

Arbitrary packets and resets in any order.  The receiver runs together with
two records of what happened to the current transfer: the indices which calls
reported as stored, and the memory accesses of its calls.  Neither record is
read by the receiver.  The invariant ties them to the receiver's own counters
and says that the accesses cover every stored segment.
-/

namespace YkbFirmware.Protocol.ReceiverSafety

open YkbFirmware.Library.ByteMemory
open YkbFirmware.Library.Segmentation
open YkbFirmware.Protocol.Wire
open YkbFirmware.Protocol.Receiver
open YkbFirmware.Protocol.ReceiverInvariant
open YkbFirmware.Protocol.ReceiverStep

/-- One call on the receiver. -/
inductive ReceiverCall where
  | push (packet : YkbProtocolPacket)
  | reset

/-- A receiver with the record of its current transfer. -/
structure Observed where
  rx : YkbProtocolRxState
  stored : Finset Nat
  accesses : List Access

/-- Nothing has been recorded for a receiver that was just initialised. -/
def Observed.fresh (rx : YkbProtocolRxState) : Observed where
  rx := rx
  stored := ∅
  accesses := []

/-- The record kept when a call begins: empty unless a transfer is active. -/
def Observed.current (observed : Observed) : Observed :=
  if observed.rx.active then observed else .fresh observed.rx

/-- A call reports its packet as stored by ACCEPTED or COMPLETE. -/
def reportsStored (result : YkbProtocolRxResult) : Bool :=
  result = .accepted ∨ result = .complete

def Observed.push
    (geometry : PacketGeometry)
    (observed : Observed) (packet : YkbProtocolPacket) : Observed :=
  let outcome := ykbProtocolRxPushPacket geometry observed.rx packet
  let current := observed.current
  { rx := outcome.state
    stored :=
      if reportsStored outcome.result then
        insert packet.header.packetIdx.toNat current.stored
      else
        current.stored
    accesses := current.accesses ++ outcome.accesses }

def Observed.call
    (geometry : PacketGeometry) (observed : Observed) :
    ReceiverCall → Observed
  | .push packet => observed.push geometry packet
  | .reset => .fresh (ykbProtocolRxReset observed.rx)

/-- The receiver after a list of calls. -/
def observe
    (geometry : PacketGeometry)
    (rx : YkbProtocolRxState) (calls : List ReceiverCall) : Observed :=
  calls.foldl (Observed.call geometry) (.fresh rx)

/-! ## The invariant -/

/-- Every byte of the stored segments was written. -/
def Covered
    (geometry : PacketGeometry) (rx : YkbProtocolRxState)
    (stored : Finset Nat) (accesses : List Access) : Prop :=
  ∀ index ∈ stored, ∀ within < rxLengthAt geometry rx index,
    writtenPositions accesses (index * geometry.maxPayloadSize + within)

/-- The record describes the receiver, which keeps its configuration. -/
structure Sound
    (geometry : PacketGeometry)
    (initial : YkbProtocolRxState) (observed : Observed) : Prop where
  configuration : SameConfiguration initial observed.rx
  describes : Describes geometry observed.rx observed.stored
  covered :
    Covered geometry observed.rx observed.stored observed.accesses

theorem writtenPositions_append_left
    {first second : List Access} {position : Nat}
    (written : writtenPositions first position) :
    writtenPositions (first ++ second) position := by
  rcases written with ⟨offset, length, member, inside⟩
  exact ⟨offset, length, List.mem_append_left _ member, inside⟩

theorem writtenPositions_append_right
    {first second : List Access} {position : Nat}
    (written : writtenPositions second position) :
    writtenPositions (first ++ second) position := by
  rcases written with ⟨offset, length, member, inside⟩
  exact ⟨offset, length, List.mem_append_right _ member, inside⟩

section Invariant

variable
    {geometry : PacketGeometry} {initial rx next : YkbProtocolRxState}
    {packet : YkbProtocolPacket} {stored : Finset Nat}
    {accesses more : List Access}

theorem Covered.empty : Covered geometry rx ∅ accesses := by
  intro index member
  exact absurd member (Finset.notMem_empty index)

/-- Further accesses keep what is covered, for the same transfer. -/
theorem Covered.append
    (covered : Covered geometry rx stored accesses)
    (totalLen : next.totalLen = rx.totalLen) :
    Covered geometry next stored (accesses ++ more) := by
  intro index member within withinLt
  rw [rxLengthAt, totalLen] at withinLt
  exact
    writtenPositions_append_left (covered index member within withinLt)

/-- A store covers the segment it adds. -/
theorem Covered.store
    (covered : Covered geometry rx stored accesses)
    (tracks : Tracks geometry rx stored)
    (indexLt : packet.header.packetIdx.toNat < rx.packetCount.toNat) :
    Covered geometry (storedState geometry rx packet)
      (insert packet.header.packetIdx.toNat stored)
      (accesses ++ (more ++ storeAccesses geometry rx packet)) := by
  have parameters := storedState_sameParameters geometry rx packet
  intro index member within withinLt
  rcases Finset.mem_insert.mp member with same | already
  · rw [same, rxLengthAt, parameters.totalLen] at withinLt
    rw [same]
    exact
      writtenPositions_append_right
        (writtenPositions_append_right
          (storeAccesses_written tracks indexLt withinLt))
  · exact
      covered.append parameters.totalLen index already within withinLt

theorem reportsStored_of_isError
    {result : YkbProtocolRxResult} (isError : result.isError = true) :
    reportsStored result = false := by
  cases result <;> first | rfl | cases isError

theorem reportsStored_storeResult (idx : UInt16) :
    reportsStored (storeResult rx stored idx) = true := by
  rw [storeResult]
  split_ifs <;> rfl

theorem Sound.fresh
    (resting : Idle rx) (configuration : SameConfiguration initial rx) :
    Sound geometry initial (.fresh rx) :=
  ⟨configuration, .idle resting, .empty⟩

/-- Forgetting the record of an inactive receiver forgets nothing. -/
theorem Sound.current
    {observed : Observed} (sound : Sound geometry initial observed) :
    Sound geometry initial observed.current ∧
      observed.current.rx = observed.rx ∧
        observed.current.stored = observed.stored := by
  rw [Observed.current]
  split_ifs with active
  · exact ⟨sound, rfl, rfl⟩
  · rcases observed with ⟨rx, stored, accesses⟩
    cases sound.describes with
    | idle resting =>
        exact ⟨.fresh resting sound.configuration, rfl, rfl⟩
    | busy tracks => exact absurd tracks.active active

/-- Any packet keeps the invariant. -/
theorem Sound.push
    {observed : Observed} (sound : Sound geometry initial observed)
    (packet : YkbProtocolPacket) :
    Sound geometry initial (observed.push geometry packet) := by
  rcases sound.current with ⟨current, sameRx, sameStored⟩
  have describes := current.describes
  have covered := current.covered
  rw [sameRx] at describes covered
  rcases pushStep describes packet with ⟨next, step⟩
  have after := step.describes describes
  have configuration :=
    sound.configuration.trans step.sameConfiguration
  rw [Observed.push]
  generalize ykbProtocolRxPushPacket geometry observed.rx packet = outcome
    at step after configuration ⊢
  generalize observed.current.stored = stored
    at describes covered step sameStored ⊢
  cases step with
  | refused isError =>
      rw [if_neg (by simp [reportsStored_of_isError isError])]
      exact ⟨configuration, after, covered.append rfl⟩
  | repeated =>
      exact ⟨configuration, after, covered.append rfl⟩
  | begunOnly =>
      exact ⟨configuration, after, .empty⟩
  | begunStored admissible resting can awaits =>
      rw [if_pos (reportsStored_storeResult _)]
      refine ⟨configuration, after, ?_⟩
      exact
        Covered.store .empty (begunState_tracks admissible.valid can)
          (index_lt_of_sameTransfer admissible.valid
            (begunState_sameTransfer _ packet))
  | stored admissible tracks same =>
      rw [if_pos (reportsStored_storeResult _)]
      exact
        ⟨configuration, after,
          covered.store tracks
            (index_lt_of_sameTransfer admissible.valid same)⟩

theorem Sound.call
    {observed : Observed} (sound : Sound geometry initial observed)
    (call : ReceiverCall) :
    Sound geometry initial (observed.call geometry call) := by
  cases call with
  | push packet => exact sound.push packet
  | reset =>
      exact
        .fresh (idle_rxReset observed.rx)
          (sound.configuration.trans
            (rxReset_sameConfiguration observed.rx))

/-- The invariant holds after every list of calls. -/
theorem sound_observe
    (resting : Idle initial) (calls : List ReceiverCall) :
    Sound geometry initial (observe geometry initial calls) := by
  have start : Sound geometry initial (.fresh initial) :=
    .fresh resting (.refl initial)
  rw [observe]
  generalize Observed.fresh initial = observed at start ⊢
  induction calls generalizing observed with
  | nil => exact start
  | cons call rest induction => exact induction _ (start.call call)

/-! ## The buffer and the record of its accesses -/

/-- The copies of a record carried out, each from the start of the payload. -/
def replay (payload buffer : Memory) (accesses : List Access) : Memory :=
  accesses.foldl
    (fun memory access =>
      match access with
      | .writeBuffer offset length => memory.writeBlock offset length payload
      | .readPayload _ | .bitmapByte _ | .clearBitmap _ => memory)
    buffer

theorem replay_append (payload buffer : Memory) (first second : List Access) :
    replay payload buffer (first ++ second) =
      replay payload (replay payload buffer first) second :=
  List.foldl_append

theorem replay_bitmapAccesses (payload buffer : Memory) (idx : UInt16) :
    replay payload buffer (bitmapAccesses rx idx) = buffer := by
  rw [bitmapAccesses]
  split_ifs <;> rfl

theorem replay_copyAccesses
    (payload buffer : Memory) (offset payloadLen : UInt16) :
    replay payload buffer (copyAccesses offset payloadLen) =
      buffer.writeBlock offset.toNat payloadLen.toNat payload := by
  rw [copyAccesses]
  split_ifs with some
  · rfl
  · have none : payloadLen.toNat = 0 := by
      rw [gt_iff_lt, UInt16.lt_iff_toNat_lt] at some
      exact Nat.le_zero.mp (Nat.not_lt.mp some)
    rw [none, Memory.writeBlock_zero]
    rfl

theorem replay_stored (packet : YkbProtocolPacket) (offset len : UInt16) :
    replay packet.payload rx.buffer
        (bitmapAccesses rx packet.header.packetIdx ++
            copyAccesses offset len ++
          bitmapAccesses rx packet.header.packetIdx) =
      rx.buffer.writeBlock offset.toNat len.toNat packet.payload := by
  rw [replay_append, replay_append, replay_bitmapAccesses,
    replay_bitmapAccesses, replay_copyAccesses]

/-- A store changes the buffer by the copy it has recorded. -/
theorem storePacket_replays
    (geometry : PacketGeometry) (rx : YkbProtocolRxState)
    (packet : YkbProtocolPacket) :
    (storePacket geometry rx packet).state.buffer =
      replay packet.payload rx.buffer
        (storePacket geometry rx packet).accesses := by
  rw [storePacket]
  dsimp only
  split_ifs
  · rfl
  · exact (replay_bitmapAccesses _ _ _).symm
  · exact (replay_bitmapAccesses _ _ _).symm
  · exact (replay_stored packet _ _).symm
  · exact (replay_stored packet _ _).symm
  · exact (replay_stored packet _ _).symm

/-- Beginning a transfer leaves the buffer alone. -/
theorem begin_replays (rx : YkbProtocolRxState) (packet : YkbProtocolPacket) :
    (ykbProtocolRxBeginTransfer rx packet).state.buffer = rx.buffer ∧
      replay packet.payload rx.buffer
          (ykbProtocolRxBeginTransfer rx packet).accesses =
        rx.buffer := by
  rw [ykbProtocolRxBeginTransfer]
  dsimp only
  split_ifs <;> exact ⟨rfl, rfl⟩

/-- The buffer after a push is the one with the recorded copies made. -/
theorem push_replays
    (geometry : PacketGeometry) (rx : YkbProtocolRxState)
    (packet : YkbProtocolPacket) :
    (ykbProtocolRxPushPacket geometry rx packet).state.buffer =
      replay packet.payload rx.buffer
        (ykbProtocolRxPushPacket geometry rx packet).accesses := by
  rcases begin_replays rx packet with ⟨begun, cleared⟩
  rw [ykbProtocolRxPushPacket]
  dsimp only
  split_ifs
  · rfl
  · rfl
  · rfl
  · exact begun.trans cleared.symm
  · rw [RxOutcome.after, replay_append, replay_append]
    refine (storePacket_replays geometry _ packet).trans ?_
    rw [begun]
    exact congrArg (fun buffer => replay _ buffer _) cleared.symm
  · rfl
  · exact storePacket_replays geometry rx packet

/-! ## What the invariant gives for one call -/

/-- Every access of a push stays inside the objects of the receiver. -/
theorem push_inBounds
    (describes : Describes geometry rx stored)
    (packet : YkbProtocolPacket) :
    ∀ access ∈ (ykbProtocolRxPushPacket geometry rx packet).accesses,
      InBounds geometry rx access := by
  rcases pushStep describes packet with ⟨next, step⟩
  generalize ykbProtocolRxPushPacket geometry rx packet = outcome at step ⊢
  intro access member
  cases step with
  | refused isError explained reads =>
      rcases reads access member with ⟨length, rfl, lengthLe⟩
      exact lengthLe
  | repeated admissible tracks same =>
      rcases List.mem_append.mp member with checked | tested
      · exact checkAccesses_inBounds admissible.valid access checked
      · exact
          bitmapAccesses_inBounds tracks
            (index_lt_of_sameTransfer admissible.valid same) access tested
  | begunOnly admissible =>
      exact checkAccesses_inBounds admissible.valid access member
  | begunStored admissible resting can =>
      have kept := begunState_sameConfiguration rx packet.header
      rcases List.mem_append.mp member with before | copied
      · rcases List.mem_append.mp before with checked | cleared
        · exact checkAccesses_inBounds admissible.valid access checked
        · split_ifs at cleared with outOfOrder
          · rw [List.mem_singleton.mp cleared]
            exact ⟨(can.2 outOfOrder).1, le_rfl⟩
          · cases cleared
      · exact
          kept.inBounds_iff.mp
            (storeAccesses_inBounds
              (begunState_tracks admissible.valid can)
              (index_lt_of_sameTransfer admissible.valid
                (begunState_sameTransfer rx packet))
              access copied)
  | stored admissible tracks same =>
      rcases List.mem_append.mp member with checked | copied
      · exact checkAccesses_inBounds admissible.valid access checked
      · exact
          storeAccesses_inBounds tracks
            (index_lt_of_sameTransfer admissible.valid same) access copied

theorem resetAccesses_inBounds (rx : YkbProtocolRxState) :
    ∀ access ∈ resetAccesses rx, InBounds geometry rx access := by
  intro access member
  rw [resetAccesses] at member
  split_ifs at member with present
  · rw [List.mem_singleton.mp member]
    exact ⟨present.1, le_rfl⟩
  · cases member

/-- A valid header is never answered with BAD_TOTAL_LEN. -/
theorem push_ne_errorBadTotalLen
    (describes : Describes geometry rx stored)
    (valid : HeaderValid geometry packet.header) :
    (ykbProtocolRxPushPacket geometry rx packet).result ≠
      .errorBadTotalLen := by
  rcases pushStep describes packet with ⟨next, step⟩
  have stores :
      ∀ (rx : YkbProtocolRxState) (stored : Finset Nat) (idx : UInt16),
        storeResult rx stored idx ≠ .errorBadTotalLen := by
    intro rx stored idx
    rw [storeResult]
    split_ifs <;> intro impossible <;> cases impossible
  generalize ykbProtocolRxPushPacket geometry rx packet = outcome at step ⊢
  cases step with
  | refused isError explained => exact explained valid
  | repeated => exact fun impossible => by cases impossible
  | begunOnly => exact fun impossible => by cases impossible
  | begunStored => exact stores _ _ _
  | stored => exact stores _ _ _

/-- COMPLETE is reported together with the `complete` flag. -/
theorem push_complete
    (describes : Describes geometry rx stored)
    (completed :
      (ykbProtocolRxPushPacket geometry rx packet).result = .complete) :
    (ykbProtocolRxPushPacket geometry rx packet).state.complete = true := by
  rcases pushStep describes packet with ⟨next, step⟩
  have after := step.describes describes
  generalize ykbProtocolRxPushPacket geometry rx packet = outcome
    at step after completed ⊢
  have stores :
      ∀ {rx : YkbProtocolRxState} {stored : Finset Nat},
        Tracks geometry (storedState geometry rx packet)
            (insert packet.header.packetIdx.toNat stored) →
          storeResult rx stored packet.header.packetIdx = .complete →
            (storedState geometry rx packet).complete = true := by
    intro rx stored tracks full
    rw [tracks.complete,
      (storedState_sameParameters geometry rx packet).packetCount]
    by_contra partly
    rw [storeResult, if_neg partly] at full
    cases full
  cases step with
  | refused isError =>
      cases completed
      cases isError
  | repeated => cases completed
  | begunOnly => cases completed
  | begunStored =>
      have parameters :=
        storedState_sameParameters geometry (begunState rx packet.header)
          packet
      exact stores (after.tracks parameters.active) completed
  | stored admissible tracks =>
      have parameters := storedState_sameParameters geometry rx packet
      exact
        stores (after.tracks (parameters.active.trans tracks.active))
          completed

/-- A complete receiver had all its bytes written. -/
theorem Sound.written_of_complete
    {observed : Observed} (sound : Sound geometry initial observed)
    (complete : observed.rx.complete = true)
    {position : Nat} (within : position < observed.rx.totalLen.toNat) :
    writtenPositions observed.accesses position := by
  rcases observed with ⟨rx, stored, accesses⟩
  have covered := sound.covered
  cases sound.describes with
  | idle resting =>
      rw [resting.complete] at complete
      cases complete
  | busy tracks =>
      rcases position_in_segment geometry.maxPayloadSize_pos within with
        ⟨indexLt, lower, upper⟩
      have full :=
        eq_range_of_card tracks.storedWithin (tracks.complete.mp complete)
      rw [← tracks.countEq, ← Finset.mem_range, ← full] at indexLt
      have located :=
        covered _ indexLt
          (position -
            position / geometry.maxPayloadSize * geometry.maxPayloadSize)
          (by rw [rxLengthAt]; omega)
      rwa [Nat.add_sub_cancel' lower] at located

/-- The bytes counted are those of the stored indices. -/
theorem receivedBytes_eq_sum
    (describes : Describes geometry rx stored) :
    rx.receivedBytes.toNat =
      ∑ index ∈ stored,
        (rxPayloadLen geometry rx (UInt16.ofNat index)).toNat := by
  cases describes with
  | idle resting =>
      rw [resting.receivedBytes]
      rfl
  | busy tracks =>
      rw [tracks.receivedBytes]
      apply Finset.sum_congr rfl
      intro index member
      have indexLt := Finset.mem_range.mp (tracks.storedWithin member)
      have bound := rx.packetCount.toNat_lt
      have indexNat : (UInt16.ofNat index).toNat = index := by
        rw [UInt16.toNat_ofNat']
        omega
      rw [rxPayloadLen,
        payloadLenForIndex_toNat tracks.countEq (by rwa [indexNat]),
        indexNat]
      rfl

/-- The counters never exceed what the transfer announced. -/
theorem counters_le (describes : Describes geometry rx stored) :
    rx.receivedCount ≤ rx.packetCount ∧
      rx.receivedBytes ≤ rx.totalLen ∧ rx.totalLen ≤ rx.capacity := by
  simp only [UInt16.le_iff_toNat_le]
  cases describes with
  | idle resting =>
      rw [resting.receivedCount, resting.packetCount,
        resting.receivedBytes, resting.totalLen]
      exact ⟨le_rfl, le_rfl, Nat.zero_le _⟩
  | busy tracks =>
      refine ⟨?_, ?_, tracks.totalLe⟩
      · rw [tracks.receivedCount]
        simpa using Finset.card_le_card tracks.storedWithin
      · rw [tracks.receivedBytes]
        exact
          sum_segmentLength_le geometry.maxPayloadSize_pos
            (tracks.countEq ▸ tracks.storedWithin)

end Invariant

/--
Safety on arbitrary input: after any packets and resets the counters describe
the stored indices and respect the announced sizes, every access of the next
call is in bounds and the buffer changes by the recorded copies alone, COMPLETE
means that each announced byte was written during the transfer, and no packet
with a valid header is answered BAD_TOTAL_LEN.
-/
theorem receiver_safety
    (geometry : PacketGeometry)
    (buffer : Memory) (capacity : UInt16) (allowOutOfOrder : Bool)
    (bitmap : Option Memory) (bitmapSize : Nat)
    (calls : List ReceiverCall) :
    let initial :=
      ykbProtocolRxInit buffer capacity allowOutOfOrder bitmap bitmapSize
    let observed := observe geometry initial calls
    let rx := observed.rx
    rx.receivedCount ≤ rx.packetCount ∧
      rx.receivedBytes.toNat =
          ∑ index ∈ observed.stored,
            (rxPayloadLen geometry rx (UInt16.ofNat index)).toNat ∧
        rx.receivedBytes ≤ rx.totalLen ∧ rx.totalLen ≤ capacity ∧
          (∀ access ∈ resetAccesses rx, InBounds geometry initial access) ∧
            ∀ packet,
              let outcome := ykbProtocolRxPushPacket geometry rx packet
              (∀ access ∈ outcome.accesses,
                  InBounds geometry initial access) ∧
                outcome.state.buffer =
                    replay packet.payload rx.buffer outcome.accesses ∧
                  (outcome.result = .complete →
                    ∀ position < outcome.state.totalLen.toNat,
                      writtenPositions
                        (observed.push geometry packet).accesses
                        position) ∧
                    (ykbProtocolIsHeaderValid geometry packet.header = true →
                      outcome.result ≠ .errorBadTotalLen) := by
  intro initial observed rx
  have sound : Sound geometry initial observed :=
    sound_observe (idle_rxInit _ _ _ _ _) calls
  rcases counters_le sound.describes with ⟨counts, bytes, fits⟩
  refine ⟨counts, receivedBytes_eq_sum sound.describes, bytes, ?_, ?_, ?_⟩
  · exact fits.trans_eq sound.configuration.capacity
  · intro access member
    exact
      sound.configuration.inBounds_iff.mp
        (resetAccesses_inBounds rx access member)
  · intro packet outcome
    refine ⟨?_, push_replays geometry rx packet, ?_, ?_⟩
    · intro access member
      exact
        sound.configuration.inBounds_iff.mp
          (push_inBounds sound.describes packet access member)
    · intro completed position within
      exact
        (sound.push packet).written_of_complete
          (push_complete sound.describes completed) within
    · intro valid
      exact
        push_ne_errorBadTotalLen sound.describes
          ((isHeaderValid_iff geometry packet.header).mp valid)

end YkbFirmware.Protocol.ReceiverSafety
