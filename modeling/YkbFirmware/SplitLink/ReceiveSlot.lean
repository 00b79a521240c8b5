import YkbFirmware.Protocol.TransferReceipt
import YkbFirmware.SplitLink.Slots

/-!
# A slot assembling a transfer

`Assembling geometry slot transfer` says that whatever the buffer of a slot
holds comes from `transfer`: some packets of it while the slot is RECEIVING,
all of them once it is READY.  A packet which an EMPTY slot takes starts such
an assembly.  A packet which a RECEIVING slot stores continues it only if it is
a packet of the same transfer; the checks of the slot do not establish that,
since they compare header fields which successive transfers share.
-/

namespace YkbFirmware.SplitLink.ReceiveSlot

open YkbFirmware.Library.ByteMemory
open YkbFirmware.Protocol.Wire
open YkbFirmware.Protocol.Sender
open YkbFirmware.Protocol.Receiver
open YkbFirmware.Protocol.ReceiverInvariant
open YkbFirmware.Protocol.ReceiverStep
open YkbFirmware.Protocol.TransferReceipt
open YkbFirmware.SplitLink.Slots

/-- The packet passes every test a RECEIVING slot makes before it stores. -/
def Stores (slot : RxSlot) (packet : YkbProtocolPacket) : Prop :=
  slot.state = .receiving ∧
    sameTransfer slot.rx packet.header = true ∧
      if slot.rx.allowOutOfOrder then
        ykbProtocolBitmapTest (bitmapOf slot.rx) packet.header.packetIdx =
          false
      else
        packet.header.packetIdx = slot.rx.nextExpectedPacketIdx

/-- The packets in the buffer of a slot are packets of `transfer`. -/
inductive Assembling
    (geometry : PacketGeometry) (slot : RxSlot) (transfer : Transfer) :
    Prop where
  | part {stored : Finset Nat}
      (state : slot.state = .receiving)
      (receiving : Receiving geometry transfer slot.rx stored)
  | whole
      (state : slot.state = .ready ∨ slot.state = .processing)
      (receiving :
        Receiving geometry transfer slot.rx
          (Finset.range (transfer.count geometry)))

variable
    {options : SplitlinkOptions} {name : SlotName} {slot : RxSlot}
    {transfer : Transfer} {packet : YkbProtocolPacket}
    {stored : Finset Nat} {index : Nat}

/-! ## One packet -/

theorem pushReceived_error
    (isError :
      (ykbProtocolRxPushPacket options.geometry slot.rx
        packet).result.isError = true) :
    (pushReceived options slot packet).state = .empty := by
  rw [pushReceived, if_pos isError]

/-- A push which stores one more packet. -/
theorem pushReceived_stored
    (advances :
      Advances options.geometry transfer
        (ykbProtocolRxPushPacket options.geometry slot.rx packet) stored) :
    pushReceived options slot packet =
      let rx :=
        (ykbProtocolRxPushPacket options.geometry slot.rx packet).state
      if stored.card = transfer.count options.geometry then
        { slot with rx := rx, state := .ready, submitted := true }
      else
        { slot with rx := rx } := by
  have result := advances.result
  rw [pushReceived]
  dsimp only
  by_cases full : stored.card = transfer.count options.geometry
  · rw [if_pos full] at result ⊢
    rw [result, if_neg (by decide), if_pos rfl]
  · rw [if_neg full] at result ⊢
    rw [result, if_neg (by decide), if_neg (by decide)]

/-- It keeps the assembly going. -/
theorem pushReceived_advances
    (state : slot.state = .receiving)
    (advances :
      Advances options.geometry transfer
        (ykbProtocolRxPushPacket options.geometry slot.rx packet) stored) :
    Assembling options.geometry (pushReceived options slot packet)
      transfer := by
  have receiving := advances.receiving
  rw [pushReceived_stored advances]
  dsimp only
  split_ifs with full
  · have everything :
        stored = Finset.range (transfer.count options.geometry) :=
      Finset.eq_of_subset_of_card_le receiving.stored_subset
        (by rw [Finset.card_range, full])
    exact .whole (Or.inl rfl) (everything ▸ receiving)
  · exact .part state receiving

theorem rxInit_idle (options : SplitlinkOptions) (name : SlotName)
    (slot : RxSlot) :
    Idle (rxInit options name slot).rx := by
  rw [rxInit]
  dsimp only
  split_ifs <;> exact idle_rxInit _ _ _ _ _

/-- An EMPTY slot starts an assembly with any packet it takes. -/
theorem receiveOnSlot_empty
    (empty : slot.state = .empty)
    (within : index < transfer.count options.geometry) :
    (receiveOnSlot options name slot
          (transfer.packet options.geometry index)).state = .empty ∨
      Assembling options.geometry
        (receiveOnSlot options name slot
          (transfer.packet options.geometry index))
        transfer := by
  have idle := rxInit_idle options name slot
  rw [receiveOnSlot, empty]
  dsimp only
  rcases pushStep (.idle idle) (transfer.packet options.geometry index) with
    ⟨next, step⟩
  generalize pushed :
      ykbProtocolRxPushPacket options.geometry (rxInit options name slot).rx
        (transfer.packet options.geometry index) = outcome at step
  cases step with
  | refused isError =>
      exact Or.inl (pushReceived_error (by rw [pushed]; exact isError))
  | begunOnly =>
      exact Or.inl (pushReceived_error (by rw [pushed]; rfl))
  | begunStored admissible resting can awaits =>
      have receiving := begunState_receiving within can
      have advances :
          Advances options.geometry transfer
            (ykbProtocolRxPushPacket options.geometry
              (rxInit options name slot).rx
              (transfer.packet options.geometry index))
            (insert index ∅) := by
        rw [pushed]
        exact
          ⟨storeResult_eq receiving within,
            storedState_receiving receiving within awaits⟩
      exact Or.inr (pushReceived_advances rfl advances)
  | repeated admissible tracks =>
      exact absurd tracks.active (by simp [idle.active])
  | stored admissible tracks =>
      exact absurd tracks.active (by simp [idle.active])

/-- What the receiver awaits passes the tests of the source. -/
theorem stores_of_awaits
    (state : slot.state = .receiving)
    (admissible : Admissible options.geometry packet)
    (tracks : Tracks options.geometry slot.rx stored)
    (same : sameTransfer slot.rx packet.header = true)
    (awaits : Awaits slot.rx stored packet.header.packetIdx) :
    Stores slot packet := by
  refine ⟨state, same, ?_⟩
  split_ifs with outOfOrder
  · rw [Bool.eq_false_iff]
    intro tested
    have indexLt := index_lt_of_sameTransfer admissible.valid same
    exact awaits.1 ((bitmapTest_iff tracks outOfOrder indexLt).1 tested)
  · exact awaits.2 (Bool.eq_false_iff.mpr outOfOrder)

/--
A RECEIVING slot keeps assembling its transfer if the packet, in case it is
stored, is a packet of that transfer.
-/
theorem receiveOnSlot_receiving
    (state : slot.state = .receiving)
    (receiving : Receiving options.geometry transfer slot.rx stored)
    (unmixed :
      Stores slot packet →
        packet =
          transfer.packet options.geometry packet.header.packetIdx.toNat) :
    (receiveOnSlot options name slot packet).state = .empty ∨
      Assembling options.geometry
        (receiveOnSlot options name slot packet) transfer := by
  rw [receiveOnSlot, state]
  dsimp only
  rcases pushStep (.busy receiving.tracks) packet with ⟨next, step⟩
  generalize pushed :
      ykbProtocolRxPushPacket options.geometry slot.rx packet = outcome
      at step
  cases step with
  | refused isError =>
      exact Or.inl (pushReceived_error (by rw [pushed]; exact isError))
  | repeated =>
      have unchanged : pushReceived options slot packet = slot := by
        rw [pushReceived, pushed]
        rfl
      rw [unchanged]
      exact Or.inr (.part state receiving)
  | begunOnly admissible resting =>
      exact absurd receiving.tracks.active (by simp [resting.active])
  | begunStored admissible resting =>
      exact absurd receiving.tracks.active (by simp [resting.active])
  | stored admissible tracks same awaits =>
      have own :=
        unmixed (stores_of_awaits state admissible tracks same awaits)
      have within :
          packet.header.packetIdx.toNat <
            transfer.count options.geometry := by
        rw [← receiving.packetCount_toNat]
        exact index_lt_of_sameTransfer admissible.valid same
      rw [own] at awaits
      have advances := push_new receiving within awaits
      rw [← own] at advances
      exact Or.inr (pushReceived_advances state advances)

theorem receiveOnSlot_busy
    (busy : slot.state = .ready ∨ slot.state = .processing) :
    receiveOnSlot options name slot packet = slot := by
  rcases busy with state | state <;> rw [receiveOnSlot, state]

/-! ## A whole transfer -/

/-- The slot has room for the transfer. -/
def Fits
    (options : SplitlinkOptions) (name : SlotName) (transfer : Transfer) :
    Prop :=
  transfer.totalLen ≤ options.maxDataLength name ∧
    (options.outOfOrderTrack = true →
      ykbProtocolBitmapSizeBytes (transfer.packetCount options.geometry) ≤
        options.bitmapLength)

theorem rxInit_roomFor (fits : Fits options name transfer) :
    RoomFor options.geometry transfer (rxInit options name slot).rx := by
  rw [rxInit]
  dsimp only
  split_ifs with outOfOrder
  · exact ⟨fits.1, fun _ => ⟨rfl, fits.2 outOfOrder⟩⟩
  · exact ⟨fits.1, fun impossible => by cases impossible⟩

/-- The slot has taken the packets below `index`, and no others. -/
inductive UpTo
    (options : SplitlinkOptions) (name : SlotName) (transfer : Transfer)
    (slot : RxSlot) : Nat → Prop where
  | start
      (empty : slot.state = .empty)
      (fits : Fits options name transfer) :
      UpTo options name transfer slot 0
  | middle {index : Nat}
      (state : slot.state = .receiving)
      (within : index < transfer.count options.geometry)
      (receiving :
        Receiving options.geometry transfer slot.rx (Finset.range index)) :
      UpTo options name transfer slot index
  | full
      (state : slot.state = .ready)
      (submitted : slot.submitted = true)
      (receiving :
        Receiving options.geometry transfer slot.rx
          (Finset.range (transfer.count options.geometry))) :
      UpTo options name transfer slot (transfer.count options.geometry)

/-- One push moves the slot on. -/
theorem upTo_pushReceived
    (state : slot.state = .receiving)
    (within : index < transfer.count options.geometry)
    (advances :
      Advances options.geometry transfer
        (ykbProtocolRxPushPacket options.geometry slot.rx packet)
        (Finset.range (index + 1))) :
    UpTo options name transfer (pushReceived options slot packet)
      (index + 1) := by
  rw [pushReceived_stored advances, Finset.card_range]
  dsimp only
  split_ifs with last
  · rw [last]
    exact .full rfl rfl (last ▸ advances.receiving)
  · exact
      .middle state (Nat.lt_of_le_of_ne within last) advances.receiving

/-- The next packet in order moves the slot on, whichever mode is in use. -/
theorem upTo_next
    (upTo : UpTo options name transfer slot index)
    (within : index < transfer.count options.geometry) :
    UpTo options name transfer
      (receiveOnSlot options name slot
        (transfer.packet options.geometry index))
      (index + 1) := by
  cases upTo with
  | start empty fits =>
      rw [receiveOnSlot, empty]
      exact
        upTo_pushReceived rfl within
          (push_first within (rxInit_idle options name slot).active
            (rxInit_roomFor fits) fun _ => rfl)
  | middle state _ receiving =>
      have advances :=
        push_new receiving within (awaits_next receiving within)
      rw [← Finset.range_add_one] at advances
      rw [receiveOnSlot, state]
      exact upTo_pushReceived state within advances
  | full => exact absurd within (Nat.lt_irrefl _)

/-! ## The message -/

/--
The lengths the send functions use: a whole number of values, or the size of
the structure.
-/
def MessageLength
    (options : SplitlinkOptions) (name : SlotName) (length : UInt16) : Prop :=
  match name with
  | .values => 2 ∣ length.toNat
  | name => length = options.maxDataLength name

/-- The consumer of a complete slot is given the payload of the transfer. -/
theorem handedMessage_eq
    (receiving :
      Receiving options.geometry transfer slot.rx
        (Finset.range (transfer.count options.geometry)))
    (length : MessageLength options name transfer.totalLen) :
    handedMessage options name slot = transfer.payload := by
  have payload := receiving.payload_of_full rfl
  rw [receiving.totalLen] at payload
  rw [← payload]
  cases name with
  | values =>
      rw [handedMessage, receiving.totalLen, Nat.div_mul_cancel length]
  | settings | scriptsManifest | scriptsRequest | scriptSlot | battery =>
      exact
        congrArg
          (fun size : UInt16 => slot.rx.buffer.readBlock 0 size.toNat)
          length.symm

end YkbFirmware.SplitLink.ReceiveSlot
