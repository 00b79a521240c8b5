import YkbFirmware.Protocol.Sender
import YkbFirmware.Protocol.ReceiverSafety

/-!
# Rejected packets

A packet answered with an error should leave the receiver as it was.  The
case list of a push has one error that does not: a receiver which takes
packets in order and is between transfers begins the transfer of a packet
before it looks at the packet's index, and refuses the packet if that index is
not 0.
-/

namespace YkbFirmware.Protocol.RejectedPacket

open YkbFirmware.Library.ByteMemory
open YkbFirmware.Protocol.Wire
open YkbFirmware.Protocol.Sender
open YkbFirmware.Protocol.Receiver
open YkbFirmware.Protocol.ReceiverInvariant
open YkbFirmware.Protocol.ReceiverStep
open YkbFirmware.Protocol.ReceiverSafety

/--
The packet passes all checks of its own and of its transfer, but it finds an
in-order receiver between transfers and is not the first of its transfer.
-/
structure BeginsLate
    (geometry : PacketGeometry)
    (rx : YkbProtocolRxState) (packet : YkbProtocolPacket) : Prop where
  resting : rx.active = false
  inOrder : rx.allowOutOfOrder = false
  admissible : Admissible geometry packet
  fits : packet.header.totalLen ≤ rx.capacity
  late : packet.header.packetIdx ≠ 0

/-- If the packet is answered with an error, nothing has changed. -/
def RejectedUntouched
    (geometry : PacketGeometry)
    (rx : YkbProtocolRxState) (packet : YkbProtocolPacket) : Prop :=
  let outcome := ykbProtocolRxPushPacket geometry rx packet
  outcome.result.isError = true → outcome.state = rx

section Push

variable
    {geometry : PacketGeometry}
    {rx : YkbProtocolRxState} {packet : YkbProtocolPacket}
    {stored : Finset Nat}

/-- A late beginning switches the receiver to the refused transfer. -/
theorem push_beginsLate (late : BeginsLate geometry rx packet) :
    ykbProtocolRxPushPacket geometry rx packet =
      ⟨begunState rx packet.header, .errorOutOfOrder,
        checkAccesses geometry packet⟩ := by
  have ordered : ¬ rx.allowOutOfOrder = true := by
    simp [late.inOrder]
  have can : CanHold rx packet.header :=
    ⟨late.fits, fun outOfOrder => absurd outOfOrder ordered⟩
  have begunOrdered :
      (begunState rx packet.header).allowOutOfOrder = false := by
    simpa [begunState, pinTransfer] using late.inOrder
  rw [push_idle late.admissible late.resting, begin_accepted can,
    if_neg (by simp),
    storePacket_outOfOrder begunOrdered (by exact late.late),
    if_neg ordered]
  simp [RxOutcome.after]

/-- Stored packets are not answered with an error. -/
theorem storeResult_isError (idx : UInt16) :
    (storeResult rx stored idx).isError = false := by
  rw [storeResult]
  split_ifs <;> rfl

/-- Every other error leaves a described receiver alone. -/
theorem PushStep.untouched
    {outcome : RxOutcome} {next : Finset Nat}
    (step : PushStep geometry rx packet stored outcome next)
    (onTime : ¬ BeginsLate geometry rx packet)
    (isError : outcome.result.isError = true) :
    outcome.state = rx := by
  cases step with
  | refused => rfl
  | repeated => rfl
  | begunOnly admissible resting can inOrder late =>
      exact absurd ⟨resting.active, inOrder, admissible, can.1, late⟩ onTime
  | begunStored =>
      rw [storeResult_isError] at isError
      cases isError
  | stored =>
      rw [storeResult_isError] at isError
      cases isError

theorem rejectedUntouched_iff
    (describes : Describes geometry rx stored)
    (packet : YkbProtocolPacket) :
    RejectedUntouched geometry rx packet ↔
      ¬ BeginsLate geometry rx packet := by
  constructor
  · intro untouched late
    rw [RejectedUntouched, push_beginsLate late] at untouched
    -- the begun receiver is active
    have active := congrArg YkbProtocolRxState.active (untouched rfl)
    exact absurd (active.trans late.resting) (by simp [begunState, pinTransfer])
  · intro onTime isError
    rcases pushStep describes packet with ⟨next, step⟩
    exact PushStep.untouched step onTime isError

end Push

/--
After any packets and resets, in either mode, a packet that is answered with
an error leaves the receiver, its bitmap and its buffer alone if and only if
it does not begin a transfer late.
-/
theorem rejected_packet_untouched_iff
    (geometry : PacketGeometry)
    (buffer : Memory) (capacity : UInt16) (allowOutOfOrder : Bool)
    (bitmap : Option Memory) (bitmapSize : Nat)
    (calls : List ReceiverCall) (packet : YkbProtocolPacket) :
    let rx :=
      (observe geometry
        (ykbProtocolRxInit buffer capacity allowOutOfOrder bitmap bitmapSize)
        calls).rx
    RejectedUntouched geometry rx packet ↔
      ¬ BeginsLate geometry rx packet := by
  intro rx
  have sound :=
    @sound_observe geometry _ (idle_rxInit buffer capacity allowOutOfOrder
      bitmap bitmapSize) calls
  exact rejectedUntouched_iff sound.describes packet

/-- Two packets of 53 bytes each. -/
def twoPacketTransfer : Transfer :=
  plainTransfer Memory.zero 106

/--
The second packet of a transfer whose first one was lost is refused by a fresh
receiver, which from then on waits for the rest of that transfer.
-/
theorem refused_packet_switches_receiver :
    ¬ ∀ (buffer : Memory) (capacity : UInt16) (allowOutOfOrder : Bool)
        (bitmap : Option Memory) (bitmapSize : Nat)
        (calls : List ReceiverCall) (packet : YkbProtocolPacket),
      RejectedUntouched usbGeometry
        (observe usbGeometry
          (ykbProtocolRxInit buffer capacity allowOutOfOrder bitmap
            bitmapSize)
          calls).rx
        packet := by
  intro always
  have within : 1 < twoPacketTransfer.count usbGeometry := by decide
  have late :
      BeginsLate usbGeometry
        (ykbProtocolRxInit Memory.zero 512 false none 0)
        (twoPacketTransfer.packet usbGeometry 1) :=
    ⟨rfl, rfl,
      ⟨Transfer.packet_headerValid within, Transfer.packet_type,
        Transfer.packet_crc⟩,
      by decide, by decide⟩
  exact
    (rejectedUntouched_iff (.idle (idle_rxInit _ _ _ _ _)) _).mp
      (always Memory.zero 512 false none 0 [] _) late

end YkbFirmware.Protocol.RejectedPacket
