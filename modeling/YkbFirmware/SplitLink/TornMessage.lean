import YkbFirmware.SplitLink.Delivery

/-!
# Messages and the transfers they come from

The transfer id of a slot is a constant, and transfers of messages of one
length have equal headers, so nothing in a packet tells a receiving slot which
of them it belongs to; neither does a disconnect reset the slot.  As long as
each packet a RECEIVING slot stores belongs to the transfer which opened the
slot, every message handed over is the payload of one sent transfer.  Without
that, the losses decide which packets are put together: the first packet of one
settings transfer and the second packet of the next one make a message, in
either mode of the receiver.
-/

namespace YkbFirmware.SplitLink.TornMessage

open YkbFirmware.Library.ByteMemory
open YkbFirmware.Library.Segmentation
open YkbFirmware.Library.TransitionSystem
open YkbFirmware.Protocol.Wire
open YkbFirmware.Protocol.Sender
open YkbFirmware.Protocol.TransferReceipt
open YkbFirmware.SplitLink.Slots
open YkbFirmware.SplitLink.TransmitSlot
open YkbFirmware.SplitLink.ReceiveSlot
open YkbFirmware.SplitLink.Link
open YkbFirmware.SplitLink.Delivery

/-- Every message handed over is the payload of one sent transfer. -/
theorem messages_are_sent_payloads
    {options : SplitlinkOptions} {receiver : SyncRole}
    {events : List LinkEvent} {final : LinkState}
    (ran : run (linkStep options receiver) .initial events = some final)
    (unmixed :
      StepsMeet (linkStep options receiver) (Unmixed options) .initial
        events) :
    ∀ message ∈ final.messages,
      ∃ transfer,
        SentOn final.sent message.1 transfer ∧
          message.2 = transfer.payload :=
  (run_preserves_of_stepsMeet linkIntact_step
    (linkIntact_initial options receiver) unmixed ran).messages

/-! ## One transfer, delivered -/

/-- A settings message whose two packets are both taken by the transport. -/
def sendSettings (settings : Memory) : List LinkEvent :=
  .send .settings settings 0 ::
    List.replicate 2 (.transmit .settings .ok none)

/-- Two packets arrive and the handler runs. -/
def receiveSettings (first second : Nat) : List LinkEvent :=
  [.deliver first, .deliver second, .process .settings,
    .handOver .settings]

section TwoPackets

variable {outOfOrderTrack : Bool} {state : LinkState}

theorem settings_count (stored : Memory) :
    (slotTransfer .settings stored 80).count
      (twoPacketOptions outOfOrderTrack).geometry = 2 := by
  change segmentCount (72 - headerSize) (80 : UInt16).toNat = 2
  decide

theorem settings_fits (stored : Memory) :
    Fits (twoPacketOptions outOfOrderTrack) .settings
      (slotTransfer .settings stored 80) := by
  refine ⟨UInt16.le_refl 80, fun _ => ?_⟩
  rw [ykbProtocolBitmapSizeBytes, Transfer.packetCount_toNat, settings_count]
  change (2 + 7) / 8 ≤ 32
  decide

/-- The two packets of a settings message reach the link. -/
theorem run_sendSettings
    (settings : Memory)
    (connected : state.connected = true)
    (empty : (state.tx .settings).slot.state = .empty)
    (quiet : (state.tx .settings).pending.ready = false) :
    ∃ side stored,
      side.slot.state = .empty ∧ side.pending.ready = false ∧
        (slotTransfer .settings stored 80).payload =
          settings.readBlock 0 80 ∧
        run (linkStep (twoPacketOptions outOfOrderTrack) .slave) state
            (sendSettings settings) =
          some
            { state with
              tx := Function.update state.tx .settings side
              sent :=
                state.sent ++
                  (List.range 2).map
                    (sentFrameAt (twoPacketOptions outOfOrderTrack) .settings
                      (slotTransfer .settings stored 80)) } := by
  rcases @run_transfer (twoPacketOptions outOfOrderTrack) .slave .settings
      state rfl settings 0 80 quiet
      (by rw [connected]; exact sendOn_settings empty) with
    ⟨side, transfer, sideEmpty, sideQuiet, payload, ⟨stored, rfl⟩, ran⟩
  rw [settings_count] at ran
  exact ⟨side, stored, sideEmpty, sideQuiet, payload, ran⟩

/-- A frame of a settings message on the link. -/
theorem readsLike_settings
    {sent : List SentFrame} {stored whole : Memory} {position index : Nat}
    (within : index < 2)
    (found :
      sent[position]? =
        some
          (sentFrameAt (twoPacketOptions outOfOrderTrack) .settings
            (slotTransfer .settings stored 80) index))
    (agree :
      (slotTransfer .settings stored 80).packet
          (twoPacketOptions outOfOrderTrack).geometry index =
        (slotTransfer .settings whole 80).packet
          (twoPacketOptions outOfOrderTrack).geometry index) :
    ReadsLike (twoPacketOptions outOfOrderTrack) sent .settings
      (slotTransfer .settings whole 80) position index :=
  ⟨_, found, rfl,
    ⟨rfl, rfl, index, (settings_count stored).symm ▸ within, rfl⟩,
    packetAt_frameAt.trans agree⟩

/-- Two packets that read like one message are handed over as it. -/
theorem run_receiveSettings
    {first second : Nat} {whole : Memory}
    (readsFirst :
      ReadsLike (twoPacketOptions outOfOrderTrack) state.sent .settings
        (slotTransfer .settings whole 80) first 0)
    (readsSecond :
      ReadsLike (twoPacketOptions outOfOrderTrack) state.sent .settings
        (slotTransfer .settings whole 80) second 1)
    (empty : (state.rx .settings).state = .empty) :
    ∃ final,
      run (linkStep (twoPacketOptions outOfOrderTrack) .slave) state
          (receiveSettings first second) = some final ∧
        final.sent = state.sent ∧
          final.messages =
            state.messages ++ [(.settings, whole.readBlock 0 80)] := by
  have reads :
      ∀ index <
          (slotTransfer .settings whole 80).count
            (twoPacketOptions outOfOrderTrack).geometry,
        ReadsLike (twoPacketOptions outOfOrderTrack) state.sent .settings
          (slotTransfer .settings whole 80)
          (if index = 0 then first else second) index := by
    intro index within
    rw [settings_count] at within
    rcases Nat.lt_succ_iff_lt_or_eq.mp within with before | rfl
    · rw [Nat.lt_one_iff.mp before]
      exact readsFirst
    · exact readsSecond
  rcases @run_receive (twoPacketOptions outOfOrderTrack) .slave .settings
      (slotTransfer .settings whole 80) state rfl _ reads empty
      (settings_fits whole) rfl with
    ⟨final, ran, facts⟩
  rw [settings_count] at ran
  exact ⟨final, ran, facts⟩

end TwoPackets

/-! ## One transfer on the link -/

/-- All packets on the link belong to one transfer. -/
structure OneTransfer
    (options : SplitlinkOptions) (transfer : Transfer) (state : LinkState) :
    Prop where
  sent :
    ∀ frame ∈ state.sent,
      frame.transfer = transfer ∧
        ∃ index < transfer.count options.geometry,
          frame.bytes = frameAt options.geometry transfer index
  opened :
    ∀ name other, state.opened name = some other → other = transfer

section OneTransfer

variable
    {options : SplitlinkOptions} {receiver : SyncRole}
    {transfer : Transfer} {state : LinkState}

/-- There is then nothing a slot could mix. -/
theorem OneTransfer.unmixed
    (one : OneTransfer options transfer state) (event : LinkEvent) :
    Unmixed options state event := by
  cases event with
  | deliver position =>
      intro frame found opened isOpened
      dsimp only
      intro _
      rcases (one.sent frame (List.mem_of_getElem? found)).2 with
        ⟨index, within, bytes⟩
      rw [one.opened _ _ isOpened, bytes, packetAt_frameAt,
        packet_index_toNat within]
  | send | transmit | process | handOver | connect | disconnect =>
      exact trivial

/-- Receiving keeps it so. -/
theorem OneTransfer.deliver
    (one : OneTransfer options transfer state)
    {position : Nat} {next : LinkState}
    (stepped :
      linkStep options receiver state (.deliver position) = some next) :
    OneTransfer options transfer next := by
  rcases Option.map_eq_some_iff.mp stepped with ⟨frame, found, rfl⟩
  refine ⟨one.sent, fun name other isOpened => ?_⟩
  rw [LinkState.deliver] at isOpened
  dsimp only at isOpened
  split_ifs at isOpened
  · by_cases same : name = frame.name
    · rw [same, Function.update_self] at isOpened
      cases isOpened
      exact (one.sent frame (List.mem_of_getElem? found)).1
    · rw [Function.update_of_ne same] at isOpened
      exact one.opened name other isOpened
  · exact one.opened name other isOpened

/-- A message received from such a link mixes nothing. -/
theorem OneTransfer.stepsMeet
    (one : OneTransfer options transfer state) (first second : Nat) :
    StepsMeet (linkStep options receiver) (Unmixed options) state
      (receiveSettings first second) := by
  have preserved :
      ∀ before, ∀ event ∈ receiveSettings first second, ∀ next,
        OneTransfer options transfer before →
          linkStep options receiver before event = some next →
            OneTransfer options transfer next := by
    intro before event member next holds stepped
    cases event with
    | deliver position => exact holds.deliver stepped
    | process name =>
        rw [linkStep] at stepped
        split_ifs at stepped
        cases stepped
        exact ⟨holds.sent, holds.opened⟩
    | handOver name =>
        rw [linkStep] at stepped
        split_ifs at stepped
        cases stepped
        exact ⟨holds.sent, holds.opened⟩
    | send | transmit | connect | disconnect =>
        simp [receiveSettings] at member
  exact
    stepsMeet_of_invariant (fun _ event _ holds => holds.unmixed event)
      preserved one

end OneTransfer

/-- Nothing is mixed while nothing arrives. -/
theorem stepsMeet_connect_send
    {options : SplitlinkOptions} {receiver : SyncRole} {state : LinkState}
    (settings : Memory) :
    StepsMeet (linkStep options receiver) (Unmixed options) state
      (.connect :: sendSettings settings) :=
  ⟨trivial, fun _ _ => ⟨trivial, fun _ _ => ⟨trivial, fun _ _ =>
    ⟨trivial, fun _ _ => trivial⟩⟩⟩⟩

/-- The state after connecting and sending one settings message. -/
theorem run_connect_send
    (outOfOrderTrack : Bool) (settings : Memory) :
    ∃ side stored,
      side.slot.state = .empty ∧ side.pending.ready = false ∧
        (slotTransfer .settings stored 80).payload =
          settings.readBlock 0 80 ∧
        run (linkStep (twoPacketOptions outOfOrderTrack) .slave) .initial
            (.connect :: sendSettings settings) =
          some
            { LinkState.initial with
              connected := true
              tx := Function.update LinkState.initial.tx .settings side
              sent :=
                (List.range 2).map
                  (sentFrameAt (twoPacketOptions outOfOrderTrack) .settings
                    (slotTransfer .settings stored 80)) } :=
  @run_sendSettings outOfOrderTrack
    { LinkState.initial with connected := true } settings rfl rfl rfl

/-- Settings sent once and received once. -/
theorem settings_message_is_payload :
    ∃ final,
      run (linkStep (twoPacketOptions true) .slave) .initial
          ((.connect :: sendSettings Memory.zero) ++ receiveSettings 0 1) =
        some final ∧
        final.messages = [(.settings, Memory.zero.readBlock 0 80)] ∧
          ∀ message ∈ final.messages,
            ∃ transfer,
              SentOn final.sent message.1 transfer ∧
                message.2 = transfer.payload := by
  rcases run_connect_send true Memory.zero with
    ⟨side, stored, _, _, payload, sent⟩
  let transfer := slotTransfer .settings stored 80
  let middle : LinkState :=
    { LinkState.initial with
      connected := true
      tx := Function.update LinkState.initial.tx .settings side
      sent :=
        (List.range 2).map
          (sentFrameAt (twoPacketOptions true) .settings transfer) }
  rcases @run_receiveSettings true middle 0 1 stored
      (readsLike_settings (by decide) rfl rfl)
      (readsLike_settings (by decide) rfl rfl) rfl with
    ⟨final, received, _, messages⟩
  have one : OneTransfer (twoPacketOptions true) transfer middle := by
    refine ⟨fun frame member => ?_, fun _ _ opened => by cases opened⟩
    rcases List.mem_map.mp member with ⟨index, within, rfl⟩
    exact
      ⟨rfl, index,
        (settings_count stored).symm ▸ List.mem_range.mp within, rfl⟩
  have ran :
      run (linkStep (twoPacketOptions true) .slave) .initial
          ((.connect :: sendSettings Memory.zero) ++ receiveSettings 0 1) =
        some final := by
    rw [run_append, sent, Option.bind_some]
    exact received
  refine ⟨final, ran, ?_, ?_⟩
  · rw [messages]
    exact congrArg (fun bytes => [(SlotName.settings, bytes)]) payload
  · apply messages_are_sent_payloads ran
    refine stepsMeet_append (stepsMeet_connect_send Memory.zero) ?_
    intro other reached
    rw [sent] at reached
    cases reached
    exact one.stepsMeet 0 1

/-! ## Two transfers on the link -/

/-- The first packet of one message and the second one of another. -/
def splice (first second : Memory) : Memory :=
  fun address => if address < 61 then first address else second address

/-- A message of ones. -/
def ones : Memory :=
  fun _ => 1

/--
Two settings messages are sent; the second packet of the first and the first
packet of the second one are lost.
-/
def lossyEvents : List LinkEvent :=
  (.connect :: sendSettings Memory.zero) ++
    (sendSettings ones ++ receiveSettings 0 3)

/-- The run hands over a message that is no sent payload. -/
def HandsTornMessage (outOfOrderTrack : Bool) : Prop :=
  ∃ final,
    run (linkStep (twoPacketOptions outOfOrderTrack) .slave) .initial
        lossyEvents = some final ∧
      ∃ message ∈ final.messages,
        ∀ frame ∈ final.sent, message.2 ≠ frame.transfer.payload

section Splice

variable {outOfOrderTrack : Bool}

theorem splice_packet_first (first second : Memory) :
    (slotTransfer .settings first 80).packet
        (twoPacketOptions outOfOrderTrack).geometry 0 =
      (slotTransfer .settings (splice first second) 80).packet
        (twoPacketOptions outOfOrderTrack).geometry 0 := by
  apply slotTransfer_packet_congr
  intro position within
  have short : position < 61 :=
    Nat.lt_of_lt_of_le within (segmentLength_le_size _ _ _)
  rw [Nat.zero_mul, Nat.zero_add]
  exact (if_pos short).symm

theorem splice_packet_second (first second : Memory) :
    (slotTransfer .settings second 80).packet
        (twoPacketOptions outOfOrderTrack).geometry 1 =
      (slotTransfer .settings (splice first second) 80).packet
        (twoPacketOptions outOfOrderTrack).geometry 1 := by
  apply slotTransfer_packet_congr
  intro position _
  have size : (twoPacketOptions outOfOrderTrack).geometry.maxPayloadSize = 61 :=
    rfl
  rw [size]
  exact (if_neg (by omega)).symm

end Splice

section Different

variable
    {first second : Memory}
    (firstPayload : first.readBlock 0 80 = Memory.zero.readBlock 0 80)
    (secondPayload : second.readBlock 0 80 = ones.readBlock 0 80)

include firstPayload secondPayload

/-- The last byte of the spliced message is not the first message's. -/
theorem splice_ne_first :
    (splice first second).readBlock 0 80 ≠ first.readBlock 0 80 := by
  intro equal
  have spliced := Memory.readBlock_eq_iff.mp equal 79 (by decide)
  have zero := Memory.readBlock_eq_iff.mp firstPayload 79 (by decide)
  have one := Memory.readBlock_eq_iff.mp secondPayload 79 (by decide)
  have differ : ones (0 + 79) = Memory.zero (0 + 79) :=
    one.symm.trans (spliced.trans zero)
  exact absurd differ (by decide)

/-- Its first byte is not the second message's. -/
theorem splice_ne_second :
    (splice first second).readBlock 0 80 ≠ second.readBlock 0 80 := by
  intro equal
  have spliced := Memory.readBlock_eq_iff.mp equal 0 (by decide)
  have zero := Memory.readBlock_eq_iff.mp firstPayload 0 (by decide)
  have one := Memory.readBlock_eq_iff.mp secondPayload 0 (by decide)
  have differ : Memory.zero (0 + 0) = ones (0 + 0) :=
    zero.symm.trans (spliced.trans one)
  exact absurd differ (by decide)

end Different

theorem handsTornMessage (outOfOrderTrack : Bool) :
    HandsTornMessage outOfOrderTrack := by
  rcases run_connect_send outOfOrderTrack Memory.zero with
    ⟨side, first, empty, quiet, firstPayload, firstSent⟩
  let between : LinkState :=
    { LinkState.initial with
      connected := true
      tx := Function.update LinkState.initial.tx .settings side
      sent :=
        (List.range 2).map
          (sentFrameAt (twoPacketOptions outOfOrderTrack) .settings
            (slotTransfer .settings first 80)) }
  have slot : between.tx .settings = side :=
    Function.update_self SlotName.settings side LinkState.initial.tx
  rcases @run_sendSettings outOfOrderTrack between ones rfl
      (by rw [slot]; exact empty) (by rw [slot]; exact quiet) with
    ⟨other, second, _, _, secondPayload, secondSent⟩
  let sent : LinkState :=
    { between with
      tx := Function.update between.tx .settings other
      sent :=
        between.sent ++
          (List.range 2).map
            (sentFrameAt (twoPacketOptions outOfOrderTrack) .settings
              (slotTransfer .settings second 80)) }
  rcases @run_receiveSettings outOfOrderTrack sent 0 3 (splice first second)
      (readsLike_settings (by decide) rfl
        (splice_packet_first first second))
      (readsLike_settings (by decide) rfl
        (splice_packet_second first second))
      rfl with
    ⟨final, received, frames, messages⟩
  refine
    ⟨final, ?_, (.settings, (splice first second).readBlock 0 80), ?_, ?_⟩
  · rw [lossyEvents, run_append, firstSent, Option.bind_some, run_append,
      secondSent, Option.bind_some]
    exact received
  · rw [messages]
    exact List.mem_append_right _ List.mem_cons_self
  · intro frame member equal
    rw [frames] at member
    rcases List.mem_append.mp member with old | new
    · rcases List.mem_map.mp old with ⟨index, _, rfl⟩
      exact splice_ne_first firstPayload secondPayload equal
    · rcases List.mem_map.mp new with ⟨index, _, rfl⟩
      exact splice_ne_second firstPayload secondPayload equal

/-- In order and out of order alike. -/
theorem settings_message_torn :
    HandsTornMessage false ∧ HandsTornMessage true :=
  ⟨handsTornMessage false, handsTornMessage true⟩

end YkbFirmware.SplitLink.TornMessage
