import YkbFirmware.Library.DrainedQueue

/-!
# Packets received over Bluetooth

Both sides of the Bluetooth link put the packets they receive into a message
queue and submit a work item, whose handler hands them over to the core.  A
packet is refused if it is empty, too long or finds the queue full; the others
reach the core whole and in order.
-/

namespace YkbFirmware.SplitLink.BtReceive

open YkbFirmware.Library.TransitionSystem
open YkbFirmware.Library.Conservation
open YkbFirmware.Library.DrainedQueue

/-- `CONFIG_SPLITLINK_BT_*`, with their ranges. -/
structure BtOptions where
  packetLength : Nat
  rxQueueDepth : Nat
  lengthFits : packetLength ≤ 244
  someDepth : 0 < rxQueueDepth

/-- `struct splitlink_bt_rx_packet`. -/
structure RxPacket where
  len : UInt8
  data : List UInt8
deriving DecidableEq, Repr

/-! ## Answers -/

def einval : Int := 22

def emsgsize : Int := 122

def enomsg : Int := 35

def enomem : Int := 12

def eagain : Int := 11

def enotconn : Int := 128

def ealready : Int := 120

/-- `err && err != -EALREADY`. -/
def failed (err : Int) : Bool :=
  err ≠ 0 && err ≠ -ealready

/-! ## The queue -/

/-- What `splitlink_notify_receive` is called with. -/
def RxPacket.message (packet : RxPacket) : List UInt8 :=
  packet.data.take packet.len.toNat

/-- `splitlink_bt_queue_rx` up to its call of `k_work_submit`. -/
def splitlinkBtQueueRx
    (options : BtOptions) (st : DrainState RxPacket) (buf : List UInt8)
    (len : UInt16) : Int × DrainState RxPacket :=
  if len = 0 ∨ len.toNat > options.packetLength then
    (-emsgsize, st)
  else if st.held.length < options.rxQueueDepth then
    (0,
      { st with
        held := st.held ++ [⟨len.toUInt8, buf.take len.toNat⟩]
        submits := true })
  else
    (-enomsg, st)

inductive RxEvent where
  | queueRx (buf : List UInt8) (len : UInt16)
  | submit
  | workBegins
  | getPacket
  | workEnds

/-- `splitlink_bt_rx_work_handler` gets packets until there are none. -/
def rxStep (options : BtOptions) (st : DrainState RxPacket) :
    RxEvent → Option (DrainState RxPacket)
  | .queueRx buf len =>
      if st.submits then
        none
      else
        some (splitlinkBtQueueRx options st buf len).2
  | .submit => drainStep options.rxQueueDepth st .submit
  | .workBegins => drainStep options.rxQueueDepth st .begin
  | .getPacket => drainStep options.rxQueueDepth st .get
  | .workEnds => drainStep options.rxQueueDepth st .finish

/-- The message of a packet that was queued. -/
def queuedMessages (options : BtOptions) (st : DrainState RxPacket) :
    RxEvent → List (List UInt8)
  | .queueRx buf len =>
      if (splitlinkBtQueueRx options st buf len).1 = 0 then
        [buf.take len.toNat]
      else
        []
  | _ => []

/-- The messages handed over to the core. -/
def notifiedMessages (st : DrainState RxPacket) :
    RxEvent → List (List UInt8)
  | .getPacket => st.held.head?.toList.map RxPacket.message
  | _ => []

section Steps

variable {options : BtOptions} {st next : DrainState RxPacket}

/-- A packet that is queued was put there in a step of the library. -/
theorem queueRx_cases (buf : List UInt8) (len : UInt16) :
    ((splitlinkBtQueueRx options st buf len).1 ≠ 0 ∧
        (splitlinkBtQueueRx options st buf len).2 = st) ∨
      (splitlinkBtQueueRx options st buf len).1 = 0 ∧
        (∃ packet,
          packet.message = buf.take len.toNat ∧
            (splitlinkBtQueueRx options st buf len).2 =
              { st with
                held := st.held ++ [packet]
                submits := true }) := by
  rw [splitlinkBtQueueRx]
  split_ifs with refused room
  · exact .inl ⟨by simp [emsgsize], rfl⟩
  · have fits := options.lengthFits
    have short : len.toUInt8.toNat = len.toNat := by
      rw [UInt16.toNat_toUInt8]
      exact Nat.mod_eq_of_lt (by omega)
    refine .inr ⟨rfl, ⟨len.toUInt8, buf.take len.toNat⟩, ?_, rfl⟩
    rw [RxPacket.message, short, List.take_take, Nat.min_self]
  · exact .inl ⟨by simp [enomsg], rfl⟩

theorem rxStep_announced
    {event : RxEvent} (announced : Announced st)
    (stepped : rxStep options st event = some next) : Announced next := by
  have onDrain (drain : DrainEvent RxPacket)
      (drained : drainStep options.rxQueueDepth st drain = some next) :
      Announced next :=
    announced_step announced drained
  cases event with
  | queueRx buf len =>
      rw [rxStep] at stepped
      split_ifs at stepped
      cases stepped
      rcases @queueRx_cases options st buf len with
        ⟨-, same⟩ | ⟨-, packet, -, put⟩
      · rw [same]
        exact announced
      · rw [put]
        exact fun _ => .inl rfl
  | submit => exact onDrain .submit stepped
  | workBegins => exact onDrain .begin stepped
  | getPacket => exact onDrain .get stepped
  | workEnds => exact onDrain .finish stepped

theorem rxStep_conserves (st : DrainState RxPacket) (event : RxEvent) :
    Conserves (rxStep options) (fun st => st.held.map RxPacket.message)
      (queuedMessages options) notifiedMessages st event := by
  intro next stepped
  have mapped (drain : DrainEvent RxPacket)
      (drained :
        drainStep options.rxQueueDepth st drain = some next) :=
    congrArg (List.map RxPacket.message)
      (conserves_step st drain next drained)
  cases event with
  | queueRx buf len =>
      rw [rxStep] at stepped
      split_ifs at stepped
      cases stepped
      rcases @queueRx_cases options st buf len with
        ⟨refused, same⟩ | ⟨accepted, packet, message, put⟩
      · simp [queuedMessages, notifiedMessages, refused, same]
      · simp [queuedMessages, notifiedMessages, accepted, put, message]
  | submit =>
      simpa [queuedMessages, notifiedMessages, taken, given] using
        mapped .submit stepped
  | workBegins =>
      simpa [queuedMessages, notifiedMessages, taken, given] using
        mapped .begin stepped
  | getPacket =>
      simpa [queuedMessages, notifiedMessages, taken, given] using
        mapped .get stepped
  | workEnds =>
      simpa [queuedMessages, notifiedMessages, taken, given] using
        mapped .finish stepped

end Steps

/--
The messages of the packets that were queued are handed over to the core in
their order, and all of them once neither the work item nor a submission of it
is under way.
-/
theorem packets_reach_core_in_order
    (options : BtOptions) (events : List RxEvent)
    (finish : DrainState RxPacket)
    (ran : run (rxStep options) .initial events = some finish) :
    collected (rxStep options) (queuedMessages options) .initial events =
        collected (rxStep options) notifiedMessages .initial events ++
          finish.held.map RxPacket.message ∧
      (Settled finish →
        collected (rxStep options) (queuedMessages options) .initial events =
          collected (rxStep options) notifiedMessages .initial events) := by
  have conserved :
      collected (rxStep options) (queuedMessages options) .initial events =
        collected (rxStep options) notifiedMessages .initial events ++
          finish.held.map RxPacket.message :=
    run_conserves (fun _ _ _ (always : True) _ _ => always)
      (fun st event _ _ => rxStep_conserves st event) trivial
      (stepsMeet_of_events (fun _ _ => trivial)) ran
  have announced : Announced finish :=
    run_preserves
      (fun _ _ _ announced stepped => rxStep_announced announced stepped)
      announced_initial ran
  refine ⟨conserved, fun settled => ?_⟩
  rw [conserved, held_eq_nil announced settled]
  simp

/-- The second packet arrives after the handler has found the queue empty. -/
def latePacket : List RxEvent :=
  [.queueRx [1, 2] 2, .submit, .workBegins, .getPacket, .getPacket,
    .queueRx [3] 1, .submit, .workEnds, .workBegins, .getPacket, .getPacket,
    .workEnds]

theorem latePacket_reaches_core :
    ∃ finish,
      run (rxStep ⟨72, 8, by decide, by decide⟩) .initial latePacket =
        some finish ∧
      collected (rxStep ⟨72, 8, by decide, by decide⟩)
          (queuedMessages ⟨72, 8, by decide, by decide⟩) .initial
          latePacket =
        collected (rxStep ⟨72, 8, by decide, by decide⟩) notifiedMessages
          .initial latePacket :=
  ⟨_, rfl,
    (packets_reach_core_in_order ⟨72, 8, by decide, by decide⟩ latePacket _
      rfl).2 ⟨rfl, rfl, rfl⟩⟩

end YkbFirmware.SplitLink.BtReceive
