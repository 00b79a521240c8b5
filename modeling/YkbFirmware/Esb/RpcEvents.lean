import YkbFirmware.Library.ByteMemory
import YkbFirmware.Library.Conflation
import YkbFirmware.Library.TransitionSystem
import YkbFirmware.Library.WorkQueue
import YkbFirmware.Esb.RpcMessages

/-!
# Radio events for the other core

The network core is called back by the radio in an interrupt, where it can
send nothing to the other core.  It keeps the packet received, in a buffer for
one packet, and submits a work item which sends the event later.

A packet that comes before the work item has run overwrites the one before.
The work item reads the buffer byte by byte, and a packet can also come in the
middle: then it sends a message that mixes the two.  But that packet has
submitted the work item again, so the last packet is always sent whole.

A message that is sent counts as delivered; an error of `nrf_rpc_cbor_evt`
would only be logged, and nothing be sent again.
-/

namespace YkbFirmware.Esb.RpcEvents

open YkbFirmware.Library.ByteMemory
open YkbFirmware.Library.Conflation
open YkbFirmware.Library.TransitionSystem
open YkbFirmware.Library.WorkQueue (ItemQueue)
open YkbFirmware.Esb.Radio (YkbEsbEvent)
open YkbFirmware.Esb.RpcMessages

/-! ## State -/

/-- `m_work_send_evt_tx_success` and the other two. -/
inductive EventWork where
  | txSuccess
  | txFail
  | rxReceived
deriving DecidableEq, Repr

/-- The type of event its work function sends. -/
def EventWork.evtType : EventWork → Nat
  | .txSuccess => 0
  | .txFail => 1
  | .rxReceived => 2

structure NetState where
  lastRxData : Memory
  lastRxLength : Nat
  work : ItemQueue EventWork
  /-- `rx_length`, and what has been encoded of `rx_buf`, in the call of
  `rpc_esb_event_send` for a packet. -/
  encoding : Option (Nat × List UInt8)
  /-- The messages `nrf_rpc_cbor_evt` has been called with. -/
  sent : List (List UInt8)

def NetState.initial : NetState where
  lastRxData := .zero
  lastRxLength := 0
  work := .empty
  encoding := none
  sent := []

inductive NetEvent where
  | esb (event : YkbEsbEvent)
  /-- The work queue starts its first item. -/
  | begin
  | readLength
  | encodeByte
  | send

section Step

variable (zcbor : Zcbor) (maxPayloadLength : Nat)

/-! ## Steps -/

/-- `on_esb_callback` -/
def onEsbCallback (st : NetState) : YkbEsbEvent → NetState
  | .txSuccess => { st with work := st.work.submit .txSuccess }
  | .txFail => { st with work := st.work.submit .txFail }
  | .rx buf dataLength =>
      let length := min dataLength.toNat maxPayloadLength
      { st with
        lastRxLength := length
        lastRxData := st.lastRxData.writeBlock 0 length (.ofList buf)
        work := st.work.submit .rxReceived }

/-- The end of a work function: the event is sent. -/
def sendEvent (st : NetState) (work : EventWork) (rxBuf : List UInt8) :
    NetState :=
  { st with
    work := { st.work with running := none }
    encoding := none
    sent :=
      st.sent ++
        match rpcEsbEventSend zcbor work.evtType rxBuf with
        | .ok message => [message]
        | .error _ => [] }

def netStep (st : NetState) : NetEvent → Option NetState
  | .esb event => some (onEsbCallback maxPayloadLength st event)
  | .begin => st.work.begin.map fun work => { st with work := work }
  | .readLength =>
      if st.work.running = some .rxReceived ∧ st.encoding = none then
        some { st with encoding := some (st.lastRxLength, []) }
      else
        none
  | .encodeByte =>
      match st.encoding with
      | none => none
      | some (length, encoded) =>
          if encoded.length < length then
            let byte := st.lastRxData encoded.length
            some { st with encoding := some (length, encoded ++ [byte]) }
          else
            none
  | .send =>
      match st.work.running, st.encoding with
      | some .txSuccess, _ => some (sendEvent zcbor st .txSuccess [])
      | some .txFail, _ => some (sendEvent zcbor st .txFail [])
      | some .rxReceived, some (length, encoded) =>
          if encoded.length = length then
            some (sendEvent zcbor st .rxReceived encoded)
          else
            none
      | _, _ => none

/-- The packet an event brings. -/
def packetOf : NetEvent → List (List UInt8)
  | .esb (.rx buf dataLength) =>
      [(Memory.ofList buf).readBlock 0 (min dataLength.toNat maxPayloadLength)]
  | _ => []

/-- The packets that the other core is told of by messages. -/
def packetsReported (messages : List (List UInt8)) : List (List UInt8) :=
  messages.filterMap fun message =>
    match rpcEsbEventHandler zcbor message with
    | some (2, packet) => some packet
    | _ => none

/-- A packet waits to be sent on, or is being sent on. -/
def rxPending (st : NetState) : Prop :=
  .rxReceived ∈ st.work.queued ∨ st.work.running = some .rxReceived

instance (st : NetState) : Decidable (rxPending st) :=
  inferInstanceAs (Decidable (_ ∨ _))

/-- No packet is received while the last one is being sent on. -/
def undisturbed (st : NetState) : NetEvent → Prop
  | .esb (.rx _ _) => st.work.running ≠ some .rxReceived
  | _ => True

instance (st : NetState) : ∀ event, Decidable (undisturbed st event)
  | .esb (.rx _ _) => inferInstanceAs (Decidable (_ ≠ _))
  | .esb .txSuccess | .esb .txFail | .begin | .readLength | .encodeByte
  | .send => isTrue trivial

end Step

/-- What a step does. -/
inductive NetMove (zcbor : Zcbor) (maxPayloadLength : Nat) (st : NetState) :
    NetEvent → NetState → Prop where
  | esb (event : YkbEsbEvent) :
      NetMove zcbor maxPayloadLength st (.esb event)
        (onEsbCallback maxPayloadLength st event)
  | begin {work : ItemQueue EventWork} (begins : st.work.begin = some work) :
      NetMove zcbor maxPayloadLength st .begin { st with work := work }
  | readLength (running : st.work.running = some .rxReceived) :
      NetMove zcbor maxPayloadLength st .readLength
        { st with encoding := some (st.lastRxLength, []) }
  | encodeByte
      {length : Nat} {encoded : List UInt8}
      (encodes : st.encoding = some (length, encoded)) :
      NetMove zcbor maxPayloadLength st .encodeByte
        { st with
          encoding :=
            some (length, encoded ++ [st.lastRxData encoded.length]) }
  | send
      {work : EventWork} {rxBuf : List UInt8}
      (running : st.work.running = some work)
      (encodes :
        work = .rxReceived → st.encoding = some (rxBuf.length, rxBuf))
      (bare : work ≠ .rxReceived → rxBuf = []) :
      NetMove zcbor maxPayloadLength st .send (sendEvent zcbor st work rxBuf)

theorem netMove_of_step
    {zcbor : Zcbor} {maxPayloadLength : Nat} {st next : NetState}
    {event : NetEvent}
    (stepped : netStep zcbor maxPayloadLength st event = some next) :
    NetMove zcbor maxPayloadLength st event next := by
  cases event with
  | esb radio =>
      cases stepped
      exact .esb radio
  | begin =>
      rw [netStep] at stepped
      rcases Option.map_eq_some_iff.mp stepped with ⟨work, begins, rfl⟩
      exact .begin begins
  | readLength =>
      rw [netStep] at stepped
      split_ifs at stepped with free
      cases stepped
      exact .readLength free.1
  | encodeByte =>
      rw [netStep] at stepped
      split at stepped
      · cases stepped
      · next length encoded encodes =>
          split_ifs at stepped
          cases stepped
          exact .encodeByte encodes
  | send =>
      rw [netStep] at stepped
      split at stepped
      · next running =>
          cases stepped
          exact .send running EventWork.noConfusion fun _ => rfl
      · next running =>
          cases stepped
          exact .send running EventWork.noConfusion fun _ => rfl
      · next length encoded running encodes =>
          split_ifs at stepped with whole
          cases stepped
          subst whole
          exact .send running (fun _ => encodes) fun other => absurd rfl other
      · cases stepped

/-! ## Messages -/

section Messages

variable (zcbor : Zcbor)

/-- What the message of a work item reports. -/
def reported : EventWork → List UInt8 → List (List UInt8)
  | .rxReceived, packet => [packet]
  | _, _ => []

theorem reported_of_ne
    {work : EventWork} {rxBuf : List UInt8} (other : work ≠ .rxReceived) :
    reported work rxBuf = [] := by
  cases work with
  | txSuccess => rfl
  | txFail => rfl
  | rxReceived => exact absurd rfl other

theorem understood_eventMessage
    (work : EventWork) {rxBuf : List UInt8} (fits : rxBuf.length < 2 ^ 32) :
    rpcEsbEventHandler zcbor (eventMessage zcbor work.evtType rxBuf) =
      some (work.evtType, rxBuf) := by
  have isType : work.evtType < 2 ^ 32 := by
    cases work <;> exact Nat.le_of_ble_eq_true rfl
  exact rpcEsbEventHandler_eventMessage zcbor isType fits

theorem sent_sendEvent
    (st : NetState) (work : EventWork) (rxBuf : List UInt8) :
    (sendEvent zcbor st work rxBuf).sent =
      st.sent ++ [eventMessage zcbor work.evtType rxBuf] := by
  rw [sendEvent, rpcEsbEventSend_ok]

theorem packetsReported_sendEvent
    {st : NetState} {work : EventWork} {rxBuf : List UInt8}
    (fits : rxBuf.length < 2 ^ 32) :
    packetsReported zcbor (sendEvent zcbor st work rxBuf).sent =
      packetsReported zcbor st.sent ++ reported work rxBuf := by
  have understood := understood_eventMessage zcbor work fits
  rw [sent_sendEvent, packetsReported, List.filterMap_append]
  cases work <;>
    simp only [List.filterMap_cons, List.filterMap_nil, understood] <;> rfl

end Messages

/-! ## The last packet -/

/--
The buffer holds the last packet.  Unless the work item waits to run again,
what is being sent is that packet, or it has been sent.
-/
structure Kept (zcbor : Zcbor) (st : NetState) (packets : List (List UInt8)) :
    Prop where
  small : st.lastRxLength < 2 ^ 32
  stored :
    ∀ packet, packets.getLast? = some packet →
      st.lastRxData.readBlock 0 st.lastRxLength = packet
  received : rxPending st → packets ≠ []
  encoding :
    ∀ length encoded, st.encoding = some (length, encoded) →
      st.work.running = some .rxReceived ∧ length < 2 ^ 32 ∧
        (.rxReceived ∉ st.work.queued →
          length = st.lastRxLength ∧
            encoded = st.lastRxData.readBlock 0 encoded.length)
  settled :
    ¬ rxPending st →
      (packetsReported zcbor st.sent).getLast? = packets.getLast?
  understood :
    ∀ message ∈ st.sent, (rpcEsbEventHandler zcbor message).isSome

section Kept

variable
    {zcbor : Zcbor} {maxPayloadLength : Nat} {st next : NetState}
    {packets : List (List UInt8)}

/-- A work item for something else is submitted. -/
theorem Kept.submit
    (kept : Kept zcbor st packets) {item : EventWork}
    (other : item ≠ .rxReceived) :
    Kept zcbor { st with work := st.work.submit item } packets := by
  have waits :
      .rxReceived ∈ (st.work.submit item).queued ↔
        .rxReceived ∈ st.work.queued := by
    rw [ItemQueue.mem_queued_submit]
    exact or_iff_left other.symm
  have pending :
      rxPending { st with work := st.work.submit item } ↔ rxPending st := by
    rw [rxPending, rxPending, ItemQueue.submit_running, waits]
  exact
    { small := kept.small
      stored := kept.stored
      received := fun isPending => kept.received (pending.mp isPending)
      encoding := fun length encoded encodes => by
        rw [ItemQueue.submit_running, waits]
        exact kept.encoding length encoded encodes
      settled := fun idle => kept.settled fun isPending =>
        idle (pending.mpr isPending)
      understood := kept.understood }

theorem Kept.onEsbCallback
    (kept : Kept zcbor st packets) (event : YkbEsbEvent) :
    Kept zcbor (onEsbCallback maxPayloadLength st event)
      (packets ++ packetOf maxPayloadLength (.esb event)) := by
  cases event with
  | txSuccess =>
      show Kept zcbor _ (packets ++ [])
      rw [List.append_nil]
      exact kept.submit EventWork.noConfusion
  | txFail =>
      show Kept zcbor _ (packets ++ [])
      rw [List.append_nil]
      exact kept.submit EventWork.noConfusion
  | rx buf dataLength =>
      have waits : .rxReceived ∈ (st.work.submit .rxReceived).queued :=
        ItemQueue.mem_queued_submit.mpr (.inr rfl)
      have small : min dataLength.toNat maxPayloadLength < 2 ^ 32 := by
        have := dataLength.toNat_lt
        omega
      exact
        { small := small
          stored := fun packet last => by
            rw [packetOf, List.getLast?_concat] at last
            cases last
            exact Memory.readBlock_writeBlock
          received := fun _ =>
            List.append_ne_nil_of_right_ne_nil _ (List.cons_ne_nil _ _)
          encoding := fun length encoded encodes => by
            rcases kept.encoding length encoded encodes with
              ⟨running, fits, -⟩
            refine ⟨?_, fits, fun waitsNot => absurd waits waitsNot⟩
            exact (ItemQueue.submit_running st.work .rxReceived).trans running
          settled := fun idle => absurd (.inl waits) idle
          understood := kept.understood }

theorem Kept.begin
    (kept : Kept zcbor st packets) {work : ItemQueue EventWork}
    (begins : st.work.begin = some work) :
    Kept zcbor { st with work := work } packets := by
  rcases ItemQueue.running_of_begin begins with ⟨idle, item, rest, queue, rfl⟩
  have pending :
      rxPending { st with work := ⟨rest, some item⟩ } ↔ rxPending st := by
    rw [rxPending, rxPending, idle, queue, List.mem_cons]
    simp [or_comm, eq_comm]
  exact
    { small := kept.small
      stored := kept.stored
      received := fun isPending => kept.received (pending.mp isPending)
      encoding := fun length encoded encodes => by
        have running := (kept.encoding length encoded encodes).1
        rw [idle] at running
        cases running
      settled := fun notPending => kept.settled fun isPending =>
        notPending (pending.mpr isPending)
      understood := kept.understood }

/-- More has been read of the packet that is being sent. -/
theorem Kept.encode
    (kept : Kept zcbor st packets) {length : Nat} {encoded : List UInt8}
    (running : st.work.running = some .rxReceived) (fits : length < 2 ^ 32)
    (agrees :
      .rxReceived ∉ st.work.queued →
        length = st.lastRxLength ∧
          encoded = st.lastRxData.readBlock 0 encoded.length) :
    Kept zcbor { st with encoding := some (length, encoded) } packets where
  small := kept.small
  stored := kept.stored
  received := kept.received
  encoding length' encoded' encodes := by
    cases encodes
    exact ⟨running, fits, agrees⟩
  settled := kept.settled
  understood := kept.understood

/-- What a work function sends is short, and the packet unless it waits. -/
theorem Kept.encoded
    (kept : Kept zcbor st packets) {work : EventWork} {rxBuf : List UInt8}
    (encodes :
      work = .rxReceived → st.encoding = some (rxBuf.length, rxBuf))
    (bare : work ≠ .rxReceived → rxBuf = []) :
    rxBuf.length < 2 ^ 32 ∧
      (work = .rxReceived → .rxReceived ∉ st.work.queued →
        rxBuf = st.lastRxData.readBlock 0 st.lastRxLength) := by
  by_cases forPacket : work = .rxReceived
  · rcases kept.encoding _ _ (encodes forPacket) with ⟨-, fits, agrees⟩
    refine ⟨fits, fun _ waitsNot => ?_⟩
    rcases agrees waitsNot with ⟨sameLength, sameBytes⟩
    rw [← sameLength]
    exact sameBytes
  · rw [bare forPacket]
    exact ⟨Nat.le_of_ble_eq_true rfl, fun same => absurd same forPacket⟩

theorem Kept.sendEvent
    (kept : Kept zcbor st packets) {work : EventWork} {rxBuf : List UInt8}
    (running : st.work.running = some work) (fits : rxBuf.length < 2 ^ 32)
    (whole :
      work = .rxReceived → .rxReceived ∉ st.work.queued →
        rxBuf = st.lastRxData.readBlock 0 st.lastRxLength) :
    Kept zcbor (sendEvent zcbor st work rxBuf) packets where
  small := kept.small
  stored := kept.stored
  received pending := by
    rcases pending with waits | runs
    · exact kept.received (.inl waits)
    · cases runs
  encoding length encoded encodes := by cases encodes
  settled idle := by
    have waitsNot : .rxReceived ∉ st.work.queued := fun waits =>
      idle (.inl waits)
    rw [packetsReported_sendEvent zcbor fits]
    by_cases forPacket : work = .rxReceived
    · subst forPacket
      have some : packets ≠ [] := kept.received (.inr running)
      have last := List.getLast?_eq_some_getLast some
      rw [reported, List.getLast?_concat, whole rfl waitsNot,
        kept.stored _ last, last]
    · rw [reported_of_ne forPacket, List.append_nil]
      refine kept.settled fun pending => ?_
      rcases pending with waits | runs
      · exact waitsNot waits
      · rw [running] at runs
        cases runs
        exact forPacket rfl
  understood message sent := by
    rw [sent_sendEvent, List.mem_append, List.mem_singleton] at sent
    rcases sent with earlier | rfl
    · exact kept.understood message earlier
    · rw [understood_eventMessage zcbor work fits]
      rfl

theorem kept_step
    (st : NetState) (packets : List (List UInt8)) (event : NetEvent)
    (next : NetState) (kept : Kept zcbor st packets)
    (stepped : netStep zcbor maxPayloadLength st event = some next) :
    Kept zcbor next (packets ++ packetOf maxPayloadLength event) := by
  have moved := netMove_of_step stepped
  cases moved with
  | esb radio => exact kept.onEsbCallback radio
  | begin begins =>
      show Kept zcbor _ (packets ++ [])
      rw [List.append_nil]
      exact kept.begin begins
  | readLength running =>
      show Kept zcbor _ (packets ++ [])
      rw [List.append_nil]
      exact kept.encode running kept.small fun _ => ⟨rfl, rfl⟩
  | @encodeByte length encoded encodes =>
      show Kept zcbor _ (packets ++ [])
      rw [List.append_nil]
      rcases kept.encoding length encoded encodes with
        ⟨running, fits, agrees⟩
      refine kept.encode running fits fun waitsNot => ?_
      rcases agrees waitsNot with ⟨sameLength, sameBytes⟩
      refine ⟨sameLength, ?_⟩
      rw [List.length_append, Memory.readBlock_add, ← sameBytes,
        Nat.zero_add]
      rfl
  | @send work rxBuf running encodes bare =>
      show Kept zcbor _ (packets ++ [])
      rw [List.append_nil]
      rcases kept.encoded encodes bare with ⟨fits, whole⟩
      exact kept.sendEvent running fits whole

end Kept

/-! ## Undisturbed packets -/

/-- The buffer is a place for one packet, which is read once. -/
structure Passing (zcbor : Zcbor) (st : NetState)
    (packets : List (List UInt8)) : Prop where
  kept : Kept zcbor st packets
  nodup : st.work.queued.Nodup
  once :
    st.work.running = some .rxReceived → .rxReceived ∉ st.work.queued
  conflates :
    Conflates packets (packetsReported zcbor st.sent)
      (decide (rxPending st))

section Passing

variable
    {zcbor : Zcbor} {maxPayloadLength : Nat} {st next : NetState}
    {packets : List (List UInt8)}

/-- A step that neither brings a packet nor ends with one being sent. -/
theorem Passing.same
    (passing : Passing zcbor st packets)
    (kept : Kept zcbor next packets)
    (nodup : next.work.queued.Nodup)
    (once :
      next.work.running = some .rxReceived →
        .rxReceived ∉ next.work.queued)
    (pending : rxPending next ↔ rxPending st)
    (reports :
      packetsReported zcbor next.sent = packetsReported zcbor st.sent) :
    Passing zcbor next packets where
  kept := kept
  nodup := nodup
  once := once
  conflates := by
    rw [reports, decide_eq_decide.mpr pending]
    exact passing.conflates

theorem Passing.submit
    (passing : Passing zcbor st packets) {item : EventWork}
    (other : item ≠ .rxReceived) :
    Passing zcbor { st with work := st.work.submit item } packets := by
  have waits :
      .rxReceived ∈ (st.work.submit item).queued ↔
        .rxReceived ∈ st.work.queued := by
    rw [ItemQueue.mem_queued_submit]
    exact or_iff_left other.symm
  refine
    passing.same (passing.kept.submit other)
      (ItemQueue.nodup_submit passing.nodup item) ?_ ?_ rfl
  · rw [ItemQueue.submit_running, waits]
    exact passing.once
  · rw [rxPending, rxPending, ItemQueue.submit_running, waits]

theorem Passing.onEsbCallback
    (passing : Passing zcbor st packets) {event : YkbEsbEvent}
    (calm : undisturbed st (.esb event)) :
    Passing zcbor (onEsbCallback maxPayloadLength st event)
      (packets ++ packetOf maxPayloadLength (.esb event)) := by
  cases event with
  | txSuccess =>
      show Passing zcbor _ (packets ++ [])
      rw [List.append_nil]
      exact passing.submit EventWork.noConfusion
  | txFail =>
      show Passing zcbor _ (packets ++ [])
      rw [List.append_nil]
      exact passing.submit EventWork.noConfusion
  | rx buf dataLength =>
      have waits : .rxReceived ∈ (st.work.submit .rxReceived).queued :=
        ItemQueue.mem_queued_submit.mpr (.inr rfl)
      refine
        ⟨passing.kept.onEsbCallback (.rx buf dataLength),
          ItemQueue.nodup_submit passing.nodup .rxReceived,
          fun runs => ?_, ?_⟩
      · refine absurd ?_ calm
        rw [← ItemQueue.submit_running st.work .rxReceived]
        exact runs
      · have pending :
            rxPending
              (RpcEvents.onEsbCallback maxPayloadLength st
                (.rx buf dataLength)) :=
          .inl waits
        rw [decide_eq_true pending]
        exact passing.conflates.write

theorem Passing.begin
    (passing : Passing zcbor st packets) {work : ItemQueue EventWork}
    (begins : st.work.begin = some work) :
    Passing zcbor { st with work := work } packets := by
  have kept := passing.kept.begin begins
  have nodup := passing.nodup
  rcases ItemQueue.running_of_begin begins with ⟨idle, item, rest, queue, rfl⟩
  rw [queue, List.nodup_cons] at nodup
  refine passing.same kept nodup.2 (fun runs => ?_) ?_ rfl
  · cases runs
    exact nodup.1
  · rw [rxPending, rxPending, idle, queue, List.mem_cons]
    simp [or_comm, eq_comm]

theorem Passing.sendEvent
    (passing : Passing zcbor st packets) {work : EventWork}
    {rxBuf : List UInt8} (running : st.work.running = some work)
    (fits : rxBuf.length < 2 ^ 32)
    (whole :
      work = .rxReceived → .rxReceived ∉ st.work.queued →
        rxBuf = st.lastRxData.readBlock 0 st.lastRxLength) :
    Passing zcbor (sendEvent zcbor st work rxBuf) packets := by
  have kept := passing.kept.sendEvent running fits whole
  have reports :
      packetsReported zcbor (RpcEvents.sendEvent zcbor st work rxBuf).sent =
        packetsReported zcbor st.sent ++ reported work rxBuf :=
    packetsReported_sendEvent zcbor fits
  by_cases forPacket : work = .rxReceived
  · subst forPacket
    have waitsNot := passing.once running
    have last :=
      List.getLast?_eq_some_getLast (passing.kept.received (.inr running))
    have before := passing.conflates
    have pending : rxPending st := .inr running
    rw [decide_eq_true pending] at before
    refine ⟨kept, passing.nodup, fun runs => (by cases runs), ?_⟩
    have idle : ¬ rxPending (RpcEvents.sendEvent zcbor st .rxReceived rxBuf) :=
      fun pending => pending.elim waitsNot fun runs => by cases runs
    rw [decide_eq_false idle, reports, reported, whole rfl waitsNot,
      passing.kept.stored _ last]
    exact before.take last
  · refine
      passing.same kept passing.nodup (fun runs => (by cases runs)) ?_ ?_
    · rw [rxPending, rxPending, running]
      exact
        or_congr_right
          ⟨fun runs => (by cases runs), fun same => by
            cases same
            exact absurd rfl forPacket⟩
    · rw [reports, reported_of_ne forPacket, List.append_nil]

theorem passing_step
    (st : NetState) (packets : List (List UInt8)) (event : NetEvent)
    (next : NetState) (passing : Passing zcbor st packets)
    (calm : undisturbed st event)
    (stepped : netStep zcbor maxPayloadLength st event = some next) :
    Passing zcbor next (packets ++ packetOf maxPayloadLength event) := by
  have kept := kept_step st packets event next passing.kept stepped
  have moved := netMove_of_step stepped
  cases moved with
  | esb radio => exact passing.onEsbCallback calm
  | begin begins =>
      show Passing zcbor _ (packets ++ [])
      rw [List.append_nil]
      exact passing.begin begins
  | readLength running =>
      have kept : Kept zcbor _ (packets ++ []) := kept
      show Passing zcbor _ (packets ++ [])
      rw [List.append_nil] at kept ⊢
      exact passing.same kept passing.nodup passing.once Iff.rfl rfl
  | @encodeByte length encoded encodes =>
      have kept : Kept zcbor _ (packets ++ []) := kept
      show Passing zcbor _ (packets ++ [])
      rw [List.append_nil] at kept ⊢
      exact passing.same kept passing.nodup passing.once Iff.rfl rfl
  | @send work rxBuf running encodes bare =>
      show Passing zcbor _ (packets ++ [])
      rw [List.append_nil]
      rcases passing.kept.encoded encodes bare with ⟨fits, whole⟩
      exact passing.sendEvent running fits whole

end Passing

/-- The packets that the events bring. -/
def packetsReceived (maxPayloadLength : Nat) (events : List NetEvent) :
    List (List UInt8) :=
  events.foldl
    (fun packets event => packets ++ packetOf maxPayloadLength event) []

theorem initially_kept (zcbor : Zcbor) : Kept zcbor .initial [] where
  small := Nat.le_of_ble_eq_true rfl
  stored _ impossible := by cases impossible
  received pending := by
    rcases pending with waits | runs
    · cases waits
    · cases runs
  encoding _ _ impossible := by cases impossible
  settled _ := rfl
  understood _ impossible := by cases impossible

/--
The other core understands every message it is sent.  When the work queue has
nothing to do, it has last been told of the last packet received.  If no
packet comes while one is being sent on, each that it is told of is one of
those received, in their order.
-/
theorem last_packet_reported
    (zcbor : Zcbor) (maxPayloadLength : Nat) (events : List NetEvent)
    (finish : NetState)
    (ran :
      run (netStep zcbor maxPayloadLength) .initial events = some finish) :
    (∀ message ∈ finish.sent,
        (rpcEsbEventHandler zcbor message).isSome) ∧
      (finish.work.Idle →
        (packetsReported zcbor finish.sent).getLast? =
          (packetsReceived maxPayloadLength events).getLast?) ∧
      (StepsMeet (netStep zcbor maxPayloadLength) undisturbed .initial
          events →
        (packetsReported zcbor finish.sent).Sublist
          (packetsReceived maxPayloadLength events)) := by
  have kept : Kept zcbor finish (packetsReceived maxPayloadLength events) :=
    run_preserves_folded kept_step (initially_kept zcbor) ran
  refine ⟨kept.understood, fun idle => kept.settled ?_, fun calm => ?_⟩
  · rintro (waits | runs)
    · rw [idle.queued] at waits
      cases waits
    · rw [idle.running] at runs
      cases runs
  · have initially : Passing zcbor .initial [] :=
      ⟨initially_kept zcbor, .nil, fun impossible => (by cases impossible),
        .nil⟩
    have passing :
        Passing zcbor finish (packetsReceived maxPayloadLength events) :=
      run_preserves_folded_of_stepsMeet passing_step initially calm ran
    exact passing.conflates.sublist

/-- The second packet comes before the first is sent on. -/
def overtaken : List NetEvent :=
  [.esb (.rx [1, 2] 2), .esb (.rx [3] 1), .begin, .readLength, .encodeByte,
    .send]

theorem overtaken_reported :
    ∃ finish,
      run (netStep shortestCbor 32) .initial overtaken = some finish ∧
        (packetsReported shortestCbor finish.sent).getLast? = some [3] ∧
        (packetsReported shortestCbor finish.sent).Sublist [[1, 2], [3]] := by
  refine ⟨_, rfl, ?_⟩
  rcases last_packet_reported shortestCbor 32 overtaken _ rfl with
    ⟨-, last, part⟩
  exact ⟨last ⟨rfl, rfl⟩, part (by decide +kernel)⟩

/-- The second packet comes when the first is half sent on. -/
def torn : List NetEvent :=
  [.esb (.rx [1, 2] 2), .begin, .readLength, .encodeByte, .esb (.rx [3, 4] 2),
    .encodeByte, .send, .begin, .readLength, .encodeByte, .encodeByte, .send]

example :
    (run (netStep shortestCbor 32) .initial torn).map
        (fun st => packetsReported shortestCbor st.sent) =
      some [[1, 4], [3, 4]] := by
  decide +kernel

end YkbFirmware.Esb.RpcEvents
