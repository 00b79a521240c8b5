import YkbFirmware.Library.TransitionSystem
import YkbFirmware.Esb.Driver
import YkbFirmware.Esb.Timeslot

/-!
# The packet transport over Enhanced ShockBurst

`ykb_esb.c` is the same for a transmitter and a receiver, and for a build that
owns the radio and one that gets it in time slots.  A transmitter queues its
packets and has the first one transmitted; it stays queued until it has been
acknowledged.  A receiver keeps the latest packet as the payload of its
acknowledgements.

Interrupt handlers are single steps.  `ykb_esb_send` is three: it queues the
packet, looks whether the radio is idle and kicks the transmission, and
anything may happen in between.
-/

namespace YkbFirmware.Esb.Radio

open YkbFirmware.Library.TransitionSystem
open YkbFirmware.Esb.Driver
open YkbFirmware.Esb.Timeslot (TimeslotCallbackType)

/-! ## State -/

/-- The build, and what `ykb_esb_init` is called with. -/
structure EsbOptions where
  /-- `CONFIG_LIB_YKB_ESB_MPSL` -/
  mpsl : Bool
  mode : YkbEsbMode
  baseAddr0 : List UInt8
  baseAddr1 : List UInt8
  /-- `CONFIG_ESB_MAX_PAYLOAD_LENGTH` -/
  maxPayloadLength : Nat
  lengthFits : maxPayloadLength ≤ 252

/-- `ykb_esb_data_t`. -/
structure YkbEsbData where
  data : List UInt8
  len : UInt32
deriving DecidableEq, Repr

/-- `ykb_esb_event_t`, as the callback is given it. -/
inductive YkbEsbEvent where
  | txSuccess
  | txFail
  | rx (buf : List UInt8) (dataLength : UInt8)
deriving DecidableEq, Repr

/-- How far a thread inside `ykb_esb_send` is. -/
inductive SendPhase where
  | ready
  | queued
  | kicking
deriving DecidableEq, Repr

/-- The slots of `m_msgq_tx_payloads`. -/
def txSlots : Nat := 8

structure EsbState (Hw : Type) where
  active : Bool
  txPayloads : List EsbPayload
  /-- `m_prx_ack_cache`, if `m_prx_ack_cache_valid`. -/
  prxAckCache : Option EsbPayload
  hw : Hw
  senders : Nat → SendPhase

def einval : Int := 22

def enomem : Int := 12

def emsgsize : Int := 122

variable {Hw : Type}

section Calls

variable (driver : EsbDriver Hw) (options : EsbOptions)

/-! ## Transmitter and receiver -/

/-- `ptx_kick_next_from_msgq`. -/
def ptxKickNextFromMsgq (st : EsbState Hw) : Int × EsbState Hw :=
  match st.txPayloads with
  | [] => (-enomem, st)
  | payload :: _ =>
      let written := driver.writePayload st.hw payload
      if written.1 < 0 then
        (written.1, { st with hw := written.2 })
      else
        (0, { st with hw := driver.startTx written.2 })

/-- `prx_preload_cached_ack`. -/
def prxPreloadCachedAck (st : EsbState Hw) : EsbState Hw :=
  if options.mode ≠ .prx then
    st
  else
    match st.prxAckCache with
    | none => st
    | some payload =>
        { st with
          hw := (driver.writePayload (driver.flushTx st.hw) payload).2 }

/-- What is queued or cached of a packet. -/
def payloadOf (packet : YkbEsbData) : EsbPayload where
  pipe := 0
  noack := false
  length := packet.len.toUInt8
  data := packet.data.take packet.len.toNat

/-- `prx_set_cached_ack_from_data`. -/
def prxSetCachedAckFromData (st : EsbState Hw) (packet : YkbEsbData) :
    EsbState Hw :=
  if options.mode ≠ .prx then
    st
  else if packet.len.toNat > options.maxPayloadLength then
    st
  else
    let st := { st with prxAckCache := some (payloadOf packet) }
    if st.active then prxPreloadCachedAck driver options st else st

/-- `ykb_esb_prx_set_ack_payload`. -/
def ykbEsbPrxSetAckPayload (st : EsbState Hw) (packet : YkbEsbData) :
    Int × EsbState Hw :=
  if options.mode ≠ .prx then
    (-einval, st)
  else if packet.len.toNat > options.maxPayloadLength then
    (-emsgsize, st)
  else
    (0, prxSetCachedAckFromData driver options st packet)

/-- `esb_initialize`. -/
def esbInitialize (st : EsbState Hw) : Int × EsbState Hw :=
  let inited := driver.init st.hw options.mode
  if inited.1 ≠ 0 then
    (inited.1, { st with hw := inited.2 })
  else
    let based := driver.setBaseAddress0 inited.2 options.baseAddr0
    if based.1 ≠ 0 then
      (based.1, { st with hw := based.2 })
    else
      let rebased := driver.setBaseAddress1 based.2 options.baseAddr1
      if rebased.1 ≠ 0 then
        (rebased.1, { st with hw := rebased.2 })
      else
        let prefixed := driver.setPrefixes rebased.2
        let st := { st with hw := prefixed.2 }
        if prefixed.1 ≠ 0 then
          (prefixed.1, st)
        else if options.mode = .prx then
          let st := prxPreloadCachedAck driver options st
          (0, { st with hw := driver.startRx st.hw })
        else
          (0, st)

/-! ## Interrupts -/

/-- The callbacks for the payloads a loop has read. -/
def rxCallbacks (payloads : List EsbPayload) : List YkbEsbEvent :=
  payloads.map fun payload => .rx payload.data payload.length

/-- `event_handler` at `ESB_EVENT_TX_SUCCESS`. -/
def onTxSuccess (st : EsbState Hw) : EsbState Hw × List YkbEsbEvent :=
  let st :=
    if options.mode = .ptx then
      { st with txPayloads := st.txPayloads.tail }
    else
      st
  let read := driver.drain st.hw
  let st := { st with hw := read.2 }
  let st :=
    if options.mode = .ptx then (ptxKickNextFromMsgq driver st).2 else st
  (st, rxCallbacks read.1 ++ [.txSuccess])

/-- `event_handler` at `ESB_EVENT_TX_FAILED`. -/
def onTxFailed (st : EsbState Hw) : EsbState Hw × List YkbEsbEvent :=
  let st :=
    if options.mode = .ptx then
      let st := { st with hw := driver.flushTx st.hw }
      -- standalone, the packet is given up before the next one is kicked
      let st :=
        if options.mpsl then
          st
        else
          { st with txPayloads := st.txPayloads.tail }
      (ptxKickNextFromMsgq driver st).2
    else
      st
  (st, [.txFail])

/-- `event_handler` at `ESB_EVENT_RX_RECEIVED`. -/
def onRxReceived (st : EsbState Hw) : EsbState Hw × List YkbEsbEvent :=
  let read := driver.drain st.hw
  ({ st with hw := read.2 }, rxCallbacks read.1)

/-! ## Initialisation, suspension and resumption -/

/-- `ykb_esb_init`; `clocksStart` is the result of `clocks_start`. -/
def ykbEsbInit (st : EsbState Hw) (clocksStart : Int) :
    Int × EsbState Hw :=
  let st := { st with active := false }
  if clocksStart < 0 then
    (clocksStart, st)
  else if options.mpsl then
    (0, st)
  else
    let inited := esbInitialize driver options st
    if inited.1 < 0 then
      inited
    else
      let st := { inited.2 with active := true }
      if options.mode = .ptx then
        (0, (ptxKickNextFromMsgq driver st).2)
      else
        (0, st)

/-- `ykb_esb_suspend`. -/
def ykbEsbSuspend (st : EsbState Hw) : EsbState Hw :=
  { st with
    active := false
    hw := driver.disable st.hw }

/-- `ykb_esb_resume`. -/
def ykbEsbResume (st : EsbState Hw) : Int × EsbState Hw :=
  let inited := esbInitialize driver options st
  let st := { inited.2 with active := decide (inited.1 = 0) }
  if inited.1 ≠ 0 then
    (inited.1, st)
  else if options.mode = .ptx then
    (0, (ptxKickNextFromMsgq driver st).2)
  else
    (0, st)

/-- `on_timeslot_start_stop`. -/
def onTimeslotStartStop (st : EsbState Hw) :
    TimeslotCallbackType → EsbState Hw
  | .started => (ykbEsbResume driver options st).2
  | .stopped => ykbEsbSuspend driver st

/-! ## Sending -/

/-- The part of `ykb_esb_send` up to `k_msgq_put`, which may time out. -/
def ykbEsbSend (st : EsbState Hw) (sender : Nat) (packet : YkbEsbData) :
    Int × EsbState Hw :=
  if packet.len.toNat > options.maxPayloadLength then
    (-emsgsize, st)
  else if options.mode = .prx then
    (0, prxSetCachedAckFromData driver options st packet)
  else if st.txPayloads.length ≥ txSlots then
    (-enomem, st)
  else
    (0,
      { st with
        txPayloads := st.txPayloads ++ [payloadOf packet]
        senders := Function.update st.senders sender .queued })

/-- The condition of the `if` behind it. -/
def senderChecks (st : EsbState Hw) (sender : Nat) : EsbState Hw :=
  if st.active && decide (driver.phase st.hw = .idle) then
    { st with senders := Function.update st.senders sender .kicking }
  else
    { st with senders := Function.update st.senders sender .ready }

/-- Its body. -/
def senderKicks (st : EsbState Hw) (sender : Nat) : EsbState Hw :=
  let st := (ptxKickNextFromMsgq driver st).2
  { st with senders := Function.update st.senders sender .ready }

end Calls

/-! ## Runs -/

inductive EsbEvent where
  | init (clocksStart : Int)
  | send (sender : Nat) (packet : YkbEsbData)
  | prxSetAckPayload (packet : YkbEsbData)
  | check (sender : Nat)
  | kick (sender : Nat)
  | txSuccess (acks : List EsbPayload)
  | txFailed
  | rxReceived (payload : EsbPayload)
  | timeslot (type : TimeslotCallbackType)

section Step

variable (driver : EsbDriver Hw) (options : EsbOptions)

def esbStep (st : EsbState Hw) : EsbEvent → Option (EsbState Hw)
  | .init clocksStart => some (ykbEsbInit driver options st clocksStart).2
  | .send sender packet =>
      if st.senders sender = .ready then
        some (ykbEsbSend driver options st sender packet).2
      else
        none
  | .prxSetAckPayload packet =>
      some (ykbEsbPrxSetAckPayload driver options st packet).2
  | .check sender =>
      if st.senders sender = .queued then
        some (senderChecks driver st sender)
      else
        none
  | .kick sender =>
      if st.senders sender = .kicking then
        some (senderKicks driver st sender)
      else
        none
  | .txSuccess acks =>
      (driver.transmitted st.hw acks).map fun hw =>
        (onTxSuccess driver options { st with hw := hw }).1
  | .txFailed =>
      (driver.failed st.hw).map fun hw =>
        (onTxFailed driver options { st with hw := hw }).1
  | .rxReceived payload =>
      (driver.received st.hw payload).map fun hw =>
        (onRxReceived driver { st with hw := hw }).1
  | .timeslot type =>
      if options.mpsl then
        some (onTimeslotStartStop driver options st type)
      else
        none

/-- The packet a call of `ykb_esb_send` has queued. -/
def accepted (st : EsbState Hw) : EsbEvent → List EsbPayload
  | .send sender packet =>
      if options.mode = .ptx ∧
          (ykbEsbSend driver options st sender packet).1 = 0 then
        [payloadOf packet]
      else
        []
  | _ => []

/--
What has become of a packet: what the radio has transmitted, and whether it
has been acknowledged.
-/
def settled (st : EsbState Hw) : EsbEvent → List (EsbPayload × Bool)
  | .txSuccess _ => (driver.txFifo st.hw).head?.toList.map (·, true)
  | .txFailed =>
      if options.mpsl then
        []
      else
        (driver.txFifo st.hw).head?.toList.map (·, false)
  | _ => []

end Step

/-- Before `ykb_esb_init`. -/
def EsbState.initial (hw : Hw) : EsbState Hw where
  active := false
  txPayloads := []
  prxAckCache := none
  hw := hw
  senders := fun _ => .ready

end YkbFirmware.Esb.Radio
