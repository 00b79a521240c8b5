import YkbFirmware.SplitLink.Link
import YkbFirmware.SplitLink.ScriptQueue

/-!
# Script slots from the master to the slave

The master's script queue on one side, the receiving slots of the slave on the
other side, and a link between them which delivers every packet once and in
order.  The slave has one buffer for scripts; from the last packet of a script
until the handler passed it to `ykb_backlight_set_script_slot`, which writes
flash, packets are refused, and the master does not know of it.  If no packet
comes while the buffer is in use, every script arrives.

The link carries packets of other slots as well; they reach other slots only
and are left out.
-/

namespace YkbFirmware.SplitLink.ScriptDelivery

open YkbFirmware.Library.ByteMemory
open YkbFirmware.Library.TransitionSystem
open YkbFirmware.Protocol.Wire
open YkbFirmware.Protocol.Sender
open YkbFirmware.Protocol.ReceiverInvariant
open YkbFirmware.Protocol.TransferReceipt
open YkbFirmware.SplitLink.Slots
open YkbFirmware.SplitLink.TransmitSlot
open YkbFirmware.SplitLink.ReceiveSlot
open YkbFirmware.SplitLink.Link
open YkbFirmware.SplitLink.Transmission
open YkbFirmware.SplitLink.ScriptQueue

/-! ## The two halves -/

/-- A call of `ykb_backlight_set_script_slot` on the slave. -/
structure ScriptCall where
  slot : UInt16
  payload : List UInt8

/-- `splitlink_sync_script_slot_received`. -/
def splitlinkSyncScriptSlotReceived (message : List UInt8) : ScriptCall where
  slot := fieldOfBytes (message.getD 0 0) (message.getD 1 0)
  payload := message.drop 2

/-- `splitlink_script_request_t`. -/
structure ScriptRequest where
  slotCount : UInt16
  bitmap : Memory

/-- The slots `splitlink_sync_scripts_request_received` queues, in order. -/
def splitlinkSyncScriptsRequestReceived
    (options : ScriptOptions) (request : ScriptRequest) : List UInt16 :=
  let count := min request.slotCount.toNat options.scriptSlotCount.toNat
  ((List.range count).filter request.bitmap.testBit).map UInt16.ofNat

/--
`toQueue` lists the calls of `splitlink_sync_queue_script_slot_sync` the
handler of a request has still to make.  Three fields are history: the packets
that arrived, the calls the slave made, and the slots requested so far.
-/
structure DeliveryState where
  master : ScriptState
  toQueue : List UInt16
  inFlight : List (List UInt8)
  slave : SlotName → RxSlot
  arrived : List (List UInt8)
  calls : List ScriptCall
  requested : UInt16 → Bool

/-- The script slot of the slave. -/
def DeliveryState.rxSlot (state : DeliveryState) : RxSlot :=
  state.slave .scriptSlot

inductive DeliveryEvent where
  /-- A request reaches the master. -/
  | request (request : ScriptRequest)
  /-- The handler of the request queues its next slot. -/
  | queueNext
  /-- Anything the master does with its scripts. -/
  | master (event : ScriptEvent)
  /-- The oldest packet reaches the slave. -/
  | arrive
  /-- `rx_slot_work_handler` of the slave begins. -/
  | process
  /-- It passes the script on and ends. -/
  | handOver

/-- What the master puts on the link. -/
def packetsSent
    (options : ScriptOptions) (master : ScriptState) :
    ScriptEvent → List (List UInt8)
  | .send result =>
      (master.log.worked options.toSplitlinkOptions result).sent.toList
  | _ => []

def deliveryStep (options : ScriptOptions) (state : DeliveryState) :
    DeliveryEvent → Option DeliveryState
  | .request request =>
      if state.toQueue = [] then
        let slots := splitlinkSyncScriptsRequestReceived options request
        some
          { state with
            toQueue := slots
            requested := fun slot =>
              state.requested slot || slots.contains slot }
      else
        none
  | .queueNext =>
      match state.toQueue with
      | [] => none
      | slot :: rest =>
          some
            { state with
              master :=
                splitlinkSyncQueueScriptSlotSync options slot state.master
              toQueue := rest }
  | .master event =>
      (scriptStep options state.master event).map fun master =>
        { state with
          master := master
          inFlight :=
            state.inFlight ++ packetsSent options state.master event }
  | .arrive =>
      match state.inFlight with
      | [] => none
      | frame :: rest =>
          some
            { state with
              inFlight := rest
              slave :=
                splitlinkSyncProtocolOnReceive options.toSplitlinkOptions
                  .slave state.slave frame
              arrived := state.arrived ++ [frame] }
  | .process =>
      if state.rxSlot.submitted then
        some
          { state with
            slave :=
              Function.update state.slave .scriptSlot
                (rxSlotWorkStart state.rxSlot) }
      else
        none
  | .handOver =>
      if state.rxSlot.state = .processing then
        some
          { state with
            slave :=
              Function.update state.slave .scriptSlot
                (rxSlotWorkFinish state.rxSlot)
            calls :=
              state.calls ++
                [splitlinkSyncScriptSlotReceived
                  (handedMessage options.toSplitlinkOptions .scriptSlot
                    state.rxSlot)] }
      else
        none

/-- No packet is in flight and no work is pending on either side. -/
structure AtRest (state : DeliveryState) : Prop where
  toQueue : state.toQueue = []
  inFlight : state.inFlight = []
  unscheduled : state.master.log.slot.scheduled = false
  idle : state.master.phase = .idle
  unsubmitted : state.rxSlot.submitted = false
  notProcessing : state.rxSlot.state ≠ .processing

/-- The slave passes on what a transfer carries. -/
def callOf (transfer : Transfer) : ScriptCall :=
  splitlinkSyncScriptSlotReceived transfer.payload

/-- Every requested slot reached the slave as the master sent it. -/
structure Delivered (state : DeliveryState) : Prop where
  inOrder : state.calls = state.master.log.finished.map callOf
  requested :
    ∀ slot, state.requested slot = true →
      ∃ transfer,
        lastFor slot state.master.log.finished = some transfer ∧
          ⟨slot, transfer.payload.drop 2⟩ ∈ state.calls

/-- A script packet finds the buffer of the slave free, or being filled. -/
def NotRefused (state : DeliveryState) : DeliveryEvent → Prop
  | .arrive => state.rxSlot.state = .empty ∨ state.rxSlot.state = .receiving
  | _ => True

instance (state : DeliveryState) : Decidable (AtRest state) :=
  decidable_of_iff
    (state.toQueue = [] ∧ state.inFlight = [] ∧
      state.master.log.slot.scheduled = false ∧
        state.master.phase = .idle ∧ state.rxSlot.submitted = false ∧
          state.rxSlot.state ≠ .processing)
    ⟨fun ⟨toQueue, inFlight, unscheduled, idle, unsubmitted, free⟩ =>
        ⟨toQueue, inFlight, unscheduled, idle, unsubmitted, free⟩,
      fun rest =>
        ⟨rest.toQueue, rest.inFlight, rest.unscheduled, rest.idle,
          rest.unsubmitted, rest.notProcessing⟩⟩

instance (state : DeliveryState) :
    ∀ event, Decidable (NotRefused state event)
  | .arrive =>
      inferInstanceAs
        (Decidable
          (state.rxSlot.state = .empty ∨ state.rxSlot.state = .receiving))
  | .request _ | .queueNext | .master _ | .process | .handOver =>
      isTrue trivial

/-- With out-of-order tracking, the bitmap has a bit for every packet. -/
def BitmapCovers (options : ScriptOptions) : Prop :=
  options.outOfOrderTrack = true →
    ykbProtocolBitmapSizeBytes
        (ykbProtocolCalcPacketCount options.geometry
          options.scriptSlotPacketSize) ≤
      options.bitmapLength

/-! ## The buffer of the slave -/

/-- The packets of a transfer from `index` on. -/
def restOf
    (options : ScriptOptions) (transfer : Transfer) (index : Nat) :
    List (List UInt8) :=
  (List.range' index (transfer.count options.geometry - index)).map
    (frameAt options.geometry transfer)

/-- The packets of several transfers. -/
def framesOf (options : ScriptOptions) (transfers : List Transfer) :
    List (List UInt8) :=
  transfers.flatMap (completeFrames options.toSplitlinkOptions)

/--
The slot stands in a stream of transfers: `later` were not handed over, and
`ahead` are the packets of these which did not arrive.
-/
inductive Stage (options : ScriptOptions) (slot : RxSlot) :
    List Transfer → List (List UInt8) → Prop where
  | free (empty : slot.state = .empty) : Stage options slot [] []
  | taking {transfer : Transfer} {index : Nat} {later : List Transfer}
      (upTo :
        UpTo options.toSplitlinkOptions .scriptSlot transfer slot index) :
      Stage options slot (transfer :: later)
        (restOf options transfer index ++ framesOf options later)
  | passing {transfer : Transfer} {later : List Transfer}
      (state : slot.state = .processing)
      (receiving :
        Receiving options.geometry transfer slot.rx
          (Finset.range (transfer.count options.geometry))) :
      Stage options slot (transfer :: later) (framesOf options later)

section Stages

variable
    {options : ScriptOptions} {slot : RxSlot} {transfer : Transfer}
    {index : Nat} {later : List Transfer} {ahead : List (List UInt8)}

theorem restOf_start :
    restOf options transfer 0 =
      completeFrames options.toSplitlinkOptions transfer := by
  rw [restOf, completeFrames, List.range_eq_range', Nat.sub_zero]

theorem restOf_end :
    restOf options transfer (transfer.count options.geometry) = [] := by
  rw [restOf, Nat.sub_self, List.range'_zero, List.map_nil]

theorem restOf_next (within : index < transfer.count options.geometry) :
    restOf options transfer index =
      frameAt options.geometry transfer index ::
        restOf options transfer (index + 1) := by
  have more :
      transfer.count options.geometry - index =
        transfer.count options.geometry - (index + 1) + 1 := by
    omega
  rw [restOf, more, List.range'_succ, List.map_cons, restOf]

/-- The buffer has room for a script. -/
theorem isScript_fits
    (isScript : IsScript options transfer) (covers : BitmapCovers options) :
    Fits options.toSplitlinkOptions .scriptSlot transfer := by
  constructor
  · rw [isScript.size]
    exact UInt16.le_rfl
  · rw [Transfer.packetCount, isScript.size]
    exact covers

/-- A free buffer takes whatever comes. -/
theorem stage_of_empty
    (empty : slot.state = .empty)
    (fits :
      ∀ transfer ∈ later,
        Fits options.toSplitlinkOptions .scriptSlot transfer) :
    Stage options slot later (framesOf options later) := by
  cases later with
  | nil => exact .free empty
  | cons first rest =>
      have stage :=
        @Stage.taking options slot first 0 rest
          (.start empty (fits first List.mem_cons_self))
      rw [restOf_start] at stage
      exact stage

/-- The master begins more transfers. -/
theorem Stage.append
    (stage : Stage options slot later ahead) {more : List Transfer}
    (fits :
      ∀ transfer ∈ more,
        Fits options.toSplitlinkOptions .scriptSlot transfer) :
    Stage options slot (later ++ more) (ahead ++ framesOf options more) := by
  cases stage with
  | free empty => exact stage_of_empty empty fits
  | taking upTo =>
      rw [List.append_assoc, framesOf, framesOf, ← List.flatMap_append]
      exact .taking upTo
  | passing state receiving =>
      rw [framesOf, framesOf, ← List.flatMap_append]
      exact .passing state receiving

/-- A packet which is not refused is the next one of its transfer. -/
theorem Stage.arrive
    {frame : List UInt8} {rest : List (List UInt8)}
    (stage : Stage options slot later (frame :: rest))
    (accepted : slot.state = .empty ∨ slot.state = .receiving) :
    ∃ transfer ∈ later, ∃ index < transfer.count options.geometry,
      frame = frameAt options.geometry transfer index ∧
        Stage options
          (receiveOnSlot options.toSplitlinkOptions .scriptSlot slot
            (transfer.packet options.geometry index))
          later rest := by
  generalize stream : frame :: rest = ahead at stage
  cases stage with
  | free => cases stream
  | passing state =>
      rw [state] at accepted
      rcases accepted with impossible | impossible <;> cases impossible
  | @taking transfer index later upTo =>
      have within : index < transfer.count options.geometry := by
        cases upTo with
        | start => exact Transfer.count_pos _ _
        | middle _ within => exact within
        | full state =>
            rw [state] at accepted
            rcases accepted with impossible | impossible <;> cases impossible
      rw [restOf_next within, List.cons_append] at stream
      injection stream with same others
      refine
        ⟨transfer, List.mem_cons_self, index, within, same, ?_⟩
      rw [others]
      exact .taking (upTo_next upTo within)

/-- The handler of a complete script begins. -/
theorem Stage.process
    (stage : Stage options slot later ahead) (ready : slot.state = .ready) :
    Stage options (rxSlotWorkStart slot) later ahead := by
  cases stage with
  | free empty =>
      rw [ready] at empty
      cases empty
  | passing state =>
      rw [ready] at state
      cases state
  | taking upTo =>
      cases upTo with
      | start empty =>
          rw [ready] at empty
          cases empty
      | middle state =>
          rw [ready] at state
          cases state
      | full _ _ receiving =>
          rw [restOf_end, List.nil_append]
          exact .passing rfl receiving

/-- The handler passes the script on and frees the buffer. -/
theorem Stage.handOver
    (stage : Stage options slot later ahead)
    (processing : slot.state = .processing)
    (scripts : ∀ transfer ∈ later, IsScript options transfer)
    (covers : BitmapCovers options) :
    ∃ transfer rest,
      later = transfer :: rest ∧
        handedMessage options.toSplitlinkOptions .scriptSlot slot =
            transfer.payload ∧
          Stage options (rxSlotWorkFinish slot) rest ahead := by
  cases stage with
  | free empty =>
      rw [processing] at empty
      cases empty
  | taking upTo =>
      cases upTo with
      | start empty =>
          rw [processing] at empty
          cases empty
      | middle state =>
          rw [processing] at state
          cases state
      | full state =>
          rw [processing] at state
          cases state
  | @passing transfer rest _ receiving =>
      have size := (scripts transfer List.mem_cons_self).size
      refine ⟨transfer, rest, rfl, handedMessage_eq receiving size, ?_⟩
      apply stage_of_empty rfl
      intro other member
      exact
        isScript_fits (scripts other (List.mem_cons_of_mem _ member)) covers

end Stages

/-! ## What every step keeps -/

/--
The transfers begun are cut where the slave stands: it passed the first ones
on, and of the packets of the others some did not arrive.
-/
inductive Passes
    (options : ScriptOptions) (slot : RxSlot) (begun : List Transfer)
    (arrived : List (List UInt8)) (calls : List ScriptCall) : Prop where
  | cut (passed later : List Transfer) {ahead : List (List UInt8)}
      (split : begun = passed ++ later)
      (made : calls = passed.map callOf)
      (stream : arrived ++ ahead = framesOf options begun)
      (stage : Stage options slot later ahead)

section Cuts

variable
    {options : ScriptOptions} {slot : RxSlot} {begun : List Transfer}
    {arrived : List (List UInt8)} {calls : List ScriptCall}

theorem Passes.append
    (passes : Passes options slot begun arrived calls)
    {more : List Transfer}
    (fits :
      ∀ transfer ∈ more,
        Fits options.toSplitlinkOptions .scriptSlot transfer) :
    Passes options slot (begun ++ more) arrived calls := by
  cases passes with
  | @cut passed later ahead split made stream stage =>
      refine .cut passed (later ++ more) ?_ made ?_ (stage.append fits)
      · rw [split, List.append_assoc]
      · rw [← List.append_assoc, stream, framesOf, framesOf, framesOf,
          List.flatMap_append]

theorem Passes.arrive
    (passes : Passes options slot begun arrived calls)
    {frame : List UInt8} {rest : List (List UInt8)}
    (onLink : arrived ++ frame :: rest <+: framesOf options begun)
    (accepted : slot.state = .empty ∨ slot.state = .receiving) :
    ∃ transfer ∈ begun, ∃ index < transfer.count options.geometry,
      frame = frameAt options.geometry transfer index ∧
        Passes options
          (receiveOnSlot options.toSplitlinkOptions .scriptSlot slot
            (transfer.packet options.geometry index))
          begun (arrived ++ [frame]) calls := by
  cases passes with
  | @cut passed later ahead split made stream stage =>
      rw [← stream] at onLink
      rcases (List.prefix_append_right_inj _).mp onLink with ⟨unsent, same⟩
      rw [List.cons_append] at same
      rcases (same ▸ stage).arrive accepted with
        ⟨transfer, member, index, within, isFrame, next⟩
      refine ⟨transfer, ?_, index, within, isFrame, ?_⟩
      · rw [split]
        exact List.mem_append_right _ member
      · refine .cut passed later split made ?_ next
        rw [List.append_assoc, List.singleton_append, same, stream]

theorem Passes.process
    (passes : Passes options slot begun arrived calls)
    (ready : slot.state = .ready) :
    Passes options (rxSlotWorkStart slot) begun arrived calls := by
  cases passes with
  | cut passed later split made stream stage =>
      exact .cut passed later split made stream (stage.process ready)

theorem Passes.handOver
    (passes : Passes options slot begun arrived calls)
    (processing : slot.state = .processing)
    (scripts : ∀ transfer ∈ begun, IsScript options transfer)
    (covers : BitmapCovers options) :
    Passes options (rxSlotWorkFinish slot) begun arrived
      (calls ++
        [splitlinkSyncScriptSlotReceived
          (handedMessage options.toSplitlinkOptions .scriptSlot slot)]) := by
  cases passes with
  | @cut passed later ahead split made stream stage =>
      have scriptsLater : ∀ transfer ∈ later, IsScript options transfer := by
        intro transfer member
        apply scripts transfer
        rw [split]
        exact List.mem_append_right _ member
      rcases stage.handOver processing scriptsLater covers with
        ⟨transfer, rest, cons, handed, next⟩
      refine .cut (passed ++ [transfer]) rest ?_ ?_ stream next
      · rw [split, cons, List.append_assoc, List.singleton_append]
      · rw [made, handed, List.map_append, List.map_singleton, callOf]

/-- Once every packet arrived and was handled, everything was passed on. -/
theorem Passes.all
    (passes : Passes options slot begun arrived calls)
    (everything : arrived = framesOf options begun)
    (unsubmitted : slot.submitted = false)
    (notProcessing : slot.state ≠ .processing) :
    calls = begun.map callOf := by
  cases passes with
  | @cut passed later ahead split made stream stage =>
      have nothing : ahead = [] := by
        rw [everything] at stream
        exact List.append_right_eq_self.mp stream
      have done : later = [] := by
        generalize ahead = rest at stage nothing
        cases stage with
        | free => rfl
        | passing state => exact absurd state notProcessing
        | taking upTo =>
            have ended := (List.append_eq_nil_iff.mp nothing).1
            cases upTo with
            | start =>
                rw [restOf_next (Transfer.count_pos _ _)] at ended
                cases ended
            | middle _ within =>
                rw [restOf_next within] at ended
                cases ended
            | full _ submitted =>
                rw [unsubmitted] at submitted
                cases submitted
      rw [split, done, List.append_nil, made]

end Cuts

/-- What the whole system keeps while no packet is refused. -/
structure Arrives (options : ScriptOptions) (state : DeliveryState) :
    Prop where
  queues : Queues options state.master
  wakes : state.rxSlot.submitted = true → state.rxSlot.state = .ready
  onLink : state.arrived ++ state.inFlight = state.master.log.sent
  passes :
    Passes options state.rxSlot (state.master.log.begun .scriptSlot)
      state.arrived state.calls
  inRange : ∀ slot ∈ state.toQueue, slot < options.scriptSlotCount
  asked :
    ∀ slot, state.requested slot = true →
      slot ∈ state.toQueue ∨ state.master.queued slot = true

/-- Nothing was requested yet, and the slave waits for scripts. -/
structure DeliveryStart (state : DeliveryState) : Prop where
  session : SessionStart state.master
  toQueue : state.toQueue = []
  inFlight : state.inFlight = []
  empty : state.rxSlot.state = .empty
  unsubmitted : state.rxSlot.submitted = false
  history : state.arrived = [] ∧ state.calls = []
  noneRequested : ∀ slot, state.requested slot = false

section Steps

variable {options : ScriptOptions} {state next : DeliveryState}

theorem DeliveryStart.arrives (start : DeliveryStart state) :
    Arrives options state := by
  have begun : state.master.log.begun .scriptSlot = [] :=
    (begun_of_empty start.session.empty).trans
      start.session.nothingSent.2
  constructor
  case queues => exact start.session.queues
  case wakes =>
    intro submitted
    rw [start.unsubmitted] at submitted
    cases submitted
  case onLink =>
    rw [start.history.1, start.inFlight, start.session.nothingSent.1,
      List.append_nil]
  case passes =>
    rw [begun, start.history.1, start.history.2]
    exact .cut [] [] rfl rfl rfl (.free start.empty)
  case inRange =>
    rw [start.toQueue]
    exact fun _ member => absurd member List.not_mem_nil
  case asked =>
    intro slot requested
    rw [start.noneRequested slot] at requested
    cases requested

/-- What a step of the master adds to its log. -/
structure LogGrows
    (log next : SlotLog) (frames : List (List UInt8)) : Prop where
  sent : next.sent = log.sent ++ frames
  begun :
    ∃ more, next.begun .scriptSlot = log.begun .scriptSlot ++ more

theorem LogGrows.refl (log : SlotLog) : LogGrows log log [] where
  sent := (List.append_nil _).symm
  begun := ⟨[], (List.append_nil _).symm⟩

theorem kickLocked_grows (master : ScriptState) :
    LogGrows master.log (kickLocked options master).log [] := by
  rcases kickLocked_cases options master with
    ⟨same, _⟩ | ⟨slot, _, empty, _, same⟩
  · rw [same]
    exact .refl _
  · rw [same]
    exact ⟨(List.append_nil _).symm, _, begun_start empty _ _⟩

theorem queue_grows (slot : UInt16) (master : ScriptState) :
    LogGrows master.log
      (splitlinkSyncQueueScriptSlotSync options slot master).log [] := by
  rw [splitlinkSyncQueueScriptSlotSync]
  split_ifs with outOfRange
  · exact .refl _
  · let marked : ScriptState :=
      { master with
        pending :=
          scriptSlotSyncMarkPendingLocked options slot master.pending
        queued := Function.update master.queued slot true
        unqueued := Function.update master.unqueued slot false }
    exact kickLocked_grows marked

theorem scriptStep_grows
    {master after : ScriptState} {event : ScriptEvent}
    (queues : Queues options master)
    (stepped : scriptStep options master event = some after) :
    LogGrows master.log after.log (packetsSent options master event) := by
  cases scriptStep_cases stepped with
  | change => exact .refl _
  | queue slot => exact queue_grows slot master
  | workStart =>
      exact ⟨(List.append_nil _).symm, [], (List.append_nil _).symm⟩
  | send _ taken =>
      have begun := (work_worked queues.accounts taken).begun
      exact ⟨rfl, [], begun.trans (List.append_nil _).symm⟩
  | out =>
      let leaving : ScriptState := { master with phase := .idle }
      exact kickLocked_grows leaving

/-- The slots queued stay queued. -/
theorem queued_kickLocked (master : ScriptState) :
    (kickLocked options master).queued = master.queued := by
  rcases kickLocked_cases options master with
    ⟨same, _⟩ | ⟨slot, _, _, _, same⟩
  · rw [same]
  · rw [same]
    rfl

theorem queued_queue
    {master : ScriptState} {slot other : UInt16}
    (queued : master.queued other = true) :
    (splitlinkSyncQueueScriptSlotSync options slot master).queued other =
      true := by
  rw [splitlinkSyncQueueScriptSlotSync]
  split_ifs with outOfRange
  · exact queued
  · rw [queued_kickLocked]
    by_cases own : other = slot
    · rw [own]
      exact Function.update_self _ _ _
    · exact (Function.update_of_ne own _ _).trans queued

theorem queued_queue_self
    {master : ScriptState} {slot : UInt16}
    (inRange : slot < options.scriptSlotCount) :
    (splitlinkSyncQueueScriptSlotSync options slot master).queued slot =
      true := by
  rw [splitlinkSyncQueueScriptSlotSync, if_neg (UInt16.not_le.mpr inRange),
    queued_kickLocked]
  exact Function.update_self _ _ _

theorem queued_scriptStep
    {master after : ScriptState} {event : ScriptEvent} {slot : UInt16}
    (stepped : scriptStep options master event = some after)
    (queued : master.queued slot = true) : after.queued slot = true := by
  cases scriptStep_cases stepped with
  | change => exact queued
  | queue => exact queued_queue queued
  | workStart => exact queued
  | send => exact queued
  | out =>
      rw [queued_kickLocked]
      exact queued

/-- A step of the master keeps what arrived in step with what was sent. -/
theorem Arrives.masterStep
    (arrives : Arrives options state) (covers : BitmapCovers options)
    {master : ScriptState} {frames : List (List UInt8)}
    (queues : Queues options master)
    (grows : LogGrows state.master.log master.log frames) :
    state.arrived ++ (state.inFlight ++ frames) = master.log.sent ∧
      Passes options state.rxSlot (master.log.begun .scriptSlot)
        state.arrived state.calls := by
  constructor
  · rw [← List.append_assoc, arrives.onLink, grows.sent]
  · rcases grows.begun with ⟨more, begun⟩
    have fits :
        ∀ transfer ∈ more,
          Fits options.toSplitlinkOptions .scriptSlot transfer := by
      intro transfer member
      apply isScript_fits _ covers
      apply queues.scripts transfer
      rw [begun]
      exact List.mem_append_right _ member
    rw [begun]
    exact arrives.passes.append fits

theorem requestReceived_inRange
    {request : ScriptRequest} {slot : UInt16}
    (member : slot ∈ splitlinkSyncScriptsRequestReceived options request) :
    slot < options.scriptSlotCount := by
  rcases List.mem_map.mp member with ⟨index, filtered, rfl⟩
  have within := List.mem_range.mp (List.mem_filter.mp filtered).1
  have count := options.scriptSlotCount.toNat_lt
  rw [UInt16.lt_iff_toNat_lt, UInt16.toNat_ofNat',
    Nat.mod_eq_of_lt (by omega)]
  omega

/-- The handler of a request has to queue what is requested. -/
theorem Arrives.request
    (arrives : Arrives options state) (idle : state.toQueue = [])
    (request : ScriptRequest) :
    Arrives options
      { state with
        toQueue := splitlinkSyncScriptsRequestReceived options request
        requested := fun slot =>
          state.requested slot ||
            (splitlinkSyncScriptsRequestReceived options request).contains
              slot } := by
  constructor
  case queues => exact arrives.queues
  case wakes => exact arrives.wakes
  case onLink => exact arrives.onLink
  case passes => exact arrives.passes
  case inRange => exact fun _ member => requestReceived_inRange member
  case asked =>
    intro slot requested
    rcases Bool.or_eq_true_iff.mp requested with earlier | now
    · rcases arrives.asked slot earlier with toQueue | queued
      · rw [idle] at toQueue
        exact absurd toQueue List.not_mem_nil
      · exact .inr queued
    · exact .inl (List.contains_iff_mem.mp now)

theorem Arrives.queueNext
    (arrives : Arrives options state) (covers : BitmapCovers options)
    {slot : UInt16} {rest : List UInt16}
    (toQueue : state.toQueue = slot :: rest) :
    Arrives options
      { state with
        master := splitlinkSyncQueueScriptSlotSync options slot state.master
        toQueue := rest } := by
  have queues := arrives.queues.queue slot
  have kept :=
    arrives.masterStep covers queues (queue_grows slot state.master)
  constructor
  case queues => exact queues
  case wakes => exact arrives.wakes
  case onLink =>
    rw [List.append_nil] at kept
    exact kept.1
  case passes => exact kept.2
  case inRange =>
    intro other member
    apply arrives.inRange other
    rw [toQueue]
    exact List.mem_cons_of_mem slot member
  case asked =>
    intro other requested
    rcases arrives.asked other requested with waiting | queued
    · rw [toQueue] at waiting
      rcases List.mem_cons.mp waiting with own | later
      · right
        rw [own]
        apply queued_queue_self
        apply arrives.inRange slot
        rw [toQueue]
        exact List.mem_cons_self
      · exact .inl later
    · exact .inr (queued_queue queued)

theorem Arrives.master
    (arrives : Arrives options state) (covers : BitmapCovers options)
    {event : ScriptEvent} {master : ScriptState}
    (stepped : scriptStep options state.master event = some master) :
    Arrives options
      { state with
        master := master
        inFlight :=
          state.inFlight ++ packetsSent options state.master event } := by
  have queues := arrives.queues.step stepped
  have grows := scriptStep_grows arrives.queues stepped
  have kept := arrives.masterStep covers queues grows
  constructor
  case queues => exact queues
  case wakes => exact arrives.wakes
  case onLink => exact kept.1
  case passes => exact kept.2
  case inRange => exact arrives.inRange
  case asked =>
    intro slot requested
    rcases arrives.asked slot requested with waiting | queued
    · exact .inl waiting
    · exact .inr (queued_scriptStep stepped queued)

/-- The buffer takes the oldest packet in flight. -/
theorem Arrives.arrive
    (arrives : Arrives options state)
    {frame : List UInt8} {rest : List (List UInt8)}
    (inFlight : state.inFlight = frame :: rest)
    (accepted :
      state.rxSlot.state = .empty ∨ state.rxSlot.state = .receiving) :
    Arrives options
      { state with
        inFlight := rest
        slave :=
          splitlinkSyncProtocolOnReceive options.toSplitlinkOptions .slave
            state.slave frame
        arrived := state.arrived ++ [frame] } := by
  have onLink :
      state.arrived ++ frame :: rest <+:
        framesOf options (state.master.log.begun .scriptSlot) := by
    rw [← inFlight, arrives.onLink]
    exact arrives.queues.accounts.sent_prefix
  rcases arrives.passes.arrive onLink accepted with
    ⟨transfer, member, index, within, isFrame, passes⟩
  have isScript := arrives.queues.scripts transfer member
  have intact :
      FrameIntact options.toSplitlinkOptions
        ⟨.scriptSlot, transfer, frame⟩ :=
    ⟨isScript.id, isScript.size, index, within, isFrame⟩
  have received :
      splitlinkSyncProtocolOnReceive options.toSplitlinkOptions .slave
          state.slave frame .scriptSlot =
        receiveOnSlot options.toSplitlinkOptions .scriptSlot state.rxSlot
          (transfer.packet options.geometry index) := by
    rw [onReceive_frame intact rfl, isFrame, packetAt_frameAt]
    exact Function.update_self _ _ _
  constructor
  case queues => exact arrives.queues
  case wakes =>
    rw [DeliveryState.rxSlot]
    dsimp only
    rw [received]
    exact receiveOnSlot_submitted arrives.wakes
  case onLink =>
    rw [List.append_assoc, List.singleton_append, ← inFlight]
    exact arrives.onLink
  case passes =>
    rw [DeliveryState.rxSlot]
    dsimp only
    rw [received]
    exact passes
  case inRange => exact arrives.inRange
  case asked => exact arrives.asked

/-- The slave's script slot and the calls it made are replaced. -/
theorem Arrives.withSlot
    (arrives : Arrives options state)
    {rxSlot : RxSlot} {calls : List ScriptCall}
    (wakes : rxSlot.submitted = true → rxSlot.state = .ready)
    (passes :
      Passes options rxSlot (state.master.log.begun .scriptSlot)
        state.arrived calls) :
    Arrives options
      { state with
        slave := Function.update state.slave .scriptSlot rxSlot
        calls := calls } := by
  have same :
      DeliveryState.rxSlot
          { state with
            slave := Function.update state.slave .scriptSlot rxSlot
            calls := calls } =
        rxSlot := by
    rw [DeliveryState.rxSlot]
    dsimp only
    rw [Function.update_self]
  constructor
  case queues => exact arrives.queues
  case wakes =>
    rw [same]
    exact wakes
  case onLink => exact arrives.onLink
  case passes =>
    rw [same]
    exact passes
  case inRange => exact arrives.inRange
  case asked => exact arrives.asked

/-- The handler of the slave begins. -/
theorem Arrives.process
    (arrives : Arrives options state)
    (submitted : state.rxSlot.submitted = true) :
    Arrives options
      { state with
        slave :=
          Function.update state.slave .scriptSlot
            (rxSlotWorkStart state.rxSlot) } :=
  arrives.withSlot (fun impossible => nomatch impossible)
    (arrives.passes.process (arrives.wakes submitted))

/-- It passes a script on. -/
theorem Arrives.handOver
    (arrives : Arrives options state) (covers : BitmapCovers options)
    (processing : state.rxSlot.state = .processing) :
    Arrives options
      { state with
        slave :=
          Function.update state.slave .scriptSlot
            (rxSlotWorkFinish state.rxSlot)
        calls :=
          state.calls ++
            [splitlinkSyncScriptSlotReceived
              (handedMessage options.toSplitlinkOptions .scriptSlot
                state.rxSlot)] } := by
  have unsubmitted : state.rxSlot.submitted ≠ true := by
    intro submitted
    have ready := arrives.wakes submitted
    rw [processing] at ready
    cases ready
  exact
    arrives.withSlot (fun submitted => absurd submitted unsubmitted)
      (arrives.passes.handOver processing arrives.queues.scripts covers)

theorem Arrives.step
    (covers : BitmapCovers options) (state : DeliveryState)
    (event : DeliveryEvent) (next : DeliveryState)
    (arrives : Arrives options state) (accepted : NotRefused state event)
    (stepped : deliveryStep options state event = some next) :
    Arrives options next := by
  cases event with
  | request request =>
      rw [deliveryStep] at stepped
      split_ifs at stepped with idle
      cases stepped
      exact arrives.request idle request
  | queueNext =>
      rw [deliveryStep] at stepped
      cases toQueue : state.toQueue with
      | nil =>
          rw [toQueue] at stepped
          cases stepped
      | cons slot rest =>
          rw [toQueue] at stepped
          cases stepped
          exact arrives.queueNext covers toQueue
  | master event =>
      rw [deliveryStep] at stepped
      rcases Option.map_eq_some_iff.mp stepped with ⟨master, moved, rfl⟩
      exact arrives.master covers moved
  | arrive =>
      rw [deliveryStep] at stepped
      cases inFlight : state.inFlight with
      | nil =>
          rw [inFlight] at stepped
          cases stepped
      | cons frame rest =>
          rw [inFlight] at stepped
          cases stepped
          exact arrives.arrive inFlight accepted
  | process =>
      rw [deliveryStep] at stepped
      split_ifs at stepped with submitted
      cases stepped
      exact arrives.process submitted
  | handOver =>
      rw [deliveryStep] at stepped
      split_ifs at stepped with processing
      cases stepped
      exact arrives.handOver covers processing

end Steps

/-! ## Runs -/

theorem Arrives.delivered
    {options : ScriptOptions} {state : DeliveryState}
    (arrives : Arrives options state) (rest : AtRest state) :
    Delivered state := by
  have empty : state.master.log.slot.state = .empty := by
    cases current : state.master.log.slot.state with
    | empty => rfl
    | transceiving =>
        rcases arrives.queues.driven current with scheduled | sending
        · rw [rest.unscheduled] at scheduled
          cases scheduled
        · rw [rest.idle] at sending
          cases sending
  have begun := @begun_of_empty .scriptSlot state.master.log empty
  have everything :
      state.arrived =
        framesOf options (state.master.log.begun .scriptSlot) := by
    have arrived := arrives.onLink
    rw [rest.inFlight, List.append_nil,
      accounts_of_empty arrives.queues.accounts empty] at arrived
    rw [arrived, begun]
    rfl
  have calls :=
    arrives.passes.all everything rest.unsubmitted rest.notProcessing
  rw [begun] at calls
  constructor
  case inOrder => exact calls
  case requested =>
    intro slot requested
    have queued : state.master.queued slot = true := by
      rcases arrives.asked slot requested with waiting | queued
      · rw [rest.toQueue] at waiting
        exact absurd waiting List.not_mem_nil
      · exact queued
    rcases arrives.queues.synchronized.latest empty rest.unscheduled
        rest.idle slot queued with
      ⟨transfer, isLast, _⟩
    have listed := List.mem_filter.mp (List.mem_of_getLast? isLast)
    have named : scriptSlotOf transfer = slot := by simpa using listed.2
    refine ⟨transfer, isLast, ?_⟩
    rw [calls, ← named]
    exact List.mem_map_of_mem listed.1

/--
If no script packet reaches the slave while its script slot is READY or
PROCESSING, every run which comes to rest has passed every requested slot to
`ykb_backlight_set_script_slot`, with the content the master sent.
-/
theorem scripts_delivered
    (options : ScriptOptions) (covers : BitmapCovers options)
    (start : DeliveryState) (begins : DeliveryStart start)
    (events : List DeliveryEvent)
    (accepted : StepsMeet (deliveryStep options) NotRefused start events)
    (finish : DeliveryState)
    (ran : run (deliveryStep options) start events = some finish)
    (rest : AtRest finish) : Delivered finish :=
  have arrives : Arrives options finish :=
    run_preserves_of_stepsMeet (Arrives.step covers) begins.arrives accepted
      ran
  arrives.delivered rest

/-- Two slots of one byte, in packets of at most 24 bytes. -/
def twoSlots : ScriptOptions where
  geometry :=
    { maxPacketSize := 24
      headerFits := by decide
      sumFits := by decide }
  lengthFits := by decide
  outOfOrderTrack := false
  bitmapLength := 32
  keyCountSlave := 30
  kbSettingsSize := 80
  scriptManifestSize := 20
  scriptRequestSize := 3
  scriptSlotPacketSize := 3
  scriptSlotCount := 2
  scriptSlotSize := 1
  packetSize := rfl

/-- Both halves have just been connected. -/
def DeliveryState.initial : DeliveryState where
  master := emptyScripts
  toQueue := []
  inFlight := []
  slave := fun _ => .initial
  arrived := []
  calls := []
  requested := fun _ => false

theorem deliveryStart_initial : DeliveryStart .initial where
  session := ⟨fun _ => rfl, rfl, ⟨rfl, rfl⟩, fun _ => rfl⟩
  toQueue := rfl
  inFlight := rfl
  empty := rfl
  unsubmitted := rfl
  history := ⟨rfl, rfl⟩
  noneRequested := fun _ => rfl

/-- The slave handles the first script before the second one arrives. -/
theorem two_scripts_delivered :
    ∃ finish,
      run (deliveryStep twoSlots) .initial
          [.request ⟨2, fun _ => 3⟩, .queueNext, .queueNext,
            .master .workStart, .master (.send .ok), .master .out, .arrive,
            .process, .handOver, .master .workStart, .master (.send .ok),
            .master .out, .arrive, .process, .handOver] =
        some finish ∧
      finish.requested 1 = true ∧ Delivered finish := by
  have ends :
      ∃ finish ∈
        run (deliveryStep twoSlots) .initial
          [.request ⟨2, fun _ => 3⟩, .queueNext, .queueNext,
            .master .workStart, .master (.send .ok), .master .out, .arrive,
            .process, .handOver, .master .workStart, .master (.send .ok),
            .master .out, .arrive, .process, .handOver],
        AtRest finish ∧ finish.requested 1 = true := by
    decide +kernel
  rcases ends with ⟨finish, ran, rest, requested⟩
  have untracked : BitmapCovers twoSlots :=
    fun impossible => nomatch impossible
  refine ⟨finish, ran, requested, ?_⟩
  exact
    scripts_delivered twoSlots untracked .initial deliveryStart_initial _
      (by decide +kernel) finish ran rest

/-- The second script arrives while the first one waits for its handler. -/
theorem refused_script_is_lost :
    ¬ ∀ (options : ScriptOptions) (start : DeliveryState)
        (events : List DeliveryEvent) (finish : DeliveryState),
      BitmapCovers options → DeliveryStart start →
        run (deliveryStep options) start events = some finish →
          AtRest finish → Delivered finish := by
  intro always
  have ends :
      ∃ finish ∈
        run (deliveryStep twoSlots) .initial
          [.request ⟨2, fun _ => 3⟩, .queueNext, .queueNext,
            .master .workStart, .master (.send .ok), .master .out, .arrive,
            .master .workStart, .master (.send .ok), .master .out, .arrive,
            .process, .handOver],
        AtRest finish ∧ finish.requested 1 = true ∧
          ∀ call ∈ finish.calls, call.slot ≠ 1 := by
    decide +kernel
  rcases ends with ⟨finish, ran, rest, requested, lost⟩
  have untracked : BitmapCovers twoSlots :=
    fun impossible => nomatch impossible
  have delivered :=
    always twoSlots .initial _ finish untracked deliveryStart_initial ran rest
  rcases delivered.requested 1 requested with ⟨transfer, _, called⟩
  exact lost _ called rfl

end YkbFirmware.SplitLink.ScriptDelivery
