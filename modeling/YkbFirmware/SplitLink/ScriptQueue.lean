import YkbFirmware.Library.TransitionSystem
import YkbFirmware.SplitLink.Transmission

/-!
# The script queue of the master

A script slot whose content changed is marked in `script_slot_sync_pending`;
the script tx slot takes the marked slots one after the other and sends their
contents.  Marking, and taking a slot with reading its content and starting
its transfer, happen under one mutex and are single steps here.  The work
handler of the tx slot is three steps: the work queue takes it, it sends a
packet, and if the slot became EMPTY by that it takes the next script.  Any
other code may run between these steps.

The invariant says two things.  A marked slot waits for a busy tx slot, or for
a handler that is about to take the next script.  And a slot which is not
marked, but was queued, has a last transfer begun for it, which carries its
content unless it changed since.
-/

namespace YkbFirmware.SplitLink.ScriptQueue

open YkbFirmware.Library.ByteMemory
open YkbFirmware.Library.TransitionSystem
open YkbFirmware.Protocol.Wire
open YkbFirmware.Protocol.Sender
open YkbFirmware.SplitLink.Slots
open YkbFirmware.SplitLink.TransmitSlot
open YkbFirmware.SplitLink.Transmission

/-! ## Script slots -/

/--
`CONFIG_YKB_BL_SCRIPT_SLOT_COUNT`, which a `uint16_t` index reaches, and the
size of `ykb_backlight_script_slot_t`, which follows the slot index in the
packed `splitlink_script_slot_packet_t`.
-/
structure ScriptOptions extends SplitlinkOptions where
  scriptSlotCount : UInt16
  scriptSlotSize : Nat
  packetSize : scriptSlotPacketSize.toNat = 2 + scriptSlotSize

/-- `splitlink_script_slot_packet_t`; the index is little-endian. -/
def scriptSlotPacket (slot : UInt16) (payload : Memory) : Memory
  | 0 => lowByte slot
  | 1 => highByte slot
  | position + 2 => payload position

/-- `ykb_backlight_get_script_slot`. -/
def ykbBacklightGetScriptSlot
    (options : ScriptOptions) (scripts : UInt16 → Memory) (slot : UInt16) :
    Option Memory :=
  if slot ≥ options.scriptSlotCount then
    none
  else
    some (scripts slot)

/-! ## The master -/

/-- Where `tx_slot_work_handler` of the script slot stands. -/
inductive HandlerPhase where
  | idle
  | sending
  | out
deriving DecidableEq, Repr

/--
The master's scripts, `script_slot_sync_pending`, the script tx slot with its
log, and its handler.  Two fields are history: `queued` marks the slots ever
queued, and `unqueued` those which changed after they were last queued.
-/
structure ScriptState where
  scripts : UInt16 → Memory
  pending : UInt16 → Bool
  log : SlotLog
  phase : HandlerPhase
  queued : UInt16 → Bool
  unqueued : UInt16 → Bool

def scriptSlotSyncMarkPendingLocked
    (options : ScriptOptions) (slot : UInt16) (pending : UInt16 → Bool) :
    UInt16 → Bool :=
  if slot ≥ options.scriptSlotCount then
    pending
  else
    Function.update pending slot true

/-- The slots of the device, in the order the loops of the source run. -/
def ScriptOptions.slots (options : ScriptOptions) : List UInt16 :=
  (List.range options.scriptSlotCount.toNat).map UInt16.ofNat

/-- The slot taken, if one is pending. -/
def scriptSlotSyncTakeNextLocked
    (options : ScriptOptions) (pending : UInt16 → Bool) : Option UInt16 :=
  options.slots.find? pending

/--
`script_slot_sync_kick_locked` with the link connected: the packet is read
and handed to the tx slot only if the slot is not busy.
-/
def kickLocked (options : ScriptOptions) (state : ScriptState) :
    ScriptState :=
  if state.log.slot.state = .transceiving then
    state
  else
    match scriptSlotSyncTakeNextLocked options state.pending with
    | none => state
    | some slot =>
        let packet :=
          (ykbBacklightGetScriptSlot options state.scripts slot).map
            (scriptSlotPacket slot)
        { state with
          pending := Function.update state.pending slot false
          log :=
            { state.log with
              slot :=
                scriptSlotSyncKickLocked options.toSplitlinkOptions true
                  packet state.log.slot } }

def splitlinkSyncQueueScriptSlotSync
    (options : ScriptOptions) (slot : UInt16) (state : ScriptState) :
    ScriptState :=
  if slot ≥ options.scriptSlotCount then
    state
  else
    kickLocked options
      { state with
        pending := scriptSlotSyncMarkPendingLocked options slot state.pending
        queued := Function.update state.queued slot true
        unqueued := Function.update state.unqueued slot false }

/-- A run of `tx_slot_work_handler` up to the label `out`. -/
def transmitScript
    (options : ScriptOptions) (result : SendResult) (state : ScriptState) :
    ScriptState :=
  { state with
    log := state.log.work options.toSplitlinkOptions .scriptSlot result
    phase :=
      if (state.log.worked options.toSplitlinkOptions result).out then
        .out
      else
        .idle }

inductive ScriptEvent where
  /-- The content of a script changes. -/
  | change (slot : UInt16) (content : Memory)
  /-- `splitlink_sync_queue_script_slot_sync`. -/
  | queue (slot : UInt16)
  /-- The work queue takes the work item of the tx slot. -/
  | workStart
  /-- `tx_slot_work_handler` up to the label `out`. -/
  | send (result : SendResult)
  /-- The handler from that label on. -/
  | out

/-- The transport answers 0, `-ENOMEM` or `-EAGAIN`. -/
def scriptStep (options : ScriptOptions) (state : ScriptState) :
    ScriptEvent → Option ScriptState
  | .change slot content =>
      some
        { state with
          scripts := Function.update state.scripts slot content
          unqueued := Function.update state.unqueued slot true }
  | .queue slot =>
      some (splitlinkSyncQueueScriptSlotSync options slot state)
  | .workStart =>
      if state.log.slot.scheduled ∧ state.phase = .idle then
        some { state with log := state.log.dequeue, phase := .sending }
      else
        none
  | .send result =>
      if state.phase = .sending ∧ result ≠ .failed then
        some (transmitScript options result state)
      else
        none
  | .out =>
      if state.phase = .out then
        some (kickLocked options { state with phase := .idle })
      else
        none

/-- The steps of the master, each with the condition it is taken under. -/
inductive ScriptStep (options : ScriptOptions) (state : ScriptState) :
    ScriptEvent → ScriptState → Prop where
  | change (slot : UInt16) (content : Memory) :
      ScriptStep options state (.change slot content)
        { state with
          scripts := Function.update state.scripts slot content
          unqueued := Function.update state.unqueued slot true }
  | queue (slot : UInt16) :
      ScriptStep options state (.queue slot)
        (splitlinkSyncQueueScriptSlotSync options slot state)
  | workStart (idle : state.phase = .idle) :
      ScriptStep options state .workStart
        { state with log := state.log.dequeue, phase := .sending }
  | send {result : SendResult}
      (running : state.phase = .sending) (taken : result ≠ .failed) :
      ScriptStep options state (.send result)
        (transmitScript options result state)
  | out (leaving : state.phase = .out) :
      ScriptStep options state .out
        (kickLocked options { state with phase := .idle })

theorem scriptStep_cases
    {options : ScriptOptions} {state next : ScriptState}
    {event : ScriptEvent}
    (stepped : scriptStep options state event = some next) :
    ScriptStep options state event next := by
  cases event with
  | change slot content =>
      cases stepped
      exact .change slot content
  | queue slot =>
      cases stepped
      exact .queue slot
  | workStart =>
      rw [scriptStep] at stepped
      split_ifs at stepped with ready
      cases stepped
      exact .workStart ready.2
  | send result =>
      rw [scriptStep] at stepped
      split_ifs at stepped with ready
      cases stepped
      exact .send ready.1 ready.2
  | out =>
      rw [scriptStep] at stepped
      split_ifs at stepped with leaving
      cases stepped
      exact .out leaving

/-! ## Transfers for a slot -/

/-- The script slot a transfer is for; its first two bytes name it. -/
def scriptSlotOf (transfer : Transfer) : UInt16 :=
  fieldOfBytes (transfer.payload.getD 0 0) (transfer.payload.getD 1 0)

/-- The last transfer for a script slot in a list. -/
def lastFor (slot : UInt16) (transfers : List Transfer) : Option Transfer :=
  (transfers.filter fun transfer => scriptSlotOf transfer = slot).getLast?

/-- A payload is the index of a slot, then the whole of a script. -/
structure HoldsScript
    (options : ScriptOptions) (slot : UInt16) (content : Memory)
    (payload : List UInt8) : Prop where
  index : payload.take 2 = [lowByte slot, highByte slot]
  script : payload.drop 2 = content.readBlock 0 options.scriptSlotSize

/-- The last transfer for the slot, and its content unless it changed. -/
def Carries
    (options : ScriptOptions) (content : Memory) (changed : Bool)
    (slot : UInt16) (transfers : List Transfer) : Prop :=
  ∃ transfer,
    lastFor slot transfers = some transfer ∧
      (changed = false →
        HoldsScript options slot content transfer.payload)

section Transfers

variable
    {options : ScriptOptions} {slot : UInt16} {content : Memory}
    {changed : Bool} {transfers : List Transfer} {transfer : Transfer}

theorem ScriptOptions.mem_slots :
    slot ∈ options.slots ↔ slot < options.scriptSlotCount := by
  rw [ScriptOptions.slots, List.mem_map, UInt16.lt_iff_toNat_lt]
  constructor
  · rintro ⟨index, member, rfl⟩
    have within := List.mem_range.mp member
    have count := options.scriptSlotCount.toNat_lt
    rw [UInt16.toNat_ofNat', Nat.mod_eq_of_lt (by omega)]
    exact within
  · intro within
    exact ⟨slot.toNat, List.mem_range.mpr within, UInt16.ofNat_toNat⟩

theorem lastFor_concat :
    lastFor slot (transfers ++ [transfer]) =
      if scriptSlotOf transfer = slot then
        some transfer
      else
        lastFor slot transfers := by
  rw [lastFor, List.filter_append, List.filter_singleton]
  split_ifs with own
  · rw [decide_eq_true own, cond_true, List.getLast?_concat]
  · rw [decide_eq_false own, cond_false, List.append_nil]
    rfl

/-- The packed packet is the index, and the script at offset 2. -/
theorem scriptSlotPacket_holds
    (options : ScriptOptions) (slot : UInt16) (content : Memory) :
    HoldsScript options slot content
      ((scriptSlotPacket slot content).readBlock 0
        options.scriptSlotPacketSize.toNat) := by
  have split :
      (scriptSlotPacket slot content).readBlock 0
          options.scriptSlotPacketSize.toNat =
        [lowByte slot, highByte slot] ++
          content.readBlock 0 options.scriptSlotSize := by
    rw [options.packetSize, Memory.readBlock_add]
    congr 1
    apply Memory.readBlock_congr
    intro position _
    rw [Nat.zero_add, Nat.zero_add, Nat.add_comm, scriptSlotPacket]
  rw [split]
  exact ⟨rfl, rfl⟩

/-- The index in a payload is the slot it was assembled for. -/
theorem scriptSlotOf_holds
    (holds : HoldsScript options slot content transfer.payload) :
    scriptSlotOf transfer = slot := by
  have split :
      transfer.payload =
        [lowByte slot, highByte slot] ++ transfer.payload.drop 2 := by
    rw [← holds.index]
    exact (List.take_append_drop 2 _).symm
  rw [scriptSlotOf, split]
  exact fieldOfBytes_low_high slot

/-- A transfer of another slot does not count. -/
theorem Carries.concat
    (carries : Carries options content changed slot transfers)
    (foreign : scriptSlotOf transfer ≠ slot) :
    Carries options content changed slot (transfers ++ [transfer]) := by
  rcases carries with ⟨last, isLast, payload⟩
  refine ⟨last, ?_, payload⟩
  rw [lastFor_concat, if_neg foreign]
  exact isLast

/-- A transfer of the current content is the one that counts. -/
theorem carries_own
    (holds : HoldsScript options slot content transfer.payload) :
    Carries options content changed slot (transfers ++ [transfer]) := by
  refine ⟨transfer, ?_, fun _ => holds⟩
  rw [lastFor_concat, if_pos (scriptSlotOf_holds holds)]

/-- A change leaves the last transfer as it is. -/
theorem Carries.change
    (carries : Carries options content changed slot transfers)
    (newContent : Memory) :
    Carries options newContent true slot transfers := by
  rcases carries with ⟨last, isLast, _⟩
  exact ⟨last, isLast, fun impossible => nomatch impossible⟩

end Transfers

/-! ## What every step keeps -/

/-- A transfer the script tx slot starts. -/
structure IsScript (options : ScriptOptions) (transfer : Transfer) :
    Prop where
  id : transfer.transferId = SlotName.scriptSlot.id
  size : transfer.totalLen = options.scriptSlotPacketSize

/-- The tx slot and what it sent, whatever is pending. -/
structure Sends (options : ScriptOptions) (state : ScriptState) :
    Prop where
  accounts :
    Accounts options.toSplitlinkOptions .scriptSlot state.log
  scripts :
    ∀ transfer ∈ state.log.begun .scriptSlot, IsScript options transfer
  driven :
    state.log.slot.state = .transceiving →
      state.log.slot.scheduled = true ∨ state.phase = .sending
  inRange :
    ∀ slot, state.pending slot = true → slot < options.scriptSlotCount
  carried :
    ∀ slot, state.queued slot = true → state.pending slot = false →
      Carries options (state.scripts slot) (state.unqueued slot) slot
        (state.log.begun .scriptSlot)

/-- A pending slot waits for the tx slot or its handler. -/
structure Queues (options : ScriptOptions) (state : ScriptState) : Prop
    extends Sends options state where
  waits :
    ∀ slot, state.pending slot = true →
      state.log.slot.state = .transceiving ∨ state.phase = .out

/-- A session starts, with the work item and the handler in any state. -/
structure SessionStart (state : ScriptState) : Prop where
  nonePending : ∀ slot, state.pending slot = false
  empty : state.log.slot.state = .empty
  nothingSent : state.log.sent = [] ∧ state.log.finished = []
  noneQueued : ∀ slot, state.queued slot = false

section Steps

variable {options : ScriptOptions} {state next : ScriptState}

theorem SessionStart.queues (start : SessionStart state) :
    Queues options state := by
  have begun : state.log.begun .scriptSlot = [] :=
    (begun_of_empty start.empty).trans start.nothingSent.2
  have idle : state.log.slot.state ≠ .transceiving :=
    notBusy_iff.mpr start.empty
  have unqueued : ∀ slot, state.queued slot ≠ true := by
    intro slot
    rw [start.noneQueued slot]
    exact Bool.false_ne_true
  have settled : ∀ slot, state.pending slot ≠ true := by
    intro slot
    rw [start.nonePending slot]
    exact Bool.false_ne_true
  constructor
  case waits => exact fun slot pending => absurd pending (settled slot)
  constructor
  case accounts =>
    apply Accounts.idle start.empty
    rw [start.nothingSent.1, start.nothingSent.2]
    rfl
  case scripts =>
    rw [begun]
    exact fun _ member => absurd member List.not_mem_nil
  case driven => exact fun busy => absurd busy idle
  case inRange => exact fun slot pending => absurd pending (settled slot)
  case carried => exact fun slot queued => absurd queued (unqueued slot)

/-- The tx slot starts with the script it takes. -/
def startScript
    (options : ScriptOptions) (state : ScriptState) (slot : UInt16) :
    ScriptState :=
  { state with
    pending := Function.update state.pending slot false
    log :=
      state.log.start options.toSplitlinkOptions .scriptSlot
        (scriptSlotPacket slot (state.scripts slot))
        options.scriptSlotPacketSize }

/-- What `script_slot_sync_kick_locked` can do. -/
theorem kickLocked_cases
    (options : ScriptOptions) (state : ScriptState) :
    (kickLocked options state = state ∧
        (state.log.slot.state = .transceiving ∨
          ∀ slot < options.scriptSlotCount, state.pending slot = false)) ∨
      ∃ slot < options.scriptSlotCount,
        state.log.slot.state = .empty ∧ state.pending slot = true ∧
          kickLocked options state = startScript options state slot := by
  rw [kickLocked]
  by_cases busy : state.log.slot.state = .transceiving
  · rw [if_pos busy]
    exact .inl ⟨rfl, .inl busy⟩
  · have empty : state.log.slot.state = .empty := notBusy_iff.mp busy
    rw [if_neg busy]
    cases taken : scriptSlotSyncTakeNextLocked options state.pending with
    | none =>
        refine .inl ⟨rfl, .inr fun slot within => ?_⟩
        have unmarked :=
          List.find?_eq_none.mp taken slot
            (ScriptOptions.mem_slots.mpr within)
        simpa using unmarked
    | some slot =>
        have within : slot < options.scriptSlotCount :=
          ScriptOptions.mem_slots.mp (List.mem_of_find?_eq_some taken)
        have marked : state.pending slot = true :=
          List.find?_some taken
        have read :
            ykbBacklightGetScriptSlot options state.scripts slot =
              some (state.scripts slot) :=
          if_neg (UInt16.not_le.mpr within)
        have begun :=
          @txSlotBeginTransfer_empty options.toSplitlinkOptions .scriptSlot
            state.log.slot options.scriptSlotPacketSize empty UInt16.le_rfl
            (scriptSlotPacket slot (state.scripts slot))
        refine .inr ⟨slot, within, empty, marked, ?_⟩
        dsimp only
        rw [read, Option.map_some, scriptSlotSyncKickLocked, if_neg]
        · rw [begun]
          rfl
        · rintro (impossible | transceiving)
          · cases impossible
          · exact busy transceiving

/-- A script that is taken is current, and no longer pending. -/
theorem Sends.started
    (sends : Sends options state) {slot : UInt16}
    (empty : state.log.slot.state = .empty) :
    Sends options (startScript options state slot) := by
  let transfer :=
    transferOf .scriptSlot
      (startTransfer options.toSplitlinkOptions .scriptSlot state.log.slot
        (scriptSlotPacket slot (state.scripts slot))
        options.scriptSlotPacketSize)
  have holds :
      HoldsScript options slot (state.scripts slot) transfer.payload := by
    rw [startTransfer_payload]
    exact scriptSlotPacket_holds options slot (state.scripts slot)
  have begun :
      (startScript options state slot).log.begun .scriptSlot =
        state.log.begun .scriptSlot ++ [transfer] :=
    begun_start empty _ _
  constructor
  case accounts => exact sends.accounts.start empty _ _
  case scripts =>
    rw [begun]
    intro listed member
    rcases List.mem_append.mp member with earlier | last
    · exact sends.scripts listed earlier
    · rw [List.mem_singleton.mp last]
      exact ⟨rfl, rfl⟩
  case driven => exact fun _ => .inl rfl
  case inRange =>
    intro other marked
    have pending : Function.update state.pending slot false other = true :=
      marked
    by_cases own : other = slot
    · rw [own, Function.update_self] at pending
      cases pending
    · rw [Function.update_of_ne own] at pending
      exact sends.inRange other pending
  case carried =>
    intro other queued settled
    have notPending :
        Function.update state.pending slot false other = false :=
      settled
    rw [begun]
    by_cases own : other = slot
    · subst own
      exact carries_own holds
    · rw [Function.update_of_ne own] at notPending
      apply Carries.concat
      · exact sends.carried other queued notPending
      · rw [scriptSlotOf_holds holds]
        exact Ne.symm own

/-- After a kick every pending slot waits for the busy tx slot. -/
theorem Sends.kick (sends : Sends options state) :
    Queues options (kickLocked options state) := by
  rcases kickLocked_cases options state with
    ⟨same, reason⟩ | ⟨slot, _, empty, _, same⟩
  · rw [same]
    refine ⟨sends, fun slot pending => ?_⟩
    rcases reason with busy | settled
    · exact .inl busy
    · have unmarked := settled slot (sends.inRange slot pending)
      exact absurd (unmarked.symm.trans pending) Bool.false_ne_true
  · rw [same]
    exact ⟨sends.started empty, fun _ _ => .inl rfl⟩

/-- A slot that is queued is marked, or sent at once. -/
theorem Queues.queue
    (queues : Queues options state) (slot : UInt16) :
    Queues options
      (splitlinkSyncQueueScriptSlotSync options slot state) := by
  rw [splitlinkSyncQueueScriptSlotSync]
  split_ifs with outOfRange
  · exact queues
  · rw [scriptSlotSyncMarkPendingLocked, if_neg outOfRange]
    apply Sends.kick
    constructor
    case accounts => exact queues.accounts
    case scripts => exact queues.scripts
    case driven => exact queues.driven
    case inRange =>
      intro other marked
      by_cases own : other = slot
      · rw [own]
        exact UInt16.not_le.mp outOfRange
      · have pending : Function.update state.pending slot true other = true :=
          marked
        rw [Function.update_of_ne own] at pending
        exact queues.inRange other pending
    case carried =>
      intro other queued settled
      by_cases own : other = slot
      · have marked : Function.update state.pending slot true slot = false :=
          own ▸ settled
        rw [Function.update_self] at marked
        cases marked
      · have wasQueued :
            Function.update state.queued slot true other = true :=
          queued
        have wasSettled :
            Function.update state.pending slot true other = false :=
          settled
        rw [Function.update_of_ne own] at wasQueued wasSettled
        dsimp only
        rw [Function.update_of_ne own]
        exact queues.carried other wasQueued wasSettled

/-- The content of a slot changes, and is not queued yet. -/
theorem Queues.change
    (queues : Queues options state) (slot : UInt16) (content : Memory) :
    Queues options
      { state with
        scripts := Function.update state.scripts slot content
        unqueued := Function.update state.unqueued slot true } := by
  constructor
  case waits => exact queues.waits
  constructor
  case accounts => exact queues.accounts
  case scripts => exact queues.scripts
  case driven => exact queues.driven
  case inRange => exact queues.inRange
  case carried =>
    intro other queued settled
    have carries := queues.carried other queued settled
    dsimp only
    by_cases own : other = slot
    · subst own
      rw [Function.update_self, Function.update_self]
      exact carries.change content
    · rw [Function.update_of_ne own, Function.update_of_ne own]
      exact carries

/-- The handler begins while the slot is busy, or has nothing to do. -/
theorem Queues.workStart
    (queues : Queues options state) (idle : state.phase = .idle) :
    Queues options
      { state with log := state.log.dequeue, phase := .sending } := by
  constructor
  case waits =>
    intro slot pending
    rcases queues.waits slot pending with busy | out
    · exact .inl busy
    · rw [idle] at out
      cases out
  constructor
  case accounts => exact queues.accounts.dequeue
  case scripts => exact queues.scripts
  case driven => exact fun _ => .inr rfl
  case inRange => exact queues.inRange
  case carried => exact queues.carried

/-- The handler keeps the slot going, or is about to take a script. -/
theorem Queues.send
    (queues : Queues options state) (running : state.phase = .sending)
    {result : SendResult} (taken : result ≠ .failed) :
    Queues options (transmitScript options result state) := by
  rw [transmitScript]
  have worked := work_worked queues.accounts taken
  have accounts := worked.accounts queues.accounts
  have begun := worked.begun
  generalize
    state.log.work options.toSplitlinkOptions .scriptSlot result = log
      at worked accounts begun ⊢
  generalize
    (state.log.worked options.toSplitlinkOptions result).out = out
      at worked ⊢
  have busy :
      ∀ slot, state.pending slot = true →
        state.log.slot.state = .transceiving := by
    intro slot pending
    rcases queues.waits slot pending with busy | out
    · exact busy
    · rw [running] at out
      cases out
  constructor
  case toSends =>
    constructor
    case accounts => exact accounts
    case scripts => exact begun ▸ queues.scripts
    case driven =>
      intro transceiving
      cases worked with
      | skipped empty =>
          exact absurd transceiving (notBusy_iff.mpr empty)
      | going _ _ scheduled => exact .inl scheduled
      | done _ empty =>
          exact absurd transceiving (notBusy_iff.mpr empty)
    case inRange => exact queues.inRange
    case carried => exact begun ▸ queues.carried
  case waits =>
    intro slot pending
    cases worked with
    | skipped => exact .inl (busy slot pending)
    | going _ transmits => exact .inl transmits.state
    | done => exact .inr rfl

theorem Queues.step
    {event : ScriptEvent} (queues : Queues options state)
    (stepped : scriptStep options state event = some next) :
    Queues options next := by
  cases scriptStep_cases stepped with
  | change slot content => exact queues.change slot content
  | queue slot => exact queues.queue slot
  | workStart idle => exact queues.workStart idle
  | send running taken => exact queues.send running taken
  | out leaving =>
      apply Sends.kick
      have driven :
          state.log.slot.state = .transceiving →
            state.log.slot.scheduled = true ∨
              HandlerPhase.idle = .sending := by
        intro busy
        rcases queues.driven busy with scheduled | sending
        · exact .inl scheduled
        · rw [leaving] at sending
          cases sending
      exact { queues.toSends with driven := driven }

end Steps

/-! ## Runs -/

/--
Every pending slot is on its way, and at rest every content arrived.  A
handler whose packet is taken puts the next one of its transfer on the link.
-/
structure Synchronized (options : ScriptOptions) (state : ScriptState) :
    Prop where
  driven :
    ∀ slot, state.pending slot = true →
      state.log.slot.scheduled = true ∨ state.phase ≠ .idle
  onLink :
    state.log.slot.state = .empty →
      state.log.sent =
        state.log.finished.flatMap
          (completeFrames options.toSplitlinkOptions)
  latest :
    state.log.slot.state = .empty →
      state.log.slot.scheduled = false → state.phase = .idle →
        ∀ slot, state.queued slot = true →
          Carries options (state.scripts slot) (state.unqueued slot) slot
            state.log.finished
  sends :
    state.log.slot.state = .transceiving →
      ∃ index <
          (transferOf .scriptSlot state.log.slot).count options.geometry,
        state.log.sent =
            state.log.finished.flatMap
                (completeFrames options.toSplitlinkOptions) ++
              (List.range index).map
                (frameAt options.geometry
                  (transferOf .scriptSlot state.log.slot)) ∧
          (transmitScript options .ok state).log.sent =
            state.log.sent ++
              [frameAt options.geometry
                (transferOf .scriptSlot state.log.slot) index]

theorem Queues.synchronized
    {options : ScriptOptions} {state : ScriptState}
    (queues : Queues options state) : Synchronized options state := by
  constructor
  case driven =>
    intro slot pending
    rcases queues.waits slot pending with busy | out
    · rcases queues.driven busy with scheduled | sending
      · exact .inl scheduled
      · right
        rw [sending]
        exact HandlerPhase.noConfusion
    · right
      rw [out]
      exact HandlerPhase.noConfusion
  case onLink => exact accounts_of_empty queues.accounts
  case latest =>
    intro empty _ idle slot queued
    have settled : state.pending slot = false := by
      by_contra pending
      rcases queues.waits slot (by simpa using pending) with busy | out
      · exact notBusy_iff.mpr empty busy
      · exact HandlerPhase.noConfusion (idle.symm.trans out)
    have carries := queues.carried slot queued settled
    rw [begun_of_empty empty] at carries
    exact carries
  case sends => exact work_ok queues.accounts

/--
In every run of a session whose transport answers 0, `-ENOMEM` or `-EAGAIN`,
a pending slot keeps the handler of the script tx slot scheduled or running.
While the tx slot is EMPTY, the link has the packets of whole transfers; with
no work left, every queued slot has a last transfer, which carries its content
if its last change was queued.
-/
theorem script_queue_synchronized
    (options : ScriptOptions) (start : ScriptState)
    (begins : SessionStart start) (events : List ScriptEvent)
    (finish : ScriptState)
    (ran : run (scriptStep options) start events = some finish) :
    Synchronized options finish :=
  have queues : Queues options finish :=
    run_preserves (fun _ _ _ queues stepped => queues.step stepped)
      begins.queues ran
  queues.synchronized

/-- Eight slots of 78 bytes. -/
def eightSlots : ScriptOptions where
  toSplitlinkOptions := twoPacketOptions false
  scriptSlotCount := 8
  scriptSlotSize := 78
  packetSize := rfl

/-- A session begins with empty scripts. -/
def emptyScripts : ScriptState where
  scripts := fun _ => Memory.zero
  pending := fun _ => false
  log := ⟨.initial, [], []⟩
  phase := .idle
  queued := fun _ => false
  unqueued := fun _ => false

/--
Slot 3 changes again while its first transfer is in progress; both contents
are sent, the second one last.
-/
theorem changed_script_is_sent_again :
    ∃ finish,
      run (scriptStep eightSlots) emptyScripts
          [.change 3 fun _ => 1, .queue 3, .workStart, .send .ok,
            .change 3 fun _ => 2, .queue 3, .workStart, .send .eagain,
            .workStart, .send .ok, .out, .workStart, .send .ok, .workStart,
            .send .ok, .out] =
        some finish ∧
      Synchronized eightSlots finish ∧
      finish.log.slot.state = .empty ∧
      finish.log.finished.map Transfer.payload =
        [[3, 0] ++ List.replicate 78 1, [3, 0] ++ List.replicate 78 2] :=
  ⟨_, rfl,
    script_queue_synchronized eightSlots emptyScripts
      ⟨fun _ => rfl, rfl, ⟨rfl, rfl⟩, fun _ => rfl⟩
      [.change 3 fun _ => 1, .queue 3, .workStart, .send .ok,
        .change 3 fun _ => 2, .queue 3, .workStart, .send .eagain,
        .workStart, .send .ok, .out, .workStart, .send .ok, .workStart,
        .send .ok, .out]
      _ rfl,
    rfl, by decide +kernel⟩

end YkbFirmware.SplitLink.ScriptQueue
