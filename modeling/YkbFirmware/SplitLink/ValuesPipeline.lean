import YkbFirmware.Library.TransitionSystem
import YkbFirmware.SplitLink.Transmission

/-!
# The value pipeline of the slave

Key values of the slave pass three stages on their way to the master: the
static array with its `send_values_pending` flag, the pending copy, and the
values slot.  Each stage keeps one array only, so an update may overtake an
older one, but the newest is never lost: it is in the last stage that is
filled, and every stage that is filled is on its way to the next.

The link stays connected, and calls and handler runs are single steps.
-/

namespace YkbFirmware.SplitLink.ValuesPipeline

open YkbFirmware.Library.ByteMemory
open YkbFirmware.Library.TransitionSystem
open YkbFirmware.Protocol.Sender
open YkbFirmware.Protocol.Wire
open YkbFirmware.SplitLink.Slots
open YkbFirmware.SplitLink.TransmitSlot
open YkbFirmware.SplitLink.Transmission

/-! ## The slave -/

/--
The options of a split slave: it has keys, by an assertion of the source, and
their values have the 16-bit size `max_data_length` holds.
-/
structure SlaveOptions extends SplitlinkOptions where
  positive : 0 < keyCountSlave
  valuesFit : 2 * keyCountSlave < 2 ^ 16

/-- `CONFIG_KB_SETTINGS_KEY_COUNT_SLAVE` as the `uint16_t` argument it is. -/
def SlaveOptions.count (options : SlaveOptions) : UInt16 :=
  UInt16.ofNat options.keyCountSlave

/-- The bytes of an array of values. -/
def SlaveOptions.size (options : SlaveOptions) : Nat :=
  2 * options.keyCountSlave

/-- Their size as the slot and the protocol hold it. -/
def SlaveOptions.sizeBytes (options : SlaveOptions) : UInt16 :=
  options.maxDataLength .values

/--
The static variables of `splitlink_sync_slave.c`, the values slot with its
log, and the pending copy.  `updates` lists the arrays of the accepted
updates, oldest first.
-/
structure ValuesState where
  values : Memory
  sendValuesPending : Bool
  sendValuesScheduled : Bool
  log : SlotLog
  pending : PendingTx
  updates : List (List UInt8)

def ValuesState.initial : ValuesState where
  values := Memory.zero
  sendValuesPending := false
  sendValuesScheduled := false
  log := ⟨.initial, [], []⟩
  pending := ⟨Memory.zero, 0, false⟩
  updates := []

def ValuesState.side (state : ValuesState) : TxSide :=
  ⟨state.log.slot, state.pending⟩

def ValuesState.withSide (state : ValuesState) (side : TxSide) :
    ValuesState :=
  { state with
    log := { state.log with slot := side.slot }
    pending := side.pending }

/-- The copy into the static array. -/
def storeValues
    (options : SlaveOptions) (newValues : Memory) (count : UInt16)
    (state : ValuesState) : ValuesState :=
  { state with
    values := state.values.writeBlock 0 (count.toNat * 2) newValues
    updates := state.updates ++ [newValues.readBlock 0 options.size] }

def splitlinkSyncSlaveUpdateValues (options : SlaveOptions) :
    Option Memory → UInt16 → ValuesState → ValuesState
  | none, _, state => state
  | some newValues, count, state =>
      if count ≠ options.count then
        state
      else if state.sendValuesPending then
        storeValues options newValues count state
      else
        { storeValues options newValues count state with
          sendValuesPending := true
          sendValuesScheduled := true }

/-- A run of `send_values_work_handler`. -/
def sendValuesWorkHandler
    (options : SlaveOptions) (state : ValuesState) : ValuesState :=
  { state with
    sendValuesPending := false
    sendValuesScheduled := false }.withSide
    (splitlinkSyncSendValues options.toSplitlinkOptions true state.values
      options.count state.side)

/-- A run of `tx_slot_work_handler` of the values slot. -/
def transmitValues
    (options : SlaveOptions) (result : SendResult) (state : ValuesState) :
    ValuesState :=
  let log : SlotLog := state.log.dequeue
  let worked :=
    { state with
      log := log.work options.toSplitlinkOptions .values result }
  if (log.worked options.toSplitlinkOptions result).out then
    worked.withSide
      (txSlotOut options.toSplitlinkOptions .values true none worked.side)
  else
    worked

inductive ValuesEvent where
  | updateValues (newValues : Option Memory) (count : UInt16)
  | sendValues
  | transmit (result : SendResult)

/-- The transport answers 0, `-ENOMEM` or `-EAGAIN`. -/
def valuesStep
    (options : SlaveOptions) (state : ValuesState) :
    ValuesEvent → Option ValuesState
  | .updateValues newValues count =>
      some (splitlinkSyncSlaveUpdateValues options newValues count state)
  | .sendValues =>
      if state.sendValuesScheduled then
        some (sendValuesWorkHandler options state)
      else
        none
  | .transmit result =>
      if state.log.slot.scheduled ∧ result ≠ .failed then
        some (transmitValues options result state)
      else
        none

/-! ## The stages -/

/-- The array in the pending copy. -/
def pendingArray (pending : PendingTx) : List UInt8 :=
  pending.data.readBlock 0 pending.length.toNat

/-- The array in the values slot. -/
def slotArray (log : SlotLog) : List UInt8 :=
  (transferOf .values log.slot).payload

/-- The newest array that left the static one. -/
def newestSent (log : SlotLog) (pending : PendingTx) :
    Option (List UInt8) :=
  if pending.ready then
    some (pendingArray pending)
  else
    (log.begun .values).getLast?.map Transfer.payload

/-- The first stage: the flag and the static array. -/
structure Stored
    (options : SlaveOptions) (values : Memory)
    (pending scheduled : Bool) (updates : List (List UInt8)) : Prop where
  scheduled : pending = scheduled
  updated : pending = true → updates ≠ []
  newest :
    updates ≠ [] →
      updates.getLast? = some (values.readBlock 0 options.size)

/-- The later stages: the pending copy and the slot. -/
structure Staged
    (options : SlaveOptions) (log : SlotLog) (pending : PendingTx)
    (updates : List (List UInt8)) : Prop where
  accounts : Accounts options.toSplitlinkOptions .values log
  driven : log.slot.state = .transceiving → log.slot.scheduled = true
  copyWaits : pending.ready = true → log.slot.state = .transceiving
  finishedUpdated :
    ∀ transfer ∈ log.finished, transfer.payload ∈ updates
  slotUpdated : log.slot.state = .transceiving → slotArray log ∈ updates
  copyUpdated : pending.ready = true → pendingArray pending ∈ updates

/-- What every step keeps. -/
structure Flows (options : SlaveOptions) (state : ValuesState) : Prop where
  stored :
    Stored options state.values state.sendValuesPending
      state.sendValuesScheduled state.updates
  staged : Staged options state.log state.pending state.updates
  fresh :
    state.sendValuesPending = false → state.updates ≠ [] →
      newestSent state.log state.pending = state.updates.getLast?

section Stages

variable
    {options : SlaveOptions} {log next : SlotLog} {pending : PendingTx}
    {updates : List (List UInt8)}

theorem newestSent_copy (ready : pending.ready = true) :
    newestSent log pending = some (pendingArray pending) :=
  if_pos ready

theorem newestSent_link
    (noCopy : pending.ready = false) :
    newestSent log pending =
      (log.begun .values).getLast?.map Transfer.payload := by
  rw [newestSent, noCopy, if_neg Bool.false_ne_true]

/-- A transfer which starts carries the newest array. -/
theorem newestSent_start
    (noCopy : pending.ready = false) (empty : log.slot.state = .empty)
    (data : Memory) (dataLen : UInt16) :
    newestSent
        (log.start options.toSplitlinkOptions .values data dataLen)
        pending =
      some (data.readBlock 0 dataLen.toNat) := by
  rw [newestSent_link noCopy, begun_start empty, List.getLast?_concat,
    Option.map_some, startTransfer_payload]

/-- The handler of the slot moves no array to another stage. -/
theorem newestSent_worked
    {out : Bool}
    (worked : Worked options.toSplitlinkOptions .values log next out) :
    newestSent next pending = newestSent log pending := by
  rw [newestSent, newestSent, worked.begun]

theorem Staged.noCopy
    (staged : Staged options log pending updates)
    (empty : log.slot.state = .empty) : pending.ready = false := by
  by_contra ready
  have busy := staged.copyWaits (by simpa using ready)
  exact notBusy_iff.mpr empty busy

/-- The updates grow. -/
theorem Staged.grow
    (staged : Staged options log pending updates)
    (more : List (List UInt8)) :
    Staged options log pending (updates ++ more) where
  accounts := staged.accounts
  driven := staged.driven
  copyWaits := staged.copyWaits
  finishedUpdated := fun transfer member =>
    List.mem_append_left more (staged.finishedUpdated transfer member)
  slotUpdated := fun busy =>
    List.mem_append_left more (staged.slotUpdated busy)
  copyUpdated := fun ready =>
    List.mem_append_left more (staged.copyUpdated ready)

/-- A copy is made while the slot is busy. -/
theorem Staged.copy
    (staged : Staged options log pending updates)
    (busy : log.slot.state = .transceiving) {copy : PendingTx}
    (listed : pendingArray copy ∈ updates) :
    Staged options log copy updates where
  accounts := staged.accounts
  driven := staged.driven
  copyWaits := fun _ => busy
  finishedUpdated := staged.finishedUpdated
  slotUpdated := staged.slotUpdated
  copyUpdated := fun _ => listed

/-- A transfer starts on the EMPTY slot, and no copy waits. -/
theorem Staged.start
    (accounts : Accounts options.toSplitlinkOptions .values log)
    (empty : log.slot.state = .empty)
    (finishedUpdated :
      ∀ transfer ∈ log.finished, transfer.payload ∈ updates)
    {data : Memory} {dataLen : UInt16}
    (listed : data.readBlock 0 dataLen.toNat ∈ updates)
    (noCopy : pending.ready = false) :
    Staged options
      (log.start options.toSplitlinkOptions .values data dataLen) pending
      updates where
  accounts := accounts.start empty data dataLen
  driven := fun _ => rfl
  copyWaits := fun _ => rfl
  finishedUpdated := finishedUpdated
  slotUpdated := fun _ => by
    rw [slotArray, SlotLog.start, startTransfer_payload]
    exact listed
  copyUpdated := fun ready =>
    absurd (noCopy.symm.trans ready) Bool.false_ne_true

end Stages

section Steps

variable
    {options : SlaveOptions} {state next : ValuesState}

theorem SlaveOptions.count_toNat (options : SlaveOptions) :
    options.count.toNat = options.keyCountSlave := by
  have fits := options.valuesFit
  rw [SlaveOptions.count, UInt16.toNat_ofNat', Nat.mod_eq_of_lt (by omega)]

theorem SlaveOptions.count_size (options : SlaveOptions) :
    options.count.toNat * 2 = options.size := by
  rw [options.count_toNat, Nat.mul_comm, SlaveOptions.size]

theorem SlaveOptions.sizeBytes_toNat (options : SlaveOptions) :
    options.sizeBytes.toNat = options.size :=
  (UInt16.toNat_ofNat' ..).trans (Nat.mod_eq_of_lt options.valuesFit)

theorem flows_initial (options : SlaveOptions) :
    Flows options .initial where
  stored :=
    { scheduled := rfl
      updated := fun impossible => nomatch impossible
      newest := fun impossible => absurd rfl impossible }
  staged :=
    { accounts := .idle rfl rfl
      driven := fun impossible => nomatch impossible
      copyWaits := fun impossible => nomatch impossible
      finishedUpdated := fun _ impossible => nomatch impossible
      slotUpdated := fun impossible => nomatch impossible
      copyUpdated := fun impossible => nomatch impossible }
  fresh := fun _ impossible => absurd rfl impossible

/-- An accepted update is stored, and its sending scheduled. -/
theorem update_cases
    (flows : Flows options state) (newValues : Option Memory)
    (count : UInt16) :
    splitlinkSyncSlaveUpdateValues options newValues count state = state ∨
      ∃ stored,
        splitlinkSyncSlaveUpdateValues options newValues count state =
          { storeValues options stored options.count state with
            sendValuesPending := true
            sendValuesScheduled := true } := by
  cases newValues with
  | none => exact .inl rfl
  | some newValues =>
      by_cases refused : count ≠ options.count
      · exact .inl (if_pos refused)
      · have accepted : count = options.count := not_not.mp refused
        right
        refine ⟨newValues, (if_neg refused).trans ?_⟩
        rw [accepted]
        by_cases pending : state.sendValuesPending = true
        · have scheduled : state.sendValuesScheduled = true :=
            flows.stored.scheduled ▸ pending
          rw [if_pos pending]
          simp only [storeValues]
          rw [pending, scheduled]
        · exact if_neg pending

/-- An update fills the first stage. -/
theorem Flows.update
    (flows : Flows options state) (newValues : Option Memory)
    (count : UInt16) :
    Flows options
      (splitlinkSyncSlaveUpdateValues options newValues count state) := by
  rcases update_cases flows newValues count with same | ⟨array, same⟩
  · rw [same]
    exact flows
  · rw [same]
    constructor
    case stored =>
      constructor
      case scheduled => rfl
      case updated =>
        intro _
        exact List.append_ne_nil_of_right_ne_nil _ (List.cons_ne_nil _ _)
      case newest =>
        intro _
        simp only [storeValues]
        rw [List.getLast?_concat, options.count_size,
          Memory.readBlock_writeBlock]
    case staged => exact flows.staged.grow _
    case fresh => exact fun impossible => nomatch impossible

/-- What the handler of the first stage does with its array. -/
theorem sendValues_eq (side : TxSide) (values : Memory) :
    splitlinkSyncSendValues options.toSplitlinkOptions true values
        options.count side =
      if side.slot.state = .transceiving then
        { side with
          pending :=
            ⟨side.pending.data.writeBlock 0 options.size values,
              options.sizeBytes, true⟩ }
      else
        { side with
          slot :=
            startTransfer options.toSplitlinkOptions .values side.slot
              values options.sizeBytes } := by
  have nonempty : options.count ≠ 0 := by
    intro none
    have zero := options.count_toNat
    rw [none] at zero
    exact absurd zero.symm options.positive.ne'
  have bytes :
      UInt16.ofNat (options.count.toNat * 2) = options.sizeBytes := by
    rw [options.count_size]
    rfl
  rw [splitlinkSyncSendValues, if_neg nonempty, if_neg (by decide), bytes]
  dsimp only
  split_ifs with busy exceeds
  · rw [options.sizeBytes_toNat, SlaveOptions.size] at exceeds
    exact absurd exceeds (Nat.lt_irrefl _)
  · rw [options.sizeBytes_toNat]
  · have idle : side.slot.state = .empty := notBusy_iff.mp busy
    have begun :=
      @txSlotBeginTransfer_empty options.toSplitlinkOptions .values
        side.slot options.sizeBytes idle UInt16.le_rfl values
    rw [begun, Option.getD_some]

/-- Sending moves the newest array to the second stage, or to the third. -/
theorem Flows.send
    (flows : Flows options state)
    (scheduled : state.sendValuesScheduled = true) :
    Flows options (sendValuesWorkHandler options state) := by
  have some : state.updates ≠ [] :=
    flows.stored.updated (flows.stored.scheduled.trans scheduled)
  have newest := flows.stored.newest some
  have listed :
      state.values.readBlock 0 options.size ∈ state.updates :=
    List.mem_of_getLast? newest
  have stored :
      Stored options state.values false false state.updates :=
    { scheduled := rfl
      updated := fun impossible => nomatch impossible
      newest := flows.stored.newest }
  rw [sendValuesWorkHandler, sendValues_eq]
  by_cases busy : state.side.slot.state = .transceiving
  · let copy : PendingTx :=
      ⟨state.pending.data.writeBlock 0 options.size state.values,
        options.sizeBytes, true⟩
    have copied :
        pendingArray copy = state.values.readBlock 0 options.size := by
      rw [pendingArray, options.sizeBytes_toNat, Memory.readBlock_writeBlock]
    have staged : Staged options state.log copy state.updates := by
      apply flows.staged.copy busy
      rw [copied]
      exact listed
    have sent : newestSent state.log copy = state.updates.getLast? := by
      rw [newestSent_copy rfl, copied, newest]
    rw [if_pos busy]
    exact ⟨stored, staged, fun _ _ => sent⟩
  · have empty : state.log.slot.state = .empty := notBusy_iff.mp busy
    have noCopy := flows.staged.noCopy empty
    let started :=
      state.log.start options.toSplitlinkOptions .values state.values
        options.sizeBytes
    have staged : Staged options started state.pending state.updates := by
      apply
        Staged.start flows.staged.accounts empty
          flows.staged.finishedUpdated _ noCopy
      rw [options.sizeBytes_toNat]
      exact listed
    have sent :
        newestSent started state.pending = state.updates.getLast? := by
      rw [newestSent_start noCopy empty, options.sizeBytes_toNat, newest]
    rw [if_neg busy]
    exact ⟨stored, staged, fun _ _ => sent⟩

/-- The end of a transfer hands the slot to the waiting copy. -/
theorem Flows.handOver
    (flows : Flows options state) {log : SlotLog}
    (accounts : Accounts options.toSplitlinkOptions .values log)
    (empty : log.slot.state = .empty)
    (finishedUpdated :
      ∀ transfer ∈ log.finished, transfer.payload ∈ state.updates)
    (kept :
      newestSent log state.pending = newestSent state.log state.pending) :
    Flows options
      ({ state with log := log }.withSide
        (txSlotOut options.toSplitlinkOptions .values true none
          ⟨log.slot, state.pending⟩)) := by
  rw [txSlotOut]
  dsimp only
  by_cases ready : state.pending.ready = true
  · let taken : PendingTx := { state.pending with ready := false }
    let started :=
      log.start options.toSplitlinkOptions .values state.pending.data
        state.pending.length
    have staged : Staged options started taken state.updates :=
      Staged.start accounts empty finishedUpdated
        (flows.staged.copyUpdated ready) rfl
    have sent :
        newestSent started taken =
          newestSent state.log state.pending := by
      rw [newestSent_start rfl empty, newestSent_copy ready]
      rfl
    rw [if_pos ⟨ready, empty⟩]
    exact
      ⟨flows.stored, staged, fun quiet some =>
        sent.trans (flows.fresh quiet some)⟩
  · have idle : log.slot.state ≠ .transceiving := notBusy_iff.mpr empty
    have staged : Staged options log state.pending state.updates := by
      constructor
      case accounts => exact accounts
      case driven => exact fun busy => absurd busy idle
      case copyWaits => exact fun impossible => absurd impossible ready
      case finishedUpdated => exact finishedUpdated
      case slotUpdated => exact fun busy => absurd busy idle
      case copyUpdated => exact fun impossible => absurd impossible ready
    rw [if_neg fun both => ready both.1]
    exact
      ⟨flows.stored, staged, fun quiet some =>
        kept.trans (flows.fresh quiet some)⟩

/-- A run of the slot's handler passes a stage on, or keeps all stages. -/
theorem Flows.transmit
    (flows : Flows options state) {result : SendResult}
    (taken : result ≠ .failed) :
    Flows options (transmitValues options result state) := by
  have running := flows.staged.accounts.dequeue
  have worked := work_worked running taken
  have accounts := worked.accounts running
  have kept :
      newestSent
          (state.log.dequeue.work options.toSplitlinkOptions .values result)
          state.pending =
        newestSent state.log.dequeue state.pending :=
    newestSent_worked worked
  rw [transmitValues]
  generalize
    state.log.dequeue.work options.toSplitlinkOptions .values result = log
      at worked accounts kept ⊢
  generalize
    (state.log.dequeue.worked options.toSplitlinkOptions result).out = out
      at worked ⊢
  cases worked with
  | skipped empty =>
      have staged := flows.staged
      have driven :
          state.log.dequeue.slot.state = .transceiving → false = true :=
        fun busy => absurd busy (notBusy_iff.mpr empty)
      rw [if_neg Bool.false_ne_true]
      exact
        ⟨flows.stored,
          { staged with
            accounts := accounts
            driven := driven
            slotUpdated := staged.slotUpdated },
          flows.fresh⟩
  | going busy transmits scheduled transfer sent finished =>
      have same : slotArray log = slotArray state.log :=
        congrArg Transfer.payload transfer
      have staged : Staged options log state.pending state.updates := by
        constructor
        case accounts => exact accounts
        case driven => exact fun _ => scheduled
        case copyWaits => exact fun _ => transmits.state
        case finishedUpdated => exact finished ▸ flows.staged.finishedUpdated
        case slotUpdated =>
          intro _
          rw [same]
          exact flows.staged.slotUpdated busy
        case copyUpdated => exact flows.staged.copyUpdated
      rw [if_neg Bool.false_ne_true]
      exact
        ⟨flows.stored, staged, fun quiet some =>
          kept.trans (flows.fresh quiet some)⟩
  | done busy empty _ sent finished =>
      have finishedUpdated :
          ∀ transfer ∈ log.finished, transfer.payload ∈ state.updates := by
        rw [finished]
        intro transfer member
        rcases List.mem_append.mp member with earlier | last
        · exact flows.staged.finishedUpdated transfer earlier
        · rw [List.mem_singleton.mp last]
          exact flows.staged.slotUpdated busy
      rw [if_pos rfl]
      exact flows.handOver accounts empty finishedUpdated kept

theorem Flows.step
    {event : ValuesEvent} (flows : Flows options state)
    (stepped : valuesStep options state event = some next) :
    Flows options next := by
  cases event with
  | updateValues newValues count =>
      cases stepped
      exact flows.update newValues count
  | sendValues =>
      rw [valuesStep] at stepped
      split_ifs at stepped with scheduled
      cases stepped
      exact flows.send scheduled
  | transmit result =>
      rw [valuesStep] at stepped
      split_ifs at stepped with ready
      cases stepped
      exact flows.transmit ready.2

/-! ## Progress -/

/-- Packets of the slot and of the waiting copy which are still to be sent. -/
def packetsLeft (options : SlaveOptions) (state : ValuesState) : Nat :=
  state.log.packetsLeft options.toSplitlinkOptions .values +
    if state.pending.ready then
      (slotTransfer .values state.pending.data
        state.pending.length).count options.geometry
    else
      0

/-- The waiting copy only moves to the slot. -/
theorem packetsLeft_handOver
    {log : SlotLog}
    (accounts : Accounts options.toSplitlinkOptions .values log)
    (empty : log.slot.state = .empty) :
    packetsLeft options
        ({ state with log := log }.withSide
          (txSlotOut options.toSplitlinkOptions .values true none
            ⟨log.slot, state.pending⟩)) =
      packetsLeft options { state with log := log } := by
  rw [txSlotOut]
  dsimp only
  by_cases ready : state.pending.ready = true
  · have started :=
      packetsLeft_start accounts empty state.pending.data
        state.pending.length
    rw [if_pos ⟨ready, empty⟩, packetsLeft, packetsLeft, if_pos ready,
      if_neg (by exact Bool.false_ne_true), Nat.add_zero]
    exact started
  · rw [if_neg fun both => ready both.1]
    rfl

/-- The handler leaves the updates and the first stage alone. -/
theorem transmitValues_first
    (options : SlaveOptions) (result : SendResult) (state : ValuesState) :
    (transmitValues options result state).updates = state.updates ∧
      (transmitValues options result state).sendValuesPending =
        state.sendValuesPending := by
  rw [transmitValues]
  split_ifs <;> exact ⟨rfl, rfl⟩

/-- What the handler puts on the link is what its run on the log does. -/
theorem transmitValues_sent
    (options : SlaveOptions) (result : SendResult) (state : ValuesState) :
    (transmitValues options result state).log.sent =
      (state.log.dequeue.work options.toSplitlinkOptions .values
        result).sent := by
  rw [transmitValues]
  split_ifs <;> rfl

/-- A run whose packet the transport takes leaves one packet less. -/
theorem Flows.transmit_ok
    (flows : Flows options state)
    (busy : state.log.slot.state = .transceiving) :
    packetsLeft options (transmitValues options .ok state) <
      packetsLeft options state := by
  have running := flows.staged.accounts.dequeue
  have taken : SendResult.ok ≠ .failed := SendResult.noConfusion
  have worked := work_worked running taken
  have accounts := worked.accounts running
  have less := packetsLeft_work running busy
  have drops :
      packetsLeft options
          { state with
            log :=
              state.log.dequeue.work options.toSplitlinkOptions .values
                .ok } <
        packetsLeft options state :=
    Nat.add_lt_add_right less _
  rw [transmitValues]
  generalize
    state.log.dequeue.work options.toSplitlinkOptions .values .ok = log
      at worked accounts drops ⊢
  generalize
    (state.log.dequeue.worked options.toSplitlinkOptions .ok).out = out
      at worked ⊢
  cases worked with
  | skipped empty => exact absurd busy (notBusy_iff.mpr empty)
  | going => exact drops
  | done _ empty =>
      rw [if_pos rfl]
      exact (packetsLeft_handOver accounts empty).trans_lt drops

/-- Runs of the handler whose packets are taken empty the slot. -/
theorem Flows.drains (flows : Flows options state) :
    ∃ count ≤ packetsLeft options state, ∃ final,
      run (valuesStep options) state
          (List.replicate count (.transmit .ok)) =
        some final ∧
      (Flows options final ∧ final.updates = state.updates ∧
        final.sendValuesPending = state.sendValuesPending) ∧
      final.log.slot.state = .empty := by
  refine
    run_replicate_reaches (packetsLeft options) (fun middle kept busy => ?_)
      ⟨flows, rfl, rfl⟩
  rcases kept with ⟨flows, updates, pending⟩
  have transceiving : middle.log.slot.state = .transceiving :=
    not_not.mp (mt notBusy_iff.mp busy)
  have scheduled := flows.staged.driven transceiving
  have taken : SendResult.ok ≠ .failed := SendResult.noConfusion
  have first := transmitValues_first options .ok middle
  refine
    ⟨transmitValues options .ok middle, if_pos ⟨scheduled, taken⟩,
      ⟨flows.transmit taken, first.1.trans updates,
        first.2.trans pending⟩,
      flows.transmit_ok transceiving⟩

end Steps

/-! ## Runs -/

/-- The last transfer sent, if there is an update, carries the latest one. -/
def LatestSent (state : ValuesState) : Prop :=
  ∀ update, state.updates.getLast? = some update →
    ∃ transfer,
      state.log.finished.getLast? = some transfer ∧
        transfer.payload = update

/--
The packets on the link, the arrays they carry, and what is under way.  No
stage stalls: a run of the handler whose packet is taken puts the next one on
the link, and the handlers by themselves send all that is pending.
-/
structure Pipeline (options : SlaveOptions) (state : ValuesState) :
    Prop where
  driven :
    state.log.slot.state = .transceiving → state.log.slot.scheduled = true
  copyWaits :
    state.pending.ready = true → state.log.slot.state = .transceiving
  onLink :
    ∃ index,
      state.log.sent =
          state.log.finished.flatMap
              (completeFrames options.toSplitlinkOptions) ++
            (List.range index).map
              (frameAt options.geometry
                (transferOf .values state.log.slot)) ∧
        (state.log.slot.state = .empty → index = 0) ∧
          (state.log.slot.state = .transceiving →
            index <
              (transferOf .values state.log.slot).count options.geometry)
  finishedUpdated :
    ∀ transfer ∈ state.log.finished, transfer.payload ∈ state.updates
  currentUpdated :
    state.log.slot.state = .transceiving →
      (transferOf .values state.log.slot).payload ∈ state.updates
  latest :
    state.sendValuesPending = false → state.pending.ready = false →
      state.log.slot.state = .empty → LatestSent state
  sends :
    state.log.slot.state = .transceiving →
      ∃ index < (transferOf .values state.log.slot).count options.geometry,
        state.log.sent =
            state.log.finished.flatMap
                (completeFrames options.toSplitlinkOptions) ++
              (List.range index).map
                (frameAt options.geometry
                  (transferOf .values state.log.slot)) ∧
          (transmitValues options .ok state).log.sent =
            state.log.sent ++
              [frameAt options.geometry
                (transferOf .values state.log.slot) index]
  drains :
    ∃ count final,
      run (valuesStep options) state
          (List.replicate count (.transmit .ok)) =
        some final ∧
      final.log.slot.state = .empty
  catchesUp :
    ∃ count final,
      run (valuesStep options) state
          ((if state.sendValuesPending then [.sendValues] else []) ++
            List.replicate count (.transmit .ok)) =
        some final ∧
      final.updates = state.updates ∧ LatestSent final

/-- Once nothing is pending, the latest update was sent last. -/
theorem Flows.latestSent
    {options : SlaveOptions} {state : ValuesState}
    (flows : Flows options state)
    (quiet : state.sendValuesPending = false)
    (empty : state.log.slot.state = .empty) : LatestSent state := by
  intro update last
  have some : state.updates ≠ [] := by
    rintro none
    rw [none] at last
    cases last
  have newest := flows.fresh quiet some
  rw [newestSent_link (flows.staged.noCopy empty), begun_of_empty empty,
    last] at newest
  exact Option.map_eq_some_iff.mp newest

/-- The handlers by themselves send the latest update. -/
theorem Flows.catchesUp
    {options : SlaveOptions} {state : ValuesState}
    (flows : Flows options state) :
    ∃ count final,
      run (valuesStep options) state
          ((if state.sendValuesPending then [.sendValues] else []) ++
            List.replicate count (.transmit .ok)) =
        some final ∧
      final.updates = state.updates ∧ LatestSent final := by
  by_cases pending : state.sendValuesPending = true
  · have scheduled : state.sendValuesScheduled = true :=
      flows.stored.scheduled ▸ pending
    have sent := flows.send scheduled
    rcases sent.drains with
      ⟨count, _, final, ran, ⟨kept, updates, quiet⟩, empty⟩
    refine ⟨count, final, ?_, updates, kept.latestSent quiet empty⟩
    rw [if_pos pending, List.singleton_append, run_cons, valuesStep,
      if_pos scheduled]
    exact ran
  · rcases flows.drains with
      ⟨count, _, final, ran, ⟨kept, updates, quiet⟩, empty⟩
    have none : state.sendValuesPending = false := by simpa using pending
    refine
      ⟨count, final, ?_, updates, kept.latestSent (quiet.trans none) empty⟩
    rw [if_neg pending, List.nil_append]
    exact ran

theorem Flows.pipeline
    {options : SlaveOptions} {state : ValuesState}
    (flows : Flows options state) : Pipeline options state where
  driven := flows.staged.driven
  copyWaits := flows.staged.copyWaits
  onLink := by
    cases flows.staged.accounts with
    | idle empty sent =>
        refine ⟨0, ?_, fun _ => rfl, ?_⟩
        · rw [List.range_zero, List.map_nil, List.append_nil]
          exact sent
        · intro busy
          exact absurd busy (notBusy_iff.mpr empty)
    | @busy index transmits sent =>
        refine ⟨index, sent, ?_, fun _ => transmits.within⟩
        intro empty
        exact absurd transmits.state (notBusy_iff.mpr empty)
  finishedUpdated := flows.staged.finishedUpdated
  currentUpdated := flows.staged.slotUpdated
  latest := fun quiet _ empty => flows.latestSent quiet empty
  sends := by
    intro busy
    rw [transmitValues_sent]
    exact work_ok flows.staged.accounts.dequeue busy
  drains := by
    rcases flows.drains with ⟨count, _, final, ran, _, empty⟩
    exact ⟨count, final, ran, empty⟩
  catchesUp := flows.catchesUp

/--
While the link is connected and the transport answers 0, `-ENOMEM` or
`-EAGAIN`, every run of updates and handlers keeps the pipeline moving, puts
whole transfers of single updates on the link, and once nothing is pending
has sent the latest update last.  Handler runs whose packets are taken come
to that point from every state.
-/
theorem values_pipeline
    (options : SlaveOptions) (events : List ValuesEvent)
    (finish : ValuesState)
    (ran : run (valuesStep options) .initial events = some finish) :
    Pipeline options finish :=
  have flows : Flows options finish :=
    run_preserves (fun _ _ _ flows stepped => flows.step stepped)
      (flows_initial options) ran
  flows.pipeline

/-- Forty keys, whose values take two packets. -/
def fortyKeys : SlaveOptions where
  toSplitlinkOptions := { twoPacketOptions false with keyCountSlave := 40 }
  positive := by decide
  valuesFit := by decide

/-- The second update arrives while the first one is in the slot. -/
def twoUpdates : List ValuesEvent :=
  [.updateValues (some Memory.zero) 40, .sendValues,
    .updateValues (some fun _ => 1) 40, .sendValues, .transmit .eagain,
    .transmit .ok, .transmit .ok, .transmit .ok, .transmit .ok]

/-- Both updates are sent, each in a packet of 61 and one of 19 bytes. -/
theorem second_update_is_sent :
    ∃ finish,
      run (valuesStep fortyKeys) .initial twoUpdates = some finish ∧
        Pipeline fortyKeys finish ∧
        finish.log.slot.state = .empty ∧
        finish.log.finished.map Transfer.payload =
          [List.replicate 80 0, List.replicate 80 1] ∧
        finish.log.sent.map (List.drop headerSize) =
          [List.replicate 61 0, List.replicate 19 0, List.replicate 61 1,
            List.replicate 19 1] := by
  refine
    ⟨_, rfl, values_pipeline fortyKeys twoUpdates _ rfl, rfl, ?_, ?_⟩ <;>
  · decide +kernel

end YkbFirmware.SplitLink.ValuesPipeline
