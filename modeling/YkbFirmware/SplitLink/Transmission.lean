import YkbFirmware.SplitLink.TransmitSlot

/-!
# What a slot has put on the link

A transmitting slot with the packets that reached the link and the transfers
whose last packet is among them.  As long as the transport answers 0,
`-ENOMEM` or `-EAGAIN`, no transfer is given up, and the packets on the link
are those of the finished transfers, in order, followed by the first packets
of the current one.  `Worked` says what one run of the work handler adds.
-/

namespace YkbFirmware.SplitLink.Transmission

open YkbFirmware.Library.ByteMemory
open YkbFirmware.Protocol.Sender
open YkbFirmware.SplitLink.Slots
open YkbFirmware.SplitLink.TransmitSlot

/-! ## The log -/

/-- Both lists are oldest first. -/
structure SlotLog where
  slot : TxSlot
  sent : List (List UInt8)
  finished : List Transfer

/-- All packets of a transfer, the first one first. -/
def completeFrames (options : SplitlinkOptions) (transfer : Transfer) :
    List (List UInt8) :=
  (List.range (transfer.count options.geometry)).map
    (frameAt options.geometry transfer)

/-- The work queue takes the work item to run its handler. -/
def SlotLog.dequeue (log : SlotLog) : SlotLog :=
  { log with slot := { log.slot with scheduled := false } }

/-- A run of `tx_slot_work_handler` up to the label `out`. -/
def SlotLog.worked
    (options : SplitlinkOptions) (result : SendResult) (log : SlotLog) :
    TxWorkOutcome :=
  txSlotWorkHandler options log.slot result

/-- The log after that run. -/
def SlotLog.work
    (options : SplitlinkOptions) (name : SlotName) (result : SendResult)
    (log : SlotLog) : SlotLog :=
  let worked := log.worked options result
  { slot := worked.slot
    sent := log.sent ++ worked.sent.toList
    finished :=
      if worked.sent.isSome ∧ worked.slot.state = .empty then
        log.finished ++ [transferOf name log.slot]
      else
        log.finished }

/-- A new transfer on the slot. -/
def SlotLog.start
    (options : SplitlinkOptions) (name : SlotName) (log : SlotLog)
    (data : Memory) (dataLen : UInt16) : SlotLog :=
  { log with slot := startTransfer options name log.slot data dataLen }

/-- Finished transfers, then the part of the current one that was sent. -/
inductive Accounts
    (options : SplitlinkOptions) (name : SlotName) (log : SlotLog) :
    Prop where
  | idle
      (empty : log.slot.state = .empty)
      (sent : log.sent = log.finished.flatMap (completeFrames options))
  | busy {index : Nat}
      (transmits : Transmits options name log.slot index)
      (sent :
        log.sent =
          log.finished.flatMap (completeFrames options) ++
            (List.range index).map
              (frameAt options.geometry (transferOf name log.slot)))

section Log

variable
    {options : SplitlinkOptions} {name : SlotName} {log next : SlotLog}

theorem accounts_of_empty
    (accounts : Accounts options name log)
    (empty : log.slot.state = .empty) :
    log.sent = log.finished.flatMap (completeFrames options) := by
  cases accounts with
  | idle _ sent => exact sent
  | busy transmits =>
      rw [transmits.state] at empty
      cases empty

/-- The flag of the work item does not count. -/
theorem Accounts.dequeue
    (accounts : Accounts options name log) :
    Accounts options name log.dequeue := by
  cases accounts with
  | idle empty sent => exact .idle empty sent
  | busy transmits sent =>
      exact
        .busy ⟨transmits.state, transmits.within, transmits.position⟩ sent

theorem Accounts.start
    (accounts : Accounts options name log)
    (empty : log.slot.state = .empty) (data : Memory) (dataLen : UInt16) :
    Accounts options name (log.start options name data dataLen) := by
  apply Accounts.busy (startTransfer_transmits options name _ data dataLen)
  have sent : log.sent = log.finished.flatMap (completeFrames options) :=
    accounts_of_empty accounts empty
  rw [List.range_zero, List.map_nil, List.append_nil]
  exact sent

/-- A slot which is EMPTY takes a message that fits. -/
theorem txSlotBeginTransfer_empty
    {slot : TxSlot} {dataLen : UInt16} (empty : slot.state = .empty)
    (fits : dataLen ≤ options.maxDataLength name) (data : Memory) :
    txSlotBeginTransfer options name slot data dataLen =
      some (startTransfer options name slot data dataLen) := by
  rw [txSlotBeginTransfer, if_neg (notBusy_iff.mpr empty), if_neg]
  exact UInt16.not_lt.mpr fits

/-! ## One run of the handler -/

/-- What a run adds to the log, and whether it reaches the label `out`. -/
inductive Worked
    (options : SplitlinkOptions) (name : SlotName) (log : SlotLog) :
    SlotLog → Bool → Prop where
  | skipped
      (empty : log.slot.state = .empty) :
      Worked options name log log false
  | going {next : SlotLog} {index : Nat}
      (busy : log.slot.state = .transceiving)
      (transmits : Transmits options name next.slot index)
      (scheduled : next.slot.scheduled = true)
      (transfer : transferOf name next.slot = transferOf name log.slot)
      (sent :
        next.sent =
          log.finished.flatMap (completeFrames options) ++
            (List.range index).map
              (frameAt options.geometry (transferOf name log.slot)))
      (finished : next.finished = log.finished) :
      Worked options name log next false
  | done {next : SlotLog}
      (busy : log.slot.state = .transceiving)
      (empty : next.slot.state = .empty)
      (scheduled : next.slot.scheduled = log.slot.scheduled)
      (sent :
        next.sent =
          (log.finished ++ [transferOf name log.slot]).flatMap
            (completeFrames options))
      (finished :
        next.finished = log.finished ++ [transferOf name log.slot]) :
      Worked options name log next true

theorem work_worked
    (accounts : Accounts options name log) {result : SendResult}
    (taken : result ≠ .failed) :
    Worked options name log (log.work options name result)
      (log.worked options result).out := by
  cases accounts with
  | idle empty sent =>
      have skips : log.worked options result = ⟨log.slot, none, false⟩ :=
        txSlotWorkHandler_empty empty result
      have same : log.work options name result = log := by
        rw [SlotLog.work, skips]
        simp
      rw [same, skips]
      exact .skipped empty
  | @busy index transmits sent =>
      have step := txSlotWorkHandler_step transmits result
      rw [SlotLog.work, SlotLog.worked]
      generalize txSlotWorkHandler options log.slot result = outcome at step
      cases step with
      | kept retried still transfer rescheduled =>
          refine .going transmits.state still rescheduled transfer ?_ ?_
          · exact (List.append_nil _).trans sent
          · dsimp only
            rw [if_neg]
            rintro ⟨none, _⟩
            cases none
      | dropped => exact absurd rfl taken
      | advanced still transfer rescheduled =>
          refine .going transmits.state still rescheduled transfer ?_ ?_
          · rw [List.range_succ, List.map_append, ← List.append_assoc, ← sent]
            rfl
          · dsimp only
            rw [if_neg]
            rintro ⟨_, empty⟩
            rw [still.state] at empty
            cases empty
      | finished last empty scheduled =>
          refine .done transmits.state empty scheduled ?_ ?_
          · rw [List.flatMap_append, List.flatMap_singleton, completeFrames,
              ← last, List.range_succ, List.map_append, ← List.append_assoc,
              ← sent]
            rfl
          · dsimp only
            rw [if_pos ⟨rfl, empty⟩]

/-- The transfers put on the link, the current one last. -/
def SlotLog.begun (name : SlotName) (log : SlotLog) : List Transfer :=
  if log.slot.state = .transceiving then
    log.finished ++ [transferOf name log.slot]
  else
    log.finished

theorem begun_of_empty (empty : log.slot.state = .empty) :
    log.begun name = log.finished := by
  exact if_neg (notBusy_iff.mpr empty)

theorem begun_start
    (empty : log.slot.state = .empty) (data : Memory) (dataLen : UInt16) :
    (log.start options name data dataLen).begun name =
      log.begun name ++
        [transferOf name
          (startTransfer options name log.slot data dataLen)] := by
  rw [begun_of_empty empty]
  exact if_pos rfl

/-- The handler begins no transfer of its own, and forgets none. -/
theorem Worked.begun
    {out : Bool} (worked : Worked options name log next out) :
    next.begun name = log.begun name := by
  cases worked with
  | skipped => rfl
  | going busy transmits _ transfer _ finished =>
      rw [SlotLog.begun, SlotLog.begun, if_pos transmits.state, if_pos busy,
        transfer, finished]
  | done busy empty _ _ finished =>
      rw [begun_of_empty empty, SlotLog.begun, if_pos busy, finished]

/-- The link has a first part of the packets of these transfers. -/
theorem Accounts.sent_prefix
    (accounts : Accounts options name log) :
    log.sent <+: (log.begun name).flatMap (completeFrames options) := by
  cases accounts with
  | idle empty sent => rw [begun_of_empty empty, sent]
  | @busy index transmits sent =>
      have part :
          List.range index <+:
            List.range
              ((transferOf name log.slot).count options.geometry) := by
        have within := transmits.within.le
        rw [← Nat.min_eq_left within, ← List.take_range]
        exact List.take_prefix _ _
      rw [SlotLog.begun, if_pos transmits.state, List.flatMap_append,
        List.flatMap_singleton, sent]
      exact (List.prefix_append_right_inj _).mpr (part.map _)

/-- A run of the handler accounts for what it puts on the link. -/
theorem Worked.accounts
    {out : Bool} (accounts : Accounts options name log)
    (worked : Worked options name log next out) :
    Accounts options name next := by
  cases worked with
  | skipped => exact accounts
  | going _ transmits _ transfer sent finished =>
      apply Accounts.busy transmits
      rw [finished, transfer]
      exact sent
  | done _ empty _ sent finished =>
      apply Accounts.idle empty
      rw [finished]
      exact sent

/-! ## Progress -/

/-- How many packets of the transfers begun the link does not have yet. -/
def SlotLog.packetsLeft
    (options : SplitlinkOptions) (name : SlotName) (log : SlotLog) : Nat :=
  ((log.begun name).flatMap (completeFrames options)).length -
    log.sent.length

/-- A packet that the transport takes is the next one of the transfer. -/
theorem work_ok
    (accounts : Accounts options name log)
    (busy : log.slot.state = .transceiving) :
    ∃ index < (transferOf name log.slot).count options.geometry,
      log.sent =
          log.finished.flatMap (completeFrames options) ++
            (List.range index).map
              (frameAt options.geometry (transferOf name log.slot)) ∧
        (log.work options name .ok).sent =
          log.sent ++
            [frameAt options.geometry (transferOf name log.slot) index] := by
  cases accounts with
  | idle empty => exact absurd busy (notBusy_iff.mpr empty)
  | @busy index transmits sent =>
      have step := txSlotWorkHandler_step transmits .ok
      refine ⟨index, transmits.within, sent, ?_⟩
      rw [SlotLog.work, SlotLog.worked]
      generalize txSlotWorkHandler options log.slot .ok = outcome at step
      cases step with
      | kept retried =>
          rcases retried with impossible | impossible <;> cases impossible
      | advanced => rfl
      | finished => rfl

/-- A transfer that starts has all its packets left. -/
theorem packetsLeft_start
    (accounts : Accounts options name log)
    (empty : log.slot.state = .empty) (data : Memory) (dataLen : UInt16) :
    (log.start options name data dataLen).packetsLeft options name =
      log.packetsLeft options name +
        (slotTransfer name data dataLen).count options.geometry := by
  have sent := accounts.sent_prefix.length_le
  have same : (log.start options name data dataLen).sent = log.sent := rfl
  rw [SlotLog.packetsLeft, SlotLog.packetsLeft, begun_start empty, same,
    List.flatMap_append, List.flatMap_singleton, List.length_append,
    completeFrames, List.length_map, List.length_range,
    startTransfer_transferOf]
  have count :
      (slotTransfer name (log.slot.data.writeBlock 0 dataLen.toNat data)
          dataLen).count options.geometry =
        (slotTransfer name data dataLen).count options.geometry :=
    rfl
  omega

/-- A packet that the transport takes is one less left. -/
theorem packetsLeft_work
    (accounts : Accounts options name log)
    (busy : log.slot.state = .transceiving) :
    (log.work options name .ok).packetsLeft options name <
      log.packetsLeft options name := by
  have taken : SendResult.ok ≠ .failed := SendResult.noConfusion
  have worked := work_worked accounts taken
  rcases work_ok accounts busy with ⟨index, within, sent, next⟩
  have begun :
      log.begun name = log.finished ++ [transferOf name log.slot] :=
    if_pos busy
  rw [SlotLog.packetsLeft, SlotLog.packetsLeft, worked.begun, next, sent,
    begun, List.flatMap_append, List.flatMap_singleton, completeFrames]
  simp only [List.length_append, List.length_map, List.length_range,
    List.length_singleton]
  omega

end Log

end YkbFirmware.SplitLink.Transmission
