import YkbFirmware.Library.TransitionSystem
import YkbFirmware.SplitLink.Transmission

/-!
# Settings updates on the settings slot

`splitlink_sync_on_settings_update` of the master and the work handler of the
settings slot, over a transport that answers 0, `-ENOMEM` or `-EAGAIN`, on a
connected link.  Transfers are never given up, so the packets on the link are
those of complete transfers followed by a part of the current one.

An update which finds the slot busy is dropped: unlike the values, battery and
script slots, the settings slot keeps no pending copy.  What is on the link
once the slot is EMPTY again is therefore the last update exactly when that
update found the slot EMPTY, or found it busy with the same bytes.
-/

namespace YkbFirmware.SplitLink.SettingsDelivery

open YkbFirmware.Library.ByteMemory
open YkbFirmware.Library.TransitionSystem
open YkbFirmware.Protocol.Sender
open YkbFirmware.SplitLink.Slots
open YkbFirmware.SplitLink.TransmitSlot
open YkbFirmware.SplitLink.Transmission hiding Accounts

/--
The settings slot of the master.  `sent` lists the packets put on the link and
`finished` the transfers whose last packet is among them, oldest first.
-/
structure SettingsState where
  slot : TxSlot
  settingsTx : Memory
  sent : List (List UInt8)
  finished : List Transfer

def SettingsState.initial : SettingsState :=
  ⟨.initial, Memory.zero, [], []⟩

/-- What a settings transfer puts on the link. -/
def transferFrames (options : SplitlinkOptions) (transfer : Transfer) :
    List (List UInt8) :=
  (List.range (transfer.count options.geometry)).map
    (frameAt options.geometry transfer)

/-- `splitlink_sync_on_settings_update`, on a connected link. -/
def splitlinkSyncOnSettingsUpdate
    (options : SplitlinkOptions) (settings : Memory)
    (state : SettingsState) : SettingsState :=
  let settingsTx :=
    state.settingsTx.writeBlock 0 options.kbSettingsSize.toNat settings
  { state with
    settingsTx := settingsTx
    slot := splitlinkSyncSendSettings options true settingsTx state.slot }

/-- A run of `tx_slot_work_handler`; settings have nothing to do at `out`. -/
def transmitSettings
    (options : SplitlinkOptions) (result : SendResult)
    (state : SettingsState) : SettingsState :=
  let worked :=
    txSlotWorkHandler options { state.slot with scheduled := false } result
  { state with
    slot := worked.slot
    sent := state.sent ++ worked.sent.toList
    finished :=
      if worked.sent.isSome ∧ worked.slot.state = .empty then
        state.finished ++ [transferOf .settings state.slot]
      else
        state.finished }

inductive SettingsEvent where
  | update (settings : Memory)
  | transmit (result : SendResult)

/-- The transport answers 0, `-ENOMEM` or `-EAGAIN`. -/
def settingsStep
    (options : SplitlinkOptions) (state : SettingsState) :
    SettingsEvent → Option SettingsState
  | .update settings =>
      some (splitlinkSyncOnSettingsUpdate options settings state)
  | .transmit result =>
      if state.slot.scheduled ∧ result ≠ .failed then
        some (transmitSettings options result state)
      else
        none

variable
    {options : SplitlinkOptions} {state next : SettingsState}
    {settings : Memory}

/-! ## The packets on the link -/

/-- Complete transfers, then the part of the current one that was sent. -/
inductive Accounts
    (options : SplitlinkOptions) (state : SettingsState) : Prop where
  | idle
      (empty : state.slot.state = .empty)
      (unscheduled : state.slot.scheduled = false)
      (sent :
        state.sent = state.finished.flatMap (transferFrames options))
  | busy {index : Nat}
      (transmits : Transmits options .settings state.slot index)
      (scheduled : state.slot.scheduled = true)
      (sent :
        state.sent =
          state.finished.flatMap (transferFrames options) ++
            (List.range index).map
              (frameAt options.geometry (transferOf .settings state.slot)))

theorem accounts_initial (options : SplitlinkOptions) :
    Accounts options .initial :=
  .idle rfl rfl rfl

/-- The slot with its log. -/
def SettingsState.log (state : SettingsState) : SlotLog :=
  ⟨state.slot, state.sent, state.finished⟩

theorem Accounts.log (accounts : Accounts options state) :
    Transmission.Accounts options .settings state.log := by
  cases accounts with
  | idle empty _ sent => exact .idle empty sent
  | busy transmits _ sent => exact .busy transmits sent

/-- An update starts a transfer on an EMPTY slot. -/
theorem update_idle
    (empty : state.slot.state = .empty) :
    splitlinkSyncOnSettingsUpdate options settings state =
      let settingsTx :=
        state.settingsTx.writeBlock 0 options.kbSettingsSize.toNat settings
      { state with
        settingsTx := settingsTx
        slot :=
          startTransfer options .settings state.slot settingsTx
            options.kbSettingsSize } :=
  congrArg
    (fun slot =>
      { state with
        settingsTx :=
          state.settingsTx.writeBlock 0 options.kbSettingsSize.toNat settings
        slot := slot })
    (sendOrLogBusy_empty empty _)

/-- An update changes nothing on a busy slot. -/
theorem update_busy
    (busy : state.slot.state = .transceiving) :
    (splitlinkSyncOnSettingsUpdate options settings state).slot =
      state.slot :=
  sendOrLogBusy_busy busy true _

/-- The transfer an update starts carries the settings. -/
theorem update_payload
    (empty : state.slot.state = .empty) :
    (transferOf .settings
        (splitlinkSyncOnSettingsUpdate options settings state).slot).payload =
      settings.readBlock 0 options.kbSettingsSize.toNat := by
  rw [update_idle empty]
  dsimp only
  rw [startTransfer_payload]
  exact Memory.readBlock_writeBlock

theorem accounts_update (accounts : Accounts options state) :
    Accounts options
      (splitlinkSyncOnSettingsUpdate options settings state) := by
  cases accounts with
  | idle empty _ sent =>
      rw [update_idle empty]
      refine .busy (startTransfer_transmits _ _ _ _ _) rfl ?_
      rw [List.range_zero, List.map_nil, List.append_nil]
      exact sent
  | busy transmits scheduled sent =>
      have unchanged :
          (splitlinkSyncOnSettingsUpdate options settings state).slot =
            state.slot :=
        update_busy transmits.state
      refine .busy (unchanged ▸ transmits) (unchanged ▸ scheduled) ?_
      rw [unchanged]
      exact sent

/-- What one run of the handler does on a scheduled slot. -/
inductive TransmitStep
    (options : SplitlinkOptions) (state : SettingsState) :
    SettingsState → Prop where
  | going {next : SettingsState} {index : Nat}
      (transmits : Transmits options .settings next.slot index)
      (scheduled : next.slot.scheduled = true)
      (transfer :
        transferOf .settings next.slot = transferOf .settings state.slot)
      (sent :
        next.sent =
          state.finished.flatMap (transferFrames options) ++
            (List.range index).map
              (frameAt options.geometry (transferOf .settings state.slot)))
      (finished : next.finished = state.finished) :
      TransmitStep options state next
  | done {next : SettingsState}
      (empty : next.slot.state = .empty)
      (unscheduled : next.slot.scheduled = false)
      (sent :
        next.sent =
          (state.finished ++ [transferOf .settings state.slot]).flatMap
            (transferFrames options))
      (finished :
        next.finished =
          state.finished ++ [transferOf .settings state.slot]) :
      TransmitStep options state next

theorem transmitSettings_step
    (accounts : Accounts options state)
    (scheduled : state.slot.scheduled = true)
    {result : SendResult} (taken : result ≠ .failed) :
    TransmitStep options state (transmitSettings options result state) := by
  have worked := work_worked accounts.log.dequeue taken
  have same :
      state.log.dequeue.work options .settings result =
        (transmitSettings options result state).log :=
    rfl
  rw [same] at worked
  generalize transmitSettings options result state = after at worked ⊢
  generalize log : after.log = finish at worked
  generalize (state.log.dequeue.worked options result).out = out at worked
  cases worked with
  | skipped empty =>
      cases accounts with
      | idle _ unscheduled =>
          rw [unscheduled] at scheduled
          cases scheduled
      | busy transmits =>
          exact absurd transmits.state (notBusy_iff.mpr empty)
  | going _ transmits rescheduled transfer sent finished =>
      subst log
      exact .going transmits rescheduled transfer sent finished
  | done _ empty unscheduled sent finished =>
      subst log
      exact .done empty unscheduled sent finished

/-- Every step accounts for the packets on the link. -/
theorem accounts_step
    (state : SettingsState) (event : SettingsEvent) (next : SettingsState)
    (accounts : Accounts options state)
    (stepped : settingsStep options state event = some next) :
    Accounts options next := by
  cases event with
  | update settings =>
      cases stepped
      exact accounts_update accounts
  | transmit result =>
      rw [settingsStep] at stepped
      split_ifs at stepped with ready
      cases stepped
      cases transmitSettings_step accounts ready.1 ready.2 with
      | going transmits scheduled transfer sent finished =>
          refine .busy transmits scheduled ?_
          rw [finished, transfer]
          exact sent
      | done empty unscheduled sent finished =>
          exact .idle empty unscheduled (finished ▸ sent)

theorem accounts_of_run
    {start : SettingsState} {events : List SettingsEvent}
    (accounts : Accounts options start)
    (ran : run (settingsStep options) start events = some next) :
    Accounts options next :=
  run_preserves accounts_step accounts ran

/-! ## What the last transfer carries -/

/-- The last complete transfer on the link carries the bytes. -/
def LastCarries (state : SettingsState) (bytes : List UInt8) : Prop :=
  ∃ transfer,
    state.finished.getLast? = some transfer ∧ transfer.payload = bytes

theorem LastCarries.unique
    {first second : List UInt8}
    (left : LastCarries state first) (right : LastCarries state second) :
    first = second := by
  rcases left with ⟨one, isLast, rfl⟩
  rcases right with ⟨other, alsoLast, rfl⟩
  rw [isLast] at alsoLast
  cases alsoLast
  rfl

/-- The bytes are on their way, or the last ones on the link. -/
structure Settles
    (options : SplitlinkOptions) (bytes : List UInt8)
    (state : SettingsState) : Prop where
  accounts : Accounts options state
  busy :
    state.slot.state = .transceiving →
      (transferOf .settings state.slot).payload = bytes
  idle : state.slot.state = .empty → LastCarries state bytes

theorem settles_transmit
    {bytes : List UInt8}
    (settles : Settles options bytes state) (result : SendResult)
    (stepped :
      settingsStep options state (.transmit result) = some next) :
    Settles options bytes next := by
  have accounts := accounts_step state _ next settles.accounts stepped
  rw [settingsStep] at stepped
  split_ifs at stepped with ready
  cases stepped
  have busy : state.slot.state = .transceiving := by
    cases settles.accounts with
    | idle _ unscheduled =>
        rw [unscheduled] at ready
        cases ready.1
    | busy transmits => exact transmits.state
  have carried := settles.busy busy
  refine ⟨accounts, fun transceiving => ?_, fun empty => ?_⟩
  · cases transmitSettings_step settles.accounts ready.1 ready.2 with
    | going _ _ transfer => rw [transfer, carried]
    | done empty =>
        rw [empty] at transceiving
        cases transceiving
  · cases transmitSettings_step settles.accounts ready.1 ready.2 with
    | going transmits =>
        rw [transmits.state] at empty
        cases empty
    | done _ _ _ finished =>
        exact
          ⟨transferOf .settings state.slot,
            by rw [finished, List.getLast?_concat], carried⟩

/-- Without updates the bytes on their way stay the last ones. -/
theorem settles_run
    {bytes : List UInt8} {events : List SettingsEvent}
    (settles : Settles options bytes state)
    (noUpdate : ∀ event ∈ events, ∀ other, event ≠ .update other)
    (ran : run (settingsStep options) state events = some next) :
    Settles options bytes next := by
  have preserved :
      ∀ (before : SettingsState) (event : SettingsEvent)
          (after : SettingsState),
        Settles options bytes before →
          (∀ other, event ≠ .update other) →
            settingsStep options before event = some after →
              Settles options bytes after := by
    intro before event after holds transmits stepped
    cases event with
    | update other => exact absurd rfl (transmits other)
    | transmit result => exact settles_transmit holds result stepped
  exact
    run_preserves_of_stepsMeet preserved settles
      (stepsMeet_of_events noUpdate) ran

/-- What an update leaves behind. -/
theorem settles_update
    (accounts : Accounts options state) :
    Settles options
      (if state.slot.state = .empty then
        settings.readBlock 0 options.kbSettingsSize.toNat
      else
        (transferOf .settings state.slot).payload)
      (splitlinkSyncOnSettingsUpdate options settings state) := by
  have accountsNext :
      Accounts options
        (splitlinkSyncOnSettingsUpdate options settings state) :=
    accounts_update accounts
  cases accounts with
  | idle empty =>
      rw [if_pos empty]
      refine ⟨accountsNext, fun _ => update_payload empty, fun now => ?_⟩
      rw [update_idle empty] at now
      cases now
  | busy transmits =>
      have notEmpty : ¬ state.slot.state = .empty := by
        simp [transmits.state]
      have unchanged :
          (splitlinkSyncOnSettingsUpdate options settings state).slot =
            state.slot :=
        update_busy transmits.state
      rw [if_neg notEmpty]
      refine ⟨accountsNext, fun _ => by rw [unchanged], fun now => ?_⟩
      rw [unchanged] at now
      exact absurd now notEmpty

/--
Once the slot is EMPTY again, only complete transfers are on the link, and the
last one carries the most recent update exactly if that update found the slot
EMPTY, or busy with the same bytes.
-/
theorem last_settings_delivered_iff
    {before after : List SettingsEvent} {reached final : SettingsState}
    (ranBefore :
      run (settingsStep options) .initial before = some reached)
    (ranAfter :
      run (settingsStep options) reached (.update settings :: after) =
        some final)
    (mostRecent : ∀ event ∈ after, ∀ other, event ≠ .update other)
    (empty : final.slot.state = .empty) :
    final.sent = final.finished.flatMap (transferFrames options) ∧
      (LastCarries final
          (settings.readBlock 0 options.kbSettingsSize.toNat) ↔
        reached.slot.state = .empty ∨
          (transferOf .settings reached.slot).payload =
            settings.readBlock 0 options.kbSettingsSize.toNat) := by
  have accounts := accounts_of_run (accounts_initial options) ranBefore
  have settles :=
    settles_run (@settles_update options reached settings accounts)
      mostRecent ranAfter
  have carries := settles.idle empty
  constructor
  · cases settles.accounts with
    | idle _ _ sent => exact sent
    | busy transmits =>
        exact absurd transmits.state (notBusy_iff.mpr empty)
  · by_cases idle : reached.slot.state = .empty
    · rw [if_pos idle] at carries
      exact ⟨fun _ => Or.inl idle, fun _ => carries⟩
    · rw [if_neg idle] at carries
      constructor
      · intro last
        exact Or.inr (carries.unique last)
      · rintro (wasEmpty | same)
        · exact absurd wasEmpty idle
        · exact same ▸ carries

/-- One update, both packets taken by the transport. -/
theorem settings_delivered_once :
    ∃ final,
      run (settingsStep (twoPacketOptions false)) .initial
          [.update Memory.zero, .transmit .ok, .transmit .ok] = some final ∧
        final.slot.state = .empty ∧
          LastCarries final (Memory.zero.readBlock 0 80) := by
  refine ⟨_, rfl, rfl, ?_⟩
  have delivered :=
    @last_settings_delivered_iff (twoPacketOptions false) Memory.zero []
      [.transmit .ok, .transmit .ok] .initial _ rfl rfl
      (by simp) rfl
  exact delivered.2.mpr (Or.inl rfl)

/--
The second update arrives between the two packets of the first one and is
dropped; the slot ends EMPTY with the first update last on the link.
-/
theorem settings_update_lost :
    ∃ final,
      run (settingsStep (twoPacketOptions false)) .initial
          [.update Memory.zero, .transmit .ok, .update fun _ => 1,
            .transmit .ok] = some final ∧
        final.slot.state = .empty ∧ final.slot.scheduled = false ∧
          LastCarries final (Memory.zero.readBlock 0 80) ∧
            ¬ LastCarries final (Memory.readBlock (fun _ => 1) 0 80) := by
  refine ⟨_, rfl, rfl, rfl, ⟨_, rfl, ?_⟩, ?_⟩
  · rfl
  · rintro ⟨transfer, isLast, payload⟩
    cases isLast
    have first := Memory.readBlock_eq_iff.mp payload 0 (by decide)
    exact absurd first (by decide)

end YkbFirmware.SplitLink.SettingsDelivery
