import Mathlib.Tactic.SplitIfs
import YkbFirmware.Library.TransitionSystem

/-!
# The battery callbacks

The loop of `battsense_thread_handler`, its settings callback, and the one
subscriber of the slave, which forwards the battery state to the master.

The three kinds of callbacks are branches of one conditional.  A percentage
that falls to a threshold, or further below it, takes one of the first two,
and then the subscribers of state changes are not called.  Neither branch
looks at where the percentage comes from, so the low callbacks run again with
every further percent.
-/

namespace YkbFirmware.Battsense.Callbacks

open YkbFirmware.Library.TransitionSystem

/-! ## Types -/

/-- `enum charger_status`. -/
inductive ChargerStatus where
  | unknown
  | charging
  | discharging
  | notCharging
  | full
deriving DecidableEq, Repr

/-- Its value as the C compiler numbers it. -/
def ChargerStatus.toUInt8 : ChargerStatus → UInt8
  | .unknown => 0
  | .charging => 1
  | .discharging => 2
  | .notCharging => 3
  | .full => 4

/-- `ykb_battsense_state_t`. -/
@[ext]
structure YkbBattsenseState where
  chargeStatus : ChargerStatus
  percentage : UInt8
deriving DecidableEq, Repr

/-- `ykb_battsense_settings_t`. -/
structure YkbBattsenseSettings where
  lowThreshold : UInt8
  threadSleepMs : UInt16
deriving DecidableEq, Repr

/-- `CONFIG_YKB_BATTSENSE_*`. -/
structure BattsenseOptions where
  critThreshold : Nat
  shutoffOnChargerFailure : Bool

/-- What the drivers answer to one poll, or their error. -/
structure Readings where
  /-- whether the health is `CHARGER_HEALTH_UNSPEC_FAILURE` -/
  healthFailure : Except Int Bool
  chargerStatus : Except Int ChargerStatus
  relativeStateOfCharge : Except Int UInt8

/-- A pass over the subscribers: which callback, and with which state. -/
inductive Notification where
  | stateChanged (state : YkbBattsenseState)
  | lowPercentage (state : YkbBattsenseState)
  | criticalPercentage (state : YkbBattsenseState)
deriving DecidableEq, Repr

/-- The statics of the module, and where its thread is. -/
structure BattsenseStatics where
  state : YkbBattsenseState
  settings : YkbBattsenseSettings
  running : Bool
  /-- The thread has returned with `battsense_mut` locked. -/
  locked : Bool
deriving DecidableEq, Repr

/-- What one pass of the thread's loop leaves. -/
structure PollOutcome where
  battsense : BattsenseStatics
  notified : Option Notification
  scheduledShutdown : Bool
deriving DecidableEq, Repr

/-! ## The thread -/

/-- The state a successful poll publishes. -/
def publishedState (status : ChargerStatus) (rsoc : UInt8) :
    YkbBattsenseState where
  chargeStatus := status
  percentage := min rsoc 100

/-- The part of a poll after both readings have succeeded. -/
def publish
    (options : BattsenseOptions) (battsense : BattsenseStatics)
    (state : YkbBattsenseState) : PollOutcome :=
  let oldState := battsense.state
  let battsense := { battsense with state := state }
  if oldState.percentage > state.percentage ∧
      state.percentage.toNat ≤ options.critThreshold then
    -- this return leaves the mutex locked
    ⟨{ battsense with running := false, locked := true },
      some (.criticalPercentage state), true⟩
  else if oldState.percentage > state.percentage ∧
      state.percentage ≤ battsense.settings.lowThreshold then
    ⟨battsense, some (.lowPercentage state), false⟩
  else if oldState.percentage ≠ state.percentage ∨
      oldState.chargeStatus ≠ state.chargeStatus then
    ⟨battsense, some (.stateChanged state), false⟩
  else
    ⟨battsense, none, false⟩

/-- One pass of the loop of `battsense_thread_handler`. -/
def battsensePoll
    (options : BattsenseOptions) (battsense : BattsenseStatics)
    (readings : Readings) : PollOutcome :=
  if options.shutoffOnChargerFailure = true ∧
      readings.healthFailure.toOption = some true then
    ⟨{ battsense with running := false }, none, true⟩
  else
    match readings.chargerStatus with
    | .error _ => ⟨battsense, none, false⟩
    | .ok status =>
        match readings.relativeStateOfCharge with
        | .error _ => ⟨battsense, none, false⟩
        | .ok rsoc => publish options battsense (publishedState status rsoc)

inductive BattsenseEvent where
  | poll (readings : Readings)
  | settingsUpdate (settings : YkbBattsenseSettings)

/--
A poll needs the thread, and `on_settings_update` the mutex, which a thread
that has returned from the critical branch never gives back.
-/
def battsenseStep
    (options : BattsenseOptions) (battsense : BattsenseStatics) :
    BattsenseEvent → Option BattsenseStatics
  | .poll readings =>
      if battsense.running then
        some (battsensePoll options battsense readings).battsense
      else
        none
  | .settingsUpdate settings =>
      if battsense.locked then
        none
      else
        some { battsense with settings := settings }

/-! ## Subscribers -/

/-- `struct ykb_battsense_cb`, where `Call` is what a callback does. -/
structure YkbBattsenseCb (Call : Type) where
  onStateChanged : Option (YkbBattsenseState → Call)
  onLowPercentage : Option (YkbBattsenseState → Call)
  onCriticalPercentage : Option (YkbBattsenseState → Call)

/-- What a pass over the subscribers does with one of them. -/
def YkbBattsenseCb.called
    {Call : Type} (cb : YkbBattsenseCb Call) : Notification → Option Call
  | .stateChanged state => cb.onStateChanged.map fun call => call state
  | .lowPercentage state => cb.onLowPercentage.map fun call => call state
  | .criticalPercentage state =>
      cb.onCriticalPercentage.map fun call => call state

/-- `splitlink_battery_state_t`. -/
structure SplitlinkBatteryState where
  percentage : UInt8
  chargeStatus : UInt8
deriving DecidableEq, Repr

/--
`on_battery_state_changed` of the slave: what it calls
`splitlink_sync_send_battery_state` with.
-/
def onBatteryStateChanged (state : YkbBattsenseState) :
    SplitlinkBatteryState where
  percentage := state.percentage
  chargeStatus := state.chargeStatus.toUInt8

/-- `splitlink_sync_slave_battery_transport`. -/
def splitlinkSyncSlaveBatteryTransport :
    YkbBattsenseCb SplitlinkBatteryState where
  onStateChanged := some onBatteryStateChanged
  onLowPercentage := none
  onCriticalPercentage := none

/-- What the slave sends to the master on a poll. -/
def forwarded (outcome : PollOutcome) : Option SplitlinkBatteryState :=
  outcome.notified.bind splitlinkSyncSlaveBatteryTransport.called

/-! ## The contract of the callbacks -/

/--
The percentage comes from above the low threshold down to it or below, and
does not get critical.
-/
structure CrossesLow
    (options : BattsenseOptions) (settings : YkbBattsenseSettings)
    (before after : YkbBattsenseState) : Prop where
  above : settings.lowThreshold < before.percentage
  atOrBelow : after.percentage ≤ settings.lowThreshold
  notCritical : options.critThreshold < after.percentage.toNat

/--
On this poll: a new state is announced and forwarded, and the low callbacks
run exactly if the threshold is crossed.
-/
structure ContractKept
    (options : BattsenseOptions) (battsense : BattsenseStatics)
    (outcome : PollOutcome) : Prop where
  changed :
    outcome.battsense.state ≠ battsense.state →
      outcome.notified = some (.stateChanged outcome.battsense.state)
  forwarded :
    outcome.battsense.state ≠ battsense.state →
      forwarded outcome =
        some (onBatteryStateChanged outcome.battsense.state)
  low :
    outcome.notified = some (.lowPercentage outcome.battsense.state) ↔
      CrossesLow options battsense.settings battsense.state
        outcome.battsense.state

/-- The percentage falls, and what it falls to is critical or low. -/
def FallsToThreshold
    (options : BattsenseOptions) (battsense : BattsenseStatics)
    (state : YkbBattsenseState) : Prop :=
  state.percentage < battsense.state.percentage ∧
    (state.percentage.toNat ≤ options.critThreshold ∨
      state.percentage ≤ battsense.settings.lowThreshold)

/-- The state a poll publishes, if it gets that far. -/
def polledState
    (options : BattsenseOptions) (readings : Readings) :
    Option YkbBattsenseState :=
  if options.shutoffOnChargerFailure = true ∧
      readings.healthFailure.toOption = some true then
    none
  else
    readings.chargerStatus.toOption.bind fun status =>
      readings.relativeStateOfCharge.toOption.map fun rsoc =>
        publishedState status rsoc

/-- The contract, of every poll of a running thread. -/
def KeepsContract
    (options : BattsenseOptions) (battsense : BattsenseStatics) :
    BattsenseEvent → Prop
  | .poll readings =>
      battsense.running = true →
        ContractKept options battsense
          (battsensePoll options battsense readings)
  | .settingsUpdate _ => True

/-- No poll of a running thread finds the percentage fallen to a threshold. -/
def StaysUp
    (options : BattsenseOptions) (battsense : BattsenseStatics) :
    BattsenseEvent → Prop
  | .poll readings =>
      battsense.running = true →
        ∀ state, polledState options readings = some state →
          ¬ FallsToThreshold options battsense state
  | .settingsUpdate _ => True

section Poll

variable
    {options : BattsenseOptions} {battsense : BattsenseStatics}
    {readings : Readings} {state : YkbBattsenseState}

@[simp]
theorem publish_state :
    (publish options battsense state).battsense.state = state := by
  rw [publish]
  dsimp only
  split_ifs <;> rfl

/-- All that the drivers can answer, with the state that comes of it. -/
theorem polledState_cases (options : BattsenseOptions) (readings : Readings) :
    ((options.shutoffOnChargerFailure = true ∧
          readings.healthFailure.toOption = some true) ∧
        polledState options readings = none) ∨
      ¬ (options.shutoffOnChargerFailure = true ∧
          readings.healthFailure.toOption = some true) ∧
        ((∃ err, readings.chargerStatus = .error err ∧
            polledState options readings = none) ∨
          (∃ status err,
            readings.chargerStatus = .ok status ∧
              readings.relativeStateOfCharge = .error err ∧
              polledState options readings = none) ∨
          ∃ status rsoc,
            readings.chargerStatus = .ok status ∧
              readings.relativeStateOfCharge = .ok rsoc ∧
              polledState options readings =
                some (publishedState status rsoc)) := by
  rw [polledState]
  split_ifs with failed
  · exact Or.inl ⟨failed, rfl⟩
  · refine Or.inr ⟨failed, ?_⟩
    cases readings.chargerStatus with
    | error err => exact Or.inl ⟨err, rfl, rfl⟩
    | ok status =>
        cases readings.relativeStateOfCharge with
        | error err => exact Or.inr (Or.inl ⟨status, err, rfl, rfl, rfl⟩)
        | ok rsoc => exact Or.inr (Or.inr ⟨status, rsoc, rfl, rfl, rfl⟩)

theorem polledState_eq_some
    (polled : polledState options readings = some state) :
    ∃ status rsoc,
      ¬ (options.shutoffOnChargerFailure = true ∧
          readings.healthFailure.toOption = some true) ∧
        readings.chargerStatus = .ok status ∧
        readings.relativeStateOfCharge = .ok rsoc ∧
        state = publishedState status rsoc := by
  rcases polledState_cases options readings with
    ⟨_, unpolled⟩ | ⟨healthy, ⟨_, _, unpolled⟩ | ⟨_, _, _, _, unpolled⟩ |
      ⟨status, rsoc, charger, gauge, published⟩⟩
  · cases unpolled.symm.trans polled
  · cases unpolled.symm.trans polled
  · cases unpolled.symm.trans polled
  · exact
      ⟨status, rsoc, healthy, charger, gauge,
        Option.some.inj (polled.symm.trans published)⟩

/-- A poll either publishes a state or leaves everything as it was. -/
theorem poll_of_polled (polled : polledState options readings = some state) :
    battsensePoll options battsense readings =
      publish options battsense state := by
  rcases polledState_eq_some polled with
    ⟨status, rsoc, healthy, charger, gauge, rfl⟩
  rw [battsensePoll, if_neg healthy, charger, gauge]

theorem poll_of_unpolled (unpolled : polledState options readings = none) :
    (battsensePoll options battsense readings).battsense.state =
        battsense.state ∧
      (battsensePoll options battsense readings).notified = none := by
  rw [battsensePoll]
  rcases polledState_cases options readings with
    ⟨failed, _⟩ | ⟨healthy, ⟨_, charger, _⟩ | ⟨_, _, charger, gauge, _⟩ |
      ⟨_, _, _, _, published⟩⟩
  · rw [if_pos failed]
    exact ⟨rfl, rfl⟩
  · rw [if_neg healthy, charger]
    exact ⟨rfl, rfl⟩
  · rw [if_neg healthy, charger, gauge]
    exact ⟨rfl, rfl⟩
  · cases published.symm.trans unpolled

/-- At a threshold the subscribers of state changes are passed over. -/
theorem notified_of_falls
    (falls : FallsToThreshold options battsense state) :
    (publish options battsense state).notified =
        some (.criticalPercentage state) ∨
      (publish options battsense state).notified =
        some (.lowPercentage state) := by
  rw [publish]
  dsimp only
  split_ifs with critical low
  · exact Or.inl rfl
  · exact Or.inr rfl
  · rcases falls.2 with atCritical | atLow
    · exact absurd ⟨falls.1, atCritical⟩ critical
    · exact absurd ⟨falls.1, atLow⟩ low
  · rcases falls.2 with atCritical | atLow
    · exact absurd ⟨falls.1, atCritical⟩ critical
    · exact absurd ⟨falls.1, atLow⟩ low

/-- Elsewhere a change is announced, and nothing else is. -/
theorem notified_of_stays
    (stays : ¬ FallsToThreshold options battsense state) :
    (publish options battsense state).notified =
      if state = battsense.state then none else some (.stateChanged state) := by
  have notCritical :
      ¬ (battsense.state.percentage > state.percentage ∧
        state.percentage.toNat ≤ options.critThreshold) :=
    fun critical => stays ⟨critical.1, Or.inl critical.2⟩
  have notLow :
      ¬ (battsense.state.percentage > state.percentage ∧
        state.percentage ≤ battsense.settings.lowThreshold) :=
    fun low => stays ⟨low.1, Or.inr low.2⟩
  rw [publish]
  dsimp only
  rw [if_neg notCritical, if_neg notLow]
  by_cases same : state = battsense.state
  · rw [if_pos same, same, if_neg (by simp)]
  · have differs :
        battsense.state.percentage ≠ state.percentage ∨
          battsense.state.chargeStatus ≠ state.chargeStatus := by
      by_contra agrees
      rw [not_or, not_not, not_not] at agrees
      exact same (YkbBattsenseState.ext agrees.2.symm agrees.1.symm)
    rw [if_pos differs, if_neg same]

/-- Whoever crosses the low threshold falls to it. -/
theorem CrossesLow.falls
    (crosses :
      CrossesLow options battsense.settings battsense.state state) :
    FallsToThreshold options battsense state :=
  ⟨UInt8.lt_of_le_of_lt crosses.atOrBelow crosses.above, Or.inr crosses.atOrBelow⟩

theorem contractKept_publish_iff :
    ContractKept options battsense (publish options battsense state) ↔
      ¬ FallsToThreshold options battsense state := by
  constructor
  · intro kept falls
    have changed : state ≠ battsense.state := by
      rintro rfl
      exact UInt8.lt_irrefl _ falls.1
    have announced := kept.changed (by rwa [publish_state])
    rcases notified_of_falls falls with critical | low
    · rw [critical] at announced
      cases announced
    · rw [low] at announced
      cases announced
  · intro stays
    have notified := notified_of_stays stays
    refine ⟨fun changed => ?_, fun changed => ?_, ?_⟩
    · rw [publish_state] at changed ⊢
      rw [notified, if_neg changed]
    · rw [publish_state] at changed ⊢
      rw [forwarded, notified, if_neg changed]
      rfl
    · rw [publish_state, notified]
      refine iff_of_false (fun low => ?_) fun crosses => stays crosses.falls
      split_ifs at low
      cases low

/-- One step keeps the contract exactly if no poll falls to a threshold. -/
theorem keepsContract_iff_staysUp (event : BattsenseEvent) :
    KeepsContract options battsense event ↔
      StaysUp options battsense event := by
  cases event with
  | settingsUpdate settings => exact Iff.rfl
  | poll readings =>
      apply imp_congr_right
      intro _
      cases polled : polledState options readings with
      | none =>
          rcases poll_of_unpolled polled with ⟨same, silent⟩
          refine iff_of_true ⟨?_, ?_, ?_⟩ fun _ impossible => by
            cases impossible
          · exact fun changed => absurd same changed
          · exact fun changed => absurd same changed
          · rw [silent, same]
            refine iff_of_false (fun low => by cases low) fun crosses => ?_
            exact
              UInt8.lt_irrefl _
                (UInt8.lt_of_le_of_lt crosses.atOrBelow crosses.above)
      | some state =>
          rw [poll_of_polled polled, contractKept_publish_iff]
          constructor
          · rintro stays other ⟨⟩
            exact stays
          · exact fun stays => stays state rfl

end Poll

/--
Through polls and settings updates in any order, every poll keeps the contract
of the callbacks if and only if none finds the percentage fallen to a value at
or below the low or the critical threshold.
-/
theorem callback_contract_iff
    (options : BattsenseOptions) (start : BattsenseStatics)
    (events : List BattsenseEvent) :
    StepsMeet (battsenseStep options) (KeepsContract options) start events ↔
      StepsMeet (battsenseStep options) (StaysUp options) start events :=
  stepsMeet_congr (fun _ _ _ (always : True) _ => always)
    (fun _ event _ => keepsContract_iff_staysUp event) trivial

/-! ## A battery that runs down -/

/-- A reading while the battery is discharging. -/
def discharging (percentage : UInt8) : Readings where
  healthFailure := .ok false
  chargerStatus := .ok .discharging
  relativeStateOfCharge := .ok percentage

/-- The defaults: low at 5 percent and critical at 1. -/
def defaultThresholds : BattsenseOptions where
  critThreshold := 1
  shutoffOnChargerFailure := false

/-- The last poll has found 6 percent. -/
def almostLow : BattsenseStatics where
  state := ⟨.discharging, 6⟩
  settings := ⟨5, 2000⟩
  running := true
  locked := false

/--
At 5 percent the change is not announced, so the slave does not forward it;
and at 4 percent the low callbacks run once more.
-/
theorem low_battery_breaks_contract :
    (¬ ∀ events,
      StepsMeet (battsenseStep defaultThresholds)
        (KeepsContract defaultThresholds) almostLow events) ∧
    forwarded
        (battsensePoll defaultThresholds almostLow (discharging 5)) =
      none ∧
    (battsensePoll defaultThresholds
        (battsensePoll defaultThresholds almostLow (discharging 5)).battsense
        (discharging 4)).notified =
      some (.lowPercentage ⟨.discharging, 4⟩) := by
  refine ⟨fun always => ?_, by decide, by decide⟩
  have kept := (always [.poll (discharging 5)]).1 rfl
  have announced := kept.changed (by decide)
  exact absurd announced (by decide)

end YkbFirmware.Battsense.Callbacks
