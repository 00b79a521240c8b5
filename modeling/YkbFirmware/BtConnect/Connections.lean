import Mathlib.Data.List.Basic
import Mathlib.Tactic.SplitIfs
import YkbFirmware.Library.TransitionSystem

/-!
# Bluetooth connections to hosts

`bt_connect.c` is the keyboard as a Bluetooth device: it advertises, keeps the
connections of hosts in an array of slots, sends them its reports and tells
them the level of its battery.

The Bluetooth stack is not part of the repository.  What it keeps is part of
the state: whether it advertises, and which connections there are, with the
role of this device in each.  It calls back for connections that come and go;
one in the role of a peripheral comes by advertising and ends it.
-/

namespace YkbFirmware.BtConnect.Connections

/-! ## State -/

/-- `struct bt_connect_conn_state`. -/
structure ConnState where
  conn : Option Nat
  inBootMode : Bool
deriving DecidableEq, Repr

/-- A slot that is free. -/
def ConnState.free : ConnState := ⟨none, false⟩

inductive ConnRole where
  | central
  | peripheral
deriving DecidableEq, Repr

/-- The build options. -/
structure BtConnectOptions where
  /-- `CONFIG_BT_HIDS_MAX_CLIENT_COUNT` -/
  maxClientCount : Nat
  /-- `CONFIG_BT_CONNECT_BAS` -/
  bas : Bool
  /-- `CONFIG_BT_CONNECT_SPLIT_BAS` -/
  splitBas : Bool
  splitNeedsBas : splitBas = true → bas = true

/-- The statics of `bt_connect.c`, and what the Bluetooth stack keeps. -/
structure BtConnectState where
  connStates : List ConnState
  isAdvertising : Bool
  batteryNotificationsReady : Bool
  batteryLevelPendingValid : Bool
  pendingBatteryLevel : UInt8
  primaryBatteryLevel : UInt8
  secondaryBatteryLevel : UInt8
  secondaryBatteryNotificationsReady : Bool
  /-- The timer of `battery_level_publish_work` is running. -/
  publishArmed : Bool
  /-- The work queue holds `battery_level_publish_work`. -/
  publishQueued : Bool
  /-- `bt_connect_init` has enabled the stack. -/
  started : Bool
  advertising : Bool
  peers : List (Nat × ConnRole)

def BtConnectState.initial (options : BtConnectOptions) :
    BtConnectState where
  connStates := List.replicate options.maxClientCount .free
  isAdvertising := false
  batteryNotificationsReady := false
  batteryLevelPendingValid := false
  pendingBatteryLevel := 0
  primaryBatteryLevel := 0
  secondaryBatteryLevel := 0
  secondaryBatteryNotificationsReady := false
  publishArmed := false
  publishQueued := false
  started := false
  advertising := false
  peers := []

def ealready : Int := 120

def enomem : Int := 12

def btGattCccNotify : UInt16 := 1

/-- `BT_SECURITY_L2`. -/
def btSecurityL2 : Nat := 2

/-- `err && err != -EALREADY`. -/
def failed (err : Int) : Bool :=
  err ≠ 0 && err ≠ -ealready

section Calls

variable (options : BtConnectOptions) (st : BtConnectState)

/-! ## The slots -/

/-- The connections that `bt_connect_foreach_conn` calls for, in order. -/
def btConnectForeachConn : List (Nat × Bool) :=
  st.connStates.filterMap fun state =>
    state.conn.map fun conn => (conn, state.inBootMode)

/-- `any_connected`. -/
def anyConnected : Bool :=
  st.connStates.any fun state => state.conn.isSome

/-- `find_conn_state`, as an index. -/
def findConnState (conn : Nat) : Option Nat :=
  st.connStates.findIdx? fun state => state.conn = some conn

/-- `alloc_conn_state`, as an index. -/
def allocConnState : Option Nat :=
  st.connStates.findIdx? fun state => state.conn = none

/-- `bt_connect_manages_conn`, with the result of `bt_conn_get_info`. -/
def btConnectManagesConn (infoErr : Int) (role : ConnRole) : Bool :=
  infoErr = 0 && role = .peripheral

/-! ## Advertising -/

/-- `advertising_start`. -/
def advertisingStart (advStart : Int) : BtConnectState :=
  if failed advStart then
    st
  else
    { st with
      isAdvertising := true
      advertising := true }

/-- `maybe_restart_advertising`. -/
def maybeRestartAdvertising (advStart : Int) : BtConnectState :=
  if anyConnected st = false ∧ st.isAdvertising = false then
    advertisingStart st advStart
  else
    st

/-! ## The level of the battery -/

/-- The timer expires and hands the work item to the work queue. -/
def publishTimerExpires : BtConnectState :=
  { st with
    publishArmed := false
    publishQueued := true }

/-- `publish_pending_battery_level`, taken from the work queue. -/
def publishPendingBatteryLevel (notify : Int) : BtConnectState :=
  let st := { st with publishQueued := false }
  if st.batteryNotificationsReady = false ∨
      st.batteryLevelPendingValid = false then
    st
  else
    let st :=
      { st with primaryBatteryLevel := min st.pendingBatteryLevel 100 }
    if notify ≠ 0 then
      st
    else
      { st with batteryLevelPendingValid := false }

/-- `primary_battery_ccc_cfg_changed`. -/
def primaryBatteryCccCfgChanged (value : UInt16) : BtConnectState :=
  { st with batteryNotificationsReady := decide (value = btGattCccNotify) }

/-- `secondary_battery_ccc_cfg_changed`. -/
def secondaryBatteryCccCfgChanged (value : UInt16) : BtConnectState :=
  { st with
    secondaryBatteryNotificationsReady := decide (value = btGattCccNotify) }

/--
`bt_connect_set_battery_level`; rescheduling starts the timer again, and
leaves an item that is queued in the queue.
-/
def btConnectSetBatteryLevel (percentage : UInt8) : BtConnectState :=
  { st with
    pendingBatteryLevel := min percentage 100
    batteryLevelPendingValid := true
    publishArmed := st.publishArmed || st.batteryNotificationsReady }

/--
`bt_connect_set_secondary_battery_state`; the notification of it changes
nothing.
-/
def btConnectSetSecondaryBatteryState (percentage : UInt8) :
    BtConnectState :=
  { st with secondaryBatteryLevel := min percentage 100 }

/-- `bt_connect_clear_secondary_battery_state`. -/
def btConnectClearSecondaryBatteryState : BtConnectState :=
  { st with secondaryBatteryLevel := 0 }

/-! ## Callbacks of the stack -/

inductive HidsPmEvt where
  | bootModeEntered
  | reportModeEntered
deriving DecidableEq, Repr

/-- The boot mode is what the event enters. -/
def HidsPmEvt.boot : HidsPmEvt → Bool
  | .bootModeEntered => true
  | .reportModeEntered => false

/-- `hids_pm_evt_handler`. -/
def hidsPmEvtHandler (evt : HidsPmEvt) (conn : Nat) : BtConnectState :=
  match findConnState st conn with
  | none => st
  | some index =>
      { st with
        connStates :=
          st.connStates.modify index fun state =>
            { state with inBootMode := evt.boot } }

/-- `cb->on_connect` and `cb->on_disconnect`, for a connection. -/
inductive ConnCallback where
  | onConnect (conn : Nat)
  | onDisconnect (conn : Nat)
deriving DecidableEq, Repr

/-- What the stack answers while a connection is reported. -/
structure ConnectedResults where
  btConnGetInfo : Int
  btHidsConnected : Int

/-- `connected`, with the callbacks it makes. -/
def connected
    (conn : Nat) (role : ConnRole) (err : UInt8)
    (results : ConnectedResults) : BtConnectState × List ConnCallback :=
  if err ≠ 0 then
    (st, [])
  else if btConnectManagesConn results.btConnGetInfo role = false then
    (st, [])
  else
    match allocConnState st with
    | none => (st, [])
    | some index =>
        -- `err` is the argument, of eight bits
        if UInt8.ofInt results.btHidsConnected ≠ 0 then
          (st, [])
        else
          ({ st with
              connStates := st.connStates.set index ⟨some conn, false⟩
              isAdvertising := false
              batteryNotificationsReady :=
                if options.bas then
                  false
                else
                  st.batteryNotificationsReady },
            [.onConnect conn])

/-- What the stack answers while a disconnection is reported. -/
structure DisconnectedResults where
  btConnGetInfo : Int
  advStart : Int

/-- A slot is emptied. -/
def releaseConnState : Option Nat → BtConnectState
  | none => st
  | some index => { st with connStates := st.connStates.set index .free }

/-- The notifications of the battery end with a connection. -/
def stopBatteryNotifications : BtConnectState :=
  if options.bas then
    { st with
      batteryNotificationsReady := false
      publishArmed := false
      publishQueued := false }
  else
    st

/--
`disconnected`, with the callbacks it makes; what `bt_hids_disconnected`
answers is only logged.
-/
def disconnected
    (conn : Nat) (role : ConnRole) (results : DisconnectedResults) :
    BtConnectState × List ConnCallback :=
  let state := findConnState st conn
  if btConnectManagesConn results.btConnGetInfo role = false ∧
      state = none then
    (st, [])
  else
    (maybeRestartAdvertising
        (stopBatteryNotifications options (releaseConnState st state))
        results.advStart,
      [.onDisconnect conn])

/-- `security_changed`. -/
def securityChanged
    (role : ConnRole) (level : Nat) (err infoErr : Int) : BtConnectState :=
  if btConnectManagesConn infoErr role = false then
    st
  else if err ≠ 0 then
    st
  else if options.bas = true ∧ level ≥ btSecurityL2 then
    { st with
      batteryNotificationsReady := true
      publishArmed := true }
  else
    st

/-! ## Initialisation -/

/-- The answers to the calls of `bt_connect_init`. -/
structure InitResults where
  /-- the first error of the calls before `bt_enable` -/
  register : Int
  btEnable : Int
  /-- `ykb_battsense_get_state` -/
  battery : Except Int UInt8
  advStart : Int

/-- The statics that `bt_connect_init` resets before `bt_enable`. -/
def resetBattery : BtConnectState :=
  if options.bas then
    { st with
      primaryBatteryLevel := 0
      secondaryBatteryLevel :=
        if options.splitBas then 0 else st.secondaryBatteryLevel
      secondaryBatteryNotificationsReady :=
        if options.splitBas then
          false
        else
          st.secondaryBatteryNotificationsReady
      batteryNotificationsReady := false }
  else
    st

/-- The level with which `bt_connect_init` begins, if it can be had. -/
def getBatteryState : Except Int UInt8 → BtConnectState
  | .error _ => st
  | .ok percentage =>
      if options.bas then btConnectSetBatteryLevel st percentage else st

/-- `bt_connect_init`, but for its start of the other Bluetooth link. -/
def btConnectInit (results : InitResults) : BtConnectState :=
  if results.register ≠ 0 then
    st
  else
    let st := resetBattery options st
    if results.btEnable ≠ 0 then
      st
    else
      let st := getBatteryState options { st with started := true }
        results.battery
      advertisingStart st results.advStart

end Calls

/-! ## Runs -/

inductive BtConnectEvent where
  | init (results : InitResults)
  | connected (conn : Nat) (role : ConnRole) (err : UInt8)
      (results : ConnectedResults)
  | disconnected (conn : Nat) (role : ConnRole)
      (results : DisconnectedResults)
  | securityChanged (role : ConnRole) (level : Nat) (err infoErr : Int)
  | protocolMode (evt : HidsPmEvt) (conn : Nat)
  | primaryCcc (value : UInt16)
  | secondaryCcc (value : UInt16)
  | setBatteryLevel (percentage : UInt8)
  | publishTimer
  | publish (notify : Int)
  | setSecondary (percentage : UInt8)
  | clearSecondary

/-- What the stack does itself before it reports a connection. -/
def stackConnects
    (st : BtConnectState) (conn : Nat) (role : ConnRole) (err : UInt8) :
    BtConnectState :=
  { st with
    advertising := st.advertising && role = .central
    peers := if err = 0 then (conn, role) :: st.peers else st.peers }

def btConnectStep (options : BtConnectOptions) (st : BtConnectState) :
    BtConnectEvent → Option BtConnectState
  | .init results =>
      if st.started then none else some (btConnectInit options st results)
  | .connected conn role err results =>
      if conn ∉ st.peers.map Prod.fst ∧ st.started = true ∧
          (role = .peripheral → st.advertising = true) then
        some
          (connected options (stackConnects st conn role err) conn role err
            results).1
      else
        none
  | .disconnected conn role results =>
      if (conn, role) ∈ st.peers then
        some
          (disconnected options
            { st with peers := st.peers.erase (conn, role) } conn role
            results).1
      else
        none
  | .securityChanged role level err infoErr =>
      if st.started = true ∧ role ∈ st.peers.map Prod.snd then
        some (securityChanged options st role level err infoErr)
      else
        none
  | .protocolMode evt conn => some (hidsPmEvtHandler st evt conn)
  | .primaryCcc value =>
      if options.bas ∧ st.started then
        some (primaryBatteryCccCfgChanged st value)
      else
        none
  | .secondaryCcc value =>
      if options.splitBas ∧ st.started then
        some (secondaryBatteryCccCfgChanged st value)
      else
        none
  | .setBatteryLevel percentage =>
      if options.bas then
        some (btConnectSetBatteryLevel st percentage)
      else
        none
  | .publishTimer =>
      if st.publishArmed then some (publishTimerExpires st) else none
  | .publish notify =>
      if st.publishQueued then
        some (publishPendingBatteryLevel st notify)
      else
        none
  | .setSecondary percentage =>
      if options.splitBas then
        some (btConnectSetSecondaryBatteryState st percentage)
      else
        none
  | .clearSecondary =>
      if options.splitBas then
        some (btConnectClearSecondaryBatteryState st)
      else
        none

/-- The callbacks that an event makes. -/
def connCallbacks (options : BtConnectOptions) (st : BtConnectState) :
    BtConnectEvent → List ConnCallback
  | .connected conn role err results =>
      (connected options (stackConnects st conn role err) conn role err
        results).2
  | .disconnected conn role results =>
      (disconnected options
        { st with peers := st.peers.erase (conn, role) } conn role results).2
  | _ => []

/-! ## What a step leaves alone -/

section Frames

variable (options : BtConnectOptions) (st : BtConnectState)

/-- The two states have the same slots, and the stack the same connections. -/
structure SameConnections (st next : BtConnectState) : Prop where
  connStates : next.connStates = st.connStates
  peers : next.peers = st.peers

theorem SameConnections.trans
    {first second third : BtConnectState}
    (before : SameConnections first second)
    (after : SameConnections second third) : SameConnections first third where
  connStates := after.connStates.trans before.connStates
  peers := after.peers.trans before.peers

@[simp]
theorem releaseConnState_peers (state : Option Nat) :
    (releaseConnState st state).peers = st.peers := by
  cases state <;> rfl

@[simp]
theorem releaseConnState_length (state : Option Nat) :
    (releaseConnState st state).connStates.length = st.connStates.length := by
  cases state with
  | none => rfl
  | some index => exact List.length_set ..

@[simp]
theorem hidsPmEvtHandler_peers (evt : HidsPmEvt) (conn : Nat) :
    (hidsPmEvtHandler st evt conn).peers = st.peers := by
  simp only [hidsPmEvtHandler]
  cases findConnState st conn <;> rfl

theorem advertisingStart_connections (advStart : Int) :
    SameConnections st (advertisingStart st advStart) := by
  rw [advertisingStart]
  split_ifs <;> exact ⟨rfl, rfl⟩

theorem maybeRestartAdvertising_connections (advStart : Int) :
    SameConnections st (maybeRestartAdvertising st advStart) := by
  rw [maybeRestartAdvertising]
  split_ifs
  · exact advertisingStart_connections st advStart
  · exact ⟨rfl, rfl⟩

theorem stopBatteryNotifications_connections :
    SameConnections st (stopBatteryNotifications options st) := by
  rw [stopBatteryNotifications]
  split_ifs <;> exact ⟨rfl, rfl⟩

theorem publishPendingBatteryLevel_connections (notify : Int) :
    SameConnections st (publishPendingBatteryLevel st notify) := by
  rw [publishPendingBatteryLevel]
  dsimp only
  split_ifs <;> exact ⟨rfl, rfl⟩

theorem securityChanged_connections
    (role : ConnRole) (level : Nat) (err infoErr : Int) :
    SameConnections st (securityChanged options st role level err infoErr) :=
  by
  rw [securityChanged]
  split_ifs <;> exact ⟨rfl, rfl⟩

theorem resetBattery_connections :
    SameConnections st (resetBattery options st) := by
  rw [resetBattery]
  split_ifs <;> exact ⟨rfl, rfl⟩

theorem getBatteryState_connections (battery : Except Int UInt8) :
    SameConnections st (getBatteryState options st battery) := by
  cases battery with
  | error err => exact ⟨rfl, rfl⟩
  | ok percentage =>
      rw [getBatteryState]
      split_ifs <;> exact ⟨rfl, rfl⟩

theorem btConnectInit_connections (results : InitResults) :
    SameConnections st (btConnectInit options st results) := by
  have reset := resetBattery_connections options st
  rw [btConnectInit]
  split_ifs
  · exact ⟨rfl, rfl⟩
  · exact reset
  · have enabled :
        SameConnections st { resetBattery options st with started := true } :=
      ⟨reset.connStates, reset.peers⟩
    exact
      (enabled.trans (getBatteryState_connections options _ _)).trans
        (advertisingStart_connections _ results.advStart)

/-- The event is about a connection. -/
def AboutConnection : BtConnectEvent → Prop
  | .connected _ _ _ _ => True
  | .disconnected _ _ _ => True
  | .protocolMode _ _ => True
  | _ => False

theorem frame_step
    {options : BtConnectOptions} {st next : BtConnectState}
    {event : BtConnectEvent} (elsewhere : ¬ AboutConnection event)
    (stepped : btConnectStep options st event = some next) :
    SameConnections st next ∧ connCallbacks options st event = [] := by
  cases event with
  | connected conn role err results => exact absurd trivial elsewhere
  | disconnected conn role results => exact absurd trivial elsewhere
  | protocolMode evt conn => exact absurd trivial elsewhere
  | init results =>
      rw [btConnectStep] at stepped
      split_ifs at stepped
      cases stepped
      exact ⟨btConnectInit_connections options st results, rfl⟩
  | securityChanged role level err infoErr =>
      rw [btConnectStep] at stepped
      split_ifs at stepped
      cases stepped
      exact
        ⟨securityChanged_connections options st role level err infoErr, rfl⟩
  | publish notify =>
      rw [btConnectStep] at stepped
      split_ifs at stepped
      cases stepped
      exact ⟨publishPendingBatteryLevel_connections st notify, rfl⟩
  | _ =>
      rw [btConnectStep] at stepped
      split_ifs at stepped
      cases stepped
      exact ⟨⟨rfl, rfl⟩, rfl⟩

end Frames

/-! ## What a step does to the connections -/

section Outcomes

variable
    (options : BtConnectOptions) (st : BtConnectState) (conn : Nat)
    (role : ConnRole)

/-- The connection takes a slot. -/
def Accepts (err : UInt8) (results : ConnectedResults) : Prop :=
  err = 0 ∧ btConnectManagesConn results.btConnGetInfo role = true ∧
    (allocConnState st).isSome = true ∧
    UInt8.ofInt results.btHidsConnected = 0

instance (err : UInt8) (results : ConnectedResults) :
    Decidable (Accepts st role err results) := by
  unfold Accepts
  infer_instance

/-- The disconnection is one the subsystem acts on. -/
def Concerns (results : DisconnectedResults) : Prop :=
  btConnectManagesConn results.btConnGetInfo role = true ∨
    (findConnState st conn).isSome = true

instance (results : DisconnectedResults) :
    Decidable (Concerns st conn role results) := by
  unfold Concerns
  infer_instance

theorem connected_refused
    {err : UInt8} {results : ConnectedResults}
    (refused : ¬ Accepts st role err results) :
    connected options st conn role err results = (st, []) := by
  by_cases succeeds : err = 0
  · rw [connected, if_neg (not_not.mpr succeeds)]
    cases managed : btConnectManagesConn results.btConnGetInfo role with
    | false => rfl
    | true =>
        cases free : allocConnState st with
        | none => rfl
        | some index =>
            have answered : UInt8.ofInt results.btHidsConnected ≠ 0 :=
              fun registered =>
                refused ⟨succeeds, managed, by rw [free]; rfl, registered⟩
            simp only [reduceCtorEq, if_false]
            rw [if_pos answered]
  · rw [connected, if_pos succeeds]

theorem connected_accepted
    {err : UInt8} {results : ConnectedResults} {index : Nat}
    (accepts : Accepts st role err results)
    (free : allocConnState st = some index) :
    connected options st conn role err results =
      ({ st with
          connStates := st.connStates.set index ⟨some conn, false⟩
          isAdvertising := false
          batteryNotificationsReady :=
            if options.bas then false else st.batteryNotificationsReady },
        [.onConnect conn]) := by
  rcases accepts with ⟨rfl, managed, _, registered⟩
  rw [connected, if_neg (not_not.mpr rfl), managed,
    if_neg Bool.noConfusion, free]
  exact if_neg (not_not.mpr registered)

theorem disconnected_ignored
    {results : DisconnectedResults}
    (ignored : ¬ Concerns st conn role results) :
    disconnected options st conn role results = (st, []) := by
  rcases not_or.mp ignored with ⟨unmanaged, unknown⟩
  exact
    if_pos
      ⟨eq_false_of_ne_true unmanaged,
        Option.not_isSome_iff_eq_none.mp unknown⟩

theorem disconnected_concerned
    {results : DisconnectedResults}
    (concerns : Concerns st conn role results) :
    disconnected options st conn role results =
      (maybeRestartAdvertising
          (stopBatteryNotifications options
            (releaseConnState st (findConnState st conn)))
          results.advStart,
        [.onDisconnect conn]) := by
  refine if_neg ?_
  rintro ⟨unmanaged, unknown⟩
  rcases concerns with managed | known
  · exact Bool.false_ne_true (unmanaged.symm.trans managed)
  · rw [unknown] at known
    cases known

end Outcomes

end YkbFirmware.BtConnect.Connections
