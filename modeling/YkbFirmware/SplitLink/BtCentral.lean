import YkbFirmware.SplitLink.BtReceive
import YkbFirmware.SplitLink.Connection

/-!
# The central of the Bluetooth link

`central.c` scans for the other half, connects to it, looks up the service of
the link and its two characteristics, and subscribes to the one it receives
on.  From then on the link counts as connected, until the other half ends the
subscription or the connection drops.

The Bluetooth host is not part of the repository.  What it keeps is part of
the state, and it may call back whenever it documents that it may: it works
off discoveries in the order they were started, each over an established
connection, and an attribute it reports is one that the discovery looks for.
-/

namespace YkbFirmware.SplitLink.BtCentral

open YkbFirmware.Library.TransitionSystem
open YkbFirmware.SplitLink.Connection
open YkbFirmware.SplitLink.BtReceive
  (failed einval emsgsize eagain enotconn)

/-! ## State -/

/-- The UUIDs of the service and of its characteristics. -/
inductive SplitlinkUuid where
  | svc
  | tx
  | rx
deriving DecidableEq, Repr

inductive DiscoverType where
  | primary
  | characteristic
deriving DecidableEq, Repr

/-- `struct bt_gatt_discover_params`; zeroed, it is of the first type. -/
structure DiscoverParams where
  uuid : Option SplitlinkUuid
  startHandle : UInt16
  endHandle : UInt16
  type : DiscoverType
deriving DecidableEq, Repr

def DiscoverParams.zero : DiscoverParams where
  uuid := none
  startHandle := 0
  endHandle := 0
  type := .primary

/--
`struct splitlink_bt_data` with `splitlink_bt_scan_started`; and what the host
keeps.
-/
structure CentralState where
  conn : Option Nat
  link : ConnectionState
  ready : Bool
  scanStarted : Bool
  notifyEnabled : Bool
  serviceStartHandle : UInt16
  serviceEndHandle : UInt16
  txHandle : UInt16
  rxHandle : UInt16
  cccHandle : UInt16
  discoverParams : DiscoverParams
  /-- `value_handle` of `subscribe_params`. -/
  valueHandle : UInt16
  /-- The timer of `mtu_fallback_work` runs. -/
  mtuFallback : Bool
  /-- The host scans. -/
  scanning : Bool
  /-- The host has reported that the connection is up. -/
  established : Bool
  /-- What the discoveries under way look for. -/
  discoveries : List SplitlinkUuid
  /-- The host notifies this half. -/
  subscribed : Bool

def CentralState.initial : CentralState where
  conn := none
  link := .initial
  ready := false
  scanStarted := false
  notifyEnabled := false
  serviceStartHandle := 0
  serviceEndHandle := 0
  txHandle := 0
  rxHandle := 0
  cccHandle := 0
  discoverParams := .zero
  valueHandle := 0
  mtuFallback := false
  scanning := false
  established := false
  discoveries := []
  subscribed := false

section Calls

variable (st : CentralState)

/-! ## Scanning -/

/-- `splitlink_bt_central_start_scan`. -/
def splitlinkBtCentralStartScan (scanStart : Int) : CentralState :=
  if failed scanStart then
    { st with scanning := false }
  else
    { st with
      scanStarted := true
      scanning := true }

/-- `splitlink_bt_start`. -/
def splitlinkBtStart (btIsReady : Bool) (scanStart : Int) :
    Int × CentralState :=
  if btIsReady = false then
    (-eagain, st)
  else
    let st := { st with ready := true }
    if st.scanStarted then
      (0, st)
    else
      (0, splitlinkBtCentralStartScan st scanStart)

/-- What the host answers when an advertisement is acted on. -/
structure FoundResults where
  scanStop : Int
  connLeCreate : Int
  conn : Nat
  scanStart : Int

/--
`splitlink_bt_device_found`; `connectable` is the check of the type, and
`matched` what `splitlink_bt_match_service` finds.
-/
def splitlinkBtDeviceFound
    (connectable matched : Bool) (results : FoundResults) : CentralState :=
  if connectable = false then
    st
  else if st.conn.isSome then
    st
  else if matched = false then
    st
  else if results.scanStop ≠ 0 then
    st
  else
    let st := { st with scanning := false }
    if results.connLeCreate ≠ 0 then
      splitlinkBtCentralStartScan { st with conn := none } results.scanStart
    else
      { st with conn := some results.conn }

/-! ## Discovery -/

/-- A call of `bt_gatt_discover`. -/
def btGattDiscover (discover : Int) : CentralState :=
  if discover = 0 then
    { st with
      discoveries := st.discoveries ++ st.discoverParams.uuid.toList }
  else
    st

/-- `splitlink_bt_start_primary_discovery`. -/
def splitlinkBtStartPrimaryDiscovery (discover : Int) : CentralState :=
  if st.conn = none then
    st
  else if st.serviceStartHandle ≠ 0 then
    st
  else
    btGattDiscover
      { st with
        discoverParams :=
          { uuid := some .svc
            startHandle := 0x0001
            endHandle := 0xFFFF
            type := .primary } }
      discover

/-- An attribute that is reported. -/
structure Attribute where
  handle : UInt16
  /-- `end_handle` of a service. -/
  endHandle : UInt16
  /-- `bt_gatt_attr_value_handle` of a characteristic. -/
  valueHandle : UInt16
deriving DecidableEq, Repr

/-- What the host answers to the calls of `splitlink_bt_discover_cb`. -/
structure DiscoverResults where
  discover : Int
  subscribe : Int

/-- `splitlink_bt_discover_cb`, which ends the discovery on every path. -/
def splitlinkBtDiscoverCb
    (attr : Option Attribute) (results : DiscoverResults) : CentralState :=
  match attr with
  | none => { st with discoverParams := .zero }
  | some attr =>
      if st.discoverParams.type = .primary then
        btGattDiscover
          { st with
            serviceStartHandle := attr.handle + 1
            serviceEndHandle := attr.endHandle
            discoverParams :=
              { uuid := some .tx
                startHandle := attr.handle + 1
                endHandle := attr.endHandle
                type := .characteristic } }
          results.discover
      else if st.discoverParams.uuid = some .tx then
        let cccHandle := attr.valueHandle + 1
        btGattDiscover
          { st with
            txHandle := attr.valueHandle
            cccHandle := cccHandle
            discoverParams :=
              { uuid := some .rx
                startHandle := cccHandle + 1
                endHandle := st.serviceEndHandle
                type := .characteristic } }
          results.discover
      else if st.discoverParams.uuid = some .rx then
        let st :=
          { st with
            rxHandle := attr.valueHandle
            valueHandle := st.txHandle }
        if failed results.subscribe then
          st
        else
          { st with
            subscribed := true
            notifyEnabled := true
            link := splitlinkBtNotifyConnected st.link }
      else
        st

/-! ## Callbacks of the host -/

/-- `splitlink_bt_notify_cb`; a packet is queued and changes nothing here. -/
def splitlinkBtNotifyCb (stopped : Bool) : CentralState :=
  if stopped then
    { st with
      subscribed := false
      valueHandle := 0
      notifyEnabled := false
      txHandle := 0
      cccHandle := 0
      rxHandle := 0
      link := splitlinkBtNotifyDisconnected st.link }
  else
    st

/-- `splitlink_bt_mtu_exchanged`. -/
def splitlinkBtMtuExchanged (discover : Int) : CentralState :=
  splitlinkBtStartPrimaryDiscovery { st with mtuFallback := false } discover

/-- `splitlink_bt_mtu_fallback_work_handler`, when its timer expires. -/
def splitlinkBtMtuFallbackWorkHandler (discover : Int) : CentralState :=
  let st := { st with mtuFallback := false }
  if st.conn = none then
    st
  else if st.serviceStartHandle ≠ 0 then
    st
  else
    splitlinkBtStartPrimaryDiscovery st discover

/-- What the host answers when a connection is reported. -/
structure ConnectedResults where
  exchangeMtu : Int
  discover : Int
  scanStart : Int

/-- `splitlink_bt_connected`. -/
def splitlinkBtConnected
    (conn : Nat) (err : UInt8) (results : ConnectedResults) : CentralState :=
  if some conn ≠ st.conn then
    st
  else if err ≠ 0 then
    splitlinkBtCentralStartScan { st with conn := none } results.scanStart
  else
    let st := { st with established := true }
    if failed results.exchangeMtu then
      splitlinkBtMtuExchanged st results.discover
    else
      { st with mtuFallback := true }

/-- `splitlink_bt_reset_discovery_state`. -/
def splitlinkBtResetDiscoveryState : CentralState :=
  { st with
    notifyEnabled := false
    serviceStartHandle := 0
    serviceEndHandle := 0
    txHandle := 0
    rxHandle := 0
    cccHandle := 0
    discoverParams := .zero
    valueHandle := 0 }

/--
`splitlink_bt_disconnected`; with the connection the host drops its
discoveries and its subscription.
-/
def splitlinkBtDisconnected (conn : Nat) (scanStart : Int) : CentralState :=
  if some conn ≠ st.conn then
    st
  else
    let st :=
      { st with
        established := false
        discoveries := []
        subscribed := false
        mtuFallback := false
        link := splitlinkBtNotifyDisconnected st.link }
    splitlinkBtCentralStartScan
      { splitlinkBtResetDiscoveryState st with conn := none } scanStart

/-- What `splitlink_bt_send` comes to. -/
inductive SendOutcome where
  | refused (err : Int)
  /-- `bt_gatt_write_without_response` to a handle of a connection. -/
  | writes (conn : Nat) (handle : UInt16)
deriving DecidableEq, Repr

/-- `splitlink_bt_send`. -/
def splitlinkBtSend (packetLength dataLen : Nat) : SendOutcome :=
  if dataLen = 0 then
    .refused (-einval)
  else if dataLen > packetLength then
    .refused (-emsgsize)
  else if st.link.connected = false then
    .refused (-enotconn)
  else
    match st.conn with
    | none => .refused (-enotconn)
    | some conn =>
        if st.rxHandle = 0 then
          .refused (-enotconn)
        else
          .writes conn st.rxHandle

end Calls

/-! ## Runs -/

/-- The handles of the service of another half. -/
structure OtherHalf where
  service : UInt16
  serviceEnd : UInt16
  tx : UInt16
  rx : UInt16
  /-- Its characteristics follow the service. -/
  followed : service + 1 ≠ 0
  someRx : rx ≠ 0

/-- What a discovery for a UUID reports. -/
def OtherHalf.attribute (half : OtherHalf) : SplitlinkUuid → Attribute
  | .svc => ⟨half.service, half.serviceEnd, 0⟩
  | .tx => ⟨half.tx - 1, 0, half.tx⟩
  | .rx => ⟨half.rx - 1, 0, half.rx⟩

inductive CentralEvent where
  | start (btIsReady : Bool) (scanStart : Int)
  | deviceFound (connectable matched : Bool) (results : FoundResults)
  | connected (conn : Nat) (err : UInt8) (results : ConnectedResults)
  | mtuExchanged (discover : Int)
  | mtuFallback (discover : Int)
  /-- The first of the discoveries has found what it looks for, or ended. -/
  | discovered (found : Bool) (results : DiscoverResults)
  | notified (stopped : Bool)
  | disconnected (conn : Nat) (scanStart : Int)
  | workBegins
  | workEnds

/-- `halves` gives the half at the other end of each connection. -/
def centralStep (halves : Nat → OtherHalf) (st : CentralState) :
    CentralEvent → Option CentralState
  | .start btIsReady scanStart =>
      some (splitlinkBtStart st btIsReady scanStart).2
  | .deviceFound connectable matched results =>
      if st.scanning then
        some (splitlinkBtDeviceFound st connectable matched results)
      else
        none
  | .connected conn err results =>
      if st.established ∧ st.conn = some conn then
        none
      else
        some (splitlinkBtConnected st conn err results)
  | .mtuExchanged discover =>
      if st.established then
        some (splitlinkBtMtuExchanged st discover)
      else
        none
  | .mtuFallback discover =>
      if st.mtuFallback then
        some (splitlinkBtMtuFallbackWorkHandler st discover)
      else
        none
  | .discovered found results =>
      match st.conn, st.discoveries with
      | some conn, uuid :: later =>
          let attr :=
            if found then some ((halves conn).attribute uuid) else none
          some
            (splitlinkBtDiscoverCb { st with discoveries := later } attr
              results)
      | _, _ => none
  | .notified stopped =>
      if st.subscribed then
        some (splitlinkBtNotifyCb st stopped)
      else
        none
  | .disconnected conn scanStart =>
      some (splitlinkBtDisconnected st conn scanStart)
  | .workBegins =>
      (connectionStep st.link .workBegins).map fun link =>
        { st with link := link }
  | .workEnds =>
      (connectionStep st.link .workEnds).map fun link =>
        { st with link := link }

/-! ## The service of the other half -/

/-- The discovery under way, with the parameters it left behind. -/
def Searching (half : OtherHalf) (st : CentralState) :
    List SplitlinkUuid → Prop
  | [] => True
  | [.svc] => st.discoverParams.type = .primary
  | [.tx] =>
      st.discoverParams.type = .characteristic ∧
        st.discoverParams.uuid = some .tx ∧ st.serviceStartHandle ≠ 0
  | [.rx] =>
      st.discoverParams.type = .characteristic ∧
        st.discoverParams.uuid = some .rx ∧ st.serviceStartHandle ≠ 0 ∧
          st.txHandle = half.tx
  | _ => False

/-- What is known of a connection that is up. -/
structure Served (half : OtherHalf) (st : CentralState) : Prop where
  level : st.link.connected = st.subscribed
  timed : st.mtuFallback = true → st.discoveries = []
  searching : Searching half st st.discoveries
  alone : st.discoveries ≠ [] → st.subscribed = false
  found :
    st.subscribed = true →
      st.rxHandle = half.rx ∧ st.valueHandle = half.tx ∧
        st.serviceStartHandle ≠ 0

/-- Nothing is known of the other half. -/
structure Unserved (st : CentralState) : Prop where
  level : st.link.connected = false
  timed : st.mtuFallback = false
  discoveries : st.discoveries = []
  subscribed : st.subscribed = false
  handle : st.rxHandle = 0

/-- The state fits the half at the other end, once its connection is up. -/
def Fits (halves : Nat → OtherHalf) (st : CentralState) : Prop :=
  if st.established then
    ∃ conn, st.conn = some conn ∧ Served (halves conn) st
  else
    Unserved st

/--
The answer to the request for a larger MTU does not come between the start of
the discovery that did not wait for it and the discovery of the service.
-/
def AnswersInTime (st : CentralState) : CentralEvent → Prop
  | .mtuExchanged _ => st.serviceStartHandle = 0 → st.discoveries = []
  | _ => True

instance (st : CentralState) (event : CentralEvent) :
    Decidable (AnswersInTime st event) := by
  cases event <;> unfold AnswersInTime <;> infer_instance

section Steps

variable
    {halves : Nat → OtherHalf} {half : OtherHalf} {st next : CentralState}

theorem Unserved.served (unserved : Unserved st) : Served half st where
  level := by rw [unserved.level, unserved.subscribed]
  timed := fun _ => unserved.discoveries
  searching := by
    rw [unserved.discoveries]
    trivial
  alone := fun _ => unserved.subscribed
  found := fun subscribed => by
    rw [unserved.subscribed] at subscribed
    cases subscribed

/-- A discovery of the service starts only if none is under way. -/
theorem Served.startPrimaryDiscovery
    (served : Served half st) (discover : Int)
    (expired : st.mtuFallback = false)
    (alone : st.serviceStartHandle = 0 → st.discoveries = []) :
    Served half (splitlinkBtStartPrimaryDiscovery st discover) := by
  rw [splitlinkBtStartPrimaryDiscovery]
  split_ifs with unconnected found
  · exact served
  · exact served
  · have unfound : st.serviceStartHandle = 0 := not_not.mp found
    have idle := alone unfound
    have silent : st.subscribed = false := by
      by_contra subscribed
      exact found (served.found (by simpa using subscribed)).2.2
    rw [btGattDiscover]
    split_ifs with started
    · refine ⟨served.level, fun timer => ?_, ?_, fun _ => silent, ?_⟩
      · rw [expired] at timer
        cases timer
      · rw [idle]
        exact rfl
      · exact served.found
    · refine
        ⟨served.level, served.timed, ?_, served.alone, served.found⟩
      rw [idle]
      trivial

/-- A call of `bt_gatt_discover` with nothing under way. -/
theorem Served.discover
    (served : Served half st) (discover : Int) {uuid : SplitlinkUuid}
    (expired : st.mtuFallback = false) (silent : st.subscribed = false)
    (idle : st.discoveries = []) (params : st.discoverParams.uuid = some uuid)
    (searching : Searching half st [uuid]) :
    Served half (btGattDiscover st discover) := by
  rw [btGattDiscover]
  split_ifs with started
  · refine ⟨served.level, fun timer => ?_, ?_, fun _ => silent, served.found⟩
    · rw [expired] at timer
      cases timer
    · rw [idle, params]
      exact searching
  · exact served

/-- A discovery reports what it looks for, and nothing else is under way. -/
theorem Served.discoverCb
    {uuid : SplitlinkUuid} {later : List SplitlinkUuid}
    (served : Served half st) (first : st.discoveries = uuid :: later)
    (found : Bool) (results : DiscoverResults) :
    Served half
      (splitlinkBtDiscoverCb { st with discoveries := later }
        (if found then some (half.attribute uuid) else none) results) := by
  have searching := served.searching
  rw [first] at searching
  have last : later = [] := by
    cases later with
    | nil => rfl
    | cons => cases uuid <;> exact searching.elim
  subst last
  have silent : st.subscribed = false := served.alone (by simp [first])
  have disconnected : st.link.connected = false := by
    rw [served.level, silent]
  have expired : st.mtuFallback = false := by
    by_contra timer
    have idle := served.timed (by simpa using timer)
    rw [first] at idle
    cases idle
  cases found with
  | false =>
      refine
        ⟨served.level, fun _ => rfl, trivial, fun _ => silent, served.found⟩
  | true =>
      rw [if_pos rfl]
      cases uuid with
      | svc =>
          have primary : st.discoverParams.type = .primary := searching
          simp only [splitlinkBtDiscoverCb, if_pos primary,
            OtherHalf.attribute]
          refine Served.discover ?_ _ expired silent rfl rfl ?_
          · refine
              ⟨served.level, fun _ => rfl, trivial, fun _ => silent,
                fun subscribed => absurd subscribed (by simp [silent])⟩
          · exact ⟨rfl, rfl, half.followed⟩
      | tx =>
          rcases searching with ⟨characteristic, uuid, service⟩
          simp only [splitlinkBtDiscoverCb, characteristic, uuid, reduceCtorEq,
            if_false, if_true, OtherHalf.attribute]
          refine Served.discover ?_ _ expired silent rfl rfl ?_
          · refine
              ⟨served.level, fun _ => rfl, trivial, fun _ => silent,
                fun subscribed => absurd subscribed (by simp [silent])⟩
          · exact ⟨rfl, rfl, service, rfl⟩
      | rx =>
          rcases searching with ⟨characteristic, uuid, service, tx⟩
          simp only [splitlinkBtDiscoverCb, characteristic, uuid, reduceCtorEq,
            if_false, if_true, OtherHalf.attribute, Option.some.injEq]
          split_ifs with refused
          · refine
              ⟨served.level, fun _ => rfl, trivial, fun _ => silent,
                fun subscribed => absurd subscribed (by simp [silent])⟩
          · exact
              ⟨notifyConnected_connected st.link, fun _ => rfl, trivial,
                fun some => absurd rfl some, fun _ => ⟨rfl, tx, service⟩⟩

/-! The connection, and whether it is up, change with it only. -/

@[simp]
theorem startScan_conn (scanStart : Int) :
    (splitlinkBtCentralStartScan st scanStart).conn = st.conn := by
  rw [splitlinkBtCentralStartScan]
  split_ifs <;> rfl

@[simp]
theorem startScan_established (scanStart : Int) :
    (splitlinkBtCentralStartScan st scanStart).established =
      st.established := by
  rw [splitlinkBtCentralStartScan]
  split_ifs <;> rfl

@[simp]
theorem discover_conn (discover : Int) :
    (btGattDiscover st discover).conn = st.conn := by
  rw [btGattDiscover]
  split_ifs <;> rfl

@[simp]
theorem discover_established (discover : Int) :
    (btGattDiscover st discover).established = st.established := by
  rw [btGattDiscover]
  split_ifs <;> rfl

@[simp]
theorem startPrimaryDiscovery_conn (discover : Int) :
    (splitlinkBtStartPrimaryDiscovery st discover).conn = st.conn := by
  rw [splitlinkBtStartPrimaryDiscovery]
  split_ifs <;> simp

@[simp]
theorem startPrimaryDiscovery_established (discover : Int) :
    (splitlinkBtStartPrimaryDiscovery st discover).established =
      st.established := by
  rw [splitlinkBtStartPrimaryDiscovery]
  split_ifs <;> simp

@[simp]
theorem discoverCb_conn
    (attr : Option Attribute) (results : DiscoverResults) :
    (splitlinkBtDiscoverCb st attr results).conn = st.conn := by
  unfold splitlinkBtDiscoverCb
  cases attr with
  | none => rfl
  | some attr =>
      dsimp only
      split_ifs <;> simp

@[simp]
theorem discoverCb_established
    (attr : Option Attribute) (results : DiscoverResults) :
    (splitlinkBtDiscoverCb st attr results).established =
      st.established := by
  unfold splitlinkBtDiscoverCb
  cases attr with
  | none => rfl
  | some attr =>
      dsimp only
      split_ifs <;> simp

/-! A step keeps the state fitting. -/

/-- Neither depends on what the central has from before a connection is up. -/
theorem Unserved.before
    (unserved : Unserved st) (conn : Option Nat)
    (ready scanStarted scanning established : Bool) :
    Unserved
      { st with
        conn := conn
        ready := ready
        scanStarted := scanStarted
        scanning := scanning
        established := established } :=
  ⟨unserved.level, unserved.timed, unserved.discoveries,
    unserved.subscribed, unserved.handle⟩

theorem Served.before
    (served : Served half st) (conn : Option Nat)
    (ready scanStarted scanning established : Bool) :
    Served half
      { st with
        conn := conn
        ready := ready
        scanStarted := scanStarted
        scanning := scanning
        established := established } := by
  have searching := served.searching
  exact ⟨served.level, served.timed, searching, served.alone, served.found⟩

theorem Unserved.startScan (unserved : Unserved st) (scanStart : Int) :
    Unserved (splitlinkBtCentralStartScan st scanStart) := by
  rw [splitlinkBtCentralStartScan]
  split_ifs
  · exact unserved.before _ _ _ _ _
  · exact unserved.before _ _ _ _ _

theorem Served.startScan (served : Served half st) (scanStart : Int) :
    Served half (splitlinkBtCentralStartScan st scanStart) := by
  rw [splitlinkBtCentralStartScan]
  split_ifs
  · exact served.before _ _ _ _ _
  · exact served.before _ _ _ _ _

theorem fits_of_served {conn : Nat}
    (established : st.established = true) (attached : st.conn = some conn)
    (served : Served (halves conn) st) : Fits halves st := by
  rw [Fits, if_pos established]
  exact ⟨conn, attached, served⟩

theorem fits_of_unserved
    (established : st.established = false) (unserved : Unserved st) :
    Fits halves st := by
  rw [Fits, if_neg (by simp [established])]
  exact unserved

/-- A connection that is up, or none. -/
theorem Fits.cases (fits : Fits halves st) :
    (∃ conn,
      st.established = true ∧ st.conn = some conn ∧
        Served (halves conn) st) ∨
      st.established = false ∧ Unserved st := by
  rw [Fits] at fits
  split_ifs at fits with established
  · rcases fits with ⟨conn, attached, served⟩
    exact .inl ⟨conn, established, attached, served⟩
  · exact .inr ⟨by simpa using established, fits⟩

theorem Fits.startScan (fits : Fits halves st) (scanStart : Int) :
    Fits halves (splitlinkBtCentralStartScan st scanStart) := by
  rcases fits.cases with
    ⟨conn, established, attached, served⟩ | ⟨lost, unserved⟩
  · exact
      fits_of_served (by simpa using established) (by simpa using attached)
        (served.startScan scanStart)
  · exact fits_of_unserved (by simpa using lost) (unserved.startScan scanStart)

theorem Fits.deviceFound
    (fits : Fits halves st) (connectable matched : Bool)
    (results : FoundResults) :
    Fits halves (splitlinkBtDeviceFound st connectable matched results) := by
  rw [splitlinkBtDeviceFound]
  split_ifs with _ attached
  · exact fits
  · exact fits
  · exact fits
  · exact fits
  all_goals
    rcases fits.cases with ⟨conn, -, same, -⟩ | ⟨lost, unserved⟩
    · exact absurd (by simp [same]) attached
  · apply Fits.startScan
    exact fits_of_unserved lost (unserved.before _ _ _ _ _)
  · exact fits_of_unserved lost (unserved.before _ _ _ _ _)

theorem Served.mtuExchanged
    (served : Served half st) (discover : Int)
    (inTime : st.serviceStartHandle = 0 → st.discoveries = []) :
    Served half (splitlinkBtMtuExchanged st discover) := by
  have searching := served.searching
  refine Served.startPrimaryDiscovery ?_ discover rfl inTime
  exact
    ⟨served.level, fun timer => Bool.noConfusion timer, searching,
      served.alone, served.found⟩

theorem Served.mtuFallback
    (served : Served half st) (discover : Int)
    (timer : st.mtuFallback = true) :
    Served half (splitlinkBtMtuFallbackWorkHandler st discover) := by
  have idle := served.timed timer
  have expired : Served half { st with mtuFallback := false } := by
    refine
      ⟨served.level, fun timer => Bool.noConfusion timer, ?_, served.alone,
        served.found⟩
    rw [idle]
    trivial
  rw [splitlinkBtMtuFallbackWorkHandler]
  split_ifs
  · exact expired
  · exact expired
  · exact expired.startPrimaryDiscovery discover rfl fun _ => idle

theorem Fits.connected
    (fits : Fits halves st) (conn : Nat) (err : UInt8)
    (results : ConnectedResults)
    (unreported : ¬ (st.established = true ∧ st.conn = some conn)) :
    Fits halves (splitlinkBtConnected st conn err results) := by
  rw [splitlinkBtConnected]
  by_cases other : some conn ≠ st.conn
  · rw [if_pos other]
    exact fits
  rw [if_neg other]
  have attached : st.conn = some conn := (not_not.mp other).symm
  have lost : st.established = false ∧ Unserved st := by
    rcases fits.cases with ⟨-, established, -, -⟩ | lost
    · exact absurd ⟨established, attached⟩ unreported
    · exact lost
  have unserved := lost.2
  split_ifs
  · apply Fits.startScan
    exact fits_of_unserved lost.1 (unserved.before _ _ _ _ _)
  all_goals
    have established :
        Served (halves conn) { st with established := true } :=
      (unserved.before _ _ _ _ _).served
  · refine
      fits_of_served ?_ ?_
        (established.mtuExchanged results.discover
          fun _ => unserved.discoveries)
    · simp [splitlinkBtMtuExchanged]
    · simpa [splitlinkBtMtuExchanged] using attached
  · refine fits_of_served rfl attached ?_
    exact
      ⟨established.level, fun _ => unserved.discoveries,
        established.searching, established.alone, established.found⟩

theorem Fits.notified (fits : Fits halves st) (stopped : Bool)
    (subscribed : st.subscribed = true) :
    Fits halves (splitlinkBtNotifyCb st stopped) := by
  rw [splitlinkBtNotifyCb]
  split_ifs
  · rcases fits.cases with
      ⟨conn, established, attached, served⟩ | ⟨-, unserved⟩
    · have idle : st.discoveries = [] := by
        by_contra busy
        rw [served.alone busy] at subscribed
        cases subscribed
      refine
        fits_of_served established attached
          ⟨notifyDisconnected_connected st.link, served.timed, ?_,
            fun _ => rfl, fun impossible => Bool.noConfusion impossible⟩
      rw [idle]
      trivial
    · rw [unserved.subscribed] at subscribed
      cases subscribed
  · exact fits

theorem Fits.disconnected
    (fits : Fits halves st) (conn : Nat) (scanStart : Int) :
    Fits halves (splitlinkBtDisconnected st conn scanStart) := by
  rw [splitlinkBtDisconnected]
  split_ifs with other
  · exact fits
  · refine Fits.startScan (fits_of_unserved rfl ?_) scanStart
    exact ⟨notifyDisconnected_connected st.link, rfl, rfl, rfl, rfl⟩

/-- Work items leave the level as it is. -/
theorem Fits.works {event : ConnectionEvent} {link : ConnectionState}
    (fits : Fits halves st)
    (works : event = .workBegins ∨ event = .workEnds)
    (stepped : connectionStep st.link event = some link) :
    Fits halves { st with link := link } := by
  have level : link.connected = st.link.connected := by
    rcases works with rfl | rfl
    · exact (settledLevel_step (by simp [ChangesLevel, submission]) stepped).2
    · exact (settledLevel_step (by simp [ChangesLevel, submission]) stepped).2
  rcases fits.cases with
    ⟨conn, established, attached, served⟩ | ⟨lost, unserved⟩
  · have searching := served.searching
    exact
      fits_of_served established attached
        ⟨level.trans served.level, served.timed, searching, served.alone,
          served.found⟩
  · exact
      fits_of_unserved lost
        ⟨level.trans unserved.level, unserved.timed, unserved.discoveries,
          unserved.subscribed, unserved.handle⟩

theorem fits_step
    {event : CentralEvent} (fits : Fits halves st)
    (inTime : AnswersInTime st event)
    (stepped : centralStep halves st event = some next) :
    Fits halves next := by
  cases event with
  | start btIsReady scanStart =>
      cases stepped
      have ready : Fits halves { st with ready := true } := by
        rcases fits.cases with
          ⟨conn, established, attached, served⟩ | ⟨lost, unserved⟩
        · exact
            fits_of_served established attached (served.before _ _ _ _ _)
        · exact fits_of_unserved lost (unserved.before _ _ _ _ _)
      simp only [splitlinkBtStart]
      split_ifs
      · exact fits
      · exact ready
      · exact ready.startScan scanStart
  | deviceFound connectable matched results =>
      rw [centralStep] at stepped
      split_ifs at stepped
      cases stepped
      exact fits.deviceFound connectable matched results
  | connected conn err results =>
      rw [centralStep] at stepped
      split_ifs at stepped with reported
      cases stepped
      exact fits.connected conn err results reported
  | mtuExchanged discover =>
      rw [centralStep] at stepped
      split_ifs at stepped with up
      cases stepped
      rcases fits.cases with
        ⟨conn, established, attached, served⟩ | ⟨lost, -⟩
      · refine
          fits_of_served ?_ ?_ (served.mtuExchanged discover inTime)
        · simpa [splitlinkBtMtuExchanged] using established
        · simpa [splitlinkBtMtuExchanged] using attached
      · rw [lost] at up
        cases up
  | mtuFallback discover =>
      rw [centralStep] at stepped
      split_ifs at stepped with timer
      cases stepped
      rcases fits.cases with
        ⟨conn, established, attached, served⟩ | ⟨-, unserved⟩
      · refine fits_of_served ?_ ?_ (served.mtuFallback discover timer)
        · rw [splitlinkBtMtuFallbackWorkHandler]
          split_ifs <;> simpa using established
        · rw [splitlinkBtMtuFallbackWorkHandler]
          split_ifs <;> simpa using attached
      · rw [unserved.timed] at timer
        cases timer
  | discovered found results =>
      rw [centralStep] at stepped
      split at stepped
      next conn uuid later attached busy =>
        cases stepped
        rcases fits.cases with
          ⟨same, established, attachedSame, served⟩ | ⟨-, unserved⟩
        · cases attached.symm.trans attachedSame
          refine
            fits_of_served ?_ ?_ (served.discoverCb busy found results)
          · simpa using established
          · simpa using attached
        · rw [unserved.discoveries] at busy
          cases busy
      next => cases stepped
  | notified stopped =>
      rw [centralStep] at stepped
      split_ifs at stepped with subscribed
      cases stepped
      exact fits.notified stopped subscribed
  | disconnected conn scanStart =>
      cases stepped
      exact fits.disconnected conn scanStart
  | workBegins =>
      rcases Option.map_eq_some_iff.mp stepped with ⟨link, worked, rfl⟩
      exact fits.works (.inl rfl) worked
  | workEnds =>
      rcases Option.map_eq_some_iff.mp stepped with ⟨link, worked, rfl⟩
      exact fits.works (.inr rfl) worked

end Steps

theorem fits_initial (halves : Nat → OtherHalf) : Fits halves .initial :=
  fits_of_unserved rfl ⟨rfl, rfl, rfl, rfl, rfl⟩

section Runs

variable
    {halves : Nat → OtherHalf} {events : List CentralEvent}
    {finish : CentralState}

theorem fits_of_run
    (met :
      StepsMeet (centralStep halves) AnswersInTime .initial events)
    (ran : run (centralStep halves) .initial events = some finish) :
    Fits halves finish :=
  run_preserves_of_stepsMeet
    (fun _ _ _ fits inTime stepped => fits_step fits inTime stepped)
    (fits_initial halves) met ran

end Runs

/--
If the host answers requests for a larger MTU in time, the central writes to
the receiving characteristic of the half it has a connection with, and does so
exactly while the link counts as connected; it is subscribed to the other one.
-/
theorem writes_reach_other_half
    (halves : Nat → OtherHalf) (events : List CentralEvent)
    (finish : CentralState)
    (met :
      StepsMeet (centralStep halves) AnswersInTime .initial events)
    (ran : run (centralStep halves) .initial events = some finish) :
    (∀ packetLength dataLen conn handle,
      splitlinkBtSend finish packetLength dataLen = .writes conn handle ↔
        (0 < dataLen ∧ dataLen ≤ packetLength) ∧
          finish.link.connected = true ∧ finish.conn = some conn ∧
            handle = (halves conn).rx) ∧
      (finish.link.connected = true →
        finish.subscribed = true ∧
          ∃ conn,
            finish.conn = some conn ∧
              finish.valueHandle = (halves conn).tx) := by
  have known :
      finish.link.connected = true →
        ∃ conn,
          finish.conn = some conn ∧ finish.rxHandle = (halves conn).rx ∧
            finish.valueHandle = (halves conn).tx ∧
              finish.subscribed = true := by
    intro connected
    rcases (fits_of_run met ran).cases with
      ⟨conn, -, attached, served⟩ | ⟨-, unserved⟩
    · have subscribed := served.level.symm.trans connected
      have found := served.found subscribed
      exact ⟨conn, attached, found.1, found.2.1, subscribed⟩
    · rw [unserved.level] at connected
      cases connected
  constructor
  · intro packetLength dataLen conn handle
    by_cases disconnected : finish.link.connected = false
    · simp only [splitlinkBtSend, if_pos disconnected]
      split_ifs <;> simp [disconnected]
    · have connected : finish.link.connected = true := by
        simpa using disconnected
      rcases known connected with ⟨attached, some, handles, -⟩
      have someHandle : (halves attached).rx ≠ 0 := (halves attached).someRx
      simp only [splitlinkBtSend, connected, some, handles, someHandle,
        Bool.true_eq_false, if_false]
      split_ifs with empty long
      · simp [empty]
      · simp [Nat.not_le.mpr long]
      · have positive : 0 < dataLen := Nat.pos_of_ne_zero empty
        have fits : dataLen ≤ packetLength := Nat.not_lt.mp long
        constructor
        · rintro ⟨⟩
          exact ⟨⟨positive, fits⟩, trivial, rfl, rfl⟩
        · rintro ⟨-, -, ⟨⟩, rfl⟩
          rfl
  · intro connected
    rcases known connected with ⟨conn, attached, -, transmitter, subscribed⟩
    exact ⟨subscribed, conn, attached, transmitter⟩

def someHalf : OtherHalf where
  service := 16
  serviceEnd := 21
  tx := 18
  rx := 21
  followed := by decide
  someRx := by decide

def found : FoundResults where
  scanStop := 0
  connLeCreate := 0
  conn := 0
  scanStart := 0

def allowed : DiscoverResults where
  discover := 0
  subscribe := 0

/-- The other half is found and answers the request for a larger MTU. -/
def promptAnswer : List CentralEvent :=
  [.start true 0, .deviceFound true true found, .connected 0 0 ⟨0, 0, 0⟩,
    .mtuExchanged 0, .discovered true allowed, .discovered true allowed,
    .discovered true allowed]

theorem promptAnswer_writes :
    ∃ finish,
      run (centralStep fun _ => someHalf) .initial promptAnswer =
        some finish ∧
      splitlinkBtSend finish 72 5 = .writes 0 21 :=
  ⟨_, rfl,
    ((writes_reach_other_half (fun _ => someHalf) promptAnswer _
      (by decide) rfl).1 72 5 0 21).mpr ⟨by decide, rfl, rfl, rfl⟩⟩

/-- With a late answer two discoveries share their parameters. -/
example :
    ((run (centralStep fun _ => someHalf) .initial
        [.start true 0, .deviceFound true true found,
          .connected 0 0 ⟨0, 0, 0⟩, .mtuFallback 0, .mtuExchanged 0,
          .discovered true allowed, .discovered true allowed,
          .discovered true allowed]).map
      fun finish => splitlinkBtSend finish 72 5) =
      some (.writes 0 someHalf.tx) := by
  decide

/-! ## Its level and the sync layer -/

section LinkSteps

variable
    {halves : Nat → OtherHalf} {st next : CentralState}
    {event : CentralEvent}

@[simp]
theorem startScan_link (scanStart : Int) :
    (splitlinkBtCentralStartScan st scanStart).link = st.link := by
  rw [splitlinkBtCentralStartScan]
  split_ifs <;> rfl

@[simp]
theorem discover_link (discover : Int) :
    (btGattDiscover st discover).link = st.link := by
  rw [btGattDiscover]
  split_ifs <;> rfl

@[simp]
theorem startPrimaryDiscovery_link (discover : Int) :
    (splitlinkBtStartPrimaryDiscovery st discover).link = st.link := by
  rw [splitlinkBtStartPrimaryDiscovery]
  split_ifs <;> simp

theorem linkSteps_discoverCb
    (attr : Option Attribute) (results : DiscoverResults) :
    LinkSteps st.link (splitlinkBtDiscoverCb st attr results).link := by
  unfold splitlinkBtDiscoverCb
  cases attr with
  | none => exact .inl rfl
  | some attr =>
      dsimp only
      split_ifs
      · exact .inl (discover_link _)
      · exact .inl (discover_link _)
      · exact .inl rfl
      · exact .inr ⟨.notifyConnected, rfl⟩
      · exact .inl rfl

theorem link_step
    (stepped : centralStep halves st event = some next) :
    LinkSteps st.link next.link := by
  cases event with
  | start btIsReady scanStart =>
      cases stepped
      simp only [splitlinkBtStart]
      split_ifs
      · exact .inl rfl
      · exact .inl rfl
      · exact .inl (startScan_link scanStart)
  | deviceFound connectable matched results =>
      rw [centralStep] at stepped
      split_ifs at stepped
      cases stepped
      rw [splitlinkBtDeviceFound]
      split_ifs <;> exact .inl (by simp)
  | connected conn err results =>
      rw [centralStep] at stepped
      split_ifs at stepped
      cases stepped
      rw [splitlinkBtConnected]
      split_ifs <;> exact .inl (by simp [splitlinkBtMtuExchanged])
  | mtuExchanged discover =>
      rw [centralStep] at stepped
      split_ifs at stepped
      cases stepped
      exact .inl (startPrimaryDiscovery_link discover)
  | mtuFallback discover =>
      rw [centralStep] at stepped
      split_ifs at stepped
      cases stepped
      simp only [splitlinkBtMtuFallbackWorkHandler]
      split_ifs <;> exact .inl (by simp)
  | discovered found results =>
      rw [centralStep] at stepped
      split at stepped
      next =>
        cases stepped
        exact linkSteps_discoverCb _ results
      next => cases stepped
  | notified stopped =>
      rw [centralStep] at stepped
      split_ifs at stepped
      cases stepped
      rw [splitlinkBtNotifyCb]
      split_ifs
      · exact .inr ⟨.notifyDisconnected, rfl⟩
      · exact .inl rfl
  | disconnected conn scanStart =>
      cases stepped
      rw [splitlinkBtDisconnected]
      split_ifs
      · exact .inl rfl
      · exact .inr ⟨.notifyDisconnected, by
          simp [connectionStep, splitlinkBtResetDiscoveryState]⟩
  | workBegins =>
      rcases Option.map_eq_some_iff.mp stepped with ⟨link, worked, rfl⟩
      exact .inr ⟨.workBegins, worked⟩
  | workEnds =>
      rcases Option.map_eq_some_iff.mp stepped with ⟨link, worked, rfl⟩
      exact .inr ⟨.workEnds, worked⟩

end LinkSteps

/-- The level of the central goes through states of a connection only. -/
theorem link_reachable
    (halves : Nat → OtherHalf) (events : List CentralEvent)
    (finish : CentralState)
    (ran : run (centralStep halves) .initial events = some finish) :
    Reachable connectionStep .initial finish.link := by
  have kept (st : CentralState) (event : CentralEvent) (next : CentralState)
      (reached : Reachable connectionStep .initial st.link)
      (stepped : centralStep halves st event = some next) :
      Reachable connectionStep .initial next.link := by
    rcases link_step stepped with same | ⟨_, linkStepped⟩
    · rw [same]
      exact reached
    · exact reached.step linkStepped
  exact run_preserves kept (Reachable.refl _ _) ran

/-! ## Scanning for the other half -/

/-- What the host answers to the attempt to scan that the event makes. -/
def scanAttempt (st : CentralState) : CentralEvent → Option Int
  | .start btIsReady scanStart =>
      if btIsReady = true ∧ st.scanStarted = false then
        some scanStart
      else
        none
  | .deviceFound connectable matched results =>
      if connectable = true ∧ st.conn = none ∧ matched = true ∧
          results.scanStop = 0 ∧ results.connLeCreate ≠ 0 then
        some results.scanStart
      else
        none
  | .connected conn err results =>
      if some conn = st.conn ∧ err ≠ 0 then some results.scanStart else none
  | .disconnected conn scanStart =>
      if some conn = st.conn then some scanStart else none
  | _ => none

/-- An attempt to scan again succeeds. -/
def Rescans (st : CentralState) (event : CentralEvent) : Prop :=
  st.scanStarted = true →
    ∀ answer, scanAttempt st event = some answer → failed answer = false

/-- The central is on its way to the other half. -/
def Seeks (st : CentralState) : Prop :=
  st.scanStarted = true → st.scanning = true ∨ st.conn ≠ none

/-- A central that scans has no connection, and has none before it scans. -/
structure Scans (st : CentralState) : Prop where
  apart : st.scanning = true → st.conn = none
  first : st.scanStarted = false → st.scanning = false ∧ st.conn = none

section ScanSteps

variable
    {halves : Nat → OtherHalf} {st next : CentralState}
    {event : CentralEvent}

/-- What a step does for one that has no part in scanning. -/
def SameScan (st next : CentralState) : Prop :=
  next.scanning = st.scanning ∧ next.scanStarted = st.scanStarted ∧
    next.conn = st.conn

theorem sameScan_discover (st : CentralState) (discover : Int) :
    SameScan st (btGattDiscover st discover) := by
  rw [btGattDiscover]
  split_ifs <;> exact ⟨rfl, rfl, rfl⟩

theorem sameScan_startPrimaryDiscovery (st : CentralState) (discover : Int) :
    SameScan st (splitlinkBtStartPrimaryDiscovery st discover) := by
  rw [splitlinkBtStartPrimaryDiscovery]
  split_ifs
  · exact ⟨rfl, rfl, rfl⟩
  · exact ⟨rfl, rfl, rfl⟩
  · exact sameScan_discover _ discover

theorem sameScan_discoverCb
    (st : CentralState) (attr : Option Attribute)
    (results : DiscoverResults) :
    SameScan st (splitlinkBtDiscoverCb st attr results) := by
  unfold splitlinkBtDiscoverCb
  cases attr with
  | none => exact ⟨rfl, rfl, rfl⟩
  | some attr =>
      dsimp only
      split_ifs
      · exact sameScan_discover _ results.discover
      · exact sameScan_discover _ results.discover
      all_goals exact ⟨rfl, rfl, rfl⟩

/-- A step tries to scan, connects, or has no part in either. -/
inductive ScanStep (st next : CentralState) : Option Int → Prop where
  | same (alike : SameScan st next) : ScanStep st next none
  | connects
      (unconnected : st.conn = none) (scanning : st.scanning = true)
      (stopped : next.scanning = false)
      (started : next.scanStarted = st.scanStarted)
      (connected : next.conn ≠ none) :
      ScanStep st next none
  | tries (answer : Int)
      (seeks : Seeks st)
      (unconnected : next.conn = none)
      (scanning : next.scanning = !failed answer)
      (started : next.scanStarted = (st.scanStarted || !failed answer)) :
      ScanStep st next (some answer)

/-- An attempt to scan without a connection. -/
theorem scanStep_tries
    {tried : CentralState} (seeks : Seeks st) (answer : Int)
    (unconnected : tried.conn = none)
    (started : tried.scanStarted = st.scanStarted) :
    ScanStep st (splitlinkBtCentralStartScan tried answer) (some answer) := by
  refine .tries answer seeks (by simpa using unconnected) ?_ ?_
  · rw [splitlinkBtCentralStartScan]
    split_ifs with fails <;> simp [fails]
  · rw [splitlinkBtCentralStartScan]
    split_ifs with fails <;> simp [fails, started]

theorem scanStep_start
    (scans : Scans st) (btIsReady : Bool) (scanStart : Int) :
    ScanStep st (splitlinkBtStart st btIsReady scanStart).2
      (scanAttempt st (.start btIsReady scanStart)) := by
  simp only [splitlinkBtStart, scanAttempt]
  cases btIsReady with
  | false => exact .same ⟨rfl, rfl, rfl⟩
  | true =>
      cases started : st.scanStarted with
      | true => exact .same ⟨rfl, started.symm, rfl⟩
      | false =>
          refine
            scanStep_tries (fun some => ?_) scanStart (scans.first started).2
              started.symm
          rw [started] at some
          cases some

theorem scanStep_deviceFound
    (scanning : st.scanning = true) (connectable matched : Bool)
    (results : FoundResults) :
    ScanStep st (splitlinkBtDeviceFound st connectable matched results)
      (scanAttempt st (.deviceFound connectable matched results)) := by
  simp only [splitlinkBtDeviceFound, scanAttempt]
  by_cases seen : connectable = true ∧ st.conn = none ∧ matched = true
  · rcases seen with ⟨rfl, unconnected, rfl⟩
    by_cases stopped : results.scanStop = 0
    · by_cases created : results.connLeCreate = 0
      · simp only [unconnected, stopped, created, Bool.true_eq_false,
          Option.isSome_none, Bool.false_eq_true, ne_eq, not_true_eq_false,
          and_false, if_false]
        exact .connects unconnected scanning rfl rfl (by simp)
      · simp only [unconnected, stopped, created, Bool.true_eq_false,
          Option.isSome_none, Bool.false_eq_true, ne_eq, not_true_eq_false,
          not_false_eq_true, and_self, if_false, if_true]
        exact
          scanStep_tries (fun _ => .inl scanning) results.scanStart rfl rfl
    · simp only [unconnected, stopped, Bool.true_eq_false,
        Option.isSome_none, Bool.false_eq_true, ne_eq, not_false_eq_true,
        false_and, and_false, if_false, if_true]
      exact .same ⟨rfl, rfl, rfl⟩
  · have idle :
        ¬ (connectable = true ∧ st.conn = none ∧ matched = true ∧
          results.scanStop = 0 ∧ results.connLeCreate ≠ 0) :=
      fun all => seen ⟨all.1, all.2.1, all.2.2.1⟩
    rw [if_neg idle]
    cases connectable with
    | false => exact .same ⟨rfl, rfl, rfl⟩
    | true =>
        cases attached : st.conn with
        | some conn => exact .same ⟨rfl, rfl, rfl⟩
        | none =>
            cases matched with
            | false => exact .same ⟨rfl, rfl, rfl⟩
            | true => exact absurd ⟨rfl, attached, rfl⟩ seen

theorem scanStep_connected
    (conn : Nat) (err : UInt8) (results : ConnectedResults) :
    ScanStep st (splitlinkBtConnected st conn err results)
      (scanAttempt st (.connected conn err results)) := by
  simp only [splitlinkBtConnected, scanAttempt]
  by_cases other : some conn = st.conn
  · have attached : Seeks st := fun _ => .inr (by simp [← other])
    by_cases succeeds : err = 0
    · simp only [other, succeeds, ne_eq, not_true_eq_false, if_false,
        and_false]
      split_ifs
      · exact .same (sameScan_startPrimaryDiscovery _ results.discover)
      · exact .same ⟨rfl, rfl, rfl⟩
    · simp only [other, succeeds, ne_eq, not_true_eq_false, if_false,
        not_false_eq_true, if_true, and_self]
      exact scanStep_tries attached results.scanStart rfl rfl
  · simp only [other, ne_eq, not_false_eq_true, if_true, false_and, if_false]
    exact .same ⟨rfl, rfl, rfl⟩

theorem scanStep_disconnected (conn : Nat) (scanStart : Int) :
    ScanStep st (splitlinkBtDisconnected st conn scanStart)
      (scanAttempt st (.disconnected conn scanStart)) := by
  simp only [splitlinkBtDisconnected, scanAttempt]
  by_cases other : some conn = st.conn
  · have attached : Seeks st := fun _ => .inr (by simp [← other])
    simp only [other, ne_eq, not_true_eq_false, if_false, if_true]
    exact scanStep_tries attached scanStart rfl rfl
  · simp only [other, ne_eq, not_false_eq_true, if_true, if_false]
    exact .same ⟨rfl, rfl, rfl⟩

theorem scan_step
    (scans : Scans st) (stepped : centralStep halves st event = some next) :
    ScanStep st next (scanAttempt st event) := by
  cases event with
  | start btIsReady scanStart =>
      cases stepped
      exact scanStep_start scans btIsReady scanStart
  | deviceFound connectable matched results =>
      rw [centralStep] at stepped
      split_ifs at stepped with scanning
      cases stepped
      exact scanStep_deviceFound scanning connectable matched results
  | connected conn err results =>
      rw [centralStep] at stepped
      split_ifs at stepped
      cases stepped
      exact scanStep_connected conn err results
  | mtuExchanged discover =>
      rw [centralStep] at stepped
      split_ifs at stepped
      cases stepped
      exact .same (sameScan_startPrimaryDiscovery _ discover)
  | mtuFallback discover =>
      rw [centralStep] at stepped
      split_ifs at stepped
      cases stepped
      simp only [splitlinkBtMtuFallbackWorkHandler]
      split_ifs
      · exact .same ⟨rfl, rfl, rfl⟩
      · exact .same ⟨rfl, rfl, rfl⟩
      · exact .same (sameScan_startPrimaryDiscovery _ discover)
  | discovered found results =>
      rw [centralStep] at stepped
      split at stepped
      next =>
        cases stepped
        exact .same (sameScan_discoverCb _ _ results)
      next => cases stepped
  | notified stopped =>
      rw [centralStep] at stepped
      split_ifs at stepped
      cases stepped
      rw [splitlinkBtNotifyCb]
      split_ifs <;> exact .same ⟨rfl, rfl, rfl⟩
  | disconnected conn scanStart =>
      cases stepped
      exact scanStep_disconnected conn scanStart
  | workBegins | workEnds =>
      rcases Option.map_eq_some_iff.mp stepped with ⟨link, -, rfl⟩
      exact .same ⟨rfl, rfl, rfl⟩

theorem scans_step
    (scans : Scans st) (stepped : centralStep halves st event = some next) :
    Scans next := by
  have step := scan_step scans stepped
  generalize scanAttempt st event = attempt at step
  cases step with
  | same alike =>
      rcases alike with ⟨scanning, started, conn⟩
      exact
        ⟨fun on => by rw [conn]; exact scans.apart (scanning ▸ on),
          fun first => by
            rw [scanning, conn]
            exact scans.first (started ▸ first)⟩
  | connects unconnected scanning stopped started connected =>
      refine ⟨fun on => ?_, fun first => ?_⟩
      · rw [stopped] at on
        cases on
      · have never := (scans.first (started ▸ first)).1
        rw [scanning] at never
        cases never
  | tries answer seeks unconnected scanning started =>
      refine ⟨fun _ => unconnected, fun first => ⟨?_, unconnected⟩⟩
      rw [started] at first
      rw [scanning]
      exact (Bool.or_eq_false_iff.mp first).2

theorem seeks_step
    (scans : Scans st) (stepped : centralStep halves st event = some next) :
    Seeks next ↔ Seeks st ∧ Rescans st event := by
  have step := scan_step scans stepped
  rw [Rescans]
  generalize scanAttempt st event = attempt at step ⊢
  cases attempt with
  | none =>
      have seeks : Seeks next ↔ Seeks st := by
        cases step with
        | same alike =>
            rw [Seeks, Seeks, alike.1, alike.2.1, alike.2.2]
        | connects unconnected scanning stopped started connected =>
            exact
              iff_of_true (fun _ => .inr connected) (fun _ => .inl scanning)
      simp [seeks]
  | some answer =>
      cases step with
      | tries _ seeks unconnected scanning started =>
          rw [Seeks, unconnected, scanning, started]
          simp only [Option.some.injEq, forall_eq', seeks, true_and]
          cases st.scanStarted <;> cases failed answer <;> simp

end ScanSteps

theorem scans_initial : Scans .initial :=
  ⟨fun _ => rfl, fun _ => ⟨rfl, rfl⟩⟩

/--
Once it has scanned, the central scans or has a connection if and only if
every attempt to scan again has succeeded: one that fails is not repeated.
-/
theorem central_seeks_iff_rescans
    (halves : Nat → OtherHalf) (events : List CentralEvent)
    (finish : CentralState)
    (ran : run (centralStep halves) .initial events = some finish) :
    (finish.scanStarted = true →
      finish.scanning = true ∨ finish.conn ≠ none) ↔
      StepsMeet (centralStep halves) Rescans .initial events := by
  have exactly :
      Seeks finish ↔
        Seeks .initial ∧
          StepsMeet (centralStep halves) Rescans .initial events :=
    run_iff_stepsMeet
      (fun _ _ _ scans stepped => scans_step scans stepped)
      (fun _ _ _ scans stepped => seeks_step scans stepped)
      scans_initial ran
  have initially : Seeks .initial := fun never => Bool.noConfusion never
  exact exactly.trans (and_iff_right initially)

/-- The other half goes away, and the radio is busy at that moment. -/
theorem failedRescan_strands :
    ∃ finish,
      run (centralStep fun _ => someHalf) .initial
          [.start true 0, .deviceFound true true found,
            .connected 0 0 ⟨0, 0, 0⟩, .disconnected 0 (-12),
            .start true 0] =
        some finish ∧
      ((finish.scanStarted = true →
          finish.scanning = true ∨ finish.conn ≠ none) ↔
        StepsMeet (centralStep fun _ => someHalf) Rescans .initial
          [.start true 0, .deviceFound true true found,
            .connected 0 0 ⟨0, 0, 0⟩, .disconnected 0 (-12),
            .start true 0]) :=
  ⟨_, rfl, central_seeks_iff_rescans (fun _ => someHalf) _ _ rfl⟩

/-! ## Looking up the service -/

/-- What the host answers to the `bt_gatt_discover` that the event makes. -/
def discoverAttempt (st : CentralState) : CentralEvent → Option Int
  | .connected conn err results =>
      if some conn = st.conn ∧ err = 0 ∧
          failed results.exchangeMtu = true ∧ st.serviceStartHandle = 0 then
        some results.discover
      else
        none
  | .mtuExchanged discover | .mtuFallback discover =>
      if st.conn ≠ none ∧ st.serviceStartHandle = 0 then
        some discover
      else
        none
  | .discovered found results =>
      if st.discoveries ≠ [] ∧ found = true ∧
          (st.discoverParams.type = .primary ∨
            st.discoverParams.uuid = some .tx) then
        some results.discover
      else
        none
  | _ => none

section DiscoverSteps

variable
    {halves : Nat → OtherHalf} {st next : CentralState}
    {event : CentralEvent}

theorem startPrimaryDiscovery_idle
    (discover : Int)
    (idle : ¬ (st.conn ≠ none ∧ st.serviceStartHandle = 0)) :
    splitlinkBtStartPrimaryDiscovery st discover = st := by
  rw [splitlinkBtStartPrimaryDiscovery]
  split_ifs with unconnected found
  · rfl
  · rfl
  · exact absurd ⟨unconnected, not_not.mp found⟩ idle

theorem startScan_discoveries (scanStart : Int) :
    (splitlinkBtCentralStartScan st scanStart).discoveries =
      st.discoveries := by
  rw [splitlinkBtCentralStartScan]
  split_ifs <;> rfl

/-- What ends without another attempt leaves the later discoveries. -/
theorem discoverCb_idle
    (attr : Option Attribute) (results : DiscoverResults)
    (idle :
      attr.isSome = true →
        ¬ (st.discoverParams.type = .primary ∨
          st.discoverParams.uuid = some .tx)) :
    (splitlinkBtDiscoverCb st attr results).discoveries =
      st.discoveries := by
  cases attr with
  | none => rfl
  | some attr =>
      rcases not_or.mp (idle rfl) with ⟨beyond, other⟩
      simp only [splitlinkBtDiscoverCb, if_neg beyond, if_neg other]
      split_ifs <;> rfl

/-- Only an attempt adds to the discoveries under way. -/
theorem discoveries_step
    (none : discoverAttempt st event = none)
    (stepped : centralStep halves st event = some next) :
    next.discoveries <:+ st.discoveries := by
  have same (same : next.discoveries = st.discoveries) :
      next.discoveries <:+ st.discoveries :=
    same ▸ List.suffix_refl next.discoveries
  cases event with
  | start btIsReady scanStart =>
      cases stepped
      apply same
      simp only [splitlinkBtStart]
      split_ifs
      · rfl
      · rfl
      · exact startScan_discoveries scanStart
  | deviceFound connectable matched results =>
      rw [centralStep] at stepped
      split_ifs at stepped
      cases stepped
      apply same
      rw [splitlinkBtDeviceFound]
      split_ifs <;> first | rfl | exact startScan_discoveries _
  | connected conn err results =>
      rw [centralStep] at stepped
      split_ifs at stepped
      cases stepped
      apply same
      rw [splitlinkBtConnected]
      split_ifs with foreign fails refused
      · rfl
      · exact startScan_discoveries _
      · have attached := not_not.mp foreign
        have found : st.serviceStartHandle ≠ 0 := fun unfound =>
          Option.some_ne_none _
            ((if_pos
              ⟨attached, not_not.mp fails, refused, unfound⟩).symm.trans none)
        rw [splitlinkBtMtuExchanged, startPrimaryDiscovery_idle]
        exact fun both => found both.2
      · rfl
  | mtuExchanged discover =>
      rw [centralStep] at stepped
      split_ifs at stepped
      cases stepped
      apply same
      rw [splitlinkBtMtuExchanged, startPrimaryDiscovery_idle]
      intro both
      exact Option.some_ne_none _ ((if_pos both).symm.trans none)
  | mtuFallback discover =>
      rw [centralStep] at stepped
      split_ifs at stepped
      cases stepped
      apply same
      have idle : ¬ (st.conn ≠ Option.none ∧ st.serviceStartHandle = 0) :=
        fun both => Option.some_ne_none _ ((if_pos both).symm.trans none)
      simp only [splitlinkBtMtuFallbackWorkHandler]
      split_ifs with unconnected found
      · rfl
      · rfl
      · exact absurd ⟨unconnected, not_not.mp found⟩ idle
  | discovered found results =>
      rw [centralStep] at stepped
      split at stepped
      next conn uuid later attached first =>
        cases stepped
        have busy : st.discoveries ≠ [] := by simp [first]
        rw [first, discoverCb_idle]
        · exact List.suffix_cons uuid later
        · intro reported attempts
          cases found with
          | false => cases reported
          | true =>
              exact
                Option.some_ne_none _
                  ((if_pos ⟨busy, rfl, attempts⟩).symm.trans none)
      next => cases stepped
  | notified stopped =>
      rw [centralStep] at stepped
      split_ifs at stepped
      cases stepped
      apply same
      rw [splitlinkBtNotifyCb]
      split_ifs <;> rfl
  | disconnected conn scanStart =>
      cases stepped
      rw [splitlinkBtDisconnected]
      split_ifs
      · exact List.suffix_refl _
      · rw [startScan_discoveries]
        exact List.nil_suffix
  | workBegins | workEnds =>
      rcases Option.map_eq_some_iff.mp stepped with ⟨link, -, rfl⟩
      exact same rfl

end DiscoverSteps

/-! ## After the other half ends the subscription -/

/-- The service has been found, and nobody looks for its characteristics. -/
structure Unsubscribed (conn : Nat) (st : CentralState) : Prop where
  established : st.established = true
  attached : st.conn = some conn
  service : st.serviceStartHandle ≠ 0
  idle : st.discoveries = []
  silent : st.subscribed = false
  level : st.link.connected = false
  handle : st.rxHandle = 0

section UnsubscribedSteps

variable
    {halves : Nat → OtherHalf} {conn : Nat} {st next : CentralState}
    {event : CentralEvent}

theorem unsubscribed_of_stop
    (fits : Fits halves st) (attached : st.conn = some conn)
    (subscribed : st.subscribed = true) :
    Unsubscribed conn (splitlinkBtNotifyCb st true) := by
  rcases fits.cases with ⟨_, established, -, served⟩ | ⟨-, unserved⟩
  · have idle : st.discoveries = [] := by
      by_contra busy
      rw [served.alone busy] at subscribed
      cases subscribed
    exact
      ⟨established, attached, (served.found subscribed).2.2, idle, rfl,
        notifyDisconnected_connected st.link, rfl⟩
  · rw [unserved.subscribed] at subscribed
    cases subscribed

/-- The service is not looked for again. -/
theorem Unsubscribed.startPrimaryDiscovery
    (unsubscribed : Unsubscribed conn st) (discover : Int) :
    Unsubscribed conn (splitlinkBtStartPrimaryDiscovery st discover) := by
  rw [splitlinkBtStartPrimaryDiscovery,
    if_neg (by simp [unsubscribed.attached]), if_pos unsubscribed.service]
  exact unsubscribed

theorem unsubscribed_step
    (unsubscribed : Unsubscribed conn st)
    (stays : ∀ scanStart, event ≠ .disconnected conn scanStart)
    (stepped : centralStep halves st event = some next) :
    Unsubscribed conn next := by
  rcases unsubscribed with ⟨up, attached, service, idle, silent, level, handle⟩
  have works {work : ConnectionEvent} {link : ConnectionState}
      (worked : work = .workBegins ∨ work = .workEnds)
      (stepped : connectionStep st.link work = some link) :
      link.connected = false := by
    rcases worked with rfl | rfl
    all_goals
      exact
        (settledLevel_step (by simp [ChangesLevel, submission]) stepped).2.trans
          level
  cases event with
  | start btIsReady scanStart =>
      cases stepped
      simp only [splitlinkBtStart]
      split_ifs
      · exact ⟨up, attached, service, idle, silent, level, handle⟩
      · exact ⟨up, attached, service, idle, silent, level, handle⟩
      · rw [splitlinkBtCentralStartScan]
        split_ifs <;> exact ⟨up, attached, service, idle, silent, level, handle⟩
  | deviceFound connectable matched results =>
      rw [centralStep] at stepped
      split_ifs at stepped
      cases stepped
      simp only [splitlinkBtDeviceFound, attached, Option.isSome_some,
        if_true, ite_self]
      exact ⟨up, attached, service, idle, silent, level, handle⟩
  | connected other err results =>
      rw [centralStep] at stepped
      split_ifs at stepped with reported
      cases stepped
      have different : some other ≠ st.conn :=
        fun same => reported ⟨up, same.symm⟩
      rw [splitlinkBtConnected, if_pos different]
      exact ⟨up, attached, service, idle, silent, level, handle⟩
  | mtuExchanged discover =>
      rw [centralStep] at stepped
      split_ifs at stepped
      cases stepped
      apply Unsubscribed.startPrimaryDiscovery
      exact ⟨up, attached, service, idle, silent, level, handle⟩
  | mtuFallback discover =>
      rw [centralStep] at stepped
      split_ifs at stepped
      cases stepped
      simp only [splitlinkBtMtuFallbackWorkHandler, attached, reduceCtorEq,
        service, ne_eq, not_false_eq_true, if_false, if_true]
      exact ⟨up, rfl, service, idle, silent, level, handle⟩
  | discovered found results =>
      rw [centralStep, idle] at stepped
      split at stepped
      next busy => cases busy
      next => cases stepped
  | notified stopped =>
      rw [centralStep, silent] at stepped
      cases stepped
  | disconnected other scanStart =>
      cases stepped
      have different : some other ≠ st.conn := by
        rw [attached]
        rintro ⟨⟩
        exact stays scanStart rfl
      rw [splitlinkBtDisconnected, if_pos different]
      exact ⟨up, attached, service, idle, silent, level, handle⟩
  | workBegins =>
      rcases Option.map_eq_some_iff.mp stepped with ⟨link, worked, rfl⟩
      exact ⟨up, attached, service, idle, silent, works (.inl rfl) worked,
          handle⟩
  | workEnds =>
      rcases Option.map_eq_some_iff.mp stepped with ⟨link, worked, rfl⟩
      exact ⟨up, attached, service, idle, silent, works (.inr rfl) worked,
          handle⟩

/-- The event neither scans nor looks the service up. -/
def SeeksNothing (st : CentralState) (event : CentralEvent) : Prop :=
  scanAttempt st event = none ∧ discoverAttempt st event = none

theorem Unsubscribed.seeksNothing
    (unsubscribed : Unsubscribed conn st) (scans : Scans st)
    (stays : ∀ scanStart, event ≠ .disconnected conn scanStart)
    (stepped : centralStep halves st event = some next) :
    SeeksNothing st event := by
  have attached := unsubscribed.attached
  have service := unsubscribed.service
  cases event with
  | start btIsReady scanStart =>
      refine ⟨if_neg ?_, rfl⟩
      rintro ⟨-, first⟩
      rw [(scans.first first).2] at attached
      cases attached
  | deviceFound connectable matched results =>
      refine ⟨if_neg ?_, rfl⟩
      rintro ⟨-, unconnected, -⟩
      rw [attached] at unconnected
      cases unconnected
  | connected other err results =>
      rw [centralStep] at stepped
      split_ifs at stepped with reported
      have foreign : some other ≠ st.conn := fun same =>
        reported ⟨unsubscribed.established, same.symm⟩
      exact ⟨if_neg fun all => foreign all.1, if_neg fun all => foreign all.1⟩
  | mtuExchanged discover | mtuFallback discover =>
      exact ⟨rfl, if_neg fun both => service both.2⟩
  | discovered found results =>
      exact ⟨rfl, if_neg fun all => all.1 unsubscribed.idle⟩
  | disconnected other scanStart =>
      refine ⟨if_neg fun same => ?_, rfl⟩
      rw [attached] at same
      cases same
      exact stays scanStart rfl
  | notified | workBegins | workEnds => exact ⟨rfl, rfl⟩

end UnsubscribedSteps

/--
Once the other half has ended the subscription, the link stays down for as
long as the connection lasts, and the central neither scans nor looks the
service up, whatever else happens.
-/
theorem ended_subscription_is_not_renewed
    (halves : Nat → OtherHalf) (earlier later : List CentralEvent)
    (st finish : CentralState) (conn : Nat)
    (met :
      StepsMeet (centralStep halves) AnswersInTime .initial earlier)
    (ran : run (centralStep halves) .initial earlier = some st)
    (attached : st.conn = some conn) (subscribed : st.subscribed = true)
    (stays :
      ∀ event ∈ later, ∀ scanStart, event ≠ .disconnected conn scanStart)
    (ranLater :
      run (centralStep halves) (splitlinkBtNotifyCb st true) later =
        some finish) :
    (finish.link.connected = false ∧ finish.conn = some conn ∧
        finish.rxHandle = 0) ∧
      (finish.scanning = false ∧ finish.discoveries = []) ∧
        StepsMeet (centralStep halves) SeeksNothing
          (splitlinkBtNotifyCb st true) later := by
  have stays :
      StepsMeet (centralStep halves)
        (fun _ event => ∀ scanStart, event ≠ .disconnected conn scanStart)
        (splitlinkBtNotifyCb st true) later :=
    stepsMeet_of_events stays
  have stopped :
      centralStep halves st (.notified true) =
        some (splitlinkBtNotifyCb st true) :=
    if_pos subscribed
  have initially :
      Unsubscribed conn (splitlinkBtNotifyCb st true) ∧
        Scans (splitlinkBtNotifyCb st true) :=
    ⟨unsubscribed_of_stop (fits_of_run met ran) attached subscribed,
      scans_step
        (run_preserves (fun _ _ _ scans stepped => scans_step scans stepped)
          scans_initial ran)
        stopped⟩
  have kept (st : CentralState) (event : CentralEvent) (next : CentralState)
      (both : Unsubscribed conn st ∧ Scans st)
      (stays : ∀ scanStart, event ≠ .disconnected conn scanStart)
      (stepped : centralStep halves st event = some next) :
      SeeksNothing st event ∧ Unsubscribed conn next ∧ Scans next :=
    ⟨both.1.seeksNothing both.2 stays stepped,
      unsubscribed_step both.1 stays stepped, scans_step both.2 stepped⟩
  have reached : Unsubscribed conn finish ∧ Scans finish :=
    run_preserves_of_stepsMeet
      (fun st event next both stays stepped =>
        (kept st event next both stays stepped).2)
      initially stays ranLater
  rcases reached with ⟨unsubscribed, scans⟩
  have still : finish.scanning = false := by
    by_contra scanning
    have none := scans.apart (by simpa using scanning)
    rw [unsubscribed.attached] at none
    cases none
  exact
    ⟨⟨unsubscribed.level, unsubscribed.attached, unsubscribed.handle⟩,
      ⟨still, unsubscribed.idle⟩,
      stepsMeet_of_run kept initially stays ranLater⟩

/-- The service is not looked up again, nor the other half scanned for. -/
theorem endedSubscription_stays_down :
    ∃ st finish,
      run (centralStep fun _ => someHalf) .initial promptAnswer = some st ∧
      st.link.connected = true ∧
      run (centralStep fun _ => someHalf) (splitlinkBtNotifyCb st true)
          [.mtuExchanged 0, .start true 0, .workBegins] =
        some finish ∧
      (finish.link.connected = false ∧ finish.conn = some 0 ∧
          finish.rxHandle = 0) ∧
        (finish.scanning = false ∧ finish.discoveries = []) ∧
          StepsMeet (centralStep fun _ => someHalf) SeeksNothing
            (splitlinkBtNotifyCb st true)
            [.mtuExchanged 0, .start true 0, .workBegins] :=
  ⟨_, _, rfl, rfl, rfl,
    ended_subscription_is_not_renewed (fun _ => someHalf) promptAnswer
      [.mtuExchanged 0, .start true 0, .workBegins] _ _ 0 (by decide) rfl
      rfl rfl (by simp) rfl⟩

end YkbFirmware.SplitLink.BtCentral
