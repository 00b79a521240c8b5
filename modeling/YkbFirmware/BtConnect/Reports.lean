import YkbFirmware.BtConnect.Connections
import YkbFirmware.KbHandler.Core
import YkbFirmware.Library.SlotMap

/-!
# The reports of the hosts

A report is sent to every connection in the array of slots, in the form of
the protocol mode of its slot.  The array is searched and filled from its
front, and connections come, go and change their modes in any order.

The slots hold the connections that the application was told of and not told
the end of, each once and with the mode last entered.  Reports therefore
reach those connections, once each and in that form.
-/

namespace YkbFirmware.BtConnect.Reports

open YkbFirmware.Library.SlotMap
open YkbFirmware.Library.TransitionSystem
open YkbFirmware.KbHandler.Report
open YkbFirmware.KbHandler.Core
open YkbFirmware.BtConnect.Connections

/-! ## Reports -/

/-- The calls of the HID service that send a report on a connection. -/
inductive HidsCall where
  | bootKbInpRepSend (conn : Nat) (report : HidKbReport)
  | bootMouseInpRepSend (conn : Nat) (buttons : UInt8) (x y : Int)
  | kbInpRepSend (conn : Nat) (index : UInt8) (report : HidKbReport)
  | mouseInpRepSend (conn : Nat) (index : UInt8) (report : HidMouseReport)
deriving DecidableEq

def HidsCall.conn : HidsCall → Nat
  | .bootKbInpRepSend conn _ => conn
  | .bootMouseInpRepSend conn _ _ _ => conn
  | .kbInpRepSend conn _ _ => conn
  | .mouseInpRepSend conn _ _ => conn

section Senders

variable (inputReportIndex : UInt8)

/-- `send_kb_report_cb`. -/
def sendKbReportCb
    (report : HidKbReport) (state : Nat × Bool) : HidsCall :=
  if state.2 then
    .bootKbInpRepSend state.1 report
  else
    .kbInpRepSend state.1 inputReportIndex report

/-- `send_mouse_report_cb`. -/
def sendMouseReportCb
    (report : HidMouseReport) (state : Nat × Bool) : HidsCall :=
  if state.2 then
    .bootMouseInpRepSend state.1 report.buttons report.x report.y
  else
    .mouseInpRepSend state.1 inputReportIndex report

/-- `bt_connect_keyboard_send_report`. -/
def btConnectKeyboardSendReport
    (st : BtConnectState) (report : HidKbReport) : List HidsCall :=
  (btConnectForeachConn st).map (sendKbReportCb inputReportIndex report)

/-- `bt_connect_mouse_send_report`. -/
def btConnectMouseSendReport
    (st : BtConnectState) (report : HidMouseReport) : List HidsCall :=
  (btConnectForeachConn st).map (sendMouseReportCb inputReportIndex report)

@[simp]
theorem sendKbReportCb_conn (report : HidKbReport) (state : Nat × Bool) :
    (sendKbReportCb inputReportIndex report state).conn = state.1 := by
  rw [sendKbReportCb]
  cases state.2 <;> rfl

@[simp]
theorem sendMouseReportCb_conn
    (report : HidMouseReport) (state : Nat × Bool) :
    (sendMouseReportCb inputReportIndex report state).conn = state.1 := by
  rw [sendMouseReportCb]
  cases state.2 <;> rfl

end Senders

/-! ## The connections the application knows of -/

/-- What tells the application about a connection. -/
inductive HostNotice where
  | callback (callback : ConnCallback)
  | mode (evt : HidsPmEvt) (conn : Nat)

/-- The connections that are up, each with whether its mode is the boot mode. -/
abbrev Hosts := Nat → Option Bool

def noticed (hosts : Hosts) : HostNotice → Hosts
  | .callback (.onConnect conn) => Function.update hosts conn (some false)
  | .callback (.onDisconnect conn) => Function.update hosts conn none
  | .mode evt conn =>
      match hosts conn with
      | none => hosts
      | some _ => Function.update hosts conn (some evt.boot)

def hostNotices (options : BtConnectOptions) (st : BtConnectState) :
    BtConnectEvent → List HostNotice
  | .protocolMode evt conn => [.mode evt conn]
  | event => (connCallbacks options st event).map .callback

def hostsAfter (notices : List HostNotice) : Hosts :=
  notices.foldl noticed fun _ => none

/-! ## The slots -/

/-- The connection in a slot, with its mode. -/
def ConnState.entry (state : ConnState) : Option (Nat × Bool) :=
  state.conn.map fun conn => (conn, state.inBootMode)

theorem foreachConn_entries (st : BtConnectState) :
    btConnectForeachConn st = entries ConnState.entry st.connStates :=
  rfl

section Slots

variable {st : BtConnectState} {hosts : Hosts} {conn index : Nat}

theorem found_slot (found : findConnState st conn = some index) :
    ∃ boot, st.connStates[index]? = some ⟨some conn, boot⟩ := by
  rcases List.findIdx?_eq_some_iff_getElem.mp found with
    ⟨inside, matched, _⟩
  rw [decide_eq_true_eq] at matched
  refine ⟨st.connStates[index].inBootMode, ?_⟩
  rw [List.getElem?_eq_getElem inside, ← matched]

theorem free_slot (found : allocConnState st = some index) :
    ∃ state, st.connStates[index]? = some state ∧
      ConnState.entry state = none := by
  rcases List.findIdx?_eq_some_iff_getElem.mp found with
    ⟨inside, matched, _⟩
  rw [decide_eq_true_eq] at matched
  refine
    ⟨st.connStates[index], List.getElem?_eq_getElem inside, ?_⟩
  rw [ConnState.entry, matched]
  rfl

/-- A connection without a slot is not up. -/
theorem unknown_absent
    (represents : Represents (btConnectForeachConn st) hosts)
    (unknown : findConnState st conn = none) : hosts conn = none := by
  apply represents.absent
  intro entry member same
  rcases List.mem_filterMap.mp member with ⟨state, within, held⟩
  rcases Option.map_eq_some_iff.mp held with ⟨other, named, rfl⟩
  have differs := List.findIdx?_eq_none_iff.mp unknown state within
  rw [decide_eq_false_iff_not] at differs
  exact differs (named.trans (congrArg some same))

theorem represents_release
    (represents : Represents (btConnectForeachConn st) hosts) :
    Represents
      (btConnectForeachConn (releaseConnState st (findConnState st conn)))
      (Function.update hosts conn none) := by
  cases found : findConnState st conn with
  | none =>
      have absent := unknown_absent represents found
      rw [← absent, Function.update_eq_self]
      exact represents
  | some index =>
      rcases found_slot found with ⟨boot, slot⟩
      exact represents_remove represents slot rfl rfl

theorem represents_protocolMode
    (represents : Represents (btConnectForeachConn st) hosts)
    (evt : HidsPmEvt) :
    Represents (btConnectForeachConn (hidsPmEvtHandler st evt conn))
      (noticed hosts (.mode evt conn)) := by
  cases found : findConnState st conn with
  | none =>
      have absent := unknown_absent represents found
      simp only [hidsPmEvtHandler, found, noticed, absent]
      exact represents
  | some index =>
      rcases found_slot found with ⟨boot, slot⟩
      have up : hosts conn = some boot :=
        (represents.holds conn boot).mp
          (List.mem_filterMap.mpr
            ⟨⟨some conn, boot⟩, List.mem_of_getElem? slot, rfl⟩)
      simp only [hidsPmEvtHandler, found, noticed, up]
      rw [foreachConn_entries, List.modify_eq_set_getElem?, slot]
      exact represents_replace represents slot rfl rfl

/-- What is sent to every entry goes to the connections that are up. -/
theorem mem_sent
    (represents : Represents (btConnectForeachConn st) hosts)
    (send : Nat × Bool → HidsCall) (call : HidsCall) :
    call ∈ (btConnectForeachConn st).map send ↔
      ∃ conn boot, hosts conn = some boot ∧ call = send (conn, boot) := by
  rw [List.mem_map]
  constructor
  · rintro ⟨⟨conn, boot⟩, member, rfl⟩
    exact ⟨conn, boot, (represents.holds conn boot).mp member, rfl⟩
  · rintro ⟨conn, boot, up, rfl⟩
    exact ⟨(conn, boot), (represents.holds conn boot).mpr up, rfl⟩

end Slots

/-! ## Runs -/

/-- The slots agree with what the application was told, and the stack has it. -/
structure Served
    (st : BtConnectState) (notices : List HostNotice) : Prop where
  slots : Represents (btConnectForeachConn st) (hostsAfter notices)
  behind :
    ∀ conn, (hostsAfter notices conn).isSome = true →
      (conn, ConnRole.peripheral) ∈ st.peers
  distinct : (st.peers.map Prod.fst).Nodup

@[simp]
theorem hostsAfter_concat (notices : List HostNotice) (notice : HostNotice) :
    hostsAfter (notices ++ [notice]) = noticed (hostsAfter notices) notice := by
  rw [hostsAfter, List.foldl_concat]
  rfl

section Steps

variable
    {options : BtConnectOptions} {st next : BtConnectState}
    {notices : List HostNotice} {event : BtConnectEvent}

theorem served_initial : Served (.initial options) [] where
  slots := by
    rw [foreachConn_entries, entries]
    have none (state : ConnState)
        (member : state ∈ List.replicate options.maxClientCount .free) :
        ConnState.entry state = none := by
      rw [List.eq_of_mem_replicate member]
      rfl
    rw [BtConnectState.initial, List.filterMap_eq_nil_iff.mpr none]
    exact represents_nil
  behind := fun conn up => Bool.noConfusion up
  distinct := List.nodup_nil

/-- The slots stay in step with notices while the peers stay the same. -/
theorem served_same
    (served : Served st notices) (same : SameConnections st next) :
    Served next notices where
  slots := by
    rw [foreachConn_entries, same.connStates]
    exact served.slots
  behind := by
    rw [same.peers]
    exact served.behind
  distinct := by
    rw [same.peers]
    exact served.distinct

theorem served_stackConnects
    {conn : Nat} {role : ConnRole} {err : UInt8}
    (served : Served st notices) (fresh : conn ∉ st.peers.map Prod.fst) :
    Served (stackConnects st conn role err) notices where
  slots := served.slots
  behind := by
    intro other up
    rw [stackConnects]
    split_ifs
    · exact List.mem_cons_of_mem _ (served.behind other up)
    · exact served.behind other up
  distinct := by
    rw [stackConnects]
    split_ifs
    · exact List.nodup_cons.mpr ⟨fresh, served.distinct⟩
    · exact served.distinct

theorem served_connected
    {conn : Nat} {role : ConnRole} {err : UInt8}
    {results : ConnectedResults}
    (served : Served st notices) (absent : hostsAfter notices conn = none)
    (peer : err = 0 → (conn, role) ∈ st.peers) :
    Served (connected options st conn role err results).1
      (notices ++
        (connected options st conn role err results).2.map .callback) := by
  by_cases accepts : Accepts st role err results
  · rcases Option.isSome_iff_exists.mp accepts.2.2.1 with ⟨index, free⟩
    rcases free_slot free with ⟨slot, found, empty⟩
    rw [connected_accepted options st conn role accepts free, List.map_cons,
      List.map_nil]
    refine ⟨?_, fun other up => ?_, served.distinct⟩
    · rw [hostsAfter_concat]
      exact represents_insert served.slots found empty rfl absent
    · by_cases same : other = conn
      · rw [same]
        have managed := accepts.2.1
        rw [btConnectManagesConn, Bool.and_eq_true, decide_eq_true_eq,
          decide_eq_true_eq] at managed
        rw [← managed.2]
        exact peer accepts.1
      · rw [hostsAfter_concat, noticed, Function.update_of_ne same] at up
        exact served.behind other up
  · rw [connected_refused options st conn role accepts, List.map_nil,
      List.append_nil]
    exact served

/-- A connection the stack has ended is not one of the hosts' any more. -/
theorem served_disconnected
    {conn : Nat} {role : ConnRole} {results : DisconnectedResults}
    (served : Served st notices) (peer : (conn, role) ∈ st.peers) :
    let ended := { st with peers := st.peers.erase (conn, role) }
    Served (disconnected options ended conn role results).1
      (notices ++
        (disconnected options ended conn role results).2.map .callback) := by
  intro ended
  have slots :
      Represents (btConnectForeachConn ended) (hostsAfter notices) :=
    served.slots
  have remains (other : Nat) (differs : other ≠ conn)
      (up : (hostsAfter notices other).isSome = true) :
      (other, ConnRole.peripheral) ∈ ended.peers :=
    (List.mem_erase_of_ne fun same => differs (congrArg Prod.fst same)).mpr
      (served.behind other up)
  have distinct : (ended.peers.map Prod.fst).Nodup :=
    served.distinct.sublist (List.erase_sublist.map Prod.fst)
  by_cases concerns : Concerns ended conn role results
  · rw [disconnected_concerned options ended conn role concerns,
      List.map_cons, List.map_nil]
    have same :=
      (stopBatteryNotifications_connections options
          (releaseConnState ended (findConnState ended conn))).trans
        (maybeRestartAdvertising_connections _ results.advStart)
    refine served_same ⟨?_, fun other up => ?_, ?_⟩ same
    · rw [hostsAfter_concat]
      exact represents_release slots
    · rw [releaseConnState_peers]
      rw [hostsAfter_concat, noticed] at up
      by_cases differs : other = conn
      · rw [differs, Function.update_self] at up
        cases up
      · rw [Function.update_of_ne differs] at up
        exact remains other differs up
    · rw [releaseConnState_peers]
      exact distinct
  · rw [disconnected_ignored options ended conn role concerns, List.map_nil,
      List.append_nil]
    refine ⟨served.slots, fun other up => remains other ?_ up, distinct⟩
    rintro rfl
    have unknown : findConnState ended other = none :=
      Option.not_isSome_iff_eq_none.mp (not_or.mp concerns).2
    rw [unknown_absent slots unknown] at up
    cases up

theorem served_protocolMode
    {conn : Nat} (served : Served st notices) (evt : HidsPmEvt) :
    Served (hidsPmEvtHandler st evt conn) (notices ++ [.mode evt conn]) where
  slots := by
    rw [hostsAfter_concat]
    exact represents_protocolMode served.slots evt
  behind := by
    intro other up
    rw [hidsPmEvtHandler_peers]
    apply served.behind other
    rw [hostsAfter_concat, noticed] at up
    cases held : hostsAfter notices conn with
    | none =>
        rw [held] at up
        exact up
    | some boot =>
        simp only [held] at up
        by_cases same : other = conn
        · rw [same, held]
          rfl
        · rw [Function.update_of_ne same] at up
          exact up
  distinct := by
    rw [hidsPmEvtHandler_peers]
    exact served.distinct

theorem served_step
    (served : Served st notices)
    (stepped : btConnectStep options st event = some next) :
    Served next (notices ++ hostNotices options st event) := by
  by_cases about : AboutConnection event
  · cases event with
    | connected conn role err results =>
        rw [btConnectStep] at stepped
        split_ifs at stepped with possible
        cases stepped
        have absent : hostsAfter notices conn = none := by
          apply Option.not_isSome_iff_eq_none.mp
          intro up
          exact
            possible.1
              (List.mem_map.mpr ⟨_, served.behind conn up, rfl⟩)
        refine
          served_connected (served_stackConnects served possible.1) absent ?_
        intro succeeds
        rw [stackConnects, if_pos succeeds]
        exact List.mem_cons_self
    | disconnected conn role results =>
        rw [btConnectStep] at stepped
        split_ifs at stepped with possible
        cases stepped
        exact served_disconnected served possible
    | protocolMode evt conn =>
        cases stepped
        exact served_protocolMode served evt
    | _ => exact about.elim
  · rcases frame_step about stepped with ⟨same, silent⟩
    have none : hostNotices options st event = [] := by
      cases event with
      | protocolMode evt conn => exact absurd trivial about
      | _ => exact congrArg (List.map HostNotice.callback) silent
    rw [none, List.append_nil]
    exact served_same served same

end Steps

/--
After every run a keyboard report and a mouse report go to the connections
the application was told of and not told the end of, once to each, and in the
form of the mode that was last entered there.
-/
theorem reports_reach_known_connections
    (options : BtConnectOptions) (events : List BtConnectEvent)
    (finish : BtConnectState)
    (ran :
      run (btConnectStep options) (.initial options) events = some finish)
    (index : UInt8) (kbReport : HidKbReport)
    (mouseReport : HidMouseReport) :
    let hosts :=
      hostsAfter
        (collected (btConnectStep options) (hostNotices options)
          (.initial options) events)
    let kbCalls := btConnectKeyboardSendReport index finish kbReport
    let mouseCalls := btConnectMouseSendReport index finish mouseReport
    (kbCalls.map HidsCall.conn).Nodup ∧
      (mouseCalls.map HidsCall.conn).Nodup ∧
      (∀ call,
        call ∈ kbCalls ↔
          ∃ conn boot, hosts conn = some boot ∧
            call = sendKbReportCb index kbReport (conn, boot)) ∧
      ∀ call,
        call ∈ mouseCalls ↔
          ∃ conn boot, hosts conn = some boot ∧
            call = sendMouseReportCb index mouseReport (conn, boot) := by
  intro hosts kbCalls mouseCalls
  have served :
      Served finish
        ([] ++
          collected (btConnectStep options) (hostNotices options)
            (.initial options) events) :=
    run_preserves_collected
      (fun _ _ _ _ served (_ : True) stepped => served_step served stepped)
      served_initial (fun _ _ => trivial) ran
  rw [List.nil_append] at served
  refine ⟨?_, ?_, fun call => ?_, fun call => ?_⟩
  · simpa [kbCalls, btConnectKeyboardSendReport, Function.comp_def] using
      served.slots.distinct
  · simpa [mouseCalls, btConnectMouseSendReport, Function.comp_def] using
      served.slots.distinct
  · exact mem_sent served.slots (sendKbReportCb index kbReport) call
  · exact mem_sent served.slots (sendMouseReportCb index mouseReport) call

/-- A host that entered the boot mode, and one that came after it left. -/
def twoHosts : List BtConnectEvent :=
  [.init ⟨0, 0, .error 0, 0⟩,
    .connected 7 .peripheral 0 ⟨0, 0⟩,
    .protocolMode .bootModeEntered 7,
    .disconnected 7 .peripheral ⟨0, 0⟩,
    .connected 9 .peripheral 0 ⟨0, 0⟩,
    .protocolMode .bootModeEntered 9]

def oneClient : BtConnectOptions := ⟨1, false, false, fun split => split⟩

theorem twoHosts_reported :
    ∃ finish,
      run (btConnectStep oneClient) (.initial oneClient) twoHosts =
          some finish ∧
        btConnectKeyboardSendReport 0 finish .zero =
          [.bootKbInpRepSend 9 .zero] ∧
        ((btConnectKeyboardSendReport 0 finish .zero).map
          HidsCall.conn).Nodup :=
  ⟨_, rfl, rfl,
    (reports_reach_known_connections oneClient twoHosts _ rfl 0 .zero
      .zero).1⟩

end YkbFirmware.BtConnect.Reports
