import YkbFirmware.BtConnect.Reports

/-!
# Hosts that can connect

A host finds the keyboard only while it advertises.  Advertising begins when
the keyboard starts, ends with a connection, and is taken up again after a
disconnection, unless the flag `is_advertising` says that it goes on.

The file follows this in four states: off, seeking a host, serving one, and
lost.  A keyboard is lost to its hosts once an attempt to advertise fails or
a connection that ended the advertising is not taken up, as the flag is then
stale; it never advertises again.
-/

namespace YkbFirmware.BtConnect.Advertising

open YkbFirmware.Library.SlotMap
open YkbFirmware.Library.TransitionSystem
open YkbFirmware.BtConnect.Connections
open YkbFirmware.BtConnect.Reports

/-! ## The states of the link to the hosts -/

/-- The connections in the slots. -/
def heldConns (st : BtConnectState) : List Nat :=
  entries ConnState.conn st.connStates

/-- The connection to a host that the peer is. -/
def hostPeer : Nat × ConnRole → Option Nat
  | (conn, .peripheral) => some conn
  | (_, .central) => none

/-- The connections to hosts that the stack has. -/
def hostPeers (st : BtConnectState) : List Nat :=
  st.peers.filterMap hostPeer

theorem foreachConn_conns (st : BtConnectState) :
    (btConnectForeachConn st).map Prod.fst = heldConns st := by
  rw [btConnectForeachConn, List.map_filterMap, heldConns, entries]
  congr 1
  funext state
  cases state.conn <;> rfl

inductive HostLink where
  | off
  | seeking
  | serving (conn : Nat)
  | lost

/-- What the state records of the link. -/
structure LinkView where
  started : Bool
  advertising : Bool
  isAdvertising : Bool
  held : List Nat
  peers : List Nat

def linkView (st : BtConnectState) : LinkView where
  started := st.started
  advertising := st.advertising
  isAdvertising := st.isAdvertising
  held := heldConns st
  peers := hostPeers st

/-- The state is one of the link in the given state of it. -/
inductive LinkIs : LinkView → HostLink → Prop where
  | off : LinkIs ⟨false, false, false, [], []⟩ .off
  | seeking : LinkIs ⟨true, true, true, [], []⟩ .seeking
  | serving (conn : Nat) :
      LinkIs ⟨true, false, false, [conn], [conn]⟩ (.serving conn)
  | stale (peers : List Nat) : LinkIs ⟨true, false, true, [], peers⟩ .lost
  | failed : LinkIs ⟨true, false, false, [], []⟩ .lost

theorem LinkIs.of_unstarted
    {view : LinkView} {link : HostLink} (is : LinkIs view link)
    (unstarted : view.started = false) :
    view = ⟨false, false, false, [], []⟩ ∧ link = .off := by
  cases is with
  | off => exact ⟨rfl, rfl⟩
  | _ => cases unstarted

theorem LinkIs.of_advertising
    {view : LinkView} {link : HostLink} (is : LinkIs view link)
    (advertises : view.advertising = true) :
    view = ⟨true, true, true, [], []⟩ ∧ link = .seeking := by
  cases is with
  | seeking => exact ⟨rfl, rfl⟩
  | _ => cases advertises

theorem LinkIs.held_peer
    {view : LinkView} {link : HostLink} {conn : Nat} (is : LinkIs view link)
    (held : conn ∈ view.held) : conn ∈ view.peers := by
  cases is with
  | serving other => exact held
  | _ => cases held

/-- The slots are those of the options, and the link is in a state. -/
structure Linked
    (options : BtConnectOptions) (st : BtConnectState) (link : HostLink) :
    Prop where
  slots : st.connStates.length = options.maxClientCount
  distinct : (st.peers.map Prod.fst).Nodup
  view : LinkIs (linkView st) link

/-- What must not go wrong for hosts to find the keyboard again. -/
def KeepsHosts (options : BtConnectOptions) : BtConnectEvent → Prop
  | .init results =>
      results.register = 0 → results.btEnable = 0 →
        failed results.advStart = false
  | .connected _ .peripheral err results =>
      err = 0 ∧ results.btConnGetInfo = 0 ∧
        UInt8.ofInt results.btHidsConnected = 0 ∧ 0 < options.maxClientCount
  | .disconnected _ .peripheral results => failed results.advStart = false
  | _ => True

/-! ## Peers and slots -/

section Peers

variable {st : BtConnectState} {conn : Nat}

theorem hostPeers_erase_central (peers : List (Nat × ConnRole)) :
    (peers.erase (conn, .central)).filterMap hostPeer =
      peers.filterMap hostPeer := by
  induction peers with
  | nil => rfl
  | cons peer rest induction =>
      by_cases same : peer = (conn, .central)
      · rw [same, List.erase_cons_head]
        rfl
      · rw [List.erase_cons_tail (by simpa using same), List.filterMap_cons,
          List.filterMap_cons, induction]

theorem hostPeers_erase_peripheral (peers : List (Nat × ConnRole)) :
    (peers.erase (conn, .peripheral)).filterMap hostPeer =
      (peers.filterMap hostPeer).erase conn := by
  induction peers with
  | nil => rfl
  | cons peer rest induction =>
      by_cases same : peer = (conn, .peripheral)
      · rw [same, List.erase_cons_head]
        exact (List.erase_cons_head conn _).symm
      · rw [List.erase_cons_tail (by simpa using same), List.filterMap_cons,
          List.filterMap_cons, induction]
        rcases peer with ⟨other, _ | _⟩
        · rfl
        · have differs : other ≠ conn := fun equal => same (by rw [equal])
          exact (List.erase_cons_tail (by simpa using differs)).symm

/-- A connection in no slot is not found. -/
theorem findConnState_unheld (unheld : conn ∉ heldConns st) :
    findConnState st conn = none := by
  cases found : findConnState st conn with
  | none => rfl
  | some index =>
      rcases found_slot found with ⟨boot, slot⟩
      refine absurd ?_ unheld
      exact List.mem_filterMap.mpr ⟨_, List.mem_of_getElem? slot, rfl⟩

theorem findConnState_held (held : conn ∈ heldConns st) :
    (findConnState st conn).isSome = true := by
  rcases List.mem_filterMap.mp held with ⟨state, member, named⟩
  rw [findConnState, List.findIdx?_isSome, List.any_eq_true]
  exact ⟨state, member, decide_eq_true named⟩

end Peers

/-! ## The view of a step -/

section Views

variable
    {options : BtConnectOptions} {st next : BtConnectState} {link : HostLink}

/-- As many slots, the same peers and the same view of the link. -/
structure SameLink (st next : BtConnectState) : Prop where
  slots : next.connStates.length = st.connStates.length
  peers : next.peers = st.peers
  view : linkView next = linkView st

theorem linked_same
    (linked : Linked options st link) (same : SameLink st next) :
    Linked options next link where
  slots := same.slots.trans linked.slots
  distinct := by
    rw [same.peers]
    exact linked.distinct
  view := by
    rw [same.view]
    exact linked.view

theorem SameLink.trans
    {first second third : BtConnectState} (before : SameLink first second)
    (after : SameLink second third) : SameLink first third where
  slots := after.slots.trans before.slots
  peers := after.peers.trans before.peers
  view := after.view.trans before.view

theorem stopBatteryNotifications_link
    (options : BtConnectOptions) (st : BtConnectState) :
    SameLink st (stopBatteryNotifications options st) := by
  rw [stopBatteryNotifications]
  split_ifs <;> exact ⟨rfl, rfl, rfl⟩

theorem resetBattery_link
    (options : BtConnectOptions) (st : BtConnectState) :
    SameLink st (resetBattery options st) := by
  rw [resetBattery]
  split_ifs <;> exact ⟨rfl, rfl, rfl⟩

theorem getBatteryState_link
    (options : BtConnectOptions) (st : BtConnectState)
    (battery : Except Int UInt8) :
    SameLink st (getBatteryState options st battery) := by
  cases battery with
  | error err => exact ⟨rfl, rfl, rfl⟩
  | ok percentage =>
      rw [getBatteryState]
      split_ifs <;> exact ⟨rfl, rfl, rfl⟩

theorem hidsPmEvtHandler_link
    (st : BtConnectState) (evt : HidsPmEvt) (conn : Nat) :
    SameLink st (hidsPmEvtHandler st evt conn) := by
  rw [hidsPmEvtHandler]
  cases findConnState st conn with
  | none => exact ⟨rfl, rfl, rfl⟩
  | some index =>
      refine ⟨List.length_modify _ _ _, rfl, ?_⟩
      have held :
          entries ConnState.conn
              (st.connStates.modify index fun state =>
                { state with inBootMode := evt.boot }) =
            heldConns st :=
        entries_modify fun _ => rfl
      exact congrArg (fun conns => { linkView st with held := conns }) held

/-- An attempt to advertise shows in the view if it succeeds. -/
theorem advertisingStart_view (st : BtConnectState) (advStart : Int) :
    linkView (advertisingStart st advStart) =
      if failed advStart then
        linkView st
      else
        { linkView st with advertising := true, isAdvertising := true } := by
  rw [advertisingStart]
  split_ifs <;> rfl

theorem anyConnected_eq_false :
    anyConnected st = false ↔ heldConns st = [] := by
  rw [anyConnected, heldConns, entries, List.any_eq_false,
    List.filterMap_eq_nil_iff]
  exact forall₂_congr fun state _ => Option.not_isSome_iff_eq_none

end Views

/-! ## Steps of the link -/

section Steps

variable
    {options : BtConnectOptions} {st next : BtConnectState}
    {event : BtConnectEvent} {link : HostLink} {conn : Nat}

/-- The step leads to a link that is lost only if it was or something failed. -/
def Leads
    (options : BtConnectOptions) (link : HostLink) (event : BtConnectEvent)
    (next : BtConnectState) : Prop :=
  ∃ after, Linked options next after ∧
    (after ≠ .lost ↔ link ≠ .lost ∧ KeepsHosts options event)

theorem leads_same
    (linked : Linked options st link) (same : SameLink st next)
    (keeps : KeepsHosts options event) : Leads options link event next :=
  ⟨link, linked_same linked same, (and_iff_left keeps).symm⟩

/-- An attempt to advertise decides between seeking a host and being lost. -/
theorem leads_attempt
    {advStart : Int} (slots : st.connStates.length = options.maxClientCount)
    (distinct : (st.peers.map Prod.fst).Nodup)
    (view : linkView st = ⟨true, false, false, [], []⟩)
    (found : link ≠ .lost)
    (keeps : KeepsHosts options event ↔ failed advStart = false) :
    Leads options link event (advertisingStart st advStart) := by
  rw [Leads, keeps]
  have after := advertisingStart_view st advStart
  rw [view] at after
  rw [advertisingStart] at after ⊢
  cases fails : failed advStart with
  | true =>
      refine ⟨.lost, ⟨slots, distinct, ?_⟩, by simp⟩
      rw [if_pos rfl, view]
      exact .failed
  | false =>
      refine ⟨.seeking, ⟨slots, distinct, ?_⟩, by simp [found]⟩
      rw [fails] at after
      exact after ▸ .seeking

theorem leads_init
    (linked : Linked options st link) (unstarted : st.started = false)
    (results : InitResults) :
    Leads options link (.init results) (btConnectInit options st results) := by
  rcases linked.view.of_unstarted unstarted with ⟨view, rfl⟩
  have reset := resetBattery_link options st
  rw [btConnectInit]
  split_ifs with unregistered disabled
  · refine ⟨.off, linked, iff_of_true HostLink.noConfusion ⟨?_, ?_⟩⟩
    · exact HostLink.noConfusion
    · exact fun registered => absurd registered unregistered
  · refine
      ⟨.off, linked_same linked reset,
        iff_of_true HostLink.noConfusion ⟨?_, ?_⟩⟩
    · exact HostLink.noConfusion
    · exact fun _ enabled => absurd enabled disabled
  · have begun :=
      getBatteryState_link options
        { resetBattery options st with started := true } results.battery
    apply leads_attempt
    · exact begun.slots.trans (reset.slots.trans linked.slots)
    · rw [begun.peers]
      exact reset.peers ▸ linked.distinct
    · have enabled :
          linkView { resetBattery options st with started := true } =
            { linkView (resetBattery options st) with started := true } :=
        rfl
      rw [begun.view, enabled, reset.view, view]
    · exact HostLink.noConfusion
    · rw [KeepsHosts, not_not.mp unregistered, not_not.mp disabled]
      simp

theorem allocConnState_isSome
    (empty : heldConns st = []) :
    (allocConnState st).isSome = true ↔ 0 < st.connStates.length := by
  have free := List.filterMap_eq_nil_iff.mp empty
  rw [allocConnState, List.findIdx?_isSome, List.any_eq_true,
    List.length_pos_iff_exists_mem]
  constructor
  · rintro ⟨state, member, _⟩
    exact ⟨state, member⟩
  · rintro ⟨state, member⟩
    exact ⟨state, member, decide_eq_true (free state member)⟩

/-- A host is taken up by a keyboard that seeks one if all answers are good. -/
theorem accepts_iff
    {err : UInt8} {results : ConnectedResults}
    (slots : st.connStates.length = options.maxClientCount)
    (empty : heldConns st = []) :
    Accepts st .peripheral err results ↔
      KeepsHosts options (.connected conn .peripheral err results) := by
  rw [Accepts, allocConnState_isSome empty, slots, btConnectManagesConn]
  simp only [decide_true, Bool.and_true, decide_eq_true_eq, KeepsHosts]
  tauto

/-- A connection to a host ends the advertising. -/
theorem stackConnects_view (err : UInt8) :
    linkView (stackConnects st conn .peripheral err) =
      { linkView st with
        advertising := false
        peers :=
          if err = 0 then conn :: hostPeers st else hostPeers st } := by
  rw [linkView, linkView, stackConnects]
  split_ifs
  · rw [hostPeers, List.filterMap_cons]
    simp [hostPeer, heldConns, hostPeers]
  · simp [heldConns, hostPeers]

/-- A connection that takes a slot when all are free is the one held. -/
theorem takes_view
    {index : Nat} {slot : ConnState} {ready : Bool}
    (found : st.connStates[index]? = some slot) (empty : heldConns st = []) :
    linkView
        { st with
          connStates := st.connStates.set index ⟨some conn, false⟩
          isAdvertising := false
          batteryNotificationsReady := ready } =
      { linkView st with isAdvertising := false, held := [conn] } :=
  congrArg
    (fun conns => { linkView st with isAdvertising := false, held := conns })
    (entries_set_of_empty empty found rfl)

theorem leads_connected
    {err : UInt8} {results : ConnectedResults}
    (linked : Linked options st link)
    (fresh : conn ∉ st.peers.map Prod.fst)
    (advertises : st.advertising = true) :
    Leads options link (.connected conn .peripheral err results)
      (connected options (stackConnects st conn .peripheral err) conn
        .peripheral err results).1 := by
  rcases linked.view.of_advertising advertises with ⟨view, rfl⟩
  have distinct :
      ((stackConnects st conn .peripheral err).peers.map Prod.fst).Nodup := by
    rw [stackConnects]
    split_ifs
    · exact List.nodup_cons.mpr ⟨fresh, linked.distinct⟩
    · exact linked.distinct
  have empty : heldConns (stackConnects st conn .peripheral err) = [] :=
    congrArg LinkView.held view
  have accepted :
      Accepts (stackConnects st conn .peripheral err) .peripheral err
          results ↔
        KeepsHosts options (.connected conn .peripheral err results) :=
    accepts_iff linked.slots empty
  have hosts : hostPeers st = [] := congrArg LinkView.peers view
  have seeking : HostLink.seeking ≠ .lost := HostLink.noConfusion
  rw [Leads, ← accepted, and_iff_right seeking]
  by_cases accepts :
      Accepts (stackConnects st conn .peripheral err) .peripheral err results
  · rcases Option.isSome_iff_exists.mp accepts.2.2.1 with ⟨index, free⟩
    rcases free_slot free with ⟨slot, found, unheld⟩
    rw [connected_accepted options _ conn .peripheral accepts free]
    refine
      ⟨.serving conn, ⟨?_, distinct, ?_⟩,
        iff_of_true HostLink.noConfusion accepts⟩
    · exact (List.length_set ..).trans linked.slots
    · dsimp only
      rw [takes_view found empty, stackConnects_view, view, if_pos accepts.1,
        hosts]
      exact .serving conn
  · rw [connected_refused options _ conn .peripheral accepts]
    refine
      ⟨.lost, ⟨linked.slots, distinct, ?_⟩, iff_of_false (by simp) accepts⟩
    rw [stackConnects_view, view]
    exact .stale _

/-- A slot freed of the only connection leaves none. -/
theorem release_view
    (only : heldConns st = [conn]) :
    linkView (releaseConnState st (findConnState st conn)) =
      { linkView st with held := [] } := by
  cases found : findConnState st conn with
  | none =>
      have held := findConnState_held (only ▸ List.mem_singleton_self conn)
      rw [found] at held
      cases held
  | some index =>
      rcases found_slot found with ⟨boot, slot⟩
      have freed :
          entries ConnState.conn (st.connStates.set index .free) = [] :=
        entries_set_of_only only slot rfl rfl
      exact congrArg (fun conns => { linkView st with held := conns }) freed

/-- With no connection left and the flag down, advertising is tried again. -/
theorem maybeRestart_tries
    (empty : heldConns st = []) (down : st.isAdvertising = false)
    (advStart : Int) :
    maybeRestartAdvertising st advStart = advertisingStart st advStart :=
  if_pos ⟨anyConnected_eq_false.mpr empty, down⟩

theorem maybeRestart_stale
    (stale : st.isAdvertising = true) (advStart : Int) :
    maybeRestartAdvertising st advStart = st :=
  if_neg fun both => Bool.false_ne_true (both.2.symm.trans stale)

/-- The host that was served leaves. -/
theorem leads_left
    {results : DisconnectedResults}
    (slots : st.connStates.length = options.maxClientCount)
    (distinct : (st.peers.map Prod.fst).Nodup)
    (view : linkView st = ⟨true, false, false, [conn], []⟩) :
    Leads options (.serving conn) (.disconnected conn .peripheral results)
      (disconnected options st conn .peripheral results).1 := by
  have only : heldConns st = [conn] := congrArg LinkView.held view
  have known : Concerns st conn .peripheral results :=
    .inr (findConnState_held (only ▸ List.mem_singleton_self conn))
  have stopped :=
    stopBatteryNotifications_link options
      (releaseConnState st (findConnState st conn))
  have after := stopped.view
  rw [release_view only, view] at after
  rw [disconnected_concerned options st conn .peripheral known]
  dsimp only
  rw [maybeRestart_tries (congrArg LinkView.held after)
    (congrArg LinkView.isAdvertising after)]
  apply leads_attempt _ _ after HostLink.noConfusion Iff.rfl
  · rw [stopped.slots, releaseConnState_length, slots]
  · rw [stopped.peers, releaseConnState_peers]
    exact distinct

/-- With the flag stale, the end of a connection changes nothing. -/
theorem leads_stale
    {results : DisconnectedResults} {peers : List Nat}
    (slots : st.connStates.length = options.maxClientCount)
    (distinct : (st.peers.map Prod.fst).Nodup)
    (view : linkView st = ⟨true, false, true, [], peers⟩) :
    Leads options .lost (.disconnected conn .peripheral results)
      (disconnected options st conn .peripheral results).1 := by
  have linked : Linked options st .lost :=
    ⟨slots, distinct, view ▸ .stale peers⟩
  have lost {event : BtConnectEvent} {next : BtConnectState}
      (same : SameLink st next) : Leads options .lost event next :=
    ⟨.lost, linked_same linked same, by simp⟩
  by_cases concerns : Concerns st conn .peripheral results
  · have empty : heldConns st = [] := congrArg LinkView.held view
    have stopped := stopBatteryNotifications_link options st
    have unknown : findConnState st conn = none :=
      findConnState_unheld (empty ▸ List.not_mem_nil)
    rw [disconnected_concerned options st conn .peripheral concerns, unknown]
    dsimp only
    rw [maybeRestart_stale]
    · exact lost stopped
    · exact
        congrArg LinkView.isAdvertising (stopped.view.trans view)
  · rw [disconnected_ignored options st conn .peripheral concerns]
    exact lost ⟨rfl, rfl, rfl⟩

theorem leads_disconnected
    {results : DisconnectedResults}
    (linked : Linked options st link)
    (peer : (conn, ConnRole.peripheral) ∈ st.peers) :
    Leads options link (.disconnected conn .peripheral results)
      (disconnected options
        { st with peers := st.peers.erase (conn, .peripheral) } conn
        .peripheral results).1 := by
  have host : conn ∈ (linkView st).peers :=
    List.mem_filterMap.mpr ⟨_, peer, rfl⟩
  have distinct :
      ((st.peers.erase (conn, .peripheral)).map Prod.fst).Nodup :=
    linked.distinct.sublist (List.erase_sublist.map Prod.fst)
  have ended :
      linkView { st with peers := st.peers.erase (conn, .peripheral) } =
        { linkView st with peers := (linkView st).peers.erase conn } :=
    congrArg (fun hosts => { linkView st with peers := hosts })
      (hostPeers_erase_peripheral st.peers)
  have view := linked.view
  generalize linkView st = before at host ended view
  cases view with
  | off => cases host
  | seeking => cases host
  | failed => cases host
  | serving other =>
      rw [List.mem_singleton] at host
      subst host
      rw [List.erase_cons_head] at ended
      exact leads_left linked.slots distinct ended
  | stale peers => exact leads_stale linked.slots distinct ended

@[simp]
theorem manages_central (infoErr : Int) :
    btConnectManagesConn infoErr .central = false :=
  Bool.and_false _

/-- A connection to the other half is none of the subsystem's. -/
theorem leads_central_connected
    {err : UInt8} {results : ConnectedResults}
    (linked : Linked options st link)
    (fresh : conn ∉ st.peers.map Prod.fst) :
    Leads options link (.connected conn .central err results)
      (connected options (stackConnects st conn .central err) conn .central
        err results).1 := by
  have refused :
      ¬ Accepts (stackConnects st conn .central err) .central err results := by
    rintro ⟨_, managed, _⟩
    rw [manages_central] at managed
    cases managed
  rw [connected_refused options _ conn .central refused]
  refine ⟨link, ⟨linked.slots, ?_, ?_⟩, (and_iff_left trivial).symm⟩
  · rw [stackConnects]
    split_ifs
    · exact List.nodup_cons.mpr ⟨fresh, linked.distinct⟩
    · exact linked.distinct
  · have same :
        linkView (stackConnects st conn .central err) = linkView st := by
      have advertises :
          (st.advertising && decide (ConnRole.central = .central)) =
            st.advertising :=
        Bool.and_true _
      rw [linkView, linkView, stackConnects, advertises]
      split_ifs <;> rfl
    rw [same]
    exact linked.view

theorem leads_central_disconnected
    {results : DisconnectedResults} (linked : Linked options st link)
    (peer : (conn, ConnRole.central) ∈ st.peers) :
    Leads options link (.disconnected conn .central results)
      (disconnected options
        { st with peers := st.peers.erase (conn, .central) } conn
        .central results).1 := by
  have unheld : conn ∉ heldConns st := by
    intro held
    rcases List.mem_filterMap.mp (linked.view.held_peer held) with
      ⟨⟨other, _ | _⟩, member, named⟩
    · cases named
    · cases named
      have same := List.inj_on_of_nodup_map linked.distinct peer member rfl
      cases same
  have ignored :
      ¬ Concerns { st with peers := st.peers.erase (conn, .central) } conn
        .central results := by
    have unknown := findConnState_unheld unheld
    rintro (managed | known)
    · rw [manages_central] at managed
      cases managed
    · exact Option.not_isSome_iff_eq_none.mpr unknown known
  rw [disconnected_ignored options _ conn .central ignored]
  refine
    ⟨link,
      ⟨linked.slots,
        linked.distinct.sublist (List.erase_sublist.map Prod.fst), ?_⟩,
      (and_iff_left trivial).symm⟩
  have same :
      linkView { st with peers := st.peers.erase (conn, .central) } =
        linkView st :=
    congrArg (fun hosts => { linkView st with peers := hosts })
      (hostPeers_erase_central st.peers)
  rw [same]
  exact linked.view

theorem linked_step
    (linked : Linked options st link)
    (stepped : btConnectStep options st event = some next) :
    Leads options link event next := by
  cases event with
  | init results =>
      rw [btConnectStep] at stepped
      split_ifs at stepped with started
      cases stepped
      exact leads_init linked (eq_false_of_ne_true started) results
  | connected conn role err results =>
      rw [btConnectStep] at stepped
      split_ifs at stepped with possible
      cases stepped
      cases role with
      | central => exact leads_central_connected linked possible.1
      | peripheral =>
          exact leads_connected linked possible.1 (possible.2.2 rfl)
  | disconnected conn role results =>
      rw [btConnectStep] at stepped
      split_ifs at stepped with peer
      cases stepped
      cases role with
      | central => exact leads_central_disconnected linked peer
      | peripheral => exact leads_disconnected linked peer
  | protocolMode evt conn =>
      cases stepped
      exact leads_same linked (hidsPmEvtHandler_link st evt conn) trivial
  | securityChanged role level err infoErr =>
      rw [btConnectStep] at stepped
      split_ifs at stepped
      cases stepped
      refine leads_same linked ?_ trivial
      rw [securityChanged]
      split_ifs <;> exact ⟨rfl, rfl, rfl⟩
  | publish notify =>
      rw [btConnectStep] at stepped
      split_ifs at stepped
      cases stepped
      refine leads_same linked ?_ trivial
      rw [publishPendingBatteryLevel]
      dsimp only
      split_ifs <;> exact ⟨rfl, rfl, rfl⟩
  | _ =>
      rw [btConnectStep] at stepped
      split_ifs at stepped
      cases stepped
      exact leads_same linked ⟨rfl, rfl, rfl⟩ trivial

end Steps

/-! ## Runs -/

/-- A keyboard that has started advertises or has a host. -/
def Findable (st : BtConnectState) : Prop :=
  st.started = true → st.advertising = true ∨ btConnectForeachConn st ≠ []

theorem linked_kept
    {options : BtConnectOptions} (st : BtConnectState)
    (event : BtConnectEvent) (next : BtConnectState)
    (linked : ∃ link, Linked options st link)
    (stepped : btConnectStep options st event = some next) :
    ∃ link, Linked options next link := by
  rcases linked with ⟨link, linked⟩
  rcases linked_step linked stepped with ⟨after, linkedAfter, _⟩
  exact ⟨after, linkedAfter⟩

theorem findable_iff
    {options : BtConnectOptions} {st : BtConnectState} {link : HostLink}
    (linked : Linked options st link) : Findable st ↔ link ≠ .lost := by
  have hosts :
      btConnectForeachConn st = [] ↔ (linkView st).held = [] := by
    rw [← List.map_eq_nil_iff (f := Prod.fst), foreachConn_conns]
    rfl
  have view := linked.view
  rw [Findable, ne_eq, hosts]
  show
    ((linkView st).started = true →
      (linkView st).advertising = true ∨ (linkView st).held ≠ []) ↔ _
  generalize linkView st = shown at view ⊢
  cases view <;> simp

theorem linked_initial (options : BtConnectOptions) :
    Linked options (.initial options) .off where
  slots := List.length_replicate
  distinct := List.nodup_nil
  view := by
    have none : heldConns (.initial options) = [] := by
      rw [heldConns, entries, BtConnectState.initial,
        List.filterMap_eq_nil_iff]
      intro state member
      rw [List.eq_of_mem_replicate member]
      rfl
    rw [linkView, none]
    exact .off

/--
Once started the keyboard advertises or has a host, if and only if no attempt
to advertise failed and every connection from a host was taken up: after one
that was not, it never advertises again.
-/
theorem findable_iff_keeps_hosts
    (options : BtConnectOptions) (events : List BtConnectEvent)
    (finish : BtConnectState)
    (ran :
      run (btConnectStep options) (.initial options) events = some finish) :
    (finish.started = true →
      finish.advertising = true ∨ btConnectForeachConn finish ≠ []) ↔
      ∀ event ∈ events, KeepsHosts options event := by
  have exactly :
      Findable finish ↔
        Findable (.initial options) ∧
          StepsMeet (btConnectStep options)
            (fun _ event => KeepsHosts options event) (.initial options)
            events := by
    refine
      run_iff_stepsMeet linked_kept ?_ ⟨.off, linked_initial options⟩ ran
    rintro st event next ⟨link, linked⟩ stepped
    rcases linked_step linked stepped with ⟨after, linkedAfter, leads⟩
    rw [findable_iff linked, findable_iff linkedAfter]
    exact leads
  have initially : Findable (.initial options) :=
    fun started => Bool.noConfusion started
  rw [stepsMeet_iff_events ran] at exactly
  exact exactly.trans (and_iff_right initially)

/-- Advertising cannot be taken up after the host that was served left. -/
theorem failedAttempt_lost :
    ∃ finish,
      run (btConnectStep oneClient) (.initial oneClient)
          [.init ⟨0, 0, .error 0, 0⟩, .connected 7 .peripheral 0 ⟨0, 0⟩,
            .disconnected 7 .peripheral ⟨0, -12⟩] =
        some finish ∧
      ((finish.started = true →
          finish.advertising = true ∨ btConnectForeachConn finish ≠ []) ↔
        ∀ event ∈
          ([.init ⟨0, 0, .error 0, 0⟩, .connected 7 .peripheral 0 ⟨0, 0⟩,
            .disconnected 7 .peripheral ⟨0, -12⟩] : List BtConnectEvent),
          KeepsHosts oneClient event) :=
  ⟨_, rfl, findable_iff_keeps_hosts _ _ _ rfl⟩

/--
However many client slots there are, a run never serves two hosts at a time,
and none while the keyboard advertises.
-/
theorem serves_one_host
    (options : BtConnectOptions) (events : List BtConnectEvent)
    (finish : BtConnectState)
    (ran :
      run (btConnectStep options) (.initial options) events = some finish) :
    (btConnectForeachConn finish).length ≤ 1 ∧
      (finish.advertising = true → btConnectForeachConn finish = []) := by
  rcases run_preserves linked_kept ⟨.off, linked_initial options⟩ ran with
    ⟨link, linked⟩
  have view := linked.view
  rw [← List.length_map (f := Prod.fst),
    ← List.map_eq_nil_iff (f := Prod.fst), foreachConn_conns]
  show
    (linkView finish).held.length ≤ 1 ∧
      ((linkView finish).advertising = true → (linkView finish).held = [])
  generalize linkView finish = shown at view ⊢
  cases view <;> simp

theorem servedHost_alone :
    ∃ finish,
      run (btConnectStep oneClient) (.initial oneClient) twoHosts =
        some finish ∧
      btConnectForeachConn finish = [(9, true)] ∧
      (btConnectForeachConn finish).length ≤ 1 :=
  ⟨_, rfl, rfl, (serves_one_host oneClient twoHosts _ rfl).1⟩

end YkbFirmware.BtConnect.Advertising
