import YkbFirmware.SplitLink.BtReceive
import YkbFirmware.SplitLink.Connection

/-!
# The peripheral of the Bluetooth link

`peripheral.c` advertises the service of the link and waits to be connected
to.  It sends by notifications, so the link counts as connected once there is
a connection and the other half has enabled them.

The host calls back when it documents that it may: a connection is reported
while the half advertises, or beside one that another part of the firmware
has, and ends the advertising.
-/

namespace YkbFirmware.SplitLink.BtPeripheral

open YkbFirmware.Library.TransitionSystem
open YkbFirmware.Library.DrainedQueue (DrainState)
open YkbFirmware.SplitLink.Connection
open YkbFirmware.SplitLink.BtReceive
  (failed einval emsgsize enomem enotconn BtOptions RxPacket
   splitlinkBtQueueRx)

/-! ## State -/

/-- `struct splitlink_bt_data`, and whether the host advertises. -/
structure PeripheralState where
  conn : Option Nat
  link : ConnectionState
  ready : Bool
  notifyEnabled : Bool
  /-- `adv_restart_work` is scheduled. -/
  advRestart : Bool
  advertising : Bool

def PeripheralState.initial : PeripheralState where
  conn := none
  link := .initial
  ready := false
  notifyEnabled := false
  advRestart := false
  advertising := false

def btGattCccNotify : UInt16 := 1

section Calls

variable (st : PeripheralState)

/-! ## Advertising -/

/-- `splitlink_bt_peripheral_start_advertising`. -/
def splitlinkBtPeripheralStartAdvertising (advStart : Int) :
    PeripheralState :=
  if failed advStart then
    if advStart = -enomem then
      { st with advRestart := true }
    else
      st
  else
    { st with advertising := true }

/-- `splitlink_bt_adv_restart_work_handler`, when its timer expires. -/
def splitlinkBtAdvRestartWorkHandler (advStart : Int) : PeripheralState :=
  let st := { st with advRestart := false }
  if st.conn.isSome then
    st
  else
    splitlinkBtPeripheralStartAdvertising st advStart

/-- `splitlink_bt_init`, from its registration of the transport on. -/
def splitlinkBtInit (register enable advStart : Int) :
    Int × PeripheralState :=
  if register ≠ 0 then
    (register, st)
  else if failed enable then
    (enable, st)
  else
    (0,
      splitlinkBtPeripheralStartAdvertising { st with ready := true }
        advStart)

/-! ## Callbacks of the host -/

/-- `splitlink_bt_ccc_cfg_changed`. -/
def splitlinkBtCccCfgChanged (value : UInt16) : PeripheralState :=
  let st := { st with notifyEnabled := decide (value = btGattCccNotify) }
  if st.notifyEnabled ∧ st.conn.isSome then
    { st with link := splitlinkBtNotifyConnected st.link }
  else
    { st with link := splitlinkBtNotifyDisconnected st.link }

/-- `splitlink_bt_connected`. -/
def splitlinkBtConnected (conn : Nat) (err : UInt8) : PeripheralState :=
  if err ≠ 0 then
    { st with advRestart := true }
  else if st.conn.isSome then
    st
  else
    { st with conn := some conn }

/-- `splitlink_bt_disconnected`. -/
def splitlinkBtDisconnected (conn : Nat) : PeripheralState :=
  if some conn ≠ st.conn then
    st
  else
    { st with
      link := splitlinkBtNotifyDisconnected st.link
      notifyEnabled := false
      conn := none
      advRestart := true }

/-! ## Packets -/

inductive SendOutcome where
  | refused (err : Int)
  /-- `bt_gatt_notify` over a connection. -/
  | notifies (conn : Nat)
deriving DecidableEq, Repr

/-- `splitlink_bt_send`. -/
def splitlinkBtSend (packetLength dataLen : Nat) : SendOutcome :=
  if dataLen = 0 then
    .refused (-einval)
  else if dataLen > packetLength then
    .refused (-emsgsize)
  else if st.link.connected = false then
    .refused (-enotconn)
  else
    match st.conn with
    | none => .refused (-enotconn)
    | some conn =>
        if st.notifyEnabled = false then
          .refused (-enotconn)
        else
          .notifies conn

end Calls

inductive AttError where
  | invalidOffset
  | invalidAttributeLen
  | insufficientResources
deriving DecidableEq, Repr

/-- `splitlink_bt_rx_write`. -/
def splitlinkBtRxWrite
    (options : BtOptions) (queue : DrainState RxPacket) (buf : List UInt8)
    (len offset : UInt16) : Except AttError UInt16 × DrainState RxPacket :=
  if offset ≠ 0 then
    (.error .invalidOffset, queue)
  else if len = 0 ∨ len.toNat > options.packetLength then
    (.error .invalidAttributeLen, queue)
  else
    let queued := splitlinkBtQueueRx options queue buf len
    if queued.1 ≠ 0 then
      (.error .insufficientResources, queued.2)
    else
      (.ok len, queued.2)

/-- A write is acknowledged exactly if it is whole and its packet queued. -/
theorem rxWrite_acknowledged_iff
    (options : BtOptions) (queue : DrainState RxPacket) (buf : List UInt8)
    (len offset : UInt16) :
    (splitlinkBtRxWrite options queue buf len offset).1 = .ok len ↔
      offset = 0 ∧ (splitlinkBtQueueRx options queue buf len).1 = 0 := by
  by_cases whole : offset = 0
  · by_cases sized : len = 0 ∨ len.toNat > options.packetLength
    · simp [splitlinkBtRxWrite, splitlinkBtQueueRx, whole, sized, emsgsize]
    · simp only [splitlinkBtRxWrite, whole, sized, ne_eq, not_true_eq_false,
        if_false, true_and]
      split_ifs with refused <;> simp [refused]
  · simp [splitlinkBtRxWrite, whole]

/-! ## Runs -/

inductive PeripheralEvent where
  | init (register enable advStart : Int)
  | cccChanged (value : UInt16)
  | connected (conn : Nat) (err : UInt8)
  | disconnected (conn : Nat)
  | advRestart (advStart : Int)
  | workBegins
  | workEnds

def peripheralStep (st : PeripheralState) :
    PeripheralEvent → Option PeripheralState
  | .init register enable advStart =>
      if st.ready then
        none
      else
        some (splitlinkBtInit st register enable advStart).2
  | .cccChanged value => some (splitlinkBtCccCfgChanged st value)
  | .connected conn err =>
      if st.advertising ∨ st.conn.isSome then
        some (splitlinkBtConnected { st with advertising := false } conn err)
      else
        none
  | .disconnected conn => some (splitlinkBtDisconnected st conn)
  | .advRestart advStart =>
      if st.advRestart then
        some (splitlinkBtAdvRestartWorkHandler st advStart)
      else
        none
  | .workBegins =>
      (connectionStep st.link .workBegins).map fun link =>
        { st with link := link }
  | .workEnds =>
      (connectionStep st.link .workEnds).map fun link =>
        { st with link := link }

/-! ## The level of the link -/

/-- The link is up over connections with notifications only. -/
def Backed (st : PeripheralState) : Prop :=
  st.link.connected = true → st.conn.isSome ∧ st.notifyEnabled = true

/-- The link is up over every connection with notifications. -/
def Noticed (st : PeripheralState) : Prop :=
  st.conn.isSome ∧ st.notifyEnabled = true → st.link.connected = true

/-- The event changes the connection or its notifications. -/
def Concerns (st : PeripheralState) : PeripheralEvent → Prop
  | .cccChanged _ => True
  | .connected _ err => err = 0 ∧ st.conn = none
  | .disconnected conn => st.conn = some conn
  | _ => False

/-- Notifications are not enabled before there is a connection. -/
def ConnectsFirst (st : PeripheralState) : PeripheralEvent → Prop
  | .connected _ _ => st.notifyEnabled = false
  | _ => True

section Steps

variable {st next : PeripheralState} {event : PeripheralEvent}

@[simp]
theorem startAdvertising_same (advStart : Int) :
    (splitlinkBtPeripheralStartAdvertising st advStart).conn = st.conn ∧
      (splitlinkBtPeripheralStartAdvertising st advStart).link = st.link ∧
      (splitlinkBtPeripheralStartAdvertising st advStart).notifyEnabled =
        st.notifyEnabled := by
  rw [splitlinkBtPeripheralStartAdvertising]
  split_ifs <;> exact ⟨rfl, rfl, rfl⟩

/-- A step changes the level with what concerns it, or not at all. -/
inductive LevelStep
    (st : PeripheralState) (event : PeripheralEvent)
    (next : PeripheralState) : Prop where
  | same (apart : ¬ Concerns st event)
      (conn : next.conn = st.conn)
      (enabled : next.notifyEnabled = st.notifyEnabled)
      (level : next.link.connected = st.link.connected)
  | settles (concerns : Concerns st event) (first : ConnectsFirst st event)
      (level :
        next.link.connected = (next.conn.isSome && next.notifyEnabled))
  | attaches (concerns : Concerns st event)
      (first : ConnectsFirst st event ↔ st.notifyEnabled = false)
      (unattached : st.conn = none) (attached : next.conn.isSome = true)
      (enabled : next.notifyEnabled = st.notifyEnabled)
      (level : next.link.connected = st.link.connected)

theorem levelStep_cccChanged (value : UInt16) :
    LevelStep st (.cccChanged value) (splitlinkBtCccCfgChanged st value) := by
  refine .settles trivial trivial ?_
  simp only [splitlinkBtCccCfgChanged]
  cases enabled : decide (value = btGattCccNotify) with
  | false =>
      simp [notifyDisconnected_connected]
  | true =>
      cases attached : st.conn with
      | none => simp [notifyDisconnected_connected]
      | some conn => simp [notifyConnected_connected]

theorem levelStep_connected (conn : Nat) (err : UInt8) :
    LevelStep st (.connected conn err)
      (splitlinkBtConnected { st with advertising := false } conn err) := by
  rw [splitlinkBtConnected]
  split_ifs with fails attached
  · exact .same (fun concerns => fails concerns.1) rfl rfl rfl
  · refine .same (fun concerns => ?_) rfl rfl rfl
    simp [concerns.2] at attached
  · exact
      .attaches ⟨not_not.mp fails, by simpa using attached⟩ Iff.rfl
        (by simpa using attached) rfl rfl rfl

theorem levelStep_disconnected (conn : Nat) :
    LevelStep st (.disconnected conn) (splitlinkBtDisconnected st conn) := by
  rw [splitlinkBtDisconnected]
  split_ifs with other
  · exact .same (fun concerns => other concerns.symm) rfl rfl rfl
  · exact
      .settles (not_not.mp other).symm trivial
        (notifyDisconnected_connected st.link)

theorem level_step (stepped : peripheralStep st event = some next) :
    LevelStep st event next := by
  have works {link : ConnectionState} {work : ConnectionEvent}
      (keeps : ¬ ChangesLevel st.link work)
      (worked : connectionStep st.link work = some link) :
      link.connected = st.link.connected :=
    (settledLevel_step keeps worked).2
  cases event with
  | init register enable advStart =>
      rw [peripheralStep] at stepped
      split_ifs at stepped
      cases stepped
      rw [splitlinkBtInit]
      split_ifs
      · exact .same id rfl rfl rfl
      · exact .same id rfl rfl rfl
      · have same := @startAdvertising_same { st with ready := true } advStart
        exact .same id same.1 same.2.2 (by rw [same.2.1])
  | cccChanged value =>
      cases stepped
      exact levelStep_cccChanged value
  | connected conn err =>
      rw [peripheralStep] at stepped
      split_ifs at stepped
      cases stepped
      exact levelStep_connected conn err
  | disconnected conn =>
      cases stepped
      exact levelStep_disconnected conn
  | advRestart advStart =>
      rw [peripheralStep] at stepped
      split_ifs at stepped
      cases stepped
      simp only [splitlinkBtAdvRestartWorkHandler]
      split_ifs
      · exact .same id rfl rfl rfl
      · have same :=
          @startAdvertising_same { st with advRestart := false } advStart
        exact .same id same.1 same.2.2 (by rw [same.2.1])
  | workBegins =>
      rcases Option.map_eq_some_iff.mp stepped with ⟨link, worked, rfl⟩
      exact
        .same id rfl rfl (works (by simp [ChangesLevel, submission]) worked)
  | workEnds =>
      rcases Option.map_eq_some_iff.mp stepped with ⟨link, worked, rfl⟩
      exact
        .same id rfl rfl (works (by simp [ChangesLevel, submission]) worked)

theorem backed_step
    (backed : Backed st) (stepped : peripheralStep st event = some next) :
    Backed next := by
  cases level_step stepped with
  | same _ conn enabled level =>
      rw [Backed, conn, enabled, level]
      exact backed
  | settles _ _ level =>
      intro up
      rw [level, Bool.and_eq_true] at up
      exact up
  | attaches _ _ unattached _ _ level =>
      intro up
      have attached := (backed (level.symm.trans up)).1
      rw [unattached] at attached
      cases attached

theorem noticed_concerned
    (backed : Backed st) (concerns : Concerns st event)
    (stepped : peripheralStep st event = some next) :
    Noticed next ↔ ConnectsFirst st event := by
  cases level_step stepped with
  | same apart => exact absurd concerns apart
  | settles _ first level =>
      refine iff_of_true (fun both => ?_) first
      rw [level, both.1, both.2]
      rfl
  | attaches _ first unattached attached enabled level =>
      have low : st.link.connected = false := by
        by_contra up
        have before := (backed (by simpa using up)).1
        rw [unattached] at before
        cases before
      rw [first, Noticed, attached, enabled, level, low]
      cases st.notifyEnabled <;> simp

theorem noticed_left
    (apart : ¬ Concerns st event)
    (stepped : peripheralStep st event = some next) :
    Noticed next ↔ Noticed st := by
  cases level_step stepped with
  | same _ conn enabled level => rw [Noticed, Noticed, conn, enabled, level]
  | settles concerns => exact absurd concerns apart
  | attaches concerns => exact absurd concerns apart

end Steps

/--
The peripheral sends over a connection only if its notifications are enabled;
and over one whose notifications are enabled it sends if and only if, of the
changes of either, the last was not the connection itself.
-/
theorem notifies_iff_connected_first
    (events : List PeripheralEvent) (finish : PeripheralState)
    (ran : run peripheralStep .initial events = some finish)
    (packetLength dataLen conn : Nat) (someData : 0 < dataLen)
    (fits : dataLen ≤ packetLength) (attached : finish.conn = some conn) :
    splitlinkBtSend finish packetLength dataLen = .notifies conn ↔
      finish.notifyEnabled = true ∧
        LastMeets peripheralStep Concerns ConnectsFirst True .initial
          events := by
  have backedInitially : Backed .initial := fun up => Bool.noConfusion up
  have backed : Backed finish :=
    run_preserves (fun _ _ _ backed stepped => backed_step backed stepped)
      backedInitially ran
  have noticed :
      Noticed finish ↔
        LastMeets peripheralStep Concerns ConnectsFirst True .initial
          events :=
    run_iff_lastMeets_of_invariant
      (fun _ _ _ backed stepped => backed_step backed stepped)
      (fun _ _ _ backed concerns stepped =>
        noticed_concerned backed concerns stepped)
      (fun _ _ _ _ apart stepped => noticed_left apart stepped)
      backedInitially
        (iff_of_true (fun both => Bool.noConfusion both.1) trivial)
      ran
  have valid : ¬ dataLen = 0 ∧ ¬ dataLen > packetLength := by omega
  rw [← noticed, Noticed, splitlinkBtSend, if_neg valid.1, if_neg valid.2,
    attached]
  cases level : finish.link.connected with
  | false =>
      cases finish.notifyEnabled <;> simp
  | true =>
      simp [(backed level).2]

/-- Notifications are enabled over the connection, as they usually are. -/
theorem enabledLater_notifies :
    ∃ finish,
      run peripheralStep .initial
          [.init 0 0 0, .connected 0 0, .cccChanged 1] =
        some finish ∧
      splitlinkBtSend finish 72 5 = .notifies 0 :=
  ⟨_, rfl,
    (notifies_iff_connected_first
        [.init 0 0 0, .connected 0 0, .cccChanged 1] _ rfl 72 5 0 (by decide)
        (by decide) rfl).mpr
      ⟨rfl, by
        rintro next ⟨⟩ next ⟨⟩ next ⟨⟩
        exact .inl ⟨trivial, trivial⟩⟩⟩

/-! ## Advertising again -/

/-- What the host answers to the attempt to advertise that the event makes. -/
def advAttempt (st : PeripheralState) : PeripheralEvent → Option Int
  | .init register enable advStart =>
      if register = 0 ∧ failed enable = false then some advStart else none
  | .advRestart advStart =>
      if st.conn = none then some advStart else none
  | _ => none

/-- An attempt to advertise succeeds, or is to be made again. -/
def Retries (st : PeripheralState) (event : PeripheralEvent) : Prop :=
  ∀ answer, advAttempt st event = some answer →
    failed answer = false ∨ answer = -enomem

/-- Once initialised, the half can be connected to or will be. -/
def Seekable (st : PeripheralState) : Prop :=
  st.ready = true →
    st.conn.isSome ∨ st.advertising = true ∨ st.advRestart = true

/-- The half advertises without a connection, and not before it is ready. -/
structure Advertises (st : PeripheralState) : Prop where
  alone :
    st.advertising = true → st.conn = none ∧ st.advRestart = false
  unready :
    st.ready = false →
      st.conn = none ∧ st.advertising = false ∧ st.advRestart = false

section AdvertisingSteps

variable {st next : PeripheralState} {event : PeripheralEvent}

/-- What a step does that neither advertises nor connects. -/
def SameAdvertising (st next : PeripheralState) : Prop :=
  next.conn = st.conn ∧ next.ready = st.ready ∧
    next.advertising = st.advertising ∧ next.advRestart = st.advRestart

inductive AdvStep (st next : PeripheralState) : Option Int → Prop where
  | same (alike : SameAdvertising st next) : AdvStep st next none
  /-- A connection comes or goes; the timer may be left for later. -/
  | moves (seekable : Seekable st) (ready : next.ready = st.ready)
      (silent : next.advertising = false)
      (reachable : next.conn.isSome ∨ next.advRestart = true)
      (begun : st.ready = true) :
      AdvStep st next none
  | tries (answer : Int) (seekable : Seekable st)
      (ready : next.ready = true) (unconnected : next.conn = none)
      (advertising : next.advertising = !failed answer)
      (retries :
        next.advRestart = (failed answer && decide (answer = -enomem))) :
      AdvStep st next (some answer)

theorem sameAdvertising_cccChanged (value : UInt16) :
    SameAdvertising st (splitlinkBtCccCfgChanged st value) := by
  simp only [splitlinkBtCccCfgChanged]
  split_ifs <;> exact ⟨rfl, rfl, rfl, rfl⟩

/-- An attempt to advertise without a connection. -/
theorem advStep_tries
    {tried : PeripheralState} (seekable : Seekable st) (answer : Int)
    (ready : tried.ready = true) (unconnected : tried.conn = none)
    (silent : tried.advertising = false) (expired : tried.advRestart = false) :
    AdvStep st (splitlinkBtPeripheralStartAdvertising tried answer)
      (some answer) := by
  rw [splitlinkBtPeripheralStartAdvertising]
  split_ifs with fails again
  · exact
      .tries answer seekable ready unconnected (by simp [fails, silent])
        (by rw [fails, decide_eq_true again]; rfl)
  · exact
      .tries answer seekable ready unconnected (by simp [fails, silent])
        (by simp [again, expired])
  · exact
      .tries answer seekable ready unconnected (by simp [fails])
        (by simp [fails, expired])

theorem adv_step
    (advertises : Advertises st)
    (stepped : peripheralStep st event = some next) :
    AdvStep st next (advAttempt st event) := by
  have begun (some : st.conn.isSome ∨ st.advertising = true) :
      st.ready = true := by
    by_contra unready
    rcases advertises.unready (by simpa using unready) with
      ⟨unconnected, silent, -⟩
    simp [unconnected, silent] at some
  cases event with
  | init register enable advStart =>
      rw [peripheralStep] at stepped
      split_ifs at stepped with ready
      cases stepped
      have unready : st.ready = false := by simpa using ready
      rcases advertises.unready unready with ⟨unconnected, silent, expired⟩
      have seekable : Seekable st := fun ready => by
        rw [unready] at ready
        cases ready
      simp only [splitlinkBtInit, advAttempt]
      by_cases registers : register = 0
      · cases enables : failed enable with
        | false =>
            simp only [registers, ne_eq, not_true_eq_false, if_false,
              Bool.false_eq_true, and_self, if_true]
            exact advStep_tries seekable advStart rfl unconnected silent expired
        | true =>
            simp only [registers, ne_eq, not_true_eq_false, if_false,
              Bool.true_eq_false, and_false, if_true]
            exact .same ⟨rfl, rfl, rfl, rfl⟩
      · simp only [registers, ne_eq, not_false_eq_true, if_true, false_and,
          if_false]
        exact .same ⟨rfl, rfl, rfl, rfl⟩
  | cccChanged value =>
      cases stepped
      exact .same (sameAdvertising_cccChanged value)
  | connected conn err =>
      rw [peripheralStep] at stepped
      split_ifs at stepped with reported
      cases stepped
      have seekable : Seekable st := fun _ => by
        rcases reported with advertising | attached
        · exact .inr (.inl advertising)
        · exact .inl attached
      have ready := begun (by rcases reported with on | on <;> simp [on])
      simp only [splitlinkBtConnected]
      split_ifs with fails attached
      · exact .moves seekable rfl rfl (.inr rfl) ready
      · exact .moves seekable rfl rfl (.inl attached) ready
      · exact .moves seekable rfl rfl (.inl rfl) ready
  | disconnected conn =>
      cases stepped
      rw [splitlinkBtDisconnected]
      split_ifs with other
      · exact .same ⟨rfl, rfl, rfl, rfl⟩
      · have attached : st.conn = some conn := (not_not.mp other).symm
        have some : st.conn.isSome := by simp [attached]
        have silent : st.advertising = false := by
          by_contra on
          have unconnected := (advertises.alone (by simpa using on)).1
          rw [attached] at unconnected
          cases unconnected
        exact
          .moves (fun _ => .inl some) rfl silent (.inr rfl) (begun (.inl some))
  | advRestart advStart =>
      rw [peripheralStep] at stepped
      split_ifs at stepped with pending
      cases stepped
      have ready : st.ready = true := by
        by_contra unready
        have expired := (advertises.unready (by simpa using unready)).2.2
        rw [pending] at expired
        cases expired
      have silent : st.advertising = false := by
        by_contra on
        have expired := (advertises.alone (by simpa using on)).2
        rw [pending] at expired
        cases expired
      simp only [splitlinkBtAdvRestartWorkHandler, advAttempt]
      cases attached : st.conn with
      | some conn =>
          exact
            .moves (fun _ => .inl (by simp [attached])) rfl silent
              (.inl rfl) ready
      | none =>
          exact
            advStep_tries (fun _ => .inr (.inr pending)) advStart ready rfl
              silent rfl
  | workBegins | workEnds =>
      rcases Option.map_eq_some_iff.mp stepped with ⟨link, -, rfl⟩
      exact .same ⟨rfl, rfl, rfl, rfl⟩

theorem advertises_step
    (advertises : Advertises st)
    (stepped : peripheralStep st event = some next) : Advertises next := by
  have step := adv_step advertises stepped
  generalize advAttempt st event = attempt at step
  cases step with
  | same alike =>
      rcases alike with ⟨conn, ready, advertising, restart⟩
      refine ⟨fun on => ?_, fun unready => ?_⟩
      · rw [conn, restart]
        exact advertises.alone (advertising ▸ on)
      · rw [conn, advertising, restart]
        exact advertises.unready (ready ▸ unready)
  | moves seekable ready silent reachable begun =>
      refine ⟨fun on => ?_, fun unready => ?_⟩
      · rw [silent] at on
        cases on
      · rw [ready, begun] at unready
        cases unready
  | tries answer seekable ready unconnected advertising retries =>
      refine ⟨fun on => ⟨unconnected, ?_⟩, fun unready => ?_⟩
      · rw [advertising, Bool.not_eq_true'] at on
        rw [retries, on]
        rfl
      · rw [ready] at unready
        cases unready

theorem seekable_step
    (advertises : Advertises st)
    (stepped : peripheralStep st event = some next) :
    Seekable next ↔ Seekable st ∧ Retries st event := by
  have step := adv_step advertises stepped
  rw [Retries]
  generalize advAttempt st event = attempt at step ⊢
  cases step with
  | same alike =>
      rw [Seekable, Seekable, alike.1, alike.2.1, alike.2.2.1, alike.2.2.2]
      simp
  | moves seekable ready silent reachable begun =>
      have after : Seekable next := fun _ => reachable.imp id .inr
      exact iff_of_true after ⟨seekable, by simp⟩
  | tries answer seekable ready unconnected advertising retries =>
      rw [Seekable, ready, unconnected, advertising, retries]
      simp only [Option.some.injEq, forall_eq', seekable, true_and]
      cases failed answer <;> simp

end AdvertisingSteps

/--
Once initialised, the peripheral has a connection, advertises or is about to,
if and only if every attempt to advertise succeeded or lacked memory only:
after any other answer it advertises no more.
-/
theorem peripheral_seekable_iff_retries
    (events : List PeripheralEvent) (finish : PeripheralState)
    (ran : run peripheralStep .initial events = some finish) :
    (finish.ready = true →
      finish.conn.isSome ∨ finish.advertising = true ∨
        finish.advRestart = true) ↔
      StepsMeet peripheralStep Retries .initial events := by
  have initially : Seekable .initial := fun never => Bool.noConfusion never
  have exactly :
      Seekable finish ↔
        Seekable .initial ∧
          StepsMeet peripheralStep Retries .initial events :=
    run_iff_stepsMeet
      (fun _ _ _ advertises stepped => advertises_step advertises stepped)
      (fun _ _ _ advertises stepped => seekable_step advertises stepped)
      ⟨fun never => Bool.noConfusion never, fun _ => ⟨rfl, rfl, rfl⟩⟩ ran
  exact exactly.trans (and_iff_right initially)

/-- Memory is short once, after a connection was lost. -/
theorem shortMemory_advertises :
    ∃ finish,
      run peripheralStep .initial
          [.init 0 0 0, .connected 0 0, .disconnected 0, .advRestart (-12),
            .advRestart 0] =
        some finish ∧
      ((finish.ready = true →
          finish.conn.isSome ∨ finish.advertising = true ∨
            finish.advRestart = true) ↔
        StepsMeet peripheralStep Retries .initial
          [.init 0 0 0, .connected 0 0, .disconnected 0, .advRestart (-12),
            .advRestart 0]) :=
  ⟨_, rfl, peripheral_seekable_iff_retries _ _ rfl⟩

end YkbFirmware.SplitLink.BtPeripheral
