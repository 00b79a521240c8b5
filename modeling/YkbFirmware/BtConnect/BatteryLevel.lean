import YkbFirmware.BtConnect.Connections

/-!
# The level of the battery

A level is told by the battery sensor at any time, and is published with a
delay, once a host takes notifications.  Until then it is pending.  The delay
is a timer that puts a work item into the work queue; telling a level while
the item is queued starts the timer as well.

What a host reads is the level last told unless one is pending.  A pending
level is due to be published, except after a notification that failed, which
is not repeated unless the timer was started again, and after a host enabled
notifications by itself, which does not schedule one.
-/

namespace YkbFirmware.BtConnect.BatteryLevel

open YkbFirmware.Library.TransitionSystem
open YkbFirmware.BtConnect.Connections

/-! ## The battery apart from the connections -/

/-- What the state records of the battery. -/
structure BatteryView where
  started : Bool
  ready : Bool
  pendingValid : Bool
  pendingLevel : UInt8
  primaryLevel : UInt8
  armed : Bool
  queued : Bool

def batteryView
    (options : BtConnectOptions) (st : BtConnectState) : BatteryView where
  started := options.bas && st.started
  ready := st.batteryNotificationsReady
  pendingValid := st.batteryLevelPendingValid
  pendingLevel := st.pendingBatteryLevel
  primaryLevel := st.primaryBatteryLevel
  armed := st.publishArmed
  queued := st.publishQueued

/-- What an event means for the battery. -/
inductive BatteryAct where
  /-- the statics are reset, and the stack is enabled or not -/
  | reset (enabled : Bool)
  | tell (percentage : UInt8)
  /-- a new connection is not secure yet -/
  | wait
  | secure
  | stop
  | ccc (enabled : Bool)
  /-- the timer expires -/
  | expire
  | publish (notify : Int)
deriving DecidableEq

def batteryStep (view : BatteryView) : BatteryAct → Option BatteryView
  | .reset enabled =>
      if view.started then
        none
      else
        some
          { view with
            started := enabled
            ready := false
            primaryLevel := 0 }
  | .tell percentage =>
      some
        { view with
          pendingLevel := min percentage 100
          pendingValid := true
          armed := view.armed || view.ready }
  | .wait => some { view with ready := false }
  | .secure =>
      if view.started then
        some { view with ready := true, armed := true }
      else
        none
  | .stop =>
      some { view with ready := false, armed := false, queued := false }
  | .ccc enabled =>
      if view.started then some { view with ready := enabled } else none
  | .expire =>
      if view.armed then
        some { view with armed := false, queued := true }
      else
        none
  | .publish notify =>
      if view.queued then
        if view.ready = false ∨ view.pendingValid = false then
          some { view with queued := false }
        else
          some
            { view with
              primaryLevel := min view.pendingLevel 100
              pendingValid := decide (notify ≠ 0)
              queued := false }
      else
        none

def batteryActs (options : BtConnectOptions) (st : BtConnectState) :
    BtConnectEvent → List BatteryAct
  | .init results =>
      if options.bas = true ∧ results.register = 0 then
        if results.btEnable = 0 then
          match results.battery with
          | .error _ => [.reset true]
          | .ok percentage => [.reset true, .tell percentage]
        else
          [.reset false]
      else
        []
  | .connected conn role err results =>
      if options.bas = true ∧
          Accepts (stackConnects st conn role err) role err results then
        [.wait]
      else
        []
  | .disconnected conn role results =>
      if options.bas = true ∧ Concerns st conn role results then
        [.stop]
      else
        []
  | .securityChanged role level err infoErr =>
      if options.bas = true ∧ btConnectManagesConn infoErr role = true ∧
          err = 0 ∧ level ≥ btSecurityL2 then
        [.secure]
      else
        []
  | .primaryCcc value => [.ccc (decide (value = btGattCccNotify))]
  | .setBatteryLevel percentage => [.tell percentage]
  | .publishTimer => [.expire]
  | .publish notify => [.publish notify]
  | _ => []

section Views

variable {options : BtConnectOptions} {st next : BtConnectState}

@[simp]
theorem batteryView_advertisingStart (advStart : Int) :
    batteryView options (advertisingStart st advStart) =
      batteryView options st := by
  rw [advertisingStart]
  split_ifs <;> rfl

@[simp]
theorem batteryView_maybeRestart (advStart : Int) :
    batteryView options (maybeRestartAdvertising st advStart) =
      batteryView options st := by
  rw [maybeRestartAdvertising]
  split_ifs
  · exact batteryView_advertisingStart advStart
  · rfl

@[simp]
theorem batteryView_release (state : Option Nat) :
    batteryView options (releaseConnState st state) =
      batteryView options st := by
  cases state <;> rfl

@[simp]
theorem batteryView_hidsPmEvtHandler (evt : HidsPmEvt) (conn : Nat) :
    batteryView options (hidsPmEvtHandler st evt conn) =
      batteryView options st := by
  rw [hidsPmEvtHandler]
  cases findConnState st conn <;> rfl

/-- Without the battery service the initialisation leaves its statics. -/
theorem batteryView_init_without
    (results : InitResults) (without : options.bas = false) :
    batteryView options (btConnectInit options st results) =
      batteryView options st := by
  have level (st : BtConnectState) (battery : Except Int UInt8) :
      getBatteryState options st battery = st := by
    cases battery with
    | error err => rfl
    | ok percentage => rw [getBatteryState, without, if_neg Bool.noConfusion]
  have reset : resetBattery options st = st := by
    rw [resetBattery, without, if_neg Bool.noConfusion]
  rw [btConnectInit, reset]
  dsimp only
  split_ifs
  · rfl
  · rfl
  · rw [batteryView_advertisingStart, level]
    simp [batteryView, without]

theorem batteryRun_init
    (results : InitResults) (unstarted : st.started = false) :
    run batteryStep (batteryView options st)
        (batteryActs options st (.init results)) =
      some (batteryView options (btConnectInit options st results)) := by
  rw [batteryActs]
  cases bas : options.bas with
  | false =>
      rw [if_neg (fun both => Bool.false_ne_true both.1),
        batteryView_init_without results bas]
      rfl
  | true =>
      by_cases registered : results.register = 0
      · rw [if_pos ⟨rfl, registered⟩, btConnectInit,
          if_neg (not_not.mpr registered), resetBattery, bas, if_pos rfl]
        by_cases enabled : results.btEnable = 0
        · rw [if_pos enabled, if_neg (not_not.mpr enabled),
            batteryView_advertisingStart]
          cases results.battery <;>
            simp [getBatteryState, btConnectSetBatteryLevel, batteryView,
              batteryStep, bas, unstarted]
        · rw [if_neg enabled, if_pos enabled]
          simp [batteryView, batteryStep, unstarted]
      · rw [if_neg (fun both => registered both.2), btConnectInit,
          if_pos registered]
        rfl

theorem batteryRun_connected
    (conn : Nat) (role : ConnRole) (err : UInt8)
    (results : ConnectedResults) :
    run batteryStep (batteryView options st)
        (batteryActs options st (.connected conn role err results)) =
      some
        (batteryView options
          (connected options (stackConnects st conn role err) conn role err
            results).1) := by
  rw [batteryActs]
  by_cases accepts :
      Accepts (stackConnects st conn role err) role err results
  · rcases Option.isSome_iff_exists.mp accepts.2.2.1 with ⟨index, free⟩
    rw [connected_accepted options _ conn role accepts free]
    cases bas : options.bas with
    | true =>
        rw [if_pos ⟨rfl, accepts⟩]
        simp [batteryStep, batteryView, stackConnects]
    | false =>
        rw [if_neg (by simp)]
        simp [batteryView, stackConnects]
  · rw [connected_refused options _ conn role accepts,
      if_neg (fun both => accepts both.2)]
    rfl

theorem batteryRun_disconnected
    (conn : Nat) (role : ConnRole) (results : DisconnectedResults) :
    run batteryStep (batteryView options st)
        (batteryActs options st (.disconnected conn role results)) =
      some
        (batteryView options
          (disconnected options
            { st with peers := st.peers.erase (conn, role) } conn role
            results).1) := by
  rw [batteryActs]
  by_cases concerns :
      Concerns { st with peers := st.peers.erase (conn, role) } conn role
        results
  · rw [disconnected_concerned options _ conn role concerns,
      batteryView_maybeRestart]
    have same :
        batteryView options
            (releaseConnState { st with peers := st.peers.erase (conn, role) }
              (findConnState { st with peers := st.peers.erase (conn, role) }
                conn)) =
          batteryView options st :=
      batteryView_release _
    cases bas : options.bas with
    | true =>
        rw [if_pos ⟨rfl, concerns⟩, stopBatteryNotifications, bas,
          if_pos rfl, run_cons, batteryStep, ← same]
        rfl
    | false =>
        rw [if_neg (fun both => Bool.false_ne_true both.1),
          stopBatteryNotifications, bas, if_neg Bool.noConfusion, same]
        rfl
  · rw [disconnected_ignored options _ conn role concerns,
      if_neg (fun both => concerns both.2)]
    rfl

theorem batteryRun_securityChanged
    (role : ConnRole) (level : Nat) (err infoErr : Int)
    (started : st.started = true) :
    run batteryStep (batteryView options st)
        (batteryActs options st (.securityChanged role level err infoErr)) =
      some
        (batteryView options
          (securityChanged options st role level err infoErr)) := by
  rw [batteryActs, securityChanged]
  cases managed : btConnectManagesConn infoErr role with
  | false => simp
  | true =>
      by_cases fails : err = 0
      · by_cases secure : options.bas = true ∧ level ≥ btSecurityL2
        · simp [fails, secure, batteryStep, batteryView, started]
        · rw [if_neg (fun all => secure ⟨all.1, all.2.2.2⟩)]
          simp [fails, secure]
      · simp [fails]

theorem batteryRun_publish
    (notify : Int) (due : st.publishQueued = true) :
    run batteryStep (batteryView options st)
        (batteryActs options st (.publish notify)) =
      some (batteryView options (publishPendingBatteryLevel st notify)) := by
  have acts : batteryActs options st (.publish notify) = [.publish notify] :=
    rfl
  have queued : (batteryView options st).queued = true := due
  rw [acts, run_cons, batteryStep, if_pos queued,
    publishPendingBatteryLevel]
  by_cases silent :
      st.batteryNotificationsReady = false ∨
        st.batteryLevelPendingValid = false
  · simp only [batteryView, silent, if_true]
    rfl
  · rcases not_or.mp silent with ⟨unready, invalid⟩
    have ready := eq_true_of_ne_false unready
    have pending := eq_true_of_ne_false invalid
    by_cases notified : notify = 0 <;>
      simp [batteryView, ready, pending, notified]

/-- A step does to the battery what the acts of its event do. -/
theorem batteryRun_step
    (event : BtConnectEvent)
    (stepped : btConnectStep options st event = some next) :
    run batteryStep (batteryView options st)
        (batteryActs options st event) =
      some (batteryView options next) := by
  cases event with
  | init results =>
      rw [btConnectStep] at stepped
      split_ifs at stepped with started
      cases stepped
      exact batteryRun_init results (eq_false_of_ne_true started)
  | connected conn role err results =>
      rw [btConnectStep] at stepped
      split_ifs at stepped
      cases stepped
      exact batteryRun_connected conn role err results
  | disconnected conn role results =>
      rw [btConnectStep] at stepped
      split_ifs at stepped
      cases stepped
      exact batteryRun_disconnected conn role results
  | securityChanged role level err infoErr =>
      rw [btConnectStep] at stepped
      split_ifs at stepped with possible
      cases stepped
      exact batteryRun_securityChanged role level err infoErr possible.1
  | protocolMode evt conn =>
      cases stepped
      rw [batteryView_hidsPmEvtHandler]
      rfl
  | primaryCcc value =>
      rw [btConnectStep] at stepped
      split_ifs at stepped with possible
      cases stepped
      simp [batteryActs, batteryStep, batteryView, possible,
        primaryBatteryCccCfgChanged]
  | publishTimer =>
      rw [btConnectStep] at stepped
      split_ifs at stepped with armed
      cases stepped
      simp [batteryActs, batteryStep, batteryView, armed,
        publishTimerExpires]
  | publish notify =>
      rw [btConnectStep] at stepped
      split_ifs at stepped with due
      cases stepped
      exact batteryRun_publish notify due
  | _ =>
      rw [btConnectStep] at stepped
      split_ifs at stepped
      cases stepped
      rfl

end Views

/-! ## Runs of the battery -/

/-- The level that is told, or the one told before. -/
def toldAfter (level : UInt8) : BatteryAct → UInt8
  | .tell percentage => min percentage 100
  | _ => level

/-- The levels that the events tell. -/
def levelsTold (options : BtConnectOptions) : BtConnectEvent → List UInt8
  | .init results =>
      if options.bas = true ∧ results.register = 0 ∧ results.btEnable = 0 then
        match results.battery with
        | .error _ => []
        | .ok percentage => [percentage]
      else
        []
  | .setBatteryLevel percentage => [percentage]
  | _ => []

/-- The last level that was told, zero if there was none. -/
def lastLevel
    (options : BtConnectOptions) (events : List BtConnectEvent) : UInt8 :=
  (events.flatMap (levelsTold options)).foldl
    (fun _ percentage => min percentage 100) 0

/-- The level told last is kept or is pending. -/
structure Keeps (view : BatteryView) (level : UInt8) : Prop where
  bounded : level ≤ 100
  primary : view.primaryLevel ≤ 100
  pending : view.pendingValid = true → view.pendingLevel = level
  published : view.pendingValid = false → view.primaryLevel = level
  unstarted :
    view.started = false →
      view.primaryLevel = 0 ∧ view.armed = false ∧ view.ready = false

theorem level_limited (percentage : UInt8) : min percentage 100 ≤ 100 := by
  show (if percentage ≤ 100 then percentage else 100) ≤ 100
  split_ifs with small
  · exact small
  · exact UInt8.le_refl 100

theorem level_same {level : UInt8} (bounded : level ≤ 100) :
    min level 100 = level :=
  if_pos bounded

theorem keeps_step
    (view : BatteryView) (level : UInt8) (act : BatteryAct)
    (next : BatteryView) (keeps : Keeps view level)
    (stepped : batteryStep view act = some next) :
    Keeps next (toldAfter level act) := by
  cases act with
  | reset enabled =>
      rw [batteryStep] at stepped
      split_ifs at stepped with started
      cases stepped
      have unstarted := keeps.unstarted (eq_false_of_ne_true started)
      refine
        ⟨keeps.bounded, level_limited 0, keeps.pending,
          fun published => ?_, ?_⟩
      · exact unstarted.1.symm.trans (keeps.published published)
      · exact fun _ => ⟨rfl, unstarted.2.1, rfl⟩
  | tell percentage =>
      cases stepped
      refine
        ⟨level_limited percentage, keeps.primary, fun _ => rfl,
          Bool.noConfusion,
          fun off => ?_⟩
      have unstarted := keeps.unstarted off
      refine ⟨unstarted.1, ?_, unstarted.2.2⟩
      rw [unstarted.2.1, unstarted.2.2]
      rfl
  | wait =>
      cases stepped
      exact
        ⟨keeps.bounded, keeps.primary, keeps.pending, keeps.published,
          fun off =>
            ⟨(keeps.unstarted off).1, (keeps.unstarted off).2.1, rfl⟩⟩
  | stop =>
      cases stepped
      exact
        ⟨keeps.bounded, keeps.primary, keeps.pending, keeps.published,
          fun off => ⟨(keeps.unstarted off).1, rfl, rfl⟩⟩
  | secure =>
      rw [batteryStep] at stepped
      split_ifs at stepped with started
      cases stepped
      exact
        ⟨keeps.bounded, keeps.primary, keeps.pending, keeps.published,
          fun off => Bool.noConfusion (started.symm.trans off)⟩
  | ccc enabled =>
      rw [batteryStep] at stepped
      split_ifs at stepped with started
      cases stepped
      exact
        ⟨keeps.bounded, keeps.primary, keeps.pending, keeps.published,
          fun off => Bool.noConfusion (started.symm.trans off)⟩
  | expire =>
      rw [batteryStep] at stepped
      split_ifs at stepped with armed
      cases stepped
      refine
        ⟨keeps.bounded, keeps.primary, keeps.pending, keeps.published,
          fun off => ?_⟩
      have stopped := (keeps.unstarted off).2.1
      exact Bool.noConfusion (armed.symm.trans stopped)
  | publish notify =>
      rw [batteryStep] at stepped
      split_ifs at stepped with due silent
      · cases stepped
        exact
          ⟨keeps.bounded, keeps.primary, keeps.pending, keeps.published,
            keeps.unstarted⟩
      · cases stepped
        rcases not_or.mp silent with ⟨unready, invalid⟩
        have level := keeps.pending (eq_true_of_ne_false invalid)
        refine
          ⟨keeps.bounded, level_limited _, fun _ => level, fun _ => ?_,
            fun off => ?_⟩
        · rw [level]
          exact level_same keeps.bounded
        · exact absurd (keeps.unstarted off).2.2 unready

theorem toldAfter_acts
    {options : BtConnectOptions} {st : BtConnectState}
    {event : BtConnectEvent} (level : UInt8) :
    (batteryActs options st event).foldl toldAfter level =
      (levelsTold options event).foldl (fun _ percentage => min percentage 100)
        level := by
  cases event with
  | init results =>
      rw [batteryActs, levelsTold]
      by_cases served : options.bas = true ∧ results.register = 0
      · by_cases enabled : results.btEnable = 0
        · rw [if_pos served, if_pos enabled,
            if_pos ⟨served.1, served.2, enabled⟩]
          cases results.battery <;> rfl
        · rw [if_pos served, if_neg enabled,
            if_neg fun all => enabled all.2.2]
          rfl
      · rw [if_neg served, if_neg fun all => served ⟨all.1, all.2.1⟩]
        rfl
  | connected conn role err results =>
      rw [batteryActs]
      split_ifs <;> rfl
  | disconnected conn role results =>
      rw [batteryActs]
      split_ifs <;> rfl
  | securityChanged role level err infoErr =>
      rw [batteryActs]
      split_ifs <;> rfl
  | _ => rfl

theorem keeps_event
    (options : BtConnectOptions) (st : BtConnectState) (level : UInt8)
    (event : BtConnectEvent) (next : BtConnectState)
    (keeps : Keeps (batteryView options st) level)
    (stepped : btConnectStep options st event = some next) :
    Keeps (batteryView options next)
      ((levelsTold options event).foldl
        (fun _ percentage => min percentage 100) level) := by
  rw [← toldAfter_acts]
  exact
    run_preserves_folded keeps_step keeps (batteryRun_step event stepped)

/--
In every run the level that hosts read is within range, and is the level that
was told last unless that one is pending.
-/
theorem level_read_or_pending
    (options : BtConnectOptions) (events : List BtConnectEvent)
    (finish : BtConnectState)
    (ran :
      run (btConnectStep options) (.initial options) events = some finish) :
    finish.primaryBatteryLevel ≤ 100 ∧
      (finish.batteryLevelPendingValid = true →
        finish.pendingBatteryLevel = lastLevel options events) ∧
      (finish.batteryLevelPendingValid = false →
        finish.primaryBatteryLevel = lastLevel options events) := by
  have initially : Keeps (batteryView options (.initial options)) 0 :=
    ⟨level_limited 0, level_limited 0, Bool.noConfusion, fun _ => rfl,
      fun _ => ⟨rfl, rfl, rfl⟩⟩
  have keeps :
      Keeps (batteryView options finish)
        (events.foldl
          (fun level event =>
            (levelsTold options event).foldl
              (fun _ percentage => min percentage 100) level)
          0) :=
    run_preserves_folded (keeps_event options) initially ran
  rw [lastLevel, List.foldl_flatMap]
  exact ⟨keeps.primary, keeps.pending, keeps.published⟩

/-- A host is told a level on its connection, and one that fails to arrive. -/
def failingHost : List BtConnectEvent :=
  [.init ⟨0, 0, .ok 90, 0⟩,
    .connected 7 .peripheral 0 ⟨0, 0⟩,
    .securityChanged .peripheral 2 0 0,
    .publishTimer,
    .publish 0,
    .setBatteryLevel 40,
    .publishTimer,
    .publish (-12)]

def withBattery : BtConnectOptions := ⟨1, true, false, fun _ => rfl⟩

theorem failingHost_level :
    ∃ finish,
      run (btConnectStep withBattery) (.initial withBattery) failingHost =
        some finish ∧
      lastLevel withBattery failingHost = 40 ∧
      finish.primaryBatteryLevel ≤ 100 ∧
        (finish.batteryLevelPendingValid = true →
          finish.pendingBatteryLevel = lastLevel withBattery failingHost) ∧
        (finish.batteryLevelPendingValid = false →
          finish.primaryBatteryLevel = lastLevel withBattery failingHost) :=
  ⟨_, rfl, rfl, level_read_or_pending withBattery failingHost _ rfl⟩

/-! ## Levels that are due -/

/-- A pending level that a host takes waits for the timer or is queued. -/
def Due (view : BatteryView) : Prop :=
  view.ready = true → view.pendingValid = true →
    view.armed = true ∨ view.queued = true

/-- The act leaves no level behind. -/
def Schedules (view : BatteryView) : BatteryAct → Prop
  | .ccc enabled =>
      enabled = true → view.pendingValid = true →
        view.armed = true ∨ view.queued = true
  | .publish notify =>
      view.ready = true → view.pendingValid = true →
        notify = 0 ∨ view.armed = true
  | _ => True

theorem due_iff_schedules
    {view next : BatteryView} {act : BatteryAct}
    (stepped : batteryStep view act = some next) :
    Due next ↔ Schedules view act := by
  cases act with
  | reset enabled =>
      rw [batteryStep] at stepped
      split_ifs at stepped
      cases stepped
      exact iff_of_true Bool.noConfusion trivial
  | tell percentage =>
      cases stepped
      refine iff_of_true (fun ready _ => .inl ?_) trivial
      exact (congrArg (view.armed || ·) ready).trans (Bool.or_true _)
  | wait =>
      cases stepped
      exact iff_of_true Bool.noConfusion trivial
  | stop =>
      cases stepped
      exact iff_of_true Bool.noConfusion trivial
  | secure =>
      rw [batteryStep] at stepped
      split_ifs at stepped
      cases stepped
      exact iff_of_true (fun _ _ => .inl rfl) trivial
  | expire =>
      rw [batteryStep] at stepped
      split_ifs at stepped
      cases stepped
      exact iff_of_true (fun _ _ => .inr rfl) trivial
  | ccc enabled =>
      rw [batteryStep] at stepped
      split_ifs at stepped
      cases stepped
      exact Iff.rfl
  | publish notify =>
      rw [batteryStep] at stepped
      split_ifs at stepped with due silent
      · cases stepped
        rw [Due, Schedules]
        rcases silent with unready | invalid
        · simp [unready]
        · simp [invalid]
      · cases stepped
        rcases not_or.mp silent with ⟨unready, invalid⟩
        have ready := eq_true_of_ne_false unready
        have pending := eq_true_of_ne_false invalid
        by_cases notified : notify = 0 <;>
          simp [Due, Schedules, ready, pending, notified]

/-- A run of acts whose last one always schedules ends with a level due. -/
theorem due_of_last
    {view finish : BatteryView} (first : List BatteryAct) {act : BatteryAct}
    (schedules : ∀ view, Schedules view act)
    (ran : run batteryStep view (first ++ [act]) = some finish) :
    Due finish := by
  rw [run_append] at ran
  rcases Option.bind_eq_some_iff.mp ran with ⟨middle, _, last⟩
  rcases Option.bind_eq_some_iff.mp last with ⟨next, acted, same⟩
  cases same
  exact (due_iff_schedules acted).mpr (schedules middle)

/-- The event concerns the battery. -/
def Matters
    (options : BtConnectOptions) (st : BtConnectState)
    (event : BtConnectEvent) : Prop :=
  batteryActs options st event ≠ []

/-- The event leaves no level behind that a host takes. -/
def LeavesNone (st : BtConnectState) : BtConnectEvent → Prop
  | .primaryCcc value =>
      value = btGattCccNotify → st.batteryLevelPendingValid = true →
        st.publishArmed = true ∨ st.publishQueued = true
  | .publish notify =>
      st.batteryNotificationsReady = true →
        st.batteryLevelPendingValid = true →
          notify = 0 ∨ st.publishArmed = true
  | _ => True

/-- The last act of an event that matters decides. -/
theorem due_iff_leavesNone
    {options : BtConnectOptions} {st next : BtConnectState}
    {event : BtConnectEvent} (matters : Matters options st event)
    (stepped : btConnectStep options st event = some next) :
    Due (batteryView options next) ↔ LeavesNone st event := by
  have ran := batteryRun_step event stepped
  have last {act : BatteryAct}
      (one : batteryActs options st event = [act]) :
      Due (batteryView options next) ↔
        Schedules (batteryView options st) act := by
    rw [one, run_cons] at ran
    rcases Option.bind_eq_some_iff.mp ran with ⟨middle, acted, rest⟩
    cases rest
    exact due_iff_schedules acted
  cases event with
  | init results =>
      refine iff_of_true ?_ trivial
      have resets (enabled : Bool) (view : BatteryView) :
          Schedules view (.reset enabled) :=
        trivial
      have tells (percentage : UInt8) (view : BatteryView) :
          Schedules view (.tell percentage) :=
        trivial
      rw [Matters] at matters
      rw [batteryActs] at matters ran
      split_ifs at matters ran with served enabled
      · cases told : results.battery with
        | error err =>
            rw [told] at ran
            exact due_of_last [] (resets true) ran
        | ok percentage =>
            rw [told] at ran
            exact due_of_last [.reset true] (tells percentage) ran
      · exact due_of_last [] (resets false) ran
      · exact absurd rfl matters
  | connected conn role err results =>
      rw [Matters, batteryActs] at matters
      split_ifs at matters with accepts
      · exact last (if_pos accepts)
      · exact absurd rfl matters
  | disconnected conn role results =>
      rw [Matters, batteryActs] at matters
      split_ifs at matters with concerns
      · exact last (if_pos concerns)
      · exact absurd rfl matters
  | securityChanged role level err infoErr =>
      rw [Matters, batteryActs] at matters
      split_ifs at matters with secures
      · exact last (if_pos secures)
      · exact absurd rfl matters
  | primaryCcc value =>
      apply (last rfl).trans
      rw [Schedules, decide_eq_true_eq]
      exact Iff.rfl
  | setBatteryLevel percentage => exact last rfl
  | publishTimer => exact last rfl
  | publish notify => exact last rfl
  | _ => exact absurd rfl matters

/--
While a host takes notifications a pending level waits for the timer or in the
work queue, if and only if the last event that concerned the battery was
neither a notification that failed with the timer at rest nor notifications
that the host enabled itself with the level pending and nothing scheduled.
-/
theorem pending_due_iff
    (options : BtConnectOptions) (events : List BtConnectEvent)
    (finish : BtConnectState)
    (ran :
      run (btConnectStep options) (.initial options) events = some finish) :
    (finish.batteryNotificationsReady = true →
      finish.batteryLevelPendingValid = true →
        finish.publishArmed = true ∨ finish.publishQueued = true) ↔
      LastMeets (btConnectStep options) (Matters options) LeavesNone True
        (.initial options) events := by
  have left (st : BtConnectState) (event : BtConnectEvent)
      (next : BtConnectState) (apart : ¬ Matters options st event)
      (stepped : btConnectStep options st event = some next) :
      Due (batteryView options next) ↔ Due (batteryView options st) := by
    have acted := batteryRun_step event stepped
    rw [not_not.mp apart] at acted
    rw [← Option.some.inj acted]
  have exactly :
      Due (batteryView options finish) ↔
        LastMeets (btConnectStep options) (Matters options) LeavesNone True
          (.initial options) events :=
    run_iff_lastMeets
      (fun _ _ _ matters stepped => due_iff_leavesNone matters stepped) left
      (iff_of_true Bool.noConfusion trivial) ran
  exact exactly

/-- A level is told while the work item of an earlier one is queued. -/
def toldWhileQueued : List BtConnectEvent :=
  [.init ⟨0, 0, .ok 90, 0⟩,
    .connected 7 .peripheral 0 ⟨0, 0⟩,
    .securityChanged .peripheral 2 0 0,
    .publishTimer,
    .setBatteryLevel 40,
    .publish (-12)]

/-- The notification of it fails, and the timer brings it again. -/
theorem toldWhileQueued_due :
    ∃ finish,
      run (btConnectStep withBattery) (.initial withBattery)
          toldWhileQueued =
        some finish ∧
      ((finish.batteryNotificationsReady = true →
          finish.batteryLevelPendingValid = true →
            finish.publishArmed = true ∨ finish.publishQueued = true) ↔
        LastMeets (btConnectStep withBattery) (Matters withBattery)
          LeavesNone True (.initial withBattery) toldWhileQueued) ∧
      finish.batteryNotificationsReady = true ∧
      finish.batteryLevelPendingValid = true ∧
      finish.pendingBatteryLevel = 40 ∧ finish.publishArmed = true :=
  ⟨_, rfl, pending_due_iff withBattery toldWhileQueued _ rfl, rfl, rfl, rfl,
    rfl⟩

end YkbFirmware.BtConnect.BatteryLevel
