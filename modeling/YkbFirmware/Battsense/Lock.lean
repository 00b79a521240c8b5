import YkbFirmware.Battsense.Callbacks

/-!
# The lock of the battery thread

`battsense_thread_handler` takes `battsense_mut` at the top of its loop, and
of the five exits of a pass four give it back, each on its own.  The fifth,
the return after a critical percentage, does not; once a pass has left by it,
`ykb_battsense_get_state` and `on_settings_update` wait forever.
-/

namespace YkbFirmware.Battsense.Lock

open YkbFirmware.Library.TransitionSystem
open YkbFirmware.Battsense.Callbacks

/-! ## The thread and its mutex -/

/-- Where `battsense_thread_handler` is. -/
inductive ThreadPoint where
  | loopTop
  /-- `k_mutex_lock` has returned, and the pass is under way. -/
  | passing
  | sleeping
  | terminated
deriving DecidableEq, Repr

/-- The thread, with the lock count it has on `battsense_mut`. -/
structure BattsenseThread where
  state : YkbBattsenseState
  settings : YkbBattsenseSettings
  point : ThreadPoint
  lockCount : Nat
deriving DecidableEq, Repr

/-- The thread as `k_thread_create` starts it. -/
def threadStart (settings : YkbBattsenseSettings) : BattsenseThread where
  state := ⟨.unknown, 0⟩
  settings := settings
  point := .loopTop
  lockCount := 0

section Thread

variable (options : BattsenseOptions) (thread : BattsenseThread)

def kMutexLock : BattsenseThread :=
  { thread with lockCount := thread.lockCount + 1 }

def kMutexUnlock : BattsenseThread :=
  { thread with lockCount := thread.lockCount - 1 }

def goTo (point : ThreadPoint) : BattsenseThread :=
  { thread with point := point }

/-- The end of a pass, from the assignment to `state` on. -/
def finishPass (state : YkbBattsenseState) : BattsenseThread :=
  let oldState := thread.state
  let thread := { thread with state := state }
  if oldState.percentage > state.percentage ∧
      state.percentage.toNat ≤ options.critThreshold then
    goTo thread .terminated
  else
    goTo (kMutexUnlock thread) .sleeping

/-- A pass of the loop after `k_mutex_lock`, up to where it leaves. -/
def battsensePass (readings : Readings) : BattsenseThread :=
  if options.shutoffOnChargerFailure = true ∧
      readings.healthFailure.toOption = some true then
    goTo (kMutexUnlock thread) .terminated
  else
    match readings.chargerStatus with
    | .error _ => goTo (kMutexUnlock thread) .loopTop
    | .ok status =>
        match readings.relativeStateOfCharge with
        | .error _ => goTo (kMutexUnlock thread) .loopTop
        | .ok rsoc => finishPass options thread (publishedState status rsoc)

/-! ## The other threads -/

def einval : Int := 22

/--
`ykb_battsense_get_state`, called with or without `out_state`; `none` while
it waits for the mutex.
-/
def ykbBattsenseGetState (outState : Bool) :
    Option (Int × Option YkbBattsenseState) :=
  if outState = false then
    some (-einval, none)
  else if thread.lockCount = 0 then
    some (0, some thread.state)
  else
    none

/-- `on_settings_update`; `none` while it waits for the mutex. -/
def onSettingsUpdate (settings : YkbBattsenseSettings) :
    Option BattsenseThread :=
  if thread.lockCount = 0 then
    some { thread with settings := settings }
  else
    none

end Thread

/-! ## Runs -/

inductive LockEvent where
  | lock
  | pass (readings : Readings)
  | wake
  | settingsUpdate (settings : YkbBattsenseSettings)
  | getState (outState : Bool)

/-- The thread and its callers in any order. -/
def lockStep (options : BattsenseOptions) (thread : BattsenseThread) :
    LockEvent → Option BattsenseThread
  | .lock =>
      if thread.point = .loopTop then
        some (goTo (kMutexLock thread) .passing)
      else
        none
  | .pass readings =>
      if thread.point = .passing then
        some (battsensePass options thread readings)
      else
        none
  | .wake =>
      if thread.point = .sleeping then
        some (goTo thread .loopTop)
      else
        none
  | .settingsUpdate settings => onSettingsUpdate thread settings
  | .getState outState =>
      (ykbBattsenseGetState thread outState).map fun _ => thread

/--
Wherever the thread is outside a pass, it does not have the mutex, and whoever
calls proceeds.
-/
structure LockReleased (thread : BattsenseThread) : Prop where
  released : thread.point ≠ .passing → thread.lockCount = 0
  getState :
    thread.point ≠ .passing →
      ykbBattsenseGetState thread true = some (0, some thread.state)
  settingsUpdate :
    thread.point ≠ .passing →
      ∀ settings,
        onSettingsUpdate thread settings =
          some { thread with settings := settings }

/-- A pass does not find the percentage fallen to the critical threshold. -/
def StaysAboveCritical
    (options : BattsenseOptions) (thread : BattsenseThread) :
    LockEvent → Prop
  | .pass readings =>
      thread.point = .passing →
        ∀ state, polledState options readings = some state →
          ¬ (state.percentage < thread.state.percentage ∧
            state.percentage.toNat ≤ options.critThreshold)
  | _ => True

/-! ## What the exits do to the mutex -/

section Exits

variable
    {options : BattsenseOptions} {thread next : BattsenseThread}
    {readings : Readings} {state : YkbBattsenseState}

/-- The mutex is taken once in a pass and not at all before the next one. -/
structure LockPaired (thread : BattsenseThread) : Prop where
  passing : thread.point = .passing → thread.lockCount = 1
  waiting :
    thread.point = .loopTop ∨ thread.point = .sleeping →
      thread.lockCount = 0

theorem lockReleased_iff :
    LockReleased thread ↔
      (thread.point ≠ .passing → thread.lockCount = 0) := by
  constructor
  · exact fun released => released.released
  · intro released
    refine ⟨released, fun outside => ?_, fun outside settings => ?_⟩
    · rw [ykbBattsenseGetState, if_neg (by simp), if_pos (released outside)]
    · rw [onSettingsUpdate, if_pos (released outside)]

/-- A pass that publishes nothing gives the mutex back. -/
theorem pass_of_unpolled (unpolled : polledState options readings = none) :
    ∃ point,
      battsensePass options thread readings =
          goTo (kMutexUnlock thread) point ∧
        point ≠ .passing := by
  rw [battsensePass]
  rcases polledState_cases options readings with
    ⟨failed, _⟩ | ⟨healthy, ⟨_, charger, _⟩ | ⟨_, _, charger, gauge, _⟩ |
      ⟨_, _, _, _, published⟩⟩
  · rw [if_pos failed]
    exact ⟨.terminated, rfl, by decide⟩
  · rw [if_neg healthy, charger]
    exact ⟨.loopTop, rfl, by decide⟩
  · rw [if_neg healthy, charger, gauge]
    exact ⟨.loopTop, rfl, by decide⟩
  · cases published.symm.trans unpolled

theorem pass_of_polled (polled : polledState options readings = some state) :
    battsensePass options thread readings =
      finishPass options thread state := by
  rcases polledState_eq_some polled with
    ⟨status, rsoc, healthy, charger, gauge, rfl⟩
  rw [battsensePass, if_neg healthy, charger, gauge]

/-- The end of a pass either sleeps unlocked or keeps the mutex for good. -/
theorem finishPass_exits :
    (state.percentage < thread.state.percentage ∧
        state.percentage.toNat ≤ options.critThreshold ∧
        finishPass options thread state =
          goTo { thread with state := state } .terminated) ∨
      (¬ (state.percentage < thread.state.percentage ∧
          state.percentage.toNat ≤ options.critThreshold) ∧
        finishPass options thread state =
          goTo (kMutexUnlock { thread with state := state }) .sleeping) := by
  by_cases critical :
      state.percentage < thread.state.percentage ∧
        state.percentage.toNat ≤ options.critThreshold
  · exact Or.inl ⟨critical.1, critical.2, if_pos critical⟩
  · exact Or.inr ⟨critical, if_neg critical⟩

/-- Every exit leaves the pass. -/
theorem pass_point :
    (battsensePass options thread readings).point ≠ .passing := by
  cases polled : polledState options readings with
  | none =>
      rcases @pass_of_unpolled _ thread _ polled with
        ⟨point, exits, outside⟩
      rw [exits]
      exact outside
  | some state =>
      rw [pass_of_polled polled]
      rcases @finishPass_exits options thread state with
        ⟨_, _, exits⟩ | ⟨_, exits⟩
      · rw [exits]
        simp [goTo]
      · rw [exits]
        simp [goTo]

/-- It leaves the mutex free exactly if it does not take the critical exit. -/
theorem pass_lockCount
    (passing : thread.point = .passing) (taken : thread.lockCount = 1) :
    (battsensePass options thread readings).lockCount = 0 ↔
      StaysAboveCritical options thread (.pass readings) := by
  cases polled : polledState options readings with
  | none =>
      rcases @pass_of_unpolled _ thread _ polled with ⟨point, exits, _⟩
      rw [exits]
      refine iff_of_true ?_ fun _ state impossible => ?_
      · simp [goTo, kMutexUnlock, taken]
      · rw [polled] at impossible
        cases impossible
  | some state =>
      rw [pass_of_polled polled]
      rcases @finishPass_exits options thread state with
        ⟨falls, low, exits⟩ | ⟨stays, exits⟩
      · rw [exits]
        refine iff_of_false ?_ fun above => ?_
        · simp [goTo, taken]
        · exact above passing state polled ⟨falls, low⟩
      · rw [exits]
        refine iff_of_true ?_ fun _ other same => ?_
        · simp [goTo, kMutexUnlock, taken]
        · rw [polled] at same
          cases same
          exact stays

/-- The mutex stays paired with the passes through every step. -/
theorem LockPaired.step
    {event : LockEvent} (paired : LockPaired thread)
    (stepped : lockStep options thread event = some next) :
    LockPaired next := by
  cases event with
  | lock =>
      simp only [lockStep, Option.ite_none_right_eq_some,
        Option.some.injEq] at stepped
      rcases stepped with ⟨top, rfl⟩
      refine ⟨fun _ => ?_, fun waiting => ?_⟩
      · simp [goTo, kMutexLock, paired.waiting (Or.inl top)]
      · simp [goTo] at waiting
  | pass readings =>
      simp only [lockStep, Option.ite_none_right_eq_some,
        Option.some.injEq] at stepped
      rcases stepped with ⟨passing, rfl⟩
      refine ⟨fun again => absurd again pass_point, fun waiting => ?_⟩
      have taken := paired.passing passing
      cases polled : polledState options readings with
      | none =>
          rcases @pass_of_unpolled _ thread _ polled with ⟨point, exits, _⟩
          rw [exits]
          simp [goTo, kMutexUnlock, taken]
      | some state =>
          rw [pass_of_polled polled] at waiting ⊢
          rcases @finishPass_exits options thread state with
            ⟨_, _, exits⟩ | ⟨_, exits⟩
          · rw [exits] at waiting
            simp [goTo] at waiting
          · rw [exits]
            simp [goTo, kMutexUnlock, taken]
  | wake =>
      simp only [lockStep, Option.ite_none_right_eq_some,
        Option.some.injEq] at stepped
      rcases stepped with ⟨sleeping, rfl⟩
      refine ⟨fun passing => ?_, fun _ => paired.waiting (Or.inr sleeping)⟩
      simp [goTo] at passing
  | settingsUpdate settings =>
      simp only [lockStep, onSettingsUpdate, Option.ite_none_right_eq_some,
        Option.some.injEq] at stepped
      rcases stepped with ⟨_, rfl⟩
      exact ⟨paired.passing, paired.waiting⟩
  | getState outState =>
      rcases Option.map_eq_some_iff.mp stepped with ⟨_, _, rfl⟩
      exact paired

/-- A step keeps the mutex released exactly if it is not critical. -/
theorem lockReleased_step_iff
    {event : LockEvent} (paired : LockPaired thread)
    (released : LockReleased thread)
    (stepped : lockStep options thread event = some next) :
    LockReleased next ↔ StaysAboveCritical options thread event := by
  have nextPaired := paired.step stepped
  rw [lockReleased_iff] at released ⊢
  cases event with
  | lock =>
      simp only [lockStep, Option.ite_none_right_eq_some,
        Option.some.injEq] at stepped
      rcases stepped with ⟨_, rfl⟩
      exact iff_of_true (fun outside => absurd rfl outside) trivial
  | pass readings =>
      simp only [lockStep, Option.ite_none_right_eq_some,
        Option.some.injEq] at stepped
      rcases stepped with ⟨passing, rfl⟩
      rw [← pass_lockCount passing (paired.passing passing)]
      exact ⟨fun free => free pass_point, fun free _ => free⟩
  | wake =>
      simp only [lockStep, Option.ite_none_right_eq_some,
        Option.some.injEq] at stepped
      rcases stepped with ⟨_, rfl⟩
      exact iff_of_true (fun _ => nextPaired.waiting (Or.inl rfl)) trivial
  | settingsUpdate settings =>
      simp only [lockStep, onSettingsUpdate, Option.ite_none_right_eq_some,
        Option.some.injEq] at stepped
      rcases stepped with ⟨free, rfl⟩
      exact iff_of_true (fun _ => free) trivial
  | getState outState =>
      rcases Option.map_eq_some_iff.mp stepped with ⟨_, _, rfl⟩
      exact iff_of_true released trivial

end Exits

/-- The thread starts without the mutex. -/
theorem lockPaired_start (settings : YkbBattsenseSettings) :
    LockPaired (threadStart settings) where
  passing := fun passing => by cases passing
  waiting := fun _ => rfl

/--
Whatever the drivers answer and whoever calls, the mutex is free wherever the
thread is outside a pass, in every state of a run, if and only if no pass of
the run finds the percentage fallen to the critical threshold.
-/
theorem lock_released_iff
    (options : BattsenseOptions) (settings : YkbBattsenseSettings)
    {events : List LockEvent} {finish : BattsenseThread}
    (ran : run (lockStep options) (threadStart settings) events = some finish) :
    Throughout (lockStep options) LockReleased (threadStart settings) events ↔
      StepsMeet (lockStep options) (StaysAboveCritical options)
        (threadStart settings) events := by
  have start : LockReleased (threadStart settings) :=
    lockReleased_iff.mpr fun _ => rfl
  rw [throughout_iff_stepsMeet_of_invariant
    (fun _ _ _ paired stepped => LockPaired.step paired stepped)
    (fun _ _ _ paired released stepped =>
      lockReleased_step_iff paired released stepped)
    (lockPaired_start settings) ran]
  exact and_iff_right start

/-! ## A mutex that is lost -/

section Lost

variable {options : BattsenseOptions} {thread finish : BattsenseThread}

/-- The thread has returned with the mutex. -/
def Lost (thread : BattsenseThread) : Prop :=
  thread.point = .terminated ∧ thread.lockCount ≠ 0

/-- A terminated thread never gives the mutex back. -/
theorem Lost.step
    {event : LockEvent} {next : BattsenseThread} (lost : Lost thread)
    (stepped : lockStep options thread event = some next) : Lost next := by
  cases event with
  | lock => simp [lockStep, lost.1] at stepped
  | pass readings => simp [lockStep, lost.1] at stepped
  | wake => simp [lockStep, lost.1] at stepped
  | settingsUpdate settings =>
      simp [lockStep, onSettingsUpdate, lost.2] at stepped
  | getState outState =>
      rcases Option.map_eq_some_iff.mp stepped with ⟨_, _, rfl⟩
      exact lost

/-- From then on no caller that needs the mutex ever proceeds. -/
theorem lost_forever
    {events : List LockEvent} (lost : Lost thread)
    (ran : run (lockStep options) thread events = some finish) :
    ykbBattsenseGetState finish true = none ∧
      ∀ settings, onSettingsUpdate finish settings = none := by
  have still : Lost finish :=
    run_preserves (fun _ _ _ held stepped => Lost.step held stepped) lost ran
  refine ⟨?_, fun settings => if_neg still.2⟩
  rw [ykbBattsenseGetState, if_neg (by simp), if_neg still.2]

end Lost

/-! ## The passes are the polls -/

section Refinement

variable {options : BattsenseOptions} {thread next : BattsenseThread}

/-- The thread as its polls see it. -/
def view (thread : BattsenseThread) : BattsenseStatics where
  state := thread.state
  settings := thread.settings
  running := decide (thread.point ≠ .terminated)
  locked := decide (thread.point = .terminated ∧ thread.lockCount ≠ 0)

/-- The steps of the thread a poll or a settings update stands for. -/
def polls : LockEvent → List BattsenseEvent
  | .pass readings => [.poll readings]
  | .settingsUpdate settings => [.settingsUpdate settings]
  | _ => []

theorem publish_of_critical
    {battsense : BattsenseStatics} {state : YkbBattsenseState}
    (critical :
      battsense.state.percentage > state.percentage ∧
        state.percentage.toNat ≤ options.critThreshold) :
    (publish options battsense state).battsense =
      { battsense with state := state, running := false, locked := true } := by
  rw [publish]
  exact congrArg PollOutcome.battsense (if_pos critical)

theorem publish_of_not_critical
    {battsense : BattsenseStatics} {state : YkbBattsenseState}
    (above :
      ¬ (battsense.state.percentage > state.percentage ∧
        state.percentage.toNat ≤ options.critThreshold)) :
    (publish options battsense state).battsense =
      { battsense with state := state } := by
  rw [publish]
  dsimp only
  rw [if_neg above]
  split_ifs <;> rfl

theorem view_finishPass
    {state : YkbBattsenseState} (passing : thread.point = .passing)
    (taken : thread.lockCount = 1) :
    view (finishPass options thread state) =
      (publish options (view thread) state).battsense := by
  rcases @finishPass_exits options thread state with
    ⟨falls, low, exits⟩ | ⟨above, exits⟩
  · have critical :
        (view thread).state.percentage > state.percentage ∧
          state.percentage.toNat ≤ options.critThreshold :=
      ⟨falls, low⟩
    rw [exits, publish_of_critical critical]
    simp [view, goTo, taken]
  · rw [exits, publish_of_not_critical above]
    simp [view, goTo, kMutexUnlock, passing]

/-- A pass leaves what the poll leaves. -/
theorem view_pass
    {readings : Readings} (passing : thread.point = .passing)
    (taken : thread.lockCount = 1) :
    view (battsensePass options thread readings) =
      (battsensePoll options (view thread) readings).battsense := by
  rw [battsensePass, battsensePoll]
  split_ifs with failed
  · simp [view, goTo, kMutexUnlock, passing, taken]
  · cases status : readings.chargerStatus with
    | error err => simp [view, goTo, kMutexUnlock, passing]
    | ok status =>
        cases rsoc : readings.relativeStateOfCharge with
        | error err => simp [view, goTo, kMutexUnlock, passing]
        | ok rsoc => exact view_finishPass passing taken

theorem lockStep_refines
    {event : LockEvent} (paired : LockPaired thread)
    (stepped : lockStep options thread event = some next) :
    run (battsenseStep options) (view thread) (polls event) =
      some (view next) := by
  cases event with
  | lock =>
      simp only [lockStep, Option.ite_none_right_eq_some,
        Option.some.injEq] at stepped
      rcases stepped with ⟨top, rfl⟩
      simp [polls, view, goTo, kMutexLock, top]
  | pass readings =>
      simp only [lockStep, Option.ite_none_right_eq_some,
        Option.some.injEq] at stepped
      rcases stepped with ⟨passing, rfl⟩
      rw [view_pass passing (paired.passing passing), polls, run_cons,
        battsenseStep, if_pos (by simp [view, passing])]
      rfl
  | wake =>
      simp only [lockStep, Option.ite_none_right_eq_some,
        Option.some.injEq] at stepped
      rcases stepped with ⟨sleeping, rfl⟩
      simp [polls, view, goTo, sleeping]
  | settingsUpdate settings =>
      simp only [lockStep, onSettingsUpdate, Option.ite_none_right_eq_some,
        Option.some.injEq] at stepped
      rcases stepped with ⟨free, rfl⟩
      simp [polls, battsenseStep, view, free]
  | getState outState =>
      rcases Option.map_eq_some_iff.mp stepped with ⟨_, _, rfl⟩
      rfl

/-- Every run of the thread and its callers is a run of polls. -/
theorem lock_run_refines
    {events : List LockEvent} {finish : BattsenseThread}
    (paired : LockPaired thread)
    (ran : run (lockStep options) thread events = some finish) :
    run (battsenseStep options) (view thread) (events.flatMap polls) =
      some (view finish) :=
  @run_refines _ _ _ _ (lockStep options) (battsenseStep options) view polls
    LockPaired (fun _ _ _ before stepped => before.step stepped)
    (fun _ _ _ before stepped => lockStep_refines before stepped) _ _ _
    paired ran

end Refinement

/-! ## A battery that runs empty -/

/-- Two polls of a battery, from 2 percent to 1. -/
def runsEmpty : List LockEvent :=
  [.lock, .pass (discharging 2), .wake, .lock, .pass (discharging 1)]

/-- Two polls of a battery that stays at 2 percent. -/
def staysLow : List LockEvent :=
  [.lock, .pass (discharging 2), .wake, .lock, .pass (discharging 2)]

/-- Where the thread is after `staysLow`. -/
def sleepsLow : BattsenseThread where
  state := ⟨.discharging, 2⟩
  settings := ⟨5, 2000⟩
  point := .sleeping
  lockCount := 0

theorem lock_released_iff_stays_low :
    run (lockStep defaultThresholds) (threadStart ⟨5, 2000⟩) staysLow =
        some sleepsLow ∧
      (Throughout (lockStep defaultThresholds) LockReleased
          (threadStart ⟨5, 2000⟩) staysLow ↔
        StepsMeet (lockStep defaultThresholds)
          (StaysAboveCritical defaultThresholds) (threadStart ⟨5, 2000⟩)
          staysLow) :=
  ⟨by decide,
    @lock_released_iff defaultThresholds ⟨5, 2000⟩ staysLow sleepsLow
      (by decide)⟩

/-- Where the thread is after `runsEmpty`. -/
def returnedLocked : BattsenseThread where
  state := ⟨.discharging, 1⟩
  settings := ⟨5, 2000⟩
  point := .terminated
  lockCount := 1

/--
At 1 percent the thread returns with the mutex, and `ykb_battsense_get_state`
waits for it in vain.
-/
theorem critical_exit_keeps_lock :
    run (lockStep defaultThresholds) (threadStart ⟨5, 2000⟩) runsEmpty =
        some returnedLocked ∧
      ¬ Throughout (lockStep defaultThresholds) LockReleased
        (threadStart ⟨5, 2000⟩) runsEmpty ∧
      ykbBattsenseGetState returnedLocked true = none := by
  have ran :
      run (lockStep defaultThresholds) (threadStart ⟨5, 2000⟩) runsEmpty =
        some returnedLocked := by
    decide
  refine ⟨ran, fun throughout => ?_, by decide⟩
  have released := (throughout.finish ran).released (by decide)
  exact absurd released (by decide)

end YkbFirmware.Battsense.Lock
