import Mathlib.Algebra.Group.Int.Defs
import Mathlib.Algebra.Group.Nat.Defs
import Mathlib.Tactic.SplitIfs
import YkbFirmware.Library.TransitionSystem

/-!
# The power button and its indicator

One thread lets the indicator breathe and looks at the power button.  A button
that is held for the time of the settings shuts the keyboard down, once until
it is released.

The thread remembers when the button was first seen pressed.  Time zero stands
for not pressed, errors of the button's pin are skipped, the settings may
change while the button is held, and what has passed is taken modulo `2 ^ 32`
milliseconds.
-/

namespace YkbFirmware.YkbPower.PowerThread

open YkbFirmware.Library.TransitionSystem

/-! ## State -/

/-- `ykb_power_indicator_mode_t` -/
inductive YkbPowerIndicatorMode where
  | off
  | static
  | blinking
  | breathe
deriving DecidableEq, Repr

/-- `ykb_power_settings_t` -/
structure YkbPowerSettings where
  pwrIndicatorMode : YkbPowerIndicatorMode
  speed : UInt32
  brightness : UInt8
  shutdownTime : UInt32

/-- `ykb_power_default_settings` -/
def ykbPowerDefaultSettings (ledBrightnessMax : UInt8) :
    YkbPowerSettings where
  pwrIndicatorMode := .breathe
  speed := 4000
  brightness := ledBrightnessMax
  shutdownTime := 1000

/-- A call of the driver of the indicator's LED. -/
inductive LedCall where
  | off
  | on
  | blink (delayOn delayOff : UInt32)
  | setBrightness (level : UInt8)
deriving DecidableEq, Repr

structure PowerState where
  settingsSnap : YkbPowerSettings
  pressedSinceMs : Int
  shutdownRequested : Bool
  /-- How often the shutdown pin has been set. -/
  shutdowns : Nat
  led : List LedCall

inductive PowerEvent where
  /-- A turn of the thread: the two clocks, and what the pin reads. -/
  | turn (uptime : UInt32) (value : Int) (nowMs : Int)
  | settingsUpdate (settings : YkbPowerSettings)

section Step

variable (ledBrightnessMax : UInt8)

/-! ## The indicator -/

/-- `ykb_power_handle_power_indicator` -/
def ykbPowerHandlePowerIndicator (settings : YkbPowerSettings) :
    List LedCall :=
  (if settings.pwrIndicatorMode = .off then [.off] else []) ++
    (if settings.pwrIndicatorMode = .static then [.on] else []) ++
    (if settings.pwrIndicatorMode = .blinking then
      [.blink settings.speed settings.speed]
    else
      []) ++
    (if settings.pwrIndicatorMode ≠ .breathe then
      [.setBrightness (min settings.brightness ledBrightnessMax)]
    else
      [])

/-- The brightness at a time: up for half of a cycle, then down. -/
def breatheLevel (settings : YkbPowerSettings) (uptime : UInt32) : UInt8 :=
  let cycleMs := max settings.speed 2
  let phaseMs := uptime % cycleMs
  let risingMs := cycleMs / 2
  let fallingMs := cycleMs - risingMs
  let peak := (min settings.brightness ledBrightnessMax).toUInt32
  let level :=
    if phaseMs < risingMs then
      phaseMs * peak / risingMs
    else
      let fallPhase := phaseMs - risingMs
      (fallingMs - fallPhase) * peak / fallingMs
  (min level ledBrightnessMax.toUInt32).toUInt8

/-- `ykb_power_handle_power_indicator_breathe_mode` -/
def ykbPowerHandlePowerIndicatorBreatheMode
    (settings : YkbPowerSettings) (uptime : UInt32) : List LedCall :=
  if settings.pwrIndicatorMode ≠ .breathe then
    []
  else
    [.setBrightness (breatheLevel ledBrightnessMax settings uptime)]

/-! ## The button -/

/-- The cast of a difference of two times to `uint32_t`. -/
def elapsedMs (sinceMs nowMs : Int) : Nat :=
  ((nowMs - sinceMs) % 2 ^ 32).toNat

/-- `ykb_power_handle_power_button_shutdown` -/
def ykbPowerHandlePowerButtonShutdown (st : PowerState) (value nowMs : Int) :
    PowerState :=
  if value < 0 then
    st
  else if value = 0 then
    { st with
      pressedSinceMs := 0
      shutdownRequested := false }
  else if st.pressedSinceMs = 0 then
    { st with pressedSinceMs := nowMs }
  else if st.shutdownRequested then
    st
  else if
      st.settingsSnap.shutdownTime.toNat ≤
        elapsedMs st.pressedSinceMs nowMs then
    { st with
      shutdownRequested := true
      shutdowns := st.shutdowns + 1 }
  else
    st

/-! ## Runs -/

def powerStep (st : PowerState) : PowerEvent → Option PowerState
  | .turn uptime value nowMs =>
      let calls :=
        ykbPowerHandlePowerIndicatorBreatheMode ledBrightnessMax
          st.settingsSnap uptime
      let st := { st with led := st.led ++ calls }
      some (ykbPowerHandlePowerButtonShutdown st value nowMs)
  | .settingsUpdate settings =>
      let calls := ykbPowerHandlePowerIndicator ledBrightnessMax settings
      some
        { st with
          settingsSnap := settings
          led := st.led ++ calls }

def PowerState.initial : PowerState where
  settingsSnap := ykbPowerDefaultSettings ledBrightnessMax
  pressedSinceMs := 0
  shutdownRequested := false
  shutdowns := 0
  led := []

end Step

/-! ## Presses -/

/-- The times the button was seen pressed, with the setting then. -/
abbrev Press := List (Int × UInt32)

/-- The presses so far. -/
structure Presses where
  shutdownTime : UInt32
  ended : List Press
  current : Press

def Presses.note (presses : Presses) : PowerEvent → Presses
  | .turn _ value nowMs =>
      if value < 0 then
        presses
      else if value = 0 then
        { presses with
          ended := presses.ended ++ [presses.current]
          current := [] }
      else
        { presses with
          current := presses.current ++ [(nowMs, presses.shutdownTime)] }
  | .settingsUpdate settings =>
      { presses with shutdownTime := settings.shutdownTime }

/-- From the first time that is not zero. -/
def timed (press : Press) : Press :=
  press.dropWhile fun seen => seen.1 = 0

/-- At some time, the press had lasted as long as the settings ask. -/
def longHeld (press : Press) : Bool :=
  match timed press with
  | [] => false
  | first :: rest =>
      rest.any fun seen => seen.2.toNat ≤ elapsedMs first.1 seen.1

/-- All presses, the current one last. -/
def Presses.all (presses : Presses) : List Press :=
  presses.ended ++ [presses.current]

/-! ## One shutdown a press -/

theorem timed_append_of_nil
    {press : Press} {seen : Int × UInt32} (untimed : timed press = []) :
    timed (press ++ [seen]) = if seen.1 = 0 then [] else [seen] := by
  rw [timed] at untimed
  rw [timed, List.dropWhile_append, untimed]
  by_cases zero : seen.1 = 0
  · simp [zero]
  · simp [zero]

theorem timed_append_of_cons
    {press rest : Press} {first seen : Int × UInt32}
    (isTimed : timed press = first :: rest) :
    timed (press ++ [seen]) = first :: (rest ++ [seen]) := by
  rw [timed] at isTimed
  rw [timed, List.dropWhile_append, isTimed]
  rfl

theorem timed_first
    {press rest : Press} {first : Int × UInt32}
    (isTimed : timed press = first :: rest) :
    first.1 ≠ 0 := by
  have stops :=
    List.head?_dropWhile_not
      (fun seen : Int × UInt32 => decide (seen.1 = 0)) press
  rw [timed] at isTimed
  rw [isTimed] at stops
  exact of_decide_eq_false stops

/-- What the thread remembers of the presses. -/
structure Remembers (st : PowerState) (presses : Presses) : Prop where
  shutdownTime : st.settingsSnap.shutdownTime = presses.shutdownTime
  since :
    st.pressedSinceMs = ((timed presses.current).head?.map Prod.fst).getD 0
  requested : st.shutdownRequested = longHeld presses.current
  shutdowns : st.shutdowns = presses.all.countP longHeld

section Remembers

variable {st : PowerState} {presses : Presses}

theorem countP_all :
    presses.all.countP longHeld =
      presses.ended.countP longHeld +
        if longHeld presses.current then 1 else 0 := by
  rw [Presses.all, List.countP_append, List.countP_singleton]

/-- The button is seen pressed. -/
theorem Remembers.pressed
    (remembers : Remembers st presses) (nowMs : Int) (led : List LedCall)
    {value : Int} (down : 0 < value) :
    Remembers
      (ykbPowerHandlePowerButtonShutdown { st with led := led } value nowMs)
      { presses with
        current := presses.current ++ [(nowMs, presses.shutdownTime)] } := by
  have since := remembers.since
  have requested := remembers.requested
  have shutdowns := remembers.shutdowns
  have setting := remembers.shutdownTime
  rw [countP_all] at shutdowns
  rw [ykbPowerHandlePowerButtonShutdown, if_neg (by omega),
    if_neg (by omega)]
  dsimp only
  cases isTimed : timed presses.current with
  | nil =>
      have before : longHeld presses.current = false := by
        rw [longHeld, isTimed]
      have appended :=
        @timed_append_of_nil presses.current
          (nowMs, presses.shutdownTime) isTimed
      have after :
          longHeld (presses.current ++ [(nowMs, presses.shutdownTime)]) =
            false := by
        rw [longHeld, appended]
        split_ifs <;> rfl
      rw [before] at requested shutdowns
      have idle : st.pressedSinceMs = 0 := by
        rw [since, isTimed]
        rfl
      rw [if_pos idle]
      refine ⟨setting, ?_, ?_, ?_⟩
      · dsimp only
        rw [appended]
        split_ifs with zero
        · exact zero
        · rfl
      · dsimp only
        rw [after, requested]
      · rw [countP_all]
        dsimp only
        rw [after, shutdowns]
  | cons first rest =>
      have started : first.1 ≠ 0 := timed_first isTimed
      have appended :=
        @timed_append_of_cons presses.current rest first
          (nowMs, presses.shutdownTime) isTimed
      have after :
          longHeld (presses.current ++ [(nowMs, presses.shutdownTime)]) =
            (longHeld presses.current ||
              decide
                (presses.shutdownTime.toNat ≤ elapsedMs first.1 nowMs)) := by
        rw [longHeld, longHeld, appended, isTimed]
        dsimp only
        rw [List.any_append]
        simp
      have sinceFirst : st.pressedSinceMs = first.1 := by
        rw [since, isTimed]
        rfl
      have kept (next : PowerState)
          (sameSetting : next.settingsSnap = st.settingsSnap)
          (sameSince : next.pressedSinceMs = st.pressedSinceMs)
          (nextRequested :
            next.shutdownRequested =
              (longHeld presses.current ||
                decide
                  (presses.shutdownTime.toNat ≤
                    elapsedMs first.1 nowMs)))
          (nextShutdowns :
            next.shutdowns =
              presses.ended.countP longHeld +
                if
                  (longHeld presses.current ||
                    decide
                      (presses.shutdownTime.toNat ≤
                        elapsedMs first.1 nowMs)) = true then
                  1
                else
                  0) :
          Remembers next
            { presses with
              current :=
                presses.current ++ [(nowMs, presses.shutdownTime)] } := by
        refine ⟨?_, ?_, ?_, ?_⟩
        · rw [sameSetting, setting]
        · rw [sameSince, sinceFirst]
          dsimp only
          rw [appended]
          rfl
        · dsimp only
          rw [nextRequested, after]
        · rw [countP_all]
          dsimp only
          rw [nextShutdowns, after]
      rw [if_neg (sinceFirst ▸ started)]
      split_ifs with already long
      · rw [requested] at already
        refine kept _ rfl rfl ?_ ?_
        · rw [already, Bool.true_or]
          exact requested.trans already
        · rw [already] at shutdowns ⊢
          exact shutdowns
      · rw [requested, Bool.not_eq_true] at already
        rw [setting, sinceFirst] at long
        refine kept _ rfl rfl ?_ ?_
        · rw [already, decide_eq_true long]
          rfl
        · rw [already] at shutdowns ⊢
          rw [decide_eq_true long]
          exact congrArg (· + 1) shutdowns
      · rw [requested, Bool.not_eq_true] at already
        rw [setting, sinceFirst] at long
        refine kept _ rfl rfl ?_ ?_
        · rw [already, decide_eq_false long]
          exact requested.trans already
        · rw [already] at shutdowns ⊢
          rw [decide_eq_false long]
          exact shutdowns

/-- The button is seen released. -/
theorem Remembers.released
    (remembers : Remembers st presses) (led : List LedCall) :
    Remembers
      { st with
        led := led
        pressedSinceMs := 0
        shutdownRequested := false }
      { presses with
        ended := presses.ended ++ [presses.current]
        current := [] } where
  shutdownTime := remembers.shutdownTime
  since := rfl
  requested := rfl
  shutdowns := by
    have none : longHeld [] = false := rfl
    rw [countP_all]
    dsimp only
    rw [none, if_neg Bool.false_ne_true, Nat.add_zero]
    exact remembers.shutdowns

theorem remembers_step
    {ledBrightnessMax : UInt8} (st : PowerState) (presses : Presses)
    (event : PowerEvent) (next : PowerState)
    (remembers : Remembers st presses)
    (stepped : powerStep ledBrightnessMax st event = some next) :
    Remembers next (presses.note event) := by
  cases event with
  | turn uptime value nowMs =>
      cases stepped
      rcases Int.lt_trichotomy value 0 with fails | rfl | down
      · rw [Presses.note, if_pos fails, ykbPowerHandlePowerButtonShutdown,
          if_pos fails]
        exact
          ⟨remembers.shutdownTime, remembers.since, remembers.requested,
            remembers.shutdowns⟩
      · exact remembers.released _
      · rw [Presses.note, if_neg (by omega), if_neg (by omega)]
        exact remembers.pressed nowMs _ down
  | settingsUpdate settings =>
      cases stepped
      exact
        ⟨rfl, remembers.since, remembers.requested, remembers.shutdowns⟩

end Remembers

/--
The shutdown pin is set once for each press that has lasted as long as the
settings ask, and for no other.
-/
theorem one_shutdown_per_long_press
    (ledBrightnessMax : UInt8) (events : List PowerEvent)
    (finish : PowerState)
    (ran :
      run (powerStep ledBrightnessMax) (.initial ledBrightnessMax) events =
        some finish) :
    finish.shutdowns =
      (events.foldl Presses.note ⟨1000, [], []⟩).all.countP longHeld := by
  have initially :
      Remembers (.initial ledBrightnessMax) ⟨1000, [], []⟩ :=
    ⟨rfl, rfl, rfl, rfl⟩
  have remembers :
      Remembers finish (events.foldl Presses.note ⟨1000, [], []⟩) :=
    run_preserves_folded remembers_step initially ran
  exact remembers.shutdowns

/-- A press that is too short, and one that lasts. -/
def twoPresses : List PowerEvent :=
  [.turn 0 1 10, .turn 0 1 600, .turn 0 0 700, .turn 0 1 800,
    .turn 0 (-5) 900, .turn 0 1 1900, .turn 0 1 2900]

theorem twoPresses_shutdown :
    ∃ finish,
      run (powerStep 100) (.initial 100) twoPresses = some finish ∧
        finish.shutdowns =
          (twoPresses.foldl Presses.note ⟨1000, [], []⟩).all.countP
            longHeld :=
  ⟨_, rfl, one_shutdown_per_long_press 100 twoPresses _ rfl⟩

example :
    (run (powerStep 100) (.initial 100) twoPresses).map
        PowerState.shutdowns =
      some 1 := by
  decide +kernel

end YkbFirmware.YkbPower.PowerThread
