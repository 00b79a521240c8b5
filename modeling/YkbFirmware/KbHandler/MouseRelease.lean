import YkbFirmware.KbHandler.MouseReports

/-!
# Leaving mouse emulation

An FN shortcut changes the mode in the middle of a frame, and the frame then
ends without a mouse report if the new mode is not MOUSESIM.  Nothing else
sends one on the way out, so a button that was reported as pressed stays
pressed on the host.
-/

namespace YkbFirmware.KbHandler.MouseRelease

open YkbFirmware.Library.TransitionSystem
open YkbFirmware.KbHandler.Settings
open YkbFirmware.KbHandler.Core
open YkbFirmware.KbHandler.Frames
open YkbFirmware.KbHandler.Transition
open YkbFirmware.KbHandler.SettingsCheck
open YkbFirmware.KbHandler.KeyValues
open YkbFirmware.KbHandler.MouseReports

/-! ## Released buttons -/

/-- The last mouse report handed to the transport has no button pressed. -/
def ButtonsReleased (st : KbhRuntimeState) : Prop :=
  ∃ report, (mouseSends st).getLast? = some report ∧ report.buttons = 0

/-- Outside mouse emulation no button is pressed. -/
def ReleasedOutside (st : KbhRuntimeState) : Prop :=
  st.activeMode ≠ .mousesim → ButtonsReleased st

/-- `prev_mouse_report` is the last mouse report handed over. -/
def MouseHanded (st : KbhRuntimeState) : Prop :=
  (mouseSends st).getLast? = some st.prevMouseReport

/--
A shortcut whose settings are applied and which leads out of MOUSESIM is only
taken while the last mouse report has no button pressed.
-/
def LeavesReleased (config : KbHandlerConfig) (st : KbhRuntimeState) :
    HandlerEvent → Prop
  | .keyValue env key value =>
      ∀ shortcut changed, LooksUp config st key value →
        findFnShortcut st.settings (st.resolvedHid key) = some shortcut →
          executeFnAction config env.slots shortcut st.settings =
              some changed →
            env.applied = true → st.activeMode = .mousesim →
              changed.mode ≠ .mousesim → st.prevMouseReport.buttons = 0
  | .frameEnd _ => True
  | .slaveReset _ => True

section Steps

variable
    {config : KbHandlerConfig} {env : KbhEnvironment}
    {st next : KbhRuntimeState} {key : Nat} {value : UInt16}

theorem MouseHanded.released_iff (handed : MouseHanded st) :
    ButtonsReleased st ↔ st.prevMouseReport.buttons = 0 := by
  constructor
  · rintro ⟨report, last, released⟩
    cases handed.symm.trans last
    exact released
  · exact fun released => ⟨_, handed, released⟩

theorem MouseHanded.kept
    (handed : MouseHanded st) (kept : MouseKept st next) :
    MouseHanded next := by
  rw [MouseHanded, kept.sends, kept.prevMouseReport]
  exact handed

theorem MouseHanded.reported
    (handed : MouseHanded st) (nowMs : Int) :
    MouseHanded (sendMouseReportIfChanged st nowMs) := by
  rw [MouseHanded]
  rcases @sendMouseReportIfChanged_cases st nowMs with
    ⟨_, sends, previous⟩ | ⟨_, sends, previous⟩
  · rw [sends, previous, List.getLast?_concat]
  · rw [sends, previous]
    exact handed

theorem MouseHanded.step
    {event : HandlerEvent} (handed : MouseHanded st)
    (stepped : handlerStep config st event = some next) :
    MouseHanded next := by
  have mouse := stepped_mouse stepped
  cases pass : mousePass config st event with
  | none =>
      rw [pass] at mouse
      exact handed.kept mouse
  | some passed =>
      rcases passed with ⟨middle, nowMs⟩
      rw [pass] at mouse
      exact ((handed.kept mouse.1).reported nowMs).kept mouse.2

/-- The mode after a shortcut. -/
theorem runFnShortcut_activeMode (shortcut : KbFnShortcut) :
    (runFnShortcut config env st shortcut).activeMode =
      match executeFnAction config env.slots shortcut st.settings with
      | none => st.activeMode
      | some changed =>
          if env.applied = true then changed.mode else st.activeMode := by
  rw [runFnShortcut]
  cases executeFnAction config env.slots shortcut st.settings with
  | none => rfl
  | some changed =>
      dsimp only
      split_ifs <;> rfl

/-- A call changes the mode by an applied shortcut, or not at all. -/
theorem keyValue_activeMode
    (step : KeyValueStep config env st key value next) :
    next.activeMode = st.activeMode ∨
      ∃ shortcut changed, LooksUp config st key value ∧
        findFnShortcut st.settings (st.resolvedHid key) = some shortcut ∧
          executeFnAction config env.slots shortcut st.settings =
              some changed ∧
            env.applied = true ∧ next.activeMode = changed.mode := by
  cases step with
  | outside => exact .inl rfl
  | steady =>
      rcases storeKeyValue_eq config st key value with ⟨_, _, same, _⟩
      rw [same]
      exact .inl rfl
  | consumed | unmatched | race | silent => exact .inl notedValue_activeMode
  | @shortcut looks shortcut found =>
      have mode :=
        @runFnShortcut_activeMode config env
          (notedValue config st key value) shortcut
      rw [notedValue_settings, notedValue_activeMode] at mode
      change
        (runFnShortcut config env (notedValue config st key value)
            shortcut).activeMode =
          st.activeMode ∨ _
      cases executed :
          executeFnAction config env.slots shortcut st.settings with
      | none =>
          rw [executed] at mode
          exact .inl mode
      | some changed =>
          rw [executed] at mode
          cases applied : env.applied with
          | false =>
              rw [applied] at mode
              exact .inl mode
          | true =>
              rw [applied] at mode
              exact .inr ⟨shortcut, changed, looks, found, executed, rfl, mode⟩
  | @rebuilt _ _ layers =>
      left
      rcases @reportTransition_frameKept config
          (withLayers (notedValue config st key value) layers) with
        ⟨_, _, _, _, _, _, _, _, kept⟩
      rw [kept]
      exact notedValue_activeMode

/-- Frames and resets leave the mode. -/
theorem handlerStep_activeMode
    {event : HandlerEvent} (noKey : ∀ env key value,
      event ≠ .keyValue env key value)
    (stepped : handlerStep config st event = some next) :
    next.activeMode = st.activeMode := by
  cases event with
  | keyValue env key value => exact absurd rfl (noKey env key value)
  | frameEnd nowMs =>
      cases stepped
      rcases @finishValueFrame_frameKept config st nowMs with
        ⟨_, _, _, _, _, _, _, _, kept⟩
      rw [kept]
  | slaveReset nowMs =>
      cases stepped
      by_cases slave : config.keyCountSlave = 0
      · rw [handleSlaveKeysReset, if_pos slave]
      · rcases @handleSlaveKeysReset_frameKept config st slave nowMs with
          ⟨_, _, _, _, _, _, _, _, kept⟩
        rw [kept]
        rfl

/-- A step releases outside emulation exactly if it leaves it released. -/
theorem releasedOutside_step
    {event : HandlerEvent} (handed : MouseHanded st)
    (released : ReleasedOutside st)
    (stepped : handlerStep config st event = some next) :
    ReleasedOutside next ↔ LeavesReleased config st event := by
  have handedNext := handed.step stepped
  rw [ReleasedOutside, handed.released_iff] at released
  rw [ReleasedOutside, handedNext.released_iff]
  cases event with
  | keyValue env key value =>
      cases stepped
      have step := @processKeyValue_step config st key value env
      rw [(keyValue_mouseKept step).prevMouseReport]
      constructor
      · intro outside shortcut changed looks found executed applied _ leaves
        apply outside
        have mode :=
          @runFnShortcut_activeMode config env
            (notedValue config st key value) shortcut
        rw [notedValue_settings, executed] at mode
        dsimp only at mode
        rw [if_pos applied] at mode
        rw [keyValue_shortcut looks found step]
        change
          (runFnShortcut config env (notedValue config st key value)
            shortcut).activeMode ≠ .mousesim
        rw [mode]
        exact leaves
      · intro leaving outside
        by_cases emulates : st.activeMode = .mousesim
        · rcases keyValue_activeMode step with
            same | ⟨shortcut, changed, looks, found, executed, applied, mode⟩
          · exact absurd (same.trans emulates) outside
          · rw [mode] at outside
            exact
              leaving shortcut changed looks found executed applied emulates
                outside
        · exact released emulates
  | frameEnd nowMs | slaveReset nowMs =>
      have mode :=
        handlerStep_activeMode (fun _ _ _ same => by cases same) stepped
      apply iff_of_true _ trivial
      intro outside
      rw [mode] at outside
      have mouse := stepped_mouse stepped
      rw [mousePass_outside outside] at mouse
      rw [mouse.prevMouseReport]
      exact released outside

end Steps

/-! ## Runs -/

theorem threadStart_mouseHanded
    (config : KbHandlerConfig) (settings : KbSettings) :
    MouseHanded (threadStart config settings) :=
  rfl

/--
For every run from the start of the handler thread: outside mouse emulation
the last mouse report has no button pressed, in every state of the run, if and
only if every shortcut out of emulation is taken with the buttons released.
-/
theorem buttons_released_outside_iff
    (config : KbHandlerConfig) (settings : KbSettings)
    (events : List HandlerEvent) :
    Throughout (handlerStep config) ReleasedOutside
        (threadStart config settings) events ↔
      StepsMeet (handlerStep config) (LeavesReleased config)
        (threadStart config settings) events := by
  rcases run_total (handlerStep_total config) (threadStart config settings)
      events with
    ⟨finish, ran⟩
  have initially : ReleasedOutside (threadStart config settings) :=
    fun _ => ⟨HidMouseReport.zero, rfl, rfl⟩
  rw [throughout_iff_stepsMeet_of_invariant
    (fun _ _ _ handed stepped => MouseHanded.step handed stepped)
    (fun _ _ _ handed released stepped =>
      releasedOutside_step handed released stepped)
    (threadStart_mouseHanded config settings) ran]
  exact and_iff_right initially

/-! ## A button that stays pressed -/

/--
Keys 0, 1 and 2 are FN, `A` and the left button, keys 4 to 7 move the mouse;
FN + `A` is NORMAL.
-/
def clickSettings : KbSettings :=
  { plainSettings with
    mode := .mousesim
    mappingsLayer1 := fun key => if key = 0 then keyFn else 0x04
    fnShortcutsCount := 1
    fnShortcuts := fun _ => ⟨0x04, .modeNormal, 0⟩
    mouseemu :=
      { plainSettings.mouseemu with
        enabled := true
        moveKeysCount := 4
        moveKeys := fun index => UInt16.ofNat (index + 4)
        buttonKeysCount := 3
        buttonKeys := fun index => if index = 0 then 2 else 3 } }

def clickEvent (key : Nat) (value : UInt16) : HandlerEvent :=
  .keyValue ⟨⟨0, fun _ => false, fun _ => 0⟩, true⟩ key value

/-- The button is held while FN and `A` change to NORMAL mode. -/
def clickAcross : List HandlerEvent :=
  [clickEvent 2 1, .frameEnd 1, clickEvent 0 1, clickEvent 1 1]

/-- It fails on `clickAcross`: a frame ends with the button pressed. -/
theorem button_stays_pressed :
    ¬ (∀ (config : KbHandlerConfig) (settings : KbSettings)
        (events : List HandlerEvent) (nowMs : Int)
        (finish : KbhRuntimeState),
        mouseemuCheck config.totalKeyCount settings.mouseemu = none →
        run (handlerStep config) (threadStart config settings)
            (events ++ [.frameEnd nowMs]) =
          some finish →
        finish.activeMode ≠ .mousesim →
          finish.prevMouseReport.buttons = 0) := by
  intro always
  have ran :
      ∃ finish,
        run (handlerStep eightKeys)
            (threadStart eightKeys clickSettings)
            (clickAcross ++ [.frameEnd 2]) =
          some finish ∧
        finish.activeMode ≠ .mousesim ∧ finish.prevMouseReport.buttons ≠ 0 :=
    ⟨_, rfl, by decide +kernel, by decide +kernel⟩
  rcases ran with ⟨finish, ran, outside, pressed⟩
  exact
    pressed
      (always eightKeys clickSettings clickAcross 2 finish (by decide) ran
        outside)

end YkbFirmware.KbHandler.MouseRelease
