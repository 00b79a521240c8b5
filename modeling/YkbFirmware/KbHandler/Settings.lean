import Mathlib.Data.Rat.Floor
import Mathlib.Tactic.Basic

/-!
# Keyboard settings and FN actions

`kb_settings_t` as far as the handler core reads it, and
`execute_fn_action` with the `mutate_*` functions it dispatches to.

Enumerations stored in settings come unchecked from the host, so each has a
case for values outside its enumerators.  Per-key arrays are functions of the
key index.  The floating-point backlight and mouse parameters are exact
rationals.
-/

namespace YkbFirmware.KbHandler.Settings

/-! ## Key codes -/

def keyNokey : UInt8 := 0x00
def keyLeftcontrol : UInt8 := 0xE0
def keyRightgui : UInt8 := 0xE7
def keyFn : UInt8 := 0xE8
def keyLayer1 : UInt8 := 0xE9
def keyLayer2 : UInt8 := 0xEA

/-! ## Build options -/

/--
The options the handler is built with.  `KEY_COUNT + KEY_COUNT_SLAVE` is
`TOTAL_KEY_COUNT` by an assertion of the source, and key indices are 16-bit.
-/
structure KbHandlerConfig where
  keyCount : Nat
  keyCountSlave : Nat
  positive : 0 < keyCount + keyCountSlave
  fits : keyCount + keyCountSlave < 2 ^ 16
  backlight : Bool
  reportRollover : Bool

def KbHandlerConfig.totalKeyCount (config : KbHandlerConfig) : Nat :=
  config.keyCount + config.keyCountSlave

/-- Eight keys on one half, without backlight. -/
def eightKeys : KbHandlerConfig where
  keyCount := 8
  keyCountSlave := 0
  positive := by omega
  fits := by omega
  backlight := false
  reportRollover := true

/-! ## Settings -/

/-- `kb_mode_t`. -/
inductive KbMode where
  | normal
  | race
  | mousesim
  | other (raw : UInt32)
deriving DecidableEq, Repr

/-- `enum kb_handler_transport_priority`. -/
inductive KbhTransportPrio where
  | usb
  | bt
  | other (raw : UInt32)
deriving DecidableEq, Repr

/-- `kb_mouseemu_direction_t`. -/
inductive KbMouseemuDirection where
  | fourWay
  | eightWay
  | other (raw : UInt32)
deriving DecidableEq, Repr

/-- `kb_fn_action_t`. -/
inductive KbFnAction where
  | none
  | modeNormal
  | modeRace
  | modeMousesim
  | transportUsb
  | transportBt
  | blToggle
  | blNextScript
  | blPrevScript
  | blBrightnessUp
  | blBrightnessDown
  | blSpeedUp
  | blSpeedDown
  | blSetScript
  | blSetBrightness
  | blSetSpeed
  | other (raw : UInt32)
deriving DecidableEq, Repr

/-- `kb_fn_shortcut_t`. -/
structure KbFnShortcut where
  key : UInt8
  action : KbFnAction
  param : Int
deriving DecidableEq, Repr

/-- `kb_mouseemu_settings_t`. -/
structure KbMouseemuSettings where
  enabled : Bool
  directionMode : KbMouseemuDirection
  moveKeysCount : UInt8
  moveKeys : Nat → UInt16
  scrollKeysCount : UInt8
  scrollKeys : Nat → UInt16
  buttonKeysCount : UInt8
  buttonKeys : Nat → UInt16
  moveXK : ℚ
  moveYK : ℚ
  scrollK : ℚ

/-- `ykb_backlight_settings_t`. -/
structure YkbBacklightSettings where
  on : Bool
  activeScriptIndex : UInt16
  speed : ℚ
  brightness : ℚ
  threadSleepMs : UInt32

/-- `kb_settings_t`, without the settings of the battery and the power button. -/
structure KbSettings where
  mode : KbMode
  thresholds : Nat → UInt16
  minimums : Nat → UInt16
  maximums : Nat → UInt16
  deadzones : Nat → UInt16
  mappingsLayer1 : Nat → UInt8
  mappingsLayer2 : Nat → UInt8
  mappingsLayer3 : Nat → UInt8
  mouseemu : KbMouseemuSettings
  kbhPrio : KbhTransportPrio
  fnShortcutsCount : UInt8
  fnShortcuts : Nat → KbFnShortcut
  backlight : YkbBacklightSettings

/-- Digital keys without codes, shortcuts or mouse emulation. -/
def plainSettings : KbSettings where
  mode := .normal
  thresholds := fun _ => 1
  minimums := fun _ => 0
  maximums := fun _ => 1
  deadzones := fun _ => 0
  mappingsLayer1 := fun _ => keyNokey
  mappingsLayer2 := fun _ => keyNokey
  mappingsLayer3 := fun _ => keyNokey
  mouseemu :=
    { enabled := false
      directionMode := .fourWay
      moveKeysCount := 0
      moveKeys := fun _ => 0
      scrollKeysCount := 0
      scrollKeys := fun _ => 0
      buttonKeysCount := 0
      buttonKeys := fun _ => 0
      moveXK := 0
      moveYK := 0
      scrollK := 0 }
  kbhPrio := .usb
  fnShortcutsCount := 0
  fnShortcuts := fun _ => ⟨0, .none, 0⟩
  backlight := ⟨false, 0, 1, 1, 5⟩

/-! ## Script slots -/

/-- What `ykb_backlight_get_script_slot` would return for each slot. -/
structure ScriptSlotTable where
  count : Nat
  occupied : Nat → Bool
  size : Nat → Nat

/-- The call succeeds and the slot can be run. -/
def ScriptSlotTable.runnable (slots : ScriptSlotTable) (slot : Nat) : Bool :=
  decide (slot < slots.count) && slots.occupied slot &&
    decide (slots.size slot > 0)

/-- `find_next_occupied_script_slot`; `none` is the `false` of the source. -/
def findNextOccupiedScriptSlot
    (slots : ScriptSlotTable) (current : UInt16) (step : Int) :
    Option UInt16 :=
  (List.range slots.count).findSome? fun attempt =>
    let index :=
      ((current.toNat : Int) + slots.count + ((attempt : Int) + 1) * step).tmod
        slots.count
    let slot := UInt16.ofNat index.toNat
    if slots.runnable slot.toNat then some slot else none

/-! ## FN actions -/

section Mutations

variable (slots : ScriptSlotTable) (settings : KbSettings)

def mutateModeNormal : KbSettings := { settings with mode := .normal }

def mutateModeRace : KbSettings := { settings with mode := .race }

def mutateModeMousesim : KbSettings := { settings with mode := .mousesim }

def mutateTransportUsb : KbSettings := { settings with kbhPrio := .usb }

def mutateTransportBt : KbSettings := { settings with kbhPrio := .bt }

def withBacklight (backlight : YkbBacklightSettings) : KbSettings :=
  { settings with backlight := backlight }

def mutateBlToggle : KbSettings :=
  withBacklight settings
    { settings.backlight with on := !settings.backlight.on }

/-- The two script-cycling actions differ in the step only. -/
def mutateBlCycleScript (step : Int) : KbSettings :=
  match
      findNextOccupiedScriptSlot slots
        settings.backlight.activeScriptIndex step with
  | some slot =>
      withBacklight settings
        { settings.backlight with activeScriptIndex := slot }
  | none => settings

def mutateBlNextScript : KbSettings := mutateBlCycleScript slots settings 1

def mutateBlPrevScript : KbSettings :=
  mutateBlCycleScript slots settings (-1)

def mutateBlBrightnessUp : KbSettings :=
  withBacklight settings
    { settings.backlight with
      brightness := min (settings.backlight.brightness + 1 / 10) 1 }

def mutateBlBrightnessDown : KbSettings :=
  withBacklight settings
    { settings.backlight with
      brightness := max (settings.backlight.brightness - 1 / 10) 0 }

def mutateBlSpeedUp : KbSettings :=
  withBacklight settings
    { settings.backlight with
      speed := min (settings.backlight.speed + 1 / 10) 4 }

def mutateBlSpeedDown : KbSettings :=
  withBacklight settings
    { settings.backlight with
      speed := max (settings.backlight.speed - 1 / 10) (1 / 10) }

def mutateBlSetScript (slot : Int) : KbSettings :=
  if slots.count = 0 ∨ slot < 0 ∨ slot.toNat ≥ slots.count then
    settings
  else
    withBacklight settings
      { settings.backlight with
        activeScriptIndex := UInt16.ofNat slot.toNat }

def mutateBlSetBrightness (percent : Int) : KbSettings :=
  withBacklight settings
    { settings.backlight with
      brightness := (max 0 (min percent 100) : Int) / 100 }

def mutateBlSetSpeed (centiSpeed : Int) : KbSettings :=
  withBacklight settings
    { settings.backlight with
      speed := (max 10 (min centiSpeed 400) : Int) / 100 }

end Mutations

/-- `execute_fn_action`; `none` is `false`, with the settings unchanged. -/
def executeFnAction
    (config : KbHandlerConfig) (slots : ScriptSlotTable)
    (shortcut : KbFnShortcut) (settings : KbSettings) : Option KbSettings :=
  match shortcut.action with
  | .modeNormal => some (mutateModeNormal settings)
  | .modeRace => some (mutateModeRace settings)
  | .modeMousesim => some (mutateModeMousesim settings)
  | .transportUsb => some (mutateTransportUsb settings)
  | .transportBt => some (mutateTransportBt settings)
  | .none => none
  | .other _ => none
  | action =>
      if config.backlight then
        match action with
        | .blToggle => some (mutateBlToggle settings)
        | .blNextScript => some (mutateBlNextScript slots settings)
        | .blPrevScript => some (mutateBlPrevScript slots settings)
        | .blBrightnessUp => some (mutateBlBrightnessUp settings)
        | .blBrightnessDown => some (mutateBlBrightnessDown settings)
        | .blSpeedUp => some (mutateBlSpeedUp settings)
        | .blSpeedDown => some (mutateBlSpeedDown settings)
        | .blSetScript => some (mutateBlSetScript slots settings shortcut.param)
        | .blSetBrightness =>
            some (mutateBlSetBrightness settings shortcut.param)
        | .blSetSpeed => some (mutateBlSetSpeed settings shortcut.param)
        | _ => none
      else
        none

/-- The fields of the settings no FN action touches. -/
structure SameKeys (before after : KbSettings) : Prop where
  thresholds : after.thresholds = before.thresholds
  minimums : after.minimums = before.minimums
  maximums : after.maximums = before.maximums
  deadzones : after.deadzones = before.deadzones
  mappingsLayer1 : after.mappingsLayer1 = before.mappingsLayer1
  mappingsLayer2 : after.mappingsLayer2 = before.mappingsLayer2
  mappingsLayer3 : after.mappingsLayer3 = before.mappingsLayer3
  mouseemu : after.mouseemu = before.mouseemu
  fnShortcutsCount : after.fnShortcutsCount = before.fnShortcutsCount
  fnShortcuts : after.fnShortcuts = before.fnShortcuts

namespace SameKeys

variable {first second third : KbSettings}

theorem refl (settings : KbSettings) : SameKeys settings settings :=
  ⟨rfl, rfl, rfl, rfl, rfl, rfl, rfl, rfl, rfl, rfl⟩

theorem trans
    (earlier : SameKeys first second) (later : SameKeys second third) :
    SameKeys first third :=
  ⟨later.thresholds.trans earlier.thresholds,
    later.minimums.trans earlier.minimums,
    later.maximums.trans earlier.maximums,
    later.deadzones.trans earlier.deadzones,
    later.mappingsLayer1.trans earlier.mappingsLayer1,
    later.mappingsLayer2.trans earlier.mappingsLayer2,
    later.mappingsLayer3.trans earlier.mappingsLayer3,
    later.mouseemu.trans earlier.mouseemu,
    later.fnShortcutsCount.trans earlier.fnShortcutsCount,
    later.fnShortcuts.trans earlier.fnShortcuts⟩

theorem withBacklight (settings : KbSettings)
    (backlight : YkbBacklightSettings) :
    SameKeys settings (Settings.withBacklight settings backlight) :=
  ⟨rfl, rfl, rfl, rfl, rfl, rfl, rfl, rfl, rfl, rfl⟩

end SameKeys

/-- FN actions change mode, transport and backlight only. -/
theorem executeFnAction_sameKeys
    {config : KbHandlerConfig} {slots : ScriptSlotTable}
    {shortcut : KbFnShortcut} {settings changed : KbSettings}
    (executed :
      executeFnAction config slots shortcut settings = some changed) :
    SameKeys settings changed := by
  have same : ∀ mode prio,
      SameKeys settings { settings with mode := mode, kbhPrio := prio } :=
    fun _ _ => ⟨rfl, rfl, rfl, rfl, rfl, rfl, rfl, rfl, rfl, rfl⟩
  have cycle : ∀ step,
      SameKeys settings (mutateBlCycleScript slots settings step) := by
    intro step
    rw [mutateBlCycleScript]
    split
    · exact .withBacklight settings _
    · exact .refl settings
  rcases shortcut with ⟨key, action, param⟩
  cases action with
  | none | other => cases executed
  | modeNormal | modeRace | modeMousesim | transportUsb | transportBt =>
      cases executed
      exact same _ _
  | blToggle | blBrightnessUp | blBrightnessDown | blSpeedUp | blSpeedDown
  | blSetBrightness | blSetSpeed =>
      simp only [executeFnAction] at executed
      split_ifs at executed
      cases executed
      exact .withBacklight settings _
  | blNextScript | blPrevScript =>
      simp only [executeFnAction] at executed
      split_ifs at executed
      cases executed
      exact cycle _
  | blSetScript =>
      simp only [executeFnAction] at executed
      split_ifs at executed
      cases executed
      rw [mutateBlSetScript]
      split_ifs
      · exact .refl settings
      · exact .withBacklight settings _

end YkbFirmware.KbHandler.Settings
