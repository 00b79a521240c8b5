import YkbFirmware.Backlight.ScriptSlots

/-!
# The settings callback of the backlight

`on_settings_update` of `ykb_backlight.c` takes over the backlight fields of
the settings it is given and loads the script of the active slot into the VM.
It runs under the mutex of the subsystem, so it is one step.

Lumiscript is another repository: what its calls answer is an input.  The LED
buffers and the reset of the VM's state are left out.
-/

namespace YkbFirmware.Backlight.SettingsUpdate

open YkbFirmware.KbHandler.Settings
open YkbFirmware.VendorHid.Protocol
open YkbFirmware.Backlight.ScriptSlots

/-- The static variables the animation runs with. -/
structure BacklightState where
  initSuccess : Bool
  scriptLoaded : Bool
  curSpeed : ℚ
  threadSleepTime : UInt32
  curBrightness : ℚ
  on : Bool
  /-- The bytecode the VM accepted last. -/
  vmScript : Option (List UInt8)

/-- The answers of the VM to one reload. -/
structure VmResults where
  lumiscriptLoad : Int
  lumiscriptRunInit : Int
deriving DecidableEq

/-- Both calls succeed. -/
def VmResults.Succeed (results : VmResults) : Prop :=
  results.lumiscriptLoad = 0 ∧ results.lumiscriptRunInit = 0

instance (results : VmResults) : Decidable results.Succeed :=
  inferInstanceAs (Decidable (_ ∧ _))

/-- The bytecode of a slot that is in use. -/
def scriptOf (slot : ScriptSlot) : List UInt8 :=
  slot.bytecode.take slot.size.toNat

/-- The slot whose bytecode `lumiscript_load` is called with, if it is. -/
def scriptToLoad
    (options : ScriptOptions) (store : ScriptStore)
    (settings : KbSettings) : Option ScriptSlot :=
  let curIdx := settings.backlight.activeScriptIndex
  if options.slotCount ≤ curIdx.toNat then
    none
  else
    let slot := store.scriptSlots curIdx.toNat
    if slot.occupied = false ∨ slot.size = 0 then
      none
    else
      some slot

/-- The fields that are taken over before the script is looked at. -/
def fieldsTaken
    (backlight : BacklightState) (settings : KbSettings) : BacklightState :=
  { backlight with
    scriptLoaded := false
    curSpeed := settings.backlight.speed
    threadSleepTime := settings.backlight.threadSleepMs
    curBrightness := settings.backlight.brightness
    on := settings.backlight.on }

/-- `on_settings_update`. -/
def onSettingsUpdate
    (options : ScriptOptions) (store : ScriptStore)
    (backlight : BacklightState) (settings : KbSettings)
    (results : VmResults) : BacklightState :=
  if backlight.initSuccess = false then
    backlight
  else
    let backlight := fieldsTaken backlight settings
    match scriptToLoad options store settings with
    | none => backlight
    | some slot =>
        if results.lumiscriptLoad ≠ 0 then
          backlight
        else if results.lumiscriptRunInit ≠ 0 then
          { backlight with vmScript := some (scriptOf slot) }
        else
          { backlight with
            vmScript := some (scriptOf slot)
            scriptLoaded := true }

/-! ## What an update leaves -/

section Update

variable
    {options : ScriptOptions} {store : ScriptStore}
    {backlight : BacklightState} {settings : KbSettings}
    {results : VmResults}

theorem scriptToLoad_eq_some {slot : ScriptSlot} :
    scriptToLoad options store settings = some slot ↔
      settings.backlight.activeScriptIndex.toNat < options.slotCount ∧
        store.scriptSlots settings.backlight.activeScriptIndex.toNat = slot ∧
          slot.occupied = true ∧ slot.size ≠ 0 := by
  rw [scriptToLoad]
  dsimp only
  by_cases outside :
      options.slotCount ≤ settings.backlight.activeScriptIndex.toNat
  · simp [outside, Nat.not_lt.mpr outside]
  · rw [if_neg outside, and_iff_right (Nat.not_le.mp outside)]
    split_ifs with empty
    · constructor
      · exact fun impossible => by cases impossible
      · rintro ⟨rfl, occupied, used⟩
        rcases empty with free | unused
        · simp [free] at occupied
        · exact absurd unused used
    · rw [not_or] at empty
      constructor
      · rintro ⟨⟩
        exact ⟨rfl, by simpa using empty.1, empty.2⟩
      · rintro ⟨rfl, -⟩
        rfl

/-- The backlight runs with the fields of the settings. -/
structure SameFields
    (backlight : BacklightState) (settings : KbSettings) : Prop where
  speed : backlight.curSpeed = settings.backlight.speed
  brightness : backlight.curBrightness = settings.backlight.brightness
  on : backlight.on = settings.backlight.on
  sleepTime : backlight.threadSleepTime = settings.backlight.threadSleepMs

@[simp]
theorem onSettingsUpdate_initSuccess :
    (onSettingsUpdate options store backlight settings results).initSuccess =
      backlight.initSuccess := by
  rw [onSettingsUpdate]
  by_cases ready : backlight.initSuccess = false
  · rw [if_pos ready]
  · rw [if_neg ready]
    cases scriptToLoad options store settings with
    | none => rfl
    | some slot =>
        dsimp only
        split_ifs <;> rfl

/-- An update takes over the fields whatever becomes of the script. -/
theorem onSettingsUpdate_sameFields (ready : backlight.initSuccess = true) :
    SameFields (onSettingsUpdate options store backlight settings results)
      settings := by
  rw [onSettingsUpdate, if_neg (by simp [ready])]
  cases scriptToLoad options store settings with
  | none => exact ⟨rfl, rfl, rfl, rfl⟩
  | some slot =>
      dsimp only
      split_ifs <;> exact ⟨rfl, rfl, rfl, rfl⟩

/-- A script runs after an update exactly if there is one and the VM agrees. -/
theorem onSettingsUpdate_scriptLoaded
    (ready : backlight.initSuccess = true) :
    (onSettingsUpdate options store backlight settings results).scriptLoaded =
        true ↔
      (scriptToLoad options store settings).isSome = true ∧
        results.Succeed := by
  rw [onSettingsUpdate, if_neg (by simp [ready]), VmResults.Succeed]
  cases scriptToLoad options store settings with
  | none => simp [fieldsTaken]
  | some slot =>
      dsimp only
      split_ifs with refused failed
      · simp [fieldsTaken, refused]
      · simp [fieldsTaken, failed]
      · simpa using ⟨not_not.mp refused, not_not.mp failed⟩

/-- The script that runs is the one the update found. -/
theorem onSettingsUpdate_vmScript
    (loaded :
      (onSettingsUpdate options store backlight settings
          results).scriptLoaded =
        true)
    (ready : backlight.initSuccess = true) :
    (onSettingsUpdate options store backlight settings results).vmScript =
      (scriptToLoad options store settings).map scriptOf := by
  have succeeded := (onSettingsUpdate_scriptLoaded ready).mp loaded
  rw [onSettingsUpdate, if_neg (by simp [ready])]
  cases found : scriptToLoad options store settings with
  | none => simp [found] at succeeded
  | some slot =>
      dsimp only
      rw [if_neg (not_not.mpr succeeded.2.1),
        if_neg (not_not.mpr succeeded.2.2), Option.map_some]

end Update

/-- Four slots of two bytes. -/
def tinyOptions : ScriptOptions where
  slotCount := 4
  scriptSlotSize := 2
  imageSize := 16
  settingsFullNameLen := 24
  countFits := by decide
  namesFit := by decide

end YkbFirmware.Backlight.SettingsUpdate
