import YkbFirmware.KbHandler.SettingsCheck
import YkbFirmware.KbHandler.Effects

/-!
# The core thread and its settings

The core thread as a machine: calls of `process_key_value`, the ends of
frames, the messages of the slave adapter, and updates of the settings by
other threads, which suspend the core thread wherever it is and replace the
snapshot its settings pointer refers to.

The FN path applies its settings through `kb_settings_apply`, which answers 0
for settings it is given.
-/

namespace YkbFirmware.KbHandler.CoreThread

open YkbFirmware.KbHandler.Settings
open YkbFirmware.KbHandler.SettingsCheck
open YkbFirmware.KbHandler.Report
open YkbFirmware.KbHandler.Core
open YkbFirmware.KbHandler.Frames
open YkbFirmware.KbHandler.Transition
open YkbFirmware.KbHandler.Effects

/-! ## Steps -/

/-- The answers the FN path gets: its settings are applied. -/
def applying (slots : ScriptSlotTable) : KbhEnvironment where
  slots := slots
  applied := true

inductive CoreEvent (config : KbHandlerConfig) where
  | keyValue (slots : ScriptSlotTable) (key : Nat) (value : UInt16)
  | frameEnd (nowMs : Int)
  | slaveValues
      (slots : Nat → ScriptSlotTable) (nowMs : Int)
      (values : SlaveValues config)
  | slaveReset (nowMs : Int)
  | settingsUpdate (settings : KbSettings)

/-- `kb_handler_on_settings_update` from another thread, if it returns. -/
def updateSettings
    (config : KbHandlerConfig) (st : KbhRuntimeState)
    (settings : KbSettings) : Option KbhRuntimeState :=
  let update := kbHandlerOnSettingsUpdate config settings
  if update.panic.isSome then
    none
  else
    some { st with settings := update.settingsSnapshot }

def coreStep
    (config : KbHandlerConfig) (st : KbhRuntimeState) :
    CoreEvent config → Option KbhRuntimeState
  | .keyValue slots key value =>
      some (processKeyValue config (applying slots) st key value).1
  | .frameEnd nowMs => some (finishValueFrame config st nowMs)
  | .slaveValues slots nowMs values =>
      some
        (handleSlaveValues config (fun index => applying (slots index))
          nowMs st values)
  | .slaveReset nowMs => some (handleSlaveKeysReset config st nowMs)
  | .settingsUpdate settings => updateSettings config st settings

theorem updateSettings_eq_some
    {config : KbHandlerConfig} {st next : KbhRuntimeState}
    {settings : KbSettings}
    (updated : updateSettings config st settings = some next) :
    mouseemuCheck config.totalKeyCount settings.mouseemu = none ∧
      next = { st with settings := settings } := by
  rw [updateSettings] at updated
  split_ifs at updated with panics
  cases updated
  exact ⟨by simpa [kbHandlerOnSettingsUpdate] using panics, rfl⟩

/-! ## What the thread keeps -/

/--
The layer cache is untouched, the settings change as FN actions change them,
and the active mode follows them.
-/
structure CacheKept (before after : KbhRuntimeState) : Prop where
  layer1Keys : after.layer1Keys = before.layer1Keys
  layer2Keys : after.layer2Keys = before.layer2Keys
  fnKeys : after.fnKeys = before.fnKeys
  keys : SameKeys before.settings after.settings
  mode :
    before.activeMode = before.settings.mode →
      after.activeMode = after.settings.mode

namespace CacheKept

variable {first second third : KbhRuntimeState}

theorem refl (st : KbhRuntimeState) : CacheKept st st :=
  ⟨rfl, rfl, rfl, .refl _, id⟩

theorem trans
    (earlier : CacheKept first second) (later : CacheKept second third) :
    CacheKept first third :=
  ⟨later.layer1Keys.trans earlier.layer1Keys,
    later.layer2Keys.trans earlier.layer2Keys,
    later.fnKeys.trans earlier.fnKeys, earlier.keys.trans later.keys,
    fun follows => later.mode (earlier.mode follows)⟩

/-- Silent changes concern nothing of the cache. -/
theorem of_silent (silent : Silent first second) :
    CacheKept first second where
  layer1Keys := silent.layer1Keys
  layer2Keys := silent.layer2Keys
  fnKeys := silent.fnKeys
  keys := silent.settings ▸ .refl _
  mode := fun follows => by
    rw [silent.activeMode, silent.settings, follows]

/-- Neither do reports. -/
theorem of_reports (reported : Reports first second) :
    CacheKept first second := by
  induction reported with
  | silent quiet => exact of_silent quiet
  | sent before report =>
      rcases sendKbReport_eq before report with ⟨outputs, same, _⟩
      rw [same]
      exact ⟨rfl, rfl, rfl, .refl _, id⟩
  | trans _ _ earlier later => exact earlier.trans later

end CacheKept

section Kept

variable
    {config : KbHandlerConfig} {slots : ScriptSlotTable}
    {st : KbhRuntimeState}

/-- A shortcut that changes the mode makes it the active one. -/
theorem runFnShortcut_kept (shortcut : KbFnShortcut) :
    CacheKept st (runFnShortcut config (applying slots) st shortcut) := by
  rw [runFnShortcut]
  split
  · exact .refl st
  · rename_i changed executed
    exact
      ⟨rfl, rfl, rfl, executeFnAction_sameKeys executed, fun _ => rfl⟩

theorem processKeyValue_kept (key : Nat) (value : UInt16) :
    CacheKept st
      (processKeyValue config (applying slots) st key value).1 := by
  rcases @processKeyValue_cases config st key (applying slots) value with
    reported | ⟨_, shortcut, middle, _, before, after⟩
  · exact .of_reports reported
  · have ran := @runFnShortcut_kept config slots middle shortcut
    exact ((CacheKept.of_silent before).trans ran).trans (.of_silent after)

theorem finishValueFrame_kept (nowMs : Int) :
    CacheKept st (finishValueFrame config st nowMs) :=
  .of_reports (finishValueFrame_reports nowMs)

/-- Key values processed one after the other. -/
theorem foldl_processKeyValue_kept
    {Index : Type} (slots : Index → ScriptSlotTable) (key : Index → Nat)
    (value : Index → UInt16) (indices : List Index) :
    CacheKept st
      (indices.foldl
        (fun current index =>
          (processKeyValue config (applying (slots index)) current
            (key index) (value index)).1)
        st) := by
  induction indices generalizing st with
  | nil => exact .refl st
  | cons index rest induction =>
      exact (processKeyValue_kept _ _).trans induction

theorem handleSlaveValues_kept
    (slots : Nat → ScriptSlotTable) (nowMs : Int)
    (values : SlaveValues config) :
    CacheKept st
      (handleSlaveValues config (fun index => applying (slots index)) nowMs
        st values) := by
  rw [handleSlaveValues]
  split_ifs
  · exact .refl st
  · have processed :=
      @foldl_processKeyValue_kept config st (Fin config.keyCountSlave)
        (fun index => slots index.val)
        (fun index => config.keyCount + index.val) values
        (List.finRange config.keyCountSlave)
    exact processed.trans (finishValueFrame_kept nowMs)

theorem handleSlaveKeysReset_kept (nowMs : Int) :
    CacheKept st (handleSlaveKeysReset config st nowMs) :=
  .of_reports (handleSlaveKeysReset_reports nowMs)

/-- An event keeps the cache, or it is an update that passed the check. -/
theorem coreStep_cases
    {next : KbhRuntimeState} {event : CoreEvent config}
    (stepped : coreStep config st event = some next) :
    CacheKept st next ∨
      mouseemuCheck config.totalKeyCount next.settings.mouseemu = none ∧
        next = { st with settings := next.settings } := by
  cases event with
  | keyValue slots key value =>
      cases stepped
      exact .inl (processKeyValue_kept key value)
  | frameEnd nowMs =>
      cases stepped
      exact .inl (finishValueFrame_kept nowMs)
  | slaveValues slots nowMs values =>
      cases stepped
      exact .inl (handleSlaveValues_kept slots nowMs values)
  | slaveReset nowMs =>
      cases stepped
      exact .inl (handleSlaveKeysReset_kept nowMs)
  | settingsUpdate settings =>
      rcases updateSettings_eq_some stepped with ⟨checked, rfl⟩
      exact .inr ⟨checked, rfl⟩

end Kept

end YkbFirmware.KbHandler.CoreThread
