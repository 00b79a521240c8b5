import YkbFirmware.KbHandler.SettingsCheck
import YkbFirmware.Library.TransitionSystem

/-!
# The settings store

The functions of `kb_settings.c` over the static variables of the module and
the one item it keeps in the settings storage, and the firmware as a machine:
boots with arbitrary results of the storage layer, and calls of
`kb_settings_apply` from anywhere in between.

The subscribers of an update run after the image was saved.  The only one
that can panic is the keyboard handler's; a panic ends everything until the
next boot.
-/

namespace YkbFirmware.SettingsStore.Store

open YkbFirmware.KbHandler.Settings
open YkbFirmware.KbHandler.SettingsCheck

/-! ## Types -/

/-- The build options and sizes of the module. -/
structure SettingsOptions where
  handler : KbHandlerConfig
  fnShortcutsMax : Nat
  imageSize : Nat

/-- `generated_default_settings.h` and the defaults of other subsystems. -/
structure GeneratedDefaults where
  mappingsLayer1 : Nat → UInt8
  mappingsLayer2 : Nat → UInt8
  mappingsLayer3 : Nat → UInt8
  mouseemu : KbMouseemuSettings
  fnShortcutsCount : Nat
  fnShortcuts : Nat → KbFnShortcut
  thresholds : Nat → UInt16
  minimums : Nat → UInt16
  maximums : Nat → UInt16
  deadzones : Nat → UInt16
  backlight : YkbBacklightSettings

/-- `KB_SETTINGS_IMAGE_VERSION`. -/
def kbSettingsImageVersion : UInt16 := 1

/-- `KB_SETTINGS_ITEM`. -/
def kbSettingsItem : String := "blob"

/-- `kb_settings_image_t`. -/
structure KbSettingsImage where
  version : UInt16
  settings : KbSettings

/-- The image `kb_settings_save` and the export function build. -/
def kbSettingsImage (settings : KbSettings) : KbSettingsImage where
  version := kbSettingsImageVersion
  settings := settings

/-- The stored item: its length and its bytes, seen as an image. -/
structure StoredItem where
  len : Nat
  image : KbSettingsImage

/-- The static variables of the module. -/
structure KbSettingsStore where
  kbSettings : KbSettings
  settingsRegistered : Bool
  successfullyLoaded : Bool
  notifySnapshot : KbSettings

/-- Static storage at boot. -/
def clearedStore (zeroed : KbSettings) : KbSettingsStore where
  kbSettings := zeroed
  settingsRegistered := false
  successfullyLoaded := false
  notifySnapshot := zeroed

/-- The functions that run the callbacks. -/
inductive UpdateSource where
  | handlerSet
  | init
  | apply
deriving DecidableEq, Repr

/-- Where a panic comes from. -/
inductive Panic where
  | onUpdate (source : UpdateSource) (fault : MouseemuFault)
  | loadDefaults (err : Int)
deriving DecidableEq, Repr

/-! ## Callbacks -/

/-- `kb_settings_handle_on_update_snapshot`, when it does not return. -/
def kbSettingsHandleOnUpdateSnapshot
    (options : SettingsOptions) (source : UpdateSource)
    (settings : KbSettings) : Option Panic :=
  (kbHandlerOnSettingsUpdate options.handler settings).panic.map
    (.onUpdate source)

/-! ## Defaults -/

/-- The fields `kb_settings_load_defaults` sets before its check. -/
def withDefaultKeys
    (defaults : GeneratedDefaults) (settings : KbSettings) : KbSettings :=
  { settings with
    mode := .normal
    mappingsLayer1 := defaults.mappingsLayer1
    mappingsLayer2 := defaults.mappingsLayer2
    mappingsLayer3 := defaults.mappingsLayer3
    mouseemu := defaults.mouseemu }

/-- The fields it sets after its check. -/
def withDefaultRest
    (defaults : GeneratedDefaults) (settings : KbSettings) : KbSettings :=
  { settings with
    fnShortcutsCount := UInt8.ofNat defaults.fnShortcutsCount
    fnShortcuts := fun index =>
      if index < defaults.fnShortcutsCount then
        defaults.fnShortcuts index
      else
        { key := 0, action := .none, param := 0 }
    thresholds := defaults.thresholds
    minimums := defaults.minimums
    maximums := defaults.maximums
    deadzones := defaults.deadzones
    backlight := defaults.backlight }

/-- `kb_settings_load_defaults`: result and new settings. -/
def kbSettingsLoadDefaults
    (options : SettingsOptions) (defaults : GeneratedDefaults)
    (settings : KbSettings) : Int × KbSettings :=
  if defaults.fnShortcutsCount > options.fnShortcutsMax then
    (-7, withDefaultKeys defaults settings)
  else
    (0, withDefaultRest defaults (withDefaultKeys defaults settings))

/-! ## Saving -/

/-- The storage after a save, and the image that was written. -/
structure SaveOutcome where
  storage : Option StoredItem
  written : Option KbSettingsImage

/-- `kb_settings_save`; `saveErr` is what `settings_save_one` returns. -/
def kbSettingsSave
    (options : SettingsOptions) (store : KbSettingsStore)
    (storage : Option StoredItem) (saveErr : Int) : SaveOutcome :=
  if store.settingsRegistered = false then
    ⟨storage, none⟩
  else if saveErr ≠ 0 then
    ⟨storage, none⟩
  else
    let image := kbSettingsImage store.kbSettings
    ⟨some ⟨options.imageSize, image⟩, some image⟩

/-! ## Loading -/

/-- Result of one call; a panic means that it does not return. -/
structure SetOutcome where
  store : KbSettingsStore
  returned : Int
  panic : Option Panic

/--
`kb_settings_handler_set`; `rlen` is what the read callback returns and
`loadImg` what it has put into the image buffer.
-/
def kbSettingsHandlerSet
    (options : SettingsOptions) (store : KbSettingsStore)
    (key : String) (len : Nat) (rlen : Int) (loadImg : KbSettingsImage) :
    SetOutcome :=
  if key ≠ kbSettingsItem then
    ⟨store, -2, none⟩
  else if len ≠ options.imageSize then
    ⟨store, -22, none⟩
  else if rlen < 0 then
    ⟨store, -22, none⟩
  else if rlen.toNat ≠ options.imageSize then
    ⟨store, -22, none⟩
  else if loadImg.version ≠ kbSettingsImageVersion then
    ⟨store, -22, none⟩
  else
    ⟨{ store with
        kbSettings := loadImg.settings
        notifySnapshot := loadImg.settings
        successfullyLoaded := true },
      0,
      kbSettingsHandleOnUpdateSnapshot options .handlerSet
        loadImg.settings⟩

/-- An item of the right form, read completely, is loaded. -/
theorem kbSettingsHandlerSet_item
    (options : SettingsOptions) (store : KbSettingsStore)
    (len : Nat) (rlen : Int) (loadImg : KbSettingsImage) :
    kbSettingsHandlerSet options store kbSettingsItem len rlen loadImg =
      if len = options.imageSize ∧ rlen = (options.imageSize : Int) ∧
          loadImg.version = kbSettingsImageVersion then
        ⟨{ store with
            kbSettings := loadImg.settings
            notifySnapshot := loadImg.settings
            successfullyLoaded := true },
          0,
          kbSettingsHandleOnUpdateSnapshot options .handlerSet
            loadImg.settings⟩
      else
        ⟨store, -22, none⟩ := by
  rw [kbSettingsHandlerSet, if_neg fun different => different rfl]
  by_cases fits :
      len = options.imageSize ∧ rlen = (options.imageSize : Int) ∧
        loadImg.version = kbSettingsImageVersion
  · have natural : ¬ (options.imageSize : Int) < 0 := by omega
    rw [if_pos fits]
    simp [fits, natural]
  · rw [if_neg fits]
    split_ifs with otherSize failed truncated otherVersion
    · rfl
    · rfl
    · rfl
    · rfl
    · have whole : rlen = (options.imageSize : Int) := by omega
      exact
        absurd ⟨not_not.mp otherSize, whole, not_not.mp otherVersion⟩ fits

/-- What the storage layer does during one boot. -/
structure BootEnvironment where
  settingsSubsysInit : Int
  settingsRegister : Int
  /-- whether `settings_load_subtree` gets to the stored item -/
  visits : Bool
  rlen : Int
  settingsLoadSubtree : Int
  saveErr : Int

/-- `settings_load_subtree` on the one item of the subtree. -/
def loadSubtree
    (options : SettingsOptions) (store : KbSettingsStore)
    (storage : Option StoredItem) (boot : BootEnvironment) : SetOutcome :=
  match storage with
  | some item =>
      if boot.visits then
        { kbSettingsHandlerSet options store kbSettingsItem item.len
            boot.rlen item.image with
          returned := boot.settingsLoadSubtree }
      else
        ⟨store, boot.settingsLoadSubtree, none⟩
  | none => ⟨store, boot.settingsLoadSubtree, none⟩

/-- What a call leaves behind, with the image it wrote. -/
structure StoreOutcome where
  store : KbSettingsStore
  storage : Option StoredItem
  written : Option KbSettingsImage
  returned : Int
  panic : Option Panic

/-- The part of `kb_settings_init` behind `load_defaults`. -/
def initDefaults
    (options : SettingsOptions) (defaults : GeneratedDefaults)
    (store : KbSettingsStore) (storage : Option StoredItem)
    (boot : BootEnvironment) (err : Int) : StoreOutcome :=
  let loaded := kbSettingsLoadDefaults options defaults store.kbSettings
  let store := { store with kbSettings := loaded.2 }
  if loaded.1 ≠ 0 then
    ⟨store, storage, none, loaded.1, some (.loadDefaults loaded.1)⟩
  else
    let saved := kbSettingsSave options store storage boot.saveErr
    ⟨{ store with notifySnapshot := store.kbSettings }, saved.storage,
      saved.written, err,
      kbSettingsHandleOnUpdateSnapshot options .init store.kbSettings⟩

/-- The part of `kb_settings_init` after the registration. -/
def initLoad
    (options : SettingsOptions) (defaults : GeneratedDefaults)
    (store : KbSettingsStore) (storage : Option StoredItem)
    (boot : BootEnvironment) : StoreOutcome :=
  let loaded := loadSubtree options store storage boot
  if loaded.panic.isSome then
    ⟨loaded.store, storage, none, loaded.returned, loaded.panic⟩
  else if
      loaded.returned ≠ 0 ∨ loaded.store.successfullyLoaded = false then
    initDefaults options defaults loaded.store storage boot loaded.returned
  else
    ⟨loaded.store, storage, none, 0, none⟩

def kbSettingsInit
    (options : SettingsOptions) (defaults : GeneratedDefaults)
    (store : KbSettingsStore) (storage : Option StoredItem)
    (boot : BootEnvironment) : StoreOutcome :=
  let store := { store with successfullyLoaded := false }
  if store.settingsRegistered then
    initLoad options defaults store storage boot
  else if boot.settingsSubsysInit ≠ 0 then
    initDefaults options defaults store storage boot boot.settingsSubsysInit
  else if boot.settingsRegister ≠ 0 then
    initDefaults options defaults store storage boot boot.settingsRegister
  else
    initLoad options defaults { store with settingsRegistered := true }
      storage boot

/-! ## Applying -/

/-- The locked section of `kb_settings_apply`. -/
def storeApplied (store : KbSettingsStore) (settings : KbSettings) :
    KbSettingsStore :=
  { store with kbSettings := settings, notifySnapshot := settings }

/-- `kb_settings_apply`; a null pointer is `none`. -/
def kbSettingsApply
    (options : SettingsOptions) (store : KbSettingsStore)
    (storage : Option StoredItem)
    (settings : Option KbSettings) (saveErr : Int) : StoreOutcome :=
  match settings with
  | none => ⟨store, storage, none, -22, none⟩
  | some settings =>
      let store := storeApplied store settings
      let saved := kbSettingsSave options store storage saveErr
      ⟨store, saved.storage, saved.written, 0,
        kbSettingsHandleOnUpdateSnapshot options .apply
          store.notifySnapshot⟩

/-- Applying settings never fails, whatever becomes of the save. -/
theorem kbSettingsApply_returned
    (options : SettingsOptions) (store : KbSettingsStore)
    (storage : Option StoredItem) (settings : KbSettings) (saveErr : Int) :
    (kbSettingsApply options store storage (some settings) saveErr).returned =
      0 :=
  rfl

/-! ## The firmware over many boots -/

/--
The store and the storage, whether the firmware is running, and two records
it does not read: the images it has written and the panics it ended in.
-/
structure Firmware where
  store : KbSettingsStore
  storage : Option StoredItem
  running : Bool
  written : List KbSettingsImage
  panics : List Panic

inductive FirmwareEvent where
  | boot (environment : BootEnvironment)
  | apply (settings : Option KbSettings) (saveErr : Int)

/-- A boot starts from cleared memory; calls need a running firmware. -/
def firmwareStep
    (options : SettingsOptions) (defaults : GeneratedDefaults)
    (zeroed : KbSettings) (state : Firmware) :
    FirmwareEvent → Option Firmware
  | .boot environment =>
      let booted :=
        kbSettingsInit options defaults (clearedStore zeroed) state.storage
          environment
      some
        { store := booted.store
          storage := booted.storage
          running := booted.panic.isNone
          written := state.written ++ booted.written.toList
          panics := state.panics ++ booted.panic.toList }
  | .apply settings saveErr =>
      if state.running then
        let applied :=
          kbSettingsApply options state.store state.storage settings saveErr
        some
          { state with
            store := applied.store
            storage := applied.storage
            running := applied.panic.isNone
            written := state.written ++ applied.written.toList
            panics := state.panics ++ applied.panic.toList }
      else
        none

/-- The firmware before its first boot. -/
def Firmware.off
    (zeroed : KbSettings) (storage : Option StoredItem) : Firmware where
  store := clearedStore zeroed
  storage := storage
  running := false
  written := []
  panics := []

/-- Eight keys and four shortcuts. -/
def exampleOptions : SettingsOptions where
  handler := eightKeys
  fnShortcutsMax := 4
  imageSize := 512

end YkbFirmware.SettingsStore.Store
