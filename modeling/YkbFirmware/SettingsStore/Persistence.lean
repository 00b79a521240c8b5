import YkbFirmware.SettingsStore.Store

/-!
# What is persisted

`kb_settings_apply` saves before the subscriber that checks has seen the
settings, and the next boot loads the image and hands it to that subscriber.
In every run, all saved images pass `mouseemu_check` and no boot panics on
the image it loads, exactly when each call that gets to save was given
settings that pass, and each boot that falls back to the defaults finds
defaults that do.
-/

namespace YkbFirmware.SettingsStore.Persistence

open YkbFirmware.Library.TransitionSystem
open YkbFirmware.KbHandler.Settings
open YkbFirmware.KbHandler.SettingsCheck
open YkbFirmware.SettingsStore.Store

/-- The settings satisfy all conditions of `mouseemu_check`. -/
def MouseemuPasses (options : SettingsOptions) (settings : KbSettings) :
    Prop :=
  mouseemuCheck options.handler.totalKeyCount settings.mouseemu = none

/-- An item that a boot would load holds settings that pass. -/
def StorageSound
    (options : SettingsOptions) (storage : Option StoredItem) : Prop :=
  ∀ item, storage = some item →
    item.len = options.imageSize →
      item.image.version = kbSettingsImageVersion →
        MouseemuPasses options item.image.settings

/-- Every image that was written passes. -/
def WrittenChecked
    (options : SettingsOptions) (images : List KbSettingsImage) : Prop :=
  ∀ image ∈ images, MouseemuPasses options image.settings

/-- No boot has panicked on the settings it loaded. -/
def BootsSurvive (panics : List Panic) : Prop :=
  ∀ fault, Panic.onUpdate .handlerSet fault ∉ panics

/-- The boot takes its settings from the stored item. -/
def bootLoads
    (options : SettingsOptions) (storage : Option StoredItem)
    (boot : BootEnvironment) : Bool :=
  match storage with
  | some item =>
      boot.visits && decide (item.len = options.imageSize) &&
        decide (boot.rlen = (options.imageSize : Int)) &&
        decide (item.image.version = kbSettingsImageVersion) &&
        decide (boot.settingsLoadSubtree = 0)
  | none => false

/--
What the step saves passes: the settings of a call that reaches the storage,
and the defaults of a boot that falls back to them.
-/
def SavesChecked
    (options : SettingsOptions) (defaults : GeneratedDefaults)
    (state : Firmware) : FirmwareEvent → Prop
  | .apply none _ => True
  | .apply (some settings) saveErr =>
      state.store.settingsRegistered = true → saveErr = 0 →
        MouseemuPasses options settings
  | .boot environment =>
      environment.settingsSubsysInit = 0 →
        environment.settingsRegister = 0 →
          bootLoads options state.storage environment = false →
            defaults.fnShortcutsCount ≤ options.fnShortcutsMax →
              environment.saveErr = 0 →
                mouseemuCheck options.handler.totalKeyCount
                    defaults.mouseemu =
                  none

section Calls

variable
    {options : SettingsOptions} {defaults : GeneratedDefaults}
    {store : KbSettingsStore} {storage : Option StoredItem}
    {boot : BootEnvironment} {settings : KbSettings}

theorem onUpdate_eq_none_iff {source : UpdateSource} :
    kbSettingsHandleOnUpdateSnapshot options source settings = none ↔
      MouseemuPasses options settings := by
  rw [kbSettingsHandleOnUpdateSnapshot, Option.map_eq_none_iff]
  exact Iff.rfl

/-- Callbacks run by other functions do not count as panics of a load. -/
theorem survives_onUpdate
    {source : UpdateSource} (other : source ≠ .handlerSet) :
    BootsSurvive
      (kbSettingsHandleOnUpdateSnapshot options source settings).toList := by
  intro fault member
  rw [Option.mem_toList, kbSettingsHandleOnUpdateSnapshot,
    Option.map_eq_some_iff] at member
  rcases member with ⟨found, _, same⟩
  cases same
  exact other rfl

/-- A save writes the current settings or nothing. -/
theorem kbSettingsSave_cases
    (options : SettingsOptions) (store : KbSettingsStore)
    (storage : Option StoredItem) (saveErr : Int) :
    (store.settingsRegistered = true ∧ saveErr = 0 ∧
        kbSettingsSave options store storage saveErr =
          ⟨some ⟨options.imageSize, kbSettingsImage store.kbSettings⟩,
            some (kbSettingsImage store.kbSettings)⟩) ∨
      (¬ (store.settingsRegistered = true ∧ saveErr = 0) ∧
        kbSettingsSave options store storage saveErr = ⟨storage, none⟩) := by
  rw [kbSettingsSave]
  split_ifs with unregistered failed
  · exact Or.inr ⟨by simp [unregistered], rfl⟩
  · exact Or.inr ⟨by simp [failed], rfl⟩
  · exact
      Or.inl
        ⟨by simpa using unregistered, not_not.mp failed, rfl⟩

/-- What a save writes passes if and only if it keeps the storage sound. -/
theorem kbSettingsSave_checked
    (sound : StorageSound options storage) (saveErr : Int) :
    (WrittenChecked options
          (kbSettingsSave options store storage saveErr).written.toList ↔
        (store.settingsRegistered = true → saveErr = 0 →
          MouseemuPasses options store.kbSettings)) ∧
      (WrittenChecked options
          (kbSettingsSave options store storage saveErr).written.toList →
        StorageSound options
          (kbSettingsSave options store storage saveErr).storage) := by
  rcases kbSettingsSave_cases options store storage saveErr with
    ⟨registered, succeeded, saved⟩ | ⟨skipped, saved⟩
  · rw [saved]
    constructor
    · constructor
      · intro checked _ _
        exact
          checked (kbSettingsImage store.kbSettings)
            (Option.mem_toList.mpr rfl)
      · intro passes image member
        cases Option.mem_toList.mp member
        exact passes registered succeeded
    · intro checked item stored _ _
      cases stored
      exact
        checked (kbSettingsImage store.kbSettings)
          (Option.mem_toList.mpr rfl)
  · rw [saved]
    constructor
    · constructor
      · intro _ registered succeeded
        exact absurd ⟨registered, succeeded⟩ skipped
      · intro _ image member
        cases member
    · exact fun _ => sound

/-- What one call does to the storage and to the records. -/
structure StepChecked
    (options : SettingsOptions) (outcome : StoreOutcome)
    (condition : Prop) : Prop where
  written : WrittenChecked options outcome.written.toList ↔ condition
  sound :
    WrittenChecked options outcome.written.toList →
      StorageSound options outcome.storage
  survives : BootsSurvive outcome.panic.toList

theorem StepChecked.silent
    {outcome : StoreOutcome} {condition : Prop}
    (sound : StorageSound options outcome.storage)
    (nothing : outcome.written = none)
    (survives : BootsSurvive outcome.panic.toList) (holds : condition) :
    StepChecked options outcome condition where
  written := by
    rw [nothing]
    exact ⟨fun _ => holds, fun _ image member => by cases member⟩
  sound := fun _ => sound
  survives := survives

theorem kbSettingsApply_checked
    (sound : StorageSound options storage)
    (settings : Option KbSettings) (saveErr : Int) :
    StepChecked options
      (kbSettingsApply options store storage settings saveErr)
      (∀ applied, settings = some applied →
        store.settingsRegistered = true → saveErr = 0 →
          MouseemuPasses options applied) := by
  cases settings with
  | none =>
      apply StepChecked.silent sound rfl
      · exact fun fault member => by cases member
      · exact fun applied impossible => by cases impossible
  | some settings =>
      have saved :=
        @kbSettingsSave_checked options (storeApplied store settings)
          storage sound saveErr
      constructor
      · refine saved.1.trans ?_
        constructor
        · rintro passes applied ⟨⟩
          exact passes
        · exact fun passes => passes settings rfl
      · exact saved.2
      · exact survives_onUpdate (by decide)

/-- The defaults that are loaded have the generated mouse emulation. -/
theorem initDefaults_checked
    (sound : StorageSound options storage) (err : Int) :
    StepChecked options
      (initDefaults options defaults store storage boot err)
      (store.settingsRegistered = true →
        defaults.fnShortcutsCount ≤ options.fnShortcutsMax →
          boot.saveErr = 0 →
            mouseemuCheck options.handler.totalKeyCount
                defaults.mouseemu =
              none) := by
  rw [initDefaults, kbSettingsLoadDefaults]
  by_cases tooMany : defaults.fnShortcutsCount > options.fnShortcutsMax
  · rw [if_pos tooMany]
    apply StepChecked.silent sound rfl
    · intro fault member
      cases Option.mem_toList.mp member
    · exact fun _ fits => absurd fits (Nat.not_le.mpr tooMany)
  · rw [if_neg tooMany]
    have saved :=
      @kbSettingsSave_checked options
        { store with
          kbSettings :=
            withDefaultRest defaults
              (withDefaultKeys defaults store.kbSettings) }
        storage sound boot.saveErr
    constructor
    · refine saved.1.trans ?_
      constructor
      · exact fun passes registered _ => passes registered
      · exact fun passes registered =>
          passes registered (Nat.not_lt.mp tooMany)
    · exact saved.2
    · exact survives_onUpdate (by decide)

/-- A load either takes the item or leaves the store alone. -/
theorem loadSubtree_cases
    (sound : StorageSound options storage)
    (unloaded : store.successfullyLoaded = false) :
    (loadSubtree options store storage boot).panic = none ∧
      (loadSubtree options store storage boot).store.settingsRegistered =
          store.settingsRegistered ∧
        (((loadSubtree options store storage boot).returned ≠ 0 ∨
              (loadSubtree options store storage
                  boot).store.successfullyLoaded =
                false) ↔
          bootLoads options storage boot = false) := by
  cases storage with
  | none => exact ⟨rfl, rfl, by simp [loadSubtree, bootLoads, unloaded]⟩
  | some item =>
      rw [loadSubtree, bootLoads]
      by_cases visited : boot.visits = true
      · rw [if_pos visited, kbSettingsHandlerSet_item]
        split_ifs with fits
        · rcases fits with ⟨size, whole, version⟩
          refine
            ⟨onUpdate_eq_none_iff.mpr (sound item rfl size version), rfl,
              ?_⟩
          simp [visited, size, version, whole]
        · refine ⟨rfl, rfl, ?_⟩
          have refused :
              item.len = options.imageSize →
                boot.rlen = (options.imageSize : Int) →
                  item.image.version ≠ kbSettingsImageVersion :=
            fun size whole version => fits ⟨size, whole, version⟩
          simpa [unloaded, visited] using
            fun size whole version => absurd version (refused size whole)
      · rw [if_neg visited]
        exact ⟨rfl, rfl, by simp [unloaded, visited]⟩

/-- A boot whose registration succeeded. -/
theorem initLoad_checked
    (sound : StorageSound options storage)
    (registered : store.settingsRegistered = true)
    (unloaded : store.successfullyLoaded = false) :
    StepChecked options
      (initLoad options defaults store storage boot)
      (bootLoads options storage boot = false →
        defaults.fnShortcutsCount ≤ options.fnShortcutsMax →
          boot.saveErr = 0 →
            mouseemuCheck options.handler.totalKeyCount
                defaults.mouseemu =
              none) := by
  rcases @loadSubtree_cases options store storage boot sound unloaded with
    ⟨returns, stillRegistered, fallsBack⟩
  rw [initLoad, if_neg (by simp [returns])]
  split_ifs with failed
  · have checked :=
      @initDefaults_checked options defaults
        (loadSubtree options store storage boot).store storage boot sound
        (loadSubtree options store storage boot).returned
    refine ⟨checked.written.trans ?_, checked.sound, checked.survives⟩
    constructor
    · exact fun passes _ =>
        passes (stillRegistered.trans registered)
    · exact fun passes _ => passes (fallsBack.mp failed)
  · apply StepChecked.silent sound rfl
    · exact fun fault member => by cases member
    · exact fun stays => absurd (fallsBack.mpr stays) failed

/-- Every boot. -/
theorem kbSettingsInit_checked
    (sound : StorageSound options storage) (zeroed : KbSettings) :
    StepChecked options
      (kbSettingsInit options defaults (clearedStore zeroed) storage boot)
      (boot.settingsSubsysInit = 0 → boot.settingsRegister = 0 →
        bootLoads options storage boot = false →
          defaults.fnShortcutsCount ≤ options.fnShortcutsMax →
            boot.saveErr = 0 →
              mouseemuCheck options.handler.totalKeyCount
                  defaults.mouseemu =
                none) := by
  have unregistered :
      ∀ err (condition : Prop), condition →
        StepChecked options
          (initDefaults options defaults (clearedStore zeroed) storage boot
            err)
          condition := by
    intro err condition holds
    have checked :=
      @initDefaults_checked options defaults (clearedStore zeroed) storage
        boot sound err
    refine ⟨checked.written.trans ?_, checked.sound, checked.survives⟩
    exact ⟨fun _ => holds, fun _ impossible => by cases impossible⟩
  rw [kbSettingsInit]
  change
    StepChecked options
      (if boot.settingsSubsysInit ≠ 0 then
        initDefaults options defaults (clearedStore zeroed) storage boot
          boot.settingsSubsysInit
      else if boot.settingsRegister ≠ 0 then
        initDefaults options defaults (clearedStore zeroed) storage boot
          boot.settingsRegister
      else
        initLoad options defaults
          { clearedStore zeroed with settingsRegistered := true } storage
          boot)
      _
  split_ifs with noSubsystem refused
  · exact unregistered _ _ fun zero => absurd zero noSubsystem
  · exact unregistered _ _ fun _ zero => absurd zero refused
  · have checked :=
      @initLoad_checked options defaults
        { clearedStore zeroed with settingsRegistered := true } storage
        boot sound rfl rfl
    refine ⟨checked.written.trans ?_, checked.sound, checked.survives⟩
    constructor
    · exact fun passes _ _ => passes
    · exact fun passes =>
        passes (not_not.mp noSubsystem) (not_not.mp refused)

end Calls

/-! ## Steps and runs -/

section Runs

variable
    {options : SettingsOptions} {defaults : GeneratedDefaults}
    {zeroed : KbSettings} {state next finish : Firmware}
    {event : FirmwareEvent} {events : List FirmwareEvent}

theorem writtenChecked_append {first second : List KbSettingsImage} :
    WrittenChecked options (first ++ second) ↔
      WrittenChecked options first ∧ WrittenChecked options second :=
  List.forall_mem_append

theorem bootsSurvive_append {first second : List Panic} :
    BootsSurvive (first ++ second) ↔
      BootsSurvive first ∧ BootsSurvive second := by
  simp only [BootsSurvive, List.mem_append, not_or, forall_and]

/-- One step: what it writes passes if and only if its condition holds. -/
theorem firmwareStep_checked
    (sound : StorageSound options state.storage)
    (stepped :
      firmwareStep options defaults zeroed state event = some next) :
    (WrittenChecked options next.written ↔
        WrittenChecked options state.written ∧
          SavesChecked options defaults state event) ∧
      (SavesChecked options defaults state event →
        StorageSound options next.storage) ∧
        (BootsSurvive next.panics ↔ BootsSurvive state.panics) := by
  cases event with
  | boot environment =>
      have checked :=
        @kbSettingsInit_checked options defaults state.storage environment
          sound zeroed
      cases stepped
      refine ⟨?_, ?_, ?_⟩
      · exact
          writtenChecked_append.trans (and_congr_right' checked.written)
      · exact fun condition =>
          checked.sound (checked.written.mpr condition)
      · exact
          bootsSurvive_append.trans
            (and_iff_left checked.survives)
  | apply settings saveErr =>
      have checked :=
        @kbSettingsApply_checked options state.store state.storage sound
          settings saveErr
      have condition :
          SavesChecked options defaults state (.apply settings saveErr) ↔
            ∀ applied, settings = some applied →
              state.store.settingsRegistered = true → saveErr = 0 →
                MouseemuPasses options applied := by
        cases settings <;> simp [SavesChecked]
      rw [firmwareStep] at stepped
      split_ifs at stepped with running
      cases stepped
      rw [condition]
      refine ⟨?_, ?_, ?_⟩
      · exact
          writtenChecked_append.trans (and_congr_right' checked.written)
      · exact fun passes =>
          checked.sound (checked.written.mpr passes)
      · exact
          bootsSurvive_append.trans
            (and_iff_left checked.survives)

/-- What was written stays in the record. -/
theorem written_persists
    (stepped :
      firmwareStep options defaults zeroed state event = some next) :
    ∃ more, next.written = state.written ++ more := by
  cases event with
  | boot environment =>
      cases stepped
      exact ⟨_, rfl⟩
  | apply settings saveErr =>
      rw [firmwareStep] at stepped
      split_ifs at stepped
      cases stepped
      exact ⟨_, rfl⟩

/-- The storage is sound as long as everything that was written passes. -/
def SoundWhileChecked (options : SettingsOptions) (state : Firmware) : Prop :=
  WrittenChecked options state.written → StorageSound options state.storage

theorem soundWhileChecked_step
    (invariant : SoundWhileChecked options state)
    (stepped :
      firmwareStep options defaults zeroed state event = some next) :
    SoundWhileChecked options next := by
  intro checked
  rcases written_persists stepped with ⟨more, appended⟩
  have before : WrittenChecked options state.written := by
    rw [appended] at checked
    exact (writtenChecked_append.mp checked).1
  rcases firmwareStep_checked (invariant before) stepped with
    ⟨written, keeps, _⟩
  exact keeps (written.mp checked).2

/-- The records stay clean exactly over steps that meet the condition. -/
theorem records_step
    (invariant : SoundWhileChecked options state)
    (stepped :
      firmwareStep options defaults zeroed state event = some next) :
    (WrittenChecked options next.written ∧ BootsSurvive next.panics) ↔
      (WrittenChecked options state.written ∧ BootsSurvive state.panics) ∧
        SavesChecked options defaults state event := by
  by_cases before : WrittenChecked options state.written
  · rcases firmwareStep_checked (invariant before) stepped with
      ⟨written, _, survives⟩
    rw [written, survives]
    exact and_right_comm
  · rcases written_persists stepped with ⟨more, appended⟩
    constructor
    · rintro ⟨checked, _⟩
      rw [appended] at checked
      exact absurd (writtenChecked_append.mp checked).1 before
    · rintro ⟨⟨checked, _⟩, _⟩
      exact absurd checked before

end Runs

/--
In every run over a storage without a bad image, the written images pass
`mouseemu_check` and no boot panics on what it loads if and only if every
step saves settings that pass.
-/
theorem persisted_settings_pass_iff
    (options : SettingsOptions) (defaults : GeneratedDefaults)
    (zeroed : KbSettings) (storage : Option StoredItem)
    (events : List FirmwareEvent) (finish : Firmware)
    (sound : StorageSound options storage)
    (ran :
      run (firmwareStep options defaults zeroed) (.off zeroed storage)
          events =
        some finish) :
    (WrittenChecked options finish.written ∧ BootsSurvive finish.panics) ↔
      StepsMeet (firmwareStep options defaults zeroed)
        (SavesChecked options defaults) (.off zeroed storage) events := by
  have fresh :
      WrittenChecked options (Firmware.off zeroed storage).written ∧
        BootsSurvive (Firmware.off zeroed storage).panics := by
    constructor
    · intro image member
      cases member
    · intro fault member
      cases member
  have kept := @soundWhileChecked_step options defaults zeroed
  have exactly := @records_step options defaults zeroed
  exact
    (run_iff_stepsMeet
          (fun _ _ _ invariant stepped => kept invariant stepped)
          (fun _ _ _ invariant stepped => exactly invariant stepped)
          (fun _ => sound) ran).trans
      (and_iff_right fresh)

/-! ## A boot loop -/

/-- Defaults without shortcuts and mouse emulation. -/
def plainDefaults : GeneratedDefaults where
  mappingsLayer1 := plainSettings.mappingsLayer1
  mappingsLayer2 := plainSettings.mappingsLayer2
  mappingsLayer3 := plainSettings.mappingsLayer3
  mouseemu := plainSettings.mouseemu
  fnShortcutsCount := 0
  fnShortcuts := plainSettings.fnShortcuts
  thresholds := plainSettings.thresholds
  minimums := plainSettings.minimums
  maximums := plainSettings.maximums
  deadzones := plainSettings.deadzones
  backlight := plainSettings.backlight

/-- Storage that works and, once it holds an item, delivers it. -/
def workingBoot : BootEnvironment where
  settingsSubsysInit := 0
  settingsRegister := 0
  visits := true
  rlen := 512
  settingsLoadSubtree := 0
  saveErr := 0

/-- Mouse emulation with four directions and no move keys. -/
def brickingSettings : KbSettings :=
  { plainSettings with
    mouseemu := { plainSettings.mouseemu with enabled := true } }

/-- Mouse emulation with four directions and as many move keys. -/
def drivenSettings : KbSettings :=
  { plainSettings with
    mouseemu :=
      { plainSettings.mouseemu with
        enabled := true
        moveKeysCount := 4
        moveKeys := fun index => UInt16.ofNat index } }

/-- An update that passes is saved, and the next boot loads it. -/
theorem driven_update_persists :
    ∃ finish,
      run (firmwareStep exampleOptions plainDefaults plainSettings)
          (.off plainSettings none)
          [.boot workingBoot, .apply (some drivenSettings) 0,
            .boot workingBoot] =
        some finish ∧
      finish.store.kbSettings = drivenSettings ∧
      finish.written =
        [kbSettingsImage plainSettings, kbSettingsImage drivenSettings] ∧
      WrittenChecked exampleOptions finish.written ∧
      BootsSurvive finish.panics := by
  have stored :
      StorageSound exampleOptions none := fun item impossible => by
    cases impossible
  refine ⟨_, rfl, rfl, rfl, ?_⟩
  refine
    (persisted_settings_pass_iff exampleOptions plainDefaults plainSettings
      none
      [.boot workingBoot, .apply (some drivenSettings) 0, .boot workingBoot]
      _ stored rfl).mpr ⟨fun _ _ _ _ _ => rfl, fun booted first => ?_⟩
  cases first
  refine ⟨fun _ _ => rfl, fun updated second => ?_⟩
  cases second
  exact ⟨fun _ _ _ _ _ => rfl, fun _ _ => trivial⟩

/-- An update that does not pass is saved and stops every later boot. -/
theorem bricking_update_persists :
    ¬ ∀ (events : List FirmwareEvent) (finish : Firmware),
      run (firmwareStep exampleOptions plainDefaults plainSettings)
            (.off plainSettings none) events =
          some finish →
        WrittenChecked exampleOptions finish.written ∧
          BootsSurvive finish.panics := by
  intro always
  have survives :=
    (always
        [.boot workingBoot, .apply (some brickingSettings) 0,
          .boot workingBoot]
        _ rfl).2
  apply survives .fourWayRequiresExactly4
  change
    _ ∈
      [Panic.onUpdate .apply .fourWayRequiresExactly4,
        Panic.onUpdate .handlerSet .fourWayRequiresExactly4]
  exact List.mem_cons_of_mem _ List.mem_cons_self

end YkbFirmware.SettingsStore.Persistence
