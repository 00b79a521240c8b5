import YkbFirmware.SettingsStore.Store
import YkbFirmware.Backlight.SettingsUpdate

/-!
# Uploads against settings updates

One thread uploads scripts with `ykb_backlight_set_script_slot`, another
applies settings with `kb_settings_apply`.  An upload copies the settings
first, and after it has stored and saved the slot it applies that copy to the
backlight again, if the slot was the active one.  In between, the other thread
may have applied newer settings, or made the slot active whose script it then
loads before the upload stores the new one.

Each locked section and each save is one step.  The callback of an upload that
queues the slot for the other half is left out.
-/

namespace YkbFirmware.Backlight.SettingsRace

open YkbFirmware.Library.TransitionSystem
open YkbFirmware.KbHandler.Settings
open YkbFirmware.KbHandler.SettingsCheck
open YkbFirmware.VendorHid.Protocol
open YkbFirmware.SettingsStore.Store
open YkbFirmware.Backlight.ScriptSlots
open YkbFirmware.Backlight.SettingsUpdate

/-! ## The two threads -/

/-- The build options of both subsystems. -/
structure RaceOptions where
  scripts : ScriptOptions
  settings : SettingsOptions

/-- Where one thread is in `ykb_backlight_set_script_slot`. -/
inductive UploadPhase where
  | idle
  | read (slot : UInt16) (input : ScriptSlot) (snapshot : KbSettings)
  | stored (slot : UInt16) (snapshot : KbSettings)
  | saved (slot : UInt16) (snapshot : KbSettings)

/-- Where the other thread is in `kb_settings_apply`. -/
inductive ApplyPhase where
  | idle
  | stored
  | saved
deriving DecidableEq, Repr

/-- The statics of both modules and the position of the threads. -/
structure Shared where
  settings : KbSettingsStore
  settingsStorage : Option StoredItem
  scripts : ScriptStore
  scriptStorage : ScriptStorage
  backlight : BacklightState
  upload : UploadPhase
  apply : ApplyPhase

inductive RaceEvent where
  | uploadRead (slot : UInt16) (input : Option ScriptSlot)
  | uploadStore
  | uploadSave (saves : Nat → Int)
  | uploadReload (results : VmResults)
  | applyStore (settings : KbSettings)
  | applySave (saveErr : Int)
  | applyCallbacks (results : VmResults)

/-- The settings of an upload's copy, if `reload_active` is set with them. -/
def reloadOf (slot : UInt16) (snapshot : KbSettings) : Option KbSettings :=
  if snapshot.backlight.activeScriptIndex = slot then some snapshot else none

/-- The next step of one of the threads. -/
def raceStep
    (options : RaceOptions) (state : Shared) : RaceEvent → Option Shared
  | .uploadRead slot input =>
      match state.upload, input with
      | .idle, none => some state
      | .idle, some input =>
          if options.scripts.slotCount ≤ slot.toNat then
            some state
          else if options.scripts.scriptSlotSize < input.size.toNat then
            some state
          else
            some
              { state with
                upload := .read slot input state.settings.kbSettings }
      | _, _ => none
  | .uploadStore =>
      match state.upload with
      | .read slot input snapshot =>
          some
            { state with
              scripts := slotReplaced state.scripts slot input
              upload := .stored slot snapshot }
      | _ => none
  | .uploadSave saves =>
      match state.upload with
      | .stored slot snapshot =>
          some
            { state with
              scriptStorage :=
                ykbBacklightSaveScripts options.scripts state.scripts
                  state.scriptStorage saves
              upload := .saved slot snapshot }
      | _ => none
  | .uploadReload results =>
      match state.upload with
      | .saved slot snapshot =>
          some
            { state with
              backlight :=
                match reloadOf slot snapshot with
                | none => state.backlight
                | some settings =>
                    onSettingsUpdate options.scripts state.scripts
                      state.backlight settings results
              upload := .idle }
      | _ => none
  | .applyStore settings =>
      if state.apply = .idle then
        some
          { state with
            settings := storeApplied state.settings settings
            apply := .stored }
      else
        none
  | .applySave saveErr =>
      if state.apply = .stored then
        some
          { state with
            settingsStorage :=
              (kbSettingsSave options.settings state.settings
                state.settingsStorage saveErr).storage
            apply := .saved }
      else
        none
  | .applyCallbacks results =>
      -- another subscriber may panic, and then nothing returns
      if state.apply = .saved ∧
          kbSettingsHandleOnUpdateSnapshot options.settings .apply
              state.settings.notifySnapshot =
            none then
        some
          { state with
            backlight :=
              onSettingsUpdate options.scripts state.scripts state.backlight
                state.settings.notifySnapshot results
            apply := .idle }
      else
        none

/-! ## Steps -/

/-- The steps of both threads, each with the condition it is taken under. -/
inductive RaceStep
    (options : RaceOptions) (state : Shared) :
    RaceEvent → Shared → Prop where
  | uploadRefused {slot : UInt16} {input : Option ScriptSlot}
      (resting : state.upload = .idle) :
      RaceStep options state (.uploadRead slot input) state
  | uploadRead {slot : UInt16} {input : ScriptSlot}
      (resting : state.upload = .idle)
      (inside : slot.toNat < options.scripts.slotCount) :
      RaceStep options state (.uploadRead slot (some input))
        { state with upload := .read slot input state.settings.kbSettings }
  | uploadStore {slot : UInt16} {input : ScriptSlot} {snapshot : KbSettings}
      (phase : state.upload = .read slot input snapshot) :
      RaceStep options state .uploadStore
        { state with
          scripts := slotReplaced state.scripts slot input
          upload := .stored slot snapshot }
  | uploadSave {slot : UInt16} {snapshot : KbSettings} {saves : Nat → Int}
      {storage : ScriptStorage}
      (phase : state.upload = .stored slot snapshot) :
      RaceStep options state (.uploadSave saves)
        { state with
          scriptStorage := storage
          upload := .saved slot snapshot }
  | uploadSkips {slot : UInt16} {snapshot : KbSettings}
      {results : VmResults}
      (phase : state.upload = .saved slot snapshot)
      (inactive : snapshot.backlight.activeScriptIndex ≠ slot) :
      RaceStep options state (.uploadReload results)
        { state with upload := .idle }
  | uploadReload {slot : UInt16} {snapshot : KbSettings}
      {results : VmResults}
      (phase : state.upload = .saved slot snapshot)
      (active : snapshot.backlight.activeScriptIndex = slot) :
      RaceStep options state (.uploadReload results)
        { state with
          backlight :=
            onSettingsUpdate options.scripts state.scripts state.backlight
              snapshot results
          upload := .idle }
  | applyStore {settings : KbSettings} :
      RaceStep options state (.applyStore settings)
        { state with
          settings := storeApplied state.settings settings
          apply := .stored }
  | applySave {saveErr : Int} {storage : Option StoredItem}
      (phase : state.apply = .stored) :
      RaceStep options state (.applySave saveErr)
        { state with settingsStorage := storage, apply := .saved }
  | applyCallbacks {results : VmResults}
      (phase : state.apply = .saved) :
      RaceStep options state (.applyCallbacks results)
        { state with
          backlight :=
            onSettingsUpdate options.scripts state.scripts state.backlight
              state.settings.notifySnapshot results
          apply := .idle }

section Steps

variable
    {options : RaceOptions} {state next : Shared} {event : RaceEvent}

theorem raceStep_cases
    (stepped : raceStep options state event = some next) :
    RaceStep options state event next := by
  cases event with
  | uploadRead slot input =>
      cases phase : state.upload with
      | idle =>
          cases input with
          | none =>
              simp only [raceStep, phase, Option.some.injEq] at stepped
              subst stepped
              exact .uploadRefused phase
          | some input =>
              simp only [raceStep, phase] at stepped
              split_ifs at stepped with outside large
              · cases stepped
                exact .uploadRefused phase
              · cases stepped
                exact .uploadRefused phase
              · cases stepped
                exact .uploadRead phase (Nat.not_le.mp outside)
      | read | stored | saved => simp [raceStep, phase] at stepped
  | uploadStore =>
      cases phase : state.upload with
      | read slot input snapshot =>
          simp only [raceStep, phase, Option.some.injEq] at stepped
          subst stepped
          exact .uploadStore phase
      | idle | stored | saved => simp [raceStep, phase] at stepped
  | uploadSave saves =>
      cases phase : state.upload with
      | stored slot snapshot =>
          simp only [raceStep, phase, Option.some.injEq] at stepped
          subst stepped
          exact .uploadSave phase
      | idle | read | saved => simp [raceStep, phase] at stepped
  | uploadReload results =>
      cases phase : state.upload with
      | saved slot snapshot =>
          simp only [raceStep, phase, Option.some.injEq, reloadOf] at stepped
          by_cases active : snapshot.backlight.activeScriptIndex = slot
          · rw [if_pos active] at stepped
            subst stepped
            exact .uploadReload phase active
          · rw [if_neg active] at stepped
            subst stepped
            exact .uploadSkips phase active
      | idle | read | stored => simp [raceStep, phase] at stepped
  | applyStore settings =>
      simp only [raceStep] at stepped
      split_ifs at stepped
      cases stepped
      exact .applyStore
  | applySave saveErr =>
      simp only [raceStep] at stepped
      split_ifs at stepped with phase
      cases stepped
      exact .applySave phase
  | applyCallbacks results =>
      simp only [raceStep] at stepped
      split_ifs at stepped with phase
      cases stepped
      exact .applyCallbacks phase.1

/-- Uninterrupted, an upload is `ykb_backlight_set_script_slot`. -/
theorem upload_alone
    {slot : UInt16} {input : ScriptSlot} {saves : Nat → Int}
    {results : VmResults}
    (resting : state.upload = .idle)
    (inside : slot.toNat < options.scripts.slotCount)
    (fits : input.size.toNat ≤ options.scripts.scriptSlotSize) :
    let outcome :=
      ykbBacklightSetScriptSlot options.scripts state.settings.kbSettings
        state.scripts state.scriptStorage slot (some input) saves
    run (raceStep options) state
        [.uploadRead slot (some input), .uploadStore, .uploadSave saves,
          .uploadReload results] =
      some
        { state with
          scripts := outcome.store
          scriptStorage := outcome.storage
          backlight :=
            match outcome.reloaded with
            | none => state.backlight
            | some settings =>
                onSettingsUpdate options.scripts outcome.store
                  state.backlight settings results } := by
  simp [raceStep, resting, ykbBacklightSetScriptSlot, reloadOf,
    Nat.not_le.mpr inside, Nat.not_lt.mpr fits]

/-- Uninterrupted, an update is `kb_settings_apply`. -/
theorem apply_alone
    {settings : KbSettings} {saveErr : Int} {results : VmResults}
    (resting : state.apply = .idle)
    (returns :
      kbSettingsHandleOnUpdateSnapshot options.settings .apply settings =
        none) :
    let applied :=
      kbSettingsApply options.settings state.settings state.settingsStorage
        (some settings) saveErr
    run (raceStep options) state
        [.applyStore settings, .applySave saveErr, .applyCallbacks results] =
      some
        { state with
          settings := applied.store
          settingsStorage := applied.storage
          backlight :=
            onSettingsUpdate options.scripts state.scripts state.backlight
              settings results } := by
  simp [raceStep, resting, kbSettingsApply, storeApplied, returns]

end Steps

/-! ## Following the settings -/

/-- The script that runs is the one the current settings select. -/
def RunsCurrentScript (options : RaceOptions) (state : Shared) : Prop :=
  state.backlight.scriptLoaded = true →
    ∃ slot,
      scriptToLoad options.scripts state.scripts
          state.settings.kbSettings =
        some slot ∧
      state.backlight.vmScript = some (scriptOf slot)

/-- The backlight runs with the current settings and their script. -/
structure FollowsSettings
    (options : RaceOptions) (state : Shared) : Prop where
  fields : SameFields state.backlight state.settings.kbSettings
  script : RunsCurrentScript options state

/-- No call is under way. -/
structure Resting (state : Shared) : Prop where
  upload : state.upload = .idle
  apply : state.apply = .idle

/-- What holds of the two threads at any time. -/
structure Coherent (options : RaceOptions) (state : Shared) : Prop where
  ready : state.backlight.initSuccess = true
  notify :
    state.apply ≠ .idle →
      state.settings.notifySnapshot = state.settings.kbSettings
  inside :
    ∀ slot input snapshot, state.upload = .read slot input snapshot →
      slot.toNat < options.scripts.slotCount

/-- The copy an upload that has stored its slot will apply again. -/
def UploadPhase.pendingReload : UploadPhase → Option KbSettings
  | .stored slot snapshot | .saved slot snapshot => reloadOf slot snapshot
  | .idle | .read .. => none

/-- The two agree in what `on_settings_update` takes over. -/
structure AgreeOnFields (first second : YkbBacklightSettings) : Prop where
  speed : first.speed = second.speed
  brightness : first.brightness = second.brightness
  on : first.on = second.on
  sleepTime : first.threadSleepMs = second.threadSleepMs

/-- A step from which on the fields are others, or other ones are due. -/
def SetsFields (state : Shared) : RaceEvent → Prop
  | .applyStore _ | .applyCallbacks _ => True
  | .uploadReload _ => state.upload.pendingReload.isSome = true
  | _ => False

/--
No upload applies a copy whose fields have changed since, unless the other
thread is about to apply the current settings anyway.
-/
def FieldsCurrent (state : Shared) : RaceEvent → Prop
  | .uploadReload _ =>
      state.apply = .idle →
        ∀ snapshot, state.upload.pendingReload = some snapshot →
          AgreeOnFields snapshot.backlight state.settings.kbSettings.backlight
  | _ => True

/--
A step from which on the VM or the active slot has another script, or another
one is due.
-/
def SetsScript (state : Shared) : RaceEvent → Prop
  | .applyStore _ | .applyCallbacks _ => True
  | .uploadReload _ => state.upload.pendingReload.isSome = true
  | .uploadStore =>
      ∃ slot input snapshot,
        state.upload = .read slot input snapshot ∧
          (snapshot.backlight.activeScriptIndex = slot ∨
            state.settings.kbSettings.backlight.activeScriptIndex = slot)
  | _ => False

/--
Unless the other thread is about to apply the current settings: no upload
loads another script than the settings select now, and none that will not load
it stores another script into the active slot than the one that runs.
-/
def ScriptCurrent
    (options : RaceOptions) (state : Shared) : RaceEvent → Prop
  | .uploadReload results =>
      state.apply = .idle →
        ∀ snapshot, state.upload.pendingReload = some snapshot →
          results.Succeed →
            ∀ loaded,
              scriptToLoad options.scripts state.scripts snapshot =
                  some loaded →
                ∃ slot,
                  scriptToLoad options.scripts state.scripts
                      state.settings.kbSettings =
                    some slot ∧
                  scriptOf loaded = scriptOf slot
  | .uploadStore =>
      state.apply = .idle →
        ∀ slot input snapshot, state.upload = .read slot input snapshot →
          snapshot.backlight.activeScriptIndex ≠ slot →
            state.backlight.scriptLoaded = true →
              input.occupied = true ∧ input.size ≠ 0 ∧
                state.backlight.vmScript = some (scriptOf input)
  | _ => True

section Follow

variable
    {options : RaceOptions} {state next : Shared} {event : RaceEvent}
    {slot : UInt16} {snapshot : KbSettings}

theorem Resting.coherent
    (resting : Resting state) (ready : state.backlight.initSuccess = true) :
    Coherent options state where
  ready := ready
  notify := fun busy => absurd resting.apply busy
  inside := fun _ _ _ phase => by rw [resting.upload] at phase; cases phase

theorem Resting.nonePending (resting : Resting state) :
    state.upload.pendingReload = none := by
  rw [resting.upload]
  rfl

/-- Any step of either thread keeps what holds at any time. -/
theorem coherent_step
    (coherent : Coherent options state)
    (stepped : raceStep options state event = some next) :
    Coherent options next := by
  have ready := coherent.ready
  have notify := coherent.notify
  cases raceStep_cases stepped with
  | uploadRefused => exact coherent
  | uploadRead resting inside =>
      exact ⟨ready, notify, fun _ _ _ phase => by cases phase; exact inside⟩
  | uploadStore | uploadSave | uploadSkips =>
      exact ⟨ready, notify, fun _ _ _ phase => by cases phase⟩
  | uploadReload =>
      exact
        ⟨by simpa using ready, notify, fun _ _ _ phase => by cases phase⟩
  | applyStore => exact ⟨ready, fun _ => rfl, coherent.inside⟩
  | applySave phase =>
      exact ⟨ready, fun _ => notify (by simp [phase]), coherent.inside⟩
  | applyCallbacks =>
      exact
        ⟨by simpa using ready, fun busy => absurd rfl busy, coherent.inside⟩

/-! ## Fields -/

/-- Unless an update is under way, the fields are the current ones. -/
def FieldsFollow (state : Shared) : Prop :=
  state.apply = .idle →
    SameFields state.backlight state.settings.kbSettings

/-- With the fields of one copy, the backlight has those of another. -/
theorem sameFields_iff_agree
    {backlight : BacklightState} {first second : KbSettings}
    (same : SameFields backlight first) :
    SameFields backlight second ↔
      AgreeOnFields first.backlight second.backlight := by
  constructor
  · rintro ⟨speed, brightness, on, sleepTime⟩
    exact
      ⟨same.speed.symm.trans speed, same.brightness.symm.trans brightness,
        same.on.symm.trans on, same.sleepTime.symm.trans sleepTime⟩
  · rintro ⟨speed, brightness, on, sleepTime⟩
    exact
      ⟨same.speed.trans speed, same.brightness.trans brightness,
        same.on.trans on, same.sleepTime.trans sleepTime⟩

theorem pendingReload_saved
    (phase : state.upload = .saved slot snapshot)
    (active : snapshot.backlight.activeScriptIndex = slot) :
    state.upload.pendingReload = some snapshot := by
  rw [phase, UploadPhase.pendingReload, reloadOf, if_pos active]

theorem pendingReload_inactive
    (phase : state.upload = .saved slot snapshot)
    (inactive : snapshot.backlight.activeScriptIndex ≠ slot) :
    state.upload.pendingReload = none := by
  rw [phase, UploadPhase.pendingReload, reloadOf, if_neg inactive]

/-- A step that sets the fields decides whether they follow. -/
theorem fields_settled
    (coherent : Coherent options state) (sets : SetsFields state event)
    (stepped : raceStep options state event = some next) :
    FieldsFollow next ↔ FieldsCurrent state event := by
  cases raceStep_cases stepped with
  | uploadRefused | uploadRead | uploadStore | uploadSave | applySave =>
      exact sets.elim
  | uploadSkips phase inactive =>
      rw [SetsFields, pendingReload_inactive phase inactive] at sets
      cases sets
  | @uploadReload slot snapshot results phase active =>
      rw [FieldsFollow, FieldsCurrent, pendingReload_saved phase active]
      apply imp_congr_right
      intro _
      have taken :
          SameFields
            (onSettingsUpdate options.scripts state.scripts state.backlight
              snapshot results)
            snapshot :=
        onSettingsUpdate_sameFields coherent.ready
      constructor
      · rintro same other ⟨⟩
        exact (sameFields_iff_agree taken).mp same
      · exact fun agree =>
          (sameFields_iff_agree taken).mpr (agree snapshot rfl)
  | applyStore =>
      exact iff_of_true (fun impossible => by cases impossible) trivial
  | applyCallbacks phase =>
      have current := coherent.notify (by simp [phase])
      refine iff_of_true (fun _ => ?_) trivial
      dsimp only
      rw [← current]
      exact onSettingsUpdate_sameFields coherent.ready

/-- Other steps leave the fields and the settings alone. -/
theorem fields_left
    (keeps : ¬ SetsFields state event)
    (stepped : raceStep options state event = some next) :
    FieldsFollow next ↔ FieldsFollow state := by
  cases raceStep_cases stepped with
  | uploadRefused | uploadRead | uploadStore | uploadSave | uploadSkips =>
      exact Iff.rfl
  | uploadReload phase active =>
      refine absurd ?_ keeps
      rw [SetsFields, pendingReload_saved phase active]
      rfl
  | applyStore | applyCallbacks => exact absurd trivial keeps
  | applySave phase =>
      exact
        iff_of_true (fun impossible => by cases impossible)
          fun resting => by rw [phase] at resting; cases resting

/-! ## Scripts -/

/-- Unless an update is under way or due, the script is the current one. -/
def ScriptFollows (options : RaceOptions) (state : Shared) : Prop :=
  state.apply = .idle → state.upload.pendingReload = none →
    RunsCurrentScript options state

/-- After an update with a copy, the script is the current one if it would be. -/
theorem runsCurrentScript_reload_iff
    {before : BacklightState} {results : VmResults}
    (ready : before.initSuccess = true)
    (updated :
      next.backlight =
        onSettingsUpdate options.scripts next.scripts before snapshot
          results) :
    RunsCurrentScript options next ↔
      (results.Succeed →
        ∀ loaded,
          scriptToLoad options.scripts next.scripts snapshot = some loaded →
            ∃ slot,
              scriptToLoad options.scripts next.scripts
                  next.settings.kbSettings =
                some slot ∧
              scriptOf loaded = scriptOf slot) := by
  have runs_iff :
      next.backlight.scriptLoaded = true ↔
        (scriptToLoad options.scripts next.scripts snapshot).isSome = true ∧
          results.Succeed := by
    rw [updated]
    exact onSettingsUpdate_scriptLoaded ready
  have script (runs : next.backlight.scriptLoaded = true) :
      next.backlight.vmScript =
        (scriptToLoad options.scripts next.scripts snapshot).map
          scriptOf := by
    rw [updated] at runs ⊢
    exact onSettingsUpdate_vmScript runs ready
  rw [RunsCurrentScript]
  constructor
  · intro current succeed loaded found
    have runs := runs_iff.mpr ⟨by rw [found]; rfl, succeed⟩
    rcases current runs with ⟨slot, selected, same⟩
    rw [script runs, found] at same
    exact ⟨slot, selected, Option.some.inj same⟩
  · intro same runs
    rcases runs_iff.mp runs with ⟨present, succeed⟩
    rcases Option.isSome_iff_exists.mp present with ⟨loaded, found⟩
    rcases same succeed loaded found with ⟨slot, selected, scripts⟩
    refine ⟨slot, selected, ?_⟩
    rw [script runs, found, Option.map_some, scripts]

/-- After the store into the active slot, the script is the stored one. -/
theorem runsCurrentScript_store_iff
    {input : ScriptSlot} {phase : UploadPhase}
    (selects : state.settings.kbSettings.backlight.activeScriptIndex = slot)
    (inside : slot.toNat < options.scripts.slotCount) :
    RunsCurrentScript options
        { state with
          scripts := slotReplaced state.scripts slot input
          upload := phase } ↔
      (state.backlight.scriptLoaded = true →
        input.occupied = true ∧ input.size ≠ 0 ∧
          state.backlight.vmScript = some (scriptOf input)) := by
  apply imp_congr_right
  intro _
  constructor
  · rintro ⟨found, selected, script⟩
    rw [scriptToLoad_eq_some, selects, slotReplaced_scriptSlots] at selected
    rcases selected with ⟨_, rfl, occupied, used⟩
    exact ⟨occupied, used, script⟩
  · rintro ⟨occupied, used, script⟩
    refine ⟨input, ?_, script⟩
    rw [scriptToLoad_eq_some, selects, slotReplaced_scriptSlots]
    exact ⟨inside, rfl, occupied, used⟩

/-- A step that sets a script decides whether it follows. -/
theorem script_settled
    (coherent : Coherent options state) (sets : SetsScript state event)
    (stepped : raceStep options state event = some next) :
    ScriptFollows options next ↔ ScriptCurrent options state event := by
  cases raceStep_cases stepped with
  | uploadRefused | uploadRead | uploadSave | applySave => exact sets.elim
  | uploadSkips phase inactive =>
      rw [SetsScript, pendingReload_inactive phase inactive] at sets
      cases sets
  | @uploadReload slot snapshot results phase active =>
      rw [ScriptFollows, ScriptCurrent, pendingReload_saved phase active]
      apply imp_congr_right
      intro _
      refine Iff.trans (imp_iff_right rfl) ?_
      refine Iff.trans (runsCurrentScript_reload_iff coherent.ready rfl) ?_
      constructor
      · rintro runs other ⟨⟩
        exact runs
      · exact fun runs => runs snapshot rfl
  | applyStore =>
      exact iff_of_true (fun impossible => by cases impossible) trivial
  | applyCallbacks phase =>
      have current := coherent.notify (by simp [phase])
      refine iff_of_true (fun _ _ => ?_) trivial
      refine (runsCurrentScript_reload_iff coherent.ready rfl).mpr ?_
      intro _ loaded found
      rw [← current]
      exact ⟨loaded, found, rfl⟩
  | @uploadStore slot input snapshot phase =>
      rw [ScriptFollows, ScriptCurrent]
      apply imp_congr_right
      intro _
      by_cases active : snapshot.backlight.activeScriptIndex = slot
      · have pending :
            (UploadPhase.stored slot snapshot).pendingReload =
              some snapshot :=
          if_pos active
        rw [pending]
        refine iff_of_true (fun impossible => by cases impossible) ?_
        intro other _ copy same inactive
        cases phase.symm.trans same
        exact absurd active inactive
      · have none :
            (UploadPhase.stored slot snapshot).pendingReload = none :=
          if_neg active
        rw [imp_iff_right none]
        have selects :
            state.settings.kbSettings.backlight.activeScriptIndex = slot := by
          rcases sets with ⟨_, _, _, same, reloads | selects⟩
          · cases phase.symm.trans same
            exact absurd reloads active
          · cases phase.symm.trans same
            exact selects
        have inside := coherent.inside slot input snapshot phase
        refine Iff.trans (runsCurrentScript_store_iff selects inside) ?_
        constructor
        · intro same other _ copy read _
          cases phase.symm.trans read
          exact same
        · exact fun same => same slot input snapshot phase active

/-- Storing a slot that is not active changes no script that is selected. -/
theorem scriptToLoad_slotReplaced
    {scripts : ScriptOptions} {store : ScriptStore} {settings : KbSettings}
    {input : ScriptSlot}
    (inactive : settings.backlight.activeScriptIndex ≠ slot) :
    scriptToLoad scripts (slotReplaced store slot input) settings =
      scriptToLoad scripts store settings := by
  have away :
      settings.backlight.activeScriptIndex.toNat ≠ slot.toNat :=
    fun same => inactive (UInt16.toNat_inj.mp same)
  have same :
      (slotReplaced store slot input).scriptSlots
          settings.backlight.activeScriptIndex.toNat =
        store.scriptSlots settings.backlight.activeScriptIndex.toNat :=
    Function.update_of_ne away _ _
  simp only [scriptToLoad, same]

/-- Other steps leave the script and the active slot alone. -/
theorem script_left
    (keeps : ¬ SetsScript state event)
    (stepped : raceStep options state event = some next) :
    ScriptFollows options next ↔ ScriptFollows options state := by
  cases raceStep_cases stepped with
  | uploadRefused => exact Iff.rfl
  | uploadRead resting =>
      rw [ScriptFollows, ScriptFollows, resting]
      exact Iff.rfl
  | uploadSave phase =>
      rw [ScriptFollows, ScriptFollows, phase]
      exact Iff.rfl
  | uploadSkips phase inactive =>
      rw [ScriptFollows, ScriptFollows,
        pendingReload_inactive phase inactive]
      exact Iff.rfl
  | uploadReload phase active =>
      refine absurd ?_ keeps
      rw [SetsScript, pendingReload_saved phase active]
      rfl
  | applyStore | applyCallbacks => exact absurd trivial keeps
  | applySave phase =>
      exact
        iff_of_true (fun impossible => by cases impossible)
          fun resting => by rw [phase] at resting; cases resting
  | @uploadStore slot input snapshot phase =>
      have inactive :
          snapshot.backlight.activeScriptIndex ≠ slot := fun active =>
        keeps ⟨slot, input, snapshot, phase, Or.inl active⟩
      have elsewhere :
          state.settings.kbSettings.backlight.activeScriptIndex ≠ slot :=
        fun active =>
          keeps ⟨slot, input, snapshot, phase, Or.inr active⟩
      have none :
          (UploadPhase.stored slot snapshot).pendingReload = none :=
        if_neg inactive
      rw [ScriptFollows, ScriptFollows, RunsCurrentScript,
        scriptToLoad_slotReplaced elsewhere, phase]
      exact
        ⟨fun follows resting _ => follows resting none,
          fun follows resting _ => follows resting rfl⟩

end Follow

/--
When all calls have returned, an initialised backlight follows the current
settings if and only if the last step that set the fields was not the
re-application of a copy with other fields, and the last step that set a
script neither loaded nor stored another one than the settings select, each
time with no update of the other thread under way.  With no such step at all,
what held at the start decides.
-/
theorem backlight_follows_settings_iff
    (options : RaceOptions) (start finish : Shared)
    (ready : start.backlight.initSuccess = true) (starts : Resting start)
    (events : List RaceEvent)
    (ran : run (raceStep options) start events = some finish)
    (returned : Resting finish) :
    FollowsSettings options finish ↔
      LastMeets (raceStep options) SetsFields FieldsCurrent
          (SameFields start.backlight start.settings.kbSettings) start
          events ∧
        LastMeets (raceStep options) SetsScript (ScriptCurrent options)
          (RunsCurrentScript options start) start events := by
  have fields :=
    run_iff_lastMeets_of_invariant
      (fun _ _ _ => @coherent_step options _ _ _)
      (fun _ _ _ => @fields_settled options _ _ _)
      (fun _ _ _ _ => @fields_left options _ _ _) (starts.coherent ready)
      (imp_iff_right starts.apply) ran
  have script :=
    run_iff_lastMeets_of_invariant
      (fun _ _ _ => @coherent_step options _ _ _)
      (fun _ _ _ => @script_settled options _ _ _)
      (fun _ _ _ _ => @script_left options _ _ _) (starts.coherent ready)
      ((imp_iff_right starts.apply).trans
        (imp_iff_right starts.nonePending))
      ran
  rw [← fields, ← script]
  constructor
  · exact fun follows =>
      ⟨fun _ => follows.fields, fun _ _ => follows.script⟩
  · exact fun follows =>
      ⟨follows.1 returned.apply,
        follows.2 returned.apply returned.nonePending⟩

/-! ## Two interleavings -/

/-- Eight keys and four slots of two bytes. -/
def raceOptions : RaceOptions where
  scripts := tinyOptions
  settings := exampleOptions

/-- A script of two bytes. -/
def twoByteScript (last : UInt8) : ScriptSlot where
  occupied := true
  size := 2
  name := []
  bytecode := [0, last]

/-- Slot 0 is active and runs; slot 1 holds the same script. -/
def running : Shared where
  settings :=
    { kbSettings := plainSettings
      settingsRegistered := true
      successfullyLoaded := true
      notifySnapshot := plainSettings }
  settingsStorage := none
  scripts :=
    { scriptSlots := fun _ => twoByteScript 0
      scriptsRegistered := true
      scriptsLoaded := true
      scriptSlotUpdateCb := false }
  scriptStorage := fun _ => none
  backlight :=
    { initSuccess := true
      scriptLoaded := true
      curSpeed := 1
      threadSleepTime := 5
      curBrightness := 1
      on := false
      vmScript := some [0, 0] }
  upload := .idle
  apply := .idle

theorem running_follows : FollowsSettings raceOptions running where
  fields := ⟨rfl, rfl, rfl, rfl⟩
  script := fun _ => ⟨twoByteScript 0, rfl, rfl⟩

/-- The settings with the LEDs switched on. -/
def litSettings : KbSettings :=
  { plainSettings with
    backlight := { plainSettings.backlight with on := true } }

/-- The settings with slot 1 active. -/
def otherSlotSettings : KbSettings :=
  { plainSettings with
    backlight := { plainSettings.backlight with activeScriptIndex := 1 } }

/-- An upload of slot 0 re-applies its copy while an update is being saved. -/
def uploadDuringUpdate : List RaceEvent :=
  [.uploadRead 0 (some (twoByteScript 1)), .uploadStore,
    .uploadSave fun _ => 0, .applyStore litSettings, .uploadReload ⟨0, 0⟩,
    .applySave 0] ++
  [.applyCallbacks ⟨0, 0⟩]

/-- The update comes last, with the new script. -/
theorem upload_during_update_follows :
    ∃ finish,
      run (raceStep raceOptions) running uploadDuringUpdate = some finish ∧
        Resting finish ∧ finish.backlight.on = true ∧
        finish.backlight.vmScript = some [0, 1] ∧
        FollowsSettings raceOptions finish := by
  refine ⟨_, rfl, ⟨rfl, rfl⟩, rfl, rfl, ?_⟩
  refine
    (backlight_follows_settings_iff raceOptions running _ rfl ⟨rfl, rfl⟩
      uploadDuringUpdate rfl ⟨rfl, rfl⟩).mpr ⟨?_, ?_⟩
  · exact lastMeets_concat fun _ _ => ⟨trivial, trivial⟩
  · exact lastMeets_concat fun _ _ => ⟨trivial, trivial⟩

/--
The LEDs that are switched on while an upload is being saved are switched off
again by it; and a slot that is made active just before its new script is
stored goes on with the old one.
-/
theorem upload_undoes_update :
    FollowsSettings raceOptions running ∧
      (¬ ∀ events finish,
        run (raceStep raceOptions) running events = some finish →
          Resting finish →
            SameFields finish.backlight finish.settings.kbSettings) ∧
      ¬ ∀ events finish,
        run (raceStep raceOptions) running events = some finish →
          Resting finish → RunsCurrentScript raceOptions finish := by
  refine ⟨running_follows, ?_, ?_⟩
  · intro always
    have same :=
      always
        [.uploadRead 0 (some (twoByteScript 1)), .uploadStore,
          .applyStore litSettings, .applySave 0, .applyCallbacks ⟨0, 0⟩,
          .uploadSave fun _ => 0, .uploadReload ⟨0, 0⟩]
        _ rfl ⟨rfl, rfl⟩
    exact absurd (same.on : false = true) (by decide)
  · intro always
    have runs :=
      always
        [.uploadRead 1 (some (twoByteScript 1)),
          .applyStore otherSlotSettings, .applySave 0,
          .applyCallbacks ⟨0, 0⟩, .uploadStore, .uploadSave fun _ => 0,
          .uploadReload ⟨0, 0⟩]
        _ rfl ⟨rfl, rfl⟩
    rcases runs rfl with ⟨slot, selected, script⟩
    have stored : twoByteScript 1 = slot := Option.some.inj selected
    rw [← stored] at script
    have old : [0, 0] = scriptOf (twoByteScript 1) := Option.some.inj script
    exact absurd old (by decide)

end YkbFirmware.Backlight.SettingsRace
