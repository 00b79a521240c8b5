import YkbFirmware.KbHandler.Transition

/-!
# Pressed keys follow the values

Whatever shortcuts, layers and reports do, `pressed_keys` changes in two ways
only: `process_key_value` sets one entry to the comparison of the value with
the key's threshold, and a slave reset clears the slave entries.
-/

namespace YkbFirmware.KbHandler.PressedKeys

open YkbFirmware.KbHandler.Settings
open YkbFirmware.KbHandler.Report
open YkbFirmware.KbHandler.Core
open YkbFirmware.KbHandler.Frames
open YkbFirmware.KbHandler.Transition

variable {config : KbHandlerConfig} {st : KbhRuntimeState}

/-! ## Functions which move no key -/

/-- The pressed keys and the settings read with them are the same. -/
structure Unmoved (before after : KbhRuntimeState) : Prop where
  pressedKeys : after.pressedKeys = before.pressedKeys
  keys : SameKeys before.settings after.settings

theorem Unmoved.refl (st : KbhRuntimeState) : Unmoved st st :=
  ⟨rfl, .refl _⟩

theorem Unmoved.trans
    {first second third : KbhRuntimeState}
    (earlier : Unmoved first second) (later : Unmoved second third) :
    Unmoved first third :=
  ⟨later.pressedKeys.trans earlier.pressedKeys, earlier.keys.trans later.keys⟩

theorem sendKbReport_unmoved (report : HidKbReport) :
    Unmoved st (sendKbReport st report) := by
  rcases sendKbReport_eq st report with ⟨outputs, same, _⟩
  rw [same]
  exact ⟨rfl, .refl _⟩

theorem reportTransition_unmoved :
    Unmoved st (reportTransition config st) := by
  rw [reportTransition]
  split_ifs
  · exact sendKbReport_unmoved _
  · exact .refl st

theorem sendMouseReportIfChanged_unmoved (nowMs : Int) :
    Unmoved st (sendMouseReportIfChanged st nowMs) := by
  rw [sendMouseReportIfChanged]
  dsimp only
  split_ifs
  · exact ⟨rfl, .refl _⟩
  · exact ⟨rfl, .refl _⟩

theorem sendRaceReportIfChanged_unmoved :
    Unmoved st (sendRaceReportIfChanged config st) := by
  have raced :
      Unmoved st
        { st with
          racePressedKeys := fun key =>
            decide ((raceChoice config st).maxIndex = some key) } :=
    ⟨rfl, .refl _⟩
  exact raced.trans (sendKbReport_unmoved _)

theorem finishValueFrame_unmoved
    (config : KbHandlerConfig) (st : KbhRuntimeState) (nowMs : Int) :
    Unmoved st (finishValueFrame config st nowMs) := by
  apply finishValueFrame_keeps
  · exact fun _ unmoved =>
      unmoved.trans (sendMouseReportIfChanged_unmoved nowMs)
  · exact fun _ unmoved => unmoved.trans sendRaceReportIfChanged_unmoved
  · exact .refl st

/-! ## Key values -/

/-- One key is set to `pressed` and nothing else moves. -/
structure Moved
    (key : Nat) (pressed : Bool) (before after : KbhRuntimeState) : Prop where
  pressedKeys : after.pressedKeys = Function.update before.pressedKeys key pressed
  keys : SameKeys before.settings after.settings

theorem Moved.unmoved
    {key : Nat} {pressed : Bool} {first second third : KbhRuntimeState}
    (moved : Moved key pressed first second) (later : Unmoved second third) :
    Moved key pressed first third :=
  ⟨later.pressedKeys.trans moved.pressedKeys, moved.keys.trans later.keys⟩

theorem notedState_moved
    (st : KbhRuntimeState) (key : Nat) (status : Bool) :
    Moved key status st (notedState st key status) :=
  ⟨rfl, .refl _⟩

theorem processKeyTransition_moved
    (env : KbhEnvironment) (st : KbhRuntimeState) {key : Nat} (status : Bool)
    (inRange : key < config.totalKeyCount) :
    Moved key status st (processKeyTransition config env st key status) := by
  have noted := notedState_moved st key status
  cases passes : shortcutIntercepts st key status with
  | true =>
      rcases processKeyTransition_intercepted env inRange passes with
        ⟨ran, ⟨⟨settings, activeMode, outputs, rfl⟩, keys, _⟩, processed⟩
      rw [processed]
      exact ⟨rfl, keys⟩
  | false =>
      by_cases race : st.activeMode = .race
      · rw [processKeyTransition_race inRange race passes]
        exact noted
      · rw [processKeyTransition_passed inRange race passes]
        cases routedLayers st key status with
        | none => exact noted
        | some layers =>
            have layered :
                Moved key status st
                  (withLayers (notedState st key status) layers) :=
              ⟨rfl, .refl _⟩
            exact layered.unmoved reportTransition_unmoved

/-- `process_key_value` presses a key exactly at its threshold. -/
theorem processKeyValue_moved
    (env : KbhEnvironment) (st : KbhRuntimeState)
    {key : Nat} (value : UInt16)
    (inRange : key < config.totalKeyCount) :
    Moved key (decide (value ≥ st.settings.thresholds key)) st
      (processKeyValue config env st key value).1 := by
  rcases storeKeyValue_eq config st key value with ⟨notified, outputs, same, _⟩
  rw [processKeyValue, if_neg (by omega)]
  dsimp only
  rw [same]
  split_ifs with unchanged
  · refine ⟨?_, .refl _⟩
    rw [← unchanged, Function.update_eq_self]
    rfl
  · have moved :=
      processKeyTransition_moved env
        (withValue st key value notified outputs)
        (decide (value ≥ st.settings.thresholds key)) inRange
    exact ⟨moved.pressedKeys, moved.keys⟩

/-! ## Slave messages -/

/-- The values of some slave keys are processed in order. -/
theorem foldl_processKeyValue
    {env : Nat → KbhEnvironment} {slaveValues : SlaveValues config}
    (indices : List (Fin config.keyCountSlave)) :
    let processed :=
      indices.foldl
        (fun current index =>
          (processKeyValue config (env index.val) current
            (config.keyCount + index.val) (slaveValues index)).1)
        st
    SameKeys st.settings processed.settings ∧
      (∀ index ∈ indices,
        processed.pressedKeys (config.keyCount + index.val) =
          decide
            (slaveValues index ≥
              st.settings.thresholds (config.keyCount + index.val))) ∧
      ∀ index ∉ indices,
        processed.pressedKeys (config.keyCount + index.val) =
          st.pressedKeys (config.keyCount + index.val) := by
  induction indices generalizing st with
  | nil =>
      exact ⟨.refl _, fun _ inside => absurd inside List.not_mem_nil,
        fun _ _ => rfl⟩
  | cons head rest induction =>
      have moved :=
        processKeyValue_moved (env head.val) st (slaveValues head)
          (Nat.add_lt_add_left head.isLt config.keyCount)
      rcases @induction
          (processKeyValue config (env head.val) st
            (config.keyCount + head.val) (slaveValues head)).1 with
        ⟨keys, processed, unprocessed⟩
      refine ⟨moved.keys.trans keys, ?_, ?_⟩
      · intro index inside
        by_cases later : index ∈ rest
        · rw [List.foldl_cons, processed index later, moved.keys.thresholds]
        · have first : index = head :=
            (List.mem_cons.mp inside).resolve_right later
          subst first
          rw [List.foldl_cons, unprocessed index later, moved.pressedKeys,
            Function.update_self]
      · intro index outside
        have away : config.keyCount + index.val ≠ config.keyCount + head.val :=
          fun equal =>
            outside
              (Fin.ext (Nat.add_left_cancel equal) ▸ List.mem_cons_self)
        rw [List.foldl_cons,
          unprocessed index (outside ∘ List.mem_cons_of_mem head),
          moved.pressedKeys, Function.update_of_ne away]

/-- After a values message each slave key compares with its threshold. -/
theorem handleSlaveValues_pressed
    {env : Nat → KbhEnvironment} {nowMs : Int}
    {slaveValues : SlaveValues config} (index : Fin config.keyCountSlave) :
    (handleSlaveValues config env nowMs st slaveValues).pressedKeys
        (config.keyCount + index.val) =
      decide
        (slaveValues index ≥
          st.settings.thresholds (config.keyCount + index.val)) := by
  have slave : config.keyCountSlave ≠ 0 := fun none =>
    absurd index.isLt (by omega)
  rw [handleSlaveValues, if_neg slave]
  dsimp only
  rw [(finishValueFrame_unmoved config _ nowMs).pressedKeys,
    (foldl_processKeyValue _).2.1 index (List.mem_finRange index)]

theorem handleSlaveValues_keys
    {env : Nat → KbhEnvironment} {nowMs : Int}
    {slaveValues : SlaveValues config} :
    SameKeys st.settings
      (handleSlaveValues config env nowMs st slaveValues).settings := by
  rw [handleSlaveValues]
  split_ifs
  · exact .refl _
  · exact
      (foldl_processKeyValue _).1.trans
        (finishValueFrame_unmoved config _ nowMs).keys

/-- A slave reset clears the slave keys. -/
theorem handleSlaveKeysReset_cleared (nowMs : Int) :
    SameKeys st.settings (handleSlaveKeysReset config st nowMs).settings ∧
      (handleSlaveKeysReset config st nowMs).pressedKeys =
        clearSlaveKeys config st.pressedKeys false := by
  by_cases slave : config.keyCountSlave = 0
  · rw [handleSlaveKeysReset, if_pos slave]
    refine ⟨.refl _, funext fun key => ?_⟩
    have notSlave : isSlaveKey config key = false := by
      simp [isSlaveKey, KbHandlerConfig.totalKeyCount, slave]
    rw [clearSlaveKeys, notSlave]
    rfl
  · have reported :
        Unmoved (withoutSlaveKeys config st)
          (handleSlaveKeysReset config st nowMs) := by
      apply handleSlaveKeysReset_keeps slave
      · exact fun _ unmoved =>
          unmoved.trans (sendMouseReportIfChanged_unmoved nowMs)
      · exact fun _ unmoved => unmoved.trans (sendKbReport_unmoved _)
      · exact fun _ unmoved => unmoved.trans sendRaceReportIfChanged_unmoved
      · exact .refl _
    exact ⟨reported.keys, reported.pressedKeys⟩

/-- A slave reset releases every slave key. -/
theorem handleSlaveKeysReset_pressed
    (nowMs : Int) (index : Fin config.keyCountSlave) :
    (handleSlaveKeysReset config st nowMs).pressedKeys
        (config.keyCount + index.val) =
      false := by
  have slave : isSlaveKey config (config.keyCount + index.val) = true := by
    simp [isSlaveKey, KbHandlerConfig.totalKeyCount]
  rw [(handleSlaveKeysReset_cleared nowMs).2, clearSlaveKeys, slave]
  rfl

end YkbFirmware.KbHandler.PressedKeys
