import YkbFirmware.KbHandler.Coalescing
import YkbFirmware.KbHandler.KeyEvents

/-!
# Slave resets and released keys

A slave reset clears the slave halves of four arrays and reports.  Is that
the same as releasing every slave key?

The pressed keys and the current values end up alike.  The rest of what
`process_key_transition` and `notify_value_if_changed` do for a release is
left out: no subscriber hears of it, consumed keys stay consumed and layers
stay on.  The two agree exactly if there is nothing to release.
-/

namespace YkbFirmware.KbHandler.ResetRelease

open YkbFirmware.Library.TransitionSystem
open YkbFirmware.KbHandler.Settings
open YkbFirmware.KbHandler.Core
open YkbFirmware.KbHandler.Frames
open YkbFirmware.KbHandler.Transition
open YkbFirmware.KbHandler.PressedKeys
open YkbFirmware.KbHandler.KeyValues
open YkbFirmware.KbHandler.KeyEvents
open YkbFirmware.KbHandler.Coalescing

/-! ## Releasing keys -/

section Definitions

variable
    (config : KbHandlerConfig) (env : Nat → KbhEnvironment)
    (st : KbhRuntimeState) (nowMs : Int)

def slaveKeys : List Nat :=
  List.range' config.keyCount config.keyCountSlave

/-- Value 0 is processed for some keys in order. -/
def releaseKeys (keys : List Nat) : KbhRuntimeState :=
  keys.foldl
    (fun current key => (processKeyValue config (env key) current key 0).1) st

/-- A slave reset agrees with value 0 for every slave key. -/
structure Agrees : Prop where
  pressedKeys :
    (handleSlaveKeysReset config st nowMs).pressedKeys =
      (releaseKeys config env st (slaveKeys config)).pressedKeys
  currentValues :
    (handleSlaveKeysReset config st nowMs).currentValues =
      (releaseKeys config env st (slaveKeys config)).currentValues
  shortcutConsumedKeys :
    (handleSlaveKeysReset config st nowMs).shortcutConsumedKeys =
      (releaseKeys config env st (slaveKeys config)).shortcutConsumedKeys
  secondLayerActive :
    (handleSlaveKeysReset config st nowMs).secondLayerActive =
      (releaseKeys config env st (slaveKeys config)).secondLayerActive
  thirdLayerActive :
    (handleSlaveKeysReset config st nowMs).thirdLayerActive =
      (releaseKeys config env st (slaveKeys config)).thirdLayerActive
  events : ∀ key, isSlaveKey config key = true →
    st.pressedKeys key = true →
      .onEvent key false ∈
        (handleSlaveKeysReset config st nowMs).outputs.drop st.outputs.length
  values : ∀ key, isSlaveKey config key = true →
    st.notifiedPressPercent key ≠ 0 →
      .onNewValue key 0 ∈
        (handleSlaveKeysReset config st nowMs).outputs.drop st.outputs.length

/-- No slave key is pressed or told to be pressed by any percentage. -/
structure NothingHeld : Prop where
  pressed : ∀ key, isSlaveKey config key = true → st.pressedKeys key = false
  told : ∀ key, isSlaveKey config key = true → st.notifiedPressPercent key = 0

/-- Value 0 presses no slave key. -/
def ReleasedAtZero (settings : KbSettings) : Prop :=
  ∀ key, isSlaveKey config key = true → 1 ≤ settings.thresholds key

end Definitions

section Releases

variable
    {config : KbHandlerConfig} {env : Nat → KbhEnvironment}
    {st next : KbhRuntimeState} {key : Nat} {keys : List Nat} {nowMs : Int}

theorem mem_slaveKeys : key ∈ slaveKeys config ↔ isSlaveKey config key = true := by
  rw [slaveKeys, List.mem_range'_1, isSlaveKey, decide_eq_true_eq]
  rfl

theorem inRange_of_isSlaveKey (slave : isSlaveKey config key = true) :
    key < config.totalKeyCount :=
  (of_decide_eq_true slave).2

theorem reached_zero (threshold : 1 ≤ st.settings.thresholds key) :
    reached st key 0 = false := by
  apply decide_eq_false
  rw [ge_iff_le, UInt16.not_le]
  exact UInt16.lt_of_lt_of_le (by decide) threshold

/-- What a release does to the three arrays. -/
theorem release_one
    (inRange : key < config.totalKeyCount)
    (threshold : 1 ≤ st.settings.thresholds key) (one : KbhEnvironment) :
    let released := (processKeyValue config one st key 0).1
    (∀ other, released.pressedKeys other =
        if key = other then false else st.pressedKeys other) ∧
      (∀ other, released.currentValues other =
        if key = other then 0 else st.currentValues other) ∧
      ∀ other, released.shortcutConsumedKeys other =
        if key = other ∧ st.pressedKeys other = true then
          false
        else
          st.shortcutConsumedKeys other := by
  have step := @processKeyValue_step config st key 0 one
  have up := reached_zero threshold
  refine ⟨fun other => ?_, fun other => ?_, fun other => ?_⟩
  · rw [keyValue_pressed_apply, up]
    simp only [inRange, and_true]
  · rw [keyValue_currentValues inRange step, Function.update_apply]
    simp only [eq_comm]
  · rw [keyValue_consumed_apply step, up]
    by_cases same : key = other
    · subst same
      simp [inRange]
    · simp [same]

/-- What releasing some keys does to the three arrays. -/
theorem releaseKeys_arrays
    (inRange : ∀ key ∈ keys, key < config.totalKeyCount)
    (thresholds : ∀ key ∈ keys, 1 ≤ st.settings.thresholds key) :
    (∀ other, (releaseKeys config env st keys).pressedKeys other =
        if other ∈ keys then false else st.pressedKeys other) ∧
      (∀ other, (releaseKeys config env st keys).currentValues other =
        if other ∈ keys then 0 else st.currentValues other) ∧
      ∀ other, (releaseKeys config env st keys).shortcutConsumedKeys other =
        if other ∈ keys ∧ st.pressedKeys other = true then
          false
        else
          st.shortcutConsumedKeys other := by
  induction keys generalizing st with
  | nil => simp [releaseKeys]
  | cons key rest induction =>
      have headInRange := inRange key List.mem_cons_self
      rcases release_one headInRange (thresholds key List.mem_cons_self)
          (env key) with
        ⟨pressed, current, consumed⟩
      have same :=
        (processKeyValue_moved (env key) st 0 headInRange).keys.thresholds
      rcases @induction (processKeyValue config (env key) st key 0).1
          (fun other member => inRange other (List.mem_cons_of_mem key member))
          (fun other member => by
            rw [same]
            exact thresholds other (List.mem_cons_of_mem key member)) with
        ⟨pressedRest, currentRest, consumedRest⟩
      refine ⟨fun other => ?_, fun other => ?_, fun other => ?_⟩
      · rw [releaseKeys, List.foldl_cons, ← releaseKeys, pressedRest, pressed]
        simp only [List.mem_cons]
        by_cases head : key = other
        · simp [head]
        · simp [head, Ne.symm head]
      · rw [releaseKeys, List.foldl_cons, ← releaseKeys, currentRest, current]
        simp only [List.mem_cons]
        by_cases head : key = other
        · simp [head]
        · simp [head, Ne.symm head]
      · rw [releaseKeys, List.foldl_cons, ← releaseKeys, consumedRest,
          consumed, pressed]
        simp only [List.mem_cons]
        by_cases head : key = other
        · simp [head]
        · simp [head, Ne.symm head]

/-- Keys that are up stay up, and nothing but the value is stored. -/
theorem releaseKeys_unpressed
    (thresholds : ∀ key ∈ keys, 1 ≤ st.settings.thresholds key)
    (up : ∀ key ∈ keys, st.pressedKeys key = false) :
    (releaseKeys config env st keys).secondLayerActive =
        st.secondLayerActive ∧
      (releaseKeys config env st keys).thirdLayerActive =
        st.thirdLayerActive := by
  induction keys generalizing st with
  | nil => exact ⟨rfl, rfl⟩
  | cons key rest induction =>
      rw [releaseKeys, List.foldl_cons, ← releaseKeys]
      by_cases inRange : key < config.totalKeyCount
      · have steady :
            (processKeyValue config (env key) st key 0).1 =
              storeKeyValue config st key 0 := by
          have same :
              st.pressedKeys key =
                decide ((0 : UInt16) ≥ st.settings.thresholds key) :=
            (up key List.mem_cons_self).trans
              (reached_zero (thresholds key List.mem_cons_self)).symm
          rw [processKeyValue, if_neg inRange.not_ge]
          dsimp only
          rw [if_pos same]
        rcases storeKeyValue_eq config st key 0 with ⟨_, _, stored, _⟩
        rw [steady, stored]
        exact
          induction
            (fun other member =>
              thresholds other (List.mem_cons_of_mem key member))
            (fun other member => up other (List.mem_cons_of_mem key member))
      · have outside : (processKeyValue config (env key) st key 0).1 = st := by
          rw [processKeyValue, if_pos (Nat.not_lt.mp inRange)]
        rw [outside]
        exact
          induction
            (fun other member =>
              thresholds other (List.mem_cons_of_mem key member))
            (fun other member => up other (List.mem_cons_of_mem key member))

/-! ## The reset -/

/-- A reset tells no subscriber of a key. -/
theorem handleSlaveKeysReset_quiet :
    Quiet st (handleSlaveKeysReset config st nowMs) := by
  by_cases slave : config.keyCountSlave = 0
  · rw [handleSlaveKeysReset, if_pos slave]
    exact ⟨[], (List.append_nil _).symm, by simp⟩
  · apply handleSlaveKeysReset_keeps slave
    · exact fun _ quiet => quiet.sendMouseReportIfChanged nowMs
    · exact fun _ quiet => quiet.sendKbReport _
    · exact fun _ quiet => quiet.sendRaceReportIfChanged
    · exact ⟨[], (List.append_nil _).symm, by simp⟩

/-- No notification of a key is among the calls of a reset. -/
theorem unheard_of_reset
    {output : KbhOutput}
    (called :
      output ∈
        (handleSlaveKeysReset config st nowMs).outputs.drop
          st.outputs.length) :
    Unheard output := by
  rcases @handleSlaveKeysReset_quiet config st nowMs with
    ⟨rest, outputs, unheard⟩
  rw [outputs, List.drop_left] at called
  exact unheard output called

theorem handleSlaveKeysReset_fields :
    (handleSlaveKeysReset config st nowMs).currentValues =
        clearSlaveKeys config st.currentValues 0 ∧
      (handleSlaveKeysReset config st nowMs).shortcutConsumedKeys =
        st.shortcutConsumedKeys ∧
      (handleSlaveKeysReset config st nowMs).secondLayerActive =
        st.secondLayerActive ∧
      (handleSlaveKeysReset config st nowMs).thirdLayerActive =
        st.thirdLayerActive := by
  by_cases slave : config.keyCountSlave = 0
  · have cleared :
        clearSlaveKeys config st.currentValues 0 = st.currentValues := by
      funext key
      have notSlave : isSlaveKey config key = false := by
        simp [isSlaveKey, KbHandlerConfig.totalKeyCount, slave]
      rw [clearSlaveKeys, notSlave]
      rfl
    rw [handleSlaveKeysReset, if_pos slave, cleared]
    exact ⟨rfl, rfl, rfl, rfl⟩
  · rcases @handleSlaveKeysReset_frameKept config st slave nowMs with
      ⟨_, _, _, _, _, _, _, _, kept⟩
    rw [kept]
    exact ⟨rfl, rfl, rfl, rfl⟩

/-- The pressed keys and the current values agree in every state. -/
theorem reset_arrays_agree
    (atZero : ReleasedAtZero config st.settings) :
    (handleSlaveKeysReset config st nowMs).pressedKeys =
        (releaseKeys config env st (slaveKeys config)).pressedKeys ∧
      (handleSlaveKeysReset config st nowMs).currentValues =
        (releaseKeys config env st (slaveKeys config)).currentValues := by
  rcases @releaseKeys_arrays config env st (slaveKeys config)
      (fun key member => inRange_of_isSlaveKey (mem_slaveKeys.mp member))
      (fun key member => atZero key (mem_slaveKeys.mp member)) with
    ⟨pressed, current, _⟩
  constructor
  · funext key
    rw [(handleSlaveKeysReset_cleared nowMs).2, pressed, clearSlaveKeys]
    simp only [mem_slaveKeys]
  · funext key
    rw [handleSlaveKeysReset_fields.1, current, clearSlaveKeys]
    simp only [mem_slaveKeys]

/-- The consumed keys agree if no pressed slave key is consumed. -/
theorem reset_consumed_agree_iff
    (atZero : ReleasedAtZero config st.settings) :
    (handleSlaveKeysReset config st nowMs).shortcutConsumedKeys =
        (releaseKeys config env st (slaveKeys config)).shortcutConsumedKeys ↔
      ∀ key, isSlaveKey config key = true → st.pressedKeys key = true →
        st.shortcutConsumedKeys key = false := by
  have consumed :=
    (@releaseKeys_arrays config env st (slaveKeys config)
      (fun key member => inRange_of_isSlaveKey (mem_slaveKeys.mp member))
      (fun key member => atZero key (mem_slaveKeys.mp member))).2.2
  rw [handleSlaveKeysReset_fields.2.1, funext_iff]
  apply forall_congr'
  intro key
  rw [consumed]
  simp only [mem_slaveKeys]
  split_ifs with held
  · simp [held.1, held.2]
  · exact iff_of_true rfl fun slave up => absurd ⟨slave, up⟩ held

end Releases

/-! ## Agreement -/

/--
For every state whose slave thresholds are at least 1, in any mode: a slave
reset agrees with processing value 0 for every slave key if and only if no
slave key is pressed and none has a percentage other than 0 told.
-/
theorem reset_agrees_iff
    (config : KbHandlerConfig) (env : Nat → KbhEnvironment)
    (st : KbhRuntimeState) (nowMs : Int)
    (atZero : ReleasedAtZero config st.settings) :
    Agrees config env st nowMs ↔ NothingHeld config st := by
  constructor
  · intro agrees
    constructor
    · intro key slave
      rw [← Bool.not_eq_true]
      intro up
      exact (unheard_of_reset (agrees.events key slave up)).elim
    · intro key slave
      by_contra told
      exact (unheard_of_reset (agrees.values key slave told)).elim
  · intro nothing
    have arrays := @reset_arrays_agree config env st nowMs atZero
    have fields := @handleSlaveKeysReset_fields config st nowMs
    rcases @releaseKeys_unpressed config env st (slaveKeys config)
        (fun key member => atZero key (mem_slaveKeys.mp member))
        (fun key member => nothing.pressed key (mem_slaveKeys.mp member)) with
      ⟨second, third⟩
    exact
      { pressedKeys := arrays.1
        currentValues := arrays.2
        shortcutConsumedKeys :=
          (reset_consumed_agree_iff atZero).mpr fun key slave up =>
            absurd ((nothing.pressed key slave).symm.trans up)
              Bool.false_ne_true
        secondLayerActive := fields.2.2.1.trans second.symm
        thirdLayerActive := fields.2.2.2.trans third.symm
        events := fun key slave up =>
          absurd ((nothing.pressed key slave).symm.trans up)
            Bool.false_ne_true
        values := fun key slave told => absurd (nothing.told key slave) told }

/-- The slave key is pressed and released, then a local key is pressed. -/
def releasedSlaveKey : List HandlerEvent :=
  [.keyValue plainEnvironment 1 5, .keyValue plainEnvironment 1 0,
    .keyValue plainEnvironment 0 5]

theorem reset_agrees_after_release :
    ∃ st,
      run (handlerStep twoKeyConfig) (threadStart twoKeyConfig plainSettings)
          releasedSlaveKey =
        some st ∧
      st.pressedKeys 0 = true ∧
      st.outputs.drop 2 =
        [.onNewValue 1 100, .onEvent 1 true, .onNewValue 1 0,
          .onEvent 1 false, .onNewValue 0 100, .onEvent 0 true] ∧
      Agrees twoKeyConfig (fun _ => plainEnvironment) st 0 := by
  have only (key : Nat) (slave : isSlaveKey twoKeyConfig key = true) :
      key = 1 := by
    have range := of_decide_eq_true slave
    exact Nat.le_antisymm (Nat.le_of_lt_succ range.2) range.1
  refine ⟨_, rfl, rfl, rfl, ?_⟩
  refine
    (reset_agrees_iff twoKeyConfig (fun _ => plainEnvironment) _ 0
      (fun _ _ => UInt16.le_refl 1)).mpr ⟨?_, ?_⟩
  · intro key slave
    rw [only key slave]
    rfl
  · intro key slave
    rw [only key slave]
    rfl

/-- With the slave key pressed they disagree: no release is told. -/
theorem reset_tells_no_release :
    ¬ (∀ (config : KbHandlerConfig) (settings : KbSettings)
        (env : Nat → KbhEnvironment) (st : KbhRuntimeState) (nowMs : Int),
        Reachable (handlerStep config) (threadStart config settings) st →
        (∀ key, 1 ≤ settings.thresholds key) →
        (st.activeMode = .normal ∨ st.activeMode = .mousesim) →
          Agrees config env st nowMs) := by
  intro always
  have pressed :
      ∃ st,
        run (handlerStep twoKeyConfig)
            (threadStart twoKeyConfig plainSettings)
            [.keyValue plainEnvironment 1 5] =
          some st ∧
        st.activeMode = .normal ∧ st.pressedKeys 1 = true :=
    ⟨_, rfl, rfl, rfl⟩
  rcases pressed with ⟨st, ran, normal, pressed⟩
  have agrees :=
    always twoKeyConfig plainSettings (fun _ => plainEnvironment) st 0
      ⟨_, ran⟩ (fun _ => UInt16.le_refl 1) (.inl normal)
  exact (unheard_of_reset (agrees.events 1 (by decide) pressed)).elim

end YkbFirmware.KbHandler.ResetRelease
