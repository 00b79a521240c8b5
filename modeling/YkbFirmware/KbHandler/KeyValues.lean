import YkbFirmware.Library.TransitionSystem
import YkbFirmware.KbHandler.StuckKey

/-!
# What a key value can do

A call of `process_key_value` takes one of eight ways through
`process_key_transition`, and which one is decided by the state before it.
`processKeyValue_step` says so once.  Runs of the handler are lists of such
calls, of ends of frames and of slave resets; a message with slave values is
a list of calls and the end of a frame.
-/

namespace YkbFirmware.KbHandler.KeyValues

open YkbFirmware.Library.TransitionSystem
open YkbFirmware.KbHandler.Settings
open YkbFirmware.KbHandler.Report
open YkbFirmware.KbHandler.Core
open YkbFirmware.KbHandler.Frames
open YkbFirmware.KbHandler.Transition
open YkbFirmware.KbHandler.StuckKey

/-! ## Key values -/

section Values

variable
    (config : KbHandlerConfig) (env : KbhEnvironment) (st : KbhRuntimeState)
    (key : Nat) (value : UInt16)

/-- Whether the value presses the key. -/
def reached : Bool := decide (value ≥ st.settings.thresholds key)

/-- The key is in range and the value presses or releases it. -/
structure Changes : Prop where
  inRange : key < config.totalKeyCount
  differs : st.pressedKeys key ≠ reached st key value

/-- The state with the value stored and the transition noted. -/
def notedValue : KbhRuntimeState :=
  notedState (storeKeyValue config st key value) key (reached st key value)

/-- The press looks for a shortcut. -/
structure LooksUp : Prop where
  changes : Changes config st key value
  down : reached st key value = true
  unconsumed : st.shortcutConsumedKeys key = false
  notFn : st.resolvedHid key ≠ keyFn
  fnActive : isAnyFnPressed st key = true

/-- The transition passes the shortcut logic. -/
structure Passes : Prop where
  changes : Changes config st key value
  passes : shortcutIntercepts st key (reached st key value) = false

/-- The ways a call can take, with the state it ends in. -/
inductive KeyValueStep : KbhRuntimeState → Prop where
  | outside (out : config.totalKeyCount ≤ key) : KeyValueStep st
  | steady (inRange : key < config.totalKeyCount)
      (same : st.pressedKeys key = reached st key value) :
      KeyValueStep (storeKeyValue config st key value)
  | consumed (changes : Changes config st key value)
      (consumed : st.shortcutConsumedKeys key = true) :
      KeyValueStep
        ((notedValue config st key value).setConsumed key
          (reached st key value))
  | unmatched (looks : LooksUp config st key value)
      (found : findFnShortcut st.settings (st.resolvedHid key) = none) :
      KeyValueStep ((notedValue config st key value).setConsumed key true)
  | shortcut (looks : LooksUp config st key value)
      {shortcut : KbFnShortcut}
      (found :
        findFnShortcut st.settings (st.resolvedHid key) = some shortcut) :
      KeyValueStep
        ((runFnShortcut config env (notedValue config st key value)
            shortcut).setConsumed key true)
  | race (passes : Passes config st key value)
      (race : st.activeMode = .race) :
      KeyValueStep (notedValue config st key value)
  | silent (passes : Passes config st key value)
      (notRace : st.activeMode ≠ .race)
      (routed : routedLayers st key (reached st key value) = none) :
      KeyValueStep (notedValue config st key value)
  | rebuilt (passes : Passes config st key value)
      (notRace : st.activeMode ≠ .race) {layers : Bool × Bool}
      (routed : routedLayers st key (reached st key value) = some layers) :
      KeyValueStep
        (reportTransition config
          (withLayers (notedValue config st key value) layers))

end Values

section Noted

variable
    {config : KbHandlerConfig} {st : KbhRuntimeState}
    {key : Nat} {value : UInt16}

/-- A value is stored and a transition noted; everything else stays. -/
theorem notedValue_eq
    (config : KbHandlerConfig) (st : KbhRuntimeState)
    (key : Nat) (value : UInt16) :
    ∃ notified outputs,
      notedValue config st key value =
        notedState (withValue st key value notified outputs) key
          (reached st key value) := by
  rcases storeKeyValue_eq config st key value with
    ⟨notified, outputs, same, _⟩
  exact ⟨notified, outputs, by rw [notedValue, same]⟩

@[simp]
theorem notedValue_settings :
    (notedValue config st key value).settings = st.settings := by
  rcases notedValue_eq config st key value with ⟨_, _, same⟩
  rw [same]
  rfl

@[simp]
theorem notedValue_activeMode :
    (notedValue config st key value).activeMode = st.activeMode := by
  rcases notedValue_eq config st key value with ⟨_, _, same⟩
  rw [same]
  rfl

@[simp]
theorem notedValue_secondLayerActive :
    (notedValue config st key value).secondLayerActive =
      st.secondLayerActive := by
  rcases notedValue_eq config st key value with ⟨_, _, same⟩
  rw [same]
  rfl

@[simp]
theorem notedValue_thirdLayerActive :
    (notedValue config st key value).thirdLayerActive =
      st.thirdLayerActive := by
  rcases notedValue_eq config st key value with ⟨_, _, same⟩
  rw [same]
  rfl

@[simp]
theorem notedValue_pressedKeys :
    (notedValue config st key value).pressedKeys =
      Function.update st.pressedKeys key (reached st key value) := by
  rcases notedValue_eq config st key value with ⟨_, _, same⟩
  rw [same]
  rfl

@[simp]
theorem notedValue_shortcutConsumedKeys :
    (notedValue config st key value).shortcutConsumedKeys =
      st.shortcutConsumedKeys := by
  rcases notedValue_eq config st key value with ⟨_, _, same⟩
  rw [same]
  rfl

@[simp]
theorem notedValue_layer1Keys :
    (notedValue config st key value).layer1Keys = st.layer1Keys := by
  rcases notedValue_eq config st key value with ⟨_, _, same⟩
  rw [same]
  rfl

@[simp]
theorem notedValue_layer2Keys :
    (notedValue config st key value).layer2Keys = st.layer2Keys := by
  rcases notedValue_eq config st key value with ⟨_, _, same⟩
  rw [same]
  rfl

@[simp]
theorem notedValue_fnKeys :
    (notedValue config st key value).fnKeys = st.fnKeys := by
  rcases notedValue_eq config st key value with ⟨_, _, same⟩
  rw [same]
  rfl

@[simp]
theorem notedValue_prevKbReport :
    (notedValue config st key value).prevKbReport = st.prevKbReport := by
  rcases notedValue_eq config st key value with ⟨_, _, same⟩
  rw [same]
  rfl

@[simp]
theorem notedValue_prevMouseReport :
    (notedValue config st key value).prevMouseReport =
      st.prevMouseReport := by
  rcases notedValue_eq config st key value with ⟨_, _, same⟩
  rw [same]
  rfl

end Noted

section Inversion

variable
    {config : KbHandlerConfig} {env : KbhEnvironment} {st : KbhRuntimeState}
    {key : Nat} {value : UInt16}

/-- A transition of a consumed key only ends its consumption. -/
theorem processKeyTransition_consumed
    {status : Bool} (env : KbhEnvironment)
    (inRange : key < config.totalKeyCount)
    (consumed : st.shortcutConsumedKeys key = true) :
    processKeyTransition config env st key status =
      (notedState st key status).setConsumed key status := by
  have held : (notedState st key status).shortcutConsumedKeys key = true :=
    consumed
  rw [processKeyTransition_eq env inRange, maybeHandleFnShortcut,
    if_pos held, Option.getD_some]
  cases status with
  | false => rfl
  | true =>
      rw [if_neg (by decide), KbhRuntimeState.setConsumed,
        Function.update_eq_self_iff.mpr held.symm]

/-- A press that looks for a shortcut is consumed, found or not. -/
theorem processKeyTransition_looksUp
    (env : KbhEnvironment)
    (inRange : key < config.totalKeyCount)
    (unconsumed : st.shortcutConsumedKeys key = false)
    (notFn : st.resolvedHid key ≠ keyFn)
    (fnActive : isAnyFnPressed st key = true) :
    processKeyTransition config env st key true =
      ((match findFnShortcut st.settings (st.resolvedHid key) with
        | some shortcut =>
            runFnShortcut config env (notedState st key true) shortcut
        | none => notedState st key true).setConsumed key true) := by
  have free :
      ¬ (notedState st key true).shortcutConsumedKeys key = true :=
    (Bool.eq_false_iff.mp unconsumed)
  rw [processKeyTransition_eq env inRange, maybeHandleFnShortcut,
    isAnyFnPressed_noted, if_neg free, if_neg]
  · change
      (match findFnShortcut st.settings (st.resolvedHid key) with
        | some shortcut => _
        | none => _ : Option KbhRuntimeState).getD _ = _
    cases findFnShortcut st.settings (st.resolvedHid key) with
    | none => rfl
    | some shortcut => rfl
  · rintro (up | fn | inactive)
    · cases up
    · exact notFn fn
    · exact absurd (fnActive.symm.trans inactive) (by decide)

/-- A transition that no shortcut intercepts goes on to a report. -/
theorem keyValueStep_of_passes
    (env : KbhEnvironment)
    {notified : Nat → UInt16} {outputs : List KbhOutput}
    (noted :
      notedState (withValue st key value notified outputs) key
          (reached st key value) =
        notedValue config st key value)
    (passed : Passes config st key value) :
    KeyValueStep config env st key value
      (processKeyTransition config env
        (withValue st key value notified outputs) key
        (reached st key value)) := by
  have through :
      shortcutIntercepts (withValue st key value notified outputs) key
          (reached st key value) =
        false := by
    rw [shortcutIntercepts_withValue, passed.passes]
  by_cases race : st.activeMode = .race
  · have raced :
        (withValue st key value notified outputs).activeMode = .race :=
      race
    rw [processKeyTransition_race passed.changes.inRange raced through, noted]
    exact .race passed race
  · have notRaced :
        (withValue st key value notified outputs).activeMode ≠ .race :=
      race
    rw [processKeyTransition_passed passed.changes.inRange notRaced through,
      noted]
    cases routed : routedLayers st key (reached st key value) with
    | none =>
        have silent :
            routedLayers (withValue st key value notified outputs) key
                (reached st key value) =
              none :=
          routed
        rw [silent]
        exact .silent passed race routed
    | some layers =>
        have rebuilt :
            routedLayers (withValue st key value notified outputs) key
                (reached st key value) =
              some layers :=
          routed
        rw [rebuilt]
        exact .rebuilt passed race routed

/-- An intercepted transition ends a consumption or looks for a shortcut. -/
theorem keyValueStep_of_intercepted
    (env : KbhEnvironment)
    {notified : Nat → UInt16} {outputs : List KbhOutput}
    (noted :
      notedState (withValue st key value notified outputs) key
          (reached st key value) =
        notedValue config st key value)
    (changes : Changes config st key value)
    (intercepted : shortcutIntercepts st key (reached st key value) = true) :
    KeyValueStep config env st key value
      (processKeyTransition config env
        (withValue st key value notified outputs) key
        (reached st key value)) := by
  cases consumed : st.shortcutConsumedKeys key with
  | true =>
      have held :
          (withValue st key value notified outputs).shortcutConsumedKeys key =
            true :=
        consumed
      rw [processKeyTransition_consumed env changes.inRange held, noted]
      exact .consumed changes consumed
  | false =>
      have looksFor :
          reached st key value = true ∧ st.resolvedHid key ≠ keyFn ∧
            isAnyFnPressed st key = true := by
        simpa [shortcutIntercepts, consumed, and_assoc] using intercepted
      rcases looksFor with ⟨down, notFn, fnActive⟩
      have looks : LooksUp config st key value :=
        ⟨changes, down, consumed, notFn, fnActive⟩
      rw [down] at noted ⊢
      have active :
          isAnyFnPressed (withValue st key value notified outputs) key =
            true := by
        rw [isAnyFnPressed_withValue, fnActive]
      have free :
          (withValue st key value notified outputs).shortcutConsumedKeys key =
            false :=
        consumed
      have other :
          (withValue st key value notified outputs).resolvedHid key ≠ keyFn :=
        notFn
      rw [processKeyTransition_looksUp env changes.inRange free other active,
        noted]
      change
        KeyValueStep config env st key value
          ((match findFnShortcut st.settings (st.resolvedHid key) with
            | some shortcut =>
                runFnShortcut config env (notedValue config st key value)
                  shortcut
            | none => notedValue config st key value).setConsumed key true)
      cases found : findFnShortcut st.settings (st.resolvedHid key) with
      | none => exact .unmatched looks found
      | some shortcut => exact .shortcut looks found

/-- Each call takes one of the ways. -/
theorem processKeyValue_step (env : KbhEnvironment) :
    KeyValueStep config env st key value
      (processKeyValue config env st key value).1 := by
  rw [processKeyValue]
  dsimp only
  split_ifs with outside unchanged
  · exact .outside outside
  · exact .steady (Nat.not_le.mp outside) unchanged
  · have changes : Changes config st key value :=
      ⟨Nat.not_le.mp outside, unchanged⟩
    rw [← reached]
    rcases storeKeyValue_eq config st key value with
      ⟨notified, outputs, stored, _⟩
    have noted :
        notedState (withValue st key value notified outputs) key
            (reached st key value) =
          notedValue config st key value := by
      rw [notedValue, stored]
    rw [stored]
    dsimp only
    cases passes : shortcutIntercepts st key (reached st key value) with
    | false => exact keyValueStep_of_passes env noted ⟨changes, passes⟩
    | true => exact keyValueStep_of_intercepted env noted changes passes

end Inversion

/-! ## Ends of frames -/

/-- Only reports, their times and the wheel remainder change. -/
def FrameKept (before after : KbhRuntimeState) : Prop :=
  ∃ race kbReport prevKbReport mouseReport prevMouseReport lastMs remainder
      outputs,
    after =
      { before with
        racePressedKeys := race
        kbReport := kbReport
        prevKbReport := prevKbReport
        mouseReport := mouseReport
        prevMouseReport := prevMouseReport
        lastMouseReportMs := lastMs
        mouseWheelRemainder := remainder
        outputs := outputs }

section Frames

variable {config : KbHandlerConfig} {st : KbhRuntimeState}

theorem FrameKept.refl (st : KbhRuntimeState) : FrameKept st st :=
  ⟨_, _, _, _, _, _, _, _, rfl⟩

theorem FrameKept.trans
    {first second third : KbhRuntimeState}
    (earlier : FrameKept first second) (later : FrameKept second third) :
    FrameKept first third := by
  rcases earlier with ⟨_, _, _, _, _, _, _, _, rfl⟩
  rcases later with ⟨_, _, _, _, _, _, _, _, rfl⟩
  exact ⟨_, _, _, _, _, _, _, _, rfl⟩

theorem sendKbReport_frameKept (report : HidKbReport) :
    FrameKept st (sendKbReport st report) := by
  rcases sendKbReport_eq st report with ⟨outputs, same, _⟩
  rw [same]
  exact ⟨_, _, _, _, _, _, _, _, rfl⟩

theorem reportTransition_frameKept :
    FrameKept st (reportTransition config st) := by
  rw [reportTransition]
  split_ifs
  · exact sendKbReport_frameKept _
  · exact .refl st

theorem sendMouseReportIfChanged_frameKept (nowMs : Int) :
    FrameKept st (sendMouseReportIfChanged st nowMs) := by
  rw [sendMouseReportIfChanged]
  dsimp only
  split_ifs
  · exact ⟨_, _, _, _, _, _, _, _, rfl⟩
  · exact ⟨_, _, _, _, _, _, _, _, rfl⟩

theorem sendRaceReportIfChanged_frameKept :
    FrameKept st (sendRaceReportIfChanged config st) := by
  have raced :
      FrameKept st
        { st with
          racePressedKeys := fun key =>
            decide ((raceChoice config st).maxIndex = some key) } :=
    ⟨_, _, _, _, _, _, _, _, rfl⟩
  exact raced.trans (sendKbReport_frameKept _)

theorem finishValueFrame_frameKept (nowMs : Int) :
    FrameKept st (finishValueFrame config st nowMs) := by
  apply finishValueFrame_keeps
  · exact fun _ kept => kept.trans (sendMouseReportIfChanged_frameKept nowMs)
  · exact fun _ kept => kept.trans sendRaceReportIfChanged_frameKept
  · exact .refl st

/-- A slave reset clears the slave keys and then sends reports. -/
theorem handleSlaveKeysReset_frameKept
    (slave : config.keyCountSlave ≠ 0) (nowMs : Int) :
    FrameKept (withoutSlaveKeys config st)
      (handleSlaveKeysReset config st nowMs) := by
  apply handleSlaveKeysReset_keeps slave
  · exact fun _ kept => kept.trans (sendMouseReportIfChanged_frameKept nowMs)
  · exact fun _ kept => kept.trans (sendKbReport_frameKept _)
  · exact fun _ kept => kept.trans sendRaceReportIfChanged_frameKept
  · exact .refl _

end Frames

/-! ## What every call does -/

section Calls

variable
    {config : KbHandlerConfig} {env : KbhEnvironment}
    {st next : KbhRuntimeState} {key : Nat} {value : UInt16}

/-- The percentage told last is that of the value. -/
theorem storeKeyValue_notifiedPressPercent
    (inRange : key < config.totalKeyCount) :
    (storeKeyValue config st key value).notifiedPressPercent =
      Function.update st.notifiedPressPercent key
        (keyPressPercent config st.settings key value) := by
  rw [storeKeyValue, notifyValueIfChanged]
  split_ifs with told
  · exact
      (Function.update_eq_self_iff.mpr
        (told.resolve_left inRange.not_ge).symm).symm
  · rfl

theorem storeKeyValue_currentValues :
    (storeKeyValue config st key value).currentValues =
      Function.update st.currentValues key value := by
  rcases storeKeyValue_eq config st key value with ⟨_, _, same, _⟩
  rw [same]
  rfl

/-- After storing the value a call leaves values and percentages alone. -/
theorem keyValue_stored
    (inRange : key < config.totalKeyCount)
    (step : KeyValueStep config env st key value next) :
    next.currentValues = (storeKeyValue config st key value).currentValues ∧
      next.notifiedPressPercent =
        (storeKeyValue config st key value).notifiedPressPercent := by
  cases step with
  | outside out => exact absurd inRange out.not_gt
  | steady | consumed | unmatched | race | silent => exact ⟨rfl, rfl⟩
  | @shortcut looks shortcut found =>
      rcases @runFnShortcut_run config env (notedValue config st key value)
          shortcut with
        ⟨⟨_, _, _, ran⟩, _, _⟩
      rw [ran]
      exact ⟨rfl, rfl⟩
  | @rebuilt _ _ layers =>
      rcases @reportTransition_frameKept config
          (withLayers (notedValue config st key value) layers) with
        ⟨_, _, _, _, _, _, _, _, kept⟩
      rw [kept]
      exact ⟨rfl, rfl⟩

theorem keyValue_notifiedPressPercent
    (inRange : key < config.totalKeyCount)
    (step : KeyValueStep config env st key value next) :
    next.notifiedPressPercent =
      Function.update st.notifiedPressPercent key
        (keyPressPercent config st.settings key value) :=
  (keyValue_stored inRange step).2.trans
    (storeKeyValue_notifiedPressPercent inRange)

theorem keyValue_currentValues
    (inRange : key < config.totalKeyCount)
    (step : KeyValueStep config env st key value next) :
    next.currentValues = Function.update st.currentValues key value :=
  (keyValue_stored inRange step).1.trans storeKeyValue_currentValues

/-- A press that looks for a shortcut is intercepted. -/
theorem LooksUp.intercepts (looks : LooksUp config st key value) :
    shortcutIntercepts st key (reached st key value) = true := by
  simp [shortcutIntercepts, looks.unconsumed, looks.down, looks.notFn,
    looks.fnActive]

/-- A transition consumes its key exactly if it is an intercepted press. -/
theorem keyValue_shortcutConsumedKeys
    (changes : Changes config st key value)
    (step : KeyValueStep config env st key value next) :
    next.shortcutConsumedKeys =
      Function.update st.shortcutConsumedKeys key
        (reached st key value &&
          shortcutIntercepts st key (reached st key value)) := by
  have free :
      Passes config st key value →
        Function.update st.shortcutConsumedKeys key
            (reached st key value &&
              shortcutIntercepts st key (reached st key value)) =
          st.shortcutConsumedKeys := by
    intro passes
    rw [passes.passes, Bool.and_false, Function.update_eq_self_iff]
    exact (unconsumed_of_passes passes.passes).symm
  cases step with
  | outside out => exact absurd changes.inRange out.not_gt
  | steady _ same => exact absurd same changes.differs
  | consumed _ consumed =>
      have intercepts :
          shortcutIntercepts st key (reached st key value) = true := by
        rw [shortcutIntercepts, consumed, Bool.true_or]
      rw [intercepts, Bool.and_true, KbhRuntimeState.setConsumed,
        notedValue_shortcutConsumedKeys]
  | unmatched looks =>
      rw [looks.intercepts, looks.down, KbhRuntimeState.setConsumed,
        notedValue_shortcutConsumedKeys]
      rfl
  | @shortcut looks shortcut found =>
      rcases @runFnShortcut_run config env (notedValue config st key value)
          shortcut with
        ⟨⟨_, _, _, ran⟩, _, _⟩
      rw [looks.intercepts, looks.down, ran]
      simp [KbhRuntimeState.setConsumed]
  | race passes | silent passes =>
      rw [free passes, notedValue_shortcutConsumedKeys]
  | @rebuilt passes _ layers =>
      rcases @reportTransition_frameKept config
          (withLayers (notedValue config st key value) layers) with
        ⟨_, _, _, _, _, _, _, _, kept⟩
      rw [free passes, kept]
      exact notedValue_shortcutConsumedKeys

/-- A press that looks up a shortcut runs the one it finds. -/
theorem keyValue_shortcut
    (looks : LooksUp config st key value) {shortcut : KbFnShortcut}
    (found : findFnShortcut st.settings (st.resolvedHid key) = some shortcut)
    (step : KeyValueStep config env st key value next) :
    next =
      (runFnShortcut config env (notedValue config st key value)
        shortcut).setConsumed key true := by
  have never : ¬ Passes config st key value := by
    intro passes
    exact absurd (passes.passes.symm.trans looks.intercepts) Bool.false_ne_true
  cases step with
  | outside out => exact absurd looks.changes.inRange out.not_gt
  | steady _ same => exact absurd same looks.changes.differs
  | consumed _ consumed =>
      exact absurd (looks.unconsumed.symm.trans consumed) Bool.false_ne_true
  | unmatched _ unmatched => cases unmatched.symm.trans found
  | shortcut _ other =>
      cases other.symm.trans found
      rfl
  | race passes | silent passes | rebuilt passes => exact absurd passes never

/-- A value that changes no key consumes none. -/
theorem keyValue_shortcutConsumedKeys_of_not
    (unchanged : ¬ Changes config st key value)
    (step : KeyValueStep config env st key value next) :
    next.shortcutConsumedKeys = st.shortcutConsumedKeys := by
  cases step with
  | outside => rfl
  | steady =>
      rcases storeKeyValue_eq config st key value with ⟨_, _, same, _⟩
      rw [same]
      rfl
  | consumed changes => exact absurd changes unchanged
  | unmatched looks | shortcut looks => exact absurd looks.changes unchanged
  | race passes | silent passes | rebuilt passes =>
      exact absurd passes.changes unchanged

end Calls

/-! ## Runs of the handler -/

inductive HandlerEvent where
  | keyValue (env : KbhEnvironment) (key : Nat) (value : UInt16)
  | frameEnd (nowMs : Int)
  | slaveReset (nowMs : Int)

def handlerStep (config : KbHandlerConfig) (st : KbhRuntimeState) :
    HandlerEvent → Option KbhRuntimeState
  | .keyValue env key value => some (processKeyValue config env st key value).1
  | .frameEnd nowMs => some (finishValueFrame config st nowMs)
  | .slaveReset nowMs => some (handleSlaveKeysReset config st nowMs)

/-- The handler refuses no event. -/
theorem handlerStep_total
    (config : KbHandlerConfig) (st : KbhRuntimeState)
    (event : HandlerEvent) :
    ∃ next, handlerStep config st event = some next := by
  cases event with
  | keyValue | frameEnd | slaveReset => exact ⟨_, rfl⟩

/-- A message with slave values as a list of events. -/
def slaveValuesEvents
    (config : KbHandlerConfig) (env : Nat → KbhEnvironment) (nowMs : Int)
    (slaveValues : SlaveValues config) : List HandlerEvent :=
  ((List.finRange config.keyCountSlave).map fun index =>
      .keyValue (env index.val) (config.keyCount + index.val)
        (slaveValues index)) ++
    [.frameEnd nowMs]

theorem run_slaveValuesEvents
    {config : KbHandlerConfig} {env : Nat → KbhEnvironment} {nowMs : Int}
    {st : KbhRuntimeState} (slave : config.keyCountSlave ≠ 0)
    (slaveValues : SlaveValues config) :
    run (handlerStep config) st
        (slaveValuesEvents config env nowMs slaveValues) =
      some (handleSlaveValues config env nowMs st slaveValues) := by
  rw [handleSlaveValues, if_neg slave, slaveValuesEvents]
  generalize List.finRange config.keyCountSlave = indices
  induction indices generalizing st with
  | nil => rfl
  | cons index rest induction => exact induction

/-! ## What every run keeps -/

/--
The key lists are those of the settings the thread started with, of which
runs change only what FN actions change.
-/
structure Rooted
    (config : KbHandlerConfig) (settings : KbSettings)
    (st : KbhRuntimeState) : Prop where
  layer1Keys : st.layer1Keys = layerKeys config settings keyLayer1
  layer2Keys : st.layer2Keys = layerKeys config settings keyLayer2
  fnKeys : st.fnKeys = layerKeys config settings keyFn
  keys : SameKeys settings st.settings

section Runs

variable
    {config : KbHandlerConfig} {settings : KbSettings}
    {env : KbhEnvironment} {st next : KbhRuntimeState}
    {key : Nat} {value : UInt16}

theorem threadStart_rooted :
    Rooted config settings (threadStart config settings) :=
  ⟨rfl, rfl, rfl, .refl settings⟩

theorem Rooted.frameKept
    (rooted : Rooted config settings st) (kept : FrameKept st next) :
    Rooted config settings next := by
  rcases kept with ⟨_, _, _, _, _, _, _, _, rfl⟩
  exact ⟨rooted.layer1Keys, rooted.layer2Keys, rooted.fnKeys, rooted.keys⟩

theorem Rooted.notedValue (rooted : Rooted config settings st) :
    Rooted config settings (notedValue config st key value) := by
  constructor <;> simp [rooted.layer1Keys, rooted.layer2Keys, rooted.fnKeys,
    rooted.keys]

theorem Rooted.shortcutRun
    (rooted : Rooted config settings st) (ran : ShortcutRun st next) :
    Rooted config settings next := by
  rcases ran with ⟨⟨changed, activeMode, outputs, rfl⟩, keys, _⟩
  exact
    ⟨rooted.layer1Keys, rooted.layer2Keys, rooted.fnKeys,
      rooted.keys.trans keys⟩

theorem Rooted.keyValue
    (rooted : Rooted config settings st)
    (step : KeyValueStep config env st key value next) :
    Rooted config settings next := by
  have noted :
      Rooted config settings (KeyValues.notedValue config st key value) :=
    rooted.notedValue
  cases step with
  | outside => exact rooted
  | steady =>
      rcases storeKeyValue_eq config st key value with ⟨_, _, same, _⟩
      rw [same]
      exact
        ⟨rooted.layer1Keys, rooted.layer2Keys, rooted.fnKeys, rooted.keys⟩
  | consumed | unmatched =>
      exact ⟨noted.layer1Keys, noted.layer2Keys, noted.fnKeys, noted.keys⟩
  | @shortcut looks shortcut found =>
      have ran :=
        noted.shortcutRun (@runFnShortcut_run config env _ shortcut)
      exact ⟨ran.layer1Keys, ran.layer2Keys, ran.fnKeys, ran.keys⟩
  | race | silent => exact noted
  | rebuilt passes notRace routed =>
      apply Rooted.frameKept _ reportTransition_frameKept
      exact ⟨noted.layer1Keys, noted.layer2Keys, noted.fnKeys, noted.keys⟩

theorem Rooted.slaveReset
    (rooted : Rooted config settings st) (nowMs : Int) :
    Rooted config settings (handleSlaveKeysReset config st nowMs) := by
  by_cases slave : config.keyCountSlave = 0
  · rw [handleSlaveKeysReset, if_pos slave]
    exact rooted
  · apply Rooted.frameKept _ (handleSlaveKeysReset_frameKept slave nowMs)
    exact ⟨rooted.layer1Keys, rooted.layer2Keys, rooted.fnKeys, rooted.keys⟩

theorem Rooted.step
    {event : HandlerEvent} (rooted : Rooted config settings st)
    (stepped : handlerStep config st event = some next) :
    Rooted config settings next := by
  cases event with
  | keyValue env key value =>
      cases stepped
      exact rooted.keyValue (processKeyValue_step env)
  | frameEnd nowMs =>
      cases stepped
      exact rooted.frameKept (finishValueFrame_frameKept nowMs)
  | slaveReset nowMs =>
      cases stepped
      exact rooted.slaveReset nowMs

/-- The key lists agree with the base layer. -/
theorem Rooted.cached (rooted : Rooted config settings st) : Cached st := by
  have mapped :
      ∀ {code : UInt8} {key : Nat},
        (layerKeys config settings code).contains key = true →
          st.settings.mappingsLayer1 key = code := by
    intro code key listed
    rw [rooted.keys.mappingsLayer1]
    exact (layerKeys_contains listed).2
  constructor
  · intro key listed
    rw [rooted.layer1Keys] at listed
    exact mapped listed
  · intro key listed
    rw [rooted.layer2Keys] at listed
    exact mapped listed
  · intro key listed
    rw [rooted.fnKeys] at listed
    exact mapped listed

end Runs

end YkbFirmware.KbHandler.KeyValues
