import YkbFirmware.KbHandler.Frames

/-!
# What a key transition can do

`processKeyTransition` does one of three things: a shortcut intercepts the
key, or the transition stays silent, or it sets the layer flags and rebuilds
the report.  Which one is decided by the state before it, and the layer flags
are too.  `processKeyTransition_eq` says so once; later files argue from it
and never unfold the functions of the core.
-/

namespace YkbFirmware.KbHandler.Transition

open YkbFirmware.KbHandler.Settings
open YkbFirmware.KbHandler.Report
open YkbFirmware.KbHandler.Core
open YkbFirmware.KbHandler.Frames

/-! ## Reports handed to the transport -/

def KbhOutput.kbReport? : KbhOutput → Option HidKbReport
  | .sendKbReport report _ => some report
  | _ => none

/-- The last keyboard report among the calls. -/
def lastKbReport (outputs : List KbhOutput) : Option HidKbReport :=
  (outputs.filterMap KbhOutput.kbReport?).getLast?

theorem lastKbReport_append_report
    (outputs : List KbhOutput) (report : HidKbReport)
    (prio : KbhTransportPrio) :
    lastKbReport (outputs ++ [.sendKbReport report prio]) = some report := by
  simp [lastKbReport, KbhOutput.kbReport?]

theorem lastKbReport_append_other
    {outputs : List KbhOutput} {output : KbhOutput}
    (other : KbhOutput.kbReport? output = none) :
    lastKbReport (outputs ++ [output]) = lastKbReport outputs := by
  simp [lastKbReport, other]

/-- `prev_kb_report` is the last keyboard report handed over. -/
def Handed (st : KbhRuntimeState) : Prop :=
  lastKbReport st.outputs = some st.prevKbReport

/-- What sending a report changes. -/
theorem sendKbReport_eq (st : KbhRuntimeState) (report : HidKbReport) :
    ∃ outputs,
      sendKbReport st report =
        { st with
          kbReport := report
          prevKbReport := report
          outputs := outputs } ∧
      (Handed st → lastKbReport outputs = some report) := by
  rw [sendKbReport]
  split_ifs with same
  · refine ⟨st.outputs, ?_, ?_⟩
    · rw [same]
    · intro handed
      rw [same]
      exact handed
  · exact ⟨_, rfl, fun _ => lastKbReport_append_report _ _ _⟩

theorem threadStart_handed
    (config : KbHandlerConfig) (settings : KbSettings) :
    Handed (threadStart config settings) :=
  rfl

/-! ## Transitions -/

section Transitions

variable
    {config : KbHandlerConfig} {env : KbhEnvironment}
    {st : KbhRuntimeState} {key : Nat} {status : Bool}

/-- The key's transition is consumed by the FN shortcut logic. -/
def shortcutIntercepts
    (st : KbhRuntimeState) (key : Nat) (status : Bool) : Bool :=
  st.shortcutConsumedKeys key ||
    (status && st.resolvedHid key != keyFn && isAnyFnPressed st key)

/-- A key which is let through is not consumed. -/
theorem unconsumed_of_passes
    (passes : shortcutIntercepts st key status = false) :
    st.shortcutConsumedKeys key = false :=
  (Bool.or_eq_false_iff.mp passes).1

/--
The second- and third-layer flags with which a transition which is not
intercepted rebuilds the report; `none` when it does not rebuild it.
-/
def routedLayers
    (st : KbhRuntimeState) (key : Nat) (status : Bool) : Option (Bool × Bool) :=
  if st.layer1Keys.contains key then
    (handleLayerKey key status st.pressedKeys st.layer1Keys).map
      fun active => (active, st.thirdLayerActive)
  else if st.layer2Keys.contains key then
    (handleLayerKey key status st.pressedKeys st.layer2Keys).map
      fun active => (st.secondLayerActive, active)
  else if st.fnKeys.contains key then
    none
  else
    some (st.secondLayerActive, st.thirdLayerActive)

/-- The state once the transition is noted and its event sent. -/
def notedState (st : KbhRuntimeState) (key : Nat) (status : Bool) :
    KbhRuntimeState :=
  (st.setPressed key status).emit (.onEvent key status)

def withLayers (st : KbhRuntimeState) (layers : Bool × Bool) :
    KbhRuntimeState :=
  { st with
    secondLayerActive := layers.1
    thirdLayerActive := layers.2 }

@[simp]
theorem notedState_layer1Keys :
    (notedState st key status).layer1Keys = st.layer1Keys :=
  rfl

@[simp]
theorem notedState_layer2Keys :
    (notedState st key status).layer2Keys = st.layer2Keys :=
  rfl

@[simp]
theorem notedState_fnKeys :
    (notedState st key status).fnKeys = st.fnKeys :=
  rfl

@[simp]
theorem notedState_pressedKeys :
    (notedState st key status).pressedKeys =
      Function.update st.pressedKeys key status :=
  rfl

theorem isAnyFnPressed_noted :
    isAnyFnPressed (notedState st key status) key = isAnyFnPressed st key := by
  apply KeyList.anyOther_congr
  intro entry different
  simp [notedState, KbhRuntimeState.setPressed, KbhRuntimeState.emit,
    Function.update_of_ne different]

theorem handleLayerKey_noted (list : KeyList) :
    handleLayerKey key status (notedState st key status).pressedKeys list =
      handleLayerKey key status st.pressedKeys list := by
  rw [handleLayerKey, handleLayerKey, KeyList.anyOther_congr]
  intro entry different
  exact Function.update_of_ne different _ _

/-- Routing a noted transition. -/
theorem routeTransition_noted :
    routeTransition config (notedState st key status) key status =
      match routedLayers st key status with
      | none => notedState st key status
      | some layers =>
          reportTransition config
            (withLayers (notedState st key status) layers) := by
  simp only [routeTransition, routedLayers, notedState_layer1Keys,
    notedState_layer2Keys, notedState_fnKeys, handleLayerKey_noted]
  by_cases first : st.layer1Keys.contains key = true
  · simp only [first, if_true]
    cases handleLayerKey key status st.pressedKeys st.layer1Keys <;> rfl
  · simp only [first]
    by_cases second : st.layer2Keys.contains key = true
    · simp only [second, if_true]
      cases handleLayerKey key status st.pressedKeys st.layer2Keys <;> rfl
    · simp only [second]
      by_cases fn : st.fnKeys.contains key = true
      · simp only [fn, if_true]
        rfl
      · simp only [fn]
        rfl

/-- A shortcut changes settings, mode and calls only. -/
structure ShortcutRun (before after : KbhRuntimeState) : Prop where
  same : ∃ settings activeMode outputs,
    after =
      { before with
        settings := settings
        activeMode := activeMode
        outputs := outputs }
  keys : SameKeys before.settings after.settings
  handed : lastKbReport after.outputs = lastKbReport before.outputs

theorem runFnShortcut_run (shortcut : KbFnShortcut) :
    ShortcutRun st (runFnShortcut config env st shortcut) := by
  rw [runFnShortcut]
  split
  · exact ⟨⟨_, _, _, rfl⟩, .refl _, rfl⟩
  · rename_i changed executed
    have keys := executeFnAction_sameKeys executed
    have handed :
        lastKbReport (st.outputs ++ [.settingsApply changed]) =
          lastKbReport st.outputs :=
      lastKbReport_append_other rfl
    dsimp only
    split_ifs
    · exact ⟨⟨_, _, _, rfl⟩, keys, handed⟩
    · exact ⟨⟨_, _, _, rfl⟩, keys, handed⟩

/-- A key the shortcut logic lets through. -/
theorem maybeHandleFnShortcut_passed
    (passes : shortcutIntercepts st key status = false) :
    maybeHandleFnShortcut config env (notedState st key status) key status
        ((notedState st key status).resolvedHid key) =
      none := by
  simp only [shortcutIntercepts, Bool.or_eq_false_iff] at passes
  have unconsumed :
      (notedState st key status).shortcutConsumedKeys key = false :=
    passes.1
  rw [maybeHandleFnShortcut, isAnyFnPressed_noted]
  rw [if_neg (by simp [unconsumed]), if_pos]
  change
    status = false ∨ st.resolvedHid key = keyFn ∨ isAnyFnPressed st key = false
  cases status with
  | false => exact .inl rfl
  | true =>
      right
      by_cases fn : st.resolvedHid key = keyFn
      · exact .inl fn
      · right
        simpa [fn] using passes.2

/--
An intercepted transition marks the key as consumed while it is held; a
shortcut may run in between.
-/
theorem maybeHandleFnShortcut_intercepted
    (intercepted : shortcutIntercepts st key status = true) :
    ∃ ran,
      ShortcutRun (notedState st key status) ran ∧
        maybeHandleFnShortcut config env (notedState st key status) key status
            ((notedState st key status).resolvedHid key) =
          some (ran.setConsumed key status) := by
  have quiet : ShortcutRun (notedState st key status)
      (notedState st key status) :=
    ⟨⟨_, _, _, rfl⟩, .refl _, rfl⟩
  rw [maybeHandleFnShortcut, isAnyFnPressed_noted]
  by_cases consumed : st.shortcutConsumedKeys key = true
  · have held :
        (notedState st key status).shortcutConsumedKeys key = true :=
      consumed
    rw [if_pos held]
    cases status with
    | false => exact ⟨_, quiet, rfl⟩
    | true =>
        refine ⟨_, quiet, ?_⟩
        simp only [KbhRuntimeState.setConsumed, Bool.true_eq_false, if_false]
        rw [Function.update_eq_self_iff.mpr held.symm]
  · have free :
        ¬ (notedState st key status).shortcutConsumedKeys key = true :=
      consumed
    have pressed :
        status = true ∧ st.resolvedHid key ≠ keyFn ∧
          isAnyFnPressed st key = true := by
      simpa [shortcutIntercepts, consumed, and_assoc] using intercepted
    rcases pressed with ⟨rfl, notFn, fnActive⟩
    rw [if_neg free, if_neg]
    · split
      · exact ⟨_, runFnShortcut_run _, rfl⟩
      · exact ⟨_, quiet, rfl⟩
    · rintro (up | fn | inactive)
      · exact absurd up (by decide)
      · exact notFn fn
      · rw [fnActive] at inactive
        cases inactive

/-- A transition is noted, then intercepted or routed. -/
theorem processKeyTransition_eq
    (env : KbhEnvironment)
    (inRange : key < config.totalKeyCount) :
    processKeyTransition config env st key status =
      (maybeHandleFnShortcut config env (notedState st key status) key status
        ((notedState st key status).resolvedHid key)).getD
        (if st.activeMode = .race then
          notedState st key status
        else
          routeTransition config (notedState st key status) key status) := by
  rw [processKeyTransition, if_neg inRange.not_ge]
  dsimp only
  rw [← notedState]
  cases maybeHandleFnShortcut config env (notedState st key status) key status
      ((notedState st key status).resolvedHid key) <;> rfl

/-- An intercepted transition. -/
theorem processKeyTransition_intercepted
    (env : KbhEnvironment)
    (inRange : key < config.totalKeyCount)
    (intercepted : shortcutIntercepts st key status = true) :
    ∃ ran,
      ShortcutRun (notedState st key status) ran ∧
        processKeyTransition config env st key status =
          ran.setConsumed key status := by
  rcases maybeHandleFnShortcut_intercepted intercepted with
    ⟨ran, shortcut, handled⟩
  refine ⟨ran, shortcut, ?_⟩
  rw [processKeyTransition_eq env inRange, handled, Option.getD_some]

/-- A transition which is not intercepted, outside race mode. -/
theorem processKeyTransition_passed
    (inRange : key < config.totalKeyCount)
    (notRace : st.activeMode ≠ .race)
    (passes : shortcutIntercepts st key status = false) :
    processKeyTransition config env st key status =
      match routedLayers st key status with
      | none => notedState st key status
      | some layers =>
          reportTransition config
            (withLayers (notedState st key status) layers) := by
  rw [processKeyTransition_eq env inRange, maybeHandleFnShortcut_passed passes,
    Option.getD_none]
  exact (if_neg notRace).trans routeTransition_noted

/-- In race mode a transition which is not intercepted is only noted. -/
theorem processKeyTransition_race
    (inRange : key < config.totalKeyCount)
    (race : st.activeMode = .race)
    (passes : shortcutIntercepts st key status = false) :
    processKeyTransition config env st key status =
      notedState st key status := by
  rw [processKeyTransition_eq env inRange, maybeHandleFnShortcut_passed passes,
    Option.getD_none]
  exact if_pos race

/-! ## Storing a value -/

/-- The state with a key value stored and notified. -/
def withValue
    (st : KbhRuntimeState) (key : Nat) (value : UInt16)
    (notified : Nat → UInt16) (outputs : List KbhOutput) : KbhRuntimeState :=
  { st with
    currentValues := Function.update st.currentValues key value
    values := Function.update st.values key value
    notifiedPressPercent := notified
    outputs := outputs }

theorem storeKeyValue_eq
    (config : KbHandlerConfig) (st : KbhRuntimeState)
    (key : Nat) (value : UInt16) :
    ∃ notified outputs,
      storeKeyValue config st key value =
          withValue st key value notified outputs ∧
        lastKbReport outputs = lastKbReport st.outputs := by
  rw [storeKeyValue, notifyValueIfChanged]
  split_ifs
  · exact ⟨_, _, rfl, rfl⟩
  · exact ⟨_, _, rfl, lastKbReport_append_other rfl⟩

section Stored

variable
    {value : UInt16} {notified : Nat → UInt16} {outputs : List KbhOutput}

/-- The FN test skips the key whose value is stored. -/
theorem isAnyFnPressed_withValue :
    isAnyFnPressed (withValue st key value notified outputs) key =
      isAnyFnPressed st key := by
  apply KeyList.anyOther_congr
  intro entry different
  simp [withValue, Function.update_of_ne different]

theorem shortcutIntercepts_withValue :
    shortcutIntercepts (withValue st key value notified outputs) key status =
      shortcutIntercepts st key status := by
  rw [shortcutIntercepts, isAnyFnPressed_withValue]
  rfl

end Stored

/-! ## Reports at the end of a call -/

section Keeping

variable {holds : KbhRuntimeState → Prop} {nowMs : Int}

/-- What the reports of a frame keep, its end keeps. -/
theorem finishValueFrame_keeps
    (mouse : ∀ st, holds st → holds (sendMouseReportIfChanged st nowMs))
    (race : ∀ st, holds st → holds (sendRaceReportIfChanged config st))
    (initially : holds st) : holds (finishValueFrame config st nowMs) := by
  rw [finishValueFrame]
  split_ifs
  · exact race _ (mouse st initially)
  · exact mouse st initially
  · exact race st initially
  · exact initially

/-- The state whose slave keys are cleared. -/
def withoutSlaveKeys
    (config : KbHandlerConfig) (st : KbhRuntimeState) : KbhRuntimeState :=
  { st with
    pressedKeys := clearSlaveKeys config st.pressedKeys false
    currentValues := clearSlaveKeys config st.currentValues 0
    notifiedPressPercent := clearSlaveKeys config st.notifiedPressPercent 0
    values := clearSlaveKeys config st.values 0 }

/-- The keyboard report a slave reset ends with. -/
def reportAfterReset (config : KbHandlerConfig) (st : KbhRuntimeState) :
    KbhRuntimeState :=
  if st.activeMode = .normal ∨ st.activeMode = .mousesim then
    sendKbReportIfChanged config st
  else if st.activeMode = .race then
    sendRaceReportIfChanged config st
  else
    st

/-- A slave reset clears the keys, moves the mouse and then reports. -/
theorem handleSlaveKeysReset_eq
    (slave : config.keyCountSlave ≠ 0) (nowMs : Int) :
    handleSlaveKeysReset config st nowMs =
      reportAfterReset config
        (if st.activeMode = .mousesim then
          sendMouseReportIfChanged (withoutSlaveKeys config st) nowMs
        else
          withoutSlaveKeys config st) := by
  rw [handleSlaveKeysReset, if_neg slave]
  rfl

theorem reportAfterReset_keeps
    (report : ∀ st, holds st → holds (sendKbReportIfChanged config st))
    (race : ∀ st, holds st → holds (sendRaceReportIfChanged config st))
    (initially : holds st) : holds (reportAfterReset config st) := by
  rw [reportAfterReset]
  split_ifs
  · exact report st initially
  · exact race st initially
  · exact initially

/-- What its reports keep, a slave reset keeps once the keys are cleared. -/
theorem handleSlaveKeysReset_keeps
    (slave : config.keyCountSlave ≠ 0)
    (mouse : ∀ st, holds st → holds (sendMouseReportIfChanged st nowMs))
    (report : ∀ st, holds st → holds (sendKbReportIfChanged config st))
    (race : ∀ st, holds st → holds (sendRaceReportIfChanged config st))
    (cleared : holds (withoutSlaveKeys config st)) :
    holds (handleSlaveKeysReset config st nowMs) := by
  rw [handleSlaveKeysReset_eq slave]
  apply reportAfterReset_keeps report race
  split_ifs
  · exact mouse _ cleared
  · exact cleared

end Keeping

end Transitions

end YkbFirmware.KbHandler.Transition
