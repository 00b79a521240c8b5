import YkbFirmware.KbHandler.Transition

/-!
# What reaches the settings and the hosts

Of all a call of the core does, the settings, the derived mode and lists and
the keyboard reports handed to the transport matter to the rest of the
firmware.  Seen that way a key value either leaves the settings alone and may
send reports, or it runs one shortcut and sends none; the end of a frame and
a slave reset only send reports.
-/

namespace YkbFirmware.KbHandler.Effects

open YkbFirmware.KbHandler.Settings
open YkbFirmware.KbHandler.Report
open YkbFirmware.KbHandler.Core
open YkbFirmware.KbHandler.Frames
open YkbFirmware.KbHandler.Transition

/-! ## Effects -/

/-- The keyboard report of a call to the transport, with its priority. -/
def KbhOutput.kbSend? :
    KbhOutput → Option (HidKbReport × KbhTransportPrio)
  | .sendKbReport report prio => some (report, prio)
  | _ => none

/-- The keyboard reports handed to the transport so far. -/
def kbSends (st : KbhRuntimeState) : List (HidKbReport × KbhTransportPrio) :=
  st.outputs.filterMap KbhOutput.kbSend?

/-- Nothing changes that others see. -/
structure Silent (before after : KbhRuntimeState) : Prop where
  settings : after.settings = before.settings
  activeMode : after.activeMode = before.activeMode
  layer1Keys : after.layer1Keys = before.layer1Keys
  layer2Keys : after.layer2Keys = before.layer2Keys
  fnKeys : after.fnKeys = before.fnKeys
  prevKbReport : after.prevKbReport = before.prevKbReport
  sends : kbSends after = kbSends before

/-- Silent changes, with reports sent in between. -/
inductive Reports : KbhRuntimeState → KbhRuntimeState → Prop where
  | silent {before after} (quiet : Silent before after) :
      Reports before after
  | sent (before : KbhRuntimeState) (report : HidKbReport) :
      Reports before (sendKbReport before report)
  | trans {before middle after}
      (earlier : Reports before middle) (later : Reports middle after) :
      Reports before after

theorem Silent.refl (st : KbhRuntimeState) : Silent st st :=
  ⟨rfl, rfl, rfl, rfl, rfl, rfl, rfl⟩

theorem Silent.trans
    {before middle after : KbhRuntimeState}
    (earlier : Silent before middle) (later : Silent middle after) :
    Silent before after where
  settings := later.settings.trans earlier.settings
  activeMode := later.activeMode.trans earlier.activeMode
  layer1Keys := later.layer1Keys.trans earlier.layer1Keys
  layer2Keys := later.layer2Keys.trans earlier.layer2Keys
  fnKeys := later.fnKeys.trans earlier.fnKeys
  prevKbReport := later.prevKbReport.trans earlier.prevKbReport
  sends := later.sends.trans earlier.sends

theorem Reports.refl (st : KbhRuntimeState) : Reports st st :=
  .silent (.refl st)

/-! ## Silent steps -/

section Effects

variable
    {config : KbHandlerConfig} {env : KbhEnvironment}
    {st : KbhRuntimeState} {key : Nat} {status : Bool}

theorem kbSends_emit
    {output : KbhOutput} (other : KbhOutput.kbSend? output = none) :
    kbSends (st.emit output) = kbSends st := by
  simp [kbSends, KbhRuntimeState.emit, other]

theorem storeKeyValue_silent (value : UInt16) :
    Silent st (storeKeyValue config st key value) := by
  rw [storeKeyValue, notifyValueIfChanged]
  split_ifs
  · exact ⟨rfl, rfl, rfl, rfl, rfl, rfl, rfl⟩
  · exact ⟨rfl, rfl, rfl, rfl, rfl, rfl, kbSends_emit rfl⟩

theorem notedState_silent : Silent st (notedState st key status) :=
  ⟨rfl, rfl, rfl, rfl, rfl, rfl, kbSends_emit rfl⟩

theorem setConsumed_silent (consumed : Bool) :
    Silent st (st.setConsumed key consumed) :=
  ⟨rfl, rfl, rfl, rfl, rfl, rfl, rfl⟩

theorem sendMouseReportIfChanged_silent (nowMs : Int) :
    Silent st (sendMouseReportIfChanged st nowMs) := by
  rw [sendMouseReportIfChanged]
  dsimp only
  split_ifs
  · exact ⟨rfl, rfl, rfl, rfl, rfl, rfl, kbSends_emit rfl⟩
  · exact ⟨rfl, rfl, rfl, rfl, rfl, rfl, rfl⟩

/-! ## Steps that send reports -/

theorem reportTransition_reports :
    Reports st (reportTransition config st) := by
  rw [reportTransition]
  split_ifs
  · exact .sent st _
  · exact .refl st

theorem routeTransition_reports :
    Reports st (routeTransition config st key status) := by
  have layered :
      ∀ second third,
        Reports st
          (reportTransition config
            { st with
              secondLayerActive := second
              thirdLayerActive := third }) := by
    intro second third
    have set :
        Silent st
          { st with
            secondLayerActive := second
            thirdLayerActive := third } :=
      ⟨rfl, rfl, rfl, rfl, rfl, rfl, rfl⟩
    exact (Reports.silent set).trans reportTransition_reports
  rw [routeTransition]
  split_ifs
  · split
    · exact .refl st
    · exact layered _ _
  · split
    · exact .refl st
    · exact layered _ _
  · exact .refl st
  · exact reportTransition_reports

theorem sendRaceReportIfChanged_reports :
    Reports st (sendRaceReportIfChanged config st) := by
  have raced :
      Silent st
        { st with
          racePressedKeys := fun key =>
            decide ((raceChoice config st).maxIndex = some key) } :=
    ⟨rfl, rfl, rfl, rfl, rfl, rfl, rfl⟩
  exact (Reports.silent raced).trans (.sent _ _)

theorem finishValueFrame_reports (nowMs : Int) :
    Reports st (finishValueFrame config st nowMs) := by
  apply finishValueFrame_keeps
  · exact fun _ reports =>
      reports.trans (.silent (sendMouseReportIfChanged_silent nowMs))
  · exact fun _ reports => reports.trans sendRaceReportIfChanged_reports
  · exact .refl st

theorem handleSlaveKeysReset_reports (nowMs : Int) :
    Reports st (handleSlaveKeysReset config st nowMs) := by
  by_cases slave : config.keyCountSlave = 0
  · rw [handleSlaveKeysReset, if_pos slave]
    exact .refl st
  · have cleared : Silent st (withoutSlaveKeys config st) :=
      ⟨rfl, rfl, rfl, rfl, rfl, rfl, rfl⟩
    apply handleSlaveKeysReset_keeps slave
    · exact fun _ reports =>
        reports.trans (.silent (sendMouseReportIfChanged_silent nowMs))
    · exact fun moused reports => reports.trans (.sent moused _)
    · exact fun _ reports => reports.trans sendRaceReportIfChanged_reports
    · exact .silent cleared

/-! ## Key values -/

/-- The key value is a press that looks for a shortcut. -/
structure LooksForShortcut
    (config : KbHandlerConfig) (st : KbhRuntimeState)
    (key : Nat) (value : UInt16) : Prop where
  inRange : key < config.totalKeyCount
  up : st.pressedKeys key = false
  down : value ≥ st.settings.thresholds key
  unconsumed : st.shortcutConsumedKeys key = false
  notFn : st.resolvedHid key ≠ keyFn
  fnActive : isAnyFnPressed st key = true

/-- A transition sends reports, or it runs the shortcut of a pressed key. -/
theorem processKeyTransition_cases
    (env : KbhEnvironment) (inRange : key < config.totalKeyCount) :
    Reports st (processKeyTransition config env st key status) ∨
      st.shortcutConsumedKeys key = false ∧ status = true ∧
        st.resolvedHid key ≠ keyFn ∧ isAnyFnPressed st key = true ∧
          ∃ shortcut,
            findFnShortcut st.settings (st.resolvedHid key) =
                some shortcut ∧
              Silent
                (runFnShortcut config env (notedState st key status)
                  shortcut)
                (processKeyTransition config env st key status) := by
  have noted := Reports.silent (@notedState_silent st key status)
  have code :
      (notedState st key status).resolvedHid key = st.resolvedHid key :=
    rfl
  rw [processKeyTransition_eq env inRange, maybeHandleFnShortcut,
    isAnyFnPressed_noted, code]
  by_cases consumed : (notedState st key status).shortcutConsumedKeys key
  · left
    rw [if_pos consumed, Option.getD_some]
    split_ifs
    · exact noted.trans (.silent (setConsumed_silent false))
    · exact noted
  · rw [if_neg consumed]
    by_cases passes :
        status = false ∨ st.resolvedHid key = keyFn ∨
          isAnyFnPressed st key = false
    · left
      rw [if_pos passes, Option.getD_none]
      split_ifs
      · exact noted
      · exact noted.trans routeTransition_reports
    · rw [if_neg passes]
      simp only [not_or, Bool.not_eq_false] at passes
      rcases passes with ⟨pressed, notFn, fnActive⟩
      cases found :
          findFnShortcut (notedState st key status).settings
            (st.resolvedHid key) with
      | none =>
          left
          exact noted.trans (.silent (setConsumed_silent true))
      | some shortcut =>
          right
          refine ⟨?_, pressed, notFn, fnActive, shortcut, found, ?_⟩
          · exact (Bool.not_eq_true _).mp consumed
          · exact setConsumed_silent true

/-- A key value sends reports, or it runs the shortcut it looks for. -/
theorem processKeyValue_cases (env : KbhEnvironment) (value : UInt16) :
    Reports st (processKeyValue config env st key value).1 ∨
      LooksForShortcut config st key value ∧
        ∃ shortcut middle,
          findFnShortcut st.settings (st.resolvedHid key) =
              some shortcut ∧
            Silent st middle ∧
              Silent (runFnShortcut config env middle shortcut)
                (processKeyValue config env st key value).1 := by
  have stored := @storeKeyValue_silent config st key value
  rw [processKeyValue]
  dsimp only
  split_ifs with outside unchanged
  · exact .inl (.refl st)
  · exact .inl (.silent stored)
  · have inRange := Nat.not_le.mp outside
    rcases processKeyTransition_cases env inRange with
      reported | ⟨unconsumed, pressed, notFn, fnActive, shortcut, found,
        ran⟩
    · exact .inl ((Reports.silent stored).trans reported)
    · right
      have same := storeKeyValue_eq config st key value
      rcases same with ⟨notified, outputs, same, _⟩
      rw [pressed, Bool.not_eq_true] at unchanged
      rw [same] at unconsumed notFn fnActive found
      rw [isAnyFnPressed_withValue] at fnActive
      refine ⟨?_, shortcut, _, found, stored.trans notedState_silent, ran⟩
      exact
        ⟨inRange, unchanged, of_decide_eq_true pressed, unconsumed, notFn,
          fnActive⟩

end Effects

end YkbFirmware.KbHandler.Effects
