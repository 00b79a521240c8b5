import YkbFirmware.KbHandler.KeyValues
import YkbFirmware.KbHandler.MouseRange

/-!
# When mouse reports are built

Mouse reports are built at the end of a frame and after a slave reset, both
in MOUSESIM mode only.  Everything else leaves the reports, their time and
the wheel remainder alone.  `stepped_mouse` says so for every event.
-/

namespace YkbFirmware.KbHandler.MouseReports

open YkbFirmware.Library.TransitionSystem
open YkbFirmware.KbHandler.Settings
open YkbFirmware.KbHandler.Report
open YkbFirmware.KbHandler.Core
open YkbFirmware.KbHandler.Frames
open YkbFirmware.KbHandler.Transition
open YkbFirmware.KbHandler.KeyValues
open YkbFirmware.KbHandler.MouseRange

/-! ## Reports handed over -/

/-- The mouse report of a call to the transport. -/
def KbhOutput.mouseReport? : KbhOutput → Option HidMouseReport
  | .sendMouseReport report _ => some report
  | _ => none

/-- The mouse reports handed to the transport so far. -/
def mouseSends (st : KbhRuntimeState) : List HidMouseReport :=
  st.outputs.filterMap KbhOutput.mouseReport?

/-- No mouse report is built or handed over in between. -/
structure MouseKept (before after : KbhRuntimeState) : Prop where
  sends : mouseSends after = mouseSends before
  prevMouseReport : after.prevMouseReport = before.prevMouseReport
  lastMouseReportMs : after.lastMouseReportMs = before.lastMouseReportMs
  mouseWheelRemainder :
    after.mouseWheelRemainder = before.mouseWheelRemainder

/-- The wheel total of a report built now. -/
def wheelTotal (st : KbhRuntimeState) : ℚ :=
  st.mouseWheelRemainder + wheelDelta st.settings st.currentValues

/-- The report built now. -/
def frameReport (st : KbhRuntimeState) : HidMouseReport :=
  { (mouseemuValueHandler st.settings st.currentValues st.pressedKeys).1 with
    wheel := wheelSteps (wheelTotal st) }

/-- The report built now is handed over. -/
def Hands (st : KbhRuntimeState) (nowMs : Int) : Prop :=
  frameReport st ≠ st.prevMouseReport ∨
    mouseReportHasMotion (frameReport st) = true ∧
      nowMs - st.lastMouseReportMs ≥ kbhMouseemuRepeatIntervalMs

instance (st : KbhRuntimeState) (nowMs : Int) : Decidable (Hands st nowMs) :=
  inferInstanceAs (Decidable (_ ∨ _ ∧ _))

/--
The state and the time in which an event builds a mouse report; `none` for
events which build none.
-/
def mousePass (config : KbHandlerConfig) (st : KbhRuntimeState) :
    HandlerEvent → Option (KbhRuntimeState × Int)
  | .keyValue _ _ _ => none
  | .frameEnd nowMs =>
      if st.activeMode = .mousesim then some (st, nowMs) else none
  | .slaveReset nowMs =>
      if config.keyCountSlave ≠ 0 ∧ st.activeMode = .mousesim then
        some (withoutSlaveKeys config st, nowMs)
      else
        none

section Keeping

variable
    {config : KbHandlerConfig} {env : KbhEnvironment}
    {st next : KbhRuntimeState} {key : Nat} {value : UInt16}

theorem MouseKept.refl (st : KbhRuntimeState) : MouseKept st st :=
  ⟨rfl, rfl, rfl, rfl⟩

theorem MouseKept.trans
    {first second third : KbhRuntimeState}
    (earlier : MouseKept first second) (later : MouseKept second third) :
    MouseKept first third where
  sends := later.sends.trans earlier.sends
  prevMouseReport := later.prevMouseReport.trans earlier.prevMouseReport
  lastMouseReportMs :=
    later.lastMouseReportMs.trans earlier.lastMouseReportMs
  mouseWheelRemainder :=
    later.mouseWheelRemainder.trans earlier.mouseWheelRemainder

/-- A call that is no mouse report adds none. -/
theorem mouseSends_emit
    {output : KbhOutput} (other : KbhOutput.mouseReport? output = none) :
    mouseSends (st.emit output) = mouseSends st := by
  simp [mouseSends, KbhRuntimeState.emit, other]

theorem storeKeyValue_mouseKept :
    MouseKept st (storeKeyValue config st key value) := by
  rw [storeKeyValue, notifyValueIfChanged]
  split_ifs
  · exact ⟨rfl, rfl, rfl, rfl⟩
  · exact ⟨mouseSends_emit rfl, rfl, rfl, rfl⟩

theorem notedValue_mouseKept :
    MouseKept st (notedValue config st key value) :=
  storeKeyValue_mouseKept.trans ⟨mouseSends_emit rfl, rfl, rfl, rfl⟩

theorem runFnShortcut_mouseKept (shortcut : KbFnShortcut) :
    MouseKept st (runFnShortcut config env st shortcut) := by
  rw [runFnShortcut]
  split
  · exact .refl st
  · dsimp only
    split_ifs
    · exact ⟨mouseSends_emit rfl, rfl, rfl, rfl⟩
    · exact ⟨mouseSends_emit rfl, rfl, rfl, rfl⟩

theorem sendKbReport_mouseKept (report : HidKbReport) :
    MouseKept st (sendKbReport st report) := by
  rw [sendKbReport]
  dsimp only
  split_ifs
  · exact ⟨rfl, rfl, rfl, rfl⟩
  · exact ⟨mouseSends_emit rfl, rfl, rfl, rfl⟩

theorem reportTransition_mouseKept :
    MouseKept st (reportTransition config st) := by
  rw [reportTransition]
  split_ifs
  · exact sendKbReport_mouseKept _
  · exact .refl st

theorem sendRaceReportIfChanged_mouseKept :
    MouseKept st (sendRaceReportIfChanged config st) := by
  have raced :
      MouseKept st
        { st with
          racePressedKeys := fun key =>
            decide ((raceChoice config st).maxIndex = some key) } :=
    ⟨rfl, rfl, rfl, rfl⟩
  exact raced.trans (sendKbReport_mouseKept _)

theorem reportAfterReset_mouseKept :
    MouseKept st (reportAfterReset config st) := by
  apply reportAfterReset_keeps
  · exact fun _ kept => kept.trans (sendKbReport_mouseKept _)
  · exact fun _ kept => kept.trans sendRaceReportIfChanged_mouseKept
  · exact .refl st

/-- No key value touches the mouse. -/
theorem keyValue_mouseKept
    (step : KeyValueStep config env st key value next) :
    MouseKept st next := by
  have noted := @notedValue_mouseKept config st key value
  cases step with
  | outside => exact .refl st
  | steady => exact storeKeyValue_mouseKept
  | consumed | unmatched => exact noted.trans ⟨rfl, rfl, rfl, rfl⟩
  | shortcut =>
      exact (noted.trans (runFnShortcut_mouseKept _)).trans ⟨rfl, rfl, rfl, rfl⟩
  | race | silent => exact noted
  | @rebuilt _ _ layers =>
      have layered :
          MouseKept st
            (withLayers (notedValue config st key value) layers) :=
        noted.trans ⟨rfl, rfl, rfl, rfl⟩
      exact layered.trans reportTransition_mouseKept

end Keeping

/-! ## One report -/

section Reports

variable
    {config : KbHandlerConfig} {st next : KbhRuntimeState} {nowMs : Int}

/-- What building a report does. -/
theorem sendMouseReportIfChanged_cases :
    (Hands st nowMs ∧
        mouseSends (sendMouseReportIfChanged st nowMs) =
          mouseSends st ++ [frameReport st] ∧
        (sendMouseReportIfChanged st nowMs).prevMouseReport =
          frameReport st) ∨
      (¬ Hands st nowMs ∧
        mouseSends (sendMouseReportIfChanged st nowMs) = mouseSends st ∧
        (sendMouseReportIfChanged st nowMs).prevMouseReport =
          st.prevMouseReport) := by
  have decided :
      (decide (frameReport st ≠ st.prevMouseReport) ||
          mouseReportHasMotion (frameReport st) &&
            decide
              (nowMs - st.lastMouseReportMs ≥ kbhMouseemuRepeatIntervalMs)) =
        true ↔ Hands st nowMs := by
    simp only [Bool.or_eq_true, Bool.and_eq_true, decide_eq_true_eq, Hands]
  rw [sendMouseReportIfChanged, mouseemuValueHandler_wheelDelta,
    ← wheelTotal]
  dsimp only
  rw [← frameReport]
  by_cases hands : Hands st nowMs
  · left
    rw [if_pos (decided.mpr hands)]
    exact ⟨hands, List.filterMap_append, rfl⟩
  · right
    rw [if_neg (mt decided.mp hands)]
    exact ⟨hands, rfl, rfl⟩

/-- What no whole steps are taken of stays in the remainder. -/
theorem sendMouseReportIfChanged_remainder :
    (sendMouseReportIfChanged st nowMs).mouseWheelRemainder =
      wheelTotal st - wheelSteps (wheelTotal st) := by
  rw [sendMouseReportIfChanged, mouseemuValueHandler_wheelDelta,
    ← wheelTotal]
  dsimp only
  split_ifs <;> rfl

theorem sendMouseReportIfChanged_activeMode :
    (sendMouseReportIfChanged st nowMs).activeMode = st.activeMode := by
  rcases @sendMouseReportIfChanged_frameKept st nowMs with
    ⟨_, _, _, _, _, _, _, _, kept⟩
  rw [kept]

/-! ## Events -/

/-- Outside mouse emulation no event builds a mouse report. -/
theorem mousePass_outside
    (outside : st.activeMode ≠ .mousesim) (event : HandlerEvent) :
    mousePass config st event = none := by
  cases event with
  | keyValue => rfl
  | frameEnd | slaveReset => simp only [mousePass, outside, and_false, if_false]

/-- Clearing the slave keys leaves the mouse alone. -/
theorem withoutSlaveKeys_mouseKept :
    MouseKept st (withoutSlaveKeys config st) :=
  ⟨rfl, rfl, rfl, rfl⟩

/-- An event builds a mouse report in its pass, or leaves the mouse alone. -/
theorem stepped_mouse
    {event : HandlerEvent}
    (stepped : handlerStep config st event = some next) :
    match mousePass config st event with
    | none => MouseKept st next
    | some (middle, nowMs) =>
        MouseKept st middle ∧
          MouseKept (sendMouseReportIfChanged middle nowMs) next := by
  cases event with
  | keyValue env key value =>
      cases stepped
      exact keyValue_mouseKept (processKeyValue_step env)
  | frameEnd nowMs =>
      cases stepped
      rw [mousePass, finishValueFrame]
      by_cases emulates : st.activeMode = .mousesim
      · simp only [emulates, if_true, sendMouseReportIfChanged_activeMode]
        exact ⟨.refl st, .refl _⟩
      · simp only [emulates, if_false]
        split_ifs
        · exact sendRaceReportIfChanged_mouseKept
        · exact .refl st
  | slaveReset nowMs =>
      cases stepped
      rw [mousePass]
      by_cases slave : config.keyCountSlave = 0
      · rw [if_neg fun both => both.1 slave, handleSlaveKeysReset,
          if_pos slave]
        exact .refl st
      · by_cases emulates : st.activeMode = .mousesim
        · rw [if_pos ⟨slave, emulates⟩]
          refine ⟨withoutSlaveKeys_mouseKept, ?_⟩
          rw [handleSlaveKeysReset_eq slave, if_pos emulates]
          exact reportAfterReset_mouseKept
        · rw [if_neg fun both => emulates both.2,
            handleSlaveKeysReset_eq slave, if_neg emulates]
          exact withoutSlaveKeys_mouseKept.trans reportAfterReset_mouseKept

end Reports

end YkbFirmware.KbHandler.MouseReports
