import YkbFirmware.KbHandler.MouseReports

/-!
# Wheel motion

Each mouse report takes the whole steps off the wheel total and leaves the
rest as the remainder for the next.  Do the steps reach the host?

The remainder is reduced whenever a report is built, but a report that equals
the last one is handed over only after 8 ms.  Frames come faster, so steps of
a wheel turned evenly are taken off the total and never sent.  The motion is
conserved exactly as long as every report with steps is handed over.
-/

namespace YkbFirmware.KbHandler.WheelMotion

open YkbFirmware.Library.TransitionSystem
open YkbFirmware.KbHandler.Settings
open YkbFirmware.KbHandler.Core
open YkbFirmware.KbHandler.Frames
open YkbFirmware.KbHandler.SettingsCheck
open YkbFirmware.KbHandler.KeyValues
open YkbFirmware.KbHandler.MouseRange
open YkbFirmware.KbHandler.MouseReports

/-! ## Runs with the computed motion -/

/-- The handler with the sum of the wheel deltas computed so far. -/
structure WheelRun where
  core : KbhRuntimeState
  computed : ℚ

section Definitions

variable (config : KbHandlerConfig)

/-- The wheel delta an event computes. -/
def computedDelta (st : KbhRuntimeState) (event : HandlerEvent) : ℚ :=
  match mousePass config st event with
  | none => 0
  | some (middle, _) => wheelDelta middle.settings middle.currentValues

def wheelStep (current : WheelRun) (event : HandlerEvent) :
    Option WheelRun :=
  (handlerStep config current.core event).map fun next =>
    ⟨next, current.computed + computedDelta config current.core event⟩

def wheelStart (settings : KbSettings) : WheelRun :=
  ⟨threadStart config settings, 0⟩

/-- The wheel steps of the mouse reports handed over. -/
def sentWheel (st : KbhRuntimeState) : Int :=
  ((mouseSends st).map HidMouseReport.wheel).sum

/-- What was computed was sent, or is still in the remainder. -/
def Conserved (current : WheelRun) : Prop :=
  (sentWheel current.core : ℚ) + current.core.mouseWheelRemainder =
    current.computed

instance (current : WheelRun) : Decidable (Conserved current) :=
  inferInstanceAs (Decidable (_ = _))

/--
If an event builds a mouse report, its wheel total makes no whole step, or the
report differs from the last one, or 8 ms have passed since that.
-/
def HandsSteps (current : WheelRun) (event : HandlerEvent) : Prop :=
  match mousePass config current.core event with
  | none => True
  | some (middle, nowMs) =>
      (-1 < wheelTotal middle ∧ wheelTotal middle < 1) ∨
        frameReport middle ≠ middle.prevMouseReport ∨
          nowMs - middle.lastMouseReportMs ≥ kbhMouseemuRepeatIntervalMs

end Definitions

/-! ## Steps -/

/-- No whole step is made strictly between -1 and 1. -/
theorem wheelSteps_eq_zero_iff (total : ℚ) :
    wheelSteps total = 0 ↔ -1 < total ∧ total < 1 := by
  have lower := le_tdiv_iff total 0
  have upper := le_tdiv_iff (-total) 0
  rw [Rat.neg_num, Rat.neg_den, Int.neg_tdiv] at upper
  norm_num at lower upper
  rw [← lower, ← upper, wheelSteps]
  split_ifs with above below
  · exact iff_of_false (by decide) (by omega)
  · exact iff_of_false (by decide) (by omega)
  · omega

section Steps

variable
    {config : KbHandlerConfig} {st next : KbhRuntimeState} {nowMs : Int}

/-- A report with steps is handed over if it is new or due. -/
theorem hands_iff (steps : wheelSteps (wheelTotal st) ≠ 0) :
    Hands st nowMs ↔
      frameReport st ≠ st.prevMouseReport ∨
        nowMs - st.lastMouseReportMs ≥ kbhMouseemuRepeatIntervalMs := by
  have motion : mouseReportHasMotion (frameReport st) = true :=
    decide_eq_true (.inr (.inr steps))
  rw [Hands, motion]
  simp only [true_and]

theorem MouseKept.sentWheel
    (kept : MouseKept st next) : sentWheel next = sentWheel st := by
  rw [WheelMotion.sentWheel, kept.sends, WheelMotion.sentWheel]

/-- What a report leaves of the sum of steps sent and remainder. -/
theorem sendMouseReportIfChanged_balance :
    (sentWheel (sendMouseReportIfChanged st nowMs) : ℚ) +
        (sendMouseReportIfChanged st nowMs).mouseWheelRemainder =
      sentWheel st + st.mouseWheelRemainder +
          wheelDelta st.settings st.currentValues -
        if Hands st nowMs then 0 else wheelSteps (wheelTotal st) := by
  rw [sendMouseReportIfChanged_remainder, wheelTotal]
  rcases @sendMouseReportIfChanged_cases st nowMs with
    ⟨hands, sends, _⟩ | ⟨keeps, sends, _⟩
  · rw [if_pos hands, sentWheel, sends, List.map_append, List.sum_append,
      sentWheel]
    simp only [frameReport, wheelTotal, List.map_cons, List.map_nil,
      List.sum_singleton, Int.cast_add, Int.cast_zero]
    linarith
  · rw [if_neg keeps, sentWheel, sends, sentWheel]
    linarith

/-- An event conserves the motion exactly if it hands over its steps. -/
theorem conserved_step
    {current after : WheelRun} {event : HandlerEvent}
    (conserved : Conserved current)
    (stepped : wheelStep config current event = some after) :
    Conserved after ↔ HandsSteps config current event := by
  rcases Option.map_eq_some_iff.mp stepped with ⟨next, steppedCore, rfl⟩
  have mouse := stepped_mouse steppedCore
  rw [Conserved] at conserved ⊢
  rw [HandsSteps, computedDelta]
  dsimp only
  cases pass : mousePass config current.core event with
  | none =>
      rw [pass] at mouse
      dsimp only at mouse ⊢
      rw [MouseKept.sentWheel mouse, mouse.mouseWheelRemainder, conserved,
        add_zero]
      exact iff_of_true rfl trivial
  | some passed =>
      rcases passed with ⟨middle, nowMs⟩
      rw [pass] at mouse
      rcases mouse with ⟨before, after⟩
      dsimp only
      rw [MouseKept.sentWheel after, after.mouseWheelRemainder,
        sendMouseReportIfChanged_balance, MouseKept.sentWheel before,
        before.mouseWheelRemainder, conserved]
      by_cases still : wheelSteps (wheelTotal middle) = 0
      · apply iff_of_true
        · rw [still]
          simp
        · exact .inl ((wheelSteps_eq_zero_iff _).mp still)
      · rw [or_iff_right (mt (wheelSteps_eq_zero_iff _).mpr still),
          ← hands_iff still]
        split_ifs with hands
        · simpa using hands
        · simpa [hands] using still

end Steps

/-! ## Runs -/

/--
For every run from the start of the handler thread: the wheel steps handed to
the transport and the remainder add up to the wheel deltas computed, in every
state of the run, if and only if every event hands over its steps.
-/
theorem wheel_motion_conserved_iff
    (config : KbHandlerConfig) (settings : KbSettings)
    (events : List HandlerEvent) :
    Throughout (wheelStep config) Conserved (wheelStart config settings)
        events ↔
      StepsMeet (wheelStep config) (HandsSteps config)
        (wheelStart config settings) events := by
  have total :
      ∀ current event, ∃ after, wheelStep config current event = some after := by
    intro current event
    rcases handlerStep_total config current.core event with ⟨next, stepped⟩
    exact ⟨_, by rw [wheelStep, stepped]; rfl⟩
  rcases run_total total (wheelStart config settings) events with
    ⟨finish, ran⟩
  rw [throughout_iff_stepsMeet
    (fun _ _ _ conserved stepped => conserved_step conserved stepped) ran]
  apply and_iff_right
  have unsent : sentWheel (threadStart config settings) = 0 := rfl
  have empty : (threadStart config settings).mouseWheelRemainder = 0 := rfl
  rw [Conserved, wheelStart, unsent, empty]
  norm_num

/-! ## Steps that are lost -/

/-- The wheel total of a report built stays in the range of a byte. -/
def InByte (config : KbHandlerConfig) (current : WheelRun)
    (event : HandlerEvent) : Prop :=
  match mousePass config current.core event with
  | none => True
  | some (middle, _) => -128 ≤ wheelTotal middle ∧ wheelTotal middle ≤ 127

instance (config : KbHandlerConfig) (current : WheelRun)
    (event : HandlerEvent) : Decidable (InByte config current event) := by
  unfold InByte
  split <;> infer_instance

/-- The uptime an event reads. -/
def uptime : HandlerEvent → Option Int
  | .keyValue _ _ _ => none
  | .frameEnd nowMs => some nowMs
  | .slaveReset nowMs => some nowMs

/-- Keys 0 and 1 turn the wheel, keys 4 to 7 move the mouse. -/
def scrollSettings : KbSettings :=
  { plainSettings with
    mode := .mousesim
    maximums := fun _ => 8
    mouseemu :=
      { plainSettings.mouseemu with
        enabled := true
        moveKeysCount := 4
        moveKeys := fun index => UInt16.ofNat (index + 4)
        scrollKeysCount := 2
        scrollKeys := fun index => UInt16.ofNat index
        scrollK := 1 } }

/-- Key 0 is held down over two frames, 1 ms apart. -/
def evenScroll : List HandlerEvent :=
  [.keyValue ⟨⟨0, fun _ => false, fun _ => 0⟩, true⟩ 0 8, .frameEnd 10,
    .frameEnd 11]

/-- It fails on `evenScroll`: eight of sixteen steps are sent. -/
theorem wheel_steps_lost :
    ¬ (∀ (config : KbHandlerConfig) (settings : KbSettings)
        (events : List HandlerEvent) (finish : WheelRun),
        settings.mode = .mousesim →
        mouseemuCheck config.totalKeyCount settings.mouseemu = none →
        (events.filterMap uptime).Pairwise (· ≤ ·) →
        StepsMeet (wheelStep config) (InByte config)
          (wheelStart config settings) events →
        run (wheelStep config) (wheelStart config settings) events =
            some finish →
          Conserved finish) := by
  intro always
  have ran :
      ∃ finish,
        run (wheelStep eightKeys) (wheelStart eightKeys scrollSettings)
            evenScroll =
          some finish ∧
        ¬ Conserved finish :=
    ⟨_, rfl, by decide +kernel⟩
  rcases ran with ⟨finish, ran, lost⟩
  exact
    lost
      (always eightKeys scrollSettings evenScroll finish rfl (by decide)
        (by decide) (by decide +kernel) ran)

end YkbFirmware.KbHandler.WheelMotion
