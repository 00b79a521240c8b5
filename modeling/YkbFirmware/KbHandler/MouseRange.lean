import Mathlib.Tactic.Linarith
import YkbFirmware.KbHandler.SettingsCheck
import YkbFirmware.KbHandler.Frames

/-!
# The range of mouse reports

The report descriptors of both transports declare -127 to 127 for x, y and
the wheel.  `clamp_s8` and the clamp of the wheel go down to -128, the least
signed byte, so a fast move to the left or up, or a wheel total of -128 or
less, builds a report outside the declared range.
-/

namespace YkbFirmware.KbHandler.MouseRange

open YkbFirmware.KbHandler.Settings
open YkbFirmware.KbHandler.SettingsCheck
open YkbFirmware.KbHandler.Core
open YkbFirmware.KbHandler.Frames

/-! ## The declared range -/

/-- `HID_LOGICAL_MIN8` of the axes in both `hid_mouse_report_desc`. -/
def hidLogicalMin8 : Int := -127

/-- `HID_LOGICAL_MAX8` of the axes in both `hid_mouse_report_desc`. -/
def hidLogicalMax8 : Int := 127

def InLogicalRange (axis : Int) : Prop :=
  hidLogicalMin8 ≤ axis ∧ axis ≤ hidLogicalMax8

/-- The axes of the report are in the range its descriptor declares. -/
structure Declared (report : HidMouseReport) : Prop where
  x : InLogicalRange report.x
  y : InLogicalRange report.y
  wheel : InLogicalRange report.wheel

/-! ## Motion before the clamps -/

section Motion

variable (settings : KbSettings) (currentValues : Nat → UInt16)

/-- The difference of two vectors, scaled. -/
def vectorDifference
    (positive negative : Nat × Nat × Nat) (scale : ℚ) : ℚ :=
  let vector := fun indices : Nat × Nat × Nat =>
    ((mouseemuVectorValue settings currentValues settings.mouseemu indices.1
      indices.2.1 indices.2.2).toNat : Int)
  ((vector positive - vector negative : Int) : ℚ) * scale

/-- `(x_pos - x_neg) * move_x_k`. -/
def moveX : ℚ :=
  vectorDifference settings currentValues (5, 3, 7) (6, 0, 4)
    settings.mouseemu.moveXK

/-- `(y_neg - y_pos) * move_y_k`. -/
def moveY : ℚ :=
  vectorDifference settings currentValues (7, 2, 6) (4, 1, 5)
    settings.mouseemu.moveYK

/-- Emulation is enabled and has move keys. -/
def MovesMouse : Prop :=
  settings.mouseemu.enabled = true ∧ settings.mouseemu.moveKeysCount > 0

/-- The wheel delta of a frame. -/
def wheelDelta : ℚ :=
  if settings.mouseemu.enabled = true ∧ settings.mouseemu.scrollKeysCount = 2
  then
    mouseemuScrollDelta settings currentValues settings.mouseemu
  else
    0

/--
No move goes 127.5 or further to the left or up, and the wheel total stays
above -128.
-/
structure StaysAbove (mouseWheelRemainder : ℚ) : Prop where
  x : MovesMouse settings → -(255 / 2) < moveX settings currentValues
  y : MovesMouse settings → -(255 / 2) < moveY settings currentValues
  wheel : -128 < mouseWheelRemainder + wheelDelta settings currentValues

variable {settings currentValues} {pressedKeys : Nat → Bool}

/-- The axes `mouseemu_value_handler` writes. -/
theorem mouseemuValueHandler_axes :
    let report :=
      (mouseemuValueHandler settings currentValues pressedKeys).1
    (MovesMouse settings →
        report.x = clampS8 (moveX settings currentValues) ∧
          report.y = clampS8 (moveY settings currentValues)) ∧
      (¬ MovesMouse settings → report.x = 0 ∧ report.y = 0) := by
  rw [mouseemuValueHandler, MovesMouse]
  cases enabled : settings.mouseemu.enabled with
  | false => simp [HidMouseReport.zero]
  | true =>
      constructor
      · rintro ⟨_, moves⟩
        simp only [Bool.true_eq_false, if_false, moves, if_true]
        exact ⟨rfl, rfl⟩
      · intro none
        have still : ¬ settings.mouseemu.moveKeysCount > 0 :=
          fun moves => none ⟨rfl, moves⟩
        simp only [Bool.true_eq_false, if_false, still, and_self]

theorem mouseemuValueHandler_wheelDelta :
    (mouseemuValueHandler settings currentValues pressedKeys).2 =
      wheelDelta settings currentValues := by
  rw [mouseemuValueHandler, wheelDelta]
  cases settings.mouseemu.enabled with
  | false => rfl
  | true => simp

end Motion

/-! ## The clamps -/

theorem clampS8_le (v : ℚ) : clampS8 v ≤ 127 := by
  rw [clampS8, lround]
  split_ifs with above below up
  · exact le_refl _
  · decide
  · rw [← Int.lt_add_one_iff, Int.floor_lt]
    push_cast
    linarith
  · have rounded : 0 ≤ ⌊-v + 1 / 2⌋ := Int.floor_nonneg.mpr (by linarith)
    omega

/-- A move rounds to -128 from -127.5 downwards. -/
theorem le_clampS8_iff (v : ℚ) : -127 ≤ clampS8 v ↔ -(255 / 2) < v := by
  rw [clampS8, lround]
  split_ifs with above below up
  · exact iff_of_true (by decide) (by linarith)
  · exact iff_of_false (by decide) (by linarith)
  · have rounded : 0 ≤ ⌊v + 1 / 2⌋ := Int.floor_nonneg.mpr (by linarith)
    exact iff_of_true (by omega) (by linarith)
  · rw [neg_le_neg_iff, ← Int.lt_add_one_iff, Int.floor_lt]
    push_cast
    constructor <;> intro bound <;> linarith

/-- Truncation stays above a bound while the number stays above the next. -/
theorem le_tdiv_iff (t : ℚ) (bound : Nat) :
    -(bound : Int) ≤ t.num.tdiv t.den ↔ -((bound : ℚ) + 1) < t := by
  have positive : (0 : Int) < t.den := Int.natCast_pos.mpr t.den_pos
  have cross :
      -((bound : ℚ) + 1) < t ↔
        -((bound : Int) + 1) * (t.den : Int) < t.num := by
    conv_lhs => rw [← Rat.num_div_den t]
    rw [lt_div_iff₀ (by exact_mod_cast t.den_pos)]
    norm_cast
  rw [cross]
  rcases le_or_gt 0 t.num with up | down
  · have truncated := Int.tdiv_nonneg up positive.le
    apply iff_of_true
    · omega
    · rw [neg_mul]
      have below : 0 < ((bound : Int) + 1) * (t.den : Int) :=
        Int.mul_pos (by omega) positive
      omega
  · have negative : t.num = -(t.num.natAbs : Int) := by omega
    rw [negative, Int.neg_tdiv, Int.tdiv_eq_ediv_of_nonneg (by omega),
      neg_le_neg_iff, ← Int.lt_add_one_iff,
      Int.ediv_lt_iff_lt_mul positive, neg_mul, neg_lt_neg_iff]

theorem wheelSteps_le (wheelTotal : ℚ) : wheelSteps wheelTotal ≤ 127 := by
  rw [wheelSteps]
  split_ifs with above
  · exact le_refl _
  · decide
  · exact not_lt.mp above

theorem le_wheelSteps_iff (wheelTotal : ℚ) :
    -127 ≤ wheelSteps wheelTotal ↔ -128 < wheelTotal := by
  have truncated := le_tdiv_iff wheelTotal 127
  norm_num at truncated
  rw [← truncated, wheelSteps]
  split_ifs <;> omega

theorem inLogicalRange_clampS8_iff (v : ℚ) :
    InLogicalRange (clampS8 v) ↔ -(255 / 2) < v :=
  (and_iff_left (clampS8_le v)).trans (le_clampS8_iff v)

theorem inLogicalRange_wheelSteps_iff (wheelTotal : ℚ) :
    InLogicalRange (wheelSteps wheelTotal) ↔ -128 < wheelTotal :=
  (and_iff_left (wheelSteps_le wheelTotal)).trans
    (le_wheelSteps_iff wheelTotal)

/-! ## Built reports -/

section Reports

variable
    {settings : KbSettings} {currentValues : Nat → UInt16}
    {pressedKeys : Nat → Bool}

/-- The axes leave the declared range only by a move that goes too far. -/
theorem mouseemuValueHandler_inRange :
    let report :=
      (mouseemuValueHandler settings currentValues pressedKeys).1
    (InLogicalRange report.x ↔
        (MovesMouse settings →
          -(255 / 2) < moveX settings currentValues)) ∧
      (InLogicalRange report.y ↔
        (MovesMouse settings →
          -(255 / 2) < moveY settings currentValues)) := by
  have axes :=
    @mouseemuValueHandler_axes settings currentValues pressedKeys
  have still : InLogicalRange 0 := ⟨by decide, by decide⟩
  dsimp only at axes ⊢
  by_cases moves : MovesMouse settings
  · rcases axes.1 moves with ⟨x, y⟩
    rw [x, y, inLogicalRange_clampS8_iff, inLogicalRange_clampS8_iff]
    exact ⟨(imp_iff_right moves).symm, (imp_iff_right moves).symm⟩
  · rcases axes.2 moves with ⟨x, y⟩
    rw [x, y]
    exact
      ⟨iff_of_true still fun moving => absurd moving moves,
        iff_of_true still fun moving => absurd moving moves⟩

/-- The report a frame end builds: the axes, and the steps of the wheel. -/
theorem sendMouseReport_mouseReport (st : KbhRuntimeState) (nowMs : Int) :
    (sendMouseReportIfChanged st nowMs).mouseReport =
      { (mouseemuValueHandler st.settings st.currentValues
          st.pressedKeys).1 with
        wheel :=
          wheelSteps
            (st.mouseWheelRemainder +
              wheelDelta st.settings st.currentValues) } := by
  rw [sendMouseReportIfChanged, mouseemuValueHandler_wheelDelta]
  dsimp only
  split_ifs
  · rfl
  · rfl

end Reports

/--
For all settings, all key values and every wheel remainder: the mouse report
built for sending is in the range of its descriptor if and only if the motion
stays above the least signed byte.
-/
theorem built_report_declared_iff (st : KbhRuntimeState) (nowMs : Int) :
    Declared (sendMouseReportIfChanged st nowMs).mouseReport ↔
      StaysAbove st.settings st.currentValues st.mouseWheelRemainder := by
  have axes :=
    @mouseemuValueHandler_inRange st.settings st.currentValues st.pressedKeys
  have wheel :=
    inLogicalRange_wheelSteps_iff
      (st.mouseWheelRemainder + wheelDelta st.settings st.currentValues)
  rw [sendMouseReport_mouseReport]
  constructor
  · intro declared
    exact
      ⟨axes.1.mp declared.x, axes.2.mp declared.y, wheel.mp declared.wheel⟩
  · intro stays
    exact ⟨axes.1.mpr stays.x, axes.2.mpr stays.y, wheel.mpr stays.wheel⟩

/-! ## A report outside the range -/

/-- Four move keys, of which the first, moving left, is key 0. -/
def fastSettings : KbSettings :=
  { plainSettings with
    mode := .mousesim
    maximums := fun _ => 100
    mouseemu :=
      { plainSettings.mouseemu with
        enabled := true
        moveKeysCount := 4
        moveKeys := fun index => UInt16.ofNat index
        moveXK := 2
        moveYK := 2 } }

/-- It fails on `fastSettings`: key 0 pressed down moves by -128. -/
theorem report_below_range :
    ¬ (∀ (totalKeyCount : Nat) (st : KbhRuntimeState) (nowMs : Int),
        mouseemuCheck totalKeyCount st.settings.mouseemu = none →
          Declared (sendMouseReportIfChanged st nowMs).mouseReport) := by
  intro always
  have declared :=
    always eightKeys.totalKeyCount
      { threadStart eightKeys fastSettings with
        currentValues := fun key => if key = 0 then 100 else 0 }
      0 (by decide)
  exact absurd declared.x.1 (by decide +kernel)

end YkbFirmware.KbHandler.MouseRange
