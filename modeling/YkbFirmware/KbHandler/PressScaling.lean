import YkbFirmware.Library.RoundedDivision
import YkbFirmware.KbHandler.KeyEvents

/-!
# How far a key is pressed

`key_value_from_minimum_range_scaled` maps a reading between the minimum
raised by the deadzone and the maximum to a scale.  In 32-bit arithmetic none
of its operations overflows or divides by zero, so its result is the rounded
part of the span, and what holds of that part holds of the result.
-/

namespace YkbFirmware.KbHandler.PressScaling

open YkbFirmware.Library.RoundedDivision
open YkbFirmware.KbHandler.Settings
open YkbFirmware.KbHandler.Core
open YkbFirmware.KbHandler.KeyEvents

/-! ## Checked arithmetic -/

def checkedAdd (left right : UInt32) : Option UInt32 :=
  if left.toNat + right.toNat < 2 ^ 32 then some (left + right) else none

def checkedSub (left right : UInt32) : Option UInt32 :=
  if right.toNat ≤ left.toNat then some (left - right) else none

def checkedMul (left right : UInt32) : Option UInt32 :=
  if left.toNat * right.toNat < 2 ^ 32 then some (left * right) else none

def checkedDiv (left right : UInt32) : Option UInt32 :=
  if right = 0 then none else some (left / right)

/-- The cast to `uint16_t`, where it loses nothing. -/
def checkedNarrow (value : UInt32) : Option UInt16 :=
  if value.toNat < 2 ^ 16 then some value.toUInt16 else none

/-- The expression `key_value_from_minimum_range_scaled` returns. -/
def checkedPart (active span : UInt32) (scaleMax : UInt16) : Option UInt16 :=
  (checkedMul active scaleMax.toUInt32).bind fun product =>
  (checkedDiv span 2).bind fun half =>
  (checkedAdd product half).bind fun rounded =>
  (checkedDiv rounded span).bind fun quotient =>
    checkedNarrow quotient

/--
`key_value_from_minimum_range_scaled`; `none` if one of its operations leaves
its type or divides by zero.
-/
def checkedKeyValue
    (currentValue minimum maximum deadzone scaleMax : UInt16) :
    Option UInt16 :=
  (checkedAdd minimum.toUInt32 deadzone.toUInt32).bind fun sum =>
    if maximum ≤ minimum then
      some 0
    else
      let baseline := if sum > maximum.toUInt32 then maximum.toUInt32 else sum
      if currentValue.toUInt32 ≤ baseline then
        some 0
      else
        let current :=
          (if currentValue > maximum then maximum else currentValue).toUInt32
        (checkedSub maximum.toUInt32 baseline).bind fun span =>
          if span = 0 then
            some 0
          else
            (checkedSub current baseline).bind fun active =>
              checkedPart active span scaleMax

section Arithmetic

variable {left right : UInt32}

theorem checkedAdd_eq_some (fits : left.toNat + right.toNat < 2 ^ 32) :
    checkedAdd left right = some (left + right) :=
  if_pos fits

theorem checkedSub_eq_some (ordered : right.toNat ≤ left.toNat) :
    checkedSub left right = some (left - right) :=
  if_pos ordered

theorem checkedMul_eq_some (fits : left.toNat * right.toNat < 2 ^ 32) :
    checkedMul left right = some (left * right) :=
  if_pos fits

theorem checkedDiv_eq_some (nonzero : right ≠ 0) :
    checkedDiv left right = some (left / right) :=
  if_neg nonzero

end Arithmetic

/-! ## The result -/

/--
A part of a span is scaled and rounded within the types, and the result is
the rounded quotient.
-/
theorem checkedPart_eq
    {active span : UInt32} {scaleMax : UInt16}
    (part : active.toNat ≤ span.toNat) (short : span.toNat < 2 ^ 16)
    (proper : span ≠ 0) :
    checkedPart active span scaleMax =
        some
          ((active * scaleMax.toUInt32 + span / 2) / span).toUInt16 ∧
      ((active * scaleMax.toUInt32 + span / 2) / span).toUInt16.toNat =
        roundedDiv (active.toNat * scaleMax.toNat) span.toNat := by
  have scale := scaleMax.toNat_lt
  have half : (span / 2).toNat = span.toNat / 2 := rfl
  have inSpan :
      active.toNat * scaleMax.toNat ≤ span.toNat * scaleMax.toNat :=
    Nat.mul_le_mul_right _ part
  -- the product and half a span fit into 32 bits together
  have inWord : span.toNat * scaleMax.toNat ≤ (2 ^ 16 - 1) * (2 ^ 16 - 1) :=
    Nat.mul_le_mul (by omega) (by omega)
  have product :
      (active * scaleMax.toUInt32).toNat = active.toNat * scaleMax.toNat := by
    rw [UInt32.toNat_mul, UInt16.toNat_toUInt32]
    exact Nat.mod_eq_of_lt (by omega)
  have quotient :
      ((active * scaleMax.toUInt32 + span / 2) / span).toNat =
        roundedDiv (active.toNat * scaleMax.toNat) span.toNat := by
    rw [UInt32.toNat_div, UInt32.toNat_add, product, half, roundedDiv,
      Nat.mod_eq_of_lt (by omega)]
  have narrow :
      ((active * scaleMax.toUInt32 + span / 2) / span).toNat < 2 ^ 16 := by
    rw [quotient]
    exact Nat.lt_of_le_of_lt (roundedDiv_le inSpan) scale
  constructor
  · rw [checkedPart,
      checkedMul_eq_some (by rw [UInt16.toNat_toUInt32]; omega),
      Option.bind_some, checkedDiv_eq_some (by decide), Option.bind_some,
      checkedAdd_eq_some (by rw [product, half]; omega), Option.bind_some,
      checkedDiv_eq_some proper, Option.bind_some, checkedNarrow,
      if_pos narrow]
  · rw [UInt32.toNat_toUInt16, Nat.mod_eq_of_lt narrow, quotient]

/-- Above a baseline the checks pass, also where the span is empty. -/
theorem checkedSpan_eq
    {baseline : UInt32} {clipped maximum : UInt16} (scaleMax : UInt16)
    (above : baseline.toNat ≤ clipped.toNat)
    (inside : clipped.toNat ≤ maximum.toNat) :
    let span := maximum.toUInt32 - baseline
    let active := clipped.toUInt32 - baseline
    let scaled :=
      if span = 0 then
        0
      else
        ((active * scaleMax.toUInt32 + span / 2) / span).toUInt16
    ((checkedSub maximum.toUInt32 baseline).bind fun span =>
        if span = 0 then
          some 0
        else
          (checkedSub clipped.toUInt32 baseline).bind fun active =>
            checkedPart active span scaleMax) =
        some scaled ∧
      scaled.toNat =
        roundedDiv ((clipped.toNat - baseline.toNat) * scaleMax.toNat)
          (maximum.toNat - baseline.toNat) := by
  intro span active scaled
  have maximum_lt := maximum.toNat_lt
  have spanOrdered : baseline.toNat ≤ maximum.toUInt32.toNat := by
    rw [UInt16.toNat_toUInt32]
    exact above.trans inside
  have activeOrdered : baseline.toNat ≤ clipped.toUInt32.toNat := by
    rw [UInt16.toNat_toUInt32]
    exact above
  have spanEq : span.toNat = maximum.toNat - baseline.toNat :=
    UInt32.toNat_sub_of_le _ _ (UInt32.le_iff_toNat_le.mpr spanOrdered)
  have activeEq : active.toNat = clipped.toNat - baseline.toNat :=
    UInt32.toNat_sub_of_le _ _ (UInt32.le_iff_toNat_le.mpr activeOrdered)
  have part : active.toNat ≤ span.toNat := by
    rw [spanEq, activeEq]
    omega
  have short : span.toNat < 2 ^ 16 := by
    rw [spanEq]
    omega
  rw [checkedSub_eq_some spanOrdered, Option.bind_some,
    checkedSub_eq_some activeOrdered, Option.bind_some, ← spanEq, ← activeEq]
  by_cases empty : span = 0
  · have width : span.toNat = 0 := congrArg UInt32.toNat empty
    rw [if_pos empty, width, roundedDiv_zero_right]
    have nothing : scaled = 0 := if_pos empty
    rw [nothing]
    exact ⟨rfl, rfl⟩
  · rw [if_neg empty]
    have result :
        scaled =
          ((active * scaleMax.toUInt32 + span / 2) / span).toUInt16 :=
      if_neg empty
    rw [result]
    exact checkedPart_eq part short empty

theorem clipped_toNat (currentValue maximum : UInt16) :
    (if currentValue > maximum then maximum else currentValue).toNat =
      min currentValue.toNat maximum.toNat := by
  split_ifs with beyond
  · have := UInt16.lt_iff_toNat_lt.mp beyond
    omega
  · have := UInt16.le_iff_toNat_le.mp (UInt16.not_lt.mp beyond)
    omega

theorem raised_toNat (minimum deadzone : UInt16) :
    (minimum.toUInt32 + deadzone.toUInt32).toNat =
      minimum.toNat + deadzone.toNat := by
  have minimum_lt := minimum.toNat_lt
  have deadzone_lt := deadzone.toNat_lt
  rw [UInt32.toNat_add, UInt16.toNat_toUInt32, UInt16.toNat_toUInt32]
  exact Nat.mod_eq_of_lt (by omega)

theorem baseline_toNat (minimum deadzone maximum : UInt16) :
    (if minimum.toUInt32 + deadzone.toUInt32 > maximum.toUInt32 then
        maximum.toUInt32
      else
        minimum.toUInt32 + deadzone.toUInt32).toNat =
      min (minimum.toNat + deadzone.toNat) maximum.toNat := by
  have sum := raised_toNat minimum deadzone
  split_ifs with beyond
  · rw [gt_iff_lt, UInt32.lt_iff_toNat_lt, sum,
      UInt16.toNat_toUInt32] at beyond
    rw [UInt16.toNat_toUInt32]
    omega
  · rw [gt_iff_lt, UInt32.not_lt, UInt32.le_iff_toNat_le, sum,
      UInt16.toNat_toUInt32] at beyond
    omega

section Result

variable (currentValue minimum maximum deadzone scaleMax : UInt16)

/--
No operation leaves its type, and the result is the rounded part of the span
above the minimum and the deadzone.
-/
theorem checkedKeyValue_eq :
    checkedKeyValue currentValue minimum maximum deadzone scaleMax =
        some
          (keyValueFromMinimumRangeScaled currentValue minimum maximum
            deadzone scaleMax) ∧
      (keyValueFromMinimumRangeScaled currentValue minimum maximum deadzone
          scaleMax).toNat =
        scaledPart currentValue.toNat (minimum.toNat + deadzone.toNat)
          maximum.toNat scaleMax.toNat := by
  have minimum_lt := minimum.toNat_lt
  have maximum_lt := maximum.toNat_lt
  have deadzone_lt := deadzone.toNat_lt
  have baselineEq := baseline_toNat minimum deadzone maximum
  have clippedEq := clipped_toNat currentValue maximum
  rw [checkedKeyValue, keyValueFromMinimumRangeScaled,
    checkedAdd_eq_some (by simp only [UInt16.toNat_toUInt32]; omega)]
  dsimp only [Option.bind_some]
  generalize
    (if minimum.toUInt32 + deadzone.toUInt32 > maximum.toUInt32 then
      maximum.toUInt32
    else
      minimum.toUInt32 + deadzone.toUInt32) = baseline at baselineEq ⊢
  generalize
    (if currentValue > maximum then maximum else currentValue) =
      clipped at clippedEq ⊢
  by_cases flat : maximum ≤ minimum
  · have ends := UInt16.le_iff_toNat_le.mp flat
    rw [if_pos flat, if_pos flat, scaledPart_eq_zero (by omega)]
    exact ⟨rfl, rfl⟩
  · rw [if_neg flat, if_neg flat]
    by_cases below : currentValue.toUInt32 ≤ baseline
    · have low := UInt32.le_iff_toNat_le.mp below
      rw [UInt16.toNat_toUInt32] at low
      rw [if_pos below, if_pos below, scaledPart_eq_zero (by omega)]
      exact ⟨rfl, rfl⟩
    · rw [if_neg below, if_neg below]
      rw [UInt32.not_le, UInt32.lt_iff_toNat_lt,
        UInt16.toNat_toUInt32] at below
      rcases
          @checkedSpan_eq baseline clipped maximum scaleMax (by omega)
            (by omega) with
        ⟨checked, value⟩
      refine ⟨checked, value.trans ?_⟩
      -- a baseline clipped to the maximum leaves neither a part nor a span
      have spanEq :
          maximum.toNat - baseline.toNat =
            maximum.toNat - (minimum.toNat + deadzone.toNat) := by
        omega
      have activeEq :
          clipped.toNat - baseline.toNat =
            min currentValue.toNat maximum.toNat -
              (minimum.toNat + deadzone.toNat) := by
        omega
      rw [spanEq, activeEq, scaledPart]

end Result

/-! ## Bounds and monotonicity -/

section Properties

variable {currentValue minimum maximum deadzone scaleMax : UInt16}

theorem keyValue_toNat
    (currentValue minimum maximum deadzone scaleMax : UInt16) :
    (keyValueFromMinimumRangeScaled currentValue minimum maximum deadzone
        scaleMax).toNat =
      scaledPart currentValue.toNat (minimum.toNat + deadzone.toNat)
        maximum.toNat scaleMax.toNat :=
  (checkedKeyValue_eq currentValue minimum maximum deadzone scaleMax).2

theorem keyValue_eq_zero
    (none :
      maximum ≤ minimum ∨
        currentValue.toNat ≤ minimum.toNat + deadzone.toNat) :
    keyValueFromMinimumRangeScaled currentValue minimum maximum deadzone
      scaleMax = 0 := by
  apply UInt16.toNat_inj.mp
  rw [keyValue_toNat]
  apply scaledPart_eq_zero
  rcases none with flat | below
  · have ends := UInt16.le_iff_toNat_le.mp flat
    omega
  · exact Or.inr below

theorem keyValue_eq_scale
    (reached : maximum ≤ currentValue)
    (proper : minimum.toNat + deadzone.toNat < maximum.toNat) :
    keyValueFromMinimumRangeScaled currentValue minimum maximum deadzone
      scaleMax = scaleMax := by
  apply UInt16.toNat_inj.mp
  rw [keyValue_toNat]
  exact scaledPart_eq_scale proper (UInt16.le_iff_toNat_le.mp reached)

theorem keyValue_mono {larger : UInt16} (less : currentValue ≤ larger) :
    keyValueFromMinimumRangeScaled currentValue minimum maximum deadzone
        scaleMax ≤
      keyValueFromMinimumRangeScaled larger minimum maximum deadzone
        scaleMax := by
  rw [UInt16.le_iff_toNat_le, keyValue_toNat, keyValue_toNat]
  exact scaledPart_mono (UInt16.le_iff_toNat_le.mp less)

theorem keyValue_anti {wider : UInt16} (less : deadzone ≤ wider) :
    keyValueFromMinimumRangeScaled currentValue minimum maximum wider
        scaleMax ≤
      keyValueFromMinimumRangeScaled currentValue minimum maximum deadzone
        scaleMax := by
  rw [UInt16.le_iff_toNat_le, keyValue_toNat, keyValue_toNat]
  have zones := UInt16.le_iff_toNat_le.mp less
  exact scaledPart_anti (by omega)

/-- The percentage told to subscribers grows with the reading. -/
theorem keyPressPercent_mono
    (config : KbHandlerConfig) (settings : KbSettings) (key : Nat)
    {value larger : UInt16} (less : value ≤ larger) :
    keyPressPercent config settings key value ≤
      keyPressPercent config settings key larger := by
  rw [keyPressPercent, keyPressPercent]
  split_ifs
  · exact UInt16.le_refl _
  · exact keyValue_mono less

end Properties

/-- What the scaled value of a key is, over all readings and calibrations. -/
structure ScalesPress
    (currentValue minimum maximum deadzone scaleMax : UInt16) : Prop where
  checked :
    checkedKeyValue currentValue minimum maximum deadzone scaleMax =
      some
        (keyValueFromMinimumRangeScaled currentValue minimum maximum deadzone
          scaleMax)
  bounded :
    keyValueFromMinimumRangeScaled currentValue minimum maximum deadzone
        scaleMax ≤
      scaleMax
  zero :
    maximum ≤ minimum ∨
        currentValue.toNat ≤ minimum.toNat + deadzone.toNat →
      keyValueFromMinimumRangeScaled currentValue minimum maximum deadzone
        scaleMax = 0
  full :
    maximum ≤ currentValue →
      minimum.toNat + deadzone.toNat < maximum.toNat →
        keyValueFromMinimumRangeScaled currentValue minimum maximum deadzone
          scaleMax = scaleMax
  monotone :
    ∀ larger, currentValue ≤ larger →
      keyValueFromMinimumRangeScaled currentValue minimum maximum deadzone
          scaleMax ≤
        keyValueFromMinimumRangeScaled larger minimum maximum deadzone scaleMax
  antitone :
    ∀ wider, deadzone ≤ wider →
      keyValueFromMinimumRangeScaled currentValue minimum maximum wider
          scaleMax ≤
        keyValueFromMinimumRangeScaled currentValue minimum maximum deadzone
          scaleMax

/--
For all 16-bit arguments the scaled value is computed without overflow, does
not exceed the scale, is nothing up to the deadzone and all of the scale from
the maximum on, grows with the reading and shrinks with the deadzone.
-/
theorem press_scaling
    (currentValue minimum maximum deadzone scaleMax : UInt16) :
    ScalesPress currentValue minimum maximum deadzone scaleMax where
  checked := (checkedKeyValue_eq _ _ _ _ _).1
  bounded := keyValueFromMinimumRangeScaled_le _ _ _ _ _
  zero := keyValue_eq_zero
  full := keyValue_eq_scale
  monotone := fun _ => keyValue_mono
  antitone := fun _ => keyValue_anti

example : keyValueFromMinimumRangeScaled 500 100 900 50 100 = 47 := by
  decide

end YkbFirmware.KbHandler.PressScaling
