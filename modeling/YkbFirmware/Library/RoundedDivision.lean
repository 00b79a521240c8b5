import Mathlib.Tactic.Basic
import Mathlib.Tactic.Ring
import Mathlib.Tactic.GCongr

/-!
# Division rounded to the nearest

Adding half the divisor before a truncating division rounds the quotient to
the nearest number, halves upwards.  The rounded quotient follows the exact
one: whoever compares two fractions by cross multiplication has compared
their rounded quotients, whatever the divisors are.
-/

namespace YkbFirmware.Library.RoundedDivision

/-- The quotient rounded to the nearest number; `0` for the divisor `0`. -/
def roundedDiv (number divisor : Nat) : Nat :=
  (number + divisor / 2) / divisor

variable {number other divisor otherDivisor bound : Nat}

@[simp]
theorem roundedDiv_zero_right (number : Nat) : roundedDiv number 0 = 0 :=
  Nat.div_zero _

@[simp]
theorem roundedDiv_zero_left (divisor : Nat) : roundedDiv 0 divisor = 0 := by
  rw [roundedDiv, Nat.zero_add]
  exact Nat.div_eq_zero_iff.mpr (by omega)

theorem le_roundedDiv_iff (positive : 0 < divisor) :
    bound ≤ roundedDiv number divisor ↔
      bound * divisor ≤ number + divisor / 2 :=
  Nat.le_div_iff_mul_le positive

/-- A multiple of the divisor is divided exactly. -/
theorem roundedDiv_mul_self (positive : 0 < divisor) (factor : Nat) :
    roundedDiv (divisor * factor) divisor = factor := by
  rw [roundedDiv, Nat.mul_add_div positive]
  have half : divisor / 2 / divisor = 0 :=
    Nat.div_eq_zero_iff.mpr (by omega)
  rw [half, Nat.add_zero]

/-- The smaller fraction has the smaller rounded quotient. -/
theorem roundedDiv_le_of_cross
    (positive : 0 < otherDivisor)
    (smaller : number * otherDivisor ≤ other * divisor) :
    roundedDiv number divisor ≤ roundedDiv other otherDivisor := by
  rcases Nat.eq_zero_or_pos divisor with rfl | divisorPositive
  · rw [roundedDiv_zero_right]
    exact Nat.zero_le _
  · rw [le_roundedDiv_iff positive]
    set quotient := roundedDiv number divisor
    have reached :=
      (le_roundedDiv_iff divisorPositive).mp (Nat.le_refl quotient)
    -- twice the quotient, compared over the common denominator
    have scaled :
        (2 * quotient * otherDivisor) * divisor ≤
          (2 * other + otherDivisor) * divisor := by
      calc
        (2 * quotient * otherDivisor) * divisor =
            (2 * (quotient * divisor)) * otherDivisor := by ring
        _ ≤ (2 * number + divisor) * otherDivisor :=
            Nat.mul_le_mul_right _ (by omega)
        _ = 2 * (number * otherDivisor) + otherDivisor * divisor := by ring
        _ ≤ 2 * (other * divisor) + otherDivisor * divisor := by omega
        _ = (2 * other + otherDivisor) * divisor := by ring
    have doubled : 2 * quotient * otherDivisor ≤ 2 * other + otherDivisor :=
      Nat.le_of_mul_le_mul_right scaled divisorPositive
    rw [Nat.mul_assoc] at doubled
    omega

theorem roundedDiv_mono (smaller : number ≤ other) :
    roundedDiv number divisor ≤ roundedDiv other divisor :=
  Nat.div_le_div_right (Nat.add_le_add_right smaller _)

/-- A fraction of at most a whole number is not rounded above it. -/
theorem roundedDiv_le (smaller : number ≤ divisor * bound) :
    roundedDiv number divisor ≤ bound := by
  rcases Nat.eq_zero_or_pos divisor with rfl | positive
  · rw [roundedDiv_zero_right]
    exact Nat.zero_le _
  · calc
      roundedDiv number divisor ≤ roundedDiv (divisor * bound) divisor :=
        roundedDiv_mono smaller
      _ = bound := roundedDiv_mul_self positive bound

/-! ## Part of a span -/

/-- A value between two ends, scaled, is rounded the nearer the upper end. -/
def scaledPart (value lower upper scale : Nat) : Nat :=
  roundedDiv ((min value upper - lower) * scale) (upper - lower)

section Scaled

variable {value larger lower higher upper scale : Nat}

theorem scaledPart_eq_zero
    (below : upper ≤ lower ∨ value ≤ lower) :
    scaledPart value lower upper scale = 0 := by
  have nothing : min value upper - lower = 0 := by omega
  rw [scaledPart, nothing, Nat.zero_mul, roundedDiv_zero_left]

theorem scaledPart_eq_scale
    (proper : lower < upper) (reached : upper ≤ value) :
    scaledPart value lower upper scale = scale := by
  rw [scaledPart, Nat.min_eq_right reached]
  exact roundedDiv_mul_self (by omega) scale

theorem scaledPart_mono (less : value ≤ larger) :
    scaledPart value lower upper scale ≤
      scaledPart larger lower upper scale := by
  apply roundedDiv_mono
  exact Nat.mul_le_mul_right _ (by omega)

/-- Raising the lower end shortens the part more than the span. -/
theorem scaledPart_anti (raised : lower ≤ higher) :
    scaledPart value higher upper scale ≤
      scaledPart value lower upper scale := by
  by_cases empty : upper ≤ higher ∨ value ≤ higher
  · rw [scaledPart_eq_zero empty]
    exact Nat.zero_le _
  · rw [not_or, Nat.not_le, Nat.not_le] at empty
    apply roundedDiv_le_of_cross (by omega)
    set part := min value upper - higher with partEq
    set span := upper - higher with spanEq
    set gap := higher - lower with gapEq
    have part_le : part ≤ span := by omega
    have part_add : min value upper - lower = part + gap := by omega
    have span_add : upper - lower = span + gap := by omega
    rw [part_add, span_add]
    calc
      part * scale * (span + gap) =
          (part * span + part * gap) * scale := by ring
      _ ≤ (part * span + span * gap) * scale := by gcongr
      _ = (part + gap) * scale * span := by ring

end Scaled

end YkbFirmware.Library.RoundedDivision
