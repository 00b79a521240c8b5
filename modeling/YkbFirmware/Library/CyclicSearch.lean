import Mathlib.Tactic.Basic
import Mathlib.Data.Int.ModEq
import Mathlib.Data.List.Basic
import Mathlib.Tactic.Ring

/-!
# Searching around a cycle

A search over `count` positions takes steps of a fixed width from a start,
modulo `count`, and stops at the first position that qualifies.  It makes
`count` attempts, the last of which is back at the start; with steps of width
one in either direction it misses no position.  Whoever searches back from
what was found, with the opposite step, returns to a start that qualifies.
-/

namespace YkbFirmware.Library.CyclicSearch

/-- The position a distance away from the start. -/
def cyclicPosition (count : Nat) (start distance : Int) : Nat :=
  ((start + distance) % count).toNat

/-- Where an attempt of the search looks. -/
def attemptPosition (count : Nat) (start step : Int) (attempt : Nat) : Nat :=
  cyclicPosition count start (((attempt : Int) + 1) * step)

/-- Search from the position after the start. -/
def cyclicSearch
    (count : Nat) (qualifies : Nat → Bool) (start step : Int) : Option Nat :=
  ((List.range count).find? fun attempt =>
      qualifies (attemptPosition count start step attempt)).map
    (attemptPosition count start step)

/-- The first position on the way that qualifies. -/
structure FirstMet
    (count : Nat) (qualifies : Nat → Bool) (start step : Int)
    (attempts found : Nat) : Prop where
  started : 0 < attempts
  within : attempts ≤ count
  reached : found = cyclicPosition count start (attempts * step)
  qualified : qualifies found = true
  first :
    ∀ earlier, 0 < earlier → earlier < attempts →
      qualifies (cyclicPosition count start (earlier * step)) = false

section Positions

variable {count : Nat} {start step distance : Int}

theorem cyclicPosition_lt (positive : 0 < count) :
    cyclicPosition count start distance < count := by
  have countPos : (0 : Int) < count := by omega
  have upper := Int.emod_lt_of_pos (start + distance) countPos
  rw [cyclicPosition]
  omega

/-- A distance from a position of the cycle is one from the start. -/
theorem cyclicPosition_add (positive : 0 < count) (further : Int) :
    cyclicPosition count (cyclicPosition count start distance) further =
      cyclicPosition count start (distance + further) := by
  have countNe : (count : Int) ≠ 0 := by omega
  have lower := Int.emod_nonneg (start + distance) countNe
  rw [cyclicPosition, cyclicPosition, cyclicPosition, Int.toNat_of_nonneg lower,
    Int.emod_add_emod, Int.add_assoc]

/-- A whole turn ends where it began. -/
theorem cyclicPosition_turn (step : Int) :
    cyclicPosition count start (count * step) =
      cyclicPosition count start 0 := by
  rw [cyclicPosition, cyclicPosition, Int.add_mul_emod_self_left, Int.add_zero]

theorem cyclicPosition_self {position : Nat} (inside : position < count) :
    cyclicPosition count position 0 = position := by
  rw [cyclicPosition, Int.add_zero,
    Int.emod_eq_of_lt (by omega) (by omega), Int.toNat_natCast]

/-- Single steps in either direction come to every position. -/
theorem exists_attempts
    (single : step = 1 ∨ step = -1) (start : Int) {position : Nat}
    (inside : position < count) :
    ∃ attempts : Nat, 0 < attempts ∧ attempts ≤ count ∧
      cyclicPosition count start (attempts * step) = position := by
  have countPos : (0 : Int) < count := by omega
  -- how far the position is ahead, in the direction of the step
  let ahead := ((position - start) * step - 1) % count
  have aheadLower : 0 ≤ ahead := Int.emod_nonneg _ (by omega)
  have aheadUpper : ahead < count := Int.emod_lt_of_pos _ countPos
  refine ⟨(ahead + 1).toNat, by omega, by omega, ?_⟩
  have square : step * step = 1 := by
    rcases single with rfl | rfl
    · rfl
    · rfl
  have congruent :
      start + (ahead + 1) * step ≡ position [ZMOD count] := by
    have aheadCongruent :
        ahead ≡ (position - start) * step - 1 [ZMOD count] :=
      Int.mod_modEq _ _
    calc
      start + (ahead + 1) * step ≡
          start + ((position - start) * step - 1 + 1) * step
            [ZMOD count] :=
        ((aheadCongruent.add_right 1).mul_right step).add_left start
      _ = start + (position - start) * (step * step) := by ring
      _ = position := by rw [square]; ring
  rw [cyclicPosition, Int.toNat_of_nonneg (by omega), congruent.eq,
    Int.emod_eq_of_lt (by omega) (by omega), Int.toNat_natCast]

end Positions

/-! ## What a search finds -/

section Search

variable
    {count : Nat} {qualifies : Nat → Bool} {start step : Int} {found : Nat}

theorem attemptPosition_pred
    {attempts : Nat} (started : 0 < attempts) :
    attemptPosition count start step (attempts - 1) =
      cyclicPosition count start (attempts * step) := by
  have next : ((attempts - 1 : Nat) : Int) + 1 = attempts := by omega
  rw [attemptPosition, next]

theorem cyclicSearch_eq_some_iff :
    cyclicSearch count qualifies start step = some found ↔
      ∃ attempts, FirstMet count qualifies start step attempts found := by
  rw [cyclicSearch, Option.map_eq_some_iff]
  constructor
  · rintro ⟨attempt, searched, rfl⟩
    rcases List.find?_range_eq_some.mp searched with
      ⟨qualified, member, earlier⟩
    refine
      ⟨attempt + 1, Nat.succ_pos _, List.mem_range.mp member,
        attemptPosition_pred (Nat.succ_pos attempt), qualified,
        fun other started before => ?_⟩
    have missed := earlier (other - 1) (by omega)
    rw [attemptPosition_pred started] at missed
    simpa using missed
  · rintro ⟨attempts, met⟩
    have started := met.started
    have within := met.within
    refine
      ⟨attempts - 1, List.find?_range_eq_some.mpr ⟨?_, ?_, ?_⟩, ?_⟩
    · rw [attemptPosition_pred started, ← met.reached]
      exact met.qualified
    · exact List.mem_range.mpr (by omega)
    · intro earlier before
      have missed := met.first (earlier + 1) (by omega) (by omega)
      rw [← attemptPosition_pred (Nat.succ_pos earlier)] at missed
      simpa using missed
    · rw [attemptPosition_pred started, ← met.reached]

/-- With single steps a search fails only where nothing qualifies. -/
theorem cyclicSearch_eq_none_iff
    (positive : 0 < count) (single : step = 1 ∨ step = -1) :
    cyclicSearch count qualifies start step = none ↔
      ∀ position < count, qualifies position = false := by
  rw [cyclicSearch, Option.map_eq_none_iff, List.find?_eq_none]
  constructor
  · intro missed position inside
    rcases exists_attempts single start inside with
      ⟨attempts, started, within, reached⟩
    have here := missed (attempts - 1) (List.mem_range.mpr (by omega))
    rw [attemptPosition_pred started, reached] at here
    simpa using here
  · intro nothing attempt _
    rw [attemptPosition, nothing _ (cyclicPosition_lt positive)]
    exact Bool.false_ne_true

/-- Back from what was found, the start is the first that qualifies. -/
theorem FirstMet.back
    {attempts position : Nat} (inside : position < count)
    (qualified : qualifies position = true)
    (met : FirstMet count qualifies position step attempts found) :
    FirstMet count qualifies found (-step) attempts position := by
  have positive : 0 < count := by omega
  refine ⟨met.started, met.within, ?_, qualified,
    fun earlier started before => ?_⟩
  · rw [met.reached, cyclicPosition_add positive, Int.mul_neg,
      Int.add_right_neg, cyclicPosition_self inside]
  · have missed := met.first (attempts - earlier) (by omega) (by omega)
    rw [met.reached, cyclicPosition_add positive]
    rw [Nat.cast_sub (by omega)] at missed
    rw [← missed]
    congr 2
    ring

end Search

end YkbFirmware.Library.CyclicSearch
