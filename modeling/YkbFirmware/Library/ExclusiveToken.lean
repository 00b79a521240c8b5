import Mathlib.Tactic.Basic
import Mathlib.Data.Option.Basic

/-!
# A flag that stands for one token

A flag is set by whoever claims a token and cleared by whoever returns it; in
between the token is at one of several places.  `Guarded flag holds` says
that the flag is set exactly while one place holds the token and that no two
places do.  The lemmas follow the token: it is claimed, it moves, it is
returned, and steps which do not touch it keep the statement.
-/

namespace YkbFirmware.Library.ExclusiveToken

universe u

variable {Place : Type u} {flag : Bool} {holds after : Place → Prop}

/-- The flag is set exactly while one place holds the token. -/
def Guarded (flag : Bool) (holds : Place → Prop) : Prop :=
  ∃ holder : Option Place,
    flag = holder.isSome ∧ ∀ place, holds place ↔ holder = some place

namespace Guarded

theorem unused (none : ∀ place, ¬ holds place) : Guarded false holds :=
  ⟨.none, rfl, fun place =>
    ⟨fun held => absurd held (none place), fun impossible => nomatch impossible⟩⟩

theorem unique
    (guarded : Guarded flag holds) {first second : Place}
    (holdsFirst : holds first) (holdsSecond : holds second) :
    first = second := by
  rcases guarded with ⟨holder, _, located⟩
  exact
    Option.some.inj
      (((located first).mp holdsFirst).symm.trans
        ((located second).mp holdsSecond))

theorem flag_of_holds
    (guarded : Guarded flag holds) {place : Place} (held : holds place) :
    flag = true := by
  rcases guarded with ⟨holder, set, located⟩
  rw [set, (located place).mp held]
  rfl

theorem holder_of_flag (guarded : Guarded true holds) :
    ∃ place, holds place := by
  rcases guarded with ⟨holder, set, located⟩
  rcases Option.isSome_iff_exists.mp set.symm with ⟨place, found⟩
  exact ⟨place, (located place).mpr found⟩

theorem not_holds
    (guarded : Guarded false holds) (place : Place) : ¬ holds place := by
  intro held
  exact absurd (guarded.flag_of_holds held) Bool.false_ne_true

/-- The token is at one known place only. -/
theorem at_place
    {place : Place} (held : after place)
    (elsewhere : ∀ other, other ≠ place → ¬ after other) :
    Guarded true after := by
  refine ⟨some place, rfl, fun other => ?_⟩
  constructor
  · intro heldOther
    by_contra different
    exact elsewhere other (fun same => different (by rw [same])) heldOther
  · intro same
    rw [← Option.some.inj same]
    exact held

/-- Steps which do not touch the token. -/
theorem frame
    (guarded : Guarded flag holds)
    (same : ∀ place, after place ↔ holds place) :
    Guarded flag after := by
  rcases guarded with ⟨holder, set, located⟩
  exact ⟨holder, set, fun place => (same place).trans (located place)⟩

/-- The token is claimed by setting the flag. -/
theorem claim
    (guarded : Guarded false holds) (place : Place) (held : after place)
    (same : ∀ other, other ≠ place → (after other ↔ holds other)) :
    Guarded true after :=
  at_place held fun other different heldOther =>
    guarded.not_holds other ((same other different).mp heldOther)

/-- The token moves from one place to another. -/
theorem move
    (guarded : Guarded flag holds) {source : Place} (target : Place)
    (held : holds source) (taken : ¬ after source) (given : after target)
    (same : ∀ other, other ≠ source → other ≠ target →
      (after other ↔ holds other)) :
    Guarded flag after := by
  rw [guarded.flag_of_holds held]
  refine at_place given fun other different heldOther => ?_
  by_cases left : other = source
  · exact taken (left ▸ heldOther)
  · exact
      left (guarded.unique ((same other left different).mp heldOther) held)

/-- The token is returned by clearing the flag. -/
theorem release
    (guarded : Guarded flag holds) {place : Place} (held : holds place)
    (taken : ¬ after place)
    (same : ∀ other, other ≠ place → (after other ↔ holds other)) :
    Guarded false after := by
  refine unused fun other heldOther => ?_
  by_cases left : other = place
  · exact taken (left ▸ heldOther)
  · exact left (guarded.unique ((same other left).mp heldOther) held)

end Guarded

end YkbFirmware.Library.ExclusiveToken
