import Mathlib.Order.CompletePartialOrder
import Mathlib.Order.Interval.Set.Disjoint
import Mathlib.Algebra.Order.Monoid.Defs
import Mathlib.Data.List.Pairwise

/-!
# Extents laid end to end

An extent is an offset with a size.  A list of extents tiles a stretch if the
first begins at its start, each begins where the one before it ends, and the
last ends at its end.  Adjacency of neighbours is enough for everything: the
extents are pairwise disjoint, together they are the stretch, and each
position of it lies in exactly one of them.
-/

namespace YkbFirmware.Library.Tiling

universe u

variable
    {α : Type u} [AddCommMonoid α] [LinearOrder α] [IsOrderedAddMonoid α]

/-- The positions of an extent. -/
def span (extent : α × α) : Set α :=
  Set.Ico extent.1 (extent.1 + extent.2)

/-- The extents run from `start` to `stop` without gap or overlap. -/
def Tiles : α → List (α × α) → α → Prop
  | start, [], stop => start = stop
  | start, extent :: rest, stop =>
      extent.1 = start ∧ 0 ≤ extent.2 ∧
        Tiles (extent.1 + extent.2) rest stop

variable {start stop position : α} {extent : α × α} {extents : List (α × α)}

namespace Tiles

theorem le (tiles : Tiles start extents stop) : start ≤ stop := by
  induction extents generalizing start with
  | nil => exact tiles.le
  | cons extent rest induction =>
      rcases tiles with ⟨rfl, nonnegative, tiled⟩
      exact (le_add_of_nonneg_right nonnegative).trans (induction tiled)

theorem within
    (tiles : Tiles start extents stop) (member : extent ∈ extents) :
    start ≤ extent.1 ∧ extent.1 + extent.2 ≤ stop := by
  induction extents generalizing start with
  | nil => cases member
  | cons first rest induction =>
      rcases tiles with ⟨rfl, nonnegative, tiled⟩
      rcases List.mem_cons.mp member with rfl | later
      · exact ⟨le_rfl, tiled.le⟩
      · have inside := induction tiled later
        exact
          ⟨(le_add_of_nonneg_right nonnegative).trans inside.1, inside.2⟩

omit [IsOrderedAddMonoid α] in
theorem size_nonneg
    (tiles : Tiles start extents stop) (member : extent ∈ extents) :
    0 ≤ extent.2 := by
  induction extents generalizing start with
  | nil => cases member
  | cons first rest induction =>
      rcases tiles with ⟨rfl, nonnegative, tiled⟩
      rcases List.mem_cons.mp member with rfl | later
      · exact nonnegative
      · exact induction tiled later

omit [IsOrderedAddMonoid α] in
/-- The last extent ends where the stretch does. -/
theorem exists_end
    (tiles : Tiles start extents stop) (nonempty : extents ≠ []) :
    ∃ extent ∈ extents, extent.1 + extent.2 = stop := by
  induction extents generalizing start with
  | nil => exact absurd rfl nonempty
  | cons first rest induction =>
      rcases tiles with ⟨rfl, _, tiled⟩
      by_cases alone : rest = []
      · subst alone
        exact ⟨first, List.mem_cons_self, tiled⟩
      · rcases induction tiled alone with ⟨extent, member, ends⟩
        exact ⟨extent, List.mem_cons_of_mem first member, ends⟩

theorem pairwise_disjoint (tiles : Tiles start extents stop) :
    extents.Pairwise fun left right => Disjoint (span left) (span right) := by
  induction extents generalizing start with
  | nil => exact List.Pairwise.nil
  | cons first rest induction =>
      rcases tiles with ⟨rfl, _, tiled⟩
      refine List.Pairwise.cons (fun later member => ?_) (induction tiled)
      apply Set.disjoint_left.mpr
      intro position inFirst inLater
      have after := (tiled.within member).1
      exact absurd (inFirst.2.trans_le after) (not_lt.mpr inLater.1)

/-- The extents together are the stretch. -/
theorem mem_iff (tiles : Tiles start extents stop) :
    (∃ extent ∈ extents, position ∈ span extent) ↔
      position ∈ Set.Ico start stop := by
  constructor
  · rintro ⟨extent, member, inside⟩
    have bounds := tiles.within member
    exact ⟨bounds.1.trans inside.1, inside.2.trans_le bounds.2⟩
  · intro inside
    induction extents generalizing start with
    | nil =>
        have empty : start = stop := tiles
        rw [empty] at inside
        exact absurd inside.2 (not_lt.mpr inside.1)
    | cons first rest induction =>
        rcases tiles with ⟨rfl, _, tiled⟩
        by_cases here : position < first.1 + first.2
        · exact ⟨first, List.mem_cons_self, inside.1, here⟩
        · rcases induction tiled ⟨not_lt.mp here, inside.2⟩ with
            ⟨extent, member, covered⟩
          exact ⟨extent, List.mem_cons_of_mem first member, covered⟩

/-- Each position of the stretch lies in exactly one extent. -/
theorem countP_eq_one
    {covers : α × α → Bool}
    (decides : ∀ extent, covers extent = true ↔ position ∈ span extent)
    (tiles : Tiles start extents stop)
    (inside : position ∈ Set.Ico start stop) :
    extents.countP covers = 1 := by
  induction extents generalizing start with
  | nil =>
      have empty : start = stop := tiles
      rw [empty] at inside
      exact absurd inside.2 (not_lt.mpr inside.1)
  | cons first rest induction =>
      have disjoint := (List.pairwise_cons.mp tiles.pairwise_disjoint).1
      rcases tiles with ⟨rfl, _, tiled⟩
      by_cases here : position ∈ span first
      · have none : rest.countP covers = 0 := by
          rw [List.countP_eq_zero]
          intro later member covered
          exact
            Set.disjoint_left.mp (disjoint later member) here
              ((decides later).mp covered)
        rw [List.countP_cons_of_pos ((decides first).mpr here), none]
      · rw [List.countP_cons_of_neg (by rwa [decides])]
        apply induction tiled
        exact ⟨not_lt.mp fun below => here ⟨inside.1, below⟩, inside.2⟩

end Tiles

end YkbFirmware.Library.Tiling
