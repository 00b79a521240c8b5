import Mathlib.Data.List.Induction
import Mathlib.Data.List.Nodup
import Mathlib.Tactic.Basic

/-!
# Filling a fixed array of slots

An array of `capacity` slots starts out empty, every slot holding a marker.
An item is put into the first empty slot unless it is there already; once no
slot is empty, new items are refused.

Filled with a list of items the array holds the first `capacity` distinct
ones in the order in which they occurred, and some item was refused exactly
if there are more distinct items than slots.
-/

namespace YkbFirmware.Library.SlotArray

universe u

/-! ## Distinct items -/

section Distinct

variable {Item : Type u} [DecidableEq Item]

/-- A further item is distinct, or it occurred before. -/
theorem eraseDups_concat (items : List Item) (item : Item) :
    (items ++ [item]).eraseDups =
      if item ∈ items then
        items.eraseDups
      else
        items.eraseDups ++ [item] := by
  rw [List.eraseDups_append]
  split_ifs with before
  · simp [List.removeAll, before]
  · simp [List.removeAll, before, List.eraseDups_cons]

theorem nodup_eraseDups (items : List Item) : items.eraseDups.Nodup := by
  induction items using List.reverseRecOn with
  | nil => simp
  | append_singleton items item induction =>
      rw [eraseDups_concat]
      split_ifs with before
      · exact induction
      · rw [List.nodup_append]
        refine ⟨induction, List.nodup_singleton item, ?_⟩
        rintro other member _ (_ | ⟨_, ⟨⟩⟩) rfl
        exact before (List.mem_eraseDups.mp member)

end Distinct

/-! ## Slots -/

section Slots

variable
    {Item : Type u} {capacity : Nat} {marker item : Item} {items : List Item}

/-- The slots which hold the first items of a list and are empty beyond. -/
def filled (capacity : Nat) (marker : Item) (items : List Item) :
    List Item :=
  items.take capacity ++ List.replicate (capacity - items.length) marker

@[simp]
theorem length_filled :
    (filled capacity marker items).length = capacity := by
  rw [filled, List.length_append, List.length_take, List.length_replicate]
  omega

theorem filled_of_le (fits : items.length ≤ capacity) :
    filled capacity marker items =
      items ++ List.replicate (capacity - items.length) marker := by
  rw [filled, List.take_of_length_le fits]

theorem filled_of_ge (full : capacity ≤ items.length) :
    filled capacity marker items = items.take capacity := by
  rw [filled, Nat.sub_eq_zero_of_le full, List.replicate_zero,
    List.append_nil]

/-- An item is in the slots if it is one of those they hold. -/
theorem mem_filled (other : item ≠ marker) :
    item ∈ filled capacity marker items ↔ item ∈ items.take capacity := by
  rw [filled, List.mem_append, List.mem_replicate]
  simp [other]

end Slots

/-! ## Insertion -/

section Insertion

variable
    {Item : Type u} [DecidableEq Item]
    {capacity : Nat} {marker item : Item} {items : List Item}

/-- Put an item into the slots; `false` if they are full. -/
def insertSlot (marker : Item) (slots : List Item) (item : Item) :
    List Item × Bool :=
  if item ∈ slots then
    (slots, true)
  else
    match slots.findIdx? fun slot => slot = marker with
    | some index => (slots.set index item, true)
    | none => (slots, false)

/-- A free slot takes the item. -/
theorem insertSlot_free
    (clean : marker ∉ items) (other : item ≠ marker)
    (new : item ∉ items) (free : items.length < capacity) :
    insertSlot marker (filled capacity marker items) item =
      (filled capacity marker (items ++ [item]), true) := by
  have absent : item ∉ filled capacity marker items := by
    rw [mem_filled other]
    exact fun member => new (List.mem_of_mem_take member)
  have grown : (items ++ [item]).length ≤ capacity := by
    rw [List.length_append, List.length_singleton]
    exact free
  have remaining :
      capacity - items.length =
        capacity - (items ++ [item]).length + 1 := by
    rw [List.length_append, List.length_singleton]
    omega
  have first :
      (items ++
          marker ::
            List.replicate (capacity - (items ++ [item]).length)
              marker).findIdx? (fun slot => slot = marker) =
        some items.length := by
    rw [List.findIdx?_append, List.findIdx?_eq_none_iff.mpr]
    · simp [List.findIdx?_cons]
    · intro slot member
      rw [decide_eq_false_iff_not]
      rintro rfl
      exact clean member
  rw [insertSlot, if_neg absent, filled_of_le (Nat.le_of_lt free), remaining,
    List.replicate_succ, first]
  dsimp only
  rw [filled_of_le grown, List.set_append_right _ _ Nat.le.refl,
    Nat.sub_self, List.set_cons_zero, List.append_assoc,
    List.singleton_append]

/-- Full slots refuse an item which is not among them. -/
theorem insertSlot_full
    (clean : marker ∉ items) (other : item ≠ marker)
    (new : item ∉ items.take capacity) (full : capacity ≤ items.length) :
    insertSlot marker (filled capacity marker items) item =
      (filled capacity marker items, false) := by
  have absent : item ∉ filled capacity marker items := by
    rw [mem_filled other]
    exact new
  rw [insertSlot, if_neg absent, List.findIdx?_eq_none_iff.mpr]
  rw [filled_of_ge full]
  intro slot member
  rw [decide_eq_false_iff_not]
  rintro rfl
  exact clean (List.mem_of_mem_take member)

/-! ## Filling -/

/-- The slots and whether an item was refused so far. -/
def insertAll (marker : Item) (start : List Item × Bool)
    (items : List Item) : List Item × Bool :=
  items.foldl
    (fun current item =>
      let inserted := insertSlot marker current.1 item
      (inserted.1, current.2 || !inserted.2))
    start

/-- The slots hold the first distinct items; more than that overflow. -/
theorem insertAll_empty
    (clean : marker ∉ items) :
    insertAll marker (List.replicate capacity marker, false) items =
      (filled capacity marker items.eraseDups,
        decide (capacity < items.eraseDups.length)) := by
  induction items using List.reverseRecOn with
  | nil => simp [insertAll, filled]
  | append_singleton items item induction =>
      rw [List.mem_append, List.mem_singleton, not_or] at clean
      rcases clean with ⟨clean, other⟩
      have distinctClean : marker ∉ items.eraseDups :=
        fun member => clean (List.mem_eraseDups.mp member)
      have before := induction clean
      rw [insertAll] at before ⊢
      rw [List.foldl_append, before, List.foldl_cons, List.foldl_nil,
        eraseDups_concat]
      dsimp only
      split_ifs with known
      · have distinct : item ∈ items.eraseDups :=
          List.mem_eraseDups.mpr known
        by_cases held : item ∈ items.eraseDups.take capacity
        · rw [insertSlot, if_pos ((mem_filled (Ne.symm other)).mpr held)]
          simp
        · -- the item occurred before and was refused then
          have beyond : capacity < items.eraseDups.length := by
            by_contra fits
            rw [List.take_of_length_le (Nat.not_lt.mp fits)] at held
            exact held distinct
          rw [insertSlot_full distinctClean (Ne.symm other) held
              (Nat.le_of_lt beyond)]
          simp [beyond]
      · have new : item ∉ items.eraseDups :=
          fun member => known (List.mem_eraseDups.mp member)
        by_cases free : items.eraseDups.length < capacity
        · rw [insertSlot_free distinctClean (Ne.symm other) new free]
          simp only [Bool.not_true, Bool.or_false, List.length_append,
            List.length_singleton, Prod.mk.injEq, true_and]
          rw [decide_eq_decide]
          omega
        · have full := Nat.not_lt.mp free
          have absent : item ∉ items.eraseDups.take capacity :=
            fun member => new (List.mem_of_mem_take member)
          rw [insertSlot_full distinctClean (Ne.symm other) absent full]
          simp only [Bool.not_false, Bool.or_true, Prod.mk.injEq]
          constructor
          · rw [filled_of_ge full, filled_of_ge (by simp; omega),
              List.take_append_of_le_length full]
          · simp
            omega

/-- Slots agree if they were filled with the same items. -/
theorem filled_eq_filled_iff
    {others : List Item}
    (clean : marker ∉ items) (otherClean : marker ∉ others) :
    filled capacity marker items = filled capacity marker others ↔
      items.take capacity = others.take capacity := by
  have recovered :
      ∀ {list : List Item}, marker ∉ list →
        (filled capacity marker list).filter (fun slot => slot ≠ marker) =
          list.take capacity := by
    intro list free
    rw [filled, List.filter_append, List.filter_eq_self.mpr]
    · simp
    · intro slot member
      rw [decide_eq_true_eq]
      rintro rfl
      exact free (List.mem_of_mem_take member)
  have refilled :
      ∀ list : List Item,
        filled capacity marker list =
          list.take capacity ++
            List.replicate (capacity - (list.take capacity).length)
              marker := by
    intro list
    rw [filled, List.length_take]
    congr 2
    omega
  constructor
  · intro same
    rw [← recovered clean, same, recovered otherClean]
  · intro same
    rw [refilled, same, ← refilled]

end Insertion

end YkbFirmware.Library.SlotArray
