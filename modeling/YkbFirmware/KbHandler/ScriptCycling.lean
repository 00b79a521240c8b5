import YkbFirmware.Library.CyclicSearch
import YkbFirmware.KbHandler.Settings

/-!
# Cycling through the script slots

`find_next_occupied_script_slot` searches the slots cyclically from the
current one, upwards for the next script and downwards for the previous one.
Slots are addressed in 16 bits.  Up to that many of them, the search is the
general one around a cycle; past them it looks at the wrong slots.
-/

namespace YkbFirmware.KbHandler.ScriptCycling

open YkbFirmware.Library.CyclicSearch
open YkbFirmware.KbHandler.Settings

/-! ## The search -/

/-- A search that yields what it tests is a search for the first test. -/
theorem findSome?_eq_map_find?
    {α β : Type} {items : List α} {yields : α → Option β} {test : α → Bool}
    {value : α → β}
    (agree :
      ∀ item ∈ items,
        yields item = if test item then some (value item) else none) :
    items.findSome? yields = (items.find? test).map value := by
  induction items with
  | nil => rfl
  | cons item rest induction =>
      rw [List.findSome?_cons, List.find?_cons,
        agree item List.mem_cons_self,
        induction fun other member =>
          agree other (List.mem_cons_of_mem item member)]
      cases test item with
      | true => rfl
      | false => rfl

section Search

variable
    {slots : ScriptSlotTable} {current found : UInt16} {step : Int}

/-- What the source computes for an attempt is a position of the cycle. -/
theorem attempt_index
    {attempt : Nat} (single : step = 1 ∨ step = -1)
    (within : attempt < slots.count) :
    (((current.toNat : Int) + slots.count +
          ((attempt : Int) + 1) * step).tmod slots.count).toNat =
      attemptPosition slots.count current.toNat step attempt := by
  have nonnegative :
      0 ≤ (current.toNat : Int) + slots.count +
        ((attempt : Int) + 1) * step := by
    rcases single with rfl | rfl
    · omega
    · omega
  rw [Int.tmod_eq_emod_of_nonneg nonnegative, attemptPosition,
    cyclicPosition, Int.add_right_comm, Int.add_emod_right]

/-- With 16-bit slots the source searches the cycle of the slots. -/
theorem findNextOccupiedScriptSlot_eq
    (single : step = 1 ∨ step = -1) (addressable : slots.count ≤ 0x10000) :
    findNextOccupiedScriptSlot slots current step =
      (cyclicSearch slots.count slots.runnable current.toNat step).map
        UInt16.ofNat := by
  have asInts :
      (do
        let attempt ← List.range slots.count
        pure (attempt : Int)) =
        (List.range slots.count).map Nat.cast := by
    rw [bind_pure_comp, List.map_eq_map]
  rw [findNextOccupiedScriptSlot, asInts, List.findSome?_map, cyclicSearch,
    Option.map_map]
  apply findSome?_eq_map_find?
  intro attempt member
  have within := List.mem_range.mp member
  have position :
      attemptPosition slots.count current.toNat step attempt < 0x10000 := by
    have := @cyclicPosition_lt slots.count current.toNat
      (((attempt : Int) + 1) * step) (by omega)
    rw [attemptPosition]
    omega
  dsimp only [Function.comp]
  rw [attempt_index single within, UInt16.toNat_ofNat_of_lt' position]

/-- It finds the first slot on the way that can be run. -/
theorem findNextOccupiedScriptSlot_eq_some_iff
    (single : step = 1 ∨ step = -1) (addressable : slots.count ≤ 0x10000) :
    findNextOccupiedScriptSlot slots current step = some found ↔
      ∃ attempts,
        FirstMet slots.count slots.runnable current.toNat step attempts
          found.toNat := by
  rw [findNextOccupiedScriptSlot_eq single addressable,
    ← cyclicSearch_eq_some_iff, Option.map_eq_some_iff]
  constructor
  · rintro ⟨slot, searched, rfl⟩
    rcases cyclicSearch_eq_some_iff.mp searched with ⟨attempts, met⟩
    have within : slot < slots.count := by
      have qualified := met.qualified
      simp only [ScriptSlotTable.runnable, Bool.and_eq_true,
        decide_eq_true_eq] at qualified
      exact qualified.1.1
    rw [UInt16.toNat_ofNat_of_lt' (by omega : slot < 0x10000)]
    exact searched
  · intro searched
    exact ⟨found.toNat, searched, UInt16.ofNat_toNat⟩

theorem findNextOccupiedScriptSlot_eq_none_iff
    (single : step = 1 ∨ step = -1) (positive : 1 ≤ slots.count)
    (addressable : slots.count ≤ 0x10000) :
    findNextOccupiedScriptSlot slots current step = none ↔
      ∀ slot < slots.count, slots.runnable slot = false := by
  rw [findNextOccupiedScriptSlot_eq single addressable,
    Option.map_eq_none_iff, cyclicSearch_eq_none_iff positive single]

/-- The opposite search leads back to a slot that can be run. -/
theorem findNextOccupiedScriptSlot_back
    (single : step = 1 ∨ step = -1) (addressable : slots.count ≤ 0x10000)
    (within : current.toNat < slots.count)
    (runnable : slots.runnable current.toNat = true) :
    ((findNextOccupiedScriptSlot slots current step).bind fun next =>
        findNextOccupiedScriptSlot slots next (-step)) =
      some current := by
  have opposite : -step = 1 ∨ -step = -1 := by omega
  cases searched : findNextOccupiedScriptSlot slots current step with
  | none =>
      have nothing :=
        (findNextOccupiedScriptSlot_eq_none_iff single (by omega)
          addressable).mp searched
      rw [nothing _ within] at runnable
      cases runnable
  | some found =>
      rcases
          (findNextOccupiedScriptSlot_eq_some_iff single addressable).mp
            searched with
        ⟨attempts, met⟩
      rw [Option.bind_some,
        findNextOccupiedScriptSlot_eq_some_iff opposite addressable]
      exact ⟨attempts, met.back within runnable⟩

end Search

/-! ## Next and previous script -/

section Cycling

variable {slots : ScriptSlotTable}

/-- Cycling on and back keeps an active script that can be run. -/
theorem mutateBlCycleScript_back
    {settings : KbSettings} {step : Int} (single : step = 1 ∨ step = -1)
    (addressable : slots.count ≤ 0x10000)
    (within : settings.backlight.activeScriptIndex.toNat < slots.count)
    (runnable :
      slots.runnable settings.backlight.activeScriptIndex.toNat = true) :
    mutateBlCycleScript slots (mutateBlCycleScript slots settings step)
        (-step) =
      settings := by
  have back :=
    findNextOccupiedScriptSlot_back single addressable within runnable
  rcases Option.bind_eq_some_iff.mp back with ⟨next, searched, returned⟩
  rw [mutateBlCycleScript, mutateBlCycleScript, searched]
  dsimp only [withBacklight]
  rw [returned]

/-- What the two searches from a current index find. -/
structure CyclesThroughSlots
    (slots : ScriptSlotTable) (current : UInt16) : Prop where
  next :
    ∀ found,
      findNextOccupiedScriptSlot slots current 1 = some found ↔
        ∃ attempts,
          FirstMet slots.count slots.runnable current.toNat 1 attempts
            found.toNat
  prev :
    ∀ found,
      findNextOccupiedScriptSlot slots current (-1) = some found ↔
        ∃ attempts,
          FirstMet slots.count slots.runnable current.toNat (-1) attempts
            found.toNat
  /-- The last attempt is at the current slot. -/
  last :
    ∀ step : Int,
      cyclicPosition slots.count current.toNat (slots.count * step) =
        cyclicPosition slots.count current.toNat 0
  nextNone :
    findNextOccupiedScriptSlot slots current 1 = none ↔
      ∀ slot < slots.count, slots.runnable slot = false
  prevNone :
    findNextOccupiedScriptSlot slots current (-1) = none ↔
      ∀ slot < slots.count, slots.runnable slot = false
  nextPrev :
    current.toNat < slots.count → slots.runnable current.toNat = true →
      ((findNextOccupiedScriptSlot slots current 1).bind fun next =>
          findNextOccupiedScriptSlot slots next (-1)) =
        some current
  prevNext :
    current.toNat < slots.count → slots.runnable current.toNat = true →
      ((findNextOccupiedScriptSlot slots current (-1)).bind fun prev =>
          findNextOccupiedScriptSlot slots prev 1) =
        some current

/--
With up to 65536 slots, whichever of them are occupied, each search finds the
first slot in its direction around the cycle, fails only if there is none, and
undoes the other from a slot that can be run.
-/
theorem cycles_through_slots
    (positive : 1 ≤ slots.count) (addressable : slots.count ≤ 0x10000)
    (current : UInt16) :
    CyclesThroughSlots slots current where
  next := fun _ =>
    findNextOccupiedScriptSlot_eq_some_iff (Or.inl rfl) addressable
  prev := fun _ =>
    findNextOccupiedScriptSlot_eq_some_iff (Or.inr rfl) addressable
  last := cyclicPosition_turn
  nextNone :=
    findNextOccupiedScriptSlot_eq_none_iff (Or.inl rfl) positive addressable
  prevNone :=
    findNextOccupiedScriptSlot_eq_none_iff (Or.inr rfl) positive addressable
  nextPrev := findNextOccupiedScriptSlot_back (Or.inl rfl) addressable
  prevNext := findNextOccupiedScriptSlot_back (Or.inr rfl) addressable

end Cycling

/-- Four slots, two of which can be run. -/
def fourSlots : ScriptSlotTable where
  count := 4
  occupied := fun slot => slot = 1 ∨ slot = 3
  size := fun _ => 16

theorem cycles_through_four_slots :
    CyclesThroughSlots fourSlots 3 ∧
      findNextOccupiedScriptSlot fourSlots 3 1 = some 1 :=
  ⟨cycles_through_slots (by decide) (by decide) 3, by decide⟩

/-- One slot more than 16 bits can address, which is the only one occupied. -/
def pastAddresses : ScriptSlotTable where
  count := 0x10001
  occupied := fun slot => slot = 0x10000
  size := fun _ => 16

theorem pastAddresses_runnable (slot : UInt16) :
    pastAddresses.runnable slot.toNat = false := by
  have below := slot.toNat_lt
  have unoccupied : pastAddresses.occupied slot.toNat = false :=
    decide_eq_false (by omega)
  rw [ScriptSlotTable.runnable, unoccupied, Bool.and_false, Bool.false_and]

/-- The slot can be run, and the search does not find it. -/
theorem last_slot_not_found :
    pastAddresses.runnable 0x10000 = true ∧
      findNextOccupiedScriptSlot pastAddresses 0 1 = none ∧
      ¬ ∀ (slots : ScriptSlotTable) (current : UInt16),
        1 ≤ slots.count → CyclesThroughSlots slots current := by
  have missed : findNextOccupiedScriptSlot pastAddresses 0 1 = none := by
    rw [findNextOccupiedScriptSlot, List.findSome?_eq_none_iff]
    intro attempt _
    dsimp only
    rw [pastAddresses_runnable]
    rfl
  refine ⟨by decide, missed, fun always => ?_⟩
  have nothing := (always pastAddresses 0 (by decide)).nextNone.mp missed
  exact absurd (nothing 0x10000 (by decide)) (by decide)

end YkbFirmware.KbHandler.ScriptCycling
