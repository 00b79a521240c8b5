import YkbFirmware.KbHandler.Settings

/-!
# The handler's check of new settings

`mouseemu_check` and the part of `kb_handler_on_settings_update` that decides
whether the update returns.  The checks run in the order of the source; the
first one that fails ends in `k_panic` after naming what it found.
-/

namespace YkbFirmware.KbHandler.SettingsCheck

open YkbFirmware.KbHandler.Settings

/-- `KB_MOUSEEMU_MOVE_KEYS_MAX`. -/
def kbMouseemuMoveKeysMax : Nat := 8

/-- `KB_MOUSEEMU_SCROLL_KEYS_MAX`. -/
def kbMouseemuScrollKeysMax : Nat := 2

/-- `KB_MOUSEEMU_BUTTON_KEYS_MAX`. -/
def kbMouseemuButtonKeysMax : Nat := 3

/-- The `group_name` of the messages. -/
inductive MouseemuGroup where
  | move
  | scroll
  | button
deriving DecidableEq, Repr

/-- What `mouseemu_check` logs before it panics. -/
inductive MouseemuFault where
  | countExceedsMax (group : MouseemuGroup) (count : UInt8) (max : Nat)
  | fourWayRequiresExactly4
  | eightWayRequiresExactly8
  | scrollMustContainExactly2
  | buttonMustContainExactly3
  | indexOutOfRange (group : MouseemuGroup) (index : UInt16)
deriving DecidableEq, Repr

def mouseemuKeyIndicesCheck
    (keys : Nat → UInt16) (keysCount : UInt8) (totalKeyCount : Nat)
    (group : MouseemuGroup) : Option MouseemuFault :=
  (List.range keysCount.toNat).findSome? fun i =>
    if (keys i).toNat ≥ totalKeyCount then
      some (.indexOutOfRange group (keys i))
    else
      none

def mouseemuCountCheck
    (count : UInt8) (maxCount : Nat) (group : MouseemuGroup) :
    Option MouseemuFault :=
  if count.toNat > maxCount then
    some (.countExceedsMax group count maxCount)
  else
    none

/-- One of the checks written out in `mouseemu_check`. -/
def failsWith (fails : Bool) (fault : MouseemuFault) :
    Option MouseemuFault :=
  if fails then some fault else none

/-- `mouseemu_check`; `none` when it returns. -/
def mouseemuCheck
    (totalKeyCount : Nat) (mouseemu : KbMouseemuSettings) :
    Option MouseemuFault :=
  if mouseemu.enabled = false then
    none
  else
    [ mouseemuCountCheck mouseemu.moveKeysCount kbMouseemuMoveKeysMax .move,
      mouseemuCountCheck mouseemu.scrollKeysCount kbMouseemuScrollKeysMax
        .scroll,
      mouseemuCountCheck mouseemu.buttonKeysCount kbMouseemuButtonKeysMax
        .button,
      failsWith
        (decide
          (mouseemu.directionMode = .fourWay ∧ mouseemu.moveKeysCount ≠ 4))
        .fourWayRequiresExactly4,
      failsWith
        (decide
          (mouseemu.directionMode = .eightWay ∧ mouseemu.moveKeysCount ≠ 8))
        .eightWayRequiresExactly8,
      failsWith
        (decide
          (mouseemu.scrollKeysCount ≠ 0 ∧ mouseemu.scrollKeysCount ≠ 2))
        .scrollMustContainExactly2,
      failsWith
        (decide
          (mouseemu.buttonKeysCount ≠ 0 ∧ mouseemu.buttonKeysCount ≠ 3))
        .buttonMustContainExactly3,
      mouseemuKeyIndicesCheck mouseemu.moveKeys mouseemu.moveKeysCount
        totalKeyCount .move,
      mouseemuKeyIndicesCheck mouseemu.scrollKeys mouseemu.scrollKeysCount
        totalKeyCount .scroll,
      mouseemuKeyIndicesCheck mouseemu.buttonKeys mouseemu.buttonKeysCount
        totalKeyCount .button ].findSome? id

/-- What `kb_handler_on_settings_update` does to the handler's cache. -/
structure SettingsUpdate where
  settingsSnapshot : KbSettings
  panic : Option MouseemuFault

/--
`kb_handler_on_settings_update`.  The core thread is suspended around the copy
unless it makes the call itself; it is created after the first update.
-/
def kbHandlerOnSettingsUpdate
    (config : KbHandlerConfig) (settings : KbSettings) : SettingsUpdate where
  settingsSnapshot := settings
  panic := mouseemuCheck config.totalKeyCount settings.mouseemu

/-! ## What passes -/

/-- All conditions of `mouseemu_check`, for mouse emulation switched on. -/
structure MouseemuChecked
    (totalKeyCount : Nat) (mouseemu : KbMouseemuSettings) : Prop where
  moveCount : mouseemu.moveKeysCount.toNat ≤ kbMouseemuMoveKeysMax
  scrollCount : mouseemu.scrollKeysCount.toNat ≤ kbMouseemuScrollKeysMax
  buttonCount : mouseemu.buttonKeysCount.toNat ≤ kbMouseemuButtonKeysMax
  fourWay : mouseemu.directionMode = .fourWay → mouseemu.moveKeysCount = 4
  eightWay : mouseemu.directionMode = .eightWay → mouseemu.moveKeysCount = 8
  scrollPair : mouseemu.scrollKeysCount = 0 ∨ mouseemu.scrollKeysCount = 2
  buttonTriple : mouseemu.buttonKeysCount = 0 ∨ mouseemu.buttonKeysCount = 3
  moveIndices :
    ∀ i < mouseemu.moveKeysCount.toNat,
      (mouseemu.moveKeys i).toNat < totalKeyCount
  scrollIndices :
    ∀ i < mouseemu.scrollKeysCount.toNat,
      (mouseemu.scrollKeys i).toNat < totalKeyCount
  buttonIndices :
    ∀ i < mouseemu.buttonKeysCount.toNat,
      (mouseemu.buttonKeys i).toNat < totalKeyCount

theorem mouseemuKeyIndicesCheck_eq_none
    {keys : Nat → UInt16} {keysCount : UInt8} {totalKeyCount : Nat}
    {group : MouseemuGroup} :
    mouseemuKeyIndicesCheck keys keysCount totalKeyCount group = none ↔
      ∀ i < keysCount.toNat, (keys i).toNat < totalKeyCount := by
  rw [mouseemuKeyIndicesCheck, List.findSome?_eq_none_iff]
  constructor
  · intro passes i within
    have found := passes i (List.mem_range.mpr within)
    split_ifs at found with outside
    exact Nat.not_le.mp outside
  · intro inside i member
    exact if_neg (Nat.not_le.mpr (inside i (List.mem_range.mp member)))

theorem mouseemuCountCheck_eq_none
    {count : UInt8} {maxCount : Nat} {group : MouseemuGroup} :
    mouseemuCountCheck count maxCount group = none ↔
      count.toNat ≤ maxCount := by
  rw [mouseemuCountCheck]
  split_ifs with exceeds
  · simp [exceeds]
  · simp [Nat.not_lt.mp exceeds]

theorem failsWith_eq_none {fails : Bool} {fault : MouseemuFault} :
    failsWith fails fault = none ↔ fails = false := by
  cases fails <;> simp [failsWith]

/-- The check returns exactly for settings with all its conditions. -/
theorem mouseemuCheck_eq_none_iff
    {totalKeyCount : Nat} {mouseemu : KbMouseemuSettings} :
    mouseemuCheck totalKeyCount mouseemu = none ↔
      (mouseemu.enabled = true →
        MouseemuChecked totalKeyCount mouseemu) := by
  rw [mouseemuCheck]
  split_ifs with disabled
  · simp [disabled]
  · have enabled : mouseemu.enabled = true := by simpa using disabled
    simp only [List.findSome?_eq_none_iff, List.mem_cons, id_eq,
      List.not_mem_nil, or_false, forall_eq_or_imp, forall_eq,
      mouseemuCountCheck_eq_none, mouseemuKeyIndicesCheck_eq_none,
      failsWith_eq_none, decide_eq_false_iff_not, enabled, true_implies]
    constructor
    · rintro ⟨move, scroll, button, four, eight, pair, triple, moves,
        scrolls, buttons⟩
      refine
        ⟨move, scroll, button, ?_, ?_, ?_, ?_, moves, scrolls, buttons⟩
      · intro mode
        by_contra count
        exact four ⟨mode, count⟩
      · intro mode
        by_contra count
        exact eight ⟨mode, count⟩
      · by_contra neither
        exact pair (not_or.mp neither)
      · by_contra neither
        exact triple (not_or.mp neither)
    · intro checked
      refine
        ⟨checked.moveCount, checked.scrollCount, checked.buttonCount,
          ?_, ?_, ?_, ?_, checked.moveIndices, checked.scrollIndices,
          checked.buttonIndices⟩
      · exact fun fails => fails.2 (checked.fourWay fails.1)
      · exact fun fails => fails.2 (checked.eightWay fails.1)
      · exact fun fails => not_or.mpr fails checked.scrollPair
      · exact fun fails => not_or.mpr fails checked.buttonTriple

end YkbFirmware.KbHandler.SettingsCheck
