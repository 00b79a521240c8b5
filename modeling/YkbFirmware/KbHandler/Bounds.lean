import Mathlib.Tactic.IntervalCases
import YkbFirmware.KbHandler.IndexUses

/-!
# Array bounds

Which settings can drive the handler out of its arrays.  The check bounds the
counts of the three groups and the keys they count, so almost every use is
inside.  Two are not covered: the shortcut loop trusts its count, and the
move vectors use four keys whatever the count is, unless the direction mode
is one of the two whose count is checked.

Each function has one lemma about its uses: either all of them are inside, or
they are exactly under a condition on the settings.
-/

namespace YkbFirmware.KbHandler.Bounds

open YkbFirmware.Library.TransitionSystem
open YkbFirmware.KbHandler.Settings
open YkbFirmware.KbHandler.SettingsCheck
open YkbFirmware.KbHandler.Report
open YkbFirmware.KbHandler.Core
open YkbFirmware.KbHandler.Frames
open YkbFirmware.KbHandler.Transition
open YkbFirmware.KbHandler.Effects
open YkbFirmware.KbHandler.CoreThread
open YkbFirmware.KbHandler.IndexUses

/-! ## Conditions -/

/-- The shortcut loop ends within the array: by its count, or by a hit. -/
def ShortcutsEnd
    (fnShortcutsMax : Nat) (settings : KbSettings) (code : UInt8) : Prop :=
  settings.fnShortcutsCount.toNat ≤ fnShortcutsMax ∨
    ∃ index < fnShortcutsMax, (settings.fnShortcuts index).key = code

/-- If the key value makes the handler look for a shortcut, the loop ends. -/
def KeyValueSafe
    (config : KbHandlerConfig) (fnShortcutsMax : Nat)
    (st : KbhRuntimeState) (key : Nat) (value : UInt16) : Prop :=
  LooksForShortcut config st key value →
    ShortcutsEnd fnShortcutsMax st.settings (st.resolvedHid key)

/--
The keys of the four straight vectors are checked, not used, or in range
anyway.
-/
def MovesCovered
    (config : KbHandlerConfig) (emu : KbMouseemuSettings) : Prop :=
  emu.enabled = false ∨ emu.directionMode = .fourWay ∨
    emu.directionMode = .eightWay ∨ emu.moveKeysCount = 0 ∨
      ∀ index < 4, (emu.moveKeys index).toNat < config.totalKeyCount

/-- Frames which emulate the mouse have their move keys covered. -/
def MouseSafe (config : KbHandlerConfig) (st : KbhRuntimeState) : Prop :=
  st.activeMode = .mousesim → MovesCovered config st.settings.mouseemu

/-- The event reaches neither defect. -/
def EventSafe
    (config : KbHandlerConfig) (fnShortcutsMax : Nat)
    (st : KbhRuntimeState) : CoreEvent config → Prop
  | .keyValue _ key value =>
      KeyValueSafe config fnShortcutsMax st key value
  | .frameEnd _ => MouseSafe config st
  | .slaveValues slots _ values =>
      config.keyCountSlave ≠ 0 →
        StepsMeet (slaveKeyStep config slots values)
            (fun current index =>
              KeyValueSafe config fnShortcutsMax current
                (config.keyCount + index.val) (values index))
            st (List.finRange config.keyCountSlave) ∧
          ∀ processed,
            run (slaveKeyStep config slots values) st
                (List.finRange config.keyCountSlave) =
              some processed →
            MouseSafe config processed
  | .slaveReset _ => config.keyCountSlave ≠ 0 → MouseSafe config st
  | .settingsUpdate _ => True

/-! ## Lists of uses -/

def AllInside
    (config : KbHandlerConfig) (fnShortcutsMax : Nat)
    (uses : List IndexUse) : Prop :=
  ∀ use ∈ uses, use.Inside config fnShortcutsMax

section Uses

variable {config : KbHandlerConfig} {fnShortcutsMax : Nat}

section Lists

variable
    {array : HandlerArray} {indices : List Nat} {use : IndexUse}
    {first second : List IndexUse} {condition : Prop}
    [Decidable condition]

@[simp]
theorem allInside_nil : AllInside config fnShortcutsMax [] :=
  fun _ impossible => nomatch impossible

@[simp]
theorem allInside_cons :
    AllInside config fnShortcutsMax (use :: first) ↔
      use.Inside config fnShortcutsMax ∧
        AllInside config fnShortcutsMax first :=
  List.forall_mem_cons

@[simp]
theorem allInside_append :
    AllInside config fnShortcutsMax (first ++ second) ↔
      AllInside config fnShortcutsMax first ∧
        AllInside config fnShortcutsMax second :=
  List.forall_mem_append

theorem allInside_ite :
    AllInside config fnShortcutsMax (if condition then first else second) ↔
      (condition → AllInside config fnShortcutsMax first) ∧
        (¬ condition → AllInside config fnShortcutsMax second) := by
  split_ifs with holds <;> simp [holds]

theorem allInside_flatMap
    {Item : Type} {items : List Item} {uses : Item → List IndexUse} :
    AllInside config fnShortcutsMax (items.flatMap uses) ↔
      ∀ item ∈ items, AllInside config fnShortcutsMax (uses item) := by
  constructor
  · intro inside item member use used
    exact inside use (List.mem_flatMap.mpr ⟨item, member, used⟩)
  · intro inside use used
    rcases List.mem_flatMap.mp used with ⟨item, member, used⟩
    exact inside item member use used

theorem allInside_usesAt :
    AllInside config fnShortcutsMax (usesAt array indices) ↔
      ∀ index ∈ indices, index < array.length config fnShortcutsMax := by
  simp [AllInside, usesAt, IndexUse.Inside]

theorem mem_searched {count index : Nat} {hit : Nat → Bool} :
    index ∈ searched count hit ↔
      index < count ∧ ∀ earlier < index, hit earlier = false := by
  simp [searched]

/-- A loop stays below a bound by its count, or by a hit. -/
theorem searched_lt_iff {count bound : Nat} {hit : Nat → Bool} :
    (∀ index ∈ searched count hit, index < bound) ↔
      count ≤ bound ∨ ∃ index < bound, hit index = true := by
  constructor
  · intro below
    by_contra neither
    rw [not_or, Nat.not_le] at neither
    rcases neither with ⟨beyond, missed⟩
    refine lt_irrefl bound (below bound (mem_searched.mpr ⟨beyond, ?_⟩))
    intro earlier within
    by_contra hits
    exact missed ⟨earlier, within, by simpa using hits⟩
  · rintro (within | ⟨first, within, hits⟩) index member
    · exact (mem_searched.mp member).1.trans_le within
    · by_contra beyond
      have missed :=
        (mem_searched.mp member).2 first
          (within.trans_le (Nat.not_lt.mp beyond))
      exact Bool.false_ne_true (missed.symm.trans hits)

end Lists

/-! ## Key lists -/

/-- All entries of the list are keys. -/
def ListsKeys (config : KbHandlerConfig) (list : KeyList) : Prop :=
  ∀ key, list.contains key = true → key < config.totalKeyCount

theorem ListsKeys.entry
    {list : KeyList} (lists : ListsKeys config list)
    {index count : Nat} {hit : Nat → Bool}
    (reached : index ∈ searched count hit)
    (counted : count = list.count.toNat) :
    (list.keys index).toNat < config.totalKeyCount := by
  apply lists
  apply KeyList.contains_iff.mpr
  exact ⟨index, counted ▸ (mem_searched.mp reached).1, rfl⟩

/-- The settings in force passed the check, and the cache lists keys. -/
structure Sound (config : KbHandlerConfig) (st : KbhRuntimeState) : Prop where
  checked :
    mouseemuCheck config.totalKeyCount st.settings.mouseemu = none
  layer1 : ListsKeys config st.layer1Keys
  layer2 : ListsKeys config st.layer2Keys
  fn : ListsKeys config st.fnKeys

theorem sound_threadStart
    {settings : KbSettings}
    (accepted :
      (kbHandlerOnSettingsUpdate config settings).panic = none) :
    Sound config (threadStart config settings) where
  checked := accepted
  layer1 := fun _ listed => (layerKeys_contains listed).1
  layer2 := fun _ listed => (layerKeys_contains listed).1
  fn := fun _ listed => (layerKeys_contains listed).1

theorem Sound.kept
    {st next : KbhRuntimeState}
    (sound : Sound config st) (kept : CacheKept st next) :
    Sound config next where
  checked := by
    rw [kept.keys.mouseemu]
    exact sound.checked
  layer1 := by
    rw [kept.layer1Keys]
    exact sound.layer1
  layer2 := by
    rw [kept.layer2Keys]
    exact sound.layer2
  fn := by
    rw [kept.fnKeys]
    exact sound.fn

theorem Sound.step
    {st next : KbhRuntimeState} {event : CoreEvent config}
    (sound : Sound config st)
    (stepped : coreStep config st event = some next) :
    Sound config next := by
  rcases coreStep_cases stepped with kept | ⟨checked, same⟩
  · exact sound.kept kept
  · constructor
    · exact checked
    · rw [same]
      exact sound.layer1
    · rw [same]
      exact sound.layer2
    · rw [same]
      exact sound.fn

/-! ## Reports -/

section Functions

variable {st : KbhRuntimeState} {key : Nat} {status : Bool}

/-- A group of emulation keys is searched below its count. -/
theorem keyInListUses_inside
    {array : HandlerArray} {keys : Nat → UInt16} {count : UInt8}
    (within : count.toNat ≤ array.length config fnShortcutsMax) :
    AllInside config fnShortcutsMax (keyInListUses array key keys count) := by
  rw [keyInListUses, allInside_usesAt, searched_lt_iff]
  exact .inl within

theorem isMouseemuPhysicalKeyUses_inside
    {emu : KbMouseemuSettings}
    (checked : mouseemuCheck config.totalKeyCount emu = none) :
    AllInside config fnShortcutsMax (isMouseemuPhysicalKeyUses emu key) := by
  rw [isMouseemuPhysicalKeyUses, allInside_ite]
  constructor
  · intro _
    exact allInside_nil
  · intro enabled
    have passed :=
      mouseemuCheck_eq_none_iff.mp checked (by simpa using enabled)
    simp only [allInside_append, allInside_ite]
    refine ⟨?_, fun _ => allInside_nil, fun _ => ⟨?_, ?_⟩⟩
    · exact keyInListUses_inside passed.moveCount
    · exact keyInListUses_inside passed.scrollCount
    · refine ⟨fun _ => allInside_nil, fun _ => ?_⟩
      exact keyInListUses_inside passed.buttonCount

theorem buildKbReportUses_inside
    {settings : KbSettings} {array : HandlerArray}
    {pressedKeys : Nat → Bool}
    (checked : mouseemuCheck config.totalKeyCount settings.mouseemu = none)
    (whole : array.length config fnShortcutsMax = config.totalKeyCount) :
    AllInside config fnShortcutsMax
      (buildKbReportUses config settings array pressedKeys) := by
  rw [buildKbReportUses, allInside_flatMap]
  intro key member
  simp only [allInside_cons, allInside_ite]
  refine ⟨?_, fun _ => ?_, fun _ => allInside_nil⟩
  · exact (List.mem_range.mp member).trans_eq whole.symm
  · exact isMouseemuPhysicalKeyUses_inside checked

theorem reportTransitionUses_inside
    (checked :
      mouseemuCheck config.totalKeyCount st.settings.mouseemu = none) :
    AllInside config fnShortcutsMax (reportTransitionUses config st) := by
  rw [reportTransitionUses, allInside_ite]
  refine ⟨fun _ => ?_, fun _ => allInside_nil⟩
  exact buildKbReportUses_inside checked rfl

/-! ## Key transitions -/

theorem isAnyFnPressedUses_inside (lists : ListsKeys config st.fnKeys) :
    AllInside config fnShortcutsMax (isAnyFnPressedUses st key) := by
  rw [isAnyFnPressedUses, allInside_flatMap]
  intro index reached
  have inRange := lists.entry reached rfl
  simp only [allInside_ite, allInside_cons]
  refine ⟨fun _ => allInside_nil, fun _ => ⟨inRange, ?_⟩⟩
  exact ⟨fun _ => allInside_nil, fun _ => ⟨inRange, allInside_nil⟩⟩

theorem handleLayerKeyUses_inside
    {pressedKeys : Nat → Bool} {list : KeyList}
    (lists : ListsKeys config list) :
    AllInside config fnShortcutsMax
      (handleLayerKeyUses key status pressedKeys list) := by
  rw [handleLayerKeyUses, allInside_ite]
  refine ⟨fun _ => allInside_nil, fun _ => ?_⟩
  rw [allInside_flatMap]
  intro index reached
  have inRange := lists.entry reached rfl
  rw [allInside_ite]
  refine ⟨fun _ => allInside_nil, fun _ => ?_⟩
  exact allInside_cons.mpr ⟨inRange, allInside_nil⟩

theorem routeTransitionUses_inside (sound : Sound config st) :
    AllInside config fnShortcutsMax
      (routeTransitionUses config st key status) := by
  have reported :=
    @reportTransitionUses_inside config fnShortcutsMax st sound.checked
  have layered :
      ∀ list, ListsKeys config list →
        AllInside config fnShortcutsMax
          (handleLayerKeyUses key status st.pressedKeys list ++
            if (handleLayerKey key status st.pressedKeys list).isSome =
                true then
              reportTransitionUses config st
            else
              []) := by
    intro list lists
    rw [allInside_append, allInside_ite]
    refine ⟨handleLayerKeyUses_inside lists, fun _ => reported, fun _ => ?_⟩
    exact allInside_nil
  rw [routeTransitionUses]
  split_ifs
  · exact layered _ sound.layer1
  · exact layered _ sound.layer2
  · exact allInside_nil
  · exact reported

theorem findFnShortcutUses_inside_iff
    {settings : KbSettings} {code : UInt8} :
    AllInside config fnShortcutsMax (findFnShortcutUses settings code) ↔
      ShortcutsEnd fnShortcutsMax settings code := by
  rw [findFnShortcutUses, allInside_usesAt]
  apply searched_lt_iff.trans
  simp only [beq_iff_eq]
  exact Iff.rfl

theorem maybeHandleFnShortcutUses_inside_iff
    {code : UInt8} (lists : ListsKeys config st.fnKeys) :
    AllInside config fnShortcutsMax
        (maybeHandleFnShortcutUses st key status code) ↔
      (st.shortcutConsumedKeys key = false → status = true →
        code ≠ keyFn → isAnyFnPressed st key = true →
          ShortcutsEnd fnShortcutsMax st.settings code) := by
  rw [maybeHandleFnShortcutUses, allInside_append,
    and_iff_right (isAnyFnPressedUses_inside lists), allInside_ite,
    allInside_ite, findFnShortcutUses_inside_iff]
  simp only [allInside_nil, implies_true, true_and, not_or,
    Bool.not_eq_true, Bool.not_eq_false, and_imp, ne_eq]

/-- A transition leaves the arrays only through the shortcut loop. -/
theorem processKeyTransitionUses_inside_iff
    (env : KbhEnvironment) (sound : Sound config st)
    (inRange : key < config.totalKeyCount) :
    AllInside config fnShortcutsMax
        (processKeyTransitionUses config env st key status) ↔
      (st.shortcutConsumedKeys key = false → status = true →
        st.resolvedHid key ≠ keyFn → isAnyFnPressed st key = true →
          ShortcutsEnd fnShortcutsMax st.settings (st.resolvedHid key)) := by
  have noted : Sound config (notedState st key status) :=
    sound.kept (.of_silent notedState_silent)
  have routed :
      ∀ handled : Prop, ∀ _ : Decidable handled,
        AllInside config fnShortcutsMax
          (if handled then
            []
          else
            routeTransitionUses config (notedState st key status) key
              status) := by
    intro handled _
    rw [allInside_ite]
    exact
      ⟨fun _ => allInside_nil, fun _ => routeTransitionUses_inside noted⟩
  rw [processKeyTransitionUses, if_neg inRange.not_ge]
  dsimp only
  rw [← notedState, allInside_append, and_iff_left (routed _ _),
    allInside_cons, maybeHandleFnShortcutUses_inside_iff noted.fn,
    isAnyFnPressed_noted]
  exact and_iff_right inRange

/-- So does a key value: exactly when it is a press that looks for one. -/
theorem processKeyValueUses_inside_iff
    (env : KbhEnvironment) (sound : Sound config st) (value : UInt16) :
    AllInside config fnShortcutsMax
        (processKeyValueUses config env st key value) ↔
      KeyValueSafe config fnShortcutsMax st key value := by
  rw [processKeyValueUses, keyPressPercentUses]
  by_cases outside : key ≥ config.totalKeyCount
  · rw [if_pos outside]
    exact
      iff_of_true allInside_nil fun looks =>
        absurd looks.inRange (Nat.not_lt.mpr outside)
  · have inRange : key < config.totalKeyCount := Nat.not_le.mp outside
    have stored :=
      sound.kept (.of_silent (@storeKeyValue_silent config st key value))
    rw [if_neg outside, if_neg outside]
    simp only [allInside_append, allInside_ite]
    rw [processKeyTransitionUses_inside_iff env stored inRange]
    rcases storeKeyValue_eq config st key value with
      ⟨notified, outputs, same, _⟩
    rw [same, isAnyFnPressed_withValue]
    constructor
    · rintro ⟨_, _, transition⟩ looks
      have pressed : decide (value ≥ st.settings.thresholds key) = true :=
        decide_eq_true looks.down
      refine
        transition ?_ looks.unconsumed pressed looks.notFn looks.fnActive
      rw [looks.up, pressed]
      exact Bool.false_ne_true
    · intro safe
      refine ⟨?_, fun _ => allInside_nil, ?_⟩
      · simp [IndexUse.Inside, HandlerArray.length, inRange]
      · intro changes unconsumed pressed notFn fnActive
        rw [pressed, Bool.not_eq_true] at changes
        exact
          safe
            ⟨inRange, changes, of_decide_eq_true pressed, unconsumed, notFn,
              fnActive⟩

end Functions

/-! ## Mouse emulation -/

section MouseEmulation

variable
    {emu : KbMouseemuSettings} {array : HandlerArray}
    {keys : Nat → UInt16} {index left straight right : Nat}

theorem emulationKeyUses_inside_iff :
    AllInside config fnShortcutsMax (emulationKeyUses array keys index) ↔
      index < array.length config fnShortcutsMax ∧
        (keys index).toNat < config.totalKeyCount := by
  simp only [emulationKeyUses, allInside_cons, allInside_nil, and_true,
    IndexUse.Inside]
  apply and_congr_right'
  constructor
  · exact fun used => used.1
  · exact fun inRange => ⟨inRange, inRange, inRange, inRange⟩

/-- A vector uses its straight key, and in eight-way mode its neighbours. -/
theorem mouseemuVectorValueUses_inside_iff
    (leftEntry : left < kbMouseemuMoveKeysMax)
    (straightEntry : straight < kbMouseemuMoveKeysMax)
    (rightEntry : right < kbMouseemuMoveKeysMax) :
    AllInside config fnShortcutsMax
        (mouseemuVectorValueUses emu left straight right) ↔
      (emu.moveKeys straight).toNat < config.totalKeyCount ∧
        (emu.directionMode = .eightWay →
          (emu.moveKeys left).toNat < config.totalKeyCount ∧
            (emu.moveKeys right).toNat < config.totalKeyCount) := by
  have entry :
      ∀ index < kbMouseemuMoveKeysMax,
        (AllInside config fnShortcutsMax
            (emulationKeyUses .moveKeys emu.moveKeys index) ↔
          (emu.moveKeys index).toNat < config.totalKeyCount) := by
    intro index within
    rw [emulationKeyUses_inside_iff]
    exact and_iff_right within
  rw [mouseemuVectorValueUses, allInside_append, allInside_ite,
    allInside_append, entry left leftEntry, entry straight straightEntry,
    entry right rightEntry]
  simp

/-- In eight-way mode the check covers every move key. -/
theorem eightWay_inRange
    (passed : MouseemuChecked config.totalKeyCount emu)
    (mode : emu.directionMode = .eightWay) (within : index < 8) :
    (emu.moveKeys index).toNat < config.totalKeyCount := by
  apply passed.moveIndices
  rw [passed.eightWay mode]
  exact within

/-- With move keys in use, they are covered if the straight ones are. -/
theorem movesCovered_iff
    (passed : MouseemuChecked config.totalKeyCount emu)
    (enabled : emu.enabled = true) (counted : emu.moveKeysCount > 0) :
    MovesCovered config emu ↔
      ∀ index < 4, (emu.moveKeys index).toNat < config.totalKeyCount := by
  constructor
  · intro covered index within
    rcases covered with disabled | fourWay | eightWay | none | inRange
    · exact absurd (disabled.symm.trans enabled) Bool.false_ne_true
    · apply passed.moveIndices
      rw [passed.fourWay fourWay]
      exact within
    · exact eightWay_inRange passed eightWay (by omega)
    · rw [none] at counted
      exact absurd counted (by decide)
    · exact inRange index within
  · intro inRange
    exact .inr (.inr (.inr (.inr inRange)))

/-- The four vectors together use the straight keys in every mode. -/
theorem moveUses_inside_iff
    (passed : MouseemuChecked config.totalKeyCount emu) :
    AllInside config fnShortcutsMax
        (mouseemuVectorValueUses emu 4 1 5 ++
          mouseemuVectorValueUses emu 7 2 6 ++
            mouseemuVectorValueUses emu 5 3 7 ++
              mouseemuVectorValueUses emu 6 0 4) ↔
      ∀ index < 4, (emu.moveKeys index).toNat < config.totalKeyCount := by
  have vector :
      ∀ left < 8, ∀ straight < 8, ∀ right < 8,
        (AllInside config fnShortcutsMax
            (mouseemuVectorValueUses emu left straight right) ↔
          (emu.moveKeys straight).toNat < config.totalKeyCount) := by
    intro left leftEntry straight straightEntry right rightEntry
    rw [mouseemuVectorValueUses_inside_iff leftEntry straightEntry
      rightEntry]
    apply and_iff_left
    intro mode
    exact
      ⟨eightWay_inRange passed mode leftEntry,
        eightWay_inRange passed mode rightEntry⟩
  rw [allInside_append, allInside_append, allInside_append,
    vector 4 (by omega) 1 (by omega) 5 (by omega),
    vector 7 (by omega) 2 (by omega) 6 (by omega),
    vector 5 (by omega) 3 (by omega) 7 (by omega),
    vector 6 (by omega) 0 (by omega) 4 (by omega)]
  constructor
  · rintro ⟨⟨⟨up, down⟩, right⟩, left⟩ index within
    interval_cases index
    · exact left
    · exact up
    · exact down
    · exact right
  · intro straight
    exact
      ⟨⟨⟨straight 1 (by omega), straight 2 (by omega)⟩,
        straight 3 (by omega)⟩, straight 0 (by omega)⟩

theorem scrollUses_inside
    (passed : MouseemuChecked config.totalKeyCount emu)
    (pair : emu.scrollKeysCount = 2) :
    AllInside config fnShortcutsMax (mouseemuScrollDeltaUses emu) := by
  have entry :
      ∀ index < 2,
        AllInside config fnShortcutsMax
          (emulationKeyUses .scrollKeys emu.scrollKeys index) := by
    intro index within
    rw [emulationKeyUses_inside_iff]
    refine ⟨within, passed.scrollIndices index ?_⟩
    rw [pair]
    exact within
  rw [mouseemuScrollDeltaUses, allInside_append]
  exact ⟨entry 0 (by omega), entry 1 (by omega)⟩

theorem buttonUses_inside
    (passed : MouseemuChecked config.totalKeyCount emu) :
    AllInside config fnShortcutsMax (buttonUses emu index) := by
  rw [buttonUses, allInside_ite]
  refine ⟨fun counted => ?_, fun _ => allInside_nil⟩
  simp only [allInside_cons, allInside_nil, and_true]
  exact
    ⟨counted.trans_le passed.buttonCount, passed.buttonIndices index counted⟩

/-- Mouse emulation stays inside exactly if the moves are covered. -/
theorem mouseemuValueHandlerUses_inside_iff
    (checked : mouseemuCheck config.totalKeyCount emu = none) :
    AllInside config fnShortcutsMax (mouseemuValueHandlerUses emu) ↔
      MovesCovered config emu := by
  rw [mouseemuValueHandlerUses]
  by_cases disabled : emu.enabled = false
  · rw [if_pos disabled]
    exact iff_of_true allInside_nil (.inl disabled)
  · have enabled : emu.enabled = true := by simpa using disabled
    have passed := mouseemuCheck_eq_none_iff.mp checked enabled
    rw [if_neg disabled]
    have buttons :
        AllInside config fnShortcutsMax
          (buttonUses emu 0 ++ buttonUses emu 1 ++ buttonUses emu 2) := by
      simp only [allInside_append]
      exact
        ⟨⟨buttonUses_inside passed, buttonUses_inside passed⟩,
          buttonUses_inside passed⟩
    rw [allInside_append, allInside_append, and_iff_left buttons,
      allInside_ite, allInside_ite, and_iff_left fun _ => allInside_nil,
      and_iff_left
        ⟨fun pair => scrollUses_inside passed pair,
          fun _ => allInside_nil⟩,
      moveUses_inside_iff passed]
    by_cases counted : emu.moveKeysCount > 0
    · rw [movesCovered_iff passed enabled counted]
      exact ⟨fun inside => inside counted, fun inside _ => inside⟩
    · have none : emu.moveKeysCount = 0 := by
        simpa [UInt8.lt_iff_toNat_lt, ← UInt8.toNat_inj] using counted
      exact
        iff_of_true (fun positive => absurd positive counted)
          (.inr (.inr (.inr (.inl none))))

end MouseEmulation

/-! ## Frames -/

section Frames

variable {st next : KbhRuntimeState} {event : CoreEvent config}

/-- The deepest key is one of the keys compared. -/
theorem foldl_raceKey_mem
    {keys : List Nat} {choice : RaceChoice} {key : Nat}
    (chosen : (keys.foldl (raceKey st) choice).maxIndex = some key) :
    choice.maxIndex = some key ∨ key ∈ keys := by
  induction keys generalizing choice with
  | nil => exact .inl chosen
  | cons head rest induction =>
      rcases induction chosen with before | member
      · rw [raceKey] at before
        dsimp only at before
        split_ifs at before
        · exact .inl before
        · exact .inl before
        · cases before
          exact .inr List.mem_cons_self
        · exact .inl before
      · exact .inr (List.mem_cons_of_mem head member)

theorem raceChoice_inRange
    {key : Nat} (chosen : (raceChoice config st).maxIndex = some key) :
    key < config.totalKeyCount := by
  rcases foldl_raceKey_mem chosen with initial | member
  · cases initial
  · exact List.mem_range.mp member

theorem sendRaceReportUses_inside
    (checked :
      mouseemuCheck config.totalKeyCount st.settings.mouseemu = none) :
    AllInside config fnShortcutsMax
      (sendRaceReportIfChangedUses config st) := by
  simp only [sendRaceReportIfChangedUses, allInside_append]
  refine ⟨⟨?_, ?_⟩, buildKbReportUses_inside checked rfl⟩
  · rw [allInside_flatMap]
    intro key member
    have inRange := List.mem_range.mp member
    simp only [raceKeyUses, allInside_cons, allInside_ite,
      allInside_append, allInside_nil, implies_true, and_true, true_and]
    exact ⟨inRange, fun _ => ⟨⟨inRange, inRange⟩, fun _ => inRange⟩⟩
  · rw [allInside_usesAt]
    intro key chosen
    exact raceChoice_inRange (Option.mem_toList.mp chosen)

/-- The end of a frame stays inside exactly if it is safe for the mouse. -/
theorem finishValueFrameUses_inside_iff (sound : Sound config st) :
    AllInside config fnShortcutsMax (finishValueFrameUses config st) ↔
      MouseSafe config st := by
  rw [finishValueFrameUses, allInside_ite,
    mouseemuValueHandlerUses_inside_iff sound.checked]
  apply and_iff_left
  intro _
  rw [allInside_ite]
  exact
    ⟨fun _ => sendRaceReportUses_inside sound.checked,
      fun _ => allInside_nil⟩

theorem slaveKeyStep_sound
    {slots : Nat → ScriptSlotTable} {values : SlaveValues config}
    {index : Fin config.keyCountSlave} (sound : Sound config st)
    (stepped : slaveKeyStep config slots values st index = some next) :
    Sound config next := by
  cases stepped
  exact sound.kept (processKeyValue_kept _ _)

theorem handleSlaveValuesUses_inside_iff
    (sound : Sound config st) (slots : Nat → ScriptSlotTable)
    (nowMs : Int) (values : SlaveValues config) :
    AllInside config fnShortcutsMax
        (handleSlaveValuesUses config slots st values) ↔
      EventSafe config fnShortcutsMax st
        (.slaveValues slots nowMs values) := by
  rw [handleSlaveValuesUses, allInside_ite,
    and_iff_right fun _ => allInside_nil, allInside_append]
  apply forall_congr'
  intro _
  apply and_congr
  · apply forall_collected_iff.trans
    apply stepsMeet_congr (fun _ _ _ => slaveKeyStep_sound) _ sound
    intro current index currentSound
    exact processKeyValueUses_inside_iff _ currentSound _
  · cases ran :
        run (slaveKeyStep config slots values) st
          (List.finRange config.keyCountSlave) with
    | none => simp
    | some processed =>
        have processedSound :=
          run_preserves (fun _ _ _ => slaveKeyStep_sound) sound ran
        simp only [Option.elim_some, Option.some.injEq, forall_eq']
        exact finishValueFrameUses_inside_iff processedSound

theorem handleSlaveKeysResetUses_inside_iff (sound : Sound config st) :
    AllInside config fnShortcutsMax (handleSlaveKeysResetUses config st) ↔
      (config.keyCountSlave ≠ 0 → MouseSafe config st) := by
  have half :
      ∀ index ∈ List.range' config.keyCount config.keyCountSlave,
        index < config.totalKeyCount := by
    intro index member
    exact (List.mem_range'_1.mp member).2
  rw [handleSlaveKeysResetUses, allInside_ite,
    and_iff_right fun _ => allInside_nil]
  apply forall_congr'
  intro _
  dsimp only
  rw [allInside_append, and_iff_left ?_, allInside_append,
    allInside_append,
    and_iff_right
      ⟨allInside_usesAt.mpr half, allInside_usesAt.mpr half⟩,
    allInside_ite, and_iff_left fun _ => allInside_nil,
    mouseemuValueHandlerUses_inside_iff sound.checked]
  · exact Iff.rfl
  · rw [allInside_ite, allInside_ite]
    refine
      ⟨fun _ => buildKbReportUses_inside sound.checked rfl, fun _ => ?_⟩
    exact
      ⟨fun _ => sendRaceReportUses_inside sound.checked,
        fun _ => allInside_nil⟩

/-- An event leaves the arrays exactly if it is not safe. -/
theorem coreUses_inside_iff (sound : Sound config st) :
    AllInside config fnShortcutsMax (coreUses config st event) ↔
      EventSafe config fnShortcutsMax st event := by
  cases event with
  | keyValue slots key value =>
      exact processKeyValueUses_inside_iff _ sound value
  | frameEnd nowMs => exact finishValueFrameUses_inside_iff sound
  | slaveValues slots nowMs values =>
      exact handleSlaveValuesUses_inside_iff sound slots nowMs values
  | slaveReset nowMs => exact handleSlaveKeysResetUses_inside_iff sound
  | settingsUpdate settings => exact iff_of_true allInside_nil trivial

end Frames

end Uses

/-! ## Runs -/

/--
After settings the handler accepts, a run of the core thread keeps every
index inside its array if and only if no event of the run reaches a shortcut
loop that ends beyond the array, or emulates the mouse with move keys that
are not covered.
-/
theorem indices_stay_inside_iff
    (config : KbHandlerConfig) (fnShortcutsMax : Nat)
    (settings : KbSettings) (events : List (CoreEvent config))
    (accepted :
      (kbHandlerOnSettingsUpdate config settings).panic = none) :
    (∀ use ∈
        collected (coreStep config) (coreUses config)
          (threadStart config settings) events,
        use.Inside config fnShortcutsMax) ↔
      StepsMeet (coreStep config) (EventSafe config fnShortcutsMax)
        (threadStart config settings) events := by
  apply forall_collected_iff.trans
  apply
    stepsMeet_congr (fun _ _ _ sound => Sound.step sound) _
      (sound_threadStart accepted)
  intro st event sound
  exact coreUses_inside_iff sound

/-- Mouse emulation with four move keys and three buttons. -/
def directedEmulation : KbSettings :=
  { plainSettings with
    mode := .mousesim
    mouseemu :=
      { plainSettings.mouseemu with
        enabled := true
        directionMode := .fourWay
        moveKeysCount := 4
        moveKeys := fun index => UInt16.ofNat index
        buttonKeysCount := 3
        buttonKeys := fun index => UInt16.ofNat (4 + index) }
    fnShortcutsCount := 4 }

/-- A move key and a button are pressed, and the mouse is moved. -/
def emulatedFrame : List (CoreEvent eightKeys) :=
  [.keyValue ⟨0, fun _ => false, fun _ => 0⟩ 3 1,
    .keyValue ⟨0, fun _ => false, fun _ => 0⟩ 6 1, .frameEnd 0]

theorem emulatedFrame_stays_inside :
    (kbHandlerOnSettingsUpdate eightKeys directedEmulation).panic = none ∧
      ⟨.currentValues, 3⟩ ∈
        collected (coreStep eightKeys) (coreUses eightKeys)
          (threadStart eightKeys directedEmulation) emulatedFrame ∧
      ∀ use ∈
        collected (coreStep eightKeys) (coreUses eightKeys)
          (threadStart eightKeys directedEmulation) emulatedFrame,
        use.Inside eightKeys 4 := by
  refine ⟨by decide +kernel, by decide +kernel, ?_⟩
  refine
    (indices_stay_inside_iff eightKeys 4 directedEmulation emulatedFrame
      (by decide +kernel)).mpr ?_
  refine ⟨fun _ => Or.inl (by decide), fun pressed moved => ?_⟩
  cases moved
  refine ⟨fun _ => Or.inl (by decide +kernel), fun clicked moved => ?_⟩
  cases moved
  exact ⟨fun _ => Or.inr (Or.inl rfl), fun _ _ => trivial⟩

/-! ## A use outside -/

/-- Mouse emulation with one move key and a direction mode of neither kind. -/
def undirectedEmulation : KbSettings :=
  { plainSettings with
    mode := .mousesim
    mouseemu :=
      { plainSettings.mouseemu with
        enabled := true
        directionMode := .other 2
        moveKeysCount := 1
        moveKeys := fun index => if index = 0 then 0 else 1000 } }

/-- The settings pass, and the end of a frame uses key 1000 of eight. -/
theorem undirected_emulation_leaves_arrays :
    ¬ ∀ (config : KbHandlerConfig) (fnShortcutsMax : Nat)
        (settings : KbSettings) (events : List (CoreEvent config)),
      (kbHandlerOnSettingsUpdate config settings).panic = none →
        ∀ use ∈
          collected (coreStep config) (coreUses config)
            (threadStart config settings) events,
          use.Inside config fnShortcutsMax := by
  intro always
  have inside :=
    always eightKeys 4 undirectedEmulation [.frameEnd 0] (by decide)
      ⟨.currentValues, 1000⟩ (by decide)
  exact absurd (show 1000 < 8 from inside) (by omega)

end YkbFirmware.KbHandler.Bounds
