import Mathlib.Data.Rat.Floor
import YkbFirmware.KbHandler.Report

/-!
# The keyboard handler core

`struct kbh_runtime_state` and the functions of `kb_handler_core.c` which
process key values: layer keys, FN shortcuts, the keyboard report, mouse
emulation and race mode.

Calls to other components (event callbacks, the HID transport and
`kb_settings_apply`) are recorded in the order they are made.  What those
components answer is an argument: the script slots and the result of
`kb_settings_apply` in `KbhEnvironment`, and the uptime for functions which
read the clock.
-/

namespace YkbFirmware.KbHandler.Core

open YkbFirmware.KbHandler.Settings
open YkbFirmware.KbHandler.Report

/-! ## State -/

/-- `hid_mouse_report_t`; the signed bytes are integers. -/
structure HidMouseReport where
  buttons : UInt8
  x : Int
  y : Int
  wheel : Int
deriving DecidableEq, Repr

def HidMouseReport.zero : HidMouseReport := ⟨0, 0, 0, 0⟩

/-- A call the core makes to another component. -/
inductive KbhOutput where
  | onEvent (key : Nat) (pressed : Bool)
  | onNewValue (key : Nat) (pressPercent : UInt16)
  | settingsApply (settings : KbSettings)
  | sendKbReport (report : HidKbReport) (prio : KbhTransportPrio)
  | sendMouseReport (report : HidMouseReport) (prio : KbhTransportPrio)

/-- What other components answer during a call. -/
structure KbhEnvironment where
  slots : ScriptSlotTable
  /-- `kb_settings_apply` returns 0. -/
  applied : Bool

/-- A key index array with its 8-bit count. -/
structure KeyList where
  keys : Nat → UInt16
  count : UInt8

namespace KeyList

def empty : KeyList := ⟨fun _ => 0, 0⟩

/-- `keys[count++] = key`; the count wraps at 256. -/
def push (list : KeyList) (key : Nat) : KeyList where
  keys := Function.update list.keys list.count.toNat (UInt16.ofNat key)
  count := list.count + 1

def contains (list : KeyList) (key : Nat) : Bool :=
  keyInList key list.keys list.count

/-- Some entry other than `key` meets the test. -/
def anyOther (list : KeyList) (key : Nat) (test : Nat → Bool) : Bool :=
  (List.range list.count.toNat).any fun index =>
    (list.keys index).toNat != key && test (list.keys index).toNat

theorem contains_iff {list : KeyList} {key : Nat} :
    list.contains key = true ↔
      ∃ index < list.count.toNat, (list.keys index).toNat = key :=
  keyInList_iff

theorem anyOther_iff
    {list : KeyList} {key : Nat} {test : Nat → Bool} :
    list.anyOther key test = true ↔
      ∃ other, other ≠ key ∧ list.contains other = true ∧
        test other = true := by
  simp only [KeyList.anyOther, contains_iff, List.any_eq_true, List.mem_range,
    Bool.and_eq_true, bne_iff_ne]
  constructor
  · rintro ⟨index, inside, different, passes⟩
    exact ⟨_, different, ⟨index, inside, rfl⟩, passes⟩
  · rintro ⟨other, different, ⟨index, inside, rfl⟩, passes⟩
    exact ⟨index, inside, different, passes⟩

/-- Only the other keys are tested. -/
theorem anyOther_congr
    {list : KeyList} {key : Nat} {test other : Nat → Bool}
    (agree : ∀ entry, entry ≠ key → test entry = other entry) :
    list.anyOther key test = list.anyOther key other := by
  rw [Bool.eq_iff_iff, anyOther_iff, anyOther_iff]
  constructor
  · rintro ⟨entry, different, listed, passes⟩
    exact ⟨entry, different, listed, agree entry different ▸ passes⟩
  · rintro ⟨entry, different, listed, passes⟩
    exact ⟨entry, different, listed, (agree entry different).symm ▸ passes⟩

/-- A push adds its key, or wraps the count and empties the list. -/
theorem contains_push
    {list : KeyList} {key entry : Nat} (fits : key < 2 ^ 16)
    (listed : (list.push key).contains entry = true) :
    entry = key ∨ list.contains entry = true := by
  rcases contains_iff.mp listed with ⟨index, inside, rfl⟩
  by_cases last : index = list.count.toNat
  · left
    simp only [KeyList.push, last, Function.update_self]
    rw [UInt16.toNat_ofNat', Nat.mod_eq_of_lt fits]
  · right
    refine contains_iff.mpr ⟨index, ?_, ?_⟩
    · have grown : index < (list.count.toNat + 1) % 2 ^ 8 := by
        simpa [KeyList.push, UInt8.toNat_add] using inside
      have bound := Nat.mod_le (list.count.toNat + 1) (2 ^ 8)
      omega
    · simp [KeyList.push, Function.update_of_ne last]

end KeyList

/--
`struct kbh_runtime_state` with the file's `values` array and the calls made
so far.
-/
structure KbhRuntimeState where
  settings : KbSettings
  activeMode : KbMode
  secondLayerActive : Bool
  thirdLayerActive : Bool
  pressedKeys : Nat → Bool
  currentValues : Nat → UInt16
  notifiedPressPercent : Nat → UInt16
  racePressedKeys : Nat → Bool
  layer1Keys : KeyList
  layer2Keys : KeyList
  fnKeys : KeyList
  shortcutConsumedKeys : Nat → Bool
  kbReport : HidKbReport
  prevKbReport : HidKbReport
  mouseReport : HidMouseReport
  prevMouseReport : HidMouseReport
  lastMouseReportMs : Int
  mouseWheelRemainder : ℚ
  values : Nat → UInt16
  outputs : List KbhOutput

namespace KbhRuntimeState

def emit (st : KbhRuntimeState) (output : KbhOutput) : KbhRuntimeState :=
  { st with outputs := st.outputs ++ [output] }

def setPressed (st : KbhRuntimeState) (key : Nat) (status : Bool) :
    KbhRuntimeState :=
  { st with pressedKeys := Function.update st.pressedKeys key status }

def setConsumed (st : KbhRuntimeState) (key : Nat) (consumed : Bool) :
    KbhRuntimeState :=
  { st with
    shortcutConsumedKeys :=
      Function.update st.shortcutConsumedKeys key consumed }

/-- Code of a key on the layers in force. -/
def resolvedHid (st : KbhRuntimeState) (key : Nat) : UInt8 :=
  resolveHid st.settings key st.secondLayerActive st.thirdLayerActive

end KbhRuntimeState

/-! ## Layer cache -/

/-- The keys the base layer maps to `code`. -/
def layerKeys
    (config : KbHandlerConfig) (settings : KbSettings) (code : UInt8) :
    KeyList :=
  (List.range config.totalKeyCount).foldl
    (fun list key =>
      if settings.mappingsLayer1 key = code then list.push key else list)
    KeyList.empty

/-- The cache lists only keys the base layer maps to the code. -/
theorem layerKeys_contains
    {config : KbHandlerConfig} {settings : KbSettings} {code : UInt8}
    {key : Nat}
    (listed : (layerKeys config settings code).contains key = true) :
    key < config.totalKeyCount ∧ settings.mappingsLayer1 key = code := by
  let mapped := fun entry : Nat =>
    entry < config.totalKeyCount ∧ settings.mappingsLayer1 entry = code
  have gathered :
      ∀ (keys : List Nat) (list : KeyList),
        (∀ entry ∈ keys, entry < config.totalKeyCount) →
        (∀ entry, list.contains entry = true → mapped entry) →
        ∀ entry,
          (keys.foldl
              (fun list key =>
                if settings.mappingsLayer1 key = code then
                  list.push key
                else
                  list)
              list).contains entry = true →
            mapped entry := by
    intro keys
    induction keys with
    | nil =>
        intro list _ before
        exact before
    | cons head rest induction =>
        intro list inRange before
        have headInRange := inRange head List.mem_cons_self
        refine
          induction _ (fun entry member => inRange entry (by simp [member])) ?_
        intro entry listed
        dsimp only at listed
        split_ifs at listed with mappedHead
        · rcases KeyList.contains_push (headInRange.trans config.fits) listed
            with rfl | listed
          · exact ⟨headInRange, mappedHead⟩
          · exact before entry listed
        · exact before entry listed
  refine gathered _ KeyList.empty ?_ ?_ key listed
  · intro entry member
    exact List.mem_range.mp member
  · intro entry listed
    rcases KeyList.contains_iff.mp listed with ⟨index, inside, _⟩
    exact absurd inside (Nat.not_lt_zero index)

/-- `rebuild_layer_cache` with `build_layer_keys`. -/
def rebuildLayerCache (config : KbHandlerConfig) (st : KbhRuntimeState) :
    KbhRuntimeState :=
  { st with
    layer1Keys := layerKeys config st.settings keyLayer1
    layer2Keys := layerKeys config st.settings keyLayer2
    fnKeys := layerKeys config st.settings keyFn }

/-! ## Keyboard report -/

/-- Send a built report unless it equals the previous one. -/
def sendKbReport (st : KbhRuntimeState) (report : HidKbReport) :
    KbhRuntimeState :=
  let built := { st with kbReport := report }
  if report = st.prevKbReport then
    built
  else
    { built.emit (.sendKbReport report st.settings.kbhPrio) with
      prevKbReport := report }

def sendKbReportIfChanged (config : KbHandlerConfig) (st : KbhRuntimeState) :
    KbhRuntimeState :=
  sendKbReport st
    (buildKbReport config st.settings st.pressedKeys st.secondLayerActive
      st.thirdLayerActive)

/-! ## FN shortcuts -/

def isAnyFnPressed (st : KbhRuntimeState) (key : Nat) : Bool :=
  st.fnKeys.anyOther key fun fnKey =>
    st.pressedKeys fnKey ||
      decide (st.values fnKey ≥ st.settings.thresholds fnKey)

/-- The first shortcut on the code. -/
def findFnShortcut (settings : KbSettings) (resolvedHid : UInt8) :
    Option KbFnShortcut :=
  ((List.range settings.fnShortcutsCount.toNat).map settings.fnShortcuts).find?
    fun shortcut => shortcut.key == resolvedHid

/-- Execute a shortcut and apply the settings it changed. -/
def runFnShortcut
    (config : KbHandlerConfig) (env : KbhEnvironment)
    (st : KbhRuntimeState) (shortcut : KbFnShortcut) : KbhRuntimeState :=
  match executeFnAction config env.slots shortcut st.settings with
  | none => st
  | some changed =>
      let applied :=
        { st with settings := changed }.emit (.settingsApply changed)
      if env.applied then
        { applied with activeMode := changed.mode }
      else
        applied

/--
`maybe_handle_fn_shortcut`.  `none` is the result `false`, which leaves the
state alone.
-/
def maybeHandleFnShortcut
    (config : KbHandlerConfig) (env : KbhEnvironment)
    (st : KbhRuntimeState) (key : Nat) (status : Bool) (resolvedHid : UInt8) :
    Option KbhRuntimeState :=
  let fnActive := isAnyFnPressed st key
  if st.shortcutConsumedKeys key then
    some (if status = false then st.setConsumed key false else st)
  else if status = false ∨ resolvedHid = keyFn ∨ fnActive = false then
    none
  else
    match findFnShortcut st.settings resolvedHid with
    | some shortcut =>
        some ((runFnShortcut config env st shortcut).setConsumed key true)
    | none => some (st.setConsumed key true)

/-! ## Key transitions -/

/-- `handle_layer_key`; `none` is `false`, else the new layer flag. -/
def handleLayerKey
    (key : Nat) (status : Bool) (pressedKeys : Nat → Bool) (list : KeyList) :
    Option Bool :=
  if status = false ∧ list.anyOther key pressedKeys = true then
    none
  else
    some status

/-- The last lines of `process_key_transition`. -/
def reportTransition (config : KbHandlerConfig) (st : KbhRuntimeState) :
    KbhRuntimeState :=
  if st.activeMode = .normal ∨ st.activeMode = .mousesim then
    sendKbReportIfChanged config st
  else
    st

/-- The part of `process_key_transition` after the race-mode test. -/
def routeTransition
    (config : KbHandlerConfig) (st : KbhRuntimeState)
    (key : Nat) (status : Bool) : KbhRuntimeState :=
  if st.layer1Keys.contains key then
    match handleLayerKey key status st.pressedKeys st.layer1Keys with
    | none => st
    | some active =>
        reportTransition config { st with secondLayerActive := active }
  else if st.layer2Keys.contains key then
    match handleLayerKey key status st.pressedKeys st.layer2Keys with
    | none => st
    | some active =>
        reportTransition config { st with thirdLayerActive := active }
  else if st.fnKeys.contains key then
    st
  else
    reportTransition config st

def processKeyTransition
    (config : KbHandlerConfig) (env : KbhEnvironment)
    (st : KbhRuntimeState) (key : Nat) (status : Bool) : KbhRuntimeState :=
  if key ≥ config.totalKeyCount then
    st
  else
    let noted := (st.setPressed key status).emit (.onEvent key status)
    match
        maybeHandleFnShortcut config env noted key status
          (noted.resolvedHid key) with
    | some handled => handled
    | none =>
        if noted.activeMode = .race then
          noted
        else
          routeTransition config noted key status

/-! ## Key values -/

def keyValueFromMinimumRangeScaled
    (currentValue minimum maximum deadzone scaleMax : UInt16) : UInt16 :=
  let sum := minimum.toUInt32 + deadzone.toUInt32
  if maximum ≤ minimum then
    0
  else
    let baseline := if sum > maximum.toUInt32 then maximum.toUInt32 else sum
    if currentValue.toUInt32 ≤ baseline then
      0
    else
      let current :=
        (if currentValue > maximum then maximum else currentValue).toUInt32
      let span := maximum.toUInt32 - baseline
      if span = 0 then
        0
      else
        let active := current - baseline
        ((active * scaleMax.toUInt32 + span / 2) / span).toUInt16

/-- `KB_HANDLER_PRESS_PERCENT_MAX`. -/
def kbHandlerPressPercentMax : UInt16 := 100

/-- Scaled value of a key with the calibration of the settings. -/
def scaledKeyValue
    (settings : KbSettings) (key : Nat) (currentValue scaleMax : UInt16) :
    UInt16 :=
  keyValueFromMinimumRangeScaled currentValue (settings.minimums key)
    (settings.maximums key) (settings.deadzones key) scaleMax

def keyPressPercent
    (config : KbHandlerConfig) (settings : KbSettings)
    (key : Nat) (currentValue : UInt16) : UInt16 :=
  if key ≥ config.totalKeyCount then
    0
  else
    scaledKeyValue settings key currentValue kbHandlerPressPercentMax

def notifyValueIfChanged
    (config : KbHandlerConfig) (st : KbhRuntimeState)
    (key : Nat) (pressPercent : UInt16) : KbhRuntimeState :=
  if key ≥ config.totalKeyCount ∨
      st.notifiedPressPercent key = pressPercent then
    st
  else
    { st with
      notifiedPressPercent :=
        Function.update st.notifiedPressPercent key pressPercent }.emit
      (.onNewValue key pressPercent)

/-- The stores and the notification `process_key_value` begins with. -/
def storeKeyValue
    (config : KbHandlerConfig) (st : KbhRuntimeState)
    (key : Nat) (value : UInt16) : KbhRuntimeState :=
  notifyValueIfChanged config
    { st with
      currentValues := Function.update st.currentValues key value
      values := Function.update st.values key value }
    key (keyPressPercent config st.settings key value)

/-- `process_key_value`; the second component is the value it returns. -/
def processKeyValue
    (config : KbHandlerConfig) (env : KbhEnvironment)
    (st : KbhRuntimeState) (key : Nat) (value : UInt16) :
    KbhRuntimeState × Bool :=
  if key ≥ config.totalKeyCount then
    (st, false)
  else
    let wasPressed := st.pressedKeys key
    let pressed := decide (value ≥ st.settings.thresholds key)
    let stored := storeKeyValue config st key value
    if wasPressed = pressed then
      (stored, false)
    else
      (processKeyTransition config env stored key pressed, true)

end YkbFirmware.KbHandler.Core
