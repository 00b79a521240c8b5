import YkbFirmware.Library.TransitionSystem
import YkbFirmware.KbHandler.CoreThread

/-!
# Index uses

The indices with which the functions of the handler core read or write the
arrays of its state and of the settings, in the order of the source.  Each
function of the core that indexes such an array has its uses listed next to
the branches that lead to them; loops which return at their first hit use no
index after it.

Arrays filled or cleared as a whole with `memset` are not indexed.
-/

namespace YkbFirmware.KbHandler.IndexUses

open YkbFirmware.Library.TransitionSystem
open YkbFirmware.KbHandler.Settings
open YkbFirmware.KbHandler.SettingsCheck
open YkbFirmware.KbHandler.Report
open YkbFirmware.KbHandler.Core
open YkbFirmware.KbHandler.Frames
open YkbFirmware.KbHandler.CoreThread

/-! ## Arrays -/

inductive HandlerArray where
  | pressedKeys
  | racePressedKeys
  | currentValues
  | thresholds
  | minimums
  | maximums
  | deadzones
  | moveKeys
  | scrollKeys
  | buttonKeys
  | fnShortcuts
deriving DecidableEq, Repr

/-- The declared length; the last one is `CONFIG_KB_SETTINGS_FN_SHORTCUTS_MAX`. -/
def HandlerArray.length
    (config : KbHandlerConfig) (fnShortcutsMax : Nat) :
    HandlerArray → Nat
  | .moveKeys => kbMouseemuMoveKeysMax
  | .scrollKeys => kbMouseemuScrollKeysMax
  | .buttonKeys => kbMouseemuButtonKeysMax
  | .fnShortcuts => fnShortcutsMax
  | _ => config.totalKeyCount

/-- `array[index]` is read or written. -/
structure IndexUse where
  array : HandlerArray
  index : Nat
deriving DecidableEq, Repr

def IndexUse.Inside
    (config : KbHandlerConfig) (fnShortcutsMax : Nat) (use : IndexUse) :
    Prop :=
  use.index < use.array.length config fnShortcutsMax

/-- One array used with several indices. -/
def usesAt (array : HandlerArray) (indices : List Nat) : List IndexUse :=
  indices.map fun index => ⟨array, index⟩

/-- The indices a loop over `count` entries reaches: none after a hit. -/
def searched (count : Nat) (hit : Nat → Bool) : List Nat :=
  (List.range count).filter fun index =>
    (List.range index).all fun earlier => !hit earlier

/-! ## Reports -/

/-- One of the three loops of `is_mouseemu_physical_key`. -/
def keyInListUses
    (array : HandlerArray) (key : Nat) (keys : Nat → UInt16)
    (count : UInt8) : List IndexUse :=
  usesAt array
    (searched count.toNat fun index => (keys index).toNat == key)

def isMouseemuPhysicalKeyUses
    (emu : KbMouseemuSettings) (key : Nat) : List IndexUse :=
  if emu.enabled = false then
    []
  else
    keyInListUses .moveKeys key emu.moveKeys emu.moveKeysCount ++
      if keyInList key emu.moveKeys emu.moveKeysCount = true then
        []
      else
        keyInListUses .scrollKeys key emu.scrollKeys emu.scrollKeysCount ++
          if keyInList key emu.scrollKeys emu.scrollKeysCount = true then
            []
          else
            keyInListUses .buttonKeys key emu.buttonKeys emu.buttonKeysCount

/-- `build_kb_report` over either array of pressed keys. -/
def buildKbReportUses
    (config : KbHandlerConfig) (settings : KbSettings)
    (array : HandlerArray) (pressedKeys : Nat → Bool) : List IndexUse :=
  (List.range config.totalKeyCount).flatMap fun key =>
    ⟨array, key⟩ ::
      if pressedKeys key = true ∧ settings.mode = .mousesim then
        isMouseemuPhysicalKeyUses settings.mouseemu key
      else
        []

def sendKbReportIfChangedUses
    (config : KbHandlerConfig) (st : KbhRuntimeState) : List IndexUse :=
  buildKbReportUses config st.settings .pressedKeys st.pressedKeys

/-! ## Key transitions -/

/-- The FN keys looked at; the key that moves is skipped. -/
def isAnyFnPressedUses (st : KbhRuntimeState) (key : Nat) : List IndexUse :=
  let down := fun fnKey : Nat =>
    st.pressedKeys fnKey ||
      decide (st.values fnKey ≥ st.settings.thresholds fnKey)
  let reached :=
    searched st.fnKeys.count.toNat fun index =>
      (st.fnKeys.keys index).toNat != key &&
        down (st.fnKeys.keys index).toNat
  reached.flatMap fun index =>
    let fnKey := (st.fnKeys.keys index).toNat
    if fnKey = key then
      []
    else
      ⟨.pressedKeys, fnKey⟩ ::
        if st.pressedKeys fnKey = true then [] else [⟨.thresholds, fnKey⟩]

/-- The loop over the shortcuts ends at the first one on the code. -/
def findFnShortcutUses
    (settings : KbSettings) (resolvedHid : UInt8) : List IndexUse :=
  usesAt .fnShortcuts
    (searched settings.fnShortcutsCount.toNat fun index =>
      (settings.fnShortcuts index).key == resolvedHid)

def maybeHandleFnShortcutUses
    (st : KbhRuntimeState) (key : Nat) (status : Bool)
    (resolvedHid : UInt8) : List IndexUse :=
  isAnyFnPressedUses st key ++
    if st.shortcutConsumedKeys key = true then
      []
    else if
        status = false ∨ resolvedHid = keyFn ∨
          isAnyFnPressed st key = false then
      []
    else
      findFnShortcutUses st.settings resolvedHid

def handleLayerKeyUses
    (key : Nat) (status : Bool) (pressedKeys : Nat → Bool)
    (list : KeyList) : List IndexUse :=
  if status = true then
    []
  else
    let reached :=
      searched list.count.toNat fun index =>
        (list.keys index).toNat != key &&
          pressedKeys (list.keys index).toNat
    reached.flatMap fun index =>
      if (list.keys index).toNat = key then
        []
      else
        [⟨.pressedKeys, (list.keys index).toNat⟩]

def reportTransitionUses
    (config : KbHandlerConfig) (st : KbhRuntimeState) : List IndexUse :=
  if st.activeMode = .normal ∨ st.activeMode = .mousesim then
    sendKbReportIfChangedUses config st
  else
    []

/-- The layer flags it sets do not change which indices a report uses. -/
def routeTransitionUses
    (config : KbHandlerConfig) (st : KbhRuntimeState)
    (key : Nat) (status : Bool) : List IndexUse :=
  let layered := fun list =>
    handleLayerKeyUses key status st.pressedKeys list ++
      if (handleLayerKey key status st.pressedKeys list).isSome = true then
        reportTransitionUses config st
      else
        []
  if st.layer1Keys.contains key = true then
    layered st.layer1Keys
  else if st.layer2Keys.contains key = true then
    layered st.layer2Keys
  else if st.fnKeys.contains key = true then
    []
  else
    reportTransitionUses config st

def processKeyTransitionUses
    (config : KbHandlerConfig) (env : KbhEnvironment)
    (st : KbhRuntimeState) (key : Nat) (status : Bool) : List IndexUse :=
  if key ≥ config.totalKeyCount then
    []
  else
    let noted := (st.setPressed key status).emit (.onEvent key status)
    let handled :=
      maybeHandleFnShortcut config env noted key status
        (noted.resolvedHid key)
    ⟨.pressedKeys, key⟩ ::
      maybeHandleFnShortcutUses noted key status (noted.resolvedHid key) ++
        if handled.isSome = true ∨ noted.activeMode = .race then
          []
        else
          routeTransitionUses config noted key status

/-! ## Key values -/

def keyPressPercentUses
    (config : KbHandlerConfig) (key : Nat) : List IndexUse :=
  if key ≥ config.totalKeyCount then
    []
  else
    [⟨.minimums, key⟩, ⟨.maximums, key⟩, ⟨.deadzones, key⟩]

def processKeyValueUses
    (config : KbHandlerConfig) (env : KbhEnvironment)
    (st : KbhRuntimeState) (key : Nat) (value : UInt16) : List IndexUse :=
  if key ≥ config.totalKeyCount then
    []
  else
    let pressed := decide (value ≥ st.settings.thresholds key)
    [⟨.pressedKeys, key⟩, ⟨.thresholds, key⟩, ⟨.currentValues, key⟩] ++
      keyPressPercentUses config key ++
        if st.pressedKeys key = pressed then
          []
        else
          processKeyTransitionUses config env
            (storeKeyValue config st key value) key pressed

/-! ## Mouse emulation -/

/-- The value of an emulation key: an entry of a group, then its key. -/
def emulationKeyUses
    (array : HandlerArray) (keys : Nat → UInt16) (index : Nat) :
    List IndexUse :=
  let key := (keys index).toNat
  [⟨array, index⟩, ⟨.currentValues, key⟩, ⟨.minimums, key⟩,
    ⟨.maximums, key⟩, ⟨.deadzones, key⟩]

def mouseemuScrollDeltaUses (emu : KbMouseemuSettings) : List IndexUse :=
  emulationKeyUses .scrollKeys emu.scrollKeys 0 ++
    emulationKeyUses .scrollKeys emu.scrollKeys 1

def mouseemuVectorValueUses
    (emu : KbMouseemuSettings)
    (leftVecIdx straightVecIdx rightVecIdx : Nat) : List IndexUse :=
  emulationKeyUses .moveKeys emu.moveKeys straightVecIdx ++
    if emu.directionMode = .eightWay then
      emulationKeyUses .moveKeys emu.moveKeys leftVecIdx ++
        emulationKeyUses .moveKeys emu.moveKeys rightVecIdx
    else
      []

/-- The test of one mouse button. -/
def buttonUses (emu : KbMouseemuSettings) (index : Nat) : List IndexUse :=
  if index < emu.buttonKeysCount.toNat then
    [⟨.buttonKeys, index⟩,
      ⟨.pressedKeys, (emu.buttonKeys index).toNat⟩]
  else
    []

def mouseemuValueHandlerUses (emu : KbMouseemuSettings) : List IndexUse :=
  if emu.enabled = false then
    []
  else
    (if emu.moveKeysCount > 0 then
      mouseemuVectorValueUses emu 4 1 5 ++
        mouseemuVectorValueUses emu 7 2 6 ++
          mouseemuVectorValueUses emu 5 3 7 ++
            mouseemuVectorValueUses emu 6 0 4
    else
      []) ++
      (if emu.scrollKeysCount = 2 then
        mouseemuScrollDeltaUses emu
      else
        []) ++
        (buttonUses emu 0 ++ buttonUses emu 1 ++ buttonUses emu 2)

/-! ## Race mode -/

def raceKeyUses (st : KbhRuntimeState) (key : Nat) : List IndexUse :=
  ⟨.pressedKeys, key⟩ ::
    if st.pressedKeys key = true then
      [⟨.thresholds, key⟩, ⟨.maximums, key⟩] ++
        if st.settings.maximums key ≤ st.settings.thresholds key then
          []
        else
          [⟨.currentValues, key⟩]
    else
      []

def sendRaceReportIfChangedUses
    (config : KbHandlerConfig) (st : KbhRuntimeState) : List IndexUse :=
  let chosen := (raceChoice config st).maxIndex
  (List.range config.totalKeyCount).flatMap (raceKeyUses st) ++
    usesAt .racePressedKeys chosen.toList ++
      buildKbReportUses config st.settings .racePressedKeys fun key =>
        decide (chosen = some key)

/-! ## Frames -/

def finishValueFrameUses
    (config : KbHandlerConfig) (st : KbhRuntimeState) : List IndexUse :=
  if st.activeMode = .mousesim then
    mouseemuValueHandlerUses st.settings.mouseemu
  else if st.activeMode = .race then
    sendRaceReportIfChangedUses config st
  else
    []

/-- One key value of a slave message. -/
def slaveKeyStep
    (config : KbHandlerConfig) (slots : Nat → ScriptSlotTable)
    (values : SlaveValues config) (st : KbhRuntimeState)
    (index : Fin config.keyCountSlave) : Option KbhRuntimeState :=
  some
    (processKeyValue config (applying (slots index.val)) st
      (config.keyCount + index.val) (values index)).1

def slaveKeyUses
    (config : KbHandlerConfig) (slots : Nat → ScriptSlotTable)
    (values : SlaveValues config) (st : KbhRuntimeState)
    (index : Fin config.keyCountSlave) : List IndexUse :=
  processKeyValueUses config (applying (slots index.val)) st
    (config.keyCount + index.val) (values index)

/-- All key values of a slave message, then the end of the frame. -/
def handleSlaveValuesUses
    (config : KbHandlerConfig) (slots : Nat → ScriptSlotTable)
    (st : KbhRuntimeState) (values : SlaveValues config) : List IndexUse :=
  let keys := List.finRange config.keyCountSlave
  if config.keyCountSlave = 0 then
    []
  else
    collected (slaveKeyStep config slots values)
        (slaveKeyUses config slots values) st keys ++
      (run (slaveKeyStep config slots values) st keys).elim []
        (finishValueFrameUses config)

/--
The slave half is cleared from its first key on; the reports then use the
indices they use in the cleared state.
-/
def handleSlaveKeysResetUses
    (config : KbHandlerConfig) (st : KbhRuntimeState) : List IndexUse :=
  if config.keyCountSlave = 0 then
    []
  else
    let cleared :=
      { st with
        pressedKeys := clearSlaveKeys config st.pressedKeys false
        currentValues := clearSlaveKeys config st.currentValues 0 }
    let halves := List.range' config.keyCount config.keyCountSlave
    usesAt .pressedKeys halves ++ usesAt .currentValues halves ++
      (if cleared.activeMode = .mousesim then
        mouseemuValueHandlerUses cleared.settings.mouseemu
      else
        []) ++
        if cleared.activeMode = .normal ∨
            cleared.activeMode = .mousesim then
          sendKbReportIfChangedUses config cleared
        else if cleared.activeMode = .race then
          sendRaceReportIfChangedUses config cleared
        else
          []

/-- The indices one event of the core thread uses. -/
def coreUses
    (config : KbHandlerConfig) (st : KbhRuntimeState) :
    CoreEvent config → List IndexUse
  | .keyValue slots key value =>
      processKeyValueUses config (applying slots) st key value
  | .frameEnd _ => finishValueFrameUses config st
  | .slaveValues slots _ values =>
      handleSlaveValuesUses config slots st values
  | .slaveReset _ => handleSlaveKeysResetUses config st
  | .settingsUpdate _ => []

end YkbFirmware.KbHandler.IndexUses
