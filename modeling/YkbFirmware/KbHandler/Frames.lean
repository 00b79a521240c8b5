import YkbFirmware.KbHandler.Core

/-!
# Value frames

The part of `kb_handler_core.c` that runs once per frame: mouse emulation,
race mode, `finish_value_frame`, the reset of the handler state, and the two
handlers of slave messages in the split-master adapter.

Floating-point coefficients and ratios are exact rationals.
-/

namespace YkbFirmware.KbHandler.Frames

open YkbFirmware.KbHandler.Settings
open YkbFirmware.KbHandler.Report
open YkbFirmware.KbHandler.Core

/-! ## Mouse emulation -/

/-- `lround`: to the nearest integer, halves away from zero. -/
def lround (v : ℚ) : Int :=
  if 0 ≤ v then ⌊v + 1 / 2⌋ else -⌊-v + 1 / 2⌋

def clampS8 (v : ℚ) : Int :=
  if v > 127 then
    127
  else if v < -128 then
    -128
  else
    lround v

def kbMouseemuMoveScaleMax : UInt16 := 100

def kbMouseemuScrollScaleMax : UInt16 := 8

def kbhMouseemuRepeatIntervalMs : Int := 8

section MouseEmulation

variable (settings : KbSettings) (currentValues : Nat → UInt16)

def mouseemuScrollDelta (emu : KbMouseemuSettings) : ℚ :=
  let scaled := fun index : Nat =>
    let key := (emu.scrollKeys index).toNat
    scaledKeyValue settings key (currentValues key) kbMouseemuScrollScaleMax
  let difference : Int := (scaled 0).toNat - (scaled 1).toNat
  difference * emu.scrollK

def mouseemuVectorValue
    (emu : KbMouseemuSettings)
    (leftVecIdx straightVecIdx rightVecIdx : Nat) : UInt16 :=
  let scaled := fun index : Nat =>
    let key := (emu.moveKeys index).toNat
    scaledKeyValue settings key (currentValues key) kbMouseemuMoveScaleMax
  if emu.directionMode = .eightWay then
    scaled straightVecIdx + scaled leftVecIdx / 2 + scaled rightVecIdx / 2
  else
    scaled straightVecIdx

/-- `mouseemu_value_handler`: the report and the wheel delta. -/
def mouseemuValueHandler (pressedKeys : Nat → Bool) : HidMouseReport × ℚ :=
  let emu := settings.mouseemu
  if emu.enabled = false then
    (HidMouseReport.zero, 0)
  else
    let vector := fun left straight right =>
      ((mouseemuVectorValue settings currentValues emu left straight
        right).toNat : Int)
    let difference := fun first second : Int => ((first - second : Int) : ℚ)
    let moves := emu.moveKeysCount > 0
    let yPos := vector 4 1 5
    let yNeg := vector 7 2 6
    let xPos := vector 5 3 7
    let xNeg := vector 6 0 4
    let button := fun index bit : Nat =>
      if index < emu.buttonKeysCount.toNat ∧
          pressedKeys (emu.buttonKeys index).toNat = true then
        UInt8.ofNat bit
      else
        0
    ({ buttons := button 0 1 ||| button 1 2 ||| button 2 4
       x := if moves then clampS8 (difference xPos xNeg * emu.moveXK) else 0
       y := if moves then clampS8 (difference yNeg yPos * emu.moveYK) else 0
       wheel := 0 },
      if emu.scrollKeysCount = 2 then
        mouseemuScrollDelta settings currentValues emu
      else
        0)

end MouseEmulation

def mouseReportHasMotion (report : HidMouseReport) : Bool :=
  decide (report.x ≠ 0 ∨ report.y ≠ 0 ∨ report.wheel ≠ 0)

/-- `(int32_t)wheel_total` and the clamp to a signed byte. -/
def wheelSteps (wheelTotal : ℚ) : Int :=
  let steps := wheelTotal.num.tdiv wheelTotal.den
  if steps > 127 then 127 else if steps < -128 then -128 else steps

def sendMouseReportIfChanged (st : KbhRuntimeState) (nowMs : Int) :
    KbhRuntimeState :=
  let emulated := mouseemuValueHandler st.settings st.currentValues st.pressedKeys
  let wheelTotal := st.mouseWheelRemainder + emulated.2
  let report := { emulated.1 with wheel := wheelSteps wheelTotal }
  let built :=
    { st with
      mouseReport := report
      mouseWheelRemainder := wheelTotal - wheelSteps wheelTotal }
  let reportChanged := decide (report ≠ st.prevMouseReport)
  let repeatDue :=
    mouseReportHasMotion report &&
      decide (nowMs - st.lastMouseReportMs ≥ kbhMouseemuRepeatIntervalMs)
  if reportChanged || repeatDue then
    { built.emit (.sendMouseReport report st.settings.kbhPrio) with
      prevMouseReport := report
      lastMouseReportMs := nowMs }
  else
    built

/-! ## Race mode -/

/-- The deepest key found so far, with its ratio. -/
structure RaceChoice where
  maxPercentage : ℚ
  maxIndex : Option Nat

/-- The body of the loop in `send_race_report_if_changed`. -/
def raceKey (st : KbhRuntimeState) (choice : RaceChoice) (key : Nat) :
    RaceChoice :=
  let threshold := st.settings.thresholds key
  let maximum := st.settings.maximums key
  if st.pressedKeys key = false then
    choice
  else if maximum ≤ threshold then
    choice
  else
    let depth : Int := (st.currentValues key).toNat - threshold.toNat
    let range : Int := maximum.toNat - threshold.toNat
    let percentagePressed : ℚ := depth / range
    if percentagePressed > choice.maxPercentage then
      ⟨percentagePressed, some key⟩
    else
      choice

def raceChoice (config : KbHandlerConfig) (st : KbhRuntimeState) :
    RaceChoice :=
  (List.range config.totalKeyCount).foldl (raceKey st) ⟨0, none⟩

def sendRaceReportIfChanged (config : KbHandlerConfig) (st : KbhRuntimeState) :
    KbhRuntimeState :=
  let raced :=
    { st with
      racePressedKeys := fun key =>
        decide ((raceChoice config st).maxIndex = some key) }
  sendKbReport raced
    (buildKbReport config raced.settings raced.racePressedKeys
      raced.secondLayerActive raced.thirdLayerActive)

/-! ## Frames -/

def finishValueFrame
    (config : KbHandlerConfig) (st : KbhRuntimeState) (nowMs : Int) :
    KbhRuntimeState :=
  let moused :=
    if st.activeMode = .mousesim then
      sendMouseReportIfChanged st nowMs
    else
      st
  if moused.activeMode = .race then
    sendRaceReportIfChanged config moused
  else
    moused

/-- `reset_handler_state`. -/
def resetHandlerState (st : KbhRuntimeState) : KbhRuntimeState :=
  let cleared :=
    { st with
      pressedKeys := fun _ => false
      currentValues := fun _ => 0
      notifiedPressPercent := fun _ => 0
      racePressedKeys := fun _ => false
      values := fun _ => 0
      secondLayerActive := false
      thirdLayerActive := false
      kbReport := HidKbReport.zero
      mouseReport := HidMouseReport.zero
      lastMouseReportMs := 0
      mouseWheelRemainder := 0 }
  let sent :=
    (cleared.emit (.sendKbReport HidKbReport.zero st.settings.kbhPrio)).emit
      (.sendMouseReport HidMouseReport.zero st.settings.kbhPrio)
  { sent with
    prevKbReport := HidKbReport.zero
    prevMouseReport := HidMouseReport.zero }

/-- The state `kb_handler_thread` enters its loop with. -/
def threadStart (config : KbHandlerConfig) (settings : KbSettings) :
    KbhRuntimeState :=
  resetHandlerState
    (rebuildLayerCache config
      { settings := settings
        activeMode := settings.mode
        secondLayerActive := false
        thirdLayerActive := false
        pressedKeys := fun _ => false
        currentValues := fun _ => 0
        notifiedPressPercent := fun _ => 0
        racePressedKeys := fun _ => false
        layer1Keys := KeyList.empty
        layer2Keys := KeyList.empty
        fnKeys := KeyList.empty
        shortcutConsumedKeys := fun _ => false
        kbReport := HidKbReport.zero
        prevKbReport := HidKbReport.zero
        mouseReport := HidMouseReport.zero
        prevMouseReport := HidMouseReport.zero
        lastMouseReportMs := 0
        mouseWheelRemainder := 0
        values := fun _ => 0
        outputs := [] })

/-! ## Slave messages -/

/-- An array of `KEY_COUNT_SLAVE` values. -/
abbrev SlaveValues (config : KbHandlerConfig) :=
  Fin config.keyCountSlave → UInt16

/-- Whether the key belongs to the slave half. -/
def isSlaveKey (config : KbHandlerConfig) (key : Nat) : Bool :=
  decide (config.keyCount ≤ key ∧ key < config.totalKeyCount)

/-- The slave half of an array is cleared with `memset`. -/
def clearSlaveKeys
    (config : KbHandlerConfig) {Entry : Type} (array : Nat → Entry)
    (zero : Entry) : Nat → Entry :=
  fun key => if isSlaveKey config key then zero else array key

/-- `handle_slave_values`; each key value is processed in an environment. -/
def handleSlaveValues
    (config : KbHandlerConfig) (env : Nat → KbhEnvironment) (nowMs : Int)
    (st : KbhRuntimeState) (slaveValues : SlaveValues config) :
    KbhRuntimeState :=
  if config.keyCountSlave = 0 then
    st
  else
    let processed :=
      (List.finRange config.keyCountSlave).foldl
        (fun current index =>
          (processKeyValue config (env index.val) current
            (config.keyCount + index.val) (slaveValues index)).1)
        st
    finishValueFrame config processed nowMs

/-- The case `KBH_THREAD_MSG_SLAVE_KEYS_RESET` of `handle_thread_msg`. -/
def handleSlaveKeysReset
    (config : KbHandlerConfig) (st : KbhRuntimeState) (nowMs : Int) :
    KbhRuntimeState :=
  if config.keyCountSlave = 0 then
    st
  else
    let cleared :=
      { st with
        pressedKeys := clearSlaveKeys config st.pressedKeys false
        currentValues := clearSlaveKeys config st.currentValues 0
        notifiedPressPercent :=
          clearSlaveKeys config st.notifiedPressPercent 0
        values := clearSlaveKeys config st.values 0 }
    let moused :=
      if cleared.activeMode = .mousesim then
        sendMouseReportIfChanged cleared nowMs
      else
        cleared
    if moused.activeMode = .normal ∨ moused.activeMode = .mousesim then
      sendKbReportIfChanged config moused
    else if moused.activeMode = .race then
      sendRaceReportIfChanged config moused
    else
      moused

end YkbFirmware.KbHandler.Frames
