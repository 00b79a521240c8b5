import Mathlib.Data.Rat.Floor
import YkbFirmware.Backlight.KeyStorage
import YkbFirmware.Backlight.SettingsUpdate

/-!
# The rendering thread

The thread of `ykb_backlight.c` asks the script for the colour of each key,
draws the LED of the key into the buffer that is not shown, swaps the two
buffers and sends the new front one to the strip.  A settings update clears
the strip and loads the script of the active slot; the keyboard handler notes
which keys are pressed.  All of them run under the mutex of the subsystem, so
each is one step.

The VM and the functions of `lumiscript_vm.c` that load a script are those of
the key storage.  Brightness is scaled in doubles, of which the rounding is a
parameter.
-/

namespace YkbFirmware.Backlight.Renderer

open YkbFirmware.KbHandler.Settings
open YkbFirmware.Backlight.ScriptSlots
open YkbFirmware.Backlight.KeyStorage
open YkbFirmware.Backlight.SettingsUpdate
  (BacklightState VmResults scriptOf scriptToLoad)

/-! ## Scripts -/

/-- `lumi_vm_inputs`. -/
structure LumiVmInputs where
  dt : Int
  speed : ℚ
  x : UInt16
  y : UInt16
  pressed : Bool
  press : UInt16

/--
The functions of the VM that run a script; a failure is `none`, and may leave
a changed state.  A script may also use numbers from the random source.
-/
structure LumiVmRuns (vm : LumiVm) where
  runInit : vm.Program → vm.State → Nat → Option Unit × vm.State
  runUpdate :
    vm.Program → vm.State → LumiVmInputs → Nat → Option Unit × vm.State
  runRender :
    vm.Program → vm.State → Nat → LumiVmInputs → Nat →
      Option UInt32 × vm.State
  resetState : vm.Program → vm.State → vm.State

section Lumiscript

variable {vm : LumiVm} (runs : LumiVmRuns vm) (statics : LumiscriptStatics vm)

/-- The body that the functions which run a script share. -/
def runLoaded {Answer : Type}
    (call : vm.Program → vm.State → Option Answer × vm.State) :
    Except Int Answer × LumiscriptStatics vm :=
  if statics.scriptLoaded = false then
    (.error (-1), statics)
  else
    match statics.program, statics.state with
    | some program, some state =>
        let called := call program state
        let statics := { statics with state := some called.2 }
        match called.1 with
        | none => (.error (-2), statics)
        | some answer => (.ok answer, statics)
    | _, _ => (.error (-2), statics)

/-- `lumiscript_run_init`. -/
def lumiscriptRunInit (random : Nat) :
    Except Int Unit × LumiscriptStatics vm :=
  runLoaded statics fun program state => runs.runInit program state random

/-- `lumiscript_run_update`. -/
def lumiscriptRunUpdate (inputs : LumiVmInputs) (random : Nat) :
    Except Int Unit × LumiscriptStatics vm :=
  runLoaded statics fun program state =>
    runs.runUpdate program state inputs random

/-- `lumiscript_run_render`. -/
def lumiscriptRunRender
    (inputs : LumiVmInputs) (keyIndex random : Nat) :
    Except Int UInt32 × LumiscriptStatics vm :=
  runLoaded statics fun program state =>
    runs.runRender program state keyIndex inputs random

/-- `lumiscript_reset_state`. -/
def lumiscriptResetState : Except Int Unit × LumiscriptStatics vm :=
  runLoaded statics fun program state =>
    (some (), runs.resetState program state)

end Lumiscript

/-! ## State -/

/-- `struct led_rgb`. -/
structure LedRgb where
  r : UInt8
  g : UInt8
  b : UInt8
deriving DecidableEq, Repr

/-- An LED that is off. -/
def LedRgb.dark : LedRgb := ⟨0, 0, 0⟩

abbrev LedBuffer := Nat → LedRgb

/-- A buffer after `memset`. -/
def LedBuffer.clear : LedBuffer := fun _ => .dark

/-- `ykb_backlight_layout_t`; the loops over its keys count in 16 bits. -/
structure BacklightLayout where
  keyCount : Nat
  ledMap : Nat → UInt16
  xCoordinates : Nat → UInt16
  yCoordinates : Nat → UInt16
  countFits : keyCount < 2 ^ 16

/-- How doubles round, as far as it matters. -/
structure DoubleRounding where
  round : ℚ → ℚ
  monotone : ∀ first second, first ≤ second → round first ≤ round second
  idempotent : ∀ exact, round (round exact) = round exact
  bytes : ∀ byte : Nat, byte < 256 → round byte = byte

/-- The build options, and the layout that the board comes with. -/
structure RenderOptions where
  scripts : ScriptOptions
  lumivm : LumivmOptions
  layout : Option BacklightLayout
  ledCount : Nat
  /-- `YKB_BACKLIGHT_MAX_ABS_BRIGHTNESS_PERCENT` -/
  maxAbsBrightness : Nat
  /-- `CONFIG_KB_HANDLER_SPLITLINK_SLAVE` -/
  splitlinkSlave : Bool
  rounding : DoubleRounding
  percent : 1 ≤ maxAbsBrightness ∧ maxAbsBrightness ≤ 100

/-- The statics of both files, but for the buffers of the LEDs. -/
structure RenderState (vm : LumiVm) where
  backlight : BacklightState
  layout : Option BacklightLayout
  lumiscript : LumiscriptStatics vm
  prevUpdate : Int
  pressed : Nat → Bool
  press : Nat → UInt16

def RenderState.initial (vm : LumiVm) : RenderState vm where
  backlight :=
    { initSuccess := false
      scriptLoaded := false
      curSpeed := 1
      threadSleepTime := 5
      curBrightness := 1
      on := true
      vmScript := none }
  layout := none
  lumiscript :=
    { req := none
      programStorage := none
      stateStorage := none
      program := none
      state := none
      scriptLoaded := false }
  prevUpdate := 0
  pressed := fun _ => false
  press := fun _ => 0

/-- All statics, and what the strip shows. -/
structure RendererState (vm : LumiVm) where
  statics : RenderState vm
  bufFront : LedBuffer
  bufBack : LedBuffer
  strip : LedBuffer

/-- What the strip shows before it was first written to is not known. -/
def RendererState.initial (vm : LumiVm) (strip : LedBuffer) :
    RendererState vm where
  statics := .initial vm
  bufFront := .clear
  bufBack := .clear
  strip := strip

section Calls

variable {vm : LumiVm} (options : RenderOptions) (runs : LumiVmRuns vm)

/-! ## Initialisation -/

/-- The checks of the layout in `ykb_backlight_init`. -/
def LayoutChecked (layout : BacklightLayout) : Prop :=
  layout.keyCount = options.lumivm.keyCount ∧
    ∀ i < layout.keyCount,
      layout.xCoordinates i ≤ 1000 ∧ layout.yCoordinates i ≤ 1000 ∧
        (layout.ledMap i).toNat < options.ledCount

instance (layout : BacklightLayout) :
    Decidable (LayoutChecked options layout) :=
  inferInstanceAs (Decidable (_ ∧ ∀ i < layout.keyCount, _))

/--
`ykb_backlight_init`; `settingsErr` is the first error of the settings
subsystem.
-/
def ykbBacklightInit
    (statics : RenderState vm) (stripReady : Bool) (settingsErr : Int) :
    RenderState vm :=
  if stripReady = false then
    statics
  else
    let statics := { statics with layout := options.layout }
    match options.layout with
    | none => statics
    | some layout =>
        if ¬ LayoutChecked options layout then
          statics
        else if settingsErr ≠ 0 then
          statics
        else
          { statics with
            backlight := { statics.backlight with initSuccess := true } }

/-! ## Keys -/

/-- The key of this half that an event of the keyboard handler is about. -/
def localIndex (statics : RenderState vm) (index : UInt16) : Option Nat :=
  statics.layout.bind fun layout =>
    let keyCount := options.lumivm.keyCount
    let own :=
      if options.splitlinkSlave then
        if index.toNat < keyCount then none else some (index.toNat - keyCount)
      else
        some index.toNat
    own.bind fun i => if i ≥ layout.keyCount then none else some i

/-- `kb_handler_on_event`. -/
def kbHandlerOnEvent
    (statics : RenderState vm) (index : UInt16) (value : Bool) :
    RenderState vm :=
  match localIndex options statics index with
  | none => statics
  | some i =>
      { statics with pressed := Function.update statics.pressed i value }

/-- `kb_handler_on_value_changed`. -/
def kbHandlerOnValueChanged
    (statics : RenderState vm) (index : UInt16) (value : UInt16) :
    RenderState vm :=
  match localIndex options statics index with
  | none => statics
  | some i =>
      { statics with press := Function.update statics.press i value }

/-! ## Settings -/

/-- The part of `clear_state` behind its write to the strip. -/
def resetScript (statics : RenderState vm) : RenderState vm :=
  if statics.backlight.scriptLoaded then
    { statics with
      lumiscript := (lumiscriptResetState runs statics.lumiscript).2 }
  else
    statics

/-- The result of a function that answers nothing else. -/
def errorOf {Answer : Type} : Except Int Answer → Int
  | .ok _ => 0
  | .error err => err

/-- The calls of `on_settings_update` that load a script and start it. -/
def loadScript
    (lumiscript : LumiscriptStatics vm) (bytecode : List UInt8)
    (random : Nat) : LumiscriptStatics vm × VmResults :=
  let loaded := lumiscriptLoad options.lumivm vm lumiscript bytecode
  if loaded.2 ≠ 0 then
    (loaded.1, ⟨loaded.2, 0⟩)
  else
    let started := lumiscriptRunInit runs loaded.1 random
    (started.2, ⟨0, errorOf started.1⟩)

/-- `on_settings_update` behind its call of `clear_state`. -/
def takeSettings
    (statics : RenderState vm) (store : ScriptStore) (settings : KbSettings)
    (random : Nat) : RenderState vm :=
  let loaded : LumiscriptStatics vm × VmResults :=
    match scriptToLoad options.scripts store settings with
    | none => (statics.lumiscript, ⟨0, 0⟩)
    | some slot =>
        loadScript options runs statics.lumiscript (scriptOf slot) random
  { statics with
    lumiscript := loaded.1
    backlight :=
      SettingsUpdate.onSettingsUpdate options.scripts store
        statics.backlight settings loaded.2 }

/-- `clear_state`. -/
def clearState (st : RendererState vm) (stripErr : Int) : RendererState vm :=
  let st :=
    { st with
      bufFront := .clear
      bufBack := st.bufFront }
  if stripErr ≠ 0 then
    st
  else
    { st with
      strip := st.bufFront
      statics := resetScript runs st.statics }

/-- `on_settings_update`. -/
def onSettingsUpdate
    (st : RendererState vm) (store : ScriptStore) (settings : KbSettings)
    (stripErr : Int) (random : Nat) : RendererState vm :=
  if st.statics.backlight.initSuccess = false then
    st
  else
    let st := clearState runs st stripErr
    { st with
      statics := takeSettings options runs st.statics store settings random }

/-! ## Frames -/

/-- `max_absolute_brightness`. -/
def maxAbsoluteBrightness : ℚ :=
  options.rounding.round (options.maxAbsBrightness / 100)

/-- `result` of `apply_brightness`. -/
def scaled (curBrightness : ℚ) (color : UInt8) : ℚ :=
  options.rounding.round
    (options.rounding.round (color.toNat * maxAbsoluteBrightness options) *
      curBrightness)

/-- `apply_brightness`; only what fits a byte may be converted to one. -/
def applyBrightness (curBrightness : ℚ) (color : UInt8) : Option UInt8 :=
  let level := ⌈scaled options curBrightness color⌉
  if 0 ≤ level ∧ level < 256 then some (UInt8.ofNat level.toNat) else none

/-- The LED of a key whose colour has been rendered. -/
def shade (curBrightness : ℚ) (color : UInt32) : Option LedRgb :=
  (applyBrightness options curBrightness (color >>> 16).toUInt8).bind fun r =>
  (applyBrightness options curBrightness (color >>> 8).toUInt8).bind fun g =>
  (applyBrightness options curBrightness color.toUInt8).map fun b =>
    ⟨r, g, b⟩

/--
An iteration of the thread up to its loop over the keys, with the inputs of
the loop if it comes to that.
-/
def startFrame
    (statics : RenderState vm) (uptime : Int) (random : Nat) :
    RenderState vm × Option LumiVmInputs :=
  if statics.backlight.scriptLoaded = false then
    (statics, none)
  else if statics.backlight.on = false then
    (statics, none)
  else
    let inputs : LumiVmInputs :=
      { dt := uptime - statics.prevUpdate
        speed := statics.backlight.curSpeed
        x := 0
        y := 0
        pressed := false
        press := 0 }
    let updated := lumiscriptRunUpdate runs statics.lumiscript inputs random
    let statics :=
      { statics with
        prevUpdate := uptime
        lumiscript := updated.2 }
    match updated.1 with
    | .error _ => (statics, none)
    | .ok _ => (statics, some inputs)

/-- The call of `lumiscript_run_render` for a key. -/
def renderKey
    (statics : RenderState vm) (layout : BacklightLayout)
    (inputs : LumiVmInputs) (lumiscript : LumiscriptStatics vm)
    (i random : Nat) : Except Int UInt32 × LumiscriptStatics vm :=
  lumiscriptRunRender runs lumiscript
    { inputs with
      x := layout.xCoordinates i
      y := layout.yCoordinates i
      pressed := statics.pressed i
      press := statics.press i }
    i random

/--
The loop over the keys: the buffer it has drawn into, and whether it reached
the end.
-/
def drawKeys
    (statics : RenderState vm) (layout : BacklightLayout)
    (inputs : LumiVmInputs) (random : Nat → Nat) :
    List Nat → LumiscriptStatics vm → LedBuffer →
      Option (LumiscriptStatics vm × LedBuffer × Bool)
  | [], lumiscript, buffer => some (lumiscript, buffer, true)
  | i :: rest, lumiscript, buffer =>
      let rendered :=
        renderKey runs statics layout inputs lumiscript i (random i)
      match rendered.1 with
      | .error _ => some (rendered.2, buffer, false)
      | .ok color =>
          (shade options statics.backlight.curBrightness color).bind
            fun led =>
              drawKeys statics layout inputs random rest rendered.2
                (Function.update buffer (layout.ledMap i).toNat led)

/-- An iteration of `ykb_backlight_thread_handler`. -/
def threadIteration
    (st : RendererState vm) (uptime : Int) (random : Nat → Nat)
    (stripErr : Int) : Option (RendererState vm) :=
  let started := startFrame runs st.statics uptime (random 0)
  match started.2 with
  | none => some { st with statics := started.1 }
  | some inputs =>
      started.1.layout.bind fun layout =>
        (drawKeys options runs started.1 layout inputs
            (fun i => random (i + 1)) (List.range layout.keyCount)
            started.1.lumiscript st.bufBack).map fun drawn =>
          let statics := { started.1 with lumiscript := drawn.1 }
          if drawn.2.2 = false then
            { st with
              statics := statics
              bufBack := drawn.2.1 }
          else
            { statics := statics
              bufFront := drawn.2.1
              bufBack := st.bufFront
              strip := if stripErr ≠ 0 then st.strip else drawn.2.1 }

end Calls

/-! ## Runs -/

inductive RenderEvent where
  | init (stripReady : Bool) (settingsErr : Int)
  | settingsUpdate (store : ScriptStore) (settings : KbSettings)
      (stripErr : Int) (random : Nat)
  | thread (uptime : Int) (random : Nat → Nat) (stripErr : Int)
  | keyEvent (index : UInt16) (value : Bool)
  | keyValue (index : UInt16) (value : UInt16)

/-- The thread runs once the subsystem is initialised. -/
def rendererStep
    {vm : LumiVm} (options : RenderOptions) (runs : LumiVmRuns vm)
    (st : RendererState vm) : RenderEvent → Option (RendererState vm)
  | .init stripReady settingsErr =>
      if st.statics.backlight.initSuccess then
        none
      else
        some
          { st with
            statics :=
              ykbBacklightInit options st.statics stripReady settingsErr }
  | .settingsUpdate store settings stripErr random =>
      some (onSettingsUpdate options runs st store settings stripErr random)
  | .thread uptime random stripErr =>
      if st.statics.backlight.initSuccess then
        threadIteration options runs st uptime random stripErr
      else
        none
  | .keyEvent index value =>
      some
        { st with statics := kbHandlerOnEvent options st.statics index value }
  | .keyValue index value =>
      some
        { st with
          statics := kbHandlerOnValueChanged options st.statics index value }

end YkbFirmware.Backlight.Renderer
