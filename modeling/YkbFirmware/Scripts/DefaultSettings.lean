import Mathlib.Data.Rat.Defs
import YkbFirmware.KbHandler.Settings
import YkbFirmware.Scripts.DefaultLayout

/-!
# The generator of the default settings

What `gen_default_settings.py` makes of the sections of a layout file, up to
the values of the definitions that it writes.  The numbers of the file are
written as they are read and converted by the compiler, the key codes are
written by name.
-/

namespace YkbFirmware.Scripts.DefaultSettings

open YkbFirmware.KbHandler.Settings
open YkbFirmware.Scripts.DefaultLayout
open YkbFirmware.Scripts.PythonText

variable (python : Python)

/-! ## Levels -/

def parseU16Level (name : ArraySection) (numbered : Text × Nat) :
    Except LayoutError Int :=
  match int python numbered.1 with
  | none => .error (.levelNotInteger name numbered.2 numbered.1)
  | some value =>
      if value < 1 ∨ value > 1023 then
        .error (.levelOutside name numbered.2 value)
      else
        .ok value

/-- `parse_u16_levels`. -/
def parseU16Levels (tokens : List Text) (name : ArraySection) :
    Except LayoutError (List Int) :=
  tokens.zipIdx.mapM (parseU16Level python name)

structure Levels where
  thresholds : List Int
  minimums : List Int
  maximums : List Int
  deadzones : List Int

/-- The levels of a section, or their default if it is empty. -/
def levelsOr
    (sections : Sections) (name : ArraySection) (default : List Int) :
    Except LayoutError (List Int) :=
  let tokens := flattenHalfRows (sections.rows name)
  if tokens ≠ [] then
    parseU16Levels python tokens name
  else
    .ok default

def parseLevels (sections : Sections) : Except LayoutError Levels := do
  let thresholds ←
    parseU16Levels python (flattenHalfRows (sections.rows .thresholds))
      .thresholds
  let minimums ← levelsOr python sections .minimums thresholds
  let maximums ←
    levelsOr python sections .maximums
      (List.replicate thresholds.length 1023)
  let deadzones ←
    parseU16Levels python (flattenHalfRows (sections.rows .deadzones))
      .deadzones
  pure
    { thresholds := thresholds
      minimums := minimums
      maximums := maximums
      deadzones := deadzones }

/-- A check of `main`: `if condition: raise error`. -/
def raiseIf (condition : Prop) [Decidable condition] (error : LayoutError) :
    Except LayoutError Unit :=
  if condition then .error error else .ok ()

/-- `if len(values) not in (0, key_count)`. -/
def checkLength (name : ArraySection) (length keyCount : Nat) :
    Except LayoutError Unit :=
  raiseIf (length ≠ 0 ∧ length ≠ keyCount) (.wrongLength name length keyCount)

def checkLevels (levels : Levels) : Except LayoutError Unit := do
  let keyCount := levels.thresholds.length
  raiseIf (keyCount = 0) .thresholdsEmpty
  checkLength .minimums levels.minimums.length keyCount
  checkLength .maximums levels.maximums.length keyCount
  ((levels.minimums.zip levels.maximums).zipIdx).forM fun pair =>
    raiseIf (pair.1.1 > pair.1.2)
      (.minimumAboveMaximum pair.2 pair.1.1 pair.1.2)

/-! ## Layers -/

/-- `normalize_key_token`. -/
def normalizeKeyToken (token : Text) : Text :=
  if "KEY_".toList.isPrefixOf token then token else "KEY_".toList ++ token

structure Layers where
  layer1 : List Text
  layer2 : List Text
  layer3 : List Text

def layerOf (sections : Sections) (name : ArraySection) : List Text :=
  (flattenHalfRows (sections.rows name)).map normalizeKeyToken

def parseLayers (sections : Sections) (keyCount : Nat) :
    Except LayoutError Layers := do
  let layer1 := layerOf sections .layer1
  let layer2 := layerOf sections .layer2
  let layer3 := layerOf sections .layer3
  checkLength .layer1 layer1.length keyCount
  checkLength .layer2 layer2.length keyCount
  checkLength .layer3 layer3.length keyCount
  raiseIf (layer1 = []) (.layerEmpty .layer1)
  raiseIf (layer2 = []) (.layerEmpty .layer2)
  pure
    { layer1 := layer1
      layer2 := layer2
      layer3 :=
        if layer3 = [] then
          List.replicate keyCount "KEY_NOKEY".toList
        else
          layer3 }

/-! ## FN shortcuts -/

structure FnShortcutDefault where
  key : Text
  action : KbFnAction
  param : Int
deriving DecidableEq, Repr

/-- `FN_ACTIONS`. -/
def fnActions : List (Text × KbFnAction) :=
  [ ("MODE_NORMAL".toList, .modeNormal),
    ("MODE_RACE".toList, .modeRace),
    ("MODE_MOUSESIM".toList, .modeMousesim),
    ("TRANSPORT_USB".toList, .transportUsb),
    ("TRANSPORT_BT".toList, .transportBt),
    ("BL_TOGGLE".toList, .blToggle),
    ("BL_NEXT_SCRIPT".toList, .blNextScript),
    ("BL_PREV_SCRIPT".toList, .blPrevScript),
    ("BL_BRIGHTNESS_UP".toList, .blBrightnessUp),
    ("BL_BRIGHTNESS_DOWN".toList, .blBrightnessDown),
    ("BL_SPEED_UP".toList, .blSpeedUp),
    ("BL_SPEED_DOWN".toList, .blSpeedDown) ]

inductive ArgKind where
  | int
  | percent
  | speed
deriving DecidableEq, Repr

/-- `FN_PARAM_ACTIONS`. -/
def fnParamActions : List (Text × KbFnAction × ArgKind) :=
  [ ("BL_SET_SCRIPT".toList, .blSetScript, .int),
    ("BL_SET_BRIGHTNESS".toList, .blSetBrightness, .percent),
    ("BL_SET_SPEED".toList, .blSetSpeed, .speed) ]

/-- The argument of a parameterized action. -/
def parseFnParam
    (kind : ArgKind) (lineno : Nat) (actionName arg : Text) :
    Except LayoutError Int :=
  match kind with
  | .int =>
      match int python arg with
      | none => .error (.expectsInteger lineno actionName)
      | some param => .ok param
  | .percent =>
      match int python arg with
      | none => .error (.expectsIntegerPercent lineno actionName)
      | some param =>
          if param < 0 ∨ param > 100 then
            .error (.percentOutside lineno)
          else
            .ok param
  | .speed =>
      match python.float arg with
      | none => .error (.expectsNumericSpeed lineno actionName)
      | some speed =>
          if speed < 0.1 ∨ speed > 4.0 then
            .error (.speedOutside lineno)
          else
            match python.intRound (speed * 100.0) with
            | none => .error (.speedNotRounded lineno)
            | some param => .ok param

/-- The right side of a shortcut. -/
def parseFnAction (lineno : Nat) (rhs : Text) :
    Except LayoutError (KbFnAction × Int) :=
  match
      if rhs.getLast? = some ')' then splitOnce '(' rhs.dropLast else none with
  | some (actionName, arg) =>
      match fnParamActions.lookup (python.upper (strip actionName)) with
      | none => .error (.unknownFnParamAction lineno actionName)
      | some (action, kind) =>
          (parseFnParam python kind lineno actionName (strip arg)).map
            fun param => (action, param)
  | none =>
      match fnActions.lookup (python.upper rhs) with
      | none => .error (.unknownFnAction lineno rhs)
      | some action => .ok (action, 0)

def parseFnShortcut (entry : Nat × Text) :
    Except LayoutError FnShortcutDefault :=
  match splitOnce '=' entry.2 with
  | none => .error (.fnShortcutForm entry.1)
  | some (lhs, rhs) =>
      match splitOnce '+' (strip lhs) with
      | none => .error (.fnShortcutLhsForm entry.1)
      | some (keyPrefix, keyToken) =>
          if python.upper (strip keyPrefix) ≠ "FN".toList then
            .error (.fnShortcutPrefix entry.1)
          else
            (parseFnAction python entry.1 (strip rhs)).map fun action =>
              { key := normalizeKeyToken (strip keyToken)
                action := action.1
                param := action.2 }

/-- `parse_fn_shortcuts`. -/
def parseFnShortcuts (entries : List (Nat × Text)) :
    Except LayoutError (List FnShortcutDefault) :=
  entries.mapM (parseFnShortcut python)

/-! ## Mouse emulation -/

def parseBool (value : Text) (key : MouseemuKey) : Except LayoutError Bool :=
  let lowered := python.lower value
  if lowered ∈
      ["true".toList, "1".toList, "yes".toList, "on".toList] then
    .ok true
  else if lowered ∈
      ["false".toList, "0".toList, "no".toList, "off".toList] then
    .ok false
  else
    .error (.mouseemuNotBool key)

def parseDirection (value : Text) : Except LayoutError KbMouseemuDirection :=
  if value = "4way".toList then
    .ok .fourWay
  else if value = "8way".toList then
    .ok .eightWay
  else
    .error .mouseemuDirection

/-- `parse_ratio`, with the quotient that is written for it. -/
def parseRatio (value : Text) (key : MouseemuKey) : Except LayoutError ℚ :=
  match splitOnce '/' value with
  | none => .error (.ratioForm key)
  | some (numStr, denStr) =>
      match int python (strip numStr), int python (strip denStr) with
      | some num, some den =>
          if den = 0 then
            .error (.ratioZero key)
          else
            .ok ((num : ℚ) / (den : ℚ))
      | _, _ => .error (.ratioNotIntegers key)

def parseMouseemuIndex (key : MouseemuArrayKey) (numbered : Text × Nat) :
    Except LayoutError Int :=
  match int python numbered.1 with
  | none => .error (.keyNotInteger key numbered.2 numbered.1)
  | some value => .ok value

/-- `parse_mouseemu_indices`. -/
def parseMouseemuIndices
    (tokens : List Text) (key : MouseemuArrayKey) (maxCount : Nat) :
    Except LayoutError (List Int) :=
  if tokens.length > maxCount then
    .error (.tooManyKeys key tokens.length maxCount)
  else
    tokens.zipIdx.mapM (parseMouseemuIndex python key)

/-- The array that is written for a list, filled up with zeros. -/
def paddedKeys (values : List Int) (i : Nat) : UInt16 :=
  UInt16.ofInt (values.getD i 0)

/-- The value of a key of `[mouseemu]`, or its default. -/
def mouseemuValue (sections : Sections) (key : MouseemuKey) : Text :=
  (sections.mouseemu key).getD
    (match key with
    | .enabled => "false".toList
    | .direction => "4way".toList
    | .moveX | .moveY | .scroll => "1/1".toList)

/-- The largest number of keys in a list. -/
def maxKeys : MouseemuArrayKey → Nat
  | .moveKeys => 8
  | .scrollKeys => 2
  | .buttonKeys => 3

/-- The definition of `generated_default_settings_mouseemu`. -/
def parseMouseemu (sections : Sections) :
    Except LayoutError KbMouseemuSettings := do
  let enabled ← parseBool python (mouseemuValue sections .enabled) .enabled
  let direction ← parseDirection (mouseemuValue sections .direction)
  let moveX ← parseRatio python (mouseemuValue sections .moveX) .moveX
  let moveY ← parseRatio python (mouseemuValue sections .moveY) .moveY
  let scroll ← parseRatio python (mouseemuValue sections .scroll) .scroll
  let moveKeys ←
    parseMouseemuIndices python (sections.tokens .moveKeys) .moveKeys
      (maxKeys .moveKeys)
  let scrollKeys ←
    parseMouseemuIndices python (sections.tokens .scrollKeys) .scrollKeys
      (maxKeys .scrollKeys)
  let buttonKeys ←
    parseMouseemuIndices python (sections.tokens .buttonKeys) .buttonKeys
      (maxKeys .buttonKeys)
  pure
    { enabled := enabled
      directionMode := direction
      moveKeysCount := UInt8.ofNat (sections.tokens .moveKeys).length
      moveKeys := paddedKeys moveKeys
      scrollKeysCount := UInt8.ofNat (sections.tokens .scrollKeys).length
      scrollKeys := paddedKeys scrollKeys
      buttonKeysCount := UInt8.ofNat (sections.tokens .buttonKeys).length
      buttonKeys := paddedKeys buttonKeys
      moveXK := moveX
      moveYK := moveY
      scrollK := scroll }

/-! ## The generated definitions -/

/-- The definitions of `generated_default_settings.c`. -/
structure GeneratedSettings where
  keyCount : Nat
  thresholds : List Int
  minimums : List Int
  maximums : List Int
  deadzones : List Int
  keymapLayer1 : List Text
  keymapLayer2 : List Text
  keymapLayer3 : List Text
  mouseemu : KbMouseemuSettings
  fnShortcuts : List FnShortcutDefault

/-- `main`, from the text of the layout file. -/
def genDefaultSettings (layout : Text) :
    Except LayoutError GeneratedSettings := do
  let sections ← parseLayout python layout
  let levels ← parseLevels python sections
  let fnShortcuts ← parseFnShortcuts python sections.fnShortcuts
  checkLevels levels
  let layers ← parseLayers sections levels.thresholds.length
  let mouseemu ← parseMouseemu python sections
  pure
    { keyCount := levels.thresholds.length
      thresholds := levels.thresholds
      minimums := levels.minimums
      maximums := levels.maximums
      deadzones := levels.deadzones
      keymapLayer1 := layers.layer1
      keymapLayer2 := layers.layer2
      keymapLayer3 := layers.layer3
      mouseemu := mouseemu
      fnShortcuts := fnShortcuts }

end YkbFirmware.Scripts.DefaultSettings
