import YkbFirmware.KbHandler.Settings

/-!
# Keyboard reports

`resolve_hid`, `add_key`, `is_mouseemu_physical_key` and `build_kb_report`.

A report has exactly six key slots, which its type records.  The main fact is
that a report which is not all zero shows some pressed key: a key whose code
on the active layer is neither a layer key, nor FN, nor unassigned.
-/

namespace YkbFirmware.KbHandler.Report

open YkbFirmware.KbHandler.Settings

/-- The six key slots of a report. -/
abbrev KeySlots := { keys : List UInt8 // keys.length = 6 }

/-- `hid_kb_report_t`. -/
structure HidKbReport where
  mods : UInt8
  reserved : UInt8
  keys : KeySlots
deriving DecidableEq

/-- All six slots hold the same code. -/
def KeySlots.fill (code : UInt8) : KeySlots :=
  ⟨List.replicate 6 code, rfl⟩

/-- The report with no key. -/
def HidKbReport.zero : HidKbReport where
  mods := 0
  reserved := 0
  keys := KeySlots.fill 0

def isModifier (hid : UInt8) : Bool :=
  decide (hid ≥ keyLeftcontrol ∧ hid ≤ keyRightgui)

def modBit (hid : UInt8) : UInt8 :=
  1 <<< (hid - keyLeftcontrol)

def resolveHid
    (settings : KbSettings) (key : Nat)
    (secondLayerActive thirdLayerActive : Bool) : UInt8 :=
  if thirdLayerActive then
    settings.mappingsLayer3 key
  else if secondLayerActive then
    settings.mappingsLayer2 key
  else
    settings.mappingsLayer1 key

/-- `add_key`; the second component is the value it returns. -/
def addKey (keys : KeySlots) (hid : UInt8) : KeySlots × Bool :=
  if keys.val.contains hid then
    (keys, true)
  else
    match keys.val.findIdx? (· == 0) with
    | some slot =>
        (⟨keys.val.set slot hid, by rw [List.length_set, keys.property]⟩,
          true)
    | none => (keys, false)

/-- Whether `key` is among the first `count` entries of an array. -/
def keyInList (key : Nat) (keys : Nat → UInt16) (count : UInt8) : Bool :=
  (List.range count.toNat).any fun index => (keys index).toNat == key

def isMouseemuPhysicalKey (emu : KbMouseemuSettings) (key : Nat) : Bool :=
  emu.enabled &&
    (keyInList key emu.moveKeys emu.moveKeysCount ||
      keyInList key emu.scrollKeys emu.scrollKeysCount ||
      keyInList key emu.buttonKeys emu.buttonKeysCount)

/-- A code `build_kb_report` does not skip. -/
def reportable (hid : UInt8) : Bool :=
  decide
    (¬ (hid = keyLayer1 ∨ hid = keyLayer2 ∨ hid = keyFn ∨ hid = keyNokey))

/-- The report under construction and the overflow flag. -/
structure ReportBuild where
  report : HidKbReport
  overflow : Bool

/-- Add one code which is not skipped. -/
def ReportBuild.addCode (build : ReportBuild) (hid : UInt8) : ReportBuild :=
  if isModifier hid then
    { build with
      report := { build.report with mods := build.report.mods ||| modBit hid } }
  else
    let added := addKey build.report.keys hid
    { report := { build.report with keys := added.1 }
      overflow := build.overflow || !added.2 }

section Build

variable
    (config : KbHandlerConfig) (settings : KbSettings)
    (pressedKeys : Nat → Bool) (secondLayerActive thirdLayerActive : Bool)

/-- The body of the loop in `build_kb_report`. -/
def reportKey (build : ReportBuild) (key : Nat) : ReportBuild :=
  if pressedKeys key = false then
    build
  else if
      settings.mode = .mousesim ∧
        isMouseemuPhysicalKey settings.mouseemu key = true then
    build
  else
    let hid := resolveHid settings key secondLayerActive thirdLayerActive
    if reportable hid = false then build else build.addCode hid

def buildKbReport : HidKbReport :=
  let built :=
    (List.range config.totalKeyCount).foldl
      (reportKey settings pressedKeys secondLayerActive thirdLayerActive)
      ⟨HidKbReport.zero, false⟩
  if built.overflow ∧ config.reportRollover then
    { built.report with keys := KeySlots.fill 0x01 }
  else
    built.report

/-- The key contributes to the report. -/
def Shows (key : Nat) : Prop :=
  pressedKeys key = true ∧
    ¬ (settings.mode = .mousesim ∧
        isMouseemuPhysicalKey settings.mouseemu key = true) ∧
      reportable
          (resolveHid settings key secondLayerActive thirdLayerActive) =
        true

variable
    {config settings pressedKeys secondLayerActive thirdLayerActive}

theorem reportKey_silent
    {build : ReportBuild} {key : Nat}
    (silent :
      ¬ Shows settings pressedKeys secondLayerActive thirdLayerActive key) :
    reportKey settings pressedKeys secondLayerActive thirdLayerActive build
        key =
      build := by
  rw [reportKey]
  dsimp only
  split_ifs with up emulated skipped
  · rfl
  · rfl
  · rfl
  · exact
      absurd ⟨by simpa using up, emulated, by simpa using skipped⟩ silent

/-- Keys which do not contribute leave the build alone. -/
theorem foldl_reportKey_silent
    {keys : List Nat} {build : ReportBuild}
    (silent :
      ∀ key ∈ keys,
        ¬ Shows settings pressedKeys secondLayerActive thirdLayerActive
          key) :
    keys.foldl
        (reportKey settings pressedKeys secondLayerActive thirdLayerActive)
        build =
      build := by
  induction keys generalizing build with
  | nil => rfl
  | cons key rest induction =>
      rw [List.foldl_cons, reportKey_silent (silent key (by simp))]
      exact induction fun other member =>
        silent other (List.mem_cons_of_mem key member)

/-- A report which is not all zero shows some pressed key. -/
theorem shows_of_buildKbReport_ne_zero
    (nonzero :
      buildKbReport config settings pressedKeys secondLayerActive
          thirdLayerActive ≠
        HidKbReport.zero) :
    ∃ key < config.totalKeyCount,
      Shows settings pressedKeys secondLayerActive thirdLayerActive key := by
  by_contra none
  push Not at none
  apply nonzero
  rw [buildKbReport, foldl_reportKey_silent fun key member =>
    none key (List.mem_range.mp member)]
  simp

end Build

theorem keyInList_iff
    {key : Nat} {keys : Nat → UInt16} {count : UInt8} :
    keyInList key keys count = true ↔
      ∃ index < count.toNat, (keys index).toNat = key := by
  simp [keyInList]

end YkbFirmware.KbHandler.Report
