import YkbFirmware.KbHandler.SettingsCheck
import YkbFirmware.Library.Fallible
import YkbFirmware.Scripts.DefaultSettings

/-!
# Generated settings and the firmware's check of them

The generator bounds the numbers of mouse emulation keys, where
`mouseemu_check` asks for exact ones and for indices of keys, and it checks
the length of every per-key array but the deadzones.  So an accepted layout
boots exactly if it fulfils what the generator leaves unchecked.
-/

namespace YkbFirmware.Scripts.DefaultSettingsBoot

open YkbFirmware.KbHandler.Settings
open YkbFirmware.KbHandler.SettingsCheck
open YkbFirmware.Library.Fallible
open YkbFirmware.Scripts.DefaultLayout
open YkbFirmware.Scripts.DefaultSettings
open YkbFirmware.Scripts.PythonText

/-! ## What is asked for -/

/-- Every per-key array has an entry written for each key. -/
structure EveryKeyExplicit (generated : GeneratedSettings) : Prop where
  thresholds : generated.thresholds.length = generated.keyCount
  minimums : generated.minimums.length = generated.keyCount
  maximums : generated.maximums.length = generated.keyCount
  deadzones : generated.deadzones.length = generated.keyCount
  keymapLayer1 : generated.keymapLayer1.length = generated.keyCount
  keymapLayer2 : generated.keymapLayer2.length = generated.keyCount
  keymapLayer3 : generated.keymapLayer3.length = generated.keyCount

section Layouts

variable (python : Python) (totalKeyCount : Nat) (sections : Sections)

/-- The lists of keys are those that mouse emulation needs. -/
structure MouseKeysFit : Prop where
  fourWay :
    mouseemuValue sections .direction = "4way".toList →
      (sections.tokens .moveKeys).length = 4
  eightWay :
    mouseemuValue sections .direction = "8way".toList →
      (sections.tokens .moveKeys).length = 8
  scrollPair :
    (sections.tokens .scrollKeys).length = 0 ∨
      (sections.tokens .scrollKeys).length = 2
  buttonTriple :
    (sections.tokens .buttonKeys).length = 0 ∨
      (sections.tokens .buttonKeys).length = 3
  indices :
    ∀ key, ∀ token ∈ sections.tokens key, ∀ value,
      int python token = some value →
        (UInt16.ofInt value).toNat < totalKeyCount

/-- What the generator leaves unchecked. -/
structure SectionsFit : Prop where
  deadzones :
    (flattenHalfRows (sections.rows .deadzones)).length =
      (flattenHalfRows (sections.rows .thresholds)).length
  mouseKeys :
    parseBool python (mouseemuValue sections .enabled) .enabled = .ok true →
      MouseKeysFit python totalKeyCount sections

end Layouts

variable {python : Python} {sections : Sections}

/-! ## Lengths of arrays -/

theorem parseU16Levels_length
    {tokens : List Text} {name : ArraySection} {values : List Int}
    (parsed : parseU16Levels python tokens name = .ok values) :
    values.length = tokens.length := by
  rw [← (forall₂_of_mapM parsed).length_eq, List.length_zipIdx]

theorem levelsOr_length
    {name : ArraySection} {default values : List Int}
    (parsed : levelsOr python sections name default = .ok values) :
    values.length = default.length ∨ values ≠ [] := by
  rw [levelsOr] at parsed
  split at parsed
  · rename_i listed
    right
    intro empty
    have length := parseU16Levels_length parsed
    rw [empty] at length
    exact listed (List.eq_nil_of_length_eq_zero length.symm)
  · cases parsed
    exact Or.inl rfl

theorem parseLevels_ok
    {levels : Levels} (parsed : parseLevels python sections = .ok levels) :
    levels.thresholds.length =
        (flattenHalfRows (sections.rows .thresholds)).length ∧
      levels.deadzones.length =
        (flattenHalfRows (sections.rows .deadzones)).length ∧
      (levels.minimums.length = levels.thresholds.length ∨
        levels.minimums ≠ []) ∧
      (levels.maximums.length = levels.thresholds.length ∨
        levels.maximums ≠ []) := by
  rcases bind_eq_ok_iff.mp parsed with ⟨thresholds, first, parsed⟩
  rcases bind_eq_ok_iff.mp parsed with ⟨minimums, second, parsed⟩
  rcases bind_eq_ok_iff.mp parsed with ⟨maximums, third, parsed⟩
  rcases bind_eq_ok_iff.mp parsed with ⟨deadzones, fourth, parsed⟩
  cases parsed
  have filled := levelsOr_length third
  rw [List.length_replicate] at filled
  exact
    ⟨parseU16Levels_length first, parseU16Levels_length fourth,
      levelsOr_length second, filled⟩

theorem raiseIf_ok
    {condition : Prop} [Decidable condition] {error : LayoutError}
    {done : Unit} (checked : raiseIf condition error = .ok done) :
    ¬ condition := by
  rw [raiseIf] at checked
  split at checked
  · cases checked
  · assumption

theorem checkLength_ok
    {name : ArraySection} {length keyCount : Nat} {done : Unit}
    (checked : checkLength name length keyCount = .ok done) :
    length = 0 ∨ length = keyCount := by
  have fits := raiseIf_ok checked
  omega

theorem checkLevels_ok
    {levels : Levels} {done : Unit}
    (checked : checkLevels levels = .ok done) :
    (levels.minimums.length = 0 ∨
        levels.minimums.length = levels.thresholds.length) ∧
      (levels.maximums.length = 0 ∨
        levels.maximums.length = levels.thresholds.length) := by
  rcases bind_eq_ok_iff.mp checked with ⟨_, _, checked⟩
  rcases bind_eq_ok_iff.mp checked with ⟨_, minimums, checked⟩
  rcases bind_eq_ok_iff.mp checked with ⟨_, maximums, _⟩
  exact ⟨checkLength_ok minimums, checkLength_ok maximums⟩

theorem parseLayers_ok
    {keyCount : Nat} {layers : Layers}
    (parsed : parseLayers sections keyCount = .ok layers) :
    layers.layer1.length = keyCount ∧ layers.layer2.length = keyCount ∧
      layers.layer3.length = keyCount := by
  rcases bind_eq_ok_iff.mp parsed with ⟨_, first, parsed⟩
  rcases bind_eq_ok_iff.mp parsed with ⟨_, second, parsed⟩
  rcases bind_eq_ok_iff.mp parsed with ⟨_, third, parsed⟩
  rcases bind_eq_ok_iff.mp parsed with ⟨_, firstListed, parsed⟩
  rcases bind_eq_ok_iff.mp parsed with ⟨_, secondListed, parsed⟩
  cases parsed
  refine ⟨?_, ?_, ?_⟩
  · exact
      (checkLength_ok first).resolve_left
        (List.length_eq_zero_iff.not.mpr (raiseIf_ok firstListed))
  · exact
      (checkLength_ok second).resolve_left
        (List.length_eq_zero_iff.not.mpr (raiseIf_ok secondListed))
  · dsimp only
    split
    · exact List.length_replicate
    · rename_i listed
      exact
        (checkLength_ok third).resolve_left
          (List.length_eq_zero_iff.not.mpr listed)

/-! ## Mouse emulation -/

/-- A list of indices is read from its tokens. -/
theorem parseMouseemuIndices_ok
    {tokens : List Text} {key : MouseemuArrayKey} {maxCount : Nat}
    {values : List Int}
    (parsed : parseMouseemuIndices python tokens key maxCount = .ok values) :
    tokens.length ≤ maxCount ∧
      List.Forall₂ (fun token value => int python token = some value)
        tokens values := by
  rw [parseMouseemuIndices] at parsed
  split at parsed
  · cases parsed
  · rename_i few
    refine ⟨Nat.not_lt.mp few, ?_⟩
    rw [← List.zipIdx_map_fst 0 tokens, List.forall₂_map_left_iff]
    refine (forall₂_of_mapM parsed).imp fun numbered value read => ?_
    rw [parseMouseemuIndex] at read
    split at read
    · cases read
    · rename_i found
      cases read
      exact found

/-- The keys that are counted are those that are listed. -/
theorem paddedKeys_inside
    {tokens : List Text} {values : List Int} {totalKeyCount : Nat}
    (read :
      List.Forall₂ (fun token value => int python token = some value)
        tokens values) :
    (∀ i < tokens.length, (paddedKeys values i).toNat < totalKeyCount) ↔
      ∀ token ∈ tokens, ∀ value, int python token = some value →
        (UInt16.ofInt value).toNat < totalKeyCount := by
  induction read with
  | nil => simp
  | @cons token value tokens values found _ induction =>
      have first :
          (UInt16.ofInt value).toNat < totalKeyCount ↔
            ∀ other, int python token = some other →
              (UInt16.ofInt other).toNat < totalKeyCount := by
        simp [found]
      rw [List.forall_mem_cons, ← induction, ← first]
      constructor
      · intro inside
        exact
          ⟨inside 0 (Nat.succ_pos _),
            fun i within => inside (i + 1) (Nat.succ_lt_succ within)⟩
      · rintro ⟨head, rest⟩ i within
        cases i with
        | zero => exact head
        | succ i => exact rest i (Nat.lt_of_succ_lt_succ within)

/-- The keys of the firmware's settings are those of a list of the layout. -/
structure KeysRead
    (python : Python) (sections : Sections) (key : MouseemuArrayKey)
    (keysCount : UInt8) (keys : Nat → UInt16) : Prop where
  few : keysCount.toNat ≤ maxKeys key
  count : keysCount.toNat = (sections.tokens key).length
  inside :
    ∀ totalKeyCount,
      (∀ i < keysCount.toNat, (keys i).toNat < totalKeyCount) ↔
        ∀ token ∈ sections.tokens key, ∀ value,
          int python token = some value →
            (UInt16.ofInt value).toNat < totalKeyCount

theorem keysRead_of_parsed
    {key : MouseemuArrayKey} {values : List Int}
    (parsed :
      parseMouseemuIndices python (sections.tokens key) key (maxKeys key) =
        .ok values) :
    KeysRead python sections key
      (UInt8.ofNat (sections.tokens key).length) (paddedKeys values) := by
  rcases parseMouseemuIndices_ok parsed with ⟨few, read⟩
  have small : maxKeys key ≤ 8 := by cases key <;> decide
  have count :
      (UInt8.ofNat (sections.tokens key).length).toNat =
        (sections.tokens key).length := by
    rw [UInt8.toNat_ofNat']
    omega
  refine ⟨count.symm ▸ few, count, fun totalKeyCount => ?_⟩
  rw [count]
  exact paddedKeys_inside read

/-- What the settings for mouse emulation take from the layout. -/
structure MouseemuRead
    (python : Python) (sections : Sections)
    (mouseemu : KbMouseemuSettings) : Prop where
  enabled :
    parseBool python (mouseemuValue sections .enabled) .enabled =
      .ok mouseemu.enabled
  direction :
    parseDirection (mouseemuValue sections .direction) =
      .ok mouseemu.directionMode
  moveKeys :
    KeysRead python sections .moveKeys mouseemu.moveKeysCount
      mouseemu.moveKeys
  scrollKeys :
    KeysRead python sections .scrollKeys mouseemu.scrollKeysCount
      mouseemu.scrollKeys
  buttonKeys :
    KeysRead python sections .buttonKeys mouseemu.buttonKeysCount
      mouseemu.buttonKeys

theorem parseMouseemu_ok
    {mouseemu : KbMouseemuSettings}
    (parsed : parseMouseemu python sections = .ok mouseemu) :
    MouseemuRead python sections mouseemu := by
  rcases bind_eq_ok_iff.mp parsed with ⟨_, enabled, parsed⟩
  rcases bind_eq_ok_iff.mp parsed with ⟨_, direction, parsed⟩
  rcases bind_eq_ok_iff.mp parsed with ⟨_, _, parsed⟩
  rcases bind_eq_ok_iff.mp parsed with ⟨_, _, parsed⟩
  rcases bind_eq_ok_iff.mp parsed with ⟨_, _, parsed⟩
  rcases bind_eq_ok_iff.mp parsed with ⟨_, moveKeys, parsed⟩
  rcases bind_eq_ok_iff.mp parsed with ⟨_, scrollKeys, parsed⟩
  rcases bind_eq_ok_iff.mp parsed with ⟨_, buttonKeys, parsed⟩
  cases parsed
  exact
    ⟨enabled, direction, keysRead_of_parsed moveKeys,
      keysRead_of_parsed scrollKeys, keysRead_of_parsed buttonKeys⟩

theorem parseDirection_ok
    {value : Text} {direction : KbMouseemuDirection}
    (parsed : parseDirection value = .ok direction) :
    (direction = .fourWay ↔ value = "4way".toList) ∧
      (direction = .eightWay ↔ value = "8way".toList) := by
  rw [parseDirection] at parsed
  split at parsed
  · rename_i same
    cases parsed
    rw [same]
    decide
  · rename_i notFour
    split at parsed
    · rename_i same
      cases parsed
      rw [same]
      decide
    · cases parsed

/-- The firmware's conditions are conditions on the lists of the layout. -/
theorem mouseemuChecked_iff
    {totalKeyCount : Nat} {mouseemu : KbMouseemuSettings}
    (read : MouseemuRead python sections mouseemu) :
    MouseemuChecked totalKeyCount mouseemu ↔
      MouseKeysFit python totalKeyCount sections := by
  rcases parseDirection_ok read.direction with ⟨fourWay, eightWay⟩
  constructor
  · intro checked
    refine ⟨fun mode => ?_, fun mode => ?_, ?_, ?_, fun key => ?_⟩
    · rw [← read.moveKeys.count, checked.fourWay (fourWay.mpr mode)]
      rfl
    · rw [← read.moveKeys.count, checked.eightWay (eightWay.mpr mode)]
      rfl
    · rw [← read.scrollKeys.count]
      exact checked.scrollPair.imp (congrArg UInt8.toNat) (congrArg UInt8.toNat)
    · rw [← read.buttonKeys.count]
      exact
        checked.buttonTriple.imp (congrArg UInt8.toNat) (congrArg UInt8.toNat)
    · cases key with
      | moveKeys => exact (read.moveKeys.inside _).mp checked.moveIndices
      | scrollKeys => exact (read.scrollKeys.inside _).mp checked.scrollIndices
      | buttonKeys => exact (read.buttonKeys.inside _).mp checked.buttonIndices
  · intro fit
    have scrollPair := fit.scrollPair
    have buttonTriple := fit.buttonTriple
    rw [← read.scrollKeys.count] at scrollPair
    rw [← read.buttonKeys.count] at buttonTriple
    refine
      { moveCount := read.moveKeys.few
        scrollCount := read.scrollKeys.few
        buttonCount := read.buttonKeys.few
        fourWay := fun mode => UInt8.toNat_inj.mp ?_
        eightWay := fun mode => UInt8.toNat_inj.mp ?_
        scrollPair := scrollPair.imp UInt8.toNat_inj.mp UInt8.toNat_inj.mp
        buttonTriple :=
          buttonTriple.imp UInt8.toNat_inj.mp UInt8.toNat_inj.mp
        moveIndices := (read.moveKeys.inside _).mpr (fit.indices .moveKeys)
        scrollIndices :=
          (read.scrollKeys.inside _).mpr (fit.indices .scrollKeys)
        buttonIndices :=
          (read.buttonKeys.inside _).mpr (fit.indices .buttonKeys) }
    · rw [read.moveKeys.count, fit.fourWay (fourWay.mp mode)]
      rfl
    · rw [read.moveKeys.count, fit.eightWay (eightWay.mp mode)]
      rfl

/-- The check returns if mouse emulation is off or its keys fit. -/
theorem mouseemuCheck_eq_none_iff_fit
    {totalKeyCount : Nat} {mouseemu : KbMouseemuSettings}
    (read : MouseemuRead python sections mouseemu) :
    mouseemuCheck totalKeyCount mouseemu = none ↔
      (parseBool python (mouseemuValue sections .enabled) .enabled =
          .ok true →
        MouseKeysFit python totalKeyCount sections) := by
  rw [mouseemuCheck_eq_none_iff, mouseemuChecked_iff read, read.enabled]
  simp only [Except.ok.injEq]

/-! ## Accepted layouts -/

/--
The settings generated from an accepted layout pass the firmware's check with
an entry for every key exactly if the layout fulfils what is left unchecked.
-/
theorem generated_boots_iff
    {layout : Text} {generated : GeneratedSettings} {totalKeyCount : Nat}
    (accepted : genDefaultSettings python layout = .ok generated)
    (sameKeys : generated.keyCount = totalKeyCount) :
    ∃ sections,
      parseLayout python layout = .ok sections ∧
        ((mouseemuCheck totalKeyCount generated.mouseemu = none ∧
            EveryKeyExplicit generated) ↔
          SectionsFit python totalKeyCount sections) := by
  rcases bind_eq_ok_iff.mp accepted with ⟨sections, parsed, accepted⟩
  rcases bind_eq_ok_iff.mp accepted with ⟨levels, levelsOk, accepted⟩
  rcases bind_eq_ok_iff.mp accepted with ⟨fnShortcuts, _, accepted⟩
  rcases bind_eq_ok_iff.mp accepted with ⟨_, checked, accepted⟩
  rcases bind_eq_ok_iff.mp accepted with ⟨layers, layersOk, accepted⟩
  rcases bind_eq_ok_iff.mp accepted with ⟨mouseemu, mouseemuOk, accepted⟩
  cases accepted
  rcases parseLevels_ok levelsOk with
    ⟨thresholds, deadzones, minimums, maximums⟩
  rcases checkLevels_ok checked with ⟨minimumsFit, maximumsFit⟩
  rcases parseLayers_ok layersOk with ⟨layer1, layer2, layer3⟩
  have read := parseMouseemu_ok mouseemuOk
  refine ⟨sections, parsed, ?_⟩
  constructor
  · rintro ⟨passes, explicit⟩
    refine ⟨?_, (mouseemuCheck_eq_none_iff_fit read).mp passes⟩
    rw [← deadzones, ← thresholds]
    exact explicit.deadzones
  · intro fit
    refine ⟨(mouseemuCheck_eq_none_iff_fit read).mpr fit.mouseKeys, ?_⟩
    exact
      { thresholds := rfl
        minimums :=
          minimums.elim id fun listed =>
            minimumsFit.resolve_left (List.length_eq_zero_iff.not.mpr listed)
        maximums :=
          maximums.elim id fun listed =>
            maximumsFit.resolve_left (List.length_eq_zero_iff.not.mpr listed)
        deadzones := by
          rw [deadzones, fit.deadzones, ← thresholds]
        keymapLayer1 := layer1
        keymapLayer2 := layer2
        keymapLayer3 := layer3 }

/-- Four keys, with four-way mouse emulation on them. -/
def fourWayLayout : Text :=
  "[thresholds]\n600 700 | 800 900\n".toList ++
    "[deadzones]\n20 20 | 20 20\n".toList ++
    "[layer1]\nA B | C D\n".toList ++
    "[layer2]\nKEY_A KEY_B | KEY_C KEY_D\n".toList ++
    "[fn_shortcuts]\nFN+A = MODE_MOUSESIM\n".toList ++
    "[mouseemu]\nenabled = true\n".toList ++
    "[move_keys]\n0 1 2 3\n".toList

theorem fourWayLayout_boots_iff :
    ∃ generated sections,
      genDefaultSettings asciiPython fourWayLayout = .ok generated ∧
        parseLayout asciiPython fourWayLayout = .ok sections ∧
        ((mouseemuCheck 4 generated.mouseemu = none ∧
            EveryKeyExplicit generated) ↔
          SectionsFit asciiPython 4 sections) := by
  have run :
      (genDefaultSettings asciiPython fourWayLayout).toOption.map
          GeneratedSettings.keyCount = some 4 := by
    decide +kernel
  cases accepted : genDefaultSettings asciiPython fourWayLayout with
  | error error =>
      rw [accepted] at run
      cases run
  | ok generated =>
      rw [accepted] at run
      rcases generated_boots_iff accepted (Option.some.inj run) with
        ⟨sections, parsed, boots⟩
      exact ⟨generated, sections, rfl, parsed, boots⟩

/-- Four keys, with eight-way mouse emulation on them and no deadzones. -/
def eightWayLayout : Text :=
  "[thresholds]\n600 700 | 800 900\n".toList ++
    "[layer1]\nA B | C D\n".toList ++
    "[layer2]\nKEY_A KEY_B | KEY_C KEY_D\n".toList ++
    "[mouseemu]\nenabled = true\ndirection = 8way\n".toList ++
    "[move_keys]\n0 1 2 3\n".toList

theorem eightWayLayout_panics :
    ∃ generated,
      genDefaultSettings asciiPython eightWayLayout = .ok generated ∧
        generated.keyCount = 4 ∧
        mouseemuCheck 4 generated.mouseemu =
          some .eightWayRequiresExactly8 ∧
        generated.deadzones = [] := by
  have run :
      (genDefaultSettings asciiPython eightWayLayout).toOption.map
          (fun generated =>
            (generated.keyCount, mouseemuCheck 4 generated.mouseemu,
              generated.deadzones)) =
        some (4, some .eightWayRequiresExactly8, []) := by
    decide +kernel
  cases accepted : genDefaultSettings asciiPython eightWayLayout with
  | error error =>
      rw [accepted] at run
      cases run
  | ok generated =>
      rw [accepted] at run
      simp only [Except.toOption, Option.map_some, Option.some.injEq,
        Prod.mk.injEq] at run
      exact ⟨generated, rfl, run⟩

end YkbFirmware.Scripts.DefaultSettingsBoot
