import Mathlib.Data.List.Induction
import YkbFirmware.Library.TransitionSystem
import YkbFirmware.KbHandler.CoreThread

/-!
# State derived from the settings

The core thread keeps two things it derived from the settings when it
started: the key indices of the layer and FN codes, and the active mode.  An
FN action changes the settings and brings the mode along; an update by another
thread replaces the settings and brings nothing along.  Both derivations
therefore stay correct exactly as long as every such update maps the same keys
to the three codes and keeps the mode.  The index lists are correct to begin
with if their 8-bit counts do not wrap.
-/

namespace YkbFirmware.KbHandler.DerivedState

open YkbFirmware.Library.TransitionSystem
open YkbFirmware.KbHandler.Settings
open YkbFirmware.KbHandler.SettingsCheck
open YkbFirmware.KbHandler.Report
open YkbFirmware.KbHandler.Core
open YkbFirmware.KbHandler.Frames
open YkbFirmware.KbHandler.CoreThread

/-! ## Index lists -/

/-- The indices a key list holds, in order. -/
def entries (list : KeyList) : List Nat :=
  (List.range list.count.toNat).map fun index => (list.keys index).toNat

/-- The keys the base layer maps to `code`, in increasing order. -/
def mappedKeys
    (config : KbHandlerConfig) (settings : KbSettings) (code : UInt8) :
    List Nat :=
  (List.range config.totalKeyCount).filter fun key =>
    decide (settings.mappingsLayer1 key = code)

/-- The codes whose keys are cached. -/
def cachedCodes : List UInt8 := [keyLayer1, keyLayer2, keyFn]

section Lists

variable
    {config : KbHandlerConfig} {settings : KbSettings} {code : UInt8}
    {list : KeyList} {keys : List Nat} {key : Nat}

theorem length_entries : (entries list).length = list.count.toNat := by
  simp [entries]

/-- A list of keys is pushed one by one. -/
def gathered (keys : List Nat) : KeyList :=
  keys.foldl KeyList.push KeyList.empty

theorem layerKeys_eq :
    layerKeys config settings code =
      gathered (mappedKeys config settings code) := by
  rw [gathered, mappedKeys, List.foldl_filter, layerKeys]
  congr 1
  funext list key
  simp only [decide_eq_true_eq]

theorem gathered_append (keys : List Nat) (key : Nat) :
    gathered (keys ++ [key]) = (gathered keys).push key := by
  rw [gathered, List.foldl_append]
  rfl

/-- The count of the list is the number of keys, modulo 256. -/
theorem gathered_count : (gathered keys).count.toNat = keys.length % 256 := by
  induction keys using List.reverseRecOn with
  | nil => rfl
  | append_singleton keys key induction =>
      rw [gathered_append, KeyList.push, UInt8.toNat_add, induction,
        List.length_append, List.length_singleton]
      simp

/-- Below the wrap, a push appends its key. -/
theorem entries_push
    (fits : key < 2 ^ 16) (room : list.count.toNat < 255) :
    entries (list.push key) = entries list ++ [key] := by
  have count : (list.count + 1).toNat = list.count.toNat + 1 := by
    rw [UInt8.toNat_add]
    simp only [UInt8.reduceToNat]
    omega
  rw [entries, entries, KeyList.push, count, List.range_succ,
    List.map_append]
  congr 1
  · apply List.map_congr_left
    intro index member
    have other : index ≠ list.count.toNat :=
      (List.mem_range.mp member).ne
    simp only [Function.update_of_ne other]
  · simp only [List.map_cons, List.map_nil, Function.update_self,
      UInt16.toNat_ofNat', Nat.mod_eq_of_lt fits]

theorem entries_gathered
    (fits : ∀ key ∈ keys, key < 2 ^ 16) (few : keys.length < 256) :
    entries (gathered keys) = keys := by
  induction keys using List.reverseRecOn with
  | nil => rfl
  | append_singleton keys key induction =>
      rw [List.length_append, List.length_singleton] at few
      have room : (gathered keys).count.toNat < 255 := by
        rw [gathered_count]
        omega
      rw [gathered_append, entries_push (fits key (by simp)) room,
        induction (fun other member => fits other (by simp [member]))
          (by omega)]

/-- The cache lists the mapped keys exactly if the count does not wrap. -/
theorem entries_layerKeys_iff :
    entries (layerKeys config settings code) =
        mappedKeys config settings code ↔
      (mappedKeys config settings code).length < 256 := by
  rw [layerKeys_eq]
  constructor
  · intro lists
    have length := congrArg List.length lists
    rw [length_entries, gathered_count] at length
    omega
  · apply entries_gathered
    intro key member
    have inRange := List.mem_range.mp (List.mem_filter.mp member).1
    exact inRange.trans config.fits

theorem mappedKeys_congr
    {other : KbSettings}
    (same : other.mappingsLayer1 = settings.mappingsLayer1) :
    mappedKeys config other code = mappedKeys config settings code := by
  rw [mappedKeys, mappedKeys, same]

end Lists

/-! ## The property -/

/-- The cached lists and the active mode are those of the settings. -/
structure Derived (config : KbHandlerConfig) (st : KbhRuntimeState) : Prop where
  layer1 :
    entries st.layer1Keys = mappedKeys config st.settings keyLayer1
  layer2 :
    entries st.layer2Keys = mappedKeys config st.settings keyLayer2
  fn : entries st.fnKeys = mappedKeys config st.settings keyFn
  mode : st.activeMode = st.settings.mode

/-- No cached code is mapped to 256 keys or more. -/
def FewMapped (config : KbHandlerConfig) (settings : KbSettings) : Prop :=
  ∀ code ∈ cachedCodes, (mappedKeys config settings code).length < 256

/-- The update leaves everything alone that was derived. -/
def KeepsDerived
    (config : KbHandlerConfig) (st : KbhRuntimeState) :
    CoreEvent config → Prop
  | .settingsUpdate settings =>
      (∀ code ∈ cachedCodes,
          mappedKeys config settings code =
            mappedKeys config st.settings code) ∧
        settings.mode = st.settings.mode
  | .keyValue _ _ _ => True
  | .frameEnd _ => True
  | .slaveValues _ _ _ => True
  | .slaveReset _ => True

section Runs

variable
    {config : KbHandlerConfig} {st next : KbhRuntimeState}
    {event : CoreEvent config}

theorem derived_threadStart_iff (settings : KbSettings) :
    Derived config (threadStart config settings) ↔
      FewMapped config settings := by
  constructor
  · intro derived code member
    simp only [cachedCodes, List.mem_cons, List.not_mem_nil, or_false]
      at member
    rcases member with rfl | rfl | rfl
    · exact entries_layerKeys_iff.mp derived.layer1
    · exact entries_layerKeys_iff.mp derived.layer2
    · exact entries_layerKeys_iff.mp derived.fn
  · intro few
    exact
      { layer1 := entries_layerKeys_iff.mpr (few _ (by simp [cachedCodes]))
        layer2 := entries_layerKeys_iff.mpr (few _ (by simp [cachedCodes]))
        fn := entries_layerKeys_iff.mpr (few _ (by simp [cachedCodes]))
        mode := rfl }

/-- Whatever the core thread does itself keeps the derived state. -/
theorem Derived.kept
    (derived : Derived config st) (kept : CacheKept st next) :
    Derived config next := by
  have mapped : ∀ code,
      mappedKeys config next.settings code =
        mappedKeys config st.settings code :=
    fun code => mappedKeys_congr kept.keys.mappingsLayer1
  constructor
  · rw [kept.layer1Keys, mapped]
    exact derived.layer1
  · rw [kept.layer2Keys, mapped]
    exact derived.layer2
  · rw [kept.fnKeys, mapped]
    exact derived.fn
  · exact kept.mode derived.mode

/-- An update keeps the derived state exactly if it keeps what it is of. -/
theorem derived_updated_iff
    (derived : Derived config st) (settings : KbSettings) :
    Derived config { st with settings := settings } ↔
      KeepsDerived config st (.settingsUpdate settings) := by
  constructor
  · intro after
    constructor
    · intro code member
      simp only [cachedCodes, List.mem_cons, List.not_mem_nil, or_false]
        at member
      rcases member with rfl | rfl | rfl
      · exact after.layer1.symm.trans derived.layer1
      · exact after.layer2.symm.trans derived.layer2
      · exact after.fn.symm.trans derived.fn
    · exact after.mode.symm.trans derived.mode
  · rintro ⟨mapped, mode⟩
    exact
      { layer1 :=
          derived.layer1.trans (mapped _ (by simp [cachedCodes])).symm
        layer2 :=
          derived.layer2.trans (mapped _ (by simp [cachedCodes])).symm
        fn := derived.fn.trans (mapped _ (by simp [cachedCodes])).symm
        mode := derived.mode.trans mode.symm }

theorem derived_step_iff
    (derived : Derived config st)
    (stepped : coreStep config st event = some next) :
    Derived config next ↔ KeepsDerived config st event := by
  cases event with
  | keyValue slots key value =>
      cases stepped
      exact
        iff_of_true (derived.kept (processKeyValue_kept key value)) trivial
  | frameEnd nowMs =>
      cases stepped
      exact
        iff_of_true (derived.kept (finishValueFrame_kept nowMs)) trivial
  | slaveValues slots nowMs values =>
      cases stepped
      exact
        iff_of_true
          (derived.kept (handleSlaveValues_kept slots nowMs values)) trivial
  | slaveReset nowMs =>
      cases stepped
      exact
        iff_of_true (derived.kept (handleSlaveKeysReset_kept nowMs)) trivial
  | settingsUpdate settings =>
      rcases updateSettings_eq_some stepped with ⟨_, rfl⟩
      exact derived_updated_iff derived settings

end Runs

/--
Over a run of the core thread, the cached lists and the mode are those of the
settings in every state if and only if at most 255 keys are mapped to each
code at the start and every update by another thread keeps these keys and the
mode.
-/
theorem derived_state_follows_iff
    (config : KbHandlerConfig) (settings : KbSettings)
    (events : List (CoreEvent config)) (finish : KbhRuntimeState)
    (ran :
      run (coreStep config) (threadStart config settings) events =
        some finish) :
    Throughout (coreStep config) (Derived config)
        (threadStart config settings) events ↔
      FewMapped config settings ∧
        StepsMeet (coreStep config) (KeepsDerived config)
          (threadStart config settings) events := by
  rw [← derived_threadStart_iff]
  exact
    throughout_iff_stepsMeet
      (fun _ _ _ derived stepped => derived_step_iff derived stepped) ran

/-! ## An update that is not followed -/

/-- One FN key and one key of the first layer. -/
def layeredSettings : KbSettings :=
  { plainSettings with
    mappingsLayer1 := fun key =>
      if key = 2 then keyFn else if key = 5 then keyLayer1 else keyNokey }

/-- The thresholds are raised, and the layer key is pressed. -/
def raisedThresholdsRun : List (CoreEvent eightKeys) :=
  [.settingsUpdate { layeredSettings with thresholds := fun _ => 2 },
    .keyValue ⟨0, fun _ => false, fun _ => 0⟩ 5 3, .frameEnd 0]

/-- New thresholds concern nothing that was derived. -/
theorem raised_thresholds_are_followed :
    ∃ finish,
      run (coreStep eightKeys) (threadStart eightKeys layeredSettings)
          raisedThresholdsRun =
        some finish ∧
      finish.settings.thresholds 5 = 2 ∧ finish.secondLayerActive = true ∧
      entries finish.layer1Keys = [5] ∧ entries finish.fnKeys = [2] ∧
      Throughout (coreStep eightKeys) (Derived eightKeys)
        (threadStart eightKeys layeredSettings) raisedThresholdsRun := by
  refine ⟨_, rfl, rfl, by decide +kernel, by decide +kernel,
    by decide +kernel, ?_⟩
  refine
    (derived_state_follows_iff eightKeys layeredSettings
      raisedThresholdsRun _ rfl).mpr ⟨?_, ⟨?_, rfl⟩, fun raised first => ?_⟩
  · exact (by decide +kernel :
      ∀ code ∈ cachedCodes,
        (mappedKeys eightKeys layeredSettings code).length < 256)
  · exact fun code _ => rfl
  · cases first
    exact ⟨trivial, fun _ _ => ⟨trivial, fun _ _ => trivial⟩⟩

/-- Race mode, selected by another thread, is not. -/
theorem mode_update_is_not_followed :
    ¬ ∀ (events : List (CoreEvent eightKeys)) (finish : KbhRuntimeState),
      run (coreStep eightKeys) (threadStart eightKeys plainSettings)
            events =
          some finish →
        Derived eightKeys finish := by
  intro always
  have derived :=
    always [.settingsUpdate (mutateModeRace plainSettings)] _ rfl
  have mode : KbMode.normal = .race := derived.mode
  cases mode

end YkbFirmware.KbHandler.DerivedState
