import YkbFirmware.Library.TransitionSystem
import YkbFirmware.KbHandler.Transition

/-!
# Stuck keys

A run of `process_key_value` calls in NORMAL mode ends with every key
released.  Was the last keyboard report the empty one?

`build_kb_report` does not look at `shortcut_consumed_keys`.  A key pressed
under FN and held after FN is released therefore shows in every report
rebuilt meanwhile, and its own release rebuilds none.  A second way to the
same end leads over layer keys: a layer key released while its only held twin
was pressed under FN is silent, and the twin's release is silent as well.

The file states when a call does neither, proves that a run of such calls
cannot leave a key in the last report, and exhibits a run which does.
-/

namespace YkbFirmware.KbHandler.StuckKey

open YkbFirmware.Library.TransitionSystem
open YkbFirmware.KbHandler.Settings
open YkbFirmware.KbHandler.Report
open YkbFirmware.KbHandler.Core
open YkbFirmware.KbHandler.Frames
open YkbFirmware.KbHandler.Transition

/-! ## Runs in NORMAL mode -/

/-- One call of `process_key_value`. -/
structure KeyValueCall where
  env : KbhEnvironment
  key : Nat
  value : UInt16

/-- A call which leaves the handler in NORMAL mode. -/
def normalStep
    (config : KbHandlerConfig) (st : KbhRuntimeState) (call : KeyValueCall) :
    Option KbhRuntimeState :=
  let next := (processKeyValue config call.env st call.key call.value).1
  if next.activeMode = .normal then some next else none

/-! ## Clean calls -/

/-- The report rebuilt with these layers shows no key consumed by FN. -/
def HidesConsumed
    (st : KbhRuntimeState) (key : Nat) (status : Bool)
    (layers : Bool × Bool) : Prop :=
  ∀ other, st.shortcutConsumedKeys other = true →
    ¬ Shows st.settings (Function.update st.pressedKeys key status)
        layers.1 layers.2 other

/-- A layer key is held and not consumed by FN. -/
def Held (st : KbhRuntimeState) (key : Nat) : Prop :=
  st.pressedKeys key = true ∧ st.shortcutConsumedKeys key = false

/-- If other keys of the layer are held, one of them is not consumed. -/
def KeepsLayer (st : KbhRuntimeState) (key : Nat) (list : KeyList) : Prop :=
  list.contains key = true → list.anyOther key st.pressedKeys = true →
    ∃ other, other ≠ key ∧ list.contains other = true ∧ Held st other

/-- The transition meets neither way to a stale report. -/
structure CleanTransition
    (st : KbhRuntimeState) (key : Nat) (status : Bool) : Prop where
  hidden : ∀ layers,
    shortcutIntercepts st key status = false →
      routedLayers st key status = some layers →
        HidesConsumed st key status layers
  kept :
    status = false → shortcutIntercepts st key status = false →
      KeepsLayer st key st.layer1Keys ∧ KeepsLayer st key st.layer2Keys

/-- The call is clean if the transition it makes is. -/
def CleanCall (st : KbhRuntimeState) (call : KeyValueCall) : Prop :=
  let pressed := decide (call.value ≥ st.settings.thresholds call.key)
  st.pressedKeys call.key ≠ pressed → CleanTransition st call.key pressed

/-- Calls are clean while no key is consumed. -/
theorem cleanCall_of_unconsumed
    {st : KbhRuntimeState} {call : KeyValueCall}
    (unconsumed : ∀ key, st.shortcutConsumedKeys key = false) :
    CleanCall st call := by
  have keeps : ∀ list, KeepsLayer st call.key list := by
    intro list _ twin
    rcases KeyList.anyOther_iff.mp twin with ⟨other, different, listed, up⟩
    exact ⟨other, different, listed, up, unconsumed other⟩
  intro changes
  constructor
  · intro layers _ _ other consumed
    exact absurd ((unconsumed other).symm.trans consumed) Bool.false_ne_true
  · intro _ _
    exact ⟨keeps st.layer1Keys, keeps st.layer2Keys⟩

/-! ## The invariant -/

/-- The layer cache agrees with the base layer. -/
structure Cached (st : KbhRuntimeState) : Prop where
  layer1 : ∀ key, st.layer1Keys.contains key = true →
    st.settings.mappingsLayer1 key = keyLayer1
  layer2 : ∀ key, st.layer2Keys.contains key = true →
    st.settings.mappingsLayer1 key = keyLayer2
  fn : ∀ key, st.fnKeys.contains key = true →
    st.settings.mappingsLayer1 key = keyFn

/--
A layer flag is set only while a key of the layer is held, and a report which
is not empty only while a key is held whose release rebuilds the report.
-/
structure Unstuck (config : KbHandlerConfig) (st : KbhRuntimeState) : Prop where
  normal : st.activeMode = .normal
  cached : Cached st
  inRange : ∀ key, st.pressedKeys key = true → key < config.totalKeyCount
  pressed : ∀ key, st.shortcutConsumedKeys key = true →
    st.pressedKeys key = true
  second : st.secondLayerActive = true →
    ∃ key, st.layer1Keys.contains key = true ∧ Held st key
  third : st.thirdLayerActive = true →
    ∃ key, st.layer2Keys.contains key = true ∧ Held st key
  report : st.prevKbReport ≠ HidKbReport.zero →
    ∃ key, st.fnKeys.contains key = false ∧ Held st key
  handed : Handed st

theorem keyLayer1_ne_keyLayer2 : keyLayer1 ≠ keyLayer2 := by decide

namespace Cached

variable {st : KbhRuntimeState} {key : Nat}

theorem layer1_not_layer2
    (cached : Cached st) (listed : st.layer1Keys.contains key = true) :
    ¬ st.layer2Keys.contains key = true := by
  intro other
  exact
    keyLayer1_ne_keyLayer2
      ((cached.layer1 key listed).symm.trans (cached.layer2 key other))

/-- A key mapped to another code is no FN key. -/
theorem not_fn
    (cached : Cached st) {code : UInt8}
    (mapped : st.settings.mappingsLayer1 key = code)
    (different : code ≠ keyFn) :
    st.fnKeys.contains key = false := by
  rw [← Bool.not_eq_true]
  intro listed
  exact different (mapped.symm.trans (cached.fn key listed))

theorem layer1_not_fn
    (cached : Cached st) (listed : st.layer1Keys.contains key = true) :
    st.fnKeys.contains key = false :=
  cached.not_fn (cached.layer1 key listed) (by decide)

theorem layer2_not_fn
    (cached : Cached st) (listed : st.layer2Keys.contains key = true) :
    st.fnKeys.contains key = false :=
  cached.not_fn (cached.layer2 key listed) (by decide)

end Cached

theorem threadStart_unstuck
    (config : KbHandlerConfig) {settings : KbSettings}
    (normal : settings.mode = .normal) :
    Unstuck config (threadStart config settings) where
  normal := normal
  cached :=
    ⟨fun _ listed => (layerKeys_contains listed).2,
      fun _ listed => (layerKeys_contains listed).2,
      fun _ listed => (layerKeys_contains listed).2⟩
  inRange := by
    intro key up
    cases up
  pressed := by
    intro key consumed
    cases consumed
  second := by
    intro active
    cases active
  third := by
    intro active
    cases active
  report := fun nonzero => absurd rfl nonzero
  handed := threadStart_handed config settings

/-! ## Routing -/

section Routing

variable
    {config : KbHandlerConfig} {st : KbhRuntimeState}
    {key : Nat} {status : Bool} {layers : Bool × Bool}

/-- `handle_layer_key` holds back only a release beside a held twin. -/
theorem handleLayerKey_none
    {pressedKeys : Nat → Bool} {list : KeyList}
    (kept : handleLayerKey key status pressedKeys list = none) :
    status = false ∧ list.anyOther key pressedKeys = true := by
  rw [handleLayerKey] at kept
  split_ifs at kept with twin
  exact twin

theorem handleLayerKey_some
    {pressedKeys : Nat → Bool} {list : KeyList} {active : Bool}
    (set : handleLayerKey key status pressedKeys list = some active) :
    active = status := by
  rw [handleLayerKey] at set
  split_ifs at set
  exact (Option.some.inj set).symm

/-- A silent transition is of an FN key, or of a layer key with a twin. -/
theorem routedLayers_none (silent : routedLayers st key status = none) :
    (st.layer1Keys.contains key = true ∧ status = false ∧
        st.layer1Keys.anyOther key st.pressedKeys = true) ∨
      (st.layer2Keys.contains key = true ∧ status = false ∧
        st.layer2Keys.anyOther key st.pressedKeys = true) ∨
      (¬ st.layer1Keys.contains key = true ∧
        ¬ st.layer2Keys.contains key = true ∧
          st.fnKeys.contains key = true) := by
  rw [routedLayers] at silent
  split_ifs at silent with first second fn
  · left
    exact ⟨first, handleLayerKey_none (Option.map_eq_none_iff.mp silent)⟩
  · right
    left
    exact ⟨second, handleLayerKey_none (Option.map_eq_none_iff.mp silent)⟩
  · right
    right
    exact ⟨first, second, fn⟩

/-- A flag in force was set before, or is set by the key itself. -/
theorem routedLayers_some (routed : routedLayers st key status = some layers) :
    (st.layer1Keys.contains key = true ∧ layers = (status, st.thirdLayerActive)) ∨
      (¬ st.layer1Keys.contains key = true ∧
        st.layer2Keys.contains key = true ∧
          layers = (st.secondLayerActive, status)) ∨
      (¬ st.layer1Keys.contains key = true ∧
        ¬ st.layer2Keys.contains key = true ∧
          layers = (st.secondLayerActive, st.thirdLayerActive)) := by
  rw [routedLayers] at routed
  split_ifs at routed with first second
  · left
    rcases Option.map_eq_some_iff.mp routed with ⟨active, set, rfl⟩
    rw [handleLayerKey_some set]
    exact ⟨first, rfl⟩
  · right
    left
    rcases Option.map_eq_some_iff.mp routed with ⟨active, set, rfl⟩
    rw [handleLayerKey_some set]
    exact ⟨first, second, rfl⟩
  · right
    right
    exact ⟨first, second, (Option.some.inj routed).symm⟩

end Routing

/-! ## One step -/

section Steps

variable
    {config : KbHandlerConfig} {env : KbhEnvironment}
    {st next : KbhRuntimeState} {key : Nat} {status : Bool}

/-- Other keys are held as before. -/
theorem Held.other
    {other : Nat} (held : Held st other) (different : other ≠ key)
    (pressed : next.pressedKeys = Function.update st.pressedKeys key status)
    (consumed : next.shortcutConsumedKeys other = st.shortcutConsumedKeys other) :
    Held next other := by
  refine ⟨?_, ?_⟩
  · rw [pressed, Function.update_of_ne different]
    exact held.1
  · rw [consumed]
    exact held.2

/-- A key in transition which is held is being released. -/
theorem Held.released
    (held : Held st key) (changes : st.pressedKeys key ≠ status) :
    status = false := by
  rw [held.1] at changes
  exact Bool.eq_false_of_not_eq_true (Ne.symm changes)

/-- A held key whose release is intercepted was consumed. -/
theorem Held.not_intercepted
    (held : Held st key) (changes : st.pressedKeys key ≠ status) :
    shortcutIntercepts st key status = false := by
  rw [shortcutIntercepts, held.2, held.released changes]
  rfl

theorem inRange_update
    (inRange : ∀ entry, st.pressedKeys entry = true →
      entry < config.totalKeyCount)
    (keyInRange : key < config.totalKeyCount)
    (pressed : next.pressedKeys = Function.update st.pressedKeys key status) :
    ∀ entry, next.pressedKeys entry = true →
      entry < config.totalKeyCount := by
  intro entry up
  by_cases same : entry = key
  · rw [same]
    exact keyInRange
  · rw [pressed, Function.update_of_ne same] at up
    exact inRange entry up

theorem Unstuck.stored (unstuck : Unstuck config st) (value : UInt16) :
    Unstuck config (storeKeyValue config st key value) := by
  rcases storeKeyValue_eq config st key value with
    ⟨notified, outputs, same, handed⟩
  rw [same]
  exact
    { normal := unstuck.normal
      cached :=
        ⟨unstuck.cached.layer1, unstuck.cached.layer2, unstuck.cached.fn⟩
      inRange := unstuck.inRange
      pressed := unstuck.pressed
      second := unstuck.second
      third := unstuck.third
      report := unstuck.report
      handed := handed.trans unstuck.handed }

/-- A transition that passes leaves the consumed keys pressed. -/
theorem Unstuck.pressed_noted
    (unstuck : Unstuck config st)
    (passes : shortcutIntercepts st key status = false) :
    ∀ entry, st.shortcutConsumedKeys entry = true →
      Function.update st.pressedKeys key status entry = true := by
  intro entry consumed
  have different : entry ≠ key := by
    rintro rfl
    exact
      absurd ((unconsumed_of_passes passes).symm.trans consumed)
        Bool.false_ne_true
  rw [Function.update_of_ne different]
  exact unstuck.pressed entry consumed

/-- A transition is as clean after its value is stored as before. -/
theorem CleanTransition.stored
    (clean : CleanTransition st key status) (value : UInt16) :
    CleanTransition (storeKeyValue config st key value) key status := by
  rcases storeKeyValue_eq config st key value with ⟨notified, outputs, same, _⟩
  rw [same]
  constructor
  · intro layers passes routed
    rw [shortcutIntercepts_withValue] at passes
    exact clean.hidden layers passes routed
  · intro released passes
    rw [shortcutIntercepts_withValue] at passes
    exact clean.kept released passes

/-- An intercepted transition keeps the invariant. -/
theorem Unstuck.intercepted
    (unstuck : Unstuck config st)
    (inRange : key < config.totalKeyCount)
    (changes : st.pressedKeys key ≠ status)
    (intercepted : shortcutIntercepts st key status = true)
    (stepped : processKeyTransition config env st key status = next)
    (normal : next.activeMode = .normal) :
    Unstuck config next := by
  rcases processKeyTransition_intercepted env inRange intercepted with
    ⟨ran, ⟨⟨settings, activeMode, outputs, rfl⟩, keys, handed⟩, processed⟩
  subst stepped
  rw [processed] at normal ⊢
  have keeps :
      ∀ {other}, Held st other →
        Held
          (KbhRuntimeState.setConsumed
            { notedState st key status with
              settings := settings
              activeMode := activeMode
              outputs := outputs } key status) other := by
    intro other held
    have different : other ≠ key := by
      rintro rfl
      rw [held.not_intercepted changes] at intercepted
      cases intercepted
    exact held.other different rfl (Function.update_of_ne different _ _)
  refine
    { normal := normal
      cached := ?_
      inRange := inRange_update unstuck.inRange inRange rfl
      pressed := ?_
      second := ?_
      third := ?_
      report := ?_
      handed := ?_ }
  · have mappings : settings.mappingsLayer1 = st.settings.mappingsLayer1 :=
      keys.mappingsLayer1
    constructor
    · intro entry listed
      exact (congrFun mappings entry).trans (unstuck.cached.layer1 entry listed)
    · intro entry listed
      exact (congrFun mappings entry).trans (unstuck.cached.layer2 entry listed)
    · intro entry listed
      exact (congrFun mappings entry).trans (unstuck.cached.fn entry listed)
  · intro entry consumed
    change Function.update st.shortcutConsumedKeys key status entry = true
      at consumed
    change Function.update st.pressedKeys key status entry = true
    by_cases same : entry = key
    · subst same
      rw [Function.update_self] at consumed ⊢
      exact consumed
    · rw [Function.update_of_ne same] at consumed ⊢
      exact unstuck.pressed entry consumed
  · intro active
    rcases unstuck.second active with ⟨other, listed, held⟩
    exact ⟨other, listed, keeps held⟩
  · intro active
    rcases unstuck.third active with ⟨other, listed, held⟩
    exact ⟨other, listed, keeps held⟩
  · intro nonzero
    rcases unstuck.report nonzero with ⟨other, listed, held⟩
    exact ⟨other, listed, keeps held⟩
  · have noted :
        lastKbReport (notedState st key status).outputs =
          lastKbReport st.outputs :=
      lastKbReport_append_other rfl
    exact handed.trans (noted.trans unstuck.handed)

/-- Some other key of the list is held, if the list's own key is let go. -/
def Replaces
    (st : KbhRuntimeState) (key : Nat) (list : KeyList) : Prop :=
  list.contains key = true →
    ∃ other, other ≠ key ∧ list.contains other = true ∧ Held st other

theorem Replaces.witness
    {list : KeyList} (replaces : Replaces st key list)
    (held : ∃ other, list.contains other = true ∧ Held st other) :
    ∃ other, other ≠ key ∧ list.contains other = true ∧ Held st other := by
  rcases held with ⟨other, listed, held⟩
  by_cases same : other = key
  · exact replaces (same ▸ listed)
  · exact ⟨other, same, listed, held⟩

/-- What a silent transition owes to the keys still held. -/
theorem replaces_of_silent
    (cached : Cached st) (clean : CleanTransition st key status)
    (passes : shortcutIntercepts st key status = false)
    (silent : routedLayers st key status = none) :
    Replaces st key st.layer1Keys ∧ Replaces st key st.layer2Keys ∧
      (st.fnKeys.contains key = false →
        ∃ other, other ≠ key ∧ st.fnKeys.contains other = false ∧
          Held st other) := by
  rcases routedLayers_none silent with
    ⟨first, released, twin⟩ | ⟨second, released, twin⟩ | ⟨first, second, fn⟩
  · have kept := (clean.kept released passes).1 first twin
    refine ⟨fun _ => kept, fun second => ?_, fun _ => ?_⟩
    · exact absurd second (cached.layer1_not_layer2 first)
    · rcases kept with ⟨other, different, listed, held⟩
      exact ⟨other, different, cached.layer1_not_fn listed, held⟩
  · have kept := (clean.kept released passes).2 second twin
    refine ⟨fun first => ?_, fun _ => kept, fun _ => ?_⟩
    · exact absurd second (cached.layer1_not_layer2 first)
    · rcases kept with ⟨other, different, listed, held⟩
      exact ⟨other, different, cached.layer2_not_fn listed, held⟩
  · refine ⟨fun listed => absurd listed first, fun listed => absurd listed second,
      fun notFn => ?_⟩
    rw [fn] at notFn
    cases notFn

/-- A silent transition keeps the invariant. -/
theorem Unstuck.silent
    (unstuck : Unstuck config st)
    (inRange : key < config.totalKeyCount)
    (clean : CleanTransition st key status)
    (passes : shortcutIntercepts st key status = false)
    (silent : routedLayers st key status = none) :
    Unstuck config (notedState st key status) := by
  have keeps :
      ∀ {other}, other ≠ key → Held st other →
        Held (notedState st key status) other :=
    fun different held => held.other different rfl rfl
  rcases replaces_of_silent unstuck.cached clean passes silent with
    ⟨first, second, report⟩
  refine
    { normal := unstuck.normal
      cached :=
        ⟨unstuck.cached.layer1, unstuck.cached.layer2, unstuck.cached.fn⟩
      inRange := inRange_update unstuck.inRange inRange rfl
      pressed := unstuck.pressed_noted passes
      second := ?_
      third := ?_
      report := ?_
      handed := (lastKbReport_append_other rfl).trans unstuck.handed }
  · intro active
    rcases first.witness (unstuck.second active) with
      ⟨other, different, listed, held⟩
    exact ⟨other, listed, keeps different held⟩
  · intro active
    rcases second.witness (unstuck.third active) with
      ⟨other, different, listed, held⟩
    exact ⟨other, listed, keeps different held⟩
  · intro nonzero
    rcases unstuck.report nonzero with ⟨other, listed, held⟩
    by_cases same : other = key
    · rcases report (same ▸ listed) with ⟨twin, different, notFn, twinHeld⟩
      exact ⟨twin, notFn, keeps different twinHeld⟩
    · exact ⟨other, listed, keeps same held⟩

/-- The flags a rebuilt report uses are backed by held layer keys. -/
theorem layers_backed
    (unstuck : Unstuck config st)
    (passes : shortcutIntercepts st key status = false)
    {layers : Bool × Bool}
    (routed : routedLayers st key status = some layers) :
    (layers.1 = true →
        ∃ other, st.layer1Keys.contains other = true ∧
          Held (notedState st key status) other) ∧
      (layers.2 = true →
        ∃ other, st.layer2Keys.contains other = true ∧
          Held (notedState st key status) other) := by
  have unconsumed : st.shortcutConsumedKeys key = false :=
    unconsumed_of_passes passes
  have itself : status = true → Held (notedState st key status) key := by
    rintro rfl
    exact ⟨Function.update_self _ _ _, unconsumed⟩
  have before :
      ∀ {list : KeyList}, ¬ list.contains key = true →
        (∃ other, list.contains other = true ∧ Held st other) →
          ∃ other, list.contains other = true ∧
            Held (notedState st key status) other := by
    rintro list unlisted ⟨other, listed, held⟩
    have different : other ≠ key := by
      rintro rfl
      exact unlisted listed
    exact ⟨other, listed, held.other different rfl rfl⟩
  rcases routedLayers_some routed with
    ⟨first, rfl⟩ | ⟨first, second, rfl⟩ | ⟨first, second, rfl⟩
  · refine ⟨fun up => ⟨key, first, itself up⟩, fun active => ?_⟩
    exact
      before (unstuck.cached.layer1_not_layer2 first) (unstuck.third active)
  · exact
      ⟨fun active => before first (unstuck.second active),
        fun up => ⟨key, second, itself up⟩⟩
  · exact
      ⟨fun active => before first (unstuck.second active),
        fun active => before second (unstuck.third active)⟩

/-- FN keys show on a layer only. -/
theorem layer_of_shown_fn
    {layers : Bool × Bool} {other : Nat} {pressedKeys : Nat → Bool}
    (cached : Cached st) (fn : st.fnKeys.contains other = true)
    (shows : Shows st.settings pressedKeys layers.1 layers.2 other) :
    layers.1 = true ∨ layers.2 = true := by
  by_contra neither
  push Not at neither
  have base :
      resolveHid st.settings other layers.1 layers.2 = keyFn := by
    rw [resolveHid, if_neg neither.2, if_neg neither.1]
    exact cached.fn other fn
  have reported := shows.2.2
  rw [base] at reported
  exact absurd reported (by decide)

/-- A transition which rebuilds the report keeps the invariant. -/
theorem Unstuck.rebuilt
    (unstuck : Unstuck config st)
    (inRange : key < config.totalKeyCount)
    (clean : CleanTransition st key status)
    (passes : shortcutIntercepts st key status = false)
    {layers : Bool × Bool}
    (routed : routedLayers st key status = some layers) :
    Unstuck config
      (reportTransition config
        (withLayers (notedState st key status) layers)) := by
  have backed := layers_backed unstuck passes routed
  have cached : Cached (notedState st key status) :=
    ⟨unstuck.cached.layer1, unstuck.cached.layer2, unstuck.cached.fn⟩
  rw [reportTransition, if_pos (.inl unstuck.normal), sendKbReportIfChanged]
  rcases sendKbReport_eq (withLayers (notedState st key status) layers)
      (buildKbReport config st.settings
        (Function.update st.pressedKeys key status) layers.1 layers.2) with
    ⟨outputs, sent, handed⟩
  change
    Unstuck config
      (sendKbReport (withLayers (notedState st key status) layers)
        (buildKbReport config st.settings
          (Function.update st.pressedKeys key status) layers.1 layers.2))
  rw [sent]
  refine
    { normal := unstuck.normal
      cached := ⟨cached.layer1, cached.layer2, cached.fn⟩
      inRange := inRange_update unstuck.inRange inRange rfl
      pressed := unstuck.pressed_noted passes
      second := backed.1
      third := backed.2
      report := ?_
      handed :=
        handed ((lastKbReport_append_other rfl).trans unstuck.handed) }
  · intro nonzero
    rcases shows_of_buildKbReport_ne_zero nonzero with ⟨other, _, shows⟩
    have free : st.shortcutConsumedKeys other = false := by
      rw [← Bool.not_eq_true]
      intro consumed
      exact clean.hidden layers passes routed other consumed shows
    by_cases fn : st.fnKeys.contains other = true
    · rcases layer_of_shown_fn unstuck.cached fn shows with active | active
      · rcases backed.1 active with ⟨held, listed, isHeld⟩
        exact ⟨held, unstuck.cached.layer1_not_fn listed, isHeld⟩
      · rcases backed.2 active with ⟨held, listed, isHeld⟩
        exact ⟨held, unstuck.cached.layer2_not_fn listed, isHeld⟩
    · exact ⟨other, Bool.eq_false_of_not_eq_true fn, shows.1, free⟩

/-- A clean transition keeps the invariant. -/
theorem Unstuck.transition
    (unstuck : Unstuck config st)
    (inRange : key < config.totalKeyCount)
    (changes : st.pressedKeys key ≠ status)
    (clean : CleanTransition st key status)
    (normal :
      (processKeyTransition config env st key status).activeMode = .normal) :
    Unstuck config (processKeyTransition config env st key status) := by
  cases passes : shortcutIntercepts st key status with
  | true => exact unstuck.intercepted inRange changes passes rfl normal
  | false =>
      have notRace : st.activeMode ≠ .race := by
        rw [unstuck.normal]
        decide
      rw [processKeyTransition_passed inRange notRace passes]
      cases routed : routedLayers st key status with
      | none => exact unstuck.silent inRange clean passes routed
      | some layers => exact unstuck.rebuilt inRange clean passes routed

/-- A clean call keeps the invariant. -/
theorem Unstuck.step
    {call : KeyValueCall}
    (unstuck : Unstuck config st) (clean : CleanCall st call)
    (stepped : normalStep config st call = some next) :
    Unstuck config next := by
  rw [normalStep] at stepped
  split_ifs at stepped with normal
  cases stepped
  rw [processKeyValue] at normal ⊢
  dsimp only at normal ⊢
  split_ifs at normal ⊢ with outside unchanged
  · exact unstuck
  · exact unstuck.stored call.value
  · rcases storeKeyValue_eq config st call.key call.value with
      ⟨notified, outputs, same, _⟩
    refine
      (unstuck.stored call.value).transition (by omega) ?_
        ((clean unchanged).stored call.value) normal
    rw [same]
    exact unchanged

end Steps

/-! ## Runs -/

/--
In every run of clean calls in NORMAL mode from the start of the handler
thread: once every key is released, the last keyboard report handed to the
transport is the empty one.
-/
theorem released_keys_leave_empty_report
    (config : KbHandlerConfig) (settings : KbSettings)
    (normal : settings.mode = .normal)
    (calls : List KeyValueCall) (finish : KbhRuntimeState)
    (clean :
      StepsMeet (normalStep config) CleanCall (threadStart config settings)
        calls)
    (ran :
      run (normalStep config) (threadStart config settings) calls =
        some finish)
    (released :
      ∀ key < config.totalKeyCount, finish.pressedKeys key = false) :
    finish.prevKbReport = HidKbReport.zero ∧
      lastKbReport finish.outputs = some HidKbReport.zero := by
  have unstuck : Unstuck config finish :=
    run_preserves_of_stepsMeet
      (fun _ _ _ kept guard stepped => kept.step guard stepped)
      (threadStart_unstuck config normal) clean ran
  have empty : finish.prevKbReport = HidKbReport.zero := by
    by_contra nonzero
    rcases unstuck.report nonzero with ⟨key, _, held⟩
    have up := released key (unstuck.inRange key held.1)
    exact absurd (up.symm.trans held.1) Bool.false_ne_true
  exact ⟨empty, empty ▸ unstuck.handed⟩

/-! ## A key that stays in the report -/

/-- Keys 0, 1, 2 are FN, `A` and `B`. -/
def exampleConfig : KbHandlerConfig where
  keyCount := 3
  keyCountSlave := 0
  positive := by decide
  fits := by decide
  backlight := false
  reportRollover := false

def exampleSettings : KbSettings :=
  { plainSettings with
    mappingsLayer1 := fun key =>
      if key = 0 then keyFn else if key = 1 then 0x04 else 0x05 }

def exampleCall (key : Nat) (pressed : Bool) : KeyValueCall where
  env := ⟨⟨0, fun _ => false, fun _ => 0⟩, true⟩
  key := key
  value := if pressed then 1 else 0

/-- `A` is pressed under FN and outlives `B`, which is pressed after FN. -/
def stuckCalls : List KeyValueCall :=
  [exampleCall 0 true, exampleCall 1 true, exampleCall 0 false,
    exampleCall 2 true, exampleCall 2 false, exampleCall 1 false]

/-- `B` is pressed and released, then FN is tapped. -/
def cleanCalls : List KeyValueCall :=
  [exampleCall 2 true, exampleCall 2 false, exampleCall 0 true,
    exampleCall 0 false]

theorem clean_calls_leave_empty_report :
    ∃ finish,
      run (normalStep exampleConfig)
          (threadStart exampleConfig exampleSettings) cleanCalls =
        some finish ∧
      finish.prevKbReport = HidKbReport.zero ∧
      lastKbReport finish.outputs = some HidKbReport.zero := by
  have clean :
      StepsMeet (normalStep exampleConfig) CleanCall
        (threadStart exampleConfig exampleSettings) cleanCalls := by
    refine ⟨cleanCall_of_unconsumed fun _ => rfl, ?_⟩
    rintro _ ⟨⟩
    refine ⟨cleanCall_of_unconsumed fun _ => rfl, ?_⟩
    rintro _ ⟨⟩
    refine ⟨cleanCall_of_unconsumed fun _ => rfl, ?_⟩
    rintro _ ⟨⟩
    refine ⟨cleanCall_of_unconsumed fun _ => rfl, ?_⟩
    rintro _ ⟨⟩
    exact trivial
  exact
    ⟨_, rfl,
      released_keys_leave_empty_report exampleConfig exampleSettings rfl
        cleanCalls _ clean rfl (by decide)⟩

/-- It fails on `stuckCalls`: the last report still holds `A`. -/
theorem key_stuck_after_fn :
    ¬ (∀ (config : KbHandlerConfig) (settings : KbSettings)
        (calls : List KeyValueCall) (finish : KbhRuntimeState),
        settings.mode = .normal →
        run (normalStep config) (threadStart config settings) calls =
            some finish →
        (∀ key < config.totalKeyCount, finish.pressedKeys key = false) →
          lastKbReport finish.outputs = some HidKbReport.zero) := by
  intro always
  have ran :
      ∃ finish,
        run (normalStep exampleConfig)
            (threadStart exampleConfig exampleSettings) stuckCalls =
          some finish ∧
        (∀ key < exampleConfig.totalKeyCount,
          finish.pressedKeys key = false) ∧
        lastKbReport finish.outputs ≠ some HidKbReport.zero :=
    ⟨_, rfl, by decide, by decide⟩
  rcases ran with ⟨finish, ran, released, stuck⟩
  exact stuck (always exampleConfig exampleSettings stuckCalls finish rfl ran
    released)

end YkbFirmware.KbHandler.StuckKey
