import YkbFirmware.KbHandler.KeyValues
import YkbFirmware.KbHandler.PressedKeys

/-!
# Layer flags

Is a layer flag off whenever no key of its layer is pressed?

`handle_layer_key` clears the flag when the last key of the layer is
released, but four ways lead around it: a release that ends a consumption, a
release in race mode, a key the 8-bit count of the layer list dropped, and a
slave reset, which clears keys without looking at layers.  A release that
takes one of them as the last of its layer leaves the flag set.
-/

namespace YkbFirmware.KbHandler.LayerFlags

open YkbFirmware.Library.TransitionSystem
open YkbFirmware.KbHandler.Settings
open YkbFirmware.KbHandler.Core
open YkbFirmware.KbHandler.Frames
open YkbFirmware.KbHandler.Transition
open YkbFirmware.KbHandler.PressedKeys
open YkbFirmware.KbHandler.StuckKey
open YkbFirmware.KbHandler.KeyValues

/-! ## Layers -/

inductive Layer where
  | second
  | third
deriving DecidableEq, Repr

namespace Layer

/-- The base-layer code of the layer's keys. -/
def code : Layer → UInt8
  | second => keyLayer1
  | third => keyLayer2

/-- The layer's key list. -/
def keys (st : KbhRuntimeState) : Layer → KeyList
  | second => st.layer1Keys
  | third => st.layer2Keys

/-- The layer's flag. -/
def active (st : KbhRuntimeState) : Layer → Bool
  | second => st.secondLayerActive
  | third => st.thirdLayerActive

end Layer

section Flags

variable
    (config : KbHandlerConfig) (st : KbhRuntimeState) (layer : Layer)

/-- The key is in range and the base layer maps it to the layer's code. -/
def OfLayer (settings : KbSettings) (key : Nat) : Prop :=
  key < config.totalKeyCount ∧ settings.mappingsLayer1 key = layer.code

/-- With no key of the layer pressed, the flag is off. -/
def LayerReleased : Prop :=
  (∀ key, OfLayer config layer st.settings key →
    st.pressedKeys key = false) →
  layer.active st = false

/-- A layer's flag is off whenever no key of the layer is pressed. -/
def LayersReleased : Prop :=
  ∀ layer, LayerReleased config st layer

/-- The value releases the last pressed key of the layer. -/
structure ReleasesLast (key : Nat) (value : UInt16) : Prop where
  ofLayer : OfLayer config layer st.settings key
  pressed : st.pressedKeys key = true
  released : reached st key value = false
  last : ∀ other, other ≠ key → OfLayer config layer st.settings other →
    st.pressedKeys other = false

/-- A release of the key gets to `handle_layer_key` with the layer's flag. -/
structure Handled (key : Nat) : Prop where
  unconsumed : st.shortcutConsumedKeys key = false
  notRace : st.activeMode ≠ .race
  listed : (layer.keys st).contains key = true

/--
A release of the last key of an active layer is handled, and a slave reset
leaves a key of each active layer pressed.
-/
def ClearsLayers (st : KbhRuntimeState) : HandlerEvent → Prop
  | .keyValue _ key value =>
      ∀ layer : Layer, layer.active st = true →
        ReleasesLast config st layer key value → Handled st layer key
  | .frameEnd _ => True
  | .slaveReset _ =>
      ∀ layer : Layer, layer.active st = true →
        ∃ key, isSlaveKey config key = false ∧
          OfLayer config layer st.settings key ∧ st.pressedKeys key = true

end Flags

section Steps

variable
    {config : KbHandlerConfig} {settings : KbSettings}
    {env : KbhEnvironment} {st next : KbhRuntimeState}
    {layer : Layer} {key : Nat} {value : UInt16}

theorem layerReleased_iff :
    LayerReleased config st layer ↔
      (layer.active st = true →
        ∃ key, OfLayer config layer st.settings key ∧
          st.pressedKeys key = true) := by
  rw [LayerReleased, ← not_imp_not]
  simp

/-- A listed key is a key of the layer. -/
theorem Rooted.ofLayer
    (rooted : Rooted config settings st)
    (listed : (layer.keys st).contains key = true) :
    OfLayer config layer st.settings key := by
  have mappings := rooted.keys.mappingsLayer1
  cases layer with
  | second =>
      rw [Layer.keys, rooted.layer1Keys] at listed
      exact (layerKeys_contains listed).imp_right (congrFun mappings key).trans
  | third =>
      rw [Layer.keys, rooted.layer2Keys] at listed
      exact (layerKeys_contains listed).imp_right (congrFun mappings key).trans

/-- A key belongs to one layer. -/
theorem OfLayer.unique
    {other : Layer} (first : OfLayer config layer st.settings key)
    (second : OfLayer config other st.settings key) : layer = other := by
  have codes := first.2.symm.trans second.2
  cases layer <;> cases other
  · rfl
  · exact absurd codes (by decide)
  · exact absurd codes (by decide)
  · rfl

/--
If a value moves a key and leaves the flag, only the release of the layer's
last key can leave the flag without one.
-/
theorem layerReleased_moved
    (released : LayerReleased config st layer)
    (moved : Moved key (reached st key value) st next)
    (inRange : key < config.totalKeyCount)
    (active : layer.active next = layer.active st) :
    LayerReleased config next layer ↔
      (layer.active st = true → ¬ ReleasesLast config st layer key value) := by
  have mapped :
      ∀ other, OfLayer config layer next.settings other ↔
        OfLayer config layer st.settings other := by
    intro other
    rw [OfLayer, OfLayer, moved.keys.mappingsLayer1]
  rw [layerReleased_iff, active]
  apply imp_congr_right
  intro set
  simp only [mapped, moved.pressedKeys]
  constructor
  · rintro ⟨other, ofLayer, up⟩ releasing
    by_cases same : other = key
    · rw [same, Function.update_self, releasing.released] at up
      cases up
    · rw [Function.update_of_ne same] at up
      exact absurd ((releasing.last other same ofLayer).symm.trans up)
        Bool.false_ne_true
  · intro kept
    rcases layerReleased_iff.mp released set with ⟨held, ofLayer, up⟩
    by_contra none
    push Not at none
    have same : held = key := by
      by_contra different
      exact none held ofLayer (by rw [Function.update_of_ne different, up])
    subst same
    refine kept ⟨ofLayer, up, ?_, fun other different mapped => ?_⟩
    · have down := none held ofLayer
      rw [Function.update_self] at down
      exact Bool.eq_false_of_not_eq_true down
    · have down := none other mapped
      rw [Function.update_of_ne different] at down
      exact Bool.eq_false_of_not_eq_true down

/-- A way around `handle_layer_key`, which leaves the flag. -/
theorem layerReleased_unhandled
    (released : LayerReleased config st layer)
    (moved : Moved key (reached st key value) st next)
    (inRange : key < config.totalKeyCount)
    (active : layer.active next = layer.active st)
    (unhandled :
      ReleasesLast config st layer key value → ¬ Handled st layer key) :
    LayerReleased config next layer ↔
      (layer.active st = true → ReleasesLast config st layer key value →
        Handled st layer key) := by
  rw [layerReleased_moved released moved inRange active]
  apply imp_congr_right
  intro _
  exact
    ⟨fun never releasing => absurd releasing never,
      fun handled releasing => unhandled releasing (handled releasing)⟩

/-- The flag of the layer among those the report is rebuilt with. -/
def Layer.flag (layers : Bool × Bool) : Layer → Bool
  | second => layers.1
  | third => layers.2

/-- A rebuilt report follows a listed key and leaves other flags. -/
theorem routedLayers_flag
    (cached : Cached st) {status : Bool} {layers : Bool × Bool}
    (routed : routedLayers st key status = some layers) :
    layer.flag layers =
      if (layer.keys st).contains key = true then
        status
      else
        layer.active st := by
  rcases routedLayers_some routed with
    ⟨first, rfl⟩ | ⟨first, second, rfl⟩ | ⟨first, second, rfl⟩
  · cases layer with
    | second => exact (if_pos first).symm
    | third => exact (if_neg (cached.layer1_not_layer2 first)).symm
  · cases layer with
    | second => exact (if_neg first).symm
    | third => exact (if_pos second).symm
  · cases layer with
    | second => exact (if_neg first).symm
    | third => exact (if_neg second).symm

/-- A listed key whose release is silent is not the last of its layer. -/
theorem not_listed_of_silent
    (rooted : Rooted config settings st)
    (silent : routedLayers st key (reached st key value) = none)
    (releasing : ReleasesLast config st layer key value) :
    ¬ (layer.keys st).contains key = true := by
  have twin :
      ∀ other : Layer,
        (other.keys st).contains key = true →
        (other.keys st).anyOther key st.pressedKeys = true → False := by
    intro other listed twin
    rcases KeyList.anyOther_iff.mp twin with ⟨held, different, mapped, up⟩
    have same := (Rooted.ofLayer rooted listed).unique releasing.ofLayer
    subst same
    exact
      absurd
        ((releasing.last held different (Rooted.ofLayer rooted mapped)).symm.trans
          up)
        Bool.false_ne_true
  intro listed
  rcases routedLayers_none silent with
    ⟨first, _, held⟩ | ⟨second, _, held⟩ | ⟨first, second, _⟩
  · exact twin .second first held
  · exact twin .third second held
  · cases layer with
    | second => exact first listed
    | third => exact second listed

/-- What a key value does to one layer. -/
theorem layerReleased_keyValue
    (rooted : Rooted config settings st)
    (released : LayerReleased config st layer)
    (inRange : key < config.totalKeyCount)
    (moved : Moved key (reached st key value) st next)
    (step : KeyValueStep config env st key value next) :
    LayerReleased config next layer ↔
      (layer.active st = true → ReleasesLast config st layer key value →
        Handled st layer key) := by
  cases step with
  | outside out => exact absurd inRange out.not_gt
  | steady _ same =>
      apply layerReleased_unhandled released moved inRange
      · rcases storeKeyValue_eq config st key value with ⟨_, _, stored, _⟩
        rw [stored]
        cases layer <;> rfl
      · intro releasing
        rw [releasing.pressed, releasing.released] at same
        cases same
  | consumed _ consumed =>
      apply layerReleased_unhandled released moved inRange
      · cases layer <;> simp [Layer.active, KbhRuntimeState.setConsumed]
      · intro _ handled
        exact absurd (handled.unconsumed.symm.trans consumed) Bool.false_ne_true
  | unmatched looks =>
      apply layerReleased_unhandled released moved inRange
      · cases layer <;> simp [Layer.active, KbhRuntimeState.setConsumed]
      · intro releasing
        exact
          absurd (releasing.released.symm.trans looks.down) Bool.false_ne_true
  | @shortcut looks shortcut found =>
      apply layerReleased_unhandled released moved inRange
      · rcases @runFnShortcut_run config env
            (KeyValues.notedValue config st key value) shortcut with
          ⟨⟨_, _, _, ran⟩, _, _⟩
        rw [ran]
        cases layer <;> simp [Layer.active, KbhRuntimeState.setConsumed]
      · intro releasing
        exact
          absurd (releasing.released.symm.trans looks.down) Bool.false_ne_true
  | race _ race =>
      apply layerReleased_unhandled released moved inRange
      · cases layer <;> simp [Layer.active]
      · exact fun _ handled => handled.notRace race
  | silent _ _ routed =>
      apply layerReleased_unhandled released moved inRange
      · cases layer <;> simp [Layer.active]
      · intro releasing handled
        exact not_listed_of_silent rooted routed releasing handled.listed
  | rebuilt passes notRace routed =>
      rename_i layers
      have flags :
          layer.active
              (reportTransition config
                (withLayers (notedValue config st key value) layers)) =
            if (layer.keys st).contains key = true then
              reached st key value
            else
              layer.active st := by
        rw [← routedLayers_flag rooted.cached routed]
        rcases @reportTransition_frameKept config
            (withLayers (notedValue config st key value) layers) with
          ⟨_, _, _, _, _, _, _, _, kept⟩
        rw [kept]
        cases layer <;> rfl
      by_cases listed : (layer.keys st).contains key = true
      · rw [if_pos listed] at flags
        apply iff_of_true
        · rw [layerReleased_iff, flags]
          intro down
          refine ⟨key, ?_, ?_⟩
          · have ofLayer := Rooted.ofLayer rooted listed
            rw [OfLayer, moved.keys.mappingsLayer1]
            exact ofLayer
          · rw [moved.pressedKeys, Function.update_self, down]
        · exact fun _ _ => ⟨unconsumed_of_passes passes.passes, notRace, listed⟩
      · apply layerReleased_unhandled released moved inRange
        · rw [flags, if_neg listed]
        · exact fun _ handled => listed handled.listed

/-- Reports leave layers and keys alone. -/
theorem layerReleased_frameKept (kept : FrameKept st next) :
    LayerReleased config next layer ↔ LayerReleased config st layer := by
  rcases kept with ⟨_, _, _, _, _, _, _, _, rfl⟩
  cases layer <;> rfl

/-- A slave reset needs a key of each active layer that it does not clear. -/
theorem layerReleased_slaveReset
    (released : LayerReleased config st layer) (nowMs : Int) :
    LayerReleased config (handleSlaveKeysReset config st nowMs) layer ↔
      (layer.active st = true →
        ∃ key, isSlaveKey config key = false ∧
          OfLayer config layer st.settings key ∧
            st.pressedKeys key = true) := by
  by_cases slave : config.keyCountSlave = 0
  · rw [handleSlaveKeysReset, if_pos slave]
    refine iff_of_true released fun active => ?_
    rcases layerReleased_iff.mp released active with ⟨key, ofLayer, up⟩
    refine ⟨key, decide_eq_false fun isSlave => ?_, ofLayer, up⟩
    have bound : key < config.keyCount + config.keyCountSlave := isSlave.2
    omega
  · rw [layerReleased_frameKept (handleSlaveKeysReset_frameKept slave nowMs),
      layerReleased_iff]
    have cleared :
        ∀ key, (withoutSlaveKeys config st).pressedKeys key = true ↔
          isSlaveKey config key = false ∧ st.pressedKeys key = true := by
      intro key
      change clearSlaveKeys config st.pressedKeys false key = true ↔ _
      rw [clearSlaveKeys]
      split_ifs with isSlave
      · simp [isSlave]
      · simp [isSlave]
    have active :
        layer.active (withoutSlaveKeys config st) = layer.active st := by
      cases layer <;> rfl
    rw [active]
    simp only [cleared]
    apply imp_congr_right
    intro _
    apply exists_congr
    intro key
    exact and_left_comm

/-- A step keeps the flags exactly if it clears the layers it should. -/
theorem layersReleased_step
    {event : HandlerEvent}
    (rooted : Rooted config settings st)
    (released : LayersReleased config st)
    (stepped : handlerStep config st event = some next) :
    LayersReleased config next ↔ ClearsLayers config st event := by
  cases event with
  | keyValue env key value =>
      cases stepped
      by_cases inRange : key < config.totalKeyCount
      · apply forall_congr'
        intro layer
        exact
          layerReleased_keyValue rooted (released layer) inRange
            (processKeyValue_moved env st value inRange)
            (processKeyValue_step env)
      · have unchanged : (processKeyValue config env st key value).1 = st := by
          rw [processKeyValue, if_pos (Nat.not_lt.mp inRange)]
        rw [unchanged]
        refine iff_of_true released fun layer _ releasing => ?_
        exact absurd releasing.ofLayer.1 inRange
  | frameEnd nowMs =>
      cases stepped
      refine iff_of_true (fun layer => ?_) trivial
      exact
        (layerReleased_frameKept (finishValueFrame_frameKept nowMs)).mpr
          (released layer)
  | slaveReset nowMs =>
      cases stepped
      apply forall_congr'
      intro layer
      exact layerReleased_slaveReset (released layer) nowMs

end Steps

/-! ## Runs -/

/--
For every run from the start of the handler thread: the layer flags are off
whenever no key of their layer is pressed, in every state of the run, if and
only if every step clears the layers it should.
-/
theorem layers_released_iff
    (config : KbHandlerConfig) (settings : KbSettings)
    (events : List HandlerEvent) :
    Throughout (handlerStep config) (LayersReleased config)
        (threadStart config settings) events ↔
      StepsMeet (handlerStep config) (ClearsLayers config)
        (threadStart config settings) events := by
  rcases run_total (handlerStep_total config) (threadStart config settings)
      events with
    ⟨finish, ran⟩
  have initially : LayersReleased config (threadStart config settings) := by
    intro layer _
    cases layer <;> rfl
  rw [throughout_iff_stepsMeet_of_invariant
    (fun _ _ _ rooted stepped => Rooted.step rooted stepped)
    (fun _ _ _ rooted released stepped =>
      layersReleased_step rooted released stepped)
    threadStart_rooted ran]
  exact and_iff_right initially

/-! ## A layer that stays on -/

/-- Keys 0, 1 and 2 are FN, a key of the second layer and `A`; FN + `A` is RACE. -/
def layeredSettings : KbSettings :=
  { plainSettings with
    mappingsLayer1 := fun key =>
      if key = 0 then keyFn else if key = 1 then keyLayer1 else 0x04
    mappingsLayer2 := fun _ => 0x04
    fnShortcutsCount := 1
    fnShortcuts := fun _ => ⟨0x04, .modeRace, 0⟩ }

/-- The layer key is held while FN and `A` change to RACE, then released. -/
def raceUnderLayer : List HandlerEvent :=
  [(1, 1), (0, 1), (2, 1), (2, 0), (0, 0), (1, 0)].map
    fun (key, value) =>
      .keyValue ⟨⟨0, fun _ => false, fun _ => 0⟩, true⟩ key value

/-- It fails on `raceUnderLayer`: the second layer stays on. -/
theorem layer_stuck_after_race :
    ¬ (∀ (config : KbHandlerConfig) (settings : KbSettings)
        (events : List HandlerEvent) (finish : KbhRuntimeState),
        run (handlerStep config) (threadStart config settings) events =
            some finish →
          LayersReleased config finish) := by
  intro always
  have ran :
      ∃ finish,
        run (handlerStep exampleConfig)
            (threadStart exampleConfig layeredSettings) raceUnderLayer =
          some finish ∧
        (∀ key < exampleConfig.totalKeyCount,
          finish.pressedKeys key = false) ∧
        finish.secondLayerActive = true :=
    ⟨_, rfl, by decide, rfl⟩
  rcases ran with ⟨finish, ran, released, stuck⟩
  have off :=
    always exampleConfig layeredSettings raceUnderLayer finish ran .second
      fun key ofLayer => released key ofLayer.1
  exact absurd (off.symm.trans stuck) Bool.false_ne_true

end YkbFirmware.KbHandler.LayerFlags
