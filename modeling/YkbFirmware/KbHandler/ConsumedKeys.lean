import YkbFirmware.KbHandler.CoreThread
import YkbFirmware.KbHandler.Effects
import YkbFirmware.KbHandler.KeyValues
import YkbFirmware.KbHandler.ReportCodes

/-!
# Consumed keys in reports

A key pressed under FN is consumed: neither of its edges reaches the report
logic.  Does it stay out of the reports that other keys cause?

`build_kb_report` reads `pressed_keys` alone, in which a consumed key is
pressed like any other, so every report rebuilt while it is held shows it.
A key event types no consumed key exactly if the consumed keys that are held
change nothing in the report it rebuilds, or if it sends none.
-/

namespace YkbFirmware.KbHandler.ConsumedKeys

open YkbFirmware.Library.TransitionSystem
open YkbFirmware.KbHandler.Settings
open YkbFirmware.KbHandler.Report
open YkbFirmware.KbHandler.ReportCodes
open YkbFirmware.KbHandler.Core
open YkbFirmware.KbHandler.Frames
open YkbFirmware.KbHandler.Transition
open YkbFirmware.KbHandler.Effects
open YkbFirmware.KbHandler.CoreThread
open YkbFirmware.KbHandler.StuckKey
open YkbFirmware.KbHandler.KeyValues

/-! ## Reports of key events -/

section Definitions

variable (config : KbHandlerConfig) (st : KbhRuntimeState)

/-- The pressed keys without those consumed by FN. -/
def unconsumedKeys (pressedKeys : Nat → Bool) (key : Nat) : Bool :=
  pressedKeys key && !st.shortcutConsumedKeys key

/-- The report `build_kb_report` would make of the unconsumed keys. -/
def unconsumedReport : HidKbReport :=
  buildKbReport config st.settings (unconsumedKeys st st.pressedKeys)
    st.secondLayerActive st.thirdLayerActive

/-- The keyboard reports a key event hands over, each beside that report. -/
def eventReports : HandlerEvent → List (HidKbReport × HidKbReport)
  | .keyValue env key value =>
      let next := (processKeyValue config env st key value).1
      ((kbSends next).drop (kbSends st).length).map fun send =>
        (send.1, unconsumedReport config next)
  | .frameEnd _ => []
  | .slaveReset _ => []

/-- The codes of some pressed keys with the layers in force. -/
def codesOf (layers : Bool × Bool) (pressedKeys : Nat → Bool) : List UInt8 :=
  typedCodes config.totalKeyCount st.settings pressedKeys layers.1 layers.2

/-- The keys pressed once the value is stored. -/
def pressedAfter (key : Nat) (value : UInt16) : Nat → Bool :=
  Function.update st.pressedKeys key (reached st key value)

/-- The value changes a key and rebuilds the report with these layers. -/
structure Rebuilds
    (key : Nat) (value : UInt16) (layers : Bool × Bool) : Prop where
  passes : Passes config st key value
  mode : st.activeMode = .normal ∨ st.activeMode = .mousesim
  routed : routedLayers st key (reached st key value) = some layers

/--
If a key event rebuilds the report, the host has that report already, or the
codes typed by consumed keys add nothing to it.
-/
def TypesNoConsumed : HandlerEvent → Prop
  | .keyValue _ key value =>
      ∀ layers, Rebuilds config st key value layers →
        let codes := codesOf config st layers (pressedAfter st key value)
        let others :=
          codesOf config st layers
            (unconsumedKeys st (pressedAfter st key value))
        st.prevKbReport = reportOf config.reportRollover codes ∨
          SameUsages config.reportRollover codes others
  | .frameEnd _ => True
  | .slaveReset _ => True

end Definitions

section Steps

variable
    {config : KbHandlerConfig} {env : KbhEnvironment}
    {st : KbhRuntimeState} {key : Nat} {value : UInt16}

/-! ## What is sent -/

theorem kbSends_sendKbReport (report : HidKbReport) :
    kbSends (sendKbReport st report) =
      kbSends st ++
        if report = st.prevKbReport then
          []
        else
          [(report, st.settings.kbhPrio)] := by
  rw [sendKbReport]
  split_ifs
  · exact (List.append_nil _).symm
  · exact List.filterMap_append

theorem kbSends_runFnShortcut (shortcut : KbFnShortcut) :
    kbSends (runFnShortcut config env st shortcut) = kbSends st := by
  rw [runFnShortcut]
  split
  · rfl
  · dsimp only
    split_ifs
    · exact kbSends_emit rfl
    · exact kbSends_emit rfl

theorem kbSends_notedValue :
    kbSends (notedValue config st key value) = kbSends st :=
  notedState_silent.sends.trans (storeKeyValue_silent value).sends

/-- Fewer pressed keys type a part of the codes. -/
theorem codesOf_subset
    {layers : Bool × Bool} {pressedKeys fewer : Nat → Bool}
    (subset : ∀ key, fewer key = true → pressedKeys key = true) :
    codesOf config st layers fewer ⊆ codesOf config st layers pressedKeys := by
  intro code
  simp only [codesOf, typedCodes, typed, List.mem_filter, List.mem_map,
    List.mem_range, Bool.and_eq_true]
  rintro ⟨⟨key, ⟨inRange, up, typedKey⟩, rfl⟩, reported⟩
  exact ⟨⟨key, ⟨inRange, subset key up, typedKey⟩, rfl⟩, reported⟩

/-- The report a key event rebuilds. -/
def rebuiltReport
    (config : KbHandlerConfig) (st : KbhRuntimeState)
    (key : Nat) (value : UInt16) (layers : Bool × Bool) : HidKbReport :=
  buildKbReport config st.settings (pressedAfter st key value) layers.1
    layers.2

theorem rebuiltReport_eq (layers : Bool × Bool) :
    rebuiltReport config st key value layers =
      reportOf config.reportRollover
        (codesOf config st layers (pressedAfter st key value)) := by
  rw [rebuiltReport, buildKbReport_eq_over, buildKbReportOver_eq]
  rfl

/-- A rebuilt report shows no consumed key if the usages are the same. -/
theorem rebuiltReport_agrees_iff (layers : Bool × Bool) :
    rebuiltReport config st key value layers =
        buildKbReport config st.settings
          (unconsumedKeys st (pressedAfter st key value)) layers.1
          layers.2 ↔
      SameUsages config.reportRollover
        (codesOf config st layers (pressedAfter st key value))
        (codesOf config st layers
          (unconsumedKeys st (pressedAfter st key value))) := by
  rw [rebuiltReport_eq, buildKbReport_eq_over, buildKbReportOver_eq]
  apply reportOf_eq_iff zero_not_mem_typedCodes
  apply codesOf_subset
  intro key up
  exact (Bool.and_eq_true_iff.mp up).1

/-- A rebuilt report is handed over if it changed. -/
theorem kbSends_rebuilt
    {layers : Bool × Bool}
    (mode : st.activeMode = .normal ∨ st.activeMode = .mousesim) :
    kbSends
        (reportTransition config
          (withLayers (notedValue config st key value) layers)) =
      kbSends st ++
        if rebuiltReport config st key value layers = st.prevKbReport then
          []
        else
          [(rebuiltReport config st key value layers,
            st.settings.kbhPrio)] := by
  have sameMode :
      (withLayers (notedValue config st key value) layers).activeMode =
        st.activeMode :=
    notedValue_activeMode
  rw [reportTransition, if_pos (sameMode ▸ mode), sendKbReportIfChanged,
    kbSends_sendKbReport]
  change kbSends (notedValue config st key value) ++ _ = _
  simp only [withLayers, notedValue_settings, notedValue_pressedKeys,
    notedValue_prevKbReport, kbSends_notedValue]
  rfl

/-- Beside a rebuilt report stands the one of the unconsumed keys. -/
theorem unconsumedReport_rebuilt (layers : Bool × Bool) :
    unconsumedReport config
        (reportTransition config
          (withLayers (notedValue config st key value) layers)) =
      buildKbReport config st.settings
        (unconsumedKeys st (pressedAfter st key value)) layers.1 layers.2 := by
  rcases @reportTransition_frameKept config
      (withLayers (notedValue config st key value) layers) with
    ⟨_, _, _, _, _, _, _, _, kept⟩
  rw [kept, unconsumedReport]
  simp only [withLayers, notedValue_settings, notedValue_pressedKeys]
  congr 1
  funext other
  simp [unconsumedKeys, pressedAfter]

theorem not_passes_of_looksUp (looks : LooksUp config st key value) :
    ¬ Passes config st key value := by
  intro passes
  have free := passes.passes
  rw [shortcutIntercepts, looks.unconsumed, looks.down, looks.fnActive,
    bne_iff_ne.mpr looks.notFn] at free
  cases free

/-- A call rebuilds the report, or hands over none. -/
theorem keyValue_sends
    {next : KbhRuntimeState}
    (step : KeyValueStep config env st key value next) :
    (kbSends next = kbSends st ∧
        ∀ layers, ¬ Rebuilds config st key value layers) ∨
      ∃ layers, Rebuilds config st key value layers ∧
        next =
          reportTransition config
            (withLayers (notedValue config st key value) layers) := by
  cases step with
  | outside out =>
      left
      exact
        ⟨rfl, fun _ rebuilds =>
          absurd rebuilds.passes.changes.inRange out.not_gt⟩
  | steady _ same =>
      left
      exact
        ⟨(storeKeyValue_silent value).sends, fun _ rebuilds =>
          rebuilds.passes.changes.differs same⟩
  | consumed _ consumed =>
      left
      refine
        ⟨(setConsumed_silent _).sends.trans kbSends_notedValue,
          fun _ rebuilds => ?_⟩
      have free := unconsumed_of_passes rebuilds.passes.passes
      exact absurd (free.symm.trans consumed) Bool.false_ne_true
  | unmatched looks =>
      left
      exact
        ⟨(setConsumed_silent _).sends.trans kbSends_notedValue,
          fun _ rebuilds => not_passes_of_looksUp looks rebuilds.passes⟩
  | shortcut looks =>
      left
      refine ⟨?_, fun _ rebuilds =>
        not_passes_of_looksUp looks rebuilds.passes⟩
      exact
        (setConsumed_silent _).sends.trans
          ((kbSends_runFnShortcut _).trans kbSends_notedValue)
  | race _ race =>
      left
      refine ⟨kbSends_notedValue, fun _ rebuilds => ?_⟩
      have mode := rebuilds.mode
      rw [race] at mode
      exact absurd mode (by decide)
  | silent _ _ routed =>
      left
      refine ⟨kbSends_notedValue, fun _ rebuilds => ?_⟩
      rw [rebuilds.routed] at routed
      cases routed
  | @rebuilt passes notRace layers routed =>
      by_cases mode : st.activeMode = .normal ∨ st.activeMode = .mousesim
      · exact .inr ⟨layers, ⟨passes, mode, routed⟩, rfl⟩
      · left
        refine ⟨?_, fun _ rebuilds => mode rebuilds.mode⟩
        rw [reportTransition, if_neg]
        · exact kbSends_notedValue
        · change
            ¬ ((notedValue config st key value).activeMode = .normal ∨
              (notedValue config st key value).activeMode = .mousesim)
          rw [notedValue_activeMode]
          exact mode

/-- What a rebuilt report owes to another one beside it. -/
theorem handed_agree_iff (report previous other : HidKbReport)
    (prio : KbhTransportPrio) :
    (∀ handed ∈
        (if report = previous then [] else [(report, prio)]).map
          fun send => (send.1, other),
      handed.1 = handed.2) ↔
      previous = report ∨ report = other := by
  split_ifs with same
  · exact
      iff_of_true (fun _ member => absurd member List.not_mem_nil)
        (.inl same.symm)
  · rw [List.map_cons, List.map_nil, List.forall_mem_singleton,
      or_iff_right (Ne.symm same)]

/-- A key event hands over no consumed key exactly if it types none. -/
theorem eventReports_agree_iff (event : HandlerEvent) :
    (∀ handed ∈ eventReports config st event, handed.1 = handed.2) ↔
      TypesNoConsumed config st event := by
  cases event with
  | keyValue env key value =>
      rw [eventReports, TypesNoConsumed]
      dsimp only
      rcases keyValue_sends (@processKeyValue_step config st key value env)
        with ⟨sends, never⟩ | ⟨layers, rebuilds, next⟩
      · rw [sends, List.drop_length]
        exact
          iff_of_true (fun _ member => absurd member List.not_mem_nil)
            fun layers rebuilds => absurd rebuilds (never layers)
      · have only :
            ∀ other, Rebuilds config st key value other → other = layers :=
          fun other others =>
            Option.some.inj (others.routed.symm.trans rebuilds.routed)
        rw [next, kbSends_rebuilt rebuilds.mode, List.drop_left,
          unconsumedReport_rebuilt]
        rw [handed_agree_iff, rebuiltReport_agrees_iff, rebuiltReport_eq]
        constructor
        · intro agree other others
          rw [only other others]
          exact agree
        · exact fun all => all layers rebuilds
  | frameEnd | slaveReset =>
      exact
        iff_of_true (fun _ member => absurd member List.not_mem_nil) trivial

end Steps

/-! ## Runs -/

/--
An event of the handler, or an update of the settings by another thread, which
may come between any two of them.
-/
inductive UpdatedEvent where
  | handler (event : HandlerEvent)
  | settingsUpdate (settings : KbSettings)

section Updates

variable (config : KbHandlerConfig) (st : KbhRuntimeState)

def updatedStep : UpdatedEvent → Option KbhRuntimeState
  | .handler event => handlerStep config st event
  | .settingsUpdate settings => updateSettings config st settings

/-- An update hands over no report. -/
def updatedReports : UpdatedEvent → List (HidKbReport × HidKbReport)
  | .handler event => eventReports config st event
  | .settingsUpdate _ => []

def UpdateTypesNoConsumed : UpdatedEvent → Prop
  | .handler event => TypesNoConsumed config st event
  | .settingsUpdate _ => True

end Updates

/--
For every run from the start of the handler thread: each keyboard report a key
event hands over is the one of the unconsumed keys, if and only if every key
event of the run types no consumed key.
-/
theorem consumed_keys_hidden_iff
    (config : KbHandlerConfig) (settings : KbSettings)
    (events : List UpdatedEvent) :
    (∀ handed ∈
        collected (updatedStep config) (updatedReports config)
          (threadStart config settings) events,
      handed.1 = handed.2) ↔
      StepsMeet (updatedStep config) (UpdateTypesNoConsumed config)
        (threadStart config settings) events := by
  rw [forall_collected_iff]
  refine
    stepsMeet_congr (fun _ _ _ (always : True) _ => always)
      (fun st event _ => ?_) trivial
  cases event with
  | handler event => exact eventReports_agree_iff event
  | settingsUpdate settings =>
      exact
        iff_of_true (fun _ member => absurd member List.not_mem_nil) trivial

/-- The parts of an event of the core thread, which updates may come between. -/
def partsOf (config : KbHandlerConfig) :
    CoreEvent config → List UpdatedEvent
  | .keyValue slots key value =>
      [.handler (.keyValue (applying slots) key value)]
  | .frameEnd nowMs => [.handler (.frameEnd nowMs)]
  | .slaveValues slots nowMs values =>
      if config.keyCountSlave = 0 then
        []
      else
        (slaveValuesEvents config (fun index => applying (slots index)) nowMs
          values).map .handler
  | .slaveReset nowMs => [.handler (.slaveReset nowMs)]
  | .settingsUpdate settings => [.settingsUpdate settings]

section Parts

variable {config : KbHandlerConfig} {st next finish : KbhRuntimeState}

theorem run_handler (events : List HandlerEvent) :
    run (updatedStep config) st (events.map .handler) =
      run (handlerStep config) st events := by
  induction events generalizing st with
  | nil => rfl
  | cons event rest induction =>
      rw [List.map_cons, run_cons, run_cons]
      exact congrArg _ (funext fun next => induction)

theorem run_partsOf
    {event : CoreEvent config}
    (stepped : coreStep config st event = some next) :
    run (updatedStep config) st (partsOf config event) = some next := by
  cases event with
  | keyValue slots key value => exact stepped
  | frameEnd nowMs => exact stepped
  | slaveValues slots nowMs values =>
      rw [partsOf]
      split_ifs with slave
      · rw [coreStep, handleSlaveValues, if_pos slave] at stepped
        exact stepped
      · rw [run_handler, run_slaveValuesEvents slave]
        exact stepped
  | slaveReset nowMs => exact stepped
  | settingsUpdate settings =>
      rw [partsOf, run_cons, updatedStep]
      rw [coreStep] at stepped
      rw [stepped]
      rfl

/-- So every run of the core thread is one of these runs. -/
theorem run_coreEvents
    {events : List (CoreEvent config)}
    (ran : run (coreStep config) st events = some finish) :
    run (updatedStep config) st (events.flatMap (partsOf config)) =
      some finish :=
  run_refines (fun _ _ _ (always : True) _ => always)
    (fun _ _ _ _ stepped => run_partsOf stepped) trivial ran

end Parts

/-! ## Hidden keys -/

/-- Consumed keys that do not show add no usage. -/
theorem sameUsages_of_hidden
    {config : KbHandlerConfig} {st : KbhRuntimeState}
    {key : Nat} {value : UInt16} {layers : Bool × Bool}
    (hidden : HidesConsumed st key (reached st key value) layers) :
    SameUsages config.reportRollover
      (codesOf config st layers (pressedAfter st key value))
      (codesOf config st layers
        (unconsumedKeys st (pressedAfter st key value))) := by
  have same :
      codesOf config st layers (pressedAfter st key value) =
        codesOf config st layers
          (unconsumedKeys st (pressedAfter st key value)) := by
    rw [codesOf, codesOf, typedCodes, typedCodes, List.filter_map,
      List.filter_map, List.filter_filter, List.filter_filter]
    congr 1
    apply List.filter_congr
    intro other _
    have silent := hidden other
    rw [Shows, ← pressedAfter] at silent
    cases consumed : st.shortcutConsumedKeys other with
    | false => simp [typed, unconsumedKeys, consumed]
    | true =>
        have never := silent consumed
        rw [Bool.eq_iff_iff]
        apply iff_of_false
        · simpa [typed, imp_iff_not_or, or_assoc, or_comm, or_left_comm]
            using never
        · simp [typed, unconsumedKeys, consumed]
  rw [same]
  exact ⟨fun _ _ => Iff.rfl, by split_ifs with overflow; exacts [overflow.1, rfl]⟩

/-- While consumed keys stay hidden, no event types one. -/
theorem typesNoConsumed_of_hidden
    {config : KbHandlerConfig} {st : KbhRuntimeState}
    {env : KbhEnvironment} {key : Nat} {value : UInt16}
    (hidden : ∀ layers, HidesConsumed st key (reached st key value) layers) :
    TypesNoConsumed config st (.keyValue env key value) :=
  fun layers _ => .inr (sameUsages_of_hidden (hidden layers))

/-! ## A consumed key that is typed -/

/-- `A` is pressed under FN and held; after FN is released, `B` is pressed. -/
def typedAfterFn : List HandlerEvent :=
  [(0, 1), (1, 1), (0, 0), (2, 1)].map fun (key, value) =>
    .keyValue ⟨⟨0, fun _ => false, fun _ => 0⟩, true⟩ key value

/-- It fails on `typedAfterFn`: `B` is reported together with `A`. -/
theorem consumed_key_typed :
    ¬ (∀ (config : KbHandlerConfig) (settings : KbSettings)
        (events : List HandlerEvent),
        ∀ handed ∈
            collected (handlerStep config) (eventReports config)
              (threadStart config settings) events,
          handed.1 = handed.2) := by
  intro always
  have agree := always exampleConfig exampleSettings typedAfterFn
  have differ :
      ¬ ∀ handed ∈
          collected (handlerStep exampleConfig) (eventReports exampleConfig)
            (threadStart exampleConfig exampleSettings) typedAfterFn,
        handed.1 = handed.2 := by
    decide
  exact differ agree

end YkbFirmware.KbHandler.ConsumedKeys
