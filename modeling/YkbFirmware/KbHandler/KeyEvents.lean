import YkbFirmware.Library.Bracketing
import YkbFirmware.KbHandler.KeyValues
import YkbFirmware.KbHandler.PressedKeys

/-!
# What subscribers hear of a key

`process_key_value` tells subscribers two things: that a key was pressed or
released, and how far it is pressed in percent.  Over every run of calls and
frames a key's presses and releases alternate, a release is consumed by FN
exactly if the press was, and the percentage is told exactly when it is not
the one told last.
-/

namespace YkbFirmware.KbHandler.KeyEvents

open YkbFirmware.Library.Bracketing
open YkbFirmware.Library.TransitionSystem
open YkbFirmware.KbHandler.Settings
open YkbFirmware.KbHandler.Report
open YkbFirmware.KbHandler.Core
open YkbFirmware.KbHandler.Frames
open YkbFirmware.KbHandler.Transition
open YkbFirmware.KbHandler.PressedKeys
open YkbFirmware.KbHandler.StuckKey
open YkbFirmware.KbHandler.KeyValues

/-! ## Notifications -/

/-- The `on_event` calls for a key. -/
def eventsOf (key : Nat) (outputs : List KbhOutput) : List Bool :=
  outputs.filterMap fun output =>
    match output with
    | .onEvent other pressed => if other = key then some pressed else none
    | _ => none

/-- The `on_new_value` calls. -/
def percents (outputs : List KbhOutput) : List (Nat × UInt16) :=
  outputs.filterMap fun output =>
    match output with
    | .onNewValue key pressPercent => some (key, pressPercent)
    | _ => none

/-- The percentage told last for a key, 0 if none was. -/
def lastPercent (key : Nat) (outputs : List KbhOutput) : UInt16 :=
  (((percents outputs).filter fun told => told.1 = key).getLast?.map
    Prod.snd).getD 0

/-- The `kb_settings_apply` calls. -/
def applies (outputs : List KbhOutput) : List KbSettings :=
  outputs.filterMap fun output =>
    match output with
    | .settingsApply settings => some settings
    | _ => none

/-- A call which is no notification of a key. -/
def Unheard : KbhOutput → Prop
  | .onEvent _ _ => False
  | .onNewValue _ _ => False
  | _ => True

section Lists

variable {outputs others : List KbhOutput} {key : Nat}

theorem eventsOf_append :
    eventsOf key (outputs ++ others) =
      eventsOf key outputs ++ eventsOf key others :=
  List.filterMap_append

theorem percents_append :
    percents (outputs ++ others) = percents outputs ++ percents others :=
  List.filterMap_append

theorem applies_append :
    applies (outputs ++ others) = applies outputs ++ applies others :=
  List.filterMap_append

/-- Calls that are no notifications leave the notifications alone. -/
theorem notifications_unheard (unheard : ∀ output ∈ others, Unheard output) :
    eventsOf key (outputs ++ others) = eventsOf key outputs ∧
      percents (outputs ++ others) = percents outputs := by
  rw [eventsOf_append, percents_append]
  constructor
  · rw [eventsOf.eq_def key others, List.filterMap_eq_nil_iff.mpr,
      List.append_nil]
    intro output member
    cases output with
    | onEvent => exact (unheard _ member).elim
    | onNewValue | settingsApply | sendKbReport | sendMouseReport => rfl
  · rw [percents.eq_def others, List.filterMap_eq_nil_iff.mpr,
      List.append_nil]
    intro output member
    cases output with
    | onNewValue => exact (unheard _ member).elim
    | onEvent | settingsApply | sendKbReport | sendMouseReport => rfl

end Lists

/-! ## One call -/

section Definitions

variable
    (config : KbHandlerConfig) (st : KbhRuntimeState)
    (key : Nat) (value : UInt16)

/-- The notification of the percentage, if it is not the one told last. -/
def valueNotice : List KbhOutput :=
  let pressPercent := keyPressPercent config st.settings key value
  if key ≥ config.totalKeyCount ∨ st.notifiedPressPercent key = pressPercent
  then
    []
  else
    [.onNewValue key pressPercent]

/-- The notification of the transition, if the value makes one. -/
def eventNotice : List KbhOutput :=
  if key < config.totalKeyCount ∧ st.pressedKeys key ≠ reached st key value
  then
    [.onEvent key (reached st key value)]
  else
    []

/-- What a call tells subscribers, and what else it calls. -/
def CallsOut (outputs : List KbhOutput) : Prop :=
  ∃ rest,
    outputs =
        st.outputs ++ valueNotice config st key value ++
            eventNotice config st key value ++
          rest ∧
      ∀ output ∈ rest, Unheard output

end Definitions

section Calls

variable
    {config : KbHandlerConfig} {env : KbhEnvironment}
    {st next : KbhRuntimeState} {key : Nat} {value : UInt16}

theorem storeKeyValue_outputs :
    (storeKeyValue config st key value).outputs =
      st.outputs ++ valueNotice config st key value := by
  rw [storeKeyValue, notifyValueIfChanged, valueNotice]
  dsimp only
  split_ifs
  · exact (List.append_nil _).symm
  · rfl

theorem notedValue_outputs (changes : Changes config st key value) :
    (notedValue config st key value).outputs =
      st.outputs ++ valueNotice config st key value ++
        eventNotice config st key value := by
  rw [eventNotice, if_pos ⟨changes.inRange, changes.differs⟩,
    ← storeKeyValue_outputs]
  rfl

theorem callsOut_notedValue (changes : Changes config st key value) :
    CallsOut config st key value (notedValue config st key value).outputs :=
  ⟨[], by rw [notedValue_outputs changes, List.append_nil],
    fun _ member => absurd member List.not_mem_nil⟩

theorem CallsOut.append
    {outputs others : List KbhOutput}
    (calls : CallsOut config st key value outputs)
    (unheard : ∀ output ∈ others, Unheard output) :
    CallsOut config st key value (outputs ++ others) := by
  rcases calls with ⟨rest, rfl, quiet⟩
  refine ⟨rest ++ others, List.append_assoc _ _ _, ?_⟩
  intro output member
  exact (List.mem_append.mp member).elim (quiet output) (unheard output)

/-- A shortcut calls `kb_settings_apply` at most. -/
theorem runFnShortcut_outputs (shortcut : KbFnShortcut) :
    (runFnShortcut config env st shortcut).outputs =
      st.outputs ++
        ((executeFnAction config env.slots shortcut st.settings).map
          KbhOutput.settingsApply).toList := by
  rw [runFnShortcut]
  cases executeFnAction config env.slots shortcut st.settings with
  | none => exact (List.append_nil _).symm
  | some changed =>
      dsimp only
      split_ifs <;> rfl

/-- A transition that rebuilds the report sends it at most. -/
theorem reportTransition_outputs :
    ∃ rest, (reportTransition config st).outputs = st.outputs ++ rest ∧
      ∀ output ∈ rest, ∃ report prio, output = .sendKbReport report prio := by
  rw [reportTransition]
  split_ifs
  · rw [sendKbReportIfChanged, sendKbReport]
    dsimp only
    split_ifs
    · exact ⟨[], (List.append_nil _).symm, by simp⟩
    · exact ⟨[_], rfl, by simp⟩
  · exact ⟨[], (List.append_nil _).symm, by simp⟩

/-- Each call notifies subscribers of its percentage and transition only. -/
theorem callsOut_keyValue (step : KeyValueStep config env st key value next) :
    CallsOut config st key value next.outputs := by
  cases step with
  | outside out =>
      refine ⟨[], ?_, by simp⟩
      rw [valueNotice, eventNotice, if_pos (.inl out),
        if_neg fun inside => absurd inside.1 out.not_gt]
      simp
  | steady _ same =>
      refine ⟨[], ?_, by simp⟩
      rw [storeKeyValue_outputs, eventNotice,
        if_neg fun changes => changes.2 same]
      simp
  | consumed changes => exact callsOut_notedValue changes
  | unmatched looks => exact callsOut_notedValue looks.changes
  | @shortcut looks shortcut found =>
      change
        CallsOut config st key value
          (runFnShortcut config env (notedValue config st key value)
            shortcut).outputs
      rw [runFnShortcut_outputs]
      apply (callsOut_notedValue looks.changes).append
      intro output member
      rcases Option.map_eq_some_iff.mp (Option.mem_toList.mp member) with
        ⟨changed, _, rfl⟩
      exact trivial
  | race passes | silent passes => exact callsOut_notedValue passes.changes
  | @rebuilt passes _ layers =>
      rcases @reportTransition_outputs config
          (withLayers (notedValue config st key value) layers) with
        ⟨rest, outputs, reports⟩
      rw [outputs]
      apply (callsOut_notedValue passes.changes).append
      intro output member
      rcases reports output member with ⟨report, prio, rfl⟩
      exact trivial

theorem eventsOf_valueNotice {other : Nat} :
    eventsOf other (valueNotice config st key value) = [] := by
  rw [valueNotice]
  split_ifs <;> rfl

theorem eventsOf_eventNotice {other : Nat} :
    eventsOf other (eventNotice config st key value) =
      if key = other ∧ key < config.totalKeyCount ∧
          st.pressedKeys key ≠ reached st key value then
        [reached st key value]
      else
        [] := by
  rw [eventNotice]
  by_cases same : key = other
  · simp only [same, true_and]
    split_ifs
    · simp [eventsOf]
    · rfl
  · simp only [same, false_and, if_false]
    split_ifs
    · simp [eventsOf, same]
    · rfl

theorem percents_eventNotice :
    percents (eventNotice config st key value) = [] := by
  rw [eventNotice]
  split_ifs <;> rfl

/-- What the calls of one key value tell. -/
theorem CallsOut.notifications
    {outputs : List KbhOutput}
    (calls : CallsOut config st key value outputs) (other : Nat) :
    eventsOf other outputs =
        eventsOf other st.outputs ++
          (if key = other ∧ key < config.totalKeyCount ∧
              st.pressedKeys key ≠ reached st key value then
            [reached st key value]
          else
            []) ∧
      percents outputs =
        percents st.outputs ++
          percents (valueNotice config st key value) := by
  rcases calls with ⟨rest, rfl, unheard⟩
  rw [(@notifications_unheard _ _ other unheard).1,
    (@notifications_unheard _ _ other unheard).2, eventsOf_append,
    eventsOf_append, percents_append, percents_append,
    eventsOf_valueNotice, eventsOf_eventNotice, percents_eventNotice,
    List.append_nil, List.append_nil]
  exact ⟨rfl, rfl⟩

end Calls

/-! ## Presses and releases -/

section Logs

variable (config : KbHandlerConfig) (key : Nat) (st : KbhRuntimeState)

/--
The transition of the key an event makes, with what `maybe_handle_fn_shortcut`
answers to it.
-/
def transitionLog : HandlerEvent → List (Bool × Bool)
  | .keyValue env other value =>
      if other = key ∧ other < config.totalKeyCount ∧
          st.pressedKeys other ≠ reached st other value then
        let noted := notedValue config st other value
        [(reached st other value,
          (maybeHandleFnShortcut config env noted other
            (reached st other value) (noted.resolvedHid other)).isSome)]
      else
        []
  | .frameEnd _ => []
  | .slaveReset _ => []

/-- The press of the key that is not released yet, with its tag. -/
def pendingPress : Option Bool :=
  if st.pressedKeys key then some (st.shortcutConsumedKeys key) else none

end Logs

/-- `maybe_handle_fn_shortcut` handles what it intercepts. -/
theorem maybeHandleFnShortcut_isSome
    {config : KbHandlerConfig} {env : KbhEnvironment}
    {st : KbhRuntimeState} {key : Nat} {value : UInt16} :
    (maybeHandleFnShortcut config env (notedValue config st key value) key
        (reached st key value)
        ((notedValue config st key value).resolvedHid key)).isSome =
      shortcutIntercepts st key (reached st key value) := by
  rcases storeKeyValue_eq config st key value with
    ⟨notified, outputs, stored, _⟩
  have same :
      shortcutIntercepts (storeKeyValue config st key value) key
          (reached st key value) =
        shortcutIntercepts st key (reached st key value) := by
    rw [stored, shortcutIntercepts_withValue]
  rw [notedValue]
  cases intercepts :
      shortcutIntercepts st key (reached st key value) with
  | true =>
      rcases maybeHandleFnShortcut_intercepted (same.trans intercepts) with
        ⟨ran, _, handled⟩
      rw [handled, Option.isSome_some]
  | false =>
      rw [maybeHandleFnShortcut_passed (same.trans intercepts)]
      rfl

/-! ## The invariant -/

/-- What has been told of a key agrees with its state and with the log. -/
structure Heard
    (config : KbHandlerConfig) (settings : KbSettings) (key : Nat)
    (st : KbhRuntimeState) (log : List (Bool × Bool)) : Prop where
  keys : SameKeys settings st.settings
  bracketed : Bracketed (pendingPress key st) log
  events : eventsOf key st.outputs = log.map Prod.fst
  told : st.notifiedPressPercent key = lastPercent key st.outputs
  held : st.shortcutConsumedKeys key = true → st.pressedKeys key = true

/-- The events of runs in which no slave reset happens. -/
def NoReset : HandlerEvent → Prop
  | .slaveReset _ => False
  | _ => True

section Invariant

variable
    {config : KbHandlerConfig} {settings : KbSettings}
    {env : KbhEnvironment} {st next : KbhRuntimeState}
    {key other : Nat} {value : UInt16} {log : List (Bool × Bool)}

theorem threadStart_heard :
    Heard config settings key (threadStart config settings) [] where
  keys := .refl settings
  bracketed := .nil
  events := rfl
  told := rfl
  held := fun consumed => consumed

/-- A percentage that is told is the last one of its key. -/
theorem lastPercent_append
    {outputs : List KbhOutput} (pressPercent : UInt16) :
    lastPercent key (outputs ++ [.onNewValue other pressPercent]) =
      if other = key then pressPercent else lastPercent key outputs := by
  rw [lastPercent, percents_append, List.filter_append]
  by_cases same : other = key
  · rw [if_pos same]
    simp [percents, same]
  · rw [if_neg same]
    simp [percents, same, lastPercent]

theorem lastPercent_congr
    {outputs others : List KbhOutput}
    (same : percents outputs = percents others) :
    lastPercent key outputs = lastPercent key others := by
  rw [lastPercent, same, lastPercent]

/-- After a call the percentage noted is still the one told last. -/
theorem told_keyValue
    (told : st.notifiedPressPercent other = lastPercent other st.outputs)
    (step : KeyValueStep config env st key value next) :
    next.notifiedPressPercent other = lastPercent other next.outputs := by
  have heard := ((callsOut_keyValue step).notifications other).2
  rw [← percents_append] at heard
  rw [lastPercent_congr heard]
  by_cases inRange : key < config.totalKeyCount
  · rw [keyValue_notifiedPressPercent inRange step, valueNotice]
    by_cases unchanged :
        st.notifiedPressPercent key =
          keyPressPercent config st.settings key value
    · rw [if_pos (.inr unchanged), List.append_nil,
        Function.update_eq_self_iff.mpr unchanged.symm]
      exact told
    · rw [if_neg (not_or.mpr ⟨inRange.not_ge, unchanged⟩),
        lastPercent_append, Function.update_apply]
      simp only [eq_comm, told]
  · rw [valueNotice, if_pos (.inl (Nat.not_lt.mp inRange)), List.append_nil]
    cases step with
    | outside => exact told
    | steady inside => exact absurd inside inRange
    | consumed changes => exact absurd changes.inRange inRange
    | unmatched looks | shortcut looks =>
        exact absurd looks.changes.inRange inRange
    | race passes | silent passes | rebuilt passes =>
        exact absurd passes.changes.inRange inRange

/-- One entry of the pressed keys after a call. -/
theorem keyValue_pressed_apply
    (env : KbhEnvironment) (st : KbhRuntimeState) (value : UInt16) :
    (processKeyValue config env st key value).1.pressedKeys other =
      if key = other ∧ key < config.totalKeyCount then
        reached st key value
      else
        st.pressedKeys other := by
  by_cases inRange : key < config.totalKeyCount
  · rw [(processKeyValue_moved env st value inRange).pressedKeys,
      Function.update_apply]
    simp only [inRange, and_true, eq_comm]
    rfl
  · rw [processKeyValue, if_pos (Nat.not_lt.mp inRange),
      if_neg fun both => inRange both.2]

/-- One entry of the consumed keys after a call. -/
theorem keyValue_consumed_apply
    (step : KeyValueStep config env st key value next) :
    next.shortcutConsumedKeys other =
      if key = other ∧ key < config.totalKeyCount ∧
          st.pressedKeys key ≠ reached st key value then
        reached st key value &&
          shortcutIntercepts st key (reached st key value)
      else
        st.shortcutConsumedKeys other := by
  by_cases changes : Changes config st key value
  · rw [keyValue_shortcutConsumedKeys changes step, Function.update_apply]
    simp only [changes.inRange, changes.differs, ne_eq, not_false_eq_true,
      and_true, eq_comm]
  · rw [keyValue_shortcutConsumedKeys_of_not changes step, if_neg]
    exact fun both => changes ⟨both.2.1, both.2.2⟩

/-- A transition closes or opens a press of its key. -/
theorem bracketed_changes
    (changes : Changes config st key value)
    (pressed : next.pressedKeys key = reached st key value)
    (consumed :
      next.shortcutConsumedKeys key =
        (reached st key value &&
          shortcutIntercepts st key (reached st key value)))
    (bracketed : Bracketed (pendingPress key st) log) :
    Bracketed (pendingPress key next)
      (log ++
        [(reached st key value,
          shortcutIntercepts st key (reached st key value))]) := by
  have differs := changes.differs
  rw [pendingPress] at bracketed ⊢
  rw [pressed, consumed]
  cases down : reached st key value with
  | true =>
      have up : st.pressedKeys key = false := by
        rw [down] at differs
        exact Bool.eq_false_of_not_eq_true differs
      rw [up] at bracketed
      exact .opened bracketed _
  | false =>
      have up : st.pressedKeys key = true := by
        rw [down] at differs
        exact Bool.eq_true_of_not_eq_false differs
      have tag :
          shortcutIntercepts st key false = st.shortcutConsumedKeys key := by
        rw [shortcutIntercepts, Bool.false_and, Bool.false_and,
          Bool.or_false]
      rw [up] at bracketed
      rw [tag]
      exact .closed bracketed

theorem Heard.keyValue
    (heard : Heard config settings other st log) (env : KbhEnvironment)
    (key : Nat) (value : UInt16) :
    Heard config settings other (processKeyValue config env st key value).1
      (log ++ transitionLog config other st (.keyValue env key value)) := by
  have step := @processKeyValue_step config st key value env
  have events := ((callsOut_keyValue step).notifications other).1
  have pressed := @keyValue_pressed_apply config key other env st value
  have consumed := @keyValue_consumed_apply config env st _ key other value step
  have keys :
      SameKeys settings (processKeyValue config env st key value).1.settings := by
    by_cases inRange : key < config.totalKeyCount
    · exact
        heard.keys.trans (processKeyValue_moved env st value inRange).keys
    · rw [processKeyValue, if_pos (Nat.not_lt.mp inRange)]
      exact heard.keys
  rw [transitionLog]
  by_cases moves :
      key = other ∧ key < config.totalKeyCount ∧
        st.pressedKeys key ≠ reached st key value
  · rcases moves with ⟨rfl, inRange, differs⟩
    rw [if_pos ⟨rfl, inRange⟩] at pressed
    rw [if_pos ⟨rfl, inRange, differs⟩] at consumed events ⊢
    dsimp only
    rw [maybeHandleFnShortcut_isSome]
    refine
      { keys := keys
        bracketed :=
          bracketed_changes ⟨inRange, differs⟩ pressed consumed
            heard.bracketed
        events := ?_
        told := told_keyValue heard.told step
        held := ?_ }
    · rw [events, heard.events, List.map_append]
      rfl
    · rw [pressed, consumed, Bool.and_eq_true]
      exact And.left
  · rw [if_neg moves, List.append_nil] at events ⊢
    rw [if_neg moves] at consumed
    have same :
        (processKeyValue config env st key value).1.pressedKeys other =
          st.pressedKeys other := by
      rw [pressed]
      split_ifs with inRange
      · by_contra differs
        rcases inRange with ⟨rfl, inRange⟩
        exact moves ⟨rfl, inRange, Ne.symm differs⟩
      · rfl
    refine
      { keys := keys
        bracketed := ?_
        events := events.trans heard.events
        told := told_keyValue heard.told step
        held := ?_ }
    · rw [pendingPress, same, consumed]
      exact heard.bracketed
    · rw [same, consumed]
      exact heard.held

/-- Only calls that tell no key are made in between. -/
def Quiet (before after : KbhRuntimeState) : Prop :=
  ∃ rest, after.outputs = before.outputs ++ rest ∧
    ∀ output ∈ rest, Unheard output

theorem Quiet.emit
    {output : KbhOutput} (quiet : Quiet st next) (unheard : Unheard output) :
    Quiet st (next.emit output) := by
  rcases quiet with ⟨rest, same, quiet⟩
  refine ⟨rest ++ [output], ?_, ?_⟩
  · rw [KbhRuntimeState.emit, same, List.append_assoc]
  · simpa [or_imp, forall_and, unheard] using quiet

theorem Quiet.sendMouseReportIfChanged
    (quiet : Quiet st next) (nowMs : Int) :
    Quiet st (sendMouseReportIfChanged next nowMs) := by
  rw [Frames.sendMouseReportIfChanged]
  dsimp only
  split_ifs
  · exact quiet.emit trivial
  · exact quiet

theorem Quiet.sendKbReport
    (quiet : Quiet st next) (report : HidKbReport) :
    Quiet st (sendKbReport next report) := by
  rw [Core.sendKbReport]
  dsimp only
  split_ifs
  · exact quiet
  · exact quiet.emit trivial

theorem Quiet.sendRaceReportIfChanged
    (quiet : Quiet st next) :
    Quiet st (sendRaceReportIfChanged config next) := by
  have raced :
      Quiet st
        { next with
          racePressedKeys := fun key =>
            decide ((raceChoice config next).maxIndex = some key) } :=
    quiet
  exact raced.sendKbReport _

theorem finishValueFrame_quiet (nowMs : Int) :
    Quiet st (finishValueFrame config st nowMs) := by
  apply finishValueFrame_keeps
  · exact fun _ quiet => quiet.sendMouseReportIfChanged nowMs
  · exact fun _ quiet => quiet.sendRaceReportIfChanged
  · exact ⟨[], (List.append_nil _).symm, by simp⟩

theorem Heard.frameEnd
    (heard : Heard config settings key st log) (nowMs : Int) :
    Heard config settings key (finishValueFrame config st nowMs) log := by
  rcases @finishValueFrame_quiet config st nowMs with
    ⟨rest, outputs, unheard⟩
  have same := @notifications_unheard st.outputs rest key unheard
  rw [← outputs] at same
  rcases @finishValueFrame_frameKept config st nowMs with
    ⟨_, _, _, _, _, _, _, _, kept⟩
  have told := heard.told.trans (lastPercent_congr same.2.symm)
  have events := same.1.trans heard.events
  rw [kept] at told events ⊢
  exact
    { keys := heard.keys
      bracketed := heard.bracketed
      events := events
      told := told
      held := heard.held }

theorem Heard.step
    {event : HandlerEvent}
    (heard : Heard config settings key st log) (noReset : NoReset event)
    (stepped : handlerStep config st event = some next) :
    Heard config settings key next
      (log ++ transitionLog config key st event) := by
  cases event with
  | keyValue env other value =>
      cases stepped
      exact heard.keyValue env other value
  | frameEnd nowMs =>
      cases stepped
      rw [transitionLog, List.append_nil]
      exact heard.frameEnd nowMs
  | slaveReset => exact noReset.elim

theorem heard_of_run
    {events : List HandlerEvent}
    (noReset : ∀ event ∈ events, NoReset event)
    (ran :
      run (handlerStep config) (threadStart config settings) events =
        some st) :
    Heard config settings key st
      (collected (handlerStep config) (transitionLog config key)
        (threadStart config settings) events) :=
  run_preserves_collected
    (fun _ _ _ _ heard allowed stepped => heard.step allowed stepped)
    threadStart_heard noReset ran

end Invariant

/-! ## Percentages -/

/-- Part of a span, scaled and rounded, is at most the scale. -/
theorem scaled_le
    {active span : UInt32} (scaleMax : UInt16)
    (part : active ≤ span) (short : span.toNat < 2 ^ 16) (positive : span ≠ 0) :
    ((active * scaleMax.toUInt32 + span / 2) / span).toUInt16 ≤ scaleMax := by
  have scale := scaleMax.toNat_lt
  have active_le : active.toNat ≤ span.toNat := UInt32.le_iff_toNat_le.mp part
  have span_pos : 0 < span.toNat := by
    rw [Nat.pos_iff_ne_zero]
    exact fun zero => positive (UInt32.toNat_inj.mp zero)
  have product :
      active.toNat * scaleMax.toNat ≤ span.toNat * scaleMax.toNat :=
    Nat.mul_le_mul_right _ active_le
  have bound : span.toNat * scaleMax.toNat ≤ (2 ^ 16 - 1) * (2 ^ 16 - 1) :=
    Nat.mul_le_mul (by omega) (by omega)
  have rounded :
      ((active * scaleMax.toUInt32 + span / 2) / span).toNat =
        (active.toNat * scaleMax.toNat + span.toNat / 2) / span.toNat := by
    have half : (span / 2).toNat = span.toNat / 2 := rfl
    rw [UInt32.toNat_div, UInt32.toNat_add, UInt32.toNat_mul,
      UInt16.toNat_toUInt32, half,
      @Nat.mod_eq_of_lt (active.toNat * scaleMax.toNat) _ (by omega),
      Nat.mod_eq_of_lt (by omega)]
  have quotient :
      (active.toNat * scaleMax.toNat + span.toNat / 2) / span.toNat ≤
        scaleMax.toNat := by
    rw [← Nat.lt_succ_iff, Nat.div_lt_iff_lt_mul span_pos, Nat.succ_mul]
    rw [Nat.mul_comm scaleMax.toNat]
    omega
  rw [UInt16.le_iff_toNat_le, UInt32.toNat_toUInt16, rounded]
  exact (Nat.mod_le _ _).trans quotient

/-- A scaled value is at most the scale. -/
theorem keyValueFromMinimumRangeScaled_le
    (currentValue minimum maximum deadzone scaleMax : UInt16) :
    keyValueFromMinimumRangeScaled currentValue minimum maximum deadzone
        scaleMax ≤
      scaleMax := by
  have none : (0 : UInt16) ≤ scaleMax := UInt16.zero_le
  rw [keyValueFromMinimumRangeScaled]
  dsimp only
  generalize capped :
    (if minimum.toUInt32 + deadzone.toUInt32 > maximum.toUInt32 then
      maximum.toUInt32
    else
      minimum.toUInt32 + deadzone.toUInt32) = baseline
  generalize clipped :
    (if currentValue > maximum then maximum else currentValue) = current
  have baseline_le : baseline ≤ maximum.toUInt32 := by
    rw [← capped]
    split_ifs with beyond
    · exact UInt32.le_refl _
    · exact UInt32.not_lt.mp beyond
  split_ifs with flat below zero
  · exact none
  · exact none
  · exact none
  · have upper := maximum.toNat_lt
    have order :
        baseline.toNat ≤ current.toNat ∧ current.toNat ≤ maximum.toNat := by
      rw [UInt32.not_le, UInt32.lt_iff_toNat_lt, UInt16.toNat_toUInt32] at below
      rw [UInt32.le_iff_toNat_le, UInt16.toNat_toUInt32] at baseline_le
      rw [← clipped]
      split_ifs with beyond
      · exact ⟨baseline_le, Nat.le_refl _⟩
      · rw [UInt16.not_lt, UInt16.le_iff_toNat_le] at beyond
        exact ⟨Nat.le_of_lt below, beyond⟩
    have lower : baseline ≤ current.toUInt32 := by
      rw [UInt32.le_iff_toNat_le, UInt16.toNat_toUInt32]
      exact order.1
    apply scaled_le scaleMax _ _ zero
    · rw [UInt32.le_iff_toNat_le, UInt32.toNat_sub_of_le _ _ lower,
        UInt32.toNat_sub_of_le _ _ baseline_le, UInt16.toNat_toUInt32,
        UInt16.toNat_toUInt32]
      omega
    · rw [UInt32.toNat_sub_of_le _ _ baseline_le, UInt16.toNat_toUInt32]
      omega

theorem keyPressPercent_le
    (config : KbHandlerConfig) (settings : KbSettings)
    (key : Nat) (value : UInt16) :
    keyPressPercent config settings key value ≤ kbHandlerPressPercentMax := by
  rw [keyPressPercent]
  split_ifs
  · exact UInt16.zero_le
  · exact keyValueFromMinimumRangeScaled_le _ _ _ _ _

theorem keyPressPercent_congr
    {config : KbHandlerConfig} {settings other : KbSettings}
    (keys : SameKeys settings other) (key : Nat) (value : UInt16) :
    keyPressPercent config other key value =
      keyPressPercent config settings key value := by
  simp only [keyPressPercent, scaledKeyValue, keys.minimums, keys.maximums,
    keys.deadzones]

/-! ## Shortcut actions -/

/--
A call applies no settings, or it is a press consumed by FN and applies those
of the one action of its shortcut.
-/
inductive ActsOnce
    (config : KbHandlerConfig) (env : KbhEnvironment)
    (st : KbhRuntimeState) (key : Nat) (next : KbhRuntimeState) : Prop where
  | idle (settings : next.settings = st.settings)
      (same : applies next.outputs = applies st.outputs)
  | acts (up : st.pressedKeys key = false)
      (down : next.pressedKeys key = true)
      (consumed : next.shortcutConsumedKeys key = true)
      {shortcut : KbFnShortcut}
      (found :
        findFnShortcut st.settings (st.resolvedHid key) = some shortcut)
      (executed :
        executeFnAction config env.slots shortcut st.settings =
          some next.settings)
      (once :
        applies next.outputs = applies st.outputs ++ [next.settings])

section Actions

variable
    {config : KbHandlerConfig} {env : KbhEnvironment}
    {st next : KbhRuntimeState} {key : Nat} {value : UInt16}

theorem applies_notedValue :
    applies (notedValue config st key value).outputs = applies st.outputs := by
  change applies ((storeKeyValue config st key value).outputs ++ [_]) = _
  rw [applies_append, storeKeyValue_outputs, applies_append, valueNotice]
  split_ifs <;> simp [applies]

theorem actsOnce_keyValue
    (step : KeyValueStep config env st key value next) :
    ActsOnce config env st key next := by
  cases step with
  | outside => exact .idle rfl rfl
  | steady =>
      apply ActsOnce.idle
      · rcases storeKeyValue_eq config st key value with ⟨_, _, same, _⟩
        rw [same]
        rfl
      · rw [storeKeyValue_outputs, applies_append, valueNotice]
        split_ifs <;> simp [applies]
  | consumed | unmatched =>
      exact .idle notedValue_settings applies_notedValue
  | race | silent => exact .idle notedValue_settings applies_notedValue
  | @shortcut looks shortcut found =>
      have up : st.pressedKeys key = false := by
        have differs := looks.changes.differs
        rw [looks.down] at differs
        exact Bool.eq_false_of_not_eq_true differs
      have outputs :=
        @runFnShortcut_outputs config env (notedValue config st key value)
          shortcut
      rw [notedValue_settings] at outputs
      cases executed :
          executeFnAction config env.slots shortcut st.settings with
      | none =>
          have unchanged :
              runFnShortcut config env (notedValue config st key value)
                  shortcut =
                notedValue config st key value := by
            rw [runFnShortcut, notedValue_settings, executed]
          rw [unchanged]
          exact .idle notedValue_settings applies_notedValue
      | some changed =>
          have settings :
              (runFnShortcut config env (notedValue config st key value)
                  shortcut).settings =
                changed := by
            rw [runFnShortcut, notedValue_settings, executed]
            dsimp only
            split_ifs <;> rfl
          rw [executed] at outputs
          refine .acts up ?_ (Function.update_self _ _ _) found ?_ ?_
          · rcases @runFnShortcut_run config env
                (notedValue config st key value) shortcut with
              ⟨⟨_, _, _, ran⟩, _, _⟩
            rw [ran]
            change (notedValue config st key value).pressedKeys key = true
            rw [notedValue_pressedKeys, Function.update_self, looks.down]
          · exact executed.trans (congrArg some settings.symm)
          · change
              applies
                  (runFnShortcut config env (notedValue config st key value)
                    shortcut).outputs =
                applies st.outputs ++
                  [(runFnShortcut config env (notedValue config st key value)
                    shortcut).settings]
            rw [outputs, settings, applies_append, applies_notedValue]
            rfl
  | @rebuilt _ _ layers =>
      rcases @reportTransition_outputs config
          (withLayers (notedValue config st key value) layers) with
        ⟨rest, outputs, reports⟩
      apply ActsOnce.idle
      · rcases @reportTransition_frameKept config
            (withLayers (notedValue config st key value) layers) with
          ⟨_, _, _, _, _, _, _, _, kept⟩
        rw [kept]
        exact notedValue_settings
      · rw [outputs, applies_append]
        have none : applies rest = [] := by
          apply List.filterMap_eq_nil_iff.mpr
          intro output member
          rcases reports output member with ⟨report, prio, rfl⟩
          rfl
        rw [none, List.append_nil]
        exact applies_notedValue

end Actions

/-! ## Runs -/

/--
What was told of a key over a run: its presses and releases take turns, and
`maybe_handle_fn_shortcut` handles a release exactly if it handled the press.
-/
structure FaithfulHistory
    (key : Nat) (st : KbhRuntimeState) (log : List (Bool × Bool)) : Prop where
  events : eventsOf key st.outputs = log.map Prod.fst
  alternates : Alternates (eventsOf key st.outputs)
  matched : ∀ index (inside : 2 * index + 1 < log.length),
    log[2 * index + 1].2 = log[2 * index].2
  held : st.shortcutConsumedKeys key = true → st.pressedKeys key = true

/-- What one more call does to its key and tells of it. -/
structure FaithfulCall
    (config : KbHandlerConfig) (settings : KbSettings) (env : KbhEnvironment)
    (st : KbhRuntimeState) (key : Nat) (value : UInt16)
    (next : KbhRuntimeState) : Prop where
  pressed : next.pressedKeys key = decide (value ≥ settings.thresholds key)
  lastEvent :
    next.pressedKeys key = (eventsOf key next.outputs).getLast?.getD false
  told :
    percents next.outputs =
      percents st.outputs ++
        if keyPressPercent config settings key value =
            lastPercent key st.outputs then
          []
        else
          [(key, keyPressPercent config settings key value)]
  bounded : keyPressPercent config settings key value ≤ 100
  acts : ActsOnce config env st key next

section Runs

variable
    {config : KbHandlerConfig} {settings : KbSettings} {env : KbhEnvironment}
    {st : KbhRuntimeState} {key : Nat} {value : UInt16}
    {log : List (Bool × Bool)}

theorem Heard.history (heard : Heard config settings key st log) :
    FaithfulHistory key st log where
  events := heard.events
  alternates := by
    rw [heard.events]
    exact heard.bracketed.alternates
  matched := fun _ inside => heard.bracketed.matched inside
  held := heard.held

/-- The last notification of a key says whether it is pressed. -/
theorem Heard.lastEvent (heard : Heard config settings key st log) :
    st.pressedKeys key = (eventsOf key st.outputs).getLast?.getD false := by
  rw [heard.events, heard.bracketed.getLast, pendingPress]
  cases st.pressedKeys key <;> rfl

theorem Heard.call
    (heard : Heard config settings key st log)
    (inRange : key < config.totalKeyCount) :
    FaithfulCall config settings env st key value
      (processKeyValue config env st key value).1 := by
  have step := @processKeyValue_step config st key value env
  refine
    { pressed := ?_
      lastEvent := (heard.keyValue env key value).lastEvent
      told := ?_
      bounded := keyPressPercent_le config settings key value
      acts := actsOnce_keyValue step }
  · rw [keyValue_pressed_apply, if_pos ⟨rfl, inRange⟩, reached,
      heard.keys.thresholds]
  · rw [((callsOut_keyValue step).notifications key).2, valueNotice,
      heard.told, keyPressPercent_congr heard.keys]
    simp only [ge_iff_le, inRange.not_ge, false_or, eq_comm]
    split_ifs <;> rfl

end Runs

/--
For every run of calls and frames from the start of the handler thread: what
was told of each key is faithful, and so is what the next call tells.
-/
theorem key_events_faithful
    (config : KbHandlerConfig) (settings : KbSettings)
    (events : List HandlerEvent) (st : KbhRuntimeState)
    (noReset : ∀ event ∈ events, NoReset event)
    (ran :
      run (handlerStep config) (threadStart config settings) events =
        some st) :
    (∀ key,
        FaithfulHistory key st
          (collected (handlerStep config) (transitionLog config key)
            (threadStart config settings) events)) ∧
      ∀ env key value, key < config.totalKeyCount →
        FaithfulCall config settings env st key value
          (processKeyValue config env st key value).1 :=
  ⟨fun _ => (heard_of_run noReset ran).history,
    fun _ _ _ inRange => (heard_of_run noReset ran).call inRange⟩

/-- FN and `A` are pressed, then FN and `A` released. -/
def consumedTap : List HandlerEvent :=
  [(0, 1), (1, 1), (0, 0), (1, 0)].map fun (key, value) =>
    .keyValue ⟨⟨0, fun _ => false, fun _ => 0⟩, true⟩ key value

theorem key_events_faithful_consumed_tap :
    ∃ st,
      run (handlerStep exampleConfig)
          (threadStart exampleConfig exampleSettings) consumedTap =
        some st ∧
      FaithfulHistory 1 st [(true, true), (false, true)] := by
  refine ⟨_, rfl, ?_⟩
  refine
    (key_events_faithful exampleConfig exampleSettings consumedTap _ ?_
      rfl).1 1
  intro event member
  rcases List.mem_map.mp member with ⟨_, _, rfl⟩
  exact trivial

end YkbFirmware.KbHandler.KeyEvents
