import YkbFirmware.KbHandler.Coalescing
import YkbFirmware.KbHandler.PressedKeys

/-!
# Slave keys after a reset

After `kb_handler_core_handle_slave_reset` no further values arrive.  Once
the queue is drained and no retry is pending, are the slave keys released?

The reset message carries no priority over values messages.  A values message
put after it, by the retry work or by the core thread which finds the dirty
flag set, is handled after it and presses the keys of the latest array again;
and a full queue drops the reset.  The file states when neither happens,
proves that the keys then are released, and exhibits a run in which an
accepted reset is undone by a retried values message.
-/

namespace YkbFirmware.KbHandler.SlaveReset

open YkbFirmware.Library.TransitionSystem
open YkbFirmware.KbHandler.Settings
open YkbFirmware.KbHandler.Core
open YkbFirmware.KbHandler.Frames
open YkbFirmware.KbHandler.PressedKeys
open YkbFirmware.KbHandler.SlaveAdapter
open YkbFirmware.KbHandler.Coalescing

variable
    {config : KbHandlerConfig} {capacity : Nat} {settings : KbSettings}
    {st next : AdapterState config} {event : AdapterEvent}

/-! ## Slave keys and the handled array -/

def SlaveReleased (st : AdapterState config) : Prop :=
  ∀ index : Fin config.keyCountSlave,
    st.core.pressedKeys (config.keyCount + index.val) = false

/-- Every value is below its key's threshold. -/
def BelowThresholds
    (settings : KbSettings) (slaveValues : SlaveValues config) : Prop :=
  ∀ index : Fin config.keyCountSlave,
    slaveValues index < settings.thresholds (config.keyCount + index.val)

/--
The settings keep their thresholds, and a slave key is pressed only if the
array handled last presses it.
-/
structure Tracks (settings : KbSettings) (st : AdapterState config) : Prop where
  keys : SameKeys settings st.core.settings
  pressed : ∀ index : Fin config.keyCountSlave,
    st.core.pressedKeys (config.keyCount + index.val) = true →
      ∃ slaveValues, st.handled = some slaveValues ∧
        slaveValues index ≥
          settings.thresholds (config.keyCount + index.val)

/-- Steps which leave the pressed slave keys and the handled array alone. -/
theorem Tracks.frame
    (tracks : Tracks settings st)
    (keys : SameKeys st.core.settings next.core.settings)
    (pressed : ∀ index : Fin config.keyCountSlave,
      next.core.pressedKeys (config.keyCount + index.val) =
        st.core.pressedKeys (config.keyCount + index.val))
    (handled : next.handled = st.handled) :
    Tracks settings next := by
  refine ⟨tracks.keys.trans keys, fun index up => ?_⟩
  rw [handled]
  exact tracks.pressed index ((pressed index).symm.trans up)

/-- The pressed keys, the settings and the handled array stay. -/
structure CoreKept (st next : AdapterState config) : Prop where
  pressedKeys : next.core.pressedKeys = st.core.pressedKeys
  settings : next.core.settings = st.core.settings
  handled : next.handled = st.handled

/-- The calls in progress and the latest array stay. -/
structure CallersKept (st next : AdapterState config) : Prop where
  callers : next.callers = st.callers
  latest : next.latestSlaveValues = st.latestSlaveValues

theorem Tracks.kept (tracks : Tracks settings st) (kept : CoreKept st next) :
    Tracks settings next :=
  tracks.frame (kept.settings ▸ .refl _)
    (fun _ => congrFun kept.pressedKeys _) kept.handled

theorem enqueue_kept
    {point : EnqueueAt} {enqueued : AdapterState config}
    {continues : Option EnqueueAt}
    (enqueue :
      enqueueSlaveValuesMsg capacity st point = (enqueued, continues)) :
    CoreKept st enqueued ∧ CallersKept st enqueued := by
  rcases enqueue_frame enqueue with ⟨queue, scheduled, rfl⟩
  exact ⟨⟨rfl, rfl, rfl⟩, ⟨rfl, rfl⟩⟩

theorem beginCall_kept
    {caller : Nat} {slaveValues : List UInt16}
    (stepped : beginCall st caller slaveValues = some next) :
    CoreKept st next := by
  rcases (beginCall_cases stepped).2 with ⟨accepted, _, rfl⟩ | rfl
  · exact ⟨rfl, rfl, rfl⟩
  · exact ⟨rfl, rfl, rfl⟩

theorem callerStep_kept
    {caller : Nat} (stepped : callerStep capacity st caller = some next) :
    CoreKept st next := by
  cases callerStep_cases stepped with
  | copy | mirror | raise | leave | claim => exact ⟨rfl, rfl, rfl⟩
  | enqueue enqueuing enqueue =>
      have kept := (enqueue_kept enqueue).1
      exact ⟨kept.pressedKeys, kept.settings, kept.handled⟩

theorem retryFires_kept (stepped : retryFires st = some next) :
    CoreKept st next ∧ CallersKept st next := by
  rcases retryFires_eq stepped with ⟨_, _, rfl⟩
  exact ⟨⟨rfl, rfl, rfl⟩, ⟨rfl, rfl⟩⟩

theorem retryStep_kept (stepped : retryStep capacity st = some next) :
    CoreKept st next ∧ CallersKept st next := by
  cases retryStep_cases stepped with
  | goOn | giveUp => exact ⟨⟨rfl, rfl, rfl⟩, ⟨rfl, rfl⟩⟩
  | enqueue enqueuing enqueue =>
      rcases enqueue_kept enqueue with ⟨core, callers⟩
      exact
        ⟨⟨core.pressedKeys, core.settings, core.handled⟩,
          ⟨callers.callers, callers.latest⟩⟩

theorem handleSlaveReset_kept :
    CoreKept st (handleSlaveReset capacity st) ∧
      CallersKept st (handleSlaveReset capacity st) := by
  rcases handleSlaveReset_cases capacity st with ⟨_, put⟩ | ⟨_, dropped⟩
  · rw [put]
    exact ⟨⟨rfl, rfl, rfl⟩, ⟨rfl, rfl⟩⟩
  · rw [dropped]
    exact ⟨⟨rfl, rfl, rfl⟩, ⟨rfl, rfl⟩⟩

/-- The core thread handles a reset, handles values, or does neither. -/
theorem consumerStep_kept
    {env : Nat → KbhEnvironment} {nowMs : Int}
    (stepped : consumerStep capacity st env nowMs = some next) :
    CallersKept st next ∧
      (CoreKept st next ∨
        (next.core = handleSlaveKeysReset config st.core nowMs ∧
          next.handled = st.handled) ∨
        ∃ slaveValues,
          next.core = handleSlaveValues config env nowMs st.core slaveValues ∧
            next.handled = some slaveValues) := by
  cases consumerStep_cases stepped with
  | takeReset | takeValues | clear | copy | release | seeDirty | seeClean
  | leave | claim =>
      exact ⟨⟨rfl, rfl⟩, .inl ⟨rfl, rfl, rfl⟩⟩
  | reset => exact ⟨⟨rfl, rfl⟩, .inr (.inl ⟨rfl, rfl⟩)⟩
  | handle => exact ⟨⟨rfl, rfl⟩, .inr (.inr ⟨_, rfl, rfl⟩)⟩
  | enqueue enqueuing enqueue =>
      rcases enqueue_kept enqueue with ⟨core, callers⟩
      exact
        ⟨⟨callers.callers, callers.latest⟩,
          .inl ⟨core.pressedKeys, core.settings, core.handled⟩⟩

/-- Slave keys are not local keys. -/
theorem localKey_pressed
    {env : KbhEnvironment} {key : Nat} {value : UInt16}
    (core : KbhRuntimeState) (isLocal : key < config.keyCount)
    (index : Fin config.keyCountSlave) :
    (processKeyValue config env core key value).1.pressedKeys
        (config.keyCount + index.val) =
      core.pressedKeys (config.keyCount + index.val) := by
  have inRange : key < config.totalKeyCount :=
    isLocal.trans_le (Nat.le_add_right _ _)
  rw [(processKeyValue_moved env core value inRange).pressedKeys]
  exact Function.update_of_ne (by omega) _ _

theorem Tracks.step
    (tracks : Tracks settings st)
    (stepped : adapterStep capacity st event = some next) :
    Tracks settings next := by
  cases event with
  | beginCall caller slaveValues => exact tracks.kept (beginCall_kept stepped)
  | caller caller => exact tracks.kept (callerStep_kept stepped)
  | slaveReset =>
      cases stepped
      exact tracks.kept handleSlaveReset_kept.1
  | consumer env nowMs =>
      rcases (consumerStep_kept stepped).2 with
        kept | ⟨core, handled⟩ | ⟨slaveValues, core, handled⟩
      · exact tracks.kept kept
      · refine ⟨?_, fun index up => ?_⟩
        · rw [core]
          exact tracks.keys.trans (handleSlaveKeysReset_cleared nowMs).1
        · rw [core, handleSlaveKeysReset_pressed] at up
          cases up
      · refine ⟨?_, fun index up => ⟨slaveValues, handled, ?_⟩⟩
        · rw [core]
          exact tracks.keys.trans handleSlaveValues_keys
        · rw [core, handleSlaveValues_pressed, decide_eq_true_eq,
            tracks.keys.thresholds] at up
          exact up
  | retryFires => exact tracks.kept (retryFires_kept stepped).1
  | retry => exact tracks.kept (retryStep_kept stepped).1
  | localKey env key value =>
      rcases localKey_eq stepped with ⟨_, isLocal, rfl⟩
      have inRange : key < config.totalKeyCount :=
        isLocal.trans_le (Nat.le_add_right _ _)
      exact
        tracks.frame (processKeyValue_moved env st.core value inRange).keys
          (localKey_pressed st.core isLocal) rfl
  | localFrameEnds nowMs =>
      rcases localFrameEnds_eq stepped with ⟨_, rfl⟩
      have unmoved := finishValueFrame_unmoved config st.core nowMs
      exact
        tracks.frame unmoved.keys (fun _ => congrFun unmoved.pressedKeys _) rfl

theorem tracks_of_reachable
    (reached :
      Reachable (adapterStep capacity) (adapterStart config settings) st) :
    Tracks settings st :=
  reached.invariant (fun _ _ _ tracks stepped => tracks.step stepped)
    ⟨.refl _, fun _ up => absurd up Bool.false_ne_true⟩

/-! ## Resets that take effect -/

/-- The core thread will not queue a values message by itself. -/
def Settling (st : AdapterState config) : Prop :=
  match st.consumer with
  | .idle => True
  | .resetting => True
  | .clearing => True
  | .copying => st.slaveValuesDirty = false
  | .handling _ => st.slaveValuesDirty = false
  | .releasing => st.slaveValuesDirty = false
  | .checking =>
      st.slaveValuesDirty = false ∨ st.slaveValuesMsgPending = true
  | .claiming => st.slaveValuesMsgPending = true
  | .enqueuing _ => False

/-- A reset is queued and no values message behind it. -/
def ResetLast (queue : List KbhThreadMsgType) : Prop :=
  ∃ before after,
    queue = before ++ .slaveKeysReset :: after ∧ ¬ .slaveValues ∈ after

/--
A reset event takes effect: the latest array presses no key, or the event is
queued (or another one is already queued behind every values message) and no
values message will be put after it.
-/
def TakesEffect
    (capacity : Nat) (settings : KbSettings) (st : AdapterState config) :
    Prop :=
  BelowThresholds settings st.latestSlaveValues ∨
    (st.kbhCoreMsgq.length < capacity ∨ ResetLast st.kbhCoreMsgq) ∧
      st.retryScheduled = false ∧ st.retry = .idle ∧ Settling st

/-- No call is in progress. -/
def NoCalls (st : AdapterState config) : Prop :=
  ∀ caller, st.callers caller = .outside

/-- The event does not begin a call. -/
def AdapterEvent.noCall : AdapterEvent → Prop
  | .beginCall _ _ => False
  | _ => True

/-- The queue is empty, no retry is pending and no message is being handled. -/
structure Drained (st : AdapterState config) : Prop where
  queue : st.kbhCoreMsgq = []
  scheduled : st.retryScheduled = false
  retry : st.retry = .idle
  consumer : st.consumer = .idle

/-! ## Runs without calls -/

/-- Without calls in progress or beginning, the latest array stays. -/
theorem noCall_step
    (noCalls : NoCalls st) (noCall : AdapterEvent.noCall event)
    (stepped : adapterStep capacity st event = some next) :
    CallersKept st next := by
  cases event with
  | beginCall => exact noCall.elim
  | caller caller =>
      simp only [adapterStep, callerStep, noCalls caller] at stepped
      cases stepped
  | slaveReset =>
      cases stepped
      exact handleSlaveReset_kept.2
  | consumer env nowMs => exact (consumerStep_kept stepped).1
  | retryFires => exact (retryFires_kept stepped).2
  | retry => exact (retryStep_kept stepped).2
  | localKey env key value =>
      rcases localKey_eq stepped with ⟨_, _, rfl⟩
      exact ⟨rfl, rfl⟩
  | localFrameEnds nowMs =>
      rcases localFrameEnds_eq stepped with ⟨_, rfl⟩
      exact ⟨rfl, rfl⟩

/-- No call is in progress and the latest array presses no key. -/
structure Calm (settings : KbSettings) (st : AdapterState config) : Prop where
  noCalls : NoCalls st
  below : BelowThresholds settings st.latestSlaveValues

theorem Calm.step
    (calm : Calm settings st) (noCall : AdapterEvent.noCall event)
    (stepped : adapterStep capacity st event = some next) :
    Calm settings next := by
  have kept := noCall_step calm.noCalls noCall stepped
  refine ⟨fun caller => ?_, ?_⟩
  · rw [kept.callers]
    exact calm.noCalls caller
  · rw [kept.latest]
    exact calm.below

/-- Drained, the slave keys are as the latest array has them: released. -/
theorem released_of_calm
    (slave : config.keyCountSlave ≠ 0)
    (reached :
      Reachable (adapterStep capacity) (adapterStart config settings) st)
    (calm : Calm settings st) (drained : Drained st) : SlaveReleased st := by
  intro index
  rw [← Bool.not_eq_true]
  intro up
  rcases (tracks_of_reachable reached).pressed index up with
    ⟨slaveValues, handled, above⟩
  have idle : NoValuesWork st :=
    { queue := by
        rw [drained.queue]
        exact List.not_mem_nil
      scheduled := drained.scheduled
      retry := drained.retry
      callers := calm.noCalls
      consumer := .inl drained.consumer }
  have latest :=
    (coalesced_of_reachable slave reached).handled_latest idle
      (.inr (by rw [handled]; simp))
  have same : slaveValues = st.latestSlaveValues :=
    Option.some.inj (handled.symm.trans latest)
  have below := calm.below index
  rw [← same] at below
  exact absurd above (UInt16.not_le.mpr below)

/-! ## Runs with the reset queued last -/

/-- The reset is queued behind every values message there will be. -/
def ResetAhead (st : AdapterState config) : Prop :=
  ResetLast st.kbhCoreMsgq ∧ Settling st

/-- The reset is being handled, or handled with no values message left. -/
def ResetTaken (st : AdapterState config) : Prop :=
  ¬ .slaveValues ∈ st.kbhCoreMsgq ∧
    (st.consumer = .resetting ∨ st.consumer = .idle ∧ SlaveReleased st)

/-- No call is in progress, no retry is pending, and a reset comes last. -/
structure Flushing (st : AdapterState config) : Prop where
  noCalls : NoCalls st
  scheduled : st.retryScheduled = false
  retry : st.retry = .idle
  phase : ResetAhead st ∨ ResetTaken st

theorem ResetLast.append_reset
    {queue : List KbhThreadMsgType} (last : ResetLast queue) :
    ResetLast (queue ++ [.slaveKeysReset]) := by
  rcases last with ⟨before, after, rfl, absent⟩
  refine ⟨before, after ++ [.slaveKeysReset], by simp, ?_⟩
  simpa using absent

theorem resetLast_append (queue : List KbhThreadMsgType) :
    ResetLast (queue ++ [.slaveKeysReset]) :=
  ⟨queue, [], rfl, List.not_mem_nil⟩

/-- The message at the head is the last reset itself or stands before it. -/
theorem ResetLast.tail
    {msg : KbhThreadMsgType} {rest : List KbhThreadMsgType}
    (last : ResetLast (msg :: rest)) :
    ResetLast rest ∨ msg = .slaveKeysReset ∧ ¬ .slaveValues ∈ rest := by
  rcases last with ⟨before, after, queue, absent⟩
  cases before with
  | nil =>
      cases queue
      exact .inr ⟨rfl, absent⟩
  | cons head before =>
      cases queue
      exact .inl ⟨before, after, rfl, absent⟩

theorem ResetLast.ne_nil
    {queue : List KbhThreadMsgType} (last : ResetLast queue) :
    queue ≠ [] := by
  rcases last with ⟨before, after, rfl, _⟩
  simp

/-- The retry work and its schedule stay. -/
structure RetryKept (st next : AdapterState config) : Prop where
  scheduled : next.retryScheduled = st.retryScheduled
  retry : next.retry = st.retry

/-- The core thread moves towards the reset, or takes it from the queue. -/
theorem ResetAhead.consumerStep
    {env : Nat → KbhEnvironment} {nowMs : Int} (ahead : ResetAhead st)
    (stepped : consumerStep capacity st env nowMs = some next) :
    RetryKept st next ∧ (ResetAhead next ∨ ResetTaken next) := by
  rcases ahead with ⟨last, settling⟩
  rw [Settling] at settling
  cases consumerStep_cases stepped with
  | takeReset idle queue =>
      rw [queue] at last
      rcases last.tail with further | ⟨_, absent⟩
      · exact ⟨⟨rfl, rfl⟩, .inl ⟨further, trivial⟩⟩
      · exact ⟨⟨rfl, rfl⟩, .inr ⟨absent, .inl rfl⟩⟩
  | @takeValues rest idle queue =>
      rw [queue] at last
      have further : ResetLast rest := by
        rcases last.tail with further | ⟨impossible, _⟩
        · exact further
        · cases impossible
      split_ifs
      · exact ⟨⟨rfl, rfl⟩, .inl ⟨further, trivial⟩⟩
      · exact ⟨⟨rfl, rfl⟩, .inl ⟨further, trivial⟩⟩
  | reset => exact ⟨⟨rfl, rfl⟩, .inl ⟨last, trivial⟩⟩
  | clear => exact ⟨⟨rfl, rfl⟩, .inl ⟨last, rfl⟩⟩
  | copy copying =>
      rw [copying] at settling
      exact ⟨⟨rfl, rfl⟩, .inl ⟨last, settling⟩⟩
  | handle handling =>
      rw [handling] at settling
      exact ⟨⟨rfl, rfl⟩, .inl ⟨last, settling⟩⟩
  | release releasing =>
      rw [releasing] at settling
      exact ⟨⟨rfl, rfl⟩, .inl ⟨last, .inl settling⟩⟩
  | seeDirty checking dirty =>
      rw [checking] at settling
      have pending :=
        settling.resolve_left fun clean =>
          Bool.false_ne_true (clean.symm.trans dirty)
      exact ⟨⟨rfl, rfl⟩, .inl ⟨last, pending⟩⟩
  | seeClean => exact ⟨⟨rfl, rfl⟩, .inl ⟨last, trivial⟩⟩
  | leave => exact ⟨⟨rfl, rfl⟩, .inl ⟨last, trivial⟩⟩
  | claim claiming free =>
      rw [claiming] at settling
      exact absurd (free.symm.trans settling) Bool.false_ne_true
  | enqueue enqueuing =>
      rw [enqueuing] at settling
      exact settling.elim

/-- Past the reset the core thread handles resets only. -/
theorem ResetTaken.consumerStep
    {env : Nat → KbhEnvironment} {nowMs : Int} (taken : ResetTaken st)
    (stepped : consumerStep capacity st env nowMs = some next) :
    RetryKept st next ∧ ResetTaken next := by
  rcases taken with ⟨absent, resetting | ⟨idle, _⟩⟩
  · simp only [SlaveAdapter.consumerStep, resetting] at stepped
    cases stepped
    exact
      ⟨⟨rfl, rfl⟩, absent,
        .inr ⟨rfl, fun index => handleSlaveKeysReset_pressed nowMs index⟩⟩
  · simp only [SlaveAdapter.consumerStep, idle] at stepped
    split at stepped
    · cases stepped
    · rename_i rest queue
      rw [queue] at absent
      cases stepped
      exact
        ⟨⟨rfl, rfl⟩,
          fun member => absent (List.mem_cons_of_mem _ member), .inl rfl⟩
    · rename_i rest queue
      rw [queue] at absent
      exact absurd List.mem_cons_self absent

/-- Resets put later do not disturb the phase. -/
theorem flushing_slaveReset
    (flushing : Flushing st) : Flushing (handleSlaveReset capacity st) := by
  rcases handleSlaveReset_cases capacity st with ⟨_, put⟩ | ⟨_, dropped⟩
  · rw [put]
    refine ⟨flushing.noCalls, flushing.scheduled, flushing.retry, ?_⟩
    rcases flushing.phase with ⟨last, settling⟩ | ⟨absent, past⟩
    · exact .inl ⟨last.append_reset, settling⟩
    · refine .inr ⟨?_, past⟩
      change ¬ _ ∈ st.kbhCoreMsgq ++ [_]
      simpa using absent
  · rw [dropped]
    exact flushing

/-- A change of the core between messages which keeps the slave keys. -/
theorem Flushing.withCore
    (flushing : Flushing st) {core : KbhRuntimeState}
    (pressed : ∀ index : Fin config.keyCountSlave,
      core.pressedKeys (config.keyCount + index.val) =
        st.core.pressedKeys (config.keyCount + index.val)) :
    Flushing { st with core := core } := by
  refine ⟨flushing.noCalls, flushing.scheduled, flushing.retry, ?_⟩
  rcases flushing.phase with before | ⟨absent, resetting | ⟨idle, released⟩⟩
  · exact .inl before
  · exact .inr ⟨absent, .inl resetting⟩
  · exact
      .inr ⟨absent, .inr ⟨idle, fun index =>
        (pressed index).trans (released index)⟩⟩

theorem Flushing.step
    (flushing : Flushing st) (noCall : AdapterEvent.noCall event)
    (stepped : adapterStep capacity st event = some next) :
    Flushing next := by
  have kept := noCall_step flushing.noCalls noCall stepped
  have noCalls : NoCalls next := by
    intro caller
    rw [kept.callers]
    exact flushing.noCalls caller
  cases event with
  | beginCall => exact noCall.elim
  | caller caller =>
      simp only [adapterStep, callerStep, flushing.noCalls caller] at stepped
      cases stepped
  | slaveReset =>
      cases stepped
      exact flushing_slaveReset flushing
  | consumer env nowMs =>
      have moved : RetryKept st next ∧ (ResetAhead next ∨ ResetTaken next) := by
        rcases flushing.phase with ahead | taken
        · exact ahead.consumerStep stepped
        · exact (taken.consumerStep stepped).imp_right .inr
      rcases moved with ⟨retryKept, phase⟩
      exact
        ⟨noCalls, retryKept.scheduled.trans flushing.scheduled,
          retryKept.retry.trans flushing.retry, phase⟩
  | retryFires =>
      simp only [adapterStep, SlaveAdapter.retryFires, flushing.retry,
        flushing.scheduled] at stepped
      cases stepped
  | retry =>
      simp only [adapterStep, SlaveAdapter.retryStep, flushing.retry] at stepped
      cases stepped
  | localKey env key value =>
      rcases localKey_eq stepped with ⟨_, isLocal, rfl⟩
      exact flushing.withCore (localKey_pressed st.core isLocal)
  | localFrameEnds nowMs =>
      rcases localFrameEnds_eq stepped with ⟨_, rfl⟩
      have unmoved := finishValueFrame_unmoved config st.core nowMs
      exact flushing.withCore fun _ => congrFun unmoved.pressedKeys _

/-- Drained, the reset has been handled last. -/
theorem released_of_flushing
    (flushing : Flushing st) (drained : Drained st) : SlaveReleased st := by
  rcases flushing.phase with ⟨last, _⟩ | ⟨_, resetting | ⟨_, released⟩⟩
  · exact absurd drained.queue last.ne_nil
  · rw [drained.consumer] at resetting
    cases resetting
  · exact released

/-- The reset call starts one of the two kinds of runs. -/
theorem flushing_of_queued
    (noCalls : NoCalls st)
    (queued : st.kbhCoreMsgq.length < capacity ∨ ResetLast st.kbhCoreMsgq)
    (scheduled : st.retryScheduled = false) (retry : st.retry = .idle)
    (settling : Settling st) :
    Flushing (handleSlaveReset capacity st) := by
  rcases handleSlaveReset_cases capacity st with ⟨_, put⟩ | ⟨full, dropped⟩
  · rw [put]
    exact ⟨noCalls, scheduled, retry, .inl ⟨resetLast_append _, settling⟩⟩
  · rw [dropped]
    have last := queued.resolve_left (Nat.not_lt.mpr full)
    exact ⟨noCalls, scheduled, retry, .inl ⟨last, settling⟩⟩

/--
For every queue capacity and every run: if a reset event takes effect in the
state it is called from, and no call is in progress then or begins later,
every drained state reached afterwards has all slave keys released.
-/
theorem slave_keys_released_after_reset
    (config : KbHandlerConfig) (settings : KbSettings) (capacity : Nat)
    (before after : List AdapterEvent) (st final : AdapterState config)
    (ranBefore :
      run (adapterStep capacity) (adapterStart config settings) before =
        some st)
    (noCalls : NoCalls st)
    (effect : TakesEffect capacity settings st)
    (ranAfter :
      run (adapterStep capacity) st (.slaveReset :: after) = some final)
    (noCall : ∀ event ∈ after, AdapterEvent.noCall event)
    (drained : Drained final) :
    ∀ key, config.keyCount ≤ key → key < config.totalKeyCount →
      final.core.pressedKeys key = false := by
  have released : ∀ index : Fin config.keyCountSlave,
      final.core.pressedKeys (config.keyCount + index.val) = false := by
    intro index
    have slave : config.keyCountSlave ≠ 0 := fun none =>
      absurd index.isLt (by omega)
    have reset :
        adapterStep capacity st .slaveReset =
          some (handleSlaveReset capacity st) :=
      rfl
    have ranRest :
        run (adapterStep capacity) (handleSlaveReset capacity st) after =
          some final :=
      ranAfter
    rcases effect with below | ⟨queued, scheduled, retry, settling⟩
    · have calmAtReset : Calm settings st := ⟨noCalls, below⟩
      have calm : Calm settings final :=
        run_preserves_of_stepsMeet
          (fun _ _ _ kept allowed stepped => kept.step allowed stepped)
          (calmAtReset.step (show AdapterEvent.noCall .slaveReset from trivial)
            reset)
          (stepsMeet_of_events noCall) ranRest
      have reached :
          Reachable (adapterStep capacity) (adapterStart config settings)
            final := by
        refine ⟨before ++ .slaveReset :: after, ?_⟩
        rw [run_append, ranBefore]
        exact ranAfter
      exact released_of_calm slave reached calm drained index
    · have flushing : Flushing final :=
        run_preserves_of_stepsMeet
          (fun _ _ _ kept allowed stepped => kept.step allowed stepped)
          (flushing_of_queued noCalls queued scheduled retry settling)
          (stepsMeet_of_events noCall) ranRest
      exact released_of_flushing flushing drained index
  intro key isSlave inRange
  have index : key - config.keyCount < config.keyCountSlave := by
    have bound : key < config.keyCount + config.keyCountSlave := inRange
    omega
  have same := released ⟨key - config.keyCount, index⟩
  rwa [Nat.add_sub_cancel' isSlave] at same

/-- The core thread handles one reset message. -/
def handleReset : List AdapterEvent :=
  List.replicate 2 (.consumer (fun _ => plainEnvironment) 0)

theorem slave_keys_released_after_queued_reset :
    ∃ final,
      run (adapterStep 60) (adapterStart twoKeyConfig plainSettings)
          (wholeCall 5 ++ .slaveReset :: (handleMessage ++ handleReset)) =
        some final ∧
      ∀ key, twoKeyConfig.keyCount ≤ key → key < twoKeyConfig.totalKeyCount →
        final.core.pressedKeys key = false := by
  refine ⟨_, rfl, ?_⟩
  refine
    slave_keys_released_after_reset twoKeyConfig plainSettings 60
      (wholeCall 5) (handleMessage ++ handleReset) _ _ rfl ?_
      (.inr ⟨.inl (by decide), rfl, rfl, trivial⟩) rfl ?_ ⟨rfl, rfl, rfl, rfl⟩
  · intro caller
    cases caller with
    | zero => rfl
    | succ caller => rfl
  · intro event member
    simp only [handleMessage, handleReset, List.mem_append,
      List.mem_replicate] at member
    rcases member with ⟨_, rfl⟩ | ⟨_, rfl⟩
    · exact trivial
    · exact trivial

/-! ## A reset that is undone -/

/-- A call whose put fails because a reset fills the queue of one. -/
def staleBefore : List AdapterEvent :=
  .slaveReset :: .beginCall 0 [5] :: List.replicate 6 (.caller 0) ++
    handleReset

/-- The reset is handled, and the retry work queues the values after it. -/
def staleAfter : List AdapterEvent :=
  handleReset ++ [.retryFires, .retry, .retry] ++ handleMessage

/-- A values message is retried after an accepted reset. -/
theorem slave_key_pressed_after_reset :
    ¬ (∀ (config : KbHandlerConfig) (settings : KbSettings) (capacity : Nat)
        (before after : List AdapterEvent) (st final : AdapterState config),
        run (adapterStep capacity) (adapterStart config settings) before =
            some st →
        NoCalls st →
        run (adapterStep capacity) st (.slaveReset :: after) = some final →
        (∀ event ∈ after, AdapterEvent.noCall event) →
        Drained final →
        ∀ key, config.keyCount ≤ key → key < config.totalKeyCount →
          final.core.pressedKeys key = false) := by
  intro always
  have ran :
      ∃ st final,
        run (adapterStep 1) (adapterStart twoKeyConfig plainSettings)
            staleBefore =
          some st ∧
        NoCalls st ∧
        run (adapterStep 1) st (.slaveReset :: staleAfter) = some final ∧
        Drained final ∧ final.core.pressedKeys 1 = true := by
    refine ⟨_, _, rfl, fun caller => ?_, rfl, ⟨rfl, rfl, rfl, rfl⟩, rfl⟩
    cases caller with
    | zero => rfl
    | succ caller => rfl
  rcases ran with ⟨st, final, ranBefore, noCalls, ranAfter, drained, pressed⟩
  have released :=
    always twoKeyConfig plainSettings 1 staleBefore staleAfter st final
      ranBefore noCalls ranAfter
      (by
        intro event member
        simp only [staleAfter, handleMessage, handleReset, List.mem_append,
          List.mem_replicate, List.mem_cons, List.not_mem_nil,
          or_false] at member
        rcases member with (⟨_, rfl⟩ | rfl | rfl | rfl) | ⟨_, rfl⟩ <;>
          exact trivial)
      drained 1 (by decide) (by decide)
  exact absurd (released.symm.trans pressed) Bool.false_ne_true

end YkbFirmware.KbHandler.SlaveReset
