import YkbFirmware.Library.TransitionSystem
import YkbFirmware.KbHandler.Frames

/-!
# The split-master adapter

`kb_handler_splitlink_master_adapter.c`: callers of
`kb_handler_core_handle_slave_values` and
`kb_handler_core_handle_slave_reset`, the core thread draining `kbh_core_msgq`
and the delayable work which retries a failed put.

Every atomic load, store or compare-exchange, every copy and every queue
operation is a step of its own, and the steps of all parties interleave.  Any
number of calls may overlap.  Besides the messages, the core thread processes
local keys, which may run FN shortcuts.

Two fields record history for the statements about the adapter: `lastCall` is
the array of the most recent call, calls being ordered by their locked copy,
and `handled` is the array last passed to `handle_slave_values`.
-/

namespace YkbFirmware.KbHandler.SlaveAdapter

open YkbFirmware.Library.TransitionSystem
open YkbFirmware.KbHandler.Settings
open YkbFirmware.KbHandler.Core
open YkbFirmware.KbHandler.Frames

/-! ## State -/

/-- `enum kbh_thread_msg_type`. -/
inductive KbhThreadMsgType where
  | slaveValues
  | slaveKeysReset
deriving DecidableEq, Repr

/-- Where a party is in `enqueue_slave_values_msg`. -/
inductive EnqueueAt where
  | putting
  | rescheduling
deriving DecidableEq, Repr

/-- Where a call of `kb_handler_core_handle_slave_values` is. -/
inductive CallerAt (Values : Type) where
  | outside
  | entered (slaveValues : Values)
  | copied (slaveValues : Values)
  | mirrored
  | raised
  | enqueuing (point : EnqueueAt)

/-- Where the core thread is in `handle_thread_msg`. -/
inductive ConsumerAt (Values : Type) where
  | idle
  | resetting
  | clearing
  | copying
  | handling (slaveValues : Values)
  | releasing
  | checking
  | claiming
  | enqueuing (point : EnqueueAt)

/-- Where `slave_values_retry_work_handler` is. -/
inductive RetryAt where
  | idle
  | loading
  | enqueuing (point : EnqueueAt)
deriving DecidableEq, Repr

structure AdapterState (config : KbHandlerConfig) where
  core : KbhRuntimeState
  latestSlaveValues : SlaveValues config
  slaveValuesMsgPending : Bool
  slaveValuesDirty : Bool
  kbhCoreMsgq : List KbhThreadMsgType
  /-- `slave_values_retry_work` is scheduled. -/
  retryScheduled : Bool
  callers : Nat → CallerAt (SlaveValues config)
  consumer : ConsumerAt (SlaveValues config)
  retry : RetryAt
  lastCall : Option (SlaveValues config)
  handled : Option (SlaveValues config)

/-- The state after `kb_handler_splitlink_master_init`. -/
def adapterStart (config : KbHandlerConfig) (settings : KbSettings) :
    AdapterState config where
  core := threadStart config settings
  latestSlaveValues := fun _ => 0
  slaveValuesMsgPending := false
  slaveValuesDirty := false
  kbhCoreMsgq := []
  retryScheduled := false
  callers := fun _ => .outside
  consumer := .idle
  retry := .idle
  lastCall := none
  handled := none

/-! ## Steps -/

section Steps

variable {config : KbHandlerConfig} (capacity : Nat) (st : AdapterState config)

def setCaller (caller : Nat) (point : CallerAt (SlaveValues config)) :
    AdapterState config :=
  { st with callers := Function.update st.callers caller point }

/-- `k_msgq_put` without waiting; `none` when the queue is full. -/
def msgqPut (msg : KbhThreadMsgType) : Option (AdapterState config) :=
  if st.kbhCoreMsgq.length < capacity then
    some { st with kbhCoreMsgq := st.kbhCoreMsgq ++ [msg] }
  else
    none

/--
One step of `enqueue_slave_values_msg`: the new state and where the function
continues, `none` once it has returned.
-/
def enqueueSlaveValuesMsg (point : EnqueueAt) :
    AdapterState config × Option EnqueueAt :=
  match point with
  | .putting =>
      match msgqPut capacity st .slaveValues with
      | some put => (put, none)
      | none => (st, some .rescheduling)
  | .rescheduling => ({ st with retryScheduled := true }, none)

/-- The array of a call whose arguments are accepted. -/
def acceptedValues (slaveValues : List UInt16) :
    Option (SlaveValues config) :=
  if fits : slaveValues.length = config.keyCountSlave then
    if config.keyCountSlave = 0 then
      none
    else
      some fun index => slaveValues.get (index.cast fits.symm)
  else
    none

/-- `memcpy(&values[KEY_COUNT], slave_values, …)`. -/
def mirrorValues (slaveValues : SlaveValues config) : KbhRuntimeState :=
  { st.core with
    values := fun key =>
      if inside :
          config.keyCount ≤ key ∧ key - config.keyCount < config.keyCountSlave
        then
        slaveValues ⟨key - config.keyCount, inside.2⟩
      else
        st.core.values key }

/-- A call of `kb_handler_core_handle_slave_values` begins. -/
def beginCall (caller : Nat) (slaveValues : List UInt16) :
    Option (AdapterState config) :=
  match st.callers caller, acceptedValues slaveValues with
  | .outside, some accepted => some (setCaller st caller (.entered accepted))
  | .outside, none => some st
  | _, _ => none

/-- The next step of a call that has begun. -/
def callerStep (caller : Nat) : Option (AdapterState config) :=
  match st.callers caller with
  | .outside => none
  | .entered slaveValues =>
      some
        (setCaller
          { st with
            latestSlaveValues := slaveValues
            lastCall := some slaveValues }
          caller (.copied slaveValues))
  | .copied slaveValues =>
      some
        (setCaller { st with core := mirrorValues st slaveValues } caller
          .mirrored)
  | .mirrored =>
      some (setCaller { st with slaveValuesDirty := true } caller .raised)
  | .raised =>
      if st.slaveValuesMsgPending then
        some (setCaller st caller .outside)
      else
        some
          (setCaller { st with slaveValuesMsgPending := true } caller
            (.enqueuing .putting))
  | .enqueuing point =>
      let (next, continues) := enqueueSlaveValuesMsg capacity st point
      some
        (setCaller next caller (continues.elim .outside CallerAt.enqueuing))

/-- `kb_handler_core_handle_slave_reset`; a full queue drops the event. -/
def handleSlaveReset : AdapterState config :=
  (msgqPut capacity st .slaveKeysReset).getD st

/-- The next step of `drain_thread_msgs` with `handle_thread_msg`. -/
def consumerStep (env : Nat → KbhEnvironment) (nowMs : Int) :
    Option (AdapterState config) :=
  match st.consumer with
  | .idle =>
      match st.kbhCoreMsgq with
      | [] => none
      | .slaveKeysReset :: rest =>
          some { st with kbhCoreMsgq := rest, consumer := .resetting }
      | .slaveValues :: rest =>
          some
            { st with
              kbhCoreMsgq := rest
              consumer :=
                if config.keyCountSlave = 0 then .idle else .clearing }
  | .resetting =>
      some
        { st with
          core := handleSlaveKeysReset config st.core nowMs
          consumer := .idle }
  | .clearing =>
      some { st with slaveValuesDirty := false, consumer := .copying }
  | .copying =>
      some { st with consumer := .handling st.latestSlaveValues }
  | .handling slaveValues =>
      some
        { st with
          core := handleSlaveValues config env nowMs st.core slaveValues
          handled := some slaveValues
          consumer := .releasing }
  | .releasing =>
      some { st with slaveValuesMsgPending := false, consumer := .checking }
  | .checking =>
      some
        { st with
          consumer := if st.slaveValuesDirty then .claiming else .idle }
  | .claiming =>
      if st.slaveValuesMsgPending then
        some { st with consumer := .idle }
      else
        some
          { st with
            slaveValuesMsgPending := true
            consumer := .enqueuing .putting }
  | .enqueuing point =>
      let (next, continues) := enqueueSlaveValuesMsg capacity st point
      some
        { next with
          consumer := continues.elim .idle ConsumerAt.enqueuing }

/-- The scheduled retry work starts to run. -/
def retryFires : Option (AdapterState config) :=
  match st.retry with
  | .idle =>
      if st.retryScheduled then
        some { st with retryScheduled := false, retry := .loading }
      else
        none
  | _ => none

/-- The next step of `slave_values_retry_work_handler`. -/
def retryStep : Option (AdapterState config) :=
  match st.retry with
  | .idle => none
  | .loading =>
      some
        { st with
          retry :=
            if st.slaveValuesMsgPending then .enqueuing .putting else .idle }
  | .enqueuing point =>
      let (next, continues) := enqueueSlaveValuesMsg capacity st point
      some { next with retry := continues.elim .idle RetryAt.enqueuing }

/-- The core thread processes a local key between messages. -/
def localKey (env : KbhEnvironment) (key : Nat) (value : UInt16) :
    Option (AdapterState config) :=
  match st.consumer with
  | .idle =>
      if key < config.keyCount then
        some
          { st with core := (processKeyValue config env st.core key value).1 }
      else
        none
  | _ => none

/-- The core thread finishes a local frame. -/
def localFrameEnds (nowMs : Int) : Option (AdapterState config) :=
  match st.consumer with
  | .idle => some { st with core := finishValueFrame config st.core nowMs }
  | _ => none

end Steps

inductive AdapterEvent where
  | beginCall (caller : Nat) (slaveValues : List UInt16)
  | caller (caller : Nat)
  | slaveReset
  | consumer (env : Nat → KbhEnvironment) (nowMs : Int)
  | retryFires
  | retry
  | localKey (env : KbhEnvironment) (key : Nat) (value : UInt16)
  | localFrameEnds (nowMs : Int)

def adapterStep {config : KbHandlerConfig} (capacity : Nat)
    (st : AdapterState config) : AdapterEvent → Option (AdapterState config)
  | .beginCall caller slaveValues => beginCall st caller slaveValues
  | .caller caller => callerStep capacity st caller
  | .slaveReset => some (handleSlaveReset capacity st)
  | .consumer env nowMs => consumerStep capacity st env nowMs
  | .retryFires => retryFires st
  | .retry => retryStep capacity st
  | .localKey env key value => localKey st env key value
  | .localFrameEnds nowMs => localFrameEnds st nowMs

/-! ## The steps, each with the point it is taken at -/

section Cases

variable
    {config : KbHandlerConfig} {capacity : Nat} {st next : AdapterState config}

/-- A call begins, or returns at once. -/
theorem beginCall_cases
    {caller : Nat} {slaveValues : List UInt16}
    (stepped : beginCall st caller slaveValues = some next) :
    st.callers caller = .outside ∧
      ((∃ accepted,
        acceptedValues slaveValues = some accepted ∧
          next = setCaller st caller (.entered accepted)) ∨
        next = st) := by
  rw [beginCall] at stepped
  split at stepped
  · rename_i accepted outside admitted
    exact
      ⟨outside, .inl ⟨accepted, admitted, (Option.some.inj stepped).symm⟩⟩
  · rename_i outside _
    exact ⟨outside, .inr (Option.some.inj stepped).symm⟩
  · cases stepped

/-- A reset event is put, or dropped by a full queue. -/
theorem handleSlaveReset_cases (capacity : Nat) (st : AdapterState config) :
    (st.kbhCoreMsgq.length < capacity ∧
      handleSlaveReset capacity st =
        { st with kbhCoreMsgq := st.kbhCoreMsgq ++ [.slaveKeysReset] }) ∨
      (capacity ≤ st.kbhCoreMsgq.length ∧
        handleSlaveReset capacity st = st) := by
  rw [handleSlaveReset, msgqPut]
  split_ifs with room
  · exact .inl ⟨room, rfl⟩
  · exact .inr ⟨Nat.not_lt.mp room, rfl⟩

/-- The retry work starts when it is scheduled. -/
theorem retryFires_eq (stepped : retryFires st = some next) :
    st.retry = .idle ∧ st.retryScheduled = true ∧
      next = { st with retryScheduled := false, retry := .loading } := by
  rw [retryFires] at stepped
  split at stepped
  · rename_i idle
    split_ifs at stepped with scheduled
    exact ⟨idle, scheduled, (Option.some.inj stepped).symm⟩
  · cases stepped

/-- The steps of a call. -/
inductive CallerStep (capacity : Nat) (st : AdapterState config)
    (caller : Nat) : AdapterState config → Prop where
  | copy {slaveValues : SlaveValues config}
      (entered : st.callers caller = .entered slaveValues) :
      CallerStep capacity st caller
        (setCaller
          { st with
            latestSlaveValues := slaveValues
            lastCall := some slaveValues }
          caller (.copied slaveValues))
  | mirror {slaveValues : SlaveValues config}
      (copied : st.callers caller = .copied slaveValues) :
      CallerStep capacity st caller
        (setCaller { st with core := mirrorValues st slaveValues } caller
          .mirrored)
  | raise (mirrored : st.callers caller = .mirrored) :
      CallerStep capacity st caller
        (setCaller { st with slaveValuesDirty := true } caller .raised)
  | leave (raised : st.callers caller = .raised)
      (pending : st.slaveValuesMsgPending = true) :
      CallerStep capacity st caller (setCaller st caller .outside)
  | claim (raised : st.callers caller = .raised)
      (free : st.slaveValuesMsgPending = false) :
      CallerStep capacity st caller
        (setCaller { st with slaveValuesMsgPending := true } caller
          (.enqueuing .putting))
  | enqueue {point : EnqueueAt} {enqueued : AdapterState config}
      {continues : Option EnqueueAt}
      (enqueuing : st.callers caller = .enqueuing point)
      (enqueue :
        enqueueSlaveValuesMsg capacity st point = (enqueued, continues)) :
      CallerStep capacity st caller
        (setCaller enqueued caller
          (continues.elim .outside CallerAt.enqueuing))

theorem callerStep_cases
    {caller : Nat} (stepped : callerStep capacity st caller = some next) :
    CallerStep capacity st caller next := by
  cases point : st.callers caller with
  | outside =>
      simp only [callerStep, point] at stepped
      cases stepped
  | entered slaveValues =>
      simp only [callerStep, point] at stepped
      cases stepped
      exact .copy point
  | copied slaveValues =>
      simp only [callerStep, point] at stepped
      cases stepped
      exact .mirror point
  | mirrored =>
      simp only [callerStep, point] at stepped
      cases stepped
      exact .raise point
  | raised =>
      simp only [callerStep, point] at stepped
      split_ifs at stepped with pending
      · cases stepped
        exact .leave point pending
      · cases stepped
        exact .claim point (Bool.eq_false_of_not_eq_true pending)
  | enqueuing stage =>
      simp only [callerStep, point] at stepped
      cases stepped
      exact .enqueue point rfl

/-- The steps of the core thread in `handle_thread_msg`. -/
inductive ConsumerStep (capacity : Nat) (st : AdapterState config)
    (env : Nat → KbhEnvironment) (nowMs : Int) :
    AdapterState config → Prop where
  | takeReset {rest : List KbhThreadMsgType}
      (idle : st.consumer = .idle)
      (queue : st.kbhCoreMsgq = .slaveKeysReset :: rest) :
      ConsumerStep capacity st env nowMs
        { st with kbhCoreMsgq := rest, consumer := .resetting }
  | takeValues {rest : List KbhThreadMsgType}
      (idle : st.consumer = .idle)
      (queue : st.kbhCoreMsgq = .slaveValues :: rest) :
      ConsumerStep capacity st env nowMs
        { st with
          kbhCoreMsgq := rest
          consumer := if config.keyCountSlave = 0 then .idle else .clearing }
  | reset (resetting : st.consumer = .resetting) :
      ConsumerStep capacity st env nowMs
        { st with
          core := handleSlaveKeysReset config st.core nowMs
          consumer := .idle }
  | clear (clearing : st.consumer = .clearing) :
      ConsumerStep capacity st env nowMs
        { st with slaveValuesDirty := false, consumer := .copying }
  | copy (copying : st.consumer = .copying) :
      ConsumerStep capacity st env nowMs
        { st with consumer := .handling st.latestSlaveValues }
  | handle {slaveValues : SlaveValues config}
      (handling : st.consumer = .handling slaveValues) :
      ConsumerStep capacity st env nowMs
        { st with
          core := handleSlaveValues config env nowMs st.core slaveValues
          handled := some slaveValues
          consumer := .releasing }
  | release (releasing : st.consumer = .releasing) :
      ConsumerStep capacity st env nowMs
        { st with slaveValuesMsgPending := false, consumer := .checking }
  | seeDirty (checking : st.consumer = .checking)
      (dirty : st.slaveValuesDirty = true) :
      ConsumerStep capacity st env nowMs { st with consumer := .claiming }
  | seeClean (checking : st.consumer = .checking)
      (clean : st.slaveValuesDirty = false) :
      ConsumerStep capacity st env nowMs { st with consumer := .idle }
  | leave (claiming : st.consumer = .claiming)
      (pending : st.slaveValuesMsgPending = true) :
      ConsumerStep capacity st env nowMs { st with consumer := .idle }
  | claim (claiming : st.consumer = .claiming)
      (free : st.slaveValuesMsgPending = false) :
      ConsumerStep capacity st env nowMs
        { st with
          slaveValuesMsgPending := true
          consumer := .enqueuing .putting }
  | enqueue {point : EnqueueAt} {enqueued : AdapterState config}
      {continues : Option EnqueueAt}
      (enqueuing : st.consumer = .enqueuing point)
      (enqueue :
        enqueueSlaveValuesMsg capacity st point = (enqueued, continues)) :
      ConsumerStep capacity st env nowMs
        { enqueued with
          consumer := continues.elim .idle ConsumerAt.enqueuing }

theorem consumerStep_cases
    {env : Nat → KbhEnvironment} {nowMs : Int}
    (stepped : consumerStep capacity st env nowMs = some next) :
    ConsumerStep capacity st env nowMs next := by
  cases point : st.consumer with
  | idle =>
      simp only [consumerStep, point] at stepped
      split at stepped
      · cases stepped
      · rename_i rest queue
        cases stepped
        exact .takeReset point queue
      · rename_i rest queue
        cases stepped
        exact .takeValues point queue
  | resetting =>
      simp only [consumerStep, point] at stepped
      cases stepped
      exact .reset point
  | clearing =>
      simp only [consumerStep, point] at stepped
      cases stepped
      exact .clear point
  | copying =>
      simp only [consumerStep, point] at stepped
      cases stepped
      exact .copy point
  | handling slaveValues =>
      simp only [consumerStep, point] at stepped
      cases stepped
      exact .handle point
  | releasing =>
      simp only [consumerStep, point] at stepped
      cases stepped
      exact .release point
  | checking =>
      simp only [consumerStep, point] at stepped
      split_ifs at stepped with dirty
      · cases stepped
        exact .seeDirty point dirty
      · cases stepped
        exact .seeClean point (Bool.eq_false_of_not_eq_true dirty)
  | claiming =>
      simp only [consumerStep, point] at stepped
      split_ifs at stepped with pending
      · cases stepped
        exact .leave point pending
      · cases stepped
        exact .claim point (Bool.eq_false_of_not_eq_true pending)
  | enqueuing stage =>
      simp only [consumerStep, point] at stepped
      cases stepped
      exact .enqueue point rfl

/-- The steps of the retry work. -/
inductive RetryStep (capacity : Nat) (st : AdapterState config) :
    AdapterState config → Prop where
  | goOn (loading : st.retry = .loading)
      (pending : st.slaveValuesMsgPending = true) :
      RetryStep capacity st { st with retry := .enqueuing .putting }
  | giveUp (loading : st.retry = .loading)
      (free : st.slaveValuesMsgPending = false) :
      RetryStep capacity st { st with retry := .idle }
  | enqueue {point : EnqueueAt} {enqueued : AdapterState config}
      {continues : Option EnqueueAt}
      (enqueuing : st.retry = .enqueuing point)
      (enqueue :
        enqueueSlaveValuesMsg capacity st point = (enqueued, continues)) :
      RetryStep capacity st
        { enqueued with retry := continues.elim .idle RetryAt.enqueuing }

theorem retryStep_cases
    (stepped : retryStep capacity st = some next) :
    RetryStep capacity st next := by
  cases point : st.retry with
  | idle =>
      simp only [retryStep, point] at stepped
      cases stepped
  | loading =>
      simp only [retryStep, point] at stepped
      split_ifs at stepped with pending
      · cases stepped
        exact .goOn point pending
      · cases stepped
        exact .giveUp point (Bool.eq_false_of_not_eq_true pending)
  | enqueuing stage =>
      simp only [retryStep, point] at stepped
      cases stepped
      exact .enqueue point rfl

end Cases

end YkbFirmware.KbHandler.SlaveAdapter
