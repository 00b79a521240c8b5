import YkbFirmware.KbHandler.Coalescing

/-!
# The loop of the core thread

`kb_handler_thread` calls the registered hooks, scans the local keys and
processes the frame.  Slave messages are taken from `kbh_core_msgq` by
`drain_thread_msgs` alone, which the loop can reach only through a hook.

The split-master adapter registers no hook; the one named `splitlink_master`
is the slave adapter's.  Whatever the queue holds at the beginning of an
iteration it therefore holds at its end.
-/

namespace YkbFirmware.KbHandler.CoreLoop

open YkbFirmware.Library.TransitionSystem
open YkbFirmware.KbHandler.Settings
open YkbFirmware.KbHandler.Core
open YkbFirmware.KbHandler.Frames
open YkbFirmware.KbHandler.SlaveAdapter
open YkbFirmware.KbHandler.Coalescing

/-! ## Builds and hooks -/

/-- The choice `KB_HANDLER_IMPL`. -/
inductive KbHandlerImpl where
  | splitlinkMaster
  | splitlinkSlave
  | simple
deriving DecidableEq, Repr

/-- The functions of the adapters with the signature of a hook. -/
inductive HookFunction where
  | drainThreadMsgs
  | onLocalScanFrame
deriving DecidableEq, Repr

/-- `struct kb_handler_core_hook`. -/
structure KbHandlerCoreHook where
  onThreadUpdate : Option HookFunction
  onLocalScanFrame : Option HookFunction
deriving DecidableEq, Repr

/-- The section `kb_handler_core_hook` of each build. -/
def registeredHooks : KbHandlerImpl → List KbHandlerCoreHook
  | .splitlinkMaster => []
  | .splitlinkSlave => [⟨none, some .onLocalScanFrame⟩]
  | .simple => []

/-- A key scanner with its place in the local scan. -/
structure Kscan where
  idxOffset : Int
  keyAmount : Int

/-- The build: which adapter, which scanners, how long the queue is. -/
structure LoopBuild where
  impl : KbHandlerImpl
  kscans : List Kscan
  kbHandlerMsgqSize : Nat

/-- `LOCAL_SCAN_KEY_COUNT`. -/
def LoopBuild.localScanKeyCount
    (build : LoopBuild) (config : KbHandlerConfig) : Nat :=
  if build.impl = .splitlinkSlave then config.keyCountSlave else config.keyCount

/-- `LOCAL_SCAN_GLOBAL_OFFSET`. -/
def LoopBuild.localScanGlobalOffset
    (build : LoopBuild) (config : KbHandlerConfig) : Nat :=
  if build.impl = .splitlinkSlave then config.keyCount else 0

/-! ## The loop -/

/-- Where the core thread is in its loop. -/
inductive LoopAt where
  | top
  | updating (hooks : List KbHandlerCoreHook)
  | scanning (index : Nat) (ok : Bool)
  | processing (index : Nat)
  | frameHooks (hooks : List KbHandlerCoreHook)
  | finishing
  | sleeping
  | calling (function : HookFunction) (resume : LoopAt)

/-- The loop beside the other parties; `iterations` counts finished ones. -/
structure LoopState (config : KbHandlerConfig) where
  adapter : AdapterState config
  localScanValues : Nat → UInt16
  point : LoopAt
  iterations : Nat

def loopStart (config : KbHandlerConfig) (settings : KbSettings) :
    LoopState config where
  adapter := adapterStart config settings
  localScanValues := fun _ => 0
  point := .top
  iterations := 0

/-- What a step of the thread reads from outside. -/
structure ThreadInput where
  env : Nat → KbhEnvironment
  nowMs : Int
  /-- What `kscan_scan` writes, by index in the local scan. -/
  scanned : Nat → UInt16
  /-- `kscan_scan` returns an error. -/
  scanErr : Bool

section Steps

variable
    {config : KbHandlerConfig} (build : LoopBuild) (st : LoopState config)
    (input : ThreadInput)

def goTo (point : LoopAt) : LoopState config :=
  { st with point := point }

/-- Call a hook function if there is one. -/
def callHook (function : Option HookFunction) (resume : LoopAt) :
    LoopState config :=
  match function with
  | some function => goTo st (.calling function resume)
  | none => goTo st resume

/-- The loop begins again. -/
def endIteration : LoopState config :=
  { st with point := .top, iterations := st.iterations + 1 }

/-- `scan_local_values` scans one scanner. -/
def scanOne (kscan : Kscan) (index : Nat) (ok : Bool) : LoopState config :=
  if kscan.idxOffset < 0 ∨ kscan.keyAmount < 0 ∨
      kscan.idxOffset + kscan.keyAmount > build.localScanKeyCount config then
    goTo st (.scanning (index + 1) false)
  else
    { st with
      localScanValues := fun entry =>
        if kscan.idxOffset ≤ entry ∧
            entry < kscan.idxOffset + kscan.keyAmount then
          input.scanned entry
        else
          st.localScanValues entry
      point := .scanning (index + 1) (ok && !input.scanErr) }

/-- `scan_local_values` goes on at a scanner. -/
def scanLocalValues (index : Nat) (ok : Bool) : LoopState config :=
  if build.kscans.length = 0 then
    goTo st .sleeping
  else
    match build.kscans[index]? with
    | some kscan => scanOne build st input kscan index ok
    | none => goTo st (if ok then .processing 0 else .sleeping)

/-- The loop of `process_local_scan_frame` processes one key. -/
def processLocalScanFrame (index : Nat) : LoopState config :=
  if index < build.localScanKeyCount config then
    { st with
      adapter :=
        { st.adapter with
          core :=
            (processKeyValue config (input.env index) st.adapter.core
              (build.localScanGlobalOffset config + index)
              (st.localScanValues index)).1 }
      point := .processing (index + 1) }
  else
    goTo st (.frameHooks (registeredHooks build.impl))

/-- One step of a hook function. -/
def hookStep (function : HookFunction) (resume : LoopAt) :
    LoopState config :=
  match function with
  | .drainThreadMsgs =>
      match
          consumerStep build.kbHandlerMsgqSize st.adapter input.env
            input.nowMs with
      | some next => { st with adapter := next }
      | none => goTo st resume
  | .onLocalScanFrame => goTo st resume

/-- One step of `kb_handler_thread`. -/
def threadStep : LoopState config :=
  match st.point with
  | .top => goTo st (.updating (registeredHooks build.impl))
  | .updating (hook :: rest) => callHook st hook.onThreadUpdate (.updating rest)
  | .updating [] => goTo st (.scanning 0 true)
  | .scanning index ok => scanLocalValues build st input index ok
  | .processing index => processLocalScanFrame build st input index
  | .frameHooks (hook :: rest) =>
      callHook st hook.onLocalScanFrame (.frameHooks rest)
  | .frameHooks [] => goTo st .finishing
  | .finishing =>
      endIteration
        { st with
          adapter :=
            { st.adapter with
              core := finishValueFrame config st.adapter.core input.nowMs } }
  | .sleeping => endIteration st
  | .calling function resume => hookStep build st input function resume

/-- The steps of the adapter that are not the core thread's. -/
def ofOthers : AdapterEvent → Bool
  | .beginCall _ _ | .caller _ | .slaveReset | .retryFires | .retry => true
  | .consumer _ _ | .localKey _ _ _ | .localFrameEnds _ => false

end Steps

inductive LoopEvent where
  | thread (input : ThreadInput)
  | other (event : AdapterEvent)

def loopStep {config : KbHandlerConfig} (build : LoopBuild)
    (st : LoopState config) : LoopEvent → Option (LoopState config)
  | .thread input => some (threadStep build st input)
  | .other event =>
      if ofOthers event then
        (adapterStep build.kbHandlerMsgqSize st.adapter event).map
          fun next => { st with adapter := next }
      else
        none

/-! ## Iterations -/

section Iterations

variable {config : KbHandlerConfig}

/-- The step puts no message into the queue. -/
def NoPut (build : LoopBuild) (st : LoopState config) (event : LoopEvent) :
    Prop :=
  ∀ next, loopStep build st event = some next →
    next.adapter.kbhCoreMsgq.length ≤ st.adapter.kbhCoreMsgq.length

/-- One iteration of the loop, in which no message is put. -/
structure Iteration (build : LoopBuild) (st : LoopState config)
    (events : List LoopEvent) (final : LoopState config) : Prop where
  begins : st.point = .top
  ran : run (loopStep build) st events = some final
  ends : final.point = .top
  once : final.iterations = st.iterations + 1
  noPut : StepsMeet (loopStep build) (NoPut build) st events

/--
The queue is empty at the end, and if it held slave values and no reset the
latest values are the current ones.
-/
structure ConsumesMessages (st final : LoopState config) : Prop where
  drained : final.adapter.kbhCoreMsgq = []
  values :
    .slaveValues ∈ st.adapter.kbhCoreMsgq →
      .slaveKeysReset ∉ st.adapter.kbhCoreMsgq →
        ∀ index : Fin config.keyCountSlave,
          final.adapter.core.currentValues (config.keyCount + index.val) =
            final.adapter.latestSlaveValues index

end Iterations

/-! ## The other parties -/

section Others

variable
    {config : KbHandlerConfig} {capacity : Nat}
    {adapter next : AdapterState config}

/-- The queue of `next` is that of `adapter`, or has one more message. -/
def KeepsOrPuts (adapter next : AdapterState config) : Prop :=
  next.kbhCoreMsgq = adapter.kbhCoreMsgq ∨
    ∃ msg, next.kbhCoreMsgq = adapter.kbhCoreMsgq ++ [msg]

theorem enqueue_queue
    {point : EnqueueAt} {continues : Option EnqueueAt}
    (enqueue :
      enqueueSlaveValuesMsg capacity adapter point = (next, continues)) :
    KeepsOrPuts adapter next := by
  rcases enqueue_cases enqueue with ⟨rfl, _⟩ | ⟨rfl, _⟩ | ⟨rfl, _⟩
  · exact .inr ⟨_, rfl⟩
  · exact .inl rfl
  · exact .inl rfl

theorem beginCall_queue
    {caller : Nat} {slaveValues : List UInt16}
    (stepped : beginCall adapter caller slaveValues = some next) :
    next.kbhCoreMsgq = adapter.kbhCoreMsgq := by
  rcases (beginCall_cases stepped).2 with ⟨accepted, _, rfl⟩ | rfl
  · rfl
  · rfl

theorem callerStep_queue
    {caller : Nat} (stepped : callerStep capacity adapter caller = some next) :
    KeepsOrPuts adapter next := by
  cases callerStep_cases stepped with
  | copy | mirror | raise | leave | claim => exact .inl rfl
  | enqueue enqueuing enqueue =>
      have put := enqueue_queue enqueue
      exact put

theorem handleSlaveReset_queue :
    KeepsOrPuts adapter (handleSlaveReset capacity adapter) := by
  rcases handleSlaveReset_cases capacity adapter with
    ⟨_, put⟩ | ⟨_, dropped⟩
  · rw [put]
    exact .inr ⟨_, rfl⟩
  · rw [dropped]
    exact .inl rfl

theorem retryFires_queue
    (stepped : retryFires adapter = some next) :
    next.kbhCoreMsgq = adapter.kbhCoreMsgq := by
  rcases retryFires_eq stepped with ⟨_, _, rfl⟩
  rfl

theorem retryStep_queue
    (stepped : retryStep capacity adapter = some next) :
    KeepsOrPuts adapter next := by
  cases retryStep_cases stepped with
  | goOn | giveUp => exact .inl rfl
  | enqueue enqueuing enqueue =>
      have put := enqueue_queue enqueue
      exact put

/-- The other parties put messages and never take one. -/
theorem others_queue
    {event : AdapterEvent} (others : ofOthers event = true)
    (stepped : adapterStep capacity adapter event = some next) :
    KeepsOrPuts adapter next := by
  cases event with
  | beginCall caller slaveValues => exact .inl (beginCall_queue stepped)
  | caller caller => exact callerStep_queue stepped
  | slaveReset =>
      cases stepped
      exact handleSlaveReset_queue
  | retryFires => exact .inl (retryFires_queue stepped)
  | retry => exact retryStep_queue stepped
  | consumer | localKey | localFrameEnds =>
      exact absurd others Bool.false_ne_true

end Others

/-! ## The loop of the split-master build -/

/-- No hook runs and none is left to be called. -/
def Hookless : LoopAt → Prop
  | .updating hooks => hooks = []
  | .frameHooks hooks => hooks = []
  | .calling _ _ => False
  | _ => True

section Queue

variable
    {config : KbHandlerConfig} {build : LoopBuild}
    {st next final : LoopState config}

theorem scanLocalValues_queue
    (input : ThreadInput) (index : Nat) (ok : Bool) :
    Hookless (scanLocalValues build st input index ok).point ∧
      (scanLocalValues build st input index ok).adapter.kbhCoreMsgq =
        st.adapter.kbhCoreMsgq := by
  rw [scanLocalValues]
  by_cases noScanner : build.kscans.length = 0
  · rw [if_pos noScanner]
    exact ⟨trivial, rfl⟩
  · rw [if_neg noScanner]
    split
    · rw [scanOne]
      split_ifs
      · exact ⟨trivial, rfl⟩
      · exact ⟨trivial, rfl⟩
    · cases ok with
      | true => exact ⟨trivial, rfl⟩
      | false => exact ⟨trivial, rfl⟩

theorem processLocalScanFrame_queue
    (master : build.impl = .splitlinkMaster) (input : ThreadInput)
    (index : Nat) :
    Hookless (processLocalScanFrame build st input index).point ∧
      (processLocalScanFrame build st input index).adapter.kbhCoreMsgq =
        st.adapter.kbhCoreMsgq := by
  rw [processLocalScanFrame]
  split_ifs
  · exact ⟨trivial, rfl⟩
  · exact ⟨by rw [master]; rfl, rfl⟩

/-- Without a hook the core thread leaves the queue alone. -/
theorem threadStep_queue
    (master : build.impl = .splitlinkMaster) (input : ThreadInput)
    (hookless : Hookless st.point) :
    Hookless (threadStep build st input).point ∧
      (threadStep build st input).adapter.kbhCoreMsgq =
        st.adapter.kbhCoreMsgq := by
  rw [threadStep]
  cases point : st.point with
  | top => exact ⟨by rw [master]; rfl, rfl⟩
  | updating hooks =>
      rw [point] at hookless
      cases hookless
      exact ⟨trivial, rfl⟩
  | scanning index ok => exact scanLocalValues_queue input index ok
  | processing index => exact processLocalScanFrame_queue master input index
  | frameHooks hooks =>
      rw [point] at hookless
      cases hookless
      exact ⟨trivial, rfl⟩
  | finishing => exact ⟨trivial, rfl⟩
  | sleeping => exact ⟨trivial, rfl⟩
  | calling function resume =>
      rw [point] at hookless
      exact hookless.elim

/-- No step of the system takes a message from the queue. -/
theorem loopStep_queue
    (master : build.impl = .splitlinkMaster) {event : LoopEvent}
    (hookless : Hookless st.point)
    (stepped : loopStep build st event = some next) :
    Hookless next.point ∧ KeepsOrPuts st.adapter next.adapter := by
  cases event with
  | thread input =>
      cases stepped
      have quiet := threadStep_queue master input hookless
      exact ⟨quiet.1, .inl quiet.2⟩
  | other event =>
      rw [loopStep] at stepped
      split_ifs at stepped with others
      rcases Option.map_eq_some_iff.mp stepped with ⟨adapter, taken, rfl⟩
      exact ⟨hookless, others_queue others taken⟩

/-- A step which puts no message leaves the queue as it is. -/
theorem noPut_iff
    (master : build.impl = .splitlinkMaster) {event : LoopEvent}
    (hookless : Hookless st.point)
    (stepped : loopStep build st event = some next) :
    NoPut build st event ↔
      next.adapter.kbhCoreMsgq = st.adapter.kbhCoreMsgq := by
  constructor
  · intro noPut
    rcases (loopStep_queue master hookless stepped).2 with same | ⟨msg, put⟩
    · exact same
    · have shorter := noPut next stepped
      rw [put, List.length_append, List.length_singleton] at shorter
      omega
  · intro same other again
    cases stepped.symm.trans again
    exact (congrArg List.length same).le

/-- The queue is empty exactly as long as no message was put. -/
theorem queue_empty_iff_noPut
    (master : build.impl = .splitlinkMaster) {settings : KbSettings}
    {events : List LoopEvent}
    (ran : run (loopStep build) (loopStart config settings) events = some st) :
    st.adapter.kbhCoreMsgq = [] ↔
      StepsMeet (loopStep build) (NoPut build) (loopStart config settings)
        events := by
  have along :=
    @run_iff_stepsMeet _ _ (loopStep build) (NoPut build)
      (fun st => Hookless st.point)
      (fun st => st.adapter.kbhCoreMsgq = [])
      (fun _ _ _ hookless stepped =>
        (loopStep_queue master hookless stepped).1)
      (fun before event after hookless stepped => by
        rw [noPut_iff master hookless stepped]
        rcases (loopStep_queue master hookless stepped).2 with
          same | ⟨msg, put⟩
        · rw [same]
          exact (and_iff_left rfl).symm
        · rw [put]
          simp)
      (loopStart config settings) st events trivial ran
  exact along.trans (and_iff_right rfl)

/-- An iteration ends with the queue it began with. -/
theorem Iteration.queue
    {events : List LoopEvent} (master : build.impl = .splitlinkMaster)
    (iteration : Iteration build st events final) :
    final.adapter.kbhCoreMsgq = st.adapter.kbhCoreMsgq := by
  have kept :=
    @run_preserves_of_stepsMeet _ _ (loopStep build) (NoPut build)
      (fun now =>
        Hookless now.point ∧
          now.adapter.kbhCoreMsgq = st.adapter.kbhCoreMsgq)
      (fun before event after held noPut stepped =>
        ⟨(loopStep_queue master held.1 stepped).1,
          ((noPut_iff master held.1 stepped).mp noPut).trans held.2⟩)
      st final events
      ⟨by rw [iteration.begins]; exact trivial, rfl⟩
      iteration.noPut iteration.ran
  exact kept.2

/-- An iteration meets the contract exactly when there was nothing to do. -/
theorem Iteration.consumes_iff
    {events : List LoopEvent} (master : build.impl = .splitlinkMaster)
    (iteration : Iteration build st events final) :
    ConsumesMessages st final ↔ st.adapter.kbhCoreMsgq = [] := by
  constructor
  · intro consumes
    exact (iteration.queue master).symm.trans consumes.drained
  · intro empty
    refine ⟨(iteration.queue master).trans empty, fun held => ?_⟩
    rw [empty] at held
    exact absurd held List.not_mem_nil

/-- The core thread alone never puts a message. -/
theorem thread_noPut
    (master : build.impl = .splitlinkMaster) {events : List LoopEvent}
    (alone : ∀ event ∈ events, ∃ input, event = .thread input)
    (hookless : Hookless st.point) :
    StepsMeet (loopStep build) (NoPut build) st events := by
  refine
    @stepsMeet_of_invariant _ _ (loopStep build) (NoPut build)
      (fun now => Hookless now.point) events
      (fun before event member held => ?_)
      (fun before event _ after held stepped =>
        (loopStep_queue master held stepped).1)
      st hookless
  rcases alone event member with ⟨input, rfl⟩
  exact
    (noPut_iff master held rfl).mpr (threadStep_queue master input held).2

/--
On the split-master build, after any run, an iteration in which no message is
put consumes the messages exactly if none was put since the start.
-/
theorem loop_consumes_iff
    (config : KbHandlerConfig) (settings : KbSettings) (build : LoopBuild)
    (master : build.impl = .splitlinkMaster)
    (events : List LoopEvent) (st : LoopState config)
    (ran : run (loopStep build) (loopStart config settings) events = some st)
    (during : List LoopEvent) (final : LoopState config)
    (iteration : Iteration build st during final) :
    ConsumesMessages st final ↔
      StepsMeet (loopStep build) (NoPut build) (loopStart config settings)
        events :=
  (iteration.consumes_iff master).trans (queue_empty_iff_noPut master ran)

end Queue

/-! ## A queued message -/

/-- The split-master build with one scanner for one local key. -/
def oneScannerBuild : LoopBuild where
  impl := .splitlinkMaster
  kscans := [⟨0, 1⟩]
  kbHandlerMsgqSize := 60

/-- No key is down and every scan succeeds. -/
def stillInput : ThreadInput where
  env := fun _ => plainEnvironment
  nowMs := 0
  scanned := fun _ => 0
  scanErr := false

/-- One whole iteration of the thread on `oneScannerBuild`. -/
def wholeIteration : List LoopEvent :=
  List.replicate 8 (.thread stillInput)

theorem wholeIteration_alone :
    ∀ event ∈ wholeIteration, ∃ input, event = .thread input := by
  intro event member
  exact ⟨stillInput, List.eq_of_mem_replicate member⟩

/-- Without a message the contract is met by the first iteration. -/
theorem loop_consumes_nothing :
    ∃ final,
      Iteration oneScannerBuild (loopStart twoKeyConfig plainSettings)
        wholeIteration final ∧
      ConsumesMessages (loopStart twoKeyConfig plainSettings) final := by
  have iteration :
      Iteration oneScannerBuild (loopStart twoKeyConfig plainSettings)
        wholeIteration _ :=
    { begins := rfl
      ran := rfl
      ends := rfl
      once := rfl
      noPut := thread_noPut rfl wholeIteration_alone trivial }
  refine ⟨_, iteration, ?_⟩
  exact
    (loop_consumes_iff twoKeyConfig plainSettings oneScannerBuild rfl [] _ rfl
      wholeIteration _ iteration).mpr trivial

/--
The slave's value 5 is queued and an iteration passes: the message is still
in the queue and the current value of the slave key is still 0.
-/
theorem slave_values_stay_queued :
    ∃ st final,
      run (loopStep oneScannerBuild) (loopStart twoKeyConfig plainSettings)
          ((wholeCall 5).map LoopEvent.other) =
        some st ∧
      Iteration oneScannerBuild st wholeIteration final ∧
      st.adapter.kbhCoreMsgq = [.slaveValues] ∧
      final.adapter.kbhCoreMsgq = [.slaveValues] ∧
      final.adapter.latestSlaveValues ⟨0, by decide⟩ = 5 ∧
      final.adapter.core.currentValues 1 = 0 ∧
      ¬ ConsumesMessages st final := by
  refine
    ⟨_, _, rfl,
      { begins := rfl
        ran := rfl
        ends := rfl
        once := rfl
        noPut := thread_noPut rfl wholeIteration_alone trivial },
      rfl, rfl, rfl, rfl, fun consumes => ?_⟩
  exact absurd consumes.drained (List.cons_ne_nil _ _)

end YkbFirmware.KbHandler.CoreLoop
