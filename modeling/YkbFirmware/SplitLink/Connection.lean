import YkbFirmware.Library.TransitionSystem
import YkbFirmware.Library.WorkQueue

/-!
# Connection state

The Bluetooth transport keeps a level, `data->connected`, and conveys it to
the sync layer with two work items, one for each edge.  The work queue runs
each of them in the order of its submission, but a submission of an item that
still waits is dropped.  The sync layer therefore ends with the level exactly
if the last change of the level found its item free, or waiting at the end of
the queue.
-/

namespace YkbFirmware.SplitLink.Connection

open YkbFirmware.Library.TransitionSystem
open YkbFirmware.Library.WorkQueue

/-! ## The transport and the sync layer -/

inductive ConnectionWork where
  | connectWork
  | disconnectWork
deriving DecidableEq, Repr

/--
`connected` of `splitlink_bt_data`, the system work queue as far as it holds
the two work items, and the `connected` flag of the sync layer.
-/
structure ConnectionState where
  connected : Bool
  work : ItemQueue ConnectionWork
  syncConnected : Bool

def ConnectionState.initial : ConnectionState where
  connected := false
  work := .empty
  syncConnected := false

section Calls

variable (st : ConnectionState)

def splitlinkBtNotifyConnected : ConnectionState :=
  if st.connected then
    st
  else
    { st with
      connected := true
      work := st.work.submit .connectWork }

def splitlinkBtNotifyDisconnected : ConnectionState :=
  if !st.connected then
    st
  else
    { st with
      connected := false
      work := st.work.submit .disconnectWork }

/-- `splitlink_sync_protocol_on_connect`, by way of the core. -/
def splitlinkNotifyConnected : ConnectionState :=
  { st with syncConnected := true }

/-- `splitlink_sync_protocol_on_disconnect`, by way of the core. -/
def splitlinkNotifyDisconnected : ConnectionState :=
  { st with syncConnected := false }

/-- The handler of a work item. -/
def connectionWorkHandler : ConnectionWork → ConnectionState
  | .connectWork => splitlinkNotifyConnected st
  | .disconnectWork => splitlinkNotifyDisconnected st

end Calls

/-! ## Runs -/

/-- A call from the Bluetooth callbacks, or a step of the work queue. -/
inductive ConnectionEvent where
  | notifyConnected
  | notifyDisconnected
  | workBegins
  | workEnds

/-- Calls may fall between the begin and the end of a handler. -/
def connectionStep (st : ConnectionState) :
    ConnectionEvent → Option ConnectionState
  | .notifyConnected => some (splitlinkBtNotifyConnected st)
  | .notifyDisconnected => some (splitlinkBtNotifyDisconnected st)
  | .workBegins => st.work.begin.map fun begun => { st with work := begun }
  | .workEnds =>
      st.work.finish.map fun ended =>
        connectionWorkHandler { st with work := ended.2 } ended.1

/-- The item a call submits, if it changes the level. -/
def submission (st : ConnectionState) :
    ConnectionEvent → Option ConnectionWork
  | .notifyConnected => if st.connected then none else some .connectWork
  | .notifyDisconnected =>
      if st.connected then some .disconnectWork else none
  | .workBegins => none
  | .workEnds => none

/-- The event changes the level. -/
def ChangesLevel (st : ConnectionState) (event : ConnectionEvent) : Prop :=
  (submission st event).isSome = true

/-- The item the call submits is free, or already the last one waiting. -/
def Conveys (st : ConnectionState) (event : ConnectionEvent) : Prop :=
  ∀ work, submission st event = some work →
    work ∉ st.work.queued ∨ st.work.queued.getLast? = some work

instance (st : ConnectionState) (event : ConnectionEvent) :
    Decidable (ChangesLevel st event) :=
  inferInstanceAs (Decidable (_ = _))

instance (st : ConnectionState) (event : ConnectionEvent) :
    Decidable (Conveys st event) :=
  inferInstanceAs
    (Decidable
      (∀ work ∈ submission st event,
        work ∉ st.work.queued ∨ st.work.queued.getLast? = some work))

/-! ## The level on its way -/

/-- The level a work item conveys. -/
def ConnectionWork.level : ConnectionWork → Bool
  | .connectWork => true
  | .disconnectWork => false

/-- The flag of the sync layer once the work queue is idle. -/
def settledLevel (st : ConnectionState) : Bool :=
  (st.work.last.map ConnectionWork.level).getD st.syncConnected

/-- The sync layer will have the level of the transport. -/
def Settled (st : ConnectionState) : Prop :=
  settledLevel st = st.connected

section Steps

variable
    {st next : ConnectionState} {event : ConnectionEvent}
    {work : ConnectionWork}

theorem ConnectionWork.level_inj {first second : ConnectionWork} :
    first.level = second.level ↔ first = second := by
  cases first <;> cases second <;> decide

/-- What a change of the level does. -/
theorem submission_step
    (submits : submission st event = some work)
    (stepped : connectionStep st event = some next) :
    next =
      { st with
        connected := work.level
        work := st.work.submit work } := by
  cases event with
  | notifyConnected =>
      cases stepped
      rw [submission] at submits
      split_ifs at submits with level
      cases submits
      rw [splitlinkBtNotifyConnected, if_neg level]
      rfl
  | notifyDisconnected =>
      cases stepped
      rw [submission] at submits
      split_ifs at submits with level
      cases submits
      rw [splitlinkBtNotifyDisconnected, if_neg (by simp [level])]
      rfl
  | workBegins => cases submits
  | workEnds => cases submits

/-- A change of the level settles exactly if its item conveys it. -/
theorem settled_submission_iff
    (submits : submission st event = some work)
    (stepped : connectionStep st event = some next) :
    Settled next ↔ Conveys st event := by
  have conveys :
      Conveys st event ↔
        work ∉ st.work.queued ∨ st.work.queued.getLast? = some work := by
    constructor
    · exact fun all => all work submits
    · intro conveyed other same
      cases submits.symm.trans same
      exact conveyed
  rcases @ItemQueue.last_submit_isSome _ _ st.work work with ⟨final, last⟩
  rw [conveys, ← ItemQueue.last_submit_iff, submission_step submits stepped,
    Settled, settledLevel, last]
  simp only [Option.map_some, Option.getD_some, Option.some.injEq]
  exact ConnectionWork.level_inj

/-- The work queue delivers what is on its way. -/
theorem settledLevel_step
    (keeps : ¬ ChangesLevel st event)
    (stepped : connectionStep st event = some next) :
    settledLevel next = settledLevel st ∧ next.connected = st.connected := by
  cases event with
  | notifyConnected =>
      cases stepped
      cases level : st.connected with
      | false => simp [ChangesLevel, submission, level] at keeps
      | true =>
          rw [splitlinkBtNotifyConnected, if_pos level]
          exact ⟨rfl, level⟩
  | notifyDisconnected =>
      cases stepped
      cases level : st.connected with
      | true => simp [ChangesLevel, submission, level] at keeps
      | false =>
          rw [splitlinkBtNotifyDisconnected, if_pos (by simp [level])]
          exact ⟨rfl, level⟩
  | workBegins =>
      rcases Option.map_eq_some_iff.mp stepped with ⟨begun, begins, rfl⟩
      refine ⟨?_, rfl⟩
      rw [settledLevel, settledLevel, ItemQueue.last_begin begins]
  | workEnds =>
      rcases Option.map_eq_some_iff.mp stepped with
        ⟨⟨item, ended⟩, finishes, rfl⟩
      have last := ItemQueue.last_finish finishes
      have handled :
          ∀ state : ConnectionState,
            connectionWorkHandler state item =
              { state with syncConnected := item.level } := by
        intro state
        cases item <;> rfl
      rw [handled]
      refine ⟨?_, rfl⟩
      rw [settledLevel, settledLevel, last]
      cases ended.last <;> rfl

/-! Either call leaves its own level. -/

theorem notifyConnected_connected (link : ConnectionState) :
    (splitlinkBtNotifyConnected link).connected = true := by
  rw [splitlinkBtNotifyConnected]
  split_ifs with connected
  · exact connected
  · rfl

theorem notifyDisconnected_connected (link : ConnectionState) :
    (splitlinkBtNotifyDisconnected link).connected = false := by
  rw [splitlinkBtNotifyDisconnected]
  split_ifs with disconnected
  · simpa using disconnected
  · rfl

/-- The level stays as it is, or takes a step of its own. -/
def LinkSteps (before after : ConnectionState) : Prop :=
  after = before ∨ ∃ event, connectionStep before event = some after

end Steps

/--
When neither work item waits or runs, the sync layer has the level of the
transport if and only if the last call that changed the level found its work
item not waiting, or waiting at the end of the queue.
-/
theorem connection_converges_iff
    (events : List ConnectionEvent) (finish : ConnectionState)
    (ran : run connectionStep .initial events = some finish)
    (idle : finish.work.Idle) :
    finish.syncConnected = finish.connected ↔
      LastMeets connectionStep ChangesLevel Conveys True .initial events := by
  have settled :
      finish.syncConnected = finish.connected ↔ Settled finish := by
    rw [Settled, settledLevel, ItemQueue.last_idle idle]
    exact Iff.rfl
  have changed :
      ∀ st event next,
        ChangesLevel st event → connectionStep st event = some next →
          (Settled next ↔ Conveys st event) := by
    intro st event next changes stepped
    rcases Option.isSome_iff_exists.mp changes with ⟨work, submits⟩
    exact settled_submission_iff submits stepped
  have kept :
      ∀ st event next,
        ¬ ChangesLevel st event → connectionStep st event = some next →
          (Settled next ↔ Settled st) := by
    intro st event next keeps stepped
    rcases settledLevel_step keeps stepped with ⟨level, connected⟩
    rw [Settled, Settled, level, connected]
  exact
    settled.trans
      (run_iff_lastMeets changed kept (iff_of_true rfl trivial) ran)

/-- A reconnection while the disconnection is being conveyed. -/
def conveyedReconnection : List ConnectionEvent :=
  [.notifyConnected, .workBegins, .notifyDisconnected, .workEnds,
    .workBegins, .notifyConnected, .workEnds, .workBegins, .workEnds]

theorem conveyedReconnection_converges :
    ∃ finish,
      run connectionStep .initial conveyedReconnection = some finish ∧
      finish.work.Idle ∧ finish.connected = true ∧
      finish.syncConnected = finish.connected := by
  refine ⟨_, rfl, ⟨rfl, rfl⟩, rfl, ?_⟩
  exact
    (connection_converges_iff conveyedReconnection _ rfl ⟨rfl, rfl⟩).mpr
      (by decide)

/-- Connected, disconnected, connected again before any work ran. -/
theorem reconnection_stays_disconnected :
    ¬ ∀ (events : List ConnectionEvent) (finish : ConnectionState),
      run connectionStep .initial events = some finish →
        finish.work.Idle →
          finish.syncConnected = finish.connected := by
  intro converges
  have level :=
    converges
      [.notifyConnected, .notifyDisconnected, .notifyConnected,
        .workBegins, .workEnds, .workBegins, .workEnds]
      _ rfl ⟨rfl, rfl⟩
  cases level

end YkbFirmware.SplitLink.Connection
