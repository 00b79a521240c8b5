import YkbFirmware.Library.WorkQueue
import YkbFirmware.Library.Bracketing
import YkbFirmware.Library.TransitionSystem
import YkbFirmware.Esb.Radio

/-!
# The link over Enhanced ShockBurst

`ptx.c` and `prx.c` make a link of a radio that only exchanges packets.  The
link counts as up from the first sign of the other side, and as down when
there was none for a while: every sign starts the time again.  Both edges
reach the core through items of the system work queue, and the item of the
falling edge is delayed by a timer.

The handler of that item is three steps, since a sign may arrive before it
clears the level, or between that and its report to the core.  A timer that is
to be started while its item runs is not: the kernel takes the item for one
that is being canceled.

A callback of the radio is a single step: it is an interrupt, and the work
queue does not come in between.  Where the radio is on another core, a thread
makes the callback, and nothing in the source guarantees the same.
-/

namespace YkbFirmware.SplitLink.EsbLink

open YkbFirmware.Library.TransitionSystem
open YkbFirmware.Library.WorkQueue
open YkbFirmware.Library.Bracketing
open YkbFirmware.Esb.Driver (YkbEsbMode)
open YkbFirmware.Esb.Radio (YkbEsbData YkbEsbEvent)

/-! ## State -/

inductive LinkWork where
  | connectWork
  | receivingWork
  | disconnectWork
deriving DecidableEq, Repr

/-- `struct splitlink_data`, and the work queue as far as it holds its items. -/
structure LinkState where
  connected : Bool
  work : ItemQueue LinkWork
  /-- The timer of `disconnect_work` is running. -/
  timer : Bool
  /-- The running `disconnect_work_handler` has cleared `connected`. -/
  cleared : Bool
  /-- `data` of `receiving_work`. -/
  received : List UInt8

def LinkState.initial : LinkState where
  connected := false
  work := .empty
  timer := false
  cleared := false
  received := []

def flagAlive : UInt8 := 0

def flagData : UInt8 := 1

section Calls

variable (st : LinkState)

/-! ## Signs of the other side -/

/-- `if (!dev_data->connected) { … }` -/
def noteConnection : LinkState :=
  if st.connected then
    st
  else
    { st with
      connected := true
      work := st.work.submit .connectWork }

/-- `k_work_cancel_delayable` and `k_work_schedule` of `disconnect_work`. -/
def restartTimer : LinkState :=
  { st with
    work := st.work.cancel .disconnectWork
    timer := decide (st.work.running ≠ some .disconnectWork) }

/-- The copy of a message, and the submission of `receiving_work`. -/
def storeReceived (message : List UInt8) : LinkState :=
  { st with
    received := message
    work := st.work.submit .receivingWork }

/--
The message of a packet that a callback reports, if it is one of data.  A
transmitter asks for two bytes of it where a receiver asks for one.
-/
def messageOf (mode : YkbEsbMode) (buf : List UInt8) (dataLength : Nat) :
    Option (List UInt8) :=
  let least :=
    match mode with
    | .ptx => 2
    | .prx => 1
  if dataLength > least ∧ buf.head? = some flagData then
    some ((buf.take dataLength).tail)
  else
    none

/-- `on_esb_callback` of `ptx.c` and of `prx.c`. -/
def onEsbCallback (mode : YkbEsbMode) : YkbEsbEvent → LinkState
  | .rx buf dataLength =>
      let message := messageOf mode buf dataLength.toNat
      match mode with
      | .ptx => (message.map (storeReceived st)).getD st
      | .prx =>
          let st := noteConnection st
          restartTimer ((message.map (storeReceived st)).getD st)
  | .txSuccess =>
      match mode with
      | .ptx => restartTimer (noteConnection st)
      | .prx => st
  | .txFail => st

end Calls

/-! ## Runs -/

inductive LinkEvent where
  | callback (event : YkbEsbEvent)
  | timerExpires
  | workBegins
  | disconnectClears
  | workEnds

def linkStep (mode : YkbEsbMode) (st : LinkState) :
    LinkEvent → Option LinkState
  | .callback event => some (onEsbCallback st mode event)
  | .timerExpires =>
      if st.timer then
        some
          { st with
            timer := false
            work := st.work.submit .disconnectWork }
      else
        none
  | .workBegins =>
      st.work.begin.map fun begun =>
        { st with
          work := begun
          cleared := false }
  | .disconnectClears =>
      if st.work.running = some .disconnectWork ∧ st.cleared = false then
        some
          { st with
            connected := false
            cleared := true }
      else
        none
  | .workEnds =>
      if st.work.running = some .disconnectWork ∧ st.cleared = false then
        none
      else
        st.work.finish.map fun ended => { st with work := ended.2 }

/-- A call of the core. -/
inductive CoreCall where
  | notifyConnected
  | notifyDisconnected
  | notifyReceive (data : List UInt8)
deriving DecidableEq, Repr

/-- What the handlers of the work items call. -/
def coreCalls (st : LinkState) : LinkEvent → List CoreCall
  | .workEnds =>
      match st.work.running with
      | some .connectWork => [.notifyConnected]
      | some .receivingWork => [.notifyReceive st.received]
      | some .disconnectWork => [.notifyDisconnected]
      | none => []
  | _ => []

/-! ## The life of a link -/

/-- The edge an item reports. -/
def edge : LinkWork → Option Bool
  | .connectWork => some true
  | .receivingWork => none
  | .disconnectWork => some false

/-- Where a link is between two reports. -/
inductive LinkPhase where
  | down
  | rising
  | up
  | expiring
  | risingExpiring
  | dropping
  | dropped
  | recovering
deriving DecidableEq, Repr

namespace LinkPhase

/-- The edge reported last, or a falling one. -/
def reported : LinkPhase → Bool
  | .down | .rising | .risingExpiring => false
  | .up | .expiring | .dropping | .dropped | .recovering => true

/-- The edges still to be reported. -/
def ahead : LinkPhase → List Bool
  | .down | .up => []
  | .rising => [true]
  | .risingExpiring => [true, false]
  | .expiring | .dropping | .dropped => [false]
  | .recovering => [false, true]

def connected : LinkPhase → Bool
  | .down | .dropped => false
  | .rising | .up | .expiring | .risingExpiring | .dropping |
    .recovering => true

/-- The handler of the falling edge runs. -/
def drops : LinkPhase → Bool
  | .dropping | .dropped | .recovering => true
  | .down | .rising | .up | .expiring | .risingExpiring => false

/-- It has cleared the level. -/
def cleared : LinkPhase → Bool
  | .dropped | .recovering => true
  | .down | .rising | .up | .expiring | .risingExpiring |
    .dropping => false

/-- The timer may be running. -/
def timed : LinkPhase → Bool
  | .rising | .up => true
  | .down | .expiring | .risingExpiring | .dropping | .dropped |
    .recovering => false

/-- The level is noted. -/
def noted : LinkPhase → LinkPhase
  | .down => .rising
  | .dropped => .recovering
  | phase => phase

/-- The falling edge is put off, unless it is on its way. -/
def putOff : LinkPhase → LinkPhase
  | .risingExpiring => .rising
  | .expiring => .up
  | phase => phase

/-- The handler of an item begins. -/
def begun : LinkWork → LinkPhase → LinkPhase
  | .disconnectWork, .expiring => .dropping
  | _, phase => phase

/-- The handler of an item ends. -/
def ended : LinkWork → LinkPhase → LinkPhase
  | .connectWork, .rising => .up
  | .connectWork, .risingExpiring => .expiring
  | .disconnectWork, .dropped => .down
  | .disconnectWork, .recovering => .rising
  | _, phase => phase

/-- The falling edge waits in the queue. -/
def expired : LinkPhase → LinkPhase
  | .rising => .risingExpiring
  | .up => .expiring
  | phase => phase

end LinkPhase

/-- The phase says what is known of a state. -/
structure InPhase (st : LinkState) (phase : LinkPhase) : Prop where
  connected : st.connected = phase.connected
  ahead : st.work.ahead edge = phase.ahead
  drops :
    st.work.running = some .disconnectWork ↔ phase.drops = true
  cleared : phase.drops = true → st.cleared = phase.cleared
  timed : st.timer = true → phase.timed = true

section Phases

variable {mode : YkbEsbMode} {st next : LinkState} {phase : LinkPhase}

theorem edge_disconnect (work : LinkWork) :
    edge work = some false ↔ work = .disconnectWork := by
  cases work <;> decide

/-- The timer runs only while it can expire, and while the level is high. -/
theorem InPhase.timed_of_timer
    (inPhase : InPhase st phase) (timer : st.timer = true) :
    phase = .rising ∨ phase = .up := by
  have timed := inPhase.timed timer
  cases phase <;> simp [LinkPhase.timed] at timed ⊢

theorem InPhase.storeReceived
    (inPhase : InPhase st phase) (message : List UInt8) :
    InPhase (storeReceived st message) phase where
  connected := inPhase.connected
  ahead := by
    have unmarked :
        ∀ found, edge .receivingWork = some found →
          found ∉ st.work.ahead edge :=
      fun _ impossible => by cases impossible
    rw [EsbLink.storeReceived, ItemQueue.ahead_submit unmarked]
    exact (List.append_nil _).trans inPhase.ahead
  drops := by
    rw [EsbLink.storeReceived, ItemQueue.submit_running]
    exact inPhase.drops
  cleared := inPhase.cleared
  timed := inPhase.timed

/-- The level is low in two phases. -/
theorem LinkPhase.low_cases (low : phase.connected = false) :
    phase = .down ∨ phase = .dropped := by
  cases phase <;> simp [LinkPhase.connected] at low ⊢

theorem LinkPhase.noted_high (high : phase.connected = true) :
    phase.noted = phase := by
  cases phase <;> first | rfl | cases high

theorem InPhase.noteConnection (inPhase : InPhase st phase) :
    InPhase (noteConnection st) phase.noted := by
  rw [EsbLink.noteConnection]
  split_ifs with high
  · rw [inPhase.connected] at high
    rw [LinkPhase.noted_high high]
    exact inPhase
  · have low : phase.connected = false := by
      rw [← inPhase.connected]
      simpa using high
    have free :
        ∀ found, edge .connectWork = some found →
          found ∉ st.work.ahead edge := by
      rintro found ⟨⟩
      rw [inPhase.ahead]
      rcases LinkPhase.low_cases low with rfl | rfl <;> decide
    have submitted := ItemQueue.ahead_submit free
    rw [inPhase.ahead] at submitted
    rcases LinkPhase.low_cases low with rfl | rfl
    · refine
        ⟨rfl, submitted, ?_, fun drops => Bool.noConfusion drops,
          fun _ => rfl⟩
      rw [ItemQueue.submit_running]
      exact inPhase.drops
    · refine ⟨rfl, submitted, ?_, fun _ => inPhase.cleared rfl, ?_⟩
      · rw [ItemQueue.submit_running]
        exact inPhase.drops
      · exact fun timer => absurd (inPhase.timed timer) (by decide)

theorem InPhase.restartTimer (inPhase : InPhase st phase)
    (high : phase.connected = true) :
    InPhase (restartTimer st) phase.putOff := by
  by_cases drops : st.work.running = some .disconnectWork
  · have canceled := ItemQueue.ahead_cancel_running edge_disconnect drops
    rw [inPhase.ahead] at canceled
    have dropping := inPhase.drops.mp drops
    have same : phase.putOff = phase := by
      cases phase <;> first | rfl | cases dropping
    rw [same]
    refine
      ⟨inPhase.connected, canceled.trans ?_, inPhase.drops,
        inPhase.cleared, fun timer => ?_⟩
    · cases phase <;> simp [LinkPhase.drops] at dropping <;> rfl
    · exact absurd drops (of_decide_eq_true timer)
  · have canceled := ItemQueue.ahead_cancel edge_disconnect drops
    rw [inPhase.ahead] at canceled
    have rising : phase.drops = false := by
      rw [inPhase.drops] at drops
      simpa using drops
    refine ⟨?_, canceled.trans ?_, ?_, fun later => ?_, fun _ => ?_⟩
    · rw [EsbLink.restartTimer, inPhase.connected]
      cases phase <;> rfl
    · cases phase <;> simp [LinkPhase.drops] at rising <;> rfl
    · refine iff_of_false drops ?_
      cases phase <;> simp [LinkPhase.drops] at rising <;> decide
    · cases phase <;> simp [LinkPhase.drops] at rising <;> cases later
    · cases phase <;>
        simp [LinkPhase.drops, LinkPhase.connected] at rising high <;> rfl

/-- A sign of the other side. -/
def LinkPhase.contact (phase : LinkPhase) : LinkPhase :=
  phase.noted.putOff

theorem LinkPhase.noted_connected (phase : LinkPhase) :
    phase.noted.connected = true := by
  cases phase <;> rfl

/-- Every callback leaves the phase as it is or is a sign. -/
def Contacts (mode : YkbEsbMode) : YkbEsbEvent → Bool
  | .rx _ _ => decide (mode = .prx)
  | .txSuccess => decide (mode = .ptx)
  | .txFail => false

theorem InPhase.stored
    (inPhase : InPhase st phase) (message : Option (List UInt8)) :
    InPhase ((message.map (EsbLink.storeReceived st)).getD st) phase := by
  cases message with
  | none => exact inPhase
  | some data => exact inPhase.storeReceived data

theorem InPhase.callback
    (inPhase : InPhase st phase) (event : YkbEsbEvent) :
    InPhase (onEsbCallback st mode event)
      (if Contacts mode event then phase.contact else phase) := by
  have noted := inPhase.noteConnection
  have high := phase.noted_connected
  cases mode with
  | ptx =>
      cases event with
      | rx buf dataLength => exact inPhase.stored _
      | txSuccess => exact noted.restartTimer high
      | txFail => exact inPhase
  | prx =>
      cases event with
      | rx buf dataLength => exact (noted.stored _).restartTimer high
      | txSuccess => exact inPhase
      | txFail => exact inPhase

theorem InPhase.timerExpires
    (inPhase : InPhase st phase) (timer : st.timer = true) :
    InPhase
      { st with
        timer := false
        work := st.work.submit .disconnectWork }
      phase.expired := by
  have free :
      ∀ found, edge .disconnectWork = some found →
        found ∉ st.work.ahead edge := by
    rintro found ⟨⟩
    rw [inPhase.ahead]
    rcases inPhase.timed_of_timer timer with rfl | rfl <;> decide
  have submitted := ItemQueue.ahead_submit free
  rw [inPhase.ahead] at submitted
  rcases inPhase.timed_of_timer timer with rfl | rfl
  all_goals
    refine
      ⟨inPhase.connected, submitted, ?_,
        fun drops => Bool.noConfusion drops,
        fun impossible => Bool.noConfusion impossible⟩
    rw [ItemQueue.submit_running]
    exact inPhase.drops

theorem LinkPhase.begun_other
    (phase : LinkPhase) {item : LinkWork} (other : item ≠ .disconnectWork) :
    phase.begun item = phase := by
  cases item with
  | connectWork | receivingWork => rfl
  | disconnectWork => exact absurd rfl other

theorem InPhase.workBegins
    {begun : ItemQueue LinkWork} (inPhase : InPhase st phase)
    (begins : st.work.begin = some begun) :
    ∃ item,
      InPhase
        { st with
          work := begun
          cleared := false }
        (phase.begun item) := by
  have ahead := @ItemQueue.ahead_begin _ _ edge _ _ begins
  rcases ItemQueue.running_of_begin begins with
    ⟨idle, item, rest, queue, rfl⟩
  have rising : phase.drops = false := by
    have drops := inPhase.drops
    rw [idle] at drops
    simpa using drops
  refine ⟨item, ?_⟩
  rw [inPhase.ahead] at ahead
  by_cases disconnects : item = .disconnectWork
  · subst disconnects
    -- no rising edge is ahead of the falling one
    have expiring : phase = .expiring := by
      simp only [ItemQueue.ahead, Option.toList_some, List.cons_append,
        List.filterMap_cons, edge] at ahead
      cases phase <;>
        simp [LinkPhase.ahead, LinkPhase.drops] at ahead rising ⊢
    subst expiring
    exact
      ⟨inPhase.connected, ahead, iff_of_true rfl rfl, fun _ => rfl,
        inPhase.timed⟩
  · rw [LinkPhase.begun_other phase disconnects]
    have other : (some item : Option LinkWork) ≠ some .disconnectWork :=
      fun same => disconnects (Option.some.inj same)
    exact
      ⟨inPhase.connected, ahead, iff_of_false other (by simp [rising]),
        fun drops => absurd drops (by simp [rising]), inPhase.timed⟩

theorem InPhase.disconnectClears
    (inPhase : InPhase st phase)
    (running : st.work.running = some .disconnectWork)
    (uncleared : st.cleared = false) :
    phase = .dropping ∧
      InPhase
        { st with
          connected := false
          cleared := true }
        .dropped := by
  have drops := inPhase.drops.mp running
  have cleared := inPhase.cleared drops
  rw [uncleared] at cleared
  have dropping : phase = .dropping := by
    cases phase <;>
      simp [LinkPhase.drops, LinkPhase.cleared] at drops cleared ⊢
  subst dropping
  exact
    ⟨rfl, rfl, inPhase.ahead, inPhase.drops, fun _ => rfl, inPhase.timed⟩

theorem InPhase.workEnds
    {item : LinkWork} {ended : ItemQueue LinkWork}
    (inPhase : InPhase st phase)
    (cleared :
      ¬ (st.work.running = some .disconnectWork ∧ st.cleared = false))
    (finishes : st.work.finish = some (item, ended)) :
    InPhase { st with work := ended } (phase.ended item) ∧
      (edge item = none ∨
        edge item = some true ∧ phase.reported = false ∧
          (phase.ended item).reported = true ∨
        edge item = some false ∧ phase.reported = true ∧
          (phase.ended item).reported = false) := by
  have ahead := @ItemQueue.ahead_finish _ _ edge _ _ _ finishes
  rcases ItemQueue.running_of_finish finishes with ⟨running, idle⟩
  rw [inPhase.ahead] at ahead
  have stopped : ended.running ≠ some .disconnectWork := by
    rw [idle]
    decide
  have drops := inPhase.drops
  rw [running] at drops
  cases item with
  | receivingWork =>
      have rising : phase.drops = false := by simpa using drops
      exact
        ⟨⟨inPhase.connected, ahead.symm,
            iff_of_false stopped (by simp [LinkPhase.ended, rising]),
            inPhase.cleared, inPhase.timed⟩,
          .inl rfl⟩
  | connectWork =>
      have rising : phase = .rising ∨ phase = .risingExpiring := by
        have unset : phase.drops = false := by simpa using drops
        cases phase <;>
          simp [LinkPhase.ahead, LinkPhase.drops, edge] at ahead unset ⊢
      rcases rising with rfl | rfl
      all_goals
        refine
          ⟨⟨inPhase.connected, (List.cons.inj ahead).2.symm,
              iff_of_false stopped (by decide),
              fun impossible => Bool.noConfusion impossible, ?_⟩,
            .inr (.inl ⟨rfl, rfl, rfl⟩)⟩
      · exact fun _ => rfl
      · exact inPhase.timed
  | disconnectWork =>
      have set : phase.drops = true := drops.mp rfl
      have known : phase.cleared = true := by
        rw [← inPhase.cleared set]
        simpa [running] using cleared
      have dropped : phase = .dropped ∨ phase = .recovering := by
        cases phase <;> simp [LinkPhase.cleared] at known ⊢
      have timer : st.timer = false := by
        by_contra timer
        have timed := inPhase.timed (by simpa using timer)
        rcases dropped with rfl | rfl <;> cases timed
      rcases dropped with rfl | rfl
      all_goals
        exact
          ⟨⟨inPhase.connected, (List.cons.inj ahead).2.symm,
              iff_of_false stopped (by decide),
              fun impossible => Bool.noConfusion impossible,
              fun runs => absurd runs (by simp [timer])⟩,
            .inr (.inr ⟨rfl, rfl, rfl⟩)⟩

end Phases

/-! ## Reports take turns -/

/-- Of the calls of the core, those for an edge are marks. -/
def edgeMark : CoreCall → Option (Bool × Unit)
  | .notifyConnected => some (true, ())
  | .notifyDisconnected => some (false, ())
  | .notifyReceive _ => none

/-- The mark that is pending once the edge has been reported. -/
def pendingEdge (reported : Bool) : Option Unit :=
  if reported then some () else none

section Reports

variable {mode : YkbEsbMode} {st next : LinkState} {event : LinkEvent}

theorem LinkPhase.reported_contact (phase : LinkPhase) :
    phase.contact.reported = phase.reported := by
  cases phase <;> rfl

theorem LinkPhase.reported_expired (phase : LinkPhase) :
    phase.expired.reported = phase.reported := by
  cases phase <;> rfl

theorem LinkPhase.reported_begun (phase : LinkPhase) (item : LinkWork) :
    (phase.begun item).reported = phase.reported := by
  cases item <;> cases phase <;> rfl

/-- A state in some phase, with what has been reported before it. -/
def Reported (st : LinkState) (log : List (Bool × Unit)) : Prop :=
  ∃ phase, InPhase st phase ∧ Bracketed (pendingEdge phase.reported) log

theorem reported_step
    {log : List (Bool × Unit)} (reported : Reported st log)
    (stepped : linkStep mode st event = some next) :
    Reported next (log ++ (coreCalls st event).filterMap edgeMark) := by
  rcases reported with ⟨phase, inPhase, bracketed⟩
  cases event with
  | callback event =>
      cases stepped
      refine ⟨_, inPhase.callback event, ?_⟩
      simp only [coreCalls, List.filterMap_nil, List.append_nil]
      split_ifs
      · rw [LinkPhase.reported_contact]
        exact bracketed
      · exact bracketed
  | timerExpires =>
      rw [linkStep] at stepped
      split_ifs at stepped with timer
      cases stepped
      refine ⟨_, inPhase.timerExpires timer, ?_⟩
      rw [LinkPhase.reported_expired]
      simpa [coreCalls] using bracketed
  | workBegins =>
      rcases Option.map_eq_some_iff.mp stepped with ⟨begun, begins, rfl⟩
      rcases inPhase.workBegins begins with ⟨item, inNext⟩
      refine ⟨_, inNext, ?_⟩
      rw [LinkPhase.reported_begun]
      simpa [coreCalls] using bracketed
  | disconnectClears =>
      rw [linkStep] at stepped
      split_ifs at stepped with running
      cases stepped
      rcases inPhase.disconnectClears running.1 running.2 with
        ⟨rfl, inNext⟩
      refine ⟨.dropped, inNext, ?_⟩
      simpa [coreCalls, LinkPhase.reported] using bracketed
  | workEnds =>
      rw [linkStep] at stepped
      split_ifs at stepped with uncleared
      rcases Option.map_eq_some_iff.mp stepped with
        ⟨⟨item, ended⟩, finishes, rfl⟩
      rcases inPhase.workEnds uncleared finishes with ⟨inNext, edges⟩
      have running := (ItemQueue.running_of_finish finishes).1
      refine ⟨_, inNext, ?_⟩
      cases item with
      | receivingWork =>
          have silent :
              (coreCalls st .workEnds).filterMap edgeMark = [] := by
            rw [coreCalls, running]
            rfl
          rw [silent, List.append_nil]
          exact bracketed
      | connectWork =>
          rcases edges with none | ⟨-, before, after⟩ | ⟨wrong, -, -⟩
          · cases none
          · rw [before] at bracketed
            rw [coreCalls, running, after]
            exact Bracketed.opened bracketed ()
          · cases wrong
      | disconnectWork =>
          rcases edges with none | ⟨wrong, -, -⟩ | ⟨-, before, after⟩
          · cases none
          · cases wrong
          · rw [before] at bracketed
            rw [coreCalls, running, after]
            exact Bracketed.closed bracketed

theorem reported_initial : Reported .initial [] := by
  refine ⟨.down, ⟨rfl, rfl, ?_, ?_, ?_⟩, Bracketed.nil⟩
  · exact iff_of_false (by decide) (by decide)
  · exact fun impossible => Bool.noConfusion impossible
  · exact fun impossible => Bool.noConfusion impossible

end Reports

/--
The core hears of a connection and of a disconnection in turns, a connection
first, whatever happens between the steps of the work queue.
-/
theorem link_reports_take_turns
    (mode : YkbEsbMode) (events : List LinkEvent) (finish : LinkState)
    (ran : run (linkStep mode) .initial events = some finish) :
    Alternates
      (((collected (linkStep mode) coreCalls .initial events).filterMap
          edgeMark).map Prod.fst) := by
  have preserved :
      ∀ st (log : List CoreCall) event next,
        Reported st (log.filterMap edgeMark) → True →
          linkStep mode st event = some next →
            Reported next ((log ++ coreCalls st event).filterMap edgeMark) := by
    intro st log event next reported _ stepped
    rw [List.filterMap_append]
    exact reported_step reported stepped
  have reported :=
    run_preserves_collected preserved
      (show Reported .initial (([] : List CoreCall).filterMap edgeMark) from
        reported_initial)
      (fun _ _ => trivial) ran
  rw [List.nil_append] at reported
  rcases reported with ⟨phase, -, bracketed⟩
  exact bracketed.alternates

/-! ## The timer -/

/-- A high level has a timer or an item that will bring it down. -/
def OnItsWay (st : LinkState) : Prop :=
  st.connected = true →
    st.timer = true ∨ .disconnectWork ∈ st.work.queued ∨
      st.work.running = some .disconnectWork ∧ st.cleared = false

/-- A callback that is a sign of the other side. -/
def IsContact (mode : YkbEsbMode) (_ : LinkState) : LinkEvent → Prop
  | .callback event => Contacts mode event = true
  | _ => False

/-- The running handler has not cleared the level. -/
def Unspent (st : LinkState) (_ : LinkEvent) : Prop :=
  st.work.running = some .disconnectWork → st.cleared = false

/-- What the phase and the timer say of `OnItsWay`. -/
def LinkPhase.watched (phase : LinkPhase) (timer : Bool) : Bool :=
  match phase with
  | .rising | .up => timer
  | .recovering => false
  | .down | .expiring | .risingExpiring | .dropping | .dropped => true

section Timer

variable
    {mode : YkbEsbMode} {st next : LinkState} {phase : LinkPhase}
    {event : LinkEvent}

/-- The falling edge waits exactly if it is ahead and its item does not run. -/
theorem InPhase.waits_iff (inPhase : InPhase st phase) :
    LinkWork.disconnectWork ∈ st.work.queued ↔
      false ∈
        if phase.drops then phase.ahead.tail else phase.ahead := by
  have queued :
      LinkWork.disconnectWork ∈ st.work.queued ↔
        false ∈ st.work.queued.filterMap edge := by
    rw [List.mem_filterMap]
    constructor
    · exact fun member => ⟨_, member, rfl⟩
    · rintro ⟨work, member, marked⟩
      rw [(edge_disconnect work).mp marked] at member
      exact member
  rw [queued, ← inPhase.ahead, ItemQueue.ahead, List.filterMap_append]
  cases running : st.work.running with
  | none =>
      have drops := inPhase.drops
      rw [running] at drops
      rw [if_neg (by simpa using drops)]
      rfl
  | some item =>
      have drops := inPhase.drops
      rw [running] at drops
      cases item with
      | connectWork =>
          rw [if_neg (by simpa using drops)]
          simp [edge]
      | receivingWork =>
          rw [if_neg (by simpa using drops)]
          simp [edge]
      | disconnectWork =>
          rw [if_pos (drops.mp rfl)]
          simp [edge]

theorem InPhase.onItsWay_iff (inPhase : InPhase st phase) :
    OnItsWay st ↔ phase.watched st.timer = true := by
  have waits := inPhase.waits_iff
  have timer : phase.timed = false → st.timer = false := by
    intro untimed
    by_contra timer
    rw [inPhase.timed (by simpa using timer)] at untimed
    cases untimed
  rw [OnItsWay, inPhase.connected, waits, inPhase.drops]
  cases phase with
  | down | dropped => simp [LinkPhase.connected, LinkPhase.watched]
  | rising | up =>
      simp [LinkPhase.connected, LinkPhase.watched, LinkPhase.drops,
        LinkPhase.ahead]
  | expiring | risingExpiring =>
      simp [LinkPhase.watched, LinkPhase.drops, LinkPhase.ahead]
  | dropping =>
      have uncleared : st.cleared = false := inPhase.cleared rfl
      simp [LinkPhase.watched, LinkPhase.drops, uncleared]
  | recovering =>
      have cleared : st.cleared = true := inPhase.cleared rfl
      simp [LinkPhase.connected, LinkPhase.watched, LinkPhase.drops,
        LinkPhase.ahead, cleared, timer rfl]

theorem InPhase.unspent_iff (inPhase : InPhase st phase) :
    Unspent st event ↔ (phase.drops && phase.cleared) = false := by
  rw [Unspent, inPhase.drops]
  cases drops : phase.drops with
  | false => simp
  | true => simp [inPhase.cleared drops]

theorem restartTimer_timer (inPhase : InPhase st phase) :
    (restartTimer st).timer = !phase.drops := by
  rw [restartTimer]
  cases drops : phase.drops with
  | false => simp [inPhase.drops, drops]
  | true => simp [inPhase.drops, drops]

theorem LinkPhase.noted_drops (phase : LinkPhase) :
    phase.noted.drops = phase.drops := by
  cases phase <;> rfl

/-- A sign starts the timer unless the item runs. -/
theorem InPhase.contact_timer
    {event : YkbEsbEvent} (inPhase : InPhase st phase)
    (contacts : Contacts mode event = true) :
    (onEsbCallback st mode event).timer = !phase.drops := by
  have noted := inPhase.noteConnection
  rw [← phase.noted_drops]
  cases mode with
  | ptx =>
      cases event with
      | rx | txFail => cases contacts
      | txSuccess => exact restartTimer_timer noted
  | prx =>
      cases event with
      | rx buf dataLength => exact restartTimer_timer (noted.stored _)
      | txSuccess | txFail => cases contacts

theorem quiet_callback_timer
    {event : YkbEsbEvent} (quiet : Contacts mode event = false) :
    (onEsbCallback st mode event).timer = st.timer := by
  cases mode with
  | ptx =>
      cases event with
      | rx buf dataLength =>
          rw [onEsbCallback]
          cases messageOf .ptx buf dataLength.toNat <;> rfl
      | txSuccess => cases quiet
      | txFail => rfl
  | prx =>
      cases event with
      | rx buf dataLength => cases quiet
      | txSuccess | txFail => rfl

/-- Some phase tells what is known of the state. -/
def Staged (st : LinkState) : Prop :=
  ∃ phase, InPhase st phase

theorem staged_step
    (staged : Staged st) (stepped : linkStep mode st event = some next) :
    Staged next := by
  rcases staged with ⟨phase, inPhase⟩
  cases event with
  | callback event =>
      cases stepped
      exact ⟨_, inPhase.callback event⟩
  | timerExpires =>
      rw [linkStep] at stepped
      split_ifs at stepped with timer
      cases stepped
      exact ⟨_, inPhase.timerExpires timer⟩
  | workBegins =>
      rcases Option.map_eq_some_iff.mp stepped with ⟨begun, begins, rfl⟩
      rcases inPhase.workBegins begins with ⟨item, inNext⟩
      exact ⟨_, inNext⟩
  | disconnectClears =>
      rw [linkStep] at stepped
      split_ifs at stepped with running
      cases stepped
      exact ⟨_, (inPhase.disconnectClears running.1 running.2).2⟩
  | workEnds =>
      rw [linkStep] at stepped
      split_ifs at stepped with uncleared
      rcases Option.map_eq_some_iff.mp stepped with
        ⟨⟨item, ended⟩, finishes, rfl⟩
      exact ⟨_, (inPhase.workEnds uncleared finishes).1⟩

/-- A sign is watched exactly if it does not come too late. -/
theorem onItsWay_contact
    (staged : Staged st) (contact : IsContact mode st event)
    (stepped : linkStep mode st event = some next) :
    OnItsWay next ↔ Unspent st event := by
  rcases staged with ⟨phase, inPhase⟩
  cases event with
  | callback event =>
      cases stepped
      have contacts : Contacts mode event = true := contact
      have inNext := @InPhase.callback mode _ _ inPhase event
      rw [if_pos contacts] at inNext
      rw [inNext.onItsWay_iff, inPhase.contact_timer contacts,
        inPhase.unspent_iff]
      cases phase <;> decide
  | timerExpires | workBegins | disconnectClears | workEnds => cases contact

/-- Nothing else makes a falling edge come or go. -/
theorem onItsWay_kept
    (staged : Staged st) (other : ¬ IsContact mode st event)
    (stepped : linkStep mode st event = some next) :
    OnItsWay next ↔ OnItsWay st := by
  rcases staged with ⟨phase, inPhase⟩
  rw [inPhase.onItsWay_iff]
  cases event with
  | callback event =>
      cases stepped
      have quiet : Contacts mode event = false := by
        simpa [IsContact] using other
      have inNext := @InPhase.callback mode _ _ inPhase event
      rw [if_neg (by simp [quiet])] at inNext
      rw [inNext.onItsWay_iff, quiet_callback_timer quiet]
  | timerExpires =>
      rw [linkStep] at stepped
      split_ifs at stepped with timer
      cases stepped
      rw [(inPhase.timerExpires timer).onItsWay_iff, timer]
      rcases inPhase.timed_of_timer timer with rfl | rfl <;> exact Iff.rfl
  | workBegins =>
      rcases Option.map_eq_some_iff.mp stepped with ⟨begun, begins, rfl⟩
      rcases inPhase.workBegins begins with ⟨item, inNext⟩
      rw [inNext.onItsWay_iff]
      cases item <;> cases phase <;> exact Iff.rfl
  | disconnectClears =>
      rw [linkStep] at stepped
      split_ifs at stepped with running
      cases stepped
      rcases inPhase.disconnectClears running.1 running.2 with
        ⟨rfl, inNext⟩
      rw [inNext.onItsWay_iff]
      exact Iff.rfl
  | workEnds =>
      rw [linkStep] at stepped
      split_ifs at stepped with uncleared
      rcases Option.map_eq_some_iff.mp stepped with
        ⟨⟨item, ended⟩, finishes, rfl⟩
      rw [(inPhase.workEnds uncleared finishes).1.onItsWay_iff]
      have timed := inPhase.timed
      cases item <;> cases phase <;>
        simp_all [LinkPhase.ended, LinkPhase.watched, LinkPhase.timed]

end Timer

/--
A link that counts as up, with its work queue idle, has its timer running if
and only if the last sign of the other side did not arrive after the handler
of a disconnection had cleared the level and before it was done.
-/
theorem link_timer_runs_iff
    (mode : YkbEsbMode) (events : List LinkEvent) (finish : LinkState)
    (ran : run (linkStep mode) .initial events = some finish)
    (idle : finish.work.Idle) (connected : finish.connected = true) :
    finish.timer = true ↔
      LastMeets (linkStep mode) (IsContact mode) Unspent True .initial
        events := by
  have watched : finish.timer = true ↔ OnItsWay finish := by
    rw [OnItsWay, idle.queued, idle.running]
    simp [connected]
  have staged : Staged .initial := by
    rcases reported_initial with ⟨phase, inPhase, -⟩
    exact ⟨phase, inPhase⟩
  have initially : OnItsWay .initial ↔ True :=
    iff_of_true (fun impossible => by cases impossible) trivial
  exact
    watched.trans
      (run_iff_lastMeets_of_invariant
        (fun _ _ _ staged stepped => staged_step staged stepped)
        (fun _ _ _ staged contact stepped =>
          onItsWay_contact staged contact stepped)
        (fun _ _ _ staged other stepped =>
          onItsWay_kept staged other stepped)
        staged initially ran)

/-- A first packet and the report of the connection. -/
def firstPacket : List LinkEvent :=
  [.callback (.rx [flagAlive] 1), .workBegins, .workEnds]

theorem firstPacket_takes_turns :
    ∃ finish,
      run (linkStep .prx) .initial firstPacket = some finish ∧
        Alternates
          (((collected (linkStep .prx) coreCalls .initial
              firstPacket).filterMap edgeMark).map Prod.fst) :=
  ⟨_, rfl, link_reports_take_turns .prx firstPacket _ rfl⟩

theorem firstPacket_timer :
    ∃ finish,
      run (linkStep .prx) .initial firstPacket = some finish ∧
        (finish.timer = true ↔
          LastMeets (linkStep .prx) (IsContact .prx) Unspent True .initial
            firstPacket) :=
  ⟨_, rfl, link_timer_runs_iff .prx firstPacket _ rfl ⟨rfl, rfl⟩ rfl⟩

end YkbFirmware.SplitLink.EsbLink
