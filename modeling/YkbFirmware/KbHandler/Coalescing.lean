import YkbFirmware.Library.ExclusiveToken
import YkbFirmware.KbHandler.SlaveAdapter

/-!
# Coalescing of slave values

`slave_values_msg_pending` stands for one token: the right to have a values
message in the queue.  A caller or the core thread claims it, it travels
through the queue or through the retry work to the core thread, and the core
thread returns it.  So the queue never holds two values messages.

`slave_values_dirty` tells the core thread that an array arrived which it may
not have copied.  While the flag is set, either the token is out, so that the
array will be copied later, or somebody is about to look at the flag.  With
both facts a state without values work has handled the most recent array.
-/

namespace YkbFirmware.KbHandler.Coalescing

open YkbFirmware.Library.TransitionSystem
open YkbFirmware.Library.ExclusiveToken
open YkbFirmware.KbHandler.Settings
open YkbFirmware.KbHandler.Core
open YkbFirmware.KbHandler.Frames
open YkbFirmware.KbHandler.SlaveAdapter

variable
    {config : KbHandlerConfig} {capacity : Nat}
    {st next : AdapterState config}

/-! ## The token -/

/-- Where the right to queue a values message can be. -/
inductive TokenPlace where
  | caller (caller : Nat)
  | queue
  | consumer
  | retryScheduled
  | retry
deriving DecidableEq

/-- The call has claimed the token. -/
def CallerAt.holdsToken {Values : Type} : CallerAt Values → Prop
  | .enqueuing _ => True
  | _ => False

/-- The core thread handles a values message or queues a new one. -/
def ConsumerAt.holdsToken {Values : Type} : ConsumerAt Values → Prop
  | .clearing => True
  | .copying => True
  | .handling _ => True
  | .releasing => True
  | .enqueuing _ => True
  | _ => False

def HoldsToken (st : AdapterState config) : TokenPlace → Prop
  | .caller caller => CallerAt.holdsToken (st.callers caller)
  | .queue => .slaveValues ∈ st.kbhCoreMsgq
  | .consumer => ConsumerAt.holdsToken st.consumer
  | .retryScheduled => st.retryScheduled = true
  | .retry => st.retry ≠ .idle

/-! ## The invariant -/

/-- The call has stored its array and not yet raised the dirty flag. -/
def CallerAt.unraised {Values : Type} : CallerAt Values → Prop
  | .copied _ => True
  | .mirrored => True
  | _ => False

/-- The core thread has or will have the latest array from this message. -/
def CaughtUp (st : AdapterState config) : Prop :=
  match st.consumer with
  | .clearing => True
  | .copying => True
  | .handling slaveValues => slaveValues = st.latestSlaveValues
  | _ => st.handled = some st.latestSlaveValues

/-- The call has raised the dirty flag and goes on to claim the token. -/
def CallerAt.isRaised {Values : Type} : CallerAt Values → Prop
  | .raised => True
  | _ => False

/-- The core thread goes on to look at the dirty flag. -/
def ConsumerAt.looks {Values : Type} : ConsumerAt Values → Prop
  | .checking => True
  | .claiming => True
  | _ => False

/-- Somebody is about to act on the dirty flag. -/
def Looking (st : AdapterState config) : Prop :=
  ConsumerAt.looks st.consumer ∨
    ∃ caller, CallerAt.isRaised (st.callers caller)

/-- The core thread is not between a values message and its handling. -/
def ConsumerAt.settled {Values : Type} : ConsumerAt Values → Prop
  | .clearing => False
  | .copying => False
  | .handling _ => False
  | _ => True

/-- Some array arrived. -/
def Engaged (st : AdapterState config) : Prop :=
  st.lastCall ≠ none ∨ st.handled ≠ none ∨ ¬ ConsumerAt.settled st.consumer

theorem Engaged.of_settled
    (engaged : Engaged st) (settled : ConsumerAt.settled st.consumer) :
    st.lastCall ≠ none ∨ st.handled ≠ none :=
  engaged.imp_right fun later =>
    later.resolve_right fun busy => busy settled

structure Coalesced (st : AdapterState config) : Prop where
  token : Guarded st.slaveValuesMsgPending (HoldsToken st)
  single : st.kbhCoreMsgq.count .slaveValues ≤ 1
  marked : st.slaveValuesDirty = true →
    st.slaveValuesMsgPending = true ∨ Looking st
  latest : ∀ slaveValues, st.lastCall = some slaveValues →
    slaveValues = st.latestSlaveValues
  fresh : Engaged st →
    st.slaveValuesDirty = true ∨
      (∃ caller, CallerAt.unraised (st.callers caller)) ∨ CaughtUp st

theorem adapterStart_coalesced (settings : KbSettings) :
    Coalesced (adapterStart config settings) where
  token := by
    refine .unused fun place => ?_
    cases place with
    | caller caller => exact id
    | queue => exact List.not_mem_nil
    | consumer => exact id
    | retryScheduled => exact Bool.false_ne_true
    | retry => exact fun running => running rfl
  single := Nat.zero_le 1
  marked := fun dirty => absurd dirty Bool.false_ne_true
  latest := fun _ called => nomatch called
  fresh := by
    rintro (called | handled | busy)
    · exact absurd rfl called
    · exact absurd rfl handled
    · exact absurd trivial busy

/-! ## Queueing a values message -/

/-- What one step of `enqueue_slave_values_msg` does. -/
theorem enqueue_cases
    {point : EnqueueAt} {enqueued : AdapterState config}
    {continues : Option EnqueueAt}
    (enqueue :
      enqueueSlaveValuesMsg capacity st point = (enqueued, continues)) :
    (enqueued =
        { st with kbhCoreMsgq := st.kbhCoreMsgq ++ [.slaveValues] } ∧
      continues = none) ∨
      (enqueued = st ∧ continues = some .rescheduling) ∨
      (enqueued = { st with retryScheduled := true } ∧ continues = none) := by
  cases point with
  | putting =>
      simp only [enqueueSlaveValuesMsg, msgqPut] at enqueue
      split_ifs at enqueue
      · cases enqueue
        exact .inl ⟨rfl, rfl⟩
      · cases enqueue
        exact .inr (.inl ⟨rfl, rfl⟩)
  | rescheduling =>
      cases enqueue
      exact .inr (.inr ⟨rfl, rfl⟩)

/-- Queueing touches the queue and the retry work only. -/
theorem enqueue_frame
    {point : EnqueueAt} {enqueued : AdapterState config}
    {continues : Option EnqueueAt}
    (enqueue :
      enqueueSlaveValuesMsg capacity st point = (enqueued, continues)) :
    ∃ queue scheduled,
      enqueued =
        { st with kbhCoreMsgq := queue, retryScheduled := scheduled } := by
  rcases enqueue_cases enqueue with ⟨rfl, _⟩ | ⟨rfl, _⟩ | ⟨rfl, _⟩
  · exact ⟨_, _, rfl⟩
  · exact ⟨_, _, rfl⟩
  · exact ⟨_, _, rfl⟩

/--
A party which holds the token takes a step of `enqueue_slave_values_msg`: the
token stays with it, or moves into the queue or to the retry work.
-/
theorem Coalesced.enqueue
    (coalesced : Coalesced st) {source : TokenPlace}
    {point : EnqueueAt} {enqueued after : AdapterState config}
    {continues : Option EnqueueAt}
    (held : HoldsToken st source)
    (notQueue : source ≠ .queue) (notScheduled : source ≠ .retryScheduled)
    (enqueue :
      enqueueSlaveValuesMsg capacity st point = (enqueued, continues))
    (kept : HoldsToken after source ↔ continues ≠ none)
    (others : ∀ place, place ≠ source →
      (HoldsToken after place ↔ HoldsToken enqueued place)) :
    Guarded st.slaveValuesMsgPending (HoldsToken after) ∧
      enqueued.kbhCoreMsgq.count .slaveValues ≤ 1 := by
  have token := coalesced.token
  have notQueued : ¬ .slaveValues ∈ st.kbhCoreMsgq := fun queued =>
    notQueue (token.unique held (show HoldsToken st .queue from queued))
  rcases enqueue_cases enqueue with
    ⟨rfl, rfl⟩ | ⟨rfl, rfl⟩ | ⟨rfl, rfl⟩
  · constructor
    · refine token.move .queue held (fun again => kept.mp again rfl)
        ?_ fun other notSource notTarget => ?_
      · refine (others .queue (Ne.symm notQueue)).mpr ?_
        exact List.mem_append_right _ (by simp)
      · refine (others other notSource).trans ?_
        cases other with
        | queue => exact absurd rfl notTarget
        | caller | consumer | retryScheduled | retry => exact Iff.rfl
    · rw [List.count_append, List.count_eq_zero.mpr notQueued]
      simp
  · constructor
    · refine token.frame fun place => ?_
      by_cases isSource : place = source
      · subst isSource
        exact ⟨fun _ => held, fun _ => kept.mpr (by simp)⟩
      · exact others place isSource
    · exact coalesced.single
  · constructor
    · refine token.move .retryScheduled held
        (fun again => kept.mp again rfl) ?_ fun other notSource notTarget => ?_
      · exact (others .retryScheduled (Ne.symm notScheduled)).mpr rfl
      · refine (others other notSource).trans ?_
        cases other with
        | retryScheduled => exact absurd rfl notTarget
        | caller | queue | consumer | retry => exact Iff.rfl
    · exact coalesced.single

/-! ## Steps of callers -/

section Callers

variable {caller : Nat} {point : CallerAt (SlaveValues config)}

@[simp]
theorem setCaller_callers :
    (setCaller st caller point).callers =
      Function.update st.callers caller point :=
  rfl

theorem holdsToken_setCaller_self :
    HoldsToken (setCaller st caller point) (.caller caller) ↔
      CallerAt.holdsToken point := by
  rw [HoldsToken, setCaller_callers, Function.update_self]

theorem holdsToken_setCaller_other
    {place : TokenPlace} (different : place ≠ .caller caller) :
    HoldsToken (setCaller st caller point) place ↔ HoldsToken st place := by
  cases place with
  | caller other =>
      have away : other ≠ caller := fun same => different (by rw [same])
      rw [HoldsToken, HoldsToken, setCaller_callers,
        Function.update_of_ne away]
  | queue | consumer | retryScheduled | retry => exact Iff.rfl

/-- A caller which neither gains nor loses the token leaves it in place. -/
theorem guarded_setCaller
    (token : Guarded st.slaveValuesMsgPending (HoldsToken st))
    (before : ¬ CallerAt.holdsToken (st.callers caller))
    (after : ¬ CallerAt.holdsToken point) :
    Guarded (setCaller st caller point).slaveValuesMsgPending
      (HoldsToken (setCaller st caller point)) := by
  refine token.frame fun place => ?_
  by_cases same : place = .caller caller
  · subst same
    rw [holdsToken_setCaller_self]
    exact ⟨fun held => absurd held after, fun held => absurd held before⟩
  · exact holdsToken_setCaller_other same

/-- Some call still meets the test if this one does not drop out. -/
theorem some_setCaller
    {test : CallerAt (SlaveValues config) → Prop}
    (settled : test (st.callers caller) → test point)
    (met : ∃ other, test (st.callers other)) :
    ∃ other, test ((setCaller st caller point).callers other) := by
  rcases met with ⟨other, meets⟩
  refine ⟨other, ?_⟩
  rw [setCaller_callers]
  by_cases same : other = caller
  · subst same
    rw [Function.update_self]
    exact settled meets
  · rw [Function.update_of_ne same]
    exact meets

theorem this_setCaller
    {test : CallerAt (SlaveValues config) → Prop} (meets : test point) :
    ∃ other, test ((setCaller st caller point).callers other) := by
  refine ⟨caller, ?_⟩
  rw [setCaller_callers, Function.update_self]
  exact meets

/-- A call which is not about to look at the dirty flag moves on. -/
theorem Coalesced.marked_setCaller
    (coalesced : Coalesced st)
    (blind : ¬ CallerAt.isRaised (st.callers caller))
    (dirty : st.slaveValuesDirty = true) :
    st.slaveValuesMsgPending = true ∨
      Looking (setCaller st caller point) := by
  rcases coalesced.marked dirty with pending | consumer | raised
  · exact .inl pending
  · exact .inr (.inl consumer)
  · exact .inr (.inr (some_setCaller (fun here => absurd here blind) raised))

/-- A call which does not owe the dirty flag moves on. -/
theorem Coalesced.fresh_setCaller
    (coalesced : Coalesced st)
    (paid : ¬ CallerAt.unraised (st.callers caller))
    (engaged : Engaged st) :
    st.slaveValuesDirty = true ∨
      (∃ other,
        CallerAt.unraised ((setCaller st caller point).callers other)) ∨
        CaughtUp st := by
  rcases coalesced.fresh engaged with dirty | unraised | caught
  · exact .inl dirty
  · exact .inr (.inl (some_setCaller (fun here => absurd here paid) unraised))
  · exact .inr (.inr caught)

/-- A call begins. -/
theorem Coalesced.beginCall
    {slaveValues : List UInt16} (coalesced : Coalesced st)
    (stepped : beginCall st caller slaveValues = some next) :
    Coalesced next := by
  rcases beginCall_cases stepped with
    ⟨outside, ⟨accepted, _, rfl⟩ | rfl⟩
  · exact
      { token :=
          guarded_setCaller coalesced.token (by rw [outside]; exact id) id
        single := coalesced.single
        marked := coalesced.marked_setCaller (by rw [outside]; exact id)
        latest := coalesced.latest
        fresh := coalesced.fresh_setCaller (by rw [outside]; exact id) }
  · exact coalesced

/-- A call takes a step of `enqueue_slave_values_msg`. -/
theorem Coalesced.callerEnqueues
    {stage : EnqueueAt} {enqueued : AdapterState config}
    {continues : Option EnqueueAt}
    (coalesced : Coalesced st)
    (enqueuing : st.callers caller = .enqueuing stage)
    (enqueue :
      enqueueSlaveValuesMsg capacity st stage = (enqueued, continues)) :
    Coalesced
      (setCaller enqueued caller
        (continues.elim .outside CallerAt.enqueuing)) := by
  have held : HoldsToken st (.caller caller) := by
    rw [HoldsToken, enqueuing]
    exact trivial
  have kept :
      HoldsToken
          (setCaller enqueued caller
            (continues.elim .outside CallerAt.enqueuing))
          (.caller caller) ↔
        continues ≠ none := by
    rw [holdsToken_setCaller_self]
    cases continues with
    | none => exact ⟨fun impossible => impossible.elim, fun more => more rfl⟩
    | some further => exact ⟨fun _ => by simp, fun _ => trivial⟩
  have queued :=
    coalesced.enqueue held (by simp) (by simp) enqueue kept
      fun _ different => holdsToken_setCaller_other different
  rcases enqueue_frame enqueue with ⟨queue, scheduled, rfl⟩
  exact
    { token := queued.1
      single := queued.2
      marked := fun _ => .inl (coalesced.token.flag_of_holds held)
      latest := coalesced.latest
      fresh := coalesced.fresh_setCaller (by rw [enqueuing]; exact id) }

/-- A call takes its next step. -/
theorem Coalesced.callerStep
    (coalesced : Coalesced st)
    (stepped : callerStep capacity st caller = some next) :
    Coalesced next := by
  cases callerStep_cases stepped with
  | copy entered =>
      exact
        { token :=
            guarded_setCaller coalesced.token (by rw [entered]; exact id) id
          single := coalesced.single
          marked := coalesced.marked_setCaller (by rw [entered]; exact id)
          latest := fun called last => (Option.some.inj last).symm
          fresh := fun _ => .inr (.inl (this_setCaller trivial)) }
  | mirror copied =>
      exact
        { token :=
            guarded_setCaller coalesced.token (by rw [copied]; exact id) id
          single := coalesced.single
          marked := coalesced.marked_setCaller (by rw [copied]; exact id)
          latest := coalesced.latest
          fresh := fun _ => .inr (.inl (this_setCaller trivial)) }
  | raise mirrored =>
      exact
        { token :=
            guarded_setCaller coalesced.token (by rw [mirrored]; exact id) id
          single := coalesced.single
          marked := fun _ => .inr (.inr (this_setCaller trivial))
          latest := coalesced.latest
          fresh := fun _ => .inl rfl }
  | leave raised pending =>
      exact
        { token :=
            guarded_setCaller coalesced.token (by rw [raised]; exact id) id
          single := coalesced.single
          marked := fun _ => .inl pending
          latest := coalesced.latest
          fresh := coalesced.fresh_setCaller (by rw [raised]; exact id) }
  | claim raised free =>
      have unclaimed := free ▸ coalesced.token
      exact
        { token :=
            unclaimed.claim (.caller caller)
              (holdsToken_setCaller_self.mpr trivial)
              fun _ different => holdsToken_setCaller_other different
          single := coalesced.single
          marked := fun _ => .inl rfl
          latest := coalesced.latest
          fresh := coalesced.fresh_setCaller (by rw [raised]; exact id) }
  | enqueue enqueuing enqueue =>
      exact coalesced.callerEnqueues enqueuing enqueue

end Callers

/-! ## Steps of the core thread -/

/-- Only the consumer's own place depends on its control state. -/
theorem holdsToken_consumer
    {consumer : ConsumerAt (SlaveValues config)} {place : TokenPlace}
    (different : place ≠ .consumer) :
    HoldsToken { st with consumer := consumer } place ↔
      HoldsToken st place := by
  cases place with
  | consumer => exact absurd rfl different
  | caller | queue | retryScheduled | retry => exact Iff.rfl

/-- A consumer which neither gains nor loses the token leaves it in place. -/
theorem guarded_consumer
    (st : AdapterState config) {after : AdapterState config}
    (token : Guarded st.slaveValuesMsgPending (HoldsToken st))
    (same :
      ConsumerAt.holdsToken after.consumer ↔
        ConsumerAt.holdsToken st.consumer)
    (others : ∀ place, place ≠ .consumer →
      (HoldsToken after place ↔ HoldsToken st place)) :
    Guarded st.slaveValuesMsgPending (HoldsToken after) := by
  refine token.frame fun place => ?_
  by_cases isConsumer : place = .consumer
  · subst isConsumer
    exact same
  · exact others place isConsumer

/-- A step of the consumer which passes no token on. -/
theorem Coalesced.token_consumer
    (coalesced : Coalesced st) {consumer : ConsumerAt (SlaveValues config)}
    (same :
      ConsumerAt.holdsToken consumer ↔ ConsumerAt.holdsToken st.consumer) :
    Guarded st.slaveValuesMsgPending
      (HoldsToken { st with consumer := consumer }) :=
  guarded_consumer st coalesced.token same fun _ different =>
    holdsToken_consumer different

/-- What `fresh` says while the core thread is not handling a message. -/
theorem Coalesced.fresh_settled
    (coalesced : Coalesced st) (settled : ConsumerAt.settled st.consumer)
    (engaged : st.lastCall ≠ none ∨ st.handled ≠ none) :
    st.slaveValuesDirty = true ∨
      (∃ caller, CallerAt.unraised (st.callers caller)) ∨
        st.handled = some st.latestSlaveValues := by
  refine (coalesced.fresh (engaged.imp_right .inl)).imp_right fun fresh =>
    fresh.imp_right fun caught => ?_
  rw [CaughtUp] at caught
  cases consumer : st.consumer with
  | clearing | copying | handling =>
      rw [consumer] at settled
      exact settled.elim
  | idle | resetting | releasing | checking | claiming | enqueuing =>
      rw [consumer] at caught
      exact caught

/-- A consumer which does not look at the dirty flag moves on. -/
theorem Coalesced.marked_consumer
    (coalesced : Coalesced st) {consumer : ConsumerAt (SlaveValues config)}
    (blind : ¬ ConsumerAt.looks st.consumer)
    (dirty : st.slaveValuesDirty = true) :
    st.slaveValuesMsgPending = true ∨
      Looking { st with consumer := consumer } := by
  rcases coalesced.marked dirty with pending | looks | raised
  · exact .inl pending
  · exact absurd looks blind
  · exact .inr (.inr raised)

/-- A reset leaves the queue. -/
theorem Coalesced.takeReset
    (coalesced : Coalesced st) {rest : List KbhThreadMsgType}
    (idle : st.consumer = .idle)
    (queue : st.kbhCoreMsgq = .slaveKeysReset :: rest) :
    Coalesced { st with kbhCoreMsgq := rest, consumer := .resetting } := by
  have fresh := coalesced.fresh_settled (by rw [idle]; exact trivial)
  have blind : ¬ ConsumerAt.looks st.consumer := by rw [idle]; exact id
  have others : ∀ place, place ≠ .consumer →
      (HoldsToken
          { st with kbhCoreMsgq := rest, consumer := .resetting } place ↔
        HoldsToken st place) := by
    intro place different
    cases place with
    | consumer => exact absurd rfl different
    | queue =>
        change _ ∈ rest ↔ _ ∈ st.kbhCoreMsgq
        rw [queue]
        simp
    | caller | retryScheduled | retry => exact Iff.rfl
  have single := coalesced.single
  rw [queue, List.count_cons_of_ne (by decide)] at single
  exact
    { token :=
        guarded_consumer st coalesced.token (by rw [idle]; exact Iff.rfl)
          others
      single := single
      marked := coalesced.marked_consumer blind
      latest := coalesced.latest
      fresh := fun engaged => fresh (engaged.of_settled trivial) }

/-- A values message leaves the queue, and the token with it. -/
theorem Coalesced.takeValues
    (coalesced : Coalesced st) {rest : List KbhThreadMsgType}
    (idle : st.consumer = .idle)
    (queue : st.kbhCoreMsgq = .slaveValues :: rest) :
    Coalesced { st with kbhCoreMsgq := rest, consumer := .clearing } := by
  have blind : ¬ ConsumerAt.looks st.consumer := by rw [idle]; exact id
  have single := coalesced.single
  rw [queue, List.count_cons_self] at single
  have none : rest.count .slaveValues = 0 := Nat.le_zero.mp (by omega)
  have queued : HoldsToken st .queue := by
    rw [HoldsToken, queue]
    exact List.mem_cons_self
  have moved :
      Guarded st.slaveValuesMsgPending
        (HoldsToken
          { st with kbhCoreMsgq := rest, consumer := .clearing }) := by
    refine coalesced.token.move .consumer queued ?_ trivial
      fun other notQueue notConsumer => ?_
    · exact List.count_eq_zero.mp none
    · cases other with
      | queue => exact absurd rfl notQueue
      | consumer => exact absurd rfl notConsumer
      | caller | retryScheduled | retry => exact Iff.rfl
  exact
    { token := moved
      single := by rw [none]; exact Nat.zero_le 1
      marked := coalesced.marked_consumer blind
      latest := coalesced.latest
      fresh := fun _ => .inr (.inr trivial) }

/-- The core thread takes a step of `enqueue_slave_values_msg`. -/
theorem Coalesced.consumerEnqueues
    {stage : EnqueueAt} {enqueued : AdapterState config}
    {continues : Option EnqueueAt}
    (coalesced : Coalesced st) (enqueuing : st.consumer = .enqueuing stage)
    (enqueue :
      enqueueSlaveValuesMsg capacity st stage = (enqueued, continues)) :
    Coalesced
      { enqueued with
        consumer := continues.elim .idle ConsumerAt.enqueuing } := by
  have fresh := coalesced.fresh_settled (by rw [enqueuing]; exact trivial)
  have held : HoldsToken st .consumer := by
    rw [HoldsToken, enqueuing]
    exact trivial
  have kept :
      HoldsToken
          { enqueued with
            consumer := continues.elim .idle ConsumerAt.enqueuing }
          .consumer ↔
        continues ≠ none := by
    cases continues with
    | none => exact ⟨fun impossible => impossible.elim, fun more => more rfl⟩
    | some further => exact ⟨fun _ => by simp, fun _ => trivial⟩
  have queued :=
    coalesced.enqueue held (by simp) (by simp) enqueue kept
      fun _ different => holdsToken_consumer different
  rcases enqueue_frame enqueue with ⟨queue, scheduled, rfl⟩
  cases continues with
  | none | some _ =>
      exact
        { token := queued.1
          single := queued.2
          marked := fun _ => .inl (coalesced.token.flag_of_holds held)
          latest := coalesced.latest
          fresh := fun engaged => fresh (engaged.of_settled trivial) }

/-- The core thread takes its next step. -/
theorem Coalesced.consumerStep
    {env : Nat → KbhEnvironment} {nowMs : Int}
    (slave : config.keyCountSlave ≠ 0) (coalesced : Coalesced st)
    (stepped : consumerStep capacity st env nowMs = some next) :
    Coalesced next := by
  cases consumerStep_cases stepped with
  | takeReset idle queue => exact coalesced.takeReset idle queue
  | takeValues idle queue =>
      rw [if_neg slave]
      exact coalesced.takeValues idle queue
  | reset resetting =>
      exact
        { token := coalesced.token_consumer (by rw [resetting]; exact Iff.rfl)
          single := coalesced.single
          marked := coalesced.marked_consumer (by rw [resetting]; exact id)
          latest := coalesced.latest
          fresh := fun engaged =>
            coalesced.fresh_settled (by rw [resetting]; exact trivial)
              (engaged.of_settled trivial) }
  | clear clearing =>
      exact
        { token := coalesced.token_consumer (by rw [clearing]; exact Iff.rfl)
          single := coalesced.single
          marked := fun dirty => absurd dirty Bool.false_ne_true
          latest := coalesced.latest
          fresh := fun _ => .inr (.inr trivial) }
  | copy copying =>
      have unsettled : Engaged st := .inr (.inr (by rw [copying]; exact id))
      exact
        { token := coalesced.token_consumer (by rw [copying]; exact Iff.rfl)
          single := coalesced.single
          marked := coalesced.marked_consumer (by rw [copying]; exact id)
          latest := coalesced.latest
          fresh := fun _ =>
            (coalesced.fresh unsettled).imp_right fun fresh =>
              fresh.imp_right fun _ => rfl }
  | handle handling =>
      have unsettled : Engaged st := .inr (.inr (by rw [handling]; exact id))
      exact
        { token := coalesced.token_consumer (by rw [handling]; exact Iff.rfl)
          single := coalesced.single
          marked := coalesced.marked_consumer (by rw [handling]; exact id)
          latest := coalesced.latest
          fresh := fun _ =>
            (coalesced.fresh unsettled).imp_right fun fresh =>
              fresh.imp_right fun caught => by
                rw [CaughtUp, handling] at caught
                exact congrArg some caught }
  | release releasing =>
      have held : HoldsToken st .consumer := by
        rw [HoldsToken, releasing]
        exact trivial
      exact
        { token :=
            coalesced.token.release held id fun _ different =>
              holdsToken_consumer different
          single := coalesced.single
          marked := fun _ => .inr (.inl trivial)
          latest := coalesced.latest
          fresh := fun engaged =>
            coalesced.fresh_settled (by rw [releasing]; exact trivial)
              (engaged.of_settled trivial) }
  | seeDirty checking dirty =>
      have fresh := coalesced.fresh_settled (by rw [checking]; exact trivial)
      exact
        { token := coalesced.token_consumer (by rw [checking]; exact Iff.rfl)
          single := coalesced.single
          marked := fun _ => .inr (.inl trivial)
          latest := coalesced.latest
          fresh := fun engaged => fresh (engaged.of_settled trivial) }
  | seeClean checking clean =>
      have fresh := coalesced.fresh_settled (by rw [checking]; exact trivial)
      exact
        { token := coalesced.token_consumer (by rw [checking]; exact Iff.rfl)
          single := coalesced.single
          marked := fun dirty =>
            absurd (clean.symm.trans dirty) Bool.false_ne_true
          latest := coalesced.latest
          fresh := fun engaged => fresh (engaged.of_settled trivial) }
  | leave claiming pending =>
      have fresh := coalesced.fresh_settled (by rw [claiming]; exact trivial)
      exact
        { token := coalesced.token_consumer (by rw [claiming]; exact Iff.rfl)
          single := coalesced.single
          marked := fun _ => .inl pending
          latest := coalesced.latest
          fresh := fun engaged => fresh (engaged.of_settled trivial) }
  | claim claiming free =>
      have fresh := coalesced.fresh_settled (by rw [claiming]; exact trivial)
      have unclaimed := free ▸ coalesced.token
      exact
        { token :=
            unclaimed.claim .consumer trivial fun _ different =>
              holdsToken_consumer different
          single := coalesced.single
          marked := fun _ => .inl rfl
          latest := coalesced.latest
          fresh := fun engaged => fresh (engaged.of_settled trivial) }
  | enqueue enqueuing enqueue =>
      exact coalesced.consumerEnqueues enqueuing enqueue

/-! ## Steps of the retry work -/

/-- The retry work starts: the token passes from the schedule to the work. -/
theorem Coalesced.retryFires
    (coalesced : Coalesced st) (stepped : retryFires st = some next) :
    Coalesced next := by
  rcases retryFires_eq stepped with ⟨_, scheduled, rfl⟩
  have held : HoldsToken st .retryScheduled := scheduled
  exact
    { token :=
        coalesced.token.move .retry held Bool.false_ne_true
          (fun same => nomatch same) fun other notSource notTarget => by
            cases other with
            | retryScheduled => exact absurd rfl notSource
            | retry => exact absurd rfl notTarget
            | caller | queue | consumer => exact Iff.rfl
      single := coalesced.single
      marked := coalesced.marked
      latest := coalesced.latest
      fresh := coalesced.fresh }

theorem holdsToken_retry
    {retry : RetryAt} {place : TokenPlace} (different : place ≠ .retry) :
    HoldsToken { st with retry := retry } place ↔ HoldsToken st place := by
  cases place with
  | retry => exact absurd rfl different
  | caller | queue | consumer | retryScheduled => exact Iff.rfl

/-- The retry work takes its next step. -/
theorem Coalesced.retryStep
    (coalesced : Coalesced st) (stepped : retryStep capacity st = some next) :
    Coalesced next := by
  cases retryStep_cases stepped with
  | goOn loading pending =>
      have held : HoldsToken st .retry := by
        rw [HoldsToken, loading]
        exact fun same => nomatch same
      exact
        { token := coalesced.token.frame fun place => by
            by_cases same : place = .retry
            · subst same
              exact ⟨fun _ => held, fun _ same => nomatch same⟩
            · exact holdsToken_retry same
          single := coalesced.single
          marked := coalesced.marked
          latest := coalesced.latest
          fresh := coalesced.fresh }
  | giveUp loading free =>
      -- The work holds the token, so it never finds the flag clear.
      have held : HoldsToken st .retry := by
        rw [HoldsToken, loading]
        exact fun same => nomatch same
      have pending := coalesced.token.flag_of_holds held
      exact absurd (free.symm.trans pending) Bool.false_ne_true
  | @enqueue _ enqueued continues enqueuing enqueue =>
      have held : HoldsToken st .retry := by
        rw [HoldsToken, enqueuing]
        exact fun same => nomatch same
      have kept :
          HoldsToken
              { enqueued with
                retry := continues.elim .idle RetryAt.enqueuing }
              .retry ↔
            continues ≠ none := by
        cases continues with
        | none =>
            exact ⟨fun busy => absurd rfl busy, fun more => absurd rfl more⟩
        | some further =>
            exact ⟨fun _ => by simp, fun _ same => nomatch same⟩
      have queued :=
        coalesced.enqueue held (by simp) (by simp) enqueue kept
          fun _ different => holdsToken_retry different
      rcases enqueue_frame enqueue with ⟨queue, scheduled, rfl⟩
      exact
        { token := queued.1
          single := queued.2
          marked := coalesced.marked
          latest := coalesced.latest
          fresh := coalesced.fresh }

/-! ## Steps which do not concern values -/

/-- A reset event is put, or dropped. -/
theorem Coalesced.slaveReset
    (coalesced : Coalesced st) :
    Coalesced (handleSlaveReset capacity st) := by
  rcases handleSlaveReset_cases capacity st with ⟨_, put⟩ | ⟨_, dropped⟩
  · rw [put]
    exact
      { token := coalesced.token.frame fun place => by
          cases place with
          | queue =>
              change _ ∈ st.kbhCoreMsgq ++ [_] ↔ _ ∈ st.kbhCoreMsgq
              simp
          | caller | consumer | retryScheduled | retry => exact Iff.rfl
        single := by
          change (st.kbhCoreMsgq ++ [_]).count _ ≤ 1
          rw [List.count_append, List.count_singleton]
          exact coalesced.single
        marked := coalesced.marked
        latest := coalesced.latest
        fresh := coalesced.fresh }
  · rw [dropped]
    exact coalesced

/-- Local keys do not touch the adapter. -/
theorem Coalesced.withCore
    (coalesced : Coalesced st) (core : KbhRuntimeState) :
    Coalesced { st with core := core } where
  token := coalesced.token.frame fun place => by
    cases place with
    | caller | queue | consumer | retryScheduled | retry => exact Iff.rfl
  single := coalesced.single
  marked := coalesced.marked
  latest := coalesced.latest
  fresh := coalesced.fresh

/-! ## Runs -/

theorem localKey_eq
    {env : KbhEnvironment} {key : Nat} {value : UInt16}
    (stepped : localKey st env key value = some next) :
    st.consumer = .idle ∧ key < config.keyCount ∧
      next =
        { st with core := (processKeyValue config env st.core key value).1 } := by
  rw [localKey] at stepped
  split at stepped
  case h_1 idle =>
    split_ifs at stepped with inside
    exact ⟨idle, inside, (Option.some.inj stepped).symm⟩
  case h_2 => cases stepped

theorem localFrameEnds_eq
    {nowMs : Int} (stepped : localFrameEnds st nowMs = some next) :
    st.consumer = .idle ∧
      next = { st with core := finishValueFrame config st.core nowMs } := by
  rw [localFrameEnds] at stepped
  split at stepped
  case h_1 idle => exact ⟨idle, (Option.some.inj stepped).symm⟩
  case h_2 => cases stepped

/-- Every step keeps the invariant. -/
theorem Coalesced.step
    (slave : config.keyCountSlave ≠ 0) {event : AdapterEvent}
    (coalesced : Coalesced st)
    (stepped : adapterStep capacity st event = some next) :
    Coalesced next := by
  cases event with
  | beginCall caller slaveValues => exact coalesced.beginCall stepped
  | caller caller => exact coalesced.callerStep stepped
  | slaveReset =>
      cases stepped
      exact coalesced.slaveReset
  | consumer env nowMs => exact coalesced.consumerStep slave stepped
  | retryFires => exact coalesced.retryFires stepped
  | retry => exact coalesced.retryStep stepped
  | localKey env key value =>
      rcases localKey_eq stepped with ⟨_, _, rfl⟩
      exact coalesced.withCore _
  | localFrameEnds nowMs =>
      rcases localFrameEnds_eq stepped with ⟨_, rfl⟩
      exact coalesced.withCore _

/-- Without slave keys every call returns at once. -/
structure NoValues (st : AdapterState config) : Prop where
  callers : ∀ caller, st.callers caller = .outside
  queue : ¬ .slaveValues ∈ st.kbhCoreMsgq
  consumer : st.consumer = .idle ∨ st.consumer = .resetting
  scheduled : st.retryScheduled = false
  retry : st.retry = .idle
  lastCall : st.lastCall = none

theorem NoValues.step
    (noSlave : config.keyCountSlave = 0) {event : AdapterEvent}
    (quiet : NoValues st)
    (stepped : adapterStep capacity st event = some next) :
    NoValues next := by
  cases event with
  | beginCall caller slaveValues =>
      have refused :
          acceptedValues slaveValues = (none : Option (SlaveValues config)) := by
        rw [acceptedValues]
        split_ifs
        · rfl
        · rfl
      simp only [adapterStep, SlaveAdapter.beginCall, quiet.callers caller,
        refused] at stepped
      cases stepped
      exact quiet
  | caller caller =>
      simp only [adapterStep, SlaveAdapter.callerStep,
        quiet.callers caller] at stepped
      cases stepped
  | slaveReset =>
      cases stepped
      rcases handleSlaveReset_cases capacity st with ⟨_, put⟩ | ⟨_, dropped⟩
      · rw [put]
        refine { quiet with queue := ?_ }
        change ¬ _ ∈ st.kbhCoreMsgq ++ [_]
        simpa using quiet.queue
      · rw [dropped]
        exact quiet
  | consumer env nowMs =>
      rcases quiet.consumer with idle | resetting
      · simp only [adapterStep, SlaveAdapter.consumerStep, idle] at stepped
        have absent := quiet.queue
        split at stepped
        · cases stepped
        · rename_i rest queue
          cases stepped
          rw [queue] at absent
          exact
            { quiet with
              queue := fun member => absent (List.mem_cons_of_mem _ member)
              consumer := .inr rfl }
        · rename_i rest queue
          rw [queue] at absent
          exact absurd List.mem_cons_self absent
      · simp only [adapterStep, SlaveAdapter.consumerStep, resetting] at stepped
        cases stepped
        exact { quiet with consumer := .inl rfl }
  | retryFires =>
      simp only [adapterStep, SlaveAdapter.retryFires, quiet.retry,
        quiet.scheduled] at stepped
      cases stepped
  | retry =>
      simp only [adapterStep, SlaveAdapter.retryStep, quiet.retry] at stepped
      cases stepped
  | localKey env key value =>
      rcases localKey_eq stepped with ⟨_, _, rfl⟩
      exact { quiet with consumer := quiet.consumer }
  | localFrameEnds nowMs =>
      rcases localFrameEnds_eq stepped with ⟨_, rfl⟩
      exact { quiet with consumer := quiet.consumer }

theorem noValues_of_reachable
    (noSlave : config.keyCountSlave = 0) {settings : KbSettings}
    (reached :
      Reachable (adapterStep capacity) (adapterStart config settings) st) :
    NoValues st :=
  reached.invariant (fun _ _ _ quiet stepped => quiet.step noSlave stepped)
    { callers := fun _ => rfl
      queue := List.not_mem_nil
      consumer := .inl rfl
      scheduled := rfl
      retry := rfl
      lastCall := rfl }

theorem coalesced_of_reachable
    (slave : config.keyCountSlave ≠ 0) {settings : KbSettings}
    (reached :
      Reachable (adapterStep capacity) (adapterStart config settings) st) :
    Coalesced st :=
  reached.invariant (fun _ _ _ kept stepped => kept.step slave stepped)
    (adapterStart_coalesced settings)

/--
No values message is queued or being handled, no retry is pending and no call
is in progress.
-/
structure NoValuesWork (st : AdapterState config) : Prop where
  queue : ¬ .slaveValues ∈ st.kbhCoreMsgq
  scheduled : st.retryScheduled = false
  retry : st.retry = .idle
  callers : ∀ caller, st.callers caller = .outside
  consumer : st.consumer = .idle ∨ st.consumer = .resetting

/-- Without values work nobody holds the token. -/
theorem NoValuesWork.not_holds
    (idle : NoValuesWork st) (place : TokenPlace) : ¬ HoldsToken st place := by
  cases place with
  | caller caller =>
      rw [HoldsToken, idle.callers caller]
      exact id
  | queue => exact idle.queue
  | consumer =>
      rw [HoldsToken]
      rcases idle.consumer with same | same
      · rw [same]
        exact id
      · rw [same]
        exact id
  | retryScheduled =>
      rw [HoldsToken, idle.scheduled]
      exact Bool.false_ne_true
  | retry => exact fun busy => busy idle.retry

/-- Without values work the last array was handled. -/
theorem Coalesced.handled_latest
    (coalesced : Coalesced st) (idle : NoValuesWork st)
    (engaged : st.lastCall ≠ none ∨ st.handled ≠ none) :
    st.handled = some st.latestSlaveValues := by
  have notPending : ¬ st.slaveValuesMsgPending = true := by
    intro pending
    have token := coalesced.token
    rw [pending] at token
    rcases token.holder_of_flag with ⟨place, held⟩
    exact idle.not_holds place held
  have notLooking : ¬ Looking st := by
    rintro (looks | ⟨caller, raised⟩)
    · rcases idle.consumer with same | same
      · rw [same] at looks
        exact looks
      · rw [same] at looks
        exact looks
    · rw [idle.callers caller] at raised
      exact raised
  have clean : ¬ st.slaveValuesDirty = true := fun dirty =>
    (coalesced.marked dirty).elim notPending notLooking
  have settled : ConsumerAt.settled st.consumer := by
    rcases idle.consumer with same | same
    · rw [same]
      exact trivial
    · rw [same]
      exact trivial
  rcases coalesced.fresh_settled settled engaged with
    dirty | ⟨caller, waiting⟩ | done
  · exact absurd dirty clean
  · rw [idle.callers caller] at waiting
    exact waiting.elim
  · exact done

/--
For every interleaving and every queue capacity: the queue holds at most one
values message, and in a state without values work the array last passed to
`handle_slave_values` is the array of the most recent call.
-/
theorem slave_values_coalesce
    (config : KbHandlerConfig) (settings : KbSettings) (capacity : Nat)
    (events : List AdapterEvent) (st : AdapterState config)
    (ran :
      run (adapterStep capacity) (adapterStart config settings) events =
        some st) :
    st.kbhCoreMsgq.count .slaveValues ≤ 1 ∧
      (NoValuesWork st →
        ∀ slaveValues, st.lastCall = some slaveValues →
          st.handled = some slaveValues) := by
  have reached :
      Reachable (adapterStep capacity) (adapterStart config settings) st :=
    ⟨events, ran⟩
  by_cases slave : config.keyCountSlave = 0
  · have quiet := noValues_of_reachable slave reached
    constructor
    · rw [List.count_eq_zero.mpr quiet.queue]
      exact Nat.zero_le 1
    · intro _ slaveValues called
      rw [quiet.lastCall] at called
      cases called
  · have coalesced := coalesced_of_reachable slave reached
    refine ⟨coalesced.single, fun idle slaveValues called => ?_⟩
    rw [coalesced.latest slaveValues called]
    exact coalesced.handled_latest idle (.inl (by rw [called]; simp))

/-- One local key and one slave key. -/
def twoKeyConfig : KbHandlerConfig where
  keyCount := 1
  keyCountSlave := 1
  positive := by decide
  fits := by decide
  backlight := false
  reportRollover := false

def plainEnvironment : KbhEnvironment where
  slots := ⟨0, fun _ => false, fun _ => 0⟩
  applied := true

/-- A call from its begin to the put of its message. -/
def wholeCall (value : UInt16) : List AdapterEvent :=
  .beginCall 0 [value] :: List.replicate 5 (.caller 0)

/-- The core thread handles one values message from the queue to its end. -/
def handleMessage : List AdapterEvent :=
  List.replicate 6 (.consumer (fun _ => plainEnvironment) 0)

theorem slave_values_coalesce_one_call :
    ∃ st slaveValues,
      run (adapterStep 1) (adapterStart twoKeyConfig plainSettings)
          (wholeCall 5 ++ handleMessage) =
        some st ∧
      slaveValues ⟨0, by decide⟩ = 5 ∧
      st.kbhCoreMsgq.count .slaveValues ≤ 1 ∧
      st.handled = some slaveValues := by
  refine ⟨_, fun index => [5].get (index.cast rfl), rfl, rfl, ?_⟩
  have coalesce :=
    slave_values_coalesce twoKeyConfig plainSettings 1
      (wholeCall 5 ++ handleMessage) _ rfl
  refine ⟨coalesce.1, coalesce.2 ?_ _ rfl⟩
  refine ⟨List.not_mem_nil, rfl, rfl, fun caller => ?_, .inl rfl⟩
  cases caller with
  | zero => rfl
  | succ caller => rfl

end YkbFirmware.KbHandler.Coalescing
