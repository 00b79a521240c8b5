import YkbFirmware.Library.TransitionSystem
import YkbFirmware.Library.Bracketing

/-!
# Time slots of the radio

`ykb_timeslot.c` shares the radio of the network core with the Bluetooth
controller.  The scheduler of the controller signals what becomes of the slot
that was requested, and is answered an action; the application is called back
when its slot starts and when it stops.  Calls into the scheduler are made by
one thread, which takes them from a message queue.

The scheduler is not part of the repository: it may signal anything at any
time once a session is open.
-/

namespace YkbFirmware.Esb.Timeslot

open YkbFirmware.Library.TransitionSystem
open YkbFirmware.Library.Bracketing

/-! ## State -/

/-- `timeslot_callback_type_t`. -/
inductive TimeslotCallbackType where
  | started
  | stopped
deriving DecidableEq, Repr

/-- `enum mpsl_timeslot_call`. -/
inductive MpslTimeslotCall where
  | openSession
  | makeRequest
  | closeSession
deriving DecidableEq, Repr

/-- `MPSL_TIMESLOT_SIGNAL_*`, with the compare events of the timer. -/
inductive TimeslotSignal where
  | start
  | timer0 (compare0 compare1 : Bool)
  | extendSucceeded
  | extendFailed
  | radio
  | overstayed
  | cancelled
  | blocked
  | invalidReturn
  | sessionIdle
  | sessionClosed
  | unexpected
deriving DecidableEq, Repr

/-- `MPSL_TIMESLOT_SIGNAL_ACTION_*`. -/
inductive SignalAction where
  | none
  | extend (lengthUs : UInt32)
  | request
  | fin
deriving DecidableEq, Repr

def timeslotLengthUs : UInt32 := 10000

def timeslotExtMarginUs : UInt32 := 1000

def timeslotReqEarliestMarginUs : UInt32 := 200

/-- The slots of `mpsl_api_msgq`. -/
def apiSlots : Nat := 10

structure TimeslotState where
  inTimeslot : Bool
  extensionFailed : Bool
  /-- The action of `signal_callback_return_param`. -/
  callbackAction : SignalAction
  cc0 : UInt32
  cc1 : UInt32
  /-- The compare interrupts that are enabled. -/
  int0 : Bool
  int1 : Bool
  /-- `mpsl_api_msgq`. -/
  apiCalls : List MpslTimeslotCall
  /-- `session_id`, unless it is still `0xFF`. -/
  session : Option Nat
  /-- `k_oops` was called. -/
  oops : Bool

def TimeslotState.initial : TimeslotState where
  inTimeslot := false
  extensionFailed := false
  callbackAction := .none
  cc0 := 0
  cc1 := 0
  int0 := false
  int1 := false
  apiCalls := []
  session := none
  oops := false

/-! ## The signal handler -/

/-- `schedule_request`. -/
def scheduleRequest (st : TimeslotState) (call : MpslTimeslotCall) :
    TimeslotState :=
  if st.apiCalls.length < apiSlots then
    { st with apiCalls := st.apiCalls ++ [call] }
  else
    { st with oops := true }

/-- `set_timeslot_active_status`, without its callback. -/
def setTimeslotActiveStatus (st : TimeslotState) (active : Bool) :
    TimeslotState :=
  { st with inTimeslot := active }

/-- The callback of `set_timeslot_active_status`. -/
def activeStatusCallback (st : TimeslotState) (active : Bool) :
    List TimeslotCallbackType :=
  if active then
    if st.inTimeslot then [] else [.started]
  else
    if st.inTimeslot then [.stopped] else []

/-- `MPSL_TIMESLOT_EXTENSION_MARGIN_MIN_US`. -/
abbrev ExtensionMargin := UInt32

section Signals

variable (margin : ExtensionMargin)

/-- `TIMER_EXPIRY_US_EARLY`. -/
def timerExpiryUsEarly : UInt32 :=
  timeslotLengthUs - margin - timeslotExtMarginUs

/-- `TIMER_EXPIRY_REQ`. -/
def timerExpiryReq : UInt32 :=
  timeslotLengthUs - margin - timeslotReqEarliestMarginUs

/-- The action is stored in `signal_callback_return_param`. -/
def answer (st : TimeslotState) (action : SignalAction) : TimeslotState :=
  { st with callbackAction := action }

/-- `mpsl_timeslot_callback`, which answers `callbackAction`. -/
def mpslTimeslotCallback (st : TimeslotState) :
    TimeslotSignal → TimeslotState
  | .start =>
      setTimeslotActiveStatus
        { answer st .none with
          cc0 := timerExpiryUsEarly margin
          int0 := true
          cc1 := timerExpiryReq margin
          int1 := true
          extensionFailed := false }
        true
  | .timer0 compare0 compare1 =>
      if compare0 then
        { answer st (.extend timeslotLengthUs) with int0 := false }
      else if compare1 then
        { answer st (if st.extensionFailed then .request else .none) with
          int1 := false }
      else
        st
  | .extendSucceeded =>
      { answer st .none with
        cc0 := st.cc0 + timeslotLengthUs
        int0 := true
        cc1 := st.cc1 + timeslotLengthUs
        int1 := true }
  | .extendFailed =>
      setTimeslotActiveStatus
        { answer st .none with extensionFailed := true } false
  | .radio => answer st .none
  | .overstayed => setTimeslotActiveStatus (answer st .fin) false
  | .cancelled | .blocked | .sessionIdle =>
      scheduleRequest (setTimeslotActiveStatus (answer st .none) false)
        .makeRequest
  | .invalidReturn => setTimeslotActiveStatus (answer st .fin) false
  | .sessionClosed => setTimeslotActiveStatus (answer st .none) false
  | .unexpected => { st with oops := true }

/-- The callbacks `mpsl_timeslot_callback` makes. -/
def signalCallbacks (st : TimeslotState) :
    TimeslotSignal → List TimeslotCallbackType
  | .start => activeStatusCallback st true
  | .timer0 _ _ | .extendSucceeded | .radio | .unexpected => []
  | .extendFailed | .overstayed | .cancelled | .blocked | .invalidReturn |
    .sessionIdle | .sessionClosed => activeStatusCallback st false

/-! ## The thread -/

/-- What the scheduler answers to a call. -/
structure ApiResult where
  err : Int
  /-- The session that was opened. -/
  sessionId : Nat

/-- A pass of the loop of `mpsl_nonpreemptible_thread`. -/
def serveApiCall (st : TimeslotState) (result : ApiResult) :
    Option TimeslotState :=
  match st.apiCalls with
  | [] => none
  | call :: rest =>
      let st := { st with apiCalls := rest }
      if result.err ≠ 0 then
        some { st with oops := true }
      else
        match call with
        | .openSession => some { st with session := some result.sessionId }
        | .makeRequest | .closeSession => some st

/-- `timeslot_handler_init`. -/
def timeslotHandlerInit (st : TimeslotState) : TimeslotState :=
  scheduleRequest (scheduleRequest st .openSession) .makeRequest

/-! ## Runs -/

inductive TimeslotEvent where
  | init
  | signal (signal : TimeslotSignal)
  | serve (result : ApiResult)

def timeslotStep (st : TimeslotState) : TimeslotEvent → Option TimeslotState
  | .init => if st.oops then none else some (timeslotHandlerInit st)
  | .signal signal =>
      if st.session.isNone || st.oops then
        none
      else
        some (mpslTimeslotCallback margin st signal)
  | .serve result => if st.oops then none else serveApiCall st result

/-- The callbacks of a step. -/
def appCallbacks (st : TimeslotState) :
    TimeslotEvent → List TimeslotCallbackType
  | .signal signal => signalCallbacks st signal
  | .init | .serve _ => []

end Signals

/-! ## Callbacks take turns -/

section Steps

variable {margin : ExtensionMargin} {st next : TimeslotState}

@[simp]
theorem scheduleRequest_inTimeslot (call : MpslTimeslotCall) :
    (scheduleRequest st call).inTimeslot = st.inTimeslot := by
  rw [scheduleRequest]
  split_ifs <;> rfl

@[simp]
theorem scheduleRequest_session (call : MpslTimeslotCall) :
    (scheduleRequest st call).session = st.session := by
  rw [scheduleRequest]
  split_ifs <;> rfl

/-- Of the callbacks as marks, a start opens and a stop closes. -/
def mark : TimeslotCallbackType → Bool × Unit
  | .started => (true, ())
  | .stopped => (false, ())

/-- The mark that is pending. -/
def pendingMark (inTimeslot : Bool) : Option Unit :=
  if inTimeslot then some () else none

theorem activeStatus_bracketed
    {log : List (Bool × Unit)} (active : Bool)
    (bracketed : Bracketed (pendingMark st.inTimeslot) log) :
    Bracketed (pendingMark active)
      (log ++ (activeStatusCallback st active).map mark) := by
  rw [activeStatusCallback]
  cases active with
  | true =>
      cases inside : st.inTimeslot with
      | true =>
          rw [inside] at bracketed
          simpa using bracketed
      | false =>
          rw [inside] at bracketed
          exact Bracketed.opened bracketed ()
  | false =>
      cases inside : st.inTimeslot with
      | true =>
          rw [inside] at bracketed
          exact Bracketed.closed bracketed
      | false =>
          rw [inside] at bracketed
          simpa using bracketed

theorem mpslTimeslotCallback_bracketed
    (signal : TimeslotSignal) {log : List (Bool × Unit)}
    (bracketed : Bracketed (pendingMark st.inTimeslot) log) :
    Bracketed
      (pendingMark (mpslTimeslotCallback margin st signal).inTimeslot)
      (log ++ (signalCallbacks st signal).map mark) := by
  cases signal with
  | start => exact activeStatus_bracketed true bracketed
  | extendFailed | overstayed | invalidReturn | sessionClosed =>
      exact activeStatus_bracketed false bracketed
  | cancelled | blocked | sessionIdle =>
      simp only [mpslTimeslotCallback, scheduleRequest_inTimeslot]
      exact activeStatus_bracketed false bracketed
  | timer0 compare0 compare1 =>
      simp only [mpslTimeslotCallback, signalCallbacks, List.map_nil,
        List.append_nil]
      split_ifs <;> exact bracketed
  | extendSucceeded | radio | unexpected =>
      simpa [signalCallbacks, mpslTimeslotCallback, answer] using bracketed

theorem timeslotStep_bracketed
    {event : TimeslotEvent} {log : List (Bool × Unit)}
    (bracketed : Bracketed (pendingMark st.inTimeslot) log)
    (stepped : timeslotStep margin st event = some next) :
    Bracketed (pendingMark next.inTimeslot)
      (log ++ (appCallbacks st event).map mark) := by
  cases event with
  | init =>
      rw [timeslotStep] at stepped
      split_ifs at stepped
      cases stepped
      simpa [timeslotHandlerInit, appCallbacks] using bracketed
  | signal signal =>
      rw [timeslotStep] at stepped
      split_ifs at stepped
      cases stepped
      exact mpslTimeslotCallback_bracketed signal bracketed
  | serve result =>
      rw [timeslotStep] at stepped
      split_ifs at stepped
      rw [appCallbacks, List.map_nil, List.append_nil]
      rw [serveApiCall] at stepped
      split at stepped
      · cases stepped
      · dsimp only at stepped
        split_ifs at stepped
        · cases stepped
          exact bracketed
        · split at stepped <;>
            · cases stepped
              exact bracketed

end Steps

/-! ## The session -/

/-- Until the session is open, opening it is what is asked for first. -/
structure SessionFirst (st : TimeslotState) : Prop where
  unopened :
    st.oops = false → st.session = none →
      ∀ call, st.apiCalls.head? = some call → call = .openSession

section Session

variable {margin : ExtensionMargin} {st next : TimeslotState}

/-- A call is queued behind another, or opens the session. -/
theorem SessionFirst.scheduleRequest
    (first : SessionFirst st) (call : MpslTimeslotCall)
    (behind :
      st.session = none → st.oops = false → st.apiCalls = [] →
        call = .openSession) :
    SessionFirst (scheduleRequest st call) := by
  rw [Timeslot.scheduleRequest]
  split_ifs
  · refine ⟨fun running unknown other head => ?_⟩
    cases queue : st.apiCalls with
    | nil =>
        rw [queue] at head
        cases head
        exact behind unknown running queue
    | cons front rest =>
        rw [queue] at head
        cases head
        exact first.unopened running unknown other (by rw [queue]; rfl)
  · exact ⟨fun impossible => Bool.noConfusion impossible⟩

/-- What was queued stands in the queue unless the queue was full. -/
theorem scheduleRequest_queued (call : MpslTimeslotCall)
    (running : (Timeslot.scheduleRequest st call).oops = false) :
    (Timeslot.scheduleRequest st call).apiCalls ≠ [] := by
  rw [Timeslot.scheduleRequest] at running ⊢
  split_ifs at running ⊢
  exact List.append_ne_nil_of_right_ne_nil _ (List.cons_ne_nil _ _)

/-- A change of other fields. -/
theorem SessionFirst.congr
    (first : SessionFirst st) (oops : next.oops = st.oops)
    (session : next.session = st.session)
    (apiCalls : next.apiCalls = st.apiCalls) : SessionFirst next where
  unopened := by
    rw [oops, session, apiCalls]
    exact first.unopened

theorem SessionFirst.init (first : SessionFirst st) :
    SessionFirst (timeslotHandlerInit st) := by
  have opening := first.scheduleRequest .openSession fun _ _ _ => rfl
  refine opening.scheduleRequest .makeRequest fun _ running empty => ?_
  exact absurd empty (scheduleRequest_queued .openSession running)

theorem SessionFirst.signal
    (first : SessionFirst st) (opened : st.session ≠ none)
    (signal : TimeslotSignal) :
    SessionFirst (mpslTimeslotCallback margin st signal) := by
  cases signal with
  | start | extendSucceeded | extendFailed | radio | overstayed |
    invalidReturn | sessionClosed => exact first.congr rfl rfl rfl
  | timer0 compare0 compare1 =>
      rw [mpslTimeslotCallback]
      refine first.congr ?_ ?_ ?_ <;> split_ifs <;> rfl
  | cancelled | blocked | sessionIdle =>
      have kept :
          SessionFirst (setTimeslotActiveStatus (answer st .none) false) :=
        first.congr rfl rfl rfl
      exact
        kept.scheduleRequest .makeRequest fun unknown =>
          absurd unknown opened
  | unexpected => exact ⟨fun impossible => Bool.noConfusion impossible⟩

theorem SessionFirst.serve
    (first : SessionFirst st) (result : ApiResult)
    (running : st.oops = false)
    (served : serveApiCall st result = some next) : SessionFirst next := by
  rw [serveApiCall] at served
  split at served
  · cases served
  next call rest queue =>
    dsimp only at served
    split_ifs at served
    · cases served
      exact ⟨fun impossible => Bool.noConfusion impossible⟩
    · split at served
      · cases served
        exact ⟨fun _ unknown => absurd unknown (Option.some_ne_none _)⟩
      all_goals
        cases served
        refine ⟨fun _ unknown => ?_⟩
        have opening :=
          first.unopened running unknown _ (by rw [queue]; rfl)
        cases opening

theorem SessionFirst.step
    {event : TimeslotEvent} (first : SessionFirst st)
    (stepped : timeslotStep margin st event = some next) :
    SessionFirst next := by
  cases event with
  | init =>
      rw [timeslotStep] at stepped
      split_ifs at stepped
      cases stepped
      exact first.init
  | signal signal =>
      rw [timeslotStep] at stepped
      split_ifs at stepped with closed
      cases stepped
      rw [Bool.or_eq_true, not_or] at closed
      exact first.signal (by simpa using closed.1) signal
  | serve result =>
      rw [timeslotStep] at stepped
      split_ifs at stepped with oops
      exact first.serve result (by simpa using oops) stepped

theorem sessionFirst_initial : SessionFirst .initial where
  unopened _ _ call none := by cases none

end Session

/--
The callbacks of the application take turns, a start first, and the flag
tells the last of them; a slot is requested only once the session is open.
-/
theorem timeslot_callbacks_take_turns
    (margin : ExtensionMargin) (events : List TimeslotEvent)
    (finish : TimeslotState)
    (ran : run (timeslotStep margin) .initial events = some finish) :
    Alternates
        ((collected (timeslotStep margin) appCallbacks .initial events).map
          fun callback => decide (callback = .started)) ∧
      (finish.inTimeslot = true ↔
        (collected (timeslotStep margin) appCallbacks .initial
            events).getLast? =
          some .started) ∧
      (finish.oops = false →
        finish.apiCalls.head? = some .makeRequest →
          finish.session.isSome = true) := by
  have held :
      Bracketed (pendingMark finish.inTimeslot)
        ((collected (timeslotStep margin) appCallbacks .initial events).map
          mark) := by
    have initially :
        Bracketed (pendingMark TimeslotState.initial.inTimeslot)
          (([] : List TimeslotCallbackType).map mark) :=
      Bracketed.nil
    have onRun :=
      run_preserves_collected
        (fun st log event next
            (bracketed :
              Bracketed (pendingMark st.inTimeslot)
                (log.map mark))
            (_ : True) stepped => by
          rw [List.map_append]
          exact timeslotStep_bracketed bracketed stepped)
        initially (fun _ _ => trivial) ran
    rwa [List.nil_append] at onRun
  have tags (callbacks : List TimeslotCallbackType) :
      (callbacks.map mark).map Prod.fst =
        callbacks.map fun callback => decide (callback = .started) := by
    rw [List.map_map]
    apply List.map_congr_left
    intro callback _
    cases callback <;> rfl
  refine ⟨?_, ?_, ?_⟩
  · have alternates := held.alternates
    rwa [tags] at alternates
  · have last := held.getLast
    rw [tags, List.getLast?_map, pendingMark] at last
    cases inside : finish.inTimeslot with
    | true =>
        cases ending :
            (collected (timeslotStep margin) appCallbacks .initial
              events).getLast? with
        | none => simp [inside, ending] at last
        | some callback => simpa [inside, ending] using last
    | false =>
        cases ending :
            (collected (timeslotStep margin) appCallbacks .initial
              events).getLast? with
        | none => simp
        | some callback => simpa [inside, ending] using last
  · intro running requested
    have first : SessionFirst finish :=
      run_preserves (fun _ _ _ first stepped => first.step stepped)
        sessionFirst_initial ran
    by_contra closed
    have opening :=
      first.unopened running (by simpa using closed) .makeRequest requested
    cases opening

/-! ## The compare registers -/

/-- The slot that has started last. -/
structure SlotHistory where
  /-- How often it was extended. -/
  granted : Nat
  /-- Whether an extension was refused. -/
  refused : Bool
deriving DecidableEq, Repr

def SlotHistory.add (history : Option SlotHistory) :
    TimeslotEvent → Option SlotHistory
  | .signal .start => some ⟨0, false⟩
  | .signal .extendSucceeded =>
      history.map fun slot => { slot with granted := slot.granted + 1 }
  | .signal .extendFailed =>
      history.map fun slot => { slot with refused := true }
  | _ => history

/-- The end of a slot extended so often, on its own timer. -/
def slotEnd (granted : Nat) : UInt32 :=
  timeslotLengthUs * UInt32.ofNat (granted + 1)

/-- The registers stand before the end of the slot. -/
structure FollowsSlot
    (margin : ExtensionMargin) (st : TimeslotState) (slot : SlotHistory) :
    Prop where
  cc0 : st.cc0 = slotEnd slot.granted - margin - timeslotExtMarginUs
  cc1 : st.cc1 = slotEnd slot.granted - margin - timeslotReqEarliestMarginUs
  extensionFailed : st.extensionFailed = slot.refused

section Compares

variable {margin : ExtensionMargin} {st next : TimeslotState}

theorem slotEnd_succ (granted : Nat) :
    slotEnd (granted + 1) = slotEnd granted + timeslotLengthUs := by
  rw [slotEnd, slotEnd, UInt32.ofNat_add (granted + 1) 1]
  show timeslotLengthUs * (UInt32.ofNat (granted + 1) + 1) = _
  rw [UInt32.mul_add, UInt32.mul_one]

/-- An instant before the end of the slot moves with it. -/
theorem sub_add_length (moment margin before : UInt32) :
    moment - margin - before + timeslotLengthUs =
      moment + timeslotLengthUs - margin - before := by
  simp only [UInt32.sub_eq_add_neg]
  ac_rfl

theorem FollowsSlot.congr
    {slot : SlotHistory} (follows : FollowsSlot margin st slot)
    (cc0 : next.cc0 = st.cc0) (cc1 : next.cc1 = st.cc1)
    (extensionFailed : next.extensionFailed = st.extensionFailed) :
    FollowsSlot margin next slot where
  cc0 := cc0.trans follows.cc0
  cc1 := cc1.trans follows.cc1
  extensionFailed := extensionFailed.trans follows.extensionFailed

theorem scheduleRequest_slot (call : MpslTimeslotCall) :
    (scheduleRequest st call).cc0 = st.cc0 ∧
      (scheduleRequest st call).cc1 = st.cc1 ∧
        (scheduleRequest st call).extensionFailed = st.extensionFailed := by
  rw [scheduleRequest]
  split_ifs <;> exact ⟨rfl, rfl, rfl⟩

theorem FollowsSlot.scheduleRequest
    {slot : SlotHistory} (follows : FollowsSlot margin st slot)
    (call : MpslTimeslotCall) :
    FollowsSlot margin (scheduleRequest st call) slot := by
  rcases @scheduleRequest_slot st call with ⟨cc0, cc1, extensionFailed⟩
  exact follows.congr cc0 cc1 extensionFailed

/-- Before the first slot nothing is known of the registers. -/
def Follows
    (margin : ExtensionMargin) (st : TimeslotState)
    (history : Option SlotHistory) : Prop :=
  ∀ slot, history = some slot → FollowsSlot margin st slot

theorem Follows.signal
    {history : Option SlotHistory} (follows : Follows margin st history)
    (signal : TimeslotSignal) :
    Follows margin (mpslTimeslotCallback margin st signal)
      (SlotHistory.add history (.signal signal)) := by
  cases signal with
  | start =>
      rintro slot ⟨⟩
      exact ⟨rfl, rfl, rfl⟩
  | timer0 compare0 compare1 =>
      intro slot known
      rw [mpslTimeslotCallback]
      refine (follows slot known).congr ?_ ?_ ?_ <;> split_ifs <;> rfl
  | extendSucceeded =>
      intro slot known
      rcases Option.map_eq_some_iff.mp known with ⟨old, same, rfl⟩
      have before := follows old same
      refine ⟨?_, ?_, before.extensionFailed⟩
      · show st.cc0 + timeslotLengthUs = _
        rw [before.cc0, sub_add_length, slotEnd_succ]
      · show st.cc1 + timeslotLengthUs = _
        rw [before.cc1, sub_add_length, slotEnd_succ]
  | extendFailed =>
      intro slot known
      rcases Option.map_eq_some_iff.mp known with ⟨old, same, rfl⟩
      exact ⟨(follows old same).cc0, (follows old same).cc1, rfl⟩
  | radio | overstayed | invalidReturn | sessionClosed | unexpected =>
      intro slot known
      exact (follows slot known).congr rfl rfl rfl
  | cancelled | blocked | sessionIdle =>
      intro slot known
      have kept :
          FollowsSlot margin
            (setTimeslotActiveStatus (answer st .none) false) slot :=
        (follows slot known).congr rfl rfl rfl
      exact kept.scheduleRequest .makeRequest

theorem Follows.step
    {event : TimeslotEvent} {history : Option SlotHistory}
    (follows : Follows margin st history)
    (stepped : timeslotStep margin st event = some next) :
    Follows margin next (SlotHistory.add history event) := by
  cases event with
  | init =>
      rw [timeslotStep] at stepped
      split_ifs at stepped
      cases stepped
      intro slot known
      exact ((follows slot known).scheduleRequest _).scheduleRequest _
  | signal signal =>
      rw [timeslotStep] at stepped
      split_ifs at stepped
      cases stepped
      exact follows.signal signal
  | serve result =>
      rw [timeslotStep] at stepped
      split_ifs at stepped
      intro slot known
      have before := follows slot known
      rw [serveApiCall] at stepped
      split at stepped
      · cases stepped
      · dsimp only at stepped
        split_ifs at stepped
        · cases stepped
          exact before.congr rfl rfl rfl
        · split at stepped <;>
            · cases stepped
              exact before.congr rfl rfl rfl

end Compares

/--
However often a slot is extended, the compare registers stand at the same
distances before its end as extended so far; and the second of them asks for
a new slot exactly if an extension of this one was refused.
-/
theorem compares_before_slot_end
    (margin : ExtensionMargin) (events : List TimeslotEvent)
    (finish : TimeslotState) (slot : SlotHistory)
    (ran : run (timeslotStep margin) .initial events = some finish)
    (started : events.foldl SlotHistory.add none = some slot) :
    finish.cc0 = slotEnd slot.granted - margin - timeslotExtMarginUs ∧
      finish.cc1 =
          slotEnd slot.granted - margin - timeslotReqEarliestMarginUs ∧
        ∀ next,
          timeslotStep margin finish (.signal (.timer0 false true)) =
              some next →
            (next.callbackAction = .request ↔ slot.refused = true) := by
  have initially : Follows margin .initial none :=
    fun _ unknown => by cases unknown
  have preserved :
      ∀ st history event next,
        Follows margin st history →
          timeslotStep margin st event = some next →
            Follows margin next (SlotHistory.add history event) :=
    fun _ _ _ _ follows stepped => follows.step stepped
  have follows : Follows margin finish (events.foldl SlotHistory.add none) :=
    run_preserves_folded preserved initially ran
  have known := follows slot started
  refine ⟨known.cc0, known.cc1, fun next compared => ?_⟩
  rw [timeslotStep] at compared
  split_ifs at compared
  cases compared
  rw [← known.extensionFailed]
  cases failed : finish.extensionFailed <;>
    simp [mpslTimeslotCallback, answer, failed]

/-- A slot that is extended once and then no more. -/
def extendedSlot : List TimeslotEvent :=
  [.init, .serve ⟨0, 3⟩, .serve ⟨0, 3⟩, .signal .start,
    .signal (.timer0 true false), .signal .extendSucceeded,
    .signal (.timer0 true false), .signal .extendFailed]

theorem extendedSlot_takes_turns :
    ∃ finish,
      run (timeslotStep 82) .initial extendedSlot = some finish ∧
        Alternates
          ((collected (timeslotStep 82) appCallbacks .initial
                extendedSlot).map
            fun callback => decide (callback = .started)) :=
  ⟨_, rfl, (timeslot_callbacks_take_turns 82 extendedSlot _ rfl).1⟩

theorem extendedSlot_compares :
    ∃ finish,
      run (timeslotStep 82) .initial extendedSlot = some finish ∧
        finish.cc0 = slotEnd 1 - 82 - timeslotExtMarginUs :=
  ⟨_, rfl, (compares_before_slot_end 82 extendedSlot _ ⟨1, true⟩ rfl rfl).1⟩

end YkbFirmware.Esb.Timeslot
