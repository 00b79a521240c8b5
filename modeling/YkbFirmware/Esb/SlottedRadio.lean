import YkbFirmware.Esb.InOrder

/-!
# The transport inside its time slots

On a network core that also runs the Bluetooth controller, `ykb_esb.c` is
started and stopped by the callbacks of `ykb_timeslot.c`.  The two are put
together here: what the scheduler signals reaches the transport through the
callbacks, at the moment of the signal.

Whatever the scheduler signals and the threads do, the radio library is off
outside the time slots; so the transport never uses the radio while it belongs
to the controller.
-/

namespace YkbFirmware.Esb.SlottedRadio

open YkbFirmware.Library.TransitionSystem
open YkbFirmware.Esb.Driver
open YkbFirmware.Esb.Timeslot
open YkbFirmware.Esb.Radio
open YkbFirmware.Esb.InOrder

variable {Hw : Type}

structure SlottedState (Hw : Type) where
  timeslot : TimeslotState
  esb : EsbState Hw

/-- Before `ykb_esb_init`. -/
def SlottedState.initial (hw : Hw) : SlottedState Hw where
  timeslot := .initial
  esb := .initial hw

inductive SlottedEvent where
  | init (clocksStart : Int)
  | signal (signal : TimeslotSignal)
  | serve (result : ApiResult)
  /-- An event of a thread, or an interrupt of the radio. -/
  | transport (event : EsbEvent)

/-- Events that do not come from the scheduler or from `ykb_esb_init`. -/
def OfTransport : EsbEvent → Bool
  | .init _ | .timeslot _ => false
  | _ => true

section Step

variable (driver : EsbDriver Hw) (options : EsbOptions)
variable (margin : ExtensionMargin)

/-- The callbacks of `ykb_timeslot.c` arrive at the transport. -/
def callBack (esb : EsbState Hw) (callbacks : List TimeslotCallbackType) :
    EsbState Hw :=
  callbacks.foldl (onTimeslotStartStop driver options) esb

def slottedStep (st : SlottedState Hw) :
    SlottedEvent → Option (SlottedState Hw)
  | .init clocksStart =>
      (timeslotStep margin st.timeslot .init).map fun timeslot =>
        let inited := ykbEsbInit driver options st.esb clocksStart
        if inited.1 < 0 then
          { st with esb := inited.2 }
        else
          ⟨timeslot, inited.2⟩
  | .signal signal =>
      (timeslotStep margin st.timeslot (.signal signal)).map fun timeslot =>
        ⟨timeslot,
          callBack driver options st.esb
            (signalCallbacks st.timeslot signal)⟩
  | .serve result =>
      (timeslotStep margin st.timeslot (.serve result)).map fun timeslot =>
        { st with timeslot := timeslot }
  | .transport event =>
      if OfTransport event then
        (esbStep driver options st.esb event).map fun esb =>
          { st with esb := esb }
      else
        none

/-- The events of the transport in a step. -/
def transportEvents (st : SlottedState Hw) : SlottedEvent → List EsbEvent
  | .init clocksStart => [.init clocksStart]
  | .signal signal => (signalCallbacks st.timeslot signal).map .timeslot
  | .serve _ => []
  | .transport event => [event]

end Step

section Steps

variable
    {driver : EsbDriver Hw} {options : EsbOptions}
    {margin : ExtensionMargin} {st next : SlottedState Hw}
    {event : SlottedEvent}

/-! ## The transport of the composition -/

theorem run_callBack
    (mpsl : options.mpsl = true) (esb : EsbState Hw)
    (callbacks : List TimeslotCallbackType) :
    run (esbStep driver options) esb (callbacks.map .timeslot) =
      some (callBack driver options esb callbacks) := by
  induction callbacks generalizing esb with
  | nil => rfl
  | cons callback rest induction =>
      rw [List.map_cons, run_cons, esbStep, if_pos mpsl, Option.bind_some,
        induction]
      rfl

/-- The transport takes the steps it takes by itself. -/
theorem slottedStep_transport
    (mpsl : options.mpsl = true)
    (stepped : slottedStep driver options margin st event = some next) :
    run (esbStep driver options) st.esb (transportEvents st event) =
      some next.esb := by
  cases event with
  | init clocksStart =>
      rcases Option.map_eq_some_iff.mp stepped with ⟨timeslot, -, rfl⟩
      rw [transportEvents, run_cons, esbStep, Option.bind_some, run_nil]
      dsimp only
      split_ifs <;> rfl
  | signal signal =>
      rcases Option.map_eq_some_iff.mp stepped with ⟨timeslot, -, rfl⟩
      exact run_callBack mpsl st.esb _
  | serve result =>
      rcases Option.map_eq_some_iff.mp stepped with ⟨timeslot, -, rfl⟩
      rfl
  | transport event =>
      rw [slottedStep] at stepped
      split_ifs at stepped
      rcases Option.map_eq_some_iff.mp stepped with ⟨esb, moved, rfl⟩
      rw [transportEvents, run_cons, moved]
      rfl

/-- So every run of the composition is one of the transport. -/
theorem slotted_run_refines
    (mpsl : options.mpsl = true) {start finish : SlottedState Hw}
    {events : List SlottedEvent}
    (ran : run (slottedStep driver options margin) start events = some finish) :
    run (esbStep driver options) start.esb
        (collected (slottedStep driver options margin) transportEvents start
          events) =
      some finish.esb :=
  run_refines_collected
    (fun _ _ _ stepped => slottedStep_transport mpsl stepped) ran

/-! ## Outside the time slots -/

/-- The transport has let go of the radio. -/
structure Released (driver : EsbDriver Hw) (esb : EsbState Hw) : Prop where
  inactive : esb.active = false
  off : driver.phase esb.hw = .off

theorem kick_off
    {esb : EsbState Hw} {maxLength : Nat}
    (lawful : driver.Lawful maxLength) (off : driver.phase esb.hw = .off) :
    ∃ hw,
      (ptxKickNextFromMsgq driver esb).2 = { esb with hw := hw } ∧
        driver.phase hw = .off := by
  rcases esb with ⟨active, txPayloads, cache, hw, senders⟩
  cases txPayloads with
  | nil => exact ⟨hw, rfl, off⟩
  | cons payload rest =>
      have refused : (driver.writePayload hw payload).1 < 0 := by
        by_contra written
        exact (lawful.write_ok hw payload (Int.not_lt.mp written)).1 off
      have keeps := lawful.write_refused hw payload refused
      refine ⟨(driver.writePayload hw payload).2, ?_, ?_⟩
      · simp only [ptxKickNextFromMsgq]
        rw [if_pos refused]
      · exact keeps.phase.trans off

theorem kick_frame (esb : EsbState Hw) :
    ∃ hw, (ptxKickNextFromMsgq driver esb).2 = { esb with hw := hw } := by
  rcases esb with ⟨active, txPayloads, cache, hw, senders⟩
  cases txPayloads with
  | nil => exact ⟨hw, rfl⟩
  | cons payload rest =>
      rw [ptxKickNextFromMsgq]
      dsimp only
      split_ifs
      · exact ⟨_, rfl⟩
      · exact ⟨_, rfl⟩

theorem prxSetCachedAck_released
    {esb : EsbState Hw} (released : Released driver esb)
    (packet : YkbEsbData) :
    Released driver (prxSetCachedAckFromData driver options esb packet) := by
  rw [prxSetCachedAckFromData]
  split_ifs
  · exact released
  · exact released
  · rw [if_neg (by simp [released.inactive])]
    exact ⟨released.inactive, released.off⟩

theorem prxSetCachedAck_active (esb : EsbState Hw) (packet : YkbEsbData) :
    (prxSetCachedAckFromData driver options esb packet).active =
      esb.active := by
  rw [prxSetCachedAckFromData]
  split_ifs
  · rfl
  · rfl
  · dsimp only [prxPreloadCachedAck]
    split_ifs <;> rfl

/-- A radio that is off stays off until it is started. -/
theorem released_step
    {maxLength : Nat} (lawful : driver.Lawful maxLength)
    {esb after : EsbState Hw} {event : EsbEvent}
    (released : Released driver esb) (transport : OfTransport event = true)
    (stepped : esbStep driver options esb event = some after) :
    Released driver after := by
  cases event with
  | init clocksStart => cases transport
  | timeslot type => cases transport
  | send sender packet =>
      rw [esbStep] at stepped
      split_ifs at stepped
      cases stepped
      rw [ykbEsbSend]
      split_ifs
      · exact released
      · exact prxSetCachedAck_released released packet
      · exact released
      · exact ⟨released.inactive, released.off⟩
  | prxSetAckPayload packet =>
      cases stepped
      rw [ykbEsbPrxSetAckPayload]
      split_ifs
      · exact released
      · exact released
      · exact prxSetCachedAck_released released packet
  | check sender =>
      rw [esbStep] at stepped
      split_ifs at stepped
      cases stepped
      rw [senderChecks]
      split_ifs <;> exact ⟨released.inactive, released.off⟩
  | kick sender =>
      rw [esbStep] at stepped
      split_ifs at stepped
      cases stepped
      rcases kick_off lawful released.off with ⟨hw, kicked, off⟩
      rw [senderKicks, kicked]
      exact ⟨released.inactive, off⟩
  | txSuccess acks =>
      rcases Option.map_eq_some_iff.mp stepped with ⟨hw, transmitted, -⟩
      rcases lawful.transmitted esb.hw acks hw transmitted with ⟨-, phase⟩
      rw [released.off] at phase
      rcases phase with phase | phase <;> cases phase.1
  | txFailed =>
      rcases Option.map_eq_some_iff.mp stepped with ⟨hw, failed, -⟩
      have busy := (lawful.failed esb.hw hw failed).2.1
      rw [released.off] at busy
      cases busy
  | rxReceived payload =>
      rcases Option.map_eq_some_iff.mp stepped with ⟨hw, received, -⟩
      exact absurd released.off (lawful.received esb.hw payload hw received).2

/-- Only starts and stops change whether the radio may be used. -/
theorem active_step
    {esb after : EsbState Hw} {event : EsbEvent}
    (transport : OfTransport event = true)
    (stepped : esbStep driver options esb event = some after) :
    after.active = esb.active := by
  have kicked (state : EsbState Hw) :
      (ptxKickNextFromMsgq driver state).2.active = state.active := by
    rcases @kick_frame _ driver state with ⟨hw, frame⟩
    rw [frame]
  cases event with
  | init clocksStart => cases transport
  | timeslot type => cases transport
  | send sender packet =>
      rw [esbStep] at stepped
      split_ifs at stepped
      cases stepped
      rw [ykbEsbSend]
      split_ifs
      · rfl
      · exact prxSetCachedAck_active esb packet
      · rfl
      · rfl
  | prxSetAckPayload packet =>
      cases stepped
      rw [ykbEsbPrxSetAckPayload]
      split_ifs
      · rfl
      · rfl
      · exact prxSetCachedAck_active esb packet
  | check sender =>
      rw [esbStep] at stepped
      split_ifs at stepped
      cases stepped
      rw [senderChecks]
      split_ifs <;> rfl
  | kick sender =>
      rw [esbStep] at stepped
      split_ifs at stepped
      cases stepped
      exact kicked esb
  | txSuccess acks =>
      rcases Option.map_eq_some_iff.mp stepped with ⟨hw, -, rfl⟩
      rw [onTxSuccess]
      dsimp only
      split_ifs
      · exact kicked _
      · rfl
  | txFailed =>
      rcases Option.map_eq_some_iff.mp stepped with ⟨hw, -, rfl⟩
      rw [onTxFailed]
      dsimp only
      split_ifs
      · exact kicked _
      · exact kicked _
      · rfl
  | rxReceived payload =>
      rcases Option.map_eq_some_iff.mp stepped with ⟨hw, -, rfl⟩
      rfl

/-- What a signal does to the slot, and what the transport hears of it. -/
theorem signalCallbacks_cases (st : TimeslotState) (signal : TimeslotSignal) :
    (signalCallbacks st signal = [] ∧
        (mpslTimeslotCallback margin st signal).inTimeslot =
          st.inTimeslot) ∨
      (signalCallbacks st signal = [.started] ∧
        (mpslTimeslotCallback margin st signal).inTimeslot = true) ∨
      (signalCallbacks st signal = [.stopped] ∧
        (mpslTimeslotCallback margin st signal).inTimeslot = false) := by
  have turnedOff :
      (activeStatusCallback st false = [] ∧ false = st.inTimeslot) ∨
        (activeStatusCallback st false = [.started] ∧ false = true) ∨
          (activeStatusCallback st false = [.stopped] ∧ false = false) := by
    cases inside : st.inTimeslot <;> simp [activeStatusCallback, inside]
  cases signal with
  | start =>
      cases inside : st.inTimeslot <;>
        simp [signalCallbacks, activeStatusCallback, mpslTimeslotCallback,
          setTimeslotActiveStatus, inside]
  | timer0 compare0 compare1 =>
      refine .inl ⟨rfl, ?_⟩
      rw [mpslTimeslotCallback]
      split_ifs <;> rfl
  | extendSucceeded | radio | unexpected => exact .inl ⟨rfl, rfl⟩
  | extendFailed | overstayed | invalidReturn | sessionClosed =>
      exact turnedOff
  | cancelled | blocked | sessionIdle =>
      simp only [mpslTimeslotCallback, scheduleRequest_inTimeslot]
      exact turnedOff

/-! ## The invariant -/

/-- The library's initialisation always succeeds. -/
def AlwaysStarts (driver : EsbDriver Hw) (options : EsbOptions) : Prop :=
  ∀ esb : EsbState Hw, (esbInitialize driver options esb).1 = 0

/-- `ykb_esb_init` is not called in a slot. -/
def InitsOutside (st : SlottedState Hw) : SlottedEvent → Prop
  | .init _ => st.timeslot.inTimeslot = false
  | _ => True

/-- Outside the slots the transport has let go of the radio. -/
def Yields (driver : EsbDriver Hw) (st : SlottedState Hw) : Prop :=
  st.timeslot.inTimeslot = false → Released driver st.esb

/-- The transport is active in the slots and only there. -/
def Tracks (st : SlottedState Hw) : Prop :=
  st.esb.active = st.timeslot.inTimeslot

theorem resume_active
    (starts : AlwaysStarts driver options) (esb : EsbState Hw) :
    (onTimeslotStartStop driver options esb .started).active = true := by
  have succeeds := starts esb
  rw [onTimeslotStartStop, ykbEsbResume]
  dsimp only
  rw [if_neg (not_not.mpr succeeds)]
  split_ifs
  · rcases @kick_frame _ driver
        { (esbInitialize driver options esb).2 with
          active := decide ((esbInitialize driver options esb).1 = 0) }
      with ⟨hw, frame⟩
    rw [frame]
    exact decide_eq_true succeeds
  · exact decide_eq_true succeeds

theorem suspend_released
    {maxLength : Nat} (lawful : driver.Lawful maxLength)
    (options : EsbOptions) (esb : EsbState Hw) :
    Released driver (onTimeslotStartStop driver options esb .stopped) :=
  ⟨rfl, lawful.disable_phase esb.hw⟩

/-- What a signal leaves of the slot and of the transport. -/
theorem yields_signal
    {maxLength : Nat} (lawful : driver.Lawful maxLength)
    (yields : Yields driver st) (signal : TimeslotSignal) :
    Yields driver
      ⟨mpslTimeslotCallback margin st.timeslot signal,
        callBack driver options st.esb
          (signalCallbacks st.timeslot signal)⟩ := by
  rw [Yields]
  dsimp only
  rcases @signalCallbacks_cases margin st.timeslot signal with
    ⟨callbacks, inside⟩ | ⟨callbacks, inside⟩ | ⟨callbacks, inside⟩ <;>
    rw [callbacks, inside]
  · exact yields
  · exact fun impossible => by cases impossible
  · exact fun _ => suspend_released lawful options st.esb

theorem tracks_signal
    (starts : AlwaysStarts driver options) (tracks : Tracks st)
    (signal : TimeslotSignal) :
    Tracks
      (⟨mpslTimeslotCallback margin st.timeslot signal,
        callBack driver options st.esb
          (signalCallbacks st.timeslot signal)⟩ : SlottedState Hw) := by
  rw [Tracks]
  dsimp only
  rcases @signalCallbacks_cases margin st.timeslot signal with
    ⟨callbacks, inside⟩ | ⟨callbacks, inside⟩ | ⟨callbacks, inside⟩ <;>
    rw [callbacks, inside]
  · exact tracks
  · exact resume_active starts st.esb
  · rfl

theorem ykbEsbInit_mpsl
    (mpsl : options.mpsl = true) (esb : EsbState Hw) (clocksStart : Int) :
    (ykbEsbInit driver options esb clocksStart).2 =
      { esb with active := false } := by
  rw [ykbEsbInit]
  dsimp only
  rw [if_pos mpsl]
  split_ifs <;> rfl

@[simp]
theorem timeslotHandlerInit_inTimeslot (timeslot : TimeslotState) :
    (timeslotHandlerInit timeslot).inTimeslot = timeslot.inTimeslot := by
  simp [timeslotHandlerInit]

/-- Initialisation switches the transport off and starts no slot. -/
theorem init_frame
    (mpsl : options.mpsl = true) {clocksStart : Int}
    (stepped :
      slottedStep driver options margin st (.init clocksStart) =
        some next) :
    next.esb = { st.esb with active := false } ∧
      next.timeslot.inTimeslot = st.timeslot.inTimeslot := by
  rcases Option.map_eq_some_iff.mp stepped with ⟨timeslot, inited, rfl⟩
  rw [timeslotStep] at inited
  split_ifs at inited
  cases inited
  have off :=
    @ykbEsbInit_mpsl Hw driver options mpsl st.esb clocksStart
  dsimp only
  split_ifs
  · exact ⟨off, rfl⟩
  · exact ⟨off, timeslotHandlerInit_inTimeslot st.timeslot⟩

theorem serveApiCall_inTimeslot
    {timeslot after : TimeslotState} {result : ApiResult}
    (served : serveApiCall timeslot result = some after) :
    after.inTimeslot = timeslot.inTimeslot := by
  rw [serveApiCall] at served
  split at served
  · cases served
  · dsimp only at served
    split_ifs at served
    · cases served
      rfl
    · split at served <;>
        · cases served
          rfl

theorem serve_frame
    {result : ApiResult}
    (stepped :
      slottedStep driver options margin st (.serve result) = some next) :
    next.esb = st.esb ∧
      next.timeslot.inTimeslot = st.timeslot.inTimeslot := by
  rcases Option.map_eq_some_iff.mp stepped with ⟨timeslot, served, rfl⟩
  rw [timeslotStep] at served
  split_ifs at served
  exact ⟨rfl, serveApiCall_inTimeslot served⟩

/-- A signal is taken by the handler, and reaches the transport. -/
theorem signal_frame
    {signal : TimeslotSignal}
    (stepped :
      slottedStep driver options margin st (.signal signal) = some next) :
    next =
      ⟨mpslTimeslotCallback margin st.timeslot signal,
        callBack driver options st.esb
          (signalCallbacks st.timeslot signal)⟩ := by
  rcases Option.map_eq_some_iff.mp stepped with ⟨timeslot, moved, rfl⟩
  rw [timeslotStep] at moved
  split_ifs at moved
  cases moved
  rfl

theorem yields_step
    {maxLength : Nat} (lawful : driver.Lawful maxLength)
    (mpsl : options.mpsl = true) (yields : Yields driver st)
    (stepped : slottedStep driver options margin st event = some next) :
    Yields driver next := by
  cases event with
  | init clocksStart =>
      rcases init_frame mpsl stepped with ⟨esb, inside⟩
      intro outside
      rw [inside] at outside
      rw [esb]
      exact ⟨rfl, (yields outside).off⟩
  | signal signal =>
      rw [signal_frame stepped]
      exact yields_signal lawful yields signal
  | serve result =>
      rcases serve_frame stepped with ⟨esb, inside⟩
      rw [Yields, esb, inside]
      exact yields
  | transport event =>
      rw [slottedStep] at stepped
      split_ifs at stepped with transport
      rcases Option.map_eq_some_iff.mp stepped with ⟨esb, moved, rfl⟩
      exact fun outside =>
        released_step lawful (yields outside) transport moved

theorem tracks_step
    (mpsl : options.mpsl = true) (starts : AlwaysStarts driver options)
    (tracks : Tracks st) (outside : InitsOutside st event)
    (stepped : slottedStep driver options margin st event = some next) :
    Tracks next := by
  cases event with
  | init clocksStart =>
      rcases init_frame mpsl stepped with ⟨esb, inside⟩
      rw [Tracks, esb, inside]
      exact outside.symm
  | signal signal =>
      rw [signal_frame stepped]
      exact tracks_signal starts tracks signal
  | serve result =>
      rcases serve_frame stepped with ⟨esb, inside⟩
      rw [Tracks, esb, inside]
      exact tracks
  | transport event =>
      rw [slottedStep] at stepped
      split_ifs at stepped with transport
      rcases Option.map_eq_some_iff.mp stepped with ⟨esb, moved, rfl⟩
      exact (active_step transport moved).trans tracks

end Steps

/--
Outside its time slots the transport is inactive and the radio library off,
whatever the scheduler signals and whatever threads and interrupts do; and if
the library can always be started, the transport is active throughout them,
as long as it is not initialised again in one.
-/
theorem radio_off_outside_timeslots
    (driver : EsbDriver Hw) (options : EsbOptions)
    (lawful : driver.Lawful options.maxPayloadLength)
    (mpsl : options.mpsl = true) (margin : ExtensionMargin)
    (hw : Hw) (off : driver.phase hw = .off)
    (events : List SlottedEvent) (finish : SlottedState Hw)
    (ran :
      run (slottedStep driver options margin) (.initial hw) events =
        some finish) :
    (finish.timeslot.inTimeslot = false →
        finish.esb.active = false ∧ driver.phase finish.esb.hw = .off) ∧
      (AlwaysStarts driver options →
        StepsMeet (slottedStep driver options margin) InitsOutside
            (.initial hw) events →
          finish.esb.active = finish.timeslot.inTimeslot) := by
  constructor
  · intro outside
    have yields : Yields driver finish :=
      run_preserves
        (fun _ _ _ yields stepped => yields_step lawful mpsl yields stepped)
        (fun _ => ⟨rfl, off⟩) ran
    exact ⟨(yields outside).inactive, (yields outside).off⟩
  · intro starts met
    have initially : Tracks (SlottedState.initial hw) := rfl
    have tracks : Tracks finish :=
      run_preserves_of_stepsMeet
        (fun _ _ _ tracks outside stepped =>
          tracks_step mpsl starts tracks outside stepped)
        initially met ran
    exact tracks

/-- A slot in which a packet is sent, and which is then cancelled. -/
def cancelledSlot : List SlottedEvent :=
  [.init 0, .serve ⟨0, 3⟩, .serve ⟨0, 3⟩, .signal .start,
    .transport (.send 0 (oneByte 7)), .transport (.check 0),
    .transport (.kick 0), .signal .cancelled]

theorem cancelledSlot_releases :
    ∃ finish,
      run (slottedStep fifoDriver slottedTransmitter 82)
          (.initial ⟨.off, []⟩) cancelledSlot =
        some finish ∧
      finish.timeslot.inTimeslot = false ∧
        finish.esb.active = false ∧
          fifoDriver.phase finish.esb.hw = .off :=
  ⟨_, rfl, rfl,
    (radio_off_outside_timeslots fifoDriver slottedTransmitter
      (fifoDriver_lawful 32) rfl 82 ⟨.off, []⟩ rfl cancelledSlot _ rfl).1
      rfl⟩

end YkbFirmware.Esb.SlottedRadio
