import Mathlib.Tactic.SplitIfs
import Mathlib.Logic.Function.Basic
import YkbFirmware.Library.Conservation
import YkbFirmware.Esb.Radio

/-!
# The transmitter settles its packets in order

While a transmitter runs, the FIFO of the radio library is empty or holds the
first packet of the queue and nothing else.  So the packet that leaves the
queue when a transmission ends is the one that was transmitted, and packets
are settled in the order in which they were accepted, each once.

One thing can break this: a thread that has found the radio idle, and is about
to kick the transmission, is overtaken by a start of the radio or by another
thread doing the same, and the first packet is written twice.  `Undisturbed`
excludes it.
-/

namespace YkbFirmware.Esb.InOrder

open YkbFirmware.Library.TransitionSystem
open YkbFirmware.Library.Conservation
open YkbFirmware.Esb.Driver
open YkbFirmware.Esb.Timeslot (TimeslotCallbackType)
open YkbFirmware.Esb.Radio

variable {Hw : Type}

/-- Nothing is written, and nothing is being transmitted. -/
structure Quiet (driver : EsbDriver Hw) (hw : Hw) : Prop where
  txFifo : driver.txFifo hw = []
  phase : driver.phase hw = .off ∨ driver.phase hw = .idle

/-- The payload, and no other, is being transmitted. -/
structure Sending
    (driver : EsbDriver Hw) (hw : Hw) (payload : EsbPayload) : Prop where
  txFifo : driver.txFifo hw = [payload]
  phase : driver.phase hw = .transmitting

/-- The library has nothing to transmit, or the first packet queued. -/
def InFlight (driver : EsbDriver Hw) (st : EsbState Hw) : Prop :=
  Quiet driver st.hw ∨
    ∃ payload rest,
      st.txPayloads = payload :: rest ∧ Sending driver st.hw payload

/-- No thread is about to kick a transmission. -/
def NoneKicking (st : EsbState Hw) : Prop :=
  ∀ sender, st.senders sender ≠ .kicking

structure Consistent (driver : EsbDriver Hw) (st : EsbState Hw) : Prop where
  inFlight : InFlight driver st
  oneKicks :
    ∀ first second,
      st.senders first = .kicking → st.senders second = .kicking →
        first = second
  kicksQuiet :
    ∀ sender, st.senders sender = .kicking → Quiet driver st.hw

/-- A start of the radio. -/
def Starts : EsbEvent → Prop
  | .init _ | .timeslot .started => True
  | _ => False

/-- A look at whether the radio is idle. -/
def Looks : EsbEvent → Prop
  | .check _ => True
  | _ => False

/--
While a thread is about to kick, the radio is not started and no other thread
looks whether it is idle.
-/
def Undisturbed (st : EsbState Hw) (event : EsbEvent) : Prop :=
  Starts event ∨ Looks event → NoneKicking st

/-! ## The parts of a step -/

section Parts

variable
    {driver : EsbDriver Hw} {options : EsbOptions} {maxLength : Nat}
    {st : EsbState Hw} {hw after : Hw}

theorem Quiet.keeps
    (quiet : Quiet driver hw) (keeps : driver.Keeps hw after) :
    Quiet driver after :=
  ⟨keeps.txFifo.trans quiet.txFifo, by rw [keeps.phase]; exact quiet.phase⟩

theorem Quiet.disable (lawful : driver.Lawful maxLength) (hw : Hw) :
    Quiet driver (driver.disable hw) :=
  ⟨lawful.disable_txFifo hw, .inl (lawful.disable_phase hw)⟩

theorem Sending.keeps
    {payload : EsbPayload} (sending : Sending driver hw payload)
    (keeps : driver.Keeps hw after) : Sending driver after payload :=
  ⟨keeps.txFifo.trans sending.txFifo, keeps.phase.trans sending.phase⟩

theorem Sending.not_quiet
    {payload : EsbPayload} (sending : Sending driver hw payload) :
    ¬ Quiet driver hw := by
  intro quiet
  have empty := sending.txFifo.symm.trans quiet.txFifo
  cases empty

theorem InFlight.keeps
    (inFlight : InFlight driver st) (keeps : driver.Keeps st.hw after) :
    InFlight driver { st with hw := after } := by
  rcases inFlight with quiet | ⟨payload, rest, queue, sending⟩
  · exact .inl (quiet.keeps keeps)
  · exact .inr ⟨payload, rest, queue, sending.keeps keeps⟩

/-- What a kick finds and leaves when nothing is being transmitted. -/
inductive Kicked
    (driver : EsbDriver Hw) (maxLength : Nat) (st : EsbState Hw) :
    EsbState Hw → Prop where
  | waits
      (hw : Hw) (quiet : Quiet driver hw)
      (phase : driver.phase hw = driver.phase st.hw)
      (stays :
        ∀ payload ∈ st.txPayloads.head?,
          driver.phase st.hw = .off ∨
            ¬ EsbDriver.Sendable maxLength payload) :
      Kicked driver maxLength st { st with hw := hw }
  | sends
      (hw : Hw) (payload : EsbPayload) (rest : List EsbPayload)
      (queue : st.txPayloads = payload :: rest)
      (sending : Sending driver hw payload) :
      Kicked driver maxLength st { st with hw := hw }

theorem ptxKick_cases
    (lawful : driver.Lawful maxLength) (quiet : Quiet driver st.hw) :
    Kicked driver maxLength st (ptxKickNextFromMsgq driver st).2 := by
  rcases st with ⟨active, txPayloads, cache, hw, senders⟩
  cases txPayloads with
  | nil => exact .waits hw quiet rfl (by simp)
  | cons payload rest =>
      simp only [ptxKickNextFromMsgq]
      split_ifs with refused
      · have keeps := lawful.write_refused hw payload refused
        refine .waits _ (quiet.keeps keeps) keeps.phase ?_
        simp only [List.head?_cons, Option.mem_some_iff, forall_eq']
        by_contra accepted
        rw [not_or, not_not] at accepted
        have written :=
          lawful.write_accepted hw payload accepted.1 quiet.txFifo accepted.2
        omega
      · rcases lawful.write_ok hw payload (Int.not_lt.mp refused) with
          ⟨powered, txFifo, phase⟩
        have idle : driver.phase hw = .idle := quiet.phase.resolve_left powered
        rw [show driver.txFifo hw = [] from quiet.txFifo, List.nil_append]
          at txFifo
        refine .sends _ payload rest rfl ⟨?_, ?_⟩
        · rw [lawful.startTx_txFifo, txFifo]
        · rw [lawful.startTx_phase, if_pos]
          exact ⟨phase.trans idle, by simp [txFifo]⟩

theorem Kicked.inFlight
    {next : EsbState Hw} (kicked : Kicked driver maxLength st next) :
    InFlight driver next := by
  cases kicked with
  | waits hw quiet => exact .inl quiet
  | sends hw payload rest queue sending =>
      exact .inr ⟨payload, rest, queue, sending⟩

/-- A kick changes the library and nothing else. -/
theorem Kicked.frame
    {next : EsbState Hw} (kicked : Kicked driver maxLength st next) :
    ∃ hw, next = { st with hw := hw } := by
  cases kicked with
  | waits hw => exact ⟨hw, rfl⟩
  | sends hw => exact ⟨hw, rfl⟩

theorem Kicked.txPayloads
    {next : EsbState Hw} (kicked : Kicked driver maxLength st next) :
    next.txPayloads = st.txPayloads := by
  rcases kicked.frame with ⟨hw, rfl⟩
  rfl

theorem Kicked.senders
    {next : EsbState Hw} (kicked : Kicked driver maxLength st next) :
    next.senders = st.senders := by
  rcases kicked.frame with ⟨hw, rfl⟩
  rfl

theorem Kicked.active
    {next : EsbState Hw} (kicked : Kicked driver maxLength st next) :
    next.active = st.active := by
  rcases kicked.frame with ⟨hw, rfl⟩
  rfl

/-- A transmitter's library is quiet after its initialisation. -/
theorem esbInitialize_spec
    (lawful : driver.Lawful maxLength) (ptx : options.mode = .ptx) :
    ∃ hw,
      (esbInitialize driver options st).2 = { st with hw := hw } ∧
        Quiet driver hw ∧
          (0 ≤ (esbInitialize driver options st).1 →
            driver.phase hw = .idle) := by
  have txFifo := lawful.init_txFifo st.hw options.mode
  have phase := lawful.init_phase st.hw options.mode
  have error := lawful.init_error st.hw options.mode
  rw [esbInitialize]
  dsimp only
  split_ifs with refused based rebased prefixed prx
  · rw [if_neg refused] at phase
    exact ⟨_, rfl, ⟨txFifo, .inl phase⟩, fun inited => by omega⟩
  all_goals
    rw [if_pos (not_not.mp refused)] at phase
    have inited : Quiet driver _ := ⟨txFifo, .inr phase⟩
    have first :=
      lawful.setBaseAddress0 (driver.init st.hw options.mode).2
        options.baseAddr0
  · exact ⟨_, rfl, inited.keeps first, fun _ => first.phase.trans phase⟩
  all_goals
    have second := first.trans (lawful.setBaseAddress1 _ options.baseAddr1)
  · exact ⟨_, rfl, inited.keeps second, fun _ => second.phase.trans phase⟩
  all_goals
    have third := second.trans (lawful.setPrefixes _)
  · exact ⟨_, rfl, inited.keeps third, fun _ => third.phase.trans phase⟩
  · rw [ptx] at prx
    cases prx
  · exact ⟨_, rfl, inited.keeps third, fun _ => third.phase.trans phase⟩

end Parts

/-! ## What a step does -/

/-- The steps of a transmitter. -/
inductive PtxStep
    (driver : EsbDriver Hw) (options : EsbOptions) (st : EsbState Hw) :
    EsbEvent → EsbState Hw → Prop where
  | deactivates (clocksStart : Int) :
      PtxStep driver options st (.init clocksStart)
        { st with active := false }
  | startFails
      (event : EsbEvent) (starts : Starts event) (hw : Hw)
      (quiet : Quiet driver hw) :
      PtxStep driver options st event { st with active := false, hw := hw }
  | starts
      (event : EsbEvent) (starts : Starts event) (hw : Hw)
      (quiet : Quiet driver hw) (idle : driver.phase hw = .idle)
      (next : EsbState Hw)
      (kicked :
        Kicked driver options.maxPayloadLength
          { st with active := true, hw := hw } next) :
      PtxStep driver options st event next
  | stops (hw : Hw) (quiet : Quiet driver hw) :
      PtxStep driver options st (.timeslot .stopped)
        { st with active := false, hw := hw }
  | refuses
      (sender : Nat) (packet : YkbEsbData)
      (refused : (ykbEsbSend driver options st sender packet).1 ≠ 0) :
      PtxStep driver options st (.send sender packet) st
  | queues
      (sender : Nat) (packet : YkbEsbData)
      (fits : packet.len.toNat ≤ options.maxPayloadLength)
      (room : st.txPayloads.length < txSlots)
      (accepted : (ykbEsbSend driver options st sender packet).1 = 0) :
      PtxStep driver options st (.send sender packet)
        { st with
          txPayloads := st.txPayloads ++ [payloadOf packet]
          senders := Function.update st.senders sender .queued }
  | ignores (packet : YkbEsbData) :
      PtxStep driver options st (.prxSetAckPayload packet) st
  | leaves
      (sender : Nat)
      (busy : st.active = true → driver.phase st.hw ≠ .idle) :
      PtxStep driver options st (.check sender)
        { st with senders := Function.update st.senders sender .ready }
  | decides
      (sender : Nat) (active : st.active = true)
      (idle : driver.phase st.hw = .idle) :
      PtxStep driver options st (.check sender)
        { st with senders := Function.update st.senders sender .kicking }
  | kicks
      (sender : Nat) (kicking : st.senders sender = .kicking)
      (next : EsbState Hw)
      (kicked : Kicked driver options.maxPayloadLength st next) :
      PtxStep driver options st (.kick sender)
        { next with senders := Function.update st.senders sender .ready }
  | transmits
      (acks : List EsbPayload) (payload : EsbPayload)
      (rest : List EsbPayload) (queue : st.txPayloads = payload :: rest)
      (sending : Sending driver st.hw payload) (hw : Hw)
      (quiet : Quiet driver hw) (idle : driver.phase hw = .idle)
      (next : EsbState Hw)
      (kicked :
        Kicked driver options.maxPayloadLength
          { st with txPayloads := rest, hw := hw } next) :
      PtxStep driver options st (.txSuccess acks) next
  | fails
      (payload : EsbPayload) (rest : List EsbPayload)
      (queue : st.txPayloads = payload :: rest)
      (sending : Sending driver st.hw payload) (hw : Hw)
      (quiet : Quiet driver hw) (idle : driver.phase hw = .idle)
      (next : EsbState Hw)
      (kicked :
        Kicked driver options.maxPayloadLength
          { st with
            txPayloads := if options.mpsl then st.txPayloads else rest
            hw := hw }
          next) :
      PtxStep driver options st .txFailed next
  | receives
      (payload : EsbPayload) (hw : Hw) (keeps : driver.Keeps st.hw hw) :
      PtxStep driver options st (.rxReceived payload) { st with hw := hw }

section Steps

variable
    {driver : EsbDriver Hw} {options : EsbOptions} {st next : EsbState Hw}
    {event : EsbEvent}

/-- A transmission that has ended was one of the first packet queued. -/
theorem Consistent.sending
    (consistent : Consistent driver st)
    (busy : driver.txFifo st.hw ≠ []) :
    ∃ payload rest,
      st.txPayloads = payload :: rest ∧ Sending driver st.hw payload := by
  rcases consistent.inFlight with quiet | sending
  · exact absurd quiet.txFifo busy
  · exact sending

theorem ykbEsbInit_step
    (lawful : driver.Lawful options.maxPayloadLength)
    (ptx : options.mode = .ptx) (clocksStart : Int) :
    PtxStep driver options st (.init clocksStart)
      (ykbEsbInit driver options st clocksStart).2 := by
  rw [ykbEsbInit]
  dsimp only
  split_ifs with clocks mpsl failed
  · exact .deactivates clocksStart
  · exact .deactivates clocksStart
  all_goals
    rcases
        @esbInitialize_spec _ _ _ _ { st with active := false } lawful ptx with
      ⟨hw, inited, quiet, idle⟩
    rw [inited]
  · exact .startFails (.init clocksStart) trivial hw quiet
  · exact
      .starts (.init clocksStart) trivial hw quiet
        (idle (Int.not_lt.mp failed)) _ (ptxKick_cases lawful quiet)

theorem onTimeslotStartStop_step
    (lawful : driver.Lawful options.maxPayloadLength)
    (ptx : options.mode = .ptx) (type : TimeslotCallbackType) :
    PtxStep driver options st (.timeslot type)
      (onTimeslotStartStop driver options st type) := by
  cases type with
  | stopped => exact .stops _ (Quiet.disable lawful st.hw)
  | started =>
      rw [onTimeslotStartStop, ykbEsbResume]
      rcases @esbInitialize_spec _ _ _ _ st lawful ptx with
        ⟨hw, inited, quiet, idle⟩
      dsimp only
      rw [inited]
      split_ifs with failed
      · rw [decide_eq_false failed]
        exact .startFails (.timeslot .started) trivial hw quiet
      · rw [decide_eq_true (not_not.mp failed)]
        have powered := idle (Int.le_of_eq (not_not.mp failed).symm)
        exact
          .starts (.timeslot .started) trivial hw quiet powered _
            (ptxKick_cases lawful quiet)

theorem ykbEsbSend_step
    (ptx : options.mode = .ptx) (sender : Nat) (packet : YkbEsbData) :
    PtxStep driver options st (.send sender packet)
      (ykbEsbSend driver options st sender packet).2 := by
  by_cases long : packet.len.toNat > options.maxPayloadLength
  · have refused :
        ykbEsbSend driver options st sender packet = (-emsgsize, st) := by
      rw [ykbEsbSend, if_pos long]
    rw [refused]
    exact .refuses sender packet (by simp [refused, emsgsize])
  · by_cases full : st.txPayloads.length ≥ txSlots
    · have refused :
          ykbEsbSend driver options st sender packet = (-enomem, st) := by
        rw [ykbEsbSend, if_neg long, if_neg (by simp [ptx]), if_pos full]
      rw [refused]
      exact .refuses sender packet (by simp [refused, enomem])
    · have queued :
          ykbEsbSend driver options st sender packet =
            (0,
              { st with
                txPayloads := st.txPayloads ++ [payloadOf packet]
                senders := Function.update st.senders sender .queued }) := by
        rw [ykbEsbSend, if_neg long, if_neg (by simp [ptx]), if_neg full]
      rw [queued]
      exact
        .queues sender packet (Nat.not_lt.mp long) (Nat.not_le.mp full)
          (by rw [queued])

theorem senderChecks_step (sender : Nat) :
    PtxStep driver options st (.check sender)
      (senderChecks driver st sender) := by
  rw [senderChecks]
  split_ifs with both
  · rw [Bool.and_eq_true, decide_eq_true_iff] at both
    exact .decides sender both.1 both.2
  · refine .leaves sender fun active idle => both ?_
    simp [active, idle]

/-- Every step of a transmitter is one of these. -/
theorem ptxStep_of_step
    (lawful : driver.Lawful options.maxPayloadLength)
    (ptx : options.mode = .ptx) (consistent : Consistent driver st)
    (stepped : esbStep driver options st event = some next) :
    PtxStep driver options st event next := by
  cases event with
  | init clocksStart =>
      cases stepped
      exact ykbEsbInit_step lawful ptx clocksStart
  | send sender packet =>
      rw [esbStep] at stepped
      split_ifs at stepped
      cases stepped
      exact ykbEsbSend_step ptx sender packet
  | prxSetAckPayload packet =>
      cases stepped
      rw [ykbEsbPrxSetAckPayload, if_pos (by simp [ptx])]
      exact .ignores packet
  | check sender =>
      rw [esbStep] at stepped
      split_ifs at stepped
      cases stepped
      exact senderChecks_step sender
  | kick sender =>
      rw [esbStep] at stepped
      split_ifs at stepped with kicking
      cases stepped
      have kicked :=
        ptxKick_cases lawful (consistent.kicksQuiet sender kicking)
      rcases kicked.frame with ⟨hw, frame⟩
      have step := @PtxStep.kicks _ _ options _ sender kicking _ kicked
      rw [senderKicks]
      rw [frame] at step ⊢
      exact step
  | txSuccess acks =>
      rcases Option.map_eq_some_iff.mp stepped with ⟨hw, transmitted, rfl⟩
      rcases lawful.transmitted st.hw acks hw transmitted with
        ⟨⟨payload, txFifo⟩, phase⟩
      rcases consistent.sending (by simp [txFifo]) with
        ⟨first, rest, queue, sending⟩
      have last : driver.txFifo hw = [] := by
        rw [sending.txFifo] at txFifo
        exact (List.cons.inj txFifo).2.symm
      have idle : driver.phase hw = .idle := by
        rcases phase with phase | phase
        · exact phase.2 last
        · rw [sending.phase] at phase
          cases phase.1
      have quiet : Quiet driver hw := ⟨last, .inr idle⟩
      have drained := (EsbDriver.drain_spec lawful hw).1
      rw [onTxSuccess]
      simp only [ptx, if_pos, queue, List.tail_cons]
      exact
        .transmits acks first rest queue sending _ (quiet.keeps drained)
          (drained.phase.trans idle) _
          (ptxKick_cases lawful (quiet.keeps drained))
  | txFailed =>
      rcases Option.map_eq_some_iff.mp stepped with ⟨hw, failed, rfl⟩
      rcases lawful.failed st.hw hw failed with ⟨-, busy, idle⟩
      have sent : driver.txFifo st.hw ≠ [] := by
        intro empty
        rcases consistent.inFlight with quiet | ⟨_, _, _, sending⟩
        · rcases quiet.phase with phase | phase <;>
            · rw [busy] at phase
              cases phase
        · rw [sending.txFifo] at empty
          cases empty
      rcases consistent.sending sent with ⟨first, rest, queue, sending⟩
      have flushed : driver.phase (driver.flushTx hw) = .idle :=
        (lawful.flushTx_phase hw).trans idle
      have quiet : Quiet driver (driver.flushTx hw) :=
        ⟨lawful.flushTx_txFifo hw, .inr flushed⟩
      rw [onTxFailed]
      simp only [ptx, if_pos]
      refine
        .fails first rest queue sending _ quiet flushed _ ?_
      cases options.mpsl with
      | true => exact ptxKick_cases lawful quiet
      | false =>
          simp only [Bool.false_eq_true, if_false, queue, List.tail_cons]
          exact ptxKick_cases lawful quiet
  | rxReceived payload =>
      rcases Option.map_eq_some_iff.mp stepped with ⟨hw, received, rfl⟩
      have keeps := (lawful.received st.hw payload hw received).1
      exact
        .receives payload _ (keeps.trans (EsbDriver.drain_spec lawful hw).1)
  | timeslot type =>
      rw [esbStep] at stepped
      split_ifs at stepped
      cases stepped
      exact onTimeslotStartStop_step lawful ptx type

/-! ## The invariant -/

theorem NoneKicking.consistent
    (none : NoneKicking st) (inFlight : InFlight driver st) :
    Consistent driver st where
  inFlight := inFlight
  oneKicks first _ kicks := absurd kicks (none first)
  kicksQuiet sender kicks := absurd kicks (none sender)

theorem InFlight.senders
    (inFlight : InFlight driver st) (senders : Nat → SendPhase) :
    InFlight driver { st with senders := senders } :=
  inFlight

/-- A thread that leaves or enters `ykb_esb_send` kicks nothing. -/
theorem noneKicking_update
    {senders : Nat → SendPhase} {sender : Nat} {phase : SendPhase}
    (other : phase ≠ .kicking) {thread : Nat}
    (kicks : Function.update senders sender phase thread = .kicking) :
    thread ≠ sender ∧ senders thread = .kicking := by
  by_cases same : thread = sender
  · subst same
    rw [Function.update_self] at kicks
    exact absurd kicks other
  · rw [Function.update_of_ne same] at kicks
    exact ⟨same, kicks⟩

theorem Consistent.update
    (consistent : Consistent driver st) (sender : Nat) {phase : SendPhase}
    (other : phase ≠ .kicking) :
    Consistent driver
      { st with senders := Function.update st.senders sender phase } where
  inFlight := consistent.inFlight
  oneKicks first second kicksFirst kicksSecond :=
    consistent.oneKicks first second
      (noneKicking_update other kicksFirst).2
      (noneKicking_update other kicksSecond).2
  kicksQuiet thread kicks :=
    consistent.kicksQuiet thread (noneKicking_update other kicks).2

/-- No thread is about to kick while a packet is being transmitted. -/
theorem Consistent.noneKicking
    (consistent : Consistent driver st) {payload : EsbPayload}
    (sending : Sending driver st.hw payload) : NoneKicking st := by
  intro sender kicks
  exact sending.not_quiet (consistent.kicksQuiet sender kicks)

theorem InFlight.append
    (inFlight : InFlight driver st) (payload : EsbPayload) :
    InFlight driver
      { st with txPayloads := st.txPayloads ++ [payload] } := by
  rcases inFlight with quiet | ⟨first, rest, queue, sending⟩
  · exact .inl quiet
  · refine .inr ⟨first, rest ++ [payload], ?_, sending⟩
    rw [queue, List.cons_append]

theorem PtxStep.consistent
    (step : PtxStep driver options st event next)
    (consistent : Consistent driver st)
    (undisturbed : Undisturbed st event) :
    Consistent driver next := by
  cases step with
  | deactivates =>
      exact
        ⟨consistent.inFlight, consistent.oneKicks, consistent.kicksQuiet⟩
  | startFails event starts hw quiet =>
      have none : NoneKicking st := undisturbed (.inl starts)
      exact NoneKicking.consistent none (.inl quiet)
  | starts event starts hw quiet idle next kicked =>
      have none : NoneKicking st := undisturbed (.inl starts)
      refine NoneKicking.consistent ?_ kicked.inFlight
      rw [NoneKicking, kicked.senders]
      exact none
  | stops hw quiet =>
      exact ⟨.inl quiet, consistent.oneKicks, fun _ _ => quiet⟩
  | refuses | ignores => exact consistent
  | queues sender packet =>
      have queued :=
        consistent.update sender
          (show SendPhase.queued ≠ .kicking by decide)
      exact
        ⟨queued.inFlight.append _, queued.oneKicks, queued.kicksQuiet⟩
  | leaves sender => exact consistent.update sender (by decide)
  | decides sender active idle =>
      have none : NoneKicking st := undisturbed (.inr trivial)
      have quiet : Quiet driver st.hw := by
        rcases consistent.inFlight with quiet | ⟨_, _, _, sending⟩
        · exact quiet
        · rw [sending.phase] at idle
          cases idle
      have alone :
          ∀ thread,
            Function.update st.senders sender .kicking thread = .kicking →
              thread = sender := by
        intro thread kicks
        by_contra other
        rw [Function.update_of_ne other] at kicks
        exact none thread kicks
      exact
        ⟨.inl quiet,
          fun first second kicksFirst kicksSecond =>
            (alone first kicksFirst).trans (alone second kicksSecond).symm,
          fun _ _ => quiet⟩
  | kicks sender kicking next kicked =>
      refine
        NoneKicking.consistent ?_ (kicked.inFlight.senders _)
      intro thread kicks
      rcases noneKicking_update (by decide) kicks with ⟨other, kicks⟩
      exact other (consistent.oneKicks thread sender kicks kicking)
  | transmits acks payload rest queue sending hw quiet idle next kicked =>
      refine NoneKicking.consistent ?_ kicked.inFlight
      rw [NoneKicking, kicked.senders]
      exact consistent.noneKicking sending
  | fails payload rest queue sending hw quiet idle next kicked =>
      refine NoneKicking.consistent ?_ kicked.inFlight
      rw [NoneKicking, kicked.senders]
      exact consistent.noneKicking sending
  | receives payload hw keeps =>
      exact
        ⟨consistent.inFlight.keeps keeps, consistent.oneKicks,
          fun sender kicks => (consistent.kicksQuiet sender kicks).keeps keeps⟩

/-! ## The queue -/

/-- A step settles the first packet of the queue or none. -/
theorem PtxStep.conserves
    (step : PtxStep driver options st event next)
    (ptx : options.mode = .ptx) :
    st.txPayloads ++ accepted driver options st event =
      (settled driver options st event).map Prod.fst ++ next.txPayloads := by
  cases step with
  | deactivates => simp [accepted, settled]
  | startFails event starts =>
      cases event <;> simp [Starts] at starts <;> simp [accepted, settled]
  | starts event starts hw quiet idle next kicked =>
      rw [kicked.txPayloads]
      cases event <;> simp [Starts] at starts <;> simp [accepted, settled]
  | stops => simp [accepted, settled]
  | refuses sender packet refused => simp [accepted, settled, refused]
  | queues sender packet fits room ok => simp [accepted, settled, ptx, ok]
  | ignores => simp [accepted, settled]
  | leaves => simp [accepted, settled]
  | decides => simp [accepted, settled]
  | kicks sender kicking next kicked =>
      simp [accepted, settled, kicked.txPayloads]
  | transmits acks payload rest queue sending hw quiet idle next kicked =>
      simp [accepted, settled, kicked.txPayloads, queue, sending.txFifo]
  | fails payload rest queue sending hw quiet idle next kicked =>
      rw [kicked.txPayloads]
      by_cases mpsl : options.mpsl = true
      · simp [accepted, settled, mpsl]
      · simp [accepted, settled, mpsl, queue, sending.txFifo]
  | receives => simp [accepted, settled]

theorem PtxStep.bounded
    (step : PtxStep driver options st event next)
    (bounded : st.txPayloads.length ≤ txSlots) :
    next.txPayloads.length ≤ txSlots := by
  cases step with
  | deactivates | startFails | stops | refuses | ignores | leaves |
    decides | receives => exact bounded
  | starts event starts hw quiet idle next kicked =>
      rw [kicked.txPayloads]
      exact bounded
  | queues sender packet fits room =>
      simp only [List.length_append, List.length_singleton]
      omega
  | kicks sender kicking next kicked =>
      simp only [kicked.txPayloads]
      exact bounded
  | transmits acks payload rest queue sending hw quiet idle next kicked =>
      simp only [queue, List.length_cons] at bounded
      rw [kicked.txPayloads]
      exact Nat.le_of_succ_le bounded
  | fails payload rest queue sending hw quiet idle next kicked =>
      rw [kicked.txPayloads]
      simp only [queue, List.length_cons] at bounded ⊢
      split_ifs
      · simpa using bounded
      · exact Nat.le_of_succ_le bounded

end Steps

/-! ## Runs -/

section Runs

variable
    {driver : EsbDriver Hw} {options : EsbOptions} {hw : Hw}

theorem consistent_initial (quiet : Quiet driver hw) :
    Consistent driver (.initial hw) :=
  NoneKicking.consistent (fun _ => by simp [EsbState.initial]) (.inl quiet)

end Runs

/--
Packets leave the queue of a transmitter in the order in which they were
accepted, each once it has been transmitted: acknowledged, or in a standalone
build acknowledged or given up.  What is accepted and has not been settled is
still queued.
-/
theorem packets_settle_in_order
    (driver : EsbDriver Hw) (options : EsbOptions)
    (lawful : driver.Lawful options.maxPayloadLength)
    (ptx : options.mode = .ptx) (hw : Hw) (quiet : Quiet driver hw)
    (events : List EsbEvent) (finish : EsbState Hw)
    (undisturbed :
      StepsMeet (esbStep driver options) Undisturbed (.initial hw) events)
    (ran : run (esbStep driver options) (.initial hw) events = some finish) :
    collected (esbStep driver options) (accepted driver options)
        (.initial hw) events =
      (collected (esbStep driver options) (settled driver options)
            (.initial hw) events).map Prod.fst ++
          finish.txPayloads ∧
      finish.txPayloads.length ≤ txSlots ∧
        (options.mpsl = true →
          ∀ item ∈
              collected (esbStep driver options) (settled driver options)
                (.initial hw) events,
            item.2 = true) := by
  have preserved :
      ∀ (st : EsbState Hw) event next,
        Consistent driver st ∧ st.txPayloads.length ≤ txSlots →
          Undisturbed st event →
            esbStep driver options st event = some next →
              Consistent driver next ∧
                next.txPayloads.length ≤ txSlots := by
    rintro st event next ⟨consistent, bounded⟩ undisturbed stepped
    have step := ptxStep_of_step lawful ptx consistent stepped
    exact ⟨step.consistent consistent undisturbed, step.bounded bounded⟩
  have initially :
      Consistent driver (.initial hw) ∧
        (EsbState.initial hw).txPayloads.length ≤ txSlots :=
    ⟨consistent_initial quiet, Nat.zero_le _⟩
  refine ⟨?_, ?_, ?_⟩
  · have conserved :
        ∀ (st : EsbState Hw) event,
          Consistent driver st ∧ st.txPayloads.length ≤ txSlots →
            Undisturbed st event →
              Conserves (esbStep driver options) EsbState.txPayloads
                (accepted driver options)
                (fun st event =>
                  (settled driver options st event).map Prod.fst)
                st event :=
      fun st event holds _ next stepped =>
        (ptxStep_of_step lawful ptx holds.1 stepped).conserves ptx
    rw [← collected_map]
    exact run_conserves preserved conserved initially undisturbed ran
  · exact
      (run_preserves_of_stepsMeet preserved initially undisturbed ran).2
  · intro mpsl
    have acknowledged :
        StepsMeet (esbStep driver options)
          (fun st event =>
            ∀ item ∈ settled driver options st event, item.2 = true)
          (.initial hw) events := by
      refine
        stepsMeet_of_invariant ?_ (fun _ _ _ _ (always : True) _ => always)
          trivial
      intro st event _ _
      cases event <;> simp [settled, mpsl]
    exact forall_collected_iff.mpr acknowledged

/-- A transmitter that is given the radio in time slots. -/
def slottedTransmitter : EsbOptions where
  mpsl := true
  mode := .ptx
  baseAddr0 := [1, 2, 3, 4]
  baseAddr1 := [5, 6, 7, 8]
  maxPayloadLength := 32
  lengthFits := Nat.le_of_ble_eq_true rfl

/-- A packet of the given byte. -/
def oneByte (byte : UInt8) : YkbEsbData where
  data := [byte]
  len := 1

/-- A time slot, a packet sent in it, and its acknowledgement. -/
def onePacketRun : List EsbEvent :=
  [.timeslot .started, .send 0 (oneByte 7), .check 0, .kick 0, .txSuccess []]

theorem onePacketRun_undisturbed :
    StepsMeet (esbStep fifoDriver slottedTransmitter) Undisturbed
      (.initial ⟨.off, []⟩) onePacketRun := by
  refine ⟨fun _ _ => by simp [EsbState.initial], fun _ started => ?_⟩
  cases started
  refine ⟨fun starts => ?_, fun _ sent => ?_⟩
  · rcases starts with starts | starts <;> cases starts
  cases sent
  refine ⟨fun _ thread kicks => ?_, fun _ checked => ?_⟩
  · have other := (noneKicking_update (by decide) kicks).2
    cases other
  cases checked
  refine ⟨fun starts => ?_, fun _ kicked => ?_⟩
  · rcases starts with starts | starts <;> cases starts
  cases kicked
  refine ⟨fun starts => ?_, fun _ _ => trivial⟩
  rcases starts with starts | starts <;> cases starts

theorem onePacketRun_settles :
    ∃ finish,
      run (esbStep fifoDriver slottedTransmitter) (.initial ⟨.off, []⟩)
          onePacketRun =
        some finish ∧
      collected (esbStep fifoDriver slottedTransmitter)
          (accepted fifoDriver slottedTransmitter) (.initial ⟨.off, []⟩)
          onePacketRun =
        (collected (esbStep fifoDriver slottedTransmitter)
              (settled fifoDriver slottedTransmitter)
              (.initial ⟨.off, []⟩) onePacketRun).map Prod.fst ++
            finish.txPayloads :=
  ⟨_, rfl,
    (packets_settle_in_order fifoDriver slottedTransmitter
      (fifoDriver_lawful 32) rfl ⟨.off, []⟩ ⟨rfl, .inl rfl⟩ onePacketRun _
      onePacketRun_undisturbed rfl).1⟩

end YkbFirmware.Esb.InOrder
