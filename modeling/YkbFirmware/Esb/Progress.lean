import YkbFirmware.Esb.InOrder

/-!
# The transmitter never rests on a packet

A packet is kicked by the thread that queued it if the radio was idle, and by
the interrupt that ends a transmission otherwise, or by the start of the next
time slot.  Whichever comes first, no packet is forgotten: a radio that may be
used and is not in use has an empty queue, unless a thread is still on its way
through `ykb_esb_send`.
-/

namespace YkbFirmware.Esb.Progress

open YkbFirmware.Library.TransitionSystem
open YkbFirmware.Esb.Driver
open YkbFirmware.Esb.Radio
open YkbFirmware.Esb.InOrder

variable {Hw : Type}

/-- Some thread is inside `ykb_esb_send`. -/
def SomeSends (st : EsbState Hw) : Prop :=
  ∃ sender, st.senders sender ≠ .ready

structure Moving
    (driver : EsbDriver Hw) (options : EsbOptions) (st : EsbState Hw) :
    Prop where
  powered : st.active = true → driver.phase st.hw ≠ .off
  sendable :
    ∀ payload ∈ st.txPayloads,
      EsbDriver.Sendable options.maxPayloadLength payload
  moves :
    st.active = true → st.txPayloads ≠ [] →
      driver.phase st.hw = .transmitting ∨ SomeSends st

/-- Packets that are sent have at least one byte. -/
def Carries : EsbEvent → Prop
  | .send _ packet => 0 < packet.len.toNat
  | _ => True

section Steps

variable
    {driver : EsbDriver Hw} {options : EsbOptions} {st next : EsbState Hw}
    {event : EsbEvent}

/-- After a kick of a radio in use the queue is empty or transmitted. -/
theorem moving_of_kicked
    (kicked : Kicked driver options.maxPayloadLength st next)
    (powered : driver.phase st.hw ≠ .off)
    (sendable :
      ∀ payload ∈ st.txPayloads,
        EsbDriver.Sendable options.maxPayloadLength payload) :
    driver.phase next.hw ≠ .off ∧
      (next.txPayloads ≠ [] → driver.phase next.hw = .transmitting) := by
  cases kicked with
  | waits hw quiet phase stays =>
      refine ⟨by rw [phase]; exact powered, fun waiting => ?_⟩
      rcases List.exists_cons_of_ne_nil waiting with ⟨payload, rest, queue⟩
      dsimp only at queue
      rcases stays payload (by rw [queue]; rfl) with off | unfit
      · exact absurd off powered
      · exact absurd (sendable payload (by rw [queue]; simp)) unfit
  | sends hw payload rest queue sending =>
      exact
        ⟨by rw [sending.phase]; decide, fun _ => sending.phase⟩

/-- A kicked radio keeps moving. -/
theorem kept_of_kicked
    (kicked : Kicked driver options.maxPayloadLength st next)
    (powered : st.active = true → driver.phase st.hw ≠ .off)
    (sendable :
      ∀ payload ∈ st.txPayloads,
        EsbDriver.Sendable options.maxPayloadLength payload) :
    Moving driver options next where
  powered active := by
    rw [kicked.active] at active
    exact (moving_of_kicked kicked (powered active) sendable).1
  sendable := by
    rw [kicked.txPayloads]
    exact sendable
  moves active waiting := by
    rw [kicked.active] at active
    exact .inl ((moving_of_kicked kicked (powered active) sendable).2 waiting)

theorem Moving.inactive
    (moving : Moving driver options st) (hw : Hw) :
    Moving driver options { st with active := false, hw := hw } where
  powered active := by cases active
  sendable := moving.sendable
  moves active := by cases active

theorem sendable_payloadOf
    {packet : YkbEsbData} (some : 0 < packet.len.toNat)
    (fits : packet.len.toNat ≤ options.maxPayloadLength) :
    EsbDriver.Sendable options.maxPayloadLength (payloadOf packet) := by
  have short := options.lengthFits
  have length : (payloadOf packet).length.toNat = packet.len.toNat := by
    rw [payloadOf, UInt32.toNat_toUInt8]
    exact Nat.mod_eq_of_lt (by omega)
  rw [EsbDriver.Sendable, length]
  exact ⟨some, fits⟩

theorem ptxStep_moving
    (step : PtxStep driver options st event next)
    (consistent : Consistent driver st)
    (moving : Moving driver options st) (carries : Carries event) :
    Moving driver options next := by
  cases step with
  | deactivates => exact moving.inactive st.hw
  | startFails event starts hw => exact moving.inactive hw
  | starts event starts hw quiet idle next kicked =>
      exact
        kept_of_kicked kicked (fun _ => by simp [idle]) moving.sendable
  | stops hw => exact moving.inactive hw
  | refuses | ignores => exact moving
  | queues sender packet fits room =>
      refine ⟨moving.powered, ?_, fun _ _ => .inr ⟨sender, ?_⟩⟩
      · intro payload member
        rcases List.mem_append.mp member with old | new
        · exact moving.sendable payload old
        · rw [List.mem_singleton.mp new]
          exact sendable_payloadOf carries fits
      · simp
  | leaves sender busy =>
      refine ⟨moving.powered, moving.sendable, fun active waiting => .inl ?_⟩
      -- the radio is neither off nor idle, so it holds the first packet
      rcases consistent.inFlight with quiet | ⟨_, _, _, sending⟩
      · rcases quiet.phase with off | idle
        · exact absurd off (moving.powered active)
        · exact absurd idle (busy active)
      · exact sending.phase
  | decides sender =>
      refine ⟨moving.powered, moving.sendable, fun _ _ => .inr ⟨sender, ?_⟩⟩
      simp
  | kicks sender kicking next kicked =>
      have kept := kept_of_kicked kicked moving.powered moving.sendable
      refine ⟨kept.powered, kept.sendable, fun active waiting => .inl ?_⟩
      rw [kicked.active] at active
      exact
        (moving_of_kicked kicked (moving.powered active) moving.sendable).2
          waiting
  | transmits acks payload rest queue sending hw quiet idle next kicked =>
      refine kept_of_kicked kicked (fun _ => by simp [idle]) ?_
      intro other member
      exact moving.sendable other (by rw [queue]; exact .tail _ member)
  | fails payload rest queue sending hw quiet idle next kicked =>
      refine kept_of_kicked kicked (fun _ => by simp [idle]) ?_
      intro other member
      apply moving.sendable other
      dsimp only at member
      split_ifs at member
      · exact member
      · rw [queue]
        exact .tail _ member
  | receives payload hw keeps =>
      refine ⟨?_, moving.sendable, ?_⟩
      · rw [keeps.phase]
        exact moving.powered
      · rw [keeps.phase]
        exact moving.moves

end Steps

theorem moving_initial
    {driver : EsbDriver Hw} {options : EsbOptions} (hw : Hw) :
    Moving driver options (.initial hw) where
  powered active := by cases active
  sendable _ member := by cases member
  moves active := by cases active

/--
When the radio may be used and no thread is sending, a queue that is not
empty has its first packet being transmitted.
-/
theorem transmitter_never_stalls
    (driver : EsbDriver Hw) (options : EsbOptions)
    (lawful : driver.Lawful options.maxPayloadLength)
    (ptx : options.mode = .ptx) (hw : Hw) (quiet : Quiet driver hw)
    (events : List EsbEvent) (finish : EsbState Hw)
    (met :
      StepsMeet (esbStep driver options)
        (fun st event => Undisturbed st event ∧ Carries event)
        (.initial hw) events)
    (ran : run (esbStep driver options) (.initial hw) events = some finish)
    (active : finish.active = true)
    (noneSends : ∀ sender, finish.senders sender = .ready)
    (waiting : finish.txPayloads ≠ []) :
    ∃ payload rest,
      finish.txPayloads = payload :: rest ∧
        Sending driver finish.hw payload := by
  have reached :
      Consistent driver finish ∧ Moving driver options finish := by
    apply
      run_preserves_of_stepsMeet (fun st event next => ?_)
        ⟨consistent_initial quiet, moving_initial hw⟩ met ran
    rintro ⟨consistent, moving⟩ ⟨undisturbed, carries⟩ stepped
    have step := ptxStep_of_step lawful ptx consistent stepped
    exact
      ⟨step.consistent consistent undisturbed,
        ptxStep_moving step consistent moving carries⟩
  rcases reached with ⟨consistent, moving⟩
  have busy : driver.phase finish.hw = .transmitting := by
    rcases moving.moves active waiting with busy | ⟨sender, sends⟩
    · exact busy
    · exact absurd (noneSends sender) sends
  rcases consistent.inFlight with idle | sending
  · rcases idle.phase with phase | phase <;>
      · rw [busy] at phase
        cases phase
  · exact sending

/-- A packet that was queued before the first time slot is sent in it. -/
def waitingPacketRun : List EsbEvent :=
  [.send 0 (oneByte 7), .check 0, .timeslot .started]

theorem waitingPacketRun_met :
    StepsMeet (esbStep fifoDriver slottedTransmitter)
      (fun st event => Undisturbed st event ∧ Carries event)
      (.initial ⟨.off, []⟩) waitingPacketRun := by
  refine ⟨⟨fun starts => ?_, Nat.zero_lt_one⟩, fun _ sent => ?_⟩
  · rcases starts with starts | starts <;> cases starts
  cases sent
  refine ⟨⟨fun _ thread kicks => ?_, trivial⟩, fun _ checked => ?_⟩
  · have other := (noneKicking_update (by decide) kicks).2
    cases other
  cases checked
  refine ⟨⟨fun _ thread kicks => ?_, trivial⟩, fun _ _ => trivial⟩
  have other :=
    (noneKicking_update (by decide)
      (noneKicking_update (by decide) kicks).2).2
  cases other

theorem waitingPacketRun_sends :
    ∃ finish,
      run (esbStep fifoDriver slottedTransmitter) (.initial ⟨.off, []⟩)
          waitingPacketRun =
        some finish ∧
      ∃ payload rest,
        finish.txPayloads = payload :: rest ∧
          Sending fifoDriver finish.hw payload := by
  refine ⟨_, rfl, ?_⟩
  refine
    transmitter_never_stalls fifoDriver slottedTransmitter
      (fifoDriver_lawful 32) rfl ⟨.off, []⟩ ⟨rfl, .inl rfl⟩
      waitingPacketRun _ waitingPacketRun_met rfl rfl ?_ (by decide)
  intro sender
  by_cases same : sender = 0
  · subst same
    rfl
  · have untouched (senders : Nat → SendPhase) (phase : SendPhase) :
        Function.update senders 0 phase sender = senders sender :=
      Function.update_of_ne same _ _
    exact (untouched _ _).trans (untouched _ _)

end YkbFirmware.Esb.Progress
