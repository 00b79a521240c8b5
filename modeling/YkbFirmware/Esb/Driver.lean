import Mathlib.Data.List.Basic
import Mathlib.Tactic.Basic
import Mathlib.Tactic.SplitIfs

/-!
# The radio library

The transport is written over the vendor's Enhanced ShockBurst library, which
is not part of the repository.  What the transport uses of it is an interface
on an arbitrary type of library states; what it relies on is `Lawful`: the
documented effect of each call on the transmit FIFO and on the phase of the
radio, which nothing else is known of.

Transmissions are started by hand (`ESB_TXMODE_MANUAL_START`), and once started
go on until the FIFO is empty or one of them fails.
-/

namespace YkbFirmware.Esb.Driver

/-- `ykb_esb_mode_t`. -/
inductive YkbEsbMode where
  | ptx
  | prx
deriving DecidableEq, Repr

/-- The fields of `struct esb_payload` in use. -/
structure EsbPayload where
  pipe : UInt8
  noack : Bool
  length : UInt8
  data : List UInt8
deriving DecidableEq, Repr

/-- What the radio is doing. -/
inductive EsbPhase where
  | off
  | idle
  | transmitting
  | listening
deriving DecidableEq, Repr

/-- The library on states `Hw`; calls answer an error code. -/
structure EsbDriver (Hw : Type) where
  init : Hw → YkbEsbMode → Int × Hw
  setBaseAddress0 : Hw → List UInt8 → Int × Hw
  setBaseAddress1 : Hw → List UInt8 → Int × Hw
  setPrefixes : Hw → Int × Hw
  disable : Hw → Hw
  writePayload : Hw → EsbPayload → Int × Hw
  flushTx : Hw → Hw
  startTx : Hw → Hw
  startRx : Hw → Hw
  /-- The oldest payload received, if there is one. -/
  readRxPayload : Hw → Option (EsbPayload × Hw)
  /-- `esb_is_idle` answers whether the radio is idle. -/
  phase : Hw → EsbPhase
  txFifo : Hw → List EsbPayload
  /-- How many payloads received have not been read. -/
  rxPending : Hw → Nat
  /-- The first payload of the FIFO is acknowledged, or sent with an ACK. -/
  transmitted : Hw → List EsbPayload → Option Hw
  /-- All attempts to transmit the first payload have failed. -/
  failed : Hw → Option Hw
  received : Hw → EsbPayload → Option Hw

variable {Hw : Type}

namespace EsbDriver

/-- The call or event changes neither the FIFO nor the phase. -/
structure Keeps (driver : EsbDriver Hw) (hw after : Hw) : Prop where
  txFifo : driver.txFifo after = driver.txFifo hw
  phase : driver.phase after = driver.phase hw

/-- The library accepts payloads of these lengths. -/
def Sendable (maxPayloadLength : Nat) (payload : EsbPayload) : Prop :=
  0 < payload.length.toNat ∧ payload.length.toNat ≤ maxPayloadLength

/-- The documented effects. -/
structure Lawful
    (driver : EsbDriver Hw) (maxPayloadLength : Nat) : Prop where
  init_txFifo :
    ∀ hw mode, driver.txFifo (driver.init hw mode).2 = []
  init_phase :
    ∀ hw mode,
      driver.phase (driver.init hw mode).2 =
        if (driver.init hw mode).1 = 0 then .idle else .off
  init_error : ∀ hw mode, (driver.init hw mode).1 ≤ 0
  setBaseAddress0 :
    ∀ hw address, driver.Keeps hw (driver.setBaseAddress0 hw address).2
  setBaseAddress1 :
    ∀ hw address, driver.Keeps hw (driver.setBaseAddress1 hw address).2
  setPrefixes : ∀ hw, driver.Keeps hw (driver.setPrefixes hw).2
  disable_txFifo : ∀ hw, driver.txFifo (driver.disable hw) = []
  disable_phase : ∀ hw, driver.phase (driver.disable hw) = .off
  write_ok :
    ∀ hw payload,
      0 ≤ (driver.writePayload hw payload).1 →
        driver.phase hw ≠ .off ∧
        driver.txFifo (driver.writePayload hw payload).2 =
            driver.txFifo hw ++ [payload] ∧
          driver.phase (driver.writePayload hw payload).2 = driver.phase hw
  write_refused :
    ∀ hw payload,
      (driver.writePayload hw payload).1 < 0 →
        driver.Keeps hw (driver.writePayload hw payload).2
  write_accepted :
    ∀ hw payload,
      driver.phase hw ≠ .off → driver.txFifo hw = [] →
        Sendable maxPayloadLength payload →
          0 ≤ (driver.writePayload hw payload).1
  flushTx_txFifo : ∀ hw, driver.txFifo (driver.flushTx hw) = []
  flushTx_phase : ∀ hw, driver.phase (driver.flushTx hw) = driver.phase hw
  startTx_txFifo : ∀ hw, driver.txFifo (driver.startTx hw) = driver.txFifo hw
  startTx_phase :
    ∀ hw,
      driver.phase (driver.startTx hw) =
        if driver.phase hw = .idle ∧ driver.txFifo hw ≠ [] then
          .transmitting
        else
          driver.phase hw
  startRx_txFifo : ∀ hw, driver.txFifo (driver.startRx hw) = driver.txFifo hw
  startRx_phase :
    ∀ hw,
      driver.phase (driver.startRx hw) =
        if driver.phase hw = .idle then .listening else driver.phase hw
  read_keeps :
    ∀ hw payload after,
      driver.readRxPayload hw = some (payload, after) → driver.Keeps hw after
  read_pending :
    ∀ hw payload after,
      driver.readRxPayload hw = some (payload, after) →
        driver.rxPending hw = driver.rxPending after + 1
  read_nothing :
    ∀ hw, driver.readRxPayload hw = none ↔ driver.rxPending hw = 0
  transmitted :
    ∀ hw acks after,
      driver.transmitted hw acks = some after →
        (∃ payload, driver.txFifo hw = payload :: driver.txFifo after) ∧
          (driver.phase hw = .transmitting ∧
              (driver.txFifo after = [] → driver.phase after = .idle) ∨
            driver.phase hw = .listening ∧ driver.phase after = .listening)
  failed :
    ∀ hw after,
      driver.failed hw = some after →
        driver.txFifo after = driver.txFifo hw ∧
          driver.phase hw = .transmitting ∧ driver.phase after = .idle
  received :
    ∀ hw payload after,
      driver.received hw payload = some after →
        driver.Keeps hw after ∧ driver.phase hw ≠ .off

variable {driver : EsbDriver Hw} {hw after final : Hw}

theorem Keeps.refl (hw : Hw) : driver.Keeps hw hw :=
  ⟨rfl, rfl⟩

theorem Keeps.trans
    (first : driver.Keeps hw after) (second : driver.Keeps after final) :
    driver.Keeps hw final :=
  ⟨second.txFifo.trans first.txFifo, second.phase.trans first.phase⟩

/-- The payloads a loop over `esb_read_rx_payload` reads. -/
def drainFrom (driver : EsbDriver Hw) : Nat → Hw → List EsbPayload × Hw
  | 0, hw => ([], hw)
  | fuel + 1, hw =>
      match driver.readRxPayload hw with
      | none => ([], hw)
      | some (payload, after) =>
          let rest := drainFrom driver fuel after
          (payload :: rest.1, rest.2)

/-- `while (esb_read_rx_payload(&rx_payload) == 0)`. -/
def drain (driver : EsbDriver Hw) (hw : Hw) : List EsbPayload × Hw :=
  driver.drainFrom (driver.rxPending hw) hw

variable {maxPayloadLength : Nat}

theorem drainFrom_spec (lawful : driver.Lawful maxPayloadLength) :
    ∀ (fuel : Nat) (hw : Hw), driver.rxPending hw ≤ fuel →
      driver.Keeps hw (driver.drainFrom fuel hw).2 ∧
        driver.readRxPayload (driver.drainFrom fuel hw).2 = none := by
  intro fuel
  induction fuel with
  | zero =>
      intro hw pending
      exact ⟨Keeps.refl hw, (lawful.read_nothing hw).mpr (by omega)⟩
  | succ fuel induction =>
      intro hw pending
      cases reads : driver.readRxPayload hw with
      | none =>
          simp only [drainFrom, reads]
          exact ⟨Keeps.refl hw, trivial⟩
      | some read =>
          rcases read with ⟨payload, after⟩
          simp only [drainFrom, reads]
          have fewer := lawful.read_pending hw payload after reads
          rcases induction after (by omega) with ⟨keeps, empty⟩
          exact ⟨(lawful.read_keeps hw payload after reads).trans keeps, empty⟩

/-- The loop ends with nothing left to read, and touches nothing else. -/
theorem drain_spec (lawful : driver.Lawful maxPayloadLength) (hw : Hw) :
    driver.Keeps hw (driver.drain hw).2 ∧
      driver.readRxPayload (driver.drain hw).2 = none :=
  drainFrom_spec lawful _ hw (Nat.le_refl _)

end EsbDriver

/-! ## A library that keeps to it -/

/-- The phase of a library and its FIFO. -/
structure FifoHw where
  phase : EsbPhase
  txFifo : List EsbPayload

/-- The phase of a transmitter that has begun, with the payloads left. -/
def phaseWith : List EsbPayload → EsbPhase
  | [] => .idle
  | _ :: _ => .transmitting

/-- A library whose calls never fail, and which receives nothing. -/
def fifoDriver : EsbDriver FifoHw where
  init _ _ := (0, ⟨.idle, []⟩)
  setBaseAddress0 hw _ := (0, hw)
  setBaseAddress1 hw _ := (0, hw)
  setPrefixes hw := (0, hw)
  disable _ := ⟨.off, []⟩
  writePayload hw payload :=
    if hw.phase = .off then
      (-13, hw)
    else
      (0, { hw with txFifo := hw.txFifo ++ [payload] })
  flushTx hw := { hw with txFifo := [] }
  startTx hw :=
    if hw.phase = .idle ∧ hw.txFifo ≠ [] then
      { hw with phase := .transmitting }
    else
      hw
  startRx hw :=
    if hw.phase = .idle then { hw with phase := .listening } else hw
  readRxPayload _ := none
  phase := FifoHw.phase
  txFifo := FifoHw.txFifo
  rxPending _ := 0
  transmitted hw _ :=
    match hw.txFifo with
    | [] => none
    | _ :: rest =>
        if hw.phase = .transmitting then
          some ⟨phaseWith rest, rest⟩
        else if hw.phase = .listening then
          some ⟨.listening, rest⟩
        else
          none
  failed hw :=
    if hw.phase = .transmitting then
      some { hw with phase := .idle }
    else
      none
  received hw _ := if hw.phase = .off then none else some hw

theorem fifoDriver_lawful (maxPayloadLength : Nat) :
    fifoDriver.Lawful maxPayloadLength where
  init_txFifo _ _ := rfl
  init_phase _ _ := rfl
  init_error _ _ := Int.le_refl 0
  setBaseAddress0 hw _ := EsbDriver.Keeps.refl hw
  setBaseAddress1 hw _ := EsbDriver.Keeps.refl hw
  setPrefixes hw := EsbDriver.Keeps.refl hw
  disable_txFifo _ := rfl
  disable_phase _ := rfl
  write_ok hw payload := by
    simp only [fifoDriver]
    split_ifs with off
    · intro written
      simp at written
    · exact fun _ => ⟨off, rfl, rfl⟩
  write_refused hw payload := by
    simp only [fifoDriver]
    split_ifs
    · exact fun _ => EsbDriver.Keeps.refl hw
    · intro refused
      simp at refused
  write_accepted hw payload powered _ _ := by
    simp only [fifoDriver] at powered ⊢
    simp [powered]
  flushTx_txFifo _ := rfl
  flushTx_phase _ := rfl
  startTx_txFifo hw := (apply_ite FifoHw.txFifo _ _ _).trans (ite_self _)
  startTx_phase hw := apply_ite FifoHw.phase _ _ _
  startRx_txFifo hw := (apply_ite FifoHw.txFifo _ _ _).trans (ite_self _)
  startRx_phase hw := apply_ite FifoHw.phase _ _ _
  read_keeps _ _ _ reads := by cases reads
  read_pending _ _ _ reads := by cases reads
  read_nothing _ := iff_of_true rfl rfl
  transmitted hw acks after transmitted := by
    rcases hw with ⟨phase, _ | ⟨first, rest⟩⟩
    · cases transmitted
    · simp only [fifoDriver] at transmitted ⊢
      split_ifs at transmitted with sent heard
      · cases transmitted
        exact ⟨⟨first, rfl⟩, .inl ⟨sent, congrArg phaseWith⟩⟩
      · cases transmitted
        exact ⟨⟨first, rfl⟩, .inr ⟨heard, rfl⟩⟩
  failed hw after failed := by
    simp only [fifoDriver] at failed ⊢
    split_ifs at failed with sent
    cases failed
    exact ⟨rfl, sent, rfl⟩
  received hw payload after received := by
    simp only [fifoDriver] at received ⊢
    split_ifs at received with off
    cases received
    exact ⟨EsbDriver.Keeps.refl hw, off⟩

end YkbFirmware.Esb.Driver
