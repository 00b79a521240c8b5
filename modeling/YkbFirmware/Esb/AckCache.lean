import Mathlib.Tactic.SplitIfs
import Mathlib.Logic.Function.Basic
import YkbFirmware.Esb.Radio

/-!
# The receiver acknowledges with its latest packet

A receiver has no queue.  What it sends replaces what it sent before, both in
the cache and in the FIFO of the radio library, and the cache is written to
the FIFO again whenever the radio is started.  So the payload that the next
acknowledgement carries is never one that was replaced.
-/

namespace YkbFirmware.Esb.AckCache

open YkbFirmware.Library.TransitionSystem
open YkbFirmware.Esb.Driver
open YkbFirmware.Esb.Timeslot (TimeslotCallbackType)
open YkbFirmware.Esb.Radio

variable {Hw : Type}

/-- The payload sent or set last. -/
def latestAck (options : EsbOptions) (latest : Option EsbPayload) :
    EsbEvent → Option EsbPayload
  | .send _ packet | .prxSetAckPayload packet =>
      if packet.len.toNat > options.maxPayloadLength then
        latest
      else
        some (payloadOf packet)
  | _ => latest

/-- The FIFO holds the payload or nothing. -/
def HoldsAtMost
    (driver : EsbDriver Hw) (hw : Hw) (latest : Option EsbPayload) : Prop :=
  driver.txFifo hw = [] ∨ driver.txFifo hw = latest.toList

structure Cached
    (driver : EsbDriver Hw) (st : EsbState Hw)
    (latest : Option EsbPayload) : Prop where
  cache : st.prxAckCache = latest
  holds : HoldsAtMost driver st.hw latest
  emptied : st.active = false → driver.txFifo st.hw = []
  ready : ∀ sender, st.senders sender = .ready

/-- `ykb_esb_init` is not called while the transport is active. -/
def InitsOnce (st : EsbState Hw) : EsbEvent → Prop
  | .init _ => st.active = false
  | _ => True

section Steps

variable
    {driver : EsbDriver Hw} {options : EsbOptions} {maxLength : Nat}
    {st next : EsbState Hw} {latest : Option EsbPayload}

theorem HoldsAtMost.keeps
    {hw after : Hw} (holds : HoldsAtMost driver hw latest)
    (keeps : driver.Keeps hw after) : HoldsAtMost driver after latest := by
  rw [HoldsAtMost, keeps.txFifo]
  exact holds

/-- A preloading replaces what the FIFO held. -/
theorem prxPreloadCachedAck_spec
    (lawful : driver.Lawful maxLength) (prx : options.mode = .prx)
    (cached : st.prxAckCache = latest)
    (empty : latest = none → driver.txFifo st.hw = []) :
    ∃ hw,
      prxPreloadCachedAck driver options st = { st with hw := hw } ∧
        HoldsAtMost driver hw latest := by
  rcases st with ⟨active, txPayloads, cache, hw, senders⟩
  subst cached
  cases cache with
  | none =>
      refine ⟨hw, ?_, .inl (empty rfl)⟩
      rw [prxPreloadCachedAck, if_neg (by simp [prx])]
  | some payload =>
      refine ⟨(driver.writePayload (driver.flushTx hw) payload).2, ?_, ?_⟩
      · rw [prxPreloadCachedAck, if_neg (by simp [prx])]
      · have flushed := lawful.flushTx_txFifo hw
        by_cases refused :
            (driver.writePayload (driver.flushTx hw) payload).1 < 0
        · have keeps := lawful.write_refused _ payload refused
          exact .inl (keeps.txFifo.trans flushed)
        · have written :=
            lawful.write_ok _ payload (Int.not_lt.mp refused)
          exact .inr (by rw [written.2.1, flushed]; rfl)

/-- A library that was just initialised holds the cache, or has failed. -/
theorem esbInitialize_cached
    (lawful : driver.Lawful maxLength) (prx : options.mode = .prx)
    (cached : st.prxAckCache = latest) :
    ∃ hw,
      (esbInitialize driver options st).2 = { st with hw := hw } ∧
        HoldsAtMost driver hw latest ∧
          ((esbInitialize driver options st).1 ≠ 0 →
            driver.txFifo hw = []) := by
  have inited := lawful.init_txFifo st.hw options.mode
  have first :=
    lawful.setBaseAddress0 (driver.init st.hw options.mode).2
      options.baseAddr0
  have second := first.trans (lawful.setBaseAddress1 _ options.baseAddr1)
  have third := second.trans (lawful.setPrefixes _)
  have failed {hw : Hw} (err : Int) (empty : driver.txFifo hw = []) :
      HoldsAtMost driver hw latest ∧ (err ≠ 0 → driver.txFifo hw = []) :=
    ⟨.inl empty, fun _ => empty⟩
  rw [esbInitialize]
  dsimp only
  split_ifs
  · exact ⟨_, rfl, failed _ inited⟩
  · exact ⟨_, rfl, failed _ (first.txFifo.trans inited)⟩
  · exact ⟨_, rfl, failed _ (second.txFifo.trans inited)⟩
  · exact ⟨_, rfl, failed _ (third.txFifo.trans inited)⟩
  · have empty := third.txFifo.trans inited
    rcases @prxPreloadCachedAck_spec _ _ options _
        { st with hw := (driver.setPrefixes _).2 } _ lawful prx cached
        (fun _ => empty)
      with ⟨hw, preloaded, holds⟩
    rw [preloaded]
    refine ⟨_, rfl, ?_, fun impossible => absurd rfl impossible⟩
    rw [HoldsAtMost, lawful.startRx_txFifo]
    exact holds

theorem prxSetCachedAck_cached
    (lawful : driver.Lawful maxLength) (prx : options.mode = .prx)
    (cached : Cached driver st latest) (packet : YkbEsbData) :
    Cached driver (prxSetCachedAckFromData driver options st packet)
      (latestAck options latest (.prxSetAckPayload packet)) := by
  rw [prxSetCachedAckFromData, if_neg (by simp [prx]), latestAck]
  split_ifs with long
  · exact cached
  dsimp only
  split_ifs with active
  · rcases @prxPreloadCachedAck_spec _ _ options _
        { st with prxAckCache := some (payloadOf packet) } _ lawful prx rfl
        (fun none => by cases none)
      with ⟨hw, preloaded, holds⟩
    rw [preloaded]
    refine ⟨rfl, holds, fun inactive => ?_, cached.ready⟩
    rw [show st.active = false from inactive] at active
    cases active
  · have empty := cached.emptied (by simpa using active)
    exact ⟨rfl, .inl empty, fun _ => empty, cached.ready⟩

theorem Cached.initialised
    (lawful : driver.Lawful maxLength) (prx : options.mode = .prx)
    (cached : Cached driver st latest) (active : Bool)
    (fails :
      active = false → (esbInitialize driver options st).1 ≠ 0) :
    Cached driver
      { (esbInitialize driver options st).2 with active := active }
      latest := by
  rcases @esbInitialize_cached _ _ options _ _ _ lawful prx cached.cache
    with ⟨hw, inited, holds, failed⟩
  rw [inited]
  exact
    ⟨cached.cache, holds, fun inactive => failed (fails inactive),
      cached.ready⟩

theorem Cached.timeslot
    (lawful : driver.Lawful maxLength) (prx : options.mode = .prx)
    (cached : Cached driver st latest) (type : TimeslotCallbackType) :
    Cached driver (onTimeslotStartStop driver options st type) latest := by
  cases type with
  | stopped =>
      have empty := lawful.disable_txFifo st.hw
      exact ⟨cached.cache, .inl empty, fun _ => empty, cached.ready⟩
  | started =>
      rw [onTimeslotStartStop, ykbEsbResume]
      dsimp only
      have resumed :=
        cached.initialised lawful prx
          (decide ((esbInitialize driver options st).1 = 0))
          (fun inactive => of_decide_eq_false inactive)
      split_ifs with failed ptx
      · exact resumed
      · rw [prx] at ptx
        cases ptx
      · exact resumed

theorem Cached.init
    (lawful : driver.Lawful maxLength) (prx : options.mode = .prx)
    (cached : Cached driver st latest) (inactive : st.active = false)
    (clocksStart : Int) :
    Cached driver (ykbEsbInit driver options st clocksStart).2 latest := by
  have same : { st with active := false } = st := by
    rw [← inactive]
  rw [ykbEsbInit, same]
  dsimp only
  split_ifs with clocks mpsl failed ptx
  · exact cached
  · exact cached
  · have kept :=
      cached.initialised lawful prx false
        (fun _ => Int.ne_of_lt failed)
    rcases @esbInitialize_cached _ _ options _ _ _ lawful prx cached.cache
      with ⟨hw, inited, -, -⟩
    rw [inited] at kept ⊢
    rw [← inactive] at kept
    exact kept
  · rw [prx] at ptx
    cases ptx
  · exact
      cached.initialised lawful prx true
        (fun impossible => by cases impossible)

theorem Cached.step
    {event : EsbEvent}
    (lawful : driver.Lawful maxLength) (prx : options.mode = .prx)
    (cached : Cached driver st latest) (once : InitsOnce st event)
    (stepped : esbStep driver options st event = some next) :
    Cached driver next (latestAck options latest event) := by
  cases event with
  | init clocksStart =>
      cases stepped
      exact cached.init lawful prx once clocksStart
  | send sender packet =>
      rw [esbStep, if_pos (cached.ready sender)] at stepped
      cases stepped
      by_cases long : packet.len.toNat > options.maxPayloadLength
      · rw [ykbEsbSend, if_pos long, latestAck, if_pos long]
        exact cached
      · rw [ykbEsbSend, if_neg long, if_pos prx]
        exact prxSetCachedAck_cached lawful prx cached packet
  | prxSetAckPayload packet =>
      cases stepped
      have unrefused : ¬ options.mode ≠ .prx := not_not.mpr prx
      rw [ykbEsbPrxSetAckPayload, if_neg unrefused]
      split_ifs with long
      · rw [latestAck, if_pos long]
        exact cached
      · exact prxSetCachedAck_cached lawful prx cached packet
  | check sender =>
      rw [esbStep, if_neg (by simp [cached.ready])] at stepped
      cases stepped
  | kick sender =>
      rw [esbStep, if_neg (by simp [cached.ready])] at stepped
      cases stepped
  | txSuccess acks =>
      rcases Option.map_eq_some_iff.mp stepped with ⟨hw, transmitted, rfl⟩
      rcases (lawful.transmitted st.hw acks hw transmitted).1 with
        ⟨payload, popped⟩
      have empty : driver.txFifo hw = [] := by
        rcases cached.holds with nothing | holds
        · rw [nothing] at popped
          cases popped
        · rw [holds] at popped
          cases latest with
          | none => cases popped
          | some last => exact (List.cons.inj popped).2.symm
      have drained := (EsbDriver.drain_spec lawful hw).1
      have still : driver.txFifo (driver.drain hw).2 = [] :=
        drained.txFifo.trans empty
      rw [onTxSuccess]
      simp only [prx, reduceCtorEq, if_false]
      exact ⟨cached.cache, .inl still, fun _ => still, cached.ready⟩
  | txFailed =>
      rcases Option.map_eq_some_iff.mp stepped with ⟨hw, failed, rfl⟩
      have same := (lawful.failed st.hw hw failed).1
      rw [onTxFailed]
      simp only [prx, reduceCtorEq, if_false]
      refine ⟨cached.cache, ?_, fun inactive => ?_, cached.ready⟩
      · rw [HoldsAtMost, same]
        exact cached.holds
      · exact same.trans (cached.emptied inactive)
  | rxReceived payload =>
      rcases Option.map_eq_some_iff.mp stepped with ⟨hw, received, rfl⟩
      have keeps :=
        (lawful.received st.hw payload hw received).1.trans
          (EsbDriver.drain_spec lawful hw).1
      exact
        ⟨cached.cache, cached.holds.keeps keeps,
          fun inactive => keeps.txFifo.trans (cached.emptied inactive),
          cached.ready⟩
  | timeslot type =>
      rw [esbStep] at stepped
      split_ifs at stepped
      cases stepped
      exact cached.timeslot lawful prx type

theorem cached_initial {hw : Hw} (empty : driver.txFifo hw = []) :
    Cached driver (.initial hw) none where
  cache := rfl
  holds := .inl empty
  emptied _ := empty
  ready _ := rfl

end Steps

/--
As long as `ykb_esb_init` is not called while the transport is active, the
FIFO of a receiver holds at most one payload, and that is what was sent or set
last: an acknowledgement never carries a payload that was replaced.
-/
theorem acknowledgement_is_latest
    (driver : EsbDriver Hw) (options : EsbOptions)
    (lawful : driver.Lawful options.maxPayloadLength)
    (prx : options.mode = .prx) (hw : Hw) (empty : driver.txFifo hw = [])
    (events : List EsbEvent) (finish : EsbState Hw)
    (once :
      StepsMeet (esbStep driver options) InitsOnce (.initial hw) events)
    (ran : run (esbStep driver options) (.initial hw) events = some finish) :
    (driver.txFifo finish.hw).length ≤ 1 ∧
      ∀ payload ∈ driver.txFifo finish.hw,
        events.foldl (latestAck options) none = some payload := by
  have cached :
      Cached driver finish (events.foldl (latestAck options) none) :=
    run_preserves_folded_of_stepsMeet
      (fun _ _ _ _ cached once stepped => cached.step lawful prx once stepped)
      (cached_initial empty) once ran
  rcases cached.holds with nothing | holds
  · rw [nothing]
    exact ⟨Nat.zero_le 1, fun _ impossible => by cases impossible⟩
  · rw [holds]
    cases events.foldl (latestAck options) none with
    | none => exact ⟨Nat.zero_le 1, fun _ impossible => by cases impossible⟩
    | some last =>
        refine ⟨Nat.le_refl 1, fun payload member => ?_⟩
        rw [List.mem_singleton.mp member]

/-- A receiver that is given the radio in time slots. -/
def slottedReceiver : EsbOptions where
  mpsl := true
  mode := .prx
  baseAddr0 := [1, 2, 3, 4]
  baseAddr1 := [5, 6, 7, 8]
  maxPayloadLength := 32
  lengthFits := by decide

/-- The second payload replaces the first between two time slots. -/
def replacedAckRun : List EsbEvent :=
  [.init 0, .timeslot .started, .send 0 ⟨[7], 1⟩, .timeslot .stopped,
    .prxSetAckPayload ⟨[8], 1⟩, .timeslot .started]

theorem replacedAckRun_latest :
    ∃ finish,
      run (esbStep fifoDriver slottedReceiver) (.initial ⟨.off, []⟩)
          replacedAckRun =
        some finish ∧
      ((fifoDriver.txFifo finish.hw).length ≤ 1 ∧
        ∀ payload ∈ fifoDriver.txFifo finish.hw,
          replacedAckRun.foldl (latestAck slottedReceiver) none =
            some payload) ∧
      fifoDriver.txFifo finish.hw = [payloadOf ⟨[8], 1⟩] := by
  have once :
      StepsMeet (esbStep fifoDriver slottedReceiver) InitsOnce
        (.initial ⟨.off, []⟩) replacedAckRun := by
    refine ⟨rfl, fun _ _ => ?_⟩
    iterate 4 refine ⟨trivial, fun _ _ => ?_⟩
    exact ⟨trivial, fun _ _ => trivial⟩
  exact
    ⟨_, rfl,
      acknowledgement_is_latest fifoDriver slottedReceiver
        (fifoDriver_lawful 32) rfl ⟨.off, []⟩ rfl replacedAckRun _ once rfl,
      rfl⟩

end YkbFirmware.Esb.AckCache
