import Mathlib.Tactic.SplitIfs
import YkbFirmware.Library.TransitionSystem

/-!
# The BQ25185 charger

The charger tells its state by two pins, and a third pin may tell whether
there is any input.  An edge of a pin raises an interrupt, which submits a
work item; its handler reads the pins one after the other and makes of them
the properties that the driver is asked for.

The pins may change between two reads, and what is shown then belongs to no
moment.  But the edge has submitted the work item again: when nothing is under
way, the properties are those of the pins as they are.
-/

namespace YkbFirmware.Charger.Bq25185

open YkbFirmware.Library.TransitionSystem

def enotsup : Int := 134

/-! ## Properties -/

/-- `enum charger_status` -/
inductive ChargerStatus where
  | unknown
  | charging
  | notCharging
  | full
deriving DecidableEq, Repr

/-- `enum charger_online` -/
inductive ChargerOnline where
  | offline
  | fixed
deriving DecidableEq, Repr

/-- `enum charger_health` -/
inductive ChargerHealth where
  | unknown
  | good
  | unspecFailure
deriving DecidableEq, Repr

/-- `enum charger_charge_type` -/
inductive ChargerChargeType where
  | unknown
  | none
  | standard
deriving DecidableEq, Repr

/-- `enum bq25185_fault_detail` -/
inductive FaultDetail where
  | none
  | recoverableGroup
  | latchoffGroup
deriving DecidableEq, Repr

structure Properties where
  status : ChargerStatus
  online : ChargerOnline
  health : ChargerHealth
  chargeType : ChargerChargeType
  faultDetail : FaultDetail
deriving DecidableEq, Repr

/-- `charger_prop_t`; all the others are not supported. -/
inductive ChargerProp where
  | status
  | online
  | health
  | chargeType
  | other
deriving DecidableEq, Repr

/-- `union charger_propval` -/
inductive ChargerPropval where
  | status (value : ChargerStatus)
  | online (value : ChargerOnline)
  | health (value : ChargerHealth)
  | chargeType (value : ChargerChargeType)
deriving DecidableEq, Repr

def Properties.get (properties : Properties) :
    ChargerProp → Except Int ChargerPropval
  | .status => .ok (.status properties.status)
  | .online => .ok (.online properties.online)
  | .health => .ok (.health properties.health)
  | .chargeType => .ok (.chargeType properties.chargeType)
  | .other => .error (-enotsup)

/-! ## State -/

/-- The pins that the device tree has. -/
structure Bq25185Config where
  vinPresentGpios : Bool
  ceGpios : Bool

/-- What the input pins read, active or not. -/
structure Inputs where
  stat1 : Bool
  stat2 : Bool
  vinPresent : Bool
deriving DecidableEq, Repr

/-- How far `bq25185_work_handler` is. -/
inductive Handler where
  | idle
  | stat1
  | stat2
  | vinPresent
  | decode
deriving DecidableEq, Repr

structure ChargerState where
  /-- The pins as they are. -/
  pins : Inputs
  /-- There has been an edge, and no interrupt for it yet. -/
  edge : Bool
  queued : Bool
  handler : Handler
  /-- `state` of each pin. -/
  inputs : Inputs
  chargeEnabled : Bool
  properties : Properties

section Step

variable (cfg : Bq25185Config)

/-- `bq25185_decode_state` -/
def bq25185DecodeState (inputs : Inputs) (chargeEnabled : Bool) :
    Properties :=
  let vinPresent := if cfg.vinPresentGpios then inputs.vinPresent else true
  if vinPresent = false then
    ⟨.notCharging, .offline, .good, .none, .none⟩
  else if inputs.stat1 = false ∧ inputs.stat2 = false then
    if cfg.ceGpios = true ∧ chargeEnabled = false then
      ⟨.notCharging, .fixed, .good, .none, .none⟩
    else
      ⟨.full, .fixed, .good, .none, .none⟩
  else if inputs.stat1 = false ∧ inputs.stat2 = true then
    ⟨.charging, .fixed, .good, .standard, .none⟩
  else if inputs.stat1 = true ∧ inputs.stat2 = false then
    ⟨.notCharging, .fixed, .unspecFailure, .none, .recoverableGroup⟩
  else
    ⟨.notCharging, .fixed, .unspecFailure, .none, .latchoffGroup⟩

/-- `bq25185_init`, when it succeeds and no pin changes meanwhile. -/
def bq25185Init (pins : Inputs) : ChargerState where
  pins := pins
  edge := false
  queued := false
  handler := .idle
  inputs :=
    { pins with
      vinPresent := cfg.vinPresentGpios && pins.vinPresent }
  -- charging is enabled with the pin, and taken for granted without one
  chargeEnabled := true
  properties :=
    bq25185DecodeState cfg
      { pins with vinPresent := cfg.vinPresentGpios && pins.vinPresent } true

/-- An edge of one of the pins that raise interrupts. -/
def hasEdge (before after : Inputs) : Bool :=
  before.stat1 != after.stat1 || before.stat2 != after.stat2 ||
    (cfg.vinPresentGpios && before.vinPresent != after.vinPresent)

/--
The next pin that `bq25185_refresh_cached_inputs` reads, in the handler; `err`
is the result of `gpio_pin_get_dt` if it is negative.
-/
def readNext (st : ChargerState) (err : Int) : Option ChargerState :=
  if st.handler = .idle ∨ st.handler = .decode then
    none
  else if err < 0 then
    some { st with handler := .idle }
  else
    match st.handler with
    | .stat1 =>
        let inputs := { st.inputs with stat1 := st.pins.stat1 }
        some { st with inputs := inputs, handler := .stat2 }
    | .stat2 =>
        let inputs := { st.inputs with stat2 := st.pins.stat2 }
        let handler :=
          if cfg.vinPresentGpios then Handler.vinPresent else .decode
        some { st with inputs := inputs, handler := handler }
    | .vinPresent =>
        let inputs := { st.inputs with vinPresent := st.pins.vinPresent }
        some { st with inputs := inputs, handler := .decode }
    | _ => none

/-- `bq25185_charge_enable`; `err` is the result of `gpio_pin_set_dt`. -/
def bq25185ChargeEnable (st : ChargerState) (enable : Bool) (err : Int) :
    Int × ChargerState :=
  if cfg.ceGpios = false then
    (-enotsup, st)
  else if err = 0 then
    let properties := bq25185DecodeState cfg st.inputs enable
    (err, { st with chargeEnabled := enable, properties := properties })
  else
    (err, st)

/-- `bq25185_get_property` -/
def bq25185GetProperty (st : ChargerState) (prop : ChargerProp) :
    Except Int ChargerPropval :=
  st.properties.get prop

inductive ChargerEvent where
  /-- The pins change. -/
  | change (pins : Inputs)
  /-- `bq25185_gpio_cb` -/
  | interrupt
  /-- The handler starts and takes the lock. -/
  | begin
  | read (err : Int)
  /-- The handler decodes what it has read, and ends. -/
  | decode
  | chargeEnable (enable : Bool) (err : Int)
deriving DecidableEq

/-- What takes the lock waits until the handler has ended. -/
def chargerStep (st : ChargerState) : ChargerEvent → Option ChargerState
  | .change pins =>
      some { st with pins := pins, edge := st.edge || hasEdge cfg st.pins pins }
  | .interrupt =>
      if st.edge then some { st with edge := false, queued := true } else none
  | .begin =>
      if st.queued = true ∧ st.handler = .idle then
        some { st with queued := false, handler := .stat1 }
      else
        none
  | .read err => readNext cfg st err
  | .decode =>
      if st.handler = .decode then
        let properties :=
          bq25185DecodeState cfg st.inputs st.chargeEnabled
        some { st with handler := .idle, properties := properties }
      else
        none
  | .chargeEnable enable err =>
      if st.handler = .idle then
        some (bq25185ChargeEnable cfg st enable err).2
      else
        none

end Step

/-! ## The properties settle -/

/-- The pins read so far, in the order they are. -/
def Handler.read : Handler → Nat
  | .stat1 => 0
  | .stat2 => 1
  | .vinPresent => 2
  | .decode | .idle => 3

/-- No edge is still to be looked at. -/
def Quiet (st : ChargerState) : Prop :=
  st.edge = false ∧ st.queued = false

/-- What has been read is as it is, unless the handler is to run again. -/
structure Fresh (cfg : Bq25185Config) (st : ChargerState) : Prop where
  stat1 : Quiet st → 1 ≤ st.handler.read → st.inputs.stat1 = st.pins.stat1
  stat2 : Quiet st → 2 ≤ st.handler.read → st.inputs.stat2 = st.pins.stat2
  vinPresent :
    Quiet st → 3 ≤ st.handler.read → cfg.vinPresentGpios = true →
      st.inputs.vinPresent = st.pins.vinPresent
  decoded :
    st.handler = .idle →
      st.properties = bq25185DecodeState cfg st.inputs st.chargeEnabled

section Fresh

variable {cfg : Bq25185Config} {st next : ChargerState}

/-- Only the pins there are matter. -/
theorem decodeState_congr
    {left right : Inputs} (stat1 : left.stat1 = right.stat1)
    (stat2 : left.stat2 = right.stat2)
    (vinPresent :
      cfg.vinPresentGpios = true → left.vinPresent = right.vinPresent)
    (chargeEnabled : Bool) :
    bq25185DecodeState cfg left chargeEnabled =
      bq25185DecodeState cfg right chargeEnabled := by
  have vin :
      (if cfg.vinPresentGpios then left.vinPresent else true) =
        if cfg.vinPresentGpios then right.vinPresent else true := by
    split_ifs with present
    · exact vinPresent present
    · rfl
  rw [bq25185DecodeState, bq25185DecodeState, stat1, stat2, vin]

theorem fresh_init (cfg : Bq25185Config) (pins : Inputs) :
    Fresh cfg (bq25185Init cfg pins) where
  stat1 _ _ := rfl
  stat2 _ _ := rfl
  vinPresent _ _ present := by
    rw [bq25185Init, present, Bool.true_and]
  decoded _ := rfl

/-- The handler has read nothing when it starts. -/
theorem fresh_begin
    (stepped : chargerStep cfg st .begin = some next) : Fresh cfg next := by
  rw [chargerStep] at stepped
  split_ifs at stepped
  cases stepped
  exact
    { stat1 := fun _ read => absurd read (Nat.not_succ_le_zero 0)
      stat2 := fun _ read => absurd read (Nat.not_succ_le_zero 1)
      vinPresent := fun _ read => absurd read (Nat.not_succ_le_zero 2)
      decoded := fun impossible => Handler.noConfusion impossible }

/-- Pins without an edge are as they were. -/
theorem Fresh.change
    (fresh : Fresh cfg st) (pins : Inputs) :
    Fresh cfg
      { st with
        pins := pins
        edge := st.edge || hasEdge cfg st.pins pins } := by
  have same
      (quiet :
        Quiet
          { st with
            pins := pins
            edge := st.edge || hasEdge cfg st.pins pins }) :
      Quiet st ∧ st.pins.stat1 = pins.stat1 ∧ st.pins.stat2 = pins.stat2 ∧
        (cfg.vinPresentGpios = true →
          st.pins.vinPresent = pins.vinPresent) := by
    rcases quiet with ⟨noEdge, idle⟩
    rcases Bool.or_eq_false_iff.mp noEdge with ⟨before, unchanged⟩
    rw [hasEdge] at unchanged
    simp only [Bool.or_eq_false_iff, bne_eq_false_iff_eq,
      Bool.and_eq_false_iff] at unchanged
    rcases unchanged with ⟨⟨stat1, stat2⟩, vinPresent⟩
    refine ⟨⟨before, idle⟩, stat1, stat2, fun present => ?_⟩
    rcases vinPresent with absent | same
    · rw [present] at absent
      cases absent
    · exact same
  exact
    { stat1 := fun quiet read =>
        (fresh.stat1 (same quiet).1 read).trans (same quiet).2.1
      stat2 := fun quiet read =>
        (fresh.stat2 (same quiet).1 read).trans (same quiet).2.2.1
      vinPresent := fun quiet read present =>
        (fresh.vinPresent (same quiet).1 read present).trans
          ((same quiet).2.2.2 present)
      decoded := fresh.decoded }

/-- A pin that is read is the one there is. -/
theorem Fresh.readNext
    (fresh : Fresh cfg st) {err : Int} (reads : ¬ err < 0)
    (stepped : readNext cfg st err = some next) : Fresh cfg next := by
  rw [Bq25185.readNext] at stepped
  by_cases rests : st.handler = .idle ∨ st.handler = .decode
  · rw [if_pos rests] at stepped
    cases stepped
  rw [if_neg rests, if_neg reads] at stepped
  cases phase : st.handler with
  | idle => exact absurd (.inl phase) rests
  | decode => exact absurd (.inr phase) rests
  | stat1 =>
      rw [phase] at stepped
      cases stepped
      exact
        { stat1 := fun _ _ => rfl
          stat2 := fun _ read => absurd read (Nat.not_succ_le_self 1)
          vinPresent := fun _ read =>
            absurd (Nat.le_of_succ_le read) (Nat.not_succ_le_self 1)
          decoded := fun impossible => Handler.noConfusion impossible }
  | stat2 =>
      rw [phase] at stepped
      cases stepped
      have first (quiet : Quiet st) : st.inputs.stat1 = st.pins.stat1 := by
        refine fresh.stat1 quiet ?_
        rw [phase]
        exact Nat.le_refl 1
      exact
        { stat1 := fun quiet _ => first quiet
          stat2 := fun _ _ => rfl
          vinPresent := fun _ read present => by
            dsimp only at read
            rw [if_pos present] at read
            exact absurd read (Nat.not_succ_le_self 2)
          decoded := fun idle => by
            dsimp only at idle
            split_ifs at idle }
  | vinPresent =>
      rw [phase] at stepped
      cases stepped
      have first (quiet : Quiet st) : st.inputs.stat1 = st.pins.stat1 := by
        refine fresh.stat1 quiet ?_
        rw [phase]
        decide
      have second (quiet : Quiet st) : st.inputs.stat2 = st.pins.stat2 := by
        refine fresh.stat2 quiet ?_
        rw [phase]
        exact Nat.le_refl 2
      exact
        { stat1 := fun quiet _ => first quiet
          stat2 := fun quiet _ => second quiet
          vinPresent := fun _ _ _ => rfl
          decoded := fun impossible => Handler.noConfusion impossible }

/-- Every step but a failing read keeps what is read up to date. -/
theorem Fresh.step
    (fresh : Fresh cfg st) {event : ChargerEvent}
    (works : ∀ err, event = .read err → ¬ err < 0)
    (stepped : chargerStep cfg st event = some next) : Fresh cfg next := by
  cases event with
  | change pins =>
      cases stepped
      exact fresh.change pins
  | interrupt =>
      rw [chargerStep] at stepped
      split_ifs at stepped
      cases stepped
      exact
        { stat1 := fun quiet => Bool.noConfusion quiet.2
          stat2 := fun quiet => Bool.noConfusion quiet.2
          vinPresent := fun quiet => Bool.noConfusion quiet.2
          decoded := fresh.decoded }
  | begin => exact fresh_begin stepped
  | read err => exact fresh.readNext (works err rfl) stepped
  | decode =>
      rw [chargerStep] at stepped
      split_ifs at stepped with decodes
      cases stepped
      have read : st.handler.read = 3 := by
        rw [decodes]
        rfl
      exact
        { stat1 := fun quiet _ => fresh.stat1 quiet (by rw [read]; decide)
          stat2 := fun quiet _ => fresh.stat2 quiet (by rw [read]; decide)
          vinPresent := fun quiet _ =>
            fresh.vinPresent quiet (Nat.le_of_eq read.symm)
          decoded := fun _ => rfl }
  | chargeEnable enable err =>
      rw [chargerStep] at stepped
      split_ifs at stepped with idle
      cases stepped
      rw [bq25185ChargeEnable]
      split_ifs
      · exact fresh
      · exact
          { stat1 := fresh.stat1
            stat2 := fresh.stat2
            vinPresent := fresh.vinPresent
            decoded := fun _ => rfl }
      · exact fresh

end Fresh

/-- The handler starts, or a read of it fails. -/
def attempts (_ : ChargerState) : ChargerEvent → Prop
  | .begin => True
  | .read err => err < 0
  | _ => False

instance (st : ChargerState) : ∀ event, Decidable (attempts st event)
  | .begin => isTrue trivial
  | .read err => inferInstanceAs (Decidable (err < 0))
  | .change _ | .interrupt | .decode | .chargeEnable .. => isFalse id

/-- The handler starts. -/
def begins (_ : ChargerState) (event : ChargerEvent) : Prop :=
  event = .begin

instance (st : ChargerState) (event : ChargerEvent) :
    Decidable (begins st event) :=
  inferInstanceAs (Decidable (event = .begin))

/--
When no edge is waiting to be looked at, the properties are those of the pins
as they are, unless the handler has failed when it ran last.
-/
theorem properties_settle
    (cfg : Bq25185Config) (pins : Inputs) (events : List ChargerEvent)
    (finish : ChargerState)
    (ran :
      run (chargerStep cfg) (bq25185Init cfg pins) events = some finish)
    (works :
      LastMeets (chargerStep cfg) attempts begins True
        (bq25185Init cfg pins) events)
    (quiet : Quiet finish) (idle : finish.handler = .idle)
    (prop : ChargerProp) :
    bq25185GetProperty finish prop =
      (bq25185DecodeState cfg finish.pins finish.chargeEnabled).get prop := by
  have fresh : Fresh cfg finish := by
    refine run_of_lastMeets ?_ ?_ (fun _ => fresh_init cfg pins) ran works
    · intro st event next _ isBegin stepped
      subst isBegin
      exact fresh_begin stepped
    · intro st event next other fresh stepped
      refine fresh.step ?_ stepped
      rintro err rfl fails
      exact other fails
  have read : finish.handler.read = 3 := by
    rw [idle]
    rfl
  rw [bq25185GetProperty, fresh.decoded idle]
  refine congrArg (Properties.get · prop) ?_
  refine decodeState_congr ?_ ?_ ?_ finish.chargeEnabled
  · exact fresh.stat1 quiet (by rw [read]; decide)
  · exact fresh.stat2 quiet (by rw [read]; decide)
  · exact fresh.vinPresent quiet (Nat.le_of_eq read.symm)

/-- No pin for the input, and one that enables charging. -/
def withoutVin : Bq25185Config where
  vinPresentGpios := false
  ceGpios := true

/-- Charging ends while the handler is reading the pins. -/
def chargingEnds : List ChargerEvent :=
  [.change ⟨false, true, false⟩, .interrupt, .begin, .read 0,
    .change ⟨false, false, false⟩, .interrupt, .read 0, .decode, .begin,
    .read 0, .read 0, .decode]

theorem chargingEnds_settles :
    ∃ finish,
      run (chargerStep withoutVin)
          (bq25185Init withoutVin ⟨false, false, false⟩) chargingEnds =
        some finish ∧
      bq25185GetProperty finish .status =
        (bq25185DecodeState withoutVin finish.pins
          finish.chargeEnabled).get .status := by
  refine ⟨_, rfl, ?_⟩
  exact
    properties_settle withoutVin ⟨false, false, false⟩ chargingEnds _ rfl
      (by decide) ⟨rfl, rfl⟩ rfl .status

example :
    (run (chargerStep withoutVin)
        (bq25185Init withoutVin ⟨false, false, false⟩) chargingEnds).map
        (fun st => st.properties.status) =
      some .full := by
  decide

end YkbFirmware.Charger.Bq25185
