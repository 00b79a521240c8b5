import Mathlib.Tactic.Basic
import Mathlib.Data.Option.Basic

/-!
# Runs of partial step functions

A component is presented by a step function `State → Event → Option State`
which refuses an event by answering `none`.  This file runs finite event
lists, oldest first, and packages the two inductions every development over
such a component needs: a property kept by each step holds after each run,
and a property kept by each step that meets a side condition holds after each
run whose steps all meet it.
-/

namespace YkbFirmware.Library.TransitionSystem

universe u v w w'

variable {State : Type u} {Event : Type v}

/-! ## Runs -/

/-- Run a finite list of events; a refused event ends the run. -/
def run (step : State → Event → Option State) :
    State → List Event → Option State
  | state, [] => some state
  | state, event :: rest =>
      (step state event).bind fun next => run step next rest

@[simp]
theorem run_nil
    (step : State → Event → Option State) (state : State) :
    run step state [] = some state :=
  rfl

@[simp]
theorem run_cons
    (step : State → Event → Option State) (state : State)
    (event : Event) (rest : List Event) :
    run step state (event :: rest) =
      (step state event).bind fun next => run step next rest :=
  rfl

/-- A run of a composite list passes through the state after its prefix. -/
theorem run_append
    (step : State → Event → Option State) (state : State)
    (first second : List Event) :
    run step state (first ++ second) =
      (run step state first).bind fun middle => run step middle second := by
  induction first generalizing state with
  | nil => rfl
  | cons event rest induction =>
      cases stepped : step state event with
      | none => simp [stepped]
      | some next => simp [stepped, induction]

/-- A step function that refuses nothing runs every list of events. -/
theorem run_total
    {step : State → Event → Option State}
    (total : ∀ state event, ∃ next, step state event = some next)
    (start : State) (events : List Event) :
    ∃ finish, run step start events = some finish := by
  induction events generalizing start with
  | nil => exact ⟨start, rfl⟩
  | cons event rest induction =>
      rcases total start event with ⟨next, stepped⟩
      rcases induction next with ⟨finish, ran⟩
      exact ⟨finish, by rw [run_cons, stepped]; exact ran⟩

/-- Every event of the list meets `guard` in the state it is taken from. -/
def StepsMeet
    (step : State → Event → Option State)
    (guard : State → Event → Prop) :
    State → List Event → Prop
  | _, [] => True
  | state, event :: rest =>
      guard state event ∧
        ∀ next, step state event = some next →
          StepsMeet step guard next rest

/-- Guards which can be decided can be decided along a list of events. -/
instance decidableStepsMeet
    {step : State → Event → Option State}
    {guard : State → Event → Prop}
    [decide : ∀ state event, Decidable (guard state event)] :
    ∀ (start : State) (events : List Event),
      Decidable (StepsMeet step guard start events)
  | _, [] => isTrue trivial
  | start, event :: rest =>
      match stepped : step start event with
      | none =>
          decidable_of_iff (guard start event)
            ⟨fun met =>
                ⟨met, fun next some => by rw [stepped] at some; cases some⟩,
              fun met => met.1⟩
      | some next =>
          have : Decidable (StepsMeet step guard next rest) :=
            decidableStepsMeet next rest
          decidable_of_iff
            (guard start event ∧ StepsMeet step guard next rest)
            ⟨fun met =>
                ⟨met.1, fun other some => by
                  rw [stepped] at some
                  cases some
                  exact met.2⟩,
              fun met => ⟨met.1, met.2 next stepped⟩⟩

/-- A guard on events alone is met if every event of the list meets it. -/
theorem stepsMeet_of_events
    {step : State → Event → Option State} {allowed : Event → Prop}
    {start : State} {events : List Event}
    (all : ∀ event ∈ events, allowed event) :
    StepsMeet step (fun _ event => allowed event) start events := by
  induction events generalizing start with
  | nil => exact trivial
  | cons event rest induction =>
      refine ⟨all event List.mem_cons_self, fun next _ => ?_⟩
      exact induction fun other member =>
        all other (List.mem_cons_of_mem event member)

/-- Along a run, a guard on events alone is met if and only if all meet it. -/
theorem stepsMeet_iff_events
    {step : State → Event → Option State} {allowed : Event → Prop}
    {start finish : State} {events : List Event}
    (ran : run step start events = some finish) :
    StepsMeet step (fun _ event => allowed event) start events ↔
      ∀ event ∈ events, allowed event := by
  refine ⟨fun met => ?_, stepsMeet_of_events⟩
  induction events generalizing start with
  | nil => exact fun event member => absurd member List.not_mem_nil
  | cons event rest induction =>
      rcases Option.bind_eq_some_iff.mp ran with ⟨next, stepped, ranRest⟩
      rw [List.forall_mem_cons]
      exact ⟨met.1, induction ranRest (met.2 next stepped)⟩

/-- Guards of consecutive stretches are met one stretch after the other. -/
theorem stepsMeet_append
    {step : State → Event → Option State}
    {guard : State → Event → Prop}
    {start : State} {first second : List Event}
    (metFirst : StepsMeet step guard start first)
    (metSecond :
      ∀ middle, run step start first = some middle →
        StepsMeet step guard middle second) :
    StepsMeet step guard start (first ++ second) := by
  induction first generalizing start with
  | nil => exact metSecond start rfl
  | cons event rest induction =>
      refine ⟨metFirst.1, fun next stepped => ?_⟩
      refine induction (metFirst.2 next stepped) fun middle ran => ?_
      exact metSecond middle (by rw [run_cons, stepped]; exact ran)

/-- A guard implied by an invariant of the listed events is met. -/
theorem stepsMeet_of_invariant
    {step : State → Event → Option State}
    {guard : State → Event → Prop} {invariant : State → Prop}
    {events : List Event}
    (implied :
      ∀ state, ∀ event ∈ events, invariant state → guard state event)
    (preserved :
      ∀ state, ∀ event ∈ events, ∀ next,
        invariant state → step state event = some next → invariant next)
    {start : State} (initially : invariant start) :
    StepsMeet step guard start events := by
  induction events generalizing start with
  | nil => exact trivial
  | cons event rest induction =>
      refine
        ⟨implied start event List.mem_cons_self initially,
          fun next stepped => ?_⟩
      exact
        induction
          (fun state other member =>
            implied state other (List.mem_cons_of_mem event member))
          (fun state other member =>
            preserved state other (List.mem_cons_of_mem event member))
          (preserved start event List.mem_cons_self next initially stepped)

/-- A guarded invariant survives every run whose steps all meet the guard. -/
theorem run_preserves_of_stepsMeet
    {step : State → Event → Option State}
    {guard : State → Event → Prop}
    {invariant : State → Prop}
    (preserved :
      ∀ state event next,
        invariant state → guard state event →
          step state event = some next → invariant next)
    {start finish : State} {events : List Event}
    (initially : invariant start)
    (met : StepsMeet step guard start events)
    (ran : run step start events = some finish) :
    invariant finish := by
  induction events generalizing start with
  | nil =>
      cases ran
      exact initially
  | cons event rest induction =>
      rcases Option.bind_eq_some_iff.mp ran with ⟨next, stepped, ranRest⟩
      exact
        induction
          (preserved start event next initially met.1 stepped)
          (met.2 next stepped) ranRest

/-- An invariant kept by every step survives every run. -/
theorem run_preserves
    {step : State → Event → Option State}
    {invariant : State → Prop}
    (preserved :
      ∀ state event next,
        invariant state → step state event = some next → invariant next)
    {start finish : State} {events : List Event}
    (initially : invariant start)
    (ran : run step start events = some finish) :
    invariant finish := by
  have unguarded : StepsMeet step (fun _ _ => True) start events :=
    stepsMeet_of_events fun _ _ => trivial
  exact
    run_preserves_of_stepsMeet
      (fun state event next holds _ => preserved state event next holds)
      initially unguarded ran

/-- The steps of a guarded run meet what they imply under an invariant. -/
theorem stepsMeet_of_run
    {step : State → Event → Option State}
    {guard implied : State → Event → Prop} {invariant : State → Prop}
    (preserved :
      ∀ state event next,
        invariant state → guard state event →
          step state event = some next →
            implied state event ∧ invariant next)
    {start finish : State} {events : List Event}
    (initially : invariant start)
    (met : StepsMeet step guard start events)
    (ran : run step start events = some finish) :
    StepsMeet step implied start events := by
  induction events generalizing start with
  | nil => exact trivial
  | cons event rest induction =>
      rcases Option.bind_eq_some_iff.mp ran with ⟨next, stepped, ranRest⟩
      have kept := preserved start event next initially met.1 stepped
      refine ⟨kept.1, fun other same => ?_⟩
      cases stepped.symm.trans same
      exact induction kept.2 (met.2 next stepped) ranRest

/--
Repeating an event reaches a goal if each step short of it keeps an invariant
and lowers a rank, which bounds the number of steps.
-/
theorem run_replicate_reaches
    {step : State → Event → Option State} {event : Event}
    {invariant goal : State → Prop} (rank : State → Nat)
    (drops :
      ∀ state, invariant state → ¬ goal state →
        ∃ next,
          step state event = some next ∧ invariant next ∧
            rank next < rank state)
    {start : State} (initially : invariant start) :
    ∃ count ≤ rank start, ∃ finish,
      run step start (List.replicate count event) = some finish ∧
        invariant finish ∧ goal finish := by
  induction bound : rank start using Nat.strongRecOn generalizing start with
  | ind bound induction =>
      subst bound
      by_cases reached : goal start
      · exact ⟨0, Nat.zero_le _, start, rfl, initially, reached⟩
      · rcases drops start initially reached with ⟨next, stepped, kept, less⟩
        rcases induction (rank next) less kept rfl with
          ⟨count, within, finish, ran, finishes⟩
        refine ⟨count + 1, by omega, finish, ?_, finishes⟩
        rw [List.replicate_succ, run_cons, stepped]
        exact ran

/--
A property of the final state that each step keeps exactly when it meets the
guard holds of a run exactly when all its steps meet the guard.
-/
theorem run_iff_stepsMeet
    {step : State → Event → Option State}
    {guard : State → Event → Prop}
    {invariant good : State → Prop}
    (kept :
      ∀ state event next,
        invariant state → step state event = some next → invariant next)
    (exactly :
      ∀ state event next,
        invariant state → step state event = some next →
          (good next ↔ good state ∧ guard state event))
    {start finish : State} {events : List Event}
    (initially : invariant start)
    (ran : run step start events = some finish) :
    good finish ↔ good start ∧ StepsMeet step guard start events := by
  induction events generalizing start with
  | nil =>
      cases ran
      exact (and_iff_left trivial).symm
  | cons event rest induction =>
      rcases Option.bind_eq_some_iff.mp ran with ⟨next, stepped, ranRest⟩
      have onRest :=
        induction (kept start event next initially stepped) ranRest
      have onStep := exactly start event next initially stepped
      constructor
      · intro reached
        rcases onRest.mp reached with ⟨goodNext, met⟩
        rcases onStep.mp goodNext with ⟨goodStart, meets⟩
        refine ⟨goodStart, meets, fun other same => ?_⟩
        cases stepped.symm.trans same
        exact met
      · rintro ⟨goodStart, meets, met⟩
        exact
          onRest.mpr ⟨onStep.mpr ⟨goodStart, meets⟩, met next stepped⟩

/-- The property holds in every state a run passes through. -/
def Throughout
    (step : State → Event → Option State) (property : State → Prop) :
    State → List Event → Prop
  | state, [] => property state
  | state, event :: rest =>
      property state ∧
        ∀ next, step state event = some next →
          Throughout step property next rest

/--
Under an invariant, a property that a step keeps exactly when it meets the
guard holds throughout a run exactly when it holds at its start and all steps
meet the guard.
-/
theorem throughout_iff_stepsMeet_of_invariant
    {step : State → Event → Option State}
    {guard : State → Event → Prop} {invariant property : State → Prop}
    (kept :
      ∀ state event next,
        invariant state → step state event = some next → invariant next)
    (exactly :
      ∀ state event next,
        invariant state → property state → step state event = some next →
          (property next ↔ guard state event))
    {start finish : State} {events : List Event}
    (initially : invariant start)
    (ran : run step start events = some finish) :
    Throughout step property start events ↔
      property start ∧ StepsMeet step guard start events := by
  induction events generalizing start with
  | nil => exact (and_iff_left trivial).symm
  | cons event rest induction =>
      rcases Option.bind_eq_some_iff.mp ran with ⟨next, stepped, ranRest⟩
      have onRest :=
        induction (kept start event next initially stepped) ranRest
      constructor
      · rintro ⟨holds, further⟩
        rcases onRest.mp (further next stepped) with ⟨holdsNext, met⟩
        refine
          ⟨holds,
            (exactly start event next initially holds stepped).mp holdsNext,
            fun other same => ?_⟩
        cases stepped.symm.trans same
        exact met
      · rintro ⟨holds, meets, met⟩
        refine ⟨holds, fun other same => ?_⟩
        cases stepped.symm.trans same
        exact
          onRest.mpr
            ⟨(exactly start event next initially holds stepped).mpr meets,
              met next stepped⟩

/--
A property that a step keeps exactly when it meets the guard holds throughout
a run exactly when it holds at its start and all steps meet the guard.
-/
theorem throughout_iff_stepsMeet
    {step : State → Event → Option State}
    {guard : State → Event → Prop} {property : State → Prop}
    (exactly :
      ∀ state event next,
        property state → step state event = some next →
          (property next ↔ guard state event))
    {start finish : State} {events : List Event}
    (ran : run step start events = some finish) :
    Throughout step property start events ↔
      property start ∧ StepsMeet step guard start events :=
  throughout_iff_stepsMeet_of_invariant
    (fun _ _ _ (always : True) _ => always)
    (fun state event next _ => exactly state event next) trivial ran

/--
If under an invariant each step is matched by a run of another component on
the `view` of its states, then each run is.
-/
theorem run_refines
    {Abstract : Type w} {AbstractEvent : Type w'}
    {step : State → Event → Option State}
    {abstractStep : Abstract → AbstractEvent → Option Abstract}
    {view : State → Abstract} {translate : Event → List AbstractEvent}
    {invariant : State → Prop}
    (kept :
      ∀ state event next,
        invariant state → step state event = some next → invariant next)
    (matched :
      ∀ state event next,
        invariant state → step state event = some next →
          run abstractStep (view state) (translate event) =
            some (view next))
    {start finish : State} {events : List Event}
    (initially : invariant start)
    (ran : run step start events = some finish) :
    run abstractStep (view start) (events.flatMap translate) =
      some (view finish) := by
  induction events generalizing start with
  | nil =>
      cases ran
      rfl
  | cons event rest induction =>
      rcases Option.bind_eq_some_iff.mp ran with ⟨next, stepped, ranRest⟩
      rw [List.flatMap_cons, run_append,
        matched start event next initially stepped]
      exact induction (kept start event next initially stepped) ranRest

/-- What follows from a guarded invariant holds throughout such runs. -/
theorem throughout_of_stepsMeet
    {step : State → Event → Option State}
    {guard : State → Event → Prop} {invariant property : State → Prop}
    (preserved :
      ∀ state event next,
        invariant state → guard state event →
          step state event = some next → invariant next)
    (implied : ∀ state, invariant state → property state)
    {start : State} {events : List Event} (initially : invariant start)
    (met : StepsMeet step guard start events) :
    Throughout step property start events := by
  induction events generalizing start with
  | nil => exact implied start initially
  | cons event rest induction =>
      refine ⟨implied start initially, fun next stepped => ?_⟩
      exact
        induction (preserved start event next initially met.1 stepped)
          (met.2 next stepped)

/-- What holds throughout a run holds in its final state. -/
theorem Throughout.finish
    {step : State → Event → Option State} {property : State → Prop}
    {start finish : State} {events : List Event}
    (throughout : Throughout step property start events)
    (ran : run step start events = some finish) :
    property finish := by
  induction events generalizing start with
  | nil =>
      cases ran
      exact throughout
  | cons event rest induction =>
      rcases Option.bind_eq_some_iff.mp ran with ⟨next, stepped, ranRest⟩
      exact induction (throughout.2 next stepped) ranRest

/-- Under an invariant, guards that agree are met by the same runs. -/
theorem stepsMeet_congr
    {step : State → Event → Option State}
    {guard other : State → Event → Prop} {invariant : State → Prop}
    (kept :
      ∀ state event next,
        invariant state → step state event = some next → invariant next)
    (agree :
      ∀ state event,
        invariant state → (guard state event ↔ other state event))
    {start : State} {events : List Event} (initially : invariant start) :
    StepsMeet step guard start events ↔
      StepsMeet step other start events := by
  induction events generalizing start with
  | nil => exact Iff.rfl
  | cons event rest induction =>
      apply and_congr (agree start event initially)
      apply forall₂_congr
      intro next stepped
      exact induction (kept start event next initially stepped)

/-! ## The last relevant event -/

/--
The last relevant event of the run meets the guard; with none of them,
`otherwise` decides.
-/
def LastMeets
    (step : State → Event → Option State)
    (relevant guard : State → Event → Prop) :
    Prop → State → List Event → Prop
  | otherwise, _, [] => otherwise
  | otherwise, state, event :: rest =>
      ∀ next, step state event = some next →
        LastMeets step relevant guard
          (relevant state event ∧ guard state event ∨
            ¬ relevant state event ∧ otherwise)
          next rest

/-- What can be decided of each event can be decided of the last one. -/
instance decidableLastMeets
    {step : State → Event → Option State}
    {relevant guard : State → Event → Prop}
    [matters : ∀ state event, Decidable (relevant state event)]
    [meets : ∀ state event, Decidable (guard state event)] :
    ∀ (otherwise : Prop) [Decidable otherwise] (start : State)
      (events : List Event),
      Decidable (LastMeets step relevant guard otherwise start events)
  | otherwise, decides, _, [] => decides
  | otherwise, _, start, event :: rest =>
      match stepped : step start event with
      | none =>
          isTrue fun next some => by
            rw [stepped] at some
            cases some
      | some next =>
          have : Decidable
              (LastMeets step relevant guard
                (relevant start event ∧ guard start event ∨
                  ¬ relevant start event ∧ otherwise)
                next rest) :=
            decidableLastMeets _ next rest
          decidable_of_iff
            (LastMeets step relevant guard
              (relevant start event ∧ guard start event ∨
                ¬ relevant start event ∧ otherwise)
              next rest)
            ⟨fun met other same => by
                rw [stepped] at same
                cases same
                exact met,
              fun met => met next stepped⟩

/-- A relevant event at the end is the last one. -/
theorem lastMeets_concat
    {step : State → Event → Option State}
    {relevant guard : State → Event → Prop}
    {otherwise : Prop} {start : State} {events : List Event} {last : Event}
    (meets :
      ∀ middle, run step start events = some middle →
        relevant middle last ∧ guard middle last) :
    LastMeets step relevant guard otherwise start (events ++ [last]) := by
  induction events generalizing start otherwise with
  | nil => exact fun _ _ => Or.inl (meets start rfl)
  | cons event rest induction =>
      intro next stepped
      refine induction fun middle ran => meets middle ?_
      rw [run_cons, stepped]
      exact ran

/--
Under an invariant, a property that relevant steps establish exactly when
they meet the guard, and that other steps leave as it is, is settled by the
last relevant step.
-/
theorem run_iff_lastMeets_of_invariant
    {step : State → Event → Option State}
    {relevant guard : State → Event → Prop}
    {invariant good : State → Prop}
    (kept :
      ∀ state event next,
        invariant state → step state event = some next → invariant next)
    (settled :
      ∀ state event next,
        invariant state → relevant state event →
          step state event = some next → (good next ↔ guard state event))
    (left :
      ∀ state event next,
        invariant state → ¬ relevant state event →
          step state event = some next → (good next ↔ good state))
    {otherwise : Prop} {start finish : State} {events : List Event}
    (invariantly : invariant start) (initially : good start ↔ otherwise)
    (ran : run step start events = some finish) :
    good finish ↔
      LastMeets step relevant guard otherwise start events := by
  induction events generalizing start otherwise with
  | nil =>
      cases ran
      exact initially
  | cons event rest induction =>
      rcases Option.bind_eq_some_iff.mp ran with ⟨next, stepped, ranRest⟩
      have onRest :
          good finish ↔
            LastMeets step relevant guard
              (relevant start event ∧ guard start event ∨
                ¬ relevant start event ∧ otherwise)
              next rest := by
        apply
          induction (kept start event next invariantly stepped) _ ranRest
        by_cases matters : relevant start event
        · simp [matters,
            settled start event next invariantly matters stepped]
        · simp [matters, left start event next invariantly matters stepped,
            initially]
      apply onRest.trans
      constructor
      · intro met other same
        cases stepped.symm.trans same
        exact met
      · exact fun met => met next stepped

/--
A property that relevant steps establish exactly when they meet the guard,
and that other steps leave as it is, is settled by the last relevant step.
-/
theorem run_iff_lastMeets
    {step : State → Event → Option State}
    {relevant guard : State → Event → Prop} {good : State → Prop}
    (settled :
      ∀ state event next,
        relevant state event → step state event = some next →
          (good next ↔ guard state event))
    (left :
      ∀ state event next,
        ¬ relevant state event → step state event = some next →
          (good next ↔ good state))
    {otherwise : Prop} {start finish : State} {events : List Event}
    (initially : good start ↔ otherwise)
    (ran : run step start events = some finish) :
    good finish ↔
      LastMeets step relevant guard otherwise start events :=
  run_iff_lastMeets_of_invariant
    (fun _ _ _ (always : True) _ => always)
    (fun state event next _ => settled state event next)
    (fun state event next _ => left state event next) trivial initially ran

/--
A property that relevant steps establish if they meet the guard, and that
other steps keep, holds if the last relevant step meets the guard.
-/
theorem run_of_lastMeets
    {step : State → Event → Option State}
    {relevant guard : State → Event → Prop} {good : State → Prop}
    (settled :
      ∀ state event next,
        relevant state event → guard state event →
          step state event = some next → good next)
    (kept :
      ∀ state event next,
        ¬ relevant state event → good state →
          step state event = some next → good next)
    {otherwise : Prop} {start finish : State} {events : List Event}
    (initially : otherwise → good start)
    (ran : run step start events = some finish)
    (meets : LastMeets step relevant guard otherwise start events) :
    good finish := by
  induction events generalizing start otherwise with
  | nil =>
      cases ran
      exact initially meets
  | cons event rest induction =>
      rcases Option.bind_eq_some_iff.mp ran with ⟨next, stepped, ranRest⟩
      refine induction ?_ ranRest (meets next stepped)
      rintro (⟨matters, met⟩ | ⟨other, before⟩)
      · exact settled start event next matters met stepped
      · exact kept start event next other (initially before) stepped

/-! ## Outputs of a run -/

/-- What the events put out, each in the state it is taken from. -/
def collected
    {Output : Type w} (step : State → Event → Option State)
    (output : State → Event → List Output) :
    State → List Event → List Output
  | _, [] => []
  | state, event :: rest =>
      output state event ++
        (step state event).elim [] fun next =>
          collected step output next rest

/-- All outputs are good exactly if those of every step are. -/
theorem forall_collected_iff
    {Output : Type w} {step : State → Event → Option State}
    {output : State → Event → List Output} {good : Output → Prop}
    {start : State} {events : List Event} :
    (∀ item ∈ collected step output start events, good item) ↔
      StepsMeet step
        (fun state event => ∀ item ∈ output state event, good item)
        start events := by
  induction events generalizing start with
  | nil => exact iff_of_true (fun _ => by simp [collected]) trivial
  | cons event rest induction =>
      rw [collected, StepsMeet, List.forall_mem_append]
      apply and_congr_right'
      cases stepped : step start event with
      | none => simp
      | some next => simp [induction]

/--
An invariant of a state and of what was put out on the way to it, kept by
each allowed step, holds after each run of allowed events.
-/
theorem run_preserves_collected
    {Output : Type w} {step : State → Event → Option State}
    {output : State → Event → List Output} {allowed : Event → Prop}
    {invariant : State → List Output → Prop}
    (preserved :
      ∀ state log event next,
        invariant state log → allowed event →
          step state event = some next →
            invariant next (log ++ output state event))
    {start finish : State} {log : List Output} {events : List Event}
    (initially : invariant start log) (all : ∀ event ∈ events, allowed event)
    (ran : run step start events = some finish) :
    invariant finish (log ++ collected step output start events) := by
  induction events generalizing start log with
  | nil =>
      cases ran
      rw [collected, List.append_nil]
      exact initially
  | cons event rest induction =>
      rcases Option.bind_eq_some_iff.mp ran with ⟨next, stepped, ranRest⟩
      rw [collected, stepped, Option.elim_some, ← List.append_assoc]
      apply induction _ _ ranRest
      · exact
          preserved start log event next initially
            (all event List.mem_cons_self) stepped
      · exact fun other member => all other (List.mem_cons_of_mem event member)

/--
An invariant of a state and of what the events before it add up to, kept by
each step that meets the guard, holds after each run whose steps all do.
-/
theorem run_preserves_folded_of_stepsMeet
    {Sum : Type w} {step : State → Event → Option State}
    {guard : State → Event → Prop}
    {add : Sum → Event → Sum} {invariant : State → Sum → Prop}
    (preserved :
      ∀ state sum event next,
        invariant state sum → guard state event →
          step state event = some next → invariant next (add sum event))
    {start finish : State} {sum : Sum} {events : List Event}
    (initially : invariant start sum)
    (met : StepsMeet step guard start events)
    (ran : run step start events = some finish) :
    invariant finish (events.foldl add sum) := by
  induction events generalizing start sum with
  | nil =>
      cases ran
      exact initially
  | cons event rest induction =>
      rcases Option.bind_eq_some_iff.mp ran with ⟨next, stepped, ranRest⟩
      exact
        induction (preserved start sum event next initially met.1 stepped)
          (met.2 next stepped) ranRest

/-- The same without a guard. -/
theorem run_preserves_folded
    {Sum : Type w} {step : State → Event → Option State}
    {add : Sum → Event → Sum} {invariant : State → Sum → Prop}
    (preserved :
      ∀ state sum event next,
        invariant state sum → step state event = some next →
          invariant next (add sum event))
    {start finish : State} {sum : Sum} {events : List Event}
    (initially : invariant start sum)
    (ran : run step start events = some finish) :
    invariant finish (events.foldl add sum) := by
  have unguarded : StepsMeet step (fun _ _ => True) start events :=
    stepsMeet_of_events fun _ _ => trivial
  exact
    run_preserves_folded_of_stepsMeet
      (fun state sum event next holds _ =>
        preserved state sum event next holds)
      initially unguarded ran

/--
If each step is matched by a run of another component whose events the step
puts out, then each run is.
-/
theorem run_refines_collected
    {Abstract : Type w} {AbstractEvent : Type w'}
    {step : State → Event → Option State}
    {abstractStep : Abstract → AbstractEvent → Option Abstract}
    {view : State → Abstract}
    {translate : State → Event → List AbstractEvent}
    (matched :
      ∀ state event next,
        step state event = some next →
          run abstractStep (view state) (translate state event) =
            some (view next))
    {start finish : State} {events : List Event}
    (ran : run step start events = some finish) :
    run abstractStep (view start) (collected step translate start events) =
      some (view finish) := by
  induction events generalizing start with
  | nil =>
      cases ran
      rfl
  | cons event rest induction =>
      rcases Option.bind_eq_some_iff.mp ran with ⟨next, stepped, ranRest⟩
      rw [collected, run_append, matched start event next stepped, stepped]
      exact induction ranRest

/-! ## Reachable states -/

/-- A state some finite run leads to. -/
def Reachable
    (step : State → Event → Option State) (start state : State) : Prop :=
  ∃ events, run step start events = some state

namespace Reachable

theorem refl
    (step : State → Event → Option State) (start : State) :
    Reachable step start start :=
  ⟨[], rfl⟩

theorem step
    {step : State → Event → Option State}
    {start state next : State} {event : Event}
    (reached : Reachable step start state)
    (stepped : step state event = some next) :
    Reachable step start next := by
  rcases reached with ⟨events, ran⟩
  exact ⟨events ++ [event], by simp [run_append, ran, stepped]⟩

/-- Reachable states satisfy every invariant kept by each step. -/
theorem invariant
    {step : State → Event → Option State}
    {property : State → Prop}
    (preserved :
      ∀ state event next,
        property state → step state event = some next → property next)
    {start state : State}
    (initially : property start)
    (reached : Reachable step start state) :
    property state := by
  rcases reached with ⟨events, ran⟩
  exact run_preserves preserved initially ran

end Reachable

end YkbFirmware.Library.TransitionSystem
