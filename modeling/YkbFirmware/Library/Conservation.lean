import YkbFirmware.Library.TransitionSystem

/-!
# What a component holds, takes in and gives out

A component that takes items in at one end and gives them out at the other
loses none, invents none and keeps their order if each of its steps does.
Here the steps are those of a partial step function, and each of them is known
to keep the items under an invariant and a side condition only.
-/

namespace YkbFirmware.Library.Conservation

open YkbFirmware.Library.TransitionSystem

universe u v w

variable {State : Type u} {Event : Type v} {Item : Type w}

/-- In front of what a step leaves held comes what it has given out. -/
def Conserves
    (step : State → Event → Option State)
    (held : State → List Item) (taken given : State → Event → List Item)
    (state : State) (event : Event) : Prop :=
  ∀ next, step state event = some next →
    held state ++ taken state event = given state event ++ held next

/-- Outputs may be mapped before or after they are collected. -/
theorem collected_map
    {Output : Type*} {step : State → Event → Option State}
    {output : State → Event → List Output} (map : Output → Item)
    (start : State) (events : List Event) :
    collected step (fun state event => (output state event).map map)
        start events =
      (collected step output start events).map map := by
  induction events generalizing start with
  | nil => rfl
  | cons event rest induction =>
      cases stepped : step start event with
      | none => simp [collected, stepped]
      | some next => simp [collected, stepped, induction]

section Runs

variable
    {step : State → Event → Option State}
    {guard : State → Event → Prop} {invariant : State → Prop}
    {held : State → List Item} {taken given : State → Event → List Item}

/--
If the steps of a run that meets its guards conserve the items, so does the
run.
-/
theorem run_conserves
    (preserved :
      ∀ state event next,
        invariant state → guard state event →
          step state event = some next → invariant next)
    (conserved :
      ∀ state event,
        invariant state → guard state event →
          Conserves step held taken given state event)
    {start finish : State} {events : List Event}
    (initially : invariant start)
    (met : StepsMeet step guard start events)
    (ran : run step start events = some finish) :
    held start ++ collected step taken start events =
      collected step given start events ++ held finish := by
  induction events generalizing start with
  | nil =>
      cases ran
      simp [collected]
  | cons event rest induction =>
      rcases Option.bind_eq_some_iff.mp ran with ⟨next, stepped, ranRest⟩
      have onStep := conserved start event initially met.1 next stepped
      have onRest :=
        induction (preserved start event next initially met.1 stepped)
          (met.2 next stepped) ranRest
      simp only [collected, stepped, Option.elim_some]
      calc
        held start ++
              (taken start event ++ collected step taken next rest)
            = given start event ++
                (held next ++ collected step taken next rest) := by
              rw [← List.append_assoc, onStep, List.append_assoc]
        _ = given start event ++ collected step given next rest ++
              held finish := by
              rw [onRest, List.append_assoc]

/-- If no step adds an item or changes their order, the run does not either. -/
theorem run_adds_nothing
    (preserved :
      ∀ state event next,
        invariant state → step state event = some next → invariant next)
    (lossy :
      ∀ state event next,
        invariant state → step state event = some next →
          (given state event ++ held next).Sublist
            (held state ++ taken state event))
    {start finish : State} {events : List Event}
    (initially : invariant start)
    (ran : run step start events = some finish) :
    (collected step given start events ++ held finish).Sublist
      (held start ++ collected step taken start events) := by
  induction events generalizing start with
  | nil =>
      cases ran
      simp [collected]
  | cons event rest induction =>
      rcases Option.bind_eq_some_iff.mp ran with ⟨next, stepped, ranRest⟩
      have onStep := lossy start event next initially stepped
      have onRest :=
        induction (preserved start event next initially stepped) ranRest
      simp only [collected, stepped, Option.elim_some, List.append_assoc]
      refine (onRest.append_left (given start event)).trans ?_
      rw [← List.append_assoc, ← List.append_assoc]
      exact onStep.append_right _

end Runs

end YkbFirmware.Library.Conservation
