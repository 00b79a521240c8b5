import Mathlib.Tactic.SplitIfs
import YkbFirmware.Library.Conservation

/-!
# A queue drained by a work item

Items are put into a bounded queue, and a work item is submitted after each of
them.  The handler of the work item takes items until it finds the queue
empty.  A submission while the work item waits is dropped; one while it runs
makes it run again.

The item put after the handler has found the queue empty is not lost: its
submission comes later than the queue was empty, so that the handler runs once
more.  When nothing is under way, the queue is empty.
-/

namespace YkbFirmware.Library.DrainedQueue

open YkbFirmware.Library.TransitionSystem
open YkbFirmware.Library.Conservation

universe u

variable {Item : Type u}

/-- How far the handler is. -/
inductive Drain where
  | resting
  | taking
  | emptied
deriving DecidableEq, Repr

structure DrainState (Item : Type u) where
  held : List Item
  /-- An item was put in, and the submission is still to come. -/
  submits : Bool
  /-- The work item waits. -/
  queued : Bool
  handler : Drain

def DrainState.initial : DrainState Item where
  held := []
  submits := false
  queued := false
  handler := .resting

inductive DrainEvent (Item : Type u) where
  | put (item : Item)
  | submit
  | begin
  | get
  | finish

/-- Puts fail when the queue is full. -/
def drainStep (capacity : Nat) (state : DrainState Item) :
    DrainEvent Item → Option (DrainState Item)
  | .put item =>
      if state.submits then
        none
      else if state.held.length < capacity then
        some
          { state with
            held := state.held ++ [item]
            submits := true }
      else
        some state
  | .submit =>
      if state.submits then
        some
          { state with
            submits := false
            queued := true }
      else
        none
  | .begin =>
      if state.queued = true ∧ state.handler = .resting then
        some
          { state with
            queued := false
            handler := .taking }
      else
        none
  | .get =>
      if state.handler = .taking then
        match state.held with
        | [] => some { state with handler := .emptied }
        | _ :: rest => some { state with held := rest }
      else
        none
  | .finish =>
      if state.handler = .emptied then
        some { state with handler := .resting }
      else
        none

/-- The items a step puts in. -/
def taken (capacity : Nat) (state : DrainState Item) :
    DrainEvent Item → List Item
  | .put item => if state.held.length < capacity then [item] else []
  | _ => []

/-- The items a step takes out. -/
def given (state : DrainState Item) : DrainEvent Item → List Item
  | .get => state.held.head?.toList
  | _ => []

/-- Nothing is under way. -/
structure Settled (state : DrainState Item) : Prop where
  submits : state.submits = false
  queued : state.queued = false
  handler : state.handler = .resting

/-- What is held will be looked at again. -/
def Announced (state : DrainState Item) : Prop :=
  state.held ≠ [] →
    state.submits = true ∨ state.queued = true ∨ state.handler = .taking

section Steps

variable {capacity : Nat} {state next : DrainState Item}
variable {event : DrainEvent Item}

theorem announced_step
    (announced : Announced state)
    (stepped : drainStep capacity state event = some next) :
    Announced next := by
  cases event with
  | put item =>
      rw [drainStep] at stepped
      split_ifs at stepped
      · cases stepped
        exact fun _ => .inl rfl
      · cases stepped
        exact announced
  | submit =>
      rw [drainStep] at stepped
      split_ifs at stepped
      cases stepped
      exact fun _ => .inr (.inl rfl)
  | begin =>
      rw [drainStep] at stepped
      split_ifs at stepped
      cases stepped
      exact fun _ => .inr (.inr rfl)
  | get =>
      rw [drainStep] at stepped
      split_ifs at stepped with taking
      cases held : state.held with
      | nil =>
          rw [held] at stepped
          cases stepped
          exact fun some => absurd rfl some
      | cons item rest =>
          rw [held] at stepped
          cases stepped
          exact fun _ => .inr (.inr taking)
  | finish =>
      rw [drainStep] at stepped
      split_ifs at stepped with emptied
      cases stepped
      intro some
      rcases announced some with submits | queued | taking
      · exact .inl submits
      · exact .inr (.inl queued)
      · rw [emptied] at taking
        cases taking

/-- What is announced has been taken once nothing is under way. -/
theorem held_eq_nil
    (announced : Announced state) (settled : Settled state) :
    state.held = [] := by
  by_contra some
  rcases announced some with submits | queued | taking
  · rw [settled.submits] at submits
    cases submits
  · rw [settled.queued] at queued
    cases queued
  · rw [settled.handler] at taking
    cases taking

theorem conserves_step (state : DrainState Item) (event : DrainEvent Item) :
    Conserves (drainStep capacity) DrainState.held (taken capacity) given
      state event := by
  intro next stepped
  cases event with
  | put item =>
      rw [drainStep] at stepped
      split_ifs at stepped with submits room
      · cases stepped
        simp [taken, given, room]
      · cases stepped
        simp [taken, given, room]
  | submit =>
      rw [drainStep] at stepped
      split_ifs at stepped
      cases stepped
      simp [taken, given]
  | begin =>
      rw [drainStep] at stepped
      split_ifs at stepped
      cases stepped
      simp [taken, given]
  | get =>
      rw [drainStep] at stepped
      split_ifs at stepped
      cases held : state.held with
      | nil =>
          rw [held] at stepped
          cases stepped
          simp [taken, given, held]
      | cons item rest =>
          rw [held] at stepped
          cases stepped
          simp [taken, given, held]
  | finish =>
      rw [drainStep] at stepped
      split_ifs at stepped
      cases stepped
      simp [taken, given]

end Steps

theorem announced_initial : Announced (.initial : DrainState Item) :=
  fun some => absurd rfl some

end YkbFirmware.Library.DrainedQueue
