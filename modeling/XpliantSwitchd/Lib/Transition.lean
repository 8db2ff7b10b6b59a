import Mathlib.Data.List.Basic

/-!
# Guarded runs of a deterministic transition system

A system is given by its initial states and a total step function.  A guard
restricts which events may meet which states, so a guarded run is a run whose
environment keeps the guard at every step.  The invariant rules below are the
only inductions over runs in this development.
-/

namespace XpliantSwitchd
namespace Transition

variable {State Event : Type*}

/-- States reached from an initial state by events that satisfy the guard in
the state they meet. -/
inductive Reach
    (initial : State → Prop)
    (guard : State → Event → Prop)
    (step : State → Event → State) : State → Prop
  | start {state : State} : initial state → Reach initial guard step state
  | next {state : State} {event : Event} :
      Reach initial guard step state → guard state event →
      Reach initial guard step (step state event)

/-- Execute a list of events from a state. -/
def run (step : State → Event → State) (state : State) (events : List Event) :
    State :=
  events.foldl step state

@[simp] theorem run_nil (step : State → Event → State) (state : State) :
    run step state [] = state := rfl

@[simp] theorem run_cons
    (step : State → Event → State)
    (state : State)
    (event : Event)
    (events : List Event) :
    run step state (event :: events) = run step (step state event) events := rfl

/-- A property that every step preserves survives every run. -/
theorem run_invariant
    {step : State → Event → State}
    (property : State → Prop)
    (preserved : ∀ state event, property state → property (step state event))
    {state : State}
    (holds : property state)
    (events : List Event) :
    property (run step state events) := by
  induction events generalizing state with
  | nil => exact holds
  | cons event events inductionHypothesis =>
      exact inductionHypothesis (preserved state event holds)

/-- Every event of a list satisfies the guard in the state it meets. -/
def Guarded (guard : State → Event → Prop) (step : State → Event → State) :
    State → List Event → Prop
  | _, [] => True
  | state, event :: events =>
      guard state event ∧ Guarded guard step (step state event) events

/-- Two guards that agree where an invariant holds, which steps that they let
through preserve, let the same runs through. -/
theorem guarded_iff_of_invariant
    {guard other : State → Event → Prop}
    {step : State → Event → State}
    (property : State → Prop)
    (agree : ∀ state event, property state → (guard state event ↔ other state event))
    (preserved : ∀ state event, property state → other state event →
      property (step state event))
    {state : State}
    (holds : property state)
    (events : List Event) :
    Guarded guard step state events ↔ Guarded other step state events := by
  induction events generalizing state with
  | nil => exact Iff.rfl
  | cons event events inductionHypothesis =>
      unfold Guarded
      rw [agree state event holds]
      apply and_congr_right
      intro passed
      exact inductionHypothesis (preserved state event holds passed)

namespace Reach

variable {initial : State → Prop} {guard : State → Event → Prop}
  {step : State → Event → State}

/-- A property of the initial states that every guarded step preserves holds
in every reached state. -/
theorem invariant
    (property : State → Prop)
    (base : ∀ state, initial state → property state)
    (preserved : ∀ state event, property state → guard state event →
      property (step state event))
    {state : State}
    (reached : Reach initial guard step state) :
    property state := by
  induction reached with
  | start isInitial => exact base _ isInitial
  | next _ guarded inductionHypothesis =>
      exact preserved _ _ inductionHypothesis guarded

/-- A list of events that keep the guard is a run. -/
theorem of_run
    {state : State}
    (reached : Reach initial guard step state)
    {events : List Event}
    (guarded : Guarded guard step state events) :
    Reach initial guard step (run step state events) := by
  induction events generalizing state with
  | nil => exact reached
  | cons event events inductionHypothesis =>
      exact inductionHypothesis (.next reached guarded.1) guarded.2

end Reach

end Transition
end XpliantSwitchd
