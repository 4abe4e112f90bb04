import Mathlib.Data.List.Basic

namespace EventMachine

/-!
# Deterministic event machines

A system that reacts to one event at a time is a step function together with
a predicate saying which events can occur in a state.  All nondeterminism is
in the events: the environment chooses which enabled event comes next and
which outcome it carries.

Runs can be restricted by a further predicate on the steps taken, so that a
law that holds only in runs whose steps meet a condition is stated with the
same vocabulary as an unconditional one.
-/

/-- A step function together with the events that can occur in each state. -/
structure Machine (State : Type) (Event : Type) where
  enabled : State → Event → Prop
  step : State → Event → State

variable {State Event : Type}

namespace Machine

/-- The condition that admits every step. -/
def anyStep : State → Event → Prop :=
  fun _ _ => True

instance (state : State) (event : Event) : Decidable (anyStep state event) :=
  inferInstanceAs (Decidable True)

/-- The state after handling a list of events in order. -/
def run (machine : Machine State Event) : State → List Event → State
  | state, [] => state
  | state, event :: rest => machine.run (machine.step state event) rest

/-- Every event of the list is enabled, and allowed, in the state it occurs in. -/
def Legal
    (machine : Machine State Event)
    (allowed : State → Event → Prop) : State → List Event → Prop
  | _, [] => True
  | state, event :: rest =>
      machine.enabled state event ∧
        allowed state event ∧
        machine.Legal allowed (machine.step state event) rest

instance decidableLegal
    (machine : Machine State Event)
    (allowed : State → Event → Prop)
    [∀ state event, Decidable (machine.enabled state event)]
    [∀ state event, Decidable (allowed state event)] :
    ∀ state events, Decidable (machine.Legal allowed state events)
  | _, [] => inferInstanceAs (Decidable True)
  | state, event :: rest =>
      have := decidableLegal machine allowed (machine.step state event) rest
      inferInstanceAs
        (Decidable
          (machine.enabled state event ∧
            allowed state event ∧
            machine.Legal allowed (machine.step state event) rest))

/-- The states a machine can reach from its initial states by allowed steps. -/
inductive Reachable
    (machine : Machine State Event)
    (initial : State → Prop)
    (allowed : State → Event → Prop) : State → Prop where
  | start {state : State} :
      initial state → machine.Reachable initial allowed state
  | next {state : State} {event : Event} :
      machine.Reachable initial allowed state →
      machine.enabled state event →
      allowed state event →
      machine.Reachable initial allowed (machine.step state event)

/-- Observations made of the states entered by a list of events, in order. -/
def observations
    {Observation : Type}
    (machine : Machine State Event)
    (observe : State → List Observation) : State → List Event → List Observation
  | _, [] => []
  | state, event :: rest =>
      observe (machine.step state event) ++
        machine.observations observe (machine.step state event) rest

variable
  {machine : Machine State Event}
  {initial : State → Prop}
  {allowed : State → Event → Prop}

theorem run_append
    (state : State)
    (first second : List Event) :
    machine.run state (first ++ second) =
      machine.run (machine.run state first) second := by
  induction first generalizing state with
  | nil => rfl
  | cons event rest inductionHypothesis =>
      exact inductionHypothesis (machine.step state event)

theorem legal_append
    {state : State}
    {first second : List Event} :
    machine.Legal allowed state (first ++ second) ↔
      machine.Legal allowed state first ∧
        machine.Legal allowed (machine.run state first) second := by
  induction first generalizing state with
  | nil => simp [Legal, run]
  | cons event rest inductionHypothesis =>
      simp only [List.cons_append, Legal, run, inductionHypothesis, and_assoc]

theorem observations_append
    {Observation : Type}
    (observe : State → List Observation)
    (state : State)
    (first second : List Event) :
    machine.observations observe state (first ++ second) =
      machine.observations observe state first ++
        machine.observations observe (machine.run state first) second := by
  induction first generalizing state with
  | nil => rfl
  | cons event rest inductionHypothesis =>
      simp only [List.cons_append, observations, run, inductionHypothesis,
        List.append_assoc]

/-- A weaker condition on steps admits every run of a stronger one. -/
theorem Legal.mono
    {wider : State → Event → Prop}
    (weaker : ∀ state event, allowed state event → wider state event)
    {state : State}
    {events : List Event}
    (legal : machine.Legal allowed state events) :
    machine.Legal wider state events := by
  induction events generalizing state with
  | nil => exact trivial
  | cons event rest inductionHypothesis =>
      exact ⟨legal.1, weaker _ _ legal.2.1, inductionHypothesis legal.2.2⟩

/-- A predicate preserved by every allowed step holds after every legal run. -/
theorem Legal.invariant
    (Inv : State → Prop)
    (preserved : ∀ state event,
      Inv state → machine.enabled state event → allowed state event →
        Inv (machine.step state event))
    {state : State}
    {events : List Event}
    (legal : machine.Legal allowed state events)
    (holds : Inv state) :
    Inv (machine.run state events) := by
  induction events generalizing state with
  | nil => exact holds
  | cons event rest inductionHypothesis =>
      exact inductionHypothesis legal.2.2
        (preserved state event holds legal.1 legal.2.1)

/--
A predicate preserved by every allowed step, and under which every step makes
only good observations, makes all observations of a legal run good.
-/
theorem Legal.observations_good
    {Observation : Type}
    (observe : State → List Observation)
    (Good : Observation → Prop)
    (Inv : State → Prop)
    (preserved : ∀ state event,
      Inv state → machine.enabled state event → allowed state event →
        Inv (machine.step state event) ∧
          ∀ observation ∈ observe (machine.step state event), Good observation)
    {state : State}
    {events : List Event}
    (legal : machine.Legal allowed state events)
    (holds : Inv state) :
    ∀ observation ∈ machine.observations observe state events,
      Good observation := by
  induction events generalizing state with
  | nil => simp [observations]
  | cons event rest inductionHypothesis =>
      obtain ⟨holdsAfter, goodNow⟩ := preserved state event holds legal.1 legal.2.1
      intro observation member
      rcases List.mem_append.mp member with now | later
      · exact goodNow observation now
      · exact inductionHypothesis legal.2.2 holdsAfter observation later

/-- The invariant rule for reachable states. -/
theorem Reachable.invariant
    {Inv : State → Prop}
    (initially : ∀ state, initial state → Inv state)
    (preserved : ∀ state event,
      Inv state → machine.enabled state event → allowed state event →
        Inv (machine.step state event))
    {state : State}
    (reachable : machine.Reachable initial allowed state) :
    Inv state := by
  induction reachable with
  | start isInitial => exact initially _ isInitial
  | next _ isEnabled isAllowed inductionHypothesis =>
      exact preserved _ _ inductionHypothesis isEnabled isAllowed

/-- A legal run from a reachable state ends in a reachable state. -/
theorem Reachable.run
    {state : State}
    {events : List Event}
    (reachable : machine.Reachable initial allowed state)
    (legal : machine.Legal allowed state events) :
    machine.Reachable initial allowed (machine.run state events) :=
  Legal.invariant (machine.Reachable initial allowed)
    (fun _ _ holds isEnabled isAllowed => .next holds isEnabled isAllowed)
    legal reachable

/-- A weaker condition on steps reaches at least the same states. -/
theorem Reachable.mono
    {wider : State → Event → Prop}
    (weaker : ∀ state event, allowed state event → wider state event)
    {state : State}
    (reachable : machine.Reachable initial allowed state) :
    machine.Reachable initial wider state := by
  induction reachable with
  | start isInitial => exact .start isInitial
  | next _ isEnabled isAllowed inductionHypothesis =>
      exact .next inductionHypothesis isEnabled (weaker _ _ isAllowed)

end Machine

end EventMachine
