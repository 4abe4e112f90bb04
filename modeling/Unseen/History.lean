import Unseen.Machine

namespace EventMachine

/-!
# Machines that remember

What a law says about the past of a run need not be in the machine's state.  A
machine can be run together with a record of what has happened so far: the
record sees every step and has no influence on any.
-/

variable {State Event History : Type}

namespace Machine

/-- A machine whose states carry a record of the run. -/
def remember
    (machine : Machine State Event)
    (record : History → State → Event → History) : Machine (State × History) Event where
  enabled remembered event := machine.enabled remembered.1 event
  step remembered event :=
    (machine.step remembered.1 event, record remembered.2 remembered.1 event)

variable
  {machine : Machine State Event}
  {record : History → State → Event → History}
  {initial : State → Prop}
  {allowed : State → Event → Prop}

/-- The record has no influence on the run. -/
theorem run_remember (state : State) (history : History) (events : List Event) :
    ((machine.remember record).run (state, history) events).1 = machine.run state events := by
  induction events generalizing state history with
  | nil => rfl
  | cons event rest inductionHypothesis =>
      exact inductionHypothesis (machine.step state event) (record history state event)

/-- The record has no influence on what can happen. -/
theorem legal_remember {state : State} {history : History} {events : List Event} :
    (machine.remember record).Legal (fun remembered => allowed remembered.1) (state, history)
        events ↔
      machine.Legal allowed state events := by
  induction events generalizing state history with
  | nil => exact Iff.rfl
  | cons event rest inductionHypothesis =>
      exact and_congr Iff.rfl (and_congr Iff.rfl inductionHypothesis)

/-- A remembered state is reached in a run of the machine itself. -/
theorem Reachable.forget
    {state : State × History}
    {start : History}
    {permitted : State × History → Event → Prop}
    (reachable :
      (machine.remember record).Reachable (fun first => initial first.1 ∧ first.2 = start)
        permitted state) :
    machine.Reachable initial anyStep state.1 := by
  induction reachable with
  | start isInitial => exact .start isInitial.1
  | next _ isEnabled _ inductionHypothesis => exact .next inductionHypothesis isEnabled trivial

end Machine

end EventMachine
