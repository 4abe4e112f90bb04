/-!
# Loops

A loop takes turns: each goes on with another state, or leaves with a result.
A program counts its turns down instead; where every turn decreases a measure,
both come to the same.
-/

namespace Loop

variable {State Result : Type} {turn : State → State ⊕ Result}

/-- From a state, the loop leaves with a result after finitely many turns. -/
inductive Ends (turn : State → State ⊕ Result) : State → Result → Prop where
  | leave {state : State} {result : Result}
      (leaves : turn state = .inr result) : Ends turn state result
  | goOn {state next : State} {result : Result}
      (goesOn : turn state = .inl next)
      (ends : Ends turn next result) : Ends turn state result

/-- The loop, given up after so many turns. -/
def run (turn : State → State ⊕ Result) (giveUp : State → Result) : Nat → State → Result
  | 0, state => giveUp state
  | fuel + 1, state =>
      match turn state with
      | .inl next => run turn giveUp fuel next
      | .inr result => result

theorem run_of_goesOn
    {giveUp : State → Result}
    {fuel : Nat}
    {state next : State}
    (goesOn : turn state = .inl next) :
    run turn giveUp (fuel + 1) state = run turn giveUp fuel next := by
  rw [run, goesOn]

theorem run_of_leaves
    {giveUp : State → Result}
    {fuel : Nat}
    {state : State}
    {result : Result}
    (leaves : turn state = .inr result) :
    run turn giveUp (fuel + 1) state = result := by
  rw [run, leaves]

/-- A loop in which every turn decreases a measure, and that leaves when the measure
is used up, is never given up while it has as many turns as the measure. -/
theorem ends_run
    {giveUp : State → Result}
    (measure : State → Nat)
    (decreases : ∀ state next, turn state = .inl next → measure next < measure state)
    (leaves : ∀ state, measure state = 0 → turn state = .inr (giveUp state))
    {fuel : Nat}
    {state : State}
    (enough : measure state ≤ fuel) :
    Ends turn state (run turn giveUp fuel state) := by
  induction fuel generalizing state with
  | zero => exact .leave (leaves state (Nat.le_zero.mp enough))
  | succ fuel ih =>
      cases isTurn : turn state with
      | inl next =>
          have isLess := decreases state next isTurn
          rw [run_of_goesOn isTurn]
          exact .goOn isTurn (ih (by omega))
      | inr result =>
          rw [run_of_leaves isTurn]
          exact .leave isTurn

theorem Ends.of_goesOn
    {state next : State}
    {result : Result}
    (goesOn : turn state = .inl next)
    (ends : Ends turn state result) :
    Ends turn next result := by
  cases ends with
  | leave leaves =>
      rw [goesOn] at leaves
      cases leaves
  | goOn isNext ends =>
      rw [goesOn] at isNext
      cases isNext
      exact ends

theorem Ends.of_leaves
    {state : State}
    {result left : Result}
    (leaves : turn state = .inr left)
    (ends : Ends turn state result) :
    result = left := by
  cases ends with
  | leave isLeft =>
      rw [leaves] at isLeft
      cases isLeft
      rfl
  | goOn goesOn _ =>
      rw [leaves] at goesOn
      cases goesOn

/-- What every turn keeps, and what leaving makes of it, holds of the result. -/
theorem Ends.induct
    {state : State}
    {result : Result}
    (ends : Ends turn state result)
    (Invariant : State → Prop)
    (Post : Result → Prop)
    (keeps : ∀ state next, Invariant state → turn state = .inl next → Invariant next)
    (finishes : ∀ state result, Invariant state → turn state = .inr result → Post result)
    (start : Invariant state) :
    Post result := by
  induction ends with
  | leave leaves => exact finishes _ _ start leaves
  | goOn goesOn _ ih => exact ih (keeps _ _ start goesOn)

/-- A loop leaves with one result only. -/
theorem Ends.unique
    {state : State}
    {result other : Result}
    (ends : Ends turn state result)
    (endsToo : Ends turn state other) :
    result = other := by
  induction ends with
  | leave leaves => exact (endsToo.of_leaves leaves).symm
  | goOn goesOn _ ih => exact ih (endsToo.of_goesOn goesOn)

/-- A loop that takes the same turns in another representation ends with the same
result there. -/
theorem Ends.map
    {State' Result' : Type}
    {turn' : State' → State' ⊕ Result'}
    (onState : State → State')
    (onResult : Result → Result')
    (Invariant : State → Prop)
    (keeps : ∀ state next, Invariant state → turn state = .inl next → Invariant next)
    (same : ∀ state, Invariant state →
      turn' (onState state) = (turn state).map onState onResult)
    {state : State}
    {result : Result}
    (start : Invariant state)
    (ends : Ends turn state result) :
    Ends turn' (onState state) (onResult result) := by
  induction ends with
  | @leave state result leaves =>
      apply Ends.leave
      rw [same state start, leaves]
      rfl
  | @goOn state next result goesOn _ ih =>
      refine .goOn ?_ (ih (keeps state next start goesOn))
      rw [same state start, goesOn]
      rfl

end Loop
