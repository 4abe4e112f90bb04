import Unseen.Machine
import Unseen.Send

namespace Unseen

/-!
# Runs of the counter allocator

The allocator reserves and persists counters before it hands them out, in blocks
whose size depends on the frame that asks.  Whatever frames ask and whichever
writes fail, it hands out one counter after the other, never one above a bound
that was persisted, and a failed write leaves both counters alone.
-/

variable {Store : Type}

/-- Persisting with a record of the last bound whose write succeeded. -/
def recordPersisted (persist : PersistCounter Store) : PersistCounter (Store × Option Nat) :=
  fun recorded bound =>
    match persist recorded.1 bound with
    | (stored, true) => ((stored, some bound), true)
    | (stored, false) => ((stored, recorded.2), false)

/-- The counters and their store, the bound persisted last, and the counters returned. -/
structure Allocation (Store : Type) where
  recorded : Store × Option Nat
  state : SendState
  returned : List Nat

namespace Allocation

/-- One call; a call that throws returns no counter. -/
def allocate
    (persistCounterReserved : Option (PersistCounter Store))
    (allocation : Allocation Store)
    (kind : RelayKind) : Allocation Store :=
  match allocateCounter (persistCounterReserved.map recordPersisted) allocation.recorded
      allocation.state kind with
  | (recorded, state, counter) =>
      { recorded, state, returned := allocation.returned ++ counter.toList }

/-- The allocator, one call a step. -/
def machine (persistCounterReserved : Option (PersistCounter Store)) :
    EventMachine.Machine (Allocation Store) RelayKind where
  enabled _ _ := True
  step := allocate persistCounterReserved

/-- Both counters are at `start`, and no call was made. -/
def Fresh (start : Nat) (allocation : Allocation Store) : Prop :=
  allocation.state.counterCommitted = start ∧ allocation.state.counterReserved = start ∧
    allocation.recorded.2 = none ∧ allocation.returned = []

/-- The write of the next bound throws. -/
def PersistThrows
    (persistCounterReserved : Option (PersistCounter Store))
    (allocation : Allocation Store)
    (kind : RelayKind) : Prop :=
  allocation.state.counterReserved ≤ allocation.state.counterCommitted ∧
    ∃ persist ∈ persistCounterReserved,
      (persist allocation.recorded.1
        (allocation.state.counterReserved + blockSizeFor kind)).2 = false

/-- What the counters and the record have to do with each other. -/
structure Balanced (start : Nat) (persists : Bool) (allocation : Allocation Store) : Prop where
  returned : allocation.returned = List.range' (start + 1) allocation.returned.length
  committed : allocation.state.counterCommitted = start + allocation.returned.length
  window : allocation.state.counterCommitted ≤ allocation.state.counterReserved ∧
    allocation.state.counterReserved ≤ allocation.state.counterCommitted + 63
  persisted : persists = true →
    allocation.recorded.2 = some allocation.state.counterReserved ∨
      allocation.state.counterReserved = start

variable
  {persistCounterReserved : Option (PersistCounter Store)}
  {allocation after : Allocation Store}
  {kind : RelayKind}
  {start : Nat}

theorem blockSizeFor_le (kind : RelayKind) : blockSizeFor kind ≤ 64 := by
  cases kind <;> decide

/-- What a call does: it hands out a reserved counter, or reserves a block first, or throws. -/
inductive Allocates
    (persistCounterReserved : Option (PersistCounter Store))
    (allocation : Allocation Store)
    (kind : RelayKind) : Allocation Store → Prop where
  | reserved :
      allocation.state.counterCommitted < allocation.state.counterReserved →
      Allocates persistCounterReserved allocation kind
        { allocation with
          state :=
            { allocation.state with
              counterCommitted := allocation.state.counterCommitted + 1 }
          returned := allocation.returned ++ [allocation.state.counterCommitted + 1] }
  | reserves (recorded : Store × Option Nat) :
      allocation.state.counterReserved ≤ allocation.state.counterCommitted →
      (persistCounterReserved.isSome = true →
        recorded.2 = some (allocation.state.counterReserved + blockSizeFor kind)) →
      ¬ PersistThrows persistCounterReserved allocation kind →
      Allocates persistCounterReserved allocation kind
        { recorded
          state :=
            { allocation.state with
              counterCommitted := allocation.state.counterCommitted + 1
              counterReserved := allocation.state.counterReserved + blockSizeFor kind }
          returned := allocation.returned ++ [allocation.state.counterCommitted + 1] }
  | throws (stored : Store) :
      PersistThrows persistCounterReserved allocation kind →
      Allocates persistCounterReserved allocation kind
        { allocation with recorded := (stored, allocation.recorded.2) }

theorem recordPersisted_true
    {persist : PersistCounter Store}
    {recorded after : Store × Option Nat}
    {bound : Nat}
    (isPersisted : recordPersisted persist recorded bound = (after, true)) :
    after.2 = some bound ∧ (persist recorded.1 bound).2 = true := by
  unfold recordPersisted at isPersisted
  split at isPersisted
  next stored isStored =>
    cases isPersisted
    exact ⟨rfl, by rw [isStored]⟩
  next => cases isPersisted

theorem recordPersisted_false
    {persist : PersistCounter Store}
    {recorded after : Store × Option Nat}
    {bound : Nat}
    (isPersisted : recordPersisted persist recorded bound = (after, false)) :
    after.2 = recorded.2 ∧ (persist recorded.1 bound).2 = false := by
  unfold recordPersisted at isPersisted
  split at isPersisted
  next => cases isPersisted
  next stored isStored =>
    cases isPersisted
    exact ⟨rfl, by rw [isStored]⟩

theorem allocate_spec (allocation : Allocation Store) (kind : RelayKind) :
    Allocates persistCounterReserved allocation kind
      (allocation.allocate persistCounterReserved kind) := by
  unfold allocate
  rcases allocateCounter_cases (persistCounterReserved.map recordPersisted) allocation.recorded
      allocation.state kind with
    ⟨isReserved, isCall⟩ | ⟨isExhausted, ⟨recorded, isPersisted, isCall⟩ |
      ⟨recorded, persist, isPersist, isThrown, isCall⟩⟩
  · rw [isCall]
    exact .reserved isReserved
  · rw [isCall]
    cases isPersistence : persistCounterReserved with
    | none =>
        refine .reserves recorded isExhausted (fun isSome => nomatch isSome) ?_
        rintro ⟨_, _, isPersist, _⟩
        cases isPersist
    | some original =>
        rw [isPersistence] at isPersisted
        rcases isPersisted with ⟨isNone, _⟩ | ⟨persist, isPersist, hasPersisted⟩
        · cases isNone
        · cases isPersist
          obtain ⟨isRecorded, succeeds⟩ := recordPersisted_true hasPersisted
          refine .reserves recorded isExhausted (fun _ => isRecorded) ?_
          rintro ⟨_, _, isPersist, fails⟩
          cases isPersist
          rw [succeeds] at fails
          cases fails
  · obtain ⟨original, isOriginal, rfl⟩ := Option.map_eq_some_iff.mp isPersist
    obtain ⟨isRecorded, fails⟩ := recordPersisted_false isThrown
    rw [isCall]
    have throws : Allocates persistCounterReserved allocation kind
        { allocation with recorded := (recorded.1, allocation.recorded.2) } :=
      .throws recorded.1 ⟨isExhausted, original, isOriginal, fails⟩
    rw [← isRecorded] at throws
    dsimp only
    rw [Option.toList_none, List.append_nil]
    exact throws

/-- A call that throws changes no counter and returns none. -/
theorem Allocates.kept
    (allocates : Allocates persistCounterReserved allocation kind after)
    (throws : PersistThrows persistCounterReserved allocation kind) :
    after.state = allocation.state ∧ after.returned = allocation.returned := by
  cases allocates with
  | reserved isReserved => exact absurd throws.1 (Nat.not_le.mpr isReserved)
  | reserves _ _ _ succeeds => exact absurd throws succeeds
  | throws => exact ⟨rfl, rfl⟩

/-- A call that does not throw returns the next counter. -/
theorem Allocates.returned
    (allocates : Allocates persistCounterReserved allocation kind after)
    (succeeds : ¬ PersistThrows persistCounterReserved allocation kind) :
    after.returned = allocation.returned ++ [allocation.state.counterCommitted + 1] := by
  cases allocates with
  | reserved | reserves => rfl
  | throws _ throws => exact absurd throws succeeds

theorem Allocates.balanced
    (allocates : Allocates persistCounterReserved allocation kind after)
    (balanced : allocation.Balanced start persistCounterReserved.isSome) :
    after.Balanced start persistCounterReserved.isSome := by
  obtain ⟨returned, committed, ⟨below, near⟩, persisted⟩ := balanced
  have appended : ∀ counter, counter = start + allocation.returned.length + 1 →
      allocation.returned ++ [counter] =
        List.range' (start + 1) (allocation.returned ++ [counter]).length := by
    intro counter isNext
    rw [List.length_append, List.length_singleton, List.range'_1_concat, ← returned, isNext,
      Nat.add_right_comm]
  cases allocates with
  | reserved isReserved =>
      refine ⟨appended _ (by rw [committed]), ?_, ⟨isReserved, ?_⟩, persisted⟩
      · rw [List.length_append, List.length_singleton, committed, Nat.add_assoc]
      · exact Nat.le_succ_of_le near
  | reserves recorded isExhausted isRecorded =>
      have blockPos := blockSizeFor_pos kind
      have blockLe := blockSizeFor_le kind
      refine ⟨appended _ (by rw [committed]), ?_, ⟨?_, ?_⟩, fun persists =>
        .inl (isRecorded persists)⟩
      · rw [List.length_append, List.length_singleton, committed, Nat.add_assoc]
      · exact Nat.add_le_add below blockPos
      · have same : allocation.state.counterReserved = allocation.state.counterCommitted :=
          Nat.le_antisymm isExhausted below
        change allocation.state.counterReserved + blockSizeFor kind ≤
          allocation.state.counterCommitted + 1 + 63
        rw [same, Nat.add_assoc]
        exact Nat.add_le_add_left blockLe _
  | throws stored => exact ⟨returned, committed, ⟨below, near⟩, persisted⟩

theorem balanced_of_reachable
    (reachable : (machine persistCounterReserved).Reachable (Fresh start)
      EventMachine.Machine.anyStep allocation) :
    allocation.Balanced start persistCounterReserved.isSome := by
  refine reachable.invariant ?_ fun allocation kind balanced _ _ =>
    (allocate_spec allocation kind).balanced balanced
  rintro ⟨_, state, _⟩ ⟨committed, reserved, _, rfl⟩
  refine ⟨rfl, committed, ⟨?_, ?_⟩, fun _ => .inr reserved⟩
  · exact Nat.le_of_eq (committed.trans reserved.symm)
  · rw [committed, reserved]
    exact Nat.le_add_right _ _

/-- What the allocator guarantees after some calls, and for the next one. -/
structure Lawful
    (start : Nat)
    (persistCounterReserved : Option (PersistCounter Store))
    (allocation : Allocation Store) : Prop where
  consecutive : allocation.returned = List.range' (start + 1) allocation.returned.length
  committed_le : allocation.state.counterCommitted ≤ allocation.state.counterReserved
  reserved_le : allocation.state.counterReserved ≤ allocation.state.counterCommitted + 63
  persisted : persistCounterReserved.isSome = true → ∀ counter ∈ allocation.returned,
    ∃ bound, allocation.recorded.2 = some bound ∧ counter ≤ bound
  atomic : ∀ kind, PersistThrows persistCounterReserved allocation kind →
    (allocation.allocate persistCounterReserved kind).state = allocation.state ∧
      (allocation.allocate persistCounterReserved kind).returned = allocation.returned
  returns : ∀ kind, ¬ PersistThrows persistCounterReserved allocation kind →
    (allocation.allocate persistCounterReserved kind).returned =
      allocation.returned ++ [allocation.state.counterCommitted + 1]

/--
For every sequence of calls of any kinds, and whichever writes throw, counters
are handed out consecutively and below the bound persisted last, at most
sixty-three are reserved ahead, and a call that throws changes no counter.
-/
theorem allocator_lawful
    (reachable : (machine persistCounterReserved).Reachable (Fresh start)
      EventMachine.Machine.anyStep allocation) :
    allocation.Lawful start persistCounterReserved := by
  have balanced := balanced_of_reachable reachable
  refine ⟨balanced.returned, balanced.window.1, balanced.window.2, ?_, ?_, ?_⟩
  · intro persists counter isReturned
    rw [balanced.returned, List.mem_range'_1] at isReturned
    have committed := balanced.committed
    have below := balanced.window.1
    rcases balanced.persisted persists with isRecorded | isStart
    · exact ⟨_, isRecorded, by omega⟩
    · omega
  · exact fun kind throws => (allocate_spec allocation kind).kept throws
  · exact fun kind succeeds => (allocate_spec allocation kind).returned succeeds

/-- A store whose quota suffices for bounds up to sixty. -/
def Sample.persist : PersistCounter Unit :=
  fun store bound => (store, bound ≤ 60)

/-- Both counters are at five. -/
def Sample.fresh : Allocation Unit where
  recorded := ((), none)
  state :=
    { counterCommitted := 5
      counterReserved := 5
      role := .initiator
      sessionKey := .handshake { device := 0, serial := 0 } { device := 1, serial := 0 } }
  returned := []

/-- A text is sent, the block of a chunk cannot be written, and the next text is sent. -/
theorem allocator_lawful_in_sample :
    ((machine (some Sample.persist)).run Sample.fresh [.msg, .chunk, .msg]).Lawful 5
        (some Sample.persist) ∧
      ((machine (some Sample.persist)).run Sample.fresh [.msg, .chunk, .msg]).returned = [6, 7] :=
  ⟨allocator_lawful
      (.run (.start ⟨rfl, rfl, rfl, rfl⟩)
        ⟨trivial, trivial, trivial, trivial, trivial, trivial, trivial⟩),
    by decide⟩

end Allocation

end Unseen
