import Mathlib.Data.List.Basic

namespace PromiseChain

/-!
# Tasks chained by their promises

Every task that is enqueued waits for the promise of the task before it, however
that one settles, and its own promise is what the next one waits for.  Nothing
else holds a task back: a task starts whenever the promise it waits for has
settled, and runs until it settles.

From this alone it follows that tasks run one at a time and in order.
-/

inductive Status (Result : Type) where
  | waiting
  | running
  | settled (result : Result)
  deriving DecidableEq

namespace Status

variable {Result : Type}

def isSettled : Status Result → Bool
  | .settled _ => true
  | _ => false

def isWaiting : Status Result → Bool
  | .waiting => true
  | _ => false

def isRunning : Status Result → Bool
  | .running => true
  | _ => false

variable {status : Status Result}

theorem not_waiting_of_settled (isSettled : status.isSettled) : ¬status.isWaiting := by
  cases status with
  | settled result => exact nofun
  | waiting | running => cases isSettled

theorem not_running_of_settled (isSettled : status.isSettled) : ¬status.isRunning := by
  cases status with
  | settled result => exact nofun
  | waiting | running => cases isSettled

theorem not_running_of_waiting (isWaiting : status.isWaiting) : ¬status.isRunning := by
  cases status with
  | waiting => exact nofun
  | running | settled => cases isWaiting

end Status

/-- A task, the promise it waits for, and how its own promise stands. -/
structure Entry (Task Result : Type) where
  task : Task
  prev : Option Nat
  status : Status Result

/-- The tasks in the order of their calls, and the promise the next one will wait for. -/
structure Chain (Task Result : Type) where
  entries : List (Entry Task Result)
  last : Option Nat

namespace Chain

variable {Task Result : Type} {chain : Chain Task Result} {index : Nat}
  {entry : Entry Task Result}

def empty : Chain Task Result where
  entries := []
  last := none

def enqueue (chain : Chain Task Result) (task : Task) : Chain Task Result where
  entries := chain.entries ++ [{ task, prev := chain.last, status := .waiting }]
  last := some chain.entries.length

def status? (chain : Chain Task Result) (index : Nat) : Option (Status Result) :=
  (chain.entries[index]?).map Entry.status

def task? (chain : Chain Task Result) (index : Nat) : Option Task :=
  (chain.entries[index]?).map Entry.task

def isSettled (chain : Chain Task Result) (index : Nat) : Bool :=
  (chain.status? index).any Status.isSettled

/-- The task waits, and what it waits for has settled. -/
def mayStart (chain : Chain Task Result) (index : Nat) : Bool :=
  (chain.entries[index]?).any fun entry =>
    entry.status.isWaiting && entry.prev.all chain.isSettled

def isRunning (chain : Chain Task Result) (index : Nat) : Bool :=
  (chain.status? index).any Status.isRunning

def setStatus (chain : Chain Task Result) (index : Nat) (status : Status Result) :
    Chain Task Result :=
  { chain with entries := chain.entries.modify index fun entry => { entry with status } }

/-- The promise of the task before the one at an index. -/
def before : Nat → Option Nat
  | 0 => none
  | index + 1 => some index

/--
The first tasks have settled, all but one of the others wait, and each waits
for its predecessor.
-/
structure Ordered (chain : Chain Task Result) (done : Nat) : Prop where
  bounded : done ≤ chain.entries.length
  last : chain.last = before chain.entries.length
  prev : ∀ (index : Nat) (entry : Entry Task Result),
    chain.entries[index]? = some entry → entry.prev = before index
  settled : ∀ (index : Nat) (entry : Entry Task Result),
    chain.entries[index]? = some entry → index < done → entry.status.isSettled
  current : ∀ entry : Entry Task Result,
    chain.entries[done]? = some entry → entry.status.isSettled = false
  waiting : ∀ (index : Nat) (entry : Entry Task Result),
    chain.entries[index]? = some entry → done < index → entry.status.isWaiting

theorem ordered_empty : (empty : Chain Task Result).Ordered 0 where
  bounded := Nat.le_refl 0
  last := rfl
  prev := nofun
  settled := nofun
  current := nofun
  waiting := nofun

theorem getElem?_enqueue {task : Task}
    (isEntry : (chain.enqueue task).entries[index]? = some entry) :
    chain.entries[index]? = some entry ∨
      (index = chain.entries.length ∧ entry = ⟨task, chain.last, .waiting⟩) := by
  rcases Nat.lt_trichotomy index chain.entries.length with isBefore | rfl | isAfter
  · rw [enqueue, List.getElem?_append_left isBefore] at isEntry
    exact .inl isEntry
  · rw [enqueue, List.getElem?_concat_length] at isEntry
    exact .inr ⟨rfl, (Option.some.inj isEntry).symm⟩
  · rw [enqueue, List.getElem?_eq_none (by simp; omega)] at isEntry
    cases isEntry

theorem Ordered.enqueue {done : Nat} (ordered : chain.Ordered done) (task : Task) :
    (chain.enqueue task).Ordered done where
  bounded := by
    have bounded := ordered.bounded
    simp only [Chain.enqueue, List.length_append, List.length_singleton]
    omega
  last := by simp [Chain.enqueue, before]
  prev := by
    intro index entry isEntry
    rcases getElem?_enqueue isEntry with wasEntry | ⟨rfl, rfl⟩
    · exact ordered.prev index entry wasEntry
    · exact ordered.last
  settled := by
    intro index entry isEntry isDone
    rcases getElem?_enqueue isEntry with wasEntry | ⟨rfl, rfl⟩
    · exact ordered.settled index entry wasEntry isDone
    · exact absurd isDone (Nat.not_lt.mpr ordered.bounded)
  current := by
    intro entry isEntry
    rcases getElem?_enqueue isEntry with wasEntry | ⟨-, rfl⟩
    · exact ordered.current entry wasEntry
    · rfl
  waiting := by
    intro index entry isEntry isLater
    rcases getElem?_enqueue isEntry with wasEntry | ⟨-, rfl⟩
    · exact ordered.waiting index entry wasEntry isLater
    · rfl

/-- Only the first task that has not settled can start. -/
theorem Ordered.eq_of_mayStart
    {done : Nat}
    (ordered : chain.Ordered done)
    (mayStart : chain.mayStart index) :
    index = done := by
  obtain ⟨entry, isEntry, mayStart⟩ := (Option.any_eq_true _ _).mp mayStart
  obtain ⟨isWaiting, prevSettled⟩ := Bool.and_eq_true_iff.mp mayStart
  rcases Nat.lt_trichotomy index done with isDone | rfl | isLater
  · have isSettled := ordered.settled index entry isEntry isDone
    exact absurd isWaiting (Status.not_waiting_of_settled isSettled)
  · rfl
  · -- what a later task waits for has not settled
    cases index with
    | zero => omega
    | succ earlier =>
        rw [ordered.prev _ entry isEntry, before, Option.all_some, isSettled, status?] at prevSettled
        obtain ⟨status, isStatus, isSettled⟩ := (Option.any_eq_true _ _).mp prevSettled
        obtain ⟨earlierEntry, isEarlier, rfl⟩ := Option.map_eq_some_iff.mp isStatus
        rcases Nat.lt_or_eq_of_le (Nat.le_of_lt_succ isLater) with stillLater | rfl
        · have stillWaiting := ordered.waiting earlier earlierEntry isEarlier stillLater
          exact absurd stillWaiting (Status.not_waiting_of_settled isSettled)
        · rw [ordered.current earlierEntry isEarlier] at isSettled
          cases isSettled

theorem Ordered.eq_of_isRunning
    {done : Nat}
    (ordered : chain.Ordered done)
    (isRunning : chain.isRunning index) :
    index = done := by
  obtain ⟨status, isStatus, isRunning⟩ := (Option.any_eq_true _ _).mp isRunning
  obtain ⟨entry, isEntry, rfl⟩ := Option.map_eq_some_iff.mp isStatus
  rcases Nat.lt_trichotomy index done with isDone | rfl | isLater
  · have isSettled := ordered.settled index entry isEntry isDone
    exact absurd isRunning (Status.not_running_of_settled isSettled)
  · rfl
  · have isWaiting := ordered.waiting index entry isEntry isLater
    exact absurd isRunning (Status.not_running_of_waiting isWaiting)

theorem getElem?_setStatus {status : Status Result} {place : Nat}
    (isEntry : (chain.setStatus index status).entries[place]? = some entry) :
    ∃ former, chain.entries[place]? = some former ∧ entry.prev = former.prev ∧
      entry.task = former.task ∧
      ((index = place ∧ entry.status = status) ∨
        (index ≠ place ∧ entry.status = former.status)) := by
  simp only [setStatus, List.getElem?_modify, Option.map_eq_map, Option.map_eq_some_iff] at isEntry
  obtain ⟨former, wasEntry, rfl⟩ := isEntry
  refine ⟨former, wasEntry, ?_⟩
  by_cases isPlace : index = place <;> simp [isPlace]

/-- The first task that has not settled starts. -/
theorem Ordered.start {done : Nat} (ordered : chain.Ordered done) :
    (chain.setStatus done .running).Ordered done where
  bounded := by simpa [setStatus] using ordered.bounded
  last := by simpa [setStatus] using ordered.last
  prev := by
    intro index entry isEntry
    obtain ⟨former, wasEntry, samePrev, -⟩ := getElem?_setStatus isEntry
    rw [samePrev, ordered.prev index former wasEntry]
  settled := by
    intro index entry isEntry isDone
    obtain ⟨former, wasEntry, -, -, ⟨rfl, -⟩ | ⟨-, sameStatus⟩⟩ := getElem?_setStatus isEntry
    · exact absurd isDone (Nat.lt_irrefl _)
    · rw [sameStatus]
      exact ordered.settled index former wasEntry isDone
  current := by
    intro entry isEntry
    obtain ⟨former, -, -, -, ⟨-, isStatus⟩ | ⟨isOther, -⟩⟩ := getElem?_setStatus isEntry
    · rw [isStatus]
      rfl
    · exact absurd rfl isOther
  waiting := by
    intro index entry isEntry isLater
    obtain ⟨former, wasEntry, -, -, ⟨rfl, -⟩ | ⟨-, sameStatus⟩⟩ := getElem?_setStatus isEntry
    · exact absurd isLater (Nat.lt_irrefl _)
    · rw [sameStatus]
      exact ordered.waiting index former wasEntry isLater

/-- It settles, and the next one is the first. -/
theorem Ordered.settle
    {done : Nat}
    (ordered : chain.Ordered done)
    (unfinished : done < chain.entries.length)
    (result : Result) :
    (chain.setStatus done (.settled result)).Ordered (done + 1) where
  bounded := by
    rw [setStatus, List.length_modify]
    exact unfinished
  last := by simpa [setStatus] using ordered.last
  prev := by
    intro index entry isEntry
    obtain ⟨former, wasEntry, samePrev, -⟩ := getElem?_setStatus isEntry
    rw [samePrev, ordered.prev index former wasEntry]
  settled := by
    intro index entry isEntry isDone
    obtain ⟨former, wasEntry, -, -, ⟨-, isStatus⟩ | ⟨isOther, sameStatus⟩⟩ :=
      getElem?_setStatus isEntry
    · rw [isStatus]
      rfl
    · rw [sameStatus]
      exact ordered.settled index former wasEntry (by omega)
  current := by
    intro entry isEntry
    obtain ⟨former, wasEntry, -, -, ⟨isSame, -⟩ | ⟨-, sameStatus⟩⟩ := getElem?_setStatus isEntry
    · omega
    · have isWaiting := ordered.waiting _ former wasEntry (Nat.lt_succ_self _)
      rw [sameStatus]
      exact Bool.eq_false_iff.mpr fun isSettled =>
        Status.not_waiting_of_settled isSettled isWaiting
  waiting := by
    intro index entry isEntry isLater
    obtain ⟨former, wasEntry, -, -, ⟨isSame, -⟩ | ⟨-, sameStatus⟩⟩ := getElem?_setStatus isEntry
    · omega
    · rw [sameStatus]
      exact ordered.waiting index former wasEntry (by omega)

/-- The first task that has not settled is running, or may start. -/
theorem Ordered.progress
    {done : Nat}
    (ordered : chain.Ordered done)
    (unfinished : done < chain.entries.length) :
    chain.isRunning done ∨ chain.mayStart done := by
  have isEntry := List.getElem?_eq_getElem unfinished
  have notSettled := ordered.current _ isEntry
  cases isStatus : (chain.entries[done]).status with
  | running =>
      refine .inl ?_
      rw [isRunning, status?, isEntry, Option.map_some, Option.any_some, isStatus]
      rfl
  | settled result =>
      rw [isStatus] at notSettled
      cases notSettled
  | waiting =>
      refine .inr ?_
      rw [mayStart, isEntry, Option.any_some, isStatus, ordered.prev done _ isEntry]
      cases done with
      | zero => rfl
      | succ earlier =>
          have isBefore : earlier < chain.entries.length := by omega
          have wasSettled := ordered.settled earlier _ (List.getElem?_eq_getElem isBefore)
            (Nat.lt_succ_self _)
          simp only [before, Option.all_some, Status.isWaiting, Bool.true_and, isSettled, status?,
            List.getElem?_eq_getElem isBefore, Option.map_some, Option.any_some]
          exact wasSettled

end Chain

end PromiseChain
