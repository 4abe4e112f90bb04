import Unseen.Machine
import Unseen.PromiseChain
import Unseen.Session

namespace Unseen.Outbound

open EventMachine PromiseChain

/-!
# Relay sends through the serializer

All relay frames of a session go through one promise chain.  A task that starts
checks the connection, allocates a counter and begins to encrypt in one segment;
when the encryption is done it hands the frame to the connection it had found.
Meanwhile anything may happen to the session: it may be ended, lose or change
its connection, get a mirror of its stored record, or get a new key.

A client's queue of sends (`Client.outbound`) is this chain without the tasks
that have settled.
-/

/-- `RelaySendTask`, apart from the session's variables. -/
structure RelaySendTask where
  kind : RelayKind
  plaintext : Plaintext
  encryptFailReason : TerminateReason

/-- `RelaySendConnection` -/
structure Connection where
  gen : Nat
  readyState : ReadyState
  bufferedAmount : Nat

/-- What a task holds while its frame is encrypted. -/
structure Flight where
  index : Nat
  key : SessionKey
  counter : Nat
  frame : RelayFrame
  gen : Nat
  encryptFailReason : TerminateReason

/-- A frame handed to `connection.send`, which threw or did not. -/
structure Handed where
  index : Nat
  key : SessionKey
  counter : Nat
  frame : RelayFrame
  gen : Nat
  thrown : Bool

/-- The serializer with the variables of the session that its tasks use. -/
structure Outbox where
  chain : Chain RelaySendTask Bool
  terminated : Option TerminateReason
  connection : Option Connection
  active : SendState
  /-- the reserved bound in the stored record, if there is one -/
  mirror : Option Nat
  flights : List Flight
  /-- the frames handed over, in order -/
  handed : List Handed
  /-- the tasks that failed once they had begun to allocate, in order -/
  failures : List Nat
  /-- the results that callers have got -/
  received : List (Nat × Bool)
  /-- the keys that have been in use -/
  keys : List SessionKey

/-- How an encryption and the send after it end. -/
inductive Outcome where
  | sent
  | encryptFailed
  | sendThrew
  deriving DecidableEq

inductive Event where
  | enqueued (task : RelaySendTask)
  | started (index : Nat) (storageOk : Bool)
  | encrypted (index : Nat) (outcome : Outcome)
  /-- The caller of a task goes on with its result. -/
  | resumed (index : Nat)
  | terminated (reason : TerminateReason)
  | connectionChanged (connection : Option Connection)
  | mirrored (reserved : Nat)
  /-- `commitRekey` installs a new key. -/
  | rekeyed (key : SessionKey)

namespace Outbox

/-- A session whose counters are equal; nothing has been sent on this page. -/
def initial
    (connection : Option Connection)
    (mirror : Option Nat)
    (role : Role)
    (key : SessionKey)
    (counter : Nat) : Outbox where
  chain := .empty
  terminated := none
  connection := connection
  active :=
    { counterCommitted := counter, counterReserved := counter, role, sessionKey := key }
  mirror := mirror
  flights := []
  handed := []
  failures := []
  received := []
  keys := [key]

/-- `terminate`; the first reason stays. -/
def terminate (outbox : Outbox) (reason : TerminateReason) : Outbox :=
  { outbox with terminated := some (outbox.terminated.getD reason) }

/-- A task's promise settles. -/
def settle (outbox : Outbox) (index : Nat) (ok : Bool) : Outbox :=
  { outbox with
    chain := outbox.chain.setStatus index (.settled ok)
    flights := outbox.flights.filter fun flight => flight.index ≠ index }

/-- A task that has begun to allocate ends the session. -/
def fail (outbox : Outbox) (index : Nat) (reason : TerminateReason) : Outbox :=
  { outbox.terminate reason with failures := outbox.failures ++ [index] }.settle index false

/-- `requireConnection` -/
def requireConnection (outbox : Outbox) : Option Connection :=
  if outbox.terminated.isSome then none else outbox.connection

/-- `persistCounterReserved` of the mirror, if there is one. -/
def persistCounterReserved (outbox : Outbox) (storageOk : Bool) :
    Option (PersistCounter (Option Nat)) :=
  outbox.mirror.map fun _ store counter =>
    if storageOk then (some counter, true) else (store, false)

/-- A task that passed the checks allocates a counter and begins to encrypt. -/
def allocate
    (outbox : Outbox)
    (index : Nat)
    (task : RelaySendTask)
    (connection : Connection)
    (storageOk : Bool) : Outbox :=
  match allocateCounter (outbox.persistCounterReserved storageOk) outbox.mirror outbox.active
      task.kind with
  | (stored, state, none) =>
      { outbox with mirror := stored, active := state }.fail index task.encryptFailReason
  | (stored, state, some counter) =>
      let allocated := { outbox with mirror := stored, active := state }
      match encryptRelayFrame state.role state.sessionKey task.kind counter task.plaintext with
      | none => allocated.fail index task.encryptFailReason
      | some frame =>
          { allocated with
            chain := allocated.chain.setStatus index .running
            flights := allocated.flights ++
              [{ index
                 key := state.sessionKey
                 counter
                 frame
                 gen := connection.gen
                 encryptFailReason := task.encryptFailReason }] }

/-- The checks of `runRelaySendTask` before it allocates. -/
def preflight (outbox : Outbox) : Option Connection :=
  if outbox.terminated.isSome then
    none
  else
    outbox.requireConnection.filter fun connection =>
      canAttemptSend connection.readyState connection.bufferedAmount = .ok

/-- `runRelaySendTask` up to the encryption. -/
def start (outbox : Outbox) (index : Nat) (storageOk : Bool) : Outbox :=
  match outbox.chain.task? index with
  | none => outbox
  | some task =>
      match outbox.preflight with
      | none => outbox.settle index false
      | some connection => outbox.allocate index task connection storageOk

/-- `connection.send` -/
def hand (outbox : Outbox) (flight : Flight) (thrown : Bool) : Outbox :=
  { outbox with
    handed := outbox.handed ++
      [{ index := flight.index
         key := flight.key
         counter := flight.counter
         frame := flight.frame
         gen := flight.gen
         thrown }] }

/-- `runRelaySendTask` after the encryption. -/
def finish (outbox : Outbox) (flight : Flight) : Outcome → Outbox
  | .sent => (outbox.hand flight false).settle flight.index true
  | .encryptFailed => outbox.fail flight.index flight.encryptFailReason
  | .sendThrew => (outbox.hand flight true).fail flight.index .sendFailed

def flightOf (outbox : Outbox) (index : Nat) : Option Flight :=
  outbox.flights.find? fun flight => flight.index = index

/-- `enqueueRelaySend` -/
def enqueueRelaySend (outbox : Outbox) (task : RelaySendTask) : Outbox :=
  { outbox with chain := outbox.chain.enqueue task }

/-- The counters start over under a new key. -/
def commitRekey (outbox : Outbox) (key : SessionKey) : Outbox :=
  { outbox with
    active :=
      { outbox.active with counterCommitted := 0, counterReserved := 0, sessionKey := key }
    keys := outbox.keys ++ [key] }

/-- The result a settled promise has. -/
def resultOf (outbox : Outbox) (index : Nat) : Option Bool :=
  match outbox.chain.status? index with
  | some (.settled ok) => some ok
  | _ => none

/-- A derived key has not been in use before; a caller gets its result once. -/
def Enabled (outbox : Outbox) : Event → Prop
  | .enqueued _ => True
  | .started index _ => outbox.chain.mayStart index
  | .encrypted index _ => (outbox.flightOf index).isSome
  | .resumed index => (outbox.resultOf index).isSome ∧ ∀ pair ∈ outbox.received, pair.1 ≠ index
  | .terminated _ => True
  | .connectionChanged _ => True
  | .mirrored _ => True
  | .rekeyed key => key ∉ outbox.keys

instance (outbox : Outbox) : (event : Event) → Decidable (outbox.Enabled event)
  | .enqueued _ | .terminated _ | .connectionChanged _ | .mirrored _ => isTrue trivial
  | .started index _ => inferInstanceAs (Decidable (outbox.chain.mayStart index = true))
  | .encrypted index _ => inferInstanceAs (Decidable ((outbox.flightOf index).isSome = true))
  | .resumed index =>
      inferInstanceAs
        (Decidable ((outbox.resultOf index).isSome = true ∧
          ∀ pair ∈ outbox.received, pair.1 ≠ index))
  | .rekeyed key => inferInstanceAs (Decidable (key ∉ outbox.keys))

def step (outbox : Outbox) : Event → Outbox
  | .enqueued task => outbox.enqueueRelaySend task
  | .started index storageOk => outbox.start index storageOk
  | .encrypted index outcome =>
      match outbox.flightOf index with
      | some flight => outbox.finish flight outcome
      | none => outbox
  | .resumed index =>
      match outbox.resultOf index with
      | some ok => { outbox with received := outbox.received ++ [(index, ok)] }
      | none => outbox
  | .terminated reason => outbox.terminate reason
  | .connectionChanged connection => { outbox with connection := connection }
  | .mirrored reserved => { outbox with mirror := some reserved }
  | .rekeyed key => outbox.commitRekey key

end Outbox

/-- The relay sends of one session. -/
def sends : Machine Outbox Event where
  enabled := Outbox.Enabled
  step := Outbox.step

instance (outbox : Outbox) (event : Event) : Decidable (sends.enabled outbox event) :=
  inferInstanceAs (Decidable (outbox.Enabled event))

def Outbox.IsInitial (outbox : Outbox) : Prop :=
  ∃ connection mirror role key counter, outbox = .initial connection mirror role key counter

def Outbox.Reachable (outbox : Outbox) : Prop :=
  sends.Reachable Outbox.IsInitial Machine.anyStep outbox

namespace Outbox

variable {outbox : Outbox} {base : SessionKey → Nat} {done : Nat}

/-! ## What holds between the segments -/

/-- The frames handed over under one key, in order. -/
def handedUnder (outbox : Outbox) (key : SessionKey) : List Handed :=
  outbox.handed.filter fun handed => handed.key = key

/-- The next counter under a key is the one after those that were handed over. -/
def nextCounter (outbox : Outbox) (base : SessionKey → Nat) (key : SessionKey) : Nat :=
  base key + (outbox.handedUnder key).length + 1

/-- A frame holds what its task was to send. -/
def IsFrameOf
    (outbox : Outbox)
    (index : Nat)
    (key : SessionKey)
    (counter : Nat)
    (frame : RelayFrame) : Prop :=
  ∃ task, outbox.chain.task? index = some task ∧
    encryptRelayFrame outbox.active.role key task.kind counter task.plaintext = some frame

/-- The task that is running, if any, and how far the counters are. -/
inductive Phase (outbox : Outbox) (base : SessionKey → Nat) (done : Nat) : Prop where
  | idle
      (noFlight : outbox.flights = [])
      (notRunning : outbox.chain.isRunning done = false)
      (counted : outbox.failures = [] →
        outbox.active.counterCommitted + 1 = outbox.nextCounter base outbox.active.sessionKey)
  | busy
      (flight : Flight)
      (isFlight : outbox.flights = [flight])
      (isFirst : flight.index = done)
      (isRunning : outbox.chain.isRunning done)
      (isNext : flight.counter = outbox.nextCounter base flight.key)
      (isKnown : flight.key ∈ outbox.keys)
      (counted : outbox.active.counterCommitted =
        if flight.key = outbox.active.sessionKey then flight.counter
        else outbox.nextCounter base outbox.active.sessionKey - 1)
      (noFailure : outbox.failures = [])
      (isFrame : outbox.IsFrameOf flight.index flight.key flight.counter flight.frame)

/-- The log of the frames that were handed over. -/
structure Logged (outbox : Outbox) (base : SessionKey → Nat) (done : Nat) : Prop where
  consecutive : ∀ key,
    (outbox.handedUnder key).map Handed.counter =
      List.range' (base key + 1) (outbox.handedUnder key).length
  sorted : outbox.handed.Pairwise fun earlier later => earlier.index < later.index
  settled : ∀ handed ∈ outbox.handed, handed.index < done
  known : ∀ handed ∈ outbox.handed, handed.key ∈ outbox.keys
  isFrame : ∀ handed ∈ outbox.handed,
    outbox.IsFrameOf handed.index handed.key handed.counter handed.frame

/-- The first tasks have settled, with everything that is recorded about them. -/
structure Serialized (outbox : Outbox) (base : SessionKey → Nat) (done : Nat) : Prop where
  ordered : outbox.chain.Ordered done
  phase : outbox.Phase base done
  logged : outbox.Logged base done
  current : outbox.active.sessionKey ∈ outbox.keys
  unused : ∀ key, key ∉ outbox.keys → base key = 0
  failed : ∀ index ∈ outbox.failures,
    outbox.terminated.isSome ∧ ∀ handed ∈ outbox.handed, handed.index ≤ index
  received : ∀ pair ∈ outbox.received, outbox.resultOf pair.1 = some pair.2
  sent : ∀ index, outbox.resultOf index = some true ↔
    ∃ handed ∈ outbox.handed, handed.index = index ∧ handed.thrown = false

theorem serialized_initial
    (connection : Option Connection)
    (mirror : Option Nat)
    (role : Role)
    (key : SessionKey)
    (counter : Nat) :
    (initial connection mirror role key counter).Serialized
      (fun other => if other = key then counter else 0) 0 where
  ordered := Chain.ordered_empty
  phase := .idle rfl rfl (fun _ => by simp [initial, nextCounter, handedUnder])
  logged :=
    { consecutive := fun _ => rfl
      sorted := .nil
      settled := List.forall_mem_nil _
      known := List.forall_mem_nil _
      isFrame := List.forall_mem_nil _ }
  current := List.mem_cons_self
  unused := fun other notUsed => if_neg fun isKey => notUsed (List.mem_singleton.mpr isKey)
  failed := List.forall_mem_nil _
  received := List.forall_mem_nil _
  sent index := by
    refine ⟨nofun, ?_⟩
    rintro ⟨handed, isHanded, -⟩
    exact absurd isHanded List.not_mem_nil

/-! ## The segments that settle no task -/

/-- The end of the session, its connection and its record are of no account. -/
theorem Serialized.keep
    (serialized : outbox.Serialized base done)
    {terminated : Option TerminateReason}
    (ended : outbox.terminated.isSome → terminated.isSome)
    (connection : Option Connection)
    (mirror : Option Nat) :
    { outbox with
      terminated := terminated
      connection := connection
      mirror := mirror }.Serialized base done where
  ordered := serialized.ordered
  phase :=
    match serialized.phase with
    | .idle noFlight notRunning counted => .idle noFlight notRunning counted
    | .busy flight isFlight isFirst isRunning isNext isKnown counted noFailure isFrame =>
        .busy flight isFlight isFirst isRunning isNext isKnown counted noFailure isFrame
  logged := { serialized.logged with }
  current := serialized.current
  unused := serialized.unused
  failed := fun index isFailure =>
    ⟨ended (serialized.failed index isFailure).1, (serialized.failed index isFailure).2⟩
  received := serialized.received
  sent := serialized.sent

theorem isRunning_enqueue (outbox : Outbox) (task : RelaySendTask) (index : Nat) :
    (outbox.chain.enqueue task).isRunning index = outbox.chain.isRunning index := by
  rcases Nat.lt_trichotomy index outbox.chain.entries.length with isBefore | rfl | isAfter
  · simp [Chain.isRunning, Chain.status?, Chain.enqueue, List.getElem?_append_left isBefore]
  · simp [Chain.isRunning, Chain.status?, Chain.enqueue, Status.isRunning]
  · have noEntry : outbox.chain.entries[index]? = none := List.getElem?_eq_none (by omega)
    have noNewEntry : (outbox.chain.enqueue task).entries[index]? = none :=
      List.getElem?_eq_none (by simp [Chain.enqueue]; omega)
    simp [Chain.isRunning, Chain.status?, noEntry, noNewEntry]

theorem resultOf_enqueue (outbox : Outbox) (task : RelaySendTask) (index : Nat) :
    (outbox.enqueueRelaySend task).resultOf index = outbox.resultOf index := by
  rcases Nat.lt_trichotomy index outbox.chain.entries.length with isBefore | rfl | isAfter
  · simp [resultOf, Chain.status?, enqueueRelaySend, Chain.enqueue,
      List.getElem?_append_left isBefore]
  · simp [resultOf, Chain.status?, enqueueRelaySend, Chain.enqueue]
  · have noEntry : outbox.chain.entries[index]? = none := List.getElem?_eq_none (by omega)
    have noNewEntry : (outbox.chain.enqueue task).entries[index]? = none :=
      List.getElem?_eq_none (by simp [Chain.enqueue]; omega)
    simp [resultOf, Chain.status?, enqueueRelaySend, noEntry, noNewEntry]

theorem IsFrameOf.enqueue
    {index counter : Nat}
    {key : SessionKey}
    {frame : RelayFrame}
    (isFrame : outbox.IsFrameOf index key counter frame)
    (task : RelaySendTask) :
    (outbox.enqueueRelaySend task).IsFrameOf index key counter frame := by
  obtain ⟨own, isTask, isEncrypted⟩ := isFrame
  obtain ⟨entry, isEntry, rfl⟩ := Option.map_eq_some_iff.mp isTask
  have isBefore := (List.getElem?_eq_some_iff.mp isEntry).1
  refine ⟨entry.task, ?_, isEncrypted⟩
  rw [Chain.task?, enqueueRelaySend, Chain.enqueue, List.getElem?_append_left isBefore, isEntry,
    Option.map_some]

theorem Serialized.enqueue
    (serialized : outbox.Serialized base done)
    (task : RelaySendTask) :
    (outbox.enqueueRelaySend task).Serialized base done where
  ordered := serialized.ordered.enqueue task
  phase :=
    match serialized.phase with
    | .idle noFlight notRunning counted =>
        .idle noFlight ((isRunning_enqueue outbox task done).trans notRunning) counted
    | .busy flight isFlight isFirst isRunning isNext isKnown counted noFailure isFrame =>
        .busy flight isFlight isFirst ((isRunning_enqueue outbox task done).trans isRunning) isNext
          isKnown counted noFailure (isFrame.enqueue task)
  logged :=
    { serialized.logged with
      isFrame := fun handed isHanded => (serialized.logged.isFrame handed isHanded).enqueue task }
  current := serialized.current
  unused := serialized.unused
  failed := serialized.failed
  received := fun pair isPair => by
    rw [resultOf_enqueue]
    exact serialized.received pair isPair
  sent := fun index => by
    rw [resultOf_enqueue]
    exact serialized.sent index

/-- Nothing has been handed over under a key that is new. -/
theorem Logged.nothingUnder
    (logged : outbox.Logged base done)
    {key : SessionKey}
    (isNew : key ∉ outbox.keys) :
    outbox.handedUnder key = [] :=
  List.filter_eq_nil_iff.mpr fun handed isHanded isKey =>
    isNew (of_decide_eq_true isKey ▸ logged.known handed isHanded)

theorem Serialized.rekey
    (serialized : outbox.Serialized base done)
    {key : SessionKey}
    (isNew : key ∉ outbox.keys) :
    (outbox.commitRekey key).Serialized base done where
  ordered := serialized.ordered
  phase := by
    have fresh : (outbox.commitRekey key).nextCounter base key = 1 := by
      have nothing : (outbox.commitRekey key).handedUnder key = [] :=
        serialized.logged.nothingUnder isNew
      simp [nextCounter, nothing, serialized.unused key isNew]
    cases serialized.phase with
    | idle noFlight notRunning counted =>
        exact .idle noFlight notRunning fun _ => fresh.symm
    | busy flight isFlight isFirst isRunning isNext isKnown counted noFailure isFrame =>
        refine .busy flight isFlight isFirst isRunning isNext (List.mem_append_left _ isKnown) ?_
          noFailure isFrame
        have otherKey : flight.key ≠ key := fun isKey => isNew (isKey ▸ isKnown)
        change 0 = if flight.key = key then flight.counter
          else (outbox.commitRekey key).nextCounter base key - 1
        rw [if_neg otherKey, fresh]
  logged :=
    { serialized.logged with
      known := fun handed isHanded =>
        List.mem_append_left _ (serialized.logged.known handed isHanded) }
  current := List.mem_append_right _ List.mem_cons_self
  unused := fun other notUsed =>
    serialized.unused other fun isUsed => notUsed (List.mem_append_left _ isUsed)
  failed := serialized.failed
  received := serialized.received
  sent := serialized.sent

theorem Serialized.resume
    (serialized : outbox.Serialized base done)
    {index : Nat}
    {ok : Bool}
    (isResult : outbox.resultOf index = some ok) :
    { outbox with received := outbox.received ++ [(index, ok)] }.Serialized base done where
  ordered := serialized.ordered
  phase :=
    match serialized.phase with
    | .idle noFlight notRunning counted => .idle noFlight notRunning counted
    | .busy flight isFlight isFirst isRunning isNext isKnown counted noFailure isFrame =>
        .busy flight isFlight isFirst isRunning isNext isKnown counted noFailure isFrame
  logged := { serialized.logged with }
  current := serialized.current
  unused := serialized.unused
  failed := serialized.failed
  received := by
    intro pair isPair
    rcases List.mem_append.mp isPair with wasPair | isNew
    · exact serialized.received pair wasPair
    · rw [List.mem_singleton.mp isNew]
      exact isResult
  sent := serialized.sent

/-! ## A task settles -/

theorem status?_setStatus (outbox : Outbox) (index place : Nat) (status : Status Bool) :
    (outbox.chain.setStatus index status).status? place =
      (outbox.chain.status? place).map fun former => if index = place then status else former := by
  simp only [Chain.status?, Chain.setStatus, List.getElem?_modify, Option.map_eq_map,
    Option.map_map]
  congr 1
  funext entry
  by_cases isPlace : index = place <;> simp [isPlace]

theorem task?_setStatus (outbox : Outbox) (index place : Nat) (status : Status Bool) :
    (outbox.chain.setStatus index status).task? place = outbox.chain.task? place := by
  simp only [Chain.task?, Chain.setStatus, List.getElem?_modify, Option.map_eq_map,
    Option.map_map]
  congr 1
  funext entry
  by_cases isPlace : index = place <;> simp [isPlace]

theorem IsFrameOf.setStatus
    {after : Outbox}
    {index place counter : Nat}
    {status : Status Bool}
    {key : SessionKey}
    {frame : RelayFrame}
    (isFrame : outbox.IsFrameOf index key counter frame)
    (isChain : after.chain = outbox.chain.setStatus place status)
    (sameRole : after.active.role = outbox.active.role) :
    after.IsFrameOf index key counter frame := by
  rw [IsFrameOf, isChain, task?_setStatus, sameRole]
  exact isFrame

/-- The log is the same after a task's promise has changed. -/
theorem Logged.setStatus
    {after : Outbox}
    {place : Nat}
    {status : Status Bool}
    (logged : outbox.Logged base done)
    (isChain : after.chain = outbox.chain.setStatus place status)
    (sameRole : after.active.role = outbox.active.role)
    (sameHanded : after.handed = outbox.handed)
    (sameKeys : after.keys = outbox.keys) :
    after.Logged base done := by
  refine ⟨?_, ?_, ?_, ?_, ?_⟩ <;> simp only [handedUnder, sameHanded, sameKeys]
  · exact logged.consecutive
  · exact logged.sorted
  · exact logged.settled
  · exact logged.known
  · exact fun handed isHanded => (logged.isFrame handed isHanded).setStatus isChain sameRole

/-- The task in turn settles, and the log agrees with how. -/
theorem Serialized.settled
    {after : Outbox}
    {ok : Bool}
    (serialized : outbox.Serialized base done)
    (unfinished : done < outbox.chain.entries.length)
    (isChain : after.chain = outbox.chain.setStatus done (.settled ok))
    (noFlight : after.flights = [])
    (sameKeys : after.keys = outbox.keys)
    (sameKey : after.active.sessionKey = outbox.active.sessionKey)
    (sameReceived : after.received = outbox.received)
    (logged : after.Logged base (done + 1))
    {new : List Handed}
    (isHanded : after.handed = outbox.handed ++ new)
    (isNew : ∀ handed ∈ new, handed.index = done)
    (isSent : ok = true ↔ ∃ handed ∈ new, handed.thrown = false)
    (counted : after.failures = [] →
      after.active.counterCommitted + 1 = after.nextCounter base after.active.sessionKey)
    (failed : ∀ index ∈ after.failures,
      after.terminated.isSome ∧ ∀ handed ∈ after.handed, handed.index ≤ index) :
    after.Serialized base (done + 1) := by
  have ordered : after.chain.Ordered (done + 1) := isChain ▸ serialized.ordered.settle unfinished ok
  have notSettled : outbox.resultOf done = none := by
    have isEntry := List.getElem?_eq_getElem unfinished
    have isCurrent := serialized.ordered.current _ isEntry
    rw [resultOf, Chain.status?, isEntry, Option.map_some]
    cases isStatus : (outbox.chain.entries[done]).status with
    | settled result =>
        rw [isStatus] at isCurrent
        cases isCurrent
    | waiting | running => rfl
  have otherResult (index : Nat) (isOther : done ≠ index) :
      after.resultOf index = outbox.resultOf index := by
    simp only [resultOf, isChain, status?_setStatus, if_neg isOther, Option.map_id']
  exact {
    ordered := ordered
    phase := by
      refine .idle noFlight ?_ counted
      by_contra isRunning
      rw [Bool.not_eq_false, isChain, Chain.isRunning, status?_setStatus] at isRunning
      obtain ⟨status, isStatus, isRunning⟩ := (Option.any_eq_true _ _).mp isRunning
      rw [Option.map_eq_some_iff] at isStatus
      obtain ⟨former, wasStatus, rfl⟩ := isStatus
      rw [if_neg (Nat.ne_of_lt (Nat.lt_succ_self _))] at isRunning
      have wasRunning : outbox.chain.isRunning (done + 1) := by
        rw [Chain.isRunning, wasStatus, Option.any_some, isRunning]
      exact absurd (serialized.ordered.eq_of_isRunning wasRunning) (Nat.succ_ne_self _)
    logged := logged
    current := by
      rw [sameKey, sameKeys]
      exact serialized.current
    unused := fun key notUsed => serialized.unused key (sameKeys ▸ notUsed)
    failed := failed
    received := by
      intro pair isPair
      rw [sameReceived] at isPair
      have wasResult := serialized.received pair isPair
      have isOther : done ≠ pair.1 := by
        rintro isDone
        rw [← isDone, notSettled] at wasResult
        cases wasResult
      rw [otherResult pair.1 isOther, wasResult]
    sent := by
      intro index
      by_cases isDone : done = index
      · subst isDone
        have ownStatus : after.chain.status? done = some (.settled ok) := by
          rw [isChain, status?_setStatus, Chain.status?, List.getElem?_eq_getElem unfinished]
          simp
        simp only [resultOf, ownStatus, Option.some.injEq, isHanded, List.mem_append]
        constructor
        · intro isTrue
          obtain ⟨handed, isLast, notThrown⟩ := isSent.mp isTrue
          exact ⟨handed, .inr isLast, isNew handed isLast, notThrown⟩
        · rintro ⟨handed, wasHanded | isLast, isIndex, notThrown⟩
          · exact absurd (serialized.logged.settled handed wasHanded) (by omega)
          · exact isSent.mpr ⟨handed, isLast, notThrown⟩
      · rw [otherResult index isDone, serialized.sent index, isHanded]
        constructor
        · rintro ⟨handed, wasHanded, isIndex⟩
          exact ⟨handed, List.mem_append_left _ wasHanded, isIndex⟩
        · rintro ⟨handed, isHanded, isIndex, notThrown⟩
          rcases List.mem_append.mp isHanded with wasHanded | isLast
          · exact ⟨handed, wasHanded, isIndex, notThrown⟩
          · exact absurd (isNew handed isLast) (isIndex ▸ Ne.symm isDone) }

/-! ## A task starts -/

theorem Logged.next (logged : outbox.Logged base done) : outbox.Logged base (done + 1) :=
  { logged with
    settled := fun handed isHanded => Nat.lt_succ_of_lt (logged.settled handed isHanded) }

/-- A task that waits can only start while none is running. -/
theorem Serialized.idle_of_mayStart
    (serialized : outbox.Serialized base done)
    (mayStart : outbox.chain.mayStart done) :
    outbox.flights = [] ∧
      (outbox.failures = [] →
        outbox.active.counterCommitted + 1 = outbox.nextCounter base outbox.active.sessionKey) := by
  cases serialized.phase with
  | idle noFlight notRunning counted => exact ⟨noFlight, counted⟩
  | busy flight isFlight isFirst isRunning =>
      obtain ⟨entry, isEntry, mayStart⟩ := (Option.any_eq_true _ _).mp mayStart
      obtain ⟨isWaiting, -⟩ := Bool.and_eq_true_iff.mp mayStart
      rw [Chain.isRunning, Chain.status?, isEntry, Option.map_some, Option.any_some] at isRunning
      exact absurd isRunning (Status.not_running_of_waiting isWaiting)

/-- The session ends with the task in turn, which hands over nothing more. -/
theorem Serialized.fail
    {after : Outbox}
    (serialized : outbox.Serialized base done)
    (unfinished : done < outbox.chain.entries.length)
    (isChain : after.chain = outbox.chain.setStatus done (.settled false))
    (noFlight : after.flights = [])
    (sameKeys : after.keys = outbox.keys)
    (sameKey : after.active.sessionKey = outbox.active.sessionKey)
    (sameReceived : after.received = outbox.received)
    (logged : after.Logged base (done + 1))
    {new : List Handed}
    (isHanded : after.handed = outbox.handed ++ new)
    (isNew : ∀ handed ∈ new, handed.index = done)
    (allThrown : ∀ handed ∈ new, handed.thrown)
    (isFailure : after.failures = outbox.failures ++ [done])
    (isEnded : after.terminated.isSome)
    (noFailure : outbox.failures = []) :
    after.Serialized base (done + 1) := by
  have isSent : false = true ↔ ∃ handed ∈ new, handed.thrown = false := by
    refine ⟨nofun, ?_⟩
    rintro ⟨handed, isLast, notThrown⟩
    rw [allThrown handed isLast] at notThrown
    cases notThrown
  refine serialized.settled unfinished isChain noFlight sameKeys sameKey sameReceived logged
    isHanded isNew isSent (fun noneFailed => ?_) fun index wasFailure => ⟨isEnded, ?_⟩
  · rw [isFailure] at noneFailed
    exact absurd noneFailed (List.append_ne_nil_of_right_ne_nil _ (List.cons_ne_nil _ _))
  · rw [isFailure, noFailure, List.nil_append, List.mem_singleton] at wasFailure
    intro handed isHanded
    rw [wasFailure]
    exact Nat.le_of_lt_succ (logged.settled handed isHanded)

/-- What an allocation that succeeds returns, and one that fails. -/
theorem allocateCounter_spec
    (outbox : Outbox)
    (kind : RelayKind)
    (storageOk : Bool) :
    ∃ stored state counter,
      allocateCounter (outbox.persistCounterReserved storageOk) outbox.mirror outbox.active kind =
          (stored, state, counter) ∧
        state.sessionKey = outbox.active.sessionKey ∧ state.role = outbox.active.role ∧
        ((counter = none ∧ state = outbox.active) ∨
          (counter = some (outbox.active.counterCommitted + 1) ∧
            state.counterCommitted = outbox.active.counterCommitted + 1)) := by
  rcases allocateCounter_cases (outbox.persistCounterReserved storageOk) outbox.mirror
      outbox.active kind with
    ⟨-, allocated⟩ | ⟨-, ⟨stored, -, allocated⟩ | ⟨stored, persist, -, -, refused⟩⟩
  · exact ⟨_, _, _, allocated, rfl, rfl, .inr ⟨rfl, rfl⟩⟩
  · exact ⟨_, _, _, allocated, rfl, rfl, .inr ⟨rfl, rfl⟩⟩
  · exact ⟨_, _, _, refused, rfl, rfl, .inl ⟨rfl, rfl⟩⟩

/-- A task that is set running has no result, as before. -/
theorem resultOf_running
    {after : Outbox}
    (serialized : outbox.Serialized base done)
    (isChain : after.chain = outbox.chain.setStatus done .running)
    (index : Nat) :
    after.resultOf index = outbox.resultOf index := by
  simp only [resultOf, isChain, status?_setStatus]
  by_cases isDone : done = index
  · simp only [if_pos isDone]
    rw [← isDone, Chain.status?]
    cases isEntry : outbox.chain.entries[done]? with
    | none => rfl
    | some entry =>
        have isCurrent := serialized.ordered.current entry isEntry
        rw [Option.map_some, Option.map_some]
        cases isStatus : entry.status with
        | settled result =>
            rw [isStatus] at isCurrent
            cases isCurrent
        | waiting | running => rfl
  · simp only [if_neg isDone, Option.map_id']

/-- The task in turn begins to encrypt its frame, under the next counter. -/
theorem Serialized.fly
    {after : Outbox}
    {flight : Flight}
    (serialized : outbox.Serialized base done)
    (unfinished : done < outbox.chain.entries.length)
    (isChain : after.chain = outbox.chain.setStatus done .running)
    (isFlight : after.flights = [flight])
    (isFirst : flight.index = done)
    (sameKeys : after.keys = outbox.keys)
    (sameKey : after.active.sessionKey = outbox.active.sessionKey)
    (sameReceived : after.received = outbox.received)
    (sameHanded : after.handed = outbox.handed)
    (sameFailures : after.failures = outbox.failures)
    (noFailure : outbox.failures = [])
    (isKey : flight.key = outbox.active.sessionKey)
    (isNext : flight.counter = outbox.nextCounter base flight.key)
    (isCommitted : after.active.counterCommitted = flight.counter)
    (sameRole : after.active.role = outbox.active.role)
    (isFrame : outbox.IsFrameOf flight.index flight.key flight.counter flight.frame) :
    after.Serialized base done where
  ordered := isChain ▸ serialized.ordered.start
  phase := by
    refine .busy flight isFlight isFirst ?_ ?_ ?_ ?_ (sameFailures.trans noFailure)
      (isFrame.setStatus isChain sameRole)
    · rw [isChain, Chain.isRunning, status?_setStatus, Chain.status?,
        List.getElem?_eq_getElem unfinished]
      simp [Status.isRunning]
    · rw [isNext, nextCounter, nextCounter, handedUnder, handedUnder, sameHanded]
    · rw [isKey, sameKeys]
      exact serialized.current
    · rw [if_pos (isKey.trans sameKey.symm), isCommitted]
  logged := serialized.logged.setStatus isChain sameRole sameHanded sameKeys
  current := by
    rw [sameKey, sameKeys]
    exact serialized.current
  unused := fun key notUsed => serialized.unused key (sameKeys ▸ notUsed)
  failed := by
    rw [sameFailures, noFailure]
    intro failure isFailure
    cases isFailure
  received := fun pair isPair => by
    rw [resultOf_running serialized isChain]
    exact serialized.received pair (sameReceived ▸ isPair)
  sent := fun index => by
    rw [resultOf_running serialized isChain, sameHanded]
    exact serialized.sent index

theorem filter_flights (outbox : Outbox) (noFlight : outbox.flights = []) (index : Nat) :
    (outbox.flights.filter fun flight => flight.index ≠ index) = [] := by
  rw [noFlight, List.filter_nil]

theorem Serialized.allocate
    {task : RelaySendTask}
    {connection : Connection}
    {storageOk : Bool}
    (serialized : outbox.Serialized base done)
    (mayStart : outbox.chain.mayStart done)
    (isTask : outbox.chain.task? done = some task)
    (unfinished : done < outbox.chain.entries.length)
    (live : outbox.terminated = none) :
    ∃ next, (outbox.allocate done task connection storageOk).Serialized base next := by
  obtain ⟨noFlight, counted⟩ := serialized.idle_of_mayStart mayStart
  have noFailure : outbox.failures = [] := by
    refine List.eq_nil_iff_forall_not_mem.mpr fun index isFailure => ?_
    have isEnded := (serialized.failed index isFailure).1
    rw [live] at isEnded
    cases isEnded
  obtain ⟨stored, state, counter, allocated, sameKey, sameRole, outcome⟩ :=
    allocateCounter_spec outbox task.kind storageOk
  unfold Outbox.allocate
  rw [allocated]
  rcases outcome with ⟨rfl, -⟩ | ⟨rfl, isCommitted⟩
  · exact ⟨done + 1, serialized.fail unfinished rfl (filter_flights _ noFlight _) rfl sameKey rfl
      (serialized.logged.next.setStatus rfl sameRole rfl rfl) (List.append_nil _).symm
      (List.forall_mem_nil _) (List.forall_mem_nil _) rfl rfl noFailure⟩
  · cases isEncrypted : encryptRelayFrame state.role state.sessionKey task.kind
        (outbox.active.counterCommitted + 1) task.plaintext with
    | none =>
        simp only [isEncrypted]
        exact ⟨done + 1, serialized.fail unfinished rfl (filter_flights _ noFlight _) rfl sameKey
          rfl (serialized.logged.next.setStatus rfl sameRole rfl rfl) (List.append_nil _).symm
          (List.forall_mem_nil _) (List.forall_mem_nil _) rfl rfl noFailure⟩
    | some frame =>
        simp only [isEncrypted]
        have isNext := counted noFailure
        have isFlight (flight : Flight) : outbox.flights ++ [flight] = [flight] := by
          rw [noFlight, List.nil_append]
        refine ⟨done, serialized.fly unfinished rfl (isFlight _) rfl rfl sameKey rfl rfl rfl
          noFailure sameKey ?_ isCommitted sameRole ⟨task, isTask, sameRole ▸ isEncrypted⟩⟩
        rw [isNext, sameKey]

/-- The checks refuse a task, which settles and changes nothing else. -/
theorem Serialized.refuse
    (serialized : outbox.Serialized base done)
    (mayStart : outbox.chain.mayStart done)
    (unfinished : done < outbox.chain.entries.length) :
    (outbox.settle done false).Serialized base (done + 1) := by
  obtain ⟨noFlight, counted⟩ := serialized.idle_of_mayStart mayStart
  exact serialized.settled unfinished rfl (filter_flights _ noFlight _) rfl rfl rfl
    (serialized.logged.next.setStatus rfl rfl rfl rfl) (List.append_nil _).symm
    (List.forall_mem_nil _) (by simp)
    counted serialized.failed

theorem lt_of_mayStart (mayStart : outbox.chain.mayStart done) :
    done < outbox.chain.entries.length := by
  obtain ⟨entry, isEntry, -⟩ := (Option.any_eq_true _ _).mp mayStart
  exact (List.getElem?_eq_some_iff.mp isEntry).1

theorem Serialized.start
    {index : Nat}
    (serialized : outbox.Serialized base done)
    (mayStart : outbox.chain.mayStart index)
    (storageOk : Bool) :
    ∃ next, (outbox.start index storageOk).Serialized base next := by
  obtain rfl := serialized.ordered.eq_of_mayStart mayStart
  have unfinished := lt_of_mayStart mayStart
  unfold Outbox.start
  split
  · exact ⟨index, serialized⟩
  · rename_i task isTask
    split
    · exact ⟨index + 1, serialized.refuse mayStart unfinished⟩
    · case h_2 connection isReady =>
        have live : outbox.terminated = none := by
          unfold preflight at isReady
          split at isReady
          · cases isReady
          · case isFalse isLive => exact Option.not_isSome_iff_eq_none.mp isLive
        exact serialized.allocate mayStart isTask unfinished live

/-! ## An encryption ends -/

theorem handedUnder_hand (outbox : Outbox) (flight : Flight) (thrown : Bool) (key : SessionKey) :
    (outbox.hand flight thrown).handedUnder key =
      outbox.handedUnder key ++
        if flight.key = key then
          [⟨flight.index, flight.key, flight.counter, flight.frame, flight.gen, thrown⟩]
        else
          [] := by
  rw [handedUnder, hand, List.filter_append, handedUnder]
  by_cases isKey : flight.key = key <;> simp [isKey]

/-- The frame of the task in turn extends the log. -/
theorem Logged.hand
    {flight : Flight}
    (logged : outbox.Logged base done)
    (isFirst : flight.index = done)
    (isNext : flight.counter = outbox.nextCounter base flight.key)
    (isKnown : flight.key ∈ outbox.keys)
    (isFrame : outbox.IsFrameOf flight.index flight.key flight.counter flight.frame)
    (thrown : Bool) :
    (outbox.hand flight thrown).Logged base (done + 1) where
  consecutive := by
    intro key
    rw [handedUnder_hand, List.map_append, logged.consecutive key]
    by_cases isKey : flight.key = key
    · subst isKey
      rw [if_pos rfl, List.length_append, List.length_singleton, List.range'_concat, isNext,
        nextCounter]
      simp
      omega
    · rw [if_neg isKey]
      simp
  sorted := by
    refine List.pairwise_append.mpr ⟨logged.sorted, List.pairwise_singleton _ _, ?_⟩
    intro earlier isEarlier later isLater
    rw [List.mem_singleton.mp isLater, isFirst]
    exact logged.settled earlier isEarlier
  settled := by
    intro handed isHanded
    rcases List.mem_append.mp isHanded with wasHanded | isNew
    · exact Nat.lt_succ_of_lt (logged.settled handed wasHanded)
    · rw [List.mem_singleton.mp isNew, isFirst]
      exact Nat.lt_succ_self _
  known := by
    intro handed isHanded
    rcases List.mem_append.mp isHanded with wasHanded | isNew
    · exact logged.known handed wasHanded
    · rw [List.mem_singleton.mp isNew]
      exact isKnown
  isFrame := by
    intro handed isHanded
    rcases List.mem_append.mp isHanded with wasHanded | isNew
    · exact logged.isFrame handed wasHanded
    · rw [List.mem_singleton.mp isNew]
      exact isFrame

theorem Serialized.finish
    {flight : Flight}
    (serialized : outbox.Serialized base done)
    (isFlight : flight ∈ outbox.flights)
    (outcome : Outcome) :
    ∃ next, (outbox.finish flight outcome).Serialized base next := by
  cases serialized.phase with
  | idle noFlight =>
      rw [noFlight] at isFlight
      cases isFlight
  | busy only isOnly isFirst isRunning isNext isKnown counted noFailure isFrame =>
      rw [isOnly, List.mem_singleton] at isFlight
      subst isFlight
      have unfinished : done < outbox.chain.entries.length := by
        obtain ⟨status, isStatus, -⟩ := (Option.any_eq_true _ _).mp isRunning
        obtain ⟨entry, isEntry, -⟩ := Option.map_eq_some_iff.mp isStatus
        exact (List.getElem?_eq_some_iff.mp isEntry).1
      have noFlight : (outbox.flights.filter fun other => other.index ≠ flight.index) = [] := by
        simp [isOnly]
      have isChain (ok : Bool) : outbox.chain.setStatus flight.index (.settled ok) =
          outbox.chain.setStatus done (.settled ok) := by rw [isFirst]
      have logged (thrown : Bool) :=
        serialized.logged.hand isFirst isNext isKnown isFrame thrown
      refine ⟨done + 1, ?_⟩
      cases outcome with
      | encryptFailed =>
          exact serialized.fail unfinished (isChain false) noFlight rfl rfl rfl
            (serialized.logged.next.setStatus (isChain false) rfl rfl rfl)
            (List.append_nil _).symm (List.forall_mem_nil _) (List.forall_mem_nil _)
            (by rw [← isFirst]; rfl) rfl noFailure
      | sendThrew =>
          refine serialized.fail unfinished (isChain false) noFlight rfl rfl rfl
            ((logged true).setStatus (isChain false) rfl rfl rfl) rfl ?_ ?_
            (by rw [← isFirst]; rfl) rfl noFailure
          · exact fun handed isHanded => List.mem_singleton.mp isHanded ▸ isFirst
          · exact fun handed isHanded => List.mem_singleton.mp isHanded ▸ rfl
      | sent =>
          refine serialized.settled unfinished (isChain true) noFlight rfl rfl rfl
            ((logged false).setStatus (isChain true) rfl rfl rfl) rfl ?_ (by simp) ?_ ?_
          · exact fun handed isHanded => List.mem_singleton.mp isHanded ▸ isFirst
          · intro _
            change outbox.active.counterCommitted + 1 =
              (outbox.hand flight false).nextCounter base outbox.active.sessionKey
            rw [counted]
            simp only [nextCounter] at isNext ⊢
            rw [handedUnder_hand]
            by_cases isKey : flight.key = outbox.active.sessionKey
            · rw [if_pos isKey, if_pos isKey, isNext, isKey, List.length_append,
                List.length_singleton]
              omega
            · rw [if_neg isKey, if_neg isKey, List.append_nil]
              omega
          · intro index isFailure
            change index ∈ outbox.failures at isFailure
            rw [noFailure] at isFailure
            cases isFailure

theorem Serialized.step
    (serialized : outbox.Serialized base done)
    (event : Event)
    (enabled : outbox.Enabled event) :
    ∃ next, (outbox.step event).Serialized base next := by
  cases event with
  | enqueued task => exact ⟨done, serialized.enqueue task⟩
  | started index storageOk => exact serialized.start enabled storageOk
  | encrypted index outcome =>
      simp only [Outbox.step]
      split
      · case h_1 flight isFlight =>
          exact serialized.finish (List.mem_of_find?_eq_some isFlight) outcome
      · exact ⟨done, serialized⟩
  | resumed index =>
      simp only [Outbox.step]
      split
      · case h_1 ok isResult => exact ⟨done, serialized.resume isResult⟩
      · exact ⟨done, serialized⟩
  | terminated reason =>
      exact ⟨done, serialized.keep (fun _ => rfl) outbox.connection outbox.mirror⟩
  | connectionChanged connection =>
      exact ⟨done, serialized.keep (fun isEnded => isEnded) connection outbox.mirror⟩
  | mirrored reserved =>
      exact ⟨done, serialized.keep (fun isEnded => isEnded) outbox.connection (some reserved)⟩
  | rekeyed key => exact ⟨done, serialized.rekey enabled⟩

theorem serialized_of_reachable (reachable : outbox.Reachable) :
    ∃ base done, outbox.Serialized base done := by
  induction reachable with
  | start isInitial =>
      obtain ⟨connection, mirror, role, key, counter, rfl⟩ := isInitial
      exact ⟨_, _, serialized_initial connection mirror role key counter⟩
  | next _ isEnabled _ inductionHypothesis =>
      obtain ⟨base, done, serialized⟩ := inductionHypothesis
      obtain ⟨next, stepped⟩ := serialized.step _ isEnabled
      exact ⟨base, next, stepped⟩

/-! ## What callers and the peer can rely on -/

def hasStarted (outbox : Outbox) (index : Nat) : Bool :=
  (outbox.chain.status? index).any fun status => !status.isWaiting

/-- The order of the tasks, their results, and the counters of their frames.  A task that
passes its checks, gets a counter and encrypts its frame hands it over once the encryption
is done and the socket takes it. -/
structure InOrder (outbox : Outbox) : Prop where
  oneAtATime : ∀ first second,
    outbox.chain.isRunning first → outbox.chain.isRunning second → first = second
  inTurn : ∀ earlier later,
    earlier < later → outbox.hasStarted later → outbox.chain.isSettled earlier
  notBlocked : ∀ index < outbox.chain.entries.length, ¬outbox.chain.isSettled index →
    ∃ first ≤ index, outbox.chain.mayStart first ∨ (outbox.flightOf first).isSome
  ownResult : ∀ pair ∈ outbox.received, outbox.resultOf pair.1 = some pair.2
  sent : ∀ index, outbox.resultOf index = some true ↔
    ∃ handed ∈ outbox.handed, handed.index = index ∧ handed.thrown = false
  refused : ∀ index storageOk, outbox.chain.mayStart index → outbox.preflight = none →
    (outbox.start index storageOk).active = outbox.active ∧
      (outbox.start index storageOk).mirror = outbox.mirror ∧
      (outbox.start index storageOk).handed = outbox.handed ∧
      (outbox.start index storageOk).resultOf index = some false
  encrypts : ∀ index task connection storageOk stored state counter frame,
    outbox.chain.mayStart index → outbox.chain.task? index = some task →
      outbox.preflight = some connection →
      allocateCounter (outbox.persistCounterReserved storageOk) outbox.mirror outbox.active
          task.kind = (stored, state, some counter) →
      encryptRelayFrame state.role state.sessionKey task.kind counter task.plaintext =
          some frame →
        (outbox.start index storageOk).flightOf index =
          some
            { index
              key := state.sessionKey
              counter
              frame
              gen := connection.gen
              encryptFailReason := task.encryptFailReason }
  handsOver : ∀ index flight, outbox.flightOf index = some flight →
    (outbox.step (.encrypted index .sent)).handed = outbox.handed ++
        [{ index
           key := flight.key
           counter := flight.counter
           frame := flight.frame
           gen := flight.gen
           thrown := false }] ∧
      (outbox.step (.encrypted index .sent)).resultOf index = some true
  ownFrame : ∀ handed ∈ outbox.handed,
    outbox.IsFrameOf handed.index handed.key handed.counter handed.frame
  enqueueOrder : outbox.handed.Pairwise fun earlier later => earlier.index < later.index
  consecutive : ∀ key, ∃ first,
    (outbox.handedUnder key).map Handed.counter =
      List.range' first (outbox.handedUnder key).length
  noLaterFrame : ∀ index ∈ outbox.failures,
    outbox.terminated.isSome ∧ ∀ handed ∈ outbox.handed, handed.index ≤ index

theorem Serialized.inTurn
    (serialized : outbox.Serialized base done)
    {earlier later : Nat}
    (isBefore : earlier < later)
    (hasStarted : outbox.hasStarted later) :
    outbox.chain.isSettled earlier := by
  obtain ⟨status, isStatus, notWaiting⟩ := (Option.any_eq_true _ _).mp hasStarted
  obtain ⟨entry, isEntry, rfl⟩ := Option.map_eq_some_iff.mp isStatus
  have notLater : later ≤ done := by
    by_contra isLater
    have isWaiting := serialized.ordered.waiting later entry isEntry (by omega)
    rw [isWaiting] at notWaiting
    cases notWaiting
  have isPlace := (List.getElem?_eq_some_iff.mp isEntry).1
  have isEarlier : outbox.chain.entries[earlier]? = some outbox.chain.entries[earlier] :=
    List.getElem?_eq_getElem (by omega)
  rw [Chain.isSettled, Chain.status?, isEarlier, Option.map_some, Option.any_some]
  exact serialized.ordered.settled earlier _ isEarlier (by omega)

theorem Serialized.notBlocked
    (serialized : outbox.Serialized base done)
    {index : Nat}
    (isPlace : index < outbox.chain.entries.length)
    (notSettled : ¬outbox.chain.isSettled index) :
    ∃ first ≤ index, outbox.chain.mayStart first ∨ (outbox.flightOf first).isSome := by
  have isEntry := List.getElem?_eq_getElem isPlace
  have notDone : done ≤ index := by
    by_contra isDone
    have isSettled := serialized.ordered.settled index _ isEntry (by omega)
    rw [Chain.isSettled, Chain.status?, isEntry, Option.map_some, Option.any_some] at notSettled
    exact notSettled isSettled
  refine ⟨done, notDone, ?_⟩
  rcases serialized.ordered.progress (by omega) with isRunning | mayStart
  · refine .inr ?_
    cases serialized.phase with
    | idle noFlight notRunning =>
        rw [notRunning] at isRunning
        cases isRunning
    | busy flight isFlight isFirst =>
        simp [flightOf, isFlight, isFirst]
  · exact .inl mayStart

/-- A task in the chain has the result that it settles with. -/
theorem resultOf_settle
    {index : Nat}
    {status : Status Bool}
    (isStatus : outbox.chain.status? index = some status)
    (ok : Bool) :
    (outbox.settle index ok).resultOf index = some ok := by
  have ownStatus : (outbox.settle index ok).chain.status? index = some (.settled ok) := by
    rw [Outbox.settle, status?_setStatus, isStatus]
    simp
  simp only [resultOf, ownStatus]

theorem start_refused
    {index : Nat}
    (storageOk : Bool)
    (mayStart : outbox.chain.mayStart index)
    (refused : outbox.preflight = none) :
    outbox.start index storageOk = outbox.settle index false ∧
      (outbox.settle index false).resultOf index = some false := by
  obtain ⟨entry, isEntry, -⟩ := (Option.any_eq_true _ _).mp mayStart
  constructor
  · simp only [Outbox.start, Chain.task?, isEntry, Option.map_some, refused]
  · exact resultOf_settle (by rw [Chain.status?, isEntry, Option.map_some]) false

/-- A task that passes its checks encrypts its frame: none is in flight before it. -/
theorem Serialized.start_encrypts
    (serialized : outbox.Serialized base done)
    {index : Nat}
    {task : RelaySendTask}
    {connection : Connection}
    (storageOk : Bool)
    {stored : Option Nat}
    {state : SendState}
    {counter : Nat}
    {frame : RelayFrame}
    (mayStart : outbox.chain.mayStart index)
    (isTask : outbox.chain.task? index = some task)
    (passes : outbox.preflight = some connection)
    (allocates :
      allocateCounter (outbox.persistCounterReserved storageOk) outbox.mirror outbox.active
        task.kind = (stored, state, some counter))
    (encrypts :
      encryptRelayFrame state.role state.sessionKey task.kind counter task.plaintext =
        some frame) :
    (outbox.start index storageOk).flightOf index =
      some
        { index
          key := state.sessionKey
          counter
          frame
          gen := connection.gen
          encryptFailReason := task.encryptFailReason } := by
  have noFlight : outbox.flights = [] :=
    (serialized.idle_of_mayStart (serialized.ordered.eq_of_mayStart mayStart ▸ mayStart)).1
  unfold Outbox.start
  rw [isTask]
  dsimp only
  rw [passes]
  dsimp only
  unfold Outbox.allocate
  rw [allocates]
  dsimp only
  rw [encrypts]
  simp [flightOf, noFlight]

/-- An encrypted frame that the socket takes is handed over, and its task has sent. -/
theorem Serialized.sent_handsOver
    (serialized : outbox.Serialized base done)
    {index : Nat}
    {flight : Flight}
    (isFlight : outbox.flightOf index = some flight) :
    (outbox.step (.encrypted index .sent)).handed = outbox.handed ++
        [{ index
           key := flight.key
           counter := flight.counter
           frame := flight.frame
           gen := flight.gen
           thrown := false }] ∧
      (outbox.step (.encrypted index .sent)).resultOf index = some true := by
  have isIndex : flight.index = index := by
    simpa using List.find?_some isFlight
  have isStep : outbox.step (.encrypted index .sent) =
      (outbox.hand flight false).settle index true := by
    simp only [Outbox.step, isFlight, Outbox.finish, isIndex]
  rw [isStep]
  refine ⟨?_, ?_⟩
  · change outbox.handed ++ [_] = _
    rw [isIndex]
  · cases serialized.phase with
    | idle noFlight => simp [flightOf, noFlight] at isFlight
    | busy running isFlights isFirst isRunning =>
        have isRunning : outbox.chain.isRunning index := by
          have isOnly : running = flight := by
            simp only [flightOf, isFlights] at isFlight
            exact List.mem_singleton.mp (List.mem_of_find?_eq_some isFlight) |>.symm
          rw [← isIndex, ← isOnly, isFirst]
          exact isRunning
        obtain ⟨status, isStatus, -⟩ := (Option.any_eq_true _ _).mp isRunning
        exact resultOf_settle isStatus true

theorem Serialized.inOrder (serialized : outbox.Serialized base done) : outbox.InOrder where
  oneAtATime := fun _ _ isFirst isSecond =>
    (serialized.ordered.eq_of_isRunning isFirst).trans
      (serialized.ordered.eq_of_isRunning isSecond).symm
  inTurn := fun _ _ => serialized.inTurn
  notBlocked := fun _ => serialized.notBlocked
  ownResult := serialized.received
  sent := serialized.sent
  refused := fun index storageOk mayStart refused => by
    obtain ⟨isSettled, isFalse⟩ := start_refused storageOk mayStart refused
    rw [isSettled]
    exact ⟨rfl, rfl, rfl, isFalse⟩
  encrypts := fun _ _ _ storageOk _ _ _ _ => serialized.start_encrypts storageOk
  handsOver := fun _ _ => serialized.sent_handsOver
  ownFrame := serialized.logged.isFrame
  enqueueOrder := serialized.logged.sorted
  consecutive := fun key => ⟨base key + 1, serialized.logged.consecutive key⟩
  noLaterFrame := serialized.failed

/--
In every run, whatever the latencies and the failures, the tasks run one at a
time and in order, and the counters of the frames that are handed over under one
key have no gap.
-/
theorem inOrder_of_reachable (reachable : outbox.Reachable) : outbox.InOrder := by
  obtain ⟨base, done, serialized⟩ := serialized_of_reachable reachable
  exact serialized.inOrder

/-- Two messages are sent; the second is refused by the socket's buffer. -/
def refusedSecond : List Event :=
  let task : RelaySendTask :=
    { kind := .msg, plaintext := .bytes [], encryptFailReason := .encryptFailed }
  [.enqueued task, .enqueued task, .started 0 true, .encrypted 0 .sent,
    .connectionChanged (some ⟨0, .opened, bufferThresholdBytes + 1⟩), .started 1 true,
    .resumed 1]

theorem inOrder_of_reachable_refusedSecond :
    (sends.run (initial (some ⟨0, .opened, 0⟩) none .initiator (.handshake ⟨0, 0⟩ ⟨1, 0⟩) 0)
      refusedSecond).InOrder :=
  inOrder_of_reachable
    (Machine.Reachable.run (.start ⟨_, _, _, _, _, rfl⟩) (by decide +kernel))

end Outbox

end Unseen.Outbound
