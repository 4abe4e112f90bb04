import Unseen.Wire

namespace Unseen

/-!
# Send counters and relay frame encryption

The counter allocator hands out counters from a reserved block and reserves,
and persists, a new block before it hands out the first counter of it.
-/

/-- `RESERVATION_BLOCK_TEXT` -/
def reservationBlockText : Nat := 1

/-- `RESERVATION_BLOCK_CHUNK` -/
def reservationBlockChunk : Nat := 64

/-- The counters of one direction together with the key they are used under. -/
structure SendState where
  counterCommitted : Nat
  counterReserved : Nat
  role : Role
  sessionKey : SessionKey

/-- Number of counters reserved at once for a frame kind. -/
def blockSizeFor : RelayKind → Nat
  | .chunk => reservationBlockChunk
  | _ => reservationBlockText

theorem blockSizeFor_pos (kind : RelayKind) : 0 < blockSizeFor kind := by
  cases kind <;> decide

/--
`persistCounterReserved`: stores a reserved bound and says whether the write
succeeded; a failed write throws.
-/
abbrev PersistCounter (Store : Type) := Store → Nat → Store × Bool

/--
`allocateCounter`.  The third component is the counter handed out; it is
`none` when persisting the next bound threw, in which case both counters are
as they were.
-/
def allocateCounter
    {Store : Type}
    (persistCounterReserved : Option (PersistCounter Store))
    (store : Store)
    (state : SendState)
    (kind : RelayKind) : Store × SendState × Option Nat :=
  let handOut (store : Store) (state : SendState) :=
    (store,
      { state with counterCommitted := state.counterCommitted + 1 },
      some (state.counterCommitted + 1))
  if state.counterCommitted ≥ state.counterReserved then
    let nextReserved := state.counterReserved + blockSizeFor kind
    match persistCounterReserved with
    | none =>
        handOut store { state with counterReserved := nextReserved }
    | some persist =>
        match persist store nextReserved with
        | (stored, true) =>
            handOut stored { state with counterReserved := nextReserved }
        | (stored, false) => (stored, state, none)
  else
    handOut store state

/-- How a counter is allocated: from the reserved block, or after reserving the next. -/
theorem allocateCounter_cases
    {Store : Type}
    (persistCounterReserved : Option (PersistCounter Store))
    (store : Store)
    (state : SendState)
    (kind : RelayKind) :
    (state.counterCommitted < state.counterReserved ∧
        allocateCounter persistCounterReserved store state kind =
          (store, { state with counterCommitted := state.counterCommitted + 1 },
            some (state.counterCommitted + 1))) ∨
      (state.counterReserved ≤ state.counterCommitted ∧
        ((∃ stored,
            (persistCounterReserved = none ∧ stored = store ∨
              ∃ persist, persistCounterReserved = some persist ∧
                persist store (state.counterReserved + blockSizeFor kind) =
                  (stored, true)) ∧
            allocateCounter persistCounterReserved store state kind =
              (stored,
                { state with
                  counterCommitted := state.counterCommitted + 1
                  counterReserved := state.counterReserved + blockSizeFor kind },
                some (state.counterCommitted + 1))) ∨
          ∃ stored persist, persistCounterReserved = some persist ∧
            persist store (state.counterReserved + blockSizeFor kind) = (stored, false) ∧
            allocateCounter persistCounterReserved store state kind =
              (stored, state, none))) := by
  by_cases exhausted : state.counterReserved ≤ state.counterCommitted
  · refine Or.inr ⟨exhausted, ?_⟩
    simp only [allocateCounter, ge_iff_le, exhausted, ↓reduceIte]
    cases persistCounterReserved with
    | none => exact Or.inl ⟨store, Or.inl ⟨rfl, rfl⟩, rfl⟩
    | some persist =>
        cases persisted : persist store (state.counterReserved + blockSizeFor kind) with
        | mk stored ok =>
            cases ok with
            | true =>
                exact Or.inl ⟨stored, Or.inr ⟨persist, rfl, persisted⟩, by simp [persisted]⟩
            | false =>
                exact Or.inr ⟨stored, persist, rfl, persisted, by simp [persisted]⟩
  · refine Or.inl ⟨Nat.lt_of_not_le exhausted, ?_⟩
    simp only [allocateCounter, ge_iff_le, exhausted, ↓reduceIte]

/-- What persisting preserves, allocating preserves. -/
theorem allocateCounter_store
    {Store : Type}
    (persistCounterReserved : Option (PersistCounter Store))
    (Holds : Store → Prop)
    (preserved :
      ∀ persist ∈ persistCounterReserved, ∀ store counter,
        Holds store → Holds (persist store counter).1)
    {store : Store}
    (state : SendState)
    (kind : RelayKind)
    (holds : Holds store) :
    Holds (allocateCounter persistCounterReserved store state kind).1 := by
  simp only [allocateCounter]
  split
  · cases persistCounterReserved with
    | none => exact holds
    | some persist =>
        have stored :=
          preserved persist rfl store (state.counterReserved + blockSizeFor kind) holds
        revert stored
        simp only
        generalize persist store (state.counterReserved + blockSizeFor kind) = result
        obtain ⟨after, ok⟩ := result
        cases ok <;> exact id
  · exact holds

/-- `encryptRelayFrame`; `none` when the counter does not fit a nonce. -/
def encryptRelayFrame
    (role : Role)
    (sessionKey : SessionKey)
    (kind : RelayKind)
    (counter : Nat)
    (plaintext : Plaintext) : Option RelayFrame :=
  (makeNonce (directionForRole role) counter).map fun nonce =>
    { kind
      nonce
      ciphertext := aesGcmEncrypt sessionKey nonce (aadFor kind) plaintext }

/-- The shape of a frame that could be encrypted. -/
theorem encryptRelayFrame_eq_some
    {role : Role}
    {sessionKey : SessionKey}
    {kind : RelayKind}
    {counter : Nat}
    {plaintext : Plaintext}
    {frame : RelayFrame}
    (encrypted :
      encryptRelayFrame role sessionKey kind counter plaintext = some frame) :
    ∃ nonce,
      makeNonce (directionForRole role) counter = some nonce ∧
        frame =
          { kind
            nonce
            ciphertext := .sealed sessionKey nonce (aadFor kind) plaintext } := by
  unfold encryptRelayFrame at encrypted
  obtain ⟨nonce, made, rfl⟩ := Option.map_eq_some_iff.mp encrypted
  exact ⟨nonce, made, rfl⟩

/-! ## Preflight -/

/-- `WebSocket.readyState` -/
inductive ReadyState where
  | connecting
  | opened
  | closing
  | closed
  deriving DecidableEq, Repr

/-- Result of the check before a send. -/
inductive Preflight where
  | ok
  | notReady
  | backpressure
  deriving DecidableEq, Repr

/-- `canAttemptSend` -/
def canAttemptSend (readyState : ReadyState) (bufferedAmount : Nat) : Preflight :=
  if readyState ≠ .opened then
    .notReady
  else if bufferedAmount > bufferThresholdBytes then
    .backpressure
  else
    .ok

end Unseen
