import Unseen.Send

namespace Unseen

/-!
# Validation and decryption of relay frames

A frame is accepted when its nonce names the peer's direction, its reserved
bytes are zero, its counter follows the last accepted one, and it decrypts.
In strict mode the counter must be the next one; the first frame after a
reconnect may skip counters that were reserved and never sent.
-/

/-- How far a frame's counter may be ahead of the last accepted one. -/
inductive CounterMode where
  | strict
  | firstGapAllowed
  deriving DecidableEq, Repr

/-- What the receiver knows of one direction. -/
structure ReceiveState where
  counterRecv : Nat
  role : Role
  sessionKey : SessionKey

/-- Result of validating and decrypting a frame. -/
inductive RelayFrameResult where
  | ok (plaintext : Plaintext) (counter : Nat)
  | invalidDirection
  | invalidReserved
  | counterGap
  | decryptFailed

/-- The counter check of a mode: `counter` may follow `counterRecv`. -/
def counterFollows (mode : CounterMode) (counterRecv counter : Nat) : Bool :=
  match mode with
  | .strict => counter == counterRecv + 1
  | .firstGapAllowed => counterRecv < counter

/-- `validateAndDecryptFrame` -/
def validateAndDecryptFrame
    (state : ReceiveState)
    (kind : RelayKind)
    (nonce : Nonce)
    (ciphertext : Ciphertext Plaintext)
    (mode : CounterMode) : RelayFrameResult :=
  let fields := parseNonce nonce
  if fields.direction ≠ expectedPeerDirection state.role then
    .invalidDirection
  else if !fields.reservedAllZero then
    .invalidReserved
  else if !counterFollows mode state.counterRecv fields.counter then
    .counterGap
  else
    match aesGcmDecrypt state.sessionKey nonce (aadFor kind) ciphertext with
    | none => .decryptFailed
    | some plaintext => .ok plaintext fields.counter

/-- Everything an accepted frame has passed. -/
theorem validateAndDecryptFrame_ok
    {state : ReceiveState}
    {kind : RelayKind}
    {nonce : Nonce}
    {ciphertext : Ciphertext Plaintext}
    {mode : CounterMode}
    {plaintext : Plaintext}
    {counter : Nat}
    (accepted :
      validateAndDecryptFrame state kind nonce ciphertext mode =
        .ok plaintext counter) :
    parseNonce nonce = ⟨expectedPeerDirection state.role, counter, true⟩ ∧
      counterFollows mode state.counterRecv counter = true ∧
      ciphertext = .sealed state.sessionKey nonce (aadFor kind) plaintext := by
  simp only [validateAndDecryptFrame] at accepted
  split at accepted
  · cases accepted
  · rename_i direction
    split at accepted
    · cases accepted
    · rename_i reserved
      split at accepted
      · cases accepted
      · rename_i follows
        split at accepted
        · cases accepted
        · rename_i decrypted
          obtain ⟨rfl, rfl⟩ := RelayFrameResult.ok.inj accepted
          have directionEq := not_not.mp direction
          have reservedEq : (parseNonce nonce).reservedAllZero = true := by
            simpa using reserved
          refine ⟨?_, by simpa using follows, aesGcmDecrypt_eq_some.mp decrypted⟩
          rw [← directionEq, ← reservedEq]

/-- Result of `decryptIncoming`. -/
inductive ReceiveResult where
  | ok (envelope : PlaintextEnvelope) (counter : Nat)
  | invalidDirection
  | invalidReserved
  | counterGap
  | decryptFailed
  | malformedEnvelope

/--
`decryptIncoming`.  The counter is recorded and persisted only after the
envelope was decoded; a throw while persisting is reported as a malformed
envelope, as the source's single `catch` does.
-/
def decryptIncoming
    {Store : Type}
    (persistCounterRecv : Option (PersistCounter Store))
    (store : Store)
    (state : ReceiveState)
    (nonce : Nonce)
    (ciphertext : Ciphertext Plaintext)
    (mode : CounterMode) : Store × ReceiveState × ReceiveResult :=
  match validateAndDecryptFrame state .msg nonce ciphertext mode with
  | .invalidDirection => (store, state, .invalidDirection)
  | .invalidReserved => (store, state, .invalidReserved)
  | .counterGap => (store, state, .counterGap)
  | .decryptFailed => (store, state, .decryptFailed)
  | .ok plaintext counter =>
      match decodeEnvelope plaintext with
      | none => (store, state, .malformedEnvelope)
      | some envelope =>
          let advanced := { state with counterRecv := counter }
          match persistCounterRecv with
          | none => (store, advanced, .ok envelope counter)
          | some persist =>
              match persist store counter with
              | (stored, true) => (stored, advanced, .ok envelope counter)
              | (stored, false) => (stored, advanced, .malformedEnvelope)

/-- What persisting preserves, receiving preserves. -/
theorem decryptIncoming_store
    {Store : Type}
    (persistCounterRecv : Option (PersistCounter Store))
    (Holds : Store → Prop)
    (preserved :
      ∀ persist ∈ persistCounterRecv, ∀ store counter,
        Holds store → Holds (persist store counter).1)
    {store : Store}
    (state : ReceiveState)
    (nonce : Nonce)
    (ciphertext : Ciphertext Plaintext)
    (mode : CounterMode)
    (holds : Holds store) :
    Holds (decryptIncoming persistCounterRecv store state nonce ciphertext mode).1 := by
  unfold decryptIncoming
  split
  · exact holds
  · exact holds
  · exact holds
  · exact holds
  · rename_i counter _
    split
    · exact holds
    · cases persistCounterRecv with
      | none => exact holds
      | some persist =>
          have stored := preserved persist rfl store counter holds
          revert stored
          simp only
          generalize persist store counter = result
          obtain ⟨after, ok⟩ := result
          cases ok <;> exact id

/-- An envelope is reported only for a valid frame, whose counter was recorded. -/
theorem decryptIncoming_ok
    {Store : Type}
    (persistCounterRecv : Option (PersistCounter Store))
    (store : Store)
    (state : ReceiveState)
    (nonce : Nonce)
    (ciphertext : Ciphertext Plaintext)
    (mode : CounterMode)
    (envelope : PlaintextEnvelope)
    (counter : Nat) :
    (decryptIncoming persistCounterRecv store state nonce ciphertext mode).2.2 =
        .ok envelope counter →
      ∃ plaintext,
        validateAndDecryptFrame state .msg nonce ciphertext mode =
            .ok plaintext counter ∧
          decodeEnvelope plaintext = some envelope ∧
          (decryptIncoming persistCounterRecv store state nonce ciphertext mode).2.1 =
            { state with counterRecv := counter } := by
  unfold decryptIncoming
  split
  · simp
  · simp
  · simp
  · simp
  · rename_i plaintext accepted valid
    split
    · simp
    · rename_i decoded decoding
      split
      · intro result
        obtain ⟨rfl, rfl⟩ := ReceiveResult.ok.inj result
        exact ⟨plaintext, valid, decoding, rfl⟩
      · split
        · intro result
          obtain ⟨rfl, rfl⟩ := ReceiveResult.ok.inj result
          exact ⟨plaintext, valid, decoding, rfl⟩
        · simp

/-- `decryptChunkFrame` -/
def decryptChunkFrame
    (state : ReceiveState)
    (nonce : Nonce)
    (ciphertext : Ciphertext Plaintext)
    (mode : CounterMode) : ReceiveState × RelayFrameResult :=
  match validateAndDecryptFrame state .chunk nonce ciphertext mode with
  | .ok plaintext counter =>
      ({ state with counterRecv := counter }, .ok plaintext counter)
  | refused => (state, refused)

/-- A decrypted chunk frame was valid, and its counter is recorded. -/
theorem decryptChunkFrame_ok
    {state after : ReceiveState}
    {nonce : Nonce}
    {ciphertext : Ciphertext Plaintext}
    {mode : CounterMode}
    {plaintext : Plaintext}
    {counter : Nat}
    (decrypted :
      decryptChunkFrame state nonce ciphertext mode = (after, .ok plaintext counter)) :
    validateAndDecryptFrame state .chunk nonce ciphertext mode = .ok plaintext counter ∧
      after = { state with counterRecv := counter } := by
  unfold decryptChunkFrame at decrypted
  split at decrypted
  · rename_i valid
    obtain ⟨rfl, result⟩ := Prod.mk.inj decrypted
    obtain ⟨rfl, rfl⟩ := RelayFrameResult.ok.inj result
    exact ⟨valid, rfl⟩
  · rename_i notOk
    obtain ⟨-, result⟩ := Prod.mk.inj decrypted
    exact absurd result (notOk _ _)

end Unseen
