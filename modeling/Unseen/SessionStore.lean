import Unseen.Send

namespace Unseen

/-!
# The stored session record and its mirror

A PRF session keeps one record in `sessionStorage`: the wrapped session key,
the send bound, the receive counter and the progress of the hardening.  A
mirror holds the last record it was given and rewrites the whole record
whenever one of its fields changes.
-/

/-- Role as the record abbreviates it. -/
inductive ShortRole where
  | i
  | j
  deriving DecidableEq, Repr

/-- `encodeRole` -/
def encodeRole : Role → ShortRole
  | .initiator => .i
  | .joiner => .j

/-- `decodeRole` -/
def decodeRole : ShortRole → Role
  | .i => .initiator
  | .j => .joiner

@[simp]
theorem decodeRole_encodeRole (role : Role) :
    decodeRole (encodeRole role) = role := by
  cases role <;> rfl

/-- Whether the record wraps the handshake key or a rekeyed one. -/
inductive ModePhase where
  | soft
  | hardened
  deriving DecidableEq, Repr

/-- The short authentication string is a digest of the session key. -/
abbrev Sas := SessionKey

/-- The record `parseStored` accepts; `s` and `n` are decimal counters. -/
structure StoredSession where
  r : ShortRole
  k : WrappedKey
  s : Nat
  n : Nat
  cid : CredentialId
  sas : Option Sas
  modePhase : Option ModePhase
  rekeyInProgress : Bool
  deriving DecidableEq

namespace StoredSession

/-- The record `setCounterSend` writes. -/
def withCounterSend (record : StoredSession) (counter : Nat) : StoredSession :=
  { record with s := counter }

/-- The record `setCounterRecv` writes. -/
def withCounterRecv (record : StoredSession) (counter : Nat) : StoredSession :=
  { record with n := counter }

/-- The record `setRekeyInProgress` writes. -/
def withRekeyInProgress (record : StoredSession) : StoredSession :=
  { record with rekeyInProgress := true }

end StoredSession

/-- `resumeKeyExtractable` -/
def resumeKeyExtractable (modePhase : Option ModePhase) : Bool :=
  modePhase != some .hardened

/-! ## Reconnect backoff -/

/-- `BACKOFF_SCHEDULE_MS` -/
def backoffScheduleMs : List Nat :=
  [1000, 2000, 4000, 8000, 16000, 30000, 60000]

/-- `RECONNECT_CUMULATIVE_CAP_MS` -/
def reconnectCumulativeCapMs : Nat := 5 * 60 * 1000

/-- `nextReconnectDelayMs`; `none` once the budget is used up. -/
def nextReconnectDelayMs (attempt elapsedMs : Nat) : Option Nat :=
  if elapsedMs ≥ reconnectCumulativeCapMs then
    none
  else
    (backoffScheduleMs[min attempt (backoffScheduleMs.length - 1)]?).map
      fun candidate => min candidate (reconnectCumulativeCapMs - elapsedMs)

end Unseen
