import Mathlib.Algebra.Ring.Nat
import Mathlib.Data.List.Basic

namespace Unseen

/-!
# Relay nonces, frame kinds and their associated data

The 12-byte AES-GCM nonce of a relay frame is a direction byte, the send
counter as an unsigned 64-bit little-endian integer, and three reserved zero
bytes.  The frame kind is not part of the nonce: it is authenticated through
the associated data.
-/

/-- A byte string. -/
abbrev Bytes := List UInt8

/-- The two parties of a room, named by the order in which they entered it. -/
inductive Role where
  | initiator
  | joiner
  deriving DecidableEq, Repr

namespace Role

/-- The other party. -/
def peer : Role → Role
  | .initiator => .joiner
  | .joiner => .initiator

@[simp]
theorem peer_peer (role : Role) : role.peer.peer = role := by
  cases role <;> rfl

end Role

/-- Direction byte a party puts into the nonces of its own frames. -/
def directionForRole : Role → UInt8
  | .initiator => 0x01
  | .joiner => 0x02

/-- Direction byte a party expects in the nonces of its peer's frames. -/
def expectedPeerDirection : Role → UInt8
  | .initiator => 0x02
  | .joiner => 0x01

theorem expectedPeerDirection_eq (role : Role) :
    expectedPeerDirection role = directionForRole role.peer := by
  cases role <;> rfl

theorem directionForRole_injective
    {first second : Role}
    (same : directionForRole first = directionForRole second) :
    first = second := by
  cases first <;> cases second <;> first | rfl | exact absurd same (by decide)

/-! ## Little-endian integers -/

/-- The low `width` bytes of a number, least significant byte first. -/
def littleEndian : Nat → Nat → Bytes
  | 0, _ => []
  | width + 1, value => UInt8.ofNat value :: littleEndian width (value / 256)

/-- The number whose little-endian bytes are given. -/
def fromLittleEndian : Bytes → Nat
  | [] => 0
  | byte :: rest => byte.toNat + 256 * fromLittleEndian rest

@[simp]
theorem length_littleEndian (width value : Nat) :
    (littleEndian width value).length = width := by
  induction width generalizing value with
  | zero => rfl
  | succ width inductionHypothesis =>
      simp [littleEndian, inductionHypothesis]

theorem fromLittleEndian_littleEndian
    {width value : Nat}
    (fits : value < 256 ^ width) :
    fromLittleEndian (littleEndian width value) = value := by
  induction width generalizing value with
  | zero =>
      simp only [Nat.pow_zero, Nat.lt_one_iff] at fits
      subst fits
      rfl
  | succ width inductionHypothesis =>
      have quotientFits : value / 256 < 256 ^ width := by
        rw [Nat.div_lt_iff_lt_mul (by decide)]
        simpa [Nat.pow_succ] using fits
      simp only [littleEndian, fromLittleEndian,
        inductionHypothesis quotientFits, UInt8.toNat_ofNat']
      omega

theorem littleEndian_fromLittleEndian (bytes : Bytes) :
    littleEndian bytes.length (fromLittleEndian bytes) = bytes := by
  induction bytes with
  | nil => rfl
  | cons byte rest inductionHypothesis =>
      have byteBound : byte.toNat < 256 := byte.toNat_lt
      have low :
          UInt8.ofNat (byte.toNat + 256 * fromLittleEndian rest) = byte := by
        apply UInt8.toNat_inj.mp
        simp only [UInt8.toNat_ofNat']
        omega
      have high :
          (byte.toNat + 256 * fromLittleEndian rest) / 256 =
            fromLittleEndian rest := by
        omega
      simp only [List.length_cons, littleEndian, fromLittleEndian, low, high,
        inductionHypothesis]

theorem fromLittleEndian_lt (bytes : Bytes) :
    fromLittleEndian bytes < 256 ^ bytes.length := by
  induction bytes with
  | nil => exact Nat.one_pos
  | cons byte rest inductionHypothesis =>
      have byteBound : byte.toNat < 256 := byte.toNat_lt
      rw [fromLittleEndian, List.length_cons, Nat.pow_succ]
      omega

/-! ## Nonces -/

/-- `NONCE_LENGTH` -/
def nonceLength : Nat := 12

/-- `MAX_COUNTER`, the largest unsigned 64-bit integer. -/
def maxCounter : Nat := 2 ^ 64 - 1

/-- A nonce: the wire codec rejects frames whose nonce is not 12 bytes. -/
abbrev Nonce := { bytes : Bytes // bytes.length = nonceLength }

/-- The nonce of one direction and counter; counters outside 1..2^64-1 throw. -/
def makeNonce (direction : UInt8) (counter : Nat) : Option Nonce :=
  if counter < 1 ∨ counter > maxCounter then
    none
  else
    some ⟨direction :: littleEndian 8 counter ++ [0, 0, 0], by
      simp [nonceLength]⟩

/-- The fields `parseNonce` reads out of a nonce. -/
structure NonceFields where
  direction : UInt8
  counter : Nat
  reservedAllZero : Bool
  deriving DecidableEq, Repr

/-- Read direction, counter and the reserved bytes of a nonce. -/
def parseNonce (nonce : Nonce) : NonceFields where
  direction := nonce.val.headD 0
  counter := fromLittleEndian ((nonce.val.drop 1).take 8)
  reservedAllZero := (nonce.val.drop 9).all (· == 0)

theorem makeNonce_bounds
    {direction : UInt8}
    {counter : Nat}
    {nonce : Nonce}
    (made : makeNonce direction counter = some nonce) :
    1 ≤ counter ∧ counter ≤ maxCounter := by
  unfold makeNonce at made
  split at made
  · cases made
  · omega

/-- Parsing a nonce that was made gives back its direction and counter. -/
theorem parseNonce_makeNonce
    {direction : UInt8}
    {counter : Nat}
    {nonce : Nonce}
    (made : makeNonce direction counter = some nonce) :
    parseNonce nonce = ⟨direction, counter, true⟩ := by
  have bounds := makeNonce_bounds made
  have fits : counter < 256 ^ 8 := by
    have := bounds.2
    unfold maxCounter at this
    omega
  unfold makeNonce at made
  rw [if_neg (by omega)] at made
  obtain rfl := Option.some.inj made
  have counterBytes :
      (littleEndian 8 counter ++ [0, 0, 0]).take 8 = littleEndian 8 counter := by
    rw [List.take_append_of_le_length (by simp), List.take_of_length_le (by simp)]
  have reservedBytes :
      (littleEndian 8 counter ++ [0, 0, 0]).drop 8 = [0, 0, 0] := by
    rw [List.drop_append_of_le_length (by simp), List.drop_of_length_le (by simp)]
    rfl
  simp only [parseNonce, List.cons_append, List.headD_cons, List.drop_succ_cons,
    List.drop_zero, counterBytes, reservedBytes,
    fromLittleEndian_littleEndian fits]
  rfl

/-! ## Frame kinds -/

/-- The kinds of relay frames. -/
inductive RelayKind where
  | msg
  | chunk
  | modeUpgraded
  | rekeyInit
  | rekeyAck
  | rekeyDone
  deriving DecidableEq, Repr

/-- Wire byte of a relay kind. -/
def RelayKind.toByte : RelayKind → UInt8
  | .msg => 0x00
  | .chunk => 0x01
  | .modeUpgraded => 0x10
  | .rekeyInit => 0x11
  | .rekeyAck => 0x12
  | .rekeyDone => 0x13

theorem RelayKind.toByte_injective
    {first second : RelayKind}
    (same : first.toByte = second.toByte) :
    first = second := by
  cases first <;> cases second <;> first | rfl | exact absurd same (by decide)

/-- `AAD_PREFIX`: the UTF-8 bytes of the protocol label `unseen:v1:`. -/
def aadPrefix : Bytes :=
  [0x75, 0x6e, 0x73, 0x65, 0x65, 0x6e, 0x3a, 0x76, 0x31, 0x3a]

/-- Associated data that authenticates the kind of a relay frame. -/
def aadFor (kind : RelayKind) : Bytes :=
  aadPrefix ++ [kind.toByte]

theorem aadFor_injective
    {first second : RelayKind}
    (same : aadFor first = aadFor second) :
    first = second := by
  apply RelayKind.toByte_injective
  simpa [aadFor] using same

end Unseen
