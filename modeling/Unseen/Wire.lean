import Unseen.Crypto

namespace Unseen

/-!
# Envelopes, plaintexts and server frames

The content of a relay frame before encryption, the size checks the sender
makes on it, and the frames the server and its clients exchange.

Strings are JavaScript strings: sequences of UTF-16 code units, which may hold
lone surrogates.
-/

/-- A JavaScript string. -/
abbrev Text := List UInt16

instance Text.lawfulBEq : LawfulBEq Text := inferInstance

/-! ## Byte lengths -/

/-- A leading surrogate code unit. -/
def isHighSurrogate (unit : UInt16) : Bool :=
  0xD800 ≤ unit && unit ≤ 0xDBFF

/-- A trailing surrogate code unit. -/
def isLowSurrogate (unit : UInt16) : Bool :=
  0xDC00 ≤ unit && unit ≤ 0xDFFF

/-- UTF-8 length of one code unit outside a surrogate pair; a lone surrogate
is encoded as U+FFFD. -/
def utf8UnitLength (unit : UInt16) : Nat :=
  if unit < 0x80 then 1 else if unit < 0x800 then 2 else 3

/-- `utf8ByteLength`: length of the `TextEncoder` output. -/
def utf8ByteLength : Text → Nat
  | [] => 0
  | [unit] => utf8UnitLength unit
  | first :: second :: rest =>
      if isHighSurrogate first && isLowSurrogate second then
        4 + utf8ByteLength rest
      else
        utf8UnitLength first + utf8ByteLength (second :: rest)

/-- UTF-8 length of one code unit as `JSON.stringify` writes it in a string. -/
def jsonUnitLength (unit : UInt16) : Nat :=
  if unit = 0x22 ∨ unit = 0x5C then 2
  else if unit = 0x08 ∨ unit = 0x09 ∨ unit = 0x0A ∨ unit = 0x0C ∨ unit = 0x0D then 2
  else if unit < 0x20 then 6
  else if isHighSurrogate unit || isLowSurrogate unit then 6
  else utf8UnitLength unit

/-- UTF-8 length of the body of the JSON string literal for a text. -/
def jsonTextLength : Text → Nat
  | [] => 0
  | [unit] => jsonUnitLength unit
  | first :: second :: rest =>
      if isHighSurrogate first && isLowSurrogate second then
        4 + jsonTextLength rest
      else
        jsonUnitLength first + jsonTextLength (second :: rest)

/-- Number of decimal digits of a number. -/
def decimalLength (value : Nat) : Nat :=
  (Nat.toDigits 10 value).length

/-! ## Limits -/

/-- `MAX_BODY_BYTES` -/
def maxBodyBytes : Nat := 4096

/-- `MAX_PLAINTEXT_BYTES` -/
def maxPlaintextBytes : Nat := 8704

/-- `BUFFER_THRESHOLD_BYTES` -/
def bufferThresholdBytes : Nat := 256 * 1024

/-- `MAX_FILE_SIZE_BYTES` -/
def maxFileSizeBytes : Nat := 104857600

/-- `SESSION_RECEIVE_CAP_BYTES` -/
def sessionReceiveCapBytes : Nat := 500 * 1024 * 1024

/-- `CHUNK_DATA_MAX_BYTES` -/
def chunkDataMaxBytes : Nat := 8692

/-! ## Envelopes -/

/-- Why a receiver declines a file offer. -/
inductive FileDeclineReason where
  | tooLarge
  | userRejected
  | unsupported
  deriving DecidableEq, Repr

/-- Why a file transfer is cancelled. -/
inductive FileCancelReason where
  | userAborted
  | integrityFailure
  | sessionRekey
  deriving DecidableEq, Repr

/-- Which side of a file transfer cancels it. -/
inductive FileCancelSide where
  | sender
  | receiver
  deriving DecidableEq, Repr

/-- The decoded content of a message frame. -/
inductive PlaintextEnvelope where
  | msg (body t : Text)
  | resume (id : Draw)
  | resumeAck (id : Draw)
  | fileOffer (tid name : Text) (size : Nat)
  | fileAccept (tid : Text)
  | fileDecline (tid : Text) (reason : FileDeclineReason)
  | fileProgress (tid : Text) (receivedBytes : Nat)
  | fileComplete (tid senderSha256 : Text)
  | fileCompleteAck (tid : Text)
  | fileCancel (tid : Text) (side : FileCancelSide) (reason : FileCancelReason)

/--
The plaintext of a frame, as the parser of its frame kind reads it: an envelope
that `decodeEnvelope` accepts, a 32-byte public key, or any other byte string.
-/
inductive Plaintext where
  | envelope (content : PlaintextEnvelope)
  | publicKey (key : PublicKey)
  | bytes (content : Bytes)

namespace FileDeclineReason

/-- Length of the reason's wire name. -/
def wireLength : FileDeclineReason → Nat
  | .tooLarge => 9
  | .userRejected => 13
  | .unsupported => 11

end FileDeclineReason

namespace FileCancelReason

/-- Length of the reason's wire name. -/
def wireLength : FileCancelReason → Nat
  | .userAborted => 12
  | .integrityFailure => 17
  | .sessionRekey => 13

end FileCancelReason

namespace FileCancelSide

/-- Length of the side's wire name. -/
def wireLength : FileCancelSide → Nat
  | .sender => 6
  | .receiver => 8

end FileCancelSide

/-- Length of a JSON object member whose value is a string of `value` bytes. -/
def stringMemberLength (name value : Nat) : Nat :=
  name + 3 + value + 2

/-- Length of a JSON object member whose value is a number of `value` digits. -/
def numberMemberLength (name value : Nat) : Nat :=
  name + 3 + value

/-- A resume id is the hexadecimal form of eight random bytes. -/
def resumeIdLength : Nat := 16

/--
UTF-8 length of `JSON.stringify(envelope)`: the braces, the members and the
commas between them.
-/
def jsonByteLength : PlaintextEnvelope → Nat
  | .msg body t =>
      2 + stringMemberLength 4 3 + 1 +
        stringMemberLength 4 (jsonTextLength body) + 1 +
        stringMemberLength 1 (jsonTextLength t)
  | .resume _ =>
      2 + stringMemberLength 4 6 + 1 + stringMemberLength 3 resumeIdLength
  | .resumeAck _ =>
      2 + stringMemberLength 4 10 + 1 + stringMemberLength 3 resumeIdLength
  | .fileOffer tid name size =>
      2 + stringMemberLength 4 10 + 1 +
        stringMemberLength 3 (jsonTextLength tid) + 1 +
        stringMemberLength 4 (jsonTextLength name) + 1 +
        numberMemberLength 4 (decimalLength size)
  | .fileAccept tid =>
      2 + stringMemberLength 4 11 + 1 + stringMemberLength 3 (jsonTextLength tid)
  | .fileDecline tid reason =>
      2 + stringMemberLength 4 12 + 1 +
        stringMemberLength 3 (jsonTextLength tid) + 1 +
        stringMemberLength 6 reason.wireLength
  | .fileProgress tid receivedBytes =>
      2 + stringMemberLength 4 13 + 1 +
        stringMemberLength 3 (jsonTextLength tid) + 1 +
        numberMemberLength 14 (decimalLength receivedBytes)
  | .fileComplete tid senderSha256 =>
      2 + stringMemberLength 4 13 + 1 +
        stringMemberLength 3 (jsonTextLength tid) + 1 +
        stringMemberLength 13 (jsonTextLength senderSha256)
  | .fileCompleteAck tid =>
      2 + stringMemberLength 4 17 + 1 + stringMemberLength 3 (jsonTextLength tid)
  | .fileCancel tid side reason =>
      2 + stringMemberLength 4 11 + 1 +
        stringMemberLength 3 (jsonTextLength tid) + 1 +
        stringMemberLength 4 side.wireLength + 1 +
        stringMemberLength 6 reason.wireLength

/-- `body exceeds MAX_BODY_BYTES`: the first check of `encodeEnvelope`. -/
def bodyTooLong : PlaintextEnvelope → Bool
  | .msg body _ => utf8ByteLength body > maxBodyBytes
  | _ => false

/-- `encodeEnvelope`: throws when the body or the plaintext is too long. -/
def encodeEnvelope (envelope : PlaintextEnvelope) : Option Plaintext :=
  if bodyTooLong envelope then
    none
  else if jsonByteLength envelope > maxPlaintextBytes then
    none
  else
    some (.envelope envelope)

/-- `decodeEnvelope`: throws on everything that is not an envelope. -/
def decodeEnvelope : Plaintext → Option PlaintextEnvelope
  | .envelope content => some content
  | .publicKey _ => none
  | .bytes _ => none

/-- An envelope that could be encoded decodes to itself. -/
theorem decodeEnvelope_encodeEnvelope
    {envelope : PlaintextEnvelope}
    {plaintext : Plaintext}
    (encoded : encodeEnvelope envelope = some plaintext) :
    decodeEnvelope plaintext = some envelope := by
  unfold encodeEnvelope at encoded
  split at encoded
  · cases encoded
  · split at encoded
    · cases encoded
    · obtain rfl := Option.some.inj encoded
      rfl

/-- `encodeModeUpgradedPayload` and `encodeRekeyDonePayload`. -/
def emptyPayload : Plaintext := .bytes []

/-- `decodeModeUpgradedPayload`: the payload is empty. -/
def decodeModeUpgradedPayload : Plaintext → Bool
  | .bytes [] => true
  | _ => false

/-- `decodeRekeyDonePayload`: the payload is empty. -/
def decodeRekeyDonePayload : Plaintext → Bool
  | .bytes [] => true
  | _ => false

/-- `decodeRekeyPubkeyPayload`: the payload is 32 bytes. -/
def decodeRekeyPubkeyPayload : Plaintext → Option PublicKey
  | .publicKey key => some key
  | _ => none

/-! ## Server and client frames -/

/-- Error codes a server can answer with. -/
inductive ErrorCode where
  | invalidHello
  | unsupportedVersion
  | roomFull
  | roomNotFound
  | roomAlreadyExists
  | overCapacity
  | rateLimited
  | messageTooLarge
  | invalidPayload
  | badState
  | helloTimeout
  | modeMismatch
  | internal
  deriving DecidableEq, Repr

/-- What a client wants of the room it names in its HELLO. -/
inductive HelloIntent where
  | create
  | join
  | resume
  deriving DecidableEq, Repr

/-- The public key a HANDSHAKE frame carries, sealed under the room's handshake
key, or a ciphertext that key does not open. -/
inductive HandshakeCiphertext where
  | wrapped (publicKeyRaw : PublicKey)
  | unauthentic

/-- `unwrapPeerPublicKey` -/
def unwrapPeerPublicKey : HandshakeCiphertext → Option PublicKey
  | .wrapped publicKeyRaw => some publicKeyRaw
  | .unauthentic => none

/-- One RELAY frame. -/
structure RelayFrame where
  kind : RelayKind
  nonce : Nonce
  ciphertext : Ciphertext Plaintext

/-- Frames from the server to a client. -/
inductive ServerFrame where
  | ack (role : Role)
  | peerJoined
  | handshake (ciphertext : HandshakeCiphertext)
  | relay (frame : RelayFrame)
  | peerDisconnected
  | peerLeft
  | error (code : ErrorCode)

/-- Frames from a client to the server. -/
inductive ClientFrame where
  | hello (intent : HelloIntent)
  | handshake (ciphertext : HandshakeCiphertext)
  | relay (frame : RelayFrame)

end Unseen
