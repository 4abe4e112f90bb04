import Mathlib.Data.Rat.Floor
import Unseen.Buffer
import Unseen.Wire

namespace Unseen.Codec

open ByteBuffer

/-!
# The wire codec

Byte layouts of the frames that clients and server exchange.  Encoders allocate
a buffer of the frame's length and write its fields at fixed offsets; decoders
check the length and read the fields back.  Frames of an invalid length, kind,
intent, role or error code are not decoded.

Nonces and ciphertexts are plain byte strings here: the codec does not look
into them.
-/

/-! ## Constants -/

/-- `MSG_HELLO` -/
def msgHello : UInt8 := 0x01

/-- `MSG_ACK` -/
def msgAck : UInt8 := 0x02

/-- `MSG_PEER_JOINED` -/
def msgPeerJoined : UInt8 := 0x03

/-- `MSG_HANDSHAKE` -/
def msgHandshake : UInt8 := 0x04

/-- `MSG_RELAY` -/
def msgRelay : UInt8 := 0x05

/-- `MSG_PEER_DISCONNECTED` -/
def msgPeerDisconnected : UInt8 := 0x06

/-- `MSG_PEER_LEFT` -/
def msgPeerLeft : UInt8 := 0x07

/-- `MSG_ERROR` -/
def msgError : UInt8 := 0x08

/-- `PROTOCOL_VERSION` -/
def protocolVersion : UInt8 := 1

/-- `MAX_WIRE_BYTES` -/
def maxWireBytes : Nat := 8736

/-- `ROOM_ID_LENGTH` -/
def roomIdLength : Nat := 16

/-- `HELLO_FRAME_LENGTH` -/
def helloFrameLength : Nat := 1 + roomIdLength + 1 + 1

/-- `HANDSHAKE_CIPHERTEXT_LENGTH`: a public key and an authentication tag. -/
def handshakeCiphertextLength : Nat := 32 + 16

/-- `HANDSHAKE_FRAME_LENGTH` -/
def handshakeFrameLength : Nat := 1 + nonceLength + handshakeCiphertextLength

/-- `RELAY_KIND_OFFSET` -/
def relayKindOffset : Nat := 1

/-- `RELAY_NONCE_OFFSET` -/
def relayNonceOffset : Nat := 2

/-- `RELAY_CT_LEN_OFFSET` -/
def relayCtLenOffset : Nat := relayNonceOffset + nonceLength

/-- `RELAY_HEADER_LENGTH` -/
def relayHeaderLength : Nat := 1 + 1 + nonceLength + 2

/-- `ACK_FRAME_LENGTH` -/
def ackFrameLength : Nat := 2

/-- `ERROR_FRAME_LENGTH` -/
def errorFrameLength : Nat := 2

/-- `PEER_DISCONNECTED_FRAME_LENGTH` -/
def peerDisconnectedFrameLength : Nat := 5

/-- `SINGLE_BYTE_FRAME_LENGTH` -/
def singleByteFrameLength : Nat := 1

/-- `UINT16_MAX` -/
def uint16Max : Nat := 0xffff

/-- `UINT32_MAX` -/
def uint32Max : Nat := 0xffffffff

/-! ## Byte tables -/

/-- `BYTE_BY_INTENT` -/
def intentToByte : HelloIntent → UInt8
  | .create => 0x01
  | .join => 0x02
  | .resume => 0x03

/-- `INTENT_BY_BYTE` -/
def intentByByte : List (UInt8 × HelloIntent) :=
  [(0x01, .create), (0x02, .join), (0x03, .resume)]

def byteToIntent (byte : UInt8) : Option HelloIntent :=
  intentByByte.lookup byte

/-- `BYTE_BY_ROLE` -/
def roleToByte : Role → UInt8
  | .initiator => 0x01
  | .joiner => 0x02

/-- `ROLE_BY_BYTE` -/
def roleByByte : List (UInt8 × Role) :=
  [(0x01, .initiator), (0x02, .joiner)]

def byteToRole (byte : UInt8) : Option Role :=
  roleByByte.lookup byte

/-- `BYTE_BY_ERROR` -/
def errorCodeToByte : ErrorCode → UInt8
  | .invalidHello => 0x01
  | .unsupportedVersion => 0x02
  | .roomFull => 0x03
  | .roomNotFound => 0x04
  | .roomAlreadyExists => 0x05
  | .overCapacity => 0x06
  | .rateLimited => 0x07
  | .messageTooLarge => 0x08
  | .invalidPayload => 0x09
  | .badState => 0x0a
  | .helloTimeout => 0x0b
  | .modeMismatch => 0x0c
  | .internal => 0xff

/-- `ERROR_BY_BYTE` -/
def errorByByte : List (UInt8 × ErrorCode) :=
  [ (0x01, .invalidHello)
  , (0x02, .unsupportedVersion)
  , (0x03, .roomFull)
  , (0x04, .roomNotFound)
  , (0x05, .roomAlreadyExists)
  , (0x06, .overCapacity)
  , (0x07, .rateLimited)
  , (0x08, .messageTooLarge)
  , (0x09, .invalidPayload)
  , (0x0a, .badState)
  , (0x0b, .helloTimeout)
  , (0x0c, .modeMismatch)
  , (0xff, .internal) ]

def byteToErrorCode (byte : UInt8) : Option ErrorCode :=
  errorByByte.lookup byte

/-- `ALL_RELAY_KINDS`; the source keeps the bytes, here each stands beside its name. -/
def allRelayKinds : List (UInt8 × RelayKind) :=
  [ (0x00, .msg)
  , (0x01, .chunk)
  , (0x10, .modeUpgraded)
  , (0x11, .rekeyInit)
  , (0x12, .rekeyAck)
  , (0x13, .rekeyDone) ]

/-- `isRelayKind`, with the kind a byte stands for. -/
def isRelayKind (byte : UInt8) : Option RelayKind :=
  allRelayKinds.lookup byte

/-! ## Frames -/

structure HandshakeFrame where
  nonce : Bytes
  ciphertext : Bytes
  deriving DecidableEq, Repr

structure RelayFrame where
  kind : RelayKind
  nonce : Bytes
  ciphertext : Bytes
  deriving DecidableEq, Repr

structure HelloFrame where
  roomId : Bytes
  protocolVersion : UInt8
  intent : HelloIntent
  deriving DecidableEq, Repr

inductive ClientFrame where
  | hello (frame : HelloFrame)
  | handshake (frame : HandshakeFrame)
  | relay (frame : RelayFrame)
  deriving DecidableEq, Repr

/-- The grace period of PEER_DISCONNECTED is any number where it is encoded. -/
inductive ServerFrame where
  | ack (role : Role)
  | peerJoined
  | handshake (frame : HandshakeFrame)
  | relay (frame : RelayFrame)
  | peerDisconnected (graceMs : Rat)
  | peerLeft
  | error (code : ErrorCode)
  deriving DecidableEq, Repr

/-! ## Encoders -/

def encodeHello (roomId : Bytes) (intent : HelloIntent) : Option Bytes :=
  if roomId.length ≠ roomIdLength then
    none
  else
    let buf := zeroed helloFrameLength
    let buf := setUint8 buf 0 msgHello
    let buf := setBytes buf roomId 1
    let buf := setUint8 buf (1 + roomIdLength) protocolVersion
    let buf := setUint8 buf (1 + roomIdLength + 1) (intentToByte intent)
    some buf

def encodeHandshake (nonce ciphertext : Bytes) : Option Bytes :=
  if nonce.length ≠ nonceLength then
    none
  else if ciphertext.length ≠ handshakeCiphertextLength then
    none
  else
    let buf := zeroed handshakeFrameLength
    let buf := setUint8 buf 0 msgHandshake
    let buf := setBytes buf nonce 1
    let buf := setBytes buf ciphertext (1 + nonceLength)
    some buf

def encodeRelay (kind : RelayKind) (nonce ciphertext : Bytes) : Option Bytes :=
  if nonce.length ≠ nonceLength then
    none
  else if ciphertext.length > uint16Max then
    none
  else if relayHeaderLength + ciphertext.length > maxWireBytes then
    none
  else
    let buf := zeroed (relayHeaderLength + ciphertext.length)
    let buf := setUint8 buf 0 msgRelay
    let buf := setUint8 buf relayKindOffset kind.toByte
    let buf := setBytes buf nonce relayNonceOffset
    let buf := setBytes buf (littleEndian 2 ciphertext.length) relayCtLenOffset
    let buf := setBytes buf ciphertext relayHeaderLength
    some buf

def encodeAck (role : Role) : Bytes :=
  let buf := zeroed ackFrameLength
  let buf := setUint8 buf 0 msgAck
  setUint8 buf 1 (roleToByte role)

def encodeSingleByteFrame (type : UInt8) : Bytes :=
  setUint8 (zeroed singleByteFrameLength) 0 type

def encodePeerJoined : Bytes :=
  encodeSingleByteFrame msgPeerJoined

def encodePeerLeft : Bytes :=
  encodeSingleByteFrame msgPeerLeft

def encodePeerDisconnected (graceMs : Rat) : Option Bytes :=
  if ¬ graceMs.isInt ∨ graceMs < 0 ∨ graceMs > uint32Max then
    none
  else
    let buf := zeroed peerDisconnectedFrameLength
    let buf := setUint8 buf 0 msgPeerDisconnected
    some (setBytes buf (littleEndian 4 graceMs.num.toNat) 1)

def encodeError (code : ErrorCode) : Bytes :=
  let buf := zeroed errorFrameLength
  let buf := setUint8 buf 0 msgError
  setUint8 buf 1 (errorCodeToByte code)

/-- The encoder of each client frame.  `encodeHello` writes the protocol
version of this build, so a HELLO of another version has no encoding. -/
def encodeClientFrame : ClientFrame → Option Bytes
  | .hello frame =>
      if frame.protocolVersion = protocolVersion then
        encodeHello frame.roomId frame.intent
      else
        none
  | .handshake frame => encodeHandshake frame.nonce frame.ciphertext
  | .relay frame => encodeRelay frame.kind frame.nonce frame.ciphertext

/-- The encoder of each server frame. -/
def encodeServerFrame : ServerFrame → Option Bytes
  | .ack role => some (encodeAck role)
  | .peerJoined => some encodePeerJoined
  | .handshake frame => encodeHandshake frame.nonce frame.ciphertext
  | .relay frame => encodeRelay frame.kind frame.nonce frame.ciphertext
  | .peerDisconnected graceMs => encodePeerDisconnected graceMs
  | .peerLeft => some encodePeerLeft
  | .error code => some (encodeError code)

/-! ## Decoders -/

def decodeHello (buf : Bytes) : Option HelloFrame :=
  if buf.length ≠ helloFrameLength then
    none
  else
    match byteToIntent (getUint8 buf (1 + roomIdLength + 1)) with
    | none => none
    | some intent =>
        some
          { roomId := slice buf 1 (1 + roomIdLength)
            protocolVersion := getUint8 buf (1 + roomIdLength)
            intent }

def decodeHandshake (buf : Bytes) : Option HandshakeFrame :=
  if buf.length ≠ handshakeFrameLength then
    none
  else
    some
      { nonce := slice buf 1 (1 + nonceLength)
        ciphertext := slice buf (1 + nonceLength) handshakeFrameLength }

def decodeRelay (buf : Bytes) : Option RelayFrame :=
  if buf.length < relayHeaderLength then
    none
  else
    match isRelayKind (getUint8 buf relayKindOffset) with
    | none => none
    | some kind =>
        let ciphertextLen :=
          fromLittleEndian (slice buf relayCtLenOffset (relayCtLenOffset + 2))
        if buf.length ≠ relayHeaderLength + ciphertextLen then
          none
        else
          some
            { kind
              nonce := slice buf relayNonceOffset (relayNonceOffset + nonceLength)
              ciphertext :=
                slice buf relayHeaderLength (relayHeaderLength + ciphertextLen) }

def decodeAck (buf : Bytes) : Option ServerFrame :=
  if buf.length ≠ ackFrameLength then
    none
  else
    (byteToRole (getUint8 buf 1)).map ServerFrame.ack

def decodePeerDisconnected (buf : Bytes) : Option ServerFrame :=
  if buf.length ≠ peerDisconnectedFrameLength then
    none
  else
    some (.peerDisconnected (fromLittleEndian (slice buf 1 (1 + 4))))

def decodeError (buf : Bytes) : Option ServerFrame :=
  if buf.length ≠ errorFrameLength then
    none
  else
    (byteToErrorCode (getUint8 buf 1)).map ServerFrame.error

def readType (buf : Bytes) : Option UInt8 :=
  if buf.length < 1 then none else some (getUint8 buf 0)

def decodeClientFrame (buf : Bytes) : Option ClientFrame :=
  let type := readType buf
  if type = some msgHello then
    (decodeHello buf).map ClientFrame.hello
  else if type = some msgHandshake then
    (decodeHandshake buf).map ClientFrame.handshake
  else if type = some msgRelay then
    (decodeRelay buf).map ClientFrame.relay
  else
    none

def decodeServerFrame (buf : Bytes) : Option ServerFrame :=
  let type := readType buf
  if type = some msgAck then
    decodeAck buf
  else if type = some msgPeerJoined then
    if buf.length = singleByteFrameLength then some .peerJoined else none
  else if type = some msgPeerLeft then
    if buf.length = singleByteFrameLength then some .peerLeft else none
  else if type = some msgPeerDisconnected then
    decodePeerDisconnected buf
  else if type = some msgError then
    decodeError buf
  else if type = some msgHandshake then
    (decodeHandshake buf).map ServerFrame.handshake
  else if type = some msgRelay then
    (decodeRelay buf).map ServerFrame.relay
  else
    none

/-! ## The byte tables are inverse to each other -/

/-- A table finds exactly the entry whose byte it is asked for. -/
theorem lookup_eq_some_iff
    {Value : Type}
    {table : List (UInt8 × Value)}
    {toByte : Value → UInt8}
    (listed : ∀ value, table.lookup (toByte value) = some value)
    (entries : ∀ entry ∈ table, toByte entry.2 = entry.1)
    {byte : UInt8}
    {value : Value} :
    table.lookup byte = some value ↔ toByte value = byte := by
  constructor
  · intro found
    obtain ⟨before, after, isTable, _⟩ := List.lookup_eq_some_iff.mp found
    apply entries (byte, value)
    rw [isTable]
    exact List.mem_append_right _ List.mem_cons_self
  · rintro rfl
    exact listed value

theorem byteToIntent_eq_some_iff {byte : UInt8} {intent : HelloIntent} :
    byteToIntent byte = some intent ↔ intentToByte intent = byte :=
  lookup_eq_some_iff (fun intent => by cases intent <;> rfl) (by decide)

theorem byteToRole_eq_some_iff {byte : UInt8} {role : Role} :
    byteToRole byte = some role ↔ roleToByte role = byte :=
  lookup_eq_some_iff (fun role => by cases role <;> rfl) (by decide)

theorem byteToErrorCode_eq_some_iff {byte : UInt8} {code : ErrorCode} :
    byteToErrorCode byte = some code ↔ errorCodeToByte code = byte :=
  lookup_eq_some_iff (fun code => by cases code <;> rfl) (by decide)

theorem isRelayKind_eq_some_iff {byte : UInt8} {kind : RelayKind} :
    isRelayKind byte = some kind ↔ kind.toByte = byte :=
  lookup_eq_some_iff (fun kind => by cases kind <;> rfl) (by decide)

/-! ## Encoders write the layout of a frame -/

/-- The fields of a HELLO behind its type byte. -/
def HelloFrame.fields (frame : HelloFrame) : Bytes :=
  frame.roomId ++ [frame.protocolVersion] ++ [intentToByte frame.intent]

/-- The fields of a HANDSHAKE behind its type byte. -/
def HandshakeFrame.fields (frame : HandshakeFrame) : Bytes :=
  frame.nonce ++ frame.ciphertext

/-- The fields of a RELAY behind its type byte. -/
def RelayFrame.fields (frame : RelayFrame) : Bytes :=
  [frame.kind.toByte] ++ frame.nonce ++ littleEndian 2 frame.ciphertext.length ++
    frame.ciphertext

/-- A room id has 16 bytes. -/
def HelloFrame.WellFormed (frame : HelloFrame) : Prop :=
  frame.roomId.length = roomIdLength

/-- A HANDSHAKE carries a nonce and a sealed public key. -/
def HandshakeFrame.WellFormed (frame : HandshakeFrame) : Prop :=
  frame.nonce.length = nonceLength ∧ frame.ciphertext.length = handshakeCiphertextLength

/-- A RELAY carries a nonce, and a ciphertext whose length fits its length field. -/
def RelayFrame.WellFormed (frame : RelayFrame) : Prop :=
  frame.nonce.length = nonceLength ∧ frame.ciphertext.length ≤ uint16Max

theorem encodeHello_eq_some_iff
    {roomId buf : Bytes}
    {intent : HelloIntent} :
    encodeHello roomId intent = some buf ↔
      (HelloFrame.mk roomId protocolVersion intent).WellFormed ∧
        buf = [msgHello] ++ (HelloFrame.mk roomId protocolVersion intent).fields := by
  unfold encodeHello HelloFrame.WellFormed
  by_cases isRoomId : roomId.length = roomIdLength
  · have written :
        setUint8
          (setUint8
            (setBytes (setUint8 (zeroed helloFrameLength) 0 msgHello) roomId 1)
            (1 + roomIdLength) protocolVersion)
          (1 + roomIdLength + 1) (intentToByte intent) =
        [msgHello] ++ roomId ++ [protocolVersion] ++ [intentToByte intent] := by
      rw [setUint8_zeroed, setBytes_front, setUint8_front, setUint8_front, isRoomId]
      · exact List.append_nil _
      · simp [isRoomId, Nat.add_comm, Nat.add_left_comm]
      · simp [isRoomId, Nat.add_comm]
      · rfl
    simp only [isRoomId, ne_eq, not_true_eq_false, ↓reduceIte, written, Option.some.injEq,
      true_and, HelloFrame.fields, List.append_assoc]
    exact eq_comm
  · simp [isRoomId]

theorem encodeHandshake_eq_some_iff
    {nonce ciphertext buf : Bytes} :
    encodeHandshake nonce ciphertext = some buf ↔
      (HandshakeFrame.mk nonce ciphertext).WellFormed ∧
        buf = [msgHandshake] ++ (HandshakeFrame.mk nonce ciphertext).fields := by
  unfold encodeHandshake HandshakeFrame.WellFormed
  by_cases isNonce : nonce.length = nonceLength
  · by_cases isCiphertext : ciphertext.length = handshakeCiphertextLength
    · have written :
          setBytes
            (setBytes (setUint8 (zeroed handshakeFrameLength) 0 msgHandshake) nonce 1)
            ciphertext (1 + nonceLength) =
          [msgHandshake] ++ nonce ++ ciphertext := by
        rw [setUint8_zeroed, setBytes_front, setBytes_front, isNonce, isCiphertext]
        · exact List.append_nil _
        · simp [isNonce, Nat.add_comm]
        · rfl
      simp only [isNonce, isCiphertext, ne_eq, not_true_eq_false, ↓reduceIte, written,
        Option.some.injEq, true_and, HandshakeFrame.fields, List.append_assoc]
      exact eq_comm
    · simp [isNonce, isCiphertext]
  · simp [isNonce]

theorem encodeRelay_eq_some_iff
    {kind : RelayKind}
    {nonce ciphertext buf : Bytes} :
    encodeRelay kind nonce ciphertext = some buf ↔
      (RelayFrame.mk kind nonce ciphertext).WellFormed ∧
        relayHeaderLength + ciphertext.length ≤ maxWireBytes ∧
        buf = [msgRelay] ++ (RelayFrame.mk kind nonce ciphertext).fields := by
  unfold encodeRelay RelayFrame.WellFormed
  by_cases isNonce : nonce.length = nonceLength
  · by_cases isLength : ciphertext.length ≤ uint16Max
    · by_cases isFrame : relayHeaderLength + ciphertext.length ≤ maxWireBytes
      · have written :
            setBytes
              (setBytes
                (setBytes
                  (setUint8
                    (setUint8 (zeroed (relayHeaderLength + ciphertext.length)) 0 msgRelay)
                    relayKindOffset kind.toByte)
                  nonce relayNonceOffset)
                (littleEndian 2 ciphertext.length) relayCtLenOffset)
              ciphertext relayHeaderLength =
            [msgRelay] ++ [kind.toByte] ++ nonce ++ littleEndian 2 ciphertext.length ++
              ciphertext := by
          have filled :
              relayHeaderLength + ciphertext.length - 1 - 1 - nonceLength - 2 -
                ciphertext.length = 0 := by
            unfold relayHeaderLength
            omega
          rw [setUint8_zeroed, setUint8_front, setBytes_front, setBytes_front, setBytes_front,
            isNonce, length_littleEndian, filled]
          · exact List.append_nil _
          · simp [isNonce, relayHeaderLength, nonceLength]
          · simp [isNonce, relayCtLenOffset, relayNonceOffset, nonceLength]
          · rfl
          · rfl
        simp only [isNonce, not_lt.mpr isLength, not_lt.mpr isFrame, isLength, isFrame, ne_eq,
          not_true_eq_false, ↓reduceIte, written, Option.some.injEq, true_and,
          RelayFrame.fields, List.append_assoc]
        exact eq_comm
      · simp [isNonce, isLength, isFrame]
    · simp [isNonce, isLength]
  · simp [isNonce]

/-! ## Decoders read the layout of a frame -/

theorem decodeHello_eq_some_iff {buf : Bytes} {frame : HelloFrame} :
    decodeHello buf = some frame ↔
      frame.WellFormed ∧ buf = [getUint8 buf 0] ++ frame.fields := by
  constructor
  · intro decoded
    unfold decodeHello at decoded
    by_cases isLength : buf.length = helloFrameLength
    · rw [if_neg (not_not.mpr isLength)] at decoded
      cases isIntent : byteToIntent (getUint8 buf (1 + roomIdLength + 1)) with
      | none =>
          rw [isIntent] at decoded
          cases decoded
      | some intent =>
          rw [isIntent] at decoded
          obtain rfl := Option.some.inj decoded
          have isByte := byteToIntent_eq_some_iff.mp isIntent
          constructor
          · rw [HelloFrame.WellFormed, length_slice, isLength]
            rfl
          · calc buf
                = slice buf 0 helloFrameLength := (slice_all isLength).symm
              _ = slice buf 0 (0 + 1) ++ slice buf 1 (1 + roomIdLength) ++
                    slice buf (1 + roomIdLength) (1 + roomIdLength + 1) ++
                    slice buf (1 + roomIdLength + 1) (1 + roomIdLength + 1 + 1) := by
                  rw [slice_append_slice, slice_append_slice, slice_append_slice]
                  · rfl
                  all_goals decide
              _ = [getUint8 buf 0] ++
                    (slice buf 1 (1 + roomIdLength) ++ [getUint8 buf (1 + roomIdLength)] ++
                      [intentToByte intent]) := by
                  rw [slice_one, slice_one, slice_one, isByte]
                  · simp only [List.append_assoc]
                  all_goals
                    rw [isLength]
                    decide
    · rw [if_pos isLength] at decoded
      cases decoded
  · rintro ⟨isRoomId, layout⟩
    rw [HelloFrame.WellFormed] at isRoomId
    generalize getUint8 buf 0 = type at layout
    have isLength : buf.length = helloFrameLength := by
      simp [layout, HelloFrame.fields, isRoomId, helloFrameLength, Nat.add_comm,
        Nat.add_left_comm]
    have isIntent : getUint8 buf (1 + roomIdLength + 1) = intentToByte frame.intent := by
      rw [layout, HelloFrame.fields, ← List.append_assoc]
      apply getUint8_field
      simp [isRoomId, Nat.add_comm, Nat.add_left_comm]
    have isVersion : getUint8 buf (1 + roomIdLength) = frame.protocolVersion := by
      rw [layout, HelloFrame.fields, ← List.append_assoc, ← List.append_assoc,
        List.append_assoc (_ ++ _)]
      apply getUint8_field
      simp [isRoomId, Nat.add_comm]
    have isRoom : slice buf 1 (1 + roomIdLength) = frame.roomId := by
      rw [layout, HelloFrame.fields, List.append_assoc frame.roomId, ← List.append_assoc]
      apply slice_field
      · rfl
      · rw [isRoomId]
    rw [decodeHello, if_neg (not_not.mpr isLength), isIntent,
      byteToIntent_eq_some_iff.mpr rfl, isRoom, isVersion]

theorem decodeHandshake_eq_some_iff {buf : Bytes} {frame : HandshakeFrame} :
    decodeHandshake buf = some frame ↔
      frame.WellFormed ∧ buf = [getUint8 buf 0] ++ frame.fields := by
  constructor
  · intro decoded
    unfold decodeHandshake at decoded
    by_cases isLength : buf.length = handshakeFrameLength
    · rw [if_neg (not_not.mpr isLength)] at decoded
      obtain rfl := Option.some.inj decoded
      refine ⟨⟨?_, ?_⟩, ?_⟩
      · rw [length_slice, isLength]
        rfl
      · rw [length_slice, isLength]
        rfl
      · calc buf
            = slice buf 0 handshakeFrameLength := (slice_all isLength).symm
          _ = slice buf 0 (0 + 1) ++ slice buf 1 (1 + nonceLength) ++
                slice buf (1 + nonceLength) handshakeFrameLength := by
              rw [slice_append_slice, slice_append_slice]
              all_goals decide
          _ = [getUint8 buf 0] ++
                (slice buf 1 (1 + nonceLength) ++
                  slice buf (1 + nonceLength) handshakeFrameLength) := by
              rw [slice_one, List.append_assoc]
              rw [isLength]
              decide
    · rw [if_pos isLength] at decoded
      cases decoded
  · rintro ⟨⟨isNonce, isCiphertext⟩, layout⟩
    generalize getUint8 buf 0 = type at layout
    have isLength : buf.length = handshakeFrameLength := by
      simp [layout, HandshakeFrame.fields, isNonce, isCiphertext, handshakeFrameLength]
      omega
    have nonce : slice buf 1 (1 + nonceLength) = frame.nonce := by
      rw [layout, HandshakeFrame.fields, ← List.append_assoc]
      apply slice_field
      · rfl
      · rw [isNonce]
    have ciphertext :
        slice buf (1 + nonceLength) handshakeFrameLength = frame.ciphertext := by
      rw [layout, HandshakeFrame.fields, ← List.append_assoc,
        ← List.append_nil ([type] ++ frame.nonce ++ frame.ciphertext)]
      apply slice_field
      · simp [isNonce, Nat.add_comm]
      · rw [isCiphertext]
        rfl
    rw [decodeHandshake, if_neg (not_not.mpr isLength), nonce, ciphertext]

/-- The length field of a RELAY holds the length of its ciphertext. -/
theorem RelayFrame.WellFormed.length_field
    {frame : RelayFrame}
    (wellFormed : frame.WellFormed) :
    fromLittleEndian (littleEndian 2 frame.ciphertext.length) =
      frame.ciphertext.length := by
  apply fromLittleEndian_littleEndian
  have bound := wellFormed.2
  unfold uint16Max at bound
  omega

/-- The fields in front of the ciphertext make up the header of a RELAY. -/
theorem relayHeader_slices (buf : Bytes) :
    slice buf 0 (0 + 1) ++ slice buf relayKindOffset (relayKindOffset + 1) ++
        slice buf relayNonceOffset (relayNonceOffset + nonceLength) ++
        slice buf relayCtLenOffset (relayCtLenOffset + 2) =
      slice buf 0 relayHeaderLength := by
  change slice buf 0 1 ++ slice buf 1 2 ++ slice buf 2 14 ++ slice buf 14 16 =
    slice buf 0 16
  rw [slice_append_slice, slice_append_slice, slice_append_slice] <;> decide

theorem decodeRelay_eq_some_iff {buf : Bytes} {frame : RelayFrame} :
    decodeRelay buf = some frame ↔
      frame.WellFormed ∧ buf = [getUint8 buf 0] ++ frame.fields := by
  constructor
  · intro decoded
    unfold decodeRelay at decoded
    by_cases hasHeader : buf.length < relayHeaderLength
    · rw [if_pos hasHeader] at decoded
      cases decoded
    · rw [if_neg hasHeader] at decoded
      cases isKind : isRelayKind (getUint8 buf relayKindOffset) with
      | none =>
          rw [isKind] at decoded
          cases decoded
      | some kind =>
          rw [isKind] at decoded
          generalize lengthField :
            slice buf relayCtLenOffset (relayCtLenOffset + 2) = lengthBytes at decoded
          have fieldLength : lengthBytes.length = 2 := by
            rw [← lengthField, length_slice, Nat.min_eq_left]
            · rfl
            · exact not_lt.mp hasHeader
          by_cases isLength :
              buf.length = relayHeaderLength + fromLittleEndian lengthBytes
          · simp only [isLength, ne_eq, not_true_eq_false, ↓reduceIte,
              Option.some.injEq] at decoded
            subst decoded
            have isByte := isRelayKind_eq_some_iff.mp isKind
            have ciphertextLength :
                (slice buf relayHeaderLength
                  (relayHeaderLength + fromLittleEndian lengthBytes)).length =
                  fromLittleEndian lengthBytes := by
              rw [length_slice, isLength]
              omega
            have fieldBytes :
                littleEndian 2 (fromLittleEndian lengthBytes) = lengthBytes := by
              rw [← fieldLength]
              exact littleEndian_fromLittleEndian lengthBytes
            refine ⟨⟨?_, ?_⟩, ?_⟩
            · rw [length_slice, isLength]
              unfold relayNonceOffset relayHeaderLength
              omega
            · have bound := fromLittleEndian_lt lengthBytes
              rw [fieldLength] at bound
              rw [ciphertextLength]
              unfold uint16Max
              omega
            · calc buf
                  = slice buf 0 (relayHeaderLength + fromLittleEndian lengthBytes) :=
                    (slice_all isLength).symm
                _ = slice buf 0 (0 + 1) ++ slice buf relayKindOffset (relayKindOffset + 1) ++
                      slice buf relayNonceOffset (relayNonceOffset + nonceLength) ++
                      slice buf relayCtLenOffset (relayCtLenOffset + 2) ++
                      slice buf relayHeaderLength
                        (relayHeaderLength + fromLittleEndian lengthBytes) := by
                    rw [relayHeader_slices, slice_append_slice]
                    · exact Nat.zero_le _
                    · exact Nat.le_add_right _ _
                _ = [getUint8 buf 0] ++ RelayFrame.fields
                      { kind
                        nonce := slice buf relayNonceOffset (relayNonceOffset + nonceLength)
                        ciphertext := slice buf relayHeaderLength
                          (relayHeaderLength + fromLittleEndian lengthBytes) } := by
                    rw [slice_one, slice_one, lengthField, RelayFrame.fields,
                      ciphertextLength, fieldBytes, isByte]
                    · simp only [List.append_assoc]
                    · exact lt_of_lt_of_le (by decide) (not_lt.mp hasHeader)
                    · exact lt_of_lt_of_le (by decide) (not_lt.mp hasHeader)
          · simp only [ne_eq, isLength, not_false_eq_true, ↓reduceIte] at decoded
            cases decoded
  · rintro ⟨wellFormed, layout⟩
    generalize getUint8 buf 0 = type at layout
    have isNonce := wellFormed.1
    have laidOut :
        buf = [type] ++ [frame.kind.toByte] ++ frame.nonce ++
          littleEndian 2 frame.ciphertext.length ++ frame.ciphertext := by
      rw [layout, RelayFrame.fields]
      simp only [List.append_assoc]
    have isLength : buf.length = relayHeaderLength + frame.ciphertext.length := by
      simp [laidOut, isNonce, relayHeaderLength]
      omega
    have isKind : getUint8 buf relayKindOffset = frame.kind.toByte := by
      rw [laidOut, List.append_assoc, List.append_assoc, List.append_assoc]
      exact getUint8_field (rfl : [type].length = relayKindOffset)
    have nonce :
        slice buf relayNonceOffset (relayNonceOffset + nonceLength) = frame.nonce := by
      rw [laidOut, List.append_assoc]
      apply slice_field
      · rfl
      · rw [isNonce]
    have lengthField :
        slice buf relayCtLenOffset (relayCtLenOffset + 2) =
          littleEndian 2 frame.ciphertext.length := by
      rw [laidOut]
      apply slice_field
      · simp [isNonce, relayCtLenOffset, relayNonceOffset]
        omega
      · rw [length_littleEndian]
    have ciphertext :
        slice buf relayHeaderLength (relayHeaderLength + frame.ciphertext.length) =
          frame.ciphertext := by
      rw [laidOut, ← List.append_nil (_ ++ frame.ciphertext)]
      apply slice_field
      · simp [isNonce, relayHeaderLength, nonceLength]
      · rfl
    have hasHeader : ¬ relayHeaderLength + frame.ciphertext.length < relayHeaderLength :=
      Nat.not_lt.mpr (Nat.le_add_right _ _)
    simp only [decodeRelay, isKind, isRelayKind_eq_some_iff.mpr rfl, lengthField,
      wellFormed.length_field, isLength, hasHeader, ne_eq, not_true_eq_false, ↓reduceIte,
      nonce, ciphertext]

/-! ## Frames and their byte strings -/

namespace ClientFrame

/-- The byte string of a frame. -/
def layout : ClientFrame → Bytes
  | .hello frame => [msgHello] ++ frame.fields
  | .handshake frame => [msgHandshake] ++ frame.fields
  | .relay frame => [msgRelay] ++ frame.fields

def WellFormed : ClientFrame → Prop
  | .hello frame => frame.WellFormed
  | .handshake frame => frame.WellFormed
  | .relay frame => frame.WellFormed

/-- The frame is of this protocol version, and its buffer of at most the
maximum wire size if it is a RELAY. -/
def Supported (buf : Bytes) : ClientFrame → Prop
  | .hello frame => frame.protocolVersion = Codec.protocolVersion
  | .handshake _ => True
  | .relay _ => buf.length ≤ maxWireBytes

end ClientFrame

namespace ServerFrame

/-- The byte string of a frame. -/
def layout : ServerFrame → Bytes
  | .ack role => [msgAck] ++ [roleToByte role]
  | .peerJoined => [msgPeerJoined]
  | .handshake frame => [msgHandshake] ++ frame.fields
  | .relay frame => [msgRelay] ++ frame.fields
  | .peerDisconnected graceMs => [msgPeerDisconnected] ++ littleEndian 4 graceMs.num.toNat
  | .peerLeft => [msgPeerLeft]
  | .error code => [msgError] ++ [errorCodeToByte code]

def WellFormed : ServerFrame → Prop
  | .handshake frame => frame.WellFormed
  | .relay frame => frame.WellFormed
  | .peerDisconnected graceMs => graceMs.isInt ∧ 0 ≤ graceMs ∧ graceMs ≤ uint32Max
  | _ => True

/-- The buffer is of at most the maximum wire size if it holds a RELAY. -/
def Supported (buf : Bytes) : ServerFrame → Prop
  | .relay _ => buf.length ≤ maxWireBytes
  | _ => True

end ServerFrame

theorem RelayFrame.WellFormed.length_layout
    {frame : RelayFrame}
    (wellFormed : frame.WellFormed) :
    ([msgRelay] ++ frame.fields).length = relayHeaderLength + frame.ciphertext.length := by
  simp only [RelayFrame.fields, List.length_append, List.length_cons, List.length_nil,
    length_littleEndian, wellFormed.1, relayHeaderLength]
  omega

/-- Encoding succeeds on well-formed supported frames and writes their layout. -/
theorem encodeClientFrame_eq_some_iff {frame : ClientFrame} {buf : Bytes} :
    encodeClientFrame frame = some buf ↔
      frame.WellFormed ∧ frame.Supported buf ∧ buf = frame.layout := by
  cases frame with
  | hello frame =>
      obtain ⟨roomId, version, intent⟩ := frame
      by_cases isVersion : version = protocolVersion
      · subst isVersion
        simp only [encodeClientFrame, ↓reduceIte, encodeHello_eq_some_iff,
          ClientFrame.WellFormed, ClientFrame.Supported, ClientFrame.layout, true_and]
      · simp [encodeClientFrame, isVersion, ClientFrame.Supported]
  | handshake frame =>
      simp only [encodeClientFrame, encodeHandshake_eq_some_iff, ClientFrame.WellFormed,
        ClientFrame.Supported, ClientFrame.layout, true_and]
  | relay frame =>
      simp only [encodeClientFrame, encodeRelay_eq_some_iff, ClientFrame.WellFormed,
        ClientFrame.Supported, ClientFrame.layout]
      apply and_congr_right
      intro wellFormed
      apply and_congr_left
      rintro rfl
      rw [wellFormed.length_layout]

/-- Decoding succeeds on exactly the layouts of well-formed frames. -/
theorem decodeClientFrame_eq_some_iff {buf : Bytes} {frame : ClientFrame} :
    decodeClientFrame buf = some frame ↔ frame.WellFormed ∧ buf = frame.layout := by
  cases buf with
  | nil =>
      cases frame <;>
        simp [decodeClientFrame, readType, ClientFrame.layout, msgHello, msgHandshake,
          msgRelay]
  | cons type rest =>
      have isType : readType (type :: rest) = some type := rfl
      simp only [decodeClientFrame, isType, Option.some.injEq]
      split
      next isHello =>
        cases frame <;>
          simp [decodeHello_eq_some_iff, isHello, ClientFrame.WellFormed,
            ClientFrame.layout, msgHello, msgHandshake, msgRelay]
      next isHello =>
        split
        next isHandshake =>
          cases frame <;>
            simp [decodeHandshake_eq_some_iff, isHandshake,
              ClientFrame.WellFormed, ClientFrame.layout, msgHello, msgHandshake, msgRelay]
        next isHandshake =>
          split
          next isRelay =>
            cases frame <;>
              simp [decodeRelay_eq_some_iff, isRelay, ClientFrame.WellFormed,
                ClientFrame.layout, msgHello, msgHandshake, msgRelay]
          next isRelay =>
            cases frame <;> simp [ClientFrame.layout, isHello, isHandshake, isRelay]

theorem encodeSingleByteFrame_eq (type : UInt8) :
    encodeSingleByteFrame type = [type] :=
  rfl

theorem encodeAck_eq (role : Role) :
    encodeAck role = [msgAck] ++ [roleToByte role] :=
  rfl

theorem encodeError_eq (code : ErrorCode) :
    encodeError code = [msgError] ++ [errorCodeToByte code] :=
  rfl

theorem encodePeerDisconnected_eq_some_iff {graceMs : Rat} {buf : Bytes} :
    encodePeerDisconnected graceMs = some buf ↔
      (ServerFrame.peerDisconnected graceMs).WellFormed ∧
        buf = (ServerFrame.peerDisconnected graceMs).layout := by
  have checks :
      ¬ (¬ graceMs.isInt ∨ graceMs < 0 ∨ graceMs > uint32Max) ↔
        (ServerFrame.peerDisconnected graceMs).WellFormed := by
    simp only [ServerFrame.WellFormed, not_or, not_not, not_lt, gt_iff_lt]
  have written :
      setBytes
          (setUint8 (zeroed peerDisconnectedFrameLength) 0 msgPeerDisconnected)
          (littleEndian 4 graceMs.num.toNat) 1 =
        (ServerFrame.peerDisconnected graceMs).layout := by
    rw [setUint8_zeroed, setBytes_front, length_littleEndian]
    · exact List.append_nil _
    · rfl
  unfold encodePeerDisconnected
  by_cases isGrace : ¬ graceMs.isInt ∨ graceMs < 0 ∨ graceMs > uint32Max
  · rw [if_pos isGrace, ← checks]
    simp only [reduceCtorEq, isGrace, not_true_eq_false, false_and]
  · rw [if_neg isGrace, ← checks]
    simp only [written, Option.some.injEq, isGrace, not_false_eq_true, true_and]
    exact eq_comm

/-- Encoding succeeds on well-formed supported frames and writes their layout. -/
theorem encodeServerFrame_eq_some_iff {frame : ServerFrame} {buf : Bytes} :
    encodeServerFrame frame = some buf ↔
      frame.WellFormed ∧ frame.Supported buf ∧ buf = frame.layout := by
  cases frame with
  | ack role =>
      simp only [encodeServerFrame, encodeAck_eq, ServerFrame.WellFormed,
        ServerFrame.Supported, ServerFrame.layout, Option.some.injEq, true_and]
      exact eq_comm
  | peerJoined =>
      simp only [encodeServerFrame, encodePeerJoined, encodeSingleByteFrame_eq,
        ServerFrame.WellFormed, ServerFrame.Supported, ServerFrame.layout,
        Option.some.injEq, true_and]
      exact eq_comm
  | handshake frame =>
      simp only [encodeServerFrame, encodeHandshake_eq_some_iff, ServerFrame.WellFormed,
        ServerFrame.Supported, ServerFrame.layout, true_and]
  | relay frame =>
      simp only [encodeServerFrame, encodeRelay_eq_some_iff, ServerFrame.WellFormed,
        ServerFrame.Supported, ServerFrame.layout]
      apply and_congr_right
      intro wellFormed
      apply and_congr_left
      rintro rfl
      rw [wellFormed.length_layout]
  | peerDisconnected graceMs =>
      simp only [encodeServerFrame, encodePeerDisconnected_eq_some_iff,
        ServerFrame.Supported, true_and]
  | peerLeft =>
      simp only [encodeServerFrame, encodePeerLeft, encodeSingleByteFrame_eq,
        ServerFrame.WellFormed, ServerFrame.Supported, ServerFrame.layout,
        Option.some.injEq, true_and]
      exact eq_comm
  | error code =>
      simp only [encodeServerFrame, encodeError_eq, ServerFrame.WellFormed,
        ServerFrame.Supported, ServerFrame.layout, Option.some.injEq, true_and]
      exact eq_comm

/-- A frame of two bytes, the second of which stands for a value. -/
theorem decode_two_bytes
    {Value : Type}
    {byteTo : UInt8 → Option Value}
    {toByte : Value → UInt8}
    (inverse : ∀ {byte : UInt8} {value : Value},
      byteTo byte = some value ↔ toByte value = byte)
    {make : Value → ServerFrame}
    {type : UInt8}
    {rest : Bytes}
    {frame : ServerFrame} :
    (if (type :: rest).length ≠ 2 then
        none
      else
        (byteTo (getUint8 (type :: rest) 1)).map make) = some frame ↔
      ∃ value, make value = frame ∧ rest = [toByte value] := by
  rcases rest with _ | ⟨byte, _ | ⟨extra, rest⟩⟩
  · simp
  · have second : getUint8 [type, byte] 1 = byte := rfl
    simp only [List.length_cons, List.length_nil, ne_eq, not_true_eq_false, ↓reduceIte,
      second, Option.map_eq_some_iff, inverse, List.cons.injEq, and_true]
    constructor
    · rintro ⟨value, isByte, isFrame⟩
      exact ⟨value, isFrame, isByte.symm⟩
    · rintro ⟨value, isFrame, isByte⟩
      exact ⟨value, isByte.symm, isFrame⟩
  · simp

theorem decodeAck_eq_some_iff {type : UInt8} {rest : Bytes} {frame : ServerFrame} :
    decodeAck (type :: rest) = some frame ↔
      ∃ role, ServerFrame.ack role = frame ∧ rest = [roleToByte role] :=
  decode_two_bytes byteToRole_eq_some_iff

theorem decodeError_eq_some_iff {type : UInt8} {rest : Bytes} {frame : ServerFrame} :
    decodeError (type :: rest) = some frame ↔
      ∃ code, ServerFrame.error code = frame ∧ rest = [errorCodeToByte code] :=
  decode_two_bytes byteToErrorCode_eq_some_iff

theorem decodePeerDisconnected_eq_some_iff
    {type : UInt8}
    {rest : Bytes}
    {frame : ServerFrame} :
    decodePeerDisconnected (type :: rest) = some frame ↔
      ∃ graceMs, ServerFrame.peerDisconnected graceMs = frame ∧
        frame.WellFormed ∧ rest = littleEndian 4 graceMs.num.toNat := by
  unfold decodePeerDisconnected
  by_cases isLength : rest.length = 4
  · have field : slice (type :: rest) 1 (1 + 4) = rest := by
      rw [slice, List.take_of_length_le]
      · rfl
      · simp [isLength]
    have bound := fromLittleEndian_lt rest
    rw [isLength] at bound
    simp only [List.length_cons, isLength, peerDisconnectedFrameLength, ne_eq,
      not_true_eq_false, ↓reduceIte, field, Option.some.injEq]
    constructor
    · rintro rfl
      refine ⟨_, rfl, ⟨rfl, by positivity, ?_⟩, ?_⟩
      · have inRange : fromLittleEndian rest ≤ uint32Max := by
          unfold uint32Max
          omega
        exact_mod_cast inRange
      · rw [Rat.num_natCast, Int.toNat_natCast, ← isLength]
        exact (littleEndian_fromLittleEndian rest).symm
    · rintro ⟨graceMs, rfl, ⟨isInt, nonneg, inRange⟩, rfl⟩
      have isNat : ((graceMs.num.toNat : Nat) : Rat) = graceMs := by
        have isNum : (graceMs.num : Rat) = graceMs :=
          Rat.den_eq_one_iff graceMs |>.mp (by simpa [Rat.isInt] using isInt)
        have cast : ((graceMs.num.toNat : Int) : Rat) = graceMs := by
          rw [Int.toNat_of_nonneg (Rat.num_nonneg.mpr nonneg), isNum]
        exact_mod_cast cast
      have inWidth : graceMs.num.toNat < 256 ^ 4 := by
        rw [← isNat] at inRange
        have natRange : graceMs.num.toNat ≤ uint32Max := by exact_mod_cast inRange
        unfold uint32Max at natRange
        omega
      rw [fromLittleEndian_littleEndian inWidth, isNat]
  · have notLength : rest.length + 1 ≠ peerDisconnectedFrameLength := by
      unfold peerDisconnectedFrameLength
      omega
    rw [List.length_cons, if_pos notLength]
    constructor
    · intro decoded
      cases decoded
    · rintro ⟨graceMs, _, _, rfl⟩
      exact absurd (length_littleEndian 4 _) isLength

/-- Decoding succeeds on exactly the layouts of well-formed frames. -/
theorem decodeServerFrame_eq_some_iff {buf : Bytes} {frame : ServerFrame} :
    decodeServerFrame buf = some frame ↔ frame.WellFormed ∧ buf = frame.layout := by
  cases buf with
  | nil =>
      cases frame <;>
        simp [decodeServerFrame, readType, ServerFrame.layout, msgAck, msgPeerJoined,
          msgPeerLeft, msgPeerDisconnected, msgError, msgHandshake, msgRelay]
  | cons type rest =>
      have isType : readType (type :: rest) = some type := rfl
      simp only [decodeServerFrame, isType, Option.some.injEq]
      split_ifs with isAck isJoined single isLeft single isDisconnected isError isHandshake
        isRelay
      all_goals
        cases frame <;>
          simp_all [decodeAck_eq_some_iff, decodePeerDisconnected_eq_some_iff,
            decodeError_eq_some_iff, decodeHandshake_eq_some_iff, decodeRelay_eq_some_iff,
            singleByteFrameLength, ServerFrame.WellFormed, ServerFrame.layout, msgAck,
            msgPeerJoined, msgPeerLeft, msgPeerDisconnected, msgError, msgHandshake, msgRelay]

/-! ## Layouts delimit themselves -/

theorem HelloFrame.WellFormed.length_fields
    {frame : HelloFrame}
    (wellFormed : frame.WellFormed) :
    frame.fields.length = roomIdLength + 2 := by
  rw [HelloFrame.WellFormed] at wellFormed
  simp [HelloFrame.fields, wellFormed]

theorem HandshakeFrame.WellFormed.length_fields
    {frame : HandshakeFrame}
    (wellFormed : frame.WellFormed) :
    frame.fields.length = nonceLength + handshakeCiphertextLength := by
  simp [HandshakeFrame.fields, wellFormed.1, wellFormed.2]

/-- Equally long byte strings do not extend each other. -/
theorem no_rest_of_length
    {first second rest : Bytes}
    (same : first ++ rest = second)
    (lengths : first.length = second.length) :
    rest = [] := by
  rw [← List.length_eq_zero_iff]
  have total := congrArg List.length same
  rw [List.length_append] at total
  omega

/-- The length field tells where the ciphertext of a RELAY ends. -/
theorem RelayFrame.WellFormed.no_rest
    {first second : RelayFrame}
    {rest : Bytes}
    (wellFormed : first.WellFormed)
    (alsoWellFormed : second.WellFormed)
    (same : first.fields ++ rest = second.fields) :
    rest = [] := by
  simp only [RelayFrame.fields, List.append_assoc] at same
  have behindKind := List.append_inj_right same (by rfl)
  have behindNonce :=
    List.append_inj_right behindKind (wellFormed.1.trans alsoWellFormed.1.symm)
  have lengthFields :=
    List.append_inj_left behindNonce (by rw [length_littleEndian, length_littleEndian])
  have ciphertexts :=
    List.append_inj_right behindNonce (by rw [length_littleEndian, length_littleEndian])
  apply no_rest_of_length ciphertexts
  rw [← wellFormed.length_field, lengthFields, alsoWellFormed.length_field]

/-- Frames of different types start with different bytes. -/
theorem ClientFrame.no_rest
    {first second : ClientFrame}
    {rest : Bytes}
    (wellFormed : first.WellFormed)
    (alsoWellFormed : second.WellFormed)
    (same : first.layout ++ rest = second.layout) :
    rest = [] := by
  cases first <;> cases second
  case hello.hello first second =>
    apply no_rest_of_length (List.cons.inj same).2
    exact (HelloFrame.WellFormed.length_fields wellFormed).trans
      (HelloFrame.WellFormed.length_fields alsoWellFormed).symm
  case handshake.handshake first second =>
    apply no_rest_of_length (List.cons.inj same).2
    exact (HandshakeFrame.WellFormed.length_fields wellFormed).trans
      (HandshakeFrame.WellFormed.length_fields alsoWellFormed).symm
  case relay.relay first second =>
    exact RelayFrame.WellFormed.no_rest wellFormed alsoWellFormed (List.cons.inj same).2
  all_goals
    exact absurd (List.cons.inj same).1 (by decide)

theorem ServerFrame.no_rest
    {first second : ServerFrame}
    {rest : Bytes}
    (wellFormed : first.WellFormed)
    (alsoWellFormed : second.WellFormed)
    (same : first.layout ++ rest = second.layout) :
    rest = [] := by
  cases first <;> cases second
  case handshake.handshake first second =>
    apply no_rest_of_length (List.cons.inj same).2
    exact (HandshakeFrame.WellFormed.length_fields wellFormed).trans
      (HandshakeFrame.WellFormed.length_fields alsoWellFormed).symm
  case relay.relay first second =>
    exact RelayFrame.WellFormed.no_rest wellFormed alsoWellFormed (List.cons.inj same).2
  case ack.ack | peerJoined.peerJoined | peerDisconnected.peerDisconnected |
      peerLeft.peerLeft | error.error =>
    apply no_rest_of_length same
    simp [ServerFrame.layout]
  all_goals
    exact absurd (List.cons.inj same).1 (by decide)

/--
The codec is a bijection on its image.  A client frame is encoded as a buffer
exactly if the buffer decodes to it, the frame is of the supported version and
the buffer within the maximum wire size; the same holds for server frames.  No
two buffers decode to one frame, and no accepted buffer extends another.
-/
theorem codec_is_bijective :
    (∀ frame buf,
      encodeClientFrame frame = some buf ↔
        decodeClientFrame buf = some frame ∧ frame.Supported buf) ∧
    (∀ frame buf,
      encodeServerFrame frame = some buf ↔
        decodeServerFrame buf = some frame ∧ frame.Supported buf) ∧
    (∀ first second frame,
      decodeClientFrame first = some frame → decodeClientFrame second = some frame →
        first = second) ∧
    (∀ first second frame,
      decodeServerFrame first = some frame → decodeServerFrame second = some frame →
        first = second) ∧
    (∀ buf rest,
      (decodeClientFrame buf).isSome → (decodeClientFrame (buf ++ rest)).isSome →
        rest = []) ∧
    (∀ buf rest,
      (decodeServerFrame buf).isSome → (decodeServerFrame (buf ++ rest)).isSome →
        rest = []) := by
  refine ⟨?_, ?_, ?_, ?_, ?_, ?_⟩
  · intro frame buf
    rw [encodeClientFrame_eq_some_iff, decodeClientFrame_eq_some_iff]
    tauto
  · intro frame buf
    rw [encodeServerFrame_eq_some_iff, decodeServerFrame_eq_some_iff]
    tauto
  · intro first second frame isFirst isSecond
    exact (decodeClientFrame_eq_some_iff.mp isFirst).2.trans
      (decodeClientFrame_eq_some_iff.mp isSecond).2.symm
  · intro first second frame isFirst isSecond
    exact (decodeServerFrame_eq_some_iff.mp isFirst).2.trans
      (decodeServerFrame_eq_some_iff.mp isSecond).2.symm
  · intro buf rest isShort isLong
    obtain ⟨first, decodedFirst⟩ := Option.isSome_iff_exists.mp isShort
    obtain ⟨second, decodedSecond⟩ := Option.isSome_iff_exists.mp isLong
    obtain ⟨wellFormed, isLayout⟩ := decodeClientFrame_eq_some_iff.mp decodedFirst
    obtain ⟨alsoWellFormed, isLongLayout⟩ := decodeClientFrame_eq_some_iff.mp decodedSecond
    apply ClientFrame.no_rest wellFormed alsoWellFormed
    rw [← isLayout, isLongLayout]
  · intro buf rest isShort isLong
    obtain ⟨first, decodedFirst⟩ := Option.isSome_iff_exists.mp isShort
    obtain ⟨second, decodedSecond⟩ := Option.isSome_iff_exists.mp isLong
    obtain ⟨wellFormed, isLayout⟩ := decodeServerFrame_eq_some_iff.mp decodedFirst
    obtain ⟨alsoWellFormed, isLongLayout⟩ := decodeServerFrame_eq_some_iff.mp decodedSecond
    apply ServerFrame.no_rest wellFormed alsoWellFormed
    rw [← isLayout, isLongLayout]

end Unseen.Codec
