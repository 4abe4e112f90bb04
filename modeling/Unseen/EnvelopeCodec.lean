import Unseen.JsonRecord
import Unseen.Wire

/-!
# The envelope codec

`encodeEnvelope` and `decodeEnvelope` on bytes: the validators of the fields, the
parser of each kind and the count of its fields.  The schema is stated apart from
them, and the decoder accepts exactly the objects that fit it.
-/

namespace Unseen.EnvelopeCodec

open Unicode Json

/-! ## Envelopes on the wire -/

/-- `EnvelopeKind` -/
inductive EnvelopeKind where
  | msg
  | resume
  | resumeAck
  | fileOffer
  | fileAccept
  | fileDecline
  | fileProgress
  | fileComplete
  | fileCompleteAck
  | fileCancel
  deriving DecidableEq, Repr

namespace EnvelopeKind

def name : EnvelopeKind → Text
  | .msg => ascii ['m', 's', 'g']
  | .resume => ascii ['r', 'e', 's', 'u', 'm', 'e']
  | .resumeAck => ascii ['r', 'e', 's', 'u', 'm', 'e', '_', 'a', 'c', 'k']
  | .fileOffer => ascii ['f', 'i', 'l', 'e', '_', 'o', 'f', 'f', 'e', 'r']
  | .fileAccept => ascii ['f', 'i', 'l', 'e', '_', 'a', 'c', 'c', 'e', 'p', 't']
  | .fileDecline => ascii ['f', 'i', 'l', 'e', '_', 'd', 'e', 'c', 'l', 'i', 'n', 'e']
  | .fileProgress => ascii ['f', 'i', 'l', 'e', '_', 'p', 'r', 'o', 'g', 'r', 'e', 's', 's']
  | .fileComplete => ascii ['f', 'i', 'l', 'e', '_', 'c', 'o', 'm', 'p', 'l', 'e', 't', 'e']
  | .fileCompleteAck =>
      ascii ['f', 'i', 'l', 'e', '_', 'c', 'o', 'm', 'p', 'l', 'e', 't', 'e', '_', 'a', 'c', 'k']
  | .fileCancel => ascii ['f', 'i', 'l', 'e', '_', 'c', 'a', 'n', 'c', 'e', 'l']

end EnvelopeKind

/-- `PlaintextEnvelope`, with the ids and sizes that go over the wire. -/
inductive WireEnvelope where
  | msg (body t : Text)
  | resume (id : Text)
  | resumeAck (id : Text)
  | fileOffer (tid name : Text) (size : Int)
  | fileAccept (tid : Text)
  | fileDecline (tid : Text) (reason : FileDeclineReason)
  | fileProgress (tid : Text) (receivedBytes : Int)
  | fileComplete (tid senderSha256 : Text)
  | fileCompleteAck (tid : Text)
  | fileCancel (tid : Text) (side : FileCancelSide) (reason : FileCancelReason)
  deriving DecidableEq

/-! ### Names of fields and members of enumerations -/

def kindField : Text := ascii ['k', 'i', 'n', 'd']
def bodyField : Text := ascii ['b', 'o', 'd', 'y']
def tField : Text := ascii ['t']
def idField : Text := ascii ['_', 'i', 'd']
def tidField : Text := ascii ['t', 'i', 'd']
def nameField : Text := ascii ['n', 'a', 'm', 'e']
def sizeField : Text := ascii ['s', 'i', 'z', 'e']
def sideField : Text := ascii ['s', 'i', 'd', 'e']
def reasonField : Text := ascii ['r', 'e', 'a', 's', 'o', 'n']
def receivedBytesField : Text :=
  ascii ['r', 'e', 'c', 'e', 'i', 'v', 'e', 'd', '_', 'b', 'y', 't', 'e', 's']
def senderSha256Field : Text :=
  ascii ['s', 'e', 'n', 'd', 'e', 'r', '_', 's', 'h', 'a', '2', '5', '6']

/-- `DECLINE_REASONS` -/
def declineReasons : List (Text × FileDeclineReason) :=
  [ (ascii ['t', 'o', 'o', '_', 'l', 'a', 'r', 'g', 'e'], .tooLarge),
    (ascii ['u', 's', 'e', 'r', '_', 'r', 'e', 'j', 'e', 'c', 't', 'e', 'd'], .userRejected),
    (ascii ['u', 'n', 's', 'u', 'p', 'p', 'o', 'r', 't', 'e', 'd'], .unsupported) ]

/-- `CANCEL_REASONS` -/
def cancelReasons : List (Text × FileCancelReason) :=
  [ (ascii ['u', 's', 'e', 'r', '_', 'a', 'b', 'o', 'r', 't', 'e', 'd'], .userAborted),
    (ascii ['i', 'n', 't', 'e', 'g', 'r', 'i', 't', 'y', '_', 'f', 'a', 'i', 'l', 'u', 'r', 'e'],
      .integrityFailure),
    (ascii ['s', 'e', 's', 's', 'i', 'o', 'n', '_', 'r', 'e', 'k', 'e', 'y'], .sessionRekey) ]

/-- `CANCEL_SIDES` -/
def cancelSides : List (Text × FileCancelSide) :=
  [ (ascii ['s', 'e', 'n', 'd', 'e', 'r'], .sender),
    (ascii ['r', 'e', 'c', 'e', 'i', 'v', 'e', 'r'], .receiver) ]

/-- The name under which a member stands in its enumeration. -/
def memberName {Member : Type} [DecidableEq Member] (members : List (Text × Member))
    (member : Member) : Text :=
  ((members.find? fun entry => entry.2 = member).map Prod.fst).getD []

namespace WireEnvelope

def kind : WireEnvelope → EnvelopeKind
  | .msg .. => .msg
  | .resume _ => .resume
  | .resumeAck _ => .resumeAck
  | .fileOffer .. => .fileOffer
  | .fileAccept _ => .fileAccept
  | .fileDecline .. => .fileDecline
  | .fileProgress .. => .fileProgress
  | .fileComplete .. => .fileComplete
  | .fileCompleteAck _ => .fileCompleteAck
  | .fileCancel .. => .fileCancel

/-- The fields of an envelope behind its kind. -/
def fields : WireEnvelope → List (Text × Property)
  | .msg body t => [(bodyField, .string body), (tField, .string t)]
  | .resume id => [(idField, .string id)]
  | .resumeAck id => [(idField, .string id)]
  | .fileOffer tid name size =>
      [(tidField, .string tid), (nameField, .string name), (sizeField, .integer size)]
  | .fileAccept tid => [(tidField, .string tid)]
  | .fileDecline tid reason =>
      [(tidField, .string tid), (reasonField, .string (memberName declineReasons reason))]
  | .fileProgress tid receivedBytes =>
      [(tidField, .string tid), (receivedBytesField, .integer receivedBytes)]
  | .fileComplete tid senderSha256 =>
      [(tidField, .string tid), (senderSha256Field, .string senderSha256)]
  | .fileCompleteAck tid => [(tidField, .string tid)]
  | .fileCancel tid side reason =>
      [ (tidField, .string tid),
        (sideField, .string (memberName cancelSides side)),
        (reasonField, .string (memberName cancelReasons reason)) ]

/-- The properties of the object, in the order of its literal. -/
def record (envelope : WireEnvelope) : List (Text × Property) :=
  (kindField, .string envelope.kind.name) :: envelope.fields

/-- The members of the parsed object. -/
def entries (envelope : WireEnvelope) : List (Text × Value) :=
  envelope.record.map toEntry

end WireEnvelope

/-! ## Validators -/

/-- `MAX_NAME_BYTES_WIRE` -/
def maxNameBytesWire : Nat := 1024

/-- `Number.MAX_SAFE_INTEGER` -/
def maxSafeInteger : Nat := 2 ^ 53 - 1

/-- `[0-9a-f]` -/
def isHexUnit (unit : UInt16) : Bool :=
  (0x30 ≤ unit && unit ≤ 0x39) || (0x61 ≤ unit && unit ≤ 0x66)

/-- `ID_HEX_RE` and `SHA256_HEX_RE`: so many hexadecimal digits and nothing else. -/
def matchesHex (count : Nat) (s : Text) : Bool :=
  s.length = count && s.all isHexUnit

/-- `TID_ALL_ZERO` -/
def tidAllZero : Text :=
  List.replicate 16 0x30

/-- `asString` -/
def asString : Option Value → Option Text
  | some (.string s) => some s
  | _ => none

/-- `asBody` -/
def asBody (value : Option Value) : Option Text := do
  let s ← asString value
  if maxBodyBytes < (textEncode s).length then none else some s

/-- `asId` -/
def asId (value : Option Value) : Option Text := do
  let s ← asString value
  if matchesHex 16 s then some s else none

/-- `asTid` -/
def asTid (value : Option Value) : Option Text := do
  let s ← asId value
  if s = tidAllZero then none else some s

/-- `asName` -/
def asName (value : Option Value) : Option Text := do
  let s ← asString value
  if maxNameBytesWire < (textEncode s).length then none else some s

/-- `asInteger`: `Number.isSafeInteger` holds of the number. -/
def asInteger : Option Value → Option Int
  | some (.number (.finite value)) =>
      if value.den = 1 ∧ value.num.natAbs ≤ maxSafeInteger then some value.num else none
  | _ => none

/-- `asSize` -/
def asSize (value : Option Value) : Option Int := do
  let n ← asInteger value
  if n < 1 then none else some n

/-- `asReceivedBytes` -/
def asReceivedBytes (value : Option Value) : Option Int := do
  let n ← asInteger value
  if n < 0 then none else some n

/-- `asSenderSha256` -/
def asSenderSha256 (value : Option Value) : Option Text := do
  let s ← asString value
  if matchesHex 64 s then some s else none

/-- `asEnum` -/
def asEnum {Member : Type} (value : Option Value) (members : List (Text × Member)) :
    Option Member := do
  let s ← asString value
  (members.find? fun entry => entry.1 = s).map Prod.snd

/-- `asDeclineReason` -/
def asDeclineReason (value : Option Value) : Option FileDeclineReason :=
  asEnum value declineReasons

/-- `asCancelReason` -/
def asCancelReason (value : Option Value) : Option FileCancelReason :=
  asEnum value cancelReasons

/-- `asCancelSide` -/
def asCancelSide (value : Option Value) : Option FileCancelSide :=
  asEnum value cancelSides

/-! ## Parsers -/

/-- `PARSERS`.  No field is a property that plain objects inherit, so a field is
one of the object's own members or undefined. -/
def parsers (kind : EnvelopeKind) (r : List (Text × Value)) : Option WireEnvelope :=
  match kind with
  | .msg => do
      let body ← asBody (r.lookup bodyField)
      let t ← asString (r.lookup tField)
      some (.msg body t)
  | .resume => do
      let id ← asId (r.lookup idField)
      some (.resume id)
  | .resumeAck => do
      let id ← asId (r.lookup idField)
      some (.resumeAck id)
  | .fileOffer => do
      let tid ← asTid (r.lookup tidField)
      let name ← asName (r.lookup nameField)
      let size ← asSize (r.lookup sizeField)
      some (.fileOffer tid name size)
  | .fileAccept => do
      let tid ← asTid (r.lookup tidField)
      some (.fileAccept tid)
  | .fileDecline => do
      let tid ← asTid (r.lookup tidField)
      let reason ← asDeclineReason (r.lookup reasonField)
      some (.fileDecline tid reason)
  | .fileProgress => do
      let tid ← asTid (r.lookup tidField)
      let receivedBytes ← asReceivedBytes (r.lookup receivedBytesField)
      some (.fileProgress tid receivedBytes)
  | .fileComplete => do
      let tid ← asTid (r.lookup tidField)
      let senderSha256 ← asSenderSha256 (r.lookup senderSha256Field)
      some (.fileComplete tid senderSha256)
  | .fileCompleteAck => do
      let tid ← asTid (r.lookup tidField)
      some (.fileCompleteAck tid)
  | .fileCancel => do
      let tid ← asTid (r.lookup tidField)
      let side ← asCancelSide (r.lookup sideField)
      let reason ← asCancelReason (r.lookup reasonField)
      some (.fileCancel tid side reason)

/-- `REQUIRED_FIELD_COUNT` -/
def requiredFieldCount : EnvelopeKind → Nat
  | .msg => 2
  | .resume => 1
  | .resumeAck => 1
  | .fileOffer => 3
  | .fileAccept => 1
  | .fileDecline => 2
  | .fileProgress => 2
  | .fileComplete => 2
  | .fileCompleteAck => 1
  | .fileCancel => 3

/-- `KNOWN_KINDS` -/
def knownKinds : List EnvelopeKind :=
  [ .msg, .resume, .resumeAck, .fileOffer, .fileAccept, .fileDecline, .fileProgress,
    .fileComplete, .fileCompleteAck, .fileCancel ]

/-- `isKnownKind`, with the kind it narrows the value to. -/
def isKnownKind (value : Option Value) : Option EnvelopeKind := do
  let s ← asString value
  knownKinds.find? fun kind => kind.name = s

/-! ## The codec -/

/-- `body exceeds MAX_BODY_BYTES`: the first check of `encodeEnvelope`. -/
def WireEnvelope.bodyTooLong : WireEnvelope → Bool
  | .msg body _ => maxBodyBytes < (textEncode body).length
  | _ => false

/-- `encodeEnvelope`: throws when the body or the plaintext is too long. -/
def encodeEnvelope (envelope : WireEnvelope) : Option Bytes :=
  if envelope.bodyTooLong then
    none
  else
    let encoded := textEncode (stringify envelope.record)
    if maxPlaintextBytes < encoded.length then none else some encoded

/-- `decodeEnvelope` on the parsed value. -/
def decodeValue : Value → Option WireEnvelope
  | .object parsed => do
      let kind ← isKnownKind (parsed.lookup kindField)
      if parsed.length ≠ requiredFieldCount kind + 1 then none else parsers kind parsed
  | _ => none

/-- `JSON.parse(decoder.decode(bytes))` -/
def parseBytes (bytes : Bytes) : Option Value := do
  let text ← textDecode bytes
  parse text

/-- `decodeEnvelope`: throws on everything that is not an envelope. -/
def decodeEnvelope (bytes : Bytes) : Option WireEnvelope :=
  if maxPlaintextBytes < bytes.length then
    none
  else do
    let parsed ← parseBytes bytes
    decodeValue parsed

/-! ## The schema -/

/-- What a field may hold. -/
inductive Constraint where
  | text
  | textUpTo (bytes : Nat)
  | hex (count : Nat)
  | transferId
  | integerFrom (least : Int)
  | oneOf (names : List Text)

/-- Hexadecimal digits in lower case. -/
def IsHex (count : Nat) (s : Text) : Prop :=
  s.length = count ∧
    ∀ unit ∈ s, (0x30 ≤ unit ∧ unit ≤ 0x39) ∨ (0x61 ≤ unit ∧ unit ≤ 0x66)

def Constraint.Meets (value : Value) : Constraint → Prop
  | .text => ∃ s, value = .string s
  | .textUpTo bytes => ∃ s, value = .string s ∧ (textEncode s).length ≤ bytes
  | .hex count => ∃ s, value = .string s ∧ IsHex count s
  | .transferId => ∃ s, value = .string s ∧ IsHex 16 s ∧ s ≠ tidAllZero
  | .integerFrom least =>
      ∃ n : Int, value = .number (.finite n) ∧ least ≤ n ∧ n.natAbs ≤ maxSafeInteger
  | .oneOf names => ∃ s ∈ names, value = .string s

/-- The fields of each kind. -/
def schema : EnvelopeKind → List (Text × Constraint)
  | .msg => [(bodyField, .textUpTo maxBodyBytes), (tField, .text)]
  | .resume => [(idField, .hex 16)]
  | .resumeAck => [(idField, .hex 16)]
  | .fileOffer =>
      [ (tidField, .transferId),
        (nameField, .textUpTo maxNameBytesWire),
        (sizeField, .integerFrom 1) ]
  | .fileAccept => [(tidField, .transferId)]
  | .fileDecline => [(tidField, .transferId), (reasonField, .oneOf (declineReasons.map Prod.fst))]
  | .fileProgress => [(tidField, .transferId), (receivedBytesField, .integerFrom 0)]
  | .fileComplete => [(tidField, .transferId), (senderSha256Field, .hex 64)]
  | .fileCompleteAck => [(tidField, .transferId)]
  | .fileCancel =>
      [ (tidField, .transferId),
        (sideField, .oneOf (cancelSides.map Prod.fst)),
        (reasonField, .oneOf (cancelReasons.map Prod.fst)) ]

/-- An object of a kind: its names are `kind` and the fields of the kind, and every
field holds what it may. -/
structure Fits (kind : EnvelopeKind) (members : List (Text × Value)) : Prop where
  names : ∀ name, name ∈ members.map Prod.fst ↔
    name = kindField ∨ name ∈ (schema kind).map Prod.fst
  isKind : (kindField, .string kind.name) ∈ members
  fields : ∀ field ∈ schema kind, ∀ value, (field.1, value) ∈ members → field.2.Meets value

/-! ## Validators and constraints -/

theorem matchesHex_iff {count : Nat} {s : Text} : matchesHex count s = true ↔ IsHex count s := by
  simp [matchesHex, IsHex, isHexUnit]

theorem asString_eq_some_iff {value : Option Value} {s : Text} :
    asString value = some s ↔ value = some (.string s) := by
  unfold asString
  split
  · simp
  · next notString => simpa using notString s

theorem asBody_eq_some_iff {value : Option Value} {s : Text} :
    asBody value = some s ↔
      value = some (.string s) ∧ (textEncode s).length ≤ maxBodyBytes := by
  simp only [asBody, Option.bind_eq_bind, Option.bind_eq_some_iff, asString_eq_some_iff,
    Option.ite_none_left_eq_some, Option.some.injEq, Nat.not_lt]
  constructor
  · rintro ⟨_, isValue, fits, rfl⟩
    exact ⟨isValue, fits⟩
  · rintro ⟨isValue, fits⟩
    exact ⟨s, isValue, fits, rfl⟩

theorem asName_eq_some_iff {value : Option Value} {s : Text} :
    asName value = some s ↔
      value = some (.string s) ∧ (textEncode s).length ≤ maxNameBytesWire := by
  simp only [asName, Option.bind_eq_bind, Option.bind_eq_some_iff, asString_eq_some_iff,
    Option.ite_none_left_eq_some, Option.some.injEq, Nat.not_lt]
  constructor
  · rintro ⟨_, isValue, fits, rfl⟩
    exact ⟨isValue, fits⟩
  · rintro ⟨isValue, fits⟩
    exact ⟨s, isValue, fits, rfl⟩

theorem asId_eq_some_iff {value : Option Value} {s : Text} :
    asId value = some s ↔ value = some (.string s) ∧ IsHex 16 s := by
  simp only [asId, Option.bind_eq_bind, Option.bind_eq_some_iff, asString_eq_some_iff,
    Option.ite_none_right_eq_some, Option.some.injEq, matchesHex_iff]
  constructor
  · rintro ⟨_, isValue, isHex, rfl⟩
    exact ⟨isValue, isHex⟩
  · rintro ⟨isValue, isHex⟩
    exact ⟨s, isValue, isHex, rfl⟩

theorem asSenderSha256_eq_some_iff {value : Option Value} {s : Text} :
    asSenderSha256 value = some s ↔ value = some (.string s) ∧ IsHex 64 s := by
  simp only [asSenderSha256, Option.bind_eq_bind, Option.bind_eq_some_iff, asString_eq_some_iff,
    Option.ite_none_right_eq_some, Option.some.injEq, matchesHex_iff]
  constructor
  · rintro ⟨_, isValue, isHex, rfl⟩
    exact ⟨isValue, isHex⟩
  · rintro ⟨isValue, isHex⟩
    exact ⟨s, isValue, isHex, rfl⟩

theorem asTid_eq_some_iff {value : Option Value} {s : Text} :
    asTid value = some s ↔ value = some (.string s) ∧ IsHex 16 s ∧ s ≠ tidAllZero := by
  simp only [asTid, Option.bind_eq_bind, Option.bind_eq_some_iff, asId_eq_some_iff,
    Option.ite_none_left_eq_some, Option.some.injEq]
  constructor
  · rintro ⟨_, ⟨isValue, isHex⟩, notZero, rfl⟩
    exact ⟨isValue, isHex, notZero⟩
  · rintro ⟨isValue, isHex, notZero⟩
    exact ⟨s, ⟨isValue, isHex⟩, notZero, rfl⟩

theorem asInteger_eq_some_iff {value : Option Value} {n : Int} :
    asInteger value = some n ↔
      value = some (.number (.finite n)) ∧ n.natAbs ≤ maxSafeInteger := by
  unfold asInteger
  split
  next number =>
    simp only [Option.ite_none_right_eq_some, Option.some.injEq, Value.number.injEq,
      Number.finite.injEq]
    constructor
    · rintro ⟨⟨isWhole, isSafe⟩, rfl⟩
      exact ⟨(Rat.den_eq_one_iff number).mp isWhole |>.symm, isSafe⟩
    · rintro ⟨rfl, isSafe⟩
      exact ⟨⟨Rat.den_intCast n, by simpa using isSafe⟩, Rat.num_intCast n⟩
  next notNumber =>
    constructor
    · intro isNone
      cases isNone
    · rintro ⟨isNumber, -⟩
      exact absurd isNumber (notNumber _)

theorem asSize_eq_some_iff {value : Option Value} {n : Int} :
    asSize value = some n ↔
      value = some (.number (.finite n)) ∧ 1 ≤ n ∧ n.natAbs ≤ maxSafeInteger := by
  simp only [asSize, Option.bind_eq_bind, Option.bind_eq_some_iff, asInteger_eq_some_iff,
    Option.ite_none_left_eq_some, Option.some.injEq, Int.not_lt]
  constructor
  · rintro ⟨_, ⟨isValue, isSafe⟩, positive, rfl⟩
    exact ⟨isValue, positive, isSafe⟩
  · rintro ⟨isValue, positive, isSafe⟩
    exact ⟨n, ⟨isValue, isSafe⟩, positive, rfl⟩

theorem asReceivedBytes_eq_some_iff {value : Option Value} {n : Int} :
    asReceivedBytes value = some n ↔
      value = some (.number (.finite n)) ∧ 0 ≤ n ∧ n.natAbs ≤ maxSafeInteger := by
  simp only [asReceivedBytes, Option.bind_eq_bind, Option.bind_eq_some_iff, asInteger_eq_some_iff,
    Option.ite_none_left_eq_some, Option.some.injEq, Int.not_lt]
  constructor
  · rintro ⟨_, ⟨isValue, isSafe⟩, positive, rfl⟩
    exact ⟨isValue, positive, isSafe⟩
  · rintro ⟨isValue, positive, isSafe⟩
    exact ⟨n, ⟨isValue, isSafe⟩, positive, rfl⟩

/-- Every member of an enumeration is found under its name, and no other name is
listed. -/
structure Enumerates {Member : Type} [DecidableEq Member] (members : List (Text × Member)) :
    Prop where
  found : ∀ member,
    (members.find? fun entry => entry.1 = memberName members member).map Prod.snd = some member
  named : ∀ entry ∈ members, memberName members entry.2 = entry.1

theorem asEnum_eq_some_iff
    {Member : Type} [DecidableEq Member]
    {members : List (Text × Member)}
    (enumerates : Enumerates members)
    {value : Option Value}
    {member : Member} :
    asEnum value members = some member ↔ value = some (.string (memberName members member)) := by
  simp only [asEnum, Option.bind_eq_bind, Option.bind_eq_some_iff, asString_eq_some_iff]
  constructor
  · rintro ⟨s, isValue, isMember⟩
    obtain ⟨entry, isEntry, rfl⟩ := Option.map_eq_some_iff.mp isMember
    have isName : entry.1 = s := by simpa using List.find?_some isEntry
    rw [enumerates.named entry (List.mem_of_find?_eq_some isEntry), isName, isValue]
  · intro isValue
    exact ⟨_, isValue, enumerates.found member⟩

theorem Enumerates.listed
    {Member : Type} [DecidableEq Member]
    {members : List (Text × Member)}
    (enumerates : Enumerates members)
    (member : Member) :
    ∃ other, (memberName members member, other) ∈ members := by
  obtain ⟨entry, isEntry, -⟩ := Option.map_eq_some_iff.mp (enumerates.found member)
  have isName : entry.1 = memberName members member := by simpa using List.find?_some isEntry
  exact ⟨entry.2, isName ▸ List.mem_of_find?_eq_some isEntry⟩

theorem declineReasons_enumerates : Enumerates declineReasons where
  found member := by cases member <;> decide
  named := by decide

theorem cancelReasons_enumerates : Enumerates cancelReasons where
  found member := by cases member <;> decide
  named := by decide

theorem cancelSides_enumerates : Enumerates cancelSides where
  found member := by cases member <;> decide
  named := by decide

/-! ## The decoder and the schema -/

theorem kind_of_parsers
    {kind : EnvelopeKind}
    {r : List (Text × Value)}
    {envelope : WireEnvelope}
    (parsed : parsers kind r = some envelope) :
    envelope.kind = kind := by
  cases kind <;>
    (simp only [parsers, Option.bind_eq_bind, Option.bind_eq_some_iff, Option.some.injEq] at parsed
     grind [WireEnvelope.kind])

/-- The fields of an envelope meet the constraints of its kind. -/
def WireEnvelope.Meets (envelope : WireEnvelope) : Prop :=
  List.Forall₂ (fun constraint field =>
      constraint.1 = field.1 ∧ constraint.2.Meets field.2.toValue)
    (schema envelope.kind) envelope.fields

/-- The parser of its kind reads an envelope off the members that hold its fields,
when these meet their constraints. -/
theorem parsers_eq_some_iff
    {r : List (Text × Value)}
    {envelope : WireEnvelope} :
    parsers envelope.kind r = some envelope ↔
      (∀ field ∈ envelope.fields, r.lookup field.1 = some field.2.toValue) ∧ envelope.Meets := by
  cases envelope with
  | msg | resume | resumeAck | fileOffer | fileAccept | fileProgress | fileComplete
    | fileCompleteAck =>
      simp [parsers, WireEnvelope.kind, WireEnvelope.fields, WireEnvelope.Meets, schema,
        Constraint.Meets, Property.toValue, Option.bind_eq_some_iff, asBody_eq_some_iff,
        asString_eq_some_iff, asId_eq_some_iff, asTid_eq_some_iff, asName_eq_some_iff,
        asSize_eq_some_iff, asReceivedBytes_eq_some_iff, asSenderSha256_eq_some_iff]
      try tauto
  | fileDecline tid reason =>
      simp [parsers, WireEnvelope.kind, WireEnvelope.fields, WireEnvelope.Meets, schema,
        Constraint.Meets, Property.toValue, Option.bind_eq_some_iff, asTid_eq_some_iff,
        asDeclineReason, asEnum_eq_some_iff declineReasons_enumerates,
        declineReasons_enumerates.listed]
      tauto
  | fileCancel tid side reason =>
      simp [parsers, WireEnvelope.kind, WireEnvelope.fields, WireEnvelope.Meets, schema,
        Constraint.Meets, Property.toValue, Option.bind_eq_some_iff, asTid_eq_some_iff,
        asCancelSide, asCancelReason, asEnum_eq_some_iff cancelSides_enumerates,
        asEnum_eq_some_iff cancelReasons_enumerates, cancelSides_enumerates.listed,
        cancelReasons_enumerates.listed]
      tauto

theorem isKnownKind_eq_some_iff {value : Option Value} {kind : EnvelopeKind} :
    isKnownKind value = some kind ↔ value = some (.string kind.name) := by
  have isFound : ∀ kind : EnvelopeKind,
      knownKinds.find? (fun other => other.name = kind.name) = some kind := by
    intro kind
    cases kind <;> decide
  simp only [isKnownKind, Option.bind_eq_bind, Option.bind_eq_some_iff, asString_eq_some_iff]
  constructor
  · rintro ⟨s, isValue, isKind⟩
    have isName : kind.name = s := by simpa using List.find?_some isKind
    rw [isName, isValue]
  · intro isValue
    exact ⟨_, isValue, isFound kind⟩

namespace WireEnvelope

variable {envelope : WireEnvelope} {members : List (Text × Value)}

theorem names_fields (envelope : WireEnvelope) :
    envelope.fields.map Prod.fst = (schema envelope.kind).map Prod.fst := by
  cases envelope <;> rfl

theorem length_fields (envelope : WireEnvelope) :
    envelope.fields.length = requiredFieldCount envelope.kind := by
  cases envelope <;> rfl

theorem distinct_schema (kind : EnvelopeKind) :
    (kindField :: (schema kind).map Prod.fst).Nodup := by
  cases kind <;> decide

theorem names_entries (envelope : WireEnvelope) :
    envelope.entries.map Prod.fst = kindField :: (schema envelope.kind).map Prod.fst := by
  rw [← names_fields]
  simp [entries, record, toEntry]

theorem distinct_entries (envelope : WireEnvelope) : (envelope.entries.map Prod.fst).Nodup := by
  rw [names_entries]
  exact distinct_schema _

theorem mem_entries {entry : Text × Value} :
    entry ∈ envelope.entries ↔
      entry = (kindField, .string envelope.kind.name) ∨
        ∃ field ∈ envelope.fields, toEntry field = entry := by
  simp [entries, record, toEntry, Property.toValue]

theorem lookup_eq_some_iff
    (distinct : (members.map Prod.fst).Nodup)
    {name : Text}
    {value : Value} :
    members.lookup name = some value ↔ (name, value) ∈ members := by
  have sameInstance : (List.instBEq : BEq Text) = instBEqOfDecidableEq :=
    lawful_beq_subsingleton _ _
  rw [sameInstance]
  exact OrderedMap.lookup_eq_some_iff distinct

/-- Of two entries of an object that have one name the values are the same. -/
theorem value_unique
    (distinct : (members.map Prod.fst).Nodup)
    {name : Text}
    {first second : Value}
    (isFirst : (name, first) ∈ members)
    (isSecond : (name, second) ∈ members) :
    first = second := by
  have found := (WireEnvelope.lookup_eq_some_iff distinct).mpr isFirst
  rw [(WireEnvelope.lookup_eq_some_iff distinct).mpr isSecond] at found
  exact (Option.some.inj found).symm

/-- An object that holds the members of an envelope and no other names is those
members in some order. -/
theorem perm_entries
    (distinct : (members.map Prod.fst).Nodup)
    (holds : ∀ entry ∈ envelope.entries, entry ∈ members)
    (names : ∀ name ∈ members.map Prod.fst, name ∈ envelope.entries.map Prod.fst) :
    members.Perm envelope.entries := by
  refine (List.perm_ext_iff_of_nodup distinct.of_map (distinct_entries envelope).of_map).mpr ?_
  rintro ⟨name, value⟩
  refine ⟨?_, holds _⟩
  intro isMember
  obtain ⟨⟨_, other⟩, isEntry, rfl⟩ :=
    List.mem_map.mp (names name (List.mem_map.mpr ⟨_, isMember, rfl⟩))
  rw [value_unique distinct isMember (holds _ isEntry)]
  exact isEntry

end WireEnvelope

/-- The decoder reads an envelope off the objects that are its members in some
order. -/
theorem decodeValue_object
    {members : List (Text × Value)}
    (distinct : (members.map Prod.fst).Nodup)
    (envelope : WireEnvelope) :
    decodeValue (.object members) = some envelope ↔
      members.Perm envelope.entries ∧ envelope.Meets := by
  have isLength : envelope.entries.length = requiredFieldCount envelope.kind + 1 := by
    rw [← envelope.length_fields]
    simp [WireEnvelope.entries, WireEnvelope.record]
  simp only [decodeValue, Option.bind_eq_bind, Option.bind_eq_some_iff, isKnownKind_eq_some_iff,
    Option.ite_none_left_eq_some, not_not]
  constructor
  · rintro ⟨kind, isKind, isCount, parsed⟩
    obtain rfl := kind_of_parsers parsed
    obtain ⟨holds, meets⟩ := parsers_eq_some_iff.mp parsed
    refine ⟨(List.Subperm.perm_of_length_le ?_ ?_).symm, meets⟩
    · apply List.subperm_of_subset envelope.distinct_entries.of_map
      rintro ⟨name, value⟩ isEntry
      apply (WireEnvelope.lookup_eq_some_iff distinct).mp
      rcases WireEnvelope.mem_entries.mp isEntry with isFirst | ⟨field, isField, isToEntry⟩
      · cases isFirst
        exact isKind
      · cases isToEntry
        exact holds field isField
    · rw [isLength, isCount]
  · rintro ⟨isPerm, meets⟩
    have holds : ∀ entry ∈ envelope.entries, members.lookup entry.1 = some entry.2 := by
      rintro ⟨name, value⟩ isEntry
      exact (WireEnvelope.lookup_eq_some_iff distinct).mpr (isPerm.mem_iff.mpr isEntry)
    refine ⟨envelope.kind, holds _ (WireEnvelope.mem_entries.mpr (.inl rfl)),
      by rw [isPerm.length_eq, isLength], parsers_eq_some_iff.mpr ⟨?_, meets⟩⟩
    intro field isField
    exact holds (toEntry field) (WireEnvelope.mem_entries.mpr (.inr ⟨field, isField, rfl⟩))

/-! ### Objects that fit the schema -/

namespace Fits

variable {kind : EnvelopeKind} {members : List (Text × Value)}

/-- A field of the kind is there and meets its constraint. -/
theorem field
    (fits : Fits kind members)
    {name : Text}
    {constraint : Constraint}
    (isField : (name, constraint) ∈ schema kind) :
    ∃ value, (name, value) ∈ members ∧ constraint.Meets value := by
  obtain ⟨⟨_, value⟩, isMember, rfl⟩ :=
    List.mem_map.mp ((fits.names name).mpr (.inr (List.mem_map.mpr ⟨_, isField, rfl⟩)))
  exact ⟨value, isMember, fits.fields _ isField value isMember⟩

/-- The members of an object that fits are those of an envelope that holds its
fields. -/
theorem perm
    (fits : Fits kind members)
    (distinct : (members.map Prod.fst).Nodup)
    {envelope : WireEnvelope}
    (isKind : envelope.kind = kind)
    (holds : ∀ field ∈ envelope.fields, toEntry field ∈ members) :
    members.Perm envelope.entries := by
  subst isKind
  apply WireEnvelope.perm_entries distinct
  · intro entry isEntry
    rcases WireEnvelope.mem_entries.mp isEntry with rfl | ⟨field, isField, rfl⟩
    · exact fits.isKind
    · exact holds field isField
  · intro name isName
    rw [WireEnvelope.names_entries, List.mem_cons]
    exact (fits.names name).mp isName

/-- An envelope whose members fit the schema meets its constraints. -/
theorem meets {envelope : WireEnvelope} (fits : Fits envelope.kind envelope.entries) :
    envelope.Meets := by
  have aligned : List.Forall₂ (fun constraint field => constraint.1 = field.1)
      (schema envelope.kind) envelope.fields := by
    cases envelope <;> simp [WireEnvelope.kind, WireEnvelope.fields, schema]
  obtain ⟨sameLength, sameNames⟩ := List.forall₂_iff_zip.mp aligned
  refine List.forall₂_iff_zip.mpr ⟨sameLength, ?_⟩
  · intro constraint field isPair
    have sameName := sameNames isPair
    obtain ⟨isConstraint, isField⟩ := List.of_mem_zip isPair
    refine ⟨sameName, fits.fields constraint isConstraint _ ?_⟩
    rw [sameName]
    exact WireEnvelope.mem_entries.mpr (.inr ⟨field, isField, rfl⟩)

theorem congr
    (fits : Fits kind members)
    {others : List (Text × Value)}
    (isPerm : members.Perm others) :
    Fits kind others where
  names name := by
    rw [← (isPerm.map Prod.fst).mem_iff]
    exact fits.names name
  isKind := isPerm.mem_iff.mp fits.isKind
  fields field isField value isMember := fits.fields field isField value (isPerm.mem_iff.mpr isMember)

/-- The fields of an object that fits make up an envelope. -/
theorem envelope (fits : Fits kind members) :
    ∃ envelope : WireEnvelope,
      envelope.kind = kind ∧ ∀ field ∈ envelope.fields, toEntry field ∈ members := by
  have found : ∀ {name constraint}, (name, constraint) ∈ schema kind →
      ∃ value, (name, value) ∈ members ∧ constraint.Meets value := fits.field
  cases kind with
  | msg =>
      obtain ⟨_, isBody, body, rfl, -⟩ := found (.head _)
      obtain ⟨_, isT, t, rfl⟩ := found (.tail _ (.head _))
      exact ⟨.msg body t, rfl, by simp [WireEnvelope.fields, toEntry, Property.toValue, isBody, isT]⟩
  | resume =>
      obtain ⟨_, isId, id, rfl, -⟩ := found (.head _)
      exact ⟨.resume id, rfl, by simp [WireEnvelope.fields, toEntry, Property.toValue, isId]⟩
  | resumeAck =>
      obtain ⟨_, isId, id, rfl, -⟩ := found (.head _)
      exact ⟨.resumeAck id, rfl, by simp [WireEnvelope.fields, toEntry, Property.toValue, isId]⟩
  | fileOffer =>
      obtain ⟨_, isTid, tid, rfl, -⟩ := found (.head _)
      obtain ⟨_, isName, name, rfl, -⟩ := found (.tail _ (.head _))
      obtain ⟨_, isSize, size, rfl, -⟩ := found (.tail _ (.tail _ (.head _)))
      exact ⟨.fileOffer tid name size, rfl, by
        simp [WireEnvelope.fields, toEntry, Property.toValue, isTid, isName, isSize]⟩
  | fileAccept =>
      obtain ⟨_, isTid, tid, rfl, -⟩ := found (.head _)
      exact ⟨.fileAccept tid, rfl, by simp [WireEnvelope.fields, toEntry, Property.toValue, isTid]⟩
  | fileDecline =>
      obtain ⟨_, isTid, tid, rfl, -⟩ := found (.head _)
      obtain ⟨_, isReason, _, isListed, rfl⟩ := found (.tail _ (.head _))
      obtain ⟨⟨_, reason⟩, isEntry, rfl⟩ := List.mem_map.mp isListed
      exact ⟨.fileDecline tid reason, rfl, by
        simp [WireEnvelope.fields, toEntry, Property.toValue, isTid,
          declineReasons_enumerates.named _ isEntry, isReason]⟩
  | fileProgress =>
      obtain ⟨_, isTid, tid, rfl, -⟩ := found (.head _)
      obtain ⟨_, isCount, receivedBytes, rfl, -⟩ := found (.tail _ (.head _))
      exact ⟨.fileProgress tid receivedBytes, rfl, by
        simp [WireEnvelope.fields, toEntry, Property.toValue, isTid, isCount]⟩
  | fileComplete =>
      obtain ⟨_, isTid, tid, rfl, -⟩ := found (.head _)
      obtain ⟨_, isDigest, senderSha256, rfl, -⟩ := found (.tail _ (.head _))
      exact ⟨.fileComplete tid senderSha256, rfl, by
        simp [WireEnvelope.fields, toEntry, Property.toValue, isTid, isDigest]⟩
  | fileCompleteAck =>
      obtain ⟨_, isTid, tid, rfl, -⟩ := found (.head _)
      exact ⟨.fileCompleteAck tid, rfl, by
        simp [WireEnvelope.fields, toEntry, Property.toValue, isTid]⟩
  | fileCancel =>
      obtain ⟨_, isTid, tid, rfl, -⟩ := found (.head _)
      obtain ⟨_, isSide, _, sideListed, rfl⟩ := found (.tail _ (.head _))
      obtain ⟨_, isReason, _, reasonListed, rfl⟩ := found (.tail _ (.tail _ (.head _)))
      obtain ⟨⟨_, side⟩, sideEntry, rfl⟩ := List.mem_map.mp sideListed
      obtain ⟨⟨_, reason⟩, reasonEntry, rfl⟩ := List.mem_map.mp reasonListed
      exact ⟨.fileCancel tid side reason, rfl, by
        simp [WireEnvelope.fields, toEntry, Property.toValue, isTid,
          cancelSides_enumerates.named _ sideEntry, isSide,
          cancelReasons_enumerates.named _ reasonEntry, isReason]⟩

end Fits

theorem exists_mem_of_forall₂
    {First Second : Type}
    {Related : First → Second → Prop}
    {firsts : List First}
    {seconds : List Second}
    (all : List.Forall₂ Related firsts seconds)
    {first : First}
    (isFirst : first ∈ firsts) :
    ∃ second ∈ seconds, Related first second := by
  induction all with
  | nil => cases isFirst
  | cons related _ ih =>
      cases isFirst with
      | head => exact ⟨_, List.mem_cons_self, related⟩
      | tail _ isLater =>
          obtain ⟨second, isSecond, related⟩ := ih isLater
          exact ⟨second, List.mem_cons_of_mem _ isSecond, related⟩

/-- The members of an envelope that meets its constraints fit the schema. -/
theorem WireEnvelope.Meets.fits
    {envelope : WireEnvelope}
    (meets : envelope.Meets)
    {members : List (Text × Value)}
    (isPerm : members.Perm envelope.entries) :
    Fits envelope.kind members where
  names name := by
    rw [(isPerm.map Prod.fst).mem_iff, WireEnvelope.names_entries, List.mem_cons]
  isKind := isPerm.mem_iff.mpr (WireEnvelope.mem_entries.mpr (.inl rfl))
  fields constraint isConstraint value isMember := by
    obtain ⟨field, isField, sameName, holds⟩ := exists_mem_of_forall₂ meets isConstraint
    have isEntry := WireEnvelope.mem_entries.mpr (.inr ⟨field, isField, rfl⟩)
    have sameValue := WireEnvelope.value_unique envelope.distinct_entries
      (sameName ▸ isPerm.mem_iff.mp isMember) isEntry
    rw [sameValue]
    exact holds

/-- An object fits the schema exactly if it is the members of an envelope, in some
order, that meets its constraints. -/
theorem fits_iff
    {kind : EnvelopeKind}
    {members : List (Text × Value)}
    (distinct : (members.map Prod.fst).Nodup) :
    Fits kind members ↔
      ∃ envelope : WireEnvelope,
        envelope.kind = kind ∧ members.Perm envelope.entries ∧ envelope.Meets := by
  constructor
  · intro fits
    obtain ⟨envelope, rfl, holds⟩ := fits.envelope
    have isPerm := fits.perm distinct rfl holds
    exact ⟨envelope, rfl, isPerm, (fits.congr isPerm).meets⟩
  · rintro ⟨envelope, rfl, isPerm, meets⟩
    exact meets.fits isPerm

/-! ## The codec keeps to the schema -/

theorem safe_record {envelope : WireEnvelope} (meets : envelope.Meets) :
    ∀ member ∈ envelope.record, member.2.IsSafe := by
  cases envelope <;>
    simp_all [WireEnvelope.record, WireEnvelope.fields, WireEnvelope.Meets, WireEnvelope.kind,
      schema, Constraint.Meets, Property.toValue, Property.IsSafe, maxSafeInteger]
  · omega
  · omega

/-- An envelope that meets its constraints and could be encoded decodes to itself. -/
theorem decodeEnvelope_encodeEnvelope
    {envelope : WireEnvelope}
    {bytes : Bytes}
    (meets : envelope.Meets)
    (encoded : encodeEnvelope envelope = some bytes) :
    decodeEnvelope bytes = some envelope := by
  simp only [encodeEnvelope, Option.ite_none_left_eq_some, Option.some.injEq] at encoded
  obtain ⟨-, fits, rfl⟩ := encoded
  have isRecord : parse (stringify envelope.record) = some (.object envelope.entries) := by
    refine parse_stringify (safe_record meets) ?_
    have distinct := envelope.distinct_entries
    rwa [WireEnvelope.entries, List.map_map] at distinct
  simp only [decodeEnvelope, if_neg fits, parseBytes, textDecode_stringify, Option.bind_eq_bind,
    Option.bind_some, isRecord]
  exact (decodeValue_object envelope.distinct_entries envelope).mpr ⟨.refl _, meets⟩

/--
A plaintext that parses is accepted exactly if it is an object that fits the schema
of a kind; what is returned are its fields and nothing else.  Envelopes that fit
the schema and can be encoded decode to themselves.
-/
theorem decodeEnvelope_schema
    {bytes : Bytes}
    (within : bytes.length ≤ maxPlaintextBytes)
    {value : Value}
    (parsed : parseBytes bytes = some value) :
    ((∃ envelope, decodeEnvelope bytes = some envelope) ↔
        ∃ kind members, value = .object members ∧ Fits kind members) ∧
      (∀ envelope, decodeEnvelope bytes = some envelope →
        ∃ members, value = .object members ∧ members.Perm envelope.entries) ∧
      ∀ (envelope : WireEnvelope) encoded,
        Fits envelope.kind envelope.entries → encodeEnvelope envelope = some encoded →
          decodeEnvelope encoded = some envelope := by
  have isDecoded : decodeEnvelope bytes = decodeValue value := by
    simp [decodeEnvelope, parsed, Nat.not_lt.mpr within]
  have distinct : value.DistinctNames := by
    obtain ⟨text, -, isText⟩ := Option.bind_eq_some_iff.mp parsed
    exact parse_distinct isText
  rw [isDecoded]
  refine ⟨?_, ?_, fun envelope encoded fits isEncoded =>
    decodeEnvelope_encodeEnvelope fits.meets isEncoded⟩
  · constructor
    · rintro ⟨envelope, isEnvelope⟩
      cases value with
      | object members =>
          obtain ⟨isPerm, meets⟩ := (decodeValue_object distinct envelope).mp isEnvelope
          exact ⟨envelope.kind, members, rfl, meets.fits isPerm⟩
      | null | bool | number | string | array => cases isEnvelope
    · rintro ⟨kind, members, rfl, fits⟩
      obtain ⟨envelope, -, isPerm, meets⟩ := (fits_iff distinct).mp fits
      exact ⟨envelope, (decodeValue_object distinct envelope).mpr ⟨isPerm, meets⟩⟩
  · intro envelope isEnvelope
    cases value with
    | object members =>
        exact ⟨members, rfl, ((decodeValue_object distinct envelope).mp isEnvelope).1⟩
    | null | bool | number | string | array => cases isEnvelope

/-- A resume envelope. -/
def sampleEnvelope : WireEnvelope :=
  .resume (List.replicate 16 0x61)

/-- Its bytes are accepted, as its object fits the schema. -/
theorem decodeEnvelope_schema_sample :
    ∃ envelope, decodeEnvelope (textEncode (stringify sampleEnvelope.record)) = some envelope := by
  have meets : sampleEnvelope.Meets := by
    simp [sampleEnvelope, WireEnvelope.Meets, WireEnvelope.kind, WireEnvelope.fields, schema,
      Constraint.Meets, Property.toValue, IsHex]
  have parsed : parseBytes (textEncode (stringify sampleEnvelope.record)) =
      some (.object sampleEnvelope.entries) := by
    simp only [parseBytes, textDecode_stringify, Option.bind_eq_bind, Option.bind_some]
    exact parse_stringify (safe_record meets) (by decide)
  exact (decodeEnvelope_schema (by decide +kernel) parsed).1.mpr
    ⟨_, _, rfl, meets.fits (.refl _)⟩

end Unseen.EnvelopeCodec
