import Unseen.Buffer
import Unseen.Nonce

/-!
# Deriving the session key from two public keys

The transcript of a handshake holds both public keys, the lower one first, so
that both parties build the same one.  Keys and secrets are byte strings here;
`hkdf` and the key agreement are parameters, and every call of `hkdf` is logged.
-/

namespace Unseen.SessionMaterial

open ByteBuffer

/-! ## The transcript -/

/-- `PUBKEY_LENGTH` -/
def pubkeyLength : Nat := 32

/-- `SESSION_KEY_LENGTH` -/
def sessionKeyLength : Nat := 32

/-- `SAS_LENGTH` -/
def sasLength : Nat := 5

/-- `compareLexicographic` -/
def compareLexicographic : Bytes → Bytes → Int
  | [], b => -(b.length : Int)
  | _ :: _, [] => 1
  | av :: a, bv :: b =>
      if av ≠ bv then (av.toNat : Int) - bv.toNat else compareLexicographic a b

/-- `buildTranscript` -/
def buildTranscript (mine peer : Bytes) : Bytes :=
  let peerIsLower := compareLexicographic peer mine < 0
  let lo := if peerIsLower then peer else mine
  let hi := if peerIsLower then mine else peer
  setBytes (setBytes (zeroed (pubkeyLength * 2)) lo 0) hi pubkeyLength

/-! ## The derivation -/

/-- Arguments of `hkdf`. -/
structure HkdfCall where
  ikm : Bytes
  salt : Bytes
  info : Bytes
  length : Nat
  deriving DecidableEq, Repr

/-- A key imported for AES-GCM: `importAesGcmKey` on 32 bytes. -/
structure ImportedKey where
  raw : Bytes
  extractable : Bool
  deriving DecidableEq, Repr

/-- `SessionMaterial` -/
structure Material where
  sessionKey : ImportedKey
  sessionKeyRaw : Bytes
  sasBytes : Bytes
  deriving DecidableEq, Repr

/-- What a derivation does: the keys it derives on the way, and its result or the
message it throws. -/
structure Derivation where
  derived : List HkdfCall
  result : Except String Material

/-- Characters of a literal as bytes. -/
def utf8 (literal : List Char) : Bytes :=
  literal.map fun character => UInt8.ofNat character.toNat

/-- `HKDF_INFO_SESSION_KEY_PREFIX` -/
def hkdfInfoSessionKeyPrefix : Bytes :=
  utf8 ['u', 'n', 's', 'e', 'e', 'n', ':', 'v', '1', ':', 's', 'e', 's', 's', 'i', 'o', 'n', '-',
    'k', 'e', 'y']

/-- `HKDF_INFO_SAS` -/
def hkdfInfoSas : Bytes :=
  utf8 ['u', 'n', 's', 'e', 'e', 'n', ':', 'v', '1', ':', 's', 'a', 's']

/-- `isAllZero` -/
def isAllZero (bytes : Bytes) : Bool :=
  bytes.all (· == 0)

/-- `deriveSessionMaterial` -/
def deriveSessionMaterial
    (hkdf : HkdfCall → Bytes)
    (sharedSecret myPubKeyRaw peerPubKeyRaw sasAnchor : Bytes)
    (extractable : Bool) : Derivation :=
  if sharedSecret.length ≠ pubkeyLength then
    ⟨[], .error "shared secret must be 32 bytes"⟩
  else if isAllZero sharedSecret then
    ⟨[], .error "shared secret is all zero"⟩
  else if myPubKeyRaw.length ≠ pubkeyLength ∨ peerPubKeyRaw.length ≠ pubkeyLength then
    ⟨[], .error "public keys must be 32 bytes each"⟩
  else if myPubKeyRaw = peerPubKeyRaw then
    ⟨[], .error "peer public key equals own public key"⟩
  else
    let transcript := buildTranscript myPubKeyRaw peerPubKeyRaw
    let sessionKeyInfo := hkdfInfoSessionKeyPrefix ++ transcript
    let keyCall : HkdfCall := ⟨sharedSecret, sasAnchor, sessionKeyInfo, sessionKeyLength⟩
    let sessionKeyRaw := hkdf keyCall
    let sasCall : HkdfCall := ⟨sessionKeyRaw, sasAnchor, hkdfInfoSas, sasLength⟩
    let sasBytes := hkdf sasCall
    ⟨[keyCall, sasCall], .ok ⟨⟨sessionKeyRaw, extractable⟩, sessionKeyRaw, sasBytes⟩⟩

/-- A key agreement: the secret of a private and a public key does not depend on
who of two parties computes it.  Computing a secret may fail. -/
structure KeyAgreement where
  PrivateKey : Type
  publicKeyRaw : PrivateKey → Bytes
  deriveSharedSecret : PrivateKey → Bytes → Except String Bytes
  length_publicKeyRaw : ∀ key, (publicKeyRaw key).length = pubkeyLength
  commutes : ∀ mine peer,
    deriveSharedSecret mine (publicKeyRaw peer) = deriveSharedSecret peer (publicKeyRaw mine)

/-- `completeHandshake` -/
def completeHandshake
    (agreement : KeyAgreement)
    (hkdf : HkdfCall → Bytes)
    (myKeyPair : agreement.PrivateKey)
    (peerPublicKeyRaw sasAnchor : Bytes)
    (extractable : Bool) : Derivation :=
  if peerPublicKeyRaw.length ≠ pubkeyLength then
    ⟨[], .error "X25519 public key must be 32 bytes"⟩
  else
    match agreement.deriveSharedSecret myKeyPair peerPublicKeyRaw with
    | .error message => ⟨[], .error message⟩
    | .ok sharedSecret =>
        deriveSessionMaterial hkdf sharedSecret (agreement.publicKeyRaw myKeyPair)
          peerPublicKeyRaw sasAnchor extractable

/-! ## The order of byte strings -/

/-- Comparing the other way round turns the sign. -/
theorem compareLexicographic_neg_iff (a b : Bytes) :
    compareLexicographic a b < 0 ↔ 0 < compareLexicographic b a := by
  induction a generalizing b with
  | nil =>
      cases b with
      | nil => simp [compareLexicographic]
      | cons bv b =>
          simp only [compareLexicographic, List.length_cons]
          omega
  | cons av a ih =>
      cases b with
      | nil =>
          simp only [compareLexicographic, List.length_cons]
          omega
      | cons bv b =>
          by_cases same : av = bv
          · subst same
            simpa [compareLexicographic] using ih b
          · simp only [compareLexicographic, ne_eq, same, not_false_eq_true, if_true, Ne.symm same]
            omega

/-- Only equal strings compare as equal. -/
theorem compareLexicographic_eq_zero_iff (a b : Bytes) :
    compareLexicographic a b = 0 ↔ a = b := by
  induction a generalizing b with
  | nil =>
      cases b with
      | nil => simp [compareLexicographic]
      | cons bv b =>
          simp only [compareLexicographic, List.length_cons, reduceCtorEq, iff_false]
          omega
  | cons av a ih =>
      cases b with
      | nil => simp [compareLexicographic]
      | cons bv b =>
          by_cases same : av = bv
          · subst same
            simpa [compareLexicographic] using ih b
          · have differ : av.toNat ≠ bv.toNat := fun equal => same (UInt8.toNat_inj.mp equal)
            simp only [compareLexicographic, ne_eq, same, not_false_eq_true, if_true,
              List.cons.injEq, false_and, iff_false]
            omega

/-! ## Transcripts -/

section Transcript

variable {mine peer other another : Bytes}

theorem buildTranscript_eq
    (isMine : mine.length = pubkeyLength)
    (isPeer : peer.length = pubkeyLength) :
    buildTranscript mine peer =
      if compareLexicographic peer mine < 0 then peer ++ mine else mine ++ peer := by
  have written : ∀ lo hi : Bytes, lo.length = pubkeyLength → hi.length = pubkeyLength →
      setBytes (setBytes (zeroed (pubkeyLength * 2)) lo 0) hi pubkeyLength = lo ++ hi := by
    intro lo hi isLo isHi
    have first : setBytes ([] ++ zeroed (pubkeyLength * 2)) lo 0 =
        ([] ++ lo) ++ zeroed (pubkeyLength * 2 - lo.length) := setBytes_front rfl
    have second : setBytes (([] ++ lo) ++ zeroed (pubkeyLength * 2 - lo.length)) hi pubkeyLength =
        (([] ++ lo) ++ hi) ++ zeroed (pubkeyLength * 2 - lo.length - hi.length) :=
      setBytes_front (by simpa using isLo.symm)
    rw [List.nil_append] at first
    rw [first, second, isLo, isHi]
    simp [pubkeyLength, zeroed]
  unfold buildTranscript
  dsimp only
  split
  · exact written peer mine isPeer isMine
  · exact written mine peer isMine isPeer

/-- Both parties build one transcript. -/
theorem buildTranscript_comm
    (isMine : mine.length = pubkeyLength)
    (isPeer : peer.length = pubkeyLength) :
    buildTranscript mine peer = buildTranscript peer mine := by
  rw [buildTranscript_eq isMine isPeer, buildTranscript_eq isPeer isMine]
  rcases Int.lt_trichotomy (compareLexicographic peer mine) 0 with isLower | isEqual | isHigher
  · have notLower : ¬ compareLexicographic mine peer < 0 := by
      have reversed := (compareLexicographic_neg_iff peer mine).mp isLower
      omega
    rw [if_pos isLower, if_neg notLower]
  · rw [(compareLexicographic_eq_zero_iff peer mine).mp isEqual]
  · have isLower := (compareLexicographic_neg_iff mine peer).mpr isHigher
    rw [if_neg (by omega), if_pos isLower]

/-- A transcript tells which two keys it was built from. -/
theorem buildTranscript_injective
    (isMine : mine.length = pubkeyLength)
    (isPeer : peer.length = pubkeyLength)
    (isOther : other.length = pubkeyLength)
    (isAnother : another.length = pubkeyLength)
    (same : buildTranscript mine peer = buildTranscript other another) :
    mine = other ∧ peer = another ∨ mine = another ∧ peer = other := by
  rw [buildTranscript_eq isMine isPeer, buildTranscript_eq isOther isAnother] at same
  split at same <;> split at same
  · obtain ⟨isPeerKey, isMineKey⟩ := List.append_inj same (isPeer.trans isAnother.symm)
    exact .inl ⟨isMineKey, isPeerKey⟩
  · obtain ⟨isPeerKey, isMineKey⟩ := List.append_inj same (isPeer.trans isOther.symm)
    exact .inr ⟨isMineKey, isPeerKey⟩
  · obtain ⟨isMineKey, isPeerKey⟩ := List.append_inj same (isMine.trans isAnother.symm)
    exact .inr ⟨isMineKey, isPeerKey⟩
  · obtain ⟨isMineKey, isPeerKey⟩ := List.append_inj same (isMine.trans isOther.symm)
    exact .inl ⟨isMineKey, isPeerKey⟩

end Transcript

/-! ## Handshakes -/

/-- The call that derives the key of two parties. -/
def sessionKeyCall (sharedSecret mine peer sasAnchor : Bytes) : HkdfCall where
  ikm := sharedSecret
  salt := sasAnchor
  info := hkdfInfoSessionKeyPrefix ++ buildTranscript mine peer
  length := sessionKeyLength

/-- The call that derives the SAS from that key. -/
def sasCall (sessionKeyRaw sasAnchor : Bytes) : HkdfCall where
  ikm := sessionKeyRaw
  salt := sasAnchor
  info := hkdfInfoSas
  length := sasLength

/-- The derivation of these two parties comes to its end: the key is derived from the
secret, the anchor and the transcript, and the SAS from the key and the anchor. -/
def agreedMaterial
    (hkdf : HkdfCall → Bytes)
    (sharedSecret mine peer sasAnchor : Bytes)
    (extractable : Bool) : Derivation :=
  let keyCall := sessionKeyCall sharedSecret mine peer sasAnchor
  let key := hkdf keyCall
  { derived := [keyCall, sasCall key sasAnchor]
    result := .ok ⟨⟨key, extractable⟩, key, hkdf (sasCall key sasAnchor)⟩ }

/-- What both parties must agree on. -/
def Derivation.agreed (derivation : Derivation) :
    List HkdfCall × Except String (Bytes × Bytes) :=
  (derivation.derived,
    derivation.result.map fun material => (material.sessionKeyRaw, material.sasBytes))

/-- The derivation throws and has derived no key. -/
def Derivation.Rejects (derivation : Derivation) : Prop :=
  derivation.derived = [] ∧ ∃ message, derivation.result = .error message

section Derivation

variable {hkdf : HkdfCall → Bytes} {sharedSecret mine peer sasAnchor : Bytes}

/-- With the keys swapped the same is derived, or both throw. -/
theorem deriveSessionMaterial_comm (extractable others : Bool) :
    (deriveSessionMaterial hkdf sharedSecret mine peer sasAnchor extractable).agreed =
      (deriveSessionMaterial hkdf sharedSecret peer mine sasAnchor others).agreed := by
  unfold deriveSessionMaterial
  split
  · rfl
  · split
    · rfl
    · by_cases areKeys : mine.length = pubkeyLength ∧ peer.length = pubkeyLength
      · have notBad : ¬ (mine.length ≠ pubkeyLength ∨ peer.length ≠ pubkeyLength) :=
          fun bad => bad.elim (· areKeys.1) (· areKeys.2)
        rw [if_neg notBad, if_neg (notBad ∘ Or.symm)]
        by_cases same : mine = peer
        · rw [if_pos same, if_pos same.symm]
        · rw [if_neg same, if_neg (Ne.symm same), buildTranscript_comm areKeys.1 areKeys.2]
          rfl
      · have notKeys := not_and_or.mp areKeys
        rw [if_pos notKeys, if_pos notKeys.symm]

/-- Two different keys and a secret that is not zero derive a key and a SAS. -/
theorem deriveSessionMaterial_eq
    (isSecret : sharedSecret.length = pubkeyLength)
    (notZero : isAllZero sharedSecret = false)
    (isMine : mine.length = pubkeyLength)
    (isPeer : peer.length = pubkeyLength)
    (differ : mine ≠ peer)
    (extractable : Bool) :
    deriveSessionMaterial hkdf sharedSecret mine peer sasAnchor extractable =
      agreedMaterial hkdf sharedSecret mine peer sasAnchor extractable := by
  have areKeys : ¬ (mine.length ≠ pubkeyLength ∨ peer.length ≠ pubkeyLength) :=
    fun bad => bad.elim (· isMine) (· isPeer)
  unfold deriveSessionMaterial
  rw [if_neg (not_not.mpr isSecret), if_neg (by simp [notZero]), if_neg areKeys, if_neg differ]
  rfl

/-- The parties of different handshakes derive with different infos. -/
theorem sessionKeyCall_injective
    {other another otherSecret otherAnchor : Bytes}
    (isMine : mine.length = pubkeyLength)
    (isPeer : peer.length = pubkeyLength)
    (isOther : other.length = pubkeyLength)
    (isAnother : another.length = pubkeyLength)
    (same : (sessionKeyCall sharedSecret mine peer sasAnchor).info =
      (sessionKeyCall otherSecret other another otherAnchor).info) :
    mine = other ∧ peer = another ∨ mine = another ∧ peer = other :=
  buildTranscript_injective isMine isPeer isOther isAnother (List.append_cancel_left same)

theorem deriveSessionMaterial_ownKey (extractable : Bool) :
    (deriveSessionMaterial hkdf sharedSecret mine mine sasAnchor extractable).Rejects := by
  unfold deriveSessionMaterial
  split
  · exact ⟨rfl, _, rfl⟩
  · split
    · exact ⟨rfl, _, rfl⟩
    · split
      · exact ⟨rfl, _, rfl⟩
      · rw [if_pos rfl]
        exact ⟨rfl, _, rfl⟩

theorem deriveSessionMaterial_allZero
    (isZero : isAllZero sharedSecret = true)
    (extractable : Bool) :
    (deriveSessionMaterial hkdf sharedSecret mine peer sasAnchor extractable).Rejects := by
  unfold deriveSessionMaterial
  split
  · exact ⟨rfl, _, rfl⟩
  · exact ⟨rfl, _, rfl⟩

end Derivation

/-- Two parties of a key agreement derive the same, or both throw. -/
theorem completeHandshake_comm
    (agreement : KeyAgreement)
    (hkdf : HkdfCall → Bytes)
    (mine peer : agreement.PrivateKey)
    (sasAnchor : Bytes)
    (extractable others : Bool) :
    (completeHandshake agreement hkdf mine (agreement.publicKeyRaw peer) sasAnchor
        extractable).agreed =
      (completeHandshake agreement hkdf peer (agreement.publicKeyRaw mine) sasAnchor
        others).agreed := by
  unfold completeHandshake
  rw [if_neg (not_not.mpr (agreement.length_publicKeyRaw peer)),
    if_neg (not_not.mpr (agreement.length_publicKeyRaw mine)), agreement.commutes mine peer]
  split
  · rfl
  · exact deriveSessionMaterial_comm extractable others

/-- A party derives with a peer that has another key, when their secret is not zero. -/
theorem completeHandshake_eq
    (agreement : KeyAgreement)
    (hkdf : HkdfCall → Bytes)
    (mine peer : agreement.PrivateKey)
    {sharedSecret : Bytes}
    (isShared : agreement.deriveSharedSecret mine (agreement.publicKeyRaw peer) = .ok sharedSecret)
    (isSecret : sharedSecret.length = pubkeyLength)
    (notZero : isAllZero sharedSecret = false)
    (differ : agreement.publicKeyRaw mine ≠ agreement.publicKeyRaw peer)
    (sasAnchor : Bytes)
    (extractable : Bool) :
    completeHandshake agreement hkdf mine (agreement.publicKeyRaw peer) sasAnchor extractable =
      agreedMaterial hkdf sharedSecret (agreement.publicKeyRaw mine) (agreement.publicKeyRaw peer)
        sasAnchor extractable := by
  unfold completeHandshake
  rw [if_neg (not_not.mpr (agreement.length_publicKeyRaw peer))]
  simp only [isShared]
  exact deriveSessionMaterial_eq isSecret notZero (agreement.length_publicKeyRaw mine)
    (agreement.length_publicKeyRaw peer) differ extractable

/-- A party rejects its own public key, whatever secret it computes. -/
theorem completeHandshake_ownKey
    (agreement : KeyAgreement)
    (hkdf : HkdfCall → Bytes)
    (mine : agreement.PrivateKey)
    (sasAnchor : Bytes)
    (extractable : Bool) :
    (completeHandshake agreement hkdf mine (agreement.publicKeyRaw mine) sasAnchor
      extractable).Rejects := by
  unfold completeHandshake
  split
  · exact ⟨rfl, _, rfl⟩
  · split
    · exact ⟨rfl, _, rfl⟩
    · exact deriveSessionMaterial_ownKey extractable

/-- A party rejects a peer key with which it computes an all-zero secret. -/
theorem completeHandshake_allZero
    (agreement : KeyAgreement)
    (hkdf : HkdfCall → Bytes)
    (mine : agreement.PrivateKey)
    {peerPublicKeyRaw sharedSecret : Bytes}
    (isShared : agreement.deriveSharedSecret mine peerPublicKeyRaw = .ok sharedSecret)
    (isZero : isAllZero sharedSecret = true)
    (sasAnchor : Bytes)
    (extractable : Bool) :
    (completeHandshake agreement hkdf mine peerPublicKeyRaw sasAnchor extractable).Rejects := by
  unfold completeHandshake
  split
  · exact ⟨rfl, _, rfl⟩
  · simp only [isShared]
    exact deriveSessionMaterial_allZero isZero extractable

/--
The handshake is symmetric: for any two public keys both orders give one
transcript, no other pair gives it or the info it is put into, and the two parties of a
key agreement derive the same session key and SAS: with different keys and a secret that is
not zero, the key of that info and the SAS of that key.  A key equal to the own one and an
all-zero secret are rejected on both sides before any key is derived.
-/
theorem handshake_symmetric
    {mine peer : Bytes}
    (isMine : mine.length = pubkeyLength)
    (isPeer : peer.length = pubkeyLength) :
    buildTranscript mine peer = buildTranscript peer mine ∧
      (∀ other another : Bytes, other.length = pubkeyLength → another.length = pubkeyLength →
        buildTranscript mine peer = buildTranscript other another →
          mine = other ∧ peer = another ∨ mine = another ∧ peer = other) ∧
      (∀ other another secret otherSecret sasAnchor otherAnchor : Bytes,
        other.length = pubkeyLength → another.length = pubkeyLength →
        (sessionKeyCall secret mine peer sasAnchor).info =
            (sessionKeyCall otherSecret other another otherAnchor).info →
          mine = other ∧ peer = another ∨ mine = another ∧ peer = other) ∧
      ∀ (agreement : KeyAgreement) (hkdf : HkdfCall → Bytes) (first second : agreement.PrivateKey)
          (sasAnchor : Bytes) (extractable others : Bool),
        agreement.publicKeyRaw first = mine → agreement.publicKeyRaw second = peer →
          (completeHandshake agreement hkdf first peer sasAnchor extractable).agreed =
              (completeHandshake agreement hkdf second mine sasAnchor others).agreed ∧
            (∀ secret, mine ≠ peer →
              agreement.deriveSharedSecret first peer = .ok secret →
              secret.length = pubkeyLength → isAllZero secret = false →
                completeHandshake agreement hkdf first peer sasAnchor extractable =
                    agreedMaterial hkdf secret mine peer sasAnchor extractable ∧
                  completeHandshake agreement hkdf second mine sasAnchor others =
                    agreedMaterial hkdf secret mine peer sasAnchor others) ∧
            ((mine = peer ∨
                ∃ secret, agreement.deriveSharedSecret first peer = .ok secret ∧
                  isAllZero secret = true) →
              (completeHandshake agreement hkdf first peer sasAnchor extractable).Rejects ∧
                (completeHandshake agreement hkdf second mine sasAnchor others).Rejects) := by
  refine ⟨buildTranscript_comm isMine isPeer, ?_, ?_, ?_⟩
  · intro other another isOther isAnother same
    exact buildTranscript_injective isMine isPeer isOther isAnother same
  · intro other another secret otherSecret sasAnchor otherAnchor isOther isAnother same
    exact sessionKeyCall_injective isMine isPeer isOther isAnother same
  · rintro agreement hkdf first second sasAnchor extractable others rfl rfl
    refine ⟨completeHandshake_comm agreement hkdf first second sasAnchor extractable others,
      ?_, ?_⟩
    · intro secret differ isShared isSecret notZero
      have isSharedBack := (agreement.commutes first second).symm.trans isShared
      refine ⟨completeHandshake_eq agreement hkdf first second isShared isSecret notZero differ
        sasAnchor extractable, ?_⟩
      rw [completeHandshake_eq agreement hkdf second first isSharedBack isSecret notZero
        (Ne.symm differ) sasAnchor others]
      simp only [agreedMaterial, sessionKeyCall, buildTranscript_comm isPeer isMine]
    · rintro (sameKey | ⟨secret, isShared, isZero⟩)
      · constructor
        · rw [← sameKey]
          exact completeHandshake_ownKey agreement hkdf first sasAnchor extractable
        · rw [sameKey]
          exact completeHandshake_ownKey agreement hkdf second sasAnchor others
      · have isSharedBack := (agreement.commutes first second).symm.trans isShared
        exact ⟨completeHandshake_allZero agreement hkdf first isShared isZero sasAnchor extractable,
          completeHandshake_allZero agreement hkdf second isSharedBack isZero sasAnchor others⟩

/-- Bytes added one by one: a key agreement in which no secret is hidden. -/
def addingBytes : KeyAgreement where
  PrivateKey := { key : Bytes // key.length = pubkeyLength }
  publicKeyRaw key := key.val
  deriveSharedSecret key peer := .ok (List.zipWith (· + ·) key.val peer)
  length_publicKeyRaw key := key.property
  commutes mine peer := by
    rw [List.zipWith_comm_of_comm UInt8.add_comm]

/-- The key of a party whose last byte is this one. -/
def sampleKey (last : UInt8) : addingBytes.PrivateKey :=
  ⟨List.replicate 31 7 ++ [last], by rfl⟩

/-- A derivation that tells the end of its info and its length. -/
def infoEnd (call : HkdfCall) : Bytes :=
  call.info.drop (call.info.length - 33) ++ [UInt8.ofNat call.length]

/-- Two keys that differ in their last byte, on both sides. -/
theorem handshake_symmetric_sample :
    completeHandshake addingBytes infoEnd (sampleKey 1) (sampleKey 2).val [5] true =
        agreedMaterial infoEnd (List.replicate 31 14 ++ [3]) (sampleKey 1).val (sampleKey 2).val
          [5] true ∧
      completeHandshake addingBytes infoEnd (sampleKey 2) (sampleKey 1).val [5] false =
        agreedMaterial infoEnd (List.replicate 31 14 ++ [3]) (sampleKey 1).val (sampleKey 2).val
          [5] false :=
  ((handshake_symmetric (sampleKey 1).property (sampleKey 2).property).2.2.2 addingBytes infoEnd
    (sampleKey 1) (sampleKey 2) [5] true false rfl rfl).2.1 _ (by decide) rfl rfl rfl

end Unseen.SessionMaterial
