import Unseen.Nonce

namespace Unseen

/-!
# Symbolic cryptography

The client uses X25519 with HKDF for session keys, AES-GCM for relay frames
and AES-KW under a passkey-derived key for the stored session key.  They are
modelled symbolically: a key is the term it was derived from, decryption
undoes encryption exactly when key, nonce and associated data agree, and
unwrapping undoes wrapping exactly under the wrapping key.

Values drawn from the random source are identified by the device that drew
them and the serial number of the draw, so distinct draws are distinct values.
-/

/-- One value drawn from a device's random source. -/
structure Draw where
  device : Nat
  serial : Nat
  deriving DecidableEq, Repr

namespace Draw

/-- Lexicographic comparison, standing for the comparison of the raw bytes. -/
def isLower (first second : Draw) : Bool :=
  first.device < second.device ||
    (first.device == second.device && first.serial < second.serial)

theorem isLower_asymm
    {first second : Draw}
    (lower : first.isLower second = true) :
    second.isLower first = false := by
  simp only [isLower, Bool.or_eq_true, decide_eq_true_eq, Bool.and_eq_true,
    beq_iff_eq, Bool.or_eq_false_iff, decide_eq_false_iff_not,
    Bool.and_eq_false_iff] at lower ⊢
  grind

theorem eq_of_not_isLower
    {first second : Draw}
    (notLower : first.isLower second = false)
    (notHigher : second.isLower first = false) :
    first = second := by
  obtain ⟨firstDevice, firstSerial⟩ := first
  obtain ⟨secondDevice, secondSerial⟩ := second
  simp only [isLower, Bool.or_eq_false_iff, decide_eq_false_iff_not,
    Bool.and_eq_false_iff] at notLower notHigher
  grind

end Draw

/-- A raw public key is named by the draw of its private key. -/
abbrev PublicKey := Draw

/-! ## Session keys -/

/--
A session key: derived by the handshake or by a rekey from the two public keys
of the parties, in the order the transcript puts them.
-/
inductive SessionKey where
  | handshake (low high : PublicKey)
  | rekeyed (low high : PublicKey)
  deriving DecidableEq, Repr

namespace SessionKey

/-- The public keys a session key was derived from. -/
def publicKeys : SessionKey → PublicKey × PublicKey
  | .handshake low high => (low, high)
  | .rekeyed low high => (low, high)

/-- A session key depends on a public key. -/
def Uses (key : SessionKey) (publicKey : PublicKey) : Prop :=
  key.publicKeys.1 = publicKey ∨ key.publicKeys.2 = publicKey

end SessionKey

/-- `completeHandshake`: fails when the peer presents our own public key. -/
def completeHandshake (mine peer : PublicKey) : Option SessionKey :=
  if mine = peer then
    none
  else if peer.isLower mine then
    some (.handshake peer mine)
  else
    some (.handshake mine peer)

/-- `deriveRekeyedSessionKey`: fails when the peer presents our own public key. -/
def deriveRekeyedSessionKey (mine peer : PublicKey) : Option SessionKey :=
  if mine = peer then
    none
  else if peer.isLower mine then
    some (.rekeyed peer mine)
  else
    some (.rekeyed mine peer)

theorem completeHandshake_comm (mine peer : PublicKey) :
    completeHandshake mine peer = completeHandshake peer mine := by
  unfold completeHandshake
  by_cases same : mine = peer
  · simp [same]
  · rw [if_neg same, if_neg (Ne.symm same)]
    cases peerLower : peer.isLower mine with
    | true =>
        simp [Draw.isLower_asymm peerLower]
    | false =>
        cases mineLower : mine.isLower peer with
        | true => simp
        | false => exact absurd (Draw.eq_of_not_isLower mineLower peerLower) same

/-- A rekeyed session key depends on both public keys it was derived from. -/
theorem deriveRekeyedSessionKey_uses
    {mine peer : PublicKey}
    {key : SessionKey}
    (derived : deriveRekeyedSessionKey mine peer = some key) :
    key.Uses mine ∧ key.Uses peer := by
  unfold deriveRekeyedSessionKey at derived
  split at derived
  · cases derived
  · split at derived <;> obtain rfl := Option.some.inj derived
    · exact ⟨Or.inr rfl, Or.inl rfl⟩
    · exact ⟨Or.inl rfl, Or.inr rfl⟩

/-- A handshake key depends on both public keys it was derived from. -/
theorem completeHandshake_uses
    {mine peer : PublicKey}
    {key : SessionKey}
    (derived : completeHandshake mine peer = some key) :
    key.Uses mine ∧ key.Uses peer := by
  unfold completeHandshake at derived
  split at derived
  · cases derived
  · split at derived <;> obtain rfl := Option.some.inj derived
    · exact ⟨Or.inr rfl, Or.inl rfl⟩
    · exact ⟨Or.inl rfl, Or.inr rfl⟩

/-- A session key as Web Crypto holds it: only extractable keys can be wrapped. -/
structure CryptoKey where
  material : SessionKey
  extractable : Bool
  deriving DecidableEq, Repr

/-! ## Authenticated encryption -/

/--
An AES-GCM ciphertext: either produced under a key, nonce and associated data,
or some other byte string, which no key authenticates.
-/
inductive Ciphertext (Plaintext : Type) where
  | sealed (key : SessionKey) (nonce : Nonce) (aad : Bytes) (plaintext : Plaintext)
  | unauthentic (bytes : Bytes)

/-- AES-GCM encryption. -/
def aesGcmEncrypt
    {Plaintext : Type}
    (key : SessionKey)
    (nonce : Nonce)
    (aad : Bytes)
    (plaintext : Plaintext) : Ciphertext Plaintext :=
  .sealed key nonce aad plaintext

/-- AES-GCM decryption; `none` is the authentication failure. -/
def aesGcmDecrypt
    {Plaintext : Type}
    (key : SessionKey)
    (nonce : Nonce)
    (aad : Bytes) : Ciphertext Plaintext → Option Plaintext
  | .sealed sealKey sealNonce sealAad plaintext =>
      if key = sealKey ∧ nonce = sealNonce ∧ aad = sealAad then
        some plaintext
      else
        none
  | .unauthentic _ => none

@[simp]
theorem aesGcmDecrypt_aesGcmEncrypt
    {Plaintext : Type}
    (key : SessionKey)
    (nonce : Nonce)
    (aad : Bytes)
    (plaintext : Plaintext) :
    aesGcmDecrypt key nonce aad (aesGcmEncrypt key nonce aad plaintext) =
      some plaintext := by
  simp [aesGcmDecrypt, aesGcmEncrypt]

/-- Decryption succeeds only on a ciphertext sealed with the same inputs. -/
theorem aesGcmDecrypt_eq_some
    {Plaintext : Type}
    {key : SessionKey}
    {nonce : Nonce}
    {aad : Bytes}
    {ciphertext : Ciphertext Plaintext}
    {plaintext : Plaintext} :
    aesGcmDecrypt key nonce aad ciphertext = some plaintext ↔
      ciphertext = .sealed key nonce aad plaintext := by
  cases ciphertext with
  | unauthentic bytes => simp [aesGcmDecrypt]
  | «sealed» sealKey sealNonce sealAad sealedPlaintext =>
      simp only [aesGcmDecrypt, Ciphertext.sealed.injEq]
      split
      · rename_i agree
        obtain ⟨rfl, rfl, rfl⟩ := agree
        simp
      · rename_i disagree
        constructor
        · intro impossible
          cases impossible
        · rintro ⟨rfl, rfl, rfl, _⟩
          exact absurd ⟨rfl, rfl, rfl⟩ disagree

/-! ## Wrapping the session key for storage -/

/-- Identifier of a passkey credential. -/
abbrev CredentialId := Nat

/-- The wrapping key derived from a credential's PRF output for the room. -/
structure WrapKey where
  credential : CredentialId
  deriving DecidableEq, Repr

/-- `deriveWrapKey` on the PRF output of a credential. -/
def deriveWrapKey (credential : CredentialId) : WrapKey where
  credential := credential

/-- An AES-KW wrapped session key, or a byte string that unwraps under no key. -/
inductive WrappedKey where
  | wrapped (material : SessionKey) (wrapKey : WrapKey)
  | malformed
  deriving DecidableEq, Repr

/-- `wrapSessionKey`: Web Crypto refuses to wrap a non-extractable key. -/
def wrapSessionKey (sessionKey : CryptoKey) (wrapKey : WrapKey) : Option WrappedKey :=
  if sessionKey.extractable then
    some (.wrapped sessionKey.material wrapKey)
  else
    none

/-- `unwrapSessionKey`: fails under any other wrapping key. -/
def unwrapSessionKey
    (wrappedSessionKey : WrappedKey)
    (wrapKey : WrapKey)
    (extractable : Bool) : Option CryptoKey :=
  match wrappedSessionKey with
  | .wrapped material sealKey =>
      if wrapKey = sealKey then
        some ⟨material, extractable⟩
      else
        none
  | .malformed => none

end Unseen
