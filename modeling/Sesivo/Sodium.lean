import Sesivo.Lib.Octets

set_option autoImplicit false

/- The cryptographic library the program links against, as an interface: what
each primitive takes and returns, and the output lengths its documentation
fixes. No secrecy or unforgeability is assumed here. -/

namespace Sesivo

structure Sodium where
  /-- Whether `sodium_init` succeeds. -/
  initialized : Bool
  sha256 : Octets → Octets
  /-- Key, message. -/
  hmacSha256 : Octets → Octets → Octets
  /-- Key, nonce, associated data, plaintext; the result carries the tag. -/
  aeadEncrypt : Octets → Octets → Octets → Octets → Octets
  /-- Key, nonce, associated data, ciphertext with its tag. -/
  aeadDecrypt : Octets → Octets → Octets → Octets → Option Octets
  /-- Recipient's public key, randomness of the ephemeral key, plaintext. -/
  boxSeal : Octets → Octets → Octets → Octets
  /-- Recipient's public key and secret key, sealed box. -/
  boxSealOpen : Octets → Octets → Octets → Option Octets
  sha256_length : ∀ message, (sha256 message).length = 32
  hmacSha256_length : ∀ key message, (hmacSha256 key message).length = 32

/-- The authenticated cipher does what its documentation says: it adds a tag of
fixed length, and opens what was sealed with the same key, nonce and header. -/
structure Sodium.AeadCorrect (sodium : Sodium) : Prop where
  initialized : sodium.initialized = true
  encrypted_length : ∀ key nonce header plaintext,
    (sodium.aeadEncrypt key nonce header plaintext).length = plaintext.length + 16
  decrypts : ∀ key nonce header plaintext,
    sodium.aeadDecrypt key nonce header (sodium.aeadEncrypt key nonce header plaintext) =
      some plaintext

/-- Digests that cut or zero-fill their input and ciphers that only frame it,
so that the model runs on concrete datagrams. -/
def Sodium.framing : Sodium where
  initialized := true
  sha256 := Octets.padded 32
  hmacSha256 := fun key message => Octets.padded 32 (key ++ message)
  aeadEncrypt := fun key _ _ plaintext => plaintext ++ Octets.padded 16 key
  aeadDecrypt := fun key _ _ ciphertext =>
    let plaintext := ciphertext.take (ciphertext.length - 16)
    if ciphertext.drop (ciphertext.length - 16) = Octets.padded 16 key then some plaintext
    else none
  boxSeal := fun publicKey _ plaintext => plaintext ++ Octets.padded 48 publicKey
  boxSealOpen := fun publicKey secretKey sealed =>
    if publicKey = secretKey ∧
        sealed.drop (sealed.length - 48) = Octets.padded 48 publicKey then
      some (sealed.take (sealed.length - 48))
    else none
  sha256_length := fun message => Octets.padded_length 32 message
  hmacSha256_length := fun key message => Octets.padded_length 32 (key ++ message)

theorem Sodium.framing_aeadCorrect : Sodium.framing.AeadCorrect where
  initialized := rfl
  encrypted_length := by
    intro key nonce header plaintext
    show (plaintext ++ Octets.padded 16 key).length = plaintext.length + 16
    rw [List.length_append, Octets.padded_length]
  decrypts := by
    intro key nonce header plaintext
    have length : (plaintext ++ Octets.padded 16 key).length - 16 = plaintext.length := by
      rw [List.length_append, Octets.padded_length, Nat.add_sub_cancel]
    simp only [Sodium.framing, length, List.take_left, List.drop_left, ↓reduceIte]

end Sesivo
