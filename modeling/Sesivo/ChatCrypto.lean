import Sesivo.SessionCrypto

set_option autoImplicit false

/- Sealed chat messages, `session_crypto.h`. -/

namespace Sesivo.SessionCrypto

open Octets JoinToken

structure ChatMetadata where
  roomId : Octets
  roomInstanceId : Octets
  senderId : UInt32
  accessEpoch : UInt32
  nonce : Octets
deriving DecidableEq

def chatAssociatedData (metadata : ChatMetadata) : Octets :=
  tagged metadata.roomId ++ ascii "|" ++ tagged metadata.roomInstanceId ++ ascii "|" ++
    decimal metadata.senderId.toNat ++ ascii "|" ++ decimal metadata.accessEpoch.toNat ++
    ascii "|" ++ metadata.nonce

variable (sodium : Sodium)

def sealChatMessage (key : Octets) (metadata : ChatMetadata)
    (plaintext : Octets) (ciphertextCapacity : Nat) : Option Octets :=
  if metadata.roomId = [] ∨ metadata.roomInstanceId = [] ∨ metadata.senderId = 0 ∨
      metadata.accessEpoch = 0 ∨ plaintext = [] ∨ roomChatPlaintextMaxBytes < plaintext.length ∨
      ciphertextCapacity < plaintext.length + securePacketTagBytes ∨
      sodium.initialized = false then
    none
  else
    let ciphertext :=
      sodium.aeadEncrypt key metadata.nonce (chatAssociatedData metadata) plaintext
    if ciphertext.length ≠ plaintext.length + securePacketTagBytes ∨
        roomChatCiphertextMaxBytes < ciphertext.length then
      none
    else some ciphertext

def openChatMessage (key : Octets) (metadata : ChatMetadata)
    (ciphertext : Octets) (plaintextCapacity : Nat) : Option Octets :=
  if metadata.roomId = [] ∨ metadata.roomInstanceId = [] ∨ metadata.senderId = 0 ∨
      metadata.accessEpoch = 0 ∨ ciphertext.length ≤ securePacketTagBytes ∨
      roomChatCiphertextMaxBytes < ciphertext.length ∨
      plaintextCapacity < ciphertext.length - securePacketTagBytes ∨
      sodium.initialized = false then
    none
  else
    match sodium.aeadDecrypt key metadata.nonce (chatAssociatedData metadata) ciphertext with
    | none => none
    | some plaintext =>
      if roomChatPlaintextMaxBytes < plaintext.length then none else some plaintext

/-- The associated data determine the metadata they are built from. -/
theorem chatAssociatedData_inj {left right : ChatMetadata}
    (same : chatAssociatedData left = chatAssociatedData right) : left = right := by
  simp only [chatAssociatedData, List.append_assoc] at same
  obtain ⟨room, same⟩ := tagged_append_inj same
  obtain ⟨inst, same⟩ := tagged_append_inj (List.append_cancel_left same)
  obtain ⟨sender, same⟩ :=
    @decimal_append_inj (ofChar '|') (by decide) _ _ _ _ (List.append_cancel_left same)
  obtain ⟨epoch, nonce⟩ := @decimal_append_inj (ofChar '|') (by decide) _ _ _ _ same
  cases left
  cases right
  simp only [ChatMetadata.mk.injEq]
  exact ⟨room, inst, UInt32.toNat_inj.mp sender, UInt32.toNat_inj.mp epoch, nonce⟩

/-- Neither text confuses two sources, whatever bytes the parts consist of. -/
theorem bound_texts_injective :
    (∀ left right : Claims, nonceReplayKey left = nonceReplayKey right →
      left.serverId = right.serverId ∧ left.roomId = right.roomId ∧
        left.roomInstanceId = right.roomInstanceId ∧ left.accessEpoch = right.accessEpoch ∧
        left.mediaKeyCommitment = right.mediaKeyCommitment ∧ left.profileId = right.profileId ∧
        left.nonce = right.nonce) ∧
      ∀ left right : ChatMetadata, chatAssociatedData left = chatAssociatedData right →
        left.roomId = right.roomId ∧ left.roomInstanceId = right.roomInstanceId ∧
          left.senderId = right.senderId ∧ left.accessEpoch = right.accessEpoch ∧
          left.nonce = right.nonce := by
  constructor
  · intro left right same
    exact nonceReplayKey_inj same
  intro left right same
  rw [chatAssociatedData_inj same]
  exact ⟨rfl, rfl, rfl, rfl, rfl⟩

end Sesivo.SessionCrypto
