import Sesivo.Client.KeyChange

set_option autoImplicit false

/- Which acknowledgements of a key handoff a client sends. Only a key envelope makes
it send one, and then it stores what the acknowledgement says. -/

namespace Sesivo

open Octets JoinToken SessionCrypto AudioPacket RoomKeyHandoffAckHdr

namespace Client

variable (sodium : Sodium) (client : Client) (packet mediaSecret : Octets)
variable (accessEpoch : UInt32) {datagram : Datagram} (commitment : Octets)

theorem applyMediaSecretRotation_outbox :
    (client.applyMediaSecretRotation sodium mediaSecret accessEpoch commitment).2.outbox =
      client.outbox := by
  simp only [applyMediaSecretRotation]
  split
  · rfl
  · unfold updateMediaKeyFromSecret
    split <;> rfl

/-- The client stores a secret under the id, epoch and commitment of the acknowledgement. -/
structure Acknowledges (client : Client) (bytes : Octets) : Prop where
  participantId : (read bytes).participantId = client.joinSession.participantId
  accessEpoch : (read bytes).accessEpoch =
    client.joinSession.options.accessEpoch
  mediaKeyCommitment : (read bytes).mediaKeyCommitment =
    client.joinSession.options.mediaKeyCommitment
  dated : client.joinSession.options.accessEpoch ≠ 0
  secret : client.joinSession.options.mediaSecret ≠ []

variable {sodium} in
theorem envelopeSecret_ne_nil {client : Client} {packet mediaSecret : Octets}
    (opened : envelopeSecret sodium client packet = some mediaSecret) : mediaSecret ≠ [] := by
  simp only [envelopeSecret] at opened
  split at opened
  · cases opened
  split at opened
  · cases opened
  split at opened
  · cases opened
  rename_i plaintext unsealed
  split at opened
  · cases opened
  rename_i inOrder
  simp only [not_or, not_not, not_lt] at inOrder
  obtain ⟨size, counted, -, -, -, fits⟩ := inOrder
  have inside : 8 + (u16At plaintext 0).toNat ≤ plaintext.length := by
    rw [size, keyEnvelopePayloadBytes]
    rw [mediaSecretMaxBytes] at fits
    omega
  have length := slice_length inside
  rw [← Option.some.inj opened]
  intro empty
  rw [empty, List.length_nil] at length
  exact counted length.symm

/-- Rotating to an offered key leaves the client's own id alone. -/
theorem applyMediaSecretRotation_stored
    (applied : (client.applyMediaSecretRotation sodium mediaSecret accessEpoch commitment).1 =
      true) :
    (client.applyMediaSecretRotation sodium mediaSecret accessEpoch commitment).2.joinSession =
      client.joinSession.setMediaKey mediaSecret accessEpoch commitment := by
  revert applied
  simp only [applyMediaSecretRotation]
  split
  · intro applied
    cases applied
  intro _
  unfold updateMediaKeyFromSecret
  split <;> rfl

theorem sendKeyHandoffAck_acknowledges {targetId accessEpoch : UInt32}
    {commitment : Octets} (epoch : accessEpoch = client.joinSession.options.accessEpoch)
    (committed : commitment = client.joinSession.options.mediaKeyCommitment)
    (secret : client.joinSession.options.mediaSecret ≠ [])
    (member : datagram ∈ (client.sendKeyHandoffAckOnIo targetId accessEpoch commitment).outbox) :
    datagram ∈ client.outbox ∨
      (client.sendKeyHandoffAckOnIo targetId accessEpoch commitment).Acknowledges datagram.bytes := by
  revert member
  simp only [sendKeyHandoffAckOnIo]
  split
  · exact .inl
  rename_i checked
  simp only [not_or, Bool.not_eq_false] at checked
  obtain ⟨-, -, dated, valid, -, on⟩ := checked
  simp only [send, on, ↓reduceIte]
  intro member
  refine (List.mem_append.mp member).imp_right ?_
  intro new
  rw [List.mem_singleton.mp new]
  have fields := read_keyHandoffAckBytes client.joinSession.participantId targetId accessEpoch
    (length_of_validSha256Hex valid)
  refine ⟨?_, ?_, ?_, epoch ▸ dated, secret⟩
  · rw [fields]
  · rw [fields, epoch]
  · rw [fields, committed]

/-- What an envelope makes the client send, it says of the key the client then stores. -/
theorem handleE2eKeyEnvelope_acknowledges
    (member : datagram ∈ (client.handleE2eKeyEnvelope sodium packet).outbox) :
    datagram ∈ client.outbox ∨
      (client.handleE2eKeyEnvelope sodium packet).Acknowledges datagram.bytes := by
  revert member
  simp only [handleE2eKeyEnvelope]
  split
  · exact .inl
  rename_i mediaSecret opened
  have present := envelopeSecret_ne_nil opened
  have outbox := applyMediaSecretRotation_outbox sodium client mediaSecret
    (E2EKeyEnvelopeHdr.read packet).accessEpoch (E2EKeyEnvelopeHdr.read packet).mediaKeyCommitment
  have stored := applyMediaSecretRotation_stored sodium client mediaSecret
    (E2EKeyEnvelopeHdr.read packet).accessEpoch (E2EKeyEnvelopeHdr.read packet).mediaKeyCommitment
  generalize client.applyMediaSecretRotation sodium mediaSecret
    (E2EKeyEnvelopeHdr.read packet).accessEpoch
    (E2EKeyEnvelopeHdr.read packet).mediaKeyCommitment = outcome at outbox stored ⊢
  obtain ⟨applied, rotated⟩ := outcome
  rw [← outbox]
  split
  next answers =>
    rcases answers with taken | ⟨epoch, committed, same⟩
    · -- the key was taken over just now
      have session := stored taken
      apply sendKeyHandoffAck_acknowledges
      · rw [session]
        rfl
      · rw [session]
        rfl
      · rw [session]
        exact present
    · -- the client had it before
      refine sendKeyHandoffAck_acknowledges rotated epoch committed ?_
      rw [← same]
      exact present
  · exact .inl

/-- After any event, the acknowledgements sent are about the key the client then stores. -/
theorem step_acknowledges (event : ClientAmbient × ClientEvent)
    (member : datagram ∈ (client.step sodium event).outbox) (ack : IsHandoffAck datagram.bytes) :
    (client.step sodium event).Acknowledges datagram.bytes := by
  obtain ⟨ambient, event⟩ := event
  have none_before {after : Client}
      (silent : NoAck { client with outbox := [], effects := [] } after)
      (sent : datagram ∈ after.outbox) : False :=
    List.not_mem_nil (silent datagram sent ack)
  cases event with
  | act action => exact (none_before (act_noAck sodium _ ambient action) member).elim
  | receive bytes =>
    revert member
    simp only [step, onReceive]
    split
    · exact fun member => absurd member List.not_mem_nil
    split
    · exact fun member => (none_before (@handleCtrlMessage_handles (fun _ => True) (fun _ _ => True)
        (fun _ => True) sodium _ ambient _ trivial (fun _ _ _ _ => trivial)).noAck member).elim
    split
    · exact fun member => (none_before (@handleSecureControl_handles (fun _ => True)
        (fun _ _ => True) (fun _ => True) sodium _ _ (fun _ _ _ => trivial)).noAck member).elim
    split
    · exact fun member =>
        (none_before (@handleSecureAudioMessage_does (fun _ => True) sodium _ ambient _).noAck
          member).elim
    split
    · intro member
      refine (handleE2eKeyEnvelope_acknowledges sodium _ _ member).resolve_left ?_
      exact List.not_mem_nil
    · exact fun member => absurd member List.not_mem_nil

end Client

end Sesivo
