import Sesivo.Client.KeyMachine
import Sesivo.Client.HandoffPackets

set_option autoImplicit false

/- What a piece of the client may do with the media key: leave it alone, and send
media secrets in given ways only. One lemma for each function, so that the
results about whole runs never look inside them. -/

namespace Sesivo

open Octets JoinToken SessionCrypto AudioPacket

/-- Whether a media secret is inside. -/
def Content.CarriesSecret : Content → Prop
  | .rotation _ _ | .envelope _ _ _ => True
  | .clear | .audio _ => False

/-- If the datagram carries a media secret, then in an allowed way. -/
def Datagram.Permitted (allowed : Content → Prop) (datagram : Datagram) : Prop :=
  datagram.content.CarriesSecret → allowed datagram.content

/-- The participant may be sent key envelopes. -/
def Granted (allowed : Content → Prop) (participantId : UInt32) : Prop :=
  ∀ publicKey mediaSecret, allowed (.envelope participantId publicKey mediaSecret)

namespace Client

/-- Secrets are sent, and promised to participants, in allowed ways only. -/
structure Discreet (allowed : Content → Prop) (before after : Client) : Prop where
  pending : ∀ participantId ∈ after.pendingKeyHandoffAcks,
    participantId ∈ before.pendingKeyHandoffAcks ∨ Granted allowed participantId
  outbox : ∀ datagram ∈ after.outbox, datagram ∈ before.outbox ∨ datagram.Permitted allowed

/-- Discreet, and the key is kept, dropped or derived again from the same options. -/
structure Routine (sodium : Sodium) (allowed : Content → Prop) (before after : Client) : Prop
    extends Discreet allowed before after where
  keyPart : after.joinSession.options.keyPart = before.joinSession.options.keyPart
  sessionKey : after.sessionKey = before.sessionKey ∨ after.sessionKey = none ∨
    after.sessionKey = mediaKeyFromSecret sodium after.joinSession

/-- Routine work that acknowledges nothing and at most derives the key again. -/
structure Does (sodium : Sodium) (allowed : Content → Prop) (before after : Client) : Prop
    extends Routine sodium allowed before after where
  noAck : NoAck before after
  follows : Follows sodium [] before after

/-- A session key is derived from a secret that matches the commitment the client goes
by, for the room its ticket names. -/
theorem mediaKeyFromSecret_eq_some {sodium : Sodium} {session : ClientJoinSession} {key : Octets} :
    mediaKeyFromSecret sodium session = some key ↔
      ∃ claims signature,
        parseUnverified session.options.joinToken = .ok (claims, signature) ∧
        claims.roomId = session.options.roomId ∧
        mediaKeyCommitment sodium session.options.mediaSecret =
          some session.options.mediaKeyCommitment ∧
        deriveMediaKeyFromSecret sodium claims.roomId claims.roomInstanceId
          session.options.mediaSecret = some key := by
  constructor
  · intro found
    unfold mediaKeyFromSecret at found
    split at found
    · cases found
    split at found
    · cases found
    rename_i claims signature parsed
    split at found
    · cases found
    rename_i usable
    simp only [not_or, not_not, Bool.not_eq_false] at usable
    exact ⟨claims, signature, parsed, usable.1, mediaSecretMatchesCommitment_iff.mp usable.2, found⟩
  · rintro ⟨claims, signature, parsed, room, committed, derived⟩
    have ticket : session.options.joinToken ≠ [] := by
      intro none
      rw [none] at parsed
      cases parsed
    have secret := ne_nil_of_committed committed
    simp only [mediaKeyFromSecret, ClientJoinSession.hasMediaSecret, ClientJoinSession.hasJoinToken,
      ticket, secret, parsed, room, mediaSecretMatchesCommitment_iff.mpr committed, ne_eq,
      not_false_eq_true, decide_true, Bool.true_eq_false, or_self, ↓reduceIte, not_true_eq_false]
    rw [← room]
    exact derived

variable {sodium : Sodium} {allowed : Content → Prop}

theorem Discreet.of_same {before after : Client}
    (pending : ∀ participantId ∈ after.pendingKeyHandoffAcks,
      participantId ∈ before.pendingKeyHandoffAcks)
    (outbox : after.outbox = before.outbox) : Discreet allowed before after :=
  ⟨fun participantId member => .inl (pending participantId member),
    fun _ member => .inl (outbox ▸ member)⟩

theorem Discreet.trans {first second third : Client} (earlier : Discreet allowed first second)
    (later : Discreet allowed second third) : Discreet allowed first third := by
  constructor
  · intro participantId member
    rcases later.pending participantId member with old | permitted
    · exact earlier.pending participantId old
    · exact .inr permitted
  intro datagram member
  rcases later.outbox datagram member with old | permitted
  · exact earlier.outbox datagram old
  · exact .inr permitted

theorem Routine.of_same {before after : Client}
    (pending : ∀ participantId ∈ after.pendingKeyHandoffAcks,
      participantId ∈ before.pendingKeyHandoffAcks)
    (outbox : after.outbox = before.outbox) (keyState : after.keyState = before.keyState) :
    Routine sodium allowed before after :=
  ⟨.of_same pending outbox, keyPart_of_keyState keyState,
    .inl (congrArg KeyState.sessionKey keyState)⟩

theorem Routine.refl (client : Client) : Routine sodium allowed client client :=
  .of_same (fun _ member => member) rfl rfl

theorem Routine.trans {first second third : Client} (earlier : Routine sodium allowed first second)
    (later : Routine sodium allowed second third) : Routine sodium allowed first third := by
  refine ⟨earlier.toDiscreet.trans later.toDiscreet, later.keyPart.trans earlier.keyPart, ?_⟩
  rcases later.sessionKey with kept | changed
  · rw [kept, mediaKeyFromSecret_congr sodium later.keyPart]
    exact earlier.sessionKey
  · exact .inr changed

theorem Does.of_same {before after : Client}
    (pending : ∀ participantId ∈ after.pendingKeyHandoffAcks,
      participantId ∈ before.pendingKeyHandoffAcks)
    (outbox : after.outbox = before.outbox) (keyState : after.keyState = before.keyState) :
    Does sodium allowed before after :=
  ⟨.of_same pending outbox keyState, .of_same outbox, .of_same keyState⟩

/-- Nothing is sent or promised, and the key state stays. -/
theorem Does.quiet {before after : Client}
    (pending : after.pendingKeyHandoffAcks = before.pendingKeyHandoffAcks)
    (outbox : after.outbox = before.outbox) (keyState : after.keyState = before.keyState) :
    Does sodium allowed before after :=
  .of_same (fun _ member => pending ▸ member) outbox keyState

theorem Does.refl (client : Client) : Does sodium allowed client client := .quiet rfl rfl rfl

theorem Does.trans {first second third : Client} (earlier : Does sodium allowed first second)
    (later : Does sodium allowed second third) : Does sodium allowed first third :=
  ⟨earlier.toRoutine.trans later.toRoutine, earlier.noAck.trans later.noAck,
    earlier.follows.trans later.follows⟩

theorem foldl_does {α : Type} (handle : Client → α → Client) (items : List α)
    (does : ∀ client, ∀ item ∈ items, Does sodium allowed client (handle client item))
    (client : Client) : Does sodium allowed client (items.foldl handle client) := by
  induction items generalizing client with
  | nil => exact .refl client
  | cons item items ih =>
    refine (does client item List.mem_cons_self).trans (ih ?_ (handle client item))
    intro current other member
    exact does current other (List.mem_cons_of_mem item member)

theorem append_routine (client : Client) {datagram : Datagram}
    (permitted : datagram.Permitted allowed) :
    Routine sodium allowed client { client with outbox := client.outbox ++ [datagram] } := by
  refine ⟨⟨fun _ member => .inl member, ?_⟩, rfl, .inl rfl⟩
  intro sent member
  rcases List.mem_append.mp member with old | new
  · exact .inl old
  · rw [List.mem_singleton.mp new]
    exact .inr permitted

theorem append_does (client : Client) {datagram : Datagram} (permitted : datagram.Permitted allowed)
    (other : ¬ IsHandoffAck datagram.bytes) :
    Does sodium allowed client { client with outbox := client.outbox ++ [datagram] } :=
  ⟨append_routine client permitted, append_noAck client other, .of_same rfl⟩

theorem send_routine (client : Client) {datagram : Datagram}
    (permitted : datagram.Permitted allowed) : Routine sodium allowed client (client.send datagram) := by
  unfold send
  split
  · exact append_routine client permitted
  · exact .refl client

theorem send_does (client : Client) {datagram : Datagram} (permitted : datagram.Permitted allowed)
    (other : ¬ IsHandoffAck datagram.bytes) : Does sodium allowed client (client.send datagram) :=
  ⟨send_routine client permitted, send_noAck client other, .of_same (send_keyState client datagram)⟩

theorem permitted_clear (bytes : Octets) :
    Datagram.Permitted allowed { bytes := bytes, content := .clear } := by
  intro carries
  cases carries

variable (sodium : Sodium)

variable (client : Client) (ambient : ClientAmbient) {participantId : UInt32}
variable (data packet : Octets)

theorem updateMediaKey_does :
    Does sodium allowed client (client.updateMediaKeyFromSecret sodium) := by
  refine ⟨?_, ?_, .of_step .refresh (updateMediaKey_keyState sodium client)⟩
  · unfold updateMediaKeyFromSecret
    split
    · exact ⟨.of_same (fun _ member => member) rfl, rfl, .inr (.inl rfl)⟩
    next derived found => exact ⟨.of_same (fun _ member => member) rfl, rfl, .inr (.inr found.symm)⟩
  · refine .of_same ?_
    unfold updateMediaKeyFromSecret
    split <;> rfl

theorem keyEnvelopeFor_content {client : Client} {ambient : ClientAmbient} {envelope : Datagram}
    (built : keyEnvelopeFor sodium client ambient participantId = some envelope) :
    (∃ publicKey, client.participantKeyPublic.lookup participantId = some publicKey ∧
      envelope.content = .envelope participantId publicKey
        client.joinSession.options.mediaSecret) ∧ participantId ≠ 0 ∧
      ¬ IsHandoffAck envelope.bytes := by
  simp only [keyEnvelopeFor] at built
  split at built
  · cases built
  rename_i usable
  split at built
  · cases built
  rename_i publicKey found
  split at built
  · cases built
  · obtain ⟨encrypted, -, rfl⟩ := Option.map_eq_some_iff.mp built
    exact ⟨⟨publicKey, found, rfl⟩, (not_or.mp (not_or.mp usable).2).1,
      keyEnvelopeBytes_not_ack _ _ _ _ encrypted⟩

theorem sendMediaKeyEnvelope_does (permitted : Granted allowed participantId) :
    Does sodium allowed client
      (client.sendMediaKeyEnvelopeToParticipantOnIo sodium ambient participantId).2 := by
  unfold sendMediaKeyEnvelopeToParticipantOnIo
  split
  · exact .refl client
  rename_i envelope built
  obtain ⟨⟨publicKey, -, content⟩, -, other⟩ := keyEnvelopeFor_content sodium built
  refine send_does client ?_ other
  intro _
  rw [content]
  exact permitted publicKey _

theorem queueMediaKeyHandoff_does (permitted : Granted allowed participantId) :
    Does sodium allowed client (client.queueMediaKeyHandoffOnIo sodium ambient participantId).2 := by
  have queued : Does sodium allowed client { client with
      pendingKeyHandoffAcks := client.pendingKeyHandoffAcks.insert participantId } := by
    refine ⟨⟨⟨?_, fun _ member => .inl member⟩, rfl, .inl rfl⟩, .refl client, .of_same rfl⟩
    intro other member
    rcases List.mem_insert_iff.mp member with rfl | old
    · exact .inr permitted
    · exact .inl old
  have sent := sendMediaKeyEnvelope_does sodium { client with
    pendingKeyHandoffAcks := client.pendingKeyHandoffAcks.insert participantId } ambient permitted
  simp only [queueMediaKeyHandoffOnIo]
  split
  next after answer =>
    rw [answer] at sent
    exact queued.trans sent
  rename_i after answer
  rw [answer] at sent
  refine (queued.trans sent).trans (.of_same ?_ rfl rfl)
  intro other member
  exact (List.mem_filter.mp member).1

theorem retryPendingKeyHandoffs_does
    (permitted : ∀ participantId ∈ client.pendingKeyHandoffAcks, Granted allowed participantId) :
    Does sodium allowed client (client.retryPendingKeyHandoffsOnIo sodium ambient) :=
  foldl_does _ client.pendingKeyHandoffAcks
    (fun current participantId member =>
      sendMediaKeyEnvelope_does sodium current ambient (permitted participantId member)) client

theorem sendKeyHandoffAck_routine (targetId accessEpoch : UInt32) (mediaKeyCommitment : Octets) :
    Routine sodium allowed client
      (client.sendKeyHandoffAckOnIo targetId accessEpoch mediaKeyCommitment) := by
  simp only [sendKeyHandoffAckOnIo]
  split
  · exact .refl client
  · exact send_routine client (permitted_clear _)

theorem maybeAutoShareMediaKey_does
    (permitted : client.joinSession.options.accessMode ≠ roomAccessApprove →
      Granted allowed participantId) :
    Does sodium allowed client (client.maybeAutoShareMediaKey sodium ambient participantId) := by
  unfold maybeAutoShareMediaKey
  split
  · exact .refl client
  next shared => exact queueMediaKeyHandoff_does sodium client ambient (permitted shared)

theorem admitWaiting_does (permitted : Granted allowed participantId) :
    Does sodium allowed client (client.admitWaiting sodium ambient participantId) := by
  have queued := queueMediaKeyHandoff_does sodium client ambient permitted
  unfold admitWaiting
  split
  next sent answer =>
    rw [answer] at queued
    exact queued.trans (.quiet rfl rfl rfl)
  next same answer =>
    rw [answer] at queued
    exact queued

theorem handOverToAll_does (permitted : ∀ participantId publicKey,
      client.participantKeyPublic.lookup participantId = some publicKey →
      participantId ≠ client.joinSession.participantId → Granted allowed participantId) :
    Does sodium allowed client (client.handOverToAll sodium ambient) := by
  refine foldl_does _ _ ?_ client
  intro current participantId member
  obtain ⟨known, other⟩ := List.mem_filter.mp member
  obtain ⟨publicKey, found⟩ := (Store.mem_pairs_fst _ _).mp known
  exact queueMediaKeyHandoff_does sodium current ambient
    (permitted participantId publicKey found (by simpa using other))

theorem rememberParticipantKey_same (participantId : UInt32)
    (profileId displayName keyPublic : Octets) (hasKeyPublic : Bool) :
    Does sodium allowed client
        (client.rememberParticipantKey participantId profileId displayName keyPublic hasKeyPublic) ∧
      (client.rememberParticipantKey participantId profileId displayName keyPublic
        hasKeyPublic).joinSession = client.joinSession := by
  simp only [rememberParticipantKey]
  split
  · exact ⟨.refl client, rfl⟩
  split
  · exact ⟨.quiet rfl rfl rfl, rfl⟩
  split <;> exact ⟨.quiet rfl rfl rfl, rfl⟩

theorem sendAudioPacketSync_does {data : Octets} (sendable : Sendable data) :
    Does sodium allowed client (client.sendAudioPacketSync sodium ambient data) := by
  unfold sendAudioPacketSync
  split
  · exact .refl client
  split
  next key metadata held described =>
    split
    · exact .refl client
    rename_i packet written
    have sealing : SealedAudio sodium (some key) packet :=
      ⟨key, metadata, data, ambient.nonce, rfl, written⟩
    exact append_does client nofun
      (not_ack_of_magic sealing.magic (by decide))
  · refine append_does client (permitted_clear data) ?_
    rcases sendable.magic with single | redundant
    · exact not_ack_of_magic single (by decide)
    · exact not_ack_of_magic redundant (by decide)

theorem transmitAudio_does : Does sodium allowed client (client.transmitAudio sodium ambient) := by
  unfold transmitAudio
  split
  · exact .refl client
  rename_i staged found
  refine (sendAudioPacketSync_does sodium client ambient staged.sendable).trans ?_
  unfold rememberRecentOpusAudioPacket
  split <;> exact .quiet rfl rfl rfl

theorem consumeRecentReset_does : Does sodium allowed client client.consumeRecentReset := by
  unfold consumeRecentReset
  split
  · exact .quiet rfl rfl rfl
  · exact .refl client

theorem maybeWrap_does (configuredDepth : Int) :
    Does sodium allowed client
      (client.maybeWrapOpusPacketWithRedundancy packet configuredDepth).2 := by
  unfold maybeWrapOpusPacketWithRedundancy
  split
  · exact .quiet rfl rfl rfl
  split
  · exact .refl client
  split
  · exact .quiet rfl rfl rfl
  simp only
  split <;> exact .refl client

theorem prepareAudio_does (frame : OpusSendFrame) :
    Does sodium allowed client (client.prepareAudio frame) := by
  have ready := @consumeRecentReset_does allowed sodium client
  have numbered : Does sodium allowed client { client.consumeRecentReset with
      audioTxSequence := client.consumeRecentReset.audioTxSequence + 1 } :=
    ready.trans (.quiet rfl rfl rfl)
  simp only [prepareAudio]
  split
  · exact .refl client
  split
  · exact ready
  split
  · exact numbered
  split
  · exact numbered
  next packet stamped =>
    exact (numbered.trans (maybeWrap_does sodium _ packet frame.configuredDepth)).trans
      (.quiet rfl rfl rfl)

theorem handleSingleAudioMessage_does (countDuplicateLate : Bool) :
    Does sodium allowed client
      (client.handleSingleAudioMessage ambient data countDuplicateLate) := by
  have delivered (current : Client) (senderId : UInt32) (packet : OpusPacket) :
      Does sodium allowed current
        (current.deliverToParticipant ambient senderId packet countDuplicateLate) := by
    unfold deliverToParticipant
    split
    · exact .refl current
    simp only
    split <;> exact .quiet rfl rfl rfl
  have registered {current : Client} {senderId : UInt32}
      (answer : client.registerSender ambient senderId = some current) :
      Does sodium allowed client current := by
    unfold registerSender at answer
    split at answer
    · rw [Option.some.inj answer]
      exact .refl current
    split at answer
    · cases answer
    · rw [← Option.some.inj answer]
      exact .quiet rfl rfl rfl
  unfold handleSingleAudioMessage
  split
  · split
    · exact .refl client
    next answer => exact (registered answer).trans (delivered _ _ _)
  · exact .refl client

theorem handleSecureAudioMessage_does :
    Does sodium allowed client (client.handleSecureAudioMessage sodium ambient packet) := by
  unfold handleSecureAudioMessage
  split
  · exact .refl client
  split
  · exact .refl client
  split
  · exact .refl client
  unfold handleAudioMessage
  split
  · exact foldl_does _ _ (fun current entry _ =>
      handleSingleAudioMessage_does sodium current ambient entry.1 _) client
  split
  · exact .refl client
  · exact handleSingleAudioMessage_does sodium client ambient _ true

end Client

end Sesivo
