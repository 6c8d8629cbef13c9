import Sesivo.Client.Runtime

set_option autoImplicit false

/- When audio leaves the client sealed. The sender thread builds a packet in one
step and puts it on the socket in a later one; the decision to seal is made in
the later one, from the state found there. -/

namespace Sesivo.Client

open Octets SessionCrypto AudioPacket

/-- A secure audio packet under the given session key. -/
def SealedAudio (sodium : Sodium) (sessionKey : Option Octets) (bytes : Octets) : Prop :=
  ∃ key metadata plaintext nonce, sessionKey = some key ∧
    sealAudioPacket sodium key metadata plaintext 2048 nonce = some bytes

/-- There is a key, the server knows sealed audio, and the client knows its own id. -/
def CanSeal (client : Client) : Prop :=
  client.sessionKey.isSome = true ∧
    client.joinSession.serverSupports audioCapSecureAudio = true ∧
    client.joinSession.participantId ≠ 0

theorem SealedAudio.magic {sodium : Sodium} {sessionKey : Option Octets} {bytes : Octets}
    (sealing : SealedAudio sodium sessionKey bytes) : magicOf bytes = secureAudioMagic := by
  obtain ⟨key, metadata, plaintext, nonce, -, written⟩ := sealing
  unfold sealAudioPacket at written
  split at written
  · cases written
  split at written
  · cases written
  rw [← Option.some.inj written]
  simp [magicOf, secureAudioHeaderBytes, u32At_u32Bytes]

variable (sodium : Sodium) (client : Client) (ambient : ClientAmbient) {data : Octets}

theorem shouldSecureAudioPacket_iff (sendable : Sendable data) :
    client.shouldSecureAudioPacket data = true ↔
      client.joinSession.serverSupports audioCapSecureAudio = true ∧
        client.joinSession.participantId ≠ 0 := by
  have small : data.length ≤ 1200 := sendable.fits
  have long := sendable.long
  have kind := sendable.magic
  unfold shouldSecureAudioPacket
  rw [securePacketTagBytes]
  split
  next refused =>
    rcases refused with unsupported | unnamed | short | large
    · simp [unsupported]
    · simp [unnamed]
    · omega
    · omega
  next accepted =>
    simp only [not_or, Bool.not_eq_false] at accepted
    simp [kind, accepted.1, accepted.2.1]

/-- A packet the sender hands over can be described whenever the client may seal. -/
theorem secureAudioMetadataForPacket_isSome (sendable : Sendable data) :
    (client.secureAudioMetadataForPacket data).isSome = true ↔
      client.joinSession.serverSupports audioCapSecureAudio = true ∧
        client.joinSession.participantId ≠ 0 := by
  rw [← client.shouldSecureAudioPacket_iff sendable]
  have described {child : Octets} {hdr : ParsedAudioHeader}
      (parsed : parseAudioHeader child = some hdr) :
      (client.useChildHeader data child).isSome = true := by
    rw [useChildHeader, parsed]
    rfl
  unfold secureAudioMetadataForPacket
  split
  next refused => simp [refused]
  rename_i accepted
  simp only [accepted, iff_true]
  rcases sendable.readable with ⟨hdr, parsed⟩ | listed
  · rw [if_pos (parseAudioHeader_fields parsed).1]
    exact described parsed
  rw [(children_valid listed).2.1, if_neg (by decide)]
  obtain ⟨first, rest, split⟩ := List.exists_cons_of_ne_nil listed
  rw [forEachRedundantAudioChild_first split]
  obtain ⟨hdr, parsed, -⟩ :=
    validateAudioPacketBytes_ok (children_validate (split ▸ List.mem_cons_self))
  exact described parsed

/-- What the last step of the sender adds to the outbox is sealed under the
client's key exactly if the client can seal, or the packet is held back. -/
theorem sendAudioPacketSync_sealed_iff (sendable : Sendable data) (fresh : client.outbox = []) :
    (∀ datagram ∈ (client.sendAudioPacketSync sodium ambient data).outbox,
        SealedAudio sodium client.sessionKey datagram.bytes) ↔
      (client.outboundEnabled = true → validateOutboundAudioPacket data = true →
        client.CanSeal) := by
  have described := client.secureAudioMetadataForPacket_isSome sendable
  unfold sendAudioPacketSync
  split
  next held =>
    rw [fresh]
    refine ⟨fun _ enabled valid => ?_, fun _ => by simp⟩
    rcases held with refused | off
    · exact absurd valid (by rw [refused]; decide)
    · exact absurd enabled (by rw [off]; decide)
  next released =>
    simp only [not_or, Bool.not_eq_false] at released
    simp only [released.1, released.2, forall_const, CanSeal]
    split
    next key metadata held known =>
      -- with a key and metadata the packet is sealed, or dropped if sealing fails
      refine ⟨fun _ => ⟨by rw [held]; rfl, described.mp (by rw [known]; rfl)⟩, fun _ => ?_⟩
      split
      · rw [fresh]
        simp
      rename_i packet written
      rw [fresh]
      intro datagram member
      obtain rfl := List.mem_singleton.mp member
      exact ⟨key, metadata, data, ambient.nonce, held, written⟩
    next otherwise =>
      refine ⟨fun sealing => ?_, fun able => ?_⟩
      · -- the packet itself was sent, and its magic number is not that of a sealed one
        have magic := (sealing ⟨data, .clear⟩ (by simp)).magic
        have kind := sendable.magic
        rw [magic] at kind
        exact absurd kind (by decide)
      · obtain ⟨key, held⟩ := Option.isSome_iff_exists.mp able.1
        obtain ⟨metadata, known⟩ := Option.isSome_iff_exists.mp (described.mpr able.2)
        exact absurd known (otherwise key metadata held)

theorem transmitAudio_sealed (fresh : client.outbox = []) :
    (∀ datagram ∈ (client.transmitAudio sodium ambient).outbox,
        SealedAudio sodium client.sessionKey datagram.bytes) ↔
      ∀ staged, client.stagedAudio = some staged → client.outboundEnabled = true →
        validateOutboundAudioPacket staged.outgoing = true → client.CanSeal := by
  unfold transmitAudio
  split
  next idle => simp [idle, fresh]
  rename_i staged found
  have remembered (sender : Client) :
      (sender.rememberRecentOpusAudioPacket staged.packet).outbox = sender.outbox := by
    unfold rememberRecentOpusAudioPacket
    split <;> rfl
  simp only [remembered, found, Option.some.injEq, forall_eq']
  exact sendAudioPacketSync_sealed_iff sodium client ambient staged.sendable fresh

/-- In every reachable state, what handing the staged packet to the socket sends
is sealed under the session key exactly if, unless the packet is held back,
there is a session key, the server advertised secure audio and the client has
its participant id. -/
theorem transmitAudio_sealed_iff (sodium : Sodium) (options : PerformerJoinOptions)
    (keypair : Option (Octets × Octets)) (events : List (ClientAmbient × ClientEvent))
    (ambient : ClientAmbient) :
    (∀ datagram ∈ ((Run.run (step sodium) (initial options keypair) events).step sodium
        (ambient, .act .transmitAudio)).outbox,
        SealedAudio sodium (Run.run (step sodium) (initial options keypair) events).sessionKey
          datagram.bytes) ↔
      ∀ staged, (Run.run (step sodium) (initial options keypair) events).stagedAudio = some staged →
        (Run.run (step sodium) (initial options keypair) events).outboundEnabled = true →
        validateOutboundAudioPacket staged.outgoing = true →
        (Run.run (step sodium) (initial options keypair) events).CanSeal :=
  transmitAudio_sealed sodium
    { Run.run (step sodium) (initial options keypair) events with outbox := [], effects := [] }
    ambient rfl

def quietAmbient : ClientAmbient where
  now := 1
  nonce := []
  sealSeed := fun _ => []
  framesPerBuffer := 480
  decoderCreates := fun _ => true
  queueAdmits := fun _ _ => true

/-- A visitor joins without a media secret, is acknowledged, and speaks. -/
def keylessVisit : List (ClientAmbient × ClientEvent) :=
  [(quietAmbient, .act (.joinRoom ⟨ascii "jam", ascii "ann", ascii "Ann", [], [], roomAccessOpen⟩
      true)),
    (quietAmbient, .receive (ctrlDatagram 8 1 ++ u32Bytes audioSupportedCapabilities)),
    (quietAmbient, .act (.prepareAudio ⟨[7, 7, 7], 48000, 480, 0, 0⟩))]

/-- The visitor's audio goes out in the clear. -/
theorem transmitAudio_cleartext :
    (Run.run (step .framing) (initial {} none) keylessVisit).joinSession.canSendAudio = true ∧
      (Run.run (step .framing) (initial {} none) keylessVisit).sessionKey = none ∧
      ∃ datagram ∈ ((Run.run (step .framing) (initial {} none) keylessVisit).step .framing
        (quietAmbient, .act .transmitAudio)).outbox,
        magicOf datagram.bytes = audioV3Magic ∧ datagram.bytes.drop headerSize = [7, 7, 7] ∧
        ¬ SealedAudio .framing (Run.run (step .framing) (initial {} none) keylessVisit).sessionKey
          datagram.bytes := by
  have plain : ∃ datagram ∈ ((Run.run (step .framing) (initial {} none) keylessVisit).step .framing
      (quietAmbient, .act .transmitAudio)).outbox,
      magicOf datagram.bytes = audioV3Magic ∧ datagram.bytes.drop headerSize = [7, 7, 7] := by
    decide +kernel
  obtain ⟨datagram, member, magic, payload⟩ := plain
  refine ⟨by decide +kernel, by decide +kernel, datagram, member, magic, payload, ?_⟩
  intro sealing
  rw [sealing.magic] at magic
  exact absurd magic (by decide)

end Sesivo.Client
