import Sesivo.Client.Recovery

set_option autoImplicit false

/- A frame from one client's encoder to another's queue: what the sender wraps and
seals passes the server's check, opens under the same key, and is described by
its own header. -/

namespace Sesivo.Client

open Octets SessionCrypto AudioPacket List OpusNetworkClock

def frameHeader (client : Client) (frame : OpusSendFrame) : ParsedAudioHeader where
  senderId := client.joinSession.participantId
  sequence := client.audioTxSequence
  sampleRate := frame.sampleRate
  frameCount := frame.frameCount
  payloadBytes := UInt16.ofNat frame.encoded.length
  channels := 1
  codec := audioCodecOpus
  captureServerTimeNs := frame.captureServerTimeNs

/-- A frame the encoder may hand to the sender. -/
structure Encoded (frame : OpusSendFrame) : Prop where
  supported : isSupportedFrameCount frame.sampleRate frame.frameCount = true
  nonempty : 1 ≤ frame.encoded.length
  fits : frame.encoded.length ≤ audioBufSize

section Sending

variable {client : Client} {frame : OpusSendFrame}

theorem Encoded.rate (encoded : Encoded frame) : frame.sampleRate = sampleRate := by
  have supported := encoded.supported
  simp only [isSupportedFrameCount, Bool.and_eq_true, decide_eq_true_eq] at supported
  exact supported.1.1

theorem Encoded.frames (encoded : Encoded frame) : frame.frameCount ≠ 0 := by
  have supported := encoded.supported
  simp only [isSupportedFrameCount, Bool.and_eq_true, decide_eq_true_eq] at supported
  intro zero
  rw [zero] at supported
  exact absurd supported.1.2 (by decide)

theorem Encoded.packet_valid (encoded : Encoded frame) :
    validateAudioPacketBytes (audioHeaderBytes (client.frameHeader frame) ++ frame.encoded) =
      .ok () := by
  obtain ⟨time, parsed⟩ :=
    parseAudioHeader_audioHeaderBytes (client.frameHeader frame) frame.encoded
  have fits : frame.encoded.length ≤ 512 := encoded.fits
  have nonempty := encoded.nonempty
  have bytes : (UInt16.ofNat frame.encoded.length).toNat = frame.encoded.length :=
    UInt16.toNat_ofNat_of_lt' (by rw [UInt16.size]; omega)
  have some_bytes : UInt16.ofNat frame.encoded.length ≠ 0 := by
    intro zero
    rw [zero] at bytes
    have none : (0 : UInt16).toNat = 0 := rfl
    omega
  unfold validateAudioPacketBytes
  rw [parsed]
  simp only [frameHeader, bytes, length_append, audioHeaderBytes_length, ne_eq,
    not_true_eq_false, ↓reduceIte, not_lt.mpr encoded.fits, validateAudioPacketShape,
    encoded.frames, some_bytes, encoded.supported, Bool.true_eq_false]
  rw [if_neg (by simp [encoded.rate])]

/-- The packet itself comes first in what is sent for it. -/
theorem wrapped_first {packet : Octets} {hdr : ParsedAudioHeader} (configuredDepth : Int)
    (parsed : parseAudioHeader packet = some hdr) :
    ∃ rest, carriedPackets
      ((client.maybeWrapOpusPacketWithRedundancy packet configuredDepth).1.getD packet) =
        packet :: rest := by
  have alone : carriedPackets packet = [packet] := by
    unfold carriedPackets
    rw [(parseAudioHeader_fields parsed).1, if_neg (by decide)]
  unfold maybeWrapOpusPacketWithRedundancy
  split
  · exact ⟨[], alone⟩
  split
  · exact ⟨[], alone⟩
  rename_i found _
  split
  · exact ⟨[], alone⟩
  simp only
  split
  · exact ⟨[], alone⟩
  cases written : writeRedundantAudioPacket (packet :: client.recentOpusAudioPackets.take
      (opusRedundancyChildCountForPolicy configuredDepth found.frameCount
        client.recentOpusAudioPackets.length - 1)) txPacketBufferBytes
      audioRedundantTargetBytes with
  | none => exact ⟨[], alone⟩
  | some out =>
    obtain ⟨-, magic, -, -⟩ := writeRedundantAudioPacket_valid written
    obtain ⟨rest, listed⟩ := writeRedundantAudioPacket_first written
    refine ⟨rest, ?_⟩
    unfold carriedPackets
    rw [Option.getD_some, if_pos magic, listed]

/-- The client is confirmed, has a key, an id and a server that knows sealed audio. -/
structure Speaking (client : Client) (key : Octets) : Prop where
  confirmed : client.joinSession.canSendAudio = true
  keyed : client.sessionKey = some key
  named : client.joinSession.participantId ≠ 0
  secure : client.joinSession.serverSupports audioCapSecureAudio = true
  enabled : client.outboundEnabled = true
  idle : client.stagedAudio = none

/-- Nothing that sealing depends on has changed, and nothing was sent. -/
structure SameSession (before after : Client) : Prop where
  joinSession : after.joinSession = before.joinSession
  sessionKey : after.sessionKey = before.sessionKey
  outboundEnabled : after.outboundEnabled = before.outboundEnabled
  outbox : after.outbox = before.outbox

theorem consumeRecentReset_same (client : Client) :
    SameSession client client.consumeRecentReset ∧
      client.consumeRecentReset.audioTxSequence = client.audioTxSequence := by
  unfold consumeRecentReset
  split <;> exact ⟨⟨rfl, rfl, rfl, rfl⟩, rfl⟩

theorem maybeWrap_same (client : Client) (packet : Octets) (configuredDepth : Int) :
    SameSession client (client.maybeWrapOpusPacketWithRedundancy packet configuredDepth).2 := by
  unfold maybeWrapOpusPacketWithRedundancy
  split
  · exact ⟨rfl, rfl, rfl, rfl⟩
  split
  · exact ⟨rfl, rfl, rfl, rfl⟩
  split
  · exact ⟨rfl, rfl, rfl, rfl⟩
  simp only
  split <;> exact ⟨rfl, rfl, rfl, rfl⟩

theorem writeAudioPacketV3_frame (sequence : UInt32) (encoded : Encoded frame) :
    writeAudioPacketV3 sequence frame.sampleRate frame.frameCount 1 frame.encoded
        frame.captureServerTimeNs txPacketBufferBytes =
      some (audioHeaderBytes
        { senderId := 0
          sequence := sequence
          sampleRate := frame.sampleRate
          frameCount := frame.frameCount
          payloadBytes := UInt16.ofNat frame.encoded.length
          channels := 1
          codec := audioCodecOpus
          captureServerTimeNs := frame.captureServerTimeNs } ++ frame.encoded) := by
  have small : frame.encoded.length ≤ 512 := encoded.fits
  unfold writeAudioPacketV3
  rw [if_neg (by rw [headerSize, txPacketBufferBytes, audioRedundantTargetBytes]; omega)]

/-- A speaking client builds the packet of a frame under its own id. -/
theorem prepareAudio_spec {key : Octets} (speaking : client.Speaking key) (encoded : Encoded frame) :
    ∃ staged rest, (client.prepareAudio frame).stagedAudio = some staged ∧
      staged.packet = audioHeaderBytes (client.frameHeader frame) ++ frame.encoded ∧
      carriedPackets staged.outgoing = staged.packet :: rest ∧
      SameSession client (client.prepareAudio frame) := by
  obtain ⟨same, sequence⟩ := client.consumeRecentReset_same
  obtain ⟨time, parsed⟩ :=
    parseAudioHeader_audioHeaderBytes (client.frameHeader frame) frame.encoded
  unfold prepareAudio
  rw [if_neg (by rw [speaking.idle]; decide), if_neg (by
    rw [same.joinSession, speaking.confirmed]
    simp only [Bool.true_eq_false, false_or]
    exact not_lt.mpr encoded.fits)]
  simp only
  split
  next refused =>
    rw [writeAudioPacketV3_frame _ encoded] at refused
    cases refused
  rename_i built written
  rw [writeAudioPacketV3_frame _ encoded] at written
  obtain rfl := Option.some.inj written
  split
  next refused =>
    unfold stampSender at refused
    rw [if_pos ⟨by rw [same.sessionKey, speaking.keyed]; rfl,
      by rw [same.joinSession]; exact speaking.secure⟩,
      if_neg (by rw [same.joinSession]; exact speaking.named)] at refused
    cases refused
  next packet stamped =>
    unfold stampSender at stamped
    rw [if_pos ⟨by rw [same.sessionKey, speaking.keyed]; rfl,
      by rw [same.joinSession]; exact speaking.secure⟩,
      if_neg (by rw [same.joinSession]; exact speaking.named)] at stamped
    have packet_eq : packet = audioHeaderBytes (client.frameHeader frame) ++ frame.encoded := by
      rw [← Option.some.inj stamped, embedSenderId_audioHeaderBytes, same.joinSession, sequence]
      rfl
    have wrapped := maybeWrap_same { client.consumeRecentReset with
      audioTxSequence := client.consumeRecentReset.audioTxSequence + 1 } packet
      frame.configuredDepth
    obtain ⟨rest, first⟩ := @wrapped_first { client.consumeRecentReset with
      audioTxSequence := client.consumeRecentReset.audioTxSequence + 1 } packet _
      frame.configuredDepth (packet_eq ▸ parsed)
    exact ⟨_, rest, rfl, packet_eq, first, wrapped.joinSession.trans same.joinSession,
      wrapped.sessionKey.trans same.sessionKey,
      wrapped.outboundEnabled.trans same.outboundEnabled, wrapped.outbox.trans same.outbox⟩

/-- What the sender puts into the sealed header of a packet whose first audio packet has
the header `hdr`. -/
def sealedMetadata (client : Client) (data : Octets) (hdr : ParsedAudioHeader) :
    SecureAudioMetadata where
  senderId := client.joinSession.participantId
  sequence := hdr.sequence
  sampleRate := hdr.sampleRate
  frameCount := hdr.frameCount
  plaintextBytes := UInt16.ofNat data.length
  channels := hdr.channels
  codec := hdr.codec
  captureServerTimeNs := hdr.captureServerTimeNs

variable {data first : Octets} {rest : List Octets} {hdr : ParsedAudioHeader}

theorem carried_single (carried : carriedPackets data = first :: rest)
    (magic : magicOf data = audioV3Magic) : data = first := by
  unfold carriedPackets at carried
  rw [magic, if_neg (by decide)] at carried
  exact (cons.inj carried).1

theorem carried_children (carried : carriedPackets data = first :: rest)
    (magic : magicOf data = audioRedundantMagic) : children data = first :: rest := by
  unfold carriedPackets at carried
  rwa [if_pos magic] at carried

theorem secureAudioMetadataForPacket_first (sendable : Sendable data)
    (named : client.joinSession.participantId ≠ 0)
    (secure : client.joinSession.serverSupports audioCapSecureAudio = true)
    (carried : carriedPackets data = first :: rest) (parsed : parseAudioHeader first = some hdr) :
    client.secureAudioMetadataForPacket data = some (client.sealedMetadata data hdr) := by
  have described : client.useChildHeader data first = some (client.sealedMetadata data hdr) := by
    rw [useChildHeader, parsed]
    rfl
  unfold secureAudioMetadataForPacket
  rw [(client.shouldSecureAudioPacket_iff sendable).mpr ⟨secure, named⟩, if_neg (by decide)]
  rcases sendable.magic with single | redundant
  · rw [if_pos single, ← described, carried_single carried single]
  · rw [if_neg (by rw [redundant]; decide),
      forEachRedundantAudioChild_first (carried_children carried redundant), described]

/-- The receiver's check of a packet is a check of the first packet it carries. -/
theorem metadataMatches_first (sendable : Sendable data)
    (carried : carriedPackets data = first :: rest) (parsed : parseAudioHeader first = some hdr)
    (stamped : hdr.senderId = client.joinSession.participantId) :
    metadataMatches (client.sealedMetadata data hdr) data = true := by
  have described : metadataMatchesChild (client.sealedMetadata data hdr) first = true := by
    unfold metadataMatchesChild
    rw [parsed]
    simp [sealedMetadata, stamped]
  unfold metadataMatches
  rw [if_neg (not_lt.mpr sendable.long)]
  rcases sendable.magic with single | redundant
  · rw [if_pos single, ← described, carried_single carried single]
  · rw [if_neg (by rw [redundant]; decide), if_pos redundant,
      forEachRedundantAudioChild_first (carried_children carried redundant), described]

theorem sealedMetadata_sealable (sendable : Sendable data)
    (named : client.joinSession.participantId ≠ 0) (shape : validateAudioPacketShape hdr = .ok ()) :
    Sealable (client.sealedMetadata data hdr) data := by
  have small : data.length ≤ 1200 := sendable.fits
  unfold validateAudioPacketShape at shape
  split at shape
  · cases shape
  rename_i fixed
  simp only [not_or, not_not] at fixed
  split at shape
  · cases shape
  rename_i opus
  split at shape
  · cases shape
  rename_i supported
  exact
    { named := named
      counted := UInt16.toNat_ofNat_of_lt' (by rw [UInt16.size]; omega)
      rate := fixed.1
      mono := fixed.2.1
      opus := not_not.mp opus
      supported := Bool.not_eq_false _ ▸ supported
      fits := by rw [securePacketTagBytes]; omega }

end Sending

section Receiving

variable {receiver : Client} {ambient : ClientAmbient} {packet : Octets} {hdr : ParsedAudioHeader}

/-- A valid packet from a sender that is heard is recorded under its sequence number. -/
theorem handleSingleAudioMessage_records (valid : validateAudioPacketBytes packet = .ok ())
    (parsed : parseAudioHeader packet = some hdr) (hears : receiver.Hears ambient hdr.senderId)
    (countDuplicateLate : Bool) :
    AudioEffect.recorded hdr.senderId hdr.sequence ∈
      (receiver.handleSingleAudioMessage ambient packet countDuplicateLate).effects := by
  rcases receiver.registerSender_spec ambient hdr.senderId with
    ⟨-, registered, more, answer, -, -, known, -⟩ | ⟨deaf, -⟩
  · obtain ⟨participant, found⟩ := Option.isSome_iff_exists.mp known
    unfold handleSingleAudioMessage
    rw [parsed, valid]
    simp only [answer, deliverToParticipant, found]
    split <;> simp [opusPacket]
  · exact absurd hears deaf

theorem handleSingleAudioMessage_hears (valid : validateAudioPacketBytes packet = .ok ())
    (senderId : UInt32) (hears : receiver.Hears ambient senderId) (countDuplicateLate : Bool) :
    (receiver.handleSingleAudioMessage ambient packet countDuplicateLate).Hears ambient senderId := by
  obtain ⟨found, parsed, -⟩ := validateAudioPacketBytes_ok valid
  rcases receiver.handleSingleAudioMessage_spec ambient countDuplicateLate valid parsed with
    ⟨heard, attributes⟩ | ⟨-, same⟩
  · exact (attributes.hears heard senderId).mpr hears
  · rw [same]
    exact hears

theorem foldl_hears (entries : List (Octets × Nat)) (senderId : UInt32)
    (valid : ∀ entry ∈ entries, validateAudioPacketBytes entry.1 = .ok ())
    (hears : receiver.Hears ambient senderId) :
    (entries.foldl (fun current entry =>
      current.handleSingleAudioMessage ambient entry.1 (entry.2 = 0)) receiver).Hears ambient
        senderId := by
  induction entries generalizing receiver with
  | nil => exact hears
  | cons entry entries ih =>
    obtain ⟨first, others⟩ := forall_mem_cons.mp valid
    exact ih others (handleSingleAudioMessage_hears first senderId hears _)

/-- The first packet a datagram carries is handled last, and recorded if its sender is heard. -/
theorem handleAudioMessage_records {data : Octets} {rest : List Octets}
    (carried : carriedPackets data = packet :: rest)
    (valid : ∀ child ∈ carriedPackets data, validateAudioPacketBytes child = .ok ())
    (parsed : parseAudioHeader packet = some hdr) (hears : receiver.Hears ambient hdr.senderId) :
    AudioEffect.recorded hdr.senderId hdr.sequence ∈
      (receiver.handleAudioMessage ambient data).effects := by
  rw [handleAudioMessage_eq_foldl (fun child member => by
    obtain ⟨found, header, -⟩ := validateAudioPacketBytes_ok (valid child member)
    exact ⟨found, header⟩)]
  rw [carried] at valid ⊢
  obtain ⟨first, others⟩ := forall_mem_cons.mp valid
  rw [zipIdx_cons, reverse_cons, foldl_append, foldl_cons, foldl_nil]
  apply handleSingleAudioMessage_records first parsed
  apply foldl_hears _ _ _ hears
  intro entry member
  exact others entry.1 (fst_mem_of_mem_zipIdx (mem_reverse.mp member))

end Receiving

theorem carried_valid {data first : Octets} {rest : List Octets}
    (carried : carriedPackets data = first :: rest)
    (valid : validateAudioPacketBytes first = .ok ()) :
    ∀ child ∈ carriedPackets data, validateAudioPacketBytes child = .ok () := by
  unfold carriedPackets at carried ⊢
  split
  · intro child member
    exact children_validate member
  rename_i single
  rw [if_neg single] at carried
  rw [carried, (cons.inj carried).2.symm]
  intro child member
  rw [mem_singleton.mp member]
  exact valid

variable {sodium : Sodium}

/-- What handing a staged packet to the socket sends, when it can be sealed. -/
theorem transmitAudio_seals {client : Client} {ambient : ClientAmbient}
    {staged : StagedAudio} {key datagram : Octets} {metadata : SecureAudioMetadata}
    (found : client.stagedAudio = some staged) (enabled : client.outboundEnabled = true)
    (valid : validateOutboundAudioPacket staged.outgoing = true)
    (keyed : client.sessionKey = some key)
    (described : client.secureAudioMetadataForPacket staged.outgoing = some metadata)
    (written : sealAudioPacket sodium key metadata staged.outgoing 2048 ambient.nonce =
      some datagram) :
    (client.transmitAudio sodium ambient).outbox =
      client.outbox ++ [{ bytes := datagram, content := .audio key }] := by
  have remembered (sender : Client) :
      (sender.rememberRecentOpusAudioPacket staged.packet).outbox = sender.outbox := by
    unfold rememberRecentOpusAudioPacket
    split <;> rfl
  unfold transmitAudio
  simp [found, remembered, sendAudioPacketSync, valid, enabled, keyed, described, written]

theorem validateOutboundAudioPacket_carried {data first : Octets} {rest : List Octets}
    (carried : carriedPackets data = first :: rest)
    (valid : validateAudioPacketBytes first = .ok ()) : validateOutboundAudioPacket data = true := by
  unfold validateOutboundAudioPacket
  split
  · rfl
  split
  · rfl
  next magic =>
    rw [carried_single carried (not_not.mp magic), valid]
    rfl

/-- A packet that begins with a valid one under the client's id can be sealed, and
the result is accepted, opens to the packet and describes it. -/
theorem sealed_round_trip (correct : sodium.AeadCorrect) {client : Client}
    {data first : Octets} {rest : List Octets} {hdr : ParsedAudioHeader}
    (sendable : Sendable data) (carried : carriedPackets data = first :: rest)
    (valid : validateAudioPacketBytes first = .ok ()) (parsed : parseAudioHeader first = some hdr)
    (named : client.joinSession.participantId ≠ 0)
    (stamped : hdr.senderId = client.joinSession.participantId) (key nonce : Octets) :
    ∃ datagram encryptedBytes,
      sealAudioPacket sodium key (client.sealedMetadata data hdr) data 2048 nonce =
        some datagram ∧
      datagram.length ≤ 2048 ∧
      parseSecureAudioHeader datagram = .ok (client.sealedMetadata data hdr, encryptedBytes) ∧
      openAudioPacket sodium key datagram 2048 = some (client.sealedMetadata data hdr, data) ∧
      metadataMatches (client.sealedMetadata data hdr) data = true := by
  obtain ⟨found, again, -, -, shape⟩ := validateAudioPacketBytes_ok valid
  obtain rfl := Option.some.inj (again.symm.trans parsed)
  obtain ⟨low, high⟩ := parseAudioHeader_time parsed
  have sealable := sealedMetadata_sealable sendable named shape
  have small : data.length ≤ 1200 := sendable.fits
  have room : securePacketHeaderBytes + data.length + securePacketTagBytes ≤ 2048 := by
    rw [securePacketHeaderBytes, securePacketTagBytes]
    omega
  have nonempty : data ≠ [] := by
    intro empty
    have long := sendable.long
    rw [empty] at long
    exact absurd long (by decide)
  have length := correct.encrypted_length key (padded securePacketNonceBytes nonce)
    (secureAudioHeaderBytes (client.sealedMetadata data found) nonce) data
  refine ⟨_, _, sealAudioPacket_eq correct.initialized sealable key nonce room, ?_,
    parseSecureAudioHeader_sealed sealable nonempty low high nonce length,
    openAudioPacket_sealed correct sealable nonempty low high key nonce (by omega),
    metadataMatches_first sendable carried parsed stamped⟩
  rw [length_append, secureAudioHeaderBytes_length, length]
  exact room

/-- A frame a speaking client sends becomes one datagram that fits the buffer.
The server reads the sender's own id from it. A receiver with the same key gets
back exactly what was sealed, finds that its header describes it, and handles
the frame's packet, which it records if it can hear the sender. -/
theorem sealed_audio_agrees (sodium : Sodium) (correct : sodium.AeadCorrect)
    (client receiver : Client) (ambient hearing : ClientAmbient) (frame : OpusSendFrame)
    (key : Octets) (speaking : client.Speaking key) (encoded : Encoded frame)
    (shared : receiver.sessionKey = some key) :
    ∃ staged datagram metadata encryptedBytes,
      (client.prepareAudio frame).stagedAudio = some staged ∧
      staged.packet = audioHeaderBytes (client.frameHeader frame) ++ frame.encoded ∧
      (carriedPackets staged.outgoing).head? = some staged.packet ∧
      ((client.prepareAudio frame).transmitAudio sodium ambient).outbox =
        client.outbox ++ [{ bytes := datagram, content := .audio key }] ∧
      datagram.length ≤ 2048 ∧
      parseSecureAudioHeader datagram = .ok (metadata, encryptedBytes) ∧
      metadata.senderId = client.joinSession.participantId ∧
      openAudioPacket sodium key datagram 2048 = some (metadata, staged.outgoing) ∧
      metadataMatches metadata staged.outgoing = true ∧
      receiver.handleSecureAudioMessage sodium hearing datagram =
        receiver.handleAudioMessage hearing staged.outgoing ∧
      (receiver.Hears hearing client.joinSession.participantId →
        AudioEffect.recorded client.joinSession.participantId client.audioTxSequence ∈
          (receiver.handleSecureAudioMessage sodium hearing datagram).effects) := by
  obtain ⟨staged, rest, found, packet_eq, carried, same⟩ := prepareAudio_spec speaking encoded
  obtain ⟨time, parsed⟩ :=
    parseAudioHeader_audioHeaderBytes (client.frameHeader frame) frame.encoded
  rw [← packet_eq] at parsed
  have valid : validateAudioPacketBytes staged.packet = .ok () := packet_eq ▸ encoded.packet_valid
  -- the state the packet is sealed in has the session of the state it was built in
  have owner : (client.prepareAudio frame).joinSession.participantId =
      client.joinSession.participantId := congrArg _ same.joinSession
  have named : (client.prepareAudio frame).joinSession.participantId ≠ 0 := by
    rw [owner]
    exact speaking.named
  have secure :
      (client.prepareAudio frame).joinSession.serverSupports audioCapSecureAudio = true := by
    rw [same.joinSession]
    exact speaking.secure
  have described := secureAudioMetadataForPacket_first staged.sendable named secure carried parsed
  obtain ⟨datagram, encryptedBytes, written, fits, accepted, opened, matched⟩ :=
    sealed_round_trip correct staged.sendable carried valid parsed named owner.symm key
      ambient.nonce
  have handled : receiver.handleSecureAudioMessage sodium hearing datagram =
      receiver.handleAudioMessage hearing staged.outgoing := by
    unfold handleSecureAudioMessage
    simp [shared, opened, matched]
  refine ⟨staged, datagram, _, encryptedBytes, found, packet_eq, by rw [carried]; rfl, ?_, fits,
    accepted, owner, opened, matched, handled, ?_⟩
  · rw [transmitAudio_seals found (same.outboundEnabled.trans speaking.enabled)
      (validateOutboundAudioPacket_carried carried valid)
      (same.sessionKey.trans speaking.keyed) described written, same.outbox]
  intro hears
  rw [handled]
  exact handleAudioMessage_records carried (carried_valid carried valid) parsed hears

def hum : OpusSendFrame := ⟨[7, 7, 7], 48000, 480, 0, opusRedundancyDepthAuto⟩

/-- A client that has sent one frame already, so that the next one travels with it. -/
def hummer : Client := (listener.prepareAudio hum).transmitAudio .framing quietAmbient

theorem sealed_audio_agrees_hummer :
    hummer.recentOpusAudioPackets.length = 1 ∧
      ∃ datagram metadata encryptedBytes plaintext,
        ((hummer.prepareAudio hum).transmitAudio .framing quietAmbient).outbox =
          hummer.outbox ++ [{ bytes := datagram, content := .audio (listener.sessionKey.getD []) }] ∧
        datagram.length ≤ 2048 ∧
        parseSecureAudioHeader datagram = .ok (metadata, encryptedBytes) ∧ metadata.senderId = 9 ∧
        openAudioPacket .framing (listener.sessionKey.getD []) datagram 2048 =
          some (metadata, plaintext) ∧
        AudioEffect.recorded 9 hummer.audioTxSequence ∈
          (listener.handleSecureAudioMessage .framing quietAmbient datagram).effects := by
  -- One evaluation: the client's key and the first packet are computed once for all of these.
  have facts : hummer.recentOpusAudioPackets.length = 1 ∧
      hummer.joinSession.canSendAudio = true ∧ hummer.joinSession.participantId = 9 ∧
      hummer.joinSession.serverSupports audioCapSecureAudio = true ∧
      hummer.outboundEnabled = true ∧ hummer.stagedAudio.isNone = true ∧
      hummer.sessionKey = some (listener.sessionKey.getD []) ∧
      listener.sessionKey = some (listener.sessionKey.getD []) := by
    decide +kernel
  obtain ⟨history, confirmed, owner, secure, enabled, idle, keyed, shared⟩ := facts
  have speaking : hummer.Speaking (listener.sessionKey.getD []) :=
    ⟨confirmed, keyed, by rw [owner]; decide, secure, enabled, Option.isNone_iff_eq_none.mp idle⟩
  have encoded : Encoded hum := ⟨by decide, by decide, by decide⟩
  obtain ⟨staged, datagram, metadata, encryptedBytes, -, -, -, sent, fits, accepted, named, opened,
    -, -, recorded⟩ := sealed_audio_agrees .framing Sodium.framing_aeadCorrect hummer listener
      quietAmbient quietAmbient hum _ speaking encoded shared
  rw [owner] at named recorded
  exact ⟨history, datagram, metadata, encryptedBytes, staged.outgoing, sent, fits, accepted, named,
    opened, recorded (.inr ⟨by decide, rfl⟩)⟩

end Sesivo.Client
