import Sesivo.Client.Keys

set_option autoImplicit false

/- The client's audio: the sender thread from an encoded frame to the socket,
and received packets from decryption to the participants' queues. -/

namespace Sesivo

open Octets SessionCrypto AudioPacket

def txPacketBufferBytes : Nat := audioRedundantTargetBytes

def recentOpusPacketSlots : Nat := maxAudioRedundantPackets - 1

/-- A captured frame as it leaves the encoder, with the capture time in the
server's clock (zero until that clock is known) and the redundancy depth in force. -/
structure OpusSendFrame where
  encoded : Octets
  sampleRate : UInt32
  frameCount : UInt16
  captureServerTimeNs : Int
  configuredDepth : Int

def opusRedundancyDepthAuto : Int := -1

def maxOpusRedundancyDepthPackets : Int := maxAudioRedundantPackets - 1

def normalizeOpusRedundancyDepth (depth : Int) : Int :=
  if depth < 0 then opusRedundancyDepthAuto else min depth maxOpusRedundancyDepthPackets

def autoOpusRedundancyDepthForFrameCount (frameCount : UInt16) : Int :=
  if frameCount ≤ 120 then 1 else if 960 ≤ frameCount then 3 else 2

variable (configuredDepth : Int)

def effectiveOpusRedundancyDepth (frameCount : UInt16) : Int :=
  let normalized := normalizeOpusRedundancyDepth configuredDepth
  if normalized = opusRedundancyDepthAuto then autoOpusRedundancyDepthForFrameCount frameCount
  else normalized

def opusRedundancyChildCountForPolicy (frameCount : UInt16)
    (availablePrevious : Nat) : Nat :=
  let effectiveDepth := effectiveOpusRedundancyDepth configuredDepth frameCount
  if effectiveDepth ≤ 0 then 1 else 1 + min availablePrevious effectiveDepth.toNat

/-- Only single audio packets are checked before they leave. -/
def validateOutboundAudioPacket (data : Octets) : Bool :=
  if data.length < msgHdrBytes then true
  else if magicOf data ≠ audioV3Magic then true
  else (validateAudioPacketBytes data).isOk

namespace Client

variable (sodium : Sodium) (client : Client) (data : Octets)

/-- Whether the packet is one the client may seal. -/
def shouldSecureAudioPacket : Bool :=
  if client.joinSession.serverSupports audioCapSecureAudio = false ∨
      client.joinSession.participantId = 0 ∨ data.length < msgHdrBytes ∨
      65535 - securePacketTagBytes < data.length then
    false
  else magicOf data = audioV3Magic || magicOf data = audioRedundantMagic

/-- The metadata of a packet, from the header of `child`, its first audio packet. -/
def useChildHeader (data child : Octets) : Option SecureAudioMetadata :=
  (parseAudioHeader child).map fun parsed =>
    { senderId := client.joinSession.participantId
      sequence := parsed.sequence
      sampleRate := parsed.sampleRate
      frameCount := parsed.frameCount
      plaintextBytes := UInt16.ofNat data.length
      channels := parsed.channels
      codec := parsed.codec
      captureServerTimeNs := parsed.captureServerTimeNs }

def secureAudioMetadataForPacket : Option SecureAudioMetadata :=
  if client.shouldSecureAudioPacket data = false then none
  else if magicOf data = audioV3Magic then client.useChildHeader data data
  else
    forEachRedundantAudioChild data
      (fun found child index => if index = 0 then client.useChildHeader data child else found) none

variable (ambient : ClientAmbient)

/-- The last step of the sender: seal the packet if there is a key and it can be
described, and otherwise send it as it is. -/
def sendAudioPacketSync (data : Octets) : Client :=
  if validateOutboundAudioPacket data = false ∨ client.outboundEnabled = false then client
  else
    match client.sessionKey, client.secureAudioMetadataForPacket data with
    | some key, some metadata =>
      match sealAudioPacket sodium key metadata data 2048 ambient.nonce with
      | none => client
      | some packet =>
        { client with outbox := client.outbox ++ [{ bytes := packet, content := .audio key }] }
    | _, _ => { client with outbox := client.outbox ++ [{ bytes := data, content := .clear }] }

def consumeRecentReset : Client :=
  if client.recentOpusAudioPacketsResetRequested then
    { client with
      recentOpusAudioPackets := []
      recentOpusAudioPacketsResetRequested := false }
  else client

variable (packet : Octets)

/-- The redundant packet to send instead, if the history gives one. -/
def maybeWrapOpusPacketWithRedundancy (configuredDepth : Int) :
    Option Octets × Client :=
  if client.joinSession.serverSupports audioCapRedundancy = false then
    (none, { client with recentOpusAudioPackets := [] })
  else
    match parseAudioHeader packet with
    | none => (none, client)
    | some parsed =>
      if effectiveOpusRedundancyDepth configuredDepth parsed.frameCount ≤ 0 then
        (none, { client with recentOpusAudioPackets := [] })
      else
        let childCount := opusRedundancyChildCountForPolicy configuredDepth parsed.frameCount
          client.recentOpusAudioPackets.length
        let views := packet :: client.recentOpusAudioPackets.take (childCount - 1)
        if views.length ≤ 1 then (none, client)
        else
          (writeRedundantAudioPacket views txPacketBufferBytes audioRedundantTargetBytes, client)

def rememberRecentOpusAudioPacket : Client :=
  if packet = [] then client
  else
    { client with
      recentOpusAudioPackets := (packet :: client.recentOpusAudioPackets).take recentOpusPacketSlots }

/-- The sender's id goes into the packet when it is going to be sealed; `none`
drops a packet that cannot be sealed for want of an id. -/
def stampSender : Option Octets :=
  if client.sessionKey.isSome ∧ client.joinSession.serverSupports audioCapSecureAudio = true then
    if client.joinSession.participantId = 0 then none
    else some (embedSenderId packet client.joinSession.participantId)
  else some packet

theorem stampSender_sendable {client : Client} {built packet : Octets}
    (stamped : client.stampSender built = some packet) (magic : magicOf built = audioV3Magic)
    (long : headerSize ≤ built.length) (fits : built.length ≤ audioRedundantTargetBytes) :
    Sendable packet := by
  have kept : magicOf packet = magicOf built ∧ packet.length = built.length := by
    unfold stampSender at stamped
    split at stamped
    · split at stamped
      · cases stamped
      · rw [← Option.some.inj stamped]
        exact embedSenderId_keeps built _ long
    · rw [Option.some.inj stamped]
      exact ⟨rfl, rfl⟩
  refine ⟨kept.2 ▸ fits, .inl (parseAudioHeader_of_magic (kept.1.trans magic) ?_)⟩
  rw [kept.2]
  exact long

theorem wrapped_sendable {client : Client} {packet : Octets} (configuredDepth : Int)
    (sendable : Sendable packet) :
    Sendable ((client.maybeWrapOpusPacketWithRedundancy packet configuredDepth).1.getD packet) := by
  unfold maybeWrapOpusPacketWithRedundancy
  split
  · exact sendable
  split
  · exact sendable
  rename_i parsed _
  split
  · exact sendable
  simp only
  split
  · exact sendable
  cases written : writeRedundantAudioPacket (packet :: client.recentOpusAudioPackets.take
      (opusRedundancyChildCountForPolicy configuredDepth parsed.frameCount
        client.recentOpusAudioPackets.length - 1)) txPacketBufferBytes
      audioRedundantTargetBytes with
  | none => exact sendable
  | some out =>
    obtain ⟨-, -, fits, nonempty⟩ := writeRedundantAudioPacket_valid written
    exact ⟨fits, .inr nonempty⟩

/-- The sender loop up to the point where the packet is handed to the socket.
The other threads may act before it is sent; the loop takes no frame before that. -/
def prepareAudio (frame : OpusSendFrame) : Client :=
  let ready := client.consumeRecentReset
  if client.stagedAudio.isSome = true then client
  else if ready.joinSession.canSendAudio = false ∨ audioBufSize < frame.encoded.length then ready
  else
    let numbered := { ready with audioTxSequence := ready.audioTxSequence + 1 }
    match written : writeAudioPacketV3 ready.audioTxSequence frame.sampleRate frame.frameCount 1
        frame.encoded frame.captureServerTimeNs txPacketBufferBytes with
    | none => numbered
    | some built =>
      match stamped : numbered.stampSender built with
      | none => numbered
      | some packet =>
        let wrapped := numbered.maybeWrapOpusPacketWithRedundancy packet frame.configuredDepth
        have shape := writeAudioPacketV3_sendable written
        { wrapped.2 with
          stagedAudio := some
            { packet := packet
              outgoing := wrapped.1.getD packet
              sendable := wrapped_sendable frame.configuredDepth
                (stampSender_sendable stamped shape.1 shape.2.1 shape.2.2) } }

def transmitAudio : Client :=
  match client.stagedAudio with
  | none => client
  | some staged =>
    { (client.sendAudioPacketSync sodium ambient staged.outgoing).rememberRecentOpusAudioPacket
        staged.packet with
      stagedAudio := none }

/-- Register the sender of a packet unless it is known; `none` when there is no decoder for it. -/
def registerSender (senderId : UInt32) : Option Client :=
  match client.participants.lookup senderId with
  | some _ => some client
  | none =>
    if ambient.framesPerBuffer = 0 ∨ ambient.decoderCreates senderId = false then none
    else
      some { client with
        participants := client.participants.insert senderId {}
        effects := client.effects ++ [.registered senderId] }

/-- Record the arrival with its participant, and queue the packet unless it is a
duplicate or the queue is full. -/
def deliverToParticipant (senderId : UInt32)
    (packet : OpusPacket) (countDuplicateLate : Bool) : Client :=
  match client.participants.lookup senderId with
  | none => client
  | some participant =>
    let (delta, tracker) := participant.sequenceTracker.record packet.sequence
    let late := delta.lateOrDuplicate && (countDuplicateLate || 0 < delta.gapsRecovered)
    let recorded := { participant with
      sequenceTracker := tracker
      sequenceGaps := participant.sequenceGaps + delta.gapsDetected.toNat
      sequenceGapRecoveries := participant.sequenceGapRecoveries + delta.gapsRecovered.toNat
      sequenceLateOrReordered := participant.sequenceLateOrReordered + late.toNat }
    let noted := client.effects ++ [.recorded senderId packet.sequence]
    if sequenceArrivalShouldEnqueue delta && ambient.queueAdmits recorded packet then
      { client with
        participants := client.participants.insert senderId
          { recorded with opusQueue := recorded.opusQueue ++ [packet] }
        effects := noted ++ [.enqueued senderId packet] }
    else
      { client with
        participants := client.participants.insert senderId recorded
        effects := noted }

def opusPacket (parsed : ParsedAudioHeader) : OpusPacket where
  data := data.drop headerSize
  sequence := parsed.sequence
  sampleRate := parsed.sampleRate
  frameCount := parsed.frameCount
  channels := parsed.channels
  codec := parsed.codec
  captureServerTimeNs := parsed.captureServerTimeNs

/-- A single audio packet. The length checks before the validator's are implied by it. -/
def handleSingleAudioMessage (data : Octets)
    (countDuplicateLate : Bool) : Client :=
  match parseAudioHeader data, validateAudioPacketBytes data with
  | some parsed, .ok _ =>
    match client.registerSender ambient parsed.senderId with
    | none => client
    | some registered =>
      registered.deliverToParticipant ambient parsed.senderId (opusPacket data parsed)
        countDuplicateLate
  | _, _ => client

/-- The children are taken from the last to the first. -/
def handleRedundantAudioMessage (data : Octets) : Client :=
  forEachRedundantAudioChildReverse data
    (fun current child index => current.handleSingleAudioMessage ambient child (index = 0)) client

def handleAudioMessage (data : Octets) : Client :=
  if magicOf data = audioRedundantMagic then client.handleRedundantAudioMessage ambient data
  else if magicOf data ≠ audioV3Magic then client
  else client.handleSingleAudioMessage ambient data true

variable (metadata : SecureAudioMetadata)

def metadataMatchesChild (child : Octets) : Bool :=
  match parseAudioHeader child with
  | none => false
  | some parsed =>
    parsed.senderId = metadata.senderId && parsed.sequence = metadata.sequence &&
      parsed.sampleRate = metadata.sampleRate && parsed.frameCount = metadata.frameCount &&
      parsed.channels = metadata.channels && parsed.codec = metadata.codec &&
      parsed.captureServerTimeNs = metadata.captureServerTimeNs

/-- Whether the sealed header describes the plaintext; of a redundant packet only
the child with index zero is compared. -/
def metadataMatches (plaintext : Octets) : Bool :=
  if plaintext.length < msgHdrBytes then false
  else if magicOf plaintext = audioV3Magic then metadataMatchesChild metadata plaintext
  else if magicOf plaintext = audioRedundantMagic then
    forEachRedundantAudioChild plaintext
      (fun matched child index =>
        if index = 0 then metadataMatchesChild metadata child else matched) false
  else false

def handleSecureAudioMessage (packet : Octets) : Client :=
  match client.sessionKey with
  | none => client
  | some key =>
    match openAudioPacket sodium key packet 2048 with
    | none => client
    | some (metadata, plaintext) =>
      if metadataMatches metadata plaintext = false then client
      else client.handleAudioMessage ambient plaintext

end Client

end Sesivo
