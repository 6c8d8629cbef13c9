import Sesivo.Lib.Store
import Sesivo.AudioPacket
import Sesivo.Client.JoinSession
import Sesivo.Client.Sequences

set_option autoImplicit false

/- The client's state and its media key: deriving it from the room's secret,
rotating it, and handing it to other participants, from `client_runtime.cpp`. -/

namespace Sesivo

open Octets JoinToken SessionCrypto

/-- What a datagram carries besides its clear header fields: nothing secret, or
a media secret or audio sealed under the given key. -/
inductive Content where
  | clear
  | rotation (key mediaSecret : Octets)
  | envelope (targetId : UInt32) (publicKey mediaSecret : Octets)
  | audio (key : Octets)
deriving DecidableEq

structure Datagram where
  bytes : Octets
  content : Content
deriving DecidableEq

/-- An entry of the list of participants waiting for approval. -/
structure WaitingParticipant where
  profileId : Octets
  displayName : Octets
  keyPublic : Octets
  hasKeyPublic : Bool

structure OpusPacket where
  data : Octets
  sequence : UInt32
  sampleRate : UInt32
  frameCount : UInt16
  channels : UInt8
  codec : UInt8
  captureServerTimeNs : Int
deriving DecidableEq

/-- A remote participant's receive state. -/
structure ParticipantData where
  sequenceTracker : SequenceArrivalTracker := {}
  sequenceGaps : Nat := 0
  sequenceGapRecoveries : Nat := 0
  sequenceLateOrReordered : Nat := 0
  opusQueue : List OpusPacket := []

/-- What received audio does to a participant. -/
inductive AudioEffect where
  | registered (participantId : UInt32)
  | recorded (participantId sequence : UInt32)
  | enqueued (participantId : UInt32) (packet : OpusPacket)
deriving DecidableEq

/-- A packet the sender thread has built, and what it is about to send for it. -/
structure StagedAudio where
  packet : Octets
  outgoing : Octets
  sendable : AudioPacket.Sendable outgoing

structure Client where
  joinSession : ClientJoinSession
  sessionKey : Option Octets
  secureControlReplayWindows : Store UInt32 ReplayWindow
  secureControlSequence : UInt32
  /-- Public and secret key, if the pair could be generated. -/
  e2eKeypair : Option (Octets × Octets)
  participantKeyPublic : Store UInt32 Octets
  pendingAccessRequests : Store UInt32 WaitingParticipant
  pendingKeyHandoffAcks : List UInt32
  hasServerEndpoint : Bool
  receivingEnabled : Bool
  outboundEnabled : Bool
  participants : Store UInt32 ParticipantData
  audioTxSequence : UInt32
  recentOpusAudioPackets : List Octets
  recentOpusAudioPacketsResetRequested : Bool
  stagedAudio : Option StagedAudio
  outbox : List Datagram
  effects : List AudioEffect

/-- What the environment supplies while one event is handled: the clock, random
draws, and the answers of the audio device, the decoder and the packet queues. -/
structure ClientAmbient where
  now : Time
  nonce : Octets
  sealSeed : UInt32 → Octets
  framesPerBuffer : Nat
  decoderCreates : UInt32 → Bool
  queueAdmits : ParticipantData → OpusPacket → Bool

def keyEnvelopePayloadBytes : Nat := 136

def mediaKeyRotationPayloadBytes : Nat := 136

variable (accessEpoch : UInt32)

def keyEnvelopePayload (mediaSecret : Octets) : Octets :=
  u16Bytes (UInt16.ofNat mediaSecret.length) ++ u16Bytes 0 ++ u32Bytes accessEpoch ++
    padded mediaSecretMaxBytes mediaSecret

def mediaKeyRotationPayload (mediaSecret : Octets) : Octets :=
  [secureControlRotateMediaKey, 0] ++ u16Bytes (UInt16.ofNat mediaSecret.length) ++
    u32Bytes accessEpoch ++ padded mediaSecretMaxBytes mediaSecret

def keyEnvelopeBytes (senderId targetId accessEpoch : UInt32) (mediaKeyCommitment encrypted : Octets) :
    Octets :=
  u32Bytes e2eKeyEnvelopeMagic ++ u32Bytes senderId ++ u32Bytes targetId ++ u32Bytes accessEpoch ++
    u16Bytes (UInt16.ofNat encrypted.length) ++ u16Bytes 0 ++
    padded mediaKeyCommitmentHexBytes mediaKeyCommitment ++ padded e2eKeyEnvelopeMaxBytes encrypted

def keyHandoffAckBytes (participantId targetId accessEpoch : UInt32) (mediaKeyCommitment : Octets) :
    Octets :=
  u32Bytes ctrlMagic ++ [26] ++ u32Bytes participantId ++ u32Bytes targetId ++
    u32Bytes accessEpoch ++ padded mediaKeyCommitmentHexBytes mediaKeyCommitment

namespace Client

def initial (options : PerformerJoinOptions) (e2eKeypair : Option (Octets × Octets)) : Client where
  joinSession := .create options
  sessionKey := none
  secureControlReplayWindows := ∅
  secureControlSequence := 1
  e2eKeypair := e2eKeypair
  participantKeyPublic := ∅
  pendingAccessRequests := ∅
  pendingKeyHandoffAcks := []
  hasServerEndpoint := false
  receivingEnabled := false
  outboundEnabled := false
  participants := ∅
  audioTxSequence := 0
  recentOpusAudioPackets := []
  recentOpusAudioPacketsResetRequested := false
  stagedAudio := none
  outbox := []
  effects := []

variable (sodium : Sodium) (client : Client)

/-- Messages other than audio leave unless outbound traffic is off. -/
def send (datagram : Datagram) : Client :=
  if client.outboundEnabled then { client with outbox := client.outbox ++ [datagram] } else client

def resetSessionSecurity : Client :=
  { client with
    sessionKey := none
    secureControlReplayWindows := ∅
    secureControlSequence := 1 }

def clearAccessRequestState : Client :=
  { client with
    participantKeyPublic := ∅
    pendingAccessRequests := ∅
    pendingKeyHandoffAcks := [] }

variable (participantId : UInt32)

def removePendingAccessRequest : Client :=
  { client with pendingAccessRequests := client.pendingAccessRequests.erase participantId }

/-- The key the session's secret and ticket determine, where the source does not reset it. -/
def mediaKeyFromSecret (session : ClientJoinSession) : Option Octets :=
  if session.hasMediaSecret = false ∨ session.hasJoinToken = false then none
  else
    match parseUnverified session.options.joinToken with
    | .error _ => none
    | .ok (claims, _) =>
      if claims.roomId ≠ session.options.roomId ∨
          mediaSecretMatchesCommitment sodium session.options.mediaSecret
            session.options.mediaKeyCommitment = false then
        none
      else
        deriveMediaKeyFromSecret sodium claims.roomId claims.roomInstanceId
          session.options.mediaSecret

def updateMediaKeyFromSecret : Client :=
  match mediaKeyFromSecret sodium client.joinSession with
  | none => client.resetSessionSecurity
  | some derived => { client with sessionKey := some derived }

/-- Whether the key was taken over. -/
def applyMediaSecretRotation (mediaSecret : Octets) (accessEpoch : UInt32)
    (mediaKeyCommitment : Octets) : Bool × Client :=
  let session := client.joinSession
  if accessEpoch = 0 ∨
      mediaSecretMatchesCommitment sodium mediaSecret mediaKeyCommitment = false ∨
      accessEpoch < session.options.accessEpoch ∨
      (accessEpoch = session.options.accessEpoch ∧ session.hasMediaSecret = true) ∨
      (accessEpoch = session.options.accessEpoch ∧
        mediaKeyCommitment ≠ session.options.mediaKeyCommitment) then
    (false, client)
  else
    (true, { client with
      joinSession := session.setMediaKey mediaSecret accessEpoch mediaKeyCommitment
      }.updateMediaKeyFromSecret sodium)

variable (ambient : ClientAmbient)

/-- The key envelope for a participant, where the source would send one. -/
def keyEnvelopeFor (participantId : UInt32) : Option Datagram :=
  let session := client.joinSession
  if client.e2eKeypair = none ∨ participantId = 0 ∨ participantId = session.participantId ∨
      session.hasMediaSecret = false ∨ session.participantId = 0 ∨
      client.outboundEnabled = false then
    none
  else
    match client.participantKeyPublic.lookup participantId with
    | none => none
    | some targetPublicKey =>
      let mediaSecret := session.options.mediaSecret
      if mediaSecretMaxBytes < mediaSecret.length ∨ session.options.accessEpoch = 0 then none
      else
        (sealKeyEnvelope sodium targetPublicKey
            (keyEnvelopePayload session.options.accessEpoch mediaSecret) e2eKeyEnvelopeMaxBytes
            (ambient.sealSeed participantId)).map fun encrypted =>
          { bytes := keyEnvelopeBytes session.participantId participantId
              session.options.accessEpoch session.options.mediaKeyCommitment encrypted
            content := .envelope participantId targetPublicKey mediaSecret }

def sendMediaKeyEnvelopeToParticipantOnIo
    (participantId : UInt32) : Bool × Client :=
  match keyEnvelopeFor sodium client ambient participantId with
  | none => (false, client)
  | some envelope => (true, client.send envelope)

def queueMediaKeyHandoffOnIo (participantId : UInt32) : Bool × Client :=
  let queued := { client with
    pendingKeyHandoffAcks := client.pendingKeyHandoffAcks.insert participantId }
  match queued.sendMediaKeyEnvelopeToParticipantOnIo sodium ambient participantId with
  | (true, sent) => (true, sent)
  | (false, same) =>
    (false, { same with
      pendingKeyHandoffAcks := same.pendingKeyHandoffAcks.filter (· ≠ participantId) })

def retryPendingKeyHandoffsOnIo : Client :=
  client.pendingKeyHandoffAcks.foldl (fun current participantId =>
    (current.sendMediaKeyEnvelopeToParticipantOnIo sodium ambient participantId).2) client

def sendKeyHandoffAckOnIo (targetId accessEpoch : UInt32) (mediaKeyCommitment : Octets) : Client :=
  let participantId := client.joinSession.participantId
  if targetId = 0 ∨ targetId = participantId ∨ accessEpoch = 0 ∨
      validSha256Hex mediaKeyCommitment = false ∨ participantId = 0 ∨
      client.outboundEnabled = false then
    client
  else
    client.send
      { bytes := keyHandoffAckBytes participantId targetId accessEpoch mediaKeyCommitment
        content := .clear }

def maybeAutoShareMediaKey (participantId : UInt32) : Client :=
  if client.joinSession.options.accessMode = roomAccessApprove then client
  else (client.queueMediaKeyHandoffOnIo sodium ambient participantId).2

/-- Queue the key for a waiting participant; it stops waiting if the envelope could be sent. -/
def admitWaiting (participantId : UInt32) : Client :=
  match client.queueMediaKeyHandoffOnIo sodium ambient participantId with
  | (true, sent) => sent.removePendingAccessRequest participantId
  | (false, same) => same

def setRoomAccessMode (accessMode : UInt8) : Client :=
  let switched := { client with joinSession := client.joinSession.setAccessMode accessMode }
  if accessMode = roomAccessApprove then switched
  else
    (switched.pendingAccessRequests.pairs.map Prod.fst).foldl
      (fun current participantId => current.admitWaiting sodium ambient participantId) switched

def approveWaitingParticipant (participantId : UInt32) : Client :=
  client.admitWaiting sodium ambient participantId

/-- The rotation control packet, sealed under the key in use when it is sent. -/
def rotationPacket (key mediaSecret : Octets)
    (accessEpoch : UInt32) (mediaKeyCommitment : Octets) : Option Datagram :=
  let metadata : SecureControlMetadata :=
    { senderId := client.joinSession.participantId
      targetId := 0
      sequence := client.secureControlSequence
      accessEpoch := accessEpoch
      plaintextBytes := UInt16.ofNat mediaKeyRotationPayloadBytes
      mediaKeyCommitment := mediaKeyCommitment }
  (sealControlPacket sodium key metadata (mediaKeyRotationPayload accessEpoch mediaSecret) 512
    ambient.nonce).map fun bytes => { bytes := bytes, content := .rotation key mediaSecret }

/-- Everyone whose public key is known gets the session's key, whatever the access mode. -/
def handOverToAll : Client :=
  ((client.participantKeyPublic.pairs.map Prod.fst).filter
      (· ≠ client.joinSession.participantId)).foldl
    (fun current participantId =>
      (current.queueMediaKeyHandoffOnIo sodium ambient participantId).2) client

def rotateMediaKeyOnIoContext (mediaSecret : Octets)
    (accessEpoch : UInt32) : Client :=
  match client.sessionKey, mediaKeyCommitment sodium mediaSecret with
  | some key, some commitment =>
    if client.joinSession.serverSupports audioCapSecureAudio = false ∨
        client.joinSession.participantId = 0 ∨ accessEpoch = 0 ∨
        client.outboundEnabled = false then
      client
    else
      let numbered := { client with secureControlSequence := client.secureControlSequence + 1 }
      match rotationPacket sodium client ambient key mediaSecret accessEpoch commitment with
      | none => numbered
      | some packet =>
        let rotated := (numbered.send packet).applyMediaSecretRotation sodium mediaSecret
          accessEpoch commitment
        rotated.2.handOverToAll sodium ambient
  | _, _ => client

/-- Note a participant's public key; in an approval room a newcomer starts waiting. -/
def rememberParticipantKey (profileId displayName
    keyPublic : Octets) (hasKeyPublic : Bool) : Client :=
  if participantId = 0 then client
  else
    let noted := { client with
      participantKeyPublic :=
        if hasKeyPublic then client.participantKeyPublic.insert participantId keyPublic
        else client.participantKeyPublic.erase participantId }
    if participantId = client.joinSession.participantId then
      noted.removePendingAccessRequest participantId
    else if client.joinSession.options.accessMode = roomAccessApprove ∧
        client.joinSession.hasMediaSecret = true then
      { noted with
        pendingAccessRequests := noted.pendingAccessRequests.insert participantId
          { profileId := profileId
            displayName := if displayName.isEmpty then ascii "Player" else displayName
            keyPublic := keyPublic
            hasKeyPublic := hasKeyPublic } }
    else noted

def removeParticipant : Client :=
  { client with
    participants := client.participants.erase participantId
    secureControlReplayWindows := client.secureControlReplayWindows.erase participantId
    participantKeyPublic := client.participantKeyPublic.erase participantId
    pendingAccessRequests := client.pendingAccessRequests.erase participantId
    pendingKeyHandoffAcks := client.pendingKeyHandoffAcks.filter (· ≠ participantId) }

end Client

end Sesivo
