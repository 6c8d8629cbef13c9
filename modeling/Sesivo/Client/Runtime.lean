import Sesivo.Lib.Run
import Sesivo.Client.Audio

set_option autoImplicit false

/- The client as a machine: joining and leaving, timers, received datagrams, and
the requests of its user, from `client_runtime.cpp`. Chat, the metronome,
delivery reports and the clock estimate keep their own state and are left out. -/

namespace Sesivo

open Octets JoinToken SessionCrypto AudioPacket

/-- The arguments of `join_room` that the session keeps. -/
structure RoomChoice where
  roomId : Octets
  profileId : Octets
  displayName : Octets
  joinToken : Octets
  mediaSecret : Octets
  accessMode : UInt8

/-- What the user, the timers and the sender thread make the client do. -/
inductive ClientAction where
  /-- The server address resolves to a usable endpoint or it does not. -/
  | joinRoom (choice : RoomChoice) (resolved : Bool)
  | startConnection (resolved : Bool)
  | stopConnection
  | rebind
  | joinRetryTimer
  | aliveTimer
  | rotateMediaKey (mediaSecret : Octets) (accessEpoch : UInt32)
  | setRoomAccessMode (accessMode : UInt8)
  | approveWaitingParticipant (participantId : UInt32)
  | prepareAudio (frame : OpusSendFrame)
  | transmitAudio

inductive ClientEvent where
  | act (action : ClientAction)
  | receive (datagram : Octets)

def ctrlDatagram (type : UInt8) (participantId : UInt32) : Octets :=
  u32Bytes ctrlMagic ++ [type] ++ u32Bytes participantId

def leaveDatagram : Datagram where
  bytes := ctrlDatagram 2 0
  content := .clear

def aliveDatagram : Datagram where
  bytes := ctrlDatagram 3 0
  content := .clear

def joinAckHdrBytes : Nat := 13
def joinDeniedHdrBytes : Nat := 10
def participantInfoHdrBytes : Nat := 137
def participantInfoCapsHdrBytes : Nat := 173
def clientPacketBytes : Nat := 2048

namespace Client

variable (sodium : Sodium) (client : Client)

def joinOptions (choice : RoomChoice) : PerformerJoinOptions where
  roomId := choice.roomId
  roomHandle := choice.roomId
  userId := choice.profileId
  displayName := choice.displayName
  joinToken := choice.joinToken
  mediaSecret := choice.mediaSecret
  accessMode := choice.accessMode
  keyPublic :=
    match client.e2eKeypair with
    | some keypair => keypair.1
    | none => List.replicate e2ePublicKeyBytes 0

/-- Replace the session's options and forget the participants of the last room. -/
def configureRoom (options : PerformerJoinOptions) : Client :=
  { client with
    joinSession := client.joinSession.configure options
    participants := ∅ }.clearAccessRequestState

def clearRoomSessionState : Client :=
  { (client.configureRoom {}).resetSessionSecurity with
    recentOpusAudioPacketsResetRequested := true }

def disconnectFromServer (notifyServer : Bool) : Client :=
  { client with
    receivingEnabled := false
    outboundEnabled := false
    hasServerEndpoint := false
    outbox :=
      if notifyServer && client.hasServerEndpoint then client.outbox ++ [leaveDatagram]
      else client.outbox }.clearRoomSessionState

variable (ambient : ClientAmbient)

/-- A ticket too long for the JOIN makes the source throw before it does anything. -/
def sendJoin : Client :=
  match client.joinSession.makeJoinHeader with
  | none => client
  | some join =>
    let keyed := client.updateMediaKeyFromSecret sodium
    { keyed with joinSession := keyed.joinSession.markJoinSent ambient.now }.send
      { bytes := join, content := .clear }

/-- Traffic stops first; if the address does not resolve, the source throws there. -/
def startConnectionOnIoContext (resolved : Bool) : Client :=
  let paused := { client with receivingEnabled := false, outboundEnabled := false }
  if resolved = false then paused
  else
    { paused.resetSessionSecurity with
      joinSession := paused.joinSession.reset
      hasServerEndpoint := true
      receivingEnabled := true
      outboundEnabled := true }.sendJoin sodium ambient

def joinRoom (choice : RoomChoice) (resolved : Bool) : Client :=
  (client.configureRoom (client.joinOptions choice)).startConnectionOnIoContext sodium ambient
    resolved

/-- Move to a new local port and join again; the session key stays in place. -/
def rebindUdpSocketAndRejoin : Client :=
  if client.hasServerEndpoint = false ∨ client.outboundEnabled = false then client
  else
    { client with
      outbox := client.outbox ++ [leaveDatagram]
      joinSession := client.joinSession.reset
      recentOpusAudioPacketsResetRequested := true
      receivingEnabled := true }.sendJoin sodium ambient

def joinRetryTimerCallback : Client :=
  if client.outboundEnabled = false ∨ client.hasServerEndpoint = false then client
  else
    let joined :=
      if client.joinSession.shouldSendJoin ambient.now then client.sendJoin sodium ambient
      else client
    joined.retryPendingKeyHandoffsOnIo sodium ambient

def aliveTimerCallback : Client :=
  if client.outboundEnabled = false ∨ client.hasServerEndpoint = false then client
  else if client.joinSession.isJoinConfirmed = false then client.sendJoin sodium ambient
  else client.send aliveDatagram

/-- A participant's announcement; short ones come without a public key. -/
def handleParticipantInfo (packet : Octets) : Client :=
  if packet.length < participantInfoHdrBytes then client
  else
    let participantId := (CtrlHdr.read packet).participantId
    let extended : Bool := participantInfoCapsHdrBytes ≤ packet.length
    let keyPublic :=
      if extended then slice packet 141 e2ePublicKeyBytes
      else List.replicate e2ePublicKeyBytes 0
    (client.rememberParticipantKey participantId (fixedString (slice packet 9 64))
        (fixedString (slice packet 73 64)) keyPublic (keyPublic.any (· ≠ 0))).maybeAutoShareMediaKey
      sodium ambient participantId

variable (packet : Octets)

/-- The acknowledgement is taken for the current join, whichever JOIN it answers. -/
def handleJoinAck : Client :=
  let serverCapabilities := if joinAckHdrBytes ≤ packet.length then u32At packet 9 else 0
  { client with
    joinSession := client.joinSession.markJoinAck (CtrlHdr.read packet).participantId
      serverCapabilities }

def handleJoinRequired : Client :=
  { client with
    joinSession := client.joinSession.markJoinRequired
    recentOpusAudioPacketsResetRequested := true }.sendJoin sodium ambient

def handleKeyHandoffAck : Client :=
  let ack := RoomKeyHandoffAckHdr.read packet
  if roomKeyHandoffAckHdrBytes ≤ packet.length ∧
      ack.targetId = client.joinSession.participantId ∧ ack.participantId ≠ 0 ∧
      ack.accessEpoch = client.joinSession.options.accessEpoch ∧
      ack.mediaKeyCommitment = client.joinSession.options.mediaKeyCommitment then
    { client with
      pendingKeyHandoffAcks := client.pendingKeyHandoffAcks.filter (· ≠ ack.participantId) }
  else client

def handleCtrlMessage (packet : Octets) : Client :=
  match (CtrlHdr.read packet).type with
  | some .participantLeave => client.removeParticipant (CtrlHdr.read packet).participantId
  | some .participantInfo => client.handleParticipantInfo sodium ambient packet
  | some .joinAck => client.handleJoinAck packet
  | some .joinDenied =>
    if joinDeniedHdrBytes ≤ packet.length ∧ u8At packet 9 = 1 then
      client.disconnectFromServer false
    else client
  | some .joinRequired => client.handleJoinRequired sodium ambient
  | some .roomRemoved => client.disconnectFromServer false
  | some .roomKeyHandoffAck => client.handleKeyHandoffAck packet
  | _ => client

def acceptSecureControlSequence (senderId sequence : UInt32) : Bool × Client :=
  if senderId = 0 ∨ sequence = 0 then (false, client)
  else
    let window := (client.secureControlReplayWindows.lookup senderId).getD {}
    ((window.accept sequence).1, { client with
      secureControlReplayWindows :=
        client.secureControlReplayWindows.insert senderId (window.accept sequence).2 })

/-- The secret in a rotation payload that is in order. -/
def rotationSecret (metadata : SecureControlMetadata) (plaintext : Octets) : Option Octets :=
  let secretBytes := (u16At plaintext 2).toNat
  if u8At plaintext 0 ≠ secureControlRotateMediaKey ∨ metadata.targetId ≠ 0 ∨
      plaintext.length ≠ mediaKeyRotationPayloadBytes ∨ u8At plaintext 1 ≠ 0 ∨
      u32At plaintext 4 = 0 ∨ u32At plaintext 4 ≠ metadata.accessEpoch ∨ secretBytes = 0 ∨
      mediaSecretMaxBytes < secretBytes then
    none
  else some (slice plaintext 8 secretBytes)

/-- Key rotations; delivery reports have the same framing and are left out. -/
def handleSecureControlMessage : Client :=
  match client.sessionKey with
  | none => client
  | some key =>
    match openControlPacket sodium key packet 512 with
    | none => client
    | some (metadata, plaintext) =>
      match client.acceptSecureControlSequence metadata.senderId metadata.sequence with
      | (false, replayed) => replayed
      | (true, accepted) =>
        match rotationSecret metadata plaintext with
        | none => accepted
        | some mediaSecret =>
          (accepted.applyMediaSecretRotation sodium mediaSecret metadata.accessEpoch
            metadata.mediaKeyCommitment).2

/-- The secret in an envelope for this client that is in order. -/
def envelopeSecret : Option Octets :=
  let envelope := E2EKeyEnvelopeHdr.read packet
  match client.e2eKeypair with
  | none => none
  | some (publicKey, secretKey) =>
    if packet.length < e2eKeyEnvelopeHdrBytes ∨
        envelope.targetId ≠ client.joinSession.participantId ∨ envelope.senderId = 0 ∨
        envelope.accessEpoch = 0 ∨ validSha256Hex envelope.mediaKeyCommitment = false ∨
        envelope.encryptedBytes.toNat ≤ boxSealBytes ∨
        e2eKeyEnvelopeMaxBytes < envelope.encryptedBytes.toNat ∨ envelope.reserved ≠ 0 then
      none
    else
      match openKeyEnvelope sodium publicKey secretKey
          (envelope.encrypted.take envelope.encryptedBytes.toNat) keyEnvelopePayloadBytes with
      | none => none
      | some plaintext =>
        let secretBytes := (u16At plaintext 0).toNat
        if plaintext.length ≠ keyEnvelopePayloadBytes ∨ secretBytes = 0 ∨
            u16At plaintext 2 ≠ 0 ∨ u32At plaintext 4 = 0 ∨
            u32At plaintext 4 ≠ envelope.accessEpoch ∨ mediaSecretMaxBytes < secretBytes then
          none
        else some (slice plaintext 8 secretBytes)

def handleE2eKeyEnvelope : Client :=
  let envelope := E2EKeyEnvelopeHdr.read packet
  match envelopeSecret sodium client packet with
  | none => client
  | some mediaSecret =>
    let (applied, rotated) := client.applyMediaSecretRotation sodium mediaSecret
      envelope.accessEpoch envelope.mediaKeyCommitment
    let options := rotated.joinSession.options
    if applied = true ∨ (envelope.accessEpoch = options.accessEpoch ∧
        envelope.mediaKeyCommitment = options.mediaKeyCommitment ∧
        mediaSecret = options.mediaSecret) then
      rotated.sendKeyHandoffAckOnIo envelope.senderId envelope.accessEpoch
        envelope.mediaKeyCommitment
    else rotated

/-- A datagram from the server, cut to the receive buffer, dispatched by its magic number. -/
def onReceive (datagram : Octets) : Client :=
  let packet := datagram.take clientPacketBytes
  if client.receivingEnabled = false ∨ packet.length < msgHdrBytes then client
  else if magicOf packet = ctrlMagic ∧ ctrlHdrBytes ≤ packet.length then
    client.handleCtrlMessage sodium ambient packet
  else if magicOf packet = secureControlMagic then client.handleSecureControlMessage sodium packet
  else if magicOf packet = secureAudioMagic then
    client.handleSecureAudioMessage sodium ambient packet
  else if magicOf packet = e2eKeyEnvelopeMagic then client.handleE2eKeyEnvelope sodium packet
  else client

def act : ClientAction → Client
  | .joinRoom choice resolved => client.joinRoom sodium ambient choice resolved
  | .startConnection resolved => client.startConnectionOnIoContext sodium ambient resolved
  | .stopConnection => client.disconnectFromServer true
  | .rebind => client.rebindUdpSocketAndRejoin sodium ambient
  | .joinRetryTimer => client.joinRetryTimerCallback sodium ambient
  | .aliveTimer => client.aliveTimerCallback sodium ambient
  | .rotateMediaKey mediaSecret accessEpoch =>
    client.rotateMediaKeyOnIoContext sodium ambient mediaSecret accessEpoch
  | .setRoomAccessMode accessMode => client.setRoomAccessMode sodium ambient accessMode
  | .approveWaitingParticipant participantId =>
    client.approveWaitingParticipant sodium ambient participantId
  | .prepareAudio frame => client.prepareAudio frame
  | .transmitAudio => client.transmitAudio sodium ambient

/-- One event; what it sends and does to participants is collected anew. -/
def step (event : ClientAmbient × ClientEvent) : Client :=
  let ready := { client with outbox := [], effects := [] }
  match event.2 with
  | .act action => ready.act sodium event.1 action
  | .receive datagram => ready.onReceive sodium event.1 datagram

end Client

end Sesivo
