import Sesivo.Server.State

set_option autoImplicit false

/- The event handlers of `server.cpp`, in the order of the source. Metrics,
logging and ping statistics are left out; every check and every change of the
client table, the rooms, the nonce table, the limiter and the outbox is kept. -/

namespace Sesivo.Server

open Octets JoinToken SessionCrypto

/-- Fifteen seconds, in nanoseconds. -/
def clientTimeout : Time := 15000000000

/-- Thirty seconds, in nanoseconds. -/
def unknownEndpointTtl : Time := 30000000000

def maxUnknownEndpoints : Nat := 4096
def recvBufSize : Nat := 2048
def roomJoinTicketTtlMs : Int := 600000
def metronomeScheduleAheadNs : Int := 150000000

def roomFlags (room : RoomSnapshot) : UInt8 :=
  if room.accessMode = roomAccessPassword then roomFlagLocked else 0

def saturatingU16 (value : Nat) : Nat := min value 65535

def canIssueUdpRoomJoinTicket (options : ServerOptions) : Bool := options.joinSecret ≠ []

def ticketClaims (options : ServerOptions) (room : RoomSnapshot) (profileId : Octets)
    (nowMs : Int) (nonce : Octets) : Claims where
  expiresAtMs := nowMs + roomJoinTicketTtlMs
  serverId := options.serverId
  roomId := room.roomId
  profileId := profileId
  roomInstanceId := room.roomInstanceId
  accessEpoch := room.accessEpoch
  mediaKeyCommitment := room.mediaKeyCommitment
  nonce := nonce

def createUdpRoomJoinTicket (sodium : Sodium) (options : ServerOptions) (room : RoomSnapshot)
    (profileId : Octets) (nowMs : Int) (nonce : Octets) : Option Octets :=
  if options.joinSecret = [] then none
  else create sodium (ticketClaims options room profileId nowMs nonce) options.joinSecret

variable (sodium : Sodium) (options : ServerOptions) (server : Server)

section Packets

variable (remote : Endpoint) (packet : Octets) (ambient : Ambient)

def handlePingMessage : Server :=
  if packet.length < syncHdrBytes ∨ server.clientManager.exists remote = false then server
  else
    let (allowed, asked) := server.ask fun limiter => limiter.allowControl remote ambient.now
    if allowed = false then asked
    else
      let request := SyncHdr.read packet
      (asked.updateAlive remote ambient.now).send remote
        (.syncReply { request with t2ServerRecv := ambient.now, t3ServerSend := ambient.now })

def roomSummary (entry : RoomSnapshot × Nat) : RoomSummary where
  roomId := writeFixed 64 entry.1.roomId
  roomName := writeFixed 64 entry.1.roomName
  roomInstanceId := writeFixed 64 entry.1.roomInstanceId
  accessEpoch := entry.1.accessEpoch
  participantCount := saturatingU16 entry.2
  flags := roomFlags entry.1
  accessMode := entry.1.accessMode

def handleServerStatusRequest : Server :=
  if packet.length < serverStatusRequestHdrBytes then server
  else
    let request := ServerStatusRequestHdr.read packet
    let cleaned := server.cleanupEmptyRooms ambient.now
    let rooms := cleaned.roomRegistry.listRooms cleaned.clientManager.roomCounts
    let roomOffset := min request.roomOffset.toNat rooms.length
    let roomLimit :=
      if request.roomLimit = 0 then maxRoomStatusSummaries
      else min request.roomLimit.toNat maxRoomStatusSummaries
    let roomCount := min (rooms.length - roomOffset) roomLimit
    cleaned.send remote
      (.serverStatus
        { requestId := request.requestId
          serverId := writeFixed 64 options.serverId
          totalRooms := saturatingU16 rooms.length
          activeParticipants := saturatingU16 cleaned.clientManager.count
          roomOffset := saturatingU16 roomOffset
          truncated := roomOffset + roomCount < rooms.length
          tokenAuthAvailable := canIssueUdpRoomJoinTicket options
          rooms := ((rooms.drop roomOffset).take roomCount).map roomSummary })

variable (response : RoomTicketResponse)

/-- The room fields of a creation or ticket answer. -/
def describeRoom (room : RoomSnapshot) : RoomTicketResponse :=
  { response with
    flags := roomFlags room
    accessMode := room.accessMode
    accessEpoch := room.accessEpoch
    roomId := writeFixed 64 room.roomId
    roomName := writeFixed 64 room.roomName
    roomInstanceId := writeFixed 64 room.roomInstanceId }

/-- Put a ticket for the room into the answer, or the reason why there is none. -/
def withTicket (room : RoomSnapshot) (profileId : Octets)
    (ambient : Ambient) : Except RoomTicketResponse RoomTicketResponse :=
  match createUdpRoomJoinTicket sodium options room profileId ambient.nowMs ambient.ticketNonce with
  | none =>
    .error { response with
      status := roomStatusServerError, reason := "could not issue join token" }
  | some ticket =>
    match writeFixedChecked joinTokenWireBytes ticket with
    | none =>
      .error { response with
        status := roomStatusServerError, reason := "join token exceeds wire limit" }
    | some joinToken => .ok { response with joinToken := joinToken }

def handleRoomCreateRequest : Server :=
  if packet.length < roomCreateRequestHdrBytes then server
  else
    let request := RoomCreateRequestHdr.read packet
    let profileId := fixedString request.profileId
    let response : RoomTicketResponse := { requestId := request.requestId }
    if profileId = [] then
      server.send remote (.roomCreated { response with
        status := roomStatusBadRequest, reason := "missing profile id" })
    else if canIssueUdpRoomJoinTicket options = false then
      server.send remote (.roomCreated { response with
        status := roomStatusForbidden, reason := "room tickets require a join secret" })
    else
      let (result, registry) := server.roomRegistry.createRoom sodium
        (fixedString request.roomId) (fixedString request.roomName)
        (fixedString request.passwordHash) request.accessMode
        (fixedString request.mediaKeyCommitment) ambient.now ambient.adminToken
        ambient.instanceNonce
      let created := { server with roomRegistry := registry }
      if result.ok = false then
        created.send remote (.roomCreated { describeRoom response result.room with
          status := if result.reason = "room already exists" then roomStatusConflict
            else roomStatusBadRequest
          reason := result.reason })
      else
        match withTicket sodium options response result.room profileId ambient with
        | .error refused => created.send remote (.roomCreated refused)
        | .ok ticketed =>
          let described := describeRoom ticketed result.room
          created.send remote (.roomCreated { described with
            flags := described.flags ||| roomFlagCreated
            adminToken := writeFixed 128 result.adminToken })

def handleRoomJoinTokenRequest : Server :=
  if packet.length < roomJoinTokenRequestHdrBytes then server
  else
    let request := RoomJoinTokenRequestHdr.read packet
    let profileId := fixedString request.profileId
    let response : RoomTicketResponse := { requestId := request.requestId }
    if profileId = [] then
      server.send remote (.roomJoinToken { response with
        status := roomStatusBadRequest, reason := "missing profile id" })
    else if canIssueUdpRoomJoinTicket options = false then
      server.send remote (.roomJoinToken { response with
        status := roomStatusForbidden, reason := "room tickets require a join secret" })
    else
      let (authorized, registry) := server.roomRegistry.authorizeJoin
        (fixedString request.roomId) (fixedString request.passwordHash) ambient.now
      let checked := { server with roomRegistry := registry }
      if authorized.ok = false then
        checked.send remote (.roomJoinToken { response with
          status := if authorized.reason = "room not found" then roomStatusNotFound
            else roomStatusForbidden
          reason := authorized.reason })
      else
        match withTicket sodium options response authorized.room profileId ambient with
        | .error refused => checked.send remote (.roomJoinToken refused)
        | .ok ticketed =>
          checked.send remote (.roomJoinToken (describeRoom ticketed authorized.room))

/-- Tell a removed participant, free its nonce and limiter entry, and announce its leave. -/
def dismissParticipant (removed : Endpoint × ClientInfo) : Server :=
  let told := server.send removed.1 (.roomRemoved removed.2.clientId)
  let released := told.releaseTokenNonceForClient removed.2
  let forgotten := { released with rateLimiter := released.rateLimiter.erase removed.1 }
  forgotten.broadcastParticipantLeave removed.2.clientId

variable (roomId : Octets)

/-- Remove one participant; the answer carries the status when that fails. -/
def kickRoomParticipant (participantId : UInt32)
    (now : Time) (response : RoomAdminResponse) : Bool × RoomAdminResponse × Server :=
  if participantId = 0 then
    (false, { response with
      status := roomStatusBadRequest, reason := "missing participant id" }, server)
  else
    match server.clientManager.removeRoomClientWithInfo roomId participantId with
    | (none, _) =>
      (false, { response with
        status := roomStatusNotFound, reason := "participant not found" }, server)
    | (some removed, manager) =>
      (true, response,
        (dismissParticipant { server with clientManager := manager } removed).cleanupEmptyRooms
          now)

def removeAllRoomParticipants (now : Time) : Server :=
  let (removed, manager) := server.clientManager.removeRoomClientsWithInfo roomId
  (removed.foldl dismissParticipant { server with clientManager := manager }).cleanupEmptyRooms now

def rotatesMediaKey (command : UInt8) : Bool :=
  command = roomAdminChangePassword || command = roomAdminChangeAccess ||
    command = roomAdminKickParticipant || command = roomAdminRotateMediaKey

/-- Carry out an admin command: the registry's verdict, the answer so far, and
the server afterwards. `none` for a command the protocol does not have. -/
def executeAdminCommand (request : RoomAdminRequestHdr)
    (response : RoomAdminResponse) (now : Time) :
    Option (AuthorizeResult × RoomAdminResponse × Server) :=
  let roomId := fixedString request.roomId
  let adminToken := fixedString request.adminToken
  let passwordHash := fixedString request.passwordHash
  let commitment := fixedString request.mediaKeyCommitment
  let registry := server.roomRegistry
  let keep := fun answer : AuthorizeResult × RoomRegistry =>
    some (answer.1, response, { server with roomRegistry := answer.2 })
  if request.command = roomAdminChangePassword then
    keep (registry.changePassword sodium roomId adminToken passwordHash commitment now)
  else if request.command = roomAdminChangeAccess then
    keep (registry.changeAccessMode sodium roomId adminToken request.accessMode passwordHash
      commitment now)
  else if request.command = roomAdminKickParticipant then
    let (authorized, touched) := registry.authorizeAdmin sodium roomId adminToken now
    let checked := { server with roomRegistry := touched }
    if authorized.ok = false then some (authorized, response, checked)
    else
      let (kicked, answered, after) :=
        checked.kickRoomParticipant roomId request.targetParticipantId now response
      if kicked = false then some (authorized, answered, after)
      else
        let (rotated, rotatedRegistry) :=
          after.roomRegistry.rotateAccessEpoch sodium roomId adminToken commitment now
        some (rotated, answered, { after with roomRegistry := rotatedRegistry })
  else if request.command = roomAdminCloseRoom then
    let (authorized, closed) := registry.closeRoom sodium roomId adminToken now
    let checked := { server with roomRegistry := closed }
    some (authorized, response,
      if authorized.ok = false then checked else checked.removeAllRoomParticipants roomId now)
  else if request.command = roomAdminRotateMediaKey then
    keep (registry.rotateAccessEpoch sodium roomId adminToken commitment now)
  else none

def handleRoomAdminRequest : Server :=
  if packet.length < roomAdminRequestHdrBytes then server
  else
    let request := RoomAdminRequestHdr.read packet
    let response : RoomAdminResponse :=
      { requestId := request.requestId
        targetParticipantId := request.targetParticipantId
        roomId := writeFixed 64 (fixedString request.roomId) }
    if rotatesMediaKey request.command = true ∧
        validSha256Hex (fixedString request.mediaKeyCommitment) = false then
      server.send remote (.roomAdmin { response with
        status := roomStatusBadRequest, reason := "invalid media key commitment" })
    else
      match executeAdminCommand sodium server request response ambient.now with
      | none =>
        server.send remote (.roomAdmin { response with
          status := roomStatusBadRequest, reason := "unknown admin command" })
      | some (authorized, answered, after) =>
        if authorized.ok = false then
          after.send remote (.roomAdmin { answered with
            status := if authorized.reason = "room not found" then roomStatusNotFound
              else roomStatusForbidden
            reason := authorized.reason })
        else if answered.status ≠ roomStatusOk then after.send remote (.roomAdmin answered)
        else
          let propagated : Server :=
            { after with
              clientManager := after.clientManager.setRoomAccessEpoch authorized.room.roomId
                authorized.room.roomInstanceId authorized.room.accessEpoch }
          propagated.send remote (.roomAdmin { answered with
            status := roomStatusOk
            flags := roomFlags authorized.room
            accessMode := authorized.room.accessMode
            accessEpoch := authorized.room.accessEpoch
            reason := "ok" })

def chatEvent (message : ChatMessage) (requestId : UInt32) : RoomChatEvent where
  participantId := message.senderParticipantId
  requestId := requestId
  accessEpoch := message.accessEpoch
  chatSequence := message.sequence
  serverTimeMs := message.serverTimeMs
  ciphertextBytes := message.ciphertextBytes
  roomId := writeFixed 64 message.roomId
  roomInstanceId := writeFixed 64 message.roomInstanceId
  nonce := message.nonce
  ciphertext := message.ciphertext

/-- Store and broadcast a chat message whose sender fields have been checked. -/
def publishChat (request : RoomChatSendHdr) (ambient : Ambient) : Server :=
  let roomId := fixedString request.roomId
  match server.roomRegistry.storeChatMessage roomId (fixedString request.roomInstanceId)
      request.accessEpoch request.participantId request.nonce request.ciphertext
      request.ciphertextBytes ambient.nowMs ambient.now with
  | (.refused status reason, registry) =>
    { server with roomRegistry := registry }.send remote
      (.roomChatRejected request.requestId request.nonce status reason)
  | (.stored message, registry) =>
    let alive := { server with roomRegistry := registry }.updateAlive remote ambient.now
    alive.sendAll ((alive.clientManager.getRoomClients roomId).map Prod.fst)
      (.roomChatEvent (chatEvent message request.requestId))

def handleRoomChatSend : Server :=
  if packet.length < roomChatSendHdrBytes then
    server.send remote (.roomChatRejected 0 (List.replicate securePacketNonceBytes 0)
      roomStatusBadRequest "short chat message")
  else
    let (allowed, asked) := server.ask fun limiter => limiter.allowChatSend remote ambient.now
    if allowed = false then asked
    else
      let request := RoomChatSendHdr.read packet
      match asked.clientManager.getClientInfo remote with
      | none =>
        asked.send remote (.roomChatRejected request.requestId request.nonce
          roomStatusForbidden "not joined")
      | some sender =>
        if fixedString request.roomId ≠ sender.roomId ∨
            fixedString request.roomInstanceId ≠ sender.roomInstanceId ∨
            request.participantId ≠ sender.clientId ∨
            request.accessEpoch ≠ sender.accessEpoch then
          asked.send remote (.roomChatRejected request.requestId request.nonce
            roomStatusForbidden "wrong room chat sender")
        else asked.publishChat remote request ambient

def sendRoomChatHistoryDone (requestId : UInt32)
    (roomId roomInstanceId : Octets) (accessEpoch : UInt32) (status flags : UInt8) : Server :=
  server.send remote (.roomChatHistoryDone
    { requestId := requestId
      status := status
      flags := flags ||| roomChatHistoryDone
      accessEpoch := accessEpoch
      roomId := writeFixed 64 roomId
      roomInstanceId := writeFixed 64 roomInstanceId })

def handleRoomChatHistoryRequest : Server :=
  if packet.length < roomChatHistoryRequestHdrBytes then
    server.sendRoomChatHistoryDone remote 0 [] [] 0 roomStatusBadRequest roomChatHistoryDone
  else
    let request := RoomChatHistoryRequestHdr.read packet
    let roomId := fixedString request.roomId
    let roomInstanceId := fixedString request.roomInstanceId
    let done := fun (current : Server) (status flags : UInt8) =>
      current.sendRoomChatHistoryDone remote request.requestId roomId roomInstanceId
        request.accessEpoch status flags
    match server.clientManager.getClientInfo remote with
    | none => done server roomStatusForbidden 0
    | some client =>
      if roomId ≠ client.roomId ∨ roomInstanceId ≠ client.roomInstanceId ∨
          request.accessEpoch ≠ client.accessEpoch then
        done server roomStatusForbidden 0
      else
        match server.roomRegistry.chatHistorySince roomId roomInstanceId request.accessEpoch
            request.afterSequence ambient.now with
        | (.refused status _, registry) =>
          done { server with roomRegistry := registry } status 0
        | (.found truncated messages, registry) =>
          let alive := { server with roomRegistry := registry }.updateAlive remote ambient.now
          let answered := messages.foldl (fun current message =>
            current.send remote (.roomChatHistory request.requestId message)) alive
          done answered roomStatusOk (if truncated then roomChatHistoryTruncated else 0)

def participantInfoMessage (participantId : UInt32) (profileId displayName : Octets)
    (capabilities : UInt32) (keyPublic : Octets) : ServerMessage :=
  .participantInfo
    { participantId := participantId
      profileId := writeFixed 64 profileId
      displayName := writeFixed 64 displayName
      capabilities := capabilities &&& audioSupportedCapabilities
      keyPublic := keyPublic }

variable (joined : Endpoint)

def broadcastParticipantInfo (participantId : UInt32)
    (profileId displayName : Octets) : Server :=
  let capabilities := server.clientManager.getClientCapabilities joined
  let keyPublic := ((server.clientManager.getClientInfo joined).map ClientInfo.keyPublic).getD
    (List.replicate e2ePublicKeyBytes 0)
  let (endpoints, read) := server.cachedRoomEndpoints joined
  read.sendAll endpoints
    (participantInfoMessage participantId profileId displayName capabilities keyPublic)

def sendExistingParticipantInfoTo : Server :=
  (server.clientManager.getRoomClientsExcept joined).foldl (fun current entry =>
    if entry.2.profileId = [] ∧ entry.2.displayName = [] then current
    else
      current.send joined (participantInfoMessage entry.2.clientId entry.2.profileId
        entry.2.displayName entry.2.capabilities entry.2.keyPublic)) server

/-- The room a validated ticket admits to, with the registry after the check. -/
def admitToRoom (registry : RoomRegistry) (roomId : Octets) (claims : Claims)
    (ambient : Ambient) : Option RoomSnapshot × RoomRegistry :=
  if claims.roomInstanceId ≠ [] then
    let (check, after) := registry.validateClaims roomId claims.roomInstanceId
      claims.accessEpoch claims.mediaKeyCommitment ambient.now
    (if check.ok then some check.room else none, after)
  else
    let (room, after) := registry.ensureOpenRoom roomId claims.mediaKeyCommitment ambient.now
      ambient.instanceNonce
    (if room.roomId = [] then none else some room, after)

variable (join : JoinHdr)

def joinRegistration (room : RoomSnapshot) (claims : Claims) : Registration where
  roomId := fixedString join.roomId
  roomInstanceId := room.roomInstanceId
  accessEpoch := room.accessEpoch
  profileId := fixedString join.profileId
  displayName := fixedString join.displayName
  capabilities := (join.capabilities &&& audioSupportedCapabilities) ||| audioCapSecureAudio
  keyPublic := join.keyPublic
  security := some (nonceReplayKey claims)

/-- Register an admitted endpoint and tell the room, or refuse it when the room is full. -/
def admitClient (join : JoinHdr) (room : RoomSnapshot)
    (claims : Claims) (now : Time) : Server :=
  let (result, manager) :=
    server.clientManager.registerClient remote now (joinRegistration join room claims)
  let registered := { server with clientManager := manager }
  if result.rejectedRoomFull then registered.send remote (.joinDenied 1)
  else
    let announced := result.removedClientIds.foldl broadcastParticipantLeave registered
    let marked :=
      { announced with roomRegistry := announced.roomRegistry.markJoined room.roomId now }
    let acked := marked.send remote
      (.joinAck result.clientId (audioSupportedCapabilities &&& audioSupportedCapabilities))
    (acked.broadcastParticipantInfo remote result.clientId (fixedString join.profileId)
      (fixedString join.displayName)).sendExistingParticipantInfoTo remote

/-- The ticket of a JOIN, if it is one this server accepts at the time. -/
def joinClaims (nowMs : Int) : Option Claims :=
  if fixedString join.roomId = [] ∨ fixedString join.profileId = [] then none
  else if fixedString join.joinToken = [] then none
  else
    match validateWithClaims sodium nowMs (fixedString join.joinToken) options.joinSecret
        options.serverId (fixedString join.roomId) (fixedString join.profileId) [] 0 with
    | .error _ => none
    | .ok claims => some claims

def handleJoin : Server :=
  if packet.length < joinHdrBytes then server
  else
    let join := JoinHdr.read packet
    match joinClaims sodium options join ambient.nowMs with
    | none => server
    | some claims =>
      match admitToRoom server.roomRegistry (fixedString join.roomId) claims ambient with
      | (none, registry) => { server with roomRegistry := registry }
      | (some room, registry) =>
        let checked := { server with roomRegistry := registry }
        let (reserved, after) := checked.reserveTokenNonce claims remote ambient.nowMs
        if reserved = false then after
        else after.admitClient remote join room claims ambient.now

/-- Charge the strict bucket; a refusal only silences the log. -/
def noteStrict (now : Time) : Server :=
  (server.ask fun limiter => limiter.allowStrict remote now).2

/-- The authenticated endpoint of the room member with the given id. -/
def authenticatedTarget (targetId : UInt32) : Option Endpoint :=
  (server.clientManager.getRoomEndpointByClientId remote targetId).filter
    server.clientManager.hasAuthenticatedSession

/-- The sender's room is at this epoch and commitment, and so is the sender's record. -/
def authorizesSender (accessEpoch : UInt32)
    (mediaKeyCommitment : Octets) : Bool :=
  match server.clientManager.getClientInfo remote with
  | none => false
  | some sender =>
    sender.accessEpoch = accessEpoch &&
      server.roomRegistry.authorizesMediaKey sender.roomId sender.roomInstanceId accessEpoch
        mediaKeyCommitment

def handleE2eKeyEnvelope : Server :=
  if packet.length < e2eKeyEnvelopeHdrBytes then server.noteStrict remote ambient.now
  else if server.clientManager.exists remote = false ∨
      server.clientManager.hasAuthenticatedSession remote = false then
    server.noteStrict remote ambient.now
  else
    let envelope := E2EKeyEnvelopeHdr.read packet
    if envelope.senderId = 0 ∨ envelope.senderId ≠ server.clientManager.getClientId remote ∨
        envelope.targetId = 0 ∨ envelope.reserved ≠ 0 ∨ envelope.accessEpoch = 0 ∨
        envelope.encryptedBytes = 0 ∨ e2eKeyEnvelopeMaxBytes < envelope.encryptedBytes.toNat then
      server.noteStrict remote ambient.now
    else if server.authorizesSender remote envelope.accessEpoch envelope.mediaKeyCommitment =
        false then
      server.noteStrict remote ambient.now
    else
      match server.authenticatedTarget remote envelope.targetId with
      | none => server.noteStrict remote ambient.now
      | some target =>
        (server.updateAlive remote ambient.now).send target
          (.relayed (packet.take e2eKeyEnvelopeHdrBytes))

def handleRoomKeyHandoffAck : Server :=
  if packet.length < roomKeyHandoffAckHdrBytes ∨ server.clientManager.exists remote = false ∨
      server.clientManager.hasAuthenticatedSession remote = false then
    server
  else
    let ack := RoomKeyHandoffAckHdr.read packet
    let senderId := server.clientManager.getClientId remote
    if senderId = 0 ∨ ack.participantId ≠ senderId ∨ ack.targetId = 0 ∨ ack.targetId = senderId ∨
        ack.accessEpoch = 0 ∨
        server.authorizesSender remote ack.accessEpoch ack.mediaKeyCommitment = false then
      server
    else
      match server.authenticatedTarget remote ack.targetId with
      | none => server
      | some target =>
        (server.updateAlive remote ambient.now).send target
          (.relayed (packet.take roomKeyHandoffAckHdrBytes))

/-- Drop unknown endpoints that have been silent, with their limiter state. -/
def cleanupUnknownEndpoints (now : Time) : Server :=
  let stale := fun info : UnknownEndpointInfo => decide (unknownEndpointTtl < now - info.lastSeen)
  let erased := (server.unknownEndpoints.pairs.filter fun entry => stale entry.2).foldl
    (fun limiter entry => limiter.erase entry.1) server.rateLimiter
  { server with
    unknownEndpoints := server.unknownEndpoints.keep fun _ info => !stale info
    rateLimiter := erased.expire now unknownEndpointTtl }

/-- Remember an unjoined sender and ask it, at most once a second, to join. -/
def recordUnknownAudioDrop (now : Time) : Server :=
  let cleaned := server.cleanupUnknownEndpoints now
  let known := match cleaned.unknownEndpoints.lookup remote with
    | some info => some info
    | none =>
      if cleaned.unknownEndpoints.pairs.length < maxUnknownEndpoints then
        some { firstSeen := now, lastSeen := now, lastJoinRequiredSent := 0 }
      else none
  match known with
  | none => cleaned
  | some info =>
    if info.lastJoinRequiredSent = 0 ∨ 1000000000 ≤ now - info.lastJoinRequiredSent then
      { cleaned with
        unknownEndpoints := cleaned.unknownEndpoints.insert remote
          { info with lastSeen := now, lastJoinRequiredSent := now } }.send remote .joinRequired
    else
      { cleaned with
        unknownEndpoints := cleaned.unknownEndpoints.insert remote { info with lastSeen := now } }

/-- A sealed packet from an endpoint that is not registered. -/
def dropUnknown (now : Time) : Server :=
  let (allowed, asked) := server.ask fun limiter => limiter.allowUnknown remote now
  if allowed then asked.recordUnknownAudioDrop remote now else asked

variable (sender : Endpoint)

def forwardSecureControlToOthers (packet : Octets) : Server :=
  let (endpoints, read) := server.cachedRoomEndpoints sender
  read.sendAll (endpoints.filter fun endpoint =>
    endpoint ≠ sender && read.clientManager.hasAuthenticatedSession endpoint) (.relayed packet)

/-- Relay a control packet whose sender and media key have been checked. -/
def relaySecureControl (packet : Octets)
    (metadata : SecureControlMetadata) (now : Time) : Server :=
  let alive := server.updateAlive remote now
  if metadata.targetId = 0 then alive.forwardSecureControlToOthers remote packet
  else
    match alive.authenticatedTarget remote metadata.targetId with
    | none => alive.noteStrict remote now
    | some target => alive.send target (.relayed packet)

def handleSecureControlMessage : Server :=
  if packet.length < secureControlHeaderBytes + securePacketTagBytes then
    server.noteStrict remote ambient.now
  else if server.clientManager.exists remote = false then server.dropUnknown remote ambient.now
  else if server.clientManager.hasAuthenticatedSession remote = false then
    server.noteStrict remote ambient.now
  else
    let (allowed, asked) := server.ask fun limiter =>
      limiter.allowAuthenticatedSecureControl remote ambient.now
    if allowed = false then asked
    else
      match parseSecureControlHeader packet with
      | .error _ => asked.noteStrict remote ambient.now
      | .ok (metadata, _) =>
        let senderId := asked.clientManager.getClientId remote
        if senderId = 0 ∨ metadata.senderId ≠ senderId then asked.noteStrict remote ambient.now
        else if asked.authorizesSender remote metadata.accessEpoch metadata.mediaKeyCommitment =
            false then
          asked.noteStrict remote ambient.now
        else asked.relaySecureControl remote packet metadata ambient.now

/-- Hand the packet to every worker whose queue has room. -/
def forwardAudioToOthers (packet : Octets) (ambient : Ambient) : Server :=
  let (endpoints, read) := server.cachedRoomEndpoints sender
  let task : MediaTask := { packet := packet, endpoints := endpoints, sender := sender }
  { read with
    mediaTasks := read.mediaTasks ++
      ((List.range mediaWorkerCount).filter ambient.queueAccepts).map fun worker => (worker, task) }

def handleSecureAudioMessage : Server :=
  if packet.length < securePacketHeaderBytes + securePacketTagBytes then
    server.noteStrict remote ambient.now
  else if server.clientManager.exists remote = false then server.dropUnknown remote ambient.now
  else if server.clientManager.hasAuthenticatedSession remote = false then
    server.noteStrict remote ambient.now
  else
    match parseSecureAudioHeader packet with
    | .error _ => server.noteStrict remote ambient.now
    | .ok (metadata, _) =>
      let senderId := server.clientManager.getClientId remote
      if senderId = 0 ∨ metadata.senderId ≠ senderId then server.noteStrict remote ambient.now
      else
        let (allowed, asked) := server.ask fun limiter =>
          limiter.allowAuthenticatedAudio remote metadata.sampleRate metadata.frameCount
            ambient.now
        if allowed = false then asked
        else
          let alive := asked.updateAlive remote ambient.now
          if ambient.bufferFree = false ∨ recvBufSize < packet.length then alive
          else alive.forwardAudioToOthers remote packet ambient

def handleMetronomeSync : Server :=
  if packet.length < metronomeSyncHdrBytes then server
  else if server.clientManager.exists remote = false then server.send remote .joinRequired
  else
    let alive := server.updateAlive remote ambient.now
    let sequence := alive.metronomeSequence + 1
    let sync := { MetronomeSyncHdr.read packet with
      sequence := sequence
      effectiveServerTimeNs := ambient.now + metronomeScheduleAheadNs }
    let (endpoints, read) := { alive with metronomeSequence := sequence }.cachedRoomEndpoints remote
    read.sendAll endpoints (.metronomeSync sync)

def handleLeave : Server :=
  match server.clientManager.removeClientWithInfo remote with
  | (none, _) => server
  | (some leaving, manager) =>
    let released := { server with clientManager := manager }.releaseTokenNonceForClient leaving
    (released.broadcastParticipantLeave leaving.clientId).cleanupEmptyRooms ambient.now

def handleAlive : Server :=
  if server.clientManager.exists remote then server.updateAlive remote ambient.now
  else server.send remote .joinRequired

/-- Dispatch a control packet that has passed its limiter. -/
def dispatchCtrl : Option Cmd → Server
  | some .join => server.handleJoin sodium options remote packet ambient
  | some .serverStatusRequest => server.handleServerStatusRequest options remote packet ambient
  | some .roomCreateRequest => server.handleRoomCreateRequest sodium options remote packet ambient
  | some .roomJoinTokenRequest =>
    server.handleRoomJoinTokenRequest sodium options remote packet ambient
  | some .roomAdminRequest => server.handleRoomAdminRequest sodium remote packet ambient
  | some .roomChatSend => server.handleRoomChatSend remote packet ambient
  | some .roomChatHistoryRequest => server.handleRoomChatHistoryRequest remote packet ambient
  | some .roomKeyHandoffAck => server.handleRoomKeyHandoffAck remote packet ambient
  | some .leave => server.handleLeave remote ambient
  | some .alive => server.handleAlive remote ambient
  | some .metronomeSync => server.handleMetronomeSync remote packet ambient
  | _ => server

def handleCtrlMessage : Server :=
  if packet.length < ctrlHdrBytes then server
  else
    let type := (CtrlHdr.read packet).type
    let (allowed, asked) :=
      if type = some .serverStatusRequest then
        server.ask fun limiter => limiter.allowStatus remote ambient.now
      else if type = some .join then (true, server)
      else if server.clientManager.exists remote then
        server.ask fun limiter => limiter.allowControl remote ambient.now
      else server.ask fun limiter => limiter.allowRoomControl remote ambient.now
    if allowed = false then asked
    else asked.dispatchCtrl sodium options remote packet ambient type

/-- A datagram, cut to the receive buffer, dispatched by its magic number. -/
def onReceive (datagram : Octets) (ambient : Ambient) : Server :=
  let packet := datagram.take recvBufSize
  if packet.length < msgHdrBytes then server
  else if magicOf packet = pingMagic then server.handlePingMessage remote packet ambient
  else if magicOf packet = ctrlMagic then
    server.handleCtrlMessage sodium options remote packet ambient
  else if magicOf packet = secureControlMagic then
    server.handleSecureControlMessage remote packet ambient
  else if magicOf packet = secureAudioMagic then
    server.handleSecureAudioMessage remote packet ambient
  else if magicOf packet = e2eKeyEnvelopeMagic then
    server.handleE2eKeyEnvelope remote packet ambient
  else server

def aliveCheckTimerCallback : Server :=
  let (timedOutIds, manager) :=
    server.clientManager.removeTimedOutClients ambient.now clientTimeout
  (timedOutIds.foldl broadcastParticipantLeave
    { server with clientManager := manager }).cleanupEmptyRooms ambient.now

end Packets

/-- What the server reacts to, one event at a time. -/
inductive Input where
  | datagram (remote : Endpoint) (bytes : Octets) (ambient : Ambient)
  | aliveCheck (ambient : Ambient)

def Input.ambient : Input → Ambient
  | .datagram _ _ ambient => ambient
  | .aliveCheck ambient => ambient

def step (input : Input) : Server :=
  let ready := { server with outbox := [], mediaTasks := [] }
  match input with
  | .datagram remote bytes ambient => ready.onReceive sodium options remote bytes ambient
  | .aliveCheck ambient => ready.aliveCheckTimerCallback ambient

/-- The state after a finite sequence of events, starting from an empty server. -/
def run (inputs : List Input) : Server := Run.run (step sodium options) initial inputs

end Sesivo.Server
