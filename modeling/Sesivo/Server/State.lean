import Sesivo.Server.ClientManager
import Sesivo.Server.RoomRegistry
import Sesivo.Server.RateLimiter
import Sesivo.SessionCrypto

set_option autoImplicit false

/- The state of the relay server, the messages it sends, and the small state
changes its handlers are made of. Sent messages collect in an outbox that each
received datagram or timer tick starts empty. -/

namespace Sesivo

structure ParticipantInfo where
  participantId : UInt32
  profileId : Octets
  displayName : Octets
  capabilities : UInt32
  keyPublic : Octets
deriving DecidableEq

structure RoomSummary where
  roomId : Octets
  roomName : Octets
  roomInstanceId : Octets
  accessEpoch : UInt32
  participantCount : Nat
  flags : UInt8
  accessMode : UInt8
deriving DecidableEq

structure ServerStatusResponse where
  requestId : UInt32
  serverId : Octets
  totalRooms : Nat
  activeParticipants : Nat
  roomOffset : Nat
  truncated : Bool
  tokenAuthAvailable : Bool
  rooms : List RoomSummary
deriving DecidableEq

/-- The answer to a room creation or to a ticket request; only the former fills
in an admin token. -/
structure RoomTicketResponse where
  requestId : UInt32
  status : UInt8 := roomStatusOk
  flags : UInt8 := 0
  accessMode : UInt8 := roomAccessOpen
  accessEpoch : UInt32 := 0
  roomId : Octets := []
  roomName : Octets := []
  roomInstanceId : Octets := []
  adminToken : Octets := []
  joinToken : Octets := []
  reason : String := ""
deriving DecidableEq

structure RoomAdminResponse where
  requestId : UInt32
  status : UInt8 := roomStatusOk
  flags : UInt8 := 0
  accessMode : UInt8 := roomAccessOpen
  accessEpoch : UInt32 := 0
  targetParticipantId : UInt32
  roomId : Octets
  reason : String := ""
deriving DecidableEq

structure RoomChatEvent where
  participantId : UInt32
  requestId : UInt32
  accessEpoch : UInt32
  chatSequence : UInt64
  serverTimeMs : Int
  ciphertextBytes : UInt16
  roomId : Octets
  roomInstanceId : Octets
  nonce : Octets
  ciphertext : Octets
deriving DecidableEq

structure RoomChatHistoryDone where
  requestId : UInt32
  status : UInt8
  flags : UInt8
  accessEpoch : UInt32
  roomId : Octets
  roomInstanceId : Octets
deriving DecidableEq

/-- What the server puts on the socket. A relayed packet is a copy of received bytes. -/
inductive ServerMessage where
  | syncReply (reply : SyncHdr)
  | serverStatus (response : ServerStatusResponse)
  | roomCreated (response : RoomTicketResponse)
  | roomJoinToken (response : RoomTicketResponse)
  | roomAdmin (response : RoomAdminResponse)
  | roomChatEvent (event : RoomChatEvent)
  | roomChatRejected (requestId : UInt32) (nonce : Octets) (status : UInt8) (reason : String)
  | roomChatHistory (requestId : UInt32) (message : ChatMessage)
  | roomChatHistoryDone (response : RoomChatHistoryDone)
  | joinAck (participantId capabilities : UInt32)
  | joinDenied (reason : UInt8)
  | joinRequired
  | roomRemoved (participantId : UInt32)
  | participantLeave (participantId : UInt32)
  | participantInfo (info : ParticipantInfo)
  | metronomeSync (sync : MetronomeSyncHdr)
  | relayed (packet : Octets)
deriving DecidableEq

/-- One worker's share of the fan-out of an audio packet. -/
structure MediaTask where
  packet : Octets
  endpoints : List Endpoint
  sender : Endpoint
deriving DecidableEq

def mediaWorkerCount : Nat := 4

/-- The endpoints the worker's loop sends the task's packet to: every
`mediaWorkerCount`-th entry from its own index on, except the sender. -/
def MediaTask.targets (task : MediaTask) (worker : Nat) : List Endpoint :=
  (task.endpoints.zipIdx.filter fun entry =>
    entry.2 % mediaWorkerCount = worker && entry.1 ≠ task.sender).map Prod.fst

structure UnknownEndpointInfo where
  firstSeen : Time
  lastSeen : Time
  lastJoinRequiredSent : Time

structure UsedTokenNonce where
  endpoint : Endpoint
  expiresAtMs : Int
  roomId : Octets
  profileId : Octets
deriving DecidableEq

structure ServerOptions where
  joinSecret : Octets
  serverId : Octets

structure Server where
  clientManager : ClientManager
  roomRegistry : RoomRegistry
  usedTokenNonces : Store Octets UsedTokenNonce
  rateLimiter : RateLimiter
  unknownEndpoints : Store Endpoint UnknownEndpointInfo
  metronomeSequence : UInt32
  outbox : List (Endpoint × ServerMessage)
  mediaTasks : List (Nat × MediaTask)

/-- What the environment supplies while one datagram or tick is handled: clock
readings, random draws, and the room left in the fan-out pool and worker queues. -/
structure Ambient where
  now : Time
  nowMs : Int
  instanceNonce : Octets
  adminToken : Octets
  ticketNonce : Octets
  bufferFree : Bool
  queueAccepts : Nat → Bool

namespace Server

def initial : Server where
  clientManager := .initial
  roomRegistry := .initial
  usedTokenNonces := ∅
  rateLimiter := {}
  unknownEndpoints := ∅
  metronomeSequence := 0
  outbox := []
  mediaTasks := []

variable (server : Server) (endpoint : Endpoint)

def send (message : ServerMessage) : Server :=
  { server with outbox := server.outbox ++ [(endpoint, message)] }

def sendAll (endpoints : List Endpoint) (message : ServerMessage) : Server :=
  { server with outbox := server.outbox ++ endpoints.map fun endpoint => (endpoint, message) }

/-- Ask the limiter; the answer comes with the server that has been charged. -/
def ask (question : RateLimiter → Bool × RateLimiter) : Bool × Server :=
  ((question server.rateLimiter).1, { server with rateLimiter := (question server.rateLimiter).2 })

/-- The members of the endpoint's room as the cache has them. -/
def cachedRoomEndpoints (member : Endpoint) : List Endpoint × Server :=
  ((server.clientManager.getCachedRoomEndpoints member).1,
    { server with clientManager := (server.clientManager.getCachedRoomEndpoints member).2 })

def updateAlive (now : Time) : Server :=
  { server with clientManager := server.clientManager.updateAlive endpoint now }

def cleanupEmptyRooms (now : Time) : Server :=
  { server with
    roomRegistry := server.roomRegistry.removeEmptyRooms server.clientManager.roomCounts now }

def broadcastParticipantLeave (participantId : UInt32) : Server :=
  server.sendAll server.clientManager.getAllEndpoints (.participantLeave participantId)

def releaseTokenNonceForClient (client : ClientInfo) : Server :=
  if client.hasAuthenticatedSession = false ∨ client.tokenNonceKey = [] then server
  else
    { server with usedTokenNonces := server.usedTokenNonces.erase client.tokenNonceKey }

def cleanupUsedTokenNonces (nowMs : Int) : Server :=
  { server with
    usedTokenNonces := server.usedTokenNonces.keep fun _ used => !(used.expiresAtMs < nowMs) }

/-- Claim the ticket's nonce for the endpoint, unless a registered endpoint holds it. -/
def reserveTokenNonce (claims : JoinToken.Claims) (endpoint : Endpoint)
    (nowMs : Int) : Bool × Server :=
  let cleaned := server.cleanupUsedTokenNonces nowMs
  let nonceKey := SessionCrypto.nonceReplayKey claims
  let reserved : Server :=
    { cleaned with
      usedTokenNonces := cleaned.usedTokenNonces.insert nonceKey
        { endpoint := endpoint
          expiresAtMs := claims.expiresAtMs
          roomId := claims.roomId
          profileId := claims.profileId } }
  match cleaned.usedTokenNonces.lookup nonceKey with
  | some used =>
    if used.endpoint ≠ endpoint ∧ cleaned.clientManager.exists used.endpoint = true then
      (false, cleaned)
    else (true, reserved)
  | none => (true, reserved)

end Server

end Sesivo
