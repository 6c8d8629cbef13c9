import Sesivo.Lib.Store
import Sesivo.Lib.Run
import Sesivo.Protocol

set_option autoImplicit false

/- The server's table of registered endpoints with its memo of room endpoint
lists, `client_manager.h`. -/

namespace Sesivo

structure ClientInfo where
  lastAlive : Time
  joinedAt : Time
  clientId : UInt32
  roomId : Octets
  roomInstanceId : Octets
  accessEpoch : UInt32
  profileId : Octets
  displayName : Octets
  capabilities : UInt32
  keyPublic : Octets
  joinedWithMetadata : Bool
  hasAuthenticatedSession : Bool
  tokenNonceKey : Octets
deriving DecidableEq

structure ClientManager where
  clients : Store Endpoint ClientInfo
  roomEndpointCache : Store Octets (List Endpoint)
  nextClientId : UInt32

structure RegistrationResult where
  clientId : UInt32 := 0
  removedClientIds : List UInt32 := []
  rejectedRoomFull : Bool := false
deriving DecidableEq

/-- What a caller of `register_client` supplies besides the endpoint and the time. -/
structure Registration where
  roomId : Octets
  roomInstanceId : Octets
  accessEpoch : UInt32
  profileId : Octets
  displayName : Octets
  capabilities : UInt32
  keyPublic : Octets
  security : Option Octets

namespace ClientManager

def initial : ClientManager where
  clients := ∅
  roomEndpointCache := ∅
  nextClientId := 1

variable (manager : ClientManager) (endpoint : Endpoint)

def «exists» : Bool :=
  (manager.clients.lookup endpoint).isSome

def getClientInfo : Option ClientInfo :=
  manager.clients.lookup endpoint

/-- Zero stands for an unregistered endpoint. -/
def getClientId : UInt32 :=
  match manager.clients.lookup endpoint with
  | some info => info.clientId
  | none => 0

def getClientCapabilities : UInt32 :=
  match manager.clients.lookup endpoint with
  | some info => info.capabilities
  | none => 0

def hasAuthenticatedSession : Bool :=
  match manager.clients.lookup endpoint with
  | some info => info.hasAuthenticatedSession
  | none => false

def count : Nat := manager.clients.pairs.length

def getAllEndpoints : List Endpoint :=
  manager.clients.pairs.map Prod.fst

variable (roomId : Octets)

def getRoomClients : List (Endpoint × ClientInfo) :=
  manager.clients.pairs.filter fun entry => entry.2.roomId = roomId

/-- The counter map of `room_counts`, with zero for the rooms it has no entry for. -/
def roomCounts : Nat :=
  (manager.getRoomClients roomId).length

def getRoomClientsExcept (exclude : Endpoint) : List (Endpoint × ClientInfo) :=
  match manager.clients.lookup exclude with
  | none => []
  | some sender => (manager.getRoomClients sender.roomId).filter fun entry => entry.1 ≠ exclude

def getRoomEndpointByClientId (sender : Endpoint) (targetClientId : UInt32) : Option Endpoint :=
  match manager.clients.lookup sender with
  | none => none
  | some info =>
    ((manager.getRoomClients info.roomId).find? fun entry =>
      entry.2.clientId = targetClientId).map Prod.fst

def invalidateRoomEndpointCache : ClientManager :=
  if roomId = [] then manager
  else { manager with roomEndpointCache := manager.roomEndpointCache.erase roomId }

/-- The cached endpoint list of the member's room, filling the cache on a miss. -/
def getCachedRoomEndpoints (member : Endpoint) : List Endpoint × ClientManager :=
  match manager.clients.lookup member with
  | none => ([], manager)
  | some info =>
    match manager.roomEndpointCache.lookup info.roomId with
    | some cached => (cached, manager)
    | none =>
      let endpoints := (manager.getRoomClients info.roomId).map Prod.fst
      (endpoints, { manager with
        roomEndpointCache := manager.roomEndpointCache.insert info.roomId endpoints })

variable (client : ClientInfo)

def applySecurity : Option Octets → ClientInfo
  | none => { client with hasAuthenticatedSession := false, tokenNonceKey := [] }
  | some nonceKey => { client with hasAuthenticatedSession := true, tokenNonceKey := nonceKey }

variable (request : Registration)

/-- An entry that keeps its client id when its endpoint registers again. -/
def canReuse : Bool :=
  client.roomId = request.roomId && client.roomInstanceId = request.roomInstanceId &&
    client.profileId = request.profileId

variable (now : Time)

def refreshedClient (request : Registration) : ClientInfo :=
  applySecurity
    { client with
      lastAlive := now
      accessEpoch := request.accessEpoch
      displayName := request.displayName
      capabilities := request.capabilities
      keyPublic := request.keyPublic
      joinedWithMetadata := true }
    request.security

def newClient (clientId : UInt32) (now : Time) (request : Registration) : ClientInfo :=
  applySecurity
    { lastAlive := now
      joinedAt := now
      clientId := clientId
      roomId := request.roomId
      roomInstanceId := request.roomInstanceId
      accessEpoch := request.accessEpoch
      profileId := request.profileId
      displayName := request.displayName
      capabilities := request.capabilities
      keyPublic := request.keyPublic
      joinedWithMetadata := true
      hasAuthenticatedSession := false
      tokenNonceKey := [] }
    request.security

/-- Another endpoint's entry with the same room and profile, which a registration evicts. -/
def isDuplicate (other : Endpoint)
    (info : ClientInfo) : Bool :=
  other ≠ endpoint && info.roomId = request.roomId && info.profileId = request.profileId

/-- Store `client` at `endpoint`, evict its duplicates and drop both rooms' cached lists. -/
def place
    (client : ClientInfo) (replaced : List UInt32) (previousRoomId : Octets)
    (nextClientId : UInt32) : RegistrationResult × ClientManager :=
  let stored := manager.clients.insert endpoint client
  let evicted := stored.pairs.filter fun entry => isDuplicate endpoint request entry.1 entry.2
  let placed : ClientManager :=
    { manager with
      clients := stored.keep fun other info => !isDuplicate endpoint request other info
      nextClientId := nextClientId }
  ({ clientId := client.clientId
     removedClientIds := replaced ++ evicted.map fun entry => entry.2.clientId },
    (placed.invalidateRoomEndpointCache previousRoomId).invalidateRoomEndpointCache
      request.roomId)

def registerClient
    (request : Registration) : RegistrationResult × ClientManager :=
  match manager.clients.lookup endpoint with
  | some existing =>
    if canReuse existing request then
      manager.place endpoint request (refreshedClient existing now request) []
        existing.roomId manager.nextClientId
    else if maxRoomParticipants ≤ manager.roomCounts request.roomId ∧
        existing.roomId ≠ request.roomId then
      ({ rejectedRoomFull := true }, manager)
    else
      manager.place endpoint request (newClient manager.nextClientId now request)
        [existing.clientId] existing.roomId (manager.nextClientId + 1)
  | none =>
    if maxRoomParticipants ≤ manager.roomCounts request.roomId then
      ({ rejectedRoomFull := true }, manager)
    else
      manager.place endpoint request (newClient manager.nextClientId now request) [] []
        (manager.nextClientId + 1)

def updateAlive : ClientManager :=
  { manager with
    clients := manager.clients.adjust endpoint fun info => { info with lastAlive := now } }

def removeClientWithInfo : Option ClientInfo × ClientManager :=
  match manager.clients.lookup endpoint with
  | none => (none, manager)
  | some info =>
    (some info, { manager with
      clients := manager.clients.erase endpoint }.invalidateRoomEndpointCache info.roomId)

def removeRoomClientWithInfo (clientId : UInt32) :
    Option (Endpoint × ClientInfo) × ClientManager :=
  match manager.clients.pairs.find? fun entry =>
      entry.2.roomId = roomId && entry.2.clientId = clientId with
  | none => (none, manager)
  | some removed =>
    (some removed, { manager with
      clients := manager.clients.erase removed.1 }.invalidateRoomEndpointCache roomId)

def removeRoomClientsWithInfo : List (Endpoint × ClientInfo) × ClientManager :=
  let removed := manager.getRoomClients roomId
  let remaining : ClientManager :=
    { manager with clients := manager.clients.keep fun _ info => info.roomId ≠ roomId }
  (removed, if removed = [] then remaining else remaining.invalidateRoomEndpointCache roomId)

def setRoomAccessEpoch (roomId roomInstanceId : Octets) (accessEpoch : UInt32) : ClientManager :=
  { manager with
    clients := manager.clients.mapValues fun _ info =>
      if info.roomId = roomId ∧ info.roomInstanceId = roomInstanceId then
        { info with accessEpoch := accessEpoch }
      else info }

def timedOut (now timeout : Time) (info : ClientInfo) : Bool :=
  timeout < now - info.lastAlive

def removeTimedOutClients (now timeout : Time) : List UInt32 × ClientManager :=
  let removed := manager.clients.pairs.filter fun entry => timedOut now timeout entry.2
  let remaining : ClientManager :=
    { manager with clients := manager.clients.keep fun _ info => !timedOut now timeout info }
  (removed.map fun entry => entry.2.clientId,
    removed.foldl (fun current entry => current.invalidateRoomEndpointCache entry.2.roomId)
      remaining)

end ClientManager

end Sesivo
