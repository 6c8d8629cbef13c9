import Sesivo.Server.EndpointCache
import Sesivo.Server.Directory
import Sesivo.Server.Handlers

set_option autoImplicit false

/- What a piece of a handler may do to the server: move the directory by its own
steps, the client table by operations of the client manager, and add messages
to the outbox. The small state changes come first, one lemma each. -/

namespace Sesivo

open Relation JoinToken SessionCrypto

def ClientInfo.session (info : ClientInfo) : Session where
  roomId := info.roomId
  roomInstanceId := info.roomInstanceId
  accessEpoch := info.accessEpoch
  nonceKey :=
    if info.hasAuthenticatedSession = false ∨ info.tokenNonceKey = [] then none
    else some info.tokenNonceKey

def ClientManager.sessions (manager : ClientManager) (endpoint : Endpoint) : Option Session :=
  (manager.clients.lookup endpoint).map ClientInfo.session

/-- What an event with this ticket brings along. -/
def Ambient.moment (ambient : Ambient) (ticket : Option Claims) : Directory.Moment where
  nowMs := ambient.nowMs
  ticket := ticket
  instanceNonce := ambient.instanceNonce

/-- A copy of somebody's packet or chat message, as opposed to the server's own answers. -/
def ServerMessage.isRelay : ServerMessage → Bool
  | .relayed _ => true
  | .roomChatEvent _ => true
  | _ => false

namespace Server

def nonceView (nonces : Store Octets UsedTokenNonce) (key : Octets) : Option (Endpoint × Int) :=
  (nonces.lookup key).map fun used => (used.endpoint, used.expiresAtMs)

def view (server : Server) : Directory where
  sessions := server.clientManager.sessions
  rooms := server.roomRegistry.view
  nonces := nonceView server.usedTokenNonces

/-- The stores move by their own operations. -/
structure Evolves (moment : Directory.Moment) (before after : Server) : Prop where
  clients : ∃ operations : List ClientManager.Operation,
    (∀ operation ∈ operations, operation.Named) ∧
      after.clientManager = Run.run ClientManager.apply before.clientManager operations
  directory : ReflTransGen (Directory.Step moment) before.view after.view

/-- Nothing is relayed. -/
structure Hushed (before after : Server) : Prop where
  relays : ∀ entry ∈ after.outbox, entry.2.isRelay = true → entry ∈ before.outbox
  tasks : after.mediaTasks = before.mediaTasks

/-- The stores move by their own operations and nothing is relayed. -/
structure Silent (moment : Directory.Moment) (before after : Server) : Prop
    extends Evolves moment before after, Hushed before after

variable (sodium : Sodium)

/-- The ticket an event presents: that of a well-formed JOIN the server accepts. -/
def Input.ticket (options : ServerOptions) : Input → Option Claims
  | .datagram _ bytes ambient =>
    let packet := bytes.take recvBufSize
    if magicOf packet = ctrlMagic ∧ (CtrlHdr.read packet).type = some .join ∧
        joinHdrBytes ≤ packet.length then
      joinClaims sodium options (JoinHdr.read packet) ambient.nowMs
    else none
  | .aliveCheck _ => none

def Input.moment (options : ServerOptions) (input : Input) : Directory.Moment :=
  input.ambient.moment (input.ticket sodium options)

variable {moment : Directory.Moment}

theorem no_operations {before after : ClientManager} (same : after = before) :
    ∃ operations : List ClientManager.Operation,
      (∀ operation ∈ operations, operation.Named) ∧
        after = Run.run ClientManager.apply before operations :=
  ⟨[], by simp, same⟩

variable (server : Server) (remote endpoint : Endpoint) (now : Time) (packet : Octets)
variable (ambient : Ambient) {first second third : Server} (endpoints : List Endpoint)
variable (message : ServerMessage) {before after : Server} (registry : RoomRegistry)

theorem Evolves.refl : Evolves moment server server :=
  ⟨no_operations rfl, .refl⟩

theorem Evolves.trans (earlier : Evolves moment first second)
    (later : Evolves moment second third) : Evolves moment first third := by
  obtain ⟨operations, named, reached⟩ := earlier.clients
  obtain ⟨more, alsoNamed, further⟩ := later.clients
  refine ⟨⟨operations ++ more, List.forall_mem_append.mpr ⟨named, alsoNamed⟩, ?_⟩,
    earlier.directory.trans later.directory⟩
  rw [further, reached, Run.run_append]

theorem Hushed.of_outbox (outbox : after.outbox = before.outbox)
    (tasks : after.mediaTasks = before.mediaTasks) : Hushed before after :=
  ⟨fun _ member _ => outbox ▸ member, tasks⟩

theorem Hushed.trans (earlier : Hushed first second)
    (later : Hushed second third) : Hushed first third := by
  refine ⟨?_, later.tasks.trans earlier.tasks⟩
  intro entry member relay
  exact earlier.relays entry (later.relays entry member relay) relay

theorem Silent.refl : Silent moment server server :=
  ⟨.refl server, .of_outbox rfl rfl⟩

theorem Silent.trans (earlier : Silent moment first second)
    (later : Silent moment second third) : Silent moment first third :=
  ⟨earlier.toEvolves.trans later.toEvolves, earlier.toHushed.trans later.toHushed⟩

theorem foldl_silent {α : Type} (handle : Server → α → Server)
    (silent : ∀ server item, Silent moment server (handle server item)) (server : Server)
    (items : List α) : Silent moment server (items.foldl handle server) := by
  induction items generalizing server with
  | nil => exact .refl server
  | cons item items ih => exact (silent server item).trans (ih (handle server item))

/-- Changes of the limiter, the unknown endpoints and the metronome counter. -/
theorem Silent.of_same (clients : after.clientManager = before.clientManager)
    (rooms : after.roomRegistry.view = before.roomRegistry.view)
    (nonces : after.usedTokenNonces = before.usedTokenNonces)
    (outbox : after.outbox = before.outbox) (tasks : after.mediaTasks = before.mediaTasks) :
    Silent moment before after := by
  have same : after.view = before.view := by simp only [view, clients, rooms, nonces]
  refine ⟨⟨no_operations clients, ?_⟩, .of_outbox outbox tasks⟩
  rw [same]

theorem sendAll_hushed
    (own : message.isRelay = false) : Hushed server (server.sendAll endpoints message) := by
  refine ⟨?_, rfl⟩
  intro entry member relay
  rcases List.mem_append.mp member with old | new
  · exact old
  obtain ⟨endpoint, -, rfl⟩ := List.mem_map.mp new
  rw [own] at relay
  cases relay

theorem sendAll_silent
    (own : message.isRelay = false) : Silent moment server (server.sendAll endpoints message) :=
  ⟨⟨no_operations rfl, .refl⟩, sendAll_hushed server endpoints message own⟩

theorem send_silent
    (own : message.isRelay = false) : Silent moment server (server.send endpoint message) :=
  sendAll_silent server [endpoint] message own

theorem ask_silent {server asked : Server} {question : RateLimiter → Bool × RateLimiter}
    {allowed : Bool} (answer : server.ask question = (allowed, asked)) :
    Silent moment server asked := by
  obtain rfl := (Prod.mk.inj answer).2
  exact .of_same rfl rfl rfl rfl rfl

theorem noteStrict_silent : Silent moment server (server.noteStrict remote now) :=
  .of_same rfl rfl rfl rfl rfl

/-- One operation of the client manager that leaves every session in place. -/
theorem Silent.of_operation (operation : ClientManager.Operation) (named : operation.Named)
    (same : (server.clientManager.apply operation).sessions = server.clientManager.sessions) :
    Silent moment server
      { server with clientManager := server.clientManager.apply operation } := by
  refine ⟨⟨⟨[operation], ?_, rfl⟩, ?_⟩, .of_outbox rfl rfl⟩
  · intro other member
    rw [List.mem_singleton.mp member]
    exact named
  · simp only [view, same]
    exact .refl

theorem updateAlive_silent : Silent moment server (server.updateAlive endpoint now) := by
  refine Silent.of_operation server (.updateAlive endpoint now) trivial ?_
  funext other
  exact Store.lookup_adjust_map server.clientManager.clients endpoint other _ ClientInfo.session
    fun _ => rfl

theorem cachedRoomEndpoints_silent {server read : Server} {member : Endpoint}
    {endpoints : List Endpoint} (answer : server.cachedRoomEndpoints member = (endpoints, read)) :
    Silent moment server read := by
  obtain rfl := (Prod.mk.inj answer).2
  refine Silent.of_operation server (.readCache member) trivial ?_
  funext other
  simp [ClientManager.sessions, ClientManager.apply]

theorem broadcastParticipantLeave_silent (participantId : UInt32) :
    Silent moment server (server.broadcastParticipantLeave participantId) :=
  sendAll_silent server _ _ rfl

theorem roomCounts_ne_zero (manager : ClientManager) (endpoint : Endpoint) (info : ClientInfo)
    (found : manager.clients.lookup endpoint = some info) :
    manager.roomCounts info.roomId ≠ 0 := by
  have member := (manager.mem_getRoomClients info.roomId endpoint info).mpr ⟨found, rfl⟩
  exact Nat.ne_of_gt (List.length_pos_of_mem member)

theorem cleanupEmptyRooms_silent : Silent moment server (server.cleanupEmptyRooms now) := by
  refine ⟨⟨no_operations rfl, ?_⟩, .of_outbox rfl rfl⟩
  refine .single ?_
  simp only [view, cleanupEmptyRooms, RoomRegistry.removeEmptyRooms_view]
  refine Directory.Step.sweep server.view
    (server.roomRegistry.sweepKeeps server.clientManager.roomCounts now) ?_
  intro endpoint session found
  obtain ⟨info, held, rfl⟩ := Option.map_eq_some_iff.mp found
  exact RoomRegistry.sweepKeeps_occupied _ _ now info.roomId
    (roomCounts_ne_zero server.clientManager endpoint info held)

/-- A registry whose view takes one step other than a rotation or a closing. -/
theorem Silent.of_registry (steps : ReflTransGen (Directory.Step moment) server.view
      { server.view with rooms := registry.view }) :
    Silent moment server { server with roomRegistry := registry } :=
  ⟨⟨no_operations rfl, steps⟩, .of_outbox rfl rfl⟩

theorem Silent.of_sameRooms (same : registry.view = server.roomRegistry.view) :
    Silent moment server { server with roomRegistry := registry } :=
  .of_same rfl same rfl rfl rfl

theorem cleanupUnknownEndpoints_silent :
    Silent moment server (server.cleanupUnknownEndpoints now) :=
  .of_same rfl rfl rfl rfl rfl

theorem recordUnknownAudioDrop_silent :
    Silent moment server (server.recordUnknownAudioDrop remote now) := by
  refine (cleanupUnknownEndpoints_silent server now).trans ?_
  unfold recordUnknownAudioDrop
  simp only
  split
  next => exact .refl _
  split
  · refine Silent.trans ?_ (send_silent _ remote .joinRequired rfl)
    exact .of_same rfl rfl rfl rfl rfl
  · exact .of_same rfl rfl rfl rfl rfl

theorem dropUnknown_silent : Silent moment server (server.dropUnknown remote now) := by
  unfold dropUnknown
  split
  next allowed asked answer =>
    refine (ask_silent answer).trans ?_
    split
    · exact recordUnknownAudioDrop_silent asked remote now
    · exact .refl asked

theorem handlePingMessage_silent :
    Silent moment server (server.handlePingMessage remote packet ambient) := by
  unfold handlePingMessage
  split
  · exact .refl server
  split
  next allowed asked answer =>
    refine (ask_silent answer).trans ?_
    split
    · exact .refl asked
    · exact (updateAlive_silent asked remote ambient.now).trans (send_silent _ remote _ rfl)

theorem handleServerStatusRequest_silent (options : ServerOptions) (server : Server)
    (remote : Endpoint) (packet : Octets) (ambient : Ambient) :
    Silent moment server (server.handleServerStatusRequest options remote packet ambient) := by
  unfold handleServerStatusRequest
  split
  · exact .refl server
  · exact (cleanupEmptyRooms_silent server ambient.now).trans (send_silent _ remote _ rfl)

theorem handleRoomChatHistoryRequest_silent :
    Silent moment server (server.handleRoomChatHistoryRequest remote packet ambient) := by
  unfold handleRoomChatHistoryRequest
  split
  · exact send_silent server remote _ rfl
  simp only
  split
  next => exact send_silent server remote _ rfl
  split
  · exact send_silent server remote _ rfl
  have same := server.roomRegistry.chatHistorySince_view
    (fixedString (RoomChatHistoryRequestHdr.read packet).roomId)
    (fixedString (RoomChatHistoryRequestHdr.read packet).roomInstanceId)
    (RoomChatHistoryRequestHdr.read packet).accessEpoch
    (RoomChatHistoryRequestHdr.read packet).afterSequence ambient.now
  split
  next status reason registry answer =>
    rw [answer] at same
    exact (Silent.of_sameRooms server registry same).trans (send_silent _ remote _ rfl)
  rename_i truncated messages registry answer
  rw [answer] at same
  refine (Silent.of_sameRooms server registry same).trans ?_
  refine (updateAlive_silent _ remote ambient.now).trans ?_
  refine Silent.trans (foldl_silent _ ?_ _ messages) (send_silent _ remote _ rfl)
  exact fun current message => send_silent current remote _ rfl

theorem handleMetronomeSync_silent :
    Silent moment server (server.handleMetronomeSync remote packet ambient) := by
  unfold handleMetronomeSync
  split
  · exact .refl server
  split
  · exact send_silent server remote _ rfl
  refine (updateAlive_silent server remote ambient.now).trans ?_
  refine Silent.trans ?_ (sendAll_silent _ _ _ rfl)
  refine Silent.trans ?_ (cachedRoomEndpoints_silent Prod.mk.eta.symm)
  exact .of_same rfl rfl rfl rfl rfl

theorem handleAlive_silent : Silent moment server (server.handleAlive remote ambient) := by
  unfold handleAlive
  split
  · exact updateAlive_silent server remote ambient.now
  · exact send_silent server remote _ rfl

end Server

end Sesivo
