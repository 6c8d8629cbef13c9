import Sesivo.Client.KeyChange
import Sesivo.Server.History

set_option autoImplicit false

/- One server, any number of clients, and a network that may lose, repeat, delay
and reorder what the server sends. What reaches the server is arbitrary, so a
participant may send it anything at all. -/

namespace Sesivo

open Octets JoinToken SessionCrypto

/-- The datagram of a message, for those that change the state of a client;
the other kinds are answers and chat the client model leaves out. -/
def ServerMessage.bytes : ServerMessage → Option Octets
  | .joinAck participantId capabilities =>
    some (ctrlDatagram 8 participantId ++ u32Bytes capabilities)
  | .joinDenied reason => some (ctrlDatagram 25 0 ++ [reason])
  | .joinRequired => some (ctrlDatagram 9 0)
  | .roomRemoved participantId => some (ctrlDatagram 19 participantId)
  | .participantLeave participantId => some (ctrlDatagram 4 participantId)
  | .participantInfo info =>
    some (ctrlDatagram 6 info.participantId ++ padded 64 info.profileId ++
      padded 64 info.displayName ++ u32Bytes info.capabilities ++
      padded e2ePublicKeyBytes info.keyPublic)
  | .relayed packet => some packet
  | _ => none

namespace Server

/-- Everything an event makes the server send, the copies of its media workers included. -/
def emissions (server : Server) : List (Endpoint × ServerMessage) :=
  server.outbox ++ server.mediaTasks.flatMap fun entry =>
    (entry.2.targets entry.1).map fun endpoint => (endpoint, .relayed entry.2.packet)

/-- The room, and its instance, that an endpoint is registered in. -/
def roomInstanceOf (server : Server) (endpoint : Endpoint) : Option (Octets × Octets) :=
  (server.standing endpoint).bind fun registered =>
    (server.rooms registered.1).map fun room => (registered.1, room.roomInstanceId)

def Input.remote : Input → Option Endpoint
  | .datagram remote _ _ => some remote
  | .aliveCheck _ => none

/-- The rooms and what tickets for them name. -/
def roomList (server : Server) : List (Octets × RoomView) :=
  server.roomRegistry.rooms.pairs.map fun entry => (entry.1, entry.2.view)

theorem mem_roomList (server : Server) (roomId : Octets) (room : RoomView) :
    (roomId, room) ∈ server.roomList ↔ server.rooms roomId = some room := by
  simp only [roomList, rooms, RoomRegistry.view, List.mem_map, Option.map_eq_some_iff,
    Prod.mk.injEq, Prod.exists, ← Store.mem_pairs]
  constructor
  · rintro ⟨other, stored, member, rfl, rfl⟩
    exact ⟨stored, member, rfl⟩
  · rintro ⟨stored, member, rfl⟩
    exact ⟨roomId, stored, member, rfl, rfl⟩

end Server

/-- A datagram that is not relayed is a control message of one of six types. -/
theorem ServerMessage.bytes_cases {message : ServerMessage} {bytes : Octets}
    (encoded : message.bytes = some bytes) :
    message = .relayed bytes ∨ ∃ type ∈ ([4, 6, 8, 9, 19, 25] : List UInt8), ∃ participantId rest,
      bytes = ctrlDatagram type participantId ++ rest := by
  cases message with
  | relayed packet => exact .inl (congrArg ServerMessage.relayed (Option.some.inj encoded))
  | joinAck participantId capabilities =>
    exact .inr ⟨8, by decide, participantId, _, (Option.some.inj encoded).symm⟩
  | joinDenied reason => exact .inr ⟨25, by decide, 0, _, (Option.some.inj encoded).symm⟩
  | joinRequired =>
    exact .inr ⟨9, by decide, 0, [], (Option.some.inj encoded).symm.trans (List.append_nil _).symm⟩
  | roomRemoved participantId =>
    exact .inr ⟨19, by decide, participantId, [],
      (Option.some.inj encoded).symm.trans (List.append_nil _).symm⟩
  | participantLeave participantId =>
    exact .inr ⟨4, by decide, participantId, [],
      (Option.some.inj encoded).symm.trans (List.append_nil _).symm⟩
  | participantInfo info =>
    refine .inr ⟨6, by decide, info.participantId, padded 64 info.profileId ++
      (padded 64 info.displayName ++ (u32Bytes info.capabilities ++
        padded e2ePublicKeyBytes info.keyPublic)), ?_⟩
    rw [← Option.some.inj encoded]
    simp
  | syncReply | serverStatus | roomCreated | roomJoinToken | roomAdmin | roomChatEvent
  | roomChatRejected | roomChatHistory | roomChatHistoryDone | metronomeSync => cases encoded

/-- A datagram on its way to an endpoint, with the room instance of the participant
whose packet it is a copy of. -/
structure Delivery where
  endpoint : Endpoint
  bytes : Octets
  origin : Option (Octets × Octets)

/-- A client and the endpoint its socket is bound to. -/
structure Host where
  endpoint : Endpoint
  client : Client

/-- Sent datagrams stay deliverable for ever. The instance ids drawn and the rooms
seen so far are recorded beside the state. -/
structure World where
  server : Server
  hosts : Nat → Host
  sent : List Delivery
  drawn : List Octets
  seen : List (Octets × RoomView)

inductive WorldEvent where
  | serve (input : Server.Input)
  /-- The host gets the datagram sent at that position, if it is for its endpoint. -/
  | deliver (index position : Nat) (ambient : ClientAmbient)
  | act (index : Nat) (ambient : ClientAmbient) (action : ClientAction)
  /-- The host's socket is bound to another local port. -/
  | move (index : Nat) (endpoint : Endpoint)

namespace World

def initial (hosts : Nat → Endpoint × Option (Octets × Octets)) : World where
  server := .initial
  hosts := fun index => ⟨(hosts index).1, Client.initial {} (hosts index).2⟩
  sent := []
  drawn := []
  seen := []

def client (world : World) (index : Nat) : Client := (world.hosts index).client

variable (sodium : Sodium) (options : ServerOptions)

/-- Let the host's client handle an event. -/
def advance (world : World) (index : Nat) (event : ClientAmbient × ClientEvent) : World :=
  { world with
    hosts := Function.update world.hosts index
      { world.hosts index with client := (world.client index).step sodium event } }

/-- What the server has put on the network while handling the input. -/
def deliveries (server : Server) (input : Server.Input) : List Delivery :=
  server.emissions.filterMap fun entry =>
    entry.2.bytes.map fun bytes =>
      { endpoint := entry.1
        bytes := bytes
        origin := input.remote.bind server.roomInstanceOf }

def step (world : World) : WorldEvent → World
  | .serve input =>
    let server := world.server.step sodium options input
    { world with
      server := server
      sent := world.sent ++ deliveries server input
      drawn := world.drawn ++ [input.ambient.instanceNonce]
      seen := world.seen ++ server.roomList }
  | .deliver index position ambient =>
    match world.sent[position]? with
    | none => world
    | some delivery =>
      if delivery.endpoint = (world.hosts index).endpoint then
        world.advance sodium index (ambient, .receive delivery.bytes)
      else world
  | .act index ambient action => world.advance sodium index (ambient, .act action)
  | .move index endpoint =>
    { world with
      hosts := Function.update world.hosts index
        { world.hosts index with endpoint := endpoint } }

theorem advance_client (world : World) (index : Nat) (event : ClientAmbient × ClientEvent)
    (other : Nat) :
    (world.advance sodium index event).client other =
      if other = index then (world.client index).step sodium event else world.client other := by
  simp only [advance, client, Function.update_apply]
  split <;> rfl

theorem move_client (world : World) (index : Nat) (endpoint : Endpoint) (other : Nat) :
    (world.step sodium options (.move index endpoint)).client other = world.client other := by
  simp only [step, client, Function.update_apply]
  split
  next found => rw [found]
  · rfl

/-- The claims of a ticket as the client reads them. -/
def readTicket (joinToken : Octets) : Option Claims :=
  (parseUnverified joinToken).toOption.map Prod.fst

/-- What a ticket says was so when the server issued it. -/
def Issued (world : World) (joinToken : Octets) : Prop :=
  ∀ claims ∈ readTicket joinToken,
    (claims.roomId, ⟨claims.roomInstanceId, claims.accessEpoch, claims.mediaKeyCommitment⟩) ∈
      world.seen

/-- The server had the secret's commitment at that epoch of the client's room. -/
def Accepted (world : World) (index : Nat) (mediaSecret : Octets) (accessEpoch : UInt32) : Prop :=
  ∀ claims ∈ readTicket (world.client index).joinSession.options.joinToken,
    ∀ commitment ∈ mediaKeyCommitment sodium mediaSecret,
      (claims.roomId, ⟨claims.roomInstanceId, accessEpoch, commitment⟩) ∈ world.seen

end World

end Sesivo
