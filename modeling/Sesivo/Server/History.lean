import Sesivo.Server.Relay
import Sesivo.Server.Revocation

set_option autoImplicit false

/- What one event can do to each room of the directory. A room moves by at most
one epoch at a time, so that its past is never overtaken. -/

namespace Sesivo

open Option

/-- A room stays, goes, is created under the drawn instance id, or reaches its next epoch. -/
inductive RoomChange (instanceNonce : Octets) (before : Option RoomView) :
    Option RoomView → Prop where
  | same : RoomChange instanceNonce before before
  | gone : RoomChange instanceNonce before none
  | created (commitment : Octets) :
      RoomChange instanceNonce before (some ⟨instanceNonce, 1, commitment⟩)
  | rotated (old : RoomView) (commitment : Octets) (present : before = some old) :
      RoomChange instanceNonce before
        (some ⟨old.roomInstanceId, old.accessEpoch + 1, commitment⟩)

def RoomsChange (instanceNonce : Octets) (before after : Rooms) : Prop :=
  ∀ roomId, RoomChange instanceNonce (before roomId) (after roomId)

/-- Rooms at most disappear. -/
def Thins (before after : Rooms) : Prop :=
  ∀ roomId, after roomId = before roomId ∨ after roomId = none

theorem Thins.of_eq {before after : Rooms} (same : after = before) : Thins before after :=
  fun roomId => .inl (congrFun same roomId)

theorem Thins.trans {first second third : Rooms} (earlier : Thins first second)
    (later : Thins second third) : Thins first third := by
  intro roomId
  rcases later roomId with same | gone
  · rw [same]
    exact earlier roomId
  · exact .inr gone

variable {instanceNonce : Octets}

theorem Thins.change {before after : Rooms} (thins : Thins before after) :
    RoomsChange instanceNonce before after := by
  intro roomId
  rcases thins roomId with same | gone
  · rw [same]
    exact .same
  · rw [gone]
    exact .gone

theorem RoomsChange.after_thins {first second third : Rooms} (thins : Thins first second)
    (change : RoomsChange instanceNonce second third) : RoomsChange instanceNonce first third := by
  intro roomId
  have moved := change roomId
  rcases thins roomId with same | gone
  · rw [← same]
    exact moved
  rw [gone] at moved
  generalize third roomId = last at moved
  cases moved with
  | same => exact .gone
  | gone => exact .gone
  | created commitment => exact .created commitment
  | rotated old commitment present => cases present

theorem RoomsChange.then_thins {first second third : Rooms}
    (change : RoomsChange instanceNonce first second) (thins : Thins second third) :
    RoomsChange instanceNonce first third := by
  intro roomId
  rcases thins roomId with same | gone
  · rw [same]
    exact change roomId
  · rw [gone]
    exact .gone

theorem RoomsChange.of_created (rooms : Rooms) (roomId commitment : Octets) :
    RoomsChange instanceNonce rooms
      (Function.update rooms roomId (some ⟨instanceNonce, 1, commitment⟩)) := by
  intro other
  rw [Function.update_apply]
  split
  · exact .created commitment
  · exact .same

/-- What is known of the rooms there have been: `drawn` are the instance ids drawn so
far, `seen` the rooms after each event. A room's instance and epoch determine
its commitment, and no room has been at a later epoch than it is now. -/
structure Chronicled (drawn : List Octets) (seen : List (Octets × RoomView)) (rooms : Rooms) :
    Prop where
  drawn : ∀ roomId room, (roomId, room) ∈ seen → room.roomInstanceId ∈ drawn
  unique : ∀ roomId left right, (roomId, left) ∈ seen → (roomId, right) ∈ seen →
    left.roomInstanceId = right.roomInstanceId → left.accessEpoch = right.accessEpoch →
    left = right
  present : ∀ roomId room, rooms roomId = some room → (roomId, room) ∈ seen
  latest : ∀ roomId room, rooms roomId = some room → ∀ past, (roomId, past) ∈ seen →
    past.roomInstanceId = room.roomInstanceId → past.accessEpoch.toNat ≤ room.accessEpoch.toNat

section Chronicle

variable {drawn : List Octets} {seen recorded : List (Octets × RoomView)} {before after : Rooms}

/-- A room of the next state is an old one, a new one, or a later epoch of an old one. -/
theorem RoomsChange.recent (change : RoomsChange instanceNonce before after)
    (unwrapped : ∀ roomId room, after roomId = some room → room.accessEpoch ≠ 0)
    {roomId : Octets} {room : RoomView} (found : after roomId = some room) :
    before roomId = some room ∨ room.roomInstanceId = instanceNonce ∨
      ∃ old, before roomId = some old ∧ old.roomInstanceId = room.roomInstanceId ∧
        old.accessEpoch.toNat < room.accessEpoch.toNat := by
  have moved := change roomId
  have nonzero := unwrapped roomId room found
  rw [found] at moved
  generalize previous : before roomId = entry at moved
  cases moved with
  | same => exact .inl rfl
  | created commitment => exact .inr (.inl rfl)
  | rotated old commitment present =>
    have next := next_epoch_toNat old.accessEpoch nonzero
    exact .inr (.inr ⟨old, present, rfl, by simp only [next]; omega⟩)

/-- Recording the rooms after an event keeps the chronicle, if the instance id drawn
for it is new and no epoch has wrapped around. -/
theorem Chronicled.step (chronicled : Chronicled drawn seen before)
    (change : RoomsChange instanceNonce before after) (unwrapped : ∀ roomId room,
      after roomId = some room → room.accessEpoch ≠ 0)
    (fresh : instanceNonce ∉ drawn)
    (records : ∀ roomId room, (roomId, room) ∈ recorded ↔ after roomId = some room) :
    Chronicled (drawn ++ [instanceNonce]) (seen ++ recorded) after := by
  -- what was seen of an instance is older than what the instance is now
  have older {roomId : Octets} {past room : RoomView} (known : (roomId, past) ∈ seen)
      (found : after roomId = some room) (same : past.roomInstanceId = room.roomInstanceId) :
      before roomId = some room ∨ past.accessEpoch.toNat < room.accessEpoch.toNat := by
    rcases change.recent unwrapped found with kept | created | ⟨old, held, sameInstance, later⟩
    · exact .inl kept
    · exact absurd (created ▸ same ▸ chronicled.drawn roomId past known) fresh
    · have bound := chronicled.latest roomId old held past known (same.trans sameInstance.symm)
      exact .inr (by omega)
  have against {roomId : Octets} {past room : RoomView} (known : (roomId, past) ∈ seen)
      (found : after roomId = some room) (same : past.roomInstanceId = room.roomInstanceId)
      (epoch : past.accessEpoch = room.accessEpoch) : past = room := by
    rcases older known found same with kept | later
    · exact chronicled.unique roomId past room known (chronicled.present roomId room kept) same
        epoch
    · rw [epoch] at later
      omega
  refine ⟨?_, ?_, ?_, ?_⟩
  · intro roomId room member
    rcases List.mem_append.mp member with known | new
    · exact List.mem_append_left _ (chronicled.drawn roomId room known)
    rcases change.recent unwrapped ((records roomId room).mp new) with
      kept | created | ⟨old, held, sameInstance, -⟩
    · exact List.mem_append_left _
        (chronicled.drawn roomId room (chronicled.present roomId room kept))
    · exact List.mem_append_right _ (List.mem_singleton.mpr created)
    rw [← sameInstance]
    exact List.mem_append_left _ (chronicled.drawn roomId old (chronicled.present roomId old held))
  · intro roomId left right first second same epoch
    rcases List.mem_append.mp first with known | new
    · rcases List.mem_append.mp second with alsoKnown | alsoNew
      · exact chronicled.unique roomId left right known alsoKnown same epoch
      · exact against known ((records roomId right).mp alsoNew) same epoch
    have found := (records roomId left).mp new
    rcases List.mem_append.mp second with alsoKnown | alsoNew
    · exact (against alsoKnown found same.symm epoch.symm).symm
    · exact some.inj (found.symm.trans ((records roomId right).mp alsoNew))
  · intro roomId room found
    exact List.mem_append_right _ ((records roomId room).mpr found)
  · intro roomId room found past member same
    rcases List.mem_append.mp member with known | new
    · rcases older known found same with kept | later
      · exact chronicled.latest roomId room kept past known same
      · omega
    · rw [some.inj (((records roomId past).mp new).symm.trans found)]

end Chronicle

namespace RoomRegistry

theorem Rotates.change {registry : RoomRegistry} {roomId commitment : Octets}
    {answer : AuthorizeResult × RoomRegistry}
    (rotates : Rotates registry roomId commitment answer) :
    RoomsChange instanceNonce registry.view answer.2.view := by
  rcases rotates with ⟨-, same⟩ | ⟨-, old, advanced⟩
  · exact (Thins.of_eq same).change
  intro other
  rw [advanced.view, Function.update_apply, advanced.snapshot]
  split
  next same => exact .rotated old commitment (same ▸ advanced.present)
  · exact .same

theorem removeEmptyRooms_thins (registry : RoomRegistry) (counts : Octets → Nat) (now : Time) :
    Thins registry.view (registry.removeEmptyRooms counts now).view := by
  intro roomId
  rw [removeEmptyRooms_view]
  dsimp only
  split
  · exact .inl rfl
  · exact .inr rfl

end RoomRegistry

namespace Server

open Octets JoinToken SessionCrypto

/-- The rooms of a server, as tickets name them. -/
def rooms (server : Server) : Rooms := server.roomRegistry.view

variable (sodium : Sodium) (options : ServerOptions) (server : Server) (remote : Endpoint)
variable (packet : Octets) (ambient : Ambient) (roomId : Octets) (now : Time)

theorem cleanupEmptyRooms_thins : Thins server.rooms (server.cleanupEmptyRooms now).rooms :=
  server.roomRegistry.removeEmptyRooms_thins _ now

theorem foldl_rooms {α : Type} (handle : Server → α → Server)
    (same : ∀ server item, (handle server item).roomRegistry = server.roomRegistry)
    (server : Server) (items : List α) :
    (items.foldl handle server).roomRegistry = server.roomRegistry := by
  induction items generalizing server with
  | nil => rfl
  | cons item items ih => exact (ih (handle server item)).trans (same server item)

theorem release_rooms (client : ClientInfo) :
    (server.releaseTokenNonceForClient client).roomRegistry = server.roomRegistry := by
  unfold releaseTokenNonceForClient
  split <;> rfl

theorem dismissParticipant_rooms (removed : Endpoint × ClientInfo) :
    (server.dismissParticipant removed).roomRegistry = server.roomRegistry :=
  release_rooms _ removed.2

theorem handlePingMessage_rooms :
    (server.handlePingMessage remote packet ambient).roomRegistry = server.roomRegistry := by
  simp only [handlePingMessage]
  split
  · rfl
  split <;> rfl

theorem handleServerStatusRequest_thins :
    Thins server.rooms (server.handleServerStatusRequest options remote packet ambient).rooms := by
  simp only [handleServerStatusRequest]
  split
  · exact .of_eq rfl
  · exact cleanupEmptyRooms_thins server ambient.now

theorem handleRoomCreateRequest_change :
    RoomsChange ambient.instanceNonce server.rooms
      (server.handleRoomCreateRequest sodium options remote packet ambient).rooms := by
  have created (roomId roomName passwordHash : Octets) (accessMode : UInt8) (commitment : Octets) :
      RoomsChange ambient.instanceNonce server.rooms
        (server.roomRegistry.createRoom sodium roomId roomName passwordHash accessMode commitment
          ambient.now ambient.adminToken ambient.instanceNonce).2.view := by
    rcases server.roomRegistry.createRoom_view sodium roomId roomName passwordHash accessMode
      commitment ambient.now ambient.adminToken ambient.instanceNonce with
      ⟨-, same⟩ | ⟨-, -, -, -, added⟩
    · rw [same]
      exact (Thins.of_eq rfl).change
    · rw [added]
      exact .of_created server.rooms roomId commitment
  simp only [handleRoomCreateRequest]
  split
  · exact (Thins.of_eq rfl).change
  split
  · exact (Thins.of_eq rfl).change
  split
  · exact (Thins.of_eq rfl).change
  split
  · exact created _ _ _ _ _
  split <;> exact created _ _ _ _ _

theorem handleRoomJoinTokenRequest_rooms :
    (server.handleRoomJoinTokenRequest sodium options remote packet ambient).rooms =
      server.rooms := by
  have checked (roomId passwordHash : Octets) :=
    (server.roomRegistry.authorizeJoin_view roomId passwordHash ambient.now).1
  simp only [handleRoomJoinTokenRequest]
  split
  · rfl
  split
  · rfl
  split
  · rfl
  split
  · exact checked _ _
  split <;> exact checked _ _

theorem kickRoomParticipant_thins (participantId : UInt32)
    (now : Time) (response : RoomAdminResponse) :
    Thins server.rooms (server.kickRoomParticipant roomId participantId now response).2.2.rooms := by
  simp only [kickRoomParticipant]
  split
  · exact .of_eq rfl
  split
  · exact .of_eq rfl
  next removed manager answer =>
    refine Thins.trans (.of_eq ?_) (cleanupEmptyRooms_thins _ now)
    simp only [rooms, dismissParticipant_rooms]

theorem removeAllRoomParticipants_thins :
    Thins server.rooms (server.removeAllRoomParticipants roomId now).rooms := by
  refine Thins.trans (.of_eq ?_) (cleanupEmptyRooms_thins _ now)
  simp only [rooms, foldl_rooms _ dismissParticipant_rooms]

theorem executeAdminCommand_change
    (request : RoomAdminRequestHdr) (response : RoomAdminResponse) (now : Time)
    (outcome : AuthorizeResult × RoomAdminResponse × Server)
    (executed : executeAdminCommand sodium server request response now = some outcome) :
    RoomsChange instanceNonce server.rooms outcome.2.2.rooms := by
  simp only [executeAdminCommand] at executed
  split at executed
  · obtain rfl := some.inj executed
    exact (server.roomRegistry.changeAccessMode_rotates sodium _ _ _ _ _ now).change
  split at executed
  · obtain rfl := some.inj executed
    exact (server.roomRegistry.changeAccessMode_rotates sodium _ _ _ _ _ now).change
  split at executed
  · -- the epoch advances after the kick, which may have emptied and swept rooms
    have touched : Thins server.rooms (server.roomRegistry.authorizeAdmin sodium
        (fixedString request.roomId) (fixedString request.adminToken) now).2.view :=
      .of_eq (server.roomRegistry.authorizeAdmin_view sodium _ _ now).1
    split at executed
    · obtain rfl := some.inj executed
      exact touched.change
    have kicked := touched.trans (kickRoomParticipant_thins { server with
      roomRegistry := (server.roomRegistry.authorizeAdmin sodium (fixedString request.roomId)
        (fixedString request.adminToken) now).2 } (fixedString request.roomId)
      request.targetParticipantId now response)
    split at executed
    · obtain rfl := some.inj executed
      exact kicked.change
    · obtain rfl := some.inj executed
      exact .after_thins kicked (RoomRegistry.rotateAccessEpoch_rotates sodium _ _ _ _ now).change
  split at executed
  · obtain rfl := some.inj executed
    have closed : Thins server.rooms (server.roomRegistry.closeRoom sodium
        (fixedString request.roomId) (fixedString request.adminToken) now).2.view := by
      rcases server.roomRegistry.closeRoom_view sodium (fixedString request.roomId)
        (fixedString request.adminToken) now with ⟨-, same⟩ | ⟨-, -, deleted⟩
      · exact .of_eq same
      intro other
      rw [deleted, Function.update_apply]
      split
      · exact .inr rfl
      · exact .inl rfl
    split
    · exact closed.change
    exact (Thins.trans closed (removeAllRoomParticipants_thins { server with
      roomRegistry := (server.roomRegistry.closeRoom sodium (fixedString request.roomId)
        (fixedString request.adminToken) now).2 } _ now)).change
  split at executed
  · obtain rfl := some.inj executed
    exact (server.roomRegistry.rotateAccessEpoch_rotates sodium _ _ _ now).change
  · cases executed

theorem handleRoomAdminRequest_change :
    RoomsChange instanceNonce server.rooms
      (server.handleRoomAdminRequest sodium remote packet ambient).rooms := by
  simp only [handleRoomAdminRequest]
  split
  · exact (Thins.of_eq rfl).change
  split
  · exact (Thins.of_eq rfl).change
  split
  · exact (Thins.of_eq rfl).change
  rename_i authorized answered after executed
  have change := @executeAdminCommand_change instanceNonce sodium server _ _ _ _ executed
  split
  · exact change
  split <;> exact change

theorem handleRoomChatHistoryRequest_rooms :
    (server.handleRoomChatHistoryRequest remote packet ambient).rooms = server.rooms := by
  simp only [handleRoomChatHistoryRequest]
  split
  · rfl
  split
  · rfl
  split
  · rfl
  have same := server.roomRegistry.chatHistorySince_view
    (fixedString (RoomChatHistoryRequestHdr.read packet).roomId)
    (fixedString (RoomChatHistoryRequestHdr.read packet).roomInstanceId)
    (RoomChatHistoryRequestHdr.read packet).accessEpoch
    (RoomChatHistoryRequestHdr.read packet).afterSequence ambient.now
  split
  next answer =>
    rw [answer] at same
    exact same
  rename_i registry answer
  rw [answer] at same
  have listed := foldl_rooms (fun current message => current.send remote
    (.roomChatHistory (RoomChatHistoryRequestHdr.read packet).requestId message))
    (fun _ _ => rfl) ({ server with roomRegistry := registry }.updateAlive remote ambient.now)
  exact (congrArg RoomRegistry.view (listed _)).trans same

theorem admitClient_rooms (join : JoinHdr) (room : RoomSnapshot) (claims : Claims) (now : Time) :
    (server.admitClient remote join room claims now).rooms = server.rooms := by
  have introduced (current : Server) :
      (current.sendExistingParticipantInfoTo remote).roomRegistry = current.roomRegistry := by
    refine foldl_rooms _ ?_ current _
    intro other entry
    split <;> rfl
  simp only [admitClient]
  split
  · rfl
  refine (congrArg RoomRegistry.view (introduced _)).trans ?_
  refine (RoomRegistry.markJoined_view _ room.roomId now).trans ?_
  exact congrArg RoomRegistry.view (foldl_rooms broadcastParticipantLeave (fun _ _ => rfl) _ _)

theorem handleJoin_change :
    RoomsChange ambient.instanceNonce server.rooms
      (server.handleJoin sodium options remote packet ambient).rooms := by
  have admitted (roomId : Octets) (claims : Claims) : RoomsChange ambient.instanceNonce server.rooms
        (admitToRoom server.roomRegistry roomId claims ambient).2.view := by
    simp only [admitToRoom]
    split
    · exact (Thins.of_eq (server.roomRegistry.validateClaims_view roomId claims.roomInstanceId
        claims.accessEpoch claims.mediaKeyCommitment ambient.now).1).change
    rcases (server.roomRegistry.ensureOpenRoom_view roomId claims.mediaKeyCommitment ambient.now
      ambient.instanceNonce).1 with same | ⟨-, added⟩
    · exact (Thins.of_eq same).change
    · simp only [added]
      exact .of_created server.rooms roomId claims.mediaKeyCommitment
  have reserved (current : Server) (claims : Claims) :
      (current.reserveTokenNonce claims remote ambient.nowMs).2.roomRegistry =
        current.roomRegistry := by
    simp only [reserveTokenNonce]
    split
    · split <;> rfl
    · rfl
  simp only [handleJoin]
  split
  · exact (Thins.of_eq rfl).change
  split
  · exact (Thins.of_eq rfl).change
  rename_i claims presented
  have checked := admitted (fixedString (JoinHdr.read packet).roomId) claims
  split
  next registry answer =>
    rw [answer] at checked
    exact checked
  rename_i room registry answer
  rw [answer] at checked
  have kept := reserved { server with roomRegistry := registry } claims
  split
  · exact checked.then_thins (.of_eq (congrArg RoomRegistry.view kept))
  refine checked.then_thins (.of_eq ?_)
  exact (admitClient_rooms _ remote _ room claims ambient.now).trans
    (congrArg RoomRegistry.view kept)

theorem handleMetronomeSync_rooms :
    (server.handleMetronomeSync remote packet ambient).rooms = server.rooms := by
  simp only [handleMetronomeSync]
  split
  · rfl
  split <;> rfl

theorem handleLeave_thins : Thins server.rooms (server.handleLeave remote ambient).rooms := by
  simp only [handleLeave]
  split
  · exact .of_eq rfl
  next leaving manager answer =>
    refine Thins.trans (.of_eq ?_) (cleanupEmptyRooms_thins _ ambient.now)
    exact congrArg RoomRegistry.view (release_rooms { server with clientManager := manager } leaving)

theorem handleAlive_rooms : (server.handleAlive remote ambient).rooms = server.rooms := by
  simp only [handleAlive]
  split <;> rfl

theorem aliveCheckTimerCallback_thins :
    Thins server.rooms (server.aliveCheckTimerCallback ambient).rooms := by
  refine Thins.trans (.of_eq ?_) (cleanupEmptyRooms_thins _ ambient.now)
  exact congrArg RoomRegistry.view (foldl_rooms broadcastParticipantLeave (fun _ _ => rfl) _ _)

theorem handleCtrlMessage_change (magic : magicOf packet = ctrlMagic) :
    RoomsChange ambient.instanceNonce server.rooms
      (server.handleCtrlMessage sodium options remote packet ambient).rooms := by
  have dispatched (current : Server) (same : current.rooms = server.rooms) (command : Option Cmd) :
      RoomsChange ambient.instanceNonce server.rooms
        (current.dispatchCtrl sodium options remote packet ambient command).rooms := by
    rw [← same]
    unfold dispatchCtrl
    split
    · exact handleJoin_change sodium options current remote packet ambient
    · exact (handleServerStatusRequest_thins options current remote packet ambient).change
    · exact handleRoomCreateRequest_change sodium options current remote packet ambient
    · exact (Thins.of_eq
        (handleRoomJoinTokenRequest_rooms sodium options current remote packet ambient)).change
    · exact handleRoomAdminRequest_change sodium current remote packet ambient
    · exact (Thins.of_eq (@handleRoomChatSend_forwards (ambient.moment none) current remote packet
        ambient).rooms).change
    · exact (Thins.of_eq (handleRoomChatHistoryRequest_rooms current remote packet ambient)).change
    · exact (Thins.of_eq (@handleRoomKeyHandoffAck_forwards (ambient.moment none) current remote
        packet ambient magic).rooms).change
    · exact (handleLeave_thins current remote ambient).change
    · exact (Thins.of_eq (handleAlive_rooms current remote ambient)).change
    · exact (Thins.of_eq (handleMetronomeSync_rooms current remote packet ambient)).change
    · exact (Thins.of_eq rfl).change
  unfold handleCtrlMessage
  split
  · exact (Thins.of_eq rfl).change
  -- the limiter keeps its own books, whichever of its buckets is asked
  have settled (answer : Bool × Server) (same : answer.2.rooms = server.rooms)
      (command : Option Cmd) : RoomsChange ambient.instanceNonce server.rooms
        (if answer.1 = false then answer.2
          else answer.2.dispatchCtrl sodium options remote packet ambient command).rooms := by
    split
    · exact (Thins.of_eq same).change
    · exact dispatched answer.2 same command
  simp only
  split
  · exact settled (server.ask _) rfl _
  split
  · exact settled (true, server) rfl _
  split <;> exact settled (server.ask _) rfl _

/-- One event moves every room by at most one step. -/
theorem step_roomsChange (input : Input) :
    RoomsChange input.ambient.instanceNonce server.rooms
      (step sodium options server input).rooms := by
  have cleared : server.rooms = { server with outbox := [], mediaTasks := [] }.rooms := rfl
  rw [cleared]
  cases input with
  | aliveCheck ambient => exact (aliveCheckTimerCallback_thins _ ambient).change
  | datagram remote bytes ambient =>
    simp only [step, onReceive]
    split
    · exact (Thins.of_eq rfl).change
    split
    · exact (Thins.of_eq (congrArg RoomRegistry.view
        (handlePingMessage_rooms _ remote _ ambient))).change
    split
    next magic => exact handleCtrlMessage_change sodium options _ remote _ ambient magic
    split
    · exact (Thins.of_eq
        (@handleSecureControlMessage_forwards (ambient.moment none) _ remote _ ambient).rooms).change
    split
    · exact (Thins.of_eq
        (@handleSecureAudioMessage_forwards (ambient.moment none) _ remote _ ambient).rooms).change
    split
    next magic =>
      exact (Thins.of_eq
        (@handleE2eKeyEnvelope_forwards (ambient.moment none) _ remote _ ambient magic).rooms).change
    · exact (Thins.of_eq rfl).change

end Server

end Sesivo
