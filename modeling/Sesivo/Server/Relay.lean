import Sesivo.Server.Admission

set_option autoImplicit false

/- What the server passes on. A datagram's copies go to members of the sender's
room only, and carry the sender's own id; key material is passed on for the
current epoch only. -/

namespace Sesivo

open Octets JoinToken SessionCrypto List Option ClientManager

namespace ServerMessage

def carriedSender : ServerMessage → Option UInt32
  | .relayed packet => packetSender packet
  | .roomChatEvent event => some event.participantId
  | _ => none

def carriedKey : ServerMessage → Option (UInt32 × Octets)
  | .relayed packet => packetKey packet
  | _ => none

end ServerMessage

namespace Server

/-- Every copy of somebody's message: those in the outbox, and those the media
workers make of the audio packets handed to them. -/
def copies (server : Server) : List (Endpoint × ServerMessage) :=
  server.outbox.filter (fun entry => entry.2.isRelay) ++
    server.mediaTasks.flatMap fun entry =>
      (entry.2.targets entry.1).map fun endpoint => (endpoint, .relayed entry.2.packet)

/-- The room and client id an endpoint is registered with. -/
def standing (server : Server) (endpoint : Endpoint) : Option (Octets × UInt32) :=
  (server.clientManager.getClientInfo endpoint).map fun info => (info.roomId, info.clientId)

/-- The copy stays in the sender's room, names the sender, and any media key it
is for is the room's current one. -/
def Confined (server : Server) (remote endpoint : Endpoint) (message : ServerMessage) : Prop :=
  ∃ roomId clientId targetId, server.standing remote = some (roomId, clientId) ∧
    server.standing endpoint = some (roomId, targetId) ∧
    message.carriedSender = some clientId ∧
    ∀ accessEpoch commitment, message.carriedKey = some (accessEpoch, commitment) →
      ∃ room, server.roomRegistry.view roomId = some room ∧ room.accessEpoch = accessEpoch ∧
        room.mediaKeyCommitment = commitment

theorem Confined.congr {before after : Server} {remote endpoint : Endpoint}
    {message : ServerMessage} (confined : Confined before remote endpoint message)
    (standing : ∀ other, after.standing other = before.standing other)
    (rooms : after.roomRegistry.view = before.roomRegistry.view) :
    Confined after remote endpoint message := by
  obtain ⟨roomId, clientId, targetId, sender, target, carried, current⟩ := confined
  refine ⟨roomId, clientId, targetId, ?_, ?_, carried, ?_⟩
  · rw [standing, sender]
  · rw [standing, target]
  · rw [rooms]
    exact current

variable {moment : Directory.Moment}

/-- A handler's effect: the stores evolve, and its copies are confined. -/
structure Relays (moment : Directory.Moment) (remote : Endpoint) (before after : Server) : Prop where
  evolves : Evolves moment before after
  confined : before.clientManager.Coherent → ∀ endpoint message,
    (endpoint, message) ∈ after.copies → (endpoint, message) ∈ before.copies ∨
      (Confined before remote endpoint message ∧ Confined after remote endpoint message)

variable {server read : Server} {remote : Endpoint} (sodium : Sodium) (options : ServerOptions)
variable (packet : Octets) {endpoints : List Endpoint} {target : Endpoint} {roomId : Octets}
variable {accessEpoch clientId : UInt32} (ambient : Ambient) {before middle after : Server}

theorem Hushed.copies (hushed : Hushed before after) (endpoint : Endpoint)
    (message : ServerMessage) (member : (endpoint, message) ∈ after.copies) :
    (endpoint, message) ∈ before.copies := by
  simp only [Server.copies, hushed.tasks, mem_append, mem_filter] at member ⊢
  refine member.imp_left ?_
  rintro ⟨inside, relay⟩
  exact ⟨hushed.relays _ inside relay, relay⟩

/-- Every packet relayed between the two states is the beginning of the given one. -/
def Passes (packet : Octets) (before after : Server) : Prop :=
  ∀ endpoint copy, (endpoint, .relayed copy) ∈ after.copies →
    (endpoint, .relayed copy) ∈ before.copies ∨ copy <+: packet

/-- A handler's copies are confined, and beginnings of the packet it handles. -/
structure Conveys (moment : Directory.Moment) (remote : Endpoint) (packet : Octets)
    (before after : Server) : Prop extends Relays moment remote before after where
  passes : Passes packet before after

/-- A handler that at most passes its packet on leaves the rooms as they are. -/
structure Forwards (moment : Directory.Moment) (remote : Endpoint) (packet : Octets)
    (before after : Server) : Prop extends Conveys moment remote packet before after where
  rooms : after.roomRegistry.view = before.roomRegistry.view

variable {packet}

theorem Conveys.silent (silent : Silent moment before after) :
    Conveys moment remote packet before after :=
  ⟨⟨silent.toEvolves, fun _ endpoint message member =>
    .inl (silent.toHushed.copies endpoint message member)⟩,
    fun endpoint _ member => .inl (silent.toHushed.copies endpoint _ member)⟩

theorem Forwards.silent (silent : Silent moment before after)
    (rooms : after.roomRegistry.view = before.roomRegistry.view) :
    Forwards moment remote packet before after :=
  ⟨.silent silent, rooms⟩

theorem Forwards.refl (server : Server) : Forwards moment remote packet server server :=
  .silent (.refl server) rfl

variable {asked : Server} {question : RateLimiter → Bool × RateLimiter} {allowed : Bool}

theorem Conveys.ask
    (answer : server.ask question = (allowed, asked))
    (conveys : Conveys moment remote packet asked after) :
    Conveys moment remote packet server after := by
  have silent : Silent moment server asked := ask_silent answer
  obtain rfl := (Prod.mk.inj answer).2
  refine ⟨⟨silent.toEvolves.trans conveys.evolves, ?_⟩, ?_⟩
  · intro coherent endpoint message member
    rcases conveys.confined coherent endpoint message member with old | ⟨asked, atEnd⟩
    · exact .inl (silent.toHushed.copies endpoint message old)
    · exact .inr ⟨asked.congr (fun _ => rfl) rfl, atEnd⟩
  · intro endpoint copy member
    exact (conveys.passes endpoint copy member).imp_left (silent.toHushed.copies endpoint _)

theorem Forwards.ask
    (answer : server.ask question = (allowed, asked))
    (forwards : Forwards moment remote packet asked after) :
    Forwards moment remote packet server after := by
  refine ⟨.ask answer forwards.toConveys, ?_⟩
  obtain rfl := (Prod.mk.inj answer).2
  exact forwards.rooms

/-- Copies of one message to confined endpoints. -/
theorem Forwards.of_emission (silent : Silent moment before middle)
    (standing : ∀ other, middle.standing other = before.standing other)
    (rooms : middle.roomRegistry.view = before.roomRegistry.view)
    (clients : after.clientManager = middle.clientManager)
    (registry : after.roomRegistry = middle.roomRegistry)
    (nonces : after.usedTokenNonces = middle.usedTokenNonces)
    (copies : ∀ endpoint message, (endpoint, message) ∈ after.copies →
      (endpoint, message) ∈ middle.copies ∨
        ((before.clientManager.Coherent → Confined before remote endpoint message) ∧
          ∀ copy, message = .relayed copy → copy <+: packet)) :
    Forwards moment remote packet before after := by
  have kept : Evolves moment middle after := by
    refine ⟨no_operations clients, ?_⟩
    have same : after.view = middle.view := by simp only [view, clients, registry, nonces]
    rw [same]
  have sameRooms : after.roomRegistry.view = before.roomRegistry.view := by rw [registry, rooms]
  refine ⟨⟨⟨silent.toEvolves.trans kept, ?_⟩, ?_⟩, sameRooms⟩
  · intro coherent endpoint message member
    rcases copies endpoint message member with old | ⟨confined, -⟩
    · exact .inl (silent.toHushed.copies endpoint message old)
    refine .inr ⟨confined coherent, (confined coherent).congr ?_ sameRooms⟩
    intro other
    rw [← standing]
    simp only [Server.standing, clients]
  · intro endpoint copy member
    rcases copies endpoint _ member with old | ⟨-, beginning⟩
    · exact .inl (silent.toHushed.copies endpoint _ old)
    · exact .inr (beginning copy rfl)

theorem noteStrict_forwards (server : Server) (now : Time) :
    Forwards moment remote packet server (server.noteStrict remote now) :=
  .silent (noteStrict_silent server remote now) rfl

theorem dropUnknown_forwards (server : Server) (now : Time) :
    Forwards moment remote packet server (server.dropUnknown remote now) := by
  have recorded (current : Server) :
      (current.recordUnknownAudioDrop remote now).roomRegistry = current.roomRegistry := by
    simp only [recordUnknownAudioDrop]
    split
    · rfl
    split <;> rfl
  refine .silent (dropUnknown_silent server remote now) (congrArg RoomRegistry.view ?_)
  simp only [dropUnknown]
  split
  · exact recorded _
  · rfl

variable {endpoint : Endpoint}

theorem sendAll_copies {sent message : ServerMessage}
    (member : (endpoint, message) ∈ (server.sendAll endpoints sent).copies) :
    (endpoint, message) ∈ server.copies ∨ (endpoint ∈ endpoints ∧ message = sent) := by
  simp only [copies, sendAll, filter_append, append_assoc, mem_append] at member ⊢
  rcases member with old | new | task
  · exact .inl (.inl old)
  · obtain ⟨other, inside, same⟩ := mem_map.mp (mem_filter.mp new).1
    obtain ⟨rfl, rfl⟩ := Prod.mk.inj same
    exact .inr ⟨inside, rfl⟩
  · exact .inl (.inr task)

theorem updateAlive_standing (server : Server) (endpoint other : Endpoint) (now : Time) :
    (server.updateAlive endpoint now).standing other = server.standing other :=
  Store.lookup_adjust_map server.clientManager.clients endpoint other _ _ fun _ => rfl

/-- A registered sender stands in its room under the id the handlers compare with. -/
theorem standing_of_exists (registered : server.clientManager.exists remote = true) :
    ∃ roomId, server.standing remote = some (roomId, server.clientManager.getClientId remote) := by
  obtain ⟨info, found⟩ := isSome_iff_exists.mp registered
  exact ⟨info.roomId, by simp [standing, getClientInfo, found, getClientId]⟩

theorem standing_of_inRoom
    (inside : server.clientManager.InRoom endpoint roomId) :
    ∃ targetId, server.standing endpoint = some (roomId, targetId) := by
  obtain ⟨info, found, rfl⟩ := inside
  exact ⟨info.clientId, by simp [standing, getClientInfo, found]⟩

theorem authenticatedTarget_standing {targetClientId : UInt32}
    (located : server.authenticatedTarget remote targetClientId = some target)
    (sender : server.standing remote = some (roomId, clientId)) :
    ∃ targetId, server.standing target = some (roomId, targetId) := by
  obtain ⟨info, found, same⟩ := map_eq_some_iff.mp sender
  obtain ⟨rfl, -⟩ := Prod.mk.inj same
  have inside := eq_some_of_filter_eq_some located
  simp only [getClientInfo] at found
  simp only [getRoomEndpointByClientId, found] at inside
  obtain ⟨entry, member, rfl⟩ := map_eq_some_iff.mp inside
  exact standing_of_inRoom ⟨entry.2, (server.clientManager.mem_getRoomClients info.roomId entry.1
    entry.2).mp (mem_of_find?_eq_some member)⟩

theorem cachedRoomEndpoints_inRoom (coherent : server.clientManager.Coherent)
    (answer : server.cachedRoomEndpoints remote = (endpoints, read))
    (sender : server.standing remote = some (roomId, clientId)) (endpoint : Endpoint)
    (member : endpoint ∈ endpoints) : server.clientManager.InRoom endpoint roomId := by
  obtain ⟨info, found, same⟩ := map_eq_some_iff.mp sender
  obtain ⟨rfl, -⟩ := Prod.mk.inj same
  obtain ⟨rfl, -⟩ := Prod.mk.inj answer
  exact ((getCachedRoomEndpoints_listsRoom coherent remote info found).mem_iff endpoint).mp member

theorem cachedRoomEndpoints_standing (answer : server.cachedRoomEndpoints remote = (endpoints, read))
    (other : Endpoint) : read.standing other = server.standing other := by
  obtain ⟨-, rfl⟩ := Prod.mk.inj answer
  simp [standing, getClientInfo]

theorem cachedRoomEndpoints_registry (answer : server.cachedRoomEndpoints remote = (endpoints, read)) :
    read.roomRegistry = server.roomRegistry := by
  obtain ⟨-, rfl⟩ := Prod.mk.inj answer
  rfl

/-- The registry's check of a media key, seen from the sender's room. -/
theorem authorizesSender_current {commitment : Octets}
    (authorized : server.authorizesSender remote accessEpoch commitment ≠ false)
    (sender : server.standing remote = some (roomId, clientId)) :
    ∃ room, server.roomRegistry.view roomId = some room ∧ room.accessEpoch = accessEpoch ∧
      room.mediaKeyCommitment = commitment := by
  obtain ⟨info, found, same⟩ := map_eq_some_iff.mp sender
  obtain ⟨rfl, -⟩ := Prod.mk.inj same
  have granted := Bool.eq_true_of_not_eq_false authorized
  simp only [authorizesSender, found, Bool.and_eq_true] at granted
  obtain ⟨-, allowed⟩ := granted
  unfold RoomRegistry.authorizesMediaKey at allowed
  split at allowed
  next => cases allowed
  next room located =>
    simp only [Bool.and_eq_true, decide_eq_true_eq] at allowed
    exact ⟨room.view, RoomRegistry.view_of_lookup located, allowed.1.2, allowed.2⟩

/-- The key a packet is for is the room's current one. -/
def KeyCurrent (server : Server) (roomId copy : Octets) : Prop :=
  ∀ accessEpoch commitment, packetKey copy = some (accessEpoch, commitment) →
    ∃ room, server.roomRegistry.view roomId = some room ∧ room.accessEpoch = accessEpoch ∧
      room.mediaKeyCommitment = commitment

variable {now : Time}

/-- One copy of a packet's beginning to a member of the sender's room. -/
theorem sendTo_forwards {copy : Octets} {targetId : UInt32}
    (sender : server.standing remote = some (roomId, clientId))
    (receiver : server.standing target = some (roomId, targetId))
    (beginning : copy <+: packet) (carried : packetSender copy = some clientId)
    (current : KeyCurrent server roomId copy) :
    Forwards moment remote packet server
      ((server.updateAlive remote now).send target (.relayed copy)) := by
  refine .of_emission (updateAlive_silent server remote now) ?_ rfl rfl rfl rfl ?_
  · exact fun other => updateAlive_standing server remote other now
  intro endpoint message member
  refine (@sendAll_copies _ [target] _ _ _ member).imp_right ?_
  rintro ⟨inside, rfl⟩
  rw [mem_singleton.mp inside]
  refine ⟨fun _ => ⟨roomId, clientId, targetId, sender, receiver, carried, current⟩, ?_⟩
  rintro _ ⟨⟩
  exact beginning

theorem envelope_take (packet : Octets) :
    magicOf (packet.take e2eKeyEnvelopeHdrBytes) = magicOf packet ∧
      E2EKeyEnvelopeHdr.read (packet.take e2eKeyEnvelopeHdrBytes) =
        E2EKeyEnvelopeHdr.read packet := by
  simp [magicOf, E2EKeyEnvelopeHdr.read, u32At, u16At, slice_take, e2eKeyEnvelopeHdrBytes]

theorem handoffAck_take (packet : Octets) :
    magicOf (packet.take roomKeyHandoffAckHdrBytes) = magicOf packet ∧
      RoomKeyHandoffAckHdr.read (packet.take roomKeyHandoffAckHdrBytes) =
        RoomKeyHandoffAckHdr.read packet := by
  simp [magicOf, RoomKeyHandoffAckHdr.read, u32At, slice_take, roomKeyHandoffAckHdrBytes]

theorem handleE2eKeyEnvelope_forwards (server : Server) (remote : Endpoint) (packet : Octets)
    (ambient : Ambient) (magic : magicOf packet = e2eKeyEnvelopeMagic) :
    Forwards moment remote packet server (server.handleE2eKeyEnvelope remote packet ambient) := by
  have refused := @noteStrict_forwards moment remote packet server ambient.now
  unfold handleE2eKeyEnvelope
  split
  · exact refused
  split
  · exact refused
  rename_i registered
  simp only [not_or, Bool.not_eq_false] at registered
  simp only
  split
  · exact refused
  rename_i fields
  split
  · exact refused
  rename_i authorized
  split
  next => exact refused
  rename_i target located
  obtain ⟨roomId, sender⟩ := standing_of_exists registered.1
  obtain ⟨targetId, receiver⟩ := authenticatedTarget_standing located sender
  obtain ⟨sameMagic, sameFields⟩ := envelope_take packet
  have own : (E2EKeyEnvelopeHdr.read packet).senderId =
      server.clientManager.getClientId remote := by
    simp only [not_or, not_not] at fields
    exact fields.2.1
  refine sendTo_forwards sender receiver ( take_prefix _ packet) ?_ ?_
  · simp [packetSender, sameMagic, magic, sameFields, own]
  intro accessEpoch commitment carried
  simp only [packetKey, sameMagic, magic, ↓reduceIte, sameFields, some.injEq,
    Prod.mk.injEq] at carried
  obtain ⟨rfl, rfl⟩ := carried
  exact authorizesSender_current authorized sender

theorem handleRoomKeyHandoffAck_forwards (server : Server) (remote : Endpoint) (packet : Octets)
    (ambient : Ambient) (magic : magicOf packet = ctrlMagic) :
    Forwards moment remote packet server
      (server.handleRoomKeyHandoffAck remote packet ambient) := by
  have refused := @Forwards.refl moment remote packet server
  unfold handleRoomKeyHandoffAck
  split
  · exact refused
  rename_i registered
  simp only [not_or, Bool.not_eq_false] at registered
  simp only
  split
  · exact refused
  rename_i fields
  split
  next => exact refused
  rename_i target located
  obtain ⟨roomId, sender⟩ := standing_of_exists registered.2.1
  obtain ⟨targetId, receiver⟩ := authenticatedTarget_standing located sender
  obtain ⟨sameMagic, sameFields⟩ := handoffAck_take packet
  simp only [not_or, not_not] at fields
  obtain ⟨-, own, -, -, -, authorized⟩ := fields
  refine sendTo_forwards sender receiver ( take_prefix _ packet) ?_ ?_
  · simp +decide [packetSender, sameMagic, magic, sameFields, own]
  intro accessEpoch commitment carried
  simp +decide only [packetKey, sameMagic, magic, ↓reduceIte, sameFields, some.injEq,
    Prod.mk.injEq] at carried
  obtain ⟨rfl, rfl⟩ := carried
  exact authorizesSender_current authorized sender

/-- Copies of one packet to some of the endpoints the sender's cached list names. -/
theorem sendCached_forwards (sender : server.standing remote = some (roomId, clientId))
    (carried : packetSender packet = some clientId) (current : KeyCurrent server roomId packet)
    (now : Time)
    (answer : (server.updateAlive remote now).cachedRoomEndpoints remote = (endpoints, read))
    (after : Server) (clients : after.clientManager = read.clientManager)
    (registry : after.roomRegistry = read.roomRegistry)
    (nonces : after.usedTokenNonces = read.usedTokenNonces)
    (copies : ∀ endpoint message, (endpoint, message) ∈ after.copies →
      (endpoint, message) ∈ read.copies ∨ (endpoint ∈ endpoints ∧ message = .relayed packet)) :
    Forwards moment remote packet server after := by
  have alive := @updateAlive_silent moment server remote now
  have rooms := cachedRoomEndpoints_registry answer
  refine .of_emission (alive.trans (cachedRoomEndpoints_silent answer)) ?_ ?_ clients registry
    nonces ?_
  · intro other
    rw [cachedRoomEndpoints_standing answer, updateAlive_standing]
  · rw [rooms]
    rfl
  intro endpoint message member
  refine (copies endpoint message member).imp_right ?_
  rintro ⟨inside, rfl⟩
  refine ⟨?_, ?_⟩
  · intro coherent
    have within := cachedRoomEndpoints_inRoom (updateAlive_coherent coherent remote now) answer
      ((updateAlive_standing server remote remote now).trans sender) endpoint inside
    obtain ⟨targetId, receiver⟩ := standing_of_inRoom within
    rw [updateAlive_standing] at receiver
    exact ⟨roomId, clientId, targetId, sender, receiver, carried, current⟩
  · rintro _ ⟨⟩
    exact prefix_rfl

theorem authenticatedTarget_updateAlive (server : Server) (remote : Endpoint) (now : Time)
    (targetId : UInt32) (target : Endpoint) (roomId : Octets) (clientId : UInt32)
    (located : (server.updateAlive remote now).authenticatedTarget remote targetId = some target)
    (sender : server.standing remote = some (roomId, clientId)) :
    ∃ receiver, server.standing target = some (roomId, receiver) := by
  rw [← updateAlive_standing server remote target now]
  exact authenticatedTarget_standing located
    ((updateAlive_standing server remote remote now).trans sender)

theorem relaySecureControl_forwards {metadata : SecureControlMetadata} {bytes : UInt16} (now : Time)
    (parsed : parseSecureControlHeader packet = .ok (metadata, bytes))
    (sender : server.standing remote = some (roomId, metadata.senderId))
    (authorized : server.authorizesSender remote metadata.accessEpoch metadata.mediaKeyCommitment ≠
      false) :
    Forwards moment remote packet server
      (server.relaySecureControl remote packet metadata now) := by
  obtain ⟨magic, senderField, epochField, commitmentField⟩ := parseSecureControlHeader_fields parsed
  have carried : packetSender packet = some metadata.senderId := by
    simp +decide [packetSender, magic, senderField]
  have current : KeyCurrent server roomId packet := by
    intro accessEpoch commitment key
    simp +decide only [packetKey, magic, ↓reduceIte, some.injEq, Prod.mk.injEq] at key
    obtain ⟨rfl, rfl⟩ := key
    rw [epochField, commitmentField] at authorized
    exact authorizesSender_current authorized sender
  unfold relaySecureControl
  simp only
  split
  · unfold forwardSecureControlToOthers
    split
    next endpoints read answer =>
      refine sendCached_forwards sender carried current now answer _ rfl rfl rfl ?_
      intro endpoint message member
      refine (sendAll_copies member).imp_right ?_
      rintro ⟨inside, same⟩
      exact ⟨(mem_filter.mp inside).1, same⟩
  split
  next =>
    exact .silent ((updateAlive_silent server remote now).trans (noteStrict_silent _ remote now)) rfl
  rename_i target located
  obtain ⟨targetId, receiver⟩ :=
    authenticatedTarget_updateAlive server remote now _ target roomId _ located sender
  exact sendTo_forwards sender receiver prefix_rfl carried current

theorem handleSecureControlMessage_forwards (server : Server) (remote : Endpoint) (packet : Octets)
    (ambient : Ambient) :
    Forwards moment remote packet server
      (server.handleSecureControlMessage remote packet ambient) := by
  have refused (current : Server) := @noteStrict_forwards moment remote packet current ambient.now
  unfold handleSecureControlMessage
  split
  · exact refused server
  split
  · exact dropUnknown_forwards server ambient.now
  rename_i registered
  split
  · exact refused server
  split
  next allowed asked answer =>
    have known : asked.clientManager.exists remote = true := by
      obtain rfl := (Prod.mk.inj answer).2
      exact Bool.eq_true_of_not_eq_false registered
    refine .ask answer ?_
    split
    · exact .refl asked
    split
    next => exact refused asked
    rename_i metadata bytes parsed
    simp only
    split
    · exact refused asked
    rename_i own
    split
    · exact refused asked
    rename_i authorized
    obtain ⟨roomId, sender⟩ := standing_of_exists known
    simp only [not_or, not_not] at own
    rw [← own.2] at sender
    exact relaySecureControl_forwards ambient.now parsed sender authorized

theorem targets_subset (task : MediaTask) (worker : Nat) (endpoint : Endpoint)
    (member : endpoint ∈ task.targets worker) : endpoint ∈ task.endpoints := by
  obtain ⟨entry, inside, rfl⟩ := mem_map.mp member
  exact fst_mem_of_mem_zipIdx (mem_filter.mp inside).1

theorem forwardAudioToOthers_forwards (sender : server.standing remote = some (roomId, clientId))
    (carried : packetSender packet = some clientId) (keyless : packetKey packet = none) :
    Forwards moment remote packet server
      ((server.updateAlive remote ambient.now).forwardAudioToOthers remote packet ambient) := by
  unfold forwardAudioToOthers
  split
  next endpoints read answer =>
    refine sendCached_forwards sender carried ?_ ambient.now answer _ rfl rfl rfl ?_
    · intro accessEpoch commitment key
      rw [keyless] at key
      cases key
    intro endpoint message member
    simp only [copies, flatMap_append, mem_append] at member ⊢
    rcases member with old | old | new
    · exact .inl (.inl old)
    · exact .inl (.inr old)
    obtain ⟨entry, queued, copied⟩ := mem_flatMap.mp new
    obtain ⟨worker, -, rfl⟩ := mem_map.mp queued
    obtain ⟨target, inside, same⟩ := mem_map.mp copied
    obtain ⟨rfl, rfl⟩ := Prod.mk.inj same
    exact .inr ⟨targets_subset _ worker target inside, rfl⟩

theorem handleSecureAudioMessage_forwards (server : Server) (remote : Endpoint) (packet : Octets)
    (ambient : Ambient) :
    Forwards moment remote packet server
      (server.handleSecureAudioMessage remote packet ambient) := by
  have refused := @noteStrict_forwards moment remote packet server ambient.now
  unfold handleSecureAudioMessage
  split
  · exact refused
  split
  · exact dropUnknown_forwards server ambient.now
  rename_i registered
  split
  · exact refused
  split
  next => exact refused
  rename_i metadata bytes parsed
  simp only
  split
  · exact refused
  rename_i own
  obtain ⟨roomId, sender⟩ := standing_of_exists (Bool.eq_true_of_not_eq_false registered)
  simp only [not_or, not_not] at own
  rw [← own.2] at sender
  obtain ⟨magic, senderField⟩ := parseSecureAudioHeader_fields parsed
  generalize answer : server.ask (fun limiter => limiter.allowAuthenticatedAudio remote
    metadata.sampleRate metadata.frameCount ambient.now) = outcome
  obtain ⟨allowed, asked⟩ := outcome
  refine .ask answer ?_
  obtain rfl := (Prod.mk.inj answer).2
  split
  · exact .refl _
  split
  · exact .silent (updateAlive_silent _ remote ambient.now) rfl
  refine forwardAudioToOthers_forwards ambient sender ?_ ?_
  · simp +decide [packetSender, magic, senderField]
  · simp +decide [packetKey, magic]

/-- A stored message is reported with the fields it was sent with. -/
theorem storeChatMessage_sender {registry after : RoomRegistry} {roomInstanceId : Octets}
    {senderParticipantId : UInt32} {nonce ciphertext : Octets}
    {ciphertextBytes : UInt16} {serverTimeMs : Int} {message : ChatMessage}
    (answer : registry.storeChatMessage roomId roomInstanceId accessEpoch senderParticipantId nonce
      ciphertext ciphertextBytes serverTimeMs now = (.stored message, after)) :
    message.senderParticipantId = senderParticipantId := by
  unfold RoomRegistry.storeChatMessage at answer
  split at answer
  · cases answer
  split at answer
  · cases answer
  split at answer
  · cases answer
  split at answer
  · cases answer
  split at answer
  · cases answer
  split at answer
  · cases answer
  cases answer
  rfl

theorem publishChat_forwards {request : RoomChatSendHdr}
    (sender : server.standing remote = some (fixedString request.roomId, request.participantId)) :
    Forwards moment remote packet server (server.publishChat remote request ambient) := by
  have same := server.roomRegistry.storeChatMessage_view (fixedString request.roomId)
    (fixedString request.roomInstanceId) request.accessEpoch request.participantId request.nonce
    request.ciphertext request.ciphertextBytes ambient.nowMs ambient.now
  unfold publishChat
  simp only
  split
  next status reason registry answer =>
    rw [answer] at same
    exact .silent ((Silent.of_sameRooms server registry same).trans (send_silent _ remote _ rfl))
      same
  rename_i message registry answer
  rw [answer] at same
  have stored := @Silent.of_sameRooms moment server registry same
  refine .of_emission (stored.trans (updateAlive_silent _ remote ambient.now)) ?_ same rfl rfl rfl
    ?_
  · exact fun other => updateAlive_standing { server with roomRegistry := registry } remote other
      ambient.now
  intro endpoint event member
  refine (sendAll_copies member).imp_right ?_
  rintro ⟨inside, rfl⟩
  -- a chat message is an event of the server's own, not a relayed packet
  refine ⟨fun _ => ?_, nofun⟩
  have within := ((getRoomClients_listsRoom _ _).mem_iff endpoint).mp inside
  obtain ⟨targetId, receiver⟩ := standing_of_inRoom within
  refine ⟨_, _, targetId, sender, ?_, ?_, ?_⟩
  · rw [← receiver]
    exact (updateAlive_standing { server with roomRegistry := registry } remote endpoint
      ambient.now).symm
  · simp only [ServerMessage.carriedSender, chatEvent, storeChatMessage_sender answer]
  · intro accessEpoch commitment key
    cases key

theorem handleRoomChatSend_forwards (server : Server) (remote : Endpoint) (packet : Octets)
    (ambient : Ambient) :
    Forwards moment remote packet server (server.handleRoomChatSend remote packet ambient) := by
  unfold handleRoomChatSend
  split
  · exact .silent (send_silent server remote _ rfl) rfl
  split
  next allowed asked answer =>
    refine .ask answer ?_
    split
    · exact .refl asked
    simp only
    split
    next => exact .silent (send_silent asked remote _ rfl) rfl
    rename_i sender found
    split
    · exact .silent (send_silent asked remote _ rfl) rfl
    rename_i own
    simp only [not_or, not_not] at own
    refine publishChat_forwards ambient ?_
    simp [standing, found, own.1, own.2.2.1]

theorem handleJoin_short (server : Server) (remote : Endpoint) (packet : Octets) (ambient : Ambient)
    (short : ¬joinHdrBytes ≤ packet.length) :
    server.handleJoin sodium options remote packet ambient = server := by
  rw [handleJoin, if_pos (Nat.lt_of_not_le short)]

theorem dispatchCtrl_relays (server : Server)
    (remote : Endpoint) (packet : Octets) (ambient : Ambient) (type : Option Cmd)
    (ticket : Option Claims) (magic : magicOf packet = ctrlMagic)
    (presented : type = some .join → joinHdrBytes ≤ packet.length →
      ticket = joinClaims sodium options (JoinHdr.read packet) ambient.nowMs) :
    Conveys (ambient.moment ticket) remote packet server
      (server.dispatchCtrl sodium options remote packet ambient type) := by
  unfold dispatchCtrl
  split
  next =>
    by_cases long : joinHdrBytes ≤ packet.length
    · rw [presented rfl long]
      exact .silent (handleJoin_silent sodium options server remote packet ambient)
    · rw [handleJoin_short sodium options server remote packet ambient long]
      exact .silent (.refl server)
  next => exact .silent (handleServerStatusRequest_silent options server remote packet ambient)
  next =>
    exact .silent (handleRoomCreateRequest_silent sodium options server remote packet ambient ticket)
  next =>
    exact .silent (handleRoomJoinTokenRequest_silent sodium options server remote packet ambient)
  next => exact .silent (handleRoomAdminRequest_silent sodium server remote packet ambient)
  next => exact (handleRoomChatSend_forwards server remote packet ambient).toConveys
  next => exact .silent (handleRoomChatHistoryRequest_silent server remote packet ambient)
  next => exact (handleRoomKeyHandoffAck_forwards server remote packet ambient magic).toConveys
  next => exact .silent (handleLeave_silent server remote ambient)
  next => exact .silent (handleAlive_silent server remote ambient)
  next => exact .silent (handleMetronomeSync_silent server remote packet ambient)
  next => exact .silent (.refl server)

theorem handleCtrlMessage_relays (server : Server)
    (remote : Endpoint) (packet : Octets) (ambient : Ambient) (ticket : Option Claims)
    (magic : magicOf packet = ctrlMagic)
    (presented : (CtrlHdr.read packet).type = some .join → joinHdrBytes ≤ packet.length →
      ticket = joinClaims sodium options (JoinHdr.read packet) ambient.nowMs) :
    Conveys (ambient.moment ticket) remote packet server
      (server.handleCtrlMessage sodium options remote packet ambient) := by
  have dispatched (current : Server) (allowed : Bool) :
      Conveys (ambient.moment ticket) remote packet current
        (if allowed = false then current
          else current.dispatchCtrl sodium options remote packet ambient (CtrlHdr.read packet).type) := by
    split
    · exact .silent (.refl current)
    · exact dispatchCtrl_relays sodium options current remote packet ambient _ ticket magic presented
  unfold handleCtrlMessage
  split
  · exact .silent (.refl server)
  simp only
  split
  · exact .ask Prod.mk.eta.symm (dispatched _ _)
  split
  · exact dispatched server true
  split <;> exact .ask Prod.mk.eta.symm (dispatched _ _)

theorem onReceive_relays (server : Server)
    (remote : Endpoint) (bytes : Octets) (ambient : Ambient) :
    Conveys ((Input.datagram remote bytes ambient).moment sodium options) remote
      (bytes.take recvBufSize) server (server.onReceive sodium options remote bytes ambient) := by
  unfold onReceive
  simp only
  split
  · exact .silent (.refl server)
  split
  · exact .silent (handlePingMessage_silent server remote _ ambient)
  split
  next magic =>
    refine handleCtrlMessage_relays sodium options server remote _ ambient _ magic ?_
    intro join long
    simp only [Input.ticket, magic, join, long, and_self, ↓reduceIte]
  split
  · exact (handleSecureControlMessage_forwards server remote _ ambient).toConveys
  split
  · exact (handleSecureAudioMessage_forwards server remote _ ambient).toConveys
  split
  next magic => exact (handleE2eKeyEnvelope_forwards server remote _ ambient magic).toConveys
  · exact .silent (.refl server)

/-- A packet the server relays is the beginning of the datagram it is handling. -/
theorem step_relays_beginning (server : Server)
    (input : Input) (endpoint : Endpoint) (packet : Octets)
    (copied : (endpoint, .relayed packet) ∈ (server.step sodium options input).copies) :
    ∃ remote bytes ambient, input = .datagram remote bytes ambient ∧ packet <+: bytes := by
  cases input with
  | datagram remote bytes ambient =>
    refine ⟨remote, bytes, ambient, rfl, ?_⟩
    have conveys := onReceive_relays sodium options { server with outbox := [], mediaTasks := [] }
      remote bytes ambient
    rcases conveys.passes endpoint packet copied with old | beginning
    · exact absurd old not_mem_nil
    · have cut := take_prefix recvBufSize bytes
      exact beginning.trans cut
  | aliveCheck ambient =>
    have silent := @aliveCheckTimerCallback_silent (ambient.moment none)
      { server with outbox := [], mediaTasks := [] } ambient
    exact absurd (silent.toHushed.copies endpoint _ copied) not_mem_nil

theorem step_evolves (server : Server) (input : Input) :
    Evolves (input.moment sodium options) server (step sodium options server input) := by
  have cleared : Evolves (input.moment sodium options) server
      { server with outbox := [], mediaTasks := [] } := ⟨no_operations rfl, .refl⟩
  refine cleared.trans ?_
  cases input with
  | datagram remote bytes ambient =>
    exact (onReceive_relays sodium options _ remote bytes ambient).evolves
  | aliveCheck ambient => exact (aliveCheckTimerCallback_silent _ ambient).toEvolves

theorem Evolves.coherent (evolves : Evolves moment before after)
    (coherent : before.clientManager.Coherent) : after.clientManager.Coherent := by
  obtain ⟨operations, named, reached⟩ := evolves.clients
  rw [reached]
  exact Run.invariant_of_mem apply ClientManager.Coherent
    ClientManager.Operation.Named apply_coherent before.clientManager operations
    coherent named

theorem reachable_coherent (inputs : List Input) :
    (run sodium options inputs).clientManager.Coherent :=
  Run.invariant (step sodium options) (fun server => server.clientManager.Coherent)
    (fun server input coherent => (step_evolves sodium options server input).coherent coherent)
    initial inputs initial_coherent

/-- In every reachable state, every copy the server makes of a datagram goes to
an endpoint registered in the sender's room, names the registered sender, and
is for the room's current media key; registrations are the same when the
datagram is accepted and when its copies leave. -/
theorem copies_confined (sodium : Sodium) (options : ServerOptions) (inputs : List Input)
    (remote : Endpoint) (bytes : Octets) (ambient : Ambient) (endpoint : Endpoint)
    (message : ServerMessage)
    (emitted : (endpoint, message) ∈ (step sodium options (run sodium options inputs)
      (.datagram remote bytes ambient)).copies) :
    Confined (run sodium options inputs) remote endpoint message ∧
      Confined (step sodium options (run sodium options inputs) (.datagram remote bytes ambient))
        remote endpoint message := by
  have relays := onReceive_relays sodium options
    { run sodium options inputs with outbox := [], mediaTasks := [] } remote bytes ambient
  rcases relays.confined (reachable_coherent sodium options inputs) endpoint message emitted with
    old | ⟨accepted, sent⟩
  · cases old
  · exact ⟨accepted.congr (fun _ => rfl) rfl, sent⟩

def jamOptions : ServerOptions where
  joinSecret := ascii "secret"
  serverId := ascii "srv"

def jamCommitment : Octets := replicate 64 (ofChar 'a')

def jamAmbient : Ambient where
  now := 1
  nowMs := 0
  instanceNonce := ascii "one"
  adminToken := []
  ticketNonce := []
  bufferFree := true
  queueAccepts := fun _ => true

/-- A ticket to the open room `jam`, whatever its instance. -/
def jamClaims (profileId nonce : Octets) : Claims where
  expiresAtMs := 10
  serverId := ascii "srv"
  roomId := ascii "jam"
  profileId := profileId
  roomInstanceId := []
  accessEpoch := 1
  mediaKeyCommitment := jamCommitment
  nonce := nonce

def joinDatagram (claims : Claims) : Octets :=
  u32Bytes ctrlMagic ++ [1] ++ u32Bytes 0 ++ padded 64 claims.roomId ++ padded 64 [] ++
    padded 64 claims.profileId ++ padded 64 claims.profileId ++
    padded 640 ((create .framing claims jamOptions.joinSecret).getD []) ++ u32Bytes 0 ++
    padded 32 []

def joinFrom (port : UInt16) (claims : Claims) : Input :=
  .datagram (loopback port) (joinDatagram claims) jamAmbient

def jamJoins : List Input :=
  [joinFrom 1 (jamClaims (ascii "ann") (ascii "n1")),
    joinFrom 2 (jamClaims (ascii "bob") (ascii "n2"))]

/-- A key envelope from participant 1 to participant 2 for the room's first epoch. -/
def jamEnvelope : Octets :=
  u32Bytes e2eKeyEnvelopeMagic ++ u32Bytes 1 ++ u32Bytes 2 ++ u32Bytes 1 ++ u16Bytes 136 ++
    u16Bytes 0 ++ jamCommitment ++ padded 256 []

theorem copies_confined_envelope :
    Confined (run .framing jamOptions jamJoins) (loopback 1) (loopback 2) (.relayed jamEnvelope) :=
  (copies_confined .framing jamOptions jamJoins (loopback 1) jamEnvelope jamAmbient (loopback 2)
    (.relayed jamEnvelope) (by decide +kernel)).1

end Server

end Sesivo
