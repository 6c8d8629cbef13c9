import Sesivo.World

set_option autoImplicit false

/- When the clients of a room instance hold the same media key at the same epoch. -/

namespace Sesivo

open Octets JoinToken SessionCrypto List Run

def WorldEvent.draws : WorldEvent → Option Octets
  | .serve input => some input.ambient.instanceNonce
  | _ => none

/-- The room an event makes a client join, and whether the server's address resolves. -/
def WorldEvent.joins : WorldEvent → Option (RoomChoice × Bool)
  | .act _ _ (.joinRoom choice resolved) => some (choice, resolved)
  | _ => none

/-- The client that rotates the media key, with the secret and epoch it is given. -/
def WorldEvent.rotates : WorldEvent → Option (Nat × Octets × UInt32)
  | .act index _ (.rotateMediaKey mediaSecret accessEpoch) => some (index, mediaSecret, accessEpoch)
  | _ => none

def WorldEvent.host : WorldEvent → Option Nat
  | .serve _ => none
  | .deliver index _ _ => some index
  | .act index _ _ => some index
  | .move index _ => some index

namespace World

variable (sodium : Sodium) (options : ServerOptions)

/-- The datagram a client gets by the event. -/
def receives (world : World) : WorldEvent → Option (Nat × Delivery)
  | .deliver index position _ =>
    ((world.sent[position]?).filter fun delivery =>
      delivery.endpoint = (world.hosts index).endpoint).map fun delivery => (index, delivery)
  | _ => none

/-- Instance ids are drawn afresh, tickets come from the server, and a rotation is
asked for with the secret the server accepted for the epoch. -/
structure Assumed (world : World) (event : WorldEvent) : Prop where
  fresh : ∀ nonce ∈ event.draws, nonce ∉ world.drawn
  issued : ∀ join ∈ event.joins, world.Issued join.1.joinToken
  accepted : ∀ rotation ∈ event.rotates,
    world.Accepted sodium rotation.1 rotation.2.1 rotation.2.2

/-- No epoch wraps around, no room is joined at an address that does not resolve, and
a client only gets key envelopes and control packets of the room instance its
ticket names. -/
structure Orderly (world : World) (event : WorldEvent) : Prop where
  unwrapped : ∀ entry ∈ (world.step sodium options event).server.roomList,
    entry.2.accessEpoch ≠ 0
  resolved : ∀ join ∈ event.joins, join.2 = true
  ownRoom : ∀ received ∈ world.receives event, magicOf received.2.bytes ≠ ctrlMagic →
    (packetKey received.2.bytes).isSome = true →
    ∀ claims ∈ readTicket (world.client received.1).joinSession.options.joinToken,
      received.2.origin = some (claims.roomId, claims.roomInstanceId)

instance (world : World) (joinToken : Octets) : Decidable (world.Issued joinToken) :=
  inferInstanceAs (Decidable (∀ _ ∈ _, _))

instance (world : World) (index : Nat) (mediaSecret : Octets) (accessEpoch : UInt32) :
    Decidable (world.Accepted sodium index mediaSecret accessEpoch) :=
  inferInstanceAs (Decidable (∀ _ ∈ _, _))

instance (world : World) (event : WorldEvent) : Decidable (world.Assumed sodium event) :=
  decidable_of_iff ((∀ nonce ∈ event.draws, nonce ∉ world.drawn) ∧
      (∀ join ∈ event.joins, world.Issued join.1.joinToken) ∧
      ∀ rotation ∈ event.rotates, world.Accepted sodium rotation.1 rotation.2.1 rotation.2.2)
    ⟨fun all => ⟨all.1, all.2.1, all.2.2⟩, fun assumed =>
      ⟨assumed.fresh, assumed.issued, assumed.accepted⟩⟩

instance (world : World) (event : WorldEvent) : Decidable (world.Orderly sodium options event) :=
  decidable_of_iff ((∀ entry ∈ (world.step sodium options event).server.roomList,
      entry.2.accessEpoch ≠ 0) ∧ (∀ join ∈ event.joins, join.2 = true) ∧
      ∀ received ∈ world.receives event, magicOf received.2.bytes ≠ ctrlMagic →
        (packetKey received.2.bytes).isSome = true →
        ∀ claims ∈ readTicket (world.client received.1).joinSession.options.joinToken,
          received.2.origin = some (claims.roomId, claims.roomInstanceId))
    ⟨fun all => ⟨all.1, all.2.1, all.2.2⟩, fun orderly =>
      ⟨orderly.unwrapped, orderly.resolved, orderly.ownRoom⟩⟩

/-- No two of the media secrets the clients hold have the same digest. -/
def CollisionFree (world : World) : Prop :=
  ∀ left right, sodium.sha256 (world.client left).joinSession.options.mediaSecret =
      sodium.sha256 (world.client right).joinSession.options.mediaSecret →
    (world.client left).joinSession.options.mediaSecret =
      (world.client right).joinSession.options.mediaSecret

/-- Clients whose tickets name the same room instance, with a session key each and at
the same epoch, hold the same media secret and the same session key. -/
def Agrees (world : World) : Prop :=
  ∀ left right leftClaims rightClaims,
    leftClaims ∈ readTicket (world.client left).joinSession.options.joinToken →
    rightClaims ∈ readTicket (world.client right).joinSession.options.joinToken →
    leftClaims.roomId = rightClaims.roomId →
    leftClaims.roomInstanceId = rightClaims.roomInstanceId →
    (world.client left).sessionKey ≠ none → (world.client right).sessionKey ≠ none →
    (world.client left).joinSession.options.accessEpoch =
      (world.client right).joinSession.options.accessEpoch →
    (world.client left).joinSession.options.mediaSecret =
        (world.client right).joinSession.options.mediaSecret ∧
      (world.client left).sessionKey = (world.client right).sessionKey

end World

/-- The client's key is the one its options determine, and the room its ticket names
has been at the epoch and commitment it goes by. -/
structure Client.Anchored (sodium : Sodium) (seen : List (Octets × RoomView)) (client : Client) :
    Prop where
  derived : client.Derived sodium
  known : ∀ claims ∈ World.readTicket client.joinSession.options.joinToken,
    claims.roomId = client.joinSession.options.roomId →
    (claims.roomId, ⟨claims.roomInstanceId, client.joinSession.options.accessEpoch,
      client.joinSession.options.mediaKeyCommitment⟩) ∈ seen

namespace World

variable {sodium : Sodium} {seen : List (Octets × RoomView)}

theorem readTicket_eq_some {joinToken : Octets} {claims : Claims} :
    readTicket joinToken = some claims ↔
      ∃ signature, parseUnverified joinToken = .ok (claims, signature) := by
  unfold readTicket
  cases parseUnverified joinToken with
  | error reason => simp [Except.toOption]
  | ok parsed =>
    obtain ⟨found, signature⟩ := parsed
    simp [Except.toOption]

/-- Entering a room with an issued ticket, the options go by what the ticket says. -/
theorem applied_known {choice : PerformerJoinOptions} {claims : Claims}
    (issued : ∀ claims ∈ readTicket choice.joinToken, (claims.roomId, (⟨claims.roomInstanceId,
      claims.accessEpoch, claims.mediaKeyCommitment⟩ : RoomView)) ∈ seen)
    (named : claims ∈ readTicket (applyUnverifiedTokenClaims choice).joinToken)
    (same : claims.roomId = (applyUnverifiedTokenClaims choice).roomId) :
    (claims.roomId, ⟨claims.roomInstanceId, (applyUnverifiedTokenClaims choice).accessEpoch,
      (applyUnverifiedTokenClaims choice).mediaKeyCommitment⟩) ∈ seen := by
  have kept : (applyUnverifiedTokenClaims choice).joinToken = choice.joinToken ∧
      (applyUnverifiedTokenClaims choice).roomId = choice.roomId := by
    unfold applyUnverifiedTokenClaims
    split
    · exact ⟨rfl, rfl⟩
    split
    · exact ⟨rfl, rfl⟩
    split <;> exact ⟨rfl, rfl⟩
  rw [kept.1] at named
  rw [kept.2] at same
  obtain ⟨signature, parsed⟩ := readTicket_eq_some.mp named
  have present : choice.joinToken ≠ [] := by
    intro empty
    rw [empty] at parsed
    exact absurd parsed (by simp [show parseUnverified [] = .error "malformed token" from rfl])
  have applied : applyUnverifiedTokenClaims choice = { choice with
      roomInstanceId := claims.roomInstanceId
      accessEpoch := claims.accessEpoch
      mediaKeyCommitment := claims.mediaKeyCommitment } := by
    unfold applyUnverifiedTokenClaims
    rw [if_neg present, parsed]
    simp [same]
  rw [applied]
  exact issued claims named

end World

/-- A key change keeps the client anchored, if what it takes over was seen for its
room and what it enters with was issued. -/
theorem Client.KeyChange.anchored {sodium : Sodium} {allowed : Content → Prop}
    {offers : UInt32 → Octets → Prop} {enters : PerformerJoinOptions → Prop}
    {seen : List (Octets × RoomView)} {before after : Client}
    (change : KeyChange sodium allowed offers enters before after)
    (anchored : before.Anchored sodium seen)
    (offered : ∀ accessEpoch commitment, offers accessEpoch commitment →
      ∀ claims ∈ World.readTicket before.joinSession.options.joinToken,
        (claims.roomId, (⟨claims.roomInstanceId, accessEpoch, commitment⟩ : RoomView)) ∈ seen)
    (entered : ∀ choice, enters choice → ∀ claims ∈ World.readTicket choice.joinToken,
      (claims.roomId, (⟨claims.roomInstanceId, claims.accessEpoch,
        claims.mediaKeyCommitment⟩ : RoomView)) ∈ seen) : after.Anchored sodium seen := by
  cases change with
  | routine routine =>
    have same := routine.keyPart
    simp only [PerformerJoinOptions.keyPart, Prod.mk.injEq] at same
    obtain ⟨room, token, -, epoch, commitment⟩ := same
    refine ⟨routine.derived anchored.derived, ?_⟩
    rw [room, token, epoch, commitment]
    exact anchored.known
  | adopt mediaSecret accessEpoch commitment offer discreet keyPart derived =>
    simp only [PerformerJoinOptions.keyPart, Prod.mk.injEq] at keyPart
    obtain ⟨room, token, -, epoch, committed⟩ := keyPart
    refine ⟨derived, ?_⟩
    rw [token, epoch, committed]
    intro claims named _
    exact offered accessEpoch commitment offer claims named
  | enter choice enter discreet keyPart derived =>
    simp only [PerformerJoinOptions.keyPart, Prod.mk.injEq] at keyPart
    obtain ⟨room, token, -, epoch, committed⟩ := keyPart
    refine ⟨derived, ?_⟩
    rw [room, token, epoch, committed]
    intro claims named same
    exact World.applied_known (entered choice enter) named same

theorem Client.Anchored.mono {sodium : Sodium} {seen more : List (Octets × RoomView)}
    {client : Client} (anchored : client.Anchored sodium seen) :
    client.Anchored sodium (seen ++ more) :=
  ⟨anchored.derived, fun claims named same =>
    mem_append_left more (anchored.known claims named same)⟩

variable (bytes : Octets) {accessEpoch : UInt32} {commitment : Octets}

theorem magicOf_take : magicOf (bytes.take clientPacketBytes) = magicOf bytes := by
  rw [magicOf, u32At, slice_take _ _ _ _ (by decide), magicOf, u32At]

/-- The fields a client goes by lie inside its receive buffer. -/
theorem packetKey_take : packetKey (bytes.take clientPacketBytes) = packetKey bytes := by
  unfold packetKey
  rw [magicOf_take]
  simp (disch := decide) only [E2EKeyEnvelopeHdr.read, RoomKeyHandoffAckHdr.read,
    SecureControlHdr.read, u32At, slice_take]

theorem magicOf_ctrlDatagram (type : UInt8) (participantId : UInt32) (rest : Octets) :
    magicOf (ctrlDatagram type participantId ++ rest) = ctrlMagic := by
  exact u32At_u32Bytes ctrlMagic _

/-- Of all messages only relayed packets can bring a media key. -/
theorem ServerMessage.relayed_of_brings {message : ServerMessage} {bytes : Octets}
    (encoded : message.bytes = some bytes)
    (brings : Client.Brings bytes accessEpoch commitment) : message = .relayed bytes := by
  rcases message.bytes_cases encoded with relayed | ⟨type, -, participantId, rest, rfl⟩
  · exact relayed
  · exact absurd (magicOf_ctrlDatagram type participantId rest) brings.1

theorem Server.relayed_mem_copies {server : Server} {endpoint : Endpoint} {packet : Octets}
    (emitted : (endpoint, .relayed packet) ∈ server.emissions) :
    (endpoint, .relayed packet) ∈ server.copies := by
  rcases mem_append.mp emitted with sent | copied
  · exact mem_append_left _ (mem_filter.mpr ⟨sent, rfl⟩)
  · exact mem_append_right _ copied

/-- A packet that can bring a media key was relayed in a room that is at its epoch and
commitment, and is marked with the instance of that room. -/
theorem Server.delivery_origin (sodium : Sodium) (options : ServerOptions) (server : Server)
    (coherent : server.clientManager.Coherent) (input : Server.Input) {delivery : Delivery}
    (sent : delivery ∈ World.deliveries (server.step sodium options input) input)
    (brings : Client.Brings delivery.bytes accessEpoch commitment) :
    ∃ roomId roomInstanceId, delivery.origin = some (roomId, roomInstanceId) ∧
      (roomId, (⟨roomInstanceId, accessEpoch, commitment⟩ : RoomView)) ∈
        (server.step sodium options input).roomList := by
  obtain ⟨⟨endpoint, message⟩, emitted, encoded⟩ := mem_filterMap.mp sent
  obtain ⟨bytes, found, rfl⟩ := Option.map_eq_some_iff.mp encoded
  obtain rfl := ServerMessage.relayed_of_brings found brings
  have copied := Server.relayed_mem_copies emitted
  cases input with
  | aliveCheck ambient =>
    have silent := @aliveCheckTimerCallback_silent
      ((Input.aliveCheck ambient).moment sodium options)
      { server with outbox := [], mediaTasks := [] } ambient
    exact absurd (silent.toHushed.copies endpoint _ copied) not_mem_nil
  | datagram remote received ambient =>
    rcases (onReceive_relays sodium options { server with outbox := [], mediaTasks := [] } remote
      received ambient).confined coherent endpoint _ copied with old | ⟨-, confined⟩
    · exact absurd old not_mem_nil
    obtain ⟨roomId, clientId, targetId, stands, -, -, keyed⟩ := confined
    obtain ⟨room, located, rfl, rfl⟩ := keyed accessEpoch commitment brings.2
    refine ⟨roomId, room.roomInstanceId, ?_, (mem_roomList _ roomId _).mpr located⟩
    have standing : (server.step sodium options (.datagram remote received ambient)).standing
        remote = some (roomId, clientId) := stands
    have current : (server.step sodium options (.datagram remote received ambient)).rooms
        roomId = some room := located
    simp [Input.remote, roomInstanceOf, standing, current]

namespace World

variable {sodium : Sodium} {options : ServerOptions}

/-- The invariant of orderly runs. -/
structure Sound (sodium : Sodium) (world : World) : Prop where
  coherent : world.server.clientManager.Coherent
  chronicled : Chronicled world.drawn world.seen world.server.rooms
  sent : ∀ delivery ∈ world.sent, ∀ accessEpoch commitment,
    Client.Brings delivery.bytes accessEpoch commitment →
    ∃ roomId roomInstanceId, delivery.origin = some (roomId, roomInstanceId) ∧
      (roomId, ⟨roomInstanceId, accessEpoch, commitment⟩) ∈ world.seen
  anchored : ∀ index, (world.client index).Anchored sodium world.seen

theorem initial_sound (hosts : Nat → Endpoint × Option (Octets × Octets)) :
    (initial hosts).Sound sodium := by
  refine ⟨ClientManager.initial_coherent, ⟨?_, ?_, ?_, ?_⟩, ?_, fun index => ⟨.inl rfl, ?_⟩⟩
  · intro roomId room member
    cases member
  · intro roomId left right member
    cases member
  · intro roomId room found
    cases found
  · intro roomId room found
    cases found
  · intro delivery member
    cases member
  · intro claims named
    cases named

variable {world : World}

theorem Sound.serve (sound : world.Sound sodium) (input : Server.Input)
    (fresh : input.ambient.instanceNonce ∉ world.drawn)
    (unwrapped : ∀ entry ∈ (world.server.step sodium options input).roomList,
      entry.2.accessEpoch ≠ 0) : (world.step sodium options (.serve input)).Sound sodium := by
  refine ⟨(Server.step_evolves sodium options world.server input).coherent sound.coherent, ?_, ?_,
    fun index => (sound.anchored index).mono⟩
  · refine sound.chronicled.step (Server.step_roomsChange sodium options world.server input) ?_
      fresh (Server.mem_roomList _)
    intro roomId room found
    exact unwrapped (roomId, room) ((Server.mem_roomList _ roomId room).mpr found)
  intro delivery member accessEpoch commitment brings
  rcases mem_append.mp member with old | new
  · obtain ⟨roomId, roomInstanceId, origin, known⟩ :=
      sound.sent delivery old accessEpoch commitment brings
    exact ⟨roomId, roomInstanceId, origin, mem_append_left _ known⟩
  obtain ⟨roomId, roomInstanceId, origin, current⟩ :=
    Server.delivery_origin sodium options world.server sound.coherent input new brings
  exact ⟨roomId, roomInstanceId, origin, mem_append_right _ current⟩

theorem Sound.advance (sound : world.Sound sodium) (index : Nat)
    (event : ClientAmbient × ClientEvent)
    (anchored : ((world.client index).step sodium event).Anchored sodium world.seen) :
    (world.advance sodium index event).Sound sodium := by
  refine ⟨sound.coherent, sound.chronicled, sound.sent, ?_⟩
  intro other
  rw [advance_client]
  split
  · exact anchored
  · exact sound.anchored other

/-- A datagram of the client's own room leaves it anchored. -/
theorem Sound.receive (sound : world.Sound sodium) (index : Nat)
    (ambient : ClientAmbient) {delivery : Delivery} (member : delivery ∈ world.sent)
    (ownRoom : magicOf delivery.bytes ≠ ctrlMagic → (packetKey delivery.bytes).isSome = true →
      ∀ claims ∈ readTicket (world.client index).joinSession.options.joinToken,
        delivery.origin = some (claims.roomId, claims.roomInstanceId)) :
    ((world.client index).step sodium (ambient, .receive delivery.bytes)).Anchored sodium
      world.seen := by
  have change := @Client.onReceive_change (fun _ => True)
    (Client.Brings (delivery.bytes.take clientPacketBytes)) (· = {}) sodium
    { world.client index with outbox := [], effects := [] } ambient delivery.bytes rfl
    (fun _ _ brings => brings) (fun _ _ _ _ => trivial)
  refine change.1.anchored ⟨(sound.anchored index).derived, (sound.anchored index).known⟩ ?_ ?_
  · intro accessEpoch commitment brings claims named
    rw [Client.Brings, magicOf_take, packetKey_take] at brings
    obtain ⟨roomId, roomInstanceId, origin, known⟩ :=
      sound.sent delivery member accessEpoch commitment brings
    have own := ownRoom brings.1 (by rw [brings.2]; rfl) claims named
    rw [own] at origin
    cases origin
    exact known
  · rintro choice rfl claims named
    cases named

theorem Sound.act (sound : world.Sound sodium) (index : Nat)
    (ambient : ClientAmbient) (action : ClientAction)
    (assumed : world.Assumed sodium (.act index ambient action))
    (resolved : ∀ join ∈ (WorldEvent.act index ambient action).joins, join.2 = true) :
    ((world.client index).step sodium (ambient, .act action)).Anchored sodium world.seen := by
  have change := @Client.act_change (fun _ => True)
    (fun accessEpoch commitment => ∃ mediaSecret, action = .rotateMediaKey mediaSecret accessEpoch ∧
      mediaKeyCommitment sodium mediaSecret = some commitment)
    (fun entered => entered = {} ∨ ∃ choice, action = .joinRoom choice true ∧
      entered = (world.client index).joinOptions choice)
    sodium { world.client index with outbox := [], effects := [] } ambient action
    (by
      rintro choice rfl
      exact absurd (resolved (choice, false) rfl) Bool.false_ne_true)
    (.inl rfl) (fun choice same => .inr ⟨choice, same, rfl⟩)
    (fun mediaSecret accessEpoch commitment same committed => ⟨mediaSecret, same, committed⟩)
    (fun _ _ _ _ _ => trivial) (fun _ _ _ _ => trivial)
  refine change.anchored ⟨(sound.anchored index).derived, (sound.anchored index).known⟩ ?_ ?_
  · rintro accessEpoch commitment ⟨mediaSecret, rfl, committed⟩ claims named
    exact assumed.accepted (index, mediaSecret, accessEpoch) rfl claims named commitment committed
  rintro entered (rfl | ⟨choice, rfl, rfl⟩) claims named
  · cases named
  · exact assumed.issued (choice, true) rfl claims named

theorem step_sound (sound : world.Sound sodium) (event : WorldEvent)
    (assumed : world.Assumed sodium event) (orderly : world.Orderly sodium options event) :
    (world.step sodium options event).Sound sodium := by
  cases event with
  | serve input => exact sound.serve input (assumed.fresh _ rfl) orderly.unwrapped
  | act index ambient action =>
    exact sound.advance index (ambient, .act action)
      (sound.act index ambient action assumed orderly.resolved)
  | move index endpoint =>
    refine ⟨sound.coherent, sound.chronicled, sound.sent, ?_⟩
    intro other
    rw [move_client]
    exact sound.anchored other
  | deliver index position ambient =>
    have ownRoom := orderly.ownRoom
    simp only [step]
    split
    · exact sound
    rename_i delivery found
    split
    next here =>
      refine sound.advance index _ (sound.receive index ambient (mem_of_getElem? found) ?_)
      refine ownRoom (index, delivery) ?_
      simp [receives, found, Option.filter_some, here]
    · exact sound

/-- What a client's session key says of its ticket, its epoch and its secret. -/
theorem Sound.source (sound : world.Sound sodium) {index : Nat} {claims : Claims}
    (named : claims ∈ readTicket (world.client index).joinSession.options.joinToken)
    (keyed : (world.client index).sessionKey ≠ none) :
    (claims.roomId, ⟨claims.roomInstanceId, (world.client index).joinSession.options.accessEpoch,
        (world.client index).joinSession.options.mediaKeyCommitment⟩) ∈ world.seen ∧
      mediaKeyCommitment sodium (world.client index).joinSession.options.mediaSecret =
        some (world.client index).joinSession.options.mediaKeyCommitment ∧
      (world.client index).sessionKey = deriveMediaKeyFromSecret sodium claims.roomId
        claims.roomInstanceId (world.client index).joinSession.options.mediaSecret := by
  obtain ⟨key, held⟩ := Option.ne_none_iff_exists'.mp keyed
  rcases (sound.anchored index).derived with none | derived
  · exact absurd none keyed
  obtain ⟨found, signature, parsed, ownRoom, committed, computed⟩ :=
    Client.mediaKeyFromSecret_eq_some.mp (derived.symm.trans held)
  have same := readTicket_eq_some.mpr ⟨signature, parsed⟩
  obtain rfl := Option.some.inj (same.symm.trans named)
  exact ⟨(sound.anchored index).known found named ownRoom, committed, held.trans computed.symm⟩

/-- In every orderly run the clients agree, as long as the secrets they hold have
different digests. -/
theorem key_agreement (sodium : Sodium) (options : ServerOptions)
    (hosts : Nat → Endpoint × Option (Octets × Octets)) (events : List WorldEvent)
    (meets : Run.Allowed (step sodium options)
      (fun world event => world.Assumed sodium event ∧ world.Orderly sodium options event)
      (initial hosts) events)
    (collisionFree : (run (step sodium options) (initial hosts) events).CollisionFree sodium) :
    (run (step sodium options) (initial hosts) events).Agrees := by
  have sound : (run (step sodium options) (initial hosts) events).Sound sodium := by
    refine invariant_of_allowed (step sodium options) _ (Sound sodium) (initial hosts) events
      ?_ (initial_sound hosts) meets
    intro world event _ earlier both
    exact step_sound earlier event both.1 both.2
  intro left right leftClaims rightClaims leftNamed rightNamed room roomInstance leftKeyed
    rightKeyed epoch
  obtain ⟨leftSeen, leftCommitted, leftKey⟩ := sound.source leftNamed leftKeyed
  obtain ⟨rightSeen, rightCommitted, rightKey⟩ := sound.source rightNamed rightKeyed
  -- the chronicle has one commitment for the epoch, and it has one secret
  rw [room, roomInstance] at leftSeen
  have view := sound.chronicled.unique _ _ _ leftSeen rightSeen rfl epoch
  rw [RoomView.mk.injEq] at view
  rw [view.2.2] at leftCommitted
  have secrets := collisionFree left right (mediaKeyCommitment_inj leftCommitted rightCommitted)
  refine ⟨secrets, ?_⟩
  rw [leftKey, rightKey, room, roomInstance, secrets]

/-- A client none of the events concerns is as it was. -/
theorem run_client_other (world : World) (events : List WorldEvent) (other : Nat)
    (untouched : ∀ event ∈ events, event.host ≠ some other) :
    (run (step sodium options) world events).client other = world.client other := by
  refine invariant_of_mem (step sodium options)
    (fun current => current.client other = world.client other)
    (fun event => event.host ≠ some other)
    ?_ world events rfl untouched
  intro current event same elsewhere
  rw [← same]
  have advanced (index : Nat) (change : ClientAmbient × ClientEvent) (apart : index ≠ other) :
      (current.advance sodium index change).client other = current.client other := by
    rw [advance_client, if_neg apart.symm]
  cases event with
  | serve input => rfl
  | act index ambient action => exact advanced index _ fun found => elsewhere (congrArg some found)
  | move index endpoint => exact move_client sodium options current index endpoint other
  | deliver index position ambient =>
    simp only [step]
    split
    · rfl
    split
    · exact advanced index _ fun found => elsewhere (congrArg some found)
    · rfl

open Server Client

def scene (instanceNonce : String) : Ambient where
  now := 1
  nowMs := 0
  instanceNonce := ascii instanceNonce
  adminToken := ascii "admin"
  ticketNonce := []
  bufferFree := true
  queueAccepts := fun _ => true

/-- Mallory, at port 9, sends something. -/
def mallorySends (instanceNonce : String) (bytes : Octets) : WorldEvent :=
  .serve (.datagram (loopback 9) bytes (scene instanceNonce))

def commitmentTo (mediaSecret : String) : Octets :=
  (mediaKeyCommitment .framing (ascii mediaSecret)).getD []

def createRequest (roomId mediaSecret : String) : Octets :=
  ctrlDatagram 13 0 ++ u32Bytes 1 ++ padded 64 (ascii roomId) ++ padded 64 [] ++
    padded 128 (ascii "mal") ++ padded 128 [] ++ padded 65 (commitmentTo mediaSecret) ++
    [roomAccessOpen, 0, 0, 0]

def rotateRequest (roomId mediaSecret : String) : Octets :=
  ctrlDatagram 17 0 ++ u32Bytes 1 ++ [roomAdminRotateMediaKey, 0, 0, 0] ++ u32Bytes 0 ++
    padded 64 (ascii roomId) ++ padded 128 (ascii "admin") ++ padded 128 [] ++
    padded 65 (commitmentTo mediaSecret)

def ticketTo (roomId roomInstanceId profileId : String) (accessEpoch : UInt32)
    (mediaSecret : String) : Claims where
  expiresAtMs := 10
  serverId := ascii "srv"
  roomId := ascii roomId
  profileId := ascii profileId
  roomInstanceId := ascii roomInstanceId
  accessEpoch := accessEpoch
  mediaKeyCommitment := commitmentTo mediaSecret
  nonce := ascii "n1"

def enter (index : Nat) (claims : Claims) (mediaSecret : Octets) : WorldEvent :=
  .act index quietAmbient (.joinRoom ⟨claims.roomId, claims.profileId, claims.profileId,
    (create .framing claims jamOptions.joinSecret).getD [], mediaSecret, roomAccessOpen⟩ true)

/-- A key envelope from Mallory, participant 2, to Bob, participant 1. -/
def envelopeToBob (accessEpoch : UInt32) (mediaSecret : String) : Octets :=
  keyEnvelopeBytes 2 1 accessEpoch (commitmentTo mediaSecret)
    ((sealKeyEnvelope .framing (ascii "bob") (keyEnvelopePayload accessEpoch (ascii mediaSecret))
      e2eKeyEnvelopeMaxBytes []).getD [])

/-- Bob is the first host, Cat the second. -/
def bobAndCat : Nat → Endpoint × Option (Octets × Octets)
  | 0 => (loopback 1, some (ascii "bob", ascii "bob"))
  | _ => (loopback 2, none)

def bobEntersLeft : WorldEvent := enter 0 (ticketTo "left" "one" "bob" 1 "a") []

def bobJoin : Octets :=
  ((((initial bobAndCat).step .framing jamOptions bobEntersLeft).client 0).outbox.map
    Datagram.bytes).headD []

/-- Bob and Mallory join the room `left`, Bob without its secret. -/
def opening : List WorldEvent :=
  [mallorySends "one" (createRequest "left" "a"), bobEntersLeft,
    .serve (.datagram (loopback 1) bobJoin (scene "three")),
    mallorySends "four" (joinDatagram (ticketTo "left" "one" "mal" 1 "a"))]

/-- The media secrets of Bob and Cat. -/
def heldSecrets (world : World) : List Octets :=
  [(world.client 0).joinSession.options.mediaSecret,
    (world.client 1).joinSession.options.mediaSecret]

/-- Among two hosts and those that never did anything, it is enough to compare the
secrets of the two. -/
theorem collisionFree_of_two (events : List WorldEvent)
    (few : ∀ event ∈ events, event.host.all (· < 2) = true)
    (apart : ∀ left ∈ [] :: heldSecrets (run (step sodium options) (initial bobAndCat) events),
      ∀ right ∈ [] :: heldSecrets (run (step sodium options) (initial bobAndCat) events),
        sodium.sha256 left = sodium.sha256 right → left = right) :
    (run (step sodium options) (initial bobAndCat) events).CollisionFree sodium := by
  have all (index : Nat) : ((run (step sodium options) (initial bobAndCat) events).client
      index).joinSession.options.mediaSecret ∈
        [] :: heldSecrets (run (step sodium options) (initial bobAndCat) events) := by
    match index with
    | 0 => exact mem_cons_of_mem _ mem_cons_self
    | 1 => exact mem_cons_of_mem _ (mem_cons_of_mem _ mem_cons_self)
    | index + 2 =>
      rw [run_client_other (initial bobAndCat) events (index + 2)]
      · exact mem_cons_self
      intro event member found
      have low := few event member
      rw [found, Option.all_some, decide_eq_true_eq] at low
      omega
  intro left right
  exact apart _ (all left) _ (all right)

/-- Cat enters with the secret, Bob hears of having joined, and Mallory hands Bob the key. -/
def handover : List WorldEvent :=
  opening ++ [enter 1 (ticketTo "left" "one" "cat" 1 "a") (ascii "a"), .deliver 0 0 quietAmbient,
    mallorySends "five" (envelopeToBob 1 "a"), .deliver 0 6 quietAmbient]

theorem key_agreement_handover :
    (((run (step .framing jamOptions)
    (initial bobAndCat) handover).client 0).sessionKey ≠ none ∧
      ((run (step .framing jamOptions) (initial bobAndCat) handover).client 1).sessionKey ≠
        none) ∧
    (run (step .framing jamOptions) (initial bobAndCat) handover).Agrees := by
  have facts : Run.Allowed (step .framing jamOptions)
        (fun world event => world.Assumed .framing event ∧ world.Orderly .framing jamOptions event)
        (initial bobAndCat) handover ∧
      heldSecrets (run (step .framing jamOptions) (initial bobAndCat) handover) =
        [ascii "a", ascii "a"] ∧
      ((run (step .framing jamOptions) (initial bobAndCat) handover).client 0).sessionKey ≠
        none ∧
      ((run (step .framing jamOptions) (initial bobAndCat) handover).client 1).sessionKey ≠
        none := by
    decide +kernel
  obtain ⟨meets, held, keyed⟩ := facts
  refine ⟨keyed, key_agreement .framing jamOptions bobAndCat handover meets ?_⟩
  refine collisionFree_of_two handover (by decide) ?_
  decide +kernel

/-- Bob goes on to the room `right`, with a ticket for its first epoch and without its
secret. Before the server gets that JOIN, a second copy of the acknowledgement
from `left` reaches Bob, and then an envelope that Mallory sent there. -/
def crossing : List WorldEvent :=
  opening ++ [mallorySends "two" (createRequest "right" "b"),
    mallorySends "five" (rotateRequest "left" "c"),
    enter 0 (ticketTo "right" "two" "bob" 1 "b") [],
    mallorySends "six" (rotateRequest "right" "d"),
    enter 1 (ticketTo "right" "two" "cat" 2 "d") (ascii "d"), .deliver 0 0 quietAmbient,
    mallorySends "seven" (envelopeToBob 2 "c"), .deliver 0 6 quietAmbient]

theorem key_disagreement :
    Run.Allowed (step .framing jamOptions) (Assumed .framing) (initial bobAndCat) crossing ∧
      (run (step .framing jamOptions) (initial bobAndCat) crossing).CollisionFree .framing ∧
      ¬ (run (step .framing jamOptions) (initial bobAndCat) crossing).Agrees := by
  have facts : Run.Allowed (step .framing jamOptions) (Assumed .framing) (initial bobAndCat)
        crossing ∧
      heldSecrets (run (step .framing jamOptions) (initial bobAndCat) crossing) =
        [ascii "c", ascii "d"] ∧
      [0, 1].map (fun index => readTicket ((run (step .framing jamOptions) (initial bobAndCat)
          crossing).client index).joinSession.options.joinToken) =
        [some (ticketTo "right" "two" "bob" 1 "b"), some (ticketTo "right" "two" "cat" 2 "d")] ∧
      [0, 1].map (fun index => ((run (step .framing jamOptions) (initial bobAndCat)
          crossing).client index).sessionKey.isSome) = [true, true] ∧
      [0, 1].map (fun index => ((run (step .framing jamOptions) (initial bobAndCat)
          crossing).client index).joinSession.options.accessEpoch) = [2, 2] := by
    decide +kernel
  obtain ⟨meets, held, tickets, keyed, epochs⟩ := facts
  refine ⟨meets, collisionFree_of_two crossing (by decide) (by rw [held]; decide +kernel), ?_⟩
  simp only [map_cons, map_nil, cons.injEq, and_true] at tickets keyed epochs
  intro agrees
  have same := (agrees 0 1 _ _ tickets.1 tickets.2 rfl rfl
    (Option.isSome_iff_ne_none.mp keyed.1) (Option.isSome_iff_ne_none.mp keyed.2)
    (epochs.1.trans epochs.2.symm)).1
  simp only [heldSecrets, cons.injEq, and_true] at held
  rw [held.1, held.2] at same
  exact absurd same (by decide)

end World

end Sesivo
