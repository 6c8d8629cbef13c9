import Sesivo.Server.Departure

set_option autoImplicit false

/- How rooms and clients come in: room creation, ticket requests and JOIN as
sequences of directory steps. -/

namespace Sesivo.Server

open Relation Octets JoinToken SessionCrypto Option ClientManager

variable {moment : Directory.Moment}

variable (sodium : Sodium) (options : ServerOptions) (server : Server) {join : JoinHdr}
variable {claims : Claims} (remote : Endpoint) (packet : Octets) (ambient : Ambient)
variable (ticket : Option Claims) (joined : Endpoint)

theorem handleRoomCreateRequest_silent :
    Silent (ambient.moment ticket) server
      (server.handleRoomCreateRequest sodium options remote packet ambient) := by
  unfold handleRoomCreateRequest
  split
  · exact .refl server
  simp only
  split
  · exact send_silent server remote _ rfl
  split
  · exact send_silent server remote _ rfl
  have created (registry : RoomRegistry) (answer : registry = (server.roomRegistry.createRoom sodium
      (fixedString (RoomCreateRequestHdr.read packet).roomId)
      (fixedString (RoomCreateRequestHdr.read packet).roomName)
      (fixedString (RoomCreateRequestHdr.read packet).passwordHash)
      (RoomCreateRequestHdr.read packet).accessMode
      (fixedString (RoomCreateRequestHdr.read packet).mediaKeyCommitment) ambient.now
      ambient.adminToken ambient.instanceNonce).2) :
      Silent (ambient.moment ticket) server { server with roomRegistry := registry } := by
    refine Silent.of_registry server registry ?_
    rcases server.roomRegistry.createRoom_view sodium _ _ _ _ _ ambient.now ambient.adminToken
      ambient.instanceNonce with ⟨-, same⟩ | ⟨-, absent, -, -, added⟩
    · rw [answer, same]
      exact .refl
    · rw [answer, added]
      exact .single (.create server.view _ _ absent)
  split
  · exact (created _ rfl).trans (send_silent _ remote _ rfl)
  split <;> exact (created _ rfl).trans (send_silent _ remote _ rfl)

theorem handleRoomJoinTokenRequest_silent :
    Silent moment server
      (server.handleRoomJoinTokenRequest sodium options remote packet ambient) := by
  unfold handleRoomJoinTokenRequest
  split
  · exact .refl server
  simp only
  split
  · exact send_silent server remote _ rfl
  split
  · exact send_silent server remote _ rfl
  have checked := @Silent.of_sameRooms moment server _ (server.roomRegistry.authorizeJoin_view
    (fixedString (RoomJoinTokenRequestHdr.read packet).roomId)
    (fixedString (RoomJoinTokenRequestHdr.read packet).passwordHash) ambient.now).1
  split
  · exact checked.trans (send_silent _ remote _ rfl)
  split <;> exact checked.trans (send_silent _ remote _ rfl)

theorem cleanupUsedTokenNonces_silent :
    Silent (ambient.moment ticket) server (server.cleanupUsedTokenNonces ambient.nowMs) := by
  have expired : (server.cleanupUsedTokenNonces ambient.nowMs).view = { server.view with
      nonces := fun key => (server.view.nonces key).filter fun used =>
        !decide (used.2 < (ambient.moment ticket).nowMs) } := by
    simp only [view, cleanupUsedTokenNonces, Directory.mk.injEq, true_and]
    funext key
    simp only [nonceView, Store.lookup_keep, Ambient.moment]
    cases server.usedTokenNonces.lookup key with
    | none => rfl
    | some used => by_cases old : used.expiresAtMs < ambient.nowMs <;> simp [filter_some, old]
  refine ⟨⟨no_operations rfl, .single ?_⟩, .of_outbox rfl rfl⟩
  rw [expired]
  exact .expire server.view

/-- Writing the presented ticket's nonce down for its presenter. -/
theorem takeNonce_silent (claims : Claims) (remote : Endpoint)
    (ambient : Ambient) (used : UsedTokenNonce) (own : used.endpoint = remote)
    (expiry : used.expiresAtMs = claims.expiresAtMs)
    (free : ∀ current, server.usedTokenNonces.lookup (nonceReplayKey claims) = some current →
      current.endpoint ≠ remote → server.clientManager.exists current.endpoint = false) :
    Silent (ambient.moment (some claims)) server { server with
      usedTokenNonces := server.usedTokenNonces.insert (nonceReplayKey claims) used } := by
  refine ⟨⟨no_operations rfl, .single ?_⟩, .of_outbox rfl rfl⟩
  have taken : nonceView (server.usedTokenNonces.insert (nonceReplayKey claims) used) =
      Function.update server.view.nonces (nonceReplayKey claims)
        (some (remote, claims.expiresAtMs)) := by
    funext key
    simp only [nonceView, Store.lookup_insert, Function.update_apply, view]
    split
    · rw [map_some, own, expiry]
    · rfl
  simp only [view, taken]
  refine .reserve server.view remote claims rfl ?_
  intro holder bound held different
  obtain ⟨current, found, same⟩ := map_eq_some_iff.mp held
  obtain ⟨rfl, -⟩ := Prod.mk.inj same
  have unregistered := free current found different
  simp only [ClientManager.exists, isSome_eq_false_iff, isNone_iff_eq_none] at unregistered
  simp [view, sessions, unregistered]

/-- A reservation that succeeds leaves the nonce with the endpoint; one that
fails only forgets expired nonces. -/
theorem reserveTokenNonce_silent {server after : Server} {remote : Endpoint}
    {ambient : Ambient} {reserved : Bool}
    (answer : server.reserveTokenNonce claims remote ambient.nowMs = (reserved, after)) :
    Silent (ambient.moment (some claims)) server after ∧
      after.clientManager = server.clientManager ∧ after.roomRegistry = server.roomRegistry ∧
      (reserved ≠ false → nonceView after.usedTokenNonces (nonceReplayKey claims) =
        some (remote, claims.expiresAtMs)) := by
  have cleaned := cleanupUsedTokenNonces_silent server ambient (some claims)
  unfold reserveTokenNonce at answer
  simp only at answer
  split at answer
  next used found =>
    split at answer
    next held =>
      obtain ⟨rfl, rfl⟩ := Prod.mk.inj answer
      exact ⟨cleaned, rfl, rfl, fun accepted => absurd rfl accepted⟩
    rename_i unheld
    obtain ⟨rfl, rfl⟩ := Prod.mk.inj answer
    refine ⟨cleaned.trans (takeNonce_silent _ claims remote ambient _ rfl rfl ?_), rfl, rfl, ?_⟩
    · intro current present different
      rw [found] at present
      obtain rfl := some.inj present
      exact Bool.eq_false_of_not_eq_true fun registered => unheld ⟨different, registered⟩
    · intro _
      simp [nonceView]
  next missing =>
    obtain ⟨rfl, rfl⟩ := Prod.mk.inj answer
    refine ⟨cleaned.trans (takeNonce_silent _ claims remote ambient _ rfl rfl ?_), rfl, rfl, ?_⟩
    · intro current present
      rw [missing] at present
      cases present
    · intro _
      simp [nonceView]

/-- The room a ticket admits to exists afterwards, as reported; at most it is new. -/
theorem admitToRoom_silent {server : Server} {roomId : Octets}
    {ambient : Ambient} {admitted : Option RoomSnapshot} {registry : RoomRegistry}
    (answer : admitToRoom server.roomRegistry roomId claims ambient = (admitted, registry)) :
    Silent (ambient.moment ticket) server { server with roomRegistry := registry } ∧
      ∀ room, admitted = some room → registry.view roomId = some room.view := by
  unfold admitToRoom at answer
  split at answer
  · obtain ⟨same, valid⟩ := server.roomRegistry.validateClaims_view roomId claims.roomInstanceId
      claims.accessEpoch claims.mediaKeyCommitment ambient.now
    split at answer
    rename_i check after result
    rw [result] at same valid
    obtain ⟨rfl, rfl⟩ := Prod.mk.inj answer
    refine ⟨Silent.of_sameRooms server _ same, ?_⟩
    intro room accepted
    rw [ite_none_right_eq_some] at accepted
    rw [same, (valid accepted.1).1, some.inj accepted.2]
  · obtain ⟨change, present⟩ := server.roomRegistry.ensureOpenRoom_view roomId
      claims.mediaKeyCommitment ambient.now ambient.instanceNonce
    split at answer
    rename_i found after result
    rw [result] at change present
    obtain ⟨rfl, rfl⟩ := Prod.mk.inj answer
    refine ⟨Silent.of_registry server _ ?_, ?_⟩
    · rcases change with same | ⟨absent, added⟩
      · rw [same]
        exact .refl
      · rw [added]
        exact .single (.create server.view roomId _ absent)
    · intro room accepted
      rw [ite_none_left_eq_some] at accepted
      rw [present accepted.1, some.inj accepted.2]

/-- A registration is a departure of the profile's other endpoints, then an entry. -/
theorem registered_evolves {server : Server} {remote : Endpoint}
    {room : RoomView} {request : Registration} {client : ClientInfo} (now : Time)
    (ambient : Ambient) (named : request.roomId ≠ [])
    (secured : request.security = some (nonceReplayKey claims))
    (present : server.roomRegistry.view request.roomId = some room)
    (sameInstance : room.roomInstanceId = request.roomInstanceId)
    (sameEpoch : room.accessEpoch = request.accessEpoch)
    (reserved : nonceView server.usedTokenNonces (nonceReplayKey claims) =
      some (remote, claims.expiresAtMs))
    (fits : ClientManager.Fits client request) (manager : ClientManager)
    (moved : manager = server.clientManager.apply (.register remote now request))
    (placed : ∀ other, manager.clients.lookup other = if other = remote then some client
      else (server.clientManager.clients.lookup other).filter fun info =>
        !isDuplicate remote request other info) :
    Silent (ambient.moment (some claims)) server { server with clientManager := manager } := by
  refine ⟨⟨⟨[.register remote now request], ?_, moved⟩, ?_⟩, .of_outbox rfl rfl⟩
  · intro operation member
    rw [List.mem_singleton.mp member]
    exact named
  let kept := fun other => (server.clientManager.clients.lookup other).all fun info =>
    !isDuplicate remote request other info
  let cleared : Directory := { server.view with
    sessions := fun other => if kept other then server.view.sessions other else none
    nonces := server.view.nonces }
  have evicted : Directory.Step (ambient.moment (some claims)) server.view cleared :=
    .depart server.view kept server.view.nonces fun _ => .inl rfl
  have entered : ({ server with clientManager := manager } : Server).view = { cleared with
      sessions := Function.update cleared.sessions remote (some client.session) } := by
    simp only [view, cleared, Directory.mk.injEq, and_true]
    funext other
    simp only [sessions, placed other, Function.update_apply, kept]
    split
    · rfl
    · exact map_filter_eq_ite _ _ _
  have security := fits.security
  rw [secured] at security
  obtain ⟨authenticated, key⟩ := Prod.mk.inj security
  refine (ReflTransGen.single evicted).tail ?_
  rw [entered]
  refine .register cleared remote claims client.session room rfl reserved ?_ ?_ ?_ ?_
  · rw [session_nonceKey_iff]
    refine ⟨authenticated, ?_, key⟩
    rw [key]
    exact nonceReplayKey_ne_nil claims
  · exact (congrArg server.roomRegistry.view fits.roomId).trans present
  · exact sameInstance.trans fits.roomInstanceId.symm
  · exact sameEpoch.trans fits.accessEpoch.symm

theorem broadcastParticipantInfo_silent (participantId : UInt32) (profileId displayName : Octets) :
    Silent moment server
      (server.broadcastParticipantInfo joined participantId profileId displayName) := by
  unfold broadcastParticipantInfo
  split
  next endpoints read answer =>
    exact (cachedRoomEndpoints_silent answer).trans (sendAll_silent read endpoints _ rfl)

theorem sendExistingParticipantInfoTo_silent :
    Silent moment server (server.sendExistingParticipantInfoTo joined) := by
  refine foldl_silent _ ?_ server _
  intro current entry
  split
  · exact .refl current
  · exact send_silent current joined _ rfl

theorem admitClient_silent {server : Server} {remote : Endpoint} {room : RoomSnapshot}
    (named : fixedString join.roomId ≠ [])
    (present : server.roomRegistry.view (fixedString join.roomId) = some room.view)
    (reserved : nonceView server.usedTokenNonces (nonceReplayKey claims) =
      some (remote, claims.expiresAtMs)) :
    Silent (ambient.moment (some claims)) server
      (server.admitClient remote join room claims ambient.now) := by
  unfold admitClient
  split
  rename_i result manager answer
  have moved : manager = server.clientManager.apply
      (.register remote ambient.now (joinRegistration join room claims)) := by
    simp only [apply, answer]
  have outcome := server.clientManager.registerClient_registered remote ambient.now
    (joinRegistration join room claims)
  rw [answer] at outcome
  have registered : Silent (ambient.moment (some claims)) server
      { server with clientManager := manager } := by
    cases outcome with
    | rejected result full => exact .of_same rfl rfl rfl rfl rfl
    | accepted client replaced previous next fits left =>
      exact registered_evolves ambient.now ambient named rfl present rfl rfl reserved fits _ moved
        fun other => lookup_place _ remote other _ client replaced previous next
  refine registered.trans ?_
  split
  · exact send_silent _ remote _ rfl
  refine Silent.trans ?_ (sendExistingParticipantInfoTo_silent _ remote)
  refine Silent.trans ?_ (broadcastParticipantInfo_silent _ remote _ _ _)
  refine Silent.trans ?_ (send_silent _ remote _ rfl)
  refine (foldl_silent _ broadcastParticipantLeave_silent _ result.removedClientIds).trans ?_
  exact Silent.of_sameRooms _ _ (RoomRegistry.markJoined_view _ _ _)

theorem joinClaims_named {sodium : Sodium} {options : ServerOptions} {nowMs : Int}
    (accepted : joinClaims sodium options join nowMs = some claims) :
    fixedString join.roomId ≠ [] := by
  intro empty
  simp [joinClaims, empty] at accepted

theorem handleJoin_silent :
    Silent (ambient.moment (joinClaims sodium options (JoinHdr.read packet) ambient.nowMs)) server
      (server.handleJoin sodium options remote packet ambient) := by
  unfold handleJoin
  split
  · exact .refl server
  simp only
  split
  next => exact .refl server
  rename_i claims presented
  rw [presented]
  split
  next registry answer => exact (admitToRoom_silent (some claims) answer).1
  rename_i room registry answer
  obtain ⟨checked, present⟩ := admitToRoom_silent (some claims) answer
  generalize reservation : ({ server with roomRegistry := registry } : Server).reserveTokenNonce
    claims remote ambient.nowMs = outcome
  obtain ⟨reserved, after⟩ := outcome
  obtain ⟨silent, -, rooms, taken⟩ := reserveTokenNonce_silent reservation
  refine (checked.trans silent).trans ?_
  split
  next => exact .refl after
  rename_i accepted
  refine admitClient_silent ambient (joinClaims_named presented) ?_ (taken accepted)
  rw [rooms]
  exact present room rfl

end Sesivo.Server
