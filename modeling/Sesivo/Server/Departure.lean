import Sesivo.Server.Frame

set_option autoImplicit false

/- How clients leave and rooms change: LEAVE, timeouts and the admin commands as
sequences of directory steps. -/

namespace Sesivo.Server

open Relation Octets JoinToken SessionCrypto Option ClientManager

variable {moment : Directory.Moment}

theorem map_filter_eq_ite {α β : Type} (f : α → β) (keeps : α → Bool) (entry : Option α) :
    (entry.filter keeps).map f = if entry.all keeps then entry.map f else none := by
  cases entry with
  | none => rfl
  | some value =>
    simp only [filter_some, all_some]
    split <;> rfl

/-- `after` has lost some clients, and no nonces other than theirs. -/
structure Departed (before after : Server) (keeps : Endpoint → ClientInfo → Bool) : Prop where
  clients : ∀ endpoint, after.clientManager.clients.lookup endpoint =
    (before.clientManager.clients.lookup endpoint).filter (keeps endpoint)
  nonces : ∀ key, nonceView after.usedTokenNonces key = nonceView before.usedTokenNonces key ∨
    (nonceView after.usedTokenNonces key = none ∧ ∃ endpoint info,
      before.clientManager.clients.lookup endpoint = some info ∧ keeps endpoint info = false ∧
        info.session.nonceKey = some key)

variable (sodium : Sodium) (server : Server) {before after : Server} (manager : ClientManager)
variable (roomId : Octets) (remote : Endpoint) (ambient : Ambient)
variable {removed : List (Endpoint × ClientInfo)} {authorized : AuthorizeResult}
variable {answered : RoomAdminResponse} {keeps : Endpoint → ClientInfo → Bool}

theorem Departed.sessions (departed : Departed before after keeps) (endpoint : Endpoint) :
    after.clientManager.sessions endpoint =
      if (before.clientManager.clients.lookup endpoint).all (keeps endpoint) then
        before.clientManager.sessions endpoint
      else none := by
  simp only [ClientManager.sessions, departed.clients endpoint]
  exact map_filter_eq_ite _ _ _

theorem Departed.step (departed : Departed before after keeps) :
    Directory.Step moment before.view { after.view with rooms := before.view.rooms } := by
  have same : { after.view with rooms := before.view.rooms } = { before.view with
      sessions := fun endpoint =>
        if (before.clientManager.clients.lookup endpoint).all (keeps endpoint) then
          before.view.sessions endpoint
        else none
      nonces := after.view.nonces } := by
    simp only [view, Directory.mk.injEq, and_true]
    funext endpoint
    exact departed.sessions endpoint
  rw [same]
  refine .depart before.view _ _ ?_
  intro key
  refine (departed.nonces key).imp_right ?_
  rintro ⟨gone, endpoint, info, found, removed, keyed⟩
  refine ⟨gone, endpoint, info.session, ?_, ?_, keyed⟩
  · simp only [found, all_some, removed]
  · simp only [view, ClientManager.sessions, found, map_some]

/-- One client manager operation whose departures free only their own nonces. -/
theorem Departed.silent
    (departed : Departed before after keeps) (operation : ClientManager.Operation)
    (named : operation.Named) (moved : after.clientManager = before.clientManager.apply operation)
    (rooms : after.roomRegistry.view = before.roomRegistry.view)
    (hushed : Hushed before after) : Silent moment before after := by
  refine ⟨⟨⟨[operation], ?_, moved⟩, .single ?_⟩, hushed⟩
  · intro other member
    rw [List.mem_singleton.mp member]
    exact named
  have same : after.view = { after.view with rooms := before.view.rooms } := by
    simp only [view, rooms]
  rw [same]
  exact departed.step

theorem session_nonceKey_iff (info : ClientInfo) (key : Octets) :
    info.session.nonceKey = some key ↔
      info.hasAuthenticatedSession = true ∧ info.tokenNonceKey ≠ [] ∧ info.tokenNonceKey = key := by
  simp only [ClientInfo.session]
  split
  next absent =>
    constructor
    · intro impossible
      cases impossible
    rintro ⟨authenticated, nonempty, -⟩
    rcases absent with missing | empty
    · rw [missing] at authenticated
      cases authenticated
    · exact absurd empty nonempty
  next present =>
    rw [not_or, Bool.not_eq_false] at present
    simp only [some.injEq, present.1, ne_eq, present.2, not_false_eq_true, true_and]

theorem release_nonces (client : ClientInfo) (key : Octets) :
    nonceView (server.releaseTokenNonceForClient client).usedTokenNonces key =
      if client.session.nonceKey = some key then none else nonceView server.usedTokenNonces key := by
  unfold releaseTokenNonceForClient
  split
  next absent => simp only [ClientInfo.session, absent, ↓reduceIte, reduceCtorEq]
  rename_i present
  simp only [ClientInfo.session, present, ↓reduceIte, some.injEq, nonceView,
    Store.lookup_erase, @eq_comm _ key]
  split <;> rfl

/-- The clients of the list have been dismissed: the stores of clients and rooms
are as before, and at most their nonces are gone. -/
structure Dismissed (removed : List (Endpoint × ClientInfo)) (before after : Server) : Prop where
  clients : after.clientManager = before.clientManager
  rooms : after.roomRegistry = before.roomRegistry
  hushed : Hushed before after
  nonces : ∀ key, nonceView after.usedTokenNonces key = nonceView before.usedTokenNonces key ∨
    (nonceView after.usedTokenNonces key = none ∧
      ∃ entry ∈ removed, entry.2.session.nonceKey = some key)

theorem release_dismissed (endpoint : Endpoint) (client : ClientInfo) :
    Dismissed [(endpoint, client)] server (server.releaseTokenNonceForClient client) := by
  have frame : (server.releaseTokenNonceForClient client).clientManager = server.clientManager ∧
      (server.releaseTokenNonceForClient client).roomRegistry = server.roomRegistry ∧
      Hushed server (server.releaseTokenNonceForClient client) := by
    unfold releaseTokenNonceForClient
    split <;> exact ⟨rfl, rfl, .of_outbox rfl rfl⟩
  refine ⟨frame.1, frame.2.1, frame.2.2, ?_⟩
  intro key
  rw [release_nonces]
  split
  next keyed => exact .inr ⟨rfl, (endpoint, client), List.mem_singleton_self _, keyed⟩
  next => exact .inl rfl

theorem Dismissed.trans {some more : List (Endpoint × ClientInfo)} {first second third : Server}
    (earlier : Dismissed some first second) (later : Dismissed more second third) :
    Dismissed (some ++ more) first third := by
  refine ⟨later.clients.trans earlier.clients, later.rooms.trans earlier.rooms,
    earlier.hushed.trans later.hushed, ?_⟩
  intro key
  rcases later.nonces key with same | ⟨gone, entry, member, keyed⟩
  · rw [same]
    refine (earlier.nonces key).imp_right ?_
    rintro ⟨gone, entry, member, keyed⟩
    exact ⟨gone, entry, List.mem_append_left _ member, keyed⟩
  · exact .inr ⟨gone, entry, List.mem_append_right _ member, keyed⟩

theorem dismissParticipant_dismissed (removed : Endpoint × ClientInfo) :
    Dismissed [removed] server (server.dismissParticipant removed) := by
  have released := release_dismissed (server.send removed.1 (.roomRemoved removed.2.clientId))
    removed.1 removed.2
  refine ⟨released.clients, released.rooms, ?_, released.nonces⟩
  have told := sendAll_hushed server [removed.1] (.roomRemoved removed.2.clientId) rfl
  refine Hushed.trans ?_ (sendAll_hushed _ _ _ rfl)
  exact (told.trans released.hushed).trans (.of_outbox rfl rfl)

theorem dismissAll_dismissed (removed : List (Endpoint × ClientInfo)) (server : Server) :
    Dismissed removed server (removed.foldl dismissParticipant server) := by
  induction removed generalizing server with
  | nil => exact ⟨rfl, rfl, .of_outbox rfl rfl, fun _ => .inl rfl⟩
  | cons entry removed ih => exact (dismissParticipant_dismissed server entry).trans (ih _)

/-- Clients that leave the table and are then dismissed have departed. -/
theorem Dismissed.departed {cleared : Server} (dismissed : Dismissed removed cleared after)
    (nonces : cleared.usedTokenNonces = before.usedTokenNonces)
    (clients : ∀ endpoint, cleared.clientManager.clients.lookup endpoint =
      (before.clientManager.clients.lookup endpoint).filter (keeps endpoint))
    (gone : ∀ entry ∈ removed, before.clientManager.clients.lookup entry.1 = some entry.2 ∧
      keeps entry.1 entry.2 = false) : Departed before after keeps := by
  refine ⟨?_, ?_⟩
  · rw [dismissed.clients]
    exact clients
  intro key
  rw [← nonces]
  refine (dismissed.nonces key).imp_right ?_
  rintro ⟨freed, entry, member, keyed⟩
  exact ⟨freed, entry.1, entry.2, (gone entry member).1, (gone entry member).2, keyed⟩

theorem Dismissed.silent {manager : ClientManager} (keeps : Endpoint → ClientInfo → Bool)
    (dismissed : Dismissed removed { before with clientManager := manager } after)
    (operation : ClientManager.Operation) (named : operation.Named)
    (moved : manager = before.clientManager.apply operation)
    (clients : ∀ endpoint, manager.clients.lookup endpoint =
      (before.clientManager.clients.lookup endpoint).filter (keeps endpoint))
    (gone : ∀ entry ∈ removed, before.clientManager.clients.lookup entry.1 = some entry.2 ∧
      keeps entry.1 entry.2 = false) : Silent moment before after := by
  have departed : Departed before after keeps := dismissed.departed rfl clients gone
  refine departed.silent operation named (dismissed.clients.trans moved) ?_ ?_
  · rw [dismissed.rooms]
  · exact ⟨dismissed.hushed.relays, dismissed.hushed.tasks⟩

theorem lookup_erase_filter (clients : Store Endpoint ClientInfo) (gone endpoint : Endpoint) :
    (clients.erase gone).lookup endpoint =
      (clients.lookup endpoint).filter fun _ => decide (endpoint ≠ gone) := by
  rw [Store.lookup_erase]
  split
  next same => cases clients.lookup endpoint <;> simp [same]
  next different => cases clients.lookup endpoint <;> simp [different, filter_some]

theorem handleLeave_silent : Silent moment server (server.handleLeave remote ambient) := by
  unfold handleLeave
  split
  next => exact .refl server
  rename_i leaving manager answer
  refine Silent.trans ?_ (cleanupEmptyRooms_silent _ ambient.now)
  refine Silent.trans ?_ (broadcastParticipantLeave_silent _ leaving.clientId)
  have moved : manager = server.clientManager.apply (.remove remote) := by simp only [apply, answer]
  unfold removeClientWithInfo at answer
  split at answer
  next => cases answer
  rename_i info found
  obtain ⟨same, rfl⟩ := Prod.mk.inj answer
  obtain rfl := some.inj same
  refine (release_dismissed _ remote info).silent (fun endpoint _ => decide (endpoint ≠ remote))
    (.remove remote) trivial moved ?_ ?_
  · intro endpoint
    rw [invalidate_clients, lookup_erase_filter]
  intro entry member
  rw [List.mem_singleton.mp member]
  exact ⟨found, by simp⟩

/-- A kick that finds its participant removes it and nothing else; one that does
not leaves the server alone and says so. -/
theorem kickRoomParticipant_silent (participantId : UInt32)
    (now : Time) (response : RoomAdminResponse) :
    let answer := server.kickRoomParticipant roomId participantId now response
    Silent moment server answer.2.2 ∧ (answer.1 = false → answer.2.1.status ≠ roomStatusOk) ∧
      (answer.1 ≠ false → answer.2.1 = response) := by
  intro answer
  simp only [answer, kickRoomParticipant]
  split
  · refine ⟨.refl server, fun _ => ?_, fun kicked => absurd rfl kicked⟩
    exact (by decide : roomStatusBadRequest ≠ roomStatusOk)
  split
  next =>
    refine ⟨.refl server, fun _ => ?_, fun kicked => absurd rfl kicked⟩
    exact (by decide : roomStatusNotFound ≠ roomStatusOk)
  rename_i removed manager result
  refine ⟨?_, Bool.noConfusion, fun _ => rfl⟩
  refine Silent.trans ?_ (cleanupEmptyRooms_silent _ now)
  have moved : manager = server.clientManager.apply (.removeRoomClient roomId participantId) := by
    simp only [apply, result]
  unfold removeRoomClientWithInfo at result
  split at result
  next => cases result
  rename_i entry found
  obtain ⟨same, rfl⟩ := Prod.mk.inj result
  obtain rfl := some.inj same
  have held := (server.clientManager.clients.mem_pairs entry.1 entry.2).mp
    (List.mem_of_find?_eq_some found)
  refine (dismissParticipant_dismissed _ entry).silent
    (fun endpoint _ => decide (endpoint ≠ entry.1))
    (.removeRoomClient roomId participantId) trivial moved ?_ ?_
  · intro endpoint
    rw [invalidate_clients, lookup_erase_filter]
  intro other member
  rw [List.mem_singleton.mp member]
  exact ⟨held, by simp⟩

theorem removeRoomClientsWithInfo_clients :
    (manager.removeRoomClientsWithInfo roomId).2.clients =
      manager.clients.keep fun _ info => decide (info.roomId ≠ roomId) := by
  simp only [removeRoomClientsWithInfo]
  split
  · rfl
  · rw [invalidate_clients]

theorem aliveCheck_clients (now timeout : Time) :
    (manager.removeTimedOutClients now timeout).2.clients =
      manager.clients.keep fun _ info => !timedOut now timeout info :=
  (foldl_invalidate _ _).1

theorem aliveCheckTimerCallback_silent :
    Silent moment server (server.aliveCheckTimerCallback ambient) := by
  unfold aliveCheckTimerCallback
  split
  next timedOutIds manager answer =>
    refine Silent.trans ?_ (cleanupEmptyRooms_silent _ ambient.now)
    refine Silent.trans ?_ (foldl_silent _ broadcastParticipantLeave_silent _ timedOutIds)
    have moved : manager = server.clientManager.apply (.removeTimedOut ambient.now clientTimeout) := by
      simp only [apply, answer]
    have departed : Departed server { server with clientManager := manager } fun _ info =>
        !timedOut ambient.now clientTimeout info := by
      refine ⟨?_, fun _ => .inl rfl⟩
      intro endpoint
      rw [moved]
      simp only [apply, aliveCheck_clients, Store.lookup_keep]
    exact departed.silent (.removeTimedOut ambient.now clientTimeout) trivial moved rfl
      (.of_outbox rfl rfl)

/-- Closing a room ends its sessions, frees their nonces and deletes the room. -/
theorem removeAll_silent (closed : RoomRegistry) (roomId : Octets) (now : Time)
    (deleted : closed.view = Function.update server.roomRegistry.view roomId none) :
    let after := { server with roomRegistry := closed }.removeAllRoomParticipants roomId now
    Silent moment server after ∧
      ∀ endpoint info, after.clientManager.clients.lookup endpoint = some info →
        info.roomId ≠ roomId := by
  intro after
  let manager := (server.clientManager.removeRoomClientsWithInfo roomId).2
  have cleared (endpoint : Endpoint) : manager.clients.lookup endpoint =
      (server.clientManager.clients.lookup endpoint).filter fun info =>
        decide (info.roomId ≠ roomId) := by
    simp only [manager, removeRoomClientsWithInfo_clients, Store.lookup_keep]
  have dismissed := dismissAll_dismissed (server.clientManager.getRoomClients roomId)
    { server with roomRegistry := closed, clientManager := manager }
  generalize reached : (server.clientManager.getRoomClients roomId).foldl dismissParticipant
    { server with roomRegistry := closed, clientManager := manager } = middle at dismissed
  have departed : Departed server middle fun _ info => decide (info.roomId ≠ roomId) := by
    refine dismissed.departed rfl cleared ?_
    intro entry member
    obtain ⟨found, inside⟩ :=
      (server.clientManager.mem_getRoomClients roomId entry.1 entry.2).mp member
    exact ⟨found, by simp [inside]⟩
  have same : after = middle.cleanupEmptyRooms now := by rw [← reached]; rfl
  have absent (endpoint : Endpoint) (info : ClientInfo)
      (found : middle.clientManager.clients.lookup endpoint = some info) :
      info.roomId ≠ roomId := by
    rw [departed.clients] at found
    exact of_decide_eq_true (filter_eq_some_iff.mp found).2
  rw [same]
  refine ⟨?_, absent⟩
  refine Silent.trans ?_ (cleanupEmptyRooms_silent middle now)
  refine ⟨⟨⟨[.removeRoomClients roomId], ?_, dismissed.clients⟩, ?_⟩,
    dismissed.hushed.relays, dismissed.hushed.tasks⟩
  · intro operation member
    rw [List.mem_singleton.mp member]
    trivial
  -- First the sessions go, then the room, which is empty by now.
  refine (ReflTransGen.single departed.step).tail ?_
  have rooms : middle.view.rooms = fun other =>
      if decide (other ≠ roomId) then server.view.rooms other else none := by
    funext other
    simp only [view, dismissed.rooms, deleted, Function.update_apply, ne_eq, decide_not,
      Bool.not_eq_true', decide_eq_false_iff_not, ite_not]
  have swept : middle.view = { middle.view with
      rooms := fun other => if decide (other ≠ roomId) then server.view.rooms other else none } := by
    rw [← rooms]
  rw [swept]
  refine .sweep { middle.view with rooms := server.view.rooms } _ ?_
  intro endpoint session found
  obtain ⟨info, held, rfl⟩ := map_eq_some_iff.mp found
  exact decide_eq_true (absent endpoint info held)

/-- What an admin command comes to: it fails without touching a room, it rotates
the room of a server that has otherwise only been asked, or it closes a room. -/
inductive AdminOutcome (moment : Directory.Moment) (server : Server) :
    AuthorizeResult × RoomAdminResponse × Server → Prop where
  | refused (authorized : AuthorizeResult) (answered : RoomAdminResponse) (after : Server)
      (silent : Silent moment server after)
      (status : authorized.ok = false ∨ answered.status ≠ roomStatusOk) :
      AdminOutcome moment server (authorized, answered, after)
  | rotated (answered : RoomAdminResponse) (middle : Server) (silent : Silent moment server middle)
      (answer : AuthorizeResult × RoomRegistry) (roomId commitment : Octets) (old : RoomView)
      (ok : answer.1.ok = true) (status : answered.status = roomStatusOk)
      (advanced : RoomRegistry.Advanced middle.roomRegistry roomId commitment answer old) :
      AdminOutcome moment server
        (answer.1, answered, { middle with roomRegistry := answer.2 })
  | closed (authorized : AuthorizeResult) (answered : RoomAdminResponse) (after : Server)
      (silent : Silent moment server after)
      (left : ∀ endpoint info, after.clientManager.clients.lookup endpoint = some info →
        info.roomId ≠ authorized.room.roomId) :
      AdminOutcome moment server (authorized, answered, after)

theorem AdminOutcome.of_rotates {server middle : Server} {roomId commitment : Octets}
    {answer : AuthorizeResult × RoomRegistry} {response : RoomAdminResponse}
    (status : response.status = roomStatusOk) (silent : Silent moment server middle)
    (rotates : RoomRegistry.Rotates middle.roomRegistry roomId commitment answer) :
    AdminOutcome moment server
      (answer.1, response, { middle with roomRegistry := answer.2 }) := by
  rcases rotates with ⟨failed, same⟩ | ⟨ok, old, advanced⟩
  · exact .refused _ _ _ (silent.trans (Silent.of_sameRooms middle _ same)) (.inl failed)
  · exact .rotated response middle silent answer roomId commitment old ok status advanced

theorem executeAdminCommand_outcome (request : RoomAdminRequestHdr) (response : RoomAdminResponse)
    (status : response.status = roomStatusOk) (now : Time)
    (outcome : AuthorizeResult × RoomAdminResponse × Server)
    (executed : executeAdminCommand sodium server request response now = some outcome) :
    AdminOutcome moment server outcome := by
  simp only [executeAdminCommand] at executed
  split at executed
  · obtain rfl := some.inj executed
    exact .of_rotates status (.refl server)
      (RoomRegistry.changeAccessMode_rotates sodium _ _ _ _ _ _ now)
  split at executed
  · obtain rfl := some.inj executed
    exact .of_rotates status (.refl server)
      (RoomRegistry.changeAccessMode_rotates sodium _ _ _ _ _ _ now)
  split at executed
  · -- Kick: the caller is authorized first, the participant removed, then the room rotated.
    have touched := (server.roomRegistry.authorizeAdmin_view sodium (fixedString request.roomId)
      (fixedString request.adminToken) now).1
    have checked := @Silent.of_sameRooms moment server _ touched
    split at executed
    next failed =>
      obtain rfl := some.inj executed
      exact .refused _ _ _ checked (.inl failed)
    have kick := @kickRoomParticipant_silent moment { server with roomRegistry :=
      (server.roomRegistry.authorizeAdmin sodium (fixedString request.roomId)
        (fixedString request.adminToken) now).2 } (fixedString request.roomId)
      request.targetParticipantId now response
    split at executed
    next missed =>
      obtain rfl := some.inj executed
      exact .refused _ _ _ (checked.trans kick.1) (.inr (kick.2.1 missed))
    rename_i kicked
    obtain rfl := some.inj executed
    exact .of_rotates ((congrArg _ (kick.2.2 kicked)).trans status) (checked.trans kick.1)
      (RoomRegistry.rotateAccessEpoch_rotates sodium _ _ _ _ now)
  split at executed
  · obtain rfl := some.inj executed
    rcases server.roomRegistry.closeRoom_view sodium (fixedString request.roomId)
      (fixedString request.adminToken) now with ⟨failed, same⟩ | ⟨ok, reported, deleted⟩
    · simp only [failed, ↓reduceIte]
      exact .refused _ _ _ (Silent.of_sameRooms server _ same) (.inl failed)
    simp only [ok, Bool.true_eq_false, ↓reduceIte]
    obtain ⟨silent, left⟩ := @removeAll_silent moment server _
      (fixedString request.roomId) now deleted
    refine .closed _ _ _ silent ?_
    rw [reported]
    exact left
  split at executed
  · obtain rfl := some.inj executed
    exact .of_rotates status (.refl server)
      (RoomRegistry.rotateAccessEpoch_rotates sodium _ _ _ _ now)
  · cases executed

theorem setRoomAccessEpoch_sessions (roomInstanceId : Octets)
    (accessEpoch : UInt32) (endpoint : Endpoint) :
    (manager.setRoomAccessEpoch roomId roomInstanceId accessEpoch).sessions endpoint =
      (manager.sessions endpoint).map fun session =>
        if session.roomId = roomId ∧ session.roomInstanceId = roomInstanceId then
          { session with accessEpoch := accessEpoch }
        else session := by
  simp only [sessions, setRoomAccessEpoch, Store.lookup_mapValues, Option.map_map]
  congr 1
  funext info
  by_cases here : info.roomId = roomId ∧ info.roomInstanceId = roomInstanceId <;>
    simp only [Function.comp_apply, ClientInfo.session, here, ↓reduceIte, and_self]

/-- The new epoch reaches the members' records in the same event as the room. -/
theorem AdminOutcome.propagates {server : Server}
    (outcome : AdminOutcome moment server (authorized, answered, after))
    (ok : authorized.ok = true) (status : answered.status = roomStatusOk) :
    Silent moment server { after with
      clientManager := after.clientManager.setRoomAccessEpoch authorized.room.roomId
        authorized.room.roomInstanceId authorized.room.accessEpoch } := by
  cases outcome with
  | refused authorized answered after silent refusal =>
    rcases refusal with failed | bad
    · rw [ok] at failed
      cases failed
    · exact absurd status bad
  | rotated answered middle silent answer roomId commitment old accepted fine advanced =>
    refine silent.trans ⟨⟨⟨[.setRoomAccessEpoch answer.1.room.roomId
      answer.1.room.roomInstanceId answer.1.room.accessEpoch], ?_, rfl⟩, .single ?_⟩,
      .of_outbox rfl rfl⟩
    · intro operation member
      rw [List.mem_singleton.mp member]
      trivial
    have snapshot := advanced.snapshot
    simp only [RoomSnapshot.view, RoomView.mk.injEq] at snapshot
    have same : ({ middle with
        roomRegistry := answer.2
        clientManager := middle.clientManager.setRoomAccessEpoch answer.1.room.roomId
          answer.1.room.roomInstanceId answer.1.room.accessEpoch } : Server).view = { middle.view with
        rooms := Function.update middle.view.rooms roomId
          (some ⟨old.roomInstanceId, old.accessEpoch + 1, commitment⟩)
        sessions := fun endpoint => (middle.view.sessions endpoint).map fun session =>
          if session.roomId = roomId ∧ session.roomInstanceId = old.roomInstanceId then
            { session with accessEpoch := old.accessEpoch + 1 }
          else session } := by
      simp only [view, advanced.view, advanced.snapshot, advanced.reported, snapshot,
        Directory.mk.injEq, and_true]
      funext endpoint
      exact setRoomAccessEpoch_sessions _ _ _ _ endpoint
    rw [same]
    exact .rotate middle.view roomId old commitment advanced.present
  | closed authorized answered after silent left =>
    refine silent.trans (Silent.of_operation after (.setRoomAccessEpoch authorized.room.roomId
      authorized.room.roomInstanceId authorized.room.accessEpoch) trivial ?_)
    funext endpoint
    simp only [apply, setRoomAccessEpoch_sessions]
    cases found : after.clientManager.sessions endpoint with
    | none => rfl
    | some session =>
      obtain ⟨info, held, rfl⟩ := map_eq_some_iff.mp found
      have elsewhere : info.session.roomId ≠ authorized.room.roomId := left endpoint info held
      simp only [map_some, elsewhere, false_and, ↓reduceIte]

theorem AdminOutcome.silent_of_refused {server : Server}
    (outcome : AdminOutcome moment server (authorized, answered, after))
    (refusal : authorized.ok = false ∨ answered.status ≠ roomStatusOk) :
    Silent moment server after := by
  cases outcome with
  | refused authorized answered after silent refusal => exact silent
  | rotated answered middle silent answer roomId commitment old accepted fine advanced =>
    rcases refusal with failed | bad
    · rw [accepted] at failed
      cases failed
    · exact absurd fine bad
  | closed authorized answered after silent left => exact silent

theorem handleRoomAdminRequest_silent (packet : Octets) (ambient : Ambient) :
    Silent moment server (server.handleRoomAdminRequest sodium remote packet ambient) := by
  unfold handleRoomAdminRequest
  split
  · exact .refl server
  simp only
  split
  · exact send_silent server remote _ rfl
  split
  next => exact send_silent server remote _ rfl
  rename_i authorized answered after executed
  have outcome := @executeAdminCommand_outcome moment sodium server _ _ rfl _ _ executed
  split
  next failed =>
    exact (outcome.silent_of_refused (.inl failed)).trans (send_silent after remote _ rfl)
  rename_i accepted
  split
  next bad => exact (outcome.silent_of_refused (.inr bad)).trans (send_silent after remote _ rfl)
  rename_i good
  refine Silent.trans (outcome.propagates ?_ ?_) (send_silent _ remote _ rfl)
  · exact Bool.eq_true_of_not_eq_false accepted
  · exact Decidable.byContradiction good

end Sesivo.Server
