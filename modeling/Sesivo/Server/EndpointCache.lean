import Sesivo.Server.ClientManager

set_option autoImplicit false

/- The memo of room endpoint lists stays coherent with the client table under
every operation of the client manager. -/

namespace Sesivo.ClientManager

open Octets Option Store

/-- The endpoint is registered in the room. -/
def InRoom (manager : ClientManager) (endpoint : Endpoint) (roomId : Octets) : Prop :=
  ∃ info, manager.clients.lookup endpoint = some info ∧ info.roomId = roomId

/-- The list holds each endpoint registered in the room exactly once and no other endpoint. -/
structure ListsRoom (manager : ClientManager) (roomId : Octets) (endpoints : List Endpoint) :
    Prop where
  nodup : endpoints.Nodup
  mem_iff : ∀ endpoint, endpoint ∈ endpoints ↔ manager.InRoom endpoint roomId

/-- No client is registered under an empty room id, which the cache never
invalidates, and every cached list is the current one. -/
structure Coherent (manager : ClientManager) : Prop where
  named : ∀ endpoint info, manager.clients.lookup endpoint = some info → info.roomId ≠ []
  cached : ∀ roomId endpoints, manager.roomEndpointCache.lookup roomId = some endpoints →
    manager.ListsRoom roomId endpoints

theorem getRoomClients_listsRoom (manager : ClientManager) (roomId : Octets) :
    manager.ListsRoom roomId ((manager.getRoomClients roomId).map Prod.fst) := by
  refine ⟨?_, ?_⟩
  · exact manager.clients.pairs_fst_nodup.sublist (List.filter_sublist.map _)
  intro endpoint
  simp [getRoomClients, mem_pairs, InRoom]

theorem mem_getRoomClients (manager : ClientManager) (roomId : Octets) (endpoint : Endpoint)
    (info : ClientInfo) : (endpoint, info) ∈ manager.getRoomClients roomId ↔
      manager.clients.lookup endpoint = some info ∧ info.roomId = roomId := by
  simp [getRoomClients, mem_pairs]

variable {manager after : ClientManager} {endpoints : List Endpoint}

theorem ListsRoom.of_sameMembers {roomId : Octets} (lists : manager.ListsRoom roomId endpoints)
    (same : ∀ endpoint, after.InRoom endpoint roomId ↔ manager.InRoom endpoint roomId) :
    after.ListsRoom roomId endpoints :=
  ⟨lists.nodup, fun endpoint => (lists.mem_iff endpoint).trans (same endpoint).symm⟩

/-- A mutation that drops the cached list of every room whose membership it
changes, and registers nobody under an empty room id, keeps coherence. -/
theorem Coherent.of_kept (coherent : Coherent manager)
    (named : ∀ endpoint info, after.clients.lookup endpoint = some info → info.roomId ≠ [])
    (kept : ∀ roomId endpoints, after.roomEndpointCache.lookup roomId = some endpoints →
      manager.roomEndpointCache.lookup roomId = some endpoints ∧
        ∀ endpoint, after.InRoom endpoint roomId ↔ manager.InRoom endpoint roomId) :
    Coherent after := by
  refine ⟨named, ?_⟩
  intro roomId endpoints found
  obtain ⟨before, same⟩ := kept roomId endpoints found
  exact (coherent.cached roomId endpoints before).of_sameMembers same

theorem initial_coherent : Coherent initial := by
  refine ⟨?_, ?_⟩
  · intro endpoint info found
    simp [initial] at found
  · intro roomId endpoints found
    simp [initial] at found

@[simp] theorem invalidate_clients (manager : ClientManager) (roomId : Octets) :
    (manager.invalidateRoomEndpointCache roomId).clients = manager.clients := by
  unfold invalidateRoomEndpointCache
  split <;> rfl

/-- What survives an invalidation was cached before and is not the invalidated room's list. -/
theorem lookup_invalidate {roomId other : Octets}
    (found : (manager.invalidateRoomEndpointCache roomId).roomEndpointCache.lookup other =
      some endpoints) :
    manager.roomEndpointCache.lookup other = some endpoints ∧ (other = roomId → roomId = []) := by
  unfold invalidateRoomEndpointCache at found
  split at found
  next empty => exact ⟨found, fun _ => empty⟩
  simp only [lookup_erase] at found
  split at found
  next => cases found
  next different => exact ⟨found, fun same => absurd same different⟩

/-- The client stored by a registration carries the requested room and profile. -/
structure Fits (client : ClientInfo) (request : Registration) : Prop where
  roomId : client.roomId = request.roomId
  roomInstanceId : client.roomInstanceId = request.roomInstanceId
  accessEpoch : client.accessEpoch = request.accessEpoch
  profileId : client.profileId = request.profileId
  security : (client.hasAuthenticatedSession, client.tokenNonceKey) =
    (request.security.isSome, request.security.getD [])

theorem newClient_fits (clientId : UInt32) (now : Time) (request : Registration) :
    Fits (newClient clientId now request) request := by
  unfold newClient
  cases security : request.security with
  | none | some nonceKey => constructor <;> simp only [applySecurity, security, isSome, getD]

theorem refreshedClient_fits (client : ClientInfo) (now : Time) (request : Registration)
    (reusable : canReuse client request = true) :
    Fits (refreshedClient client now request) request := by
  simp only [canReuse, Bool.and_eq_true, decide_eq_true_eq] at reusable
  obtain ⟨⟨room, inst⟩, profile⟩ := reusable
  unfold refreshedClient
  cases security : request.security with
  | none | some nonceKey =>
    constructor <;> simp only [applySecurity, security, isSome, getD, room, inst, profile]

/-- Everything a registration does to the client table and the cache. -/
inductive Registered (manager : ClientManager) (endpoint : Endpoint) (request : Registration) :
    RegistrationResult × ClientManager → Prop where
  | rejected (result : RegistrationResult) (full : result.rejectedRoomFull = true) :
      Registered manager endpoint request (result, manager)
  | accepted (client : ClientInfo) (replaced : List UInt32) (previous : Octets) (next : UInt32)
      (fits : Fits client request)
      (left : ∀ info, manager.clients.lookup endpoint = some info → info.roomId = previous) :
      Registered manager endpoint request
        (manager.place endpoint request client replaced previous next)

theorem registerClient_registered (manager : ClientManager) (endpoint : Endpoint) (now : Time)
    (request : Registration) :
    Registered manager endpoint request (manager.registerClient endpoint now request) := by
  unfold registerClient
  split
  next existing found =>
    have left (info : ClientInfo) (held : manager.clients.lookup endpoint = some info) :
        info.roomId = existing.roomId := by
      rw [found] at held
      rw [← some.inj held]
    split
    next reusable =>
      exact .accepted _ _ _ _ (refreshedClient_fits existing now request reusable) left
    split
    · exact .rejected _ rfl
    · exact .accepted _ _ _ _ (newClient_fits _ now request) left
  next missing =>
    split
    · exact .rejected _ rfl
    refine .accepted _ _ _ _ (newClient_fits _ now request) ?_
    intro info held
    rw [missing] at held
    cases held

theorem lookup_place (manager : ClientManager) (endpoint other : Endpoint)
    (request : Registration) (client : ClientInfo) (replaced : List UInt32) (previous : Octets)
    (next : UInt32) :
    (manager.place endpoint request client replaced previous next).2.clients.lookup other =
      if other = endpoint then some client
      else (manager.clients.lookup other).filter fun info =>
        !isDuplicate endpoint request other info := by
  simp only [place, invalidate_clients, lookup_keep, lookup_insert]
  by_cases same : other = endpoint
  · simp [same, isDuplicate, filter_some]
  · simp [same]

theorem place_coherent (coherent : Coherent manager)
    (endpoint : Endpoint) (request : Registration) (client : ClientInfo)
    (replaced : List UInt32) (previous : Octets) (next : UInt32) (fits : Fits client request)
    (left : ∀ info, manager.clients.lookup endpoint = some info → info.roomId = previous)
    (nonempty : request.roomId ≠ []) :
    Coherent (manager.place endpoint request client replaced previous next).2 := by
  refine coherent.of_kept ?_ ?_
  · intro other info found
    rw [lookup_place] at found
    split at found
    next =>
      rw [← some.inj found, fits.roomId]
      exact nonempty
    next => exact coherent.named other info (eq_some_of_filter_eq_some found)
  · intro roomId endpoints found
    obtain ⟨inner, notNew⟩ := lookup_invalidate found
    obtain ⟨before, notPrevious⟩ := lookup_invalidate inner
    refine ⟨before, ?_⟩
    have other_room : roomId ≠ request.roomId := fun same => nonempty (notNew same)
    intro other
    simp only [InRoom, lookup_place]
    by_cases same : other = endpoint
    · subst same
      simp only [↓reduceIte, some.injEq]
      constructor
      · rintro ⟨info, rfl, inside⟩
        exact absurd (inside.symm.trans fits.roomId) other_room
      rintro ⟨info, held, inside⟩
      have empty := notPrevious (inside.symm.trans (left info held))
      exact absurd ((left info held).trans empty) (coherent.named other info held)
    · simp only [same, ↓reduceIte, filter_eq_some_iff]
      constructor
      · rintro ⟨info, ⟨held, -⟩, inside⟩
        exact ⟨info, held, inside⟩
      rintro ⟨info, held, inside⟩
      refine ⟨info, ⟨held, ?_⟩, inside⟩
      have away : info.roomId ≠ request.roomId := fun equal => other_room (inside ▸ equal)
      simp [isDuplicate, away]

theorem registerClient_coherent (coherent : Coherent manager)
    (endpoint : Endpoint) (now : Time) (request : Registration) (nonempty : request.roomId ≠ []) :
    Coherent (manager.registerClient endpoint now request).2 := by
  have outcome := registerClient_registered manager endpoint now request
  generalize manager.registerClient endpoint now request = answer at outcome
  cases outcome with
  | rejected result full => exact coherent
  | accepted client replaced previous next fits left =>
    exact place_coherent coherent endpoint request client replaced previous next fits left nonempty

/-- An update of client records that keeps their rooms and the cache keeps coherence. -/
theorem Coherent.of_sameRooms (coherent : Coherent manager)
    (cache : after.roomEndpointCache = manager.roomEndpointCache)
    (rooms : ∀ endpoint, (after.clients.lookup endpoint).map ClientInfo.roomId =
      (manager.clients.lookup endpoint).map ClientInfo.roomId) : Coherent after := by
  have same (endpoint : Endpoint) (roomId : Octets) :
      after.InRoom endpoint roomId ↔ manager.InRoom endpoint roomId := by
    have equal := rooms endpoint
    simp only [InRoom, ← map_eq_some_iff, equal]
  refine coherent.of_kept ?_ ?_
  · intro endpoint info found
    obtain ⟨old, held, equal⟩ := (same endpoint info.roomId).mp ⟨info, found, rfl⟩
    rw [← equal]
    exact coherent.named endpoint old held
  intro roomId endpoints found
  rw [cache] at found
  exact ⟨found, fun endpoint => same endpoint roomId⟩

theorem updateAlive_coherent (coherent : Coherent manager)
    (endpoint : Endpoint) (now : Time) : Coherent (manager.updateAlive endpoint now) := by
  refine coherent.of_sameRooms rfl ?_
  intro other
  exact lookup_adjust_map manager.clients endpoint other _ _ fun _ => rfl

theorem setRoomAccessEpoch_coherent (coherent : Coherent manager)
    (roomId roomInstanceId : Octets) (accessEpoch : UInt32) :
    Coherent (manager.setRoomAccessEpoch roomId roomInstanceId accessEpoch) := by
  refine coherent.of_sameRooms rfl ?_
  intro other
  simp only [setRoomAccessEpoch, lookup_mapValues, map_map]
  congr 1
  funext info
  simp only [Function.comp_apply]
  split <;> rfl

/-- Removing clients keeps coherence when the list of every room that lost a
member is dropped from the cache. -/
theorem Coherent.of_removed (coherent : Coherent manager)
    (subset : ∀ endpoint info, after.clients.lookup endpoint = some info →
      manager.clients.lookup endpoint = some info)
    (kept : ∀ roomId endpoints, after.roomEndpointCache.lookup roomId = some endpoints →
      manager.roomEndpointCache.lookup roomId = some endpoints ∧
        ∀ endpoint info, manager.clients.lookup endpoint = some info → info.roomId = roomId →
          after.clients.lookup endpoint = some info) : Coherent after := by
  refine coherent.of_kept ?_ ?_
  · intro endpoint info found
    exact coherent.named endpoint info (subset endpoint info found)
  intro roomId endpoints found
  obtain ⟨before, remain⟩ := kept roomId endpoints found
  refine ⟨before, fun endpoint => ⟨?_, ?_⟩⟩
  · rintro ⟨info, held, inside⟩
    exact ⟨info, subset endpoint info held, inside⟩
  · rintro ⟨info, held, inside⟩
    exact ⟨info, remain endpoint info held inside, inside⟩

/-- Erasing one client together with the cached list of its room. -/
theorem erase_coherent (coherent : Coherent manager) (endpoint : Endpoint) (info : ClientInfo)
    (found : manager.clients.lookup endpoint = some info) :
    Coherent ({ manager with
      clients := manager.clients.erase endpoint }.invalidateRoomEndpointCache info.roomId) := by
  refine coherent.of_removed ?_ ?_
  · intro other held present
    simp only [invalidate_clients, lookup_erase] at present
    split at present
    next => cases present
    next => exact present
  · intro roomId endpoints cached
    obtain ⟨before, notErased⟩ := lookup_invalidate cached
    refine ⟨before, ?_⟩
    intro other held present inside
    simp only [invalidate_clients, lookup_erase]
    split
    next same =>
      subst same
      rw [found] at present
      obtain rfl := some.inj present
      exact absurd (notErased inside.symm) (coherent.named other info found)
    next => exact present

theorem removeClientWithInfo_coherent (coherent : Coherent manager)
    (endpoint : Endpoint) : Coherent (manager.removeClientWithInfo endpoint).2 := by
  unfold removeClientWithInfo
  split
  next => exact coherent
  next info found => exact erase_coherent coherent endpoint info found

theorem removeRoomClientWithInfo_coherent
    (coherent : Coherent manager) (roomId : Octets) (clientId : UInt32) :
    Coherent (manager.removeRoomClientWithInfo roomId clientId).2 := by
  unfold removeRoomClientWithInfo
  split
  next => exact coherent
  rename_i removed found
  have matched := List.find?_some found
  simp only [Bool.and_eq_true, decide_eq_true_eq] at matched
  have held := (manager.clients.mem_pairs removed.1 removed.2).mp (List.mem_of_find?_eq_some found)
  rw [← matched.1]
  exact erase_coherent coherent removed.1 removed.2 held

theorem removeRoomClientsWithInfo_coherent (coherent : Coherent manager) (roomId : Octets) :
    Coherent (manager.removeRoomClientsWithInfo roomId).2 := by
  unfold removeRoomClientsWithInfo
  simp only
  split
  next nobody =>
    refine coherent.of_removed ?_ ?_
    · intro other info present
      simp only [lookup_keep] at present
      exact eq_some_of_filter_eq_some present
    intro room endpoints cached
    refine ⟨cached, ?_⟩
    intro other info present inside
    have elsewhere : info.roomId ≠ roomId := by
      intro same
      have member := (manager.mem_getRoomClients roomId other info).mpr ⟨present, same⟩
      rw [nobody] at member
      cases member
    simp [present, filter_some, elsewhere]
  next =>
    refine coherent.of_removed ?_ ?_
    · intro other info present
      simp only [invalidate_clients, lookup_keep] at present
      exact eq_some_of_filter_eq_some present
    intro room endpoints cached
    obtain ⟨before, notErased⟩ := lookup_invalidate cached
    refine ⟨before, ?_⟩
    intro other info present inside
    have elsewhere : info.roomId ≠ roomId := by
      intro same
      have empty := notErased (inside.symm.trans same)
      exact coherent.named other info present (same.trans empty)
    simp [present, filter_some, elsewhere]

/-- Dropping the cached lists of the rooms of several clients, one after another. -/
theorem foldl_invalidate (removed : List (Endpoint × ClientInfo)) (manager : ClientManager) :
    let after := removed.foldl (fun current entry =>
      current.invalidateRoomEndpointCache entry.2.roomId) manager
    after.clients = manager.clients ∧ ∀ roomId endpoints,
      after.roomEndpointCache.lookup roomId = some endpoints →
        manager.roomEndpointCache.lookup roomId = some endpoints ∧
          ∀ entry ∈ removed, entry.2.roomId = roomId → roomId = [] := by
  induction removed generalizing manager with
  | nil => exact ⟨rfl, fun roomId endpoints found => ⟨found, fun entry member => nomatch member⟩⟩
  | cons entry removed ih =>
    obtain ⟨clients, kept⟩ := ih (manager.invalidateRoomEndpointCache entry.2.roomId)
    refine ⟨clients.trans (invalidate_clients _ _), ?_⟩
    intro roomId endpoints found
    obtain ⟨inner, rest⟩ := kept roomId endpoints found
    obtain ⟨before, notErased⟩ := lookup_invalidate inner
    refine ⟨before, ?_⟩
    intro other member inside
    rcases List.mem_cons.mp member with rfl | later
    · exact inside.symm.trans (notErased inside.symm)
    · exact rest other later inside

theorem removeTimedOutClients_coherent (coherent : Coherent manager)
    (now timeout : Time) : Coherent (manager.removeTimedOutClients now timeout).2 := by
  obtain ⟨clients, kept⟩ := foldl_invalidate
    (manager.clients.pairs.filter fun entry => timedOut now timeout entry.2)
    { manager with clients := manager.clients.keep fun _ info => !timedOut now timeout info }
  refine coherent.of_removed ?_ ?_
  · intro endpoint info found
    simp only [removeTimedOutClients, clients, lookup_keep] at found
    exact eq_some_of_filter_eq_some found
  intro roomId endpoints cached
  obtain ⟨before, dropped⟩ := kept roomId endpoints cached
  refine ⟨before, ?_⟩
  intro endpoint info found inside
  have alive : timedOut now timeout info = false := by
    cases expired : timedOut now timeout info with
    | false => rfl
    | true =>
      have member : (endpoint, info) ∈
          manager.clients.pairs.filter fun entry => timedOut now timeout entry.2 :=
        List.mem_filter.mpr ⟨(manager.clients.mem_pairs endpoint info).mpr found, expired⟩
      have empty := dropped (endpoint, info) member inside
      exact absurd (inside.trans empty) (coherent.named endpoint info found)
  simp [removeTimedOutClients, clients, found, filter_some, alive]

@[simp] theorem getCachedRoomEndpoints_clients (manager : ClientManager) (member : Endpoint) :
    (manager.getCachedRoomEndpoints member).2.clients = manager.clients := by
  unfold getCachedRoomEndpoints
  split
  next => rfl
  next => split <;> rfl

theorem getCachedRoomEndpoints_coherent (coherent : Coherent manager)
    (member : Endpoint) : Coherent (manager.getCachedRoomEndpoints member).2 := by
  unfold getCachedRoomEndpoints
  split
  next => exact coherent
  rename_i info found
  split
  next => exact coherent
  refine ⟨coherent.named, ?_⟩
  intro roomId endpoints cached
  simp only [lookup_insert] at cached
  split at cached
  next same =>
    rw [← some.inj cached, same]
    exact (getRoomClients_listsRoom manager info.roomId).of_sameMembers fun _ => Iff.rfl
  next => exact (coherent.cached roomId endpoints cached).of_sameMembers fun _ => Iff.rfl

/-- In a coherent manager a read of the cache answers from the client table. -/
theorem getCachedRoomEndpoints_listsRoom (coherent : Coherent manager)
    (member : Endpoint) (info : ClientInfo) (found : manager.clients.lookup member = some info) :
    manager.ListsRoom info.roomId (manager.getCachedRoomEndpoints member).1 := by
  unfold getCachedRoomEndpoints
  simp only [found]
  split
  next cached hit => exact coherent.cached info.roomId cached hit
  next => exact getRoomClients_listsRoom manager info.roomId

/-- The operations that other parts of the server call on the client manager. -/
inductive Operation where
  | register (endpoint : Endpoint) (now : Time) (request : Registration)
  | updateAlive (endpoint : Endpoint) (now : Time)
  | remove (endpoint : Endpoint)
  | removeRoomClient (roomId : Octets) (clientId : UInt32)
  | removeRoomClients (roomId : Octets)
  | removeTimedOut (now timeout : Time)
  | setRoomAccessEpoch (roomId roomInstanceId : Octets) (accessEpoch : UInt32)
  | readCache (member : Endpoint)

def apply (manager : ClientManager) : Operation → ClientManager
  | .register endpoint now request => (manager.registerClient endpoint now request).2
  | .updateAlive endpoint now => manager.updateAlive endpoint now
  | .remove endpoint => (manager.removeClientWithInfo endpoint).2
  | .removeRoomClient roomId clientId => (manager.removeRoomClientWithInfo roomId clientId).2
  | .removeRoomClients roomId => (manager.removeRoomClientsWithInfo roomId).2
  | .removeTimedOut now timeout => (manager.removeTimedOutClients now timeout).2
  | .setRoomAccessEpoch roomId roomInstanceId accessEpoch =>
    manager.setRoomAccessEpoch roomId roomInstanceId accessEpoch
  | .readCache member => (manager.getCachedRoomEndpoints member).2

/-- Registrations name their room. -/
def Operation.Named : Operation → Prop
  | .register _ _ request => request.roomId ≠ []
  | _ => True

theorem apply_coherent (manager : ClientManager) (operation : Operation)
    (coherent : Coherent manager) (named : operation.Named) :
    Coherent (manager.apply operation) := by
  cases operation with
  | register endpoint now request => exact registerClient_coherent coherent endpoint now request named
  | updateAlive endpoint now => exact updateAlive_coherent coherent endpoint now
  | remove endpoint => exact removeClientWithInfo_coherent coherent endpoint
  | removeRoomClient roomId clientId =>
    exact removeRoomClientWithInfo_coherent coherent roomId clientId
  | removeRoomClients roomId => exact removeRoomClientsWithInfo_coherent coherent roomId
  | removeTimedOut now timeout => exact removeTimedOutClients_coherent coherent now timeout
  | setRoomAccessEpoch roomId roomInstanceId accessEpoch =>
    exact setRoomAccessEpoch_coherent coherent roomId roomInstanceId accessEpoch
  | readCache member => exact getCachedRoomEndpoints_coherent coherent member

variable (operations : List Operation)

theorem run_coherent
    (named : ∀ operation ∈ operations, operation.Named) :
    Coherent (Run.run apply initial operations) :=
  Run.invariant_of_mem apply Coherent Operation.Named apply_coherent initial operations
    initial_coherent named

/-- After any sequence of operations a registered member reads exactly the
endpoints of its room, each once, and an unregistered endpoint reads none. -/
theorem getCachedRoomEndpoints_exact
    (named : ∀ operation ∈ operations, operation.Named) (member : Endpoint) :
    (∀ info, (Run.run apply initial operations).clients.lookup member = some info →
      ((Run.run apply initial operations).getCachedRoomEndpoints member).1.Nodup ∧
      ∀ endpoint,
        endpoint ∈ ((Run.run apply initial operations).getCachedRoomEndpoints member).1 ↔
          ∃ other, (Run.run apply initial operations).clients.lookup endpoint = some other ∧
            other.roomId = info.roomId) ∧
    ((Run.run apply initial operations).clients.lookup member = none →
      ((Run.run apply initial operations).getCachedRoomEndpoints member).1 = []) := by
  refine ⟨?_, ?_⟩
  · intro info found
    have lists := getCachedRoomEndpoints_listsRoom (run_coherent operations named) member info found
    exact ⟨lists.nodup, lists.mem_iff⟩
  · intro missing
    simp only [getCachedRoomEndpoints, missing]

/-- A registration without capabilities or an authenticated session. -/
def plainRequest (roomId profileId : Octets) : Registration where
  roomId := roomId
  roomInstanceId := []
  accessEpoch := 1
  profileId := profileId
  displayName := profileId
  capabilities := 0
  keyPublic := []
  security := none

/-- Two members join, the cached list is read, and a third joins later. -/
def thirdMemberJoins : List Operation :=
  [.register (loopback 1) 0 (plainRequest (ascii "jam") (ascii "ann")),
    .register (loopback 2) 0 (plainRequest (ascii "jam") (ascii "bob")),
    .readCache (loopback 1),
    .register (loopback 3) 0 (plainRequest (ascii "jam") (ascii "cleo"))]

theorem getCachedRoomEndpoints_exact_thirdMember :
    loopback 3 ∈ ((Run.run apply initial thirdMemberJoins).getCachedRoomEndpoints
        (loopback 1)).1 ∧
      ((Run.run apply initial thirdMemberJoins).getCachedRoomEndpoints (loopback 4)).1 = [] := by
  have named : ∀ operation ∈ thirdMemberJoins, operation.Named := by
    simp only [thirdMemberJoins, List.forall_mem_cons, Operation.Named, List.not_mem_nil,
      IsEmpty.forall_iff, implies_true, and_true, true_and]
    decide
  obtain ⟨registered, -⟩ := getCachedRoomEndpoints_exact thirdMemberJoins named (loopback 1)
  obtain ⟨-, unregistered⟩ := getCachedRoomEndpoints_exact thirdMemberJoins named (loopback 4)
  exact ⟨((registered _ rfl).2 (loopback 3)).mpr ⟨_, rfl, rfl⟩, unregistered rfl⟩

end Sesivo.ClientManager
