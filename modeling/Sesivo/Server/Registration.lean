import Mathlib.Data.List.Perm.Subperm
import Sesivo.Server.EndpointCache

set_option autoImplicit false

/- What the client table keeps over every sequence of operations: the cap on a
room, one endpoint for a profile in a room, and client ids that are never handed
out twice. -/

namespace Sesivo.ClientManager

open Octets List

/-- Some registered endpoint has the client id. -/
def Holds (manager : ClientManager) (clientId : UInt32) : Prop :=
  ∃ endpoint info, manager.clients.lookup endpoint = some info ∧ info.clientId = clientId

/-- The registration is not a refresh of the entry its endpoint already has. -/
def StartsSession (manager : ClientManager) (endpoint : Endpoint) (request : Registration) : Prop :=
  ∀ info, manager.clients.lookup endpoint = some info → canReuse info request = false

/-- No room has more members than it may have. -/
def Capped (manager : ClientManager) : Prop :=
  ∀ roomId, manager.roomCounts roomId ≤ maxRoomParticipants

structure Orderly (manager : ClientManager) : Prop where
  capped : ∀ roomId, manager.roomCounts roomId ≤ maxRoomParticipants
  onePerProfile : ∀ first second firstInfo secondInfo,
    manager.clients.lookup first = some firstInfo →
    manager.clients.lookup second = some secondInfo → firstInfo.roomId = secondInfo.roomId →
    firstInfo.profileId = secondInfo.profileId → first = second
  nonzero : ∀ endpoint info, manager.clients.lookup endpoint = some info → info.clientId ≠ 0
  distinct : ∀ first second firstInfo secondInfo,
    manager.clients.lookup first = some firstInfo →
    manager.clients.lookup second = some secondInfo →
    firstInfo.clientId = secondInfo.clientId → first = second

/-- An orderly table whose ids all lie below the counter, which has not wrapped
after so many registrations. -/
structure Numbered (manager : ClientManager) (registrations : Nat) : Prop
    extends Orderly manager where
  positive : 1 ≤ manager.nextClientId.toNat
  bounded : manager.nextClientId.toNat ≤ registrations + 1
  below : ∀ endpoint info, manager.clients.lookup endpoint = some info →
    info.clientId.toNat < manager.nextClientId.toNat

variable (manager : ClientManager) {after : ClientManager} {registrations : Nat}
variable (endpoint : Endpoint) (now : Time) (request : Registration) {other : Endpoint}
variable {info : ClientInfo} (client : ClientInfo) (replaced : List UInt32) (previous : Octets)
variable (next : UInt32) (roomId : Octets) (clientId : UInt32)

/-- Membership decides the count of a room, since each endpoint is listed once. -/
theorem roomCounts_le (after : ClientManager) (roomId : Octets) (more : List Endpoint)
    (members : ∀ endpoint, after.InRoom endpoint roomId →
      endpoint ∈ more ∨ manager.InRoom endpoint roomId) :
    after.roomCounts roomId ≤ more.length + manager.roomCounts roomId := by
  have lists := getRoomClients_listsRoom after roomId
  have before := getRoomClients_listsRoom manager roomId
  have subset : (after.getRoomClients roomId).map Prod.fst ⊆
      more ++ (manager.getRoomClients roomId).map Prod.fst := by
    intro endpoint member
    rcases members endpoint ((lists.mem_iff endpoint).mp member) with new | old
    · exact mem_append_left _ new
    · exact mem_append_right _ ((before.mem_iff endpoint).mpr old)
  have fewer := (subperm_of_subset lists.nodup subset).length_le
  simpa only [roomCounts, length_append, length_map] using fewer

/-- The operation registers nobody: what is left was there before. -/
structure Thinned (manager after : ClientManager) : Prop where
  entry : ∀ endpoint info, after.clients.lookup endpoint = some info →
    ∃ old, manager.clients.lookup endpoint = some old ∧ old.clientId = info.clientId ∧
      old.roomId = info.roomId ∧ old.profileId = info.profileId
  next : after.nextClientId = manager.nextClientId

theorem Thinned.of_kept {manager : ClientManager}
    (kept : ∀ endpoint info, after.clients.lookup endpoint = some info →
      manager.clients.lookup endpoint = some info)
    (next : after.nextClientId = manager.nextClientId) : Thinned manager after :=
  ⟨fun endpoint info found => ⟨info, kept endpoint info found, rfl, rfl, rfl⟩, next⟩

theorem Thinned.capped {manager : ClientManager} (thinned : Thinned manager after)
    (capped : manager.Capped) : after.Capped := by
  intro roomId
  have fewer : after.roomCounts roomId ≤ manager.roomCounts roomId := by
    have counted := roomCounts_le manager after roomId []
    simp only [length_nil, Nat.zero_add] at counted
    apply counted
    rintro endpoint ⟨info, found, inside⟩
    obtain ⟨old, held, -, room, -⟩ := thinned.entry endpoint info found
    exact .inr ⟨old, held, room.trans inside⟩
  exact fewer.trans (capped roomId)

theorem Thinned.numbered {manager : ClientManager} (thinned : Thinned manager after)
    (numbered : Numbered manager registrations) :
    Numbered after registrations := by
  refine ⟨⟨thinned.capped numbered.capped, ?_, ?_, ?_⟩, ?_, ?_, ?_⟩
  · intro first second firstInfo secondInfo firstFound secondFound room profile
    obtain ⟨old, held, -, oldRoom, oldProfile⟩ := thinned.entry first firstInfo firstFound
    obtain ⟨other, kept, -, otherRoom, otherProfile⟩ := thinned.entry second secondInfo secondFound
    exact numbered.onePerProfile first second old other held kept
      (oldRoom.trans (room.trans otherRoom.symm)) (oldProfile.trans (profile.trans otherProfile.symm))
  · intro endpoint info found
    obtain ⟨old, held, same, -⟩ := thinned.entry endpoint info found
    rw [← same]
    exact numbered.nonzero endpoint old held
  · intro first second firstInfo secondInfo firstFound secondFound equal
    obtain ⟨old, held, same, -⟩ := thinned.entry first firstInfo firstFound
    obtain ⟨other, kept, also, -⟩ := thinned.entry second secondInfo secondFound
    exact numbered.distinct first second old other held kept (same.trans (equal.trans also.symm))
  · rw [thinned.next]
    exact numbered.positive
  · rw [thinned.next]
    exact numbered.bounded
  · intro endpoint info found
    obtain ⟨old, held, same, -⟩ := thinned.entry endpoint info found
    rw [thinned.next, ← same]
    exact numbered.below endpoint old held

@[simp] theorem invalidate_nextClientId :
    (manager.invalidateRoomEndpointCache roomId).nextClientId = manager.nextClientId := by
  unfold invalidateRoomEndpointCache
  split <;> rfl

theorem foldl_invalidate_nextClientId (removed : List (Endpoint × ClientInfo))
    (manager : ClientManager) :
    (removed.foldl (fun current entry => current.invalidateRoomEndpointCache entry.2.roomId)
      manager).nextClientId = manager.nextClientId := by
  induction removed generalizing manager with
  | nil => rfl
  | cons entry removed ih => rw [foldl_cons, ih, invalidate_nextClientId]

theorem erase_thinned :
    Thinned manager ({ manager with
      clients := manager.clients.erase endpoint }.invalidateRoomEndpointCache roomId) := by
  refine .of_kept ?_ (invalidate_nextClientId _ _)
  intro other info found
  simp only [invalidate_clients, Store.lookup_erase] at found
  split at found
  next => cases found
  next => exact found

theorem removeClientWithInfo_thinned :
    Thinned manager (manager.removeClientWithInfo endpoint).2 := by
  unfold removeClientWithInfo
  split
  next => exact .of_kept (fun _ _ found => found) rfl
  next info found => exact erase_thinned manager endpoint info.roomId

theorem removeRoomClientWithInfo_thinned :
    Thinned manager (manager.removeRoomClientWithInfo roomId clientId).2 := by
  unfold removeRoomClientWithInfo
  split
  next => exact .of_kept (fun _ _ found => found) rfl
  next removed found => exact erase_thinned manager removed.1 roomId

theorem removeRoomClientsWithInfo_thinned :
    Thinned manager (manager.removeRoomClientsWithInfo roomId).2 := by
  have kept (endpoint : Endpoint) (info : ClientInfo)
      (found : (manager.clients.keep fun _ info => info.roomId ≠ roomId).lookup endpoint =
        some info) : manager.clients.lookup endpoint = some info := by
    rw [Store.lookup_keep] at found
    exact Option.eq_some_of_filter_eq_some found
  unfold removeRoomClientsWithInfo
  simp only
  split
  next => exact .of_kept kept rfl
  refine .of_kept ?_ (invalidate_nextClientId _ _)
  intro endpoint info found
  rw [invalidate_clients] at found
  exact kept endpoint info found

theorem removeTimedOutClients_thinned (timeout : Time) :
    Thinned manager (manager.removeTimedOutClients now timeout).2 := by
  refine .of_kept ?_ (foldl_invalidate_nextClientId _ _)
  intro endpoint info found
  simp only [removeTimedOutClients, (foldl_invalidate _ _).1, Store.lookup_keep] at found
  exact Option.eq_some_of_filter_eq_some found

theorem updateAlive_thinned : Thinned manager (manager.updateAlive endpoint now) := by
  refine ⟨?_, rfl⟩
  intro other info found
  by_cases same : other = endpoint
  · subst same
    rw [updateAlive, Store.lookup_adjust_self] at found
    obtain ⟨old, held, rfl⟩ := Option.map_eq_some_iff.mp found
    exact ⟨old, held, rfl, rfl, rfl⟩
  · rw [updateAlive, Store.lookup_adjust_ne _ _ same] at found
    exact ⟨info, found, rfl, rfl, rfl⟩

theorem setRoomAccessEpoch_thinned (roomInstanceId : Octets) (accessEpoch : UInt32) :
    Thinned manager (manager.setRoomAccessEpoch roomId roomInstanceId accessEpoch) := by
  refine ⟨?_, rfl⟩
  intro endpoint info found
  rw [setRoomAccessEpoch, Store.lookup_mapValues] at found
  obtain ⟨old, held, rfl⟩ := Option.map_eq_some_iff.mp found
  refine ⟨old, held, ?_⟩
  split <;> exact ⟨rfl, rfl, rfl⟩

theorem getCachedRoomEndpoints_thinned (member : Endpoint) :
    Thinned manager (manager.getCachedRoomEndpoints member).2 := by
  refine .of_kept ?_ ?_
  · intro endpoint info found
    rw [getCachedRoomEndpoints_clients] at found
    exact found
  unfold getCachedRoomEndpoints
  split
  next => rfl
  next => split <;> rfl

/-- How a registration ends: refused, as a refresh of the endpoint's own entry, or as a
new session, for which there is room or the endpoint gives up its place. -/
inductive Admission (manager : ClientManager) (endpoint : Endpoint) (request : Registration) :
    RegistrationResult × ClientManager → Prop where
  | refused : Admission manager endpoint request ({ rejectedRoomFull := true }, manager)
  | refreshed (existing : ClientInfo) (now : Time)
      (found : manager.clients.lookup endpoint = some existing)
      (reusable : canReuse existing request = true) :
      Admission manager endpoint request
        (manager.place endpoint request (refreshedClient existing now request) []
          existing.roomId manager.nextClientId)
  | opened (now : Time) (previous : Octets) (starts : manager.StartsSession endpoint request)
      (fits : manager.InRoom endpoint request.roomId ∨
        manager.roomCounts request.roomId < maxRoomParticipants) :
      Admission manager endpoint request
        (manager.place endpoint request (newClient manager.nextClientId now request)
          ((manager.clients.lookup endpoint).map ClientInfo.clientId).toList previous
          (manager.nextClientId + 1))

theorem registerClient_admission :
    Admission manager endpoint request (manager.registerClient endpoint now request) := by
  have opened := @Admission.opened manager endpoint request now
  unfold registerClient
  split
  next existing found =>
    split
    next reusable => exact .refreshed existing now found reusable
    rename_i fixed
    split
    · exact .refused
    rename_i free
    rw [found] at opened
    refine opened existing.roomId ?_ ?_
    · intro info held
      obtain rfl := Option.some.inj (found.symm.trans held)
      exact Bool.eq_false_iff.mpr fixed
    rcases not_and_or.mp free with room | same
    · exact .inr (not_le.mp room)
    · exact .inl ⟨existing, found, not_not.mp same⟩
  next missing =>
    split
    · exact .refused
    rename_i free
    rw [missing] at opened
    refine opened [] ?_ (.inr (not_le.mp free))
    intro info held
    exact absurd (missing.symm.trans held) (by simp)

section Placed

variable {manager endpoint now request}

/-- The entries behind a placement: the placed one, and the others that it does not evict. -/
theorem lookup_place_cases {client : ClientInfo} {replaced : List UInt32}
    {previous : Octets} {next : UInt32}
    (found : (manager.place endpoint request client replaced previous next).2.clients.lookup other =
      some info) :
    (other = endpoint ∧ info = client) ∨
      (other ≠ endpoint ∧ manager.clients.lookup other = some info ∧
        isDuplicate endpoint request other info = false) := by
  rw [lookup_place] at found
  split at found
  next same => exact .inl ⟨same, (Option.some.inj found).symm⟩
  next different =>
    obtain ⟨held, alone⟩ := Option.filter_eq_some_iff.mp found
    exact .inr ⟨different, held, by simpa using alone⟩

theorem lookup_place_self :
    (manager.place endpoint request client replaced previous next).2.clients.lookup endpoint =
      some client := by
  rw [lookup_place, if_pos rfl]

theorem lookup_place_kept (different : other ≠ endpoint)
    (held : manager.clients.lookup other = some info)
    (alone : isDuplicate endpoint request other info = false) :
    (manager.place endpoint request client replaced previous next).2.clients.lookup other =
      some info := by
  rw [lookup_place, if_neg different, held]
  simp [Option.filter, alone]

@[simp] theorem place_nextClientId :
    (manager.place endpoint request client replaced previous next).2.nextClientId = next := by
  simp [place]

/-- A placement keeps the cap if the room has a place for it. -/
theorem place_capped (capped : manager.Capped) {client : ClientInfo} (replaced : List UInt32)
    (previous : Octets) (next : UInt32) (fits : Fits client request)
    (room : manager.InRoom endpoint request.roomId ∨
      manager.roomCounts request.roomId < maxRoomParticipants) :
    (manager.place endpoint request client replaced previous next).2.Capped := by
  intro roomId
  have members (other : Endpoint)
      (inside : (manager.place endpoint request client replaced previous next).2.InRoom other
        roomId) :
      (other = endpoint ∧ roomId = request.roomId) ∨ manager.InRoom other roomId := by
    obtain ⟨info, found, named⟩ := inside
    rcases lookup_place_cases found with ⟨same, rfl⟩ | ⟨-, held, -⟩
    · exact .inl ⟨same, named.symm.trans fits.roomId⟩
    · exact .inr ⟨info, held, named⟩
  have bound := capped roomId
  by_cases here : roomId = request.roomId ∧ ¬ manager.InRoom endpoint roomId
  · obtain ⟨rfl, outside⟩ := here
    have fewer := roomCounts_le manager _ request.roomId [endpoint] fun other inside => by
      rcases members other inside with ⟨rfl, -⟩ | old
      · exact .inl mem_cons_self
      · exact .inr old
    rw [length_singleton] at fewer
    have free := room.resolve_left outside
    omega
  · have fewer := roomCounts_le manager _ roomId [] fun other inside => by
      rcases members other inside with ⟨rfl, there⟩ | old
      · exact .inr (by_contra fun outside => here ⟨there, outside⟩)
      · exact .inr old
    rw [length_nil] at fewer
    omega

/-- A placement keeps the table orderly if the room has a place for it and its id is
either its endpoint's own or not in use. -/
theorem place_orderly (orderly : manager.Orderly) {client : ClientInfo} (replaced : List UInt32)
    (previous : Octets) (next : UInt32) (fits : Fits client request)
    (room : manager.InRoom endpoint request.roomId ∨
      manager.roomCounts request.roomId < maxRoomParticipants)
    (nonzero : client.clientId ≠ 0)
    (unused : ∀ other info, manager.clients.lookup other = some info →
      info.clientId = client.clientId → other = endpoint) :
    (manager.place endpoint request client replaced previous next).2.Orderly := by
  have clash (other : Endpoint) (info : ClientInfo) (different : other ≠ endpoint)
      (sameRoom : info.roomId = client.roomId) (sameProfile : info.profileId = client.profileId) :
      isDuplicate endpoint request other info = true := by
    simp [isDuplicate, different, sameRoom, sameProfile, fits.roomId, fits.profileId]
  refine ⟨place_capped orderly.capped replaced previous next fits room, ?_, ?_, ?_⟩
  · intro first second firstInfo secondInfo firstFound secondFound sameRoom sameProfile
    rcases lookup_place_cases firstFound with ⟨here, rfl⟩ | ⟨different, held, alone⟩
    · rcases lookup_place_cases secondFound with ⟨also, -⟩ | ⟨other, -, otherAlone⟩
      · exact here.trans also.symm
      · rw [clash second secondInfo other sameRoom.symm sameProfile.symm] at otherAlone
        cases otherAlone
    rcases lookup_place_cases secondFound with ⟨-, rfl⟩ | ⟨-, kept, -⟩
    · rw [clash first firstInfo different sameRoom sameProfile] at alone
      cases alone
    · exact orderly.onePerProfile first second firstInfo secondInfo held kept sameRoom sameProfile
  · intro other info found
    rcases lookup_place_cases found with ⟨-, rfl⟩ | ⟨-, held, -⟩
    · exact nonzero
    · exact orderly.nonzero other info held
  · intro first second firstInfo secondInfo firstFound secondFound equal
    rcases lookup_place_cases firstFound with ⟨here, rfl⟩ | ⟨-, held, -⟩
    · rcases lookup_place_cases secondFound with ⟨also, -⟩ | ⟨-, kept, -⟩
      · exact here.trans also.symm
      · exact here.trans (unused second secondInfo kept equal.symm).symm
    rcases lookup_place_cases secondFound with ⟨also, rfl⟩ | ⟨-, kept, -⟩
    · exact (unused first firstInfo held equal).trans also.symm
    · exact orderly.distinct first second firstInfo secondInfo held kept equal

theorem applySecurity_clientId (security : Option Octets) :
    (applySecurity client security).clientId = client.clientId := by
  cases security <;> rfl

theorem newClient_clientId (now : Time) (request : Registration) :
    (newClient clientId now request).clientId = clientId := applySecurity_clientId _ _

theorem refreshedClient_clientId (now : Time) (request : Registration) :
    (refreshedClient client now request).clientId = client.clientId := applySecurity_clientId _ _

theorem canReuse_roomId {client : ClientInfo} {request : Registration}
    (reusable : canReuse client request = true) : client.roomId = request.roomId := by
  simp only [canReuse, Bool.and_eq_true, decide_eq_true_eq] at reusable
  exact reusable.1.1

/-- The counter's value is in use nowhere. -/
theorem Numbered.next_unused (numbered : Numbered manager registrations)
    (found : manager.clients.lookup endpoint = some info) :
    info.clientId ≠ manager.nextClientId := by
  intro equal
  have below := numbered.below endpoint info found
  rw [equal] at below
  omega

theorem registerClient_numbered (numbered : Numbered manager registrations)
    (unwrapped : registrations + 1 < 2 ^ 32 - 1) :
    Numbered (manager.registerClient endpoint now request).2 (registrations + 1) := by
  have positive := numbered.positive
  have bounded := numbered.bounded
  have outcome := manager.registerClient_admission endpoint now request
  generalize manager.registerClient endpoint now request = answer at outcome
  cases outcome with
  | refused => exact ⟨numbered.toOrderly, positive, bounded.trans (by omega), numbered.below⟩
  | refreshed existing _ found reusable =>
    refine ⟨?_, ?_, ?_, ?_⟩
    · refine place_orderly numbered.toOrderly _ _ _ (refreshedClient_fits existing _ request reusable)
        (.inl ⟨existing, found, canReuse_roomId reusable⟩) ?_ ?_
      · rw [refreshedClient_clientId]
        exact numbered.nonzero endpoint existing found
      intro other info held equal
      rw [refreshedClient_clientId] at equal
      exact numbered.distinct other endpoint info existing held found equal
    · rw [place_nextClientId]
      exact positive
    · rw [place_nextClientId]
      omega
    · intro other info held
      rw [place_nextClientId]
      rcases lookup_place_cases held with ⟨-, rfl⟩ | ⟨-, old, -⟩
      · rw [refreshedClient_clientId]
        exact numbered.below endpoint existing found
      · exact numbered.below other info old
  | opened _ previous starts fits =>
    have advanced : (manager.nextClientId + 1).toNat = manager.nextClientId.toNat + 1 := by
      rw [UInt32.toNat_add, UInt32.toNat_one]
      omega
    refine ⟨?_, ?_, ?_, ?_⟩
    · refine place_orderly numbered.toOrderly _ _ _ (newClient_fits _ _ request) fits ?_ ?_
      · rw [newClient_clientId]
        intro zero
        rw [zero, UInt32.toNat_zero] at positive
        omega
      intro other info held equal
      rw [newClient_clientId] at equal
      exact absurd equal (numbered.next_unused held)
    · rw [place_nextClientId, advanced]
      omega
    · rw [place_nextClientId, advanced]
      omega
    · intro other info held
      rw [place_nextClientId, advanced]
      rcases lookup_place_cases held with ⟨-, rfl⟩ | ⟨-, old, -⟩
      · rw [newClient_clientId]
        omega
      · have below := numbered.below other info old
        omega

/-- The ids a placement evicts: those of other endpoints in the request's room and profile. -/
theorem mem_evicted :
    clientId ∈ (manager.place endpoint request client replaced previous next).1.removedClientIds ↔
      clientId ∈ replaced ∨ ∃ other info, other ≠ endpoint ∧
        manager.clients.lookup other = some info ∧
        isDuplicate endpoint request other info = true ∧ info.clientId = clientId := by
  simp only [place, mem_append, mem_map, mem_filter, Prod.exists, Store.mem_pairs,
    Store.lookup_insert]
  refine or_congr_right ⟨?_, ?_⟩
  · rintro ⟨other, info, ⟨held, clash⟩, equal⟩
    have different : other ≠ endpoint := by
      rintro rfl
      simp [isDuplicate] at clash
    rw [if_neg different] at held
    exact ⟨other, info, different, held, clash, equal⟩
  · rintro ⟨other, info, different, held, clash, equal⟩
    refine ⟨other, info, ⟨?_, clash⟩, equal⟩
    rw [if_neg different]
    exact held

/-- A placement whose id is its endpoint's own or unused removes exactly the ids it reports,
given that it reports the endpoint's previous id unless it keeps that one. -/
theorem place_removed (orderly : manager.Orderly) {client : ClientInfo} {replaced : List UInt32}
    (previous : Octets) (next : UInt32)
    (unused : ∀ other info, manager.clients.lookup other = some info →
      info.clientId = client.clientId → other = endpoint)
    (reports : ∀ clientId, clientId ∈ replaced ↔ clientId ≠ client.clientId ∧
      ∃ info, manager.clients.lookup endpoint = some info ∧ info.clientId = clientId)
    (clientId : UInt32) :
    clientId ∈ (manager.place endpoint request client replaced previous next).1.removedClientIds ↔
      manager.Holds clientId ∧
        ¬ (manager.place endpoint request client replaced previous next).2.Holds clientId := by
  rw [mem_evicted, reports]
  constructor
  · rintro (⟨changed, info, held, rfl⟩ | ⟨other, info, different, held, clash, rfl⟩)
    · refine ⟨⟨endpoint, info, held, rfl⟩, ?_⟩
      rintro ⟨third, kept, found, equal⟩
      rcases lookup_place_cases found with ⟨-, rfl⟩ | ⟨away, old, -⟩
      · exact changed equal.symm
      · exact away (orderly.distinct third endpoint kept info old held equal)
    · refine ⟨⟨other, info, held, rfl⟩, ?_⟩
      rintro ⟨third, kept, found, equal⟩
      rcases lookup_place_cases found with ⟨-, rfl⟩ | ⟨-, old, alone⟩
      · exact different (unused other info held equal.symm)
      obtain rfl := orderly.distinct third other kept info old held equal
      obtain rfl := Option.some.inj (old.symm.trans held)
      rw [clash] at alone
      cases alone
  · rintro ⟨⟨other, info, held, rfl⟩, gone⟩
    by_cases same : other = endpoint
    · subst same
      refine .inl ⟨?_, info, held, rfl⟩
      intro equal
      exact gone ⟨other, client, lookup_place_self _ _ _ _, equal.symm⟩
    refine .inr ⟨other, info, same, held, ?_, rfl⟩
    by_contra alone
    have stays := lookup_place_kept client replaced previous next same held
      (Bool.eq_false_iff.mpr alone)
    exact gone ⟨other, info, stays, rfl⟩

theorem registerClient_removed (numbered : Numbered manager registrations) (clientId : UInt32) :
    clientId ∈ (manager.registerClient endpoint now request).1.removedClientIds ↔
      manager.Holds clientId ∧ ¬ (manager.registerClient endpoint now request).2.Holds clientId := by
  have outcome := manager.registerClient_admission endpoint now request
  generalize manager.registerClient endpoint now request = answer at outcome
  cases outcome with
  | refused =>
    constructor
    · intro member
      cases member
    · rintro ⟨held, gone⟩
      exact absurd held gone
  | refreshed existing _ found reusable =>
    apply place_removed numbered.toOrderly
    · intro other info held equal
      rw [refreshedClient_clientId] at equal
      exact numbered.distinct other endpoint info existing held found equal
    intro id
    rw [refreshedClient_clientId]
    constructor
    · intro member
      cases member
    rintro ⟨changed, info, held, equal⟩
    obtain rfl := Option.some.inj (found.symm.trans held)
    exact absurd equal.symm changed
  | opened _ previous starts fits =>
    apply place_removed numbered.toOrderly
    · intro other info held equal
      rw [newClient_clientId] at equal
      exact absurd equal (numbered.next_unused held)
    intro id
    rw [newClient_clientId, Option.mem_toList, Option.map_eq_some_iff]
    constructor
    · rintro ⟨info, held, rfl⟩
      exact ⟨numbered.next_unused held, info, held, rfl⟩
    · rintro ⟨-, info, held, equal⟩
      exact ⟨info, held, equal⟩

/-- A new session gets the counter's value. -/
theorem registerClient_opened
    (accepted : (manager.registerClient endpoint now request).1.rejectedRoomFull = false)
    (starts : manager.StartsSession endpoint request) :
    (manager.registerClient endpoint now request).1.clientId = manager.nextClientId := by
  have outcome := manager.registerClient_admission endpoint now request
  generalize manager.registerClient endpoint now request = answer at outcome accepted
  cases outcome with
  | refused => cases accepted
  | refreshed existing _ found reusable =>
    rw [starts existing found] at reusable
    cases reusable
  | opened _ previous _ fits => exact newClient_clientId _ _ _

def Operation.registers : Operation → Bool
  | .register _ _ _ => true
  | _ => false

theorem initial_numbered : Numbered initial 0 := by
  have nobody (endpoint : Endpoint) : initial.clients.lookup endpoint = none :=
    Store.lookup_empty endpoint
  refine ⟨⟨?_, ?_, ?_, ?_⟩, le_rfl, le_rfl, ?_⟩
  · intro roomId
    exact Nat.zero_le _
  · intro first second firstInfo secondInfo found
    exact absurd ((nobody first).symm.trans found) (by simp)
  · intro endpoint info found
    exact absurd ((nobody endpoint).symm.trans found) (by simp)
  · intro first second firstInfo secondInfo found
    exact absurd ((nobody first).symm.trans found) (by simp)
  · intro endpoint info found
    exact absurd ((nobody endpoint).symm.trans found) (by simp)

theorem registerClient_next_le (numbered : Numbered manager registrations)
    (unwrapped : registrations + 1 < 2 ^ 32 - 1) :
    manager.nextClientId.toNat ≤
      (manager.registerClient endpoint now request).2.nextClientId.toNat := by
  have bounded := numbered.bounded
  have outcome := manager.registerClient_admission endpoint now request
  generalize manager.registerClient endpoint now request = answer at outcome
  cases outcome with
  | refused => exact le_rfl
  | refreshed existing _ found reusable => rw [place_nextClientId]
  | opened _ previous starts fits =>
    rw [place_nextClientId, UInt32.toNat_add, UInt32.toNat_one]
    omega

end Placed

variable (operation : Operation)

theorem apply_cases :
    (∃ endpoint now request, operation = .register endpoint now request) ∨
      operation.registers = false ∧ Thinned manager (manager.apply operation) := by
  cases operation with
  | register endpoint now request => exact .inl ⟨endpoint, now, request, rfl⟩
  | updateAlive endpoint now => exact .inr ⟨rfl, updateAlive_thinned manager endpoint now⟩
  | remove endpoint => exact .inr ⟨rfl, removeClientWithInfo_thinned manager endpoint⟩
  | removeRoomClient roomId clientId =>
    exact .inr ⟨rfl, removeRoomClientWithInfo_thinned manager roomId clientId⟩
  | removeRoomClients roomId => exact .inr ⟨rfl, removeRoomClientsWithInfo_thinned manager roomId⟩
  | removeTimedOut now timeout =>
    exact .inr ⟨rfl, removeTimedOutClients_thinned manager now timeout⟩
  | setRoomAccessEpoch roomId roomInstanceId accessEpoch =>
    exact .inr ⟨rfl, setRoomAccessEpoch_thinned manager roomId roomInstanceId accessEpoch⟩
  | readCache member => exact .inr ⟨rfl, getCachedRoomEndpoints_thinned manager member⟩

theorem apply_numbered {manager : ClientManager}
    (numbered : Numbered manager registrations)
    (unwrapped : registrations + operation.registers.toNat < 2 ^ 32 - 1) :
    Numbered (manager.apply operation) (registrations + operation.registers.toNat) ∧
      manager.nextClientId.toNat ≤ (manager.apply operation).nextClientId.toNat := by
  rcases manager.apply_cases operation with ⟨endpoint, now, request, rfl⟩ | ⟨quiet, thinned⟩
  · exact ⟨registerClient_numbered numbered unwrapped, registerClient_next_le numbered unwrapped⟩
  · rw [quiet, Bool.toNat_false, Nat.add_zero]
    exact ⟨thinned.numbered numbered, le_of_eq (congrArg UInt32.toNat thinned.next).symm⟩

variable (operations : List Operation)

/-- The cap holds however often the ids have wrapped. -/
theorem run_capped : (Run.run apply initial operations).Capped := by
  refine Run.invariant apply Capped (fun manager operation capped => ?_) initial operations
    initial_numbered.capped
  rcases manager.apply_cases operation with ⟨endpoint, now, request, rfl⟩ | ⟨-, thinned⟩
  · have outcome := registerClient_admission manager endpoint now request
    simp only [apply]
    generalize manager.registerClient endpoint now request = answer at outcome
    cases outcome with
    | refused => exact capped
    | refreshed existing _ found reusable =>
      exact place_capped capped _ _ _ (refreshedClient_fits existing _ request reusable)
        (.inl ⟨existing, found, canReuse_roomId reusable⟩)
    | opened _ previous starts fits =>
      exact place_capped capped _ _ _ (newClient_fits _ _ request) fits
  · exact thinned.capped capped

theorem run_numbered {manager : ClientManager}
    (numbered : Numbered manager registrations)
    (unwrapped : registrations + operations.countP Operation.registers < 2 ^ 32 - 1) :
    Numbered (Run.run apply manager operations)
        (registrations + operations.countP Operation.registers) ∧
      manager.nextClientId.toNat ≤ (Run.run apply manager operations).nextClientId.toNat := by
  induction operations generalizing manager registrations with
  | nil => exact ⟨numbered, le_rfl⟩
  | cons operation operations ih =>
    have counted : (operation :: operations).countP Operation.registers =
        operation.registers.toNat + operations.countP Operation.registers := by
      rw [countP_cons, Nat.add_comm]
      cases operation.registers <;> rfl
    rw [counted, ← Nat.add_assoc] at unwrapped ⊢
    obtain ⟨first, advanced⟩ := apply_numbered operation numbered (by omega)
    obtain ⟨rest, later⟩ := ih first unwrapped
    exact ⟨rest, advanced.trans later⟩

/-- After every sequence of fewer than `2^32 - 1` registrations and any other operations
the table is orderly; each registration in it reported exactly the ids it removed, and
gave a new session an id that nobody had held at any time before. -/
theorem registrations_orderly
    (unwrapped : operations.countP Operation.registers < 2 ^ 32 - 1) :
    (Run.run apply initial operations).Orderly ∧
      ∀ earlier endpoint now request later,
        operations = earlier ++ .register endpoint now request :: later →
        let manager := Run.run apply initial earlier
        let answer := manager.registerClient endpoint now request
        (∀ clientId, clientId ∈ answer.1.removedClientIds ↔
            manager.Holds clientId ∧ ¬ answer.2.Holds clientId) ∧
          (answer.1.rejectedRoomFull = false → manager.StartsSession endpoint request →
            ∀ past, past <+: earlier → ¬ (Run.run apply initial past).Holds answer.1.clientId) := by
  have started : 0 + operations.countP Operation.registers < 2 ^ 32 - 1 := by omega
  refine ⟨(run_numbered operations initial_numbered started).1.toOrderly, ?_⟩
  rintro earlier endpoint now request later rfl
  have fewer : (earlier ++ .register endpoint now request :: later).countP Operation.registers =
      earlier.countP Operation.registers + (later.countP Operation.registers + 1) := by
    rw [countP_append, countP_cons_of_pos rfl]
  have numbered := (run_numbered earlier initial_numbered (by omega)).1
  refine ⟨registerClient_removed numbered, ?_⟩
  rintro accepted starts past ⟨rest, rfl⟩ ⟨other, info, held, equal⟩
  rw [registerClient_opened accepted starts] at equal
  have parts : (past ++ rest).countP Operation.registers =
      past.countP Operation.registers + rest.countP Operation.registers := countP_append
  have before := (run_numbered past initial_numbered (by omega)).1
  have advanced := (run_numbered rest before (by omega)).2
  rw [← Run.run_append] at advanced
  have below := before.below other info held
  rw [equal] at below
  omega

/-- Bob registers from one endpoint, then from another, and the first entry goes. -/
def bobMoves : List Operation :=
  [.register (loopback 1) 0 (plainRequest (ascii "jam") (ascii "bob")),
    .register (loopback 2) 0 (plainRequest (ascii "jam") (ascii "bob"))]

theorem registrations_orderly_bobMoves :
    (Run.run apply initial bobMoves).Orderly ∧
      ((Run.run apply initial [bobMoves.head (by decide)]).registerClient (loopback 2) 0
        (plainRequest (ascii "jam") (ascii "bob"))).1.removedClientIds = [1] ∧
      ¬ (Run.run apply initial bobMoves).Holds 1 := by
  obtain ⟨orderly, removed⟩ := registrations_orderly bobMoves (by decide)
  have moved := removed [bobMoves.head (by decide)] (loopback 2) 0
    (plainRequest (ascii "jam") (ascii "bob")) [] rfl
  exact ⟨orderly, by decide, ((moved.1 1).mp (by decide)).2⟩

/-- The members that stay when the endpoint's own entry and the entries of its profile in
the room make way for a registration. -/
def membersKept (manager : ClientManager) (endpoint : Endpoint) (request : Registration) :
    List (Endpoint × ClientInfo) :=
  (manager.getRoomClients request.roomId).filter fun entry =>
    entry.1 ≠ endpoint && entry.2.profileId ≠ request.profileId

theorem mem_membersKept (other : Endpoint) (info : ClientInfo) :
    (other, info) ∈ manager.membersKept endpoint request ↔
      manager.clients.lookup other = some info ∧ info.roomId = request.roomId ∧
        other ≠ endpoint ∧ isDuplicate endpoint request other info = false := by
  simp only [membersKept, mem_filter, mem_getRoomClients, Bool.and_eq_true, ne_eq,
    decide_eq_true_eq, isDuplicate, Bool.and_eq_false_iff, decide_eq_false_iff_not]
  tauto

/-- A placement leaves the members that stay, and the placed one. -/
theorem roomCounts_place {endpoint : Endpoint} {request : Registration} {client : ClientInfo}
    (fits : Fits client request) :
    (manager.place endpoint request client replaced previous next).2.roomCounts request.roomId =
      (manager.membersKept endpoint request).length + 1 := by
  have lists := getRoomClients_listsRoom
    (manager.place endpoint request client replaced previous next).2 request.roomId
  have kept : ((manager.membersKept endpoint request).map Prod.fst).Nodup :=
    (getRoomClients_listsRoom manager request.roomId).nodup.sublist (filter_sublist.map _)
  have absent : endpoint ∉ (manager.membersKept endpoint request).map Prod.fst := by
    intro member
    obtain ⟨entry, listed, same⟩ := mem_map.mp member
    exact ((manager.mem_membersKept endpoint request entry.1 entry.2).mp listed).2.2.1 same
  have same : ∀ other, other ∈ ((manager.place endpoint request client replaced previous
        next).2.getRoomClients request.roomId).map Prod.fst ↔
      other ∈ endpoint :: (manager.membersKept endpoint request).map Prod.fst := by
    intro other
    rw [lists.mem_iff, mem_cons, mem_map]
    constructor
    · rintro ⟨info, found, inside⟩
      rcases lookup_place_cases found with ⟨here, -⟩ | ⟨different, held, alone⟩
      · exact .inl here
      · exact .inr ⟨(other, info), (manager.mem_membersKept _ _ _ _).mpr
          ⟨held, inside, different, alone⟩, rfl⟩
    · rintro (rfl | ⟨entry, listed, rfl⟩)
      · exact ⟨client, lookup_place_self _ _ _ _, fits.roomId⟩
      obtain ⟨held, inside, different, alone⟩ :=
        (manager.mem_membersKept endpoint request entry.1 entry.2).mp listed
      exact ⟨entry.2, lookup_place_kept client replaced previous next different held alone, inside⟩
  have equal := ((perm_ext_iff_of_nodup lists.nodup (nodup_cons.mpr ⟨absent, kept⟩)).mpr
    same).length_eq
  rw [length_cons, length_map, length_map] at equal
  exact equal

theorem registerClient_rejected_iff :
    (manager.registerClient endpoint now request).1.rejectedRoomFull = true ↔
      ¬ manager.InRoom endpoint request.roomId ∧
        maxRoomParticipants ≤ manager.roomCounts request.roomId := by
  unfold registerClient InRoom
  cases found : manager.clients.lookup endpoint with
  | none =>
    simp only [reduceCtorEq, false_and, exists_false, not_false_eq_true, true_and]
    split
    next full => simp only [full]
    next free => simp [place, free]
  | some existing =>
    simp only [Option.some.injEq, exists_eq_left']
    split
    next reusable =>
      simp only [canReuse, Bool.and_eq_true, decide_eq_true_eq] at reusable
      simp [place, reusable.1.1]
    split
    next full => simp [full]
    rename_i free
    simp only [place, Bool.false_eq_true, false_iff]
    intro both
    exact free ⟨both.2, both.1⟩

/-- Without an entry that would make way, all members stay; with one, or with the caller among
them, there are fewer. -/
theorem membersKept_length :
    ((manager.membersKept endpoint request).length < manager.roomCounts request.roomId ↔
      manager.InRoom endpoint request.roomId ∨ ∃ other info,
        manager.clients.lookup other = some info ∧
          isDuplicate endpoint request other info = true) ∧
      (manager.membersKept endpoint request).length ≤ manager.roomCounts request.roomId := by
  refine ⟨?_, length_filter_le _ _⟩
  rw [membersKept, roomCounts, length_filter_lt_length_iff_exists]
  simp only [Prod.exists, mem_getRoomClients, isDuplicate, InRoom, Bool.and_eq_true, ne_eq,
    decide_eq_true_eq, not_and_or, not_not]
  constructor
  · rintro ⟨other, info, ⟨held, inside⟩, same | profile⟩
    · exact .inl ⟨info, same ▸ held, inside⟩
    by_cases same : other = endpoint
    · exact .inl ⟨info, same ▸ held, inside⟩
    · exact .inr ⟨other, info, held, ⟨same, inside⟩, profile⟩
  · rintro (⟨info, held, inside⟩ | ⟨other, info, held, ⟨-, inside⟩, profile⟩)
    · exact ⟨endpoint, info, ⟨held, inside⟩, .inl rfl⟩
    · exact ⟨other, info, ⟨held, inside⟩, .inr profile⟩

/-- In every state the table can reach, an admitted registration leaves the members that stay
and the caller, and the rejection is exact unless the room is full, the caller's endpoint is
not in it, and another endpoint is there with the caller's profile: the capacity is tested
while that entry still counts. -/
theorem rejection_exact_iff (endpoint : Endpoint) (now : Time)
    (request : Registration) :
    let manager := Run.run apply initial operations
    let answer := manager.registerClient endpoint now request
    let remaining := (manager.membersKept endpoint request).length + 1
    (answer.1.rejectedRoomFull = false → answer.2.roomCounts request.roomId = remaining) ∧
      ((answer.1.rejectedRoomFull = true ↔ maxRoomParticipants < remaining) ↔
        ¬ (maxRoomParticipants ≤ manager.roomCounts request.roomId ∧
          ¬ manager.InRoom endpoint request.roomId ∧ ∃ other info,
            manager.clients.lookup other = some info ∧
              isDuplicate endpoint request other info = true)) := by
  intro manager answer remaining
  refine ⟨?_, ?_⟩
  · intro accepted
    have outcome := registerClient_admission manager endpoint now request
    change Admission manager endpoint request answer at outcome
    generalize answer = given at accepted outcome
    cases outcome with
    | refused => cases accepted
    | refreshed existing _ found reusable =>
      exact roomCounts_place manager _ _ _ (refreshedClient_fits existing _ request reusable)
    | opened _ previous starts fits =>
      exact roomCounts_place manager _ _ _ (newClient_fits _ _ request)
  · rw [manager.registerClient_rejected_iff endpoint now request]
    have capped : manager.roomCounts request.roomId ≤ maxRoomParticipants :=
      run_capped operations request.roomId
    obtain ⟨fewer, most⟩ := manager.membersKept_length endpoint request
    by_cases inside : manager.InRoom endpoint request.roomId
    · have staying := fewer.mpr (.inl inside)
      simp only [inside, not_true, false_and, and_false, not_false_eq_true, iff_true, false_iff]
      omega
    simp only [inside, false_or, not_false_eq_true, true_and] at fewer ⊢
    rw [← fewer]
    omega

/-- As many members as a room may have, one endpoint and profile each. -/
def fullHouse : List Operation :=
  (range maxRoomParticipants).map fun index =>
    .register (loopback (UInt16.ofNat (index + 1))) 0
      (plainRequest (ascii "jam") [UInt8.ofNat (index + 65)])

/-- One of them comes back from a new endpoint and is turned away, though its old entry
would have made way. -/
theorem reconnect_rejected :
    let manager := Run.run apply initial fullHouse
    let request := plainRequest (ascii "jam") [65]
    (manager.registerClient (loopback 99) 0 request).1.rejectedRoomFull = true ∧
      (manager.clients.lookup (loopback 1)).map ClientInfo.profileId = some request.profileId ∧
      (manager.membersKept (loopback 99) request).length + 1 = maxRoomParticipants := by
  decide +kernel

end Sesivo.ClientManager
