import Sesivo.Server.Safety
import Sesivo.Server.RoomInvariants

set_option autoImplicit false

/- An admin request as a whole: what the handler has changed by the time it answers, and
when the answer tells the truth about it. -/

namespace Sesivo

open JoinToken Option ClientManager RoomRegistry

/-- The token is the one the room was created with. -/
def Room.opensFor (sodium : Sodium) (room : Room) (adminToken : Octets) : Bool :=
  adminToken ≠ [] && trySha256Hex sodium adminToken = some room.adminTokenHash

namespace RoomRegistry

variable {registry : RoomRegistry} {roomId adminToken commitment : Octets} {room : Room}

theorem authorizeAdmin_of_opens {sodium : Sodium} (held : registry.rooms.lookup roomId = some room)
    (opens : room.opensFor sodium adminToken = true) (now : Time) :
    registry.authorizeAdmin sodium roomId adminToken now =
      ({ ok := true, room := room.snapshot }, registry.touch roomId now) := by
  simp only [Room.opensFor, Bool.and_eq_true, decide_eq_true_eq] at opens
  simp [authorizeAdmin, held, opens.2, opens.1]

theorem authorizeAdmin_of_shut {sodium : Sodium}
    (shut : ∀ room, registry.rooms.lookup roomId = some room →
      room.opensFor sodium adminToken = false) (now : Time) :
    (registry.authorizeAdmin sodium roomId adminToken now).1.ok = false ∧
      (registry.authorizeAdmin sodium roomId adminToken now).2 = registry := by
  unfold authorizeAdmin
  split
  · exact ⟨rfl, rfl⟩
  rename_i room held
  have closed := shut room held
  split
  · exact ⟨rfl, rfl⟩
  rename_i tokenHash hashed
  rw [Room.opensFor, hashed] at closed
  have wrong : adminToken = [] ∨ tokenHash ≠ room.adminTokenHash := by
    by_cases empty : adminToken = []
    · exact .inl empty
    right
    intro same
    rw [same] at closed
    simp [empty] at closed
  rw [if_pos wrong]
  exact ⟨rfl, rfl⟩

/-- The call has turned the room into `next` and says so. -/
def RotatedTo (registry : RoomRegistry) (roomId : Octets) (next : Room)
    (answer : AuthorizeResult × RoomRegistry) : Prop :=
  answer.1 = { ok := true, room := next.snapshot } ∧ ∀ other,
    answer.2.rooms.lookup other = if other = roomId then some next else registry.rooms.lookup other

theorem advance_rotatedTo (held : registry.rooms.lookup roomId = some room)
    (access : Room → UInt8 × Octets) (commitment : Octets) (now : Time) :
    RotatedTo registry roomId
      (rotated room (access { room with lastActivity := now }).1
        (access { room with lastActivity := now }).2 commitment now)
      ((registry.touch roomId now).advance roomId access commitment now) := by
  have touched := registry.lookup_touch roomId roomId now
  rw [if_pos rfl, held, map_some] at touched
  refine ⟨?_, ?_⟩
  · simp only [advance, touched]
    rfl
  intro other
  rcases (registry.touch roomId now).advance_cases roomId access commitment now with
    ⟨missing, -⟩ | ⟨active, found, -, changed⟩
  · rw [touched] at missing
    cases missing
  rw [touched] at found
  obtain rfl := some.inj found
  rw [changed other]
  split
  · rfl
  next elsewhere => rw [lookup_touch, if_neg elsewhere]

/-- A call that rotates the room, if it is asked by the admin with valid arguments. -/
def RotatesIf (registry : RoomRegistry) (sodium : Sodium) (roomId adminToken : Octets)
    (valid : Prop) (next : Room → Room) (now : Time) (answer : AuthorizeResult × RoomRegistry) :
    Prop :=
  (∃ room, registry.rooms.lookup roomId = some room ∧ room.opensFor sodium adminToken = true ∧
      valid ∧ RotatedTo registry roomId (next room) answer) ∨
    ((∀ room, registry.rooms.lookup roomId = some room →
        room.opensFor sodium adminToken = true → ¬ valid) ∧
      answer.1.ok = false ∧ (answer.2 = registry ∨ answer.2 = registry.touch roomId now))

/-- The admin's token is checked first; the rest is done on the room it has touched. -/
theorem rotatesIf_of {sodium : Sodium} {valid : Prop} {next : Room → Room} {now : Time}
    {answer : AuthorizeResult × RoomRegistry}
    (granted : ∀ room, registry.rooms.lookup roomId = some room →
      room.opensFor sodium adminToken = true →
        (valid ∧ RotatedTo registry roomId (next room) answer) ∨
          (¬ valid ∧ answer.1.ok = false ∧ answer.2 = registry.touch roomId now))
    (refused : (∀ room, registry.rooms.lookup roomId = some room →
      room.opensFor sodium adminToken = false) → answer.1.ok = false ∧ answer.2 = registry) :
    RotatesIf registry sodium roomId adminToken valid next now answer := by
  by_cases admin : ∃ room, registry.rooms.lookup roomId = some room ∧
      room.opensFor sodium adminToken = true
  · obtain ⟨room, held, opens⟩ := admin
    rcases granted room held opens with ⟨accepted, rotated⟩ | ⟨rejected, failed, touched⟩
    · exact .inl ⟨room, held, opens, accepted, rotated⟩
    · exact .inr ⟨fun _ _ _ => rejected, failed, .inr touched⟩
  have shut : ∀ room, registry.rooms.lookup roomId = some room →
      room.opensFor sodium adminToken = false := by
    intro room held
    exact Bool.eq_false_of_not_eq_true fun opens => admin ⟨room, held, opens⟩
  obtain ⟨failed, same⟩ := refused shut
  refine .inr ⟨?_, failed, .inl same⟩
  intro room held opens
  rw [shut room held] at opens
  cases opens

theorem changeAccessMode_rotatesIf (sodium : Sodium) (registry : RoomRegistry)
    (roomId adminToken : Octets) (accessMode : UInt8) (passwordHash commitment : Octets)
    (now : Time) :
    RotatesIf registry sodium roomId adminToken
      (validAccessMode accessMode = true ∧ ¬ (accessMode = roomAccessPassword ∧ passwordHash = []) ∧
        validSha256Hex commitment = true)
      (fun room => rotated room accessMode
        (if accessMode = roomAccessPassword then passwordHash else []) commitment now)
      now
      (registry.changeAccessMode sodium roomId adminToken accessMode passwordHash commitment now) := by
  apply rotatesIf_of
  · intro room held opens
    simp only [changeAccessMode, authorizeAdmin_of_opens held opens, Bool.true_eq_false, if_false]
    by_cases mode : validAccessMode accessMode = false
    · rw [if_pos mode]
      exact .inr ⟨fun valid => by simp [mode] at valid, rfl, rfl⟩
    rw [if_neg mode]
    by_cases password : accessMode = roomAccessPassword ∧ passwordHash = []
    · rw [if_pos password]
      exact .inr ⟨fun valid => valid.2.1 password, rfl, rfl⟩
    rw [if_neg password]
    by_cases wrong : validSha256Hex commitment = false
    · rw [if_pos wrong]
      exact .inr ⟨fun valid => by simp [wrong] at valid, rfl, rfl⟩
    rw [if_neg wrong]
    refine .inl ⟨⟨Bool.eq_true_of_not_eq_false mode, password,
      Bool.eq_true_of_not_eq_false wrong⟩, ?_⟩
    exact advance_rotatedTo held _ commitment now
  · intro shut
    obtain ⟨failed, same⟩ := authorizeAdmin_of_shut shut now
    simp [changeAccessMode, failed, same]

theorem rotateAccessEpoch_rotatesIf (sodium : Sodium) (registry : RoomRegistry)
    (roomId adminToken commitment : Octets) (now : Time) :
    RotatesIf registry sodium roomId adminToken (validSha256Hex commitment = true)
      (fun room => rotated room room.accessMode room.passwordHash commitment now) now
      (registry.rotateAccessEpoch sodium roomId adminToken commitment now) := by
  apply rotatesIf_of
  · intro room held opens
    simp only [rotateAccessEpoch, authorizeAdmin_of_opens held opens, Bool.true_eq_false, if_false]
    split
    next wrong => exact .inr ⟨fun valid => by simp [wrong] at valid, rfl, rfl⟩
    next right =>
      exact .inl ⟨Bool.eq_true_of_not_eq_false right, advance_rotatedTo held _ commitment now⟩
  · intro shut
    obtain ⟨failed, same⟩ := authorizeAdmin_of_shut shut now
    simp [rotateAccessEpoch, failed, same]

end RoomRegistry

namespace Server

open Octets

/-- Nobody joined or left, and no room changed but for its last activity. -/
@[mk_iff] structure Untouched (before after : Server) : Prop where
  clients : ∀ endpoint, after.clientManager.clients.lookup endpoint =
    before.clientManager.clients.lookup endpoint
  rooms : ∀ roomId, (after.roomRegistry.rooms.lookup roomId).map Room.idle =
    (before.roomRegistry.rooms.lookup roomId).map Room.idle

/-- What a successful request asks for. -/
def CarriedOut (before after : Server) (request : RoomAdminRequestHdr) : Prop :=
  let roomId := fixedString request.roomId
  let passwordHash := fixedString request.passwordHash
  if request.command = roomAdminCloseRoom then
    after.roomRegistry.rooms.lookup roomId = none ∧
      ∀ endpoint info, after.clientManager.clients.lookup endpoint = some info →
        info.roomId ≠ roomId
  else
    ∃ old new, before.roomRegistry.rooms.lookup roomId = some old ∧
      after.roomRegistry.rooms.lookup roomId = some new ∧
      new.accessEpoch.toNat = old.accessEpoch.toNat + 1 ∧
      new.mediaKeyCommitment = fixedString request.mediaKeyCommitment ∧
      (∀ endpoint info, after.clientManager.clients.lookup endpoint = some info →
        info.roomId = roomId → info.accessEpoch = new.accessEpoch) ∧
      (request.command = roomAdminChangePassword → new.passwordHash = passwordHash ∧
        new.accessMode = if passwordHash = [] then roomAccessOpen else roomAccessPassword) ∧
      (request.command = roomAdminChangeAccess → new.accessMode = request.accessMode ∧
        new.passwordHash = if request.accessMode = roomAccessPassword then passwordHash else []) ∧
      (request.command = roomAdminKickParticipant →
        ∀ endpoint info, after.clientManager.clients.lookup endpoint = some info →
          info.roomId = roomId → info.clientId ≠ request.targetParticipantId)

/-- A request that is answered with this status has been carried out or has changed nothing. -/
def Atomic (before after : Server) (request : RoomAdminRequestHdr) (status : UInt8) : Prop :=
  (status ≠ roomStatusOk → Untouched before after) ∧
    (status = roomStatusOk → CarriedOut before after request)

/-- The admin of `room` asks for it, with a commitment for its next epoch. -/
@[mk_iff] structure AskedByAdmin (sodium : Sodium) (server : Server) (request : RoomAdminRequestHdr)
    (room : Room) : Prop where
  held : server.roomRegistry.rooms.lookup (fixedString request.roomId) = some room
  opens : room.opensFor sodium (fixedString request.adminToken) = true
  commitment : validSha256Hex (fixedString request.mediaKeyCommitment) = true

/-- The client is the one the request wants to be kicked. -/
def IsTarget (request : RoomAdminRequestHdr) (info : ClientInfo) : Prop :=
  info.roomId = fixedString request.roomId ∧ info.clientId = request.targetParticipantId

/-- The request is for a new password, access mode or key, with valid arguments. -/
def AsksRotation (request : RoomAdminRequestHdr) : Prop :=
  request.command = roomAdminChangePassword ∨ request.command = roomAdminRotateMediaKey ∨
    (request.command = roomAdminChangeAccess ∧ validAccessMode request.accessMode = true ∧
      ¬ (request.accessMode = roomAccessPassword ∧ fixedString request.passwordHash = []))

/-- The epoch of the room does not start again; and who is to be kicked is neither one of two
with that id nor the last member of a room that is swept when empty. -/
@[mk_iff] structure AdminSafe (sodium : Sodium) (server : Server) (request : RoomAdminRequestHdr)
    (now : Time) : Prop where
  rotation : AsksRotation request → ∀ room, AskedByAdmin sodium server request room →
    room.accessEpoch.toNat + 1 < 2 ^ 32
  kick : request.command = roomAdminKickParticipant → request.targetParticipantId ≠ 0 →
    ∀ room, AskedByAdmin sodium server request room →
      ∀ endpoint info, server.clientManager.clients.lookup endpoint = some info →
        IsTarget request info →
        room.accessEpoch.toNat + 1 < 2 ^ 32 ∧
        (∀ other otherInfo, server.clientManager.clients.lookup other = some otherInfo →
          IsTarget request otherInfo → other = endpoint) ∧
        ((∃ other otherInfo, server.clientManager.clients.lookup other = some otherInfo ∧
          otherInfo.roomId = fixedString request.roomId ∧ other ≠ endpoint) ∨
            expires now room = false)

/-- A request that only touched the room at most. -/
theorem Untouched.of_touch {before after : Server} (roomId : Octets) (now : Time)
    (clients : after.clientManager = before.clientManager)
    (rooms : after.roomRegistry = before.roomRegistry ∨
      after.roomRegistry = before.roomRegistry.touch roomId now) : Untouched before after := by
  refine ⟨fun endpoint => by rw [clients], ?_⟩
  intro other
  rcases rooms with same | touched
  · rw [same]
  rw [touched, lookup_touch]
  split
  · rw [map_map]
    rfl
  · rfl

/-- How the handler ends once the command was executed: it reports the failure, or hands
the new epoch to the members and reports success. -/
def Concludes (executed : AuthorizeResult × RoomAdminResponse × Server) (status : UInt8)
    (final : Server) : Prop :=
  let authorized := executed.1
  let after := executed.2.2
  final.roomRegistry = after.roomRegistry ∧
    ((status ≠ roomStatusOk ∧ (authorized.ok = false ∨ executed.2.1.status ≠ roomStatusOk) ∧
        final.clientManager = after.clientManager) ∨
      (status = roomStatusOk ∧ authorized.ok = true ∧ executed.2.1.status = roomStatusOk ∧
        final.clientManager = after.clientManager.setRoomAccessEpoch authorized.room.roomId
          authorized.room.roomInstanceId authorized.room.accessEpoch))

variable {remote : Endpoint} {packet : Octets} {ambient : Ambient} {manager : ClientManager}
variable {endpoint : Endpoint}

theorem getLast?_send {server : Server} {sent message : ServerMessage}
    (last : (server.send remote sent).outbox.getLast? = some (remote, message)) :
    sent = message := by
  simp only [send, List.getLast?_concat] at last
  exact (Prod.mk.inj (some.inj last)).2

/-- A request that is answered is refused outright, or executed and concluded. -/
theorem handleRoomAdminRequest_concludes (sodium : Sodium) {server : Server}
    {response : RoomAdminResponse} (quiet : server.outbox = [])
    (answered : (handleRoomAdminRequest sodium server remote packet ambient).outbox.getLast? =
      some (remote, .roomAdmin response)) :
    let final := handleRoomAdminRequest sodium server remote packet ambient
    let request := RoomAdminRequestHdr.read packet
    (response.status ≠ roomStatusOk ∧ final.clientManager = server.clientManager ∧
        final.roomRegistry = server.roomRegistry ∧
        ((rotatesMediaKey request.command = true ∧
            validSha256Hex (fixedString request.mediaKeyCommitment) = false) ∨
          ∃ blank, executeAdminCommand sodium server request blank ambient.now = none)) ∨
      ∃ blank executed, blank.status = roomStatusOk ∧
        ¬ (rotatesMediaKey request.command = true ∧
          validSha256Hex (fixedString request.mediaKeyCommitment) = false) ∧
        executeAdminCommand sodium server request blank ambient.now = some executed ∧
          Concludes executed response.status final := by
  intro final request
  have badRequest : roomStatusBadRequest ≠ roomStatusOk := by decide
  by_cases short : packet.length < roomAdminRequestHdrBytes
  · simp only [handleRoomAdminRequest, if_pos short, quiet, List.getLast?_nil, reduceCtorEq]
      at answered
  simp only [final, handleRoomAdminRequest, if_neg short] at answered ⊢
  split at answered
  next invalid =>
    simp only [if_pos invalid]
    have sent := ServerMessage.roomAdmin.inj (getLast?_send answered)
    rw [← sent]
    exact .inl ⟨badRequest, rfl, rfl, .inl invalid⟩
  next valid =>
    simp only [if_neg valid]
    split at answered
    next unknown =>
      have sent := ServerMessage.roomAdmin.inj (getLast?_send answered)
      rw [← sent]
      exact .inl ⟨badRequest, rfl, rfl, .inr ⟨_, unknown⟩⟩
    rename_i authorized soFar after executed
    refine .inr ⟨_, _, rfl, valid, executed, ?_⟩
    split at answered
    next failed =>
      have sent := ServerMessage.roomAdmin.inj (getLast?_send answered)
      simp only [if_pos failed]
      refine ⟨rfl, .inl ⟨?_, .inl failed, rfl⟩⟩
      rw [← sent]
      show (if _ then roomStatusNotFound else roomStatusForbidden) ≠ roomStatusOk
      split <;> decide
    next passed =>
      simp only [if_neg passed]
      split at answered
      next failed =>
        have sent := ServerMessage.roomAdmin.inj (getLast?_send answered)
        simp only [if_pos failed]
        exact ⟨rfl, .inl ⟨sent ▸ failed, .inr failed, rfl⟩⟩
      rename_i fine
      have sent := ServerMessage.roomAdmin.inj (getLast?_send answered)
      simp only [if_neg fine]
      refine ⟨rfl, .inr ⟨?_, Bool.eq_true_of_not_eq_false passed, Decidable.not_not.mp fine, rfl⟩⟩
      rw [← sent]

/-- The members of every room have its instance. -/
def OneInstance (server : Server) : Prop :=
  ∀ endpoint info, server.clientManager.clients.lookup endpoint = some info →
    ∀ room, server.roomRegistry.rooms.lookup info.roomId = some room →
      info.roomInstanceId = room.roomInstanceId

/-- Handing out a new epoch reaches every member of the room and changes nothing else. -/
theorem lookup_setRoomAccessEpoch {roomId instanceId : Octets} {epoch : UInt32} {info : ClientInfo}
    (found : (manager.setRoomAccessEpoch roomId instanceId epoch).clients.lookup endpoint =
      some info) :
    ∃ old, manager.clients.lookup endpoint = some old ∧ info.roomId = old.roomId ∧
      info.clientId = old.clientId ∧
      (old.roomId = roomId → old.roomInstanceId = instanceId → info.accessEpoch = epoch) := by
  simp only [setRoomAccessEpoch, Store.lookup_mapValues, map_eq_some_iff] at found
  obtain ⟨old, held, same⟩ := found
  refine ⟨old, held, ?_⟩
  rw [← same]
  split
  · exact ⟨rfl, rfl, fun _ _ => rfl⟩
  next other => exact ⟨rfl, rfl, fun room one => absurd ⟨room, one⟩ other⟩

theorem exists_setRoomAccessEpoch (roomId instanceId : Octets) (epoch : UInt32) {old : ClientInfo}
    (held : manager.clients.lookup endpoint = some old) :
    ∃ info, (manager.setRoomAccessEpoch roomId instanceId epoch).clients.lookup endpoint =
      some info ∧ info.roomId = old.roomId ∧ info.clientId = old.clientId := by
  simp only [setRoomAccessEpoch, Store.lookup_mapValues, held, map_some]
  refine ⟨_, rfl, ?_⟩
  split <;> exact ⟨rfl, rfl⟩

theorem toNat_succ_iff (epoch : UInt32) :
    (epoch + 1).toNat = epoch.toNat + 1 ↔ epoch.toNat + 1 < 2 ^ 32 := by
  have next := (epoch + 1).toNat_lt
  constructor
  · intro same
    omega
  · intro below
    exact Nat.mod_eq_of_lt below

section Rotation

variable {sodium : Sodium} {server final : Server} {request : RoomAdminRequestHdr} {now : Time}
  {status : UInt8} {response : RoomAdminResponse}

/-- A request that fails and does nothing is right whatever it was. -/
theorem atomic_of_untouched (failed : status ≠ roomStatusOk) (same : Untouched server final) :
    Atomic server final request status :=
  ⟨fun _ => same, fun ok => absurd ok failed⟩

theorem atomic_iff_of_ok (ok : status = roomStatusOk) :
    Atomic server final request status ↔ CarriedOut server final request :=
  ⟨fun atomic => atomic.2 ok, fun carried => ⟨fun failed => absurd ok failed, fun _ => carried⟩⟩

/-- A command that is one call of the registry. -/
theorem rotation_atomic_iff {answer : AuthorizeResult × RoomRegistry} {valid : Prop}
    (access : Room → UInt8 × Octets) (one : OneInstance server)
    (notClose : request.command ≠ roomAdminCloseRoom)
    (notKick : request.command ≠ roomAdminKickParticipant)
    (rotates : RoomRegistry.RotatesIf server.roomRegistry sodium (fixedString request.roomId)
      (fixedString request.adminToken) valid (fun room => rotated room (access room).1
        (access room).2 (fixedString request.mediaKeyCommitment) now) now answer)
    (validIff : valid ↔ AsksRotation request ∧
      validSha256Hex (fixedString request.mediaKeyCommitment) = true)
    (password : request.command = roomAdminChangePassword → ∀ room,
      (access room).2 = fixedString request.passwordHash ∧
        (access room).1 = if fixedString request.passwordHash = [] then roomAccessOpen
          else roomAccessPassword)
    (mode : request.command = roomAdminChangeAccess → ∀ room,
      (access room).1 = request.accessMode ∧
        (access room).2 = if request.accessMode = roomAccessPassword then
          fixedString request.passwordHash else [])
    (blank : response.status = roomStatusOk)
    (concludes : Concludes (answer.1, response, { server with roomRegistry := answer.2 }) status
      final) :
    Atomic server final request status ↔ AdminSafe sodium server request now := by
  obtain ⟨registry, ending⟩ := concludes
  rcases rotates with ⟨room, held, opens, accepted, said, rooms⟩ | ⟨refused, failed, same⟩
  · obtain ⟨asks, commitment⟩ := validIff.mp accepted
    rcases ending with ⟨-, failed | failed, -⟩ | ⟨ok, -, -, clients⟩
    · rw [said] at failed
      cases failed
    · exact absurd blank failed
    rw [atomic_iff_of_ok ok]
    rw [said] at clients
    have stored := rooms (fixedString request.roomId)
    rw [if_pos rfl] at stored
    have name := server.roomRegistry.keyed _ room held
    constructor
    · intro carried
      simp only [CarriedOut, if_neg notClose] at carried
      obtain ⟨old, new, oldHeld, newHeld, epoch, -⟩ := carried
      rw [held] at oldHeld
      obtain rfl := some.inj oldHeld
      rw [registry, stored] at newHeld
      obtain rfl := some.inj newHeld
      refine ⟨?_, fun kick => absurd kick notKick⟩
      intro _ other asked
      obtain rfl := some.inj (held.symm.trans asked.held)
      exact (toNat_succ_iff _).mp epoch
    · intro safe
      have below := safe.rotation asks room ⟨held, opens, commitment⟩
      simp only [CarriedOut, if_neg notClose]
      refine ⟨room, rotated room (access room).1 (access room).2
        (fixedString request.mediaKeyCommitment) now, held, by rw [registry]; exact stored,
        (toNat_succ_iff _).mpr below, rfl, ?_, fun command => password command room,
        fun command => mode command room, fun kick => absurd kick notKick⟩
      intro endpoint info found inside
      rw [clients] at found
      obtain ⟨old, oldFound, sameRoom, -, reached⟩ := lookup_setRoomAccessEpoch found
      have oldRoom : old.roomId = fixedString request.roomId := sameRoom.symm.trans inside
      exact reached (oldRoom.trans name.symm)
        (one endpoint old oldFound room (by rw [oldRoom]; exact held))
  · have untouched : status ≠ roomStatusOk ∧ Untouched server final := by
      rcases ending with ⟨wrong, -, clients⟩ | ⟨-, ok, -, -⟩
      · refine ⟨wrong, .of_touch (fixedString request.roomId) now clients ?_⟩
        rw [registry]
        exact same
      rw [failed] at ok
      cases ok
    refine ⟨fun _ => ⟨?_, fun kick => absurd kick notKick⟩,
      fun _ => atomic_of_untouched untouched.1 untouched.2⟩
    intro asks room asked
    exact absurd (validIff.mpr ⟨asks, asked.commitment⟩) (refused room asked.held asked.opens)

/-- What is left of the clients and rooms when all participants of a room are removed. -/
theorem removeAll_stores (server : Server) (roomId : Octets) (now : Time) :
    let manager := (server.clientManager.removeRoomClientsWithInfo roomId).2
    (server.removeAllRoomParticipants roomId now).clientManager = manager ∧
      (server.removeAllRoomParticipants roomId now).roomRegistry =
        server.roomRegistry.removeEmptyRooms manager.roomCounts now := by
  intro manager
  have dismissed := dismissAll_dismissed (server.clientManager.removeRoomClientsWithInfo roomId).1
    { server with clientManager := manager }
  refine ⟨dismissed.clients, ?_⟩
  simp only [removeAllRoomParticipants, cleanupEmptyRooms]
  rw [dismissed.clients, dismissed.rooms]

theorem close_atomic {executed : AuthorizeResult × RoomAdminResponse × Server}
    (close : request.command = roomAdminCloseRoom) (blank : response.status = roomStatusOk)
    (runs : executeAdminCommand sodium server request response now = some executed)
    (concludes : Concludes executed status final) : Atomic server final request status := by
  simp +decide only [executeAdminCommand, close, if_false, if_true] at runs
  obtain rfl := some.inj runs
  obtain ⟨registry, ending⟩ := concludes
  rcases server.roomRegistry.closeRoom_cases sodium (fixedString request.roomId)
    (fixedString request.adminToken) now with ⟨failed, same⟩ | ⟨ok, closed⟩
  · simp only [failed, if_true, same] at registry ending
    rcases ending with ⟨wrong, -, clients⟩ | ⟨-, impossible, -⟩
    · exact atomic_of_untouched wrong
        (.of_touch (fixedString request.roomId) now clients (.inl registry))
    · cases impossible
  · simp only [ok, Bool.true_eq_false, if_false, closed] at registry ending
    rcases ending with ⟨-, impossible | impossible, -⟩ | ⟨fine, -, -, clients⟩
    · cases impossible
    · exact absurd blank impossible
    rw [atomic_iff_of_ok fine]
    simp only [CarriedOut, if_pos close]
    refine ⟨?_, ?_⟩
    · rw [registry, (removeAll_stores _ _ now).2]
      simp only [removeEmptyRooms, retain, Store.lookup_keep, ne_eq,
        not_true_eq_false, decide_false]
      cases (server.roomRegistry.touch (fixedString request.roomId) now).rooms.lookup
        (fixedString request.roomId) with
      | none => rfl
      | some room => rfl
    · intro endpoint info found
      rw [clients] at found
      obtain ⟨old, held, sameRoom, -⟩ := lookup_setRoomAccessEpoch found
      rw [(removeAll_stores _ _ now).1, removeRoomClientsWithInfo_clients, Store.lookup_keep]
        at held
      rw [sameRoom]
      exact of_decide_eq_true (filter_eq_some_iff.mp held).2

/-- What is left of the clients and rooms when one participant is kicked. -/
theorem kick_stores {roomId : Octets} {participantId : UInt32} {removed : Endpoint × ClientInfo}
    {manager : ClientManager} (some_ : participantId ≠ 0)
    (found : server.clientManager.removeRoomClientWithInfo roomId participantId =
      (some removed, manager)) (now : Time) (response : RoomAdminResponse) :
    let answer := server.kickRoomParticipant roomId participantId now response
    answer.1 = true ∧ answer.2.1 = response ∧ answer.2.2.clientManager = manager ∧
      answer.2.2.roomRegistry = server.roomRegistry.removeEmptyRooms manager.roomCounts now := by
  intro answer
  have dismissed := dismissParticipant_dismissed { server with clientManager := manager } removed
  simp only [answer, kickRoomParticipant, if_neg some_, found]
  refine ⟨trivial, trivial, dismissed.clients, ?_⟩
  simp only [cleanupEmptyRooms]
  rw [dismissed.clients, dismissed.rooms]

/-- Removing the participant with an id finds one that is registered with it, if there is one. -/
theorem removeRoomClient_cases (manager : ClientManager) (roomId : Octets)
    (participantId : UInt32) :
    (∃ removed rest,
        manager.removeRoomClientWithInfo roomId participantId = (some removed, rest) ∧
        manager.clients.lookup removed.1 = some removed.2 ∧ removed.2.roomId = roomId ∧
        removed.2.clientId = participantId ∧ ∀ endpoint, rest.clients.lookup endpoint =
          if endpoint = removed.1 then none else manager.clients.lookup endpoint) ∨
      (∃ rest, manager.removeRoomClientWithInfo roomId participantId = (none, rest) ∧
        ∀ endpoint info, manager.clients.lookup endpoint = some info →
          ¬ (info.roomId = roomId ∧ info.clientId = participantId)) := by
  unfold removeRoomClientWithInfo
  split
  next absent =>
    refine .inr ⟨manager, rfl, ?_⟩
    intro endpoint info found both
    have listed := (manager.clients.mem_pairs endpoint info).mpr found
    have miss := List.find?_eq_none.mp absent (endpoint, info) listed
    simp [both.1, both.2] at miss
  next removed found =>
    have matches_ := List.find?_some found
    simp only [Bool.and_eq_true, decide_eq_true_eq] at matches_
    refine .inl ⟨removed, _, rfl, ?_, matches_.1, matches_.2, ?_⟩
    · exact (manager.clients.mem_pairs removed.1 removed.2).mp (List.mem_of_find?_eq_some found)
    · intro endpoint
      rw [invalidate_clients, Store.lookup_erase]

theorem roomCounts_eq_zero_iff (manager : ClientManager) (roomId : Octets) :
    manager.roomCounts roomId = 0 ↔
      ∀ endpoint info, manager.clients.lookup endpoint = some info → info.roomId ≠ roomId := by
  constructor
  · intro none endpoint info found inside
    have some_ := roomCounts_ne_zero manager endpoint info found
    rw [inside] at some_
    exact some_ none
  intro none
  rw [roomCounts, List.length_eq_zero_iff, List.eq_nil_iff_forall_not_mem]
  intro entry member
  obtain ⟨found, inside⟩ := (manager.mem_getRoomClients roomId entry.1 entry.2).mp member
  exact none entry.1 entry.2 found inside

section Kick

variable {room : Room} {removed : Endpoint × ClientInfo} {rest : ClientManager}

/-- The last member of a room is kicked and the room is swept with it: the request fails
after all, on a room that is no longer there. -/
theorem kicked_swept (asked : AskedByAdmin sodium server request room)
    (command : request.command = roomAdminKickParticipant) (some_ : request.targetParticipantId ≠ 0)
    (found : server.clientManager.clients.lookup removed.1 = some removed.2)
    (target : IsTarget request removed.2) (left : ∀ endpoint, rest.clients.lookup endpoint =
      if endpoint = removed.1 then none else server.clientManager.clients.lookup endpoint)
    (empty : rest.roomCounts (fixedString request.roomId) = 0)
    (expired : expires now room = true)
    (failed : status ≠ roomStatusOk) (clients : final.clientManager = rest) :
    Atomic server final request status ↔ AdminSafe sodium server request now := by
  constructor
  · intro atomic
    have same := (atomic.1 failed).clients removed.1
    rw [clients, left, if_pos rfl, found] at same
    cases same
  intro safe
  obtain ⟨-, -, others | kept⟩ := safe.kick command some_ room asked removed.1 removed.2 found target
  · obtain ⟨other, info, held, inside, different⟩ := others
    have still : rest.clients.lookup other = some info := by
      rw [left, if_neg different]
      exact held
    exact absurd inside ((roomCounts_eq_zero_iff rest _).mp empty other info still)
  · rw [expired] at kept
    cases kept

theorem not_asksRotation_of_kick (command : request.command = roomAdminKickParticipant) :
    ¬ AsksRotation request := by
  simp +decide [AsksRotation, command]

/-- The kicked client leaves others behind, or a room that waits for its first member. -/
theorem kicked_kept (one : OneInstance server) (asked : AskedByAdmin sodium server request room)
    (command : request.command = roomAdminKickParticipant) (some_ : request.targetParticipantId ≠ 0)
    (found : server.clientManager.clients.lookup removed.1 = some removed.2)
    (target : IsTarget request removed.2) (left : ∀ endpoint, rest.clients.lookup endpoint =
      if endpoint = removed.1 then none else server.clientManager.clients.lookup endpoint)
    (kept : rest.roomCounts (fixedString request.roomId) ≠ 0 ∨
      expires now room = false)
    (ok : status = roomStatusOk) (clients : final.clientManager =
      rest.setRoomAccessEpoch room.roomId room.roomInstanceId (room.accessEpoch + 1))
    (rooms : final.roomRegistry.rooms.lookup (fixedString request.roomId) =
      some (rotated room room.accessMode room.passwordHash
        (fixedString request.mediaKeyCommitment) now)) :
    Atomic server final request status ↔ AdminSafe sodium server request now := by
  have name := server.roomRegistry.keyed _ room asked.held
  rw [atomic_iff_of_ok ok]
  simp +decide only [CarriedOut, command, if_false, false_imp_iff, true_and, true_imp_iff]
  constructor
  · intro carried
    obtain ⟨old, new, oldHeld, newHeld, epoch, -, -, gone⟩ := carried
    obtain rfl := some.inj (asked.held.symm.trans oldHeld)
    obtain rfl := some.inj (rooms.symm.trans newHeld)
    have only : ∀ other info, server.clientManager.clients.lookup other = some info →
        IsTarget request info → other = removed.1 := by
      intro other info held also
      by_contra different
      have still : rest.clients.lookup other = some info := by
        rw [left, if_neg different]
        exact held
      obtain ⟨after, afterHeld, sameRoom, sameId⟩ :=
        exists_setRoomAccessEpoch room.roomId room.roomInstanceId (room.accessEpoch + 1) still
      rw [← clients] at afterHeld
      exact gone other after afterHeld (sameRoom.trans also.1) (sameId.trans also.2)
    refine ⟨fun asks => absurd asks (not_asksRotation_of_kick command),
      fun _ _ other askedToo endpoint info held also => ?_⟩
    obtain rfl := some.inj (asked.held.symm.trans askedToo.held)
    have here := only endpoint info held also
    refine ⟨(toNat_succ_iff _).mp epoch, ?_, ?_⟩
    · intro another anotherInfo anotherHeld anotherTarget
      rw [here]
      exact only another anotherInfo anotherHeld anotherTarget
    refine kept.imp_left fun occupied => ?_
    by_contra alone
    refine occupied ((roomCounts_eq_zero_iff rest _).mpr ?_)
    intro another anotherInfo anotherHeld inside
    rw [left] at anotherHeld
    split at anotherHeld
    · cases anotherHeld
    next different =>
      exact alone ⟨another, anotherInfo, anotherHeld, inside, by rw [here]; exact different⟩
  · intro safe
    obtain ⟨below, only, -⟩ := safe.kick command some_ room asked removed.1 removed.2 found target
    refine ⟨room, _, asked.held, rooms, (toNat_succ_iff _).mpr below, rfl, ?_, ?_⟩
    · intro endpoint info held inside
      rw [clients] at held
      obtain ⟨old, oldHeld, sameRoom, -, reached⟩ := lookup_setRoomAccessEpoch held
      rw [left] at oldHeld
      split at oldHeld
      · cases oldHeld
      have oldRoom : old.roomId = fixedString request.roomId := sameRoom.symm.trans inside
      exact reached (oldRoom.trans name.symm)
        (one endpoint old oldHeld room (by rw [oldRoom]; exact asked.held))
    · intro endpoint info held inside same
      rw [clients] at held
      obtain ⟨old, oldHeld, sameRoom, sameId, -⟩ := lookup_setRoomAccessEpoch held
      rw [left] at oldHeld
      split at oldHeld
      · cases oldHeld
      next different =>
        exact different (only endpoint old oldHeld
          ⟨sameRoom.symm.trans inside, sameId.symm.trans same⟩)

/-- The room after the sweep that follows a kick. -/
theorem lookup_swept (registry : RoomRegistry) {roomId : Octets}
    (held : registry.rooms.lookup roomId = some room) (counts : Octets → ℕ) (now : Time) :
    ((registry.touch roomId now).removeEmptyRooms counts now).rooms.lookup roomId =
      if counts roomId = 0 ∧ expires now room = true then none
      else some { room with lastActivity := now } := by
  have touched := registry.lookup_touch roomId roomId now
  rw [if_pos rfl, held, map_some] at touched
  simp only [removeEmptyRooms, retain, Store.lookup_keep, touched]
  have same : expires now { room with lastActivity := now } = expires now room := rfl
  rw [filter_some, same]
  by_cases swept : counts roomId = 0 ∧ expires now room = true
  · rw [if_pos swept, swept.1, swept.2]
    rfl
  rw [if_neg swept, if_pos]
  rw [Bool.not_eq_true', Bool.and_eq_false_iff]
  by_cases none : counts roomId = 0
  · exact .inr (Bool.eq_false_of_not_eq_true fun expired => swept ⟨none, expired⟩)
  · exact .inl (decide_eq_false none)

variable {executed : AuthorizeResult × RoomAdminResponse × Server}

/-- A kick by the admin: there is nobody to kick, or somebody is removed, rooms are swept
and the room is asked to rotate. -/
theorem kick_cases
    (command : request.command = roomAdminKickParticipant)
    (held : server.roomRegistry.rooms.lookup (fixedString request.roomId) = some room)
    (opens : room.opensFor sodium (fixedString request.adminToken) = true)
    (runs : executeAdminCommand sodium server request response now = some executed) :
    ((∀ endpoint info, server.clientManager.clients.lookup endpoint = some info →
          IsTarget request info → request.targetParticipantId = 0) ∧
        executed.2.1.status ≠ roomStatusOk ∧
        executed.2.2.clientManager = server.clientManager ∧
        executed.2.2.roomRegistry = server.roomRegistry.touch (fixedString request.roomId) now) ∨
      ∃ (removed : Endpoint × ClientInfo) (rest : ClientManager), request.targetParticipantId ≠ 0 ∧
        server.clientManager.clients.lookup removed.1 = some removed.2 ∧
        IsTarget request removed.2 ∧
        (∀ endpoint, rest.clients.lookup endpoint =
          if endpoint = removed.1 then none else server.clientManager.clients.lookup endpoint) ∧
        executed.2.1 = response ∧ executed.2.2.clientManager = rest ∧
        (executed.1, executed.2.2.roomRegistry) =
          ((server.roomRegistry.touch (fixedString request.roomId) now).removeEmptyRooms
            rest.roomCounts now).rotateAccessEpoch sodium (fixedString request.roomId)
            (fixedString request.adminToken) (fixedString request.mediaKeyCommitment) now := by
  simp +decide only [executeAdminCommand, command, if_false, if_true] at runs
  rw [authorizeAdmin_of_opens held opens] at runs
  generalize touched : ({ server with
    roomRegistry := server.roomRegistry.touch (fixedString request.roomId) now } : Server) = checked
    at runs
  by_cases zero : request.targetParticipantId = 0
  · simp only [kickRoomParticipant, zero, if_true] at runs
    obtain rfl := some.inj runs
    refine .inl ⟨fun _ _ _ _ => zero, (by decide : roomStatusBadRequest ≠ roomStatusOk), ?_, ?_⟩ <;>
      rw [← touched]
  rcases removeRoomClient_cases server.clientManager (fixedString request.roomId)
    request.targetParticipantId with ⟨removed, rest, found, registered, inside, id, left⟩ |
    ⟨rest, absent, nobody⟩
  · have sameClients : checked.clientManager = server.clientManager := by rw [← touched]
    have sameRooms : checked.roomRegistry =
        server.roomRegistry.touch (fixedString request.roomId) now := by rw [← touched]
    rw [← sameClients] at found
    obtain ⟨done, answered, clients, rooms⟩ := kick_stores zero found now response
    rw [sameRooms] at rooms
    simp only [done, Bool.true_eq_false, if_false, answered, rooms] at runs
    obtain rfl := some.inj runs
    exact .inr ⟨removed, rest, zero, registered, ⟨inside, id⟩, left, rfl, clients, rfl⟩
  · have sameClients : checked.clientManager = server.clientManager := by rw [← touched]
    rw [← sameClients] at absent
    simp only [kickRoomParticipant, zero, if_false, absent, if_true] at runs
    obtain rfl := some.inj runs
    refine .inl ⟨?_, (by decide : roomStatusNotFound ≠ roomStatusOk), ?_, ?_⟩
    · intro endpoint info held target
      exact absurd target (nobody endpoint info held)
    · rw [← touched]
    · rw [← touched]

theorem kick_atomic_iff
    (one : OneInstance server) (command : request.command = roomAdminKickParticipant)
    (blank : response.status = roomStatusOk)
    (commitment : validSha256Hex (fixedString request.mediaKeyCommitment) = true)
    (runs : executeAdminCommand sodium server request response now = some executed)
    (concludes : Concludes executed status final) :
    Atomic server final request status ↔ AdminSafe sodium server request now := by
  have noRotation := not_asksRotation_of_kick command
  obtain ⟨registry, ending⟩ := concludes
  by_cases admin : ∃ room, server.roomRegistry.rooms.lookup (fixedString request.roomId) = some room ∧
      room.opensFor sodium (fixedString request.adminToken) = true
  · obtain ⟨room, held, opens⟩ := admin
    have asked : AskedByAdmin sodium server request room := ⟨held, opens, commitment⟩
    rcases kick_cases command held opens runs with ⟨nobody, wrong, clients, rooms⟩ |
      ⟨removed, rest, some_, registered, target, left, answered, clients, rotation⟩
    · have safe : AdminSafe sodium server request now := by
        refine ⟨fun asks => absurd asks noRotation, ?_⟩
        intro _ some_ _ _ endpoint info found target
        exact absurd (nobody endpoint info found target) some_
      rcases ending with ⟨failed, -, same⟩ | ⟨-, -, fine, -⟩
      · exact iff_of_true (atomic_of_untouched failed (.of_touch (fixedString request.roomId) now
          (same.trans clients) (.inr (registry.trans rooms)))) safe
      · exact absurd fine wrong
    · have swept := lookup_swept server.roomRegistry held rest.roomCounts now
      have rotates := rotateAccessEpoch_rotatesIf sodium
        ((server.roomRegistry.touch (fixedString request.roomId) now).removeEmptyRooms
          rest.roomCounts now) (fixedString request.roomId) (fixedString request.adminToken)
        (fixedString request.mediaKeyCommitment) now
      rw [← rotation] at rotates
      split at swept
      next gone =>
        rcases rotates with ⟨other, found, -⟩ | ⟨-, failed, -⟩
        · rw [swept] at found
          cases found
        rcases ending with ⟨wrong, -, same⟩ | ⟨-, ok, -⟩
        · exact kicked_swept asked command some_ registered target left gone.1 gone.2 wrong
            (same.trans clients)
        · rw [failed] at ok
          cases ok
      next stays =>
        rcases rotates with ⟨other, found, -, -, said, rooms⟩ | ⟨refused, -⟩
        · rw [swept] at found
          obtain rfl := some.inj found
          have stored := rooms (fixedString request.roomId)
          rw [if_pos rfl] at stored
          have kept : rest.roomCounts (fixedString request.roomId) ≠ 0 ∨
              expires now room = false := by
            by_cases none : rest.roomCounts (fixedString request.roomId) = 0
            · exact .inr (Bool.eq_false_of_not_eq_true fun expired => stays ⟨none, expired⟩)
            · exact .inl none
          rcases ending with ⟨-, failed | failed, -⟩ | ⟨ok, -, -, same⟩
          · rw [said] at failed
            cases failed
          · rw [answered] at failed
            exact absurd blank failed
          rw [said, clients] at same
          exact kicked_kept one asked command some_ registered target left kept ok same
            (by rw [registry]; exact stored)
        · exact absurd commitment (refused _ swept opens)
  · have shut : ∀ room, server.roomRegistry.rooms.lookup (fixedString request.roomId) = some room →
        room.opensFor sodium (fixedString request.adminToken) = false := by
      intro room held
      exact Bool.eq_false_of_not_eq_true fun opens => admin ⟨room, held, opens⟩
    obtain ⟨failed, same⟩ := authorizeAdmin_of_shut shut now
    simp +decide only [executeAdminCommand, command, if_false, if_true, failed, same] at runs
    obtain rfl := some.inj runs
    have safe : AdminSafe sodium server request now := by
      refine ⟨fun asks => absurd asks noRotation, ?_⟩
      intro _ _ room asked
      exact absurd ⟨room, asked.held, asked.opens⟩ admin
    rcases ending with ⟨wrong, -, clients⟩ | ⟨-, ok, -⟩
    · exact iff_of_true (atomic_of_untouched wrong
        (.of_touch (fixedString request.roomId) now clients (.inl registry))) safe
    rw [failed] at ok
    cases ok

end Kick

/-- The judgement depends on the clients and rooms before the request only. -/
theorem atomic_iff_of_same {ready : Server} (clients : ready.clientManager = server.clientManager)
    (rooms : ready.roomRegistry = server.roomRegistry)
    (same : Atomic ready final request status ↔ AdminSafe sodium ready request now) :
    Atomic server final request status ↔ AdminSafe sodium server request now := by
  simp only [Atomic, CarriedOut, untouched_iff, adminSafe_iff, askedByAdmin_iff, clients, rooms]
    at same ⊢
  exact same

/-- Nothing is to be feared from a command that does not rotate. -/
theorem AdminSafe.of_other (notKick : request.command ≠ roomAdminKickParticipant)
    (noRotation : ¬ AsksRotation request) : AdminSafe sodium server request now :=
  ⟨fun asks => absurd asks noRotation, fun kick => absurd kick notKick⟩

theorem executeAdminCommand_none
    (unknown : executeAdminCommand sodium server request response now = none) :
    request.command ≠ roomAdminKickParticipant ∧ ¬ AsksRotation request := by
  simp only [executeAdminCommand] at unknown
  split at unknown
  · cases unknown
  rename_i notPassword
  split at unknown
  · cases unknown
  rename_i notAccess
  split at unknown
  · split at unknown
    · cases unknown
    split at unknown <;> cases unknown
  next notKick =>
    split at unknown
    · cases unknown
    split at unknown
    · cases unknown
    rename_i notRotate
    refine ⟨notKick, ?_⟩
    simp [AsksRotation, notPassword, notAccess, notRotate]

theorem executed_atomic_iff {executed : AuthorizeResult × RoomAdminResponse × Server}
    (one : OneInstance server) (blank : response.status = roomStatusOk)
    (commitment : ¬ (rotatesMediaKey request.command = true ∧
      validSha256Hex (fixedString request.mediaKeyCommitment) = false))
    (runs : executeAdminCommand sodium server request response now = some executed)
    (concludes : Concludes executed status final) :
    Atomic server final request status ↔ AdminSafe sodium server request now := by
  by_cases kick : request.command = roomAdminKickParticipant
  · refine kick_atomic_iff one kick blank ?_ runs concludes
    refine Bool.eq_true_of_not_eq_false fun invalid => commitment ⟨?_, invalid⟩
    rw [kick]
    decide
  by_cases close : request.command = roomAdminCloseRoom
  · refine iff_of_true (close_atomic close blank runs concludes) (.of_other kick ?_)
    simp +decide [AsksRotation, close]
  by_cases password : request.command = roomAdminChangePassword
  · simp only [executeAdminCommand, password, if_true] at runs
    obtain rfl := some.inj runs
    let mode := if fixedString request.passwordHash = [] then roomAccessOpen else roomAccessPassword
    refine rotation_atomic_iff (fun _ => (mode, if mode = roomAccessPassword then
        fixedString request.passwordHash else [])) one close kick
      (server.roomRegistry.changeAccessMode_rotatesIf sodium _ _ mode _ _ now) ?_ ?_ ?_ blank
      concludes
    · have asks : AsksRotation request := .inl password
      simp only [asks, true_and]
      refine ⟨fun valid => valid.2.2, fun valid => ?_⟩
      by_cases open_ : fixedString request.passwordHash = []
      · simp only [mode, if_pos open_]
        exact ⟨by decide, fun both => absurd both.1 (by decide), valid⟩
      · simp only [mode, if_neg open_]
        exact ⟨by decide, fun both => absurd both.2 open_, valid⟩
    · intro _ _
      refine ⟨?_, rfl⟩
      by_cases open_ : fixedString request.passwordHash = []
      · simp only [mode, if_pos open_]
        rw [open_]
        decide
      · simp [mode, if_neg open_]
    · intro access
      rw [password] at access
      exact absurd access (by decide)
  by_cases access : request.command = roomAdminChangeAccess
  · simp +decide only [executeAdminCommand, access, if_false, if_true] at runs
    obtain rfl := some.inj runs
    refine rotation_atomic_iff (fun _ => (request.accessMode,
        if request.accessMode = roomAccessPassword then fixedString request.passwordHash else []))
      one close kick (server.roomRegistry.changeAccessMode_rotatesIf sodium _ _ _ _ _ now) ?_ ?_ ?_
      blank concludes
    · simp +decide only [AsksRotation, access, false_or, true_and, and_assoc]
    · intro impossible
      exact absurd impossible password
    · intro _ _
      exact ⟨rfl, rfl⟩
  by_cases rotate : request.command = roomAdminRotateMediaKey
  · simp +decide only [executeAdminCommand, rotate, if_false, if_true] at runs
    obtain rfl := some.inj runs
    refine rotation_atomic_iff (fun room => (room.accessMode, room.passwordHash)) one close kick
      (server.roomRegistry.rotateAccessEpoch_rotatesIf sodium _ _ _ now) ?_ ?_ ?_ blank concludes
    · have asks : AsksRotation request := .inr (.inl rotate)
      simp [asks]
    · intro impossible
      exact absurd impossible password
    · intro impossible
      exact absurd impossible access
  · simp only [executeAdminCommand, password, access, kick, close, rotate, if_false, reduceCtorEq]
      at runs

end Rotation

/-- A request that is answered has passed the limiter. -/
theorem asked_admin {sodium : Sodium} {ready : Server} {response : RoomAdminResponse}
    (question : RateLimiter → Bool × RateLimiter) (quiet : ready.outbox = [])
    (answered : (if (ready.ask question).1 = false then (ready.ask question).2
      else handleRoomAdminRequest sodium (ready.ask question).2 remote packet
        ambient).outbox.getLast? = some (remote, .roomAdmin response)) :
    (if (ready.ask question).1 = false then (ready.ask question).2
      else handleRoomAdminRequest sodium (ready.ask question).2 remote packet ambient) =
      handleRoomAdminRequest sodium { ready with rateLimiter := (question ready.rateLimiter).2 }
        remote packet ambient := by
  split at answered
  · have silent : (ready.ask question).2.outbox = [] := quiet
    rw [silent] at answered
    cases answered
  next passed => exact if_neg passed

theorem step_admin {sodium : Sodium} {options : ServerOptions} {server : Server} {bytes : Octets}
    {response : RoomAdminResponse} (magic : magicOf (bytes.take recvBufSize) = ctrlMagic)
    (type : (CtrlHdr.read (bytes.take recvBufSize)).type = some .roomAdminRequest)
    (answered : (step sodium options server (.datagram remote bytes ambient)).outbox.getLast? =
      some (remote, .roomAdmin response)) :
    ∃ limiter, step sodium options server (.datagram remote bytes ambient) =
      handleRoomAdminRequest sodium
        { server with outbox := [], mediaTasks := [], rateLimiter := limiter } remote
        (bytes.take recvBufSize) ambient := by
  by_cases short : (bytes.take recvBufSize).length < msgHdrBytes
  · simp only [step, onReceive, short, if_true, List.getLast?_nil, reduceCtorEq] at answered
  by_cases shortCtrl : (bytes.take recvBufSize).length < ctrlHdrBytes
  · simp +decide only [step, onReceive, short, magic, if_false, if_true, handleCtrlMessage,
      shortCtrl, List.getLast?_nil, reduceCtorEq] at answered
  simp +decide only [step, onReceive, short, magic, if_false, if_true, handleCtrlMessage,
    shortCtrl, type, dispatchCtrl] at answered ⊢
  by_cases registered : server.clientManager.exists remote = true
  · simp only [registered, if_true] at answered ⊢
    exact ⟨_, asked_admin _ rfl answered⟩
  · simp only [registered] at answered ⊢
    exact ⟨_, asked_admin _ rfl answered⟩

theorem reachable_oneInstance (sodium : Sodium) (options : ServerOptions) (inputs : List Input) :
    OneInstance (run sodium options inputs) := by
  intro endpoint info found room held
  have registered : (run sodium options inputs).view.sessions endpoint = some info.session := by
    simp [view, sessions, found]
  obtain ⟨current, located, sameInstance, -⟩ :=
    reachable_consistent sodium options inputs endpoint info.session registered
  obtain ⟨other, otherHeld, rfl⟩ := map_eq_some_iff.mp located
  obtain rfl := some.inj (held.symm.trans otherHeld)
  exact sameInstance.symm

/-- An admin request that is answered, in any reachable state: it was carried out as the answer
says or has changed nothing, if and only if the epoch of the room does not start again and a
kick neither leaves a second client with the id nor empties the room. -/
theorem admin_atomic_iff (sodium : Sodium) (options : ServerOptions) (inputs : List Input)
    (remote : Endpoint) (bytes : Octets) (ambient : Ambient) (response : RoomAdminResponse)
    (magic : magicOf (bytes.take recvBufSize) = ctrlMagic)
    (type : (CtrlHdr.read (bytes.take recvBufSize)).type = some .roomAdminRequest)
    (answered : (step sodium options (run sodium options inputs)
      (.datagram remote bytes ambient)).outbox.getLast? = some (remote, .roomAdmin response)) :
    let server := run sodium options inputs
    let request := RoomAdminRequestHdr.read (bytes.take recvBufSize)
    Atomic server (step sodium options server (.datagram remote bytes ambient)) request
        response.status ↔
      AdminSafe sodium server request ambient.now := by
  intro server request
  have one := reachable_oneInstance sodium options inputs
  obtain ⟨limiter, handled⟩ := step_admin magic type answered
  rw [handled] at answered ⊢
  refine atomic_iff_of_same ?_ ?_ (?_ : Atomic { server with
    outbox := [], mediaTasks := [], rateLimiter := limiter } _ request response.status ↔ _)
  · rfl
  · rfl
  rcases handleRoomAdminRequest_concludes sodium rfl answered with
    ⟨failed, clients, rooms, refused⟩ | ⟨blank, executed, fine, commitment, runs, concludes⟩
  · refine iff_of_true (atomic_of_untouched failed (.of_touch [] 0 clients (.inl rooms))) ?_
    rcases refused with ⟨-, invalid⟩ | ⟨blank, unknown⟩
    · have nobody (room : Room) : ¬ AskedByAdmin sodium { server with
          outbox := [], mediaTasks := [], rateLimiter := limiter } request room := by
        intro asked
        rw [asked.commitment] at invalid
        cases invalid
      exact ⟨fun _ room asked => absurd asked (nobody room),
        fun _ _ room asked => absurd asked (nobody room)⟩
    · obtain ⟨notKick, noRotation⟩ := executeAdminCommand_none unknown
      exact .of_other notKick noRotation
  · exact executed_atomic_iff one fine commitment runs concludes

def adminAmbient : Ambient := { jamAmbient with adminToken := ascii "admin", ticketNonce := [1] }

def createJamDatagram : Octets :=
  u32Bytes ctrlMagic ++ [13] ++ u32Bytes 0 ++ u32Bytes 1 ++ padded 64 (ascii "jam") ++
    padded 64 [] ++ padded 128 (ascii "ann") ++ padded 128 [] ++ padded 65 jamCommitment ++
    [roomAccessOpen, 0, 0, 0]

def adminDatagram (command : UInt8) (targetParticipantId : UInt32) : Octets :=
  u32Bytes ctrlMagic ++ [17] ++ u32Bytes 0 ++ u32Bytes 1 ++ [command, 0, 0, 0] ++
    u32Bytes targetParticipantId ++ padded 64 (ascii "jam") ++ padded 128 (ascii "admin") ++
    padded 128 [] ++ padded 65 jamCommitment

/-- A room with an admin and one member. -/
def soloJam : List Input :=
  [.datagram (loopback 9) createJamDatagram adminAmbient,
    joinFrom 1 (jamClaims (ascii "ann") (ascii "n1"))]

def kickFirst : Input :=
  .datagram (loopback 9) (adminDatagram roomAdminKickParticipant 1) adminAmbient

theorem admin_atomic_iff_kick :
    let server := run .framing jamOptions
      (soloJam ++ [joinFrom 2 (jamClaims (ascii "bob") (ascii "n2"))])
    let request := RoomAdminRequestHdr.read
      ((adminDatagram roomAdminKickParticipant 1).take recvBufSize)
    Atomic server (step .framing jamOptions server kickFirst) request roomStatusOk ↔
      AdminSafe .framing server request adminAmbient.now :=
  admin_atomic_iff .framing jamOptions
    (soloJam ++ [joinFrom 2 (jamClaims (ascii "bob") (ascii "n2"))]) (loopback 9)
    (adminDatagram roomAdminKickParticipant 1) adminAmbient
    { requestId := 1
      status := roomStatusOk
      accessEpoch := 2
      targetParticipantId := 1
      roomId := ascii "jam"
      reason := "ok" }
    (by decide +kernel) (by decide +kernel) (by decide +kernel)

/-- The only member is kicked, and the room goes with it; the answer says that there is no
such room. -/
theorem kick_empties_room :
    let server := run .framing jamOptions soloJam
    let after := step .framing jamOptions server kickFirst
    (server.clientManager.exists (loopback 1) = true ∧
        (server.roomRegistry.rooms.lookup (ascii "jam")).isSome = true) ∧
      after.outbox.getLast? = some (loopback 9, .roomAdmin
        { requestId := 1
          status := roomStatusNotFound
          targetParticipantId := 1
          roomId := ascii "jam"
          reason := "room not found" }) ∧
      after.clientManager.exists (loopback 1) = false ∧
      (after.roomRegistry.rooms.lookup (ascii "jam")).isSome = false := by
  decide +kernel

end Server

end Sesivo
