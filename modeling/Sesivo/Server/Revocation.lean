import Sesivo.Server.RoomView

set_option autoImplicit false

/- A rotation, a closing or a sweep revokes every ticket issued before it: the
epoch of an instance only grows, and an instance id is never drawn twice. -/

namespace Sesivo.RoomRegistry

open JoinToken

/-- The functions of the registry, each with the values it is called with and draws. -/
inductive Operation where
  | createRoom (roomId roomName passwordHash : Octets) (accessMode : UInt8)
      (mediaKeyCommitment : Octets) (now : Time) (adminToken instanceNonce : Octets)
  | ensureOpenRoom (roomId mediaKeyCommitment : Octets) (now : Time) (instanceNonce : Octets)
  | authorizeJoin (roomId passwordHash : Octets) (now : Time)
  | validateClaims (roomId roomInstanceId : Octets) (accessEpoch : UInt32)
      (mediaKeyCommitment : Octets) (now : Time)
  | authorizeAdmin (roomId adminToken : Octets) (now : Time)
  | changePassword (roomId adminToken passwordHash mediaKeyCommitment : Octets) (now : Time)
  | changeAccessMode (roomId adminToken : Octets) (accessMode : UInt8)
      (passwordHash mediaKeyCommitment : Octets) (now : Time)
  | rotateAccessEpoch (roomId adminToken mediaKeyCommitment : Octets) (now : Time)
  | closeRoom (roomId adminToken : Octets) (now : Time)
  | storeChatMessage (roomId roomInstanceId : Octets) (accessEpoch senderParticipantId : UInt32)
      (nonce ciphertext : Octets) (ciphertextBytes : UInt16) (serverTimeMs : Int) (now : Time)
  | chatHistorySince (roomId roomInstanceId : Octets) (accessEpoch : UInt32)
      (afterSequence : UInt64) (now : Time)
  | markJoined (roomId : Octets) (now : Time)
  | removeEmptyRooms (counts : Octets → Nat) (now : Time)

def apply (sodium : Sodium) (registry : RoomRegistry) : Operation → RoomRegistry
  | .createRoom roomId roomName passwordHash accessMode commitment now adminToken nonce =>
    (registry.createRoom sodium roomId roomName passwordHash accessMode commitment now adminToken
      nonce).2
  | .ensureOpenRoom roomId commitment now nonce =>
    (registry.ensureOpenRoom roomId commitment now nonce).2
  | .authorizeJoin roomId passwordHash now => (registry.authorizeJoin roomId passwordHash now).2
  | .validateClaims roomId instanceId epoch commitment now =>
    (registry.validateClaims roomId instanceId epoch commitment now).2
  | .authorizeAdmin roomId adminToken now =>
    (registry.authorizeAdmin sodium roomId adminToken now).2
  | .changePassword roomId adminToken passwordHash commitment now =>
    (registry.changePassword sodium roomId adminToken passwordHash commitment now).2
  | .changeAccessMode roomId adminToken accessMode passwordHash commitment now =>
    (registry.changeAccessMode sodium roomId adminToken accessMode passwordHash commitment now).2
  | .rotateAccessEpoch roomId adminToken commitment now =>
    (registry.rotateAccessEpoch sodium roomId adminToken commitment now).2
  | .closeRoom roomId adminToken now => (registry.closeRoom sodium roomId adminToken now).2
  | .storeChatMessage roomId instanceId epoch sender nonce ciphertext ciphertextBytes time now =>
    (registry.storeChatMessage roomId instanceId epoch sender nonce ciphertext ciphertextBytes
      time now).2
  | .chatHistorySince roomId instanceId epoch afterSequence now =>
    (registry.chatHistorySince roomId instanceId epoch afterSequence now).2
  | .markJoined roomId now => registry.markJoined roomId now
  | .removeEmptyRooms counts now => registry.removeEmptyRooms counts now

/-- The instance id an operation draws, if it may create a room. -/
def Operation.instanceNonce : Operation → Option Octets
  | .createRoom _ _ _ _ _ _ _ nonce => some nonce
  | .ensureOpenRoom _ _ _ nonce => some nonce
  | _ => none

/-- The operation rotates, closes or sweeps away the room. -/
def Revokes (sodium : Sodium) (registry : RoomRegistry) (roomId : Octets) : Operation → Prop
  | .changePassword target adminToken passwordHash commitment now =>
    target = roomId ∧
      (registry.changePassword sodium target adminToken passwordHash commitment now).1.ok = true
  | .changeAccessMode target adminToken accessMode passwordHash commitment now =>
    target = roomId ∧ (registry.changeAccessMode sodium target adminToken accessMode passwordHash
      commitment now).1.ok = true
  | .rotateAccessEpoch target adminToken commitment now =>
    target = roomId ∧
      (registry.rotateAccessEpoch sodium target adminToken commitment now).1.ok = true
  | .closeRoom target adminToken now =>
    target = roomId ∧ (registry.closeRoom sodium target adminToken now).1.ok = true
  | .removeEmptyRooms counts now =>
    registry.rooms.lookup roomId ≠ none ∧
      (registry.removeEmptyRooms counts now).rooms.lookup roomId = none
  | _ => False

theorem Rotates.roomStep {registry : RoomRegistry} {roomId commitment : Octets}
    {answer : AuthorizeResult × RoomRegistry} (rotates : Rotates registry roomId commitment answer)
    (instanceNonce : Option Octets) : RoomStep instanceNonce registry.view answer.2.view := by
  rcases rotates with ⟨-, same⟩ | ⟨-, old, advanced⟩
  · rw [same]
    exact .stay _
  · rw [advanced.view, advanced.snapshot]
    exact .rotate _ roomId old commitment advanced.present

/-- Every registry operation is one step of the room directory. -/
theorem apply_roomStep (sodium : Sodium) (registry : RoomRegistry) (operation : Operation) :
    RoomStep operation.instanceNonce registry.view (registry.apply sodium operation).view := by
  cases operation with
  | createRoom roomId roomName passwordHash accessMode commitment now adminToken nonce =>
    rcases registry.createRoom_view sodium roomId roomName passwordHash accessMode commitment now
      adminToken nonce with ⟨-, kept⟩ | ⟨-, absent, -, -, added⟩
    · simp only [apply, kept]
      exact .stay _
    · simp only [apply, added]
      exact .create _ roomId nonce commitment rfl absent
  | ensureOpenRoom roomId commitment now nonce =>
    rcases (registry.ensureOpenRoom_view roomId commitment now nonce).1 with same | ⟨absent, added⟩
    · simp only [apply, same]
      exact .stay _
    · simp only [apply, added]
      exact .create _ roomId nonce commitment rfl absent
  | authorizeJoin roomId passwordHash now =>
    simp only [apply, (registry.authorizeJoin_view roomId passwordHash now).1]
    exact .stay _
  | validateClaims roomId instanceId epoch commitment now =>
    simp only [apply, (registry.validateClaims_view roomId instanceId epoch commitment now).1]
    exact .stay _
  | authorizeAdmin roomId adminToken now =>
    simp only [apply, (registry.authorizeAdmin_view sodium roomId adminToken now).1]
    exact .stay _
  | changePassword | changeAccessMode => exact (registry.changeAccessMode_rotates ..).roomStep _
  | rotateAccessEpoch => exact (registry.rotateAccessEpoch_rotates ..).roomStep _
  | closeRoom roomId adminToken now =>
    rcases registry.closeRoom_view sodium roomId adminToken now with ⟨-, same⟩ | ⟨-, -, erased⟩
    · simp only [apply, same]
      exact .stay _
    · simp only [apply, erased]
      exact .close _ roomId
  | storeChatMessage | chatHistorySince | markJoined =>
    simp only [apply, storeChatMessage_view, chatHistorySince_view, markJoined_view]
    exact .stay _
  | removeEmptyRooms counts now =>
    simp only [apply, removeEmptyRooms_view]
    exact .sweep _ _

end Sesivo.RoomRegistry

namespace Sesivo

/-- While the instance is in the directory under the id, its epoch is at least `bound`. -/
def Rooms.AtLeast (rooms : Rooms) (roomId instanceId : Octets) (bound : Nat) : Prop :=
  ∀ room, rooms roomId = some room → room.roomInstanceId = instanceId →
    bound ≤ room.accessEpoch.toNat

theorem next_epoch_toNat (epoch : UInt32) (unwrapped : epoch + 1 ≠ 0) :
    (epoch + 1).toNat = epoch.toNat + 1 := by
  have bound := epoch.toNat_lt
  have nonzero : (epoch + 1).toNat ≠ 0 := by
    intro zero
    exact unwrapped (UInt32.toNat_inj.mp zero)
  rw [UInt32.toNat_add] at nonzero ⊢
  simp only [UInt32.toNat_one] at nonzero ⊢
  omega

variable {nonce : Option Octets}

/-- A room found after a step was there before under the same instance, or the
step drew its instance id. -/
theorem RoomStep.instances {before after : Rooms}
    (step : RoomStep nonce before after) (roomId : Octets) (room : RoomView)
    (found : after roomId = some room) :
    (∃ old, before roomId = some old ∧ old.roomInstanceId = room.roomInstanceId) ∨
      nonce = some room.roomInstanceId := by
  cases step with
  | stay => exact .inl ⟨room, found, rfl⟩
  | create target drawnNonce commitment drawn absent =>
    rw [Function.update_apply] at found
    split at found
    next => exact .inr (by rw [drawn, ← Option.some.inj found])
    next => exact .inl ⟨room, found, rfl⟩
  | rotate target old commitment present =>
    rw [Function.update_apply] at found
    split at found
    next same => exact .inl ⟨old, same ▸ present, by rw [← Option.some.inj found]⟩
    next => exact .inl ⟨room, found, rfl⟩
  | close target =>
    rw [Function.update_apply] at found
    split at found
    next => cases found
    next => exact .inl ⟨room, found, rfl⟩
  | sweep kept =>
    simp only at found
    split at found
    next => exact .inl ⟨room, found, rfl⟩
    next => cases found

/-- A step that neither draws the instance id again nor wraps an epoch keeps the bound. -/
theorem RoomStep.atLeast {before after : Rooms}
    (step : RoomStep nonce before after) (roomId instanceId : Octets) (bound : Nat)
    (fresh : nonce ≠ some instanceId)
    (unwrapped : ∀ room, after roomId = some room → room.accessEpoch ≠ 0)
    (least : before.AtLeast roomId instanceId bound) : after.AtLeast roomId instanceId bound := by
  intro room found same
  cases step with
  | stay => exact least room found same
  | create target drawnNonce commitment drawn absent =>
    rw [Function.update_apply] at found
    split at found
    next =>
      rw [← Option.some.inj found] at same
      exact absurd (drawn.trans (congrArg some same)) fresh
    next => exact least room found same
  | rotate target old commitment present =>
    have nonzero := unwrapped room found
    rw [Function.update_apply] at found
    split at found
    next here =>
      obtain rfl := Option.some.inj found
      have before_bound := least old (here ▸ present) same
      rw [next_epoch_toNat old.accessEpoch nonzero]
      omega
    next => exact least room found same
  | close target =>
    rw [Function.update_apply] at found
    split at found
    next => cases found
    next => exact least room found same
  | sweep kept =>
    simp only at found
    split at found
    next => exact least room found same
    next => cases found

namespace RoomRegistry

open JoinToken Octets

/-- No room has been rotated past the last epoch. A room starts at epoch 1, so
this holds as long as no room is rotated 2^32 - 1 times. -/
def Unwrapped (registry : RoomRegistry) : Prop :=
  ∀ roomId room, registry.view roomId = some room → room.accessEpoch ≠ 0

variable (sodium : Sodium)
variable (registry : RoomRegistry) (operations : List Operation) (roomId : Octets)

theorem run_unwrapped (unwrapped : Run.Allowed (apply sodium) (fun registry operation =>
      Unwrapped (registry.apply sodium operation)) initial operations) :
    Unwrapped (Run.run (apply sodium) initial operations) := by
  refine Run.invariant_of_allowed (apply sodium) _ Unwrapped initial operations ?_ ?_ unwrapped
  · intro registry operation _ _ allowed
    exact allowed
  intro roomId room found
  cases found

/-- Every room in the directory was there at the start or carries a drawn instance id. -/
theorem run_instances (room : RoomView)
    (found : (Run.run (apply sodium) registry operations).view roomId = some room) :
    (∃ old, registry.view roomId = some old ∧ old.roomInstanceId = room.roomInstanceId) ∨
      room.roomInstanceId ∈ operations.filterMap Operation.instanceNonce := by
  induction operations generalizing registry with
  | nil => exact .inl ⟨room, found, rfl⟩
  | cons operation operations ih =>
    rcases ih (registry.apply sodium operation) found with ⟨middle, held, same⟩ | drawn
    · rcases (registry.apply_roomStep sodium operation).instances roomId middle held with
        ⟨old, present, equal⟩ | now
      · exact .inl ⟨old, present, equal.trans same⟩
      right
      rw [same] at now
      exact List.mem_filterMap.mpr ⟨operation, List.mem_cons_self, now⟩
    · right
      obtain ⟨later, member, equal⟩ := List.mem_filterMap.mp drawn
      exact List.mem_filterMap.mpr ⟨later, List.mem_cons_of_mem operation member, equal⟩

theorem run_atLeast (instanceId : Octets) (bound : Nat)
    (fresh : instanceId ∉ operations.filterMap Operation.instanceNonce)
    (unwrapped : Run.Allowed (apply sodium) (fun registry operation =>
      Unwrapped (registry.apply sodium operation)) registry operations)
    (least : registry.view.AtLeast roomId instanceId bound) :
    (Run.run (apply sodium) registry operations).view.AtLeast roomId instanceId bound := by
  refine Run.invariant_of_allowed (apply sodium) _
    (fun current => current.view.AtLeast roomId instanceId bound) registry operations ?_ least
    unwrapped
  intro current operation member held allowed
  refine (current.apply_roomStep sodium operation).atLeast roomId instanceId bound ?_
    (allowed roomId) held
  intro drawn
  exact fresh (List.mem_filterMap.mpr ⟨operation, member, drawn⟩)

/-- A revoking operation lifts the bound past the epoch of every earlier ticket. -/
theorem revokes_atLeast (operation : Operation) (roomId instanceId : Octets) (bound : Nat)
    (unwrapped : Unwrapped (registry.apply sodium operation))
    (revokes : Revokes sodium registry roomId operation)
    (least : registry.view.AtLeast roomId instanceId bound) :
    (registry.apply sodium operation).view.AtLeast roomId instanceId (bound + 1) := by
  have rotated {commitment : Octets} {answer : AuthorizeResult × RoomRegistry}
      (rotates : Rotates registry roomId commitment answer) (ok : answer.1.ok = true)
      (nonzero : Unwrapped answer.2) : answer.2.view.AtLeast roomId instanceId (bound + 1) := by
    rcases rotates with ⟨failed, -⟩ | ⟨-, old, advanced⟩
    · rw [failed] at ok
      cases ok
    intro room found same
    have epoch := nonzero roomId room found
    rw [advanced.view, advanced.snapshot, Function.update_self] at found
    obtain rfl := Option.some.inj found
    have before_bound := least old advanced.present same
    rw [next_epoch_toNat old.accessEpoch epoch]
    omega
  cases operation with
  | changePassword | changeAccessMode =>
    obtain ⟨rfl, ok⟩ := revokes
    exact rotated (registry.changeAccessMode_rotates ..) ok unwrapped
  | rotateAccessEpoch =>
    obtain ⟨rfl, ok⟩ := revokes
    exact rotated (registry.rotateAccessEpoch_rotates ..) ok unwrapped
  | closeRoom target adminToken now =>
    obtain ⟨rfl, ok⟩ := revokes
    intro room found
    rcases registry.closeRoom_view sodium target adminToken now with ⟨failed, -⟩ | ⟨-, -, erased⟩
    · rw [failed] at ok
      cases ok
    · simp [apply, erased] at found
  | removeEmptyRooms counts now =>
    intro room found
    simp [apply, view_of_missing revokes.2] at found
  | _ => exact absurd revokes id

/-- The ticket names the instance and epoch its room had at some point of the run. -/
def IssuedDuring (operations : List Operation) (claims : Claims) : Prop :=
  ∃ earlier later room, operations = earlier ++ later ∧
    (Run.run (apply sodium) initial earlier).rooms.lookup claims.roomId = some room ∧
    claims.roomInstanceId = room.roomInstanceId ∧ claims.accessEpoch = room.accessEpoch

/-- Once its room has been rotated, closed or swept away, a ticket issued
earlier is never accepted again. -/
theorem validateClaims_revoked (before : List Operation) (operation : Operation)
    (after : List Operation) (claims : Claims) (now : Time)
    (distinct : ((before ++ operation :: after).filterMap Operation.instanceNonce).Nodup)
    (unwrapped : Run.Allowed (apply sodium) (fun registry operation =>
      Unwrapped (registry.apply sodium operation)) initial (before ++ operation :: after))
    (issued : IssuedDuring sodium before claims) (named : claims.roomInstanceId ≠ [])
    (revokes : Revokes sodium (Run.run (apply sodium) initial before) claims.roomId operation) :
    ((Run.run (apply sodium) initial (before ++ operation :: after)).validateClaims claims.roomId
      claims.roomInstanceId claims.accessEpoch claims.mediaKeyCommitment now).1.ok = false := by
  obtain ⟨earlier, later, room, rfl, found, instances, epoch⟩ := issued
  rw [List.append_assoc, Run.allowed_append, Run.allowed_append] at unwrapped
  obtain ⟨issuing, waiting, revoking, remaining⟩ := unwrapped
  have present := view_of_lookup found
  have nonzero : claims.accessEpoch ≠ 0 := by
    rw [epoch]
    exact run_unwrapped sodium earlier issuing claims.roomId room.view present
  have drawn : claims.roomInstanceId ∈ earlier.filterMap Operation.instanceNonce := by
    rw [instances]
    rcases run_instances sodium initial earlier claims.roomId room.view present with
      ⟨old, absent, -⟩ | member
    · cases absent
    · exact member
  have fresh : ∀ rest ⊆ later ++ operation :: after,
      claims.roomInstanceId ∉ rest.filterMap Operation.instanceNonce := by
    intro rest part member
    rw [List.append_assoc, List.filterMap_append] at distinct
    obtain ⟨drawing, inside, equal⟩ := List.mem_filterMap.mp member
    exact (List.nodup_append.mp distinct).2.2 _ drawn _
      (List.mem_filterMap.mpr ⟨drawing, part inside, equal⟩) rfl
  have issuance : (Run.run (apply sodium) initial earlier).view.AtLeast claims.roomId
      claims.roomInstanceId claims.accessEpoch.toNat := by
    intro current held _
    rw [present] at held
    rw [epoch, ← Option.some.inj held]
    exact le_rfl
  have held := run_atLeast sodium _ later claims.roomId claims.roomInstanceId _
    (fresh later (List.subset_append_left _ _)) waiting issuance
  rw [Run.run_append] at revokes
  have lifted := revokes_atLeast sodium _ operation claims.roomId claims.roomInstanceId _ revoking
    revokes held
  have final := run_atLeast sodium _ after claims.roomId claims.roomInstanceId _
    (fresh after (fun _ member => List.mem_append_right _ (List.mem_cons_of_mem _ member)))
    remaining lifted
  rw [List.append_assoc, Run.run_append, Run.run_append, Run.run_cons]
  apply Bool.eq_false_of_not_eq_true
  intro accepted
  obtain ⟨current, sameInstance, sameEpoch, -⟩ :=
    (validateClaims_view _ _ _ _ _ now).2 accepted
  have bound := final _ current (sameInstance named)
  have equal := sameEpoch nonzero
  simp only [RoomSnapshot.view, equal] at bound
  omega

theorem unwrapped_of_pairs
    (nonzero : ∀ entry ∈ registry.rooms.pairs, entry.2.accessEpoch ≠ 0) : Unwrapped registry := by
  intro roomId room found
  obtain ⟨stored, held, rfl⟩ := Option.map_eq_some_iff.mp found
  exact nonzero (roomId, stored) ((registry.rooms.mem_pairs roomId stored).mpr held)

def sampleCommitment : Octets := List.replicate 64 (ofChar 'a')

def createJam (instanceNonce : Octets) : Operation :=
  .createRoom (ascii "jam") [] [] roomAccessOpen sampleCommitment 0 (ascii "admin") instanceNonce

/-- A ticket for the first instance of a room that is rotated, closed and created again. -/
def firstJamTicket : Claims where
  expiresAtMs := 0
  serverId := ascii "srv"
  roomId := ascii "jam"
  profileId := ascii "ann"
  roomInstanceId := ascii "one"
  accessEpoch := 1
  mediaKeyCommitment := sampleCommitment
  nonce := ascii "n"

theorem validateClaims_revoked_firstJam :
    ((Run.run (apply .framing) initial
      ([createJam (ascii "one")] ++
        .rotateAccessEpoch (ascii "jam") (ascii "admin") sampleCommitment 1 ::
          [.closeRoom (ascii "jam") (ascii "admin") 2, createJam (ascii "two")])).validateClaims
      (ascii "jam") (ascii "one") 1 sampleCommitment 3).1.ok = false := by
  refine validateClaims_revoked .framing [createJam (ascii "one")] _ _ firstJamTicket 3
    (by decide) ?_ ⟨[createJam (ascii "one")], [], _, rfl, rfl, rfl, rfl⟩ (by decide)
    ⟨rfl, by decide⟩
  refine ⟨?_, ?_, ?_, ?_, trivial⟩ <;> exact unwrapped_of_pairs _ (by decide)

end RoomRegistry

end Sesivo
