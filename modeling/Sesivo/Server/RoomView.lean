import Mathlib.Logic.Function.Basic
import Sesivo.Server.RoomRegistry

set_option autoImplicit false

/- What a ticket or a media key is checked against: the instance, epoch and
commitment of each room. Every registry function changes this view in one of
five ways. -/

namespace Sesivo

open Function

/-- The part of a room that tickets name. -/
structure RoomView where
  roomInstanceId : Octets
  accessEpoch : UInt32
  mediaKeyCommitment : Octets
deriving DecidableEq

variable (room : Room)

def Room.view : RoomView where
  roomInstanceId := room.roomInstanceId
  accessEpoch := room.accessEpoch
  mediaKeyCommitment := room.mediaKeyCommitment

def RoomSnapshot.view (room : RoomSnapshot) : RoomView where
  roomInstanceId := room.roomInstanceId
  accessEpoch := room.accessEpoch
  mediaKeyCommitment := room.mediaKeyCommitment

@[simp] theorem Room.snapshot_view : room.snapshot.view = room.view := rfl

abbrev Rooms : Type := Octets → Option RoomView

/-- One change of the room directory; a room is created under the drawn instance id. -/
inductive RoomStep (instanceNonce : Option Octets) : Rooms → Rooms → Prop where
  | stay (rooms : Rooms) : RoomStep instanceNonce rooms rooms
  | create (rooms : Rooms) (roomId nonce commitment : Octets) (drawn : instanceNonce = some nonce)
      (absent : rooms roomId = none) :
      RoomStep instanceNonce rooms (update rooms roomId (some ⟨nonce, 1, commitment⟩))
  | rotate (rooms : Rooms) (roomId : Octets) (room : RoomView) (commitment : Octets)
      (present : rooms roomId = some room) :
      RoomStep instanceNonce rooms (update rooms roomId
        (some ⟨room.roomInstanceId, room.accessEpoch + 1, commitment⟩))
  | close (rooms : Rooms) (roomId : Octets) :
      RoomStep instanceNonce rooms (update rooms roomId none)
  | sweep (rooms : Rooms) (kept : Octets → Bool) :
      RoomStep instanceNonce rooms fun roomId => if kept roomId then rooms roomId else none

namespace RoomRegistry

open JoinToken

def view (registry : RoomRegistry) : Rooms := fun roomId =>
  (registry.rooms.lookup roomId).map Room.view

theorem view_of_lookup {registry : RoomRegistry} {roomId : Octets} {room : Room}
    (found : registry.rooms.lookup roomId = some room) : registry.view roomId = some room.view := by
  simp [view, found]

theorem view_of_missing {registry : RoomRegistry} {roomId : Octets}
    (missing : registry.rooms.lookup roomId = none) : registry.view roomId = none := by
  simp [view, missing]

variable (sodium : Sodium) (registry : RoomRegistry)
variable (roomId adminToken commitment roomInstanceId : Octets) (accessEpoch : UInt32) (now : Time)

@[simp] theorem initial_view : initial.view roomId = none := rfl

theorem put_view (room : Room) :
    (registry.put room).view = update registry.view room.roomId (some room.view) := by
  funext other
  simp only [view, put, Store.lookup_insert, update_apply]
  split <;> rfl

/-- Rewriting a room without touching what tickets name. -/
theorem alter_view (update : Room → Room) (same : ∀ room, (update room).roomId = room.roomId)
    (respects : ∀ room, (update room).view = room.view) :
    (registry.alter roomId update same).view = registry.view := by
  funext other
  exact Store.lookup_adjust_map registry.rooms roomId other update Room.view respects

@[simp] theorem touch_view :
    (registry.touch roomId now).view = registry.view :=
  alter_view registry roomId _ _ fun _ => rfl

@[simp] theorem markJoined_view :
    (registry.markJoined roomId now).view = registry.view :=
  alter_view registry roomId _ _ fun _ => rfl

/-- Whether a sweep keeps what is stored under the id. -/
def sweepKeeps (registry : RoomRegistry) (counts : Octets → Nat) (now : Time) (roomId : Octets) :
    Bool :=
  match registry.rooms.lookup roomId with
  | none => true
  | some room => !(counts roomId = 0 && expires now room)

variable (counts : Octets → Nat)

theorem sweepKeeps_occupied (now : Time)
    (roomId : Octets) (occupied : counts roomId ≠ 0) :
    registry.sweepKeeps counts now roomId = true := by
  unfold sweepKeeps
  split
  next => rfl
  next => simp [occupied]

theorem removeEmptyRooms_view (now : Time) :
    (registry.removeEmptyRooms counts now).view = fun roomId =>
      if registry.sweepKeeps counts now roomId then registry.view roomId else none := by
  funext roomId
  cases found : registry.rooms.lookup roomId with
  | none => simp [view, removeEmptyRooms, retain, found]
  | some room =>
    simp only [view, removeEmptyRooms, retain, Store.lookup_keep, sweepKeeps, found,
      Option.filter_some]
    split <;> rfl

/-- A failed call leaves the view alone; a successful one adds the room it reports. -/
theorem createRoom_view (roomName passwordHash :
    Octets) (accessMode : UInt8) (commitment : Octets) (now : Time) (adminToken nonce : Octets) :
    let answer := registry.createRoom sodium roomId roomName passwordHash accessMode commitment now
      adminToken nonce
    (answer.1.ok = false ∧ answer.2 = registry) ∨
      (answer.1.ok = true ∧ registry.view roomId = none ∧ answer.1.room.roomId = roomId ∧
        answer.1.room.view = ⟨nonce, 1, commitment⟩ ∧
        answer.2.view = update registry.view roomId (some ⟨nonce, 1, commitment⟩)) := by
  intro answer
  simp only [answer, createRoom]
  split
  · exact .inl ⟨rfl, rfl⟩
  split
  next => exact .inl ⟨rfl, rfl⟩
  rename_i missing
  split
  · exact .inl ⟨rfl, rfl⟩
  split
  · exact .inl ⟨rfl, rfl⟩
  split
  · exact .inl ⟨rfl, rfl⟩
  split
  next => exact .inl ⟨rfl, rfl⟩
  refine .inr ⟨rfl, view_of_missing missing, rfl, rfl, ?_⟩
  rw [put_view]
  rfl

/-- At most the room is added, and the room of a nonempty snapshot is in the
directory afterwards, as reported. -/
theorem ensureOpenRoom_view (nonce : Octets) :
    let answer := registry.ensureOpenRoom roomId commitment now nonce
    (answer.2.view = registry.view ∨ (registry.view roomId = none ∧
        answer.2.view = update registry.view roomId (some ⟨nonce, 1, commitment⟩))) ∧
      (answer.1.roomId ≠ [] → answer.2.view roomId = some answer.1.view) := by
  intro answer
  simp only [answer, ensureOpenRoom]
  split
  next room found =>
    split
    · exact ⟨.inl rfl, fun named => absurd rfl named⟩
    · rw [markJoined_view]
      exact ⟨.inl rfl, fun _ => view_of_lookup found⟩
  next missing =>
    split
    · exact ⟨.inl rfl, fun named => absurd rfl named⟩
    · rw [put_view]
      exact ⟨.inr ⟨view_of_missing missing, rfl⟩, fun _ => update_self _ _ _⟩

theorem authorizeJoin_view (passwordHash : Octets) (now : Time) :
    let answer := registry.authorizeJoin roomId passwordHash now
    answer.2.view = registry.view ∧
      (answer.1.ok = true → registry.view roomId = some answer.1.room.view) := by
  intro answer
  simp only [answer, authorizeJoin]
  split
  next => exact ⟨rfl, nofun⟩
  rename_i room found
  split
  · exact ⟨rfl, nofun⟩
  · exact ⟨touch_view _ _ _, fun _ => view_of_lookup found⟩

/-- An accepted ticket names the current instance and epoch, unless it leaves
them out, and the current commitment. -/
theorem validateClaims_view (instanceId : Octets)
    (epoch : UInt32) (commitment : Octets) (now : Time) :
    let answer := registry.validateClaims roomId instanceId epoch commitment now
    answer.2.view = registry.view ∧
      (answer.1.ok = true → registry.view roomId = some answer.1.room.view ∧
        (instanceId ≠ [] → answer.1.room.roomInstanceId = instanceId) ∧
        (epoch ≠ 0 → answer.1.room.accessEpoch = epoch) ∧
        answer.1.room.mediaKeyCommitment = commitment) := by
  intro answer
  simp only [answer, validateClaims]
  split
  next => exact ⟨rfl, nofun⟩
  rename_i room found
  split
  · exact ⟨rfl, nofun⟩
  rename_i sameInstance
  split
  · exact ⟨rfl, nofun⟩
  rename_i sameEpoch
  split
  · exact ⟨rfl, nofun⟩
  rename_i sameCommitment
  refine ⟨touch_view _ _ _, fun _ => ⟨view_of_lookup found, ?_, ?_, ?_⟩⟩
  · exact fun named => Decidable.byContradiction fun other => sameInstance ⟨named, other⟩
  · exact fun nonzero => Decidable.byContradiction fun other => sameEpoch ⟨nonzero, other⟩
  · exact Decidable.byContradiction sameCommitment

theorem authorizeAdmin_view :
    let answer := registry.authorizeAdmin sodium roomId adminToken now
    answer.2.view = registry.view ∧
      (answer.1.ok = true → answer.1.room.roomId = roomId ∧
        registry.view roomId = some answer.1.room.view) := by
  intro answer
  simp only [answer, authorizeAdmin]
  split
  next => exact ⟨rfl, nofun⟩
  rename_i room found
  split
  next => exact ⟨rfl, nofun⟩
  split
  · exact ⟨rfl, nofun⟩
  · exact ⟨touch_view _ _ _, fun _ => ⟨registry.keyed roomId room found, view_of_lookup found⟩⟩

/-- What a successful rotation does: the reported room is the old one at its next epoch. -/
structure Advanced (registry : RoomRegistry) (roomId commitment : Octets)
    (answer : AuthorizeResult × RoomRegistry) (old : RoomView) : Prop where
  present : registry.view roomId = some old
  reported : answer.1.room.roomId = roomId
  snapshot : answer.1.room.view = ⟨old.roomInstanceId, old.accessEpoch + 1, commitment⟩
  view : answer.2.view = update registry.view roomId (some answer.1.room.view)

theorem advance_view (access : Room → UInt8 × Octets) (commitment : Octets) (now : Time) :
    let answer := registry.advance roomId access commitment now
    (answer.1.ok = false ∧ answer.2 = registry) ∨
      (answer.1.ok = true ∧ ∃ old, Advanced registry roomId commitment answer old) := by
  intro answer
  simp only [answer, advance]
  split
  next => exact .inl ⟨rfl, rfl⟩
  rename_i room found
  refine .inr ⟨rfl, room.view, view_of_lookup found, registry.keyed roomId room found, rfl, ?_⟩
  funext other
  simp only [view, alter, update_apply]
  split
  next same =>
    subst same
    rw [Store.lookup_adjust_self, found]
    rfl
  next different => rw [Store.lookup_adjust_ne registry.rooms _ different]

/-- A checked rotation either fails and leaves the view alone or advances the room. -/
def Rotates (registry : RoomRegistry) (roomId commitment : Octets)
    (answer : AuthorizeResult × RoomRegistry) : Prop :=
  (answer.1.ok = false ∧ answer.2.view = registry.view) ∨
    (answer.1.ok = true ∧ ∃ old, Advanced registry roomId commitment answer old)

private theorem rotates_of_authorized {registry authorized : RoomRegistry} {roomId : Octets}
    (same : authorized.view = registry.view) (access : Room → UInt8 × Octets)
    (commitment : Octets) (now : Time) :
    Rotates registry roomId commitment (authorized.advance roomId access commitment now) := by
  rcases authorized.advance_view roomId access commitment now with ⟨failed, kept⟩ | ⟨ok, old, adv⟩
  · exact .inl ⟨failed, by rw [kept, same]⟩
  refine .inr ⟨ok, old, ?_, adv.reported, adv.snapshot, ?_⟩
  · rw [← same, adv.present]
  · rw [← same, adv.view]

theorem changeAccessMode_rotates (accessMode : UInt8) (passwordHash commitment : Octets)
    (now : Time) :
    Rotates registry roomId commitment
      (registry.changeAccessMode sodium roomId adminToken accessMode passwordHash commitment now) := by
  have same := (registry.authorizeAdmin_view sodium roomId adminToken now).1
  unfold changeAccessMode
  split
  rename_i result authorized answer
  rw [answer] at same
  split
  next failed => exact .inl ⟨failed, same⟩
  split
  · exact .inl ⟨rfl, same⟩
  split
  · exact .inl ⟨rfl, same⟩
  split
  · exact .inl ⟨rfl, same⟩
  exact rotates_of_authorized same _ commitment now

theorem rotateAccessEpoch_rotates :
    Rotates registry roomId commitment
      (registry.rotateAccessEpoch sodium roomId adminToken commitment now) := by
  have same := (registry.authorizeAdmin_view sodium roomId adminToken now).1
  unfold rotateAccessEpoch
  split
  rename_i result authorized answer
  rw [answer] at same
  split
  next failed => exact .inl ⟨failed, same⟩
  split
  · exact .inl ⟨rfl, same⟩
  exact rotates_of_authorized same _ commitment now

theorem closeRoom_view :
    let answer := registry.closeRoom sodium roomId adminToken now
    (answer.1.ok = false ∧ answer.2.view = registry.view) ∨
      (answer.1.ok = true ∧ answer.1.room.roomId = roomId ∧
        answer.2.view = update registry.view roomId none) := by
  intro answer
  obtain ⟨same, granted⟩ := registry.authorizeAdmin_view sodium roomId adminToken now
  simp only [answer, closeRoom]
  split
  next failed => exact .inl ⟨failed, same⟩
  rename_i passed
  have ok : (registry.authorizeAdmin sodium roomId adminToken now).1.ok = true :=
    Bool.eq_true_of_not_eq_false passed
  refine .inr ⟨ok, (granted ok).1, ?_⟩
  funext other
  rw [← same]
  simp only [view, retain, Store.lookup_keep, update_apply]
  split
  next closed =>
    cases (registry.authorizeAdmin sodium roomId adminToken now).2.rooms.lookup other <;>
      simp [Option.filter_some, closed]
  rename_i kept
  cases (registry.authorizeAdmin sodium roomId adminToken now).2.rooms.lookup other <;>
    simp [Option.filter_some, kept]

theorem storeChatMessage_view (senderParticipantId : UInt32) (nonce ciphertext : Octets)
    (ciphertextBytes : UInt16) (serverTimeMs : Int) (now : Time) :
    (registry.storeChatMessage roomId roomInstanceId accessEpoch senderParticipantId nonce
      ciphertext ciphertextBytes serverTimeMs now).2.view = registry.view := by
  unfold storeChatMessage
  split
  next => rfl
  split
  · rfl
  split
  · rfl
  split
  · rfl
  split
  · rfl
  split
  · rfl
  apply alter_view <;> exact fun _ => rfl

theorem chatHistorySince_view (afterSequence : UInt64) (now : Time) :
    (registry.chatHistorySince roomId roomInstanceId accessEpoch afterSequence now).2.view =
      registry.view := by
  unfold chatHistorySince
  split
  next => rfl
  split
  · rfl
  split
  · rfl
  exact touch_view registry roomId now

end RoomRegistry

end Sesivo
