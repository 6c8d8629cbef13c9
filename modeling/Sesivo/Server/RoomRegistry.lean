import Mathlib.Data.List.Sort
import Sesivo.Lib.Store
import Sesivo.Lib.Run
import Sesivo.JoinToken

set_option autoImplicit false

/- The in-memory room directory, `room_registry.h`. Random tokens are
arguments: each call receives the values it would have drawn. -/

namespace Sesivo

open Octets JoinToken

/-- Two minutes, in nanoseconds. -/
def emptyPendingRoomTtl : Time := 120000000000

def maxRoomIdBytes : Nat := 63
def maxRoomNameBytes : Nat := 63

structure RoomSnapshot where
  roomId : Octets := []
  roomName : Octets := []
  roomInstanceId : Octets := []
  locked : Bool := false
  accessMode : UInt8 := roomAccessOpen
  accessEpoch : UInt32 := 1
  mediaKeyCommitment : Octets := []
deriving DecidableEq

structure CreateResult where
  ok : Bool := false
  created : Bool := false
  reason : String := ""
  room : RoomSnapshot := {}
  adminToken : Octets := []

structure AuthorizeResult where
  ok : Bool := false
  reason : String := ""
  room : RoomSnapshot := {}

structure ChatMessage where
  roomId : Octets
  roomInstanceId : Octets
  accessEpoch : UInt32
  senderParticipantId : UInt32
  sequence : UInt64
  serverTimeMs : Int
  nonce : Octets
  ciphertextBytes : UInt16
  ciphertext : Octets
deriving DecidableEq

inductive StoreChatResult where
  | refused (status : UInt8) (reason : String)
  | stored (message : ChatMessage)

inductive ChatHistoryResult where
  | refused (status : UInt8) (reason : String)
  | found (truncated : Bool) (messages : List ChatMessage)
deriving DecidableEq

structure Room where
  roomId : Octets
  roomName : Octets
  roomInstanceId : Octets
  passwordHash : Octets := []
  adminTokenHash : Octets := []
  mediaKeyCommitment : Octets
  accessMode : UInt8 := roomAccessOpen
  accessEpoch : UInt32 := 1
  everJoined : Bool := false
  createdAt : Time
  lastActivity : Time
  nextChatSequence : UInt64 := 1
  chatMessages : List ChatMessage := []

/-- The rooms by id; a room is always stored under its own id. -/
structure RoomRegistry where
  rooms : Store Octets Room
  keyed : ∀ roomId room, rooms.lookup roomId = some room → room.roomId = roomId

def Room.snapshot (room : Room) : RoomSnapshot where
  roomId := room.roomId
  roomName := room.roomName
  roomInstanceId := room.roomInstanceId
  locked := room.accessMode = roomAccessPassword
  accessMode := room.accessMode
  accessEpoch := room.accessEpoch
  mediaKeyCommitment := room.mediaKeyCommitment

def isRoomIdChar (char : UInt8) : Bool :=
  (48 ≤ char && char ≤ 57) || (65 ≤ char && char ≤ 90) || (97 ≤ char && char ≤ 122) ||
    char = ofChar '-' || char = ofChar '_' || char = ofChar '.'

def validRoomId (roomId : Octets) : Bool :=
  roomId ≠ [] && roomId.length ≤ maxRoomIdBytes && roomId.all isRoomIdChar

def validAccessMode (accessMode : UInt8) : Bool :=
  accessMode = roomAccessOpen || accessMode = roomAccessPassword || accessMode = roomAccessApprove

namespace RoomRegistry

def initial : RoomRegistry where
  rooms := ∅
  keyed := by
    intro roomId room found
    simp at found

variable (registry : RoomRegistry) (room : Room)

/-- Store a room under its own id. -/
def put : RoomRegistry where
  rooms := registry.rooms.insert room.roomId room
  keyed := by
    intro roomId stored found
    simp only [Store.lookup_insert] at found
    split at found
    next same => rw [← Option.some.inj found, same]
    next => exact registry.keyed roomId stored found

variable (roomId : Octets)

/-- Rewrite a stored room in place. -/
def alter (update : Room → Room)
    (same : ∀ room, (update room).roomId = room.roomId) : RoomRegistry where
  rooms := registry.rooms.adjust roomId update
  keyed := by
    intro other stored found
    have ids := Store.lookup_adjust_map registry.rooms roomId other update Room.roomId same
    rw [found, Option.map_some, eq_comm, Option.map_eq_some_iff] at ids
    obtain ⟨room, held, equal⟩ := ids
    exact equal.symm.trans (registry.keyed other room held)

/-- Erase every room that fails `accept`. -/
def retain (accept : Octets → Room → Bool) : RoomRegistry where
  rooms := registry.rooms.keep accept
  keyed := by
    intro roomId room found
    simp only [Store.lookup_keep] at found
    exact registry.keyed roomId room (Option.eq_some_of_filter_eq_some found)

/-- Record activity of a room that exists. -/
def touch (now : Time) : RoomRegistry :=
  registry.alter roomId (fun room => { room with lastActivity := now }) fun _ => rfl

def markJoined (now : Time) : RoomRegistry :=
  registry.alter roomId (fun room => { room with everJoined := true, lastActivity := now })
    fun _ => rfl

def boundedRoomName (roomId roomName : Octets) : Octets :=
  if roomName = [] then roomId else roomName.take maxRoomNameBytes

variable (sodium : Sodium)

def createRoom (registry : RoomRegistry) (roomId roomName passwordHash : Octets)
    (accessMode : UInt8) (mediaKeyCommitment : Octets) (now : Time)
    (adminToken instanceNonce : Octets) : CreateResult × RoomRegistry :=
  if validRoomId roomId = false then ({ reason := "invalid room id" }, registry)
  else
    match registry.rooms.lookup roomId with
    | some room => ({ reason := "room already exists", room := room.snapshot }, registry)
    | none =>
      if validAccessMode accessMode = false then ({ reason := "invalid access mode" }, registry)
      else if validSha256Hex mediaKeyCommitment = false then
        ({ reason := "invalid media key commitment" }, registry)
      else if accessMode = roomAccessPassword ∧ passwordHash = [] then
        ({ reason := "missing room password" }, registry)
      else
        match trySha256Hex sodium adminToken with
        | none => ({ reason := "crypto unavailable" }, registry)
        | some adminTokenHash =>
          let room : Room :=
            { roomId := roomId
              roomName := boundedRoomName roomId roomName
              roomInstanceId := instanceNonce
              passwordHash := if accessMode = roomAccessPassword then passwordHash else []
              adminTokenHash := adminTokenHash
              mediaKeyCommitment := mediaKeyCommitment
              accessMode := accessMode
              createdAt := now
              lastActivity := now }
          ({ ok := true, created := true, room := room.snapshot, adminToken := adminToken },
            registry.put room)

/-- The room a ticket without an instance id joins, created open on first use.
The empty snapshot reports a commitment that is not the room's or not a digest. -/
def ensureOpenRoom (roomId mediaKeyCommitment : Octets) (now : Time)
    (instanceNonce : Octets) : RoomSnapshot × RoomRegistry :=
  match registry.rooms.lookup roomId with
  | some room =>
    if room.mediaKeyCommitment ≠ mediaKeyCommitment then ({}, registry)
    else (room.snapshot, registry.markJoined roomId now)
  | none =>
    if validSha256Hex mediaKeyCommitment = false then ({}, registry)
    else
      let room : Room :=
        { roomId := roomId
          roomName := roomId
          roomInstanceId := instanceNonce
          mediaKeyCommitment := mediaKeyCommitment
          createdAt := now
          lastActivity := now
          everJoined := true }
      (room.snapshot, registry.put room)

def authorizeJoin (roomId passwordHash : Octets) (now : Time) : AuthorizeResult × RoomRegistry :=
  match registry.rooms.lookup roomId with
  | none => ({ reason := "room not found" }, registry)
  | some room =>
    if room.accessMode = roomAccessPassword ∧ room.passwordHash ≠ passwordHash then
      ({ reason := "wrong room password" }, registry)
    else ({ ok := true, room := room.snapshot }, registry.touch roomId now)

def validateClaims (roomId roomInstanceId : Octets)
    (accessEpoch : UInt32) (mediaKeyCommitment : Octets) (now : Time) :
    AuthorizeResult × RoomRegistry :=
  match registry.rooms.lookup roomId with
  | none => ({ reason := "room not found" }, registry)
  | some room =>
    if roomInstanceId ≠ [] ∧ room.roomInstanceId ≠ roomInstanceId then
      ({ reason := "wrong room instance" }, registry)
    else if accessEpoch ≠ 0 ∧ room.accessEpoch ≠ accessEpoch then
      ({ reason := "wrong room access epoch" }, registry)
    else if room.mediaKeyCommitment ≠ mediaKeyCommitment then
      ({ reason := "wrong media key commitment" }, registry)
    else ({ ok := true, room := room.snapshot }, registry.touch roomId now)

def authorizeAdmin (registry : RoomRegistry) (roomId adminToken : Octets)
    (now : Time) : AuthorizeResult × RoomRegistry :=
  match registry.rooms.lookup roomId with
  | none => ({ reason := "room not found" }, registry)
  | some room =>
    match trySha256Hex sodium adminToken with
    | none => ({ reason := "crypto unavailable" }, registry)
    | some tokenHash =>
      if adminToken = [] ∨ tokenHash ≠ room.adminTokenHash then
        ({ reason := "invalid room admin token" }, registry)
      else ({ ok := true, room := room.snapshot }, registry.touch roomId now)

/-- The room with a new commitment at its next access epoch. -/
def rotated (accessMode : UInt8) (passwordHash mediaKeyCommitment : Octets)
    (now : Time) : Room :=
  { room with
    passwordHash := passwordHash
    accessMode := accessMode
    mediaKeyCommitment := mediaKeyCommitment
    accessEpoch := room.accessEpoch + 1
    lastActivity := now }

/-- Rotate a stored room under the access mode and password that `access` gives it. -/
def advance (access : Room → UInt8 × Octets)
    (mediaKeyCommitment : Octets) (now : Time) : AuthorizeResult × RoomRegistry :=
  let next := fun room : Room =>
    rotated room (access room).1 (access room).2 mediaKeyCommitment now
  match registry.rooms.lookup roomId with
  | none => ({ reason := "room not found" }, registry)
  | some room =>
    ({ ok := true, room := (next room).snapshot }, registry.alter roomId next fun _ => rfl)

def changeAccessMode (registry : RoomRegistry) (roomId adminToken : Octets)
    (accessMode : UInt8) (passwordHash mediaKeyCommitment : Octets) (now : Time) :
    AuthorizeResult × RoomRegistry :=
  let (result, authorized) := registry.authorizeAdmin sodium roomId adminToken now
  if result.ok = false then (result, authorized)
  else if validAccessMode accessMode = false then
    ({ result with ok := false, reason := "invalid access mode" }, authorized)
  else if accessMode = roomAccessPassword ∧ passwordHash = [] then
    ({ result with ok := false, reason := "missing room password" }, authorized)
  else if validSha256Hex mediaKeyCommitment = false then
    ({ result with ok := false, reason := "invalid media key commitment" }, authorized)
  else
    authorized.advance roomId
      (fun _ => (accessMode, if accessMode = roomAccessPassword then passwordHash else []))
      mediaKeyCommitment now

def changePassword (registry : RoomRegistry) (roomId adminToken passwordHash
    mediaKeyCommitment : Octets) (now : Time) : AuthorizeResult × RoomRegistry :=
  registry.changeAccessMode sodium roomId adminToken
    (if passwordHash = [] then roomAccessOpen else roomAccessPassword)
    passwordHash mediaKeyCommitment now

def rotateAccessEpoch (registry : RoomRegistry) (roomId adminToken
    mediaKeyCommitment : Octets) (now : Time) : AuthorizeResult × RoomRegistry :=
  let (result, authorized) := registry.authorizeAdmin sodium roomId adminToken now
  if result.ok = false then (result, authorized)
  else if validSha256Hex mediaKeyCommitment = false then
    ({ result with ok := false, reason := "invalid media key commitment" }, authorized)
  else
    authorized.advance roomId (fun room => (room.accessMode, room.passwordHash))
      mediaKeyCommitment now

def closeRoom (registry : RoomRegistry) (roomId adminToken : Octets)
    (now : Time) : AuthorizeResult × RoomRegistry :=
  let (result, authorized) := registry.authorizeAdmin sodium roomId adminToken now
  if result.ok = false then (result, authorized)
  else (result, authorized.retain fun other _ => other ≠ roomId)

def authorizesMediaKey (roomId roomInstanceId : Octets)
    (accessEpoch : UInt32) (mediaKeyCommitment : Octets) : Bool :=
  match registry.rooms.lookup roomId with
  | none => false
  | some room =>
    room.roomInstanceId = roomInstanceId && room.accessEpoch = accessEpoch &&
      room.mediaKeyCommitment = mediaKeyCommitment

variable (messages : List ChatMessage)

/-- Append a message, keeping the newest retained ones. -/
def retainChat (message : ChatMessage) : List ChatMessage :=
  let appended := messages ++ [message]
  if roomChatRetainedMessages < appended.length then appended.drop 1 else appended

def storeChatMessage (roomId roomInstanceId : Octets)
    (accessEpoch senderParticipantId : UInt32) (nonce ciphertext : Octets)
    (ciphertextBytes : UInt16) (serverTimeMs : Int) (now : Time) :
    StoreChatResult × RoomRegistry :=
  match registry.rooms.lookup roomId with
  | none => (.refused roomStatusForbidden "room not found", registry)
  | some room =>
    if room.roomInstanceId ≠ roomInstanceId then
      (.refused roomStatusForbidden "wrong room instance", registry)
    else if room.accessEpoch ≠ accessEpoch then
      (.refused roomStatusForbidden "wrong room access epoch", registry)
    else if senderParticipantId = 0 ∨ ciphertextBytes = 0 ∨
        roomChatCiphertextMaxBytes < ciphertextBytes.toNat then
      (.refused roomStatusBadRequest "malformed chat message", registry)
    else if nonce.all (· == 0) then
      (.refused roomStatusBadRequest "empty chat nonce", registry)
    else if room.chatMessages.any fun message =>
        message.senderParticipantId == senderParticipantId &&
          message.accessEpoch == accessEpoch && message.nonce == nonce then
      (.refused roomStatusConflict "duplicate chat nonce", registry)
    else
      let message : ChatMessage :=
        { roomId := room.roomId
          roomInstanceId := room.roomInstanceId
          accessEpoch := accessEpoch
          senderParticipantId := senderParticipantId
          sequence := room.nextChatSequence
          serverTimeMs := serverTimeMs
          nonce := nonce
          ciphertextBytes := ciphertextBytes
          ciphertext := ciphertext }
      (.stored message, registry.alter roomId
        (fun room =>
          { room with
            nextChatSequence := room.nextChatSequence + 1
            chatMessages := retainChat room.chatMessages message
            lastActivity := now })
        fun _ => rfl)

/-- The smallest sequence of the listed messages; zero when there is none. -/
def oldestSequence : UInt64 :=
  messages.foldl (fun oldest message =>
    if oldest = 0 ∨ message.sequence < oldest then message.sequence else oldest) 0

def chatHistorySince (roomId roomInstanceId : Octets)
    (accessEpoch : UInt32) (afterSequence : UInt64) (now : Time) :
    ChatHistoryResult × RoomRegistry :=
  match registry.rooms.lookup roomId with
  | none => (.refused roomStatusForbidden "room not found", registry)
  | some room =>
    if room.roomInstanceId ≠ roomInstanceId then
      (.refused roomStatusForbidden "wrong room instance", registry)
    else if room.accessEpoch ≠ accessEpoch then
      (.refused roomStatusForbidden "wrong room access epoch", registry)
    else
      let current := room.chatMessages.filter fun message => message.accessEpoch = accessEpoch
      let oldest := oldestSequence current
      (.found (oldest ≠ 0 && afterSequence + 1 < oldest)
          (current.filter fun message => afterSequence < message.sequence),
        registry.touch roomId now)

/-- More participants first, then by name. -/
def listsBefore (left right : RoomSnapshot × Nat) : Prop :=
  left.2 > right.2 ∨ (left.2 = right.2 ∧ ¬ right.1.roomName < left.1.roomName)

instance : DecidableRel listsBefore := fun _ _ => inferInstanceAs (Decidable (_ ∨ _))

def listRooms (participantCounts : Octets → Nat) : List (RoomSnapshot × Nat) :=
  (registry.rooms.pairs.map fun entry =>
    (entry.2.snapshot, participantCounts entry.1)).insertionSort listsBefore

/-- A room that is kept only while somebody is registered in it. -/
def expires (now : Time) (room : Room) : Bool :=
  room.everJoined || emptyPendingRoomTtl < now - room.createdAt

def removeEmptyRooms (counts : Octets → Nat) (now : Time) : RoomRegistry :=
  registry.retain fun roomId room => !(counts roomId = 0 && expires now room)

end RoomRegistry

end Sesivo
