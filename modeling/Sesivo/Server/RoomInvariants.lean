import Sesivo.Server.Revocation

set_option autoImplicit false

/- What one operation of the registry can do to one room, and what every stored
room satisfies after any sequence of operations. -/

namespace Sesivo

open JoinToken List Bool RoomRegistry

/-- What the sender of a chat message and the clock give to it. -/
structure ChatPost where
  accessEpoch : UInt32
  senderParticipantId : UInt32
  serverTimeMs : Int
  nonce : Octets
  ciphertextBytes : UInt16
  ciphertext : Octets
deriving DecidableEq

def ChatPost.message (post : ChatPost) (roomId roomInstanceId : Octets) (sequence : UInt64) :
    ChatMessage where
  roomId := roomId
  roomInstanceId := roomInstanceId
  accessEpoch := post.accessEpoch
  senderParticipantId := post.senderParticipantId
  sequence := sequence
  serverTimeMs := post.serverTimeMs
  nonce := post.nonce
  ciphertextBytes := post.ciphertextBytes
  ciphertext := post.ciphertext

/-- The two messages have the same sender, epoch and nonce. -/
def ChatMessage.Repeats (earlier later : ChatMessage) : Prop :=
  earlier.senderParticipantId = later.senderParticipantId ∧
    earlier.accessEpoch = later.accessEpoch ∧ earlier.nonce = later.nonce

namespace Room

/-- The room with its last activity left out. -/
def idle (room : Room) : Room := { room with lastActivity := 0 }

structure WellFormed (room : Room) : Prop where
  mode : validAccessMode room.accessMode = true
  password : room.passwordHash ≠ [] ↔ room.accessMode = roomAccessPassword
  commitment : validSha256Hex room.mediaKeyCommitment = true
  epoch : 1 ≤ room.accessEpoch.toNat
  few : room.chatMessages.length ≤ roomChatRetainedMessages
  numbered : ∀ index message, room.chatMessages[index]? = some message →
    message.sequence + UInt64.ofNat (room.chatMessages.length - index) = room.nextChatSequence
  ordered : room.chatMessages.Pairwise fun earlier later => earlier.accessEpoch ≤ later.accessEpoch
  current : ∀ message ∈ room.chatMessages, message.accessEpoch ≤ room.accessEpoch
  single : room.chatMessages.Pairwise fun earlier later => ¬ earlier.Repeats later

/-- A room as it is created. -/
structure Fresh (room : Room) : Prop where
  mode : validAccessMode room.accessMode = true
  password : room.passwordHash ≠ [] ↔ room.accessMode = roomAccessPassword
  commitment : validSha256Hex room.mediaKeyCommitment = true
  epoch : room.accessEpoch = 1
  next : room.nextChatSequence = 1
  messages : room.chatMessages = []

/-- What an operation can do to the place of one room, with whether it rotates the room
and what it posts there. -/
inductive Outcome : Bool → List ChatPost → Option Room → Option Room → Prop where
  | absent : Outcome false [] none none
  | created {room : Room} (fresh : room.Fresh) : Outcome false [] none (some room)
  | removed (room : Room) : Outcome false [] (some room) none
  | active (room : Room) (everJoined : Bool) (now : Time) :
      Outcome false [] (some room)
        (some { room with everJoined := everJoined, lastActivity := now })
  | rotated (room : Room) {accessMode : UInt8} {passwordHash mediaKeyCommitment : Octets}
      (now : Time)
      (access : (accessMode = room.accessMode ∧ passwordHash = room.passwordHash) ∨
        (validAccessMode accessMode = true ∧
          (passwordHash ≠ [] ↔ accessMode = roomAccessPassword)))
      (commitment : validSha256Hex mediaKeyCommitment = true) :
      Outcome true [] (some room)
        (some (rotated room accessMode passwordHash mediaKeyCommitment now))
  | posted (room : Room) {post : ChatPost} (now : Time) (epoch : post.accessEpoch = room.accessEpoch)
      (single : ∀ message ∈ room.chatMessages, ¬ message.Repeats
        (post.message room.roomId room.roomInstanceId room.nextChatSequence)) :
      Outcome false [post] (some room)
        (some { room with
          nextChatSequence := room.nextChatSequence + 1
          chatMessages := retainChat room.chatMessages
            (post.message room.roomId room.roomInstanceId room.nextChatSequence)
          lastActivity := now })

theorem Outcome.unchanged (place : Option Room) : Outcome false [] place place := by
  cases place with
  | none => exact .absent
  | some room => exact .active room room.everJoined room.lastActivity

end Room

namespace RoomRegistry

open Room

/-- The operation gives the room its next access epoch. -/
def Operation.rotates (sodium : Sodium) (registry : RoomRegistry) (roomId : Octets) :
    Operation → Bool
  | .changePassword target adminToken passwordHash commitment now =>
    target = roomId &&
      (registry.changePassword sodium target adminToken passwordHash commitment now).1.ok
  | .changeAccessMode target adminToken accessMode passwordHash commitment now =>
    target = roomId && (registry.changeAccessMode sodium target adminToken accessMode passwordHash
      commitment now).1.ok
  | .rotateAccessEpoch target adminToken commitment now =>
    target = roomId && (registry.rotateAccessEpoch sodium target adminToken commitment now).1.ok
  | _ => false

/-- What the operation stores in the room's chat. -/
def Operation.posts (registry : RoomRegistry) (roomId : Octets) : Operation → List ChatPost
  | .storeChatMessage target instanceId epoch sender nonce ciphertext ciphertextBytes time now =>
    match (registry.storeChatMessage target instanceId epoch sender nonce ciphertext
      ciphertextBytes time now).1 with
    | .refused _ _ => []
    | .stored _ =>
      if target = roomId then [⟨epoch, sender, time, nonce, ciphertextBytes, ciphertext⟩] else []
  | _ => []

/-- The answer of the operation reports a failure. -/
def Operation.fails (sodium : Sodium) (registry : RoomRegistry) : Operation → Bool
  | .createRoom roomId roomName passwordHash accessMode commitment now adminToken nonce =>
    !(registry.createRoom sodium roomId roomName passwordHash accessMode commitment now adminToken
      nonce).1.ok
  | .ensureOpenRoom roomId commitment now nonce =>
    (registry.ensureOpenRoom roomId commitment now nonce).1 = {}
  | .authorizeJoin roomId passwordHash now => !(registry.authorizeJoin roomId passwordHash now).1.ok
  | .validateClaims roomId instanceId epoch commitment now =>
    !(registry.validateClaims roomId instanceId epoch commitment now).1.ok
  | .authorizeAdmin roomId adminToken now =>
    !(registry.authorizeAdmin sodium roomId adminToken now).1.ok
  | .changePassword roomId adminToken passwordHash commitment now =>
    !(registry.changePassword sodium roomId adminToken passwordHash commitment now).1.ok
  | .changeAccessMode roomId adminToken accessMode passwordHash commitment now =>
    !(registry.changeAccessMode sodium roomId adminToken accessMode passwordHash commitment now).1.ok
  | .rotateAccessEpoch roomId adminToken commitment now =>
    !(registry.rotateAccessEpoch sodium roomId adminToken commitment now).1.ok
  | .closeRoom roomId adminToken now => !(registry.closeRoom sodium roomId adminToken now).1.ok
  | .storeChatMessage roomId instanceId epoch sender nonce ciphertext ciphertextBytes time now =>
    match (registry.storeChatMessage roomId instanceId epoch sender nonce ciphertext
      ciphertextBytes time now).1 with
    | .refused _ _ => true
    | .stored _ => false
  | .chatHistorySince roomId instanceId epoch afterSequence now =>
    match (registry.chatHistorySince roomId instanceId epoch afterSequence now).1 with
    | .refused _ _ => true
    | .found _ _ => false
  | .markJoined _ _ => false
  | .removeEmptyRooms _ _ => false

variable (sodium : Sodium) (registry : RoomRegistry) (target : Octets)
variable {answer : AuthorizeResult × RoomRegistry} (operation : Operation)
variable (roomId adminToken instanceId : Octets) (epoch : UInt32) (commitment : Octets)
variable (now : Time) {room : Room} (other : Octets)

theorem lookup_put (room : Room) (roomId : Octets) :
    (registry.put room).rooms.lookup roomId =
      if roomId = room.roomId then some room else registry.rooms.lookup roomId :=
  Store.lookup_insert _ _ _ _

theorem lookup_alter (update : Room → Room) (same : ∀ room, (update room).roomId = room.roomId) :
    (registry.alter target update same).rooms.lookup roomId =
      if roomId = target then (registry.rooms.lookup roomId).map update
      else registry.rooms.lookup roomId := by
  unfold alter
  split
  next here => rw [here, Store.lookup_adjust_self]
  next elsewhere => rw [Store.lookup_adjust_ne registry.rooms update elsewhere]

theorem lookup_touch :
    (registry.touch target now).rooms.lookup roomId =
      if roomId = target then
        (registry.rooms.lookup roomId).map fun room => { room with lastActivity := now }
      else registry.rooms.lookup roomId :=
  lookup_alter _ _ _ _ _

theorem touch_outcome :
    Outcome false [] (registry.rooms.lookup roomId)
      ((registry.touch target now).rooms.lookup roomId) := by
  rw [lookup_touch]
  split
  · cases registry.rooms.lookup roomId with
    | none => exact .absent
    | some room => exact .active room room.everJoined now
  · exact .unchanged _

/-- The call answers with `ok` and touches the room, or fails and does nothing. -/
def Touches (registry : RoomRegistry) (roomId : Octets) (now : Time)
    (answer : AuthorizeResult × RoomRegistry) : Prop :=
  (answer.1.ok = false ∧ answer.2 = registry) ∨
    (answer.1.ok = true ∧ answer.2 = registry.touch roomId now)

theorem Touches.outcome {registry : RoomRegistry} {target : Octets} {now : Time}
    (touches : Touches registry target now answer) (roomId : Octets) :
    Outcome false [] (registry.rooms.lookup roomId) (answer.2.rooms.lookup roomId) := by
  rcases touches with ⟨-, same⟩ | ⟨-, touched⟩
  · rw [same]
    exact .unchanged _
  · rw [touched]
    exact registry.touch_outcome target roomId now

theorem authorizeJoin_touches (passwordHash : Octets)
    (now : Time) : Touches registry roomId now (registry.authorizeJoin roomId passwordHash now) := by
  unfold authorizeJoin
  split
  · exact .inl ⟨rfl, rfl⟩
  split
  · exact .inl ⟨rfl, rfl⟩
  · exact .inr ⟨rfl, rfl⟩

theorem validateClaims_touches :
    Touches registry roomId now
      (registry.validateClaims roomId instanceId epoch commitment now) := by
  unfold validateClaims
  split
  · exact .inl ⟨rfl, rfl⟩
  split
  · exact .inl ⟨rfl, rfl⟩
  split
  · exact .inl ⟨rfl, rfl⟩
  split
  · exact .inl ⟨rfl, rfl⟩
  · exact .inr ⟨rfl, rfl⟩

theorem authorizeAdmin_touches :
    Touches registry roomId now (registry.authorizeAdmin sodium roomId adminToken now) := by
  unfold authorizeAdmin
  split
  · exact .inl ⟨rfl, rfl⟩
  split
  · exact .inl ⟨rfl, rfl⟩
  split
  · exact .inl ⟨rfl, rfl⟩
  · exact .inr ⟨rfl, rfl⟩

/-- A call that rotates the room, or fails, having touched the room or not. -/
def Advances (registry : RoomRegistry) (roomId : Octets) (now : Time)
    (answer : AuthorizeResult × RoomRegistry) : Prop :=
  (answer.1.ok = false ∧ (answer.2 = registry ∨ answer.2 = registry.touch roomId now)) ∨
    (answer.1.ok = true ∧ ∀ other, Outcome (roomId = other) [] (registry.rooms.lookup other)
      (answer.2.rooms.lookup other))

theorem Advances.outcome {registry : RoomRegistry} {roomId : Octets} {now : Time}
    (advances : Advances registry roomId now answer) (other : Octets) :
    Outcome (roomId = other && answer.1.ok) [] (registry.rooms.lookup other)
      (answer.2.rooms.lookup other) := by
  rcases advances with ⟨failed, same | touched⟩ | ⟨ok, outcome⟩
  · rw [failed, same, Bool.and_false]
    exact .unchanged _
  · rw [failed, touched, Bool.and_false]
    exact registry.touch_outcome roomId other now
  · rw [ok, Bool.and_true]
    exact outcome other

theorem advance_cases (access : Room → UInt8 × Octets) (commitment : Octets) (now : Time) :
    let answer := registry.advance roomId access commitment now
    (registry.rooms.lookup roomId = none ∧ answer.1.ok = false ∧ answer.2 = registry) ∨
      ∃ room, registry.rooms.lookup roomId = some room ∧ answer.1.ok = true ∧ ∀ other,
        answer.2.rooms.lookup other =
          if other = roomId then
            some (rotated room (access room).1 (access room).2 commitment now)
          else registry.rooms.lookup other := by
  intro answer
  simp only [answer, advance]
  split
  next missing => exact .inl ⟨missing, rfl, rfl⟩
  rename_i room found
  refine .inr ⟨room, found, rfl, ?_⟩
  intro other
  have altered := lookup_alter registry roomId other
    (fun room => rotated room (access room).1 (access room).2 commitment now) fun _ => rfl
  refine altered.trans ?_
  split
  next here =>
    rw [here, found]
    rfl
  next => rfl

/-- Rotating a room that was just touched. -/
theorem touch_advances {access : Room → UInt8 × Octets}
    {commitment : Octets} (valid : validSha256Hex commitment = true) (allowed : ∀ room : Room,
      ((access { room with lastActivity := now }).1 = room.accessMode ∧
          (access { room with lastActivity := now }).2 = room.passwordHash) ∨
        (validAccessMode (access { room with lastActivity := now }).1 = true ∧
          ((access { room with lastActivity := now }).2 ≠ [] ↔
            (access { room with lastActivity := now }).1 = roomAccessPassword))) :
    Advances registry roomId now
      ((registry.touch roomId now).advance roomId access commitment now) := by
  have touched := registry.lookup_touch roomId roomId now
  rw [if_pos rfl] at touched
  rcases (registry.touch roomId now).advance_cases roomId access commitment now with
    ⟨-, failed, same⟩ | ⟨active, found, ok, changed⟩
  · exact .inl ⟨failed, .inr same⟩
  refine .inr ⟨ok, ?_⟩
  intro other
  rw [changed other]
  by_cases here : other = roomId
  · rw [found, eq_comm, Option.map_eq_some_iff] at touched
    obtain ⟨room, held, rfl⟩ := touched
    rw [if_pos here, here, held, decide_eq_true rfl]
    exact .rotated room now (allowed room) valid
  · rw [if_neg here, lookup_touch, if_neg here, decide_eq_false (Ne.symm here)]
    exact .unchanged _

theorem changeAccessMode_advances (accessMode : UInt8) (passwordHash commitment : Octets)
    (now : Time) :
    Advances registry roomId now
      (registry.changeAccessMode sodium roomId adminToken accessMode passwordHash commitment now) := by
  have touches := registry.authorizeAdmin_touches sodium roomId adminToken now
  unfold changeAccessMode
  split
  rename_i result authorized answer
  rw [answer] at touches
  have either : authorized = registry ∨ authorized = registry.touch roomId now := by
    rcases touches with ⟨-, same⟩ | ⟨-, touched⟩
    · exact .inl same
    · exact .inr touched
  split
  next failed => exact .inl ⟨failed, either⟩
  rename_i passed
  split
  · exact .inl ⟨rfl, either⟩
  rename_i mode
  split
  · exact .inl ⟨rfl, either⟩
  rename_i password
  split
  · exact .inl ⟨rfl, either⟩
  rename_i valid
  rcases touches with ⟨failed, -⟩ | ⟨-, touched⟩
  · exact absurd failed passed
  change authorized = _ at touched
  rw [touched]
  refine registry.touch_advances roomId now (eq_true_of_not_eq_false valid) ?_
  intro room
  refine .inr ⟨eq_true_of_not_eq_false mode, ?_⟩
  split
  next protects => exact ⟨fun _ => protects, fun _ empty => password ⟨protects, empty⟩⟩
  next plain => exact ⟨fun empty => absurd rfl empty, fun protects => absurd protects plain⟩

theorem rotateAccessEpoch_advances :
    Advances registry roomId now
      (registry.rotateAccessEpoch sodium roomId adminToken commitment now) := by
  have touches := registry.authorizeAdmin_touches sodium roomId adminToken now
  unfold rotateAccessEpoch
  split
  rename_i result authorized answer
  rw [answer] at touches
  split
  next failed =>
    rcases touches with ⟨-, same⟩ | ⟨ok, -⟩
    · exact .inl ⟨failed, .inl same⟩
    · rw [failed] at ok
      cases ok
  next passed =>
    rcases touches with ⟨failed, -⟩ | ⟨-, touched⟩
    · exact absurd failed passed
    split
    · exact .inl ⟨rfl, .inr touched⟩
    rename_i valid
    change authorized = _ at touched
    rw [touched]
    refine registry.touch_advances roomId now (eq_true_of_not_eq_false valid) ?_
    intro room
    exact .inl ⟨rfl, rfl⟩

/-- A call that closes the room, or fails and does nothing. -/
theorem closeRoom_cases :
    let answer := registry.closeRoom sodium roomId adminToken now
    (answer.1.ok = false ∧ answer.2 = registry) ∨
      (answer.1.ok = true ∧
        answer.2 = (registry.touch roomId now).retain fun other _ => other ≠ roomId) := by
  intro answer
  have touches := registry.authorizeAdmin_touches sodium roomId adminToken now
  simp only [answer, closeRoom]
  split
  next failed =>
    rcases touches with ⟨-, same⟩ | ⟨ok, -⟩
    · exact .inl ⟨failed, same⟩
    · rw [failed] at ok
      cases ok
  next passed =>
    rcases touches with ⟨failed, -⟩ | ⟨ok, touched⟩
    · exact absurd failed passed
    · exact .inr ⟨ok, by rw [touched]⟩

theorem retain_outcome (accept : Octets → Room → Bool) (roomId : Octets) :
    Outcome false [] (registry.rooms.lookup roomId)
      ((registry.retain accept).rooms.lookup roomId) := by
  simp only [retain, Store.lookup_keep]
  cases registry.rooms.lookup roomId with
  | none => exact .absent
  | some room =>
    rw [Option.filter_some]
    split
    · exact .unchanged _
    · exact .removed room

theorem closeRoom_outcome :
    Outcome false [] (registry.rooms.lookup other)
      ((registry.closeRoom sodium roomId adminToken now).2.rooms.lookup other) := by
  rcases registry.closeRoom_cases sodium roomId adminToken now with ⟨-, same⟩ | ⟨-, closed⟩
  · rw [same]
    exact .unchanged _
  rw [closed]
  by_cases here : other = roomId
  · simp only [retain, Store.lookup_keep]
    cases found : registry.rooms.lookup other with
    | none =>
      rw [lookup_touch, if_pos here, found]
      exact .absent
    | some room =>
      rw [lookup_touch, if_pos here, found, Option.map_some, Option.filter_some]
      simp only [here, ne_eq, not_true_eq_false, decide_false, false_eq_true, ↓reduceIte]
      exact .removed room
  · have kept := (registry.touch roomId now).retain_outcome (fun other _ => other ≠ roomId) other
    rw [lookup_touch, if_neg here] at kept
    exact kept

/-- A call that creates a room, or fails and does nothing. -/
theorem createRoom_cases
    (roomName passwordHash : Octets) (accessMode : UInt8) (commitment : Octets) (now : Time)
    (adminToken nonce : Octets) :
    let answer := registry.createRoom sodium roomId roomName passwordHash accessMode commitment now
      adminToken nonce
    (answer.1.ok = false ∧ answer.2 = registry) ∨
      (answer.1.ok = true ∧ ∃ room : Room, room.Fresh ∧ room.roomId = roomId ∧
        registry.rooms.lookup roomId = none ∧ answer.2 = registry.put room) := by
  intro answer
  simp only [answer, createRoom]
  split
  · exact .inl ⟨rfl, rfl⟩
  split
  · exact .inl ⟨rfl, rfl⟩
  rename_i missing
  split
  · exact .inl ⟨rfl, rfl⟩
  rename_i mode
  split
  · exact .inl ⟨rfl, rfl⟩
  rename_i valid
  split
  · exact .inl ⟨rfl, rfl⟩
  rename_i password
  split
  · exact .inl ⟨rfl, rfl⟩
  refine .inr ⟨rfl, _, ⟨eq_true_of_not_eq_false mode, ?_,
    eq_true_of_not_eq_false valid, rfl, rfl, rfl⟩, rfl, missing, rfl⟩
  split
  next protects => exact ⟨fun _ => protects, fun _ empty => password ⟨protects, empty⟩⟩
  next plain => exact ⟨fun empty => absurd rfl empty, fun protects => absurd protects plain⟩

theorem put_outcome (fresh : room.Fresh)
    (missing : registry.rooms.lookup room.roomId = none) (other : Octets) :
    Outcome false [] (registry.rooms.lookup other) ((registry.put room).rooms.lookup other) := by
  rw [lookup_put]
  split
  next here =>
    rw [here, missing]
    exact .created fresh
  · exact .unchanged _

/-- A call that finds or creates a room, or fails and does nothing. -/
theorem ensureOpenRoom_cases (nonce : Octets) :
    let answer := registry.ensureOpenRoom roomId commitment now nonce
    (answer.1 = {} ∧ answer.2 = registry) ∨
      (∃ room, registry.rooms.lookup roomId = some room ∧ answer.1 = room.snapshot ∧
        answer.2 = registry.markJoined roomId now) ∨
      ∃ room : Room, room.Fresh ∧ room.roomId = roomId ∧ registry.rooms.lookup roomId = none ∧
        answer.1 = room.snapshot ∧ answer.2 = registry.put room := by
  intro answer
  simp only [answer, ensureOpenRoom]
  split
  next room found =>
    split
    · exact .inl ⟨rfl, rfl⟩
    · exact .inr (.inl ⟨room, found, rfl, rfl⟩)
  rename_i missing
  split
  · exact .inl ⟨rfl, rfl⟩
  rename_i valid
  refine .inr (.inr ⟨_, ⟨?_, ?_, eq_true_of_not_eq_false valid, rfl, rfl, rfl⟩, rfl,
    missing, rfl, rfl⟩)
  · show validAccessMode roomAccessOpen = true
    decide
  · show ([] : Octets) ≠ [] ↔ roomAccessOpen = roomAccessPassword
    decide

theorem markJoined_outcome :
    Outcome false [] (registry.rooms.lookup other)
      ((registry.markJoined roomId now).rooms.lookup other) := by
  unfold markJoined
  rw [lookup_alter]
  split
  · cases registry.rooms.lookup other with
    | none => exact .absent
    | some room => exact .active room true now
  · exact .unchanged _

theorem chatHistorySince_cases (afterSequence : UInt64) (now : Time) :
    let answer := registry.chatHistorySince roomId instanceId epoch afterSequence now
    (∃ status reason, answer.1 = .refused status reason ∧ answer.2 = registry) ∨
      (∃ truncated messages, answer.1 = .found truncated messages ∧
        answer.2 = registry.touch roomId now) := by
  intro answer
  simp only [answer, chatHistorySince]
  split
  · exact .inl ⟨_, _, rfl, rfl⟩
  split
  · exact .inl ⟨_, _, rfl, rfl⟩
  split
  · exact .inl ⟨_, _, rfl, rfl⟩
  · exact .inr ⟨_, _, rfl, rfl⟩

/-- A call that stores a message, or fails and does nothing. -/
theorem storeChatMessage_cases
    (sender : UInt32) (nonce ciphertext : Octets) (ciphertextBytes : UInt16) (time : Int)
    (now : Time) :
    let answer := registry.storeChatMessage roomId instanceId epoch sender nonce ciphertext
      ciphertextBytes time now
    let post : ChatPost := ⟨epoch, sender, time, nonce, ciphertextBytes, ciphertext⟩
    (∃ status reason, answer.1 = .refused status reason ∧ answer.2 = registry) ∨
      ∃ message, answer.1 = .stored message ∧ ∀ other,
        Outcome false (if roomId = other then [post] else []) (registry.rooms.lookup other)
          (answer.2.rooms.lookup other) := by
  intro answer post
  simp only [answer, storeChatMessage]
  split
  · exact .inl ⟨_, _, rfl, rfl⟩
  rename_i room found
  split
  · exact .inl ⟨_, _, rfl, rfl⟩
  split
  · exact .inl ⟨_, _, rfl, rfl⟩
  rename_i sameEpoch
  split
  · exact .inl ⟨_, _, rfl, rfl⟩
  split
  · exact .inl ⟨_, _, rfl, rfl⟩
  split
  · exact .inl ⟨_, _, rfl, rfl⟩
  rename_i single
  refine .inr ⟨_, rfl, ?_⟩
  intro other
  rw [lookup_alter]
  by_cases same : other = roomId
  · rw [if_pos same, if_pos same.symm, same, found]
    refine .posted room now (Decidable.not_not.mp sameEpoch).symm ?_
    intro message member repeats
    apply single
    rw [any_eq_true]
    refine ⟨message, member, ?_⟩
    obtain ⟨sameSender, sameEpochs, sameNonce⟩ := repeats
    simp only [ChatPost.message, post] at sameSender sameEpochs sameNonce
    simp [sameSender, sameEpochs, sameNonce]
  · rw [if_neg same, if_neg (Ne.symm same)]
    exact .unchanged _

/-- Every operation does one of these things to every place. -/
theorem apply_outcome :
    Outcome (operation.rotates sodium registry roomId) (operation.posts registry roomId)
      (registry.rooms.lookup roomId) ((registry.apply sodium operation).rooms.lookup roomId) := by
  cases operation with
  | createRoom target roomName passwordHash accessMode commitment now adminToken nonce =>
    rcases registry.createRoom_cases sodium target roomName passwordHash accessMode commitment now
      adminToken nonce with ⟨-, same⟩ | ⟨-, room, fresh, rfl, missing, added⟩
    · simp only [apply, same]
      exact .unchanged _
    · simp only [apply, added]
      exact registry.put_outcome fresh missing roomId
  | ensureOpenRoom target commitment now nonce =>
    rcases registry.ensureOpenRoom_cases target commitment now nonce with
      ⟨-, same⟩ | ⟨room, -, -, joined⟩ | ⟨room, fresh, rfl, missing, -, added⟩
    · simp only [apply, same]
      exact .unchanged _
    · simp only [apply, joined]
      exact registry.markJoined_outcome target now roomId
    · simp only [apply, added]
      exact registry.put_outcome fresh missing roomId
  | authorizeJoin => exact (registry.authorizeJoin_touches ..).outcome roomId
  | validateClaims => exact (registry.validateClaims_touches ..).outcome roomId
  | authorizeAdmin => exact (registry.authorizeAdmin_touches ..).outcome roomId
  | changePassword | changeAccessMode =>
    exact (registry.changeAccessMode_advances ..).outcome roomId
  | rotateAccessEpoch => exact (registry.rotateAccessEpoch_advances ..).outcome roomId
  | closeRoom target adminToken now =>
    exact registry.closeRoom_outcome sodium target adminToken now roomId
  | storeChatMessage target instanceId epoch sender nonce ciphertext ciphertextBytes time now =>
    simp only [apply, Operation.rotates, Operation.posts]
    rcases registry.storeChatMessage_cases target instanceId epoch sender nonce ciphertext
      ciphertextBytes time now with ⟨status, reason, refused, same⟩ | ⟨message, stored, outcome⟩
    · rw [refused, same]
      exact .unchanged _
    · rw [stored]
      exact outcome roomId
  | chatHistorySince target instanceId epoch afterSequence now =>
    simp only [apply]
    rcases registry.chatHistorySince_cases target instanceId epoch afterSequence now with
      ⟨status, reason, -, same⟩ | ⟨truncated, messages, -, touched⟩
    · rw [same]
      exact .unchanged _
    · rw [touched]
      exact registry.touch_outcome target roomId now
  | markJoined target now => exact registry.markJoined_outcome target now roomId
  | removeEmptyRooms counts now => exact registry.retain_outcome _ roomId

theorem snapshot_ne_default (valid : validSha256Hex room.mediaKeyCommitment = true) :
    room.snapshot ≠ {} := by
  intro same
  have empty : room.mediaKeyCommitment = [] := congrArg RoomSnapshot.mediaKeyCommitment same
  rw [empty] at valid
  exact absurd valid (by decide)

/-- A failed operation does nothing but touch a room. -/
theorem apply_of_fails (valid : ∀ roomId room, registry.rooms.lookup roomId = some room →
      validSha256Hex room.mediaKeyCommitment = true)
    (fails : operation.fails sodium registry = true) :
    registry.apply sodium operation = registry ∨
      ∃ roomId now, registry.apply sodium operation = registry.touch roomId now := by
  have touched {roomId : Octets} {now : Time} {answer : AuthorizeResult × RoomRegistry}
      (touches : Touches registry roomId now answer) (failed : (!answer.1.ok) = true) :
      answer.2 = registry ∨ ∃ roomId now, answer.2 = registry.touch roomId now := by
    rcases touches with ⟨-, same⟩ | ⟨-, same⟩
    · exact .inl same
    · exact .inr ⟨roomId, now, same⟩
  have advanced {roomId : Octets} {now : Time} {answer : AuthorizeResult × RoomRegistry}
      (advances : Advances registry roomId now answer) (failed : (!answer.1.ok) = true) :
      answer.2 = registry ∨ ∃ roomId now, answer.2 = registry.touch roomId now := by
    rcases advances with ⟨-, same | same⟩ | ⟨ok, -⟩
    · exact .inl same
    · exact .inr ⟨roomId, now, same⟩
    · rw [ok] at failed
      cases failed
  cases operation with
  | createRoom target roomName passwordHash accessMode commitment now adminToken nonce =>
    rcases registry.createRoom_cases sodium target roomName passwordHash accessMode commitment now
      adminToken nonce with ⟨-, same⟩ | ⟨ok, -⟩
    · exact .inl same
    · simp [Operation.fails, ok] at fails
  | ensureOpenRoom target commitment now nonce =>
    simp only [Operation.fails, decide_eq_true_eq] at fails
    rcases registry.ensureOpenRoom_cases target commitment now nonce with
      ⟨-, same⟩ | ⟨room, found, answered, -⟩ | ⟨room, fresh, -, -, answered, -⟩
    · exact .inl same
    · exact absurd (answered.symm.trans fails) (snapshot_ne_default (valid target room found))
    · exact absurd (answered.symm.trans fails) (snapshot_ne_default fresh.commitment)
  | authorizeJoin => exact touched (registry.authorizeJoin_touches ..) fails
  | validateClaims => exact touched (registry.validateClaims_touches ..) fails
  | authorizeAdmin => exact touched (registry.authorizeAdmin_touches ..) fails
  | changePassword | changeAccessMode =>
    exact advanced (registry.changeAccessMode_advances ..) fails
  | rotateAccessEpoch => exact advanced (registry.rotateAccessEpoch_advances ..) fails
  | closeRoom target adminToken now =>
    rcases registry.closeRoom_cases sodium target adminToken now with ⟨-, same⟩ | ⟨ok, -⟩
    · exact .inl same
    · simp [Operation.fails, ok] at fails
  | storeChatMessage target instanceId epoch sender nonce ciphertext ciphertextBytes time now =>
    rcases registry.storeChatMessage_cases target instanceId epoch sender nonce ciphertext
      ciphertextBytes time now with ⟨status, reason, -, same⟩ | ⟨message, stored, -⟩
    · exact .inl same
    · simp [Operation.fails, stored] at fails
  | chatHistorySince target instanceId epoch afterSequence now =>
    rcases registry.chatHistorySince_cases target instanceId epoch afterSequence now with
      ⟨status, reason, -, same⟩ | ⟨truncated, messages, found, -⟩
    · exact .inl same
    · simp [Operation.fails, found] at fails
  | markJoined | removeEmptyRooms => cases fails

end RoomRegistry

namespace Room

theorem Fresh.wellFormed {room : Room} (fresh : room.Fresh) : room.WellFormed where
  mode := fresh.mode
  password := fresh.password
  commitment := fresh.commitment
  epoch := by
    rw [fresh.epoch]
    decide
  few := by
    rw [fresh.messages]
    exact Nat.zero_le _
  numbered := by
    intro index message found
    rw [fresh.messages] at found
    cases found
  ordered := by
    rw [fresh.messages]
    exact List.Pairwise.nil
  current := by
    intro message member
    rw [fresh.messages] at member
    cases member
  single := by
    rw [fresh.messages]
    exact List.Pairwise.nil

/-- The retained messages are a suffix of the old ones and the new one. -/
theorem retainChat_suffix (messages : List ChatMessage) (message : ChatMessage) :
    ∃ rest, retainChat messages message = rest ++ [message] ∧ rest <:+ messages := by
  unfold retainChat
  simp only
  split
  next full =>
    cases messages with
    | nil => exact absurd full (by simp [roomChatRetainedMessages])
    | cons oldest messages => exact ⟨messages, rfl, suffix_cons oldest messages⟩
  · exact ⟨messages, rfl, suffix_refl messages⟩

theorem length_retainChat_le {messages : List ChatMessage}
    (few : messages.length ≤ roomChatRetainedMessages) (message : ChatMessage) :
    (retainChat messages message).length ≤ roomChatRetainedMessages := by
  unfold retainChat
  simp only
  split
  · simp only [length_drop, length_append, length_singleton]
    omega
  next fits => exact Nat.le_of_not_lt fits

/-- Numbers that end before the next one, and the next one. -/
theorem numbered_concat {messages rest : List ChatMessage} {message : ChatMessage} {next : UInt64}
    (suffix : rest <:+ messages) (sequence : message.sequence = next)
    (numbered : ∀ index other, messages[index]? = some other →
      other.sequence + UInt64.ofNat (messages.length - index) = next)
    (index : ℕ) (other : ChatMessage) (found : (rest ++ [message])[index]? = some other) :
    other.sequence + UInt64.ofNat ((rest ++ [message]).length - index) = next + 1 := by
  have inside : index < (rest ++ [message]).length := (List.getElem?_eq_some_iff.mp found).1
  rw [length_append, length_singleton] at inside ⊢
  by_cases last : index = rest.length
  · rw [last, getElem?_concat_length] at found
    obtain rfl := Option.some.inj found
    have one : rest.length + 1 - index = 1 := by omega
    rw [one, sequence]
    rfl
  · have before : index < rest.length := by omega
    rw [getElem?_append_left before] at found
    obtain ⟨dropped, rfl⟩ := suffix
    have there : (dropped ++ rest)[dropped.length + index]? = some other := by
      rw [getElem?_append_right (Nat.le_add_right _ _), Nat.add_sub_cancel_left]
      exact found
    have earlier := numbered _ other there
    have distance : (dropped ++ rest).length - (dropped.length + index) = rest.length - index := by
      rw [length_append]
      omega
    have step : rest.length + 1 - index = (rest.length - index) + 1 := by omega
    rw [distance] at earlier
    rw [step, UInt64.ofNat_add, ← UInt64.add_assoc, earlier]
    rfl

/-- An operation keeps a room well formed, unless it turns the epoch back to zero. -/
theorem Outcome.wellFormed {rotates : Bool} {posts : List ChatPost} {before : Option Room}
    {after : Room} (outcome : Outcome rotates posts before (some after))
    (wellFormed : ∀ room, before = some room → room.WellFormed)
    (unwrapped : ∀ room, before = some room → rotates = true → room.accessEpoch.toNat + 1 < 2 ^ 32) :
    after.WellFormed := by
  cases outcome with
  | created fresh => exact fresh.wellFormed
  | active room everJoined now =>
    have old := wellFormed room rfl
    exact ⟨old.mode, old.password, old.commitment, old.epoch, old.few, old.numbered, old.ordered,
      old.current, old.single⟩
  | rotated room now access commitment =>
    have old := wellFormed room rfl
    have bound := unwrapped room rfl rfl
    have next : (room.accessEpoch + 1).toNat = room.accessEpoch.toNat + 1 := by
      rw [UInt32.toNat_add, UInt32.toNat_one, Nat.mod_eq_of_lt bound]
    refine ⟨?_, ?_, commitment, ?_, old.few, old.numbered, old.ordered, ?_, old.single⟩
    · rcases access with ⟨mode, -⟩ | ⟨mode, -⟩
      · exact mode ▸ old.mode
      · exact mode
    · rcases access with ⟨mode, password⟩ | ⟨-, password⟩
      · rw [mode, password]
        exact old.password
      · exact password
    · show 1 ≤ (room.accessEpoch + 1).toNat
      omega
    · intro message member
      have past := UInt32.le_iff_toNat_le.mp (old.current message member)
      show message.accessEpoch ≤ room.accessEpoch + 1
      rw [UInt32.le_iff_toNat_le, next]
      omega
  | @posted room post now epoch single =>
    have old := wellFormed room rfl
    obtain ⟨rest, retained, suffix⟩ := retainChat_suffix room.chatMessages
      (post.message room.roomId room.roomInstanceId room.nextChatSequence)
    refine ⟨old.mode, old.password, old.commitment, old.epoch,
      length_retainChat_le old.few _, ?_, ?_, ?_, ?_⟩
    · simp only [retained]
      exact numbered_concat suffix rfl old.numbered
    · simp only [retained]
      refine pairwise_append.mpr ⟨old.ordered.sublist suffix.sublist, pairwise_singleton _ _, ?_⟩
      intro earlier member later last
      rw [mem_singleton.mp last]
      show earlier.accessEpoch ≤ post.accessEpoch
      rw [epoch]
      exact old.current earlier (suffix.mem member)
    · simp only [retained]
      exact forall_mem_append.mpr ⟨fun message earlier => old.current message (suffix.mem earlier),
        forall_mem_singleton.mpr (UInt32.le_of_eq epoch)⟩
    · simp only [retained]
      refine pairwise_append.mpr ⟨old.single.sublist suffix.sublist, pairwise_singleton _ _, ?_⟩
      intro earlier member later last
      rw [mem_singleton.mp last]
      exact single earlier (suffix.mem member)

end Room

/-- The registry with what has happened to the rooms it has, since each was created. -/
structure RegistryLog where
  registry : RoomRegistry := .initial
  rotations : Octets → ℕ := fun _ => 0
  posts : Octets → List ChatPost := fun _ => []

namespace RegistryLog

open RoomRegistry Octets

def step (sodium : Sodium) (log : RegistryLog) (operation : Operation) : RegistryLog where
  registry := log.registry.apply sodium operation
  rotations := fun roomId =>
    if (log.registry.rooms.lookup roomId).isSome then
      log.rotations roomId + (operation.rotates sodium log.registry roomId).toNat
    else 0
  posts := fun roomId =>
    if (log.registry.rooms.lookup roomId).isSome then
      log.posts roomId ++ operation.posts log.registry roomId
    else []

/-- No room is rotated so often that its epoch starts again. -/
def FewRotations (sodium : Sodium) (log : RegistryLog) (operation : Operation) : Prop :=
  ∀ roomId, (log.step sodium operation).rotations roomId < 2 ^ 32 - 1

/-- Every room is well formed, and its epoch counts its rotations from 1 on. -/
def Kept (log : RegistryLog) : Prop :=
  ∀ roomId room, log.registry.rooms.lookup roomId = some room →
    room.WellFormed ∧ room.accessEpoch.toNat = log.rotations roomId + 1

theorem step_kept (sodium : Sodium) (log : RegistryLog) (operation : Operation) (kept : log.Kept)
    (few : log.FewRotations sodium operation) : (log.step sodium operation).Kept := by
  intro roomId after found
  have outcome := log.registry.apply_outcome sodium operation roomId
  have bound := few roomId
  simp only [step] at found bound ⊢
  rw [found] at outcome
  generalize operation.rotates sodium log.registry roomId = rotates at outcome bound ⊢
  generalize operation.posts log.registry roomId = posts at outcome
  cases held : log.registry.rooms.lookup roomId with
  | none =>
    rw [held] at outcome
    cases outcome with
    | created fresh =>
      refine ⟨fresh.wellFormed, ?_⟩
      rw [fresh.epoch]
      rfl
  | some room =>
    obtain ⟨old, epoch⟩ := kept roomId room held
    rw [held] at outcome bound
    simp only [Option.isSome_some, ↓reduceIte] at bound ⊢
    refine ⟨outcome.wellFormed ?_ ?_, ?_⟩
    · intro other same
      rw [← Option.some.inj same]
      exact old
    · intro other same rotating
      rw [← Option.some.inj same, epoch]
      rw [rotating, toNat_true] at bound
      omega
    cases outcome with
    | active room everJoined now => exact epoch
    | posted room now same single => exact epoch
    | rotated room now access commitment =>
      show (room.accessEpoch + 1).toNat = _
      rw [toNat_true] at bound ⊢
      rw [UInt32.toNat_add, UInt32.toNat_one, epoch, Nat.mod_eq_of_lt (by omega)]

theorem run_kept (sodium : Sodium) (operations : List Operation)
    (few : Run.Allowed (step sodium) (FewRotations sodium) {} operations) :
    (Run.run (step sodium) {} operations).Kept := by
  refine Run.invariant_of_allowed (step sodium) (FewRotations sodium) Kept {} operations ?_ ?_ few
  · intro log operation _ kept allowed
    exact step_kept sodium log operation kept allowed
  · intro roomId room found
    simp [initial] at found

/-- After any operations, as long as no room is rotated `2^32 - 1` times, every room is stored
under its own id and is well formed; and an operation that then reports a failure leaves
every room as it was, but for its last activity. -/
theorem rooms_wellFormed (sodium : Sodium) (operations : List Operation)
    (few : Run.Allowed (step sodium) (FewRotations sodium) {} operations) :
    let registry := (Run.run (step sodium) {} operations).registry
    (∀ roomId room, registry.rooms.lookup roomId = some room →
        room.roomId = roomId ∧ room.WellFormed) ∧
      ∀ operation, Operation.fails sodium registry operation = true → ∀ roomId,
        ((registry.apply sodium operation).rooms.lookup roomId).map Room.idle =
          (registry.rooms.lookup roomId).map Room.idle := by
  intro registry
  have kept := run_kept sodium operations few
  refine ⟨fun roomId room found => ⟨registry.keyed roomId room found, (kept roomId room found).1⟩, ?_⟩
  intro operation fails roomId
  rcases apply_of_fails sodium registry operation
    (fun roomId room found => (kept roomId room found).1.commitment) fails with
    same | ⟨target, now, same⟩
  · rw [same]
  rw [same, lookup_touch]
  split
  · rw [Option.map_map]
    rfl
  · rfl

/-- One operation rotates a room at most once, so a short run is far from it. -/
theorem few_of_short (sodium : Sodium) (operations : List Operation) {log : RegistryLog} {bound : ℕ}
    (few : ∀ roomId, log.rotations roomId ≤ bound)
    (short : bound + operations.length < 2 ^ 32 - 1) :
    Run.Allowed (step sodium) (FewRotations sodium) log operations := by
  induction operations generalizing log bound with
  | nil => trivial
  | cons operation operations ih =>
    rw [length_cons] at short
    have more (roomId : Octets) : (log.step sodium operation).rotations roomId ≤ bound + 1 := by
      have before := few roomId
      have once := (operation.rotates sodium log.registry roomId).toNat_le
      simp only [step]
      split <;> omega
    refine ⟨?_, ih more (by omega)⟩
    intro roomId
    have after := more roomId
    omega

def postToJam (accessEpoch : UInt32) (nonce : UInt8) : Operation :=
  .storeChatMessage (ascii "jam") (ascii "one") accessEpoch 7 [nonce] (ascii "hi") 2 0 0

/-- A message before and one after a rotation, and one that comes twice. -/
def jamChat : List Operation :=
  [createJam (ascii "one"), postToJam 1 1,
    .rotateAccessEpoch (ascii "jam") (ascii "admin") sampleCommitment 1, postToJam 2 1,
    postToJam 2 1]

theorem rooms_wellFormed_jamChat :
    let registry := (Run.run (step .framing) {} jamChat).registry
    (registry.rooms.lookup (ascii "jam")).map
        (fun room => (room.accessEpoch, room.chatMessages.length)) = some (2, 2) ∧
      ∀ room, registry.rooms.lookup (ascii "jam") = some room → room.WellFormed := by
  intro registry
  have kept := rooms_wellFormed .framing jamChat
    (few_of_short .framing jamChat (fun _ => Nat.zero_le 0) (by decide))
  exact ⟨by decide +kernel, fun room found => (kept.1 _ room found).2⟩

end RegistryLog

end Sesivo
