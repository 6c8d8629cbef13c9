import Mathlib.Data.UInt
import Sesivo.Server.RoomInvariants

set_option autoImplicit false

/- The chat of a room against the log of everything that was ever posted in it: the
room keeps the end of that log, and a history request reads from there. -/

namespace Sesivo

open RoomRegistry Octets List Run UInt64

/-- Everything posted in a room, numbered from 1 on. -/
def numberedPosts (posts : List ChatPost) : List (ChatPost × ℕ) := posts.zipIdx 1

def retainedPosts (posts : List ChatPost) : List (ChatPost × ℕ) :=
  (numberedPosts posts).drop (posts.length - roomChatRetainedMessages)

def evictedPosts (posts : List ChatPost) : List (ChatPost × ℕ) :=
  (numberedPosts posts).take (posts.length - roomChatRetainedMessages)

def Room.messageOf (room : Room) (entry : ChatPost × ℕ) : ChatMessage :=
  entry.1.message room.roomId room.roomInstanceId (ofNat entry.2)

theorem numberedPosts_concat (posts : List ChatPost) (post : ChatPost) :
    numberedPosts (posts ++ [post]) = numberedPosts posts ++ [(post, posts.length + 1)] := by
  rw [numberedPosts, zipIdx_append, Nat.add_comm 1]
  rfl

theorem length_numberedPosts (posts : List ChatPost) :
    (numberedPosts posts).length = posts.length :=
  length_zipIdx

variable {epoch : UInt32} (room : Room) {posts : List ChatPost} {entry first : ChatPost × ℕ}

/-- Posting moves the window of retained messages by one, once it is full. -/
theorem retainChat_posts (posts : List ChatPost) (post : ChatPost) :
    retainChat ((retainedPosts posts).map room.messageOf)
        (room.messageOf (post, posts.length + 1)) =
      (retainedPosts (posts ++ [post])).map room.messageOf := by
  have count := length_numberedPosts posts
  have appended : (retainedPosts posts).map room.messageOf ++
      [room.messageOf (post, posts.length + 1)] =
        ((retainedPosts posts) ++ [(post, posts.length + 1)]).map room.messageOf := by
    rw [map_append, map_singleton]
  unfold retainChat
  simp only [appended, length_map, length_append, length_singleton]
  unfold retainedPosts
  rw [numberedPosts_concat, length_append, length_singleton, length_drop, count]
  by_cases full : roomChatRetainedMessages ≤ posts.length
  · rw [if_pos (by omega), ← map_drop]
    congr 1
    have step : posts.length + 1 - roomChatRetainedMessages =
        posts.length - roomChatRetainedMessages + 1 := by omega
    have below : posts.length - roomChatRetainedMessages + 1 ≤ (numberedPosts posts).length := by
      have some : 0 < roomChatRetainedMessages := by decide
      omega
    rw [step, drop_append_of_le_length below, drop_append_of_le_length (by
      rw [length_drop]
      omega), drop_drop]
  · have none : posts.length - roomChatRetainedMessages = 0 := by omega
    have still : posts.length + 1 - roomChatRetainedMessages = 0 := by omega
    rw [if_neg (by omega), none, still]
    rfl

namespace RegistryLog

/-- Every room keeps the end of what was posted in it and numbers on from there. -/
def ChatKept (log : RegistryLog) : Prop :=
  ∀ roomId room, log.registry.rooms.lookup roomId = some room →
    room.nextChatSequence = ofNat ((log.posts roomId).length + 1) ∧
      room.chatMessages = (retainedPosts (log.posts roomId)).map room.messageOf

variable (sodium : Sodium)

theorem step_chatKept (log : RegistryLog) (operation : Operation)
    (kept : log.ChatKept) : (log.step sodium operation).ChatKept := by
  intro roomId after found
  have outcome := log.registry.apply_outcome sodium operation roomId
  simp only [step] at found ⊢
  rw [found] at outcome
  generalize operation.rotates sodium log.registry roomId = rotates at outcome
  generalize operation.posts log.registry roomId = posts at outcome ⊢
  cases held : log.registry.rooms.lookup roomId with
  | none =>
    rw [held] at outcome
    cases outcome with
    | created fresh =>
      rw [fresh.next, fresh.messages]
      exact ⟨rfl, rfl⟩
  | some room =>
    obtain ⟨next, messages⟩ := kept roomId room held
    rw [held] at outcome
    simp only [Option.isSome_some, ↓reduceIte]
    cases outcome with
    | active room everJoined now | rotated room now access commitment =>
      rw [append_nil]
      exact ⟨next, messages⟩
    | @posted room post now epoch single =>
      rw [length_append, length_singleton]
      refine ⟨?_, ?_⟩
      · rw [next]
        exact (ofNat_add _ 1).symm
      have moved := retainChat_posts room (log.posts roomId) post
      rw [Room.messageOf, ← next, ← messages] at moved
      exact moved

theorem run_chatKept (operations : List Operation) :
    (run (step sodium) {} operations).ChatKept := by
  refine invariant (step sodium) ChatKept (step_chatKept sodium) {} operations ?_
  intro roomId room found
  simp [RoomRegistry.initial] at found

/-- The request is answered from the room it names, at that room's instance and epoch. -/
theorem chatHistorySince_found {registry : RoomRegistry} {roomId instanceId : Octets}
    {accessEpoch : UInt32} {afterSequence : UInt64} {now : Time} {truncated : Bool}
    {messages : List ChatMessage}
    (found : (registry.chatHistorySince roomId instanceId accessEpoch afterSequence now).1 =
      .found truncated messages) :
    ∃ room, registry.rooms.lookup roomId = some room ∧ room.roomInstanceId = instanceId ∧
      room.accessEpoch = accessEpoch ∧
      let current := room.chatMessages.filter fun message => message.accessEpoch = accessEpoch
      truncated = (oldestSequence current ≠ 0 && afterSequence + 1 < oldestSequence current) ∧
        messages = current.filter fun message => afterSequence < message.sequence := by
  unfold chatHistorySince at found
  split at found
  · cases found
  rename_i room held
  split at found
  · cases found
  rename_i sameInstance
  split at found
  · cases found
  rename_i sameEpoch
  obtain ⟨flag, listed⟩ := ChatHistoryResult.found.inj found
  exact ⟨room, held, Decidable.not_not.mp sameInstance, Decidable.not_not.mp sameEpoch,
    flag.symm, listed.symm⟩

end RegistryLog

theorem numberedPosts_increasing (posts : List ChatPost) :
    (numberedPosts posts).Pairwise fun earlier later => earlier.2 < later.2 := by
  unfold numberedPosts
  rw [pairwise_iff_getElem]
  intro left right leftInside rightInside before
  rw [getElem_zipIdx, getElem_zipIdx]
  omega

theorem mem_numberedPosts (member : entry ∈ numberedPosts posts) :
    1 ≤ entry.2 ∧ entry.2 ≤ posts.length ∧ posts[entry.2 - 1]? = some entry.1 := by
  obtain ⟨positive, found⟩ := mk_mem_zipIdx_iff_le_and_getElem?_sub.mp member
  have inside := (List.getElem?_eq_some_iff.mp found).1
  exact ⟨positive, by omega, found⟩

theorem mem_evictedPosts :
    entry ∈ evictedPosts posts ↔
      entry ∈ numberedPosts posts ∧ entry.2 ≤ posts.length - roomChatRetainedMessages := by
  rw [evictedPosts, mem_take_iff_getElem, mem_iff_getElem]
  constructor
  · intro taken
    obtain ⟨index, inside, same⟩ := taken
    refine ⟨⟨index, by omega, same⟩, ?_⟩
    rw [← same]
    simp only [numberedPosts, getElem_zipIdx]
    omega
  · intro low
    obtain ⟨⟨index, inside, same⟩, bound⟩ := low
    refine ⟨index, ?_, same⟩
    rw [← same] at bound
    simp only [numberedPosts, getElem_zipIdx] at bound
    omega

theorem mem_retainedPosts :
    entry ∈ retainedPosts posts ↔
      entry ∈ numberedPosts posts ∧ posts.length - roomChatRetainedMessages < entry.2 := by
  have split : numberedPosts posts = evictedPosts posts ++ retainedPosts posts :=
    (take_append_drop _ _).symm
  constructor
  · intro kept
    refine ⟨(drop_sublist _ _).subset kept, ?_⟩
    obtain ⟨index, inside, same⟩ := mem_drop_iff_getElem.mp kept
    rw [← same]
    simp only [numberedPosts, getElem_zipIdx]
    omega
  · intro high
    obtain ⟨member, bound⟩ := high
    rw [split, mem_append] at member
    rcases member with evicted | kept
    · have low := (mem_evictedPosts.mp evicted).2
      omega
    · exact kept

/-- Every number up to the length is a post's. -/
theorem exists_numbered (posts : List ChatPost) {number : ℕ} (positive : 1 ≤ number)
    (bound : number ≤ posts.length) : ∃ entry ∈ numberedPosts posts, entry.2 = number := by
  have inside : number - 1 < posts.length := by omega
  refine ⟨(posts[number - 1], number), ?_, rfl⟩
  exact mk_mem_zipIdx_iff_le_and_getElem?_sub.mpr ⟨positive, getElem?_eq_getElem inside⟩

/-- The sequence of a post is its number, while there are few enough. -/
theorem toNat_number (short : posts.length < 2 ^ 64)
    (member : entry ∈ numberedPosts posts) : (ofNat entry.2).toNat = entry.2 := by
  obtain ⟨-, bound, -⟩ := mem_numberedPosts member
  have size : size = 2 ^ 64 := rfl
  exact toNat_ofNat_of_lt' (by omega)

theorem Room.messages_increasing (short : posts.length < 2 ^ 64) {entries : List (ChatPost × ℕ)}
    (part : entries.Sublist (numberedPosts posts)) :
    (entries.map room.messageOf).Pairwise fun earlier later => earlier.sequence < later.sequence := by
  rw [pairwise_map]
  refine ((numberedPosts_increasing posts).sublist part).imp_of_mem ?_
  intro earlier later before after increasing
  show ofNat earlier.2 < ofNat later.2
  rw [lt_iff_toNat_lt, toNat_number short (part.subset before),
    toNat_number short (part.subset after)]
  exact increasing

namespace RegistryLog

/-- What a history request lists, in terms of what was posted. -/
theorem chatHistorySince_content {sodium : Sodium} {operations : List Operation}
    {roomId instanceId : Octets} {accessEpoch : UInt32} {afterSequence : UInt64} {now : Time}
    {truncated : Bool} {messages : List ChatMessage}
    (found : ((run (step sodium) {} operations).registry.chatHistorySince roomId instanceId
      accessEpoch afterSequence now).1 = .found truncated messages) :
    let log := run (step sodium) {} operations
    ∃ room, log.registry.rooms.lookup roomId = some room ∧ room.roomInstanceId = instanceId ∧
      room.accessEpoch = accessEpoch ∧
      messages = ((retainedPosts (log.posts roomId)).filter fun entry =>
        entry.1.accessEpoch = room.accessEpoch ∧
          afterSequence < ofNat entry.2).map room.messageOf := by
  intro log
  obtain ⟨room, held, sameInstance, sameEpoch, -, listed⟩ := chatHistorySince_found found
  obtain ⟨-, kept⟩ := run_chatKept sodium operations roomId room held
  refine ⟨room, held, sameInstance, sameEpoch, ?_⟩
  rw [listed, kept, filter_map, filter_map, filter_filter, sameEpoch]
  congr 1
  apply filter_congr
  intro entry _
  simp only [Function.comp_apply, Room.messageOf, ChatPost.message, Bool.decide_and]
  exact Bool.and_comm _ _

variable (sodium : Sodium)

/-- After any operations, a history request that is granted lists just those of the last
retained messages that are of the room's current epoch and have a sequence beyond the
given one, with everything as it was posted; they are in strictly increasing order of
sequence, as long as the sequences have not started again. -/
theorem history_content (operations : List Operation)
    (roomId instanceId : Octets) (accessEpoch : UInt32) (afterSequence : UInt64) (now : Time)
    (truncated : Bool) (messages : List ChatMessage)
    (found : ((run (step sodium) {} operations).registry.chatHistorySince roomId instanceId
      accessEpoch afterSequence now).1 = .found truncated messages) :
    let log := run (step sodium) {} operations
    ∃ room, log.registry.rooms.lookup roomId = some room ∧ room.roomInstanceId = instanceId ∧
      messages = ((retainedPosts (log.posts roomId)).filter fun entry =>
        entry.1.accessEpoch = room.accessEpoch ∧
          afterSequence < ofNat entry.2).map room.messageOf ∧
      ((log.posts roomId).length < 2 ^ 64 →
        messages.Pairwise fun earlier later => earlier.sequence < later.sequence) := by
  intro log
  obtain ⟨room, held, sameInstance, -, content⟩ := chatHistorySince_content found
  refine ⟨room, held, sameInstance, content, ?_⟩
  intro short
  rw [content]
  exact room.messages_increasing short (filter_sublist.trans (drop_sublist _ _))

theorem history_content_jamChat :
    let log := run (step .framing) {} jamChat
    ∃ room, log.registry.rooms.lookup (ascii "jam") = some room ∧
      room.roomInstanceId = ascii "one" ∧
      [(⟨2, 7, 0, [1], 2, ascii "hi"⟩ : ChatPost).message (ascii "jam") (ascii "one") 2] =
        ((retainedPosts (log.posts (ascii "jam"))).filter fun entry =>
          entry.1.accessEpoch = room.accessEpoch ∧ 0 < ofNat entry.2).map room.messageOf ∧
      ((log.posts (ascii "jam")).length < 2 ^ 64 →
        [(⟨2, 7, 0, [1], 2, ascii "hi"⟩ : ChatPost).message (ascii "jam") (ascii "one") 2].Pairwise
          fun earlier later => earlier.sequence < later.sequence) :=
  history_content .framing jamChat (ascii "jam") (ascii "one") 2 0 0 true _ (by decide +kernel)

/-- A post of another member than the ten before it. -/
def roundPost (index : ℕ) : ChatPost := ⟨1, UInt32.ofNat (index % 11 + 1), 0, [1], 2, ascii "hi"⟩

variable (count : ℕ)

/-- Eleven members post in turn. -/
def roundChat : List Operation :=
  createJam (ascii "one") :: (range count).map fun index =>
    .storeChatMessage (ascii "jam") (ascii "one") 1 (UInt32.ofNat (index % 11 + 1)) [1]
      (ascii "hi") 2 0 0

theorem numberedPosts_roundPost :
    numberedPosts ((range count).map roundPost) =
      (range count).map fun index => (roundPost index, index + 1) := by
  apply ext_getElem
  · simp [length_numberedPosts]
  intro index _ _
  simp [numberedPosts, Nat.add_comm 1]

theorem roundPost_sender_ne {earlier index : ℕ} (before : earlier < index)
    (near : index < earlier + 11) :
    (roundPost earlier).senderParticipantId ≠ (roundPost index).senderParticipantId := by
  intro same
  have numbers := congrArg UInt32.toNat same
  simp only [roundPost, UInt32.toNat_ofNat'] at numbers
  omega

/-- A well-formed post of a sender of whom no message is retained is stored. -/
theorem step_posted (log : RegistryLog) {roomId : Octets} {room : Room}
    (held : log.registry.rooms.lookup roomId = some room) (post : ChatPost)
    (epoch : room.accessEpoch = post.accessEpoch) (sender : post.senderParticipantId ≠ 0)
    (some : post.ciphertextBytes ≠ 0)
    (bound : post.ciphertextBytes.toNat ≤ roomChatCiphertextMaxBytes)
    (nonce : post.nonce.all (· == 0) = false) (single : ∀ message ∈ room.chatMessages,
      message.senderParticipantId ≠ post.senderParticipantId) (now : Time) :
    let after := log.step sodium (.storeChatMessage roomId room.roomInstanceId post.accessEpoch
      post.senderParticipantId post.nonce post.ciphertext post.ciphertextBytes
      post.serverTimeMs now)
    after.posts roomId = log.posts roomId ++ [post] ∧
      ∃ next, after.registry.rooms.lookup roomId = .some next ∧
        next.roomInstanceId = room.roomInstanceId ∧ next.accessEpoch = room.accessEpoch := by
  have fine : ¬ (post.senderParticipantId = 0 ∨ post.ciphertextBytes = 0 ∨
      roomChatCiphertextMaxBytes < post.ciphertextBytes.toNat) := by
    simp only [sender, some, false_or]
    omega
  have fresh : (room.chatMessages.any fun message =>
      message.senderParticipantId == post.senderParticipantId &&
        message.accessEpoch == post.accessEpoch && message.nonce == post.nonce) = false := by
    rw [any_eq_false]
    intro message member
    rw [beq_false_of_ne (single message member), Bool.false_and, Bool.false_and]
    exact Bool.false_ne_true
  intro after
  simp only [after, step, apply, Operation.posts, storeChatMessage, held, Option.isSome_some,
    if_true, epoch, ne_eq, not_true_eq_false, if_false, fine, nonce, fresh, Bool.false_eq_true,
    lookup_alter, Option.map_some]
  exact ⟨trivial, _, rfl, rfl, rfl⟩

/-- None of the posts of the round is taken for one that is still retained. -/
theorem roundChat_posts :
    let log := run (step .framing) {} (roundChat count)
    log.posts (ascii "jam") = (range count).map roundPost ∧
      ∃ room, log.registry.rooms.lookup (ascii "jam") = some room ∧
        room.roomInstanceId = ascii "one" ∧ room.accessEpoch = 1 := by
  intro log
  induction count with
  | zero =>
    have created : (log.registry.rooms.lookup (ascii "jam")).map
        (fun room => (room.roomInstanceId, room.accessEpoch)) = some (ascii "one", 1) := by
      decide +kernel
    obtain ⟨room, held, same⟩ := Option.map_eq_some_iff.mp created
    exact ⟨rfl, room, held, congrArg Prod.fst same, congrArg Prod.snd same⟩
  | succ count ih =>
    obtain ⟨posts, room, held, sameInstance, epoch⟩ := ih
    obtain ⟨-, kept⟩ := run_chatKept .framing (roundChat count) _ room held
    have grown : roundChat (count + 1) = roundChat count ++
        [.storeChatMessage (ascii "jam") room.roomInstanceId 1
          (roundPost count).senderParticipantId [1] (ascii "hi") 2 0 0] := by
      rw [roundChat, range_succ, map_append, sameInstance]
      rfl
    have single : ∀ message ∈ room.chatMessages,
        message.senderParticipantId ≠ (roundPost count).senderParticipantId := by
      intro message member
      rw [kept, posts] at member
      obtain ⟨entry, retained, same⟩ := mem_map.mp member
      obtain ⟨numbered, high⟩ := mem_retainedPosts.mp retained
      rw [numberedPosts_roundPost] at numbered
      obtain ⟨index, inside, entryIs⟩ := mem_map.mp numbered
      rw [← entryIs, length_map, length_range] at high
      rw [← same, ← entryIs]
      have window : roomChatRetainedMessages = 10 := rfl
      exact roundPost_sender_ne (mem_range.mp inside) (by omega)
    have positive : (roundPost count).senderParticipantId ≠ 0 := by
      intro zero
      have number := congrArg UInt32.toNat zero
      simp only [roundPost, UInt32.toNat_ofNat', UInt32.toNat_zero] at number
      omega
    have twoBytes : (2 : UInt16) ≠ 0 ∧ (2 : UInt16).toNat ≤ roomChatCiphertextMaxBytes := by decide
    have stored := step_posted .framing (run (step .framing) {} (roundChat count)) held
      (roundPost count) epoch positive twoBytes.1 twoBytes.2 rfl single 0
    obtain ⟨next, lookup, nextInstance, nextEpoch⟩ := stored.2
    simp only [log, grown, run_append, run_cons, run_nil, range_succ,
      map_append, map_cons, map_nil, ← posts]
    exact ⟨stored.1, next, lookup, nextInstance.trans sameInstance, nextEpoch.trans epoch⟩

theorem retainedPosts_roundPost {count : ℕ} (many : roomChatRetainedMessages ≤ count) :
    retainedPosts ((range count).map roundPost) =
      (range' (count - roomChatRetainedMessages) roomChatRetainedMessages).map
        fun index => (roundPost index, index + 1) := by
  have rest : count - (count - roomChatRetainedMessages) = roomChatRetainedMessages := by omega
  rw [retainedPosts, numberedPosts_roundPost, length_map, length_range, ← map_drop,
    range_eq_range', drop_range', rest, Nat.mul_one, Nat.zero_add]

theorem roundChat_history (many : roomChatRetainedMessages ≤ count) :
    ∃ truncated, ∃ room : Room,
      ((run (step .framing) {} (roundChat count)).registry.chatHistorySince (ascii "jam")
        (ascii "one") 1 0 0).1 = .found truncated
          ((((range' (count - roomChatRetainedMessages) roomChatRetainedMessages).map
            fun index => (roundPost index, index + 1)).filter fun entry =>
              0 < ofNat entry.2).map room.messageOf) := by
  obtain ⟨posts, room, held, sameInstance, epoch⟩ := roundChat_posts count
  have answered : ∃ truncated messages,
      ((run (step .framing) {} (roundChat count)).registry.chatHistorySince
        (ascii "jam") (ascii "one") 1 0 0).1 = .found truncated messages := by
    simp only [chatHistorySince, held, sameInstance, epoch, ne_eq, not_true_eq_false, if_false]
    exact ⟨_, _, rfl⟩
  obtain ⟨truncated, messages, found⟩ := answered
  obtain ⟨same, lookup, -, sameEpoch, content⟩ := chatHistorySince_content found
  refine ⟨truncated, same, ?_⟩
  rw [found, content, posts, retainedPosts_roundPost many, sameEpoch]
  congr 2
  apply filter_congr
  intro entry member
  obtain ⟨index, -, entryIs⟩ := mem_map.mp member
  rw [← entryIs]
  simp [roundPost]

/-- After 2 ^ 64 + 1 posts the sequences have started again, and the message with sequence 1
is listed after the one with the largest sequence. -/
theorem history_not_increasing :
    ∃ operations truncated messages,
      ((run (step .framing) {} operations).registry.chatHistorySince (ascii "jam")
        (ascii "one") 1 0 0).1 = .found truncated messages ∧
      ¬ messages.Pairwise fun earlier later => earlier.sequence < later.sequence := by
  obtain ⟨truncated, room, found⟩ := roundChat_history (2 ^ 64 + 1) (by decide)
  refine ⟨roundChat (2 ^ 64 + 1), truncated, _, found, ?_⟩
  rw [pairwise_map]
  show ¬ List.Pairwise (fun earlier later : ChatPost × ℕ => ofNat earlier.2 < ofNat later.2) _
  decide +kernel

end RegistryLog

/-- In increasing order the first sequence is the smallest. -/
theorem oldestSequence_cons {message : ChatMessage} {messages : List ChatMessage}
    (nonzero : message.sequence ≠ 0)
    (later : ∀ other ∈ messages, message.sequence < other.sequence) :
    oldestSequence (message :: messages) = message.sequence := by
  unfold oldestSequence
  rw [foldl_cons, if_pos (.inl rfl)]
  induction messages with
  | nil => rfl
  | cons other messages ih =>
    have above := later other mem_cons_self
    have kept : ¬ (message.sequence = 0 ∨ other.sequence < message.sequence) := by
      intro either
      rcases either with zero | below
      · exact nonzero zero
      · exact UInt64.lt_irrefl _ (UInt64.lt_trans above below)
    rw [foldl_cons, if_neg kept]
    exact ih fun last member => later last (mem_cons_of_mem other member)

/-- The epochs of the posts never fall, and do not exceed the room's. -/
structure InEpochs (epoch : UInt32) (posts : List ChatPost) : Prop where
  ordered : posts.Pairwise fun earlier later => earlier.accessEpoch ≤ later.accessEpoch
  current : ∀ post ∈ posts, post.accessEpoch ≤ epoch

/-- After a post of the current epoch there are only such. -/
theorem InEpochs.stays (inEpochs : InEpochs epoch posts)
    {earlier later : ChatPost × ℕ} (first : earlier ∈ numberedPosts posts)
    (second : later ∈ numberedPosts posts) (le : earlier.2 ≤ later.2)
    (current : earlier.1.accessEpoch = epoch) : later.1.accessEpoch = epoch := by
  obtain ⟨positive, -, found⟩ := mem_numberedPosts first
  obtain ⟨-, -, there⟩ := mem_numberedPosts second
  obtain ⟨inside, same⟩ := List.getElem?_eq_some_iff.mp found
  obtain ⟨insideToo, sameToo⟩ := List.getElem?_eq_some_iff.mp there
  by_cases equal : earlier.2 = later.2
  · have one : earlier.1 = later.1 := by
      rw [equal, there] at found
      exact (Option.some.inj found).symm
    rw [← one]
    exact current
  · have rising := pairwise_iff_getElem.mp inEpochs.ordered _ _ inside insideToo (by omega)
    rw [same, sameToo, current] at rising
    have capped := inEpochs.current later.1 (mem_of_getElem? there)
    exact UInt32.le_antisymm capped rising

/-- If a post of the current epoch was evicted, then the last one evicted is such a post,
and the retained ones of the epoch begin right after it. -/
theorem InEpochs.last_evicted (inEpochs : InEpochs epoch posts)
    (evicted : entry ∈ evictedPosts posts) (current : entry.1.accessEpoch = epoch)
    (member : first ∈ retainedPosts posts)
    (least : ∀ other ∈ retainedPosts posts, other.1.accessEpoch = epoch → first.2 ≤ other.2) :
    ∃ last ∈ evictedPosts posts, last.1.accessEpoch = epoch ∧ entry.2 ≤ last.2 ∧
      first.2 = last.2 + 1 := by
  obtain ⟨numbered, low⟩ := mem_evictedPosts.mp evicted
  have positive := (mem_numberedPosts numbered).1
  have high := (mem_retainedPosts.mp member).2
  have some : 0 < roomChatRetainedMessages := by decide
  obtain ⟨last, lastNumbered, lastNumber⟩ := exists_numbered posts
    (show 1 ≤ posts.length - roomChatRetainedMessages by omega) (by omega)
  obtain ⟨next, nextNumbered, nextNumber⟩ := exists_numbered posts
    (show 1 ≤ posts.length - roomChatRetainedMessages + 1 by omega) (by omega)
  have lastCurrent := inEpochs.stays numbered lastNumbered (by omega) current
  have nextCurrent := inEpochs.stays numbered nextNumbered (by omega) current
  have atMost := least next (mem_retainedPosts.mpr ⟨nextNumbered, by omega⟩) nextCurrent
  exact ⟨last, mem_evictedPosts.mpr ⟨lastNumbered, by omega⟩, lastCurrent, by omega, by omega⟩

/-- If no post of the current epoch is retained, there was none. -/
theorem InEpochs.none_current (inEpochs : InEpochs epoch posts)
    (none : ∀ entry ∈ retainedPosts posts, entry.1.accessEpoch ≠ epoch) :
    ∀ entry ∈ numberedPosts posts, entry.1.accessEpoch ≠ epoch := by
  intro entry numbered same
  obtain ⟨positive, bound, -⟩ := mem_numberedPosts numbered
  obtain ⟨last, lastNumbered, lastNumber⟩ := exists_numbered posts
    (Nat.le_trans positive bound) (Nat.le_refl _)
  have some : 0 < roomChatRetainedMessages := by decide
  refine none last (mem_retainedPosts.mpr ⟨lastNumbered, by omega⟩) ?_
  exact inEpochs.stays numbered lastNumbered (by omega) same

/-- Comparing with the first retained post of the epoch finds out whether a later one than
the given was evicted, unless the epoch began after the next and all of it is retained. -/
theorem InEpochs.gap_iff (inEpochs : InEpochs epoch posts)
    (member : first ∈ retainedPosts posts) (current : first.1.accessEpoch = epoch)
    (least : ∀ other ∈ retainedPosts posts, other.1.accessEpoch = epoch → first.2 ≤ other.2)
    (sequence : ℕ) :
    (sequence + 1 < first.2 ↔
        ∃ entry ∈ evictedPosts posts, entry.1.accessEpoch = epoch ∧ sequence < entry.2) ↔
      ((∃ entry ∈ evictedPosts posts, entry.1.accessEpoch = epoch) ∨
        ∃ entry ∈ numberedPosts posts, entry.1.accessEpoch = epoch ∧ entry.2 ≤ sequence + 1) := by
  by_cases evicted : ∃ entry ∈ evictedPosts posts, entry.1.accessEpoch = epoch
  · refine ⟨fun _ => .inl evicted, fun _ => ⟨fun below => ?_, fun missing => ?_⟩⟩
    · obtain ⟨entry, out, same⟩ := evicted
      obtain ⟨last, lastOut, lastCurrent, -, next⟩ := inEpochs.last_evicted out same member least
      exact ⟨last, lastOut, lastCurrent, by omega⟩
    obtain ⟨entry, out, same, beyond⟩ := missing
    obtain ⟨last, -, -, atMost, next⟩ := inEpochs.last_evicted out same member least
    omega
  · have nothing : ¬ ∃ entry ∈ evictedPosts posts, entry.1.accessEpoch = epoch ∧
        sequence < entry.2 := by
      intro missing
      obtain ⟨entry, out, same, -⟩ := missing
      exact evicted ⟨entry, out, same⟩
    rw [iff_false_right nothing, or_iff_right evicted]
    constructor
    · intro quiet
      exact ⟨first, (mem_retainedPosts.mp member).1, current, by omega⟩
    intro early below
    obtain ⟨entry, numbered, same, atMost⟩ := early
    by_cases low : entry.2 ≤ posts.length - roomChatRetainedMessages
    · exact evicted ⟨entry, mem_evictedPosts.mpr ⟨numbered, low⟩, same⟩
    · have after := least entry (mem_retainedPosts.mpr ⟨numbered, by omega⟩) same
      omega

namespace RegistryLog

def EpochsKept (log : RegistryLog) : Prop :=
  ∀ roomId room, log.registry.rooms.lookup roomId = some room →
    InEpochs room.accessEpoch (log.posts roomId)

variable (sodium : Sodium)

theorem step_epochsKept (log : RegistryLog) (operation : Operation)
    (kept : log.Kept) (epochs : log.EpochsKept) (few : log.FewRotations sodium operation) :
    (log.step sodium operation).EpochsKept := by
  intro roomId after found
  have outcome := log.registry.apply_outcome sodium operation roomId
  have bound := few roomId
  simp only [step] at found bound ⊢
  rw [found] at outcome
  generalize operation.rotates sodium log.registry roomId = rotates at outcome bound
  generalize operation.posts log.registry roomId = posts at outcome ⊢
  cases held : log.registry.rooms.lookup roomId with
  | none => exact ⟨List.Pairwise.nil, fun post member => absurd member not_mem_nil⟩
  | some room =>
    have epoch := (kept roomId room held).2
    have old := epochs roomId room held
    rw [held] at outcome bound
    simp only [Option.isSome_some, ↓reduceIte] at bound ⊢
    cases outcome with
    | active room everJoined now =>
      rw [append_nil]
      exact old
    | rotated room now access commitment =>
      rw [append_nil]
      refine ⟨old.ordered, ?_⟩
      intro post member
      have past := UInt32.le_iff_toNat_le.mp (old.current post member)
      show post.accessEpoch ≤ room.accessEpoch + 1
      rw [Bool.toNat_true] at bound
      rw [UInt32.le_iff_toNat_le, UInt32.toNat_add, UInt32.toNat_one, Nat.mod_eq_of_lt (by omega)]
      omega
    | @posted room post now same single =>
      refine ⟨?_, ?_⟩
      · refine pairwise_append.mpr ⟨old.ordered, pairwise_singleton _ _, ?_⟩
        intro earlier member later last
        rw [mem_singleton.mp last, same]
        exact old.current earlier member
      exact forall_mem_append.mpr ⟨old.current, forall_mem_singleton.mpr (UInt32.le_of_eq same)⟩

theorem run_epochsKept (operations : List Operation)
    (few : Run.Allowed (step sodium) (FewRotations sodium) {} operations) :
    (run (step sodium) {} operations).EpochsKept := by
  have both := invariant_of_allowed (step sodium) (FewRotations sodium)
    (fun log => log.Kept ∧ log.EpochsKept) {} operations ?_ ?_ few
  · exact both.2
  · intro log operation _ holds allowed
    exact ⟨step_kept sodium log operation holds.1 allowed,
      step_epochsKept sodium log operation holds.1 holds.2 allowed⟩
  refine ⟨?_, ?_⟩
  · intro roomId room found
    simp [RoomRegistry.initial] at found
  · intro roomId room found
    simp [RoomRegistry.initial] at found

end RegistryLog

/-- The oldest retained sequence of an epoch: zero if there is none, else the first one's. -/
theorem oldestSequence_retained (short : posts.length < 2 ^ 64) (epoch : UInt32) :
    ((∀ entry ∈ retainedPosts posts, entry.1.accessEpoch ≠ epoch) ∧
        oldestSequence (((retainedPosts posts).map room.messageOf).filter fun message =>
          message.accessEpoch = epoch) = 0) ∨
      ∃ first ∈ retainedPosts posts, first.1.accessEpoch = epoch ∧
        (∀ entry ∈ retainedPosts posts, entry.1.accessEpoch = epoch → first.2 ≤ entry.2) ∧
        oldestSequence (((retainedPosts posts).map room.messageOf).filter fun message =>
          message.accessEpoch = epoch) = ofNat first.2 := by
  have part : ((retainedPosts posts).filter fun entry => entry.1.accessEpoch = epoch).Sublist
      (numberedPosts posts) := filter_sublist.trans (drop_sublist _ _)
  have increasing := room.messages_increasing short part
  have ascending := (numberedPosts_increasing posts).sublist part
  have same : ((retainedPosts posts).map room.messageOf).filter
        (fun message => message.accessEpoch = epoch) =
      ((retainedPosts posts).filter fun entry => entry.1.accessEpoch = epoch).map room.messageOf := by
    rw [filter_map]
    rfl
  rw [same]
  cases current : (retainedPosts posts).filter fun entry => entry.1.accessEpoch = epoch with
  | nil =>
    refine .inl ⟨?_, rfl⟩
    intro entry member equal
    have listed : entry ∈ (retainedPosts posts).filter fun entry => entry.1.accessEpoch = epoch :=
      mem_filter.mpr ⟨member, decide_eq_true equal⟩
    rw [current] at listed
    cases listed
  | cons first rest =>
    rw [current] at increasing ascending part
    have head : first ∈ (retainedPosts posts).filter fun entry => entry.1.accessEpoch = epoch := by
      rw [current]
      exact mem_cons_self
    obtain ⟨member, equal⟩ := mem_filter.mp head
    have numbered := part.subset mem_cons_self
    refine .inr ⟨first, member, of_decide_eq_true equal, ?_, ?_⟩
    · intro entry kept also
      have listed : entry ∈ (retainedPosts posts).filter fun entry =>
          entry.1.accessEpoch = epoch := mem_filter.mpr ⟨kept, decide_eq_true also⟩
      rw [current] at listed
      rcases mem_cons.mp listed with rfl | later
      · exact le_rfl
      · exact Nat.le_of_lt ((pairwise_cons.mp ascending).1 entry later)
    · apply oldestSequence_cons
      · intro zero
        have number := toNat_number short numbered
        have positive := (mem_numberedPosts numbered).1
        have none : (ofNat first.2).toNat = 0 := congrArg toNat zero
        omega
      · exact (pairwise_cons.mp increasing).1

namespace RegistryLog

/-- A history request that is granted: it says that messages are missing just when one of the
current epoch beyond the given sequence was evicted, if and only if no message of the epoch
was stored yet, or the given sequence is not the last there is and a message of the epoch was
evicted or has one of the sequences up to the next. -/
theorem truncation_exact_iff (sodium : Sodium) (operations : List Operation)
    (roomId instanceId : Octets) (accessEpoch : UInt32) (afterSequence : UInt64) (now : Time)
    (truncated : Bool) (messages : List ChatMessage)
    (few : Run.Allowed (step sodium) (FewRotations sodium) {} operations)
    (short : ((run (step sodium) {} operations).posts roomId).length < 2 ^ 64)
    (found : ((run (step sodium) {} operations).registry.chatHistorySince roomId instanceId
      accessEpoch afterSequence now).1 = .found truncated messages) :
    let posts := (run (step sodium) {} operations).posts roomId
    (truncated = true ↔ ∃ entry ∈ evictedPosts posts, entry.1.accessEpoch = accessEpoch ∧
        afterSequence < ofNat entry.2) ↔
      ((∀ entry ∈ numberedPosts posts, entry.1.accessEpoch ≠ accessEpoch) ∨
        afterSequence.toNat + 1 < 2 ^ 64 ∧
          ((∃ entry ∈ evictedPosts posts, entry.1.accessEpoch = accessEpoch) ∨
            ∃ entry ∈ numberedPosts posts, entry.1.accessEpoch = accessEpoch ∧
              entry.2 ≤ afterSequence.toNat + 1)) := by
  intro posts
  change posts.length < 2 ^ 64 at short
  obtain ⟨room, held, -, sameEpoch, flag, -⟩ := chatHistorySince_found found
  obtain ⟨-, kept⟩ := run_chatKept sodium operations roomId room held
  have inEpochs : InEpochs accessEpoch posts := by
    rw [← sameEpoch]
    exact run_epochsKept sodium operations few roomId room held
  rw [kept] at flag
  rcases oldestSequence_retained room short accessEpoch with ⟨none, zero⟩ | ⟨first, member,
    current, least, oldest⟩
  · have never := inEpochs.none_current none
    rw [zero] at flag
    refine ⟨fun _ => .inl never, fun _ => ⟨fun yes => ?_, fun missing => ?_⟩⟩
    · rw [flag] at yes
      cases yes
    · obtain ⟨entry, evicted, same, -⟩ := missing
      exact absurd same (never entry (mem_evictedPosts.mp evicted).1)
  · have numbered := (mem_retainedPosts.mp member).1
    have number := toNat_number short numbered
    have positive := (mem_numberedPosts numbered).1
    have nonzero : ofNat first.2 ≠ 0 := by
      intro zero
      rw [zero, UInt64.toNat_zero] at number
      omega
    rw [oldest] at flag
    simp only [ne_eq, nonzero, not_false_eq_true, decide_true, Bool.true_and] at flag
    have flagged : truncated = true ↔ (afterSequence.toNat + 1) % 2 ^ 64 < first.2 := by
      rw [flag, decide_eq_true_iff, UInt64.lt_iff_toNat_lt, UInt64.toNat_add, number]
      rfl
    have beyond : ∀ entry ∈ evictedPosts posts,
        (afterSequence < ofNat entry.2 ↔ afterSequence.toNat < entry.2) := by
      intro entry evicted
      rw [lt_iff_toNat_lt, toNat_number short (mem_evictedPosts.mp evicted).1]
    have someCurrent : ¬ ∀ entry ∈ numberedPosts posts, entry.1.accessEpoch ≠ accessEpoch :=
      fun none => none first numbered current
    have missing : (∃ entry ∈ evictedPosts posts, entry.1.accessEpoch = accessEpoch ∧
          afterSequence < ofNat entry.2) ↔
        ∃ entry ∈ evictedPosts posts, entry.1.accessEpoch = accessEpoch ∧
          afterSequence.toNat < entry.2 := by
      refine exists_congr fun entry => and_congr_right fun evicted => ?_
      rw [beyond entry evicted]
    rw [flagged, missing, or_iff_right someCurrent]
    have limit := afterSequence.toNat_lt
    by_cases last : afterSequence.toNat + 1 = 2 ^ 64
    · -- the next sequence is zero and below every other, but none is beyond the given one
      rw [last, Nat.mod_self]
      refine ⟨fun same => ?_, fun below => absurd below.1 (Nat.lt_irrefl _)⟩
      obtain ⟨entry, evicted, -, above⟩ := same.mp positive
      have capped := (mem_numberedPosts (mem_evictedPosts.mp evicted).1).2.1
      omega
    · rw [Nat.mod_eq_of_lt (by omega), inEpochs.gap_iff member current least]
      exact (and_iff_right (by omega)).symm

theorem truncation_exact_iff_jamChat :
    let posts := (run (step .framing) {} jamChat).posts (ascii "jam")
    (true = true ↔ ∃ entry ∈ evictedPosts posts, entry.1.accessEpoch = 2 ∧
        (0 : UInt64) < ofNat entry.2) ↔
      ((∀ entry ∈ numberedPosts posts, entry.1.accessEpoch ≠ 2) ∨
        (0 : UInt64).toNat + 1 < 2 ^ 64 ∧
          ((∃ entry ∈ evictedPosts posts, entry.1.accessEpoch = 2) ∨
            ∃ entry ∈ numberedPosts posts, entry.1.accessEpoch = 2 ∧
              entry.2 ≤ (0 : UInt64).toNat + 1)) := by
  refine truncation_exact_iff .framing jamChat (ascii "jam") (ascii "one") 2 0 0 true
    [(⟨2, 7, 0, [1], 2, ascii "hi"⟩ : ChatPost).message (ascii "jam") (ascii "one") 2]
    (few_of_short .framing jamChat (fun _ => Nat.zero_le 0) (by decide)) ?_ ?_
  · decide +kernel
  · decide +kernel

/-- Both messages are retained, and the one of the new epoch is the only one a member may
see; still the answer says that messages are missing. -/
theorem truncated_without_eviction :
    let log := run (step .framing) {} jamChat
    evictedPosts (log.posts (ascii "jam")) = [] ∧
      (log.registry.chatHistorySince (ascii "jam") (ascii "one") 2 0 0).1 = .found true
        [(⟨2, 7, 0, [1], 2, ascii "hi"⟩ : ChatPost).message (ascii "jam") (ascii "one") 2] := by
  decide +kernel

end RegistryLog

end Sesivo
