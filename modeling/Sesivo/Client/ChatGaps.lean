import Sesivo.Client.Chat

set_option autoImplicit false

/- Gaps in the numbering of chat messages. The client asks for a missing message when
a later one shows that it is missing; what it asks for afterwards starts behind the
highest sequence number it has seen. -/

namespace Sesivo

open Octets Run SessionCrypto List

/-- A history request with the sequence numbers received until it was sent, oldest first. -/
structure SentRequest where
  afterSequence : UInt64
  received : List UInt64
deriving DecidableEq

/-- The client's chat with what it has received and asked for since the epoch began. -/
structure ChatLog where
  chat : ClientChat
  received : List UInt64 := []
  requests : List SentRequest := []

/-- The event a datagram brings to `handle_chat_event_message`. -/
def ChatMove.carriedEvent : ChatMove → Option RoomChatEventHdr
  | .event packet =>
    if packet.length < roomChatEventHdrBytes then none else some (RoomChatEventHdr.read packet)
  | .historyResponse packet =>
    let response := RoomChatHistoryResponseHdr.read packet
    if packet.length < roomChatHistoryResponseHdrBytes ∨ response.status ≠ roomStatusOk ∨
        response.flags &&& roomChatHistoryDone ≠ 0 then
      none
    else some response.event
  | _ => none

namespace ClientChat

def openedSequence (sodium : Sodium) (chat : ClientChat) (event : RoomChatEventHdr) :
    Option UInt64 :=
  match chat.openChatEvent sodium event with
  | .opened _ => some event.chatSequence
  | _ => none

/-- The sequence number of the message a move delivers in the clear. -/
def receivedSequence (sodium : Sodium) (chat : ClientChat) (move : ChatMove) : Option UInt64 :=
  move.carriedEvent.bind (chat.openedSequence sodium)

end ClientChat

def ChatDatagram.asksAfter : ChatDatagram → Option UInt64
  | .send _ => none
  | .historyRequest request => some request.afterSequence

/-- What the history requests sent since `before` ask for. -/
def ClientChat.askedSince (before chat : ClientChat) : List UInt64 :=
  (chat.sent.drop before.sent.length).filterMap ChatDatagram.asksAfter

namespace ChatLog

def start (chat : ClientChat) : ChatLog where
  chat := chat.clearChatState

def step (sodium : Sodium) (log : ChatLog) (input : ChatAmbient × ChatMove) : ChatLog :=
  let chat := log.chat.step sodium input
  let received := log.received ++ (log.chat.receivedSequence sodium input.2).toList
  { chat := chat
    received := received
    requests := log.requests ++
      (log.chat.askedSince chat).map fun afterSequence => ⟨afterSequence, received⟩ }

end ChatLog

/-- Between the first message received and the point a request starts from, nothing
is missing. -/
def SentRequest.NothingMissing (request : SentRequest) : Prop :=
  ∀ first, request.received.head? = some first →
    ∀ sequence, first ≤ sequence → sequence ≤ request.afterSequence → sequence ∈ request.received

/-- Not received, although the first numbered message received came before it. -/
def Missing (received : List UInt64) (sequence : UInt64) : Prop :=
  sequence ∉ received ∧ ∃ first, received.find? (· ≠ 0) = some first ∧ first < sequence

/-- The request asks for a message that a later one had shown to be missing. -/
structure SentRequest.Recovers (request : SentRequest) (sequence : UInt64) : Prop where
  asks : request.afterSequence < sequence
  missing : Missing request.received sequence
  noticed : ∃ later ∈ request.received, sequence < later

/-- What a request leaves out, an earlier one has asked for; and every message that is
missing in a gap has been asked for. -/
structure ChatLog.GapsRequested (log : ChatLog) : Prop where
  skipped : ∀ earlier request, earlier ++ [request] <+: log.requests →
    ∀ sequence, Missing request.received sequence → sequence ≤ request.afterSequence →
      ∃ asked ∈ earlier, asked.Recovers sequence
  missed : ∀ sequence, Missing log.received sequence → (∃ later ∈ log.received, sequence < later) →
    ∃ asked ∈ log.requests, asked.Recovers sequence

namespace ClientChat

variable {sodium : Sodium}

theorem openChatEvent_session {chat other : ClientChat}
    (same : chat.joinSession = other.joinSession) (event : RoomChatEventHdr) :
    chat.openChatEvent sodium event = other.openChatEvent sodium event := by
  unfold openChatEvent currentChatKey chatAvailable
  rw [same]

theorem available_of_opened {chat : ClientChat} {event : RoomChatEventHdr} {plaintext : Octets}
    (opened : chat.openChatEvent sodium event = .opened plaintext) : chat.chatAvailable = true := by
  by_contra unavailable
  have keyless : currentChatKey sodium chat = none := by rw [currentChatKey, if_neg unavailable]
  simp only [openChatEvent, keyless] at opened
  split at opened <;> cases opened

theorem askedSince_self (before chat : ClientChat) (same : chat.sent = before.sent) :
    before.askedSince chat = [] := by
  rw [askedSince, same, drop_length, filterMap_nil]

theorem askedSince_request {before chat : ClientChat} (same : chat.sent = before.sent)
    (afterSequence : UInt64) :
    before.askedSince (chat.requestHistoryAfter afterSequence) =
      if chat.chatAvailable then [afterSequence] else [] := by
  unfold requestHistoryAfter
  by_cases available : chat.chatAvailable = true
  · rw [if_pos available, if_pos available]
    simp [askedSince, same, ChatDatagram.asksAfter]
  · rw [if_neg available, if_neg available]
    exact askedSince_self before chat same

/-- Nothing was delivered; at most the messages behind the last seen one were asked for. -/
structure Quiet (before after : ClientChat) : Prop where
  messages : after.messages = before.messages
  lastSeen : after.lastSeenChatSequence = before.lastSeenChatSequence
  asked : before.askedSince after = [] ∨
    before.askedSince after = [before.lastSeenChatSequence]

/-- A message was taken in, and a gap before it was asked for. -/
structure Delivered (before after : ClientChat) (sequence : UInt64) : Prop where
  messages : ∀ message ∈ after.messages, message.sequence = sequence ∨ message ∈ before.messages
  lastSeen : after.lastSeenChatSequence =
    if before.lastSeenChatSequence < sequence then sequence else before.lastSeenChatSequence
  asked : before.askedSince after =
    if before.lastSeenChatSequence + 1 < sequence ∧ before.lastSeenChatSequence ≠ 0 then
      [before.lastSeenChatSequence]
    else []

/-- The message is in the list already; nothing but a pending entry changes. -/
structure Repeated (before after : ClientChat) (sequence : UInt64) : Prop where
  known : ∃ message ∈ before.messages, message.sequence = sequence
  messages : after.messages = before.messages
  lastSeen : after.lastSeenChatSequence = before.lastSeenChatSequence
  asked : before.askedSince after = []

/-- What a move that delivers the given message, if any, does. -/
inductive Moved (before after : ClientChat) : Option UInt64 → Prop where
  | quiet (shape : Quiet before after) : Moved before after none
  | repeated {sequence : UInt64} (shape : Repeated before after sequence) :
      Moved before after (some sequence)
  | delivered {sequence : UInt64} (shape : Delivered before after sequence) :
      Moved before after (some sequence)

/-- Nothing was delivered, and nothing was sent. -/
structure Same (before after : ClientChat) : Prop where
  messages : after.messages = before.messages
  lastSeen : after.lastSeenChatSequence = before.lastSeenChatSequence
  sent : after.sent = before.sent

variable {before chat : ClientChat}

theorem quiet_of_same (same : Same before chat) : Quiet before chat :=
  ⟨same.messages, same.lastSeen, Or.inl (askedSince_self before chat same.sent)⟩

theorem quiet_of_request (same : Same before chat) :
    Quiet before (chat.requestHistoryAfter before.lastSeenChatSequence) := by
  constructor
  · rw [requestHistoryAfter_messages, same.messages]
  · rw [requestHistoryAfter_lastSeen, same.lastSeen]
  rw [askedSince_request same.sent]
  split
  · exact Or.inr rfl
  · exact Or.inl rfl

theorem sendChatMessage_quiet (chat : ClientChat) (ambient : ChatAmbient) (text : Octets) :
    Quiet chat (chat.sendChatMessage sodium ambient text).1 := by
  unfold sendChatMessage
  split
  · exact quiet_of_same ⟨rfl, rfl, rfl⟩
  split
  · exact quiet_of_same ⟨rfl, rfl, rfl⟩
  split
  · exact quiet_of_same ⟨rfl, rfl, rfl⟩
  simp only
  split
  · exact quiet_of_same ⟨rfl, rfl, rfl⟩
  split
  · exact quiet_of_same ⟨rfl, rfl, rfl⟩
  split
  · exact quiet_of_same ⟨rfl, rfl, rfl⟩
  refine ⟨rfl, rfl, Or.inl ?_⟩
  simp [askedSince, filterMap_cons, ChatDatagram.asksAfter]

theorem chatTimerCallback_quiet (chat : ClientChat) (now : Time) :
    Quiet chat (chat.chatTimerCallback now) := by
  unfold chatTimerCallback
  split
  · exact quiet_of_same ⟨rfl, rfl, rfl⟩
  simp only
  split
  · exact quiet_of_request ⟨rfl, rfl, rfl⟩
  · exact quiet_of_same ⟨rfl, rfl, rfl⟩

theorem setChatDialogOpen_quiet (chat : ClientChat) (opened : Bool) :
    Quiet chat (chat.setChatDialogOpen opened) := by
  unfold setChatDialogOpen
  split
  · exact quiet_of_request ⟨rfl, rfl, rfl⟩
  · exact quiet_of_same ⟨rfl, rfl, rfl⟩

theorem handleChatRejectedMessage_quiet (chat : ClientChat) (packet : Octets) :
    Quiet chat (chat.handleChatRejectedMessage packet) := by
  unfold handleChatRejectedMessage
  split
  · exact quiet_of_same ⟨rfl, rfl, rfl⟩
  simp only
  split <;> exact quiet_of_same ⟨rfl, rfl, rfl⟩

theorem confirmStale_quiet (same : Same before chat) (now : Time) :
    Quiet before (chat.confirmStaleChatPendingAfterHistory now) := by
  unfold confirmStaleChatPendingAfterHistory
  simp only
  split <;> exact quiet_of_same { same with }

theorem mem_insertMessage {messages : List ClientChatMessage} {message other : ClientChatMessage}
    (member : other ∈ insertMessage messages message) : other = message ∨ other ∈ messages := by
  unfold insertMessage at member
  have sorted : other ∈ (messages ++ [message]).mergeSort
      fun left right => left.sequence ≤ right.sequence := by
    simp only at member
    split at member
    · exact mem_of_mem_drop member
    · exact member
  rcases mem_append.mp (mem_mergeSort.mp sorted) with old | new
  · exact Or.inr old
  · exact Or.inl (mem_singleton.mp new)

/-- Taking a message in, while the chat is available. -/
theorem acceptChatMessage_moved (same : Same before chat) (available : chat.chatAvailable = true)
    (ambient : ChatAmbient) (event : RoomChatEventHdr) (plaintext : Octets) :
    Moved before (chat.acceptChatMessage ambient event plaintext) (some event.chatSequence) := by
  obtain ⟨messages, lastSeen, sent⟩ := same
  unfold acceptChatMessage
  by_cases present : (chat.messages.any fun message => message.sequence = event.chatSequence) = true
  · rw [if_pos present]
    obtain ⟨message, member, same⟩ := any_eq_true.mp present
    rw [messages] at member
    exact .repeated ⟨⟨message, member, of_decide_eq_true same⟩, messages, lastSeen,
      askedSince_self _ _ sent⟩
  · rw [if_neg present]
    apply Moved.delivered
    simp only [lastSeen, messages, Bool.and_eq_true, decide_eq_true_eq]
    have origin (other : ClientChatMessage) (message : ClientChatMessage)
        (numbered : message.sequence = event.chatSequence)
        (member : other ∈ insertMessage before.messages message) :
        other.sequence = event.chatSequence ∨ other ∈ before.messages := by
      rcases mem_insertMessage member with rfl | old
      · exact Or.inl numbered
      · exact Or.inr old
    by_cases gap : before.lastSeenChatSequence + 1 < event.chatSequence ∧
        before.lastSeenChatSequence ≠ 0
    · rw [if_pos gap]
      constructor
      · intro other member
        rw [requestHistoryAfter_messages] at member
        exact origin other _ rfl member
      · rw [requestHistoryAfter_lastSeen]
      rw [if_pos gap, askedSince_request]
      · exact if_pos available
      · exact sent
    · rw [if_neg gap]
      constructor
      · intro other member
        exact origin other _ rfl member
      · rfl
      · rw [if_neg gap]
        exact askedSince_self _ _ sent

theorem handleChatEvent_moved (session : chat.joinSession = before.joinSession)
    (same : Same before chat) (ambient : ChatAmbient) (event : RoomChatEventHdr) :
    Moved before (chat.handleChatEvent sodium ambient event)
      (before.openedSequence sodium event) := by
  unfold handleChatEvent openedSequence
  rw [← openChatEvent_session session event]
  cases opening : chat.openChatEvent sodium event with
  | ignored | undecryptable => exact .quiet (quiet_of_same { same with })
  | opened plaintext =>
    exact acceptChatMessage_moved same (available_of_opened opening) ambient event plaintext

theorem handleChatEventMessage_moved (chat : ClientChat) (ambient : ChatAmbient) (packet : Octets) :
    Moved chat (chat.handleChatEventMessage sodium ambient packet)
      (chat.receivedSequence sodium (.event packet)) := by
  simp only [handleChatEventMessage, receivedSequence, ChatMove.carriedEvent]
  by_cases short : packet.length < roomChatEventHdrBytes
  · rw [if_pos short, if_pos short]
    exact .quiet (quiet_of_same ⟨rfl, rfl, rfl⟩)
  · rw [if_neg short, if_neg short]
    exact handleChatEvent_moved rfl ⟨rfl, rfl, rfl⟩ ambient _

theorem handleChatHistoryResponseMessage_moved (chat : ClientChat) (ambient : ChatAmbient)
    (packet : Octets) :
    Moved chat (chat.handleChatHistoryResponseMessage sodium ambient packet)
      (chat.receivedSequence sodium (.historyResponse packet)) := by
  simp only [handleChatHistoryResponseMessage, receivedSequence, ChatMove.carriedEvent]
  by_cases short : packet.length < roomChatHistoryResponseHdrBytes
  · rw [if_pos short, if_pos (Or.inl short)]
    exact .quiet (quiet_of_same ⟨rfl, rfl, rfl⟩)
  rw [if_neg short]
  by_cases failed : (RoomChatHistoryResponseHdr.read packet).status ≠ roomStatusOk
  · rw [if_pos failed, if_pos (Or.inr (Or.inl failed))]
    exact .quiet (quiet_of_same ⟨rfl, rfl, rfl⟩)
  rw [if_neg failed]
  -- the note about a truncated history changes neither the session nor the messages
  generalize noted : (if (RoomChatHistoryResponseHdr.read packet).flags &&&
      roomChatHistoryTruncated ≠ 0 then _ else chat) = after
  have session : after.joinSession = chat.joinSession := by
    rw [← noted]
    split <;> rfl
  have same : Same chat after := by
    rw [← noted]
    split <;> exact ⟨rfl, rfl, rfl⟩
  by_cases closing : (RoomChatHistoryResponseHdr.read packet).flags &&& roomChatHistoryDone ≠ 0
  · rw [if_pos closing, if_pos (Or.inr (Or.inr closing))]
    exact .quiet (confirmStale_quiet same ambient.now)
  rw [if_neg closing, if_neg]
  · exact handleChatEvent_moved session same ambient _
  · simp only [not_or]
    exact ⟨short, failed, closing⟩

/-- Every move is quiet or delivers one message. -/
theorem step_moved (chat : ClientChat) (ambient : ChatAmbient) (move : ChatMove) :
    Moved chat (chat.step sodium (ambient, move)) (chat.receivedSequence sodium move) := by
  cases move with
  | event packet => exact chat.handleChatEventMessage_moved ambient packet
  | rejected packet => exact .quiet (chat.handleChatRejectedMessage_quiet packet)
  | historyResponse packet => exact chat.handleChatHistoryResponseMessage_moved ambient packet
  | timer => exact .quiet (chat.chatTimerCallback_quiet ambient.now)
  | setDialogOpen opened => exact .quiet (chat.setChatDialogOpen_quiet opened)
  | requestHistory => exact .quiet (quiet_of_request ⟨rfl, rfl, rfl⟩)
  | send text => exact .quiet (chat.sendChatMessage_quiet ambient text)
  | join state => exact .quiet (quiet_of_same ⟨rfl, rfl, rfl⟩)

end ClientChat

theorem Missing.of_concat {received : List UInt64} {sequence later : UInt64}
    (missing : Missing (received ++ [later]) sequence) :
    Missing received sequence ∨
      received.find? (· ≠ 0) = none ∧ later ≠ 0 ∧ later < sequence := by
  obtain ⟨absent, first, found, below⟩ := missing
  rw [mem_append, not_or] at absent
  rw [find?_append] at found
  cases before : received.find? (· ≠ 0) with
  | some other =>
    rw [before, Option.some_or] at found
    exact Or.inl ⟨absent.1, first, before.trans found, below⟩
  | none =>
    rw [before, Option.none_or] at found
    have same : later = first := mem_singleton.mp (mem_of_find?_eq_some found) |>.symm
    have numbered := find?_some found
    rw [← same] at numbered below
    exact Or.inr ⟨rfl, of_decide_eq_true numbered, below⟩

namespace ChatLog

/-- What ties the client's counter to what it has received and asked for. -/
structure Tracked (log : ChatLog) : Prop where
  bounded : ∀ sequence ∈ log.received, sequence ≤ log.chat.lastSeenChatSequence
  attained : log.chat.lastSeenChatSequence ≠ 0 → log.chat.lastSeenChatSequence ∈ log.received
  listed : ∀ message ∈ log.chat.messages, message.sequence ∈ log.received
  covered : ∀ sequence, Missing log.received sequence →
    sequence ≤ log.chat.lastSeenChatSequence → ∃ asked ∈ log.requests, asked.Recovers sequence
  skipped : ∀ earlier request, earlier ++ [request] <+: log.requests →
    ∀ sequence, Missing request.received sequence → sequence ≤ request.afterSequence →
      ∃ asked ∈ earlier, asked.Recovers sequence

theorem tracked_start (chat : ClientChat) : (start chat).Tracked where
  bounded := by
    intro sequence member
    cases member
  attained := by
    intro nonzero
    exact absurd rfl nonzero
  listed := by
    intro message member
    cases member
  covered := by
    intro sequence missing
    obtain ⟨_, first, found, _⟩ := missing
    cases found
  skipped := by
    intro earlier request part
    have length := part.length_le
    simp only [start, length_append, length_singleton, length_nil] at length
    omega

theorem gapsRequested_of_tracked {log : ChatLog} (tracked : log.Tracked) : log.GapsRequested where
  skipped := tracked.skipped
  missed := by
    intro sequence missing noticed
    obtain ⟨later, member, below⟩ := noticed
    apply tracked.covered sequence missing
    exact UInt64.le_trans (UInt64.le_of_lt below) (tracked.bounded later member)

/-- One more request, which leaves out only what was asked for before. -/
theorem skipped_concat {requests : List SentRequest} {request : SentRequest}
    (skipped : ∀ earlier request, earlier ++ [request] <+: requests →
      ∀ sequence, Missing request.received sequence → sequence ≤ request.afterSequence →
        ∃ asked ∈ earlier, asked.Recovers sequence)
    (covered : ∀ sequence, Missing request.received sequence →
      sequence ≤ request.afterSequence → ∃ asked ∈ requests, asked.Recovers sequence) :
    ∀ earlier other, earlier ++ [other] <+: requests ++ [request] →
      ∀ sequence, Missing other.received sequence → sequence ≤ other.afterSequence →
        ∃ asked ∈ earlier, asked.Recovers sequence := by
  intro earlier other part
  rcases prefix_concat_iff.mp part with whole | before
  · obtain ⟨rfl, last⟩ := append_inj' whole rfl
    rw [singleton_inj.mp last]
    exact covered
  · exact skipped earlier other before

namespace Tracked

variable {log : ChatLog} {chat : ClientChat}

/-- Before the first numbered message the counter is zero. -/
theorem lastSeen_eq_zero (tracked : log.Tracked)
    (unnumbered : log.received.find? (· ≠ 0) = none) : log.chat.lastSeenChatSequence = 0 := by
  by_contra nonzero
  have absent := find?_eq_none.mp unnumbered _ (tracked.attained nonzero)
  exact absent (decide_eq_true nonzero)

theorem quiet (tracked : log.Tracked) (shape : ClientChat.Quiet log.chat chat) :
    Tracked ⟨chat, log.received, log.requests ++
      (log.chat.askedSince chat).map fun afterSequence => ⟨afterSequence, log.received⟩⟩ := by
  constructor
  · simp only [shape.lastSeen]
    exact tracked.bounded
  · simp only [shape.lastSeen]
    exact tracked.attained
  · simp only [shape.messages]
    exact tracked.listed
  · simp only [shape.lastSeen]
    intro sequence missing within
    obtain ⟨asked, member, recovers⟩ := tracked.covered sequence missing within
    exact ⟨asked, mem_append_left _ member, recovers⟩
  · rcases shape.asked with none | behind
    · simp only [none, map_nil, append_nil]
      exact tracked.skipped
    · simp only [behind, map_singleton]
      exact skipped_concat tracked.skipped tracked.covered

variable {sequence : UInt64}

theorem repeated (tracked : log.Tracked)
    (shape : ClientChat.Repeated log.chat chat sequence) :
    Tracked ⟨chat, log.received ++ [sequence], log.requests⟩ := by
  obtain ⟨message, member, numbered⟩ := shape.known
  have present : sequence ∈ log.received := by
    rw [← numbered]
    exact tracked.listed message member
  constructor
  · simp only [shape.lastSeen, forall_mem_append, forall_mem_singleton]
    exact ⟨tracked.bounded, tracked.bounded sequence present⟩
  · simp only [shape.lastSeen]
    intro nonzero
    exact mem_append_left _ (tracked.attained nonzero)
  · simp only [shape.messages]
    intro other part
    exact mem_append_left _ (tracked.listed other part)
  · simp only [shape.lastSeen]
    intro lost missing within
    rcases missing.of_concat with missing | ⟨unnumbered, nonzero, -⟩
    · exact tracked.covered lost missing within
    · have zero := find?_eq_none.mp unnumbered sequence present
      exact absurd (decide_eq_true nonzero) zero
  · exact tracked.skipped

/-- What is missing behind the counter is missing without the newest message as well. -/
theorem missing_before (tracked : log.Tracked) {sequence lost : UInt64}
    (missing : Missing (log.received ++ [sequence]) lost)
    (within : lost ≤ log.chat.lastSeenChatSequence ∨ lost ≤ sequence) :
    Missing log.received lost := by
  rcases missing.of_concat with missing | ⟨unnumbered, -, below⟩
  · exact missing
  have zero := tracked.lastSeen_eq_zero unnumbered
  rw [zero] at within
  simp only [UInt64.le_iff_toNat_le, UInt64.toNat_zero] at within
  have bound := UInt64.lt_iff_toNat_lt.mp below
  omega

/-- A number that the newest message jumps over leaves a gap that the client notices. -/
theorem gap_noticed (tracked : log.Tracked) {sequence lost : UInt64}
    (missing : Missing log.received lost) (ahead : log.chat.lastSeenChatSequence < lost)
    (below : lost < sequence) :
    log.chat.lastSeenChatSequence + 1 < sequence ∧ log.chat.lastSeenChatSequence ≠ 0 := by
  obtain ⟨-, first, found, -⟩ := missing
  have chosen := find?_some found
  have numbered : first ≠ 0 := of_decide_eq_true chosen
  have within := tracked.bounded first (mem_of_find?_eq_some found)
  constructor
  · -- the counter is below another number, so adding one does not wrap
    rw [UInt64.lt_iff_toNat_lt] at ahead below ⊢
    have limit := lost.toNat_lt
    rw [UInt64.toNat_add, UInt64.toNat_one, Nat.mod_eq_of_lt (by omega)]
    omega
  · intro zero
    rw [zero, UInt64.le_iff_toNat_le, UInt64.toNat_zero] at within
    exact numbered (UInt64.toNat_inj.mp (by rw [UInt64.toNat_zero]; omega))

/-- A message that jumps ahead of the counter leaves a gap, which is asked for at once. -/
theorem delivered (tracked : log.Tracked)
    (shape : ClientChat.Delivered log.chat chat sequence) :
    Tracked ⟨chat, log.received ++ [sequence], log.requests ++
      (log.chat.askedSince chat).map fun afterSequence =>
        ⟨afterSequence, log.received ++ [sequence]⟩⟩ := by
  constructor
  · simp only [shape.lastSeen, forall_mem_append, forall_mem_singleton]
    by_cases ahead : log.chat.lastSeenChatSequence < sequence
    · rw [if_pos ahead]
      refine ⟨?_, UInt64.le_refl sequence⟩
      intro other member
      exact UInt64.le_trans (tracked.bounded other member) (UInt64.le_of_lt ahead)
    · rw [if_neg ahead]
      exact ⟨tracked.bounded, UInt64.not_lt.mp ahead⟩
  · simp only [shape.lastSeen]
    by_cases ahead : log.chat.lastSeenChatSequence < sequence
    · rw [if_pos ahead]
      intro _
      exact mem_append_right _ (mem_singleton.mpr rfl)
    rw [if_neg ahead]
    intro nonzero
    exact mem_append_left _ (tracked.attained nonzero)
  · intro message member
    rcases shape.messages message member with rfl | old
    · exact mem_append_right _ (mem_singleton.mpr rfl)
    · exact mem_append_left _ (tracked.listed message old)
  · intro lost missing within
    have reach : lost ≤ log.chat.lastSeenChatSequence ∨ lost ≤ sequence := by
      simp only [shape.lastSeen] at within
      split at within
      · exact Or.inr within
      · exact Or.inl within
    have before := tracked.missing_before missing reach
    by_cases passed : lost ≤ log.chat.lastSeenChatSequence
    · obtain ⟨asked, member, recovers⟩ := tracked.covered lost before passed
      exact ⟨asked, mem_append_left _ member, recovers⟩
    have ahead := UInt64.not_le.mp passed
    have apart : lost ≠ sequence := by
      intro same
      exact missing.1 (mem_append_right _ (mem_singleton.mpr same))
    have below : lost < sequence := UInt64.lt_of_le_of_ne (reach.resolve_left passed) apart
    rw [shape.asked, if_pos (tracked.gap_noticed before ahead below)]
    refine ⟨⟨log.chat.lastSeenChatSequence, log.received ++ [sequence]⟩,
      mem_append_right _ (mem_singleton.mpr rfl), ahead, missing, sequence, ?_, below⟩
    exact mem_append_right _ (mem_singleton.mpr rfl)
  · rw [shape.asked]
    split
    · apply skipped_concat tracked.skipped
      intro lost missing within
      exact tracked.covered lost (tracked.missing_before missing (Or.inl within)) within
    · rw [map_nil, append_nil]
      exact tracked.skipped

theorem step {sodium : Sodium} (tracked : log.Tracked) (input : ChatAmbient × ChatMove) :
    (log.step sodium input).Tracked := by
  have moved := @ClientChat.step_moved sodium log.chat input.1 input.2
  unfold ChatLog.step
  generalize log.chat.receivedSequence sodium input.2 = received at moved
  cases moved with
  | quiet shape =>
    simp only [Option.toList_none, append_nil]
    exact tracked.quiet shape
  | repeated shape =>
    simp only [Option.toList_some, shape.asked, map_nil, append_nil]
    exact tracked.repeated shape
  | delivered shape => exact tracked.delivered shape

end Tracked

/-- In every run of an epoch, what a history request leaves out has been asked for
before, and every gap has been asked for after it was noticed. -/
theorem run_gapsRequested (sodium : Sodium) (chat : ClientChat)
    (inputs : List (ChatAmbient × ChatMove)) :
    (run (step sodium) (start chat) inputs).GapsRequested := by
  apply gapsRequested_of_tracked
  refine invariant (step sodium) Tracked ?_ (start chat) inputs (tracked_start chat)
  intro log input tracked
  exact tracked.step input

def jamChat : ClientChat where
  joinSession :=
    { options :=
        { roomId := ascii "jam"
          roomInstanceId := ascii "jam-1"
          mediaSecret := ascii "secret"
          accessEpoch := 1 }
      state :=
        { joinConfirmed := true
          participantId := 2 } }

/-- A chat event of participant 1, sealed with the room's chat key. -/
def jamEvent (sequence : Nat) : Octets :=
  let metadata : ChatMetadata :=
    { roomId := ascii "jam"
      roomInstanceId := ascii "jam-1"
      senderId := 1
      accessEpoch := 1
      nonce := replicate 12 0 }
  let ciphertext := (jamChat.currentChatKey Sodium.framing).bind fun key =>
    sealChatMessage Sodium.framing key metadata (ascii "hi") roomChatCiphertextMaxBytes
  leBytes 4 ctrlMagic.toNat ++ [21] ++ leBytes 4 1 ++ leBytes 4 0 ++ leBytes 4 1 ++
    leBytes 8 sequence ++ leBytes 8 0 ++ leBytes 2 18 ++ leBytes 2 0 ++ padded 64 (ascii "jam") ++
    padded 64 (ascii "jam-1") ++ replicate 12 0 ++ padded 1024 (ciphertext.getD [])

/-- The first and the third message arrive, then the dialog is opened. -/
def jamMoves : List (ChatAmbient × ChatMove) :=
  let ambient : ChatAmbient :=
    { now := 0
      nonce := replicate 12 0
      participants := [] }
  [(ambient, .event (jamEvent 1)), (ambient, .event (jamEvent 3)),
    (ambient, .setDialogOpen true)]

theorem jamMoves_requests :
    (run (step Sodium.framing) (start jamChat) jamMoves).requests = [⟨1, [1, 3]⟩, ⟨3, [1, 3]⟩] := by
  decide +kernel

/-- Opening the dialog asks for what comes after the third message, while the second
one is missing. -/
theorem jamMoves_skips :
    ¬ ∀ request ∈ (run (step Sodium.framing) (start jamChat) jamMoves).requests,
      request.NothingMissing := by
  rw [jamMoves_requests]
  intro complete
  have second := complete ⟨3, [1, 3]⟩ (by decide) 1 rfl 2 (by decide) (by decide)
  revert second
  decide

end ChatLog

end Sesivo
