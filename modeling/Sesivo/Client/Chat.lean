import Sesivo.ChatCrypto
import Sesivo.Client.JoinSession
import Sesivo.Lib.Run
import Sesivo.Lib.Store

set_option autoImplicit false

/- The client's side of room chat within one access epoch, `client_runtime.cpp`. The
clock, the nonces drawn and the participants' names are ambient; what the client
sends is recorded in the order of sending. -/

namespace Sesivo

open Octets SessionCrypto

def clientChatRetainedMessages : Nat := 100

/-- Two seconds, in the ticks of the steady clock. -/
def chatConfirmationTimeout : Time := 2000000000

structure ClientChatMessage where
  sequence : UInt64
  senderId : UInt32
  accessEpoch : UInt32
  serverTimeMs : Int
  senderName : Octets
  text : Octets
  localSender : Bool
deriving DecidableEq

structure PendingChatMessage where
  nonce : Octets
  text : Octets
  sentAt : Time
  historyRequested : Bool

inductive ChatDatagram where
  | send (request : RoomChatSendHdr)
  | historyRequest (request : RoomChatHistoryRequestHdr)

structure ParticipantNames where
  id : UInt32
  displayName : Octets
  profileId : Octets

structure ChatAmbient where
  now : Time
  nonce : Octets
  participants : List ParticipantNames

structure ClientChat where
  joinSession : ClientJoinSession
  messages : List ClientChatMessage := []
  pendingMessages : Store Octets PendingChatMessage := ∅
  lastSeenChatSequence : UInt64 := 0
  unreadCount : Nat := 0
  dialogOpen : Bool := false
  historyTruncated : Bool := false
  status : Octets := []
  retryText : Octets := []
  requestId : UInt32 := 1
  sent : List ChatDatagram := []

/-- What becomes of an event before it reaches the list of messages. -/
inductive ChatOpening where
  | ignored
  | undecryptable
  | opened (plaintext : Octets)

namespace ClientChat

variable (chat : ClientChat)

def clearChatState : ClientChat :=
  { chat with
    messages := []
    pendingMessages := ∅
    lastSeenChatSequence := 0
    unreadCount := 0
    historyTruncated := false
    status := []
    retryText := [] }

def chatAvailable : Bool :=
  chat.joinSession.isJoinConfirmed && chat.joinSession.participantId ≠ 0 &&
    chat.joinSession.options.roomId ≠ [] && chat.joinSession.options.roomInstanceId ≠ [] &&
    chat.joinSession.options.accessEpoch ≠ 0 && chat.joinSession.hasMediaSecret

def chatSenderName (participants : List ParticipantNames) (senderId : UInt32) : Octets :=
  if senderId = chat.joinSession.participantId then ascii "You"
  else
    let shown := participants.findSome? fun participant =>
      if participant.id ≠ senderId then none
      else if participant.displayName ≠ [] then some participant.displayName
      else if participant.profileId ≠ [] then some participant.profileId
      else none
    shown.getD (ascii "Participant " ++ decimal senderId.toNat)

variable (sodium : Sodium)

def currentChatKey (chat : ClientChat) : Option Octets :=
  if chat.chatAvailable then
    deriveChatKeyFromSecret sodium chat.joinSession.options.roomId
      chat.joinSession.options.roomInstanceId chat.joinSession.options.mediaSecret
  else none

/-- The answer says whether the message left the client. -/
def sendChatMessage (chat : ClientChat) (ambient : ChatAmbient)
    (text : Octets) : ClientChat × Bool :=
  if text = [] then ({ chat with status := ascii "Message is empty" }, false)
  else if roomChatPlaintextMaxBytes < text.length then
    ({ chat with status := ascii "Message is too long" }, false)
  else
    match currentChatKey sodium chat with
    | none =>
      ({ chat with status := ascii "Chat unavailable until the room key is present" }, false)
    | some key =>
      let session := chat.joinSession
      let numbered := { chat with requestId := chat.requestId + 1 }
      let metadata : ChatMetadata :=
        { roomId := session.options.roomId
          roomInstanceId := session.options.roomInstanceId
          senderId := session.participantId
          accessEpoch := session.options.accessEpoch
          nonce := ambient.nonce }
      if sodium.initialized = false then
        ({ numbered with status := ascii "Could not create chat nonce" }, false)
      else
        match sealChatMessage sodium key metadata text roomChatCiphertextMaxBytes with
        | none => ({ numbered with status := ascii "Could not encrypt chat message" }, false)
        | some ciphertext =>
          if ciphertext.length = 0 ∨ 65535 < ciphertext.length then
            ({ numbered with status := ascii "Could not encrypt chat message" }, false)
          else
            let request : RoomChatSendHdr :=
              { participantId := session.participantId
                requestId := chat.requestId
                accessEpoch := session.options.accessEpoch
                ciphertextBytes := UInt16.ofNat ciphertext.length
                roomId := padded 64 (writeFixed 64 session.options.roomId)
                roomInstanceId := padded 64 (writeFixed 64 session.options.roomInstanceId)
                nonce := ambient.nonce
                ciphertext := padded 1024 ciphertext }
            let pending : PendingChatMessage :=
              { nonce := ambient.nonce
                text := text
                sentAt := ambient.now
                historyRequested := false }
            ({ numbered with
                pendingMessages := chat.pendingMessages.insert ambient.nonce pending
                status := ascii "Sending..."
                retryText := []
                sent := chat.sent ++ [.send request] }, true)

variable (afterSequence : UInt64)

/-- `request_chat_history_on_io` -/
def requestHistoryAfter : ClientChat :=
  if chat.chatAvailable then
    let options := chat.joinSession.options
    let request : RoomChatHistoryRequestHdr :=
      { requestId := chat.requestId
        accessEpoch := options.accessEpoch
        afterSequence := afterSequence
        roomId := padded 64 (writeFixed 64 options.roomId)
        roomInstanceId := padded 64 (writeFixed 64 options.roomInstanceId) }
    { chat with
      requestId := chat.requestId + 1
      sent := chat.sent ++ [.historyRequest request] }
  else chat

@[simp] theorem requestHistoryAfter_messages :
    (chat.requestHistoryAfter afterSequence).messages = chat.messages := by
  unfold requestHistoryAfter
  split <;> rfl

@[simp] theorem requestHistoryAfter_lastSeen :
    (chat.requestHistoryAfter afterSequence).lastSeenChatSequence = chat.lastSeenChatSequence := by
  unfold requestHistoryAfter
  split <;> rfl

/-- The list after `push_back`, `sort` and the cut to the newest messages. -/
def insertMessage (messages : List ClientChatMessage) (message : ClientChatMessage) :
    List ClientChatMessage :=
  let sorted := (messages ++ [message]).mergeSort fun left right => left.sequence ≤ right.sequence
  if clientChatRetainedMessages < sorted.length then
    sorted.drop (sorted.length - clientChatRetainedMessages)
  else sorted

def acceptChatMessage (ambient : ChatAmbient) (event : RoomChatEventHdr)
    (plaintext : Octets) : ClientChat :=
  let localSender := decide (event.participantId = chat.joinSession.participantId)
  if chat.messages.any fun message => message.sequence = event.chatSequence then
    { chat with pendingMessages := chat.pendingMessages.erase event.nonce }
  else
    let lastSeen := chat.lastSeenChatSequence
    -- the sum wraps around like the source's 64-bit one
    let requestHistory := decide (lastSeen + 1 < event.chatSequence) && decide (lastSeen ≠ 0)
    let message : ClientChatMessage :=
      { sequence := event.chatSequence
        senderId := event.participantId
        accessEpoch := event.accessEpoch
        serverTimeMs := event.serverTimeMs
        senderName := chat.chatSenderName ambient.participants event.participantId
        text := plaintext
        localSender := localSender }
    let accepted :=
      { chat with
        lastSeenChatSequence :=
          if lastSeen < event.chatSequence then event.chatSequence else lastSeen
        messages := insertMessage chat.messages message
        pendingMessages := chat.pendingMessages.erase event.nonce
        unreadCount :=
          if chat.dialogOpen = false ∧ localSender = false then chat.unreadCount + 1
          else chat.unreadCount
        status := [] }
    if requestHistory then accepted.requestHistoryAfter lastSeen else accepted

/-- The checks of `handle_chat_event_message` up to the decrypted text. -/
def openChatEvent (chat : ClientChat) (event : RoomChatEventHdr) : ChatOpening :=
  let options := chat.joinSession.options
  if event.ciphertextBytes = 0 ∨ roomChatCiphertextMaxBytes < event.ciphertextBytes.toNat ∨
      fixedString event.roomId ≠ options.roomId ∨
      fixedString event.roomInstanceId ≠ options.roomInstanceId ∨
      event.accessEpoch ≠ options.accessEpoch then
    .ignored
  else
    match currentChatKey sodium chat with
    | none => .ignored
    | some key =>
      let metadata : ChatMetadata :=
        { roomId := fixedString event.roomId
          roomInstanceId := fixedString event.roomInstanceId
          senderId := event.participantId
          accessEpoch := event.accessEpoch
          nonce := event.nonce }
      match openChatMessage sodium key metadata
          (event.ciphertext.take event.ciphertextBytes.toNat) roomChatPlaintextMaxBytes with
      | none => .undecryptable
      | some plaintext => .opened plaintext

def handleChatEvent (chat : ClientChat) (ambient : ChatAmbient)
    (event : RoomChatEventHdr) : ClientChat :=
  match openChatEvent sodium chat event with
  | .ignored => chat
  | .undecryptable => { chat with status := ascii "Could not decrypt a chat message" }
  | .opened plaintext => chat.acceptChatMessage ambient event plaintext

def handleChatEventMessage (chat : ClientChat) (ambient : ChatAmbient)
    (packet : Octets) : ClientChat :=
  if packet.length < roomChatEventHdrBytes then chat
  else chat.handleChatEvent sodium ambient (RoomChatEventHdr.read packet)

def handleChatRejectedMessage (packet : Octets) : ClientChat :=
  if packet.length < roomChatSendRejectedHdrBytes then chat
  else
    let rejected := RoomChatSendRejectedHdr.read packet
    let reason := fixedString rejected.reason
    let status := if reason = [] then ascii "Message rejected" else reason
    match chat.pendingMessages.lookup rejected.nonce with
    | none => { chat with status := status }
    | some pending =>
      { chat with
        retryText := pending.text
        pendingMessages := chat.pendingMessages.erase rejected.nonce
        status := status }

variable (now : Time)

def confirmStaleChatPendingAfterHistory : ClientChat :=
  let stale (pending : PendingChatMessage) : Bool :=
    pending.historyRequested && decide (chatConfirmationTimeout < now - pending.sentAt)
  let unconfirmed := chat.pendingMessages.pairs.filter fun entry => stale entry.2
  if unconfirmed = [] then chat
  else
    { chat with
      retryText := unconfirmed.foldl
        (fun retry entry => if retry = [] then entry.2.text else retry) chat.retryText
      status := ascii "Message not confirmed"
      pendingMessages := chat.pendingMessages.keep fun _ pending => !stale pending }

def handleChatHistoryResponseMessage (chat : ClientChat)
    (ambient : ChatAmbient) (packet : Octets) : ClientChat :=
  if packet.length < roomChatHistoryResponseHdrBytes then chat
  else
    let response := RoomChatHistoryResponseHdr.read packet
    if response.status ≠ roomStatusOk then
      { chat with status := ascii "Chat history unavailable" }
    else
      let noted :=
        if response.flags &&& roomChatHistoryTruncated ≠ 0 then
          { chat with
            historyTruncated := true
            status := ascii "Earlier chat messages are no longer available." }
        else chat
      if response.flags &&& roomChatHistoryDone ≠ 0 then
        noted.confirmStaleChatPendingAfterHistory ambient.now
      else noted.handleChatEvent sodium ambient response.event

def chatTimerCallback : ClientChat :=
  if chat.chatAvailable = false then chat
  else
    let due (pending : PendingChatMessage) : Bool :=
      pending.historyRequested = false && decide (chatConfirmationTimeout < now - pending.sentAt)
    let requestHistory := chat.pendingMessages.pairs.any fun entry => due entry.2
    let marked :=
      { chat with
        pendingMessages := chat.pendingMessages.mapValues fun _ pending =>
          if due pending then { pending with historyRequested := true } else pending }
    if requestHistory then marked.requestHistoryAfter chat.lastSeenChatSequence else marked

def setChatDialogOpen (opened : Bool) : ClientChat :=
  if opened then
    let shown := { chat with dialogOpen := true, unreadCount := 0 }
    shown.requestHistoryAfter chat.lastSeenChatSequence
  else { chat with dialogOpen := false }

def requestChatHistory : ClientChat :=
  chat.requestHistoryAfter chat.lastSeenChatSequence

end ClientChat

/-- What can happen to the chat while the access epoch lasts. -/
inductive ChatMove where
  | event (packet : Octets)
  | rejected (packet : Octets)
  | historyResponse (packet : Octets)
  | timer
  | setDialogOpen (opened : Bool)
  | requestHistory
  | send (text : Octets)
  /-- The join is confirmed, lost or confirmed again under another participant id. -/
  | join (state : JoinState)

namespace ClientChat

def step (sodium : Sodium) (chat : ClientChat) (input : ChatAmbient × ChatMove) : ClientChat :=
  match input.2 with
  | .event packet => chat.handleChatEventMessage sodium input.1 packet
  | .rejected packet => chat.handleChatRejectedMessage packet
  | .historyResponse packet => chat.handleChatHistoryResponseMessage sodium input.1 packet
  | .timer => chat.chatTimerCallback input.1.now
  | .setDialogOpen opened => chat.setChatDialogOpen opened
  | .requestHistory => chat.requestChatHistory
  | .send text => (chat.sendChatMessage sodium input.1 text).1
  | .join state => { chat with joinSession := { chat.joinSession with state := state } }

end ClientChat

end Sesivo
