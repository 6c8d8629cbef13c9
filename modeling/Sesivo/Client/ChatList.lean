import Sesivo.Client.Chat
import Sesivo.Lib.Newest

set_option autoImplicit false

/- The list of messages a client shows. It depends on which messages reached the
client, not on the order they came in or on how often each one came. -/

namespace Sesivo

open Octets Run List

/-- What a message says, apart from what the client notes at its arrival. -/
structure ChatContent where
  sequence : UInt64
  senderId : UInt32
  text : Octets
deriving DecidableEq

def ClientChatMessage.content (message : ClientChatMessage) : ChatContent where
  sequence := message.sequence
  senderId := message.senderId
  text := message.text

/-- One arrival of a decrypted message. -/
structure ChatDelivery where
  ambient : ChatAmbient
  event : RoomChatEventHdr
  plaintext : Octets

def ChatDelivery.content (delivery : ChatDelivery) : ChatContent where
  sequence := delivery.event.chatSequence
  senderId := delivery.event.participantId
  text := delivery.plaintext

/-- The schedule brings every message of the set at least once and nothing else. -/
def Schedules (messages : List ChatContent) (schedule : List ChatDelivery) : Prop :=
  ∀ content, content ∈ schedule.map ChatDelivery.content ↔ content ∈ messages

namespace ClientChat

def deliver (chat : ClientChat) (delivery : ChatDelivery) : ClientChat :=
  chat.acceptChatMessage delivery.ambient delivery.event delivery.plaintext

def contents (chat : ClientChat) : List ChatContent := chat.messages.map ClientChatMessage.content

def sequenceOf (content : ChatContent) : Nat := content.sequence.toNat

variable (messages : List ClientChatMessage) (chat : ClientChat) (message : ClientChatMessage)
variable {schedule : List ChatDelivery}

theorem insertMessage_eq_drop :
    insertMessage messages message =
      ((messages ++ [message]).mergeSort fun left right => left.sequence ≤ right.sequence).drop
        (messages.length + 1 - clientChatRetainedMessages) := by
  unfold insertMessage
  simp only [length_mergeSort, length_append, length_singleton]
  by_cases long : clientChatRetainedMessages < messages.length + 1
  · rw [if_pos long]
  · rw [if_neg long, show messages.length + 1 - clientChatRetainedMessages = 0 by omega, drop_zero]

variable (sequence : UInt64)

theorem any_sequence :
    (messages.any fun message => message.sequence = sequence) =
      (messages.map ClientChatMessage.content).any fun content =>
        sequenceOf content = sequence.toNat := by
  rw [any_map]
  congr 1
  funext message
  simp only [Function.comp, sequenceOf, ClientChatMessage.content, UInt64.toNat_inj]

theorem insertMessage_contents :
    (insertMessage messages message).map ClientChatMessage.content =
      ((messages.map ClientChatMessage.content ++ [message.content]).mergeSort
        fun left right => sequenceOf left ≤ sequenceOf right).drop
          (messages.length + 1 - clientChatRetainedMessages) := by
  have sorted := @map_mergeSort _ _
    (fun left right : ClientChatMessage => decide (left.sequence ≤ right.sequence))
    (fun left right : ChatContent => decide (sequenceOf left ≤ sequenceOf right))
    ClientChatMessage.content (messages ++ [message])
    (by
      intro left _ right _
      exact decide_eq_decide.mpr UInt64.le_iff_toNat_le)
  rw [insertMessage_eq_drop, map_drop, sorted, map_append, map_singleton]

/-- Accepting a message is offering it to a bounded collection of the newest ones. -/
theorem deliver_contents (delivery : ChatDelivery) :
    (chat.deliver delivery).contents =
      Newest.add clientChatRetainedMessages sequenceOf chat.contents delivery.content := by
  unfold deliver acceptChatMessage contents Newest.add
  have known : delivery.event.chatSequence.toNat = sequenceOf delivery.content := rfl
  rw [any_sequence, known]
  by_cases present : ((chat.messages.map ClientChatMessage.content).any fun content =>
      sequenceOf content = sequenceOf delivery.content) = true
  · rw [if_pos present, if_pos present]
  rw [if_neg present, if_neg present]
  simp only [length_mergeSort, length_append, length_singleton, length_map]
  -- a request for missing messages leaves the list alone
  split
  · rw [requestHistoryAfter_messages, insertMessage_contents]
    rfl
  · rw [insertMessage_contents]
    rfl

theorem run_deliver_contents (schedule : List ChatDelivery) :
    (run deliver chat schedule).contents =
      run (Newest.add clientChatRetainedMessages sequenceOf) chat.contents
        (schedule.map ChatDelivery.content) := by
  induction schedule generalizing chat with
  | nil => rfl
  | cons delivery schedule ih => rw [run_cons, ih, deliver_contents, map_cons, run_cons]

theorem run_deliver_newest {messages : List ChatContent}
    (distinct : (messages.map ChatContent.sequence).Nodup) (brings : Schedules messages schedule) :
    Newest clientChatRetainedMessages sequenceOf (schedule.map ChatDelivery.content)
      (run deliver chat.clearChatState schedule).contents := by
  rw [run_deliver_contents]
  apply Newest.run_newest
  intro left first right second same
  exact inj_on_of_nodup_map distinct ((brings left).mp first) ((brings right).mp second)
    (UInt64.toNat_inj.mp same)

/-- Two clients that received the same messages show the same list: the newest
messages of the set, in the order of their sequence numbers. -/
theorem contents_schedule_independent (chat other : ClientChat) (messages : List ChatContent)
    (distinct : (messages.map ChatContent.sequence).Nodup) (first second : List ChatDelivery)
    (brings : Schedules messages first) (again : Schedules messages second) :
    (run deliver chat.clearChatState first).contents =
        (run deliver other.clearChatState second).contents ∧
      Newest clientChatRetainedMessages sequenceOf messages
        (run deliver chat.clearChatState first).contents := by
  have left := run_deliver_newest chat distinct brings
  have right := run_deliver_newest other distinct again
  constructor
  · apply left.eq_of_same right
    intro content
    exact (brings content).trans (again content).symm
  · exact left.of_same_pool brings

def greeting : ChatDelivery where
  ambient :=
    { now := 0
      nonce := []
      participants := [] }
  event :=
    { participantId := 7
      requestId := 0
      accessEpoch := 1
      chatSequence := sequence
      serverTimeMs := 0
      ciphertextBytes := 18
      roomId := ascii "jam"
      roomInstanceId := ascii "jam-1"
      nonce := ascii "nonce"
      ciphertext := [] }
  plaintext := ascii "hi"

def quietChat : ClientChat where
  joinSession := {}

def greetings : List ChatContent := [(greeting 1).content, (greeting 2).content]

theorem greetings_scheduled (inside : ∀ delivery ∈ schedule, delivery.content ∈ greetings)
    (complete : ∀ content ∈ greetings, content ∈ schedule.map ChatDelivery.content) :
    Schedules greetings schedule := by
  intro content
  constructor
  · intro member
    obtain ⟨delivery, part, rfl⟩ := mem_map.mp member
    exact inside delivery part
  · exact complete content

/-- The later greeting first, and once more at the end. -/
theorem contents_schedule_independent_greetings :
    (greetings.map ChatContent.sequence).Nodup ∧
      Schedules greetings [greeting 2, greeting 1, greeting 2] ∧
      Schedules greetings [greeting 1, greeting 2] ∧
      (run deliver quietChat.clearChatState [greeting 2, greeting 1, greeting 2]).contents =
        (run deliver quietChat.clearChatState [greeting 1, greeting 2]).contents := by
  have distinct : (greetings.map ChatContent.sequence).Nodup := by decide
  have brings : Schedules greetings [greeting 2, greeting 1, greeting 2] :=
    greetings_scheduled (by decide) (by decide)
  have again : Schedules greetings [greeting 1, greeting 2] :=
    greetings_scheduled (by decide) (by decide)
  exact ⟨distinct, brings, again,
    (contents_schedule_independent quietChat quietChat greetings distinct
      [greeting 2, greeting 1, greeting 2] [greeting 1, greeting 2] brings again).1⟩

end ClientChat

end Sesivo
