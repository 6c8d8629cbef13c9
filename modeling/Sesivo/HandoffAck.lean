import Sesivo.Client.HandoffTraffic
import Sesivo.Client.JoinKeys
import Sesivo.KeyAgreement

set_option autoImplicit false

/- What it means that a key handoff is acknowledged. A client that stops retrying a
handoff does so on the word of the other participant, which an unreliable network
and the server passed on. -/

namespace Sesivo

open Octets JoinToken SessionCrypto RoomKeyHandoffAckHdr

/-- The secret belongs to the commitment stored with it, once there are an epoch and a secret. -/
def KeyState.Matched (sodium : Sodium) (state : KeyState) : Prop :=
  state.mediaSecret = [] ∨ state.accessEpoch = 0 ∨
    SessionCrypto.mediaKeyCommitment sodium state.mediaSecret = some state.mediaKeyCommitment

/-- A room is joined without a secret, or with the one its ticket is for. -/
def RoomChoice.Matched (sodium : Sodium) (choice : RoomChoice) : Prop :=
  ∀ claims ∈ World.readTicket choice.joinToken, claims.roomId = choice.roomId →
    choice.mediaSecret = [] ∨
      mediaKeyCommitment sodium choice.mediaSecret = some claims.mediaKeyCommitment

instance (sodium : Sodium) (choice : RoomChoice) : Decidable (choice.Matched sodium) :=
  inferInstanceAs (Decidable (∀ _ ∈ _, _))

namespace KeyState

variable {sodium : Sodium}

theorem Matched.of_session {before after : KeyState} (same : after.session = before.session)
    (matched : before.Matched sodium) : after.Matched sodium := by
  have secret : after.mediaSecret = before.mediaSecret :=
    congrArg (fun session => session.options.mediaSecret) same
  have epoch : after.accessEpoch = before.accessEpoch :=
    congrArg (fun session => session.options.accessEpoch) same
  have commitment : after.mediaKeyCommitment = before.mediaKeyCommitment :=
    congrArg (fun session => session.options.mediaKeyCommitment) same
  unfold Matched
  rw [secret, epoch, commitment]
  exact matched

variable (state : KeyState)

theorem step_matched (event : KeyEvent) (matched : state.Matched sodium) :
    (state.step sodium event).Matched sodium := by
  cases event with
  | refresh => exact matched.of_session (refresh_frame sodium state).2
  | close => exact .inl rfl
  | offer mediaSecret accessEpoch commitment =>
    simp only [step, offer]
    split
    · exact matched
    rename_i taken
    refine Matched.of_session (refresh_frame sodium _).2 (.inr (.inr ?_))
    simp only [Refuses, not_or, Bool.not_eq_false] at taken
    exact mediaSecretMatchesCommitment_iff.mp taken.2.1

theorem receive_matched (signal : KeySignal) (matched : state.Matched sodium) :
    (state.receive signal).Matched sodium :=
  matched.of_session (receive_frame state signal).2.2

end KeyState

namespace Client

/-- The stored secret fits its commitment, and what the client acknowledges it stores. -/
structure Truthful (sodium : Sodium) (client : Client) : Prop where
  matched : client.keyState.Matched sodium
  acknowledges : ∀ datagram ∈ client.outbox, IsHandoffAck datagram.bytes →
    client.Acknowledges datagram.bytes

variable {sodium : Sodium}

theorem initial_truthful (keypair : Option (Octets × Octets)) :
    (initial {} keypair).Truthful sodium := by
  refine ⟨.inl rfl, ?_⟩
  intro datagram member
  cases member

variable (client : Client) (event : ClientAmbient × ClientEvent)

theorem startConnection_matched (ambient : ClientAmbient) (resolved : Bool)
    (matched : client.keyState.Matched sodium) :
    (client.startConnectionOnIoContext sodium ambient resolved).keyState.Matched sodium := by
  simp only [startConnectionOnIoContext]
  split
  · exact matched
  · exact (sendJoin_follows sodium _ ambient).preserves (fun state => state.Matched sodium)
      KeyState.step_matched matched

/-- The epoch and commitment of a new session are those of a ticket for its room. -/
theorem configureRoom_matched {choice : RoomChoice} (fits : choice.Matched sodium) :
    (client.configureRoom (client.joinOptions choice)).keyState.Matched sodium := by
  have entered : (client.configureRoom (client.joinOptions choice)).joinSession.options =
      applyUnverifiedTokenClaims (client.joinOptions choice) := rfl
  simp only [KeyState.Matched, keyState, entered, applyUnverifiedTokenClaims]
  split
  · exact .inr (.inl rfl)
  split
  · exact .inr (.inl rfl)
  rename_i claims signature parsed
  split
  next same =>
    have read : claims ∈ World.readTicket choice.joinToken :=
      World.readTicket_eq_some.mpr ⟨signature, parsed⟩
    rcases fits claims read same with empty | committed
    · exact .inl empty
    · exact .inr (.inr committed)
  · exact .inr (.inl rfl)

theorem step_matched (matched : client.keyState.Matched sodium)
    (fits : ∀ choice resolved, event.2 = .act (.joinRoom choice resolved) →
      choice.Matched sodium) :
    (client.step sodium event).keyState.Matched sodium := by
  obtain ⟨ambient, event⟩ := event
  by_cases opens : event.Opens
  · cases event with
    | receive datagram => cases opens
    | act action =>
      rcases ClientAction.Opens.cases opens with ⟨choice, resolved, rfl⟩ | ⟨resolved, rfl⟩
      · exact startConnection_matched _ ambient resolved
          (configureRoom_matched _ (fits choice resolved rfl))
      · exact startConnection_matched _ ambient resolved matched
  · refine (step_follows sodium client (ambient, event) opens).preserves
      (fun state => state.Matched sodium) KeyState.step_matched ?_
    exact Run.invariant KeyState.receive _ KeyState.receive_matched client.keyState _ matched

theorem step_truthful (matched : client.keyState.Matched sodium)
    (fits : ∀ choice resolved, event.2 = .act (.joinRoom choice resolved) →
      choice.Matched sodium) : (client.step sodium event).Truthful sodium :=
  ⟨step_matched client event matched fits, fun _ member ack =>
    step_acknowledges sodium client event member ack⟩

/-- The acknowledgement that takes a participant off the list names it, and is for the
key the client has. -/
theorem ack_removes {client : Client} {ambient : ClientAmbient} {bytes : Octets}
    {participantId : UInt32} (ack : IsHandoffAck bytes)
    (pending : participantId ∈ client.pendingKeyHandoffAcks) (removed : participantId ∉
      (client.step sodium (ambient, .receive bytes)).pendingKeyHandoffAcks) :
    read bytes =
      { participantId := participantId
        targetId := client.joinSession.participantId
        accessEpoch := client.joinSession.options.accessEpoch
        mediaKeyCommitment := client.joinSession.options.mediaKeyCommitment } := by
  have fields : read (bytes.take clientPacketBytes) = read bytes := by
    simp (disch := decide) only [RoomKeyHandoffAckHdr.read, u32At, slice_take]
  have type : (CtrlHdr.read (bytes.take clientPacketBytes)).type = some .roomKeyHandoffAck := by
    rw [← ack.type]
    simp (disch := decide) only [CtrlHdr.read, u8At, slice_take]
  have long : roomKeyHandoffAckHdrBytes ≤ (bytes.take clientPacketBytes).length := by
    rw [List.length_take]
    exact le_min (by decide) ack.long
  have enough : ctrlHdrBytes ≤ (bytes.take clientPacketBytes).length := le_trans (by decide) long
  revert removed
  simp only [step, onReceive]
  split
  · exact fun removed => absurd pending removed
  rw [magicOf_take, if_pos ⟨ack.magic, enough⟩]
  simp only [handleCtrlMessage, type, handleKeyHandoffAck, fields]
  split
  next accepted =>
    obtain ⟨-, target, -, epoch, commitment⟩ := accepted
    simp only [List.mem_filter, pending, true_and, ne_eq, decide_not, Bool.not_eq_true',
      decide_eq_false_iff_not, not_not]
    intro named
    rw [← target, ← epoch, ← commitment, named]
  · exact fun removed => absurd pending removed

end Client

/-- None of the server's own messages is a handoff acknowledgement. -/
theorem ServerMessage.relayed_of_ack {message : ServerMessage} {bytes : Octets}
    (encoded : message.bytes = some bytes)
    (ack : IsHandoffAck bytes) : message = .relayed bytes := by
  have others : ∀ type ∈ ([4, 6, 8, 9, 19, 25] : List UInt8),
      Cmd.ofByte type ≠ some .roomKeyHandoffAck := by decide +kernel
  rcases message.bytes_cases encoded with relayed | ⟨type, listed, participantId, rest, rfl⟩
  · exact relayed
  · exact absurd ack (ctrlDatagram_not_ack type participantId rest (others type listed))

def WorldEvent.served : WorldEvent → Option Octets
  | .serve (.datagram _ bytes _) => some bytes
  | _ => none

/-- What a client goes by at some moment. -/
structure Holding where
  participantId : UInt32
  accessEpoch : UInt32
  mediaSecret : Octets
deriving DecidableEq

def Client.holding (client : Client) : Holding where
  participantId := client.joinSession.participantId
  accessEpoch := client.joinSession.options.accessEpoch
  mediaSecret := client.joinSession.options.mediaSecret

/-- A world with everything its clients have sent, and what each went by after each of
its events. -/
structure HandoffLog where
  world : World
  uploads : List Octets
  held : List Holding

namespace HandoffLog

variable (hosts : Nat → Endpoint × Option (Octets × Octets))

def initial : HandoffLog where
  world := .initial hosts
  uploads := []
  held := []

variable (sodium : Sodium) (options : ServerOptions) (log : HandoffLog)

def step (event : WorldEvent) : HandoffLog :=
  let world := log.world.step sodium options event
  match event.host with
  | none => { log with world := world }
  | some index =>
    { world := world
      uploads := log.uploads ++ (world.client index).outbox.map Datagram.bytes
      held := log.held ++ [(world.client index).holding] }

/-- The participant has had a secret with that commitment, at that epoch. -/
def Held (participantId accessEpoch : UInt32) (commitment : Octets) : Prop :=
  ∃ holding ∈ log.held, holding.participantId = participantId ∧
    holding.accessEpoch = accessEpoch ∧
    mediaKeyCommitment sodium holding.mediaSecret = some commitment

instance (log : HandoffLog) (participantId accessEpoch : UInt32) (commitment : Octets) :
    Decidable (log.Held sodium participantId accessEpoch commitment) :=
  inferInstanceAs (Decidable (∃ _ ∈ _, _))

/-- An acknowledgement that reaches the server is one a client has sent; anything else
may reach it as well. -/
def Genuine (event : WorldEvent) : Prop :=
  ∀ bytes ∈ event.served, IsHandoffAck bytes → bytes ∈ log.uploads

instance (log : HandoffLog) (event : WorldEvent) : Decidable (log.Genuine event) :=
  inferInstanceAs (Decidable (∀ _ ∈ _, _))

/-- The invariant: clients are truthful, and every acknowledgement on its way is backed. -/
structure Backed (log : HandoffLog) : Prop where
  truthful : ∀ index, (log.world.client index).Truthful sodium
  uploads : ∀ bytes ∈ log.uploads, IsHandoffAck bytes →
    log.Held sodium (read bytes).participantId
      (read bytes).accessEpoch
      (read bytes).mediaKeyCommitment
  sent : ∀ delivery ∈ log.world.sent, IsHandoffAck delivery.bytes →
    log.Held sodium (read delivery.bytes).participantId
      (read delivery.bytes).accessEpoch
      (read delivery.bytes).mediaKeyCommitment

variable {sodium options}

theorem initial_backed :
    (initial hosts).Backed sodium := by
  refine ⟨fun index => Client.initial_truthful _, ?_, ?_⟩
  · intro bytes member
    cases member
  · intro delivery member
    cases member

/-- An acknowledgement the server sends is the beginning of one it got. -/
theorem ack_of_delivery {server : Server} {input : Server.Input} {delivery : Delivery}
    (sent : delivery ∈ World.deliveries (server.step sodium options input) input)
    (ack : IsHandoffAck delivery.bytes) :
    ∃ remote bytes ambient, input = .datagram remote bytes ambient ∧ IsHandoffAck bytes ∧
      read bytes = read delivery.bytes := by
  obtain ⟨⟨endpoint, message⟩, emitted, encoded⟩ := List.mem_filterMap.mp sent
  obtain ⟨packet, found, rfl⟩ := Option.map_eq_some_iff.mp encoded
  obtain rfl := ServerMessage.relayed_of_ack found ack
  obtain ⟨remote, bytes, ambient, same, beginning⟩ := Server.step_relays_beginning sodium options
    server input endpoint packet (Server.relayed_mem_copies emitted)
  exact ⟨remote, bytes, ambient, same, handoffAck_of_beginning beginning ack⟩

theorem Backed.serve {log : HandoffLog} (backed : log.Backed sodium) (input : Server.Input)
    (genuine : log.Genuine (.serve input)) :
    (log.step sodium options (.serve input)).Backed sodium := by
  refine ⟨backed.truthful, backed.uploads, ?_⟩
  intro delivery member ack
  rcases List.mem_append.mp member with old | new
  · exact backed.sent delivery old ack
  obtain ⟨remote, bytes, ambient, rfl, received, same⟩ := ack_of_delivery new ack
  rw [← same]
  exact backed.uploads bytes (genuine bytes rfl received) received

/-- What a truthful client has just sent is backed by what it now goes by. -/
theorem held_of_truthful {client : Client} (truthful : client.Truthful sodium)
    {datagram : Datagram} (member : datagram ∈ client.outbox) (ack : IsHandoffAck datagram.bytes) :
    client.holding.participantId = (read datagram.bytes).participantId ∧
      client.holding.accessEpoch = (read datagram.bytes).accessEpoch ∧
      mediaKeyCommitment sodium client.holding.mediaSecret =
        some (read datagram.bytes).mediaKeyCommitment := by
  have stored := truthful.acknowledges datagram member ack
  refine ⟨stored.participantId.symm, stored.accessEpoch.symm, ?_⟩
  rw [stored.mediaKeyCommitment]
  rcases truthful.matched with empty | undated | committed
  · exact absurd empty stored.secret
  · exact absurd undated stored.dated
  · exact committed

/-- An event of a client, after which all clients are truthful and no datagram is new. -/
theorem Backed.advance {log : HandoffLog} (backed : log.Backed sodium) {event : WorldEvent}
    {index : Nat} (host : event.host = some index)
    (sent : (log.world.step sodium options event).sent = log.world.sent)
    (truthful : ∀ other, ((log.world.step sodium options event).client other).Truthful sodium) :
    (log.step sodium options event).Backed sodium := by
  have kept {participantId accessEpoch : UInt32} {commitment : Octets}
      (held : log.Held sodium participantId accessEpoch commitment) :
      (log.step sodium options event).Held sodium participantId accessEpoch commitment := by
    obtain ⟨holding, member, fields⟩ := held
    simp only [Held, step, host]
    exact ⟨holding, List.mem_append_left _ member, fields⟩
  refine ⟨?_, ?_, ?_⟩
  · simp only [step, host]
    exact truthful
  · intro bytes member ack
    have placed : bytes ∈ log.uploads ++
        ((log.world.step sodium options event).client index).outbox.map Datagram.bytes := by
      simpa only [step, host] using member
    rcases List.mem_append.mp placed with old | new
    · exact kept (backed.uploads bytes old ack)
    obtain ⟨datagram, posted, rfl⟩ := List.mem_map.mp new
    simp only [Held, step, host]
    exact ⟨_, List.mem_append_right _ List.mem_cons_self,
      held_of_truthful (truthful index) posted ack⟩
  · intro delivery member ack
    have earlier : delivery ∈ log.world.sent := by
      rw [← sent]
      simpa only [step, host] using member
    exact kept (backed.sent delivery earlier ack)

theorem step_backed {log : HandoffLog} (backed : log.Backed sodium) (event : WorldEvent)
    (genuine : log.Genuine event) (fits : ∀ join ∈ event.joins, join.1.Matched sodium) :
    (log.step sodium options event).Backed sodium := by
  have advanced (index : Nat) (change : ClientAmbient × ClientEvent)
      (entered : ∀ choice resolved, change.2 = .act (.joinRoom choice resolved) →
        choice.Matched sodium) (other : Nat) :
      ((log.world.advance sodium index change).client other).Truthful sodium := by
    rw [World.advance_client]
    split
    · exact Client.step_truthful _ change (backed.truthful index).matched entered
    · exact backed.truthful other
  cases event with
  | serve input => exact backed.serve input genuine
  | act index ambient action =>
    refine backed.advance rfl rfl (advanced index (ambient, .act action) ?_)
    rintro choice resolved ⟨⟩
    exact fits (choice, resolved) rfl
  | move index endpoint =>
    refine backed.advance rfl rfl ?_
    intro other
    rw [World.move_client]
    exact backed.truthful other
  | deliver index position ambient =>
    have outcome : (log.world.step sodium options (.deliver index position ambient)).sent =
          log.world.sent ∧
        ∀ other, ((log.world.step sodium options (.deliver index position ambient)).client
          other).Truthful sodium := by
      simp only [World.step]
      split
      · exact ⟨rfl, backed.truthful⟩
      split
      · refine ⟨rfl, advanced index _ ?_⟩
        intro choice resolved impossible
        cases impossible
      · exact ⟨rfl, backed.truthful⟩
    exact backed.advance rfl outcome.1 outcome.2

/-- If every room is joined without a secret or with the one its ticket is for: when an
acknowledgement takes a participant off a client's list of unfinished handoffs, it
is for the client's current epoch, and at that epoch the participant has had a
secret with the client's current commitment. -/
theorem acknowledged_handoff_held (sodium : Sodium) (options : ServerOptions)
    (hosts : Nat → Endpoint × Option (Octets × Octets)) (events : List WorldEvent)
    (meets : Run.Allowed (step sodium options)
      (fun log event => log.Genuine event ∧ ∀ join ∈ event.joins, join.1.Matched sodium)
      (initial hosts) events)
    (index position : Nat) (ambient : ClientAmbient) (delivery : Delivery)
    (participantId : UInt32) :
    let log := Run.run (step sodium options) (initial hosts) events
    let client := log.world.client index
    log.world.sent[position]? = some delivery → IsHandoffAck delivery.bytes →
    participantId ∈ client.pendingKeyHandoffAcks →
    participantId ∉ ((log.world.step sodium options
      (.deliver index position ambient)).client index).pendingKeyHandoffAcks →
    (read delivery.bytes).accessEpoch =
        client.joinSession.options.accessEpoch ∧
      log.Held sodium participantId client.joinSession.options.accessEpoch
        client.joinSession.options.mediaKeyCommitment := by
  intro log client found ack pending removed
  have backed : log.Backed sodium := by
    refine Run.invariant_of_allowed (step sodium options) _ (Backed sodium) (initial hosts) events
      ?_ (initial_backed hosts) meets
    intro earlier event _ holds both
    exact step_backed holds event both.1 both.2
  have fields : read delivery.bytes =
      { participantId := participantId
        targetId := client.joinSession.participantId
        accessEpoch := client.joinSession.options.accessEpoch
        mediaKeyCommitment := client.joinSession.options.mediaKeyCommitment } := by
    simp only [World.step, found] at removed
    split at removed
    · rw [World.advance_client, if_pos rfl] at removed
      exact Client.ack_removes ack pending removed
    · exact absurd pending removed
  have held := backed.sent delivery (List.mem_of_getElem? found) ack
  rw [fields] at held ⊢
  exact ⟨rfl, held⟩

open World Server Client

def keyOf (name : String) : Octets := padded e2ePublicKeyBytes (ascii name)

/-- Bob is the first host, Dan the second. -/
def bobAndDan : Nat → Endpoint × Option (Octets × Octets)
  | 0 => (loopback 1, some (keyOf "bob", keyOf "bob"))
  | _ => (loopback 2, some (keyOf "dan", keyOf "dan"))

variable (events : List WorldEvent)

def after : HandoffLog :=
  Run.run (step .framing jamOptions) (initial bobAndDan) events

/-- The server gets what the host sent last. -/
def posts (index : Nat) (instanceNonce : String) : WorldEvent :=
  .serve (.datagram (loopback (UInt16.ofNat (index + 1)))
    ((((after events).world.client index).outbox.map Datagram.bytes).headD [])
    (scene instanceNonce))

section Handoff

variable (bobSecret danSecret : Octets)

/-- Bob and Dan enter a room whose first secret is `a`, each with a given secret or none. -/
def entering : List WorldEvent :=
  [mallorySends "one" (createRequest "left" "a"),
    enter 0 (ticketTo "left" "one" "bob" 1 "a") bobSecret,
    enter 1 (ticketTo "left" "one" "dan" 1 "a") danSecret]

/-- Both hear that they have joined, and Bob hears of Dan. -/
def joined : List WorldEvent :=
  entering bobSecret danSecret ++
    [posts (entering bobSecret danSecret) 0 "two", posts (entering bobSecret danSecret) 1 "three",
      .deliver 0 0 quietAmbient, .deliver 1 2 quietAmbient, .deliver 0 4 quietAmbient]

/-- Bob's envelope gets to Dan. -/
def shared : List WorldEvent :=
  joined bobSecret danSecret ++
    [posts (joined bobSecret danSecret) 0 "four", .deliver 1 6 quietAmbient]

/-- Dan's acknowledgement gets to the server. -/
def acknowledged : List WorldEvent :=
  shared bobSecret danSecret ++ [posts (shared bobSecret danSecret) 1 "five"]

end Handoff

/-- Dan has no secret when Bob's envelope brings it. -/
theorem acknowledged_handoff_held_newcomer :
    2 ∈ ((after (acknowledged (ascii "a") [])).world.client 0).pendingKeyHandoffAcks ∧
      2 ∉ (((after (acknowledged (ascii "a") [])).world.step .framing jamOptions
        (.deliver 0 7 quietAmbient)).client 0).pendingKeyHandoffAcks ∧
      (after (acknowledged (ascii "a") [])).Held .framing 2
        ((after (acknowledged (ascii "a") [])).world.client 0).joinSession.options.accessEpoch
        ((after (acknowledged (ascii "a") [])).world.client
          0).joinSession.options.mediaKeyCommitment := by
  have facts : Run.Allowed (step .framing jamOptions)
        (fun log event => log.Genuine event ∧ ∀ join ∈ event.joins, join.1.Matched .framing)
        (initial bobAndDan) (acknowledged (ascii "a") []) ∧
      ((after (acknowledged (ascii "a") [])).world.sent[7]?).isSome = true ∧
      (∀ delivery ∈ (after (acknowledged (ascii "a") [])).world.sent[7]?,
        IsHandoffAck delivery.bytes) ∧
      2 ∈ ((after (acknowledged (ascii "a") [])).world.client 0).pendingKeyHandoffAcks ∧
      2 ∉ (((after (acknowledged (ascii "a") [])).world.step .framing jamOptions
        (.deliver 0 7 quietAmbient)).client 0).pendingKeyHandoffAcks := by
    decide +kernel
  obtain ⟨meets, present, acks, pending, removed⟩ := facts
  obtain ⟨delivery, found⟩ := Option.isSome_iff_exists.mp present
  have safe := acknowledged_handoff_held .framing jamOptions bobAndDan
    (acknowledged (ascii "a") []) meets 0 7 quietAmbient delivery 2
  refine ⟨pending, removed, ?_⟩
  obtain ⟨-, held⟩ := safe found (acks delivery found) pending removed
  unfold after
  exact held

/-- Bob and Dan both enter with `b`, which is not the room's secret. Dan acknowledges
Bob's envelope because it has the secret, epoch and commitment Dan stores, and Bob
stops retrying although Dan never had a secret with that commitment. -/
theorem acknowledged_handoff_stale :
    Run.Allowed (step .framing jamOptions) Genuine (initial bobAndDan)
        (acknowledged (ascii "b") (ascii "b")) ∧
      (∀ delivery ∈ (after (acknowledged (ascii "b") (ascii "b"))).world.sent[7]?,
        IsHandoffAck delivery.bytes) ∧
      2 ∈ ((after (acknowledged (ascii "b") (ascii "b"))).world.client 0).pendingKeyHandoffAcks ∧
      2 ∉ (((after (acknowledged (ascii "b") (ascii "b"))).world.step .framing jamOptions
        (.deliver 0 7 quietAmbient)).client 0).pendingKeyHandoffAcks ∧
      ¬ (after (acknowledged (ascii "b") (ascii "b"))).Held .framing 2
        ((after (acknowledged (ascii "b") (ascii "b"))).world.client
          0).joinSession.options.accessEpoch
        ((after (acknowledged (ascii "b") (ascii "b"))).world.client
          0).joinSession.options.mediaKeyCommitment := by
  decide +kernel

end HandoffLog

end Sesivo
