import Sesivo.Client.Approval

set_option autoImplicit false

/- The media key over one join: the epoch only grows, a secret stands for its
epoch, a key belongs to its secret, and which envelopes bring a key to a client
that has none. -/

namespace Sesivo

open Octets JoinToken SessionCrypto E2EKeyEnvelopeHdr

namespace KeyState

variable (sodium : Sodium)

/-- The session key is absent or the one the secret and the ticket determine. -/
def Settled (state : KeyState) : Prop :=
  state.sessionKey = none ∨ state.sessionKey = state.derivedKey sodium

/-- While traffic stays on, the epoch does not go back, and the secret of an epoch stays. -/
def Advances (before after : KeyState) : Prop :=
  after.outboundEnabled = true →
    before.outboundEnabled = true ∧ before.accessEpoch ≤ after.accessEpoch ∧
      (before.mediaSecret ≠ [] → before.accessEpoch = after.accessEpoch →
        after.mediaSecret = before.mediaSecret)

variable (state : KeyState) (signal : KeySignal) (event : KeyEvent)

theorem Advances.refl : Advances state state :=
  fun on => ⟨on, UInt32.le_refl _, fun _ _ => rfl⟩

theorem Advances.trans {first second third : KeyState} (earlier : Advances first second)
    (later : Advances second third) : Advances first third := by
  intro on
  obtain ⟨stillOn, grows, keeps⟩ := later on
  obtain ⟨wasOn, grew, kept⟩ := earlier stillOn
  refine ⟨wasOn, UInt32.le_trans grew grows, ?_⟩
  intro held same
  -- The epoch in between is squeezed: it equals both.
  have middle : first.accessEpoch = second.accessEpoch := by
    apply UInt32.le_antisymm grew
    rw [same]
    exact grows
  have secret := kept held middle
  rw [← secret] at held ⊢
  exact keeps held (middle.symm.trans same)

/-- A refresh changes the session key and the windows only. -/
theorem refresh_frame :
    (state.refresh sodium).outboundEnabled = state.outboundEnabled ∧
      (state.refresh sodium).session = state.session := by
  unfold refresh
  split <;> exact ⟨rfl, rfl⟩

theorem refresh_sessionKey : (state.refresh sodium).sessionKey = state.derivedKey sodium := by
  unfold refresh
  split
  next none => exact none.symm
  next found => exact found.symm

theorem refresh_derivedKey :
    (state.refresh sodium).derivedKey sodium = state.derivedKey sodium := by
  simp only [derivedKey, (refresh_frame sodium state).2]

theorem refresh_settled : (state.refresh sodium).Settled sodium :=
  .inr ((refresh_sessionKey sodium state).trans (refresh_derivedKey sodium state).symm)

theorem refresh_advances : Advances state (state.refresh sodium) := by
  have same := Advances.refl state
  unfold refresh
  split <;> exact same

/-- What an offer that is taken over brings. -/
theorem offer_advances (mediaSecret : Octets) (accessEpoch : UInt32) (commitment : Octets) :
    Advances state (state.offer sodium mediaSecret accessEpoch commitment) := by
  unfold offer
  split
  · exact .refl state
  rename_i taken
  refine Advances.trans ?_ (refresh_advances sodium _)
  simp only [Refuses, not_or, not_and] at taken
  obtain ⟨-, -, notOlder, settled, -⟩ := taken
  intro on
  refine ⟨on, UInt32.not_lt.mp notOlder, ?_⟩
  intro held same
  have secret : state.session.hasMediaSecret = true := decide_eq_true held
  exact absurd secret (settled same.symm)

theorem receive_frame :
    (state.receive signal).outboundEnabled = state.outboundEnabled ∧
      (state.receive signal).sessionKey = state.sessionKey ∧
      (state.receive signal).session = state.session := by
  cases signal with
  | leave participantId => exact ⟨rfl, rfl, rfl⟩
  | control senderId sequence =>
    simp only [receive]
    split <;> exact ⟨rfl, rfl, rfl⟩

theorem step_advances : Advances state (state.step sodium event) := by
  cases event with
  | refresh => exact refresh_advances sodium state
  | offer mediaSecret accessEpoch commitment =>
    exact offer_advances sodium state mediaSecret accessEpoch commitment
  | close =>
    intro on
    cases on

theorem receive_advances : Advances state (state.receive signal) := by
  obtain ⟨on, -, session⟩ := receive_frame state signal
  have epoch : (state.receive signal).accessEpoch = state.accessEpoch :=
    congrArg (fun session => session.options.accessEpoch) session
  have secret : (state.receive signal).mediaSecret = state.mediaSecret :=
    congrArg (fun session => session.options.mediaSecret) session
  intro stillOn
  rw [on] at stillOn
  refine ⟨stillOn, ?_, fun _ _ => secret⟩
  rw [epoch]
  exact UInt32.le_refl _

theorem step_settled (settled : state.Settled sodium) :
    (state.step sodium event).Settled sodium := by
  cases event with
  | refresh => exact refresh_settled sodium state
  | offer mediaSecret accessEpoch commitment =>
    simp only [step, offer]
    split
    · exact settled
    · exact refresh_settled sodium _
  | close => exact .inl rfl

theorem receive_settled (settled : state.Settled sodium) :
    (state.receive signal).Settled sodium := by
  obtain ⟨-, key, session⟩ := receive_frame state signal
  unfold Settled derivedKey
  rw [key, session]
  exact settled

/-- A settled key comes from the ticket's room and the committed secret. -/
theorem Settled.source {state : KeyState} (settled : state.Settled sodium) {key : Octets}
    (held : state.sessionKey = some key) :
    ∃ claims signature, parseUnverified state.joinToken = .ok (claims, signature) ∧
      claims.roomId = state.roomId ∧
      SessionCrypto.mediaKeyCommitment sodium state.mediaSecret =
        some state.mediaKeyCommitment ∧
      deriveMediaKeyFromSecret sodium claims.roomId claims.roomInstanceId state.mediaSecret =
        some key := by
  rcases settled with none | derived
  · rw [none] at held
    cases held
  · rw [derived] at held
    exact Client.mediaKeyFromSecret_eq_some.mp held

end KeyState

namespace Client

variable (sodium : Sodium)

variable (client : Client) {mediaSecret : Octets} (event : ClientAmbient × ClientEvent)
variable (ambient : ClientAmbient)

theorem step_advances (within : ¬ event.2.Opens) :
    KeyState.Advances client.keyState (client.step sodium event).keyState := by
  refine (step_follows sodium client event within).preserves
    (fun state => KeyState.Advances client.keyState state) ?_ ?_
  · intro state keyEvent advances
    exact advances.trans (KeyState.step_advances sodium state keyEvent)
  refine Run.invariant KeyState.receive _ ?_ client.keyState _ (.refl _)
  intro state signal advances
  exact advances.trans (KeyState.receive_advances state signal)

theorem step_settled (within : ¬ event.2.Opens) (settled : client.keyState.Settled sodium) :
    (client.step sodium event).keyState.Settled sodium := by
  refine (step_follows sodium client event within).preserves
    (fun state => state.Settled sodium) (KeyState.step_settled sodium) ?_
  exact Run.invariant KeyState.receive _ (KeyState.receive_settled sodium) client.keyState _ settled

/-- A connection starts without a key and derives one while it sends its JOIN; one that
cannot be started leaves traffic off. -/
theorem startConnection_settled (resolved : Bool)
    (on : (client.startConnectionOnIoContext sodium ambient resolved).outboundEnabled = true) :
    (client.startConnectionOnIoContext sodium ambient resolved).keyState.Settled sodium := by
  simp only [startConnectionOnIoContext] at on ⊢
  split at on
  · cases on
  rename_i resolves
  rw [if_neg resolves]
  exact (sendJoin_follows sodium _ ambient).preserves (fun state => state.Settled sodium)
    (KeyState.step_settled sodium) (.inl rfl)

variable (events : List (ClientAmbient × ClientEvent))

theorem run_advances
    (within : ∀ event ∈ events, ¬ event.2.Opens) :
    KeyState.Advances client.keyState (Run.run (step sodium) client events).keyState := by
  refine Run.invariant_of_mem (step sodium)
    (fun later => KeyState.Advances client.keyState later.keyState)
    (fun event => ¬ event.2.Opens) ?_ client events (.refl _) within
  intro later event advances stays
  exact advances.trans (step_advances sodium later event stays)

/-- A join opened in any state, and two moments of it: while traffic is on, the epoch
has not gone back, a secret held for it has stayed, and the key is the secret's. -/
theorem join_key_state (client : Client) (ambient : ClientAmbient) (opening : ClientAction)
    (opens : opening.Opens) (first second : List (ClientAmbient × ClientEvent))
    (within : ∀ event ∈ first ++ second, ¬ event.2.Opens)
    (on : (Run.run (step sodium) (client.step sodium (ambient, .act opening))
      (first ++ second)).outboundEnabled = true) :
    let earlier := Run.run (step sodium) (client.step sodium (ambient, .act opening)) first
    let later := Run.run (step sodium) (client.step sodium (ambient, .act opening))
      (first ++ second)
    earlier.joinSession.options.accessEpoch ≤ later.joinSession.options.accessEpoch ∧
      (earlier.joinSession.options.mediaSecret ≠ [] →
        earlier.joinSession.options.accessEpoch = later.joinSession.options.accessEpoch →
        later.joinSession.options.mediaSecret = earlier.joinSession.options.mediaSecret) ∧
      ∀ key, later.sessionKey = some key →
        ∃ claims signature,
          parseUnverified later.joinSession.options.joinToken = .ok (claims, signature) ∧
          claims.roomId = later.joinSession.options.roomId ∧
          mediaKeyCommitment sodium later.joinSession.options.mediaSecret =
            some later.joinSession.options.mediaKeyCommitment ∧
          deriveMediaKeyFromSecret sodium claims.roomId claims.roomInstanceId
            later.joinSession.options.mediaSecret = some key := by
  intro earlier later
  obtain ⟨firstWithin, secondWithin⟩ := List.forall_mem_append.mp within
  have split : later = Run.run (step sodium) earlier second := Run.run_append _ _ first second
  have advances : KeyState.Advances earlier.keyState later.keyState := by
    rw [split]
    exact run_advances sodium earlier second secondWithin
  have opened := run_advances sodium (client.step sodium (ambient, .act opening)) (first ++ second)
    within
  have settled : later.keyState.Settled sodium := by
    refine Run.invariant_of_mem (step sodium) (fun state => state.keyState.Settled sodium)
      (fun event => ¬ event.2.Opens) ?_ _ (first ++ second) ?_ within
    · intro state event settled stays
      exact step_settled sodium state event stays settled
    obtain ⟨configured, resolved, started⟩ := step_of_opens sodium client ambient opens
    have wasOn := (opened on).1
    rw [started] at wasOn ⊢
    exact startConnection_settled sodium configured ambient resolved wasOn
  obtain ⟨-, grows, keeps⟩ := advances on
  exact ⟨grows, keeps, fun key held => settled.source sodium held⟩

def tuneJoin : ClientAction :=
  .joinRoom ⟨ascii "jam", ascii "ann", ascii "Ann", tuneTicket (ascii "one") 1 tuneSecret,
    tuneSecret, roomAccessOpen⟩ true

def tuneAck : ClientAmbient × ClientEvent :=
  (quietAmbient, .receive (ctrlDatagram 8 9 ++ u32Bytes audioSupportedCapabilities))

/-- A member of the room joins, and what happens then. -/
def member : Client :=
  Run.run (step .framing)
    ((initial {}
    (some (ascii "ann", ascii "ann"))).step .framing (quietAmbient, .act tuneJoin)) events

theorem join_key_state_rotation :
    (member ([tuneAck] ++ [Approving.rotateTune])).joinSession.options.accessEpoch = 2 ∧
      (member [tuneAck]).joinSession.options.accessEpoch ≤
        (member ([tuneAck] ++ [Approving.rotateTune])).joinSession.options.accessEpoch ∧
      ∃ claims signature,
        parseUnverified (member
          ([tuneAck] ++ [Approving.rotateTune])).joinSession.options.joinToken =
            .ok (claims, signature) ∧
        deriveMediaKeyFromSecret .framing claims.roomId claims.roomInstanceId
          (member ([tuneAck] ++ [Approving.rotateTune])).joinSession.options.mediaSecret =
            some ((member ([tuneAck] ++ [Approving.rotateTune])).sessionKey.getD []) := by
  have facts : (member ([tuneAck] ++ [Approving.rotateTune])).joinSession.options.accessEpoch = 2 ∧
      (member ([tuneAck] ++ [Approving.rotateTune])).outboundEnabled = true ∧
      (member ([tuneAck] ++ [Approving.rotateTune])).sessionKey =
        some ((member ([tuneAck] ++ [Approving.rotateTune])).sessionKey.getD []) := by
    decide +kernel
  obtain ⟨epoch, on, held⟩ := facts
  unfold member at epoch on held ⊢
  have within : ∀ event ∈ [tuneAck] ++ [Approving.rotateTune], ¬ event.2.Opens := by
    simp [ClientEvent.Opens, ClientAction.Opens, tuneAck, Approving.rotateTune]
  obtain ⟨grows, -, keys⟩ := join_key_state .framing (initial {} (some (ascii "ann", ascii "ann")))
    quietAmbient tuneJoin trivial [tuneAck] [Approving.rotateTune] within on
  obtain ⟨claims, signature, parsed, -, -, derived⟩ := keys _ held
  exact ⟨epoch, grows, claims, signature, parsed, derived⟩

/-- A client whose join is confirmed and whose ticket can be used, but that has no key. -/
structure AwaitsKey (client : Client) (claims : Claims) : Prop where
  receiving : client.receivingEnabled = true
  confirmed : client.joinSession.isJoinConfirmed = true
  ticket : ∃ signature,
    parseUnverified client.joinSession.options.joinToken = .ok (claims, signature)
  room : claims.roomId = client.joinSession.options.roomId
  keyless : client.sessionKey = none

/-- A well-formed key envelope for the client, whose secret is the one of the epoch and
the commitment the client goes by. -/
structure OffersKey (client : Client) (datagram mediaSecret : Octets) : Prop where
  magic : magicOf (datagram.take clientPacketBytes) = e2eKeyEnvelopeMagic
  opened : envelopeSecret sodium client (datagram.take clientPacketBytes) = some mediaSecret
  accessEpoch : (read (datagram.take clientPacketBytes)).accessEpoch =
    client.joinSession.options.accessEpoch
  commitment : (read (datagram.take clientPacketBytes)).mediaKeyCommitment =
    client.joinSession.options.mediaKeyCommitment
  committed : mediaKeyCommitment sodium mediaSecret =
    some client.joinSession.options.mediaKeyCommitment

/-- The key derived from the secret is in place, and the sender has its acknowledgement. -/
def Recovers (before after : Client) (claims : Claims) (mediaSecret : Octets)
    (senderId : UInt32) : Prop :=
  (∃ key, deriveMediaKeyFromSecret sodium claims.roomId claims.roomInstanceId mediaSecret =
      some key ∧ after.sessionKey = some key) ∧
    ∃ ack ∈ after.outbox, ack.bytes = keyHandoffAckBytes before.joinSession.participantId senderId
      before.joinSession.options.accessEpoch before.joinSession.options.mediaKeyCommitment

theorem envelopeSecret_header {client : Client} {packet : Octets}
    (opened : envelopeSecret sodium client packet = some mediaSecret) :
    e2eKeyEnvelopeHdrBytes ≤ packet.length ∧ (read packet).senderId ≠ 0 ∧
      (read packet).accessEpoch ≠ 0 ∧
      validSha256Hex (read packet).mediaKeyCommitment = true := by
  simp only [envelopeSecret] at opened
  split at opened
  · cases opened
  split at opened
  · cases opened
  next wellFormed =>
    simp only [not_or, not_lt, Bool.not_eq_false] at wellFormed
    exact ⟨wellFormed.1, wellFormed.2.2.1, wellFormed.2.2.2.1, wellFormed.2.2.2.2.1⟩

theorem onReceive_envelope {datagram : Octets} (receiving : client.receivingEnabled = true)
    (magic : magicOf (datagram.take clientPacketBytes) = e2eKeyEnvelopeMagic)
    (long : e2eKeyEnvelopeHdrBytes ≤ (datagram.take clientPacketBytes).length) :
    client.onReceive sodium ambient datagram =
      client.handleE2eKeyEnvelope sodium (datagram.take clientPacketBytes) := by
  have enough : msgHdrBytes ≤ e2eKeyEnvelopeHdrBytes := by decide
  have complete : ¬ (client.receivingEnabled = false ∨
      (datagram.take clientPacketBytes).length < msgHdrBytes) := by
    rw [receiving]
    simpa using enough.trans long
  have control : ¬ (e2eKeyEnvelopeMagic = ctrlMagic ∧
      ctrlHdrBytes ≤ (datagram.take clientPacketBytes).length) :=
    fun both => absurd both.1 (by decide)
  simp only [onReceive]
  rw [if_neg complete, magic, if_neg control, if_neg (by decide), if_neg (by decide), if_pos rfl]

/-- An offer for the client's own epoch and commitment is taken over exactly if the
client has no secret. -/
theorem applyMediaSecretRotation_current (epoch : client.joinSession.options.accessEpoch ≠ 0)
    (committed : mediaKeyCommitment sodium mediaSecret =
      some client.joinSession.options.mediaKeyCommitment) :
    client.applyMediaSecretRotation sodium mediaSecret client.joinSession.options.accessEpoch
        client.joinSession.options.mediaKeyCommitment =
      if client.joinSession.options.mediaSecret = [] then
        (true, { client with
          joinSession := client.joinSession.setMediaKey mediaSecret
            client.joinSession.options.accessEpoch client.joinSession.options.mediaKeyCommitment
          }.updateMediaKeyFromSecret sodium)
      else (false, client) := by
  have fits := mediaSecretMatchesCommitment_iff.mpr committed
  by_cases empty : client.joinSession.options.mediaSecret = [] <;>
    simp [applyMediaSecretRotation, epoch, fits, empty, ClientJoinSession.hasMediaSecret]

/-- What a client with nothing to send sends as an acknowledgement. -/
theorem sendKeyHandoffAck_sends_iff {client : Client} (quiet : client.outbox = [])
    {targetId accessEpoch : UInt32} {commitment : Octets} (target : targetId ≠ 0)
    (epoch : accessEpoch ≠ 0) (valid : validSha256Hex commitment = true) :
    (∃ ack ∈ (client.sendKeyHandoffAckOnIo targetId accessEpoch commitment).outbox,
        ack.bytes = keyHandoffAckBytes client.joinSession.participantId targetId accessEpoch
          commitment) ↔
      client.outboundEnabled = true ∧ client.joinSession.participantId ≠ 0 ∧
        targetId ≠ client.joinSession.participantId := by
  simp only [sendKeyHandoffAckOnIo]
  split
  next blocked =>
    simp only [target, epoch, valid, false_or, Bool.true_eq_false] at blocked
    simp only [quiet, List.not_mem_nil, false_and, exists_false, false_iff]
    rintro ⟨on, self, other⟩
    rcases blocked with same | zero | off
    · exact other same
    · exact self zero
    · rw [on] at off
      cases off
  next open_ =>
    simp only [not_or, Bool.not_eq_false] at open_
    obtain ⟨-, other, -, -, self, on⟩ := open_
    simp only [send, on, ↓reduceIte, quiet, List.nil_append, List.mem_singleton, exists_eq_left,
      true_iff]
    exact ⟨trivial, self, other⟩

/-- The key and the acknowledgement come exactly to a client without a secret of its
own that can send to another participant. -/
theorem keyEnvelope_recovers_iff (client : Client) (ambient : ClientAmbient) {claims : Claims}
    {datagram mediaSecret : Octets} (awaits : client.AwaitsKey claims)
    (offers : client.OffersKey sodium datagram mediaSecret) :
    Recovers sodium client (client.step sodium (ambient, .receive datagram)) claims mediaSecret
        (read (datagram.take clientPacketBytes)).senderId ↔
      client.joinSession.options.mediaSecret = [] ∧ client.outboundEnabled = true ∧
        client.joinSession.participantId ≠ 0 ∧
        (read (datagram.take clientPacketBytes)).senderId ≠
          client.joinSession.participantId := by
  obtain ⟨long, sender, epoch, valid⟩ := envelopeSecret_header sodium offers.opened
  rw [offers.accessEpoch] at epoch
  rw [offers.commitment] at valid
  obtain ⟨signature, parsed⟩ := awaits.ticket
  obtain ⟨key, derived⟩ := deriveMediaKey_of_committed offers.committed claims.roomId
    claims.roomInstanceId
  have received : client.step sodium (ambient, .receive datagram) =
      { client with outbox := [], effects := [] }.handleE2eKeyEnvelope sodium
        (datagram.take clientPacketBytes) :=
    onReceive_envelope sodium { client with outbox := [], effects := [] } ambient awaits.receiving
      offers.magic long
  have opened : envelopeSecret sodium { client with outbox := [], effects := [] }
      (datagram.take clientPacketBytes) = some mediaSecret := offers.opened
  have applied := applyMediaSecretRotation_current sodium { client with outbox := [], effects := [] }
    epoch offers.committed
  simp only [handleE2eKeyEnvelope, opened, offers.accessEpoch, offers.commitment, applied] at received
  by_cases empty : client.joinSession.options.mediaSecret = []
  · simp only [empty, ↓reduceIte, true_or] at received
    have found : mediaKeyFromSecret sodium (client.joinSession.setMediaKey mediaSecret
        client.joinSession.options.accessEpoch client.joinSession.options.mediaKeyCommitment) =
          some key :=
      mediaKeyFromSecret_eq_some.mpr ⟨claims, signature, parsed, awaits.room, offers.committed,
        derived⟩
    simp only [updateMediaKeyFromSecret, found] at received
    have kept := congrArg KeyState.sessionKey (sendKeyHandoffAck_keyState { client with
      joinSession := client.joinSession.setMediaKey mediaSecret
        client.joinSession.options.accessEpoch client.joinSession.options.mediaKeyCommitment
      sessionKey := some key
      outbox := []
      effects := [] } (read (datagram.take clientPacketBytes)).senderId
      client.joinSession.options.accessEpoch client.joinSession.options.mediaKeyCommitment)
    have installed : (client.step sodium (ambient, .receive datagram)).sessionKey = some key := by
      rw [received]
      exact kept
    simp only [Recovers, derived, installed, Option.some.injEq, exists_eq_left', true_and, empty]
    rw [received]
    exact sendKeyHandoffAck_sends_iff rfl sender epoch valid
  · have same : (client.step sodium (ambient, .receive datagram)).sessionKey = none := by
      simp only [empty, ↓reduceIte] at received
      rw [received]
      split
      · have kept := sendKeyHandoffAck_keyState { client with outbox := [], effects := [] }
          (read (datagram.take clientPacketBytes)).senderId
          client.joinSession.options.accessEpoch client.joinSession.options.mediaKeyCommitment
        exact (congrArg KeyState.sessionKey kept).trans awaits.keyless
      · exact awaits.keyless
    simp [Recovers, same, empty]

/-- A newcomer has a ticket for the room's secret, remembers a secret of its own or
none, and is acknowledged as participant 9. -/
def newcomer (mediaSecret : Octets) : Client :=
  Run.run (step .framing) (initial {} (some (ascii "ann", ascii "ann")))
    [(quietAmbient, .act (.joinRoom ⟨ascii "jam", ascii "ann", ascii "Ann",
        tuneTicket (ascii "one") 1 tuneSecret, mediaSecret, roomAccessOpen⟩ true)), tuneAck]

/-- Participant 5 hands the room's secret to participant 9. -/
def tuneEnvelope : Octets :=
  keyEnvelopeBytes 5 9 1 ((mediaKeyCommitment .framing tuneSecret).getD [])
    ((sealKeyEnvelope .framing (ascii "ann") (keyEnvelopePayload 1 tuneSecret)
      e2eKeyEnvelopeMaxBytes []).getD [])

theorem newcomer_ticket : ∃ claims signature,
    parseUnverified (tuneTicket (ascii "one") 1 tuneSecret) = .ok (claims, signature) ∧
      claims.roomId = ascii "jam" := by
  have named : (parseUnverified (tuneTicket (ascii "one") 1 tuneSecret)).toOption.map
      (fun parsed => parsed.1.roomId) = some (ascii "jam") := by decide +kernel
  cases parsed : parseUnverified (tuneTicket (ascii "one") 1 tuneSecret) with
  | error reason =>
    rw [parsed] at named
    cases named
  | ok found =>
    rw [parsed] at named
    exact ⟨found.1, found.2, rfl, Option.some.inj named⟩

/-- The newcomer waits for the key that participant 5 hands over, on what can be
computed of both. -/
theorem newcomer_awaits (computed : ((newcomer mediaSecret).receivingEnabled = true ∧
      (newcomer mediaSecret).joinSession.isJoinConfirmed = true ∧
      (newcomer mediaSecret).joinSession.options.joinToken =
        tuneTicket (ascii "one") 1 tuneSecret ∧
      (newcomer mediaSecret).joinSession.options.roomId = ascii "jam" ∧
      (newcomer mediaSecret).sessionKey = none) ∧
      magicOf (tuneEnvelope.take clientPacketBytes) = e2eKeyEnvelopeMagic ∧
      envelopeSecret .framing (newcomer mediaSecret) (tuneEnvelope.take clientPacketBytes) =
        some tuneSecret ∧
      (read (tuneEnvelope.take clientPacketBytes)).accessEpoch =
        (newcomer mediaSecret).joinSession.options.accessEpoch ∧
      (read (tuneEnvelope.take clientPacketBytes)).mediaKeyCommitment =
        (newcomer mediaSecret).joinSession.options.mediaKeyCommitment ∧
      mediaKeyCommitment .framing tuneSecret =
        some (newcomer mediaSecret).joinSession.options.mediaKeyCommitment) :
    ∃ claims, (newcomer mediaSecret).AwaitsKey claims ∧
      (newcomer mediaSecret).OffersKey .framing tuneEnvelope tuneSecret := by
  obtain ⟨⟨receiving, confirmed, token, room, keyless⟩, magic, opened, epoch, commitment,
    committed⟩ := computed
  obtain ⟨claims, signature, parsed, named⟩ := newcomer_ticket
  exact ⟨claims, ⟨receiving, confirmed, ⟨signature, token ▸ parsed⟩, named.trans room.symm, keyless⟩,
    ⟨magic, opened, epoch, commitment, committed⟩⟩

theorem keyEnvelope_recovers_iff_newcomer :
    ∃ claims, (newcomer []).AwaitsKey claims ∧
      (newcomer []).OffersKey .framing tuneEnvelope tuneSecret ∧
      Recovers .framing (newcomer []) ((newcomer []).step .framing
        (quietAmbient, .receive tuneEnvelope)) claims tuneSecret
        (read (tuneEnvelope.take clientPacketBytes)).senderId := by
  have able : (newcomer []).joinSession.options.mediaSecret = [] ∧
      (newcomer []).outboundEnabled = true ∧ (newcomer []).joinSession.participantId ≠ 0 ∧
      (read (tuneEnvelope.take clientPacketBytes)).senderId ≠
        (newcomer []).joinSession.participantId := by
    decide +kernel
  obtain ⟨claims, awaits, offers⟩ := @newcomer_awaits [] (by decide +kernel)
  exact ⟨claims, awaits, offers, (keyEnvelope_recovers_iff .framing (newcomer []) quietAmbient
    awaits offers).mpr able⟩

/-- A newcomer that remembers another secret gets no key and acknowledges nothing. -/
theorem keyEnvelope_unrecovered :
    ∃ claims, (newcomer Approving.newTune).AwaitsKey claims ∧
      (newcomer Approving.newTune).OffersKey .framing tuneEnvelope tuneSecret ∧
      ((newcomer Approving.newTune).step .framing
        (quietAmbient, .receive tuneEnvelope)).outbox = [] ∧
      ¬ Recovers .framing (newcomer Approving.newTune) ((newcomer Approving.newTune).step .framing
        (quietAmbient, .receive tuneEnvelope)) claims tuneSecret
        (read (tuneEnvelope.take clientPacketBytes)).senderId := by
  have silent : ((newcomer Approving.newTune).step .framing
      (quietAmbient, .receive tuneEnvelope)).outbox = [] := by decide +kernel
  obtain ⟨claims, awaits, offers⟩ := @newcomer_awaits Approving.newTune (by decide +kernel)
  refine ⟨claims, awaits, offers, silent, ?_⟩
  rintro ⟨-, ack, sent, -⟩
  rw [silent] at sent
  cases sent

end Client

end Sesivo
