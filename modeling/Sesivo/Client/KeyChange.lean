import Sesivo.Client.Handoff

set_option autoImplicit false

/- What one event can do to a client's media key: nothing of note, take over an
offered secret, or start over with the options of another room. -/

namespace Sesivo.Client

open Octets JoinToken SessionCrypto

/-- The session key is absent or the one the options determine. -/
def Derived (sodium : Sodium) (client : Client) : Prop :=
  client.sessionKey = none ∨ client.sessionKey = mediaKeyFromSecret sodium client.joinSession

/-- The effect of an event, given which epochs and commitments it may take over
and which options it may start over with. -/
inductive KeyChange (sodium : Sodium) (allowed : Content → Prop) (offers : UInt32 → Octets → Prop)
    (enters : PerformerJoinOptions → Prop) (before after : Client) : Prop where
  | routine (routine : Routine sodium allowed before after)
  | adopt (mediaSecret : Octets) (accessEpoch : UInt32) (commitment : Octets)
      (offered : offers accessEpoch commitment) (discreet : Discreet allowed before after)
      (keyPart : after.joinSession.options.keyPart = (before.joinSession.options.roomId,
        before.joinSession.options.joinToken, mediaSecret, accessEpoch, commitment))
      (derived : Derived sodium after)
  | enter (options : PerformerJoinOptions) (entered : enters options)
      (discreet : Discreet allowed before after)
      (keyPart : after.joinSession.options.keyPart = (applyUnverifiedTokenClaims options).keyPart)
      (derived : Derived sodium after)

variable {sodium : Sodium} {allowed : Content → Prop} {offers : UInt32 → Octets → Prop}
  {enters : PerformerJoinOptions → Prop}

theorem Routine.derived {before after : Client} (routine : Routine sodium allowed before after)
    (derived : Derived sodium before) : Derived sodium after := by
  rcases routine.sessionKey with kept | changed
  · unfold Derived
    rw [kept, mediaKeyFromSecret_congr sodium routine.keyPart]
    exact derived
  · exact changed

theorem KeyChange.discreet {before after : Client}
    (change : KeyChange sodium allowed offers enters before after) :
    Discreet allowed before after := by
  cases change with
  | routine routine => exact routine.toDiscreet
  | adopt _ _ _ _ discreet => exact discreet
  | enter _ _ discreet => exact discreet

theorem KeyChange.after_routine {first second third : Client}
    (routine : Routine sodium allowed first second)
    (change : KeyChange sodium allowed offers enters second third) :
    KeyChange sodium allowed offers enters first third := by
  cases change with
  | routine later => exact .routine (routine.trans later)
  | adopt mediaSecret accessEpoch commitment offered discreet keyPart derived =>
    refine .adopt mediaSecret accessEpoch commitment offered (routine.toDiscreet.trans discreet)
      ?_ derived
    have same := routine.keyPart
    simp only [PerformerJoinOptions.keyPart, Prod.mk.injEq] at same
    rw [keyPart, same.1, same.2.1]
  | enter options entered discreet keyPart derived =>
    exact .enter options entered (routine.toDiscreet.trans discreet) keyPart derived

theorem KeyChange.then_routine {first second third : Client}
    (change : KeyChange sodium allowed offers enters first second)
    (routine : Routine sodium allowed second third) :
    KeyChange sodium allowed offers enters first third := by
  cases change with
  | routine earlier => exact .routine (earlier.trans routine)
  | adopt mediaSecret accessEpoch commitment offered discreet keyPart derived =>
    exact .adopt mediaSecret accessEpoch commitment offered (discreet.trans routine.toDiscreet)
      (routine.keyPart.trans keyPart) (routine.derived derived)
  | enter options entered discreet keyPart derived =>
    exact .enter options entered (discreet.trans routine.toDiscreet)
      (routine.keyPart.trans keyPart) (routine.derived derived)

/-- A key change with what it makes of the machine, and without an acknowledgement. -/
structure Handles (sodium : Sodium) (allowed : Content → Prop) (offers : UInt32 → Octets → Prop)
    (enters : PerformerJoinOptions → Prop) (signals : List KeySignal) (before after : Client) :
    Prop where
  change : KeyChange sodium allowed offers enters before after
  noAck : NoAck before after
  follows : Follows sodium signals before after

theorem Does.handles {before after : Client} (does : Does sodium allowed before after) :
    Handles sodium allowed offers enters [] before after :=
  ⟨.routine does.toRoutine, does.noAck, does.follows⟩

theorem Handles.then_does {first second third : Client} {signals : List KeySignal}
    (handles : Handles sodium allowed offers enters signals first second)
    (does : Does sodium allowed second third) :
    Handles sodium allowed offers enters signals first third :=
  ⟨handles.change.then_routine does.toRoutine, handles.noAck.trans does.noAck,
    handles.follows.trans does.follows⟩

/-- Something routine with signals of its own happens first. -/
theorem Handles.after {first second third : Client} {signals : List KeySignal}
    (routine : Routine sodium allowed first second) (noAck : NoAck first second)
    (follows : Follows sodium signals first second)
    (handles : Handles sodium allowed offers enters [] second third) :
    Handles sodium allowed offers enters signals first third :=
  ⟨.after_routine routine handles.change, noAck.trans handles.noAck, follows.trans handles.follows⟩

variable (sodium : Sodium)

variable (client : Client) (ambient : ClientAmbient) (packet mediaSecret : Octets)
variable (accessEpoch : UInt32) (choice : RoomChoice) (resolved : Bool)

theorem updateMediaKey_derived : Derived sodium (client.updateMediaKeyFromSecret sodium) := by
  unfold updateMediaKeyFromSecret
  split
  · exact .inl rfl
  next derived found => exact .inr found.symm

theorem updateMediaKey_frame :
    (client.updateMediaKeyFromSecret sodium).participantKeyPublic = client.participantKeyPublic ∧
      (client.updateMediaKeyFromSecret sodium).joinSession = client.joinSession := by
  unfold updateMediaKeyFromSecret
  split <;> exact ⟨rfl, rfl⟩

/-- Taking over a secret, with what it leaves alone. -/
theorem applyMediaSecretRotation_handles (commitment : Octets)
    (offered : offers accessEpoch commitment) :
    Handles sodium allowed offers enters [] client
        (client.applyMediaSecretRotation sodium mediaSecret accessEpoch commitment).2 ∧
      (client.applyMediaSecretRotation sodium mediaSecret accessEpoch
        commitment).2.participantKeyPublic = client.participantKeyPublic ∧
      (client.applyMediaSecretRotation sodium mediaSecret accessEpoch
        commitment).2.joinSession.participantId = client.joinSession.participantId := by
  have follows : Follows sodium [] client
      (client.applyMediaSecretRotation sodium mediaSecret accessEpoch commitment).2 :=
    .of_step (.offer mediaSecret accessEpoch commitment)
      (applyMediaSecretRotation_keyState sodium client mediaSecret accessEpoch commitment)
  revert follows
  simp only [applyMediaSecretRotation]
  split
  · exact fun _ => ⟨(Does.refl client).handles, rfl, rfl⟩
  intro follows
  have updated := @updateMediaKey_does allowed sodium { client with
    joinSession := client.joinSession.setMediaKey mediaSecret accessEpoch commitment }
  obtain ⟨keys, session⟩ := updateMediaKey_frame sodium { client with
    joinSession := client.joinSession.setMediaKey mediaSecret accessEpoch commitment }
  have recorded : Discreet allowed client { client with
      joinSession := client.joinSession.setMediaKey mediaSecret accessEpoch commitment } :=
    .of_same (fun _ member => member) rfl
  refine ⟨⟨.adopt mediaSecret accessEpoch commitment offered (recorded.trans updated.toDiscreet)
    updated.keyPart (updateMediaKey_derived sodium _), updated.noAck, follows⟩, keys, ?_⟩
  rw [session]
  rfl

/-- A rotation started here reaches everyone whose key is known. -/
theorem rotateMediaKey_handles
    (offered : ∀ commitment, mediaKeyCommitment sodium mediaSecret = some commitment →
      offers accessEpoch commitment)
    (rotating : ∀ key, client.sessionKey = some key → allowed (.rotation key mediaSecret))
    (permitted : ∀ participantId publicKey,
      client.participantKeyPublic.lookup participantId = some publicKey →
      participantId ≠ client.joinSession.participantId → Granted allowed participantId) :
    Handles sodium allowed offers enters [] client
      (client.rotateMediaKeyOnIoContext sodium ambient mediaSecret accessEpoch) := by
  unfold rotateMediaKeyOnIoContext
  split
  next key commitment keyed committed =>
    split
    · exact (Does.refl client).handles
    have numbered : Does sodium allowed client
        { client with secureControlSequence := client.secureControlSequence + 1 } :=
      .quiet rfl rfl rfl
    split
    · exact numbered.handles
    rename_i packet built
    obtain ⟨bytes, written, rfl⟩ := Option.map_eq_some_iff.mp built
    have sent := numbered.trans (@send_does sodium allowed _ ⟨bytes, .rotation key mediaSecret⟩
      (fun _ => rotating key keyed) (sealControlPacket_not_ack written))
    have frame : ({ client with secureControlSequence := client.secureControlSequence + 1 }.send
          ⟨bytes, .rotation key mediaSecret⟩).participantKeyPublic = client.participantKeyPublic ∧
        ({ client with secureControlSequence := client.secureControlSequence + 1 }.send
          ⟨bytes, .rotation key mediaSecret⟩).joinSession = client.joinSession := by
      unfold send
      split <;> exact ⟨rfl, rfl⟩
    obtain ⟨rotated, keys, self⟩ := @applyMediaSecretRotation_handles allowed offers enters sodium
      ({ client with secureControlSequence := client.secureControlSequence + 1 }.send
        ⟨bytes, .rotation key mediaSecret⟩)
      mediaSecret accessEpoch commitment (offered commitment committed)
    refine (Handles.after sent.toRoutine sent.noAck sent.follows rotated).then_does
      (handOverToAll_does sodium _ ambient ?_)
    intro participantId publicKey found other
    rw [keys, frame.1] at found
    rw [self, frame.2] at other
    exact permitted participantId publicKey found other
  · exact (Does.refl client).handles

theorem sendJoin_does : Does sodium allowed client (client.sendJoin sodium ambient) := by
  unfold sendJoin
  split
  · exact .refl client
  rename_i join built
  refine (updateMediaKey_does sodium client).trans (Does.trans ?_
    (send_does _ (permitted_clear join) (makeJoinHeader_not_ack built)))
  exact .quiet rfl rfl rfl

theorem sendJoin_follows : Follows sodium [] client (client.sendJoin sodium ambient) :=
  (@sendJoin_does (fun _ => True) sodium client ambient).follows

theorem startConnection_routine :
    Routine sodium allowed client (client.startConnectionOnIoContext sodium ambient resolved) ∧
      NoAck client (client.startConnectionOnIoContext sodium ambient resolved) := by
  simp only [startConnectionOnIoContext]
  split
  · exact ⟨⟨.of_same (fun _ member => member) rfl, rfl, .inl rfl⟩, .of_same rfl⟩
  have joined (current : Client) := @sendJoin_does allowed sodium current ambient
  refine ⟨Routine.trans ?_ (joined _).toRoutine, NoAck.trans (.of_same rfl) (joined _).noAck⟩
  exact ⟨.of_same (fun _ member => member) rfl, rfl, .inr (.inl rfl)⟩

theorem startConnection_derived :
    Derived sodium (client.startConnectionOnIoContext sodium ambient true) := by
  exact (@sendJoin_does (fun _ => True) sodium _ ambient).derived (.inl rfl)

theorem configureRoom_discreet (options : PerformerJoinOptions) :
    Discreet allowed client (client.configureRoom options) :=
  .of_same (fun _ member => nomatch member) rfl

theorem joinRoom_discreet :
    Discreet allowed client (client.joinRoom sodium ambient choice resolved) :=
  (client.configureRoom_discreet (client.joinOptions choice)).trans
    (startConnection_routine sodium _ ambient resolved).1.toDiscreet

theorem joinRoom_change (entered : enters (client.joinOptions choice)) :
    KeyChange sodium allowed offers enters client (client.joinRoom sodium ambient choice true) :=
  .enter (client.joinOptions choice) entered (joinRoom_discreet sodium client ambient choice true)
    (@startConnection_routine (fun _ => True) sodium _ ambient true).1.keyPart
    (startConnection_derived sodium _ ambient)

theorem disconnect_handles (notifyServer : Bool) (entered : enters {}) :
    Handles sodium allowed offers enters [] client
      (client.disconnectFromServer notifyServer) := by
  have outbox : (client.disconnectFromServer notifyServer).outbox =
      if notifyServer && client.hasServerEndpoint then client.outbox ++ [leaveDatagram]
      else client.outbox := rfl
  have left := @append_does sodium allowed client leaveDatagram (permitted_clear _)
    leaveDatagram_not_ack
  refine ⟨.enter {} entered ⟨(fun _ member => nomatch member), ?_⟩ rfl (.inl rfl), ?_,
    .of_step .close rfl⟩
  · rw [outbox]
    split
    · exact left.outbox
    · exact fun _ member => .inl member
  unfold NoAck
  rw [outbox]
  split
  · exact left.noAck
  · exact fun _ member _ => member

theorem rebind_does :
    Does sodium allowed client (client.rebindUdpSocketAndRejoin sodium ambient) := by
  unfold rebindUdpSocketAndRejoin
  split
  · exact .refl client
  have left := @append_does sodium allowed client leaveDatagram (permitted_clear _)
    leaveDatagram_not_ack
  refine (left.trans ?_).trans (sendJoin_does sodium _ ambient)
  exact .quiet rfl rfl rfl

theorem joinRetryTimer_does
    (permitted : ∀ participantId ∈ client.pendingKeyHandoffAcks, Granted allowed participantId) :
    Does sodium allowed client (client.joinRetryTimerCallback sodium ambient) := by
  unfold joinRetryTimerCallback
  split
  · exact .refl client
  split
  · have joined := @sendJoin_does allowed sodium client ambient
    refine joined.trans (retryPendingKeyHandoffs_does sodium _ ambient ?_)
    intro participantId member
    rcases joined.pending participantId member with old | granted
    · exact permitted participantId old
    · exact granted
  · exact retryPendingKeyHandoffs_does sodium client ambient permitted

theorem aliveTimer_does :
    Does sodium allowed client (client.aliveTimerCallback sodium ambient) := by
  unfold aliveTimerCallback
  split
  · exact .refl client
  split
  · exact sendJoin_does sodium client ambient
  · exact send_does client (permitted_clear _) aliveDatagram_not_ack

theorem setRoomAccessMode_does (accessMode : UInt8)
    (permitted : accessMode ≠ roomAccessApprove → ∀ participantId,
      (∃ waiting, client.pendingAccessRequests.lookup participantId = some waiting) →
      Granted allowed participantId) :
    Does sodium allowed client (client.setRoomAccessMode sodium ambient accessMode) := by
  have switched : Does sodium allowed client
      { client with joinSession := client.joinSession.setAccessMode accessMode } :=
    .quiet rfl rfl rfl
  simp only [setRoomAccessMode]
  split
  · exact switched
  rename_i shared
  refine switched.trans (foldl_does _ _ ?_ _)
  intro current participantId member
  exact admitWaiting_does sodium current ambient
    (permitted shared participantId ((Store.mem_pairs_fst _ _).mp member))

theorem handleParticipantInfo_does
    (permitted : client.joinSession.options.accessMode ≠ roomAccessApprove →
      Granted allowed (CtrlHdr.read packet).participantId) :
    Does sodium allowed client (client.handleParticipantInfo sodium ambient packet) := by
  simp only [handleParticipantInfo]
  split
  · exact .refl client
  have remembered (keyPublic : Octets) := @rememberParticipantKey_same allowed sodium client
    (CtrlHdr.read packet).participantId (fixedString (slice packet 9 64))
    (fixedString (slice packet 73 64)) keyPublic (keyPublic.any (· ≠ 0))
  refine (remembered _).1.trans (maybeAutoShareMediaKey_does sodium _ ambient ?_)
  intro shared
  rw [(remembered _).2] at shared
  exact permitted shared

theorem handleJoinRequired_does :
    Does sodium allowed client (client.handleJoinRequired sodium ambient) := by
  have marked : Does sodium allowed client { client with
      joinSession := client.joinSession.markJoinRequired
      recentOpusAudioPacketsResetRequested := true } :=
    .quiet rfl rfl rfl
  exact marked.trans (sendJoin_does sodium _ ambient)

theorem handleKeyHandoffAck_does :
    Does sodium allowed client (client.handleKeyHandoffAck packet) := by
  simp only [handleKeyHandoffAck]
  split
  · exact .of_same (fun _ member => (List.mem_filter.mp member).1) rfl rfl
  · exact .refl client

theorem handleCtrlMessage_handles (entered : enters {})
    (permitted : (CtrlHdr.read packet).type = some .participantInfo →
      client.joinSession.options.accessMode ≠ roomAccessApprove →
      Granted allowed (CtrlHdr.read packet).participantId) :
    Handles sodium allowed offers enters (ctrlSignals packet) client
      (client.handleCtrlMessage sodium ambient packet) := by
  unfold handleCtrlMessage
  split
  next type =>
    rw [ctrlSignals, if_pos type]
    refine ⟨.routine ⟨.of_same (fun _ member => (List.mem_filter.mp member).1) rfl, rfl, .inl rfl⟩,
      .of_same rfl, .of_signal (.leave _) rfl⟩
  next type =>
    rw [ctrlSignals_of_other (by rw [type]; decide)]
    exact (handleParticipantInfo_does sodium client ambient packet (permitted type)).handles
  next type =>
    rw [ctrlSignals_of_other (by rw [type]; decide)]
    have quiet : Does sodium allowed client (client.handleJoinAck packet) := .quiet rfl rfl rfl
    exact quiet.handles
  next type =>
    rw [ctrlSignals_of_other (by rw [type]; decide)]
    split
    · exact disconnect_handles sodium client false entered
    · exact (Does.refl client).handles
  next type =>
    rw [ctrlSignals_of_other (by rw [type]; decide)]
    exact (handleJoinRequired_does sodium client ambient).handles
  next type =>
    rw [ctrlSignals_of_other (by rw [type]; decide)]
    exact disconnect_handles sodium client false entered
  next type =>
    rw [ctrlSignals_of_other (by rw [type]; decide)]
    exact (handleKeyHandoffAck_does sodium client packet).handles
  next other _ _ _ _ _ _ =>
    rw [ctrlSignals_of_other other]
    exact (Does.refl client).handles

theorem acceptSecureControl_routine (senderId sequence : UInt32) :
    Routine sodium allowed client (client.acceptSecureControlSequence senderId sequence).2 ∧
      NoAck client (client.acceptSecureControlSequence senderId sequence).2 := by
  simp only [acceptSecureControlSequence]
  split
  · exact ⟨.refl client, .refl client⟩
  · exact ⟨⟨.of_same (fun _ member => member) rfl, rfl, .inl rfl⟩, .of_same rfl⟩

/-- The epochs and commitments a received packet can make the client take over. -/
def Brings (packet : Octets) (accessEpoch : UInt32) (commitment : Octets) : Prop :=
  magicOf packet ≠ ctrlMagic ∧ packetKey packet = some (accessEpoch, commitment)

theorem handleSecureControl_handles
    (offered : ∀ accessEpoch commitment, Brings packet accessEpoch commitment →
      offers accessEpoch commitment) :
    Handles sodium allowed offers enters
      ((client.openedControl sodium packet).map fun metadata =>
        KeySignal.control metadata.senderId metadata.sequence).toList client
      (client.handleSecureControlMessage sodium packet) := by
  unfold handleSecureControlMessage openedControl
  split
  next keyless =>
    rw [keyless]
    exact (Does.refl client).handles
  rename_i key keyed
  rw [keyed, Option.bind_some]
  split
  next closed =>
    rw [closed]
    exact (Does.refl client).handles
  rename_i metadata plaintext opened
  rw [opened]
  have numbered : Follows sodium [.control metadata.senderId metadata.sequence] client
      (client.acceptSecureControlSequence metadata.senderId metadata.sequence).2 :=
    .of_signal (.control _ _) (acceptSecureControl_keyState client _ _)
  obtain ⟨routine, noAck⟩ := @acceptSecureControl_routine allowed sodium client
    metadata.senderId metadata.sequence
  split
  next replayed answer =>
    rw [answer] at numbered routine noAck
    exact ⟨.routine routine, noAck, numbered⟩
  rename_i accepted answer
  rw [answer] at numbered routine noAck
  split
  · exact ⟨.routine routine, noAck, numbered⟩
  rename_i mediaSecret carried
  obtain ⟨magic, epoch, committed⟩ := openControlPacket_fields opened
  have brought : Brings packet metadata.accessEpoch metadata.mediaKeyCommitment := by
    refine ⟨by rw [magic]; decide, ?_⟩
    simp only [packetKey, magic, epoch, committed]
    rfl
  exact .after routine noAck numbered (applyMediaSecretRotation_handles sodium accepted
    mediaSecret _ _ (offered _ _ brought)).1

theorem handleE2eKeyEnvelope_change (magic : magicOf packet = e2eKeyEnvelopeMagic)
    (offered : ∀ accessEpoch commitment, Brings packet accessEpoch commitment →
      offers accessEpoch commitment) :
    KeyChange sodium allowed offers enters client (client.handleE2eKeyEnvelope sodium packet) ∧
      Follows sodium [] client (client.handleE2eKeyEnvelope sodium packet) := by
  simp only [handleE2eKeyEnvelope]
  split
  · exact ⟨.routine (.refl client), .of_same rfl⟩
  rename_i mediaSecret opened
  have brought : Brings packet (E2EKeyEnvelopeHdr.read packet).accessEpoch
      (E2EKeyEnvelopeHdr.read packet).mediaKeyCommitment := by
    refine ⟨by rw [magic]; decide, ?_⟩
    simp only [packetKey, magic, ↓reduceIte]
  have rotated := (@applyMediaSecretRotation_handles allowed offers enters sodium client
    mediaSecret _ _ (offered _ _ brought)).1
  split
  · exact ⟨rotated.change.then_routine (sendKeyHandoffAck_routine sodium _ _ _ _),
      rotated.follows.trans (.of_same (sendKeyHandoffAck_keyState _ _ _ _))⟩
  · exact ⟨rotated.change, rotated.follows⟩

/-- The packet announces the participant to a client that asks for no approval. -/
def Announces (client : Client) (packet : Octets) (participantId : UInt32) : Prop :=
  client.joinSession.options.accessMode ≠ roomAccessApprove ∧
    (magicOf packet = ctrlMagic ∧ ctrlHdrBytes ≤ packet.length) ∧
    (CtrlHdr.read packet).type = some .participantInfo ∧
    participantId = (CtrlHdr.read packet).participantId

/-- A received datagram brings at most the epoch and commitment of its header, and
hands the key out by itself only where no approval is asked for. -/
theorem onReceive_change (datagram : Octets) (entered : enters {})
    (offered : ∀ accessEpoch commitment,
      Brings (datagram.take clientPacketBytes) accessEpoch commitment →
      offers accessEpoch commitment)
    (permitted : ∀ participantId,
      client.Announces (datagram.take clientPacketBytes) participantId →
      Granted allowed participantId) :
    KeyChange sodium allowed offers enters client (client.onReceive sodium ambient datagram) ∧
      Follows sodium (client.signals sodium datagram) client
        (client.onReceive sodium ambient datagram) := by
  simp only [onReceive, signals]
  split
  · exact ⟨.routine (.refl client), .of_same rfl⟩
  split
  next framed =>
    have handled := @handleCtrlMessage_handles allowed offers enters sodium client ambient
      (datagram.take clientPacketBytes) entered
      (fun type shared => permitted _ ⟨shared, framed, type, rfl⟩)
    exact ⟨handled.change, handled.follows⟩
  split
  · have handled := @handleSecureControl_handles allowed offers enters sodium client
      (datagram.take clientPacketBytes) offered
    exact ⟨handled.change, handled.follows⟩
  split
  · have heard := @handleSecureAudioMessage_does allowed sodium client ambient
      (datagram.take clientPacketBytes)
    exact ⟨.routine heard.toRoutine, heard.follows⟩
  split
  next magic => exact handleE2eKeyEnvelope_change sodium client _ magic offered
  · exact ⟨.routine (.refl client), .of_same rfl⟩

/-- The participants a user's action may hand the key to. -/
def ActsFor (client : Client) (action : ClientAction) (participantId : UInt32) : Prop :=
  match action with
  | .approveWaitingParticipant approvedId => participantId = approvedId
  | .setRoomAccessMode accessMode => accessMode ≠ roomAccessApprove ∧
      ∃ waiting, client.pendingAccessRequests.lookup participantId = some waiting
  | .joinRetryTimer => participantId ∈ client.pendingKeyHandoffAcks
  | .rotateMediaKey _ _ => participantId ≠ client.joinSession.participantId ∧
      ∃ publicKey, client.participantKeyPublic.lookup participantId = some publicKey
  | _ => False

/-- An action within one join. -/
theorem act_handles (action : ClientAction) (within : ¬ action.Opens) (left : enters {})
    (offered : ∀ mediaSecret accessEpoch commitment,
      action = .rotateMediaKey mediaSecret accessEpoch →
      mediaKeyCommitment sodium mediaSecret = some commitment → offers accessEpoch commitment)
    (rotating : ∀ mediaSecret accessEpoch, action = .rotateMediaKey mediaSecret accessEpoch →
      ∀ key, client.sessionKey = some key → allowed (.rotation key mediaSecret))
    (permitted : ∀ participantId, ActsFor client action participantId → Granted allowed participantId) :
    Handles sodium allowed offers enters [] client (client.act sodium ambient action) := by
  cases action with
  | joinRoom choice resolved | startConnection resolved => exact absurd trivial within
  | stopConnection => exact disconnect_handles sodium client true left
  | rebind => exact (rebind_does sodium client ambient).handles
  | joinRetryTimer => exact (joinRetryTimer_does sodium client ambient permitted).handles
  | aliveTimer => exact (aliveTimer_does sodium client ambient).handles
  | rotateMediaKey mediaSecret accessEpoch =>
    refine rotateMediaKey_handles sodium client ambient mediaSecret accessEpoch
      (fun commitment => offered mediaSecret accessEpoch commitment rfl)
      (rotating mediaSecret accessEpoch rfl) ?_
    intro participantId publicKey found other
    exact permitted participantId ⟨other, publicKey, found⟩
  | setRoomAccessMode accessMode =>
    exact (setRoomAccessMode_does sodium client ambient accessMode
      fun shared participantId waits => permitted participantId ⟨shared, waits⟩).handles
  | approveWaitingParticipant participantId =>
    exact (admitWaiting_does sodium client ambient (permitted participantId rfl)).handles
  | prepareAudio frame => exact (prepareAudio_does sodium client frame).handles
  | transmitAudio => exact (transmitAudio_does sodium client ambient).handles

/-- What an action does to the machine and to the acknowledgements needs no permission. -/
theorem act_handles_any (action : ClientAction) (within : ¬ action.Opens) :
    Handles sodium (fun _ => True) (fun _ _ => True) (fun _ => True) [] client
      (client.act sodium ambient action) :=
  act_handles sodium client ambient action within trivial (fun _ _ _ _ _ => trivial)
    (fun _ _ _ _ _ => trivial) (fun _ _ _ _ => trivial)

/-- Only joining a room whose server address does not resolve leaves more behind
than a key change: its new options stand beside the old key. -/
theorem act_change (action : ClientAction)
    (resolving : ∀ choice, action ≠ .joinRoom choice false) (left : enters {})
    (entered : ∀ choice, action = .joinRoom choice true → enters (client.joinOptions choice))
    (offered : ∀ mediaSecret accessEpoch commitment,
      action = .rotateMediaKey mediaSecret accessEpoch →
      mediaKeyCommitment sodium mediaSecret = some commitment → offers accessEpoch commitment)
    (rotating : ∀ mediaSecret accessEpoch, action = .rotateMediaKey mediaSecret accessEpoch →
      ∀ key, client.sessionKey = some key → allowed (.rotation key mediaSecret))
    (permitted : ∀ participantId, ActsFor client action participantId → Granted allowed participantId) :
    KeyChange sodium allowed offers enters client (client.act sodium ambient action) := by
  by_cases within : action.Opens
  · rcases within.cases with ⟨choice, resolved, rfl⟩ | ⟨resolved, rfl⟩
    · cases resolved with
      | false => exact absurd rfl (resolving choice)
      | true => exact joinRoom_change sodium client ambient choice (entered choice rfl)
    · exact .routine (startConnection_routine sodium client ambient resolved).1
  · exact (act_handles sodium client ambient action within left offered rotating permitted).change

/-- What an event sends and promises: a rotation goes out under the client's session
key, and key envelopes go where the user's action or an open room lets them. -/
theorem step_discreet (event : ClientAmbient × ClientEvent) (rotating : ∀ mediaSecret accessEpoch,
      event.2 = .act (.rotateMediaKey mediaSecret accessEpoch) →
      ∀ key, client.sessionKey = some key → allowed (.rotation key mediaSecret))
    (received : ∀ datagram, event.2 = .receive datagram → ∀ participantId,
      client.Announces (datagram.take clientPacketBytes) participantId →
      Granted allowed participantId)
    (permitted : ∀ action, event.2 = .act action →
      ∀ participantId, ActsFor client action participantId → Granted allowed participantId) :
    Discreet allowed { client with outbox := [], effects := [] } (client.step sodium event) := by
  obtain ⟨ambient, event⟩ := event
  cases event with
  | receive datagram =>
    exact (@onReceive_change allowed (fun _ _ => True) (fun _ => True) sodium
      { client with outbox := [], effects := [] } ambient datagram trivial
      (fun _ _ _ => trivial) (received datagram rfl)).1.discreet
  | act action =>
    by_cases resolving : ∀ choice, action ≠ .joinRoom choice false
    · refine (@act_change allowed (fun _ _ => True) (fun _ => True) sodium
        { client with outbox := [], effects := [] } ambient action resolving trivial
        (fun _ _ => trivial) (fun _ _ _ _ _ => trivial) ?_ (permitted action rfl)).discreet
      intro mediaSecret accessEpoch same
      exact rotating mediaSecret accessEpoch (congrArg ClientEvent.act same)
    · obtain ⟨choice, joining⟩ := not_forall.mp resolving
      rw [not_ne_iff.mp joining]
      exact joinRoom_discreet sodium _ ambient choice false

theorem act_noAck (action : ClientAction) : NoAck client (client.act sodium ambient action) := by
  by_cases within : action.Opens
  · rcases within.cases with ⟨choice, resolved, rfl⟩ | ⟨resolved, rfl⟩
    · exact (@startConnection_routine (fun _ => True) sodium
        (client.configureRoom (client.joinOptions choice)) ambient resolved).2
    · exact (@startConnection_routine (fun _ => True) sodium client ambient resolved).2
  · exact (act_handles_any sodium client ambient action within).noAck

/-- Within one join, an event is a sequence of key events with the signals of its datagram. -/
theorem step_follows (client : Client) (event : ClientAmbient × ClientEvent)
    (within : ¬ event.2.Opens) :
    Follows sodium (client.eventSignals sodium event.2) client (client.step sodium event) := by
  obtain ⟨ambient, event⟩ := event
  cases event with
  | act action =>
    exact (act_handles_any sodium { client with outbox := [], effects := [] } ambient action
      within).follows
  | receive datagram =>
    exact (@onReceive_change (fun _ => True) (fun _ _ => True) (fun _ => True) sodium
      { client with outbox := [], effects := [] } ambient datagram trivial (fun _ _ _ => trivial)
      (fun _ _ _ _ => trivial)).2

end Sesivo.Client
