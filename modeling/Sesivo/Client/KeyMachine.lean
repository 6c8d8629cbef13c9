import Sesivo.Client.Runtime

set_option autoImplicit false

/- The media key as a machine of its own. Everything the client does to its
secret, epoch, commitment, session key and replay windows within one join is a
signal of the datagram it received and then a sequence of three kinds of events,
so results about whole runs look at those only. -/

namespace Sesivo

open Octets JoinToken SessionCrypto

def PerformerJoinOptions.keyPart (options : PerformerJoinOptions) :
    Octets × Octets × Octets × UInt32 × Octets :=
  (options.roomId, options.joinToken, options.mediaSecret, options.accessEpoch,
    options.mediaKeyCommitment)

/-- The part of a client's state that decides about its media key. -/
structure KeyState where
  outboundEnabled : Bool
  sessionKey : Option Octets
  secureControlReplayWindows : Store UInt32 ReplayWindow
  roomId : Octets
  joinToken : Octets
  mediaSecret : Octets
  accessEpoch : UInt32
  mediaKeyCommitment : Octets

/-- What a received datagram does to the replay windows. -/
inductive KeySignal where
  | control (senderId sequence : UInt32)
  | leave (participantId : UInt32)
deriving DecidableEq

inductive KeyEvent where
  | refresh
  | offer (mediaSecret : Octets) (accessEpoch : UInt32) (commitment : Octets)
  | close

namespace KeyState

def session (state : KeyState) : ClientJoinSession where
  options :=
    { roomId := state.roomId
      joinToken := state.joinToken
      mediaSecret := state.mediaSecret
      accessEpoch := state.accessEpoch
      mediaKeyCommitment := state.mediaKeyCommitment }

def close : KeyState where
  outboundEnabled := false
  sessionKey := none
  secureControlReplayWindows := ∅
  roomId := []
  joinToken := []
  mediaSecret := []
  accessEpoch := 0
  mediaKeyCommitment := []

/-- The replay window of a sender; a new one is empty. -/
def window (state : KeyState) (senderId : UInt32) : ReplayWindow :=
  (state.secureControlReplayWindows.lookup senderId).getD {}

def receive (state : KeyState) : KeySignal → KeyState
  | .control senderId sequence =>
    if senderId = 0 ∨ sequence = 0 then state
    else { state with
      secureControlReplayWindows := state.secureControlReplayWindows.insert senderId
        ((state.window senderId).accept sequence).2 }
  | .leave participantId => { state with
      secureControlReplayWindows := state.secureControlReplayWindows.erase participantId }

variable (sodium : Sodium)

def derivedKey (state : KeyState) : Option Octets := Client.mediaKeyFromSecret sodium state.session

def refresh (state : KeyState) : KeyState :=
  match state.derivedKey sodium with
  | none => { state with sessionKey := none, secureControlReplayWindows := ∅ }
  | some derived => { state with sessionKey := some derived }

/-- An offered secret that is not taken over: a bad one, or one for an epoch that is settled. -/
def Refuses (state : KeyState) (mediaSecret : Octets) (accessEpoch : UInt32)
    (commitment : Octets) : Prop :=
  accessEpoch = 0 ∨ mediaSecretMatchesCommitment sodium mediaSecret commitment = false ∨
    accessEpoch < state.accessEpoch ∨
    (accessEpoch = state.accessEpoch ∧ state.session.hasMediaSecret = true) ∨
    (accessEpoch = state.accessEpoch ∧ commitment ≠ state.mediaKeyCommitment)

instance (state : KeyState) (mediaSecret : Octets) (accessEpoch : UInt32) (commitment : Octets) :
    Decidable (state.Refuses sodium mediaSecret accessEpoch commitment) := by
  unfold Refuses
  infer_instance

def offer (state : KeyState) (mediaSecret : Octets) (accessEpoch : UInt32)
    (commitment : Octets) : KeyState :=
  if state.Refuses sodium mediaSecret accessEpoch commitment then state
  else { state with
    mediaSecret := mediaSecret
    accessEpoch := accessEpoch
    mediaKeyCommitment := commitment }.refresh sodium

def step (state : KeyState) : KeyEvent → KeyState
  | .refresh => state.refresh sodium
  | .offer mediaSecret accessEpoch commitment => state.offer sodium mediaSecret accessEpoch commitment
  | .close => close

end KeyState

namespace Client

def keyState (client : Client) : KeyState where
  outboundEnabled := client.outboundEnabled
  sessionKey := client.sessionKey
  secureControlReplayWindows := client.secureControlReplayWindows
  roomId := client.joinSession.options.roomId
  joinToken := client.joinSession.options.joinToken
  mediaSecret := client.joinSession.options.mediaSecret
  accessEpoch := client.joinSession.options.accessEpoch
  mediaKeyCommitment := client.joinSession.options.mediaKeyCommitment

/-- The derived key depends on the key part of the options only. -/
theorem mediaKeyFromSecret_congr (sodium : Sodium) {left right : ClientJoinSession}
    (same : left.options.keyPart = right.options.keyPart) :
    mediaKeyFromSecret sodium left = mediaKeyFromSecret sodium right := by
  obtain ⟨options, _⟩ := left
  obtain ⟨others, _⟩ := right
  cases options
  cases others
  obtain ⟨rfl, rfl, rfl, rfl, rfl⟩ := same
  rfl

theorem derivedKey_keyState (sodium : Sodium) (client : Client) :
    client.keyState.derivedKey sodium = mediaKeyFromSecret sodium client.joinSession :=
  mediaKeyFromSecret_congr sodium rfl

theorem keyPart_of_keyState {before after : Client} (same : after.keyState = before.keyState) :
    after.joinSession.options.keyPart = before.joinSession.options.keyPart :=
  congrArg (fun state : KeyState => (state.roomId, state.joinToken, state.mediaSecret,
    state.accessEpoch, state.mediaKeyCommitment)) same

@[simp] theorem send_keyState (client : Client) (datagram : Datagram) :
    (client.send datagram).keyState = client.keyState := by
  unfold send
  split <;> rfl

section

variable (sodium : Sodium) (client : Client)

theorem updateMediaKey_keyState :
    (client.updateMediaKeyFromSecret sodium).keyState = client.keyState.refresh sodium := by
  unfold updateMediaKeyFromSecret KeyState.refresh
  rw [derivedKey_keyState]
  cases mediaKeyFromSecret sodium client.joinSession <;> rfl

theorem applyMediaSecretRotation_keyState (mediaSecret : Octets)
    (accessEpoch : UInt32) (commitment : Octets) :
    (client.applyMediaSecretRotation sodium mediaSecret accessEpoch commitment).2.keyState =
      client.keyState.offer sodium mediaSecret accessEpoch commitment := by
  simp only [applyMediaSecretRotation, KeyState.offer]
  split
  next refused => exact (if_pos refused).symm
  next taken =>
    refine (updateMediaKey_keyState sodium _).trans (Eq.symm (if_neg ?_))
    exact taken

theorem sendKeyHandoffAck_keyState (targetId accessEpoch : UInt32) (commitment : Octets) :
    (client.sendKeyHandoffAckOnIo targetId accessEpoch commitment).keyState = client.keyState := by
  simp only [sendKeyHandoffAckOnIo]
  split
  · rfl
  · exact send_keyState client _

theorem acceptSecureControl_keyState (senderId sequence : UInt32) :
    (client.acceptSecureControlSequence senderId sequence).2.keyState =
      client.keyState.receive (.control senderId sequence) := by
  simp only [acceptSecureControlSequence, KeyState.receive]
  split <;> rfl

end

/-- The change from one client to another: the given signals, then any key events. -/
def Follows (sodium : Sodium) (signals : List KeySignal) (before after : Client) : Prop :=
  ∃ trace, after.keyState = Run.run (KeyState.step sodium)
    (Run.run KeyState.receive before.keyState signals) trace

variable {sodium : Sodium}

theorem Follows.of_same {before after : Client} (same : after.keyState = before.keyState) :
    Follows sodium [] before after := ⟨[], same⟩

theorem Follows.of_step {before after : Client} (event : KeyEvent)
    (step : after.keyState = before.keyState.step sodium event) :
    Follows sodium [] before after := ⟨[event], step⟩

theorem Follows.of_signal {before after : Client} (signal : KeySignal)
    (received : after.keyState = before.keyState.receive signal) :
    Follows sodium [signal] before after := ⟨[], received⟩

theorem Follows.trans {first second third : Client} {signals : List KeySignal}
    (before : Follows sodium signals first second) (after : Follows sodium [] second third) :
    Follows sodium signals first third := by
  obtain ⟨trace, reached⟩ := before
  obtain ⟨further, ended⟩ := after
  refine ⟨trace ++ further, ?_⟩
  rw [Run.run_append, ← reached, ended]
  rfl

/-- What holds after the signals and is preserved by every key event holds in the end. -/
theorem Follows.preserves {before after : Client} {signals : List KeySignal}
    (follows : Follows sodium signals before after) (holds : KeyState → Prop)
    (step : ∀ state event, holds state → holds (state.step sodium event))
    (initial : holds (Run.run KeyState.receive before.keyState signals)) :
    holds after.keyState := by
  obtain ⟨trace, reached⟩ := follows
  rw [reached]
  exact Run.invariant (KeyState.step sodium) holds step _ trace initial

/-- The signals of a control message: only a participant's departure gives one. -/
def ctrlSignals (packet : Octets) : List KeySignal :=
  if (CtrlHdr.read packet).type = some .participantLeave then
    [.leave (CtrlHdr.read packet).participantId]
  else []

theorem ctrlSignals_of_other {packet : Octets}
    (other : (CtrlHdr.read packet).type ≠ some .participantLeave) : ctrlSignals packet = [] :=
  if_neg other

/-- The header of a secure control packet that the client's session key opens. -/
def openedControl (sodium : Sodium) (client : Client) (packet : Octets) : Option SecureControlMetadata :=
  (client.sessionKey.bind fun key => openControlPacket sodium key packet 512).map Prod.fst

/-- The signals of a received datagram. -/
def signals (sodium : Sodium) (client : Client) (datagram : Octets) : List KeySignal :=
  if client.receivingEnabled = false ∨ (datagram.take clientPacketBytes).length < msgHdrBytes then []
  else if magicOf (datagram.take clientPacketBytes) = ctrlMagic ∧
      ctrlHdrBytes ≤ (datagram.take clientPacketBytes).length then
    ctrlSignals (datagram.take clientPacketBytes)
  else if magicOf (datagram.take clientPacketBytes) = secureControlMagic then
    ((client.openedControl sodium (datagram.take clientPacketBytes)).map fun metadata =>
      KeySignal.control metadata.senderId metadata.sequence).toList
  else []

end Client

/-- Joining a room or connecting again, with which another join begins. -/
def ClientAction.Opens : ClientAction → Prop
  | .joinRoom _ _ | .startConnection _ => True
  | _ => False

instance : DecidablePred ClientAction.Opens := fun action => by
  cases action <;> unfold ClientAction.Opens <;> infer_instance

theorem ClientAction.Opens.cases {action : ClientAction} (opens : action.Opens) :
    (∃ choice resolved, action = .joinRoom choice resolved) ∨
      ∃ resolved, action = .startConnection resolved := by
  cases action with
  | joinRoom choice resolved => exact .inl ⟨choice, resolved, rfl⟩
  | startConnection resolved => exact .inr ⟨resolved, rfl⟩
  | stopConnection => cases opens
  | rebind => cases opens
  | joinRetryTimer => cases opens
  | aliveTimer => cases opens
  | rotateMediaKey mediaSecret accessEpoch => cases opens
  | setRoomAccessMode accessMode => cases opens
  | approveWaitingParticipant participantId => cases opens
  | prepareAudio frame => cases opens
  | transmitAudio => cases opens

def ClientEvent.Opens : ClientEvent → Prop
  | .act action => action.Opens
  | .receive _ => False

instance : DecidablePred ClientEvent.Opens := fun event => by
  cases event <;> unfold ClientEvent.Opens <;> infer_instance

namespace Client

variable (sodium : Sodium)

/-- Opening a join comes down to starting the connection. -/
theorem step_of_opens (client : Client) (ambient : ClientAmbient) {action : ClientAction}
    (opens : action.Opens) :
    ∃ configured : Client, ∃ resolved, client.step sodium (ambient, .act action) =
      configured.startConnectionOnIoContext sodium ambient resolved := by
  rcases opens.cases with ⟨choice, resolved, rfl⟩ | ⟨resolved, rfl⟩ <;> exact ⟨_, resolved, rfl⟩

def eventSignals (client : Client) : ClientEvent → List KeySignal
  | .act _ => []
  | .receive datagram => client.signals sodium datagram

end Client

end Sesivo
