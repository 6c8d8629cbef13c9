import Sesivo.Client.KeyChange
import Sesivo.Client.Attribution

set_option autoImplicit false

/- Who gets the media key in a room whose participants have to be approved. -/

namespace Sesivo

open Octets JoinToken SessionCrypto

namespace Client

/-- A key envelope goes under the public key noted for its target and carries the session's
secret. -/
def Noted (client : Client) (content : Content) : Prop :=
  ∀ targetId publicKey mediaSecret, content = .envelope targetId publicKey mediaSecret →
    targetId ≠ 0 ∧ client.participantKeyPublic.lookup targetId = some publicKey ∧
      mediaSecret = client.joinSession.options.mediaSecret

/-- Nobody starts to wait, the session's options and the public keys noted stay, and the key
envelopes sent are as noted. -/
structure Seals (before after : Client) : Prop where
  waiting : ∀ participantId, before.pendingAccessRequests.lookup participantId = none →
    after.pendingAccessRequests.lookup participantId = none
  options : after.joinSession.options = before.joinSession.options
  notes : after.participantKeyPublic = before.participantKeyPublic
  outbox : ∀ datagram ∈ after.outbox, datagram ∈ before.outbox ∨ before.Noted datagram.content

theorem Seals.refl (client : Client) : Seals client client :=
  ⟨fun _ => id, rfl, rfl, fun _ => .inl⟩

theorem Seals.trans {first second third : Client} (earlier : Seals first second)
    (later : Seals second third) : Seals first third := by
  refine ⟨fun _ none => later.waiting _ (earlier.waiting _ none),
    later.options.trans earlier.options, later.notes.trans earlier.notes, ?_⟩
  intro datagram member
  rcases later.outbox datagram member with old | new
  · exact earlier.outbox datagram old
  · rw [Noted, earlier.notes, earlier.options] at new
    exact .inr new

theorem foldl_seals {α : Type} (handle : Client → α → Client)
    (seals : ∀ client item, Seals client (handle client item)) (items : List α)
    (client : Client) : Seals client (items.foldl handle client) :=
  List.foldlRecOn items handle (.refl client) fun current kept item _ =>
    kept.trans (seals current item)

theorem send_seals (client : Client) (datagram : Datagram)
    (noted : client.Noted datagram.content) : Seals client (client.send datagram) := by
  unfold send
  split
  · refine ⟨fun _ => id, rfl, rfl, ?_⟩
    intro sent member
    rcases List.mem_append.mp member with old | new
    · exact .inl old
    · rw [List.mem_singleton.mp new]
      exact .inr noted
  · exact .refl client

variable (sodium : Sodium) (client : Client) (ambient : ClientAmbient) (participantId : UInt32)

theorem sendMediaKeyEnvelope_seals :
    Seals client (client.sendMediaKeyEnvelopeToParticipantOnIo sodium ambient participantId).2 := by
  unfold sendMediaKeyEnvelopeToParticipantOnIo
  split
  · exact .refl client
  rename_i envelope built
  obtain ⟨⟨publicKey, found, content⟩, nonzero, -⟩ := keyEnvelopeFor_content sodium built
  refine send_seals client envelope ?_
  intro targetId otherKey mediaSecret carried
  cases content.symm.trans carried
  exact ⟨nonzero, found, rfl⟩

/-- A handoff that could not be sent leaves nothing in the outbox. -/
theorem queueMediaKeyHandoff_seals :
    Seals client (client.queueMediaKeyHandoffOnIo sodium ambient participantId).2 ∧
      ((client.queueMediaKeyHandoffOnIo sodium ambient participantId).1 = false →
        (client.queueMediaKeyHandoffOnIo sodium ambient participantId).2.outbox =
          client.outbox) := by
  have sent := sendMediaKeyEnvelope_seals sodium { client with
    pendingKeyHandoffAcks := client.pendingKeyHandoffAcks.insert participantId } ambient
    participantId
  simp only [queueMediaKeyHandoffOnIo]
  split
  next after answer =>
    rw [answer] at sent
    refine ⟨⟨sent.waiting, sent.options, sent.notes, sent.outbox⟩, fun failed => ?_⟩
    cases failed
  next same answer =>
    simp only [sendMediaKeyEnvelopeToParticipantOnIo] at answer
    split at answer
    · obtain ⟨-, rfl⟩ := Prod.mk.inj answer
      exact ⟨⟨fun _ => id, rfl, rfl, fun _ => .inl⟩, fun _ => rfl⟩
    · cases answer

theorem admitWaiting_seals : Seals client (client.admitWaiting sodium ambient participantId) := by
  have queued := (queueMediaKeyHandoff_seals sodium client ambient participantId).1
  unfold admitWaiting
  split
  all_goals
    rename_i answer
    rw [answer] at queued
  · refine ⟨fun other none => ?_, queued.options, queued.notes, queued.outbox⟩
    simp [removePendingAccessRequest, queued.waiting other none]
  · exact queued

theorem setRoomAccessMode_seals (accessMode : UInt8) :
    Seals { client with joinSession := client.joinSession.setAccessMode accessMode }
      (client.setRoomAccessMode sodium ambient accessMode) := by
  simp only [setRoomAccessMode]
  split
  · exact .refl _
  · exact foldl_seals _ (fun current participantId =>
      admitWaiting_seals sodium current ambient participantId) _ _

theorem joinRetryTimer_seals : Seals client (client.joinRetryTimerCallback sodium ambient) := by
  have joined : Seals client (client.sendJoin sodium ambient) := by
    unfold sendJoin
    split
    · exact .refl client
    refine Seals.trans ?_ (send_seals _ _ fun _ _ _ carried => nomatch carried)
    unfold updateMediaKeyFromSecret
    split <;> exact ⟨fun _ => id, rfl, rfl, fun _ => .inl⟩
  have retried (current : Client) :
      Seals current (current.retryPendingKeyHandoffsOnIo sodium ambient) :=
    foldl_seals _ (fun other participantId =>
      sendMediaKeyEnvelope_seals sodium other ambient participantId) _ current
  unfold joinRetryTimerCallback
  split
  · exact .refl client
  split
  · exact joined.trans (retried _)
  · exact retried client

/-- A rotation hands out the new secret, or the old one if it was not taken over. -/
theorem rotateMediaKey_seals (mediaSecret : Octets) (accessEpoch : UInt32) :
    let after := client.rotateMediaKeyOnIoContext sodium ambient mediaSecret accessEpoch
    (∀ participantId, client.pendingAccessRequests.lookup participantId = none →
      after.pendingAccessRequests.lookup participantId = none) ∧
      ∀ datagram ∈ after.outbox, datagram ∈ client.outbox ∨ ∀ targetId publicKey carried,
        datagram.content = .envelope targetId publicKey carried →
        client.participantKeyPublic.lookup targetId = some publicKey ∧
          (carried = client.joinSession.options.mediaSecret ∨ carried = mediaSecret) := by
  unfold rotateMediaKeyOnIoContext
  split
  next key commitment _ _ =>
    split
    · exact ⟨fun _ => id, fun _ => .inl⟩
    split
    · exact ⟨fun _ => id, fun _ => .inl⟩
    rename_i packet built
    obtain ⟨bytes, -, rfl⟩ := Option.map_eq_some_iff.mp built
    have sent := send_seals
      { client with secureControlSequence := client.secureControlSequence + 1 }
      ⟨bytes, .rotation key mediaSecret⟩ (fun _ _ _ carried => nomatch carried)
    dsimp only
    generalize send _ _ = current at sent ⊢
    have applied : let rotated := (current.applyMediaSecretRotation sodium mediaSecret accessEpoch
          commitment).2
        rotated.pendingAccessRequests = current.pendingAccessRequests ∧
          rotated.participantKeyPublic = current.participantKeyPublic ∧
          rotated.outbox = current.outbox ∧
          (rotated.joinSession.options.mediaSecret = current.joinSession.options.mediaSecret ∨
            rotated.joinSession.options.mediaSecret = mediaSecret) := by
      simp only [applyMediaSecretRotation, updateMediaKeyFromSecret]
      split
      · exact ⟨rfl, rfl, rfl, .inl rfl⟩
      split <;> exact ⟨rfl, rfl, rfl, .inr rfl⟩
    generalize (current.applyMediaSecretRotation sodium mediaSecret accessEpoch commitment).2 =
      rotated at applied ⊢
    obtain ⟨waiting, notes, outbox, secret⟩ := applied
    have handed : Seals rotated (rotated.handOverToAll sodium ambient) :=
      foldl_seals _ (fun other participantId =>
        (queueMediaKeyHandoff_seals sodium other ambient participantId).1) _ rotated
    refine ⟨fun _ none => handed.waiting _ (waiting ▸ sent.waiting _ none), ?_⟩
    intro datagram member
    rcases handed.outbox datagram member with old | new
    · refine (sent.outbox datagram (outbox ▸ old)).imp_right ?_
      intro noted targetId publicKey carried content
      obtain ⟨-, found, held⟩ := noted targetId publicKey carried content
      exact ⟨found, .inl held⟩
    · refine .inr fun targetId publicKey carried content => ?_
      obtain ⟨-, found, held⟩ := new targetId publicKey carried content
      rw [notes, sent.notes] at found
      rw [sent.options, ← held] at secret
      exact ⟨found, secret⟩
  · exact ⟨fun _ => id, fun _ => .inl⟩

/-- Approving someone sends nothing to anyone who keeps waiting. -/
theorem approve_sends_or_waits :
    (client.approveWaitingParticipant sodium ambient participantId).pendingAccessRequests.lookup
        participantId = none ∨
      (client.approveWaitingParticipant sodium ambient participantId).outbox = client.outbox := by
  have queued := (queueMediaKeyHandoff_seals sodium client ambient participantId).2
  unfold approveWaitingParticipant admitWaiting
  split
  next sent answer => exact .inl (by simp [removePendingAccessRequest])
  next same answer =>
    rw [answer] at queued
    exact .inr (queued rfl)

/-- The participants an event may hand the key to, in a room that asks for approval. -/
def MayReach (client : Client) : ClientEvent → UInt32 → Prop
  | .act action, participantId => ActsFor client action participantId
  | .receive _, _ => False

/-- The key envelopes an event may send in such a room; rotations go to all who hold the key. -/
def MayCarry (client : Client) (event : ClientEvent) : Content → Prop
  | .envelope targetId _ _ => client.MayReach event targetId
  | _ => True

theorem step_mayCarry (event : ClientAmbient × ClientEvent)
    (asking : client.joinSession.options.accessMode = roomAccessApprove) :
    Discreet (client.MayCarry event.2) { client with outbox := [], effects := [] }
      (client.step sodium event) := by
  refine step_discreet sodium client event (fun _ _ _ _ _ => trivial)
    (fun _ _ _ announced => absurd asking announced.1) ?_
  intro action acted participantId reached publicKey mediaSecret
  rw [acted]
  exact reached

end Client

/-- A client, with everyone its user has approved since the run began. -/
structure Approving where
  client : Client
  approved : List UInt32

def ClientEvent.approves : ClientEvent → List UInt32
  | .act (.approveWaitingParticipant participantId) => [participantId]
  | _ => []

def ClientEvent.rotatesKey : ClientEvent → Bool
  | .act (.rotateMediaKey _ _) => true
  | _ => false

namespace Approving

open Client

variable (sodium : Sodium)

def step (state : Approving) (event : ClientAmbient × ClientEvent) : Approving where
  client := state.client.step sodium event
  approved := event.2.approves ++ state.approved

/-- The room asks for approval, before and after the event. -/
def AsksApproval (state : Approving) (event : ClientAmbient × ClientEvent) : Prop :=
  state.client.joinSession.options.accessMode = roomAccessApprove ∧
    (state.step sodium event).client.joinSession.options.accessMode = roomAccessApprove

/-- The key is rotated only when everyone whose public key is known has been approved. -/
def RotatesAmongApproved (state : Approving) (event : ClientAmbient × ClientEvent) : Prop :=
  event.2.rotatesKey = true →
    ∀ participantId ∈ state.client.participantKeyPublic.pairs.map Prod.fst,
      participantId ≠ state.client.joinSession.participantId → participantId ∈ state.approved

instance (state : Approving) (event : ClientAmbient × ClientEvent) :
    Decidable (state.AsksApproval sodium event) :=
  inferInstanceAs (Decidable (_ ∧ _))

instance (state : Approving) (event : ClientAmbient × ClientEvent) :
    Decidable (state.RotatesAmongApproved event) :=
  -- By a walk along the known keys, not over all participant ids.
  haveI := List.decidableBAll (fun participantId =>
    participantId ≠ state.client.joinSession.participantId → participantId ∈ state.approved)
    (state.client.participantKeyPublic.pairs.map Prod.fst)
  inferInstanceAs (Decidable (_ = true → _))

/-- Nobody a retry or a rotation would reach is on the list of waiting participants. -/
def ReachesNoneWaiting (state : Approving) (event : ClientAmbient × ClientEvent) : Prop :=
  event.2.approves = [] → ∀ participantId, state.client.MayReach event.2 participantId →
    state.client.pendingAccessRequests.lookup participantId = none

/-- Handoffs are pending for approved participants only. -/
def PendingApproved (state : Approving) : Prop :=
  ∀ participantId ∈ state.client.pendingKeyHandoffAcks, participantId ∈ state.approved

variable {state : Approving} {event : ClientAmbient × ClientEvent} {datagram : Datagram}
variable {targetId : UInt32} {publicKey mediaSecret : Octets}

theorem mayReach_approved (pending : state.PendingApproved) (asks : state.AsksApproval sodium event)
    (rotates : state.RotatesAmongApproved event) {participantId : UInt32}
    (reached : state.client.MayReach event.2 participantId) :
    participantId ∈ (state.step sodium event).approved := by
  obtain ⟨ambient, event⟩ := event
  cases event with
  | receive datagram => exact reached.elim
  | act action =>
    refine List.mem_append.mpr ?_
    cases action with
    | approveWaitingParticipant approvedId => exact .inl (List.mem_singleton.mpr reached)
    | setRoomAccessMode accessMode =>
      exact absurd ((congrArg PerformerJoinOptions.accessMode
        (setRoomAccessMode_seals sodium _ ambient accessMode).options).symm.trans asks.2) reached.1
    | joinRetryTimer => exact .inr (pending participantId reached)
    | rotateMediaKey mediaSecret accessEpoch =>
      obtain ⟨other, publicKey, found⟩ := reached
      exact .inr (rotates rfl participantId
        ((Store.mem_pairs_fst _ _).mpr ⟨publicKey, found⟩) other)
    | joinRoom | startConnection | stopConnection | rebind | aliveTimer | prepareAudio
    | transmitAudio => exact reached.elim

theorem step_pendingApproved
    (pending : state.PendingApproved) (asks : state.AsksApproval sodium event)
    (rotates : state.RotatesAmongApproved event) : (state.step sodium event).PendingApproved := by
  intro participantId member
  rcases (step_mayCarry sodium state.client event asks.1).pending participantId member with
    old | reached
  · exact List.mem_append_right _ (pending participantId old)
  · exact mayReach_approved sodium pending asks rotates (reached [] [])

theorem step_reaches (asks : state.AsksApproval sodium event)
    (sent : datagram ∈ (state.step sodium event).client.outbox)
    (carried : datagram.content = .envelope targetId publicKey mediaSecret) :
    state.client.MayReach event.2 targetId := by
  rcases (step_mayCarry sodium state.client event asks.1).outbox datagram sent with old | permitted
  · cases old
  · rw [Datagram.Permitted, carried] at permitted
    exact permitted trivial

/-- What a retry, a rotation or an approval reaches does not wait afterwards. -/
theorem step_reached_waits_not
    (asks : state.AsksApproval sodium event) (settled : state.ReachesNoneWaiting event)
    (sent : datagram ∈ (state.step sodium event).client.outbox)
    (carried : datagram.content = .envelope targetId publicKey mediaSecret) :
    (state.step sodium event).client.pendingAccessRequests.lookup targetId = none := by
  have reached := step_reaches sodium asks sent carried
  obtain ⟨ambient, event⟩ := event
  cases event with
  | receive datagram => exact reached.elim
  | act action =>
    cases action with
    | approveWaitingParticipant approvedId =>
      obtain rfl : targetId = approvedId := reached
      rcases approve_sends_or_waits sodium
        { state.client with outbox := [], effects := [] } ambient targetId with gone | silent
      · exact gone
      have none : datagram ∈ ([] : List Datagram) := (congrArg (datagram ∈ ·) silent).mp sent
      cases none
    | setRoomAccessMode accessMode =>
      exact absurd ((congrArg PerformerJoinOptions.accessMode
        (setRoomAccessMode_seals sodium _ ambient accessMode).options).symm.trans asks.2) reached.1
    | joinRetryTimer =>
      exact (joinRetryTimer_seals sodium _ ambient).waiting targetId (settled rfl targetId reached)
    | rotateMediaKey mediaSecret accessEpoch =>
      exact (rotateMediaKey_seals sodium _ ambient mediaSecret accessEpoch).1 targetId
        (settled rfl targetId reached)
    | joinRoom | startConnection | stopConnection | rebind | aliveTimer | prepareAudio
    | transmitAudio => exact reached.elim

/-- Every key envelope the event sends goes to someone approved by then, and to
nobody on the list of waiting participants if nobody on it is reached for. -/
def HandsKeyToApproved (state : Approving) (event : ClientAmbient × ClientEvent) : Prop :=
  ∀ datagram ∈ (state.step sodium event).client.outbox, ∀ targetId publicKey mediaSecret,
    datagram.content = .envelope targetId publicKey mediaSecret →
    targetId ∈ (state.step sodium event).approved ∧
      (state.ReachesNoneWaiting event →
        (state.step sodium event).client.pendingAccessRequests.lookup targetId = none)

/-- In a room that asks for approval throughout, and as long as the key is rotated
only among approved participants, every event hands the key to approved ones only. -/
theorem keyEnvelope_only_approved (client : Client)
    (events : List (ClientAmbient × ClientEvent)) (event : ClientAmbient × ClientEvent)
    (unpromised : client.pendingKeyHandoffAcks = []) (meets : Run.Allowed (step sodium)
      (fun state event => state.AsksApproval sodium event ∧ state.RotatesAmongApproved event)
      ⟨client, []⟩ (events ++ [event])) :
    (Run.run (step sodium) ⟨client, []⟩ events).HandsKeyToApproved sodium event := by
  obtain ⟨earlier, ⟨asks, rotates⟩, -⟩ := (Run.allowed_append _ _ _ events [event]).mp meets
  have pending : (Run.run (step sodium) ⟨client, []⟩ events).PendingApproved := by
    refine Run.invariant_of_allowed (step sodium) _ PendingApproved ⟨client, []⟩ events ?_ ?_ earlier
    · intro state event _ pending both
      exact step_pendingApproved sodium pending both.1 both.2
    intro participantId member
    rw [unpromised] at member
    cases member
  intro datagram sent targetId publicKey mediaSecret carried
  refine ⟨?_, fun settled => step_reached_waits_not sodium asks settled sent carried⟩
  exact mayReach_approved sodium pending asks rotates (step_reaches sodium asks sent carried)

/-- The host of a room that asks for approval, before joining it. -/
def host : Client :=
  initial { accessMode := roomAccessApprove } (some (ascii "ann", ascii "ann"))

def newTune : Octets := ascii "new tune"

/-- A participant is announced with a public key. -/
def announced (participantId : UInt32) (name : Octets) : ClientAmbient × ClientEvent :=
  (quietAmbient, .receive (ctrlDatagram 6 participantId ++ padded 64 name ++ padded 64 name ++
    u32Bytes audioSupportedCapabilities ++ padded 32 name))

/-- The host joins, and participant 5 is announced. -/
def knock : List (ClientAmbient × ClientEvent) :=
  keyedVisit roomAccessApprove ++ [announced 5 (ascii "bob")]

def rotateTune : ClientAmbient × ClientEvent := (quietAmbient, .act (.rotateMediaKey newTune 2))

theorem keyEnvelope_only_approved_knock :
    ((Run.run (step .framing) ⟨host, []⟩
        (knock ++ [(quietAmbient, .act (.approveWaitingParticipant 5))])).step .framing
      rotateTune).client.outbox.length = 2 ∧
    (Run.run (step .framing) ⟨host, []⟩
      (knock ++ [(quietAmbient, .act (.approveWaitingParticipant 5))])).HandsKeyToApproved .framing
        rotateTune := by
  refine ⟨by decide +kernel, keyEnvelope_only_approved .framing host _ rotateTune rfl ?_⟩
  decide +kernel

/-- Participant 5 waits, nobody has been approved, and the rotation hands it the key. -/
theorem keyEnvelope_unapproved :
    Run.Allowed (step .framing) (AsksApproval .framing) ⟨host, []⟩ (knock ++ [rotateTune]) ∧
      (Run.run (step .framing) ⟨host, []⟩ (knock ++ [rotateTune])).approved = [] ∧
      ((Run.run (step .framing) ⟨host, []⟩
        (knock ++ [rotateTune])).client.pendingAccessRequests.lookup 5).isSome = true ∧
      (Run.run (step .framing) ⟨host, []⟩ (knock ++ [rotateTune])).client.outbox.map
          Datagram.content =
        [.rotation (listener.sessionKey.getD []) newTune,
          .envelope 5 (padded 32 (ascii "bob")) newTune] := by
  decide +kernel

end Approving

end Sesivo
