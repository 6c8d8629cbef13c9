import Sesivo.Lib.Symbolic
import Sesivo.Client.Approval

set_option autoImplicit false

/- What someone who sees every datagram can learn of the media secrets the clients
hand each other, under ideal encryption. -/

namespace Sesivo

open Octets JoinToken SessionCrypto Symbolic

namespace Client

section

variable (sodium : Sodium) (client : Client) (ambient : ClientAmbient) (participantId : UInt32)

theorem rememberParticipantKey_notes (profileId displayName keyPublic : Octets)
    (hasKeyPublic : Bool) :
    let after := client.rememberParticipantKey participantId profileId displayName keyPublic
      hasKeyPublic
    after.outbox = client.outbox ∧ after.joinSession = client.joinSession ∧
      (participantId ≠ 0 → after.participantKeyPublic.lookup participantId =
        if hasKeyPublic then some keyPublic else none) := by
  have noted : (if hasKeyPublic then client.participantKeyPublic.insert participantId keyPublic
      else client.participantKeyPublic.erase participantId).lookup participantId =
      if hasKeyPublic then some keyPublic else none := by
    cases hasKeyPublic <;> simp
  simp only [rememberParticipantKey]
  split
  next zero => exact ⟨rfl, rfl, fun nonzero => absurd zero nonzero⟩
  split
  · exact ⟨rfl, rfl, fun _ => noted⟩
  split <;> exact ⟨rfl, rfl, fun _ => noted⟩

/-- An announcement makes the client seal the key for the public key it brings. -/
theorem handleParticipantInfo_seals (packet : Octets) :
    ∀ datagram ∈ (client.handleParticipantInfo sodium ambient packet).outbox,
      datagram ∈ client.outbox ∨ ∀ publicKey carried,
        datagram.content = .envelope (CtrlHdr.read packet).participantId publicKey carried →
        publicKey = slice packet 141 e2ePublicKeyBytes ∧
          carried = client.joinSession.options.mediaSecret := by
  intro datagram
  simp only [handleParticipantInfo]
  split
  · exact .inl
  generalize sized : (if decide (participantInfoCapsHdrBytes ≤ packet.length) = true then
    slice packet 141 e2ePublicKeyBytes else List.replicate e2ePublicKeyBytes 0) = keyPublic
  obtain ⟨outbox, session, noted⟩ := client.rememberParticipantKey_notes
    (CtrlHdr.read packet).participantId (fixedString (slice packet 9 64))
    (fixedString (slice packet 73 64)) keyPublic (keyPublic.any (· ≠ 0))
  generalize client.rememberParticipantKey _ _ _ _ _ = remembered at outbox session noted ⊢
  have shared : Seals remembered (remembered.maybeAutoShareMediaKey sodium ambient
      (CtrlHdr.read packet).participantId) := by
    unfold maybeAutoShareMediaKey
    split
    · exact .refl remembered
    · exact (queueMediaKeyHandoff_seals sodium remembered ambient _).1
  intro member
  rw [← outbox, ← session]
  refine (shared.outbox datagram member).imp_right fun new publicKey carried content => ?_
  obtain ⟨nonzero, found, held⟩ := new _ publicKey carried content
  refine ⟨?_, held⟩
  rw [noted nonzero] at found
  split at found
  next keyed =>
    rw [← Option.some.inj found, ← sized]
    split
    · rfl
    next short =>
      rw [← sized, if_neg short] at keyed
      exact absurd keyed (by decide)
  · cases found

end

/-- The key envelopes an event can make the client send: to whom, under which public key,
with which secret. -/
def Hands (client : Client) : ClientEvent → UInt32 → Octets → Octets → Prop
  | .act action, targetId, publicKey, mediaSecret =>
    ActsFor client action targetId ∧
      client.participantKeyPublic.lookup targetId = some publicKey ∧
      (mediaSecret = client.joinSession.options.mediaSecret ∨
        ∃ accessEpoch, action = .rotateMediaKey mediaSecret accessEpoch)
  | .receive datagram, targetId, publicKey, mediaSecret =>
    client.Announces (datagram.take clientPacketBytes) targetId ∧
      publicKey = slice (datagram.take clientPacketBytes) 141 e2ePublicKeyBytes ∧
      mediaSecret = client.joinSession.options.mediaSecret

def Addresses (client : Client) : ClientEvent → UInt32 → Prop
  | .act action, targetId => ActsFor client action targetId
  | .receive datagram, targetId => client.Announces (datagram.take clientPacketBytes) targetId

variable {sodium : Sodium} {client : Client} {event : ClientAmbient × ClientEvent}
  {datagram : Datagram} {targetId : UInt32} {publicKey mediaSecret : Octets}

theorem step_addresses (sent : datagram ∈ (client.step sodium event).outbox)
    (carried : datagram.content = .envelope targetId publicKey mediaSecret) :
    client.Addresses event.2 targetId := by
  have reached := (@step_discreet (fun content => ∀ targetId publicKey mediaSecret,
      content = .envelope targetId publicKey mediaSecret → client.Addresses event.2 targetId)
    sodium client event
    (by
      intro _ _ _ _ _ _ _ _ same
      cases same)
    (by
      intro bytes received participantId announced publicKey mediaSecret _ _ _ same
      cases same
      rw [received]
      exact announced)
    (by
      intro action acted participantId acts publicKey mediaSecret _ _ _ same
      cases same
      rw [acted]
      exact acts)).outbox datagram sent
  rcases reached with old | permitted
  · cases old
  rw [Datagram.Permitted, carried] at permitted
  exact permitted trivial targetId publicKey mediaSecret rfl

/-- Every envelope an event sends, and every retry, is one of these. -/
theorem step_hands (sent : datagram ∈ (client.step sodium event).outbox)
    (carried : datagram.content = .envelope targetId publicKey mediaSecret) :
    client.Hands event.2 targetId publicKey mediaSecret := by
  have reached := step_addresses sent carried
  obtain ⟨ambient, event⟩ := event
  cases event with
  | receive bytes =>
    obtain ⟨-, framed, type, rfl⟩ := id reached
    simp only [step, onReceive] at sent
    split at sent
    · cases sent
    simp only [handleCtrlMessage, type] at sent
    rcases handleParticipantInfo_seals sodium _ ambient _ datagram sent with old | noted
    · cases old
    · exact ⟨reached, noted publicKey mediaSecret carried⟩
  | act action =>
    have settled (seals : ∀ other ∈ (client.step sodium (ambient, .act action)).outbox,
        other ∈ [] ∨ client.Noted other.content) :
        client.Hands (.act action) targetId publicKey mediaSecret := by
      rcases seals datagram sent with old | noted
      · cases old
      obtain ⟨-, found, held⟩ := noted targetId publicKey mediaSecret carried
      exact ⟨reached, found, .inl held⟩
    cases action with
    | joinRetryTimer => exact settled (joinRetryTimer_seals sodium _ ambient).outbox
    | setRoomAccessMode accessMode =>
      exact settled (setRoomAccessMode_seals sodium _ ambient accessMode).outbox
    | approveWaitingParticipant participantId =>
      exact settled (admitWaiting_seals sodium _ ambient participantId).outbox
    | rotateMediaKey rotated accessEpoch =>
      rcases (rotateMediaKey_seals sodium _ ambient rotated accessEpoch).2 datagram sent with
        old | noted
      · cases old
      obtain ⟨found, held⟩ := noted targetId publicKey mediaSecret carried
      exact ⟨reached, found, held.imp_right fun same => ⟨accessEpoch, by rw [same]⟩⟩
    | joinRoom | startConnection | stopConnection | rebind | aliveTimer | prepareAudio
    | transmitAudio => exact reached.elim

end Client

/-- The key is derived from the secret, for whatever room and purpose. -/
def KeyOf (sodium : Sodium) (mediaSecret key : Octets) : Prop :=
  ∃ label roomId roomInstanceId,
    deriveKey sodium label roomId roomInstanceId mediaSecret = some key

/-- A datagram's content for an observer; commitments are digests of the secret. -/
def Content.term : Content → Term Octets
  | .clear => .plain
  | .rotation key mediaSecret =>
    .pair (.hash (.atom mediaSecret)) (.locked key (.atom mediaSecret))
  | .envelope _ publicKey mediaSecret =>
    .pair (.hash (.atom mediaSecret)) (.boxed publicKey (.atom mediaSecret))
  | .audio key => .locked key .plain

/-- The clients that follow the program, and every datagram they have sent. -/
structure Meeting where
  clients : Nat → Client
  observed : List Datagram

/-- Which client handles what. -/
structure Turn where
  index : Nat
  event : ClientAmbient × ClientEvent

namespace Meeting

def heard (meeting : Meeting) : Set (Term Octets) :=
  {term | ∃ datagram ∈ meeting.observed, datagram.content.term = term}

variable (sodium : Sodium)

def step (meeting : Meeting) (turn : Turn) : Meeting where
  clients := Function.update meeting.clients turn.index
    ((meeting.clients turn.index).step sodium turn.event)
  observed := meeting.observed ++ ((meeting.clients turn.index).step sodium turn.event).outbox

variable (opens : Octets → Octets → Prop) (knowledge : Set (Term Octets))

/-- The value can be derived from the knowledge. -/
def Learns (value : Octets) : Prop := Derives (KeyOf sodium) opens knowledge (.atom value)

/-- Nobody who knows the session key the client has when it rotates, or the secret key for a
public key that an envelope can go under, gets to know a secret by it that they could not
derive anyway. -/
structure Careful (meeting : Meeting) (turn : Turn) : Prop where
  rotation : ∀ mediaSecret accessEpoch,
    turn.event.2 = .act (.rotateMediaKey mediaSecret accessEpoch) →
    ∀ key, (meeting.clients turn.index).sessionKey = some key →
      Learns sodium opens knowledge key → Learns sodium opens knowledge mediaSecret
  envelope : ∀ targetId publicKey mediaSecret,
    (meeting.clients turn.index).Hands turn.event.2 targetId publicKey mediaSecret →
    ∀ secretKey, opens secretKey publicKey →
      Learns sodium opens knowledge secretKey → Learns sodium opens knowledge mediaSecret

variable {sodium opens knowledge}

/-- What a careful turn sends gives nothing away. -/
theorem Careful.shielded {meeting : Meeting} {turn : Turn}
    (careful : Careful sodium opens knowledge meeting turn) :
    ∀ datagram ∈ ((meeting.clients turn.index).step sodium turn.event).outbox,
      Shielded (KeyOf sodium) opens knowledge datagram.content.term := by
  -- a rotation is only ever sealed under the session key of the client that rotates
  have rotations := @Client.step_discreet
    (fun content => ∀ key mediaSecret, content = .rotation key mediaSecret →
      Learns sodium opens knowledge key → Learns sodium opens knowledge mediaSecret)
    sodium (meeting.clients turn.index) turn.event
    (by
      intro mediaSecret accessEpoch rotates key held other otherSecret same
      cases same
      exact careful.rotation mediaSecret accessEpoch rotates key held)
    (fun _ _ _ _ _ _ _ _ same => nomatch same) (fun _ _ _ _ _ _ _ _ same => nomatch same)
  intro datagram sent
  rcases rotations.outbox datagram sent with old | permitted
  · cases old
  cases content : datagram.content with
  | clear => trivial
  | audio key => exact fun _ => trivial
  | rotation key mediaSecret =>
    rw [Datagram.Permitted, content] at permitted
    exact ⟨trivial, permitted trivial key mediaSecret rfl⟩
  | envelope targetId publicKey mediaSecret =>
    exact ⟨trivial, careful.envelope targetId publicKey mediaSecret
      (Client.step_hands sent content)⟩

theorem step_heard_shielded {meeting : Meeting} {turn : Turn}
    (shields : ∀ term ∈ meeting.heard, Shielded (KeyOf sodium) opens knowledge term)
    (careful : Careful sodium opens knowledge meeting turn) :
    ∀ term ∈ (meeting.step sodium turn).heard, Shielded (KeyOf sodium) opens knowledge term := by
  rintro term ⟨datagram, member, rfl⟩
  rcases List.mem_append.mp member with old | new
  · exact shields _ ⟨datagram, old, rfl⟩
  · exact careful.shielded datagram new

/-- However many clients there are and whatever they receive and do: if every turn is
careful, an observer of all they send never derives a secret that was fresh. -/
theorem fresh_secret_underivable (clients : Nat → Client) (turns : List Turn)
    (newSecret : Octets) (fresh : ¬ Learns sodium opens knowledge newSecret)
    (careful : Run.Allowed (step sodium) (Careful sodium opens knowledge) ⟨clients, []⟩ turns) :
    ¬ Learns sodium opens (knowledge ∪ (Run.run (step sodium) ⟨clients, []⟩ turns).heard)
      newSecret := by
  have shields : ∀ term ∈ (Run.run (step sodium) ⟨clients, []⟩ turns).heard,
      Shielded (KeyOf sodium) opens knowledge term := by
    refine Run.invariant_of_allowed (step sodium) _
      (fun meeting => ∀ term ∈ meeting.heard, Shielded (KeyOf sodium) opens knowledge term)
      ⟨clients, []⟩ turns ?_ ?_ careful
    · intro meeting turn _ earlier current
      exact step_heard_shielded earlier current
    · rintro term ⟨datagram, member, -⟩
      cases member
  intro derived
  exact fresh (Derives.shielded shields derived)

/-- The keys and secrets a participant holds. -/
def learned (client : Client) : Set (Term Octets) :=
  {term | term = .atom client.joinSession.options.mediaSecret ∨
    (∃ key, client.sessionKey = some key ∧ term = .atom key) ∨
    ∃ publicKey secretKey, client.e2eKeypair = some (publicKey, secretKey) ∧
      term = .atom secretKey}

open Client Approving

/-- Bob, with the secret of `jam`, joins as participant 5. -/
def bob : Client :=
  Run.run (Client.step .framing) (initial {} (some (ascii "bob", ascii "bob")))
    [(quietAmbient, .act (.joinRoom ⟨ascii "jam", ascii "bob", ascii "Bob",
        tuneTicket (ascii "one") 1 tuneSecret, tuneSecret, roomAccessOpen⟩ true)),
      (quietAmbient, .receive (ctrlDatagram 8 5 ++ u32Bytes audioSupportedCapabilities))]

/-- The room's admin has seen Bob and another member join. -/
def admin : Client :=
  Run.run (Client.step .framing) listener [announced 5 (ascii "bob"), announced 7 (ascii "cat")]

/-- Bob has been kicked: the admin hears that Bob left, and changes the key. -/
def afterKick : List Turn :=
  [⟨0, quietAmbient, .receive (ctrlDatagram 4 5)⟩, ⟨0, rotateTune⟩]

theorem afterKick_contents :
    (Run.run (step .framing) ⟨fun _ => admin, []⟩ afterKick).observed.map Datagram.content =
      [.rotation (admin.sessionKey.getD []) newTune,
        .envelope 7 (padded 32 (ascii "cat")) newTune] := by
  decide +kernel

/-- The derived keys of the framing library start as the secret does. -/
theorem keyOf_framing_head {mediaSecret key : Octets} {first : UInt8}
    (derived : KeyOf .framing mediaSecret key) (starts : mediaSecret.head? = some first) :
    key.head? = some first := by
  obtain ⟨label, roomId, roomInstanceId, derived⟩ := derived
  simp only [deriveKey, hmacSha256Bytes, Sodium.framing, ↓reduceIte, Option.bind_some,
    sessionKeyFromDigest, padded_length, Option.some.injEq] at derived
  rw [← derived]
  cases mediaSecret with
  | nil => cases starts
  | cons head rest => exact starts

/-- Nothing that starts with another byte than the known values is ever derived. -/
theorem learns_head {knowledge : Set (Term Octets)} {value : Octets} {firsts : List UInt8}
    (start : ∀ term ∈ knowledge, ∃ known : Octets, term = .atom known ∧
      ∃ first ∈ firsts, known.head? = some first)
    (derived : Learns .framing Eq knowledge value) : ∃ first ∈ firsts, value.head? = some first := by
  refine @Derives.within Octets (KeyOf .framing) Eq knowledge
    (fun known => ∃ first ∈ firsts, known.head? = some first) ?_ ?_ _ derived
  · rintro known key computed ⟨first, member, starts⟩
    exact ⟨first, member, keyOf_framing_head computed starts⟩
  intro term member
  obtain ⟨known, rfl, starts⟩ := start term member
  exact starts

/-- Bob, without the room's secret, learns nothing that does not start as Bob's own key. -/
theorem keyless_learns {value : Octets} (derived : Learns .framing Eq {.atom (ascii "bob")} value) :
    value.head? = some 98 := by
  obtain ⟨first, member, starts⟩ := @learns_head _ _ [98] (by
    rintro term rfl
    exact ⟨_, rfl, 98, by decide, by decide⟩) derived
  rw [List.mem_singleton.mp member] at starts
  exact starts

theorem fresh_secret_underivable_keyless :
    ¬ Learns .framing Eq ({.atom (ascii "bob")} ∪
      (Run.run (step .framing) ⟨fun _ => admin, []⟩ afterKick).heard) newTune := by
  have facts : (CtrlHdr.read ((ctrlDatagram 4 5).take clientPacketBytes)).type ≠
        some .participantInfo ∧
      (((step .framing ⟨fun _ => admin, []⟩ ⟨0, quietAmbient,
        .receive (ctrlDatagram 4 5)⟩).clients 0).sessionKey.bind List.head?) ≠ some 98 ∧
      ((step .framing ⟨fun _ => admin, []⟩ ⟨0, quietAmbient,
        .receive (ctrlDatagram 4 5)⟩).clients 0).participantKeyPublic.pairs =
        [(7, padded 32 (ascii "cat"))] := by
    decide +kernel
  obtain ⟨left, starts, notes⟩ := facts
  refine fresh_secret_underivable (fun _ => admin) afterKick newTune
    (fun derived => absurd (keyless_learns derived) (by decide))
    ⟨⟨?_, ?_⟩, ⟨?_, ?_⟩, trivial⟩
  · rintro _ _ ⟨⟩
  · rintro targetId publicKey mediaSecret ⟨⟨-, -, type, -⟩, -⟩
    exact absurd type left
  · intro _ _ _ key held learnt
    exact absurd (keyless_learns learnt)
      ((congrArg (fun current : Option Octets => current.bind List.head? ≠ some 98) held).mp starts)
  · rintro targetId publicKey mediaSecret ⟨-, found, -⟩ secretKey same learnt
    have listed := (congrArg ((targetId, publicKey) ∈ ·) notes).mp
      ((Store.mem_pairs _ targetId publicKey).mpr found)
    obtain ⟨-, rfl⟩ := Prod.mk.inj (List.mem_singleton.mp listed)
    rw [same] at learnt
    exact absurd (keyless_learns learnt) (by decide)

/-- Bob had the room's secret, and so reads the new one out of the rotation. -/
theorem rotation_reaches_kicked :
    ¬ Learns .framing Eq (learned bob) newTune ∧
      Learns .framing Eq (learned bob ∪
        (Run.run (step .framing) ⟨fun _ => admin, []⟩ afterKick).heard) newTune := by
  have holds : bob.joinSession.options.mediaSecret = tuneSecret ∧
      bob.sessionKey = admin.sessionKey ∧ bob.sessionKey.isSome = true ∧
      bob.e2eKeypair = some (ascii "bob", ascii "bob") ∧
      bob.sessionKey.bind List.head? = some 116 := by decide +kernel
  obtain ⟨secret, shared, keyed, own, starts⟩ := holds
  obtain ⟨key, held⟩ := Option.isSome_iff_exists.mp keyed
  constructor
  · intro derived
    obtain ⟨first, member, begins⟩ := @learns_head _ _ [98, 116] (by
      rintro term (rfl | ⟨other, found, rfl⟩ | ⟨publicKey, secretKey, found, rfl⟩)
      · exact ⟨_, rfl, 116, by decide, by rw [secret]; decide⟩
      · rw [found] at starts
        exact ⟨_, rfl, 116, by decide, starts⟩
      rw [own] at found
      cases found
      exact ⟨_, rfl, 98, by decide, by decide⟩) derived
    cases begins
    exact absurd member (by decide)
  · have sent : Content.rotation (admin.sessionKey.getD []) newTune ∈
        (Run.run (step .framing) ⟨fun _ => admin, []⟩ afterKick).observed.map
          Datagram.content := by
      rw [afterKick_contents]
      exact List.mem_cons_self
    rw [← shared, held] at sent
    obtain ⟨datagram, member, content⟩ := List.mem_map.mp sent
    have packet : Derives (KeyOf .framing) Eq (learned bob ∪
        (Run.run (step .framing) ⟨fun _ => admin, []⟩ afterKick).heard)
        (.pair (.hash (.atom newTune)) (.locked key (.atom newTune))) :=
      .given (.inr ⟨datagram, member, by rw [content]; rfl⟩)
    exact packet.right.unlock (.given (.inl (.inr (.inl ⟨key, held, rfl⟩))))

end Meeting

end Sesivo
