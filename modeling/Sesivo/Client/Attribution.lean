import Sesivo.Client.AudioSealing

set_option autoImplicit false

/- Whose audio received packets count as. A sealed packet names its sender in the
header the server has checked; the packets inside name one each of their own. -/

namespace Sesivo

open Octets JoinToken SessionCrypto AudioPacket List

def AudioEffect.participantId : AudioEffect → UInt32
  | .registered participantId => participantId
  | .recorded participantId _ => participantId
  | .enqueued participantId _ => participantId

/-- The audio packets in a decrypted one. -/
def carriedPackets (plaintext : Octets) : List Octets :=
  if magicOf plaintext = audioRedundantMagic then children plaintext else [plaintext]

namespace Client

/-- The client knows the participant, or can set up a decoder for it. -/
def Hears (client : Client) (ambient : ClientAmbient) (participantId : UInt32) : Prop :=
  (client.participants.lookup participantId).isSome = true ∨
    (ambient.framesPerBuffer ≠ 0 ∧ ambient.decoderCreates participantId = true)

/-- Everything new in the later client's log is about one participant. -/
structure Attributes (participantId : UInt32) (before after : Client) : Prop where
  effects : ∃ more, after.effects = before.effects ++ more ∧ more ≠ [] ∧
    ∀ effect ∈ more, effect.participantId = participantId
  known : ∀ other, (after.participants.lookup other).isSome = true ↔
    other = participantId ∨ (before.participants.lookup other).isSome = true

variable (client : Client) (ambient : ClientAmbient) (senderId : UInt32)

theorem deliverToParticipant_attributes (packet : OpusPacket) (countDuplicateLate : Bool)
    (known : (client.participants.lookup senderId).isSome = true) :
    Attributes senderId client
      (client.deliverToParticipant ambient senderId packet countDuplicateLate) := by
  have stored (entry : ParticipantData) (other : UInt32) :
      ((client.participants.insert senderId entry).lookup other).isSome = true ↔
        other = senderId ∨ (client.participants.lookup other).isSome = true := by
    rw [Store.lookup_insert]
    split
    next same => simp [same]
    next different => simp [different]
  obtain ⟨participant, found⟩ := Option.isSome_iff_exists.mp known
  unfold deliverToParticipant
  rw [found]
  simp only
  split
  · refine ⟨⟨[.recorded senderId packet.sequence, .enqueued senderId packet], ?_, ?_, ?_⟩, ?_⟩
    · simp
    · exact cons_ne_nil _ _
    · simp [AudioEffect.participantId]
    · exact stored _
  · refine ⟨⟨[.recorded senderId packet.sequence], rfl, cons_ne_nil _ _, ?_⟩, stored _⟩
    simp [AudioEffect.participantId]

theorem registerSender_spec :
    (client.Hears ambient senderId ∧ ∃ registered more,
        client.registerSender ambient senderId = some registered ∧
        registered.effects = client.effects ++ more ∧
        (∀ effect ∈ more, effect.participantId = senderId) ∧
        (registered.participants.lookup senderId).isSome = true ∧
        ∀ other, other ≠ senderId →
          registered.participants.lookup other = client.participants.lookup other) ∨
      (¬ client.Hears ambient senderId ∧ client.registerSender ambient senderId = none) := by
  unfold registerSender Hears
  split
  next participant found =>
    refine .inl ⟨.inl (by rw [found]; rfl), client, [], rfl, (append_nil _).symm, by simp, ?_,
      fun _ _ => rfl⟩
    rw [found]
    rfl
  next missing =>
    split
    next refused =>
      refine .inr ⟨?_, rfl⟩
      rintro (known | ⟨playing, creates⟩)
      · rw [missing] at known
        cases known
      rcases refused with silent | failed
      · exact playing silent
      · rw [creates] at failed
        cases failed
    next able =>
      simp only [not_or, Bool.not_eq_false] at able
      refine .inl ⟨.inr able, _, [.registered senderId], rfl, rfl, ?_, ?_, ?_⟩
      · simp [AudioEffect.participantId]
      · simp
      · intro other different
        simp [different]

/-- A valid packet is attributed to the sender it names, or ignored. -/
theorem handleSingleAudioMessage_spec {data : Octets}
    {hdr : ParsedAudioHeader} (countDuplicateLate : Bool)
    (valid : validateAudioPacketBytes data = .ok ()) (parsed : parseAudioHeader data = some hdr) :
    (client.Hears ambient hdr.senderId ∧ Attributes hdr.senderId client
        (client.handleSingleAudioMessage ambient data countDuplicateLate)) ∨
      (¬ client.Hears ambient hdr.senderId ∧
        client.handleSingleAudioMessage ambient data countDuplicateLate = client) := by
  unfold handleSingleAudioMessage
  rw [parsed, valid]
  simp only
  rcases client.registerSender_spec ambient hdr.senderId with
    ⟨hears, registered, more, answer, noted, own, known, others⟩ | ⟨deaf, answer⟩
  · refine .inl ⟨hears, ?_⟩
    rw [answer]
    have delivered := registered.deliverToParticipant_attributes ambient hdr.senderId
      (opusPacket data hdr) countDuplicateLate known
    obtain ⟨later, appended, nonempty, attributed⟩ := delivered.effects
    refine ⟨⟨more ++ later, ?_, ?_, ?_⟩, ?_⟩
    · rw [appended, noted, append_assoc]
    · exact append_ne_nil_of_right_ne_nil more nonempty
    · exact forall_mem_append.mpr ⟨own, attributed⟩
    · intro other
      rw [delivered.known]
      by_cases same : other = hdr.senderId
      · simp [same]
      · rw [others other same]
  · refine .inr ⟨deaf, ?_⟩
    rw [answer]

theorem Attributes.hears {participantId : UInt32} {before after : Client} {ambient : ClientAmbient}
    (attributes : Attributes participantId before after)
    (hears : before.Hears ambient participantId) (other : UInt32) :
    after.Hears ambient other ↔ before.Hears ambient other := by
  unfold Hears at hears ⊢
  rw [attributes.known]
  by_cases same : other = participantId
  · subst same
    simp only [true_or, true_iff]
    exact hears
  · simp [same]

/-- Over the children in any order: all effects are the given participant's exactly
if every child that is heard names it. -/
theorem foldl_attributed_iff (entries : List (Octets × Nat)) (client : Client)
    (valid : ∀ entry ∈ entries, validateAudioPacketBytes entry.1 = .ok ()) :
    (∀ effect ∈ (entries.foldl (fun current entry =>
        current.handleSingleAudioMessage ambient entry.1 (entry.2 = 0)) client).effects,
        effect.participantId = senderId) ↔
      (∀ effect ∈ client.effects, effect.participantId = senderId) ∧
        ∀ entry ∈ entries, ∀ hdr, parseAudioHeader entry.1 = some hdr →
          client.Hears ambient hdr.senderId → hdr.senderId = senderId := by
  induction entries generalizing client with
  | nil => simp
  | cons entry entries ih =>
    obtain ⟨first, rest⟩ := forall_mem_cons.mp valid
    obtain ⟨hdr, parsed, -⟩ := validateAudioPacketBytes_ok first
    rw [foldl_cons, ih _ rest, forall_mem_cons]
    have named : (∀ found, parseAudioHeader entry.1 = some found →
        client.Hears ambient found.senderId → found.senderId = senderId) ↔
        (client.Hears ambient hdr.senderId → hdr.senderId = senderId) := by
      simp only [parsed, Option.some.injEq, forall_eq']
    rw [named]
    rcases client.handleSingleAudioMessage_spec ambient (entry.2 = 0) first parsed with
      ⟨hears, attributes⟩ | ⟨deaf, same⟩
    · obtain ⟨more, appended, nonempty, own⟩ := attributes.effects
      have new : (∀ effect ∈ client.effects ++ more, effect.participantId = senderId) ↔
          (∀ effect ∈ client.effects, effect.participantId = senderId) ∧
            hdr.senderId = senderId := by
        rw [forall_mem_append]
        refine and_congr_right fun _ => ?_
        obtain ⟨effect, later, rfl⟩ := exists_cons_of_ne_nil nonempty
        constructor
        · intro all
          rw [← own effect mem_cons_self]
          exact all effect mem_cons_self
        · intro equal other member
          rw [own other member, equal]
      simp only [appended, new, attributes.hears hears, hears, forall_const, and_assoc]
    · simp [same, deaf]

theorem handleAudioMessage_attributed_iff {metadata : SecureAudioMetadata} {plaintext : Octets}
    (accepted : metadataMatches metadata plaintext = true) (fresh : client.effects = []) :
    (∀ effect ∈ (client.handleAudioMessage ambient plaintext).effects,
        effect.participantId = metadata.senderId) ↔
      ∀ packet ∈ carriedPackets plaintext, ∀ hdr, parseAudioHeader packet = some hdr →
        client.Hears ambient hdr.senderId → hdr.senderId = metadata.senderId := by
  unfold handleAudioMessage carriedPackets
  split
  next redundant =>
    have entries := foldl_attributed_iff ambient metadata.senderId
      (children plaintext).zipIdx.reverse client (by
        intro entry member
        exact children_validate (fst_mem_of_mem_zipIdx (mem_reverse.mp member)))
    rw [handleRedundantAudioMessage, forEachRedundantAudioChildReverse, entries, fresh]
    simp only [not_mem_nil, false_implies, implies_true, true_and, mem_reverse]
    constructor
    · intro all packet member
      obtain ⟨index, inside, rfl⟩ := mem_iff_getElem.mp member
      exact all ((children plaintext)[index], index) (mem_zipIdx_iff_getElem?.mpr (by simp))
    · intro all entry member
      exact all entry.1 (fst_mem_of_mem_zipIdx member)
  next single =>
    -- a single packet names the sender of the metadata, whatever becomes of it
    have matched : ∃ hdr, parseAudioHeader plaintext = some hdr ∧
        hdr.senderId = metadata.senderId := by
      unfold metadataMatches at accepted
      split at accepted
      · cases accepted
      split at accepted
      · unfold metadataMatchesChild at accepted
        split at accepted
        · cases accepted
        next hdr parsed =>
          simp only [Bool.and_eq_true, decide_eq_true_eq] at accepted
          exact ⟨hdr, parsed, accepted.1.1.1.1.1.1⟩
      · cases accepted
    obtain ⟨hdr, parsed, named⟩ := matched
    have right : ∀ packet ∈ [plaintext], ∀ found, parseAudioHeader packet = some found →
        client.Hears ambient found.senderId → found.senderId = metadata.senderId := by
      intro packet member found again _
      obtain rfl := mem_singleton.mp member
      rw [← Option.some.inj (parsed.symm.trans again)]
      exact named
    refine ⟨fun _ => right, fun _ => ?_⟩
    rw [if_neg (not_not.mpr (parseAudioHeader_fields parsed).1)]
    cases valid : validateAudioPacketBytes plaintext with
    | error reason =>
      have ignored : client.handleSingleAudioMessage ambient plaintext true = client := by
        unfold handleSingleAudioMessage
        rw [parsed, valid]
      rw [ignored, fresh]
      simp
    | ok checked =>
      rcases client.handleSingleAudioMessage_spec ambient true valid parsed with
        ⟨-, attributes⟩ | ⟨-, same⟩
      · obtain ⟨more, appended, -, own⟩ := attributes.effects
        rw [appended, fresh, nil_append]
        intro effect member
        rw [own effect member, named]
      · rw [same, fresh]
        simp

/-- What an accepted secure audio datagram does to participants is all done to the
sender its header names exactly if every packet in it whose sender is heard
names that sender too. -/
theorem secureAudio_attributed_iff (sodium : Sodium) (client : Client) (ambient : ClientAmbient)
    (datagram key plaintext : Octets) (metadata : SecureAudioMetadata)
    (receiving : client.receivingEnabled = true) (keyed : client.sessionKey = some key)
    (opened : openAudioPacket sodium key (datagram.take clientPacketBytes) 2048 =
      some (metadata, plaintext))
    (accepted : metadataMatches metadata plaintext = true) :
    (∀ effect ∈ (client.step sodium (ambient, .receive datagram)).effects,
        effect.participantId = metadata.senderId) ↔
      ∀ packet ∈ carriedPackets plaintext, ∀ hdr, parseAudioHeader packet = some hdr →
        client.Hears ambient hdr.senderId → hdr.senderId = metadata.senderId := by
  obtain ⟨magic, long⟩ := openAudioPacket_fields opened
  have handled : client.step sodium (ambient, .receive datagram) =
      { client with outbox := [], effects := [] }.handleAudioMessage ambient plaintext := by
    simp only [step, onReceive]
    have control : ¬ (secureAudioMagic = ctrlMagic ∧
        ctrlHdrBytes ≤ (datagram.take clientPacketBytes).length) :=
      fun both => absurd both.1 (by decide)
    rw [if_neg (by rw [receiving]; simpa using long), magic, if_neg control,
      if_neg (by decide), if_pos rfl, handleSecureAudioMessage]
    simp [keyed, opened, accepted]
  rw [handled]
  exact handleAudioMessage_attributed_iff { client with outbox := [], effects := [] } ambient
    accepted rfl

def tuneSecret : Octets := ascii "tune"

/-- A ticket for the room `jam` whose media secret is `mediaSecret`. -/
def tuneTicket (roomInstanceId : Octets) (accessEpoch : UInt32) (mediaSecret : Octets) : Octets :=
  (create .framing
    { expiresAtMs := 10
      serverId := ascii "srv"
      roomId := ascii "jam"
      profileId := ascii "ann"
      roomInstanceId := roomInstanceId
      accessEpoch := accessEpoch
      mediaKeyCommitment := (mediaKeyCommitment .framing mediaSecret).getD []
      nonce := ascii "n1" } (ascii "secret")).getD []

/-- Join `jam` with its media secret and be acknowledged as participant 9. -/
def keyedVisit (accessMode : UInt8) : List (ClientAmbient × ClientEvent) :=
  [(quietAmbient, .act (.joinRoom ⟨ascii "jam", ascii "ann", ascii "Ann",
      tuneTicket (ascii "one") 1 tuneSecret, tuneSecret, accessMode⟩ true)),
    (quietAmbient, .receive (ctrlDatagram 8 9 ++ u32Bytes audioSupportedCapabilities))]

def listener : Client :=
  Run.run (step .framing) (initial {} (some (ascii "ann", ascii "ann"))) (keyedVisit roomAccessOpen)

def spokenBy (senderId sequence : UInt32) : Octets :=
  audioHeaderBytes ⟨senderId, sequence, 48000, 480, 3, 1, audioCodecOpus, 0⟩ ++ [7, 7, 7]

variable (plaintext : Octets)

def spokenMetadata : SecureAudioMetadata :=
  ⟨1, 5, 48000, 480, UInt16.ofNat plaintext.length, 1, audioCodecOpus, 0⟩

/-- Participant 1 seals a packet under the listener's session key. -/
def sealedByOne : Octets :=
  (sealAudioPacket .framing (listener.sessionKey.getD []) (spokenMetadata plaintext) plaintext 2048
    []).getD []

theorem secureAudio_attributed_iff_single :
    (listener.step .framing
        (quietAmbient, .receive (sealedByOne (spokenBy 1 5)))).effects.length = 3 ∧
      ∀ effect ∈ (listener.step .framing
          (quietAmbient, .receive (sealedByOne (spokenBy 1 5)))).effects,
        effect.participantId = 1 := by
  -- One evaluation: the listener's key and the sealed packet are computed once for all of these.
  have facts : (listener.step .framing
        (quietAmbient, .receive (sealedByOne (spokenBy 1 5)))).effects.length = 3 ∧
      listener.receivingEnabled = true ∧
      listener.sessionKey = some (listener.sessionKey.getD []) ∧
      openAudioPacket .framing (listener.sessionKey.getD [])
          ((sealedByOne (spokenBy 1 5)).take clientPacketBytes) 2048 =
        some (spokenMetadata (spokenBy 1 5), spokenBy 1 5) ∧
      metadataMatches (spokenMetadata (spokenBy 1 5)) (spokenBy 1 5) = true ∧
      carriedPackets (spokenBy 1 5) = [spokenBy 1 5] ∧
      parseAudioHeader (spokenBy 1 5) =
        some ⟨1, 5, 48000, 480, 3, 1, audioCodecOpus, 0⟩ := by
    decide +kernel
  obtain ⟨count, receiving, keyed, opened, accepted, only, fields⟩ := facts
  refine ⟨count, (secureAudio_attributed_iff .framing listener quietAmbient _ _ _ _
    receiving keyed opened accepted).mpr ?_⟩
  intro packet member hdr parsed _
  obtain rfl := mem_singleton.mp member
  rw [← Option.some.inj (fields.symm.trans parsed)]
  rfl

/-- A redundant packet whose second child participant 1 has written in another's name. -/
def forgedHistory : Octets := redundantHeaderBytes 2 ++ (spokenBy 1 5 ++ spokenBy 2 4)

theorem secureAudio_misattributed :
    (openAudioPacket .framing (listener.sessionKey.getD []) (sealedByOne forgedHistory) 2048 =
        some (spokenMetadata forgedHistory, forgedHistory) ∧
      metadataMatches (spokenMetadata forgedHistory) forgedHistory = true) ∧
      (spokenMetadata forgedHistory).senderId = 1 ∧
      (listener.step .framing (quietAmbient, .receive (sealedByOne forgedHistory))).effects.map
        AudioEffect.participantId = [2, 2, 2, 1, 1, 1] := by
  decide +kernel

end Client

end Sesivo
