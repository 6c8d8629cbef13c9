import Sesivo.SessionCrypto

set_option autoImplicit false

/- Sealed audio and control packets both ways: what is sealed opens, and a header
that parses is the header that would have been written. -/

namespace Sesivo.SessionCrypto

open Octets JoinToken

/-- What an audio packet with a header that parses looks like. -/
structure CanonicalAudio (packet : Octets) (metadata : SecureAudioMetadata) (bytes : UInt16) :
    Prop where
  length : packet.length = securePacketHeaderBytes + bytes.toNat
  tagged : bytes.toNat = metadata.plaintextBytes.toNat + securePacketTagBytes
  header : packet.take securePacketHeaderBytes =
    secureAudioHeaderBytes metadata (SecureAudioHdr.read packet).nonce

/-- What a control packet with a header that parses looks like. -/
structure CanonicalControl (packet : Octets) (metadata : SecureControlMetadata) (bytes : UInt16) :
    Prop where
  length : packet.length = secureControlHeaderBytes + bytes.toNat
  tagged : bytes.toNat = metadata.plaintextBytes.toNat + securePacketTagBytes
  header : packet.take secureControlHeaderBytes =
    secureControlHeader metadata (SecureControlHdr.read packet).nonce

theorem encryptedBytes_eq {plaintextBytes bytes : UInt16}
    (sum : bytes.toNat = plaintextBytes.toNat + securePacketTagBytes) :
    plaintextBytes + UInt16.ofNat securePacketTagBytes = bytes := by
  have tag : (UInt16.ofNat securePacketTagBytes).toNat = securePacketTagBytes := rfl
  have small := bytes.toNat_lt
  apply UInt16.toNat_inj.mp
  rw [UInt16.toNat_add, tag, ← sum]
  exact Nat.mod_eq_of_lt small

theorem secureAudioHdr_fields {packet : Octets} (long : securePacketHeaderBytes ≤ packet.length) :
    let hdr := SecureAudioHdr.read packet
    packet.take securePacketHeaderBytes =
      u32Bytes hdr.magic ++ u32Bytes hdr.senderId ++ u32Bytes hdr.sequence ++
        u32Bytes hdr.sampleRate ++ u16Bytes hdr.frameCount ++ u16Bytes hdr.plaintextBytes ++
        u16Bytes hdr.encryptedBytes ++ u16Bytes hdr.reserved ++ [hdr.channels] ++ [hdr.codec] ++
        i64Bytes hdr.captureServerTimeNs ++ hdr.nonce := by
  have size : securePacketHeaderBytes = 46 := rfl
  have first : slice packet 0 4 = packet.take 4 := rfl
  simp only [SecureAudioHdr.read]
  rw [u32Bytes_u32At (by omega), u32Bytes_u32At (by omega), u32Bytes_u32At (by omega),
    u32Bytes_u32At (by omega), u16Bytes_u16At (by omega), u16Bytes_u16At (by omega),
    u16Bytes_u16At (by omega), u16Bytes_u16At (by omega), u8At_self (by omega),
    u8At_self (by omega), i64Bytes_i64At (by omega), first]
  simp only [take_append_slice]
  rfl

theorem secureControlHdr_fields {packet : Octets}
    (long : secureControlHeaderBytes ≤ packet.length) :
    let hdr := SecureControlHdr.read packet
    packet.take secureControlHeaderBytes =
      u32Bytes hdr.magic ++ u32Bytes hdr.senderId ++ u32Bytes hdr.targetId ++
        u32Bytes hdr.sequence ++ u32Bytes hdr.accessEpoch ++ u16Bytes hdr.plaintextBytes ++
        u16Bytes hdr.encryptedBytes ++ u16Bytes hdr.reserved ++ hdr.mediaKeyCommitment ++
        hdr.nonce := by
  have size : secureControlHeaderBytes = 102 := rfl
  have first : slice packet 0 4 = packet.take 4 := rfl
  simp only [SecureControlHdr.read]
  rw [u32Bytes_u32At (by omega), u32Bytes_u32At (by omega), u32Bytes_u32At (by omega),
    u32Bytes_u32At (by omega), u32Bytes_u32At (by omega), u16Bytes_u16At (by omega),
    u16Bytes_u16At (by omega), u16Bytes_u16At (by omega), first]
  simp only [take_append_slice]
  rfl

variable {bytes : UInt16}

theorem parseSecureAudioHeader_canonical {packet : Octets} {metadata : SecureAudioMetadata}
    (parsed : parseSecureAudioHeader packet = .ok (metadata, bytes)) :
    CanonicalAudio packet metadata bytes := by
  simp only [parseSecureAudioHeader] at parsed
  split at parsed
  · cases parsed
  rename_i long
  split at parsed
  · cases parsed
  rename_i magic
  split at parsed
  · cases parsed
  rename_i reserved
  split at parsed
  · cases parsed
  rename_i lengths
  split at parsed
  · cases parsed
  cases parsed
  simp only [not_or, not_not] at lengths
  obtain ⟨-, -, -, sum, total⟩ := lengths
  have size : securePacketHeaderBytes = 46 := rfl
  have nonce : (SecureAudioHdr.read packet).nonce.length = securePacketNonceBytes :=
    slice_length (by omega)
  refine ⟨total, sum, ?_⟩
  rw [secureAudioHdr_fields (Nat.le_of_not_lt long), secureAudioHeaderBytes,
    Decidable.byContradiction magic, Decidable.byContradiction reserved,
    encryptedBytes_eq sum, padded_of_length nonce]
  simp

theorem parseSecureControlHeader_canonical {packet : Octets} {metadata : SecureControlMetadata}
    (parsed : parseSecureControlHeader packet = .ok (metadata, bytes)) :
    CanonicalControl packet metadata bytes := by
  simp only [parseSecureControlHeader] at parsed
  split at parsed
  · cases parsed
  rename_i long
  split at parsed
  · cases parsed
  rename_i magic
  split at parsed
  · cases parsed
  rename_i reserved
  split at parsed
  · cases parsed
  rename_i lengths
  cases parsed
  simp only [not_or, not_not] at lengths
  obtain ⟨-, -, -, -, -, -, sum, total⟩ := lengths
  have size : secureControlHeaderBytes = 102 := rfl
  have nonce : (SecureControlHdr.read packet).nonce.length = securePacketNonceBytes :=
    slice_length (by omega)
  have commitment : (SecureControlHdr.read packet).mediaKeyCommitment.length =
      mediaKeyCommitmentHexBytes := slice_length (by omega)
  refine ⟨total, sum, ?_⟩
  rw [secureControlHdr_fields (Nat.le_of_not_lt long), secureControlHeader,
    Decidable.byContradiction magic, Decidable.byContradiction reserved,
    encryptedBytes_eq sum, padded_of_length nonce, padded_of_length commitment]

/-- What `sealControlPacket` checks about a packet it is asked to seal. -/
structure ControlSealable (metadata : SecureControlMetadata) (plaintext : Octets) : Prop where
  named : metadata.senderId ≠ 0
  numbered : metadata.sequence ≠ 0
  dated : metadata.accessEpoch ≠ 0
  committed : validSha256Hex metadata.mediaKeyCommitment = true
  counted : metadata.plaintextBytes.toNat = plaintext.length
  fits : plaintext.length ≤ 65535 - securePacketTagBytes

section Sealing

variable {sodium : Sodium} {key plaintext nonce packet : Octets} {outCapacity : Nat}

theorem sealAudioPacket_some {metadata : SecureAudioMetadata}
    (done : sealAudioPacket sodium key metadata plaintext outCapacity nonce = some packet) :
    Sealable metadata plaintext ∧ packet = secureAudioHeaderBytes metadata nonce ++
      sodium.aeadEncrypt key (padded securePacketNonceBytes nonce)
        (secureAudioHeaderBytes metadata nonce) plaintext := by
  unfold sealAudioPacket at done
  split at done
  · cases done
  rename_i checked
  split at done
  · cases done
  simp only [not_or, not_not, not_lt, Bool.not_eq_false] at checked
  obtain ⟨named, counted, rate, mono, opus, supported, fits, -⟩ := checked
  exact ⟨⟨named, counted, rate, mono, opus, supported, fits⟩, (Option.some.inj done).symm⟩

variable {metadata : SecureControlMetadata}

theorem sealControlPacket_some
    (done : sealControlPacket sodium key metadata plaintext outCapacity nonce = some packet) :
    ControlSealable metadata plaintext ∧ packet = secureControlHeader metadata nonce ++
      sodium.aeadEncrypt key (padded securePacketNonceBytes nonce)
        (secureControlHeader metadata nonce) plaintext := by
  unfold sealControlPacket at done
  split at done
  · cases done
  rename_i checked
  split at done
  · cases done
  simp only [not_or, not_not, not_lt, Bool.not_eq_false] at checked
  obtain ⟨named, numbered, dated, committed, counted, fits, -⟩ := checked
  exact ⟨⟨named, numbered, dated, committed, counted, fits⟩, (Option.some.inj done).symm⟩

theorem secureControlHeader_length (metadata : SecureControlMetadata) (nonce : Octets) :
    (secureControlHeader metadata nonce).length = secureControlHeaderBytes := by
  simp [secureControlHeader, u32Bytes, u16Bytes, leBytes_length, padded_length,
    mediaKeyCommitmentHexBytes, securePacketNonceBytes, secureControlHeaderBytes]

theorem read_secureControlHeader
    (commitment : metadata.mediaKeyCommitment.length = mediaKeyCommitmentHexBytes)
    (nonce encrypted : Octets) :
    SecureControlHdr.read (secureControlHeader metadata nonce ++ encrypted) =
      { magic := secureControlMagic
        senderId := metadata.senderId
        targetId := metadata.targetId
        sequence := metadata.sequence
        accessEpoch := metadata.accessEpoch
        plaintextBytes := metadata.plaintextBytes
        encryptedBytes := metadata.plaintextBytes + UInt16.ofNat securePacketTagBytes
        reserved := 0
        mediaKeyCommitment := metadata.mediaKeyCommitment
        nonce := padded securePacketNonceBytes nonce } := by
  have sixtyFour : metadata.mediaKeyCommitment.length = 64 := commitment
  have text := slice_whole metadata.mediaKeyCommitment
    (padded securePacketNonceBytes nonce ++ encrypted) 64 sixtyFour
  have behind := slice_append_right metadata.mediaKeyCommitment
    (padded securePacketNonceBytes nonce ++ encrypted) 0 12
  rw [sixtyFour, Nat.zero_add] at behind
  have last := slice_whole (padded securePacketNonceBytes nonce) encrypted 12 (padded_length _ _)
  simp only [SecureControlHdr.read, secureControlHeader, padded_of_length commitment,
    List.append_assoc, u32At, u16At, slice_after_u32Bytes, slice_after_u16Bytes, leNat_u32Bytes,
    leNat_u16Bytes, UInt32.ofNat_toNat, UInt16.ofNat_toNat, text, behind, last]

theorem ControlSealable.commitment_length (sealable : ControlSealable metadata plaintext) :
    metadata.mediaKeyCommitment.length = mediaKeyCommitmentHexBytes :=
  length_of_validSha256Hex sealable.committed

theorem ControlSealable.encryptedBytes (sealable : ControlSealable metadata plaintext) :
    (metadata.plaintextBytes + UInt16.ofNat securePacketTagBytes).toNat =
      plaintext.length + securePacketTagBytes :=
  toNat_add_tagBytes sealable.counted sealable.fits

theorem parseSecureControlHeader_sealed
    (sealable : ControlSealable metadata plaintext) (nonempty : plaintext ≠ []) (nonce : Octets)
    {encrypted : Octets} (length : encrypted.length = plaintext.length + securePacketTagBytes) :
    parseSecureControlHeader (secureControlHeader metadata nonce ++ encrypted) =
      .ok (metadata, metadata.plaintextBytes + UInt16.ofNat securePacketTagBytes) := by
  have header := secureControlHeader_length metadata nonce
  have positive : 0 < plaintext.length := List.length_pos_of_ne_nil nonempty
  have counted := sealable.counted
  have sum := sealable.encryptedBytes
  have some_bytes : metadata.plaintextBytes ≠ 0 := by
    intro zero
    rw [zero] at counted
    have none : (0 : UInt16).toNat = 0 := rfl
    omega
  unfold parseSecureControlHeader
  rw [if_neg (by rw [List.length_append, header]; omega),
    read_secureControlHeader sealable.commitment_length nonce encrypted]
  simp only [ne_eq, not_true_eq_false, ↓reduceIte, sealable.named, sealable.numbered,
    sealable.dated, sealable.committed, Bool.true_eq_false, some_bytes, sum, counted,
    List.length_append, header, length, false_or, or_false]
  rw [if_neg (by omega)]

theorem openControlPacket_sealed (correct : sodium.AeadCorrect)
    (sealable : ControlSealable metadata plaintext)
    (nonempty : plaintext ≠ []) (key nonce : Octets) {plaintextCapacity : Nat}
    (room : plaintext.length ≤ plaintextCapacity) :
    openControlPacket sodium key (secureControlHeader metadata nonce ++
        sodium.aeadEncrypt key (padded securePacketNonceBytes nonce)
          (secureControlHeader metadata nonce) plaintext) plaintextCapacity =
      some (metadata, plaintext) := by
  have header := secureControlHeader_length metadata nonce
  have length := correct.encrypted_length key (padded securePacketNonceBytes nonce)
    (secureControlHeader metadata nonce) plaintext
  have parsed := parseSecureControlHeader_sealed sealable nonempty nonce length
  have sixteen : securePacketTagBytes = 16 := rfl
  have sum := sealable.encryptedBytes
  unfold openControlPacket
  rw [if_neg (by
    rw [List.length_append, header, length, correct.initialized]
    simp only [Bool.true_eq_false, or_false]
    omega), parsed]
  have body : slice (secureControlHeader metadata nonce ++
      sodium.aeadEncrypt key (padded securePacketNonceBytes nonce)
        (secureControlHeader metadata nonce) plaintext) secureControlHeaderBytes
        (plaintext.length + securePacketTagBytes) =
      sodium.aeadEncrypt key (padded securePacketNonceBytes nonce)
        (secureControlHeader metadata nonce) plaintext := by
    rw [slice, List.drop_left' header]
    exact List.take_of_length_le length.le
  simp [sealable.counted, sum, body, List.take_left' header, not_lt.mpr room,
    read_secureControlHeader sealable.commitment_length nonce, correct.decrypts]

end Sealing

/-- What was sealed opens to the same plaintext and metadata; a packet whose header parses
has the lengths the header says and the header that would be written for it. -/
theorem sealed_canonical (sodium : Sodium) (correct : sodium.AeadCorrect) :
    (∀ key metadata plaintext outCapacity nonce packet, plaintext ≠ [] →
        -2 ^ 63 ≤ metadata.captureServerTimeNs → metadata.captureServerTimeNs < 2 ^ 63 →
        sealAudioPacket sodium key metadata plaintext outCapacity nonce = some packet →
        ∀ capacity, plaintext.length ≤ capacity →
          openAudioPacket sodium key packet capacity = some (metadata, plaintext)) ∧
      (∀ key metadata plaintext outCapacity nonce packet, plaintext ≠ [] →
        sealControlPacket sodium key metadata plaintext outCapacity nonce = some packet →
        ∀ capacity, plaintext.length ≤ capacity →
          openControlPacket sodium key packet capacity = some (metadata, plaintext)) ∧
      (∀ packet metadata bytes, parseSecureAudioHeader packet = .ok (metadata, bytes) →
        CanonicalAudio packet metadata bytes) ∧
      (∀ packet metadata bytes, parseSecureControlHeader packet = .ok (metadata, bytes) →
        CanonicalControl packet metadata bytes) ∧
      (∀ first second metadata firstBytes secondBytes,
        parseSecureAudioHeader first = .ok (metadata, firstBytes) →
        parseSecureAudioHeader second = .ok (metadata, secondBytes) →
        (SecureAudioHdr.read first).nonce = (SecureAudioHdr.read second).nonce →
        first.take securePacketHeaderBytes = second.take securePacketHeaderBytes) ∧
      ∀ first second metadata firstBytes secondBytes,
        parseSecureControlHeader first = .ok (metadata, firstBytes) →
        parseSecureControlHeader second = .ok (metadata, secondBytes) →
        (SecureControlHdr.read first).nonce = (SecureControlHdr.read second).nonce →
        first.take secureControlHeaderBytes = second.take secureControlHeaderBytes := by
  refine ⟨?_, ?_, ?_, ?_, ?_, ?_⟩
  · intro key metadata plaintext outCapacity nonce packet nonempty low high done capacity room
    obtain ⟨sealable, rfl⟩ := sealAudioPacket_some done
    exact openAudioPacket_sealed correct sealable nonempty low high key nonce room
  · intro key metadata plaintext outCapacity nonce packet nonempty done capacity room
    obtain ⟨sealable, rfl⟩ := sealControlPacket_some done
    exact openControlPacket_sealed correct sealable nonempty key nonce room
  · intro packet metadata bytes parsed
    exact parseSecureAudioHeader_canonical parsed
  · intro packet metadata bytes parsed
    exact parseSecureControlHeader_canonical parsed
  · intro first second metadata firstBytes secondBytes one two same
    rw [(parseSecureAudioHeader_canonical one).header,
      (parseSecureAudioHeader_canonical two).header, same]
  · intro first second metadata firstBytes secondBytes one two same
    rw [(parseSecureControlHeader_canonical one).header,
      (parseSecureControlHeader_canonical two).header, same]

def pingMetadata : SecureControlMetadata where
  senderId := 1
  targetId := 2
  sequence := 3
  accessEpoch := 4
  plaintextBytes := 2
  mediaKeyCommitment := List.replicate 64 (ofChar 'a')

theorem sealed_canonical_ping :
    ∃ packet, sealControlPacket .framing (ascii "key") pingMetadata (ascii "hi") 200 [] =
        some packet ∧
      openControlPacket .framing (ascii "key") packet 8 = some (pingMetadata, ascii "hi") := by
  have done : (sealControlPacket .framing (ascii "key") pingMetadata (ascii "hi") 200 []).isSome =
      true := by
    decide +kernel
  obtain ⟨packet, made⟩ := Option.isSome_iff_exists.mp done
  refine ⟨packet, made, ?_⟩
  exact (sealed_canonical .framing Sodium.framing_aeadCorrect).2.1 (ascii "key") pingMetadata
    (ascii "hi") 200 [] packet (by decide) made 8 (by decide)

end Sesivo.SessionCrypto
