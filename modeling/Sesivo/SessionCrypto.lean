import Sesivo.JoinToken

set_option autoImplicit false

/- Key derivation, key envelopes and sealed packets, `session_crypto.h`, with
the Opus clock constants of `opus_network_clock.h` the headers are checked
against. Random nonces are arguments. -/

namespace Sesivo

open Octets JoinToken List

namespace OpusNetworkClock

def sampleRate : UInt32 := 48000

def supportedFrameCounts : List UInt16 := [120, 240, 480, 960]

variable (rate : UInt32)

def isLegalFrameCount (frameCount : UInt16) : Bool :=
  ([1, 2, 4, 8, 16, 24] : List UInt32).any fun duration =>
    (rate * duration) / 400 = frameCount.toUInt32 && (rate * duration) % 400 = 0

def isSupportedFrameCount (frameCount : UInt16) : Bool :=
  rate = sampleRate && frameCount ∈ supportedFrameCounts && isLegalFrameCount rate frameCount

end OpusNetworkClock

namespace SessionCrypto

structure SecureAudioMetadata where
  senderId : UInt32
  sequence : UInt32
  sampleRate : UInt32
  frameCount : UInt16
  plaintextBytes : UInt16
  channels : UInt8
  codec : UInt8
  captureServerTimeNs : Int
deriving DecidableEq

structure SecureControlMetadata where
  senderId : UInt32
  targetId : UInt32
  sequence : UInt32
  accessEpoch : UInt32
  plaintextBytes : UInt16
  mediaKeyCommitment : Octets
deriving DecidableEq

/-- The metadata and the number of sealed bytes of a well-formed packet. -/
def parseSecureAudioHeader (packet : Octets) : Except String (SecureAudioMetadata × UInt16) :=
  if packet.length < securePacketHeaderBytes then .error "short secure audio header"
  else
    let hdr := SecureAudioHdr.read packet
    if hdr.magic ≠ secureAudioMagic then .error "wrong secure audio magic"
    else if hdr.reserved ≠ 0 then .error "nonzero secure audio reserved field"
    else if hdr.senderId = 0 ∨ hdr.plaintextBytes = 0 ∨
        hdr.encryptedBytes.toNat < securePacketTagBytes ∨
        hdr.encryptedBytes.toNat ≠ hdr.plaintextBytes.toNat + securePacketTagBytes ∨
        packet.length ≠ securePacketHeaderBytes + hdr.encryptedBytes.toNat then
      .error "invalid secure audio lengths"
    else if hdr.sampleRate ≠ OpusNetworkClock.sampleRate ∨ hdr.channels ≠ 1 ∨
        hdr.codec ≠ audioCodecOpus ∨
        OpusNetworkClock.isSupportedFrameCount hdr.sampleRate hdr.frameCount = false then
      .error "unsupported secure audio shape"
    else
      .ok
        ({ senderId := hdr.senderId
           sequence := hdr.sequence
           sampleRate := hdr.sampleRate
           frameCount := hdr.frameCount
           plaintextBytes := hdr.plaintextBytes
           channels := hdr.channels
           codec := hdr.codec
           captureServerTimeNs := hdr.captureServerTimeNs }, hdr.encryptedBytes)

def parseSecureControlHeader (packet : Octets) : Except String (SecureControlMetadata × UInt16) :=
  if packet.length < secureControlHeaderBytes then .error "short secure control header"
  else
    let hdr := SecureControlHdr.read packet
    if hdr.magic ≠ secureControlMagic then .error "wrong secure control magic"
    else if hdr.reserved ≠ 0 then .error "nonzero secure control reserved field"
    else if hdr.senderId = 0 ∨ hdr.sequence = 0 ∨ hdr.accessEpoch = 0 ∨
        validSha256Hex hdr.mediaKeyCommitment = false ∨ hdr.plaintextBytes = 0 ∨
        hdr.encryptedBytes.toNat < securePacketTagBytes ∨
        hdr.encryptedBytes.toNat ≠ hdr.plaintextBytes.toNat + securePacketTagBytes ∨
        packet.length ≠ secureControlHeaderBytes + hdr.encryptedBytes.toNat then
      .error "invalid secure control lengths"
    else
      .ok
        ({ senderId := hdr.senderId
           targetId := hdr.targetId
           sequence := hdr.sequence
           accessEpoch := hdr.accessEpoch
           plaintextBytes := hdr.plaintextBytes
           mediaKeyCommitment := hdr.mediaKeyCommitment }, hdr.encryptedBytes)

variable {key packet mediaSecret commitment : Octets} {bytes : UInt16} {capacity : Nat}

theorem parseSecureControlHeader_fields {metadata : SecureControlMetadata}
    (parsed : parseSecureControlHeader packet = .ok (metadata, bytes)) :
    magicOf packet = secureControlMagic ∧
      metadata.senderId = (SecureControlHdr.read packet).senderId ∧
      metadata.accessEpoch = (SecureControlHdr.read packet).accessEpoch ∧
      metadata.mediaKeyCommitment = (SecureControlHdr.read packet).mediaKeyCommitment := by
  simp only [parseSecureControlHeader] at parsed
  split at parsed
  · cases parsed
  split at parsed
  · cases parsed
  rename_i magic
  split at parsed
  · cases parsed
  split at parsed
  · cases parsed
  cases parsed
  exact ⟨Decidable.byContradiction magic, rfl, rfl, rfl⟩

theorem parseSecureAudioHeader_fields {metadata : SecureAudioMetadata}
    (parsed : parseSecureAudioHeader packet = .ok (metadata, bytes)) :
    magicOf packet = secureAudioMagic ∧
      metadata.senderId = (SecureAudioHdr.read packet).senderId := by
  simp only [parseSecureAudioHeader] at parsed
  split at parsed
  · cases parsed
  split at parsed
  · cases parsed
  rename_i magic
  split at parsed
  · cases parsed
  split at parsed
  · cases parsed
  split at parsed
  · cases parsed
  cases parsed
  exact ⟨Decidable.byContradiction magic, rfl⟩

variable (claims : Claims)

def nonceReplayKey : Octets :=
  tagged claims.serverId ++ ascii "|" ++ tagged claims.roomId ++ ascii "|" ++
    tagged claims.roomInstanceId ++ ascii "|" ++ decimal claims.accessEpoch.toNat ++ ascii "|" ++
    tagged claims.mediaKeyCommitment ++ ascii "|" ++ tagged claims.profileId ++ ascii "|" ++
    tagged claims.nonce

theorem nonceReplayKey_ne_nil : nonceReplayKey claims ≠ [] := by
  simp [nonceReplayKey, tagged]

/-- The replay key determines every claim it is built from. -/
theorem nonceReplayKey_inj {left right : Claims}
    (same : nonceReplayKey left = nonceReplayKey right) :
    left.serverId = right.serverId ∧ left.roomId = right.roomId ∧
      left.roomInstanceId = right.roomInstanceId ∧ left.accessEpoch = right.accessEpoch ∧
      left.mediaKeyCommitment = right.mediaKeyCommitment ∧ left.profileId = right.profileId ∧
      left.nonce = right.nonce := by
  simp only [nonceReplayKey, append_assoc] at same
  obtain ⟨server, same⟩ := tagged_append_inj same
  obtain ⟨room, same⟩ := tagged_append_inj (append_cancel_left same)
  obtain ⟨inst, same⟩ := tagged_append_inj (append_cancel_left same)
  obtain ⟨epoch, same⟩ :=
    @decimal_append_inj (ofChar '|') (by decide) _ _ _ _ (append_cancel_left same)
  obtain ⟨commitment, same⟩ := tagged_append_inj same
  obtain ⟨profile, same⟩ := tagged_append_inj (append_cancel_left same)
  have last := append_cancel_left same
  rw [← append_nil (tagged left.nonce), ← append_nil (tagged right.nonce)] at last
  exact ⟨server, room, inst, UInt32.toNat_inj.mp epoch, commitment, profile,
    (tagged_append_inj last).1⟩

def hmacSha256Bytes (sodium : Sodium) (key message : Octets) : Option Octets :=
  if sodium.initialized then some (sodium.hmacSha256 key message) else none

def sessionKeyFromDigest (digest : Octets) : Option Octets :=
  if digest.length = 32 then some digest else none

/-- Derive a room key from the media secret under a domain label. -/
def deriveKey (sodium : Sodium) (label roomId roomInstanceId mediaSecret : Octets) :
    Option Octets :=
  (hmacSha256Bytes sodium mediaSecret (label ++ roomId ++ ascii "|" ++ roomInstanceId)).bind
    sessionKeyFromDigest

def deriveMediaKeyFromSecret (sodium : Sodium) (roomId roomInstanceId mediaSecret : Octets) :
    Option Octets :=
  deriveKey sodium (ascii "sesivo-e2e-media-v3|") roomId roomInstanceId mediaSecret

def deriveChatKeyFromSecret (sodium : Sodium) (roomId roomInstanceId mediaSecret : Octets) :
    Option Octets :=
  deriveKey sodium (ascii "sesivo-e2e-chat-v1|") roomId roomInstanceId mediaSecret

def mediaKeyCommitment (sodium : Sodium) (mediaSecret : Octets) : Option Octets :=
  if mediaSecret = [] ∨ mediaSecretMaxBytes < mediaSecret.length then none
  else trySha256Hex sodium mediaSecret

/-- A commitment determines the digest it was made from. -/
theorem mediaKeyCommitment_inj {sodium : Sodium} {left right : Octets}
    (first : mediaKeyCommitment sodium left = some commitment)
    (second : mediaKeyCommitment sodium right = some commitment) :
    sodium.sha256 left = sodium.sha256 right := by
  unfold mediaKeyCommitment trySha256Hex at first second
  split at first
  · cases first
  split at second
  · cases second
  split at first
  · rw [if_pos (by assumption)] at second
    exact hex_inj (Option.some.inj (first.trans second.symm))
  · cases first

def mediaSecretMatchesCommitment (sodium : Sodium) (mediaSecret commitment : Octets) : Bool :=
  match mediaKeyCommitment sodium mediaSecret with
  | none => false
  | some actual => constantTimeEqual actual commitment

theorem mediaSecretMatchesCommitment_iff {sodium : Sodium} :
    mediaSecretMatchesCommitment sodium mediaSecret commitment = true ↔
      mediaKeyCommitment sodium mediaSecret = some commitment := by
  unfold mediaSecretMatchesCommitment
  cases mediaKeyCommitment sodium mediaSecret with
  | none => simp
  | some actual =>
    simp only [Option.some.injEq]
    constructor
    · exact eq_of_constantTimeEqual
    · rintro rfl
      exact constantTimeEqual_self actual

/-- A secret that has a commitment yields a media key for every room. -/
theorem deriveMediaKey_of_committed {sodium : Sodium}
    (committed : mediaKeyCommitment sodium mediaSecret = some commitment)
    (roomId roomInstanceId : Octets) :
    ∃ key, deriveMediaKeyFromSecret sodium roomId roomInstanceId mediaSecret = some key := by
  have ready : sodium.initialized = true := by
    unfold mediaKeyCommitment trySha256Hex at committed
    split at committed
    · cases committed
    split at committed
    next ready => exact ready
    · cases committed
  simp [deriveMediaKeyFromSecret, deriveKey, hmacSha256Bytes, ready, sessionKeyFromDigest,
    sodium.hmacSha256_length]

theorem ne_nil_of_committed {sodium : Sodium}
    (committed : mediaKeyCommitment sodium mediaSecret = some commitment) : mediaSecret ≠ [] := by
  rintro rfl
  cases committed

/-- Bytes a sealed box adds to its plaintext. -/
def boxSealBytes : Nat := 48

def sealKeyEnvelope (sodium : Sodium) (recipientPublicKey plaintext : Octets)
    (encryptedCapacity : Nat) (randomness : Octets) : Option Octets :=
  if plaintext = [] ∨ e2eKeyEnvelopeMaxBytes - boxSealBytes < plaintext.length ∨
      encryptedCapacity < plaintext.length + boxSealBytes ∨ sodium.initialized = false then
    none
  else some (sodium.boxSeal recipientPublicKey randomness plaintext)

def openKeyEnvelope (sodium : Sodium) (recipientPublicKey recipientSecretKey encrypted : Octets)
    (plaintextCapacity : Nat) : Option Octets :=
  if encrypted.length ≤ boxSealBytes ∨ e2eKeyEnvelopeMaxBytes < encrypted.length ∨
      plaintextCapacity < encrypted.length - boxSealBytes ∨ sodium.initialized = false then
    none
  else sodium.boxSealOpen recipientPublicKey recipientSecretKey encrypted

def secureAudioHeaderBytes (metadata : SecureAudioMetadata) (nonce : Octets) : Octets :=
  u32Bytes secureAudioMagic ++ u32Bytes metadata.senderId ++ u32Bytes metadata.sequence ++
    u32Bytes metadata.sampleRate ++ u16Bytes metadata.frameCount ++
    u16Bytes metadata.plaintextBytes ++
    u16Bytes (metadata.plaintextBytes + UInt16.ofNat securePacketTagBytes) ++ u16Bytes 0 ++
    [metadata.channels, metadata.codec] ++ i64Bytes metadata.captureServerTimeNs ++
    padded securePacketNonceBytes nonce

def sealAudioPacket (sodium : Sodium) (key : Octets) (metadata : SecureAudioMetadata)
    (plaintext : Octets) (outCapacity : Nat) (nonce : Octets) : Option Octets :=
  if metadata.senderId = 0 ∨ metadata.plaintextBytes.toNat ≠ plaintext.length ∨
      metadata.sampleRate ≠ OpusNetworkClock.sampleRate ∨ metadata.channels ≠ 1 ∨
      metadata.codec ≠ audioCodecOpus ∨
      OpusNetworkClock.isSupportedFrameCount metadata.sampleRate metadata.frameCount = false ∨
      65535 - securePacketTagBytes < plaintext.length ∨ sodium.initialized = false then
    none
  else if outCapacity < securePacketHeaderBytes + plaintext.length + securePacketTagBytes then none
  else
    let header := secureAudioHeaderBytes metadata nonce
    some (header ++ sodium.aeadEncrypt key (padded securePacketNonceBytes nonce) header plaintext)

def openAudioPacket (sodium : Sodium) (key packet : Octets) (plaintextCapacity : Nat) :
    Option (SecureAudioMetadata × Octets) :=
  if packet.length < securePacketHeaderBytes + securePacketTagBytes ∨
      sodium.initialized = false then
    none
  else
    match parseSecureAudioHeader packet with
    | .error _ => none
    | .ok (metadata, encryptedBytes) =>
      if plaintextCapacity < metadata.plaintextBytes.toNat then none
      else
        match sodium.aeadDecrypt key (SecureAudioHdr.read packet).nonce
            (packet.take securePacketHeaderBytes)
            (slice packet securePacketHeaderBytes encryptedBytes.toNat) with
        | none => none
        | some plaintext =>
          if plaintext.length = metadata.plaintextBytes.toNat then some (metadata, plaintext)
          else none

theorem openAudioPacket_fields {sodium : Sodium} {plaintext : Octets}
    {metadata : SecureAudioMetadata}
    (opened : openAudioPacket sodium key packet capacity = some (metadata, plaintext)) :
    magicOf packet = secureAudioMagic ∧ msgHdrBytes ≤ packet.length := by
  unfold openAudioPacket at opened
  split at opened
  · cases opened
  rename_i long
  simp only [not_or, not_lt] at long
  have enough : msgHdrBytes ≤ securePacketHeaderBytes + securePacketTagBytes := by decide
  split at opened
  · cases opened
  next found bytes parsed => exact ⟨(parseSecureAudioHeader_fields parsed).1, enough.trans long.1⟩

/-- The header of a sealed packet reads back if the capture time fits its field. -/
theorem read_secureAudioHeaderBytes (metadata : SecureAudioMetadata) (nonce encrypted : Octets)
    (low : -2 ^ 63 ≤ metadata.captureServerTimeNs) (high : metadata.captureServerTimeNs < 2 ^ 63) :
    SecureAudioHdr.read (secureAudioHeaderBytes metadata nonce ++ encrypted) =
      { magic := secureAudioMagic
        senderId := metadata.senderId
        sequence := metadata.sequence
        sampleRate := metadata.sampleRate
        frameCount := metadata.frameCount
        plaintextBytes := metadata.plaintextBytes
        encryptedBytes := metadata.plaintextBytes + UInt16.ofNat securePacketTagBytes
        reserved := 0
        channels := metadata.channels
        codec := metadata.codec
        captureServerTimeNs := metadata.captureServerTimeNs
        nonce := padded securePacketNonceBytes nonce } := by
  have twelve := slice_whole (padded securePacketNonceBytes nonce) encrypted 12 (padded_length _ _)
  simp only [SecureAudioHdr.read, secureAudioHeaderBytes, append_assoc, cons_append,
    nil_append, u32At, u16At, u8At, i64At, u64At, slice_after_u32Bytes, slice_after_u16Bytes,
    slice_after_byte, slice_after_i64Bytes, leNat_u32Bytes, leNat_u16Bytes, leNat_byte,
    leNat_i64Bytes, UInt32.ofNat_toNat, UInt16.ofNat_toNat, UInt8.ofNat_toNat,
    toInt_of_bits low high, twelve]

theorem secureAudioHeaderBytes_length (metadata : SecureAudioMetadata) (nonce : Octets) :
    (secureAudioHeaderBytes metadata nonce).length = securePacketHeaderBytes := by
  simp [secureAudioHeaderBytes, u32Bytes, u16Bytes, i64Bytes, leBytes_length, padded_length,
    securePacketNonceBytes, securePacketHeaderBytes]

/-- What `sealAudioPacket` checks about a packet it is asked to seal. -/
structure Sealable (metadata : SecureAudioMetadata) (plaintext : Octets) : Prop where
  named : metadata.senderId ≠ 0
  counted : metadata.plaintextBytes.toNat = plaintext.length
  rate : metadata.sampleRate = OpusNetworkClock.sampleRate
  mono : metadata.channels = 1
  opus : metadata.codec = audioCodecOpus
  supported :
    OpusNetworkClock.isSupportedFrameCount metadata.sampleRate metadata.frameCount = true
  fits : plaintext.length ≤ 65535 - securePacketTagBytes

section Sealing

variable {sodium : Sodium} {metadata : SecureAudioMetadata} {plaintext : Octets}

/-- The count of encrypted bytes does not wrap around. -/
theorem toNat_add_tagBytes {plaintextBytes : UInt16}
    (counted : plaintextBytes.toNat = plaintext.length)
    (fits : plaintext.length ≤ 65535 - securePacketTagBytes) :
    (plaintextBytes + UInt16.ofNat securePacketTagBytes).toNat =
      plaintext.length + securePacketTagBytes := by
  have sixteen : securePacketTagBytes = 16 := rfl
  have tag : (UInt16.ofNat securePacketTagBytes).toNat = securePacketTagBytes := rfl
  rw [UInt16.toNat_add, tag, counted]
  exact Nat.mod_eq_of_lt (by omega)

theorem Sealable.encryptedBytes (sealable : Sealable metadata plaintext) :
    (metadata.plaintextBytes + UInt16.ofNat securePacketTagBytes).toNat =
      plaintext.length + securePacketTagBytes :=
  toNat_add_tagBytes sealable.counted sealable.fits

theorem sealAudioPacket_eq (ready : sodium.initialized = true)
    (sealable : Sealable metadata plaintext) (key nonce : Octets) {outCapacity : Nat}
    (room : securePacketHeaderBytes + plaintext.length + securePacketTagBytes ≤ outCapacity) :
    sealAudioPacket sodium key metadata plaintext outCapacity nonce =
      some (secureAudioHeaderBytes metadata nonce ++
        sodium.aeadEncrypt key (padded securePacketNonceBytes nonce)
          (secureAudioHeaderBytes metadata nonce) plaintext) := by
  unfold sealAudioPacket
  have checked : ¬ (metadata.senderId = 0 ∨ metadata.plaintextBytes.toNat ≠ plaintext.length ∨
      metadata.sampleRate ≠ OpusNetworkClock.sampleRate ∨ metadata.channels ≠ 1 ∨
      metadata.codec ≠ audioCodecOpus ∨
      OpusNetworkClock.isSupportedFrameCount metadata.sampleRate metadata.frameCount = false ∨
      65535 - securePacketTagBytes < plaintext.length ∨ sodium.initialized = false) := by
    rw [sealable.supported, ready]
    simp [sealable.named, sealable.counted, sealable.rate, sealable.mono, sealable.opus,
      not_lt.mpr sealable.fits]
  rw [if_neg checked, if_neg (not_lt.mpr room)]

theorem parseSecureAudioHeader_sealed (sealable : Sealable metadata plaintext)
    (nonempty : plaintext ≠ []) (low : -2 ^ 63 ≤ metadata.captureServerTimeNs)
    (high : metadata.captureServerTimeNs < 2 ^ 63) (nonce : Octets) {encrypted : Octets}
    (length : encrypted.length = plaintext.length + securePacketTagBytes) :
    parseSecureAudioHeader (secureAudioHeaderBytes metadata nonce ++ encrypted) =
      .ok (metadata, metadata.plaintextBytes + UInt16.ofNat securePacketTagBytes) := by
  have header := secureAudioHeaderBytes_length metadata nonce
  have positive : 0 < plaintext.length := length_pos_of_ne_nil nonempty
  have counted := sealable.counted
  have sum := sealable.encryptedBytes
  have some_bytes : metadata.plaintextBytes ≠ 0 := by
    intro zero
    rw [zero] at counted
    have none : (0 : UInt16).toNat = 0 := rfl
    omega
  unfold parseSecureAudioHeader
  rw [if_neg (by rw [length_append, header]; omega),
    read_secureAudioHeaderBytes metadata nonce encrypted low high]
  simp only [ne_eq, not_true_eq_false, ↓reduceIte, sealable.named, some_bytes, sum, counted,
    length_append, header, length, sealable.rate, sealable.mono, sealable.opus,
    false_or, or_false]
  rw [if_neg (by omega), ← sealable.rate, sealable.supported]
  simp [← sealable.mono, ← sealable.opus]

theorem openAudioPacket_sealed (correct : sodium.AeadCorrect)
    (sealable : Sealable metadata plaintext) (nonempty : plaintext ≠ [])
    (low : -2 ^ 63 ≤ metadata.captureServerTimeNs) (high : metadata.captureServerTimeNs < 2 ^ 63)
    (key nonce : Octets) {plaintextCapacity : Nat} (room : plaintext.length ≤ plaintextCapacity) :
    openAudioPacket sodium key (secureAudioHeaderBytes metadata nonce ++
        sodium.aeadEncrypt key (padded securePacketNonceBytes nonce)
          (secureAudioHeaderBytes metadata nonce) plaintext) plaintextCapacity =
      some (metadata, plaintext) := by
  have header := secureAudioHeaderBytes_length metadata nonce
  have length := correct.encrypted_length key (padded securePacketNonceBytes nonce)
    (secureAudioHeaderBytes metadata nonce) plaintext
  have parsed := parseSecureAudioHeader_sealed sealable nonempty low high nonce length
  have sixteen : securePacketTagBytes = 16 := rfl
  have sum := sealable.encryptedBytes
  unfold openAudioPacket
  rw [if_neg (by
    rw [length_append, header, length, correct.initialized]
    simp only [Bool.true_eq_false, or_false]
    omega), parsed]
  have body : slice (secureAudioHeaderBytes metadata nonce ++
      sodium.aeadEncrypt key (padded securePacketNonceBytes nonce)
        (secureAudioHeaderBytes metadata nonce) plaintext) securePacketHeaderBytes
        (plaintext.length + securePacketTagBytes) =
      sodium.aeadEncrypt key (padded securePacketNonceBytes nonce)
        (secureAudioHeaderBytes metadata nonce) plaintext := by
    rw [slice, drop_left' header]
    exact take_of_length_le length.le
  simp [sealable.counted, sum, body, take_left' header, not_lt.mpr room,
    read_secureAudioHeaderBytes metadata nonce _ low high, correct.decrypts]

end Sealing

def secureControlHeader (metadata : SecureControlMetadata) (nonce : Octets) : Octets :=
  u32Bytes secureControlMagic ++ u32Bytes metadata.senderId ++ u32Bytes metadata.targetId ++
    u32Bytes metadata.sequence ++ u32Bytes metadata.accessEpoch ++
    u16Bytes metadata.plaintextBytes ++
    u16Bytes (metadata.plaintextBytes + UInt16.ofNat securePacketTagBytes) ++ u16Bytes 0 ++
    padded mediaKeyCommitmentHexBytes metadata.mediaKeyCommitment ++
    padded securePacketNonceBytes nonce

def sealControlPacket (sodium : Sodium) (key : Octets) (metadata : SecureControlMetadata)
    (plaintext : Octets) (outCapacity : Nat) (nonce : Octets) : Option Octets :=
  if metadata.senderId = 0 ∨ metadata.sequence = 0 ∨ metadata.accessEpoch = 0 ∨
      validSha256Hex metadata.mediaKeyCommitment = false ∨
      metadata.plaintextBytes.toNat ≠ plaintext.length ∨
      65535 - securePacketTagBytes < plaintext.length ∨ sodium.initialized = false then
    none
  else if outCapacity < secureControlHeaderBytes + plaintext.length + securePacketTagBytes then
    none
  else
    let header := secureControlHeader metadata nonce
    some (header ++ sodium.aeadEncrypt key (padded securePacketNonceBytes nonce) header plaintext)

def openControlPacket (sodium : Sodium) (key packet : Octets) (plaintextCapacity : Nat) :
    Option (SecureControlMetadata × Octets) :=
  if packet.length < secureControlHeaderBytes + securePacketTagBytes ∨
      sodium.initialized = false then
    none
  else
    match parseSecureControlHeader packet with
    | .error _ => none
    | .ok (metadata, encryptedBytes) =>
      if plaintextCapacity < metadata.plaintextBytes.toNat then none
      else
        match sodium.aeadDecrypt key (SecureControlHdr.read packet).nonce
            (packet.take secureControlHeaderBytes)
            (slice packet secureControlHeaderBytes encryptedBytes.toNat) with
        | none => none
        | some plaintext =>
          if plaintext.length = metadata.plaintextBytes.toNat then some (metadata, plaintext)
          else none

theorem openControlPacket_fields {sodium : Sodium} {plaintext : Octets}
    {metadata : SecureControlMetadata}
    (opened : openControlPacket sodium key packet capacity = some (metadata, plaintext)) :
    magicOf packet = secureControlMagic ∧
      metadata.accessEpoch = (SecureControlHdr.read packet).accessEpoch ∧
      metadata.mediaKeyCommitment = (SecureControlHdr.read packet).mediaKeyCommitment := by
  unfold openControlPacket at opened
  split at opened
  · cases opened
  split at opened
  · cases opened
  rename_i found bytes parsed
  split at opened
  · cases opened
  split at opened
  · cases opened
  split at opened
  · obtain ⟨rfl, -⟩ := Prod.mk.inj (Option.some.inj opened)
    obtain ⟨magic, -, epoch, commitment⟩ := parseSecureControlHeader_fields parsed
    exact ⟨magic, epoch, commitment⟩
  · cases opened

end SessionCrypto

end Sesivo
