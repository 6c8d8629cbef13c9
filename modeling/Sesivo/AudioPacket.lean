import Sesivo.SessionCrypto

set_option autoImplicit false

/- Audio packets before sealing, `audio_packet.h`: the header of one Opus packet
and the redundant packet that carries several of them. A refused packet comes
with the reason the source reports. -/

namespace Sesivo.AudioPacket

open Octets List

def headerSize : Nat := 30

def redundantHeaderSize : Nat := 8

structure ParsedAudioHeader where
  senderId : UInt32
  sequence : UInt32
  sampleRate : UInt32
  frameCount : UInt16
  payloadBytes : UInt16
  channels : UInt8
  codec : UInt8
  captureServerTimeNs : Int
deriving DecidableEq

/-- The header fields, or `none` where the source leaves its result invalid. -/
def parseAudioHeader (data : Octets) : Option ParsedAudioHeader :=
  if data.length < msgHdrBytes then none
  else if magicOf data ≠ audioV3Magic ∨ data.length < headerSize then none
  else
    some
      { senderId := u32At data 4
        sequence := u32At data 8
        sampleRate := u32At data 12
        frameCount := u16At data 16
        payloadBytes := u16At data 18
        channels := u8At data 20
        codec := u8At data 21
        captureServerTimeNs := i64At data 22 }

def validateAudioPacketShape (hdr : ParsedAudioHeader) : Except String Unit :=
  if hdr.sampleRate ≠ OpusNetworkClock.sampleRate ∨ hdr.channels ≠ 1 ∨ hdr.frameCount = 0 then
    .error "unsupported audio shape"
  else if hdr.codec ≠ audioCodecOpus then .error "unsupported audio codec"
  else if OpusNetworkClock.isSupportedFrameCount hdr.sampleRate hdr.frameCount = false then
    .error "unsupported opus frame count"
  else if hdr.payloadBytes = 0 then .error "empty opus payload"
  else .ok ()

def validateAudioPacketBytes (data : Octets) : Except String Unit :=
  match parseAudioHeader data with
  | none => .error "short header"
  | some hdr =>
    if audioBufSize < hdr.payloadBytes.toNat then .error "payload too large"
    else if data.length ≠ headerSize + hdr.payloadBytes.toNat then .error "length mismatch"
    else validateAudioPacketShape hdr

/-- The child that starts at `offset`, and the offset behind it. -/
def nextRedundantChild (data : Octets) (offset : Nat) : Except String (Octets × Nat) :=
  if data.length < offset + msgHdrBytes then .error "short redundant child header"
  else if magicOf (data.drop offset) ≠ audioV3Magic then .error "redundant child wrong magic"
  else
    match parseAudioHeader (data.drop offset) with
    | none => .error "short redundant child header"
    | some hdr =>
      let childLen := headerSize + hdr.payloadBytes.toNat
      if audioBufSize < hdr.payloadBytes.toNat then .error "redundant child payload too large"
      else if data.length < offset + childLen then .error "truncated redundant child"
      else
        (validateAudioPacketShape hdr).map fun _ =>
          (slice data offset childLen, offset + childLen)

/-- The loop over `count` children from `offset` on, with the offset it ends at. -/
def redundantChildren (data : Octets) : Nat → Nat → Except String (List Octets × Nat)
  | 0, offset => .ok ([], offset)
  | count + 1, offset =>
    match nextRedundantChild data offset with
    | .error reason => .error reason
    | .ok (child, next) =>
      (redundantChildren data count next).map fun rest => (child :: rest.1, rest.2)

def packetCount (data : Octets) : Nat := (u8At data 4).toNat

def validateRedundantAudioPacketBytes (data : Octets) : Except String Unit :=
  if data.length < redundantHeaderSize then .error "short redundant header"
  else if magicOf data ≠ audioRedundantMagic then .error "wrong redundant magic"
  else if packetCount data = 0 ∨ maxAudioRedundantPackets < packetCount data then
    .error "invalid redundant child count"
  else
    match redundantChildren data (packetCount data) redundantHeaderSize with
    | .error reason => .error reason
    | .ok (_, offset) =>
      if offset ≠ data.length then .error "redundant length mismatch" else .ok ()

/-- The children of a packet that validates, in the order they stand in it. -/
def children (data : Octets) : List Octets :=
  match validateRedundantAudioPacketBytes data with
  | .error _ => []
  | .ok _ =>
    match redundantChildren data (packetCount data) redundantHeaderSize with
    | .error _ => []
    | .ok (found, _) => found

/-- Visit the children of a valid packet in order, with their indices. -/
def forEachRedundantAudioChild {σ : Type} (data : Octets) (func : σ → Octets → Nat → σ)
    (state : σ) : σ :=
  (children data).zipIdx.foldl (fun current entry => func current entry.1 entry.2) state

def forEachRedundantAudioChildReverse {σ : Type} (data : Octets) (func : σ → Octets → Nat → σ)
    (state : σ) : σ :=
  (children data).zipIdx.reverse.foldl (fun current entry => func current entry.1 entry.2) state

def audioHeaderBytes (hdr : ParsedAudioHeader) : Octets :=
  u32Bytes audioV3Magic ++ u32Bytes hdr.senderId ++ u32Bytes hdr.sequence ++
    u32Bytes hdr.sampleRate ++ u16Bytes hdr.frameCount ++ u16Bytes hdr.payloadBytes ++
    [hdr.channels, hdr.codec] ++ i64Bytes hdr.captureServerTimeNs

def writeAudioPacketV3 (sequence sampleRate : UInt32) (frameCount : UInt16) (channels : UInt8)
    (payload : Octets) (captureServerTimeNs : Int) (outCapacity : Nat) : Option Octets :=
  if outCapacity < headerSize + payload.length then none
  else
    some (audioHeaderBytes
      { senderId := 0
        sequence := sequence
        sampleRate := sampleRate
        frameCount := frameCount
        payloadBytes := UInt16.ofNat payload.length
        channels := channels
        codec := audioCodecOpus
        captureServerTimeNs := captureServerTimeNs } ++ payload)

/-- The leading packets that fit, given the bytes and packets already taken. A
`maxPacketBytes` of zero sets no limit. -/
def selectPackets (outCapacity maxPacketBytes : Nat) :
    Nat → Nat → List Octets → Option (List Octets)
  | _, _, [] => some []
  | total, selected, packet :: packets =>
    match validateAudioPacketBytes packet with
    | .error _ => none
    | .ok _ =>
      if 0 < maxPacketBytes ∧ maxPacketBytes < total + packet.length then
        if selected = 0 then none else some []
      else if outCapacity < total + packet.length then none
      else
        (selectPackets outCapacity maxPacketBytes (total + packet.length) (selected + 1)
          packets).map (packet :: ·)

def redundantHeaderBytes (count : Nat) : Octets :=
  u32Bytes audioRedundantMagic ++ [UInt8.ofNat count, 0, 0, 0]

def writeRedundantAudioPacket (packets : List Octets) (outCapacity maxPacketBytes : Nat) :
    Option Octets :=
  if packets = [] ∨ maxAudioRedundantPackets < packets.length ∨
      outCapacity < redundantHeaderSize then
    none
  else
    (selectPackets outCapacity maxPacketBytes redundantHeaderSize 0 packets).map fun selected =>
      redundantHeaderBytes selected.length ++ selected.flatten

/-- `packet_builder::embed_sender_id`. -/
def embedSenderId (packet : Octets) (senderId : UInt32) : Octets :=
  packet.take msgHdrBytes ++ u32Bytes senderId ++ packet.drop (msgHdrBytes + 4)

variable {data : Octets} {packets : List Octets} (hdr : ParsedAudioHeader)
variable {outCapacity maxPacketBytes : Nat} (front packet : Octets) {chosen : List Octets}
variable {out child : Octets} {offset : Nat} (payload : Octets) (senderId : UInt32)

theorem parseAudioHeader_fields {hdr : ParsedAudioHeader}
    (parsed : parseAudioHeader data = some hdr) :
    magicOf data = audioV3Magic ∧ headerSize ≤ data.length := by
  unfold parseAudioHeader at parsed
  split at parsed
  · cases parsed
  split at parsed
  · cases parsed
  next refused =>
    obtain ⟨magic, long⟩ := not_or.mp refused
    exact ⟨not_not.mp magic, not_lt.mp long⟩

theorem parseAudioHeader_time {hdr : ParsedAudioHeader}
    (parsed : parseAudioHeader data = some hdr) :
    -2 ^ 63 ≤ hdr.captureServerTimeNs ∧ hdr.captureServerTimeNs < 2 ^ 63 := by
  unfold parseAudioHeader at parsed
  split at parsed
  · cases parsed
  split at parsed
  · cases parsed
  obtain rfl := Option.some.inj parsed
  exact i64At_range data 22

/-- The header of a packet does not depend on what follows it. -/
theorem parseAudioHeader_append (data tail : Octets) (long : headerSize ≤ data.length) :
    parseAudioHeader (data ++ tail) = parseAudioHeader data := by
  have enough : 30 ≤ data.length := long
  have first : ¬ data.length + tail.length < msgHdrBytes := by simp only [msgHdrBytes]; omega
  have alone : ¬ data.length < msgHdrBytes := by simp only [msgHdrBytes]; omega
  have whole : ¬ data.length + tail.length < headerSize := by simp only [headerSize]; omega
  have short : ¬ data.length < headerSize := not_lt.mpr long
  simp only [parseAudioHeader, magicOf, length_append, first, alone, whole, short, or_false,
    ↓reduceIte]
  rw [u32At_append _ _ 0 (by omega), u32At_append _ _ 4 (by omega), u32At_append _ _ 8 (by omega),
    u32At_append _ _ 12 (by omega), u16At_append _ _ 16 (by omega),
    u16At_append _ _ 18 (by omega), u8At_append _ _ 20 (by omega), u8At_append _ _ 21 (by omega),
    i64At_append _ _ 22 (by omega)]

theorem validateAudioPacketBytes_ok (valid : validateAudioPacketBytes data = .ok ()) :
    ∃ hdr, parseAudioHeader data = some hdr ∧ hdr.payloadBytes.toNat ≤ audioBufSize ∧
      data.length = headerSize + hdr.payloadBytes.toNat ∧ validateAudioPacketShape hdr = .ok () := by
  unfold validateAudioPacketBytes at valid
  split at valid
  · cases valid
  rename_i hdr parsed
  split at valid
  · cases valid
  rename_i small
  split at valid
  · cases valid
  next exact_length => exact ⟨hdr, parsed, not_lt.mp small, not_not.mp exact_length, valid⟩

/-- A valid packet anywhere in a text is the child found at its position. -/
theorem nextRedundantChild_append (tail : Octets)
    (valid : validateAudioPacketBytes packet = .ok ()) :
    nextRedundantChild (front ++ (packet ++ tail)) front.length =
      .ok (packet, front.length + packet.length) := by
  obtain ⟨hdr, parsed, small, exact_length, shape⟩ := validateAudioPacketBytes_ok valid
  obtain ⟨magic, long⟩ := parseAudioHeader_fields parsed
  have header : headerSize = 30 := rfl
  have here : (front ++ (packet ++ tail)).drop front.length = packet ++ tail := drop_left
  have child : slice (front ++ (packet ++ tail)) front.length packet.length = packet := by
    rw [slice, here, take_left]
  have samePacket : parseAudioHeader (packet ++ tail) = some hdr := by
    rw [parseAudioHeader_append packet tail long, parsed]
  have sameMagic := (parseAudioHeader_fields samePacket).1
  have total : (front ++ (packet ++ tail)).length =
      front.length + (packet.length + tail.length) := by
    rw [length_append, length_append]
  unfold nextRedundantChild
  rw [if_neg (by rw [total, msgHdrBytes]; omega), here, if_neg (not_not.mpr sameMagic), samePacket]
  simp only
  rw [if_neg (not_lt.mpr small), if_neg (by rw [total]; omega), shape, ← exact_length, child]
  rfl

/-- Valid packets in a row are the children found from the first one's position on. -/
theorem redundantChildren_flatten (packets : List Octets)
    (valid : ∀ packet ∈ packets, validateAudioPacketBytes packet = .ok ()) :
    redundantChildren (front ++ packets.flatten) packets.length front.length =
      .ok (packets, (front ++ packets.flatten).length) := by
  induction packets generalizing front with
  | nil => rw [flatten_nil, append_nil, length_nil, redundantChildren]
  | cons packet packets ih =>
    obtain ⟨first, rest⟩ := forall_mem_cons.mp valid
    have later := ih (front ++ packet) rest
    rw [append_assoc, length_append] at later
    rw [flatten_cons, length_cons, redundantChildren,
      nextRedundantChild_append front packet packets.flatten first]
    simp only [later]
    rfl

theorem selectPackets_spec {total selected : Nat}
    (taken : selectPackets outCapacity maxPacketBytes total selected packets = some chosen)
    (room : total ≤ outCapacity) :
    (∀ packet ∈ chosen, validateAudioPacketBytes packet = .ok ()) ∧
      chosen.length ≤ packets.length ∧ total + chosen.flatten.length ≤ outCapacity ∧
      (selected = 0 → packets ≠ [] → chosen ≠ []) := by
  induction packets generalizing total selected chosen with
  | nil =>
    obtain rfl := Option.some.inj taken
    exact ⟨by simp, le_rfl, by simpa using room, fun _ nonempty => absurd rfl nonempty⟩
  | cons packet packets ih =>
    unfold selectPackets at taken
    split at taken
    · cases taken
    rename_i valid
    split at taken
    · split at taken
      · cases taken
      next already =>
        obtain rfl := Option.some.inj taken
        exact ⟨by simp, Nat.zero_le _, by simpa using room, fun none => absurd none already⟩
    · split at taken
      · cases taken
      rename_i fits
      obtain ⟨rest, more, rfl⟩ := Option.map_eq_some_iff.mp taken
      obtain ⟨others, fewer, bounded, -⟩ := ih more (not_lt.mp fits)
      refine ⟨forall_mem_cons.mpr ⟨valid, others⟩, ?_, ?_, fun _ _ => by simp⟩
      · rw [length_cons, length_cons]
        omega
      · rw [flatten_cons, length_append]
        omega

/-- Valid packets behind a header that counts them are the children. -/
theorem children_encoded (valid : ∀ packet ∈ chosen, validateAudioPacketBytes packet = .ok ())
    (nonempty : chosen ≠ []) (few : chosen.length ≤ maxAudioRedundantPackets) :
    validateRedundantAudioPacketBytes (redundantHeaderBytes chosen.length ++ chosen.flatten) =
        .ok () ∧
      magicOf (redundantHeaderBytes chosen.length ++ chosen.flatten) = audioRedundantMagic ∧
      children (redundantHeaderBytes chosen.length ++ chosen.flatten) = chosen := by
  have header : (redundantHeaderBytes chosen.length).length = redundantHeaderSize := rfl
  have magic : magicOf (redundantHeaderBytes chosen.length ++ chosen.flatten) =
      audioRedundantMagic := by
    rw [magicOf, redundantHeaderBytes, append_assoc, u32At_u32Bytes]
  have twelve : maxAudioRedundantPackets = 12 := rfl
  have small : chosen.length < 256 := by omega
  have count : packetCount (redundantHeaderBytes chosen.length ++ chosen.flatten) =
      chosen.length := by
    rw [packetCount, u8At_append _ _ 4 (by rw [header, redundantHeaderSize]; omega)]
    have byte : u8At (redundantHeaderBytes chosen.length) 4 =
        UInt8.ofNat (UInt8.ofNat chosen.length).toNat := rfl
    rw [byte, UInt8.ofNat_toNat, UInt8.toNat_ofNat_of_lt' small]
  have found := redundantChildren_flatten (redundantHeaderBytes chosen.length) chosen valid
  rw [header] at found
  have positive : 0 < chosen.length := length_pos_of_ne_nil nonempty
  have accepted : validateRedundantAudioPacketBytes
      (redundantHeaderBytes chosen.length ++ chosen.flatten) = .ok () := by
    unfold validateRedundantAudioPacketBytes
    rw [if_neg (by rw [length_append, header]; omega), if_neg (not_not.mpr magic), count,
      if_neg (by omega), found]
    simp
  refine ⟨accepted, magic, ?_⟩
  unfold children
  rw [accepted]
  simp only [count, found]

/-- The encoder's output passes the validator, fits the buffer, and has at least one child. -/
theorem writeRedundantAudioPacket_valid
    (written : writeRedundantAudioPacket packets outCapacity maxPacketBytes = some out) :
    validateRedundantAudioPacketBytes out = .ok () ∧ magicOf out = audioRedundantMagic ∧
      out.length ≤ outCapacity ∧ children out ≠ [] := by
  unfold writeRedundantAudioPacket at written
  split at written
  · cases written
  rename_i refused
  simp only [not_or, not_lt] at refused
  obtain ⟨nonempty, few, capacity⟩ := refused
  obtain ⟨chosen, taken, rfl⟩ := Option.map_eq_some_iff.mp written
  obtain ⟨valid, fewer, bounded, some_left⟩ := selectPackets_spec taken capacity
  have left := some_left rfl nonempty
  obtain ⟨accepted, magic, listed⟩ := children_encoded valid left (fewer.trans few)
  have header : (redundantHeaderBytes chosen.length).length = redundantHeaderSize := rfl
  refine ⟨accepted, magic, ?_, by rw [listed]; exact left⟩
  rw [length_append, header]
  omega

theorem writeRedundantAudioPacket_first {packet : Octets}
    (written : writeRedundantAudioPacket (packet :: packets) outCapacity maxPacketBytes =
      some out) :
    ∃ rest, children out = packet :: rest := by
  unfold writeRedundantAudioPacket at written
  split at written
  · cases written
  rename_i refused
  simp only [not_or, not_lt] at refused
  obtain ⟨nonempty, few, capacity⟩ := refused
  obtain ⟨chosen, taken, rfl⟩ := Option.map_eq_some_iff.mp written
  obtain ⟨valid, fewer, -, some_left⟩ := selectPackets_spec taken capacity
  have listed := (children_encoded valid (some_left rfl nonempty) (fewer.trans few)).2.2
  unfold selectPackets at taken
  split at taken
  · cases taken
  split at taken
  · cases taken
  split at taken
  · cases taken
  obtain ⟨rest, -, rfl⟩ := Option.map_eq_some_iff.mp taken
  exact ⟨rest, listed⟩

theorem selectPackets_all (limit : Nat) (packets : List Octets)
    (valid : ∀ packet ∈ packets, validateAudioPacketBytes packet = .ok ()) (total selected : Nat)
    (fits : total + packets.flatten.length ≤ limit) :
    selectPackets limit limit total selected packets = some packets := by
  induction packets generalizing total selected with
  | nil => rfl
  | cons packet packets ih =>
    obtain ⟨first, others⟩ := forall_mem_cons.mp valid
    rw [flatten_cons, length_append] at fits
    have later := ih others (total + packet.length) (selected + 1) (by omega)
    rw [selectPackets, first]
    rw [if_neg (by omega), if_neg (by omega), later]
    rfl

/-- Valid packets that fit together all become children, in their order. -/
theorem writeRedundantAudioPacket_all {limit : Nat} {packets : List Octets}
    (valid : ∀ packet ∈ packets, validateAudioPacketBytes packet = .ok ())
    (nonempty : packets ≠ []) (few : packets.length ≤ maxAudioRedundantPackets)
    (fits : redundantHeaderSize + packets.flatten.length ≤ limit) :
    ∃ out, writeRedundantAudioPacket packets limit limit = some out ∧
      magicOf out = audioRedundantMagic ∧ children out = packets := by
  obtain ⟨-, magic, listed⟩ := children_encoded valid nonempty few
  refine ⟨_, ?_, magic, listed⟩
  unfold writeRedundantAudioPacket
  rw [if_neg (by simp only [nonempty, false_or]; omega),
    selectPackets_all limit packets valid redundantHeaderSize 0 fits]
  rfl

/-- A visitor that only looks at index zero sees the first child. -/
theorem forEachRedundantAudioChild_first {σ : Type} {first : Octets} {rest : List Octets}
    (listed : children data = first :: rest) (look : Octets → σ) (state : σ) :
    forEachRedundantAudioChild data
      (fun found child index => if index = 0 then look child else found) state = look first := by
  have later (found : σ) (entries : List (Octets × Nat)) (positive : ∀ entry ∈ entries, entry.2 ≠ 0) :
      entries.foldl (fun current entry => if entry.2 = 0 then look entry.1 else current) found =
        found := by
    induction entries generalizing found with
    | nil => rfl
    | cons entry entries ih =>
      obtain ⟨head, tail⟩ := forall_mem_cons.mp positive
      rw [foldl_cons, if_neg head]
      exact ih found tail
  rw [forEachRedundantAudioChild, listed, zipIdx_cons, foldl_cons, if_pos rfl]
  refine later (look first) _ ?_
  intro entry member
  have bound := le_snd_of_mem_zipIdx member
  omega

theorem children_valid (listed : children data ≠ []) :
    validateRedundantAudioPacketBytes data = .ok () ∧ magicOf data = audioRedundantMagic ∧
      redundantHeaderSize ≤ data.length := by
  unfold children at listed
  split at listed
  · exact absurd rfl listed
  rename_i valid
  refine ⟨valid, ?_⟩
  unfold validateRedundantAudioPacketBytes at valid
  split at valid
  · cases valid
  rename_i long
  split at valid
  · cases valid
  next magic => exact ⟨not_not.mp magic, not_lt.mp long⟩

theorem nextRedundantChild_valid {next : Nat}
    (found : nextRedundantChild data offset = .ok (child, next)) :
    validateAudioPacketBytes child = .ok () := by
  unfold nextRedundantChild at found
  split at found
  · cases found
  split at found
  · cases found
  split at found
  · cases found
  rename_i hdr parsed
  simp only at found
  split at found
  · cases found
  rename_i small
  split at found
  · cases found
  cases shape : validateAudioPacketShape hdr with
  | error reason =>
    rw [shape] at found
    cases found
  | ok accepted =>
    rw [shape] at found
    obtain ⟨rfl, -⟩ := Prod.mk.inj (Except.ok.inj found)
    have length : (slice data offset (headerSize + hdr.payloadBytes.toNat)).length =
        headerSize + hdr.payloadBytes.toNat := by
      rw [slice, length_take, length_drop]
      omega
    have again : parseAudioHeader (slice data offset
        (headerSize + hdr.payloadBytes.toNat)) = some hdr := by
      rw [← parsed, ← parseAudioHeader_append _ ((data.drop offset).drop
        (headerSize + hdr.payloadBytes.toNat)) (by rw [length]; omega), slice,
        take_append_drop]
    unfold validateAudioPacketBytes
    rw [again]
    simp only
    rw [if_neg small, if_neg (not_not.mpr length), shape]

theorem redundantChildren_valid {count last : Nat} {found : List Octets}
    (parsed : redundantChildren data count offset = .ok (found, last)) :
    ∀ child ∈ found, validateAudioPacketBytes child = .ok () := by
  induction count generalizing offset found last with
  | zero =>
    obtain ⟨rfl, -⟩ := Prod.mk.inj (Except.ok.inj parsed)
    simp
  | succ count ih =>
    rw [redundantChildren] at parsed
    split at parsed
    · cases parsed
    rename_i child next first
    cases later : redundantChildren data count next with
    | error reason =>
      rw [later] at parsed
      cases parsed
    | ok rest =>
      rw [later] at parsed
      obtain ⟨rfl, -⟩ := Prod.mk.inj (Except.ok.inj parsed)
      exact forall_mem_cons.mpr ⟨nextRedundantChild_valid first, ih later⟩

theorem children_validate (member : child ∈ children data) :
    validateAudioPacketBytes child = .ok () := by
  unfold children at member
  split at member
  · cases member
  split at member
  · cases member
  next found last parsed => exact redundantChildren_valid parsed child member

/-- What the sender hands to the socket: one audio packet, or a redundant packet. -/
structure Sendable (data : Octets) : Prop where
  fits : data.length ≤ audioRedundantTargetBytes
  readable : (∃ hdr, parseAudioHeader data = some hdr) ∨ children data ≠ []

theorem Sendable.magic (sendable : Sendable data) :
    magicOf data = audioV3Magic ∨ magicOf data = audioRedundantMagic := by
  rcases sendable.readable with ⟨hdr, parsed⟩ | listed
  · exact .inl (parseAudioHeader_fields parsed).1
  · exact .inr (children_valid listed).2.1

theorem Sendable.long (sendable : Sendable data) : msgHdrBytes ≤ data.length := by
  have four : msgHdrBytes = 4 := rfl
  rcases sendable.readable with ⟨hdr, parsed⟩ | listed
  · have header := (parseAudioHeader_fields parsed).2
    have thirty : headerSize = 30 := rfl
    omega
  have header := (children_valid listed).2.2
  have eight : redundantHeaderSize = 8 := rfl
  omega

theorem parseAudioHeader_of_magic (magic : magicOf data = audioV3Magic)
    (long : headerSize ≤ data.length) : ∃ hdr, parseAudioHeader data = some hdr := by
  have thirty : headerSize = 30 := rfl
  unfold parseAudioHeader
  rw [if_neg (by rw [msgHdrBytes]; omega), if_neg (not_or.mpr ⟨not_not.mpr magic, not_lt.mpr long⟩)]
  exact ⟨_, rfl⟩

theorem audioHeaderBytes_length : (audioHeaderBytes hdr).length = headerSize := by
  simp [audioHeaderBytes, u32Bytes, u16Bytes, i64Bytes, leBytes_length, headerSize]

/-- A written header reads back; only the capture time may be cut to 64 bits. -/
theorem parseAudioHeader_audioHeaderBytes :
    ∃ time, parseAudioHeader (audioHeaderBytes hdr ++ payload) =
      some { hdr with captureServerTimeNs := time } := by
  have length : (audioHeaderBytes hdr ++ payload).length = headerSize + payload.length := by
    rw [length_append, audioHeaderBytes_length]
  have magic : magicOf (audioHeaderBytes hdr ++ payload) = audioV3Magic := by
    simp [magicOf, audioHeaderBytes, u32At_u32Bytes]
  unfold parseAudioHeader
  rw [if_neg (by rw [length, headerSize, msgHdrBytes]; omega),
    if_neg (not_or.mpr ⟨not_not.mpr magic, by rw [length]; omega⟩)]
  refine ⟨i64At (audioHeaderBytes hdr ++ payload) 22, ?_⟩
  simp [audioHeaderBytes, u32At, u16At, u8At, slice_after_u32Bytes, slice_after_u16Bytes,
    slice_after_byte, leNat_u32Bytes, leNat_u16Bytes, leNat_byte]

theorem writeAudioPacketV3_sendable {sequence sampleRate : UInt32} {frameCount : UInt16}
    {channels : UInt8} {payload packet : Octets} {captureServerTimeNs : Int}
    (written : writeAudioPacketV3 sequence sampleRate frameCount channels payload
      captureServerTimeNs audioRedundantTargetBytes = some packet) :
    magicOf packet = audioV3Magic ∧ headerSize ≤ packet.length ∧
      packet.length ≤ audioRedundantTargetBytes := by
  unfold writeAudioPacketV3 at written
  split at written
  · cases written
  rename_i fits
  obtain rfl := Option.some.inj written
  refine ⟨?_, ?_, ?_⟩
  · simp [magicOf, audioHeaderBytes, u32At_u32Bytes]
  · rw [length_append, audioHeaderBytes_length]
    omega
  · rw [length_append, audioHeaderBytes_length]
    exact not_lt.mp fits

theorem embedSenderId_keeps (long : headerSize ≤ packet.length) :
    magicOf (embedSenderId packet senderId) = magicOf packet ∧
      (embedSenderId packet senderId).length = packet.length := by
  have thirty : headerSize = 30 := rfl
  have four : (packet.take msgHdrBytes).length = 4 := by
    rw [length_take, msgHdrBytes]
    omega
  constructor
  · rw [magicOf, embedSenderId, append_assoc, u32At_append _ _ 0 (by omega), magicOf, u32At,
      slice_take packet msgHdrBytes 0 4 (by rw [msgHdrBytes]), u32At]
  rw [embedSenderId, length_append, length_append, four, u32Bytes, leBytes_length,
    length_drop, msgHdrBytes]
  omega

theorem embedSenderId_audioHeaderBytes :
    embedSenderId (audioHeaderBytes hdr ++ payload) senderId =
      audioHeaderBytes { hdr with senderId := senderId } ++ payload := by
  congr 2

end Sesivo.AudioPacket
