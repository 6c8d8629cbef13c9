import Sesivo.Lib.Buffer
import Sesivo.AudioPacket

set_option autoImplicit false

/- Reading redundant packets, `audio_packet.h`, once more with every access to the
packet checked against its length. The functions do the same as the unchecked
ones, and no access fails. -/

namespace Sesivo.AudioPacket

open Octets Buffer List

/-- A child as it is handed to a callback: where it stands, and the how-manieth it is. -/
structure Visit where
  offset : Nat
  length : Nat
  index : Nat
deriving DecidableEq

namespace Checked

/-- The header of the `len` bytes from `offset` on. -/
def parseAudioHeader (data : Octets) (offset len : Nat) : Option (Option ParsedAudioHeader) :=
  if len < msgHdrBytes then some none
  else do
    let msg ← load data offset msgHdrBytes
    if magicOf msg ≠ audioV3Magic ∨ len < headerSize then return none
    else
      let hdr ← load data offset headerSize
      return AudioPacket.parseAudioHeader hdr

/-- The length of the child that starts at `offset`. -/
def nextRedundantChild (data : Octets) (offset : Nat) : Option (Except String Nat) :=
  if data.length < offset + msgHdrBytes then some (.error "short redundant child header")
  else do
    let msg ← load data offset msgHdrBytes
    if magicOf msg ≠ audioV3Magic then return .error "redundant child wrong magic"
    else
      match ← parseAudioHeader data offset (data.length - offset) with
      | none => return .error "short redundant child header"
      | some hdr =>
        let childLen := headerSize + hdr.payloadBytes.toNat
        if audioBufSize < hdr.payloadBytes.toNat then
          return .error "redundant child payload too large"
        else if data.length < offset + childLen then return .error "truncated redundant child"
        else return (validateAudioPacketShape hdr).map fun _ => childLen

/-- The loop of the validator, with the offset it ends at. -/
def skipChildren (data : Octets) : Nat → Nat → Option (Except String Nat)
  | 0, offset => some (.ok offset)
  | count + 1, offset => do
      match ← nextRedundantChild data offset with
      | .error reason => return .error reason
      | .ok childLen => skipChildren data count (offset + childLen)

def validateRedundantAudioPacketBytes (data : Octets) : Option (Except String Unit) :=
  if data.length < redundantHeaderSize then some (.error "short redundant header")
  else do
    let hdr ← load data 0 redundantHeaderSize
    if magicOf hdr ≠ audioRedundantMagic then return .error "wrong redundant magic"
    else if packetCount hdr = 0 ∨ maxAudioRedundantPackets < packetCount hdr then
      return .error "invalid redundant child count"
    else
      match ← skipChildren data (packetCount hdr) redundantHeaderSize with
      | .error reason => return .error reason
      | .ok offset =>
        if offset ≠ data.length then return .error "redundant length mismatch" else return .ok ()

/-- The loop over `count` children; a callback may change the packet. The answer is whether
the loop came to its end. -/
def visitChildren {σ : Type} (func : σ → Octets → Visit → Option (σ × Octets)) :
    Nat → Nat → Nat → σ → Octets → Option (Bool × σ × Octets)
  | 0, _, _, state, data => some (true, state, data)
  | count + 1, index, offset, state, data => do
      match ← nextRedundantChild data offset with
      | .error _ => return (false, state, data)
      | .ok childLen =>
        let after ← func state data ⟨offset, childLen, index⟩
        visitChildren func count (index + 1) (offset + childLen) after.1 after.2

def forEachRedundantAudioChild {σ : Type} (data : Octets)
    (func : σ → Octets → Visit → Option (σ × Octets)) (state : σ) :
    Option (Bool × σ × Octets) := do
  match ← validateRedundantAudioPacketBytes data with
  | .error _ => return (false, state, data)
  | .ok _ =>
    let hdr ← load data 0 redundantHeaderSize
    visitChildren func (packetCount hdr) 0 redundantHeaderSize state data

/-- Note the child in an array that has a place for each child a packet may have. -/
def noteChild (visited : List Visit) (data : Octets) (visit : Visit) :
    Option (List Visit × Octets) :=
  if visit.index < maxAudioRedundantPackets then some (visited ++ [visit], data) else none

/-- The children are noted from the first to the last and visited the other way round. -/
def forEachRedundantAudioChildReverse {σ : Type} (data : Octets)
    (func : σ → Octets → Visit → Option (σ × Octets)) (state : σ) :
    Option (Bool × σ × Octets) := do
  let noted ← forEachRedundantAudioChild data noteChild []
  if noted.1 = false then return (false, state, data)
  else
    let after ← noted.2.1.reverse.foldlM
      (fun (current : σ × Octets) visit => func current.1 current.2 visit) (state, data)
    return (true, after)

/-- Write the sender's id into a child. -/
def putSenderId (senderId : UInt32) (_ : Unit) (data : Octets) (visit : Visit) :
    Option (Unit × Octets) :=
  (store data (visit.offset + msgHdrBytes) (u32Bytes senderId)).map fun after => ((), after)

def embedSenderIdInRedundantAudioPacket (data : Octets) (senderId : UInt32) :
    Option (Bool × Octets) :=
  (forEachRedundantAudioChild data (putSenderId senderId) ()).map fun done => (done.1, done.2.2)

end Checked

variable {header data : Octets} {offset : Nat} {packets : List Octets} {count : Nat}

theorem magicOf_slice (long : 4 ≤ count) :
    magicOf (slice data offset count) = magicOf (data.drop offset) := by
  have part := slice_take (data.drop offset) count 0 4 (by omega)
  rw [magicOf, magicOf, u32At, u32At, ← part]
  rfl

/-- A child that is found is the next part of the packet. -/
theorem nextRedundantChild_part {child : Octets} {next : Nat}
    (found : nextRedundantChild data offset = .ok (child, next)) :
    data.drop offset = child ++ data.drop next ∧ next = offset + child.length := by
  unfold nextRedundantChild at found
  split at found
  · cases found
  split at found
  · cases found
  split at found
  · cases found
  rename_i hdr parsed
  simp only at found
  split at found
  · cases found
  split at found
  · cases found
  cases shape : validateAudioPacketShape hdr with
  | error reason =>
    rw [shape] at found
    cases found
  | ok accepted =>
    rw [shape] at found
    obtain ⟨rfl, rfl⟩ := Prod.mk.inj (Except.ok.inj found)
    constructor
    · rw [slice, ← drop_drop, take_append_drop]
    · rw [slice, length_take, length_drop]
      omega

/-- Children that are found follow each other. -/
theorem redundantChildren_part {last : Nat} {found : List Octets}
    (parsed : redundantChildren data count offset = .ok (found, last)) :
    data.drop offset = found.flatten ++ data.drop last ∧
      last = offset + found.flatten.length ∧ found.length = count := by
  induction count generalizing offset found last with
  | zero =>
    obtain ⟨rfl, rfl⟩ := Prod.mk.inj (Except.ok.inj parsed)
    exact ⟨rfl, rfl, rfl⟩
  | succ count ih =>
    rw [redundantChildren] at parsed
    split at parsed
    · cases parsed
    rename_i child next first
    have part := nextRedundantChild_part first
    cases later : redundantChildren data count next with
    | error reason =>
      rw [later] at parsed
      cases parsed
    | ok rest =>
      rw [later] at parsed
      obtain ⟨rfl, rfl⟩ := Prod.mk.inj (Except.ok.inj parsed)
      have others := ih later
      rw [flatten_cons, length_append, length_cons, append_assoc, ← others.1]
      exact ⟨part.1, by omega, by omega⟩

/-- A header that counts the packets that follow it, and nothing behind them. -/
structure Encodes (header : Octets) (packets : List Octets) (data : Octets) : Prop where
  whole : data = header ++ packets.flatten
  sized : header.length = redundantHeaderSize
  magic : magicOf header = audioRedundantMagic
  counted : packetCount header = packets.length
  nonempty : 1 ≤ packets.length
  few : packets.length ≤ maxAudioRedundantPackets
  valid : ∀ packet ∈ packets, validateAudioPacketBytes packet = .ok ()

theorem magicOf_append (header rest : Octets) (long : 4 ≤ header.length) :
    magicOf (header ++ rest) = magicOf header := by
  rw [magicOf, magicOf, u32At_append _ _ 0 (by omega)]

theorem packetCount_append (header rest : Octets) (long : 5 ≤ header.length) :
    packetCount (header ++ rest) = packetCount header := by
  rw [packetCount, packetCount, u8At_append _ _ 4 (by omega)]

theorem Encodes.parsed (encodes : Encodes header packets data) :
    data.length = redundantHeaderSize + packets.flatten.length ∧
      magicOf data = audioRedundantMagic ∧ packetCount data = packets.length ∧
      redundantChildren data packets.length redundantHeaderSize = .ok (packets, data.length) := by
  have eight : header.length = 8 := encodes.sized
  rw [encodes.whole]
  refine ⟨?_, ?_, ?_, ?_⟩
  · rw [length_append, encodes.sized]
  · rw [magicOf_append header _ (by omega), encodes.magic]
  · rw [packetCount_append header _ (by omega), encodes.counted]
  · rw [← encodes.sized]
    exact redundantChildren_flatten header packets encodes.valid

theorem Encodes.accepted (encodes : Encodes header packets data) :
    validateRedundantAudioPacketBytes data = .ok () ∧ children data = packets := by
  obtain ⟨length, magic, count, found⟩ := encodes.parsed
  have some_packets := encodes.nonempty
  have few := encodes.few
  have accepted : validateRedundantAudioPacketBytes data = .ok () := by
    unfold validateRedundantAudioPacketBytes
    rw [if_neg (by omega), if_neg (not_not.mpr magic), count, if_neg (by omega), found]
    simp
  refine ⟨accepted, ?_⟩
  unfold children
  rw [accepted]
  simp only [count, found]

theorem children_rejected
    (rejected : validateRedundantAudioPacketBytes data ≠ .ok ()) : children data = [] := by
  by_contra listed
  exact rejected (children_valid listed).1

theorem encodes_of_accepted (accepted : validateRedundantAudioPacketBytes data = .ok ()) :
    ∃ header packets, Encodes header packets data := by
  unfold validateRedundantAudioPacketBytes at accepted
  split at accepted
  · cases accepted
  split at accepted
  · cases accepted
  rename_i magic
  split at accepted
  · cases accepted
  split at accepted
  · cases accepted
  rename_i found last parsed
  split at accepted
  · cases accepted
  rename_i ends
  have part := redundantChildren_part parsed
  have eight : redundantHeaderSize = 8 := rfl
  have sized : (data.take redundantHeaderSize).length = redundantHeaderSize := by
    rw [length_take]
    omega
  have whole : data = data.take redundantHeaderSize ++ found.flatten := by
    have rest := part.1
    rw [not_not.mp ends, drop_length, append_nil] at rest
    rw [← rest, take_append_drop]
  have sameMagic := magicOf_append (data.take redundantHeaderSize) found.flatten (by omega)
  have sameCount := packetCount_append (data.take redundantHeaderSize) found.flatten (by omega)
  rw [← whole] at sameMagic sameCount
  refine ⟨data.take redundantHeaderSize, found, whole, sized, ?_, ?_, ?_, ?_, ?_⟩
  · rw [← sameMagic]
    exact not_not.mp magic
  · rw [← sameCount, part.2.2]
  · omega
  · omega
  · exact redundantChildren_valid parsed

namespace Checked

theorem parseAudioHeader_eq (data : Octets) (offset : Nat) (inside : offset ≤ data.length) :
    parseAudioHeader data offset (data.length - offset) =
      some (AudioPacket.parseAudioHeader (data.drop offset)) := by
  have four : msgHdrBytes = 4 := rfl
  unfold parseAudioHeader
  by_cases short : data.length - offset < msgHdrBytes
  · rw [if_pos short, AudioPacket.parseAudioHeader, if_pos (by rw [length_drop]; exact short)]
  have magic : magicOf (slice data offset msgHdrBytes) = magicOf (data.drop offset) :=
    magicOf_slice (by omega)
  rw [if_neg short, load_inside (by omega)]
  simp only [Option.bind_eq_bind, Option.bind_some, magic]
  by_cases refused : magicOf (data.drop offset) ≠ audioV3Magic ∨ data.length - offset < headerSize
  · rw [if_pos refused, AudioPacket.parseAudioHeader, if_neg (by rw [length_drop]; exact short),
      if_pos (by rw [length_drop]; exact refused)]
    rfl
  have long : headerSize ≤ (slice data offset headerSize).length := by
    rw [slice, length_take, length_drop]
    omega
  have split : data.drop offset =
      slice data offset headerSize ++ (data.drop offset).drop headerSize := by
    rw [slice, take_append_drop]
  rw [if_neg refused, load_inside (by omega), Option.bind_some, split,
    parseAudioHeader_append _ _ long]
  rfl

theorem nextRedundantChild_eq (data : Octets) (offset : Nat) :
    nextRedundantChild data offset =
      some ((AudioPacket.nextRedundantChild data offset).map fun found => found.1.length) := by
  have four : msgHdrBytes = 4 := rfl
  unfold nextRedundantChild AudioPacket.nextRedundantChild
  by_cases short : data.length < offset + msgHdrBytes
  · rw [if_pos short, if_pos short]
    rfl
  have magic : magicOf (slice data offset msgHdrBytes) = magicOf (data.drop offset) :=
    magicOf_slice (by omega)
  rw [if_neg short, if_neg short, load_inside (by omega)]
  simp only [Option.bind_eq_bind, Option.bind_some, magic,
    parseAudioHeader_eq data offset (by omega)]
  by_cases wrong : magicOf (data.drop offset) ≠ audioV3Magic
  · rw [if_pos wrong, if_pos wrong]
    rfl
  rw [if_neg wrong, if_neg wrong]
  cases AudioPacket.parseAudioHeader (data.drop offset) with
  | none => rfl
  | some hdr =>
    simp only
    by_cases large : audioBufSize < hdr.payloadBytes.toNat
    · rw [if_pos large, if_pos large]
      rfl
    rw [if_neg large, if_neg large]
    by_cases truncated : data.length < offset + (headerSize + hdr.payloadBytes.toNat)
    · rw [if_pos truncated, if_pos truncated]
      rfl
    rw [if_neg truncated, if_neg truncated]
    cases validateAudioPacketShape hdr with
    | error reason => rfl
    | ok accepted =>
      have length : (slice data offset (headerSize + hdr.payloadBytes.toNat)).length =
          headerSize + hdr.payloadBytes.toNat := by
        rw [slice, length_take, length_drop]
        omega
      show some (Except.ok (headerSize + hdr.payloadBytes.toNat)) =
        some (Except.ok (slice data offset (headerSize + hdr.payloadBytes.toNat)).length)
      rw [length]

theorem skipChildren_eq (data : Octets) (count offset : Nat) :
    skipChildren data count offset =
      some ((redundantChildren data count offset).map fun found => found.2) := by
  induction count generalizing offset with
  | zero => rfl
  | succ count ih =>
    rw [skipChildren, redundantChildren, nextRedundantChild_eq]
    cases found : AudioPacket.nextRedundantChild data offset with
    | error reason => rfl
    | ok child =>
      have next := (nextRedundantChild_part found).2
      show skipChildren data count (offset + child.1.length) =
        some (((redundantChildren data count child.2).map
          fun rest => (child.1 :: rest.1, rest.2)).map fun found => found.2)
      rw [ih, ← next]
      cases redundantChildren data count child.2 with
      | error reason => rfl
      | ok rest => rfl

theorem load_header {data : Octets} (long : redundantHeaderSize ≤ data.length) :
    load data 0 redundantHeaderSize = some (data.take redundantHeaderSize) ∧
      magicOf (data.take redundantHeaderSize) = magicOf data ∧
      packetCount (data.take redundantHeaderSize) = packetCount data := by
  have eight : redundantHeaderSize = 8 := rfl
  have sized : (data.take redundantHeaderSize).length = 8 := by
    rw [length_take]
    omega
  have magic := magicOf_append (data.take redundantHeaderSize) (data.drop redundantHeaderSize)
    (by omega)
  have count := packetCount_append (data.take redundantHeaderSize) (data.drop redundantHeaderSize)
    (by omega)
  rw [take_append_drop] at magic count
  refine ⟨?_, magic.symm, count.symm⟩
  rw [load_inside (by omega)]
  rfl

theorem validateRedundantAudioPacketBytes_eq (data : Octets) :
    validateRedundantAudioPacketBytes data =
      some (AudioPacket.validateRedundantAudioPacketBytes data) := by
  unfold validateRedundantAudioPacketBytes AudioPacket.validateRedundantAudioPacketBytes
  by_cases short : data.length < redundantHeaderSize
  · rw [if_pos short, if_pos short]
  obtain ⟨loaded, magic, count⟩ := load_header (Nat.le_of_not_lt short)
  rw [if_neg short, if_neg short, loaded]
  simp only [Option.bind_eq_bind, Option.bind_some, magic, count, skipChildren_eq]
  by_cases wrong : magicOf data ≠ audioRedundantMagic
  · rw [if_pos wrong, if_pos wrong]
    rfl
  rw [if_neg wrong, if_neg wrong]
  by_cases counted : packetCount data = 0 ∨ maxAudioRedundantPackets < packetCount data
  · rw [if_pos counted, if_pos counted]
    rfl
  rw [if_neg counted, if_neg counted]
  cases redundantChildren data (packetCount data) redundantHeaderSize with
  | error reason => rfl
  | ok found =>
    show (if found.2 ≠ data.length then some (Except.error "redundant length mismatch")
      else some (Except.ok ())) = some (if found.2 ≠ data.length then
        Except.error "redundant length mismatch" else Except.ok ())
    split <;> rfl

section Traversal

variable {σ : Type} {func : σ → Octets → Visit → Option (σ × Octets)}

/-- Where packets in a row stand, the first one at `offset`. -/
def visitsFrom : Nat → Nat → List Octets → List Visit
  | _, _, [] => []
  | index, offset, packet :: packets =>
    ⟨offset, packet.length, index⟩ :: visitsFrom (index + 1) (offset + packet.length) packets

/-- The loop over valid packets in a row, whose callback rewrites each packet by `rewrite`
and does not change its length. -/
theorem visitChildren_flatten (advance : σ → Visit → σ) (rewrite : Octets → Octets)
    (packets : List Octets) (valid : ∀ packet ∈ packets, validateAudioPacketBytes packet = .ok ())
    (same : ∀ packet ∈ packets, (rewrite packet).length = packet.length) (first : Nat)
    (calls : ∀ state front packet tail index, packet ∈ packets → index < first + packets.length →
      func state (front ++ (packet ++ tail)) ⟨front.length, packet.length, index⟩ =
        some (advance state ⟨front.length, packet.length, index⟩, front ++ (rewrite packet ++ tail)))
    (front : Octets) (state : σ) :
    visitChildren func packets.length first front.length state (front ++ packets.flatten) =
      some (true, (visitsFrom first front.length packets).foldl advance state,
        front ++ (packets.map rewrite).flatten) := by
  induction packets generalizing first front state with
  | nil => rfl
  | cons packet packets ih =>
    obtain ⟨head, others⟩ := forall_mem_cons.mp valid
    obtain ⟨headSame, othersSame⟩ := forall_mem_cons.mp same
    rw [flatten_cons, length_cons, visitChildren, nextRedundantChild_eq,
      nextRedundantChild_append front packet packets.flatten head]
    have called := calls state front packet packets.flatten first mem_cons_self
      (by rw [length_cons]; omega)
    have later := ih others othersSame (first + 1) (fun state front other tail index member bound =>
        calls state front other tail index (mem_cons_of_mem packet member)
          (by rw [length_cons]; omega))
      (front ++ rewrite packet) (advance state ⟨front.length, packet.length, first⟩)
    rw [length_append, headSame, append_assoc, append_assoc] at later
    simp [Except.map, called, later, visitsFrom]

/-- Where the children of a packet stand. -/
def visits (data : Octets) : List Visit := visitsFrom 0 redundantHeaderSize (children data)

theorem visitsFrom_inside (packets : List Octets) (index : Nat) (front : Octets) :
    ∀ visit ∈ visitsFrom index front.length packets,
      visit.offset + visit.length ≤ (front ++ packets.flatten).length ∧
        slice (front ++ packets.flatten) visit.offset visit.length ∈ packets ∧
        visit.index < index + packets.length := by
  induction packets generalizing index front with
  | nil =>
    intro visit member
    cases member
  | cons packet packets ih =>
    intro visit member
    rw [flatten_cons]
    cases mem_cons.mp member with
    | inl here =>
      rw [here]
      refine ⟨?_, ?_, ?_⟩
      · simp only [length_append]
        omega
      · rw [slice, drop_left, take_left]
        exact mem_cons_self
      show index < index + (packets.length + 1)
      omega
    | inr later =>
      have rest := ih (index + 1) (front ++ packet) visit (by rw [length_append]; exact later)
      rw [append_assoc] at rest
      refine ⟨rest.1, mem_cons_of_mem packet rest.2.1, ?_⟩
      rw [length_cons]
      omega

/-- A callback that leaves the packet alone. -/
def readOnly (advance : σ → Visit → σ) (state : σ) (data : Octets) (visit : Visit) :
    Option (σ × Octets) := some (advance state visit, data)

variable {header data : Octets} {packets : List Octets}

theorem forEach_rejected (state : σ)
    (rejected : AudioPacket.validateRedundantAudioPacketBytes data ≠ .ok ()) :
    forEachRedundantAudioChild data func state = some (false, state, data) := by
  rw [forEachRedundantAudioChild, validateRedundantAudioPacketBytes_eq]
  cases outcome : AudioPacket.validateRedundantAudioPacketBytes data with
  | error reason => rfl
  | ok done => exact absurd outcome rejected

theorem forEach_accepted (encodes : Encodes header packets data) (state : σ) :
    forEachRedundantAudioChild data func state =
      visitChildren func packets.length 0 header.length state (header ++ packets.flatten) := by
  have accepted := encodes.accepted.1
  obtain ⟨length, magic, count, -⟩ := encodes.parsed
  have long : redundantHeaderSize ≤ data.length := by omega
  obtain ⟨loaded, -, same⟩ := load_header long
  rw [forEachRedundantAudioChild, validateRedundantAudioPacketBytes_eq, accepted]
  simp only [Option.bind_eq_bind, Option.bind_some, loaded, same, count]
  rw [encodes.sized, ← encodes.whole]

theorem forEach_readOnly
    (encodes : Encodes header packets data) (advance : σ → Visit → σ) (state : σ) :
    forEachRedundantAudioChild data (readOnly advance) state =
      some (true, (visits data).foldl advance state, data) := by
  rw [forEach_accepted encodes, visitChildren_flatten advance id packets encodes.valid
    (fun _ _ => rfl) 0 (fun _ _ _ _ _ _ _ => rfl), map_id, ← encodes.whole, visits,
    encodes.accepted.2, encodes.sized]

theorem foldl_concat (entries noted : List Visit) :
    entries.foldl (fun noted visit => noted ++ [visit]) noted = noted ++ entries := by
  induction entries generalizing noted with
  | nil => rw [foldl_nil, append_nil]
  | cons visit entries ih => rw [foldl_cons, ih, append_assoc, singleton_append]

theorem noteChild_visits (encodes : Encodes header packets data) :
    forEachRedundantAudioChild data noteChild [] = some (true, visits data, data) := by
  have few := encodes.few
  rw [forEach_accepted encodes, visitChildren_flatten (fun noted visit => noted ++ [visit]) id packets
    encodes.valid (fun _ _ => rfl) 0 ?_, map_id, ← encodes.whole, visits,
    encodes.accepted.2, encodes.sized]
  · rw [foldl_concat, nil_append]
  intro state front packet tail index _ bound
  rw [noteChild, if_pos (by show index < maxAudioRedundantPackets; omega)]
  rfl

theorem foldlM_readOnly (advance : σ → Visit → σ) (entries : List Visit) (state : σ)
    (data : Octets) :
    entries.foldlM (fun (current : σ × Octets) visit => readOnly advance current.1 current.2 visit)
      (state, data) = some (entries.foldl advance state, data) := by
  induction entries generalizing state with
  | nil => rfl
  | cons visit entries ih => exact ih (advance state visit)

theorem reverse_readOnly
    (encodes : Encodes header packets data) (advance : σ → Visit → σ) (state : σ) :
    forEachRedundantAudioChildReverse data (readOnly advance) state =
      some (true, (visits data).reverse.foldl advance state, data) := by
  rw [forEachRedundantAudioChildReverse, noteChild_visits encodes]
  simp only [Option.bind_eq_bind, Option.bind_some, Bool.true_eq_false, ↓reduceIte, foldlM_readOnly]
  rfl

theorem reverse_rejected (advance : σ → Visit → σ) (state : σ)
    (rejected : AudioPacket.validateRedundantAudioPacketBytes data ≠ .ok ()) :
    forEachRedundantAudioChildReverse data (readOnly advance) state = some (false, state, data) := by
  rw [forEachRedundantAudioChildReverse, forEach_rejected _ rejected]
  rfl

end Traversal

end Checked

section SenderId

variable {packet : Octets} (long : headerSize ≤ packet.length) (senderId : UInt32)
include long

theorem packet_parts :
    packet = packet.take msgHdrBytes ++ (slice packet msgHdrBytes 4 ++ packet.drop (msgHdrBytes + 4)) ∧
      (packet.take msgHdrBytes).length = msgHdrBytes ∧ (slice packet msgHdrBytes 4).length = 4 := by
  have thirty : headerSize = 30 := rfl
  have four : msgHdrBytes = 4 := rfl
  refine ⟨?_, ?_, ?_⟩
  · rw [slice, ← drop_drop, take_append_drop, take_append_drop]
  · rw [length_take]
    omega
  · rw [slice, length_take, length_drop]
    omega

/-- Behind the id nothing changes. -/
theorem slice_embedSenderId {place : Nat} (behind : 8 ≤ place) (count : Nat) :
    slice (embedSenderId packet senderId) place count = slice packet place count := by
  have four : msgHdrBytes = 4 := rfl
  have sized : (packet.take msgHdrBytes ++ u32Bytes senderId).length = 8 := by
    rw [length_append, (packet_parts long).2.1, u32Bytes, leBytes_length]
    omega
  have right := slice_append_right (packet.take msgHdrBytes ++ u32Bytes senderId)
    (packet.drop (msgHdrBytes + 4)) (place - 8) count
  have position : msgHdrBytes + 4 + (place - 8) = place := by omega
  rw [sized, Nat.sub_add_cancel behind] at right
  rw [embedSenderId, right, slice, slice, drop_drop, position]

theorem parseAudioHeader_embedSenderId {hdr : ParsedAudioHeader}
    (parsed : parseAudioHeader packet = some hdr) :
    parseAudioHeader (embedSenderId packet senderId) = some { hdr with senderId := senderId } := by
  have four : msgHdrBytes = 4 := rfl
  have thirty : headerSize = 30 := rfl
  obtain ⟨magic, length⟩ := embedSenderId_keeps packet senderId long
  obtain ⟨v3, -⟩ := parseAudioHeader_fields parsed
  have own : u32At (embedSenderId packet senderId) 4 = senderId := by
    have right := slice_append_right (packet.take msgHdrBytes)
      (u32Bytes senderId ++ packet.drop (msgHdrBytes + 4)) 0 4
    rw [(packet_parts long).2.1] at right
    rw [u32At, embedSenderId, append_assoc]
    show UInt32.ofNat (leNat (slice _ (0 + msgHdrBytes) 4)) = _
    rw [right]
    exact u32At_u32Bytes senderId _
  have behind {place : Nat} (after : 8 ≤ place) (count : Nat) :=
    slice_embedSenderId long senderId after count
  unfold parseAudioHeader at parsed ⊢
  rw [if_neg (by omega), if_neg (not_or.mpr ⟨not_not.mpr v3, by omega⟩)] at parsed
  obtain rfl := Option.some.inj parsed
  rw [magic, length, if_neg (by omega), if_neg (not_or.mpr ⟨not_not.mpr v3, by omega⟩), own]
  have sequence := behind (show 8 ≤ 8 by decide) 4
  have sampleRate := behind (show 8 ≤ 12 by decide) 4
  have frameCount := behind (show 8 ≤ 16 by decide) 2
  have payloadBytes := behind (show 8 ≤ 18 by decide) 2
  have channels := behind (show 8 ≤ 20 by decide) 1
  have codec := behind (show 8 ≤ 21 by decide) 1
  have time := behind (show 8 ≤ 22 by decide) 8
  simp only [u32At, u16At, u8At, i64At, u64At, sequence, sampleRate, frameCount, payloadBytes,
    channels, codec, time]

theorem embedSenderId_valid (valid : validateAudioPacketBytes packet = .ok ()) :
    validateAudioPacketBytes (embedSenderId packet senderId) = .ok () := by
  obtain ⟨hdr, parsed, small, length, shape⟩ := validateAudioPacketBytes_ok valid
  rw [validateAudioPacketBytes, parseAudioHeader_embedSenderId long senderId parsed]
  simp only
  rw [if_neg (not_lt.mpr small),
    if_neg (not_not.mpr ((embedSenderId_keeps packet senderId long).2.trans length))]
  exact shape

end SenderId

theorem valid_long {packet : Octets} (valid : validateAudioPacketBytes packet = .ok ()) :
    headerSize ≤ packet.length := by
  obtain ⟨hdr, parsed, -⟩ := validateAudioPacketBytes_ok valid
  exact (parseAudioHeader_fields parsed).2

theorem Encodes.embedded (encodes : Encodes header packets data) (senderId : UInt32) :
    Encodes header (packets.map (embedSenderId · senderId))
      (header ++ (packets.map (embedSenderId · senderId)).flatten) := by
  refine ⟨rfl, encodes.sized, encodes.magic, ?_, ?_, ?_, ?_⟩
  · rw [length_map]
    exact encodes.counted
  · rw [length_map]
    exact encodes.nonempty
  · rw [length_map]
    exact encodes.few
  · intro packet member
    obtain ⟨old, inside, rfl⟩ := mem_map.mp member
    have valid := encodes.valid old inside
    exact embedSenderId_valid (valid_long valid) senderId valid

namespace Checked

theorem putSenderId_part (senderId : UInt32) (front tail : Octets) {packet : Octets}
    (long : headerSize ≤ packet.length) (index : Nat) :
    putSenderId senderId () (front ++ (packet ++ tail)) ⟨front.length, packet.length, index⟩ =
      some ((), front ++ (embedSenderId packet senderId ++ tail)) := by
  obtain ⟨whole, frontSized, idSized⟩ := packet_parts long
  have parts : front ++ (packet ++ tail) = (front ++ packet.take msgHdrBytes) ++
      (slice packet msgHdrBytes 4 ++ (packet.drop (msgHdrBytes + 4) ++ tail)) := by
    nth_rewrite 1 [whole]
    simp
  have place : front.length + msgHdrBytes = (front ++ packet.take msgHdrBytes).length := by
    rw [length_append, frontSized]
  have written := store_append (front ++ packet.take msgHdrBytes) (slice packet msgHdrBytes 4)
    (packet.drop (msgHdrBytes + 4) ++ tail) (u32Bytes senderId)
    (by rw [idSized, u32Bytes, leBytes_length])
  rw [putSenderId, place, parts, written, embedSenderId]
  simp

theorem embed_accepted {header data : Octets} {packets : List Octets}
    (encodes : Encodes header packets data) (senderId : UInt32) :
    embedSenderIdInRedundantAudioPacket data senderId =
      some (true, header ++ (packets.map (embedSenderId · senderId)).flatten) := by
  rw [embedSenderIdInRedundantAudioPacket, forEach_accepted encodes,
    visitChildren_flatten (fun _ _ => ()) (embedSenderId · senderId) packets encodes.valid ?_ 0 ?_]
  · rfl
  · intro packet member
    exact (embedSenderId_keeps packet senderId (valid_long (encodes.valid packet member))).2
  · intro _ front packet tail index member _
    exact putSenderId_part senderId front tail (valid_long (encodes.valid packet member)) index

theorem embed_rejected {data : Octets} (senderId : UInt32)
    (rejected : AudioPacket.validateRedundantAudioPacketBytes data ≠ .ok ()) :
    embedSenderIdInRedundantAudioPacket data senderId = some (false, data) := by
  rw [embedSenderIdInRedundantAudioPacket, forEach_rejected () rejected]
  rfl

/-- The places where children stand are parts of the packet, and valid packets. -/
theorem visits_inside {data : Octets} {visit : Visit} (member : visit ∈ visits data) :
    visit.offset + visit.length ≤ data.length ∧
      validateAudioPacketBytes (slice data visit.offset visit.length) = .ok () := by
  by_cases accepted : AudioPacket.validateRedundantAudioPacketBytes data = .ok ()
  · obtain ⟨header, packets, encodes⟩ := encodes_of_accepted accepted
    rw [visits, encodes.accepted.2, ← encodes.sized] at member
    have inside := visitsFrom_inside packets 0 header visit member
    rw [← encodes.whole] at inside
    exact ⟨inside.1, encodes.valid _ inside.2.1⟩
  · rw [visits, children_rejected accepted] at member
    cases member

end Checked

/-- The validator accepts exactly the well-formed packets. No access of a traversal lies
outside the packet; what is handed to a callback is a valid packet inside it. To embed an
id changes exactly the places of the id in an accepted packet, and nothing otherwise. -/
theorem redundant_exact (data : Octets) :
    (validateRedundantAudioPacketBytes data = .ok () ↔
        ∃ header packets, Encodes header packets data) ∧
      Checked.validateRedundantAudioPacketBytes data =
        some (validateRedundantAudioPacketBytes data) ∧
      (∀ visit ∈ Checked.visits data, visit.offset + visit.length ≤ data.length ∧
        validateAudioPacketBytes (slice data visit.offset visit.length) = .ok ()) ∧
      (∀ (σ : Type) (advance : σ → Visit → σ) (state : σ),
        Checked.forEachRedundantAudioChild data (Checked.readOnly advance) state =
            some ((validateRedundantAudioPacketBytes data).isOk,
              (Checked.visits data).foldl advance state, data) ∧
          Checked.forEachRedundantAudioChildReverse data (Checked.readOnly advance) state =
            some ((validateRedundantAudioPacketBytes data).isOk,
              (Checked.visits data).reverse.foldl advance state, data)) ∧
      ∀ senderId,
        (∀ header packets, Encodes header packets data →
          Checked.embedSenderIdInRedundantAudioPacket data senderId =
              some (true, header ++ (packets.map (embedSenderId · senderId)).flatten) ∧
            validateRedundantAudioPacketBytes
              (header ++ (packets.map (embedSenderId · senderId)).flatten) = .ok ()) ∧
        (validateRedundantAudioPacketBytes data ≠ .ok () →
          Checked.embedSenderIdInRedundantAudioPacket data senderId = some (false, data)) := by
  refine ⟨⟨encodes_of_accepted, fun ⟨_, _, encodes⟩ => encodes.accepted.1⟩,
    Checked.validateRedundantAudioPacketBytes_eq data, fun _ => Checked.visits_inside, ?_, ?_⟩
  · intro σ advance state
    by_cases accepted : validateRedundantAudioPacketBytes data = .ok ()
    · obtain ⟨header, packets, encodes⟩ := encodes_of_accepted accepted
      rw [accepted]
      exact ⟨Checked.forEach_readOnly encodes advance state,
        Checked.reverse_readOnly encodes advance state⟩
    have refused : (validateRedundantAudioPacketBytes data).isOk = false := by
      cases outcome : validateRedundantAudioPacketBytes data with
      | error reason => rfl
      | ok done => exact absurd outcome accepted
    rw [Checked.forEach_rejected state accepted, Checked.reverse_rejected advance state accepted,
      Checked.visits, children_rejected accepted, refused]
    exact ⟨rfl, rfl⟩
  · intro senderId
    refine ⟨fun header packets encodes => ?_, Checked.embed_rejected senderId⟩
    exact ⟨Checked.embed_accepted encodes senderId, (encodes.embedded senderId).accepted.1⟩

end Sesivo.AudioPacket
