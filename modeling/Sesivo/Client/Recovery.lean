import Sesivo.Client.ArrivalTracking
import Sesivo.Client.Attribution

set_option autoImplicit false

/- Redundancy against loss. Every datagram repeats the packets before its own, so a
receiver that never misses more datagrams in a row than are repeated is handed
every packet, in order. Packets are named by their position in the sender's row;
their numbers may wrap. -/

namespace Sesivo

open Octets AudioPacket Serial List Nat

theorem effectiveOpusRedundancyDepth_le (configuredDepth : Int) (frameCount : UInt16) :
    effectiveOpusRedundancyDepth configuredDepth frameCount ≤ recentOpusPacketSlots := by
  have most : maxOpusRedundancyDepthPackets = 11 := rfl
  have normalized : normalizeOpusRedundancyDepth configuredDepth ≤ 11 := by
    unfold normalizeOpusRedundancyDepth opusRedundancyDepthAuto
    split <;> omega
  have automatic : autoOpusRedundancyDepthForFrameCount frameCount ≤ 11 := by
    unfold autoOpusRedundancyDepthForFrameCount
    repeat' split
    all_goals omega
  unfold effectiveOpusRedundancyDepth
  simp only
  split
  · exact automatic
  · exact normalized

namespace SequenceArrivalTracker

/-- The tracker of a sender of whom everything before the next number was seen. -/
def upTo (next : UInt32) : SequenceArrivalTracker where
  initialized := true
  nextSequence := next

variable (base : UInt32)

theorem record_upTo_next (next : ℕ) :
    (upTo (numberAt base next)).record (numberAt base next) =
      ({}, upTo (numberAt base (next + 1))) := by
  rw [numberAt_succ]
  simp [record, upTo]

/-- A number behind the next one is a duplicate, and nothing changes. -/
theorem record_upTo_behind {position next : ℕ} (behind : position < next)
    (near : next - position ≤ 2 ^ 31) :
    (upTo (numberAt base next)).record (numberAt base position) =
      ({ lateOrDuplicate := true }, upTo (numberAt base next)) := by
  have ahead := @distance_numberAt_add base position (next - position) (by omega)
  rw [Nat.add_sub_cancel' (Nat.le_of_lt behind)] at ahead
  have different : numberAt base position ≠ numberAt base next := by
    intro same
    rw [same, distance_self] at ahead
    omega
  have notAfter : sequenceNumberAfter (numberAt base position) (numberAt base next) = false := by
    rw [Bool.eq_false_iff, ne_eq, sequenceNumberAfter, sequenceNumberBefore_iff, Before]
    have back := @distance_of_lt (numberAt base position) (numberAt base position)
      (numberAt base next) (by rw [distance_self, ahead]; omega)
    omega
  simp [record, upTo, different, notAfter, removeMissing]

end SequenceArrivalTracker

namespace Client

/-- The sender thread over a row of packets, each with the depth configured when it
is sent, and no reset of the history in between: the datagrams for the socket. -/
def sendAll (client : Client) : List (Octets × Int) → List Octets
  | [] => []
  | (packet, configuredDepth) :: rest =>
    let wrapped := client.maybeWrapOpusPacketWithRedundancy packet configuredDepth
    wrapped.1.getD packet :: (wrapped.2.rememberRecentOpusAudioPacket packet).sendAll rest

/-- The packet and as many as `depth` before it, the latest first. -/
def withHistory (packets : List Octets) (depth position : ℕ) : List Octets :=
  (packets.take (position + 1)).reverse.take (depth + 1)

/-- A row of valid packets of one sender, numbered in order, that are sent with the
same depth and fit into a datagram together with their history. -/
structure Speaks (senderId first : UInt32) (depth : ℕ) (stream : List (Octets × Int)) : Prop where
  positive : 0 < depth
  numbered : ∀ position entry, stream[position]? = some entry →
    ∃ hdr, parseAudioHeader entry.1 = some hdr ∧ validateAudioPacketBytes entry.1 = .ok () ∧
      hdr.senderId = senderId ∧ hdr.sequence = numberAt first position ∧
      effectiveOpusRedundancyDepth entry.2 hdr.frameCount = depth
  fits : ∀ position < stream.length, redundantHeaderSize +
    (withHistory (stream.map Prod.fst) depth position).flatten.length ≤ audioRedundantTargetBytes

variable {packet : Octets}

theorem wrapped_carries {client : Client} {configuredDepth : Int}
    {hdr : ParsedAudioHeader} {depth : ℕ}
    (supports : client.joinSession.serverSupports audioCapRedundancy = true)
    (valid : ∀ earlier ∈ packet :: client.recentOpusAudioPackets,
      validateAudioPacketBytes earlier = .ok ())
    (parsed : parseAudioHeader packet = some hdr) (positive : 0 < depth)
    (effective : effectiveOpusRedundancyDepth configuredDepth hdr.frameCount = depth)
    (fits : redundantHeaderSize +
      (packet :: client.recentOpusAudioPackets.take depth).flatten.length ≤
        audioRedundantTargetBytes) :
    carriedPackets ((client.maybeWrapOpusPacketWithRedundancy packet configuredDepth).1.getD packet) =
        packet :: client.recentOpusAudioPackets.take depth ∧
      (client.maybeWrapOpusPacketWithRedundancy packet configuredDepth).2 = client := by
  have bounded := effectiveOpusRedundancyDepth_le configuredDepth hdr.frameCount
  have slots : recentOpusPacketSlots = 11 := rfl
  have most : maxAudioRedundantPackets = 12 := rfl
  have views : client.recentOpusAudioPackets.take
      (opusRedundancyChildCountForPolicy configuredDepth hdr.frameCount
        client.recentOpusAudioPackets.length - 1) = client.recentOpusAudioPackets.take depth := by
    unfold opusRedundancyChildCountForPolicy
    simp only [effective]
    rw [if_neg (by omega), Int.toNat_natCast, Nat.add_sub_cancel_left]
    by_cases short : client.recentOpusAudioPackets.length ≤ depth
    · rw [min_eq_left short, take_length, take_of_length_le short]
    · rw [min_eq_right (by omega)]
  unfold maybeWrapOpusPacketWithRedundancy
  rw [if_neg (by rw [supports]; simp), parsed]
  simp only [effective, views]
  rw [if_neg (by omega)]
  by_cases alone : client.recentOpusAudioPackets = []
  · have magic := (parseAudioHeader_fields parsed).1
    have single : carriedPackets packet = [packet] := by
      unfold carriedPackets
      rw [if_neg (by rw [magic]; decide)]
    simp [single, alone]
  · obtain ⟨latest, older, history⟩ := exists_cons_of_ne_nil alone
    rw [if_neg (by
      rw [history, length_cons, length_take, length_cons]
      omega)]
    obtain ⟨out, written, magic, listed⟩ := @writeRedundantAudioPacket_all audioRedundantTargetBytes
      (packet :: client.recentOpusAudioPackets.take depth)
      (by
        intro earlier member
        apply valid
        rw [mem_cons] at member ⊢
        exact member.imp_right mem_of_mem_take)
      (cons_ne_nil _ _)
      (by rw [length_cons, length_take]; omega) fits
    have same : txPacketBufferBytes = audioRedundantTargetBytes := rfl
    rw [same, written]
    unfold carriedPackets
    rw [Option.getD_some, if_pos magic, listed]
    exact ⟨rfl, rfl⟩

theorem validate_ne_nil (valid : validateAudioPacketBytes packet = .ok ()) : packet ≠ [] := by
  rintro rfl
  cases valid

/-- With the packets `sent` before, every datagram carries its packet and the history. -/
theorem sendAll_carries {depth : ℕ} (positive : 0 < depth) (stream : List (Octets × Int)) :
    ∀ (client : Client) (sent : List Octets),
      client.joinSession.serverSupports audioCapRedundancy = true →
      client.recentOpusAudioPackets = sent.reverse.take recentOpusPacketSlots →
      (∀ packet ∈ sent, validateAudioPacketBytes packet = .ok ()) →
      (∀ entry ∈ stream, ∃ hdr, parseAudioHeader entry.1 = some hdr ∧
        validateAudioPacketBytes entry.1 = .ok () ∧
        effectiveOpusRedundancyDepth entry.2 hdr.frameCount = depth) →
      (∀ position < stream.length, redundantHeaderSize +
        (withHistory (sent ++ stream.map Prod.fst) depth (sent.length + position)).flatten.length ≤
          audioRedundantTargetBytes) →
      (client.sendAll stream).map carriedPackets =
        (range stream.length).map fun position =>
          withHistory (sent ++ stream.map Prod.fst) depth (sent.length + position) := by
  induction stream with
  | nil =>
    intro client sent _ _ _ _ _
    rfl
  | cons entry stream ih =>
    intro client sent supports history valid numbered fits
    obtain ⟨packet, configuredDepth⟩ := entry
    obtain ⟨hdr, parsed, checked, effective⟩ := numbered _ mem_cons_self
    have bounded := effectiveOpusRedundancyDepth_le configuredDepth hdr.frameCount
    rw [effective] at bounded
    -- the history kept is longer than the depth, so cutting it does not show
    have recent : packet :: client.recentOpusAudioPackets.take depth =
        withHistory (sent ++ packet :: stream.map Prod.fst) depth sent.length := by
      have cut : (sent ++ packet :: stream.map Prod.fst).take (sent.length + 1) =
          sent ++ [packet] := by
        simp [take_append]
      rw [history, take_take, min_eq_left (by omega), withHistory, cut]
      simp
    obtain ⟨carried, same⟩ := wrapped_carries supports (by
        intro earlier member
        rw [history, mem_cons] at member
        rcases member with rfl | earlier
        · exact checked
        · exact valid _ (mem_reverse.mp (mem_of_mem_take earlier)))
      parsed positive effective (by
        have first := fits 0 (succ_pos _)
        rw [recent]
        exact first)
    have moved : sent ++ packet :: stream.map Prod.fst =
        (sent ++ [packet]) ++ stream.map Prod.fst := by simp
    have later := ih (client.rememberRecentOpusAudioPacket packet) (sent ++ [packet])
      (by
        unfold rememberRecentOpusAudioPacket
        rw [if_neg (validate_ne_nil checked)]
        exact supports)
      (by
        unfold rememberRecentOpusAudioPacket
        rw [if_neg (validate_ne_nil checked), history]
        have slots : recentOpusPacketSlots = 10 + 1 := rfl
        simp only [slots, take_succ_cons, take_take, reverse_append,
          reverse_cons, reverse_nil, nil_append, cons_append]
        rfl)
      (forall_mem_append.mpr ⟨valid, forall_mem_singleton.mpr checked⟩)
      (fun other member => numbered other (mem_cons_of_mem _ member))
      (by
        intro position inside
        have bound := fits (position + 1) (succ_lt_succ inside)
        rw [map_cons, moved] at bound
        rw [length_append, length_singleton, add_assoc, add_comm 1]
        exact bound)
    rw [sendAll, map_cons, same, carried, recent, later, length_cons,
      range_succ_eq_map, map_cons, map_map, map_cons, moved]
    congr 1
    apply map_congr_left
    intro position _
    rw [length_append, length_singleton, add_assoc, add_comm 1]
    rfl

/-- A received packet as it is queued. -/
def queued (packet : Octets) : Option OpusPacket := (parseAudioHeader packet).map (opusPacket packet)

/-- The sender is known, everything from its first packet heard up to the position
`next` has been handed to its queue, and nothing is missing. -/
def Heard (senderId first : UInt32) (next : ℕ) (queue : List OpusPacket) (client : Client) : Prop :=
  ∃ participant, client.participants.lookup senderId = some participant ∧
    participant.sequenceTracker = .upTo (numberAt first next) ∧ participant.opusQueue = queue

/-- A decoder can be set up for the sender, and its queue takes every packet. -/
structure Hearing (senderId : UInt32) (ambient : ClientAmbient) : Prop where
  frames : ambient.framesPerBuffer ≠ 0
  decoder : ambient.decoderCreates senderId = true
  admits : ∀ participant packet, ambient.queueAdmits participant packet = true

variable {senderId first : UInt32} {ambient : ClientAmbient} {client : Client}

/-- The packet at the position in the sender's row. -/
def Numbered (senderId first : UInt32) (position : ℕ) (packet : Octets) : Prop :=
  validateAudioPacketBytes packet = .ok () ∧
    ∃ hdr, parseAudioHeader packet = some hdr ∧ hdr.senderId = senderId ∧
      hdr.sequence = numberAt first position

theorem handleSingleAudioMessage_first (hearing : Hearing senderId ambient) {position : ℕ}
    (numbered : Numbered senderId first position packet)
    (unknown : client.participants.lookup senderId = none) (countDuplicateLate : Bool) :
    Heard senderId first (position + 1) ([packet].filterMap queued)
      (client.handleSingleAudioMessage ambient packet countDuplicateLate) := by
  obtain ⟨valid, hdr, parsed, rfl, number⟩ := numbered
  have created : ¬ (ambient.framesPerBuffer = 0 ∨ ambient.decoderCreates hdr.senderId = false) := by
    simp [hearing.frames, hearing.decoder]
  have arrival : (opusPacket packet hdr).sequence = numberAt first position := number
  simp only [handleSingleAudioMessage, parsed, valid, registerSender, unknown, created, ↓reduceIte,
    deliverToParticipant, Store.lookup_insert, SequenceArrivalTracker.record, arrival,
    sequenceArrivalShouldEnqueue, hearing.admits, Bool.not_false, Bool.true_or, Bool.and_self]
  refine ⟨_, by rw [Store.lookup_insert, if_pos rfl], ?_, ?_⟩
  · rw [numberAt_succ]
    rfl
  · simp [queued, parsed]

variable {queue : List OpusPacket}

theorem handleSingleAudioMessage_next (hearing : Hearing senderId ambient) {next : ℕ}
    (numbered : Numbered senderId first next packet)
    (heard : Heard senderId first next queue client) (countDuplicateLate : Bool) :
    Heard senderId first (next + 1) (queue ++ [packet].filterMap queued)
      (client.handleSingleAudioMessage ambient packet countDuplicateLate) := by
  obtain ⟨valid, hdr, parsed, rfl, number⟩ := numbered
  obtain ⟨participant, found, tracker, rfl⟩ := heard
  have arrival : (opusPacket packet hdr).sequence = numberAt first next := number
  simp only [handleSingleAudioMessage, parsed, valid, registerSender, found, deliverToParticipant,
    tracker, arrival, SequenceArrivalTracker.record_upTo_next, sequenceArrivalShouldEnqueue,
    hearing.admits, Bool.not_false, Bool.true_or, Bool.and_self, ↓reduceIte]
  refine ⟨_, by rw [Store.lookup_insert, if_pos rfl], rfl, ?_⟩
  simp [queued, parsed]

theorem handleSingleAudioMessage_behind {position next : ℕ}
    (numbered : Numbered senderId first position packet)
    (heard : Heard senderId first next queue client) (behind : position < next)
    (near : next - position ≤ 2 ^ 31) (ambient : ClientAmbient) (countDuplicateLate : Bool) :
    Heard senderId first next queue
      (client.handleSingleAudioMessage ambient packet countDuplicateLate) := by
  obtain ⟨valid, hdr, parsed, rfl, number⟩ := numbered
  obtain ⟨participant, found, tracker, rfl⟩ := heard
  have arrival : (opusPacket packet hdr).sequence = numberAt first position := number
  have refused : sequenceArrivalShouldEnqueue { lateOrDuplicate := true } = false := rfl
  simp only [handleSingleAudioMessage, parsed, valid, registerSender, found, deliverToParticipant,
    tracker, arrival, SequenceArrivalTracker.record_upTo_behind first behind near, refused,
    Bool.false_and, Bool.false_eq_true, ↓reduceIte]
  refine ⟨_, by rw [Store.lookup_insert, if_pos rfl], ?_, ?_⟩ <;> rfl

/-- Packets taken in order from one that is not ahead: those already heard change
nothing, the others are queued. -/
theorem foldl_heard (hearing : Hearing senderId ambient) (entries : List (Octets × ℕ)) :
    ∀ (client : Client) (start next : ℕ) (queue : List OpusPacket),
      (∀ offset entry, entries[offset]? = some entry →
        Numbered senderId first (start + offset) entry.1) →
      Heard senderId first next queue client → start ≤ next → next - start ≤ 2 ^ 31 →
      Heard senderId first (max next (start + entries.length))
        (queue ++ ((entries.map Prod.fst).drop (next - start)).filterMap queued)
        (entries.foldl
          (fun current entry => current.handleSingleAudioMessage ambient entry.1 (entry.2 = 0))
          client) := by
  induction entries with
  | nil =>
    intro client start next queue _ heard reached _
    have same : max next (start + ([] : List (Octets × ℕ)).length) = next := max_eq_left reached
    rw [same, map_nil, drop_nil, filterMap_nil, append_nil]
    exact heard
  | cons entry entries ih =>
    intro client start next queue numbered heard reached near
    have current := numbered 0 entry rfl
    have others : ∀ offset other, entries[offset]? = some other →
        Numbered senderId first (start + 1 + offset) other.1 := by
      intro offset other found
      have later := numbered (offset + 1) other found
      rw [add_assoc, add_comm 1]
      exact later
    have length : start + (entry :: entries).length = start + 1 + entries.length := by
      rw [length_cons]
      omega
    rw [foldl_cons, length]
    rcases eq_or_lt_of_le reached with rfl | behind
    · have extended := ih _ (start + 1) (start + 1) _ others
        (handleSingleAudioMessage_next hearing current heard (entry.2 = 0)) le_rfl
        (by omega)
      have largest : max start (start + 1 + entries.length) =
          max (start + 1) (start + 1 + entries.length) := by omega
      rw [Nat.sub_self, drop_zero, append_assoc, ← filterMap_append] at extended
      rw [largest, Nat.sub_self, drop_zero, map_cons]
      exact extended
    · have kept := ih _ (start + 1) next _ others
        (handleSingleAudioMessage_behind current heard behind near ambient (entry.2 = 0))
        (by omega) (by omega)
      have shifted : next - start = next - (start + 1) + 1 := by omega
      rw [shifted, map_cons, drop_succ_cons]
      exact kept

theorem handleAudioMessage_eq_foldl {data : Octets}
    (parsed : ∀ packet ∈ carriedPackets data, ∃ hdr, parseAudioHeader packet = some hdr) :
    client.handleAudioMessage ambient data =
      (carriedPackets data).zipIdx.reverse.foldl
        (fun current entry => current.handleSingleAudioMessage ambient entry.1 (entry.2 = 0))
        client := by
  unfold handleAudioMessage carriedPackets at *
  split
  next redundant => rfl
  rename_i plain
  rw [if_neg plain] at parsed
  obtain ⟨hdr, header⟩ := parsed data (mem_singleton.mpr rfl)
  rw [if_neg (not_not.mpr (parseAudioHeader_fields header).1)]
  rfl

variable {packets : List Octets} {depth : ℕ}

/-- The packets of a datagram in the order they are handled. -/
theorem withHistory_reverse {position : ℕ} (inside : position < packets.length) :
    (withHistory packets depth position).reverse =
      (packets.take (position + 1)).drop (position - depth) := by
  rw [withHistory, take_reverse, reverse_reverse, length_take]
  congr 1
  omega

theorem handled_numbered (numbered : ∀ position packet, packets[position]? = some packet →
      Numbered senderId first position packet)
    {position offset : ℕ} {entry : Octets × ℕ} (inside : position < packets.length)
    (found : (withHistory packets depth position).zipIdx.reverse[offset]? = some entry) :
    Numbered senderId first (position - depth + offset) entry.1 := by
  apply numbered
  have mapped := congrArg (Option.map Prod.fst) found
  rw [← getElem?_map, map_reverse, zipIdx_map_fst, withHistory_reverse inside,
    getElem?_drop, getElem?_take] at mapped
  split at mapped
  · exact mapped
  · cases mapped

section Datagram

variable {datagram : Octets} {position : ℕ} (hearing : Hearing senderId ambient)
  (numbered : ∀ position packet, packets[position]? = some packet →
    Numbered senderId first position packet)
  (inside : position < packets.length)
  (carries : carriedPackets datagram = withHistory packets depth position)

include numbered carries in
theorem handleAudioMessage_carried :
    client.handleAudioMessage ambient datagram =
      (withHistory packets depth position).zipIdx.reverse.foldl
        (fun current entry => current.handleSingleAudioMessage ambient entry.1 (entry.2 = 0))
        client := by
  rw [← carries]
  apply handleAudioMessage_eq_foldl
  intro packet member
  rw [carries] at member
  have earlier : packet ∈ packets := by
    exact mem_of_mem_take (mem_reverse.mp (mem_of_mem_take member))
  obtain ⟨place, found⟩ := getElem?_of_mem earlier
  obtain ⟨-, hdr, parsed, -⟩ := numbered place packet found
  exact ⟨hdr, parsed⟩

include hearing numbered inside carries

theorem handleAudioMessage_heard {next : ℕ} {queue : List OpusPacket}
    (heard : Heard senderId first next queue client) (reached : position - depth ≤ next)
    (near : next - (position - depth) ≤ 2 ^ 31) :
    Heard senderId first (max next (position + 1))
      (queue ++ ((packets.take (position + 1)).drop next).filterMap queued)
      (client.handleAudioMessage ambient datagram) := by
  have after := foldl_heard hearing (withHistory packets depth position).zipIdx.reverse client
    (position - depth) next queue (fun _ _ => handled_numbered numbered inside) heard reached near
  rw [map_reverse, zipIdx_map_fst, withHistory_reverse inside, drop_drop,
    Nat.add_sub_cancel' reached] at after
  have length : position - depth + (withHistory packets depth position).zipIdx.reverse.length =
      position + 1 := by
    rw [length_reverse, length_zipIdx, ← length_reverse,
      withHistory_reverse inside, length_drop, length_take]
    omega
  rw [length] at after
  rw [handleAudioMessage_carried numbered carries]
  exact after

theorem handleAudioMessage_first (unknown : client.participants.lookup senderId = none) :
    Heard senderId first (position + 1)
      (((packets.take (position + 1)).drop (position - depth)).filterMap queued)
      (client.handleAudioMessage ambient datagram) := by
  rw [handleAudioMessage_carried numbered carries]
  have order := @withHistory_reverse packets depth position inside
  have named := fun offset entry =>
    @handled_numbered senderId first packets depth numbered position offset entry inside
  have handled : (withHistory packets depth position).zipIdx.reverse.map Prod.fst =
      (packets.take (position + 1)).drop (position - depth) := by
    rw [map_reverse, zipIdx_map_fst, order]
  have length := congrArg length handled
  rw [length_map, length_drop, length_take] at length
  cases row : (withHistory packets depth position).zipIdx.reverse with
  | nil =>
    rw [row, length_nil] at length
    omega
  | cons entry entries =>
    rw [row] at named handled length
    have start := handleSingleAudioMessage_first hearing (named 0 entry rfl) unknown (entry.2 = 0)
    have after := foldl_heard hearing entries _ (position - depth + 1) (position - depth + 1) _ (by
        intro offset other found
        have later := named (offset + 1) other found
        rw [add_assoc, add_comm 1]
        exact later)
      start le_rfl (by omega)
    have last : max (position - depth + 1) (position - depth + 1 + entries.length) =
        position + 1 := by
      rw [length_cons] at length
      omega
    rw [last, Nat.sub_self, drop_zero, ← filterMap_append, singleton_append,
      ← map_cons, handled] at after
    exact after

end Datagram

/-- The positions of received datagrams after the highest one: each comes again, or
follows so soon that its history reaches back to what has been heard. -/
def Bridged (depth : ℕ) : ℕ → List ℕ → Prop
  | _, [] => True
  | high, position :: rest =>
    (position ≤ high ∧ high + depth < position + 2 ^ 31 ∨
      high < position ∧ position ≤ high + depth + 1) ∧
    Bridged depth (max high position) rest

/-- Receive the datagram at each position of the sender's row. -/
def hear (datagrams : List Octets) (client : Client) (reception : ClientAmbient × ℕ) : Client :=
  client.handleAudioMessage reception.1 (datagrams.getD reception.2 [])

/-- The received part of the row so far. -/
def HeardFrom (senderId first : UInt32) (packets : List Octets) (start high : ℕ) (client : Client) :
    Prop :=
  Heard senderId first (high + 1) (((packets.take (high + 1)).drop start).filterMap queued) client

variable {stream : List (Octets × Int)} {datagrams : List Octets} {start : ℕ}

/-- One more datagram. -/
theorem hear_step (numbered : ∀ position packet, packets[position]? = some packet →
      Numbered senderId first position packet) {reception : ClientAmbient × ℕ} {high : ℕ}
    (hearing : Hearing senderId reception.1) (inside : reception.2 < packets.length)
    (carries : carriedPackets (datagrams.getD reception.2 []) = withHistory packets depth reception.2)
    (bridged : reception.2 ≤ high ∧ high + depth < reception.2 + 2 ^ 31 ∨
      high < reception.2 ∧ reception.2 ≤ high + depth + 1)
    (short : depth < 2 ^ 31) (begun : start ≤ high)
    (heard : HeardFrom senderId first packets start high client) :
    HeardFrom senderId first packets start (max high reception.2)
      (client.hear datagrams reception) := by
  have after := handleAudioMessage_heard hearing numbered inside carries heard (by omega) (by omega)
  rcases bridged with ⟨again, -⟩ | ⟨ahead, -⟩
  · have nothing : (packets.take (reception.2 + 1)).drop (high + 1) = [] := by
      apply drop_eq_nil_of_le
      rw [length_take]
      omega
    rw [max_eq_left (by omega), nothing, filterMap_nil, append_nil] at after
    rw [max_eq_left again]
    exact after
  · rw [max_eq_right (by omega), ← filterMap_append,
      Lists.take_drop_append packets (by omega) (by omega)] at after
    rw [max_eq_right (le_of_lt ahead)]
    exact after

theorem hear_run (numbered : ∀ position packet, packets[position]? = some packet →
      Numbered senderId first position packet) (short : depth < 2 ^ 31)
    (carries : ∀ position < packets.length,
      carriedPackets (datagrams.getD position []) = withHistory packets depth position)
    (receptions : List (ClientAmbient × ℕ)) :
    ∀ (client : Client) (high : ℕ),
      (∀ reception ∈ receptions, Hearing senderId reception.1 ∧ reception.2 < packets.length) →
      Bridged depth high (receptions.map Prod.snd) → start ≤ high →
      HeardFrom senderId first packets start high client →
      HeardFrom senderId first packets start ((receptions.map Prod.snd).foldl max high)
        (Run.run (hear datagrams) client receptions) := by
  induction receptions with
  | nil =>
    intro client high _ _ _ heard
    exact heard
  | cons reception receptions ih =>
    intro client high received bridged begun heard
    obtain ⟨⟨hearing, inside⟩, others⟩ := forall_mem_cons.mp received
    exact ih (client.hear datagrams reception) (max high reception.2) others bridged.2 (by omega)
      (hear_step numbered hearing inside (carries reception.2 inside) bridged.1 short begun heard)

/-- Queued packets have the numbers of their positions. -/
theorem queued_sequences (row : List Octets) :
    ∀ start, (∀ offset packet, row[offset]? = some packet →
        Numbered senderId first (start + offset) packet) →
      (row.filterMap queued).map OpusPacket.sequence =
        (range' start row.length).map (numberAt first) := by
  induction row with
  | nil =>
    intro start _
    rfl
  | cons packet row ih =>
    intro start numbered
    obtain ⟨-, hdr, parsed, -, number⟩ := numbered 0 packet rfl
    have others := ih (start + 1) (by
      intro offset other found
      have later := numbered (offset + 1) other found
      rw [add_assoc, add_comm 1]
      exact later)
    have known : queued packet = some (opusPacket packet hdr) := by
      rw [queued, parsed]
      rfl
    rw [filterMap_cons_some known, map_cons, others, length_cons,
      range'_succ, map_cons]
    congr 1

theorem Speaks.numberedPackets
    (speaks : Speaks senderId first depth stream) (position : ℕ) (packet : Octets)
    (found : (stream.map Prod.fst)[position]? = some packet) :
    Numbered senderId first position packet := by
  rw [getElem?_map] at found
  obtain ⟨entry, there, rfl⟩ := Option.map_eq_some_iff.mp found
  obtain ⟨hdr, parsed, valid, sender, number, -⟩ := speaks.numbered position entry there
  exact ⟨valid, hdr, parsed, sender, number⟩

theorem Speaks.carries (speaks : Speaks senderId first depth stream)
    {sender : Client} (supports : sender.joinSession.serverSupports audioCapRedundancy = true)
    (fresh : sender.recentOpusAudioPackets = []) {position : ℕ}
    (inside : position < stream.length) :
    carriedPackets ((sender.sendAll stream).getD position []) =
      withHistory (stream.map Prod.fst) depth position := by
  have all := sendAll_carries speaks.positive stream sender [] supports
    (by rw [fresh]; rfl) (by simp) (by
      intro entry member
      obtain ⟨place, found⟩ := getElem?_of_mem member
      obtain ⟨hdr, parsed, valid, -, -, effective⟩ := speaks.numbered place entry found
      exact ⟨hdr, parsed, valid, effective⟩)
    (by
      intro place below
      rw [nil_append, length_nil, zero_add]
      exact speaks.fits place below)
  have here := congrArg (·[position]?) all
  simp only [getElem?_map, getElem?_range inside, Option.map_some, nil_append,
    length_nil, zero_add] at here
  obtain ⟨datagram, sent, carried⟩ := Option.map_eq_some_iff.mp here
  rw [getD_eq_getElem?_getD, sent]
  exact carried

theorem Speaks.depth_le (speaks : Speaks senderId first depth stream)
    (nonempty : 0 < stream.length) : depth ≤ recentOpusPacketSlots := by
  obtain ⟨hdr, -, -, -, -, effective⟩ :=
    speaks.numbered 0 stream[0] (getElem?_eq_getElem nonempty)
  have bounded := effectiveOpusRedundancyDepth_le stream[0].2 hdr.frameCount
  omega

/-- If never more than `depth` datagrams are lost in a row, every packet from the oldest
that the first received datagram repeats to the last reaches the queue, once and in
order; nothing is missing, and a datagram that comes again changes neither the
queue nor the tracker. -/
theorem redundancy_recovers (sender receiver : Client) (senderId first : UInt32) (depth : ℕ)
    (stream : List (Octets × Int)) (opening : ClientAmbient × ℕ) (rest : List (ClientAmbient × ℕ))
    (speaks : Speaks senderId first depth stream)
    (supports : sender.joinSession.serverSupports audioCapRedundancy = true)
    (fresh : sender.recentOpusAudioPackets = [])
    (unknown : receiver.participants.lookup senderId = none)
    (received : ∀ reception ∈ opening :: rest,
      Hearing senderId reception.1 ∧ reception.2 < stream.length)
    (bridged : Bridged depth opening.2 (rest.map Prod.snd)) :
    let last := (rest.map Prod.snd).foldl max opening.2
    let start := opening.2 - depth
    let after := Run.run (hear (sender.sendAll stream)) receiver (opening :: rest)
    ∃ participant, after.participants.lookup senderId = some participant ∧
      participant.sequenceTracker.unresolvedGaps = 0 ∧
      participant.opusQueue =
        (((stream.map Prod.fst).take (last + 1)).drop start).filterMap queued ∧
      participant.opusQueue.map OpusPacket.sequence =
        (range' start (last + 1 - start)).map (numberAt first) ∧
      ∀ again, Hearing senderId again.1 → again.2 ≤ last → last + depth < again.2 + 2 ^ 31 →
        ∃ same, (after.hear (sender.sendAll stream) again).participants.lookup senderId = some same ∧
          same.sequenceTracker = participant.sequenceTracker ∧
          same.opusQueue = participant.opusQueue := by
  intro last start after
  obtain ⟨⟨hearing, inside⟩, others⟩ := forall_mem_cons.mp received
  have slots : recentOpusPacketSlots = 11 := rfl
  have short := speaks.depth_le (by omega)
  have length : (stream.map Prod.fst).length = stream.length := length_map _
  have carries : ∀ position < (stream.map Prod.fst).length,
      carriedPackets ((sender.sendAll stream).getD position []) =
        withHistory (stream.map Prod.fst) depth position := by
    intro position below
    exact speaks.carries supports fresh (length ▸ below)
  have begun : HeardFrom senderId first (stream.map Prod.fst) start opening.2
      (receiver.hear (sender.sendAll stream) opening) :=
    handleAudioMessage_first hearing speaks.numberedPackets (length ▸ inside)
      (carries opening.2 (length ▸ inside)) unknown
  have heard : HeardFrom senderId first (stream.map Prod.fst) start last after :=
    hear_run speaks.numberedPackets (by omega) carries rest _ opening.2
      (by rw [length]; exact others) bridged (sub_le _ _) begun
  have bounds : opening.2 ≤ last ∧ last < stream.length := by
    apply Lists.foldl_max_bounds _ opening.2 inside
    intro position member
    obtain ⟨reception, listed, rfl⟩ := mem_map.mp member
    exact (others reception listed).2
  obtain ⟨participant, found, tracker, queue⟩ := id heard
  refine ⟨participant, found, by rw [tracker]; rfl, queue, ?_, ?_⟩
  · rw [queue, queued_sequences _ start (by
      intro offset packet there
      apply speaks.numberedPackets
      rw [getElem?_drop, getElem?_take] at there
      split at there
      · exact there
      · cases there)]
    rw [length_drop, length_take, length, min_eq_left bounds.2]
  · intro again hears before near
    obtain ⟨same, there, kept, unchanged⟩ := hear_step speaks.numberedPackets hears
      (by omega) (carries again.2 (by omega)) (.inl ⟨before, near⟩) (by omega) (by omega) heard
    rw [max_eq_left before] at kept unchanged
    exact ⟨same, there, kept.trans tracker.symm, unchanged.trans queue.symm⟩

/-- Four packets of participant 1 whose numbers wrap after the second. -/
def wrappingRow : List (Octets × Int) :=
  (range 4).map fun position => (spokenBy 1 (numberAt 0xFFFFFFFE position), 2)

theorem wrappingRow_speaks : Speaks 1 0xFFFFFFFE 2 wrappingRow where
  positive := by decide
  numbered := by
    intro position entry found
    obtain ⟨place, listed, rfl⟩ := Option.map_eq_some_iff.mp (getElem?_map ▸ found)
    obtain ⟨inside, rfl⟩ := List.getElem?_eq_some_iff.mp listed
    refine ⟨⟨1, numberAt 0xFFFFFFFE position, 48000, 480, 3, 1, audioCodecOpus, 0⟩, ?_⟩
    revert inside
    revert position
    decide +kernel
  fits := by decide +kernel

/-- Only the first and the last datagram arrive, the last twice. -/
theorem redundancy_recovers_wrappingRow :
    ∃ participant, (Run.run (hear (listener.sendAll wrappingRow)) (initial {} none)
          [(quietAmbient, 0), (quietAmbient, 3), (quietAmbient, 3)]).participants.lookup 1 =
        some participant ∧
      participant.sequenceTracker.unresolvedGaps = 0 ∧
      participant.opusQueue.map OpusPacket.sequence = [0xFFFFFFFE, 0xFFFFFFFF, 0, 1] := by
  have hearing : Hearing 1 quietAmbient := ⟨by decide, rfl, fun _ _ => rfl⟩
  have facts : listener.joinSession.serverSupports audioCapRedundancy = true ∧
      listener.recentOpusAudioPackets = [] := by
    decide +kernel
  obtain ⟨participant, found, gaps, -, numbers, -⟩ :=
    redundancy_recovers listener (initial {} none) 1 0xFFFFFFFE 2 wrappingRow (quietAmbient, 0)
      [(quietAmbient, 3), (quietAmbient, 3)] wrappingRow_speaks facts.1 facts.2
      (Store.lookup_empty 1) (by simp [hearing, wrappingRow]) (by simp [Bridged])
  exact ⟨participant, found, gaps, numbers⟩

end Client
end Sesivo
