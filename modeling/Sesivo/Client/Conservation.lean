import Mathlib.Algebra.BigOperators.Group.List.Basic
import Sesivo.Lib.Arcs
import Sesivo.Client.Playout

set_option autoImplicit false

/- What becomes of every number that playout passes: a packet was returned, a
concealment stood in for it, it was given up as a gap or as a drop, skipped, or
trimmed. The queue owes an outcome for the numbers of the packets it holds and of
the drops it has on record; nothing adds to them but what comes in, so as long as
no number comes in twice, the table of ranges never counts one twice. -/

namespace Sesivo

open Serial List

namespace DroppedRange

def numbers (range : DroppedRange) : Multiset UInt32 := arc range.first range.count.toNat

variable (range : DroppedRange) {sequence : UInt32} (first count : UInt32)

theorem contains_iff (sequence : UInt32) :
    range.contains sequence = true ↔ sequence ∈ range.numbers := by
  have bound := range.count.toNat_lt
  rw [numbers, mem_arc (by omega), contains, decide_eq_true_iff, UInt32.lt_iff_toNat_lt]
  rfl

theorem numbers_of_extended {range longer : DroppedRange}
    (extended : range.extended sequence = some longer) :
    longer.numbers ≤ sequence ::ₘ range.numbers := by
  have bound := range.count.toNat_lt
  have grown (short : range.count ≠ 0xFFFFFFFF) :
      (range.count + 1).toNat = range.count.toNat + 1 := by
    have most : range.count.toNat ≠ 2 ^ 32 - 1 := by
      intro full
      exact short (UInt32.toNat_inj.mp full)
    have one : (1 : UInt32).toNat = 1 := rfl
    rw [UInt32.toNat_add, one]
    omega
  unfold DroppedRange.extended at extended
  split at extended
  · rw [← Option.some.inj extended]
    exact Multiset.le_cons_self _ _
  split at extended
  next behind =>
    obtain ⟨offset, short⟩ := behind
    have last : range.first + range.count = sequence := by
      rw [← offset, UInt32.add_comm, UInt32.sub_add_cancel]
    rw [← Option.some.inj extended, numbers, grown short, arc_concat, UInt32.ofNat_toNat, last]
    exact le_rfl
  · split at extended
    next ahead =>
      obtain ⟨offset, short⟩ := ahead
      have next : sequence + 1 = range.first := by
        rw [← offset, UInt32.add_comm, UInt32.sub_add_cancel]
      rw [← Option.some.inj extended, numbers, grown short, arc_cons, next]
      exact le_rfl
    · cases extended

def slotNumbers : Option DroppedRange → Multiset UInt32
  | none => 0
  | some range => range.numbers

theorem slotNumbers_without {range : DroppedRange} (contained : range.contains sequence = true) :
    slotNumbers (range.without sequence) ≤ range.numbers := by
  have positive : 0 < range.count.toNat := by
    rw [contains_iff] at contained
    have some_number := Multiset.card_pos_iff_exists_mem.mpr ⟨sequence, contained⟩
    rw [numbers, card_arc] at some_number
    exact some_number
  have one : (1 : UInt32).toNat = 1 := rfl
  have less : (range.count - 1).toNat + 1 = range.count.toNat := by
    rw [UInt32.toNat_sub_of_le _ _ (UInt32.le_iff_toNat_le.mpr (by omega)), one]
    omega
  unfold without
  split
  · exact Multiset.zero_le _
  split
  · rw [slotNumbers, numbers, numbers, ← less, arc_cons]
    exact Multiset.le_cons_self _ _
  split
  · show arc range.first (range.count - 1).toNat ≤ arc range.first range.count.toNat
    exact arc_le _ (by omega)
  · exact Multiset.zero_le _

/-- The numbers a span takes from the range. -/
def taken (range : DroppedRange) (first count : UInt32) : Multiset UInt32 :=
  arc range.first (range.overlap first count).toNat

theorem overlap_le :
    (range.overlap first count).toNat ≤ range.count.toNat ∧
      (0 < (range.overlap first count).toNat →
        (range.first - first).toNat + (range.overlap first count).toNat ≤ count.toNat) := by
  unfold overlap
  split
  · exact ⟨Nat.zero_le _, fun positive => absurd positive (Nat.lt_irrefl 0)⟩
  rename_i inside
  have before : range.first - first ≤ count := UInt32.le_of_lt (UInt32.not_le.mp inside)
  have rest := UInt32.toNat_sub_of_le _ _ before
  rw [UInt32.min_def]
  split
  next whole =>
    have fits := UInt32.le_iff_toNat_le.mp whole
    exact ⟨le_rfl, fun _ => by omega⟩
  next part =>
    have larger := UInt32.lt_iff_toNat_lt.mp (UInt32.not_le.mp part)
    exact ⟨by omega, fun _ => by omega⟩

/-- A span cuts a range into what it takes and the rest. -/
theorem taken_add_past :
    range.taken first count + slotNumbers (range.past first count) = range.numbers := by
  have le := (range.overlap_le first count).1
  have rest := UInt32.toNat_sub_of_le _ _ (UInt32.le_iff_toNat_le.mpr le)
  have whole : range.numbers = range.taken first count +
      arc (range.first + range.overlap first count)
        (range.count - range.overlap first count).toNat := by
    rw [taken, numbers, rest]
    have joined := arc_add range.first (range.overlap first count).toNat
      (range.count.toNat - (range.overlap first count).toNat)
    rw [Nat.add_sub_cancel' le, UInt32.ofNat_toNat] at joined
    exact joined
  rw [whole]
  unfold past
  split
  next none =>
    rw [none]
    rfl
  · rfl

theorem mem_span_of_mem_taken {range : DroppedRange} {first count number : UInt32}
    (member : number ∈ range.taken first count) : number ∈ arc first count.toNat := by
  obtain ⟨-, inside⟩ := range.overlap_le first count
  have bound := count.toNat_lt
  rw [taken, mem_arc (by omega)] at member
  have start : distance first range.first = (range.first - first).toNat := rfl
  have joined := @distance_trans first range.first number (by omega)
  rw [mem_arc (by omega)]
  omega

end DroppedRange

namespace ReceiverDroppedRanges

open DroppedRange

def slotsNumbers (slots : List (Option DroppedRange)) : Multiset UInt32 :=
  (slots.map slotNumbers).sum

variable (slot : Option DroppedRange) {sequence : UInt32} {slots : List (Option DroppedRange)}
variable (ranges : ReceiverDroppedRanges) (first count : UInt32)

theorem slotsNumbers_cons (slots : List (Option DroppedRange)) :
    slotsNumbers (slot :: slots) = slotNumbers slot + slotsNumbers slots := by
  rfl

/-- What a change adds beyond the first slot, it adds. -/
theorem slotsNumbers_cons_le {changed : List (Option DroppedRange)}
    {added : Multiset UInt32} (le : slotsNumbers changed ≤ added + slotsNumbers slots) :
    slotsNumbers (slot :: changed) ≤ added + slotsNumbers (slot :: slots) := by
  rw [slotsNumbers_cons, slotsNumbers_cons, add_left_comm]
  exact Multiset.add_le_add_left le

/-- The numbers on record, as often as they are there. -/
def numbers (ranges : ReceiverDroppedRanges) : Multiset UInt32 := slotsNumbers ranges.slots

theorem slotsNumbers_extendSlot :
    ∀ {longer}, extendSlot sequence slots = some longer →
      slotsNumbers longer ≤ {sequence} + slotsNumbers slots := by
  induction slots with
  | nil =>
    intro longer extended
    cases extended
  | cons slot slots ih =>
    intro longer extended
    cases slot with
    | none =>
      obtain ⟨rest, found, rfl⟩ := Option.map_eq_some_iff.mp extended
      exact slotsNumbers_cons_le none (ih found)
    | some range =>
      rw [extendSlot] at extended
      split at extended
      next wider grown =>
        obtain rfl := Option.some.inj extended
        rw [slotsNumbers_cons, slotsNumbers_cons, ← add_assoc, Multiset.singleton_add]
        exact Multiset.add_le_add_right (numbers_of_extended grown)
      next none =>
        obtain ⟨rest, found, rfl⟩ := Option.map_eq_some_iff.mp extended
        exact slotsNumbers_cons_le (some range) (ih found)

theorem numbers_single (sequence : UInt32) : slotNumbers (some ⟨sequence, 1⟩) = {sequence} :=
  arc_one sequence

theorem slotsNumbers_fillSlot :
    ∀ {longer}, fillSlot sequence slots = some longer →
      slotsNumbers longer ≤ {sequence} + slotsNumbers slots := by
  induction slots with
  | nil =>
    intro longer filled
    cases filled
  | cons slot slots ih =>
    intro longer filled
    cases slot with
    | none =>
      obtain rfl := Option.some.inj filled
      rw [slotsNumbers_cons, slotsNumbers_cons, numbers_single]
      exact Multiset.add_le_add_left (Multiset.le_add_left _ _)
    | some range =>
      obtain ⟨rest, found, rfl⟩ := Option.map_eq_some_iff.mp filled
      exact slotsNumbers_cons_le (some range) (ih found)

theorem slotsNumbers_set (slots : List (Option DroppedRange)) :
    ∀ index, slotsNumbers (slots.set index slot) ≤ slotNumbers slot + slotsNumbers slots := by
  induction slots with
  | nil =>
    intro index
    exact Multiset.le_add_left _ _
  | cons first slots ih =>
    intro index
    cases index with
    | zero => exact Multiset.add_le_add_left (Multiset.le_add_left _ _)
    | succ index => exact slotsNumbers_cons_le first (ih index)

/-- Recording a number adds it at most once, whatever else is lost. -/
theorem numbers_record (sequence : UInt32) :
    (ranges.record sequence).numbers ≤ {sequence} + ranges.numbers := by
  unfold numbers record
  split
  next slots extended => exact slotsNumbers_extendSlot extended
  split
  next slots filled => exact slotsNumbers_fillSlot filled
  next full =>
    rw [← numbers_single]
    exact slotsNumbers_set _ _ _

theorem slotsNumbers_consumeSlot :
    ∀ {shorter}, consumeSlot sequence slots = some shorter →
      slotsNumbers shorter ≤ slotsNumbers slots := by
  induction slots with
  | nil =>
    intro shorter consumed
    cases consumed
  | cons slot slots ih =>
    intro shorter consumed
    cases slot with
    | none =>
      obtain ⟨rest, found, rfl⟩ := Option.map_eq_some_iff.mp consumed
      exact Multiset.add_le_add_left (ih found)
    | some range =>
      rw [consumeSlot] at consumed
      split at consumed
      next contained =>
        obtain rfl := Option.some.inj consumed
        exact Multiset.add_le_add_right (slotNumbers_without contained)
      obtain ⟨rest, found, rfl⟩ := Option.map_eq_some_iff.mp consumed
      exact Multiset.add_le_add_left (ih found)

theorem numbers_consume (sequence : UInt32) :
    (ranges.consume sequence).2.numbers ≤ ranges.numbers := by
  unfold consume
  split
  next slots consumed => exact slotsNumbers_consumeSlot consumed
  · exact le_rfl

def takenSlot (first count : UInt32) : Option DroppedRange → Multiset UInt32
  | none => 0
  | some range => range.taken first count

def slotsTaken (first count : UInt32) (slots : List (Option DroppedRange)) : Multiset UInt32 :=
  (slots.map (takenSlot first count)).sum

/-- A span cuts the table into what it takes and the rest. -/
theorem slotsTaken_add_past (slots : List (Option DroppedRange)) :
    slotsTaken first count slots + slotsNumbers (slots.map fun slot => slot.bind (·.past first count)) =
      slotsNumbers slots := by
  have each : ∀ slot ∈ slots,
      takenSlot first count slot + slotNumbers (slot.bind (·.past first count)) =
        slotNumbers slot := by
    intro slot _
    cases slot with
    | none => rfl
    | some range => exact range.taken_add_past first count
  rw [slotsTaken, slotsNumbers, slotsNumbers, map_map, ← sum_map_add]
  exact congrArg sum (map_congr_left each)

theorem numbers_consumeRange : (ranges.consumeRange first count).2.numbers ≤ ranges.numbers := by
  have cut := slotsTaken_add_past first count ranges.slots
  unfold numbers
  rw [← cut]
  exact Multiset.le_add_left _ _

theorem mem_span_of_mem_slotsTaken {first count number : UInt32}
    (member : number ∈ slotsTaken first count slots) :
    number ∈ arc first count.toNat := by
  induction slots with
  | nil => cases member
  | cons slot slots ih =>
    rw [slotsTaken, map_cons, sum_cons, Multiset.mem_add] at member
    rcases member with here | later
    · cases slot with
      | none => cases here
      | some range => exact mem_span_of_mem_taken here
    · exact ih later

/-- The sum is taken modulo 2^32. -/
theorem toNat_foldl_overlap (slots : List (Option DroppedRange)) :
    ∀ start : UInt32,
      (slots.foldl (fun consumed slot => consumed + (slot.map (·.overlap first count)).getD 0)
        start).toNat = (start.toNat + (slotsTaken first count slots).card) % 2 ^ 32 := by
  induction slots with
  | nil =>
    intro start
    exact (Nat.mod_eq_of_lt start.toNat_lt).symm
  | cons slot slots ih =>
    intro start
    have size : (takenSlot first count slot).card =
        ((slot.map fun range : DroppedRange => range.overlap first count).getD 0).toNat := by
      cases slot with
      | none => rfl
      | some range => exact card_arc _ _
    have whole : (slotsTaken first count (slot :: slots)).card =
        (takenSlot first count slot).card + (slotsTaken first count slots).card := by
      rw [slotsTaken, map_cons, sum_cons, Multiset.card_add]
      rfl
    rw [foldl_cons, ih, whole, size, UInt32.toNat_add, Nat.mod_add_mod, Nat.add_assoc]

/-- While no number is there twice, a span has no more dropped numbers than numbers. -/
theorem consumeRange_le {ranges : ReceiverDroppedRanges} (distinct : ranges.numbers.Nodup)
    (first count : UInt32) : (ranges.consumeRange first count).1.toNat ≤ count.toNat := by
  have cut := slotsTaken_add_past first count ranges.slots
  have part : slotsTaken first count ranges.slots ≤ ranges.numbers := by
    unfold numbers
    rw [← cut]
    exact Multiset.le_add_right _ _
  have few := card_le_of_subset_arc (Multiset.nodup_of_le part distinct)
    (fun number member => mem_span_of_mem_slotsTaken member)
  have sum := toNat_foldl_overlap first count ranges.slots 0
  have zero : (0 : UInt32).toNat = 0 := rfl
  unfold consumeRange
  simp only
  omega

end ReceiverDroppedRanges

/-- The numbers of packets that have one. -/
def numbersOf (packets : Multiset ReceivedPacket) : Multiset UInt32 :=
  (packets.filter fun packet => packet.sequenceValid = true).map fun packet => packet.sequence

theorem numbersOf_add (left right : Multiset ReceivedPacket) :
    numbersOf (left + right) = numbersOf left + numbersOf right := by
  rw [numbersOf, Multiset.filter_add, Multiset.map_add]
  rfl

theorem numbersOf_mono {fewer packets : Multiset ReceivedPacket} (le : fewer ≤ packets) :
    numbersOf fewer ≤ numbersOf packets :=
  Multiset.map_le_map (Multiset.filter_le_filter _ le)

theorem numbersOf_valid {packet : ReceivedPacket} (numbered : packet.sequenceValid = true) :
    numbersOf {packet} = {packet.sequence} := by
  rw [numbersOf, Multiset.filter_singleton, if_pos numbered, Multiset.map_singleton]

namespace ParticipantOpusPacketQueue

open ReceiverDroppedRanges

/-- The numbers the queue still owes an outcome for. -/
def owed (queue : ParticipantOpusPacketQueue) : Multiset UInt32 :=
  numbersOf queue.contents + queue.receiverDroppedRanges.numbers

variable {queue before after : ParticipantOpusPacketQueue}
variable {result : DequeueStatus × ParticipantOpusPacketQueue} {packet : ReceivedPacket}
variable {drained : ParticipantOpusPacketQueue} {hits : Bool}

theorem owed_mono (contents : after.contents ≤ before.contents)
    (ranges : after.receiverDroppedRanges.numbers ≤ before.receiverDroppedRanges.numbers) :
    after.owed ≤ before.owed :=
  add_le_add (numbersOf_mono contents) ranges

/-- A packet that is dropped after it was admitted goes from the one to the other. -/
theorem owed_recorded {added : Multiset ReceivedPacket}
    (contents : packet ::ₘ after.contents ≤ added + before.contents)
    (ranges : after.receiverDroppedRanges.numbers ≤
      numbersOf {packet} + before.receiverDroppedRanges.numbers) :
    after.owed ≤ numbersOf added + before.owed := by
  have held := numbersOf_mono contents
  rw [← Multiset.singleton_add, numbersOf_add, numbersOf_add] at held
  calc after.owed
      ≤ numbersOf after.contents + (numbersOf {packet} + before.receiverDroppedRanges.numbers) :=
        add_le_add le_rfl ranges
    _ = numbersOf {packet} + numbersOf after.contents + before.receiverDroppedRanges.numbers := by
        ac_rfl
    _ ≤ numbersOf added + numbersOf before.contents + before.receiverDroppedRanges.numbers :=
        add_le_add held le_rfl
    _ = numbersOf added + before.owed := add_assoc _ _ _

theorem numbers_recordReceiverDrop (queue : ParticipantOpusPacketQueue) (packet : ReceivedPacket)
    (publicationsOpen : Bool) :
    (queue.recordReceiverDrop packet publicationsOpen).receiverDroppedRanges.numbers ≤
      numbersOf {packet} + queue.receiverDroppedRanges.numbers := by
  unfold recordReceiverDrop
  split
  · exact Multiset.le_add_left _ _
  rename_i allowed
  simp only [not_or, Bool.not_eq_false] at allowed
  rw [numbersOf_valid allowed.1]
  exact numbers_record _ _

theorem numbers_recordInternalReceiverDrop (queue : ParticipantOpusPacketQueue)
    (packet : ReceivedPacket) (publicationsOpen : Bool) :
    (queue.recordInternalReceiverDrop packet publicationsOpen).receiverDroppedRanges.numbers ≤
      numbersOf {packet} + queue.receiverDroppedRanges.numbers := by
  unfold recordInternalReceiverDrop
  split
  · exact Multiset.le_add_left _ _
  · exact numbers_recordReceiverDrop queue packet publicationsOpen

/-- A drained packet's number is owed for, or was counted. -/
theorem Drain.owed {publicationsOpen : Bool} (drain : Drain queue packet publicationsOpen after) :
    after.owed ≤ numbersOf {packet} + queue.owed := by
  have places := drain.places
  have held : numbersOf after.contents ≤ numbersOf {packet} + numbersOf queue.contents := by
    rw [← numbersOf_add]
    exact numbersOf_mono places.contents
  have unchanged (same : after.receiverDroppedRanges = queue.receiverDroppedRanges) :
      after.owed ≤ numbersOf {packet} + queue.owed := by
    rw [ParticipantOpusPacketQueue.owed, same, ParticipantOpusPacketQueue.owed, ← add_assoc]
    exact add_le_add held le_rfl
  cases drain with
  | counted unnumbered | unsequenced unnumbered | refused | sequenced numbered =>
    exact unchanged rfl
  | dropped numbered =>
    have recorded := numbers_recordInternalReceiverDrop
      { queue with bufferedCount := queue.bufferedCount.decrement } packet publicationsOpen
    obtain ⟨ranges, internal, equal⟩ := recordInternalReceiverDrop_eq
      { queue with bufferedCount := queue.bufferedCount.decrement } packet publicationsOpen
    rw [equal] at recorded ⊢
    refine owed_recorded ?_ recorded
    exact le_rfl
  | @replaced index latest numbered found =>
    have recorded := numbers_recordInternalReceiverDrop
      { queue with bufferedCount := queue.bufferedCount.decrement } latest publicationsOpen
    obtain ⟨ranges, internal, equal⟩ := recordInternalReceiverDrop_eq
      { queue with bufferedCount := queue.bufferedCount.decrement } latest publicationsOpen
    rw [equal] at recorded ⊢
    refine owed_recorded ?_ recorded
    -- the new packet stands where the dropped one stood
    obtain ⟨inside, rfl⟩ := List.getElem?_eq_some_iff.mp found
    have swapped : queue.sequenced[index] ::ₘ
        (queue.sequenced.set index packet : Multiset ReceivedPacket) =
        packet ::ₘ queue.sequenced := by
      rw [Multiset.coe_eq_coe.mpr (set_perm_cons_eraseIdx inside packet), ← Multiset.cons_coe,
        Multiset.cons_swap, Multiset.cons_coe,
        Multiset.coe_eq_coe.mpr (getElem_cons_eraseIdx_perm inside)]
    simp only [contents]
    rw [← Multiset.add_cons, swapped, Multiset.add_cons, Multiset.singleton_add]

theorem owed_foldl (publicationsOpen : Bool) (packets : List ReceivedPacket) :
    ∀ queue : ParticipantOpusPacketQueue,
      (packets.foldl (drainPacket publicationsOpen) queue).owed ≤ numbersOf packets + queue.owed := by
  induction packets with
  | nil =>
    intro queue
    exact Multiset.le_add_left _ _
  | cons packet packets ih =>
    intro queue
    have first := (drainPacket_drain publicationsOpen queue packet).owed
    have split : numbersOf (packet :: packets) = numbersOf {packet} + numbersOf packets := by
      rw [← numbersOf_add, Multiset.singleton_add, Multiset.cons_coe]
    calc (packets.foldl (drainPacket publicationsOpen)
            (drainPacket publicationsOpen queue packet)).owed
        ≤ numbersOf packets + (drainPacket publicationsOpen queue packet).owed := ih _
      _ ≤ numbersOf packets + (numbersOf {packet} + queue.owed) := add_le_add le_rfl first
      _ = numbersOf (packet :: packets) + queue.owed := by
          rw [split]
          ac_rfl

theorem owed_drainIncomingForPlayout (queue : ParticipantOpusPacketQueue)
    (publicationsOpen : Bool) :
    (queue.drainIncomingForPlayout publicationsOpen).owed ≤ queue.owed := by
  have drained := owed_foldl publicationsOpen (queue.incoming.take (maxOpusQueueSize + 1))
    { queue with incoming := queue.incoming.drop (maxOpusQueueSize + 1) }
  refine drained.trans (le_of_eq ?_)
  have whole : (queue.incoming : Multiset ReceivedPacket) =
      queue.incoming.take (maxOpusQueueSize + 1) + queue.incoming.drop (maxOpusQueueSize + 1) := by
    rw [Multiset.coe_add, take_append_drop]
  simp only [owed, contents]
  rw [← add_assoc, ← numbersOf_add, whole]
  congr 2
  ac_rfl

theorem numbers_skipDropped (distance : ℕ) :
    ∀ (next : UInt32) (ranges : ReceiverDroppedRanges),
      (skipDropped distance next ranges).2.numbers ≤ ranges.numbers := by
  induction distance with
  | zero =>
    intro next ranges
    exact le_rfl
  | succ distance ih =>
    intro next ranges
    have consumed := ranges.numbers_consume next
    rw [skipDropped]
    split
    · exact le_rfl
    next shorter taken =>
      rw [taken] at consumed
      exact (ih (next + 1) shorter).trans consumed

theorem Nears.numbers {current near : ParticipantOpusPacketQueue} {target : UInt32} {count : ℕ}
    (nears : Nears current target count near) :
    near.receiverDroppedRanges.numbers ≤ current.receiverDroppedRanges.numbers := by
  have fewer := numbers_skipDropped (distance current.nextPlayoutSequence target)
    current.nextPlayoutSequence current.receiverDroppedRanges
  rw [nears.skipped] at fewer
  exact fewer

theorem Exit.numbers (exit : Exit queue result) :
    result.2.receiverDroppedRanges.numbers ≤ queue.receiverDroppedRanges.numbers := by
  cases exit with
  | empty | blocked => exact le_rfl
  | stale ready => exact le_of_eq (congrArg ReceiverDroppedRanges.numbers ready.ranges)
  | played reset ready found nears reached | waiting ready found nears =>
    exact ready.ranges ▸ nears.numbers
  | abandoned ready found nears =>
    exact (numbers_consumeRange _ _ _).trans (ready.ranges ▸ nears.numbers)
  | concealed now ready found nears short few =>
    exact (numbers_consume _ _).trans (ready.ranges ▸ nears.numbers)

theorem Exit.owed (exit : Exit queue result) : result.2.owed ≤ queue.owed := by
  apply owed_mono _ exit.numbers
  rcases exit.spec with ⟨packet, -, returns⟩ | ⟨-, idles⟩
  · exact returns.contents
  · exact idles.contents

theorem abandonGap_sum
    (distinct : queue.receiverDroppedRanges.numbers.Nodup) (index : ℕ) (next : ReceivedPacket) :
    (queue.abandonGap index next).1.abandonedGapPackets.toNat +
        (queue.abandonGap index next).1.abandonedReceiverDropPackets.toNat =
      distance queue.nextPlayoutSequence next.sequence := by
  have few := consumeRange_le distinct queue.nextPlayoutSequence
    (next.sequence - queue.nextPlayoutSequence)
  have rest := UInt32.toNat_sub_of_le _ _ (UInt32.le_iff_toNat_le.mpr few)
  unfold abandonGap distance
  simp only
  omega

/-- The way of playout is accounted for: skipped drops, gaps and drops given up, and
what is returned at its end. -/
theorem Exit.ledger (exit : Exit queue result)
    (distinct : queue.receiverDroppedRanges.numbers.Nodup) :
    ∃ skipped, result.2.internalReceiverDrops = queue.internalReceiverDrops + skipped ∧
      (∀ packet, result.1 = .packet packet →
        distance queue.playoutCursor packet.sequence = skipped +
          packet.abandonedGapPackets.toNat + packet.abandonedReceiverDropPackets.toNat) ∧
      (result.1 = .empty ∨ result.1 = .waitingForGap → queue.advance result.2 = skipped) := by
  cases exit with
  | empty | blocked => exact ⟨0, rfl, nofun, fun _ => advance_same ⟨rfl, rfl, rfl, rfl⟩⟩
  | @stale current ready =>
    refine ⟨0, ready.internal, nofun, fun _ => ?_⟩
    have running : current.resetGapWait.playoutInitialized = true := ready.initialized
    rw [advance, if_pos running, ← ready.cursor]
    exact distance_self _
  | @waiting current near index count next ready found nears =>
    refine ⟨count, nears.internal.trans (by rw [ready.internal]), nofun, fun _ => ?_⟩
    rw [advance, if_pos (nears.initialized.trans ready.initialized), ← ready.cursor]
    exact nears.distance_eq.2
  | @played current near index count next reset ready found nears reached =>
    refine ⟨count, nears.internal.trans (by rw [ready.internal]), ?_, by simp⟩
    rintro _ ⟨⟩
    have moved := nears.distance_eq.1
    rw [reached, distance_self] at moved
    rw [← ready.cursor]
    exact moved
  | @abandoned current near index count next ready found nears =>
    refine ⟨count, nears.internal.trans (by rw [ready.internal]), ?_, by simp⟩
    rintro _ ⟨⟩
    have moved := nears.distance_eq.1
    have fewer : near.receiverDroppedRanges.numbers ≤ queue.receiverDroppedRanges.numbers :=
      ready.ranges ▸ nears.numbers
    have sum := abandonGap_sum (Multiset.nodup_of_le fewer distinct) index next
    rw [Nat.add_assoc, sum, ← moved, ready.cursor]
    rfl
  | @concealed current near index count next now ready found nears short few =>
    refine ⟨count, nears.internal.trans (by rw [ready.internal]), ?_, by simp⟩
    rintro _ ⟨⟩
    rw [← ready.cursor]
    exact nears.distance_eq.2

theorem Trim.owed
    {result : Option Bool × ParticipantOpusPacketQueue} (trim : Trim drained hits result)
    (filed : drained.Filed) : result.2.owed ≤ drained.owed := by
  have fewer := trim.spec.1.contents
  cases trim with
  | nothing => exact le_rfl
  | unsequenced found | unstarted found unstarted | due found started next =>
    exact owed_mono fewer le_rfl
  | @early index earliest found started =>
    have valid := filed.sequenced earliest (mem_of_getElem? found)
    have whole : earliest ::ₘ ({ drained with
        sequenced := eraseSequencedAt drained.sequenced index
        bufferedCount := drained.bufferedCount.decrement
        receiverDroppedRanges := drained.receiverDroppedRanges.record earliest.sequence
        } : ParticipantOpusPacketQueue).contents = drained.contents :=
      cons_contents_erased found rfl rfl rfl
    have recorded := drained.receiverDroppedRanges.numbers_record earliest.sequence
    rw [← numbersOf_valid valid] at recorded
    have moved := @owed_recorded drained { drained with
        sequenced := eraseSequencedAt drained.sequenced index
        bufferedCount := drained.bufferedCount.decrement
        receiverDroppedRanges := drained.receiverDroppedRanges.record earliest.sequence }
      earliest 0 (by rw [whole, zero_add]) recorded
    have none : numbersOf 0 = 0 := rfl
    rw [none, zero_add] at moved
    exact moved

theorem Trim.advance_eq
    {result : Option Bool × ParticipantOpusPacketQueue} (trim : Trim drained hits result) :
    drained.advance result.2 = hits.toNat := by
  obtain ⟨-, initialized, -, -, started, cursor⟩ := trim.spec
  have one : (1 : UInt32).toNat = 1 := rfl
  unfold advance playoutCursor
  rw [initialized, cursor]
  cases hits with
  | true =>
    rw [started rfl]
    simp only [↓reduceIte]
    rw [distance_add, distance_self, one]
    rfl
  | false =>
    split
    · exact distance_self _
    · rfl

theorem owed_unused (unused : PlayoutLog.Unused queue)
    (none : queue.receiverDroppedRanges = {}) : queue.owed = 0 := by
  have empty : ({} : ReceiverDroppedRanges).numbers = 0 := by
    simp [ReceiverDroppedRanges.numbers, slotsNumbers, DroppedRange.slotNumbers]
  rw [owed, unused.contents, none, empty]
  rfl

end ParticipantOpusPacketQueue

namespace PlayoutLog

open ParticipantOpusPacketQueue

/-- The outcomes since the last reset. -/
def outcomes (log : PlayoutLog) : ℕ :=
  log.played.length + (log.played.map fun entry => entry.packet.abandonedGapPackets.toNat).sum +
    (log.played.map fun entry => entry.packet.abandonedReceiverDropPackets.toNat).sum +
    log.skipped + log.trimmed

/-- What is owed for came in, and if nothing came in twice the way is accounted for. -/
structure Conserved (log : PlayoutLog) : Prop where
  order : log.InOrder
  owed : log.queue.owed ≤ log.numbers
  balance : log.numbers.Nodup → log.position = log.outcomes ∧
    ∀ entry ∈ log.played, entry.packet.abandonedGapPackets.toNat +
      entry.packet.abandonedReceiverDropPackets.toNat ≤ distance entry.cursor entry.packet.sequence

theorem numberOf_coe (packet : ReceivedPacket) :
    (numberOf packet : Multiset UInt32) = numbersOf {packet} := by
  unfold numberOf numbersOf
  rw [Multiset.filter_singleton]
  split
  · rfl
  · rfl

variable {log : PlayoutLog} {queue : ParticipantOpusPacketQueue}

theorem Unused.conserved (unused : Unused queue)
    (none : queue.receiverDroppedRanges = {}) {admitted real : List ReceivedPacket}
    (owned : (real : Multiset ReceivedPacket) ≤ admitted) :
    { queue := queue, admitted := admitted, real := real : PlayoutLog }.Conserved where
  order := unused.inOrder owned
  owed := le_of_eq (owed_unused unused none)
  balance := by
    intro _
    refine ⟨rfl, ?_⟩
    intro entry member
    cases member

theorem Conserved.dequeued (conserved : log.Conserved) (gapWaitPackets : ℕ)
    (ambient : QueueAmbient) : (log.dequeued gapWaitPackets ambient).Conserved := by
  have order := conserved.order.dequeued gapWaitPackets ambient
  have draining := log.queue.drainIncomingForPlayout_drained ambient.publicationsOpen
  have owed := (log.queue.owed_drainIncomingForPlayout ambient.publicationsOpen).trans
    conserved.owed
  generalize same : log.queue.drainIncomingForPlayout ambient.publicationsOpen = drained
    at draining owed
  rcases dequeued_cases (draining.filed conserved.order.filed) log gapWaitPackets ambient same with
    ⟨packet, after, -, keeps, -, ranges, equal⟩ | ⟨status, after, exit, result⟩
  · rw [equal] at order ⊢
    exact ⟨order, (owed_mono keeps.contents (by rw [ranges])).trans owed, conserved.balance⟩
  have still := exit.owed.trans owed
  have ledger (distinct : log.numbers.Nodup) := exit.ledger (by
    have part : drained.receiverDroppedRanges.numbers ≤ log.numbers :=
      (Multiset.le_add_left _ _).trans owed
    exact Multiset.nodup_of_le part (Multiset.coe_nodup.mpr distinct))
  rcases result with ⟨packet, taken, returns, equal⟩ | ⟨nothing, -, equal⟩
  · rw [equal] at order ⊢
    refine ⟨order, still, fun distinct => ?_⟩
    obtain ⟨balanced, bounded⟩ := conserved.balance distinct
    obtain ⟨skipped, internal, passes, -⟩ := ledger distinct
    have sum := passes packet taken
    have advanced := returns.advance_eq
    refine ⟨?_, forall_mem_append.mpr ⟨bounded, forall_mem_singleton.mpr ?_⟩⟩
    · simp only [outcomes, moved, length_append, length_singleton, map_append, map_singleton,
        sum_append, sum_singleton] at balanced internal ⊢
      omega
    · simp only
      omega
  · rw [equal] at order ⊢
    refine ⟨order, still, fun distinct => ?_⟩
    obtain ⟨balanced, bounded⟩ := conserved.balance distinct
    obtain ⟨skipped, internal, -, stays⟩ := ledger distinct
    have passed := stays nothing
    refine ⟨?_, bounded⟩
    simp only [outcomes, moved] at balanced internal passed ⊢
    omega

/-- The playout is where it was, and the same was played. -/
theorem Conserved.requeue {next : PlayoutLog} (conserved : log.Conserved)
    (order : next.InOrder) (owed : next.queue.owed ≤ next.numbers)
    (distinct : next.numbers.Nodup → log.numbers.Nodup) (position : next.position = log.position)
    (played : next.played = log.played) (skipped : next.skipped = log.skipped)
    (trimmed : next.trimmed = log.trimmed) : next.Conserved where
  order := order
  owed := owed
  balance := by
    intro once
    rw [outcomes, position, played, skipped, trimmed]
    exact conserved.balance (distinct once)

/-- A packet is admitted or reported. -/
theorem owed_numbered {packet : ReceivedPacket}
    (conserved : log.Conserved) (more : queue.owed ≤ numbersOf {packet} + log.queue.owed) :
    queue.owed ≤ (log.numbers ++ numberOf packet : List UInt32) := by
  rw [← Multiset.coe_add, numberOf_coe, add_comm]
  exact more.trans (add_le_add le_rfl conserved.owed)

theorem Conserved.enqueued (conserved : log.Conserved) (packet : ReceivedPacket)
    (maxPackets : ℕ) (accepts : Bool) :
    (log.step (.enqueue packet maxPackets accepts)).Conserved := by
  have order := conserved.order.enqueued packet maxPackets accepts
  simp only [step] at order ⊢
  unfold enqueueBounded at order ⊢
  by_cases room : accepts = true ∧
      log.queue.bufferedCount.value < log.queue.admissionLimit packet maxPackets
  · rw [if_pos room] at order ⊢
    refine conserved.requeue order (owed_numbered conserved ?_)
      (fun once => once.of_append_left) rfl rfl rfl rfl
    unfold ParticipantOpusPacketQueue.owed contents
    simp only [numbersOf_add, ← Multiset.coe_add, Multiset.coe_singleton]
    exact le_of_eq (by ac_rfl)
  · rw [if_neg room]
    exact conserved

theorem Conserved.recordedReceiverDrop (conserved : log.Conserved)
    (packet : ReceivedPacket) (publicationsOpen : Bool) :
    (log.step (.recordReceiverDrop packet publicationsOpen)).Conserved := by
  refine conserved.requeue (step_inOrder log _ conserved.order) (owed_numbered conserved ?_)
    (fun once => once.of_append_left) rfl rfl rfl rfl
  have same : (log.queue.recordReceiverDrop packet publicationsOpen).contents =
      log.queue.contents := by
    unfold recordReceiverDrop
    split <;> rfl
  have recorded := log.queue.numbers_recordReceiverDrop packet publicationsOpen
  show numbersOf (log.queue.recordReceiverDrop packet publicationsOpen).contents + _ ≤
    numbersOf {packet} + (numbersOf log.queue.contents + _)
  rw [same]
  exact le_trans (add_le_add le_rfl recorded) (le_of_eq (by ac_rfl))

theorem Conserved.trimmedBy (conserved : log.Conserved)
    (ambient : QueueAmbient) : (log.trimmedBy ambient).Conserved := by
  have draining := log.queue.drainIncomingForPlayout_drained ambient.publicationsOpen
  have trim := log.queue.discardOldestActualPacketForLatencyTrim_trim ambient
  have owed := (log.queue.owed_drainIncomingForPlayout ambient.publicationsOpen).trans
    conserved.owed
  refine ⟨conserved.order.trimmedBy ambient,
    (trim.owed (draining.filed conserved.order.filed)).trans owed, ?_⟩
  intro distinct
  obtain ⟨balanced, bounded⟩ := conserved.balance distinct
  refine ⟨?_, bounded⟩
  have moved := trim.advance_eq
  simp only [PlayoutLog.trimmedBy, outcomes] at balanced ⊢
  omega

theorem step_conserved (log : PlayoutLog) (op : QueueOp) (conserved : log.Conserved) :
    (log.step op).Conserved := by
  have order := step_inOrder log op conserved.order
  have owned : (log.real : Multiset ReceivedPacket) ≤ log.admitted :=
    (Multiset.le_add_left _ _).trans conserved.order.owned
  cases op with
  | enqueue packet maxPackets accepts => exact conserved.enqueued packet maxPackets accepts
  | recordReceiverDrop packet publicationsOpen =>
    exact conserved.recordedReceiverDrop packet publicationsOpen
  | takeInternalReceiverDrops =>
    exact conserved.requeue order conserved.owed (fun once => once) rfl rfl rfl rfl
  | dequeue gapWaitPackets ambient => exact conserved.dequeued gapWaitPackets ambient
  | latencyTrim ambient => exact conserved.trimmedBy ambient
  | localMute ambient =>
    simp only [step] at order ⊢
    split
    next discarded after muted =>
      have unused := discardAllForLocalMute_unused conserved.order.counted muted
      refine unused.conserved ?_ owned
      unfold discardAllForLocalMute at muted
      split at muted
      · cases muted
      · rw [← (Prod.mk.inj muted).2]
        rfl
    next after blocked =>
      rw [blocked] at order
      have same : after = log.queue.drainIncomingForPlayout ambient.publicationsOpen := by
        unfold discardAllForLocalMute at blocked
        split at blocked
        · exact (Prod.mk.inj blocked).2.symm
        · cases blocked
      have owed := (log.queue.owed_drainIncomingForPlayout ambient.publicationsOpen).trans
        conserved.owed
      exact conserved.requeue order (same ▸ owed) (fun once => once) rfl rfl rfl rfl
  | clear => exact (clear_unused conserved.order.counted).conserved rfl owned

/-- As long as no number comes in twice since the last reset, playout has moved by
exactly the packets and concealments it returned, the gaps and drops these abandoned,
the drops it skipped and the trims that moved it, and no packet abandons more than the
span before it. The table of dropped ranges may have lost numbers meanwhile: those are
counted with the gaps. -/
theorem outcomes_conserved (ops : List QueueOp) (once : (Run.run step {} ops).numbers.Nodup) :
    let log := Run.run step {} ops
    log.position = (log.played.countP fun entry => !entry.packet.lossConcealment) +
        (log.played.countP fun entry => entry.packet.lossConcealment) +
        (log.played.map fun entry => entry.packet.abandonedGapPackets.toNat).sum +
        (log.played.map fun entry => entry.packet.abandonedReceiverDropPackets.toNat).sum +
        log.skipped + log.trimmed ∧
      ∀ entry ∈ log.played, entry.packet.abandonedGapPackets.toNat +
        entry.packet.abandonedReceiverDropPackets.toNat ≤
          distance entry.cursor entry.packet.sequence := by
  intro log
  have conserved : log.Conserved := Run.invariant step Conserved step_conserved {} ops
    (initial_unused.conserved rfl le_rfl)
  obtain ⟨balanced, bounded⟩ := conserved.balance once
  refine ⟨?_, bounded⟩
  have both := length_eq_countP_add_countP (l := log.played)
    (fun entry => entry.packet.lossConcealment)
  simp only [Bool.not_eq_true, Bool.decide_eq_false] at both
  rw [outcomes] at balanced
  omega

def plainPacket (sequence : UInt32) : ReceivedPacket where
  data := []
  sequence := sequence
  sampleRate := 48000
  frameCount := 120
  channels := 1
  codec := 1
  captureServerTimeNs := 0
  timestamp := 0
  sequenceValid := true
  captureTimestampValid := false

/-- Calls around the wrap of the numbers, where 1 and 5 are reported dropped and 2, 3, 4
and 8 never come. -/
def gappyCalls : List QueueOp :=
  [.enqueue (plainPacket 0xFFFFFFFF) 8 true, .recordReceiverDrop (plainPacket 1) true,
    .recordReceiverDrop (plainPacket 5) true, .enqueue (plainPacket 0) 8 true,
    .enqueue (plainPacket 6) 8 true, .enqueue (plainPacket 7) 8 true,
    .enqueue (plainPacket 9) 8 true] ++
  replicate 5 (.dequeue 0 ⟨true, false, 0⟩) ++
  [.latencyTrim ⟨true, false, 0⟩, .dequeue 0 ⟨true, false, 0⟩, .dequeue 0 ⟨true, false, 0⟩]

theorem outcomes_conserved_gappyCalls :
    let log := Run.run step {} gappyCalls
    (log.numbers.Nodup ∧ log.played.map (fun entry => entry.packet.sequence) =
        [0xFFFFFFFF, 0, 2, 3, 6, 8, 9] ∧ log.skipped = 1 ∧ log.trimmed = 1) ∧
      log.position = (log.played.countP fun entry => !entry.packet.lossConcealment) +
        (log.played.countP fun entry => entry.packet.lossConcealment) +
        (log.played.map fun entry => entry.packet.abandonedGapPackets.toNat).sum +
        (log.played.map fun entry => entry.packet.abandonedReceiverDropPackets.toNat).sum +
        log.skipped + log.trimmed := by
  intro log
  have facts : log.numbers.Nodup ∧ log.played.map (fun entry => entry.packet.sequence) =
      [0xFFFFFFFF, 0, 2, 3, 6, 8, 9] ∧ log.skipped = 1 ∧ log.trimmed = 1 := by
    decide +kernel
  exact ⟨facts, (outcomes_conserved gappyCalls facts.1).1⟩

end PlayoutLog

end Sesivo
