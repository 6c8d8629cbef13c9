import Mathlib.Data.Multiset.Filter
import Sesivo.Client.ArrivalTracking
import Sesivo.Client.PacketQueue

set_option autoImplicit false

/- What a dequeue can do, said once, and the order of playout: between two resets the
packets come out with increasing numbers, every real one at most once, and no more
than a few concealments in a row. Numbers are arbitrary. -/

namespace Sesivo

open Serial List BufferedCount

/-- A number that is not before another lies within half the circle after it. -/
theorem distance_le_of_not_before {next sequence : UInt32}
    (notBefore : sequenceNumberBefore sequence next = false) : distance next sequence ≤ 2 ^ 31 := by
  rw [Bool.eq_false_iff, ne_eq, sequenceNumberBefore_iff, Before] at notBefore
  have left := next.toNat_lt
  have right := sequence.toNat_lt
  rw [distance_eq] at notBefore
  rw [distance_eq]
  omega

variable {packets : List ReceivedPacket}

theorem earliestIndex_spec (nonempty : packets ≠ []) :
    ∃ packet, packets[earliestIndex packets]? = some packet := by
  cases packets with
  | nil => exact absurd rfl nonempty
  | cons first others =>
    have picked := Lists.foldl_pick_mem (fun entry earliest : ReceivedPacket × ℕ =>
        sequenceNumberBefore entry.1.sequence earliest.1.sequence) (others.zipIdx 1) (first, 0)
    have listed := mem_zipIdx_iff_getElem?.mp (show _ ∈ (first :: others).zipIdx from picked)
    exact ⟨_, listed⟩

theorem cons_eraseSequencedAt {index : ℕ} {packet : ReceivedPacket}
    (found : packets[index]? = some packet) :
    packet ::ₘ (eraseSequencedAt packets index : Multiset ReceivedPacket) = packets := by
  have nonempty : packets ≠ [] := by
    rintro rfl
    cases found
  have last := getLast?_eq_getLast_of_ne_nil nonempty
  simp only [eraseSequencedAt, last]
  exact Multiset.coe_eq_coe.mpr (Lists.cons_swapErase_perm found last)

/-- With enough fuel, just packets that are not stale are left. -/
theorem discardStaleFrom_spec (next : UInt32) (fuel : ℕ) :
    ∀ (index : ℕ) (packets : List ReceivedPacket), packets.length ≤ index + fuel →
      (∀ packet ∈ packets.take index, sequenceNumberBefore packet.sequence next = false) →
      (discardStaleFrom next fuel index packets : Multiset ReceivedPacket) ≤ packets ∧
        ∀ packet ∈ discardStaleFrom next fuel index packets,
          sequenceNumberBefore packet.sequence next = false := by
  induction fuel with
  | zero =>
    intro index packets enough fresh
    rw [take_of_length_le (by omega)] at fresh
    exact ⟨le_rfl, fresh⟩
  | succ fuel ih =>
    intro index packets enough fresh
    rw [discardStaleFrom]
    cases found : packets[index]? with
    | none =>
      rw [take_of_length_le (getElem?_eq_none_iff.mp found)] at fresh
      exact ⟨le_rfl, fresh⟩
    | some packet =>
      have inside := (List.getElem?_eq_some_iff.mp found).1
      simp only
      cases stale : sequenceNumberBefore packet.sequence next with
      | true =>
        have whole := cons_eraseSequencedAt found
        have shorter := congrArg Multiset.card whole
        rw [Multiset.card_cons, Multiset.coe_card, Multiset.coe_card] at shorter
        have nonempty : packets ≠ [] := ne_nil_of_length_pos (by omega)
        have before : (eraseSequencedAt packets index).take index = packets.take index := by
          simp only [eraseSequencedAt, getLast?_eq_getLast_of_ne_nil nonempty]
          exact Lists.take_swapErase _ inside
        obtain ⟨kept, all⟩ := ih index (eraseSequencedAt packets index) (by omega)
          (by rw [before]; exact fresh)
        refine ⟨kept.trans ?_, all⟩
        rw [← whole]
        exact Multiset.le_cons_self _ _
      | false =>
        apply ih (index + 1) packets (by omega)
        rw [take_add_one, found]
        exact forall_mem_append.mpr ⟨fresh, forall_mem_singleton.mpr stale⟩

namespace ParticipantOpusPacketQueue

/-- The packets in the queue, wherever they are. -/
def contents (queue : ParticipantOpusPacketQueue) : Multiset ReceivedPacket :=
  queue.incoming + queue.unsequenced + queue.sequenced

/-- Where playout is, or where it is going to start. -/
def playoutCursor (queue : ParticipantOpusPacketQueue) : UInt32 :=
  if queue.playoutInitialized then queue.nextPlayoutSequence
  else (queue.sequenced[earliestIndex queue.sequenced]?.map (·.sequence)).getD 0

theorem skipDropped_le (distance : ℕ) (next : UInt32) (ranges : ReceiverDroppedRanges) :
    (skipDropped distance next ranges).1 ≤ distance := by
  induction distance generalizing next ranges with
  | zero => exact le_rfl
  | succ distance ih =>
    rw [skipDropped]
    split
    · exact Nat.zero_le _
    rename_i shorter _
    have rest := ih (next + 1) shorter
    simp only
    omega

theorem skipDropped_none {distance : ℕ} {next : UInt32} {ranges : ReceiverDroppedRanges}
    (none : (skipDropped distance next ranges).1 = 0) :
    (skipDropped distance next ranges).2 = ranges := by
  cases distance with
  | zero => rfl
  | succ distance =>
    rw [skipDropped] at none ⊢
    split at none
    · rfl
    · cases none

/-- The queue when a sequenced packet is looked for: playout has started, and stale
packets are gone. -/
structure Ready (queue current : ParticipantOpusPacketQueue) : Prop where
  incoming : current.incoming = queue.incoming
  unsequenced : current.unsequenced = queue.unsequenced
  ranges : current.receiverDroppedRanges = queue.receiverDroppedRanges
  internal : current.internalReceiverDrops = queue.internalReceiverDrops
  active : current.gapLossRunActive = queue.gapLossRunActive
  packets : current.gapLossRunPackets = queue.gapLossRunPackets
  cursor : current.nextPlayoutSequence = queue.playoutCursor
  initialized : current.playoutInitialized = true
  kept : (current.sequenced : Multiset ReceivedPacket) ≤ queue.sequenced
  fresh : ∀ packet ∈ current.sequenced, distance current.nextPlayoutSequence packet.sequence ≤ 2 ^ 31
  count : current.bufferedCount =
    queue.bufferedCount.decrementTimes (queue.sequenced.length - current.sequenced.length)

theorem ready {queue : ParticipantOpusPacketQueue} (nonempty : queue.sequenced ≠ []) :
    Ready queue queue.startPlayout.discardStalePackets := by
  obtain ⟨earliest, found⟩ := earliestIndex_spec nonempty
  have started : ∃ initialized next, queue.startPlayout = { queue with
      nextPlayoutSequence := queue.playoutCursor
      playoutInitialized := true
      playoutInitializedSnapshot := initialized
      nextPlayoutSequenceSnapshot := next } := by
    unfold startPlayout playoutCursor
    rw [found]
    cases initialized : queue.playoutInitialized with
    | true =>
      refine ⟨queue.playoutInitializedSnapshot, queue.nextPlayoutSequenceSnapshot, ?_⟩
      simp only [↓reduceIte]
      rw [← initialized]
    | false => exact ⟨true, earliest.sequence, rfl⟩
  obtain ⟨initialized, next, started⟩ := started
  obtain ⟨kept, fresh⟩ := discardStaleFrom_spec queue.playoutCursor queue.sequenced.length 0
    queue.sequenced (by omega) (by simp)
  rw [started]
  exact
    { incoming := rfl
      unsequenced := rfl
      ranges := rfl
      internal := rfl
      active := rfl
      packets := rfl
      cursor := rfl
      initialized := rfl
      kept := kept
      fresh := fun packet member => distance_le_of_not_before (fresh packet member)
      count := rfl }

/-- The queue after `count` dropped packets before the target were passed over. -/
structure Nears (current : ParticipantOpusPacketQueue) (target : UInt32) (count : ℕ)
    (near : ParticipantOpusPacketQueue) : Prop where
  incoming : near.incoming = current.incoming
  unsequenced : near.unsequenced = current.unsequenced
  sequenced : near.sequenced = current.sequenced
  buffered : near.bufferedCount = current.bufferedCount
  active : near.gapLossRunActive = current.gapLossRunActive
  packets : near.gapLossRunPackets = current.gapLossRunPackets
  initialized : near.playoutInitialized = current.playoutInitialized
  skipped : skipDropped (distance current.nextPlayoutSequence target) current.nextPlayoutSequence
    current.receiverDroppedRanges = (count, near.receiverDroppedRanges)
  cursor : near.nextPlayoutSequence = current.nextPlayoutSequence + UInt32.ofNat count
  internal : near.internalReceiverDrops = current.internalReceiverDrops + count

theorem skipReceiverDrops_nears (queue : ParticipantOpusPacketQueue) (target : UInt32) :
    ∃ count, Nears queue target count (queue.skipReceiverDrops target) := by
  refine ⟨(skipDropped (distance queue.nextPlayoutSequence target) queue.nextPlayoutSequence
    queue.receiverDroppedRanges).1, ?_⟩
  have unfolded : queue.skipReceiverDrops target =
      let skipped := skipDropped (distance queue.nextPlayoutSequence target)
        queue.nextPlayoutSequence queue.receiverDroppedRanges
      if 0 < skipped.1 then
        { queue with
          receiverDroppedRanges := skipped.2
          nextPlayoutSequence := queue.nextPlayoutSequence + UInt32.ofNat skipped.1
          internalReceiverDrops := queue.internalReceiverDrops + skipped.1
          : ParticipantOpusPacketQueue }.publishPlayoutSequence.resetGapWait
      else queue := rfl
  rw [unfolded]
  simp only
  split
  · exact
      { incoming := rfl, unsequenced := rfl, sequenced := rfl, buffered := rfl, active := rfl
        packets := rfl, initialized := rfl, skipped := rfl, cursor := rfl, internal := rfl }
  rename_i nothing
  have zero := Nat.eq_zero_of_not_pos nothing
  exact
    { incoming := rfl, unsequenced := rfl, sequenced := rfl, buffered := rfl, active := rfl
      packets := rfl, initialized := rfl
      skipped := Prod.ext rfl (skipDropped_none zero)
      cursor := by rw [zero]; exact (UInt32.add_zero _).symm
      internal := by rw [zero, Nat.add_zero] }

variable {drained before after : ParticipantOpusPacketQueue} (publicationsOpen : Bool)
variable {target : UInt32} {packet : ReceivedPacket} {rest : List ReceivedPacket}

section Nears

variable {current near : ParticipantOpusPacketQueue} {count : ℕ}

theorem Nears.waited (nears : Nears current target count near) (gapWaitPackets : ℕ) :
    Nears current target count (near.shouldWaitForGap gapWaitPackets).2 := by
  have same : ∃ initialized sequence callbacks, (near.shouldWaitForGap gapWaitPackets).2 =
      { near with
        gapWaitInitialized := initialized
        gapWaitSequence := sequence
        gapWaitCallbacks := callbacks } := by
    unfold shouldWaitForGap
    split
    · exact ⟨_, _, _, rfl⟩
    simp only
    split
    · split <;> exact ⟨_, _, _, rfl⟩
    split <;> exact ⟨_, _, _, rfl⟩
  obtain ⟨initialized, sequence, callbacks, equal⟩ := same
  rw [equal]
  exact { nears with }

theorem Nears.le (nears : Nears current target count near) :
    count ≤ distance current.nextPlayoutSequence target := by
  have bound := skipDropped_le (distance current.nextPlayoutSequence target)
    current.nextPlayoutSequence current.receiverDroppedRanges
  rw [nears.skipped] at bound
  exact bound

/-- What is still to go. -/
theorem Nears.distance_eq (nears : Nears current target count near) :
    distance current.nextPlayoutSequence target =
        count + distance near.nextPlayoutSequence target ∧
      distance current.nextPlayoutSequence near.nextPlayoutSequence = count := by
  have most := nears.le
  have bound := distance_lt current.nextPlayoutSequence target
  have moved : distance current.nextPlayoutSequence near.nextPlayoutSequence = count := by
    rw [nears.cursor]
    exact distance_numberAt _ (by omega)
  have rest := @distance_of_le current.nextPlayoutSequence near.nextPlayoutSequence target (by omega)
  exact ⟨by omega, moved⟩

end Nears

/-- The ways out of a dequeue when there are no packets without a number. -/
inductive Exit (queue : ParticipantOpusPacketQueue) :
    DequeueStatus × ParticipantOpusPacketQueue → Prop where
  | empty : Exit queue (.empty, queue.resetGapWait)
  | blocked : Exit queue (.waitingForGap, queue)
  | stale {current : ParticipantOpusPacketQueue} (ready : Ready queue current) :
      Exit queue (.empty, current.resetGapWait)
  | played {current near : ParticipantOpusPacketQueue} {index count : ℕ} {next : ReceivedPacket}
      (reset : Bool) (ready : Ready queue current) (found : current.sequenced[index]? = some next)
      (nears : Nears current next.sequence count near)
      (reached : near.nextPlayoutSequence = next.sequence) :
      Exit queue (.packet { next with resetDecoder := reset }, near.playPacket index next.sequence)
  | waiting {current near : ParticipantOpusPacketQueue} {index count : ℕ} {next : ReceivedPacket}
      (ready : Ready queue current) (found : current.sequenced[index]? = some next)
      (nears : Nears current next.sequence count near) : Exit queue (.waitingForGap, near)
  | abandoned {current near : ParticipantOpusPacketQueue} {index count : ℕ} {next : ReceivedPacket}
      (ready : Ready queue current) (found : current.sequenced[index]? = some next)
      (nears : Nears current next.sequence count near) :
      Exit queue (.packet (near.abandonGap index next).1, (near.abandonGap index next).2)
  | concealed {current near : ParticipantOpusPacketQueue} {index count : ℕ} {next : ReceivedPacket}
      (now : Int) (ready : Ready queue current) (found : current.sequenced[index]? = some next)
      (nears : Nears current next.sequence count near)
      (short : near.nextPlayoutSequence ≠ next.sequence)
      (few : ¬ (near.gapLossRunActive = true ∧
        maxOpusConsecutiveGapPlcPackets ≤ near.gapLossRunPackets)) :
      Exit queue (.packet (near.concealGap next now).1, (near.concealGap next now).2)

theorem dequeueSequencedForPlayout_exit (queue : ParticipantOpusPacketQueue) (gapWaitPackets : ℕ)
    (ambient : QueueAmbient) :
    Exit queue (queue.dequeueSequencedForPlayout gapWaitPackets ambient) := by
  unfold dequeueSequencedForPlayout
  split
  · exact .empty
  rename_i nonempty
  split
  · exact .blocked
  have isReady := ready nonempty
  simp only
  split
  · exact .stale isReady
  rename_i next found
  split
  next due =>
    obtain ⟨count, nears⟩ :=
      skipReceiverDrops_nears queue.startPlayout.discardStalePackets next.sequence
    have still : queue.startPlayout.discardStalePackets.skipReceiverDrops next.sequence =
        queue.startPlayout.discardStalePackets := by
      rw [skipReceiverDrops, due, UInt32.sub_self]
      rfl
    rw [still] at nears
    exact .played false isReady found nears due.symm
  next gap =>
    obtain ⟨count, nears⟩ :=
      skipReceiverDrops_nears queue.startPlayout.discardStalePackets next.sequence
    have waited := nears.waited gapWaitPackets
    unfold dequeueAcrossGap
    simp only
    split
    next reached => exact .played true isReady found nears reached
    rename_i short
    split
    · exact .waiting isReady found waited
    split
    · exact .abandoned isReady found waited
    rename_i few
    refine .concealed ambient.now isReady found waited ?_ few
    rw [waited.cursor, ← nears.cursor]
    exact short

/-- What becomes of a packet that is drained. -/
inductive Drain (queue : ParticipantOpusPacketQueue) (packet : ReceivedPacket)
    (publicationsOpen : Bool) : ParticipantOpusPacketQueue → Prop where
  | counted (unnumbered : packet.sequenceValid = false) :
      Drain queue packet publicationsOpen
        { queue with
          bufferedCount := queue.bufferedCount.decrement
          internalReceiverDrops := queue.internalReceiverDrops + 1 }
  | unsequenced (unnumbered : packet.sequenceValid = false) :
      Drain queue packet publicationsOpen { queue with unsequenced := queue.unsequenced ++ [packet] }
  | refused :
      Drain queue packet publicationsOpen
        { queue with bufferedCount := queue.bufferedCount.decrement }
  | replaced {index : ℕ} {latest : ReceivedPacket} (numbered : packet.sequenceValid = true)
      (found : queue.sequenced[index]? = some latest) :
      Drain queue packet publicationsOpen
        { { queue with bufferedCount := queue.bufferedCount.decrement
            : ParticipantOpusPacketQueue }.recordInternalReceiverDrop latest publicationsOpen with
          sequenced := queue.sequenced.set index packet }
  | dropped (numbered : packet.sequenceValid = true) :
      Drain queue packet publicationsOpen
        ({ queue with bufferedCount := queue.bufferedCount.decrement
            : ParticipantOpusPacketQueue }.recordInternalReceiverDrop packet publicationsOpen)
  | sequenced (numbered : packet.sequenceValid = true) :
      Drain queue packet publicationsOpen { queue with sequenced := queue.sequenced ++ [packet] }

theorem drainPacket_drain (queue : ParticipantOpusPacketQueue) (packet : ReceivedPacket) :
    Drain queue packet publicationsOpen (drainPacket publicationsOpen queue packet) := by
  unfold drainPacket
  split
  next unnumbered =>
    split
    · exact .counted unnumbered
    · exact .unsequenced unnumbered
  rename_i numbered
  rw [Bool.not_eq_false] at numbered
  split
  · exact .refused
  split
  · exact .refused
  split
  · split
    · exact .refused
    rename_i latest found
    split
    · exact .replaced numbered found
    · exact .dropped numbered
  · exact .sequenced numbered

/-- Packets with a number and packets without are kept apart. -/
structure Filed (queue : ParticipantOpusPacketQueue) : Prop where
  unsequenced : ∀ packet ∈ queue.unsequenced, packet.sequenceValid = false
  sequenced : ∀ packet ∈ queue.sequenced, packet.sequenceValid = true

/-- What playout depends on besides the packets. -/
structure SamePlayout (before after : ParticipantOpusPacketQueue) : Prop where
  initialized : after.playoutInitialized = before.playoutInitialized
  cursor : after.nextPlayoutSequence = before.nextPlayoutSequence
  active : after.gapLossRunActive = before.gapLossRunActive
  packets : after.gapLossRunPackets = before.gapLossRunPackets

theorem SamePlayout.trans {first second third : ParticipantOpusPacketQueue}
    (early : SamePlayout first second) (late : SamePlayout second third) :
    SamePlayout first third where
  initialized := late.initialized.trans early.initialized
  cursor := late.cursor.trans early.cursor
  active := late.active.trans early.active
  packets := late.packets.trans early.packets

theorem recordInternalReceiverDrop_eq (queue : ParticipantOpusPacketQueue) (packet : ReceivedPacket)
    (publicationsOpen : Bool) :
    ∃ ranges internal, queue.recordInternalReceiverDrop packet publicationsOpen =
      { queue with receiverDroppedRanges := ranges, internalReceiverDrops := internal } := by
  unfold recordInternalReceiverDrop recordReceiverDrop
  split
  · exact ⟨_, _, rfl⟩
  split <;> exact ⟨_, _, rfl⟩

/-- A drained packet is placed or lost, and playout goes on as before. -/
structure Places (before : ParticipantOpusPacketQueue) (packets : Multiset ReceivedPacket)
    (after : ParticipantOpusPacketQueue) : Prop where
  incoming : after.incoming = before.incoming
  playout : SamePlayout before after
  contents : after.contents ≤ packets + before.contents
  filed : before.Filed → after.Filed
  counted : ∀ others, before.bufferedCount = ⟨(packets + before.contents).card + others, false⟩ →
    after.bufferedCount = ⟨after.contents.card + others, false⟩

theorem places_lost (queue : ParticipantOpusPacketQueue) (packet : ReceivedPacket)
    (ranges : ReceiverDroppedRanges) (internal : ℕ) :
    Places queue {packet} { queue with
      bufferedCount := queue.bufferedCount.decrement
      receiverDroppedRanges := ranges
      internalReceiverDrops := internal } := by
  refine ⟨rfl, ⟨rfl, rfl, rfl, rfl⟩, Multiset.le_add_left _ _,
    fun filed => ⟨filed.unsequenced, filed.sequenced⟩, ?_⟩
  intro others counted
  refine decrement_eq counted ?_
  simp only [contents, Multiset.card_add, Multiset.card_singleton]
  omega

theorem places_stored {queue : ParticipantOpusPacketQueue}
    (incoming : after.incoming = queue.incoming) (playout : SamePlayout queue after)
    (buffered : after.bufferedCount = queue.bufferedCount)
    (longer : after.contents = {packet} + queue.contents) (filed : queue.Filed → after.Filed) :
    Places queue {packet} after := by
  refine ⟨incoming, playout, le_of_eq longer, filed, fun others counted => ?_⟩
  rw [buffered, longer]
  exact counted

theorem Drain.places {queue : ParticipantOpusPacketQueue}
    {publicationsOpen : Bool} (drain : Drain queue packet publicationsOpen after) :
    Places queue {packet} after := by
  cases drain with
  | counted unnumbered | refused =>
    exact places_lost queue packet queue.receiverDroppedRanges _
  | dropped numbered =>
    obtain ⟨ranges, internal, equal⟩ := recordInternalReceiverDrop_eq
      { queue with bufferedCount := queue.bufferedCount.decrement } packet publicationsOpen
    rw [equal]
    exact places_lost queue packet ranges internal
  | unsequenced unnumbered =>
    refine places_stored rfl ⟨rfl, rfl, rfl, rfl⟩ rfl ?_ fun filed =>
      ⟨forall_mem_append.mpr ⟨filed.unsequenced, forall_mem_singleton.mpr unnumbered⟩,
        filed.sequenced⟩
    simp only [contents, ← Multiset.coe_add, Multiset.coe_singleton]
    ac_rfl
  | sequenced numbered =>
    refine places_stored rfl ⟨rfl, rfl, rfl, rfl⟩ rfl ?_ fun filed => ⟨filed.unsequenced,
      forall_mem_append.mpr ⟨filed.sequenced, forall_mem_singleton.mpr numbered⟩⟩
    simp only [contents, ← Multiset.coe_add, Multiset.coe_singleton]
    ac_rfl
  | @replaced index latest numbered found =>
    obtain ⟨ranges, internal, equal⟩ := recordInternalReceiverDrop_eq
      { queue with bufferedCount := queue.bufferedCount.decrement } latest publicationsOpen
    rw [equal]
    obtain ⟨inside, rfl⟩ := List.getElem?_eq_some_iff.mp found
    have swapped : (queue.sequenced.set index packet : Multiset ReceivedPacket) ≤
        {packet} + queue.sequenced := by
      rw [Multiset.coe_eq_coe.mpr (set_perm_cons_eraseIdx inside packet), Multiset.singleton_add,
        ← Multiset.cons_coe]
      apply (Multiset.cons_le_cons_iff packet).mpr
      exact Multiset.coe_le.mpr (eraseIdx_sublist _ _).subperm
    refine ⟨rfl, ⟨rfl, rfl, rfl, rfl⟩, ?_, fun filed => ⟨filed.unsequenced, ?_⟩, ?_⟩
    · have larger : (queue.incoming + queue.unsequenced : Multiset ReceivedPacket) +
          queue.sequenced.set index packet ≤
          queue.incoming + queue.unsequenced + ({packet} + queue.sequenced) :=
        Multiset.add_le_add_left swapped
      simp only [contents]
      exact larger.trans (le_of_eq (by ac_rfl))
    · intro other member
      rcases mem_or_eq_of_mem_set member with there | here
      · exact filed.sequenced other there
      · rw [here]
        exact numbered
    · intro others counted
      refine decrement_eq counted ?_
      simp only [contents, Multiset.card_add, Multiset.card_singleton, Multiset.coe_card,
        length_set]
      omega

theorem foldl_places (packets : List ReceivedPacket) :
    ∀ queue, Places queue packets (packets.foldl (drainPacket publicationsOpen) queue) := by
  induction packets with
  | nil =>
    intro queue
    refine ⟨rfl, ⟨rfl, rfl, rfl, rfl⟩, Multiset.le_add_left _ _, fun filed => filed, ?_⟩
    intro others counted
    exact counted
  | cons packet packets ih =>
    intro queue
    have first := (drainPacket_drain publicationsOpen queue packet).places
    have rest := ih (drainPacket publicationsOpen queue packet)
    refine ⟨rest.incoming.trans first.incoming, first.playout.trans rest.playout, ?_,
      fun filed => rest.filed (first.filed filed), ?_⟩
    · have larger : (packets : Multiset ReceivedPacket) +
          (drainPacket publicationsOpen queue packet).contents ≤
          packets + ({packet} + queue.contents) := Multiset.add_le_add_left first.contents
      refine rest.contents.trans (larger.trans (le_of_eq ?_))
      rw [← Multiset.cons_coe, ← Multiset.singleton_add]
      ac_rfl
    · intro others counted
      have later := first.counted (packets.length + others) (by
        rw [counted, ← Multiset.cons_coe, ← Multiset.singleton_add]
        simp only [Multiset.card_add, Multiset.coe_card]
        exact congrArg (BufferedCount.mk · false) (by omega))
      apply rest.counted
      rw [later, Multiset.card_add, Multiset.coe_card]
      exact congrArg (BufferedCount.mk · false) (by omega)

/-- The count is that of the packets and was never taken below zero, and there is room for
one more than the limit. -/
structure Counted (queue : ParticipantOpusPacketQueue) : Prop where
  count : queue.bufferedCount = ⟨queue.contents.card, false⟩
  bound : queue.contents.card ≤ maxOpusQueueSize + 1

/-- What draining does for the caller. -/
structure Drained (queue drained : ParticipantOpusPacketQueue) : Prop where
  playout : SamePlayout queue drained
  contents : drained.contents ≤ queue.contents
  filed : queue.Filed → drained.Filed
  counted : queue.Counted → drained.Counted ∧ drained.incoming = []

theorem drainIncomingForPlayout_drained (queue : ParticipantOpusPacketQueue)
    (publicationsOpen : Bool) : Drained queue (queue.drainIncomingForPlayout publicationsOpen) := by
  have places := foldl_places publicationsOpen (queue.incoming.take (maxOpusQueueSize + 1))
    { queue with incoming := queue.incoming.drop (maxOpusQueueSize + 1) }
  have whole : (queue.incoming.take (maxOpusQueueSize + 1) : Multiset ReceivedPacket) +
      { queue with incoming := queue.incoming.drop (maxOpusQueueSize + 1)
        : ParticipantOpusPacketQueue }.contents = queue.contents := by
    simp only [contents]
    rw [← add_assoc, ← add_assoc, Multiset.coe_add, take_append_drop]
  have fewer := places.contents
  rw [whole] at fewer
  refine ⟨⟨places.playout.initialized, places.playout.cursor, places.playout.active,
    places.playout.packets⟩, fewer, ?_, ?_⟩
  · intro filed
    exact places.filed ⟨filed.unsequenced, filed.sequenced⟩
  intro counted
  have exact := places.counted 0 (by rw [whole]; exact counted.count)
  have bound := counted.bound
  refine ⟨⟨exact, (Multiset.card_le_card fewer).trans bound⟩, ?_⟩
  rw [drainIncomingForPlayout, places.incoming]
  apply drop_eq_nil_of_le
  simp only [contents, Multiset.card_add, Multiset.coe_card] at bound
  omega

/-- A step of the audio thread that keeps packets where they are or loses them. -/
structure Keeps (before after : ParticipantOpusPacketQueue) : Prop where
  contents : after.contents ≤ before.contents
  filed : before.Filed → after.Filed
  counted : before.Counted → after.Counted

/-- Nothing is taken out. Playout may have started, and dropped packets may have
been passed over. -/
structure Idles (before after : ParticipantOpusPacketQueue) : Prop extends Keeps before after where
  started : after.playoutInitialized = true ∨ after = before ∨ after = before.resetGapWait
  active : after.gapLossRunActive = before.gapLossRunActive
  packets : after.gapLossRunPackets = before.gapLossRunPackets

/-- A packet with a number is taken out. -/
structure Returns (before after : ParticipantOpusPacketQueue) (packet : PlayoutPacket) : Prop
    extends Keeps before after where
  initialized : after.playoutInitialized = true
  numbered : before.Filed → packet.sequenceValid = true
  near : distance before.playoutCursor packet.sequence ≤ 2 ^ 31
  cursor : after.nextPlayoutSequence = packet.sequence + 1
  real : packet.lossConcealment = false →
    packet.toReceivedPacket ::ₘ after.contents ≤ before.contents ∧
      after.gapLossRunActive = false ∧ after.gapLossRunPackets = 0
  concealed : packet.lossConcealment = true →
    after.gapLossRunActive = true ∧ after.gapLossRunPackets = before.gapLossRunPackets + 1 ∧
      ¬ (before.gapLossRunActive = true ∧
        maxOpusConsecutiveGapPlcPackets ≤ before.gapLossRunPackets)

section Exits

variable {queue current near : ParticipantOpusPacketQueue} {index count : ℕ} {next : ReceivedPacket}

theorem Ready.keeps (ready : Ready queue current) : Keeps queue current := by
  have fewer : current.contents ≤ queue.contents := by
    simp only [contents, ready.incoming, ready.unsequenced]
    exact Multiset.add_le_add_left ready.kept
  refine ⟨fewer, fun filed => ⟨?_, ?_⟩,
    fun counted => ⟨?_, (Multiset.card_le_card fewer).trans counted.bound⟩⟩
  · rw [ready.unsequenced]
    exact filed.unsequenced
  · intro packet member
    exact filed.sequenced packet (Multiset.subset_of_le ready.kept member)
  · have shorter := Multiset.card_le_card ready.kept
    rw [ready.count]
    refine decrementTimes_eq counted.count ?_
    simp only [contents, ready.incoming, ready.unsequenced, Multiset.card_add,
      Multiset.coe_card] at shorter ⊢
    omega

theorem Nears.keeps (nears : Nears current next.sequence count near) : Keeps current near := by
  have same : near.contents = current.contents := by
    simp only [contents, nears.incoming, nears.unsequenced, nears.sequenced]
  refine ⟨le_of_eq same, fun filed => ⟨?_, ?_⟩, fun counted => ⟨?_, ?_⟩⟩
  · rw [nears.unsequenced]
    exact filed.unsequenced
  · rw [nears.sequenced]
    exact filed.sequenced
  · rw [nears.buffered, same]
    exact counted.count
  · rw [same]
    exact counted.bound

theorem Keeps.trans {first second third : ParticipantOpusPacketQueue} (early : Keeps first second)
    (late : Keeps second third) : Keeps first third where
  contents := late.contents.trans early.contents
  filed := fun filed => late.filed (early.filed filed)
  counted := fun counted => late.counted (early.counted counted)

/-- A packet is taken out and counted. -/
theorem keeps_of_cons {before after : ParticipantOpusPacketQueue}
    (whole : next ::ₘ after.contents = before.contents) (filed : before.Filed → after.Filed)
    (buffered : after.bufferedCount = before.bufferedCount.decrement) : Keeps before after := by
  have fewer : after.contents ≤ before.contents := whole ▸ Multiset.le_cons_self _ _
  refine ⟨fewer, filed, fun counted => ⟨?_, (Multiset.card_le_card fewer).trans counted.bound⟩⟩
  have count := counted.count
  rw [← whole, Multiset.card_cons] at count
  rw [buffered]
  exact decrement_eq count rfl

/-- Taking the packet at the index out of the store, with any other changes to what
playout keeps besides. -/
theorem cons_contents_erased {before after : ParticipantOpusPacketQueue}
    (found : before.sequenced[index]? = some next) (incoming : after.incoming = before.incoming)
    (unsequenced : after.unsequenced = before.unsequenced)
    (sequenced : after.sequenced = eraseSequencedAt before.sequenced index) :
    next ::ₘ after.contents = before.contents := by
  have whole := cons_eraseSequencedAt found
  simp only [contents, incoming, unsequenced, sequenced]
  rw [← whole, Multiset.add_cons]

theorem keeps_erased {before after : ParticipantOpusPacketQueue}
    (found : before.sequenced[index]? = some next) (incoming : after.incoming = before.incoming)
    (unsequenced : after.unsequenced = before.unsequenced)
    (sequenced : after.sequenced = eraseSequencedAt before.sequenced index)
    (buffered : after.bufferedCount = before.bufferedCount.decrement) : Keeps before after := by
  refine keeps_of_cons (cons_contents_erased found incoming unsequenced sequenced)
    (fun filed => ⟨?_, ?_⟩) buffered
  · rw [unsequenced]
    exact filed.unsequenced
  · intro packet member
    have there : packet ∈ (before.sequenced : Multiset ReceivedPacket) := by
      rw [← cons_eraseSequencedAt found, ← sequenced]
      exact Multiset.mem_cons_of_mem member
    exact filed.sequenced packet there

end Exits

/-- Every way out takes nothing out, or a packet with a number. -/
theorem Exit.spec {queue : ParticipantOpusPacketQueue}
    {result : DequeueStatus × ParticipantOpusPacketQueue} (exit : Exit queue result) :
    (∃ packet, result.1 = .packet packet ∧ Returns queue result.2 packet) ∨
      (result.1 = .empty ∨ result.1 = .waitingForGap) ∧ Idles queue result.2 := by
  cases exit with
  | empty =>
    refine .inr ⟨.inl rfl, ⟨⟨le_rfl, ?_, ?_⟩, .inr (.inr rfl), rfl, rfl⟩⟩
    · exact fun filed => ⟨filed.unsequenced, filed.sequenced⟩
    · exact fun counted => ⟨counted.count, counted.bound⟩
  | blocked =>
    exact .inr ⟨.inr rfl,
      ⟨⟨le_rfl, fun filed => filed, fun counted => counted⟩, .inr (.inl rfl), rfl, rfl⟩⟩
  | @stale current ready =>
    have keeps := ready.keeps
    refine .inr ⟨.inl rfl, ⟨⟨keeps.contents, ?_, ?_⟩,
      .inl ready.initialized, ready.active, ready.packets⟩⟩
    · exact fun filed => ⟨(keeps.filed filed).unsequenced, (keeps.filed filed).sequenced⟩
    · exact fun counted => ⟨(keeps.counted counted).count, (keeps.counted counted).bound⟩
  | @waiting current near index count next ready found nears =>
    exact .inr ⟨.inr rfl, ⟨ready.keeps.trans nears.keeps,
      .inl (nears.initialized.trans ready.initialized), nears.active.trans ready.active,
      nears.packets.trans ready.packets⟩⟩
  | @played current near index count next reset ready found nears
  | @abandoned current near index count next ready found nears =>
    have keeps := ready.keeps.trans nears.keeps
    have there : near.sequenced[index]? = some next := by rw [nears.sequenced, found]
    refine .inl ⟨_, rfl, ⟨keeps.trans (keeps_erased there rfl rfl rfl rfl),
      nears.initialized.trans ready.initialized, ?_, ?_, rfl, fun _ => ⟨?_, rfl, rfl⟩,
      fun concealed => absurd concealed Bool.false_ne_true⟩⟩
    · exact fun filed => (ready.keeps.filed filed).sequenced next (mem_of_getElem? found)
    · rw [← ready.cursor]
      exact ready.fresh next (mem_of_getElem? found)
    · refine le_trans (le_of_eq ?_) keeps.contents
      exact cons_contents_erased there rfl rfl rfl
  | @concealed current near index count next now ready found nears short few =>
    have keeps := ready.keeps.trans nears.keeps
    refine .inl ⟨_, rfl, ⟨⟨keeps.contents, ?_, ?_⟩, nears.initialized.trans ready.initialized,
      fun _ => rfl, ?_, rfl, fun real => absurd real.symm Bool.false_ne_true,
      fun _ => ⟨rfl, ?_, ?_⟩⟩⟩
    · exact fun filed => ⟨(keeps.filed filed).unsequenced, (keeps.filed filed).sequenced⟩
    · exact fun counted => ⟨(keeps.counted counted).count, (keeps.counted counted).bound⟩
    · have moved := nears.distance_eq
      have bound := ready.fresh next (mem_of_getElem? found)
      show distance queue.playoutCursor near.nextPlayoutSequence ≤ 2 ^ 31
      rw [← ready.cursor]
      omega
    · show near.gapLossRunPackets + 1 = _
      rw [nears.packets, ready.packets]
    · rw [← ready.active, ← ready.packets, ← nears.active, ← nears.packets]
      exact few

theorem cons_contents_unsequenced
    (found : before.unsequenced = packet :: rest) (incoming : after.incoming = before.incoming)
    (unsequenced : after.unsequenced = rest) (sequenced : after.sequenced = before.sequenced) :
    packet ::ₘ after.contents = before.contents := by
  simp only [contents, incoming, unsequenced, sequenced, found]
  rw [← Multiset.cons_coe, Multiset.add_cons, Multiset.cons_add]

theorem keeps_unsequenced (found : before.unsequenced = packet :: rest)
    (incoming : after.incoming = before.incoming) (unsequenced : after.unsequenced = rest)
    (sequenced : after.sequenced = before.sequenced)
    (buffered : after.bufferedCount = before.bufferedCount.decrement) : Keeps before after := by
  refine keeps_of_cons (cons_contents_unsequenced found incoming unsequenced sequenced)
    (fun filed => ⟨?_, ?_⟩) buffered
  · intro other member
    apply filed.unsequenced
    rw [found]
    rw [unsequenced] at member
    exact mem_cons_of_mem _ member
  · rw [sequenced]
    exact filed.sequenced

/-- Whether the packet a trim is about to drop is the one that is due. -/
def trimHits (drained : ParticipantOpusPacketQueue) (ambient : QueueAmbient) : Bool :=
  !ambient.publishing && drained.unsequenced.isEmpty && drained.playoutInitialized &&
    drained.sequenced[earliestIndex drained.sequenced]?.map (·.sequence) =
      some drained.nextPlayoutSequence

/-- What a trim does to the drained queue, and whether it moves playout. -/
inductive Trim (drained : ParticipantOpusPacketQueue) :
    Bool → Option Bool × ParticipantOpusPacketQueue → Prop where
  | nothing : Trim drained false (none, drained)
  | unsequenced {packet : ReceivedPacket} {rest : List ReceivedPacket}
      (found : drained.unsequenced = packet :: rest) :
      Trim drained false
        (some true,
          { drained with unsequenced := rest, bufferedCount := drained.bufferedCount.decrement })
  | unstarted {index : ℕ} {earliest : ReceivedPacket}
      (found : drained.sequenced[index]? = some earliest)
      (unstarted : drained.playoutInitialized = false) :
      Trim drained false
        (some true,
          { drained with
            sequenced := eraseSequencedAt drained.sequenced index
            bufferedCount := drained.bufferedCount.decrement })
  | due {index : ℕ} {earliest : ReceivedPacket}
      (found : drained.sequenced[index]? = some earliest)
      (started : drained.playoutInitialized = true)
      (next : earliest.sequence = drained.nextPlayoutSequence) :
      Trim drained true
        (some true,
          { drained with
            sequenced := eraseSequencedAt drained.sequenced index
            bufferedCount := drained.bufferedCount.decrement
            nextPlayoutSequence := earliest.sequence + 1
            : ParticipantOpusPacketQueue }.resetGapWait.publishPlayoutSequence)
  | early {index : ℕ} {earliest : ReceivedPacket}
      (found : drained.sequenced[index]? = some earliest)
      (started : drained.playoutInitialized = true) :
      Trim drained false
        (some false,
          { drained with
            sequenced := eraseSequencedAt drained.sequenced index
            bufferedCount := drained.bufferedCount.decrement
            receiverDroppedRanges := drained.receiverDroppedRanges.record earliest.sequence })

theorem discardOldestActualPacketForLatencyTrim_trim (queue : ParticipantOpusPacketQueue)
    (ambient : QueueAmbient) :
    Trim (queue.drainIncomingForPlayout ambient.publicationsOpen)
      ((queue.drainIncomingForPlayout ambient.publicationsOpen).trimHits ambient)
      (queue.discardOldestActualPacketForLatencyTrim ambient) := by
  unfold discardOldestActualPacketForLatencyTrim
  generalize queue.drainIncomingForPlayout ambient.publicationsOpen = drained
  have trims {hits : Bool} {result : Option Bool × ParticipantOpusPacketQueue}
      (trim : Trim drained hits result) (same : drained.trimHits ambient = hits) :
      Trim drained (drained.trimHits ambient) result := same ▸ trim
  simp only
  split
  next publishing => exact trims .nothing (by simp [trimHits, publishing])
  rename_i quiet
  split
  next packet rest unnumbered =>
    exact trims (.unsequenced unnumbered) (by simp [trimHits, unnumbered])
  rename_i none
  split
  next nothing => exact trims .nothing (by simp [trimHits, nothing])
  rename_i earliest found
  split
  next unstarted => exact trims (.unstarted found unstarted) (by simp [trimHits, unstarted])
  rename_i started
  rw [Bool.not_eq_false] at started
  split
  next next =>
    exact trims (.due found started next) (by simp [trimHits, quiet, none, started, found, next])
  next early => exact trims (.early found started) (by simp [trimHits, found, early])

/-- A trim loses packets, and moves playout just over the packet that was due. -/
theorem Trim.spec {hits : Bool}
    {result : Option Bool × ParticipantOpusPacketQueue} (trim : Trim drained hits result) :
    Keeps drained result.2 ∧ result.2.playoutInitialized = drained.playoutInitialized ∧
      result.2.gapLossRunActive = drained.gapLossRunActive ∧
      result.2.gapLossRunPackets = drained.gapLossRunPackets ∧
      (hits = true → drained.playoutInitialized = true) ∧
      result.2.nextPlayoutSequence =
        if hits then drained.nextPlayoutSequence + 1 else drained.nextPlayoutSequence := by
  cases trim with
  | nothing =>
    exact ⟨⟨le_rfl, fun filed => filed, fun counted => counted⟩, rfl, rfl, rfl, nofun, rfl⟩
  | unsequenced found => exact ⟨keeps_unsequenced found rfl rfl rfl rfl, rfl, rfl, rfl, nofun, rfl⟩
  | unstarted found unstarted | early found started =>
    exact ⟨keeps_erased found rfl rfl rfl rfl, rfl, rfl, rfl, nofun, rfl⟩
  | due found started next =>
    refine ⟨keeps_erased found rfl rfl rfl rfl, rfl, rfl, rfl, fun _ => started, ?_⟩
    rw [if_pos rfl, ← next]
    rfl

/-- How far playout has moved since the queue was drained. -/
def advance (drained after : ParticipantOpusPacketQueue) : ℕ :=
  if after.playoutInitialized then distance drained.playoutCursor after.nextPlayoutSequence else 0

theorem Returns.advance_eq {packet : PlayoutPacket} (returns : Returns drained after packet) :
    drained.advance after = distance drained.playoutCursor packet.sequence + 1 := by
  have near := returns.near
  have one : (1 : UInt32).toNat = 1 := rfl
  rw [advance, if_pos returns.initialized, returns.cursor, distance_add, one]
  exact Nat.mod_eq_of_lt (by omega)

theorem advance_same (same : SamePlayout drained after) : drained.advance after = 0 := by
  unfold advance playoutCursor
  rw [same.initialized, same.cursor]
  split
  · exact distance_self _
  · rfl

end ParticipantOpusPacketQueue

/-- The calls of both threads. -/
inductive QueueOp where
  | enqueue (packet : ReceivedPacket) (maxPackets : ℕ) (accepts : Bool)
  | recordReceiverDrop (packet : ReceivedPacket) (publicationsOpen : Bool)
  | takeInternalReceiverDrops
  | dequeue (gapWaitPackets : ℕ) (ambient : QueueAmbient)
  | latencyTrim (ambient : QueueAmbient)
  | localMute (ambient : QueueAmbient)
  | clear

/-- A packet with a number that was taken out, where playout was before and after, and
the packet's number counted on without wrapping. -/
structure Played where
  packet : PlayoutPacket
  cursor : UInt32
  next : UInt32
  number : ℕ

/-- The queue with the history of its calls. What was played, how far playout has
moved, the dropped packets it passed over, the trims that moved it, and the numbers
that were admitted or reported are kept from one reset to the next. -/
structure PlayoutLog where
  queue : ParticipantOpusPacketQueue := {}
  admitted : List ReceivedPacket := []
  real : List ReceivedPacket := []
  played : List Played := []
  position : ℕ := 0
  skipped : ℕ := 0
  trimmed : ℕ := 0
  numbers : List UInt32 := []

namespace PlayoutLog

open ParticipantOpusPacketQueue

def numberOf (packet : ReceivedPacket) : List UInt32 :=
  if packet.sequenceValid then [packet.sequence] else []

def dequeued (log : PlayoutLog) (gapWaitPackets : ℕ) (ambient : QueueAmbient) : PlayoutLog :=
  let drained := log.queue.drainIncomingForPlayout ambient.publicationsOpen
  let result := log.queue.dequeue gapWaitPackets ambient
  let moved := { log with
    queue := result.2
    position := log.position + drained.advance result.2
    skipped := log.skipped + (result.2.internalReceiverDrops - drained.internalReceiverDrops) }
  match result.1 with
  | .packet packet =>
    { moved with
      real := if packet.lossConcealment then log.real else log.real ++ [packet.toReceivedPacket]
      played :=
        if packet.sequenceValid then
          log.played ++ [⟨packet, drained.playoutCursor, result.2.nextPlayoutSequence,
            log.position + distance drained.playoutCursor packet.sequence⟩]
        else log.played }
  | _ => moved

def trimmedBy (log : PlayoutLog) (ambient : QueueAmbient) : PlayoutLog :=
  let drained := log.queue.drainIncomingForPlayout ambient.publicationsOpen
  let after := (log.queue.discardOldestActualPacketForLatencyTrim ambient).2
  { log with
    queue := after
    position := log.position + drained.advance after
    trimmed := log.trimmed + (drained.trimHits ambient).toNat }

/-- A new history for a queue that was reset. -/
def reset (log : PlayoutLog) (queue : ParticipantOpusPacketQueue) : PlayoutLog where
  queue := queue
  admitted := log.admitted
  real := log.real

def step (log : PlayoutLog) : QueueOp → PlayoutLog
  | .enqueue packet maxPackets accepts =>
    match log.queue.enqueueBounded packet maxPackets accepts with
    | (true, queue) =>
      { log with
        queue := queue
        admitted := log.admitted ++ [packet]
        numbers := log.numbers ++ numberOf packet }
    | (false, queue) => { log with queue := queue }
  | .recordReceiverDrop packet publicationsOpen =>
    { log with
      queue := log.queue.recordReceiverDrop packet publicationsOpen
      numbers := log.numbers ++ numberOf packet }
  | .takeInternalReceiverDrops => { log with queue := log.queue.takeInternalReceiverDrops.2 }
  | .dequeue gapWaitPackets ambient => log.dequeued gapWaitPackets ambient
  | .latencyTrim ambient => log.trimmedBy ambient
  | .localMute ambient =>
    match log.queue.discardAllForLocalMute ambient with
    | (some _, queue) => log.reset queue
    | (none, queue) => { log with queue := queue }
  | .clear => log.reset log.queue.clear

/-- The order of what has been played since the last reset. -/
structure InOrder (log : PlayoutLog) : Prop where
  filed : log.queue.Filed
  counted : log.queue.Counted
  owned : log.queue.contents + log.real ≤ log.admitted
  unstarted : log.queue.playoutInitialized = false → log.played = [] ∧ log.position = 0
  unwrapped : ∃ base,
    (log.queue.playoutInitialized = true →
      numberAt base log.position = log.queue.nextPlayoutSequence) ∧
    ∀ entry ∈ log.played, numberAt base entry.number = entry.packet.sequence
  chosen : ∀ entry ∈ log.played, distance entry.cursor entry.packet.sequence ≤ 2 ^ 31 ∧
    entry.next = entry.packet.sequence + 1
  below : ∀ entry ∈ log.played, entry.number < log.position
  increasing : log.played.Pairwise fun earlier later => earlier.number < later.number
  inactive : log.queue.gapLossRunActive = false → log.queue.gapLossRunPackets = 0
  few : log.queue.gapLossRunPackets ≤ maxOpusConsecutiveGapPlcPackets
  ends : Lists.EndsAtMost (fun entry : Played => entry.packet.lossConcealment = true)
    log.queue.gapLossRunPackets log.played
  runs : Lists.RunsAtMost (fun entry : Played => entry.packet.lossConcealment = true)
    maxOpusConsecutiveGapPlcPackets log.played

theorem numberAt_add_distance {base number : UInt32} {position : ℕ}
    (here : numberAt base position = number) (target : UInt32) :
    numberAt base (position + distance number target) = target := by
  have ahead := @distance_numberAt_add base position _ (distance_lt number target)
  rw [here] at ahead
  exact distance_inj ahead

variable {log : PlayoutLog} {drained after : ParticipantOpusPacketQueue}

/-- The number of the place where playout is, or is going to start. -/
theorem InOrder.cursor (order : log.InOrder) (same : SamePlayout log.queue drained) :
    ∃ base, numberAt base log.position = drained.playoutCursor ∧
      ∀ entry ∈ log.played, numberAt base entry.number = entry.packet.sequence := by
  unfold playoutCursor
  cases started : log.queue.playoutInitialized with
  | true =>
    obtain ⟨base, here, entries⟩ := order.unwrapped
    rw [same.initialized, started, if_pos rfl, same.cursor]
    exact ⟨base, here started, entries⟩
  | false =>
    obtain ⟨none, zero⟩ := order.unstarted started
    rw [same.initialized, started, none, zero]
    refine ⟨_, UInt32.add_zero _, fun entry member => ?_⟩
    cases member

/-- A change of the queue that takes nothing out. -/
theorem InOrder.idle (order : log.InOrder) (same : SamePlayout log.queue drained)
    (fewer : after.contents ≤ log.queue.contents) (filed : after.Filed) (counted : after.Counted)
    (started : after.playoutInitialized = false → drained.playoutInitialized = false)
    (active : after.gapLossRunActive = drained.gapLossRunActive)
    (packets : after.gapLossRunPackets = drained.gapLossRunPackets) (skipped trimmed : ℕ)
    (numbers : List UInt32) :
    { log with
      queue := after
      position := log.position + drained.advance after
      skipped := skipped
      trimmed := trimmed
      numbers := numbers : PlayoutLog }.InOrder := by
  refine ⟨filed, counted, ?_, ?_, ?_, order.chosen, ?_, order.increasing, ?_, ?_, ?_, order.runs⟩
  · have larger : after.contents + log.real ≤ log.queue.contents + log.real :=
      Multiset.add_le_add_right fewer
    exact larger.trans order.owned
  · intro unstarted
    have before := order.unstarted (same.initialized ▸ started unstarted)
    refine ⟨before.1, ?_⟩
    rw [before.2, advance, unstarted]
    rfl
  · obtain ⟨base, here, entries⟩ := order.cursor same
    refine ⟨base, fun running => ?_, entries⟩
    rw [advance, if_pos running]
    exact numberAt_add_distance here _
  · intro entry member
    exact Nat.lt_add_right _ (order.below entry member)
  · intro inactive
    rw [packets, same.packets]
    exact order.inactive (same.active.symm.trans (active.symm.trans inactive))
  · rw [packets, same.packets]
    exact order.few
  · rw [packets, same.packets]
    exact order.ends

/-- The count of concealments in a row is right after a packet is taken out. -/
theorem InOrder.concealments (order : log.InOrder)
    {drained after : ParticipantOpusPacketQueue} {entry : Played}
    (same : SamePlayout log.queue drained) (returns : Returns drained after entry.packet) :
    (after.gapLossRunActive = false → after.gapLossRunPackets = 0) ∧
      after.gapLossRunPackets ≤ maxOpusConsecutiveGapPlcPackets ∧
      Lists.EndsAtMost (fun entry : Played => entry.packet.lossConcealment = true)
        after.gapLossRunPackets (log.played ++ [entry]) := by
  cases concealed : entry.packet.lossConcealment with
  | true =>
    obtain ⟨running, more, room⟩ := returns.concealed concealed
    rw [same.active, same.packets] at room
    rw [same.packets] at more
    refine ⟨?_, ?_, ?_⟩
    · intro inactive
      rw [running] at inactive
      cases inactive
    · rw [more]
      cases active : log.queue.gapLossRunActive with
      | true => exact Nat.lt_of_not_le fun many => room ⟨active, many⟩
      | false =>
        rw [order.inactive active]
        decide
    · rw [more]
      exact Lists.endsAtMost_concat entry order.ends
  | false =>
    obtain ⟨-, -, none⟩ := returns.real concealed
    rw [none]
    refine ⟨fun _ => rfl, Nat.zero_le _, Lists.endsAtMost_concat_other ?_⟩
    rw [concealed]
    exact Bool.false_ne_true

/-- A packet with a number is taken out. -/
theorem InOrder.returned (order : log.InOrder) {packet : PlayoutPacket}
    (draining : Drained log.queue drained) (returns : Returns drained after packet) (skipped : ℕ) :
    { log with
      queue := after
      position := log.position + drained.advance after
      skipped := skipped
      real := if packet.lossConcealment then log.real else log.real ++ [packet.toReceivedPacket]
      played := log.played ++ [⟨packet, drained.playoutCursor, after.nextPlayoutSequence,
        log.position + distance drained.playoutCursor packet.sequence⟩] : PlayoutLog }.InOrder := by
  obtain ⟨base, here, entries⟩ := order.cursor draining.playout
  have counted := (draining.counted order.counted).1
  have filed := draining.filed order.filed
  have none : after.playoutInitialized = false → False := by
    intro unstarted
    rw [returns.initialized] at unstarted
    cases unstarted
  obtain ⟨inactive, few, ends⟩ := @InOrder.concealments log order drained after
    ⟨packet, drained.playoutCursor, after.nextPlayoutSequence,
      log.position + distance drained.playoutCursor packet.sequence⟩ draining.playout returns
  refine ⟨returns.filed filed, returns.counted counted, ?_, fun unstarted => (none unstarted).elim,
    ⟨base, fun _ => ?_, ?_⟩, ?_, ?_, ?_, ?_, ?_, ?_, ?_⟩
  · cases concealed : packet.lossConcealment with
    | true =>
      have larger : after.contents + log.real ≤ log.queue.contents + log.real :=
        Multiset.add_le_add_right (returns.contents.trans draining.contents)
      exact larger.trans order.owned
    | false =>
      have held := (returns.real concealed).1.trans draining.contents
      have larger : packet.toReceivedPacket ::ₘ after.contents + log.real ≤
          log.queue.contents + log.real := Multiset.add_le_add_right held
      refine le_trans (le_of_eq ?_) (larger.trans order.owned)
      simp only [Bool.false_eq_true, ↓reduceIte]
      rw [← Multiset.coe_add, Multiset.coe_singleton, ← Multiset.singleton_add]
      ac_rfl
  · rw [advance, if_pos returns.initialized]
    exact numberAt_add_distance here _
  · exact forall_mem_append.mpr
      ⟨entries, forall_mem_singleton.mpr (numberAt_add_distance here _)⟩
  · exact forall_mem_append.mpr
      ⟨order.chosen, forall_mem_singleton.mpr ⟨returns.near, returns.cursor⟩⟩
  · refine forall_mem_append.mpr
      ⟨fun entry earlier => Nat.lt_add_right _ (order.below entry earlier),
      forall_mem_singleton.mpr ?_⟩
    show log.position + distance drained.playoutCursor packet.sequence <
      log.position + drained.advance after
    rw [returns.advance_eq]
    omega
  · refine pairwise_append.mpr ⟨order.increasing, pairwise_singleton _ _, ?_⟩
    intro earlier member later now
    rw [mem_singleton.mp now]
    exact Nat.lt_add_right _ (order.below earlier member)
  · exact inactive
  · exact few
  · exact ends
  · exact Lists.runsAtMost_concat order.runs (ends.mono few)

/-- A queue that holds no packets and has not started. -/
structure Unused (queue : ParticipantOpusPacketQueue) : Prop where
  contents : queue.contents = 0
  buffered : queue.bufferedCount = {}
  unstarted : queue.playoutInitialized = false
  packets : queue.gapLossRunPackets = 0

/-- A history that starts with such a queue. -/
theorem Unused.inOrder {queue : ParticipantOpusPacketQueue} (unused : Unused queue)
    {admitted real : List ReceivedPacket} (owned : (real : Multiset ReceivedPacket) ≤ admitted) :
    { queue := queue, admitted := admitted, real := real : PlayoutLog }.InOrder := by
  have nothing : ∀ packet, packet ∉ queue.contents := by
    rw [unused.contents]
    exact Multiset.notMem_zero
  have none {holds : Played → Prop} : ∀ entry ∈ ([] : List Played), holds entry := by
    intro entry member
    cases member
  refine ⟨⟨?_, ?_⟩, ⟨?_, ?_⟩, ?_, fun _ => ⟨rfl, rfl⟩, ⟨0, ?_, none⟩, none, none,
    List.Pairwise.nil, fun _ => unused.packets, ?_, Lists.endsAtMost_nil _, Lists.runsAtMost_nil _⟩
  · intro packet member
    exact absurd (Multiset.mem_add.mpr (.inl (Multiset.mem_add.mpr (.inr member)))) (nothing packet)
  · intro packet member
    exact absurd (Multiset.mem_add.mpr (.inr member)) (nothing packet)
  · rw [unused.buffered, unused.contents]
    rfl
  · rw [unused.contents]
    exact Nat.zero_le _
  · rw [unused.contents, zero_add]
    exact owned
  · intro running
    rw [unused.unstarted] at running
    cases running
  · rw [unused.packets]
    exact Nat.zero_le _

theorem initial_unused : Unused {} where
  contents := by simp [contents]
  buffered := rfl
  unstarted := rfl
  packets := rfl

theorem clear_unused {queue : ParticipantOpusPacketQueue} (counted : queue.Counted) :
    Unused queue.clear where
  contents := by simp [contents, clear, restarted, resetGapWait]
  buffered := by simp only [clear, counted.count]
  unstarted := rfl
  packets := rfl

/-- Draining has emptied what comes in, so muting leaves nothing. -/
theorem discardAllForLocalMute_unused {queue : ParticipantOpusPacketQueue} (counted : queue.Counted)
    {ambient : QueueAmbient} {discarded : ℕ}
    (muted : queue.discardAllForLocalMute ambient = (some discarded, after)) : Unused after := by
  obtain ⟨exact, none⟩ :=
    (queue.drainIncomingForPlayout_drained ambient.publicationsOpen).counted counted
  unfold discardAllForLocalMute at muted
  split at muted
  · cases muted
  obtain ⟨-, rfl⟩ := Prod.mk.inj muted
  refine ⟨?_, decrementTimes_eq exact.count ?_, rfl, rfl⟩
  · simp [contents, restarted, resetGapWait, none]
  · simp [contents, none]

/-- The queue has changed without a change of playout. -/
theorem InOrder.requeue (order : log.InOrder)
    {after : ParticipantOpusPacketQueue} (same : SamePlayout log.queue after) (filed : after.Filed)
    (counted : after.Counted) {admitted real : List ReceivedPacket}
    (owned : after.contents + real ≤ admitted) (skipped : ℕ) (numbers : List UInt32) :
    { log with
      queue := after
      admitted := admitted
      real := real
      skipped := skipped
      numbers := numbers : PlayoutLog }.InOrder where
  filed := filed
  counted := counted
  owned := owned
  unstarted := fun unstarted => order.unstarted (same.initialized ▸ unstarted)
  unwrapped := by
    obtain ⟨base, here, entries⟩ := order.unwrapped
    refine ⟨base, fun running => ?_, entries⟩
    rw [same.cursor]
    exact here (same.initialized ▸ running)
  chosen := order.chosen
  below := order.below
  increasing := order.increasing
  inactive := by
    intro inactive
    rw [same.packets]
    exact order.inactive (same.active ▸ inactive)
  few := same.packets ▸ order.few
  ends := same.packets ▸ order.ends
  runs := order.runs

theorem admissionLimit_le (queue : ParticipantOpusPacketQueue) (packet : ReceivedPacket)
    (maxPackets : ℕ) : queue.admissionLimit packet maxPackets ≤ maxOpusQueueSize + 1 := by
  unfold admissionLimit
  simp only
  split
  · omega
  split <;> omega

theorem InOrder.enqueued (order : log.InOrder) (packet : ReceivedPacket)
    (maxPackets : ℕ) (accepts : Bool) :
    (log.step (.enqueue packet maxPackets accepts)).InOrder := by
  simp only [step, enqueueBounded]
  split
  next admitted queue equal =>
    split at equal
    next room =>
      obtain ⟨-, built⟩ := Prod.mk.inj equal
      have limit := admissionLimit_le log.queue packet maxPackets
      have same : SamePlayout log.queue queue := by
        rw [← built]
        exact ⟨rfl, rfl, rfl, rfl⟩
      have filed : queue.Filed := by
        rw [← built]
        exact ⟨order.filed.unsequenced, order.filed.sequenced⟩
      have longer : queue.contents = log.queue.contents + {packet} := by
        rw [← built]
        simp only [contents, ← Multiset.coe_add, Multiset.coe_singleton]
        ac_rfl
      have count : queue.contents.card = log.queue.contents.card + 1 := by
        rw [longer, Multiset.card_add, Multiset.card_singleton]
      have held := order.counted.count
      refine order.requeue same filed ⟨?_, ?_⟩ ?_ _ _
      · rw [count, ← built, held]
      · rw [held] at room
        exact count ▸ Nat.le_trans room.2 limit
      have more : log.queue.contents + log.real + {packet} ≤ log.admitted + {packet} :=
        Multiset.add_le_add_right order.owned
      rw [longer, ← Multiset.coe_add, Multiset.coe_singleton]
      exact le_trans (le_of_eq (by ac_rfl)) more
    · cases equal
  next refused queue equal =>
    split at equal
    · cases equal
    · obtain ⟨-, rfl⟩ := Prod.mk.inj equal
      exact order

/-- The log after playout has gone on. -/
def moved (log : PlayoutLog) (drained after : ParticipantOpusPacketQueue) : PlayoutLog :=
  { log with
    queue := after
    position := log.position + drained.advance after
    skipped := log.skipped + (after.internalReceiverDrops - drained.internalReceiverDrops) }

/-- What a dequeue does: a packet without a number comes out, or one with a number, or
none. -/
theorem dequeued_cases (filed : drained.Filed) (log : PlayoutLog) (gapWaitPackets : ℕ)
    (ambient : QueueAmbient)
    (same : log.queue.drainIncomingForPlayout ambient.publicationsOpen = drained) :
    (∃ packet after, SamePlayout drained after ∧ Keeps drained after ∧
      packet ::ₘ after.contents = drained.contents ∧
      after.receiverDroppedRanges = drained.receiverDroppedRanges ∧
      log.dequeued gapWaitPackets ambient =
        { log with queue := after, real := log.real ++ [packet] }) ∨
    ∃ status after, Exit drained (status, after) ∧
      ((∃ packet, status = .packet packet ∧ Returns drained after packet ∧
        log.dequeued gapWaitPackets ambient =
          { log.moved drained after with
            real :=
              if packet.lossConcealment then log.real else log.real ++ [packet.toReceivedPacket]
            played := log.played ++ [⟨packet, drained.playoutCursor, after.nextPlayoutSequence,
              log.position + distance drained.playoutCursor packet.sequence⟩] }) ∨
        (status = .empty ∨ status = .waitingForGap) ∧ Idles drained after ∧
          log.dequeued gapWaitPackets ambient = log.moved drained after) := by
  unfold PlayoutLog.dequeued ParticipantOpusPacketQueue.dequeue
  rw [same]
  simp only
  cases unnumbered : drained.unsequenced with
  | cons packet rest =>
    have plain : packet.sequenceValid = false :=
      filed.unsequenced packet (by rw [unnumbered]; exact mem_cons_self)
    have playout : SamePlayout drained { drained with
        unsequenced := rest, bufferedCount := drained.bufferedCount.decrement } :=
      ⟨rfl, rfl, rfl, rfl⟩
    refine .inl ⟨packet, _, playout, keeps_unsequenced unnumbered rfl rfl rfl rfl,
      cons_contents_unsequenced unnumbered rfl rfl rfl, rfl, ?_⟩
    simp only [plain, Bool.false_eq_true, ↓reduceIte, advance_same playout, Nat.add_zero,
      Nat.sub_self]
  | nil =>
    have exit := drained.dequeueSequencedForPlayout_exit gapWaitPackets ambient
    refine .inr ⟨_, _, exit, ?_⟩
    rcases exit.spec with ⟨packet, taken, returns⟩ | ⟨nothing, idles⟩
    · refine .inl ⟨packet, taken, returns, ?_⟩
      rw [taken]
      simp only [returns.numbered filed, ↓reduceIte]
      rfl
    · refine .inr ⟨nothing, idles, ?_⟩
      rcases nothing with status | status <;> rw [status] <;> rfl

theorem InOrder.dequeued (order : log.InOrder) (gapWaitPackets : ℕ)
    (ambient : QueueAmbient) : (log.dequeued gapWaitPackets ambient).InOrder := by
  have draining := log.queue.drainIncomingForPlayout_drained ambient.publicationsOpen
  generalize same : log.queue.drainIncomingForPlayout ambient.publicationsOpen = drained at draining
  have filed := draining.filed order.filed
  obtain ⟨counted, -⟩ := draining.counted order.counted
  rcases dequeued_cases filed log gapWaitPackets ambient same with
    ⟨packet, after, playout, keeps, whole, -, equal⟩ |
    ⟨status, after, -, ⟨packet, -, returns, equal⟩ | ⟨-, idles, equal⟩⟩
  · rw [equal]
    refine order.requeue (draining.playout.trans playout) (keeps.filed filed)
      (keeps.counted counted) ?_ _ _
    have larger : drained.contents + log.real ≤ log.queue.contents + log.real :=
      Multiset.add_le_add_right draining.contents
    rw [← whole] at larger
    refine le_trans (le_of_eq ?_) (larger.trans order.owned)
    rw [← Multiset.coe_add, Multiset.coe_singleton, ← Multiset.singleton_add]
    ac_rfl
  · rw [equal]
    exact order.returned draining returns _
  · rw [equal]
    refine order.idle draining.playout (idles.contents.trans draining.contents)
      (idles.filed filed) (idles.counted counted) ?_ idles.active idles.packets _ _ _
    intro unstarted
    rcases idles.started with running | rfl | rfl
    · rw [running] at unstarted
      cases unstarted
    · exact unstarted
    · exact unstarted

theorem InOrder.trimmedBy (order : log.InOrder) (ambient : QueueAmbient) :
    (log.trimmedBy ambient).InOrder := by
  have draining := log.queue.drainIncomingForPlayout_drained ambient.publicationsOpen
  have trim := log.queue.discardOldestActualPacketForLatencyTrim_trim ambient
  obtain ⟨keeps, initialized, active, packets, -, -⟩ := trim.spec
  exact order.idle draining.playout (keeps.contents.trans draining.contents)
    (keeps.filed (draining.filed order.filed)) (keeps.counted (draining.counted order.counted).1)
    (fun unstarted => initialized.symm.trans unstarted) active packets _ _ _

/-- The records of dropped packets are no part of the order. -/
theorem InOrder.noted (order : log.InOrder) (ranges : ReceiverDroppedRanges)
    (internal : ℕ) (numbers : List UInt32) :
    { log with
      queue := { log.queue with
        receiverDroppedRanges := ranges, internalReceiverDrops := internal }
      numbers := numbers : PlayoutLog }.InOrder :=
  @InOrder.requeue log order
    { log.queue with receiverDroppedRanges := ranges, internalReceiverDrops := internal }
    ⟨rfl, rfl, rfl, rfl⟩ ⟨order.filed.unsequenced, order.filed.sequenced⟩
    ⟨order.counted.count, order.counted.bound⟩ log.admitted log.real order.owned log.skipped numbers

theorem step_inOrder (log : PlayoutLog) (op : QueueOp) (order : log.InOrder) :
    (log.step op).InOrder := by
  cases op with
  | enqueue packet maxPackets accepts => exact order.enqueued packet maxPackets accepts
  | recordReceiverDrop packet publicationsOpen =>
    simp only [step, recordReceiverDrop]
    split
    · exact order.noted log.queue.receiverDroppedRanges log.queue.internalReceiverDrops _
    · exact order.noted _ log.queue.internalReceiverDrops _
  | takeInternalReceiverDrops => exact order.noted log.queue.receiverDroppedRanges 0 log.numbers
  | dequeue gapWaitPackets ambient => exact order.dequeued gapWaitPackets ambient
  | latencyTrim ambient => exact order.trimmedBy ambient
  | localMute ambient =>
    have played : (log.real : Multiset ReceivedPacket) ≤ log.admitted :=
      (Multiset.le_add_left _ _).trans order.owned
    simp only [step]
    split
    next discarded after muted =>
      exact (discardAllForLocalMute_unused order.counted muted).inOrder played
    rename_i after blocked
    have draining := log.queue.drainIncomingForPlayout_drained ambient.publicationsOpen
    have same : after = log.queue.drainIncomingForPlayout ambient.publicationsOpen := by
      unfold discardAllForLocalMute at blocked
      split at blocked
      · exact (Prod.mk.inj blocked).2.symm
      · cases blocked
    have larger : after.contents + log.real ≤ log.queue.contents + log.real := by
      rw [same]
      exact Multiset.add_le_add_right draining.contents
    rw [same] at larger ⊢
    exact order.requeue draining.playout (draining.filed order.filed)
      (draining.counted order.counted).1 (larger.trans order.owned) _ _
  | clear =>
    exact (clear_unused order.counted).inOrder ((Multiset.le_add_left _ _).trans order.owned)

/-- Between two resets of the queue, however enqueues, reported drops, trims and
dequeues alternate: a packet with a number comes out within half the circle after
where playout is, and playout goes on after it; the numbers, counted on without
wrapping, increase; the real packets were admitted before, each returned once; and
there are never more than two concealments in a row. -/
theorem playout_in_order (ops : List QueueOp) :
    let log := Run.run step {} ops
    (∀ entry ∈ log.played, distance entry.cursor entry.packet.sequence ≤ 2 ^ 31 ∧
        entry.next = entry.packet.sequence + 1) ∧
      (∃ base, ∀ entry ∈ log.played, numberAt base entry.number = entry.packet.sequence) ∧
      log.played.Pairwise (fun earlier later => earlier.number < later.number) ∧
      (log.real : Multiset ReceivedPacket) ≤ log.admitted ∧
      ∀ earlier block later, log.played = earlier ++ block ++ later →
        (∀ entry ∈ block, entry.packet.lossConcealment = true) →
        block.length ≤ maxOpusConsecutiveGapPlcPackets := by
  intro log
  have order : log.InOrder := Run.invariant step InOrder step_inOrder {} ops
    (initial_unused.inOrder le_rfl)
  obtain ⟨base, -, entries⟩ := order.unwrapped
  exact ⟨order.chosen, ⟨base, entries⟩, order.increasing,
    (Multiset.le_add_left _ _).trans order.owned, order.runs⟩

end PlayoutLog

end Sesivo
