import Sesivo.Client.Playout

set_option autoImplicit false

/- The counter the two threads share: it is the number of packets there are, and nothing is
ever taken from it when it is zero. -/

namespace Sesivo

open List

namespace ParticipantOpusPacketQueue

variable (queue : ParticipantOpusPacketQueue) (publicationsOpen : Bool)

def discardOldestActualPacket : Bool × ParticipantOpusPacketQueue :=
  let drained := queue.drainIncomingForPlayout publicationsOpen
  match drained.unsequenced with
  | _ :: rest =>
    (true, { drained with unsequenced := rest, bufferedCount := drained.bufferedCount.decrement })
  | [] =>
    if drained.sequenced = [] then (false, drained)
    else
      (true,
        { drained with
          sequenced := eraseSequencedAt drained.sequenced (earliestIndex drained.sequenced)
          bufferedCount := drained.bufferedCount.decrement })

/-- No two packets in the store have one number, and there are not too many. -/
structure Stored : Prop where
  distinct : (queue.sequenced.map (·.sequence)).Nodup
  few : queue.sequenced.length ≤ maxOpusQueueSize

variable {queue} {before after : ParticipantOpusPacketQueue}

theorem Stored.of_le (stored : before.Stored)
    (fewer : (after.sequenced : Multiset ReceivedPacket) ≤ before.sequenced) : after.Stored where
  distinct := Multiset.nodup_of_le (Multiset.map_le_map fewer) stored.distinct
  few := (Multiset.card_le_card fewer).trans stored.few

theorem eraseSequencedAt_le {packets : List ReceivedPacket} {index : ℕ} {packet : ReceivedPacket}
    (found : packets[index]? = some packet) :
    (eraseSequencedAt packets index : Multiset ReceivedPacket) ≤ packets := by
  rw [← cons_eraseSequencedAt found]
  exact Multiset.le_cons_self _ _

theorem drainPacket_stored (queue : ParticipantOpusPacketQueue) (packet : ReceivedPacket)
    (stored : queue.Stored) : (drainPacket publicationsOpen queue packet).Stored := by
  obtain ⟨distinct, few⟩ := stored
  have absent (kept : List ReceivedPacket) (sub : kept ⊆ queue.sequenced)
      (unknown : ¬ (queue.sequenced.any fun other => other.sequence = packet.sequence) = true) :
      packet.sequence ∉ kept.map (·.sequence) := by
    intro member
    obtain ⟨other, listed, same⟩ := mem_map.mp member
    exact unknown (any_eq_true.mpr ⟨other, sub listed, decide_eq_true same⟩)
  have noted (dropped : ReceivedPacket) := recordInternalReceiverDrop_eq
    { queue with bufferedCount := queue.bufferedCount.decrement } dropped publicationsOpen
  unfold drainPacket
  split
  · split <;> exact ⟨distinct, few⟩
  split
  · exact ⟨distinct, few⟩
  split
  · exact ⟨distinct, few⟩
  rename_i unknown
  split
  next full =>
    split
    · exact ⟨distinct, few⟩
    rename_i latest found
    split
    · refine ⟨?_, by simpa using few⟩
      obtain ⟨inside, -⟩ := List.getElem?_eq_some_iff.mp found
      have swapped := (set_perm_cons_eraseIdx inside packet).map (·.sequence)
      rw [swapped.nodup_iff, map_cons, nodup_cons]
      have sub := eraseIdx_sublist queue.sequenced (latestIndex queue.sequenced)
      exact ⟨absent _ sub.subset unknown, distinct.sublist (sub.map _)⟩
    · obtain ⟨_, _, equal⟩ := noted packet
      rw [equal]
      exact ⟨distinct, few⟩
  next room =>
    refine ⟨?_, by simp; omega⟩
    rw [map_append, map_singleton, ← concat_eq_append, nodup_concat]
    exact ⟨absent _ (Subset.refl _) unknown, distinct⟩

theorem drainIncomingForPlayout_stored (stored : queue.Stored) :
    (queue.drainIncomingForPlayout publicationsOpen).Stored :=
  List.foldlRecOn _ _ ⟨stored.1, stored.2⟩ fun current kept packet _ =>
    drainPacket_stored publicationsOpen current packet kept

theorem Exit.sequenced_le {result : DequeueStatus × ParticipantOpusPacketQueue}
    (exit : Exit queue result) :
    (result.2.sequenced : Multiset ReceivedPacket) ≤ queue.sequenced := by
  cases exit with
  | empty | blocked => exact le_rfl
  | stale ready => exact ready.kept
  | played _ ready found nears | abandoned ready found nears =>
    rw [← nears.sequenced] at found
    exact (eraseSequencedAt_le found).trans (nears.sequenced ▸ ready.kept)
  | waiting ready _ nears | concealed _ ready _ nears => exact nears.sequenced ▸ ready.kept

theorem discardOldestActualPacket_spec (queue : ParticipantOpusPacketQueue) :
    let drained := queue.drainIncomingForPlayout publicationsOpen
    let after := (queue.discardOldestActualPacket publicationsOpen).2
    Keeps drained after ∧ SamePlayout drained after ∧
      (after.sequenced : Multiset ReceivedPacket) ≤ drained.sequenced := by
  unfold discardOldestActualPacket
  simp only
  split
  next found => exact ⟨keeps_unsequenced found rfl rfl rfl rfl, ⟨rfl, rfl, rfl, rfl⟩, le_rfl⟩
  split
  · exact ⟨⟨le_rfl, id, id⟩, ⟨rfl, rfl, rfl, rfl⟩, le_rfl⟩
  next nonempty =>
    obtain ⟨earliest, found⟩ := earliestIndex_spec nonempty
    exact ⟨keeps_erased found rfl rfl rfl rfl, ⟨rfl, rfl, rfl, rfl⟩, eraseSequencedAt_le found⟩

end ParticipantOpusPacketQueue

open ParticipantOpusPacketQueue

/-- The calls of the queue, with the one that no thread makes today. -/
inductive OccupancyOp where
  | call (op : QueueOp)
  | discardOldest (publicationsOpen : Bool)

namespace PlayoutLog

def perform (log : PlayoutLog) : OccupancyOp → PlayoutLog
  | .call op => log.step op
  | .discardOldest publicationsOpen =>
    { log with queue := (log.queue.discardOldestActualPacket publicationsOpen).2 }

variable {log : PlayoutLog}

theorem step_stored (stored : log.queue.Stored) (op : QueueOp) : (log.step op).queue.Stored := by
  have drained (publicationsOpen : Bool) := drainIncomingForPlayout_stored publicationsOpen stored
  cases op with
  | enqueue packet maxPackets accepts =>
    simp only [step, enqueueBounded]
    split
    all_goals
      rename_i equal
      split at equal <;> cases equal
      exact ⟨stored.1, stored.2⟩
  | recordReceiverDrop packet publicationsOpen =>
    simp only [step, recordReceiverDrop]
    split <;> exact ⟨stored.1, stored.2⟩
  | takeInternalReceiverDrops => exact ⟨stored.1, stored.2⟩
  | dequeue gapWaitPackets ambient =>
    have queue : (log.dequeued gapWaitPackets ambient).queue =
        (log.queue.dequeue gapWaitPackets ambient).2 := by
      simp only [dequeued]
      split <;> rfl
    rw [step, queue]
    simp only [ParticipantOpusPacketQueue.dequeue]
    split
    · exact ⟨(drained _).1, (drained _).2⟩
    · exact (drained _).of_le (dequeueSequencedForPlayout_exit _ gapWaitPackets ambient).sequenced_le
  | latencyTrim ambient =>
    refine (drained ambient.publicationsOpen).of_le ?_
    have trim := log.queue.discardOldestActualPacketForLatencyTrim_trim ambient
    simp only [step, trimmedBy]
    generalize log.queue.discardOldestActualPacketForLatencyTrim ambient = result at trim ⊢
    generalize trimHits _ _ = hits at trim
    cases trim with
    | nothing | unsequenced => exact le_rfl
    | unstarted found | due found | early found => exact eraseSequencedAt_le found
  | localMute ambient =>
    simp only [step, discardAllForLocalMute]
    split
    all_goals
      rename_i equal
      split at equal <;> cases equal
    · exact ⟨nodup_nil, Nat.zero_le _⟩
    · exact drained ambient.publicationsOpen
  | clear => exact ⟨nodup_nil, Nat.zero_le _⟩

theorem perform_stored (log : PlayoutLog) (op : OccupancyOp)
    (sound : log.InOrder ∧ log.queue.Stored) :
    (log.perform op).InOrder ∧ (log.perform op).queue.Stored := by
  obtain ⟨order, stored⟩ := sound
  cases op with
  | call op => exact ⟨step_inOrder log op order, step_stored stored op⟩
  | discardOldest publicationsOpen =>
    have draining := log.queue.drainIncomingForPlayout_drained publicationsOpen
    have kept := drainIncomingForPlayout_stored publicationsOpen stored
    obtain ⟨keeps, same, fewer⟩ := discardOldestActualPacket_spec publicationsOpen log.queue
    exact ⟨order.requeue (draining.playout.trans same) (keeps.filed (draining.filed order.filed))
      (keeps.counted (draining.counted order.counted).1) ((Multiset.add_le_add_right
        (keeps.contents.trans draining.contents)).trans order.owned) _ _, kept.of_le fewer⟩

/-- After any calls the counter is the number of packets in the queue, none of its decrements
found it at zero, and the store has at most one packet of each number. -/
theorem occupancy_counted (ops : List OccupancyOp) :
    let log := Run.run perform {} ops
    log.queue.bufferedCount.value = log.queue.incoming.length + log.queue.unsequenced.length +
        log.queue.sequenced.length ∧
      log.queue.bufferedCount.wrapped = false ∧
      log.queue.bufferedCount.value ≤ maxOpusQueueSize + 1 ∧
      (log.queue.sequenced.map (·.sequence)).Nodup ∧
      log.queue.sequenced.length ≤ maxOpusQueueSize := by
  intro log
  obtain ⟨order, stored⟩ : log.InOrder ∧ log.queue.Stored :=
    Run.invariant perform (fun log => log.InOrder ∧ log.queue.Stored) perform_stored {} ops
      ⟨initial_unused.inOrder le_rfl, nodup_nil, Nat.zero_le _⟩
  rw [order.counted.count]
  refine ⟨?_, rfl, order.counted.bound, stored.1, stored.2⟩
  simp only [contents, Multiset.card_add, Multiset.coe_card]

end PlayoutLog

end Sesivo
