import Sesivo.Client.AudioCallback

set_option autoImplicit false

/- The delivery counters against the jitter buffer. Playout moves by what is counted
as delivered, dropped or lost, by the packets that wait to be mixed and by the drops
the buffer has not handed over yet, as long as a packet that abandons others is not
taken out for one that is too old. -/

namespace Sesivo

open Serial List

namespace ParticipantOpusPacketQueue

/-- The gap has been concealed for as long as it may be. -/
def atConcealmentLimit (queue : ParticipantOpusPacketQueue) : Bool :=
  queue.gapLossRunActive && maxOpusConsecutiveGapPlcPackets ≤ queue.gapLossRunPackets

/- The drops the buffer counts itself. -/

variable (queue : ParticipantOpusPacketQueue) {packet : ReceivedPacket} {gapWaitPackets : Nat}

theorem recordInternalReceiverDrop_internal (numbered : packet.sequenceValid = true)
    (publicationsOpen : Bool) :
    (queue.recordInternalReceiverDrop packet publicationsOpen).internalReceiverDrops =
      queue.internalReceiverDrops := by
  have valid : ¬packet.sequenceValid = false := by
    rw [numbered]
    decide
  rw [recordInternalReceiverDrop, if_neg valid, recordReceiverDrop]
  split <;> rfl

theorem Drain.internal {queue after : ParticipantOpusPacketQueue}
    {publicationsOpen : Bool} (drain : Drain queue packet publicationsOpen after)
    (numbered : packet.sequenceValid = true) (filed : queue.Filed) :
    after.internalReceiverDrops = queue.internalReceiverDrops := by
  cases drain with
  | counted unnumbered =>
    rw [numbered] at unnumbered
    cases unnumbered
  | unsequenced unnumbered => rfl
  | refused => rfl
  | replaced valid found =>
    exact recordInternalReceiverDrop_internal _
      (filed.sequenced _ (mem_of_getElem? found)) publicationsOpen
  | dropped valid => exact recordInternalReceiverDrop_internal _ valid publicationsOpen
  | sequenced valid => rfl

theorem foldl_internal (publicationsOpen : Bool) (packets : List ReceivedPacket)
    (numbered : ∀ packet ∈ packets, packet.sequenceValid = true)
    (queue : ParticipantOpusPacketQueue) (filed : queue.Filed) :
    (packets.foldl (drainPacket publicationsOpen) queue).internalReceiverDrops =
      queue.internalReceiverDrops := by
  induction packets generalizing queue with
  | nil => rfl
  | cons packet packets ih =>
    have drain := drainPacket_drain publicationsOpen queue packet
    have first := drain.internal (numbered packet mem_cons_self) filed
    have rest := ih (fun other member => numbered other (mem_cons_of_mem _ member))
      (drainPacket publicationsOpen queue packet) (drain.places.filed filed)
    exact rest.trans first

theorem drainIncomingForPlayout_internal {queue : ParticipantOpusPacketQueue}
    (numbered : ∀ packet ∈ queue.incoming, packet.sequenceValid = true) (filed : queue.Filed)
    (publicationsOpen : Bool) :
    (queue.drainIncomingForPlayout publicationsOpen).internalReceiverDrops =
      queue.internalReceiverDrops :=
  foldl_internal publicationsOpen _ (fun packet member => numbered packet (mem_of_mem_take member))
    _ ⟨filed.unsequenced, filed.sequenced⟩

/- When packets are abandoned. -/

theorem startPlayout_run : queue.startPlayout.atConcealmentLimit = queue.atConcealmentLimit := by
  unfold startPlayout
  split <;> rfl

theorem skipReceiverDrops_run (sequence : UInt32) :
    (queue.skipReceiverDrops sequence).atConcealmentLimit = queue.atConcealmentLimit := by
  unfold skipReceiverDrops
  simp only
  split <;> rfl

theorem shouldWaitForGap_run (gapWaitPackets : Nat) :
    (queue.shouldWaitForGap gapWaitPackets).2.atConcealmentLimit = queue.atConcealmentLimit := by
  unfold shouldWaitForGap
  split
  · rfl
  simp only
  split <;> split <;> rfl

theorem dequeueAcrossGap_abandons {queue : ParticipantOpusPacketQueue}
    (below : queue.atConcealmentLimit = false) {now : Int} {index : Nat}
    {next : ReceivedPacket} {packet : PlayoutPacket}
    (found : (queue.dequeueAcrossGap gapWaitPackets now index next).1 = .packet packet) :
    packet.abandonedGapPackets = 0 ∧ packet.abandonedReceiverDropPackets = 0 := by
  have still : ((queue.skipReceiverDrops next.sequence).shouldWaitForGap
      gapWaitPackets).2.atConcealmentLimit = false := by
    rw [shouldWaitForGap_run, skipReceiverDrops_run, below]
  unfold dequeueAcrossGap at found
  simp only at found
  split at found
  · cases found
    exact ⟨rfl, rfl⟩
  split at found
  · cases found
  split at found
  next limit =>
    rw [atConcealmentLimit, limit.1, decide_eq_true limit.2] at still
    cases still
  · cases found
    exact ⟨rfl, rfl⟩

/-- Only at the limit of concealments a dequeue abandons packets. -/
theorem dequeue_abandons {queue : ParticipantOpusPacketQueue}
    (below : queue.atConcealmentLimit = false) {ambient : QueueAmbient}
    {packet : PlayoutPacket} (found : (queue.dequeue gapWaitPackets ambient).1 = .packet packet) :
    packet.abandonedGapPackets = 0 ∧ packet.abandonedReceiverDropPackets = 0 := by
  have draining := queue.drainIncomingForPlayout_drained ambient.publicationsOpen
  have drained_below : (queue.drainIncomingForPlayout
      ambient.publicationsOpen).atConcealmentLimit = false := by
    rw [atConcealmentLimit, draining.playout.active, draining.playout.packets]
    exact below
  unfold dequeue at found
  simp only at found
  split at found
  · cases found
    exact ⟨rfl, rfl⟩
  unfold dequeueSequencedForPlayout at found
  split at found
  · cases found
  split at found
  · cases found
  simp only at found
  split at found
  · cases found
  split at found
  · cases found
    exact ⟨rfl, rfl⟩
  refine dequeueAcrossGap_abandons ?_ found
  show ((queue.drainIncomingForPlayout
    ambient.publicationsOpen).startPlayout).atConcealmentLimit = false
  rw [startPlayout_run, drained_below]

end ParticipantOpusPacketQueue

namespace PlayoutLog

open ParticipantOpusPacketQueue

/-- All packets have a number, and none came in twice since the last reset. -/
structure Tracked (log : PlayoutLog) : Prop where
  conserved : log.Conserved
  numbered : ∀ packet ∈ log.admitted, packet.sequenceValid = true
  once : log.numbers.Nodup

theorem initial_tracked : ({} : PlayoutLog).Tracked where
  conserved := initial_unused.conserved rfl le_rfl
  numbered := by
    intro packet never
    cases never
  once := nodup_nil

variable {log : PlayoutLog}

theorem Tracked.contents (tracked : log.Tracked) {packet : ReceivedPacket}
    (member : packet ∈ log.queue.contents) : packet.sequenceValid = true := by
  have owned := (Multiset.le_add_right _ _).trans tracked.conserved.order.owned
  exact tracked.numbered packet (Multiset.mem_coe.mp (Multiset.mem_of_le owned member))

theorem Tracked.internal (tracked : log.Tracked) (publicationsOpen : Bool) :
    (log.queue.drainIncomingForPlayout publicationsOpen).internalReceiverDrops =
      log.queue.internalReceiverDrops := by
  apply drainIncomingForPlayout_internal _ tracked.conserved.order.filed
  intro packet member
  apply tracked.contents
  rw [ParticipantOpusPacketQueue.contents, Multiset.mem_add, Multiset.mem_add]
  exact .inl (.inl member)

/-- There are no packets without a number to be played first. -/
theorem Tracked.unsequenced (tracked : log.Tracked) (publicationsOpen : Bool) :
    (log.queue.drainIncomingForPlayout publicationsOpen).unsequenced = [] := by
  have draining := log.queue.drainIncomingForPlayout_drained publicationsOpen
  have filed := draining.filed tracked.conserved.order.filed
  apply eq_nil_iff_forall_not_mem.mpr
  intro packet member
  have inside : packet ∈ (log.queue.drainIncomingForPlayout publicationsOpen).contents := by
    rw [ParticipantOpusPacketQueue.contents, Multiset.mem_add, Multiset.mem_add]
    exact .inl (.inr member)
  have valid := tracked.contents (Multiset.mem_of_le draining.contents inside)
  rw [filed.unsequenced packet member] at valid
  cases valid

theorem dequeued_position (log : PlayoutLog) (gapWaitPackets : Nat) (ambient : QueueAmbient) :
    (log.step (.dequeue gapWaitPackets ambient)).position = log.position +
      (log.queue.drainIncomingForPlayout ambient.publicationsOpen).advance
        (log.queue.dequeue gapWaitPackets ambient).2 := by
  simp only [step, PlayoutLog.dequeued]
  split <;> rfl

theorem dequeued_queue (log : PlayoutLog) (gapWaitPackets : Nat) (ambient : QueueAmbient) :
    (log.step (.dequeue gapWaitPackets ambient)).queue =
      (log.queue.dequeue gapWaitPackets ambient).2 := by
  simp only [step, PlayoutLog.dequeued]
  split <;> rfl

/-- What playout moves by in a dequeue. -/
theorem Tracked.dequeued (tracked : log.Tracked) (gapWaitPackets : Nat) (ambient : QueueAmbient) :
    (∃ packet, (log.queue.dequeue gapWaitPackets ambient).1 = .packet packet ∧
      (log.step (.dequeue gapWaitPackets ambient)).queue.playoutInitialized = true ∧
      (log.step (.dequeue gapWaitPackets ambient)).position + log.queue.internalReceiverDrops =
        log.position +
          (log.step (.dequeue gapWaitPackets ambient)).queue.internalReceiverDrops + 1 +
          packet.abandonedGapPackets.toNat + packet.abandonedReceiverDropPackets.toNat) ∨
    (((log.queue.dequeue gapWaitPackets ambient).1 = .empty ∨
        (log.queue.dequeue gapWaitPackets ambient).1 = .waitingForGap) ∧
      (log.step (.dequeue gapWaitPackets ambient)).position + log.queue.internalReceiverDrops =
        log.position +
          (log.step (.dequeue gapWaitPackets ambient)).queue.internalReceiverDrops) := by
  have internal := tracked.internal ambient.publicationsOpen
  have owed := (log.queue.owed_drainIncomingForPlayout ambient.publicationsOpen).trans
    tracked.conserved.owed
  have numbered_only : log.queue.dequeue gapWaitPackets ambient =
      (log.queue.drainIncomingForPlayout ambient.publicationsOpen).dequeueSequencedForPlayout
        gapWaitPackets ambient := by
    simp only [dequeue, tracked.unsequenced]
  rw [dequeued_position, dequeued_queue, numbered_only]
  generalize log.queue.drainIncomingForPlayout ambient.publicationsOpen = drained at *
  have distinct : drained.receiverDroppedRanges.numbers.Nodup := by
    have part : drained.receiverDroppedRanges.numbers ≤ log.numbers :=
      (Multiset.le_add_left _ _).trans owed
    exact Multiset.nodup_of_le part (Multiset.coe_nodup.mpr tracked.once)
  have exit := drained.dequeueSequencedForPlayout_exit gapWaitPackets ambient
  obtain ⟨skipped, counted, passes, stays⟩ := exit.ledger distinct
  rcases exit.spec with ⟨packet, taken, returns⟩ | ⟨nothing, -⟩
  · refine .inl ⟨packet, taken, returns.initialized, ?_⟩
    have moved := returns.advance_eq
    have sum := passes packet taken
    omega
  · refine .inr ⟨nothing, ?_⟩
    have passed := stays nothing
    omega

/-- What playout moves by in a trim, once it is under way. -/
theorem Tracked.trimmed (tracked : log.Tracked) (ambient : QueueAmbient)
    (started : (log.step (.latencyTrim ambient)).queue.playoutInitialized = true) :
    (log.step (.latencyTrim ambient)).queue.internalReceiverDrops =
        log.queue.internalReceiverDrops ∧
      (log.step (.latencyTrim ambient)).position = log.position +
        match (log.queue.discardOldestActualPacketForLatencyTrim ambient).1 with
        | none => 0
        | some ready => ready.toNat := by
  have internal := tracked.internal ambient.publicationsOpen
  have none_first := tracked.unsequenced ambient.publicationsOpen
  have trim := log.queue.discardOldestActualPacketForLatencyTrim_trim ambient
  have moved := trim.advance_eq
  simp only [step, PlayoutLog.trimmedBy] at started ⊢
  rw [moved]
  generalize log.queue.drainIncomingForPlayout ambient.publicationsOpen = drained at *
  generalize drained.trimHits ambient = hits at *
  generalize log.queue.discardOldestActualPacketForLatencyTrim ambient = result at *
  cases trim with
  | nothing => exact ⟨internal, rfl⟩
  | unsequenced found =>
    rw [none_first] at found
    cases found
  | unstarted found unstarted =>
    rw [unstarted] at started
    cases started
  | due found started next => exact ⟨internal, rfl⟩
  | early found started => exact ⟨internal, rfl⟩

/-- A call that lets nothing in. -/
theorem Tracked.called (tracked : log.Tracked) (op : QueueOp)
    (admitted : (log.step op).admitted = log.admitted)
    (numbers : (log.step op).numbers.Sublist log.numbers) : (log.step op).Tracked where
  conserved := step_conserved log op tracked.conserved
  numbered := by
    rw [admitted]
    exact tracked.numbered
  once := tracked.once.sublist numbers

theorem Tracked.dequeue (tracked : log.Tracked) (gapWaitPackets : Nat) (ambient : QueueAmbient) :
    (log.step (.dequeue gapWaitPackets ambient)).Tracked := by
  apply tracked.called
  · simp only [step, PlayoutLog.dequeued]
    split <;> rfl
  · simp only [step, PlayoutLog.dequeued]
    split <;> exact List.Sublist.refl _

theorem Tracked.latencyTrim (tracked : log.Tracked) (ambient : QueueAmbient) :
    (log.step (.latencyTrim ambient)).Tracked :=
  tracked.called _ rfl (List.Sublist.refl _)

theorem Tracked.takeInternalReceiverDrops (tracked : log.Tracked) :
    (log.step .takeInternalReceiverDrops).Tracked :=
  tracked.called _ rfl (List.Sublist.refl _)

theorem Tracked.localMute (tracked : log.Tracked) (ambient : QueueAmbient) :
    (log.step (.localMute ambient)).Tracked := by
  apply tracked.called
  · simp only [step]
    split <;> rfl
  simp only [step]
  split
  · exact nil_sublist _
  · exact List.Sublist.refl _

theorem Tracked.clear (tracked : log.Tracked) : (log.step .clear).Tracked :=
  tracked.called _ rfl (nil_sublist _)

end PlayoutLog

namespace PcmDeliveryOutcomes

variable (outcomes : PcmDeliveryOutcomes)

theorem consumeChunks_pending (remaining : Nat) (chunks : List OpusPcmCaptureChunk) :
    (consumeChunks remaining chunks).1 +
        (consumeChunks remaining chunks).2.countP OpusPcmCaptureChunk.receivedMedia =
      chunks.countP OpusPcmCaptureChunk.receivedMedia := by
  induction chunks generalizing remaining with
  | nil => rfl
  | cons chunk chunks ih =>
    unfold consumeChunks
    split
    · exact Nat.zero_add _
    split
    · exact Nat.zero_add _
    have rest := ih (remaining - chunk.frames)
    rw [countP_cons]
    cases chunk.receivedMedia with
    | true =>
      simp only [Bool.toNat_true, ↓reduceIte]
      omega
    | false =>
      simp only [Bool.toNat_false, Bool.false_eq_true, ↓reduceIte]
      omega

/-- What is mixed completely is delivered, and the rest waits on. -/
theorem consume_pending (frames : Nat) :
    (outcomes.consume frames).1 + (outcomes.consume frames).2.pendingReceived =
      outcomes.pendingReceived :=
  consumeChunks_pending frames outcomes.chunks

theorem append_pending {appended : PcmDeliveryOutcomes} {frames : Nat} {receivedMedia : Bool}
    (positive : 0 < frames) (fits : outcomes.append frames receivedMedia = some appended) :
    appended.pendingReceived = outcomes.pendingReceived + receivedMedia.toNat := by
  unfold append at fits
  rw [if_neg (by omega)] at fits
  split at fits
  · cases fits
    rw [pendingReceived, countP_append, countP_singleton, pendingReceived]
    cases receivedMedia <;> rfl
  · cases fits

end PcmDeliveryOutcomes

namespace ReceiverPlayout

variable (playout : ReceiverPlayout)

variable (packet : PlayoutPacket) (frames : Nat) (receivedMedia : Bool) (count : Nat)
variable (reset : Bool) (decodedSamples : Int)

@[simp] theorem addDrops_accounted :
    (playout.addDrops count).accounted = playout.accounted + count := by
  simp only [accounted, addDrops]
  omega

@[simp] theorem addGaps_accounted :
    (playout.addGaps count).accounted = playout.accounted + count := by
  simp only [accounted, addGaps]
  omega

theorem countAbandoned_accounted :
    (playout.countAbandoned packet).accounted = playout.accounted +
      packet.abandonedReceiverDropPackets.toNat + packet.abandonedGapPackets.toNat := by
  rw [countAbandoned, addGaps_accounted, addDrops_accounted]

theorem countConcealment_accounted :
    (playout.countConcealment packet).accounted = playout.accounted + 1 := by
  unfold countConcealment
  split
  · exact playout.addDrops_accounted 1
  · exact playout.addGaps_accounted 1

theorem mixOpusPcm_accounted : (playout.mixOpusPcm frames).accounted = playout.accounted := by
  have pending := playout.opusPcmOutcomes.consume_pending (min frames playout.opusPcmBufferedFrames)
  simp only [accounted, mixOpusPcm]
  omega

theorem giveUpDecoded_accounted :
    (playout.giveUpDecoded (playout.opusPcmOutcomes.discardOverflowAsLost
      receivedMedia)).accounted = playout.accounted + receivedMedia.toNat := by
  have none_left : ({} : PcmDeliveryOutcomes).pendingReceived = 0 := rfl
  rw [giveUpDecoded, addDrops_accounted]
  simp only [PcmDeliveryOutcomes.discardOverflowAsLost, PcmDeliveryOutcomes.discardAllAsLost,
    accounted, none_left]
  omega

theorem resetDecoder_accounted : playout.resetDecoder.accounted = playout.accounted := by
  have none_left : ({} : PcmDeliveryOutcomes).pendingReceived = 0 := rfl
  rw [resetDecoder, giveUpDecoded, addDrops_accounted]
  simp only [PcmDeliveryOutcomes.discardAllAsLost, accounted, none_left]
  omega

theorem appendOpusCaptureChunk_accounted {frames : Nat} (positive : 0 < frames)
    (receivedMedia : Bool) : (playout.appendOpusCaptureChunk frames receivedMedia).accounted =
      playout.accounted + receivedMedia.toNat := by
  unfold appendOpusCaptureChunk
  split
  next outcomes fits =>
    have pending := playout.opusPcmOutcomes.append_pending positive fits
    simp only [accounted, pending]
    omega
  · exact playout.giveUpDecoded_accounted receivedMedia

theorem decodePacket_accounted :
    (playout.decodePacket packet reset decodedSamples).2.accounted = playout.accounted + 1 := by
  have ready : (if reset then playout.resetDecoder else playout).accounted = playout.accounted := by
    split
    · exact playout.resetDecoder_accounted
    · rfl
  unfold decodePacket
  generalize (if reset then playout.resetDecoder else playout) = before at *
  cases concealed : packet.lossConcealment with
  | true =>
    have counted := before.countConcealment_accounted packet
    simp only [↓reduceIte, Bool.not_true]
    split
    · rw [counted, ready]
    split
    · rw [appendOpusCaptureChunk_accounted _ (by omega)]
      show (before.countConcealment packet).accounted + 0 = _
      rw [counted, ready]
    · rw [giveUpDecoded_accounted, counted, ready]
      rfl
  | false =>
    simp only [Bool.false_eq_true, ↓reduceIte, Bool.not_false]
    split
    · rw [addDrops_accounted, ready]
    split
    · rw [appendOpusCaptureChunk_accounted _ (by omega)]
      show before.accounted + 1 = _
      rw [ready]
    · rw [giveUpDecoded_accounted, ready]
      rfl

theorem appendOpusCaptureChunk_log :
    (playout.appendOpusCaptureChunk frames receivedMedia).log = playout.log := by
  unfold appendOpusCaptureChunk
  split <;> rfl

theorem countConcealment_log : (playout.countConcealment packet).log = playout.log := by
  unfold countConcealment
  split <;> rfl

/-- Decoding leaves the jitter buffer alone. -/
theorem decodePacket_log :
    (playout.decodePacket packet reset decodedSamples).2.log = playout.log := by
  have ready : (if reset then playout.resetDecoder else playout).log = playout.log := by
    split <;> rfl
  unfold decodePacket
  generalize (if reset then playout.resetDecoder else playout) = before at *
  cases concealed : packet.lossConcealment with
  | true =>
    have counted : (before.countConcealment packet).log = playout.log := by
      rw [countConcealment_log, ready]
    simp only [↓reduceIte, Bool.not_true]
    split
    · exact counted
    split
    · rw [appendOpusCaptureChunk_log]
      exact counted
    · exact counted
  | false =>
    simp only [Bool.false_eq_true, ↓reduceIte, Bool.not_false]
    split
    · exact ready
    split
    · rw [appendOpusCaptureChunk_log]
      exact ready
    · exact ready

theorem countEmptyCallback_same (rebufferThreshold : Nat) :
    (playout.countEmptyCallback rebufferThreshold).log = playout.log ∧
      (playout.countEmptyCallback rebufferThreshold).accounted = playout.accounted := by
  unfold countEmptyCallback
  split
  · split <;> exact ⟨rfl, rfl⟩
  · exact ⟨rfl, rfl⟩

end ReceiverPlayout

/-- The packets the callback has in hand and has not accounted for. -/
def CallbackPhase.inHand : CallbackPhase → Nat
  | .aging _ _ => 1
  | _ => 0

/-- A packet is only taken out if it may be decoded. -/
def CallbackPhase.Funded : CallbackPhase → Prop
  | .aging _ budget => 0 < budget
  | _ => True

namespace ReceiverPlayout

/-- Between two states of the playout, playout has moved by what has been accounted for
and what is in hand. -/
structure Follows (playout : ReceiverPlayout) (held : Nat) (after : ReceiverPlayout)
    (heldAfter : Nat) : Prop where
  tracked : after.log.Tracked
  unstarted : after.log.queue.playoutInitialized = false → heldAfter = 0
  balance : after.log.queue.playoutInitialized = true →
    after.log.position + playout.accounted + held =
      playout.log.position + after.accounted + heldAfter

variable {playout after : ReceiverPlayout}

/-- A step that does not call the jitter buffer. -/
theorem Follows.of_same {held : Nat} (tracked : playout.log.Tracked)
    (log : after.log = playout.log) (accounted : after.accounted = playout.accounted + held) :
    Follows playout held after 0 where
  tracked := log ▸ tracked
  unstarted := fun _ => rfl
  balance := by
    intro _
    rw [log, accounted]
    omega

theorem takeInternalReceiverDrops_follows (tracked : playout.log.Tracked) :
    Follows playout 0 playout.takeInternalReceiverDrops 0 where
  tracked := tracked.takeInternalReceiverDrops
  unstarted := fun _ => rfl
  balance := by
    intro _
    have position : playout.takeInternalReceiverDrops.log.position = playout.log.position := rfl
    have accounted : playout.takeInternalReceiverDrops.accounted = playout.accounted := by
      simp only [takeInternalReceiverDrops, ReceiverPlayout.accounted, addDrops, call,
        PlayoutLog.step, ParticipantOpusPacketQueue.takeInternalReceiverDrops]
      omega
    rw [position, accounted]

theorem trimOldest_follows (tracked : playout.log.Tracked) (ambient : QueueAmbient) :
    Follows playout 0 (playout.trimOldest ambient).2 0 := by
  have log : (playout.trimOldest ambient).2.log = playout.log.step (.latencyTrim ambient) := by
    unfold trimOldest
    split <;> rfl
  refine ⟨?_, fun _ => rfl, ?_⟩
  · rw [log]
    exact tracked.latencyTrim ambient
  intro started
  rw [log] at started ⊢
  obtain ⟨internal, position⟩ := tracked.trimmed ambient started
  have same : (playout.call (.latencyTrim ambient)).accounted = playout.accounted := by
    simp only [ReceiverPlayout.accounted, call, internal]
  cases outcome : (playout.log.queue.discardOldestActualPacketForLatencyTrim ambient).1 with
  | none =>
    simp only [outcome] at position
    simp only [trimOldest, outcome, same]
    omega
  | some ready =>
    simp only [outcome] at position
    simp only [trimOldest, outcome, addDrops_accounted, same]
    omega

theorem dequeue_accounted (tracked : playout.log.Tracked) (gapWaitPackets : Nat)
    (ambient : QueueAmbient) :
    (∃ packet, (playout.log.queue.dequeue gapWaitPackets ambient).1 = .packet packet ∧
      (playout.call (.dequeue gapWaitPackets ambient)).log.queue.playoutInitialized = true ∧
      (playout.call (.dequeue gapWaitPackets ambient)).log.position + playout.accounted =
        playout.log.position + (playout.call (.dequeue gapWaitPackets ambient)).accounted + 1 +
          packet.abandonedGapPackets.toNat + packet.abandonedReceiverDropPackets.toNat) ∨
    (((playout.log.queue.dequeue gapWaitPackets ambient).1 = .empty ∨
        (playout.log.queue.dequeue gapWaitPackets ambient).1 = .waitingForGap) ∧
      (playout.call (.dequeue gapWaitPackets ambient)).log.position + playout.accounted =
        playout.log.position + (playout.call (.dequeue gapWaitPackets ambient)).accounted) := by
  rcases tracked.dequeued gapWaitPackets ambient with
    ⟨packet, found, started, moved⟩ | ⟨nothing, moved⟩
  · refine .inl ⟨packet, found, started, ?_⟩
    simp only [ReceiverPlayout.accounted, call] at moved ⊢
    omega
  refine .inr ⟨nothing, ?_⟩
  simp only [ReceiverPlayout.accounted, call] at moved ⊢
  omega

/-- A dequeue without a packet, whatever is mixed afterwards. -/
theorem Follows.of_nothing (tracked : playout.log.Tracked) {gapWaitPackets : Nat}
    {ambient : QueueAmbient} {counted held : Nat}
    (moved : (playout.call (.dequeue gapWaitPackets ambient)).log.position + playout.accounted =
      playout.log.position + (playout.call (.dequeue gapWaitPackets ambient)).accounted)
    (log : after.log = (playout.call (.dequeue gapWaitPackets ambient)).log)
    (accounted : after.accounted =
      (playout.call (.dequeue gapWaitPackets ambient)).accounted + counted)
    (same : counted = held) : Follows playout held after 0 where
  tracked := log ▸ tracked.dequeue gapWaitPackets ambient
  unstarted := fun _ => rfl
  balance := by
    intro _
    rw [log, accounted]
    omega

theorem dequeueFirst_follows (tracked : playout.log.Tracked) (ambient : CallbackAmbient)
    (budget : Nat) : Follows playout 0 (playout.dequeueFirst ambient budget).1
      (playout.dequeueFirst ambient budget).2.inHand := by
  rcases dequeue_accounted tracked ambient.gapWaitPackets ambient.queue with
    ⟨packet, found, started, moved⟩ | ⟨nothing | nothing, moved⟩
  · simp only [dequeueFirst, found]
    refine ⟨tracked.dequeue _ _, ?_, ?_⟩
    · intro unstarted
      have both := started.symm.trans unstarted
      cases both
    intro _
    rw [countAbandoned_accounted]
    show (playout.call _).log.position + playout.accounted + 0 = _ + 1
    omega
  · simp only [dequeueFirst, nothing]
    split
    · exact .of_nothing tracked moved rfl (mixOpusPcm_accounted _ _) rfl
    obtain ⟨log, same⟩ := (playout.call (.dequeue ambient.gapWaitPackets
      ambient.queue)).countEmptyCallback_same ambient.rebufferThreshold
    exact .of_nothing tracked moved log same rfl
  · simp only [dequeueFirst, nothing]
    split
    · exact .of_nothing tracked moved rfl (mixOpusPcm_accounted _ _) rfl
    · exact .of_nothing tracked moved rfl rfl rfl

/-- Below the limit of concealments, the packet taken out for one that is too old
abandons no others. -/
theorem ageOrDecode_follows (tracked : playout.log.Tracked) (ambient : CallbackAmbient)
    (packet : PlayoutPacket) {budget : Nat} (left : 0 < budget)
    (below : jitterPacketAgeExceedsLimit (ambient.now - packet.timestamp) ambient.ageLimitMs = true →
      playout.log.queue.atConcealmentLimit = false) :
    Follows playout 1 (playout.ageOrDecode ambient packet budget).1
      (playout.ageOrDecode ambient packet budget).2.inHand := by
  unfold ageOrDecode
  split
  next tooOld =>
    have dropped : ((playout.addDrops 1).call (.dequeue ambient.gapWaitPackets
        ambient.queue)).accounted = (playout.call (.dequeue ambient.gapWaitPackets
        ambient.queue)).accounted + 1 :=
      (playout.call (.dequeue ambient.gapWaitPackets ambient.queue)).addDrops_accounted 1
    rcases dequeue_accounted tracked ambient.gapWaitPackets ambient.queue with
      ⟨next, found, started, moved⟩ | ⟨nothing | nothing, moved⟩
    · obtain ⟨no_gap, no_drop⟩ :=
        ParticipantOpusPacketQueue.dequeue_abandons (below tooOld) found
      have zero : (0 : UInt32).toNat = 0 := rfl
      rw [no_gap, no_drop, zero] at moved
      simp only [found]
      refine ⟨tracked.dequeue _ _, ?_, ?_⟩
      · intro unstarted
        have both := started.symm.trans unstarted
        cases both
      intro _
      show (playout.call _).log.position + playout.accounted + 1 = _ + 1
      omega
    · simp only [nothing]
      exact .of_nothing tracked moved rfl dropped rfl
    · simp only [nothing]
      exact .of_nothing tracked moved rfl dropped rfl
  · rw [if_neg (by omega)]
    have accounted := { playout with lastCodec := packet.codec
      : ReceiverPlayout }.decodePacket_accounted packet
        (packet.resetDecoder && packet.codec = audioCodecOpus) ambient.decodedSamples
    have log := { playout with lastCodec := packet.codec : ReceiverPlayout }.decodePacket_log packet
        (packet.resetDecoder && packet.codec = audioCodecOpus) ambient.decodedSamples
    split
    next after outcome =>
      rw [outcome] at accounted log
      exact .of_same tracked log accounted
    next outcome after other equal =>
      rw [equal] at accounted log
      exact .of_same tracked log accounted

theorem fill_follows (tracked : playout.log.Tracked) (ambient : CallbackAmbient) (budget : Nat) :
    Follows playout 0 (playout.fill ambient budget).1 (playout.fill ambient budget).2.inHand := by
  unfold fill
  split
  · rcases dequeue_accounted tracked ambient.gapWaitPackets ambient.queue with
      ⟨packet, found, started, moved⟩ | ⟨nothing | nothing, moved⟩
    · simp only [found]
      have accounted := ((playout.call (.dequeue ambient.gapWaitPackets
        ambient.queue)).countAbandoned packet).decodePacket_accounted packet packet.resetDecoder
          ambient.decodedSamples
      have log := ((playout.call (.dequeue ambient.gapWaitPackets
        ambient.queue)).countAbandoned packet).decodePacket_log packet packet.resetDecoder
          ambient.decodedSamples
      rw [countAbandoned_accounted] at accounted
      have decoded : Follows playout 0 (((playout.call (.dequeue ambient.gapWaitPackets
          ambient.queue)).countAbandoned packet).decodePacket packet packet.resetDecoder
            ambient.decodedSamples).2 0 := by
        refine ⟨log ▸ tracked.dequeue _ _, fun _ => rfl, ?_⟩
        intro _
        rw [accounted, log]
        show (playout.call _).log.position + playout.accounted + 0 = _
        omega
      split
      next after outcome =>
        rw [outcome] at decoded
        exact decoded
      next outcome after other equal =>
        rw [equal] at decoded
        exact decoded
    · simp only [nothing]
      exact .of_nothing tracked moved rfl rfl rfl
    · simp only [nothing]
      exact .of_nothing tracked moved rfl rfl rfl
  · exact .of_same tracked rfl rfl

end ReceiverPlayout

namespace AudioCallback

open ReceiverPlayout

/-- Playout is where the counters say. -/
structure Balanced (callback : AudioCallback) : Prop where
  tracked : callback.playout.log.Tracked
  unstarted : callback.playout.log.queue.playoutInitialized = false → callback.phase.inHand = 0
  funded : callback.phase.Funded
  balance : callback.playout.log.position + callback.startAccounted =
    callback.playout.accounted + callback.phase.inHand + callback.startPosition

theorem initial_balanced : ({} : AudioCallback).Balanced where
  tracked := PlayoutLog.initial_tracked
  unstarted := fun _ => rfl
  funded := trivial
  balance := rfl

variable {callback : AudioCallback}

theorem Balanced.settled (balanced : callback.Balanced) {playout : ReceiverPlayout}
    {phase : CallbackPhase}
    (follows : Follows callback.playout callback.phase.inHand playout phase.inHand)
    (funded : phase.Funded) : (callback.settle false playout phase).Balanced := by
  unfold settle
  split
  next idle =>
    have unstarted := idle.resolve_left Bool.false_ne_true
    have none_held := follows.unstarted unstarted
    refine ⟨follows.tracked, follows.unstarted, funded, ?_⟩
    show playout.log.position + playout.accounted =
      playout.accounted + phase.inHand + playout.log.position
    omega
  next under_way =>
    have started : playout.log.queue.playoutInitialized = true := by
      rw [← Bool.not_eq_false]
      exact fun unstarted => under_way (.inr unstarted)
    have moved := follows.balance started
    have before := balanced.balance
    refine ⟨follows.tracked, follows.unstarted, funded, ?_⟩
    show playout.log.position + callback.startAccounted =
      playout.accounted + phase.inHand + callback.startPosition
    omega

/-- The accounting starts anew. -/
theorem settle_anew {playout : ReceiverPlayout} (tracked : playout.log.Tracked) :
    (callback.settle true playout .idle).Balanced := by
  refine ⟨tracked, fun _ => rfl, trivial, ?_⟩
  show playout.log.position + playout.accounted = playout.accounted + 0 + playout.log.position
  omega

/-- A packet that comes in has not come in since the last reset; and when a packet is
found to be too old, the gap before the next one has not been concealed for as long as
it may be. -/
def allowed (callback : AudioCallback) : CallbackMove → Prop
  | .receive packet _ _ _ _ _ => packet.sequence ∉ callback.playout.log.numbers
  | .proceed ambient =>
    match callback.phase with
    | .aging packet _ =>
      jitterPacketAgeExceedsLimit (ambient.now - packet.timestamp) ambient.ageLimitMs = true →
        callback.playout.log.queue.atConcealmentLimit = false
    | _ => True
  | _ => True

instance (callback : AudioCallback) (move : CallbackMove) : Decidable (callback.allowed move) := by
  cases move with
  | proceed ambient =>
    simp only [allowed]
    split <;> infer_instance
  | _ => simp only [allowed]; infer_instance

variable {packet : ReceivedPacket} (queue : ParticipantOpusPacketQueue)

theorem appended_once {log : PlayoutLog} (tracked : log.Tracked)
    (numbered : packet.sequenceValid = true) (fresh : packet.sequence ∉ log.numbers) :
    (log.numbers ++ PlayoutLog.numberOf packet).Nodup := by
  rw [PlayoutLog.numberOf, if_pos numbered, nodup_append]
  refine ⟨tracked.once, nodup_singleton _, ?_⟩
  intro number member other newest same
  rw [mem_singleton.mp newest] at same
  exact fresh (same ▸ member)

theorem enqueue_tracked {log : PlayoutLog} (tracked : log.Tracked) {packet : ReceivedPacket}
    (numbered : packet.sequenceValid = true) (fresh : packet.sequence ∉ log.numbers)
    (maxPackets : Nat)
    (accepts : Bool) : (log.step (.enqueue packet maxPackets accepts)).Tracked := by
  have conserved := PlayoutLog.step_conserved log (.enqueue packet maxPackets accepts)
    tracked.conserved
  refine ⟨conserved, ?_, ?_⟩
  · simp only [PlayoutLog.step]
    split
    · exact forall_mem_append.mpr ⟨tracked.numbered, forall_mem_singleton.mpr numbered⟩
    · exact tracked.numbered
  · simp only [PlayoutLog.step]
    split
    · exact appended_once tracked numbered fresh
    · exact tracked.once

/-- A packet without a place is reported instead; nothing else changes. -/
theorem rejected_tracked {log : PlayoutLog} (tracked : log.Tracked)
    (numbered : packet.sequenceValid = true) (fresh : packet.sequence ∉ log.numbers)
    (publicationsOpen : Bool) :
    (log.step (.recordReceiverDrop packet publicationsOpen)).Tracked := by
  exact ⟨PlayoutLog.step_conserved log _ tracked.conserved, tracked.numbered,
    appended_once tracked numbered fresh⟩

theorem enqueueBounded_same (packet : ReceivedPacket) (maxPackets : Nat) (accepts : Bool) :
    (queue.enqueueBounded packet maxPackets accepts).2.internalReceiverDrops =
        queue.internalReceiverDrops ∧
      (queue.enqueueBounded packet maxPackets accepts).2.playoutInitialized =
        queue.playoutInitialized := by
  unfold ParticipantOpusPacketQueue.enqueueBounded
  split <;> exact ⟨rfl, rfl⟩

theorem recordReceiverDrop_same (packet : ReceivedPacket) (publicationsOpen : Bool) :
    (queue.recordReceiverDrop packet publicationsOpen).internalReceiverDrops =
        queue.internalReceiverDrops ∧
      (queue.recordReceiverDrop packet publicationsOpen).playoutInitialized =
        queue.playoutInitialized := by
  unfold ParticipantOpusPacketQueue.recordReceiverDrop
  split <;> exact ⟨rfl, rfl⟩

/-- The log after a packet was offered to the queue. -/
theorem enqueue_log (log : PlayoutLog) (packet : ReceivedPacket) (maxPackets : Nat)
    (accepts : Bool) :
    (log.step (.enqueue packet maxPackets accepts)).queue =
        (log.queue.enqueueBounded packet maxPackets accepts).2 ∧
      (log.step (.enqueue packet maxPackets accepts)).position = log.position ∧
      ((log.queue.enqueueBounded packet maxPackets accepts).1 = false →
        (log.step (.enqueue packet maxPackets accepts)).numbers = log.numbers) := by
  simp only [PlayoutLog.step]
  generalize log.queue.enqueueBounded packet maxPackets accepts = result
  obtain ⟨accepted, queue⟩ := result
  cases accepted with
  | true =>
    refine ⟨rfl, rfl, ?_⟩
    intro never
    cases never
  | false => exact ⟨rfl, rfl, fun _ => rfl⟩

/-- What comes in moves neither playout nor the counters. -/
theorem follows_of_arrival {playout after : ReceiverPlayout} {held : Nat}
    (tracked : after.log.Tracked) (position : after.log.position = playout.log.position)
    (accounted : after.accounted = playout.accounted)
    (unstarted : after.log.queue.playoutInitialized = false → held = 0) :
    Follows playout held after held where
  tracked := tracked
  unstarted := unstarted
  balance := by
    intro _
    rw [position, accounted]

theorem receive_follows {playout : ReceiverPlayout} (tracked : playout.log.Tracked)
    (fresh : packet.sequence ∉ playout.log.numbers)
    (maxPackets : Nat) (accepts muted publicationsOpen ready : Bool) {held : Nat}
    (unstarted : playout.log.queue.playoutInitialized = false → held = 0) :
    Follows playout held
      (playout.receive packet maxPackets accepts muted publicationsOpen ready) held := by
  have offered_tracked := @enqueue_tracked _ tracked { packet with sequenceValid := true } rfl fresh
    maxPackets accepts
  obtain ⟨queue, position, numbers⟩ := enqueue_log playout.log
    { packet with sequenceValid := true } maxPackets accepts
  obtain ⟨internal, initialized⟩ := enqueueBounded_same playout.log.queue
    { packet with sequenceValid := true } maxPackets accepts
  have still_unstarted : (playout.log.step (.enqueue { packet with sequenceValid := true }
      maxPackets accepts)).queue.playoutInitialized = false → held = 0 := by
    rw [queue, initialized]
    exact unstarted
  have accounted : (playout.call (.enqueue { packet with sequenceValid := true } maxPackets
      accepts)).accounted = playout.accounted := by
    simp only [ReceiverPlayout.accounted, call, queue, internal]
  have offered := @follows_of_arrival playout (playout.call (.enqueue
    { packet with sequenceValid := true } maxPackets accepts)) held offered_tracked position
    accounted still_unstarted
  unfold receive
  simp only
  split
  · split
    · exact ⟨offered.tracked, offered.unstarted, offered.balance⟩
    · exact offered
  rename_i rejected
  split
  · exact offered
  have same := numbers (Bool.eq_false_of_not_eq_true rejected)
  obtain ⟨drop_internal, drop_initialized⟩ := recordReceiverDrop_same
    (playout.log.step (.enqueue { packet with sequenceValid := true } maxPackets accepts)).queue
    { packet with sequenceValid := true } publicationsOpen
  apply follows_of_arrival
  · exact rejected_tracked offered_tracked rfl (same ▸ fresh) publicationsOpen
  · exact position
  · rw [← accounted]
    simp only [ReceiverPlayout.accounted, call, PlayoutLog.step] at drop_internal ⊢
    omega
  · intro not_started
    exact still_unstarted (drop_initialized.symm.trans not_started)

theorem proceed_follows (balanced : callback.Balanced) (ambient : CallbackAmbient)
    (meets : callback.allowed (.proceed ambient)) :
    Follows callback.playout callback.phase.inHand
        (callback.playout.proceed ambient callback.phase).1
        (callback.playout.proceed ambient callback.phase).2.inHand := by
  have tracked := balanced.tracked
  have funded := balanced.funded
  simp only [allowed] at meets
  generalize callback.phase = phase at *
  cases phase with
  | idle => exact .of_same tracked rfl rfl
  | flushing left budget =>
    cases left with
    | zero =>
      simp only [proceed]
      split <;> exact .of_same tracked rfl rfl
    | succ left => exact trimOldest_follows tracked ambient.queue
  | trimming left budget =>
    cases left with
    | zero =>
      simp only [proceed]
      split
      · exact .of_same tracked rfl (mixOpusPcm_accounted _ _)
      split
      · exact .of_same tracked rfl rfl
      · exact dequeueFirst_follows tracked ambient budget
    | succ left => exact trimOldest_follows tracked ambient.queue
  | aging packet left => exact ageOrDecode_follows tracked ambient packet funded meets
  | filling left => exact fill_follows tracked ambient left
  | mixing =>
    simp only [proceed]
    split
    · exact .of_same tracked rfl (mixOpusPcm_accounted _ _)
    · exact .of_same tracked rfl rfl

theorem proceed_funded (balanced : callback.Balanced) (ambient : CallbackAmbient) :
    (callback.playout.proceed ambient callback.phase).2.Funded := by
  have funded := balanced.funded
  generalize callback.phase = phase at *
  cases phase with
  | idle => trivial
  | flushing left budget =>
    cases left with
    | zero =>
      simp only [proceed]
      split <;> trivial
    | succ left => trivial
  | trimming left budget =>
    cases left with
    | zero =>
      simp only [proceed]
      split
      · trivial
      split
      · trivial
      rename_i some_left
      simp only [dequeueFirst]
      split
      · exact Nat.pos_of_ne_zero some_left
      · trivial
      · trivial
    | succ left => trivial
  | aging packet left =>
    simp only [proceed, ageOrDecode]
    split
    · split
      · exact funded
      · trivial
    split
    · trivial
    · split <;> trivial
  | filling left =>
    simp only [proceed, fill]
    split
    · split
      · split <;> trivial
      · trivial
    · trivial
  | mixing => trivial

theorem step_balanced (move : CallbackMove) (balanced : callback.Balanced)
    (meets : callback.allowed move) : (callback.step move).Balanced := by
  cases move with
  | receive packet maxPackets accepts muted publicationsOpen ready =>
    exact balanced.settled (receive_follows balanced.tracked meets maxPackets accepts muted
      publicationsOpen ready balanced.unstarted) balanced.funded
  | rebuffer => exact ⟨balanced.tracked, balanced.unstarted, balanced.funded, balanced.balance⟩
  | clear =>
    simp only [step]
    split
    · exact settle_anew balanced.tracked.clear
    · exact balanced
  | start muted excess budget ambient =>
    simp only [step]
    split
    next idle =>
      split
      · exact settle_anew (balanced.tracked.localMute ambient)
      refine balanced.settled ?_ trivial
      rw [idle]
      exact takeInternalReceiverDrops_follows balanced.tracked
    · exact balanced
  | proceed ambient =>
    exact balanced.settled (proceed_follows balanced ambient meets)
      (proceed_funded balanced ambient)

/-- Playout has moved, since it was last not under way, by the packets delivered, dropped
and declared lost meanwhile, those that wait to be mixed and the drops that have not been
taken yet. -/
def Accounted (callback : AudioCallback) : Prop :=
  callback.playout.log.position + callback.startAccounted =
    callback.playout.receiverDeliveryDelivered + callback.playout.receiverDeliveryDrops +
      callback.playout.sequenceGapsDeclaredLost +
      callback.playout.opusPcmOutcomes.pendingReceived +
      callback.playout.log.queue.internalReceiverDrops + callback.startPosition

theorem delivery_accounted (moves : List CallbackMove)
    (meets : Run.Allowed step allowed {} moves) (boundary : (Run.run step {} moves).phase = .idle) :
    (Run.run step {} moves).Accounted := by
  have balanced : (Run.run step {} moves).Balanced :=
    Run.invariant_of_allowed step allowed Balanced {} moves
      (fun _ move _ balanced meets => step_balanced move balanced meets) initial_balanced meets
  have balance := balanced.balance
  rw [boundary] at balance
  exact balance

/-- One millisecond may pass until a packet is too old. A frame has 480 samples, as many as
a callback asks for, so a gap is waited for once. -/
def onTime (now : Int) : CallbackAmbient :=
  ⟨⟨true, false, now⟩, 1, true, 0, 480, 480, now, 1, 480, 4⟩

/-- A callback in which the steps are taken at the given times. -/
def callbackAt (times : List Int) : List CallbackMove :=
  .start false 0 8 ⟨true, false, 0⟩ :: times.map fun now => .proceed (onTime now)

/-- Of the numbers up to 10 only the first and the last one come. -/
def sparsePackets : List CallbackMove :=
  [.receive (PlayoutLog.plainPacket 1) 8 true false true false,
    .receive (PlayoutLog.plainPacket 10) 8 true false true true]

/-- Five callbacks without a delay play 1, wait, conceal 2 and 3, and play 10. -/
def promptMoves : List CallbackMove :=
  sparsePackets ++ (replicate 5 (callbackAt (replicate 7 0))).flatten

theorem delivery_accounted_promptMoves :
    (Run.run step {} promptMoves).playout.log.position = 10 ∧
      (Run.run step {} promptMoves).Accounted := by
  have facts : (Run.run step {} promptMoves).playout.log.position = 10 ∧
      (Run.run step {} promptMoves).phase = .idle ∧ Run.Allowed step allowed {} promptMoves := by
    decide +kernel
  exact ⟨facts.1, delivery_accounted promptMoves facts.2.2 facts.2.1⟩

/-- The fourth callback is held up for two milliseconds between making up 3 and looking at
its age. It then takes out 10, and 4 to 9 are never accounted for. -/
def delayedMoves : List CallbackMove :=
  sparsePackets ++ (replicate 3 (callbackAt (replicate 7 0))).flatten ++
    callbackAt [0, 0, 2000000, 2000000, 2000000, 2000000, 2000000]

theorem delivery_unaccounted_delayedMoves :
    (Run.run step {} delayedMoves).phase = .idle ∧
      (Run.run step {} delayedMoves).playout.log.position = 10 ∧
      (Run.run step {} delayedMoves).playout.accounted = 4 ∧
      ¬(Run.run step {} delayedMoves).Accounted := by
  unfold Accounted
  decide +kernel

end AudioCallback

end Sesivo
