import Sesivo.Client.Keys

set_option autoImplicit false

/- The jitter buffer of one participant, `participant_info.h`. The network thread
enqueues packets and reports dropped ones; the audio thread drains them into a
small unordered store and takes them out in the order of their numbers, bridging
gaps by concealment. What the other thread is doing meanwhile is ambient. -/

namespace Sesivo

def maxOpusQueueSize : Nat := 128

def maxOpusConsecutiveGapPlcPackets : Nat := 2

/-- A packet as the network thread enqueues it. -/
structure ReceivedPacket extends OpusPacket where
  timestamp : Int
  sequenceValid : Bool
  captureTimestampValid : Bool
deriving DecidableEq

/-- A packet as it is taken out, with what the buffer adds to it. -/
structure PlayoutPacket extends ReceivedPacket where
  lossConcealment : Bool := false
  receiverDropPending : Bool := false
  resetDecoder : Bool := false
  abandonedGapPackets : UInt32 := 0
  abandonedReceiverDropPackets : UInt32 := 0
deriving DecidableEq

structure DroppedRange where
  first : UInt32
  count : UInt32
deriving DecidableEq

namespace DroppedRange

variable (range : DroppedRange) (sequence : UInt32)

def contains : Bool := sequence - range.first < range.count

/-- The range with the number, if it is already in it or next to it. -/
def extended : Option DroppedRange :=
  if range.contains sequence then some range
  else if sequence - range.first = range.count ∧ range.count ≠ 0xFFFFFFFF then
    some ⟨range.first, range.count + 1⟩
  else if range.first - sequence = 1 ∧ range.count ≠ 0xFFFFFFFF then
    some ⟨sequence, range.count + 1⟩
  else none

/-- What is left when one of its numbers is taken. A slot cannot hold two ranges,
so taking a number from the middle gives up the rest. -/
def without : Option DroppedRange :=
  if range.count = 1 then none
  else if sequence - range.first = 0 then some ⟨range.first + 1, range.count - 1⟩
  else if sequence - range.first = range.count - 1 then some ⟨range.first, range.count - 1⟩
  else none

/-- How much of the range `count` numbers from `first` on take, if it starts among them. -/
def overlap (first count : UInt32) : UInt32 :=
  if count ≤ range.first - first then 0 else min range.count (count - (range.first - first))

/-- The rest of the range then. -/
def past (first count : UInt32) : Option DroppedRange :=
  if range.count - range.overlap first count = 0 then none
  else some ⟨range.first + range.overlap first count, range.count - range.overlap first count⟩

end DroppedRange

def maxReceiverDropRanges : Nat := 64

/-- Numbers of packets that arrived and were dropped, by slots of ranges; an empty
slot is `none`. -/
structure ReceiverDroppedRanges where
  slots : List (Option DroppedRange) := List.replicate maxReceiverDropRanges none
deriving DecidableEq

namespace ReceiverDroppedRanges

/-- Add the number to the first range that it is in or next to. -/
def extendSlot (sequence : UInt32) : List (Option DroppedRange) → Option (List (Option DroppedRange))
  | [] => none
  | none :: slots => (extendSlot sequence slots).map (none :: ·)
  | some range :: slots =>
    match range.extended sequence with
    | some longer => some (some longer :: slots)
    | none => (extendSlot sequence slots).map (some range :: ·)

/-- Put the number into the first empty slot. -/
def fillSlot (sequence : UInt32) : List (Option DroppedRange) → Option (List (Option DroppedRange))
  | [] => none
  | none :: slots => some (some ⟨sequence, 1⟩ :: slots)
  | some range :: slots => (fillSlot sequence slots).map (some range :: ·)

variable (ranges : ReceiverDroppedRanges)

/-- Without a place for it, the number replaces the range in a slot of its own. -/
def record (sequence : UInt32) : ReceiverDroppedRanges where
  slots :=
    match extendSlot sequence ranges.slots with
    | some slots => slots
    | none =>
      match fillSlot sequence ranges.slots with
      | some slots => slots
      | none => ranges.slots.set (sequence.toNat % maxReceiverDropRanges) (some ⟨sequence, 1⟩)

/-- Take the number out of the first range that has it. -/
def consumeSlot (sequence : UInt32) : List (Option DroppedRange) → Option (List (Option DroppedRange))
  | [] => none
  | none :: slots => (consumeSlot sequence slots).map (none :: ·)
  | some range :: slots =>
    if range.contains sequence then some (range.without sequence :: slots)
    else (consumeSlot sequence slots).map (some range :: ·)

def consume (sequence : UInt32) : Bool × ReceiverDroppedRanges :=
  match consumeSlot sequence ranges.slots with
  | some slots => (true, ⟨slots⟩)
  | none => (false, ranges)

/-- Take what lies among `count` numbers from `first` on, of the ranges that start there. -/
def consumeRange (first count : UInt32) :
    UInt32 × ReceiverDroppedRanges :=
  (ranges.slots.foldl
      (fun consumed slot => consumed + (slot.map (·.overlap first count)).getD 0) 0,
    ⟨ranges.slots.map fun slot => slot.bind (·.past first count)⟩)

end ReceiverDroppedRanges

/-- What a call finds of the other thread's work: whether drops may be published,
whether one is being published just now, and the clock. -/
structure QueueAmbient where
  publicationsOpen : Bool
  publishing : Bool
  now : Int

inductive DequeueStatus where
  | packet (packet : PlayoutPacket)
  | empty
  | waitingForGap
deriving DecidableEq

/-- The place in the list of the number that no later one comes before. -/
def earliestIndex : List ReceivedPacket → Nat
  | [] => 0
  | first :: others =>
    ((others.zipIdx 1).foldl
      (fun earliest entry =>
        if sequenceNumberBefore entry.1.sequence earliest.1.sequence then entry else earliest)
      (first, 0)).2

def latestIndex : List ReceivedPacket → Nat
  | [] => 0
  | first :: others =>
    ((others.zipIdx 1).foldl
      (fun latest entry =>
        if sequenceNumberBefore latest.1.sequence entry.1.sequence then entry else latest)
      (first, 0)).2

/-- Move the last packet into the erased one's place. -/
def eraseSequencedAt (packets : List ReceivedPacket) (index : Nat) : List ReceivedPacket :=
  match packets.getLast? with
  | none => packets
  | some last => (packets.set index last).dropLast

/-- Erase the packets before `next`, from the index on; what moves into an erased
one's place is looked at again. -/
def discardStaleFrom (next : UInt32) : Nat → Nat → List ReceivedPacket → List ReceivedPacket
  | 0, _, packets => packets
  | fuel + 1, index, packets =>
    match packets[index]? with
    | none => packets
    | some packet =>
      if sequenceNumberBefore packet.sequence next then
        discardStaleFrom next fuel index (eraseSequencedAt packets index)
      else discardStaleFrom next fuel (index + 1) packets

def makeLossConcealmentPacket (reference : ReceivedPacket) (sequence : UInt32) (now : Int) :
    PlayoutPacket where
  data := []
  sequence := sequence
  sampleRate := reference.sampleRate
  frameCount := reference.frameCount
  channels := reference.channels
  codec := reference.codec
  captureServerTimeNs := 0
  timestamp := now
  sequenceValid := true
  captureTimestampValid := false
  lossConcealment := true

/-- The `size_t` both threads count the packets in. `wrapped` is no part of the source: it
says whether one was ever taken from zero. -/
structure BufferedCount where
  value : Nat := 0
  wrapped : Bool := false

namespace BufferedCount

def decrement (count : BufferedCount) : BufferedCount :=
  match count.value with
  | 0 => ⟨0xFFFFFFFFFFFFFFFF, true⟩
  | value + 1 => { count with value := value }

def decrementTimes : Nat → BufferedCount → BufferedCount
  | 0, count => count
  | times + 1, count => decrementTimes times count.decrement

variable {count : BufferedCount} {before after : Nat}

theorem decrement_eq (held : count = ⟨before, false⟩) (one : before = after + 1) :
    count.decrement = ⟨after, false⟩ := by
  rw [held, one]
  rfl

theorem decrementTimes_eq {times : Nat} (held : count = ⟨before, false⟩)
    (enough : before = after + times) : decrementTimes times count = ⟨after, false⟩ := by
  rw [held, enough]
  clear held enough
  induction times with
  | zero => rfl
  | succ times ih => exact ih

end BufferedCount

structure ParticipantOpusPacketQueue where
  incoming : List ReceivedPacket := []
  bufferedCount : BufferedCount := {}
  unsequenced : List ReceivedPacket := []
  sequenced : List ReceivedPacket := []
  receiverDroppedRanges : ReceiverDroppedRanges := {}
  internalReceiverDrops : Nat := 0
  playoutInitialized : Bool := false
  nextPlayoutSequence : UInt32 := 0
  gapWaitInitialized : Bool := false
  gapWaitSequence : UInt32 := 0
  gapWaitCallbacks : Nat := 0
  gapLossRunActive : Bool := false
  gapLossRunPackets : Nat := 0
  admissionTracker : SequenceArrivalTracker := {}
  playoutInitializedSnapshot : Bool := false
  nextPlayoutSequenceSnapshot : UInt32 := 0

namespace ParticipantOpusPacketQueue

variable (queue : ParticipantOpusPacketQueue)

def resetGapWait : ParticipantOpusPacketQueue :=
  { queue with gapWaitInitialized := false, gapWaitCallbacks := 0 }

/-- Show the network thread where playout is. -/
def publishPlayoutSequence : ParticipantOpusPacketQueue :=
  { queue with
    nextPlayoutSequenceSnapshot := queue.nextPlayoutSequence
    playoutInitializedSnapshot := queue.playoutInitialized }

variable (packet : ReceivedPacket)

def isExpectedLatePacket : Bool :=
  packet.sequenceValid && queue.playoutInitializedSnapshot &&
    packet.sequence = queue.nextPlayoutSequenceSnapshot

def isStartupGapRecoveryPacket : Bool :=
  packet.sequenceValid && !queue.playoutInitializedSnapshot &&
    queue.admissionTracker.hasUnresolvedGap packet.sequence

/-- One place more for a packet that playout is waiting for. -/
def admissionLimit (maxPackets : Nat) : Nat :=
  let configuredLimit := min maxPackets maxOpusQueueSize
  if configuredLimit = 0 then 0
  else if queue.isExpectedLatePacket packet || queue.isStartupGapRecoveryPacket packet then
    configuredLimit + 1
  else configuredLimit

/-- `accepts` is false while the queue is being cleared, and when there is no memory; the
count then goes up and down again. -/
def enqueueBounded
    (maxPackets : Nat) (accepts : Bool) : Bool × ParticipantOpusPacketQueue :=
  if accepts = true ∧ queue.bufferedCount.value < queue.admissionLimit packet maxPackets then
    (true, { queue with
      incoming := queue.incoming ++ [packet]
      bufferedCount := { queue.bufferedCount with value := queue.bufferedCount.value + 1 }
      admissionTracker :=
        if packet.sequenceValid then (queue.admissionTracker.record packet.sequence).2
        else queue.admissionTracker })
  else (false, queue)

variable (sequence : UInt32)

def alreadyPlayed : Bool :=
  queue.playoutInitializedSnapshot &&
    sequenceNumberBefore sequence queue.nextPlayoutSequenceSnapshot

def recordReceiverDrop
    (publicationsOpen : Bool) : ParticipantOpusPacketQueue :=
  if packet.sequenceValid = false ∨ publicationsOpen = false ∨
      queue.alreadyPlayed packet.sequence = true then
    queue
  else
    { queue with
      receiverDroppedRanges := queue.receiverDroppedRanges.record packet.sequence }

/-- A drop of the audio thread's own; one without a number is only counted. -/
def recordInternalReceiverDrop
    (publicationsOpen : Bool) : ParticipantOpusPacketQueue :=
  if packet.sequenceValid = false then
    { queue with internalReceiverDrops := queue.internalReceiverDrops + 1 }
  else queue.recordReceiverDrop packet publicationsOpen

def takeInternalReceiverDrops : Nat × ParticipantOpusPacketQueue :=
  (queue.internalReceiverDrops, { queue with internalReceiverDrops := 0 })

variable (publicationsOpen : Bool)

/-- Place one packet the network thread has enqueued. When the store is full, the
latest packet is dropped for an earlier one. -/
def drainPacket (queue : ParticipantOpusPacketQueue)
    (packet : ReceivedPacket) : ParticipantOpusPacketQueue :=
  let refused := { queue with bufferedCount := queue.bufferedCount.decrement }
  if packet.sequenceValid = false then
    if maxOpusQueueSize ≤ queue.unsequenced.length then
      { refused with internalReceiverDrops := queue.internalReceiverDrops + 1 }
    else { queue with unsequenced := queue.unsequenced ++ [packet] }
  else if queue.playoutInitialized = true ∧
      sequenceNumberBefore packet.sequence queue.nextPlayoutSequence = true then
    refused
  else if queue.sequenced.any fun other => other.sequence = packet.sequence then refused
  else if maxOpusQueueSize ≤ queue.sequenced.length then
    match queue.sequenced[latestIndex queue.sequenced]? with
    | none => refused
    | some latest =>
      if sequenceNumberBefore packet.sequence latest.sequence then
        { refused.recordInternalReceiverDrop latest publicationsOpen with
          sequenced := queue.sequenced.set (latestIndex queue.sequenced) packet }
      else refused.recordInternalReceiverDrop packet publicationsOpen
  else { queue with sequenced := queue.sequenced ++ [packet] }

def drainIncomingForPlayout : ParticipantOpusPacketQueue :=
  (queue.incoming.take (maxOpusQueueSize + 1)).foldl (drainPacket publicationsOpen)
    { queue with incoming := queue.incoming.drop (maxOpusQueueSize + 1) }

/-- Playout starts at the earliest packet there is. -/
def startPlayout : ParticipantOpusPacketQueue :=
  match queue.playoutInitialized, queue.sequenced[earliestIndex queue.sequenced]? with
  | false, some earliest =>
    publishPlayoutSequence
      { queue with nextPlayoutSequence := earliest.sequence, playoutInitialized := true }
  | _, _ => queue

def discardStalePackets : ParticipantOpusPacketQueue :=
  let kept := discardStaleFrom queue.nextPlayoutSequence queue.sequenced.length 0 queue.sequenced
  { queue with
    sequenced := kept
    bufferedCount :=
      queue.bufferedCount.decrementTimes (queue.sequenced.length - kept.length) }

/-- The numbers from `next` on that are known to be dropped, at most `distance` many:
how many there are, and the ranges without them. -/
def skipDropped : Nat → UInt32 → ReceiverDroppedRanges → Nat × ReceiverDroppedRanges
  | 0, _, ranges => (0, ranges)
  | distance + 1, next, ranges =>
    match ranges.consume next with
    | (false, _) => (0, ranges)
    | (true, shorter) =>
      let rest := skipDropped distance (next + 1) shorter
      (rest.1 + 1, rest.2)

/-- Pass over the dropped packets before the one that is to be played. -/
def skipReceiverDrops : ParticipantOpusPacketQueue :=
  let skipped := skipDropped (sequence - queue.nextPlayoutSequence).toNat queue.nextPlayoutSequence
    queue.receiverDroppedRanges
  if 0 < skipped.1 then
    { queue with
      receiverDroppedRanges := skipped.2
      nextPlayoutSequence := queue.nextPlayoutSequence + UInt32.ofNat skipped.1
      internalReceiverDrops := queue.internalReceiverDrops + skipped.1
      : ParticipantOpusPacketQueue }.publishPlayoutSequence.resetGapWait
  else queue

variable (gapWaitPackets : Nat)

def shouldWaitForGap : Bool × ParticipantOpusPacketQueue :=
  if gapWaitPackets = 0 ∨ queue.gapLossRunActive = true then (false, queue)
  else
    let waiting :=
      if queue.gapWaitInitialized = false ∨ queue.gapWaitSequence ≠ queue.nextPlayoutSequence then
        { queue with
          gapWaitInitialized := true
          gapWaitSequence := queue.nextPlayoutSequence
          gapWaitCallbacks := 0 }
      else queue
    if gapWaitPackets ≤ waiting.gapWaitCallbacks then (false, waiting)
    else (true, { waiting with gapWaitCallbacks := waiting.gapWaitCallbacks + 1 })

variable (index : Nat)

/-- Take out the packet at the index; playout goes on after it. -/
def playPacket (sequence : UInt32) : ParticipantOpusPacketQueue :=
  { queue with
    nextPlayoutSequence := sequence + 1
    gapLossRunActive := false
    gapLossRunPackets := 0
    sequenced := eraseSequencedAt queue.sequenced index
    bufferedCount := queue.bufferedCount.decrement
    : ParticipantOpusPacketQueue }.publishPlayoutSequence.resetGapWait

/-- Go straight to the packet, and report what lies before it. -/
def abandonGap (next : ReceivedPacket) : PlayoutPacket × ParticipantOpusPacketQueue :=
  let abandoned := next.sequence - queue.nextPlayoutSequence
  let consumed := queue.receiverDroppedRanges.consumeRange queue.nextPlayoutSequence abandoned
  ({ next with
      resetDecoder := true
      abandonedReceiverDropPackets := consumed.1
      abandonedGapPackets := abandoned - consumed.1 },
    { queue with receiverDroppedRanges := consumed.2 : ParticipantOpusPacketQueue }.playPacket index
      next.sequence)

def concealGap (next : ReceivedPacket) (now : Int) : PlayoutPacket × ParticipantOpusPacketQueue :=
  let consumed := queue.receiverDroppedRanges.consume queue.nextPlayoutSequence
  ({ makeLossConcealmentPacket next queue.nextPlayoutSequence now with
      receiverDropPending := consumed.1 },
    { queue with
      receiverDroppedRanges := consumed.2
      nextPlayoutSequence := queue.nextPlayoutSequence + 1
      gapLossRunActive := true
      gapLossRunPackets := queue.gapLossRunPackets + 1
      : ParticipantOpusPacketQueue }.publishPlayoutSequence.resetGapWait)

/-- The earliest packet is not the one that is due. -/
def dequeueAcrossGap (now : Int)
    (index : Nat) (next : ReceivedPacket) : DequeueStatus × ParticipantOpusPacketQueue :=
  let skipped := queue.skipReceiverDrops next.sequence
  if skipped.nextPlayoutSequence = next.sequence then
    (.packet { next with resetDecoder := true }, skipped.playPacket index next.sequence)
  else
    let waited := skipped.shouldWaitForGap gapWaitPackets
    if waited.1 then (.waitingForGap, waited.2)
    else if waited.2.gapLossRunActive = true ∧
        maxOpusConsecutiveGapPlcPackets ≤ waited.2.gapLossRunPackets then
      let abandoned := waited.2.abandonGap index next
      (.packet abandoned.1, abandoned.2)
    else
      let concealed := waited.2.concealGap next now
      (.packet concealed.1, concealed.2)

def dequeueSequencedForPlayout
    (ambient : QueueAmbient) : DequeueStatus × ParticipantOpusPacketQueue :=
  if queue.sequenced = [] then (.empty, queue.resetGapWait)
  else if ambient.publishing = true then (.waitingForGap, queue)
  else
    let current := queue.startPlayout.discardStalePackets
    let index := earliestIndex current.sequenced
    match current.sequenced[index]? with
    | none => (.empty, current.resetGapWait)
    | some next =>
      if next.sequence = current.nextPlayoutSequence then
        (.packet { next with }, current.playPacket index next.sequence)
      else current.dequeueAcrossGap gapWaitPackets ambient.now index next

def dequeue (ambient : QueueAmbient) :
    DequeueStatus × ParticipantOpusPacketQueue :=
  let drained := queue.drainIncomingForPlayout ambient.publicationsOpen
  match drained.unsequenced with
  | packet :: rest =>
    (.packet { packet with },
      { drained with unsequenced := rest, bufferedCount := drained.bufferedCount.decrement })
  | [] => drained.dequeueSequencedForPlayout gapWaitPackets ambient

variable (ambient : QueueAmbient)

/-- Drop the earliest packet to shorten the queue. The answer is whether the drop may
be reported at once; `none` if nothing was dropped. -/
def discardOldestActualPacketForLatencyTrim : Option Bool × ParticipantOpusPacketQueue :=
  let drained := queue.drainIncomingForPlayout ambient.publicationsOpen
  if ambient.publishing = true then (none, drained)
  else
    match drained.unsequenced with
    | _ :: rest =>
      (some true,
        { drained with unsequenced := rest, bufferedCount := drained.bufferedCount.decrement })
    | [] =>
      let index := earliestIndex drained.sequenced
      match drained.sequenced[index]? with
      | none => (none, drained)
      | some earliest =>
        let erased := { drained with
          sequenced := eraseSequencedAt drained.sequenced index
          bufferedCount := drained.bufferedCount.decrement }
        if drained.playoutInitialized = false then (some true, erased)
        else if earliest.sequence = drained.nextPlayoutSequence then
          (some true,
            { erased with
              nextPlayoutSequence := earliest.sequence + 1
              : ParticipantOpusPacketQueue }.resetGapWait.publishPlayoutSequence)
        else
          (some false,
            { erased with
              receiverDroppedRanges := drained.receiverDroppedRanges.record earliest.sequence })

/-- The state after a reset, whatever is still coming in. -/
def restarted : ParticipantOpusPacketQueue :=
  { queue with
    unsequenced := []
    sequenced := []
    playoutInitialized := false
    nextPlayoutSequence := 0
    gapLossRunActive := false
    gapLossRunPackets := 0
    receiverDroppedRanges := {}
    internalReceiverDrops := 0
    playoutInitializedSnapshot := false
    nextPlayoutSequenceSnapshot := 0 : ParticipantOpusPacketQueue }.resetGapWait

/-- The answer is the number of packets discarded, if the queue was reset. -/
def discardAllForLocalMute : Option Nat × ParticipantOpusPacketQueue :=
  let drained := queue.drainIncomingForPlayout ambient.publicationsOpen
  if ambient.publishing = true then (none, drained)
  else
    let discarded := drained.unsequenced.length + drained.sequenced.length
    (some discarded,
      { drained.restarted with bufferedCount := drained.bufferedCount.decrementTimes discarded })

def clear : ParticipantOpusPacketQueue :=
  { queue.restarted with
    incoming := []
    bufferedCount := { queue.bufferedCount with value := 0 }
    admissionTracker := {} }

end ParticipantOpusPacketQueue

end Sesivo
