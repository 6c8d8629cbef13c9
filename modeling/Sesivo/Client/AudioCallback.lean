import Sesivo.Client.JitterPolicy
import Sesivo.Client.Conservation

set_option autoImplicit false

/- The part of the audio callback that plays one participant: the packets it takes
from the jitter buffer, the decoded frames that wait to be mixed, and the counters the
delivery reports are made of. A step takes at most one packet from the buffer, so the
network thread may come in between. What the decoder, the mixer, the clock and the
jitter settings say is ambient. -/

namespace Sesivo

/-- Decoded frames of one packet that have not been mixed yet. -/
structure OpusPcmCaptureChunk where
  frames : Nat
  receivedMedia : Bool
deriving DecidableEq

/-- The chunks in the order of playout, `pcm_delivery_outcomes.h`. -/
structure PcmDeliveryOutcomes where
  chunks : List OpusPcmCaptureChunk := []
  fits : chunks.length ≤ maxOpusQueueSize := by decide

namespace PcmDeliveryOutcomes

variable (outcomes : PcmDeliveryOutcomes) (frames : Nat)

/-- There is nothing to wait for in an empty chunk; `none` if there is no room. -/
def append (receivedMedia : Bool) : Option PcmDeliveryOutcomes :=
  if frames = 0 then some outcomes
  else if room : outcomes.chunks.length < maxOpusQueueSize then
    some ⟨outcomes.chunks ++ [⟨frames, receivedMedia⟩], by
      rw [List.length_append]
      exact room⟩
  else none

/-- Take frames from the front: how many received packets that finishes, and the rest. -/
def consumeChunks : Nat → List OpusPcmCaptureChunk → Nat × List OpusPcmCaptureChunk
  | _, [] => (0, [])
  | remaining, chunk :: chunks =>
    if remaining = 0 then (0, chunk :: chunks)
    else if remaining < chunk.frames then
      (0, { chunk with frames := chunk.frames - remaining } :: chunks)
    else
      let rest := consumeChunks (remaining - chunk.frames) chunks
      (rest.1 + chunk.receivedMedia.toNat, rest.2)

theorem consumeChunks_length (remaining : Nat) (chunks : List OpusPcmCaptureChunk) :
    (consumeChunks remaining chunks).2.length ≤ chunks.length := by
  induction chunks generalizing remaining with
  | nil => exact le_refl _
  | cons chunk chunks ih =>
    unfold consumeChunks
    split
    · exact le_refl _
    split
    · exact le_refl _
    · exact (ih (remaining - chunk.frames)).trans (Nat.le_succ _)

def consume : Nat × PcmDeliveryOutcomes :=
  ((consumeChunks frames outcomes.chunks).1,
    ⟨(consumeChunks frames outcomes.chunks).2,
      (consumeChunks_length frames outcomes.chunks).trans outcomes.fits⟩)

/-- The received packets that wait to be mixed. -/
def pendingReceived : Nat := outcomes.chunks.countP OpusPcmCaptureChunk.receivedMedia

def discardAllAsLost : Nat × PcmDeliveryOutcomes := (outcomes.pendingReceived, {})

def discardOverflowAsLost (incomingReceived : Bool) : Nat × PcmDeliveryOutcomes :=
  (outcomes.discardAllAsLost.1 + incomingReceived.toNat, outcomes.discardAllAsLost.2)

end PcmDeliveryOutcomes

def opusPcmBufferSize : Nat := 1920

def jitterPacketAgeExceedsLimit (packetAgeNs ageLimitMs : Int) : Bool :=
  JitterPolicy.jitterPacketAgeLimitEnabled ageLimitMs && ageLimitMs * 1000000 < packetAgeNs

/-- A participant's playout. The jitter buffer comes with the history of its calls. -/
structure ReceiverPlayout where
  log : PlayoutLog := {}
  bufferReady : Bool := false
  opusConsecutiveEmptyCallbacks : Nat := 0
  lastCodec : UInt8 := audioCodecOpus
  opusPcmBufferedFrames : Nat := 0
  opusPcmOutcomes : PcmDeliveryOutcomes := {}
  receiverDeliveryDelivered : Nat := 0
  receiverDeliveryDrops : Nat := 0
  sequenceGapsDeclaredLost : Nat := 0

/-- What became of a packet that was decoded. -/
inductive DecodeOutcome where
  | failed
  | overflowed
  | buffered

namespace ReceiverPlayout

variable (playout : ReceiverPlayout) (count : Nat)

def addDrops : ReceiverPlayout :=
  { playout with receiverDeliveryDrops := playout.receiverDeliveryDrops + count }

def addGaps : ReceiverPlayout :=
  { playout with sequenceGapsDeclaredLost := playout.sequenceGapsDeclaredLost + count }

/-- A call of the jitter buffer. -/
def call (op : QueueOp) : ReceiverPlayout := { playout with log := playout.log.step op }

def takeInternalReceiverDrops : ReceiverPlayout :=
  (playout.call .takeInternalReceiverDrops).addDrops playout.log.queue.takeInternalReceiverDrops.1

/-- One round of the loops that shorten the queue, and whether there may be another. -/
def trimOldest (ambient : QueueAmbient) : Bool × ReceiverPlayout :=
  match (playout.log.queue.discardOldestActualPacketForLatencyTrim ambient).1 with
  | none => (false, playout.call (.latencyTrim ambient))
  | some receiverDropReady =>
    (true, (playout.call (.latencyTrim ambient)).addDrops receiverDropReady.toNat)

variable (frames : Nat)

/-- Mix frames into the output, and count the packets that are finished with them. -/
def mixOpusPcm : ReceiverPlayout :=
  let consumed := min frames playout.opusPcmBufferedFrames
  let outcome := playout.opusPcmOutcomes.consume consumed
  { playout with
    opusPcmBufferedFrames := playout.opusPcmBufferedFrames - consumed
    opusPcmOutcomes := outcome.2
    receiverDeliveryDelivered := playout.receiverDeliveryDelivered + outcome.1
    opusConsecutiveEmptyCallbacks := 0 }

variable (packet : PlayoutPacket)

def countAbandoned : ReceiverPlayout :=
  (playout.addDrops packet.abandonedReceiverDropPackets.toNat).addGaps
    packet.abandonedGapPackets.toNat

def countConcealment : ReceiverPlayout :=
  if packet.receiverDropPending then playout.addDrops 1 else playout.addGaps 1

/-- Whatever is decoded and not mixed yet is given up. -/
def giveUpDecoded (lost : Nat × PcmDeliveryOutcomes) : ReceiverPlayout :=
  { playout with opusPcmOutcomes := lost.2, opusPcmBufferedFrames := 0 : ReceiverPlayout }.addDrops
    lost.1

def resetDecoder : ReceiverPlayout :=
  playout.giveUpDecoded playout.opusPcmOutcomes.discardAllAsLost

def appendOpusCaptureChunk (receivedMedia : Bool) : ReceiverPlayout :=
  match playout.opusPcmOutcomes.append frames receivedMedia with
  | some outcomes => { playout with opusPcmOutcomes := outcomes }
  | none => playout.giveUpDecoded (playout.opusPcmOutcomes.discardOverflowAsLost receivedMedia)

/-- Decode the packet. The two places that do so differ in when they reset the decoder. -/
def decodePacket (reset : Bool) (decodedSamples : Int) :
    DecodeOutcome × ReceiverPlayout :=
  let ready := if reset then playout.resetDecoder else playout
  let counted := if packet.lossConcealment then ready.countConcealment packet else ready
  if decodedSamples ≤ 0 then
    (.failed, if packet.lossConcealment then counted else counted.addDrops 1)
  else if counted.opusPcmBufferedFrames + decodedSamples.toNat ≤ opusPcmBufferSize then
    (.buffered,
      { counted with
        opusPcmBufferedFrames := counted.opusPcmBufferedFrames + decodedSamples.toNat
        : ReceiverPlayout }.appendOpusCaptureChunk decodedSamples.toNat (!packet.lossConcealment))
  else
    (.overflowed,
      counted.giveUpDecoded (counted.opusPcmOutcomes.discardOverflowAsLost (!packet.lossConcealment)))

/-- Nothing was there to be played. A sustained run of that makes the buffer fill again. -/
def countEmptyCallback (rebufferThreshold : Nat) : ReceiverPlayout :=
  if playout.bufferReady then
    if rebufferThreshold ≤ playout.opusConsecutiveEmptyCallbacks + 1 then
      { playout with bufferReady := false, opusConsecutiveEmptyCallbacks := 0 }
    else
      { playout with
        opusConsecutiveEmptyCallbacks := playout.opusConsecutiveEmptyCallbacks + 1 }
  else playout

/-- The callback of a muted participant. -/
def discardForLocalMute (ambient : QueueAmbient) : ReceiverPlayout :=
  { playout.call (.localMute ambient) with
    opusPcmBufferedFrames := 0
    opusPcmOutcomes := {}
    bufferReady := false
    opusConsecutiveEmptyCallbacks := 0 }

def clearAudioPathQueues : ReceiverPlayout :=
  { playout.call .clear with
    opusPcmBufferedFrames := 0
    opusPcmOutcomes := {}
    bufferReady := false
    opusConsecutiveEmptyCallbacks := 0 }

/-- A packet the sequence tracker lets through; all of them have a number. `ready` is
whether the queue is then long enough to start. -/
def receive (packet : ReceivedPacket) (maxPackets : Nat) (accepts muted publicationsOpen ready : Bool) :
    ReceiverPlayout :=
  let numbered := { packet with sequenceValid := true }
  let offered := playout.call (.enqueue numbered maxPackets accepts)
  if (playout.log.queue.enqueueBounded numbered maxPackets accepts).1 then
    if playout.bufferReady = false ∧ ready = true then
      { offered with bufferReady := true, opusConsecutiveEmptyCallbacks := 0 }
    else offered
  else if muted then offered
  else offered.call (.recordReceiverDrop numbered publicationsOpen)

/-- The packets that have been accounted for, those that wait to be mixed among them. -/
def accounted : Nat :=
  playout.receiverDeliveryDelivered + playout.receiverDeliveryDrops +
    playout.sequenceGapsDeclaredLost + playout.opusPcmOutcomes.pendingReceived +
    playout.log.queue.internalReceiverDrops

end ReceiverPlayout

/-- Where the callback stands; `budget` is the number of packets it may still decode. -/
inductive CallbackPhase where
  | idle
  | flushing (left budget : Nat)
  | trimming (left budget : Nat)
  | aging (packet : PlayoutPacket) (budget : Nat)
  | filling (budget : Nat)
  | mixing
deriving DecidableEq

/-- What a step of the callback finds. -/
structure CallbackAmbient where
  queue : QueueAmbient
  gapWaitPackets : Nat
  /-- Whether the queue is long enough to start. -/
  queueReady : Bool
  /-- By how much the queue is longer than it should be. -/
  trimExcess : Nat
  requiredInputFrames : Nat
  mixedFrames : Nat
  now : Int
  ageLimitMs : Int
  decodedSamples : Int
  rebufferThreshold : Nat

namespace ReceiverPlayout

variable (playout : ReceiverPlayout) (ambient : CallbackAmbient) (budget : Nat)

/-- The first packet of the callback, or what is done without one. -/
def dequeueFirst : ReceiverPlayout × CallbackPhase :=
  let after := playout.call (.dequeue ambient.gapWaitPackets ambient.queue)
  let tail := after.lastCodec = audioCodecOpus ∧ 0 < after.opusPcmBufferedFrames
  match (playout.log.queue.dequeue ambient.gapWaitPackets ambient.queue).1 with
  | .packet packet => (after.countAbandoned packet, .aging packet budget)
  | .waitingForGap => (if tail then after.mixOpusPcm ambient.mixedFrames else after, .idle)
  | .empty =>
    (if tail then after.mixOpusPcm ambient.mixedFrames
    else after.countEmptyCallback ambient.rebufferThreshold, .idle)

/-- A packet that is too old is dropped for the next one; otherwise it is decoded. -/
def ageOrDecode (packet : PlayoutPacket) (budget : Nat) : ReceiverPlayout × CallbackPhase :=
  if jitterPacketAgeExceedsLimit (ambient.now - packet.timestamp) ambient.ageLimitMs then
    let after := (playout.addDrops 1).call (.dequeue ambient.gapWaitPackets ambient.queue)
    match (playout.log.queue.dequeue ambient.gapWaitPackets ambient.queue).1 with
    -- what the packet abandons is not counted here
    | .packet next => (after, .aging next budget)
    | _ => (after, .idle)
  else if budget = 0 then (playout, .idle)
  else
    match { playout with lastCodec := packet.codec : ReceiverPlayout }.decodePacket packet
        (packet.resetDecoder && packet.codec = audioCodecOpus) ambient.decodedSamples with
    | (.failed, after) => (after, .idle)
    | (_, after) => (after, .filling (budget - 1))

/-- One round of the loop that decodes further packets while frames are missing. -/
def fill : ReceiverPlayout × CallbackPhase :=
  if playout.opusPcmBufferedFrames < ambient.requiredInputFrames ∧ 0 < budget then
    let after := playout.call (.dequeue ambient.gapWaitPackets ambient.queue)
    match (playout.log.queue.dequeue ambient.gapWaitPackets ambient.queue).1 with
    | .packet packet =>
      match (after.countAbandoned packet).decodePacket packet packet.resetDecoder
          ambient.decodedSamples with
      | (.buffered, decoded) => (decoded, .filling (budget - 1))
      | (_, decoded) => (decoded, .mixing)
    | _ => (after, .mixing)
  else (playout, .mixing)

/-- The next step of the callback. -/
def proceed : CallbackPhase → ReceiverPlayout × CallbackPhase
  | .idle => (playout, .idle)
  | .flushing 0 budget =>
    if playout.bufferReady = true ∨ ambient.queueReady = true then
      ({ playout with
        bufferReady := true
        opusConsecutiveEmptyCallbacks :=
          if playout.bufferReady then playout.opusConsecutiveEmptyCallbacks else 0 },
        .trimming (if playout.lastCodec = audioCodecOpus then ambient.trimExcess else 0) budget)
    else (playout, .idle)
  | .flushing (left + 1) budget =>
    ((playout.trimOldest ambient.queue).2,
      .flushing (if (playout.trimOldest ambient.queue).1 then left else 0) budget)
  | .trimming 0 budget =>
    if playout.lastCodec = audioCodecOpus ∧
        ambient.requiredInputFrames ≤ playout.opusPcmBufferedFrames then
      (playout.mixOpusPcm ambient.mixedFrames, .idle)
    else if budget = 0 then (playout, .idle)
    else playout.dequeueFirst ambient budget
  | .trimming (left + 1) budget =>
    ((playout.trimOldest ambient.queue).2,
      .trimming (if (playout.trimOldest ambient.queue).1 then left else 0) budget)
  | .aging packet budget => playout.ageOrDecode ambient packet budget
  | .filling budget => playout.fill ambient budget
  | .mixing =>
    (if ambient.requiredInputFrames ≤ playout.opusPcmBufferedFrames ∨
        0 < playout.opusPcmBufferedFrames then
      playout.mixOpusPcm ambient.mixedFrames
    else playout, .idle)

end ReceiverPlayout

/-- The callback and the network thread. The position of playout and what had been
accounted for are remembered from when playout was last not under way. -/
structure AudioCallback where
  playout : ReceiverPlayout := {}
  phase : CallbackPhase := .idle
  startPosition : Nat := 0
  startAccounted : Nat := 0

inductive CallbackMove where
  | receive (packet : ReceivedPacket) (maxPackets : Nat) (accepts muted publicationsOpen ready : Bool)
  /-- A change of the settings asks for a new start of the buffer. -/
  | rebuffer
  /-- The stream is stopped and all queues are cleared. -/
  | clear
  /-- The callback begins; a stalled delivery may have left `excess` packets too many. -/
  | start (muted : Bool) (excess budget : Nat) (ambient : QueueAmbient)
  | proceed (ambient : CallbackAmbient)

namespace AudioCallback

variable (callback : AudioCallback)

/-- Take over the result of a step. -/
def settle (anew : Bool) (playout : ReceiverPlayout)
    (phase : CallbackPhase) : AudioCallback :=
  if anew = true ∨ playout.log.queue.playoutInitialized = false then
    ⟨playout, phase, playout.log.position, playout.accounted⟩
  else ⟨playout, phase, callback.startPosition, callback.startAccounted⟩

def step : CallbackMove → AudioCallback
  | .receive packet maxPackets accepts muted publicationsOpen ready =>
    callback.settle false
      (callback.playout.receive packet maxPackets accepts muted publicationsOpen ready)
      callback.phase
  | .rebuffer => { callback with playout := { callback.playout with bufferReady := false } }
  | .clear =>
    match callback.phase with
    | .idle => callback.settle true callback.playout.clearAudioPathQueues .idle
    | _ => callback
  | .start muted excess budget ambient =>
    match callback.phase with
    | .idle =>
      if muted then callback.settle true (callback.playout.discardForLocalMute ambient) .idle
      else
        callback.settle false callback.playout.takeInternalReceiverDrops
          (.flushing excess budget)
    | _ => callback
  | .proceed ambient =>
    callback.settle false (callback.playout.proceed ambient callback.phase).1
      (callback.playout.proceed ambient callback.phase).2

end AudioCallback

end Sesivo
