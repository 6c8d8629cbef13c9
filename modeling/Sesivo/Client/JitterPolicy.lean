import Sesivo.Client.PacketQueue
import Mathlib.Data.List.Sort

set_option autoImplicit false

/- How many packets a participant's jitter buffer aims to hold: the arithmetic of
`jitter_policy.h`, and the operations of `client_runtime.cpp` that set the target
when a packet arrives, when a setting changes, and at the end of each window of
audio callbacks. -/

namespace Sesivo

open AudioPacket OpusNetworkClock

def targetOpusQueueSize : Nat := 3
def minJitterBufferPackets : Nat := 3
def minOpusJitterPackets : Nat := 0
def defaultOpusJitterMs : Int := 20
def defaultOpusAutoStartJitterMs : Int := 40
def defaultOpusJitterPackets : Nat := 2
def defaultOpusQueueLimitPackets : Nat := 64
def maxOpusJitterPackets : Nat := 32
def minOpusQueueLimitPackets : Nat := 1
def maxOpusQueueLimitPackets : Nat := 128
def defaultJitterPacketAgeMs : Int := 120
def minJitterPacketAgeMs : Int := 0
def maxJitterPacketAgeMs : Int := 250
def opusAutoJitterControlWindowCallbacks : Nat := 200
def opusAutoJitterEventsBeforeIncrease : Nat := 3
def opusDefaultFrameCount : UInt16 := 480

namespace JitterPolicy

def clampOpusJitterPackets (packets : Nat) : Nat :=
  max minOpusJitterPackets (min packets maxOpusJitterPackets)

/-- The packets that last at least `targetMs`. -/
def opusJitterPacketsForMs (targetMs : Int) (sampleRate : UInt32) (frameCount : UInt16) : Nat :=
  if targetMs ≤ 0 ∨ sampleRate = 0 ∨ frameCount = 0 then minOpusJitterPackets
  else
    let denominator := frameCount.toNat * 1000
    let numerator := targetMs.toNat * sampleRate.toNat
    clampOpusJitterPackets ((numerator + denominator - 1) / denominator)

/-- The packets that last at most `targetMs`. -/
def opusJitterPacketsWithinMs (targetMs : Int) (sampleRate : UInt32) (frameCount : UInt16) : Nat :=
  if targetMs ≤ 0 ∨ sampleRate = 0 ∨ frameCount = 0 then minOpusJitterPackets
  else
    let denominator := frameCount.toNat * 1000
    let numerator := targetMs.toNat * sampleRate.toNat
    clampOpusJitterPackets (numerator / denominator)

def jitterPacketAgeLimitEnabled (ageLimitMs : Int) : Bool := 0 < ageLimitMs

def opusJitterMsForPackets (packets : Nat) (sampleRate : UInt32) (frameCount : UInt16) : Int :=
  if packets = 0 ∨ sampleRate = 0 ∨ frameCount = 0 then 0
  else
    let numerator := packets * frameCount.toNat * 1000
    (numerator + sampleRate.toNat / 2) / sampleRate.toNat

def opusAutoStartJitterPacketsForAudio (configuredOpusJitterFloorPackets : Nat)
    (sampleRate : UInt32) (frameCount : UInt16) : Nat :=
  let autoStartPackets :=
    opusJitterPacketsForMs defaultOpusAutoStartJitterMs sampleRate frameCount
  clampOpusJitterPackets (max configuredOpusJitterFloorPackets autoStartPackets)

def jitterFloorPacketsForAudio (frameCount : UInt16) (jitterMs : Int) (sampleRate : UInt32) : Nat :=
  opusJitterPacketsForMs jitterMs sampleRate frameCount

def jitterTargetShouldSnapToFloor (opusManualOverride opusAutoEnabled bufferReady : Bool)
    (currentTargetPackets floorPackets : Nat) : Bool :=
  if opusManualOverride then false
  else if currentTargetPackets < floorPackets then true
  else if opusAutoEnabled then false
  else !bufferReady && floorPackets < currentTargetPackets

end JitterPolicy

open JitterPolicy

/-- What a participant's jitter control reads and writes. -/
structure JitterParticipant where
  sequenceTracker : SequenceArrivalTracker := {}
  lastPacketFrameCount : UInt16 := 0
  jitterBufferFloorPackets : Nat := minJitterBufferPackets
  jitterBufferMinPackets : Nat := minJitterBufferPackets
  opusQueueLimitPackets : Nat := maxOpusQueueSize
  opusJitterManualOverride : Bool := false
  opusJitterOverrideMs : Int := 0
  opusJitterAutoEnabled : Bool := false
  opusJitterAutoFloorPackets : Nat := defaultOpusJitterPackets
  opusJitterAutoStableCallbacks : Nat := 0
  opusJitterAutoInstabilityEvents : Nat := 0
  opusJitterAutoIncreases : Nat := 0
  opusJitterAutoDecreases : Nat := 0
  bufferReady : Bool := false
  opusConsecutiveEmptyCallbacks : Nat := 0
  lastCodec : UInt8 := audioCodecOpus

/-- A participant that was just registered. -/
instance : Inhabited JitterParticipant := ⟨{}⟩

namespace JitterParticipant

variable (participant : JitterParticipant)

def applyOpusJitterPolicyToParticipant
    (floorPackets autoStartPackets : Nat) (autoEnabled resetTarget : Bool) (queueSize : Nat) :
    JitterParticipant :=
  let floor := clampOpusJitterPackets floorPackets
  let autoStart := max floor (clampOpusJitterPackets autoStartPackets)
  let target := if autoEnabled then autoStart else floor
  let noted := { participant with
    opusJitterAutoEnabled := autoEnabled
    opusJitterAutoFloorPackets := floor
    opusJitterAutoStableCallbacks := 0
    opusJitterAutoInstabilityEvents := 0
    jitterBufferFloorPackets := floor
    opusConsecutiveEmptyCallbacks := 0 }
  if resetTarget = true ∨ participant.jitterBufferMinPackets < target then
    { noted with
      jitterBufferMinPackets := target
      opusQueueLimitPackets := max participant.opusQueueLimitPackets (target + 3)
      bufferReady := if queueSize < max 1 target then false else participant.bufferReady }
  else noted

def opusPlayoutTargetQueuePackets : Nat :=
  min maxOpusJitterPackets (max 1 participant.jitterBufferMinPackets)

def readyThresholdPackets : Nat :=
  if participant.lastCodec = audioCodecOpus then max 1 participant.jitterBufferMinPackets
  else participant.jitterBufferMinPackets

def autoJitterIsActive : Bool :=
  participant.opusJitterAutoEnabled && !participant.opusJitterManualOverride

/-- The largest target the age limit leaves to the automatic control. -/
def maxTarget (ageLimitMs : Int) : Nat :=
  if jitterPacketAgeLimitEnabled ageLimitMs = true ∧ 0 < participant.lastPacketFrameCount then
    max minOpusJitterPackets (opusJitterPacketsWithinMs ageLimitMs sampleRate
      participant.lastPacketFrameCount)
  else maxOpusJitterPackets

def completeAutoJitterControlWindow (ageLimitMs : Int) : JitterParticipant :=
  let instabilityEvents := participant.opusJitterAutoInstabilityEvents
  let counted := { participant with
    opusJitterAutoStableCallbacks := 0
    opusJitterAutoInstabilityEvents := 0 }
  let floorPackets := clampOpusJitterPackets participant.opusJitterAutoFloorPackets
  let maxTarget := participant.maxTarget ageLimitMs
  let limited :=
    if maxTarget < participant.jitterBufferMinPackets then
      { counted with
        jitterBufferMinPackets := maxTarget
        jitterBufferFloorPackets := maxTarget }
    else counted
  let currentTarget := limited.jitterBufferMinPackets
  if opusAutoJitterEventsBeforeIncrease ≤ instabilityEvents then
    if currentTarget < maxTarget then
      let nextTarget := min maxTarget (max 3 (currentTarget + 1))
      if currentTarget < nextTarget then
        { limited with
          jitterBufferMinPackets := nextTarget
          jitterBufferFloorPackets := nextTarget
          opusQueueLimitPackets := max limited.opusQueueLimitPackets (nextTarget + 3)
          opusJitterAutoIncreases := limited.opusJitterAutoIncreases + 1 }
      else limited
    else limited
  else if instabilityEvents = 0 ∧ floorPackets < currentTarget then
    { limited with
      jitterBufferMinPackets := currentTarget - 1
      jitterBufferFloorPackets := currentTarget - 1
      opusJitterAutoDecreases := limited.opusJitterAutoDecreases + 1 }
  else limited

def observeAutoJitterWindowCallback (ageLimitMs : Int) : JitterParticipant :=
  let observed := { participant with
    opusJitterAutoStableCallbacks := participant.opusJitterAutoStableCallbacks + 1 }
  if opusAutoJitterControlWindowCallbacks ≤ observed.opusJitterAutoStableCallbacks then
    observed.completeAutoJitterControlWindow ageLimitMs
  else observed

def observeAutoJitterInstability (ageLimitMs : Int) : JitterParticipant :=
  if participant.autoJitterIsActive = false then participant
  else
    { participant with
      opusJitterAutoInstabilityEvents :=
        participant.opusJitterAutoInstabilityEvents + 1 }.observeAutoJitterWindowCallback ageLimitMs

def observeAutoJitterStable (ageLimitMs : Int) : JitterParticipant :=
  if participant.autoJitterIsActive = false then participant
  else participant.observeAutoJitterWindowCallback ageLimitMs

end JitterParticipant

def maxReceiveQueuePackets (frameCount : UInt16) (opusQueueLimit : Nat) : Nat :=
  let baseLimit := if frameCount ≤ 128 then 8 else targetOpusQueueSize + 1
  min (max baseLimit opusQueueLimit) maxOpusQueueSize

/-- What the jitter control finds around it: the sample rate of the device,
whether a decoder can be set up for a new sender, the length of each queue, the
length after an arrival unless the queue rejects it, and the order in which the
map of participants is walked next. -/
structure JitterAmbient where
  currentAudioSampleRate : Int
  registers : Bool
  queueSize : UInt32 → Nat
  queueAfterEnqueue : Option Nat
  rank : UInt32 → Nat

structure JitterControl where
  opusNetworkFrameCount : UInt16 := opusDefaultFrameCount
  opusJitterBufferMs : Int := defaultOpusJitterMs
  opusQueueLimitPackets : Nat := defaultOpusQueueLimitPackets
  jitterPacketAgeLimitMs : Int := defaultJitterPacketAgeMs
  opusAutoJitterDefault : Bool := true
  participants : Store UInt32 JitterParticipant := ∅
  /-- The participants that `for_each` visits. -/
  audioSnapshot : List UInt32 := []

namespace JitterControl

variable (control : JitterControl) (ambient : JitterAmbient)

def deviceSampleRate : UInt32 := UInt32.ofNat (max 1 ambient.currentAudioSampleRate).toNat

def opusJitterPacketsForTargetMs (targetMs : Int) : Nat :=
  let sampleRate := deviceSampleRate ambient
  let packets := opusJitterPacketsForMs targetMs sampleRate control.opusNetworkFrameCount
  if 0 < control.jitterPacketAgeLimitMs then
    min packets (opusJitterPacketsWithinMs control.jitterPacketAgeLimitMs sampleRate
      control.opusNetworkFrameCount)
  else packets

def opusJitterEffectiveMsForPackets (packets : Nat) : Int :=
  opusJitterMsForPackets packets (deviceSampleRate ambient) control.opusNetworkFrameCount

variable (participant : JitterParticipant)

def opusFrameCountForParticipant : UInt16 :=
  if 0 < participant.lastPacketFrameCount then participant.lastPacketFrameCount
  else control.opusNetworkFrameCount

/-- The floor for packets of the given length, kept within the age limit. -/
def floorWithinAgeLimit (frameCount : UInt16) (jitterMs : Int) : Nat :=
  let packets := jitterFloorPacketsForAudio frameCount jitterMs sampleRate
  if 0 < control.jitterPacketAgeLimitMs then
    min packets (opusJitterPacketsWithinMs control.jitterPacketAgeLimitMs
      sampleRate frameCount)
  else packets

def opusJitterPacketsForParticipantMs (targetMs : Int) : Nat :=
  control.floorWithinAgeLimit (control.opusFrameCountForParticipant participant) targetMs

def jitterFloorForPacket (frameCount : UInt16) : Nat :=
  control.floorWithinAgeLimit frameCount control.opusJitterBufferMs

def opusAutoStartJitterPacketsForParticipant (floorPackets : Nat) : Nat :=
  opusAutoStartJitterPacketsForAudio floorPackets sampleRate
    (control.opusFrameCountForParticipant participant)

/-- Derive the floor and the automatic start from a global setting and apply them. -/
def applyGlobal (targetMs : Int) (autoEnabled resetTarget : Bool)
    (queueSize : Nat) : JitterParticipant :=
  let floorPackets := control.opusJitterPacketsForParticipantMs participant targetMs
  participant.applyOpusJitterPolicyToParticipant floorPackets
    (control.opusAutoStartJitterPacketsForParticipant participant floorPackets) autoEnabled
    resetTarget queueSize

/-- The participants in the order of the map, cut to what a callback may visit. -/
def publishAudioSnapshot : JitterControl :=
  { control with
    audioSnapshot := ((control.participants.pairs.map Prod.fst).insertionSort
      fun left right => ambient.rank left ≤ ambient.rank right).take maxRoomParticipants }

/-- Visit the participants of the audio snapshot. -/
def forEach (update : UInt32 → JitterParticipant → JitterParticipant) : JitterControl :=
  { control with
    participants := control.participants.mapValues fun id participant =>
      if id ∈ control.audioSnapshot then update id participant else participant }

variable (id : UInt32)

def withParticipant (update : JitterParticipant → JitterParticipant) : JitterControl :=
  { control with participants := control.participants.adjust id update }

/-- What a global jitter setting does to one participant. -/
def applyJitterMs (clampedMs : Int) (id : UInt32) (participant : JitterParticipant) :
    JitterParticipant :=
  if participant.opusJitterManualOverride then participant
  else if participant.lastCodec = audioCodecOpus ∨
      defaultOpusJitterPackets ≤ participant.jitterBufferFloorPackets then
    control.applyGlobal participant clampedMs participant.opusJitterAutoEnabled true
      (ambient.queueSize id)
  else participant

def applyOpusJitterBufferMs (clampedMs : Int) : JitterControl :=
  let stored := { control with opusJitterBufferMs := clampedMs }
  stored.forEach (stored.applyJitterMs ambient clampedMs)

def applyOpusNetworkFrameCount (normalized : UInt16) : JitterControl :=
  let stored := { control with opusNetworkFrameCount := normalized }
  if control.opusNetworkFrameCount ≠ normalized then
    stored.applyOpusJitterBufferMs ambient control.opusJitterBufferMs
  else stored

def clampOpusJitterMsForAgeLimit (targetMs ageLimitMs : Int) : Int :=
  let clampedMs := max 0 (min targetMs maxJitterPacketAgeMs)
  if 0 < ageLimitMs then min clampedMs ageLimitMs else clampedMs

def setOpusJitterBufferMs (targetMs : Int) : JitterControl :=
  control.applyOpusJitterBufferMs ambient
    (clampOpusJitterMsForAgeLimit targetMs control.jitterPacketAgeLimitMs)

def setOpusJitterBufferPackets (packets : Nat) : JitterControl :=
  control.setOpusJitterBufferMs ambient
    (control.opusJitterEffectiveMsForPackets ambient
      (max minOpusJitterPackets (min packets maxOpusJitterPackets)))

def setOpusQueueLimitPackets (packets : Nat) : JitterControl :=
  let minLimit := max minOpusQueueLimitPackets
    (control.opusJitterPacketsForTargetMs ambient control.opusJitterBufferMs)
  let clamped := max minLimit (min packets maxOpusQueueLimitPackets)
  let stored := { control with opusQueueLimitPackets := clamped }
  stored.forEach fun _ participant => { participant with opusQueueLimitPackets := clamped }

/-- What a new age limit does to one participant. -/
def limitTarget (clamped : Int) (participant : JitterParticipant) : JitterParticipant :=
  let maxPackets := opusJitterPacketsWithinMs clamped sampleRate
    (control.opusFrameCountForParticipant participant)
  if participant.jitterBufferMinPackets ≤ maxPackets then participant
  else
    { participant with
      jitterBufferMinPackets := maxPackets
      jitterBufferFloorPackets := min participant.jitterBufferFloorPackets maxPackets
      opusJitterAutoFloorPackets := min participant.opusJitterAutoFloorPackets maxPackets }

/-- The global setting is lowered to a new age limit. -/
def lowerJitterMs (clamped : Int) : JitterControl :=
  if clamped < control.opusJitterBufferMs then control.applyOpusJitterBufferMs ambient clamped
  else control

def clampAgeMs (ageMs : Int) : Int := max minJitterPacketAgeMs (min ageMs maxJitterPacketAgeMs)

def setJitterPacketAgeLimitMs (ageMs : Int) : JitterControl :=
  let clamped := clampAgeMs ageMs
  let stored := { control with jitterPacketAgeLimitMs := clamped }
  if clamped ≤ 0 then stored
  else
    let lowered := stored.lowerJitterMs ambient clamped
    lowered.forEach fun _ participant => lowered.limitTarget clamped participant

/-- What a new default does to one participant. -/
def applyAutoDefault (enabled : Bool) (id : UInt32) (participant : JitterParticipant) :
    JitterParticipant :=
  if participant.opusJitterManualOverride then participant
  else
    control.applyGlobal participant control.opusJitterBufferMs enabled (!enabled)
      (ambient.queueSize id)

def setOpusAutoJitterDefault (enabled : Bool) : JitterControl :=
  let stored := { control with opusAutoJitterDefault := enabled }
  stored.forEach (stored.applyAutoDefault ambient enabled)

def setManual (clampedMs : Int) (queueSize : Nat) (participant : JitterParticipant) :
    JitterParticipant :=
  let clamped := control.opusJitterPacketsForParticipantMs participant clampedMs
  { participant with
    opusJitterManualOverride := true
    opusJitterOverrideMs := clampedMs
    opusJitterAutoEnabled := false
    jitterBufferFloorPackets := clamped
    jitterBufferMinPackets := clamped
    opusQueueLimitPackets := max participant.opusQueueLimitPackets clamped
    bufferReady := if queueSize < max 1 clamped then false else participant.bufferReady
    opusConsecutiveEmptyCallbacks := 0 }

def setParticipantOpusJitterBufferMs (targetMs : Int) : JitterControl :=
  control.withParticipant id (control.setManual
    (clampOpusJitterMsForAgeLimit targetMs control.jitterPacketAgeLimitMs) (ambient.queueSize id))

/-- Leave manual control for the global setting. -/
def leaveManual (autoEnabled resetTarget : Bool) (queueSize : Nat)
    (participant : JitterParticipant) : JitterParticipant :=
  control.applyGlobal
    { participant with opusJitterManualOverride := false, opusJitterOverrideMs := 0 }
    control.opusJitterBufferMs autoEnabled resetTarget queueSize

def resetParticipantOpusJitterBufferPackets : JitterControl :=
  control.withParticipant id (control.leaveManual false true (ambient.queueSize id))

def setParticipantOpusAutoJitter (enabled : Bool) : JitterControl :=
  control.withParticipant id (control.leaveManual enabled (!enabled) (ambient.queueSize id))

def applyDefaultOpusJitterPolicy (queueSize : Nat) (participant : JitterParticipant) :
    JitterParticipant :=
  if participant.opusJitterManualOverride then participant
  else
    control.applyGlobal participant control.opusJitterBufferMs control.opusAutoJitterDefault true
      queueSize

def updateJitterFloor (queueSize : Nat) (hdr : ParsedAudioHeader)
    (participant : JitterParticipant) : JitterParticipant :=
  let manualOverride :=
    decide (hdr.codec = audioCodecOpus) && participant.opusJitterManualOverride
  let floorPackets :=
    if manualOverride then control.floorWithinAgeLimit hdr.frameCount participant.opusJitterOverrideMs
    else control.jitterFloorForPacket hdr.frameCount
  if manualOverride then
    { participant with
      jitterBufferFloorPackets := floorPackets
      jitterBufferMinPackets := floorPackets
      bufferReady :=
        if participant.jitterBufferMinPackets ≠ floorPackets ∧ queueSize < max 1 floorPackets then
          false
        else participant.bufferReady }
  else
    let floored := { participant with opusJitterAutoFloorPackets := floorPackets }
    if participant.lastPacketFrameCount = 0 ∨
        participant.lastPacketFrameCount ≠ hdr.frameCount then
      floored.applyOpusJitterPolicyToParticipant floorPackets
        (opusAutoStartJitterPacketsForAudio floorPackets sampleRate hdr.frameCount)
        participant.opusJitterAutoEnabled true queueSize
    else
      { floored with
        jitterBufferFloorPackets := floorPackets
        jitterBufferMinPackets :=
          if jitterTargetShouldSnapToFloor participant.opusJitterManualOverride
              participant.opusJitterAutoEnabled participant.bufferReady
              participant.jitterBufferMinPackets floorPackets then
            floorPackets
          else participant.jitterBufferMinPackets }

/-- An arrival that is not a duplicate, up to the point where the queue has it. -/
def admitPacket (hdr : ParsedAudioHeader) (participant : JitterParticipant) : JitterParticipant :=
  let floored := control.updateJitterFloor (ambient.queueSize id) hdr participant
  let measured := { floored with
    lastPacketFrameCount := hdr.frameCount
    opusQueueLimitPackets := maxReceiveQueuePackets hdr.frameCount
      (max control.opusQueueLimitPackets (floored.opusPlayoutTargetQueuePackets + 3)) }
  match ambient.queueAfterEnqueue with
  | none => measured
  | some queueAfterEnqueue =>
    if measured.bufferReady = false ∧ measured.readyThresholdPackets ≤ queueAfterEnqueue then
      { measured with bufferReady := true, opusConsecutiveEmptyCallbacks := 0 }
    else measured

def receivePacket (hdr : ParsedAudioHeader) (participant : JitterParticipant) : JitterParticipant :=
  let (delta, tracker) := participant.sequenceTracker.record hdr.sequence
  let recorded := { participant with sequenceTracker := tracker }
  if sequenceArrivalShouldEnqueue delta then control.admitPacket ambient id hdr recorded
  else recorded

/-- Enter the sender of a packet under the default policy. -/
def registerParticipant : JitterControl :=
  let entered := { control with
    participants := control.participants.insert id
      (control.applyDefaultOpusJitterPolicy (ambient.queueSize id) default) }
  entered.publishAudioSnapshot ambient

/-- One valid audio packet; the sender is registered if it is not known yet. -/
def handleAudioMessage (hdr : ParsedAudioHeader) : JitterControl :=
  match validateAudioPacketShape hdr with
  | .error _ => control
  | .ok _ =>
    match control.participants.lookup hdr.senderId with
    | some _ =>
      control.withParticipant hdr.senderId (control.receivePacket ambient hdr.senderId hdr)
    | none =>
      if ambient.registers = false then control
      else
        (control.registerParticipant ambient hdr.senderId).withParticipant hdr.senderId
          (control.receivePacket ambient hdr.senderId hdr)

/-- One step of the automatic control, in the audio callback. -/
def observeAutoJitter (unstable : Bool) : JitterControl :=
  control.forEach fun other participant =>
    if other = id then
      if unstable then participant.observeAutoJitterInstability control.jitterPacketAgeLimitMs
      else participant.observeAutoJitterStable control.jitterPacketAgeLimitMs
    else participant

/-- What else the audio callback writes. -/
def playOut (bufferReady : Bool) (emptyCallbacks : Nat) : JitterControl :=
  control.forEach fun other participant =>
    if other = id then
      { participant with
        bufferReady := bufferReady
        opusConsecutiveEmptyCallbacks := emptyCallbacks }
    else participant

/-- Participants that leave or time out; all of them when the client leaves. -/
def removeParticipants (leaving : List UInt32) : JitterControl :=
  let left := { control with
    participants := control.participants.keep fun id _ => decide (id ∉ leaving) }
  left.publishAudioSnapshot ambient

end JitterControl

/-- Everything that can happen to the jitter control. -/
inductive JitterEvent where
  | applyOpusNetworkFrameCount (normalized : UInt16)
  | setOpusJitterBufferMs (targetMs : Int)
  | setOpusJitterBufferPackets (packets : Nat)
  | setOpusQueueLimitPackets (packets : Nat)
  | setJitterPacketAgeLimitMs (ageMs : Int)
  | setOpusAutoJitterDefault (enabled : Bool)
  | setParticipantOpusJitterBufferMs (id : UInt32) (targetMs : Int)
  | resetParticipantOpusJitterBufferPackets (id : UInt32)
  | setParticipantOpusAutoJitter (id : UInt32) (enabled : Bool)
  | handleAudioMessage (hdr : ParsedAudioHeader)
  | observeAutoJitter (id : UInt32) (unstable : Bool)
  | playOut (id : UInt32) (bufferReady : Bool) (emptyCallbacks : Nat)
  | removeParticipants (leaving : List UInt32)

namespace JitterControl

def step (control : JitterControl) (input : JitterAmbient × JitterEvent) : JitterControl :=
  match input with
  | (ambient, .applyOpusNetworkFrameCount normalized) =>
    control.applyOpusNetworkFrameCount ambient normalized
  | (ambient, .setOpusJitterBufferMs targetMs) => control.setOpusJitterBufferMs ambient targetMs
  | (ambient, .setOpusJitterBufferPackets packets) =>
    control.setOpusJitterBufferPackets ambient packets
  | (ambient, .setOpusQueueLimitPackets packets) => control.setOpusQueueLimitPackets ambient packets
  | (ambient, .setJitterPacketAgeLimitMs ageMs) => control.setJitterPacketAgeLimitMs ambient ageMs
  | (ambient, .setOpusAutoJitterDefault enabled) => control.setOpusAutoJitterDefault ambient enabled
  | (ambient, .setParticipantOpusJitterBufferMs id targetMs) =>
    control.setParticipantOpusJitterBufferMs ambient id targetMs
  | (ambient, .resetParticipantOpusJitterBufferPackets id) =>
    control.resetParticipantOpusJitterBufferPackets ambient id
  | (ambient, .setParticipantOpusAutoJitter id enabled) =>
    control.setParticipantOpusAutoJitter ambient id enabled
  | (ambient, .handleAudioMessage hdr) => control.handleAudioMessage ambient hdr
  | (_, .observeAutoJitter id unstable) => control.observeAutoJitter id unstable
  | (_, .playOut id bufferReady emptyCallbacks) => control.playOut id bufferReady emptyCallbacks
  | (ambient, .removeParticipants leaving) => control.removeParticipants ambient leaving

end JitterControl

end Sesivo
