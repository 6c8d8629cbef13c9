import Sesivo.Client.JitterPolicy
import Sesivo.Lib.Run

set_option autoImplicit false

/- The jitter target against the packet age limit. Every way of setting the target
is compared with the number of packets the limit leaves room for; the automatic
start is the one that does not look at the limit. -/

namespace Sesivo

open AudioPacket JitterPolicy Option OpusNetworkClock

/-- The age limit is on and shorter than the automatic start. -/
def BelowAutoStart (limit : Int) : Prop := 0 < limit ∧ limit < defaultOpusAutoStartJitterMs

namespace JitterPolicy

theorem clamp_eq_min (packets : Nat) : clampOpusJitterPackets packets = min packets 32 := by
  simp only [clampOpusJitterPackets, minOpusJitterPackets, maxOpusJitterPackets]
  omega

theorem packetsForMs_le (targetMs : Int) (sampleRate : UInt32) (frameCount : UInt16) :
    opusJitterPacketsForMs targetMs sampleRate frameCount ≤ 32 := by
  unfold opusJitterPacketsForMs
  split
  · rw [minOpusJitterPackets]
    omega
  · simp only [clamp_eq_min]
    omega

/-- Forty milliseconds of packets fit within a limit exactly if the limit is that long. -/
theorem autoStart_le_iff {limit : Int} (positive : 0 < limit) {frameCount : UInt16}
    (supported : frameCount ∈ supportedFrameCounts) :
    opusJitterPacketsForMs defaultOpusAutoStartJitterMs sampleRate frameCount ≤
        opusJitterPacketsWithinMs limit sampleRate frameCount ↔
      defaultOpusAutoStartJitterMs ≤ limit := by
  have rate : sampleRate.toNat = 48000 := rfl
  have forty : defaultOpusAutoStartJitterMs = 40 := rfl
  have start : frameCount ≠ 0 ∧
      opusJitterPacketsForMs defaultOpusAutoStartJitterMs sampleRate frameCount =
        1920 / frameCount.toNat ∧ frameCount.toNat ∈ [120, 240, 480, 960] := by
    simp only [supportedFrameCounts, List.mem_cons, List.not_mem_nil, or_false] at supported
    rcases supported with rfl | rfl | rfl | rfl <;> decide
  obtain ⟨some_frames, packets, length⟩ := start
  unfold opusJitterPacketsWithinMs
  rw [packets, if_neg (by
    rintro (low | none | none)
    · omega
    · exact absurd none (by decide)
    · exact some_frames none)]
  simp only [clamp_eq_min, rate]
  simp only [List.mem_cons, List.not_mem_nil, or_false] at length
  rcases length with frames | frames | frames | frames <;> rw [frames] <;> omega

end JitterPolicy

/-- The largest target the limit allows for packets of this length. -/
def room (limit : Int) (frameCount : UInt16) : Nat :=
  opusJitterPacketsWithinMs limit sampleRate frameCount

namespace JitterParticipant

variable (participant : JitterParticipant)

/-- The participant's target respects the limit, if there is one. -/
def TargetWithin (limit : Int) : Prop :=
  0 < limit → participant.jitterBufferMinPackets ≤ room limit participant.lastPacketFrameCount

/-- A packet of a supported length has been received from the participant. -/
def Received : Prop := participant.lastPacketFrameCount ∈ supportedFrameCounts

theorem applyPolicy_frameCount (floorPackets autoStartPackets : Nat)
    (autoEnabled resetTarget : Bool) (queueSize : Nat) :
    (participant.applyOpusJitterPolicyToParticipant floorPackets autoStartPackets autoEnabled
      resetTarget queueSize).lastPacketFrameCount = participant.lastPacketFrameCount := by
  exact (apply_ite lastPacketFrameCount _ _ _).trans (ite_self _)

theorem applyPolicy_target (floorPackets autoStartPackets : Nat)
    (autoEnabled resetTarget : Bool) (queueSize : Nat) :
    (participant.applyOpusJitterPolicyToParticipant floorPackets autoStartPackets autoEnabled
        resetTarget queueSize).jitterBufferMinPackets =
      if resetTarget = true ∨ participant.jitterBufferMinPackets <
          (if autoEnabled then
            max (clampOpusJitterPackets floorPackets) (clampOpusJitterPackets autoStartPackets)
          else clampOpusJitterPackets floorPackets) then
        if autoEnabled then
          max (clampOpusJitterPackets floorPackets) (clampOpusJitterPackets autoStartPackets)
        else clampOpusJitterPackets floorPackets
      else participant.jitterBufferMinPackets := by
  exact apply_ite jitterBufferMinPackets _ _ _

variable {limit : Int}

/-- Applying a floor that respects the limit leads to a target that does, unless
the automatic start is used and the limit is below it. -/
theorem applyPolicy_within_iff {frameCount : UInt16} {floorPackets : Nat}
    {autoEnabled resetTarget : Bool} (queueSize : Nat)
    (supported : frameCount ∈ supportedFrameCounts)
    (floor_le : 0 < limit → floorPackets ≤ room limit frameCount) (small : floorPackets ≤ 32)
    (before : resetTarget = false → 0 < limit →
      participant.jitterBufferMinPackets ≤ room limit frameCount)
    (manual : autoEnabled = false → resetTarget = true) :
    (0 < limit → (participant.applyOpusJitterPolicyToParticipant floorPackets
        (opusAutoStartJitterPacketsForAudio floorPackets sampleRate frameCount)
        autoEnabled resetTarget queueSize).jitterBufferMinPackets ≤ room limit frameCount) ↔
      (autoEnabled = true → ¬ BelowAutoStart limit) := by
  have start_small := packetsForMs_le defaultOpusAutoStartJitterMs sampleRate frameCount
  by_cases positive : 0 < limit
  · have start_iff := autoStart_le_iff positive supported
    have floor := floor_le positive
    simp only [positive, forall_const, BelowAutoStart, true_and]
    rw [applyPolicy_target]
    simp only [clamp_eq_min, opusAutoStartJitterPacketsForAudio]
    unfold room at floor before ⊢
    cases autoEnabled with
    | false =>
      rw [manual rfl]
      simp only [true_or, ↓reduceIte, Bool.false_eq_true, false_implies, iff_true]
      omega
    | true =>
      simp only [↓reduceIte, forall_const]
      cases resetTarget with
      | true =>
        simp only [true_or, ↓reduceIte]
        omega
      | false =>
        have held := before rfl positive
        split <;> omega
  · simp [positive, BelowAutoStart]

variable (ageLimitMs : Int)

theorem completeWindow_frameCount :
    (participant.completeAutoJitterControlWindow ageLimitMs).lastPacketFrameCount =
      participant.lastPacketFrameCount := by
  simp only [completeAutoJitterControlWindow]
  repeat' split
  all_goals rfl

/-- A completed window leaves the target within what it takes for the limit. -/
theorem completeWindow_target :
    (participant.completeAutoJitterControlWindow ageLimitMs).jitterBufferMinPackets ≤
      participant.maxTarget ageLimitMs := by
  simp only [completeAutoJitterControlWindow]
  generalize participant.maxTarget ageLimitMs = most
  by_cases above : most < participant.jitterBufferMinPackets
  · split
    · split
      · split
        · exact min_le_left _ _
        · exact le_refl _
      · exact le_refl _
    · split
      · show most - 1 ≤ most
        omega
      · exact le_refl _
  · split
    · split
      · split
        · exact min_le_left _ _
        · exact not_lt.mp above
      · exact not_lt.mp above
    · split
      · show participant.jitterBufferMinPackets - 1 ≤ most
        omega
      · exact not_lt.mp above

variable {participant}

theorem Received.pos (received : participant.Received) : 0 < participant.lastPacketFrameCount := by
  have one_of := received
  simp only [Received, supportedFrameCounts, List.mem_cons, List.not_mem_nil, or_false] at one_of
  rcases one_of with same | same | same | same <;> rw [same] <;> decide

theorem Received.maxTarget_eq (received : participant.Received)
    (positive : 0 < limit) :
    participant.maxTarget limit = room limit participant.lastPacketFrameCount := by
  unfold maxTarget jitterPacketAgeLimitEnabled
  rw [if_pos ⟨decide_eq_true positive, received.pos⟩, minOpusJitterPackets, Nat.zero_max, room]

theorem windowCallback_received (received : participant.Received) (limit : Int) :
    (participant.observeAutoJitterWindowCallback limit).Received := by
  simp only [observeAutoJitterWindowCallback]
  split
  · unfold Received
    rw [completeWindow_frameCount]
    exact received
  · exact received

theorem windowCallback_within (received : participant.Received)
    (within : participant.TargetWithin limit) :
    (participant.observeAutoJitterWindowCallback limit).TargetWithin limit := by
  have counted : Received { participant with
      opusJitterAutoStableCallbacks := participant.opusJitterAutoStableCallbacks + 1 } := received
  simp only [observeAutoJitterWindowCallback]
  split
  · intro positive
    have bound := completeWindow_target { participant with
      opusJitterAutoStableCallbacks := participant.opusJitterAutoStableCallbacks + 1 } limit
    rw [counted.maxTarget_eq positive] at bound
    rw [completeWindow_frameCount]
    exact bound
  · exact within

end JitterParticipant

namespace JitterControl

open JitterParticipant

/-- A step of the automatic control keeps the target within the limit. -/
theorem observe_within {participant : JitterParticipant} (received : participant.Received)
    {limit : Int} (within : participant.TargetWithin limit) (selected unstable : Prop)
    [Decidable selected] [Decidable unstable] :
    (if selected then
      if unstable then participant.observeAutoJitterInstability limit
      else participant.observeAutoJitterStable limit
    else participant).TargetWithin limit := by
  unfold observeAutoJitterInstability observeAutoJitterStable
  repeat' split
  · exact within
  · apply windowCallback_within
    · exact received
    · exact within
  · exact within
  · exact windowCallback_within received within
  · exact within

variable (control : JitterControl) (ambient : JitterAmbient)

/-- Every participant's target respects the age limit in force. -/
def WithinAgeLimit : Prop :=
  ∀ id participant, control.participants.lookup id = some participant →
    participant.TargetWithin control.jitterPacketAgeLimitMs

/-- Every participant is there because a packet of it was received. -/
def AllReceived : Prop :=
  ∀ id participant, control.participants.lookup id = some participant → participant.Received

/-- A participant whose target follows the global setting through the automatic start. -/
def FollowsAutoStart (id : UInt32) (participant : JitterParticipant) : Prop :=
  id ∈ control.audioSnapshot ∧ participant.opusJitterManualOverride = false ∧
    participant.opusJitterAutoEnabled = true ∧
    (participant.lastCodec = audioCodecOpus ∨
      defaultOpusJitterPackets ≤ participant.jitterBufferFloorPackets)

def NoneFollowsAutoStart : Prop :=
  ∀ id participant, control.participants.lookup id = some participant →
    ¬ control.FollowsAutoStart id participant

/-- A packet that makes the automatic start the target of its sender: the first
one of a sender under automatic control, or one of another length than before. -/
def StartsAutomatically (hdr : ParsedAudioHeader) : Prop :=
  validateAudioPacketShape hdr = .ok () ∧
    match control.participants.lookup hdr.senderId with
    | none => ambient.registers = true ∧ control.opusAutoJitterDefault = true
    | some participant =>
      sequenceArrivalShouldEnqueue
          (participant.sequenceTracker.record hdr.sequence).1 = true ∧
        participant.opusJitterManualOverride = false ∧
        participant.opusJitterAutoEnabled = true ∧
        participant.lastPacketFrameCount ≠ hdr.frameCount

/-- The step does not apply the automatic start under a limit below it, and a new
limit reaches every participant whose target is above it. -/
def RespectsLimit (control : JitterControl) : JitterAmbient × JitterEvent → Prop
  | (_, .setOpusJitterBufferMs _) | (_, .setOpusJitterBufferPackets _) =>
    BelowAutoStart control.jitterPacketAgeLimitMs → control.NoneFollowsAutoStart
  | (_, .applyOpusNetworkFrameCount normalized) =>
    control.opusNetworkFrameCount ≠ normalized →
      BelowAutoStart control.jitterPacketAgeLimitMs → control.NoneFollowsAutoStart
  | (_, .setJitterPacketAgeLimitMs ageMs) =>
    ∀ id participant, control.participants.lookup id = some participant →
      id ∉ control.audioSnapshot → participant.TargetWithin (clampAgeMs ageMs)
  | (_, .setOpusAutoJitterDefault enabled) =>
    enabled = true → BelowAutoStart control.jitterPacketAgeLimitMs →
      ∀ id participant, control.participants.lookup id = some participant →
        id ∈ control.audioSnapshot → participant.opusJitterManualOverride = true
  | (_, .setParticipantOpusAutoJitter id enabled) =>
    enabled = true → BelowAutoStart control.jitterPacketAgeLimitMs →
      control.participants.lookup id = none
  | (ambient, .handleAudioMessage hdr) =>
    BelowAutoStart control.jitterPacketAgeLimitMs → ¬ control.StartsAutomatically ambient hdr
  | _ => True

variable (frameCount : UInt16)

theorem floorWithinAgeLimit_le (jitterMs : Int) :
    control.floorWithinAgeLimit frameCount jitterMs ≤ 32 := by
  have bound := packetsForMs_le jitterMs sampleRate frameCount
  simp only [floorWithinAgeLimit, jitterFloorPacketsForAudio]
  split <;> omega

theorem floorWithinAgeLimit_room (jitterMs : Int)
    (positive : 0 < control.jitterPacketAgeLimitMs) :
    control.floorWithinAgeLimit frameCount jitterMs ≤
      room control.jitterPacketAgeLimitMs frameCount := by
  simp only [floorWithinAgeLimit, positive, ↓reduceIte]
  exact min_le_right _ _

variable {control ambient} {participant : JitterParticipant}

theorem frameCountFor_received (received : participant.Received) :
    control.opusFrameCountForParticipant participant = participant.lastPacketFrameCount := by
  unfold opusFrameCountForParticipant
  rw [if_pos received.pos]

/-- The global setting leads to a target within the limit, unless the automatic
start is used under a limit below it. -/
theorem applyGlobal_within_iff (received : participant.Received) (targetMs : Int)
    {autoEnabled resetTarget : Bool} (queueSize : Nat)
    (before : resetTarget = false → participant.TargetWithin control.jitterPacketAgeLimitMs)
    (manual : autoEnabled = false → resetTarget = true) :
    (control.applyGlobal participant targetMs autoEnabled resetTarget queueSize).TargetWithin
        control.jitterPacketAgeLimitMs ↔
      (autoEnabled = true → ¬ BelowAutoStart control.jitterPacketAgeLimitMs) := by
  unfold TargetWithin applyGlobal opusAutoStartJitterPacketsForParticipant
    opusJitterPacketsForParticipantMs
  simp only [applyPolicy_frameCount, frameCountFor_received received]
  apply applyPolicy_within_iff
  · exact received
  · exact control.floorWithinAgeLimit_room _ targetMs
  · exact control.floorWithinAgeLimit_le _ targetMs
  · exact before
  · exact manual

theorem applyGlobal_received (received : participant.Received) (targetMs : Int)
    (autoEnabled resetTarget : Bool) (queueSize : Nat) :
    (control.applyGlobal participant targetMs autoEnabled resetTarget queueSize).Received := by
  unfold Received applyGlobal
  rw [applyPolicy_frameCount]
  exact received

theorem leaveManual_received (received : participant.Received) (autoEnabled resetTarget : Bool)
    (queueSize : Nat) :
    (control.leaveManual autoEnabled resetTarget queueSize participant).Received := by
  apply applyGlobal_received
  exact received

variable (update : UInt32 → JitterParticipant → JitterParticipant)

theorem lookup_forEach (id : UInt32) :
    (control.forEach update).participants.lookup id =
      (control.participants.lookup id).map fun participant =>
        if id ∈ control.audioSnapshot then update id participant else participant :=
  Store.lookup_mapValues _ _ _

/-- Visiting the snapshot keeps all targets within a limit exactly if each visit
does and the participants left out are within it. -/
theorem forEach_within_iff :
    (control.forEach update).WithinAgeLimit ↔
      ∀ id participant, control.participants.lookup id = some participant →
        if id ∈ control.audioSnapshot then
          (update id participant).TargetWithin control.jitterPacketAgeLimitMs
        else participant.TargetWithin control.jitterPacketAgeLimitMs := by
  unfold WithinAgeLimit
  simp only [lookup_forEach, map_eq_some_iff, forall_exists_index, and_imp]
  constructor
  · intro all id participant found
    rw [← apply_ite (TargetWithin · control.jitterPacketAgeLimitMs)]
    exact all id _ participant found rfl
  rintro all id _ participant found rfl
  exact (apply_ite (TargetWithin · control.jitterPacketAgeLimitMs) _ _ _).mpr
    (all id participant found)

theorem forEach_received {update : UInt32 → JitterParticipant → JitterParticipant}
    (all : control.AllReceived)
    (keeps : ∀ id participant, participant.Received → (update id participant).Received) :
    (control.forEach update).AllReceived := by
  intro id participant found
  rw [lookup_forEach] at found
  obtain ⟨before, known, rfl⟩ := map_eq_some_iff.mp found
  have received := all id before known
  split
  · exact keeps id before received
  · exact received

/-- Changing one participant keeps all targets within the limit exactly if its own stays there. -/
theorem withParticipant_within_iff (within : control.WithinAgeLimit) (id : UInt32)
    (update : JitterParticipant → JitterParticipant) :
    (control.withParticipant id update).WithinAgeLimit ↔
      ∀ participant, control.participants.lookup id = some participant →
        (update participant).TargetWithin control.jitterPacketAgeLimitMs := by
  unfold withParticipant WithinAgeLimit
  constructor
  · intro all participant found
    apply all id
    rw [Store.lookup_adjust_self, found]
    rfl
  intro own other participant found
  by_cases same : other = id
  · subst same
    rw [Store.lookup_adjust_self] at found
    obtain ⟨before, known, rfl⟩ := map_eq_some_iff.mp found
    exact own before known
  · rw [Store.lookup_adjust_ne _ _ same] at found
    exact within other participant found

theorem withParticipant_received {id : UInt32} {update : JitterParticipant → JitterParticipant}
    (all : control.AllReceived)
    (keeps : ∀ participant, control.participants.lookup id = some participant →
      (update participant).Received) :
    (control.withParticipant id update).AllReceived := by
  intro other participant found
  unfold withParticipant at found
  by_cases same : other = id
  · subst same
    rw [Store.lookup_adjust_self] at found
    obtain ⟨before, known, rfl⟩ := map_eq_some_iff.mp found
    exact keeps before known
  · rw [Store.lookup_adjust_ne _ _ same] at found
    exact all other participant found

theorem applyJitterMs_within_iff (received : participant.Received)
    (within : participant.TargetWithin control.jitterPacketAgeLimitMs) (clampedMs : Int)
    (id : UInt32) :
    (control.applyJitterMs ambient clampedMs id participant).TargetWithin
        control.jitterPacketAgeLimitMs ↔
      (participant.opusJitterManualOverride = false ∧ participant.opusJitterAutoEnabled = true ∧
        (participant.lastCodec = audioCodecOpus ∨
          defaultOpusJitterPackets ≤ participant.jitterBufferFloorPackets) →
        ¬ BelowAutoStart control.jitterPacketAgeLimitMs) := by
  unfold applyJitterMs
  by_cases manual : participant.opusJitterManualOverride = true
  · simp [manual, within]
  rw [if_neg manual]
  by_cases opus : participant.lastCodec = audioCodecOpus ∨
      defaultOpusJitterPackets ≤ participant.jitterBufferFloorPackets
  · rw [if_pos opus, applyGlobal_within_iff received]
    · simp [manual, opus]
    · intro never
      cases never
    · intro _
      rfl
  · simp [within, opus]

theorem applyJitterMs_received (received : participant.Received) (clampedMs : Int) (id : UInt32) :
    (control.applyJitterMs ambient clampedMs id participant).Received := by
  unfold applyJitterMs
  split
  · exact received
  split
  · exact applyGlobal_received received _ _ _ _
  · exact received

theorem setManual_within (received : participant.Received) (clampedMs : Int) (queueSize : Nat) :
    (control.setManual clampedMs queueSize participant).TargetWithin
      control.jitterPacketAgeLimitMs := by
  intro positive
  unfold setManual opusJitterPacketsForParticipantMs
  simp only [frameCountFor_received received]
  exact control.floorWithinAgeLimit_room _ _ positive

theorem limitTarget_within (received : participant.Received) (clamped : Int) :
    (control.limitTarget clamped participant).TargetWithin clamped := by
  intro _
  unfold limitTarget
  simp only [frameCountFor_received received]
  split
  next small => exact small
  · exact le_refl _

theorem limitTarget_received (received : participant.Received) (clamped : Int) :
    (control.limitTarget clamped participant).Received := by
  unfold limitTarget
  simp only
  split <;> exact received

theorem applyOpusJitterBufferMs_received (all : control.AllReceived) (clampedMs : Int) :
    (control.applyOpusJitterBufferMs ambient clampedMs).AllReceived := by
  apply forEach_received all
  intro id participant received
  exact applyJitterMs_received received clampedMs id

theorem lowerJitterMs_received (all : control.AllReceived) (clamped : Int) :
    (control.lowerJitterMs ambient clamped).AllReceived := by
  unfold lowerJitterMs
  split
  · exact applyOpusJitterBufferMs_received all clamped
  · exact all

theorem lowerJitterMs_same (clamped : Int) :
    (control.lowerJitterMs ambient clamped).jitterPacketAgeLimitMs =
        control.jitterPacketAgeLimitMs ∧
      (control.lowerJitterMs ambient clamped).audioSnapshot = control.audioSnapshot ∧
      ∀ id, id ∉ control.audioSnapshot →
        (control.lowerJitterMs ambient clamped).participants.lookup id =
          control.participants.lookup id := by
  unfold lowerJitterMs
  split
  · refine ⟨rfl, rfl, ?_⟩
    intro id unlisted
    unfold applyOpusJitterBufferMs
    rw [lookup_forEach]
    simp only [unlisted, ↓reduceIte]
    exact map_id'
  · exact ⟨rfl, rfl, fun _ _ => rfl⟩

/-- A new limit reaches the participants of the snapshot and no others. -/
theorem setJitterPacketAgeLimitMs_within_iff (all : control.AllReceived) (ageMs : Int) :
    (control.setJitterPacketAgeLimitMs ambient ageMs).WithinAgeLimit ↔
      ∀ id participant, control.participants.lookup id = some participant →
        id ∉ control.audioSnapshot → participant.TargetWithin (clampAgeMs ageMs) := by
  unfold setJitterPacketAgeLimitMs
  generalize clampAgeMs ageMs = clamped
  by_cases off : clamped ≤ 0
  · rw [if_pos off]
    constructor
    · intro _ id participant _ _ positive
      omega
    intro _ id participant _ positive
    have on : 0 < clamped := positive
    omega
  · rw [if_neg off, forEach_within_iff]
    have received := @lowerJitterMs_received { control with jitterPacketAgeLimitMs := clamped }
      ambient all clamped
    obtain ⟨limit, listed, others⟩ := @lowerJitterMs_same
      { control with jitterPacketAgeLimitMs := clamped } ambient clamped
    rw [limit, listed]
    constructor
    · intro visited id participant found unlisted
      have one := visited id participant (by rw [others id unlisted, found])
      rw [if_neg unlisted] at one
      exact one
    intro left id participant found
    split
    · exact limitTarget_within (received id participant found) clamped
    next unlisted =>
      rw [others id unlisted] at found
      exact left id participant found unlisted

section Operations

variable (all : control.AllReceived) (within : control.WithinAgeLimit)

include all within

theorem applyOpusJitterBufferMs_within_iff (clampedMs : Int) :
    (control.applyOpusJitterBufferMs ambient clampedMs).WithinAgeLimit ↔
      (BelowAutoStart control.jitterPacketAgeLimitMs → control.NoneFollowsAutoStart) := by
  unfold applyOpusJitterBufferMs
  rw [forEach_within_iff]
  constructor
  · rintro visited below id participant found ⟨listed, manual, auto, opus⟩
    have one := visited id participant found
    rw [if_pos listed] at one
    exact (applyJitterMs_within_iff (all id participant found) (within id participant found)
      clampedMs id).mp one ⟨manual, auto, opus⟩ below
  · intro none id participant found
    split
    next listed =>
      apply (applyJitterMs_within_iff (all id participant found) (within id participant found)
        clampedMs id).mpr
      rintro ⟨manual, auto, opus⟩ below
      exact none below id participant found ⟨listed, manual, auto, opus⟩
    · exact within id participant found

theorem applyOpusNetworkFrameCount_within_iff (normalized : UInt16) :
    (control.applyOpusNetworkFrameCount ambient normalized).WithinAgeLimit ↔
      (control.opusNetworkFrameCount ≠ normalized →
        BelowAutoStart control.jitterPacketAgeLimitMs → control.NoneFollowsAutoStart) := by
  unfold applyOpusNetworkFrameCount
  by_cases changed : control.opusNetworkFrameCount ≠ normalized
  · simp only [changed, ne_eq, not_false_eq_true, ↓reduceIte, forall_const]
    exact @applyOpusJitterBufferMs_within_iff { control with opusNetworkFrameCount := normalized }
      ambient all within control.opusJitterBufferMs
  · simp only [changed, ↓reduceIte, false_implies, iff_true]
    exact within

theorem setOpusAutoJitterDefault_within_iff (enabled : Bool) :
    (control.setOpusAutoJitterDefault ambient enabled).WithinAgeLimit ↔
      (enabled = true → BelowAutoStart control.jitterPacketAgeLimitMs →
        ∀ id participant, control.participants.lookup id = some participant →
          id ∈ control.audioSnapshot → participant.opusJitterManualOverride = true) := by
  have visit (id : UInt32) (participant : JitterParticipant)
      (found : control.participants.lookup id = some participant) :
      (({ control with opusAutoJitterDefault := enabled } : JitterControl).applyAutoDefault ambient
          enabled id participant).TargetWithin control.jitterPacketAgeLimitMs ↔
        (participant.opusJitterManualOverride = false → enabled = true →
          ¬ BelowAutoStart control.jitterPacketAgeLimitMs) := by
    unfold applyAutoDefault
    by_cases manual : participant.opusJitterManualOverride = true
    · simp only [manual, ↓reduceIte, Bool.true_eq_false, false_implies, iff_true]
      exact within id participant found
    simp only [Bool.not_eq_true] at manual
    rw [manual]
    simp only [forall_const]
    apply applyGlobal_within_iff (all id participant found)
    · intro _
      exact within id participant found
    intro off
    rw [off]
    rfl
  unfold setOpusAutoJitterDefault
  rw [forEach_within_iff]
  constructor
  · intro visited on below id participant found listed
    have one := visited id participant found
    rw [if_pos listed] at one
    by_contra manual
    exact (visit id participant found).mp one (Bool.not_eq_true _ ▸ manual) on below
  · intro manual id participant found
    split
    next listed =>
      apply (visit id participant found).mpr
      intro off on below
      rw [manual on below id participant found listed] at off
      cases off
    · exact within id participant found

theorem leaveManual_within_iff (id : UInt32) (autoEnabled : Bool) {resetTarget : Bool}
    (manual : autoEnabled = false → resetTarget = true) :
    (control.withParticipant id (control.leaveManual autoEnabled resetTarget
        (ambient.queueSize id))).WithinAgeLimit ↔
      (autoEnabled = true → BelowAutoStart control.jitterPacketAgeLimitMs →
        control.participants.lookup id = none) := by
  rw [withParticipant_within_iff within]
  have own (participant : JitterParticipant)
      (found : control.participants.lookup id = some participant) :
      (control.leaveManual autoEnabled resetTarget (ambient.queueSize id)
          participant).TargetWithin control.jitterPacketAgeLimitMs ↔
        (autoEnabled = true → ¬ BelowAutoStart control.jitterPacketAgeLimitMs) := by
    apply applyGlobal_within_iff
    · exact all id participant found
    · intro _
      exact within id participant found
    · exact manual
  constructor
  · intro each on below
    cases known : control.participants.lookup id with
    | none => rfl
    | some participant => exact absurd below ((own participant known).mp (each participant known) on)
  intro absent participant found
  apply (own participant found).mpr
  intro on below
  rw [absent on below] at found
  cases found

end Operations

section Arrival

variable {hdr : ParsedAudioHeader}

theorem shape_supported (shape : validateAudioPacketShape hdr = .ok ()) :
    hdr.codec = audioCodecOpus ∧ hdr.frameCount ∈ supportedFrameCounts := by
  unfold validateAudioPacketShape at shape
  split at shape
  · cases shape
  split at shape
  · cases shape
  rename_i opus
  split at shape
  · cases shape
  rename_i supported
  simp only [isSupportedFrameCount, Bool.not_eq_false, Bool.and_eq_true,
    decide_eq_true_eq] at supported
  exact ⟨not_not.mp opus, supported.1.2⟩

/-- The target after an arrival, against the length of the packet that arrived. -/
theorem updateJitterFloor_within_iff (shape : validateAudioPacketShape hdr = .ok ())
    (before : participant.lastPacketFrameCount = hdr.frameCount →
      participant.TargetWithin control.jitterPacketAgeLimitMs) (queueSize : Nat) :
    (0 < control.jitterPacketAgeLimitMs →
        (control.updateJitterFloor queueSize hdr participant).jitterBufferMinPackets ≤
          room control.jitterPacketAgeLimitMs hdr.frameCount) ↔
      (participant.opusJitterManualOverride = false → participant.opusJitterAutoEnabled = true →
        participant.lastPacketFrameCount ≠ hdr.frameCount →
        ¬ BelowAutoStart control.jitterPacketAgeLimitMs) := by
  obtain ⟨opus, supported⟩ := shape_supported shape
  have some_frames : hdr.frameCount ≠ 0 := by
    intro zero
    rw [zero] at supported
    exact absurd supported (by decide)
  unfold updateJitterFloor
  simp only [opus, decide_true, Bool.true_and]
  by_cases manual : participant.opusJitterManualOverride = true
  · simp only [manual, ↓reduceIte, Bool.true_eq_false, false_implies, iff_true]
    exact control.floorWithinAgeLimit_room _ _
  rw [if_neg manual]
  simp only [Bool.not_eq_true] at manual
  by_cases same : participant.lastPacketFrameCount = hdr.frameCount
  · rw [if_neg (by rw [same]; simp [some_frames])]
    simp only [same, manual, Bool.false_eq_true, ↓reduceIte, ne_eq, not_true_eq_false,
      false_implies, implies_true, iff_true]
    intro positive
    split
    · exact control.floorWithinAgeLimit_room _ _ positive
    have held := before same positive
    rw [same] at held
    exact held
  · rw [if_pos (.inr same), if_neg (by rw [manual]; decide)]
    simp only [manual, same, ne_eq, not_false_eq_true, forall_const]
    apply applyPolicy_within_iff
    · exact supported
    · exact control.floorWithinAgeLimit_room _ _
    · exact control.floorWithinAgeLimit_le _ _
    · intro never
      cases never
    · intro _
      rfl

theorem admitPacket_fields (id : UInt32) :
    (control.admitPacket ambient id hdr participant).jitterBufferMinPackets =
        (control.updateJitterFloor (ambient.queueSize id) hdr participant).jitterBufferMinPackets ∧
      (control.admitPacket ambient id hdr participant).lastPacketFrameCount = hdr.frameCount := by
  unfold admitPacket
  simp only
  split
  · exact ⟨rfl, rfl⟩
  · split <;> exact ⟨rfl, rfl⟩

theorem receivePacket_within_iff (shape : validateAudioPacketShape hdr = .ok ()) (id : UInt32)
    (before : participant.lastPacketFrameCount = hdr.frameCount ∨
        sequenceArrivalShouldEnqueue (participant.sequenceTracker.record hdr.sequence).1 = false →
      participant.TargetWithin control.jitterPacketAgeLimitMs) :
    (control.receivePacket ambient id hdr participant).TargetWithin
        control.jitterPacketAgeLimitMs ↔
      (sequenceArrivalShouldEnqueue (participant.sequenceTracker.record hdr.sequence).1 = true →
        participant.opusJitterManualOverride = false → participant.opusJitterAutoEnabled = true →
        participant.lastPacketFrameCount ≠ hdr.frameCount →
        ¬ BelowAutoStart control.jitterPacketAgeLimitMs) := by
  unfold receivePacket
  by_cases fresh :
      sequenceArrivalShouldEnqueue (participant.sequenceTracker.record hdr.sequence).1 = true
  · simp only [fresh, ↓reduceIte, forall_const]
    obtain ⟨target, frames⟩ := @admitPacket_fields control ambient { participant with
      sequenceTracker := (participant.sequenceTracker.record hdr.sequence).2 } hdr id
    unfold TargetWithin
    rw [target, frames]
    exact @updateJitterFloor_within_iff control { participant with
      sequenceTracker := (participant.sequenceTracker.record hdr.sequence).2 } hdr shape
      (fun same => before (.inl same)) _
  · simp only [fresh, Bool.false_eq_true, ↓reduceIte, false_implies, iff_true]
    exact before (.inr (Bool.not_eq_true _ ▸ fresh))

theorem receivePacket_received (shape : validateAudioPacketShape hdr = .ok ()) (id : UInt32)
    (before : sequenceArrivalShouldEnqueue (participant.sequenceTracker.record hdr.sequence).1 =
      false → participant.Received) :
    (control.receivePacket ambient id hdr participant).Received := by
  unfold receivePacket
  simp only
  split
  · unfold Received
    rw [(admitPacket_fields id).2]
    exact (shape_supported shape).2
  next dropped => exact before (Bool.not_eq_true _ ▸ dropped)

/-- A participant as its first packet finds it. -/
theorem applyDefault_fresh (queueSize : Nat) (sequence : UInt32) :
    sequenceArrivalShouldEnqueue ((control.applyDefaultOpusJitterPolicy queueSize
        default).sequenceTracker.record sequence).1 = true ∧
      (control.applyDefaultOpusJitterPolicy queueSize default).opusJitterManualOverride = false ∧
      (control.applyDefaultOpusJitterPolicy queueSize default).opusJitterAutoEnabled =
        control.opusAutoJitterDefault ∧
      (control.applyDefaultOpusJitterPolicy queueSize default).lastPacketFrameCount = 0 := by
  have shown : ∃ floorPackets autoStartPackets,
      control.applyDefaultOpusJitterPolicy queueSize default =
        (default : JitterParticipant).applyOpusJitterPolicyToParticipant floorPackets
          autoStartPackets control.opusAutoJitterDefault true queueSize := ⟨_, _, rfl⟩
  obtain ⟨floorPackets, autoStartPackets, same⟩ := shown
  rw [same]
  unfold applyOpusJitterPolicyToParticipant
  simp only [true_or, ↓reduceIte]
  exact ⟨rfl, rfl, trivial, rfl⟩

/-- The first packet of a sender, seen from the participants. -/
theorem lookup_registered (id other : UInt32) (update : JitterParticipant → JitterParticipant) :
    ((control.registerParticipant ambient id).withParticipant id update).participants.lookup other =
      if other = id then
        some (update (control.applyDefaultOpusJitterPolicy (ambient.queueSize id) default))
      else control.participants.lookup other := by
  unfold withParticipant registerParticipant publishAudioSnapshot
  by_cases same : other = id
  · subst same
    simp
  · simp [Store.lookup_adjust_ne _ _ same, same]

/-- The first packet of a sender leads to a target within the limit, unless
participants start automatically and the limit is below that. -/
theorem first_within_iff (shape : validateAudioPacketShape hdr = .ok ()) (id : UInt32) :
    (control.receivePacket ambient id hdr
        (control.applyDefaultOpusJitterPolicy (ambient.queueSize id) default)).TargetWithin
        control.jitterPacketAgeLimitMs ↔
      (control.opusAutoJitterDefault = true →
        ¬ BelowAutoStart control.jitterPacketAgeLimitMs) := by
  obtain ⟨fresh, automatic, enabled, unknown⟩ :=
    @applyDefault_fresh control (ambient.queueSize id) hdr.sequence
  have other : (control.applyDefaultOpusJitterPolicy (ambient.queueSize id)
      default).lastPacketFrameCount ≠ hdr.frameCount := by
    rw [unknown]
    intro zero
    have supported := (shape_supported shape).2
    rw [← zero] at supported
    exact absurd supported (by decide)
  rw [receivePacket_within_iff shape]
  · simp [fresh, automatic, enabled, other]
  rintro (same | dropped)
  · exact absurd same other
  · cases dropped

theorem handleAudioMessage_within_iff (within : control.WithinAgeLimit) :
    (control.handleAudioMessage ambient hdr).WithinAgeLimit ↔
      (BelowAutoStart control.jitterPacketAgeLimitMs →
        ¬ control.StartsAutomatically ambient hdr) := by
  unfold handleAudioMessage StartsAutomatically
  cases shape : validateAudioPacketShape hdr with
  | error reason =>
    simp only [reduceCtorEq, false_and, not_false_eq_true, implies_true, iff_true]
    exact within
  | ok checked =>
    simp only [true_and]
    cases known : control.participants.lookup hdr.senderId with
    | some participant =>
      rw [withParticipant_within_iff within]
      simp only [known, some.injEq, forall_eq']
      rw [receivePacket_within_iff shape hdr.senderId
        (fun _ => within hdr.senderId participant known)]
      tauto
    | none =>
      by_cases registers : ambient.registers = false
      · simp only [registers, ↓reduceIte, Bool.false_eq_true, false_and, not_false_eq_true,
          implies_true, iff_true]
        exact within
      rw [if_neg registers]
      simp only [Bool.not_eq_false] at registers
      have first := @first_within_iff control ambient hdr shape hdr.senderId
      constructor
      · intro after below starts
        have own := after hdr.senderId _ (by rw [lookup_registered, if_pos rfl])
        exact first.mp own starts.2 below
      intro quiet id participant found
      rw [lookup_registered] at found
      split at found
      · rw [← some.inj found]
        apply first.mpr
        intro enabled below
        exact quiet below ⟨registers, enabled⟩
      · exact within id participant found

theorem handleAudioMessage_received (all : control.AllReceived) :
    (control.handleAudioMessage ambient hdr).AllReceived := by
  unfold handleAudioMessage
  cases shape : validateAudioPacketShape hdr with
  | error reason => exact all
  | ok checked =>
    cases known : control.participants.lookup hdr.senderId with
    | some participant =>
      apply withParticipant_received all
      intro found same
      exact receivePacket_received shape hdr.senderId (fun _ => all hdr.senderId found same)
    | none =>
      simp only
      split
      · exact all
      intro id participant found
      rw [lookup_registered] at found
      split at found
      · rw [← some.inj found]
        apply receivePacket_received shape
        intro dropped
        cases dropped
      · exact all id participant found

end Arrival

/-- Nothing makes a participant one from which no packet has been received. -/
theorem step_received (control : JitterControl) (input : JitterAmbient × JitterEvent)
    (all : control.AllReceived) : (control.step input).AllReceived := by
  obtain ⟨ambient, event⟩ := input
  cases event with
  | applyOpusNetworkFrameCount normalized =>
    have stored : ({ control with opusNetworkFrameCount := normalized } :
        JitterControl).AllReceived := all
    simp only [step, applyOpusNetworkFrameCount]
    split
    · exact applyOpusJitterBufferMs_received stored _
    · exact stored
  | setOpusJitterBufferMs targetMs | setOpusJitterBufferPackets packets =>
    exact applyOpusJitterBufferMs_received all _
  | setOpusQueueLimitPackets packets =>
    have stored (limit : Nat) : ({ control with opusQueueLimitPackets := limit } :
        JitterControl).AllReceived := all
    apply forEach_received (stored _)
    intro id participant received
    exact received
  | setJitterPacketAgeLimitMs ageMs =>
    have stored : ({ control with jitterPacketAgeLimitMs := clampAgeMs ageMs } :
        JitterControl).AllReceived := all
    simp only [step, setJitterPacketAgeLimitMs]
    split
    · exact stored
    apply forEach_received (lowerJitterMs_received stored _)
    intro id participant received
    exact limitTarget_received received _
  | setOpusAutoJitterDefault enabled =>
    have stored : ({ control with opusAutoJitterDefault := enabled } :
        JitterControl).AllReceived := all
    apply forEach_received stored
    intro id participant received
    unfold applyAutoDefault
    split
    · exact received
    · exact applyGlobal_received received _ _ _ _
  | setParticipantOpusJitterBufferMs id targetMs =>
    apply withParticipant_received all
    intro participant found
    exact all id participant found
  | resetParticipantOpusJitterBufferPackets id | setParticipantOpusAutoJitter id enabled =>
    apply withParticipant_received all
    intro participant found
    exact leaveManual_received (all id participant found) _ _ _
  | handleAudioMessage hdr => exact handleAudioMessage_received all
  | observeAutoJitter id unstable =>
    apply forEach_received all
    intro other participant received
    unfold observeAutoJitterInstability observeAutoJitterStable
    repeat' split
    all_goals first | exact received | exact windowCallback_received (by exact received) _
  | playOut id bufferReady emptyCallbacks =>
    apply forEach_received all
    intro other participant received
    split <;> exact received
  | removeParticipants leaving =>
    intro id participant found
    simp only [step, removeParticipants, publishAudioSnapshot, Store.lookup_keep,
      filter_eq_some_iff] at found
    exact all id participant found.1

/-- A step keeps every target within the age limit exactly if it does not apply the
automatic start below it and, setting a limit, reaches every target above it. -/
theorem step_within_iff (control : JitterControl) (input : JitterAmbient × JitterEvent)
    (all : control.AllReceived) (within : control.WithinAgeLimit) :
    (control.step input).WithinAgeLimit ↔ control.RespectsLimit input := by
  obtain ⟨ambient, event⟩ := input
  cases event with
  | applyOpusNetworkFrameCount normalized =>
    exact applyOpusNetworkFrameCount_within_iff all within normalized
  | setOpusJitterBufferMs targetMs | setOpusJitterBufferPackets packets =>
    exact applyOpusJitterBufferMs_within_iff all within _
  | setOpusQueueLimitPackets packets =>
    simp only [RespectsLimit, iff_true, step, setOpusQueueLimitPackets]
    apply (forEach_within_iff _).mpr
    intro id participant found
    have held := within id participant found
    split <;> exact held
  | setJitterPacketAgeLimitMs ageMs => exact setJitterPacketAgeLimitMs_within_iff all ageMs
  | setOpusAutoJitterDefault enabled => exact setOpusAutoJitterDefault_within_iff all within enabled
  | setParticipantOpusJitterBufferMs id targetMs =>
    simp only [RespectsLimit, iff_true, step, setParticipantOpusJitterBufferMs]
    apply (withParticipant_within_iff within id _).mpr
    intro participant found
    exact setManual_within (all id participant found) _ _
  | resetParticipantOpusJitterBufferPackets id =>
    simp only [RespectsLimit, iff_true, step, resetParticipantOpusJitterBufferPackets]
    apply (leaveManual_within_iff all within id false (fun _ => rfl)).mpr
    intro never
    cases never
  | setParticipantOpusAutoJitter id enabled =>
    apply leaveManual_within_iff all within id enabled
    intro off
    rw [off]
    rfl
  | handleAudioMessage hdr => exact handleAudioMessage_within_iff within
  | observeAutoJitter id unstable =>
    simp only [RespectsLimit, iff_true, step, observeAutoJitter]
    apply (forEach_within_iff _).mpr
    intro other participant found
    have held := within other participant found
    split
    · exact observe_within (all other participant found) held _ _
    · exact held
  | playOut id bufferReady emptyCallbacks =>
    simp only [RespectsLimit, iff_true, step, playOut]
    apply (forEach_within_iff _).mpr
    intro other participant found
    have held := within other participant found
    split
    · split <;> exact held
    · exact held
  | removeParticipants leaving =>
    simp only [RespectsLimit, iff_true]
    intro id participant found
    simp only [step, removeParticipants, publishAudioSnapshot, Store.lookup_keep,
      filter_eq_some_iff] at found
    exact within id participant found.1

/-- In a run from the start, every participant's target respects the age limit
throughout exactly if no step applies the automatic start while the limit is
below it, and no new limit misses a participant whose target is above it. -/
theorem jitter_target_within_iff (inputs : List (JitterAmbient × JitterEvent)) :
    (∀ front, front <+: inputs → WithinAgeLimit (Run.run step {} front)) ↔
      Run.Allowed step RespectsLimit {} inputs := by
  apply Run.always_iff_allowed step RespectsLimit WithinAgeLimit AllReceived
  · exact step_received
  · exact step_within_iff
  · intro id participant found
    cases found
  · intro id participant found
    cases found

def quietRoom : JitterAmbient where
  currentAudioSampleRate := 48000
  registers := true
  queueSize := fun _ => 0
  queueAfterEnqueue := some 1
  rank := fun id => id.toNat

/-- A packet of ten milliseconds. -/
def tenMs (senderId sequence : UInt32) : ParsedAudioHeader :=
  ⟨senderId, sequence, 48000, 480, 3, 1, audioCodecOpus, 0⟩

/-- The limit is set to twenty milliseconds before the first packet is heard. -/
def shortLimit : List (JitterAmbient × JitterEvent) :=
  [(quietRoom, .setJitterPacketAgeLimitMs 20), (quietRoom, .handleAudioMessage (tenMs 1 0))]

/-- More participants are heard than the audio snapshot lists, and then the limit
is set to thirty milliseconds. -/
def crowdedRoom : List (JitterAmbient × JitterEvent) :=
  (List.range 33).map (fun id => (quietRoom, .handleAudioMessage (tenMs (UInt32.ofNat id) 0))) ++
    [(quietRoom, .setJitterPacketAgeLimitMs 30)]

/-- The automatic start holds four packets where the limit leaves room for two, and
a participant outside the snapshot keeps four where it leaves room for three. -/
theorem jitter_target_above_limit :
    ¬ WithinAgeLimit (Run.run step {} shortLimit) ∧
      ¬ WithinAgeLimit (Run.run step {} crowdedRoom) := by
  have reached : (Run.run step {} shortLimit).jitterPacketAgeLimitMs = 20 ∧
      ((Run.run step {} shortLimit).participants.lookup 1).map (fun participant =>
        (participant.jitterBufferMinPackets, participant.lastPacketFrameCount)) = some (4, 480) ∧
      room 20 480 = 2 ∧
      (Run.run step {} crowdedRoom).jitterPacketAgeLimitMs = 30 ∧
      ((Run.run step {} crowdedRoom).participants.lookup 32).map (fun participant =>
        (participant.jitterBufferMinPackets, participant.lastPacketFrameCount)) = some (4, 480) ∧
      room 30 480 = 3 := by
    decide +kernel
  obtain ⟨limit, first, two, lower, last, three⟩ := reached
  constructor
  · intro within
    obtain ⟨participant, found, same⟩ := map_eq_some_iff.mp first
    obtain ⟨target, frames⟩ := Prod.mk.inj same
    have bound := within 1 participant found (by rw [limit]; decide)
    rw [target, frames, limit, two] at bound
    omega
  · intro within
    obtain ⟨participant, found, same⟩ := map_eq_some_iff.mp last
    obtain ⟨target, frames⟩ := Prod.mk.inj same
    have bound := within 32 participant found (by rw [lower]; decide)
    rw [target, frames, lower, three] at bound
    omega

end JitterControl

end Sesivo
