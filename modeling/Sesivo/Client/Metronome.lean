import Sesivo.Lib.Run
import Sesivo.Protocol

set_option autoImplicit false

/- The client's metronome, `client_metronome.cpp`: which syncs of the server it schedules,
and what it plays between two of them. Products and quotients that the source computes with
`long double` are exact here. The tap tempo, the counters of syncs and the waveform of a
click, which follows from the beat and the position in it, are left out. -/

namespace Sesivo

open List

def metronomeFlagRunning : UInt8 := 1

/-- A sync as servers number them, from one on. -/
structure NumberedSync extends MetronomeSyncHdr where
  numbered : sequence ≠ 0

structure ClientMetronome where
  bpmMilli : Int := 120000
  running : Bool := false
  beatNumber : UInt32 := 0
  pendingBpmMilli : Int := 120000
  pendingRunning : Bool := false
  pendingBeatNumber : UInt32 := 0
  pendingEffectiveServerTimeNs : Int := 0
  pendingSequence : UInt32 := 0
  preparedSequence : UInt32 := 0
  preparedEffectiveSample : Int := 0
  appliedSequence : UInt32 := 0
  epochSample : Int := 0
  audioSampleCursor : Int := 0
  timelineReady : Bool := false

/-- What is reported at a sample, and how far into a beat the sample is. -/
structure MetronomeFrame where
  beat : UInt32
  clickSample : Int
deriving DecidableEq

structure ClickCall where
  frameCount : Nat
  localTimeNs : Int
  serverClockOffsetNs : Int

def clampBpmMilli (bpmMilli : Int) : Int := max 30000 (min bpmMilli 240000)

def nsDeltaToSamples (ns sampleRate : Int) : Int := (ns * sampleRate).tdiv 1000000000

def beatIntervalSamples (bpmMilli sampleRate : Int) : Int :=
  max 1 (sampleRate * 60000 / max 1 bpmMilli)

namespace ClientMetronome

variable (metronome : ClientMetronome)

def setBpmMilliLocal (bpmMilli : Int) : ClientMetronome :=
  { metronome with bpmMilli := clampBpmMilli bpmMilli }

variable (sync : MetronomeSyncHdr)

/-- Whether a sync is taken for a new one. -/
def schedules : Bool :=
  sync.sequence = 0 || metronome.pendingSequence < sync.sequence

def scheduleSync (effectiveServerTimeNs : Int) : ClientMetronome :=
  if metronome.schedules sync = false then metronome
  else
    { metronome with
      pendingBpmMilli := clampBpmMilli sync.bpmMilli.toInt32.toInt
      pendingRunning := decide (sync.flags &&& metronomeFlagRunning ≠ 0)
      pendingBeatNumber := sync.beatNumber
      pendingEffectiveServerTimeNs := effectiveServerTimeNs
      pendingSequence :=
        if sync.sequence = 0 then metronome.pendingSequence + 1 else sync.sequence }

/-- The sample at which the pending sync is due, seen from the start of a callback. -/
def effectiveSample (localTimeNs sampleRate serverClockOffsetNs : Int) : Int :=
  metronome.audioSampleCursor + nsDeltaToSamples
    (metronome.pendingEffectiveServerTimeNs - serverClockOffsetNs - localTimeNs) sampleRate

def prepareSchedule (localTimeNs sampleRate serverClockOffsetNs : Int) : ClientMetronome :=
  if metronome.pendingSequence = 0 ∨ metronome.pendingSequence = metronome.preparedSequence then
    metronome
  else
    { metronome with
      preparedEffectiveSample := metronome.effectiveSample localTimeNs sampleRate serverClockOffsetNs
      preparedSequence := metronome.pendingSequence }

def applyDueSchedule (sampleRate : Int) : ClientMetronome :=
  if metronome.preparedSequence = 0 ∨ metronome.preparedSequence = metronome.appliedSequence ∨
      metronome.audioSampleCursor < metronome.preparedEffectiveSample then
    metronome
  else
    let scheduledBpmMilli := max 1 metronome.pendingBpmMilli
    { metronome with
      bpmMilli := scheduledBpmMilli
      running := metronome.pendingRunning
      beatNumber := metronome.pendingBeatNumber
      epochSample := metronome.preparedEffectiveSample -
        metronome.pendingBeatNumber.toNat * beatIntervalSamples scheduledBpmMilli sampleRate
      timelineReady := true
      appliedSequence := metronome.preparedSequence }

/-- The loop body of `mix_click`. -/
def mixFrame (interval sampleRate : Int) : Option MetronomeFrame × ClientMetronome :=
  let due := metronome.applyDueSchedule sampleRate
  let elapsed := due.audioSampleCursor - due.epochSample
  if due.running = false ∨ due.timelineReady = false ∨ elapsed < 0 then
    (none, { due with audioSampleCursor := due.audioSampleCursor + 1 })
  else
    let currentBeat := UInt32.ofNat (elapsed / interval).toNat + 1
    (some ⟨currentBeat, elapsed % interval⟩,
      { due with beatNumber := currentBeat, audioSampleCursor := due.audioSampleCursor + 1 })

def mixFrames (interval sampleRate : Int) :
    Nat → ClientMetronome → List (Option MetronomeFrame) × ClientMetronome
  | 0, metronome => ([], metronome)
  | count + 1, metronome =>
    let first := metronome.mixFrame interval sampleRate
    let rest := mixFrames interval sampleRate count first.2
    (first.1 :: rest.1, rest.2)

/-- The interval is taken from the tempo in force when the callback starts. -/
def mixClick (sampleRate : Int) (call : ClickCall) :
    List (Option MetronomeFrame) × ClientMetronome :=
  let clampedSampleRate := max 1 sampleRate
  mixFrames (beatIntervalSamples (max 1 metronome.bpmMilli) clampedSampleRate) clampedSampleRate
    call.frameCount
    (metronome.prepareSchedule call.localTimeNs clampedSampleRate call.serverClockOffsetNs)

/-- What is played over several callbacks. -/
def play (sampleRate : Int) (metronome : ClientMetronome) :
    List ClickCall → List (Option MetronomeFrame) × ClientMetronome
  | [] => ([], metronome)
  | call :: calls =>
    let first := metronome.mixClick sampleRate call
    let rest := play sampleRate first.2 calls
    (first.1 ++ rest.1, rest.2)

section Kept

variable {metronome}

theorem schedules_iff (sync : NumberedSync) : metronome.schedules sync.toMetronomeSyncHdr = true ↔
    metronome.pendingSequence < sync.sequence := by
  simp [schedules, sync.numbered]

/-- No sequence that was prepared or applied is newer than the pending one. -/
structure Ordered (metronome : ClientMetronome) : Prop where
  prepared : metronome.preparedSequence ≤ metronome.pendingSequence
  applied : metronome.appliedSequence ≤ metronome.pendingSequence

/-- Playing takes no sync in. -/
structure Kept (before after : ClientMetronome) : Prop where
  pending : after.pendingSequence = before.pendingSequence
  ordered : before.Ordered → after.Ordered

theorem applyDueSchedule_kept (sampleRate : Int) :
    Kept metronome (metronome.applyDueSchedule sampleRate) := by
  unfold applyDueSchedule
  split
  · exact ⟨rfl, fun ordered => ordered⟩
  · exact ⟨rfl, fun ordered => ⟨ordered.prepared, ordered.prepared⟩⟩

theorem mixFrame_kept (interval sampleRate : Int) :
    Kept metronome (metronome.mixFrame interval sampleRate).2 := by
  have due := @applyDueSchedule_kept metronome sampleRate
  unfold mixFrame
  simp only
  split <;>
    exact ⟨due.pending, fun ordered => ⟨(due.ordered ordered).prepared, (due.ordered ordered).applied⟩⟩

theorem mixFrames_kept (interval sampleRate : Int) (count : Nat) :
    ∀ metronome, Kept metronome (mixFrames interval sampleRate count metronome).2 := by
  induction count with
  | zero => exact fun metronome => ⟨rfl, fun ordered => ordered⟩
  | succ count ih =>
    intro metronome
    have first := @mixFrame_kept metronome interval sampleRate
    have rest := ih (metronome.mixFrame interval sampleRate).2
    exact ⟨rest.pending.trans first.pending, fun ordered => rest.ordered (first.ordered ordered)⟩

theorem mixClick_kept (sampleRate : Int) (call : ClickCall) :
    Kept metronome (metronome.mixClick sampleRate call).2 := by
  have prepared : Kept metronome (metronome.prepareSchedule call.localTimeNs (max 1 sampleRate)
      call.serverClockOffsetNs) := by
    unfold prepareSchedule
    split
    · exact ⟨rfl, fun ordered => ordered⟩
    · exact ⟨rfl, fun ordered => ⟨UInt32.le_refl _, ordered.applied⟩⟩
  have played := mixFrames_kept (beatIntervalSamples (max 1 metronome.bpmMilli) (max 1 sampleRate))
    (max 1 sampleRate) call.frameCount (metronome.prepareSchedule call.localTimeNs
      (max 1 sampleRate) call.serverClockOffsetNs)
  exact ⟨played.pending.trans prepared.pending,
    fun ordered => played.ordered (prepared.ordered ordered)⟩

end Kept

/-- A sync for a beat at sample `effective` is prepared, and either not applied or in force. -/
structure Armed (sampleRate effective interval : Int) (beat : UInt32)
    (metronome : ClientMetronome) : Prop where
  prepared : metronome.preparedSequence = metronome.pendingSequence
  numbered : metronome.pendingSequence ≠ 0
  due : metronome.preparedEffectiveSample = effective
  tempo : beatIntervalSamples (max 1 metronome.pendingBpmMilli) sampleRate = interval
  runs : metronome.pendingRunning = true
  pendingBeat : metronome.pendingBeatNumber = beat
  applied : metronome.appliedSequence = metronome.preparedSequence → metronome.running = true ∧
    metronome.timelineReady = true ∧ metronome.epochSample = effective - beat.toNat * interval

/-- From the effective sample of a sync on, what is played has the beats and the clicks of a
timeline that counts from the sync's beat in steps of its interval. -/
def KeepsTimeline (sampleRate effective interval : Int) (beat : UInt32) (calls : List ClickCall) :
    Prop :=
  ∀ index < (calls.map ClickCall.frameCount).sum, effective ≤ metronome.audioSampleCursor + index →
    ∃ frame, (metronome.play sampleRate calls).1[index]? = some (some frame) ∧
      frame.beat = beat + 1 +
        UInt32.ofNat ((metronome.audioSampleCursor + index - effective) / interval).toNat ∧
      (frame.clickSample = 0 ↔ interval ∣ metronome.audioSampleCursor + index - effective)

/-- The tempo in force has the given beat interval. -/
def Steady (sampleRate interval : Int) (metronome : ClientMetronome) : Prop :=
  beatIntervalSamples (max 1 metronome.bpmMilli) sampleRate = interval

/-- The sample of a beat-keeping timeline, `elapsed` samples after its start. -/
def frameAt (used elapsed : Int) : MetronomeFrame :=
  ⟨UInt32.ofNat (elapsed / used).toNat + 1, elapsed % used⟩

section Timeline

variable {metronome} {sampleRate effective interval : Int} {beat : UInt32}

theorem Armed.applyDueSchedule (armed : Armed sampleRate effective interval beat metronome) :
    Armed sampleRate effective interval beat (metronome.applyDueSchedule sampleRate) ∧
      (metronome.applyDueSchedule sampleRate).audioSampleCursor = metronome.audioSampleCursor ∧
      (metronome.Steady sampleRate interval →
        (metronome.applyDueSchedule sampleRate).Steady sampleRate interval) ∧
      (effective ≤ metronome.audioSampleCursor →
        (metronome.applyDueSchedule sampleRate).appliedSequence =
          (metronome.applyDueSchedule sampleRate).preparedSequence) := by
  unfold ClientMetronome.applyDueSchedule
  split
  next idle =>
    refine ⟨armed, rfl, fun steady => steady, fun reached => ?_⟩
    rcases idle with none | inForce | early
    · exact absurd (armed.prepared ▸ none) armed.numbered
    · exact inForce.symm
    · rw [armed.due] at early
      omega
  next =>
    have tempo := armed.tempo
    refine ⟨⟨armed.prepared, armed.numbered, armed.due, tempo, armed.runs, armed.pendingBeat, ?_⟩,
      rfl, fun _ => ?_, fun _ => rfl⟩
    · intro _
      refine ⟨armed.runs, rfl, ?_⟩
      simp only [armed.due, armed.pendingBeat, tempo]
    · simpa only [Steady, ← max_assoc, max_self] using tempo

/-- One sample: from the effective one on it is the timeline's, cut by the interval used. -/
theorem Armed.mixFrame (armed : Armed sampleRate effective interval beat metronome)
    (positive : 0 ≤ interval) (used : Int) :
    Armed sampleRate effective interval beat (metronome.mixFrame used sampleRate).2 ∧
      (metronome.mixFrame used sampleRate).2.audioSampleCursor =
        metronome.audioSampleCursor + 1 ∧
      (metronome.Steady sampleRate interval →
        (metronome.mixFrame used sampleRate).2.Steady sampleRate interval) ∧
      (effective ≤ metronome.audioSampleCursor → (metronome.mixFrame used sampleRate).1 =
        some (frameAt used (metronome.audioSampleCursor - effective + beat.toNat * interval))) := by
  obtain ⟨due, cursor, steady, inForce⟩ := armed.applyDueSchedule
  unfold ClientMetronome.mixFrame
  simp only
  split
  next quiet =>
    refine ⟨⟨due.prepared, due.numbered, due.due, due.tempo, due.runs, due.pendingBeat,
      due.applied⟩, by rw [cursor], steady, fun reached => ?_⟩
    obtain ⟨running, ready, epoch⟩ := due.applied (inForce reached)
    have started := mul_nonneg (Int.natCast_nonneg beat.toNat) positive
    simp only [running, ready, epoch, cursor, Bool.true_eq_false, false_or] at quiet
    omega
  next =>
    refine ⟨⟨due.prepared, due.numbered, due.due, due.tempo, due.runs, due.pendingBeat,
      due.applied⟩, by rw [cursor], steady, fun reached => ?_⟩
    obtain ⟨-, -, epoch⟩ := due.applied (inForce reached)
    have elapsed : metronome.audioSampleCursor - (effective - beat.toNat * interval) =
        metronome.audioSampleCursor - effective + beat.toNat * interval := by omega
    simp only [frameAt, cursor, epoch, elapsed]

theorem Armed.mixFrames (positive : 0 ≤ interval) (used : Int) (count : Nat) :
    ∀ metronome, Armed sampleRate effective interval beat metronome →
      Armed sampleRate effective interval beat (mixFrames used sampleRate count metronome).2 ∧
      (mixFrames used sampleRate count metronome).2.audioSampleCursor =
        metronome.audioSampleCursor + count ∧
      (metronome.Steady sampleRate interval →
        (mixFrames used sampleRate count metronome).2.Steady sampleRate interval) ∧
      (mixFrames used sampleRate count metronome).1.length = count ∧
      ∀ index < count, effective ≤ metronome.audioSampleCursor + index →
        (mixFrames used sampleRate count metronome).1[index]? = some (some (frameAt used
          (metronome.audioSampleCursor + index - effective + beat.toNat * interval))) := by
  induction count with
  | zero =>
    intro metronome armed
    exact ⟨armed, (Int.add_zero _).symm, fun steady => steady, rfl, nofun⟩
  | succ count ih =>
    intro metronome armed
    obtain ⟨armed, moved, steady, first⟩ := armed.mixFrame positive used
    obtain ⟨armed, cursor, steadier, length, rest⟩ := ih _ armed
    refine ⟨armed, ?_, fun before => steadier (steady before), congrArg (· + 1) length, ?_⟩
    · simp only [ClientMetronome.mixFrames, cursor, moved]
      omega
    intro index inside reached
    cases index with
    | zero =>
      simp only [Int.natCast_zero, Int.add_zero] at reached ⊢
      exact congrArg some (first reached)
    | succ index =>
      rw [moved] at rest
      have shifted : metronome.audioSampleCursor + 1 + index =
          metronome.audioSampleCursor + (index + 1 : Nat) := by omega
      have later := rest index (by omega) (by omega)
      rw [shifted] at later
      exact later

theorem prepareSchedule_prepared (armed : Armed sampleRate effective interval beat metronome)
    (localTimeNs rate serverClockOffsetNs : Int) :
    metronome.prepareSchedule localTimeNs rate serverClockOffsetNs = metronome :=
  if_pos (.inr armed.prepared.symm)

theorem Armed.play (positive : 0 ≤ interval) (calls : List ClickCall) :
    ∀ metronome, Armed (max 1 sampleRate) effective interval beat metronome →
      metronome.Steady (max 1 sampleRate) interval →
      ∀ index < (calls.map ClickCall.frameCount).sum,
        effective ≤ metronome.audioSampleCursor + index →
        (metronome.play sampleRate calls).1[index]? = some (some (frameAt interval
          (metronome.audioSampleCursor + index - effective + beat.toNat * interval))) := by
  induction calls with
  | nil => exact fun _ _ _ _ inside => absurd inside (Nat.not_lt_zero _)
  | cons call calls ih =>
    intro metronome armed steady index inside reached
    obtain ⟨after, cursor, kept, length, first⟩ :=
      Armed.mixFrames positive interval call.frameCount metronome armed
    have mixed : metronome.mixClick sampleRate call =
        ClientMetronome.mixFrames interval (max 1 sampleRate) call.frameCount metronome := by
      rw [mixClick, prepareSchedule_prepared armed, steady]
    simp only [ClientMetronome.play, mixed, getElem?_append, length]
    split
    next early => exact first index early reached
    have shifted : metronome.audioSampleCursor + call.frameCount +
        (index - call.frameCount : Nat) = metronome.audioSampleCursor + index := by omega
    have rest := ih _ after (kept steady) (index - call.frameCount)
    rw [cursor, shifted] at rest
    refine rest ?_ reached
    simp only [map_cons, sum_cons] at inside
    omega

/-- Cut by its own interval, the timeline counts from the sync's beat on. -/
theorem frameAt_interval (positive : 0 < interval) {since : Int} (reached : 0 ≤ since) :
    (frameAt interval (since + beat.toNat * interval)).beat =
        beat + 1 + UInt32.ofNat (since / interval).toNat ∧
      ((frameAt interval (since + beat.toNat * interval)).clickSample = 0 ↔ interval ∣ since) := by
  have quotient : (since + beat.toNat * interval) / interval = since / interval + beat.toNat :=
    Int.add_mul_ediv_right since beat.toNat (Int.ne_of_gt positive)
  have whole : 0 ≤ since / interval := Int.ediv_nonneg reached (Int.le_of_lt positive)
  refine ⟨?_, ?_⟩
  · simp only [frameAt, quotient, Int.toNat_add_nat whole, UInt32.ofNat_add, UInt32.ofNat_toNat]
    ac_rfl
  · simp only [frameAt, Int.add_mul_emod_self_right]
    exact Int.dvd_iff_emod_eq_zero.symm

/-- If clicks start alike far into the two timelines, their intervals are the same. -/
theorem interval_unique {used : Int} (positive : 0 < interval) (usedPositive : 0 < used)
    (multiple : Int) (same : (multiple * (interval * used) + min interval used) % used = 0 ↔
      interval ∣ multiple * (interval * used) + min interval used) : used = interval := by
  have cutUsed : used ∣ multiple * (interval * used) :=
    Dvd.dvd.mul_left (Int.dvd_mul_left interval used) multiple
  have cutInterval : interval ∣ multiple * (interval * used) :=
    Dvd.dvd.mul_left (Int.dvd_mul_right interval used) multiple
  rw [← Int.dvd_iff_emod_eq_zero, Int.dvd_add_right cutUsed, Int.dvd_add_right cutInterval] at same
  rcases Int.lt_trichotomy used interval with smaller | equal | larger
  · rw [min_eq_right (Int.le_of_lt smaller)] at same
    have bound := Int.le_of_dvd usedPositive (same.mp (Int.dvd_refl used))
    omega
  · exact equal
  rw [min_eq_left (Int.le_of_lt larger)] at same
  have bound := Int.le_of_dvd positive (same.mpr (Int.dvd_refl interval))
  omega

theorem prepareSchedule_playing (localTimeNs rate serverClockOffsetNs : Int) :
    (metronome.prepareSchedule localTimeNs rate serverClockOffsetNs).bpmMilli = metronome.bpmMilli ∧
      (metronome.prepareSchedule localTimeNs rate serverClockOffsetNs).audioSampleCursor =
        metronome.audioSampleCursor := by
  unfold prepareSchedule
  split <;> exact ⟨rfl, rfl⟩

/-- Preparing a schedule twice is preparing it once. -/
theorem keepsTimeline_prepared (call : ClickCall) (calls : List ClickCall)
    (armed : Armed (max 1 sampleRate) effective interval beat (metronome.prepareSchedule
      call.localTimeNs (max 1 sampleRate) call.serverClockOffsetNs)) :
    metronome.KeepsTimeline sampleRate effective interval beat (call :: calls) ↔
      (metronome.prepareSchedule call.localTimeNs (max 1 sampleRate)
        call.serverClockOffsetNs).KeepsTimeline sampleRate effective interval beat
          (call :: calls) := by
  have once := prepareSchedule_prepared armed call.localTimeNs (max 1 sampleRate)
    call.serverClockOffsetNs
  obtain ⟨tempo, cursor⟩ := @prepareSchedule_playing metronome call.localTimeNs (max 1 sampleRate)
    call.serverClockOffsetNs
  simp only [KeepsTimeline, ClientMetronome.play, mixClick, once, tempo, cursor]

/-- An armed sync's timeline is kept however it is cut into callbacks just if the callback that
applies it uses the interval of its tempo. -/
theorem Armed.keepsTimeline_iff
    (armed : Armed (max 1 sampleRate) effective interval beat metronome) (positive : 0 < interval)
    (localTimeNs serverClockOffsetNs : Int) :
    (∀ frameCount calls, metronome.KeepsTimeline sampleRate effective interval beat
      (⟨frameCount, localTimeNs, serverClockOffsetNs⟩ :: calls)) ↔
      metronome.Steady (max 1 sampleRate) interval := by
  refine ⟨fun keeps => ?_, fun steady frameCount calls index inside reached => ?_⟩
  · -- a sample at which a click starts in one of the two timelines only
    let used := beatIntervalSamples (max 1 metronome.bpmMilli) (max 1 sampleRate)
    have usedPositive : 0 < used := Int.lt_of_lt_of_le Int.zero_lt_one (le_max_left _ _)
    let multiple : Int := beat.toNat + (metronome.audioSampleCursor - effective).natAbs
    have far : beat.toNat * interval + (metronome.audioSampleCursor - effective).natAbs ≤
        multiple * (interval * used) := by
      have wide : interval ≤ interval * used := le_mul_of_one_le_right positive.le usedPositive
      calc (beat.toNat * interval + (metronome.audioSampleCursor - effective).natAbs : Int)
          ≤ beat.toNat * interval + (metronome.audioSampleCursor - effective).natAbs * interval :=
            by gcongr; exact le_mul_of_one_le_right (Int.natCast_nonneg _) positive
        _ = multiple * interval := (add_mul _ _ _).symm
        _ ≤ multiple * (interval * used) := by gcongr
    obtain ⟨index, place⟩ := Int.eq_ofNat_of_zero_le (show 0 ≤ multiple * (interval * used) +
      min interval used - beat.toNat * interval - (metronome.audioSampleCursor - effective) by omega)
    have reached : effective ≤ metronome.audioSampleCursor + index := by omega
    have since : metronome.audioSampleCursor + index - effective + beat.toNat * interval =
        multiple * (interval * used) + min interval used := by omega
    obtain ⟨frame, played, -, clicks⟩ := keeps (index + 1) [] index (Nat.lt_succ_self index) reached
    obtain ⟨-, -, -, -, mixed⟩ := Armed.mixFrames positive.le used (index + 1) metronome armed
    have same := mixed index (Nat.lt_succ_self index) reached
    simp only [ClientMetronome.play, mixClick, prepareSchedule_prepared armed, append_nil] at played
    obtain rfl := Option.some.inj (Option.some.inj (played.symm.trans same))
    rw [← Int.dvd_add_left (Int.dvd_mul_left beat.toNat interval), since] at clicks
    exact interval_unique positive usedPositive multiple clicks
  · have since : 0 ≤ metronome.audioSampleCursor + index - effective := by omega
    obtain ⟨beats, clicks⟩ := @frameAt_interval interval beat positive _ since
    exact ⟨_, Armed.play positive.le _ metronome armed steady index inside reached, beats, clicks⟩

/-- A scheduled sync is armed by the first callback after it. -/
theorem Ordered.armed (ordered : metronome.Ordered) (sync : NumberedSync)
    (effectiveServerTimeNs localTimeNs serverClockOffsetNs : Int)
    (scheduled : metronome.schedules sync.toMetronomeSyncHdr = true)
    (running : sync.flags &&& metronomeFlagRunning ≠ 0) :
    Armed sampleRate
      ((metronome.scheduleSync sync.toMetronomeSyncHdr effectiveServerTimeNs).effectiveSample
        localTimeNs sampleRate serverClockOffsetNs)
      (beatIntervalSamples (clampBpmMilli sync.bpmMilli.toInt32.toInt) sampleRate) sync.beatNumber
      ((metronome.scheduleSync sync.toMetronomeSyncHdr effectiveServerTimeNs).prepareSchedule
        localTimeNs sampleRate serverClockOffsetNs) := by
  have newer := (schedules_iff sync).mp scheduled
  have fresh : sync.sequence ≠ metronome.preparedSequence :=
    (UInt32.ne_of_lt (UInt32.lt_of_le_of_lt ordered.prepared newer)).symm
  have unused : metronome.appliedSequence ≠ sync.sequence :=
    UInt32.ne_of_lt (UInt32.lt_of_le_of_lt ordered.applied newer)
  simp only [scheduleSync, scheduled, Bool.true_eq_false, ↓reduceIte, sync.numbered,
    prepareSchedule, fresh, or_self]
  refine ⟨rfl, sync.numbered, rfl, ?_, decide_eq_true running, rfl, fun same => absurd same unused⟩
  have large : 1 ≤ clampBpmMilli sync.bpmMilli.toInt32.toInt := by
    unfold clampBpmMilli
    omega
  rw [max_eq_right large]

end Timeline

end ClientMetronome

inductive MetronomeOp where
  | join
  | receive (sync : NumberedSync) (effectiveServerTimeNs : Int)
  | setBpmMilliLocal (bpmMilli : Int)
  | mixClick (sampleRate : Int) (call : ClickCall)

/-- The metronome, with the sequences received since the last join. -/
structure MetronomeLog where
  metronome : ClientMetronome := {}
  heard : List UInt32 := []

namespace MetronomeLog

/-- Joining a server leaves the metronome as it is. -/
def step (log : MetronomeLog) : MetronomeOp → MetronomeLog
  | .join => { log with heard := [] }
  | .receive sync effectiveServerTimeNs =>
    { metronome := log.metronome.scheduleSync sync.toMetronomeSyncHdr effectiveServerTimeNs
      heard := log.heard ++ [sync.sequence] }
  | .setBpmMilliLocal bpmMilli => { log with metronome := log.metronome.setBpmMilliLocal bpmMilli }
  | .mixClick sampleRate call => { log with metronome := (log.metronome.mixClick sampleRate call).2 }

/-- A sync is scheduled just if it is newer than all others since the join. -/
def Honoured (log : MetronomeLog) : MetronomeOp → Prop
  | .receive sync _ => log.metronome.schedules sync.toMetronomeSyncHdr = true ↔
      ∀ earlier ∈ log.heard, earlier < sync.sequence
  | _ => True

/-- The first sync after a join is newer than what earlier servers left behind. -/
def FirstIsNew (log : MetronomeLog) : MetronomeOp → Prop
  | .receive sync _ => log.heard = [] → log.metronome.pendingSequence < sync.sequence
  | _ => True

/-- The second server starts to count again, and its first sync is dropped. -/
theorem sync_after_join_dropped :
    ¬ Run.Allowed step Honoured {}
      [.join, .receive ⟨⟨0, 120000, 0, 1, 0, 0, 5⟩, by decide⟩ 0,
        .join, .receive ⟨⟨0, 120000, 0, 1, 0, 0, 1⟩, by decide⟩ 0] := by
  rintro ⟨-, -, -, first, -⟩
  exact absurd (first.mpr (fun _ member => nomatch member)) (by decide)

variable {log : MetronomeLog}

/-- Once a sync has been received from a server, the pending sequence is the newest one of it. -/
def UpToDate (log : MetronomeLog) : Prop :=
  log.heard ≠ [] → log.metronome.pendingSequence ∈ log.heard ∧
    ∀ earlier ∈ log.heard, earlier ≤ log.metronome.pendingSequence

theorem honoured_iff (current : log.UpToDate) (op : MetronomeOp) :
    log.Honoured op ↔ log.FirstIsNew op := by
  cases op with
  | join => exact Iff.rfl
  | setBpmMilliLocal bpmMilli => exact Iff.rfl
  | mixClick sampleRate call => exact Iff.rfl
  | receive sync effectiveServerTimeNs =>
    simp only [Honoured, FirstIsNew, ClientMetronome.schedules_iff]
    by_cases first : log.heard = []
    · rw [first]
      exact ⟨fun honoured _ => honoured.mpr (fun _ member => nomatch member),
        fun newer => iff_of_true (newer rfl) (fun _ member => nomatch member)⟩
    obtain ⟨newest, all⟩ := current first
    refine iff_of_true ⟨?_, ?_⟩ (fun none => absurd none first)
    · intro newer earlier member
      exact UInt32.lt_of_le_of_lt (all earlier member) newer
    · intro newer
      exact newer _ newest

theorem step_upToDate (current : log.UpToDate) (op : MetronomeOp) (meets : log.FirstIsNew op) :
    (log.step op).UpToDate := by
  cases op with
  | join => exact fun nonempty => absurd rfl nonempty
  | setBpmMilliLocal bpmMilli => exact current
  | mixClick sampleRate call =>
    intro nonempty
    simp only [step, (ClientMetronome.mixClick_kept sampleRate call).pending]
    exact current nonempty
  | receive sync effectiveServerTimeNs =>
    intro _
    simp only [step, ClientMetronome.scheduleSync]
    split
    next old =>
      have known : ¬ log.metronome.pendingSequence < sync.sequence := by
        rw [← ClientMetronome.schedules_iff, old]
        exact Bool.false_ne_true
      have nonempty : log.heard ≠ [] := fun none => known (meets none)
      obtain ⟨newest, all⟩ := current nonempty
      refine ⟨mem_append_left _ newest, fun earlier member => ?_⟩
      rcases mem_append.mp member with before | now
      · exact all earlier before
      · rw [mem_singleton.mp now]
        exact UInt32.not_lt.mp known
    next new =>
      rw [Bool.not_eq_false, ClientMetronome.schedules_iff] at new
      rw [if_neg sync.numbered]
      refine ⟨mem_append_right _ (mem_singleton_self _), fun earlier member => ?_⟩
      rcases mem_append.mp member with before | now
      · have bound := (current (ne_nil_of_mem before)).2 earlier before
        exact UInt32.le_of_lt (UInt32.lt_of_le_of_lt bound new)
      · rw [mem_singleton.mp now]
        exact UInt32.le_refl _

variable (ops : List MetronomeOp)

/-- Over any run of joins, syncs, tempo changes and callbacks, the syncs of the server that
was joined last are honoured throughout just if the first one after every join is newer than
the newest sync of the servers before. -/
theorem syncs_honoured_iff :
    Run.Allowed step Honoured {} ops ↔ Run.Allowed step FirstIsNew {} ops :=
  Run.allowed_congr step Honoured FirstIsNew UpToDate
    (fun _ op current => honoured_iff current op)
    (fun _ op current meets => step_upToDate current op meets) {} ops
    (fun nonempty => absurd rfl nonempty)

theorem reachable_ordered : (Run.run step {} ops).metronome.Ordered := by
  refine Run.invariant step (fun log => log.metronome.Ordered) ?_ {} ops ⟨by decide, by decide⟩
  intro log op ordered
  cases op with
  | join => exact ordered
  | setBpmMilliLocal bpmMilli => exact ⟨ordered.prepared, ordered.applied⟩
  | mixClick sampleRate call => exact (ClientMetronome.mixClick_kept sampleRate call).ordered ordered
  | receive sync effectiveServerTimeNs =>
    simp only [step, ClientMetronome.scheduleSync]
    split
    · exact ordered
    rename_i new
    rw [Bool.not_eq_false, ClientMetronome.schedules_iff] at new
    simp only [if_neg sync.numbered]
    exact ⟨UInt32.le_of_lt (UInt32.lt_of_le_of_lt ordered.prepared new),
      UInt32.le_of_lt (UInt32.lt_of_le_of_lt ordered.applied new)⟩

/-- A change of tempo in the middle of a callback: the beat of the sync is reported late and
its click does not start, because the callback still counts in steps of the old interval. -/
theorem timeline_broken_by_tempo_change :
    ¬ (step {} (.receive ⟨⟨0, 240000, 1, 1, 0, 0, 1⟩, by decide⟩ 0)).metronome.KeepsTimeline 48000 0
      (beatIntervalSamples 240000 48000) 1 [⟨1, 0, 0⟩] := by
  intro keeps
  obtain ⟨frame, played, beat, -⟩ := keeps 0 (by decide) (by decide)
  obtain rfl : ⟨1, 12000⟩ = frame := Option.some.inj (Option.some.inj played)
  exact absurd beat (by decide)

/-- After any run in which a sync is scheduled that lets the metronome run, and however the
samples are then cut into callbacks: what is played from the effective sample on is the
timeline of the sync just if the tempo in force before has the same beat interval. -/
theorem timeline_law_iff (sync : NumberedSync)
    (effectiveServerTimeNs sampleRate localTimeNs serverClockOffsetNs : Int)
    (scheduled : (Run.run step {} ops).metronome.schedules sync.toMetronomeSyncHdr = true)
    (running : sync.flags &&& metronomeFlagRunning ≠ 0) :
    let before := (Run.run step {} ops).metronome
    let metronome := before.scheduleSync sync.toMetronomeSyncHdr effectiveServerTimeNs
    let interval := beatIntervalSamples (clampBpmMilli sync.bpmMilli.toInt32.toInt) (max 1 sampleRate)
    (∀ frameCount calls, metronome.KeepsTimeline sampleRate
      (metronome.effectiveSample localTimeNs (max 1 sampleRate) serverClockOffsetNs) interval
      sync.beatNumber (⟨frameCount, localTimeNs, serverClockOffsetNs⟩ :: calls)) ↔
      beatIntervalSamples (max 1 before.bpmMilli) (max 1 sampleRate) = interval := by
  intro before metronome interval
  have positive : 0 < interval := Int.lt_of_lt_of_le Int.zero_lt_one (le_max_left _ _)
  have armed := @ClientMetronome.Ordered.armed before (max 1 sampleRate) (reachable_ordered ops) sync
    effectiveServerTimeNs localTimeNs serverClockOffsetNs scheduled running
  have law := armed.keepsTimeline_iff positive localTimeNs serverClockOffsetNs
  have tempo : metronome.bpmMilli = before.bpmMilli := by
    simp only [metronome, ClientMetronome.scheduleSync]
    split <;> rfl
  rw [ClientMetronome.Steady, (ClientMetronome.prepareSchedule_playing _ _ _).1, tempo] at law
  rw [← law]
  exact forall_congr' fun frameCount => forall_congr' fun calls =>
    ClientMetronome.keepsTimeline_prepared ⟨frameCount, localTimeNs, serverClockOffsetNs⟩ calls armed

/-- A first sync changes the tempo to 100 beats a minute and is played, the second keeps it. -/
def tempoKept : List MetronomeOp :=
  [.setBpmMilliLocal 90000, .receive ⟨⟨0, 100000, 1, 1, 0, 0, 1⟩, by decide⟩ 0,
    .mixClick 48000 ⟨4, 0, 0⟩]

theorem timeline_law_tempoKept :
    ((Run.run step {} tempoKept).step
      (.receive ⟨⟨0, 100000, 9, 1, 0, 0, 2⟩, by decide⟩ 163000)).metronome.KeepsTimeline 48000 7
      (beatIntervalSamples 100000 48000) 9 [⟨5, 100000, 500⟩, ⟨2, 204166, 500⟩, ⟨6, 245833, 500⟩] :=
  (timeline_law_iff tempoKept ⟨⟨0, 100000, 9, 1, 0, 0, 2⟩, by decide⟩ 163000 48000 100000 500
    (by decide +kernel) (by decide)).mpr (by decide +kernel) 5 [⟨2, 204166, 500⟩, ⟨6, 245833, 500⟩]

end MetronomeLog

end Sesivo
