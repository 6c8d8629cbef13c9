import Sesivo.Lib.Blocks
import Sesivo.SessionCrypto

set_option autoImplicit false

/- From the capture callback to the encoder, `enqueue_opus_send_samples`: the device hands
over samples in pieces of any size, the encoder takes frames of one size. A callback
that is just a frame goes straight through, everything else is gathered in an array. A
write past the array has no result, and neither has a loop that does not come to an end. -/

namespace Sesivo

open SessionCrypto Blocks List OpusNetworkClock

def opusTxAccumulatorSize : Nat := 960

namespace OpusNetworkClock

def defaultFrameCount : UInt16 := 480

def normalizeFrameCount (rate : UInt32) (frameCount : UInt16) : UInt16 :=
  if 0 < frameCount ∧ isSupportedFrameCount rate frameCount = true then frameCount
  else defaultFrameCount

def canSendCallbackDirect (callbackFrames bufferedFrames frameCount : Nat) : Bool :=
  bufferedFrames = 0 && callbackFrames = frameCount

end OpusNetworkClock

/-- Opus takes 2.5, 5, 10, 20, 40 or 60 ms. -/
def isLegalFrameSize (sampleRate frameSize : Int) : Bool :=
  [1, 2, 4, 8, 16, 24].any fun duration =>
    (sampleRate * duration).tdiv 400 = frameSize && (sampleRate * duration).tmod 400 = 0

/-- The size of the frames to send; zero if there is none for the sample rate. -/
def preferredOpusTxFrameCount (sampleRate : UInt32) (requestedFrameCount : UInt16) : UInt16 :=
  let rate := sampleRate.toInt32.toInt
  if sampleRate = OpusNetworkClock.sampleRate then
    normalizeFrameCount sampleRate requestedFrameCount
  else if isLegalFrameSize rate requestedFrameCount.toNat then requestedFrameCount
  else if isLegalFrameSize rate (rate.tdiv 400) then UInt16.ofNat (rate.tdiv 400).toNat
  else 0

/-- A frame as it is handed to the sender thread. -/
structure CapturedFrame (α : Type) where
  samples : List α
  sampleRate : UInt32
  captureTime : Time

structure OpusTx (α : Type) where
  accumulator : Cells α opusTxAccumulatorSize
  accumulatedFrames : Nat := 0
  accumulatorCaptureTime : Time := 0
  resetRequested : Bool := false
  opusSendDrops : Nat := 0
  /-- What `enqueue_opus_send_frame` has been called with. -/
  handed : List (CapturedFrame α) := []

/-- One call of the audio device. -/
structure CaptureCallback (α : Type) where
  samples : List α
  captureTime : Time

namespace OpusTx

variable {α : Type}

def enqueueOpusSendFrame (tx : OpusTx α) (frame : CapturedFrame α) : OpusTx α :=
  { tx with handed := tx.handed ++ [frame] }

def resetAccumulator (tx : OpusTx α) : OpusTx α :=
  { tx with accumulatedFrames := 0, accumulatorCaptureTime := 0 }

/-- The room that is left in the frame, in `size_t`. -/
def room (tx : OpusTx α) (target : Nat) : Nat :=
  if tx.accumulatedFrames ≤ target then target - tx.accumulatedFrames
  else 2 ^ 64 - (tx.accumulatedFrames - target)

/-- One round of the loop: as many of the samples as there is room for. -/
def accumulateOnce (tx : OpusTx α) (target : Nat) (sampleRate : UInt32) (captureTime : Time)
    (samples : List α) : Option (OpusTx α) :=
  let started := if tx.accumulatedFrames = 0 then captureTime else tx.accumulatorCaptureTime
  let copied := samples.take (tx.room target)
  (tx.accumulator.copyN tx.accumulatedFrames copied).map fun accumulator =>
    let grown := { tx with
      accumulator := accumulator
      accumulatedFrames := tx.accumulatedFrames + copied.length
      accumulatorCaptureTime := started }
    if grown.accumulatedFrames = target then
      (grown.enqueueOpusSendFrame ⟨accumulator.cells.take target, sampleRate, started⟩).resetAccumulator
    else grown

/-- The loop over the samples of a callback. -/
def accumulate (target : Nat) (sampleRate : UInt32) (captureTime : Time) :
    Nat → List α → OpusTx α → Option (OpusTx α)
  | _, [], tx => some tx
  | 0, _ :: _, _ => none
  | fuel + 1, sample :: samples, tx =>
    (tx.accumulateOnce target sampleRate captureTime (sample :: samples)).bind
      (accumulate target sampleRate captureTime fuel ((sample :: samples).drop (tx.room target)))

/-- The state in which a callback looks at its samples: a reset may have been asked for. -/
def ready (tx : OpusTx α) : OpusTx α :=
  if tx.resetRequested then { tx.resetAccumulator with resetRequested := false } else tx

def enqueueOpusSendSamples (sampleRate : UInt32) (requested : UInt16) (tx : OpusTx α)
    (callback : CaptureCallback α) : Option (OpusTx α) :=
  if callback.samples = [] then some tx
  else
    let current := tx.ready
    let target := (preferredOpusTxFrameCount sampleRate requested).toNat
    if target = 0 ∨ opusTxAccumulatorSize < target then
      some { current.resetAccumulator with opusSendDrops := current.opusSendDrops + 1 }
    else if callback.samples.length ≤ opusTxAccumulatorSize ∧
        canSendCallbackDirect callback.samples.length current.accumulatedFrames
          target = true then
      some (current.enqueueOpusSendFrame ⟨callback.samples, sampleRate, callback.captureTime⟩)
    else
      accumulate target sampleRate callback.captureTime callback.samples.length callback.samples
        current

/-- The samples of the frames that were handed over. -/
def frames (tx : OpusTx α) : List (List α) := tx.handed.map CapturedFrame.samples

/-- The samples that wait for their frame to be complete. -/
def held (tx : OpusTx α) : List α := tx.accumulator.cells.take tx.accumulatedFrames

/-- The stream so far is cut into the frames handed over and what is held. -/
structure Gathers (target : Nat) (stream : List α) (tx : OpusTx α) : Prop where
  cut : Cut target stream tx.frames tx.held
  within : tx.accumulatedFrames < target
  fits : target ≤ opusTxAccumulatorSize

variable {target : Nat} {stream : List α} {tx : OpusTx α}

theorem Gathers.held_length (gathers : Gathers target stream tx) :
    tx.held.length = tx.accumulatedFrames := by
  have within := gathers.within
  have fits := gathers.fits
  rw [held, length_take, tx.accumulator.fits]
  omega

theorem Gathers.room_eq (gathers : Gathers target stream tx) :
    tx.room target = target - tx.accumulatedFrames :=
  if_pos (Nat.le_of_lt gathers.within)

/-- A round of the loop takes over what there is room for. -/
theorem accumulateOnce_gathers (gathers : Gathers target stream tx) (sampleRate : UInt32)
    (captureTime : Time) (samples : List α) :
    ∃ after, tx.accumulateOnce target sampleRate captureTime samples = some after ∧
      Gathers target (stream ++ samples.take (tx.room target)) after ∧
      after.resetRequested = tx.resetRequested := by
  have room := gathers.room_eq
  have within := gathers.within
  have fits := gathers.fits
  have size := gathers.held_length
  have few : (samples.take (tx.room target)).length ≤ target - tx.accumulatedFrames := by
    rw [length_take, room]
    omega
  have inside : tx.accumulatedFrames + (samples.take (tx.room target)).length ≤
      opusTxAccumulatorSize := by omega
  obtain ⟨accumulator, copied⟩ := tx.accumulator.copyN_isSome inside
  have taken : accumulator.cells.take (tx.accumulatedFrames + (samples.take (tx.room target)).length) =
      tx.held ++ samples.take (tx.room target) := Cells.take_of_copyN copied
  rw [accumulateOnce, copied]
  refine ⟨_, rfl, ?_⟩
  dsimp only
  split
  next full =>
    have complete : tx.held.length + (samples.take (tx.room target)).length = target := size ▸ full
    have cut := gathers.cut.complete complete
    rw [full] at taken
    refine ⟨⟨?_, Nat.lt_of_le_of_lt (Nat.zero_le _) within, fits⟩, rfl⟩
    simp only [frames, enqueueOpusSendFrame, resetAccumulator, held, map_append,
      map_singleton, taken, take_zero]
    exact cut
  next more =>
    have short : tx.accumulatedFrames + (samples.take (tx.room target)).length < target :=
      Nat.lt_of_le_of_ne (by omega) more
    refine ⟨⟨?_, short, fits⟩, rfl⟩
    rw [held, taken]
    exact gathers.cut.extend (size.symm ▸ short)

/-- The loop takes over all samples, and it comes to an end. -/
theorem accumulate_gathers (sampleRate : UInt32) (captureTime : Time) (fuel : Nat) :
    ∀ (samples : List α) (tx : OpusTx α) (stream : List α), samples.length ≤ fuel →
      Gathers target stream tx →
      ∃ after, accumulate target sampleRate captureTime fuel samples tx = some after ∧
        Gathers target (stream ++ samples) after ∧ after.resetRequested = tx.resetRequested := by
  induction fuel with
  | zero =>
    intro samples tx stream enough gathers
    obtain rfl := length_eq_zero_iff.mp (Nat.le_zero.mp enough)
    exact ⟨tx, rfl, by rwa [append_nil], rfl⟩
  | succ fuel ih =>
    intro samples tx stream enough gathers
    cases samples with
    | nil => exact ⟨tx, rfl, by rwa [append_nil], rfl⟩
    | cons sample samples =>
      have within := gathers.within
      have room := gathers.room_eq
      obtain ⟨next, once, nextGathers, same⟩ :=
        accumulateOnce_gathers gathers sampleRate captureTime (sample :: samples)
      have shorter : ((sample :: samples).drop (tx.room target)).length ≤ fuel := by
        rw [length_drop, room]
        omega
      obtain ⟨after, rest, afterGathers, still⟩ := ih _ next _ shorter nextGathers
      rw [append_assoc, take_append_drop] at afterGathers
      refine ⟨after, ?_, afterGathers, still.trans same⟩
      rw [accumulate, once]
      exact rest

/-- A callback that is just a frame is one, when nothing is held. -/
theorem direct_gathers (gathers : Gathers target stream tx) (empty : tx.accumulatedFrames = 0)
    {samples : List α} (whole : samples.length = target) (sampleRate : UInt32) (captureTime : Time) :
    Gathers target (stream ++ samples)
      (tx.enqueueOpusSendFrame ⟨samples, sampleRate, captureTime⟩) := by
  have nothing : tx.held = [] := by rw [held, empty, take_zero]
  have cut := gathers.cut
  rw [nothing] at cut
  refine ⟨?_, gathers.within, gathers.fits⟩
  have size : ([] : List α).length + samples.length = target := by
    rw [length_nil, Nat.zero_add, whole]
  simp only [frames, enqueueOpusSendFrame, map_append, map_singleton]
  show Cut target (stream ++ samples) (tx.frames ++ [samples]) tx.held
  rw [nothing]
  exact cut.complete size

/-- A reset is asked for only when it loses nothing. -/
def Calm (tx : OpusTx α) : Prop := tx.resetRequested = true → tx.accumulatedFrames = 0

theorem ready_gathers (gathers : Gathers target stream tx) (calm : tx.Calm) :
    Gathers target stream tx.ready ∧ tx.ready.resetRequested = false := by
  unfold ready
  split
  next requested =>
    have empty := calm requested
    refine ⟨⟨?_, Nat.lt_of_le_of_lt (Nat.zero_le _) gathers.within, gathers.fits⟩, rfl⟩
    have cut := gathers.cut
    rw [held, empty] at cut
    exact cut
  next quiet => exact ⟨gathers, Bool.eq_false_iff.mpr quiet⟩

section

variable {sampleRate : UInt32} {requested : UInt16}

theorem enqueueOpusSendSamples_gathers
    (gathers : Gathers (preferredOpusTxFrameCount sampleRate requested).toNat stream tx)
    (calm : tx.Calm) (callback : CaptureCallback α) :
    ∃ after, enqueueOpusSendSamples sampleRate requested tx callback = some after ∧
      Gathers (preferredOpusTxFrameCount sampleRate requested).toNat (stream ++ callback.samples)
        after ∧ after.Calm := by
  unfold enqueueOpusSendSamples
  split
  next none =>
    rw [none, append_nil]
    exact ⟨tx, rfl, gathers, calm⟩
  obtain ⟨current, quiet⟩ := ready_gathers gathers calm
  have usable : ¬ ((preferredOpusTxFrameCount sampleRate requested).toNat = 0 ∨
      opusTxAccumulatorSize < (preferredOpusTxFrameCount sampleRate requested).toNat) := by
    have within := gathers.within
    have fits := gathers.fits
    omega
  rw [if_neg usable]
  split
  next direct =>
    obtain ⟨_, sendable⟩ := direct
    simp only [canSendCallbackDirect, Bool.and_eq_true, decide_eq_true_iff] at sendable
    refine ⟨_, rfl, direct_gathers current sendable.1 sendable.2 _ _, ?_⟩
    intro asked
    cases quiet.symm.trans asked
  next =>
    obtain ⟨after, accumulated, afterGathers, same⟩ := accumulate_gathers sampleRate
      callback.captureTime callback.samples.length callback.samples tx.ready stream (Nat.le_refl _)
      current
    refine ⟨after, accumulated, afterGathers, ?_⟩
    intro asked
    cases (same.trans quiet).symm.trans asked

/-- Without a frame size that the array has room for, samples are dropped. -/
theorem enqueueOpusSendSamples_unusable
    (unusable : (preferredOpusTxFrameCount sampleRate requested).toNat = 0 ∨
      opusTxAccumulatorSize < (preferredOpusTxFrameCount sampleRate requested).toNat)
    (empty : tx.accumulatedFrames = 0) (callback : CaptureCallback α) :
    ∃ after, enqueueOpusSendSamples sampleRate requested tx callback = some after ∧
      after.frames = tx.frames ∧ after.accumulatedFrames = 0 := by
  unfold enqueueOpusSendSamples
  split
  · exact ⟨tx, rfl, rfl, empty⟩
  rw [if_pos unusable]
  refine ⟨_, rfl, ?_, rfl⟩
  unfold ready
  split <;> rfl

/-- The device calls one time after another. -/
def capture (sampleRate : UInt32) (requested : UInt16) (tx : OpusTx α)
    (callbacks : List (CaptureCallback α)) : Option (OpusTx α) :=
  callbacks.foldlM (enqueueOpusSendSamples sampleRate requested) tx

theorem capture_gathers (callbacks : List (CaptureCallback α)) :
    ∀ (tx : OpusTx α) (stream : List α),
      Gathers (preferredOpusTxFrameCount sampleRate requested).toNat stream tx → tx.Calm →
      ∃ after, capture sampleRate requested tx callbacks = some after ∧
        Gathers (preferredOpusTxFrameCount sampleRate requested).toNat
          (stream ++ (callbacks.map CaptureCallback.samples).flatten) after ∧ after.Calm := by
  induction callbacks with
  | nil =>
    intro tx stream gathers calm
    refine ⟨tx, rfl, ?_, calm⟩
    rwa [map_nil, flatten_nil, append_nil]
  | cons callback callbacks ih =>
    intro tx stream gathers calm
    obtain ⟨next, first, nextGathers, nextCalm⟩ :=
      enqueueOpusSendSamples_gathers gathers calm callback
    obtain ⟨after, rest, afterGathers, afterCalm⟩ := ih next _ nextGathers nextCalm
    rw [append_assoc] at afterGathers
    refine ⟨after, ?_, afterGathers, afterCalm⟩
    rw [capture, foldlM_cons, first]
    exact rest

theorem capture_unusable (unusable : (preferredOpusTxFrameCount sampleRate requested).toNat = 0 ∨
      opusTxAccumulatorSize < (preferredOpusTxFrameCount sampleRate requested).toNat)
    (callbacks : List (CaptureCallback α)) :
    ∀ tx : OpusTx α, tx.accumulatedFrames = 0 →
      ∃ after, capture sampleRate requested tx callbacks = some after ∧
        after.frames = tx.frames ∧ after.accumulatedFrames = 0 := by
  induction callbacks with
  | nil =>
    intro tx empty
    exact ⟨tx, rfl, rfl, empty⟩
  | cons callback callbacks ih =>
    intro tx empty
    obtain ⟨next, first, same, nextEmpty⟩ :=
      enqueueOpusSendSamples_unusable unusable empty callback
    obtain ⟨after, rest, kept, afterEmpty⟩ := ih next nextEmpty
    refine ⟨after, ?_, kept.trans same, afterEmpty⟩
    rw [capture, foldlM_cons, first]
    exact rest

end

variable (accumulator : Cells α opusTxAccumulatorSize)

/-- Nothing has been captured yet; the array holds anything. -/
def fresh (resetRequested : Bool) : OpusTx α :=
  { accumulator := accumulator, resetRequested := resetRequested }

theorem fresh_gathers (resetRequested : Bool)
    (positive : 0 < target) (fits : target ≤ opusTxAccumulatorSize) :
    Gathers target [] (fresh accumulator resetRequested) ∧
      (fresh accumulator resetRequested).Calm :=
  ⟨⟨Cut.nil positive, positive, fits⟩, fun _ => rfl⟩

/-- However the captured samples are split into callbacks, the frames handed over and what is
held back are the samples in order, every frame of the target size and less than a frame held,
and neither depends on the split. No write goes past the array, and a callback that goes
straight through leaves the same behind as one that is gathered. -/
theorem transmit_framing_chunking_independent (sampleRate : UInt32) (requested : UInt16)
    (accumulator : Cells α opusTxAccumulatorSize) (resetRequested : Bool)
    (callbacks : List (CaptureCallback α)) :
    let target := (preferredOpusTxFrameCount sampleRate requested).toNat
    ∃ after, capture sampleRate requested (fresh accumulator resetRequested) callbacks = some after ∧
      after.frames.flatten <+: (callbacks.map CaptureCallback.samples).flatten ∧
      (∀ frame ∈ after.frames, frame.length = target) ∧
      (0 < target → after.accumulatedFrames < target) ∧
      (0 < target → target ≤ opusTxAccumulatorSize →
        (callbacks.map CaptureCallback.samples).flatten = after.frames.flatten ++ after.held ∧
          after.held.length = after.accumulatedFrames) ∧
      (∀ others otherAccumulator otherReset,
        (map CaptureCallback.samples others).flatten =
            (callbacks.map CaptureCallback.samples).flatten →
          ∃ other, capture sampleRate requested (fresh otherAccumulator otherReset) others =
            some other ∧ other.frames = after.frames ∧ other.held = after.held) ∧
      (0 < target → target ≤ opusTxAccumulatorSize → ∀ callback : CaptureCallback α,
        ∃ sent gathered, enqueueOpusSendSamples sampleRate requested after callback = some sent ∧
          accumulate target sampleRate callback.captureTime callback.samples.length callback.samples
            after = some gathered ∧
          sent.frames = gathered.frames ∧ sent.held = gathered.held) := by
  intro target
  by_cases unusable : target = 0 ∨ opusTxAccumulatorSize < target
  · obtain ⟨after, captured, none, empty⟩ := capture_unusable unusable callbacks
      (fresh accumulator resetRequested) rfl
    have nothing : after.frames = [] := none
    refine ⟨after, captured, ?_, ?_, ?_, by omega, ?_, by omega⟩
    · rw [nothing]
      exact nil_prefix
    · rw [nothing]
      exact fun _ member => absurd member not_mem_nil
    · intro positive
      rw [empty]
      exact positive
    · intro others otherAccumulator otherReset _
      obtain ⟨other, otherCaptured, same, otherEmpty⟩ := capture_unusable unusable others
        (fresh otherAccumulator otherReset) rfl
      refine ⟨other, otherCaptured, same.trans nothing.symm, ?_⟩
      rw [held, held, otherEmpty, empty, take_zero, take_zero]
  · have positive : 0 < target := by omega
    have fits : target ≤ opusTxAccumulatorSize := by omega
    have begun (cells : Cells α opusTxAccumulatorSize) (reset : Bool)
        (calls : List (CaptureCallback α)) :=
      capture_gathers calls (fresh cells reset) []
        (fresh_gathers cells reset positive fits).1 (fresh_gathers cells reset positive fits).2
    obtain ⟨after, captured, gathers, calm⟩ := begun accumulator resetRequested callbacks
    refine ⟨after, captured, ⟨after.held, gathers.cut.whole.symm⟩, gathers.cut.full,
      fun _ => gathers.within, fun _ _ => ⟨gathers.cut.whole, gathers.held_length⟩, ?_, ?_⟩
    · intro others otherAccumulator otherReset same
      obtain ⟨other, otherCaptured, otherGathers, _⟩ := begun otherAccumulator otherReset others
      rw [same] at otherGathers
      exact ⟨other, otherCaptured, otherGathers.cut.unique gathers.cut⟩
    intro _ _ callback
    obtain ⟨sent, sentEq, sentGathers, _⟩ := enqueueOpusSendSamples_gathers gathers calm callback
    obtain ⟨gathered, gatheredEq, gatheredGathers, _⟩ := accumulate_gathers sampleRate
      callback.captureTime callback.samples.length callback.samples after _ (Nat.le_refl _) gathers
    obtain ⟨sameFrames, sameHeld⟩ := sentGathers.cut.unique gatheredGathers.cut
    exact ⟨sent, gathered, sentEq, gatheredEq, sameFrames, sameHeld⟩

end OpusTx

end Sesivo
