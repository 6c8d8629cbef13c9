import Mathlib.Algebra.Group.Nat.Defs
import Mathlib.Data.Rat.Defs
import Mathlib.Algebra.Order.Ring.Unbundled.Rat
import Mathlib.Data.List.Induction
import Sesivo.Lib.Run

set_option autoImplicit false

/- How the client adapts to congestion, `congestion_policy.h`: the bitrate falls at once
and rises after three healthy intervals, and each path on which feedback arrives may ask
for larger packets. Loss and round trip times are rationals; an `int` has 32 bits. -/

namespace Sesivo.CongestionPolicy

def minBitrate : Int := 32000

def defaultMaxBitrate : Int := 96000

def packetDurationImpairedIntervals : ℕ := 2

def packetDurationHealthyIntervals : ℕ := 3

inductive FeedbackPath where
  | downstream
  | senderIngress
  | ping
deriving DecidableEq

structure PacketDurationState where
  configuredFrames : Int := 480
  currentFrames : Int := 480
  impairedIntervals : FeedbackPath → ℕ := fun _ => 0
  healthyIntervals : FeedbackPath → ℕ := fun _ => 0
  requestsLargerPackets : FeedbackPath → Bool := fun _ => false

def configurePacketDuration (configuredFrames : Int) : PacketDurationState :=
  { configuredFrames := configuredFrames, currentFrames := configuredFrames }

structure PacketDurationFeedback where
  path : FeedbackPath
  impaired : Bool
  impairedFrames : Int

/-- The counters of 32 bits stop at their largest value. -/
def countUp (intervals : ℕ) : ℕ := if intervals < 2 ^ 32 - 1 then intervals + 1 else intervals

/-- The counters and the request of one path. -/
def updatePath (impaired : Bool) (impairedIntervals healthyIntervals : ℕ) (requests : Bool) :
    ℕ × ℕ × Bool :=
  if impaired then
    (countUp impairedIntervals, 0,
      decide (packetDurationImpairedIntervals ≤ countUp impairedIntervals) || requests)
  else if requests then
    if packetDurationHealthyIntervals ≤ countUp healthyIntervals then (0, 0, false)
    else (0, countUp healthyIntervals, true)
  else (0, 0, false)

def largerPacketsRequested (state : PacketDurationState) : Bool :=
  state.requestsLargerPackets .downstream || state.requestsLargerPackets .senderIngress ||
    state.requestsLargerPackets .ping

/-- The frame count it returns is the current one. -/
def updatePacketDuration (state : PacketDurationState) (feedback : PacketDurationFeedback) :
    PacketDurationState :=
  let updated := updatePath feedback.impaired (state.impairedIntervals feedback.path)
    (state.healthyIntervals feedback.path) (state.requestsLargerPackets feedback.path)
  let counted := { state with
    impairedIntervals := Function.update state.impairedIntervals feedback.path updated.1
    healthyIntervals := Function.update state.healthyIntervals feedback.path updated.2.1
    requestsLargerPackets :=
      Function.update state.requestsLargerPackets feedback.path updated.2.2 }
  { counted with
    currentFrames :=
      if largerPacketsRequested counted then max state.configuredFrames feedback.impairedFrames
      else state.configuredFrames }

structure State where
  targetBitrate : Int := defaultMaxBitrate
  maximumBitrate : Int := defaultMaxBitrate
  /-- Negative while adaptive control has not overridden the configured policy. -/
  redundancyDepth : Int := -1
  healthyIntervals : UInt32 := 0

structure Observation where
  lossRatio : ℚ
  rttMs : ℚ

namespace Observation

variable (observation : Observation)

def loss : ℚ := max 0 (min observation.lossRatio 1)

def severe : Bool := 1 / 20 ≤ observation.loss || 250 ≤ observation.rttMs

def impaired : Bool := 1 / 100 ≤ observation.loss || 150 ≤ observation.rttMs

end Observation

/-- What is left of a result in an `int`. -/
def int32 (value : Int) : Int := value.bmod (2 ^ 32)

variable {value : Int}

theorem int32_of_lt (least : 0 ≤ value) (small : value < 2 ^ 31) :
    int32 value = value :=
  Int.bmod_eq_of_le (by omega) (by omega)

theorem int32_of_le (large : 2 ^ 31 ≤ value) (most : value < 2 ^ 32) :
    int32 value = value - 2 ^ 32 := by
  rw [int32, Int.bmod_def]
  split <;> omega

namespace State

def clamped (state : State) : State :=
  let maximum := max state.maximumBitrate minBitrate
  { state with
    maximumBitrate := maximum
    targetBitrate := max minBitrate (min state.targetBitrate maximum) }

def update (state : State) (observation : Observation) : State :=
  let state := state.clamped
  if observation.severe then
    { state with
      targetBitrate :=
        max minBitrate (state.targetBitrate - max 8000 (state.targetBitrate / 4))
      redundancyDepth := 0
      healthyIntervals := 0 }
  else if observation.impaired then
    let lowered := max minBitrate (state.targetBitrate - 8000)
    { state with
      targetBitrate := lowered
      redundancyDepth :=
        if observation.loss < 3 / 100 ∧ int32 (lowered * 2) ≤ state.maximumBitrate then 1 else 0
      healthyIntervals := 0 }
  else if 3 ≤ state.healthyIntervals + 1 then
    { state with
      targetBitrate := min state.maximumBitrate (int32 (state.targetBitrate + 8000))
      redundancyDepth := -1
      healthyIntervals := 0 }
  else { state with healthyIntervals := state.healthyIntervals + 1 }

/-- The target is in its range, and one duplicate fits below the maximum. -/
structure InBounds (maximum : Int) (state : State) : Prop where
  least : minBitrate ≤ state.targetBitrate
  most : state.targetBitrate ≤ maximum
  duplicate : state.redundancyDepth = 1 → 2 * state.targetBitrate ≤ maximum
  same : state.maximumBitrate = maximum

/-- What the step computes with the target fits into an `int`. -/
def Fits (state : State) (observation : Observation) : Prop :=
  if observation.severe then True
  else if observation.impaired then
    observation.loss < 3 / 100 → 2 * (state.targetBitrate - 8000) < 2 ^ 31
  else 3 ≤ state.healthyIntervals + 1 → state.targetBitrate + 8000 < 2 ^ 31

variable {state : State} {maximum : Int} (observation : Observation)

theorem InBounds.clamped_eq (inside : state.InBounds maximum) : state.clamped = state := by
  obtain ⟨least, most, -, same⟩ := inside
  have top : max state.maximumBitrate minBitrate = state.maximumBitrate := by omega
  have target : max minBitrate (min state.targetBitrate state.maximumBitrate) =
      state.targetBitrate := by omega
  simp only [clamped, top, target]

/-- A doubled target that wraps is below every maximum, and a raised one below the
minimum. -/
theorem update_inBounds_iff (range : maximum < 2 ^ 31) (inside : state.InBounds maximum) :
    (state.update observation).InBounds maximum ↔ state.Fits observation := by
  rw [update, inside.clamped_eq]
  obtain ⟨least, most, duplicate, same⟩ := inside
  simp only [Fits, minBitrate, same] at least ⊢
  have lower (amount : Int) (some_ : 0 ≤ amount) :
      max 32000 (state.targetBitrate - amount) ≤ maximum := by omega
  split
  · exact iff_of_true ⟨le_max_left _ _, lower _ (by omega), nofun, rfl⟩ trivial
  split
  · constructor
    · intro after few
      by_contra wraps
      have wrapped := @int32_of_le (max 32000 (state.targetBitrate - 8000) * 2) (by omega) (by omega)
      have double := after.duplicate (if_pos ⟨few, by omega⟩)
      simp only at double
      omega
    · intro fits
      refine ⟨le_max_left _ _, lower 8000 (by omega), fun chosen => ?_, rfl⟩
      simp only at chosen ⊢
      split at chosen
      next allowed =>
        have small := fits allowed.1
        rw [int32_of_lt (by omega) (by omega)] at allowed
        omega
      · cases chosen
  split
  next completed =>
    constructor
    · intro after _
      by_contra wraps
      have low := after.least
      simp only [@int32_of_le (state.targetBitrate + 8000) (by omega) (by omega), minBitrate] at low
      omega
    · intro fits
      have small := fits completed
      refine ⟨?_, min_le_left _ _, nofun, rfl⟩
      simp only [@int32_of_lt (state.targetBitrate + 8000) (by omega) small, minBitrate]
      omega
  next counting =>
    exact iff_of_true ⟨least, most, duplicate, rfl⟩ fun completed => absurd completed counting

/-- Up to a maximum of `2 ^ 30` nothing leaves the range. -/
theorem InBounds.allowed (small : maximum ≤ 2 ^ 30) (observations : List Observation)
    (inside : state.InBounds maximum) : Run.Allowed update Fits state observations := by
  induction observations generalizing state with
  | nil => trivial
  | cons observation observations ih =>
    have most := inside.most
    have fits : state.Fits observation := by
      unfold Fits
      split
      · trivial
      split <;> intro _ <;> omega
    exact ⟨fits, ih ((update_inBounds_iff observation (by omega) inside).mpr fits)⟩

/-- A rise ends the third healthy interval in a row, if the state has counted them. -/
theorem rise_of_lt (inside : state.InBounds maximum)
    (rises : state.targetBitrate < (state.update observation).targetBitrate) :
    observation.impaired = false ∧ 3 ≤ state.healthyIntervals.toNat + 1 := by
  rw [update, inside.clamped_eq] at rises
  have least := inside.least
  split at rises
  · simp only at rises
    omega
  split at rises
  · simp only at rises
    omega
  rename_i healthy
  split at rises
  next completed => exact ⟨Bool.eq_false_of_not_eq_true healthy, completed.trans (Nat.mod_le _ _)⟩
  · exact absurd rises (lt_irrefl _)

/-- The observations end with healthy ones, as many as are counted, if those before them
are taken from the initial count. -/
def Streak (initial : UInt32) (observations : List Observation) (count : ℕ) : Prop :=
  ∃ earlier recent, observations = earlier ++ recent ∧
    (∀ observation ∈ recent, observation.impaired = false) ∧
    (count ≤ recent.length ∨ earlier = [] ∧ count ≤ initial.toNat + recent.length)

theorem Streak.concat {initial : UInt32} {observations : List Observation} {count : ℕ}
    {observation : Observation} (streak : Streak initial observations count)
    (healthy : observation.impaired = false) :
    Streak initial (observations ++ [observation]) (count + 1) := by
  obtain ⟨earlier, recent, rfl, all, counted⟩ := streak
  refine ⟨earlier, recent ++ [observation], List.append_assoc _ _ _, ?_, ?_⟩
  · simpa [or_imp, forall_and, healthy] using all
  · rw [List.length_append, List.length_singleton]
    exact counted.imp (by omega) fun first => ⟨first.1, by omega⟩

theorem run_streak (initial : State) (observations : List Observation) :
    Streak initial.healthyIntervals observations
      (Run.run update initial observations).healthyIntervals.toNat := by
  induction observations using List.reverseRecOn with
  | nil => exact ⟨[], [], rfl, nofun, .inr ⟨rfl, le_rfl⟩⟩
  | append_singleton observations last ih =>
    have none : Streak initial.healthyIntervals (observations ++ [last]) (0 : UInt32).toNat :=
      ⟨observations ++ [last], [], (List.append_nil _).symm, nofun, .inl le_rfl⟩
    rw [Run.run_append, Run.run_cons, Run.run_nil]
    generalize Run.run update initial observations = state at ih
    unfold update
    simp only
    split
    · exact none
    split
    · exact none
    rename_i healthy
    rw [Bool.not_eq_true] at healthy
    split
    · exact none
    obtain ⟨earlier, recent, whole, all, counted⟩ := ih.concat healthy
    have less : (state.healthyIntervals + 1).toNat ≤ state.healthyIntervals.toNat + 1 := by
      exact Nat.mod_le _ _
    exact ⟨earlier, recent, whole, all, counted.imp less.trans fun first => ⟨first.1, less.trans first.2⟩⟩

end State

/-- Looking back from the latest interval, two impaired ones in a row are met before three
healthy ones in a row. -/
def asks : List Bool → Bool
  | true :: true :: _ => true
  | false :: false :: false :: _ => false
  | _ :: earlier => asks earlier
  | [] => false

/-- The intervals of a path, the latest first. -/
def historyOf (path : FeedbackPath) (feedbacks : List PacketDurationFeedback) : List Bool :=
  ((feedbacks.filter fun feedback => feedback.path = path).map (·.impaired)).reverse

/-- The counters and the request of a path agree with its feedback. -/
structure Follows (history : List Bool) (impaired healthy : ℕ) (requests : Bool) : Prop where
  impaired : 0 < impaired ↔ history.head? = some true
  asked : requests = asks history
  healthy : requests = true → healthy = (history.takeWhile (! ·)).length

theorem asks_healthy (history : List Bool) :
    asks (false :: history) = (asks history && decide ((history.takeWhile (! ·)).length < 2)) := by
  rcases history with - | ⟨_ | _, - | ⟨_ | _, earlier⟩⟩ <;> simp [asks]

theorem Follows.updatePath {history : List Bool} {impaired healthy : ℕ} {requests : Bool}
    (follows : Follows history impaired healthy requests) (now : Bool) :
    let updated := updatePath now impaired healthy requests
    Follows (now :: history) updated.1 updated.2.1 updated.2.2 := by
  obtain ⟨met, asked, counted⟩ := follows
  cases now with
  | true =>
    have more : 0 < countUp impaired ∧ (2 ≤ countUp impaired ↔ 0 < impaired) := by
      unfold countUp
      split <;> omega
    refine ⟨by simp [CongestionPolicy.updatePath, more.1], ?_, fun _ => rfl⟩
    rw [CongestionPolicy.updatePath, if_pos rfl, packetDurationImpairedIntervals, asked]
    simp only [more.2, met]
    rcases history with - | ⟨_ | _, earlier⟩ <;> simp [asks]
  | false =>
    rw [CongestionPolicy.updatePath, if_neg Bool.false_ne_true]
    cases requests with
    | false => exact ⟨by simp, by simp [asks_healthy, ← asked], nofun⟩
    | true =>
      have count := counted rfl
      have more : countUp healthy < 3 → healthy < 2 ∧ countUp healthy = healthy + 1 := by
        unfold countUp
        split <;> omega
      have full : 3 ≤ countUp healthy → ¬ healthy < 2 := by
        unfold countUp
        split <;> omega
      rw [if_pos rfl, packetDurationHealthyIntervals]
      split
      next three => exact ⟨by simp, by simp [asks_healthy, ← count, full three], nofun⟩
      next fewer =>
        obtain ⟨few, grown⟩ := more (Nat.lt_of_not_le fewer)
        exact ⟨by simp, by simp [asks_healthy, ← asked, ← count, few], fun _ => by simp [grown, ← count]⟩

theorem run_follows (configuredFrames : Int) (feedbacks : List PacketDurationFeedback) :
    let state := Run.run updatePacketDuration (configurePacketDuration configuredFrames) feedbacks
    state.configuredFrames = configuredFrames ∧ ∀ path, Follows (historyOf path feedbacks)
      (state.impairedIntervals path) (state.healthyIntervals path)
      (state.requestsLargerPackets path) := by
  induction feedbacks using List.reverseRecOn with
  | nil => exact ⟨rfl, fun path => ⟨iff_of_false (lt_irrefl 0) nofun, rfl, fun _ => rfl⟩⟩
  | append_singleton feedbacks last ih =>
    obtain ⟨same, follows⟩ := ih
    rw [Run.run_append]
    refine ⟨same, fun path => ?_⟩
    have next := (follows last.path).updatePath last.impaired
    by_cases here : path = last.path
    · subst here
      simpa [updatePacketDuration, historyOf] using next
    · simpa [updatePacketDuration, historyOf, here, Ne.symm here] using follows path

theorem largerPacketsRequested_iff (state : PacketDurationState) :
    largerPacketsRequested state = true ↔ ∃ path, state.requestsLargerPackets path = true := by
  simp only [largerPacketsRequested, Bool.or_eq_true]
  constructor
  · rintro ((asks | asks) | asks) <;> exact ⟨_, asks⟩
  · rintro ⟨path, asks⟩
    cases path <;> simp [asks]

/-- Over every run of observations, the target stays between the minimum and the maximum,
one duplicate is sent only while twice the target is below the maximum, and the target
rises only on an interval that completes three healthy ones in a row, exactly if no step
leaves the range of an `int`, which none does up to a maximum of `2 ^ 30`. Over every
interleaving of feedback, a path asks for larger packets exactly if its own feedback says
so, and the frame count follows. -/
theorem congestion_policy_runs (initial : State) (range : initial.maximumBitrate < 2 ^ 31)
    (least : minBitrate ≤ initial.targetBitrate)
    (most : initial.targetBitrate ≤ initial.maximumBitrate) (fresh : initial.redundancyDepth = -1)
    (observations : List Observation) (configuredFrames : Int)
    (feedbacks : List PacketDurationFeedback) :
    ((∀ earlier last, earlier ++ [last] <+: observations →
        let before := Run.run State.update initial earlier
        let after := before.update last
        after.InBounds initial.maximumBitrate ∧
          (before.targetBitrate < after.targetBitrate →
            State.Streak initial.healthyIntervals (earlier ++ [last]) 3)) ↔
      Run.Allowed State.update State.Fits initial observations) ∧
    (initial.maximumBitrate ≤ 2 ^ 30 →
      Run.Allowed State.update State.Fits initial observations) ∧
    let state := Run.run updatePacketDuration (configurePacketDuration configuredFrames) feedbacks
    (∀ path, state.requestsLargerPackets path = asks (historyOf path feedbacks)) ∧
      ∀ feedback, let next := updatePacketDuration state feedback
        ((∃ path, next.requestsLargerPackets path = true) →
            next.currentFrames = max configuredFrames feedback.impairedFrames) ∧
          ((∀ path, next.requestsLargerPackets path = false) →
            next.currentFrames = configuredFrames) := by
  have starts : initial.InBounds initial.maximumBitrate := ⟨least, most, fun one => by omega, rfl⟩
  have always := Run.always_iff_allowed State.update State.Fits
    (State.InBounds initial.maximumBitrate) (fun _ => True) (fun _ _ => id)
    (fun state observation _ => State.update_inBounds_iff observation range)
    initial observations trivial starts
  obtain ⟨same, follows⟩ := run_follows configuredFrames feedbacks
  refine ⟨?_, fun small => starts.allowed small observations, fun path => (follows path).asked,
    fun feedback => ⟨fun asks => ?_, fun none => ?_⟩⟩
  · rw [← always]
    constructor
    · intro each front part
      induction front using List.reverseRecOn with
      | nil => exact starts
      | append_singleton front last _ =>
        rw [Run.run_append]
        exact (each front last part).1
    · intro inside earlier last part
      have before := inside earlier ((List.prefix_append _ _).trans part)
      have after := inside (earlier ++ [last]) part
      rw [Run.run_append] at after
      refine ⟨after, fun rises => ?_⟩
      obtain ⟨healthy, three⟩ := State.rise_of_lt last before rises
      obtain ⟨first, recent, whole, all, counted⟩ :=
        (State.run_streak initial earlier).concat healthy
      exact ⟨first, recent, whole, all, counted.imp three.trans fun start =>
        ⟨start.1, three.trans start.2⟩⟩
  · refine Eq.trans (if_pos ((largerPacketsRequested_iff _).mpr asks)) ?_
    rw [same]
  · refine Eq.trans (if_neg fun some_ => ?_) same
    obtain ⟨path, asks⟩ := (largerPacketsRequested_iff _).mp some_
    exact Bool.false_ne_true ((none path).symm.trans asks)

/-- One lossy interval and two healthy ones. -/
def recovering : List Observation := [⟨1 / 50, 40⟩, ⟨0, 40⟩, ⟨0, 40⟩]

def lossyDownstream : List PacketDurationFeedback :=
  [⟨.downstream, true, 480⟩, ⟨.ping, true, 480⟩, ⟨.downstream, true, 480⟩, ⟨.ping, false, 480⟩]

theorem congestion_policy_runs_recovering :
    let initial : State := { targetBitrate := 64000 }
    let before := Run.run State.update initial recovering
    let after := before.update ⟨0, 40⟩
    let state := Run.run updatePacketDuration (configurePacketDuration 240) lossyDownstream
    (before.targetBitrate < after.targetBitrate ∧ after.InBounds defaultMaxBitrate ∧
      State.Streak 0 (recovering ++ [⟨0, 40⟩]) 3) ∧
      (∀ path, state.requestsLargerPackets path = decide (path = .downstream)) ∧
        (updatePacketDuration state ⟨.ping, true, 960⟩).currentFrames = 960 := by
  have policy := congestion_policy_runs { targetBitrate := 64000 } (by decide) (by decide)
    (by decide) rfl (recovering ++ [⟨0, 40⟩]) 240 lossyDownstream
  have rises := policy.1.mpr (policy.2.1 (by decide)) recovering ⟨0, 40⟩ List.prefix_rfl
  have higher : (Run.run State.update { targetBitrate := 64000 } recovering).targetBitrate <
      ((Run.run State.update { targetBitrate := 64000 } recovering).update ⟨0, 40⟩).targetBitrate := by
    decide +kernel
  refine ⟨⟨higher, rises.1, rises.2 higher⟩, fun path => (policy.2.2.1 path).trans ?_, ?_⟩
  · cases path <;> decide
  · exact (policy.2.2.2 ⟨.ping, true, 960⟩).1 ⟨.downstream, by decide⟩

/-- Twice the lowered target wraps, and a duplicate is sent beyond the maximum. -/
theorem duplicate_beyond_maximum :
    let initial : State := { targetBitrate := 2 ^ 30 + 8000, maximumBitrate := 2 ^ 30 + 8000 }
    let after := initial.update ⟨1 / 50, 40⟩
    minBitrate ≤ initial.targetBitrate ∧ initial.targetBitrate ≤ initial.maximumBitrate ∧
      after.redundancyDepth = 1 ∧ ¬ 2 * after.targetBitrate ≤ after.maximumBitrate := by
  decide +kernel

end Sesivo.CongestionPolicy
