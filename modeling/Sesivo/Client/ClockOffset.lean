import Mathlib.Algebra.Group.Nat.Defs
import Mathlib.Algebra.Ring.Int.Defs
import Mathlib.Data.List.Induction
import Mathlib.Logic.Function.Basic
import Sesivo.Lib.Run

set_option autoImplicit false

/- The offset between the client's clock and the server's, `clock_offset_estimator.h`:
a moving average over samples whose round trip was not much longer than the shortest of
the last 32. Values are integers, and what is computed on the way is shown to fit into
64 bits. -/

namespace Sesivo.ClockOffset

open List

def rttWindowSamples : ℕ := 32

/-- A calculation in `int64_t`. -/
inductive Arith where
  | value (number : Int)
  | add (left right : Arith)
  | mul (left : Arith) (factor : Int)
  | div (left : Arith) (divisor : Int)

namespace Arith

def result : Arith → Int
  | value number => number
  | add left right => left.result + right.result
  | mul left factor => left.result * factor
  | div left divisor => left.result.tdiv divisor

/-- The results of all its operations. -/
def steps : Arith → List Int
  | value _ => []
  | add left right => left.steps ++ right.steps ++ [(add left right).result]
  | mul left factor => left.steps ++ [(mul left factor).result]
  | div left divisor => left.steps ++ [(div left divisor).result]

end Arith

structure Estimate where
  accepted : Bool
  ready : Bool
  offsetNs : Int
  uncertaintyNs : Int

structure Estimator where
  minimumRttNs : Int := 2 ^ 63 - 1
  offsetNs : Int := 0
  uncertaintyNs : Int := 0
  acceptedSamples : ℕ := 0
  rttWindow : ℕ → Int := fun _ => 2 ^ 63 - 1
  rttWindowCount : ℕ := 0
  rttWindowNext : ℕ := 0

structure Sample where
  rttNs : Int
  offsetNs : Int

namespace Estimator

variable (estimator : Estimator)

def reset (_ : Estimator) : Estimator := {}

def current (accepted : Bool) : Estimate :=
  ⟨accepted, 4 ≤ estimator.acceptedSamples, estimator.offsetNs, estimator.uncertaintyNs⟩

variable (rttNs : Int)

def noteRtt : Estimator :=
  let window := Function.update estimator.rttWindow estimator.rttWindowNext rttNs
  let count := min (estimator.rttWindowCount + 1) rttWindowSamples
  { estimator with
    rttWindow := window
    rttWindowNext := (estimator.rttWindowNext + 1) % rttWindowSamples
    rttWindowCount := count
    minimumRttNs := ((range count).map window).min?.getD rttNs }

def tolerated : Arith :=
  .add (.add (.value estimator.minimumRttNs) (.div (.value estimator.minimumRttNs) 2))
    (.value 2000000)

def rejects : Bool :=
  4 ≤ estimator.acceptedSamples && estimator.tolerated.result < rttNs

def average (value : Int) (next : Arith) : Arith := .div (.add (.mul (.value value) 7) next) 8

def accept (sample : Sample) : Estimator :=
  let half := Arith.div (.value sample.rttNs) 2
  let averaged :=
    if estimator.acceptedSamples = 0 then
      { estimator with offsetNs := sample.offsetNs, uncertaintyNs := half.result }
    else
      { estimator with
        offsetNs := (average estimator.offsetNs (.value sample.offsetNs)).result
        uncertaintyNs := (average estimator.uncertaintyNs half).result }
  { averaged with acceptedSamples := (estimator.acceptedSamples + 1) % 2 ^ 32 }

def observe (sample : Sample) : Estimate × Estimator :=
  if sample.rttNs < 0 then (estimator.current false, estimator)
  else
    let noted := estimator.noteRtt sample.rttNs
    if noted.rejects sample.rttNs then (noted.current false, noted)
    else ((noted.accept sample).current true, noted.accept sample)

/-- What `observe` computes on the way, on any of its branches. -/
def intermediates (sample : Sample) : List Int :=
  (estimator.noteRtt sample.rttNs).tolerated.steps ++
    (average estimator.offsetNs (.value sample.offsetNs)).steps ++
    (average estimator.uncertaintyNs (.div (.value sample.rttNs) 2)).steps

end Estimator

/-- The estimator with the samples it has seen and those it has accepted. -/
structure Log where
  estimator : Estimator
  seen : List Sample := []
  accepted : List Sample := []

namespace Log

def step (log : Log) (sample : Sample) : Log where
  estimator := (log.estimator.observe sample).2
  seen := log.seen ++ [sample]
  accepted :=
    if (log.estimator.observe sample).1.accepted then log.accepted ++ [sample] else log.accepted

/-- The round trips of the last 32 samples. -/
def recent (samples : List Sample) : List Int :=
  (samples.drop (samples.length - rttWindowSamples)).map (·.rttNs)

def Between (values : List Int) (value : Int) : Prop :=
  (∃ low ∈ values, low ≤ value) ∧ ∃ high ∈ values, value ≤ high

/-- The samples the estimator is made for. -/
def InRange (sample : Sample) : Prop :=
  0 ≤ sample.rttNs ∧ sample.rttNs < 2 ^ 60 ∧ -2 ^ 60 < sample.offsetNs ∧ sample.offsetNs < 2 ^ 60

/-- Rounding towards zero does not leave the range between the two values. -/
theorem average_bounds (value next : Int) :
    min value next ≤ (value * 7 + next).tdiv 8 ∧ (value * 7 + next).tdiv 8 ≤ max value next := by
  rw [Int.tdiv_eq_ediv]
  split
  · omega
  · rw [show Int.sign 8 = 1 from rfl]
    omega

theorem Between.average {values : List Int} {value : Int} (between : Between values value)
    (next : Int) : Between (values ++ [next]) ((value * 7 + next).tdiv 8) := by
  obtain ⟨⟨low, lowMember, least⟩, high, highMember, most⟩ := between
  have bounds := average_bounds value next
  have last : next ∈ values ++ [next] := mem_append_right _ mem_cons_self
  rcases Int.le_total value next with rises | falls
  · exact ⟨⟨low, mem_append_left _ lowMember, by omega⟩, next, last, by omega⟩
  · exact ⟨⟨next, last, by omega⟩, high, mem_append_left _ highMember, by omega⟩

/-- The last samples are in the slots of their numbers. -/
structure Window (estimator : Estimator) (seen : List Sample) : Prop where
  count : estimator.rttWindowCount = min seen.length rttWindowSamples
  next : estimator.rttWindowNext = seen.length % rttWindowSamples
  window : ∀ index sample, seen[index]? = some sample → seen.length ≤ index + rttWindowSamples →
    estimator.rttWindow (index % rttWindowSamples) = sample.rttNs

variable {estimator : Estimator} {seen : List Sample}

theorem Window.note (holds : Window estimator seen) (sample : Sample) :
    Window (estimator.noteRtt sample.rttNs) (seen ++ [sample]) := by
  have longer : (seen ++ [sample]).length = seen.length + 1 := length_append
  refine ⟨?_, ?_, fun index other found late => ?_⟩
  · rw [longer, Estimator.noteRtt, holds.count]
    simp only [rttWindowSamples]
    omega
  · rw [longer, Estimator.noteRtt, holds.next, rttWindowSamples, Nat.mod_add_mod]
  · rw [longer, rttWindowSamples] at late
    simp only [Estimator.noteRtt, holds.next]
    rw [Function.update_apply]
    by_cases last : index = seen.length
    · subst last
      simpa using congrArg (·.map (·.rttNs)) found
    · have inside := (List.getElem?_eq_some_iff.mp found).1
      rw [if_neg (by rw [rttWindowSamples]; omega)]
      rw [getElem?_append_left (by omega)] at found
      exact holds.window index other found (by rw [rttWindowSamples]; omega)

theorem Window.mem_iff (holds : Window estimator seen) (rtt : Int) :
    rtt ∈ (range estimator.rttWindowCount).map estimator.rttWindow ↔ rtt ∈ recent seen := by
  rw [holds.count, recent, mem_map, mem_map, rttWindowSamples]
  constructor
  · rintro ⟨slot, below, rfl⟩
    -- The latest number of the slot.
    have inside : slot + 32 * ((seen.length - 1 - slot) / 32) < seen.length := by
      rw [mem_range] at below
      omega
    have found := getElem?_eq_getElem inside
    have kept := holds.window _ _ found (by rw [rttWindowSamples]; omega)
    rw [rttWindowSamples, Nat.add_mul_mod_self_left, Nat.mod_eq_of_lt (by
      rw [mem_range] at below
      omega)] at kept
    refine ⟨_, mem_iff_getElem?.mpr ⟨slot + 32 * ((seen.length - 1 - slot) / 32) -
      (seen.length - 32), ?_⟩, kept.symm⟩
    rw [getElem?_drop, Nat.add_sub_cancel' (by omega)]
    exact found
  · rintro ⟨sample, member, rfl⟩
    obtain ⟨offset, found⟩ := mem_iff_getElem?.mp member
    rw [getElem?_drop] at found
    have inside := (List.getElem?_eq_some_iff.mp found).1
    refine ⟨(seen.length - 32 + offset) % 32, mem_range.mpr (by omega), ?_⟩
    exact holds.window _ _ found (by rw [rttWindowSamples]; omega)

/-- What the estimator keeps of the samples. -/
structure Sound (log : Log) : Prop where
  window : Window log.estimator log.seen
  samples : log.estimator.acceptedSamples = log.accepted.length
  fewer : log.accepted.length ≤ log.seen.length
  averaged : log.accepted ≠ [] →
    Between (log.accepted.map (·.offsetNs)) log.estimator.offsetNs ∧
      Between (log.accepted.map (·.rttNs.tdiv 2)) log.estimator.uncertaintyNs
  range : -2 ^ 60 < log.estimator.offsetNs ∧ log.estimator.offsetNs < 2 ^ 60 ∧
    0 ≤ log.estimator.uncertaintyNs ∧ log.estimator.uncertaintyNs < 2 ^ 60

variable {log : Log} {sample : Sample}

/-- The window holds the last samples, so its minimum is theirs. -/
theorem Window.minimum (holds : Window estimator seen) (sample : Sample) :
    let least := (estimator.noteRtt sample.rttNs).minimumRttNs
    least ∈ recent (seen ++ [sample]) ∧ ∀ rtt ∈ recent (seen ++ [sample]), least ≤ rtt := by
  have same := (holds.note sample).mem_iff
  have least : ((range (estimator.noteRtt sample.rttNs).rttWindowCount).map
      (estimator.noteRtt sample.rttNs).rttWindow).min? =
      some (estimator.noteRtt sample.rttNs).minimumRttNs := by
    cases found : ((range (estimator.noteRtt sample.rttNs).rttWindowCount).map
      (estimator.noteRtt sample.rttNs).rttWindow).min? with
    | none =>
      have positive := (holds.note sample).count
      simp [rttWindowSamples] at found positive
      omega
    | some least => exact congrArg some (congrArg (·.getD sample.rttNs) found).symm
  rw [min?_eq_some_iff] at least
  exact ⟨(same _).mp least.1, fun rtt member => least.2 rtt ((same rtt).mpr member)⟩

theorem observe_eq (nonneg : 0 ≤ sample.rttNs) {rejected : Bool}
    (decided : (estimator.noteRtt sample.rttNs).rejects sample.rttNs = rejected) :
    estimator.observe sample = cond rejected
      ((estimator.noteRtt sample.rttNs).current false, estimator.noteRtt sample.rttNs)
      (((estimator.noteRtt sample.rttNs).accept sample).current true,
        (estimator.noteRtt sample.rttNs).accept sample) := by
  rw [Estimator.observe, if_neg (Int.not_lt.mpr nonneg), ← decided]
  exact (cond_eq_ite _ _ _).symm

theorem Sound.step (sound : log.Sound) (inside : InRange sample)
    (few : log.seen.length + 1 < 2 ^ 32) : (log.step sample).Sound := by
  obtain ⟨window, samples, fewer, averaged, range⟩ := sound
  have noted := window.note sample
  obtain ⟨nonneg, short, least, most⟩ := inside
  have half := Int.tdiv_eq_ediv_of_nonneg (b := 2) nonneg
  have longer (accepted : List Sample) (one : accepted.length ≤ log.accepted.length + 1) :
      accepted.length ≤ (log.seen ++ [sample]).length := by
    rw [length_append, length_singleton]
    omega
  unfold Log.step
  cases decided : (log.estimator.noteRtt sample.rttNs).rejects sample.rttNs with
  | true =>
    rw [observe_eq nonneg decided]
    exact ⟨noted, samples, longer _ (Nat.le_succ _), averaged, range⟩
  | false =>
    have counted : (log.estimator.acceptedSamples + 1) % 2 ^ 32 =
        (log.accepted ++ [sample]).length := by
      rw [samples, length_append]
      exact Nat.mod_eq_of_lt (by omega)
    rw [observe_eq nonneg decided]
    simp only [cond_false, Estimator.accept, Estimator.average, Arith.result]
    split
    next first =>
      refine ⟨⟨noted.count, noted.next, noted.window⟩, counted,
        longer (log.accepted ++ [sample]) (by simp), fun _ => ?_, ?_⟩
      · simp [Between, Estimator.current]
      · exact ⟨least, most, by simp only; omega, by simp only; omega⟩
    next later =>
      have some_ : log.accepted ≠ [] := by
        rintro none
        rw [none] at samples
        exact later samples
      refine ⟨⟨noted.count, noted.next, noted.window⟩, counted,
        longer (log.accepted ++ [sample]) (by simp), fun _ => ?_, ?_⟩
      · simp only [Estimator.current, ↓reduceIte, map_append]
        exact ⟨(averaged some_).1.average _, (averaged some_).2.average _⟩
      · have first := average_bounds log.estimator.offsetNs sample.offsetNs
        have second := average_bounds log.estimator.uncertaintyNs (sample.rttNs.tdiv 2)
        simp only [Estimator.noteRtt]
        omega

/-- A sample in a sound log: what is computed fits, and whether it is rejected. -/
theorem Sound.observed (sound : log.Sound)
    (inside : ∀ other ∈ log.seen ++ [sample], InRange other) :
    let least := (log.estimator.noteRtt sample.rttNs).minimumRttNs
    (∀ value ∈ log.estimator.intermediates sample, -2 ^ 63 ≤ value ∧ value < 2 ^ 63) ∧
      ((log.estimator.observe sample).1.accepted = false ↔
        4 ≤ log.accepted.length ∧ least + least / 2 + 2000000 < sample.rttNs) ∧
      ((log.estimator.observe sample).1.accepted = false →
        (log.step sample).estimator = log.estimator.noteRtt sample.rttNs) := by
  intro minimum
  obtain ⟨low, high, offsetLow, offsetHigh⟩ := inside sample (by simp)
  obtain ⟨least, there, same⟩ := mem_map.mp (sound.window.minimum sample).1
  obtain ⟨minimumLow, minimumHigh, -, -⟩ := inside least (mem_of_mem_drop there)
  rw [same] at minimumLow minimumHigh
  have half := Int.tdiv_eq_ediv_of_nonneg (b := 2) minimumLow
  have range := sound.range
  refine ⟨?_, ?_⟩
  · have halfRtt := Int.tdiv_eq_ediv_of_nonneg (b := 2) low
    have offset := average_bounds log.estimator.offsetNs sample.offsetNs
    have uncertainty := average_bounds log.estimator.uncertaintyNs (sample.rttNs.tdiv 2)
    simp only [Estimator.intermediates, Estimator.tolerated, Estimator.average, Arith.steps,
      Arith.result, nil_append, append_assoc, forall_mem_append, forall_mem_singleton]
    refine ⟨?_, ?_, ?_, ?_, ?_, ?_, ?_, ?_, ?_, ?_⟩ <;> omega
  have rejected : (log.estimator.noteRtt sample.rttNs).rejects sample.rttNs = true ↔
      4 ≤ log.accepted.length ∧ minimum + minimum / 2 + 2000000 < sample.rttNs := by
    simp only [Estimator.rejects, Bool.and_eq_true, decide_eq_true_iff, Estimator.tolerated,
      Arith.result, half, ← sound.samples]
    rfl
  unfold Log.step
  rw [← rejected]
  cases decided : (log.estimator.noteRtt sample.rttNs).rejects sample.rttNs with
  | true =>
    rw [observe_eq low decided]
    exact ⟨iff_of_true rfl rfl, fun _ => rfl⟩
  | false =>
    rw [observe_eq low decided]
    exact ⟨iff_of_false nofun nofun, nofun⟩

theorem reset_sound (estimator : Estimator) : Sound { estimator := estimator.reset } where
  window := ⟨rfl, rfl, nofun⟩
  samples := rfl
  fewer := Nat.le_refl _
  averaged := fun some_ => absurd rfl some_
  range := by simp [Estimator.reset]

theorem run_sound (estimator : Estimator) (samples : List Sample) (few : samples.length < 2 ^ 32)
    (inside : ∀ sample ∈ samples, InRange sample) :
    (Run.run step { estimator := estimator.reset } samples).Sound ∧
      (Run.run step { estimator := estimator.reset } samples).seen = samples := by
  induction samples using reverseRecOn with
  | nil => exact ⟨reset_sound estimator, rfl⟩
  | append_singleton samples last ih =>
    rw [length_append, length_singleton] at few
    obtain ⟨earlier, now⟩ := forall_mem_append.mp inside
    obtain ⟨sound, seen⟩ := ih (by omega) earlier
    rw [Run.run_append]
    refine ⟨sound.step (now last mem_cons_self) (by rw [seen]; exact few), ?_⟩
    show _ ++ [last] = _
    rw [seen]

/-- Since a reset, over fewer than 2^32 samples of reasonable size: nothing computed leaves
64 bits; a sample is rejected exactly if four were accepted before and its round trip
exceeds the minimum of the last 32 by more than half and two milliseconds, and changes
nothing then; and the estimate lies between those of the accepted samples. -/
theorem clock_offset_sound (estimator : Estimator) (samples : List Sample)
    (few : samples.length < 2 ^ 32) (inside : ∀ sample ∈ samples, InRange sample)
    {earlier : List Sample} {sample : Sample} (part : earlier ++ [sample] <+: samples) :
    let log := Run.run step { estimator := estimator.reset } earlier
    let after := log.step sample
    let estimate := (log.estimator.observe sample).1
    (∀ value ∈ log.estimator.intermediates sample, -2 ^ 63 ≤ value ∧ value < 2 ^ 63) ∧
      (∃ least ∈ recent (earlier ++ [sample]), (∀ rtt ∈ recent (earlier ++ [sample]), least ≤ rtt) ∧
        (estimate.accepted = false ↔
          4 ≤ log.accepted.length ∧ least + least / 2 + 2000000 < sample.rttNs)) ∧
      (estimate.accepted = false → after.estimator.offsetNs = log.estimator.offsetNs ∧
        after.estimator.uncertaintyNs = log.estimator.uncertaintyNs) ∧
      (after.accepted ≠ [] →
        Between (after.accepted.map (·.offsetNs)) after.estimator.offsetNs ∧
          Between (after.accepted.map (·.rttNs.tdiv 2)) after.estimator.uncertaintyNs) := by
  intro log after estimate
  have fewer := part.length_le
  have all : ∀ other ∈ earlier ++ [sample], InRange other :=
    fun other member => inside other (part.subset member)
  obtain ⟨sound, seen⟩ := run_sound estimator earlier (by simp at fewer; omega)
    (forall_mem_append.mp all).1
  obtain ⟨next, -⟩ := run_sound estimator (earlier ++ [sample]) (by omega) all
  rw [Run.run_append] at next
  rw [← seen] at all ⊢
  obtain ⟨fits, rejected, unchanged⟩ := sound.observed all
  obtain ⟨member, least⟩ := sound.window.minimum sample
  refine ⟨fits, ⟨_, member, least, rejected⟩, fun refused => ?_, next.averaged⟩
  rw [show after.estimator = _ from unchanged refused]
  exact ⟨rfl, rfl⟩

/-- Offsets of both signs; the last round trip is far longer than the others. -/
def mixedSamples : List Sample :=
  [⟨10, -7⟩, ⟨12, 9⟩, ⟨8, -3⟩, ⟨9, 5⟩, ⟨11, -20⟩, ⟨5000000, 100⟩]

theorem clock_offset_sound_mixedSamples :
    let log := Run.run step { estimator := Estimator.reset {} } mixedSamples
    log.accepted.map (·.offsetNs) = [-7, 9, -3, 5, -20] ∧
      Between (log.accepted.map (·.offsetNs)) log.estimator.offsetNs :=
  ⟨by decide +kernel, ((@clock_offset_sound {} mixedSamples (by decide)
    (by simp [InRange, mixedSamples]) (mixedSamples.take 5) ⟨5000000, 100⟩ prefix_rfl).2.2.2
    (by decide +kernel)).1⟩

end Log

end Sesivo.ClockOffset
