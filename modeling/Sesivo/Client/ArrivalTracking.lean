import Mathlib.Data.List.Perm.Basic
import Sesivo.Lib.Intervals
import Sesivo.Lib.Lists
import Sesivo.Lib.Run
import Sesivo.Lib.Serial
import Sesivo.Client.Sequences

set_option autoImplicit false

/- The arrival tracker against a set of missing numbers. Arrivals are positions
counted from a base, so that a run may cross 2^32; the table of ranges then is a
list of intervals of positions. -/

namespace Sesivo

open Serial NatInterval

theorem sequenceNumberBefore_iff (lhs rhs : UInt32) :
    sequenceNumberBefore lhs rhs = true ↔ Before lhs rhs := by
  have left := lhs.toNat_lt
  have right := rhs.toNat_lt
  have half : (0x80000000 : UInt32).toNat = 2 ^ 31 := rfl
  simp only [sequenceNumberBefore, Before, distance_eq, Bool.or_eq_true, Bool.and_eq_true,
    decide_eq_true_eq, gt_iff_lt, UInt32.lt_iff_toNat_lt, UInt32.toNat_sub, half]
  omega

/-- The number at a position after the base. -/
def numberAt (base : UInt32) (position : ℕ) : UInt32 := base + UInt32.ofNat position

theorem distance_numberAt (base : UInt32) {position : ℕ} (near : position < 2 ^ 32) :
    distance base (numberAt base position) = position := by
  rw [numberAt, distance_add, distance_self, UInt32.toNat_ofNat', Nat.zero_add, Nat.mod_mod]
  exact Nat.mod_eq_of_lt near

theorem numberAt_succ (base : UInt32) (position : ℕ) :
    numberAt base (position + 1) = numberAt base position + 1 := by
  rw [numberAt, numberAt, UInt32.ofNat_add, UInt32.add_assoc]
  rfl

theorem distance_numberAt_add (base : UInt32) (position : ℕ) {ahead : ℕ} (near : ahead < 2 ^ 32) :
    distance (numberAt base position) (numberAt base (position + ahead)) = ahead := by
  have shifted : numberAt base (position + ahead) = numberAt (numberAt base position) ahead := by
    rw [numberAt, numberAt, numberAt, UInt32.ofNat_add, UInt32.add_assoc]
  rw [shifted]
  exact distance_numberAt _ near

namespace MissingRange

def interval (base : UInt32) (range : MissingRange) : NatInterval where
  start := distance base range.first
  count := range.count.toNat

theorem interval_add {base first step : UInt32} (count : UInt32)
    (near : distance base first + step.toNat < 2 ^ 32) :
    (⟨first + step, count⟩ : MissingRange).interval base =
      ⟨distance base first + step.toNat, count.toNat⟩ := by
  rw [interval, distance_add, Nat.mod_eq_of_lt near]

/-- The test of the table's search, for a range in the near half of the circle. -/
theorem contains_iff {base : UInt32} {range : MissingRange} {position : ℕ}
    (near : position < 2 ^ 31)
    (short : (range.interval base).start + (range.interval base).count < 2 ^ 31) :
    numberAt base position - range.first < range.count ↔
      position ∈ (range.interval base).numbers := by
  have here := @distance_numberAt base position (by omega)
  have offset : (numberAt base position - range.first).toNat =
      distance range.first (numberAt base position) := rfl
  simp only [interval] at short
  rw [UInt32.lt_iff_toNat_lt, offset, mem_numbers]
  simp only [interval]
  by_cases behind : distance base range.first ≤ position
  · rw [@distance_of_le base _ _ (by omega), here]
    omega
  · rw [@distance_of_lt base _ _ (by omega), here]
    omega

end MissingRange

namespace SequenceArrivalTracker

/-- The tracked ranges as intervals of positions. -/
def intervals (base : UInt32) (tracker : SequenceArrivalTracker) : List NatInterval :=
  tracker.missing.map (·.interval base)

def tracked (base : UInt32) (tracker : SequenceArrivalTracker) : Finset ℕ :=
  union (tracker.intervals base)

theorem mem_intervals {base : UInt32} {tracker : SequenceArrivalTracker} {index : ℕ}
    {range : MissingRange} (found : tracker.missing[index]? = some range) :
    range.interval base ∈ tracker.intervals base :=
  List.mem_map_of_mem (List.mem_of_getElem? found)

/-- Swapping the last range into its place removes just the range at the index. -/
theorem eraseRange_perm {missing : List MissingRange} {index : ℕ}
    (inside : index < missing.length) :
    (eraseRange missing index).Perm (missing.eraseIdx index) := by
  have nonempty : missing ≠ [] := List.ne_nil_of_length_pos (by omega)
  have last := List.getLast?_eq_getLast_of_ne_nil nonempty
  have swapped := Lists.cons_swapErase_perm (List.getElem?_eq_getElem inside) last
  simp only [eraseRange, last]
  exact (swapped.trans (List.getElem_cons_eraseIdx_perm inside).symm).cons_inv

variable (next : UInt32)

/-- One step of the search for the oldest range. -/
def keepOldest (oldest : Option (ℕ × UInt32)) (entry : MissingRange × ℕ) :
    Option (ℕ × UInt32) :=
  match oldest with
  | none => some (entry.2, next - entry.1.first)
  | some (index, greatestAge) =>
    if greatestAge < next - entry.1.first then some (entry.2, next - entry.1.first)
    else some (index, greatestAge)

theorem keepOldest_spec (oldest : Option (ℕ × UInt32)) (entry : MissingRange × ℕ) :
    ∃ current, keepOldest next oldest entry = some current ∧
      (oldest = some current ∨ current = (entry.2, next - entry.1.first)) ∧
      next - entry.1.first ≤ current.2 ∧ ∀ old, oldest = some old → old.2 ≤ current.2 := by
  match oldest with
  | none => exact ⟨_, rfl, .inr rfl, UInt32.le_refl _, by simp⟩
  | some (index, greatestAge) =>
    by_cases older : greatestAge < next - entry.1.first
    · refine ⟨_, if_pos older, .inr rfl, UInt32.le_refl _, ?_⟩
      intro old same
      rw [← Option.some.inj same]
      exact UInt32.le_of_lt older
    refine ⟨_, if_neg older, .inl rfl, UInt32.not_lt.mp older, ?_⟩
    intro old same
    rw [← Option.some.inj same]
    exact UInt32.le_refl _

/-- The search ends with an entry it has seen, and with one of the greatest age. -/
theorem foldl_keepOldest (entries : List (MissingRange × ℕ))
    (start : Option (ℕ × UInt32)) (seen : start ≠ none ∨ entries ≠ []) :
    ∃ found, entries.foldl (keepOldest next) start = some found ∧
      (start = some found ∨ ∃ entry ∈ entries, found = (entry.2, next - entry.1.first)) ∧
      (∀ old, start = some old → old.2 ≤ found.2) ∧
      ∀ entry ∈ entries, next - entry.1.first ≤ found.2 := by
  induction entries generalizing start with
  | nil =>
    obtain ⟨found, same⟩ := Option.ne_none_iff_exists'.mp (by simpa using seen)
    refine ⟨found, same, .inl same, ?_, by simp⟩
    intro old kept
    rw [Option.some.inj (kept.symm.trans same)]
    exact UInt32.le_refl _
  | cons entry entries ih =>
    obtain ⟨current, stepped, origin, covers, grows⟩ := keepOldest_spec next start entry
    obtain ⟨found, result, source, above, all⟩ := ih (some current) (.inl (by simp))
    have more := above current rfl
    refine ⟨found, by rw [List.foldl_cons, stepped, result], ?_, ?_, ?_⟩
    · rcases source with kept | ⟨other, member, same⟩
      · rw [← Option.some.inj kept]
        rcases origin with old | new
        · exact .inl old
        · exact .inr ⟨entry, List.mem_cons_self, new⟩
      · exact .inr ⟨other, List.mem_cons_of_mem _ member, same⟩
    · intro old same
      exact UInt32.le_trans (grows old same) more
    · intro other member
      rcases List.mem_cons.mp member with rfl | later
      · exact UInt32.le_trans covers more
      · exact all other later

/-- The range found is none older than any other range that is not excluded. -/
theorem oldestRangeIndex_spec (tracker : SequenceArrivalTracker) {excluded index : ℕ}
    (inside : index < tracker.missing.length) (other : index ≠ excluded) :
    ∃ oldest range, tracker.oldestRangeIndex excluded = some oldest ∧ oldest ≠ excluded ∧
      tracker.missing[oldest]? = some range ∧
      ∀ place candidate, tracker.missing[place]? = some candidate → place ≠ excluded →
        tracker.nextSequence - candidate.first ≤ tracker.nextSequence - range.first := by
  have listed {place : ℕ} {candidate : MissingRange} :
      (candidate, place) ∈ tracker.missing.zipIdx.filter (fun entry => entry.2 ≠ excluded) ↔
        tracker.missing[place]? = some candidate ∧ place ≠ excluded := by
    rw [List.mem_filter, List.mk_mem_zipIdx_iff_getElem?]
    simp
  have some_ : tracker.missing.zipIdx.filter (fun entry => entry.2 ≠ excluded) ≠ [] :=
    List.ne_nil_of_mem (listed.mpr ⟨List.getElem?_eq_getElem inside, other⟩)
  obtain ⟨found, result, source, -, all⟩ := foldl_keepOldest tracker.nextSequence _ none (.inr some_)
  rcases source with none | ⟨⟨range, oldest⟩, member, rfl⟩
  · cases none
  obtain ⟨present, allowed⟩ := listed.mp member
  have answer : tracker.oldestRangeIndex excluded =
      ((tracker.missing.zipIdx.filter fun entry => entry.2 ≠ excluded).foldl
        (keepOldest tracker.nextSequence) none).map Prod.fst := rfl
  refine ⟨oldest, range, by rw [answer, result]; rfl, allowed, present, ?_⟩
  intro place candidate held different
  exact all (candidate, place) (listed.mpr ⟨held, different⟩)

/-- The next number stands right after the highest position, and the ranges lie
between the lowest and the highest one. -/
structure Ranged (base : UInt32) (low high : ℕ) (tracker : SequenceArrivalTracker) : Prop where
  next : distance base tracker.nextSequence = high + 1
  half : high < 2 ^ 31
  placed : NatInterval.Placed low high (tracker.intervals base)
  few : tracker.missing.length ≤ maxTrackedRanges

variable {base : UInt32} {low high : ℕ} {tracker : SequenceArrivalTracker}
variable {missing : List MissingRange} {index : ℕ} {range : MissingRange}

theorem Ranged.inside (ranged : tracker.Ranged base low high)
    (found : tracker.missing[index]? = some range) :
    0 < range.count.toNat ∧ low < distance base range.first ∧
      distance base range.first + range.count.toNat ≤ high := by
  have member := @mem_intervals base tracker index range found
  have positive := ranged.placed.nonempty _ member
  have bounds := ranged.placed.inside _ member
  exact ⟨positive, bounds.1, bounds.2⟩

theorem Ranged.start_le (ranged : tracker.Ranged base low high) {place other : ℕ}
    {candidate : MissingRange} (found : tracker.missing[place]? = some range)
    (present : tracker.missing[other]? = some candidate)
    (older : tracker.nextSequence - candidate.first ≤ tracker.nextSequence - range.first) :
    distance base range.first ≤ distance base candidate.first := by
  obtain ⟨_, _, bound⟩ := ranged.inside found
  obtain ⟨_, _, otherBound⟩ := ranged.inside present
  have next := ranged.next
  have age := @distance_of_le base range.first tracker.nextSequence (by omega)
  have otherAge := @distance_of_le base candidate.first tracker.nextSequence (by omega)
  have compared : distance candidate.first tracker.nextSequence ≤
      distance range.first tracker.nextSequence := older
  omega

theorem intervals_perm_of_getElem (found : tracker.missing[index]? = some range) :
    (tracker.intervals base).Perm
      (range.interval base :: (tracker.missing.eraseIdx index).map (·.interval base)) := by
  obtain ⟨inside, rfl⟩ := List.getElem?_eq_some_iff.mp found
  exact ((List.getElem_cons_eraseIdx_perm inside).map (·.interval base)).symm

theorem map_set_perm (inside : index < missing.length) (range : MissingRange) :
    ((missing.set index range).map (·.interval base)).Perm
      (range.interval base :: (missing.eraseIdx index).map (·.interval base)) :=
  (List.set_perm_cons_eraseIdx inside range).map (·.interval base)

/-- The ranges other than those at two places, and what replacing the first and
erasing the second leaves of the table. -/
theorem eraseRange_set_perm {oldest : ℕ}
    {range evicted : MissingRange} (inside : index < missing.length)
    (found : missing[oldest]? = some evicted) (different : oldest ≠ index) :
    ∃ rest, (missing.eraseIdx index).Perm (evicted :: rest) ∧
      (eraseRange (missing.set index range) oldest).Perm (range :: rest) := by
  have kept : (missing.set index range)[oldest]? = some evicted := by
    rw [List.getElem?_set_ne different.symm, found]
  obtain ⟨oldestInside, same⟩ := List.getElem?_eq_some_iff.mp kept
  have member : evicted ∈ missing.eraseIdx index :=
    List.mem_eraseIdx_iff_getElem?.mpr ⟨oldest, different, found⟩
  obtain ⟨front, back, split⟩ := List.append_of_mem member
  have others : (missing.eraseIdx index).Perm (evicted :: (front ++ back)) := by
    rw [split]
    exact List.perm_middle
  refine ⟨front ++ back, others, (eraseRange_perm oldestInside).trans ?_⟩
  have whole := List.getElem_cons_eraseIdx_perm oldestInside
  rw [same] at whole
  have replaced := (List.set_perm_cons_eraseIdx inside range).trans (others.cons range)
  exact (whole.trans (replaced.trans (List.Perm.swap _ _ _))).cons_inv

/-- The parts of a range on either side of a tracked number, as the table stores them. -/
theorem split_parts (ranged : tracker.Ranged base low high) {position : ℕ}
    (found : tracker.missing[index]? = some range)
    (near : position < 2 ^ 31) (held : position ∈ (range.interval base).numbers) :
    (range.interval base).split position =
      (if numberAt base position - range.first = 0 then []
        else [(⟨range.first, numberAt base position - range.first⟩ : MissingRange).interval base]) ++
      if numberAt base position - range.first = range.count - 1 then []
      else [(⟨numberAt base position + 1,
        range.count - (numberAt base position - range.first) - 1⟩ : MissingRange).interval base] := by
  obtain ⟨positive, -, bound⟩ := ranged.inside found
  have half := ranged.half
  have here := @distance_numberAt base position (by omega)
  have bounds := mem_numbers.mp held
  simp only [MissingRange.interval] at bounds
  have offset : (numberAt base position - range.first).toNat =
      position - distance base range.first := by
    show distance range.first (numberAt base position) = _
    rw [@distance_of_le base _ _ (by omega), here]
  have one : (1 : UInt32).toNat = 1 := rfl
  have isStart : numberAt base position - range.first = 0 ↔
      ¬ distance base range.first < position := by
    rw [← UInt32.toNat_inj, offset]
    show position - distance base range.first = 0 ↔ _
    omega
  have isEnd : numberAt base position - range.first = range.count - 1 ↔
      ¬ position + 1 < distance base range.first + range.count.toNat := by
    have before : (range.count - 1).toNat = range.count.toNat - 1 := by
      rw [UInt32.toNat_sub, one]
      omega
    rw [← UInt32.toNat_inj, offset, before]
    omega
  rw [split]
  congr 1
  · by_cases starts : (range.interval base).start < position
    · rw [if_pos starts, if_neg (fun same => isStart.mp same starts)]
      simp only [MissingRange.interval, offset]
    · rw [if_neg starts, if_pos (isStart.mpr starts)]
  by_cases ends : position + 1 < (range.interval base).start + (range.interval base).count
  · rw [if_pos ends, if_neg (fun same => isEnd.mp same ends),
      MissingRange.interval_add _ (by rw [here, one]; omega), here, one]
    have left : (range.count - (numberAt base position - range.first) - 1).toNat =
        distance base range.first + range.count.toNat - (position + 1) := by
      rw [UInt32.toNat_sub, UInt32.toNat_sub, one, offset]
      omega
    rw [left]
    rfl
  · rw [if_neg ends, if_pos (isEnd.mpr ends)]

/-- The table holds the new intervals and the others or, where these are too many, all
but the one of the others that starts first. The number says how much is lost. -/
inductive Stores (base : UInt32) (tracker : SequenceArrivalTracker) (new others : List NatInterval) :
    ℕ → Prop where
  | all (few : tracker.missing.length ≤ maxTrackedRanges)
      (stored : (tracker.intervals base).Perm (new ++ others)) : Stores base tracker new others 0
  | evicts (evicted : NatInterval) (rest : List NatInterval) (listed : others.Perm (evicted :: rest))
      (first : ∀ other ∈ others, evicted.start ≤ other.start)
      (crowded : maxTrackedRanges < (new ++ others).length)
      (few : tracker.missing.length ≤ maxTrackedRanges)
      (stored : (tracker.intervals base).Perm (new ++ rest)) :
      Stores base tracker new others evicted.count

/-- A number inside its range splits it, which takes one more place in the table. -/
theorem takeMissing_inner (ranged : tracker.Ranged base low high) {position : ℕ}
    (found : tracker.missing[index]? = some range)
    (single : range.count ≠ 1) (notStart : numberAt base position - range.first ≠ 0)
    (notEnd : numberAt base position - range.first ≠ range.count - 1) :
    let after := tracker.takeMissing (numberAt base position) index range
      (numberAt base position - range.first)
    let left : MissingRange := ⟨range.first, numberAt base position - range.first⟩
    let right : MissingRange := ⟨numberAt base position + 1,
      range.count - (numberAt base position - range.first) - 1⟩
    ∃ lost, Stores base after [left.interval base, right.interval base]
        ((tracker.missing.eraseIdx index).map (·.interval base)) lost ∧
      after.nextSequence = tracker.nextSequence ∧ after.initialized = tracker.initialized ∧
      after.unresolvedGaps = tracker.unresolvedGaps - (1 + lost) := by
  intro after left right
  obtain ⟨inside, -⟩ := List.getElem?_eq_some_iff.mp found
  have few := ranged.few
  have full : maxTrackedRanges = 64 := rfl
  have shorter := List.length_eraseIdx_of_lt inside
  have inner : after = _ := (if_neg single).trans ((if_neg notStart).trans (if_neg notEnd))
  by_cases room : tracker.missing.length < maxTrackedRanges
  · have result : after = { tracker with
        missing := tracker.missing.set index left ++ [right]
        unresolvedGaps := tracker.unresolvedGaps - 1 } := inner.trans (if_pos room)
    rw [result]
    refine ⟨0, .all ?_ ?_, rfl, rfl, rfl⟩
    · show (tracker.missing.set index left ++ [right]).length ≤ _
      rw [List.length_append, List.length_set, List.length_singleton]
      omega
    show ((tracker.missing.set index left ++ [right]).map (·.interval base)).Perm _
    rw [List.map_append]
    refine (List.perm_append_comm.trans ((map_set_perm inside left).cons _)).trans ?_
    exact List.Perm.swap _ _ _
  · -- Some other place exists, since the table is full.
    have other : ∃ place, place < tracker.missing.length ∧ place ≠ index := by
      by_cases zero : index = 0
      · exact ⟨1, by omega, by omega⟩
      · exact ⟨0, by omega, fun same => zero same.symm⟩
    obtain ⟨place, placeInside, different⟩ := other
    obtain ⟨oldest, evicted, answer, apart, present, older⟩ :=
      oldestRangeIndex_spec tracker placeInside different
    obtain ⟨rest, listed, erased⟩ :=
      @eraseRange_set_perm tracker.missing index oldest left evicted inside present apart
    have kept : (tracker.missing.set index left).getD oldest ⟨0, 0⟩ = evicted := by
      rw [List.getD_eq_getElem?_getD, List.getElem?_set_ne apart.symm, present]
      rfl
    have result : after = { tracker with
        missing := eraseRange (tracker.missing.set index left) oldest ++ [right]
        unresolvedGaps := tracker.unresolvedGaps - (1 + evicted.count.toNat) } := by
      refine inner.trans ((if_neg room).trans ?_)
      rw [answer]
      simp only
      rw [kept]
    have sizes := listed.length_eq
    rw [List.length_cons, shorter] at sizes
    rw [result]
    refine ⟨(evicted.interval base).count, .evicts (evicted.interval base)
      (rest.map (·.interval base)) (listed.map _) ?_ ?_ ?_ ?_, rfl, rfl, rfl⟩
    · intro candidate member
      obtain ⟨range, listed, rfl⟩ := List.mem_map.mp member
      obtain ⟨spot, elsewhere, held⟩ := List.mem_eraseIdx_iff_getElem?.mp listed
      exact ranged.start_le present held (older spot range held elsewhere)
    · rw [List.length_append, List.length_map, shorter]
      show _ < 2 + _
      omega
    · rw [List.length_append, erased.length_eq, List.length_cons, List.length_singleton]
      omega
    · show ((eraseRange (tracker.missing.set index left) oldest ++ [right]).map
        (·.interval base)).Perm _
      rw [List.map_append]
      refine (List.perm_append_comm.trans ((erased.map _).cons _)).trans ?_
      exact List.Perm.swap _ _ _

/-- Taking a tracked number out of its range leaves the parts on either side of it. -/
theorem takeMissing_spec (ranged : tracker.Ranged base low high) {position : ℕ}
    (found : tracker.missing[index]? = some range)
    (near : position < 2 ^ 31) (held : position ∈ (range.interval base).numbers) :
    let after := tracker.takeMissing (numberAt base position) index range
      (numberAt base position - range.first)
    ∃ lost, Stores base after ((range.interval base).split position)
        ((tracker.missing.eraseIdx index).map (·.interval base)) lost ∧
      after.nextSequence = tracker.nextSequence ∧ after.initialized = tracker.initialized ∧
      after.unresolvedGaps = tracker.unresolvedGaps - (1 + lost) := by
  intro after
  obtain ⟨inside, -⟩ := List.getElem?_eq_some_iff.mp found
  obtain ⟨-, -, bound⟩ := ranged.inside found
  have half := ranged.half
  have few := ranged.few
  have shorter := List.length_eraseIdx_of_lt inside
  have below : numberAt base position - range.first < range.count :=
    (MissingRange.contains_iff near (by simp only [MissingRange.interval]; omega)).mpr held
  have stored (range : MissingRange) := @map_set_perm base _ _ inside range
  have size (range : MissingRange) : (tracker.missing.set index range).length ≤ maxTrackedRanges := by
    rwa [List.length_set]
  rw [split_parts ranged found near held]
  by_cases single : range.count = 1
  · have starts : numberAt base position - range.first = 0 := by
      rw [single, UInt32.lt_iff_toNat_lt] at below
      change _ < 1 at below
      apply UInt32.toNat_inj.mp
      show _ = 0
      omega
    have result : after = { tracker with
        missing := eraseRange tracker.missing index
        unresolvedGaps := tracker.unresolvedGaps - 1 } := if_pos single
    rw [if_pos starts, if_pos (by rw [starts, single]; rfl), List.append_nil, result]
    refine ⟨0, .all ?_ ((eraseRange_perm inside).map _), rfl, rfl, rfl⟩
    rw [(eraseRange_perm inside).length_eq]
    omega
  by_cases starts : numberAt base position - range.first = 0
  · have first : numberAt base position = range.first := by
      rw [← UInt32.sub_add_cancel (numberAt base position) range.first, starts, UInt32.zero_add]
    have notEnd : ¬ numberAt base position - range.first = range.count - 1 := by
      rw [starts]
      intro same
      exact single (by rw [← UInt32.sub_add_cancel range.count 1, ← same, UInt32.zero_add])
    have result : after = { tracker with
        missing := tracker.missing.set index ⟨range.first + 1, range.count - 1⟩
        unresolvedGaps := tracker.unresolvedGaps - 1 } :=
      (if_neg single).trans (if_pos starts)
    rw [if_pos starts, if_neg notEnd, List.nil_append, starts, UInt32.sub_zero, first, result]
    exact ⟨0, .all (size _) (stored _), rfl, rfl, rfl⟩
  by_cases ends : numberAt base position - range.first = range.count - 1
  · have result : after = { tracker with
        missing := tracker.missing.set index ⟨range.first, range.count - 1⟩
        unresolvedGaps := tracker.unresolvedGaps - 1 } :=
      (if_neg single).trans ((if_neg starts).trans (if_pos ends))
    rw [if_neg starts, if_pos ends, List.append_nil, ends, result]
    exact ⟨0, .all (size _) (stored _), rfl, rfl, rfl⟩
  rw [if_neg starts, if_neg ends]
  exact takeMissing_inner ranged found single starts ends

/-- A gap behind the next number is stored as one more interval. -/
theorem rememberMissingRange_spec (ranged : tracker.Ranged base low high) {position : ℕ}
    (near : position < 2 ^ 31) (ahead : high + 1 < position) :
    let gap := numberAt base position - tracker.nextSequence
    let after := tracker.rememberMissingRange tracker.nextSequence gap
    gap.toNat = position - (high + 1) ∧ after.1 = gap ∧
      after.2.initialized = tracker.initialized ∧
      ∃ lost, Stores base after.2 [⟨high + 1, position - (high + 1)⟩] (tracker.intervals base)
          lost ∧
        after.2.unresolvedGaps = tracker.unresolvedGaps - lost := by
  intro gap after
  have next := ranged.next
  have few := ranged.few
  have full : maxTrackedRanges = 64 := rfl
  have here := @distance_numberAt base position (by omega)
  have width : gap.toNat = position - (high + 1) := by
    show distance tracker.nextSequence (numberAt base position) = _
    rw [@distance_of_le base _ _ (by omega), here, next]
  have positive : gap ≠ 0 := by
    intro zero
    rw [zero] at width
    change 0 = _ at width
    omega
  have stored : (⟨tracker.nextSequence, gap⟩ : MissingRange).interval base =
      ⟨high + 1, position - (high + 1)⟩ := by
    rw [MissingRange.interval, next, width]
  -- Every range ends before the highest arrival, so none can be extended.
  have alone : tracker.missing.findIdx? (fun range =>
      range.first + range.count = tracker.nextSequence) = none := by
    rw [List.findIdx?_eq_none_iff]
    intro range member
    obtain ⟨index, found⟩ := List.mem_iff_getElem?.mp member
    obtain ⟨-, -, bound⟩ := ranged.inside found
    rw [decide_eq_false_iff_not]
    intro touches
    have place := distance_add base range.first range.count
    rw [touches, next] at place
    omega
  have rest : after = _ := (if_neg positive).trans (by rw [alone])
  by_cases room : maxTrackedRanges ≤ tracker.missing.length
  · obtain ⟨oldest, evicted, answer, -, present, older⟩ :=
      @oldestRangeIndex_spec tracker maxTrackedRanges 0 (by omega) (by omega)
    obtain ⟨inside, -⟩ := List.getElem?_eq_some_iff.mp present
    have kept : tracker.missing.getD oldest ⟨0, 0⟩ = evicted := by
      rw [List.getD_eq_getElem?_getD, present]
      rfl
    have result : after = (gap, { tracker with
        unresolvedGaps := tracker.unresolvedGaps - evicted.count.toNat
        missing := tracker.missing.set oldest ⟨tracker.nextSequence, gap⟩ }) := by
      refine rest.trans ((if_pos room).trans ?_)
      rw [answer]
      simp only
      rw [kept]
    rw [result]
    refine ⟨width, rfl, rfl, (evicted.interval base).count, .evicts (evicted.interval base)
      ((tracker.missing.eraseIdx oldest).map (·.interval base))
      (intervals_perm_of_getElem present) ?_ ?_ ?_ ?_, rfl⟩
    · intro candidate member
      obtain ⟨range, listed, rfl⟩ := List.mem_map.mp member
      obtain ⟨spot, held⟩ := List.mem_iff_getElem?.mp listed
      obtain ⟨spotInside, -⟩ := List.getElem?_eq_some_iff.mp held
      exact ranged.start_le present held (older spot range held (by omega))
    · rw [List.length_append, intervals, List.length_map]
      show _ < 1 + _
      omega
    · rwa [List.length_set]
    · rw [← stored]
      exact map_set_perm inside _
  · have result : after = (gap, { tracker with
        missing := tracker.missing ++ [⟨tracker.nextSequence, gap⟩] }) :=
      rest.trans (if_neg room)
    rw [result]
    refine ⟨width, rfl, rfl, 0, .all ?_ ?_, rfl⟩
    · rw [List.length_append, List.length_singleton]
      omega
    rw [← stored]
    show ((tracker.missing ++ [_]).map (MissingRange.interval base)).Perm _
    rw [List.map_append]
    exact List.perm_append_comm

/-- What the table tracks after a change, if the intervals asked for fit together. -/
theorem Stores.result {new others : List NatInterval} {lost : ℕ}
    (stores : Stores base tracker new others lost)
    (placed : NatInterval.Placed low high (new ++ others)) :
    NatInterval.Placed low high (tracker.intervals base) ∧
      tracker.missing.length ≤ maxTrackedRanges ∧
      lost ≤ total others ∧
      total (tracker.intervals base) + lost = total (new ++ others) ∧
      (tracker.tracked base = union (new ++ others) ∨
        maxTrackedRanges < runs (union (new ++ others)) ∧
        ∃ evicted ∈ others, (∀ other ∈ others, evicted.start ≤ other.start) ∧
          tracker.tracked base = union (new ++ others) \ evicted.numbers) := by
  cases stores with
  | all few stored =>
    exact ⟨placed.perm stored.symm, few, Nat.zero_le _, total_perm stored, .inl (union_perm stored)⟩
  | evicts evicted rest listed first crowded few stored =>
    have whole : (new ++ others).Perm (evicted :: (new ++ rest)) :=
      (listed.append_left new).trans List.perm_middle
    have parted := placed.perm whole
    refine ⟨parted.tail.perm stored.symm, few, ?_, ?_, .inr ⟨?_, evicted, ?_, first, ?_⟩⟩
    · rw [total_perm listed, total_cons]
      exact Nat.le_add_right _ _
    · rw [total_perm stored, total_perm whole, total_cons, Nat.add_comm]
    · rw [placed.runs_eq_length]
      exact crowded
    · exact listed.mem_iff.mpr List.mem_cons_self
    · rw [tracked, union_perm stored, parted.union_tail, union_perm whole]

end SequenceArrivalTracker

/-- The highest position that has arrived. -/
def highest (arrivals : List ℕ) : ℕ := arrivals.foldl max 0

/-- The positions between the first and the highest arrival that have not arrived. -/
def missingNumbers (arrivals : List ℕ) : Finset ℕ :=
  (Finset.Ioo (arrivals.headD 0) (highest arrivals)).filter (· ∉ arrivals)

/-- What an arrival does to a set of missing positions. -/
def afterArrival (missing : Finset ℕ) (high position : ℕ) : Finset ℕ :=
  if position ≤ high then missing.erase position else missing ∪ Finset.Ioo high position

theorem highest_append (arrivals : List ℕ) (position : ℕ) :
    highest (arrivals ++ [position]) = max (highest arrivals) position := by
  simp [highest]

theorem le_highest {arrivals : List ℕ} {position : ℕ} (member : position ∈ arrivals) :
    position ≤ highest arrivals := by
  induction arrivals using List.reverseRecOn with
  | nil => cases member
  | append_singleton earlier last ih =>
    rw [highest_append]
    rcases List.mem_append.mp member with old | new
    · exact (ih old).trans (le_max_left _ _)
    · rw [List.mem_singleton.mp new]
      exact le_max_right _ _

theorem highest_mem {arrivals : List ℕ}
    (nonempty : arrivals ≠ []) : highest arrivals ∈ arrivals := by
  induction arrivals using List.reverseRecOn with
  | nil => exact absurd rfl nonempty
  | append_singleton earlier last ih =>
    rw [highest_append]
    by_cases only : earlier = []
    · subst only
      simp [highest]
    rcases max_choice (highest earlier) last with old | new
    · rw [old]
      exact List.mem_append_left _ (ih only)
    · rw [new]
      exact List.mem_append_right _ List.mem_cons_self

/-- The set of missing positions moves by one step for each arrival. -/
theorem missingNumbers_append {arrivals : List ℕ} (nonempty : arrivals ≠ []) (position : ℕ) :
    missingNumbers (arrivals ++ [position]) =
      afterArrival (missingNumbers arrivals) (highest arrivals) position := by
  have head : (arrivals ++ [position]).headD 0 = arrivals.headD 0 := by
    cases arrivals with
    | nil => exact absurd rfl nonempty
    | cons first rest => rfl
  have arrived := highest_mem nonempty
  have below : arrivals.headD 0 ≤ highest arrivals := by
    cases arrivals with
    | nil => exact absurd rfl nonempty
    | cons first rest => exact le_highest List.mem_cons_self
  ext number
  rw [missingNumbers, head, highest_append, afterArrival]
  by_cases late : position ≤ highest arrivals
  · rw [if_pos late, max_eq_left late]
    simp only [missingNumbers, Finset.mem_filter, Finset.mem_erase, List.mem_append,
      List.mem_singleton, not_or]
    tauto
  rw [if_neg late, max_eq_right (by omega)]
  simp only [missingNumbers, Finset.mem_filter, Finset.mem_union, Finset.mem_Ioo, List.mem_append,
    List.mem_singleton, not_or]
  constructor
  · rintro ⟨⟨low, high⟩, absent, -⟩
    have other : number ≠ highest arrivals := fun same => absent (same ▸ arrived)
    by_cases before : number < highest arrivals
    · exact .inl ⟨⟨low, before⟩, absent⟩
    · exact .inr ⟨by omega, high⟩
  · rintro (⟨⟨low, high⟩, absent⟩ | ⟨low, high⟩)
    · exact ⟨⟨low, by omega⟩, absent, by omega⟩
    refine ⟨⟨by omega, high⟩, ?_, by omega⟩
    intro present
    have bound := le_highest present
    omega

namespace SequenceArrivalTracker

variable {base : UInt32} {arrivals : List ℕ} {tracker : SequenceArrivalTracker} {position : ℕ}

/-- The state of the tracker after the given arrivals. -/
structure Tracks (base : UInt32) (arrivals : List ℕ) (tracker : SequenceArrivalTracker) : Prop
    extends Ranged base (arrivals.headD 0) (highest arrivals) tracker where
  initialized : tracker.initialized = true
  unseen : ∀ position ∈ arrivals, position ∉ tracker.tracked base
  unresolved : tracker.unresolvedGaps = total (tracker.intervals base)

/-- The tracked positions after an arrival: those the set model has or, where they need
more intervals than the table has room for, without one whole interval. It is the one
that starts first, the interval that the arrival splits aside. -/
def Keeps (base : UInt32) (before after : SequenceArrivalTracker) (high position : ℕ) : Prop :=
  after.tracked base = afterArrival (before.tracked base) high position ∨
    maxTrackedRanges < runs (afterArrival (before.tracked base) high position) ∧
    ∃ evicted ∈ before.intervals base, position ∉ evicted.numbers ∧
      (∀ other ∈ before.intervals base, position ∉ other.numbers →
        evicted.start ≤ other.start) ∧
      after.tracked base =
        afterArrival (before.tracked base) high position \ evicted.numbers

theorem Keeps.subset {before after : SequenceArrivalTracker} {high : ℕ}
    (keeps : Keeps base before after high position) :
    after.tracked base ⊆ afterArrival (before.tracked base) high position := by
  rcases keeps with same | ⟨-, evicted, -, -, -, less⟩
  · exact same.subset
  · rw [less]
    exact Finset.sdiff_subset

theorem Tracks.unseen_after (tracks : tracker.Tracks base arrivals) {after : SequenceArrivalTracker}
    (keeps : Keeps base tracker after (highest arrivals) position) :
    ∀ other ∈ arrivals ++ [position], other ∉ after.tracked base := by
  intro other member present
  have inside := keeps.subset present
  unfold afterArrival at inside
  rcases List.mem_append.mp member with old | new
  · have unseen := tracks.unseen other old
    have bound := le_highest old
    split at inside
    · exact unseen (Finset.mem_of_mem_erase inside)
    rcases Finset.mem_union.mp inside with before | gap
    · exact unseen before
    · have above := (Finset.mem_Ioo.mp gap).1
      omega
  · rw [List.mem_singleton.mp new] at inside
    split at inside
    · exact Finset.notMem_erase _ _ inside
    rcases Finset.mem_union.mp inside with before | gap
    · have below := (tracks.placed.mem_inside before).2
      omega
    · have above := (Finset.mem_Ioo.mp gap).2
      omega

/-- What recording an arrival answers and leaves. -/
structure Records (base : UInt32) (arrivals : List ℕ) (tracker : SequenceArrivalTracker)
    (position : ℕ) (answer : SequenceArrivalDelta × SequenceArrivalTracker) : Prop where
  ranged : answer.2.Ranged base (arrivals.headD 0) (max (highest arrivals) position)
  initialized : answer.2.initialized = true
  unresolved : answer.2.unresolvedGaps = total (answer.2.intervals base)
  keeps : Keeps base tracker answer.2 (highest arrivals) position
  late : answer.1.lateOrDuplicate = decide (position ≤ highest arrivals)
  recovered : answer.1.gapsRecovered = if position ∈ tracker.tracked base then 1 else 0

theorem Tracks.untracked_above (tracks : tracker.Tracks base arrivals)
    (above : highest arrivals < position) : position ∉ tracker.tracked base := by
  intro present
  have below := (tracks.placed.mem_inside present).2
  omega

theorem Tracks.next_add {next : UInt32} {place : ℕ} (here : distance base next = place)
    (near : place < 2 ^ 31) : distance base (next + 1) = place + 1 := by
  rw [distance_add, here]
  show (place + 1) % 2 ^ 32 = place + 1
  omega

/-- The next number in sequence leaves the table alone. -/
theorem Tracks.record_next (tracks : tracker.Tracks base arrivals) (near : position < 2 ^ 31)
    (here : position = highest arrivals + 1) :
    Records base arrivals tracker position (tracker.record (numberAt base position)) := by
  have place := @distance_numberAt base position (by omega)
  have same : numberAt base position = tracker.nextSequence := by
    apply @distance_inj base
    rw [place, tracks.next, here]
  have result : tracker.record (numberAt base position) =
      ({}, { tracker with nextSequence := tracker.nextSequence + 1 }) := by
    simp [record, tracks.initialized, same]
  have wider : max (highest arrivals) position = position := max_eq_right (by omega)
  rw [result]
  refine ⟨⟨?_, ?_, ?_, tracks.few⟩, tracks.initialized, tracks.unresolved, .inl ?_, ?_, ?_⟩
  · rw [wider]
    exact Tracks.next_add (same ▸ place) near
  · rw [wider]
    exact near
  · exact tracks.placed.mono (by omega)
  · show tracker.tracked base = _
    have empty : Finset.Ioo (highest arrivals) position = ∅ := by
      ext number
      simp only [Finset.mem_Ioo, Finset.notMem_empty, iff_false]
      omega
    rw [afterArrival, if_neg (by omega), empty, Finset.union_empty]
  · rw [eq_comm, decide_eq_false_iff_not]
    omega
  · rw [if_neg (tracks.untracked_above (by omega))]

/-- A number further ahead leaves a gap. -/
theorem Tracks.record_gap (tracks : tracker.Tracks base arrivals) (near : position < 2 ^ 31)
    (ahead : highest arrivals + 1 < position) :
    Records base arrivals tracker position (tracker.record (numberAt base position)) := by
  have place := @distance_numberAt base position (by omega)
  have next := tracks.next
  have other : numberAt base position ≠ tracker.nextSequence := by
    intro same
    rw [same, next] at place
    omega
  have after : sequenceNumberAfter (numberAt base position) tracker.nextSequence = true := by
    apply (sequenceNumberBefore_iff _ _).mpr
    have apart := @distance_of_le base tracker.nextSequence (numberAt base position) (by omega)
    constructor <;> omega
  obtain ⟨width, counted, initialized, lost, stores, left⟩ :=
    rememberMissingRange_spec tracks.toRanged near ahead
  have gap : NatInterval.Placed (arrivals.headD 0) position
      ([⟨highest arrivals + 1, position - (highest arrivals + 1)⟩] ++ tracker.intervals base) := by
    have low : arrivals.headD 0 ≤ highest arrivals := by
      cases arrivals with
      | nil => exact Nat.zero_le _
      | cons first rest => exact le_highest List.mem_cons_self
    refine (tracks.placed.mono (by omega)).cons ?_ ?_ ?_ ?_
    · show 0 < position - (highest arrivals + 1)
      omega
    · show arrivals.headD 0 < highest arrivals + 1
      omega
    · show highest arrivals + 1 + (position - (highest arrivals + 1)) ≤ position
      omega
    · intro interval member
      have inside := (tracks.placed.inside interval member).2
      right
      show interval.start + interval.count < highest arrivals + 1
      omega
  obtain ⟨placed, few, bounded, total, kept⟩ := stores.result gap
  have wanted : union ([⟨highest arrivals + 1, position - (highest arrivals + 1)⟩] ++
      tracker.intervals base) = afterArrival (tracker.tracked base) (highest arrivals) position := by
    rw [afterArrival, if_neg (by omega), union_append, Finset.union_comm, tracked]
    congr 1
    ext number
    simp only [union_cons, union_nil, Finset.union_empty, mem_numbers, Finset.mem_Ioo]
    omega
  rw [wanted] at kept
  have untracked (interval : NatInterval) (member : interval ∈ tracker.intervals base) :
      position ∉ interval.numbers := by
    intro present
    exact tracks.untracked_above (by omega) (mem_union.mpr ⟨interval, member, present⟩)
  have wider : max (highest arrivals) position = position := max_eq_right (by omega)
  simp only [record, tracks.initialized, Bool.true_eq_false, ↓reduceIte, other, after]
  refine ⟨⟨?_, ?_, ?_, few⟩, initialized.trans tracks.initialized, ?_, ?_, ?_, ?_⟩
  · rw [wider]
    exact Tracks.next_add place near
  · rw [wider]
    exact near
  · rw [wider]
    exact placed
  · have balance : (tracker.rememberMissingRange tracker.nextSequence
        (numberAt base position - tracker.nextSequence)).2.unresolvedGaps +
        (tracker.rememberMissingRange tracker.nextSequence
          (numberAt base position - tracker.nextSequence)).1.toNat =
        NatInterval.total ((tracker.rememberMissingRange tracker.nextSequence
          (numberAt base position - tracker.nextSequence)).2.intervals base) := by
      rw [left, counted, width, tracks.unresolved]
      simp only [total_append, total_cons, total_nil] at total
      omega
    exact balance
  · rcases kept with all | ⟨crowded, evicted, member, first, less⟩
    · exact .inl all
    · exact .inr ⟨crowded, evicted, member, untracked evicted member,
        fun other listed _ => first other listed, less⟩
  · rw [eq_comm, decide_eq_false_iff_not]
    omega
  · rw [if_neg (tracks.untracked_above (by omega))]

/-- A number behind the next one is looked up in the table. -/
theorem Tracks.record_of_late (tracks : tracker.Tracks base arrivals)
    (late : position ≤ highest arrivals) :
    tracker.record (numberAt base position) =
      match tracker.removeMissing (numberAt base position) with
      | (true, removed) =>
        ({ lateOrDuplicate := true, gapsRecovered := 1 },
          { removed with totalGapsRecovered := tracker.totalGapsRecovered + 1 })
      | (false, same) => ({ lateOrDuplicate := true }, same) := by
  have half := tracks.half
  have next := tracks.next
  have place := @distance_numberAt base position (by omega)
  have other : numberAt base position ≠ tracker.nextSequence := by
    intro same
    rw [same, next] at place
    omega
  have notAfter : ¬ sequenceNumberAfter (numberAt base position) tracker.nextSequence = true := by
    intro after
    have apart := ((sequenceNumberBefore_iff _ _).mp after).2
    rw [@distance_of_lt base (numberAt base position) tracker.nextSequence (by omega)] at apart
    omega
  have started : ¬ tracker.initialized = false := by
    rw [tracks.initialized]
    exact Bool.true_eq_false.mp
  exact (if_neg started).trans ((if_neg other).trans (if_neg notAfter))

theorem Tracks.contains_iff (tracks : tracker.Tracks base arrivals)
    (late : position ≤ highest arrivals) {range : MissingRange} (member : range ∈ tracker.missing) :
    numberAt base position - range.first < range.count ↔
      position ∈ (range.interval base).numbers := by
  have half := tracks.half
  obtain ⟨index, found⟩ := List.mem_iff_getElem?.mp member
  obtain ⟨-, -, bound⟩ := tracks.inside found
  exact MissingRange.contains_iff (by omega) (by simp only [MissingRange.interval]; omega)

/-- A late number that no range contains changes nothing. -/
theorem Tracks.record_unknown (tracks : tracker.Tracks base arrivals)
    (late : position ≤ highest arrivals) (searched : tracker.missing.zipIdx.find? (fun entry =>
      numberAt base position - entry.1.first < entry.1.count) = none) :
    Records base arrivals tracker position (tracker.record (numberAt base position)) := by
  have untracked : position ∉ tracker.tracked base := by
    intro present
    obtain ⟨interval, member, holds⟩ := mem_union.mp present
    obtain ⟨range, listed, rfl⟩ := List.mem_map.mp member
    obtain ⟨index, found⟩ := List.mem_iff_getElem?.mp listed
    have refused := List.find?_eq_none.mp searched (range, index)
      (List.mk_mem_zipIdx_iff_getElem?.mpr found)
    exact refused (decide_eq_true ((tracks.contains_iff late listed).mpr holds))
  have result : tracker.record (numberAt base position) =
      ({ lateOrDuplicate := true }, tracker) := by
    rw [tracks.record_of_late late, removeMissing, searched]
  have wider : max (highest arrivals) position = highest arrivals := max_eq_left late
  rw [result]
  refine ⟨?_, tracks.initialized, tracks.unresolved, .inl ?_, ?_, ?_⟩
  · rw [wider]
    exact tracks.toRanged
  · rw [afterArrival, if_pos late, Finset.erase_eq_of_notMem untracked]
  · exact (decide_eq_true late).symm
  · rw [if_neg untracked]

/-- A late number that a range contains is taken out of it. -/
theorem Tracks.record_tracked (tracks : tracker.Tracks base arrivals)
    (late : position ≤ highest arrivals) {range : MissingRange} {index : ℕ}
    (searched : tracker.missing.zipIdx.find? (fun entry =>
      numberAt base position - entry.1.first < entry.1.count) = some (range, index)) :
    Records base arrivals tracker position (tracker.record (numberAt base position)) := by
  have half := tracks.half
  have found := List.mk_mem_zipIdx_iff_getElem?.mp (List.mem_of_find?_eq_some searched)
  have accepted := List.find?_some searched
  have held := (tracks.contains_iff late (List.mem_of_getElem? found)).mp
    (of_decide_eq_true accepted)
  have whole := @intervals_perm_of_getElem base tracker index range found
  have parted := tracks.placed.perm whole
  obtain ⟨lost, stores, sameNext, sameInit, left⟩ :=
    takeMissing_spec tracks.toRanged found (by omega) held
  obtain ⟨placed, few, bounded, total, kept⟩ := stores.result (parted.split held)
  have present : position ∈ tracker.tracked base := mem_union.mpr ⟨_, mem_intervals found, held⟩
  have wanted : union ((range.interval base).split position ++
      (tracker.missing.eraseIdx index).map (·.interval base)) =
        afterArrival (tracker.tracked base) (highest arrivals) position := by
    rw [parted.union_split held, afterArrival, if_pos late, tracked, union_perm whole]
  rw [wanted] at kept
  have result : tracker.record (numberAt base position) =
      ({ lateOrDuplicate := true, gapsRecovered := 1 },
        { tracker.takeMissing (numberAt base position) index range
            (numberAt base position - range.first) with
          totalGapsRecovered := tracker.totalGapsRecovered + 1 }) := by
    rw [tracks.record_of_late late, removeMissing, searched]
  have wider : max (highest arrivals) position = highest arrivals := max_eq_left late
  rw [result]
  refine ⟨?_, sameInit.trans tracks.initialized, ?_, ?_, ?_, ?_⟩
  · rw [wider]
    exact ⟨(congrArg (distance base) sameNext).trans tracks.next, half, placed, few⟩
  · have parts := total_split held
    have sum := total_perm whole
    rw [total_cons] at sum
    rw [total_append] at total
    show (tracker.takeMissing _ _ _ _).unresolvedGaps =
      NatInterval.total ((tracker.takeMissing _ _ _ _).intervals base)
    rw [left, tracks.unresolved]
    omega
  · rcases kept with all | ⟨crowded, evicted, member, first, less⟩
    · exact .inl all
    refine .inr ⟨crowded, evicted, whole.mem_iff.mpr (List.mem_cons_of_mem _ member), ?_, ?_, less⟩
    · intro shared
      exact Finset.disjoint_left.mp parted.disjoint held (mem_union.mpr ⟨evicted, member, shared⟩)
    intro other listed elsewhere
    rcases List.mem_cons.mp (whole.mem_iff.mp listed) with rfl | rest
    · exact absurd held elsewhere
    · exact first other rest
  · exact (decide_eq_true late).symm
  · rw [if_pos present]

theorem Tracks.records (tracks : tracker.Tracks base arrivals) (near : position < 2 ^ 31) :
    Records base arrivals tracker position (tracker.record (numberAt base position)) := by
  by_cases late : position ≤ highest arrivals
  · cases searched : tracker.missing.zipIdx.find? fun entry =>
        numberAt base position - entry.1.first < entry.1.count with
    | none => exact tracks.record_unknown late searched
    | some entry => exact tracks.record_tracked late searched
  by_cases here : position = highest arrivals + 1
  · exact tracks.record_next near here
  · exact tracks.record_gap near (by omega)

theorem Tracks.append (tracks : tracker.Tracks base arrivals) (nonempty : arrivals ≠ [])
    (near : position < 2 ^ 31) :
    (tracker.record (numberAt base position)).2.Tracks base (arrivals ++ [position]) := by
  have records := tracks.records near
  have head : (arrivals ++ [position]).headD 0 = arrivals.headD 0 := by
    cases arrivals with
    | nil => exact absurd rfl nonempty
    | cons first rest => rfl
  refine ⟨?_, records.initialized, tracks.unseen_after records.keeps, records.unresolved⟩
  rw [head, highest_append]
  exact records.ranged

theorem Tracks.first (near : position < 2 ^ 31) :
    (({} : SequenceArrivalTracker).record (numberAt base position)).2.Tracks base [position] := by
  have place := @distance_numberAt base position (by omega)
  refine ⟨⟨?_, ?_, NatInterval.Placed.nil _ _, Nat.zero_le _⟩, rfl, ?_, rfl⟩
  · exact Tracks.next_add place near
  · exact near
  · intro other _ present
    cases present

/-- The tracker after arrivals at the given positions. -/
def after (base : UInt32) (arrivals : List ℕ) : SequenceArrivalTracker :=
  Run.run (fun tracker position => (tracker.record (numberAt base position)).2) {} arrivals

theorem after_append (base : UInt32) (arrivals : List ℕ) (position : ℕ) :
    after base (arrivals ++ [position]) =
      ((after base arrivals).record (numberAt base position)).2 :=
  Run.run_append _ _ _ _

theorem tracks_after (base : UInt32) (arrivals : List ℕ) (nonempty : arrivals ≠ [])
    (span : ∀ position ∈ arrivals, position < 2 ^ 31) :
    (after base arrivals).Tracks base arrivals := by
  induction arrivals using List.reverseRecOn with
  | nil => exact absurd rfl nonempty
  | append_singleton earlier last ih =>
    obtain ⟨before, here⟩ := List.forall_mem_append.mp span
    have near := here last List.mem_cons_self
    rw [after_append]
    by_cases only : earlier = []
    · subst only
      exact Tracks.first near
    · exact (ih only before).append only near

/-- While the table had room for every interval needed, nothing is forgotten. -/
theorem tracked_exact (base : UInt32) (arrivals : List ℕ) (nonempty : arrivals ≠ [])
    (span : ∀ position ∈ arrivals, position < 2 ^ 31) (room : ∀ earlier, earlier <+: arrivals →
      runs (missingNumbers earlier) ≤ maxTrackedRanges) :
    (after base arrivals).tracked base = missingNumbers arrivals := by
  induction arrivals using List.reverseRecOn with
  | nil => exact absurd rfl nonempty
  | append_singleton earlier last ih =>
    obtain ⟨before, here⟩ := List.forall_mem_append.mp span
    have near := here last List.mem_cons_self
    by_cases only : earlier = []
    · subst only
      simp [missingNumbers, highest]
      rfl
    have exact_ := ih only before
      (fun shorter leads => room shorter (leads.trans (List.prefix_append _ _)))
    have keeps := ((tracks_after base earlier only before).records near).keeps
    rw [← after_append] at keeps
    unfold Keeps at keeps
    rw [exact_, ← missingNumbers_append only last] at keeps
    rcases keeps with same | ⟨crowded, -⟩
    · exact same
    · have fits := room (earlier ++ [last]) List.prefix_rfl
      omega

/-- The tracker after any arrivals within half the circle, and what it does with the
next one, against the set of positions that are missing. -/
theorem tracker_refines_set (base : UInt32) (arrivals : List ℕ) (position : ℕ)
    (nonempty : arrivals ≠ []) (span : ∀ other ∈ arrivals ++ [position], other < 2 ^ 31) :
    let tracker : SequenceArrivalTracker := after base arrivals
    let answer := tracker.record (numberAt base position)
    tracker.missing.Pairwise (fun left right =>
        Disjoint (left.interval base).numbers (right.interval base).numbers) ∧
      (∀ range ∈ tracker.missing, (range.interval base).numbers.Nonempty ∧
        (range.interval base).numbers ⊆ missingNumbers arrivals) ∧
      tracker.unresolvedGaps = (tracker.tracked base).card ∧
      (answer.1.gapsRecovered = if position ∈ tracker.tracked base then 1 else 0) ∧
      (position ∈ arrivals →
        answer.1.gapsRecovered = 0 ∧ sequenceArrivalShouldEnqueue answer.1 = false) ∧
      ((∀ earlier, earlier <+: arrivals →
          runs (missingNumbers earlier) ≤ maxTrackedRanges) →
        tracker.tracked base = missingNumbers arrivals) ∧
      Keeps base tracker answer.2 (highest arrivals) position := by
  intro tracker answer
  obtain ⟨before, here⟩ := List.forall_mem_append.mp span
  have tracks := tracks_after base arrivals nonempty before
  have records := tracks.records (here position List.mem_cons_self)
  refine ⟨?_, ?_, ?_, records.recovered, ?_, tracked_exact base arrivals nonempty before,
    records.keeps⟩
  · have apart := List.pairwise_map.mp tracks.placed.apart
    refine apart.imp ?_
    intro left right separate
    rw [Finset.disjoint_left]
    intro number mine other
    rw [mem_numbers] at mine other
    unfold NatInterval.Apart at separate
    omega
  · intro range member
    have listed : range.interval base ∈ tracker.intervals base := List.mem_map_of_mem member
    have positive := tracks.placed.nonempty _ listed
    refine ⟨⟨(range.interval base).start, mem_numbers.mpr (by omega)⟩, ?_⟩
    intro number held
    have present : number ∈ tracker.tracked base := mem_union.mpr ⟨_, listed, held⟩
    have inside := tracks.placed.mem_inside present
    rw [missingNumbers, Finset.mem_filter, Finset.mem_Ioo]
    exact ⟨inside, fun arrived => tracks.unseen number arrived present⟩
  · exact tracks.unresolved.trans tracks.placed.total_eq_card
  · intro arrived
    have untracked := tracks.unseen position arrived
    have none : answer.1.gapsRecovered = 0 := by rw [records.recovered, if_neg untracked]
    have late : answer.1.lateOrDuplicate = true := by
      rw [records.late, decide_eq_true_eq]
      exact le_highest arrived
    refine ⟨none, ?_⟩
    rw [sequenceArrivalShouldEnqueue, late, none]
    rfl

/-- Four numbers across the wrap: two are missing after a jump, and one comes late. -/
theorem tracker_refines_set_wrap :
    (after 0xFFFFFFFE [0, 3]).tracked 0xFFFFFFFE = {1, 2} ∧
      ((after 0xFFFFFFFE [0, 3]).record (numberAt 0xFFFFFFFE 1)).1.gapsRecovered = 1 ∧
      (after 0xFFFFFFFE [0, 3]).unresolvedGaps = 2 := by
  have facts : (after 0xFFFFFFFE [0, 3]).tracked 0xFFFFFFFE = {1, 2} := by decide
  obtain ⟨-, -, unresolved, recovered, -⟩ :=
    tracker_refines_set 0xFFFFFFFE [0, 3] 1 (by decide) (by decide)
  refine ⟨facts, ?_, ?_⟩
  · rw [recovered, facts]
    decide
  · rw [unresolved, facts]
    decide

end SequenceArrivalTracker

end Sesivo
