import Mathlib.Tactic.Linarith
import Sesivo.Lib.Run
import Sesivo.Server.RateLimiter

set_option autoImplicit false

/- How many calls a token bucket lets through. The rate and the burst stay the
same from call to call and every call costs one token. -/

namespace Sesivo

def inSeconds (time : Time) : ℚ := (time : ℚ) / 1000000000

theorem inSeconds_lt {first second : Time} (earlier : first < second) :
    inSeconds first < inSeconds second := by
  have cast : (first : ℚ) < (second : ℚ) := Int.cast_lt.mpr earlier
  unfold inSeconds
  linarith

theorem inSeconds_le {first second : Time} (earlier : first ≤ second) :
    inSeconds first ≤ inSeconds second := by
  have cast : (first : ℚ) ≤ (second : ℚ) := Int.cast_le.mpr earlier
  unfold inSeconds
  linarith

namespace TokenBucket

variable (rate burst : ℚ)

def afterAllow (bucket : TokenBucket) (now : Time) : TokenBucket :=
  (bucket.allow now rate burst 1).2

/-- The number of the calls that are let through. -/
def allowedCount : TokenBucket → List Time → ℕ
  | _, [] => 0
  | bucket, now :: calls =>
    (if (bucket.allow now rate burst 1).1 then 1 else 0) +
      allowedCount (bucket.afterAllow rate burst now) calls

variable {rate burst} {bucket : TokenBucket}

theorem allow_unit (someRate : 0 ≤ rate) (someBurst : 0 ≤ burst) (now : Time) :
    bucket.allow now rate burst 1 =
      if (bucket.refill now rate burst).tokens + 1 / 1000000000 < 1 then
        (false, bucket.refill now rate burst)
      else (true, { bucket.refill now rate burst with
        tokens := (bucket.refill now rate burst).tokens - 1 }) := by
  simp only [allow, max_eq_right someRate, max_eq_right someBurst,
    max_eq_right (zero_le_one : (0 : ℚ) ≤ 1)]

/-- What a bucket may hold. A token may be short of a billionth. -/
structure Filled (burst : ℚ) (bucket : TokenBucket) : Prop where
  least : -(1 / 1000000000) ≤ bucket.tokens
  most : bucket.tokens ≤ burst

theorem initial_filled (someBurst : 0 ≤ burst) : Filled burst {} := by
  refine ⟨?_, someBurst⟩
  norm_num

theorem refill_tokens_le (rate burst : ℚ) (now : Time) (earlier : bucket.lastRefill < now)
    (used : bucket.lastRefill ≠ 0) :
    (bucket.refill now rate burst).tokens ≤
      bucket.tokens + rate * (inSeconds now - inSeconds bucket.lastRefill) := by
  rw [refill, if_neg used, if_pos earlier]
  apply le_trans (min_le_right _ _)
  apply le_of_eq
  unfold inSeconds
  push_cast
  ring

theorem refill_filled (someRate : 0 ≤ rate) (someBurst : 0 ≤ burst) (filled : bucket.Filled burst)
    (now : Time) : (bucket.refill now rate burst).Filled burst := by
  have least := filled.least
  by_cases used : bucket.lastRefill = 0
  · rw [refill, if_pos used]
    refine ⟨?_, le_refl burst⟩
    linarith
  by_cases earlier : bucket.lastRefill < now
  · rw [refill, if_neg used, if_pos earlier]
    have elapsed : (0 : ℚ) ≤ ((now - bucket.lastRefill : Int) : ℚ) :=
      Int.cast_nonneg (Int.le_of_lt (Int.sub_pos_of_lt earlier))
    have gained : 0 ≤ ((now - bucket.lastRefill : Int) : ℚ) / 1000000000 * rate :=
      mul_nonneg (div_nonneg elapsed (by norm_num)) someRate
    refine ⟨?_, min_le_left _ _⟩
    apply le_min <;> linarith
  · rw [refill, if_neg used, if_neg earlier]
    exact filled

theorem afterAllow_filled (someRate : 0 ≤ rate) (someBurst : 0 ≤ burst)
    (filled : bucket.Filled burst) (now : Time) : (bucket.afterAllow rate burst now).Filled burst := by
  have refilled := refill_filled someRate someBurst filled now
  have most := refilled.most
  rw [afterAllow, allow_unit someRate someBurst]
  split
  · exact refilled
  refine ⟨?_, ?_⟩
  · linarith
  · linarith

/-- In seconds, how much of the time from `start` to `stop` the bucket has been refilled for. -/
def refilledFor (start stop : ℚ) (bucket : TokenBucket) : ℚ :=
  min (max start (inSeconds bucket.lastRefill)) stop - start

/-- Since `start` the calls let through and the tokens left are paid for by the burst and
by what was refilled. Before the first call the last refill may be older than that. -/
structure Paid (rate burst start stop : ℚ) (bucket : TokenBucket) (count : ℕ) : Prop where
  budget : count + bucket.tokens ≤ burst + rate * bucket.refilledFor start stop
  first : bucket.lastRefill = 0 ∨ inSeconds bucket.lastRefill < start → count = 0

section Block

variable {start stop : ℚ} {count : ℕ} {now : Time}

theorem refilledFor_nonneg (bucket : TokenBucket) (ordered : start ≤ stop) :
    0 ≤ bucket.refilledFor start stop :=
  sub_nonneg.mpr (le_min (le_max_left _ _) ordered)

theorem refilledFor_le (bucket : TokenBucket) (start stop : ℚ) :
    bucket.refilledFor start stop ≤ stop - start :=
  sub_le_sub_right (min_le_right _ _) start

theorem refilledFor_inside (after : start ≤ inSeconds bucket.lastRefill)
    (before : inSeconds bucket.lastRefill ≤ stop) :
    bucket.refilledFor start stop = inSeconds bucket.lastRefill - start := by
  rw [refilledFor, max_eq_right after, min_eq_left before]

theorem initial_paid (someRate : 0 ≤ rate) (filled : bucket.Filled burst) (ordered : start ≤ stop) :
    bucket.Paid rate burst start stop 0 := by
  refine ⟨?_, fun _ => rfl⟩
  have most := filled.most
  have earned := mul_nonneg someRate (refilledFor_nonneg bucket ordered)
  push_cast
  linarith

theorem refill_lastRefill (rate burst : ℚ) (bucket : TokenBucket) (positive : 0 < now) :
    (bucket.refill now rate burst).lastRefill ≠ 0 ∧
      now ≤ (bucket.refill now rate burst).lastRefill := by
  unfold refill
  split
  · exact ⟨Int.ne_of_gt positive, Int.le_refl now⟩
  split
  · exact ⟨Int.ne_of_gt positive, Int.le_refl now⟩
  next used early => exact ⟨used, Int.not_lt.mp early⟩

theorem refill_paid (someRate : 0 ≤ rate) (someBurst : 0 ≤ burst) (ordered : start ≤ stop)
    (filled : bucket.Filled burst) (positive : 0 < now) (after : start ≤ inSeconds now)
    (before : inSeconds now ≤ stop) (paid : bucket.Paid rate burst start stop count) :
    (bucket.refill now rate burst).Paid rate burst start stop count := by
  have last := refill_lastRefill rate burst bucket positive
  have entered : start ≤ inSeconds (bucket.refill now rate burst).lastRefill :=
    le_trans after (inSeconds_le last.2)
  refine ⟨?_, fun unused => absurd unused (not_or.mpr ⟨last.1, not_lt.mpr entered⟩)⟩
  by_cases unused : bucket.lastRefill = 0 ∨ inSeconds bucket.lastRefill < start
  · -- the first call of the block finds a bucket that is full at most
    have most := (refill_filled someRate someBurst filled now).most
    have earned := mul_nonneg someRate (refilledFor_nonneg (bucket.refill now rate burst) ordered)
    rw [paid.first unused]
    push_cast
    linarith
  · have used := not_or.mp unused
    have budget := paid.budget
    by_cases earlier : bucket.lastRefill < now
    · have inside := refilledFor_inside (not_lt.mp used.2)
        (le_trans (le_of_lt (inSeconds_lt earlier)) before)
      have current : (bucket.refill now rate burst).lastRefill = now := by
        rw [refill, if_neg used.1, if_pos earlier]
      have gained := refill_tokens_le rate burst now earlier used.1
      rw [refilledFor_inside entered (by rw [current]; exact before), current]
      rw [inside] at budget
      linarith
    · have same : bucket.refill now rate burst = bucket := by
        rw [refill, if_neg used.1, if_neg earlier]
      rw [same]
      exact budget

theorem allow_paid (someRate : 0 ≤ rate) (someBurst : 0 ≤ burst) (ordered : start ≤ stop)
    (filled : bucket.Filled burst) (positive : 0 < now) (after : start ≤ inSeconds now)
    (before : inSeconds now ≤ stop) (paid : bucket.Paid rate burst start stop count) :
    (bucket.afterAllow rate burst now).Paid rate burst start stop
      (count + if (bucket.allow now rate burst 1).1 then 1 else 0) := by
  have refilled := refill_paid someRate someBurst ordered filled positive after before paid
  have last := refill_lastRefill rate burst bucket positive
  have entered : start ≤ inSeconds (bucket.refill now rate burst).lastRefill :=
    le_trans after (inSeconds_le last.2)
  rw [afterAllow, allow_unit someRate someBurst]
  split
  · exact refilled
  refine ⟨?_, fun unused => absurd unused (not_or.mpr ⟨last.1, not_lt.mpr entered⟩)⟩
  have budget := refilled.budget
  show ((count + 1 : ℕ) : ℚ) + ((bucket.refill now rate burst).tokens - 1) ≤
    burst + rate * (bucket.refill now rate burst).refilledFor start stop
  push_cast
  linarith

theorem allowedCount_le (someRate : 0 ≤ rate) (someBurst : 0 ≤ burst) (ordered : start ≤ stop)
    (block : List Time) (positive : ∀ now ∈ block, 0 < now)
    (within : ∀ now ∈ block, start ≤ inSeconds now ∧ inSeconds now ≤ stop)
    (filled : bucket.Filled burst) (paid : bucket.Paid rate burst start stop count) :
    ((count + allowedCount rate burst bucket block : ℕ) : ℚ) ≤
      burst + rate * (stop - start) + 1 / 1000000000 := by
  induction block generalizing bucket count with
  | nil =>
    have budget := paid.budget
    have least := filled.least
    have earned := mul_le_mul_of_nonneg_left (refilledFor_le bucket start stop) someRate
    show ((count + 0 : ℕ) : ℚ) ≤ _
    rw [Nat.add_zero]
    linarith
  | cons now block ih =>
    have bounds := within now List.mem_cons_self
    have next := ih (fun later member => positive later (List.mem_cons_of_mem now member))
      (fun later member => within later (List.mem_cons_of_mem now member))
      (afterAllow_filled someRate someBurst filled now)
      (allow_paid someRate someBurst ordered filled (positive now List.mem_cons_self)
        bounds.1 bounds.2 paid)
    rw [allowedCount, ← Nat.add_assoc]
    exact next

end Block

theorem run_filled (someRate : 0 ≤ rate) (someBurst : 0 ≤ burst) (calls : List Time) :
    (Run.run (afterAllow rate burst) {} calls).Filled burst :=
  Run.invariant (afterAllow rate burst) (Filled burst)
    (fun _ now filled => afterAllow_filled someRate someBurst filled now) {} calls
    (initial_filled someBurst)

/-- Whatever was called before, a block of calls between `start` and `stop` gets at most
the burst and what is refilled in that time, up to a billionth. -/
theorem allow_bounded (rate burst : ℚ) (someRate : 0 ≤ rate) (someBurst : 0 ≤ burst)
    (earlier block : List Time) (positive : ∀ now ∈ earlier ++ block, 0 < now) (start stop : ℚ)
    (ordered : start ≤ stop)
    (within : ∀ now ∈ block, start ≤ inSeconds now ∧ inSeconds now ≤ stop) :
    (allowedCount rate burst (Run.run (afterAllow rate burst) {} earlier) block : ℚ) ≤
        burst + rate * (stop - start) + 1 / 1000000000 ∧
      -(1 / 1000000000) ≤ (Run.run (afterAllow rate burst) {} earlier).tokens ∧
      (Run.run (afterAllow rate burst) {} earlier).tokens ≤ burst := by
  have filled := run_filled someRate someBurst earlier
  have bound := allowedCount_le someRate someBurst ordered block
    (fun now member => positive now (List.mem_append_right earlier member)) within filled
    (initial_paid someRate filled ordered)
  rw [Nat.zero_add] at bound
  exact ⟨bound, filled.least, filled.most⟩

/-- Three calls at once, one of them before the block, then two in the next second; the
clock goes back between the last two. -/
theorem allow_bounded_burst :
    allowedCount 1 2 (Run.run (afterAllow 1 2) {} [1000000000])
        [1000000000, 1000000000, 2000000000, 1500000000] = 2 ∧
      (allowedCount 1 2 (Run.run (afterAllow 1 2) {} [1000000000])
        [1000000000, 1000000000, 2000000000, 1500000000] : ℚ) ≤
          2 + 1 * (2 - 1) + 1 / 1000000000 := by
  refine ⟨by decide +kernel, ?_⟩
  exact (allow_bounded 1 2 (by norm_num) (by norm_num) [1000000000]
    [1000000000, 1000000000, 2000000000, 1500000000] (by decide) 1 2 (by norm_num)
    (by decide +kernel)).1

end TokenBucket

end Sesivo
