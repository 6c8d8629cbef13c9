import Sesivo.Lib.Run
import Sesivo.Lib.Serial
import Sesivo.Client.Sequences

set_option autoImplicit false

/- The replay window stands for the set of the numbers it has accepted. Numbers are
unwrapped here: any integers, of which the window sees the last 32 bits. -/

namespace Sesivo

open Serial List Nat

namespace ReplayWindow

theorem sequenceAfter_iff (lhs rhs : UInt32) :
    sequenceAfter lhs rhs = true ↔ Serial.Before rhs lhs := by
  have bound := (lhs - rhs).toNat_lt
  have signed : (lhs - rhs).toInt32.toInt =
      if 2 * (lhs - rhs).toNat < 2 ^ 32 then ((lhs - rhs).toNat : Int)
      else (lhs - rhs).toNat - 2 ^ 32 := BitVec.toInt_eq_toNat_cond _
  have same : lhs = rhs ↔ Serial.distance rhs lhs = 0 := Serial.distance_eq_zero.symm
  simp only [sequenceAfter, Bool.and_eq_true, decide_eq_true_eq, ne_eq, signed, same,
    Serial.Before, Serial.distance]
  split <;> omega

/-- Whether the number that many places behind the highest one counts as seen. -/
def marked (window : ReplayWindow) (age : Nat) : Bool := window.seen.toNat.testBit age

theorem shift_toNat (distance : UInt32) (short : distance.toNat < 64) :
    distance.toUInt64.toNat % 64 = distance.toNat := by
  rw [UInt32.toNat_toUInt64, mod_eq_of_lt short]

theorem marked_shift (seen : UInt64) (distance : UInt32) (short : distance.toNat < 64) (age : Nat) :
    ((seen <<< distance.toUInt64) ||| 1).toNat.testBit age =
      (decide (age < 64) && (decide (distance.toNat ≤ age) &&
        seen.toNat.testBit (age - distance.toNat)) || decide (age = 0)) := by
  rw [UInt64.toNat_or, UInt64.toNat_shiftLeft, shift_toNat distance short, testBit_or,
    testBit_mod_two_pow, testBit_shiftLeft]
  congr 1
  rw [UInt64.toNat_one, Bool.eq_iff_iff, testBit_one_eq_true_iff_self_eq_zero, decide_eq_true_eq]

theorem bit_testBit (distance : UInt32) (short : distance.toNat < 64) (age : Nat) :
    ((1 : UInt64) <<< distance.toUInt64).toNat.testBit age = decide (age = distance.toNat) := by
  rw [UInt64.toNat_shiftLeft, shift_toNat distance short, testBit_mod_two_pow,
    testBit_shiftLeft, UInt64.toNat_one, Bool.eq_iff_iff]
  simp only [Bool.and_eq_true, decide_eq_true_eq, testBit_one_eq_true_iff_self_eq_zero]
  omega

theorem and_bit_eq_zero (seen : UInt64) (distance : UInt32) (short : distance.toNat < 64) :
    seen &&& (1 <<< distance.toUInt64) = 0 ↔ seen.toNat.testBit distance.toNat = false := by
  have common : ∀ age, (seen &&& (1 <<< distance.toUInt64)).toNat.testBit age =
      (seen.toNat.testBit age && decide (age = distance.toNat)) := by
    intro age
    rw [UInt64.toNat_and, testBit_and, bit_testBit distance short]
  constructor
  · intro zero
    have bit := common distance.toNat
    rw [zero, UInt64.toNat_zero, zero_testBit, decide_eq_true rfl, Bool.and_true] at bit
    exact bit.symm
  intro clear
  apply UInt64.toNat_inj.mp
  apply eq_of_testBit_eq
  intro age
  rw [common, UInt64.toNat_zero, zero_testBit]
  by_cases same : age = distance.toNat
  · rw [same, clear, Bool.false_and]
  · rw [decide_eq_false same, Bool.and_false]

variable {window : ReplayWindow} {accepted : List Int} {highest value : Int}

/-- The highest accepted number and the marks of the numbers up to 63 behind it. -/
structure Marks (window : ReplayWindow) (accepted : List Int) (highest : Int) : Prop where
  initialized : window.initialized = true
  greatest : highest ∈ accepted ∧ ∀ other ∈ accepted, other ≤ highest
  current : window.highestSequence = wrap highest
  marked : ∀ age : Nat, age < 64 → (window.marked age = true ↔ highest - age ∈ accepted)

/-- The window as the set of accepted numbers. -/
structure Represents (window : ReplayWindow) (accepted : List Int) : Prop where
  unused : accepted = [] → window.initialized = false
  used : accepted ≠ [] → ∃ highest, window.Marks accepted highest

theorem initial_represents : Represents {} [] :=
  ⟨fun _ => rfl, fun used => absurd rfl used⟩

theorem accept_zero (zero : wrap value = 0) : window.accept (wrap value) = (false, window) := by
  rw [accept, if_pos zero]

theorem accept_first (unused : window.initialized = false) (nonzero : wrap value ≠ 0) :
    window.accept (wrap value) = (true, ⟨true, wrap value, 1⟩) := by
  rw [accept, if_neg nonzero, if_pos unused]

theorem first_marks (value : Int) : Marks ⟨true, wrap value, 1⟩ [value] value := by
  refine ⟨rfl, ⟨mem_singleton_self value, ?_⟩, rfl, ?_⟩
  · intro other member
    rw [mem_singleton.mp member]
  intro age _
  show (1 : UInt64).toNat.testBit age = true ↔ _
  rw [UInt64.toNat_one, testBit_one_eq_true_iff_self_eq_zero, mem_singleton]
  omega

theorem Marks.fresh (marks : window.Marks accepted highest) {age : Nat}
    (recent : (age : Int) < value - highest) : value - age ∉ accepted := by
  intro old
  have below := marks.greatest.2 _ old
  omega

/-- The mark of a number, looked up by how far it is behind a newer one. -/
theorem Marks.carried (marks : window.Marks accepted highest) (newer : highest < value)
    {age : Nat} (short : age < 64) (behind : (value - highest).toNat ≤ age) :
    window.seen.toNat.testBit (age - (value - highest).toNat) = true ↔ value - age ∈ accepted := by
  have mark := marks.marked (age - (value - highest).toNat) (by omega)
  have place : highest - ((age - (value - highest).toNat : Nat) : Int) = value - age := by omega
  rw [place, ReplayWindow.marked] at mark
  exact mark

section Marked

variable (marks : window.Marks accepted highest) (nonzero : wrap value ≠ 0)
  (near : value - highest < 2 ^ 31) (far : highest - value < 2 ^ 31)
include marks nonzero near far

theorem accept_newer (newer : highest < value) :
    window.accept (wrap value) = (true, { window with
      highestSequence := wrap value
      seen := if windowBits ≤ wrap value - wrap highest then 1
        else (window.seen <<< (wrap value - wrap highest).toUInt64) ||| 1 }) := by
  have after : sequenceAfter (wrap value) (wrap highest) = true :=
    (sequenceAfter_iff _ _).mpr ((before_wrap far near).mpr newer)
  simp only [accept, if_neg nonzero, marks.initialized, Bool.true_eq_false, ↓reduceIte,
    marks.current, after]

theorem newer_marks (newer : highest < value) :
    Marks (window.accept (wrap value)).2 (value :: accepted) value := by
  rw [accept_newer marks nonzero near far newer]
  have step : (wrap value - wrap highest).toNat = (value - highest).toNat :=
    distance_wrap (Int.le_of_lt newer) (by omega)
  have bits : windowBits.toNat = 64 := rfl
  refine ⟨marks.initialized, ⟨mem_cons_self, ?_⟩, rfl, ?_⟩
  · intro other member
    cases mem_cons.mp member with
    | inl same => rw [same]
    | inr old =>
      have below := marks.greatest.2 other old
      omega
  · intro age short
    rw [mem_cons, marked]
    by_cases jump : windowBits ≤ wrap value - wrap highest
    · rw [if_pos jump, UInt64.toNat_one, testBit_one_eq_true_iff_self_eq_zero]
      rw [UInt32.le_iff_toNat_le, bits, step] at jump
      have fresh := @Marks.fresh _ _ _ value marks age (by omega)
      constructor
      · intro zero
        exact .inl (by omega)
      intro either
      cases either with
      | inl same => omega
      | inr old => exact absurd old fresh
    · rw [if_neg jump]
      rw [UInt32.le_iff_toNat_le, bits, step] at jump
      rw [marked_shift _ _ (by omega), step]
      simp only [short, decide_true, Bool.true_and, Bool.or_eq_true, Bool.and_eq_true,
        decide_eq_true_eq]
      by_cases shifted : (value - highest).toNat ≤ age
      · rw [marks.carried newer short shifted]
        constructor
        · intro either
          cases either with
          | inl old => exact .inr old.2
          | inr zero => exact .inl (by omega)
        intro either
        cases either with
        | inl same => omega
        | inr old => exact .inl ⟨shifted, old⟩
      · have fresh := @Marks.fresh _ _ _ value marks age (by omega)
        constructor
        · intro either
          cases either with
          | inl old => exact absurd old.1 shifted
          | inr zero => exact .inl (by omega)
        intro either
        cases either with
        | inl same => exact .inr (by omega)
        | inr old => exact absurd old fresh

theorem accept_older (older : value ≤ highest) :
    window.accept (wrap value) =
      if highest - value < 64 ∧ value ∉ accepted then
        (true, { window with
          seen := window.seen ||| (1 <<< (wrap highest - wrap value).toUInt64) })
      else (false, window) := by
  have notAfter : ¬ sequenceAfter (wrap value) (wrap highest) = true := by
    rw [sequenceAfter_iff, before_wrap far near]
    omega
  have age : (wrap highest - wrap value).toNat = (highest - value).toNat :=
    distance_wrap older (by omega)
  have bits : windowBits.toNat = 64 := rfl
  have limit : windowBits ≤ wrap highest - wrap value ↔ 64 ≤ highest - value := by
    rw [UInt32.le_iff_toNat_le, bits, age]
    omega
  simp only [accept, if_neg nonzero, marks.initialized, Bool.true_eq_false, ↓reduceIte,
    marks.current, notAfter, Bool.false_eq_true, limit]
  by_cases recent : 64 ≤ highest - value
  · rw [if_pos recent, if_neg (fun both => absurd both.1 (Int.not_lt.mpr recent))]
  have mark := marks.marked (highest - value).toNat (by omega)
  have place : highest - ((highest - value).toNat : Int) = value := by omega
  rw [place, marked, ← age] at mark
  have bit := and_bit_eq_zero window.seen (wrap highest - wrap value) (by omega)
  rw [if_neg recent]
  by_cases old : value ∈ accepted
  · have set : window.seen &&& (1 <<< (wrap highest - wrap value).toUInt64) ≠ 0 := by
      rw [ne_eq, bit, mark.mpr old]
      decide
    rw [if_pos set, if_neg (fun both => both.2 old)]
  have clear : ¬ window.seen &&& (1 <<< (wrap highest - wrap value).toUInt64) ≠ 0 := by
    rw [ne_eq, not_not, bit]
    exact Bool.eq_false_of_not_eq_true fun set => old (mark.mp set)
  rw [if_neg clear, if_pos ⟨Int.not_le.mp recent, old⟩]

theorem older_marks (older : value ≤ highest) (recent : highest - value < 64)
    (fresh : value ∉ accepted) :
    Marks (window.accept (wrap value)).2 (value :: accepted) highest := by
  rw [accept_older marks nonzero near far older, if_pos ⟨recent, fresh⟩]
  have age : (wrap highest - wrap value).toNat = (highest - value).toNat :=
    distance_wrap older (by omega)
  refine ⟨marks.initialized, ⟨mem_cons_of_mem value marks.greatest.1, ?_⟩, marks.current, ?_⟩
  · intro other member
    cases mem_cons.mp member with
    | inl same => rw [same]; exact older
    | inr old => exact marks.greatest.2 other old
  intro place short
  have mark := marks.marked place short
  rw [marked] at mark
  rw [mem_cons, marked]
  simp only [UInt64.toNat_or, testBit_or, Bool.or_eq_true, mark]
  rw [bit_testBit _ (by omega), age, decide_eq_true_iff]
  constructor
  · intro either
    cases either with
    | inl old => exact .inr old
    | inr same => exact .inl (by omega)
  intro either
  cases either with
  | inl same => exact .inr (by omega)
  | inr old => exact .inl old

end Marked

/-- Which numbers are let in, given those that were. -/
def Admits (accepted : List Int) (value : Int) : Prop :=
  wrap value ≠ 0 ∧ value ∉ accepted ∧
    (accepted = [] ∨ ∃ highest, (highest ∈ accepted ∧ ∀ other ∈ accepted, other ≤ highest) ∧
      (highest < value ∨ highest - value < 64))

/-- The window agrees with the set on the next number, and on the set afterwards. -/
theorem Represents.accept (represents : window.Represents accepted)
    (span : ∀ other ∈ accepted, other - value < 2 ^ 31 ∧ value - other < 2 ^ 31) :
    ((window.accept (wrap value)).1 = true ↔ Admits accepted value) ∧
      Represents (window.accept (wrap value)).2
        (if (window.accept (wrap value)).1 then value :: accepted else accepted) := by
  by_cases zero : wrap value = 0
  · rw [accept_zero zero]
    exact ⟨⟨fun never => absurd never Bool.false_ne_true, fun admits => absurd zero admits.1⟩,
      represents⟩
  by_cases empty : accepted = []
  · rw [accept_first (represents.unused empty) zero, empty]
    refine ⟨⟨fun _ => ⟨zero, not_mem_nil, .inl rfl⟩, fun _ => rfl⟩, ?_⟩
    exact ⟨fun never => absurd never (cons_ne_nil _ _), fun _ => ⟨value, first_marks value⟩⟩
  obtain ⟨highest, marks⟩ := represents.used empty
  have bounds := span highest marks.greatest.1
  have least : ∀ other, (other ∈ accepted ∧ ∀ another ∈ accepted, another ≤ other) →
      other = highest := by
    intro other greatest
    have below := marks.greatest.2 other greatest.1
    have above := greatest.2 highest marks.greatest.1
    omega
  by_cases newer : highest < value
  · have answer := accept_newer marks zero bounds.2 bounds.1 newer
    have kept := newer_marks marks zero bounds.2 bounds.1 newer
    have fresh : value ∉ accepted := by
      intro old
      have below := marks.greatest.2 value old
      omega
    have yes : (window.accept (wrap value)).1 = true := by rw [answer]
    rw [yes, if_pos rfl]
    refine ⟨⟨fun _ => ⟨zero, fresh, .inr ⟨highest, marks.greatest, .inl newer⟩⟩, fun _ => rfl⟩, ?_⟩
    exact ⟨fun never => absurd never (cons_ne_nil _ _), fun _ => ⟨value, kept⟩⟩
  · have answer := accept_older marks zero bounds.2 bounds.1 (Int.not_lt.mp newer)
    by_cases unseen : highest - value < 64 ∧ value ∉ accepted
    · have kept := older_marks marks zero bounds.2 bounds.1 (Int.not_lt.mp newer) unseen.1 unseen.2
      have yes : (window.accept (wrap value)).1 = true := by rw [answer, if_pos unseen]
      rw [yes, if_pos rfl]
      refine ⟨⟨fun _ => ⟨zero, unseen.2, .inr ⟨highest, marks.greatest, .inr unseen.1⟩⟩,
        fun _ => rfl⟩, ?_⟩
      exact ⟨fun never => absurd never (cons_ne_nil _ _), fun _ => ⟨highest, kept⟩⟩
    · rw [answer, if_neg unseen]
      refine ⟨⟨fun never => absurd never Bool.false_ne_true, ?_⟩, represents⟩
      rintro ⟨_, fresh, first | ⟨other, greatest, place⟩⟩
      · exact absurd first empty
      · rw [least other greatest] at place
        exact absurd ⟨place.elim (fun ahead => absurd ahead newer) id, fresh⟩ unseen

end ReplayWindow

/-- The window with the numbers it has accepted. -/
structure ReplayLog where
  window : ReplayWindow := {}
  accepted : List Int := []

namespace ReplayLog

def step (log : ReplayLog) (value : Int) : ReplayLog where
  window := (log.window.accept (wrap value)).2
  accepted := if (log.window.accept (wrap value)).1 then value :: log.accepted else log.accepted

theorem step_accepted_subset (log : ReplayLog) (value other : Int)
    (member : other ∈ (log.step value).accepted) : other = value ∨ other ∈ log.accepted := by
  unfold step at member
  split at member
  · exact mem_cons.mp member
  · exact .inr member

/-- All numbers asked about lie within half the circle. -/
def Spanned (values : List Int) : Prop :=
  ∀ first ∈ values, ∀ second ∈ values, second - first < 2 ^ 31

instance (values : List Int) : Decidable (Spanned values) :=
  inferInstanceAs (Decidable (∀ first ∈ values, ∀ second ∈ values, _))

/-- The set consists of numbers that were asked about. -/
structure Follows (values : List Int) (log : ReplayLog) : Prop where
  represents : log.window.Represents log.accepted
  asked : ∀ value ∈ log.accepted, value ∈ values

theorem Follows.span {values : List Int} {log : ReplayLog} (follows : log.Follows values)
    (spanned : Spanned values) {value : Int} (member : value ∈ values) :
    ∀ other ∈ log.accepted, other - value < 2 ^ 31 ∧ value - other < 2 ^ 31 := by
  intro other old
  have inside := follows.asked other old
  exact ⟨spanned value member other inside, spanned other inside value member⟩

theorem step_follows {values : List Int} (spanned : Spanned values) (log : ReplayLog) (value : Int)
    (follows : log.Follows values) (member : value ∈ values) : (log.step value).Follows values := by
  refine ⟨(follows.represents.accept (follows.span spanned member)).2, ?_⟩
  intro other inside
  cases step_accepted_subset log value other inside with
  | inl same => rw [same]; exact member
  | inr old => exact follows.asked other old

/-- After any numbers, the next one is let in if and only if it is not zero, is new, and
is the first one, or newer than the highest one, or less than 64 behind it. -/
theorem accept_iff (values : List Int) (value : Int) (spanned : Spanned (values ++ [value])) :
    ((Run.run step {} values).window.accept (wrap value)).1 = true ↔
      ReplayWindow.Admits (Run.run step {} values).accepted value := by
  have follows : (Run.run step {} values).Follows (values ++ [value]) := by
    apply Run.invariant_of_mem step (Follows (values ++ [value])) (· ∈ values ++ [value])
      (step_follows spanned)
    · exact ⟨ReplayWindow.initial_represents, fun _ never => absurd never not_mem_nil⟩
    · exact fun _ member => mem_append_left [value] member
  have last : value ∈ values ++ [value] := mem_append_right values (mem_singleton_self value)
  exact (follows.represents.accept (follows.span spanned last)).1

/-- Around the wrap: the second number is the zero. -/
theorem accept_iff_wrapping :
    (Run.run step {} [4294967290, 4294967296, 4294967300, 4294967290]).accepted =
        [4294967300, 4294967290] ∧
      (((Run.run step {} [4294967290, 4294967296, 4294967300, 4294967290]).window.accept
          (wrap 4294967237)).1 = true ↔
        ReplayWindow.Admits [4294967300, 4294967290] 4294967237) := by
  refine ⟨by decide, ?_⟩
  exact accept_iff [4294967290, 4294967296, 4294967300, 4294967290] 4294967237 (by decide)

end ReplayLog

end Sesivo
