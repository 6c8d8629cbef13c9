import Mathlib.Algebra.Order.Group.Nat
import Mathlib.Order.Interval.Finset.Nat

set_option autoImplicit false

/- Finite sets of numbers kept as lists of intervals. A list whose intervals do
not touch has one interval for every maximal run of its set, so its length says
how many intervals the set needs. -/

/-- `count` consecutive numbers from `start` on. -/
structure NatInterval where
  start : ℕ
  count : ℕ
deriving DecidableEq

namespace NatInterval

open List

def numbers (interval : NatInterval) : Finset ℕ :=
  Finset.Ico interval.start (interval.start + interval.count)

theorem mem_numbers {interval : NatInterval} {number : ℕ} :
    number ∈ interval.numbers ↔
      interval.start ≤ number ∧ number < interval.start + interval.count :=
  Finset.mem_Ico

/-- At least one number lies between the two. -/
def Apart (left right : NatInterval) : Prop :=
  left.start + left.count < right.start ∨ right.start + right.count < left.start

theorem Apart.symm {left right : NatInterval} (apart : Apart left right) : Apart right left :=
  Or.symm apart

def union (intervals : List NatInterval) : Finset ℕ :=
  intervals.foldr (fun interval rest => interval.numbers ∪ rest) ∅

@[simp] theorem union_nil : union [] = ∅ := rfl

@[simp] theorem union_cons (interval : NatInterval) (rest : List NatInterval) :
    union (interval :: rest) = interval.numbers ∪ union rest := rfl

theorem mem_union {intervals : List NatInterval} {number : ℕ} :
    number ∈ union intervals ↔ ∃ interval ∈ intervals, number ∈ interval.numbers := by
  induction intervals with
  | nil => simp
  | cons interval rest ih => simp [union_cons, ih]

theorem union_perm {left right : List NatInterval} (perm : left.Perm right) :
    union left = union right := by
  ext number
  simp only [mem_union, perm.mem_iff]

/-- The numbers in all intervals together, each interval counted by itself. -/
def total (intervals : List NatInterval) : ℕ :=
  intervals.foldr (fun interval rest => interval.count + rest) 0

@[simp] theorem total_nil : total [] = 0 := rfl

@[simp] theorem total_cons (interval : NatInterval) (rest : List NatInterval) :
    total (interval :: rest) = interval.count + total rest := rfl

@[simp] theorem total_append (left right : List NatInterval) :
    total (left ++ right) = total left + total right := by
  induction left with
  | nil => exact (Nat.zero_add _).symm
  | cons interval left ih => rw [cons_append, total_cons, total_cons, ih, Nat.add_assoc]

theorem total_perm {left right : List NatInterval} (perm : left.Perm right) :
    total left = total right := by
  induction perm with
  | nil => rfl
  | cons interval _ ih => rw [total_cons, total_cons, ih]
  | swap first second rest => exact Nat.add_left_comm _ _ _
  | trans _ _ first second => exact first.trans second

/-- Nonempty intervals strictly between two numbers that do not touch each other. -/
structure Placed (low high : ℕ) (intervals : List NatInterval) : Prop where
  nonempty : ∀ interval ∈ intervals, 0 < interval.count
  inside : ∀ interval ∈ intervals,
    low < interval.start ∧ interval.start + interval.count ≤ high
  apart : intervals.Pairwise Apart

variable {low high : ℕ} {interval : NatInterval} {intervals rest : List NatInterval}

theorem Placed.nil (low high : ℕ) : Placed low high [] := by constructor <;> simp

theorem Placed.perm (placed : Placed low high intervals) (perm : intervals.Perm rest) :
    Placed low high rest := by
  refine ⟨?_, ?_, perm.pairwise placed.apart Apart.symm⟩
  · intro interval member
    exact placed.nonempty interval (perm.mem_iff.mpr member)
  · intro interval member
    exact placed.inside interval (perm.mem_iff.mpr member)

theorem Placed.tail (placed : Placed low high (interval :: rest)) : Placed low high rest :=
  ⟨fun other member => placed.nonempty other (mem_cons_of_mem _ member),
    fun other member => placed.inside other (mem_cons_of_mem _ member),
    (pairwise_cons.mp placed.apart).2⟩

theorem Placed.cons (placed : Placed low high rest) (nonempty : 0 < interval.count)
    (after : low < interval.start) (before : interval.start + interval.count ≤ high)
    (apart : ∀ other ∈ rest, Apart interval other) : Placed low high (interval :: rest) := by
  refine ⟨?_, ?_, pairwise_cons.mpr ⟨apart, placed.apart⟩⟩
  · intro other member
    rcases mem_cons.mp member with rfl | old
    · exact nonempty
    · exact placed.nonempty other old
  intro other member
  rcases mem_cons.mp member with rfl | old
  · exact ⟨after, before⟩
  · exact placed.inside other old

theorem Placed.mono {higher : ℕ} (placed : Placed low high intervals) (grows : high ≤ higher) :
    Placed low higher intervals := by
  refine ⟨placed.nonempty, ?_, placed.apart⟩
  intro interval member
  have inside := placed.inside interval member
  omega

variable {number : ℕ}

theorem Placed.mem_inside (placed : Placed low high intervals)
    (member : number ∈ union intervals) : low < number ∧ number < high := by
  obtain ⟨interval, listed, holds⟩ := mem_union.mp member
  have inside := placed.inside interval listed
  rw [mem_numbers] at holds
  omega

/-- Numbers of the first interval and of the others are never neighbours. -/
theorem Placed.separate (placed : Placed low high (interval :: rest)) {mine other : ℕ}
    (held : mine ∈ interval.numbers) (member : other ∈ union rest) :
    mine + 1 < other ∨ other + 1 < mine := by
  obtain ⟨next, listed, holds⟩ := mem_union.mp member
  have apart := (pairwise_cons.mp placed.apart).1 next listed
  rw [mem_numbers] at held holds
  rcases apart with before | after <;> omega

theorem Placed.disjoint (placed : Placed low high (interval :: rest)) :
    Disjoint interval.numbers (union rest) := by
  rw [Finset.disjoint_left]
  intro number held member
  have separate := placed.separate held member
  omega

/-- Without an interval the numbers of the others are left. -/
theorem Placed.union_tail (placed : Placed low high (interval :: rest)) :
    union rest = union (interval :: rest) \ interval.numbers := by
  rw [union_cons, Finset.union_sdiff_cancel_left placed.disjoint]

theorem Placed.total_eq_card (placed : Placed low high intervals) :
    total intervals = (union intervals).card := by
  induction intervals with
  | nil => rfl
  | cons interval rest ih =>
    rw [total_cons, union_cons, Finset.card_union_of_disjoint placed.disjoint, ih placed.tail,
      numbers, Nat.card_Ico, Nat.add_sub_cancel_left]

/-- Take a number out of an interval: what is left on either side of it. -/
def split (interval : NatInterval) (number : ℕ) : List NatInterval :=
  (if interval.start < number then [⟨interval.start, number - interval.start⟩] else []) ++
    if number + 1 < interval.start + interval.count then
      [⟨number + 1, interval.start + interval.count - (number + 1)⟩]
    else []

theorem mem_split {part : NatInterval} (member : part ∈ interval.split number) :
    0 < part.count ∧
      ((part.start = interval.start ∧ part.start + part.count = number) ∨
        (part.start = number + 1 ∧
          part.start + part.count = interval.start + interval.count)) := by
  rcases mem_append.mp member with left | right
  · split at left
    · obtain rfl := mem_singleton.mp left
      have positive : 0 < number - interval.start := by omega
      have ends : interval.start + (number - interval.start) = number := by omega
      exact ⟨positive, .inl ⟨rfl, ends⟩⟩
    · cases left
  · split at right
    · obtain rfl := mem_singleton.mp right
      have positive : 0 < interval.start + interval.count - (number + 1) := by omega
      have ends : number + 1 + (interval.start + interval.count - (number + 1)) =
          interval.start + interval.count := by omega
      exact ⟨positive, .inr ⟨rfl, ends⟩⟩
    · cases right

theorem union_append (left right : List NatInterval) :
    union (left ++ right) = union left ∪ union right := by
  ext number
  simp [mem_union, or_and_right, exists_or]

theorem union_split (held : number ∈ interval.numbers) :
    union (interval.split number) = interval.numbers.erase number := by
  rw [mem_numbers] at held
  ext other
  rw [split, union_append, Finset.mem_union, Finset.mem_erase, mem_numbers]
  split <;> split <;> simp only [union_cons, union_nil, Finset.union_empty, mem_numbers,
    Finset.notMem_empty, or_false, false_or, false_iff] <;> omega

theorem total_split (held : number ∈ interval.numbers) :
    total (interval.split number) + 1 = interval.count := by
  rw [mem_numbers] at held
  rw [split, total_append]
  split <;> split <;> simp only [total_cons, total_nil] <;> omega

theorem Placed.split (placed : Placed low high (interval :: rest))
    (held : number ∈ interval.numbers) :
    Placed low high (interval.split number ++ rest) := by
  have bounds := mem_numbers.mp held
  have inside := placed.inside interval mem_cons_self
  have others := (pairwise_cons.mp placed.apart).1
  refine ⟨?_, ?_, pairwise_append.mpr ⟨?_, placed.tail.apart, ?_⟩⟩
  · intro part member
    rcases mem_append.mp member with new | old
    · exact (mem_split new).1
    · exact placed.tail.nonempty part old
  · intro part member
    rcases mem_append.mp member with new | old
    · have sides := mem_split new
      omega
    · exact placed.tail.inside part old
  · rw [NatInterval.split]
    split <;> split <;> simp [Apart]
    omega
  · intro part new other old
    have sides := mem_split new
    have apart := others other old
    unfold Apart at apart ⊢
    omega

theorem Placed.union_split (placed : Placed low high (interval :: rest))
    (held : number ∈ interval.numbers) :
    union (interval.split number ++ rest) = (union (interval :: rest)).erase number := by
  have elsewhere : number ∉ union rest := Finset.disjoint_left.mp placed.disjoint held
  rw [union_append, NatInterval.union_split held, union_cons, Finset.erase_union_distrib,
    Finset.erase_eq_of_notMem elsewhere]

/-- The maximal runs of consecutive numbers of a set, counted by their ends. -/
def runs (numbers : Finset ℕ) : ℕ := (numbers.filter fun number => number + 1 ∉ numbers).card

theorem runs_union {left right : Finset ℕ}
    (separate : ∀ mine ∈ left, ∀ other ∈ right, mine + 1 < other ∨ other + 1 < mine) :
    runs (left ∪ right) = runs left + runs right := by
  have ends : (left ∪ right).filter (fun number => number + 1 ∉ left ∪ right) =
      left.filter (fun number => number + 1 ∉ left) ∪
        right.filter (fun number => number + 1 ∉ right) := by
    ext number
    simp only [Finset.mem_filter, Finset.mem_union, not_or]
    constructor
    · rintro ⟨mine | other, noLeft, noRight⟩
      · exact .inl ⟨mine, noLeft⟩
      · exact .inr ⟨other, noRight⟩
    rintro (⟨mine, noLeft⟩ | ⟨other, noRight⟩)
    · refine ⟨.inl mine, noLeft, ?_⟩
      intro next
      have away := separate number mine (number + 1) next
      omega
    refine ⟨.inr other, ?_, noRight⟩
    intro next
    have away := separate (number + 1) next number other
    omega
  rw [runs, ends, Finset.card_union_of_disjoint]
  · rfl
  rw [Finset.disjoint_left]
  intro number mine other
  have away := separate number (Finset.mem_filter.mp mine).1 number (Finset.mem_filter.mp other).1
  omega

theorem runs_numbers (nonempty : 0 < interval.count) : runs interval.numbers = 1 := by
  have ends : interval.numbers.filter (fun number => number + 1 ∉ interval.numbers) =
      {interval.start + interval.count - 1} := by
    ext number
    simp only [Finset.mem_filter, mem_numbers, Finset.mem_singleton]
    omega
  rw [runs, ends, Finset.card_singleton]

/-- Intervals that do not touch are the maximal runs of their union. -/
theorem Placed.runs_eq_length (placed : Placed low high intervals) :
    runs (union intervals) = intervals.length := by
  induction intervals with
  | nil => rfl
  | cons interval rest ih =>
    have separate : ∀ mine ∈ interval.numbers, ∀ other ∈ union rest,
        mine + 1 < other ∨ other + 1 < mine :=
      fun mine held other member => placed.separate held member
    rw [union_cons, runs_union separate, runs_numbers (placed.nonempty _ mem_cons_self),
      ih placed.tail, length_cons, Nat.add_comm]

end NatInterval
