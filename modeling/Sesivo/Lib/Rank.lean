import Mathlib.Data.List.Sort

set_option autoImplicit false

/- The value at a rank: what stands at an index of the sorted list. It is told apart by
two counts, so it does not depend on the order of the list, does not fall when values
rise, and stays among the values of a majority. -/

namespace Rank

open List

variable {α : Type} [LinearOrder α]

/-- The value with `index` values below it or equal to it, in sorted order. -/
def ranked (values : List α) (index : ℕ) : Option α := (values.insertionSort (· ≤ ·))[index]?

variable {values others : List α} {index : ℕ} {value : α}

theorem ranked_isSome (inside : index < values.length) :
    ∃ value, ranked values index = some value := by
  have bound : index < (values.insertionSort (· ≤ ·)).length := by
    rw [length_insertionSort]
    exact inside
  exact ⟨_, getElem?_eq_getElem bound⟩

/-- In a sorted list, what stands before an item is not above it, and what is below it
stands before it. -/
theorem countP_of_sorted {sorted : List α} (ordered : sorted.Pairwise (· ≤ ·))
    (found : sorted[index]? = some value) :
    sorted.countP (· < value) ≤ index ∧ index < sorted.countP (· ≤ value) := by
  induction sorted generalizing index with
  | nil => cases found
  | cons first others ih =>
    obtain ⟨least, rest⟩ := pairwise_cons.mp ordered
    cases index with
    | zero =>
      obtain rfl := Option.some.inj found
      have none : others.countP (· < first) = 0 := by
        rw [countP_eq_zero]
        intro other member below
        exact absurd (of_decide_eq_true below) (not_lt.mpr (least other member))
      rw [countP_cons, countP_cons, none]
      simp only [lt_self_iff_false, decide_false, le_refl, decide_true, if_true]
      exact ⟨Nat.le_refl 0, Nat.succ_pos _⟩
    | succ index =>
      have later : others[index]? = some value := found
      obtain ⟨below, above⟩ := ih rest later
      have before : first ≤ value := least value (mem_of_getElem? later)
      rw [countP_cons, countP_cons, decide_eq_true before, if_pos rfl]
      refine ⟨?_, Nat.succ_lt_succ above⟩
      split
      · exact Nat.succ_le_succ below
      · exact Nat.le_succ_of_le below

/-- The counts that tell the value at a rank apart. -/
theorem countP_of_ranked (found : ranked values index = some value) :
    values.countP (· < value) ≤ index ∧ index < values.countP (· ≤ value) := by
  have counts := countP_of_sorted (pairwise_insertionSort (· ≤ ·) values) found
  have perm := perm_insertionSort (· ≤ ·) values
  rwa [perm.countP_eq, perm.countP_eq] at counts

/-- Where fewer values lie below every bound, the value at a rank is not lower. -/
theorem ranked_mono {higher : List α} {low high : α}
    (fewer : ∀ bound, higher.countP (· ≤ bound) ≤ values.countP (· ≤ bound))
    (found : ranked values index = some low) (raised : ranked higher index = some high) :
    low ≤ high := by
  by_contra lower
  have below : high < low := not_le.mp lower
  have within : values.countP (· ≤ high) ≤ values.countP (· < low) := by
    apply countP_mono_left
    intro value _ under
    exact decide_eq_true (lt_of_le_of_lt (of_decide_eq_true under) below)
  have first := (countP_of_ranked found).1
  have second := (countP_of_ranked raised).2
  have third := fewer high
  omega

/-- The order of the list does not matter. -/
theorem ranked_perm (perm : values.Perm others) (index : ℕ) :
    ranked values index = ranked others index := by
  by_cases inside : index < values.length
  · obtain ⟨value, found⟩ := ranked_isSome inside
    obtain ⟨other, same⟩ := ranked_isSome (perm.length_eq ▸ inside)
    have below : value ≤ other := ranked_mono (fun _ => (perm.countP_eq _).ge) found same
    have above : other ≤ value := ranked_mono (fun _ => (perm.countP_eq _).le) same found
    rw [found, same, le_antisymm below above]
  · have outside : values.length ≤ index := Nat.le_of_not_lt inside
    rw [ranked, ranked, getElem?_eq_none, getElem?_eq_none]
    · rw [length_insertionSort, ← perm.length_eq]
      exact outside
    · rw [length_insertionSort]
      exact outside

/-- With at most `index` values that are not trusted, and fewer than stand from there on, the
value at the rank lies between two that are. -/
theorem ranked_between {trusted : List α}
    (perm : values.Perm (trusted ++ others)) (found : ranked values index = some value)
    (few : others.length ≤ index) (fewer : others.length + index < values.length) :
    (∃ low ∈ trusted, low ≤ value) ∧ ∃ high ∈ trusted, value ≤ high := by
  obtain ⟨below, above⟩ := countP_of_ranked found
  rw [perm.countP_eq, countP_append] at below above
  have size := perm.length_eq
  rw [length_append] at size
  constructor
  · have most : others.countP (· ≤ value) ≤ others.length := countP_le_length
    have some : 0 < trusted.countP (· ≤ value) := by omega
    obtain ⟨low, member, under⟩ := countP_pos_iff.mp some
    exact ⟨low, member, of_decide_eq_true under⟩
  by_contra none
  have all : trusted.countP (· < value) = trusted.length := by
    rw [countP_eq_length]
    intro other member
    exact decide_eq_true (not_le.mp fun reaches => none ⟨other, member, reaches⟩)
  omega

end Rank
