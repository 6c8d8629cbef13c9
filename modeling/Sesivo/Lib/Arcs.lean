import Mathlib.Data.Multiset.Range
import Mathlib.Data.Multiset.UnionInter
import Sesivo.Lib.Serial

set_option autoImplicit false

/- Arcs of serial numbers: so many numbers counted on from a first one, as a
multiset. Arcs can be cut and joined, and what lies inside an arc without
repetition is no more than its length. -/

namespace Serial

open Multiset

/-- The `count` numbers from `first` on. -/
def arc (first : UInt32) (count : ℕ) : Multiset UInt32 :=
  (range count).map fun step => first + UInt32.ofNat step

variable (first : UInt32) (count : ℕ)

theorem card_arc : (arc first count).card = count := by rw [arc, card_map, card_range]

theorem arc_add (more : ℕ) :
    arc first (count + more) = arc first count + arc (first + UInt32.ofNat count) more := by
  rw [arc, range_add, map_add, map_map]
  congr 1
  apply map_congr rfl
  intro step _
  rw [Function.comp_apply, UInt32.ofNat_add, UInt32.add_assoc]

theorem arc_one : arc first 1 = {first} := by
  have one : range 1 = {0} := rfl
  rw [arc, one, map_singleton]
  exact congrArg _ (UInt32.add_zero first)

theorem arc_concat : arc first (count + 1) = (first + UInt32.ofNat count) ::ₘ arc first count := by
  rw [arc_add, arc_one, ← Multiset.singleton_add, Multiset.add_comm]

theorem arc_cons : arc first (count + 1) = first ::ₘ arc (first + 1) count := by
  rw [Nat.add_comm, arc_add, arc_one, singleton_add]
  rfl

theorem arc_le {count more : ℕ} (le : count ≤ more) : arc first count ≤ arc first more := by
  obtain ⟨rest, rfl⟩ := Nat.exists_eq_add_of_le le
  rw [arc_add]
  exact le_add_right _ _

theorem mem_arc {first number : UInt32} {count : ℕ} (short : count ≤ 2 ^ 32) :
    number ∈ arc first count ↔ distance first number < count := by
  rw [arc, mem_map]
  constructor
  · rintro ⟨step, member, rfl⟩
    have below := mem_range.mp member
    rw [distance_add, distance_self, UInt32.toNat_ofNat', Nat.zero_add, Nat.mod_mod,
      Nat.mod_eq_of_lt (by omega)]
    exact below
  · intro near
    refine ⟨distance first number, mem_range.mpr near, ?_⟩
    rw [distance, UInt32.ofNat_toNat, UInt32.add_comm, UInt32.sub_add_cancel]

/-- Distinct numbers of an arc are no more than it has. -/
theorem card_le_of_subset_arc {numbers : Multiset UInt32} {first : UInt32} {count : ℕ}
    (distinct : numbers.Nodup) (inside : ∀ number ∈ numbers, number ∈ arc first count) :
    numbers.card ≤ count := by
  have le := (le_iff_subset distinct).mpr inside
  have cards := card_le_card le
  rw [card_arc] at cards
  exact cards

end Serial
