import Mathlib.Algebra.Group.Nat.Even
import Mathlib.Algebra.Ring.Int.Defs

set_option autoImplicit false

/- Serial numbers: 32-bit counters compared modulo 2^32. Everything is said with
the forward distance from one number to another; numbers seen from a common base
behave like their distances as long as those stay apart by less than half the
circle. -/

namespace Serial

/-- How far one has to count forward from `source` to reach `target`. -/
def distance (source target : UInt32) : Nat := (target - source).toNat

/-- The number comes later, by less than half the circle. -/
def Before (earlier later : UInt32) : Prop :=
  0 < distance earlier later ∧ distance earlier later < 2 ^ 31

instance (earlier later : UInt32) : Decidable (Before earlier later) :=
  inferInstanceAs (Decidable (_ ∧ _))

theorem distance_lt (source target : UInt32) : distance source target < 2 ^ 32 :=
  (target - source).toNat_lt

/-- The distance in terms of the numbers themselves. -/
theorem distance_eq (source target : UInt32) :
    distance source target = (2 ^ 32 - source.toNat + target.toNat) % 2 ^ 32 :=
  UInt32.toNat_sub target source

@[simp] theorem distance_self (number : UInt32) : distance number number = 0 := by
  have bound := number.toNat_lt
  rw [distance_eq]
  omega

theorem distance_inj {base left right : UInt32}
    (same : distance base left = distance base right) : left = right := by
  have leftBound := left.toNat_lt
  have rightBound := right.toNat_lt
  rw [distance_eq, distance_eq] at same
  apply UInt32.toNat_inj.mp
  omega

theorem distance_eq_zero {source target : UInt32} : distance source target = 0 ↔ target = source := by
  constructor
  · intro zero
    exact distance_inj (zero.trans (distance_self source).symm)
  · rintro rfl
    exact distance_self target

theorem distance_trans {first second third : UInt32}
    (short : distance first second + distance second third < 2 ^ 32) :
    distance first third = distance first second + distance second third := by
  have secondBound := second.toNat_lt
  simp only [distance_eq] at *
  omega

/-- Seen from a base, the distance to a number that is not nearer is the difference. -/
theorem distance_of_le {base near far : UInt32} (le : distance base near ≤ distance base far) :
    distance near far = distance base far - distance base near := by
  have nearBound := near.toNat_lt
  simp only [distance_eq] at *
  omega

/-- Back to a nearer number it is the rest of the circle. -/
theorem distance_of_lt {base near far : UInt32} (lt : distance base near < distance base far) :
    distance far near = 2 ^ 32 - (distance base far - distance base near) := by
  have farBound := far.toNat_lt
  simp only [distance_eq] at *
  omega

theorem distance_add (base number step : UInt32) :
    distance base (number + step) = (distance base number + step.toNat) % 2 ^ 32 := by
  rw [distance_eq, distance_eq, UInt32.toNat_add]
  omega

variable (value : Int)

/-- The 32-bit number of an unwrapped one. -/
def wrap : UInt32 := UInt32.ofNat (value % 2 ^ 32).toNat

theorem wrap_toNat : (wrap value).toNat = (value % 2 ^ 32).toNat := by
  rw [wrap, UInt32.toNat_ofNat_of_lt']
  have size : UInt32.size = 2 ^ 32 := rfl
  omega

theorem distance_wrap {first second : Int} (ordered : first ≤ second)
    (short : second - first < 2 ^ 32) :
    distance (wrap first) (wrap second) = (second - first).toNat := by
  rw [distance_eq, wrap_toNat, wrap_toNat]
  omega

theorem before_wrap {first second : Int} (near : first - second < 2 ^ 31)
    (far : second - first < 2 ^ 31) : Before (wrap first) (wrap second) ↔ first < second := by
  unfold Before
  rw [distance_eq, wrap_toNat, wrap_toNat]
  omega

end Serial
