import Mathlib.Data.Fin.Basic

set_option autoImplicit false

/- A counter of the shares in a buffer, with two special values: zero marks the
buffer as free, and the largest value marks it as owned by one process alone. -/

namespace ShareCount

/-- The value that marks exclusive ownership. -/
def exclusive : UInt32 := 0xFFFFFFFF

/-- The counter agrees with the shares and the owners there are. -/
structure Counted (limit : Nat) (count : UInt32) (shares owners : Nat) : Prop where
  shares_le : shares ≤ limit
  owners_le : owners ≤ 1
  owned : owners = 1 → shares = 0 ∧ count = exclusive
  shared : owners = 0 → count.toNat = shares

variable {limit shares owners : Nat} {count : UInt32}

theorem counted_zero (limit : Nat) : Counted limit 0 0 0 where
  shares_le := Nat.zero_le _
  owners_le := Nat.zero_le _
  owned := fun none => absurd none (by decide)
  shared := fun _ => rfl

namespace Counted

theorem zero_iff (counted : Counted limit count shares owners) :
    count = 0 ↔ shares = 0 ∧ owners = 0 := by
  have most := counted.owners_le
  constructor
  · intro free
    by_cases owner : owners = 1
    · have taken := (counted.owned owner).2
      rw [free] at taken
      exact absurd taken (by decide)
    have none : owners = 0 := by omega
    have same := counted.shared none
    rw [free] at same
    exact ⟨same.symm, none⟩
  · rintro ⟨none, unowned⟩
    have same := counted.shared unowned
    rw [none] at same
    exact UInt32.toNat_inj.mp same

/-- A process that holds a share finds the number of shares in the counter. -/
theorem of_share (counted : Counted limit count shares owners) (held : 1 ≤ shares) :
    owners = 0 ∧ count.toNat = shares := by
  have most := counted.owners_le
  have unowned : owners = 0 := by
    by_contra some_owner
    have none := (counted.owned (by omega)).1
    omega
  exact ⟨unowned, counted.shared unowned⟩

theorem claim (counted : Counted limit 0 shares owners) :
    Counted limit exclusive shares (owners + 1) := by
  obtain ⟨none, unowned⟩ := counted.zero_iff.mp rfl
  subst none unowned
  exact ⟨Nat.zero_le _, le_refl _, fun _ => ⟨rfl, rfl⟩, fun none => absurd none (by decide)⟩

/-- The owner hands out as many shares as it stores in the counter. -/
theorem share (counted : Counted limit count shares (owners + 1)) {given : UInt32}
    (few : given.toNat ≤ limit) : Counted limit given (shares + given.toNat) owners := by
  have most := counted.owners_le
  have one : owners + 1 = 1 := by omega
  obtain ⟨none, -⟩ := counted.owned one
  have unowned : owners = 0 := by omega
  subst none unowned
  refine ⟨by omega, Nat.zero_le _, fun owner => absurd owner (by decide), fun _ => ?_⟩
  rw [Nat.zero_add]

/-- One of several shares is given back. -/
theorem drop (counted : Counted limit count (shares + 1) owners) (several : 1 < count) :
    Counted limit (count - 1) shares owners := by
  obtain ⟨unowned, same⟩ := counted.of_share (by omega)
  have bound := counted.shares_le
  have one : (1 : UInt32).toNat = 1 := rfl
  refine ⟨by omega, counted.owners_le, fun owner => absurd owner (by omega), fun _ => ?_⟩
  rw [UInt32.toNat_sub_of_le _ _ (UInt32.le_of_lt several), same, one, Nat.add_sub_cancel]

/-- The last share is turned into ownership. -/
theorem last (counted : Counted limit 1 (shares + 1) owners) :
    Counted limit exclusive shares (owners + 1) := by
  obtain ⟨unowned, same⟩ := counted.of_share (by omega)
  have one : (1 : UInt32).toNat = 1 := rfl
  have none : shares = 0 := by omega
  subst none unowned
  exact ⟨Nat.zero_le _, le_refl _, fun _ => ⟨rfl, rfl⟩, fun owner => absurd owner (by decide)⟩

theorem free (counted : Counted limit count shares (owners + 1)) :
    Counted limit 0 shares owners := by
  have most := counted.owners_le
  have one : owners + 1 = 1 := by omega
  obtain ⟨none, -⟩ := counted.owned one
  have unowned : owners = 0 := by omega
  subst none unowned
  exact counted_zero limit

end Counted

/-- The sum of what each of finitely many processes holds. -/
def total : {processes : Nat} → (Fin processes → Nat) → Nat
  | 0, _ => 0
  | _ + 1, held => held 0 + total fun process => held process.succ

variable {processes : Nat}

theorem le_total (held : Fin processes → Nat) (process : Fin processes) :
    held process ≤ total held := by
  induction processes with
  | zero => exact process.elim0
  | succ processes ih =>
    rw [total]
    cases process using Fin.cases with
    | zero => exact Nat.le_add_right _ _
    | succ process =>
      have rest := ih (fun other => held other.succ) process
      omega

/-- What the processes hold together, one of them holds. -/
theorem exists_of_total {held : Fin processes → Nat} (some_held : 1 ≤ total held) :
    ∃ process, 1 ≤ held process := by
  induction processes with
  | zero => exact absurd some_held (Nat.not_succ_le_zero 0)
  | succ processes ih =>
    by_cases first : 1 ≤ held 0
    · exact ⟨0, first⟩
    have rest : 1 ≤ total fun process => held process.succ := by
      rw [total] at some_held
      omega
    obtain ⟨process, part⟩ := ih rest
    exact ⟨process.succ, part⟩

theorem total_congr {before after : Fin processes → Nat}
    (same : ∀ process, after process = before process) : total after = total before := by
  rw [funext same]

/-- If only one process changes what it holds, the sum changes by as much. -/
theorem total_change {before after : Fin processes → Nat}
    (process : Fin processes) (others : ∀ other, other ≠ process → after other = before other) :
    total after + before process = total before + after process := by
  induction processes with
  | zero => exact process.elim0
  | succ processes ih =>
    rw [total, total]
    cases process using Fin.cases with
    | zero =>
      rw [total_congr fun other => others other.succ (Fin.succ_ne_zero other)]
      omega
    | succ process =>
      have rest := @ih (fun other => before other.succ) (fun other => after other.succ) process
        (fun other different => others other.succ
          (fun same => different (Fin.succ_inj.mp same)))
      rw [others 0 (Fin.succ_ne_zero process).symm]
      omega

end ShareCount
