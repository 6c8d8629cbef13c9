import Mathlib.Data.List.Perm.Basic

set_option autoImplicit false

/- Lists as unordered stores: erasing by moving the last item into the gap, picking an
item by comparing along the list, and cutting pieces out. -/

namespace Lists

open List

variable {α : Type} {index : ℕ}

/-- Moving the last item into the place of one takes just that one out. -/
theorem cons_swapErase_perm {items : List α} {item last : α}
    (found : items[index]? = some item) (ended : items.getLast? = some last) :
    (item :: (items.set index last).dropLast).Perm items := by
  obtain ⟨inside, rfl⟩ := List.getElem?_eq_some_iff.mp found
  have nonempty : items ≠ [] := ne_nil_of_length_pos (by omega)
  rw [getLast?_eq_getLast_of_ne_nil nonempty] at ended
  obtain rfl := Option.some.inj ended
  have replaced : items.set index (items.getLast nonempty) ≠ [] := by
    rw [ne_eq, set_eq_nil_iff]
    exact nonempty
  have kept : (items.set index (items.getLast nonempty)).getLast replaced =
      items.getLast nonempty := by
    simp only [getLast_eq_getElem, getElem_set, length_set]
    split <;> rfl
  have whole := set_perm_cons_eraseIdx inside (items.getLast nonempty)
  rw [← dropLast_append_getLast replaced, kept] at whole
  have erased : (items.set index (items.getLast nonempty)).dropLast.Perm (items.eraseIdx index) :=
    (perm_append_singleton _ _).symm.trans whole |>.cons_inv
  exact (erased.cons _).trans (getElem_cons_eraseIdx_perm inside)

/-- What stands before the place of the erased item stays. -/
theorem take_swapErase {items : List α} (last : α) (inside : index < items.length) :
    (items.set index last).dropLast.take index = items.take index := by
  rw [dropLast_eq_take, take_take, length_set, Nat.min_eq_left (by omega),
    take_set_of_le (Nat.le_refl index)]

/-- Comparing along a list, one ends at an item of it. -/
theorem foldl_pick_mem (prefers : α → α → Bool) (items : List α) (first : α) :
    items.foldl (fun best item => if prefers item best then item else best) first ∈
      first :: items := by
  induction items generalizing first with
  | nil => exact mem_singleton.mpr rfl
  | cons item items ih =>
    have later := ih (if prefers item first then item else first)
    rw [foldl_cons]
    rw [mem_cons] at later ⊢
    rcases later with same | later
    · rw [same]
      split
      · exact .inr mem_cons_self
      · exact .inl rfl
    · exact .inr (mem_cons_of_mem item later)

/-- Two neighbouring pieces of a list make one. -/
theorem take_drop_append (items : List α) {start middle stop : ℕ} (ordered : start ≤ middle)
    (below : middle ≤ stop) :
    (items.take middle).drop start ++ (items.take stop).drop middle = (items.take stop).drop start := by
  have cut : items.take middle = (items.take stop).take middle := by
    rw [take_take, Nat.min_eq_left below]
  have rest : (items.take stop).drop middle =
      ((items.take stop).drop start).drop (middle - start) := by
    rw [drop_drop, Nat.add_sub_cancel' ordered]
  rw [cut, drop_take, rest, take_append_drop]

theorem foldl_max_bounds {bound : ℕ} (numbers : List ℕ) :
    ∀ high < bound, (∀ number ∈ numbers, number < bound) →
      high ≤ numbers.foldl max high ∧ numbers.foldl max high < bound := by
  induction numbers with
  | nil =>
    intro high below _
    exact ⟨Nat.le_refl high, below⟩
  | cons number numbers ih =>
    intro high below all
    obtain ⟨here, others⟩ := forall_mem_cons.mp all
    obtain ⟨least, most⟩ := ih (max high number) (Nat.max_lt.mpr ⟨below, here⟩) others
    exact ⟨Nat.le_trans (Nat.le_max_left _ _) least, most⟩

section Runs

variable (special : α → Prop)

/-- No more than `limit` special items in a row, anywhere. -/
def RunsAtMost (limit : ℕ) (items : List α) : Prop :=
  ∀ earlier block later, items = earlier ++ block ++ later → (∀ item ∈ block, special item) →
    block.length ≤ limit

/-- No more than `limit` special items in a row at the end. -/
def EndsAtMost (limit : ℕ) (items : List α) : Prop :=
  ∀ earlier block, items = earlier ++ block → (∀ item ∈ block, special item) → block.length ≤ limit

variable {special}

theorem runsAtMost_nil (limit : ℕ) : RunsAtMost special limit [] := by
  intro earlier block later split _
  have lengths := congrArg length split
  simp only [length_nil, length_append] at lengths
  omega

theorem endsAtMost_nil (limit : ℕ) : EndsAtMost special limit [] := by
  intro earlier block split _
  have lengths := congrArg length split
  simp only [length_nil, length_append] at lengths
  omega

variable {limit : ℕ} {items : List α} {item : α}

theorem EndsAtMost.mono {more : ℕ} (ends : EndsAtMost special limit items)
    (le : limit ≤ more) : EndsAtMost special more items := by
  intro earlier block split all
  exact Nat.le_trans (ends earlier block split all) le

/-- A run at the end of an extended list ends with the new item. -/
theorem endsAtMost_concat (item : α)
    (ends : EndsAtMost special limit items) : EndsAtMost special (limit + 1) (items ++ [item]) := by
  intro earlier block split all
  rcases eq_nil_or_concat block with rfl | ⟨shorter, last, rfl⟩
  · exact Nat.zero_le _
  rw [concat_eq_append, ← append_assoc] at split
  have before := (append_inj' split rfl).1
  rw [concat_eq_append] at all ⊢
  have bound := ends earlier shorter before fun other member => all other (mem_append_left _ member)
  rw [length_append, length_singleton]
  omega

theorem endsAtMost_concat_other (other : ¬ special item) :
    EndsAtMost special 0 (items ++ [item]) := by
  intro earlier block split all
  rcases eq_nil_or_concat block with rfl | ⟨shorter, last, rfl⟩
  · exact Nat.le_refl 0
  rw [concat_eq_append] at all
  rw [concat_eq_append, ← append_assoc] at split
  have same := (append_inj' split rfl).2
  rw [singleton_inj] at same
  exact absurd (all last (mem_append_right _ (mem_singleton.mpr rfl))) (same ▸ other)

/-- Runs stay short while those at the end do. -/
theorem runsAtMost_concat
    (runs : RunsAtMost special limit items) (ends : EndsAtMost special limit (items ++ [item])) :
    RunsAtMost special limit (items ++ [item]) := by
  intro earlier block later split all
  rcases eq_nil_or_concat later with rfl | ⟨shorter, last, rfl⟩
  · rw [append_nil] at split
    exact ends earlier block split all
  · rw [concat_eq_append, ← append_assoc] at split
    exact runs earlier block shorter (append_inj' split rfl).1 all

end Runs

end Lists
