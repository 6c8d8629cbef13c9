import Mathlib.Data.List.Induction
import Mathlib.Data.List.Sort
import Sesivo.Lib.Run

set_option autoImplicit false

/- Bounded collections that keep the items with the largest keys. Which items are
kept depends on the set of items offered, not on their order or repetition. -/

section

open List

variable {α κ : Type} [LinearOrder κ]

/-- The kept items are those of the pool with the largest keys, up to `limit` of
them, in the order of their keys. -/
structure Newest (limit : Nat) (key : α → κ) (pool kept : List α) : Prop where
  sorted : kept.Pairwise fun left right => key left < key right
  offered : ∀ item ∈ kept, item ∈ pool
  bounded : kept.length ≤ limit
  dropped : ∀ item ∈ pool, item ∉ kept →
    kept.length = limit ∧ ∀ other ∈ kept, key item < key other

namespace Newest

/-- Take an item in unless its key is present, restore the order, and drop the
smallest keys beyond the limit. -/
def add (limit : Nat) (key : α → κ) (items : List α) (item : α) : List α :=
  if items.any fun other => key other = key item then items
  else
    let sorted := (items ++ [item]).mergeSort fun left right => key left ≤ key right
    sorted.drop (sorted.length - limit)

theorem nil (limit : Nat) (key : α → κ) : Newest limit key [] [] where
  sorted := List.Pairwise.nil
  offered := by
    intro item member
    exact member
  bounded := Nat.zero_le limit
  dropped := by
    intro item member
    cases member

variable {limit : Nat} {pool other kept rest : List α} {item : α}

theorem nodup {key : α → κ} (newest : Newest limit key pool kept) : kept.Nodup :=
  newest.sorted.imp fun less same => absurd (congrArg key same) (ne_of_lt less)

/-- Only the set of offered items matters. -/
theorem subset_of_same {key : α → κ}
    (first : Newest limit key pool kept) (second : Newest limit key other rest)
    (same : ∀ item, item ∈ pool ↔ item ∈ other) : kept ⊆ rest := by
  intro item member
  by_contra absent
  obtain ⟨full, larger⟩ := second.dropped item ((same item).mp (first.offered item member)) absent
  -- everything the second list has is in the first one, which has `item` besides
  have inside : item :: rest ⊆ kept := by
    intro candidate part
    rcases mem_cons.mp part with rfl | part
    · exact member
    by_contra outside
    have offered := (same candidate).mpr (second.offered candidate part)
    have smaller := (first.dropped candidate offered outside).2 item member
    exact lt_asymm smaller (larger candidate part)
  have distinct : (item :: rest).Nodup := nodup_cons.mpr ⟨absent, second.nodup⟩
  have bound := (subperm_of_subset distinct inside).length_le
  have limited := first.bounded
  rw [length_cons] at bound
  omega

theorem eq_of_same {key : α → κ}
    (first : Newest limit key pool kept) (second : Newest limit key other rest)
    (same : ∀ item, item ∈ pool ↔ item ∈ other) : kept = rest := by
  have forward := subset_of_same first second same
  have backward := subset_of_same second first fun item => (same item).symm
  have perm : kept.Perm rest := (perm_ext_iff_of_nodup first.nodup second.nodup).mpr
    fun item => ⟨fun member => forward member, fun member => backward member⟩
  refine perm.eq_of_pairwise ?_ first.sorted second.sorted
  intro left right _ _ less greater
  exact absurd greater (lt_asymm less)

theorem of_same_pool {key : α → κ}
    (newest : Newest limit key pool kept) (same : ∀ item, item ∈ pool ↔ item ∈ other) :
    Newest limit key other kept where
  sorted := newest.sorted
  offered := by
    intro item member
    exact (same item).mp (newest.offered item member)
  bounded := newest.bounded
  dropped := by
    intro item member
    exact newest.dropped item ((same item).mpr member)

theorem pairwise_mergeSort_le (key : α → κ) (items : List α) :
    (items.mergeSort fun left right => key left ≤ key right).Pairwise
      fun left right => key left ≤ key right := by
  have ordered := @pairwise_mergeSort _ (fun left right : α => decide (key left ≤ key right)) (by
      intro first second third
      simp only [decide_eq_true_eq]
      exact le_trans)
    (by
      intro first second
      simp only [Bool.or_eq_true, decide_eq_true_eq]
      exact le_total _ _)
    items
  simpa only [decide_eq_true_eq] using ordered

theorem mergeSort_strict {key : α → κ} {items : List α} (distinct : (items.map key).Nodup) :
    (items.mergeSort fun left right => key left ≤ key right).Pairwise
      fun left right => key left < key right := by
  have perm := mergeSort_perm items fun left right => key left ≤ key right
  have different : ((items.mergeSort fun left right => key left ≤ key right).map key).Nodup :=
    (perm.map key).nodup_iff.mpr distinct
  have ordered := pairwise_mergeSort_le key items
  exact ordered.imp₂ (fun _ _ below apart => lt_of_le_of_ne below apart) (pairwise_map.mp different)

theorem add_of_present {key : α → κ} (newest : Newest limit key pool kept)
    (distinct : ∀ other ∈ pool, key other = key item → other = item)
    (present : ∃ other ∈ kept, key other = key item) : Newest limit key (pool ++ [item]) kept := by
  obtain ⟨other, member, same⟩ := present
  have known : other = item := distinct other (newest.offered other member) same
  constructor
  · exact newest.sorted
  · intro candidate part
    exact mem_append_left [item] (newest.offered candidate part)
  · exact newest.bounded
  · intro candidate part absent
    rcases mem_append.mp part with part | part
    · exact newest.dropped candidate part absent
    · rw [mem_singleton.mp part, ← known] at absent
      exact absurd member absent

/-- A strictly ordered list of the kept items and a new one, with room for all. -/
theorem of_room {key : α → κ} {sorted : List α}
    (newest : Newest limit key pool kept) (room : kept.length < limit)
    (perm : sorted.Perm (kept ++ [item]))
    (ordered : sorted.Pairwise fun left right => key left < key right) :
    Newest limit key (pool ++ [item]) sorted := by
  have length := perm.length_eq
  rw [length_append, length_singleton] at length
  constructor
  · exact ordered
  · intro candidate part
    rcases mem_append.mp (perm.mem_iff.mp part) with old | new
    · exact mem_append_left [item] (newest.offered candidate old)
    · exact mem_append_right pool new
  · omega
  · intro candidate part absent
    rw [perm.mem_iff, mem_append, not_or] at absent
    rcases mem_append.mp part with part | part
    · have full := (newest.dropped candidate part absent.1).1
      omega
    · exact absurd part absent.2

/-- The same without room: the smallest of them goes. -/
theorem of_full {key : α → κ} {least : α}
    (newest : Newest limit key pool kept) (full : kept.length = limit)
    (perm : (least :: rest).Perm (kept ++ [item]))
    (ordered : (least :: rest).Pairwise fun left right => key left < key right) :
    Newest limit key (pool ++ [item]) rest := by
  have length := perm.length_eq
  rw [length_append, length_singleton, length_cons] at length
  obtain ⟨smallest, ordered⟩ := pairwise_cons.mp ordered
  have source (candidate : α) (part : candidate ∈ least :: rest) :
      candidate ∈ kept ∨ candidate = item := by
    rcases mem_append.mp (perm.mem_iff.mp part) with old | new
    · exact Or.inl old
    · exact Or.inr (mem_singleton.mp new)
  constructor
  · exact ordered
  · intro candidate part
    rcases source candidate (mem_cons_of_mem least part) with old | rfl
    · exact mem_append_left [item] (newest.offered candidate old)
    · exact mem_append_right pool (mem_singleton.mpr rfl)
  · omega
  · intro candidate part absent
    refine ⟨by omega, ?_⟩
    intro other member
    by_cases leastOne : candidate = least
    · rw [leastOne]
      exact smallest other member
    -- not among the candidates of this step, so it was dropped before
    have outside : candidate ∉ kept ++ [item] := by
      intro inside
      rcases mem_cons.mp (perm.mem_iff.mpr inside) with same | later
      · exact leastOne same
      · exact absent later
    rw [mem_append, not_or] at outside
    have pooled : candidate ∈ pool := by
      rcases mem_append.mp part with pooled | new
      · exact pooled
      · exact absurd new outside.2
    have below := (newest.dropped candidate pooled outside.1).2
    rcases source other (mem_cons_of_mem least member) with old | rfl
    · exact below other old
    have apart : least ≠ other := fun same => absurd (smallest other member)
      (by rw [same]; exact lt_irrefl _)
    rcases source least mem_cons_self with old | same
    · exact lt_trans (below least old) (smallest other member)
    · exact absurd same apart

/-- One more item is offered. -/
theorem add_newest {key : α → κ} (newest : Newest limit key pool kept)
    (distinct : ∀ other ∈ pool, key other = key item → other = item) :
    Newest limit key (pool ++ [item]) (add limit key kept item) := by
  unfold add
  by_cases present : ∃ other ∈ kept, key other = key item
  · rw [if_pos (by simpa only [any_eq_true, decide_eq_true_eq] using present)]
    exact newest.add_of_present distinct present
  rw [if_neg (by simpa only [any_eq_true, decide_eq_true_eq] using present)]
  have different : ((kept ++ [item]).map key).Nodup := by
    rw [map_append, nodup_append]
    refine ⟨pairwise_map.mpr (newest.sorted.imp ne_of_lt), nodup_singleton _, ?_⟩
    intro value member other last same
    obtain ⟨source, part, rfl⟩ := mem_map.mp member
    exact present ⟨source, part, same.trans (mem_singleton.mp last)⟩
  have perm := mergeSort_perm (kept ++ [item]) fun left right => key left ≤ key right
  have ordered := mergeSort_strict different
  have bound := newest.bounded
  simp only
  rw [length_mergeSort, length_append, length_singleton]
  generalize ((kept ++ [item]).mergeSort fun left right => key left ≤ key right) = sorted
    at perm ordered
  by_cases room : kept.length < limit
  · rw [show kept.length + 1 - limit = 0 by omega, drop_zero]
    exact newest.of_room room perm ordered
  rw [show kept.length + 1 - limit = 1 by omega]
  cases sorted with
  | nil =>
    have length := perm.length_eq
    simp only [length_nil, length_append, length_singleton] at length
    omega
  | cons least rest => exact newest.of_full (by omega) perm ordered

/-- Whatever the order and the repetitions, the items with the largest keys are kept. -/
theorem run_newest (limit : Nat) (key : α → κ) (items : List α)
    (distinct : ∀ left ∈ items, ∀ right ∈ items, key left = key right → left = right) :
    Newest limit key items (Run.run (add limit key) [] items) := by
  induction items using reverseRecOn with
  | nil => exact nil limit key
  | append_singleton items item ih =>
    rw [Run.run_append]
    have before := ih fun left first right second =>
      distinct left (mem_append_left _ first) right (mem_append_left _ second)
    apply before.add_newest
    intro other member same
    exact distinct other (mem_append_left _ member) item
      (mem_append_right _ (mem_singleton.mpr rfl)) same

end Newest

end
