import Mathlib.Data.List.Nodup

set_option autoImplicit false

/- The order in which keys were last used. A use is a key with the time of it;
the history lists the uses as they come. -/

namespace Recency

open List

variable {κ τ : Type} [DecidableEq κ]

/-- Of each key the last use, in the order of the history. -/
def lastUses : List (κ × τ) → List (κ × τ)
  | [] => []
  | use :: history =>
    if use.1 ∈ history.map Prod.fst then lastUses history else use :: lastUses history

/-- The uses of all keys but one. -/
def without (key : κ) (uses : List (κ × τ)) : List (κ × τ) :=
  uses.filter fun use => use.1 ≠ key

variable {uses : List (κ × τ)}

theorem without_of_notMem {key : κ} (absent : key ∉ uses.map Prod.fst) :
    without key uses = uses := by
  apply filter_eq_self.mpr
  intro use member
  apply decide_eq_true
  intro same
  exact absent (mem_map.mpr ⟨use, member, same⟩)

theorem without_cons_self {key : κ} {time : τ}
    (absent : key ∉ uses.map Prod.fst) : without key ((key, time) :: uses) = uses := by
  have gone : without key ((key, time) :: uses) = without key uses :=
    filter_cons_of_neg (by simp only [ne_eq, not_true, decide_false]; decide)
  rw [gone, without_of_notMem absent]

variable (history : List (κ × τ))

theorem lastUses_concat (key : κ) (time : τ) :
    lastUses (history ++ [(key, time)]) = without key (lastUses history) ++ [(key, time)] := by
  induction history with
  | nil => rfl
  | cons use history ih =>
    rw [cons_append, lastUses, lastUses, ih, map_append, map_singleton]
    by_cases later : use.1 ∈ history.map Prod.fst
    · rw [if_pos later, if_pos (mem_append_left _ later)]
    rw [if_neg later]
    by_cases same : use.1 = key
    · have gone : without key (use :: lastUses history) = without key (lastUses history) :=
        filter_cons_of_neg (by simp only [same, ne_eq, not_true, decide_false]; decide)
      rw [gone, if_pos (mem_append_right _ (mem_singleton.mpr same))]
    have kept : without key (use :: lastUses history) = use :: without key (lastUses history) :=
      filter_cons_of_pos (decide_eq_true same)
    rw [kept, cons_append, if_neg]
    intro member
    cases mem_append.mp member with
    | inl old => exact later old
    | inr new => exact same (mem_singleton.mp new)

theorem lastUses_sublist : (lastUses history).Sublist history := by
  induction history with
  | nil => exact List.Sublist.refl []
  | cons use history ih =>
    rw [lastUses]
    split
    · exact ih.cons use
    · exact ih.cons_cons use

/-- A key that is used moves to the end. -/
theorem touched_sublist {uses history : List (κ × τ)} (key : κ) (time : τ)
    (recent : uses.Sublist (lastUses history)) :
    (without key uses ++ [(key, time)]).Sublist (lastUses (history ++ [(key, time)])) := by
  rw [lastUses_concat]
  exact List.Sublist.append (recent.filter _) (List.Sublist.refl _)

/-- In an ordered list, to skip what comes before a bound is to filter it out. -/
theorem dropWhile_eq_filter {α : Type} (stale : α → Bool) (items : List α)
    (closed : items.Pairwise fun first second => stale second = true → stale first = true) :
    items.dropWhile stale = items.filter fun item => !stale item := by
  induction items with
  | nil => rfl
  | cons item items ih =>
    have parts := pairwise_cons.mp closed
    cases old : stale item with
    | true =>
      rw [dropWhile_cons_of_pos old, ih parts.2, filter_cons_of_neg]
      simp [old]
    | false =>
      rw [dropWhile_cons_of_neg (by rw [old]; decide)]
      apply Eq.symm
      apply filter_eq_self.mpr
      intro other member
      cases mem_cons.mp member with
      | inl same => rw [same, old]; rfl
      | inr later =>
        cases fresh : stale other with
        | false => rfl
        | true => rw [parts.1 other later fresh] at old; exact absurd old (by decide)

end Recency
