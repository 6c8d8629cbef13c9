import Mathlib.Data.List.Basic

set_option autoImplicit false

/- A stream cut into blocks of one size, with less than a block left over, and an array
of fixed size that the rest is kept in. -/

namespace Blocks

open List

variable {α : Type}

/-- The blocks are all of the size, and what is left of the stream is less than one. -/
structure Cut (size : ℕ) (stream : List α) (blocks : List (List α)) (rest : List α) : Prop where
  whole : stream = blocks.flatten ++ rest
  full : ∀ block ∈ blocks, block.length = size
  short : rest.length < size

theorem Cut.nil {size : ℕ} (positive : 0 < size) : Cut size ([] : List α) [] [] :=
  ⟨rfl, fun _ member => absurd member not_mem_nil, positive⟩

variable {stream : List α} {blocks : List (List α)} {rest items : List α}

/-- There is only one way to cut a stream. -/
theorem Cut.unique {size : ℕ} {others : List (List α)}
    {remains : List α} (cut : Cut size stream blocks rest)
    (other : Cut size stream others remains) :
    blocks = others ∧ rest = remains := by
  induction blocks generalizing stream others with
  | nil =>
    cases others with
    | nil => exact ⟨rfl, cut.whole.symm.trans other.whole⟩
    | cons block others =>
      have full := other.full block mem_cons_self
      have short := cut.short
      have lengths := congrArg length (cut.whole.symm.trans other.whole)
      simp only [flatten_nil, nil_append, flatten_cons, length_append] at lengths
      omega
  | cons block blocks ih =>
    have full := cut.full block mem_cons_self
    cases others with
    | nil =>
      have short := other.short
      have lengths := congrArg length (cut.whole.symm.trans other.whole)
      simp only [flatten_nil, nil_append, flatten_cons, length_append] at lengths
      omega
    | cons first others =>
      have same := cut.whole.symm.trans other.whole
      rw [flatten_cons, flatten_cons, append_assoc, append_assoc] at same
      have sizes : block.length = first.length := full.trans (other.full first mem_cons_self).symm
      obtain ⟨rfl, tails⟩ := append_inj same sizes
      obtain ⟨rfl, rfl⟩ := ih
        ⟨rfl, fun later member => cut.full later (mem_cons_of_mem _ member), cut.short⟩
        ⟨tails, fun later member => other.full later (mem_cons_of_mem _ member), other.short⟩
      exact ⟨rfl, rfl⟩

/-- More of the stream, and still not a block. -/
theorem Cut.extend {size : ℕ}
    (cut : Cut size stream blocks rest) (short : rest.length + items.length < size) :
    Cut size (stream ++ items) blocks (rest ++ items) where
  whole := by rw [cut.whole, append_assoc]
  full := cut.full
  short := by
    rw [length_append]
    exact short

/-- More of the stream, and just a block. -/
theorem Cut.complete {size : ℕ}
    (cut : Cut size stream blocks rest) (full : rest.length + items.length = size) :
    Cut size (stream ++ items) (blocks ++ [rest ++ items]) [] where
  whole := by rw [cut.whole, flatten_append, flatten_singleton, append_nil, append_assoc]
  full := by
    intro block member
    rcases mem_append.mp member with earlier | last
    · exact cut.full block earlier
    · rw [mem_singleton.mp last, length_append]
      exact full
  short := Nat.lt_of_le_of_lt (Nat.zero_le _) cut.short

/-- An array of fixed size. -/
structure Cells (α : Type) (size : ℕ) where
  cells : List α
  fits : cells.length = size

namespace Cells

variable {size : ℕ} (array : Cells α size)

/-- Copy items into the array from an offset on; there is no result if they do not fit. -/
def copyN (offset : ℕ) (items : List α) : Option (Cells α size) :=
  if inside : offset + items.length ≤ size then
    some ⟨array.cells.take offset ++ items ++ array.cells.drop (offset + items.length), by
      have fits := array.fits
      simp only [length_append, length_take, length_drop]
      omega⟩
  else none

variable {offset : ℕ}

/-- What is copied to the end of the part in use makes that part longer. -/
theorem take_of_copyN {array after : Cells α size} {items : List α}
    (copied : array.copyN offset items = some after) :
    after.cells.take (offset + items.length) = array.cells.take offset ++ items := by
  unfold copyN at copied
  split at copied
  next inside =>
    obtain rfl := Option.some.inj copied
    have fits := array.fits
    have length : (array.cells.take offset ++ items).length = offset + items.length := by
      rw [length_append, length_take]
      omega
    exact take_left' length
  next => cases copied

theorem copyN_isSome {items : List α}
    (inside : offset + items.length ≤ size) : ∃ after, array.copyN offset items = some after :=
  ⟨_, dif_pos inside⟩

end Cells

end Blocks
