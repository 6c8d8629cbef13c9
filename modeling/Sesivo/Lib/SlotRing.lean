import Mathlib.Data.List.Basic
import Mathlib.Logic.Function.Basic

set_option autoImplicit false

/- A ring of slots between one producer and one consumer. The producer writes the
slot at the write index and then moves that index on; the consumer reads the slot
at the read index and then moves that one on. One slot stays empty, so that equal
indices mean an empty ring. -/

structure SlotRing (α : Type) (capacity : Nat) where
  slots : Nat → α
  readIndex : Nat
  writeIndex : Nat
  read_lt : readIndex < capacity
  write_lt : writeIndex < capacity

namespace SlotRing

open List

variable {α : Type} {capacity : Nat}

def next (capacity index : Nat) : Nat := (index + 1) % capacity

variable {index : Nat}

theorem next_lt (inside : index < capacity) : next capacity index < capacity :=
  Nat.mod_lt _ (by omega)

def empty (slot : α) (positive : 0 < capacity) : SlotRing α capacity where
  slots := fun _ => slot
  readIndex := 0
  writeIndex := 0
  read_lt := positive
  write_lt := positive

variable (ring : SlotRing α capacity)

def isFull : Bool := decide (next capacity ring.writeIndex = ring.readIndex)

def isEmpty : Bool := decide (ring.readIndex = ring.writeIndex)

/-- Write the slot that is published next. -/
def store (value : α) : SlotRing α capacity :=
  { ring with slots := Function.update ring.slots ring.writeIndex value }

def publish : SlotRing α capacity :=
  { ring with
    writeIndex := next capacity ring.writeIndex
    write_lt := next_lt ring.write_lt }

def front : α := ring.slots ring.readIndex

def advance : SlotRing α capacity :=
  { ring with
    readIndex := next capacity ring.readIndex
    read_lt := next_lt ring.read_lt }

/-- The number of published slots the consumer has not taken. -/
def size : Nat :=
  if ring.readIndex ≤ ring.writeIndex then ring.writeIndex - ring.readIndex
  else ring.writeIndex + capacity - ring.readIndex

/-- The published values the consumer has not taken, oldest first. -/
def contents : List α :=
  (range ring.size).map fun offset => ring.slots ((ring.readIndex + offset) % capacity)

/-- An index that ran past the end once. -/
theorem wrap (inside : index < 2 * capacity) :
    index % capacity = if index < capacity then index else index - capacity := by
  split
  next small => exact Nat.mod_eq_of_lt small
  next large =>
    rw [Nat.mod_eq_sub_mod (by omega)]
    exact Nat.mod_eq_of_lt (by omega)

theorem next_eq (inside : index < capacity) :
    next capacity index = if index + 1 < capacity then index + 1 else 0 := by
  unfold next
  rw [wrap (by omega)]
  split
  · rfl
  · omega

theorem size_lt : ring.size < capacity := by
  have write := ring.write_lt
  unfold size
  split <;> omega

theorem length_contents : ring.contents.length = ring.size := by
  rw [contents, length_map, length_range]

@[simp] theorem contents_empty (slot : α) (positive : 0 < capacity) :
    (empty slot positive : SlotRing α capacity).contents = [] := rfl

theorem contents_eq_nil_iff : ring.contents = [] ↔ ring.isEmpty = true := by
  have read := ring.read_lt
  rw [← length_eq_zero_iff, length_contents, isEmpty, decide_eq_true_iff, size]
  split <;> omega

/-- The slot being written is none of the published ones. -/
theorem contents_store (value : α) : (ring.store value).contents = ring.contents := by
  have read := ring.read_lt
  apply map_congr_left
  intro offset member
  have inside : offset < ring.size := mem_range.mp member
  have bound := ring.size_lt
  apply Function.update_of_ne
  show (ring.readIndex + offset) % capacity ≠ ring.writeIndex
  rw [wrap (by omega)]
  unfold size at inside
  split at inside <;> split <;> omega

theorem store_slot (value : α) : (ring.store value).slots (ring.store value).writeIndex = value :=
  Function.update_self ..

theorem front_store (value : α) (some_left : ring.isEmpty = false) :
    (ring.store value).front = ring.front := by
  rw [isEmpty, decide_eq_false_iff_not] at some_left
  exact Function.update_of_ne some_left _ _

theorem size_publish (room : ring.isFull = false) : ring.publish.size = ring.size + 1 := by
  have read := ring.read_lt
  have write := ring.write_lt
  rw [isFull, decide_eq_false_iff_not, next_eq write] at room
  have moved : ring.publish.writeIndex =
      if ring.writeIndex + 1 < capacity then ring.writeIndex + 1 else 0 := next_eq write
  have same : ring.publish.readIndex = ring.readIndex := rfl
  unfold size
  rw [moved, same]
  split at room <;> split <;> split <;> split <;> omega

/-- Publishing appends the slot at the write index. -/
theorem contents_publish (room : ring.isFull = false) :
    ring.publish.contents = ring.contents ++ [ring.slots ring.writeIndex] := by
  have read := ring.read_lt
  have write := ring.write_lt
  have last : (ring.readIndex + ring.size) % capacity = ring.writeIndex := by
    rw [wrap (by have bound := ring.size_lt; omega)]
    unfold size
    split <;> split <;> omega
  unfold contents
  rw [ring.size_publish room, range_succ, map_append, map_singleton]
  show _ ++ [ring.slots ((ring.readIndex + ring.size) % capacity)] = _
  rw [last]
  rfl

/-- The consumer finds the oldest value and taking it leaves the others. -/
theorem contents_advance (some_left : ring.isEmpty = false) :
    ring.contents = ring.front :: ring.advance.contents := by
  have read := ring.read_lt
  have write := ring.write_lt
  rw [isEmpty, decide_eq_false_iff_not] at some_left
  have moved : ring.advance.readIndex =
      if ring.readIndex + 1 < capacity then ring.readIndex + 1 else 0 := next_eq read
  have same : ring.advance.writeIndex = ring.writeIndex := rfl
  have fewer : ring.size = ring.advance.size + 1 := by
    unfold size
    rw [moved, same]
    split <;> split <;> split <;> omega
  unfold contents
  rw [fewer, range_succ_eq_map, map_cons, map_map, Nat.add_zero, Nat.mod_eq_of_lt read]
  apply congrArg (ring.front :: ·)
  apply map_congr_left
  intro offset member
  have inside : offset < ring.advance.size := mem_range.mp member
  have bound := ring.size_lt
  show ring.slots ((ring.readIndex + (offset + 1)) % capacity) =
    ring.slots ((ring.advance.readIndex + offset) % capacity)
  rw [wrap (by omega), wrap (by have other := ring.advance.read_lt; omega), moved]
  congr 1
  split <;> split <;> split <;> omega

/-- Taking a value makes room. -/
theorem advance_room (some_left : ring.isEmpty = false) : ring.advance.isFull = false := by
  have read := ring.read_lt
  have write := ring.write_lt
  rw [isEmpty, decide_eq_false_iff_not] at some_left
  rw [isFull, decide_eq_false_iff_not]
  show next capacity ring.writeIndex ≠ next capacity ring.readIndex
  rw [next_eq write, next_eq read]
  split <;> split <;> omega

end SlotRing
