import Sesivo.Lib.Octets

set_option autoImplicit false

/- Copies out of and into a buffer of fixed length. A copy that would touch a byte
outside the buffer has no result. -/

namespace Buffer

open Octets

variable (data : Octets)

def load (offset count : Nat) : Option Octets :=
  if offset + count ≤ data.length then some (slice data offset count) else none

def store (offset : Nat) (bytes : Octets) : Option Octets :=
  if offset + bytes.length ≤ data.length then
    some (data.take offset ++ bytes ++ data.drop (offset + bytes.length))
  else none

theorem load_inside {data : Octets} {offset count : Nat} (inside : offset + count ≤ data.length) :
    load data offset count = some (slice data offset count) := if_pos inside

/-- A part of the buffer is overwritten by one of the same length. -/
theorem store_append (front part tail bytes : Octets) (same : bytes.length = part.length) :
    store (front ++ (part ++ tail)) front.length bytes = some (front ++ (bytes ++ tail)) := by
  have inside : front.length + bytes.length ≤ (front ++ (part ++ tail)).length := by
    simp only [List.length_append]
    omega
  rw [store, if_pos inside, List.take_left, same, ← List.drop_drop, List.drop_left, List.drop_left,
    List.append_assoc]

end Buffer
