import Mathlib.Data.List.Basic
import Mathlib.Data.Nat.Digits.Defs

set_option autoImplicit false

/- Byte strings: little-endian numerals at fixed offsets, decimal text, and the
length-tagged fields that make concatenations of arbitrary texts readable. -/

/-- A string of bytes. -/
abbrev Octets : Type := List UInt8

namespace Octets

open Nat

open List

/-- The byte of a one-byte character. -/
def ofChar (char : Char) : UInt8 := UInt8.ofNat char.toNat

/-- The bytes of a literal of one-byte characters. -/
def ascii (text : String) : Octets := text.toList.map ofChar

/-- The `count` bytes starting at `offset`. -/
def slice (bytes : Octets) (offset count : Nat) : Octets := (bytes.drop offset).take count

/-- Cutting a packet behind a field leaves the field alone. -/
theorem slice_take (bytes : Octets) (size offset count : Nat) (inside : offset + count ≤ size) :
    slice (bytes.take size) offset count = slice bytes offset count := by
  rw [slice, slice, drop_take, take_take, min_eq_left (by omega)]

variable (width value : Nat) (byte : UInt8) (rest left right : Octets)

/-- A field inside the first part of a text. -/
theorem slice_append_left (offset count : Nat) (inside : offset + count ≤ left.length) :
    slice (left ++ right) offset count = slice left offset count := by
  rw [slice, slice, drop_append_of_le_length (by omega), take_append_of_le_length]
  rw [length_drop]
  omega

theorem slice_append_right (offset count : Nat) :
    slice (left ++ right) (offset + left.length) count = slice right offset count := by
  rw [slice, slice, add_comm, ← drop_drop, drop_left]

theorem slice_whole (count : Nat) (size : left.length = count) :
    slice (left ++ right) 0 count = left := by
  exact take_left' size

/-- The natural number with the given little-endian bytes. -/
def leNat : Octets → Nat
  | [] => 0
  | byte :: bytes => byte.toNat + 256 * leNat bytes

/-- The `width` little-endian bytes of `value`; higher bits are dropped. -/
def leBytes : Nat → Nat → Octets
  | 0, _ => []
  | width + 1, value => UInt8.ofNat (value % 256) :: leBytes width (value / 256)

def u8At (bytes : Octets) (offset : Nat) : UInt8 := UInt8.ofNat (leNat (slice bytes offset 1))

def u16At (bytes : Octets) (offset : Nat) : UInt16 := UInt16.ofNat (leNat (slice bytes offset 2))

def u32At (bytes : Octets) (offset : Nat) : UInt32 := UInt32.ofNat (leNat (slice bytes offset 4))

def u64At (bytes : Octets) (offset : Nat) : UInt64 := UInt64.ofNat (leNat (slice bytes offset 8))

/-- A two's-complement 64-bit field. -/
def i64At (bytes : Octets) (offset : Nat) : Int := (u64At bytes offset).toInt64.toInt

theorem u8At_append (offset : Nat) (inside : offset + 1 ≤ left.length) :
    u8At (left ++ right) offset = u8At left offset := by
  rw [u8At, slice_append_left left right offset 1 inside, u8At]

theorem u16At_append (offset : Nat) (inside : offset + 2 ≤ left.length) :
    u16At (left ++ right) offset = u16At left offset := by
  rw [u16At, slice_append_left left right offset 2 inside, u16At]

theorem u32At_append (offset : Nat) (inside : offset + 4 ≤ left.length) :
    u32At (left ++ right) offset = u32At left offset := by
  rw [u32At, slice_append_left left right offset 4 inside, u32At]

theorem i64At_append (offset : Nat) (inside : offset + 8 ≤ left.length) :
    i64At (left ++ right) offset = i64At left offset := by
  rw [i64At, u64At, slice_append_left left right offset 8 inside, i64At, u64At]

theorem leBytes_length : (leBytes width value).length = width := by
  induction width generalizing value with
  | zero => rfl
  | succ width ih => rw [leBytes, length_cons, ih]

theorem leNat_leBytes : leNat (leBytes width value) = value % 256 ^ width := by
  induction width generalizing value with
  | zero => rw [leBytes, leNat, pow_zero, mod_one]
  | succ width ih =>
    have digit : (UInt8.ofNat (value % 256)).toNat = value % 256 :=
      UInt8.toNat_ofNat_of_lt' (mod_lt _ (by decide))
    rw [leBytes, leNat, digit, ih, pow_succ', mod_mul]

def u16Bytes (value : UInt16) : Octets := leBytes 2 value.toNat

def u32Bytes (value : UInt32) : Octets := leBytes 4 value.toNat

theorem leNat_slice_leBytes (fits : value < 256 ^ width) :
    leNat (slice (leBytes width value ++ rest) 0 width) = value := by
  rw [slice_whole _ _ width (leBytes_length width value), leNat_leBytes, mod_eq_of_lt fits]

theorem leNat_u16Bytes (value : UInt16) (rest : Octets) :
    leNat (slice (u16Bytes value ++ rest) 0 2) = value.toNat :=
  leNat_slice_leBytes 2 value.toNat rest value.toNat_lt

theorem leNat_u32Bytes (value : UInt32) (rest : Octets) :
    leNat (slice (u32Bytes value ++ rest) 0 4) = value.toNat :=
  leNat_slice_leBytes 4 value.toNat rest value.toNat_lt

theorem leNat_byte : leNat (slice (byte :: rest) 0 1) = byte.toNat := by
  show byte.toNat + 256 * 0 = byte.toNat
  rw [mul_zero, add_zero]

/-- A number at the front of a text reads back. -/
theorem u32At_u32Bytes (value : UInt32)
    (rest : Octets) : u32At (u32Bytes value ++ rest) 0 = value := by
  rw [u32At, leNat_u32Bytes, UInt32.ofNat_toNat]

/-- Two's-complement bytes of a signed 64-bit value. -/
def i64Bytes (value : Int) : Octets := leBytes 8 (value % 2 ^ 64).toNat

theorem leNat_i64Bytes (value : Int) (rest : Octets) :
    leNat (slice (i64Bytes value ++ rest) 0 8) = (value % 2 ^ 64).toNat :=
  leNat_slice_leBytes 8 _ rest (by omega)

/-- The bits of a signed number that fits 64 of them give the number back. -/
theorem toInt_of_bits {value : Int} (low : -2 ^ 63 ≤ value) (high : value < 2 ^ 63) :
    (UInt64.ofNat (value % 2 ^ 64).toNat).toInt64.toInt = value := by
  have bits : (UInt64.ofNat (value % 2 ^ 64).toNat).toInt64.toBitVec = BitVec.ofInt 64 value := by
    apply BitVec.eq_of_toNat_eq
    exact mod_eq_of_lt (by omega)
  rw [← Int64.toInt_toBitVec, bits, BitVec.toInt_ofInt]
  exact Int.bmod_eq_of_le (by omega) (by omega)

theorem i64At_range (bytes : Octets) (offset : Nat) :
    -2 ^ 63 ≤ i64At bytes offset ∧ i64At bytes offset < 2 ^ 63 :=
  ⟨Int64.le_toInt _, Int64.toInt_lt _⟩

theorem slice_after_u16Bytes (value : UInt16) (rest : Octets) (offset count : Nat) :
    slice (u16Bytes value ++ rest) (offset + 2) count = slice rest offset count :=
  slice_append_right (u16Bytes value) rest offset count

theorem slice_after_u32Bytes (value : UInt32) (rest : Octets) (offset count : Nat) :
    slice (u32Bytes value ++ rest) (offset + 4) count = slice rest offset count :=
  slice_append_right (u32Bytes value) rest offset count

theorem slice_after_i64Bytes (value : Int) (rest : Octets) (offset count : Nat) :
    slice (i64Bytes value ++ rest) (offset + 8) count = slice rest offset count :=
  slice_append_right (i64Bytes value) rest offset count

theorem slice_after_byte (offset count : Nat) :
    slice (byte :: rest) (offset + 1) count = slice rest offset count := rfl

/-- A byte string cut or zero-filled to exactly `width` bytes. -/
def padded (width : Nat) (bytes : Octets) : Octets :=
  bytes.take width ++ replicate (width - bytes.length) 0

theorem padded_length (bytes : Octets) : (padded width bytes).length = width := by
  rw [padded, length_append, length_take, length_replicate]
  omega

theorem padded_of_length {width : Nat} {bytes : Octets} (size : bytes.length = width) :
    padded width bytes = bytes := by
  rw [padded, size, Nat.sub_self, replicate_zero, append_nil, ← size, take_length]

/-- To read all bytes as a number and write it again changes nothing. -/
theorem leBytes_leNat (bytes : Octets) : leBytes bytes.length (leNat bytes) = bytes := by
  induction bytes with
  | nil => rfl
  | cons byte bytes ih =>
    have small := byte.toNat_lt
    have low : (byte.toNat + 256 * leNat bytes) % 256 = byte.toNat := by omega
    have high : (byte.toNat + 256 * leNat bytes) / 256 = leNat bytes := by omega
    rw [length_cons, leBytes, leNat, low, high, ih, UInt8.ofNat_toNat]

theorem leNat_lt (bytes : Octets) : leNat bytes < 256 ^ bytes.length := by
  induction bytes with
  | nil => exact one_pos
  | cons byte bytes ih =>
    have small := byte.toNat_lt
    rw [length_cons, leNat, pow_succ']
    omega

section Fields

variable {bytes : Octets} {offset : Nat}

theorem slice_length {count : Nat} (inside : offset + count ≤ bytes.length) :
    (slice bytes offset count).length = count := by
  rw [slice, length_take, length_drop]
  omega

theorem leBytes_slice {width : Nat} (inside : offset + width ≤ bytes.length) :
    leBytes width (leNat (slice bytes offset width)) = slice bytes offset width := by
  have whole := leBytes_leNat (slice bytes offset width)
  rw [slice_length inside] at whole
  exact whole

theorem slice_leNat_lt {width : Nat} (inside : offset + width ≤ bytes.length) :
    leNat (slice bytes offset width) < 256 ^ width := by
  have bound := leNat_lt (slice bytes offset width)
  rw [slice_length inside] at bound
  exact bound

theorem u8At_self (inside : offset + 1 ≤ bytes.length) :
    [u8At bytes offset] = slice bytes offset 1 := by
  have bound : leNat (slice bytes offset 1) < 256 := slice_leNat_lt inside
  have whole := leBytes_slice inside
  rw [leBytes, leBytes, mod_eq_of_lt bound] at whole
  exact whole

theorem u16Bytes_u16At (inside : offset + 2 ≤ bytes.length) :
    u16Bytes (u16At bytes offset) = slice bytes offset 2 := by
  rw [u16Bytes, u16At, UInt16.toNat_ofNat_of_lt' (slice_leNat_lt inside)]
  exact leBytes_slice inside

theorem u32Bytes_u32At (inside : offset + 4 ≤ bytes.length) :
    u32Bytes (u32At bytes offset) = slice bytes offset 4 := by
  rw [u32Bytes, u32At, UInt32.toNat_ofNat_of_lt' (slice_leNat_lt inside)]
  exact leBytes_slice inside

theorem i64Bytes_i64At (inside : offset + 8 ≤ bytes.length) :
    i64Bytes (i64At bytes offset) = slice bytes offset 8 := by
  have bits : ((i64At bytes offset) % 2 ^ 64).toNat = leNat (slice bytes offset 8) := by
    have number : (u64At bytes offset).toNat = leNat (slice bytes offset 8) := by
      rw [u64At, UInt64.toNat_ofNat_of_lt' (slice_leNat_lt inside)]
    have small := (u64At bytes offset).toNat_lt
    have signed : i64At bytes offset = (u64At bytes offset).toBitVec.toInt := rfl
    rw [signed, BitVec.toInt_eq_toNat_cond, ← number]
    show ((if 2 * (u64At bytes offset).toNat < 2 ^ 64 then ((u64At bytes offset).toNat : Int)
      else (u64At bytes offset).toNat - (2 ^ 64 : Nat)) % 2 ^ 64).toNat = (u64At bytes offset).toNat
    split <;> omega
  rw [i64Bytes, bits]
  exact leBytes_slice inside

/-- A field behind the first bytes belongs to the first bytes and that many more. -/
theorem take_append_slice (bytes : Octets) (offset count : Nat) :
    bytes.take offset ++ slice bytes offset count = bytes.take (offset + count) :=
  take_add.symm

end Fields

/-- Decimal text without leading zeros. -/
def decimal (value : Nat) : Octets := (toDigits 10 value).map ofChar

def signedDecimal (value : Int) : Octets :=
  if value < 0 then ofChar '-' :: decimal value.natAbs else decimal value.natAbs

/-- A byte string tagged with its decimal length, `<length>:<bytes>`. -/
def tagged (value : Octets) : Octets := decimal value.length ++ ofChar ':' :: value

def isDigit (byte : UInt8) : Bool := decide (48 ≤ byte.toNat) && decide (byte.toNat ≤ 57)

private theorem ofChar_isDigit (char : Char) (digit : char.isDigit = true) :
    isDigit (ofChar char) = true ∧ Char.ofNat (ofChar char).toNat = char := by
  have range := Char.isDigit_iff_toNat.mp digit
  have low : (48 : Nat) ≤ char.toNat := range.1
  have high : char.toNat ≤ 57 := range.2
  have exact_byte : (ofChar char).toNat = char.toNat :=
    UInt8.toNat_ofNat_of_lt' (by simp only [UInt8.size]; omega)
  refine ⟨?_, ?_⟩
  · simp [isDigit, exact_byte, low, high]
  · rw [exact_byte, Char.ofNat_toNat]

theorem decimal_isDigit (member : byte ∈ decimal value) : isDigit byte = true := by
  obtain ⟨char, inside, rfl⟩ := mem_map.mp member
  have digit := isDigit_of_mem_toDigits (by decide) (by decide) inside
  exact (ofChar_isDigit char digit).1

theorem decimal_injective : Function.Injective decimal := by
  intro left right same
  have back (value : Nat) :
      (decimal value).map (fun byte => Char.ofNat byte.toNat) = toDigits 10 value := by
    rw [decimal, map_map]
    conv_rhs => rw [← map_id (toDigits 10 value)]
    apply map_congr_left
    intro char inside
    exact (ofChar_isDigit char (isDigit_of_mem_toDigits (by decide) (by decide) inside)).2
  have digits : toDigits 10 left = toDigits 10 right := by rw [← back left, ← back right, same]
  have value := congrArg (fun text => ofDigitChars 10 text 0) digits
  simpa only [ofDigitChars_ten_toDigits] using value

/-- Decimal text followed by a separator determines both parts. -/
theorem decimal_append_inj {separator : UInt8} (marker : isDigit separator = false)
    {left right : Nat} {first second : Octets}
    (same : decimal left ++ separator :: first = decimal right ++ separator :: second) :
    left = right ∧ first = second := by
  have absent (value : Nat) : separator ∉ decimal value := by
    intro member
    rw [decimal_isDigit value separator member] at marker
    exact absurd marker (by decide)
  have heads : decimal left = decimal right := by
    have cut (value : Nat) (rest : Octets) :
        (decimal value ++ separator :: rest).takeWhile (fun byte => byte != separator) =
          decimal value := by
      rw [takeWhile_append_of_pos]
      · simp
      intro byte inside
      simp only [bne_iff_ne, ne_eq]
      rintro rfl
      exact absent value inside
    rw [← cut left first, ← cut right second, same]
  rw [heads] at same
  exact ⟨decimal_injective heads, (cons.inj (append_cancel_left same)).2⟩

/-- A length-tagged field can be read off the front of any text. -/
theorem tagged_append_inj {left right first second : Octets}
    (same : tagged left ++ first = tagged right ++ second) : left = right ∧ first = second := by
  simp only [tagged, append_assoc, cons_append] at same
  obtain ⟨lengths, rest⟩ := decimal_append_inj (by decide) same
  exact append_inj rest lengths

end Octets
