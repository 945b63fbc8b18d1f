/-
Module: OpenTunnel.Formats.BigEndian
Layer: Formats
Purpose: Byte strings, and numbers as bytes, the most significant first.
Imports: Mathlib.Algebra.GroupWithZero.Nat
Trusted boundary: none (fully proved)
Main exports: Bytes, toBe, fromBe, fromBe_toBe, toBe_fromBe, toBe_xor
Open obligations: none
-/
import Mathlib.Algebra.GroupWithZero.Nat

namespace OpenTunnel

/-- The bytes of a text. -/
abbrev Bytes := List UInt8

end OpenTunnel

namespace OpenTunnel.Formats

/-- `to_be_bytes` of a number of this many bytes. -/
def toBe : Nat → Nat → List UInt8
  | 0, _ => []
  | size + 1, n => UInt8.ofNat (n / 256 ^ size % 256) :: toBe size n

/-- `from_be_bytes` -/
def fromBe (bytes : List UInt8) : Nat := bytes.foldl (fun n byte => n * 256 + byte.toNat) 0

@[simp] theorem toBe_length (size n : Nat) : (toBe size n).length = size := by
  induction size with
  | zero => rfl
  | succ size ih => rw [toBe, List.length_cons, ih]

theorem foldl_toBe (size n high : Nat) :
    (toBe size n).foldl (fun n byte => n * 256 + byte.toNat) high = high * 256 ^ size + n % 256 ^ size := by
  induction size generalizing high with
  | zero => simp [toBe, Nat.mod_one]
  | succ size ih =>
      have byte : (UInt8.ofNat (n / 256 ^ size % 256)).toNat = n / 256 ^ size % 256 := by
        rw [UInt8.toNat_ofNat']
        omega
      have parts : n % 256 ^ (size + 1) = 256 ^ size * (n / 256 ^ size % 256) + n % 256 ^ size := by
        rw [Nat.pow_succ, Nat.mod_mul]
        omega
      rw [toBe, List.foldl_cons, ih, byte, parts, Nat.add_mul, Nat.pow_succ, Nat.mul_comm (n / 256 ^ size % 256)]
      rw [Nat.mul_assoc, Nat.mul_comm 256, Nat.add_assoc]

theorem fromBe_toBe {size n : Nat} (fits : n < 256 ^ size) : fromBe (toBe size n) = n := by
  rw [fromBe, foldl_toBe, Nat.zero_mul, Nat.zero_add, Nat.mod_eq_of_lt fits]

theorem foldl_fromBe (bytes : List UInt8) (high : Nat) :
    bytes.foldl (fun n byte => n * 256 + byte.toNat) high = high * 256 ^ bytes.length + fromBe bytes := by
  induction bytes generalizing high with
  | nil => simp [fromBe]
  | cons byte bytes ih =>
      have rest := ih byte.toNat
      rw [fromBe, List.foldl_cons, List.foldl_cons, Nat.zero_mul, Nat.zero_add, ih, rest, List.length_cons, Nat.pow_succ,
        Nat.add_mul, Nat.mul_assoc, Nat.mul_comm 256, Nat.add_assoc]

theorem fromBe_cons (byte : UInt8) (bytes : List UInt8) :
    fromBe (byte :: bytes) = byte.toNat * 256 ^ bytes.length + fromBe bytes := by
  rw [fromBe, List.foldl_cons, Nat.zero_mul, Nat.zero_add, foldl_fromBe]

theorem fromBe_lt (bytes : List UInt8) : fromBe bytes < 256 ^ bytes.length := by
  induction bytes with
  | nil => decide
  | cons byte bytes ih =>
      have first : byte.toNat * 256 ^ bytes.length ≤ 255 * 256 ^ bytes.length :=
        Nat.mul_le_mul_right _ (Nat.le_of_lt_succ byte.toNat_lt)
      rw [fromBe_cons, List.length_cons, Nat.pow_succ]
      omega

/-- Only the low bytes of the number count. -/
theorem toBe_add (size high low : Nat) : toBe size (high * 256 ^ size + low) = toBe size low := by
  induction size generalizing high with
  | zero => rfl
  | succ size ih =>
      have split : high * 256 ^ (size + 1) + low = high * 256 * 256 ^ size + low := by
        rw [Nat.pow_succ, Nat.mul_comm (256 ^ size), Nat.mul_assoc]
      have pos : 0 < 256 ^ size := Nat.pow_pos (by decide)
      have byte : (high * 256 * 256 ^ size + low) / 256 ^ size % 256 = low / 256 ^ size % 256 := by
        rw [Nat.mul_comm (high * 256), Nat.mul_add_div pos]
        omega
      rw [toBe, toBe, split, byte, ih]

theorem toBe_fromBe (bytes : List UInt8) : toBe bytes.length (fromBe bytes) = bytes := by
  induction bytes with
  | nil => rfl
  | cons byte bytes ih =>
      have pos : 0 < 256 ^ bytes.length := Nat.pow_pos (by decide)
      have top : fromBe (byte :: bytes) / 256 ^ bytes.length % 256 = byte.toNat := by
        rw [fromBe_cons, Nat.mul_comm, Nat.mul_add_div pos, Nat.div_eq_of_lt (fromBe_lt bytes), Nat.add_zero]
        exact Nat.mod_eq_of_lt byte.toNat_lt
      rw [List.length_cons, toBe, top, UInt8.ofNat_toNat, fromBe_cons, toBe_add, ih]

/-- An exclusive or of numbers is one of their bytes. -/
theorem toBe_xor (size m n : Nat) : toBe size (m ^^^ n) = List.zipWith (· ^^^ ·) (toBe size m) (toBe size n) := by
  induction size with
  | zero => rfl
  | succ size ih =>
      have byte : (m ^^^ n) / 256 ^ size % 256 = (m / 256 ^ size % 256) ^^^ (n / 256 ^ size % 256) := by
        have bits : 256 ^ size = 2 ^ (8 * size) := by rw [Nat.pow_mul]
        rw [bits, Nat.xor_div_two_pow]
        exact Nat.xor_mod_two_pow (n := 8)
      rw [toBe, toBe, toBe, List.zipWith_cons_cons, ih, byte, UInt8.ofNat_xor]

end OpenTunnel.Formats
