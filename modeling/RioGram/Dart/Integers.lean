import Mathlib.Algebra.Group.Int.Defs

/-!
# Integers of Dart

On a virtual machine they have 64 bits.  On the web they are the numbers of JavaScript, and the results of shifts and
of operations on bits are the lowest 32 bits of what they would be, without a sign.
-/

namespace Dart

inductive Runtime where
  | native | web
deriving DecidableEq

namespace Runtime

/-- `<<`; a shift by the width or more leaves nothing. -/
def shl : Runtime → ℤ → ℕ → ℤ
  | native, value, count => (BitVec.ofInt 64 value <<< count).toInt
  | web, value, count => (BitVec.ofInt 32 value <<< count).toNat

/-- `&`. -/
def land : Runtime → ℤ → ℤ → ℤ
  | native, a, b => (BitVec.ofInt 64 a &&& BitVec.ofInt 64 b).toInt
  | web, a, b => (BitVec.ofInt 32 a &&& BitVec.ofInt 32 b).toNat

end Runtime

/-- The three lowest bits of 64 are the remainder by eight, also of a negative number. -/
lemma and_seven (value : ℤ) : (BitVec.ofInt 64 value &&& 7#64).toInt = value % 8 := by
  have hnat : (BitVec.ofInt 64 value &&& 7#64).toNat = (BitVec.ofInt 64 value).toNat % 8 := by
    rw [BitVec.toNat_and]
    exact Nat.and_two_pow_sub_one_eq_mod _ 3
  have hsmall : 2 * (BitVec.ofInt 64 value &&& 7#64).toNat < 18446744073709551616 := by omega
  rw [BitVec.toInt_eq_toNat_of_lt hsmall, hnat, BitVec.toNat_ofInt]
  omega

end Dart
