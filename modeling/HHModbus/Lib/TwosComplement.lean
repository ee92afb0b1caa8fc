import Mathlib.Data.Int.Bitwise
import Mathlib.Data.Nat.Bitwise
import Mathlib.Tactic.LinearCombination
import Mathlib.Tactic.Ring

/-!
# Bit operations on unbounded integers

A negative integer has infinitely many leading ones. A mask of low bits is then a remainder, and the
bits put below a shifted integer are added to it.
-/
namespace TwosComplement

theorem land_zero (a : Int) : Int.land a 0 = 0 := by
  cases a with
  | ofNat n => exact congrArg Int.ofNat (Nat.and_zero n)
  | negSucc n =>
    have empty : Nat.ldiff 0 n = 0 := Nat.eq_of_testBit_eq fun i => by simp [Nat.testBit_ldiff]
    exact congrArg Int.ofNat empty

theorem lor_zero (a : Int) : Int.lor a 0 = a := by
  cases a with
  | ofNat n => exact congrArg Int.ofNat (Nat.or_zero n)
  | negSucc n =>
    have whole : Nat.ldiff n 0 = n := Nat.eq_of_testBit_eq fun i => by simp [Nat.testBit_ldiff]
    exact congrArg Int.negSucc whole

/-- The remainder of an integer, from the one of its leading bits. -/
theorem bit_emod (digit : Bool) (a : Int) (k : Nat) :
    Int.bit digit a % 2 ^ (k + 1) = Int.bit digit (a % 2 ^ k) := by
  have power : (2 : Int) ^ (k + 1) = 2 * 2 ^ k := pow_succ' 2 k
  have positive : (0 : Int) < 2 ^ k := Int.pow_pos (by decide)
  have low := Int.emod_nonneg a positive.ne'
  have high := Int.emod_lt_of_pos a positive
  have parts : Int.bit digit a = Int.bit digit (a % 2 ^ k) + 2 ^ (k + 1) * (a / 2 ^ k) := by
    rw [Int.bit_val, Int.bit_val, power]
    have division := Int.emod_add_mul_ediv a (2 ^ k)
    calc 2 * a + (bif digit then 1 else 0)
        = 2 * (a % 2 ^ k + 2 ^ k * (a / 2 ^ k)) + (bif digit then 1 else 0) := by rw [division]
      _ = 2 * (a % 2 ^ k) + (bif digit then 1 else 0) + 2 * 2 ^ k * (a / 2 ^ k) := by ring
  rw [parts, Int.add_mul_emod_self_left]
  apply Int.emod_eq_of_lt
  · rw [Int.bit_val]
    cases digit <;> simp <;> omega
  · rw [Int.bit_val, power]
    cases digit <;> simp <;> omega

theorem land_mask (a : Int) (k : Nat) : Int.land a (2 ^ k - 1) = a % 2 ^ k := by
  induction k generalizing a with
  | zero => simpa using land_zero a
  | succ k ih =>
    have mask : (2 : Int) ^ (k + 1) - 1 = Int.bit true (2 ^ k - 1) := by
      rw [Int.bit_val, cond_true, pow_succ']
      ring
    -- The lowest bit stays, and the others are masked by one bit less.
    calc Int.land a (2 ^ (k + 1) - 1)
        = Int.land (Int.bit a.bodd a.div2) (Int.bit true (2 ^ k - 1)) := by rw [mask, Int.bit_decomp]
      _ = Int.bit a.bodd (a.div2 % 2 ^ k) := by rw [Int.land_bit, ih, Bool.and_true]
      _ = a % 2 ^ (k + 1) := by rw [← bit_emod, Int.bit_decomp]

theorem lor_shifted (a : Int) {b : Int} {k : Nat} (nonneg : 0 ≤ b) (bound : b < 2 ^ k) :
    Int.lor (a * 2 ^ k) b = a * 2 ^ k + b := by
  induction k generalizing b with
  | zero =>
    obtain rfl : b = 0 := by
      rw [pow_zero] at bound
      omega
    rw [lor_zero, add_zero]
  | succ k ih =>
    have digits := Int.bodd_add_div2 b
    have shifted : a * 2 ^ (k + 1) = Int.bit false (a * 2 ^ k) := by
      rw [Int.bit_val, cond_false, pow_succ']
      ring
    have leading : 0 ≤ b.div2 ∧ b.div2 < 2 ^ k := by
      rw [pow_succ'] at bound
      cases odd : b.bodd <;> rw [odd] at digits <;> simp at digits <;> omega
    -- The lowest bit is the one of `b`.
    calc Int.lor (a * 2 ^ (k + 1)) b
        = Int.lor (Int.bit false (a * 2 ^ k)) (Int.bit b.bodd b.div2) := by
          rw [shifted, Int.bit_decomp]
      _ = Int.bit b.bodd (a * 2 ^ k + b.div2) := by
          rw [Int.lor_bit, ih leading.1 leading.2, Bool.false_or]
      _ = a * 2 ^ (k + 1) + b := by
          rw [Int.bit_val, pow_succ']
          linear_combination digits

end TwosComplement
