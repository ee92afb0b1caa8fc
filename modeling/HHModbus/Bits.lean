import Mathlib.Data.Nat.Bitwise

/-! `helpers.set_bit` and `helpers.get_bit_bool` on register contents. -/
namespace HHModbus

/-- `set_bit`: clear the bit with `value & ~mask`, then set it again if asked to. -/
def setBit (value bitPosition : Nat) (newBitValue : Bool) : Nat :=
  let mask := 1 <<< bitPosition
  -- On the naturals `value & ~mask` is the part of `value` that `value & mask` is not.
  let cleared := value ^^^ (value &&& mask)
  if newBitValue then cleared ||| mask else cleared

/-- `get_bit_bool`: `(modbus_value >> bit_position) & 1 == 1`. -/
def getBitBool (modbusValue bitPosition : Nat) : Bool :=
  (modbusValue >>> bitPosition) &&& 1 == 1

theorem getBitBool_eq_testBit (value bit : Nat) : getBitBool value bit = value.testBit bit := by
  have one : (value >>> bit) &&& 1 = (value >>> bit) % 2 := Nat.and_one_is_mod _
  rw [getBitBool, one, Nat.testBit_eq_decide_div_mod_eq, Nat.shiftRight_eq_div_pow]
  rfl

private theorem testBit_mask (bit i : Nat) : (1 <<< bit).testBit i = decide (bit = i) := by
  rw [Nat.one_shiftLeft, Nat.testBit_two_pow]

theorem testBit_setBit (value bit : Nat) (b : Bool) (i : Nat) :
    (setBit value bit b).testBit i = if bit = i then b else value.testBit i := by
  have cleared : (value ^^^ (value &&& 1 <<< bit)).testBit i =
      (value.testBit i && !decide (bit = i)) := by
    rw [Nat.testBit_xor, Nat.testBit_and, testBit_mask]
    cases value.testBit i <;> simp
  cases b with
  | false => by_cases same : bit = i <;> simp [setBit, cleared, same]
  | true =>
    simp only [setBit, if_true, Nat.testBit_or, cleared, testBit_mask]
    by_cases same : bit = i <;> simp [same]

@[simp] theorem testBit_setBit_self (value bit : Nat) (b : Bool) :
    (setBit value bit b).testBit bit = b := by
  rw [testBit_setBit, if_pos rfl]

theorem testBit_setBit_of_ne (value : Nat) {bit i : Nat} (b : Bool) (h : bit ≠ i) :
    (setBit value bit b).testBit i = value.testBit i := by
  rw [testBit_setBit, if_neg h]

/-- Setting a list of bits to one value. -/
theorem testBit_foldl_setBit (bits : List Nat) (b : Bool) (value i : Nat) :
    (bits.foldl (fun v bit => setBit v bit b) value).testBit i =
      if i ∈ bits then b else value.testBit i := by
  induction bits generalizing value with
  | nil => rfl
  | cons bit bits ih =>
    rw [List.foldl_cons, ih, testBit_setBit]
    by_cases later : i ∈ bits
    · rw [if_pos later, if_pos (List.mem_cons_of_mem _ later)]
    · by_cases same : bit = i
      · simp [same]
      · simp [later, same, Ne.symm same]

/-- Setting a list of bits to one value leaves every other bit alone. -/
theorem testBit_foldl_setBit_of_notMem (bits : List Nat) (b : Bool) (value i : Nat)
    (h : i ∉ bits) : (bits.foldl (fun v bit => setBit v bit b) value).testBit i = value.testBit i := by
  rw [testBit_foldl_setBit, if_neg h]

end HHModbus
