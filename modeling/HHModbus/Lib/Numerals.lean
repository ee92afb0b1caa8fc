import Mathlib.Data.List.DropRight

/-!
# Numerals in texts

The decimal digits of all scripts, and the integers that texts of them stand for.
-/
namespace Numerals

/-- The zeros of Unicode 15; each is followed by its nine other digits. -/
def decimalZeros : List Nat := [
  0x30, 0x660, 0x6F0, 0x7C0, 0x966, 0x9E6, 0xA66, 0xAE6, 0xB66, 0xBE6, 0xC66, 0xCE6, 0xD66, 0xDE6,
  0xE50, 0xED0, 0xF20, 0x1040, 0x1090, 0x17E0, 0x1810, 0x1946, 0x19D0, 0x1A80, 0x1A90, 0x1B50,
  0x1BB0, 0x1C40, 0x1C50, 0xA620, 0xA8D0, 0xA900, 0xA9D0, 0xA9F0, 0xAA50, 0xABF0, 0xFF10, 0x104A0,
  0x10D30, 0x11066, 0x110F0, 0x11136, 0x111D0, 0x112F0, 0x11450, 0x114D0, 0x11650, 0x116C0, 0x11730,
  0x118E0, 0x11950, 0x11C50, 0x11D50, 0x11DA0, 0x11F50, 0x16A60, 0x16AC0, 0x16B50, 0x1D7CE, 0x1D7D8,
  0x1D7E2, 0x1D7EC, 0x1D7F6, 0x1E140, 0x1E2F0, 0x1E4F0, 0x1E950, 0x1FBF0]

/-- The value of a decimal digit of any script. -/
def decimalDigit (c : Char) : Option Nat :=
  (decimalZeros.find? fun first => first ≤ c.toNat ∧ c.toNat < first + 10).map fun first => c.toNat - first

/-- The blanks around a numeral that are ignored. -/
def isBlank (c : Char) : Bool :=
  decide (c.toNat ∈ [0x20, 0x85, 0xA0, 0x1680, 0x2028, 0x2029, 0x202F, 0x205F, 0x3000]) ||
    decide (9 ≤ c.toNat ∧ c.toNat ≤ 13) || decide (0x2000 ≤ c.toNat ∧ c.toNat ≤ 0x200A)

/-- The digits of a numeral, of which two may have an underscore between them. -/
def intDigits (value : Nat) : List Char → Option Nat
  | [] => some value
  -- `1_0` is 10, but neither `1__0` nor `10_` is a numeral.
  | '_' :: c :: rest => (decimalDigit c).bind fun digit => intDigits (10 * value + digit) rest
  | c :: rest => (decimalDigit c).bind fun digit => intDigits (10 * value + digit) rest

def unsignedInt : List Char → Option Nat
  | [] => none
  | c :: rest => (decimalDigit c).bind fun digit => intDigits digit rest

/-- The integer that a text stands for, as Python's `int` reads it; `none` is its `ValueError`. -/
def pythonInt (text : List Char) : Option Int :=
  match (text.dropWhile isBlank).rdropWhile isBlank with
  | '-' :: rest => (unsignedInt rest).map fun n => -(n : Int)
  | '+' :: rest => (unsignedInt rest).map fun n => (n : Int)
  | digits => (unsignedInt digits).map fun n => (n : Int)

end Numerals
