import Mathlib.Data.Rat.Defs
import HHModbus.Lib.Numerals

/-!
# Register words of service calls

What the services of `async_setup` compute from the fields of a call before they queue
anything: rounding, 32-bit words, packed times and the dispatch bit fields.
-/
namespace HHModbus

open Numerals

/-- Python's `round` of the non-negative quotient `n / d`: ties go to the even neighbour. -/
def roundHalfEven (n d : Nat) : Nat :=
  let below := n / d
  let rest := n % d
  if 2 * rest < d ∨ (2 * rest = d ∧ below % 2 = 0) then below else below + 1

/-- `_s32_words`: a signed 32-bit value as two words, the high one first. -/
def s32Words (value : Int) : List Nat :=
  -- Two's complement of 32 bits.
  let raw := (value % 4294967296).toNat
  [(raw >>> 16) &&& 0xFFFF, raw &&& 0xFFFF]

/-- `_pv_limit_raw`, from the double that `float(percent) * 100` is. -/
def pvLimitRaw (percentTimes100 : ℚ) : Nat := roundHalfEven percentTimes100.num.toNat percentTimes100.den

/-- What `%H` matches, `2[0-3]|[0-1]\d|\d`, as a number; `\d` is a decimal digit of any script. -/
def hourField : List Char → Option Nat
  | [ones] => decimalDigit ones
  | ['2', ones] => if '0' ≤ ones ∧ ones ≤ '3' then (decimalDigit ones).map (20 + ·) else none
  | [tens, ones] =>
    if tens = '0' ∨ tens = '1' then return 10 * (← decimalDigit tens) + (← decimalDigit ones) else none
  | _ => none

/-- What `%M` matches, `[0-5]\d|\d`. -/
def minuteField : List Char → Option Nat
  | [ones] => decimalDigit ones
  | [tens, ones] =>
    if '0' ≤ tens ∧ tens ≤ '5' then return 10 * (← decimalDigit tens) + (← decimalDigit ones) else none
  | _ => none

/-- `packed_time`: `strptime(value, "%H:%M")`, hour in the high byte; `none` is its `ValueError`. -/
def packedTime (value : String) : Option Nat :=
  match value.toList.splitOn ':' with
  | [hours, minutes] => do
    let hour ← hourField hours
    let minute ← minuteField minutes
    return (hour <<< 8) ||| minute
  | _ => none

example : packedTime "7:05" = some 0x0705 := by decide

/-- The keys of `DISPATCH_MODES`. -/
inductive DispatchMode where
  | batteryHold
  | batteryCharge
  | batteryDischarge
  | gridImport
  | gridExport
  | gridPortImport
  | gridPortExport
  | selfConsumption
  | feedInPriority
  deriving DecidableEq, Repr

/-- The value for register 44105 and the sign of the power setpoint. -/
def DispatchMode.entry : DispatchMode → Nat × Int
  | batteryHold => (1, 0)
  | batteryCharge => (2, 1)
  | batteryDischarge => (2, -1)
  | gridImport => (3, -1)
  | gridExport => (3, 1)
  | gridPortImport => (4, -1)
  | gridPortExport => (4, 1)
  | selfConsumption => (5, 0)
  | feedInPriority => (6, 0)

/-- The power field: watts in steps of ten, signed by the mode. -/
def DispatchMode.powerRaw (mode : DispatchMode) (watts : Nat) : Int :=
  mode.entry.2 * roundHalfEven watts 10

/-- One two-bit field of 44108: 0 leaves the inverter's setting alone. -/
def dispatchPair (value : Option Bool) (trueCode falseCode : Nat) : Nat :=
  match value with
  | none => 0
  | some true => trueCode
  | some false => falseCode

/-- `_dispatch_function_value`. -/
def dispatchFunctionValue (pvShutdown allowGridCharge disableDischarge batteryReserve
    pvLimit : Option Bool) : Nat :=
  dispatchPair pvShutdown 2 1 |||
  (dispatchPair allowGridCharge 1 2 <<< 4) |||
  (dispatchPair batteryReserve 2 1 <<< 8) |||
  (dispatchPair disableDischarge 2 1 <<< 10) |||
  (dispatchPair pvLimit 2 1 <<< 14)

/-- `_dispatch_system_limits`: the switch word and the two caps in steps of 100 W. -/
def dispatchSystemLimits (importLimitWatts exportLimitWatts : Option Nat) : List Nat :=
  let raw (watts : Nat) : Nat := (watts + 100 / 2) / 100
  -- An omitted cap has its switch off and the inverter's default 0xFFFF.
  let importSwitch := if importLimitWatts.isSome then 1 else 0
  let exportSwitch := if exportLimitWatts.isSome then 2 else 0
  [importSwitch ||| exportSwitch, (importLimitWatts.map raw).getD 0xFFFF,
    (exportLimitWatts.map raw).getD 0xFFFF]

@[simp] theorem length_s32Words (value : Int) : (s32Words value).length = 2 := rfl

@[simp] theorem length_dispatchSystemLimits (importLimitWatts exportLimitWatts : Option Nat) :
    (dispatchSystemLimits importLimitWatts exportLimitWatts).length = 3 := rfl

end HHModbus
