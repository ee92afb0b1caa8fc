import Mathlib.Algebra.Order.Field.Rat
import HHModbus.SensorGroup

/-!
# Number entities

`SolisNumberEntity.set_native_value`, which turns a number into the word it queues, next to
`convert_value`, which shows a word as a number.
-/
namespace HHModbus

/-- Python's `round` of a fraction: ties go to the even neighbour. -/
def roundRat (q : ℚ) : Int := q.num.sign * roundHalfEven q.num.natAbs q.den

structure NumberEntity where
  sensor : BaseSensor
  /-- The definition's `write_register`. -/
  writeRegister : Option Nat := none
  /-- `_attr_native_value`. -/
  nativeValue : Option ℚ := none

inductive SetOutcome where
  /-- `ZeroDivisionError`. -/
  | raised
  /-- The value shown from now on, and the single-register writes queued. -/
  | returned (nativeValue : Option ℚ) (queued : List (Nat × Int))
  deriving DecidableEq

namespace NumberEntity

/-- `_write_register`: without one of its own, a number of one register is written there. -/
def targetRegister (e : NumberEntity) : Option Nat :=
  match e.writeRegister, e.sensor.registrars with
  | some register, _ => some register
  | none, [register] => some register
  | none, _ => none

/-- The word for a rounded number. -/
def encode (e : NumberEntity) (rounded : Int) : Int :=
  if e.sensor.dataType = some .s16 then
    -- `& 0xFFFF` keeps the remainder modulo 65536, also of a negative number.
    max (-32768) (min 32767 rounded) % 65536
  else rounded

/-- `set_native_value`. -/
def setNativeValue (e : NumberEntity) (value : ℚ) : SetOutcome :=
  if e.nativeValue = some value then .returned e.nativeValue []
  else
    match e.targetRegister with
    | none => .returned e.nativeValue []
    | some register =>
      if e.sensor.multiplier = 0 then .raised
      else .returned (some value) [(register, e.encode (roundRat (value / e.sensor.multiplier)))]

/-- The number that `convert_value` makes of a word. -/
def decoded (e : NumberEntity) (word : Nat) : Option ℚ :=
  (e.sensor.convertValue [word]).bind SensorValue.number

/-- Set to the value decoded from a word that it does not show yet, the number queues that word. -/
def WriteInverts (e : NumberEntity) (word : Nat) : Prop :=
  e.nativeValue ≠ e.decoded word → ∃ value register, e.decoded word = some value ∧
    e.targetRegister = some register ∧ e.setNativeValue value = .returned (some value) [(register, word)]

/-! ### Rounding, decoding and encoding -/

theorem roundRat_intCast (n : Int) : roundRat n = n := by
  have whole : roundHalfEven n.natAbs 1 = n.natAbs := by simp [roundHalfEven, Nat.mod_one]
  rw [roundRat, Rat.num_intCast, Rat.den_intCast, whole, Int.sign_mul_natAbs]

/-- The signed or unsigned reading of a word. -/
def readWord (dataType : Option DataType) (word : Nat) : Int :=
  if dataType = some .s16 ∧ 32767 < word then (word : Int) - 65536 else word

theorem decoded_single (e : NumberEntity) (single : e.sensor.registrars.length = 1) (word : Nat) :
    e.decoded word = some (readWord e.sensor.dataType word *
      if e.sensor.multiplier = 0 then 1 else e.sensor.multiplier) := by
  unfold decoded BaseSensor.convertValue convertRawValue
  rw [single, if_neg (List.cons_ne_nil _ _), if_neg (by decide), if_neg (by decide)]
  simp only [List.getD_cons_zero, Option.bind_some, scaleValue]
  -- A multiplier of zero or one leaves the number as it is read.
  by_cases zero : e.sensor.multiplier = 0
  · rw [if_pos (.inl zero), if_pos zero, mul_one]
    rfl
  · rw [if_neg zero]
    by_cases one : e.sensor.multiplier = 1
    · rw [if_pos (.inr one), one, mul_one]
      rfl
    · rw [if_neg (by simp [zero, one])]
      rfl

theorem targetRegister_single (e : NumberEntity) (single : e.sensor.registrars.length = 1) :
    ∃ register, e.targetRegister = some register := by
  obtain ⟨r, registrars⟩ := List.length_eq_one_iff.mp single
  unfold targetRegister
  rw [registrars]
  cases e.writeRegister with
  | some register => exact ⟨register, rfl⟩
  | none => exact ⟨r, rfl⟩

/-- Encoding undoes the sign. -/
theorem encode_readWord (e : NumberEntity) {word : Nat} (bound : word < 65536) :
    e.encode (readWord e.sensor.dataType word) = word := by
  unfold encode readWord
  by_cases signed : e.sensor.dataType = some .s16
  · rw [if_pos signed]
    simp only [signed, true_and]
    split
    · omega
    · omega
  · rw [if_neg signed, if_neg (by simp [signed])]

/-- **When writing a number inverts reading it**: exactly if its multiplier is not zero. -/
theorem writeInverts_iff (e : NumberEntity) (single : e.sensor.registrars.length = 1)
    (word : Nat) (bound : word < 65536) :
    e.WriteInverts word ↔ e.sensor.multiplier ≠ 0 ∨ e.nativeValue = e.decoded word := by
  obtain ⟨register, target⟩ := e.targetRegister_single single
  have shown := e.decoded_single single word
  by_cases same : e.nativeValue = e.decoded word
  · simp [WriteInverts, same]
  · have changed : ∀ value, e.decoded word = some value → ¬ e.nativeValue = some value :=
      fun value read => read ▸ same
    constructor
    · -- Division by a zero multiplier raises before anything is queued.
      intro inverts
      left
      intro zero
      obtain ⟨value, _, read, _, set⟩ := inverts same
      rw [setNativeValue, if_neg (changed value read), target] at set
      simp only [if_pos zero] at set
      cases set
    · rintro (nonzero | shown_) _
      · -- The quotient is the signed word, which is whole.
        refine ⟨_, register, shown, target, ?_⟩
        rw [setNativeValue, if_neg (changed _ shown), target]
        simp only [if_neg nonzero]
        rw [mul_div_cancel_right₀ _ nonzero, roundRat_intCast, e.encode_readWord bound]
      · exact absurd shown_ same

/-- RC Grid Active Power, a signed setpoint in steps of 10 W. -/
def rcGridActivePower : NumberEntity where
  sensor := { BaseSensor.single 43133 with dataType := some .s16, multiplier := 10 }
  nativeValue := some 0

/-- The word 0xFF9C is -1000 W, which is written as that word again. -/
theorem writeInverts_iff_rcGridActivePower : rcGridActivePower.WriteInverts 65436 :=
  (writeInverts_iff rcGridActivePower rfl 65436 (by decide)).mpr (.inl (by decide))

/-- Inverter Enabled of a Sun-Synk inverter. -/
def inverterEnabled : NumberEntity where
  sensor := { BaseSensor.single 43 with multiplier := 0 }
  nativeValue := some 0

/-- It shows the word 1 as 1, and raises when it is set to that. -/
theorem inverterEnabled_raises : inverterEnabled.decoded 1 = some 1 ∧
    inverterEnabled.setNativeValue 1 = .raised ∧ ¬ inverterEnabled.WriteInverts 1 := by
  have shown : inverterEnabled.decoded 1 = some 1 := by decide
  have raises : inverterEnabled.setNativeValue 1 = .raised := by decide
  refine ⟨shown, raises, fun inverts => ?_⟩
  obtain ⟨value, register, read, -, set⟩ := inverts (by decide)
  rw [shown] at read
  rw [← Option.some.inj read, raises] at set
  cases set

end NumberEntity

end HHModbus
