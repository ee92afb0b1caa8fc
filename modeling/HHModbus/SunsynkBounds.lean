import Mathlib.Data.Rat.Floor
import HHModbus.SunsynkSettings

/-!
# Numbers that bound each other

The limits of a number may be other numbers: the shutdown capacity of the battery is at most its low
capacity, which is at least the shutdown capacity. A command is cut to what the inverter's state shows
of these when it is written.
-/
namespace HHModbus

open Transition

/-- `state.get` of a sensor with registers; `none` stands for the default. -/
def InverterState.get (st : InverterState) (key : SensorKey) : Option ValType :=
  (st.values.find? fun entry => entry.1.key = key).map Prod.snd

/-- `as_num`, with the numbers that texts are read as. -/
def asNum (float : String → Option ℚ) : ValType → ℚ
  | .num q => q
  | .bool b => if b then 1 else 0
  | .none => 0
  | .str text => (float text).getD 0

/-- A `min` or `max`. -/
inductive NumberBound
  | const (q : ℚ)
  | sensor (s : StateSensor)

/-- `resolve_num`. -/
def NumberBound.resolve (float : String → Option ℚ) (st : InverterState) (default : ℚ) : NumberBound → ℚ
  | .const q => q
  | .sensor s => asNum float ((st.get s.key).getD (.num default))

/-- `int` of a number: the part after the point is dropped. -/
def truncated (q : ℚ) : Int := if 0 ≤ q then ⌊q⌋ else ⌈q⌉

/-- `pack_value` in one register without a sign; other numbers raise. -/
def packWord (n : Int) : Option (List Nat) :=
  if 0 ≤ n ∧ n < 65536 then some [n.toNat] else none

/-- What is read of a number in one register. -/
def numberSensor (register : Nat) (name : String) : StateSensor where
  address := [register]
  name := name
  bitmask := 0
  discrete := true
  regToValue regs := (LibrarySensor.regToValue { address := [register], name := name } regs).elim .none .num

/-- A `NumberRWSensor` of one register with factor 1. -/
structure NumberRWSensor where
  register : Nat
  name : String
  min : NumberBound := .const 0
  max : NumberBound := .const 100

namespace NumberRWSensor

variable (x : NumberRWSensor)

def sensor : StateSensor := numberSensor x.register x.name

/-- What a number is cut to. -/
def clamp (float : String → Option ℚ) (st : InverterState) (fval : ℚ) : ℚ :=
  -- The lower bound wins where the two contradict each other.
  Max.max (x.min.resolve float st 0) (Min.min (x.max.resolve float st 100) fval)

/-- `float` is `float(value)`; where it has no value it raises. -/
def valueToReg (float : String → Option ℚ) (value : String) (st : InverterState) : Option (List Nat) :=
  (float value).bind fun fval => packWord (truncated (x.clamp float st fval))

def setting (float : String → Option ℚ) : Setting where
  toStateSensor := x.sensor
  valueToReg := x.valueToReg float
  nonempty value st regs some := by
    obtain ⟨fval, -, packed⟩ := Option.bind_eq_some_iff.mp some
    unfold packWord at packed
    split at packed <;> cases packed
    simp
  single _ := ⟨x.register, rfl⟩
  fits := Nat.zero_lt_succ _

end NumberRWSensor

/-! ### The definitions -/

/-- The capacities of the single-phase map that bound each other. The restart capacity is not among
them: the shutdown capacity is its lower bound, and takes no account of it. -/
def singlePhaseCapacities : List NumberRWSensor := [
  { register := 217, name := "Battery shutdown capacity",
    max := .sensor (numberSensor 219 "Battery low capacity") },
  { register := 219, name := "Battery low capacity",
    min := .sensor (numberSensor 217 "Battery shutdown capacity"), max := .const 50 }]

/-- Those of the three-phase maps. -/
def threePhaseCapacities : List NumberRWSensor := [
  { register := 115, name := "Battery Shutdown Capacity",
    max := .sensor (numberSensor 117 "Battery Low Capacity") },
  { register := 117, name := "Battery Low Capacity",
    min := .sensor (numberSensor 115 "Battery Shutdown Capacity"),
    max := .sensor (numberSensor 116 "Battery Restart Capacity") },
  { register := 116, name := "Battery Restart Capacity",
    min := .sensor (numberSensor 117 "Battery Low Capacity") }]

/-- Numbers with registers of their own, each of which has those that it bounds as its bounds. -/
structure Mutual (table : List NumberRWSensor) : Prop where
  registers : ∀ x ∈ table, ∀ y ∈ table, x.register = y.register → x = y
  min : ∀ x ∈ table, ∀ s, x.min = .sensor s → ∃ y ∈ table, s = y.sensor ∧ y.max = .sensor x.sensor
  max : ∀ x ∈ table, ∀ s, x.max = .sensor s → ∃ y ∈ table, s = y.sensor ∧ y.min = .sensor x.sensor
  whole : ∀ x ∈ table, ∀ q, x.min = .const q ∨ x.max = .const q → ∃ n : Nat, q = n

theorem mutual_singlePhaseCapacities : Mutual singlePhaseCapacities := by
  constructor <;> simp [singlePhaseCapacities, NumberRWSensor.sensor]
  · exact ⟨⟨0, rfl⟩, ⟨50, rfl⟩⟩

theorem mutual_threePhaseCapacities : Mutual threePhaseCapacities := by
  constructor <;> simp [threePhaseCapacities, NumberRWSensor.sensor]
  · exact ⟨⟨0, rfl⟩, ⟨100, rfl⟩⟩

/-! ### One write -/

/-- The bound, as the registers have it. -/
def NumberBound.at (registers : Nat → Nat) : NumberBound → ℚ
  | .const q => q
  | .sensor s => registers (s.address.headD 0)

/-- Every number is within its bounds. -/
def InBounds (table : List NumberRWSensor) (registers : Nat → Nat) : Prop :=
  ∀ x ∈ table, x.min.at registers ≤ registers x.register ∧ registers x.register ≤ x.max.at registers

/-- The state shows what a register holds. -/
def InverterState.Shows (st : InverterState) (x : NumberRWSensor) (value : Nat) : Prop :=
  st.values.find? (fun entry => entry.1.key = x.sensor.key) = some (x.sensor, .num value)

variable {table : List NumberRWSensor} {registers : Nat → Nat} {x : NumberRWSensor}

@[simp] theorem at_const (q : ℚ) : (NumberBound.const q).at registers = q := rfl

@[simp] theorem at_sensor (z : NumberRWSensor) :
    (NumberBound.sensor z.sensor).at registers = registers z.register := rfl

/-- Those that the number bounds have it as a bound. -/
theorem inBounds_update (mutual_ : Mutual table) (inside : InBounds table registers) (member : x ∈ table) {v : Nat}
    (low : x.min.at registers ≤ v) (high : v ≤ x.max.at registers) :
    InBounds table (Function.update registers x.register v) := by
  have apart {y : NumberRWSensor} (inTable : y ∈ table) (other : y ≠ x) :
      Function.update registers x.register v y.register = registers y.register :=
    Function.update_of_ne (fun same => other (mutual_.registers y inTable x member same)) v registers
  have own : Function.update registers x.register v x.register = v := Function.update_self ..
  intro y inTable
  obtain ⟨above, below⟩ := inside y inTable
  by_cases same : y = x
  · -- The number itself; it may be a bound of its own.
    subst same
    rw [own]
    constructor
    · cases bound : y.min with
      | const q => simpa [bound] using low
      | sensor s =>
        obtain ⟨z, other, rfl, -⟩ := mutual_.min y inTable s bound
        by_cases itself : z = y
        · simp [itself]
        · -- The bound is another number, which stays as it is.
          simpa [apart other itself, bound] using low
    · cases bound : y.max with
      | const q => simpa [bound] using high
      | sensor s =>
        obtain ⟨z, other, rfl, -⟩ := mutual_.max y inTable s bound
        by_cases itself : z = y
        · simp [itself]
        · simpa [apart other itself, bound] using high
  · -- Another one, which the number may bound.
    rw [apart inTable same]
    constructor
    · cases bound : y.min with
      | const q => simpa [bound] using above
      | sensor s =>
        obtain ⟨z, other, rfl, back⟩ := mutual_.min y inTable s bound
        by_cases itself : z = x
        · subst itself
          -- The other one has this number as its lower bound, and is the upper bound of it.
          simpa [own, back] using high
        · simpa [apart other itself, bound] using above
    · cases bound : y.max with
      | const q => simpa [bound] using below
      | sensor s =>
        obtain ⟨z, other, rfl, back⟩ := mutual_.max y inTable s bound
        by_cases itself : z = x
        · subst itself
          -- Here it is the other way round.
          simpa [own, back] using low
        · simpa [apart other itself, bound] using below

/-- Only the registers of the numbers matter. -/
theorem at_congr (mutual_ : Mutual table) {registers' : Nat → Nat}
    (same : ∀ y ∈ table, registers' y.register = registers y.register) (member : x ∈ table) :
    x.min.at registers' = x.min.at registers ∧ x.max.at registers' = x.max.at registers := by
  constructor
  · cases bound : x.min with
    | const q => rfl
    | sensor s =>
      obtain ⟨y, other, rfl, -⟩ := mutual_.min x member s bound
      simp [same y other]
  · cases bound : x.max with
    | const q => rfl
    | sensor s =>
      obtain ⟨y, other, rfl, -⟩ := mutual_.max x member s bound
      simp [same y other]

theorem inBounds_congr (mutual_ : Mutual table) {registers' : Nat → Nat}
    (same : ∀ y ∈ table, registers' y.register = registers y.register) (inside : InBounds table registers) :
    InBounds table registers' := by
  intro y member
  rw [same y member, (at_congr mutual_ same member).1, (at_congr mutual_ same member).2]
  exact inside y member

/-- What the state shows is what the bounds are resolved to. -/
theorem resolve_eq_at (mutual_ : Mutual table) {float : String → Option ℚ} {st : InverterState}
    (shows_ : ∀ y ∈ table, st.Shows y (registers y.register)) (member : x ∈ table) (default : ℚ) :
    x.min.resolve float st default = x.min.at registers ∧ x.max.resolve float st default = x.max.at registers := by
  -- A bound that is a number is looked up by its key, where the state shows it.
  have known {y : NumberRWSensor} (inTable : y ∈ table) :
      (NumberBound.sensor y.sensor).resolve float st default = registers y.register := by
    have shown := shows_ y inTable
    unfold InverterState.Shows at shown
    simp [NumberBound.resolve, InverterState.get, shown, asNum]
  constructor
  · cases bound : x.min with
    | const q => rfl
    | sensor s =>
      obtain ⟨y, inTable, rfl, -⟩ := mutual_.min x member s bound
      exact known inTable
  · cases bound : x.max with
    | const q => rfl
    | sensor s =>
      obtain ⟨y, inTable, rfl, -⟩ := mutual_.max x member s bound
      exact known inTable

/-- A bound is a whole number. -/
theorem at_whole (registers : Nat → Nat) (mutual_ : Mutual table) (member : x ∈ table) :
    (∃ n : Nat, x.min.at registers = n) ∧ ∃ n : Nat, x.max.at registers = n := by
  constructor
  · cases bound : x.min with
    | const q => exact mutual_.whole x member q (.inl bound)
    | sensor s => exact ⟨_, rfl⟩
  · cases bound : x.max with
    | const q => exact mutual_.whole x member q (.inr bound)
    | sensor s => exact ⟨_, rfl⟩

/-- A number between whole numbers stays between them when its fraction is dropped. -/
theorem truncated_between {q : ℚ} {m n : Nat} (low : m ≤ q) (high : q ≤ n) :
    ∃ v : Nat, truncated q = v ∧ m ≤ v ∧ v ≤ n := by
  have positive : 0 ≤ q := le_trans (Nat.cast_nonneg m) low
  -- Above a natural number, to drop the fraction is to round down.
  refine ⟨⌊q⌋.toNat, ?_, ?_, ?_⟩
  · rw [truncated, if_pos positive, Int.toNat_of_nonneg (Int.floor_nonneg.mpr positive)]
  · have floor : (m : Int) ≤ ⌊q⌋ := Int.le_floor.mpr (by simpa using low)
    omega
  · have floor : (⌊q⌋ : ℚ) ≤ n := le_trans (Int.floor_le q) high
    have whole : ⌊q⌋ ≤ (n : Int) := by exact_mod_cast floor
    omega

/-- What is written is within the bounds, as the registers have them. -/
theorem valueToReg_between (mutual_ : Mutual table) {float : String → Option ℚ} {st : InverterState}
    (inside : InBounds table registers) (shows_ : ∀ y ∈ table, st.Shows y (registers y.register))
    (member : x ∈ table) {value : String} {regs : List Nat} (translated : x.valueToReg float value st = some regs) :
    ∃ v, regs = [v] ∧ v < 65536 ∧ x.min.at registers ≤ v ∧ v ≤ x.max.at registers := by
  obtain ⟨fval, -, packed⟩ := Option.bind_eq_some_iff.mp translated
  obtain ⟨⟨m, minIs⟩, ⟨n, maxIs⟩⟩ := at_whole registers mutual_ member
  -- The bounds themselves are in order, because the number in the register is between them.
  have order := le_trans (inside x member).1 (inside x member).2
  have clamped : x.clamp float st fval = Max.max (m : ℚ) (Min.min (n : ℚ) fval) := by
    rw [NumberRWSensor.clamp, (resolve_eq_at mutual_ shows_ member 0).1, (resolve_eq_at mutual_ shows_ member 100).2,
      minIs, maxIs]
  rw [minIs, maxIs] at order ⊢
  have high : Max.max (m : ℚ) (Min.min (n : ℚ) fval) ≤ n := max_le order (min_le_left _ _)
  obtain ⟨v, whole, above, below⟩ := truncated_between (le_max_left (m : ℚ) (Min.min (n : ℚ) fval)) high
  rw [clamped, whole, packWord] at packed
  split at packed
  case isTrue fits =>
    refine ⟨v, ?_, by omega, ?_, ?_⟩
    · simpa using packed.symm
    · exact_mod_cast above
    · exact_mod_cast below
  -- What does not fit a word raises, so that nothing is written.
  case isFalse => cases packed

/-! ### Reading back -/

theorem regToValue_word (w : Nat) : x.sensor.regToValue [w] = .num w := by
  have value : LibrarySensor.regToValue { address := [x.register], name := x.name } [w] = some (w : ℚ) := by
    have same : intRound (w : ℚ) = w := SensorDefinition.intRound_of_hundredths (w * 100) (by push_cast; rfl)
    have unsigned : ¬(1 : ℚ) < 0 := not_lt.mpr zero_le_one
    simpa [LibrarySensor.regToValue, LibrarySensor.masked, unpackValue, readBits, unsigned] using same
  simp [NumberRWSensor.sensor, numberSensor, value]

theorem find_update (st : InverterState) (newRegs : Registers) (key : SensorKey) :
    (st.update newRegs).values.find? (fun entry => entry.1.key = key) =
      (st.values.find? fun entry => entry.1.key = key).map fun entry => (entry.1, st.refreshed newRegs entry) := by
  rw [InverterState.update_values, List.find?_map]
  rfl

/-- A reading that brings the register, or leaves it as it is shown. -/
theorem shows_update {st : InverterState} {newRegs : Registers} {n v : Nat} (shown : st.Shows x n)
    (new : ∀ w, newRegs x.register = some w → w = v) (old : newRegs x.register = none → n = v) :
    (st.update newRegs).Shows x v := by
  unfold InverterState.Shows at shown ⊢
  rw [find_update, shown]
  cases known : newRegs x.register with
  | none =>
    -- The reading does not bring the register: the value is kept.
    have untouched : x.sensor.touched newRegs = false := by
      simp [StateSensor.touched, NumberRWSensor.sensor, numberSensor, known]
    simp [InverterState.refreshed, untouched, old known]
  | some w =>
    -- It does: the value is decoded again, from what is read now.
    obtain rfl := new w known
    have touched : x.sensor.touched newRegs = true := by
      simp [StateSensor.touched, NumberRWSensor.sensor, numberSensor, known]
    have decoded : x.sensor.decode (st.registers.update newRegs) = .num w := by
      rw [← regToValue_word (x := x)]
      simp [StateSensor.decode, NumberRWSensor.sensor, numberSensor, Registers.update, known]
    simp [InverterState.refreshed, touched, decoded]

end HHModbus
