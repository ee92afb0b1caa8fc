import Mathlib.Algebra.Order.Floor.Ring
import Mathlib.Data.Rat.Floor
import Mathlib.Data.Nat.Bitwise
import Mathlib.Tactic.Linarith
import HHModbus.SunsynkSensors

/-!
# Decoding a Sun-Synk map beside the library it comes from

`Sensor.reg_to_value` of the bundled `sunsynk` library, and when the entity built from the map
publishes the same value.
-/
namespace HHModbus

/-- Reading `bits` bits as a number. -/
def readBits (signed : Bool) (bits : Nat) (n : Nat) : Int :=
  if signed then (n : Int).bmod (2 ^ bits) else n

/-- `unpack_value`: a pair has the low word first; other counts raise. -/
def unpackValue (regs : List Nat) (signed : Bool) : Option Int :=
  match regs with
  | [w] => some (readBits signed 16 w)
  | [w0, w1] => some (readBits signed 32 (w0 + 65536 * w1))
  | _ => none

/-- `int_round`, to two decimals; a tie goes to the even digit. -/
def intRound (q : ℚ) : ℚ :=
  let low := ⌊q * 100⌋
  let rest := q * 100 - low
  if rest < 1 / 2 ∨ (rest = 1 / 2 ∧ low % 2 = 0) then low / 100 else (low + 1) / 100

/-- A numeric `Sensor`; its subclasses with a `reg_to_value` of their own are not. -/
structure LibrarySensor where
  address : List Nat
  name : String
  factor : ℚ := 1
  bitmask : Nat := 0

namespace LibrarySensor

def masked (l : LibrarySensor) (regs : List Nat) : List Nat :=
  if l.bitmask ≠ 0 then regs.map (· &&& l.bitmask) else regs

def regToValue (l : LibrarySensor) (regs : List Nat) : Option ℚ :=
  (unpackValue (l.masked regs) (l.factor < 0)).map fun value => intRound (value * |l.factor|)

end LibrarySensor

namespace SensorDefinition

variable (e : SensorDefinition) (l : LibrarySensor)

/-- What the entity multiplies with; multiplier 0 marks a plain number. -/
def scale : ℚ := if e.multiplier = 0 then 1 else e.multiplier

/-- The library sensor reads the same registers whole and scales by the same amount. -/
structure Corresponds : Prop where
  registers : e.register = l.address
  factor : |e.scale| = |l.factor|
  whole : l.bitmask = 0

/-- The entity shows what the library computes. -/
def Agrees (words : List Nat) : Prop :=
  ∃ q, ((e.sensor 0).convertValue words).bind SensorValue.number = some q ∧
    l.regToValue words = some (intRound q)

/-- The data types of pairs that are read as the library reads them, low word first. -/
def lowWordFirst : Bool := e.dataType = some .u32le ∨ e.dataType = some .s32le

/-- Whether the entity reads so many words as a signed number. -/
def readsSigned (words : List Nat) : Bool :=
  if words.length = 1 then e.dataType = some .s16
  else e.dataType ≠ some .u32 ∧ e.dataType ≠ some .u32le

/-- The contents on which entity and library agree. A negative multiplier, which is the
library's mark of a signed value, turns the sign of the entity's value. -/
def SameReading (words : List Nat) : Prop :=
  match words with
  | [w] =>
    if e.multiplier < 0 then w = 0 ∨ (w = 32768 ∧ e.readsSigned [w] ≠ decide (l.factor < 0))
    else e.readsSigned [w] = decide (l.factor < 0) ∨ w < 32768
  | [w0, w1] =>
    if e.multiplier < 0 then
      w0 = 0 ∧ (w1 = 0 ∨
        (w1 = 32768 ∧ e.lowWordFirst ∧ e.readsSigned [w0, w1] ≠ decide (l.factor < 0)))
    else
      (e.lowWordFirst ∨ w0 = w1) ∧
        (e.readsSigned [w0, w1] = decide (l.factor < 0) ∨ w1 < 32768)
  | _ => False

/-! ### The decoders as readings of bits -/

theorem signedWord_eq {w : Nat} (fits : w < 65536) : signedWord w = readBits true 16 w := by
  have top : w &&& 0x8000 = (w.testBit 15).toNat * 32768 := Nat.and_two_pow w 15
  have bit : w.testBit 15 = decide (32768 ≤ w) := by
    rw [Nat.testBit_eq_decide_div_mod_eq]
    exact decide_eq_decide.mpr (by omega)
  simp only [signedWord, top, bit, readBits, if_true, Int.bmod_def]
  split <;> by_cases high : 32768 ≤ w <;> simp_all <;> omega

theorem combineU32_pair {hi lo : Nat} (hiFits : hi < 65536) (loFits : lo < 65536) :
    combineU32 [hi, lo] = hi * 65536 + lo := by
  have mask (w : Nat) (fits : w < 65536) : w &&& 0xFFFF = w := by
    rw [show 0xFFFF = 2 ^ 16 - 1 from rfl, Nat.and_two_pow_sub_one_eq_mod, Nat.mod_eq_of_lt fits]
  simp only [combineU32, List.getD_cons_zero, List.getD_cons_succ, mask _ hiFits, mask _ loFits]
  rw [← Nat.shiftLeft_add_eq_or_of_lt loFits, Nat.shiftLeft_eq]

theorem splitS32_pair {hi lo : Nat} (hiFits : hi < 65536) (loFits : lo < 65536) :
    splitS32 [hi, lo] = readBits true 32 (hi * 65536 + lo) := by
  have mask : lo &&& 0xFFFF = lo := by
    rw [show 0xFFFF = 2 ^ 16 - 1 from rfl, Nat.and_two_pow_sub_one_eq_mod, Nat.mod_eq_of_lt loFits]
  simp only [splitS32, List.getD_cons_zero, List.getD_cons_succ, mask, signedWord_eq hiFits,
    readBits, if_true, Int.bmod_def]
  omega

/-- The bits of a pair, in the entity's word order. -/
def pairBits (w0 w1 : Nat) : Nat :=
  if e.lowWordFirst then w0 + 65536 * w1 else w1 + 65536 * w0

variable {e l}

theorem scaleValue_number (n : Int) : (scaleValue n e.multiplier).number = some (n * e.scale) := by
  unfold scaleValue scale
  by_cases plain : e.multiplier = 0
  · simp [plain, SensorValue.number]
  · by_cases one : e.multiplier = 1
    · simp [one, SensorValue.number]
    · simp [plain, one, SensorValue.number]

theorem convertValue_single {w : Nat} (count : e.register.length = 1) (fits : w < 65536) :
    ((e.sensor 0).convertValue [w]).bind SensorValue.number =
      some (readBits (e.readsSigned [w]) 16 w * e.scale) := by
  have signed : (if e.dataType = some .s16 ∧ 32767 < w then (w : Int) - 65536 else w) =
      readBits (e.readsSigned [w]) 16 w := by
    by_cases s16 : e.dataType = some .s16
    · simp only [readsSigned, readBits, s16, List.length_singleton, true_and, decide_true, if_true,
        Int.bmod_def]
      split <;> omega
    · simp [readsSigned, readBits, s16]
  simp only [BaseSensor.convertValue, convertRawValue, sensor, count]
  simp [signed, scaleValue_number]

theorem convertValue_pair {w0 w1 : Nat} (count : e.register.length = 2) (fits0 : w0 < 65536)
    (fits1 : w1 < 65536) :
    ((e.sensor 0).convertValue [w0, w1]).bind SensorValue.number =
      some (readBits (e.readsSigned [w0, w1]) 32 (e.pairBits w0 w1) * e.scale) := by
  have combined : combineWords e.dataType [w0, w1] =
      readBits (e.readsSigned [w0, w1]) 32 (e.pairBits w0 w1) := by
    have high := combineU32_pair fits0 fits1
    have low := combineU32_pair fits1 fits0
    have highSigned := splitS32_pair fits0 fits1
    have lowSigned := splitS32_pair fits1 fits0
    rcases type : e.dataType with - | (_ | _ | _ | _ | _ | _ | _) <;>
      simp [combineWords, combineU32le, splitS32le, readsSigned, pairBits, lowWordFirst, type, high,
        low, highSigned, lowSigned, readBits, Nat.add_comm, Nat.mul_comm]
  simp only [BaseSensor.convertValue, convertRawValue, sensor, count]
  simp [combined, scaleValue_number]

theorem intRound_of_hundredths {q : ℚ} (n : Int) (whole : q * 100 = n) : intRound q = q := by
  simp only [intRound, whole, Int.floor_intCast, sub_self]
  simp
  linarith

theorem scale_eq (same : e.Corresponds l) :
    e.scale = if e.multiplier < 0 then -|l.factor| else |l.factor| := by
  rw [← same.factor]
  unfold scale
  split <;> split <;> simp_all [abs_of_neg, abs_of_nonneg]

theorem scale_ne_zero : e.scale ≠ 0 := by
  unfold scale
  split <;> simp_all

/-- What is left to compare are the two readings of the bits. -/
theorem agrees_iff (same : e.Corresponds l) (hundredths : ∃ m : Int, e.scale * 100 = m)
    {words : List Nat} {n k : Int}
    (entity : ((e.sensor 0).convertValue words).bind SensorValue.number = some (n * e.scale))
    (library : unpackValue words (l.factor < 0) = some k) :
    e.Agrees l words ↔ if e.multiplier < 0 then -n = k else n = k := by
  obtain ⟨m, whole⟩ := hundredths
  have nonzero : |l.factor| ≠ 0 := by
    rw [← same.factor]
    exact abs_ne_zero.mpr scale_ne_zero
  have entityRound : intRound (n * e.scale) = n * e.scale :=
    intRound_of_hundredths (n * m) (by push_cast; rw [← whole]; ring)
  have libraryRound : intRound (k * |l.factor|) = k * |l.factor| := by
    have scaled := scale_eq same
    split at scaled
    · exact intRound_of_hundredths (-(k * m)) (by push_cast; rw [← whole, scaled]; ring)
    · exact intRound_of_hundredths (k * m) (by push_cast; rw [← whole, scaled]; ring)
  have value : l.regToValue words = some (k * |l.factor| : ℚ) := by
    simp [LibrarySensor.regToValue, LibrarySensor.masked, same.whole, library, libraryRound]
  have equal : e.Agrees l words ↔ (k : ℚ) * |l.factor| = n * e.scale := by
    simp [Agrees, entity, value, entityRound]
  rw [equal, scale_eq same]
  split
  · rw [mul_neg, ← neg_mul, mul_left_inj' nonzero]
    exact_mod_cast eq_comm
  · rw [mul_left_inj' nonzero]
    exact_mod_cast eq_comm

/-- Two readings of one 16-bit word. -/
theorem readBits_word_iff {w : Nat} (fits : w < 65536) (signed signed' : Bool) :
    (readBits signed 16 w = readBits signed' 16 w ↔ signed = signed' ∨ w < 32768) ∧
    (-readBits signed 16 w = readBits signed' 16 w ↔ w = 0 ∨ (w = 32768 ∧ signed ≠ signed')) := by
  cases signed <;> cases signed' <;> simp [readBits, Int.bmod_def] <;> omega

/-- Two readings of a pair, of which the second has the low word first. -/
theorem readBits_pair_iff {w0 w1 : Nat} (fits0 : w0 < 65536) (fits1 : w1 < 65536)
    (signed signed' : Bool) :
    (readBits signed 32 (e.pairBits w0 w1) = readBits signed' 32 (w0 + 65536 * w1) ↔
      (e.lowWordFirst ∨ w0 = w1) ∧ (signed = signed' ∨ w1 < 32768)) ∧
    (-readBits signed 32 (e.pairBits w0 w1) = readBits signed' 32 (w0 + 65536 * w1) ↔
      w0 = 0 ∧ (w1 = 0 ∨ (w1 = 32768 ∧ e.lowWordFirst ∧ signed ≠ signed'))) := by
  have read (s : Bool) (n : Nat) (fits : n < 4294967296) :
      readBits s 32 n = if s = true ∧ 2147483648 ≤ n then (n : Int) - 4294967296 else n := by
    cases s
    · simp [readBits]
    · simp only [readBits, if_true, Int.bmod_def, true_and]
      omega
  have fits : e.pairBits w0 w1 < 4294967296 := by
    unfold pairBits
    split <;> omega
  rw [read _ _ fits, read _ (w0 + 65536 * w1) (by omega)]
  unfold pairBits
  cases low : e.lowWordFirst
  · -- Swapped words are the same number, or opposite ones, for equal words only.
    simp only [Bool.false_eq_true, if_false, false_or, false_and, and_false, or_false]
    cases signed <;> cases signed' <;> simp <;> omega
  · simp only [if_true, true_or, true_and]
    cases signed <;> cases signed' <;> simp <;> omega

end SensorDefinition

/-- The entries of the map, group by group. -/
def sunsynkEntries : List SensorDefinition := sunsynkSinglePhaseSensors.flatMap (·.entities)

theorem sunsynkEntries_hundredths :
    ∀ e ∈ sunsynkEntries, ∃ m : Int, e.scale * 100 = m := by
  have whole : ∀ e ∈ sunsynkEntries, (e.scale * 100).den = 1 := by decide +kernel
  intro e member
  exact ⟨(e.scale * 100).num, ((Rat.den_eq_one_iff _).mp (whole e member)).symm⟩

/-- **When an entity of the Sun-Synk map agrees with the library**, up to the library's
rounding: for every entry with the registers and the factor of a library sensor, and all
contents of these registers. -/
theorem sunsynk_agrees_iff (e : SensorDefinition) (member : e ∈ sunsynkEntries) (l : LibrarySensor)
    (same : e.Corresponds l) (words : List Nat) (length : words.length = e.register.length)
    (fits : ∀ w ∈ words, w < 65536) : e.Agrees l words ↔ e.SameReading l words := by
  have hundredths := sunsynkEntries_hundredths e member
  match words with
  | [] => exact absurd (List.length_eq_zero_iff.mp length.symm) e.register_ne
  | [w] =>
    have entity := SensorDefinition.convertValue_single length.symm (fits w (by simp))
    obtain ⟨plus, minus⟩ := SensorDefinition.readBits_word_iff (fits w (by simp))
      (e.readsSigned [w]) (l.factor < 0)
    rw [SensorDefinition.agrees_iff same hundredths entity rfl, plus, minus]
    rfl
  | [w0, w1] =>
    have fits0 := fits w0 (by simp)
    have fits1 := fits w1 (by simp)
    have entity := SensorDefinition.convertValue_pair length.symm fits0 fits1
    obtain ⟨plus, minus⟩ := SensorDefinition.readBits_pair_iff (e := e) fits0 fits1
      (e.readsSigned [w0, w1]) (l.factor < 0)
    rw [SensorDefinition.agrees_iff same hundredths entity rfl, plus, minus]
    rfl
  | w0 :: w1 :: w2 :: rest =>
    -- The library has no number for three registers or more.
    apply iff_of_false
    · rintro ⟨q, -, read⟩
      simp [LibrarySensor.regToValue, LibrarySensor.masked, same.whole, unpackValue] at read
    · exact id

/-- Register 60 counts 0.1 kWh, of which the library's sensor 10 is 1.0 and the map's −1.0. -/
def dayActiveEnergy : SensorDefinition := .single "Day Active Energy" 60 (-1/10)

def libraryDayActiveEnergy : LibrarySensor :=
  { address := [60], name := "Day active energy", factor := -1/10 }

theorem dayActiveEnergy_mem : dayActiveEnergy ∈ sunsynkEntries := List.mem_of_getElem? (i := 5) rfl

theorem dayActiveEnergy_corresponds : dayActiveEnergy.Corresponds libraryDayActiveEnergy :=
  ⟨rfl, by decide +kernel, rfl⟩

theorem sunsynk_agrees_iff_dayActiveEnergy :
    dayActiveEnergy.Agrees libraryDayActiveEnergy [0] ↔
      dayActiveEnergy.SameReading libraryDayActiveEnergy [0] :=
  sunsynk_agrees_iff dayActiveEnergy dayActiveEnergy_mem libraryDayActiveEnergy
    dayActiveEnergy_corresponds [0] rfl (by decide)

theorem dayActiveEnergy_turned :
    dayActiveEnergy ∈ sunsynkEntries ∧ dayActiveEnergy.Corresponds libraryDayActiveEnergy ∧
      ((dayActiveEnergy.sensor 0).convertValue [10]).bind SensorValue.number = some (-1) ∧
      libraryDayActiveEnergy.regToValue [10] = some 1 ∧
      ¬ dayActiveEnergy.Agrees libraryDayActiveEnergy [10] := by
  have entity : ((dayActiveEnergy.sensor 0).convertValue [10]).bind SensorValue.number =
      some (-1) := by decide +kernel
  have library : libraryDayActiveEnergy.regToValue [10] = some 1 := by decide +kernel
  refine ⟨dayActiveEnergy_mem, dayActiveEnergy_corresponds, entity, library, ?_⟩
  rintro ⟨q, shown, computed⟩
  rw [entity, Option.some.injEq] at shown
  rw [library, ← shown] at computed
  revert computed
  decide +kernel

end HHModbus
