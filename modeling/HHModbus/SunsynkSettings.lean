import HHModbus.SunsynkReading
import HHModbus.SunsynkWrites

/-!
# The switches and selects of the single-phase map

What a setting stands for in its register, which settings share a register, and that a setting
reads back as it was commanded last, whatever else has been written.
-/
namespace HHModbus

open Transition Connector

/-- `masked` of one register. -/
def maskedWord (bitmask w : Nat) : Nat := if bitmask ≠ 0 then w &&& bitmask else w

/-- With the factor 1. That the values are within the mask is asserted in `__post_init__`. -/
structure SwitchRWSensor where
  register : Nat
  name : String
  bitmask : Nat := 0
  on : Option Nat := none
  off : Nat := 0
  fits : bitmask < 65536 := by decide
  within : bitmask ≠ 0 → on.getD 0 &&& bitmask = on.getD 0 ∧ off &&& bitmask = off := by decide

namespace SwitchRWSensor

variable (s : SwitchRWSensor)

/-- The numeric sensor that the switch extends. -/
def library : LibrarySensor := { address := [s.register], name := s.name, bitmask := s.bitmask }

/-- `(self.on,) if self.on else self.masked((0xFF,))`. -/
def onRegister : Nat :=
  match s.on with
  | some (r + 1) => r + 1
  | some 0 | none => maskedWord s.bitmask 0xFF

/-- `boolOn` is the constant `BOOL_ON`. -/
def valueToReg (boolOn value : String) : List Nat := if value = boolOn then [s.onRegister] else [s.off]

def regToValue (regs : List Nat) : ValType :=
  match s.library.regToValue regs, s.on with
  | none, _ => .str ""
  | some res, some r => .bool (res == r)
  | some res, none => .bool (res != s.off)

def setting (boolOn : String) : Setting where
  address := [s.register]
  name := s.name
  bitmask := s.bitmask
  discrete := true
  regToValue := s.regToValue
  valueToReg value _ := some (s.valueToReg boolOn value)
  nonempty value _ regs some := by
    cases some
    unfold valueToReg
    split <;> simp
  single _ := ⟨s.register, rfl⟩
  fits := s.fits

end SwitchRWSensor

/-- `options` is a dictionary. -/
structure SelectRWSensor where
  register : Nat
  name : String
  bitmask : Nat := 0
  options : List (Nat × String)
  keys : (options.map Prod.fst).Nodup := by decide
  fits : bitmask < 65536 := by decide

namespace SelectRWSensor

variable (s : SelectRWSensor)

/-- The first register with the text. -/
def registerOf (value : String) : Option Nat := (s.options.find? fun o => o.2 = value).map Prod.fst

/-- `str(state.get(self, ""))`; a select shows one of its texts, or nothing. -/
def current (st : InverterState) : String :=
  match st.values.find? fun entry => entry.1.key = ([s.register], s.name) with
  | some (_, .str text) => text
  | some _ => "None"
  | none => ""

/-- The text that is written. It is the current one if the command is none of the options; where that
is none of them either, the recursion does not end. -/
def chosen (value : String) (st : InverterState) : String :=
  if (s.registerOf value).isSome then value else s.current st

def valueToReg (value : String) (st : InverterState) : Option (List Nat) :=
  (s.registerOf (s.chosen value st)).map fun r => regWithin s.bitmask [r]

def regToValue (regs : List Nat) : ValType :=
  match s.options.lookup (maskedWord s.bitmask (regs.headD 0)) with
  | some text => .str text
  | none => .none

def setting : Setting where
  address := [s.register]
  name := s.name
  bitmask := s.bitmask
  discrete := true
  regToValue := s.regToValue
  valueToReg := s.valueToReg
  nonempty value st regs some := by
    obtain ⟨r, -, rfl⟩ := Option.map_eq_some_iff.mp some
    simp only [regWithin]
    split <;> simp
  single _ := ⟨s.register, rfl⟩
  fits := s.fits

end SelectRWSensor

/-! ### The map -/

def progChargeOptions : List (Nat × String) :=
  [(0, "No Grid or Gen"), (1, "Allow Grid"), (2, "Allow Gen"), (3, "Allow Grid & Gen")]

def progModeOptions : List (Nat × String) :=
  [(0, "None"), (4, "General"), (8, "Backup"), (12, "Charge")]

def bmsProtocol : List (Nat × String) := [
  (0, "PYLON CAN"), (1, "SACRED SUN RS485"), (2, "02"), (3, "DYNESS CAN"), (4, "04"), (5, "05"),
  (6, "GenixGreen RS485"), (7, "07"), (8, "08"), (9, "09"), (10, "10"), (11, "11"),
  (12, "PYLON RS485"), (13, "VISION CAN"), (14, "WATTSONIC RS485"), (15, "UNIPOWER RS485"),
  (16, "16"), (17, "LD RS485"), (18, "18"), (19, "UNKNOWN RS485")]

def singlePhaseSwitches : List SwitchRWSensor := [
  { register := 43, name := "Inverter enabled", on := some 1 },
  { register := 232, name := "Grid charge enabled", bitmask := 1 },
  { register := 243, name := "Priority Load", bitmask := 1 },
  { register := 247, name := "Solar Export", bitmask := 1 },
  { register := 248, name := "Use Timer", bitmask := 1 },
  { register := 280, name := "Peak shaving", bitmask := 0x0F, on := some 1 },
  { register := 280, name := "Gen peak shaving", bitmask := 0xF0, on := some 0x10 },
  { register := 280, name := "Grid peak shaving", bitmask := 0xF00, on := some 0x100 },
  { register := 280, name := "Grid always on", bitmask := 0xF000, on := some 0x1000 }]

def singlePhaseSelects : List SelectRWSensor := [
  { register := 235, name := "Generator input",
    options := [(0, "Disable"), (1, "Output"), (2, "Input")] },
  { register := 244, name := "Load Limit",
    options := [(0, "Allow Export"), (1, "Essentials"), (2, "Zero Export")] },
  { register := 274, name := "Prog1 charge", options := progChargeOptions, bitmask := 0x03 },
  { register := 275, name := "Prog2 charge", options := progChargeOptions, bitmask := 0x03 },
  { register := 276, name := "Prog3 charge", options := progChargeOptions, bitmask := 0x03 },
  { register := 277, name := "Prog4 charge", options := progChargeOptions, bitmask := 0x03 },
  { register := 278, name := "Prog5 charge", options := progChargeOptions, bitmask := 0x03 },
  { register := 279, name := "Prog6 charge", options := progChargeOptions, bitmask := 0x03 },
  { register := 274, name := "Prog1 mode", options := progModeOptions, bitmask := 0x1C },
  { register := 275, name := "Prog2 mode", options := progModeOptions, bitmask := 0x1C },
  { register := 276, name := "Prog3 mode", options := progModeOptions, bitmask := 0x1C },
  { register := 277, name := "Prog4 mode", options := progModeOptions, bitmask := 0x1C },
  { register := 278, name := "Prog5 mode", options := progModeOptions, bitmask := 0x1C },
  { register := 279, name := "Prog6 mode", options := progModeOptions, bitmask := 0x1C },
  { register := 325, name := "BMS Protocol", options := bmsProtocol }]

/-- Name, registers and mask of a setting. -/
abbrev SettingPlace := String × List Nat × Nat

def Setting.place (s : Setting) : SettingPlace := (s.name, s.address, s.bitmask)

/-- The numbers and times of the map; none has a mask. -/
def singlePhaseWhole : List SettingPlace := [
  ("Date time", [22, 23, 24], 0), ("Battery low capacity", [219], 0),
  ("Battery shutdown capacity", [217], 0), ("Battery restart capacity", [218], 0),
  ("Battery shutdown voltage", [220], 0), ("Battery low voltage", [222], 0),
  ("Battery restart voltage", [221], 0), ("Battery Equalization voltage", [201], 0),
  ("Battery Absorption voltage", [202], 0), ("Battery Float voltage", [203], 0),
  ("Max Solar power", [53], 0), ("Max Sell power", [245], 0), ("Gen peak shaving power", [292], 0),
  ("Grid peak shaving power", [293], 0), ("Prog1 Time", [250], 0), ("Prog2 Time", [251], 0),
  ("Prog3 Time", [252], 0), ("Prog4 Time", [253], 0), ("Prog5 Time", [254], 0),
  ("Prog6 Time", [255], 0), ("Prog1 power", [256], 0), ("Prog2 power", [257], 0),
  ("Prog3 power", [258], 0), ("Prog4 power", [259], 0), ("Prog5 power", [260], 0),
  ("Prog6 power", [261], 0), ("Prog1 Capacity", [268], 0), ("Prog2 Capacity", [269], 0),
  ("Prog3 Capacity", [270], 0), ("Prog4 Capacity", [271], 0), ("Prog5 Capacity", [272], 0),
  ("Prog6 Capacity", [273], 0), ("Prog1 voltage", [262], 0), ("Prog2 voltage", [263], 0),
  ("Prog3 voltage", [264], 0), ("Prog4 voltage", [265], 0), ("Prog5 voltage", [266], 0),
  ("Prog6 voltage", [267], 0), ("Grid Charge Battery current", [230], 0),
  ("Battery Max Charge current", [210], 0), ("Battery Max Discharge current", [211], 0)]

/-- All settings of the map. -/
def singlePhasePlaces : List SettingPlace :=
  singlePhaseWhole ++ singlePhaseSwitches.map (fun s => (s.name, [s.register], s.bitmask)) ++
    singlePhaseSelects.map fun s => (s.name, [s.register], s.bitmask)

/-- Places that have no bit in common. -/
def SettingPlace.apart (p q : SettingPlace) : Bool :=
  p.2.1.all (fun a => !q.2.1.contains a) || (p.2.2 != 0 && q.2.2 != 0 && p.2.2 &&& q.2.2 == 0)

theorem singlePhasePlaces_apart :
    ∀ p ∈ singlePhasePlaces, ∀ q ∈ singlePhasePlaces, p.1 ≠ q.1 → p.apart q = true := by
  decide +kernel

/-! ### What a register shows -/

/-- The bits of a setting decide what is left of a register under its mask. -/
theorem maskedWord_congr {s : Setting} {w r : Nat} (wFits : w < 65536) (rFits : r < 65536)
    (same : ∀ bit < 16, s.owns bit = true → w.testBit bit = r.testBit bit) :
    maskedWord s.bitmask w = maskedWord s.bitmask r := by
  have high {v bit : Nat} (fits : v < 65536) (beyond : ¬bit < 16) : v.testBit bit = false := by
    apply Nat.testBit_lt_two_pow
    calc v < 2 ^ 16 := fits
      _ ≤ 2 ^ bit := Nat.pow_le_pow_right (by decide) (by omega)
  by_cases whole : s.bitmask = 0
  · -- Without a mask all sixteen bits are the own ones.
    simp only [maskedWord, whole, ne_eq, not_true, if_false]
    apply Nat.eq_of_testBit_eq
    intro bit
    by_cases word : bit < 16
    · exact same bit word (owns_of_unmasked whole bit)
    · rw [high wFits word, high rFits word]
  · simp only [maskedWord, whole, ne_eq, not_false_eq_true, if_true]
    apply Nat.eq_of_testBit_eq
    intro bit
    rw [Nat.testBit_and, Nat.testBit_and]
    by_cases word : bit < 16
    · cases own : s.bitmask.testBit bit with
      | true => rw [same bit word (by simp [Setting.owns, own])]
      | false => simp
    · rw [high wFits word, high rFits word]

theorem maskedWord_idem (bitmask w : Nat) :
    maskedWord bitmask (maskedWord bitmask w) = maskedWord bitmask w := by
  unfold maskedWord
  split
  · rw [Nat.and_assoc, Nat.and_self]
  · rfl

/-- A setting of one register is decoded from what its mask leaves of it. -/
theorem decode_single {s : StateSensor} {a w : Nat} {registers : Registers} (single : s.address = [a])
    (known : registers a = some w) : s.decode registers = s.regToValue [maskedWord s.bitmask w] := by
  simp only [StateSensor.decode, single, List.map_cons, List.map_nil, known, Option.getD_some,
    List.headD_cons, maskedWord]
  split <;> rfl

namespace SwitchRWSensor

variable {s : SwitchRWSensor}

/-- ON and OFF are told apart when they are read back. -/
def Tells (s : SwitchRWSensor) : Prop :=
  s.on ≠ some 0 ∧ s.onRegister ≠ s.off ∧ s.onRegister < 65536 ∧ s.off < 65536

instance (s : SwitchRWSensor) : Decidable s.Tells := inferInstanceAs (Decidable (_ ∧ _))

theorem library_regToValue (w : Nat) :
    s.library.regToValue [w] = some (maskedWord s.bitmask w : ℚ) := by
  have masked : s.library.masked [w] = [maskedWord s.bitmask w] := by
    by_cases whole : s.bitmask = 0 <;> simp [LibrarySensor.masked, library, maskedWord, whole]
  have unsigned : ¬(1 : ℚ) < 0 := not_lt.mpr zero_le_one
  have whole (n : Nat) : intRound (n : ℚ) = n :=
    SensorDefinition.intRound_of_hundredths (n * 100) (by push_cast; ring)
  rw [LibrarySensor.regToValue, masked]
  simpa [unpackValue, readBits, library, unsigned] using whole _

theorem maskedWord_off (s : SwitchRWSensor) : maskedWord s.bitmask s.off = s.off := by
  unfold maskedWord
  split
  case isTrue masked => exact (s.within masked).2
  case isFalse => rfl

theorem maskedWord_on {r : Nat} (on : s.on = some r) : maskedWord s.bitmask r = r := by
  unfold maskedWord
  split
  case isTrue masked => simpa [on] using (s.within masked).1
  case isFalse => rfl

/-- A switch reads back as it was switched. -/
theorem regToValue_written (tells : s.Tells) (boolOn value : String) {r : Nat} {rest : List Nat}
    (written : s.valueToReg boolOn value = r :: rest) :
    s.regToValue [maskedWord s.bitmask r] = .bool (value = boolOn) := by
  obtain ⟨notZero, differ, -, -⟩ := tells
  unfold valueToReg at written
  unfold regToValue
  rw [library_regToValue, maskedWord_idem]
  -- Written on, or written off: `res == r` compares with the register for on.
  by_cases on : value = boolOn
  · rw [if_pos on] at written
    cases written
    cases known : s.on with
    | none =>
      have idem : maskedWord s.bitmask s.onRegister = s.onRegister := by
        simp [onRegister, known, maskedWord_idem]
      simp [idem, on, differ]
    | some r =>
      cases r with
      | zero => exact absurd known notZero
      | succ r =>
        have same : s.onRegister = r + 1 := by simp [onRegister, known]
        simp [same, maskedWord_on known, on]
  · rw [if_neg on] at written
    cases written
    rw [maskedWord_off]
    cases known : s.on with
    | none => simp [on]
    | some r =>
      cases r with
      | zero => exact absurd known notZero
      | succ r =>
        have same : s.onRegister = r + 1 := by simp [onRegister, known]
        have other : (s.off : ℚ) ≠ (r + 1 : Nat) := by
          rw [← same]
          exact_mod_cast differ.symm
        simpa [on] using other

end SwitchRWSensor

namespace SelectRWSensor

variable {s : SelectRWSensor}

/-- The registers of the options are within the mask. -/
def Within (s : SelectRWSensor) : Prop :=
  ∀ o ∈ s.options, maskedWord s.bitmask o.1 = o.1 ∧ o.1 < 65536

instance (s : SelectRWSensor) : Decidable s.Within := inferInstanceAs (Decidable (∀ _ ∈ _, _))

theorem lookup_of_mem {options : List (Nat × String)} (keys : (options.map Prod.fst).Nodup)
    {o : Nat × String} (member : o ∈ options) : options.lookup o.1 = some o.2 := by
  obtain ⟨before, after, rfl⟩ := List.append_of_mem member
  apply List.lookup_eq_some_iff.mpr
  refine ⟨before, after, rfl, ?_⟩
  intro p earlier
  rw [List.map_append, List.nodup_append] at keys
  have other := keys.2.2 p.1 (List.mem_map_of_mem earlier) o.1 (by simp)
  simpa using Ne.symm other

/-- A select reads back as the text that was chosen. -/
theorem regToValue_written (within : s.Within) (value : String) (st : InverterState) {r : Nat}
    {rest : List Nat} (written : s.valueToReg value st = some (r :: rest)) :
    s.regToValue [maskedWord s.bitmask r] = .str (s.chosen value st) ∧ r < 65536 := by
  obtain ⟨r', known, cut⟩ := Option.map_eq_some_iff.mp written
  obtain ⟨o, found, rfl⟩ := Option.map_eq_some_iff.mp known
  have member := List.mem_of_find?_eq_some found
  have text : o.2 = s.chosen value st := by simpa using List.find?_some found
  obtain ⟨masked, small⟩ := within o member
  have same : r = o.1 := by
    simp only [regWithin] at cut
    split at cut
    case isTrue outside =>
      have inside : o.1 &&& s.bitmask = o.1 := by simpa [maskedWord, outside.1] using masked
      exact absurd inside.symm outside.2
    case isFalse => exact (List.cons.inj cut).1.symm
  subst same
  simp [regToValue, masked, lookup_of_mem s.keys member, text, small]

end SelectRWSensor

theorem singlePhaseSwitches_tell : ∀ s ∈ singlePhaseSwitches, s.Tells := by decide

theorem singlePhaseSelects_within : ∀ s ∈ singlePhaseSelects, s.Within := by decide +kernel

/-! ### What stays of a command -/

/-- An exchange sets a bit of a unit's register. -/
def Connector.Exchange.Sets (unit address bit : Nat) : Exchange → Prop
  | .written u s a _ true => u = unit ∧ a = address ∧ s.owns bit = true
  | .moved u a _ => u = unit ∧ a = address
  | .written _ _ _ _ false | .answered _ _ _ | .begun _ _ _ => False

theorem foldl_apply_kept {unit address bit : Nat} {after : List Exchange}
    (untouched : ∀ e ∈ after, ¬e.Sets unit address bit) (bits : UnitBits) :
    after.foldl Exchange.apply bits unit address bit = bits unit address bit := by
  induction after generalizing bits with
  | nil => rfl
  | cons e after ih =>
    have later := ih (fun e' member => untouched e' (List.mem_cons_of_mem e member)) (e.apply bits)
    rw [List.foldl_cons, later]
    -- The first exchange does not set the bit, and neither do the later ones.
    have here := untouched e List.mem_cons_self
    match e with
    | .written u s a v true =>
      apply if_neg
      rintro ⟨rfl, rfl, own⟩
      exact here ⟨rfl, rfl, own⟩
    | .moved u a v =>
      apply if_neg
      rintro ⟨rfl, rfl⟩
      exact here ⟨rfl, rfl⟩
    | .written u s a v false => rfl
    | .answered u a v => rfl
    | .begun i op st => rfl

/-- What has begun was asked for. -/
theorem lock_of_begun {options : ConnectorOptions} {c : Connector} {acts : List ConnectorAction}
    {inverter : Nat} {op : Operation} {st : InverterState}
    (begun : .begun inverter op st ∈ exchanged options c acts) : .lock inverter op ∈ acts := by
  obtain ⟨act, inside, m, seen⟩ := exists_of_mem_observed begun
  cases act with
  | lock j op' =>
    cases List.mem_singleton.mp seen
    exact inside
  | move u b v => cases List.mem_singleton.mp seen
  | reply r =>
    simp only [Connector.observe] at seen
    split at seen <;> simp at seen

/-- Settings of the map with different names do not have a bit in common. -/
theorem not_owns_of_apart {s t : Setting} (apart : s.place.apart t.place = true) {a bit : Nat}
    (inS : a ∈ s.address) (inT : a ∈ t.address) (own : s.owns bit = true) : t.owns bit = false := by
  simp only [SettingPlace.apart, Setting.place, Bool.or_eq_true, List.all_eq_true, Bool.and_eq_true,
    bne_iff_ne, beq_iff_eq] at apart
  rcases apart with elsewhere | ⟨⟨sMasked, tMasked⟩, disjoint⟩
  · exact absurd (elsewhere a inS) (by simpa using inT)
  · -- In one register their masks are disjoint.
    have sBit : s.bitmask.testBit bit = true := by simpa [Setting.owns, sMasked] using own
    have both : (s.bitmask &&& t.bitmask).testBit bit = false := by rw [disjoint, Nat.zero_testBit]
    rw [Nat.testBit_and, sBit, Bool.true_and] at both
    simp [Setting.owns, tMasked, both]

theorem mem_zip_single {a a' r : Nat} {regs : List Nat} (pair : (a, r) ∈ [a'].zip regs) :
    a = a' ∧ ∃ rest, regs = r :: rest := by
  cases regs with
  | nil => simp at pair
  | cons r' rest =>
    simp only [List.zip_cons_cons, List.zip_nil_left, List.mem_singleton, Prod.mk.injEq] at pair
    obtain ⟨rfl, rfl⟩ := pair
    exact ⟨rfl, rest, rfl⟩

/-- A register of a unit has the bits of a setting as the command has set them. -/
def Connector.Holds (c : Connector) (unit : Nat) (s : Setting) (a : Nat) (text : String)
    (st : InverterState) : Prop :=
  ∃ regs r, s.valueToReg text st = some regs ∧ (a, r) ∈ s.address.zip regs ∧
    ∀ bit < 16, s.owns bit = true → (c.units unit a).toNat.testBit bit = r.testBit bit

/-- After a write of a setting, no write of another setting changes its bits: they are those of the
command that was being carried out. -/
theorem holds_since {options : ConnectorOptions} {c c' : Connector} {acts : List ConnectorAction}
    (idle : c.job = none) (calm : Calm options c acts) (run : exec (step options) c acts = some c')
    (map : ∀ inverter t text, .lock inverter (.writeSensor t text) ∈ acts → t.place ∈ singlePhasePlaces)
    {unit : Nat} {s : Setting} {a w : Nat} {before after : List Exchange}
    (log : exchanged options c acts = before ++ .written unit s a w true :: after)
    (last : ∀ t b v, .written unit t b v true ∈ after → t.name ≠ s.name)
    (still : ∀ v, .moved unit a v ∉ after) :
    ∃ inverter text st, lastBegun before = some (inverter, .writeSensor s text, st) ∧
      options.modbusId inverter = unit ∧ c'.Holds unit s a text st := by
  obtain ⟨memory, faithful, -, -, -⟩ := atomic_run idle calm run
  have asked {inverter : Nat} {t : Setting} {text : String} {st : InverterState} {earlier later : List Exchange}
      (split : exchanged options c acts = earlier ++ later)
      (begun : lastBegun earlier = some (inverter, .writeSensor t text, st)) : t.place ∈ singlePhasePlaces := by
    have inLog : .begun inverter (.writeSensor t text) st ∈ exchanged options c acts := by
      rw [split]
      exact List.mem_append_left _ (mem_of_lastBegun begun)
    exact map inverter t text (lock_of_begun inLog)
  have commanded := faithful before unit s a w true after log
  have own := commanded.address_mem
  obtain ⟨inverter, text, st, regs, r, begun, unitOwn, translated, pair, agree⟩ := commanded
  refine ⟨inverter, text, st, begun, unitOwn, regs, r, translated, pair, ?_⟩
  intro bit word mine
  -- Later writes are of other settings of the map, which have other bits.
  have untouched : ∀ e ∈ after, ¬e.Sets unit a bit := by
    intro e member sets
    match e, sets with
    | .written u t b v true, ⟨sameUnit, sameRegister, theirs⟩ =>
      subst sameUnit sameRegister
      have other := last t b v member
      obtain ⟨between, rest, rfl⟩ := List.append_of_mem member
      have split : exchanged options c acts =
          (before ++ .written u s b w true :: between) ++ .written u t b v true :: rest := by
        simp [log]
      have command := faithful _ u t b v true rest split
      have inT := command.address_mem
      obtain ⟨inverter', text', st', -, -, begun', -⟩ := command
      have apart := singlePhasePlaces_apart _ (asked log begun) _ (asked split begun') other.symm
      rw [not_owns_of_apart apart own inT mine] at theirs
      cases theirs
    | .moved u b v, ⟨sameUnit, sameRegister⟩ =>
      subst sameUnit sameRegister
      exact still v member
  -- The memory is what the log makes of it, so the bit is as this write has set it.
  have replayed := memory unit a bit word
  rw [log, List.foldl_append, List.foldl_cons, foldl_apply_kept untouched] at replayed
  simp only [Exchange.apply, mine, and_self, if_true] at replayed
  rw [BitVec.testBit_toNat, ← agree bit word mine, ← replayed]
  rfl

theorem SwitchRWSensor.shown_of_holds {switch : SwitchRWSensor} (known : switch ∈ singlePhaseSwitches)
    {boolOn text : String} {c : Connector} {unit a : Nat} {st : InverterState}
    (holds : c.Holds unit (switch.setting boolOn) a text st) :
    (switch.setting boolOn).decode (c.unitRegisters unit) = .bool (text = boolOn) := by
  obtain ⟨regs, r, translated, pair, kept⟩ := holds
  obtain ⟨rfl, rest, rfl⟩ := mem_zip_single pair
  have written : switch.valueToReg boolOn text = r :: rest := Option.some.inj translated
  have tells := singlePhaseSwitches_tell switch known
  have small : r < 65536 := by
    unfold SwitchRWSensor.valueToReg at written
    split at written <;> cases written
    · exact tells.2.2.1
    · exact tells.2.2.2
  have shown : (switch.setting boolOn).decode (c.unitRegisters unit) =
      switch.regToValue [maskedWord switch.bitmask (c.units unit switch.register).toNat] :=
    decode_single rfl rfl
  have same : maskedWord switch.bitmask (c.units unit switch.register).toNat =
      maskedWord switch.bitmask r := maskedWord_congr (BitVec.isLt _) small kept
  rw [shown, same]
  exact SwitchRWSensor.regToValue_written tells boolOn text written

theorem SelectRWSensor.shown_of_holds {select : SelectRWSensor} (known : select ∈ singlePhaseSelects)
    {text : String} {c : Connector} {unit a : Nat} {st : InverterState}
    (holds : c.Holds unit select.setting a text st) :
    select.setting.decode (c.unitRegisters unit) = .str (select.chosen text st) := by
  obtain ⟨regs, r, translated, pair, kept⟩ := holds
  obtain ⟨rfl, rest, rfl⟩ := mem_zip_single pair
  obtain ⟨written, small⟩ := SelectRWSensor.regToValue_written (singlePhaseSelects_within select known)
    text st translated
  have shown : select.setting.decode (c.unitRegisters unit) =
      select.regToValue [maskedWord select.bitmask (c.units unit select.register).toNat] :=
    decode_single rfl rfl
  have same : maskedWord select.bitmask (c.units unit select.register).toNat =
      maskedWord select.bitmask r := maskedWord_congr (BitVec.isLt _) small kept
  rw [shown, same, written]

/-- **A setting of the single-phase map stays as it was commanded last.** In every run in which only
settings of this map are written: after the last write of a switch or select that was carried out,
whatever other settings have been written before or since, the registers of the unit show the command
that this write carried out. -/
theorem single_phase_settings_stay (options : ConnectorOptions) (c c' : Connector)
    (acts : List ConnectorAction) (idle : c.job = none) (calm : Calm options c acts)
    (run : exec (step options) c acts = some c')
    (map : ∀ inverter t text, .lock inverter (.writeSensor t text) ∈ acts → t.place ∈ singlePhasePlaces)
    (boolOn : String) (unit : Nat) (s : Setting) (a w : Nat) (before after : List Exchange)
    (log : exchanged options c acts = before ++ .written unit s a w true :: after)
    (last : ∀ t b v, .written unit t b v true ∈ after → t.name ≠ s.name)
    (still : ∀ v, .moved unit a v ∉ after) :
    ∃ inverter text st, lastBegun before = some (inverter, .writeSensor s text, st) ∧
      options.modbusId inverter = unit ∧
      (∀ switch ∈ singlePhaseSwitches, s = switch.setting boolOn →
        s.decode (c'.unitRegisters unit) = .bool (text = boolOn)) ∧
      ∀ select ∈ singlePhaseSelects, s = select.setting →
        s.decode (c'.unitRegisters unit) = .str (select.chosen text st) := by
  obtain ⟨inverter, text, st, begun, own, holds⟩ := holds_since idle calm run map log last still
  refine ⟨inverter, text, st, begun, own, ?_, ?_⟩
  · rintro switch known rfl
    exact SwitchRWSensor.shown_of_holds known holds
  · rintro select known rfl
    exact SelectRWSensor.shown_of_holds known holds

/-- Of two settings in register 274. -/
def progCharge : SelectRWSensor :=
  { register := 274, name := "Prog1 charge", options := progChargeOptions, bitmask := 0x03 }

def progMode : SelectRWSensor :=
  { register := 274, name := "Prog1 mode", options := progModeOptions, bitmask := 0x1C }

def chargeThenMode : List ConnectorAction := [
  .lock 0 (.writeSensor progCharge.setting "Allow Grid"), .reply (.words 1), .reply (.returned true),
  .lock 0 (.writeSensor progCharge.setting "Allow Gen"), .reply (.words 1), .reply (.returned true),
  .lock 0 (.writeSensor progMode.setting "Charge"), .reply (.words 1), .reply (.returned true)]

theorem single_phase_settings_stay_charge :
    ∃ c', exec (step twoInverters) idleConnector chargeThenMode = some c' ∧
      progCharge.setting.decode (c'.unitRegisters 1) = .str "Allow Gen" := by
  have map (inverter : Nat) (t : Setting) (text : String)
      (member : .lock inverter (.writeSensor t text) ∈ chargeThenMode) : t.place ∈ singlePhasePlaces := by
    simp only [chargeThenMode, List.mem_cons, ConnectorAction.lock.injEq, Operation.writeSensor.injEq,
      reduceCtorEq, List.not_mem_nil, false_or, or_false] at member
    rcases member with ⟨-, rfl, -⟩ | ⟨-, rfl, -⟩ | ⟨-, rfl, -⟩ <;> decide +kernel
  have calm : Calm twoInverters idleConnector chargeThenMode := by
    apply calm_of_elsewhere rfl
    intro unit address value member
    simp [chargeThenMode] at member
  -- The second write of the charge is the last one; the mode is written after it.
  have log : ∃ st, exchanged twoInverters idleConnector chargeThenMode =
      (exchanged twoInverters idleConnector chargeThenMode).take 3 ++
        .written 1 progCharge.setting 274 2 true ::
          [.begun 0 (.writeSensor progMode.setting "Charge") st, .written 1 progMode.setting 274 14 true] :=
    ⟨_, rfl⟩
  obtain ⟨later, log⟩ := log
  refine ⟨_, rfl, ?_⟩
  obtain ⟨inverter, text, st, begun, -, -, shown⟩ := single_phase_settings_stay twoInverters
    idleConnector _ chargeThenMode rfl calm rfl map "ON" 1 progCharge.setting 274 2 _ _ log
    (by
      intro t b v member
      simp only [List.mem_cons, reduceCtorEq, Exchange.written.injEq, List.not_mem_nil, or_false,
        false_or] at member
      rw [member.2.1]
      decide)
    (by simp)
  have text : text = "Allow Gen" := by
    cases begun
    rfl
  rw [shown progCharge (List.mem_of_getElem? (i := 2) rfl) rfl, text]
  rfl

end HHModbus
