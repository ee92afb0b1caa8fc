import HHModbus.Lib.Windows
import HHModbus.ClockDrift
import HHModbus.NumberEntity
import HHModbus.SolisSensor

/-!
# Sensors that are computed from other registers

`SolisDerivedSensor` collects the values of its source registers as they are announced, computes its
own value once it has them all, and starts anew. Some of its branches take the register cache
instead of what has been collected.
-/
namespace HHModbus

open Windows

/-! ### Texts -/

/-- `STATUS_MAPPING`. -/
def statusMapping : List (Nat × String) := [
  (0xF080, "PV inverter communication failure"), (0xF081, "Meter 2 failure"),
  (0xF082, "Parallel version mismatch"), (0xF083, "Load cut-off"), (0xF084, "Load cut-off locked"),
  (0x2047, "Panel overcurrent"), (0x2048, "Low battery"), (0x204A, "Inverter hard limit"),
  (0x204B, "G100 meter fault"), (0x204C, "G100 CT fault"), (0x2804, "Battery wiring error 1"),
  (0x2805, "Battery wiring error 2"), (0, "Normal operation"), (1, "Open loop operation"),
  (2, "Waiting"), (3, "Generating"), (4, "Bypass / Inverting / Running"),
  (5, "Bypass / Inverting / Synchronize"), (6, "Bypass / Grid / Running"), (7, "Standby"),
  (8, "Derating"), (10, "Auto test"), (12, "Parameter setting"), (13, "Firmware updating"),
  (14, "Timed charge"), (15, "Generating"), (16, "Timed discharge"), (4096, "Stop"),
  (4100, "Control off-Grid"), (4111, "Islanding fault"), (4112, "Grid overvoltage"),
  (4113, "Grid undervoltage"), (4114, "Grid overfrequency"), (4115, "Grid underfrequency"),
  (4116, "Grid impedance is too large"), (4117, "No Grid"), (4118, "Grid imbalance"),
  (4119, "Grid frequency jitter"), (4120, "Grid overcurrent"),
  (4121, "Grid current tracking fault"), (4128, "DC overvoltage"), (4129, "DC bus overvoltage"),
  (4130, "DC busbar uneven voltage"), (4131, "DC bus undervoltage"),
  (4132, "DC busbar uneven voltage 2"), (4133, "DC A way overcurrent"),
  (4134, "DC B path overcurrent"), (4135, "DC input disturbance"), (4136, "DC reverse polarity"),
  (4137, "PV midpoint grounding"), (4144, "Grid disturbance"),
  (4145, "DSP initialization malfunction protection"), (4146, "Temperature protection"),
  (4147, "Ground protection"), (4148, "Leakage current fault"), (4149, "Relay failure"),
  (4150, "DSP_B failure protection"), (4151, "DC component is too large"),
  (4152, "12V undervoltage fault protection"), (4153, "Leakage current self-test protection"),
  (4154, "Under temperature protection"), (4160, "Arc self-test protection"),
  (4161, "Arc malfunction protection"), (4162, "DSP on-chip SRAM exception"),
  (4163, "DSP on-chip FLASH exception"), (4164, "DSP on-chip PC pointer is abnormal"),
  (4165, "DSP key register exception"), (4166, "Grid disturbance 02"),
  (4167, "Grid current sampling abnormality"), (4168, "IGBT overcurrent"),
  (4176, "Network side current transient"), (4177, "Battery overvoltage hardware failure"),
  (4178, "LLC hardware overcurrent"), (4179, "Battery overvoltage detection"),
  (4180, "Battery undervoltage detection"), (4181, "Battery no connected"),
  (4182, "Bypass overvoltage fault"), (4183, "Bypass overload fault"),
  (4184, "DSP self-check error"), (4192, "Battery force charging"),
  (4193, "Battery force discharging"), (8208, "Fail safe"), (8209, "Meter communication failure"),
  (8210, "Battery communication failure (BMS)"), (8211, "BMS firmware updating"),
  (8212, "DSP communication failure"), (8213, "BMS alarm"), (8214, "Battery name failure"),
  (8215, "BMS alarm 2"), (8216, "DRM connection failure"), (8217, "Meter select failure"),
  (8224, "Lead-acid battery high temperature"), (8225, "Lead-acid battery low temperature"),
  (61456, "Grid surge"), (61457, "Fan fault")]

/-- `{code:04X}`. -/
def hex04 (code : Nat) : String :=
  let digits := (Nat.toDigits 16 code).map Char.toUpper
  String.ofList (List.replicate (4 - digits.length) '0' ++ digits)

def statusText (code : Nat) : String :=
  (statusMapping.lookup code).getD ("Unknown (0x" ++ hex04 code ++ ")")

def inverterModels : List (Nat × String) := [
  (0x00, "No definition"),
  (0x10, "1-Phase Grid-Tied Inverter (0.7-8K1P / 7-10K1P)"),
  (0x20, "3-Phase Grid-Tied Inverter (3-20K 3P)"),
  (0x21, "3-Phase Grid-Tied Inverter (25-50K / 50-70K / 80-110K / 90-136K / 125K / 250K)"),
  (0x30, "1-Phase LV Hybrid Inverter"),
  (0x31, "1-Phase LV AC Coupled Energy Storage Inverter"),
  (0x32, "5-15kWh All-in-One Hybrid"),
  (0x40, "1-Phase HV Hybrid Inverter"),
  (0x50, "3-Phase LV Hybrid Inverter"),
  (0x60, "3-Phase HV Hybrid Inverter (5G)"),
  (0x70, "S6 3-Phase HV Hybrid (5-10kW)"),
  (0x71, "S6 3-Phase HV Hybrid (12-20kW)"),
  (0x72, "S6 3-Phase LV Hybrid (10-15kW)"),
  (0x73, "S6 3-Phase HV Hybrid (50kW)"),
  (0x80, "1-Phase HV Hybrid Inverter (S6)"),
  (0x90, "1-Phase LV Hybrid Inverter (S6)"),
  (0x91, "S6 1-Phase LV AC Coupled Hybrid"),
  (0xA0, "OGI Off-Grid Inverter"),
  (0xA1, "S6 1-Phase LV Off-Grid Hybrid")]

/-- `decode_inverter_model`: the protocol version and the description. -/
def decodeInverterModel (value : Nat) : Nat × String :=
  ((value >>> 8) &&& 0xFF, (inverterModels.lookup (value &&& 0xFF)).getD "Unknown Model")

/-! ### The entity -/

/-- What a derived sensor shows. Products and quotients of floats are those of the numbers. -/
inductive DerivedValue where
  | number (q : ℚ)
  /-- `round(active / (active**2 + reactive**2) ** 0.5, 3)`, which stays the pair it comes from. -/
  | powerFactor (active reactive : ℚ)
  | text (s : String)
  | time (t : DateTime)

def DerivedValue.ofSensorValue : SensorValue → DerivedValue
  | .integer n => .number n
  | .scaled n multiplier => .number (n * multiplier)
  | .text s => .text s

/-- The `SolisBaseSensor` of a derived sensor, for which no data type is declared. -/
structure DerivedBase where
  registrars : List Nat
  multiplier : ℚ
  deriving DecidableEq

structure DerivedSensor where
  /-- `_received_values`. -/
  received : Nat → Option Nat
  nativeValue : Option DerivedValue

/-- What the handler finds besides the register cache. -/
structure Moment where
  /-- `controller.last_modbus_success`, if it is neither 0 nor `None`. -/
  lastModbusSuccess : Option DateTime
  now : DateTime
  /-- What `clock_drift_test` returns. -/
  adjusts : RtcWords → Bool

/-- The order in which a set is iterated, given as the list its elements were added from: any order. -/
structure SetOrder where
  iterate : List Nat → List Nat
  perm : ∀ elements, (iterate elements).Perm elements

namespace DerivedBase

/-- `filtered_registers`: flags and the synthetic clock register are never announced. -/
def sources (x : DerivedBase) : List Nat := x.registrars.filter fun r => r ∉ [0, 1, 90007]

/-- `base_sensor.convert_value`, as a number. -/
def convertNumber (x : DerivedBase) (words : List Nat) : ℚ :=
  ((convertRawValue x.registrars.length none x.multiplier words).bind SensorValue.number).getD 0

/-- `base_sensor.get_value`: from the cache, and only if every register is there. -/
def getValue (x : DerivedBase) (cache : Nat → Option Nat) : Option SensorValue :=
  if ∀ r ∈ x.registrars, (cache r).isSome then
    convertRawValue x.registrars.length none x.multiplier (x.registrars.filterMap cache)
  else none

def has (x : DerivedBase) (registers : List Nat) : Bool := registers.any fun r => r ∈ x.registrars

/-- The product of two registers, each scaled. -/
def product (x : DerivedBase) (received : Nat → Nat) : ℚ :=
  let scaled i := (received (x.registrars.getD i 0) : ℚ) * x.multiplier
  roundRat (scaled 0 * scaled 1)

def powerFactor (x : DerivedBase) (received : Nat → Nat) : DerivedValue :=
  let word i := received (x.registrars.getD i 0)
  let active := x.convertNumber [word 0, word 1]
  let reactive := x.convertNumber [word 2, word 3]
  if active = 0 ∨ reactive = 0 then .number 1 else .powerFactor active reactive

/-- Charge or discharge power: the last entry is the direction that the sensor is for. -/
def directedPower (x : DerivedBase) (received : Nat → Nat) (power : Int) : ℚ :=
  if received (x.registrars.getD 2 0) = x.registrars.getD 3 0 then power else 0

def netPower (x : DerivedBase) (received : Nat → Nat) (power : Int) : ℚ :=
  if received (x.registrars.getD 2 0) = 0 then -power else power

/-- Export or import power: the last entry is 0 for the export. -/
def meterSide (x : DerivedBase) (received : Nat → Nat) : ℚ :=
  let meter := x.convertNumber [received 33263, received 33264]
  max (if x.registrars.getD 2 0 = 0 then meter else -meter) 0

/-- `from_grid - to_grid`. -/
def netEnergy (x : DerivedBase) (received : Nat → Nat) : ℚ :=
  received (x.registrars.getD 1 0) * x.multiplier - received (x.registrars.getD 0 0) * x.multiplier

def flexibleExport (received : Nat → Nat) : String :=
  if received 43292 ≠ 0xAA then "Off"
  else if received 43291 = 0 then "Export Blocked"
  else "Active"

end DerivedBase

/-- A branch that puts its own value in the place of the one before. -/
def replaceIf (c : Bool) (own : DerivedValue) (v : Option DerivedValue) : Option DerivedValue :=
  if c then some own else v

@[simp] theorem replaceIf_true (own : DerivedValue) (v : Option DerivedValue) :
    replaceIf true own v = some own := rfl

@[simp] theorem replaceIf_false (own : DerivedValue) (v : Option DerivedValue) :
    replaceIf false own v = v := rfl

/-- A value stays a value, whichever it is. -/
theorem replaceIf_some (c : Bool) (own v : DerivedValue) :
    replaceIf c own (some v) = some (if c then own else v) := (apply_ite some _ own v).symm

/-- A number stays a number. -/
theorem replaceIf_number (c : Bool) (q r : ℚ) :
    replaceIf c (.number q) (some (.number r)) = some (.number (if c then q else r)) := by
  cases c with
  | true => rfl
  | false => rfl

/-- `new_value * -1`. -/
def negated : Option DerivedValue → Option (Option DerivedValue)
  | some (.number q) => some (some (.number (q * -1)))
  | _ => none

/-- The text for the model and the protocol version. -/
def described : Option DerivedValue → Option (Option DerivedValue)
  | some (.number q) =>
    let (version, description) := decodeInverterModel q.num.toNat
    some (some (.text (description ++ "(Protocol " ++ toString version ++ ")")))
  | _ => none

namespace DerivedBase

/-- The branches of `handle_modbus_update` one after the other. `none`: an operation on a missing
value raises. -/
def newValue (order : SetOrder) (x : DerivedBase) (received : Nat → Nat)
    (getValue : Option SensorValue) : Option (Option DerivedValue) := do
  let power := roundRat (x.convertNumber ((order.iterate x.sources).map received) * 10)
  let v ←
    -- The code is read through `get_value`; without a value `round` raises.
    if x.has [33095] then
      (getValue.bind SensorValue.number).map fun code => some (.text (statusText (roundRat code).toNat))
    else some (getValue.map DerivedValue.ofSensorValue)
  -- From here on each branch that applies puts its own value over the one before.
  let v := replaceIf (x.has [33049, 33051, 33053, 33055]) (.number (x.product received)) v
  let v := replaceIf (x.has [3021, 3023, 3025, 3027]) (.number (x.product received)) v
  let v := replaceIf (x.has [33079, 33080, 33081, 33082]) (x.powerFactor received) v
  let v := replaceIf (x.has [33135] && x.registrars.length == 4) (.number (x.directedPower received power)) v
  let v := replaceIf (x.has [33135] && x.registrars.length == 3) (.number (x.netPower received power)) v
  -- The net power is the meter power turned around.
  let v ← if x.has [33263] && x.registrars.length == 2 then negated v else some v
  let v := replaceIf (x.has [33263] && x.registrars.length == 3) (.number (x.meterSide received)) v
  let v := replaceIf (x.has [33175, 33171]) (.number (x.netEnergy received)) v
  let v := replaceIf (x.has [43292]) (.text (flexibleExport received)) v
  if x.has [35000] then described v else some v

end DerivedBase

namespace DerivedSensor

def start : DerivedSensor := ⟨fun _ => none, none⟩

/-- The value is shown, and the collection starts anew. -/
def publish (v : DerivedValue) : DerivedSensor := ⟨fun _ => none, some v⟩

/-- `handle_modbus_update`, for an announcement of the sensor's own controller. -/
def handleModbusUpdate (order : SetOrder) (x : DerivedBase) (m : Moment)
    (cache : Nat → Option Nat) (e : DerivedSensor) (register value : Nat) : DerivedSensor :=
  if register ∈ x.registrars then
    -- The value is collected, and computed with once each source has one.
    let received := Function.update e.received register (some value)
    if ∀ r ∈ x.sources, (received r).isSome then
      let word r := (received r).getD 0
      let rtc : RtcWords := ⟨word 33022, word 33023, word 33024, word 33025, word 33026, word 33027⟩
      let tested :=
        if decide (90007 ∈ x.registrars) && m.adjusts rtc then publish (.time m.now) else { e with received }
      if 90006 ∈ x.registrars then
        match m.lastModbusSuccess with
        | none => tested
        | some t => publish (.time t)
      else
        -- An exception leaves the collection as it is; `None` is not shown, but starts it anew.
        match x.newValue order (fun r => (tested.received r).getD 0) (x.getValue cache) with
        | none => tested
        | some none => { tested with received := fun _ => none }
        | some (some v) => publish v
    else { e with received }
  else e

end DerivedSensor

/-! ### The derived sensors of a controller -/

/-- What happens to the registers of a controller. -/
inductive RegisterEvent where
  /-- A register is read, or a write of it is accepted: it is saved and announced. -/
  | read (register value : Nat) (m : Moment)
  /-- The end of a fast poll announces 90006. -/
  | lastPolled (m : Moment)
  /-- A switch or a select saves what it has just read or is about to write. -/
  | saved (register value : Nat)

/-- The cache of a controller, with the entity of every derived sensor there could be. -/
structure DerivedRun where
  cache : Nat → Option Nat
  entity : DerivedBase → DerivedSensor

namespace DerivedRun

variable (order : SetOrder)

def start (cache : Nat → Option Nat) : DerivedRun := ⟨cache, fun _ => .start⟩

def step (s : DerivedRun) : RegisterEvent → DerivedRun
  | .read register value m =>
    let cache := Function.update s.cache register (some value)
    { cache, entity := fun x => (s.entity x).handleModbusUpdate order x m cache register value }
  | .lastPolled m =>
    -- What is announced with it is not used.
    { s with entity := fun x => (s.entity x).handleModbusUpdate order x m s.cache 90006 0 }
  | .saved register value => { s with cache := Function.update s.cache register (some value) }

def run (cache : Nat → Option Nat) (events : List RegisterEvent) : DerivedRun :=
  events.foldl (step order) (start cache)

theorem run_append_singleton (cache : Nat → Option Nat) (events : List RegisterEvent)
    (e : RegisterEvent) :
    run order cache (events ++ [e]) = step order (run order cache events) e := by
  simp [run]

end DerivedRun

/-- The register that an event announces, with its value. -/
def RegisterEvent.announced : RegisterEvent → Option (Nat × Nat)
  | .read register value _ => some (register, value)
  | _ => none

/-- The value of a register that was announced last. -/
abbrev lastAnnounced (events : List RegisterEvent) (register : Nat) : Option Nat :=
  latest RegisterEvent.announced events register

end HHModbus
