import HHModbus.SensorGroup

/-!
# The Sun-Synk sensor map

`sensor_data/sunsynk_single_phase.py`, and the groups a setup builds from such a map.
-/
namespace HHModbus

/-- An entity of a sensor map, as far as polling and decoding read it. -/
structure SensorDefinition where
  name : String
  register : List Nat
  register_ne : register ≠ [] := by decide
  multiplier : ℚ := 1
  dataType : Option DataType := none

/-- A group of a sensor map; what it does not say is decided by its first register. -/
structure GroupDefinition where
  pollSpeed : Option PollSpeed := none
  registerType : Option RegisterType := none
  entities : List SensorDefinition

namespace SensorDefinition

theorem singleton_ne_nil (register : Nat) : [register] ≠ [] := List.cons_ne_nil _ _

/-- A sensor of one register. -/
def single (name : String) (register : Nat) (multiplier : ℚ) : SensorDefinition :=
  { name, register := [register], register_ne := singleton_ne_nil register, multiplier }

def sensor (e : SensorDefinition) (id : Nat) : BaseSensor :=
  { id, registrars := e.register, registrars_ne := e.register_ne,
    dataType := e.dataType, multiplier := e.multiplier }

end SensorDefinition

namespace SensorGroup

/-- `SolisSensorGroup.__init__`; the sensors are numbered from `firstId`. -/
def ofDefinition (id firstId : Nat) (g : GroupDefinition) : SensorGroup :=
  let sensors := (g.entities.zipIdx firstId).map fun e => e.1.sensor e.2
  let start := (registersOf sensors).min?.getD 0
  { id, sensors
    pollSpeed := g.pollSpeed.getD (if start < 40000 then .normal else .slow)
    registerType := g.registerType.getD (if 40000 ≤ start then .holding else .input) }

end SensorGroup

/-- A hidden sensor that fills a gap between registers. -/
def reserve (register : Nat) : SensorDefinition := .single "reserve" register 0

/-- Input registers, the live data. -/
def sunsynkInputSensors : List GroupDefinition := [
  { pollSpeed := some .once, registerType := some .input, entities := [
      { name := "Device Type", register := [0], multiplier := 0 },
      reserve 1,
      { name := "Protocol Version", register := [2], multiplier := 0 },
      { name := "Serial Number", register := [3, 4, 5, 6, 7], multiplier := 0 }] },
  { pollSpeed := some .normal, registerType := some .input, entities := [
      { name := "Overall State", register := [59], multiplier := 0 },
      { name := "Day Active Energy", register := [60], multiplier := -1/10 },
      { name := "Day Reactive Energy", register := [61], multiplier := -1/10 },
      reserve 62,
      { name := "Total Active Energy", register := [63, 64], multiplier := 1/10 },
      { name := "Month PV Energy", register := [65], multiplier := 1/10 },
      { name := "Month Load Energy", register := [66], multiplier := 1/10 },
      { name := "Month Grid Energy", register := [67], multiplier := 1/10 },
      { name := "Year PV Energy", register := [68, 69], multiplier := 1/10 },
      { name := "Day Battery Charge", register := [70], multiplier := 1/10 },
      { name := "Day Battery Discharge", register := [71], multiplier := 1/10 },
      { name := "Total Battery Charge", register := [72, 73], multiplier := 1/10 },
      { name := "Total Battery Discharge", register := [74, 75], multiplier := 1/10 },
      { name := "Day Grid Import", register := [76], multiplier := 1/10 },
      { name := "Day Grid Export", register := [77], multiplier := 1/10 },
      { name := "Total Grid Import", register := [78, 80], multiplier := 1/10 }] },
  { pollSpeed := some .fast, registerType := some .input, entities := [
      { name := "Grid Frequency", register := [79], multiplier := 1/100 }] },
  { pollSpeed := some .slow, registerType := some .input, entities := [
      { name := "Total Grid Import High", register := [80], multiplier := 1/10 },
      { name := "Total Grid Export", register := [81, 82], multiplier := 1/10 },
      reserve 83,
      { name := "Day Load Energy", register := [84], multiplier := 1/10 },
      { name := "Total Load Energy", register := [85, 86], multiplier := 1/10 },
      { name := "Year Load Energy", register := [87, 88], multiplier := 1/10 },
      reserve 89,
      { name := "DC Transformer Temperature", register := [90], multiplier := 1/10 },
      { name := "Radiator Temperature", register := [91], multiplier := 1/10 },
      { name := "SD Status", register := [92], multiplier := 0 },
      reserve 93, reserve 94,
      { name := "Environment Temperature", register := [95], multiplier := 1/10 },
      { name := "Total PV Energy", register := [96, 97], multiplier := 1/10 },
      { name := "Year Grid Export", register := [98, 99], multiplier := 1/10 },
      reserve 100, reserve 101, reserve 102,
      { name := "Fault 1", register := [103], multiplier := 0 },
      { name := "Fault 2", register := [104], multiplier := 0 },
      { name := "Fault 3", register := [105], multiplier := 0 },
      { name := "Fault 4", register := [106], multiplier := 0 },
      reserve 107,
      { name := "Day PV Energy", register := [108], multiplier := 1/10 }] },
  { pollSpeed := some .fast, registerType := some .input, entities := [
      { name := "PV1 Voltage", register := [109], multiplier := 1/10 },
      { name := "PV1 Current", register := [110], multiplier := 1/10 },
      { name := "PV2 Voltage", register := [111], multiplier := 1/10 },
      { name := "PV2 Current", register := [112], multiplier := 1/10 },
      { name := "PV3 Voltage", register := [113], multiplier := 1/10 },
      { name := "PV3 Current", register := [114], multiplier := 1/10 }] },
  { pollSpeed := some .fast, registerType := some .input, entities := [
      { name := "Grid Voltage", register := [150], multiplier := 1/10 },
      reserve 151, reserve 152, reserve 153,
      { name := "Inverter Voltage", register := [154], multiplier := 1/10 },
      reserve 155, reserve 156, reserve 157, reserve 158, reserve 159,
      { name := "Grid Current L1", register := [160], multiplier := 1/100 },
      { name := "Grid Current L2", register := [161], multiplier := 1/100 },
      reserve 162, reserve 163,
      { name := "Inverter Current", register := [164], multiplier := 1/100 },
      reserve 165,
      { name := "AUX Power", register := [166], multiplier := -1 },
      { name := "Grid LD Power", register := [167], multiplier := -1 },
      { name := "Grid L2 Power", register := [168], multiplier := -1 },
      { name := "Grid Power", register := [169], multiplier := -1 },
      reserve 170, reserve 171,
      { name := "Grid CT Power", register := [172], multiplier := -1 },
      reserve 173, reserve 174,
      { name := "Inverter Power", register := [175], multiplier := -1 },
      { name := "Load L1 Power", register := [176], multiplier := -1 },
      { name := "Load L2 Power", register := [177], multiplier := -1 },
      { name := "Load Power", register := [178], multiplier := -1 },
      reserve 179, reserve 180,
      { name := "AUX Voltage", register := [181], multiplier := 1/10 },
      { name := "Battery Temperature", register := [182], multiplier := 1/10 },
      { name := "Battery Voltage", register := [183], multiplier := 1/100 },
      { name := "Battery SOC", register := [184] },
      reserve 185,
      { name := "PV1 Power", register := [186], multiplier := -1 },
      { name := "PV2 Power", register := [187], multiplier := -1 },
      { name := "PV3 Power", register := [188], multiplier := -1 },
      reserve 189,
      { name := "Battery Power", register := [190], multiplier := -1, dataType := some .s16 },
      { name := "Battery Current", register := [191], multiplier := -1/100, dataType := some .s16 },
      { name := "Load Frequency", register := [192], multiplier := 1/100 },
      { name := "Inverter Frequency", register := [193], multiplier := 1/100 },
      { name := "Grid Connected", register := [194], multiplier := 0 },
      reserve 195,
      { name := "AUX Frequency", register := [196], multiplier := 1/10 }] },
  { pollSpeed := some .slow, registerType := some .input, entities := [
      { name := "Battery Charge Limit Current", register := [314], multiplier := -1 },
      { name := "Battery Discharge Limit Current", register := [315], multiplier := -1 }] }]

/-- Holding registers, the settings. -/
def sunsynkHoldingSensors : List GroupDefinition := [
  { pollSpeed := some .once, registerType := some .holding, entities := [
      { name := "Rated Power", register := [16, 17], multiplier := 1/10 }] },
  { pollSpeed := some .slow, registerType := some .holding, entities := [
      { name := "Inverter Enabled", register := [43], multiplier := 0 }] },
  { pollSpeed := some .slow, registerType := some .holding, entities := [
      { name := "Max Solar Power", register := [53] }] },
  { pollSpeed := some .slow, registerType := some .holding, entities := [
      { name := "Control Mode", register := [200], multiplier := 0 },
      { name := "Battery Equalization Voltage", register := [201], multiplier := 1/100 },
      { name := "Battery Absorption Voltage", register := [202], multiplier := 1/100 },
      { name := "Battery Float Voltage", register := [203], multiplier := 1/100 },
      reserve 204, reserve 205, reserve 206, reserve 207, reserve 208, reserve 209,
      { name := "Battery Max Charge Current", register := [210] },
      { name := "Battery Max Discharge Current", register := [211] }] },
  { pollSpeed := some .slow, registerType := some .holding, entities := [
      { name := "Battery Shutdown Capacity", register := [217] },
      { name := "Battery Restart Capacity", register := [218] },
      { name := "Battery Low Capacity", register := [219] },
      { name := "Battery Shutdown Voltage", register := [220], multiplier := 1/100 },
      { name := "Battery Restart Voltage", register := [221], multiplier := 1/100 },
      { name := "Battery Low Voltage", register := [222], multiplier := 1/100 },
      reserve 223, reserve 224, reserve 225, reserve 226, reserve 227, reserve 228, reserve 229,
      { name := "Grid Charge Battery Current", register := [230] },
      reserve 231,
      { name := "Grid Charge Enabled", register := [232], multiplier := 0 },
      reserve 233, reserve 234,
      { name := "Generator Input", register := [235], multiplier := 0 }] },
  { pollSpeed := some .slow, registerType := some .holding, entities := [
      { name := "Priority Load", register := [243], multiplier := 0 },
      { name := "Load Limit", register := [244], multiplier := 0 },
      { name := "Max Sell Power", register := [245] },
      reserve 246,
      { name := "Solar Export", register := [247], multiplier := 0 },
      { name := "Use Timer", register := [248], multiplier := 0 }] },
  { pollSpeed := some .slow, registerType := some .holding, entities := [
      { name := "Prog1 Time", register := [250], multiplier := 0 },
      { name := "Prog2 Time", register := [251], multiplier := 0 },
      { name := "Prog3 Time", register := [252], multiplier := 0 },
      { name := "Prog4 Time", register := [253], multiplier := 0 },
      { name := "Prog5 Time", register := [254], multiplier := 0 },
      { name := "Prog6 Time", register := [255], multiplier := 0 }] },
  { pollSpeed := some .slow, registerType := some .holding, entities := [
      { name := "Prog1 Power", register := [256] },
      { name := "Prog2 Power", register := [257] },
      { name := "Prog3 Power", register := [258] },
      { name := "Prog4 Power", register := [259] },
      { name := "Prog5 Power", register := [260] },
      { name := "Prog6 Power", register := [261] }] },
  { pollSpeed := some .slow, registerType := some .holding, entities := [
      { name := "Prog1 Voltage", register := [262], multiplier := 1/100 },
      { name := "Prog2 Voltage", register := [263], multiplier := 1/100 },
      { name := "Prog3 Voltage", register := [264], multiplier := 1/100 },
      { name := "Prog4 Voltage", register := [265], multiplier := 1/100 },
      { name := "Prog5 Voltage", register := [266], multiplier := 1/100 },
      { name := "Prog6 Voltage", register := [267], multiplier := 1/100 }] },
  { pollSpeed := some .slow, registerType := some .holding, entities := [
      { name := "Prog1 Capacity", register := [268] },
      { name := "Prog2 Capacity", register := [269] },
      { name := "Prog3 Capacity", register := [270] },
      { name := "Prog4 Capacity", register := [271] },
      { name := "Prog5 Capacity", register := [272] },
      { name := "Prog6 Capacity", register := [273] },
      { name := "Prog1 Charge", register := [274], multiplier := 0 },
      { name := "Prog2 Charge", register := [275], multiplier := 0 },
      { name := "Prog3 Charge", register := [276], multiplier := 0 },
      { name := "Prog4 Charge", register := [277], multiplier := 0 },
      { name := "Prog5 Charge", register := [278], multiplier := 0 },
      { name := "Prog6 Charge", register := [279], multiplier := 0 }] },
  { pollSpeed := some .slow, registerType := some .holding, entities := [
      { name := "Battery Charging Voltage", register := [312], multiplier := 1/100 }] },
  { pollSpeed := some .slow, registerType := some .holding, entities := [
      { name := "BMS Protocol", register := [325], multiplier := 0 }] }]

def sunsynkSinglePhaseSensors : List GroupDefinition := sunsynkInputSensors ++ sunsynkHoldingSensors

end HHModbus
