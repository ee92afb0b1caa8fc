import HHModbus.SolisSensors
import Mathlib.Logic.Function.Basic

/-!
# The configuration of a Solis entry

The dictionaries `entry.data` and `entry.options`, and what the setup reads from them: the inverter
with its features, and the poll profile with the sensor groups it selects.
-/
namespace HHModbus

inductive ConfigKey where
  | inverterBrand
  | connectionType
  | inverterSerial
  | slave
  | identification
  | pollIntervalFast
  | pollIntervalNormal
  | pollIntervalSlow
  | pollProfile
  | essentialOnly
  | extremeIncludeBattery
  | extremeIncludeSmartPort
  | suppressNightOfflineIssue
  | clockSync
  | model
  | type
  | connection
  | hasV2
  | hasPv
  | hasBattery
  | hasHvBattery
  | hasGenerator
  | hasAcCoupling
  | hasParallel
  | hasDualMeter
  | hasEpm
  | host
  | port
  | serialPort
  | baudrate
  | bytesize
  | parity
  | stopbits
  deriving DecidableEq

inductive ConfigValue where
  | text (s : String)
  | number (i : Int)
  | flag (b : Bool)
  | null
  deriving DecidableEq

/-- Whether Python takes the value for true. -/
def ConfigValue.truthy : ConfigValue → Bool
  | text s => s != ""
  | number i => i != 0
  | flag b => b
  | null => false

abbrev Config := ConfigKey → Option ConfigValue

namespace Config

/-- `{**c, **d}`. -/
def merge (c d : Config) : Config := fun k => (d k).or (c k)

def set (c : Config) (k : ConfigKey) (v : ConfigValue) : Config := Function.update c k (some v)

/-- `c.get(k)`, where it is a string. -/
def text? (c : Config) (k : ConfigKey) : Option String :=
  match c k with
  | some (.text s) => some s
  | _ => none

/-- `c.get(k, default)`, used as a condition. -/
def flag (c : Config) (k : ConfigKey) (default : Bool) : Bool :=
  match c k with
  | some v => v.truthy
  | none => default

@[simp] theorem merge_apply (c d : Config) (k : ConfigKey) : c.merge d k = (d k).or (c k) := rfl

@[simp] theorem set_self (c : Config) (k : ConfigKey) (v : ConfigValue) : c.set k v k = some v :=
  Function.update_self ..

theorem set_of_ne (c : Config) {k l : ConfigKey} (other : l ≠ k) (v : ConfigValue) :
    c.set k v l = c l := Function.update_of_ne other ..

end Config

/-! ### The inverter -/

structure InverterOptions where
  pv : Bool
  battery : Bool
  hvBattery : Bool
  generator : Bool
  v2 : Bool
  acCoupling : Bool
  parallel : Bool
  dualMeter : Bool
  epm : Bool

structure InverterConfig where
  model : String
  type : InverterType
  features : List InverterFeature

/-- `SOLIS_INVERTERS`, with the intrinsic features. -/
def solisInverters : List InverterConfig := [
  ⟨"S6-EH1P", .hybrid, [.smartPort]⟩,
  ⟨"S6-EH2P", .hybrid, [.smartPort]⟩,
  ⟨"S6-EH3P", .hybrid, [.smartPort]⟩,
  ⟨"S6-EO1P", .hybrid, [.smartPort]⟩,
  ⟨"S6-GR1P", .grid, [.smartPort]⟩,
  ⟨"S6-EA1P", .energy, [.smartPort]⟩,
  ⟨"S6-EH3P10K-H-ZP", .hybrid, [.smartPort, .tcp, .zonneplan]⟩,
  ⟨"S5-EH1P", .hybrid, []⟩,
  ⟨"S5-EO1P", .hybrid, []⟩,
  ⟨"S5-GR1P", .grid, []⟩,
  ⟨"S5-GR3P", .grid, []⟩,
  ⟨"S5-GC", .grid, []⟩,
  ⟨"RHI-*", .hybrid, []⟩,
  ⟨"RHI-1P", .hybrid, []⟩,
  ⟨"RHI-3P", .hybrid, []⟩,
  ⟨"RAI-*", .energy, []⟩,
  ⟨"RAI-3K-48ES-5G", .hybrid, []⟩,
  ⟨"3P(3-20)K-4G", .grid, [.pv]⟩,
  ⟨"1P(2.5-6)K-4G", .grid, []⟩,
  ⟨"WAVESHARE", .hybrid, []⟩]

/-- The keys of `SOLIS_MODELS`. -/
def solisModels : List String := solisInverters.map InverterConfig.model

def inverterOptionsFromConfig (config : Config) (template : InverterConfig) : InverterOptions where
  v2 := config.flag .hasV2 true
  pv := config.flag .hasPv (template.type ∈ [InverterType.hybrid, .grid, .waveshare])
  acCoupling := config.flag .hasAcCoupling false
  parallel := config.flag .hasParallel false
  generator := config.flag .hasGenerator true
  battery := config.flag .hasBattery true
  hvBattery := config.flag .hasHvBattery false
  dualMeter := config.flag .hasDualMeter false
  epm := config.flag .hasEpm true

/-- `clone_with_options`, which rebuilds the features. -/
def InverterConfig.cloneWithOptions (template : InverterConfig) (opts : InverterOptions)
    (connection : String) : InverterConfig where
  model := template.model
  type := template.type
  features := template.features ++ [.bms] ++ (if opts.pv then [.pv] else []) ++
    (if opts.generator then [.generator] else []) ++ (if opts.battery then [.battery] else []) ++
    (if opts.hvBattery then [.hvBattery] else []) ++ (if opts.v2 then [.v2] else []) ++
    (if opts.acCoupling then [.acCoupling] else []) ++ (if opts.parallel then [.parallel] else []) ++
    (if opts.dualMeter then [.dualMeter] else []) ++ (if opts.epm then [.epm] else []) ++
    if template.type = .waveshare || connection = "WAVESHARE" then [.tcp] else []

/-- The inverter of an entry; `none` if its model is not known. -/
def inverterConfigOf (config : Config) : Option InverterConfig :=
  let model := (config.text? .model).getD
    (match (config.text? .type).getD "hybrid" with
      | "hybrid" => "S6-EH3P"
      | "hybrid-waveshare" => "WAVESHARE"
      | _ => "S6-GR1P")
  (solisInverters.find? (·.model = model)).map fun template =>
    template.cloneWithOptions (inverterOptionsFromConfig config template)
      ((config.text? .connection).getD "S2_WL_ST")

namespace InverterConfig

def isString (inverter : InverterConfig) : Bool := inverter.type ∈ [InverterType.string, .grid]

def sensors (inverter : InverterConfig) : List SensorGroupDefinition :=
  if inverter.isString then stringSensors else hybridSensors

def sensorsDerived (inverter : InverterConfig) : List SolisEntity :=
  if inverter.isString then stringSensorsDerived else hybridSensorsDerived

/-- A group whose required features are all missing is skipped. -/
def supports (inverter : InverterConfig) (group : SensorGroupDefinition) : Bool :=
  group.featureRequirement.isEmpty || group.featureRequirement.any (· ∈ inverter.features)

end InverterConfig

/-! ### The poll profile -/

inductive PollProfile where
  | full
  | essential
  | extreme
  deriving DecidableEq, Repr

namespace PollProfile

def key : PollProfile → String
  | full => "full"
  | essential => "essential"
  | extreme => "extreme"

/-- The profile that a string is the key of. -/
def ofKey? (s : String) : Option PollProfile :=
  [full, essential, extreme].find? (·.key = s)

theorem ofKey?_key (p : PollProfile) : ofKey? p.key = some p := by
  cases p <;> decide

end PollProfile

/-- `get_poll_profile`, on the merged dictionaries. -/
def getPollProfile (config : Config) : PollProfile :=
  match (config.text? .pollProfile).bind PollProfile.ofKey? with
  | some profile => profile
  | none => if config.flag .essentialOnly false then .essential else .full

/-- The profile that is in effect: extreme falls back where no group belongs to it. -/
def effectiveProfile (inverter : InverterConfig) (profile : PollProfile) : PollProfile :=
  if profile = .extreme && !inverter.sensors.any SensorGroupDefinition.extreme then .essential
  else profile

/-- `group_in_poll_profile`. -/
def groupInPollProfile (group : SensorGroupDefinition) (profile : PollProfile)
    (includeBattery includeSmartPort : Bool) : Bool :=
  match profile with
  | .essential => group.essential
  | .extreme => group.extreme || (includeBattery && group.extremeBattery) ||
      (includeSmartPort && group.extremeSmartPort)
  | .full => true

/-- The groups an entry polls. -/
def selectedGroups (config : Config) (inverter : InverterConfig) : List SensorGroupDefinition :=
  inverter.sensors.filter fun group =>
    inverter.supports group &&
      groupInPollProfile group (effectiveProfile inverter (getPollProfile config))
        (config.flag .extremeIncludeBattery false) (config.flag .extremeIncludeSmartPort false)

/-- Only the string inverters have no group for the extreme profile. -/
theorem effectiveProfile_eq (inverter : InverterConfig) (profile : PollProfile) :
    effectiveProfile inverter profile =
      if profile = .extreme ∧ inverter.isString = true then .essential else profile := by
  have hybrid : hybridSensors.any SensorGroupDefinition.extreme = true := by decide
  have string : stringSensors.any SensorGroupDefinition.extreme = false := by decide
  unfold effectiveProfile InverterConfig.sensors
  cases profile <;> cases inverter.isString <;> simp [hybrid, string]

end HHModbus
