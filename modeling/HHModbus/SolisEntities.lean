import HHModbus.ConfigFlow
import HHModbus.SwitchSensors

/-!
# The entities of a Solis entry and their unique ids

`unique_id_generator` and `unique_id_generator_binary`, and what the five platforms create for an
entry. Of the tables of times, selects and switches only what the ids are made of is kept.
-/
namespace HHModbus

def domain : String := "hh_modbus_control"

/-! ### Unique ids -/

/-- What the generators read of a controller. -/
structure IdSource where
  deviceSerialNumber : Option String
  identification : Option String
  host : String

namespace IdSource

/-- What stands behind the domain in an id. -/
def owner (c : IdSource) : String :=
  match c.deviceSerialNumber, c.identification with
  | some serial, _ => serial
  | none, some identification => identification
  | none, none => c.host

end IdSource

/-- An id of the integration for this owner. -/
def idOf (owner key : String) : String := domain ++ "_" ++ owner ++ "_" ++ key

def uniqueIdGenerator (c : IdSource) (third : String) (fourth : Option String) : String :=
  match fourth with
  | none => idOf c.owner third
  | some fourth => idOf c.owner (third ++ "_" ++ fourth)

def uniqueIdGeneratorBinary (c : IdSource) (register : Nat) (bitPosition onValue : Option Nat) :
    String :=
  let last :=
    match onValue, bitPosition with
    | some value, _ => toString value
    | none, some bit => toString bit
    | none, none => "None"
  idOf c.owner (toString register ++ "_" ++ last)

/-! ### Entities -/

inductive EntityPlatform where
  | sensor
  | number
  | time
  | select
  | switch
  deriving DecidableEq, Repr

/-- An entity that a platform creates, with what its id is made of. -/
inductive SolisEntityId where
  | sensor (unique : String)
  | derivedSensor (unique : String)
  | number (unique : String)
  | time (unique : String)
  | select (register : Nat)
  | switch (register : Nat) (bitPosition onValue : Option Nat)
  deriving DecidableEq, Repr

namespace SolisEntityId

def platform : SolisEntityId → EntityPlatform
  | sensor _ | derivedSensor _ => .sensor
  | number _ => .number
  | time _ => .time
  | select _ => .select
  | switch _ _ _ => .switch

/-- `_attr_unique_id`. -/
def uniqueId (c : IdSource) : SolisEntityId → String
  | sensor unique | derivedSensor unique | number unique | time unique =>
    uniqueIdGenerator c unique none
  | select register => uniqueIdGenerator c (toString register) (some "select")
  | switch register bitPosition onValue => uniqueIdGeneratorBinary c register bitPosition onValue

end SolisEntityId

/-- `entity.get("unique", "reserve")`. -/
def SolisEntity.uniqueKey (entity : SolisEntity) : String := entity.unique.getD "reserve"

def timeChargingRegisters : List Nat := [
  43143, 43145, 43147, 43149, 43153, 43155, 43157, 43159, 43163, 43165, 43167, 43169, 43173, 43175,
  43177, 43179, 43183, 43185, 43187, 43189]

def gridTimeOfUseRegisters : List Nat := [
  43711, 43713, 43753, 43755, 43718, 43720, 43760, 43762, 43725, 43727, 43767, 43769, 43732, 43734,
  43774, 43776, 43739, 43741, 43781, 43783, 43746, 43748, 43788, 43790]

namespace InverterConfig

def isHybridOrEnergy (inverter : InverterConfig) : Bool := inverter.type ∈ [InverterType.hybrid, .energy]

/-- `get_time_sensors`, the `unique` of each. -/
def timeSensors (inverter : InverterConfig) : List String :=
  let registers :=
    (if inverter.isHybridOrEnergy then timeChargingRegisters else []) ++
      if inverter.isHybridOrEnergy && InverterFeature.v2 ∈ inverter.features then
        gridTimeOfUseRegisters
      else []
  registers.map fun register => "time_entity_" ++ toString register

/-- `get_select_sensors`, the register of each. -/
def selectSensors (inverter : InverterConfig) : List Nat :=
  -- Both kinds of battery have their models under 43009.
  if inverter.isHybridOrEnergy then [43132, 43135, 43110, 43009] else []

end InverterConfig

def switchBits (register : Nat) (bits : List Nat) : List SolisEntityId :=
  bits.map fun bit => .switch register (some bit) none

def switchOn (register onValue : Nat) : List SolisEntityId := [.switch register none (some onValue)]

/-- The virtual switch that enables the connection. -/
def connectionSwitch : List SolisEntityId := switchBits 90005 [0]

/-- `get_switch_sensors`. -/
def InverterConfig.switchSensors (inverter : InverterConfig) : List SolisEntityId :=
  connectionSwitch ++
    if inverter.isHybridOrEnergy then
      switchOn 43007 190 ++ switchBits 43073 [4] ++ switchOn 43070 170 ++
        (storageModeSwitches.map fun d => .switch d.register d.bitPosition d.onValue) ++
        switchOn 43111 1 ++ switchBits 43365 [0, 1, 2, 3, 4] ++
        switchBits 43815 [0, 1, 2, 3, 4, 5] ++ switchBits 43340 [0, 1] ++
        switchBits 43483 [0, 1, 2, 3, 4, 5, 6, 7] ++
        switchBits 43302 [0, 1, 3, 4, 8, 9, 12, 13, 14] ++
        switchBits 43249 [0, 1, 2, 3, 4, 5, 6, 7] ++
        ([rcForceBatteryCharge, rcForceBatteryDischarge].map fun d =>
          .switch d.register d.bitPosition d.onValue) ++
        switchOn 43363 1 ++ switchOn 43292 170 ++ switchBits 44280 [4] ++
        switchBits 43707 [0, 1, 2, 3, 4, 5, 6, 7, 8, 9, 10, 11]
    else if inverter.isString then switchOn 3089 170
    else []

/-- `registers_declared_by`. -/
def registersDeclaredBy (groups : List SensorGroupDefinition) : List Nat :=
  groups.flatMap fun group => group.entities.flatMap SolisEntity.register

/-- `derived_sensor_is_supported`. -/
def derivedSensorIsSupported (entity : SolisEntity) (polledRegisters knownRegisters : List Nat) :
    Bool :=
  entity.register.all fun register => register ∉ knownRegisters || register ∈ polledRegisters

/-- `is_clock_sync_sensor`. -/
def isClockSyncSensor (entity : SolisEntity) : Bool := 90007 ∈ entity.register

/-- The entities of the groups that are polled, without the reserve. -/
def polledEntities (config : Config) (inverter : InverterConfig) : List SolisEntity :=
  (selectedGroups config inverter).flatMap fun group =>
    group.entities.filter fun entity => entity.unique.isSome

/-- The derived sensors of an entry. -/
def derivedEntities (config : Config) (inverter : InverterConfig) : List SolisEntity :=
  inverter.sensorsDerived.filter fun entity =>
    derivedSensorIsSupported entity (registersDeclaredBy (selectedGroups config inverter))
      (registersDeclaredBy inverter.sensors) &&
    (config.flag .clockSync true || !isClockSyncSensor entity)

/-- What the platforms create for an inverter. -/
def platformEntities (config : Config) (inverter : InverterConfig) : List SolisEntityId :=
  let polled := polledEntities config inverter
  -- `is_essential_only`, by the profile that was chosen.
  let essentialOnly := getPollProfile config != .full
  (polled.map fun entity => .sensor entity.uniqueKey) ++
    ((derivedEntities config inverter).map fun entity => .derivedSensor entity.uniqueKey) ++
    if essentialOnly then connectionSwitch
    else
      ((polled.filter SolisEntity.editable).map fun entity => .number entity.uniqueKey) ++
        (inverter.timeSensors.map fun unique => .time unique) ++
        (inverter.selectSensors.map fun register => .select register) ++ inverter.switchSensors

/-- What the integration creates for an entry. -/
def createdEntities (e : ConfigEntry) : List SolisEntityId :=
  match asyncSetupEntry e with
  | some setup => platformEntities e.config setup.inverter
  | none => []

end HHModbus
