import HHModbus.Lib.Keys
import HHModbus.SolisEntities

/-!
# The keys in the ids of sensors and times

No key of the tables ends with another one behind an underscore, so the id says which key it has,
whatever stands before it.
-/
namespace HHModbus

open Keys

/-- The characters of a string as numbers, which are compared fast. -/
def charCodes (s : String) : List Nat := s.toList.map Char.toNat

theorem charCodes_append (s t : String) : charCodes (s ++ t) = charCodes s ++ charCodes t := by
  simp [charCodes]

theorem charCodes_inj {s t : String} : charCodes s = charCodes t ↔ s = t := by
  refine ⟨fun same => ?_, congrArg charCodes⟩
  refine String.toList_injective (List.map_injective_iff.mpr ?_ same)
  intro c d
  exact Char.toNat_inj.mp

def underscore : Nat := '_'.toNat

/-- What the keys of sensors begin with. -/
def sensorMark : List Nat :=
  ['s', 'o', 'l', 'i', 's', '_', 'm', 'o', 'd', 'b', 'u', 's', '_'].map Char.toNat

/-- What the keys of times begin with. -/
def timeMark : List Nat := ['t', 'i', 'm', 'e', '_', 'e', 'n', 't', 'i', 't', 'y', '_'].map Char.toNat

/-- The string is a key that begins with the mark and does not repeat it. -/
def IsKey (mark : List Nat) (key : String) : Prop := Marked underscore mark (charCodes key)

def entityKeys (group : SensorGroupDefinition) : List String :=
  (group.entities.filter fun entity => entity.unique.isSome).map SolisEntity.uniqueKey

def InverterConfig.sensorKeys (inverter : InverterConfig) : List String :=
  inverter.sensors.flatMap entityKeys

def InverterConfig.derivedKeys (inverter : InverterConfig) : List String :=
  inverter.sensorsDerived.map SolisEntity.uniqueKey

/-! ### The tables -/

/-- A number for the spelling of a key. -/
def spellingCode (key : List Char) : Nat := (key.map Char.toNat).foldl (fun n c => 256 * n + c) 0

/-- What is evaluated for a table and its derived sensors. -/
structure KeysChecked (sensors derived : List (List Char)) : Prop where
  marked : ∀ key ∈ sensors ++ derived, isMarked underscore sensorMark (key.map Char.toNat) = true
  apart : ∀ code ∈ derived.map spellingCode, code ∉ sensors.map spellingCode

/-- The keys can be spelled out and pass the check. -/
def SpelledAndChecked (sensors derived : List String) : Prop :=
  ∃ spelling spelling', Spelled spelling sensors ∧ Spelled spelling' derived ∧
    KeysChecked spelling spelling'

theorem hybridKeys_checked : SpelledAndChecked (hybridSensors.flatMap entityKeys)
    (hybridSensorsDerived.map SolisEntity.uniqueKey) := by
  -- The spellings are found by unification with the literals of the tables.
  apply Exists.intro
  apply Exists.intro
  apply And.intro
  · repeat apply Spelled.cons
    exact .nil
  · apply And.intro
    · repeat apply Spelled.cons
      exact .nil
    · constructor
      · decide +kernel
      · decide +kernel

theorem stringKeys_checked : SpelledAndChecked (stringSensors.flatMap entityKeys)
    (stringSensorsDerived.map SolisEntity.uniqueKey) := by
  apply Exists.intro
  apply Exists.intro
  apply And.intro
  · repeat apply Spelled.cons
    exact .nil
  · apply And.intro
    · repeat apply Spelled.cons
      exact .nil
    · constructor
      · decide +kernel
      · decide +kernel

namespace InverterConfig

variable (inverter : InverterConfig)

theorem keys_checked : SpelledAndChecked inverter.sensorKeys inverter.derivedKeys := by
  unfold sensorKeys derivedKeys sensors sensorsDerived
  cases inverter.isString with
  | false => exact hybridKeys_checked
  | true => exact stringKeys_checked

theorem isKey_sensorKeys {key : String} (member : key ∈ inverter.sensorKeys) :
    IsKey sensorMark key := by
  obtain ⟨spelling, spelling', spelled, -, checked⟩ := inverter.keys_checked
  exact marked_of_isMarked (checked.marked _ (List.mem_append_left _ (spelled.toList_mem member)))

theorem isKey_derivedKeys {key : String} (member : key ∈ inverter.derivedKeys) :
    IsKey sensorMark key := by
  obtain ⟨spelling, spelling', -, spelled', checked⟩ := inverter.keys_checked
  exact marked_of_isMarked (checked.marked _ (List.mem_append_right _ (spelled'.toList_mem member)))

/-- No derived sensor has the key of another sensor. -/
theorem notMem_sensorKeys {key : String} (member : key ∈ inverter.derivedKeys) :
    key ∉ inverter.sensorKeys := by
  intro other
  obtain ⟨spelling, spelling', spelled, spelled', checked⟩ := inverter.keys_checked
  exact checked.apart _ (List.mem_map_of_mem (spelled'.toList_mem member))
    (List.mem_map_of_mem (spelled.toList_mem other))

theorem isKey_timeSensors {key : String} (member : key ∈ inverter.timeSensors) :
    IsKey timeMark key := by
  have all : ∀ register ∈ timeChargingRegisters ++ gridTimeOfUseRegisters,
      isMarked underscore timeMark (charCodes ("time_entity_" ++ toString register)) = true := by
    decide +kernel
  simp only [timeSensors, List.mem_map] at member
  obtain ⟨register, member, rfl⟩ := member
  refine marked_of_isMarked (all register ?_)
  rcases List.mem_append.mp member with base | v2
  · split at base
    · exact List.mem_append_left _ base
    · cases base
  · split at v2
    · exact List.mem_append_right _ v2
    · cases v2

end InverterConfig

end HHModbus
