import HHModbus.RecoveryGroups
import HHModbus.SolisSensor
import HHModbus.SunsynkSensors

/-!
# What one read of a group delivers

When the block that is read for a group is the union of its sensors' registers.
-/
namespace HHModbus

namespace SensorGroup

/-- `validate_sequential_registrars`: the gaps it logs, and nothing else happens. -/
def validateSequentialRegistrars (g : SensorGroup) : List (Nat × Nat) :=
  Ranges.gaps ((registersOf g.sensors).dedup.insertionSort (· ≤ ·))

/-- A register belongs to the group when one of its sensors uses it. -/
def Uses (g : SensorGroup) (r : Nat) : Prop := ∃ x ∈ g.sensors, r ∈ x.registrars

instance (g : SensorGroup) (r : Nat) : Decidable (g.Uses r) :=
  inferInstanceAs (Decidable (∃ x ∈ g.sensors, _))

/-- The block is the union of the sensors' registers, and so a successful read of it
refreshes all of them and touches no other register. -/
structure Delivers (g : SensorGroup) : Prop where
  block : ∀ r, r ∈ g.block ↔ g.Uses r
  refreshed : ∀ (c : ModbusController) (x : BaseSensor) (enabled : Bool) (s t : DataRetrieval)
    (values : List Nat), s.poll c x enabled g values = some t → ∀ r, g.Uses r →
      t.cacheGet c r =
        some (s.filtered c r ⟨values.getD (r - g.startRegister) 0, g.registerType⟩)
  untouched : ∀ (c : ModbusController) (x : BaseSensor) (enabled : Bool) (s t : DataRetrieval)
    (values : List Nat), s.poll c x enabled g values = some t → ∀ r, ¬ g.Uses r →
      t.cacheGet c r = s.cacheGet c r

theorem uses_iff (g : SensorGroup) (r : Nat) : g.Uses r ↔ r ∈ registersOf g.sensors :=
  List.mem_flatMap.symm

/-- The block has as many registers as the sensors list, so it is their union only if they
list nothing twice. -/
theorem block_uses_iff (g : SensorGroup) : (∀ r, r ∈ g.block ↔ g.Uses r) ↔
    (registersOf g.sensors).Nodup ∧ g.validateSequentialRegistrars = [] := by
  rw [validateSequentialRegistrars, ← Ranges.exists_tiles_iff]
  constructor
  · intro same
    refine ⟨g.startRegister, g.registrarCount, .of_cover (fun r above below => ?_) ?_⟩
    · rw [← uses_iff, ← same, block, List.mem_range'_1]
      exact ⟨above, below⟩
    · exact g.registrarCount_eq.symm
  · rintro ⟨lo, n, tiles⟩ r
    rw [uses_iff, List.Perm.mem_iff (g.tiled_of_tiles lo n tiles), block]

theorem Delivers.of_block {g : SensorGroup} (same : ∀ r, r ∈ g.block ↔ g.Uses r) : g.Delivers where
  block := same
  refreshed := by
    intro c x enabled s t values polled r uses
    have effect := DataRetrieval.poll_polled c x enabled s t g values polled
    refine effect.inside (r, _) ?_
    rw [DataRetrieval.announced_eq_map, effect.length]
    exact List.mem_map_of_mem ((same r).mpr uses)
  untouched := by
    intro c x enabled s t values polled r free
    have effect := DataRetrieval.poll_polled c x enabled s t g values polled
    exact effect.outside r fun inside => free ((same r).mp inside)

/-- **When a poll delivers every sensor**: for any group, exactly when its sensors list no
register twice and leave no gap. -/
theorem delivers_iff (g : SensorGroup) : g.Delivers ↔
    (registersOf g.sensors).Nodup ∧ g.validateSequentialRegistrars = [] := by
  rw [← block_uses_iff]
  exact ⟨Delivers.block, Delivers.of_block⟩

/-- The groups that recovery builds deliver, if the sensors it splits are ranges that do not
overlap. -/
theorem fromSensors_delivers (enabled : Nat → Bool) (sensors : List BaseSensor)
    (contiguous : ∀ s ∈ sensors, s.Contiguous) (disjoint : (registersOf sensors).Nodup) (id : Nat)
    (pollSpeed : PollSpeed) (identification : Option String) (registerType : Option RegisterType) :
    ∀ cluster ∈ clusterSensors enabled sensors,
      (fromSensors id cluster pollSpeed identification registerType).Delivers := by
  intro cluster member
  obtain ⟨lo, n, tiles⟩ := clusterSensors_tiles enabled sensors contiguous disjoint cluster member
  apply Delivers.of_block
  intro r
  rw [uses_iff, List.Perm.mem_iff (tiled_of_tiles _ lo n tiles), block]

theorem registersOf_ofDefinition (id firstId : Nat) (g : GroupDefinition) :
    registersOf (ofDefinition id firstId g).sensors = g.entities.flatMap (·.register) := by
  have registers (e : SensorDefinition × Nat) : (e.1.sensor e.2).registrars = e.1.register := rfl
  simp only [registersOf, ofDefinition, List.flatMap_map, registers]
  conv_rhs => rw [← List.zipIdx_map_fst firstId g.entities, List.flatMap_map]

/-- The groups of the Sun-Synk map deliver, but for the one that polls Total Grid Import as
78 and 80. -/
theorem sunsynk_delivers_iff (id firstId : Nat) (g : GroupDefinition)
    (member : g ∈ sunsynkSinglePhaseSensors) :
    (ofDefinition id firstId g).Delivers ↔ [78, 80] ∉ g.entities.map (·.register) := by
  have table : ∀ g ∈ sunsynkSinglePhaseSensors,
      ((g.entities.flatMap (·.register)).Nodup ∧
        Ranges.gaps ((g.entities.flatMap (·.register)).dedup.insertionSort (· ≤ ·)) = []) ↔
      [78, 80] ∉ g.entities.map (·.register) := by decide +kernel
  rw [← table g member, ← registersOf_ofDefinition id firstId g]
  have same := block_uses_iff (ofDefinition id firstId g)
  exact ⟨fun delivers => same.mp delivers.block, fun even => .of_block (same.mpr even)⟩

/-- That group reads 79, which none of its sensors uses, and never 80. -/
theorem totalGridImport_undelivered :
    let g := ofDefinition 1 4 sunsynkSinglePhaseSensors[1]
    79 ∈ g.block ∧ ¬ g.Uses 79 ∧ g.Uses 80 ∧ 80 ∉ g.block ∧ ¬ g.Delivers := by
  have reads : 79 ∈ (ofDefinition 1 4 sunsynkSinglePhaseSensors[1]).block := by decide
  have unused : ¬ (ofDefinition 1 4 sunsynkSinglePhaseSensors[1]).Uses 79 := by decide
  have used : (ofDefinition 1 4 sunsynkSinglePhaseSensors[1]).Uses 80 := by decide
  have missed : 80 ∉ (ofDefinition 1 4 sunsynkSinglePhaseSensors[1]).block := by decide
  exact ⟨reads, unused, used, missed, fun delivers => unused ((delivers.block 79).mp reads)⟩

end SensorGroup

end HHModbus
