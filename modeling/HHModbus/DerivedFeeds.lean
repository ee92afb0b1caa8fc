import HHModbus.DerivedPower

/-!
# Derived sensors and the groups that are polled

A poll profile leaves groups out, and with them the derived sensors that would stay without a value.
Those that are created get all their sources, so that each round of polls publishes them anew.
-/
namespace HHModbus

open Windows

/-- The multipliers of the derived sensors, 0 where none is listed. -/
def derivedMultipliers : List (String × ℚ) := [
  ("solis_modbus_inverter_dc_power_1", 1 / 10), ("solis_modbus_inverter_dc_power_2", 1 / 10),
  ("solis_modbus_inverter_dc_power_3", 1 / 10), ("solis_modbus_inverter_dc_power_4", 1 / 10),
  ("solis_modbus_inverter_power_factor", 1 / 1000),
  ("solis_modbus_inverter_battery_charge_power", 1 / 10),
  ("solis_modbus_inverter_battery_discharge_power", 1 / 10),
  ("solis_modbus_inverter_battery_power_combined", 1 / 10),
  ("solis_modbus_inverter_today_net_grid_energy", 1 / 10),
  ("solis_modbus_dc_power_1", 1 / 10), ("solis_modbus_dc_power_2", 1 / 10),
  ("solis_modbus_dc_power_3", 1 / 10), ("solis_modbus_dc_power_4", 1 / 10)]

/-- The base sensor that `async_setup_entry` makes of an entry of the table. -/
def SolisEntity.derivedBase (entity : SolisEntity) : DerivedBase :=
  ⟨entity.register, (derivedMultipliers.lookup entity.uniqueKey).getD 0⟩

namespace DerivedBase

variable (order : SetOrder)

theorem has_false_of_subset {x : DerivedBase} {few many : List Nat} (sub : few ⊆ many)
    (none_ : x.has many = false) : x.has few = false := by
  simp only [has, List.any_eq_false] at none_ ⊢
  exact fun r member => none_ r (sub member)

/-- Where the cache has a number nothing raises, unless a branch that needs one finds a text. -/
theorem newValue_of_number (x : DerivedBase) (received : Nat → Nat) {v : SensorValue} {q : ℚ}
    (number : v.number = some q)
    (plain : x.has [33263, 35000] = true →
      x.has [33095, 33079, 33080, 33081, 33082, 43292] = false) :
    ∃ shown, x.newValue order received (some v) = some (some shown) := by
  have base : DerivedValue.ofSensorValue v = .number q := by
    cases v with
    | integer n | scaled n m =>
      cases number
      rfl
    | text s => cases number
  by_cases needs : x.has [33263, 35000] = true
  · -- A branch that needs a number applies, so none that makes a text does.
    have none_ := plain needs
    have status : x.has [33095] = false := has_false_of_subset (by simp) none_
    have factor : x.has [33079, 33080, 33081, 33082] = false := has_false_of_subset (by simp) none_
    have flexible : x.has [43292] = false := has_false_of_subset (by simp) none_
    have negate (r : ℚ) : negated (some (.number r)) = some (some (.number (r * -1))) := rfl
    -- Up to the branches that need a number there is one.
    simp only [newValue, status, factor, flexible, Bool.false_eq_true, if_false, Option.map_some, base,
      replaceIf_false, replaceIf_number, Option.bind_eq_bind, Option.bind_some, negate]
    cases x.has [33263] && x.registrars.length == 2 with
    | true =>
      cases x.has [35000] with
      | true => exact ⟨_, rfl⟩
      | false => exact ⟨_, rfl⟩
    | false =>
      cases x.has [35000] with
      | true => exact ⟨_, rfl⟩
      | false => exact ⟨_, rfl⟩
  · -- No branch looks at the value before it.
    have meter : x.has [33263] = false := by
      apply has_false_of_subset _ (Bool.not_eq_true _ |>.mp needs)
      simp
    have model : x.has [35000] = false := by
      apply has_false_of_subset _ (Bool.not_eq_true _ |>.mp needs)
      simp
    simp only [newValue, meter, model, Bool.false_and, Bool.false_eq_true, if_false, number, base,
      Option.map_some, Option.bind_some, replaceIf_false, Option.bind_eq_bind]
    cases x.has [33095] with
    | true =>
      simp only [if_true, replaceIf_some]
      exact ⟨_, rfl⟩
    | false =>
      simp only [Bool.false_eq_true, if_false, replaceIf_some]
      exact ⟨_, rfl⟩

/-- A sensor without flags. -/
structure Plain (x : DerivedBase) : Prop where
  some_ : x.registrars ≠ []
  few : x.registrars.length < 15
  unflagged : x.sources = x.registrars
  notLastPolled : 90006 ∉ x.registrars
  notClock : 90007 ∉ x.registrars
  plain : x.has [33263, 35000] = true → x.has [33095, 33079, 33080, 33081, 33082, 43292] = false

theorem Plain.computes {x : DerivedBase} (plain : x.Plain) : x.Computes order where
  sourced := plain.unflagged ▸ plain.some_
  notClock := plain.notClock
  notLastPolled := plain.notLastPolled
  value received cache cached := by
    -- Without flags every register is a source, so all of them are cached.
    rw [plain.unflagged] at cached
    have words : x.registrars.filterMap cache ≠ [] := by
      obtain ⟨r, rest, same⟩ := List.exists_cons_of_ne_nil plain.some_
      obtain ⟨word, there⟩ := Option.isSome_iff_exists.mp (cached r (by simp [same]))
      rw [same, List.filterMap_cons, there]
      exact List.cons_ne_nil _ _
    have value : ∃ v q, x.getValue cache = some v ∧ v.number = some q := by
      unfold getValue convertRawValue
      rw [if_pos cached, if_neg words, if_neg (Nat.not_le.mpr plain.few)]
      -- Fewer words than a text has are combined to a number.
      have scaled (n : Int) : ∃ q, (scaleValue n x.multiplier).number = some q := by
        unfold scaleValue
        split
        · exact ⟨_, rfl⟩
        · exact ⟨_, rfl⟩
      split
      · exact ⟨_, (scaled _).choose, rfl, (scaled _).choose_spec⟩
      · exact ⟨_, (scaled _).choose, rfl, (scaled _).choose_spec⟩
    obtain ⟨v, q, same, number⟩ := value
    rw [same]
    exact newValue_of_number order x received number plain.plain

instance (x : DerivedBase) : Decidable x.Plain :=
  decidable_of_iff
    (x.registrars ≠ [] ∧ x.registrars.length < 15 ∧ x.sources = x.registrars ∧
      90006 ∉ x.registrars ∧ 90007 ∉ x.registrars ∧
      (x.has [33263, 35000] = true → x.has [33095, 33079, 33080, 33081, 33082, 43292] = false))
    ⟨fun ⟨a, b, c, d, e, f⟩ => ⟨a, b, c, d, e, f⟩, fun ⟨a, b, c, d, e, f⟩ => ⟨a, b, c, d, e, f⟩⟩

/-- The four sensors with a flag. -/
def flagged : List DerivedBase :=
  [batteryChargePower, batteryDischargePower, gridExportPower, gridImportPower]

theorem computes_flagged (x : DerivedBase) (member : x ∈ flagged) : x.Computes order := by
  simp only [flagged, List.mem_cons, List.not_mem_nil, or_false] at member
  rcases member with rfl | rfl | rfl | rfl
  · exact computes_batteryChargePower order
  · exact computes_batteryDischargePower order
  · exact computes_gridExportPower order
  · exact computes_gridImportPower order

end DerivedBase

/-- The derived sensors of the tables but those of the clock and of the last poll. -/
theorem derivedBase_computes (order : SetOrder) (entity : SolisEntity)
    (listed : entity ∈ hybridSensorsDerived ++ stringSensorsDerived)
    (notLastPolled : 90006 ∉ entity.register) (notClock : 90007 ∉ entity.register) :
    entity.derivedBase.Computes order := by
  -- This is read off the two tables.
  have kinds : ∀ e ∈ hybridSensorsDerived ++ stringSensorsDerived, 90006 ∉ e.register →
      90007 ∉ e.register → e.derivedBase.Plain ∨ e.derivedBase ∈ DerivedBase.flagged := by
    decide +kernel
  rcases kinds entity listed notLastPolled notClock with plain | flag
  · exact plain.computes order
  · exact DerivedBase.computes_flagged order _ flag

/-- Every source is a register that some group of the inverter declares. -/
theorem derived_known (inverter : InverterConfig) (entity : SolisEntity)
    (listed : entity ∈ inverter.sensorsDerived) (notLastPolled : 90006 ∉ entity.register)
    (r : Nat) (source : r ∈ entity.derivedBase.sources) : r ∈ registersDeclaredBy inverter.sensors := by
  have hybrid : ∀ e ∈ hybridSensorsDerived, 90006 ∉ e.register →
      ∀ r ∈ e.derivedBase.sources, r ∈ registersDeclaredBy hybridSensors := by
    decide +kernel
  have string : ∀ e ∈ stringSensorsDerived, 90006 ∉ e.register →
      ∀ r ∈ e.derivedBase.sources, r ∈ registersDeclaredBy stringSensors := by
    decide +kernel
  unfold InverterConfig.sensorsDerived at listed
  unfold InverterConfig.sensors
  cases kind : inverter.isString with
  | true =>
    rw [kind] at listed
    exact string entity listed notLastPolled r source
  | false =>
    rw [kind] at listed
    exact hybrid entity listed notLastPolled r source

/-- A derived sensor that is created has all its sources polled. -/
theorem derived_polled (config : Config) (inverter : InverterConfig) (entity : SolisEntity)
    (created : entity ∈ derivedEntities config inverter) (notLastPolled : 90006 ∉ entity.register)
    (r : Nat) (source : r ∈ entity.derivedBase.sources) :
    r ∈ registersDeclaredBy (selectedGroups config inverter) := by
  obtain ⟨listed, supported⟩ := List.mem_filter.mp created
  simp only [Bool.and_eq_true, derivedSensorIsSupported, List.all_eq_true, Bool.or_eq_true,
    decide_eq_true_eq] at supported
  -- The filter asks of each register that it is polled, or that nobody declares it.
  have own : r ∈ entity.register := DerivedBase.mem_sources source
  exact (supported.1 r own).resolve_left
    (not_not.mpr (derived_known inverter entity listed notLastPolled r source))

/-- **No derived sensor is left without a value.** Whatever the poll profile, and whatever has
happened before: in a round that reads every register of the groups that are polled, each derived
sensor that is created is published, and shows the value of a window that ends in this round. -/
theorem derived_published (config : Config) (inverter : InverterConfig) (entity : SolisEntity)
    (created : entity ∈ derivedEntities config inverter) (notLastPolled : 90006 ∉ entity.register)
    (notClock : 90007 ∉ entity.register) (order : SetOrder) (cache : Nat → Option Nat)
    (events round : List RegisterEvent)
    (reads : ∀ r ∈ registersDeclaredBy (selectedGroups config inverter),
      ∃ value m, .read r value m ∈ round) :
    ∃ before window rest v,
      LastWindow RegisterEvent.announced entity.derivedBase.sources (events ++ round) before window rest ∧
      events.length < (before ++ window).length ∧
      entity.derivedBase.shownAt order cache before window = some v ∧
      ((DerivedRun.run order cache (events ++ round)).entity entity.derivedBase).nativeValue = some v := by
  have listed : entity ∈ hybridSensorsDerived ++ stringSensorsDerived := by
    have table := (List.mem_filter.mp created).1
    unfold InverterConfig.sensorsDerived at table
    split at table
    · exact List.mem_append_right _ table
    · exact List.mem_append_left _ table
  have computes := derivedBase_computes order entity listed notLastPolled notClock
  -- The round announces every source, and so closes a window.
  have covers : Covers RegisterEvent.announced entity.derivedBase.sources round := by
    apply covers_of_mem
    intro r source
    obtain ⟨value, m, member⟩ := reads r (derived_polled config inverter entity created notLastPolled r source)
    exact ⟨_, member, value, rfl⟩
  have inStep := DerivedRun.inStep _ computes cache (events ++ round)
  obtain ⟨before, window, rest, last, late⟩ := exists_lastWindow computes.sourced events covers
  -- What a window has announced is cached at its end, so there is a value.
  obtain ⟨v, value⟩ := computes.value (fun r => (entity.derivedBase.collected window r).getD 0)
    (DerivedRun.run order cache (before ++ window)).cache
    fun r source => DerivedRun.cached_of_announced cache _ r (last.covers.append_left before r source)
  have shown : entity.derivedBase.shownAt order cache before window = some v := by
    rw [DerivedBase.shownAt, value]
    rfl
  refine ⟨before, window, rest, v, last, late, shown, ?_⟩
  rw [inStep.shown, last.made]
  exact shown

/-- Of the extreme profile, a derived sensor for the model is left. -/
def extremeConfig : Config := fun key => if key = .pollProfile then some (.text "extreme") else none

def smartHybrid : InverterConfig := ⟨"S6-EH1P", .hybrid, [.smartPort]⟩

def modelDefinition : SolisEntity :=
  { unique := some "solis_modbus_inverter_model_definition", register := [35000] }

/-- A round of the extreme profile in which every register is 0. -/
def extremeRound : List RegisterEvent :=
  (registersDeclaredBy (selectedGroups extremeConfig smartHybrid)).map fun r =>
    .read r 0 ⟨none, noon, fun _ => false⟩

theorem derived_published_extreme :
    ∃ v, ((DerivedRun.run .asAdded (fun _ => none) ([] ++ extremeRound)).entity
      modelDefinition.derivedBase).nativeValue = some v := by
  have listed : modelDefinition ∈ smartHybrid.sensorsDerived := List.mem_of_getLast? rfl
  have created : modelDefinition ∈ derivedEntities extremeConfig smartHybrid :=
    List.mem_filter.mpr ⟨listed, by decide +kernel⟩
  obtain ⟨_, _, _, v, -, -, -, shown⟩ := derived_published extremeConfig smartHybrid modelDefinition
    created (by decide) (by decide) .asAdded (fun _ => none) [] extremeRound
    fun r member => ⟨0, _, List.mem_map_of_mem member⟩
  exact ⟨v, shown⟩

end HHModbus
