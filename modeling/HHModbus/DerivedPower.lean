import Mathlib.Tactic.NormNum
import HHModbus.DerivedSensor
import HHModbus.SolisEntities

/-!
# The power sensors that belong together

Charge, discharge and net power of the battery come from the same three registers, and the grid's
export, import and net power from the two of the meter. Each is an entity of its own, yet they are
published at the same moments and from the same values, so what they show adds up at any time.
-/
namespace HHModbus

open Windows

/-! ### Entities that are published with every window -/

namespace DerivedBase

variable (order : SetOrder)

/-- A sensor without a branch of its own for a synthetic register, which has a value as soon as its
sources are cached. -/
structure Computes (x : DerivedBase) : Prop where
  sourced : x.sources ≠ []
  notClock : 90007 ∉ x.registrars
  notLastPolled : 90006 ∉ x.registrars
  value : ∀ received cache, (∀ r ∈ x.sources, (cache r).isSome = true) →
    ∃ v, x.newValue order received (x.getValue cache) = some (some v)

/-- What the sensor has of its own registers from some events. -/
def collected (x : DerivedBase) (events : List RegisterEvent) (register : Nat) : Option Nat :=
  if register ∈ x.registrars then lastAnnounced events register else none

/-- What the sensor shows after a window. -/
def shownAt (x : DerivedBase) (cache : Nat → Option Nat) (before window : List RegisterEvent) :
    Option DerivedValue :=
  (x.newValue order (fun r => (x.collected window r).getD 0)
    (x.getValue (DerivedRun.run order cache (before ++ window)).cache)).join

theorem mem_sources {x : DerivedBase} {r : Nat} (member : r ∈ x.sources) : r ∈ x.registrars :=
  (List.mem_filter.mp member).1

theorem collected_source {x : DerivedBase} {r : Nat} (member : r ∈ x.sources)
    (events : List RegisterEvent) : x.collected events r = lastAnnounced events r :=
  if_pos (mem_sources member)

theorem collected_append_read (x : DerivedBase) (events : List RegisterEvent) {register : Nat}
    (own : register ∈ x.registrars) (value : Nat) (m : Moment) :
    x.collected (events ++ [.read register value m]) =
      Function.update (x.collected events) register (some value) := by
  funext r
  unfold collected
  by_cases here : r = register
  · subst here
    have announced : RegisterEvent.announced (.read r value m) = some (r, value) := rfl
    rw [Function.update_self, if_pos own, lastAnnounced, latest_of_piece announced]
  · have other : lastAnnounced (events ++ [.read register value m]) r = lastAnnounced events r := by
      apply latest_of_other
      rintro p same
      cases same
      exact Ne.symm here
    rw [Function.update_of_ne here, other]

/-- An event that announces no register of the sensor. -/
theorem collected_append_other (x : DerivedBase) (events : List RegisterEvent) {e : RegisterEvent}
    (foreign : ∀ p, e.announced = some p → p.1 ∉ x.registrars) :
    x.collected (events ++ [e]) = x.collected events := by
  funext r
  unfold collected
  split
  next own =>
    apply latest_of_other
    rintro p same rfl
    exact foreign p same own
  next => rfl

end DerivedBase

namespace DerivedRun

variable {order : SetOrder}

theorem cache_append (cache : Nat → Option Nat) (events : List RegisterEvent) (e : RegisterEvent) :
    (run order cache (events ++ [e])).cache =
      match e with
      | .read register value _ | .saved register value =>
        Function.update (run order cache events).cache register (some value)
      | .lastPolled _ => (run order cache events).cache := by
  rw [run_append_singleton]
  cases e <;> rfl

/-- What has been announced is cached. -/
theorem cached_of_announced (cache : Nat → Option Nat) (events : List RegisterEvent) (r : Nat)
    (announced : (lastAnnounced events r).isSome = true) :
    ((run order cache events).cache r).isSome = true := by
  induction events using List.reverseRecOn with
  | nil => cases announced
  | append_singleton events e ih =>
    rw [cache_append]
    -- A save without an announcement may change the value, but never takes it away.
    rw [lastAnnounced, latest_append_singleton] at announced
    cases e with
    | read register value m =>
      dsimp only
      by_cases here : r = register
      · simp [here]
      · rw [Function.update_of_ne here]
        apply ih
        simpa [RegisterEvent.announced, Ne.symm here] using announced
    | saved register value =>
      dsimp only
      by_cases here : r = register
      · simp [here]
      · rw [Function.update_of_ne here]
        exact ih announced
    | lastPolled m => exact ih announced

/-- A register that is only ever saved when it is announced has in the cache what was announced. -/
theorem cached_eq (cache : Nat → Option Nat) (events : List RegisterEvent) (r : Nat)
    (unsaved : ∀ value, .saved r value ∉ events) :
    (run order cache events).cache r = (lastAnnounced events r).or (cache r) := by
  induction events using List.reverseRecOn with
  | nil => rfl
  | append_singleton events e ih =>
    have before := ih fun value member => unsaved value (List.mem_append_left _ member)
    rw [cache_append, lastAnnounced, latest_append_singleton]
    cases e with
    | read register value m =>
      dsimp only
      by_cases here : r = register
      · simp [RegisterEvent.announced, here]
      · rw [Function.update_of_ne here, before]
        simp [RegisterEvent.announced, Ne.symm here]
    | saved register value =>
      have here : r ≠ register := by
        rintro rfl
        exact unsaved value (by simp)
      dsimp only
      rw [Function.update_of_ne here, before]
      rfl
    | lastPolled m => exact before

/-- The entity holds what has come since its last window, and shows that window's value. -/
structure InStep (order : SetOrder) (x : DerivedBase) (cache : Nat → Option Nat)
    (c : Cut RegisterEvent) (e : DerivedSensor) : Prop where
  received : e.received = x.collected c.rest
  shown : e.nativeValue = c.closed.bind fun w => x.shownAt order cache w.1 w.2

/-- **A derived sensor is published with every window of its sources**, and at no other time. -/
theorem inStep (x : DerivedBase) (computes : x.Computes order) (cache : Nat → Option Nat)
    (events : List RegisterEvent) :
    InStep order x cache (cut RegisterEvent.announced x.sources events)
      ((run order cache events).entity x) := by
  induction events using List.reverseRecOn with
  | nil =>
    refine ⟨?_, rfl⟩
    funext r
    simp [DerivedBase.collected, run, start, DerivedSensor.start, cut, latest]
  | append_singleton events e ih =>
    -- The cut divides the events into the last window and what has come since.
    have spec : Exact RegisterEvent.announced x.sources events
        (cut RegisterEvent.announced x.sources events) := cut_spec computes.sourced events
    rw [run_append_singleton, cut_append_singleton]
    -- An event that announces none of the registers changes nothing.
    have foreign (other : ∀ p, e.announced = some p → p.1 ∉ x.registrars) :
        InStep order x cache
          ((cut RegisterEvent.announced x.sources events).extend RegisterEvent.announced x.sources e)
          ((run order cache events).entity x) := by
      have open_ : ¬ Covers RegisterEvent.announced x.sources
          ((cut RegisterEvent.announced x.sources events).rest ++ [e]) := by
        intro covers
        apply spec.open_
        intro k member
        have there := covers k member
        rwa [latest_of_other fun p same here => other p same (here ▸ DerivedBase.mem_sources member)]
          at there
      unfold Cut.extend
      rw [if_neg open_]
      exact ⟨ih.received.trans (x.collected_append_other _ other).symm, ih.shown⟩
    cases e with
    | saved register value =>
      apply foreign
      intro p same
      cases same
    | lastPolled m =>
      have still := foreign fun p same => by cases same
      simp only [step, DerivedSensor.handleModbusUpdate, if_neg computes.notLastPolled]
      exact still
    | read register value m =>
      simp only [step, DerivedSensor.handleModbusUpdate]
      by_cases own : register ∈ x.registrars
      · rw [if_pos own, ih.received, ← x.collected_append_read _ own value m]
        -- Each source has been collected just if the events since the last window cover them.
        have complete : (∀ r ∈ x.sources,
            (x.collected ((cut RegisterEvent.announced x.sources events).rest ++
              [.read register value m]) r).isSome = true) ↔
            Covers RegisterEvent.announced x.sources
              ((cut RegisterEvent.announced x.sources events).rest ++ [.read register value m]) := by
          apply forall₂_congr
          intro r member
          rw [DerivedBase.collected_source member]
        unfold Cut.extend
        by_cases covers : Covers RegisterEvent.announced x.sources
            ((cut RegisterEvent.announced x.sources events).rest ++ [.read register value m])
        · rw [if_pos covers, if_pos (complete.mpr covers)]
          simp only [computes.notClock, computes.notLastPolled, decide_false, Bool.false_and,
            Bool.false_eq_true, if_false]
          -- This event closes a window: what is shown is computed at this moment.
          have whole : (cut RegisterEvent.announced x.sources events).front ++
              ((cut RegisterEvent.announced x.sources events).rest ++ [.read register value m]) =
              events ++ [.read register value m] := by
            rw [← List.append_assoc, spec.whole]
          have cacheNow : Function.update (run order cache events).cache register (some value) =
              (run order cache (events ++ [.read register value m])).cache := by
            rw [cache_append]
          rw [cacheNow]
          obtain ⟨v, computed⟩ := computes.value
            (fun r => (x.collected ((cut RegisterEvent.announced x.sources events).rest ++
              [.read register value m]) r).getD 0)
            (run order cache (events ++ [.read register value m])).cache (by
              intro r member
              apply cached_of_announced
              have suffix := covers.append_left (cut RegisterEvent.announced x.sources events).front
              rw [whole] at suffix
              exact suffix r member)
          rw [computed]
          refine ⟨?_, ?_⟩
          · funext r
            simp [DerivedBase.collected, DerivedSensor.publish, latest]
          · simp only [DerivedSensor.publish, Option.bind_some, DerivedBase.shownAt, whole, computed]
            rfl
        · -- A source is still missing, and the value of the last window stays.
          rw [if_neg covers, if_neg fun all => covers (complete.mp all)]
          exact ⟨rfl, ih.shown⟩
      · rw [if_neg own]
        apply foreign
        rintro p same
        cases same
        exact own

end DerivedRun

/-! ### The battery -/

def batteryChargePower : DerivedBase := ⟨[33149, 33150, 33135, 0], 1 / 10⟩

def batteryDischargePower : DerivedBase := ⟨[33149, 33150, 33135, 1], 1 / 10⟩

def batteryPowerNet : DerivedBase := ⟨[33149, 33150, 33135], 1 / 10⟩

/-- The registers of the battery's power and of its direction. -/
def batterySources : List Nat := [33149, 33150, 33135]

namespace DerivedBase

/-- The tenths that the power is scaled by are taken back. -/
theorem round_power (x : DerivedBase) (several : 1 < x.registrars.length)
    (few : x.registrars.length < 15) (tenths : x.multiplier = 1 / 10) (words : List Nat) :
    roundRat (x.convertNumber words * 10) = splitS32 words := by
  -- Of several words the first two are read as one signed number.
  have number : x.convertNumber words = splitS32 words * (1 / 10) := by
    unfold convertNumber convertRawValue
    by_cases empty : words = []
    · simp [empty, splitS32, signedWord]
    · rw [if_neg empty, if_neg (by omega), if_pos several, tenths]
      norm_num [scaleValue, combineWords, SensorValue.number]
  rw [number, mul_assoc]
  norm_num [NumberEntity.roundRat_intCast]

variable (order : SetOrder)

/-- The power in the order in which the set of the sources is iterated. -/
def batteryPower (received : Nat → Nat) : Int := splitS32 ((order.iterate batterySources).map received)

theorem newValue_batteryChargePower (received : Nat → Nat) (v : Option SensorValue) :
    batteryChargePower.newValue order received v = some (some (.number
      (if received 33135 = 0 then batteryPower order received else 0 : Int))) := by
  have power := round_power batteryChargePower (by decide) (by decide) rfl
    ((order.iterate batterySources).map received)
  have sources : batteryChargePower.sources = batterySources := by decide
  simp only [newValue, sources, batteryPower, ← power]
  simp [has, batteryChargePower, directedPower]

theorem newValue_batteryDischargePower (received : Nat → Nat) (v : Option SensorValue) :
    batteryDischargePower.newValue order received v = some (some (.number
      (if received 33135 = 1 then batteryPower order received else 0 : Int))) := by
  have power := round_power batteryDischargePower (by decide) (by decide) rfl
    ((order.iterate batterySources).map received)
  have sources : batteryDischargePower.sources = batterySources := by decide
  simp only [newValue, sources, batteryPower, ← power]
  simp [has, batteryDischargePower, directedPower]

theorem newValue_batteryPowerNet (received : Nat → Nat) (v : Option SensorValue) :
    batteryPowerNet.newValue order received v = some (some (.number
      (if received 33135 = 0 then -batteryPower order received else batteryPower order received : Int))) := by
  have power := round_power batteryPowerNet (by decide) (by decide) rfl
    ((order.iterate batterySources).map received)
  have sources : batteryPowerNet.sources = batterySources := by decide
  simp only [newValue, sources, batteryPower, ← power]
  simp [has, batteryPowerNet, netPower]

theorem computes_batteryChargePower : batteryChargePower.Computes order where
  sourced := by decide
  notClock := by decide
  notLastPolled := by decide
  value received cache _ := ⟨_, newValue_batteryChargePower order received _⟩

theorem computes_batteryDischargePower : batteryDischargePower.Computes order where
  sourced := by decide
  notClock := by decide
  notLastPolled := by decide
  value received cache _ := ⟨_, newValue_batteryDischargePower order received _⟩

theorem computes_batteryPowerNet : batteryPowerNet.Computes order where
  sourced := by decide
  notClock := by decide
  notLastPolled := by decide
  value received cache _ := ⟨_, newValue_batteryPowerNet order received _⟩

theorem batteryPower_congr {f g : Nat → Nat} (same : ∀ r ∈ batterySources, f r = g r) :
    batteryPower order f = batteryPower order g := by
  unfold batteryPower
  -- Whatever the order, only the sources are iterated.
  rw [List.map_congr_left fun r member => same r ((order.perm batterySources).mem_iff.mp member)]

end DerivedBase

/-- What the three sensors show of some values. -/
structure BatteryShown (s : DerivedRun) (charge discharge net : Int) : Prop where
  charge : (s.entity batteryChargePower).nativeValue = some (.number charge)
  discharge : (s.entity batteryDischargePower).nativeValue = some (.number discharge)
  net : (s.entity batteryPowerNet).nativeValue = some (.number net)

/-- **The battery's power adds up.** At any time charge, discharge and net power have not been shown
yet, or they are those of the last moment at which each of the three registers had been announced
since the moment before. The power is then shown as the charge in one direction, as the discharge in
the other, and as neither in any else; the net power is the discharge less the charge in the two. -/
theorem batteryPower_balanced (order : SetOrder) (cache : Nat → Option Nat)
    (events : List RegisterEvent) :
    (¬ Covers RegisterEvent.announced batterySources events ∧
      ∀ x ∈ [batteryChargePower, batteryDischargePower, batteryPowerNet],
        ((DerivedRun.run order cache events).entity x).nativeValue = none) ∨
    ∃ before window rest, LastWindow RegisterEvent.announced batterySources events before window rest ∧
      ∃ high low direction, lastAnnounced window 33149 = some high ∧
        lastAnnounced window 33150 = some low ∧ lastAnnounced window 33135 = some direction ∧
        ∃ power : Int,
          BatteryShown (DerivedRun.run order cache events) (if direction = 0 then power else 0)
            (if direction = 1 then power else 0) (if direction = 0 then -power else power) ∧
          -- The words are taken in the order in which the set of the registers is iterated.
          ((order.iterate batterySources).take 2 = [33149, 33150] → power = splitS32 [high, low]) := by
  have chargeStep := DerivedRun.inStep _ (DerivedBase.computes_batteryChargePower order) cache events
  have dischargeStep :=
    DerivedRun.inStep _ (DerivedBase.computes_batteryDischargePower order) cache events
  have netStep := DerivedRun.inStep _ (DerivedBase.computes_batteryPowerNet order) cache events
  -- The three have the same sources, so they have the same windows.
  have chargeSources : batteryChargePower.sources = batterySources := by decide
  have dischargeSources : batteryDischargePower.sources = batterySources := by decide
  have netSources : batteryPowerNet.sources = batterySources := by decide
  rw [chargeSources] at chargeStep
  rw [dischargeSources] at dischargeStep
  rw [netSources] at netStep
  rcases @cut_cases _ _ _ _ RegisterEvent.announced batterySources (by decide) events with
    ⟨none_, open_⟩ | ⟨before, window, rest, last⟩
  · left
    refine ⟨open_, ?_⟩
    simp only [List.forall_mem_cons, List.not_mem_nil, false_implies, implies_true, chargeStep.shown,
      dischargeStep.shown, netStep.shown, none_, Option.bind_none, and_self]
  · right
    let word r := (lastAnnounced window r).getD 0
    have same {x : DerivedBase} (sources : x.sources = batterySources) (r : Nat)
        (member : r ∈ batterySources) : (x.collected window r).getD 0 = word r := by
      rw [DerivedBase.collected_source (sources ▸ member)]
    -- A window covers the sources, so each of them was announced in it.
    have announced (r : Nat) (member : r ∈ batterySources) : lastAnnounced window r = some (word r) := by
      obtain ⟨value, there⟩ := Option.isSome_iff_exists.mp (last.covers r member)
      simp only [word, there, Option.getD_some]
    have power {x : DerivedBase} (sources : x.sources = batterySources) :
        DerivedBase.batteryPower order (fun r => (x.collected window r).getD 0) =
          DerivedBase.batteryPower order word :=
      DerivedBase.batteryPower_congr order (same sources)
    have direction : 33135 ∈ batterySources := by decide
    refine ⟨before, window, rest, last, word 33149, word 33150, word 33135, announced _ (by decide),
      announced _ (by decide), announced _ direction, DerivedBase.batteryPower order word,
      ⟨?_, ?_, ?_⟩, ?_⟩
    · rw [chargeStep.shown, last.made, Option.bind_some, DerivedBase.shownAt,
        DerivedBase.newValue_batteryChargePower, power chargeSources, same chargeSources _ direction]
      rfl
    · rw [dischargeStep.shown, last.made, Option.bind_some, DerivedBase.shownAt,
        DerivedBase.newValue_batteryDischargePower, power dischargeSources,
        same dischargeSources _ direction]
      rfl
    · rw [netStep.shown, last.made, Option.bind_some, DerivedBase.shownAt,
        DerivedBase.newValue_batteryPowerNet, power netSources, same netSources _ direction]
      rfl
    · intro front
      -- With the power registers in front, the direction is not read as a word of the power.
      unfold DerivedBase.batteryPower splitS32
      obtain ⟨later, split⟩ : ∃ later, order.iterate batterySources = [33149, 33150] ++ later :=
        ⟨(order.iterate batterySources).drop 2, by rw [← front, List.take_append_drop]⟩
      rw [split]
      rfl

/-- A set that is iterated as its elements were added. -/
def SetOrder.asAdded : SetOrder := ⟨id, fun elements => List.Perm.refl elements⟩

def noon : DateTime := (DateTime.ofFields 2026 7 1 12 0 0).get (by decide)

/-- The battery is charged in one poll and discharged in the next. -/
def batteryPolls : List RegisterEvent :=
  let m : Moment := ⟨none, noon, fun _ => false⟩
  [.read 33149 1 m, .read 33150 1 m, .read 33135 0 m, .read 33149 2 m, .read 33150 2 m, .read 33135 1 m]

/-- What is shown is of the second poll alone. -/
theorem batteryPower_balanced_batteryPolls :
    BatteryShown (DerivedRun.run .asAdded (fun _ => none) batteryPolls) 0 131074 131074 := by
  rcases batteryPower_balanced .asAdded (fun _ => none) batteryPolls with
    ⟨open_, -⟩ | ⟨before, window, rest, last, high, low, direction, isHigh, isLow, isDirection, power,
      shown, words⟩
  · exact absurd (by decide) open_
  · have made : (cut RegisterEvent.announced batterySources batteryPolls).closed =
        some (batteryPolls.take 3, batteryPolls.drop 3) := rfl
    rw [last.made] at made
    cases made
    cases isHigh
    cases isLow
    cases isDirection
    have power : power = splitS32 [2, 2] := words rfl
    subst power
    exact shown

/-! ### The grid -/

def gridPowerNet : DerivedBase := ⟨[33263, 33264], 0⟩

def gridExportPower : DerivedBase := ⟨[33263, 33264, 0], 0⟩

def gridImportPower : DerivedBase := ⟨[33263, 33264, 1], 0⟩

/-- The registers of the meter's total active power. -/
def meterSources : List Nat := [33263, 33264]

/-- The register of a switch, which is written without an announcement. -/
def SolisEntityId.switchRegister : SolisEntityId → Option Nat
  | .switch register _ _ => some register
  | _ => none

/-- The registers that the switches and selects of the inverter save by themselves. -/
def InverterConfig.savedRegisters (inverter : InverterConfig) : List Nat :=
  -- The switch of a string inverter reads 3089 and writes 3069.
  3069 :: inverter.selectSensors ++ inverter.switchSensors.filterMap SolisEntityId.switchRegister

theorem meter_notMem_savedRegisters (inverter : InverterConfig) :
    ∀ r ∈ meterSources, r ∉ inverter.savedRegisters := by
  unfold InverterConfig.savedRegisters InverterConfig.selectSensors InverterConfig.switchSensors
  cases inverter.isHybridOrEnergy with
  | true => cases inverter.isString <;> decide
  | false => cases inverter.isString <;> decide

namespace DerivedBase

variable (order : SetOrder)

/-- With no multiplier the meter's power is the number of its two words. -/
theorem convertNumber_meter (x : DerivedBase) (several : 1 < x.registrars.length)
    (few : x.registrars.length < 15) (whole : x.multiplier = 0) (high low : Nat) :
    x.convertNumber [high, low] = splitS32 [high, low] := by
  unfold convertNumber convertRawValue
  rw [if_neg (List.cons_ne_nil _ _), if_neg (by omega), if_pos several, whole]
  rfl

theorem newValue_gridExportPower (received : Nat → Nat) (v : Option SensorValue) :
    gridExportPower.newValue order received v =
      some (some (.number (max (splitS32 [received 33263, received 33264]) 0 : Int))) := by
  have meter := convertNumber_meter gridExportPower (by decide) (by decide) rfl (received 33263)
    (received 33264)
  push_cast
  rw [← meter]
  simp [newValue, has, gridExportPower, meterSide]

theorem newValue_gridImportPower (received : Nat → Nat) (v : Option SensorValue) :
    gridImportPower.newValue order received v =
      some (some (.number (max (-splitS32 [received 33263, received 33264]) 0 : Int))) := by
  have meter := convertNumber_meter gridImportPower (by decide) (by decide) rfl (received 33263)
    (received 33264)
  push_cast
  rw [← meter]
  simp [newValue, has, gridImportPower, meterSide]

/-- The net power is taken from the cache. -/
theorem newValue_gridPowerNet (received : Nat → Nat) {cache : Nat → Option Nat} {high low : Nat}
    (highCached : cache 33263 = some high) (lowCached : cache 33264 = some low) :
    gridPowerNet.newValue order received (gridPowerNet.getValue cache) =
      some (some (.number (-splitS32 [high, low] : Int))) := by
  -- The sensor has no branch of its own but the change of sign.
  have value : gridPowerNet.getValue cache = some (.integer (splitS32 [high, low])) := by
    simp [getValue, gridPowerNet, highCached, lowCached, convertRawValue, scaleValue, combineWords]
  rw [value]
  simp [newValue, has, gridPowerNet, DerivedValue.ofSensorValue, negated]

theorem computes_gridExportPower : gridExportPower.Computes order where
  sourced := by decide
  notClock := by decide
  notLastPolled := by decide
  value received cache _ := ⟨_, newValue_gridExportPower order received _⟩

theorem computes_gridImportPower : gridImportPower.Computes order where
  sourced := by decide
  notClock := by decide
  notLastPolled := by decide
  value received cache _ := ⟨_, newValue_gridImportPower order received _⟩

theorem computes_gridPowerNet : gridPowerNet.Computes order where
  sourced := by decide
  notClock := by decide
  notLastPolled := by decide
  value received cache cached := by
    obtain ⟨high, highCached⟩ := Option.isSome_iff_exists.mp (cached 33263 (by decide))
    obtain ⟨low, lowCached⟩ := Option.isSome_iff_exists.mp (cached 33264 (by decide))
    exact ⟨_, newValue_gridPowerNet order received highCached lowCached⟩

end DerivedBase

/-- What the three sensors of the grid show. -/
structure GridShown (s : DerivedRun) (exported imported net : Int) : Prop where
  exported : (s.entity gridExportPower).nativeValue = some (.number exported)
  imported : (s.entity gridImportPower).nativeValue = some (.number imported)
  net : (s.entity gridPowerNet).nativeValue = some (.number net)

/-- **The grid's power adds up**, although the net power is taken from the cache: at any time the
three sensors have not been shown yet, or export and import are the two sides of the power that the
meter had at the end of the last window, and the net power is the import less the export. -/
theorem gridPower_balanced (inverter : InverterConfig) (order : SetOrder) (cache : Nat → Option Nat)
    (events : List RegisterEvent)
    (saved : ∀ register value, .saved register value ∈ events → register ∈ inverter.savedRegisters) :
    (¬ Covers RegisterEvent.announced meterSources events ∧
      ∀ x ∈ [gridExportPower, gridImportPower, gridPowerNet],
        ((DerivedRun.run order cache events).entity x).nativeValue = none) ∨
    ∃ before window rest, LastWindow RegisterEvent.announced meterSources events before window rest ∧
      ∃ high low exported imported, lastAnnounced window 33263 = some high ∧
        lastAnnounced window 33264 = some low ∧
        exported = max (splitS32 [high, low]) 0 ∧ imported = max (-splitS32 [high, low]) 0 ∧
        GridShown (DerivedRun.run order cache events) exported imported (imported - exported) := by
  have exportStep := DerivedRun.inStep _ (DerivedBase.computes_gridExportPower order) cache events
  have importStep := DerivedRun.inStep _ (DerivedBase.computes_gridImportPower order) cache events
  have netStep := DerivedRun.inStep _ (DerivedBase.computes_gridPowerNet order) cache events
  have exportSources : gridExportPower.sources = meterSources := by decide
  have importSources : gridImportPower.sources = meterSources := by decide
  have netSources : gridPowerNet.sources = meterSources := by decide
  rw [exportSources] at exportStep
  rw [importSources] at importStep
  rw [netSources] at netStep
  rcases @cut_cases _ _ _ _ RegisterEvent.announced meterSources (by decide) events with
    ⟨none_, open_⟩ | ⟨before, window, rest, last⟩
  · left
    refine ⟨open_, ?_⟩
    simp only [List.forall_mem_cons, List.not_mem_nil, false_implies, implies_true, exportStep.shown,
      importStep.shown, netStep.shown, none_, Option.bind_none, and_self]
  · right
    obtain ⟨high, isHigh⟩ := Option.isSome_iff_exists.mp (last.covers 33263 (by decide))
    obtain ⟨low, isLow⟩ := Option.isSome_iff_exists.mp (last.covers 33264 (by decide))
    have collected {x : DerivedBase} (sources : x.sources = meterSources) :
        (x.collected window 33263).getD 0 = high ∧ (x.collected window 33264).getD 0 = low := by
      constructor
      · rw [DerivedBase.collected_source (sources ▸ by decide), lastAnnounced, isHigh]
        rfl
      · rw [DerivedBase.collected_source (sources ▸ by decide), lastAnnounced, isLow]
        rfl
    -- Nothing but an announcement puts the meter's registers into the cache.
    have cached (r value : Nat) (member : r ∈ meterSources)
        (announced : latest RegisterEvent.announced window r = some value) :
        (DerivedRun.run order cache (before ++ window)).cache r = some value := by
      rw [DerivedRun.cached_eq, lastAnnounced, latest_append, announced]
      · rfl
      · intro value' there
        apply meter_notMem_savedRegisters inverter r member
        apply saved r value'
        rw [← last.whole]
        exact List.mem_append_left _ there
    refine ⟨before, window, rest, last, high, low, _, _, isHigh, isLow, rfl, rfl, ?_, ?_, ?_⟩
    · rw [exportStep.shown, last.made, Option.bind_some, DerivedBase.shownAt,
        DerivedBase.newValue_gridExportPower, (collected exportSources).1, (collected exportSources).2]
      rfl
    · rw [importStep.shown, last.made, Option.bind_some, DerivedBase.shownAt,
        DerivedBase.newValue_gridImportPower, (collected importSources).1, (collected importSources).2]
      rfl
    · -- One of the two sides is zero.
      have difference : max (-splitS32 [high, low]) 0 - max (splitS32 [high, low]) 0 =
          -splitS32 [high, low] := by
        omega
      rw [netStep.shown, last.made, Option.bind_some, DerivedBase.shownAt,
        DerivedBase.newValue_gridPowerNet order _ (cached 33263 high (by decide) isHigh)
          (cached 33264 low (by decide) isLow), difference]
      rfl

/-- Two watts are taken from the grid, while a select saves the storage mode. -/
def meterPoll : List RegisterEvent :=
  let m : Moment := ⟨none, noon, fun _ => false⟩
  [.read 33263 0xFFFF m, .saved 43110 33, .read 33264 0xFFFE m]

theorem gridPower_balanced_meterPoll :
    ∃ exported imported, GridShown (DerivedRun.run .asAdded (fun _ => none) meterPoll) exported imported
      (imported - exported) := by
  have saved : ∀ register value, .saved register value ∈ meterPoll →
      register ∈ (InverterConfig.mk "S6-EH1P" .hybrid [.smartPort]).savedRegisters := by
    intro register value member
    simp only [meterPoll, List.mem_cons, reduceCtorEq, RegisterEvent.saved.injEq, List.not_mem_nil,
      or_false, false_or] at member
    rw [member.1]
    decide
  rcases gridPower_balanced _ .asAdded (fun _ => none) meterPoll saved with
    ⟨open_, -⟩ | ⟨_, _, _, -, _, _, exported, imported, -, -, -, -, shown⟩
  · exact absurd (by decide) open_
  · exact ⟨exported, imported, shown⟩

end HHModbus
