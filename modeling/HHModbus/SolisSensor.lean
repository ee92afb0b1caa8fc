import Mathlib.Logic.Function.Basic
import HHModbus.SensorGroup

/-!
# A sensor entity and the polls that feed it

`_apply_register_read_to_cache` with the spike filter, the register cache and the dispatcher,
and `handle_modbus_update` of one `SolisSensor`. The values here also carry the type of
register they come from, which the code does not keep.
-/
namespace HHModbus

structure ModbusController where
  connectionId : String
  deviceId : Nat
  /-- `inverter_config.type == InverterType.GRID`. -/
  isGrid : Bool
  wattageChosen : Nat

/-- The parts that `register_cache_key` and `register_update_signal` join to a string. -/
structure RegisterKey where
  connection : String
  slave : Nat
  register : Nat
  deriving DecidableEq

def registerCacheKey (c : ModbusController) (register : Nat) : RegisterKey :=
  ⟨c.connectionId, c.deviceId, register⟩

def registerUpdateSignal (c : ModbusController) (register : Nat) : RegisterKey :=
  ⟨c.connectionId, c.deviceId, register⟩

/-- The content of a register, with the type of the register that was read or written. -/
structure Word where
  value : Nat
  origin : RegisterType
  deriving DecidableEq, Repr

structure SolisSensor where
  /-- `_received_values`. -/
  received : Nat → Option Word := fun _ => none
  /-- `_attr_native_value`, what the entity publishes. -/
  nativeValue : Option SensorValue := none
  /-- The notifications it has consumed so far. -/
  consumed : List Word := []

/-- What the polls of a controller work on, with the entity that is looked at. -/
structure DataRetrieval where
  groups : List SensorGroup
  cache : RegisterKey → Option Word
  spikeCounter : Nat → Nat
  entity : SolisSensor

variable (c : ModbusController) (x : BaseSensor) (enabled : Bool)

/-- `handle_modbus_update`, called with the register cache as it is then. -/
def SolisSensor.handleModbusUpdate (cache : RegisterKey → Option Word) (e : SolisSensor)
    (register : Nat) (word : Word) : SolisSensor :=
  if enabled && register ∈ x.registrars then
    let consumed := e.consumed ++ [word]
    -- A grid inverter's 3014 is shown as 0 while 3043 is 2; the word is not kept.
    if c.isGrid && register == 3014 && (cache (registerCacheKey c 3043)).any (·.value == 2) then
      { e with nativeValue := some (.integer 0), consumed }
    else
      let received := Function.update e.received register (some word)
      if ∀ r ∈ x.registrars, (received r).isSome then
        let words := x.registrars.filterMap received
        let newValue := x.convertValue (words.map Word.value)
        { received := fun _ => none, nativeValue := newValue <|> e.nativeValue, consumed }
      else { e with received, consumed }
  else e

namespace DataRetrieval

def start (groups : List SensorGroup) : DataRetrieval := ⟨groups, fun _ => none, fun _ => 0, {}⟩

def cacheGet (s : DataRetrieval) (register : Nat) : Option Word := s.cache (registerCacheKey c register)

def cacheSave (s : DataRetrieval) (register : Nat) (word : Word) : DataRetrieval :=
  { s with cache := Function.update s.cache (registerCacheKey c register) (some word) }

/-- `notify_register_update`: the entity is called if it is connected to the signal. -/
def notifyRegisterUpdate (s : DataRetrieval) (register : Nat) (word : Word) : DataRetrieval :=
  if registerUpdateSignal c register ∈ x.registrars.map (registerUpdateSignal c) then
    { s with entity := s.entity.handleModbusUpdate c x enabled s.cache register word }
  else s

/-- A reading that may be a spike gives way to the cached one until it has come three times
in a row. The new count is returned with the word that is used. -/
def holdSpike (s : DataRetrieval) (register : Nat) (word : Word) (unlikely : Bool) : Nat × Word :=
  if unlikely then
    let count := s.spikeCounter register + 1
    -- With nothing cached the reading itself is used.
    if count < 3 then (count, (s.cacheGet c register).getD word) else (0, word)
  else (0, word)

/-- `spike_filtering`. -/
def spikeFiltering (s : DataRetrieval) (register : Nat) (word : Word) : Nat × Word :=
  -- Battery SOC, and the backup load power.
  if register = 33139 then s.holdSpike c register word (word.value == 0 || word.value == 100)
  else if register = 33148 then
    let largest := max 10000 (c.wattageChosen * 2)
    s.holdSpike c register word (65000 ≤ word.value || largest < word.value)
  else (s.spikeCounter register, word)

/-- The loop body of `_apply_register_read_to_cache`. -/
def applyRegister (s : DataRetrieval) (register : Nat) (word : Word) : DataRetrieval :=
  let (count, corrected) := s.spikeFiltering c register word
  let counted := { s with spikeCounter := Function.update s.spikeCounter register count }
  (counted.cacheSave c register corrected).notifyRegisterUpdate c x enabled register corrected

/-- Its loop over the values of a block. -/
def applyValues (origin : RegisterType) : (register : Nat) → List Nat → DataRetrieval → DataRetrieval
  | _, [], s => s
  | register, value :: rest, s =>
    applyValues origin (register + 1) rest (s.applyRegister c x enabled register ⟨value, origin⟩)

/-- A successful poll of a group the controller still has; a `ONCE` group is then removed. -/
def poll (s : DataRetrieval) (g : SensorGroup) (values : List Nat) : Option DataRetrieval :=
  if g ∈ s.groups ∧ values.length = g.registrarCount then
    let read := s.applyValues c x enabled g.registerType g.startRegister values
    if g.pollSpeed = .once then
      some { read with groups := read.groups.filter fun h => h.id != g.id }
    else some read
  else none

/-- An accepted write of a holding register is saved and announced. -/
def written (s : DataRetrieval) (register value : Nat) : DataRetrieval :=
  (s.cacheSave c register ⟨value, .holding⟩).notifyRegisterUpdate c x enabled register
    ⟨value, .holding⟩

/-! ### What a poll does -/

theorem registerCacheKey_inj {c : ModbusController} {r r' : Nat} :
    registerCacheKey c r = registerCacheKey c r' ↔ r = r' := by
  simp [registerCacheKey]

@[simp] theorem cacheGet_cacheSave (s : DataRetrieval) (r r' : Nat) (word : Word) :
    (s.cacheSave c r word).cacheGet c r' = if r' = r then some word else s.cacheGet c r' := by
  simp [cacheGet, cacheSave, Function.update_apply, registerCacheKey_inj]

theorem handleModbusUpdate_foreign (cache : RegisterKey → Option Word) (e : SolisSensor)
    (register : Nat) (word : Word) (foreign : register ∉ x.registrars) :
    e.handleModbusUpdate c x enabled cache register word = e := by
  simp [SolisSensor.handleModbusUpdate, foreign]

/-- The handler itself ignores what the entity is not connected to. -/
theorem notifyRegisterUpdate_eq (s : DataRetrieval) (register : Nat) (word : Word) :
    s.notifyRegisterUpdate c x enabled register word =
      { s with entity := s.entity.handleModbusUpdate c x enabled s.cache register word } := by
  unfold notifyRegisterUpdate
  split
  next => rfl
  next unconnected =>
    have foreign : register ∉ x.registrars := fun own => unconnected (List.mem_map_of_mem own)
    rw [handleModbusUpdate_foreign c x enabled _ _ _ _ foreign]

/-- The word that the spike filter makes of a reading. -/
def filtered (s : DataRetrieval) (register : Nat) (word : Word) : Word :=
  (s.spikeFiltering c register word).2

/-- The filter lets a word pass or puts the cached one in its place. -/
theorem filtered_cases (s : DataRetrieval) (register : Nat) (word : Word) :
    s.filtered c register word = word ∨ s.cacheGet c register = some (s.filtered c register word) := by
  -- Both registers with a filter hold a word back in the same way.
  have held (unlikely : Bool) : (s.holdSpike c register word unlikely).2 = word ∨
      s.cacheGet c register = some (s.holdSpike c register word unlikely).2 := by
    unfold holdSpike
    dsimp only
    split
    · split
      · cases s.cacheGet c register with
        | none => exact .inl rfl
        | some cached => exact .inr rfl
      · exact .inl rfl
    · exact .inl rfl
  unfold filtered spikeFiltering
  dsimp only
  split
  · exact held _
  · split
    · exact held _
    · exact .inl rfl

/-- Two states agree on the cache and the spike counters from a register on. -/
def SameFrom (register : Nat) (s t : DataRetrieval) : Prop :=
  ∀ r, register ≤ r → s.cacheGet c r = t.cacheGet c r ∧ s.spikeCounter r = t.spikeCounter r

theorem SameFrom.filtered_eq {c : ModbusController} {register : Nat} {s t : DataRetrieval}
    (same : SameFrom c register s t) (r : Nat) (above : register ≤ r) (word : Word) :
    s.filtered c r word = t.filtered c r word := by
  obtain ⟨cached, count⟩ := same r above
  simp only [filtered, spikeFiltering, holdSpike, cached, count]

/-- The handler looks at the cache for 3043 only, and only at 3014. -/
theorem SameFrom.handle_eq {c : ModbusController} {register : Nat} {s t : DataRetrieval}
    (same : SameFrom c register s t) (x : BaseSensor) (enabled : Bool) (e : SolisSensor) (r : Nat)
    (above : register ≤ r + 1) (word : Word) :
    e.handleModbusUpdate c x enabled s.cache r word =
      e.handleModbusUpdate c x enabled t.cache r word := by
  unfold SolisSensor.handleModbusUpdate
  by_cases special : r = 3014
  · have cached : s.cache (registerCacheKey c 3043) = t.cache (registerCacheKey c 3043) :=
      (same 3043 (by omega)).1
    rw [cached]
  · have ordinary : (r == 3014) = false := by simpa using special
    simp only [ordinary, Bool.and_false, Bool.false_and, Bool.false_eq_true, if_false]

theorem applyRegister_eq (s : DataRetrieval) (r : Nat) (word : Word) :
    s.applyRegister c x enabled r word =
      { groups := s.groups
        cache := (s.cacheSave c r (s.filtered c r word)).cache
        spikeCounter := Function.update s.spikeCounter r (s.spikeFiltering c r word).1
        entity := s.entity.handleModbusUpdate c x enabled
          (s.cacheSave c r (s.filtered c r word)).cache r (s.filtered c r word) } := by
  unfold applyRegister
  dsimp only
  rw [notifyRegisterUpdate_eq]
  rfl

theorem applyRegister_cacheGet (s : DataRetrieval) (r r' : Nat) (word : Word) :
    (s.applyRegister c x enabled r word).cacheGet c r' =
      if r' = r then some (s.filtered c r word) else s.cacheGet c r' := by
  rw [applyRegister_eq]
  exact cacheGet_cacheSave c s r r' _

theorem applyRegister_sameFrom (s t : DataRetrieval) (r : Nat) (word : Word)
    (same : SameFrom c r s t) : SameFrom c (r + 1) (s.applyRegister c x enabled r word) t := by
  intro r' above
  have other : r' ≠ r := by omega
  obtain ⟨cached, count⟩ := same r' (by omega)
  constructor
  · rw [applyRegister_cacheGet, if_neg other]
    exact cached
  · rw [applyRegister_eq]
    exact (Function.update_of_ne other _ _).trans count

/-- The words a read of a block announces, as the state before the read filters them. -/
def announced (s : DataRetrieval) (origin : RegisterType) (register : Nat) (values : List Nat) :
    List (Nat × Word) :=
  (values.zipIdx register).map fun v => (v.2, s.filtered c v.2 ⟨v.1, origin⟩)

theorem applyValues_groups (s : DataRetrieval) (origin : RegisterType) (register : Nat)
    (values : List Nat) : (s.applyValues c x enabled origin register values).groups = s.groups := by
  induction values generalizing s register with
  | nil => rfl
  | cons value rest ih =>
    rw [applyValues, ih, applyRegister_eq]

/-- The registers outside the block keep their cached words. -/
theorem applyValues_cacheGet_outside (s : DataRetrieval) (origin : RegisterType) (register : Nat)
    (values : List Nat) (r : Nat) (outside : r < register ∨ register + values.length ≤ r) :
    (s.applyValues c x enabled origin register values).cacheGet c r = s.cacheGet c r := by
  induction values generalizing s register with
  | nil => rfl
  | cons value rest ih =>
    rw [List.length_cons] at outside
    rw [applyValues, ih _ _ (by omega), applyRegister_cacheGet, if_neg (by omega)]

theorem announced_cons (s : DataRetrieval) (origin : RegisterType) (register value : Nat)
    (rest : List Nat) :
    s.announced c origin register (value :: rest) =
      (register, s.filtered c register ⟨value, origin⟩) ::
        s.announced c origin (register + 1) rest := rfl

/-- Those inside get the words the read announces. -/
theorem applyValues_cacheGet_inside (s t : DataRetrieval) (origin : RegisterType) (register : Nat)
    (values : List Nat) (same : SameFrom c register s t) (r : Nat) (word : Word)
    (inside : (r, word) ∈ t.announced c origin register values) :
    (s.applyValues c x enabled origin register values).cacheGet c r = some word := by
  induction values generalizing s register with
  | nil => cases inside
  | cons value rest ih =>
    rw [applyValues]
    rw [announced_cons] at inside
    rcases List.mem_cons.mp inside with here | later
    · obtain ⟨rfl, rfl⟩ := Prod.mk.inj here
      rw [applyValues_cacheGet_outside c x enabled _ _ _ _ _ (.inl (Nat.lt_succ_self _)),
        applyRegister_cacheGet, if_pos rfl, same.filtered_eq r (Nat.le_refl _)]
    · exact ih _ _ (applyRegister_sameFrom c x enabled s t register _ same) later

/-- The entity handles the words the read announces, one after the other. -/
theorem applyValues_entity (s t : DataRetrieval) (origin : RegisterType) (register : Nat)
    (values : List Nat) (same : SameFrom c register s t) :
    (s.applyValues c x enabled origin register values).entity =
      (t.announced c origin register values).foldl
        (fun e n => e.handleModbusUpdate c x enabled t.cache n.1 n.2) s.entity := by
  induction values generalizing s register with
  | nil => rfl
  | cons value rest ih =>
    have next := applyRegister_sameFrom c x enabled s t register ⟨value, origin⟩ same
    have saved : SameFrom c (register + 1)
        (s.cacheSave c register (s.filtered c register ⟨value, origin⟩)) t := by
      intro r above
      rw [cacheGet_cacheSave, if_neg (by omega)]
      exact same r (by omega)
    rw [applyValues, ih _ _ next, announced_cons, List.foldl_cons, applyRegister_eq,
      saved.handle_eq x enabled s.entity register (Nat.le_refl _),
      same.filtered_eq register (Nat.le_refl _)]

theorem mem_announced (s : DataRetrieval) (origin : RegisterType) (register : Nat)
    (values : List Nat) (r : Nat) (word : Word)
    (inside : (r, word) ∈ s.announced c origin register values) :
    r ∈ List.range' register values.length ∧
      ∃ value, word = s.filtered c r ⟨value, origin⟩ := by
  obtain ⟨v, member, same⟩ := List.mem_map.mp inside
  obtain ⟨rfl, rfl⟩ := Prod.mk.inj same
  refine ⟨?_, v.1, rfl⟩
  rw [← List.zipIdx_map_snd register values]
  exact List.mem_map_of_mem member

theorem announced_registers (s : DataRetrieval) (origin : RegisterType) (register : Nat)
    (values : List Nat) :
    (s.announced c origin register values).map Prod.fst = List.range' register values.length := by
  rw [announced, List.map_map]
  exact List.zipIdx_map_snd register values

/-- The same words, register by register. -/
theorem announced_eq_map (s : DataRetrieval) (origin : RegisterType) (register : Nat)
    (values : List Nat) :
    s.announced c origin register values = (List.range' register values.length).map fun r =>
      (r, s.filtered c r ⟨values.getD (r - register) 0, origin⟩) := by
  apply List.ext_getElem
  · simp [announced]
  · intro i inside _
    have bound : i < values.length := by simpa [announced] using inside
    simp [announced, bound]

/-- What a successful poll does: the words of the block are saved and handled in ascending
order, and nothing else. -/
structure Polled (s : DataRetrieval) (g : SensorGroup) (values : List Nat) (t : DataRetrieval) : Prop where
  known : g ∈ s.groups
  length : values.length = g.registrarCount
  groups : t.groups ⊆ s.groups
  outside : ∀ r, r ∉ g.block → t.cacheGet c r = s.cacheGet c r
  inside : ∀ n ∈ s.announced c g.registerType g.startRegister values, t.cacheGet c n.1 = some n.2
  entity : t.entity = (s.announced c g.registerType g.startRegister values).foldl
    (fun e n => e.handleModbusUpdate c x enabled s.cache n.1 n.2) s.entity

theorem poll_polled (s t : DataRetrieval) (g : SensorGroup) (values : List Nat)
    (polled : s.poll c x enabled g values = some t) : Polled c x enabled s g values t := by
  unfold poll at polled
  split at polled
  next ready =>
    have same : SameFrom c g.startRegister s s := fun r _ => ⟨rfl, rfl⟩
    -- Removing a `ONCE` group touches neither the cache nor the entity.
    have facts : t.groups ⊆ s.groups ∧
        t.cache = (s.applyValues c x enabled g.registerType g.startRegister values).cache ∧
        t.entity = (s.applyValues c x enabled g.registerType g.startRegister values).entity := by
      dsimp only at polled
      split at polled
      · obtain rfl := Option.some.inj polled
        refine ⟨fun h member => ?_, rfl, rfl⟩
        rw [← applyValues_groups c x enabled s g.registerType g.startRegister values]
        exact List.mem_of_mem_filter member
      · obtain rfl := Option.some.inj polled
        refine ⟨?_, rfl, rfl⟩
        rw [applyValues_groups]
        exact List.Subset.refl _
    obtain ⟨groups, cache, entity⟩ := facts
    refine ⟨ready.1, ready.2, groups, fun r free => ?_, fun n member => ?_, ?_⟩
    · have range : r < g.startRegister ∨ g.startRegister + values.length ≤ r := by
        rw [SensorGroup.block, List.mem_range'_1] at free
        omega
      rw [cacheGet, cache]
      exact applyValues_cacheGet_outside c x enabled s _ _ values r range
    · rw [cacheGet, cache]
      exact applyValues_cacheGet_inside c x enabled s s _ _ values same n.1 n.2 member
    · rw [entity]
      exact applyValues_entity c x enabled s s _ _ values same
  next => cases polled

end DataRetrieval

end HHModbus
