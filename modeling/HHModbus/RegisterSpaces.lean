import HHModbus.Lib.Transition
import HHModbus.SolisSensor

/-!
# Input and holding registers of one address

Neither the cache key nor the update signal of a register names its type, so an address that
is polled as an input register and as a holding register is one entry and one signal.
-/
namespace HHModbus

open Transition

namespace DataRetrieval

variable (c : ModbusController) (x : BaseSensor) (enabled : Bool)

/-- A poll in a run: the group and the values read. -/
def pollStep (s : DataRetrieval) (p : SensorGroup × List Nat) : Option DataRetrieval :=
  s.poll c x enabled p.1 p.2

/-- After a poll: what the sensor has consumed and what is cached for its registers comes from
registers of its own type, and a poll of the other type has not changed what it publishes. -/
structure Unmixed (own : RegisterType) (s : DataRetrieval) (p : SensorGroup × List Nat)
    (t : DataRetrieval) : Prop where
  consumed : ∀ w ∈ t.entity.consumed, w.origin = own
  cached : ∀ r ∈ x.registrars, ∀ w, t.cacheGet c r = some w → w.origin = own
  published : p.1.registerType ≠ own → t.entity.nativeValue = s.entity.nativeValue

/-- What has been read so far is of the sensor's own type, and the groups are still some of
the first ones. -/
structure OwnType (own : RegisterType) (groups : List SensorGroup) (s : DataRetrieval) : Prop where
  groups : s.groups ⊆ groups
  consumed : ∀ w ∈ s.entity.consumed, w.origin = own
  cached : ∀ r ∈ x.registrars, ∀ w, s.cacheGet c r = some w → w.origin = own

/-- A handler call consumes its word or leaves the entity as it was. -/
theorem handleModbusUpdate_consumed (cache : RegisterKey → Option Word) (e : SolisSensor)
    (register : Nat) (word : Word) :
    e.handleModbusUpdate c x enabled cache register word = e ∨
    register ∈ x.registrars ∧
      (e.handleModbusUpdate c x enabled cache register word).consumed = e.consumed ++ [word] := by
  unfold SolisSensor.handleModbusUpdate
  dsimp only
  split
  next own =>
    right
    simp only [Bool.and_eq_true, decide_eq_true_eq] at own
    refine ⟨own.2, ?_⟩
    split
    · rfl
    · split <;> rfl
  next => exact .inl rfl

theorem foldl_handle_consumed (cache : RegisterKey → Option Word) (own : RegisterType)
    (words : List (Nat × Word)) (e : SolisSensor) (before : ∀ w ∈ e.consumed, w.origin = own)
    (announced : ∀ n ∈ words, n.1 ∈ x.registrars → n.2.origin = own) :
    ∀ w ∈ (words.foldl (fun e n => e.handleModbusUpdate c x enabled cache n.1 n.2) e).consumed,
      w.origin = own := by
  induction words generalizing e with
  | nil => exact before
  | cons n words ih =>
    refine ih (e.handleModbusUpdate c x enabled cache n.1 n.2) ?_
      fun n member => announced n (List.mem_cons_of_mem _ member)
    rcases handleModbusUpdate_consumed c x enabled cache e n.1 n.2 with same | ⟨uses, grown⟩
    · rw [same]
      exact before
    · rw [grown]
      intro w member
      rcases List.mem_append.mp member with old | new
      · exact before w old
      · rw [List.mem_singleton.mp new]
        exact announced n List.mem_cons_self uses

theorem foldl_handle_foreign (cache : RegisterKey → Option Word) (words : List (Nat × Word))
    (e : SolisSensor) (foreign : ∀ n ∈ words, n.1 ∉ x.registrars) :
    words.foldl (fun e n => e.handleModbusUpdate c x enabled cache n.1 n.2) e = e := by
  induction words with
  | nil => rfl
  | cons n words ih =>
    rw [List.foldl_cons, handleModbusUpdate_foreign c x enabled cache e n.1 n.2
      (foreign n List.mem_cons_self)]
    exact ih fun n member => foreign n (List.mem_cons_of_mem _ member)

/-- A word announced for a register of the sensor is read from the polled group, or was held
in the cache. -/
theorem announced_origin {own : RegisterType} {groups : List SensorGroup} {s : DataRetrieval}
    (mine : OwnType c x own groups s) (register : Nat) (values : List Nat)
    (n : Nat × Word) (member : n ∈ s.announced c own register values) (uses : n.1 ∈ x.registrars) :
    n.2.origin = own := by
  obtain ⟨-, value, same⟩ := mem_announced c s own register values n.1 n.2 member
  rcases filtered_cases c s n.1 ⟨value, own⟩ with passed | held
  · rw [same, passed]
  · rw [same]
    exact mine.cached n.1 uses _ held

theorem announced_block (s : DataRetrieval) (g : SensorGroup) (values : List Nat)
    (length : values.length = g.registrarCount) :
    (s.announced c g.registerType g.startRegister values).map Prod.fst = g.block := by
  rw [announced_registers, length]
  rfl

theorem ownType_start (own : RegisterType) (groups : List SensorGroup) :
    OwnType c x own groups (start groups) where
  groups := List.Subset.refl _
  consumed w member := by cases member
  cached r _ w cached := by cases cached

/-- A poll keeps the types apart if the blocks of the other type do not meet the sensor. -/
theorem poll_unmixed {own : RegisterType} {groups : List SensorGroup}
    (apart : ∀ h ∈ groups, h.registerType ≠ own → ∀ r ∈ x.registrars, r ∉ h.block)
    (s : DataRetrieval) (p : SensorGroup × List Nat) (t : DataRetrieval)
    (mine : OwnType c x own groups s) (polled : pollStep c x enabled s p = some t) :
    OwnType c x own groups t ∧ Unmixed c x own s p t := by
  have effect := poll_polled c x enabled s t p.1 p.2 polled
  have registers := announced_block c s p.1 p.2 effect.length
  have kept : t.groups ⊆ groups := fun _ member => mine.groups (effect.groups member)
  by_cases same : p.1.registerType = own
  · -- The own type: what is announced and saved is read from it, or was cached before.
    subst same
    have origin := announced_origin c x mine p.1.startRegister p.2
    have consumed : ∀ w ∈ t.entity.consumed, w.origin = p.1.registerType := by
      rw [effect.entity]
      exact foldl_handle_consumed c x enabled s.cache _ _ _ mine.consumed origin
    have cached : ∀ r ∈ x.registrars, ∀ w, t.cacheGet c r = some w → w.origin = p.1.registerType := by
      intro r uses w found
      by_cases inside : r ∈ p.1.block
      · rw [← registers] at inside
        obtain ⟨n, member, rfl⟩ := List.mem_map.mp inside
        rw [effect.inside n member] at found
        rw [← Option.some.inj found]
        exact origin n member uses
      · rw [effect.outside r inside] at found
        exact mine.cached r uses w found
    exact ⟨⟨kept, consumed, cached⟩, ⟨consumed, cached, fun other => absurd rfl other⟩⟩
  · -- The other type: none of the sensor's registers is in the block.
    have free := apart p.1 (mine.groups effect.known) same
    have untouched : t.entity = s.entity := by
      rw [effect.entity]
      apply foldl_handle_foreign c x enabled s.cache
      intro n member uses
      apply free n.1 uses
      rw [← registers]
      exact List.mem_map_of_mem member
    have cached : ∀ r ∈ x.registrars, ∀ w, t.cacheGet c r = some w → w.origin = own := by
      intro r uses w found
      rw [effect.outside r (free r uses)] at found
      exact mine.cached r uses w found
    have consumed : ∀ w ∈ t.entity.consumed, w.origin = own := untouched ▸ mine.consumed
    exact ⟨⟨kept, consumed, cached⟩, ⟨consumed, cached, fun _ => untouched ▸ rfl⟩⟩

theorem poll_succeeds (s : DataRetrieval) (g : SensorGroup) (values : List Nat)
    (known : g ∈ s.groups) (length : values.length = g.registrarCount) :
    ∃ t, s.poll c x enabled g values = some t := by
  unfold poll
  rw [if_pos ⟨known, length⟩]
  dsimp only
  split <;> exact ⟨_, rfl⟩

/-- One poll of a block of the other type that has a register of the sensor mixes them. -/
theorem not_unmixed_of_overlap (own : RegisterType) (groups : List SensorGroup) (h : SensorGroup)
    (member : h ∈ groups) (values : List Nat) (length : values.length = h.registrarCount)
    (other : h.registerType ≠ own) (r : Nat) (uses : r ∈ x.registrars) (inside : r ∈ h.block) :
    ¬ Along (pollStep c x enabled) (Unmixed c x own) (start groups) [(h, values)] := by
  intro unmixed
  obtain ⟨t, polled⟩ := poll_succeeds c x enabled (start groups) h values member length
  have effect := poll_polled c x enabled (start groups) t h values polled
  rw [← announced_block c (start groups) h values length] at inside
  obtain ⟨n, announced, rfl⟩ := List.mem_map.mp inside
  -- Nothing is cached yet, so the filter lets the word through with its own type.
  have read := (unmixed t polled).1.cached n.1 uses n.2 (effect.inside n announced)
  obtain ⟨-, value, same⟩ := mem_announced c _ _ _ _ n.1 n.2 announced
  rcases filtered_cases c (start groups) n.1 ⟨value, h.registerType⟩ with passed | held
  · rw [same, passed] at read
    exact other read
  · cases held

/-- **When register spaces do not mix**: over every sequence of polls every enabled sensor has
to do with registers of its own type only, exactly when no block of the other type holds one
of its registers. -/
theorem unmixed_iff_apart (c : ModbusController) (enabled : Nat → Bool) (groups : List SensorGroup) :
    (∀ g ∈ groups, ∀ x ∈ g.sensors, enabled x.id = true → ∀ polls,
      Along (pollStep c x (enabled x.id)) (Unmixed c x g.registerType) (start groups) polls) ↔
    ∀ g ∈ groups, ∀ x ∈ g.sensors, enabled x.id = true → ∀ h ∈ groups,
      h.registerType ≠ g.registerType → ∀ r ∈ x.registrars, r ∉ h.block := by
  constructor
  · intro unmixed g member x own on h other differs r uses inside
    have length : (List.replicate h.registrarCount 0).length = h.registrarCount := by simp
    exact not_unmixed_of_overlap c x (enabled x.id) g.registerType groups h other _ length differs r
      uses inside (unmixed g member x own on _)
  · intro apart g member x own on polls
    exact along_always (poll_unmixed c x (enabled x.id) (apart g member x own on)) polls
      (ownType_start c x g.registerType groups)

/-- The sensors of a GivEnergy group: the first register and how many more each has. -/
def givenergySensors (firstId : Nat) (sensors : List (Nat × Nat)) : List BaseSensor :=
  (sensors.zipIdx firstId).map fun s =>
    { id := s.2, registrars := List.range' s.1.1 (s.1.2 + 1), registrars_ne := by simp }

/-- Live Power Data, input registers 0 to 59. -/
def givenergyInput : SensorGroup where
  id := 0
  sensors := givenergySensors 0 <|
    [(0, 0), (1, 0), (2, 0), (3, 0), (4, 0), (5, 0), (6, 1), (8, 0), (9, 0), (10, 0), (11, 1)] ++
    (List.range' 13 8).map (·, 0) ++ [(21, 1), (23, 0), (24, 0), (25, 0), (26, 0), (27, 1)] ++
    [(29, 0), (30, 0), (31, 0), (32, 1)] ++ (List.range' 34 11).map (·, 0) ++ [(45, 1)] ++
    (List.range' 47 13).map (·, 0)
  pollSpeed := .fast
  registerType := .input

/-- Device Info, holding registers 0 to 21. -/
def givenergyHolding : SensorGroup where
  id := 1
  sensors := givenergySensors 54
    [(0, 0), (1, 1), (3, 0), (4, 0), (5, 0), (6, 0), (7, 0), (8, 4), (13, 4), (18, 0), (19, 0),
      (20, 0), (21, 0)]
  pollSpeed := .once
  registerType := .holding

set_option maxRecDepth 2000 in
/-- Polling the input registers of a GivEnergy inverter reaches Device Type Code, which is
holding register 0. -/
theorem givenergy_mixes :
    ∃ x ∈ givenergyHolding.sensors, ¬ Along
      (pollStep ⟨"192.168.1.10:8899", 1, false, 0⟩ x true)
      (Unmixed ⟨"192.168.1.10:8899", 1, false, 0⟩ x givenergyHolding.registerType)
      (start [givenergyInput, givenergyHolding]) [(givenergyInput, List.replicate 60 1)] := by
  refine ⟨{ id := 54, registrars := [0], registrars_ne := List.cons_ne_nil _ _ }, by decide, ?_⟩
  exact not_unmixed_of_overlap _ _ _ _ _ givenergyInput List.mem_cons_self _ (by decide) (by decide)
    0 List.mem_cons_self (by decide)

end DataRetrieval

end HHModbus
