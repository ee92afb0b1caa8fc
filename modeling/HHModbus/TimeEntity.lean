import HHModbus.DerivedPower

/-!
# Times

A `SolisTimeEntity` stands for two registers, an hour and a minute. It takes both from the cache when
one of them is announced, and shows a time that it is set to before the inverter has it.
-/
namespace HHModbus

open Windows

/-- `datetime.time`, to the minute. -/
structure ClockTime where
  hour : Fin 24
  minute : Fin 60
  deriving DecidableEq

/-- `time(hour=hour, minute=minute)`, in the range that is checked first. -/
def ClockTime.ofWords (hour minute : Nat) : Option ClockTime :=
  if valid : minute ≤ 59 ∧ hour ≤ 23 then some ⟨⟨hour, by omega⟩, ⟨minute, by omega⟩⟩ else none

structure TimeEntity where
  nativeValue : Option ClockTime
  available : Bool
  deriving DecidableEq

namespace TimeEntity

def start : TimeEntity := ⟨none, true⟩

/-- What is made of the two words of the cache. -/
def refresh (e : TimeEntity) (hour minute : Option Nat) : TimeEntity :=
  match hour, minute with
  | some hour, some minute =>
    match ClockTime.ofWords hour minute with
    | some t => ⟨some t, true⟩
    | none => { e with available := false }
  | _, _ => { e with available := false }

/-- `handle_modbus_update` of the entity of `register`, none of which is a timestamp. -/
def handleModbusUpdate (e : TimeEntity) (register : Nat) (cache : Nat → Option Nat) (updated : Nat) : TimeEntity :=
  -- Either word refreshes both, from the cache.
  if updated ∈ [register, register + 1] then e.refresh (cache register) (cache (register + 1)) else e

/-- `async_set_value`: the write that is queued, and the entity afterwards. -/
def asyncSetValue (e : TimeEntity) (register : Nat) (value : ClockTime) : WriteRequest × TimeEntity :=
  -- The time is shown at once; whether it is available is left as it is.
  (.multiple register [value.hour, value.minute], { e with nativeValue := some value })

end TimeEntity

/-! ### The times of an inverter -/

/-- The first registers of the entities that `get_time_sensors` lists. -/
def InverterConfig.timeRegisters (inverter : InverterConfig) : List Nat :=
  (if inverter.isHybridOrEnergy then timeChargingRegisters else []) ++
    if inverter.isHybridOrEnergy && InverterFeature.v2 ∈ inverter.features then gridTimeOfUseRegisters else []

theorem timeSensors_eq (inverter : InverterConfig) :
    inverter.timeSensors = inverter.timeRegisters.map fun register => "time_entity_" ++ toString register := rfl

/-- A word is read, or a write of it accepted; it is saved without an announcement; or a time is set. -/
inductive TimeEvent
  | read (register value : Nat)
  | saved (register value : Nat)
  | setValue (register : Nat) (value : ClockTime)

/-- The cache of a controller, with a time entity for each register there could be. -/
structure TimeRun where
  cache : Nat → Option Nat
  entity : Nat → TimeEntity

namespace TimeRun

def start (cache : Nat → Option Nat) : TimeRun := ⟨cache, fun _ => .start⟩

def step (s : TimeRun) : TimeEvent → TimeRun
  | .read register value =>
    -- The cache has the word before its announcement is delivered.
    let cache := Function.update s.cache register (some value)
    { cache, entity := fun r => (s.entity r).handleModbusUpdate r cache register }
  | .saved register value => { s with cache := Function.update s.cache register (some value) }
  | .setValue register value =>
    { s with entity := Function.update s.entity register ((s.entity register).asyncSetValue register value).2 }

def run (cache : Nat → Option Nat) (events : List TimeEvent) : TimeRun := events.foldl step (start cache)

theorem run_append_singleton (cache : Nat → Option Nat) (events : List TimeEvent) (e : TimeEvent) :
    run cache (events ++ [e]) = step (run cache events) e := by
  simp [run]

end TimeRun

def TimeEvent.announced : TimeEvent → Option (Nat × Nat)
  | .read register value => some (register, value)
  | _ => none

/-- The word that was announced last. -/
abbrev lastRead (events : List TimeEvent) (register : Nat) : Option Nat :=
  latest TimeEvent.announced events register

/-- An event that the entity of the register takes notice of. -/
def TimeEvent.Concerns (register : Nat) : TimeEvent → Prop
  | .read updated _ => updated = register ∨ updated = register + 1
  | .saved _ _ => False
  | .setValue target _ => target = register

/-- The time of two words, or unavailable if they are none. -/
def TimeEntity.Shows (e : TimeEntity) (hour minute : Option Nat) : Prop :=
  (∃ h m t, hour = some h ∧ minute = some m ∧ ClockTime.ofWords h m = some t ∧ e = ⟨some t, true⟩) ∨
    (∀ h m, hour = some h → minute = some m → ClockTime.ofWords h m = none) ∧ e.available = false

theorem TimeEntity.refresh_shows (e : TimeEntity) (hour minute : Option Nat) :
    (e.refresh hour minute).Shows hour minute := by
  cases hour with
  | none => exact .inr ⟨by simp, rfl⟩
  | some h =>
    cases minute with
    | none => exact .inr ⟨by simp, rfl⟩
    | some m =>
      cases valid : ClockTime.ofWords h m with
      | none =>
        refine .inr ⟨?_, by simp [refresh, valid]⟩
        rintro _ _ ⟨⟩ ⟨⟩
        exact valid
      | some t => exact .inl ⟨h, m, t, rfl, rfl, valid, by simp [refresh, valid]⟩

namespace TimeRun

variable {cache : Nat → Option Nat} {events : List TimeEvent} {register : Nat}

/-- A register that nobody saves without an announcement. -/
def Announced (events : List TimeEvent) (register : Nat) : Prop := ∀ value, .saved register value ∉ events

theorem Announced.of_append {more : List TimeEvent} (announced : Announced (events ++ more) register) :
    Announced events register := fun value member => announced value (List.mem_append_left _ member)

theorem cache_run (cache : Nat → Option Nat) (announced : Announced events register) :
    (run cache events).cache register = (lastRead events register).or (cache register) := by
  induction events using List.reverseRecOn with
  | nil => rfl
  | append_singleton events e ih =>
    have before := ih announced.of_append
    rw [run_append_singleton]
    cases e with
    | read updated value =>
      by_cases here : updated = register
      · subst here
        have last : lastRead (events ++ [.read updated value]) updated = some value := latest_of_piece rfl
        rw [last]
        simp [step]
      · have last : lastRead (events ++ [.read updated value]) register = lastRead events register :=
          latest_of_other (by rintro _ ⟨⟩; exact here)
        rw [last]
        simpa [step, Function.update_of_ne (Ne.symm here)] using before
    | saved updated value =>
      -- Only the announced events count for a register that is never saved quietly.
      have other : register ≠ updated := by
        rintro rfl
        exact announced value (by simp)
      have last : lastRead (events ++ [.saved updated value]) register = lastRead events register :=
        latest_of_other (by rintro _ ⟨⟩)
      rw [last]
      simpa [step, Function.update_of_ne other] using before
    | setValue target value =>
      have last : lastRead (events ++ [.setValue target value]) register = lastRead events register :=
        latest_of_other (by rintro _ ⟨⟩)
      rw [last]
      exact before

/-- What an entity shows, by the last event that it has taken notice of. -/
inductive Follows (cache : Nat → Option Nat) (events : List TimeEvent) (register : Nat) (e : TimeEntity) : Prop
  | untouched (quiet : ∀ event ∈ events, ¬event.Concerns register) (same : e = .start)
  | set (before : List TimeEvent) (t : ClockTime) (rest : List TimeEvent)
    (split : events = before ++ .setValue register t :: rest) (quiet : ∀ event ∈ rest, ¬event.Concerns register)
    (shown : e.nativeValue = some t)
  | read (before : List TimeEvent) (updated value : Nat) (rest : List TimeEvent)
    (split : events = before ++ .read updated value :: rest) (quiet : ∀ event ∈ rest, ¬event.Concerns register)
    (own : updated = register ∨ updated = register + 1)
    (shown : e.Shows ((lastRead events register).or (cache register))
      ((lastRead events (register + 1)).or (cache (register + 1))))

theorem quiet_append {rest : List TimeEvent} {e : TimeEvent} (quiet : ∀ event ∈ rest, ¬event.Concerns register)
    (last : ¬e.Concerns register) : ∀ event ∈ rest ++ [e], ¬event.Concerns register := by
  intro event member
  rcases List.mem_append.mp member with old | new
  · exact quiet event old
  · exact List.mem_singleton.mp new ▸ last

theorem lastRead_of_quiet {e : TimeEvent} (quiet : ¬e.Concerns register) :
    lastRead (events ++ [e]) register = lastRead events register ∧
      lastRead (events ++ [e]) (register + 1) = lastRead events (register + 1) := by
  constructor
  · apply latest_of_other
    intro piece here
    cases e <;> cases here
    exact fun same => quiet (.inl same)
  · apply latest_of_other
    intro piece here
    cases e <;> cases here
    exact fun same => quiet (.inr same)

theorem Follows.quiet {e : TimeEvent} {entity : TimeEntity} (follows : Follows cache events register entity)
    (unconcerned : ¬e.Concerns register) : Follows cache (events ++ [e]) register entity := by
  cases follows with
  | untouched quiet same => exact .untouched (quiet_append quiet unconcerned) same
  | set before t rest split quiet shown =>
    exact .set before t (rest ++ [e]) (by simp [split]) (quiet_append quiet unconcerned) shown
  | read before updated value rest split quiet own shown =>
    refine .read before updated value (rest ++ [e]) (by simp [split]) (quiet_append quiet unconcerned) own ?_
    rw [(lastRead_of_quiet unconcerned).1, (lastRead_of_quiet unconcerned).2]
    exact shown

/-- A time entity is never behind its cache. -/
theorem follows_run (cache : Nat → Option Nat) (hour : Announced events register)
    (minute : Announced events (register + 1)) :
    Follows cache events register ((run cache events).entity register) := by
  induction events using List.reverseRecOn with
  | nil => exact .untouched (by simp) rfl
  | append_singleton events e ih =>
    -- By the last event: whoever it concerns follows it, the others keep what they followed.
    have before := ih hour.of_append minute.of_append
    have hourCache := cache_run cache hour
    have minuteCache := cache_run cache minute
    rw [run_append_singleton] at hourCache minuteCache ⊢
    cases e with
    | saved updated value => exact before.quiet id
    | setValue target value =>
      by_cases own : target = register
      · subst own
        exact .set events value [] rfl (by simp) (by simp [step, TimeEntity.asyncSetValue])
      · simpa [step, Function.update_of_ne (Ne.symm own)] using before.quiet (e := .setValue target value) own
    | read updated value =>
      by_cases own : updated = register ∨ updated = register + 1
      · refine .read events updated value [] rfl (by simp) own ?_
        rw [← hourCache, ← minuteCache]
        -- The entity is announced its hour or its minute, and takes both from the cache.
        have handled : updated ∈ [register, register + 1] := by simpa using own
        simp only [step, TimeEntity.handleModbusUpdate, if_pos handled]
        exact TimeEntity.refresh_shows _ _ _
      · have unhandled : updated ∉ [register, register + 1] := by simpa using own
        simp only [step, TimeEntity.handleModbusUpdate, if_neg unhandled]
        exact before.quiet own

end TimeRun

/-! ### What is polled -/

theorem timeRegisters_notMem_savedRegisters (inverter : InverterConfig) (register : Nat)
    (listed : register ∈ inverter.timeRegisters) :
    register ∉ inverter.savedRegisters ∧ register + 1 ∉ inverter.savedRegisters := by
  have table : ∀ r ∈ timeChargingRegisters ++ gridTimeOfUseRegisters,
      r ∉ inverter.savedRegisters ∧ r + 1 ∉ inverter.savedRegisters := by
    unfold InverterConfig.savedRegisters InverterConfig.selectSensors InverterConfig.switchSensors
    cases inverter.isHybridOrEnergy with
    | true => cases inverter.isString <;> decide +kernel
    | false => cases inverter.isString <;> decide +kernel
  apply table
  unfold InverterConfig.timeRegisters at listed
  rcases List.mem_append.mp listed with charging | grid
  · split at charging
    · exact List.mem_append_left _ charging
    · cases charging
  · split at grid
    · exact List.mem_append_right _ grid
    · cases grid

/-- The words of the times are in groups that no feature and no profile but a smaller one leaves out. -/
theorem timeRegisters_polled (config : Config) (inverter : InverterConfig) (full : getPollProfile config = .full)
    (register : Nat) (listed : register ∈ inverter.timeRegisters) :
    ∀ r ∈ [register, register + 1], r ∈ registersDeclaredBy (selectedGroups config inverter) := by
  have table : ∀ r ∈ timeChargingRegisters ++ gridTimeOfUseRegisters, ∀ word ∈ [r, r + 1],
      ∃ group ∈ hybridSensors, group.featureRequirement = [] ∧ word ∈ registersDeclaredBy [group] := by
    decide +kernel
  -- Only hybrid and energy inverters have times, and the hybrid groups are theirs.
  have hybrid : inverter.isHybridOrEnergy = true ∧ register ∈ timeChargingRegisters ++ gridTimeOfUseRegisters := by
    unfold InverterConfig.timeRegisters at listed
    rcases List.mem_append.mp listed with charging | grid
    · split at charging
      case isTrue kind => exact ⟨kind, List.mem_append_left _ charging⟩
      case isFalse => cases charging
    · split at grid
      case isTrue kind => exact ⟨(Bool.and_eq_true_iff.mp kind).1, List.mem_append_right _ grid⟩
      case isFalse => cases grid
  have sensors : inverter.sensors = hybridSensors := by
    have kind := hybrid.1
    unfold InverterConfig.sensors InverterConfig.isString
    unfold InverterConfig.isHybridOrEnergy at kind
    cases type : inverter.type <;> simp [type] at kind ⊢
  intro r word
  obtain ⟨group, known, free, declared⟩ := table register hybrid.2 r word
  have selected : group ∈ selectedGroups config inverter := by
    apply List.mem_filter.mpr
    refine ⟨sensors ▸ known, ?_⟩
    simp [InverterConfig.supports, free, full, effectiveProfile_eq, groupInPollProfile]
  have inside : r ∈ group.entities.flatMap SolisEntity.register := by
    simpa [registersDeclaredBy] using declared
  exact List.mem_flatMap.mpr ⟨group, selected, inside⟩

/-- **No time is left without a value, and none is a mixture.** Whatever has been read, written and set
before: after a round that reads every register of the groups that are polled, each time entity that
is created for the full profile shows the hour and the minute that this round has read last, or is
unavailable if they are no time. -/
theorem times_follow_polls (config : Config) (inverter : InverterConfig) (full : getPollProfile config = .full)
    (register : Nat) (listed : register ∈ inverter.timeRegisters) (cache : Nat → Option Nat)
    (events round : List TimeEvent)
    (saved : ∀ r value, .saved r value ∈ events ++ round → r ∈ inverter.savedRegisters)
    (reads : ∀ r ∈ registersDeclaredBy (selectedGroups config inverter), ∃ value, .read r value ∈ round)
    (unset : ∀ t, .setValue register t ∉ round) :
    ∃ hour minute, lastRead round register = some hour ∧ lastRead round (register + 1) = some minute ∧
      ((TimeRun.run cache (events ++ round)).entity register).Shows (some hour) (some minute) := by
  have polled := timeRegisters_polled config inverter full register listed
  have unsaved := timeRegisters_notMem_savedRegisters inverter register listed
  -- The round brings both words, since both are polled.
  have covers : Covers TimeEvent.announced [register, register + 1] round := by
    apply covers_of_mem
    intro r word
    obtain ⟨value, member⟩ := reads r (polled r word)
    exact ⟨_, member, value, rfl⟩
  obtain ⟨hour, hourIs⟩ : ∃ hour, lastRead round register = some hour :=
    Option.isSome_iff_exists.mp (covers register (by simp))
  obtain ⟨minute, minuteIs⟩ : ∃ minute, lastRead round (register + 1) = some minute :=
    Option.isSome_iff_exists.mp (covers (register + 1) (by simp))
  refine ⟨hour, minute, hourIs, minuteIs, ?_⟩
  obtain ⟨value, known⟩ := reads register (polled register (by simp))
  have follows := TimeRun.follows_run cache
    (fun value member => unsaved.1 (saved register value member))
    (fun value member => unsaved.2 (saved (register + 1) value member))
  cases follows with
  -- An entity that nothing has concerned would not have been polled.
  | untouched quiet same => exact absurd (.inl rfl) (quiet _ (List.mem_append_right _ known))
  | set before t rest split quiet shown =>
    -- The time was set before the round, so the round is behind that.
    rcases List.append_eq_append_iff.mp split with ⟨more, rfl, tailIs⟩ | ⟨more, rfl, tailIs⟩
    · exact absurd (tailIs ▸ by simp) (unset t)
    · cases more with
      | nil =>
        have first : .setValue register t :: rest = round := tailIs
        exact absurd (first ▸ List.mem_cons_self) (unset t)
      | cons e more =>
        obtain ⟨-, rfl⟩ := List.cons.inj tailIs
        exact absurd (.inl rfl) (quiet _ (List.mem_append_right _ known))
  | read before updated value rest split quiet own shown =>
    -- The words that were announced last are those of the round.
    have whole (r : Nat) : lastRead (events ++ round) r = (lastRead round r).or (lastRead events r) :=
      latest_append events round r
    rw [whole, whole, hourIs, minuteIs] at shown
    exact shown

def plainHybrid : InverterConfig := ⟨"S6-EH3P", .hybrid, []⟩

/-- A round in which every word is one of an hour. -/
def hourRound : List TimeEvent :=
  (registersDeclaredBy (selectedGroups (fun _ => none) plainHybrid)).map fun r => .read r (r % 24)

/-- The first charge slot was set to half past eight; the inverter has 15:16. -/
theorem times_follow_polls_slot :
    ((TimeRun.run (fun _ => none) ([.setValue 43143 ⟨8, 30⟩] ++ hourRound)).entity 43143).Shows (some 15) (some 16) := by
  have listed : 43143 ∈ plainHybrid.timeRegisters := by decide
  have words : lastRead hourRound 43143 = some 15 ∧ lastRead hourRound 43144 = some 16 := by decide +kernel
  have reading (event : TimeEvent) (member : event ∈ hourRound) : ∃ r, event = .read r (r % 24) := by
    obtain ⟨r, -, rfl⟩ := List.mem_map.mp member
    exact ⟨r, rfl⟩
  obtain ⟨hour, minute, hourIs, minuteIs, shown⟩ := times_follow_polls (fun _ => none) plainHybrid rfl 43143 listed
    (fun _ => none) [.setValue 43143 ⟨8, 30⟩] hourRound
    (by
      intro r value member
      rcases List.mem_append.mp member with set_ | round
      · simp at set_
      · obtain ⟨_, same⟩ := reading _ round
        cases same)
    (fun r polled => ⟨r % 24, List.mem_map_of_mem polled⟩)
    (by
      intro t member
      obtain ⟨_, same⟩ := reading _ member
      cases same)
  cases words.1.symm.trans hourIs
  cases words.2.symm.trans minuteIs
  exact shown

end HHModbus
