import HHModbus.EntityKeys
import HHModbus.Lib.Renaming

/-!
# The migration to ids with the serial number

`async_migrate_to_serial_ids` on the entity registry, the devices and the config entry, compared
with the entities that the platforms create.
-/
namespace HHModbus

open Renaming

/-! ### The registries -/

/-- The part of the entity registry that belongs to the integration: the entity under each unique
id of a platform. -/
structure EntityRegistry where
  entityId : EntityPlatform × String → Option String
  /-- An entity has one unique id. -/
  unique : ∀ k l id, entityId k = some id → entityId l = some id → k = l

namespace EntityRegistry

theorem ext_entityId {r t : EntityRegistry} (same : r.entityId = t.entityId) : r = t := by
  cases r
  cases t
  cases same
  rfl

/-- `async_remove`. -/
def remove (r : EntityRegistry) (id : String) : EntityRegistry where
  entityId k := (r.entityId k).filter fun other => other != id
  unique k l other here there :=
    r.unique k l other (Option.filter_eq_some_iff.mp here).1 (Option.filter_eq_some_iff.mp there).1

/-- `async_update_entity` with a new unique id; `none` if that is taken, where it raises. -/
def updateEntity (r : EntityRegistry) (platform : EntityPlatform) (id newUniqueId : String) :
    Option EntityRegistry :=
  if (r.entityId (platform, newUniqueId)).isSome then none
  else some
    { entityId := fun k =>
        if k = (platform, newUniqueId) then some id
        else (r.entityId k).filter fun other => other != id
      unique := by
        intro k l other here there
        split at here
        next atNew =>
          split at there
          next atNew' => rw [atNew, atNew']
          next => simp [← Option.some.inj here, Option.filter_eq_some_iff] at there
        next =>
          split at there
          next => simp [← Option.some.inj there, Option.filter_eq_some_iff] at here
          next =>
            exact r.unique k l other (Option.filter_eq_some_iff.mp here).1
              (Option.filter_eq_some_iff.mp there).1 }

/-- `safe_migrate_entity`. -/
def safeMigrateEntity (r : EntityRegistry) (platform : EntityPlatform) (oldUid newUid : String) :
    EntityRegistry :=
  match r.entityId (platform, oldUid) with
  | none => r
  | some oldEntityId =>
    match r.entityId (platform, newUid) with
    | some newEntityId =>
      if newEntityId = oldEntityId then r
      else
        -- A collision: the entity that has the new id goes.
        let removed := r.remove newEntityId
        (removed.updateEntity platform oldEntityId newUid).getD removed
    | none => (r.updateEntity platform oldEntityId newUid).getD r

/-- Leaving an entity out leaves its key out. -/
theorem filter_entityId (r : EntityRegistry) {l : EntityPlatform × String} {id : String}
    (under : r.entityId l = some id) (k : EntityPlatform × String) :
    ((r.entityId k).filter fun other => other != id) = if k = l then none else r.entityId k := by
  split
  next own => simp [own, under]
  next other =>
    cases found : r.entityId k with
    | none => rfl
    | some v =>
      refine Option.filter_some_pos ?_
      rw [bne_iff_ne]
      rintro rfl
      exact other (r.unique k l v found under)

theorem entityId_remove (r : EntityRegistry) {l : EntityPlatform × String} {id : String}
    (under : r.entityId l = some id) (k : EntityPlatform × String) :
    (r.remove id).entityId k = if k = l then none else r.entityId k := r.filter_entityId under k

/-- An update to an id that nobody has. -/
theorem entityId_updateEntity (r : EntityRegistry) {platform : EntityPlatform}
    {oldUid newUid id : String} (under : r.entityId (platform, oldUid) = some id)
    (free : r.entityId (platform, newUid) = none) (t : EntityRegistry) :
    ((r.updateEntity platform id newUid).getD t).entityId =
      move r.entityId ((platform, oldUid), (platform, newUid)) := by
  have different : (platform, oldUid) ≠ (platform, newUid) := by
    intro same
    rw [same, free] at under
    cases under
  unfold updateEntity
  rw [free]
  funext k
  simp [move, under, different, r.filter_entityId under]

/-- What is under the old id takes the place of what is under the new one. -/
theorem entityId_safeMigrateEntity (r : EntityRegistry) (platform : EntityPlatform)
    (oldUid newUid : String) :
    (r.safeMigrateEntity platform oldUid newUid).entityId =
      move r.entityId ((platform, oldUid), (platform, newUid)) := by
  unfold safeMigrateEntity
  cases old : r.entityId (platform, oldUid) with
  | none => exact (move_of_settled (.inl old)).symm
  | some oldEntityId =>
    dsimp only
    cases new : r.entityId (platform, newUid) with
    | none => exact r.entityId_updateEntity old new r
    | some newEntityId =>
      dsimp only
      by_cases same : newEntityId = oldEntityId
      · -- One entity under both ids has one id.
        subst same
        rw [if_pos rfl]
        exact (move_of_settled (.inr (r.unique _ _ _ old new))).symm
      · -- The entity that has the new id is removed before the update.
        have different : (platform, oldUid) ≠ (platform, newUid) := by
          intro equal
          rw [equal, new] at old
          exact same (Option.some.inj old)
        have removed := r.entityId_remove new
        have kept : (r.remove newEntityId).entityId (platform, oldUid) = some oldEntityId := by
          rw [removed, if_neg different, old]
        have freed : (r.remove newEntityId).entityId (platform, newUid) = none := by
          rw [removed, if_pos rfl]
        rw [if_neg same, entityId_updateEntity _ kept freed]
        funext k
        by_cases target : k = (platform, newUid)
        · simp [move, kept, old, different, target]
        · simp [move, kept, old, removed, different, target]

end EntityRegistry

structure Device where
  identifiers : List (String × String)
  /-- It belongs to the config entry. -/
  ofEntry : Bool
  deriving DecidableEq, Repr

/-- What the migration works on. -/
structure Registries where
  entities : EntityRegistry
  devices : List Device
  entryUniqueId : Option String

/-! ### The migration -/

/-- What a controller of the entry has for the ids. -/
def controllerIds (config : Config) : IdSource where
  deviceSerialNumber := config.text? .inverterSerial
  identification := config.text? .identification
  host :=
    match entryConnection config with
    | .tcp host _ => host
    -- `host` is the serial port then.
    | .serial port => port

def IdSource.withoutSerial (c : IdSource) : IdSource := { c with deviceSerialNumber := none }

/-- The namespace that stands for the controller in the migration. -/
def migrationIds (config : Config) : IdSource where
  deviceSerialNumber := config.text? .inverterSerial
  identification := config.text? .identification
  -- As it is printed where it is missing.
  host := (config.text? .host).getD "None"

/-- `get_old_id`. -/
def getOldId (uid : String) (ctrl : IdSource) : String :=
  match ctrl.identification with
  | none | some "" => idOf ctrl.host uid
  | some identification => idOf identification uid

/-- The old id of a derived sensor. -/
def oldUidDerived (uid : String) (identification : Option String) : String :=
  match identification with
  | none | some "" => domain ++ "_" ++ uid
  | some identification => idOf identification uid

/-- A call of `safe_migrate_entity`. -/
structure IdMigration where
  platform : EntityPlatform
  oldUid : String
  newUid : String
  deriving DecidableEq, Repr

def IdMigration.keys (m : IdMigration) : (EntityPlatform × String) × (EntityPlatform × String) :=
  ((m.platform, m.oldUid), (m.platform, m.newUid))

section

variable (config : Config)

def standardMigration (platform : EntityPlatform) (uid : String) : IdMigration where
  platform
  oldUid := getOldId uid (migrationIds config)
  newUid := uniqueIdGenerator (migrationIds config) uid none

def derivedMigration (uid : String) : IdMigration where
  platform := .sensor
  oldUid := oldUidDerived uid (config.text? .identification)
  newUid := uniqueIdGenerator (migrationIds config) uid none

/-- The ids that the migration goes through: standard sensors, derived sensors and times. -/
def idMigrations (inverter : InverterConfig) : List IdMigration :=
  -- All groups that the features allow, whatever the poll profile.
  ((inverter.sensors.filter inverter.supports).flatMap fun group =>
      (group.entities.filter fun entity => entity.unique.isSome).map fun entity =>
        standardMigration config .sensor entity.uniqueKey) ++
    (inverter.sensorsDerived.map fun entity => derivedMigration config entity.uniqueKey) ++
    inverter.timeSensors.map (standardMigration config .time)

end

def migrateIds (migrations : List IdMigration) (r : EntityRegistry) : EntityRegistry :=
  migrations.foldl
    (fun r m => if m.newUid ≠ m.oldUid then r.safeMigrateEntity m.platform m.oldUid m.newUid else r) r

/-- The loop over the devices of the entry; `taken` once some device has the new identifiers, and
an update raises. -/
def migrateDevices (serial : String) : (taken : Bool) → List Device → List Device
  | _, [] => []
  | taken, d :: rest =>
    if d.ofEntry && !d.identifiers.any (fun i => i.2 == serial) && !taken then
      { d with identifiers := [(domain, serial)] } :: migrateDevices serial true rest
    else d :: migrateDevices serial taken rest

/-- Some device has the identifiers that go with the serial. -/
def hasSerial (serial : String) (devices : List Device) : Bool :=
  devices.any fun d => (domain, serial) ∈ d.identifiers

/-- `async_migrate_to_serial_ids`. -/
def asyncMigrateToSerialIds (e : ConfigEntry) (s : Registries) : Registries :=
  let config := e.config
  let serial := (config.text? .inverterSerial).getD ""
  if serial = "" then s
  else
    { entities :=
        match inverterConfigOf config with
        | some inverter => migrateIds (idMigrations config inverter) s.entities
        | none => s.entities
      devices := migrateDevices serial (hasSerial serial s.devices) s.devices
      entryUniqueId := some serial }

/-! ### Ids -/

theorem idOf_inj {owner owner' key : String} : idOf owner key = idOf owner' key ↔ owner = owner' := by
  simp [idOf]

/-- The id is this key with something before it. -/
def EndsWith (id key : String) : Prop :=
  ∃ before, charCodes id = before ++ underscore :: charCodes key

theorem endsWith_idOf (owner key : String) : EndsWith (idOf owner key) key := by
  refine ⟨charCodes (domain ++ "_" ++ owner), ?_⟩
  simp only [idOf, charCodes_append, List.append_assoc]
  rfl

/-- Ids with different keys of one kind are different. -/
theorem EndsWith.ne {mark : List Nat} {id id' key key' : String} (ends : EndsWith id key)
    (ends' : EndsWith id' key') (isKey : IsKey mark key) (isKey' : IsKey mark key')
    (different : key ≠ key') : id ≠ id' := by
  rintro rfl
  obtain ⟨before, parts⟩ := ends
  obtain ⟨before', parts'⟩ := ends'
  have same := (Keys.marked_inj isKey isKey' (parts.symm.trans parts')).2
  exact different (charCodes_inj.mp same)

/-- What is before the key in the ids of a migration, is decided by the platform and the key. -/
structure IdMigration.Of (m : IdMigration) (key : String) : Prop where
  old : EndsWith m.oldUid key
  new : EndsWith m.newUid key

theorem of_standardMigration (config : Config) (platform : EntityPlatform) (key : String) :
    (standardMigration config platform key).Of key := by
  refine ⟨?_, endsWith_idOf _ key⟩
  simp only [standardMigration, getOldId]
  split
  · exact endsWith_idOf _ key
  · exact endsWith_idOf _ key
  · exact endsWith_idOf _ key

theorem of_derivedMigration (config : Config) (key : String) : (derivedMigration config key).Of key := by
  refine ⟨?_, endsWith_idOf _ key⟩
  have bare : EndsWith (domain ++ "_" ++ key) key := by
    refine ⟨charCodes domain, ?_⟩
    simp only [charCodes_append, List.append_assoc]
    rfl
  simp only [derivedMigration, oldUidDerived]
  split
  · exact bare
  · exact bare
  · exact endsWith_idOf _ key

/-- Migrations of different keys of one kind do not disturb each other. -/
theorem IdMigration.Of.eq_or_apart {mark : List Nat} {m n : IdMigration} {key key' : String}
    (of : m.Of key) (of' : n.Of key') (isKey : IsKey mark key) (isKey' : IsKey mark key')
    (determined : key = key' → m = n) : m = n ∨ Renaming.Apart m.keys n.keys := by
  by_cases same : key = key'
  · exact .inl (determined same)
  · right
    constructor
    · exact fun equal => of.old.ne of'.old isKey isKey' same (Prod.mk.inj equal).2
    · exact fun equal => of.old.ne of'.new isKey isKey' same (Prod.mk.inj equal).2
    · exact fun equal => of.new.ne of'.old isKey isKey' same (Prod.mk.inj equal).2
    · exact fun equal => of.new.ne of'.new isKey isKey' same (Prod.mk.inj equal).2

theorem apart_of_platform {m n : IdMigration} (different : m.platform ≠ n.platform) :
    Renaming.Apart m.keys n.keys := by
  constructor
  · exact fun same => different (Prod.mk.inj same).1
  · exact fun same => different (Prod.mk.inj same).1
  · exact fun same => different (Prod.mk.inj same).1
  · exact fun same => different (Prod.mk.inj same).1

/-! ### What the migration goes through -/

variable {config : Config} {inverter : InverterConfig}

/-- What the migration of an id is. -/
inductive Enumerated (config : Config) (inverter : InverterConfig) : IdMigration → Prop where
  | sensor (key : String) (known : key ∈ inverter.sensorKeys) :
    Enumerated config inverter (standardMigration config .sensor key)
  | derived (key : String) (known : key ∈ inverter.derivedKeys) :
    Enumerated config inverter (derivedMigration config key)
  | time (key : String) (known : key ∈ inverter.timeSensors) :
    Enumerated config inverter (standardMigration config .time key)

theorem enumerated_of_mem {m : IdMigration} (member : m ∈ idMigrations config inverter) :
    Enumerated config inverter m := by
  simp only [idMigrations, List.mem_append, List.mem_flatMap, List.mem_map] at member
  rcases member with (⟨group, known, entity, member, rfl⟩ | ⟨entity, member, rfl⟩) | ⟨key, member, rfl⟩
  · refine .sensor _ (List.mem_flatMap.mpr ⟨group, List.mem_of_mem_filter known, ?_⟩)
    exact List.mem_map_of_mem member
  · exact .derived _ (List.mem_map_of_mem member)
  · exact .time _ member

/-- Among the migrations of one platform the key tells which one it is. -/
theorem Enumerated.eq_or_apart {m n : IdMigration} (enumerated : Enumerated config inverter m)
    (enumerated' : Enumerated config inverter n) : m = n ∨ Renaming.Apart m.keys n.keys := by
  by_cases platforms : m.platform ≠ n.platform
  · exact .inr (apart_of_platform platforms)
  rw [not_not] at platforms
  cases enumerated with
  | sensor key known =>
    have isKey := inverter.isKey_sensorKeys known
    cases enumerated' with
    | sensor key' known' =>
      refine (of_standardMigration ..).eq_or_apart (of_standardMigration ..) isKey
        (inverter.isKey_sensorKeys known') ?_
      rintro rfl
      rfl
    | derived key' known' =>
      -- The tables share no key, or the two would migrate one id in two ways.
      refine (of_standardMigration ..).eq_or_apart (of_derivedMigration ..) isKey
        (inverter.isKey_derivedKeys known') ?_
      rintro rfl
      exact absurd known (inverter.notMem_sensorKeys known')
    | time key' known' => cases platforms
  | derived key known =>
    have isKey := inverter.isKey_derivedKeys known
    cases enumerated' with
    | sensor key' known' =>
      refine (of_derivedMigration ..).eq_or_apart (of_standardMigration ..) isKey
        (inverter.isKey_sensorKeys known') ?_
      rintro rfl
      exact absurd known' (inverter.notMem_sensorKeys known)
    | derived key' known' =>
      refine (of_derivedMigration ..).eq_or_apart (of_derivedMigration ..) isKey
        (inverter.isKey_derivedKeys known') ?_
      rintro rfl
      rfl
    | time key' known' => cases platforms
  | time key known =>
    cases enumerated' with
    | sensor key' known' => cases platforms
    | derived key' known' => cases platforms
    | time key' known' =>
      refine (of_standardMigration ..).eq_or_apart (of_standardMigration ..)
        (inverter.isKey_timeSensors known) (inverter.isKey_timeSensors known') ?_
      rintro rfl
      rfl

theorem undisturbed_idMigrations (config : Config) (inverter : InverterConfig) :
    Undisturbed ((idMigrations config inverter).map IdMigration.keys) := by
  intro a member b member'
  obtain ⟨m, known, rfl⟩ := List.mem_map.mp member
  obtain ⟨n, known', rfl⟩ := List.mem_map.mp member'
  rcases (enumerated_of_mem known).eq_or_apart (enumerated_of_mem known') with rfl | apart
  · exact .inl rfl
  · exact .inr apart

theorem entityId_migrateIds (migrations : List IdMigration) (r : EntityRegistry) :
    (migrateIds migrations r).entityId = moveAll r.entityId (migrations.map IdMigration.keys) := by
  induction migrations generalizing r with
  | nil => rfl
  | cons m rest ih =>
    have first : (if m.newUid ≠ m.oldUid then r.safeMigrateEntity m.platform m.oldUid m.newUid
        else r).entityId = move r.entityId m.keys := by
      split
      next => exact r.entityId_safeMigrateEntity m.platform m.oldUid m.newUid
      next same =>
        refine (move_of_settled (.inr ?_)).symm
        rw [IdMigration.keys, not_not.mp same]
    change (migrateIds rest _).entityId = moveAll (move r.entityId m.keys) (rest.map IdMigration.keys)
    rw [ih, first]

/-! ### What happens to the entities -/

/-- The id under which the migration looks for an entity. -/
def lookedFor (config : Config) : SolisEntityId → Option String
  | .sensor unique => some (standardMigration config .sensor unique).oldUid
  | .derivedSensor unique => some (derivedMigration config unique).oldUid
  | .time unique => some (standardMigration config .time unique).oldUid
  | .number _ | .select _ | .switch _ _ _ => none

/-- The id of an entity without the serial, and with it. -/
def oldId (config : Config) (x : SolisEntityId) : String := x.uniqueId (controllerIds config).withoutSerial

def newId (config : Config) (x : SolisEntityId) : String := x.uniqueId (controllerIds config)

/-- What an entity has in the registry. -/
def EntityRegistry.at_ (r : EntityRegistry) (x : SolisEntityId) (uid : String) : Option String :=
  r.entityId (x.platform, uid)

theorem polledEntities_sublist {entity : SolisEntity} (member : entity ∈ polledEntities config inverter) :
    ∃ group ∈ inverter.sensors.filter inverter.supports,
      entity ∈ group.entities.filter fun entity => entity.unique.isSome := by
  obtain ⟨group, selected, member⟩ := List.mem_flatMap.mp member
  simp only [selectedGroups, List.mem_filter, Bool.and_eq_true] at selected
  exact ⟨group, List.mem_filter.mpr ⟨selected.1, selected.2.1⟩, member⟩

theorem platform_switchSensors {x : SolisEntityId} (member : x ∈ inverter.switchSensors) :
    x.platform = .switch := by
  have bits (register : Nat) (bits : List Nat) (member : x ∈ switchBits register bits) :
      x.platform = .switch := by
    obtain ⟨bit, -, rfl⟩ := List.mem_map.mp member
    rfl
  have on (register onValue : Nat) (member : x ∈ switchOn register onValue) :
      x.platform = .switch := by
    rw [List.mem_singleton.mp member]
    rfl
  have definitions (switches : List SwitchDefinition)
      (member : x ∈ switches.map fun d => .switch d.register d.bitPosition d.onValue) :
      x.platform = .switch := by
    obtain ⟨d, -, rfl⟩ := List.mem_map.mp member
    rfl
  unfold InverterConfig.switchSensors at member
  rcases List.mem_append.mp member with connection | others
  · exact bits _ _ connection
  · split at others
    · simp only [List.mem_append] at others
      grind
    · split at others
      · exact on _ _ others
      · cases others

/-- The kinds of entities that the platforms create. -/
theorem platformEntities_cases {x : SolisEntityId} (created : x ∈ platformEntities config inverter) :
    (∃ entity ∈ polledEntities config inverter, x = .sensor entity.uniqueKey) ∨
    (∃ entity ∈ derivedEntities config inverter, x = .derivedSensor entity.uniqueKey) ∨
    (∃ unique ∈ inverter.timeSensors, x = .time unique) ∨
    (x.platform ≠ .sensor ∧ x.platform ≠ .time ∧ lookedFor config x = none) := by
  have writes (platform : x.platform ∈ [EntityPlatform.number, .select, .switch]) :
      x.platform ≠ .sensor ∧ x.platform ≠ .time ∧ lookedFor config x = none := by
    cases x <;> simp_all [SolisEntityId.platform, lookedFor]
  simp only [platformEntities, List.mem_append, List.mem_map] at created
  rcases created with (⟨entity, member, rfl⟩ | ⟨entity, member, rfl⟩) | others
  · exact .inl ⟨entity, member, rfl⟩
  · exact .inr (.inl ⟨entity, member, rfl⟩)
  · split at others
    · have switch : x.platform = .switch :=
        platform_switchSensors (List.mem_append_left _ others : x ∈ inverter.switchSensors)
      exact .inr (.inr (.inr (writes (by simp [switch]))))
    · simp only [List.mem_append, List.mem_map] at others
      rcases others with ((⟨entity, -, rfl⟩ | ⟨unique, member, rfl⟩) | ⟨register, -, rfl⟩) | member
      · exact .inr (.inr (.inr (writes (by simp [SolisEntityId.platform]))))
      · exact .inr (.inr (.inl ⟨unique, member, rfl⟩))
      · exact .inr (.inr (.inr (writes (by simp [SolisEntityId.platform]))))
      · exact .inr (.inr (.inr (writes (by simp [platform_switchSensors member]))))

/-- The migration looks for every entity of its kinds that the platforms create. -/
theorem mem_idMigrations {x : SolisEntityId} {uid serial : String}
    (given : config.text? .inverterSerial = some serial)
    (created : x ∈ platformEntities config inverter) (looked : lookedFor config x = some uid) :
    ⟨x.platform, uid, newId config x⟩ ∈ idMigrations config inverter := by
  have owner : (migrationIds config).owner = (controllerIds config).owner := by
    simp only [IdSource.owner, migrationIds, controllerIds, given]
  have new (unique : String) : uniqueIdGenerator (migrationIds config) unique none =
      uniqueIdGenerator (controllerIds config) unique none := by
    rw [uniqueIdGenerator, uniqueIdGenerator, owner]
  unfold idMigrations
  rcases platformEntities_cases created with
    ⟨entity, member, rfl⟩ | ⟨entity, member, rfl⟩ | ⟨unique, member, rfl⟩ | ⟨-, -, none_⟩
  · obtain ⟨group, known, member⟩ := polledEntities_sublist member
    refine List.mem_append_left _ (List.mem_append_left _ (List.mem_flatMap.mpr ⟨group, known, ?_⟩))
    refine List.mem_map.mpr ⟨entity, member, ?_⟩
    cases looked
    rw [standardMigration, new]
    rfl
  · refine List.mem_append_left _ (List.mem_append_right _ ?_)
    refine List.mem_map.mpr ⟨entity, List.mem_of_mem_filter member, ?_⟩
    cases looked
    rw [derivedMigration, new]
    rfl
  · refine List.mem_append_right _ (List.mem_map.mpr ⟨unique, member, ?_⟩)
    cases looked
    rw [standardMigration, new]
    rfl
  · rw [none_] at looked
    cases looked

/-- Only sensors and times are migrated. -/
theorem platform_of_mem {m : IdMigration} (member : m ∈ idMigrations config inverter) :
    m.platform = .sensor ∨ m.platform = .time := by
  cases enumerated_of_mem member with
  | sensor key _ => exact .inl rfl
  | derived key _ => exact .inl rfl
  | time key _ => exact .inr rfl

/-- **What is under the id with the serial** after the migration: what was under the id that the
migration looks for, or else what was there before. -/
theorem at_migrateIds {x : SolisEntityId} {serial : String}
    (given : config.text? .inverterSerial = some serial)
    (created : x ∈ platformEntities config inverter) (r : EntityRegistry) :
    (migrateIds (idMigrations config inverter) r).at_ x (newId config x) =
      ((lookedFor config x).bind (r.at_ x)).or (r.at_ x (newId config x)) := by
  unfold EntityRegistry.at_
  rw [entityId_migrateIds]
  cases looked : lookedFor config x with
  | some uid =>
    have member := List.mem_map_of_mem (f := IdMigration.keys)
      (mem_idMigrations given created looked)
    exact moveAll_target (undisturbed_idMigrations config inverter) member
  | none =>
    -- Nothing of a platform that is not migrated is touched.
    refine moveAll_of_notMem fun keys member => ?_
    obtain ⟨m, known, rfl⟩ := List.mem_map.mp member
    have other : x.platform ≠ m.platform := by
      rcases platformEntities_cases created with
        ⟨_, _, rfl⟩ | ⟨_, _, rfl⟩ | ⟨_, _, rfl⟩ | ⟨noSensor, noTime, -⟩
      · cases looked
      · cases looked
      · cases looked
      · rcases platform_of_mem known with platform | platform
        · rwa [platform]
        · rwa [platform]
    exact ⟨fun same => other (Prod.mk.inj same).1, fun same => other (Prod.mk.inj same).1⟩

/-! ### Devices -/

theorem migrateDevices_taken (serial : String) (devices : List Device) :
    migrateDevices serial true devices = devices := by
  induction devices with
  | nil => rfl
  | cons d rest ih =>
    rw [migrateDevices, Bool.not_true, Bool.and_false, if_neg Bool.false_ne_true, ih]

/-- The first device that is migrated takes the identifiers. -/
theorem migrateDevices_free (serial : String) (devices : List Device) :
    migrateDevices serial false devices = devices ∨
      hasSerial serial (migrateDevices serial false devices) = true := by
  induction devices with
  | nil => exact .inl rfl
  | cons d rest ih =>
    rw [migrateDevices]
    split
    · exact .inr (by simp [hasSerial])
    · rcases ih with same | taken
      · exact .inl (by rw [same])
      · refine .inr ?_
        rw [hasSerial, List.any_cons, Bool.or_eq_true]
        exact .inr taken

theorem migrateDevices_again (serial : String) (devices : List Device) :
    let after := migrateDevices serial (hasSerial serial devices) devices
    migrateDevices serial (hasSerial serial after) after = after := by
  cases taken : hasSerial serial devices with
  | true =>
    dsimp only
    rw [migrateDevices_taken, taken, migrateDevices_taken]
  | false =>
    dsimp only
    rcases migrateDevices_free serial devices with same | now
    · rw [same, taken, same]
    · rw [now, migrateDevices_taken]

/-! ### Which entities are orphaned -/

/-- Without the serial the ids of sensors and times have the owner that the migration puts in. -/
def OwnerKnown (config : Config) : Prop :=
  match config.text? .identification with
  | none => (controllerIds config).host = (migrationIds config).host
  | some "" => (migrationIds config).host = ""
  | some _ => True

/-- The migration looks for the id that the entity has without the serial. -/
def OldIdKnown (config : Config) : SolisEntityId → Prop
  | .sensor _ | .time _ => OwnerKnown config
  | .derivedSensor _ => (config.text? .identification).getD "" ≠ ""
  | .number _ | .select _ | .switch _ _ _ => False

theorem standard_oldUid_iff (config : Config) (platform : EntityPlatform) (unique : String) :
    (standardMigration config platform unique).oldUid =
      idOf (controllerIds config).withoutSerial.owner unique ↔ OwnerKnown config := by
  unfold OwnerKnown standardMigration getOldId
  simp only [migrationIds, IdSource.owner, IdSource.withoutSerial, controllerIds]
  split
  next missing =>
    rw [missing, idOf_inj]
    exact eq_comm
  next empty =>
    rw [empty, idOf_inj]
  next identification _ given =>
    rw [given]
    simp

/-- Without an identification the id of a derived sensor has an owner, which the migration leaves
out. -/
theorem bare_ne_idOf (owner unique : String) : domain ++ "_" ++ unique ≠ idOf owner unique := by
  intro same
  have lengths := congrArg String.length same
  simp only [idOf, String.length_append] at lengths
  have separator : ("_" : String).length = 1 := rfl
  omega

theorem derived_oldUid_iff (config : Config) (unique : String) :
    (derivedMigration config unique).oldUid =
      idOf (controllerIds config).withoutSerial.owner unique ↔
        (config.text? .identification).getD "" ≠ "" := by
  simp only [derivedMigration, IdSource.owner, IdSource.withoutSerial, controllerIds]
  unfold oldUidDerived
  split
  next missing =>
    rw [missing]
    exact iff_of_false (bare_ne_idOf _ unique) (fun given => given rfl)
  next empty =>
    rw [empty]
    exact iff_of_false (bare_ne_idOf _ unique) (fun given => given rfl)
  next identification notEmpty given =>
    rw [given]
    exact iff_of_true rfl notEmpty

theorem lookedFor_iff (config : Config) (x : SolisEntityId) :
    lookedFor config x = some (oldId config x) ↔ OldIdKnown config x := by
  cases x with
  | sensor unique => exact Option.some_inj.trans (standard_oldUid_iff config .sensor unique)
  | time unique => exact Option.some_inj.trans (standard_oldUid_iff config .time unique)
  | derivedSensor unique => exact Option.some_inj.trans (derived_oldUid_iff config unique)
  | number unique => simp [lookedFor, OldIdKnown]
  | select register => simp [lookedFor, OldIdKnown]
  | switch register bitPosition onValue => simp [lookedFor, OldIdKnown]

/-- The migration gives the entity the id with the serial: it looks for the id that the entity has,
or the entity has that id already and nothing takes its place. -/
def Reached (config : Config) (r : EntityRegistry) (x : SolisEntityId) : Prop :=
  OldIdKnown config x ∨
    oldId config x = newId config x ∧ (lookedFor config x).bind (r.at_ x) = none

/-- No entity loses its id, and a second migration changes nothing. -/
structure NothingOrphaned (e : ConfigEntry) (s : Registries) : Prop where
  kept : ∀ x ∈ createdEntities e, ∀ id, s.entities.at_ x (oldId e.config x) = some id →
    (asyncMigrateToSerialIds e s).entities.at_ x (newId e.config x) = some id
  again : asyncMigrateToSerialIds e (asyncMigrateToSerialIds e s) = asyncMigrateToSerialIds e s

theorem migrateIds_again (config : Config) (inverter : InverterConfig) (r : EntityRegistry) :
    migrateIds (idMigrations config inverter) (migrateIds (idMigrations config inverter) r) =
      migrateIds (idMigrations config inverter) r := by
  apply EntityRegistry.ext_entityId
  simp only [entityId_migrateIds]
  exact moveAll_moveAll (undisturbed_idMigrations config inverter)

theorem asyncMigrateToSerialIds_again (e : ConfigEntry) (s : Registries) :
    asyncMigrateToSerialIds e (asyncMigrateToSerialIds e s) = asyncMigrateToSerialIds e s := by
  unfold asyncMigrateToSerialIds
  dsimp only
  split
  · rfl
  · cases inverterConfigOf e.config with
    | none =>
      dsimp only
      rw [migrateDevices_again]
    | some inverter =>
      dsimp only
      rw [migrateDevices_again, migrateIds_again]

/-- An entry that creates entities has a serial and a model that is known. -/
theorem created_cases {e : ConfigEntry} {x : SolisEntityId} (created : x ∈ createdEntities e) :
    ∃ serial inverter, e.config.text? .inverterSerial = some serial ∧ serial ≠ "" ∧
      inverterConfigOf e.config = some inverter ∧ x ∈ platformEntities e.config inverter := by
  unfold createdEntities at created
  split at created
  next setup_ setUp =>
    unfold asyncSetupEntry at setUp
    dsimp only at setUp
    split at setUp
    next => cases setUp
    next valid =>
      rw [Bool.or_eq_true, not_or, decide_eq_true_eq] at valid
      obtain ⟨inverter, known, rfl⟩ := Option.map_eq_some_iff.mp setUp
      cases given : e.config.text? .inverterSerial with
      | none =>
        rw [given] at valid
        exact absurd rfl valid.1
      | some serial =>
        rw [given] at valid
        exact ⟨serial, inverter, rfl, valid.1, known, created⟩
  next => cases created

/-- What the migration leaves under the id with the serial. -/
theorem at_asyncMigrateToSerialIds {e : ConfigEntry} {x : SolisEntityId}
    (created : x ∈ createdEntities e) (s : Registries) :
    (asyncMigrateToSerialIds e s).entities.at_ x (newId e.config x) =
      ((lookedFor e.config x).bind (s.entities.at_ x)).or
        (s.entities.at_ x (newId e.config x)) := by
  obtain ⟨serial, inverter, given, notEmpty, known, platform⟩ := created_cases created
  unfold asyncMigrateToSerialIds
  dsimp only
  rw [given, Option.getD_some, if_neg notEmpty, known]
  exact at_migrateIds given platform s.entities

/-- An entity that is registered without the serial keeps its id just if the migration reaches
it. -/
theorem kept_iff {e : ConfigEntry} {x : SolisEntityId} (created : x ∈ createdEntities e)
    {s : Registries} {id : String} (registered : s.entities.at_ x (oldId e.config x) = some id) :
    (asyncMigrateToSerialIds e s).entities.at_ x (newId e.config x) = some id ↔
      Reached e.config s.entities x := by
  have onlyId {uid : String} (here : s.entities.at_ x uid = some id) : uid = oldId e.config x :=
    congrArg Prod.snd (s.entities.unique _ _ _ here registered)
  rw [at_asyncMigrateToSerialIds created]
  constructor
  · intro kept
    cases found : (lookedFor e.config x).bind (s.entities.at_ x) with
    | none =>
      -- Nothing was moved there: the entity must have stood there before.
      rw [found, Option.none_or] at kept
      exact .inr ⟨(onlyId kept).symm, found⟩
    | some other =>
      -- The entity was found, so it has the id under which the migration has looked.
      rw [found, Option.some_or] at kept
      cases kept
      obtain ⟨uid, looked, here⟩ := Option.bind_eq_some_iff.mp found
      rw [onlyId here] at looked
      exact .inl ((lookedFor_iff e.config x).mp looked)
  · rintro (known | ⟨same, absent⟩)
    · rw [(lookedFor_iff e.config x).mpr known, Option.bind_some, registered, Option.some_or]
    · rw [absent, ← same, registered, Option.none_or]

/-- **The migration orphans nothing** just if it reaches every entity that is registered without the
serial. -/
theorem nothingOrphaned_iff (e : ConfigEntry) (s : Registries) :
    NothingOrphaned e s ↔
      ∀ x ∈ createdEntities e, (s.entities.at_ x (oldId e.config x)).isSome = true →
        Reached e.config s.entities x := by
  constructor
  · intro orphaned x created registered
    obtain ⟨id, here⟩ := Option.isSome_iff_exists.mp registered
    exact (kept_iff created here).mp (orphaned.kept x created id here)
  · intro reached
    refine ⟨fun x created id here => ?_, asyncMigrateToSerialIds_again e s⟩
    exact (kept_iff created here).mpr (reached x created (Option.isSome_iff_exists.mpr ⟨id, here⟩))

/-- An entry without an identification. -/
def unidentifiedEntry : ConfigEntry where
  data
    | .inverterSerial => some (.text "160F52217230087")
    | .connectionType => some (.text "tcp")
    | .host => some (.text "192.168.1.10")
    | .model => some (.text "S6-EH3P")
    | _ => none
  options _ := none

def enabledSwitch : SolisEntityId := .switch 90005 (some 0) none

/-- The switch that enables the connection is registered under the host. -/
def switchRegistered : Registries where
  entities :=
    { entityId := fun k =>
        if k = (.switch, "hh_modbus_control_192.168.1.10_90005_0") then some "switch.modbus_enabled"
        else none
      unique := by
        intro k l id here there
        rw [Option.ite_none_right_eq_some] at here there
        rw [here.1, there.1] }
  devices := []
  entryUniqueId := none

/-- No switch is migrated. -/
theorem switch_orphaned : ¬ NothingOrphaned unidentifiedEntry switchRegistered := by
  intro orphaned
  have created : enabledSwitch ∈ createdEntities unidentifiedEntry := by
    decide +kernel
  have registered : switchRegistered.entities.at_ enabledSwitch
      (oldId unidentifiedEntry.config enabledSwitch) = some "switch.modbus_enabled" := by
    decide +kernel
  have kept := orphaned.kept enabledSwitch created _ registered
  rw [at_asyncMigrateToSerialIds created] at kept
  revert kept
  decide +kernel

end HHModbus
