import Mathlib.Data.List.Sort
import Mathlib.Data.Prod.Lex
import Mathlib.Data.String.Basic
import HHModbus.RegistryTable
import HHModbus.SerialMigration

/-!
# The migration of unique ids made from whole definitions

`async_migrate_dict_unique_ids`. An older version put the text of a definition, a dictionary, where
the key belongs in a unique id, so that entities were created again when a definition changed.
-/
namespace HHModbus

/-- `_broken_dict_unique_id_matches`. -/
def brokenDictUniqueIdMatches (uniqueId uniqueKey : String) : Bool :=
  decide (("'unique': '" ++ uniqueKey ++ "'").toList <:+: uniqueId.toList)

/-- `_entity_sort_key`; that an entity has no time comes first, so the time that stands for it is
compared with no other. -/
def entitySortKey (e : RegistryEntry) : Bool ×ₗ Int ×ₗ Bool ×ₗ String :=
  let hasDataType := decide ("'data_type'".toList <:+: e.uniqueId.toList)
  toLex (e.createdAt.isNone, toLex (e.createdAt.getD 0, toLex (hasDataType, e.entityId.text)))

/-- `sorted(matches, key=_entity_sort_key)`. -/
def sortEntries (entries : List RegistryEntry) : List RegistryEntry :=
  entries.insertionSort fun a b => entitySortKey a ≤ entitySortKey b

theorem sortEntries_perm (entries : List RegistryEntry) : (sortEntries entries).Perm entries :=
  List.perm_insertionSort ..

theorem sortEntries_ne_nil {entries : List RegistryEntry} (nonempty : entries ≠ []) :
    sortEntries entries ≠ [] := by
  intro empty
  exact nonempty (List.perm_nil.mp (empty ▸ (sortEntries_perm entries).symm))

def oldest (entries : List RegistryEntry) (nonempty : entries ≠ []) : RegistryEntry :=
  (sortEntries entries).head (sortEntries_ne_nil nonempty)

def newest (entries : List RegistryEntry) (nonempty : entries ≠ []) : RegistryEntry :=
  (sortEntries entries).getLast (sortEntries_ne_nil nonempty)

/-- The registry during the migration, and the entities whose update it has rejected. -/
@[ext] structure DictMigration where
  registry : RegistryTable
  rejected : List EntityId

namespace DictMigration

/-- An update; a `ValueError` is caught and logged, and another error is raised. -/
def update (s : DictMigration) (entityId : EntityId) (newUniqueId : String)
    (newEntityId : Option EntityId) : Except RegistryError DictMigration :=
  match s.registry.asyncUpdateEntity entityId newUniqueId newEntityId with
  | .ok registry => .ok { s with registry }
  | .error .valueError => .ok { s with rejected := s.rejected ++ [entityId] }
  | .error .keyError => .error .keyError

end DictMigration

/-- The ids of an entry that belong to a key: the correct one, and those made from a definition. -/
def dictIdMatches (c : IdSource) (uniqueKey uniqueId : String) : Bool :=
  uniqueId = uniqueIdGenerator c uniqueKey none || brokenDictUniqueIdMatches uniqueId uniqueKey

/-- The body of the loop over the keys; `entries` were the entities of the entry at the start. -/
def migrateKey (c : IdSource) (entries : List RegistryEntry) (s : DictMigration)
    (uniqueKey : String) : Except RegistryError DictMigration :=
  let correctUid := uniqueIdGenerator c uniqueKey none
  let found := entries.filter fun e => dictIdMatches c uniqueKey e.uniqueId
  -- Those whose entity id is gone by now are left out.
  let live := found.filter fun e => (s.registry.asyncGet e.entityId).isSome
  if nonempty : live = [] then .ok s
  else if live.length = 1 then
    let sole := live.head nonempty
    if sole.uniqueId ≠ correctUid then s.update sole.entityId correctUid none else .ok s
  else do
    let oldest := oldest live nonempty
    let newest := newest live nonempty
    let ghosts := (sortEntries live).dropLast
    let registry ← ghosts.foldlM (fun r ghost => r.asyncRemove ghost.entityId) s.registry
    let newEntityId := if newest.entityId ≠ oldest.entityId then some oldest.entityId else none
    { s with registry }.update newest.entityId correctUid newEntityId

/-- The platforms of sensors and numbers, which are the domains of their entity ids. -/
def dictPlatforms : List String := ["sensor", "number"]

/-- The entities of the entry on a platform. -/
def entriesOn (r : RegistryTable) (entryId platform : String) : List RegistryEntry :=
  r.entries.filter fun e => e.configEntry = some entryId && e.entityId.domain = platform

/-- The loops over platforms and keys. -/
def migrateKeys (c : IdSource) (entryId : String) (uniqueKeys : List String) (r : RegistryTable) :
    Except RegistryError DictMigration :=
  dictPlatforms.foldlM
    (fun s platform => uniqueKeys.foldlM (migrateKey c (entriesOn r entryId platform)) s) ⟨r, []⟩

/-- `async_migrate_dict_unique_ids`. -/
def asyncMigrateDictUniqueIds (config : Config) (entryId : String) (r : RegistryTable) :
    Except RegistryError DictMigration :=
  match inverterConfigOf config with
  | none => .ok ⟨r, []⟩
  | some inverter => migrateKeys (migrationIds config) entryId inverter.sensorKeys r

end HHModbus
