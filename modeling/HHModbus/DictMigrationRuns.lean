import HHModbus.DictMigrationGroups
import HHModbus.EntityKeys

/-!
# Runs of the migration of unique ids

Each group of entities of one platform and key is left with its one entity, which a further run
leaves as it is. Where an id names two keys, or a correct id is held elsewhere, it is not.
-/
namespace HHModbus

open Keys

/-! ### The keys -/

/-- The keys that the migration goes through. -/
def dictKeys (config : Config) : List String :=
  match inverterConfigOf config with
  | none => []
  | some inverter => inverter.sensorKeys

def quote : Char := '\x27'

/-- A number for the spelling that differs among the keys of a table. -/
def fingerprint (key : List Char) : Nat := spellingCode key % 11083

/-- What is evaluated for a table. -/
structure DictKeysChecked (spelling : List (List Char)) : Prop where
  apart : allNew 0 (spelling.map fingerprint) = true
  quoteless : ∀ key ∈ spelling, quote ∉ key

def SpelledDictKeys (keys : List String) : Prop :=
  ∃ spelling, Spelled spelling keys ∧ DictKeysChecked spelling

theorem hybridDictKeys_checked : SpelledDictKeys (hybridSensors.flatMap entityKeys) := by
  apply Exists.intro
  apply And.intro
  · repeat apply Spelled.cons
    exact .nil
  · constructor
    · decide +kernel
    · decide +kernel

theorem stringDictKeys_checked : SpelledDictKeys (stringSensors.flatMap entityKeys) := by
  apply Exists.intro
  apply And.intro
  · repeat apply Spelled.cons
    exact .nil
  · constructor
    · decide +kernel
    · decide +kernel

theorem dictKeys_checked (config : Config) : SpelledDictKeys (dictKeys config) := by
  unfold dictKeys
  split
  next => exact ⟨[], .nil, rfl, fun _ member => absurd member List.not_mem_nil⟩
  next inverter _ =>
    unfold InverterConfig.sensorKeys InverterConfig.sensors
    cases inverter.isString with
    | false => exact hybridDictKeys_checked
    | true => exact stringDictKeys_checked

theorem dictKeys_nodup (config : Config) : (dictKeys config).Nodup := by
  obtain ⟨spelling, spelled, checked⟩ := dictKeys_checked config
  exact spelled.nodup (nodup_of_allNew checked.apart).1.of_map

theorem quote_notMem_dictKeys {config : Config} {key : String} (member : key ∈ dictKeys config) :
    quote ∉ key.toList := by
  obtain ⟨spelling, spelled, checked⟩ := dictKeys_checked config
  exact checked.quoteless _ (spelled.toList_mem member)

namespace DictMigration

section Runs

variable {c : IdSource} {entryId : String} {r : RegistryTable} {keys : List String}
  {g : Group} {merged : List Group} {e x : RegistryEntry}

/-! ### All rounds of the loops -/

theorem allGroups_nodup (nodup : keys.Nodup) : (allGroups keys).Nodup := by
  have platforms : dictPlatforms.Nodup := by decide
  exact platforms.product nodup

theorem Mergeable.foldlM_merges (mergeable : Mergeable c entryId r keys) {rest : List Group}
    (nodup : rest.Nodup) (known : ∀ g ∈ rest, g ∈ allGroups keys)
    (all : ∀ g ∈ merged, g ∈ allGroups keys) (fresh : ∀ g ∈ rest, g ∉ merged) {s : DictMigration}
    (now : Merged c entryId r merged s) :
    ∃ t, rest.foldlM (fun s g => migrateKey c (entriesOn r entryId g.1) s g.2) s = .ok t ∧
      Merged c entryId r (rest.reverse ++ merged) t := by
  induction rest generalizing merged s with
  | nil => exact ⟨s, rfl, now⟩
  | cons g rest ih =>
    obtain ⟨once, nodup⟩ := List.nodup_cons.mp nodup
    have here := known g List.mem_cons_self
    obtain ⟨t, round, next⟩ :=
      mergeable.migrateKey_merges here all (fresh g List.mem_cons_self) now
    obtain ⟨u, run, done⟩ := ih nodup (fun g' later => known g' (List.mem_cons_of_mem g later))
      (List.forall_mem_cons.mpr ⟨here, all⟩)
      (fun g' later => by
        rw [List.mem_cons, not_or]
        constructor
        · rintro rfl
          exact once later
        · exact fresh g' (List.mem_cons_of_mem g later))
      next
    refine ⟨u, ?_, ?_⟩
    · rw [List.foldlM_cons, round]
      exact run
    · rw [List.reverse_cons, List.append_assoc]
      exact done

/-- The whole migration merges all groups and rejects nothing. -/
theorem Mergeable.migrateKeys_merges (mergeable : Mergeable c entryId r keys) (nodup : keys.Nodup) :
    ∃ t, migrateKeys c entryId keys r = .ok t ∧
      Merged c entryId r (allGroups keys).reverse t := by
  have start : Merged c entryId r [] ⟨r, []⟩ := ⟨List.filterMap_some.symm, rfl⟩
  obtain ⟨t, run, done⟩ := mergeable.foldlM_merges (allGroups_nodup nodup) (fun _ known => known)
    (fun _ none => absurd none List.not_mem_nil) (fun _ _ => List.not_mem_nil) start
  refine ⟨t, ?_, ?_⟩
  · rw [← run, migrateKeys, allGroups]
    simp only [dictPlatforms, List.flatMap_cons, List.flatMap_nil, List.append_nil,
      List.foldlM_append, List.foldlM_map, List.foldlM_cons, List.foldlM_nil, bind_pure]
  · rwa [List.append_nil] at done

/-! ### What a run leaves -/

/-- The groups that have been merged are all there are. -/
def Complete (keys : List String) (merged : List Group) : Prop :=
  ∀ g, g ∈ merged ↔ g ∈ allGroups keys

theorem inGroup_mergedEntry (nonempty : members c entryId r g ≠ []) :
    inGroup c entryId g (mergedEntry (correctUid c g.2) (members c entryId r g) nonempty) = true := by
  have first := inGroup_iff.mp (mem_members.mp (oldest_mem nonempty)).2
  have last := inGroup_iff.mp (mem_members.mp (newest_mem nonempty)).2
  exact inGroup_iff.mpr ⟨last.1, first.2.1, dictIdMatches_correct g.2⟩

theorem Mergeable.mergedEntry_mem (mergeable : Mergeable c entryId r keys)
    (complete : Complete keys merged) (known : g ∈ merged) (nonempty : members c entryId r g ≠ []) :
    mergedEntry (correctUid c g.2) (members c entryId r g) nonempty ∈ settled c entryId r merged := by
  have last := newest_mem nonempty
  refine mem_settled.mpr ⟨newest _ nonempty, (mem_members.mp last).1, ?_⟩
  unfold settle
  split
  next g' found =>
    have inside := List.find?_some found
    have member : newest _ nonempty ∈ members c entryId r g' :=
      mem_members.mpr ⟨(mem_members.mp last).1, inside⟩
    have same := mergeable.group_unique ((complete g).mp known)
      ((complete g').mp (List.mem_of_find?_eq_some found)) last member
    subst same
    rw [mergeInto, dif_neg nonempty, if_pos rfl]
  next none =>
    exact absurd (mem_members.mp last).2 (List.find?_eq_none.mp none g known)

/-- A row that is left and was of a group stands for the group. -/
theorem Mergeable.eq_mergedEntry (mergeable : Mergeable c entryId r keys)
    (complete : Complete keys merged) (known : g ∈ merged) (member : e ∈ members c entryId r g)
    (left : x ∈ settled c entryId r merged) (same : x.id = e.id) :
    ∃ nonempty, x = mergedEntry (correctUid c g.2) (members c entryId r g) nonempty := by
  rcases mem_settled_cases left with ⟨here, outside⟩ | ⟨g', known', nonempty, rfl⟩
  · have equal := RegistryTable.eq_of_id here (mem_members.mp member).1 same
    exact absurd (equal ▸ member) (outside g known)
  · have last := newest_mem nonempty
    have equal : newest _ nonempty = e :=
      RegistryTable.eq_of_id (mem_members.mp last).1 (mem_members.mp member).1 same
    have group := mergeable.group_unique ((complete g).mp known) ((complete g').mp known') member
      (equal ▸ last)
    subst group
    exact ⟨nonempty, rfl⟩

/-! ### A further run -/

variable {t : RegistryTable}

/-- What is left of the registry can be merged again. -/
theorem Mergeable.again (mergeable : Mergeable c entryId r keys) (complete : Complete keys merged)
    (left : t.entries = settled c entryId r merged) : Mergeable c entryId t keys := by
  constructor
  · intro x here key known uid
    rw [left] at here
    rcases mem_settled_cases here with ⟨there, -⟩ | ⟨g, -, nonempty, rfl⟩
    · exact mergeable.own x there key known uid
    · exact (inGroup_iff.mp (inGroup_mergedEntry nonempty)).1
  · intro uid involved
    apply mergeable.single
    rcases involved with ⟨x, here, entry, domain, same⟩ | correct
    · rw [left] at here
      rcases mem_settled_cases here with ⟨there, -⟩ | ⟨g, known, nonempty, rfl⟩
      · exact .inl ⟨x, there, entry, domain, same⟩
      · exact .inr ⟨g.2, (mem_allGroups.mp ((complete g).mp known)).2, same.symm⟩
    · exact .inr correct

/-- After a run a group consists of the entity it was merged to. -/
theorem Mergeable.members_again (mergeable : Mergeable c entryId r keys)
    (complete : Complete keys merged) (left : t.entries = settled c entryId r merged)
    (known : g ∈ merged) (member : x ∈ members c entryId t g) :
    ∃ nonempty, x = mergedEntry (correctUid c g.2) (members c entryId r g) nonempty := by
  obtain ⟨here, inside⟩ := mem_members.mp member
  rw [left] at here
  rcases mem_settled_cases here with ⟨there, outside⟩ | ⟨g', known', nonempty, rfl⟩
  · exact absurd (mem_members.mpr ⟨there, inside⟩) (outside g known)
  · -- The correct id belongs to no other key.
    have keys' := mem_allGroups.mp ((complete g).mp known)
    have keys'' := mem_allGroups.mp ((complete g').mp known')
    obtain ⟨-, domain, belongs⟩ := inGroup_iff.mp inside
    obtain ⟨-, domain', belongs'⟩ := inGroup_iff.mp (inGroup_mergedEntry nonempty)
    have key := mergeable.single _ (.inr ⟨g'.2, keys''.2, rfl⟩) _ keys'.2 _ keys''.2 belongs belongs'
    have group : g = g' := Prod.ext (domain.symm.trans domain') key
    subst group
    exact ⟨nonempty, rfl⟩

theorem Mergeable.settled_again (mergeable : Mergeable c entryId r keys)
    (complete : Complete keys merged) (left : t.entries = settled c entryId r merged) :
    settled c entryId t merged = t.entries := by
  refine (List.filterMap_congr fun x here => ?_).trans List.filterMap_some
  unfold settle
  split
  next g found =>
    have known := List.mem_of_find?_eq_some found
    have inside := List.find?_some found
    have member : x ∈ members c entryId t g := mem_members.mpr ⟨here, inside⟩
    have nonempty : members c entryId t g ≠ [] := List.ne_nil_of_mem member
    -- The first and the last of the group are its only entity.
    have only (y : RegistryEntry) (other : y ∈ members c entryId t g) : y = x := by
      obtain ⟨_, same⟩ := mergeable.members_again complete left known other
      obtain ⟨_, same'⟩ := mergeable.members_again complete left known member
      rw [same, same']
    have uid : x.uniqueId = correctUid c g.2 := by
      obtain ⟨_, same⟩ := mergeable.members_again complete left known member
      rw [same, mergedEntry]
    rw [mergeInto, dif_neg nonempty, mergedEntry, only _ (newest_mem nonempty),
      only _ (oldest_mem nonempty), if_pos rfl, ← uid]
  next => rfl

/-! ### Ids that belong to one key -/

/-- What stands before the key in the text of a definition. -/
def dictMark : List Char := "'unique': '".toList

theorem brokenDictUniqueIdMatches_iff {uid key : String} :
    brokenDictUniqueIdMatches uid key = true ↔ dictMark ++ key.toList ++ [quote] <:+: uid.toList := by
  rw [brokenDictUniqueIdMatches, decide_eq_true_eq, String.toList_append, String.toList_append]
  rfl

theorem not_broken_of_quoteless {uid : String} (quoteless : quote ∉ uid.toList) (key : String) :
    ¬ brokenDictUniqueIdMatches uid key = true := by
  intro broken
  refine quoteless ((brokenDictUniqueIdMatches_iff.mp broken).subset ?_)
  simp

theorem quote_notMem_correctUid {config : Config} {key : String} (known : key ∈ dictKeys config)
    (owner : quote ∉ c.owner.toList) : quote ∉ (correctUid c key).toList := by
  have literals : quote ∉ "hh_modbus_control_".toList ∧ quote ∉ "_".toList := by decide
  have letters : (correctUid c key).toList =
      "hh_modbus_control_".toList ++ c.owner.toList ++ "_".toList ++ key.toList := by
    simp [correctUid, uniqueIdGenerator, idOf, domain]
  rw [letters]
  simp only [List.mem_append, not_or]
  exact ⟨⟨⟨literals.1, owner⟩, literals.2⟩, quote_notMem_dictKeys known⟩

/-- The text of one definition belongs to one key, and so does a correct id. -/
theorem mergeable_of_once {config : Config} (owner : quote ∉ c.owner.toList)
    (own : ∀ e ∈ r.entries, ∀ key ∈ dictKeys config, e.uniqueId = correctUid c key →
      e.configEntry = some entryId)
    (once : ∀ e ∈ r.entries, e.configEntry = some entryId → e.entityId.domain ∈ dictPlatforms →
      (behindMarks dictMark e.uniqueId.toList).length ≤ 1) :
    Mergeable c entryId r (dictKeys config) := by
  refine ⟨own, fun uid involved key known key' known' belongs belongs' => ?_⟩
  simp only [dictIdMatches, Bool.or_eq_true, decide_eq_true_eq] at belongs belongs'
  -- A correct id has no definition in it.
  have alone {k : String} (known : k ∈ dictKeys config) (correct : uid = correctUid c k)
      (k' : String) : ¬ brokenDictUniqueIdMatches uid k' = true :=
    not_broken_of_quoteless (correct ▸ quote_notMem_correctUid known owner) k'
  rcases belongs with correct | broken
  · rcases belongs' with correct' | broken'
    · exact correctUid_injective (correct.symm.trans correct')
    · exact absurd broken' (alone known correct key')
  · rcases belongs' with correct' | broken'
    · exact absurd broken (alone known' correct' key)
    · rcases involved with ⟨e, here, entry, domain, rfl⟩ | ⟨k, known'', correct⟩
      · have same := marked_once_inj (once e here entry domain) (quote_notMem_dictKeys known)
          (quote_notMem_dictKeys known') (brokenDictUniqueIdMatches_iff.mp broken)
          (brokenDictUniqueIdMatches_iff.mp broken')
        exact String.ext same
      · exact absurd broken (alone known'' correct key)

/-! ### The migration of an entry -/

/-- Of a group one entity is left, with this id and with the entity id of the oldest. -/
def LeavesOne (uid : String) (group entries : List RegistryEntry) : Prop :=
  ∃ oldest ∈ group, (∀ e ∈ group, entitySortKey oldest ≤ entitySortKey e) ∧
    ∃ kept ∈ group, ∀ x, x ∈ entries ∧ x.id ∈ group.map RegistryEntry.id ↔
      x = { kept with uniqueId := uid, entityId := oldest.entityId }

/-- The migration of the registry `r` ends with the registry `t`, as it is to. -/
structure Settlement (config : Config) (entryId : String) (r t : RegistryTable) : Prop where
  /-- Nothing is raised, and no update is rejected. -/
  run : asyncMigrateDictUniqueIds config entryId r = .ok ⟨t, []⟩
  leavesOne : ∀ platform ∈ dictPlatforms, ∀ key ∈ dictKeys config,
    members (migrationIds config) entryId r (platform, key) ≠ [] →
      LeavesOne (correctUid (migrationIds config) key)
        (members (migrationIds config) entryId r (platform, key)) t.entries
  untouched : ∀ e ∈ r.entries, (∀ platform ∈ dictPlatforms, ∀ key ∈ dictKeys config,
    e ∉ members (migrationIds config) entryId r (platform, key)) → e ∈ t.entries
  /-- No entity is made. -/
  known : ∀ x ∈ t.entries, ∃ e ∈ r.entries, x.id = e.id
  again : asyncMigrateDictUniqueIds config entryId t = .ok ⟨t, []⟩

theorem asyncMigrateDictUniqueIds_eq (config : Config) (entryId : String) (r : RegistryTable) :
    asyncMigrateDictUniqueIds config entryId r =
      migrateKeys (migrationIds config) entryId (dictKeys config) r := by
  unfold asyncMigrateDictUniqueIds dictKeys
  cases inverterConfigOf config with
  | none => rfl
  | some inverter => rfl

theorem Mergeable.leavesOne (mergeable : Mergeable c entryId r keys)
    (complete : Complete keys merged) (known : g ∈ merged) (nonempty : members c entryId r g ≠ []) :
    LeavesOne (correctUid c g.2) (members c entryId r g) (settled c entryId r merged) := by
  refine ⟨oldest _ nonempty, oldest_mem nonempty, fun e member => oldest_le nonempty member,
    newest _ nonempty, newest_mem nonempty, fun x => ?_⟩
  constructor
  · rintro ⟨left, kept⟩
    obtain ⟨e, member, same⟩ := List.mem_map.mp kept
    obtain ⟨_, row⟩ := mergeable.eq_mergedEntry complete known member left same.symm
    exact row
  · rintro rfl
    constructor
    · exact mergeable.mergedEntry_mem complete known nonempty
    · exact List.mem_map.mpr ⟨_, newest_mem nonempty, rfl⟩

theorem exists_settlement (config : Config) (entryId : String) (r : RegistryTable)
    (mergeable : Mergeable (migrationIds config) entryId r (dictKeys config)) :
    ∃ t, Settlement config entryId r t := by
  have nodup := dictKeys_nodup config
  have complete : Complete (dictKeys config) (allGroups (dictKeys config)).reverse :=
    fun g => List.mem_reverse
  obtain ⟨⟨t, _⟩, run, left, rfl⟩ := mergeable.migrateKeys_merges nodup
  have mergeable' := mergeable.again complete left
  obtain ⟨⟨u, _⟩, run', left', rfl⟩ := mergeable'.migrateKeys_merges nodup
  have same : u = t := RegistryTable.ext (left'.trans (mergeable.settled_again complete left))
  have group {platform key : String} (platforms : platform ∈ dictPlatforms)
      (known : key ∈ dictKeys config) : (platform, key) ∈ (allGroups (dictKeys config)).reverse :=
    (complete _).mpr (mem_allGroups.mpr ⟨platforms, known⟩)
  refine ⟨t, ?_, fun platform platforms key known nonempty => ?_, fun e here outside => ?_,
    fun x here => ?_, ?_⟩
  · rw [asyncMigrateDictUniqueIds_eq, run]
  · exact left ▸ mergeable.leavesOne complete (group platforms known) nonempty
  · refine left ▸ mem_settled.mpr ⟨e, here, settle_of_notMem (fun g known => ?_) here⟩
    obtain ⟨platforms, keys⟩ := mem_allGroups.mp ((complete g).mp known)
    exact outside g.1 platforms g.2 keys
  · rcases mem_settled_cases (left ▸ here) with ⟨there, -⟩ | ⟨g, -, nonempty, rfl⟩
    · exact ⟨x, there, rfl⟩
    · exact ⟨_, (mem_members.mp (newest_mem nonempty)).1, rfl⟩
  · rw [asyncMigrateDictUniqueIds_eq, run', same]

end Runs

/-! ### Registries that are settled, and that are not -/

/-- The entry of a grid inverter. -/
def gridConfig : Config :=
  Config.set (Config.set (fun _ => none) .model (.text "S5-GC")) .inverterSerial (.text "110CA")

/-- A sensor of the integration. -/
def sensorEntry (id : Nat) (objectId uniqueId : String) (configEntry : Option String)
    (createdAt : Option Int) : RegistryEntry where
  id
  entityId := ⟨"sensor", objectId⟩
  uniqueId
  platform := HHModbus.domain
  configEntry
  createdAt

/-- The sensor was created again when its definition got a data type. -/
def duplicated : RegistryTable where
  entries := [
    sensorEntry 1 "solis_model_2" (correctUid (migrationIds gridConfig)
        "\x7b'unique': 'solis_modbus_product_model', 'data_type': 'U16'\x7d")
      (some "entry") (some 1700000000),
    sensorEntry 2 "solis_model" (correctUid (migrationIds gridConfig)
        "\x7b'unique': 'solis_modbus_product_model'\x7d")
      (some "entry") (some 1690000000)]
  distinct := List.pairwise_pair.mpr ⟨by decide, by decide, by decide +kernel⟩

theorem duplicated_settlement : ∃ t, Settlement gridConfig "entry" duplicated t := by
  have own : ∀ e ∈ duplicated.entries, e.configEntry = some "entry" := by decide
  exact exists_settlement gridConfig "entry" duplicated (mergeable_of_once (by decide +kernel)
    (fun e here _ _ _ => own e here) (by decide +kernel))

/-- The correct ids are held by no entity of another entry. -/
def HeldByNoOther (config : Config) (entryId : String) (r : RegistryTable) : Prop :=
  ∀ e ∈ r.entries, ∀ key ∈ dictKeys config, e.uniqueId = correctUid (migrationIds config) key →
    ∀ other, e.configEntry = some other → other = entryId

/-- The id has the keys of two sensors in it. -/
def ambiguous : RegistryTable where
  entries := [sensorEntry 1 "solis_model"
    "'unique': 'solis_modbus_product_model' 'unique': 'solis_modbus_dsp_software_version'"
    (some "entry") none]
  distinct := List.pairwise_singleton _ _

/-- The correct id is held by an entity without an entry. -/
def orphaned : RegistryTable where
  entries := [
    sensorEntry 1 "solis_model" "'unique': 'solis_modbus_product_model'" (some "entry") none,
    sensorEntry 2 "solis_model_2"
      (correctUid (migrationIds gridConfig) "solis_modbus_product_model") none none]
  distinct := List.pairwise_pair.mpr ⟨by decide, by decide, by decide +kernel⟩

namespace Settlement

variable {config : Config} {entryId platform key key' : String} {r t : RegistryTable}
  {e : RegistryEntry}

/-- One entity alone cannot get two ids. -/
theorem key_unique (settlement : Settlement config entryId r t) (alone : r.entries = [e])
    (platforms : platform ∈ dictPlatforms) (known : key ∈ dictKeys config)
    (known' : key' ∈ dictKeys config)
    (member : e ∈ members (migrationIds config) entryId r (platform, key))
    (member' : e ∈ members (migrationIds config) entryId r (platform, key')) : key = key' := by
  obtain ⟨_, _, _, kept, inside, row⟩ :=
    settlement.leavesOne platform platforms key known (List.ne_nil_of_mem member)
  obtain ⟨_, _, _, kept', _, row'⟩ :=
    settlement.leavesOne platform platforms key' known' (List.ne_nil_of_mem member')
  have same : kept = e := by
    have here := (mem_members.mp inside).1
    rwa [alone, List.mem_singleton] at here
  have id : e.id = kept.id := by rw [same]
  have equal := (row' _).mp ⟨((row _).mpr rfl).1, List.mem_map.mpr ⟨e, member', id⟩⟩
  exact correctUid_injective (congrArg RegistryEntry.uniqueId equal)

/-- Where one integration has all the entities, an id that is given is free outside the entry. -/
theorem held_here (settlement : Settlement config entryId r t)
    (integration : ∀ a ∈ r.entries, ∀ b ∈ r.entries, a.platform = b.platform)
    (platforms : platform ∈ dictPlatforms) (known : key ∈ dictKeys config)
    (member : e ∈ members (migrationIds config) entryId r (platform, key)) {holder : RegistryEntry}
    (here : holder ∈ r.entries) (domain : holder.entityId.domain = platform)
    (untouched : holder ∈ t.entries) (uid : holder.uniqueId = correctUid (migrationIds config) key) :
    holder.configEntry = some entryId := by
  obtain ⟨oldest, first, _, kept, inside, row⟩ :=
    settlement.leavesOne platform platforms key known (List.ne_nil_of_mem member)
  obtain ⟨there, inside⟩ := mem_members.mp inside
  have same := RegistryTable.eq_of_slot untouched ((row _).mpr rfl).1 (by
    simp only [RegistryEntry.slot, Prod.mk.injEq]
    refine ⟨?_, integration _ here _ there, uid⟩
    rw [domain, (inGroup_iff.mp (mem_members.mp first).2).2.1])
  rw [same]
  exact (inGroup_iff.mp inside).1

end Settlement

theorem ambiguous_orphaned_not_settled :
    (HeldByNoOther gridConfig "entry" ambiguous ∧
      ¬ ∃ t, Settlement gridConfig "entry" ambiguous t) ∧
    HeldByNoOther gridConfig "entry" orphaned ∧
      ¬ ∃ t, Settlement gridConfig "entry" orphaned t := by
  have platforms : "sensor" ∈ dictPlatforms := by decide
  have model : "solis_modbus_product_model" ∈ dictKeys gridConfig := by decide +kernel
  have version : "solis_modbus_dsp_software_version" ∈ dictKeys gridConfig := by decide +kernel
  refine ⟨⟨?_, ?_⟩, ?_, ?_⟩
  · have entry : ∀ e ∈ ambiguous.entries, ∀ other, e.configEntry = some other → other = "entry" := by
      simp [ambiguous, sensorEntry]
    exact fun e here _ _ _ => entry e here
  · rintro ⟨t, settlement⟩
    have same := settlement.key_unique rfl platforms model version
      (mem_members.mpr ⟨List.mem_cons_self, by decide +kernel⟩)
      (mem_members.mpr ⟨List.mem_cons_self, by decide +kernel⟩)
    exact absurd same (by decide)
  · have entry : ∀ e ∈ orphaned.entries, ∀ other, e.configEntry = some other → other = "entry" := by
      simp [orphaned, sensorEntry]
    exact fun e here _ _ _ => entry e here
  · rintro ⟨t, settlement⟩
    have holder : sensorEntry 2 "solis_model_2" (correctUid (migrationIds gridConfig)
        "solis_modbus_product_model") none none ∈ orphaned.entries := by simp [orphaned]
    have untouched := settlement.untouched _ holder fun platform _ key _ member => by
      cases (inGroup_iff.mp (mem_members.mp member).2).1
    have held := settlement.held_here (by decide) platforms model
      (mem_members.mpr ⟨List.mem_cons_self, by decide +kernel⟩) holder rfl untouched rfl
    cases held

end DictMigration

end HHModbus
