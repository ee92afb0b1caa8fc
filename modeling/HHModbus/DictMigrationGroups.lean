import HHModbus.DictMigration

/-!
# The groups of entities that are merged

What the migration of the unique ids leaves of a registry, stated at once for all groups of entities
of one platform and key, and that each round of its loops merges one group.
-/
namespace HHModbus

/-! ### The first and the last of a group -/

section Sorting

variable {entries : List RegistryEntry} (nonempty : entries ≠ [])

theorem oldest_mem : oldest entries nonempty ∈ entries :=
  (sortEntries_perm entries).mem_iff.mp (List.head_mem _)

theorem newest_mem : newest entries nonempty ∈ entries :=
  (sortEntries_perm entries).mem_iff.mp (List.getLast_mem _)

theorem oldest_le {e : RegistryEntry} (member : e ∈ entries) :
    entitySortKey (oldest entries nonempty) ≤ entitySortKey e := by
  have sorted : (sortEntries entries).Pairwise fun a b => entitySortKey a ≤ entitySortKey b :=
    List.pairwise_insertionSort ..
  have inside := (sortEntries_perm entries).mem_iff.mpr member
  rw [← List.cons_head_tail (sortEntries_ne_nil nonempty)] at sorted inside
  rcases List.mem_cons.mp inside with first | later
  · rw [first]
    exact le_refl _
  · exact (List.pairwise_cons.mp sorted).1 e later

/-- All but the newest are removed. -/
theorem mem_ghosts_iff (nodup : entries.Nodup) (e : RegistryEntry) :
    e ∈ (sortEntries entries).dropLast ↔ e ∈ entries ∧ e ≠ newest entries nonempty := by
  have parts := List.dropLast_append_getLast (sortEntries_ne_nil nonempty)
  have apart : newest entries nonempty ∉ (sortEntries entries).dropLast := by
    have sorted := (sortEntries_perm entries).nodup_iff.mpr nodup
    rw [← parts] at sorted
    intro inside
    exact List.disjoint_of_nodup_append sorted inside (List.mem_singleton.mpr rfl)
  have split : e ∈ entries ↔ e ∈ (sortEntries entries).dropLast ∨ e = newest entries nonempty := by
    rw [← (sortEntries_perm entries).mem_iff, ← List.mem_singleton, ← List.mem_append, newest, parts]
  constructor
  · intro ghost
    refine ⟨split.mpr (.inl ghost), ?_⟩
    rintro rfl
    exact apart ghost
  · rintro ⟨member, other⟩
    exact (split.mp member).resolve_right other

theorem ghosts_nodup (nodup : entries.Nodup) : (sortEntries entries).dropLast.Nodup :=
  ((sortEntries_perm entries).nodup_iff.mpr nodup).sublist (List.dropLast_sublist _)

end Sorting

/-! ### What is left of a registry -/

namespace DictMigration

section Groups

variable (c : IdSource) (entryId : String)

/-- A platform and a key. -/
abbrev Group := String × String

/-- The id that the entity of a key gets. -/
def correctUid (key : String) : String := uniqueIdGenerator c key none

/-- The entity is one of the entry on the platform, and its id belongs to the key. -/
def inGroup (g : Group) (e : RegistryEntry) : Bool :=
  e.configEntry = some entryId && e.entityId.domain = g.1 && dictIdMatches c g.2 e.uniqueId

/-- The row that a group is merged to. -/
def mergedEntry (uid : String) (group : List RegistryEntry) (nonempty : group ≠ []) :
    RegistryEntry :=
  { newest group nonempty with
    uniqueId := uid
    entityId := (oldest group nonempty).entityId }

/-- What becomes of an entity of a group. -/
def mergeInto (uid : String) (group : List RegistryEntry) (e : RegistryEntry) :
    Option RegistryEntry :=
  if nonempty : group = [] then none
  else if e = newest group nonempty then some (mergedEntry uid group nonempty)
  else none

variable (r : RegistryTable)

def members (g : Group) : List RegistryEntry := r.entries.filter (inGroup c entryId g)

/-- What becomes of an entity when the groups have been merged. -/
def settle (merged : List Group) (e : RegistryEntry) : Option RegistryEntry :=
  match merged.find? fun g => inGroup c entryId g e with
  | some g => mergeInto (correctUid c g.2) (members c entryId r g) e
  | none => some e

/-- The registry with the groups merged. -/
def settled (merged : List Group) : List RegistryEntry := r.entries.filterMap (settle c entryId r merged)

/-- The ids that an entity of the entry may have, now or after the migration. -/
def Involved (keys : List String) (uid : String) : Prop :=
  (∃ e ∈ r.entries, e.configEntry = some entryId ∧ e.entityId.domain ∈ dictPlatforms ∧
    e.uniqueId = uid) ∨ ∃ key ∈ keys, uid = correctUid c key

/-- What the migration needs of the registry. -/
structure Mergeable (keys : List String) : Prop where
  /-- The correct ids are not held outside the entry. -/
  own : ∀ e ∈ r.entries, ∀ key ∈ keys, e.uniqueId = correctUid c key → e.configEntry = some entryId
  /-- No id belongs to two keys. -/
  single : ∀ uid, Involved c entryId r keys uid → ∀ key ∈ keys, ∀ key' ∈ keys,
    dictIdMatches c key uid = true → dictIdMatches c key' uid = true → key = key'

/-- The groups that the loops go through. -/
def allGroups (keys : List String) : List Group :=
  dictPlatforms.flatMap fun platform => keys.map fun key => (platform, key)

variable {c entryId r}

theorem inGroup_iff {g : Group} {e : RegistryEntry} : inGroup c entryId g e = true ↔
    e.configEntry = some entryId ∧ e.entityId.domain = g.1 ∧
      dictIdMatches c g.2 e.uniqueId = true := by
  simp only [inGroup, Bool.and_eq_true, decide_eq_true_eq, and_assoc]

theorem mem_members {g : Group} {e : RegistryEntry} :
    e ∈ members c entryId r g ↔ e ∈ r.entries ∧ inGroup c entryId g e = true := List.mem_filter

theorem mem_allGroups {keys : List String} {g : Group} :
    g ∈ allGroups keys ↔ g.1 ∈ dictPlatforms ∧ g.2 ∈ keys := by
  obtain ⟨platform, key⟩ := g
  simp [allGroups]

theorem correctUid_injective : Function.Injective (correctUid c) := by
  intro key key' same
  have letters := congrArg String.toList same
  simp only [correctUid, uniqueIdGenerator, idOf, String.toList_append, List.append_cancel_left_eq]
    at letters
  exact String.ext letters

theorem dictIdMatches_correct (key : String) : dictIdMatches c key (correctUid c key) = true := by
  simp [dictIdMatches, correctUid]

section Settling

variable {keys : List String} {g : Group} {merged : List Group} {e : RegistryEntry}

theorem Mergeable.group_unique (mergeable : Mergeable c entryId r keys) {g' : Group}
    (known : g ∈ allGroups keys) (known' : g' ∈ allGroups keys) (member : e ∈ members c entryId r g)
    (member' : e ∈ members c entryId r g') : g = g' := by
  obtain ⟨here, inside⟩ := mem_members.mp member
  obtain ⟨entry, domain, belongs⟩ := inGroup_iff.mp inside
  obtain ⟨-, domain', belongs'⟩ := inGroup_iff.mp (mem_members.mp member').2
  have involved : Involved c entryId r keys e.uniqueId :=
    .inl ⟨e, here, entry, domain ▸ (mem_allGroups.mp known).1, rfl⟩
  exact Prod.ext (domain.symm.trans domain') (mergeable.single _ involved _ (mem_allGroups.mp known).2
    _ (mem_allGroups.mp known').2 belongs belongs')

theorem settle_of_notMem (outside : ∀ g ∈ merged, e ∉ members c entryId r g) (here : e ∈ r.entries) :
    settle c entryId r merged e = some e := by
  have none : (merged.find? fun g => inGroup c entryId g e) = none :=
    List.find?_eq_none.mpr fun g known inside => outside g known (mem_members.mpr ⟨here, inside⟩)
  rw [settle, none]

theorem settle_cons_of_mem (member : e ∈ members c entryId r g) :
    settle c entryId r (g :: merged) e =
      mergeInto (correctUid c g.2) (members c entryId r g) e := by
  rw [settle, List.find?_cons, (mem_members.mp member).2]

theorem settle_cons_of_notMem (here : e ∈ r.entries) (outside : e ∉ members c entryId r g) :
    settle c entryId r (g :: merged) e = settle c entryId r merged e := by
  have other : inGroup c entryId g e = false := by
    rw [← Bool.not_eq_true]
    exact fun inside => outside (mem_members.mpr ⟨here, inside⟩)
  rw [settle, List.find?_cons, other, settle]

theorem mergeInto_eq_some {uid : String} {group : List RegistryEntry} {x : RegistryEntry}
    (kept : mergeInto uid group e = some x) :
    ∃ nonempty, e = newest group nonempty ∧ x = mergedEntry uid group nonempty := by
  unfold mergeInto at kept
  split at kept
  next => cases kept
  next nonempty =>
    split at kept
    next last => exact ⟨nonempty, last, (Option.some.inj kept).symm⟩
    next => cases kept

/-- A row that is left was there before, in no group, or stands for a group. -/
theorem settle_cases {x : RegistryEntry}
    (left : settle c entryId r merged e = some x) :
    (x = e ∧ ∀ g ∈ merged, e ∉ members c entryId r g) ∨
      ∃ g ∈ merged, ∃ nonempty, e = newest (members c entryId r g) nonempty ∧
        x = mergedEntry (correctUid c g.2) (members c entryId r g) nonempty := by
  unfold settle at left
  split at left
  next g found =>
    obtain ⟨nonempty, last, row⟩ := mergeInto_eq_some left
    exact .inr ⟨g, List.mem_of_find?_eq_some found, nonempty, last, row⟩
  next none =>
    refine .inl ⟨(Option.some.inj left).symm, fun g known member => ?_⟩
    exact List.find?_eq_none.mp none g known (mem_members.mp member).2

theorem mem_settled {x : RegistryEntry} : x ∈ settled c entryId r merged ↔
    ∃ e ∈ r.entries, settle c entryId r merged e = some x := List.mem_filterMap

theorem mem_settled_cases {x : RegistryEntry} (left : x ∈ settled c entryId r merged) :
    (x ∈ r.entries ∧ ∀ g ∈ merged, x ∉ members c entryId r g) ∨
      ∃ g ∈ merged, ∃ nonempty,
        x = mergedEntry (correctUid c g.2) (members c entryId r g) nonempty := by
  obtain ⟨source, here, settles⟩ := mem_settled.mp left
  rcases settle_cases settles with ⟨rfl, outside⟩ | ⟨g, known, nonempty, -, row⟩
  · exact .inl ⟨here, outside⟩
  · exact .inr ⟨g, known, nonempty, row⟩

/-- A group that has not been merged still has its entity ids to itself. -/
theorem Mergeable.source_eq (mergeable : Mergeable c entryId r keys) (known : g ∈ allGroups keys)
    (all : ∀ g ∈ merged, g ∈ allGroups keys) (fresh : g ∉ merged)
    (member : e ∈ members c entryId r g) {source x : RegistryEntry} (here : source ∈ r.entries)
    (left : settle c entryId r merged source = some x) (same : x.entityId = e.entityId) :
    source = e ∧ x = e := by
  rcases settle_cases left with ⟨rfl, -⟩ | ⟨g', merged', nonempty, -, rfl⟩
  · have equal := RegistryTable.eq_of_entityId here (mem_members.mp member).1 same
    exact ⟨equal, equal⟩
  · -- The row of another group has an entity id of that group.
    have first := oldest_mem nonempty
    have equal : oldest (members c entryId r g') nonempty = e :=
      RegistryTable.eq_of_entityId (mem_members.mp first).1 (mem_members.mp member).1 same
    have group := mergeable.group_unique known (all g' merged') member (equal ▸ first)
    exact absurd (group ▸ merged') fresh

theorem Mergeable.mem_settled_of_fresh (mergeable : Mergeable c entryId r keys)
    (known : g ∈ allGroups keys) (all : ∀ g ∈ merged, g ∈ allGroups keys) (fresh : g ∉ merged)
    (member : e ∈ members c entryId r g) : e ∈ settled c entryId r merged := by
  refine mem_settled.mpr ⟨e, (mem_members.mp member).1, settle_of_notMem (fun g' merged' other => ?_)
    (mem_members.mp member).1⟩
  have group := mergeable.group_unique known (all g' merged') member other
  exact fresh (group ▸ merged')

theorem members_nodup (c : IdSource) (entryId : String) (r : RegistryTable) (g : Group) :
    (members c entryId r g).Nodup := r.nodup.filter _

/-- Merging a group leaves out the ghosts and gives the newest its new row. -/
theorem Mergeable.settled_cons (mergeable : Mergeable c entryId r keys) (known : g ∈ allGroups keys)
    (all : ∀ g ∈ merged, g ∈ allGroups keys) (fresh : g ∉ merged)
    (nonempty : members c entryId r g ≠ []) :
    settled c entryId r (g :: merged) =
      ((settled c entryId r merged).filter fun x =>
        x ∉ (sortEntries (members c entryId r g)).dropLast).map fun x =>
          if x.entityId = (newest (members c entryId r g) nonempty).entityId then
            mergedEntry (correctUid c g.2) (members c entryId r g) nonempty
          else x := by
  rw [settled, settled, List.filter_filterMap, List.map_filterMap]
  refine List.filterMap_congr fun e here => ?_
  have ghosts := mem_ghosts_iff nonempty (members_nodup c entryId r g)
  by_cases member : e ∈ members c entryId r g
  · have kept : settle c entryId r merged e = some e :=
      settle_of_notMem (fun g' merged' other => fresh
        (mergeable.group_unique known (all g' merged') member other ▸ merged')) here
    rw [settle_cons_of_mem member, kept, mergeInto, dif_neg nonempty]
    by_cases last : e = newest (members c entryId r g) nonempty
    · have stays : e ∉ (sortEntries (members c entryId r g)).dropLast :=
        fun ghost => ((ghosts e).mp ghost).2 last
      rw [if_pos last, Option.filter_some, if_pos (by simpa using stays), Option.map_some,
        if_pos (congrArg _ last)]
    · have ghost := (ghosts e).mpr ⟨member, last⟩
      rw [if_neg last, Option.filter_some, if_neg (by simpa using ghost), Option.map_none]
  · rw [settle_cons_of_notMem here member]
    cases left : settle c entryId r merged e with
    | none => rfl
    | some x =>
      -- The row is none of the group.
      have apart (m : RegistryEntry) (inside : m ∈ members c entryId r g) :
          x.entityId ≠ m.entityId := by
        intro same
        have source := (mergeable.source_eq known all fresh inside here left same).1
        exact member (source ▸ inside)
      have stays : x ∉ (sortEntries (members c entryId r g)).dropLast :=
        fun ghost => apart x ((ghosts x).mp ghost).1 rfl
      rw [Option.filter_some, if_pos (by simpa using stays), Option.map_some,
        if_neg (apart _ (newest_mem nonempty))]

/-- Once the ghosts are gone, no other row holds an id of the merged one. -/
theorem Mergeable.free (mergeable : Mergeable c entryId r keys) (known : g ∈ allGroups keys)
    (all : ∀ g ∈ merged, g ∈ allGroups keys) (fresh : g ∉ merged)
    (nonempty : members c entryId r g ≠ []) {x : RegistryEntry}
    (there : x ∈ settled c entryId r merged)
    (stays : x ∉ (sortEntries (members c entryId r g)).dropLast)
    (other : x.entityId ≠ (newest (members c entryId r g) nonempty).entityId) :
    x.entityId ≠ (oldest (members c entryId r g) nonempty).entityId ∧
      x.slot ≠ (mergedEntry (correctUid c g.2) (members c entryId r g) nonempty).slot := by
  obtain ⟨source, here, left⟩ := mem_settled.mp there
  -- It is no entity of the group.
  have apart : x ∉ members c entryId r g := by
    intro member
    apply stays
    apply (mem_ghosts_iff nonempty (members_nodup c entryId r g) x).mpr
    constructor
    · exact member
    · rintro rfl
      exact other rfl
  constructor
  · intro same
    have equal := (mergeable.source_eq known all fresh (oldest_mem nonempty) here left same).2
    exact apart (equal ▸ oldest_mem nonempty)
  · intro same
    obtain ⟨domain, -, uid⟩ : x.entityId.domain =
          (oldest (members c entryId r g) nonempty).entityId.domain ∧
        x.platform = (newest (members c entryId r g) nonempty).platform ∧
        x.uniqueId = correctUid c g.2 := by
      simpa [RegistryEntry.slot, mergedEntry] using same
    have platform {g' : Group} (nonempty' : members c entryId r g' ≠ []) :
        (oldest (members c entryId r g') nonempty').entityId.domain = g'.1 :=
      (inGroup_iff.mp (mem_members.mp (oldest_mem nonempty')).2).2.1
    rw [platform] at domain
    rcases mem_settled_cases there with ⟨here, -⟩ | ⟨g', merged', nonempty', rfl⟩
    · have entry := mergeable.own x here g.2 (mem_allGroups.mp known).2 uid
      refine apart (mem_members.mpr ⟨here, inGroup_iff.mpr ⟨entry, domain, ?_⟩⟩)
      rw [uid]
      exact dictIdMatches_correct g.2
    · -- Another merged group has another platform or another key.
      have keys' : g'.2 = g.2 := correctUid_injective uid
      have platforms : g'.1 = g.1 := (platform nonempty').symm.trans domain
      exact fresh (Prod.ext platforms keys' ▸ merged')

/-! ### A round of the loops -/

/-- What the rounds have done so far: the groups are merged, and no update has been rejected. -/
structure Merged (c : IdSource) (entryId : String) (r : RegistryTable) (merged : List Group)
    (s : DictMigration) : Prop where
  entries : s.registry.entries = settled c entryId r merged
  rejected : s.rejected = []

theorem found_eq (g : Group) : (entriesOn r entryId g.1).filter
    (fun e => dictIdMatches c g.2 e.uniqueId) = members c entryId r g := by
  rw [entriesOn, List.filter_filter, members]
  refine List.filter_congr fun e _ => ?_
  simp only [inGroup, Bool.and_comm]

/-- The row that the newest is updated to is the merged one. -/
theorem updatedEntry_newest (uid : String) {group : List RegistryEntry} (nonempty : group ≠ []) :
    RegistryTable.updatedEntry (newest group nonempty) uid
        (if (newest group nonempty).entityId ≠ (oldest group nonempty).entityId then
          some (oldest group nonempty).entityId else none) =
      mergedEntry uid group nonempty := by
  unfold RegistryTable.updatedEntry mergedEntry
  split
  next => rfl
  next same => rw [Option.getD_none, not_not.mp same]

/-- The update of the newest, on a registry without the ghosts. -/
theorem Mergeable.update_newest (mergeable : Mergeable c entryId r keys)
    (known : g ∈ allGroups keys) (all : ∀ g ∈ merged, g ∈ allGroups keys) (fresh : g ∉ merged)
    (nonempty : members c entryId r g ≠ []) {s : DictMigration} (accepted : s.rejected = [])
    (entries : s.registry.entries = (settled c entryId r merged).filter fun x =>
      x ∉ (sortEntries (members c entryId r g)).dropLast) {newEntityId : Option EntityId}
    (row : RegistryTable.updatedEntry (newest (members c entryId r g) nonempty) (correctUid c g.2)
      newEntityId = mergedEntry (correctUid c g.2) (members c entryId r g) nonempty) :
    ∃ t, s.update (newest (members c entryId r g) nonempty).entityId (correctUid c g.2) newEntityId =
      .ok t ∧ Merged c entryId r (g :: merged) t := by
  have last := newest_mem nonempty
  have member : newest (members c entryId r g) nonempty ∈ s.registry.entries := by
    rw [entries]
    refine List.mem_filter.mpr ⟨mergeable.mem_settled_of_fresh known all fresh last, ?_⟩
    have stays : newest (members c entryId r g) nonempty ∉
        (sortEntries (members c entryId r g)).dropLast :=
      fun ghost => ((mem_ghosts_iff nonempty (members_nodup c entryId r g) _).mp ghost).2 rfl
    simpa using stays
  have free : s.registry.Free (newest (members c entryId r g) nonempty)
      (RegistryTable.updatedEntry (newest (members c entryId r g) nonempty) (correctUid c g.2)
        newEntityId) := by
    rw [row]
    intro x here other
    rw [entries] at here
    obtain ⟨there, stays⟩ := List.mem_filter.mp here
    exact mergeable.free known all fresh nonempty there (by simpa using stays) other
  obtain ⟨registry, updated, rows⟩ := RegistryTable.asyncUpdateEntity_ok member free
  refine ⟨⟨registry, s.rejected⟩, by rw [update, updated], ?_, accepted⟩
  rw [rows, row, entries]
  exact (mergeable.settled_cons known all fresh nonempty).symm

theorem Mergeable.present (mergeable : Mergeable c entryId r keys) (known : g ∈ allGroups keys)
    (all : ∀ g ∈ merged, g ∈ allGroups keys) (fresh : g ∉ merged) {s : DictMigration}
    (now : Merged c entryId r merged s) (member : e ∈ members c entryId r g) :
    e ∈ s.registry.entries := by
  rw [now.entries]
  exact mergeable.mem_settled_of_fresh known all fresh member

/-- A group of one entity has no ghosts, so at most its unique id changes. -/
theorem Mergeable.sole_merges (mergeable : Mergeable c entryId r keys) (known : g ∈ allGroups keys)
    (all : ∀ g ∈ merged, g ∈ allGroups keys) (fresh : g ∉ merged) {s : DictMigration}
    (now : Merged c entryId r merged s) (nonempty : members c entryId r g ≠ [])
    (sole : (members c entryId r g).length = 1) :
    ∃ t, (if ((members c entryId r g).head nonempty).uniqueId ≠ correctUid c g.2 then
        s.update ((members c entryId r g).head nonempty).entityId (correctUid c g.2) none
      else .ok s) = .ok t ∧ Merged c entryId r (g :: merged) t := by
  have only (a b : RegistryEntry) (first : a ∈ members c entryId r g)
      (second : b ∈ members c entryId r g) : a = b := by
    obtain ⟨m, single⟩ := List.length_eq_one_iff.mp sole
    rw [single, List.mem_singleton] at first second
    rw [first, second]
  have last := newest_mem nonempty
  have head := only _ _ (List.head_mem nonempty) last
  have same := only _ _ last (oldest_mem nonempty)
  have entries : s.registry.entries = (settled c entryId r merged).filter fun x =>
      x ∉ (sortEntries (members c entryId r g)).dropLast := by
    rw [now.entries]
    refine (List.filter_eq_self.mpr fun x _ => ?_).symm
    have stays : x ∉ (sortEntries (members c entryId r g)).dropLast := by
      intro ghost
      obtain ⟨member, other⟩ := (mem_ghosts_iff nonempty (members_nodup c entryId r g) x).mp ghost
      exact other (only x _ member last)
    simpa using stays
  rw [head]
  split
  next outdated =>
    refine mergeable.update_newest known all fresh nonempty now.rejected entries ?_
    rw [RegistryTable.updatedEntry, mergedEntry, ← same]
    rfl
  next current =>
    -- The row is the merged one already.
    refine ⟨s, rfl, ?_, now.rejected⟩
    have row : mergedEntry (correctUid c g.2) (members c entryId r g) nonempty =
        newest (members c entryId r g) nonempty := by
      rw [mergedEntry, ← same, ← not_not.mp current]
    rw [mergeable.settled_cons known all fresh nonempty, ← entries, row]
    refine (List.map_id _).symm.trans (List.map_congr_left fun x here => ?_)
    split
    next equal =>
      exact RegistryTable.eq_of_entityId here (mergeable.present known all fresh now last) equal
    next => rfl

/-- Of several entities the ghosts are removed, which frees what the newest is given. -/
theorem Mergeable.several_merges (mergeable : Mergeable c entryId r keys)
    (known : g ∈ allGroups keys) (all : ∀ g ∈ merged, g ∈ allGroups keys) (fresh : g ∉ merged)
    {s : DictMigration} (now : Merged c entryId r merged s)
    (nonempty : members c entryId r g ≠ []) {newEntityId : Option EntityId}
    (row : RegistryTable.updatedEntry (newest (members c entryId r g) nonempty) (correctUid c g.2)
      newEntityId = mergedEntry (correctUid c g.2) (members c entryId r g) nonempty) :
    ∃ t u, (sortEntries (members c entryId r g)).dropLast.foldlM
        (fun r ghost => r.asyncRemove ghost.entityId) s.registry = .ok t ∧
      { s with registry := t }.update (newest (members c entryId r g) nonempty).entityId
        (correctUid c g.2) newEntityId = .ok u ∧
      Merged c entryId r (g :: merged) u := by
  have nodup := members_nodup c entryId r g
  obtain ⟨t, removed, entries⟩ := RegistryTable.foldlM_asyncRemove (ghosts_nodup nodup)
    fun e ghost => mergeable.present known all fresh now ((mem_ghosts_iff nonempty nodup e).mp ghost).1
  rw [now.entries] at entries
  obtain ⟨u, updated, done⟩ := mergeable.update_newest known all fresh nonempty
    (s := { s with registry := t }) now.rejected entries row
  exact ⟨t, u, removed, updated, done⟩

theorem Mergeable.migrateKey_merges (mergeable : Mergeable c entryId r keys)
    (known : g ∈ allGroups keys) (all : ∀ g ∈ merged, g ∈ allGroups keys) (fresh : g ∉ merged)
    {s : DictMigration} (now : Merged c entryId r merged s) :
    ∃ t, migrateKey c (entriesOn r entryId g.1) s g.2 = .ok t ∧
      Merged c entryId r (g :: merged) t := by
  have live : (members c entryId r g).filter
      (fun e => (s.registry.asyncGet e.entityId).isSome) = members c entryId r g := by
    refine List.filter_eq_self.mpr fun e member => ?_
    rw [RegistryTable.asyncGet_eq_some (mergeable.present known all fresh now member)]
    rfl
  unfold migrateKey
  simp only [found_eq, live]
  split
  next empty =>
    refine ⟨s, rfl, ?_, now.rejected⟩
    rw [now.entries]
    refine List.filterMap_congr fun e here => (settle_cons_of_notMem here ?_).symm
    rw [empty]
    exact List.not_mem_nil
  next nonempty =>
    split
    next sole => exact mergeable.sole_merges known all fresh now nonempty sole
    next several =>
      obtain ⟨t, u, removed, updated, done⟩ := mergeable.several_merges known all fresh now nonempty
        (updatedEntry_newest (correctUid c g.2) nonempty)
      refine ⟨u, ?_, done⟩
      rw [removed]
      exact updated

end Settling

end Groups

end DictMigration

end HHModbus
