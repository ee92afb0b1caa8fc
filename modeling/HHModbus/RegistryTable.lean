import Mathlib.Data.List.Nodup
import Mathlib.Data.List.Pairwise

/-!
# The entity registry, row by row

What a migration does to the registry of Home Assistant through entity ids: look up, remove, and
update with a new unique id and entity id.
-/
namespace HHModbus

structure EntityId where
  domain : String
  objectId : String
  deriving DecidableEq

def EntityId.text (e : EntityId) : String := e.domain ++ "." ++ e.objectId

structure RegistryEntry where
  /-- It stays the same when the entity is renamed. -/
  id : Nat
  entityId : EntityId
  uniqueId : String
  /-- The integration. -/
  platform : String
  configEntry : Option String
  createdAt : Option Int
  deriving DecidableEq

namespace RegistryEntry

/-- What the registry looks up unique ids by. -/
def slot (e : RegistryEntry) : String × String × String := (e.entityId.domain, e.platform, e.uniqueId)

structure Distinct (a b : RegistryEntry) : Prop where
  id : a.id ≠ b.id
  entityId : a.entityId ≠ b.entityId
  slot : a.slot ≠ b.slot

end RegistryEntry

/-- No two entities share an entity id, or a unique id of one domain and integration. -/
@[ext] structure RegistryTable where
  entries : List RegistryEntry
  distinct : entries.Pairwise RegistryEntry.Distinct

/-- How an operation of the registry fails. -/
inductive RegistryError where
  /-- There is no such entity. -/
  | keyError
  /-- Another entity holds the id. -/
  | valueError
  deriving DecidableEq, Repr

namespace RegistryTable

variable {r : RegistryTable}

theorem eq_of_entityId {a b : RegistryEntry} (first : a ∈ r.entries) (second : b ∈ r.entries)
    (same : a.entityId = b.entityId) : a = b := by
  have nodup : (r.entries.map RegistryEntry.entityId).Nodup :=
    List.pairwise_map.mpr (r.distinct.imp fun d => d.entityId)
  exact List.inj_on_of_nodup_map nodup first second same

theorem eq_of_id {a b : RegistryEntry} (first : a ∈ r.entries) (second : b ∈ r.entries)
    (same : a.id = b.id) : a = b := by
  have nodup : (r.entries.map RegistryEntry.id).Nodup :=
    List.pairwise_map.mpr (r.distinct.imp fun d => d.id)
  exact List.inj_on_of_nodup_map nodup first second same

theorem eq_of_slot {a b : RegistryEntry} (first : a ∈ r.entries) (second : b ∈ r.entries)
    (same : a.slot = b.slot) : a = b := by
  have nodup : (r.entries.map RegistryEntry.slot).Nodup :=
    List.pairwise_map.mpr (r.distinct.imp fun d => d.slot)
  exact List.inj_on_of_nodup_map nodup first second same

theorem nodup (r : RegistryTable) : r.entries.Nodup :=
  r.distinct.imp fun d same => d.id (congrArg RegistryEntry.id same)

/-! ### Operations -/

/-- `async_get`. -/
def asyncGet (r : RegistryTable) (entityId : EntityId) : Option RegistryEntry :=
  r.entries.find? fun e => e.entityId = entityId

theorem asyncGet_eq_some {e : RegistryEntry} (member : e ∈ r.entries) :
    r.asyncGet e.entityId = some e := by
  cases found : r.asyncGet e.entityId with
  | none =>
    have absent := List.find?_eq_none.mp found e member
    simp at absent
  | some other =>
    have same : other.entityId = e.entityId := by simpa using List.find?_some found
    rw [eq_of_entityId (List.mem_of_find?_eq_some found) member same]

/-- The table without an entity. -/
def without (r : RegistryTable) (entityId : EntityId) : RegistryTable where
  entries := r.entries.filter fun e => e.entityId ≠ entityId
  distinct := r.distinct.filter _

/-- `async_remove`; it raises where there is no such entity. -/
def asyncRemove (r : RegistryTable) (entityId : EntityId) : Except RegistryError RegistryTable :=
  if (r.asyncGet entityId).isSome then .ok (r.without entityId) else .error .keyError

/-- No other entity holds an id of the new row. -/
def Free (r : RegistryTable) (old new : RegistryEntry) : Prop :=
  ∀ e ∈ r.entries, e.entityId ≠ old.entityId → e.entityId ≠ new.entityId ∧ e.slot ≠ new.slot

instance (r : RegistryTable) (old new : RegistryEntry) : Decidable (r.Free old new) :=
  inferInstanceAs (Decidable (∀ e ∈ r.entries, _ → _))

/-- The table with the row of an entity replaced. -/
def replaced (r : RegistryTable) {old : RegistryEntry} (new : RegistryEntry)
    (member : old ∈ r.entries) (same : new.id = old.id) (free : r.Free old new) : RegistryTable where
  entries := r.entries.map fun e => if e.entityId = old.entityId then new else e
  distinct := by
    refine List.pairwise_map.mpr (r.distinct.imp_of_mem fun {a b} first second distinct => ?_)
    have apart (e : RegistryEntry) (here : e ∈ r.entries) (other : e.entityId ≠ old.entityId) :
        new.Distinct e := by
      obtain ⟨entityId, slot⟩ := free e here other
      refine ⟨fun equal => ?_, entityId.symm, slot.symm⟩
      exact other (congrArg _ (eq_of_id here member (equal.symm.trans same)))
    by_cases left : a.entityId = old.entityId
    · have right : b.entityId ≠ old.entityId := fun equal => distinct.entityId (left.trans equal.symm)
      rw [if_pos left, if_neg right]
      exact apart b second right
    · rw [if_neg left]
      by_cases right : b.entityId = old.entityId
      · rw [if_pos right]
        have other := apart a first left
        exact ⟨other.id.symm, other.entityId.symm, other.slot.symm⟩
      · rw [if_neg right]
        exact distinct

/-- The row that an update asks for. -/
def updatedEntry (old : RegistryEntry) (newUniqueId : String) (newEntityId : Option EntityId) :
    RegistryEntry :=
  { old with uniqueId := newUniqueId, entityId := newEntityId.getD old.entityId }

/-- `async_update_entity`. -/
def asyncUpdateEntity (r : RegistryTable) (entityId : EntityId) (newUniqueId : String)
    (newEntityId : Option EntityId) : Except RegistryError RegistryTable :=
  match found : r.asyncGet entityId with
  | none => .error .keyError
  | some old =>
    let new := updatedEntry old newUniqueId newEntityId
    if free : r.Free old new then
      .ok (r.replaced new (List.mem_of_find?_eq_some found) rfl free)
    else .error .valueError

theorem asyncUpdateEntity_ok {old : RegistryEntry} (member : old ∈ r.entries) {newUniqueId : String}
    {newEntityId : Option EntityId} (free : r.Free old (updatedEntry old newUniqueId newEntityId)) :
    ∃ t, r.asyncUpdateEntity old.entityId newUniqueId newEntityId = .ok t ∧
      t.entries = r.entries.map fun e =>
        if e.entityId = old.entityId then updatedEntry old newUniqueId newEntityId else e := by
  refine ⟨r.replaced (updatedEntry old newUniqueId newEntityId) member rfl free, ?_, rfl⟩
  unfold asyncUpdateEntity
  split
  next absent =>
    rw [asyncGet_eq_some member] at absent
    cases absent
  next other found =>
    rw [asyncGet_eq_some member] at found
    cases found
    rw [dif_pos free]

/-- Entities that are there can be removed one after the other. -/
theorem foldlM_asyncRemove {ghosts : List RegistryEntry} (nodup : ghosts.Nodup)
    (present : ∀ g ∈ ghosts, g ∈ r.entries) :
    ∃ t, ghosts.foldlM (fun r g => r.asyncRemove g.entityId) r = Except.ok t ∧
      t.entries = r.entries.filter fun e => e ∉ ghosts := by
  induction ghosts generalizing r with
  | nil => exact ⟨r, rfl, by simp⟩
  | cons g rest ih =>
    obtain ⟨fresh, nodup⟩ := List.nodup_cons.mp nodup
    have here : g ∈ r.entries := present g List.mem_cons_self
    have removed : r.asyncRemove g.entityId = .ok (r.without g.entityId) := by
      rw [asyncRemove, asyncGet_eq_some here]
      rfl
    have apart (e : RegistryEntry) (member : e ∈ r.entries) :
        e.entityId ≠ g.entityId ↔ e ≠ g :=
      ⟨fun other same => other (congrArg _ same), fun other same => other (eq_of_entityId member here same)⟩
    obtain ⟨t, run, entries⟩ := @ih (r.without g.entityId) nodup fun h later => by
      have there := present h (List.mem_cons_of_mem g later)
      have other : h ≠ g := by
        rintro rfl
        exact fresh later
      exact List.mem_filter.mpr ⟨there, by simpa using (apart h there).mpr other⟩
    refine ⟨t, ?_, ?_⟩
    · rw [List.foldlM_cons, removed]
      exact run
    · rw [entries]
      simp only [without, List.filter_filter]
      refine List.filter_congr fun e member => ?_
      rw [Bool.eq_iff_iff]
      simp only [Bool.and_eq_true, decide_eq_true_eq, List.mem_cons, not_or, apart e member]
      exact and_comm

end RegistryTable

end HHModbus
